import DotmacErp.Consolidation.PointInTime
import DotmacErp.Foundation.Paths
import DotmacErp.Foundation.System

/-!
# Effective ownership along paths

The current interests of a group are the edges of a graph from owners to what they own. What a
parent owns of an entity is the sum over the paths to it, of the percentages along each path,
multiplied step by step and rounded (`pathShares`).

The service keeps one owner for each entity, multiplies from the entity up, and writes what an
interest comes to only when it is recorded. That gives the sums over paths in every run in which
no entity gets a second owner, no entity that owns others changes its share, an entity without a
parent has no owner, and the products are rounded alike from either end
(`sharesArePathSums_of_reachable`).
-/

namespace DotmacErp.Consolidation

open Relational Session Table Rounding Paths OwnershipService

/-! ### The graph of the current interests -/

def owner (r : Stored OwnershipInterest) : UUID := r.row.investorEntityId

def owned (r : Stored OwnershipInterest) : UUID := r.row.investeeEntityId

def percentage (r : Stored OwnershipInterest) : ℚ := r.row.ownershipPercentage

def currentInterests (s : OwnershipStore) : List (Stored OwnershipInterest) := interestsAsOf s none

def along (percentages : List ℚ) : ℚ := percentages.foldl ofPercentage 100

def shareAlong (path : List (Stored OwnershipInterest)) : ℚ := along (path.map percentage)

def pathsBetween (s : OwnershipStore) (parent entity : UUID) :
    List (List (Stored OwnershipInterest)) :=
  pathsTo owner owned (currentInterests s) parent (currentInterests s).length entity

def pathShares (s : OwnershipStore) (parent entity : UUID) : ℚ :=
  ((pathsBetween s parent entity).map shareAlong).sum

def pathSharesThrough (s : OwnershipStore) (parent : UUID) (r : Stored OwnershipInterest) : ℚ :=
  ((pathsBetween s parent (owner r)).map fun path => shareAlong (path ++ [r])).sum

def Reaches (s : OwnershipStore) (parent entity : UUID) : Prop :=
  ∃ path, IsPath owner owned (currentInterests s) parent entity path

def IsTop (s : OwnershipStore) (entity : UUID) : Prop := IsRoot owned (currentInterests s) entity

instance (s : OwnershipStore) (entity : UUID) : Decidable (IsTop s entity) :=
  inferInstanceAs (Decidable (∀ r ∈ currentInterests s, owned r ≠ entity))

/-- The effective ownership is the sum over the paths: the one that is calculated for the entities a
parent reaches, and the one that is stored with the current interests. -/
structure SharesArePathSums (s : OwnershipStore) : Prop where
  calculated : ∀ groupId parent, IsTop s parent →
    ∀ result ∈ calculateEffectiveOwnership s groupId none, Reaches s parent result.entityId →
      result.effectiveOwnership = pathShares s parent result.entityId
  stored : ∀ parent, IsTop s parent → ∀ r ∈ currentInterests s, Reaches s parent (owned r) →
    r.row.effectiveOwnershipPercentage = pathSharesThrough s parent r

/-! ### Steps that keep the sums -/

def shareOf (s : OwnershipStore) (entity : UUID) : ℚ :=
  match (currentInterests s).find? fun r => decide (owned r = entity) with
  | some r => r.row.effectiveOwnershipPercentage
  | none => 100

/-- An interest that can be recorded and leaves the sums right: nobody else owns the entity; the
entity owns nothing, or its percentage stays; an owner without a parent is not owned; and neither
the column of the percentage nor the order of the products changes what is rounded. -/
structure KeepsShares (s : OwnershipStore) (input : OwnershipInput) : Prop where
  oneOwner : ∀ r ∈ currentInterests s, owned r = input.investeeEntityId →
    owner r = input.investorEntityId
  unchanged : (∀ r ∈ currentInterests s, owner r ≠ input.investeeEntityId) ∨
    ∃ r ∈ currentInterests s, input.IsOf r.row ∧
      percentage r = percentageColumn input.ownershipPercentage
  top : ∀ e, s.entities.get? input.investorEntityId = some e → e.parentEntityId = none →
    IsTop s input.investorEntityId
  rounded : ofPercentage (shareOf s input.investorEntityId) input.ownershipPercentage =
    ofPercentage (shareOf s input.investorEntityId) (percentageColumn input.ownershipPercentage)
  inOrder : ∀ parent path, IsTop s parent →
    IsPath owner owned (currentInterests s) parent input.investorEntityId path →
    along (path.map percentage ++ [percentageColumn input.ownershipPercentage]).reverse =
      along (path.map percentage ++ [percentageColumn input.ownershipPercentage])

/-- The calls that record interests, in any order: each step names the interest it records. -/
def ownershipSystem : System OwnershipStore OwnershipInput where
  init s := s.interests = Table.empty
  step s input s' := ∃ groupId k, createOwnership groupId input s = .ok k s' ∨
    ∃ interestId existing newPercentage newVotingRights effectiveDate,
      s.interests.get? interestId = some existing ∧
      updateOwnershipPercentage groupId interestId newPercentage newVotingRights effectiveDate s =
        .ok k s' ∧
      input = changeInput existing newPercentage newVotingRights effectiveDate

/-! ### What the current interests are after a step -/

variable {s s' : OwnershipStore} {input : OwnershipInput} {parent entity : UUID}
  {r : Stored OwnershipInterest} {path : List (Stored OwnershipInterest)}

theorem mem_currentInterests : r ∈ currentInterests s ↔
    s.interests.get? r.id = some r.row ∧ r.row.isCurrent = true := by
  rw [currentInterests, interestsAsOf, mem_select]
  simp

def newRow (s : OwnershipStore) (input : OwnershipInput) : Stored OwnershipInterest :=
  ⟨s.interests.next, recordedInterest s input⟩

theorem mem_currentInterests_record (hone : OneCurrent s.interests) :
    r ∈ currentInterests (record s input) ↔
      (r ∈ currentInterests s ∧ ¬ input.IsOf r.row) ∨ r = newRow s input := by
  rw [mem_currentInterests, mem_currentInterests]
  constructor
  · rintro ⟨hget, hcurrent⟩
    rcases get?_record_current hone hget hcurrent with ⟨hid, hrow⟩ | ⟨hget, hnot⟩
    · exact Or.inr (by rw [newRow, ← hid, ← hrow])
    · exact Or.inl ⟨⟨hget, hcurrent⟩, hnot⟩
  · rintro (⟨⟨hget, hcurrent⟩, hnot⟩ | rfl)
    · exact ⟨get?_record_of_kept hget fun _ => hnot, hcurrent⟩
    · exact ⟨get?_record_next, rfl⟩

theorem newRow_mem (hone : OneCurrent s.interests) :
    newRow s input ∈ currentInterests (record s input) :=
  (mem_currentInterests_record hone).mpr (Or.inr rfl)

/-! ### Shares in a forest -/

/-- What is known of the current interests: each entity has one owner at most, the graph has no
cycles, each interest stores its percentage of the share of its owner, and along no path does the
order of the products matter. -/
structure Shares (s : OwnershipStore) : Prop where
  one : OneCurrent s.interests
  forest : IsForest owned (currentInterests s)
  acyclic : Acyclic owner owned (currentInterests s)
  share : ∀ r ∈ currentInterests s,
    r.row.effectiveOwnershipPercentage = ofPercentage (shareOf s (owner r)) (percentage r)
  inOrder : ∀ parent entity path, IsTop s parent →
    IsPath owner owned (currentInterests s) parent entity path →
    along (path.map percentage).reverse = along (path.map percentage)

theorem shareOf_of_isTop (h : IsTop s entity) : shareOf s entity = 100 := by
  have hnone : (currentInterests s).find? (fun r => decide (owned r = entity)) = none := by
    rw [List.find?_eq_none]
    intro r hr hsame
    exact h r hr (of_decide_eq_true hsame)
  rw [shareOf, hnone]

theorem shareOf_of_mem (h : IsForest owned (currentInterests s)) (hr : r ∈ currentInterests s) :
    shareOf s (owned r) = r.row.effectiveOwnershipPercentage := by
  have hfound : (currentInterests s).find? (fun r' => decide (owned r' = owned r)) = some r := by
    rw [← List.head?_filter, h.filter_eq hr, List.head?_cons]
  rw [shareOf, hfound]

theorem pathsBetween_eq (h : Shares s) (htop : IsTop s parent)
    (hpath : IsPath owner owned (currentInterests s) parent entity path) :
    pathsBetween s parent entity = [path] :=
  pathsTo_eq_singleton h.forest htop hpath (hpath.length_le h.acyclic)

theorem shareOf_eq_shareAlong (h : Shares s) (htop : IsTop s parent)
    (hpath : IsPath owner owned (currentInterests s) parent entity path) :
    shareOf s entity = shareAlong path := by
  induction hpath with
  | start => exact shareOf_of_isTop htop
  | @step path r hpath hr ih =>
    rw [shareOf_of_mem h.forest hr, h.share r hr, ih, shareAlong, shareAlong, along, along,
      List.map_append, List.foldl_append]
    rfl

/-! ### What the service calculates -/

def addOwner (map : OwnershipMap) (r : Stored OwnershipInterest) : OwnershipMap :=
  Function.update map (owned r) (some (owner r, percentage r, r.row.hasControl))

variable {rows : List (Stored OwnershipInterest)}

theorem foldl_addOwner_of_isRoot (h : IsRoot owned rows entity) (map : OwnershipMap) :
    rows.foldl addOwner map entity = map entity := by
  induction rows generalizing map with
  | nil => rfl
  | cons first rest ih =>
    have hfirst : entity ≠ owned first := (h first List.mem_cons_self).symm
    have hrest : IsRoot owned rest entity := fun r hr => h r (List.mem_cons_of_mem _ hr)
    rw [List.foldl_cons, ih hrest, addOwner, Function.update_of_ne hfirst]

theorem ownershipMapOf_of_isRoot
    (h : IsRoot owned rows entity) : ownershipMapOf rows entity = none :=
  foldl_addOwner_of_isRoot h fun _ => none

theorem ownershipMapOf_of_mem (h : IsForest owned rows)
    (hr : r ∈ rows) : ownershipMapOf rows (owned r) =
      some (owner r, percentage r, r.row.hasControl) := by
  have hfold : ∀ map : OwnershipMap, rows.foldl addOwner map (owned r) =
      some (owner r, percentage r, r.row.hasControl) := by
    induction rows with
    | nil => exact absurd hr List.not_mem_nil
    | cons first rest ih =>
      intro map
      obtain ⟨hfirst, hrest⟩ := List.nodup_cons.mp
        (show (owned first :: rest.map owned).Nodup from h)
      rw [List.foldl_cons]
      rcases List.mem_cons.mp hr with rfl | hlater
      · have hroot : IsRoot owned rest (owned r) := by
          intro r' hr' hsame
          rw [← hsame] at hfirst
          exact hfirst (List.mem_map_of_mem hr')
        rw [foldl_addOwner_of_isRoot hroot, addOwner, Function.update_self]
      · exact ih hrest hlater _
  exact hfold fun _ => none

theorem traceLoop_eq {rank : UUID → ℕ} (hforest : IsForest owned rows)
    (hrank : ∀ r ∈ rows, rank (owner r) < rank (owned r)) (htop : IsRoot owned rows parent)
    (hpath : IsPath owner owned rows parent entity path) {entityMap : UUID → Option GroupEntity}
    {fuel : ℕ} (hfuel : path.length ≤ fuel) {visited : List UUID}
    (hvisited : ∀ k ∈ visited, rank entity < rank k) (effective : ℚ) (chain : List String) :
    (traceLoop entityMap (ownershipMapOf rows) fuel visited entity effective chain).1 =
      (path.map percentage).reverse.foldl ofPercentage effective := by
  induction hpath generalizing fuel visited effective chain with
  | start =>
    cases fuel with
    | zero => rfl
    | succ fuel => simp [traceLoop, ownershipMapOf_of_isRoot htop]
  | @step path r hpath hr ih =>
    rw [List.length_append, List.length_singleton] at hfuel
    obtain ⟨steps, rfl⟩ : ∃ steps, fuel = steps + 1 := ⟨fuel - 1, by omega⟩
    have hnew : owned r ∉ visited := fun hmem => lt_irrefl _ (hvisited _ hmem)
    have hbelow : ∀ k ∈ owned r :: visited, rank (owner r) < rank k := by
      intro k hk
      rcases List.mem_cons.mp hk with rfl | hk
      · exact hrank r hr
      · exact (hrank r hr).trans (hvisited k hk)
    rw [traceLoop, ownershipMapOf_of_mem hforest hr]
    simp only [if_neg hnew]
    rw [ih (by omega) hbelow, List.map_append, List.reverse_append]
    rfl

/-- **The shares are path sums** where they are known. -/
theorem Shares.sharesArePathSums (h : Shares s) : SharesArePathSums s := by
  constructor
  · rintro groupId parent htop result hresult ⟨path, hpath⟩
    rw [calculateEffectiveOwnership_eq] at hresult
    obtain ⟨e, -, rfl⟩ := List.mem_map.mp hresult
    obtain ⟨rank, hrank⟩ := h.acyclic
    have hlength := (hpath.length_le h.acyclic).trans (Nat.le_succ _)
    have htrace : (traceLoop (entityMapOf (activeEntities s groupId))
        (ownershipMapOf (currentInterests s)) ((currentInterests s).length + 1) [] e.id 100 []).1 =
          along (path.map percentage).reverse :=
      traceLoop_eq h.forest hrank htop hpath hlength (fun k hk => absurd hk List.not_mem_nil) 100 []
    rw [pathShares, pathsBetween_eq h htop hpath, List.map_singleton, List.sum_singleton,
      shareAlong, ← h.inOrder _ _ _ htop hpath]
    exact htrace
  · rintro parent htop r hr ⟨path, hpath⟩
    obtain ⟨init, hinit, rfl⟩ := hpath.of_target h.forest hr htop
    rw [pathSharesThrough, pathsBetween_eq h htop hinit, List.map_singleton, List.sum_singleton,
      h.share r hr, shareOf_eq_shareAlong h htop hinit, shareAlong, shareAlong, along, along,
      List.map_append, List.foldl_append]
    rfl

/-! ### What a step keeps -/

theorem Shares.empty (h : s.interests = Table.empty) : Shares s := by
  have hnone : currentInterests s = [] := by
    rw [currentInterests, interestsAsOf, h]
    rfl
  refine ⟨?_, ?_, ⟨fun _ => 0, ?_⟩, ?_, ?_⟩
  · rw [h]
    exact Tracks.empty.one
  · rw [hnone]
    exact List.nodup_nil
  · rw [hnone]
    exact fun r hr => absurd hr List.not_mem_nil
  · rw [hnone]
    exact fun r hr => absurd hr List.not_mem_nil
  · intro parent entity path _ hpath
    rw [hnone] at hpath
    rcases isPath_iff.mp hpath with ⟨-, rfl⟩ | ⟨_, r, _, hr, -, -⟩
    · rfl
    · exact absurd hr List.not_mem_nil

theorem KeepsShares.owned_ne (hkeeps : KeepsShares s input) (hr : r ∈ currentInterests s)
    (hnot : ¬ input.IsOf r.row) : owned r ≠ input.investeeEntityId :=
  fun hsame => hnot ⟨hkeeps.oneOwner r hr hsame, hsame⟩

namespace Shares

theorem isTop_of_record (h : Shares s) (htop : IsTop (record s input) parent) :
    IsTop s parent := by
  intro r hr hsame
  by_cases hof : input.IsOf r.row
  · exact htop (newRow s input) (newRow_mem h.one) (hof.2.symm.trans hsame)
  · exact htop r ((mem_currentInterests_record h.one).mpr (Or.inl ⟨hr, hof⟩)) hsame

theorem shareOf_record (h : Shares s) (hforest : IsForest owned (currentInterests (record s input)))
    (hne : entity ≠ input.investeeEntityId) :
    shareOf (record s input) entity = shareOf s entity := by
  by_cases htop : IsTop s entity
  · have htop' : IsTop (record s input) entity := by
      intro r hr
      rcases (mem_currentInterests_record h.one).mp hr with ⟨hr, -⟩ | rfl
      · exact htop r hr
      · exact hne.symm
    rw [shareOf_of_isTop htop, shareOf_of_isTop htop']
  · obtain ⟨r, hr, rfl⟩ : ∃ r ∈ currentInterests s, owned r = entity := by
      by_contra hnone
      exact htop fun r hr hsame => hnone ⟨r, hr, hsame⟩
    have hr' : r ∈ currentInterests (record s input) :=
      (mem_currentInterests_record h.one).mpr (Or.inl ⟨hr, fun hof => hne hof.2⟩)
    rw [shareOf_of_mem hforest hr', shareOf_of_mem h.forest hr]

variable {groupId : UUID}

theorem calculate_eq_shareOf (h : Shares s) (hkeeps : KeepsShares s input)
    (hadmits : Admits s groupId input) :
    calculateEffectiveOwnershipForInvestor s input.investorEntityId =
      shareOf s input.investorEntityId := by
  obtain ⟨e, he, -⟩ := hadmits.investor
  rw [calculateEffectiveOwnershipForInvestor, he]
  cases hparent : e.parentEntityId with
  | none =>
    simp only [hparent]
    exact (shareOf_of_isTop (hkeeps.top e he hparent)).symm
  | some parentId =>
    simp only [hparent]
    cases hfound : s.interests.find? (fun interest => decide
        (interest.investeeEntityId = input.investorEntityId ∧ interest.isCurrent = true)) with
    | none =>
      have htop : IsTop s input.investorEntityId := by
        intro r hr hsame
        obtain ⟨hget, hcurrent⟩ := mem_currentInterests.mp hr
        exact absurd hfound (Option.isSome_iff_ne_none.mp
          (find?_isSome hget (decide_eq_true ⟨hsame, hcurrent⟩)))
      exact (shareOf_of_isTop htop).symm
    | some r =>
      obtain ⟨hget, hpred⟩ := find?_eq_some hfound
      obtain ⟨howned, hcurrent⟩ := of_decide_eq_true hpred
      have hr : r ∈ currentInterests s := mem_currentInterests.mpr ⟨hget, hcurrent⟩
      have hshare := shareOf_of_mem h.forest hr
      rw [show owned r = input.investorEntityId from howned] at hshare
      exact hshare.symm

theorem forest_record (h : Shares s) (hkeeps : KeepsShares s input) :
    IsForest owned (currentInterests (record s input)) := by
  have hids : ((currentInterests (record s input)).map Stored.id).Nodup := by
    rw [currentInterests, interestsAsOf]
    exact nodup_ids_select _ _
  have hnodup : (currentInterests (record s input)).Nodup := List.Nodup.of_map _ hids
  refine List.Nodup.map_on (fun r hr r' hr' hsame => ?_) hnodup
  rcases (mem_currentInterests_record h.one).mp hr with ⟨hr, hnot⟩ | rfl
  · rcases (mem_currentInterests_record h.one).mp hr' with ⟨hr', -⟩ | rfl
    · exact List.inj_on_of_nodup_map h.forest hr hr' hsame
    · exact absurd hsame (hkeeps.owned_ne hr hnot)
  · rcases (mem_currentInterests_record h.one).mp hr' with ⟨hr', hnot⟩ | rfl
    · exact absurd hsame.symm (hkeeps.owned_ne hr' hnot)
    · rfl

/-- There are no cycles after a step: the entity of the new interest owns nothing, or the interest
takes the place of one with the same ends. -/
theorem acyclic_record (h : Shares s) (hkeeps : KeepsShares s input)
    (hself : input.investorEntityId ≠ input.investeeEntityId) :
    Acyclic owner owned (currentInterests (record s input)) := by
  obtain ⟨rank, hrank⟩ := h.acyclic
  rcases hkeeps.unchanged with hleaf | ⟨old, hold, hof, -⟩
  · refine ⟨Function.update rank input.investeeEntityId (rank input.investorEntityId + 1), ?_⟩
    intro r hr
    rcases (mem_currentInterests_record h.one).mp hr with ⟨hr, hnot⟩ | rfl
    · rw [Function.update_of_ne (hleaf r hr), Function.update_of_ne (hkeeps.owned_ne hr hnot)]
      exact hrank r hr
    · have howner : owner (newRow s input) = input.investorEntityId := rfl
      have howned : owned (newRow s input) = input.investeeEntityId := rfl
      rw [howner, howned, Function.update_of_ne hself, Function.update_self]
      exact Nat.lt_succ_self _
  · refine ⟨rank, fun r hr => ?_⟩
    rcases (mem_currentInterests_record h.one).mp hr with ⟨hr, -⟩ | rfl
    · exact hrank r hr
    · have hlt := hrank old hold
      rwa [show owner old = owner (newRow s input) from hof.1,
        show owned old = owned (newRow s input) from hof.2] at hlt

theorem share_record (h : Shares s) (hkeeps : KeepsShares s input)
    (hadmits : Admits s groupId input) (hr : r ∈ currentInterests (record s input)) :
    r.row.effectiveOwnershipPercentage =
      ofPercentage (shareOf (record s input) (owner r)) (percentage r) := by
  have hforest := h.forest_record hkeeps
  have hnew : (newRow s input).row.effectiveOwnershipPercentage =
      ofPercentage (shareOf s input.investorEntityId)
        (percentageColumn input.ownershipPercentage) := by
    rw [← hkeeps.rounded, ← h.calculate_eq_shareOf hkeeps hadmits]
    rfl
  rcases (mem_currentInterests_record h.one).mp hr with ⟨hr', hnot⟩ | rfl
  · rw [h.share r hr']
    by_cases howner : owner r = input.investeeEntityId
    · -- the entity owns something, so its percentage stays, and its share with it
      obtain ⟨old, hold, hof, hpercentage⟩ : ∃ r ∈ currentInterests s, input.IsOf r.row ∧
          percentage r = percentageColumn input.ownershipPercentage :=
        hkeeps.unchanged.resolve_left fun hleaf => hleaf r hr' howner
      have hbefore : shareOf s input.investeeEntityId = old.row.effectiveOwnershipPercentage := by
        rw [← hof.2]
        exact shareOf_of_mem h.forest hold
      have hafter : shareOf (record s input) input.investeeEntityId =
          (newRow s input).row.effectiveOwnershipPercentage :=
        shareOf_of_mem hforest (newRow_mem h.one)
      have hkept : shareOf (record s input) input.investeeEntityId =
          shareOf s input.investeeEntityId := by
        rw [hbefore, hafter, hnew, h.share old hold, hpercentage,
          show owner old = input.investorEntityId from hof.1]
      rw [howner, hkept]
    · rw [h.shareOf_record hforest howner]
  · have howner : owner (newRow s input) = input.investorEntityId := rfl
    rw [hnew, howner, h.shareOf_record hforest hadmits.notSelf]
    rfl

theorem path_record (h : Shares s) (hkeeps : KeepsShares s input)
    (hself : input.investorEntityId ≠ input.investeeEntityId)
    (hpath : IsPath owner owned (currentInterests (record s input)) parent entity path) :
    (∃ before, IsPath owner owned (currentInterests s) parent entity before ∧
      before.map percentage = path.map percentage) ∨
    (entity = input.investeeEntityId ∧ ∃ before,
      IsPath owner owned (currentInterests s) parent input.investorEntityId before ∧
      path.map percentage =
        before.map percentage ++ [percentageColumn input.ownershipPercentage]) := by
  induction hpath with
  | start => exact Or.inl ⟨[], .start, rfl⟩
  | @step path r hpath hr ih =>
    rcases (mem_currentInterests_record h.one).mp hr with ⟨hr, -⟩ | rfl
    · left
      rcases ih with ⟨before, hbefore, hsame⟩ | ⟨howner, before, hbefore, hsame⟩
      · refine ⟨before ++ [r], hbefore.step hr, ?_⟩
        rw [List.map_append, List.map_append, hsame]
      · -- the entity owns something, so the interest takes the place of one with its percentage
        obtain ⟨old, hold, hof, hpercentage⟩ : ∃ r ∈ currentInterests s, input.IsOf r.row ∧
            percentage r = percentageColumn input.ownershipPercentage :=
          hkeeps.unchanged.resolve_left fun hleaf => hleaf r hr howner
        have hreach : IsPath owner owned (currentInterests s) parent (owner r)
            (before ++ [old]) := by
          rw [howner, show input.investeeEntityId = owned old from hof.2.symm]
          rw [show input.investorEntityId = owner old from hof.1.symm] at hbefore
          exact hbefore.step hold
        refine ⟨before ++ [old] ++ [r], hreach.step hr, ?_⟩
        rw [List.map_append, List.map_append, List.map_append, hsame, List.map_singleton,
          hpercentage]
    · right
      rcases ih with ⟨before, hbefore, hsame⟩ | ⟨howner, -⟩
      · exact ⟨rfl, before, hbefore, by rw [List.map_append, hsame]; rfl⟩
      · exact absurd howner hself

/-- **A step keeps the shares.** -/
theorem record (h : Shares s) (hkeeps : KeepsShares s input)
    (hadmits : Admits s groupId input) : Shares (OwnershipService.record s input) := by
  refine ⟨h.one.record, h.forest_record hkeeps, h.acyclic_record hkeeps hadmits.notSelf,
    fun r hr => h.share_record hkeeps hadmits hr, fun parent entity path htop hpath => ?_⟩
  have htop' := h.isTop_of_record htop
  rcases h.path_record hkeeps hadmits.notSelf hpath with
    ⟨before, hbefore, hsame⟩ | ⟨-, before, hbefore, hsame⟩
  · rw [← hsame]
    exact h.inOrder parent entity before htop' hbefore
  · rw [hsame]
    exact hkeeps.inOrder parent before htop' hbefore

end Shares

theorem step_eq_record (h : ownershipSystem.step s input s') :
    ∃ groupId, Admits s groupId input ∧ s' = record s input := by
  obtain ⟨groupId, k, hcreate | ⟨interestId, existing, newPercentage, newVotingRights,
    effectiveDate, hexisting, hupdate, rfl⟩⟩ := h
  · obtain ⟨hadmits, -, rfl⟩ := createOwnership_eq_ok hcreate
    exact ⟨groupId, hadmits, rfl⟩
  · obtain ⟨existing', hexisting', hcreate⟩ := updateOwnershipPercentage_eq_ok hupdate
    obtain rfl := Option.mem_unique hexisting hexisting'
    obtain ⟨hadmits, -, rfl⟩ := createOwnership_eq_ok hcreate
    exact ⟨groupId, hadmits, rfl⟩

/-- **Effective ownership is the path sum** in every run from no interests whose steps keep the
shares: in each store that is reached, the graph of the interests has no cycles, and what is
calculated and what is stored are the sums over the paths. -/
theorem sharesArePathSums_of_reachable (h : ownershipSystem.ReachableWithin KeepsShares s) :
    Acyclic owner owned (currentInterests s) ∧ SharesArePathSums s := by
  obtain ⟨s₀, hempty, hrun⟩ := h
  have hshares : Shares s := by
    refine hrun.preserves (fun s input s' hs hkeeps hstep => ?_) (Shares.empty hempty)
    obtain ⟨groupId, hadmits, rfl⟩ := step_eq_record hstep
    exact hs.record hkeeps hadmits
  exact ⟨hshares.acyclic, hshares.sharesArePathSums⟩

/-! ### Groups of two levels -/

theorem along_reverse {percentages : List ℚ} (hlength : percentages.length ≤ 2)
    (hcolumn : ∀ q ∈ percentages, percentageColumn q = q) :
    along percentages.reverse = along percentages := by
  match percentages with
  | [] => rfl
  | [_] => rfl
  | [p, q] =>
    have hfirst (x : ℚ) (hx : percentageColumn x = x) : ofPercentage 100 x = x := by
      rw [ofPercentage, mul_div_cancel_left₀ x (by norm_num)]
      exact hx
    simp only [along, List.reverse_cons, List.reverse_nil, List.nil_append, List.cons_append,
      List.foldl_cons, List.foldl_nil]
    rw [hfirst p (hcolumn p (by simp)), hfirst q (hcolumn q (by simp)), ofPercentage, ofPercentage,
      mul_comm]
  | _ :: _ :: _ :: _ => simp at hlength

theorem inOrder_of_length_le (hacyclic : Acyclic owner owned (currentInterests s))
    (hlength : (currentInterests s).length ≤ 1)
    (hcolumn : ∀ r ∈ currentInterests s, percentageColumn (percentage r) = percentage r)
    (hpath : IsPath owner owned (currentInterests s) parent input.investorEntityId path) :
    along (path.map percentage ++ [percentageColumn input.ownershipPercentage]).reverse =
      along (path.map percentage ++ [percentageColumn input.ownershipPercentage]) := by
  have hshort := (hpath.length_le hacyclic).trans hlength
  obtain ⟨rank, hrank⟩ := hacyclic
  obtain ⟨hbelow, -⟩ := hpath.pairwise_rank hrank
  refine along_reverse ?_ fun q hq => ?_
  · rw [List.length_append, List.length_map, List.length_singleton]
    omega
  · rcases List.mem_append.mp hq with hq | hq
    · obtain ⟨r, hr, rfl⟩ := List.mem_map.mp hq
      exact hcolumn r (hbelow r hr).1
    · rw [List.mem_singleton.mp hq]
      exact halfUp_halfUp 6 _

/-- Half of the second entity for the first one. -/
def crossShare : OwnershipInput where
  investorEntityId := 1
  investeeEntityId := 2
  ownershipPercentage := 50
  votingRightsPercentage := 50
  effectiveFrom := newYear

theorem step_withShare {s : OwnershipStore} {input : OwnershipInput}
    (hreturns : returns (createOwnership 1 input) s = true) :
    ownershipSystem.step s input (withShare s input) := by
  obtain ⟨k, s', hrun⟩ := returns_iff.mp hreturns
  rw [withShare, commit_of_ok hrun]
  exact ⟨1, k, Or.inl hrun⟩

theorem keepsShares_first : KeepsShares shareGroup (shareInput 1 60 newYear) := by
  refine ⟨by decide +kernel, Or.inl (by decide +kernel), fun e _ _ => by decide +kernel,
    by decide +kernel, fun parent path _ hpath => ?_⟩
  exact inOrder_of_length_le ⟨id, by decide +kernel⟩ (by decide +kernel) (by decide +kernel) hpath

theorem keepsShares_second :
    KeepsShares (withShare shareGroup (shareInput 1 60 newYear)) crossShare := by
  have hparent : ((withShare shareGroup (shareInput 1 60 newYear)).entities.get? 1).bind
      GroupEntity.parentEntityId = some 0 := by decide +kernel
  refine ⟨by decide +kernel, Or.inl (by decide +kernel), fun e he hnone => ?_,
    by decide +kernel, fun parent path _ hpath => ?_⟩
  · rw [show crossShare.investorEntityId = 1 from rfl] at he
    rw [he, Option.bind_some, hnone] at hparent
    exact absurd hparent (by simp)
  · exact inOrder_of_length_le ⟨id, by decide +kernel⟩ (by decide +kernel) (by decide +kernel) hpath

/-- A chain of 60 per cent and a half comes to 30 per cent. -/
theorem sharesArePathSums_of_reachable_sample :
    SharesArePathSums (withShare (withShare shareGroup (shareInput 1 60 newYear)) crossShare) ∧
      pathShares (withShare (withShare shareGroup (shareInput 1 60 newYear)) crossShare) 0 2 =
        30 := by
  have hreach : ownershipSystem.ReachableWithin KeepsShares
      (withShare (withShare shareGroup (shareInput 1 60 newYear)) crossShare) :=
    ⟨shareGroup, rfl, (Relation.ReflTransGen.single
      ⟨_, keepsShares_first, step_withShare (by decide +kernel)⟩).tail
        ⟨_, keepsShares_second, step_withShare (by decide +kernel)⟩⟩
  exact ⟨(sharesArePathSums_of_reachable hreach).2, by decide +kernel⟩

/-- The group in which the parent owns 40 per cent of the second entity as well. -/
def crossGroup : OwnershipStore :=
  withShare (withShare (withShare shareGroup (shareInput 1 60 newYear)) (shareInput 2 40 newYear))
    crossShare

/-- **Effective ownership is not the path sum of every acyclic group**: 40 per cent of an entity and
half of it through another one make 70 per cent, and the service finds 30. -/
theorem second_owner_lost : ¬ ∀ s, ownershipSystem.Reachable s →
    Acyclic owner owned (currentInterests s) → SharesArePathSums s := by
  intro h
  have hreach : ownershipSystem.Reachable crossGroup :=
    ⟨shareGroup, rfl, ((Relation.ReflTransGen.single
      ⟨_, trivial, step_withShare (by decide +kernel)⟩).tail
        ⟨_, trivial, step_withShare (by decide +kernel)⟩).tail
          ⟨_, trivial, step_withShare (by decide +kernel)⟩⟩
  have hsums := h crossGroup hreach ⟨id, by decide +kernel⟩
  have hall : ∀ result ∈ calculateEffectiveOwnership crossGroup 1 none, result.entityId = 2 →
      result.effectiveOwnership ≠ pathShares crossGroup 0 result.entityId := by decide +kernel
  have hsome : ∃ result ∈ calculateEffectiveOwnership crossGroup 1 none, result.entityId = 2 := by
    decide +kernel
  obtain ⟨result, hresult, hentity⟩ := hsome
  have hpath : Reaches crossGroup 0 2 := by
    have hpaths : 0 < (pathsBetween crossGroup 0 2).length := by decide +kernel
    obtain ⟨path, hmem⟩ := List.exists_mem_of_length_pos hpaths
    exact ⟨path, (mem_pathsTo.mp hmem).1⟩
  rw [← hentity] at hpath
  exact hall result hresult hentity
    (hsums.calculated 1 0 (by decide +kernel) result hresult hpath)

end DotmacErp.Consolidation
