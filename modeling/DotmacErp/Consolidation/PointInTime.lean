import DotmacErp.Consolidation.OwnershipHistories

/-!
# Ownership at a date

`calculate_effective_ownership` at a date takes the interests that were in force then, and of these
the ones that are still current. An interest that is superseded later is in force before, but no
longer current: the change of today drops the interest of yesterday. The results have the method of
consolidation of each entity, too, which is the one of the last change whatever the date is.

So a history leaves the results for a date as they were if and only if no owner and entity have
interests both on or before the date and after it, and the changes after it leave the methods as
they are (`isPointInTime_iff`).
-/

namespace DotmacErp.Consolidation

open Calendar Relational Session Table OwnershipService

variable {s₀ s₁ s₂ s : OwnershipStore} {input : OwnershipInput}
  {inputs earlier later : List OwnershipInput} {groupId k : UUID} {d : Date}

/-! ### What is in force at a date -/

def OwnershipInterest.InForce (interest : OwnershipInterest) (d : Date) : Prop :=
  interest.effectiveFrom ≤ d ∧ ∀ e ∈ interest.effectiveTo, d < e

instance (interest : OwnershipInterest) (d : Date) : Decidable (interest.InForce d) :=
  inferInstanceAs (Decidable (_ ∧ _))

def interestsInForce (s : OwnershipStore) (d : Date) : List (Stored OwnershipInterest) :=
  s.interests.select fun interest => decide (interest.InForce d)

theorem interestsAsOf_eq (s : OwnershipStore) (d : Date) : interestsAsOf s (some d) =
    s.interests.select fun interest => decide (interest.isCurrent = true ∧ interest.InForce d) := by
  rw [interestsAsOf, select, select]
  refine List.filter_congr fun row _ => decide_eq_decide.mpr ?_
  simp only [Option.mem_some_iff, forall_eq', OwnershipInterest.InForce]

/-- No owner and entity have interests both on or before a date and after it. -/
def KeptApart (inputs : List OwnershipInput) (d : Date) : Prop :=
  ∀ input ∈ inputs, ∀ input' ∈ inputs, input.SamePair input' →
    input.effectiveFrom ≤ d → input'.effectiveFrom ≤ d

instance (inputs : List OwnershipInput) (d : Date) : Decidable (KeptApart inputs d) :=
  inferInstanceAs (Decidable (∀ _ ∈ _, _))

/-- A current interest stays as it is while others are recorded, or the one that supersedes it ends
it. -/
theorem get?_of_recorded (htracks : Tracks earlier s₁.interests) (h : OwnershipHistory s₁ later s₂)
    {r : OwnershipInterest} (hget : s₁.interests.get? k = some r) (hcurrent : r.isCurrent = true) :
    ((∀ input ∈ later, ¬ input.IsOf r) ∧ s₂.interests.get? k = some r) ∨
      ∃ input ∈ later, input.IsOf r ∧
        s₂.interests.get? k = some (supersede input.effectiveFrom r) := by
  have hboth : Tracks (earlier ++ later) s₂.interests ∧
      (((∀ input ∈ later, ¬ input.IsOf r) ∧ s₂.interests.get? k = some r) ∨
        ∃ input ∈ later, input.IsOf r ∧
          s₂.interests.get? k = some (supersede input.effectiveFrom r)) := by
    refine h.preserves (P := fun later s₂ => Tracks (earlier ++ later) s₂.interests ∧
      (((∀ input ∈ later, ¬ input.IsOf r) ∧ s₂.interests.get? k = some r) ∨
        ∃ input ∈ later, input.IsOf r ∧
          s₂.interests.get? k = some (supersede input.effectiveFrom r))) ?_ ?_
    · rw [List.append_nil]
      exact ⟨htracks, Or.inl ⟨by simp, hget⟩⟩
    · rintro later s groupId input ⟨hrows, hrow⟩ _
      refine ⟨by rw [← List.append_assoc]; exact hrows.record input, ?_⟩
      rcases hrow with ⟨hothers, hkept⟩ | ⟨ending, hmem, hof, hended⟩
      · by_cases hsame : input.IsOf r
        · exact Or.inr ⟨input, List.mem_append_right _ (List.mem_singleton_self _), hsame,
            get?_record_of_current hrows.one hkept hcurrent hsame⟩
        · refine Or.inl ⟨fun input' hmem => ?_, get?_record_of_kept hkept fun _ => hsame⟩
          rcases List.mem_append.mp hmem with hmem | hmem
          · exact hothers input' hmem
          · rwa [List.mem_singleton.mp hmem]
      · exact Or.inr ⟨ending, List.mem_append_left _ hmem, hof,
          get?_record_of_kept hended fun hstill => absurd hstill (by simp [supersede])⟩
  exact hboth.2

/-- **The interests in force are taken** if and only if the dates on either side of the date are
those of different owners and entities. -/
theorem interestsAsOf_eq_interestsInForce_iff (hempty : s₀.interests = Table.empty)
    (h₁ : OwnershipHistory s₀ earlier s₁) (h₂ : OwnershipHistory s₁ later s₂)
    (hrows : Tracks (earlier ++ later) s₂.interests)
    (hearlier : ∀ input ∈ earlier, input.effectiveFrom ≤ d)
    (hlater : ∀ input ∈ later, d < input.effectiveFrom) :
    interestsAsOf s₂ (some d) = interestsInForce s₂ d ↔ KeptApart (earlier ++ later) d := by
  have htracks := Tracks.of_recorded hempty h₁
  rw [interestsAsOf_eq, interestsInForce]
  constructor
  · intro hall first hfirst second hsecond hsame hbefore
    by_contra hafter
    have hfirst_earlier : first ∈ earlier := by
      rcases List.mem_append.mp hfirst with hmem | hmem
      · exact hmem
      · exact absurd hbefore (not_le.mpr (hlater first hmem))
    have hsecond_later : second ∈ later := by
      rcases List.mem_append.mp hsecond with hmem | hmem
      · exact absurd (hearlier second hmem) hafter
      · exact hmem
    obtain ⟨k, r, hget, hcurrent, hof⟩ := htracks.covered first hfirst_earlier
    have hof' : second.IsOf r := ⟨hof.1.trans hsame.1, hof.2.trans hsame.2⟩
    rcases get?_of_recorded htracks h₂ hget hcurrent with ⟨hothers, -⟩ | ⟨ending, hmem, -, hended⟩
    · exact hothers second hsecond_later hof'
    · obtain ⟨origin, horigin, -, hfrom⟩ := htracks.origin _ _ hget
      have hforce : (supersede ending.effectiveFrom r).InForce d := by
        refine ⟨hfrom.trans_le (hearlier origin horigin), fun e he => ?_⟩
        obtain rfl := Option.some.inj he
        exact hlater ending hmem
      have hselected : (⟨k, supersede ending.effectiveFrom r⟩ : Stored OwnershipInterest) ∈
          s₂.interests.select fun interest => decide (interest.InForce d) :=
        mem_select.mpr ⟨hended, decide_eq_true hforce⟩
      rw [← hall] at hselected
      have hstill := (of_decide_eq_true (mem_select.mp hselected).2).1
      exact absurd hstill (by simp [supersede])
  · intro hapart
    refine List.filter_congr fun row hrow => decide_eq_decide.mpr ?_
    refine ⟨fun hboth => hboth.2, fun hforce => ⟨?_, hforce⟩⟩
    by_contra hended
    have hget := get?_of_mem hrow
    obtain ⟨origin, horigin, hof, hfrom⟩ := hrows.origin _ _ hget
    obtain ⟨ending, hending, hof', hto⟩ :=
      hrows.ended _ _ hget (Bool.eq_false_of_not_eq_true hended)
    have hsame : origin.SamePair ending := ⟨hof.1.symm.trans hof'.1, hof.2.symm.trans hof'.2⟩
    have hlate := hforce.2 ending.effectiveFrom hto
    exact absurd (hapart origin horigin ending hending hsame (hfrom ▸ hforce.1)) (not_le.mpr hlate)

/-! ### What later interests leave -/

/-- Interests after a date, of other owners and entities than those before it, leave what is taken
at the date. -/
theorem interestsAsOf_of_recorded (hempty : s₀.interests = Table.empty)
    (h₁ : OwnershipHistory s₀ earlier s₁) (h₂ : OwnershipHistory s₁ later s₂)
    (hapart : ∀ input ∈ earlier, ∀ input' ∈ later, ¬ input.SamePair input')
    (hlater : ∀ input ∈ later, d < input.effectiveFrom) :
    interestsAsOf s₂ (some d) = interestsAsOf s₁ (some d) := by
  have hboth : Tracks (earlier ++ later) s₂.interests ∧
      ((∀ input ∈ later, d < input.effectiveFrom) →
        (∀ input ∈ earlier, ∀ input' ∈ later, ¬ input.SamePair input') →
        interestsAsOf s₂ (some d) = interestsAsOf s₁ (some d)) := by
    refine h₂.preserves (P := fun later s₂ => Tracks (earlier ++ later) s₂.interests ∧
      ((∀ input ∈ later, d < input.effectiveFrom) →
        (∀ input ∈ earlier, ∀ input' ∈ later, ¬ input.SamePair input') →
        interestsAsOf s₂ (some d) = interestsAsOf s₁ (some d))) ?_ ?_
    · rw [List.append_nil]
      exact ⟨Tracks.of_recorded hempty h₁, fun _ _ => rfl⟩
    · rintro later s groupId input ⟨hrows, ih⟩ _
      refine ⟨by rw [← List.append_assoc]; exact hrows.record input, fun hdates hpairs => ?_⟩
      have hprevious {input' : OwnershipInput} (hmem : input' ∈ later) :
          input' ∈ later ++ [input] := List.mem_append_left _ hmem
      have hlast : input ∈ later ++ [input] :=
        List.mem_append_right _ (List.mem_singleton_self _)
      have hsame := ih (fun input' hmem => hdates input' (hprevious hmem))
        fun first hfirst input' hmem => hpairs first hfirst input' (hprevious hmem)
      have hunselected {r : OwnershipInterest} (hafter : d < r.effectiveFrom) :
          decide (r.isCurrent = true ∧ r.InForce d) = false :=
        decide_eq_false fun hboth => not_lt.mpr hboth.2.1 hafter
      have hnew : decide ((recordedInterest s input).isCurrent = true ∧
          (recordedInterest s input).InForce d) = false := hunselected (hdates input hlast)
      refine Eq.trans ?_ hsame
      rw [interestsAsOf_eq, interestsAsOf_eq s, record, select_insert, hnew,
        if_neg Bool.false_ne_true, List.append_nil, endCurrent]
      cases hfound : currentInterest s input.investorEntityId input.investeeEntityId with
      | none => rfl
      | some existing =>
        obtain ⟨hget, hpred⟩ := find?_eq_some hfound
        obtain ⟨hinvestor, hinvestee, -⟩ := of_decide_eq_true hpred
        -- the interest that ends is one of the later ones
        have hafter : d < existing.row.effectiveFrom := by
          obtain ⟨origin, horigin, hof, hfrom⟩ := hrows.origin _ _ hget
          rw [hfrom]
          rcases List.mem_append.mp horigin with hmem | hmem
          · exact absurd ⟨hof.1.symm.trans hinvestor, hof.2.symm.trans hinvestee⟩
              (hpairs origin hmem input hlast)
          · exact hdates origin (hprevious hmem)
        refine select_modify_of_unselected fun r hr => ?_
        obtain rfl := Option.mem_unique hget hr
        exact ⟨hunselected hafter, hunselected hafter⟩
  exact hboth.2 hlater hapart

def methodOf (input : OwnershipInput) : ConsolidationMethod :=
  consolidationMethodOf (newInterest 0 input)

def methodAfter (entityId : UUID) (inputs : List OwnershipInput) (method : ConsolidationMethod) :
    ConsolidationMethod :=
  inputs.foldl (fun method input =>
    if input.investeeEntityId = entityId then methodOf input else method) method

theorem methodAfter_append (entityId : UUID) (earlier later : List OwnershipInput)
    (method : ConsolidationMethod) : methodAfter entityId (earlier ++ later) method =
      methodAfter entityId later (methodAfter entityId earlier method) := by
  rw [methodAfter, List.foldl_append, methodAfter, methodAfter]

def withMethodAfter (inputs : List OwnershipInput) (entity : Stored GroupEntity) : GroupEntity :=
  { entity.row with
    consolidationMethod := methodAfter entity.id inputs entity.row.consolidationMethod }

theorem entities_of_recorded (h : OwnershipHistory s inputs s₂) :
    s₂.entities = s.entities.mapRows (withMethodAfter inputs) := by
  refine h.preserves (P := fun inputs s₂ =>
    s₂.entities = s.entities.mapRows (withMethodAfter inputs)) ?_ ?_
  · exact mapRows_row.symm
  · intro inputs s₂ groupId input ih _
    rw [record, ih, modify_eq_mapRows, mapRows_mapRows]
    refine mapRows_congr fun r _ => ?_
    have hafter : withMethodAfter (inputs ++ [input]) r = { r.row with
        consolidationMethod := if input.investeeEntityId = r.id then methodOf input
          else methodAfter r.id inputs r.row.consolidationMethod } := by
      rw [withMethodAfter, methodAfter_append]
      rfl
    rw [hafter]
    by_cases hid : r.id = input.investeeEntityId
    · rw [if_pos hid, if_pos hid.symm]
      rfl
    · rw [if_neg hid, if_neg (Ne.symm hid)]
      rfl

theorem activeEntities_of_recorded (h : OwnershipHistory s inputs s₂) (groupId : UUID) :
    activeEntities s₂ groupId =
      (activeEntities s groupId).map fun e => ⟨e.id, withMethodAfter inputs e⟩ := by
  rw [activeEntities, entities_of_recorded h]
  exact select_mapRows fun r _ => rfl

/-! ### What the results read of the entities -/

section Results

variable {entityMap entityMap' : UUID → Option GroupEntity} {ownershipMap : OwnershipMap}

theorem found_or_not (h : ∀ k, (entityMap' k).map (·.entityCode) =
      (entityMap k).map (·.entityCode)) (current : UUID) :
    (entityMap' current = none ∧ entityMap current = none) ∨
      ∃ entity' entity, entityMap' current = some entity' ∧ entityMap current = some entity ∧
        entity'.entityCode = entity.entityCode := by
  have hcode := h current
  cases hfound' : entityMap' current with
  | none =>
    rw [hfound', Option.map_none, eq_comm, Option.map_eq_none_iff] at hcode
    exact Or.inl ⟨rfl, hcode⟩
  | some entity' =>
    rw [hfound', Option.map_some, eq_comm, Option.map_eq_some_iff] at hcode
    obtain ⟨entity, hfound, hsame⟩ := hcode
    exact Or.inr ⟨entity', entity, rfl, hfound, hsame.symm⟩

theorem traceLoop_congr (h : ∀ k, (entityMap' k).map (·.entityCode) =
      (entityMap k).map (·.entityCode)) (fuel : ℕ) (visited : List UUID) (current : UUID)
    (effective : ℚ) (chain : List String) :
    traceLoop entityMap' ownershipMap fuel visited current effective chain =
      traceLoop entityMap ownershipMap fuel visited current effective chain := by
  induction fuel generalizing visited current effective chain with
  | zero => rfl
  | succ fuel ih =>
    rw [traceLoop, traceLoop]
    cases ownershipMap current with
    | none => rfl
    | some owner =>
      obtain ⟨hfound', hfound⟩ | ⟨entity', entity, hfound', hfound, hcode⟩ := found_or_not h current
      · simp only [hfound', hfound, ih]
      · simp only [hfound', hfound, ih, chainLink, hcode]

theorem traceOwnershipChain_congr (h : ∀ k, (entityMap' k).map (·.entityCode) =
      (entityMap k).map (·.entityCode)) (steps : ℕ) (entityId : UUID) :
    traceOwnershipChain entityMap' ownershipMap steps entityId =
      traceOwnershipChain entityMap ownershipMap steps entityId := by
  rw [traceOwnershipChain, traceOwnershipChain, traceLoop_congr h]
  obtain ⟨effective, chain, current, visited⟩ :=
    traceLoop entityMap ownershipMap steps [] entityId 100 []
  obtain ⟨hfound', hfound⟩ | ⟨entity', entity, hfound', hfound, hcode⟩ := found_or_not h current
  · simp only [hfound', hfound]
  · simp only [hfound', hfound, chainLink, hcode]

end Results

def entityMapOf (entities : List (Stored GroupEntity)) : UUID → Option GroupEntity :=
  fun k => (entities.find? fun e => decide (e.id = k)).map Stored.row

def resultWith (entities : List (Stored GroupEntity)) (ownerships : List (Stored OwnershipInterest))
    (entity : Stored GroupEntity) (consolidationMethod : ConsolidationMethod) :
    EffectiveOwnershipResult :=
  let (effective, chain) := traceOwnershipChain (entityMapOf entities) (ownershipMapOf ownerships)
    (ownerships.length + 1) entity.id
  let (directOwnership, hasControl) := match ownershipMapOf ownerships entity.id with
    | some (_, direct, control) => (direct, control)
    | none => (100, true)
  { entityId := entity.id
    entityCode := entity.row.entityCode
    directOwnership
    effectiveOwnership := effective
    nciPercentage := 100 - effective
    ownershipChain := chain
    hasControl
    consolidationMethod }

theorem calculateEffectiveOwnership_eq (s : OwnershipStore) (groupId : UUID)
    (asOfDate : Option Date) : calculateEffectiveOwnership s groupId asOfDate =
      (activeEntities s groupId).map fun entity =>
        resultWith (activeEntities s groupId) (interestsAsOf s asOfDate) entity
          entity.row.consolidationMethod := rfl

theorem resultWith_map (entities : List (Stored GroupEntity))
    (ownerships : List (Stored OwnershipInterest)) (entity : Stored GroupEntity)
    (method : ConsolidationMethod) :
    resultWith (entities.map fun e => ⟨e.id, withMethodAfter inputs e⟩) ownerships
        ⟨entity.id, withMethodAfter inputs entity⟩ method =
      resultWith entities ownerships entity method := by
  have hcodes (k : UUID) :
      (entityMapOf (entities.map fun e => ⟨e.id, withMethodAfter inputs e⟩) k).map (·.entityCode) =
        (entityMapOf entities k).map (·.entityCode) := by
    rw [entityMapOf, entityMapOf, List.find?_map, Option.map_map, Option.map_map, Option.map_map]
    rfl
  rw [resultWith, resultWith, traceOwnershipChain_congr hcodes]
  rfl

theorem resultWith_inj {entities : List (Stored GroupEntity)}
    {ownerships : List (Stored OwnershipInterest)} {entity : Stored GroupEntity}
    {method method' : ConsolidationMethod} :
    resultWith entities ownerships entity method = resultWith entities ownerships entity method' ↔
      method = method' := by
  constructor
  · intro h
    exact congrArg EffectiveOwnershipResult.consolidationMethod h
  · rintro rfl
    rfl

/-- The inputs from after the day change no method. -/
def KeepsMethods (s : OwnershipStore) (groupId : UUID) (inputs : List OwnershipInput) (d : Date) :
    Prop :=
  ∀ entity ∈ activeEntities s groupId,
    methodAfter entity.id inputs entity.row.consolidationMethod =
      methodAfter entity.id (inputs.filter fun input => decide (input.effectiveFrom ≤ d))
        entity.row.consolidationMethod

instance (s : OwnershipStore) (groupId : UUID) (inputs : List OwnershipInput) (d : Date) :
    Decidable (KeepsMethods s groupId inputs d) :=
  inferInstanceAs (Decidable (∀ _ ∈ _, _))

/-- **The results for a date are unchanged** by later interests of other owners and entities if and
only if the methods are. -/
theorem calculateEffectiveOwnership_eq_iff (h : OwnershipHistory s₁ later s₂)
    (hsame : interestsAsOf s₂ (some d) = interestsAsOf s₁ (some d)) :
    calculateEffectiveOwnership s₂ groupId (some d) =
        calculateEffectiveOwnership s₁ groupId (some d) ↔
      ∀ entity ∈ activeEntities s₁ groupId,
        methodAfter entity.id later entity.row.consolidationMethod =
          entity.row.consolidationMethod := by
  rw [calculateEffectiveOwnership_eq, calculateEffectiveOwnership_eq, hsame,
    activeEntities_of_recorded h groupId, List.map_map, List.map_inj_left]
  refine forall_congr' fun entity => imp_congr_right fun _ => ?_
  rw [Function.comp_apply, resultWith_map, resultWith_inj]
  rfl

/-! ### When a history leaves a date as it was -/

/-- At a date, a store takes the interests that were in force, and has the results another one has
that it came from. -/
structure IsPointInTime (s₁ s₂ : OwnershipStore) (groupId : UUID) (d : Date) : Prop where
  inForce : interestsAsOf s₂ (some d) = interestsInForce s₂ d
  unchanged : calculateEffectiveOwnership s₂ groupId (some d) =
    calculateEffectiveOwnership s₁ groupId (some d)

theorem filter_append_filter
    (h : inputs.Pairwise fun input input' => input.effectiveFrom ≤ input'.effectiveFrom)
    (d : Date) :
    (inputs.filter fun input => decide (input.effectiveFrom ≤ d)) ++
      (inputs.filter fun input => decide (d < input.effectiveFrom)) = inputs := by
  induction inputs with
  | nil => rfl
  | cons input rest ih =>
    obtain ⟨hfirst, hrest⟩ := List.pairwise_cons.mp h
    by_cases hbefore : input.effectiveFrom ≤ d
    · rw [List.filter_cons, List.filter_cons, if_pos (decide_eq_true hbefore),
        if_neg (by simpa using hbefore), List.cons_append, ih hrest]
    · -- all that follow are after the date, too
      have hafter : ∀ input' ∈ input :: rest, d < input'.effectiveFrom := by
        intro input' hmem
        rcases List.mem_cons.mp hmem with rfl | hmem
        · exact not_le.mp hbefore
        · exact lt_of_lt_of_le (not_le.mp hbefore) (hfirst input' hmem)
      have hnone : (input :: rest).filter (fun input => decide (input.effectiveFrom ≤ d)) = [] :=
        List.filter_eq_nil_iff.mpr fun input' hmem => by simpa using hafter input' hmem
      have hall : (input :: rest).filter (fun input => decide (d < input.effectiveFrom)) =
          input :: rest :=
        List.filter_eq_self.mpr fun input' hmem => decide_eq_true (hafter input' hmem)
      rw [hnone, hall, List.nil_append]

/-- **Ownership is point-in-time** at a date if and only if no owner and entity have interests on
either side of the date, and the changes after it leave the methods of consolidation: for every
history with increasing dates from no interests, every date and every group. -/
theorem isPointInTime_iff (hempty : s₀.interests = Table.empty) (h : OwnershipHistory s₀ inputs s₂)
    (hincreasing : inputs.Pairwise fun input input' =>
      input.effectiveFrom ≤ input'.effectiveFrom) (groupId : UUID) (d : Date) :
    ∃ s₁, OwnershipHistory s₀ (inputs.filter fun input => decide (input.effectiveFrom ≤ d)) s₁ ∧
      OwnershipHistory s₁ (inputs.filter fun input => decide (d < input.effectiveFrom)) s₂ ∧
      (IsPointInTime s₁ s₂ groupId d ↔
        KeptApart inputs d ∧ KeepsMethods s₀ groupId inputs d) := by
  have hsplit := filter_append_filter hincreasing d
  set earlier := inputs.filter fun input => decide (input.effectiveFrom ≤ d) with hearlier_def
  set later := inputs.filter fun input => decide (d < input.effectiveFrom) with hlater_def
  have hearlier : ∀ input ∈ earlier, input.effectiveFrom ≤ d := by
    intro input hmem
    exact of_decide_eq_true (List.mem_filter.mp hmem).2
  have hlater : ∀ input ∈ later, d < input.effectiveFrom := by
    intro input hmem
    exact of_decide_eq_true (List.mem_filter.mp hmem).2
  have hrows : Tracks (earlier ++ later) s₂.interests := by
    rw [hsplit]
    exact Tracks.of_recorded hempty h
  rw [← hsplit] at h
  obtain ⟨s₁, h₁, h₂⟩ := h.split
  refine ⟨s₁, h₁, h₂, ?_⟩
  have hforce := interestsAsOf_eq_interestsInForce_iff hempty h₁ h₂ hrows hearlier hlater
  rw [hsplit] at hforce
  have hresults (hapart : KeptApart inputs d) :
      calculateEffectiveOwnership s₂ groupId (some d) =
        calculateEffectiveOwnership s₁ groupId (some d) ↔ KeepsMethods s₀ groupId inputs d := by
    have hpairs : ∀ input ∈ earlier, ∀ input' ∈ later, ¬ input.SamePair input' := by
      intro input hmem input' hmem' hsame
      have hle := hapart input (List.mem_of_mem_filter hmem) input' (List.mem_of_mem_filter hmem')
        hsame (hearlier input hmem)
      exact absurd hle (not_le.mpr (hlater input' hmem'))
    rw [calculateEffectiveOwnership_eq_iff h₂
        (interestsAsOf_of_recorded hempty h₁ h₂ hpairs hlater),
      activeEntities_of_recorded h₁ groupId, List.forall_mem_map]
    refine forall_congr' fun entity => imp_congr_right fun _ => ?_
    have hmethod (method : ConsolidationMethod) : methodAfter entity.id inputs method =
        methodAfter entity.id later (methodAfter entity.id earlier method) := by
      rw [← methodAfter_append, hsplit]
    rw [hmethod]
    rfl
  constructor
  · intro hpoint
    have hapart := hforce.mp hpoint.inForce
    exact ⟨hapart, (hresults hapart).mp hpoint.unchanged⟩
  · rintro ⟨hapart, hmethods⟩
    exact ⟨hforce.mpr hapart, (hresults hapart).mpr hmethods⟩

/-! ### A share that grows -/

def newYear : Date := ⟨2019, 1, 1, by decide⟩

def midYear : Date := ⟨2019, 7, 1, by decide⟩

def quarterEnd : Date := ⟨2019, 3, 31, by decide⟩

/-- A parent and two entities, without interests. -/
def shareGroup : OwnershipStore where
  entities := ((Table.empty.insert
    { groupId := 1, entityCode := "PARENT", isActive := true, consolidationMethod := .full }).insert
    { groupId := 1, entityCode := "A", isActive := true, parentEntityId := some 0
      consolidationMethod := .full }).insert
    { groupId := 1, entityCode := "B", isActive := true, parentEntityId := some 0
      consolidationMethod := .full }
  interests := Table.empty

def shareInput (entityId : UUID) (percentage : ℚ) (effectiveFrom : Date) : OwnershipInput where
  investorEntityId := 0
  investeeEntityId := entityId
  ownershipPercentage := percentage
  votingRightsPercentage := percentage
  effectiveFrom := effectiveFrom

def withShare (s : OwnershipStore) (input : OwnershipInput) : OwnershipStore :=
  commit (createOwnership 1 input) s

theorem history_withShare {s s' : OwnershipStore} {inputs : List OwnershipInput}
    {input : OwnershipInput} (h : OwnershipHistory s inputs s')
    (hreturns : returns (createOwnership 1 input) s' = true) :
    OwnershipHistory s (inputs ++ [input]) (withShare s' input) := by
  obtain ⟨k, s'', hrun⟩ := returns_iff.mp hreturns
  rw [withShare, commit_of_ok hrun]
  exact h.create hrun

theorem history_shares {first second : OwnershipInput}
    (hfirst : returns (createOwnership 1 first) shareGroup = true)
    (hsecond : returns (createOwnership 1 second) (withShare shareGroup first) = true) :
    OwnershipHistory shareGroup [first, second] (withShare (withShare shareGroup first) second) :=
  history_withShare (history_withShare .start hfirst) hsecond

/-- A share in another entity leaves the first quarter as it was. -/
theorem isPointInTime_iff_sample :
    ∃ s₁, OwnershipHistory shareGroup [shareInput 1 60 newYear] s₁ ∧
      OwnershipHistory s₁ [shareInput 2 80 midYear]
        (withShare (withShare shareGroup (shareInput 1 60 newYear)) (shareInput 2 80 midYear)) ∧
      IsPointInTime s₁
        (withShare (withShare shareGroup (shareInput 1 60 newYear)) (shareInput 2 80 midYear)) 1
        quarterEnd := by
  obtain ⟨s₁, h₁, h₂, hiff⟩ := isPointInTime_iff rfl
    (history_shares (by decide +kernel) (by decide +kernel) :
      OwnershipHistory shareGroup [shareInput 1 60 newYear, shareInput 2 80 midYear] _)
    (by decide +kernel) 1 quarterEnd
  have hearlier : [shareInput 1 60 newYear, shareInput 2 80 midYear].filter (fun input =>
      decide (input.effectiveFrom ≤ quarterEnd)) = [shareInput 1 60 newYear] := by
    decide +kernel
  have hlater : [shareInput 1 60 newYear, shareInput 2 80 midYear].filter (fun input =>
      decide (quarterEnd < input.effectiveFrom)) = [shareInput 2 80 midYear] := by
    decide +kernel
  rw [hearlier] at h₁
  rw [hlater] at h₂
  exact ⟨s₁, h₁, h₂, hiff.mpr ⟨by decide +kernel, by decide +kernel⟩⟩

/-- **Not every history is point-in-time**: once a share of 60 per cent has grown to 80 in the
middle of the year, no interest is taken for its first quarter. -/
theorem share_not_point_in_time :
    ¬ ∀ (s₀ s₁ s₂ : OwnershipStore) (earlier later : List OwnershipInput) (groupId : UUID)
        (d : Date),
      s₀.interests = Table.empty → OwnershipHistory s₀ earlier s₁ → OwnershipHistory s₁ later s₂ →
      (earlier ++ later).Pairwise (fun input input' =>
        input.effectiveFrom ≤ input'.effectiveFrom) →
      (∀ input ∈ earlier, input.effectiveFrom ≤ d) → (∀ input ∈ later, d < input.effectiveFrom) →
      IsPointInTime s₁ s₂ groupId d := by
  intro h
  have h₁ : OwnershipHistory shareGroup [shareInput 1 60 newYear]
      (withShare shareGroup (shareInput 1 60 newYear)) :=
    history_withShare .start (by decide +kernel)
  have h₂ : OwnershipHistory (withShare shareGroup (shareInput 1 60 newYear))
      [shareInput 1 80 midYear]
      (withShare (withShare shareGroup (shareInput 1 60 newYear)) (shareInput 1 80 midYear)) :=
    history_withShare .start (by decide +kernel)
  have hpoint := h shareGroup (withShare shareGroup (shareInput 1 60 newYear))
    (withShare (withShare shareGroup (shareInput 1 60 newYear)) (shareInput 1 80 midYear))
    [shareInput 1 60 newYear] [shareInput 1 80 midYear] 1 quarterEnd rfl h₁ h₂
    (by decide +kernel) (by decide +kernel) (by decide +kernel)
  have htaken : (interestsAsOf (withShare (withShare shareGroup (shareInput 1 60 newYear))
        (shareInput 1 80 midYear)) (some quarterEnd)).length ≠
      (interestsInForce (withShare (withShare shareGroup (shareInput 1 60 newYear))
        (shareInput 1 80 midYear)) quarterEnd).length := by decide +kernel
  exact htaken (congrArg List.length hpoint.inForce)

end DotmacErp.Consolidation
