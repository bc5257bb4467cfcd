import DotmacErp.Consolidation.Eliminations
import DotmacErp.Consolidation.Ownership

/-!
# Eliminating the investments in subsidiaries

A consolidation run makes an entry for each subsidiary that is fully consolidated and has a current
interest with a cost: the equity of the subsidiary is debited, the investment is credited at its
cost, and the non-controlling interest at its amount.

The entry should take the net assets of the subsidiary out of equity, cost and non-controlling
interest less goodwill, and recognize the goodwill. It leaves goodwill out: a positive goodwill is
debited to equity together with the net assets, and with a negative one, a bargain purchase, the
entry does not balance and the whole run of the eliminations is refused. So the eliminations are
right if and only if no subsidiary has goodwill, and one without a cost has no non-controlling
interest (`investmentsEliminated_iff`).

The entities and interests of the group are read from the register of ownership.
-/

namespace DotmacErp.Consolidation

open Relational Session Table ConsolidationService

namespace ConsolidationService

structure InvestmentAccounts where
  investmentAccountId : UUID
  equityAccountId : UUID
  goodwillAccountId : UUID
  nciAccountId : UUID

def currentOwnership (register : OwnershipStore) (entityId : UUID) :
    Option (Stored OwnershipInterest) :=
  register.interests.find? fun interest =>
    decide (interest.investeeEntityId = entityId ∧ interest.isCurrent = true)

def subsidiariesOf (register : OwnershipStore) (groupId : UUID) : List (Stored GroupEntity) :=
  register.entities.select fun entity => decide (entity.groupId = groupId ∧
    entity.isActive = true ∧ entity.consolidationMethod = .full)

def investmentInput (accounts : InvestmentAccounts) (currencyCode : String)
    (subsidiary : Stored GroupEntity) (ownership : OwnershipInterest) (investmentCost : ℚ) :
    EliminationInput :=
  let goodwill := subsidiary.row.goodwillAtAcquisition.getD 0
  let nciAtAcquisition := ownership.nciAtAcquisition.getD 0
  let equityToEliminate := investmentCost - goodwill + nciAtAcquisition
  { eliminationType := .investmentInSubsidiary
    description := "Eliminate investment in " ++ subsidiary.row.entityCode
    currencyCode
    debitAccountId := accounts.equityAccountId
    debitAmount := if 0 < goodwill then equityToEliminate + goodwill else equityToEliminate
    creditAccountId := accounts.investmentAccountId
    creditAmount := investmentCost
    entity1Id := some ownership.investorEntityId
    entity2Id := some subsidiary.id
    nciCreditAccountId := some accounts.nciAccountId
    nciCreditAmount := nciAtAcquisition
    isAutomatic := true }

def investmentInput? (register : OwnershipStore) (accounts : InvestmentAccounts)
    (currencyCode : String) (subsidiary : Stored GroupEntity) : Option EliminationInput :=
  match currentOwnership register subsidiary.id with
  | none => none
  | some ownership =>
    match ownership.row.investmentCost with
    | none => none
    | some investmentCost =>
      if investmentCost = 0 then none
      else some (investmentInput accounts currencyCode subsidiary ownership.row investmentCost)

/-- The loop over the subsidiaries. -/
def eliminateInvestments (groupId runId : UUID)
    (input? : Stored GroupEntity → Option EliminationInput) :
    List (Stored GroupEntity) → ConsolidationSession (List UUID)
  | [] => pure []
  | subsidiary :: subsidiaries =>
    match input? subsidiary with
    | none => eliminateInvestments groupId runId input? subsidiaries
    | some input => do
      let entry ← createEliminationEntry groupId runId input
      let entries ← eliminateInvestments groupId runId input? subsidiaries
      pure (entry :: entries)

/-- `generate_investment_eliminations`. The reporting currency of the run comes with the call. -/
def generateInvestmentEliminations (register : OwnershipStore) (groupId runId : UUID)
    (accounts : InvestmentAccounts) (reportingCurrencyCode : String) :
    ConsolidationSession (List UUID) := do
  let _ ← loadRun groupId runId
  eliminateInvestments groupId runId (investmentInput? register accounts reportingCurrencyCode)
    (subsidiariesOf register groupId)

end ConsolidationService

/-! ### What an entry does to an account -/

def EliminationEntry.effect (entry : EliminationEntry) (account : UUID) : ℚ :=
  (if entry.debitAccountId = account then entry.debitAmount else 0) +
    (if entry.nciDebitAccountId = some account then entry.nciDebitAmount else 0) -
    (if entry.creditAccountId = account then entry.creditAmount else 0) -
    (if entry.nciCreditAccountId = some account then entry.nciCreditAmount else 0)

/-- What the elimination of an investment does to an account: it takes the net assets out of equity,
recognizes the goodwill, removes the investment and recognizes the non-controlling interest. -/
def eliminationEffect (accounts : InvestmentAccounts) (investmentCost nci goodwill : ℚ)
    (account : UUID) : ℚ :=
  (if accounts.equityAccountId = account then investmentCost + nci - goodwill else 0) +
    (if accounts.goodwillAccountId = account then goodwill else 0) -
    (if accounts.investmentAccountId = account then investmentCost else 0) -
    (if accounts.nciAccountId = account then nci else 0)

def entriesFor (s : ConsolidationStore) (ids : List UUID) (subsidiaryId : UUID) :
    List EliminationEntry :=
  (ids.filterMap s.eliminations.get?).filter fun entry =>
    decide (entry.entity2Id = some subsidiaryId)

/-- The eliminations are made, and what the entries of each subsidiary do to each account is what
the elimination of the investment in it does. -/
def InvestmentsEliminated (register : OwnershipStore) (groupId runId : UUID)
    (accounts : InvestmentAccounts) (currencyCode : String) (s : ConsolidationStore) : Prop :=
  ∃ ids s', generateInvestmentEliminations register groupId runId accounts currencyCode s =
      .ok ids s' ∧
    ∀ subsidiary ∈ subsidiariesOf register groupId,
      ∀ ownership, currentOwnership register subsidiary.id = some ownership → ∀ account,
        ((entriesFor s' ids subsidiary.id).map fun entry => entry.effect account).sum =
          eliminationEffect accounts (ownership.row.investmentCost.getD 0)
            (ownership.row.nciAtAcquisition.getD 0)
            (subsidiary.row.goodwillAtAcquisition.getD 0) account

/-- No subsidiary has goodwill, and one whose interest has no cost has no non-controlling
interest. -/
def WithoutGoodwill (register : OwnershipStore) (groupId : UUID) : Prop :=
  ∀ subsidiary ∈ subsidiariesOf register groupId,
    ∀ ownership, currentOwnership register subsidiary.id = some ownership →
      subsidiary.row.goodwillAtAcquisition.getD 0 = 0 ∧
        (ownership.row.investmentCost.getD 0 = 0 → ownership.row.nciAtAcquisition.getD 0 = 0)

/-! ### The loop -/

def EliminationInput.Balanced (input : EliminationInput) : Prop :=
  input.debitAmount + input.nciDebitAmount = input.creditAmount + input.nciCreditAmount

section Loop

variable {s s' : ConsolidationStore} {groupId periodId runId : UUID}
  {input? : Stored GroupEntity → Option EliminationInput} {subsidiaries : List (Stored GroupEntity)}

theorem balanced_of_createEliminationEntry {input : EliminationInput} {entryId : UUID}
    (h : createEliminationEntry groupId runId input s = .ok entryId s') : input.Balanced := by
  rw [createEliminationEntry, bind_eq_ok] at h
  obtain ⟨run, s₁, -, h⟩ := h
  rw [refuse_bind, refuse_bind] at h
  exact not_not.mp h.2.1

theorem eliminateInvestments_eq_ok (hrun : InProgress s groupId periodId runId)
    (hbalanced : ∀ subsidiary ∈ subsidiaries, ∀ input, input? subsidiary = some input →
      input.Balanced) :
    ∃ ids s', eliminateInvestments groupId runId input? subsidiaries s = .ok ids s' ∧
      (∀ k entry, s.eliminations.get? k = some entry → s'.eliminations.get? k = some entry) ∧
      ids.filterMap s'.eliminations.get? =
        (subsidiaries.filterMap input?).map fun input =>
          { input with consolidationRunId := runId } := by
  induction subsidiaries generalizing s with
  | nil => exact ⟨[], s, rfl, fun _ _ h => h, rfl⟩
  | cons subsidiary subsidiaries ih =>
    rw [List.forall_mem_cons] at hbalanced
    rw [eliminateInvestments]
    cases hinput : input? subsidiary with
    | none =>
      obtain ⟨ids, s', hloop, hkept, hentries⟩ := ih hrun hbalanced.2
      refine ⟨ids, s', hloop, hkept, ?_⟩
      rw [hentries, List.filterMap_cons_none hinput]
    | some input =>
      obtain ⟨s₁, hs₁⟩ : ∃ s₁ : ConsolidationStore, s₁ = { s with
          eliminations := s.eliminations.insert { input with consolidationRunId := runId }
          runs := s.runs.modify runId (addStatistics input) } := ⟨_, rfl⟩
      have hcreate : createEliminationEntry groupId runId input s =
          .ok s.eliminations.next s₁ := by
        rw [hs₁]
        exact createEliminationEntry_eq_ok hrun (hbalanced.1 input hinput)
      have hrun₁ : InProgress s₁ groupId periodId runId :=
        InProgress.modify (f := addStatistics input) (fun _ => ⟨rfl, rfl, rfl⟩)
          (by rw [hs₁]) hrun
      obtain ⟨ids, s', hloop, hkept, hentries⟩ := ih hrun₁ hbalanced.2
      have hnew : s₁.eliminations.get? s.eliminations.next =
          some { input with consolidationRunId := runId } := by
        rw [hs₁]
        exact get?_insert_self _ _
      refine ⟨s.eliminations.next :: ids, s', bind_eq_ok.mpr ⟨_, s₁, hcreate,
        bind_eq_ok.mpr ⟨ids, s', hloop, rfl⟩⟩, fun k entry hk => hkept k entry ?_, ?_⟩
      · rw [hs₁]
        exact get?_insert_of_some hk _
      · rw [List.filterMap_cons_some (hkept _ _ hnew), hentries,
          List.filterMap_cons_some hinput, List.map_cons]

theorem balanced_of_eliminateInvestments {ids : List UUID}
    (h : eliminateInvestments groupId runId input? subsidiaries s = .ok ids s') :
    ∀ subsidiary ∈ subsidiaries, ∀ input, input? subsidiary = some input → input.Balanced := by
  induction subsidiaries generalizing s s' ids with
  | nil => exact fun _ h => absurd h List.not_mem_nil
  | cons subsidiary subsidiaries ih =>
    rw [eliminateInvestments] at h
    rw [List.forall_mem_cons]
    cases hinput : input? subsidiary with
    | none =>
      rw [hinput] at h
      exact ⟨fun input hsome => absurd hsome (by simp), ih h⟩
    | some input =>
      rw [hinput, bind_eq_ok] at h
      obtain ⟨entry, s₁, hcreate, h⟩ := h
      obtain ⟨entries, s₂, hloop, -⟩ := bind_eq_ok.mp h
      refine ⟨fun input' hsome => ?_, ih hloop⟩
      rw [← Option.some.inj hsome]
      exact balanced_of_createEliminationEntry hcreate

end Loop

/-! ### The entries of a subsidiary -/

section Entries

variable {input? : Stored GroupEntity → Option EliminationInput}
  {subsidiaries : List (Stored GroupEntity)} {subsidiary : Stored GroupEntity}

theorem filter_inputs_of_notMem
    (hid : ∀ x input, input? x = some input → input.entity2Id = some x.id)
    (hnotMem : subsidiary.id ∉ subsidiaries.map Stored.id) :
    (subsidiaries.filterMap input?).filter
      (fun input => decide (input.entity2Id = some subsidiary.id)) = [] := by
  rw [List.filter_eq_nil_iff]
  intro input hinput
  obtain ⟨x, hx, hsome⟩ := List.mem_filterMap.mp hinput
  rw [decide_eq_true_eq, hid x input hsome, Option.some.injEq]
  exact fun hsame => hnotMem (hsame ▸ List.mem_map_of_mem hx)

theorem filter_inputs (hid : ∀ x input, input? x = some input → input.entity2Id = some x.id)
    (hnodup : (subsidiaries.map Stored.id).Nodup) (hmem : subsidiary ∈ subsidiaries) :
    (subsidiaries.filterMap input?).filter
      (fun input => decide (input.entity2Id = some subsidiary.id)) =
        (input? subsidiary).toList := by
  induction subsidiaries with
  | nil => exact absurd hmem List.not_mem_nil
  | cons x xs ih =>
    rw [List.map_cons, List.nodup_cons] at hnodup
    rcases List.mem_cons.mp hmem with rfl | hmem
    · have hrest := filter_inputs_of_notMem hid hnodup.1
      cases hinput : input? subsidiary with
      | none => rw [List.filterMap_cons_none hinput, hrest, Option.toList_none]
      | some input =>
        rw [List.filterMap_cons_some hinput, List.filter_cons_of_pos, hrest, Option.toList_some]
        exact decide_eq_true (hid _ _ hinput)
    · have hother : x.id ≠ subsidiary.id := fun hsame =>
        hnodup.1 (hsame ▸ List.mem_map_of_mem hmem)
      cases hinput : input? x with
      | none => rw [List.filterMap_cons_none hinput, ih hnodup.2 hmem]
      | some input =>
        rw [List.filterMap_cons_some hinput, List.filter_cons_of_neg, ih hnodup.2 hmem]
        rw [decide_eq_true_eq, hid _ _ hinput, Option.some.injEq]
        exact hother

end Entries

section Investments

variable {register : OwnershipStore} {s : ConsolidationStore} {groupId periodId runId : UUID}
  {accounts : InvestmentAccounts} {currencyCode : String} {subsidiary : Stored GroupEntity}
  {ownership : Stored OwnershipInterest}

theorem investmentInput?_eq (h : currentOwnership register subsidiary.id = some ownership) :
    investmentInput? register accounts currencyCode subsidiary =
      if ownership.row.investmentCost.getD 0 = 0 then none
      else some (investmentInput accounts currencyCode subsidiary ownership.row
        (ownership.row.investmentCost.getD 0)) := by
  rw [investmentInput?, h]
  cases hcost : ownership.row.investmentCost with
  | none => simp [hcost]
  | some investmentCost => simp [hcost]

theorem entity2Id_of_investmentInput? {input : EliminationInput}
    (h : investmentInput? register accounts currencyCode subsidiary = some input) :
    input.entity2Id = some subsidiary.id := by
  cases hownership : currentOwnership register subsidiary.id with
  | none =>
    rw [investmentInput?, hownership] at h
    exact absurd h (by simp)
  | some ownership =>
    rw [investmentInput?_eq hownership] at h
    split_ifs at h
    rw [← Option.some.inj h]
    rfl

theorem effect_of_eliminations (hrun : InProgress s groupId periodId runId)
    (hbalanced : ∀ x ∈ subsidiariesOf register groupId, ∀ input,
      investmentInput? register accounts currencyCode x = some input → input.Balanced) :
    ∃ ids s', generateInvestmentEliminations register groupId runId accounts currencyCode s =
        .ok ids s' ∧
      ∀ subsidiary ∈ subsidiariesOf register groupId, ∀ account,
        ((entriesFor s' ids subsidiary.id).map fun entry => entry.effect account).sum =
          ((investmentInput? register accounts currencyCode subsidiary).toList.map fun input =>
            EliminationEntry.effect { input with consolidationRunId := runId } account).sum := by
  obtain ⟨ids, s', hloop, -, hentries⟩ := eliminateInvestments_eq_ok hrun hbalanced
  obtain ⟨run, hget, hgroup, -, -⟩ := hrun
  refine ⟨ids, s', ?_, fun subsidiary hmem account => ?_⟩
  · rw [generateInvestmentEliminations]
    refine bind_eq_ok.mpr ⟨run, s, ?_, hloop⟩
    rw [loadRun]
    exact get_bind.mpr (orRaise_bind.mpr ⟨run, hget,
      refuse_bind.mpr ⟨not_not.mpr hgroup, rfl⟩⟩)
  · have hnodup : ((subsidiariesOf register groupId).map Stored.id).Nodup :=
      register.entities.nodup_ids.sublist (List.filter_sublist.map Stored.id)
    have hid : ∀ x input, investmentInput? register accounts currencyCode x = some input →
        input.entity2Id = some x.id := fun _ _ => entity2Id_of_investmentInput?
    have hfilter := filter_inputs hid hnodup hmem
    rw [entriesFor, hentries, List.filter_map, ← hfilter, List.map_map]
    rfl

/-- **Investments are eliminated**, whatever the accounts, if and only if no subsidiary has goodwill
and one without a cost has no non-controlling interest. -/
theorem investmentsEliminated_iff (hrun : InProgress s groupId periodId runId) :
    (∀ accounts currencyCode,
      InvestmentsEliminated register groupId runId accounts currencyCode s) ↔
      WithoutGoodwill register groupId := by
  constructor
  · intro h subsidiary hmem ownership hownership
    obtain ⟨ids, s', hmade, heffect⟩ := h ⟨0, 1, 2, 3⟩ ""
    have hbalanced : ∀ x ∈ subsidiariesOf register groupId, ∀ input,
        investmentInput? register ⟨0, 1, 2, 3⟩ "" x = some input → input.Balanced := by
      rw [generateInvestmentEliminations] at hmade
      obtain ⟨run, s₁, -, hloop⟩ := bind_eq_ok.mp hmade
      exact balanced_of_eliminateInvestments hloop
    obtain ⟨ids', s'', hmade', hsum⟩ := effect_of_eliminations hrun hbalanced
    obtain ⟨rfl, rfl⟩ : ids = ids' ∧ s' = s'' := by
      have hsame := hmade.symm.trans hmade'
      injection hsame with hids hstore
      exact ⟨hids, hstore⟩
    have haccount (account : UUID) := (hsum subsidiary hmem account).symm.trans
      (heffect subsidiary hmem ownership hownership account)
    -- the goodwill account is not touched by any entry
    have hgoodwill := haccount 2
    have hnci := haccount 3
    rw [investmentInput?_eq hownership] at hgoodwill hnci
    by_cases hcost : ownership.row.investmentCost.getD 0 = 0
    · rw [if_pos hcost] at hgoodwill hnci
      simp [eliminationEffect] at hgoodwill hnci
      exact ⟨hgoodwill.symm, fun _ => hnci⟩
    · rw [if_neg hcost] at hgoodwill
      simp [eliminationEffect, EliminationEntry.effect, investmentInput] at hgoodwill
      exact ⟨hgoodwill.symm, fun hzero => absurd hzero hcost⟩
  · intro hwithout accounts currencyCode
    have hbalanced : ∀ x ∈ subsidiariesOf register groupId, ∀ input,
        investmentInput? register accounts currencyCode x = some input → input.Balanced := by
      intro x hx input hinput
      cases hownership : currentOwnership register x.id with
      | none =>
        rw [investmentInput?, hownership] at hinput
        exact absurd hinput (by simp)
      | some ownership =>
        obtain ⟨hgoodwill, -⟩ := hwithout x hx ownership hownership
        rw [investmentInput?_eq hownership] at hinput
        split_ifs at hinput
        rw [← Option.some.inj hinput]
        simp [EliminationInput.Balanced, investmentInput, hgoodwill]
    obtain ⟨ids, s', hmade, hsum⟩ := effect_of_eliminations hrun hbalanced
    refine ⟨ids, s', hmade, fun subsidiary hmem ownership hownership account => ?_⟩
    obtain ⟨hgoodwill, hnci⟩ := hwithout subsidiary hmem ownership hownership
    rw [hsum subsidiary hmem account, investmentInput?_eq hownership]
    by_cases hcost : ownership.row.investmentCost.getD 0 = 0
    · rw [if_pos hcost, hcost, hnci hcost, hgoodwill]
      simp [eliminationEffect]
    · rw [if_neg hcost]
      simp [eliminationEffect, EliminationEntry.effect, investmentInput, hgoodwill]

end Investments

/-! ### A subsidiary with goodwill -/

def acquiredEntity (goodwill : ℚ) : GroupEntity where
  groupId := 1
  entityCode := "SUB"
  isActive := true
  parentEntityId := some 0
  consolidationMethod := .full
  goodwillAtAcquisition := some goodwill

def acquiredInterest (investeeEntityId : UUID) (cost nci : ℚ) : OwnershipInterest where
  investorEntityId := 0
  investeeEntityId
  ownershipPercentage := 80
  votingRightsPercentage := 80
  effectiveOwnershipPercentage := 80
  effectiveFrom := ⟨2021, 1, 1, by decide⟩
  investmentCost := some cost
  nciPercentage := 20
  nciAtAcquisition := some nci
  hasControl := true
  hasSignificantInfluence := false
  hasJointControl := false

/-- Of three subsidiaries one has cost nothing, and one has the given goodwill. -/
def acquiredGroup (goodwill : ℚ) : OwnershipStore where
  entities := (((Table.empty.insert
    { groupId := 1, entityCode := "PARENT", isActive := true, consolidationMethod := .full }).insert
      (acquiredEntity goodwill)).insert (acquiredEntity 0)).insert (acquiredEntity 0)
  interests := ((Table.empty.insert (acquiredInterest 1 800 200)).insert
    (acquiredInterest 2 0 0)).insert (acquiredInterest 3 90 10)

def startedRun : ConsolidationStore where
  entities := Table.empty
  balances := Table.empty
  runs := Table.empty.insert { groupId := 1, fiscalPeriodId := 0, status := .inProgress }
  eliminations := Table.empty

theorem inProgress_startedRun : InProgress startedRun 1 0 0 := ⟨_, rfl, rfl, rfl, rfl⟩

/-- Without goodwill the investments of 800 and 90 and the shares in them are eliminated. -/
theorem investmentsEliminated_iff_sample :
    InvestmentsEliminated (acquiredGroup 0) 1 0 ⟨0, 1, 2, 3⟩ "USD" startedRun := by
  refine (investmentsEliminated_iff inProgress_startedRun).mpr ?_ ⟨0, 1, 2, 3⟩ "USD"
  intro subsidiary hmem ownership hownership
  have hgoodwill : ∀ x ∈ subsidiariesOf (acquiredGroup 0) 1,
      x.row.goodwillAtAcquisition.getD 0 = 0 := by
    decide +kernel
  have hcost : ∀ x ∈ (acquiredGroup 0).interests.rows, x.row.investmentCost.getD 0 = 0 →
      x.row.nciAtAcquisition.getD 0 = 0 := by
    decide +kernel
  obtain ⟨hget, -⟩ := find?_eq_some hownership
  exact ⟨hgoodwill subsidiary hmem, hcost _ (get?_eq_some.mp hget)⟩

/-- A goodwill of 50 is debited to equity and is not recognized. -/
theorem goodwill_not_recognized : ¬ ∀ (register : OwnershipStore) (s : ConsolidationStore)
    (groupId periodId runId : UUID), InProgress s groupId periodId runId →
    ∀ accounts currencyCode,
      InvestmentsEliminated register groupId runId accounts currencyCode s := by
  intro h
  obtain ⟨ids, s', hmade, heffect⟩ :=
    h (acquiredGroup 50) startedRun 1 0 0 inProgress_startedRun ⟨0, 1, 2, 3⟩ "USD"
  have hmem : (⟨1, acquiredEntity 50⟩ : Stored GroupEntity) ∈
      subsidiariesOf (acquiredGroup 50) 1 := mem_select.mpr ⟨rfl, rfl⟩
  have hownership : currentOwnership (acquiredGroup 50) 1 = some ⟨0, acquiredInterest 1 800 200⟩ :=
    rfl
  have hgoodwill := heffect ⟨1, acquiredEntity 50⟩ hmem ⟨0, acquiredInterest 1 800 200⟩ hownership 2
  have hnothing : (match generateInvestmentEliminations (acquiredGroup 50) 1 0 ⟨0, 1, 2, 3⟩ "USD"
      startedRun with
      | .ok ids s' => ((entriesFor s' ids 1).map fun entry => entry.effect 2).sum
      | .error _ _ => 0) = (0 : ℚ) := by
    decide +kernel
  rw [hmade] at hnothing
  have hfifty : (0 : ℚ) = eliminationEffect ⟨0, 1, 2, 3⟩ 800 200 50 2 :=
    hnothing.symm.trans hgoodwill
  exact absurd hfifty (by decide +kernel)

end DotmacErp.Consolidation
