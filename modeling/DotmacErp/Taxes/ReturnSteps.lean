import DotmacErp.Foundation.Selections
import DotmacErp.Taxes.TaxReturns

/-!
# What the calls on tax returns leave

A call on one return rewrites its row, or adds one; what is filed stays so or is amended
(`Rewritten`). Filing alone touches transactions, and those only that no return includes
(`fileReturn_eq_ok`).
-/

namespace DotmacErp.Taxes

open Relational Session Table TaxReturnService

variable {s s' : TaxStore} {org : UUID} {u : PUnit}

/-! ### Lookups -/

variable {k : UUID} {ret : TaxReturn}

theorem returnOf_eq_some :
    returnOf s org k = some ret ↔
      s.returns.get? k = some ret ∧ ret.organizationId = org := by
  rw [returnOf, Option.filter_eq_some_iff, decide_eq_true_eq]

theorem periodOf_eq_some {period : TaxPeriod} :
    periodOf s org k = some period ↔
      s.periods.get? k = some period ∧ period.organizationId = org := by
  rw [periodOf, Option.filter_eq_some_iff, decide_eq_true_eq]

def Existing (org periodId : UUID) (returnType : TaxReturnType) (ret : TaxReturn) :
    Prop :=
  ret.taxPeriodId = periodId ∧ ret.organizationId = org ∧
    ret.returnType = returnType ∧ ret.isAmendment = false

variable {periodId : UUID}

theorem existingReturn_eq_some {returnType : TaxReturnType}
    {r : Stored TaxReturn} (h : existingReturn s org periodId returnType = some r) :
    s.returns.get? r.id = some r.row ∧ Existing org periodId returnType r.row := by
  obtain ⟨hget, hexisting⟩ := find?_eq_some h
  exact ⟨hget, by simpa [Existing] using hexisting⟩

theorem existingReturn_eq_none {returnType : TaxReturnType}
    (h : existingReturn s org periodId returnType = none)
    (hk : s.returns.get? k = some ret) : ¬ Existing org periodId returnType ret := by
  have hnot := find?_eq_none.mp h k ret hk
  simpa [Existing] using hnot

/-! ### Returns that change -/

/-- One return is rewritten: it stays in its period, a filed one stays filed or is amended, with its
totals, and one that was not filed is not. -/
structure Rewritten (ret ret' : TaxReturn) : Prop where
  organization : ret'.organizationId = ret.organizationId
  period : ret'.taxPeriodId = ret.taxPeriodId
  reference : ret'.returnReference = ret.returnReference
  amendment : ret'.isAmendment = ret.isAmendment
  settled : ret.status = .filed ∨ ret.status = .amended →
    ret'.status = .filed ∨ ret'.status = .amended
  filed : ret'.status = .filed → ret.status = .filed ∧
    ret'.totalOutputTax = ret.totalOutputTax ∧ ret'.totalInputTax = ret.totalInputTax

theorem rewritten_withTotals (periodId userId : UUID) (adjustments : ℚ)
    (h : ret.status ∈ [TaxReturnStatus.draft, .prepared]) :
    Rewritten ret (withTotals s org periodId userId adjustments ret) := by
  refine ⟨rfl, rfl, rfl, rfl, fun hsettled => ?_, fun hfiled => ?_⟩
  · rcases hsettled with hstatus | hstatus <;> rw [hstatus] at h <;> exact absurd h (by decide)
  · have hstatus : ret.status = .filed := hfiled
    rw [hstatus] at h
    exact absurd h (by decide)

theorem Rewritten.prepared {ret' : TaxReturn} (h : Rewritten ret ret')
    (hstatus : ret.status ∈ [TaxReturnStatus.draft, .prepared]) :
    Rewritten ret (inStatus .prepared ret') := by
  refine ⟨h.organization, h.period, h.reference, h.amendment, fun hsettled => ?_, fun hfiled => ?_⟩
  · rcases hsettled with hwas | hwas <;> rw [hwas] at hstatus <;> exact absurd hstatus (by decide)
  · exact TaxReturnStatus.noConfusion hfiled

structure Unfiled (s : TaxStore) (ret : TaxReturn) : Prop where
  period : ∃ period, s.periods.get? ret.taxPeriodId = some period ∧
    period.organizationId = ret.organizationId
  reference : ret.returnReference = none
  status : ret.status ≠ .filed
  alone : ret.isAmendment = true ∨ ∀ k ret₀, s.returns.get? k = some ret₀ →
    ¬ Existing ret.organizationId ret.taxPeriodId ret.returnType ret₀

def Drafts (s s' : TaxStore) : Prop :=
  s' = s ∨ (∃ k ret f, s.returns.get? k = some ret ∧ Rewritten ret (f ret) ∧
    (f ret).returnType = ret.returnType ∧ s' = { s with returns := s.returns.modify k f }) ∨
  ∃ ret, Unfiled s ret ∧ s' = { s with returns := s.returns.insert ret }

/-- **Preparing** a return. -/
theorem prepareReturn_eq_ok {input : TaxReturnInput} {preparedByUserId : UUID}
    (h : prepareReturn org input preparedByUserId s = .ok k s') : Drafts s s' := by
  rw [prepareReturn, get_bind, orRaise_bind] at h
  obtain ⟨period, hperiod, h⟩ := h
  obtain ⟨-, h⟩ := refuse_bind.mp h
  obtain ⟨hdraft, h⟩ := refuse_bind.mp h
  rw [orRaise_bind] at h
  obtain ⟨periodId, -, h⟩ := h
  obtain ⟨hget, horg⟩ := periodOf_eq_some.mp hperiod
  cases hexisting : existingReturn s org input.taxPeriodId input.returnType with
  | some r =>
    rw [hexisting] at h hdraft
    obtain ⟨_, s₁, hset, hpure⟩ := bind_eq_ok.mp h
    obtain ⟨-, rfl⟩ := pure_eq_ok.mp hpure
    obtain rfl := set_eq_ok.mp hset
    have hstatus : r.row.status = .draft := by
      by_contra hnot
      exact hdraft ⟨r, rfl, hnot⟩
    have hopen : r.row.status ∈ [TaxReturnStatus.draft, .prepared] := by
      rw [hstatus]
      decide
    exact .inr (.inl ⟨r.id, r.row, _, (existingReturn_eq_some hexisting).1,
      (rewritten_withTotals _ _ _ hopen).prepared hopen, rfl, rfl⟩)
  | none =>
    rw [hexisting] at h
    obtain ⟨_, s₁, hset, hpure⟩ := bind_eq_ok.mp h
    obtain ⟨-, rfl⟩ := pure_eq_ok.mp hpure
    obtain rfl := set_eq_ok.mp hset
    exact .inr (.inr ⟨_, ⟨⟨period, hget, horg⟩, rfl, TaxReturnStatus.noConfusion,
      .inr fun k ret₀ hk => existingReturn_eq_none hexisting hk⟩, rfl⟩)

/-- **Refreshing** the return of a fiscal period. -/
theorem autoRefreshReturn_eq_ok {periodId jurisdictionId systemUserId : UUID}
    {result : Option UUID}
    (h : autoRefreshReturn org periodId jurisdictionId systemUserId s =
      .ok result s') : Drafts s s' := by
  rw [autoRefreshReturn, get_bind] at h
  cases hfound : s.periods.find? fun period => decide (period.organizationId = org ∧
      period.fiscalPeriodId = some periodId ∧ period.jurisdictionId = jurisdictionId) with
  | none =>
    rw [hfound] at h
    exact .inl (pure_eq_ok.mp h).2
  | some period =>
    rw [hfound] at h
    obtain ⟨hget, hmatch⟩ := find?_eq_some hfound
    obtain ⟨horg, -⟩ := of_decide_eq_true hmatch
    simp only at h
    split_ifs at h with hskip
    · exact .inl (pure_eq_ok.mp h).2
    · cases hexisting : existingReturn s org period.id .vat with
      | some r =>
        rw [hexisting] at h hskip
        obtain ⟨_, s₁, hset, hpure⟩ := bind_eq_ok.mp h
        obtain ⟨-, rfl⟩ := pure_eq_ok.mp hpure
        obtain rfl := set_eq_ok.mp hset
        have hopen : r.row.status ∈ [TaxReturnStatus.draft, .prepared] := by
          by_contra hnot
          exact hskip (.inr (.inl ⟨r, rfl, hnot⟩))
        exact .inr (.inl ⟨r.id, r.row, _, (existingReturn_eq_some hexisting).1,
          rewritten_withTotals _ _ _ hopen, rfl, rfl⟩)
      | none =>
        rw [hexisting] at h
        obtain ⟨_, s₁, hset, hpure⟩ := bind_eq_ok.mp h
        obtain ⟨-, rfl⟩ := pure_eq_ok.mp hpure
        obtain rfl := set_eq_ok.mp hset
        exact .inr (.inr ⟨_, ⟨⟨period.row, hget, horg⟩, rfl, TaxReturnStatus.noConfusion,
          .inr fun k ret₀ hk => existingReturn_eq_none hexisting hk⟩, rfl⟩)

variable {returnId : UUID}

/-- **Updating** a return: it may take another type. -/
theorem updateReturn_eq_ok {updatedByUserId : UUID} {returnType : Option TaxReturnType}
    {adjustments : ℚ}
    (h : updateReturn org returnId returnType adjustments updatedByUserId s =
      .ok u s') :
    ∃ ret f, s.returns.get? returnId = some ret ∧ Rewritten ret (f ret) ∧
      (f ret).returnType = returnType.getD ret.returnType ∧
      s' = { s with returns := s.returns.modify returnId f } := by
  rw [updateReturn, get_bind, orRaise_bind] at h
  obtain ⟨ret, hret, h⟩ := h
  obtain ⟨hstatus, h⟩ := refuse_bind.mp h
  rw [orRaise_bind] at h
  obtain ⟨period, -, h⟩ := h
  obtain ⟨-, h⟩ := refuse_bind.mp h
  obtain ⟨-, h⟩ := refuse_bind.mp h
  rw [orRaise_bind] at h
  obtain ⟨periodId, -, h⟩ := h
  have hopen := not_not.mp hstatus
  have hrewritten : Rewritten ret (inStatus .prepared
      (withTotals s org periodId updatedByUserId adjustments ret)) :=
    (rewritten_withTotals _ _ _ hopen).prepared hopen
  refine ⟨ret, _, (returnOf_eq_some.mp hret).1, ?_, rfl, set_eq_ok.mp h⟩
  exact ⟨hrewritten.organization, hrewritten.period, hrewritten.reference, hrewritten.amendment,
    hrewritten.settled, hrewritten.filed⟩

theorem reviewReturn_eq_ok {reviewedByUserId : UUID}
    (h : reviewReturn org returnId reviewedByUserId s = .ok u s') : Drafts s s' := by
  rw [reviewReturn, get_bind, orRaise_bind] at h
  obtain ⟨ret, hret, h⟩ := h
  obtain ⟨hstatus, h⟩ := refuse_bind.mp h
  obtain ⟨-, h⟩ := refuse_bind.mp h
  refine .inr (.inl ⟨returnId, ret, _, (returnOf_eq_some.mp hret).1, ?_, rfl, set_eq_ok.mp h⟩)
  refine ⟨rfl, rfl, rfl, rfl, fun hsettled => ?_, fun hfiled => TaxReturnStatus.noConfusion hfiled⟩
  rcases hsettled with hwas | hwas <;> exact absurd (not_not.mp hstatus) (by rw [hwas]; decide)

/-! ### Filing -/

theorem organizationId_setPeriodStatus {status : TaxPeriodStatus}
    {period : TaxPeriod} (h : s.periods.get? k = some period) :
    ∃ period', (setPeriodStatus s org periodId status).get? k = some period' ∧
      period'.organizationId = period.organizationId := by
  rw [setPeriodStatus]
  split_ifs
  · refine ⟨_, get?_modify_eq_some.mpr ⟨period, h, rfl⟩, ?_⟩
    split_ifs
    · rfl
    · rfl
  · exact ⟨period, h, rfl⟩

/-- **Filing** a return. -/
theorem fileReturn_eq_ok {takes : PeriodText → Bool} {filedByUserId : UUID}
    {filingReference : Option String}
    (h : fileReturn takes org returnId filedByUserId filingReference s = .ok u s') :
    ∃ ret, s.returns.get? returnId = some ret ∧ ret.organizationId = org ∧
      ret.status ∈ [TaxReturnStatus.prepared, .reviewed] ∧
      s' = { s with
        returns := s.returns.modify returnId (fileWith filedByUserId filingReference)
        periods := setPeriodStatus s org ret.taxPeriodId .filed
        transactions := s.transactions.update
          (unmarked org (fiscalPeriodOf s org ret))
          (markIncluded (periodText returnId ret))
        inclusions := s.inclusions ++ marksOf returnId (s.transactions.select
          (unmarked org (fiscalPeriodOf s org ret))) } := by
  rw [fileReturn, get_bind, orRaise_bind] at h
  obtain ⟨ret, hret, h⟩ := h
  obtain ⟨hstatus, h⟩ := refuse_bind.mp h
  obtain ⟨-, h⟩ := refuse_bind.mp h
  obtain ⟨hget, horg⟩ := returnOf_eq_some.mp hret
  exact ⟨ret, hget, horg, not_not.mp hstatus, set_eq_ok.mp h⟩

theorem recordPayment_eq_ok {paymentReference : Option String} {journalEntryId : Option UUID}
    (h : recordPayment org returnId paymentReference journalEntryId s = .ok u s') :
    ∃ ret f periodId, s.returns.get? returnId = some ret ∧ Rewritten ret (f ret) ∧
      (f ret).returnType = ret.returnType ∧
      s' = { s with
        returns := s.returns.modify returnId f
        periods := setPeriodStatus s org periodId .paid } := by
  rw [recordPayment, get_bind, orRaise_bind] at h
  obtain ⟨ret, hret, h⟩ := h
  obtain ⟨hstatus, h⟩ := refuse_bind.mp h
  refine ⟨ret, _, _, (returnOf_eq_some.mp hret).1, ?_, rfl, set_eq_ok.mp h⟩
  exact ⟨rfl, rfl, rfl, rfl, id, fun hfiled => ⟨hfiled, rfl, rfl⟩⟩

theorem createAmendment_eq_ok {originalReturnId preparedByUserId : UUID}
    {amendmentReason : String} {adjustments : ℚ}
    (h : createAmendment org originalReturnId amendmentReason adjustments
      preparedByUserId s = .ok k s') :
    ∃ original, s.returns.get? originalReturnId = some original ∧ original.status = .filed ∧
      s' = { s with
        returns := (s.returns.modify originalReturnId (inStatus .amended)).insert
          (amendmentOf originalReturnId original amendmentReason adjustments
            preparedByUserId) } := by
  rw [createAmendment, get_bind, orRaise_bind] at h
  obtain ⟨original, horiginal, h⟩ := h
  obtain ⟨hstatus, h⟩ := refuse_bind.mp h
  obtain ⟨_, s₁, hset, hpure⟩ := bind_eq_ok.mp h
  obtain ⟨-, rfl⟩ := pure_eq_ok.mp hpure
  exact ⟨original, (returnOf_eq_some.mp horiginal).1, not_not.mp hstatus, set_eq_ok.mp hset⟩

theorem createTransaction_eq_ok {input : TaxTransactionInput}
    (h : createTransaction org input s = .ok k s') :
    ∃ taxCode, s' = { s with
      transactions := s.transactions.insert (newTransaction org taxCode input) } := by
  rw [createTransaction, get_bind, orRaise_bind] at h
  obtain ⟨taxCode, -, h⟩ := h
  obtain ⟨_, s₁, hset, hpure⟩ := bind_eq_ok.mp h
  obtain ⟨-, rfl⟩ := pure_eq_ok.mp hpure
  exact ⟨taxCode, set_eq_ok.mp hset⟩

end DotmacErp.Taxes
