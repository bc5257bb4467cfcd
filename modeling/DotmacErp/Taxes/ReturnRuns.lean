import DotmacErp.Foundation.Scripts
import DotmacErp.Taxes.ReturnSteps

/-!
# Filed returns over whole runs

Over the calls on tax returns, the totals of a filed return are those of the transactions that are
marked as included in it, a transaction is included once, and of a period and a type there is one
return besides amendments (`filed_returns_sound`). The calls do not look at all that this needs: the
totals of a return that is filed must be those of the transactions that no return includes yet, and
a return must not take the type of another one of its period, filed or not.

A draft does not keep a return from taking its type (`update_takes_the_type_of_a_draft`).
-/

namespace DotmacErp.Taxes

open Relational Session Table TaxReturnService

variable {s s' : TaxStore} {takes : PeriodText → Bool}

/-! ### Operations -/

inductive TaxOperation where
  | record (org : UUID) (input : TaxTransactionInput)
  | prepare (org : UUID) (input : TaxReturnInput) (preparedByUserId : UUID)
  | refresh (org periodId jurisdictionId systemUserId : UUID)
  | update (org returnId : UUID) (returnType : Option TaxReturnType) (adjustments : ℚ)
      (updatedByUserId : UUID)
  | review (org returnId reviewedByUserId : UUID)
  | file (org returnId filedByUserId : UUID) (filingReference : Option String)
  | pay (org returnId : UUID) (paymentReference : Option String)
      (journalEntryId : Option UUID)
  | amend (org originalReturnId : UUID) (amendmentReason : String) (adjustments : ℚ)
      (preparedByUserId : UUID)

def FileFits (s : TaxStore) (org returnId : UUID) : Prop :=
  ∀ ret ∈ s.returns.get? returnId,
    let marked := s.transactions.select
      (unmarked org (fiscalPeriodOf s org ret))
    ret.totalOutputTax = outputTax marked ∧ ret.totalInputTax = inputTax marked

def UpdateFits (s : TaxStore) (returnId : UUID) (returnType : Option TaxReturnType) : Prop :=
  ∀ ret ∈ s.returns.get? returnId, ret.isAmendment = false →
    ∀ r ∈ s.returns.rows, r.id ≠ returnId → r.row.isAmendment = false →
      r.row.taxPeriodId = ret.taxPeriodId → r.row.returnType ≠ returnType.getD ret.returnType

namespace TaxOperation

def run (takes : PeriodText → Bool) : TaxOperation → TaxSession PUnit
  | record org input => (fun _ => ⟨⟩) <$> createTransaction org input
  | prepare org input preparedByUserId =>
    (fun _ => ⟨⟩) <$> prepareReturn org input preparedByUserId
  | refresh org periodId jurisdictionId systemUserId =>
    (fun _ => ⟨⟩) <$> autoRefreshReturn org periodId jurisdictionId systemUserId
  | update org returnId returnType adjustments updatedByUserId =>
    updateReturn org returnId returnType adjustments updatedByUserId
  | review org returnId reviewedByUserId =>
    reviewReturn org returnId reviewedByUserId
  | file org returnId filedByUserId filingReference =>
    fileReturn takes org returnId filedByUserId filingReference
  | pay org returnId paymentReference journalEntryId =>
    recordPayment org returnId paymentReference journalEntryId
  | amend org originalReturnId amendmentReason adjustments preparedByUserId =>
    (fun _ => ⟨⟩) <$> createAmendment org originalReturnId amendmentReason adjustments
      preparedByUserId

def after (takes : PeriodText → Bool) (s : TaxStore) (op : TaxOperation) : TaxStore :=
  commit (op.run takes) s

/-- A call that goes through meets the condition of its kind. -/
def Fits (takes : PeriodText → Bool) (s : TaxStore) (op : TaxOperation) : Prop :=
  returns (op.run takes) s = true →
    match op with
    | file org returnId _ _ => FileFits s org returnId
    | update _ returnId returnType _ _ => UpdateFits s returnId returnType
    | _ => True

end TaxOperation

structure NoReturns (s : TaxStore) : Prop where
  returns : s.returns = Table.empty
  transactions : s.transactions.All fun t => t.isIncludedInReturn = false
  inclusions : s.inclusions = []

def taxSystem (takes : PeriodText → Bool) : System TaxStore TaxOperation :=
  .ofFunction NoReturns (TaxOperation.after takes)

/-! ### The invariant -/

structure TaxSound (s : TaxStore) : Prop where
  periods : s.returns.All fun ret => ∃ period, s.periods.get? ret.taxPeriodId = some period ∧
    period.organizationId = ret.organizationId
  references : s.returns.All fun ret => ret.returnReference = none
  alone : ∀ i j a b, s.returns.get? i = some a → s.returns.get? j = some b →
    a.isAmendment = false → b.isAmendment = false → a.taxPeriodId = b.taxPeriodId →
      a.returnType = b.returnType → i = j
  marked : s.transactions.All fun t => t.isIncludedInReturn = true →
    ∃ k ret, t.taxReturnPeriod = some (.ofReturn k) ∧ s.returns.get? k = some ret ∧
      (ret.status = .filed ∨ ret.status = .amended)
  filed : ∀ k ret, s.returns.get? k = some ret → ret.status = .filed →
    ret.totalOutputTax = outputTax (s.includedIn k) ∧
      ret.totalInputTax = inputTax (s.includedIn k)
  once : (s.inclusions.map Prod.fst).Nodup
  inclusions : ∀ i k, (i, k) ∈ s.inclusions ↔ ∃ r ∈ s.includedIn k, r.id = i

variable {k : UUID} {ret : TaxReturn}

/-- **One return is rewritten**, and is alone with its type still. -/
theorem TaxSound.rewrite (h : TaxSound s) {f : TaxReturn → TaxReturn}
    (hk : s.returns.get? k = some ret) (hf : Rewritten ret (f ret))
    (halone : ret.isAmendment = false → ∀ i b, s.returns.get? i = some b → i ≠ k →
      b.isAmendment = false → b.taxPeriodId = ret.taxPeriodId →
        b.returnType ≠ (f ret).returnType) :
    TaxSound { s with returns := s.returns.modify k f } := by
  have hcases : ∀ i a, (s.returns.modify k f).get? i = some a →
      (i ≠ k ∧ s.returns.get? i = some a) ∨ (i = k ∧ a = f ret) := by
    intro i a ha
    obtain ⟨a₀, ha₀, rfl⟩ := get?_modify_eq_some.mp ha
    by_cases hi : i = k
    · subst hi
      obtain rfl := Option.mem_unique hk ha₀
      exact .inr ⟨rfl, if_pos rfl⟩
    · exact .inl ⟨hi, by rw [if_neg hi]; exact ha₀⟩
  refine ⟨fun i a ha => ?_, fun i a ha => ?_, fun i j a b ha hb hfirst hsecond hperiod htype => ?_,
    fun i t ht hincluded => ?_, fun i a ha hfiled => ?_, h.once, h.inclusions⟩
  · rcases hcases i a ha with ⟨-, hold⟩ | ⟨-, rfl⟩
    · exact h.periods i a hold
    · rw [hf.period, hf.organization]
      exact h.periods k ret hk
  · rcases hcases i a ha with ⟨-, hold⟩ | ⟨-, rfl⟩
    · exact h.references i a hold
    · rw [hf.reference]
      exact h.references k ret hk
  · rcases hcases i a ha with ⟨hi, hold⟩ | ⟨hi, rfl⟩ <;>
      rcases hcases j b hb with ⟨hj, hold'⟩ | ⟨hj, rfl⟩
    · exact h.alone i j a b hold hold' hfirst hsecond hperiod htype
    · rw [hf.amendment] at hsecond
      rw [hf.period] at hperiod
      exact absurd htype (halone hsecond i a hold hi hfirst hperiod)
    · rw [hf.amendment] at hfirst
      rw [hf.period] at hperiod
      exact absurd htype.symm (halone hfirst j b hold' hj hsecond hperiod.symm)
    · rw [hi, hj]
  · obtain ⟨i', a, hmark, ha, hstatus⟩ := h.marked i t ht hincluded
    by_cases hi : i' = k
    · subst hi
      obtain rfl := Option.mem_unique hk ha
      exact ⟨i', f ret, hmark, by rw [get?_modify_self, hk, Option.map_some], hf.settled hstatus⟩
    · exact ⟨i', a, hmark, by rw [get?_modify_of_ne hi, ha], hstatus⟩
  · rcases hcases i a ha with ⟨-, hold⟩ | ⟨hi, rfl⟩
    · exact h.filed i a hold hfiled
    · obtain ⟨hwas, houtput, hinput⟩ := hf.filed hfiled
      rw [houtput, hinput, hi]
      exact h.filed k ret hk hwas

theorem TaxSound.rewriteSame (h : TaxSound s)
    {f : TaxReturn → TaxReturn} (hk : s.returns.get? k = some ret) (hf : Rewritten ret (f ret))
    (htype : (f ret).returnType = ret.returnType) :
    TaxSound { s with returns := s.returns.modify k f } := by
  refine h.rewrite hk hf fun hret i b hb hi hamendment hperiod hsame => hi ?_
  exact h.alone i k b ret hb hk hamendment hret hperiod (hsame.trans htype)

/-- **A return is added.** -/
theorem TaxSound.insertReturn (h : TaxSound s) (hret : Unfiled s ret) :
    TaxSound { s with returns := s.returns.insert ret } := by
  have hcases : ∀ i a, (s.returns.insert ret).get? i = some a →
      s.returns.get? i = some a ∨ (i = s.returns.next ∧ a = ret) := by
    intro i a ha
    rw [get?_insert] at ha
    split_ifs at ha with hi
    · exact .inr ⟨hi, (Option.some.inj ha).symm⟩
    · exact .inl ha
  have hother : ret.isAmendment = false → ∀ i a, s.returns.get? i = some a →
      a.isAmendment = false → a.taxPeriodId = ret.taxPeriodId → a.returnType ≠ ret.returnType := by
    intro hnot i a ha hamendment hperiod htype
    rcases hret.alone with htrue | halone
    · exact Bool.false_ne_true (hnot.symm.trans htrue)
    · obtain ⟨p, hp, hpr⟩ := hret.period
      obtain ⟨q, hq, hqa⟩ := h.periods i a ha
      rw [hperiod, hp] at hq
      refine halone i a ha ⟨hperiod, ?_, htype, hamendment⟩
      rw [← hqa, ← Option.some.inj hq, hpr]
  refine ⟨h.periods.insert hret.period, h.references.insert hret.reference,
    fun i j a b ha hb hfirst hsecond hperiod htype => ?_, fun i t ht hincluded => ?_,
    fun i a ha hfiled => ?_, h.once, h.inclusions⟩
  · rcases hcases i a ha with hold | ⟨hi, rfl⟩ <;> rcases hcases j b hb with hold' | ⟨hj, rfl⟩
    · exact h.alone i j a b hold hold' hfirst hsecond hperiod htype
    · exact absurd htype (hother hsecond i a hold hfirst hperiod)
    · exact absurd htype.symm (hother hfirst j b hold' hsecond hperiod.symm)
    · rw [hi, hj]
  · obtain ⟨k, a, hmark, ha, hstatus⟩ := h.marked i t ht hincluded
    exact ⟨k, a, hmark, get?_insert_of_some ha ret, hstatus⟩
  · rcases hcases i a ha with hold | ⟨-, rfl⟩
    · exact h.filed i a hold hfiled
    · exact absurd hfiled hret.status

theorem TaxSound.drafts (h : TaxSound s) (hdrafts : Drafts s s') : TaxSound s' := by
  rcases hdrafts with rfl | ⟨k, ret, f, hk, hf, htype, rfl⟩ | ⟨ret, hret, rfl⟩
  · exact h
  · exact h.rewriteSame hk hf htype
  · exact h.insertReturn hret

theorem TaxSound.withPeriods (h : TaxSound s) {periods : Table TaxPeriod}
    (hkept : ∀ k period, s.periods.get? k = some period → ∃ period',
      periods.get? k = some period' ∧ period'.organizationId = period.organizationId) :
    TaxSound { s with periods := periods } := by
  refine ⟨fun i ret hret => ?_, h.references, h.alone, h.marked, h.filed, h.once, h.inclusions⟩
  obtain ⟨period, hperiod, horg⟩ := h.periods i ret hret
  obtain ⟨period', hperiod', hsame⟩ := hkept _ _ hperiod
  exact ⟨period', hperiod', hsame.trans horg⟩

/-! ### Filing -/

theorem tax_markIncluded (text : PeriodText) (l : List (Stored TaxTransaction)) :
    outputTax (l.map fun r => ⟨r.id, markIncluded text r.row⟩) = outputTax l ∧
      inputTax (l.map fun r => ⟨r.id, markIncluded text r.row⟩) = inputTax l := by
  constructor
  · rw [outputTax, outputTax, List.filter_map, List.map_map]
    rfl
  · rw [inputTax, inputTax, List.filter_map, List.map_map]
    rfl

theorem TaxSound.periodText_eq (h : TaxSound s)
    (hk : s.returns.get? k = some ret) : periodText k ret = .ofReturn k := by
  rw [periodText, h.references k ret hk]
  rfl

theorem TaxSound.notMem_includedIn (h : TaxSound s)
    (hk : s.returns.get? k = some ret) (hstatus :
      ret.status ∈ [TaxReturnStatus.prepared, .reviewed])
    {r : Stored TaxTransaction} (hr : r ∈ s.transactions.rows) :
    decide (r.row.isIncludedInReturn = true ∧
      r.row.taxReturnPeriod = some (.ofReturn k)) = false := by
  refine decide_eq_false fun hincluded => ?_
  obtain ⟨k', ret', hmark, hk', hsettled⟩ := h.marked r.id r.row (get?_of_mem hr) hincluded.1
  rw [hincluded.2] at hmark
  obtain rfl := PeriodText.ofReturn.inj (Option.some.inj hmark)
  obtain rfl := Option.mem_unique hk hk'
  rcases hsettled with hwas | hwas <;> rw [hwas] at hstatus <;> exact absurd hstatus (by decide)

variable {org : UUID}

theorem not_included_of_unmarked {periodId : Option UUID}
    {t : TaxTransaction} (h : unmarked org periodId t = true) :
    t.isIncludedInReturn = false :=
  (of_decide_eq_true h).2.2

/-- **Filing a return** whose totals are those of what it marks. -/
theorem TaxSound.fileReturn (h : TaxSound s) {returnId filedByUserId : UUID}
    {filingReference : Option String} {u : PUnit} (hfits : FileFits s org returnId)
    (hrun : fileReturn takes org returnId filedByUserId filingReference s = .ok u s') :
    TaxSound s' := by
  obtain ⟨ret, hk, -, hstatus, rfl⟩ := fileReturn_eq_ok hrun
  rw [h.periodText_eq hk]
  obtain ⟨houtput, hinput⟩ := hfits ret hk
  set p := unmarked org (fiscalPeriodOf s org ret) with hp
  set filed : TaxStore := { s with
    returns := s.returns.modify returnId (fileWith filedByUserId filingReference)
    transactions := s.transactions.update p (markIncluded (.ofReturn returnId))
    inclusions := s.inclusions ++ marksOf returnId (s.transactions.select p) } with hfiled
  have hthis : filed.includedIn returnId = (s.transactions.select p).map fun r =>
      ⟨r.id, markIncluded (.ofReturn returnId) r.row⟩ :=
    select_update_of_forall (fun r hr => h.notMem_includedIn hk hstatus hr)
      fun _ _ => decide_eq_true ⟨rfl, rfl⟩
  have hothers : ∀ j, j ≠ returnId → filed.includedIn j = s.includedIn j := by
    intro j hj
    refine select_update_of_disjoint fun t ht => ⟨?_, ?_⟩
    · refine decide_eq_false fun hincluded => ?_
      rw [not_included_of_unmarked ht] at hincluded
      exact Bool.false_ne_true hincluded.1
    · refine decide_eq_false fun hincluded => hj ?_
      exact (PeriodText.ofReturn.inj (Option.some.inj hincluded.2)).symm
  have hreturn : ∀ i a, filed.returns.get? i = some a →
      (i ≠ returnId ∧ s.returns.get? i = some a) ∨
        (i = returnId ∧ a = fileWith filedByUserId filingReference ret) := by
    intro i a ha
    obtain ⟨a₀, ha₀, rfl⟩ := get?_modify_eq_some.mp ha
    by_cases hi : i = returnId
    · subst hi
      obtain rfl := Option.mem_unique hk ha₀
      exact .inr ⟨rfl, if_pos rfl⟩
    · exact .inl ⟨hi, by rw [if_neg hi]; exact ha₀⟩
  have hsame : ∀ i a, filed.returns.get? i = some a → ∃ a₀, s.returns.get? i = some a₀ ∧
      a.organizationId = a₀.organizationId ∧ a.taxPeriodId = a₀.taxPeriodId ∧
        a.returnType = a₀.returnType ∧ a.isAmendment = a₀.isAmendment ∧
          a.returnReference = a₀.returnReference := by
    intro i a ha
    rcases hreturn i a ha with ⟨-, hold⟩ | ⟨rfl, rfl⟩
    · exact ⟨a, hold, rfl, rfl, rfl, rfl, rfl⟩
    · exact ⟨ret, hk, rfl, rfl, rfl, rfl, rfl⟩
  have hsound : TaxSound filed := by
    refine ⟨fun i a ha => ?_, fun i a ha => ?_,
      fun i j a b ha hb hfirst hsecond hperiod htype => ?_, fun i t ht hincluded => ?_,
      fun i a ha hstatus' => ?_, ?_, fun i j => ?_⟩
    · obtain ⟨a₀, ha₀, horg, hperiod, -⟩ := hsame i a ha
      rw [horg, hperiod]
      exact h.periods i a₀ ha₀
    · obtain ⟨a₀, ha₀, -, -, -, -, hreference⟩ := hsame i a ha
      rw [hreference]
      exact h.references i a₀ ha₀
    · obtain ⟨a₀, ha₀, -, hpa, hta, hma, -⟩ := hsame i a ha
      obtain ⟨b₀, hb₀, -, hpb, htb, hmb, -⟩ := hsame j b hb
      rw [hma] at hfirst
      rw [hmb] at hsecond
      rw [hpa, hpb] at hperiod
      rw [hta, htb] at htype
      exact h.alone i j a₀ b₀ ha₀ hb₀ hfirst hsecond hperiod htype
    · obtain ⟨t₀, ht₀, rfl⟩ := get?_update_eq_some.mp ht
      split_ifs at hincluded ⊢ with hmarked
      · exact ⟨returnId, fileWith filedByUserId filingReference ret, rfl,
          by rw [hfiled, get?_modify_self, hk, Option.map_some], .inl rfl⟩
      · obtain ⟨k, a, hmark, ha, hsettled⟩ := h.marked i t₀ ht₀ hincluded
        have hother : k ≠ returnId := by
          rintro rfl
          obtain rfl := Option.mem_unique hk ha
          rcases hsettled with hwas | hwas <;> rw [hwas] at hstatus <;>
            exact absurd hstatus (by decide)
        exact ⟨k, a, hmark, by rw [hfiled, get?_modify_of_ne hother, ha], hsettled⟩
    · rcases hreturn i a ha with ⟨hi, hold⟩ | ⟨rfl, rfl⟩
      · rw [hothers i hi]
        exact h.filed i a hold hstatus'
      · rw [hthis, (tax_markIncluded _ _).1, (tax_markIncluded _ _).2]
        exact ⟨houtput, hinput⟩
    · rw [hfiled, List.map_append, List.nodup_append]
      have hids : (marksOf returnId (s.transactions.select p)).map Prod.fst =
          (s.transactions.select p).map Stored.id := by
        rw [marksOf, List.map_map]
        rfl
      rw [hids]
      refine ⟨h.once, nodup_ids_select s.transactions p, fun i hi j hj hij => ?_⟩
      obtain ⟨⟨i', k⟩, hlogged, rfl⟩ := List.mem_map.mp hi
      obtain ⟨r, hr, rfl⟩ := List.mem_map.mp hj
      obtain ⟨r', hr', hid⟩ := (h.inclusions i' k).mp hlogged
      obtain ⟨hget, hunmarked⟩ := mem_select.mp hr
      obtain ⟨hget', hincluded⟩ := mem_select.mp hr'
      have hrow : r = r' := row_eq_of_id_eq (get?_eq_some.mp hget) (get?_eq_some.mp hget')
        (hij.symm.trans hid.symm)
      have hwas := (of_decide_eq_true hincluded).1
      rw [← hrow, not_included_of_unmarked hunmarked] at hwas
      exact Bool.false_ne_true hwas
    · rw [hfiled, List.mem_append, h.inclusions]
      by_cases hj : j = returnId
      · subst hj
        have hnone : ¬ ∃ r ∈ s.includedIn j, r.id = i := by
          rintro ⟨r, hr, -⟩
          obtain ⟨hget, hincluded⟩ := mem_select.mp hr
          rw [h.notMem_includedIn hk hstatus (get?_eq_some.mp hget)] at hincluded
          exact Bool.false_ne_true hincluded
        rw [hthis]
        simp only [hnone, false_or, marksOf, List.mem_map, Prod.mk.injEq, and_true,
          exists_exists_and_eq_and]
      · have hnone : (i, j) ∉ marksOf returnId (s.transactions.select p) := by
          intro hmem
          obtain ⟨r, -, hpair⟩ := List.mem_map.mp hmem
          exact hj (Prod.mk.inj hpair).2.symm
        rw [hothers j hj]
        exact ⟨fun hmem => hmem.resolve_right hnone, .inl⟩
  exact hsound.withPeriods fun k period hperiod => organizationId_setPeriodStatus hperiod

/-! ### The other calls -/

theorem TaxSound.createTransaction (h : TaxSound s)
    {input : TaxTransactionInput} (hrun : createTransaction org input s = .ok k s') :
    TaxSound s' := by
  obtain ⟨taxCode, rfl⟩ := createTransaction_eq_ok hrun
  set recorded : TaxStore := { s with
    transactions := s.transactions.insert (newTransaction org taxCode input) }
    with hrecorded
  have hsame : ∀ j, recorded.includedIn j = s.includedIn j := by
    intro j
    rw [TaxStore.includedIn, hrecorded, select_insert, if_neg, List.append_nil]
    · rfl
    · exact fun hincluded => Bool.false_ne_true (of_decide_eq_true hincluded).1
  refine ⟨h.periods, h.references, h.alone, ?_, fun i a ha hfiled => ?_, h.once, fun i j => ?_⟩
  · exact h.marked.insert fun hincluded => absurd hincluded Bool.false_ne_true
  · rw [hsame]
    exact h.filed i a ha hfiled
  · rw [hsame]
    exact h.inclusions i j

theorem TaxSound.updateReturn (h : TaxSound s) {returnId updatedByUserId : UUID}
    {returnType : Option TaxReturnType} {adjustments : ℚ} {u : PUnit}
    (hfits : UpdateFits s returnId returnType)
    (hrun : updateReturn org returnId returnType adjustments updatedByUserId s =
      .ok u s') : TaxSound s' := by
  obtain ⟨ret, f, hk, hf, htype, rfl⟩ := updateReturn_eq_ok hrun
  refine h.rewrite hk hf fun hnot i b hb hi hamendment hperiod hsame => ?_
  exact hfits ret hk hnot ⟨i, b⟩ (get?_eq_some.mp hb) hi hamendment hperiod (hsame.trans htype)

theorem TaxSound.createAmendment (h : TaxSound s) {originalReturnId : UUID}
    {amendmentReason : String} {adjustments : ℚ} {preparedByUserId : UUID}
    (hrun : createAmendment org originalReturnId amendmentReason adjustments
      preparedByUserId s = .ok k s') : TaxSound s' := by
  obtain ⟨original, hk, -, rfl⟩ := createAmendment_eq_ok hrun
  have hamended : Rewritten original (inStatus .amended original) :=
    ⟨rfl, rfl, rfl, rfl, fun _ => .inr rfl, fun hfiled => TaxReturnStatus.noConfusion hfiled⟩
  refine (h.rewriteSame hk hamended rfl).insertReturn ?_
  obtain ⟨period, hperiod, horg⟩ := h.periods _ original hk
  exact ⟨⟨period, hperiod, horg⟩, rfl, TaxReturnStatus.noConfusion, .inl rfl⟩

/-! ### Runs -/

theorem NoReturns.taxSound (h : NoReturns s) : TaxSound s := by
  have hreturns : ∀ i a, s.returns.get? i ≠ some a := by
    intro i a ha
    rw [h.returns, get?_empty] at ha
    exact absurd ha (by simp)
  have hincluded : ∀ k, s.includedIn k = [] := by
    intro k
    refine List.filter_eq_nil_iff.mpr fun r hr hmarked => ?_
    have hwas := (of_decide_eq_true hmarked).1
    rw [h.transactions r.id r.row (get?_of_mem hr)] at hwas
    exact Bool.false_ne_true hwas
  refine ⟨fun i a ha => absurd ha (hreturns i a), fun i a ha => absurd ha (hreturns i a),
    fun i _ a _ ha => absurd ha (hreturns i a), fun i t ht hmarked => ?_,
    fun i a ha => absurd ha (hreturns i a), ?_, fun i k => ?_⟩
  · rw [h.transactions i t ht] at hmarked
    exact absurd hmarked Bool.false_ne_true
  · rw [h.inclusions]
    exact List.nodup_nil
  · rw [h.inclusions, hincluded]
    simp

/-- **One operation** that meets its condition keeps returns sound. -/
theorem taxSound_after (h : TaxSound s) {op : TaxOperation} (hfits : op.Fits takes s) :
    TaxSound (op.after takes s) := by
  refine commit_induction (P := TaxSound) h fun u s' hrun => ?_
  have hcondition := hfits (returns_iff.mpr ⟨u, s', hrun⟩)
  cases op with
  | record org input =>
    obtain ⟨k, hcreate, -⟩ := map_eq_ok.mp hrun
    exact h.createTransaction hcreate
  | prepare org input preparedByUserId =>
    obtain ⟨k, hprepare, -⟩ := map_eq_ok.mp hrun
    exact h.drafts (prepareReturn_eq_ok hprepare)
  | refresh org fiscalPeriodId jurisdictionId systemUserId =>
    obtain ⟨k, hrefresh, -⟩ := map_eq_ok.mp hrun
    exact h.drafts (autoRefreshReturn_eq_ok hrefresh)
  | update org returnId returnType adjustments updatedByUserId =>
    exact h.updateReturn hcondition hrun
  | review org returnId reviewedByUserId => exact h.drafts (reviewReturn_eq_ok hrun)
  | file org returnId filedByUserId filingReference =>
    exact h.fileReturn hcondition hrun
  | pay org returnId paymentReference journalEntryId =>
    obtain ⟨ret, f, periodId, hk, hf, htype, rfl⟩ := recordPayment_eq_ok hrun
    exact (h.rewriteSame hk hf htype).withPeriods fun k period hperiod =>
      organizationId_setPeriodStatus hperiod
  | amend org originalReturnId amendmentReason adjustments preparedByUserId =>
    obtain ⟨k, hamend, -⟩ := map_eq_ok.mp hrun
    exact h.createAmendment hamend

/-- **Filed returns are sound**: in runs whose calls meet their conditions, a filed return has the
totals of the transactions that are included in it, each transaction was included in a return at
most once, and a period has one return of a type besides amendments. -/
theorem filed_returns_sound
    (h : (taxSystem takes).ReachableWithin (fun s op => op.Fits takes s) s) :
    (∀ k ret, s.returns.get? k = some ret → ret.status = .filed →
      ret.totalOutputTax = outputTax (s.includedIn k) ∧
        ret.totalInputTax = inputTax (s.includedIn k)) ∧ (s.inclusions.map Prod.fst).Nodup ∧
    (∀ i k, (i, k) ∈ s.inclusions ↔ ∃ r ∈ s.includedIn k, r.id = i) ∧
    ∀ i j a b, s.returns.get? i = some a → s.returns.get? j = some b →
      a.isAmendment = false → b.isAmendment = false → a.taxPeriodId = b.taxPeriodId →
        a.returnType = b.returnType → i = j := by
  have hsound : TaxSound s := by
    refine h.invariant (P := TaxSound) (fun s hs => hs.taxSound) ?_
    rintro s op s' hs hfits rfl
    exact taxSound_after hs hfits
  exact ⟨hsound.filed, hsound.once, hsound.inclusions, hsound.alone⟩

/-! ### Two runs -/

def takesTwenty : PeriodText → Bool
  | .typed text => decide (text.length ≤ 20)
  | .ofReturn _ => false

def twoPeriods : TaxStore where
  codes := Table.empty.insert { organizationId := 1 }
  periods := (Table.empty.insert {
    organizationId := 1, jurisdictionId := 3, fiscalPeriodId := some 5 }).insert {
      organizationId := 1, jurisdictionId := 3, fiscalPeriodId := some 6 }
  transactions := Table.empty
  returns := Table.empty
  inclusions := []

theorem noReturns_twoPeriods : NoReturns twoPeriods := ⟨rfl, Table.all_empty, rfl⟩

def taxedSale (tax : ℚ) : TaxOperation :=
  .record 1 {
    fiscalPeriodId := 5
    taxCodeId := 0
    jurisdictionId := 3
    transactionType := .output
    functionalBaseAmount := 100
    functionalTaxAmount := tax }

instance (s : TaxStore) (org returnId : UUID) :
    Decidable (FileFits s org returnId) :=
  inferInstanceAs (Decidable (∀ ret ∈ s.returns.get? returnId, _ = _ ∧ _ = _))

instance (s : TaxStore) (returnId : UUID) (returnType : Option TaxReturnType) :
    Decidable (UpdateFits s returnId returnType) :=
  inferInstanceAs (Decidable (∀ ret ∈ s.returns.get? returnId, _ → ∀ r ∈ s.returns.rows,
    _ → _ → _ → _ ≠ _))

instance (s : TaxStore) (op : TaxOperation) : Decidable (op.Fits takes s) := by
  cases op with
  | file org returnId filedByUserId filingReference =>
    exact inferInstanceAs (Decidable (_ = _ → FileFits s org returnId))
  | update org returnId returnType adjustments updatedByUserId =>
    exact inferInstanceAs (Decidable (_ = _ → UpdateFits s returnId returnType))
  | record | prepare | refresh | review | pay | amend => exact isTrue fun _ => trivial

/-- A period with a sale is refreshed, prepared and reviewed, and its filing is refused; two returns
of a period without sales are filed, and one of them is paid and amended. -/
def filedQuarter : List TaxOperation :=
  [taxedSale 10, .refresh 1 5 3 9, taxedSale (15 / 2), .prepare 1 ⟨0, 3, .vat, 0⟩ 7, .review 1 0 8,
    .file 1 0 8 none, .prepare 1 ⟨1, 3, .gst, 2⟩ 7, .update 1 1 none 3 7,
    .prepare 1 ⟨1, 3, .withholding, 0⟩ 7, .file 1 1 8 (some "GST-1"), .file 1 2 8 none,
    .pay 1 1 none none, .amend 1 1 "late sale" 4 7]

/-- Where the column takes longer texts, the first return is filed as well, with the sales. -/
theorem filed_returns_sound_sample :
    let s := System.after (TaxOperation.after takesTwenty) twoPeriods filedQuarter
    let s' := System.after (TaxOperation.after fun _ => true) twoPeriods filedQuarter
    s.returns.rows.map (fun r => r.row.status) = [.reviewed, .amended, .filed, .draft] ∧
      (s.returns.get? 2).map TaxReturn.totalOutputTax = some (outputTax (s.includedIn 2)) ∧
      (s'.includedIn 0).map Stored.id = [0, 1] ∧
      (s'.returns.get? 0).map TaxReturn.totalOutputTax = some (outputTax (s'.includedIn 0)) := by
  have houtput (takes : PeriodText → Bool) (k : UUID)
      (hfits : System.AllowedAlong (fun s op => TaxOperation.Fits takes s op)
        (TaxOperation.after takes) twoPeriods filedQuarter)
      (hstatus : ((System.after (TaxOperation.after takes) twoPeriods filedQuarter).returns.get?
        k).map TaxReturn.status = some .filed) :
      ((System.after (TaxOperation.after takes) twoPeriods filedQuarter).returns.get? k).map
        TaxReturn.totalOutputTax = some (outputTax
          ((System.after (TaxOperation.after takes) twoPeriods filedQuarter).includedIn k)) := by
    have hrun : (taxSystem takes).ReachableWithin (fun s op => op.Fits takes s)
        (System.after (TaxOperation.after takes) twoPeriods filedQuarter) :=
      System.reachableWithin_after noReturns_twoPeriods hfits
    obtain ⟨ret, hret, hfiled⟩ := Option.map_eq_some_iff.mp hstatus
    rw [hret, Option.map_some, ((filed_returns_sound hrun).1 k ret hret hfiled).1]
  exact ⟨by decide +kernel, houtput takesTwenty 2 (by decide +kernel) (by decide +kernel),
    by decide +kernel, houtput (fun _ => true) 0 (by decide +kernel) (by decide +kernel)⟩

def secondReturn : List TaxOperation :=
  [taxedSale 10, .refresh 1 5 3 9, .prepare 1 ⟨0, 3, .gst, 0⟩ 7, .update 1 1 (some .vat) 0 7]

/-- **The period has two returns of the type then**, and neither is an amendment. -/
theorem update_takes_the_type_of_a_draft :
    ¬ ∀ (takes : PeriodText → Bool) (s : TaxStore), (taxSystem takes).Reachable s →
      (∀ k ret, s.returns.get? k = some ret → ret.status = .filed →
        ret.totalOutputTax = outputTax (s.includedIn k) ∧
          ret.totalInputTax = inputTax (s.includedIn k)) ∧
      (s.inclusions.map Prod.fst).Nodup ∧
      (∀ i k, (i, k) ∈ s.inclusions ↔ ∃ r ∈ s.includedIn k, r.id = i) ∧
      ∀ i j a b, s.returns.get? i = some a → s.returns.get? j = some b →
        a.isAmendment = false → b.isAmendment = false → a.taxPeriodId = b.taxPeriodId →
          a.returnType = b.returnType → i = j := by
  intro h
  have hrun : (taxSystem takesTwenty).Reachable
      (System.after (TaxOperation.after takesTwenty) twoPeriods secondReturn) :=
    System.reachable_after noReturns_twoPeriods secondReturn
  have hboth : ∀ k ∈ [0, 1], ((System.after (TaxOperation.after takesTwenty) twoPeriods
      secondReturn).returns.get? k).map (fun ret =>
        (ret.isAmendment, ret.taxPeriodId, ret.returnType)) = some (false, 0, .vat) := by
    decide +kernel
  obtain ⟨a, ha, hfirst⟩ := Option.map_eq_some_iff.mp (hboth 0 (by decide))
  obtain ⟨b, hb, hsecond⟩ := Option.map_eq_some_iff.mp (hboth 1 (by decide))
  simp only [Prod.mk.injEq] at hfirst hsecond
  have halone := (h _ _ hrun).2.2.2 0 1 a b ha hb hfirst.1 hsecond.1
    (hfirst.2.1.trans hsecond.2.1.symm) (hfirst.2.2.trans hsecond.2.2.symm)
  exact absurd halone (by decide)

end DotmacErp.Taxes
