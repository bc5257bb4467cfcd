import DotmacErp.Receivables.AdvanceAllocation

/-!
# What is paid of an invoice is what covers it

`Tracked`: what an invoice says is paid of it is its coverage, the allocations to it of the
payments that cleared. Every operation on payments keeps it, for whatever amounts: a pending
payment covers nothing, and posting, voiding and bouncing add and take off what the allocations of
the payment say.

What the operations share is stated once: a new allocation of a payment that has not cleared
(`Tracked.addAllocations`), a receipt applied (`Tracked.allocate`), and a payment that clears or no
longer does (`Tracked.pay`).
-/

namespace DotmacErp.Receivables

open Calendar Relational Totals Rounding CustomerPaymentService
open ReceivablesStore (covering isCleared allocationsOf)

variable {β : Type} {s s' : ReceivablesStore β} {k paymentId invoiceId : UUID} {today : Date}

/-! ### Totals at scale -/

theorem atScale_total {ρ κ : Type} [DecidableEq κ] {n : ℕ} {amount : ρ → ℚ} {key : ρ → κ} {k : κ}
    {l : List ρ} (h : ∀ r ∈ l, AtScale n (amount r)) : AtScale n (total amount key k l) := by
  refine atScale_sum fun q hq => ?_
  obtain ⟨r, hr, rfl⟩ := List.mem_map.mp hq
  exact h r (List.mem_filter.mp hr).1

theorem amountColumn_add {p q : ℚ} (hp : AtScale 6 p) (hq : AtScale 6 q) :
    amountColumn (p + q) = p + q := halfUp_of_atScale (hp.add hq)

/-! ### The loop over the allocations of a payment -/

structure SameInvoice (i i' : Invoice) : Prop where
  totalAmount : i'.totalAmount = i.totalAmount
  invoiceType : i'.invoiceType = i.invoiceType

theorem get?_payInvoices {sign : ℚ} {allocations : List PaymentAllocation}
    {invoices : Table Invoice} {i' : Invoice}
    (hallocations : ∀ a ∈ allocations, AtScale 6 (sign * a.allocatedAmount))
    (hpaid : ∀ k i, invoices.get? k = some i → AtScale 6 i.amountPaid)
    (h : (payInvoices today sign allocations invoices).get? k = some i') :
    ∃ i, invoices.get? k = some i ∧ SameInvoice i i' ∧
      i'.amountPaid = i.amountPaid +
        total (fun a => sign * a.allocatedAmount) PaymentAllocation.invoiceId k allocations := by
  induction allocations generalizing invoices with
  | nil => exact ⟨i', h, ⟨rfl, rfl⟩, by simp⟩
  | cons a rest ih =>
    have ha := hallocations a List.mem_cons_self
    have hpaid' : ∀ k i, (invoices.modify a.invoiceId
        (addPaid today (sign * a.allocatedAmount))).get? k = some i → AtScale 6 i.amountPaid := by
      intro k i hi
      rw [Table.get?_modify] at hi
      split_ifs at hi
      · obtain ⟨i₀, -, rfl⟩ := Option.map_eq_some_iff.mp hi
        exact atScale_halfUp 6 _
      · exact hpaid k i hi
    obtain ⟨i₁, hi₁, hsame, hamount⟩ :=
      ih (fun b hb => hallocations b (List.mem_cons_of_mem _ hb)) hpaid' h
    rw [Table.get?_modify] at hi₁
    rw [total_cons]
    split_ifs at hi₁ with hk
    · obtain ⟨i₀, hi₀, rfl⟩ := Option.map_eq_some_iff.mp hi₁
      refine ⟨i₀, hk ▸ hi₀, ⟨hsame.1, hsame.2⟩, ?_⟩
      rw [hamount, amountPaid_addPaid, amountColumn_add (hpaid _ _ hi₀) ha, if_pos hk.symm]
      ring
    · refine ⟨i₁, hi₁, hsame, ?_⟩
      rw [hamount, if_neg fun heq => hk heq.symm, zero_add]

/-! ### Coverage -/

theorem isCleared_eq_of_get? {p : CustomerPayment} (h : s.payments.get? k = some p) :
    s.isCleared k = decide (p.status = .cleared) := by
  rw [isCleared, h]
  rfl

theorem isCleared_congr (h : s'.payments.get? k = s.payments.get? k) :
    s'.isCleared k = s.isCleared k := by
  rw [isCleared, isCleared, h]

theorem covering_congr (hcleared : ∀ k, s'.isCleared k = s.isCleared k) :
    s'.covering = s.covering := by
  funext a
  rw [covering, covering, hcleared]

theorem coverage_congr (hallocations : s'.allocations = s.allocations)
    (hcleared : ∀ k, s'.isCleared k = s.isCleared k) : s'.coverage = s.coverage := by
  funext k
  rw [ReceivablesStore.coverage, ReceivablesStore.coverage, hallocations, covering_congr hcleared]

theorem coverage_append {added : List PaymentAllocation}
    (hallocations : s'.allocations = s.allocations ++ added)
    (hadded : ∀ a ∈ added, a.paymentId = paymentId)
    (hcleared : ∀ k, s'.isCleared k = s.isCleared k) (hnot : s.isCleared paymentId = false) :
    s'.coverage = s.coverage := by
  funext k
  have hnothing : total s.covering PaymentAllocation.invoiceId k added = 0 := by
    refine total_eq_zero_of fun a ha _ => ?_
    rw [covering, hadded a ha, hnot]
    rfl
  rw [ReceivablesStore.coverage, ReceivablesStore.coverage, hallocations, total_append,
    covering_congr hcleared, hnothing, add_zero]

theorem coverage_withoutPayment
    (hallocations : s'.allocations = withoutPayment paymentId s.allocations)
    (hcleared : ∀ k, s'.isCleared k = s.isCleared k) (hnot : s.isCleared paymentId = false) :
    s'.coverage = s.coverage := by
  funext k
  rw [ReceivablesStore.coverage, ReceivablesStore.coverage, hallocations, withoutPayment,
    total_filter, covering_congr hcleared]
  refine total_congr fun a _ => ⟨rfl, ?_⟩
  by_cases ha : a.paymentId = paymentId
  · rw [covering, ha, hnot]
    simp
  · simp [ha]

def fromPayment (s : ReceivablesStore β) (paymentId invoiceId : UUID) : ℚ :=
  total PaymentAllocation.allocatedAmount PaymentAllocation.invoiceId invoiceId
    (s.allocationsOf paymentId)

theorem coverage_of_clears (hallocations : s'.allocations = s.allocations)
    (hother : ∀ k, k ≠ paymentId → s'.isCleared k = s.isCleared k)
    (hbefore : s.isCleared paymentId = false) (hafter : s'.isCleared paymentId = true) (k : UUID) :
    s'.coverage k = s.coverage k + fromPayment s paymentId k := by
  rw [ReceivablesStore.coverage, ReceivablesStore.coverage, hallocations, fromPayment,
    allocationsOf, total_filter, ← total_add]
  refine total_congr fun a _ => ⟨rfl, ?_⟩
  rw [covering, covering]
  by_cases ha : a.paymentId = paymentId
  · simp [ha, hbefore, hafter]
  · simp [ha, hother _ ha]

/-- **What is paid of every invoice is what covers it.** -/
structure Tracked (s : ReceivablesStore β) : Prop where
  totalScale : ∀ k i, s.invoices.get? k = some i → AtScale 6 i.totalAmount
  allocationScale : ∀ a ∈ s.allocations, AtScale 6 a.allocatedAmount
  paymentScale : ∀ k p, s.payments.get? k = some p → AtScale 6 p.grossAmount ∧ AtScale 6 p.amount
  paid : ∀ k i, s.invoices.get? k = some i → i.amountPaid = s.coverage k

namespace Tracked

theorem coverageScale (h : Tracked s) (k : UUID) : AtScale 6 (s.coverage k) := by
  refine atScale_total fun a ha => ?_
  rw [covering]
  split
  · exact h.allocationScale a ha
  · exact atScale_zero 6

theorem paidScale (h : Tracked s) {i : Invoice} (hi : s.invoices.get? k = some i) :
    AtScale 6 i.amountPaid := by
  rw [h.paid k i hi]
  exact h.coverageScale k

theorem of_coverage_eq (h : Tracked s) (hinvoices : s'.invoices = s.invoices)
    (hallocations : ∀ a ∈ s'.allocations, AtScale 6 a.allocatedAmount)
    (hpayments : ∀ k p, s'.payments.get? k = some p → AtScale 6 p.grossAmount ∧ AtScale 6 p.amount)
    (hcoverage : s'.coverage = s.coverage) : Tracked s' := by
  refine ⟨fun k i hi => h.totalScale k i (hinvoices ▸ hi), hallocations, hpayments,
    fun k i hi => ?_⟩
  rw [hcoverage]
  exact h.paid k i (hinvoices ▸ hi)

theorem allocatedScale (h : Tracked s) (k : UUID) : AtScale 6 (s.allocated k) :=
  atScale_total h.allocationScale

theorem signedScale (h : Tracked s) {sign : ℚ} (hsign : sign = 1 ∨ sign = -1) :
    ∀ a ∈ s.allocationsOf paymentId, AtScale 6 (sign * a.allocatedAmount) := by
  intro a ha
  have hone := h.allocationScale a (List.mem_filter.mp ha).1
  rcases hsign with rfl | rfl
  · rwa [one_mul]
  · rw [neg_one_mul]
    exact hone.neg

theorem get?_paid (h : Tracked s) {sign : ℚ} (hsign : sign = 1 ∨ sign = -1) {i' : Invoice}
    (hi' : (payInvoices today sign (s.allocationsOf paymentId) s.invoices).get? k = some i') :
    ∃ i, s.invoices.get? k = some i ∧ SameInvoice i i' := by
  obtain ⟨i, hi, hsame, -⟩ :=
    get?_payInvoices (h.signedScale hsign) (fun k i hi => h.paidScale hi) hi'
  exact ⟨i, hi, hsame⟩

theorem pay (h : Tracked s) {sign : ℚ} (hsign : sign = 1 ∨ sign = -1)
    (hinvoices : s'.invoices = payInvoices today sign (s.allocationsOf paymentId) s.invoices)
    (hallocations : s'.allocations = s.allocations)
    (hpayments : ∀ k p, s'.payments.get? k = some p → AtScale 6 p.grossAmount ∧ AtScale 6 p.amount)
    (hcoverage : ∀ k, s'.coverage k = s.coverage k + sign * fromPayment s paymentId k) :
    Tracked s' := by
  refine ⟨fun k i' hi' => ?_, hallocations ▸ h.allocationScale, hpayments, fun k i' hi' => ?_⟩
  · rw [hinvoices] at hi'
    obtain ⟨i, hi, hsame⟩ := h.get?_paid hsign hi'
    exact hsame.totalAmount ▸ h.totalScale k i hi
  · rw [hinvoices] at hi'
    obtain ⟨i, hi, -, hamount⟩ :=
      get?_payInvoices (h.signedScale hsign) (fun k i hi => h.paidScale hi) hi'
    rw [hamount, h.paid k i hi, hcoverage, fromPayment]
    congr 1
    rcases hsign with rfl | rfl
    · rw [one_mul]
      exact total_congr fun a _ => ⟨rfl, one_mul _⟩
    · rw [neg_one_mul, ← total_neg]
      exact total_congr fun a _ => ⟨rfl, neg_one_mul _⟩

theorem allocate (h : Tracked s) {amount : ℚ} {f : Invoice → Invoice}
    (hcleared : s.isCleared paymentId = true) (hamount : AtScale 6 amount)
    (hf : ∀ i, SameInvoice i (f i) ∧ (f i).amountPaid = amountColumn (i.amountPaid + amount)) :
    Tracked { withAllocation paymentId invoiceId amount s with
      invoices := s.invoices.modify invoiceId f } := by
  have hcoverage : ∀ k, ReceivablesStore.coverage { withAllocation paymentId invoiceId amount s with
      invoices := s.invoices.modify invoiceId f } k =
        s.coverage k + if invoiceId = k then amount else 0 := by
    intro k
    change total s.covering PaymentAllocation.invoiceId k (s.allocations ++ [_]) = _
    rw [total_append, total_cons, total_nil, add_zero]
    change s.coverage k + (if invoiceId = k then s.covering _ else 0) = _
    rw [covering, if_pos hcleared]
    change s.coverage k + (if invoiceId = k then amountColumn amount else 0) = _
    rw [amountColumn, halfUp_of_atScale hamount]
  refine ⟨fun k i hi => ?_, fun a ha => ?_, h.paymentScale, fun k i hi => ?_⟩
  · change (s.invoices.modify invoiceId f).get? k = some i at hi
    rw [Table.get?_modify] at hi
    split_ifs at hi with hk
    · obtain ⟨i₀, hi₀, rfl⟩ := Option.map_eq_some_iff.mp hi
      exact (hf i₀).1.totalAmount ▸ h.totalScale _ i₀ hi₀
    · exact h.totalScale k i hi
  · rcases List.mem_append.mp ha with ha | ha
    · exact h.allocationScale a ha
    · rw [List.mem_singleton.mp ha]
      exact atScale_halfUp 6 _
  · change (s.invoices.modify invoiceId f).get? k = some i at hi
    rw [hcoverage]
    rw [Table.get?_modify] at hi
    split_ifs at hi with hk
    · obtain ⟨i₀, hi₀, rfl⟩ := Option.map_eq_some_iff.mp hi
      rw [(hf i₀).2, amountColumn_add (h.paidScale hi₀) hamount, h.paid _ i₀ hi₀, if_pos hk.symm,
        hk]
    · rw [h.paid k i hi, if_neg fun heq => hk heq.symm, add_zero]

end Tracked

end DotmacErp.Receivables
