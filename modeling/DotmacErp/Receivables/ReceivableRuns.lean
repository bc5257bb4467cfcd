import DotmacErp.Foundation.Scripts
import DotmacErp.Receivables.CoverageLimits

/-!
# Receivables over whole runs

Over a run of the calls on payments and of the two allocators, what is paid of an invoice is what
the cleared payments allocate to it, and stays between nothing and the total, as long as each call
meets the limits it does not look at itself (`receivables_covered`): a receipt's stored amounts are
not negative and within its gross amount, a payment is posted while its invoices still owe what it
allocates to them, and a candidate is allocated while its payment is as it was found.

A balance due is compared with when a payment is created. Two payments of the same balance can
both be created before one is posted, and both are posted (`both_pay_the_invoice`).
-/

namespace DotmacErp.Receivables

open Calendar Relational Session Rounding CustomerPaymentService

variable {β : Type} {v : PostingServices β} {s s' : ReceivablesStore β}

/-! ### Operations -/

/-- A call on payments, or of an allocator. -/
inductive ReceivableOperation where
  | create (org : UUID) (paymentNumber : String) (input : CustomerPaymentInput)
  | update (org paymentId : UUID) (input : CustomerPaymentInput)
  | post (org paymentId userId : UUID) (postingDate : Option Date) (today : Date)
  | void (org paymentId : UUID) (reason : String) (today : Date)
  | bounce (org paymentId : UUID) (reason : String) (today : Date)
  | delete (org receiptId : UUID)
  | applyAdvances (invoiceId : UUID) (today : Date)
  | allocate (candidate : MatchCandidate) (today : Date)

namespace ReceivableOperation

def run (v : PostingServices β) : ReceivableOperation → ReceivablesSession β PUnit
  | create org paymentNumber input =>
    (fun _ => ⟨⟩) <$> createPayment org paymentNumber input
  | update org paymentId input => updatePayment org paymentId input
  | post org paymentId userId postingDate today =>
    postPayment v org paymentId userId postingDate today
  | void org paymentId reason today =>
    voidPayment v org paymentId reason today
  | bounce org paymentId reason today =>
    markBounced v org paymentId reason today
  | delete org receiptId => deleteReceipt org receiptId
  | applyAdvances invoiceId today =>
    (fun _ => ⟨⟩) <$> AdvanceAllocationService.applyToInvoice invoiceId today
  | allocate candidate today => (fun _ => ⟨⟩) <$> allocateCandidate candidate today

def after (v : PostingServices β) (s : ReceivablesStore β) (op : ReceivableOperation) :
    ReceivablesStore β :=
  commit (op.run v) s

/-- A call that goes through is within the limits of its kind. -/
def WithinLimits (v : PostingServices β) (s : ReceivablesStore β) (op : ReceivableOperation) :
    Prop :=
  returns (op.run v) s = true →
    match op with
    | create _ _ input => input.WithinGross
    | update _ _ input => input.WithinGross
    | post _ paymentId _ _ _ => FitsInvoices s paymentId
    | allocate candidate _ => ∀ invoice ∈ s.invoices.get? candidate.invoiceId,
        0 < invoice.balanceDue →
          candidate.StillMatches s (min candidate.paymentAmount invoice.balanceDue)
    | _ => True

/-- The calls that find what they allocate themselves. -/
def IsOrdinary : ReceivableOperation → Prop
  | allocate _ _ => False
  | _ => True

end ReceivableOperation

/-- The invoices before any payment: nothing is paid, and no standard invoice is negative. -/
structure Unpaid (s : ReceivablesStore β) : Prop where
  payments : s.payments = Table.empty
  allocations : s.allocations = []
  invoices : s.invoices.All fun i => i.amountPaid = 0 ∧ AtScale 6 i.totalAmount ∧
    (i.invoiceType = .standard → 0 ≤ i.totalAmount)

def receivableSystem (v : PostingServices β) : System (ReceivablesStore β) ReceivableOperation :=
  .ofFunction Unpaid (ReceivableOperation.after v)

/-! ### One operation -/

theorem Unpaid.covered (h : Unpaid s) : Covered s := by
  have hcoverage : ∀ k, s.coverage k = 0 := by
    intro k
    rw [ReceivablesStore.coverage, h.allocations]
    rfl
  have hnone : ∀ k p, s.payments.get? k ≠ some p := by
    intro k p hp
    rw [h.payments] at hp
    exact absurd hp (by simp)
  refine ⟨⟨fun k i hi => (h.invoices k i hi).2.1, ?_, fun k p hp => absurd hp (hnone k p),
    fun k i hi => ?_⟩, ?_, ?_, fun k p hp => absurd hp (hnone k p), fun k i hi hstandard => ?_⟩
  · simp [h.allocations]
  · rw [hcoverage, (h.invoices k i hi).1]
  · simp [h.allocations]
  · simp [h.allocations]
  · rw [hcoverage]
    exact (h.invoices k i hi).2.2 hstandard

/-- **Any call that finds what it allocates itself** keeps what is paid equal to what covers it. -/
theorem tracked_after (h : Tracked s) {op : ReceivableOperation} (hop : op.IsOrdinary) :
    Tracked (op.after v s) := by
  refine commit_induction (P := Tracked) h fun u s' hrun => ?_
  cases op with
  | create org paymentNumber input =>
    obtain ⟨paymentId, hcreate, -⟩ := map_eq_ok.mp hrun
    exact h.createPayment hcreate
  | update org paymentId input => exact h.updatePayment hrun
  | post org paymentId userId postingDate today => exact h.postPayment hrun
  | void org paymentId reason today =>
    obtain ⟨payment, ledger, hget, rfl⟩ := voidPayment_eq_ok hrun
    exact h.takenBack hget (by decide)
  | bounce org paymentId reason today =>
    obtain ⟨payment, ledger, hget, rfl⟩ := markBounced_eq_ok hrun
    exact h.takenBack hget (by decide)
  | delete org receiptId => exact h.deleteReceipt hrun
  | applyAdvances invoiceId today =>
    obtain ⟨result, happly, -⟩ := map_eq_ok.mp hrun
    exact h.applyToInvoice happly
  | allocate candidate today => exact absurd hop id

/-- **One operation** that meets its limits keeps them. -/
theorem covered_after (h : Covered s) {op : ReceivableOperation} (hop : op.WithinLimits v s) :
    Covered (op.after v s) := by
  refine commit_induction (P := Covered) h fun u s' hrun => ?_
  have hlimits := hop (returns_iff.mpr ⟨u, s', hrun⟩)
  cases op with
  | create org paymentNumber input =>
    obtain ⟨paymentId, hcreate, -⟩ := map_eq_ok.mp hrun
    exact h.createPayment hlimits hcreate
  | update org paymentId input => exact h.updatePayment hlimits hrun
  | post org paymentId userId postingDate today => exact h.postPayment hlimits hrun
  | void org paymentId reason today =>
    obtain ⟨payment, ledger, hget, rfl⟩ := voidPayment_eq_ok hrun
    exact h.takenBack hget (by decide)
  | bounce org paymentId reason today =>
    obtain ⟨payment, ledger, hget, rfl⟩ := markBounced_eq_ok hrun
    exact h.takenBack hget (by decide)
  | delete org receiptId => exact h.deleteReceipt hrun
  | applyAdvances invoiceId today =>
    obtain ⟨result, happly, -⟩ := map_eq_ok.mp hrun
    exact h.applyToInvoice happly
  | allocate candidate today =>
    obtain ⟨done, hallocate, -⟩ := map_eq_ok.mp hrun
    exact h.allocateCandidate hlimits hallocate

/-! ### Runs -/

/-- **Receivables are covered**: in runs whose calls meet their limits, what is paid of an invoice
is what cleared payments allocate to it, is not negative and for a standard invoice not more than
its total, and no more is allocated of a payment than its gross amount. -/
theorem receivables_covered (v : PostingServices β)
    (h : (receivableSystem v).ReachableWithin (fun s op => op.WithinLimits v s) s) :
    (∀ k i, s.invoices.get? k = some i → i.amountPaid = s.coverage k ∧
      (i.invoiceType = .standard → 0 ≤ i.amountPaid ∧ i.amountPaid ≤ i.totalAmount)) ∧
    ∀ k p, s.payments.get? k = some p → s.allocated k ≤ p.grossAmount := by
  have hcovered : Covered s := by
    refine h.invariant (P := Covered) (fun s hs => Unpaid.covered hs) ?_
    rintro s op s' hs hop rfl
    exact covered_after hs hop
  refine ⟨fun k i hi => ⟨hcovered.paid k i hi, fun hstandard => ?_⟩,
    fun k p hp => (hcovered.within k p hp).1⟩
  rw [hcovered.paid k i hi]
  exact ⟨hcovered.coverage_nonneg k, hcovered.fits k i hi hstandard⟩

/-! ### Two runs -/

def countingLedger : PostingServices ℕ where
  postPayment _ _ _ _ s := (.ok { success := true, journalEntryId := some s.ledger }, s.ledger + 1)
  reverseJournal _ _ _ _ s := s.ledger + 1
  reverseVat _ _ _ _ s := .ok s.ledger

def someDay : Date := ⟨2024, 5, 2, by decide⟩

def twoInvoices : ReceivablesStore ℕ where
  customers := Table.empty.insert {
    organizationId := 9
    legalName := "Customer"
    isActive := true
    arControlAccountId := 1
    parentCustomerId := none }
  taxCodes := Table.empty
  invoices := (Table.empty.insert (invoice 100)).insert (invoice 50)
  payments := Table.empty
  allocations := []
  ledger := 0
where
  /-- An invoice that was posted. -/
  invoice (totalAmount : ℚ) : Invoice := {
    organizationId := 9
    customerId := 0
    invoiceNumber := "INV"
    invoiceType := .standard
    invoiceDate := someDay
    dueDate := someDay
    totalAmount
    amountPaid := 0
    status := .posted }

theorem unpaid_twoInvoices : Unpaid twoInvoices := by
  refine ⟨rfl, rfl, (Table.all_empty.insert ?_).insert ?_⟩
  · exact ⟨rfl, ⟨100000000, by norm_num [twoInvoices.invoice]⟩, fun _ => by decide +kernel⟩
  · exact ⟨rfl, ⟨50000000, by norm_num [twoInvoices.invoice]⟩, fun _ => by decide +kernel⟩

def pay (amount : ℚ) (allocated : List ℚ) : ReceivableOperation :=
  .create 9 "RCT" {
    customerId := 0
    paymentDate := someDay
    currencyCode := "NGN"
    amount
    bankAccountId := some 1
    allocations := allocated.map fun amount => ⟨0, amount⟩ }

def clear (paymentId : UUID) : ReceivableOperation := .post 9 paymentId 1 none someDay

/-- Sixty and forty are paid of the first invoice and the sixty voided; an advance of eighty is
applied to it, and a payment of fifty matches the second. -/
def severalPayments : List ReceivableOperation :=
  [pay 60 [60], clear 0, pay 40 [40], clear 1, .void 9 0 "" someDay, pay 80 [], clear 2,
    .applyAdvances 0 someDay, pay 50 [], clear 3, .allocate {
      paymentId := 3
      paymentNumber := "RCT"
      paymentDate := someDay
      paymentAmount := 50
      customerId := 0
      invoiceId := 1
      invoiceNumber := "INV"
      invoiceTotal := 50
      invoiceOutstanding := 50 } someDay]

instance (input : CustomerPaymentInput) : Decidable input.WithinGross :=
  inferInstanceAs (Decidable (∀ amounts ∈ (resolveReceiptAmounts input).toOption, _ ∧ _))

instance (s : ReceivablesStore β) (paymentId : UUID) : Decidable (FitsInvoices s paymentId) :=
  inferInstanceAs (Decidable (∀ r ∈ s.invoices.rows, _ → _))

instance (s : ReceivablesStore β) (candidate : MatchCandidate) (amount : ℚ) :
    Decidable (candidate.StillMatches s amount) :=
  inferInstanceAs (Decidable (∃ p ∈ s.payments.get? candidate.paymentId, _))

instance (v : PostingServices β) (s : ReceivablesStore β) (op : ReceivableOperation) :
    Decidable (op.WithinLimits v s) := by
  cases op with
  | create org paymentNumber input =>
    exact inferInstanceAs (Decidable (_ = _ → input.WithinGross))
  | update org paymentId input =>
    exact inferInstanceAs (Decidable (_ = _ → input.WithinGross))
  | post org paymentId userId postingDate today =>
    exact inferInstanceAs (Decidable (_ = _ → FitsInvoices s paymentId))
  | allocate candidate today =>
    exact inferInstanceAs (Decidable (_ = _ → ∀ invoice ∈ s.invoices.get? candidate.invoiceId,
      0 < invoice.balanceDue →
        candidate.StillMatches s (min candidate.paymentAmount invoice.balanceDue)))
  | void | bounce | delete | applyAdvances => exact isTrue fun _ => trivial

theorem receivables_covered_sample :
    let s := System.after (ReceivableOperation.after countingLedger) twoInvoices severalPayments
    (s.invoices.get? 0).map Invoice.amountPaid = some 100 ∧ s.coverage 0 = 100 := by
  have hrun : (receivableSystem countingLedger).ReachableWithin
      (fun s op => op.WithinLimits countingLedger s)
      (System.after (ReceivableOperation.after countingLedger) twoInvoices severalPayments) :=
    System.reachableWithin_after unpaid_twoInvoices (by decide +kernel)
  have hpaid : (((System.after (ReceivableOperation.after countingLedger) twoInvoices
      severalPayments).invoices.get? 0).map Invoice.amountPaid) = some 100 := by
    decide +kernel
  obtain ⟨i, hi, hamount⟩ := Option.map_eq_some_iff.mp hpaid
  exact ⟨hpaid, ((receivables_covered countingLedger hrun).1 0 i hi).1.symm.trans hamount⟩

/-- The whole of an invoice is paid by two payments, which are both created before they are
posted. -/
def twoFullPayments : List ReceivableOperation := [pay 100 [100], pay 100 [100], clear 0, clear 1]

/-- **Both payments pay the invoice**: twice its total. -/
theorem both_pay_the_invoice :
    ¬ ∀ (v : PostingServices ℕ) (s : ReceivablesStore ℕ), (receivableSystem v).Reachable s →
      (∀ k i, s.invoices.get? k = some i → i.amountPaid = s.coverage k ∧
        (i.invoiceType = .standard → 0 ≤ i.amountPaid ∧ i.amountPaid ≤ i.totalAmount)) ∧
      ∀ k p, s.payments.get? k = some p → s.allocated k ≤ p.grossAmount := by
  intro h
  have hrun : (receivableSystem countingLedger).Reachable
      (System.after (ReceivableOperation.after countingLedger) twoInvoices twoFullPayments) :=
    System.reachable_after unpaid_twoInvoices _
  have hpaid : (((System.after (ReceivableOperation.after countingLedger) twoInvoices
      twoFullPayments).invoices.get? 0).map fun i =>
        (i.invoiceType, i.amountPaid, i.totalAmount)) = some (.standard, 200, 100) := by
    decide +kernel
  obtain ⟨i, hi, hamounts⟩ := Option.map_eq_some_iff.mp hpaid
  obtain ⟨htype, hamount, htotal⟩ : i.invoiceType = .standard ∧ i.amountPaid = 200 ∧
      i.totalAmount = 100 := by
    simpa using hamounts
  have hle := (((h countingLedger _ hrun).1 0 i hi).2 htype).2
  rw [hamount, htotal] at hle
  norm_num at hle

end DotmacErp.Receivables
