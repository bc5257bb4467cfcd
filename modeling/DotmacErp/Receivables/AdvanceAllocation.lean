import DotmacErp.Receivables.CustomerPayments
import Mathlib.Data.List.Sort
import Mathlib.Data.Prod.Lex
import Mathlib.Data.String.Basic

/-!
# Allocating what was received

`AdvanceAllocationService.apply_to_invoice` applies the cleared receipts of a customer that are
not yet allocated to an invoice, the oldest first, and `allocate_candidate` a cleared payment to
the one open invoice of the same amount. Both write the allocation and the invoice together, and
neither allocates more than the invoice still owes when it is called.

A candidate is what `find_exact_match_candidates` found; `allocate_candidate` reads the invoice
again but not the payment. Names of customers are left out of candidates.
-/

namespace DotmacErp.Receivables

open Calendar Relational Session

variable {β : Type}

def dustThreshold : ℚ := paymentDust

structure AdvanceAllocationResult where
  allocationsCreated : ℕ := 0
  totalApplied : ℚ := 0
  invoiceFullyPaid : Bool := false

namespace AdvanceAllocationService

/-- `_get_unallocated_receipts`: the cleared receipts of a customer with what is left of them, the
oldest first. -/
def getUnallocatedReceipts (s : ReceivablesStore β) (org customerId : UUID) :
    List (UUID × ℚ) :=
  let receipts := (s.payments.select fun p =>
    decide (p.organizationId = org ∧ p.customerId = customerId ∧
      p.status = .cleared ∧ 0 < p.grossAmount)).filter fun r =>
        decide (dustThreshold < r.row.grossAmount - s.allocated r.id)
  (receipts.insertionSort fun p q =>
      toLex (p.row.paymentDate, p.id) ≤ toLex (q.row.paymentDate, q.id)).map
    fun r => (r.id, r.row.grossAmount - s.allocated r.id)

def applyReceipt (invoiceId paymentId : UUID) (amount : ℚ) : ReceivablesSession β PUnit := do
  addAllocation paymentId invoiceId amount
  modify fun s => { s with
    invoices := s.invoices.modify invoiceId fun invoice =>
      { invoice with amountPaid := amountColumn (invoice.amountPaid + amount) } }

/-- The loop over the receipts, until what remains of the balance is dust. -/
def applyReceipts (invoiceId : UUID) :
    List (UUID × ℚ) → ℚ → AdvanceAllocationResult →
      ReceivablesSession β AdvanceAllocationResult
  | [], _, result => pure result
  | (paymentId, unallocated) :: rest, remainingBalance, result =>
    if remainingBalance ≤ dustThreshold then pure result
    else if min remainingBalance unallocated < dustThreshold then
      applyReceipts invoiceId rest remainingBalance result
    else do
      let allocAmount := min remainingBalance unallocated
      applyReceipt invoiceId paymentId allocAmount
      applyReceipts invoiceId rest (remainingBalance - allocAmount)
        { result with
          allocationsCreated := result.allocationsCreated + 1
          totalApplied := result.totalApplied + allocAmount }

/-- `apply_to_invoice`, of a stored invoice. -/
def applyToInvoice (invoiceId : UUID) (today : Date) :
    ReceivablesSession β AdvanceAllocationResult := do
  let s ← get
  let invoice ← orRaise (s.invoices.get? invoiceId) (.notFound "Invoice not found")
  if invoice.balanceDue ≤ dustThreshold then pure {}
  else
    let receipts := getUnallocatedReceipts s invoice.organizationId invoice.customerId
    if receipts = [] then pure {}
    else do
      let result ← applyReceipts invoiceId receipts invoice.balanceDue {}
      modify fun s => { s with
        invoices := s.invoices.modify invoiceId (applyPaymentStatus today) }
      let s ← get
      pure { result with
        invoiceFullyPaid := (s.invoices.get? invoiceId).any fun i => decide (i.status = .paid) }

end AdvanceAllocationService

/-! ### Exact matches -/

structure MatchCandidate where
  paymentId : UUID
  paymentNumber : String
  paymentDate : Date
  paymentAmount : ℚ
  customerId : UUID
  invoiceId : UUID
  invoiceNumber : String
  invoiceTotal : ℚ
  invoiceOutstanding : ℚ

def allocateCandidate (candidate : MatchCandidate) (today : Date) :
    ReceivablesSession β Bool := do
  let s ← get
  let invoice ← orRaise (s.invoices.get? candidate.invoiceId)
    (.value ("Invoice " ++ candidate.invoiceId.str ++ " not found"))
  let liveOutstanding := invoice.totalAmount - invoice.amountPaid
  if liveOutstanding ≤ 0 then pure false
  else do
    let allocatedAmount := min candidate.paymentAmount liveOutstanding
    addAllocation candidate.paymentId candidate.invoiceId allocatedAmount
    modify fun s => { s with
      invoices := s.invoices.modify candidate.invoiceId (addPaid today allocatedAmount) }
    pure true

end DotmacErp.Receivables
