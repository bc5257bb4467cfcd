import DotmacErp.Foundation.Totals
import DotmacErp.GL.Database

/-!
# The receivables' records

Customers, invoices, the payments customers make and the allocations of payments to invoices, with
the rule for what an invoice's coverage makes its status (`resolvePaymentStatus`).

What has been paid of an invoice is kept twice: `amount_paid` on the invoice, and the allocations
of the payments. `coverage` is the second projected to the first: the allocations to an invoice of
the payments that cleared.

A payment posts to the ledger when it clears and is reversed there when it is voided. The ledger is
a state `β` of its own beside the receivables, and `PostingServices` are the calls made to it. What
nobody reads here (descriptions, the method of a payment, dates of allocations, users) is left out;
the number of a new payment and the day of a call come with the call.
-/

namespace DotmacErp.Receivables

open Calendar Relational Session Totals

/-! ### Enumerations -/

inductive InvoiceType where
  | standard
  | creditNote
  | debitNote
  | proforma
  deriving DecidableEq

inductive InvoiceStatus where
  | draft
  | submitted
  | approved
  | posted
  | partiallyPaid
  | paid
  | overdue
  | void
  | disputed
  deriving DecidableEq

def InvoiceStatus.value : InvoiceStatus → String
  | .draft => "DRAFT"
  | .submitted => "SUBMITTED"
  | .approved => "APPROVED"
  | .posted => "POSTED"
  | .partiallyPaid => "PARTIALLY_PAID"
  | .paid => "PAID"
  | .overdue => "OVERDUE"
  | .void => "VOID"
  | .disputed => "DISPUTED"

inductive PaymentStatus where
  | pending
  | approved
  | cleared
  | bounced
  | reversed
  | void
  deriving DecidableEq

def PaymentStatus.value : PaymentStatus → String
  | .pending => "PENDING"
  | .approved => "APPROVED"
  | .cleared => "CLEARED"
  | .bounced => "BOUNCED"
  | .reversed => "REVERSED"
  | .void => "VOID"

inductive TaxType where
  | vat
  | gst
  | salesTax
  | withholding
  | incomeTax
  | excise
  | customs
  | stampDuty
  | other
  deriving DecidableEq

/-! ### Rows -/

structure Customer where
  organizationId : UUID
  legalName : String
  isActive : Bool
  arControlAccountId : UUID
  parentCustomerId : Option UUID

structure TaxCode where
  organizationId : UUID
  taxType : TaxType
  taxPaidAccountId : Option UUID

structure Invoice where
  organizationId : UUID
  customerId : UUID
  invoiceNumber : String
  invoiceType : InvoiceType
  invoiceDate : Date
  dueDate : Date
  totalAmount : ℚ
  amountPaid : ℚ
  status : InvoiceStatus
  journalEntryId : Option UUID := none
  postingBatchId : Option UUID := none

/-- `balance_due`, which the database computes. -/
def Invoice.balanceDue (invoice : Invoice) : ℚ := invoice.totalAmount - invoice.amountPaid

structure CustomerPayment where
  organizationId : UUID
  customerId : UUID
  paymentNumber : String
  paymentDate : Date
  currencyCode : String
  grossAmount : ℚ
  amount : ℚ
  whtCodeId : Option UUID
  whtAmount : ℚ
  whtCertificateNumber : Option String
  exchangeRate : ℚ
  functionalCurrencyAmount : ℚ
  bankAccountId : Option UUID
  reference : Option String
  correlationId : String
  status : PaymentStatus
  journalEntryId : Option UUID
  postingBatchId : Option UUID
  deriving DecidableEq

structure PaymentAllocation where
  paymentId : UUID
  invoiceId : UUID
  allocatedAmount : ℚ

/-- What a call may raise. -/
inductive ReceivableError where
  | notFound (message : String)
  | validation (message : String)
  | value (message : String)
  | integrity (constraint : String)
  | posting (message : String)

/-- The tables of receivables, over any ledger. -/
structure ReceivablesStore (β : Type) where
  customers : Table Customer
  taxCodes : Table TaxCode
  invoices : Table Invoice
  payments : Table CustomerPayment
  allocations : List PaymentAllocation
  ledger : β

abbrev ReceivablesSession (β α : Type) := Session ReceivableError (ReceivablesStore β) α

def ofExcept {β α : Type} : Except ReceivableError α → ReceivablesSession β α
  | .ok a => pure a
  | .error e => throw e

@[simp] theorem ofExcept_eq_ok {β α : Type} {x : Except ReceivableError α} {a : α}
    {s s' : ReceivablesStore β} :
    (ofExcept x : ReceivablesSession β α) s = .ok a s' ↔ x = .ok a ∧ s' = s := by
  cases x with
  | ok b => simp [ofExcept, eq_comm]
  | error e => simp [ofExcept]

structure ArPostingResult where
  success : Bool
  journalEntryId : Option UUID := none
  postingBatchId : Option UUID := none
  message : String := ""

/-- The calls the receivables make to the ledger. Each reads the whole store and leaves a ledger:
the posting of a payment, which answers or raises, the reversal of a payment's journal, whose
failures are swallowed, and the reversal of the tax recognised with a payment. -/
structure PostingServices (β : Type) where
  postPayment : (organizationId paymentId : UUID) → (postingDate : Date) → (userId : UUID) →
    ReceivablesStore β → Except ReceivableError ArPostingResult × β
  reverseJournal : (organizationId paymentId : UUID) → (action reason : String) →
    ReceivablesStore β → β
  reverseVat : (organizationId paymentId : UUID) → (action reason : String) →
    ReceivablesStore β → Except ReceivableError β

/-! ### Payment status -/

def paymentDust : ℚ := 1 / 100

def notPaymentDetermined : List InvoiceStatus :=
  [.draft, .submitted, .approved, .void, .disputed]

def resolvePaymentStatus (totalAmount amountPaid : ℚ) (currentStatus : InvoiceStatus)
    (dueDate : Option Date) (today : Date) : InvoiceStatus :=
  if currentStatus ∈ notPaymentDetermined then currentStatus
  else if totalAmount - amountPaid ≤ paymentDust then .paid
  else if paymentDust < amountPaid then .partiallyPaid
  else if dueDate.any fun d => decide (d < today) then .overdue
  else .posted

def applyPaymentStatus (today : Date) (invoice : Invoice) : Invoice :=
  { invoice with
    status := resolvePaymentStatus invoice.totalAmount invoice.amountPaid invoice.status
      (some invoice.dueDate) today }

def addPaid (today : Date) (amount : ℚ) (invoice : Invoice) : Invoice :=
  applyPaymentStatus today
    { invoice with amountPaid := amountColumn (invoice.amountPaid + amount) }

@[simp] theorem amountPaid_addPaid (today : Date) (amount : ℚ) (invoice : Invoice) :
    (addPaid today amount invoice).amountPaid = amountColumn (invoice.amountPaid + amount) := rfl

/-! ### Allocations -/

variable {β : Type}

namespace ReceivablesStore

def isCleared (s : ReceivablesStore β) (paymentId : UUID) : Bool :=
  (s.payments.get? paymentId).any fun p => decide (p.status = .cleared)

def covering (s : ReceivablesStore β) (a : PaymentAllocation) : ℚ :=
  if s.isCleared a.paymentId then a.allocatedAmount else 0

/-- **The coverage of an invoice**: what is allocated to it of payments that cleared. -/
def coverage (s : ReceivablesStore β) (invoiceId : UUID) : ℚ :=
  total s.covering PaymentAllocation.invoiceId invoiceId s.allocations

def allocated (s : ReceivablesStore β) (paymentId : UUID) : ℚ :=
  total PaymentAllocation.allocatedAmount PaymentAllocation.paymentId paymentId s.allocations

def allocationsOf (s : ReceivablesStore β) (paymentId : UUID) : List PaymentAllocation :=
  s.allocations.filter fun a => a.paymentId = paymentId

end ReceivablesStore

def withAllocation (paymentId invoiceId : UUID) (amount : ℚ) (s : ReceivablesStore β) :
    ReceivablesStore β :=
  { s with allocations := s.allocations ++ [⟨paymentId, invoiceId, amountColumn amount⟩] }

def addAllocation (paymentId invoiceId : UUID) (amount : ℚ) : ReceivablesSession β PUnit := do
  let s ← get
  refuse ((s.payments.get? paymentId).isNone = true)
    (.integrity "payment_allocation_payment_id_fkey")
  refuse ((s.invoices.get? invoiceId).isNone = true)
    (.integrity "payment_allocation_invoice_id_fkey")
  refuse (∃ a ∈ s.allocations, a.paymentId = paymentId ∧ a.invoiceId = invoiceId)
    (.integrity "uq_allocation")
  set (withAllocation paymentId invoiceId amount s)

theorem addAllocation_eq_ok {s s' : ReceivablesStore β} {paymentId invoiceId : UUID} {amount : ℚ}
    {u : PUnit} (h : addAllocation paymentId invoiceId amount s = .ok u s') :
    (s.payments.get? paymentId).isSome = true ∧ (s.invoices.get? invoiceId).isSome = true ∧
      (∀ a ∈ s.allocations, a.paymentId = paymentId → a.invoiceId ≠ invoiceId) ∧
      s' = withAllocation paymentId invoiceId amount s := by
  rw [addAllocation, get_bind, refuse_bind, refuse_bind, refuse_bind,
    set_eq_ok] at h
  obtain ⟨hpayment, hinvoice, hunique, rfl⟩ := h
  refine ⟨Option.isSome_iff_ne_none.mpr fun hnone => hpayment (by simp [hnone]),
    Option.isSome_iff_ne_none.mpr fun hnone => hinvoice (by simp [hnone]), ?_, rfl⟩
  intro a ha hp hi
  exact hunique ⟨a, ha, hp, hi⟩

end DotmacErp.Receivables
