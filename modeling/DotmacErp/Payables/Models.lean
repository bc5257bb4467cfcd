import DotmacErp.GL.Database

/-!
# The payables' records

Suppliers, their invoices, the payments made to them with their allocations to invoices, and batches
of payments, with the rule for what an invoice's coverage makes its status (`resolvePaymentStatus`).

A payment posts to the ledger when it is sent and is reversed there when it is voided. The ledger is
a state `β` of its own beside the payables, and `PayableServices` are the calls made to it. What
nobody reads here (descriptions, dates of allocations, times, exchange differences) is left out; the
numbers of new payments and batches are drawn before a call.
-/

namespace DotmacErp.Payables

open Calendar Relational Session

/-! ### Enumerations -/

inductive SupplierInvoiceType where
  | standard
  | creditNote
  | debitNote

inductive SupplierInvoiceStatus where
  | draft
  | submitted
  | pendingApproval
  | approved
  | posted
  | partiallyPaid
  | paid
  | onHold
  | rejected
  | void
  | disputed
  deriving DecidableEq

inductive APPaymentMethod where
  | check
  | bankTransfer
  | wire
  | ach
  | card

def APPaymentMethod.ofText? (text : String) : Option APPaymentMethod :=
  [("CHECK", check), ("BANK_TRANSFER", bankTransfer), ("WIRE", wire), ("ACH", ach),
    ("CARD", card)].lookup text

inductive APPaymentStatus where
  | draft
  | pending
  | approved
  | sent
  | cleared
  | void
  | rejected
  deriving DecidableEq

def APPaymentStatus.value : APPaymentStatus → String
  | draft => "DRAFT"
  | pending => "PENDING"
  | approved => "APPROVED"
  | sent => "SENT"
  | cleared => "CLEARED"
  | void => "VOID"
  | rejected => "REJECTED"

/-- `terminal`: the statuses of a payment that is settled or cancelled. -/
def APPaymentStatus.terminal : List APPaymentStatus := [.cleared, .void, .rejected]

inductive APBatchStatus where
  | draft
  | approved
  | processing
  | completed
  | failed
  deriving DecidableEq

def APBatchStatus.value : APBatchStatus → String
  | draft => "DRAFT"
  | approved => "APPROVED"
  | processing => "PROCESSING"
  | completed => "COMPLETED"
  | failed => "FAILED"

/-! ### Rows -/

/-- What `decrypt_supplier_account_number` makes of a supplier's bank details. -/
inductive AccountNumber where
  | absent
  | number (text : String)
  | unavailable

structure BankDetails where
  accountName : Option String := none
  accountNumber : AccountNumber := .absent
  bankName : String := ""
  bankCode : Option String := none

structure Supplier where
  organizationId : UUID
  supplierCode : String
  legalName : String
  tradingName : Option String := none
  isActive : Bool := true
  withholdingTaxApplicable : Bool := false
  withholdingTaxCodeId : Option UUID := none
  bankDetails : BankDetails := {}

structure TaxCode where
  organizationId : UUID
  isWithholding : Bool

structure BankAccount where
  organizationId : UUID
  currencyCode : String
  accountNumber : String

structure SupplierInvoice where
  organizationId : UUID
  supplierId : UUID
  invoiceNumber : String
  invoiceType : SupplierInvoiceType := .standard
  currencyCode : String
  totalAmount : ℚ
  amountPaid : ℚ := 0
  withholdingTaxAmount : Option ℚ := none
  withholdingTaxCodeId : Option UUID := none
  status : SupplierInvoiceStatus := .posted

/-- `balance_due`, which the database computes. -/
def SupplierInvoice.balanceDue (invoice : SupplierInvoice) : ℚ :=
  invoice.totalAmount - invoice.amountPaid

structure SupplierPayment where
  organizationId : UUID
  supplierId : UUID
  paymentNumber : String
  paymentDate : Date
  paymentMethod : APPaymentMethod
  currencyCode : String
  amount : ℚ
  exchangeRate : ℚ
  functionalCurrencyAmount : ℚ
  bankAccountId : UUID
  reference : Option String := none
  status : APPaymentStatus := .draft
  grossAmount : ℚ
  withholdingTaxAmount : ℚ
  withholdingTaxCodeId : Option UUID := none
  createdByUserId : UUID
  approvedByUserId : Option UUID := none
  postedByUserId : Option UUID := none
  journalEntryId : Option UUID := none
  postingBatchId : Option UUID := none
  paymentBatchId : Option UUID := none
  correlationId : String := ""

structure APPaymentAllocation where
  paymentId : UUID
  invoiceId : UUID
  allocatedAmount : ℚ

structure APPaymentBatch where
  organizationId : UUID
  batchNumber : String
  batchDate : Date
  paymentMethod : APPaymentMethod
  bankAccountId : UUID
  currencyCode : String
  totalPayments : ℤ := 0
  totalAmount : ℚ := 0
  status : APBatchStatus := .draft
  bankFileGenerated : Bool := false
  createdByUserId : UUID
  approvedByUserId : Option UUID := none

/-- What a call may raise. -/
inductive PayableError where
  | notFound (message : String)
  | validation (message : String)
  | http (statusCode : ℕ) (detail : String)
  | integrity (constraint : String)
  | posting (message : String)

/-- An `HTTPException`, as the service errors are. -/
def PayableError.isHttp : PayableError → Bool
  | notFound _ | validation _ | http _ _ => true
  | integrity _ | posting _ => false

structure PayablesStore (β : Type) where
  suppliers : Table Supplier
  taxCodes : Table TaxCode
  bankAccounts : Table BankAccount
  invoices : Table SupplierInvoice
  payments : Table SupplierPayment
  allocations : List APPaymentAllocation
  batches : Table APPaymentBatch
  ledger : β

abbrev PayablesSession (β α : Type) := Session PayableError (PayablesStore β) α

def ofExcept {β α : Type} : Except PayableError α → PayablesSession β α
  | .ok a => pure a
  | .error e => throw e

@[simp] theorem ofExcept_eq_ok {β α : Type} {x : Except PayableError α} {a : α}
    {s s' : PayablesStore β} :
    (ofExcept x : PayablesSession β α) s = .ok a s' ↔ x = .ok a ∧ s' = s := by
  cases x with
  | ok b => simp [ofExcept, eq_comm]
  | error e => simp [ofExcept]

theorem ofExcept_error_state {β α : Type} {x : Except PayableError α} {e : PayableError}
    {s s' : PayablesStore β} (h : (ofExcept x : PayablesSession β α) s = .error e s') : s' = s := by
  cases x with
  | ok b => exact (pure_eq_error.mp h).elim
  | error e' => exact (throw_eq_error.mp h).2

structure ApPostingResult where
  success : Bool
  journalEntryId : Option UUID := none
  postingBatchId : Option UUID := none
  message : String := ""

/-- The calls the payables make to the ledger, each of which reads the whole store and leaves a
ledger: the posting of a payment, which answers or raises, the reversal of a payment's journal,
whose failures are swallowed, and the reversal of the tax recognised with a payment. Beside them,
which organizations keep creators from approving, and the numbers that are drawn. -/
structure PayableServices (β : Type) where
  postPayment : (organizationId paymentId : UUID) → (postingDate : Date) → (userId : UUID) →
    PayablesStore β → Except PayableError ApPostingResult × β
  reverseJournal : (organizationId paymentId userId : UUID) → (reason : String) →
    PayablesStore β → β
  reverseVat : (organizationId paymentId userId : UUID) → (reason : String) →
    PayablesStore β → Except PayableError β
  requiresSod : (organizationId : UUID) → Bool
  paymentNumber : (paymentId : UUID) → String
  batchNumber : (batchId : UUID) → String
  defaultCurrency : String

/-! ### Payment status -/

def paymentDust : ℚ := 1 / 100

def notPaymentDetermined : List SupplierInvoiceStatus :=
  [.draft, .submitted, .pendingApproval, .approved, .onHold, .rejected, .void, .disputed]

def resolvePaymentStatus (totalAmount amountPaid : ℚ) (currentStatus : SupplierInvoiceStatus) :
    SupplierInvoiceStatus :=
  if currentStatus ∈ notPaymentDetermined then currentStatus
  else if totalAmount - amountPaid ≤ paymentDust then .paid
  else if paymentDust < amountPaid then .partiallyPaid
  else .posted

def applyPaymentStatus (invoice : SupplierInvoice) : SupplierInvoice :=
  { invoice with
    status := resolvePaymentStatus invoice.totalAmount invoice.amountPaid invoice.status }

def addPaid (amount : ℚ) (invoice : SupplierInvoice) : SupplierInvoice :=
  applyPaymentStatus { invoice with amountPaid := amountColumn (invoice.amountPaid + amount) }

namespace PayablesStore

variable {β : Type}

def allocationsOf (s : PayablesStore β) (paymentId : UUID) : List APPaymentAllocation :=
  s.allocations.filter fun a => decide (a.paymentId = paymentId)

end PayablesStore

end DotmacErp.Payables
