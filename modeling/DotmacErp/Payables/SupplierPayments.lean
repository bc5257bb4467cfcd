import DotmacErp.Payables.Models

/-!
# Supplier payments

`SupplierPaymentService`. A payment is created as a draft with its allocations, approved, posted —
then it is sent, and its allocations are added to what is paid of their invoices — and cleared.
Voiding one that was sent takes them off again; the allocations stay.

What is withheld of a payment is given with it or follows from its invoices (`withholding`), and
decides what is sent of the amount it settles (`netAndGross`).
-/

namespace DotmacErp.Payables

open Calendar Relational Session Rounding

variable {β : Type}

structure PaymentAllocationInput where
  invoiceId : UUID
  amount : ℚ

/-- `SupplierPaymentInput`. A correlation that is not given is drawn before the call. -/
structure SupplierPaymentInput where
  supplierId : UUID
  paymentDate : Date
  paymentMethod : APPaymentMethod
  currencyCode : String
  amount : ℚ
  bankAccountId : UUID
  allocations : List PaymentAllocationInput := []
  exchangeRate : Option ℚ := none
  reference : Option String := none
  grossAmount : Option ℚ := none
  whtCodeId : Option UUID := none
  whtAmount : ℚ := 0
  withholdingTaxAmount : Option ℚ := none
  correlationId : String := ""

namespace SupplierPaymentService

/-! ### Amounts -/

def allocationTotal (allocations : List PaymentAllocationInput) : ℚ :=
  (allocations.map PaymentAllocationInput.amount).sum

def plannedOf (invoice : SupplierInvoice) (amount : ℚ) : Option (UUID × ℚ) :=
  let wht := max (invoice.withholdingTaxAmount.getD 0) 0
  match invoice.withholdingTaxCodeId with
  | none => none
  | some codeId =>
    if 0 < wht ∧ 0 < invoice.totalAmount then
      some (codeId, halfUp 2 (wht * amount / invoice.totalAmount))
    else none

def plannedFor (s : PayablesStore β) (allocations : List PaymentAllocationInput) :
    List (UUID × ℚ) :=
  allocations.filterMap fun alloc =>
    (s.invoices.get? alloc.invoiceId).bind fun invoice => plannedOf invoice alloc.amount

/-- What is withheld, and under which code: what is given, or what the invoices plan. -/
def withholding (input : SupplierPaymentInput) (planned : List (UUID × ℚ)) : ℚ × Option UUID :=
  let given := if input.whtAmount = 0 then input.withholdingTaxAmount.getD 0 else input.whtAmount
  let plannedAmount := (planned.map Prod.snd).sum
  if given = 0 ∧ 0 < plannedAmount then
    (plannedAmount, input.whtCodeId.or (planned.head?.map Prod.fst))
  else (given, input.whtCodeId)

/-- What is sent and what that settles. -/
def netAndGross (input : SupplierPaymentInput) (wht : ℚ) : Except PayableError (ℚ × ℚ) :=
  match input.grossAmount with
  | none =>
    let total := allocationTotal input.allocations
    if 0 < total ∧ 0 < wht ∧ |input.amount - total| ≤ 1 / 100 then .ok (total - wht, total)
    else .ok (input.amount, input.amount + wht)
  | some gross =>
    if 1 / 100 < |gross - wht - input.amount| then
      .error (.validation ("Amount mismatch: gross (" ++ fixedText 6 gross ++ ") - WHT (" ++
        fixedText 6 wht ++ ") != net (" ++ fixedText 6 input.amount ++ ")"))
    else .ok (input.amount, gross)

/-! ### Checks -/

def validateAllocation (org supplierId : UUID) (alloc : PaymentAllocationInput) :
    PayablesSession β PUnit := do
  let s ← get
  let invoice ← orRaise ((s.invoices.get? alloc.invoiceId).filter fun invoice =>
    decide (invoice.organizationId = org))
    (.notFound ("Invoice " ++ alloc.invoiceId.str ++ " not found"))
  refuse (invoice.supplierId ≠ supplierId)
    (.validation ("Invoice " ++ invoice.invoiceNumber ++ " belongs to different supplier"))
  refuse (invoice.status ∉ [SupplierInvoiceStatus.posted, .partiallyPaid])
    (.validation ("Invoice " ++ invoice.invoiceNumber ++ " is not payable"))
  refuse (invoice.balanceDue < alloc.amount)
    (.validation ("Allocation exceeds balance due on " ++ invoice.invoiceNumber))

/-- The checks of the allocations, one after the other. -/
def validateEach (org supplierId : UUID) :
    List PaymentAllocationInput → PayablesSession β PUnit
  | [] => pure ⟨⟩
  | alloc :: rest => do
    validateAllocation org supplierId alloc
    validateEach org supplierId rest

/-- The code something is withheld under: the one given, that of the invoices, or that of the
supplier. -/
def codeFor (supplier : Supplier) (wht : ℚ) (given planned : Option UUID) :
    Except PayableError (Option UUID) :=
  if 0 < wht ∧ given = none then
    match planned with
    | some codeId => .ok (some codeId)
    | none =>
      if supplier.withholdingTaxApplicable = true ∧ supplier.withholdingTaxCodeId ≠ none then
        .ok supplier.withholdingTaxCodeId
      else .error (.validation
        "WHT tax code is required when withholding tax amount is specified")
  else .ok given

/-- The check of a withholding code. -/
def validateWht (org : UUID) : Option UUID → PayablesSession β PUnit
  | none => pure ⟨⟩
  | some codeId => do
    let s ← get
    let code ← orRaise ((s.taxCodes.get? codeId).filter fun code =>
      decide (code.organizationId = org)) (.notFound "WHT tax code not found")
    refuse (code.isWithholding = false)
      (.validation "Selected tax code is not a WITHHOLDING tax code")

/-! ### Creation -/

def newPayment (v : PayableServices β) (paymentId org : UUID)
    (input : SupplierPaymentInput) (netGross : ℚ × ℚ) (wht : ℚ) (whtCodeId : Option UUID)
    (createdByUserId : UUID) : SupplierPayment where
  organizationId := org
  supplierId := input.supplierId
  paymentNumber := v.paymentNumber paymentId
  paymentDate := input.paymentDate
  paymentMethod := input.paymentMethod
  currencyCode := input.currencyCode
  amount := amountColumn netGross.1
  exchangeRate := halfUp 10 ((input.exchangeRate.filter fun rate => rate ≠ 0).getD 1)
  functionalCurrencyAmount := amountColumn
    (netGross.1 * (input.exchangeRate.filter fun rate => rate ≠ 0).getD 1)
  bankAccountId := input.bankAccountId
  reference := input.reference
  status := .draft
  grossAmount := amountColumn netGross.2
  withholdingTaxAmount := amountColumn wht
  withholdingTaxCodeId := whtCodeId
  createdByUserId
  correlationId := input.correlationId

def withAllocation (paymentId : UUID) (alloc : PaymentAllocationInput) (s : PayablesStore β) :
    PayablesStore β :=
  { s with
    allocations := s.allocations ++ [⟨paymentId, alloc.invoiceId, amountColumn alloc.amount⟩] }

def addAllocation (paymentId : UUID) (alloc : PaymentAllocationInput) :
    PayablesSession β PUnit := do
  let s ← get
  refuse (∃ a ∈ s.allocations, a.paymentId = paymentId ∧ a.invoiceId = alloc.invoiceId)
    (.integrity "uq_ap_allocation")
  set (withAllocation paymentId alloc s)

def addAllocations (paymentId : UUID) : List PaymentAllocationInput → PayablesSession β PUnit
  | [] => pure ⟨⟩
  | alloc :: rest => do
    addAllocation paymentId alloc
    addAllocations paymentId rest

def createPayment (v : PayableServices β) (org : UUID) (input : SupplierPaymentInput)
    (createdByUserId : UUID) : PayablesSession β UUID := do
  let s ← get
  let supplier ← orRaise ((s.suppliers.get? input.supplierId).filter fun supplier =>
    decide (supplier.organizationId = org)) (.notFound "Supplier not found")
  refuse (supplier.isActive = false) (.validation "Supplier is not active")
  refuse (input.grossAmount = none ∧ input.whtAmount = 0 ∧
      input.withholdingTaxAmount.getD 0 = 0 ∧ input.amount < allocationTotal input.allocations)
    (.validation "Allocation total exceeds gross payment amount")
  validateEach org input.supplierId input.allocations
  let planned := plannedFor s input.allocations
  refuse (1 < (planned.map Prod.fst).dedup.length)
    (.validation "Selected invoices use different WHT codes; create separate payments")
  let (wht, given) := withholding input planned
  let netGross ← ofExcept (netAndGross input wht)
  let whtCodeId ← ofExcept (codeFor supplier wht given (planned.head?.map Prod.fst))
  validateWht org whtCodeId
  refuse (input.allocations ≠ [] ∧ netGross.2 < allocationTotal input.allocations)
    (.validation "Allocation total exceeds gross payment amount")
  modify fun s => { s with
    payments := s.payments.insert (newPayment v s.payments.next org input netGross wht
      whtCodeId createdByUserId) }
  addAllocations s.payments.next input.allocations
  pure s.payments.next

/-! ### The life of a payment -/

def paymentOf (s : PayablesStore β) (org paymentId : UUID) : Option SupplierPayment :=
  (s.payments.get? paymentId).filter fun payment =>
    decide (payment.organizationId = org)

def approvedBy (userId : UUID) (payment : SupplierPayment) : SupplierPayment :=
  { payment with status := .approved, approvedByUserId := some userId }

def approvePayment (v : PayableServices β) (org paymentId approvedByUserId : UUID) :
    PayablesSession β PUnit := do
  let s ← get
  let payment ← orRaise (paymentOf s org paymentId) (.notFound "Payment not found")
  refuse (payment.status ∉ [APPaymentStatus.draft, .pending])
    (.validation ("Cannot approve payment with status '" ++ payment.status.value ++ "'"))
  refuse (payment.createdByUserId = approvedByUserId ∧ v.requiresSod org = true)
    (.validation "Segregation of duties violation: creator cannot approve")
  set { s with payments := s.payments.modify paymentId (approvedBy approvedByUserId) }

/-- The loop over the allocations of a payment: each changes what is paid of its invoice, one way
or the other. -/
def payInvoices (sign : ℚ) (allocations : List APPaymentAllocation)
    (invoices : Table SupplierInvoice) : Table SupplierInvoice :=
  allocations.foldl
    (fun t a => t.modify a.invoiceId (addPaid (sign * a.allocatedAmount))) invoices

def sentBy (userId : UUID) (result : ApPostingResult) (payment : SupplierPayment) :
    SupplierPayment :=
  { payment with
    status := .sent
    postedByUserId := some userId
    journalEntryId := result.journalEntryId
    postingBatchId := result.postingBatchId }

def postPayment (v : PayableServices β) (org paymentId postedByUserId : UUID)
    (postingDate : Option Date) : PayablesSession β PUnit := do
  let s ← get
  let payment ← orRaise (paymentOf s org paymentId) (.notFound "Payment not found")
  refuse (payment.status ≠ .approved)
    (.validation ("Cannot post payment with status '" ++ payment.status.value ++ "'"))
  let answer := v.postPayment org paymentId (postingDate.getD payment.paymentDate)
    postedByUserId s
  set { s with ledger := answer.2 }
  let result ← ofExcept answer.1
  refuse (result.success = false) (.validation result.message)
  modify fun s => { s with
    payments := s.payments.modify paymentId (sentBy postedByUserId result)
    invoices := payInvoices 1 (s.allocationsOf paymentId) s.invoices }

def withStatus (status : APPaymentStatus) (payment : SupplierPayment) : SupplierPayment :=
  { payment with status }

def takeBack (v : PayableServices β) (org paymentId voidedByUserId : UUID)
    (reason : String) (payment : SupplierPayment) : PayablesSession β PUnit := do
  modify fun s => { s with
    invoices := payInvoices (-1) (s.allocationsOf paymentId) s.invoices }
  runIf (payment.journalEntryId.isSome = true) do
    modify fun s => { s with
      ledger := v.reverseJournal org paymentId voidedByUserId reason s }
    let s ← get
    let ledger ← ofExcept (v.reverseVat org paymentId voidedByUserId reason s)
    set { s with ledger := ledger }

def voidPayment (v : PayableServices β) (org paymentId voidedByUserId : UUID)
    (reason : String) : PayablesSession β PUnit := do
  let s ← get
  let payment ← orRaise (paymentOf s org paymentId) (.notFound "Payment not found")
  refuse (payment.status ∈ [APPaymentStatus.cleared, .void])
    (.validation ("Cannot void payment with status '" ++ payment.status.value ++ "'"))
  runIf (payment.status = .sent)
    (takeBack v org paymentId voidedByUserId reason payment)
  modify fun s => { s with payments := s.payments.modify paymentId (withStatus .void) }

def markCleared (org paymentId : UUID) : PayablesSession β PUnit := do
  let s ← get
  let payment ← orRaise (paymentOf s org paymentId) (.notFound "Payment not found")
  refuse (payment.status ≠ .sent)
    (.validation ("Cannot clear payment with status '" ++ payment.status.value ++ "'"))
  set { s with payments := s.payments.modify paymentId (withStatus .cleared) }

end SupplierPaymentService

end DotmacErp.Payables
