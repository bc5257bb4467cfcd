import DotmacErp.Receivables.Models

/-!
# Customer payments

`CustomerPaymentService`. A payment is created with its allocations while it is pending, may be
changed or deleted as long as it is, and is posted: then it clears and its allocations are added to
what is paid of their invoices. Voiding or bouncing a cleared payment takes them off again; the
allocations stay.

Creation and change make one check of the customer, of the amounts, of the allocations against the
balances due and of the withholding code (`validateReceipt`). Posting makes none of them again.
-/

namespace DotmacErp.Receivables

open Calendar Relational Session Totals

variable {β : Type}

structure PaymentAllocationInput where
  invoiceId : UUID
  amount : ℚ

/-- `CustomerPaymentInput`. A correlation that is not given is drawn before the call. -/
structure CustomerPaymentInput where
  customerId : UUID
  paymentDate : Date
  currencyCode : String
  amount : ℚ
  bankAccountId : Option UUID := none
  allocations : List PaymentAllocationInput := []
  exchangeRate : Option ℚ := none
  reference : Option String := none
  grossAmount : Option ℚ := none
  whtCodeId : Option UUID := none
  whtAmount : ℚ := 0
  whtCertificateNumber : Option String := none
  correlationId : String := ""
  consolidated : Bool := false

structure ReceiptAmounts where
  net : ℚ
  gross : ℚ
  wht : ℚ

namespace CustomerPaymentService

/-! ### Validation -/

def resolveReceiptAmounts (input : CustomerPaymentInput) :
    Except ReceivableError ReceiptAmounts :=
  let net := input.amount
  let wht := input.whtAmount
  if net < 0 ∨ wht < 0 then
    .error (.validation "Payment and WHT amounts cannot be negative")
  else
    match input.grossAmount with
    | none => .ok { net, gross := net + wht, wht }
    | some gross =>
      let expectedWht := gross - net
      if expectedWht < 0 then
        .error (.validation "Gross payment amount cannot be less than net cash")
      else if wht = 0 ∧ gross ≠ net then .ok { net, gross, wht := expectedWht }
      else if 1 / 100 < |expectedWht - wht| then
        .error (.validation ("WHT amount (" ++ Rounding.fixedText 6 wht ++
          ") doesn't match gross - net (" ++ Rounding.fixedText 6 expectedWht ++ ")"))
      else .ok { net, gross, wht }

/-- `CustomerFamilyResolver.family_ids`: the customer and its sub-accounts. -/
def familyIds (s : ReceivablesStore β) (org customerId : UUID) : List UUID :=
  customerId :: (s.customers.select fun c => decide (c.organizationId = org ∧
    c.parentCustomerId = some customerId)).map Stored.id

def shareControlAccount (s : ReceivablesStore β) (family : List UUID) (accountId : UUID) : Bool :=
  s.customers.rows.all fun r => decide (r.id ∈ family → r.row.arControlAccountId = accountId)

def payableStatuses : List InvoiceStatus := [.posted, .partiallyPaid, .overdue]

def validateAllocation (org : UUID) (family : List UUID)
    (alloc : PaymentAllocationInput) : ReceivablesSession β PUnit := do
  let s ← get
  let notFound : ReceivableError := .notFound ("Invoice " ++ alloc.invoiceId.str ++ " not found")
  let invoice ← orRaise (s.invoices.get? alloc.invoiceId) notFound
  refuse (invoice.organizationId ≠ org) notFound
  refuse (invoice.customerId ∉ family)
    (.validation ("Invoice " ++ invoice.invoiceNumber ++ " belongs to different customer"))
  refuse (invoice.status ∉ payableStatuses)
    (.validation ("Invoice " ++ invoice.invoiceNumber ++ " is not payable"))
  refuse (invoice.balanceDue < alloc.amount)
    (.validation ("Allocation exceeds balance due on " ++ invoice.invoiceNumber))

/-- The checks of the allocations, one after the other. -/
def validateEach (org : UUID) (family : List UUID) :
    List PaymentAllocationInput → ReceivablesSession β PUnit
  | [] => pure ⟨⟩
  | alloc :: rest => do
    validateAllocation org family alloc
    validateEach org family rest

def validateWht (org : UUID) (whtCodeId : Option UUID) :
    ReceivablesSession β (Option UUID) := do
  match whtCodeId with
  | none => pure none
  | some codeId =>
    let s ← get
    let code ← orRaise (s.taxCodes.get? codeId) (.notFound "WHT tax code not found")
    refuse (code.organizationId ≠ org) (.notFound "WHT tax code not found")
    refuse (code.taxType ≠ .withholding)
      (.validation "Selected tax code is not a WITHHOLDING tax code")
    pure (some codeId)

def validateReceipt (org : UUID) (input : CustomerPaymentInput) :
    ReceivablesSession β (ReceiptAmounts × Option UUID) := do
  let s ← get
  let customer ← orRaise (s.customers.get? input.customerId) (.notFound "Customer not found")
  refuse (customer.organizationId ≠ org) (.notFound "Customer not found")
  refuse (customer.isActive = false) (.validation "Customer is not active")
  let family := if input.consolidated then familyIds s org input.customerId
    else [input.customerId]
  refuse (input.consolidated = true ∧
      shareControlAccount s family customer.arControlAccountId = false)
    (.validation ("Consolidated payment requires the whole account family to " ++
      "share one AR control account"))
  let amounts ← ofExcept (resolveReceiptAmounts input)
  refuse (amounts.gross < (input.allocations.map PaymentAllocationInput.amount).sum)
    (.validation "Allocation total exceeds gross payment amount")
  validateEach org family input.allocations
  let whtCodeId ← validateWht org input.whtCodeId
  refuse (0 < amounts.wht ∧ whtCodeId = none)
    (.validation "WHT tax code is required when WHT amount is specified")
  pure (amounts, whtCodeId)

/-! ### Creation, change and deletion -/

def receiptRate (input : CustomerPaymentInput) : ℚ :=
  (input.exchangeRate.filter fun rate => rate ≠ 0).getD 1

def addAllocations (paymentId : UUID) : List PaymentAllocationInput → ReceivablesSession β PUnit
  | [] => pure ⟨⟩
  | alloc :: rest => do
    addAllocation paymentId alloc.invoiceId alloc.amount
    addAllocations paymentId rest

def newPayment (org : UUID) (paymentNumber : String) (input : CustomerPaymentInput)
    (amounts : ReceiptAmounts) (whtCodeId : Option UUID) : CustomerPayment where
  organizationId := org
  customerId := input.customerId
  paymentNumber
  paymentDate := input.paymentDate
  currencyCode := input.currencyCode
  grossAmount := amountColumn amounts.gross
  amount := amountColumn amounts.net
  whtCodeId
  whtAmount := amountColumn amounts.wht
  whtCertificateNumber := input.whtCertificateNumber
  exchangeRate := rateColumn (receiptRate input)
  functionalCurrencyAmount := amountColumn (amounts.net * receiptRate input)
  bankAccountId := input.bankAccountId
  reference := input.reference
  correlationId := input.correlationId
  status := .pending
  journalEntryId := none
  postingBatchId := none

def createPayment (org : UUID) (paymentNumber : String)
    (input : CustomerPaymentInput) : ReceivablesSession β UUID := do
  let (amounts, whtCodeId) ← validateReceipt org input
  let s ← get
  set { s with
    payments :=
      s.payments.insert (newPayment org paymentNumber input amounts whtCodeId) }
  addAllocations s.payments.next input.allocations
  pure s.payments.next

def getPayment (org paymentId : UUID) (message : String) :
    ReceivablesSession β CustomerPayment := do
  let s ← get
  let payment ← orRaise (s.payments.get? paymentId) (.notFound message)
  refuse (payment.organizationId ≠ org) (.notFound message)
  pure payment

def changed (input : CustomerPaymentInput) (amounts : ReceiptAmounts) (whtCodeId : Option UUID)
    (payment : CustomerPayment) : CustomerPayment :=
  { payment with
    customerId := input.customerId
    paymentDate := input.paymentDate
    currencyCode := input.currencyCode
    grossAmount := amountColumn amounts.gross
    amount := amountColumn amounts.net
    whtCodeId
    whtAmount := amountColumn amounts.wht
    whtCertificateNumber := input.whtCertificateNumber
    exchangeRate := rateColumn (receiptRate input)
    functionalCurrencyAmount := amountColumn (amounts.net * receiptRate input)
    bankAccountId := input.bankAccountId
    reference := input.reference }

def withoutPayment (paymentId : UUID) (allocations : List PaymentAllocation) :
    List PaymentAllocation :=
  allocations.filter fun a => a.paymentId ≠ paymentId

def updatePayment (org paymentId : UUID) (input : CustomerPaymentInput) :
    ReceivablesSession β PUnit := do
  let payment ← getPayment org paymentId "Payment not found"
  refuse (payment.status ≠ .pending)
    (.validation ("Cannot edit payment with status '" ++ payment.status.value ++
      "'. Only PENDING payments can be edited."))
  let (amounts, whtCodeId) ← validateReceipt org input
  modify fun s => { s with
    payments := s.payments.modify paymentId (changed input amounts whtCodeId)
    allocations := withoutPayment paymentId s.allocations }
  addAllocations paymentId input.allocations

def deleteReceipt (org receiptId : UUID) : ReceivablesSession β PUnit := do
  let payment ← getPayment org receiptId "Receipt not found"
  refuse (payment.status ≠ .pending)
    (.validation ("Cannot delete receipt with status '" ++ payment.status.value ++
      "'. Only draft receipts can be deleted."))
  modify fun s => { s with
    payments := s.payments.erase receiptId
    allocations := withoutPayment receiptId s.allocations }

/-! ### Posting, voiding and bouncing -/

/-- The loop over the allocations of a payment: each changes what is paid of its invoice, one way
or the other. -/
def payInvoices (today : Date) (sign : ℚ) (allocations : List PaymentAllocation)
    (invoices : Table Invoice) : Table Invoice :=
  allocations.foldl
    (fun t a => t.modify a.invoiceId (addPaid today (sign * a.allocatedAmount))) invoices

def markCleared (result : ArPostingResult) (payment : CustomerPayment) : CustomerPayment :=
  { payment with
    status := .cleared
    journalEntryId := result.journalEntryId
    postingBatchId := result.postingBatchId }

def withStatus (status : PaymentStatus) (payment : CustomerPayment) : CustomerPayment :=
  { payment with status }

/-- `post_payment`. The payment is approved while the ledger is asked; a refusal of the ledger is
raised. -/
def postPayment (v : PostingServices β) (org paymentId userId : UUID)
    (postingDate : Option Date) (today : Date) : ReceivablesSession β PUnit := do
  let payment ← getPayment org paymentId "Payment not found"
  refuse (payment.status ≠ .pending)
    (.validation ("Cannot post payment with status '" ++ payment.status.value ++ "'"))
  refuse (payment.bankAccountId = none)
    (.validation "Bank account is required to post payment")
  modify fun s => { s with payments := s.payments.modify paymentId (withStatus .approved) }
  let s ← get
  let answer := v.postPayment org paymentId (postingDate.getD payment.paymentDate)
    userId s
  set { s with ledger := answer.2 }
  let result ← catching (ofExcept answer.1) fun e => do
    modify fun s => { s with payments := s.payments.modify paymentId (withStatus .pending) }
    throw e
  if result.success = false ∨ result.journalEntryId = none then do
    modify fun s => { s with payments := s.payments.modify paymentId (withStatus .pending) }
    throw (.validation
      (if result.message = "" then "Payment posting failed" else result.message))
  else
    modify fun s => { s with
      payments := s.payments.modify paymentId (markCleared result)
      invoices := payInvoices today 1 (s.allocationsOf paymentId) s.invoices }

/-- A payment taken back: what a cleared one paid is taken off its invoices, and its journal and
its tax are reversed. -/
def takeBack (v : PostingServices β) (org paymentId : UUID) (payment : CustomerPayment)
    (action reason : String) (status : PaymentStatus) (today : Date) :
    ReceivablesSession β PUnit := do
  runIf (payment.status = .cleared) do
    modify fun s => { s with
      invoices := payInvoices today (-1) (s.allocationsOf paymentId) s.invoices }
    runIf (payment.journalEntryId.isSome = true) do
      modify fun s => { s with
        ledger := v.reverseJournal org paymentId action reason s }
      let s ← get
      let ledger ← ofExcept (v.reverseVat org paymentId action reason s)
      set { s with ledger }
  modify fun s => { s with payments := s.payments.modify paymentId (withStatus status) }

def voidPayment (v : PostingServices β) (org paymentId : UUID) (reason : String)
    (today : Date) : ReceivablesSession β PUnit := do
  let payment ← getPayment org paymentId "Payment not found"
  refuse (payment.status = .void) (.validation "Payment is already voided")
  takeBack v org paymentId payment "void" ("Payment voided: " ++ reason) .void today

def markBounced (v : PostingServices β) (org paymentId : UUID) (reason : String)
    (today : Date) : ReceivablesSession β PUnit := do
  let payment ← getPayment org paymentId "Payment not found"
  refuse (payment.status ≠ .pending ∧ payment.status ≠ .cleared)
    (.validation ("Cannot mark payment as bounced with status '" ++ payment.status.value ++ "'"))
  takeBack v org paymentId payment "bounce" ("Payment bounced: " ++ reason) .bounced
    today

end CustomerPaymentService

end DotmacErp.Receivables
