import DotmacErp.Payables.SupplierPayments

/-!
# Payment batches

`PaymentBatchService`. A batch is created with a payment for each supplier of the selected invoices,
payments are added to it and removed from it while it is a draft, it is approved, which approves its
drafts, and processed, which posts the payments of it that are approved. The file for the bank is
made from all payments that are linked to it.

A payment of the file is listed with its key. The contents of the file are its items, one a row.
-/

namespace DotmacErp.Payables

open Calendar Relational Session Rounding SupplierPaymentService

variable {β : Type}

namespace PaymentBatchService

/-! ### The plan of a batch -/

/-- What a batch is asked for with. Amounts and withheld amounts of invoices may be given. -/
structure BatchInput where
  batchDate : Date
  paymentMethod : String
  bankAccountId : UUID
  invoiceIds : List UUID
  currencyCode : Option String := none
  invoiceAmounts : UUID → Option ℚ := fun _ => none
  invoiceWhtAmounts : UUID → Option ℚ := fun _ => none

structure BatchLine where
  invoiceId : UUID
  supplierId : UUID
  amount : ℚ
  wht : ℚ

def payAmount (input : BatchInput) (invoiceId : UUID) (invoice : SupplierInvoice) : ℚ :=
  (input.invoiceAmounts invoiceId).getD invoice.balanceDue

def payWht (input : BatchInput) (invoiceId : UUID) (invoice : SupplierInvoice) : ℚ :=
  match input.invoiceWhtAmounts invoiceId with
  | some given => max given 0
  | none =>
    let planned := max (invoice.withholdingTaxAmount.getD 0) 0
    if 0 < planned ∧ 0 < invoice.totalAmount then
      halfUp 2 (planned * payAmount input invoiceId invoice / invoice.totalAmount)
    else 0

def lineFor (s : PayablesStore β) (currency : String) (input : BatchInput) (invoiceId : UUID) :
    PayablesSession β BatchLine := do
  let invoice ← orRaise (s.invoices.get? invoiceId)
    (.http 404 ("Invoices not found: " ++ invoiceId.str))
  refuse (invoice.status ∉ [SupplierInvoiceStatus.posted, .partiallyPaid])
    (.http 400 ("Invoice " ++ invoice.invoiceNumber ++ " is not payable"))
  refuse (invoice.currencyCode.toUpper ≠ currency)
    (.http 400 ("Invoice " ++ invoice.invoiceNumber ++ " currency " ++ invoice.currencyCode ++
      " does not match batch currency " ++ currency))
  refuse (invoice.balanceDue ≤ 0)
    (.http 400 ("Invoice " ++ invoice.invoiceNumber ++ " has no outstanding balance"))
  let amount := payAmount input invoiceId invoice
  refuse (amount ≤ 0)
    (.http 400 ("Payment amount for " ++ invoice.invoiceNumber ++ " must be positive"))
  refuse (invoice.balanceDue < amount)
    (.http 400 ("Payment amount " ++ fixedText 6 amount ++ " for " ++ invoice.invoiceNumber ++
      " exceeds outstanding balance " ++ fixedText 6 invoice.balanceDue))
  pure ⟨invoiceId, invoice.supplierId, amount, payWht input invoiceId invoice⟩

def linesFor (s : PayablesStore β) (currency : String) (input : BatchInput) :
    List UUID → PayablesSession β (List BatchLine)
  | [] => pure []
  | invoiceId :: rest => do
    let line ← lineFor s currency input invoiceId
    let lines ← linesFor s currency input rest
    pure (line :: lines)

structure BatchPayment where
  supplierId : UUID
  allocations : List PaymentAllocationInput
  wht : ℚ

def BatchPayment.gross (p : BatchPayment) : ℚ := allocationTotal p.allocations

def BatchPayment.net (p : BatchPayment) : ℚ := p.gross - p.wht

def paymentFor (lines : List BatchLine) (supplierId : UUID) : BatchPayment :=
  let own := lines.filter fun line => decide (line.supplierId = supplierId)
  { supplierId
    allocations := own.map fun line => ⟨line.invoiceId, line.amount⟩
    wht := (own.map BatchLine.wht).sum }

def paymentsFor (lines : List BatchLine) : List BatchPayment :=
  (lines.map BatchLine.supplierId).eraseDups.map (paymentFor lines)

/-! ### Creation -/

def BatchPayment.toInput (p : BatchPayment) (input : BatchInput) (method : APPaymentMethod)
    (currency : String) : SupplierPaymentInput where
  supplierId := p.supplierId
  paymentDate := input.batchDate
  paymentMethod := method
  currencyCode := currency
  amount := p.net
  grossAmount := if 0 < p.wht then some p.gross else none
  whtAmount := p.wht
  bankAccountId := input.bankAccountId
  allocations := p.allocations

def createPayments (v : PayableServices β) (org : UUID) (input : BatchInput)
    (method : APPaymentMethod) (currency : String) (userId : UUID) :
    List BatchPayment → PayablesSession β (List UUID)
  | [] => pure []
  | p :: rest => do
    let paymentId ← createPayment v org (p.toInput input method currency) userId
    let others ← createPayments v org input method currency userId rest
    pure (paymentId :: others)

def bankAccountOf (s : PayablesStore β) (org bankAccountId : UUID) :
    Option BankAccount :=
  (s.bankAccounts.get? bankAccountId).filter fun account =>
    decide (account.organizationId = org)

def BatchInput.currency (input : BatchInput) : Option String :=
  (input.currencyCode.filter fun code => decide (code ≠ "")).map fun code =>
    code.trimAscii.toString.toUpper

def resolveCurrency (s : PayablesStore β) (org : UUID) (input : BatchInput) :
    Except PayableError String :=
  match input.currency.filter fun code => decide (code ≠ "") with
  | some code => .ok code
  | none =>
    match bankAccountOf s org input.bankAccountId with
    | none => .error (.http 404 "Bank account not found")
    | some account =>
      if account.currencyCode = "" then .error (.http 400 "Currency could not be resolved")
      else .ok account.currencyCode.toUpper

/-- `create_batch`: a draft with the number and the sum of what its payments send. -/
def createBatch (v : PayableServices β) (org : UUID) (input : BatchInput)
    (method : APPaymentMethod) (payments : List BatchPayment) (createdByUserId : UUID) :
    PayablesSession β UUID := do
  refuse (payments = []) (.http 400 "Batch must have at least one payment")
  let s ← get
  let currencyCode := (input.currency.filter fun code => decide (code ≠ "")).getD
    (((bankAccountOf s org input.bankAccountId).map BankAccount.currencyCode).getD
      v.defaultCurrency)
  set { s with
    batches := s.batches.insert {
      organizationId := org
      batchNumber := "BATCH-" ++ v.batchNumber s.batches.next
      batchDate := input.batchDate
      paymentMethod := method
      bankAccountId := input.bankAccountId
      currencyCode
      totalPayments := payments.length
      totalAmount := amountColumn (payments.map BatchPayment.net).sum
      createdByUserId } }
  pure s.batches.next

def link (batchId : Option UUID) (payment : SupplierPayment) : SupplierPayment :=
  { payment with paymentBatchId := batchId }

def InFlight (s : PayablesStore β) (org invoiceId : UUID) : Prop :=
  ∃ a ∈ s.allocations, a.invoiceId = invoiceId ∧
    ∃ payment ∈ s.payments.get? a.paymentId, payment.organizationId = org ∧
      payment.status ∉ APPaymentStatus.terminal

instance (s : PayablesStore β) (org invoiceId : UUID) :
    Decidable (InFlight s org invoiceId) :=
  inferInstanceAs (Decidable (∃ a ∈ s.allocations, _ ∧ ∃ payment ∈ s.payments.get? a.paymentId, _))

def numbersOf (s : PayablesStore β) (invoiceIds : List UUID) : String :=
  ", ".intercalate (invoiceIds.filterMap fun k =>
    (s.invoices.get? k).map SupplierInvoice.invoiceNumber)

def createBatchFromInvoiceIds (v : PayableServices β) (org : UUID) (input : BatchInput)
    (createdByUserId : UUID) : PayablesSession β UUID := do
  let invoiceIds := input.invoiceIds.eraseDups
  refuse (invoiceIds = []) (.http 400 "Select at least one invoice")
  let method ← orRaise (APPaymentMethod.ofText? input.paymentMethod)
    (.http 400 ("Invalid payment method: " ++ input.paymentMethod))
  let s ← get
  let currency ← ofExcept (resolveCurrency s org input)
  let missing := invoiceIds.filter fun k =>
    !(s.invoices.get? k).any fun invoice => decide (invoice.organizationId = org)
  refuse (missing ≠ [])
    (.http 404 ("Invoices not found: " ++ ", ".intercalate (missing.map UUID.str)))
  let blocked := invoiceIds.filter fun k => decide (InFlight s org k)
  refuse (blocked ≠ [])
    (.http 400 ("Some selected invoices already have in-flight payments: " ++ numbersOf s blocked))
  let lines ← linesFor s currency input invoiceIds
  let payments := paymentsFor lines
  let paymentIds ← createPayments v org input method currency createdByUserId payments
  let batchId ← createBatch v org input method payments createdByUserId
  modify fun s => { s with
    payments := s.payments.mapRows fun r =>
      if r.id ∈ paymentIds then link (some batchId) r.row else r.row }
  pure batchId

/-! ### Drafts -/

def batchOf (s : PayablesStore β) (org batchId : UUID) : Option APPaymentBatch :=
  (s.batches.get? batchId).filter fun batch => decide (batch.organizationId = org)

def linked (s : PayablesStore β) (org batchId : UUID) :
    List (Stored SupplierPayment) :=
  s.payments.select fun payment =>
    decide (payment.paymentBatchId = some batchId ∧ payment.organizationId = org)

def addTotals (count : ℤ) (amount : ℚ) (batch : APPaymentBatch) : APPaymentBatch :=
  { batch with
    totalPayments := batch.totalPayments + count
    totalAmount := amountColumn (batch.totalAmount + amount) }

def addPaymentToBatch (org batchId paymentId : UUID) : PayablesSession β PUnit := do
  let s ← get
  let batch ← orRaise (batchOf s org batchId) (.http 404 "Payment batch not found")
  refuse (batch.status ≠ .draft)
    (.http 400 ("Cannot modify batch in " ++ batch.status.value ++ " status"))
  let payment ← orRaise (paymentOf s org paymentId) (.http 404 "Payment not found")
  refuse (payment.paymentBatchId ≠ none) (.http 400 "Payment already belongs to a batch")
  refuse (payment.status ∉ [APPaymentStatus.draft, .pending])
    (.http 400 ("Cannot add payment with status " ++ payment.status.value ++ " to batch"))
  set { s with
    payments := s.payments.modify paymentId (link (some batchId))
    batches := s.batches.modify batchId (addTotals 1 payment.amount) }

def removePaymentFromBatch (org batchId paymentId : UUID) :
    PayablesSession β PUnit := do
  let s ← get
  let batch ← orRaise (batchOf s org batchId) (.http 404 "Payment batch not found")
  refuse (batch.status ≠ .draft)
    (.http 400 ("Cannot modify batch in " ++ batch.status.value ++ " status"))
  let payment ← orRaise ((paymentOf s org paymentId).filter fun payment =>
    decide (payment.paymentBatchId = some batchId)) (.http 404 "Payment not found in this batch")
  set { s with
    payments := s.payments.modify paymentId (link none)
    batches := s.batches.modify batchId (addTotals (-1) (-payment.amount)) }

/-! ### Approval and processing -/

def inBatchStatus (status : APBatchStatus) (batch : APPaymentBatch) : APPaymentBatch :=
  { batch with status }

def approveDraft (userId : UUID) (payment : SupplierPayment) : SupplierPayment :=
  if payment.status = .draft then approvedBy userId payment else payment

def Of (org batchId : UUID) (payment : SupplierPayment) : Prop :=
  payment.paymentBatchId = some batchId ∧ payment.organizationId = org

instance (org batchId : UUID) (payment : SupplierPayment) :
    Decidable (Of org batchId payment) :=
  inferInstanceAs (Decidable (_ ∧ _))

def approveBatch (org batchId approvedByUserId : UUID) : PayablesSession β PUnit := do
  let s ← get
  let batch ← orRaise (batchOf s org batchId) (.http 404 "Payment batch not found")
  refuse (batch.status ≠ .draft)
    (.http 400 ("Cannot approve batch in " ++ batch.status.value ++ " status"))
  refuse (batch.createdByUserId = approvedByUserId)
    (.http 400 "Segregation of duties violation: creator cannot approve")
  refuse (linked s org batchId = []) (.http 400 "Cannot approve empty batch")
  set { s with
    payments := s.payments.update (fun payment => decide (Of org batchId payment))
      (approveDraft approvedByUserId)
    batches := s.batches.modify batchId fun batch => { batch with
      status := .approved
      approvedByUserId := some approvedByUserId } }

def processOne (v : PayableServices β) (org userId paymentId : UUID) :
    PayablesSession β Bool :=
  catching (do
    postPayment v org paymentId userId none
    pure true) fun e =>
      if e.isHttp = true then do
        modify fun s => { s with payments := s.payments.modify paymentId (withStatus .rejected) }
        pure false
      else throw e

/-- The payments are posted one after the other. Whether all of them were. -/
def processEach (v : PayableServices β) (org userId : UUID) :
    List UUID → PayablesSession β Bool
  | [] => pure true
  | paymentId :: rest => do
    let posted ← processOne v org userId paymentId
    let others ← processEach v org userId rest
    pure (posted && others)

def processBatch (v : PayableServices β) (org batchId processedByUserId : UUID) :
    PayablesSession β PUnit := do
  let s ← get
  let batch ← orRaise (batchOf s org batchId) (.http 404 "Payment batch not found")
  refuse (batch.status ≠ .approved)
    (.http 400 ("Cannot process batch in " ++ batch.status.value ++ " status"))
  set { s with batches := s.batches.modify batchId (inBatchStatus .processing) }
  let approved := (linked s org batchId).filter fun r =>
    decide (r.row.status = .approved)
  let allSuccess ← processEach v org processedByUserId (approved.map Stored.id)
  modify fun s => { s with
    batches := s.batches.modify batchId
      (inBatchStatus (if allSuccess = true then .completed else .failed)) }

/-! ### The file for the bank -/

structure PaymentItem where
  reference : String
  beneficiaryName : String
  amount : ℚ
  accountNumber : String
  bankName : String
  bankCode : Option String
  beneficiaryCode : Option String
  narration : String

/-- The name of a supplier: `trading_name or legal_name or "Unknown"`. -/
def supplierName (supplier : Option Supplier) : String :=
  match supplier with
  | none => "Unknown"
  | some supplier =>
    ([supplier.tradingName.getD "", supplier.legalName].find? fun name =>
      decide (name ≠ "")).getD "Unknown"

def itemFor (s : PayablesStore β) (batch : APPaymentBatch) (payment : SupplierPayment) :
    Except String PaymentItem :=
  let supplier := s.suppliers.get? payment.supplierId
  let name := supplierName supplier
  let details := (supplier.map Supplier.bankDetails).getD {}
  match details.accountNumber with
  | .unavailable => .error (name ++ " (" ++ payment.paymentNumber ++ "): bank account unavailable")
  | .absent => .error (name ++ " (" ++ payment.paymentNumber ++ "): no bank account")
  | .number accountNumber =>
    if accountNumber = "" then
      .error (name ++ " (" ++ payment.paymentNumber ++ "): no bank account")
    else .ok {
      reference := payment.paymentNumber
      beneficiaryName := details.accountName.getD name
      amount := payment.amount
      accountNumber
      bankName := details.bankName
      bankCode := details.bankCode
      beneficiaryCode := supplier.map Supplier.supplierCode
      narration := "AP Payment " ++ batch.batchNumber ++ " - " ++ name }

def itemsFor (s : PayablesStore β) (batch : APPaymentBatch)
    (payments : List (Stored SupplierPayment)) : List (UUID × PaymentItem) :=
  payments.filterMap fun r => (itemFor s batch r.row).toOption.map fun item => (r.id, item)

def skippedFor (s : PayablesStore β) (batch : APPaymentBatch)
    (payments : List (Stored SupplierPayment)) : List String :=
  payments.filterMap fun r =>
    match itemFor s batch r.row with
    | .error reason => some reason
    | .ok _ => none

/-- `generate_bank_file`: the items of the file, with the keys of their payments. -/
def generateBankFile (org batchId : UUID) :
    PayablesSession β (List (UUID × PaymentItem)) := do
  let s ← get
  let batch ← orRaise (batchOf s org batchId) (.http 404 "Payment batch not found")
  refuse (batch.status ∉ [APBatchStatus.approved, .completed])
    (.http 400 ("Cannot generate bank file for batch in " ++ batch.status.value ++ " status"))
  refuse ((s.bankAccounts.get? batch.bankAccountId).isNone = true)
    (.http 400 "Batch source bank account not found")
  let payments := linked s org batchId
  let items := itemsFor s batch payments
  let skipped := skippedFor s batch payments
  refuse (items = [])
    (.http 400 ("No payments with bank details in this batch. " ++
      if skipped = [] then "" else "Skipped: " ++ "; ".intercalate skipped))
  set { s with
    batches := s.batches.modify batchId fun batch => { batch with bankFileGenerated := true } }
  pure items

end PaymentBatchService

end DotmacErp.Payables
