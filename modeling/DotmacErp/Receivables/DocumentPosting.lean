import DotmacErp.Posting.Adapter
import DotmacErp.Receivables.AdvanceAllocation

/-!
# Posting documents

How invoices and payments get into the ledger. `ar/posting/invoice.py` and `ar/posting/payment.py`
share one course (`postDocument`): a journal that already belongs to the document answers the call
(`resolveExistingJournal`), whatever its status is as long as it is neither void nor reversed;
otherwise a journal is prepared, created, approved and posted, and what follows from it (tax
rows, the recognition of deferred tax) is recorded.

The journal of a payment is built here. That of an invoice comes from its lines, their taxes, the
withheld amounts and the stock they move; it is a parameter (`PostingContext`), as are the writes
to the tax tables, which may raise. A reference that is found is written to the document by the
service when the call succeeds, as it always does then.
-/

namespace DotmacErp.Receivables

open Calendar Relational Session

/-- What posting asks of other modules: the numbers of journals, the journal of an invoice, the
deferred tax of allocations, and the tax rows, each of which may raise. -/
structure PostingContext where
  env : Env
  invoiceJournal : ReceivablesStore Db → (invoiceId : UUID) → (postingDate : Date) →
    (userId : UUID) → Except (String ⊕ ServiceError) JournalInput
  createTaxTransactions : ReceivablesStore Db → (invoiceId : UUID) → Option ServiceError
  buildCashVatReclassEntries : ReceivablesStore Db → List PaymentAllocation →
    List ((UUID × UUID) × ℚ)
  createPaymentTaxRecognitions : ReceivablesStore Db → (paymentId : UUID) → Option ServiceError
  createWhtTransaction : ReceivablesStore Db → (paymentId : UUID) → Option ServiceError

/-! ### Idempotency -/

structure SourceDocument where
  sourceDocumentType : String
  documentId : UUID
  journalEntryId : Option UUID

namespace PostingIdempotencyService

def IsActive (sourceDocumentType : String) (documentId : UUID) (journal : JournalEntry) : Prop :=
  journal.sourceModule = some "AR" ∧ journal.sourceDocumentType = some sourceDocumentType ∧
    journal.sourceDocumentId = some documentId ∧
    journal.status ∉ [JournalStatus.void, JournalStatus.reversed]

instance (sourceDocumentType : String) (documentId : UUID) (journal : JournalEntry) :
    Decidable (IsActive sourceDocumentType documentId journal) :=
  inferInstanceAs (Decidable (_ ∧ _ ∧ _ ∧ _))

def sourceJournalExists (db : Db) (sourceDocumentType : String) (documentId : UUID) : Bool :=
  (db.journals.find? fun j => decide (IsActive sourceDocumentType documentId j)).isSome

def Answers (document : SourceDocument) (journal : JournalEntry) : Prop :=
  IsActive document.sourceDocumentType document.documentId journal ∧
    journal.journalType ≠ .reversal

instance (document : SourceDocument) (journal : JournalEntry) :
    Decidable (Answers document journal) :=
  inferInstanceAs (Decidable (_ ∧ _))

def resolveExistingJournal (db : Db) (document : SourceDocument) : Option UUID :=
  document.journalEntryId.or
    ((db.journals.find? fun j => decide (Answers document j)).map Stored.id)

end PostingIdempotencyService

open PostingIdempotencyService

/-! ### The course of a posting -/

def makeIdempotencyKey (org : UUID) (sourceModule : String) (documentId : UUID) :
    String :=
  org.str ++ ":" ++ sourceModule ++ ":" ++ documentId.str ++ ":post:v1"

inductive Preparation where
  | refused (message : String)
  | raised (error : ServiceError)
  | nothing (message : String)
  | journal (input : JournalInput)

def SourceDocument.stamp (document : SourceDocument) (input : JournalInput) : JournalInput :=
  { input with
    sourceModule := some "AR"
    sourceDocumentType := some document.sourceDocumentType
    sourceDocumentId := some document.documentId }

def raising : Option ServiceError → Tx PUnit
  | none => pure ⟨⟩
  | some e => throw e

structure PostingTexts where
  direct : String
  backfill : String
  success : String

def postDocument (env : Env) (org userId : UUID) (postingDate : Date)
    (document : SourceDocument) (keyModule : String) (texts : PostingTexts)
    (preparation : Preparation) (follow : Tx (Option ArPostingResult)) : Tx ArPostingResult := do
  let db ← get
  match resolveExistingJournal db document with
  | some journalEntryId =>
    pure {
      success := true
      journalEntryId := some journalEntryId
      message := if document.journalEntryId.isSome then texts.direct else texts.backfill }
  | none =>
    match preparation with
    | .refused message => pure { success := false, message }
    | .raised error => throw error
    | .nothing message => pure { success := true, message }
    | .journal input => do
      let (journal, result) ← BasePostingAdapter.createApproveAndPostJournal env org
        (document.stamp input) userId {
          postingDate
          idempotencyKey := makeIdempotencyKey org keyModule document.documentId
          sourceModule := "AR"
          correlationId := input.correlationId
          successMessage := texts.success }
      if result.success = false then
        pure { success := false, journalEntryId := journal, message := result.message }
      else do
        let failure ← follow
        pure (failure.getD {
          success := true
          journalEntryId := journal
          postingBatchId := result.postingBatchId
          message := result.message })

/-! ### Invoices -/

def arInvoiceSource : String := "INVOICE"

def postableInvoiceStatuses : List InvoiceStatus :=
  [.approved, .posted, .paid, .partiallyPaid, .overdue]

def Invoice.document (invoiceId : UUID) (invoice : Invoice) : SourceDocument :=
  ⟨arInvoiceSource, invoiceId, invoice.journalEntryId⟩

def prepareInvoice (c : PostingContext) (s : ReceivablesStore Db) (invoiceId userId : UUID)
    (postingDate : Date) (invoice : Invoice) : Preparation :=
  if invoice.status ∉ postableInvoiceStatuses then
    .refused ("Invoice must be APPROVED or already posted to create GL entries (current: " ++
      invoice.status.value ++ ")")
  else if invoice.totalAmount = 0 then .nothing "Zero amount invoice — no GL posting needed"
  else
    match c.invoiceJournal s invoiceId postingDate userId with
    | .error (.inl message) => .refused message
    | .error (.inr error) => .raised error
    | .ok input => .journal input

/-- `ARPostingAdapter.post_invoice`. -/
def postInvoiceToLedger (c : PostingContext) (s : ReceivablesStore Db)
    (org invoiceId : UUID) (postingDate : Date) (userId : UUID) :
    Tx ArPostingResult :=
  match s.invoices.get? invoiceId with
  | none => pure { success := false, message := "Invoice not found" }
  | some invoice =>
    if invoice.organizationId ≠ org then
      pure { success := false, message := "Invoice not found" }
    else
      postDocument c.env org userId postingDate (invoice.document invoiceId) "AR"
        { direct := "Invoice already posted to GL (idempotent)"
          backfill := "Invoice already posted to GL (backfilled reference)"
          success := "Invoice posted successfully" }
        (prepareInvoice c s invoiceId userId postingDate invoice)
        ((fun _ => none) <$> raising (c.createTaxTransactions s invoiceId))

/-! ### Payments -/

def CustomerPayment.gross (payment : CustomerPayment) : ℚ :=
  if payment.grossAmount = 0 then payment.amount + payment.whtAmount else payment.grossAmount

def CustomerPayment.rate (payment : CustomerPayment) : ℚ :=
  if payment.exchangeRate = 0 then 1 else payment.exchangeRate

def CustomerPayment.document (paymentId : UUID) (payment : CustomerPayment) : SourceDocument :=
  ⟨"CUSTOMER_PAYMENT", paymentId, payment.journalEntryId⟩

def resolveBankGlAccountId (db : Db) (org bankAccountId : UUID) : Option UUID :=
  let owned := fun accountId => (db.accounts.get? accountId).any fun a =>
    decide (a.organizationId = org)
  if owned bankAccountId then some bankAccountId
  else ((db.bankAccounts.get? bankAccountId).filter fun b =>
    decide (b.organizationId = org) && owned b.glAccountId).map BankAccount.glAccountId

def resolveWhtAccount (s : ReceivablesStore Db) (org : UUID)
    (payment : CustomerPayment) : Except String (Option UUID) :=
  if payment.whtAmount ≤ 0 then .ok none
  else
    match (payment.whtCodeId.bind s.taxCodes.get?).filter fun code =>
        decide (code.organizationId = org ∧ code.taxType = .withholding) with
    | some { taxPaidAccountId := some accountId, .. } =>
      if (PeriodGuardService.getPeriodForDate s.ledger org
          payment.paymentDate).isNone then
        .error ("WHT payment requires an open ERP fiscal period for " ++ payment.paymentDate.iso)
      else .ok (some accountId)
    | _ => .error "WHT payment requires an ERP WHT code with a receivable account"

def debitLine (accountId : UUID) (amount rate : ℚ) (description : String) : JournalLineInput where
  accountId := accountId
  debitAmount := amount
  creditAmount := 0
  debitAmountFunctional := some (amount * rate)
  creditAmountFunctional := some 0
  description := some description

def creditLine (accountId : UUID) (amount rate : ℚ) (description : String) :
    JournalLineInput where
  accountId := accountId
  debitAmount := 0
  creditAmount := amount
  debitAmountFunctional := some 0
  creditAmountFunctional := some (amount * rate)
  description := some description

def paymentJournal (payment : CustomerPayment) (customer : Customer) (bankGlAccountId : UUID)
    (whtAccountId : Option UUID) (postingDate : Date) : JournalInput where
  journalType := .standard
  entryDate := payment.paymentDate
  postingDate := postingDate
  description := "AR Payment " ++ payment.paymentNumber ++ " - " ++ customer.legalName
  reference := payment.reference
  currencyCode := payment.currencyCode
  exchangeRate := payment.rate
  correlationId := some payment.correlationId
  lines :=
    debitLine bankGlAccountId payment.amount payment.rate
        ("AR Payment: " ++ payment.reference.getD "None") ::
      (whtAccountId.toList.map fun accountId =>
        debitLine accountId payment.whtAmount payment.rate
          ("WHT deducted by " ++ customer.legalName ++ " (Cert: " ++
            payment.whtCertificateNumber.getD "N/A" ++ ")")) ++
      [creditLine customer.arControlAccountId payment.gross payment.rate
        ("Payment from " ++ customer.legalName)]

def preparePayment (s : ReceivablesStore Db) (org : UUID) (postingDate : Date)
    (payment : CustomerPayment) : Preparation :=
  if payment.status ∉ [PaymentStatus.approved, PaymentStatus.cleared] then
    .refused ("Payment must be APPROVED or CLEARED to post (current: " ++
      payment.status.value ++ ")")
  else if 1 / 100 < |payment.amount + payment.whtAmount - payment.gross| then
    .refused "Payment net amount + WHT does not equal its gross amount"
  else if payment.gross = 0 then .nothing "Zero amount payment — no GL posting needed"
  else
    match s.customers.get? payment.customerId, payment.bankAccountId with
    | none, _ => .refused "Customer not found"
    | some _, none => .refused "Payment has no bank account linked"
    | some customer, some bankAccountId =>
      match resolveBankGlAccountId s.ledger org bankAccountId,
          resolveWhtAccount s org payment with
      | none, _ => .refused "Payment bank account is not mapped to a valid GL account"
      | some _, .error message => .refused message
      | some bankGlAccountId, .ok whtAccountId =>
        .journal (paymentJournal payment customer bankGlAccountId whtAccountId postingDate)

def addUnder (key : UUID × UUID) (amount : ℚ) :
    List ((UUID × UUID) × ℚ) → List ((UUID × UUID) × ℚ)
  | [] => [(key, amount)]
  | (key', amount') :: rest =>
    if key' = key then (key', amount' + amount) :: rest
    else (key', amount') :: addUnder key amount rest

/-- `CUSTOMER_PAYMENT_VAT_RECLASS`. -/
def vatReclassSource : String := "CUSTOMER_PAYMENT_VAT_RECLASS"

def vatReclassJournal (payment : CustomerPayment) (customer : Customer) (postingDate : Date)
    (entries : List ((UUID × UUID) × ℚ)) : JournalInput where
  journalType := .standard
  entryDate := payment.paymentDate
  postingDate := postingDate
  description := "AR VAT reclass " ++ payment.paymentNumber ++ " - " ++ customer.legalName
  reference := some ((payment.reference.filter (· ≠ "")).getD payment.paymentNumber)
  currencyCode := payment.currencyCode
  exchangeRate := payment.rate
  correlationId := some payment.correlationId
  lines := (entries.foldl (fun grouped row => addUnder row.1 row.2 grouped) []).flatMap
    fun row => [
      debitLine row.1.1 row.2 payment.rate
        ("Deferred VAT recognized on receipt " ++ payment.paymentNumber),
      creditLine row.1.2 row.2 payment.rate
        ("VAT payable recognized on receipt " ++ payment.paymentNumber)]

/-- `post_vat_reclass_for_payment`: the report of a failure, if it fails. -/
def postVatReclassForPayment (c : PostingContext) (s : ReceivablesStore Db)
    (org paymentId : UUID) (payment : CustomerPayment) (customer : Customer)
    (postingDate : Date) (userId : UUID) : Tx (Option ArPostingResult) := do
  let entries := c.buildCashVatReclassEntries s (s.allocationsOf paymentId)
  let db ← get
  if entries = [] ∨ sourceJournalExists db vatReclassSource paymentId = true then pure none
  else do
    let document : SourceDocument := ⟨vatReclassSource, paymentId, none⟩
    let (journal, result) ← BasePostingAdapter.createApproveAndPostJournal c.env org
      (document.stamp (vatReclassJournal payment customer postingDate entries)) userId {
        postingDate
        idempotencyKey := makeIdempotencyKey org "AR:PAY:VAT" paymentId
        sourceModule := "AR"
        correlationId := some payment.correlationId
        successMessage := "VAT reclass posted successfully"
        creationErrorPrefix := "VAT reclass journal creation failed" }
    if result.success = false then
      pure (some { success := false, journalEntryId := journal, message := result.message })
    else do
      raising (c.createPaymentTaxRecognitions s paymentId)
      pure none

def followPayment (c : PostingContext) (s : ReceivablesStore Db)
    (org paymentId : UUID) (payment : CustomerPayment) (postingDate : Date)
    (userId : UUID) : Tx (Option ArPostingResult) :=
  match s.customers.get? payment.customerId with
  | none => pure none
  | some customer => do
    let failure ← postVatReclassForPayment c s org paymentId payment customer
      postingDate userId
    if failure.isSome ∨ payment.whtAmount ≤ 0 then pure failure
    else do
      raising (c.createWhtTransaction s paymentId)
      pure none

/-- `ARPostingAdapter.post_payment`. -/
def postPaymentToLedger (c : PostingContext) (s : ReceivablesStore Db)
    (org paymentId : UUID) (postingDate : Date) (userId : UUID) :
    Tx ArPostingResult :=
  match s.payments.get? paymentId with
  | none => pure { success := false, message := "Payment not found" }
  | some payment =>
    if payment.organizationId ≠ org then
      pure { success := false, message := "Payment not found" }
    else
      postDocument c.env org userId postingDate (payment.document paymentId) "AR:PAY"
        { direct := "Payment already posted"
          backfill := "Payment journal link repaired"
          success := "Payment posted successfully" }
        (preparePayment s org postingDate payment)
        (followPayment c s org paymentId payment postingDate userId)

/-! ### The services -/

def ofServiceError : ServiceError → ReceivableError
  | .http _ detail => .posting detail
  | .integrity constraint => .integrity constraint

def answerOf {α : Type} (x : Tx α) (db : Db) : Except ReceivableError α × Db :=
  match x db with
  | .ok a db' => (.ok a, db')
  | .error e db' => (.error (ofServiceError e), db')

def PostingContext.services (c : PostingContext) (v : PostingServices Db) : PostingServices Db :=
  { v with
    postPayment := fun org paymentId postingDate userId s =>
      answerOf (postPaymentToLedger c s org paymentId postingDate userId) s.ledger }

def markPosted (result : ArPostingResult) (invoice : Invoice) : Invoice :=
  { invoice with
    status := .posted
    journalEntryId := result.journalEntryId
    postingBatchId := result.postingBatchId }

/-- Errors after which what was written may be committed: all but refusals of the database. -/
def ReceivableError.Recoverable : ReceivableError → Prop
  | .integrity _ => False
  | _ => True

instance : DecidablePred ReceivableError.Recoverable
  | .integrity _ => inferInstanceAs (Decidable False)
  | .notFound _ | .validation _ | .value _ | .posting _ => inferInstanceAs (Decidable True)

/-- The advances of a customer are applied to an invoice that was posted. What that raises is
swallowed, but for a refusal of the database, after which nothing can be written. -/
def applyAdvances (invoiceId : UUID) (today : Date) : ReceivablesSession Db PUnit :=
  swallowing ReceivableError.Recoverable
    ((fun _ => ⟨⟩) <$> AdvanceAllocationService.applyToInvoice invoiceId today)

/-- `ARInvoiceService.post_invoice`. -/
def ARInvoiceService.postInvoice (c : PostingContext) (org invoiceId userId : UUID)
    (postingDate : Option Date) (today : Date) : ReceivablesSession Db PUnit := do
  let s ← get
  let invoice ← orRaise (s.invoices.get? invoiceId) (.notFound "Invoice not found")
  refuse (invoice.organizationId ≠ org) (.notFound "Invoice not found")
  refuse (invoice.status ≠ .approved)
    (.validation ("Cannot post invoice with status '" ++ invoice.status.value ++ "'"))
  let answer := answerOf (postInvoiceToLedger c s org invoiceId
    (postingDate.getD invoice.invoiceDate) userId) s.ledger
  set { s with ledger := answer.2 }
  let result ← ofExcept answer.1
  refuse (result.success = false) (.validation result.message)
  modify fun s => { s with invoices := s.invoices.modify invoiceId (markPosted result) }
  applyAdvances invoiceId today

end DotmacErp.Receivables
