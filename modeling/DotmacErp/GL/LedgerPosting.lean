import DotmacErp.GL.BalanceInvalidation
import DotmacErp.GL.FiscalPeriod

/-!
# Ledger posting

`LedgerPostingService.post_journal_entry`, the only writer of `posted_ledger_line`, cut at the
steps its source numbers: the idempotency key (`claimKey`), the journal and its status
(`loadPostable`), the period gate, the validations, the batch row (`openBatch`), and the
writes (`writePosting`).

A posted batch whose posting was undone by a reversal no longer answers for its key: the key
is taken over by a new batch and the old row's key is retired. `LiveKey` is the negation of
that, a key whose next use is a replay.

Two inversion lemmas carry everything later modules need: a posting either replays a live key
and leaves the database alone, or it has written (`postJournalEntry_eq_ok`), and what it has
written is `Written`.
-/

namespace DotmacErp

open Relational Session Rounding

/-- `sum_at_persisted_scale`: quantise each amount to the stored scale, then add. -/
def sumAtPersistedScale (amounts : List ℚ) : ℚ := (amounts.map amountColumn).sum

def unbalancedDetail (totalDebit totalCredit : ℚ) : String :=
  "Journal is unbalanced: debits=" ++ fixedText 6 totalDebit ++ ", credits=" ++
    fixedText 6 totalCredit ++ ", difference=" ++ fixedText 6 (totalDebit - totalCredit)

def truthy (text : Option String) : Option String := text.filter (· ≠ "")

namespace LedgerPostingService

/-! ### The idempotency key -/

def findBatch (db : Db) (org : UUID) (idempotencyKey : String) :
    Option (Stored PostingBatch) :=
  db.batches.find? fun b => b.organizationId = org ∧ b.idempotencyKey = idempotencyKey

def HasJournal (db : Db) (org batchId : UUID) (status : JournalStatus) : Bool :=
  (db.journals.find? fun j => j.organizationId = org ∧
    j.postingBatchId = some batchId ∧ j.status = status).isSome

/-- `_batch_posting_reversed`: a journal is reversed under the batch and none is posted. -/
def batchPostingReversed (db : Db) (org batchId : UUID) : Bool :=
  ! HasJournal db org batchId .posted && HasJournal db org batchId .reversed

/-- A posted batch that is not reversed has the key. -/
def LiveKey (db : Db) (org : UUID) (idempotencyKey : String) : Prop :=
  ∃ batch, findBatch db org idempotencyKey = some batch ∧
    batch.row.status = .posted ∧ batchPostingReversed db org batch.id = false

instance (db : Db) (org : UUID) (idempotencyKey : String) :
    Decidable (LiveKey db org idempotencyKey) :=
  decidable_of_iff ((findBatch db org idempotencyKey).any fun batch =>
      batch.row.status = .posted ∧ batchPostingReversed db org batch.id = false) (by
    rw [Option.any_eq_true, LiveKey]
    simp)

/-- How a posting that is no replay comes by its batch row: a new row, the failed row under
the same key, or a new row after the key of a reversed batch is retired. -/
inductive Claim
  | fresh
  | retry (batchId : UUID)
  | superseded (batch : Stored PostingBatch)

def claimKey (request : PostingRequest) : Tx (Stored PostingBatch ⊕ Claim) := do
  let db ← get
  match findBatch db request.organizationId request.idempotencyKey with
  | none => pure (.inr .fresh)
  | some existing =>
    match existing.row.status with
    | .posted =>
      if batchPostingReversed db request.organizationId existing.id then
        pure (.inr (.superseded existing))
      else
        pure (.inl existing)
    | .failed => do
      refuse (0 < existing.row.postedEntries)
        (.http 409 "Cannot retry a failed batch that has posted entries")
      modifyBatch existing.id fun batch =>
        { batch with
          status := .processing
          errorMessage := none
          failedEntries := 0
          totalEntries := 0
          postedEntries := 0
          submittedByUserId := request.postedByUserId.getD batch.submittedByUserId }
      pure (.inr (.retry existing.id))
    | status =>
      throw (.http 409 ("Batch with idempotency key in status '" ++ status.value ++ "'"))

/-- The key of a retired batch: the old key, cut to make room for a suffix that carries the
batch's own identity. -/
def retiredKey (idempotencyKey : String) (batchId : UUID) : String :=
  let suffix := ":superseded:" ++ batchId.str
  String.ofList (idempotencyKey.toList.take (200 - suffix.length)) ++ suffix

/-- `_retire_superseded_batch_key`, under the unique constraint of the key. -/
def retireSupersededBatchKey (batch : Stored PostingBatch) : Tx PUnit := do
  let db ← get
  let key := retiredKey batch.row.idempotencyKey batch.id
  refuse ((db.batches.erase batch.id).find? fun b =>
      b.organizationId = batch.row.organizationId ∧ b.idempotencyKey = key).isSome
    (.integrity "uq_batch_org_idempotency")
  modifyBatch batch.id fun b => { b with idempotencyKey := key }

def insertBatch (batch : PostingBatch) : Tx UUID := do
  let db ← get
  refuse (findBatch db batch.organizationId batch.idempotencyKey).isSome
    (.integrity "uq_batch_org_idempotency")
  refuse (200 < batch.idempotencyKey.length) (.integrity "posting_batch.idempotency_key")
  modify fun db => { db with batches := db.batches.insert batch }
  pure db.batches.next

/-! ### Validation -/

def loadPostable (request : PostingRequest) : Tx JournalEntry := do
  let journal ← loadJournal request.organizationId request.journalEntryId
  refuse (journal.status = .posted) (.http 400 "Journal already posted")
  refuse (journal.status ≠ .approved)
    (.http 400 ("Cannot post journal with status '" ++ journal.status.value ++ "'"))
  pure journal

def entryOfLine (line : JournalEntryLine) : PostingEntry where
  accountId := line.accountId
  journalLineId := some line.lineId
  debitAmount := line.debitAmount
  creditAmount := line.creditAmount
  description := line.description
  debitAmountFunctional := line.debitAmountFunctional
  creditAmountFunctional := line.creditAmountFunctional
  originalCurrencyCode := line.currencyCode
  originalDebitAmount := (truthy line.currencyCode).map fun _ => line.debitAmount
  originalCreditAmount := (truthy line.currencyCode).map fun _ => line.creditAmount
  exchangeRate := line.exchangeRate
  dimensions := line.dimensions

def loadJournalLines (journal : JournalEntry) : List PostingEntry := journal.lines.map entryOfLine

def requestEntries (request : PostingRequest) (journal : JournalEntry) : List PostingEntry :=
  if request.entries = [] then loadJournalLines journal else request.entries

def validateBalance (entries : List PostingEntry) : Tx PUnit :=
  let totalDebit := sumAtPersistedScale (entries.map PostingEntry.debitAmountFunctional)
  let totalCredit := sumAtPersistedScale (entries.map PostingEntry.creditAmountFunctional)
  refuse (totalDebit ≠ totalCredit) (.http 400 (unbalancedDetail totalDebit totalCredit))

/-- A refusal of `_validate_functional_amounts`, naming the line. -/
def lineError (i : ℕ) (detail : String) : ServiceError :=
  .http 400 ("Line " ++ toString (i + 1) ++ ": " ++ detail)

/-- `_validate_functional_amounts`, from line `i` on. -/
def validateFunctionalAmounts : ℕ → List PostingEntry → Tx PUnit
  | _, [] => pure ⟨⟩
  | i, entry :: rest => do
    refuse (entry.debitAmountFunctional < 0 ∨ entry.creditAmountFunctional < 0)
      (lineError i "functional currency amounts cannot be negative")
    refuse (entry.debitAmountFunctional = 0 ∧ entry.creditAmountFunctional = 0)
      (lineError i "functional currency amounts cannot both be zero")
    refuse (entry.debitAmountFunctional ≠ 0 ∧ entry.creditAmountFunctional ≠ 0)
      (lineError i "cannot have both debit and credit functional amounts")
    refuse (entry.debitAmount < 0 ∨ entry.creditAmount < 0)
      (lineError i "original currency amounts cannot be negative")
    refuse (entry.debitAmount ≠ 0 ∧ entry.creditAmount ≠ 0)
      (lineError i "cannot have both debit and credit original amounts")
    validateFunctionalAmounts (i + 1) rest

/-! ### Writing -/

def newBatch (request : PostingRequest) (journal : JournalEntry) (periodId : UUID)
    (totalEntries : ℕ) : PostingBatch where
  organizationId := request.organizationId
  fiscalPeriodId := periodId
  idempotencyKey := request.idempotencyKey
  sourceModule := request.sourceModule
  batchDescription := some ("Journal " ++ journal.journalNumber)
  totalEntries := totalEntries
  postedEntries := 0
  failedEntries := 0
  status := .processing
  errorMessage := none
  submittedByUserId := request.postedByUserId.getD journal.createdByUserId
  correlationId := request.correlationId

def openBatch (request : PostingRequest) (journal : JournalEntry) (periodId : UUID)
    (totalEntries : ℕ) : Claim → Tx UUID
  | .fresh => insertBatch (newBatch request journal periodId totalEntries)
  | .superseded batch => do
    retireSupersededBatchKey batch
    insertBatch (newBatch request journal periodId totalEntries)
  | .retry batchId => do
    modifyBatch batchId fun batch =>
      { batch with
        organizationId := request.organizationId
        fiscalPeriodId := periodId
        sourceModule := request.sourceModule
        batchDescription := some ("Journal " ++ journal.journalNumber)
        totalEntries := totalEntries
        correlationId := request.correlationId }
    pure batchId

/-- One row of `posted_ledger_line`, as its columns store it. -/
def ledgerLine (db : Db) (request : PostingRequest) (journal : JournalEntry)
    (batchId periodId journalLineId : UUID) (entry : PostingEntry) : PostedLedgerLine where
  postingYear := request.postingDate.year
  organizationId := request.organizationId
  journalEntryId := request.journalEntryId
  journalLineId := journalLineId
  postingBatchId := batchId
  fiscalPeriodId := periodId
  accountId := entry.accountId
  accountCode := ((db.accounts.get? entry.accountId).map Account.accountCode).getD ""
  entryDate := journal.entryDate
  postingDate := request.postingDate
  description := entry.description
  journalReference := journal.reference
  debitAmount := amountColumn entry.debitAmountFunctional
  creditAmount := amountColumn entry.creditAmountFunctional
  originalCurrencyCode := entry.originalCurrencyCode
  originalDebitAmount := entry.originalDebitAmount.map amountColumn
  originalCreditAmount := entry.originalCreditAmount.map amountColumn
  exchangeRate := entry.exchangeRate.map rateColumn
  dimensions := entry.dimensions
  sourceModule := request.sourceModule
  sourceDocumentType := journal.sourceDocumentType
  sourceDocumentId := journal.sourceDocumentId
  postedByUserId := request.postedByUserId.getD journal.createdByUserId
  correlationId := request.correlationId

def ledgerLines (db : Db) (request : PostingRequest) (journal : JournalEntry)
    (batchId periodId : UUID) (entries : List PostingEntry) : List PostedLedgerLine :=
  entries.mapIdx fun i entry =>
    ledgerLine db request journal batchId periodId
      (entry.journalLineId.getD (db.nextLineId + i)) entry

/-- The constraints a flush of ledger rows of one journal is subject to: exactly one positive
side, and each journal line once (`uq_pll_journal_line_once`). -/
def AcceptsRows (db : Db) (rows : List PostedLedgerLine) : Prop :=
  (∀ row ∈ rows, ExactlyOne row.debitAmount row.creditAmount) ∧
    (rows.map PostedLedgerLine.journalLineId).Nodup ∧
    ∀ row ∈ rows, ∀ old ∈ db.ledger,
      ¬ (old.journalEntryId = row.journalEntryId ∧ old.journalLineId = row.journalLineId)

instance (db : Db) (rows : List PostedLedgerLine) : Decidable (AcceptsRows db rows) :=
  inferInstanceAs (Decidable (_ ∧ _ ∧ _))

def postingEvent (request : PostingRequest) (batchId periodId : UUID)
    (entries : List PostingEntry) : EventOutbox where
  organizationId := request.organizationId
  batchId := batchId
  journalEntryId := request.journalEntryId
  fiscalPeriodId := periodId
  lineCount := entries.length
  totalDebit := (entries.map PostingEntry.debitAmountFunctional).sum
  totalCredit := (entries.map PostingEntry.creditAmountFunctional).sum
  correlationId := truthy request.correlationId
  idempotencyKey := "posting:" ++ batchId.str
  status := .pending

/-- `OutboxPublisher.publish_event` of a posting, under the unique constraint of the event's
key. -/
def publishPostingEvent (event : EventOutbox) : Tx PUnit := do
  let db ← get
  refuse (db.outbox.find? fun e => e.idempotencyKey = event.idempotencyKey).isSome
    (.integrity "uq_outbox_idempotency")
  modify fun db => { db with outbox := db.outbox.insert event }

def markPosted (request : PostingRequest) (batchId : UUID) (journal : JournalEntry) :
    JournalEntry :=
  { journal with
    status := .posted
    postingBatchId := some batchId
    postedByUserId := some (request.postedByUserId.getD journal.createdByUserId) }

def writePosting (request : PostingRequest) (journal : JournalEntry)
    (batchId periodId : UUID) (entries : List PostingEntry) : Tx PostingResult := do
  let db ← get
  let rows := ledgerLines db request journal batchId periodId entries
  refuse (¬ AcceptsRows db rows) (.integrity "gl.posted_ledger_line")
  modify fun db =>
    { db with ledger := db.ledger ++ rows, nextLineId := db.nextLineId + entries.length }
  modify (BalanceInvalidationService.invalidateBatch
    (rows.map fun row => (request.organizationId, row.accountId, row.fiscalPeriodId)))
  modifyBatch batchId fun batch =>
    { batch with postedEntries := rows.length, status := .posted }
  modifyJournal request.journalEntryId (markPosted request batchId)
  publishPostingEvent (postingEvent request batchId periodId entries)
  pure
    { success := true
      batchId := some batchId
      postedLines := rows.length
      totalDebit := (entries.map PostingEntry.debitAmountFunctional).sum
      totalCredit := (entries.map PostingEntry.creditAmountFunctional).sum
      message := "Journal posted successfully"
      correlationId := request.correlationId }

def replayResult (batch : Stored PostingBatch) : PostingResult where
  success := true
  batchId := some batch.id
  postedLines := batch.row.postedEntries
  message := "Already posted (idempotent replay)"
  correlationId := batch.row.correlationId
  idempotentReplay := true

def postUnderClaim (request : PostingRequest) (claim : Claim) : Tx PostingResult := do
  let journal ← loadPostable request
  let periodId ← PeriodGuardService.requireOpenPeriod request.organizationId
    request.postingDate request.allowAdjustmentPeriod request.reopenSessionId
  let entries := requestEntries request journal
  validateBalance entries
  validateFunctionalAmounts 0 entries
  let batchId ← openBatch request journal periodId entries.length claim
  writePosting request journal batchId periodId entries

def postJournalEntry (request : PostingRequest) : Tx PostingResult := do
  refuse (request.idempotencyKey = "")
    (.http 400 "Idempotency key is required for ledger posting")
  let claim ← claimKey request
  match claim with
  | .inl batch => pure (replayResult batch)
  | .inr claim => postUnderClaim request claim

end LedgerPostingService

end DotmacErp
