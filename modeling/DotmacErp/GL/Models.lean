import Mathlib.Data.Rat.Defs
import DotmacErp.Foundation.Calendar
import DotmacErp.Foundation.Table

/-!
# The general ledger's records

The rows of the `gl` schema and the inputs of the services that write them, under the column
names of the source. A surrogate key is a natural number (`UUID`), an exact `Decimal` a
rational; the scale a column stores is applied where a service writes the column, not here.

A journal entry carries its lines in line-number order, as the source's `lines` relationship
does (deleting the entry deletes them). The four posting dimensions travel together in every
record that has them, so they are one structure, `Dimensions`.
-/

namespace DotmacErp

open Calendar

/-- A surrogate key. -/
abbrev UUID := ℕ

/-- One hexadecimal digit per factor of sixteen, the most significant first. -/
private def hexDigits : ℕ → ℕ → List Char
  | 0, _ => []
  | width + 1, n => hexDigits width (n / 16) ++ [Nat.digitChar (n % 16)]

/-- The 36 characters of a key's canonical text. -/
def UUID.str (n : UUID) : String :=
  let digits := hexDigits 32 n
  String.ofList <| digits.take 8 ++ '-' :: (digits.drop 8).take 4 ++
    '-' :: (digits.drop 12).take 4 ++ '-' :: (digits.drop 16).take 4 ++ '-' :: digits.drop 20

/-! ### Enumerations -/

inductive JournalType
  | standard | adjustment | closing | opening | reversal | recurring | intercompany
  | revaluation | consolidation
  deriving DecidableEq

inductive JournalStatus
  | draft | submitted | approved | posted | reversed | void
  deriving DecidableEq

def JournalStatus.value : JournalStatus → String
  | draft => "DRAFT"
  | submitted => "SUBMITTED"
  | approved => "APPROVED"
  | posted => "POSTED"
  | reversed => "REVERSED"
  | void => "VOID"

inductive BatchStatus
  | pending | processing | posted | failed | partiallyPosted
  deriving DecidableEq

def BatchStatus.value : BatchStatus → String
  | pending => "PENDING"
  | processing => "PROCESSING"
  | posted => "POSTED"
  | failed => "FAILED"
  | partiallyPosted => "PARTIALLY_POSTED"

inductive PeriodStatus
  | future | open | softClosed | hardClosed | reopened
  deriving DecidableEq

def PeriodStatus.value : PeriodStatus → String
  | future => "FUTURE"
  | .open => "OPEN"
  | softClosed => "SOFT_CLOSED"
  | hardClosed => "HARD_CLOSED"
  | reopened => "REOPENED"

/-! ### Accounts and the calendar of periods -/

/-- `gl.account`, the columns that posting reads. -/
structure Account where
  organizationId : UUID
  accountCode : String
  accountName : String
  isPostingAllowed : Bool

/-- `gl.fiscal_year`, the columns that period creation reads and writes. -/
structure FiscalYear where
  organizationId : UUID
  yearCode : String
  yearName : String
  startDate : Date
  endDate : Date
  isAdjustmentYear : Bool
  retainedEarningsAccountId : Option UUID

/-- `gl.fiscal_period`. -/
structure FiscalPeriod where
  organizationId : UUID
  fiscalYearId : UUID
  periodNumber : ℤ
  periodName : String
  startDate : Date
  endDate : Date
  isAdjustmentPeriod : Bool
  isClosingPeriod : Bool
  status : PeriodStatus
  softClosedByUserId : Option UUID
  hardClosedByUserId : Option UUID
  reopenCount : ℕ
  lastReopenSessionId : Option UUID

/-- The date is one of the period. -/
def FiscalPeriod.Covers (p : FiscalPeriod) (d : Date) : Prop := p.startDate ≤ d ∧ d ≤ p.endDate

instance (p : FiscalPeriod) (d : Date) : Decidable (p.Covers d) :=
  inferInstanceAs (Decidable (_ ∧ _))

/-! ### Journals -/

structure Dimensions where
  businessUnitId : Option UUID
  costCenterId : Option UUID
  projectId : Option UUID
  segmentId : Option UUID
  deriving DecidableEq

def Dimensions.none : Dimensions := ⟨Option.none, Option.none, Option.none, Option.none⟩

/-- `gl.journal_entry_line`. -/
structure JournalEntryLine where
  lineId : UUID
  lineNumber : ℕ
  accountId : UUID
  description : Option String
  debitAmount : ℚ
  creditAmount : ℚ
  debitAmountFunctional : ℚ
  creditAmountFunctional : ℚ
  currencyCode : Option String
  exchangeRate : Option ℚ
  dimensions : Dimensions

/-- `gl.journal_entry` with its lines. -/
structure JournalEntry where
  organizationId : UUID
  journalNumber : String
  journalType : JournalType
  entryDate : Date
  postingDate : Date
  fiscalPeriodId : UUID
  description : String
  reference : Option String
  currencyCode : String
  exchangeRate : ℚ
  exchangeRateTypeId : Option UUID
  totalDebit : ℚ
  totalCredit : ℚ
  totalDebitFunctional : ℚ
  totalCreditFunctional : ℚ
  status : JournalStatus
  postingBatchId : Option UUID
  isReversal : Bool
  reversedJournalId : Option UUID
  reversalJournalId : Option UUID
  autoReverseDate : Option Date
  sourceModule : Option String
  sourceDocumentType : Option String
  sourceDocumentId : Option UUID
  createdByUserId : UUID
  submittedByUserId : Option UUID
  approvedByUserId : Option UUID
  postedByUserId : Option UUID
  correlationId : Option String
  lines : List JournalEntryLine

/-- `JournalLineInput`, with the defaults of the source. -/
structure JournalLineInput where
  accountId : UUID
  debitAmount : ℚ := 0
  creditAmount : ℚ := 0
  description : Option String := none
  debitAmountFunctional : Option ℚ := none
  creditAmountFunctional : Option ℚ := none
  currencyCode : Option String := none
  exchangeRate : Option ℚ := none
  dimensions : Dimensions := .none

/-- `JournalInput`. The currency's default is the configured functional currency. -/
structure JournalInput where
  journalType : JournalType
  entryDate : Date
  postingDate : Date
  description : String
  lines : List JournalLineInput := []
  reference : Option String := none
  currencyCode : String
  exchangeRate : ℚ := 1
  exchangeRateTypeId : Option UUID := none
  sourceModule : Option String := none
  sourceDocumentType : Option String := none
  sourceDocumentId : Option UUID := none
  autoReverseDate : Option Date := none
  correlationId : Option String := none

/-! ### Postings -/

/-- `gl.posting_batch`. -/
structure PostingBatch where
  organizationId : UUID
  fiscalPeriodId : UUID
  idempotencyKey : String
  sourceModule : String
  batchDescription : Option String
  totalEntries : ℕ
  postedEntries : ℕ
  failedEntries : ℕ
  status : BatchStatus
  errorMessage : Option String
  submittedByUserId : UUID
  correlationId : Option String

/-- `gl.posted_ledger_line`. -/
structure PostedLedgerLine where
  postingYear : ℕ
  organizationId : UUID
  journalEntryId : UUID
  journalLineId : UUID
  postingBatchId : UUID
  fiscalPeriodId : UUID
  accountId : UUID
  accountCode : String
  entryDate : Date
  postingDate : Date
  description : Option String
  journalReference : Option String
  debitAmount : ℚ
  creditAmount : ℚ
  originalCurrencyCode : Option String
  originalDebitAmount : Option ℚ
  originalCreditAmount : Option ℚ
  exchangeRate : Option ℚ
  dimensions : Dimensions
  sourceModule : String
  sourceDocumentType : Option String
  sourceDocumentId : Option UUID
  postedByUserId : UUID
  correlationId : Option String

/-- `PostingEntry`, one entry of a posting request. -/
structure PostingEntry where
  accountId : UUID
  journalLineId : Option UUID
  debitAmount : ℚ
  creditAmount : ℚ
  description : Option String
  debitAmountFunctional : ℚ
  creditAmountFunctional : ℚ
  originalCurrencyCode : Option String
  originalDebitAmount : Option ℚ
  originalCreditAmount : Option ℚ
  exchangeRate : Option ℚ
  dimensions : Dimensions

/-- `PostingRequest`, with the defaults of the source. -/
structure PostingRequest where
  organizationId : UUID
  journalEntryId : UUID
  postingDate : Date
  idempotencyKey : String
  sourceModule : String
  entries : List PostingEntry := []
  correlationId : Option String := none
  postedByUserId : Option UUID := none
  allowAdjustmentPeriod : Bool := false
  reopenSessionId : Option UUID := none

/-- `PostingResult` of the ledger posting service. -/
structure PostingResult where
  success : Bool
  batchId : Option UUID := none
  postedLines : ℕ := 0
  totalDebit : ℚ := 0
  totalCredit : ℚ := 0
  message : String := ""
  correlationId : Option String := none
  idempotentReplay : Bool := false

/-! ### Balances and events -/

inductive BalanceType
  | actual | budget | encumbrance | forecast
  deriving DecidableEq

/-- `gl.account_balance`, the columns that the refresh reads and writes. -/
structure AccountBalance where
  organizationId : UUID
  accountId : UUID
  fiscalPeriodId : UUID
  balanceType : BalanceType
  currencyCode : String
  dimensions : Dimensions
  openingDebit : ℚ
  openingCredit : ℚ
  periodDebit : ℚ
  periodCredit : ℚ
  closingDebit : ℚ
  closingCredit : ℚ
  netBalance : ℚ
  transactionCount : ℕ
  isStale : Bool
  refreshCount : ℕ

/-- `gl.balance_refresh_queue`. A time is only ever compared with null. -/
structure BalanceRefreshQueue where
  organizationId : UUID
  accountId : UUID
  fiscalPeriodId : UUID
  processed : Bool

/-- `EventStatus` of the outbox. -/
inductive EventStatus
  | pending | published | failed | dead
  deriving DecidableEq

/-- A `ledger.posting.completed` event of `platform.event_outbox`. -/
structure EventOutbox where
  organizationId : UUID
  batchId : UUID
  journalEntryId : UUID
  fiscalPeriodId : UUID
  lineCount : ℕ
  totalDebit : ℚ
  totalCredit : ℚ
  correlationId : Option String
  idempotencyKey : String
  status : EventStatus

end DotmacErp
