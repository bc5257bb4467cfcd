import DotmacErp.GL.Database

/-!
# The records of banking

Bank accounts, the statements that are imported for them with their lines, the matches of these
lines to lines of journals, and reconciliations with their own lines.

A match and a line of a reconciliation have no key that anything refers to; they are kept in lists.
Of a journal line there is what banking reads, with its entry's organization, date and status, and
the counterparty its source document resolves to. What nobody reads here (times, users, notes,
sources of matches, categories) is left out.
-/

namespace DotmacErp.Banking

open Calendar Relational Rounding

/-! ### Enumerations -/

/-- `StatementLineType`: money in or out. -/
inductive StatementLineType where
  | credit
  | debit
  deriving DecidableEq

inductive ReconciliationStatus where
  | draft
  | pendingReview
  | approved
  | rejected
  deriving DecidableEq

inductive ReconciliationMatchType where
  | autoExact
  | autoFuzzy
  | manual
  | split
  | adjustment

inductive MatchState where
  | suggested
  | confirmed
  deriving DecidableEq

inductive Counterparty where
  | customer (customerId : UUID)
  | supplier (supplierId : UUID)
  deriving DecidableEq

/-! ### Rows -/

/-- What a `NUMERIC(19, 4)` column stores. -/
def moneyColumn (q : ℚ) : ℚ := halfUp 4 q

structure BankAccount where
  organizationId : UUID
  glAccountId : UUID
  currencyCode : String
  lastStatementDate : Option Date := none
  lastStatementBalance : Option ℚ := none
  lastReconciledDate : Option Date := none
  lastReconciledBalance : Option ℚ := none

structure BankStatement where
  organizationId : UUID
  bankAccountId : UUID
  statementNumber : String
  statementDate : Option Date
  periodStart : Date
  periodEnd : Date
  openingBalance : Option ℚ
  closingBalance : Option ℚ
  totalCredits : ℚ
  totalDebits : ℚ
  currencyCode : String
  totalLines : ℤ
  matchedLines : ℤ := 0
  unmatchedLines : ℤ

structure BankStatementLine where
  statementId : UUID
  lineNumber : ℤ
  transactionId : Option String
  transactionDate : Date
  transactionType : StatementLineType
  amount : ℚ
  description : Option String
  reference : Option String
  bankReference : Option String
  isMatched : Bool := false

def BankStatementLine.signedAmount (line : BankStatementLine) : ℚ :=
  if line.transactionType = .credit then line.amount else -line.amount

structure BankStatementLineMatch where
  statementLineId : UUID
  journalLineId : UUID
  isPrimary : Bool := true
  matchState : MatchState := .confirmed
  matchGroupId : Option UUID := none
  deriving DecidableEq

/-- `JournalEntryLine`, with what is read of its entry. -/
structure JournalLine where
  organizationId : UUID
  accountId : UUID
  entryDate : Date
  isPosted : Bool
  debitAmount : ℚ
  creditAmount : ℚ
  counterparty : Option Counterparty := none

def JournalLine.glAmount (line : JournalLine) : ℚ := line.debitAmount - line.creditAmount

structure BankReconciliation where
  organizationId : UUID
  bankAccountId : UUID
  reconciliationDate : Date
  periodStart : Date
  periodEnd : Date
  statementOpeningBalance : ℚ
  statementClosingBalance : ℚ
  glOpeningBalance : ℚ
  glClosingBalance : ℚ
  totalMatched : ℚ := 0
  totalAdjustments : ℚ := 0
  reconciliationDifference : ℚ := 0
  priorOutstandingDeposits : ℚ := 0
  priorOutstandingPayments : ℚ := 0
  outstandingDeposits : ℚ := 0
  outstandingPayments : ℚ := 0
  currencyCode : String
  status : ReconciliationStatus := .draft
  approvedBy : Option UUID := none
  reviewedBy : Option UUID := none
  reviewNotes : Option String := none

namespace BankReconciliation

/-- What the books close at, with the adjustments. -/
def adjustedBookBalance (r : BankReconciliation) : ℚ := r.glClosingBalance + r.totalAdjustments

/-- What the statement closes at, with the items it does not know yet. -/
def adjustedBankBalance (r : BankReconciliation) : ℚ :=
  r.statementClosingBalance + r.outstandingDeposits - r.outstandingPayments

def calculateDifference (r : BankReconciliation) : BankReconciliation :=
  { r with reconciliationDifference := r.statementClosingBalance - r.adjustedBookBalance }

def stored (r : BankReconciliation) : BankReconciliation :=
  { r with
    statementOpeningBalance := moneyColumn r.statementOpeningBalance
    statementClosingBalance := moneyColumn r.statementClosingBalance
    glOpeningBalance := moneyColumn r.glOpeningBalance
    glClosingBalance := moneyColumn r.glClosingBalance
    totalMatched := moneyColumn r.totalMatched
    totalAdjustments := moneyColumn r.totalAdjustments
    reconciliationDifference := moneyColumn r.reconciliationDifference
    priorOutstandingDeposits := moneyColumn r.priorOutstandingDeposits
    priorOutstandingPayments := moneyColumn r.priorOutstandingPayments
    outstandingDeposits := moneyColumn r.outstandingDeposits
    outstandingPayments := moneyColumn r.outstandingPayments }

end BankReconciliation

structure BankReconciliationLine where
  reconciliationId : UUID
  matchType : ReconciliationMatchType
  statementLineId : Option UUID := none
  journalLineId : Option UUID := none
  transactionDate : Date
  description : Option String := none
  reference : Option String := none
  statementAmount : Option ℚ := none
  glAmount : Option ℚ := none
  difference : Option ℚ := none
  isAdjustment : Bool := false
  adjustmentType : Option String := none
  adjustmentAccountId : Option UUID := none
  isOutstanding : Bool := false
  outstandingType : Option String := none
  isCleared : Bool := false

def BankReconciliationLine.stored (line : BankReconciliationLine) : BankReconciliationLine :=
  { line with
    statementAmount := line.statementAmount.map moneyColumn
    glAmount := line.glAmount.map moneyColumn
    difference := line.difference.map moneyColumn }

/-- What a call may raise. -/
inductive BankingError where
  | http (statusCode : ℕ) (detail : String)
  | value (message : String)
  | integrity (constraint : String)

/-- The tables of banking and the rows of the ledger it matches. -/
structure BankingStore where
  accounts : Table BankAccount
  statements : Table BankStatement
  statementLines : Table BankStatementLine
  lineMatches : List BankStatementLineMatch
  journalLines : Table JournalLine
  reconciliations : Table BankReconciliation
  reconciliationLines : List BankReconciliationLine
  nextGroup : UUID := 0

abbrev BankingSession (α : Type) := Session BankingError BankingStore α

/-! ### Texts of amounts -/

def groupDigits : List Char → List Char
  | [] => []
  | c :: cs =>
    if cs ≠ [] ∧ cs.length % 3 = 0 then c :: ',' :: groupDigits cs else c :: groupDigits cs

def moneyText (q : ℚ) : String :=
  let units := halfEven (q * 100)
  let cents := toString (units.natAbs % 100)
  (if q < 0 then "-" else "") ++
    String.ofList (groupDigits (toString (units.natAbs / 100)).toList) ++ "." ++
    String.ofList (List.replicate (2 - cents.length) '0') ++ cents

end DotmacErp.Banking
