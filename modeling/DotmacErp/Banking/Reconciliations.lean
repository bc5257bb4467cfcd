import DotmacErp.Banking.Models
import Mathlib.Data.List.Dedup

/-!
# Reconciliations

`BankReconciliationService`: a reconciliation is created with the matches of its period, gets
adjustments and outstanding items, is submitted for review, and approved or rejected.

The balance of the ledger is that of the posted lines of the account: before the period for the
opening, and up to its end for the closing. Amounts are exact within a call, and stored at its end.
-/

namespace DotmacErp.Banking

open Calendar Relational Session Rounding

namespace BankReconciliationService

structure ReconciliationInput where
  reconciliationDate : Date
  periodStart : Date
  periodEnd : Date
  statementOpeningBalance : ℚ
  statementClosingBalance : ℚ

def reconciliationOf (s : BankingStore) (org reconciliationId : UUID) :
    Option BankReconciliation :=
  (s.reconciliations.get? reconciliationId).filter fun reconciliation =>
    decide (reconciliation.organizationId = org)

/-- The error of a reconciliation that is not there: `_get_for_org`. -/
def notFound (reconciliationId : UUID) : BankingError :=
  .http 404 ("Reconciliation " ++ reconciliationId.str ++ " not found")

def recalculated (f : BankReconciliation → BankReconciliation) (r : BankReconciliation) :
    BankReconciliation := ((f r).calculateDifference).stored

/-! ### Creation -/

/-- `_get_gl_balance`. -/
def glBalance (s : BankingStore) (org accountId : UUID) (asOfDate : Date) : ℚ :=
  ((s.journalLines.select fun line =>
    decide (line.accountId = accountId ∧ line.isPosted = true ∧ line.entryDate ≤ asOfDate ∧
      line.organizationId = org)).map fun r => r.row.glAmount).sum

def later (latest : Option BankReconciliation) (r : Stored BankReconciliation) :
    Option BankReconciliation :=
  match latest with
  | none => some r.row
  | some best => if best.reconciliationDate < r.row.reconciliationDate then some r.row else latest

/-- `_get_prior_reconciliation`. -/
def priorReconciliation (s : BankingStore) (org bankAccountId : UUID)
    (beforeDate : Date) : Option BankReconciliation :=
  (s.reconciliations.select fun r =>
    decide (r.organizationId = org ∧ r.bankAccountId = bankAccountId ∧
      r.status = .approved ∧ r.reconciliationDate < beforeDate)).foldl later none

def matchesOf (s : BankingStore) (statementLineId : UUID) :
    List (BankStatementLineMatch × JournalLine) :=
  s.lineMatches.filterMap fun m =>
    if m.statementLineId = statementLineId then
      (s.journalLines.get? m.journalLineId).map fun line => (m, line)
    else none

def standsFor (first : BankStatementLineMatch)
    (pairs : List (BankStatementLineMatch × JournalLine)) : UUID :=
  pairs.foldl (fun journalLineId pair =>
    if pair.1.isPrimary = true then pair.1.journalLineId else journalLineId) first.journalLineId

def importedLine (s : BankingStore) (reconciliationId : UUID) (r : Stored BankStatementLine) :
    Option BankReconciliationLine :=
  match matchesOf s r.id with
  | [] => none
  | first :: rest =>
    let glAmount := ((first :: rest).map fun pair => pair.2.glAmount).sum
    some {
      reconciliationId
      matchType := if rest = [] then .autoExact else .split
      statementLineId := some r.id
      journalLineId := some (standsFor first.1 (first :: rest))
      transactionDate := r.row.transactionDate
      description := r.row.description
      reference := r.row.reference
      statementAmount := some r.row.signedAmount
      glAmount := some glAmount
      difference := some (r.row.signedAmount - glAmount)
      isCleared := true }

/-- `_import_existing_matches`: the lines of a new reconciliation. -/
def importedLines (s : BankingStore) (reconciliationId org bankAccountId : UUID)
    (input : ReconciliationInput) : List BankReconciliationLine :=
  (s.statementLines.select fun line =>
    decide (input.periodStart ≤ line.transactionDate ∧
        line.transactionDate ≤ input.periodEnd) &&
      (s.statements.get? line.statementId).any fun statement =>
        decide (statement.organizationId = org ∧
          statement.bankAccountId = bankAccountId)).filterMap (importedLine s reconciliationId)

def absoluteTotal (lines : List BankReconciliationLine) : ℚ :=
  (lines.map fun line => |line.statementAmount.getD 0|).sum

def newReconciliation (s : BankingStore) (org bankAccountId : UUID)
    (account : BankAccount) (input : ReconciliationInput) (totalMatched : ℚ) :
    BankReconciliation where
  organizationId := org
  bankAccountId
  reconciliationDate := input.reconciliationDate
  periodStart := input.periodStart
  periodEnd := input.periodEnd
  statementOpeningBalance := input.statementOpeningBalance
  statementClosingBalance := input.statementClosingBalance
  glOpeningBalance := glBalance s org account.glAccountId input.periodStart.pred
  glClosingBalance := glBalance s org account.glAccountId input.periodEnd
  totalMatched
  priorOutstandingDeposits := ((priorReconciliation s org bankAccountId
    input.reconciliationDate).map BankReconciliation.outstandingDeposits).getD 0
  priorOutstandingPayments := ((priorReconciliation s org bankAccountId
    input.reconciliationDate).map BankReconciliation.outstandingPayments).getD 0
  currencyCode := account.currencyCode

def createReconciliation (org bankAccountId : UUID) (input : ReconciliationInput) :
    BankingSession UUID := do
  let s ← get
  let account ← orRaise (s.accounts.get? bankAccountId)
    (.http 404 ("Bank account " ++ bankAccountId.str ++ " not found"))
  refuse (account.organizationId ≠ org)
    (.http 403 "Bank account does not belong to this organization")
  refuse ((s.reconciliations.find? fun r => decide (r.organizationId = org ∧
      r.bankAccountId = bankAccountId ∧
      r.reconciliationDate = input.reconciliationDate)).isSome = true)
    (.http 400 ("Reconciliation already exists for " ++ input.reconciliationDate.iso))
  refuse ((s.reconciliations.find? fun r => decide (r.bankAccountId = bankAccountId ∧
      r.reconciliationDate = input.reconciliationDate)).isSome = true)
    (.integrity "uq_bank_reconciliation_date")
  let lines := importedLines s s.reconciliations.next org bankAccountId input
  let reconciliation := newReconciliation s org bankAccountId account input
    (absoluteTotal lines)
  set { s with
    reconciliations := s.reconciliations.insert (recalculated id reconciliation)
    reconciliationLines := s.reconciliationLines ++ lines.map BankReconciliationLine.stored }
  pure s.reconciliations.next

/-! ### Reconciling items -/

def withLine (reconciliationId : UUID) (line : BankReconciliationLine)
    (f : BankReconciliation → BankReconciliation) (s : BankingStore) : BankingStore :=
  { s with
    reconciliations := s.reconciliations.modify reconciliationId (recalculated f)
    reconciliationLines := s.reconciliationLines ++ [line.stored] }

def adjustmentLine (reconciliationId : UUID) (transactionDate : Date) (amount : ℚ)
    (description adjustmentType : String) (adjustmentAccountId : Option UUID) :
    BankReconciliationLine where
  reconciliationId
  matchType := .adjustment
  transactionDate
  description := some description
  statementAmount := some amount
  glAmount := some 0
  difference := some amount
  isAdjustment := true
  adjustmentType := some adjustmentType
  adjustmentAccountId

def adjust (amount : ℚ) (r : BankReconciliation) : BankReconciliation :=
  { r with totalAdjustments := r.totalAdjustments + amount }

def addAdjustment (org reconciliationId : UUID) (transactionDate : Date) (amount : ℚ)
    (description adjustmentType : String) (adjustmentAccountId : Option UUID) :
    BankingSession PUnit := do
  let s ← get
  let _ ← orRaise (reconciliationOf s org reconciliationId) (notFound reconciliationId)
  set (withLine reconciliationId (adjustmentLine reconciliationId transactionDate amount
    description adjustmentType adjustmentAccountId) (adjust amount) s)

def outstandingLine (reconciliationId : UUID) (transactionDate : Date) (amount : ℚ)
    (description outstandingType : String) (reference : Option String)
    (journalLineId : Option UUID) : BankReconciliationLine where
  reconciliationId
  matchType := .manual
  journalLineId
  transactionDate
  description := some description
  reference
  glAmount := some (if outstandingType = "deposit" then amount else -amount)
  isOutstanding := true
  outstandingType := some outstandingType

def addOutstanding (outstandingType : String) (amount : ℚ) (r : BankReconciliation) :
    BankReconciliation :=
  if outstandingType = "deposit" then
    { r with outstandingDeposits := r.outstandingDeposits + amount }
  else { r with outstandingPayments := r.outstandingPayments + amount }

def addOutstandingItem (org reconciliationId : UUID) (transactionDate : Date)
    (amount : ℚ) (description outstandingType : String) (reference : Option String)
    (journalLineId : Option UUID) : BankingSession PUnit := do
  let s ← get
  let _ ← orRaise (reconciliationOf s org reconciliationId) (notFound reconciliationId)
  set (withLine reconciliationId (outstandingLine reconciliationId transactionDate amount
    description outstandingType reference journalLineId) (addOutstanding outstandingType amount) s)

/-! ### Workflow -/

def submitForReview (org reconciliationId : UUID) : BankingSession PUnit := do
  let s ← get
  let reconciliation ← orRaise (reconciliationOf s org reconciliationId)
    (notFound reconciliationId)
  refuse (reconciliation.status ≠ .draft)
    (.http 400 "Only draft reconciliations can be submitted for review")
  set { s with
    reconciliations := s.reconciliations.modify reconciliationId fun r =>
      { r with status := .pendingReview } }

def approve (org reconciliationId approvedBy : UUID) (notes : Option String) :
    BankingSession PUnit := do
  let s ← get
  let reconciliation ← orRaise (reconciliationOf s org reconciliationId)
    (notFound reconciliationId)
  refuse (reconciliation.status ≠ .pendingReview)
    (.http 400 "Only pending reconciliations can be approved")
  refuse (reconciliation.reconciliationDifference ≠ 0)
    (.http 400 ("Cannot approve: reconciliation difference is " ++
      fixedText 4 reconciliation.reconciliationDifference))
  set { s with
    reconciliations := s.reconciliations.modify reconciliationId fun r => { r with
      status := .approved
      approvedBy := some approvedBy
      reviewNotes := (notes.filter fun text => text ≠ "").or r.reviewNotes }
    accounts := s.accounts.modify reconciliation.bankAccountId fun account => { account with
      lastReconciledDate := some reconciliation.reconciliationDate
      lastReconciledBalance := some reconciliation.statementClosingBalance } }

def reject (org reconciliationId rejectedBy : UUID) (notes : String) :
    BankingSession PUnit := do
  let s ← get
  let reconciliation ← orRaise (reconciliationOf s org reconciliationId)
    (notFound reconciliationId)
  refuse (reconciliation.status ≠ .pendingReview)
    (.http 400 "Only pending reconciliations can be rejected")
  set { s with
    reconciliations := s.reconciliations.modify reconciliationId fun r => { r with
      status := .rejected
      reviewedBy := some rejectedBy
      reviewNotes := some notes } }

end BankReconciliationService

end DotmacErp.Banking
