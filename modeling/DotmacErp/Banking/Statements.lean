import DotmacErp.Banking.Models
import Mathlib.Data.List.Dedup

/-!
# The import of statements

`BankStatementService.import_statement` stores a statement with its totals, and then its lines one
after the other. A line is checked against the first stored one of its date, amount and type: it is
a duplicate if that has its bank reference, its transaction, or more than seven tenths of their
words in common.

The query has no order, and gives the lines as they were stored. Whether a check sees the lines that
its own call has stored depends on the session (`autoflush`). Texts are put in capitals and split as
`TextRules` say. The matching that follows an import records suggestions only, and is left out.
-/

namespace DotmacErp.Banking

open Calendar Relational Session Rounding

/-- `str.upper` and `str.isspace`, letter by letter. -/
structure TextRules where
  upper : Char → List Char
  isSpace : Char → Bool

def TextRules.words (c : TextRules) (text : String) : List (List Char) :=
  (((text.toList.flatMap c.upper).splitOnP c.isSpace).filter fun word => word ≠ []).dedup

namespace BankStatementService

structure StatementLineInput where
  lineNumber : ℤ
  transactionDate : Date
  transactionType : StatementLineType
  amount : ℚ
  description : Option String := none
  reference : Option String := none
  bankReference : Option String := none
  transactionId : Option String := none
  deriving DecidableEq

structure DuplicateLineInfo where
  lineNumber : ℤ
  transactionDate : Date
  amount : ℚ
  description : Option String
  originalStatementId : UUID
  originalLineId : UUID

structure StatementImportResult where
  statementId : UUID
  linesImported : ℕ := 0
  linesSkipped : ℕ := 0
  duplicatesFound : ℕ := 0
  warnings : List String := []
  duplicateLines : List DuplicateLineInfo := []

/-- The statement that is imported, and how. Its generated number is drawn before the call. -/
structure ImportInput where
  organizationId : UUID
  bankAccountId : UUID
  statementNumber : Option String := none
  generatedNumber : String := ""
  statementDate : Option Date := none
  periodStart : Date
  periodEnd : Date
  openingBalance : Option ℚ := none
  closingBalance : Option ℚ := none
  lines : List StatementLineInput
  checkDuplicates : Bool := true
  skipDuplicates : Bool := true

/-! ### Duplicates -/

def sameText (a b : Option String) : Bool := decide (a = b ∧ a ≠ none ∧ a ≠ some "")

/-- Two descriptions with more than seven tenths of their words in common. -/
def similar (c : TextRules) (a b : Option String) : Bool :=
  match a, b with
  | some a, some b =>
    let words₁ := c.words a
    let words₂ := c.words b
    let common := words₁.filter (· ∈ words₂)
    let all := (words₁ ++ words₂).dedup
    decide (words₁ ≠ [] ∧ words₂ ≠ [] ∧ 7 * all.length < 10 * common.length)
  | _, _ => false

def agrees (c : TextRules) (line : StatementLineInput) (existing : BankStatementLine) : Bool :=
  sameText line.bankReference existing.bankReference ||
    sameText line.transactionId existing.transactionId ||
    similar c line.description existing.description

def isLike (statements : Table BankStatement) (org bankAccountId : UUID)
    (line : StatementLineInput) (existing : BankStatementLine) : Bool :=
  (statements.get? existing.statementId).any (fun statement =>
    decide (statement.organizationId = org ∧
      statement.bankAccountId = bankAccountId)) &&
    decide (existing.transactionDate = line.transactionDate ∧ existing.amount = line.amount ∧
      existing.transactionType = line.transactionType)

def checkDuplicateLine (c : TextRules) (s : BankingStore) (org bankAccountId : UUID)
    (line : StatementLineInput) : Option (Stored BankStatementLine) :=
  (s.statementLines.find? (isLike s.statements org bankAccountId line)).filter
    fun existing => agrees c line existing.row

/-! ### Import -/

def newLine (statementId : UUID) (line : StatementLineInput) : BankStatementLine where
  statementId
  lineNumber := line.lineNumber
  transactionId := line.transactionId
  transactionDate := line.transactionDate
  transactionType := line.transactionType
  amount := moneyColumn line.amount
  description := line.description
  reference := line.reference
  bankReference := line.bankReference

/-- The duplicate that a check finds. It sees what was there before the call, or all that is there
now. -/
def duplicateOf (c : TextRules) (autoflush : Bool) (before s : BankingStore) (input : ImportInput)
    (line : StatementLineInput) : Option (Stored BankStatementLine) :=
  if input.checkDuplicates = true then
    checkDuplicateLine c (if autoflush = true then s else before) input.organizationId
      input.bankAccountId line
  else none

def StatementImportResult.withDuplicate (result : StatementImportResult)
    (line : StatementLineInput) (duplicate : Stored BankStatementLine) (skip : Bool) :
    StatementImportResult :=
  { result with
    duplicatesFound := result.duplicatesFound + 1
    duplicateLines := result.duplicateLines ++
      [{ lineNumber := line.lineNumber
         transactionDate := line.transactionDate
         amount := line.amount
         description := line.description
         originalStatementId := duplicate.row.statementId
         originalLineId := duplicate.id }]
    linesSkipped := if skip = true then result.linesSkipped + 1 else result.linesSkipped
    warnings := if skip = true then
        result.warnings ++ ["Line " ++ toString line.lineNumber ++
          ": Skipped as duplicate of existing transaction"]
      else result.warnings }

def storeLine (statementId : UUID) (line : StatementLineInput)
    (state : BankingStore × StatementImportResult) : BankingStore × StatementImportResult :=
  ({ state.1 with statementLines := state.1.statementLines.insert (newLine statementId line) },
    { state.2 with linesImported := state.2.linesImported + 1 })

def importLine (c : TextRules) (autoflush : Bool) (before : BankingStore) (input : ImportInput)
    (statementId : UUID) (state : BankingStore × StatementImportResult)
    (line : StatementLineInput) : BankingStore × StatementImportResult :=
  match duplicateOf c autoflush before state.1 input line with
  | none => storeLine statementId line state
  | some duplicate =>
    let noted := (state.1, state.2.withDuplicate line duplicate input.skipDuplicates)
    if input.skipDuplicates = true then noted else storeLine statementId line noted

def importLines (c : TextRules) (autoflush : Bool) (before : BankingStore) (input : ImportInput)
    (statementId : UUID) (lines : List StatementLineInput)
    (state : BankingStore × StatementImportResult) : BankingStore × StatementImportResult :=
  lines.foldl (importLine c autoflush before input statementId) state

def totalOf (transactionType : StatementLineType) (lines : List StatementLineInput) : ℚ :=
  ((lines.filter fun line => decide (line.transactionType = transactionType)).map
    StatementLineInput.amount).sum

def newStatement (input : ImportInput) (statementNumber currencyCode : String) :
    BankStatement where
  organizationId := input.organizationId
  bankAccountId := input.bankAccountId
  statementNumber
  statementDate := input.statementDate
  periodStart := input.periodStart
  periodEnd := input.periodEnd
  openingBalance := input.openingBalance.map moneyColumn
  closingBalance := input.closingBalance.map moneyColumn
  totalCredits := moneyColumn (totalOf .credit input.lines)
  totalDebits := moneyColumn (totalOf .debit input.lines)
  currencyCode
  totalLines := input.lines.length
  unmatchedLines := input.lines.length

/-- A transaction of the bank feed, whose lines are unique: `transaction_id LIKE 'mono_%'`, where
the underscore stands for any letter. -/
def isFeedTransaction (transactionId : Option String) : Bool :=
  transactionId.any fun text => decide (text.toList.take 4 = "mono".toList ∧ 5 ≤ text.length)

/-- The lines of a statement have different numbers, and no transaction of the feed is stored
twice. -/
def LinesUnique (s : BankingStore) (statementId : UUID) : Prop :=
  ((s.statementLines.select fun line => decide (line.statementId = statementId)).map fun r =>
    r.row.lineNumber).Nodup ∧
  ((s.statementLines.select fun line => isFeedTransaction line.transactionId).map fun r =>
    r.row.transactionId).Nodup

instance (s : BankingStore) (statementId : UUID) : Decidable (LinesUnique s statementId) :=
  inferInstanceAs (Decidable (_ ∧ _))

def withStatement (input : ImportInput) (account : BankAccount) : BankAccount :=
  { account with
    lastStatementDate := input.statementDate.or account.lastStatementDate
    lastStatementBalance := (input.closingBalance.map moneyColumn).or
      account.lastStatementBalance }

def balanceWarning (input : ImportInput) : List String :=
  match input.openingBalance, input.closingBalance with
  | some opening, some closing =>
    if opening + totalOf .credit input.lines - totalOf .debit input.lines = closing then []
    else ["Statement does not balance: Opening (" ++ fixedText 4 opening ++ ") + Credits (" ++
      fixedText 4 (totalOf .credit input.lines) ++ ") - Debits (" ++
      fixedText 4 (totalOf .debit input.lines) ++ ") != Closing (" ++ fixedText 4 closing ++ ")"]
  | _, _ => []

def ImportInput.number (input : ImportInput) : String :=
  (input.statementNumber.filter fun number => decide (number ≠ "")).getD input.generatedNumber

def openStatement (input : ImportInput) (account : BankAccount) (s : BankingStore) :
    BankingStore :=
  { s with
    statements := s.statements.insert (newStatement input input.number account.currencyCode) }

def linesSoFar (c : TextRules) (autoflush : Bool) (input : ImportInput) (account : BankAccount)
    (s : BankingStore) (lines : List StatementLineInput) : BankingStore × StatementImportResult :=
  importLines c autoflush (openStatement input account s) input s.statements.next lines
    (openStatement input account s, { statementId := s.statements.next })

def importStatement (c : TextRules) (autoflush : Bool) (input : ImportInput) :
    BankingSession StatementImportResult := do
  let s ← get
  let account ← orRaise (s.accounts.get? input.bankAccountId)
    (.value ("Bank account " ++ input.bankAccountId.str ++ " not found"))
  refuse (account.organizationId ≠ input.organizationId)
    (.value "Bank account does not belong to this organization")
  refuse (input.statementNumber ≠ none ∧ input.statementNumber ≠ some "" ∧
      (s.statements.find? fun statement =>
        decide (statement.organizationId = input.organizationId ∧
          statement.bankAccountId = input.bankAccountId ∧
          statement.statementNumber = input.number)).isSome = true)
    (.value ("Statement " ++ input.number ++ " already exists for this account"))
  refuse ((s.statements.find? fun statement =>
      decide (statement.bankAccountId = input.bankAccountId ∧
        statement.statementNumber = input.number)).isSome = true)
    (.integrity "uq_bank_statement_number")
  let imported := linesSoFar c autoflush input account s input.lines
  refuse (¬ LinesUnique imported.1 s.statements.next) (.integrity "uq_bank_statement_line_number")
  set { imported.1 with
    accounts := imported.1.accounts.modify input.bankAccountId (withStatement input) }
  pure { imported.2 with warnings := imported.2.warnings ++ balanceWarning input }

end BankStatementService

end DotmacErp.Banking
