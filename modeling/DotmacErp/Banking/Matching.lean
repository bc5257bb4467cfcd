import DotmacErp.Banking.Reconciliations

/-!
# Matching

A statement line is matched to journal lines within a reconciliation (`add_match`,
`add_multi_match`, `unmatch`) or directly (`match_statement_line`, `multi_match_statement_line`,
`unmatch_statement_line`). All of them write the matches and the flag of the statement line; those
of a reconciliation write its lines and totals, the direct ones the counters of the statement.

A match is unique for its statement line and its journal line. The group of a split gets the next
key of groups.
-/

namespace DotmacErp.Banking

open Relational Session

namespace BankReconciliationService

/-! ### Statement lines and journal lines -/

def flagged (isMatched : Bool) (line : BankStatementLine) : BankStatementLine :=
  { line with isMatched }

def lineNotFound (statementLineId : UUID) : BankingError :=
  .http 404 ("Statement line " ++ statementLineId.str ++ " not found")

def journalLineNotFound (journalLineId : UUID) : BankingError :=
  .http 404 ("Journal line " ++ journalLineId.str ++ " not found")

def ownLine (s : BankingStore) (org statementLineId : UUID) :
    Option BankStatementLine :=
  (s.statementLines.get? statementLineId).filter fun line =>
    (s.statements.get? line.statementId).any fun statement =>
      decide (statement.organizationId = org)

def ownJournalLine (s : BankingStore) (org journalLineId : UUID) :
    Option JournalLine :=
  (s.journalLines.get? journalLineId).filter fun line =>
    decide (line.organizationId = org)

def matchesWithout (s : BankingStore) (statementLineId : UUID) : List BankStatementLineMatch :=
  s.lineMatches.filter fun m => decide (m.statementLineId ≠ statementLineId)

def closedReconciliation : BankingError :=
  .http 400 "Cannot modify an approved/rejected reconciliation"

/-- `_validate_amount_match`: whether amounts may be matched. -/
def amountsMatch (statementAmount glAmount : ℚ) (forceMatch : Bool) : Prop :=
  let diff := |(|statementAmount|) - (|glAmount|)|
  let maxAmount := max |statementAmount| |glAmount|
  diff ≤ 1 / 100 ∨ (if maxAmount = 0 then 1 else diff / maxAmount) ≤ 1 / 100 ∨ forceMatch = true

instance (statementAmount glAmount : ℚ) (forceMatch : Bool) :
    Decidable (amountsMatch statementAmount glAmount forceMatch) :=
  inferInstanceAs (Decidable (_ ∨ _ ∨ _))

def amountMismatch (statementAmount glAmount : ℚ) : BankingError :=
  .http 400 ("Amount mismatch requires review: statement amount " ++ moneyText statementAmount ++
    " vs GL amount " ++ moneyText glAmount ++
    ". Confirm and retry with force_match=true to proceed.")

/-! ### Within a reconciliation -/

structure ReconciliationMatchInput where
  statementLineId : UUID
  journalLineId : UUID
  matchType : ReconciliationMatchType := .manual

def matchLine (reconciliationId : UUID) (input : ReconciliationMatchInput)
    (line : BankStatementLine) (glAmount : ℚ) : BankReconciliationLine where
  reconciliationId
  matchType := input.matchType
  statementLineId := some input.statementLineId
  journalLineId := some input.journalLineId
  transactionDate := line.transactionDate
  description := line.description
  reference := line.reference
  statementAmount := some line.signedAmount
  glAmount := some glAmount
  difference := some (line.signedAmount - glAmount)
  isCleared := true

def addMatched (amount : ℚ) (r : BankReconciliation) : BankReconciliation :=
  { r with totalMatched := r.totalMatched + amount }

def addMatch (org reconciliationId : UUID) (input : ReconciliationMatchInput)
    (forceMatch : Bool) : BankingSession PUnit := do
  let s ← get
  let reconciliation ← orRaise (reconciliationOf s org reconciliationId)
    (notFound reconciliationId)
  refuse (reconciliation.status ∉ [ReconciliationStatus.draft, .pendingReview])
    closedReconciliation
  let line ← orRaise (ownLine s org input.statementLineId)
    (lineNotFound input.statementLineId)
  let journalLine ← orRaise (ownJournalLine s org input.journalLineId)
    (journalLineNotFound input.journalLineId)
  let glAmount := journalLine.glAmount
  refuse (line.signedAmount - glAmount ≠ 0 ∧ forceMatch = false)
    (.http 400 ("Cannot match: statement " ++ moneyText line.signedAmount ++
      " does not tie to GL " ++ moneyText glAmount ++ " (difference " ++
      moneyText (line.signedAmount - glAmount) ++
      "). Add a reconciling item (bank charge, interest, FX, etc.) for the difference instead " ++
      "of forcing an inexact match."))
  let newMatch : BankStatementLineMatch :=
    { statementLineId := input.statementLineId, journalLineId := input.journalLineId }
  set { withLine reconciliationId (matchLine reconciliationId input line glAmount)
      (addMatched |line.signedAmount|) s with
    statementLines := s.statementLines.modify input.statementLineId (flagged true)
    lineMatches := matchesWithout s input.statementLineId ++ [newMatch] }

/-- The rows of keys, in their order. -/
def loadAll {α : Type} (t : Table α) (missing : UUID → BankingError) :
    List UUID → BankingSession (List (Stored α))
  | [] => pure []
  | k :: ks => do
    let a ← orRaise (t.get? k) (missing k)
    let others ← loadAll t missing ks
    pure (⟨k, a⟩ :: others)

/-- The pairs of a split: one statement line with each journal line, or each statement line with the
first journal line. -/
def splitPairs (lines : List (Stored BankStatementLine))
    (journalLines : List (Stored JournalLine)) :
    List (Stored BankStatementLine × Stored JournalLine) :=
  match lines with
  | [line] => journalLines.map fun journalLine => (line, journalLine)
  | _ =>
    match journalLines with
    | [] => []
    | journalLine :: _ => lines.map fun line => (line, journalLine)

/-- The lines of a reconciliation for the pairs of a split. The amount of a statement line, and that
of a journal line, is recorded with the first pair it is in. -/
def splitLines (reconciliationId : UUID) :
    List UUID → List UUID → List (Stored BankStatementLine × Stored JournalLine) →
      List BankReconciliationLine
  | _, _, [] => []
  | seenLines, seenJournalLines, (line, journalLine) :: rest =>
    { reconciliationId
      matchType := .split
      statementLineId := some line.id
      journalLineId := some journalLine.id
      transactionDate := line.row.transactionDate
      description := line.row.description
      reference := line.row.reference
      statementAmount := some (if line.id ∈ seenLines then 0 else line.row.signedAmount)
      glAmount := some (if journalLine.id ∈ seenJournalLines then 0 else journalLine.row.glAmount)
      difference := some 0
      isCleared := true } ::
    splitLines reconciliationId (line.id :: seenLines) (journalLine.id :: seenJournalLines) rest

def splitMatches (groupId : UUID) :
    Bool → List (Stored BankStatementLine × Stored JournalLine) → List BankStatementLineMatch
  | _, [] => []
  | isPrimary, (line, journalLine) :: rest =>
    { statementLineId := line.id
      journalLineId := journalLine.id
      isPrimary
      matchGroupId := some groupId } :: splitMatches groupId false rest

def matchKey (m : BankStatementLineMatch) : UUID × UUID := (m.statementLineId, m.journalLineId)

def partiesOf (journalLines : List (Stored JournalLine)) : List Counterparty :=
  (journalLines.filterMap fun r => r.row.counterparty).dedup

def addMultiMatch (org reconciliationId : UUID)
    (statementLineIds journalLineIds : List UUID) : BankingSession PUnit := do
  let s ← get
  let reconciliation ← orRaise (reconciliationOf s org reconciliationId)
    (notFound reconciliationId)
  refuse (reconciliation.status ∉ [ReconciliationStatus.draft, .pendingReview])
    closedReconciliation
  let lines ← loadAll s.statementLines lineNotFound statementLineIds
  let journalLines ← loadAll s.journalLines journalLineNotFound journalLineIds
  let lineTotal := (lines.map fun r => r.row.signedAmount).sum
  let glTotal := (journalLines.map fun r => r.row.glAmount).sum
  refuse (lineTotal ≠ glTotal)
    (.http 400 ("Cannot match: statement total " ++ moneyText lineTotal ++
      " does not tie to GL total " ++ moneyText glTotal ++ " (difference " ++
      moneyText (lineTotal - glTotal) ++
      "). Add a reconciling item for the difference instead of an inexact split."))
  refuse (lines.length ≠ 1 ∧ journalLines.length ≠ 1)
    (.http 400 ("A split must have a single bank line (matched to many GL entries) or a single " ++
      "GL entry (matched to many bank lines)."))
  refuse (lines.length = 1 ∧ 1 < (partiesOf journalLines).length)
    (.http 400 ("Cannot match: the selected GL entries belong to " ++
      toString (partiesOf journalLines).length ++
      " unrelated counterparties (different parent customers). A single bank deposit settles " ++
      "one payer or its child accounts — match unrelated payers against their own bank lines."))
  let pairs := splitPairs lines journalLines
  let newMatches := splitMatches s.nextGroup true pairs
  refuse (¬ ((s.lineMatches ++ newMatches).map matchKey).Nodup)
    (.integrity "uq_statement_line_journal_line")
  set { s with
    reconciliations := s.reconciliations.modify reconciliationId
      (recalculated (addMatched |lineTotal|))
    reconciliationLines := s.reconciliationLines ++
      (splitLines reconciliationId [] [] pairs).map BankReconciliationLine.stored
    statementLines := s.statementLines.mapRows fun r =>
      if r.id ∈ statementLineIds then flagged true r.row else r.row
    lineMatches := s.lineMatches ++ newMatches
    nextGroup := s.nextGroup + 1 }

def matchesLine (reconciliationId statementLineId : UUID) (line : BankReconciliationLine) : Bool :=
  decide (line.reconciliationId = reconciliationId ∧
    line.statementLineId = some statementLineId ∧ line.isAdjustment = false ∧
    line.isOutstanding = false)

def removeMatched (amount : ℚ) (r : BankReconciliation) : BankReconciliation :=
  { r with totalMatched := max (r.totalMatched - amount) 0 }

def unmatch (org reconciliationId statementLineId : UUID) : BankingSession PUnit := do
  let s ← get
  let reconciliation ← orRaise (reconciliationOf s org reconciliationId)
    (notFound reconciliationId)
  refuse (reconciliation.status ∉ [ReconciliationStatus.draft, .pendingReview])
    closedReconciliation
  let _ ← orRaise (s.statementLines.get? statementLineId) (lineNotFound statementLineId)
  let group := s.reconciliationLines.filter (matchesLine reconciliationId statementLineId)
  set { s with
    reconciliations := s.reconciliations.modify reconciliationId
      (recalculated (removeMatched (absoluteTotal group)))
    reconciliationLines := s.reconciliationLines.filter fun line =>
      !matchesLine reconciliationId statementLineId line
    statementLines := s.statementLines.modify statementLineId (flagged false)
    lineMatches := matchesWithout s statementLineId }

/-! ### Directly -/

def countMatched (statement : BankStatement) : BankStatement :=
  { statement with
    matchedLines := statement.matchedLines + 1
    unmatchedLines := max (statement.unmatchedLines - 1) 0 }

def countUnmatched (statement : BankStatement) : BankStatement :=
  { statement with
    matchedLines := max (statement.matchedLines - 1) 0
    unmatchedLines := statement.unmatchedLines + 1 }

def confirmLine (statementLineId statementId : UUID) (s : BankingStore) : BankingStore :=
  { s with
    statementLines := s.statementLines.modify statementLineId (flagged true)
    statements := s.statements.modify statementId countMatched }

def matchStatementLine (org statementLineId journalLineId : UUID) (forceMatch : Bool)
    (matchState : MatchState) : BankingSession PUnit := do
  let s ← get
  let line ← orRaise (ownLine s org statementLineId) (lineNotFound statementLineId)
  let existing := s.lineMatches.find? fun m =>
    decide (matchKey m = (statementLineId, journalLineId))
  -- a suggestion that is confirmed is matched anew
  let known := existing.filter fun m =>
    decide (¬ (m.matchState = .suggested ∧ matchState ≠ .suggested))
  if known ≠ none then
    runIf (line.isMatched = false ∧ known.any (fun m => decide (m.matchState ≠ .suggested)) = true)
      (set (confirmLine statementLineId line.statementId s))
  else do
    refuse (line.isMatched = true ∧ matchState ≠ .suggested)
      (.http 400 "Statement line is already matched")
    let journalLine ← orRaise (ownJournalLine s org journalLineId)
      (journalLineNotFound journalLineId)
    let newMatch : BankStatementLineMatch := { statementLineId, journalLineId, matchState }
    if matchState = .suggested then
      set { s with lineMatches := s.lineMatches ++ [newMatch] }
    else do
      refuse (¬ amountsMatch line.signedAmount journalLine.glAmount forceMatch)
        (amountMismatch line.signedAmount journalLine.glAmount)
      set { confirmLine statementLineId line.statementId s with
        lineMatches := matchesWithout s statementLineId ++ [newMatch] }

def loadOwn (s : BankingStore) (org : UUID) :
    List UUID → BankingSession (List (Stored JournalLine))
  | [] => pure []
  | k :: ks => do
    let journalLine ← orRaise (ownJournalLine s org k) (journalLineNotFound k)
    let others ← loadOwn s org ks
    pure (⟨k, journalLine⟩ :: others)

def directMatches (statementLineId : UUID) : Bool → List UUID → List BankStatementLineMatch
  | _, [] => []
  | isPrimary, journalLineId :: rest =>
    { statementLineId, journalLineId, isPrimary } :: directMatches statementLineId false rest

def multiMatchStatementLine (org statementLineId : UUID) (journalLineIds : List UUID)
    (forceMatch : Bool) : BankingSession PUnit := do
  let s ← get
  let line ← orRaise (ownLine s org statementLineId) (lineNotFound statementLineId)
  refuse (line.isMatched = true) (.http 400 "Statement line is already matched")
  refuse (journalLineIds = []) (.http 400 "At least one journal_line_id is required")
  let journalLines ← loadOwn s org journalLineIds
  let glTotal := (journalLines.map fun r => r.row.glAmount).sum
  refuse (¬ amountsMatch line.signedAmount glTotal forceMatch)
    (amountMismatch line.signedAmount glTotal)
  refuse (¬ journalLineIds.Nodup) (.integrity "uq_statement_line_journal_line")
  set { confirmLine statementLineId line.statementId s with
    lineMatches := matchesWithout s statementLineId ++
      directMatches statementLineId true journalLineIds }

def unmatchStatementLine (org statementLineId : UUID) : BankingSession PUnit := do
  let s ← get
  let line ← orRaise (ownLine s org statementLineId) (lineNotFound statementLineId)
  refuse (line.isMatched = false) (.http 400 "Statement line is not matched")
  set { s with
    statementLines := s.statementLines.modify statementLineId (flagged false)
    statements := s.statements.modify line.statementId countUnmatched
    lineMatches := matchesWithout s statementLineId }

end BankReconciliationService

end DotmacErp.Banking
