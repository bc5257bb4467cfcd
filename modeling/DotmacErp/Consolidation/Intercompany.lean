import DotmacErp.GL.Database

/-!
# Intercompany balances and their elimination

The rows and the calls of `IntercompanyService` and `ConsolidationService` that record the balances
between the entities of a group, match each with its reciprocal, and eliminate matched balances in a
consolidation run.

A pair of entities has a balance of each type in each direction. Matching looks for the reciprocal
of a balance, of the same type in the other direction; elimination goes through the matched balances
that are not eliminated and makes an entry for the first of each pair. Rows come in creation order.
Names, dates and the approval of runs are left out.
-/

namespace DotmacErp.Consolidation

open Relational Rounding Session

/-! ### Rows -/

structure LegalEntity where
  groupId : UUID
  entityCode : String
  isActive : Bool

structure IntercompanyBalance where
  fiscalPeriodId : UUID
  fromEntityId : UUID
  toEntityId : UUID
  balanceType : String
  fromEntityGlAccountId : UUID
  fromEntityCurrency : String
  fromEntityAmount : ℚ
  fromEntityFunctionalAmount : ℚ
  toEntityGlAccountId : UUID
  toEntityCurrency : String
  toEntityAmount : ℚ
  toEntityFunctionalAmount : ℚ
  reportingCurrencyCode : String
  reportingCurrencyAmount : ℚ
  isMatched : Bool := false
  differenceAmount : ℚ := 0
  differenceReason : Option String := none
  isEliminated : Bool := false
  eliminationEntryId : Option UUID := none
  deriving DecidableEq

inductive ConsolidationStatus where
  | draft
  | inProgress
  | completed
  | approved
  | published
  deriving DecidableEq

structure ConsolidationRun where
  groupId : UUID
  fiscalPeriodId : UUID
  status : ConsolidationStatus
  eliminationEntriesCount : ℕ := 0
  totalEliminationsAmount : ℚ := 0
  totalNci : ℚ := 0
  intercompanyDifferences : ℚ := 0

/-- `EliminationType`, of which intercompany balances are one. -/
inductive EliminationType where
  | intercompanyBalance
  | intercompanyTransaction
  | investmentInSubsidiary
  | dividend
  | unrealizedProfit
  | goodwill
  | nciAdjustment
  | equityElimination
  | other

structure EliminationInput where
  eliminationType : EliminationType
  description : String
  currencyCode : String
  debitAccountId : UUID
  debitAmount : ℚ
  creditAccountId : UUID
  creditAmount : ℚ
  entity1Id : Option UUID := none
  entity2Id : Option UUID := none
  sourceBalanceId : Option UUID := none
  nciDebitAccountId : Option UUID := none
  nciDebitAmount : ℚ := 0
  nciCreditAccountId : Option UUID := none
  nciCreditAmount : ℚ := 0
  isAutomatic : Bool := true

/-- `EliminationEntry`: what was put in, under its run. -/
structure EliminationEntry extends EliminationInput where
  consolidationRunId : UUID

/-- The tables of intercompany elimination. -/
structure ConsolidationStore where
  entities : Table LegalEntity
  balances : Table IntercompanyBalance
  runs : Table ConsolidationRun
  eliminations : Table EliminationEntry

abbrev ConsolidationSession (α : Type) := Session ServiceError ConsolidationStore α

def IntercompanyBalance.identity (b : IntercompanyBalance) : UUID × UUID × UUID × String :=
  (b.fiscalPeriodId, b.fromEntityId, b.toEntityId, b.balanceType)

def IntercompanyBalance.pairKey (b : IntercompanyBalance) : UUID × UUID :=
  (min b.fromEntityId b.toEntityId, max b.fromEntityId b.toEntityId)

def ConsolidationStore.activeEntity (s : ConsolidationStore) (groupId entityId : UUID) :
    Option LegalEntity :=
  (s.entities.get? entityId).filter fun e => decide (e.groupId = groupId ∧ e.isActive = true)

namespace IntercompanyService

/-! ### Recording -/

structure IntercompanyBalanceInput where
  fiscalPeriodId : UUID
  fromEntityId : UUID
  toEntityId : UUID
  balanceType : String
  fromEntityGlAccountId : UUID
  fromEntityCurrency : String
  fromEntityAmount : ℚ
  fromEntityFunctionalAmount : ℚ
  toEntityGlAccountId : UUID
  toEntityCurrency : String
  toEntityAmount : ℚ
  toEntityFunctionalAmount : ℚ
  reportingCurrencyCode : String
  reportingCurrencyAmount : ℚ

def newBalance (input : IntercompanyBalanceInput) : IntercompanyBalance where
  fiscalPeriodId := input.fiscalPeriodId
  fromEntityId := input.fromEntityId
  toEntityId := input.toEntityId
  balanceType := input.balanceType
  fromEntityGlAccountId := input.fromEntityGlAccountId
  fromEntityCurrency := input.fromEntityCurrency
  fromEntityAmount := input.fromEntityAmount
  fromEntityFunctionalAmount := input.fromEntityFunctionalAmount
  toEntityGlAccountId := input.toEntityGlAccountId
  toEntityCurrency := input.toEntityCurrency
  toEntityAmount := input.toEntityAmount
  toEntityFunctionalAmount := input.toEntityFunctionalAmount
  reportingCurrencyCode := input.reportingCurrencyCode
  reportingCurrencyAmount := input.reportingCurrencyAmount
  differenceAmount := input.fromEntityFunctionalAmount + input.toEntityFunctionalAmount

def recordBalance (groupId : UUID) (input : IntercompanyBalanceInput) :
    ConsolidationSession UUID := do
  let s ← get
  refuse ((s.entities.get? input.fromEntityId).map LegalEntity.groupId ≠ some groupId)
    (.http 404 "From entity not found in group")
  refuse ((s.entities.get? input.toEntityId).map LegalEntity.groupId ≠ some groupId)
    (.http 404 "To entity not found in group")
  refuse (input.fromEntityId = input.toEntityId)
    (.http 400 "Cannot create intercompany balance with same entity")
  refuse ((s.balances.find? fun b => decide (b.identity = (newBalance input).identity)).isSome)
    (.http 400 "Intercompany balance already exists for this period and type")
  set { s with balances := s.balances.insert (newBalance input) }
  pure s.balances.next

/-! ### Matching -/

def IsReciprocal (b q : IntercompanyBalance) : Prop :=
  q.fiscalPeriodId = b.fiscalPeriodId ∧ q.fromEntityId = b.toEntityId ∧
    q.toEntityId = b.fromEntityId ∧ q.balanceType = b.balanceType

instance (b : IntercompanyBalance) : DecidablePred (IsReciprocal b) :=
  fun _ => inferInstanceAs (Decidable (_ ∧ _))

def reciprocal (balances : Table IntercompanyBalance) (b : IntercompanyBalance) :
    Option (Stored IntercompanyBalance) :=
  balances.find? fun q => decide (IsReciprocal b q)

def differenceReason (balance reciprocal : IntercompanyBalance) : String :=
  if balance.fromEntityCurrency ≠ reciprocal.toEntityCurrency then "Currency mismatch"
  else if |balance.fromEntityAmount| ≠ |reciprocal.toEntityAmount| then
    "Transaction amount mismatch"
  else "Exchange rate difference"

structure MatchOutcome where
  isMatched : Bool
  differenceAmount : ℚ
  differenceReason : Option String

def matchOutcome (tolerance : ℚ) (balance : IntercompanyBalance) :
    Option (Stored IntercompanyBalance) → MatchOutcome
  | some r =>
    let difference := |balance.reportingCurrencyAmount + r.row.reportingCurrencyAmount|
    if difference ≤ tolerance then ⟨true, difference, none⟩
    else ⟨false, difference, some (differenceReason balance r.row)⟩
  | none => ⟨false, |balance.reportingCurrencyAmount|, some "No reciprocal balance found"⟩

def MatchOutcome.write (outcome : MatchOutcome) (b : IntercompanyBalance) : IntercompanyBalance :=
  { b with
    isMatched := outcome.isMatched
    differenceAmount := outcome.differenceAmount
    differenceReason := outcome.differenceReason }

structure MatchingResult where
  balanceId : UUID
  fromEntityCode : String
  toEntityCode : String
  balanceType : String
  fromAmount : ℚ
  toAmount : ℚ
  difference : ℚ
  isMatched : Bool
  differenceReason : Option String

def matchBalance (tolerance : ℚ) (balances : Table IntercompanyBalance)
    (balance : Stored IntercompanyBalance) : Table IntercompanyBalance :=
  let found := reciprocal balances balance.row
  let outcome := matchOutcome tolerance balance.row found
  let balances := balances.modify balance.id outcome.write
  match found with
  | some r => balances.modify r.id outcome.write
  | none => balances

def matchingResult (s : ConsolidationStore) (groupId : UUID) (tolerance : ℚ)
    (balance : Stored IntercompanyBalance) : MatchingResult :=
  let found := reciprocal s.balances balance.row
  let outcome := matchOutcome tolerance balance.row found
  let code entityId := ((s.activeEntity groupId entityId).map LegalEntity.entityCode).getD "Unknown"
  { balanceId := balance.id
    fromEntityCode := code balance.row.fromEntityId
    toEntityCode := code balance.row.toEntityId
    balanceType := balance.row.balanceType
    fromAmount := balance.row.reportingCurrencyAmount
    toAmount := (found.map fun r => r.row.reportingCurrencyAmount).getD 0
    difference := outcome.differenceAmount
    isMatched := outcome.isMatched
    differenceReason := outcome.differenceReason }

def balancesOf (s : ConsolidationStore) (groupId periodId : UUID) :
    List (Stored IntercompanyBalance) :=
  s.balances.select fun b => decide (b.fiscalPeriodId = periodId) &&
    (s.activeEntity groupId b.fromEntityId).isSome

def performMatching (groupId periodId : UUID) (tolerance : ℚ) :
    ConsolidationSession (List MatchingResult) := do
  let s ← get
  let balances := balancesOf s groupId periodId
  set { s with balances := balances.foldl (matchBalance tolerance) s.balances }
  pure (balances.map (matchingResult s groupId tolerance))

end IntercompanyService

namespace ConsolidationService

open IntercompanyService

/-! ### Elimination -/

def loadRun (groupId runId : UUID) : ConsolidationSession ConsolidationRun := do
  let s ← get
  let run ← orRaise (s.runs.get? runId) (.http 404 "Consolidation run not found")
  refuse (run.groupId ≠ groupId) (.http 404 "Consolidation run not found")
  pure run

def addStatistics (input : EliminationInput) (run : ConsolidationRun) : ConsolidationRun :=
  { run with
    eliminationEntriesCount := run.eliminationEntriesCount + 1
    totalEliminationsAmount := run.totalEliminationsAmount + input.debitAmount
    totalNci := run.totalNci + input.nciDebitAmount }

def createEliminationEntry (groupId runId : UUID) (input : EliminationInput) :
    ConsolidationSession UUID := do
  let run ← loadRun groupId runId
  refuse (run.status ≠ .inProgress)
    (.http 400 "Eliminations can only be created for in-progress runs")
  let totalDebit := input.debitAmount + input.nciDebitAmount
  let totalCredit := input.creditAmount + input.nciCreditAmount
  refuse (totalDebit ≠ totalCredit)
    (.http 400 ("Elimination must balance: debit " ++ fixedText 6 totalDebit ++ " != credit " ++
      fixedText 6 totalCredit))
  let s ← get
  set { s with
    eliminations := s.eliminations.insert { input with consolidationRunId := runId }
    runs := s.runs.modify runId (addStatistics input) }
  pure s.eliminations.next

def eliminationInput (fromEntity toEntity : LegalEntity) (balance : Stored IntercompanyBalance) :
    EliminationInput where
  eliminationType := .intercompanyBalance
  description := "Eliminate IC balance: " ++ fromEntity.entityCode ++ " <-> " ++ toEntity.entityCode
  currencyCode := balance.row.reportingCurrencyCode
  debitAccountId := balance.row.toEntityGlAccountId
  debitAmount := |balance.row.reportingCurrencyAmount|
  creditAccountId := balance.row.fromEntityGlAccountId
  creditAmount := |balance.row.reportingCurrencyAmount|
  entity1Id := some balance.row.fromEntityId
  entity2Id := some balance.row.toEntityId
  sourceBalanceId := some balance.id
  isAutomatic := true

def eliminatedBy (entryId : UUID) (b : IntercompanyBalance) : IntercompanyBalance :=
  { b with isEliminated := true, eliminationEntryId := some entryId }

def markEliminated (balanceId entryId : UUID) : ConsolidationSession PUnit :=
  modify fun s => { s with balances := s.balances.modify balanceId (eliminatedBy entryId) }

/-- The loop over the balances: the first of each pair gets an entry. -/
def eliminateBalances (groupId runId : UUID) (entity : UUID → Option LegalEntity) :
    List (UUID × UUID) → List (Stored IntercompanyBalance) → ConsolidationSession (List UUID)
  | _, [] => pure []
  | processed, balance :: rest =>
    if balance.row.pairKey ∈ processed then eliminateBalances groupId runId entity processed rest
    else
      match entity balance.row.fromEntityId, entity balance.row.toEntityId with
      | some fromEntity, some toEntity => do
        let entryId ← createEliminationEntry groupId runId
          (eliminationInput fromEntity toEntity balance)
        markEliminated balance.id entryId
        let entries ← eliminateBalances groupId runId entity (balance.row.pairKey :: processed) rest
        pure (entryId :: entries)
      | _, _ => eliminateBalances groupId runId entity (balance.row.pairKey :: processed) rest

def withDifferences (differences : ℚ) (run : ConsolidationRun) : ConsolidationRun :=
  { run with intercompanyDifferences := differences }

/-- `generate_intercompany_eliminations`; the elimination account is not looked at. -/
def generateIntercompanyEliminations (groupId runId : UUID) :
    ConsolidationSession (List UUID) := do
  let run ← loadRun groupId runId
  let s ← get
  let balances := (balancesOf s groupId run.fiscalPeriodId).filter fun r =>
    r.row.isMatched && !r.row.isEliminated
  let entries ← eliminateBalances groupId runId (s.activeEntity groupId) [] balances
  modify fun s =>
    let unmatched := (balancesOf s groupId run.fiscalPeriodId).filter fun r => !r.row.isMatched
    { s with
      runs := s.runs.modify runId
        (withDifferences (unmatched.map fun r => r.row.differenceAmount).sum) }
  pure entries

end ConsolidationService

end DotmacErp.Consolidation
