import DotmacErp.Foundation.Rounding
import DotmacErp.Foundation.Session
import DotmacErp.GL.Models
import Mathlib.Data.List.Dedup

/-!
# Tax returns

The store and the calls of `TaxReturnService`, with the transactions it reads. The totals of a
return are calculated when it is prepared, refreshed or updated, from all transactions of its fiscal
period; filing it marks those that no return includes yet, with the text of its key.

Whether the column of that text takes it is a parameter. What a filing marks is kept in a list for
reference: no column holds it. Source documents, currencies, dates and names are left out.
-/

namespace DotmacErp.Taxes

open Relational Session Rounding

/-! ### Rows -/

inductive TaxReturnStatus where
  | draft
  | prepared
  | reviewed
  | filed
  | amended
  deriving DecidableEq

def TaxReturnStatus.value : TaxReturnStatus → String
  | draft => "DRAFT"
  | prepared => "PREPARED"
  | reviewed => "REVIEWED"
  | filed => "FILED"
  | amended => "AMENDED"

inductive TaxReturnType where
  | vat
  | gst
  | salesTax
  | withholding
  | income
  | payroll
  deriving DecidableEq

inductive TaxPeriodStatus where
  | open
  | filed
  | paid
  | closed
  deriving DecidableEq

def TaxPeriodStatus.value : TaxPeriodStatus → String
  | .open => "OPEN"
  | filed => "FILED"
  | paid => "PAID"
  | closed => "CLOSED"

inductive TaxTransactionType where
  | input
  | output
  | withholding
  | accrual
  | payment
  | refund
  deriving DecidableEq

inductive PeriodText where
  | typed (text : String)
  | ofReturn (returnId : UUID)
  deriving DecidableEq

structure TaxCode where
  organizationId : UUID
  taxReturnBox : Option String := none

structure TaxPeriod where
  organizationId : UUID
  jurisdictionId : UUID
  fiscalPeriodId : Option UUID
  status : TaxPeriodStatus := .open

structure TaxTransaction where
  organizationId : UUID
  fiscalPeriodId : UUID
  taxCodeId : UUID
  jurisdictionId : UUID
  transactionType : TaxTransactionType
  functionalBaseAmount : ℚ
  functionalTaxAmount : ℚ
  recoverableAmount : ℚ := 0
  taxReturnPeriod : Option PeriodText := none
  taxReturnBox : Option String := none
  isIncludedInReturn : Bool := false

structure BoxValue where
  baseAmount : ℚ
  taxAmount : ℚ
  transactionCount : ℕ

structure TaxReturn where
  organizationId : UUID
  taxPeriodId : UUID
  jurisdictionId : UUID
  returnType : TaxReturnType
  returnReference : Option String := none
  totalOutputTax : ℚ := 0
  totalInputTax : ℚ := 0
  netTaxPayable : ℚ := 0
  adjustments : ℚ := 0
  finalAmount : ℚ := 0
  boxValues : List (String × BoxValue) := []
  status : TaxReturnStatus := .draft
  filedByUserId : Option UUID := none
  filingReference : Option String := none
  isPaid : Bool := false
  paymentReference : Option String := none
  paymentJournalEntryId : Option UUID := none
  isAmendment : Bool := false
  originalReturnId : Option UUID := none
  amendmentReason : Option String := none
  preparedByUserId : Option UUID := none
  reviewedByUserId : Option UUID := none

/-- The tables of tax returns. -/
structure TaxStore where
  codes : Table TaxCode
  periods : Table TaxPeriod
  transactions : Table TaxTransaction
  returns : Table TaxReturn
  inclusions : List (UUID × UUID)

/-- What a call raises. -/
inductive TaxError where
  | valueError (message : String)
  | http (statusCode : ℕ) (detail : String)
  | dataError (message : String)

abbrev TaxSession (α : Type) := Session TaxError TaxStore α

/-! ### Transactions -/

structure TaxTransactionInput where
  fiscalPeriodId : UUID
  taxCodeId : UUID
  jurisdictionId : UUID
  transactionType : TaxTransactionType
  functionalBaseAmount : ℚ
  functionalTaxAmount : ℚ
  recoverableAmount : ℚ := 0
  taxReturnPeriod : Option PeriodText := none
  taxReturnBox : Option String := none

def orNone (text : Option String) : Option String := text.filter fun t => decide (t ≠ "")

def newTransaction (org : UUID) (taxCode : TaxCode) (input : TaxTransactionInput) :
    TaxTransaction where
  organizationId := org
  fiscalPeriodId := input.fiscalPeriodId
  taxCodeId := input.taxCodeId
  jurisdictionId := input.jurisdictionId
  transactionType := input.transactionType
  functionalBaseAmount := halfUp 6 input.functionalBaseAmount
  functionalTaxAmount := halfUp 6 input.functionalTaxAmount
  recoverableAmount := halfUp 6 input.recoverableAmount
  taxReturnPeriod := input.taxReturnPeriod
  taxReturnBox := (orNone input.taxReturnBox).or taxCode.taxReturnBox
  isIncludedInReturn := false

def createTransaction (org : UUID) (input : TaxTransactionInput) :
    TaxSession UUID := do
  let s ← get
  let taxCode ← orRaise ((s.codes.get? input.taxCodeId).filter fun code =>
    decide (code.organizationId = org)) (.http 404 "Tax code not found")
  set { s with transactions := s.transactions.insert (newTransaction org taxCode input) }
  pure s.transactions.next

def outputTax (transactions : List (Stored TaxTransaction)) : ℚ :=
  ((transactions.filter fun r => decide (r.row.transactionType = .output)).map fun r =>
    r.row.functionalTaxAmount).sum

def inputTax (transactions : List (Stored TaxTransaction)) : ℚ :=
  ((transactions.filter fun r => decide (r.row.transactionType = .input)).map fun r =>
    r.row.recoverableAmount).sum

def TaxStore.transactionsOf (s : TaxStore) (org : UUID)
    (periodId : Option UUID) : List (Stored TaxTransaction) :=
  s.transactions.select fun t =>
    decide (t.organizationId = org ∧ some t.fiscalPeriodId = periodId)

def TaxStore.includedIn (s : TaxStore) (returnId : UUID) : List (Stored TaxTransaction) :=
  s.transactions.select fun t =>
    decide (t.isIncludedInReturn = true ∧ t.taxReturnPeriod = some (.ofReturn returnId))

namespace TaxReturnService

/-! ### Totals -/

def calculateTaxTotals (s : TaxStore) (org : UUID) (periodId : Option UUID) :
    ℚ × ℚ :=
  (outputTax (s.transactionsOf org periodId),
    inputTax (s.transactionsOf org periodId))

def calculateBoxValues (s : TaxStore) (org periodId : UUID) :
    List (String × BoxValue) :=
  let transactions := s.transactionsOf org (some periodId)
  (transactions.filterMap fun r => r.row.taxReturnBox).dedup.map fun box =>
    let inBox := transactions.filter fun r => decide (r.row.taxReturnBox = some box)
    (box, {
      baseAmount := (inBox.map fun r => r.row.functionalBaseAmount).sum
      taxAmount := (inBox.map fun r => r.row.functionalTaxAmount).sum
      transactionCount := inBox.length })

def withTotals (s : TaxStore) (org periodId userId : UUID) (adjustments : ℚ)
    (taxReturn : TaxReturn) : TaxReturn :=
  let (totalOutput, totalInput) := calculateTaxTotals s org (some periodId)
  { taxReturn with
    totalOutputTax := totalOutput
    totalInputTax := totalInput
    netTaxPayable := totalOutput - totalInput
    adjustments := halfUp 6 adjustments
    finalAmount := halfUp 6 (totalOutput - totalInput + adjustments)
    boxValues := calculateBoxValues s org periodId
    preparedByUserId := some userId }

def inStatus (status : TaxReturnStatus) (taxReturn : TaxReturn) : TaxReturn :=
  { taxReturn with status }

def existingReturn (s : TaxStore) (org periodId : UUID) (returnType : TaxReturnType) :
    Option (Stored TaxReturn) :=
  s.returns.find? fun r => decide (r.taxPeriodId = periodId ∧ r.organizationId = org ∧
    r.returnType = returnType ∧ r.isAmendment = false)

def periodOf (s : TaxStore) (org periodId : UUID) : Option TaxPeriod :=
  (s.periods.get? periodId).filter fun period => decide (period.organizationId = org)

def returnOf (s : TaxStore) (org returnId : UUID) : Option TaxReturn :=
  (s.returns.get? returnId).filter fun taxReturn =>
    decide (taxReturn.organizationId = org)

/-! ### Preparing -/

structure TaxReturnInput where
  taxPeriodId : UUID
  jurisdictionId : UUID
  returnType : TaxReturnType
  adjustments : ℚ := 0

def prepareReturn (org : UUID) (input : TaxReturnInput) (preparedByUserId : UUID) :
    TaxSession UUID := do
  let s ← get
  let period ← orRaise (periodOf s org input.taxPeriodId)
    (.valueError "Tax period not found")
  refuse (period.status ≠ .open)
    (.valueError ("Tax period is in " ++ period.status.value ++ " status"))
  let existing := existingReturn s org input.taxPeriodId input.returnType
  refuse (∃ r ∈ existing, r.row.status ≠ .draft)
    (.valueError "A return already exists for this period")
  let periodId ← orRaise period.fiscalPeriodId
    (.valueError "Tax period is missing a fiscal period reference")
  let total := fun taxReturn => inStatus .prepared
    (withTotals s org periodId preparedByUserId input.adjustments taxReturn)
  match existing with
  | some r => do
    set { s with returns := s.returns.modify r.id total }
    pure r.id
  | none => do
    set { s with
      returns := s.returns.insert (total {
        organizationId := org
        taxPeriodId := input.taxPeriodId
        jurisdictionId := input.jurisdictionId
        returnType := input.returnType }) }
    pure s.returns.next

def autoRefreshReturn (org periodId jurisdictionId systemUserId : UUID) :
    TaxSession (Option UUID) := do
  let s ← get
  match s.periods.find? fun period => decide (period.organizationId = org ∧
    period.fiscalPeriodId = some periodId ∧ period.jurisdictionId = jurisdictionId) with
  | none => pure none
  | some period =>
    let existing := existingReturn s org period.id .vat
    if period.row.status ∈ [TaxPeriodStatus.filed, .paid, .closed] ∨
        (∃ r ∈ existing, r.row.status ∉ [TaxReturnStatus.draft, .prepared]) ∨
        calculateTaxTotals s org (some periodId) = (0, 0) then pure none
    else match existing with
      | some r => do
        set { s with
          returns := s.returns.modify r.id
            (withTotals s org periodId systemUserId r.row.adjustments) }
        pure (some r.id)
      | none => do
        set { s with
          returns := s.returns.insert (withTotals s org periodId systemUserId 0 {
            organizationId := org
            taxPeriodId := period.id
            jurisdictionId
            returnType := .vat
            status := .draft }) }
        pure (some s.returns.next)

def updateReturn (org returnId : UUID) (returnType : Option TaxReturnType)
    (adjustments : ℚ) (updatedByUserId : UUID) : TaxSession PUnit := do
  let s ← get
  let taxReturn ← orRaise (returnOf s org returnId)
    (.valueError "Tax return not found")
  refuse (taxReturn.status ∉ [TaxReturnStatus.draft, .prepared])
    (.valueError ("Cannot edit return in " ++ taxReturn.status.value ++ " status"))
  let period ← orRaise (periodOf s org taxReturn.taxPeriodId)
    (.valueError "Tax period not found")
  refuse (period.status ≠ .open)
    (.valueError ("Tax period is in " ++ period.status.value ++ " status"))
  let newType := returnType.getD taxReturn.returnType
  let existing := (s.returns.select fun r => decide (r.taxPeriodId = taxReturn.taxPeriodId ∧
    r.organizationId = org ∧ r.returnType = newType ∧ r.isAmendment = false)).find?
      fun r => decide (r.id ≠ returnId)
  refuse (∃ r ∈ existing, r.row.status ≠ .draft)
    (.valueError "A return already exists for this period")
  let periodId ← orRaise period.fiscalPeriodId
    (.valueError "Tax period is missing a fiscal period reference")
  set { s with
    returns := s.returns.modify returnId fun taxReturn =>
      { inStatus .prepared
          (withTotals s org periodId updatedByUserId adjustments taxReturn) with
        returnType := newType } }

/-! ### Reviewing, filing and paying -/

def reviewReturn (org returnId reviewedByUserId : UUID) : TaxSession PUnit := do
  let s ← get
  let taxReturn ← orRaise (returnOf s org returnId)
    (.valueError "Tax return not found")
  refuse (taxReturn.status ≠ .prepared)
    (.valueError ("Cannot review return in " ++ taxReturn.status.value ++ " status"))
  refuse (taxReturn.preparedByUserId = some reviewedByUserId)
    (.valueError "Reviewer cannot be the same as preparer (Segregation of Duties)")
  set { s with
    returns := s.returns.modify returnId fun taxReturn => { taxReturn with
      status := .reviewed
      reviewedByUserId := some reviewedByUserId } }

/-- The transactions that filing a return marks: those of the fiscal period of its tax period that
no return includes. -/
def unmarked (org : UUID) (periodId : Option UUID) (t : TaxTransaction) : Bool :=
  decide (t.organizationId = org ∧ some t.fiscalPeriodId = periodId ∧
    t.isIncludedInReturn = false)

def periodText (returnId : UUID) (taxReturn : TaxReturn) : PeriodText :=
  (orNone taxReturn.returnReference).elim (.ofReturn returnId) .typed

def markIncluded (text : PeriodText) (t : TaxTransaction) : TaxTransaction :=
  { t with isIncludedInReturn := true, taxReturnPeriod := some text }

def inPeriodStatus (status : TaxPeriodStatus) (period : TaxPeriod) : TaxPeriod :=
  { period with status }

def fiscalPeriodOf (s : TaxStore) (org : UUID) (taxReturn : TaxReturn) : Option UUID :=
  (periodOf s org taxReturn.taxPeriodId).bind TaxPeriod.fiscalPeriodId

def fileWith (filedByUserId : UUID) (filingReference : Option String) (taxReturn : TaxReturn) :
    TaxReturn :=
  { taxReturn with status := .filed, filedByUserId := some filedByUserId, filingReference }

def setPeriodStatus (s : TaxStore) (org periodId : UUID) (status : TaxPeriodStatus) :
    Table TaxPeriod :=
  if (periodOf s org periodId).isSome then
    s.periods.modify periodId (inPeriodStatus status)
  else s.periods

def marksOf (returnId : UUID) (marked : List (Stored TaxTransaction)) : List (UUID × UUID) :=
  marked.map fun r => (r.id, returnId)

def fileReturn (takes : PeriodText → Bool) (org returnId filedByUserId : UUID)
    (filingReference : Option String) : TaxSession PUnit := do
  let s ← get
  let taxReturn ← orRaise (returnOf s org returnId)
    (.valueError "Tax return not found")
  refuse (taxReturn.status ∉ [TaxReturnStatus.prepared, .reviewed])
    (.valueError ("Cannot file return in " ++ taxReturn.status.value ++ " status"))
  let marked := s.transactions.select
    (unmarked org (fiscalPeriodOf s org taxReturn))
  let text := periodText returnId taxReturn
  refuse (marked ≠ [] ∧ takes text = false)
    (.dataError "value too long for type character varying(20)")
  set { s with
    returns := s.returns.modify returnId (fileWith filedByUserId filingReference)
    periods := setPeriodStatus s org taxReturn.taxPeriodId .filed
    transactions := s.transactions.update
      (unmarked org (fiscalPeriodOf s org taxReturn)) (markIncluded text)
    inclusions := s.inclusions ++ marksOf returnId marked }

def recordPayment (org returnId : UUID) (paymentReference : Option String)
    (journalEntryId : Option UUID) : TaxSession PUnit := do
  let s ← get
  let taxReturn ← orRaise (returnOf s org returnId)
    (.valueError "Tax return not found")
  refuse (taxReturn.status ≠ .filed)
    (.valueError "Return must be filed before payment can be recorded")
  set { s with
    returns := s.returns.modify returnId fun taxReturn => { taxReturn with
      isPaid := true
      paymentReference
      paymentJournalEntryId := journalEntryId }
    periods := setPeriodStatus s org taxReturn.taxPeriodId .paid }

def amendmentOf (originalId : UUID) (original : TaxReturn) (amendmentReason : String)
    (adjustments : ℚ) (preparedByUserId : UUID) : TaxReturn where
  organizationId := original.organizationId
  taxPeriodId := original.taxPeriodId
  jurisdictionId := original.jurisdictionId
  returnType := original.returnType
  totalOutputTax := original.totalOutputTax
  totalInputTax := original.totalInputTax
  netTaxPayable := original.netTaxPayable
  adjustments := halfUp 6 adjustments
  finalAmount := halfUp 6 (original.netTaxPayable + adjustments)
  boxValues := original.boxValues
  status := .draft
  isAmendment := true
  originalReturnId := some originalId
  amendmentReason := some amendmentReason
  preparedByUserId := some preparedByUserId

def createAmendment (org originalReturnId : UUID) (amendmentReason : String)
    (adjustments : ℚ) (preparedByUserId : UUID) : TaxSession UUID := do
  let s ← get
  let original ← orRaise (returnOf s org originalReturnId)
    (.valueError "Original return not found")
  refuse (original.status ≠ .filed) (.valueError "Can only amend filed returns")
  let amended := s.returns.modify originalReturnId (inStatus .amended)
  set { s with
    returns := amended.insert
      (amendmentOf originalReturnId original amendmentReason adjustments preparedByUserId) }
  pure s.returns.next

end TaxReturnService

end DotmacErp.Taxes
