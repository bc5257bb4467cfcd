import DotmacErp.Foundation.Apportion
import DotmacErp.Foundation.Keyed
import DotmacErp.Foundation.Totals
import DotmacErp.GL.Database

/-!
# Contracts with customers

The store and the calls of `ContractService`: a contract has a value and performance obligations,
among which the value is allocated in proportion to their standalone selling prices. Revenue is
recognised in events, as an obligation progresses or when it is satisfied; a modification allocates
a new value, to the obligations that are not satisfied or to all with a catch-up of what was
recognised.

Amounts are exact rationals here. What no call reads (names, accounts, the history of modifications
and the other terms of a contract) is left out; the number of a contract comes with the call.
-/

namespace DotmacErp.Revenue

open Apportion Calendar Relational Session Totals

/-! ### Rows -/

inductive SatisfactionPattern where
  | pointInTime
  | overTime
  deriving DecidableEq

inductive ObligationStatus where
  | notStarted
  | inProgress
  | satisfied
  | cancelled
  deriving DecidableEq

inductive ContractStatus where
  | draft
  | active
  | completed
  | terminated
  | suspended
  deriving DecidableEq

def ContractStatus.value : ContractStatus → String
  | .draft => "DRAFT"
  | .active => "ACTIVE"
  | .completed => "COMPLETED"
  | .terminated => "TERMINATED"
  | .suspended => "SUSPENDED"

structure PerformanceObligation where
  contractId : UUID
  organizationId : UUID
  obligationNumber : ℕ
  satisfactionPattern : SatisfactionPattern
  standaloneSellingPrice : ℚ
  allocatedTransactionPrice : ℚ
  totalSatisfiedAmount : ℚ := 0
  satisfactionPercentage : ℚ := 0
  actualCompletionDate : Option Date := none
  status : ObligationStatus

structure Contract where
  organizationId : UUID
  customerId : UUID
  contractNumber : String
  totalContractValue : Option ℚ
  status : ContractStatus
  approvalStatus : String := "PENDING"

inductive RecognitionType where
  | satisfaction
  | progressUpdate
  | modification

structure RevenueRecognitionEvent where
  obligationId : UUID
  organizationId : UUID
  eventDate : Date
  eventType : RecognitionType
  progressPercentage : ℚ
  amountRecognized : ℚ
  cumulativeRecognized : ℚ

/-- The tables of contract revenue. -/
structure ContractStore where
  customers : Table UUID
  contracts : Table Contract
  obligations : Table PerformanceObligation
  events : List RevenueRecognitionEvent

abbrev ContractSession (α : Type) := Session ServiceError ContractStore α

def PerformanceObligation.IsOf (contractId org : UUID) (o : PerformanceObligation) :
    Prop :=
  o.contractId = contractId ∧ o.organizationId = org

instance (contractId org : UUID) :
    DecidablePred (PerformanceObligation.IsOf contractId org) :=
  fun _ => inferInstanceAs (Decidable (_ ∧ _))

def ContractStore.obligationsOf (s : ContractStore) (contractId org : UUID) :
    List (Stored PerformanceObligation) :=
  s.obligations.select fun o => decide (o.IsOf contractId org)

def ContractStore.recognized (s : ContractStore) (obligationId : UUID) : ℚ :=
  total RevenueRecognitionEvent.amountRecognized RevenueRecognitionEvent.obligationId obligationId
    s.events

/-! ### Inputs -/

structure PerformanceObligationInput where
  satisfactionPattern : SatisfactionPattern
  standaloneSellingPrice : ℚ

structure ContractInput where
  customerId : UUID
  obligations : List PerformanceObligationInput := []
  totalContractValue : Option ℚ := none
  isEnforceable : Bool := true
  hasCommercialSubstance : Bool := true
  collectabilityAssessment : String := "PROBABLE"

inductive ModificationType where
  | prospective
  | cumulativeCatchup
  | separateContract
  deriving DecidableEq

def orElse (value : Option ℚ) (other : ℚ) : ℚ :=
  (value.filter (· ≠ 0)).getD other

namespace ContractService

/-! ### Contracts -/

def loadContract (org contractId : UUID) : ContractSession Contract := do
  let s ← get
  let contract ← orRaise (s.contracts.get? contractId) (.http 404 "Contract not found")
  refuse (contract.organizationId ≠ org) (.http 404 "Contract not found")
  pure contract

def newObligation (contractId org : UUID) (obligationNumber : ℕ) (allocated : ℚ)
    (input : PerformanceObligationInput) : PerformanceObligation where
  contractId := contractId
  organizationId := org
  obligationNumber := obligationNumber
  satisfactionPattern := input.satisfactionPattern
  standaloneSellingPrice := input.standaloneSellingPrice
  allocatedTransactionPrice := allocated
  status := .notStarted

def newObligations (contractId org : UUID) (value : Option ℚ)
    (inputs : List PerformanceObligationInput) : List PerformanceObligation :=
  let totalSsp := (inputs.map PerformanceObligationInput.standaloneSellingPrice).sum
  let transactionPrice := orElse value totalSsp
  (inputs.zipIdx 1).map fun (input, idx) => newObligation contractId org idx
    (share transactionPrice totalSsp inputs.length input.standaloneSellingPrice) input

def createContract (org : UUID) (contractNumber : String) (input : ContractInput) :
    ContractSession UUID := do
  let s ← get
  refuse (s.customers.get? input.customerId ≠ some org)
    (.http 404 "Customer not found")
  refuse (input.isEnforceable = false)
    (.http 400 "Contract must be enforceable for IFRS 15 recognition")
  refuse (input.hasCommercialSubstance = false)
    (.http 400 "Contract must have commercial substance for IFRS 15 recognition")
  refuse (input.collectabilityAssessment ∉ ["PROBABLE", "HIGHLY_PROBABLE"])
    (.http 400 "Collection must be probable for IFRS 15 recognition")
  let contractId := s.contracts.next
  set { s with
    contracts := s.contracts.insert {
      organizationId := org
      customerId := input.customerId
      contractNumber
      totalContractValue := input.totalContractValue
      status := .draft }
    obligations := s.obligations.insertAll
      (newObligations contractId org input.totalContractValue input.obligations) }
  pure contractId

def activateContract (org contractId : UUID) : ContractSession PUnit := do
  let contract ← loadContract org contractId
  refuse (contract.status ≠ .draft)
    (.http 400 ("Cannot activate contract in " ++ contract.status.value ++ " status"))
  let s ← get
  refuse (s.obligationsOf contractId org = [])
    (.http 400 "Contract must have at least one performance obligation")
  set { s with contracts := s.contracts.modify contractId fun c =>
    { c with status := .active, approvalStatus := "APPROVED" } }

def allocate (price : ℚ) (among : List (Stored PerformanceObligation))
    (o : PerformanceObligation) : PerformanceObligation :=
  { o with
    allocatedTransactionPrice := share price
      (among.map fun r => r.row.standaloneSellingPrice).sum among.length
      o.standaloneSellingPrice }

def reallocateTransactionPrice (org contractId : UUID) : ContractSession PUnit := do
  let s ← get
  match s.contracts.get? contractId with
  | none => pure ⟨⟩
  | some contract =>
    if contract.organizationId ≠ org then pure ⟨⟩
    else
      let obligations := s.obligationsOf contractId org
      let totalSsp := (obligations.map fun r => r.row.standaloneSellingPrice).sum
      let transactionPrice := orElse contract.totalContractValue totalSsp
      set { s with
        obligations := s.obligations.update (fun o => decide (o.IsOf contractId org))
          (allocate transactionPrice obligations) }

def addPerformanceObligation (org contractId : UUID)
    (input : PerformanceObligationInput) : ContractSession PUnit := do
  let contract ← loadContract org contractId
  refuse (contract.status ∉ [ContractStatus.draft, ContractStatus.active])
    (.http 400 ("Cannot add obligations to contract in " ++ contract.status.value ++ " status"))
  modify fun s => { s with
    obligations := s.obligations.insert (newObligation contractId org
      ((s.obligationsOf contractId org).length + 1) input.standaloneSellingPrice
      input) }
  reallocateTransactionPrice org contractId

/-! ### Recognition -/

def loadObligation (org obligationId : UUID) :
    ContractSession PerformanceObligation := do
  let s ← get
  let obligation ← orRaise (s.obligations.get? obligationId)
    (.http 404 "Performance obligation not found")
  refuse (obligation.organizationId ≠ org)
    (.http 404 "Performance obligation not found")
  pure obligation

def recognize (event : RevenueRecognitionEvent)
    (change : PerformanceObligation → PerformanceObligation) : ContractSession PUnit :=
  modify fun s => { s with
    obligations := s.obligations.modify event.obligationId change
    events := s.events ++ [event] }

def updateProgress (org obligationId : UUID) (eventDate : Date)
    (progressPercentage : ℚ) : ContractSession PUnit := do
  let obligation ← loadObligation org obligationId
  refuse (obligation.satisfactionPattern ≠ .overTime)
    (.http 400 "Progress updates only apply to over-time obligations")
  refuse (obligation.status = .satisfied) (.http 400 "Obligation is already satisfied")
  let cumulativeRevenue := obligation.allocatedTransactionPrice * (progressPercentage / 100)
  let amountToRecognize := cumulativeRevenue - obligation.totalSatisfiedAmount
  refuse (amountToRecognize < 0) (.http 400 "Progress percentage cannot decrease")
  recognize {
    obligationId
    organizationId := org
    eventDate
    eventType := .progressUpdate
    progressPercentage
    amountRecognized := amountToRecognize
    cumulativeRecognized := cumulativeRevenue } fun o => { o with
      satisfactionPercentage := progressPercentage
      totalSatisfiedAmount := cumulativeRevenue
      status := if 100 ≤ progressPercentage then .satisfied else .inProgress
      actualCompletionDate :=
        if 100 ≤ progressPercentage then some eventDate else o.actualCompletionDate }

def satisfyPointInTime (org obligationId : UUID) (satisfactionDate : Date) :
    ContractSession PUnit := do
  let obligation ← loadObligation org obligationId
  refuse (obligation.satisfactionPattern ≠ .pointInTime)
    (.http 400 "Use update_progress for over-time obligations")
  refuse (obligation.status = .satisfied) (.http 400 "Obligation is already satisfied")
  recognize {
    obligationId
    organizationId := org
    eventDate := satisfactionDate
    eventType := .satisfaction
    progressPercentage := 100
    amountRecognized := obligation.allocatedTransactionPrice - obligation.totalSatisfiedAmount
    cumulativeRecognized := obligation.allocatedTransactionPrice } fun o => { o with
      satisfactionPercentage := 100
      totalSatisfiedAmount := o.allocatedTransactionPrice
      status := .satisfied
      actualCompletionDate := some satisfactionDate }

/-! ### Modification -/

/-- `_reallocate_prospectively`: what the satisfied obligations leave of the value is allocated to
the others. -/
def reallocateProspectively (contractId : UUID) (contract : Contract) (s : ContractStore) :
    ContractStore :=
  let obligations := s.obligationsOf contractId contract.organizationId
  let unsatisfied := obligations.filter fun r => decide (r.row.status ≠ .satisfied)
  let satisfied := obligations.filter fun r => decide (r.row.status = .satisfied)
  let remainingPrice := contract.totalContractValue.getD 0 -
    (satisfied.map fun r => r.row.allocatedTransactionPrice).sum
  { s with
    obligations := s.obligations.update
      (fun o => decide (o.IsOf contractId contract.organizationId ∧ o.status ≠ .satisfied))
      (allocate remainingPrice unsatisfied) }

def earned (o : PerformanceObligation) : ℚ :=
  o.allocatedTransactionPrice * (o.satisfactionPercentage / 100)

def catchupEvent (today : Date) (among : List (Stored PerformanceObligation)) (price : ℚ)
    (r : Stored PerformanceObligation) : Option RevenueRecognitionEvent :=
  let expectedRecognized := earned (allocate price among r.row)
  let adjustment := expectedRecognized - r.row.totalSatisfiedAmount
  if adjustment = 0 then none
  else some {
    obligationId := r.id
    organizationId := r.row.organizationId
    eventDate := today
    eventType := .modification
    progressPercentage := r.row.satisfactionPercentage
    amountRecognized := adjustment
    cumulativeRecognized := expectedRecognized }

def catchUp (o : PerformanceObligation) : PerformanceObligation :=
  { o with totalSatisfiedAmount := earned o }

def reallocateCumulativeCatchup (contractId : UUID) (contract : Contract) (today : Date)
    (s : ContractStore) : ContractStore :=
  let obligations := s.obligationsOf contractId contract.organizationId
  let price := contract.totalContractValue.getD 0
  { s with
    obligations :=
      s.obligations.update (fun o => decide (o.IsOf contractId contract.organizationId))
        (fun o => catchUp (allocate price obligations o))
    events := s.events ++ obligations.filterMap (catchupEvent today obligations price) }

def modifyContract (org contractId : UUID) (newTransactionPrice : Option ℚ)
    (modificationType : ModificationType) (today : Date) : ContractSession PUnit := do
  let contract ← loadContract org contractId
  refuse (contract.status ≠ .active)
    (.http 400 ("Cannot modify contract in " ++ contract.status.value ++ " status"))
  match newTransactionPrice.filter (· ≠ 0) with
  | none => pure ⟨⟩
  | some price => modify fun s =>
    let contract := { contract with totalContractValue := some price }
    let s := { s with contracts := s.contracts.modify contractId fun c =>
      { c with totalContractValue := some price } }
    match modificationType with
    | .prospective => reallocateProspectively contractId contract s
    | .cumulativeCatchup => reallocateCumulativeCatchup contractId contract today s
    | .separateContract => s

def completeContract (org contractId : UUID) : ContractSession PUnit := do
  let _ ← loadContract org contractId
  let s ← get
  let unsatisfied := (s.obligationsOf contractId org).filter fun r =>
    decide (r.row.status ≠ .satisfied)
  refuse (unsatisfied ≠ [])
    (.http 400 (toString unsatisfied.length ++ " performance obligations are not yet satisfied"))
  set { s with contracts := s.contracts.modify contractId fun c =>
    { c with status := .completed } }

end ContractService

end DotmacErp.Revenue
