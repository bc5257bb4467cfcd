import DotmacErp.Foundation.Rounding
import DotmacErp.Foundation.Session
import DotmacErp.GL.Models

/-!
# Appropriations, commitments and virements

The store and the calls of the services for public-sector budgets. An appropriation is authority to
spend, a commitment binds some of it, an obligation and an expenditure are recorded against a
commitment, and a virement moves authority from one appropriation to another one of its fund.

What is available under an appropriation is calculated when it is asked for: its revised amount less
what its commitments bind, not counting those that are cancelled.

Amounts are stored with six decimals and written so in messages. Names, types, dates, cost centers,
periods and source lines are left out.
-/

namespace DotmacErp.Ipsas

open Relational Session Rounding

/-! ### Rows -/

inductive FundStatus where
  | active
  | frozen
  | closed
  deriving DecidableEq

def FundStatus.value : FundStatus → String
  | active => "ACTIVE"
  | frozen => "FROZEN"
  | closed => "CLOSED"

inductive AppropriationStatus where
  | draft
  | submitted
  | approved
  | active
  | lapsed
  | closed
  deriving DecidableEq

def AppropriationStatus.value : AppropriationStatus → String
  | draft => "DRAFT"
  | submitted => "SUBMITTED"
  | approved => "APPROVED"
  | active => "ACTIVE"
  | lapsed => "LAPSED"
  | closed => "CLOSED"

inductive CommitmentType where
  | purchaseOrder
  | contract
  | payroll
  | other

inductive CommitmentStatus where
  | pending
  | committed
  | obligated
  | partiallyPaid
  | expended
  | cancelled
  | lapsed
  deriving DecidableEq

def CommitmentStatus.value : CommitmentStatus → String
  | pending => "PENDING"
  | committed => "COMMITTED"
  | obligated => "OBLIGATED"
  | partiallyPaid => "PARTIALLY_PAID"
  | expended => "EXPENDED"
  | cancelled => "CANCELLED"
  | lapsed => "LAPSED"

inductive VirementStatus where
  | draft
  | submitted
  | approved
  | applied
  | rejected
  deriving DecidableEq

def VirementStatus.value : VirementStatus → String
  | draft => "DRAFT"
  | submitted => "SUBMITTED"
  | approved => "APPROVED"
  | applied => "APPLIED"
  | rejected => "REJECTED"

structure Fund where
  organizationId : UUID
  status : FundStatus := .active

structure Appropriation where
  organizationId : UUID
  fiscalYearId : UUID
  fundId : UUID
  appropriationCode : String
  status : AppropriationStatus := .draft
  approvedAmount : ℚ
  revisedAmount : ℚ
  currencyCode : String
  accountId : Option UUID := none
  createdByUserId : UUID
  approvedByUserId : Option UUID := none

structure Allotment where
  appropriationId : UUID
  organizationId : UUID
  allottedAmount : ℚ

structure Commitment where
  organizationId : UUID
  commitmentNumber : String
  commitmentType : CommitmentType
  status : CommitmentStatus := .pending
  fundId : UUID
  appropriationId : Option UUID := none
  sourceType : String
  sourceId : UUID
  accountId : UUID
  currencyCode : String
  committedAmount : ℚ := 0
  obligatedAmount : ℚ := 0
  expendedAmount : ℚ := 0
  cancelledAmount : ℚ := 0
  createdByUserId : UUID

structure Virement where
  organizationId : UUID
  fiscalYearId : UUID
  virementNumber : String
  status : VirementStatus := .draft
  fromAppropriationId : UUID
  toAppropriationId : UUID
  amount : ℚ
  currencyCode : String
  createdByUserId : UUID
  approvedByUserId : Option UUID := none

/-- The rows of public-sector budgets, with the functional currency of each organization. -/
structure BudgetStore where
  functionalCurrency : UUID → String
  funds : Table Fund
  appropriations : Table Appropriation
  allotments : Table Allotment
  commitments : Table Commitment
  virements : Table Virement

/-- What a call raises. -/
inductive BudgetError where
  | notFound (message : String)
  | validation (message : String)
  | integrity (name : String)

abbrev BudgetSession (α : Type) := Session BudgetError BudgetStore α

/-- The appropriation is approved, or in force. -/
def Appropriation.Granted (a : Appropriation) : Prop :=
  a.status = .approved ∨ a.status = .active

instance (a : Appropriation) : Decidable a.Granted :=
  inferInstanceAs (Decidable (a.status = .approved ∨ a.status = .active))

def Commitment.Standing (c : Commitment) : Prop := c.status ≠ .cancelled ∧ c.status ≠ .lapsed

instance (c : Commitment) : Decidable c.Standing :=
  inferInstanceAs (Decidable (c.status ≠ .cancelled ∧ c.status ≠ .lapsed))

/-! ### What is available -/

/-- `AvailableBalanceResponse`. -/
structure AvailableBalance where
  totalAppropriated : ℚ
  totalAllotted : ℚ
  totalCommitted : ℚ
  totalObligated : ℚ
  totalExpended : ℚ
  availableBalance : ℚ
  currencyCode : String

def asked (filter : Option UUID) (p : UUID → Prop) [DecidablePred p] : Bool :=
  filter.all fun k => decide (p k)

/-- `AvailableBalanceService.calculate`. -/
def calculate (s : BudgetStore) (org : UUID)
    (appropriationId fundId accountId : Option UUID) : AvailableBalance :=
  let inScope := s.appropriations.rows.filter fun r =>
    decide (r.row.organizationId = org) && asked appropriationId (r.id = ·) &&
      asked fundId (r.row.fundId = ·) && asked accountId (r.row.accountId = some ·)
  let allotments := s.allotments.select fun a =>
    decide (a.organizationId = org) && asked appropriationId (a.appropriationId = ·)
  let commitments := s.commitments.select fun c =>
    decide (c.organizationId = org ∧ c.Standing) && asked fundId (c.fundId = ·) &&
      asked appropriationId (c.appropriationId = some ·) && asked accountId (c.accountId = ·)
  let totalAppropriated :=
    ((inScope.filter fun r => decide r.row.Granted).map fun r => r.row.revisedAmount).sum
  let totalCommitted := (commitments.map fun r => r.row.committedAmount).sum -
    (commitments.map fun r => r.row.cancelledAmount).sum
  { totalAppropriated
    totalAllotted := (allotments.map fun r => r.row.allottedAmount).sum
    totalCommitted
    totalObligated := (commitments.map fun r => r.row.obligatedAmount).sum
    totalExpended := (commitments.map fun r => r.row.expendedAmount).sum
    availableBalance := totalAppropriated - totalCommitted
    currencyCode := (inScope.head?.map fun r => r.row.currencyCode).getD
      (s.functionalCurrency org) }

def availableUnder (s : BudgetStore) (org appropriationId : UUID) : ℚ :=
  (calculate s org (some appropriationId) none none).availableBalance

/-! ### Appropriations -/

namespace AppropriationService

structure AppropriationCreate where
  fiscalYearId : UUID
  fundId : UUID
  appropriationCode : String
  approvedAmount : ℚ
  currencyCode : String
  accountId : Option UUID := none

def newAppropriation (org : UUID) (data : AppropriationCreate) (userId : UUID) :
    Appropriation where
  organizationId := org
  fiscalYearId := data.fiscalYearId
  fundId := data.fundId
  appropriationCode := data.appropriationCode
  approvedAmount := halfUp 6 data.approvedAmount
  revisedAmount := halfUp 6 data.approvedAmount
  currencyCode := data.currencyCode
  accountId := data.accountId
  createdByUserId := userId

def create (org : UUID) (data : AppropriationCreate) (userId : UUID) :
    BudgetSession UUID := do
  refuse (data.approvedAmount ≤ 0) (.validation "Approved amount must be greater than zero.")
  let s ← get
  refuse (∃ r ∈ s.appropriations.rows, r.row.organizationId = org ∧
    r.row.appropriationCode = data.appropriationCode) (.integrity "uq_appropriation_code")
  set { s with
    appropriations := s.appropriations.insert (newAppropriation org data userId) }
  pure s.appropriations.next

def approve (appropriationId approverId : UUID) : BudgetSession PUnit := do
  let s ← get
  let approp ← orRaise (s.appropriations.get? appropriationId)
    (.notFound ("Appropriation " ++ appropriationId.str ++ " not found"))
  refuse (approp.status ∉ [AppropriationStatus.draft, .submitted])
    (.validation ("Cannot approve appropriation in " ++ approp.status.value ++ " status"))
  refuse (approp.createdByUserId = approverId)
    (.validation "Segregation of duties: creator cannot approve")
  set { s with
    appropriations := s.appropriations.modify appropriationId fun a => { a with
      status := .approved
      approvedByUserId := some approverId } }

end AppropriationService

/-! ### Commitments -/

namespace CommitmentService

def validateNewCommitment (org fundId : UUID) (appropriationId : Option UUID)
    (amount : ℚ) : BudgetSession PUnit := do
  refuse (amount ≤ 0) (.validation "Committed amount must be greater than zero.")
  let s ← get
  let fund ← orRaise ((s.funds.get? fundId).filter fun f =>
    decide (f.organizationId = org))
      (.notFound ("Fund " ++ fundId.str ++ " not found"))
  refuse (fund.status ≠ .active)
    (.validation ("Cannot commit against a " ++ fund.status.value ++ " fund."))
  match appropriationId with
  | none => pure ⟨⟩
  | some k => do
    let approp ← orRaise ((s.appropriations.get? k).filter fun a =>
      decide (a.organizationId = org))
        (.notFound ("Appropriation " ++ k.str ++ " not found"))
    refuse (¬ approp.Granted)
      (.validation ("Cannot commit against a " ++ approp.status.value ++ " appropriation."))
    refuse (availableUnder s org k < amount)
      (.validation ("Commitment " ++ fixedText 6 amount ++
        " exceeds the appropriation's available balance " ++
        fixedText 6 (availableUnder s org k) ++ "."))

structure CommitmentInput where
  commitmentNumber : String
  fundId : UUID
  accountId : UUID
  amount : ℚ
  currencyCode : String
  createdByUserId : UUID
  appropriationId : Option UUID := none

def newCommitment (commitmentType : CommitmentType) (sourceType : String)
    (sourceId org : UUID) (input : CommitmentInput) : Commitment where
  organizationId := org
  commitmentNumber := input.commitmentNumber
  commitmentType
  status := .committed
  fundId := input.fundId
  appropriationId := input.appropriationId
  sourceType
  sourceId
  accountId := input.accountId
  currencyCode := input.currencyCode
  committedAmount := halfUp 6 input.amount
  createdByUserId := input.createdByUserId

def createFrom (commitmentType : CommitmentType) (sourceType : String)
    (sourceId org : UUID) (input : CommitmentInput) : BudgetSession UUID := do
  validateNewCommitment org input.fundId input.appropriationId input.amount
  let s ← get
  refuse (∃ r ∈ s.commitments.rows, r.row.organizationId = org ∧
    r.row.commitmentNumber = input.commitmentNumber) (.integrity "uq_commitment_number")
  set { s with
    commitments := s.commitments.insert
      (newCommitment commitmentType sourceType sourceId org input) }
  pure s.commitments.next

/-- `create`. The organization stands in for the source. -/
def create (org : UUID) (commitmentType : CommitmentType) (input : CommitmentInput) :
    BudgetSession UUID :=
  createFrom commitmentType "manual" org org input

def createCommitmentFromPo (org poId : UUID) (input : CommitmentInput) :
    BudgetSession UUID :=
  createFrom .purchaseOrder "purchase_order" poId org input

def createCommitmentFromContract (org contractId : UUID) (input : CommitmentInput) :
    BudgetSession UUID :=
  createFrom .contract "contract" contractId org input

def getOr404 (s : BudgetStore) (commitmentId : UUID) : BudgetSession Commitment :=
  orRaise (s.commitments.get? commitmentId)
    (.notFound ("Commitment " ++ commitmentId.str ++ " not found"))

def obligate (amount : ℚ) (c : Commitment) : Commitment :=
  { c with obligatedAmount := halfUp 6 (c.obligatedAmount + amount), status := .obligated }

def recordObligation (commitmentId : UUID) (amount : ℚ) : BudgetSession PUnit := do
  let s ← get
  let commitment ← getOr404 s commitmentId
  refuse (commitment.status ∉ [CommitmentStatus.committed, .obligated])
    (.validation ("Cannot obligate commitment in " ++ commitment.status.value ++ " status"))
  let remaining := commitment.committedAmount - commitment.obligatedAmount -
    commitment.cancelledAmount
  refuse (remaining < amount)
    (.validation ("Obligation amount " ++ fixedText 6 amount ++
      " exceeds remaining committed balance " ++ fixedText 6 remaining))
  set { s with commitments := s.commitments.modify commitmentId (obligate amount) }

def expend (amount : ℚ) (c : Commitment) : Commitment :=
  { c with
    expendedAmount := halfUp 6 (c.expendedAmount + amount)
    status := if c.obligatedAmount ≤ c.expendedAmount + amount then .expended
      else .partiallyPaid }

def recordExpenditure (commitmentId : UUID) (amount : ℚ) : BudgetSession PUnit := do
  let s ← get
  let commitment ← getOr404 s commitmentId
  refuse (commitment.status ∉ [CommitmentStatus.obligated, .partiallyPaid])
    (.validation ("Cannot expend commitment in " ++ commitment.status.value ++ " status"))
  let remaining := commitment.obligatedAmount - commitment.expendedAmount
  refuse (remaining < amount)
    (.validation ("Expenditure amount " ++ fixedText 6 amount ++
      " exceeds remaining obligated balance " ++ fixedText 6 remaining))
  set { s with commitments := s.commitments.modify commitmentId (expend amount) }

def cancelAll (c : Commitment) : Commitment :=
  { c with
    cancelledAmount := c.committedAmount - c.obligatedAmount - c.expendedAmount
    status := .cancelled }

def cancelSome (amount : ℚ) (c : Commitment) : Commitment :=
  { c with cancelledAmount := halfUp 6 (c.cancelledAmount + amount) }

def cancelCommitment (commitmentId : UUID) (amount : Option ℚ) : BudgetSession PUnit := do
  let s ← get
  let commitment ← getOr404 s commitmentId
  refuse (commitment.status ∈ [CommitmentStatus.expended, .cancelled, .lapsed])
    (.validation ("Cannot cancel commitment in " ++ commitment.status.value ++ " status"))
  match amount with
  | none => set { s with commitments := s.commitments.modify commitmentId cancelAll }
  | some amount => do
    let available := commitment.committedAmount - commitment.obligatedAmount -
      commitment.expendedAmount - commitment.cancelledAmount
    refuse (available < amount)
      (.validation ("Cancel amount " ++ fixedText 6 amount ++ " exceeds available balance " ++
        fixedText 6 available))
    set { s with commitments := s.commitments.modify commitmentId (cancelSome amount) }

end CommitmentService

/-! ### Virements -/

namespace VirementService

structure VirementCreate where
  fiscalYearId : UUID
  fromAppropriationId : UUID
  toAppropriationId : UUID
  amount : ℚ
  currencyCode : String

def newVirement (org : UUID) (data : VirementCreate) (userId : UUID)
    (virementNumber : String) : Virement where
  organizationId := org
  fiscalYearId := data.fiscalYearId
  virementNumber
  fromAppropriationId := data.fromAppropriationId
  toAppropriationId := data.toAppropriationId
  amount := halfUp 6 data.amount
  currencyCode := data.currencyCode
  createdByUserId := userId

def create (org : UUID) (data : VirementCreate) (userId : UUID)
    (virementNumber : String) : BudgetSession UUID := do
  refuse (data.fromAppropriationId = data.toAppropriationId)
    (.validation "Source and destination appropriations must be different")
  refuse (data.amount ≤ 0) (.validation "Virement amount must be greater than zero.")
  let s ← get
  refuse (∃ r ∈ s.virements.rows, r.row.organizationId = org ∧
    r.row.virementNumber = virementNumber) (.integrity "uq_virement_number")
  set { s with
    virements := s.virements.insert (newVirement org data userId virementNumber) }
  pure s.virements.next

def approve (virementId approverId : UUID) : BudgetSession PUnit := do
  let s ← get
  let virement ← orRaise (s.virements.get? virementId)
    (.notFound ("Virement " ++ virementId.str ++ " not found"))
  refuse (virement.status ∉ [VirementStatus.draft, .submitted])
    (.validation ("Cannot approve virement in " ++ virement.status.value ++ " status"))
  refuse (virement.createdByUserId = approverId)
    (.validation "Segregation of duties: creator cannot approve")
  set { s with
    virements := s.virements.modify virementId fun v => { v with
      status := .approved
      approvedByUserId := some approverId } }

def revise (amount : ℚ) (a : Appropriation) : Appropriation :=
  { a with revisedAmount := a.revisedAmount + amount }

def apply (virementId : UUID) : BudgetSession PUnit := do
  let s ← get
  let virement ← orRaise (s.virements.get? virementId)
    (.notFound ("Virement " ++ virementId.str ++ " not found"))
  refuse (virement.status ≠ .approved)
    (.validation ("Cannot apply virement in " ++ virement.status.value ++ " status"))
  let missing := BudgetError.validation "Source or destination appropriation not found"
  let source ← orRaise (s.appropriations.get? virement.fromAppropriationId) missing
  let destination ← orRaise (s.appropriations.get? virement.toAppropriationId) missing
  refuse (source.organizationId ≠ virement.organizationId ∨
      destination.organizationId ≠ virement.organizationId)
    (.validation "Appropriations must belong to the same organization")
  refuse (source.fiscalYearId ≠ virement.fiscalYearId ∨
      destination.fiscalYearId ≠ virement.fiscalYearId)
    (.validation "Appropriations must be in the same fiscal year as the virement")
  refuse (source.currencyCode ≠ virement.currencyCode ∨
      destination.currencyCode ≠ virement.currencyCode)
    (.validation "Appropriation currency must match virement currency")
  refuse (source.fundId ≠ destination.fundId)
    (.validation "Virement cannot move budget between different funds.")
  let available := availableUnder s virement.organizationId virement.fromAppropriationId
  refuse (available < virement.amount)
    (.validation ("Insufficient available balance in source appropriation " ++
      source.appropriationCode ++ ": available " ++ fixedText 6 available ++ ", requested " ++
      fixedText 6 virement.amount))
  set { s with
    appropriations :=
      (s.appropriations.modify virement.fromAppropriationId (revise (-virement.amount))).modify
        virement.toAppropriationId (revise virement.amount)
    virements := s.virements.modify virementId fun v => { v with status := .applied } }

end VirementService

end DotmacErp.Ipsas
