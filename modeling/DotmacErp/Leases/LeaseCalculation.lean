import DotmacErp.Foundation.Annuities
import DotmacErp.Foundation.Rounding
import DotmacErp.Foundation.Session
import DotmacErp.GL.Models

/-!
# Lease calculations

`LeaseCalculationService`: the present value of an annuity, the initial liability of a lease, and
its amortization schedule.

The present value is in cents, except at the rate zero, where the payments are added up as they are.
At a rate of minus one the powers are not defined and the call raises.

The liability is made of the payments, of a residual value guarantee and of the price of a purchase
option that is reasonably certain. The schedule knows the payments only: it charges interest in
cents on the balance and takes the rest of each payment off it, and the last line takes off what is
left. Its loop never starts, though: the term is a numeric column, so it is read back as a decimal,
and `range` takes integers (`rounds`).
-/

namespace DotmacErp.Leases

open Calendar Relational Rounding

inductive LeaseStatus
  | draft
  | active
  | modified
  | terminated
  | expired
  deriving DecidableEq

def LeaseStatus.value : LeaseStatus → String
  | .draft => "DRAFT"
  | .active => "ACTIVE"
  | .modified => "MODIFIED"
  | .terminated => "TERMINATED"
  | .expired => "EXPIRED"

/-- `LeaseContract`, with what the calculations and modifications read. -/
structure LeaseContract where
  organizationId : UUID
  status : LeaseStatus
  commencementDate : Date
  leaseTermMonths : ℤ
  paymentFrequency : String
  paymentTiming : String := "ADVANCE"
  basePaymentAmount : ℚ
  residualValueGuarantee : ℚ := 0
  purchaseOptionPrice : Option ℚ := none
  purchaseReasonablyCertain : Bool := false
  discountRateUsed : ℚ
  deriving DecidableEq

/-- `LeaseLiability`, with what the calculations and modifications read and write. -/
structure LeaseLiability where
  leaseId : UUID
  initialLiabilityAmount : ℚ
  discountRate : ℚ
  currentLiabilityBalance : ℚ
  deriving DecidableEq

/-- What the services raise: an HTTP error, an operation on decimals that is not defined, or a
decimal where an integer is needed. -/
inductive LeaseError
  | http (statusCode : ℕ) (detail : String)
  | invalidOperation
  | typeError

/-! ### Present values -/

def calculatePv (payment rate : ℚ) (periods : ℤ) (paymentTiming : String := "ADVANCE") :
    Except LeaseError ℚ :=
  if periods ≤ 0 ∨ payment = 0 then .ok 0
  else if rate = 0 then .ok (payment * periods)
  else if 1 + rate = 0 then .error .invalidOperation
  else
    let pvFactor := (1 - (1 + rate) ^ (-periods)) / rate
    let pv := payment * pvFactor
    .ok (halfUp 2 (if paymentTiming = "ADVANCE" then pv * (1 + rate) else pv))

def calculatePvSingle (amount rate : ℚ) (periods : ℤ) : Except LeaseError ℚ :=
  if periods ≤ 0 then .ok amount
  else if rate = 0 then .ok amount
  else if 1 + rate = 0 then .error .invalidOperation
  else .ok (halfUp 2 (amount / (1 + rate) ^ periods))

/-- `get_periods_per_year`, of a frequency in capitals. -/
def getPeriodsPerYear (upper : String → String) (frequency : String) : ℤ :=
  if upper frequency = "MONTHLY" then 12
  else if upper frequency = "QUARTERLY" then 4
  else if upper frequency = "SEMI_ANNUAL" then 2
  else if upper frequency = "ANNUAL" then 1
  else 12

def LeaseContract.periodicRate (upper : String → String) (contract : LeaseContract) : ℚ :=
  contract.discountRateUsed / getPeriodsPerYear upper contract.paymentFrequency

/-- The number of payment periods: the term is a decimal, whose floor division truncates. -/
def LeaseContract.totalPeriods (upper : String → String) (contract : LeaseContract) : ℤ :=
  contract.leaseTermMonths.tdiv (12 / getPeriodsPerYear upper contract.paymentFrequency)

def LeaseContract.purchasePrice (contract : LeaseContract) : ℚ :=
  if contract.purchaseReasonablyCertain then contract.purchaseOptionPrice.getD 0 else 0

structure LiabilityCalculationResult where
  totalLiability : ℚ
  pvFixedPayments : ℚ
  pvVariablePayments : ℚ
  pvResidualGuarantee : ℚ
  pvPurchaseOption : ℚ
  currentPortion : ℚ
  nonCurrentPortion : ℚ
  totalPayments : ℚ
  totalInterest : ℚ

def lumpValue (isThere : Bool) (amount rate : ℚ) (periods : ℤ) : Except LeaseError ℚ :=
  if isThere then calculatePvSingle amount rate periods else .ok 0

def calculateInitialLiability (upper : String → String) (contract : LeaseContract) :
    Except LeaseError LiabilityCalculationResult := do
  let periodsPerYear := getPeriodsPerYear upper contract.paymentFrequency
  let periodicRate := contract.periodicRate upper
  let totalPeriods := contract.totalPeriods upper
  let pvFixed ← calculatePv contract.basePaymentAmount periodicRate totalPeriods
    contract.paymentTiming
  let pvVariable : ℚ := 0
  let pvResidual ← lumpValue (0 < contract.residualValueGuarantee)
    contract.residualValueGuarantee periodicRate totalPeriods
  let pvPurchase ← lumpValue (contract.purchasePrice ≠ 0)
    contract.purchasePrice periodicRate totalPeriods
  let totalLiability := pvFixed + pvVariable + pvResidual + pvPurchase
  let totalPayments := contract.basePaymentAmount * totalPeriods +
    contract.residualValueGuarantee + contract.purchasePrice
  let periodsInYear := min periodsPerYear totalPeriods
  let currentPortion :=
    if 0 < totalPeriods then
      min (totalLiability / totalPeriods * periodsInYear) totalLiability
    else totalLiability
  pure
    { totalLiability
      pvFixedPayments := pvFixed
      pvVariablePayments := pvVariable
      pvResidualGuarantee := pvResidual
      pvPurchaseOption := pvPurchase
      currentPortion
      nonCurrentPortion := totalLiability - currentPortion
      totalPayments
      totalInterest := totalPayments - totalLiability }

/-! ### The schedule -/

structure PaymentScheduleEntry where
  period : ℕ
  paymentDate : Date
  openingBalance : ℚ
  paymentAmount : ℚ
  interestExpense : ℚ
  principalReduction : ℚ
  closingBalance : ℚ

/-- The months from one payment to the next. -/
def LeaseContract.periodDelta (contract : LeaseContract) : ℕ :=
  if contract.paymentFrequency = "MONTHLY" then 1
  else if contract.paymentFrequency = "QUARTERLY" then 3
  else if contract.paymentFrequency = "SEMI_ANNUAL" then 6
  else 12

def LeaseContract.interestOf (upper : String → String) (contract : LeaseContract) (period : ℕ)
    (openingBalance : ℚ) : ℚ :=
  if contract.paymentTiming = "ADVANCE" ∧ period = 1 then 0
  else halfUp 2 (openingBalance * contract.periodicRate upper)

def scheduleFrom (upper : String → String) (contract : LeaseContract) :
    ℕ → ℕ → ℚ → Date → List PaymentScheduleEntry
  | 0, _, _, _ => []
  | left + 1, period, openingBalance, paymentDate =>
    let interest := contract.interestOf upper period openingBalance
    let isLast := left = 0
    let principal := if isLast then openingBalance else contract.basePaymentAmount - interest
    let closingBalance :=
      if isLast then 0 else openingBalance - (contract.basePaymentAmount - interest)
    { period
      paymentDate
      openingBalance
      paymentAmount := contract.basePaymentAmount
      interestExpense := interest
      principalReduction := principal
      closingBalance := max 0 closingBalance } ::
    scheduleFrom upper contract left (period + 1) closingBalance
      (paymentDate.addMonths contract.periodDelta)

/-- A whole number as the interpreter holds it: an integer, or the decimal that a numeric column
is read as. -/
inductive WholeNumber
  | int (n : ℤ)
  | decimal (n : ℤ)

/-- The rounds of a loop over `range(1, stop)`. -/
def rounds : WholeNumber → Except LeaseError ℕ
  | .int stop => .ok (stop - 1).toNat
  | .decimal _ => .error .typeError

def generateAmortizationSchedule (upper : String → String) (contracts : Table LeaseContract)
    (liabilities : Table LeaseLiability) (leaseId : UUID) :
    Except LeaseError (List PaymentScheduleEntry) :=
  match contracts.get? leaseId with
  | none => .error (.http 404 "Lease contract not found")
  | some contract =>
    match liabilities.find? fun liability => decide (liability.leaseId = leaseId) with
    | none => .error (.http 404 "Lease liability not found")
    | some liability => do
      -- the term of a contract that is read back is a decimal, and so is the number of periods
      let periods ← rounds (.decimal (contract.totalPeriods upper + 1))
      pure (scheduleFrom upper contract periods 1 liability.row.initialLiabilityAmount
        contract.commencementDate)

/-! ### The value of an annuity -/

def annuity (paymentTiming : String) (rate : ℚ) (periods : ℕ) : ℚ :=
  if paymentTiming = "ADVANCE" then Annuities.due rate periods
  else Annuities.ordinary rate periods

def measured (rate amount : ℚ) : ℚ := if rate = 0 then amount else halfUp 2 amount

/-- An annuity whose present value is defined. -/
def IsMeasurable (payment rate : ℚ) (periods : ℤ) : Prop :=
  1 + rate ≠ 0 ∨ payment = 0 ∨ periods ≤ 0

def LeaseContract.paymentsValue (upper : String → String) (contract : LeaseContract) : ℚ :=
  measured (contract.periodicRate upper) (contract.basePaymentAmount *
    annuity contract.paymentTiming (contract.periodicRate upper)
      (contract.totalPeriods upper).toNat)

section PresentValues

variable {payment rate : ℚ} {periods : ℤ}

@[simp] theorem measured_zero (rate : ℚ) : measured rate 0 = 0 := by
  rw [measured, halfUp_zero, ite_self]

/-- **The present value of an annuity** is what its payments are worth. -/
theorem calculatePv_eq_ok (h : IsMeasurable payment rate periods) (paymentTiming : String) :
    calculatePv payment rate periods paymentTiming =
      .ok (measured rate (payment * annuity paymentTiming rate periods.toNat)) := by
  by_cases htrivial : periods ≤ 0 ∨ payment = 0
  · have hworth : payment * annuity paymentTiming rate periods.toNat = 0 := by
      rcases htrivial with hperiods | hpayment
      · rw [Int.toNat_of_nonpos hperiods, annuity]
        simp
      · rw [hpayment, zero_mul]
    rw [calculatePv, if_pos htrivial, hworth, measured_zero]
  · have hpositive : 0 < periods := not_le.mp fun h => htrivial (Or.inl h)
    obtain ⟨n, rfl⟩ := Int.eq_ofNat_of_zero_le hpositive.le
    rw [calculatePv, if_neg htrivial, measured, annuity, Int.toNat_natCast]
    by_cases hzero : rate = 0
    · rw [if_pos hzero, if_pos hzero, hzero, Annuities.due_rate_zero,
        Annuities.ordinary_rate_zero, ite_self, Int.cast_natCast]
    · have hminus : 1 + rate ≠ 0 := by
        rcases h with h | h | h
        · exact h
        · exact absurd (Or.inr h) htrivial
        · exact absurd (Or.inl h) htrivial
      have hfactor : (1 - (1 + rate) ^ (-(n : ℤ))) / rate = Annuities.ordinary rate n := by
        rw [zpow_neg, zpow_natCast, ← inv_pow]
        exact Annuities.closedForm_eq hzero hminus n
      rw [if_neg hzero, if_neg hminus, if_neg hzero, hfactor]
      dsimp only
      split_ifs
      · rw [mul_assoc, Annuities.ordinary_mul hminus]
      · rfl

theorem calculatePv_of_not_measurable (h : ¬ IsMeasurable payment rate periods)
    (paymentTiming : String) :
    calculatePv payment rate periods paymentTiming = .error .invalidOperation := by
  rw [IsMeasurable, not_or, not_or, not_not] at h
  obtain ⟨hminus, hpayment, hperiods⟩ := h
  have hrate : rate ≠ 0 := by
    rintro rfl
    norm_num at hminus
  rw [calculatePv, if_neg (not_or.mpr ⟨hperiods, hpayment⟩), if_neg hrate, if_pos hminus]

variable {upper : String → String} {contract : LeaseContract}

theorem calculateInitialLiability_eq (hresidual : ¬ 0 < contract.residualValueGuarantee)
    (hpurchase : contract.purchasePrice = 0) (total : ℚ) :
    (∃ result, calculateInitialLiability upper contract = .ok result ∧
      result.totalLiability = total) ↔
      calculatePv contract.basePaymentAmount (contract.periodicRate upper)
        (contract.totalPeriods upper) contract.paymentTiming = .ok total := by
  have hresidual' : decide (0 < contract.residualValueGuarantee) = false :=
    decide_eq_false hresidual
  have hpurchase' : decide (contract.purchasePrice ≠ 0) = false :=
    decide_eq_false (not_not.mpr hpurchase)
  rw [calculateInitialLiability]
  simp only [lumpValue, hresidual', hpurchase', Bool.false_eq_true, if_false]
  cases calculatePv contract.basePaymentAmount (contract.periodicRate upper)
      (contract.totalPeriods upper) contract.paymentTiming with
  | error e =>
    refine iff_of_false ?_ (by simp)
    rintro ⟨result, h, -⟩
    cases h
  | ok pvFixed =>
    simp only [bind, Except.bind, pure, Except.pure, add_zero]
    constructor
    · rintro ⟨result, h, rfl⟩
      obtain rfl := Except.ok.inj h
      rfl
    · intro h
      exact ⟨_, rfl, Except.ok.inj h⟩

end PresentValues

end DotmacErp.Leases
