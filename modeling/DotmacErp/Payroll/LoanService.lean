import DotmacErp.Foundation.SignificantDigits
import DotmacErp.Foundation.Session
import DotmacErp.GL.Models
import Mathlib.Data.List.Sort

/-!
# Employee loans

`LoanService`: a loan is applied for, approved and disbursed, and then paid back through payroll
deductions and manual payments. A deduction is computed when a salary slip is generated
(`getDueDeductions`) and recorded when the slip is approved (`recordPayrollDeduction`), so that
the balance it was computed from need not be the balance it is recorded against.

Amounts are two-decimal numbers in the database, which rounds what it is given (`currency`); the
service rounds most of them itself before. Their sums are exact, within what the columns hold, and
quotients and what is multiplied by them have 28 digits. The day of a call and the
number drawn for a new loan come with the call. Texts of a loan nobody reads (its purpose, notes
and references), the users and the events are left out.
-/

namespace DotmacErp.Payroll

open Calendar Relational Session
open Rounding (decimal decimalPower)

/-- `_round_currency`, and a value as a `Numeric(18, 2)` column keeps it. -/
abbrev currency (q : ℚ) : ℚ := Rounding.halfUp 2 q

inductive InterestMethod where
  | none
  | flat
  | reducingBalance
  deriving DecidableEq

inductive LoanStatus where
  | draft
  | pending
  | approved
  | disbursed
  | completed
  | writtenOff
  | cancelled
  | rejected
  deriving DecidableEq

def LoanStatus.value : LoanStatus → String
  | .draft => "DRAFT"
  | .pending => "PENDING"
  | .approved => "APPROVED"
  | .disbursed => "DISBURSED"
  | .completed => "COMPLETED"
  | .writtenOff => "WRITTEN_OFF"
  | .cancelled => "CANCELLED"
  | .rejected => "REJECTED"

inductive EmployeeStatus where
  | draft
  | active
  | onLeave
  | suspended
  | resigned
  | terminated
  | retired
  deriving DecidableEq

def EmployeeStatus.value : EmployeeStatus → String
  | .draft => "DRAFT"
  | .active => "ACTIVE"
  | .onLeave => "ON_LEAVE"
  | .suspended => "SUSPENDED"
  | .resigned => "RESIGNED"
  | .terminated => "TERMINATED"
  | .retired => "RETIRED"

structure Employee where
  organizationId : UUID
  fullName : String
  status : EmployeeStatus
  dateOfJoining : Option Date := none
  probationEndDate : Option Date := none
  confirmationDate : Option Date := none

structure LoanType where
  organizationId : UUID
  typeName : String
  maxAmount : Option ℚ := none
  minAmount : ℚ := 0
  maxTenureMonths : ℤ := 12
  minTenureMonths : ℤ := 1
  interestMethod : InterestMethod := .none
  defaultInterestRate : ℚ := 0
  minServiceMonths : ℤ := 0
  requiresApproval : Bool := true
  isActive : Bool := true

structure EmployeeLoan where
  organizationId : UUID
  loanNumber : String
  employeeId : UUID
  loanTypeId : Option UUID
  principalAmount : ℚ
  interestRate : ℚ
  totalInterest : ℚ
  totalRepayable : ℚ
  tenureMonths : ℤ
  monthlyInstallment : ℚ
  installmentsPaid : ℕ := 0
  principalPaid : ℚ := 0
  interestPaid : ℚ := 0
  outstandingBalance : ℚ
  disbursementDate : Option Date := none
  firstRepaymentDate : Option Date
  completionDate : Option Date := none
  status : LoanStatus

/-- `RepaymentType`, as far as the service writes it. -/
inductive RepaymentType where
  | payrollDeduction
  | manualPayment
  deriving DecidableEq

structure LoanRepayment where
  loanId : UUID
  repaymentType : RepaymentType
  repaymentDate : Date
  amount : ℚ
  principalPortion : ℚ
  interestPortion : ℚ
  balanceAfter : ℚ
  salarySlipId : Option UUID

structure SalarySlip where
  startDate : Date
  endDate : Date
  cancelled : Bool

structure SalarySlipLoanDeduction where
  slipId : UUID
  loanId : UUID
  amount : ℚ
  principalPortion : ℚ
  interestPortion : ℚ
  repaymentId : Option UUID

inductive LoanError where
  | http (statusCode : ℕ) (detail : String)
  | value (message : String)
  | runtime (message : String)
  | arithmetic
  | integrity (constraint : String)
  deriving DecidableEq

/-- The tables of the loans of employees. -/
structure LoanStore where
  employees : Table Employee := Table.empty
  loanTypes : Table LoanType := Table.empty
  loans : Table EmployeeLoan := Table.empty
  repayments : Table LoanRepayment := Table.empty
  slips : Table SalarySlip := Table.empty
  slipDeductions : Table SalarySlipLoanDeduction := Table.empty

/-- A program on the payroll tables. -/
abbrev LoanSession := Session LoanError LoanStore

/-- What was worked out, or its error. -/
def ofExcept {α : Type} : Except LoanError α → LoanSession α
  | .ok a => pure a
  | .error e => throw e

structure LoanDeductionItem where
  loanId : UUID
  loanNumber : String
  loanTypeName : String
  amount : ℚ
  principalPortion : ℚ
  interestPortion : ℚ
  balanceAfter : ℚ
  isFinalPayment : Bool
  deriving DecidableEq

/-- `LoanApplicationInput`, with the number drawn for the loan and the day of the application. -/
structure LoanApplicationInput where
  employeeId : UUID
  principalAmount : ℚ
  tenureMonths : ℤ
  loanTypeId : Option UUID := none
  interestRate : Option ℚ := none
  interestMethod : InterestMethod := .none
  firstRepaymentDate : Option Date := none
  loanNumber : String
  today : Date

namespace LoanService

/-! ### Terms -/

structure LoanTerms where
  totalInterest : ℚ
  totalRepayable : ℚ
  monthlyInstallment : ℚ

/-- The rate of a month of a yearly rate in percent. -/
def monthlyRate (interestRate : ℚ) : ℚ := decimal (decimal (interestRate / 100) / 12)

/-- The terms of a loan of at least one month. A rate too small for the digits of the context
leaves nothing to divide by. -/
def calculateLoanTerms (principal : ℚ) (tenureMonths : ℤ) (interestRate : ℚ)
    (interestMethod : InterestMethod) : Except LoanError LoanTerms :=
  let withoutInterest : LoanTerms := ⟨0, principal, currency (decimal (principal / tenureMonths))⟩
  if interestMethod = .none ∨ interestRate = 0 then .ok withoutInterest
  else if interestMethod = .flat then
    let years := decimal (tenureMonths / 12)
    let annualRate := decimal (interestRate / 100)
    let totalInterest := currency (decimal (decimal (principal * annualRate) * years))
    let totalRepayable := principal + totalInterest
    .ok ⟨totalInterest, totalRepayable, currency (decimal (totalRepayable / tenureMonths))⟩
  else if monthlyRate interestRate > 0 then
    let factor := decimalPower (decimal (1 + monthlyRate interestRate)) tenureMonths.toNat
    if decimal (factor - 1) = 0 then .error .arithmetic
    else
      let interest := decimal (decimal (principal * monthlyRate interestRate) * factor)
      let monthlyInstallment := currency (decimal (interest / decimal (factor - 1)))
      let totalRepayable := currency (monthlyInstallment * tenureMonths)
      .ok ⟨totalRepayable - principal, totalRepayable, monthlyInstallment⟩
  else .ok withoutInterest

/-! ### Applications -/

def calculateServiceMonths (employee : Employee) (today : Date) : ℤ :=
  match employee.dateOfJoining with
  | none => 0
  | some joined =>
    max 0 (((today.year : ℤ) - joined.year) * 12 + ((today.month : ℤ) - joined.month))

/-- `is_on_probation`: the day until which the employee is on probation. -/
def onProbationUntil (employee : Employee) (today : Date) : Option Date :=
  match employee.confirmationDate with
  | some _ => none
  | none => employee.probationEndDate.filter (today ≤ ·)

/-- `EmployeeStatusValidator.validate_operation`, of a loan application. -/
def validateLoanApplication (employee : Employee) (today : Date) : LoanSession PUnit := do
  let subject := "Cannot perform loan_application for " ++ employee.fullName ++ ": "
  refuse (employee.status ≠ .active) (.http 400 (subject ++ "employee status is " ++
    employee.status.value ++ ". Allowed statuses: ACTIVE"))
  match onProbationUntil employee today with
  | some day => throw (.http 400 (subject ++ "employee is on probation until " ++ day.iso))
  | none => pure ⟨⟩

def admittingLoanType (org : UUID) (employee : Employee)
    (input : LoanApplicationInput) (typeId : UUID) : LoanSession LoanType := do
  let s ← get
  let loanType ← orRaise ((s.loanTypes.get? typeId).filter (·.organizationId = org))
    (.http 404 "Loan type not found")
  refuse (loanType.isActive = false) (.http 400 "Loan type is not active")
  refuse (input.principalAmount < loanType.minAmount)
    (.http 400 ("Amount must be at least " ++ Rounding.fixedText 2 loanType.minAmount))
  let maxAmount := loanType.maxAmount.filter (· ≠ 0)
  refuse (maxAmount.any fun maximum => input.principalAmount > maximum)
    (.http 400 ("Amount cannot exceed " ++ Rounding.fixedText 2 (maxAmount.getD 0)))
  refuse (input.tenureMonths < loanType.minTenureMonths)
    (.http 400 s!"Tenure must be at least {loanType.minTenureMonths} months")
  refuse (input.tenureMonths > loanType.maxTenureMonths)
    (.http 400 s!"Tenure cannot exceed {loanType.maxTenureMonths} months")
  refuse (loanType.minServiceMonths > 0 ∧
      calculateServiceMonths employee input.today < loanType.minServiceMonths)
    (.http 400 s!"Employee must have at least {loanType.minServiceMonths} months of service")
  refuse (s.loans.find? fun loan => loan.employeeId = input.employeeId &&
      loan.loanTypeId = some typeId && loan.status = .disbursed).isSome
    (.http 400 ("Employee already has an active " ++ loanType.typeName ++ " loan"))
  pure loanType

/-- The interest rate, its method and whether the loan is to be approved: those of the loan type,
or else the application's own. -/
def resolveInterest (org : UUID) (employee : Employee) (input : LoanApplicationInput) :
    LoanSession (ℚ × InterestMethod × Bool) :=
  match input.loanTypeId with
  | some typeId => do
    let loanType ← admittingLoanType org employee input typeId
    pure (loanType.defaultInterestRate, loanType.interestMethod, loanType.requiresApproval)
  | none => pure (input.interestRate.getD 0, input.interestMethod, true)

def createLoan (org : UUID) (input : LoanApplicationInput) : LoanSession UUID := do
  let s ← get
  let employee ← orRaise ((s.employees.get? input.employeeId).filter
    (·.organizationId = org)) (.http 404 "Employee not found")
  validateLoanApplication employee input.today
  let (interestRate, interestMethod, requiresApproval) ←
    resolveInterest org employee input
  refuse (input.principalAmount ≤ 0) (.http 400 "Principal amount must be positive")
  refuse (input.tenureMonths < 1) (.http 400 "Tenure must be at least 1 month")
  let terms ← ofExcept
    (calculateLoanTerms input.principalAmount input.tenureMonths interestRate interestMethod)
  refuse (s.loans.find? fun loan => loan.organizationId = org &&
      loan.loanNumber = input.loanNumber).isSome (.integrity "uq_employee_loan_number")
  set { s with loans := s.loans.insert {
    organizationId := org
    loanNumber := input.loanNumber
    employeeId := input.employeeId
    loanTypeId := input.loanTypeId
    principalAmount := currency input.principalAmount
    interestRate := currency interestRate
    totalInterest := currency terms.totalInterest
    totalRepayable := currency terms.totalRepayable
    tenureMonths := input.tenureMonths
    monthlyInstallment := currency terms.monthlyInstallment
    outstandingBalance := currency terms.totalRepayable
    firstRepaymentDate := some (input.firstRepaymentDate.getD (input.today.monthStart.addMonths 1))
    status := if requiresApproval then .pending else .approved } }
  pure s.loans.next

def getLoan (org loanId : UUID) : LoanSession EmployeeLoan := do
  let s ← get
  orRaise ((s.loans.get? loanId).filter (·.organizationId = org))
    (.http 404 "Loan not found")

def modifyLoan (loanId : UUID) (f : EmployeeLoan → EmployeeLoan) : LoanSession PUnit :=
  modify fun s => { s with loans := s.loans.modify loanId f }

def changeStatus (verb : String) (source : LoanStatus) (org loanId : UUID)
    (change : EmployeeLoan → EmployeeLoan) : LoanSession PUnit := do
  let loan ← getLoan org loanId
  refuse (loan.status ≠ source)
    (.http 400 ("Cannot " ++ verb ++ " loan with status: " ++ loan.status.value))
  modifyLoan loanId change

def approveLoan (org loanId : UUID) : LoanSession PUnit :=
  changeStatus "approve" .pending org loanId fun loan =>
    { loan with status := .approved }

def rejectLoan (org loanId : UUID) : LoanSession PUnit :=
  changeStatus "reject" .pending org loanId fun loan =>
    { loan with status := .rejected }

def disburseLoan (org loanId : UUID) (today : Date) : LoanSession PUnit :=
  changeStatus "disburse" .approved org loanId fun loan =>
    { loan with status := .disbursed, disbursementDate := some today }

/-! ### Deductions due -/

def dateOrder (d e : Option Date) : Prop := e = none ∨ ∃ x ∈ d, ∀ y ∈ e, x ≤ y

instance (d e : Option Date) : Decidable (dateOrder d e) :=
  match d, e with
  | _, none => isTrue (Or.inl rfl)
  | none, some _ => isFalse (by simp [dateOrder])
  | some x, some y => decidable_of_iff (x ≤ y) (by simp [dateOrder])

def getActiveLoansForEmployee (s : LoanStore) (employeeId : UUID)
    (organizationId : Option UUID) : List (Stored EmployeeLoan) :=
  (s.loans.select fun loan => loan.employeeId = employeeId && loan.status = .disbursed &&
    loan.outstandingBalance > 0 && organizationId.all fun org =>
      loan.organizationId = org).insertionSort fun a b =>
        dateOrder a.row.disbursementDate b.row.disbursementDate

def hasRepaymentInPeriod (s : LoanStore) (loanId : UUID) (periodStart periodEnd : Date) : Bool :=
  (s.repayments.find? fun repayment => repayment.loanId = loanId &&
    repayment.repaymentType = .payrollDeduction && periodStart ≤ repayment.repaymentDate &&
      repayment.repaymentDate ≤ periodEnd).isSome

def hasLinkedSlipDeductionInPeriod (s : LoanStore) (loanId : UUID) (periodStart periodEnd : Date)
    (excludeSlipId : Option UUID) : Bool :=
  (s.slipDeductions.find? fun link => link.loanId = loanId &&
    ((s.slips.get? link.slipId).any fun slip => slip.startDate = periodStart &&
      slip.endDate = periodEnd && !slip.cancelled) && excludeSlipId ≠ some link.slipId).isSome

def minNetPayRatio : ℚ := 33 / 100

/-- What a slip asks: an employee, a period, and the pay the deductions come from. -/
structure DeductionRequest where
  employeeId : UUID
  periodStart : Date
  periodEnd : Date
  grossPay : Option ℚ := none
  totalExistingDeductions : ℚ := 0
  excludeSlipId : Option UUID := none
  organizationId : Option UUID := none

/-- What is due on a loan: the installment, at most the balance, and at most what the net pay
leaves; none when nothing is. -/
def dueAmount (request : DeductionRequest) (runningLoanDeductions : ℚ) (loan : EmployeeLoan) :
    Option ℚ :=
  let installment := currency loan.monthlyInstallment
  let amount :=
    if installment > loan.outstandingBalance then loan.outstandingBalance else installment
  let affordable := match request.grossPay with
    | none => some amount
    | some grossPay =>
      if grossPay > 0 then
        let minNetPay := currency (grossPay * minNetPayRatio)
        let usedDeductions := request.totalExistingDeductions + runningLoanDeductions
        let remainingCapacity := currency (grossPay - minNetPay - usedDeductions)
        if remainingCapacity ≤ 0 then none
        else some (if amount > remainingCapacity then remainingCapacity else amount)
      else some amount
  affordable.filter (0 < ·)

/-- A month's interest on the balance. -/
def accruedInterest (loan : EmployeeLoan) : ℚ :=
  decimal (loan.outstandingBalance * monthlyRate loan.interestRate)

/-- The interest in an amount, in the ratio of the agreed interest to the whole. -/
def flatInterest (loan : EmployeeLoan) (amount : ℚ) : ℚ :=
  decimal (amount * decimal (loan.totalInterest / loan.totalRepayable))

/-- The split of a payment into principal and interest. A loan without a type, or with one of
another method, is split in the ratio of its interest to the whole. -/
def splitPayment (interestFree : Bool) (method : Option InterestMethod) (loan : EmployeeLoan)
    (amount : ℚ) : Except LoanError (ℚ × ℚ) :=
  if interestFree then .ok (amount, 0)
  else if method = some .reducingBalance then
    let accrued := currency (accruedInterest loan)
    let interestPortion := if accrued > amount then amount else accrued
    .ok (amount - interestPortion, interestPortion)
  else if loan.totalRepayable = 0 then .error .arithmetic
  else
    let interestPortion := currency (flatInterest loan amount)
    .ok (amount - interestPortion, interestPortion)

def loanTypeOf (s : LoanStore) (loan : EmployeeLoan) : Option LoanType :=
  loan.loanTypeId.bind s.loanTypes.get?

def deductionsOf (s : LoanStore) (request : DeductionRequest) :
    ℚ → List (Stored EmployeeLoan) → Except LoanError (List LoanDeductionItem)
  | _, [] => .ok []
  | running, ⟨loanId, loan⟩ :: loans =>
    if (loan.firstRepaymentDate.any fun first => first > request.periodEnd) ||
        hasRepaymentInPeriod s loanId request.periodStart request.periodEnd ||
        hasLinkedSlipDeductionInPeriod s loanId request.periodStart request.periodEnd
          request.excludeSlipId then
      deductionsOf s request running loans
    else
      match dueAmount request running loan with
      | none => deductionsOf s request running loans
      | some amount => do
        let loanType := loanTypeOf s loan
        let (principalPortion, interestPortion) ←
          splitPayment (loan.interestRate = 0 || loan.totalInterest = 0)
            (loanType.map LoanType.interestMethod) loan amount
        let balanceAfter := currency (loan.outstandingBalance - amount)
        let items ← deductionsOf s request (running + amount) loans
        pure ({
          loanId := loanId
          loanNumber := loan.loanNumber
          loanTypeName := (loanType.map LoanType.typeName).getD "Loan"
          amount := amount
          principalPortion := principalPortion
          interestPortion := interestPortion
          balanceAfter := max balanceAfter 0
          isFinalPayment := balanceAfter ≤ 0 } :: items)

def getDueDeductions (request : DeductionRequest) (s : LoanStore) :
    Except LoanError (List LoanDeductionItem) :=
  deductionsOf s request 0 (getActiveLoansForEmployee s request.employeeId request.organizationId)

/-! ### Repayments -/

/-- The amounts of a loan after a payment. A balance at zero or below completes the loan, and is
set to zero. -/
def repaid (amount principalPortion interestPortion : ℚ) (paymentDate : Date)
    (loan : EmployeeLoan) : EmployeeLoan :=
  let loan := { loan with
    outstandingBalance := currency (loan.outstandingBalance - amount)
    principalPaid := currency (loan.principalPaid + principalPortion)
    interestPaid := currency (loan.interestPaid + interestPortion) }
  if loan.outstandingBalance ≤ 0 then
    { loan with status := .completed, completionDate := some paymentDate, outstandingBalance := 0 }
  else loan

def writeRepayment (loanId : UUID) (loan : EmployeeLoan) (repayment : LoanRepayment) :
    LoanSession UUID := do
  let s ← get
  refuse (repayment.salarySlipId.any fun slipId => (s.slips.get? slipId).isNone)
    (.integrity "loan_repayment_salary_slip_id_fkey")
  set { s with
    loans := s.loans.modify loanId fun _ => loan
    repayments := s.repayments.insert { repayment with
      amount := currency repayment.amount
      principalPortion := currency repayment.principalPortion
      interestPortion := currency repayment.interestPortion } }
  pure s.repayments.next

def linkSlip (slipId loanId : UUID) (amount principalPortion interestPortion : ℚ) :
    LoanSession PUnit :=
  modify fun s => { s with slipDeductions := s.slipDeductions.insert {
    slipId := slipId
    loanId := loanId
    amount := currency amount
    principalPortion := currency principalPortion
    interestPortion := currency interestPortion
    repaymentId := none } }

def recordPayrollDeduction (loanId slipId : UUID) (amount principalPortion interestPortion : ℚ)
    (repaymentDate : Date) (skipLinkCreation : Bool) (organizationId : Option UUID) :
    LoanSession UUID := do
  let s ← get
  let loan ← orRaise (s.loans.get? loanId) (.value s!"Loan {loanId} not found")
  refuse (organizationId.any fun org => loan.organizationId ≠ org)
    (.value s!"Loan {loanId} does not belong to organization {organizationId.getD 0}")
  refuse (loan.status ≠ .disbursed)
    (.runtime ("Cannot record repayment for loan with status: " ++ loan.status.value))
  let paid := repaid amount principalPortion interestPortion repaymentDate
    { loan with installmentsPaid := loan.installmentsPaid + 1 }
  let repaymentId ← writeRepayment loanId paid {
    loanId := loanId
    repaymentType := .payrollDeduction
    repaymentDate := repaymentDate
    amount := amount
    principalPortion := principalPortion
    interestPortion := interestPortion
    balanceAfter := paid.outstandingBalance
    salarySlipId := some slipId }
  runIf (skipLinkCreation = false)
    (linkSlip slipId loanId amount principalPortion interestPortion)
  pure repaymentId

/-- `record_manual_payment`: an amount above the balance is cut to it. -/
def recordManualPayment (org loanId : UUID) (amount : ℚ) (paymentDate : Date) :
    LoanSession UUID := do
  let loan ← getLoan org loanId
  refuse (loan.status ≠ .disbursed)
    (.http 400 ("Cannot record payment for loan with status: " ++ loan.status.value))
  let amount := if amount > loan.outstandingBalance then loan.outstandingBalance else amount
  let s ← get
  match splitPayment (loan.interestRate = 0)
    ((loanTypeOf s loan).map LoanType.interestMethod) loan amount with
  | .error e => throw e
  | .ok (principalPortion, interestPortion) =>
    let paid := repaid amount principalPortion interestPortion paymentDate loan
    writeRepayment loanId paid {
      loanId := loanId
      repaymentType := .manualPayment
      repaymentDate := paymentDate
      amount := amount
      principalPortion := principalPortion
      interestPortion := interestPortion
      balanceAfter := paid.outstandingBalance
      salarySlipId := none }

end LoanService

end DotmacErp.Payroll
