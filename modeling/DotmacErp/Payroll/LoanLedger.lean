import DotmacErp.Foundation.Scripts
import DotmacErp.Foundation.Totals
import DotmacErp.Payroll.LoanService

/-!
# The loan ledger

What a loan has paid and what it still owes add up to what it had to repay, its repayments are
what it has paid, and it is completed when it owes nothing (`Conserved`). A payment keeps this as
long as it is no larger than the balance it is recorded against: the balance is cut at zero, and
the amounts paid are not (`repaid_conserves_iff`).

A manual payment is cut to the balance first. A payroll deduction was, when it was computed; by
the time it is recorded the balance may be smaller. The other ways to lose a cent are a payment
that ends in exactly half a cent, which is rounded up in the amounts paid and again in the balance,
and a loan whose terms leave nothing to repay.
-/

namespace DotmacErp.Payroll

open Calendar LoanService Relational Session Rounding Totals

/-- The loan was paid out. -/
def EmployeeLoan.Disbursed (loan : EmployeeLoan) : Prop :=
  loan.status = .disbursed ∨ loan.status = .completed

def repaidOf (repayments : Table LoanRepayment) (loanId : UUID) : ℚ :=
  total (fun r => r.row.amount) (fun r => r.row.loanId) loanId repayments.rows

/-- What is paid of a loan and what is owed make up what is repayable, and its repayments
record what is paid. -/
structure Conserved (s : LoanStore) (loanId : UUID) (loan : EmployeeLoan) : Prop where
  split : loan.principalPaid + loan.interestPaid + loan.outstandingBalance = loan.totalRepayable
  nonneg : 0 ≤ loan.outstandingBalance
  repaid : repaidOf s.repayments loanId = loan.totalRepayable - loan.outstandingBalance
  completed : loan.status = .completed ↔ loan.outstandingBalance = 0

/-! ### The system -/

/-- A call of the loan service. A deduction is one of those computed so far, and is recorded under
some slip; `others` is whatever other services do to the tables that are theirs. -/
inductive LoanCall where
  | create (org : UUID) (input : LoanApplicationInput)
  | approve (org loanId : UUID)
  | reject (org loanId : UUID)
  | disburse (org loanId : UUID) (today : Date)
  | compute (request : DeductionRequest)
  | deduct (index : ℕ) (slipId : UUID) (repaymentDate : Date) (skipLinkCreation : Bool)
      (org : Option UUID)
  | pay (org loanId : UUID) (amount : ℚ) (paymentDate : Date)
  | others (employees : Table Employee) (loanTypes : Table LoanType) (slips : Table SalarySlip)
      (slipDeductions : Table SalarySlipLoanDeduction)

/-- The tables, and the deductions computed so far. -/
structure LoanRun where
  store : LoanStore
  computed : List LoanDeductionItem := []

namespace LoanCall

/-- The tables after a call that returns; one that raises is rolled back. -/
def onStore {α : Type} (program : LoanSession α) (r : LoanRun) : LoanRun :=
  { r with store := commit program r.store }

def act (r : LoanRun) : LoanCall → LoanRun
  | create org input => onStore (createLoan org input) r
  | approve org loanId => onStore (approveLoan org loanId) r
  | reject org loanId => onStore (rejectLoan org loanId) r
  | disburse org loanId today => onStore (disburseLoan org loanId today) r
  | compute request =>
    match getDueDeductions request r.store with
    | .ok items => { r with computed := r.computed ++ items }
    | .error _ => r
  | deduct index slipId repaymentDate skipLinkCreation org =>
    match r.computed[index]? with
    | some item => onStore (recordPayrollDeduction item.loanId slipId item.amount
        item.principalPortion item.interestPortion repaymentDate skipLinkCreation org) r
    | none => r
  | pay org loanId amount paymentDate =>
    onStore (recordManualPayment org loanId amount paymentDate) r
  | others employees loanTypes slips slipDeductions =>
    { r with store := { r.store with employees, loanTypes, slips, slipDeductions } }

end LoanCall

def loanSystem : System LoanRun LoanCall :=
  .ofFunction (fun r => r.store.loans = Table.empty ∧ r.store.repayments = Table.empty ∧
    r.computed = []) LoanCall.act

/-- The call pays no more than is owed, in cents, and disburses only what is to be repaid: no
deduction is larger than the balance it is recorded against, no manual payment below the balance
ends in half a cent, and a loan that is disbursed has something to repay. -/
def LoanCall.WithinBalance (r : LoanRun) : LoanCall → Prop
  | disburse _ loanId _ => ∀ loan ∈ r.store.loans.get? loanId, 0 < loan.totalRepayable
  | deduct index _ _ _ _ => ∀ item ∈ r.computed[index]?, ∀ loan ∈ r.store.loans.get? item.loanId,
      item.amount ≤ loan.outstandingBalance
  | pay _ loanId amount _ => ∀ loan ∈ r.store.loans.get? loanId,
      amount ≤ loan.outstandingBalance → ¬ Tie 2 amount
  | _ => True

instance (r : LoanRun) : (c : LoanCall) → Decidable (c.WithinBalance r)
  | .disburse _ _ _ | .deduct _ _ _ _ _ | .pay _ _ _ _ => by
    unfold LoanCall.WithinBalance
    infer_instance
  | .create _ _ | .approve _ _ | .reject _ _ | .compute _ | .others _ _ _ _ =>
    inferInstanceAs (Decidable True)

/-! ### One payment -/

structure Splits (amount principalPortion interestPortion : ℚ) : Prop where
  sum : principalPortion + interestPortion = amount
  scale : AtScale 2 principalPortion ∨ AtScale 2 interestPortion

structure Ledger (repayments : Table LoanRepayment) (loanId : UUID) (loan : EmployeeLoan) :
    Prop where
  split : loan.principalPaid + loan.interestPaid + loan.outstandingBalance = loan.totalRepayable
  repaid : repaidOf repayments loanId = loan.totalRepayable - loan.outstandingBalance
  outstandingScale : AtScale 2 loan.outstandingBalance
  principalScale : AtScale 2 loan.principalPaid
  interestScale : AtScale 2 loan.interestPaid
  untouched : loan.status = .pending ∨ loan.status = .approved →
    loan.outstandingBalance = loan.totalRepayable
  owing : loan.status = .disbursed → 0 < loan.outstandingBalance
  settled : loan.status = .completed → loan.outstandingBalance = 0

variable {repayments : Table LoanRepayment} {loanId : UUID} {loan : EmployeeLoan}
  {amount principalPortion interestPortion : ℚ} {paymentDate : Date}

theorem Ledger.conserved {s : LoanStore} (h : Ledger s.repayments loanId loan)
    (hd : loan.Disbursed) : Conserved s loanId loan where
  split := h.split
  nonneg := by
    rcases hd with hd | hd
    · exact (h.owing hd).le
    · exact (h.settled hd).ge
  repaid := h.repaid
  completed := by
    refine ⟨h.settled, fun hzero => ?_⟩
    rcases hd with hd | hd
    · exact absurd hzero (h.owing hd).ne'
    · exact hd

theorem splits_of_splitPayment {interestFree : Bool} {method : Option InterestMethod}
    (h : splitPayment interestFree method loan amount = .ok (principalPortion, interestPortion)) :
    Splits amount principalPortion interestPortion := by
  rw [splitPayment] at h
  split_ifs at h with hfree hreducing htotal
  · obtain ⟨rfl, rfl⟩ := Prod.mk.inj (Except.ok.inj h)
    exact ⟨add_zero _, Or.inr (atScale_zero 2)⟩
  · obtain ⟨rfl, rfl⟩ := Prod.mk.inj (Except.ok.inj h)
    refine ⟨sub_add_cancel _ _, ?_⟩
    split_ifs
    · exact Or.inl (by simpa using atScale_zero 2)
    · exact Or.inr (atScale_halfUp 2 _)
  · obtain ⟨rfl, rfl⟩ := Prod.mk.inj (Except.ok.inj h)
    exact ⟨sub_add_cancel _ _, Or.inr (atScale_halfUp 2 _)⟩

theorem Splits.rounded (h : Splits amount principalPortion interestPortion)
    (htie : ¬ Tie 2 amount) {p i : ℚ} (hp : AtScale 2 p) (hi : AtScale 2 i) :
    currency (p + principalPortion) + currency (i + interestPortion) =
      p + i + currency amount := by
  rcases h.scale with hscale | hscale
  · have hrest : i + interestPortion = (i - principalPortion) + amount := by
      rw [← h.sum]
      ring
    have hround : currency (i + interestPortion) = i - principalPortion + currency amount := by
      rw [hrest]
      exact halfUp_add_of_not_tie (hi.sub hscale) htie
    rw [hround, currency, halfUp_of_atScale (hp.add hscale)]
    ring
  · have hrest : p + principalPortion = (p - interestPortion) + amount := by
      rw [← h.sum]
      ring
    have hround : currency (p + principalPortion) = p - interestPortion + currency amount := by
      rw [hrest]
      exact halfUp_add_of_not_tie (hp.sub hscale) htie
    rw [hround, currency, currency, halfUp_of_atScale (hi.add hscale)]
    ring

theorem repaidOf_insert (repayments : Table LoanRepayment) (row : LoanRepayment) (k : UUID) :
    repaidOf (repayments.insert row) k =
      repaidOf repayments k + if row.loanId = k then row.amount else 0 := by
  simp only [repaidOf, Table.insert, total_append, total_cons, total_nil, add_zero]

section

variable (amount principalPortion interestPortion : ℚ) (paymentDate : Date) (loan : EmployeeLoan)

@[simp] theorem principalPaid_repaid :
    (repaid amount principalPortion interestPortion paymentDate loan).principalPaid =
      currency (loan.principalPaid + principalPortion) := by
  simp only [repaid]
  split_ifs <;> rfl

@[simp] theorem interestPaid_repaid :
    (repaid amount principalPortion interestPortion paymentDate loan).interestPaid =
      currency (loan.interestPaid + interestPortion) := by
  simp only [repaid]
  split_ifs <;> rfl

@[simp] theorem totalRepayable_repaid :
    (repaid amount principalPortion interestPortion paymentDate loan).totalRepayable =
      loan.totalRepayable := by
  simp only [repaid]
  split_ifs <;> rfl

theorem status_repaid :
    let paid := repaid amount principalPortion interestPortion paymentDate loan
    (paid.status = .completed ∧ paid.outstandingBalance = 0) ∨
      (paid.status = loan.status ∧ 0 < paid.outstandingBalance) := by
  simp only [repaid]
  split_ifs with hzero
  · exact Or.inl ⟨rfl, rfl⟩
  · exact Or.inr ⟨rfl, not_le.mp hzero⟩

theorem outstandingBalance_repaid :
    (repaid amount principalPortion interestPortion paymentDate loan).outstandingBalance =
      max 0 (currency (loan.outstandingBalance - amount)) := by
  simp only [repaid]
  split_ifs with hzero
  · exact (max_eq_left hzero).symm
  · exact (max_eq_right (not_le.mp hzero).le).symm

end

theorem Ledger.rounded (h : Ledger repayments loanId loan) (htie : ¬ Tie 2 amount) :
    currency (loan.outstandingBalance - amount) = loan.outstandingBalance - currency amount := by
  rw [sub_eq_add_neg, currency, halfUp_add_of_not_tie h.outstandingScale (tie_neg.not.mpr htie),
    halfUp_neg, ← sub_eq_add_neg]

/-- **One payment**: a payment that the balance covers keeps the ledger. -/
theorem Ledger.pay (h : Ledger repayments loanId loan) (hstatus : loan.status = .disbursed)
    (hsplits : Splits amount principalPortion interestPortion) (htie : ¬ Tie 2 amount)
    (hle : amount ≤ loan.outstandingBalance) {row : LoanRepayment} (hrow : row.loanId = loanId)
    (hamount : row.amount = currency amount) :
    Ledger (repayments.insert row) loanId
      (LoanService.repaid amount principalPortion interestPortion paymentDate loan) := by
  have hnonneg : 0 ≤ currency (loan.outstandingBalance - amount) :=
    halfUp_nonneg (sub_nonneg.mpr hle)
  have hbalance := outstandingBalance_repaid amount principalPortion interestPortion paymentDate
    loan
  rw [max_eq_right hnonneg, h.rounded htie] at hbalance
  have hpaid := hsplits.rounded htie h.principalScale h.interestScale
  have hrepaid : repaidOf (repayments.insert row) loanId =
      loan.totalRepayable - loan.outstandingBalance + currency amount := by
    rw [repaidOf_insert, if_pos hrow, h.repaid, hamount]
  have hdone := status_repaid amount principalPortion interestPortion paymentDate loan
  exact {
    split := by
      rw [principalPaid_repaid, interestPaid_repaid, totalRepayable_repaid, hbalance, hpaid,
        ← h.split]
      ring
    repaid := by
      rw [hrepaid, totalRepayable_repaid, hbalance]
      ring
    outstandingScale := by
      rw [hbalance]
      exact h.outstandingScale.sub (atScale_halfUp 2 _)
    principalScale := by
      rw [principalPaid_repaid]
      exact atScale_halfUp 2 _
    interestScale := by
      rw [interestPaid_repaid]
      exact atScale_halfUp 2 _
    untouched := fun hopen => by
      rcases hdone with ⟨hs, -⟩ | ⟨hs, -⟩ <;> simp [hs, hstatus] at hopen
    owing := fun hs => by
      rcases hdone with ⟨hs', -⟩ | ⟨-, hpos⟩
      · exact absurd (hs.symm.trans hs') (by decide)
      · exact hpos
    settled := fun hs => by
      rcases hdone with ⟨-, hzero⟩ | ⟨hs', -⟩
      · exact hzero
      · exact absurd ((hs.symm.trans hs').trans hstatus) (by decide) }

/-! ### What each call does -/

section Calls

variable {s s' : LoanStore} {org k : UUID}

structure Opening (loan : EmployeeLoan) : Prop where
  principalPaid : loan.principalPaid = 0
  interestPaid : loan.interestPaid = 0
  outstanding : loan.outstandingBalance = loan.totalRepayable
  scale : AtScale 2 loan.outstandingBalance
  interestScale : AtScale 2 loan.totalInterest
  status : loan.status = .pending ∨ loan.status = .approved

theorem createLoan_eq_ok {input : LoanApplicationInput}
    (h : createLoan org input s = .ok k s') :
    ∃ loan, Opening loan ∧ s' = { s with loans := s.loans.insert loan } := by
  rw [createLoan, get_bind, orRaise_bind] at h
  obtain ⟨employee, -, h⟩ := h
  obtain ⟨-, s₁, -, h⟩ := bind_eq_ok.mp h
  obtain ⟨⟨interestRate, interestMethod, requiresApproval⟩, s₂, -, h⟩ := bind_eq_ok.mp h
  rw [refuse_bind, refuse_bind] at h
  obtain ⟨-, -, h⟩ := h
  obtain ⟨terms, s₃, -, h⟩ := bind_eq_ok.mp h
  rw [refuse_bind] at h
  obtain ⟨-, h⟩ := h
  simp only [bind_eq_ok, set_eq_ok, pure_eq_ok] at h
  obtain ⟨_, _, rfl, -, rfl⟩ := h
  refine ⟨_, ?_, rfl⟩
  exact {
    principalPaid := rfl
    interestPaid := rfl
    outstanding := rfl
    scale := atScale_halfUp 2 _
    interestScale := atScale_halfUp 2 _
    status := by cases requiresApproval <;> simp }

theorem changeStatus_eq_ok {verb : String} {source : LoanStatus} {u : PUnit}
    {change : EmployeeLoan → EmployeeLoan}
    (h : changeStatus verb source org k change s = .ok u s') :
    ∃ loan, s.loans.get? k = some loan ∧ loan.status = source ∧
      s' = { s with loans := s.loans.modify k change } := by
  rw [changeStatus, bind_eq_ok] at h
  obtain ⟨loan, s₁, hget, h⟩ := h
  rw [getLoan, get_bind, orRaise_eq_ok, Option.filter_eq_some_iff] at hget
  obtain ⟨⟨hloan, -⟩, rfl⟩ := hget
  rw [refuse_bind, not_not] at h
  exact ⟨loan, hloan, h.1, modify_eq_ok.mp h.2⟩

/-- A payment has been recorded: the loan it was made on, which was disbursed, and its
repayment. -/
structure Paid (s s' : LoanStore) (loanId : UUID) (loan : EmployeeLoan)
    (amount principalPortion interestPortion : ℚ) : Prop where
  found : s.loans.get? loanId = some loan
  disbursed : loan.status = .disbursed
  loans : ∃ n paymentDate, s'.loans = s.loans.modify loanId fun _ =>
    repaid amount principalPortion interestPortion paymentDate { loan with installmentsPaid := n }
  repayments : ∃ row, row.loanId = loanId ∧ row.amount = currency amount ∧
    s'.repayments = s.repayments.insert row

theorem writeRepayment_eq_ok {repayment : LoanRepayment}
    (h : writeRepayment loanId loan repayment s = .ok k s') :
    s'.loans = s.loans.modify loanId (fun _ => loan) ∧
      ∃ row, row.loanId = repayment.loanId ∧ row.amount = currency repayment.amount ∧
        s'.repayments = s.repayments.insert row := by
  rw [writeRepayment, get_bind, refuse_bind] at h
  simp only [bind_eq_ok, set_eq_ok, pure_eq_ok] at h
  obtain ⟨-, _, _, rfl, -, rfl⟩ := h
  exact ⟨rfl, { repayment with
    amount := currency repayment.amount
    principalPortion := currency repayment.principalPortion
    interestPortion := currency repayment.interestPortion }, rfl, rfl, rfl⟩

theorem recordPayrollDeduction_writes {slipId : UUID} {skipLinkCreation : Bool} {org : Option UUID}
    (h : recordPayrollDeduction loanId slipId amount principalPortion interestPortion paymentDate
      skipLinkCreation org s = .ok k s') :
    ∃ loan, s.loans.get? loanId = some loan ∧ loan.status = .disbursed ∧
      (s'.loans = s.loans.modify loanId fun _ =>
        repaid amount principalPortion interestPortion paymentDate
          { loan with installmentsPaid := loan.installmentsPaid + 1 }) ∧
      ∃ row, row.loanId = loanId ∧ row.amount = currency amount ∧
        s'.repayments = s.repayments.insert row := by
  rw [recordPayrollDeduction, get_bind, orRaise_bind] at h
  obtain ⟨loan, hloan, h⟩ := h
  rw [refuse_bind, refuse_bind, not_not] at h
  obtain ⟨-, hstatus, h⟩ := h
  obtain ⟨repaymentId, s₁, hwrite, h⟩ := bind_eq_ok.mp h
  obtain ⟨hloans, row, hrow, hamount, hrepayments⟩ := writeRepayment_eq_ok hwrite
  -- the link of the slip concerns neither table
  have hframe : ∀ (γ : Type) (view : LoanStore → γ),
      (∀ s links, view { s with slipDeductions := links } = view s) → view s' = view s₁ := by
    intro γ view hview
    have hframes : Frames view (runIf (skipLinkCreation = false)
        (linkSlip slipId loanId amount principalPortion interestPortion)) :=
      .runIf (.modify fun s => hview s _)
    exact (hframes.bind fun _ => .pure repaymentId) s₁ k s' h
  refine ⟨loan, hloan, hstatus, ?_, row, hrow, hamount, ?_⟩
  · rw [hframe _ LoanStore.loans fun _ _ => rfl, hloans]
  · rw [hframe _ LoanStore.repayments fun _ _ => rfl, hrepayments]

theorem recordPayrollDeduction_eq_ok {slipId : UUID} {skipLinkCreation : Bool} {org : Option UUID}
    (h : recordPayrollDeduction loanId slipId amount principalPortion interestPortion paymentDate
      skipLinkCreation org s = .ok k s') :
    ∃ loan, Paid s s' loanId loan amount principalPortion interestPortion := by
  obtain ⟨loan, hloan, hstatus, hloans, hrepayments⟩ := recordPayrollDeduction_writes h
  exact ⟨loan, hloan, hstatus, ⟨loan.installmentsPaid + 1, paymentDate, hloans⟩, hrepayments⟩

theorem recordManualPayment_eq_ok
    (h : recordManualPayment org loanId amount paymentDate s = .ok k s') :
    ∃ loan principalPortion interestPortion,
      splitPayment (loan.interestRate = 0) ((loanTypeOf s loan).map LoanType.interestMethod) loan
          (min amount loan.outstandingBalance) = .ok (principalPortion, interestPortion) ∧
        Paid s s' loanId loan (min amount loan.outstandingBalance) principalPortion
          interestPortion := by
  rw [recordManualPayment, bind_eq_ok] at h
  obtain ⟨loan, s₁, hget, h⟩ := h
  rw [getLoan, get_bind, orRaise_eq_ok, Option.filter_eq_some_iff] at hget
  obtain ⟨⟨hloan, -⟩, hsame⟩ := hget
  rw [hsame, refuse_bind, not_not] at h
  obtain ⟨hstatus, h⟩ := h
  have hmin : (if amount > loan.outstandingBalance then loan.outstandingBalance else amount) =
      min amount loan.outstandingBalance := by
    split_ifs with hgt
    · exact (min_eq_right hgt.le).symm
    · exact (min_eq_left (not_lt.mp hgt)).symm
  rw [hmin, get_bind] at h
  cases hsplit : splitPayment (loan.interestRate = 0)
      ((loanTypeOf s loan).map LoanType.interestMethod) loan
      (min amount loan.outstandingBalance) with
  | error e => simp [hsplit] at h
  | ok portions =>
    rw [hsplit] at h
    obtain ⟨hloans, row, hrow, hamount, hrepayments⟩ := writeRepayment_eq_ok h
    exact ⟨loan, portions.1, portions.2, hsplit, hloan, hstatus,
      ⟨loan.installmentsPaid, paymentDate, hloans⟩, row, hrow, hamount, hrepayments⟩

end Calls

/-! ### Deductions computed -/

/-- A deduction in cents, split into principal and interest. -/
structure LoanDeductionItem.InCents (item : LoanDeductionItem) : Prop where
  scale : AtScale 2 item.amount
  splits : Splits item.amount item.principalPortion item.interestPortion

def EmployeeLoan.due (loan : EmployeeLoan) : ℚ :=
  min (currency loan.monthlyInstallment) loan.outstandingBalance

theorem due_eq (loan : EmployeeLoan) :
    (if currency loan.monthlyInstallment > loan.outstandingBalance then loan.outstandingBalance
      else currency loan.monthlyInstallment) = loan.due := by
  rw [EmployeeLoan.due]
  split_ifs with h
  · exact (min_eq_right h.le).symm
  · exact (min_eq_left (not_lt.mp h)).symm

theorem atScale_due {loan : EmployeeLoan} (h : AtScale 2 loan.outstandingBalance) :
    AtScale 2 loan.due := by
  rw [EmployeeLoan.due]
  rcases min_choice (currency loan.monthlyInstallment) loan.outstandingBalance with hmin | hmin
  · rw [hmin]
    exact atScale_halfUp 2 _
  · rw [hmin]
    exact h

theorem dueAmount_atScale {request : DeductionRequest} {running : ℚ}
    (hscale : AtScale 2 loan.outstandingBalance)
    (h : dueAmount request running loan = some amount) : AtScale 2 amount := by
  have hdue : AtScale 2 loan.due := atScale_due hscale
  rw [dueAmount, Option.filter_eq_some_iff] at h
  have hamount := h.1
  rw [due_eq] at hamount
  cases hgross : request.grossPay with
  | none =>
    rw [hgross] at hamount
    rw [← Option.some.inj hamount]
    exact hdue
  | some grossPay =>
    simp only [hgross] at hamount
    split_ifs at hamount
    · rw [← Option.some.inj hamount]
      exact atScale_halfUp 2 _
    · rw [← Option.some.inj hamount]
      exact hdue
    · rw [← Option.some.inj hamount]
      exact hdue

/-- Nothing is taken for a loan in a period before its first repayment, nor in one in which it was
paid or stands on another slip. -/
def Excused (s : LoanStore) (request : DeductionRequest) (row : Stored EmployeeLoan) : Prop :=
  ((row.row.firstRepaymentDate.any fun first => first > request.periodEnd) ||
    hasRepaymentInPeriod s row.id request.periodStart request.periodEnd ||
    hasLinkedSlipDeductionInPeriod s row.id request.periodStart request.periodEnd
      request.excludeSlipId) = true

instance (s : LoanStore) (request : DeductionRequest) (row : Stored EmployeeLoan) :
    Decidable (Excused s request row) :=
  inferInstanceAs (Decidable (_ = true))

def splitOf (s : LoanStore) (loan : EmployeeLoan) (amount : ℚ) : Except LoanError (ℚ × ℚ) :=
  splitPayment (loan.interestRate = 0 || loan.totalInterest = 0)
    ((loanTypeOf s loan).map LoanType.interestMethod) loan amount

def itemOf (s : LoanStore) (row : Stored EmployeeLoan) (amount principalPortion interestPortion :
    ℚ) :
    LoanDeductionItem where
  loanId := row.id
  loanNumber := row.row.loanNumber
  loanTypeName := ((loanTypeOf s row.row).map LoanType.typeName).getD "Loan"
  amount := amount
  principalPortion := principalPortion
  interestPortion := interestPortion
  balanceAfter := max (currency (row.row.outstandingBalance - amount)) 0
  isFinalPayment := currency (row.row.outstandingBalance - amount) ≤ 0

inductive Serves (s : LoanStore) (request : DeductionRequest) :
    ℚ → List (Stored EmployeeLoan) → List LoanDeductionItem → Prop
  | nil (running : ℚ) : Serves s request running [] []
  | pass {running : ℚ} {row : Stored EmployeeLoan} {rows : List (Stored EmployeeLoan)}
      {items : List LoanDeductionItem}
      (hpass : Excused s request row ∨ dueAmount request running row.row = none)
      (h : Serves s request running rows items) : Serves s request running (row :: rows) items
  | serve {running amount principalPortion interestPortion : ℚ} {row : Stored EmployeeLoan}
      {rows : List (Stored EmployeeLoan)} {items : List LoanDeductionItem}
      (hserve : ¬ Excused s request row)
      (hdue : dueAmount request running row.row = some amount)
      (hsplit : splitOf s row.row amount = .ok (principalPortion, interestPortion))
      (h : Serves s request (running + amount) rows items) :
      Serves s request running (row :: rows)
        (itemOf s row amount principalPortion interestPortion :: items)

theorem serves_of_deductionsOf {s : LoanStore} {request : DeductionRequest} {running : ℚ}
    {loans : List (Stored EmployeeLoan)} {items : List LoanDeductionItem}
    (h : deductionsOf s request running loans = .ok items) :
      Serves s request running loans items := by
  induction loans generalizing running items with
  | nil =>
    rw [← Except.ok.inj h]
    exact .nil running
  | cons row loans ih =>
    rw [deductionsOf] at h
    split_ifs at h with hexcused
    · exact .pass (.inl hexcused) (ih h)
    · cases hdue : dueAmount request running row.row with
      | none =>
        rw [hdue] at h
        exact .pass (.inr hdue) (ih h)
      | some amount =>
        simp only [hdue] at h
        cases hsplit : splitPayment (row.row.interestRate = 0 || row.row.totalInterest = 0)
            ((loanTypeOf s row.row).map LoanType.interestMethod) row.row amount with
        | error e =>
          rw [hsplit] at h
          exact absurd h (by simp [bind, Except.bind])
        | ok portions =>
          rw [hsplit] at h
          cases hitems : deductionsOf s request (running + amount) loans with
          | error e =>
            simp only [bind, Except.bind, hitems] at h
            exact absurd h (by simp)
          | ok rest =>
            simp only [bind, Except.bind, hitems, pure, Except.pure] at h
            rw [← Except.ok.inj h]
            exact .serve hexcused hdue hsplit (ih hitems)

theorem Serves.inCents {s : LoanStore} {request : DeductionRequest} {running : ℚ}
    {rows : List (Stored EmployeeLoan)} {items : List LoanDeductionItem}
    (h : Serves s request running rows items)
    (hrows : ∀ row ∈ rows, AtScale 2 row.row.outstandingBalance) :
    ∀ item ∈ items, item.InCents := by
  induction h with
  | nil => simp
  | pass _ _ ih => exact ih fun row hrow => hrows row (List.mem_cons_of_mem _ hrow)
  | serve _ hdue hsplit _ ih =>
    refine List.forall_mem_cons.mpr ⟨?_, ih fun row hrow => hrows row (List.mem_cons_of_mem _ hrow)⟩
    exact ⟨dueAmount_atScale (hrows _ List.mem_cons_self) hdue, splits_of_splitPayment hsplit⟩

theorem getDueDeductions_inCents {s : LoanStore} {request : DeductionRequest}
    {items : List LoanDeductionItem}
    (hloans : ∀ k loan, s.loans.get? k = some loan → AtScale 2 loan.outstandingBalance)
    (h : getDueDeductions request s = .ok items) : ∀ item ∈ items, item.InCents := by
  refine (serves_of_deductionsOf h).inCents fun row hrow => ?_
  rw [getActiveLoansForEmployee, List.mem_insertionSort, Table.mem_select] at hrow
  exact hloans _ _ hrow.1

/-! ### Runs -/

/-- Every loan keeps its ledger, every repayment has a loan, and what is computed is in cents. -/
structure Sound (r : LoanRun) : Prop where
  ledger : ∀ k loan, r.store.loans.get? k = some loan → Ledger r.store.repayments k loan
  owned : ∀ row ∈ r.store.repayments.rows, row.row.loanId < r.store.loans.next
  computed : ∀ item ∈ r.computed, item.InCents

theorem Ledger.withStatus (h : Ledger repayments loanId loan) {status : LoanStatus}
    {date : Option Date}
    (huntouched : status = .pending ∨ status = .approved →
      loan.outstandingBalance = loan.totalRepayable)
    (howing : status = .disbursed → 0 < loan.outstandingBalance)
    (hsettled : status = .completed → loan.outstandingBalance = 0) :
    Ledger repayments loanId { loan with status := status, disbursementDate := date } where
  split := h.split
  repaid := h.repaid
  outstandingScale := h.outstandingScale
  principalScale := h.principalScale
  interestScale := h.interestScale
  untouched := huntouched
  owing := howing
  settled := hsettled

theorem Opening.ledger (h : Opening loan) (hnone : repaidOf repayments loanId = 0) :
    Ledger repayments loanId loan where
  split := by rw [h.principalPaid, h.interestPaid, h.outstanding, zero_add, zero_add]
  repaid := by rw [hnone, h.outstanding, sub_self]
  outstandingScale := h.scale
  principalScale := by
    rw [h.principalPaid]
    exact atScale_zero 2
  interestScale := by
    rw [h.interestPaid]
    exact atScale_zero 2
  untouched := fun _ => h.outstanding
  owing := fun hs => by rcases h.status with hs' | hs' <;> simp [hs'] at hs
  settled := fun hs => by rcases h.status with hs' | hs' <;> simp [hs'] at hs

namespace Sound

variable {r : LoanRun} {s' : LoanStore} {org k : UUID}

theorem of_tables (h : Sound r) (hloans : s'.loans = r.store.loans)
    (hrepayments : s'.repayments = r.store.repayments) : Sound { r with store := s' } where
  ledger k loan hk := by
    rw [hloans] at hk
    rw [hrepayments]
    exact h.ledger k loan hk
  owned row hrow := by
    rw [hrepayments] at hrow
    rw [hloans]
    exact h.owned row hrow
  computed := h.computed

theorem create (h : Sound r) {input : LoanApplicationInput}
    (hrun : createLoan org input r.store = .ok k s') :
    Sound { r with store := s' } := by
  obtain ⟨loan, hopening, rfl⟩ := createLoan_eq_ok hrun
  refine ⟨fun k' loan' hk' => ?_, fun row hrow => ?_, h.computed⟩
  · rw [Table.get?_insert] at hk'
    split_ifs at hk' with hnew
    · obtain rfl := Option.some.inj hk'
      refine hopening.ledger (total_eq_zero fun row hrow heq => ?_)
      exact absurd (h.owned row hrow) (by rw [heq, hnew]; exact lt_irrefl _)
    · exact h.ledger k' loan' hk'
  · exact (h.owned row hrow).trans (Nat.lt_succ_self _)

theorem change (h : Sound r) {verb : String} {source : LoanStatus} {u : PUnit}
    {f : EmployeeLoan → EmployeeLoan}
    (hf : ∀ loan, r.store.loans.get? k = some loan → loan.status = source →
      Ledger r.store.repayments k loan → Ledger r.store.repayments k (f loan))
    (hrun : changeStatus verb source org k f r.store = .ok u s') :
    Sound { r with store := s' } := by
  obtain ⟨loan, hloan, hstatus, rfl⟩ := changeStatus_eq_ok hrun
  refine ⟨fun k' loan' hk' => ?_, h.owned, h.computed⟩
  rw [Table.get?_modify] at hk'
  split_ifs at hk' with hk
  · rw [hk, hloan] at hk'
    obtain rfl := Option.some.inj hk'
    rw [hk]
    exact hf loan hloan hstatus (h.ledger k loan hloan)
  · exact h.ledger k' loan' hk'

theorem pay (h : Sound r) (hpaid : Paid r.store s' loanId loan amount principalPortion
      interestPortion) (hsplits : Splits amount principalPortion interestPortion)
    (htie : ¬ Tie 2 amount) (hle : amount ≤ loan.outstandingBalance) :
    Sound { r with store := s' } := by
  obtain ⟨n, paymentDate, hloans⟩ := hpaid.loans
  obtain ⟨row, hrow, hamount, hrepayments⟩ := hpaid.repayments
  have hold := h.ledger loanId loan hpaid.found
  have hcounted : Ledger r.store.repayments loanId { loan with installmentsPaid := n } :=
    ⟨hold.split, hold.repaid, hold.outstandingScale, hold.principalScale, hold.interestScale,
      hold.untouched, hold.owing, hold.settled⟩
  refine ⟨fun k' loan' hk' => ?_, fun row' hrow' => ?_, h.computed⟩
  · rw [hloans, Table.get?_modify] at hk'
    rw [hrepayments]
    split_ifs at hk' with hk
    · rw [hk, hpaid.found] at hk'
      obtain rfl := Option.some.inj hk'
      rw [hk]
      exact hcounted.pay hpaid.disbursed hsplits htie hle hrow hamount
    · -- the repayment is of another loan
      have hother := h.ledger k' loan' hk'
      have hsame : repaidOf (r.store.repayments.insert row) k' =
          repaidOf r.store.repayments k' := by
        rw [repaidOf_insert, if_neg (by rw [hrow]; exact Ne.symm hk), add_zero]
      exact { hother with repaid := hsame.trans hother.repaid }
  · rw [hrepayments, Table.insert, List.mem_append, List.mem_singleton] at hrow'
    rw [hloans, Table.next_modify]
    rcases hrow' with hmem | rfl
    · exact h.owned row' hmem
    · rw [hrow]
      exact Table.lt_next hpaid.found

theorem onStore {α : Type} {program : LoanSession α} (h : Sound r)
    (hrun : ∀ a s', program r.store = .ok a s' → Sound { r with store := s' }) :
    Sound (LoanCall.onStore program r) :=
  commit_induction (P := fun s => Sound { r with store := s }) h hrun

/-- **One call** within the balance. -/
theorem act (h : Sound r) {c : LoanCall} (hc : c.WithinBalance r) : Sound (LoanCall.act r c) := by
  cases c with
  | create org input => exact h.onStore fun _ _ hrun => h.create hrun
  | approve org loanId =>
    refine h.onStore fun _ _ hrun => h.change (fun loan _ hstatus hledger => ?_) hrun
    exact hledger.withStatus (fun _ => hledger.untouched (Or.inl hstatus)) (by simp) (by simp)
  | reject org loanId =>
    refine h.onStore fun _ _ hrun => h.change (fun loan _ hstatus hledger => ?_) hrun
    exact hledger.withStatus (by simp) (by simp) (by simp)
  | disburse org loanId today =>
    refine h.onStore fun _ _ hrun => h.change (fun loan hloan hstatus hledger => ?_) hrun
    refine hledger.withStatus (by simp) (fun _ => ?_) (by simp)
    rw [hledger.untouched (Or.inr hstatus)]
    exact hc loan hloan
  | compute request =>
    simp only [LoanCall.act]
    cases hitems : getDueDeductions request r.store with
    | error e => exact h
    | ok items =>
      refine ⟨h.ledger, h.owned, fun item hitem => ?_⟩
      rcases List.mem_append.mp hitem with hold | hnew
      · exact h.computed item hold
      · exact getDueDeductions_inCents (fun _ _ hk => (h.ledger _ _ hk).outstandingScale) hitems
          item hnew
  | deduct index slipId repaymentDate skipLinkCreation org =>
    simp only [LoanCall.act]
    cases hitem : r.computed[index]? with
    | none => exact h
    | some item =>
      have hcents := h.computed item (List.mem_of_getElem? hitem)
      refine h.onStore fun _ _ hrun => ?_
      obtain ⟨loan, hpaid⟩ := recordPayrollDeduction_eq_ok hrun
      exact h.pay hpaid hcents.splits (not_tie_of_atScale hcents.scale)
        (hc item hitem loan hpaid.found)
  | pay org loanId amount paymentDate =>
    refine h.onStore fun _ _ hrun => ?_
    obtain ⟨loan, principalPortion, interestPortion, hsplit, hpaid⟩ :=
      recordManualPayment_eq_ok hrun
    refine h.pay hpaid (splits_of_splitPayment hsplit) ?_ (min_le_right _ _)
    -- the balance itself is in cents
    rcases le_total amount loan.outstandingBalance with hle | hge
    · rw [min_eq_left hle]
      exact hc loan hpaid.found hle
    · rw [min_eq_right hge]
      exact not_tie_of_atScale (h.ledger loanId loan hpaid.found).outstandingScale
  | others employees loanTypes slips slipDeductions => exact h.of_tables rfl rfl

theorem of_reachable (h : loanSystem.ReachableWithin (fun r c => c.WithinBalance r) r) :
    Sound r := by
  refine h.invariant (fun r hr => ?_) ?_
  · obtain ⟨hloans, hrepayments, hcomputed⟩ := hr
    refine ⟨fun k loan hk => ?_, fun row hrow => ?_, fun item hitem => ?_⟩
    · simp [hloans] at hk
    · rw [hrepayments] at hrow
      exact absurd hrow List.not_mem_nil
    · rw [hcomputed] at hitem
      exact absurd hitem List.not_mem_nil
  · rintro r c _ hr hc rfl
    exact hr.act hc

end Sound

/-- **Loans are conserved** in every run that pays no more than is owed: of every disbursed loan,
what was paid and what is owed add up, the balance is not negative, the repayments are what was
paid, and the loan is completed exactly when it owes nothing. -/
theorem loans_conserved {r : LoanRun}
    (h : loanSystem.ReachableWithin (fun r c => c.WithinBalance r) r) {loanId : UUID}
    {loan : EmployeeLoan} (hloan : r.store.loans.get? loanId = some loan)
    (hd : loan.Disbursed) : Conserved r.store loanId loan :=
  ((Sound.of_reachable h).ledger loanId loan hloan).conserved hd

/-! ### A payment between the slip and its approval -/

def lendingDay : Date := ⟨2024, 1, 10, by decide⟩

def slipDay : Date := ⟨2024, 2, 10, by decide⟩

/-- An active employee, and a slip. -/
def payrollOffice : LoanRun where
  store := {
    employees := Table.empty.insert {
      organizationId := 1
      fullName := "Ada"
      status := .active }
    slips := Table.empty.insert {
      startDate := slipDay
      endDate := slipDay
      cancelled := false } }

/-- A loan of 300 in three months without interest is applied for, approved and disbursed. -/
def lend : List LoanCall :=
  [.create 1 {
      employeeId := 0
      principalAmount := 300
      tenureMonths := 3
      loanNumber := "LOAN-2024-00001"
      today := lendingDay },
    .approve 1 0, .disburse 1 0 lendingDay]

def computeSlip : LoanCall :=
  .compute { employeeId := 0, periodStart := slipDay, periodEnd := slipDay }

/-- The slip is generated, the employee pays 250 of the 300, and then the deduction of 100 is
recorded. -/
def paidInBetween : List LoanCall :=
  lend ++ [computeSlip, .pay 1 0 250 slipDay, .deduct 0 0 slipDay true none]

/-- The employee has paid 350 of 300. -/
theorem loans_not_conserved :
    ¬ ∀ (r : LoanRun) (loanId : UUID) (loan : EmployeeLoan), loanSystem.Reachable r →
      r.store.loans.get? loanId = some loan → loan.Disbursed →
        Conserved r.store loanId loan := by
  intro h
  let final := System.after LoanCall.act payrollOffice paidInBetween
  have hreach : loanSystem.Reachable final :=
    System.reachable_after ⟨rfl, rfl, rfl⟩ paidInBetween
  have hlost : (final.store.loans.get? 0).any (fun loan => loan.status = .completed ∧
      loan.principalPaid + loan.interestPaid + loan.outstandingBalance ≠
        loan.totalRepayable) = true := by
    decide +kernel
  obtain ⟨loan, hloan, hdecided⟩ := (Option.any_eq_true _ _).mp hlost
  obtain ⟨hstatus, hne⟩ := of_decide_eq_true hdecided
  exact hne (h final 0 loan hreach hloan (Or.inr hstatus)).split

/-- The deduction is recorded before the employee pays the rest. -/
def paidAfterwards : List LoanCall :=
  lend ++ [computeSlip, .deduct 0 0 slipDay true none, .pay 1 0 250 slipDay]

theorem loans_conserved_sample : ∃ loan,
    (System.after LoanCall.act payrollOffice paidAfterwards).store.loans.get? 0 = some loan ∧
      loan.status = .completed ∧
        Conserved (System.after LoanCall.act payrollOffice paidAfterwards).store 0 loan := by
  have hreach : loanSystem.ReachableWithin (fun r c => c.WithinBalance r)
      (System.after LoanCall.act payrollOffice paidAfterwards) :=
    System.reachableWithin_after ⟨rfl, rfl, rfl⟩ (by decide +kernel)
  have hfinal : ((System.after LoanCall.act payrollOffice paidAfterwards).store.loans.get? 0).any
      (fun loan => loan.status = .completed) = true := by decide +kernel
  obtain ⟨loan, hloan, hdecided⟩ := (Option.any_eq_true _ _).mp hfinal
  have hstatus := of_decide_eq_true hdecided
  exact ⟨loan, hloan, hstatus, loans_conserved hreach hloan (Or.inr hstatus)⟩

end DotmacErp.Payroll
