import DotmacErp.Foundation.RoundedSums
import DotmacErp.Payroll.LoanDeductions

/-!
# When a loan is paid off

A loan in `n` months has an installment that is its total by `n`, rounded to cents. Every period
takes the installment, or the rest of the balance, so that after `k` periods `k` installments are
paid until one of them pays off the balance (`Stands`). The `n`-th does so, and none before it,
exactly when the total lies above `n - 1` installments and is no more than `n`
(`finishesOnTime_iff`). What the rounding took off the installments is left over after the `n`-th
(`third_left_over`), and what it put on them may pay the loan off before.

Between two periods anything may happen to the other rows: the periods of a loan are a sequence of
stores in which one row goes on as the period left it (`Follows`).
-/

namespace DotmacErp.Payroll

open Calendar LoanService Relational Session Rounding

/-! ### The payroll of a period -/

/-- A pay period: what its slip asks, and how the deduction is recorded. -/
structure PayrollPeriod where
  request : DeductionRequest
  slipId : UUID
  repaymentDate : Date
  skipLinkCreation : Bool

def recordItem (loanId : UUID) (period : PayrollPeriod) :
    Option LoanDeductionItem → LoanSession (Option UUID)
  | none => pure none
  | some item => some <$> recordPayrollDeduction loanId period.slipId item.amount
      item.principalPortion item.interestPortion period.repaymentDate period.skipLinkCreation
      period.request.organizationId

def deductLoan (loanId : UUID) (period : PayrollPeriod) : LoanSession (Option UUID) := do
  let s ← get
  match getDueDeductions period.request s with
  | .error e => throw e
  | .ok items => recordItem loanId period (items.find? fun item => item.loanId = loanId)

/-- A period in which the loan is to be paid: its slip is the employee's, the repayment has begun,
nothing was deducted in the period yet, and the cap on deductions does not bind. -/
structure PayrollPeriod.Regular (period : PayrollPeriod) (loanId : UUID) (s : LoanStore) :
    Prop where
  employee : ∀ loan ∈ s.loans.get? loanId, loan.employeeId = period.request.employeeId
  organization : ∀ loan ∈ s.loans.get? loanId, ∀ org ∈ period.request.organizationId,
    loan.organizationId = org
  begun : ∀ loan ∈ s.loans.get? loanId, ∀ first ∈ loan.firstRepaymentDate,
    first ≤ period.request.periodEnd
  unpaid : hasRepaymentInPeriod s loanId period.request.periodStart period.request.periodEnd =
    false
  unlinked : hasLinkedSlipDeductionInPeriod s loanId period.request.periodStart
    period.request.periodEnd period.request.excludeSlipId = false
  uncapped : getDueDeductions period.request s =
    getDueDeductions { period.request with grossPay := none } s

/-- The deduction goes through and leaves the loan as it would on its own. -/
structure Follows (loanId : UUID) (period : PayrollPeriod) (s s' : LoanStore) : Prop where
  regular : period.Regular loanId s
  recorded : returns (deductLoan loanId period) s = true
  row : s'.loans.get? loanId = (commit (deductLoan loanId period) s).loans.get? loanId

/-- A loan with the terms the service works out, as it is written and disbursed. -/
structure EmployeeLoan.Granted (loan : EmployeeLoan) (principal : ℚ) (tenureMonths : ℕ) (rate : ℚ)
    (method : InterestMethod) : Prop where
  status : loan.status = .disbursed
  terms : ∃ terms, calculateLoanTerms principal tenureMonths rate method = .ok terms ∧
    loan.monthlyInstallment = currency terms.monthlyInstallment ∧
    loan.outstandingBalance = currency terms.totalRepayable
  installmentsPaid : loan.installmentsPaid = 0

/-- **A loan finishes on time**: the `n`-th of its periods pays it off, with the `n`-th deduction,
and none before. -/
def FinishesOnTime (loanId : UUID) (n : ℕ) (stores : ℕ → LoanStore) : Prop :=
  (∀ k < n, ∃ loan, (stores k).loans.get? loanId = some loan ∧ loan.status = .disbursed) ∧
    ∃ loan, (stores n).loans.get? loanId = some loan ∧ loan.status = .completed ∧
      loan.outstandingBalance = 0 ∧ loan.installmentsPaid = n

/-- A total is above `n - 1` of its installments, and no more than `n`. -/
def InstallmentsFit (total : ℚ) (n : ℕ) : Prop :=
  (n - 1) * currency (decimal (total / n)) < currency total ∧
    currency total ≤ n * currency (decimal (total / n))

/-- **The installments fit the tenure**: `n` of them, and no fewer, cover the total. On a reducing
balance the total is `n` installments, and only has to be something. -/
def FinishesInTenure (principal : ℚ) (n : ℕ) (rate : ℚ) : InterestMethod → Prop
  | .none => InstallmentsFit principal n
  | .flat => InstallmentsFit (principal + currency (decimal
      (decimal (principal * decimal (rate / 100)) * decimal (n / 12)))) n
  | .reducingBalance =>
    if 0 < monthlyRate rate then
      let factor := decimalPower (decimal (1 + monthlyRate rate)) n
      0 < currency (decimal (decimal (decimal (principal * monthlyRate rate) * factor) /
        decimal (factor - 1)))
    else InstallmentsFit principal n

/-! ### What one period does -/

section Periods

variable {loanId : UUID} {period : PayrollPeriod} {s s' : LoanStore} {loan : EmployeeLoan}

theorem mem_activeLoans {employeeId : UUID} {organizationId : Option UUID}
    {row : Stored EmployeeLoan} :
    row ∈ getActiveLoansForEmployee s employeeId organizationId ↔
      s.loans.get? row.id = some row.row ∧ row.row.employeeId = employeeId ∧
        row.row.status = .disbursed ∧ 0 < row.row.outstandingBalance ∧
        ∀ org ∈ organizationId, row.row.organizationId = org := by
  rw [getActiveLoansForEmployee, List.mem_insertionSort, Table.mem_select]
  simp only [Bool.and_eq_true, decide_eq_true_eq, gt_iff_lt, Option.all_eq_true, and_assoc]
  rfl

theorem PayrollPeriod.Regular.serves (h : period.Regular loanId s) {items : List LoanDeductionItem}
    (hitems : getDueDeductions period.request s = .ok items) :
    Serves s { period.request with grossPay := none } 0
      (getActiveLoansForEmployee s period.request.employeeId period.request.organizationId)
      items := by
  rw [h.uncapped] at hitems
  exact serves_of_deductionsOf hitems

theorem deductLoan_eq_ok {reply : Option UUID} (h : deductLoan loanId period s = .ok reply s') :
    ∃ items, getDueDeductions period.request s = .ok items ∧
      recordItem loanId period (items.find? fun item => item.loanId = loanId) s =
        .ok reply s' := by
  rw [deductLoan, get_bind] at h
  cases hitems : getDueDeductions period.request s with
  | error e =>
    rw [hitems] at h
    exact absurd h (by simp)
  | ok items =>
    rw [hitems] at h
    exact ⟨items, rfl, h⟩

theorem Follows.idle (h : Follows loanId period s s') (hloan : s.loans.get? loanId = some loan)
    (hidle : loan.status = .disbursed → 0 < loan.outstandingBalance → loan.due ≤ 0) :
    s'.loans.get? loanId = some loan := by
  obtain ⟨reply, s₁, hrun⟩ := returns_iff.mp h.recorded
  rw [h.row, commit, hrun]
  obtain ⟨items, hitems, hrecord⟩ := deductLoan_eq_ok hrun
  have hnone : items.find? (fun item => item.loanId = loanId) = none := by
    refine List.find?_eq_none.mpr fun item hitem hid => ?_
    obtain ⟨row, hrow, hrowId, running, hdue⟩ := (h.regular.serves hitems).row_of_mem item hitem
    obtain ⟨hget, -, hstatus, hbalance, -⟩ := mem_activeLoans.mp hrow
    rw [← hrowId, of_decide_eq_true hid, hloan] at hget
    rw [← Option.some.inj hget] at hstatus hbalance hdue
    rw [dueAmount_of_grossPay_none rfl, if_neg (not_lt.mpr (hidle hstatus hbalance))] at hdue
    exact absurd hdue (by simp)
  rw [hnone] at hrecord
  rw [(pure_eq_ok.mp hrecord).2]
  exact hloan

theorem Follows.pays (h : Follows loanId period s s') (hloan : s.loans.get? loanId = some loan)
    (hstatus : loan.status = .disbursed) (hbalance : 0 < loan.outstandingBalance)
    (hdue : 0 < loan.due) :
    ∃ principalPortion interestPortion paymentDate,
      s'.loans.get? loanId = some (repaid loan.due principalPortion interestPortion paymentDate
        { loan with installmentsPaid := loan.installmentsPaid + 1 }) := by
  obtain ⟨reply, s₁, hrun⟩ := returns_iff.mp h.recorded
  rw [h.row, commit, hrun]
  obtain ⟨items, hitems, hrecord⟩ := deductLoan_eq_ok hrun
  have hserves := h.regular.serves hitems
  have hactive : (⟨loanId, loan⟩ : Stored EmployeeLoan) ∈
      getActiveLoansForEmployee s period.request.employeeId period.request.organizationId :=
    mem_activeLoans.mpr ⟨hloan, h.regular.employee loan hloan, hstatus, hbalance,
      h.regular.organization loan hloan⟩
  have hserve : ¬ Excused s { period.request with grossPay := none } ⟨loanId, loan⟩ := by
    have hbegun : (loan.firstRepaymentDate.any fun first => first > period.request.periodEnd) =
        false := by
      rw [Option.any_eq_false]
      intro first hfirst
      simpa using h.regular.begun loan hloan first hfirst
    rw [Excused, hbegun, h.regular.unpaid, h.regular.unlinked]
    decide
  cases hfind : items.find? (fun item => item.loanId = loanId) with
  | none =>
    obtain ⟨item, hitem, hid⟩ := hserves.exists_item rfl hactive hserve hdue
    exact absurd (decide_eq_true hid) (List.find?_eq_none.mp hfind item hitem)
  | some item =>
    rw [hfind, recordItem] at hrecord
    obtain ⟨repaymentId, hrecord, -⟩ := map_eq_ok.mp hrecord
    have hid : item.loanId = loanId := by simpa using List.find?_some hfind
    obtain ⟨row, hrow, hrowId, running, hamount⟩ :=
      hserves.row_of_mem item (List.mem_of_find?_eq_some hfind)
    have hget := (mem_activeLoans.mp hrow).1
    rw [← hrowId, hid, hloan] at hget
    rw [← Option.some.inj hget, dueAmount_of_grossPay_none rfl, if_pos hdue] at hamount
    rw [← Option.some.inj hamount] at hrecord
    obtain ⟨loan', hloan', -, hloans, -⟩ := recordPayrollDeduction_writes hrecord
    rw [hloan] at hloan'
    rw [← Option.some.inj hloan'] at hloans
    refine ⟨item.principalPortion, item.interestPortion, period.repaymentDate, ?_⟩
    rw [hloans, Table.get?_modify_self, hloan]
    rfl

end Periods

/-! ### What a run of periods does -/

/-- A loan with `k` installments paid of a total. -/
structure Stands (installment total : ℚ) (k : ℕ) (loan : EmployeeLoan) : Prop where
  status : loan.status = .disbursed
  agreed : currency loan.monthlyInstallment = installment
  balance : loan.outstandingBalance = total - k * installment
  paid : loan.installmentsPaid = k

/-- A loan that its `k`-th installment has paid off. -/
structure PaidOff (k : ℕ) (loan : EmployeeLoan) : Prop where
  status : loan.status = .completed
  balance : loan.outstandingBalance = 0
  paid : loan.installmentsPaid = k

section Runs

variable {loanId : UUID} {periods : ℕ → PayrollPeriod} {stores : ℕ → LoanStore} {n j k : ℕ}
  {loan : EmployeeLoan} {installment total : ℚ}

@[simp] theorem monthlyInstallment_repaid (amount principalPortion interestPortion : ℚ)
    (paymentDate : Date) (loan : EmployeeLoan) :
    (repaid amount principalPortion interestPortion paymentDate loan).monthlyInstallment =
      loan.monthlyInstallment := by
  simp only [repaid]
  split_ifs <;> rfl

@[simp] theorem installmentsPaid_repaid (amount principalPortion interestPortion : ℚ)
    (paymentDate : Date) (loan : EmployeeLoan) :
    (repaid amount principalPortion interestPortion paymentDate loan).installmentsPaid =
      loan.installmentsPaid := by
  simp only [repaid]
  split_ifs <;> rfl

theorem Stands.atScale (h : Stands installment total k loan) (htotal : AtScale 2 total) :
    AtScale 2 loan.outstandingBalance := by
  have hinstallment : AtScale 2 installment := h.agreed ▸ atScale_halfUp 2 _
  rw [h.balance]
  exact htotal.sub (hinstallment.natMul k)

theorem Stands.deduct (h : Stands installment total k loan)
    (hfollows : Follows loanId (periods k) (stores k) (stores (k + 1)))
    (hloan : (stores k).loans.get? loanId = some loan) (hinstallment : 0 < installment)
    (htotal : AtScale 2 total) (hleft : k * installment < total) :
    ∃ principalPortion interestPortion paymentDate, ∃ loan',
      (stores (k + 1)).loans.get? loanId = some loan' ∧
        loan' = repaid loan.due principalPortion interestPortion paymentDate
          { loan with installmentsPaid := k + 1 } ∧
        loan'.outstandingBalance = max 0 (total - (k + 1 : ℕ) * installment) := by
  have hbalance : 0 < loan.outstandingBalance := by
    rw [h.balance]
    exact sub_pos.mpr hleft
  have hdue : 0 < loan.due := by
    rw [EmployeeLoan.due, h.agreed]
    exact lt_min hinstallment hbalance
  obtain ⟨principalPortion, interestPortion, paymentDate, hloan'⟩ :=
    hfollows.pays hloan h.status hbalance hdue
  rw [h.paid] at hloan'
  refine ⟨principalPortion, interestPortion, paymentDate, _, hloan', rfl, ?_⟩
  have hrest : total - (k + 1 : ℕ) * installment = loan.outstandingBalance - installment := by
    rw [h.balance]
    push_cast
    ring
  have hscale := h.atScale htotal
  rw [outstandingBalance_repaid, currency, halfUp_of_atScale (hscale.sub (atScale_due hscale)),
    hrest, EmployeeLoan.due, h.agreed]
  rcases le_total installment loan.outstandingBalance with hle | hle
  · rw [min_eq_left hle]
  · rw [min_eq_right hle, sub_self, max_self, max_eq_left (sub_nonpos.mpr hle)]

theorem stands_of_lt (hfollows : ∀ i < n, Follows loanId (periods i) (stores i) (stores (i + 1)))
    (hfirst : ∃ loan, (stores 0).loans.get? loanId = some loan ∧ Stands installment total 0 loan)
    (hinstallment : 0 < installment) (htotal : AtScale 2 total) (hk : k ≤ n)
    (hleft : k * installment < total) :
    ∃ loan, (stores k).loans.get? loanId = some loan ∧ Stands installment total k loan := by
  induction k with
  | zero => exact hfirst
  | succ k ih =>
    have hbefore : k * installment < total := by
      push_cast at hleft
      linarith
    obtain ⟨loan, hloan, hstands⟩ := ih (by omega) hbefore
    obtain ⟨principalPortion, interestPortion, paymentDate, loan', hloan', heq, hbalance⟩ :=
      hstands.deduct (hfollows k (by omega)) hloan hinstallment htotal hbefore
    rw [max_eq_right (sub_pos.mpr hleft).le] at hbalance
    have hpositive : 0 < loan'.outstandingBalance := by
      rw [hbalance]
      exact sub_pos.mpr hleft
    refine ⟨loan', hloan', ?_, ?_, hbalance, ?_⟩
    · -- a payment that completes the loan leaves nothing
      have hstatus := status_repaid loan.due principalPortion interestPortion paymentDate
        { loan with installmentsPaid := k + 1 }
      rw [← heq] at hstatus
      rcases hstatus with ⟨-, hzero⟩ | ⟨hsame, -⟩
      · exact absurd hzero hpositive.ne'
      · exact hsame.trans hstands.status
    · rw [heq, monthlyInstallment_repaid]
      exact hstands.agreed
    · rw [heq, installmentsPaid_repaid]

theorem paidOff_of_le (hfollows : ∀ i < n, Follows loanId (periods i) (stores i) (stores (i + 1)))
    (hfirst : ∃ loan, (stores 0).loans.get? loanId = some loan ∧ Stands installment total 0 loan)
    (hinstallment : 0 < installment) (htotal : AtScale 2 total) (hk : k < n)
    (hleft : k * installment < total) (hreach : total ≤ (k + 1 : ℕ) * installment) :
    ∃ loan, (stores (k + 1)).loans.get? loanId = some loan ∧ PaidOff (k + 1) loan := by
  obtain ⟨loan, hloan, hstands⟩ :=
    stands_of_lt hfollows hfirst hinstallment htotal hk.le hleft
  obtain ⟨principalPortion, interestPortion, paymentDate, loan', hloan', heq, hbalance⟩ :=
    hstands.deduct (hfollows k hk) hloan hinstallment htotal hleft
  rw [max_eq_left (sub_nonpos.mpr hreach)] at hbalance
  refine ⟨loan', hloan', ?_, hbalance, ?_⟩
  · have hstatus := status_repaid loan.due principalPortion interestPortion paymentDate
      { loan with installmentsPaid := k + 1 }
    rw [← heq] at hstatus
    rcases hstatus with ⟨hcompleted, -⟩ | ⟨-, hpositive⟩
    · exact hcompleted
    · exact absurd hbalance hpositive.ne'
  · rw [heq, installmentsPaid_repaid]

theorem get?_of_idle (hfollows : ∀ i < n, Follows loanId (periods i) (stores i) (stores (i + 1)))
    (hloan : (stores j).loans.get? loanId = some loan)
    (hidle : loan.status = .disbursed → 0 < loan.outstandingBalance → loan.due ≤ 0)
    (hj : j ≤ k) (hk : k ≤ n) : (stores k).loans.get? loanId = some loan := by
  induction k, hj using Nat.le_induction with
  | base => exact hloan
  | succ k hj ih => exact (hfollows k (by omega)).idle (ih (by omega)) hidle

/-- The `n`-th installment pays off the loan, and none before, when the total is above the first
`n - 1` of them and no more than all. -/
theorem finishesOnTime_iff_installments (hn : 1 ≤ n)
    (hfollows : ∀ i < n, Follows loanId (periods i) (stores i) (stores (i + 1)))
    (hfirst : ∃ loan, (stores 0).loans.get? loanId = some loan ∧ Stands installment total 0 loan)
    (htotal : AtScale 2 total) :
    FinishesOnTime loanId n stores ↔
      (n - 1) * installment < total ∧ total ≤ n * installment := by
  obtain ⟨m, rfl⟩ : ∃ m, n = m + 1 := ⟨n - 1, by omega⟩
  have hm : ((m + 1 : ℕ) : ℚ) - 1 = m := by
    push_cast
    ring
  rw [hm]
  constructor
  · rintro ⟨hbefore, last, hlast, hcompleted, -⟩
    have hpositive : 0 < installment ∧ 0 < total := by
      obtain ⟨loan, hloan, hstands⟩ := hfirst
      by_contra hnot
      have hidle : loan.due ≤ 0 := by
        have hbalance : loan.outstandingBalance = total := by
          rw [hstands.balance, Nat.cast_zero, zero_mul, sub_zero]
        rw [EmployeeLoan.due, hstands.agreed, hbalance]
        rcases not_and_or.mp hnot with h | h
        · exact (min_le_left _ _).trans (not_lt.mp h)
        · exact (min_le_right _ _).trans (not_lt.mp h)
      have hsame := get?_of_idle hfollows hloan (fun _ _ => hidle) (Nat.zero_le _) le_rfl
      rw [hlast] at hsame
      rw [Option.some.inj hsame, hstands.status] at hcompleted
      exact absurd hcompleted (by decide)
    obtain ⟨hinstallment, htotalPos⟩ := hpositive
    constructor
    · -- otherwise one of the first installments would have paid off the loan
      by_contra hnot
      have hreached : ∃ k : ℕ, total ≤ (k + 1 : ℕ) * installment := by
        refine ⟨m, (not_lt.mp hnot).trans ?_⟩
        push_cast
        linarith
      have hreach := Nat.find_spec hreached
      have hleft : (Nat.find hreached : ℕ) * installment < total := by
        rcases Nat.eq_zero_or_pos (Nat.find hreached) with hzero | hpos
        · rw [hzero, Nat.cast_zero, zero_mul]
          exact htotalPos
        · have hmin := Nat.find_min hreached (Nat.sub_one_lt_of_lt hpos)
          rw [Nat.sub_add_cancel hpos] at hmin
          exact not_le.mp hmin
      have hkm : Nat.find hreached < m := by
        by_contra hge
        have hcast : (m : ℚ) ≤ Nat.find hreached := by exact_mod_cast not_lt.mp hge
        have hle := mul_le_mul_of_nonneg_right hcast hinstallment.le
        linarith [not_lt.mp hnot]
      obtain ⟨loan, hloan, hpaid⟩ :=
        paidOff_of_le hfollows hfirst hinstallment htotal (by omega) hleft hreach
      obtain ⟨loan', hloan', hstatus⟩ := hbefore (Nat.find hreached + 1) (by omega)
      rw [hloan] at hloan'
      rw [← Option.some.inj hloan', hpaid.status] at hstatus
      exact absurd hstatus (by decide)
    · by_contra hnot
      obtain ⟨loan, hloan, hstands⟩ :=
        stands_of_lt hfollows hfirst hinstallment htotal le_rfl (not_le.mp hnot)
      rw [hlast] at hloan
      rw [Option.some.inj hloan, hstands.status] at hcompleted
      exact absurd hcompleted (by decide)
  · rintro ⟨hleft, hreach⟩
    have hinstallment : 0 < installment := by
      push_cast at hreach
      linarith
    refine ⟨fun k hk => ?_, ?_⟩
    · have hkm : (k : ℚ) * installment ≤ m * installment :=
        mul_le_mul_of_nonneg_right (by exact_mod_cast Nat.lt_succ_iff.mp hk) hinstallment.le
      obtain ⟨loan, hloan, hstands⟩ :=
        stands_of_lt hfollows hfirst hinstallment htotal hk.le (hkm.trans_lt hleft)
      exact ⟨loan, hloan, hstands.status⟩
    · obtain ⟨loan, hloan, hpaid⟩ :=
        paidOff_of_le hfollows hfirst hinstallment htotal (Nat.lt_succ_self m) hleft hreach
      exact ⟨loan, hloan, hpaid.status, hpaid.balance, hpaid.paid⟩

end Runs

/-! ### The terms the service works out -/

theorem fit_iff_installmentsFit {total : ℚ} {n : ℕ} :
    ((n - 1) * currency (currency (decimal (total / n))) < currency total ∧
      currency total ≤ n * currency (currency (decimal (total / n)))) ↔
        InstallmentsFit total n := by
  rw [InstallmentsFit, currency, currency, halfUp_halfUp]

/-- A total of `n` installments fits them when it is something. -/
theorem fit_iff_pos {installment : ℚ} {n : ℕ} :
    ((n - 1) * currency (currency installment) < currency (currency (currency installment * n)) ∧
      currency (currency (currency installment * n)) ≤ n * currency (currency installment)) ↔
        0 < currency installment := by
  have hscale : AtScale 2 (currency installment * n) := by
    rw [mul_comm]
    exact (atScale_halfUp 2 installment).natMul n
  rw [currency, currency, currency, halfUp_halfUp, halfUp_halfUp]
  rw [halfUp_of_atScale hscale]
  constructor
  · rintro ⟨hlt, -⟩
    linarith
  · intro hinstallment
    exact ⟨by linarith, by rw [mul_comm]⟩

theorem terms_fit_iff {principal rate : ℚ} {n : ℕ} {method : InterestMethod} {terms : LoanTerms}
    (h : calculateLoanTerms principal n rate method = .ok terms) :
    ((n - 1) * currency terms.monthlyInstallment < currency terms.totalRepayable ∧
      currency terms.totalRepayable ≤ n * currency terms.monthlyInstallment) ↔
      FinishesInTenure principal n rate method := by
  cases method with
  | none =>
    rw [calculateLoanTerms, if_pos (Or.inl rfl)] at h
    obtain rfl := Except.ok.inj h
    exact fit_iff_installmentsFit
  | flat =>
    rw [FinishesInTenure]
    by_cases hzero : rate = 0
    · rw [calculateLoanTerms, if_pos (Or.inr hzero)] at h
      obtain rfl := Except.ok.inj h
      rw [hzero, zero_div, decimal_zero, mul_zero, decimal_zero, zero_mul, decimal_zero,
        show currency 0 = 0 from halfUp_zero 2, add_zero]
      exact fit_iff_installmentsFit
    · rw [calculateLoanTerms, if_neg (by simp [hzero]), if_pos rfl] at h
      obtain rfl := Except.ok.inj h
      exact fit_iff_installmentsFit
  | reducingBalance =>
    rw [FinishesInTenure]
    by_cases hzero : rate = 0
    · have hnone : ¬ 0 < monthlyRate rate := by
        rw [hzero, monthlyRate, zero_div, decimal_zero, zero_div, decimal_zero]
        exact lt_irrefl 0
      rw [calculateLoanTerms, if_pos (Or.inr hzero)] at h
      obtain rfl := Except.ok.inj h
      rw [if_neg hnone]
      exact fit_iff_installmentsFit
    · rw [calculateLoanTerms, if_neg (by simp [hzero]), if_neg (by decide)] at h
      by_cases hpos : 0 < monthlyRate rate
      · rw [if_pos hpos] at h ⊢
        dsimp only at h ⊢
        split_ifs at h with hfactor
        obtain rfl := Except.ok.inj h
        exact fit_iff_pos
      · rw [if_neg hpos] at h ⊢
        obtain rfl := Except.ok.inj h
        exact fit_iff_installmentsFit

/-- **A loan finishes on time if and only if its installments fit its total.** -/
theorem finishesOnTime_iff {loanId : UUID} {loan : EmployeeLoan} {principal rate : ℚ} {n : ℕ}
    {method : InterestMethod} {periods : ℕ → PayrollPeriod} {stores : ℕ → LoanStore}
    (hn : 1 ≤ n) (hloan : (stores 0).loans.get? loanId = some loan)
    (hgranted : loan.Granted principal n rate method)
    (hfollows : ∀ k < n, Follows loanId (periods k) (stores k) (stores (k + 1))) :
    FinishesOnTime loanId n stores ↔ FinishesInTenure principal n rate method := by
  obtain ⟨terms, hterms, hinstallment, hbalance⟩ := hgranted.terms
  have hstands : Stands (currency terms.monthlyInstallment) (currency terms.totalRepayable) 0
      loan := by
    refine ⟨hgranted.status, ?_, ?_, hgranted.installmentsPaid⟩
    · rw [hinstallment, currency, halfUp_halfUp]
    · rw [hbalance, Nat.cast_zero, zero_mul, sub_zero]
  rw [← terms_fit_iff hterms]
  exact finishesOnTime_iff_installments hn hfollows ⟨loan, hloan, hstands⟩ (atScale_halfUp 2 _)

/-! ### Three periods -/

instance (period : PayrollPeriod) (loanId : UUID) (s : LoanStore) :
    Decidable (period.Regular loanId s) :=
  decidable_of_iff
    ((∀ loan ∈ s.loans.get? loanId, loan.employeeId = period.request.employeeId) ∧
      (∀ loan ∈ s.loans.get? loanId, ∀ org ∈ period.request.organizationId,
        loan.organizationId = org) ∧
      (∀ loan ∈ s.loans.get? loanId, ∀ first ∈ loan.firstRepaymentDate,
        first ≤ period.request.periodEnd) ∧
      hasRepaymentInPeriod s loanId period.request.periodStart period.request.periodEnd = false ∧
      hasLinkedSlipDeductionInPeriod s loanId period.request.periodStart
        period.request.periodEnd period.request.excludeSlipId = false ∧
      getDueDeductions period.request s =
        getDueDeductions { period.request with grossPay := none } s)
    ⟨fun ⟨h₁, h₂, h₃, h₄, h₅, h₆⟩ => ⟨h₁, h₂, h₃, h₄, h₅, h₆⟩,
      fun ⟨h₁, h₂, h₃, h₄, h₅, h₆⟩ => ⟨h₁, h₂, h₃, h₄, h₅, h₆⟩⟩

def payroll (loanId : UUID) (periods : ℕ → PayrollPeriod) (s : LoanStore) : ℕ → LoanStore
  | 0 => s
  | k + 1 => commit (deductLoan loanId (periods k)) (payroll loanId periods s k)

theorem follows_payroll {loanId : UUID} {periods : ℕ → PayrollPeriod} {s : LoanStore} {k : ℕ}
    (h : (periods k).Regular loanId (payroll loanId periods s k) ∧
      returns (deductLoan loanId (periods k)) (payroll loanId periods s k) = true) :
    Follows loanId (periods k) (payroll loanId periods s k) (payroll loanId periods s (k + 1)) :=
  ⟨h.1, h.2, rfl⟩

def monthlySlip (k : ℕ) : PayrollPeriod where
  request := {
    employeeId := 0
    periodStart := slipDay.addMonths k
    periodEnd := slipDay.addMonths k
    grossPay := some 1000 }
  slipId := 0
  repaymentDate := slipDay.addMonths k
  skipLinkCreation := true

def lentFor (principal : ℚ) : LoanStore :=
  (System.after LoanCall.act payrollOffice [.create 1 {
      employeeId := 0
      principalAmount := principal
      tenureMonths := 3
      loanNumber := "LOAN-2024-00001"
      today := lendingDay },
    .approve 1 0, .disburse 1 0 lendingDay]).store

theorem finishesOnTime_iff_sample :
    FinishesOnTime 0 3 (payroll 0 monthlySlip (lentFor 300)) := by
  have hloan : ((lentFor 300).loans.get? 0).any (fun loan => loan.status = .disbursed ∧
      loan.monthlyInstallment = 100 ∧ loan.outstandingBalance = 300 ∧
        loan.installmentsPaid = 0) = true := by
    decide +kernel
  obtain ⟨loan, hloan, hdecided⟩ := (Option.any_eq_true _ _).mp hloan
  obtain ⟨hstatus, hinstallment, hbalance, hpaid⟩ := of_decide_eq_true hdecided
  have hgranted : loan.Granted 300 3 0 .none := by
    refine ⟨hstatus, ⟨_, rfl, ?_, ?_⟩, hpaid⟩
    · rw [hinstallment]
      decide +kernel
    · rw [hbalance]
      decide +kernel
  have hfollows : ∀ k < 3, (monthlySlip k).Regular 0 (payroll 0 monthlySlip (lentFor 300) k) ∧
      returns (deductLoan 0 (monthlySlip k)) (payroll 0 monthlySlip (lentFor 300) k) = true := by
    decide +kernel
  have hfirst : (payroll 0 monthlySlip (lentFor 300) 0).loans.get? 0 = some loan := hloan
  have hsteps : ∀ k < 3, Follows 0 (monthlySlip k) (payroll 0 monthlySlip (lentFor 300) k)
      (payroll 0 monthlySlip (lentFor 300) (k + 1)) := fun k hk => follows_payroll (hfollows k hk)
  refine (finishesOnTime_iff (by decide) hfirst hgranted hsteps).mpr ?_
  rw [FinishesInTenure, InstallmentsFit]
  decide +kernel

/-- Three installments of 33.33 leave a cent of 100. -/
theorem third_left_over :
    ¬ ∀ (loanId : UUID) (loan : EmployeeLoan) (principal rate : ℚ) (n : ℕ)
      (method : InterestMethod) (periods : ℕ → PayrollPeriod) (stores : ℕ → LoanStore),
      0 < principal → 0 ≤ rate → 1 ≤ n → (stores 0).loans.get? loanId = some loan →
      loan.Granted principal n rate method →
      (∀ k < n, Follows loanId (periods k) (stores k) (stores (k + 1))) →
        FinishesOnTime loanId n stores := by
  intro h
  have hloan : ((lentFor 100).loans.get? 0).any (fun loan => loan.status = .disbursed ∧
      loan.monthlyInstallment = 3333 / 100 ∧ loan.outstandingBalance = 100 ∧
        loan.installmentsPaid = 0) = true := by
    decide +kernel
  obtain ⟨loan, hloan, hdecided⟩ := (Option.any_eq_true _ _).mp hloan
  obtain ⟨hstatus, hinstallment, hbalance, hpaid⟩ := of_decide_eq_true hdecided
  have hgranted : loan.Granted 100 3 0 .none := by
    refine ⟨hstatus, ⟨_, rfl, ?_, ?_⟩, hpaid⟩
    · rw [hinstallment]
      decide +kernel
    · rw [hbalance]
      decide +kernel
  have hfollows : ∀ k < 3, (monthlySlip k).Regular 0 (payroll 0 monthlySlip (lentFor 100) k) ∧
      returns (deductLoan 0 (monthlySlip k)) (payroll 0 monthlySlip (lentFor 100) k) = true := by
    decide +kernel
  obtain ⟨-, last, hlast, hcompleted, -⟩ := h 0 loan 100 0 3 .none monthlySlip
    (payroll 0 monthlySlip (lentFor 100)) (by norm_num) le_rfl (by decide) hloan hgranted
    fun k hk => follows_payroll (hfollows k hk)
  have hopen : ((payroll 0 monthlySlip (lentFor 100) 3).loans.get? 0).any
      (fun loan => loan.status = .disbursed) = true := by
    decide +kernel
  rw [hlast] at hopen
  rw [of_decide_eq_true hopen] at hcompleted
  exact absurd hcompleted (by decide)

end DotmacErp.Payroll
