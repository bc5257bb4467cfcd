import DotmacErp.Foundation.RoundedSums
import DotmacErp.Payroll.LoanLedger

/-!
# What a loan recovers

A loan is paid back in payments that are each split into principal and interest, and the two are
added up by themselves. When it is completed, the principal that was paid is the principal that was
lent, and the interest the interest that was agreed on, exactly when the interest in the balance
that is paid off is, to the cent, what is still owed (`recovered_repaid_iff`,
`takes_owed_iff`).

Nothing sees to that. The interest of a flat loan is rounded in each payment, and that of a loan on
a reducing balance is worked out on a balance that still has all the interest to come in it, so that
the interest of the regular installments adds up to something else
(`reducing_balance_overcharges`).
-/

namespace DotmacErp.Payroll

open Calendar LoanService Relational Session Rounding

/-- **The principal and the interest of a loan are recovered.** -/
structure EmployeeLoan.Recovered (loan : EmployeeLoan) : Prop where
  principal : loan.principalPaid = loan.principalAmount
  interest : loan.interestPaid = loan.totalInterest

/-- The interest that is still owed. -/
def EmployeeLoan.interestOwed (loan : EmployeeLoan) : ℚ := loan.totalInterest - loan.interestPaid

/-- The interest in an amount, before it is rounded: nothing, a month's interest on the balance as
far as the amount goes, or the share that the agreed interest has in the whole. -/
def interestIn (interestFree : Bool) (method : Option InterestMethod) (loan : EmployeeLoan)
    (amount : ℚ) : ℚ :=
  if interestFree then 0
  else if method = some .reducingBalance then min (accruedInterest loan) amount
  else flatInterest loan amount

/-- **The interest in an amount is what is owed**, to the cent. -/
def OwesJust (interestFree : Bool) (method : Option InterestMethod) (loan : EmployeeLoan)
    (amount : ℚ) : Prop :=
  Vanishes 2 (interestIn interestFree method loan amount)
    (interestIn interestFree method loan amount - loan.interestOwed)

instance (interestFree : Bool) (method : Option InterestMethod) (loan : EmployeeLoan)
    (amount : ℚ) : Decidable (OwesJust interestFree method loan amount) :=
  inferInstanceAs (Decidable (Vanishes _ _ _))

/-! ### One payment -/

section Payments

variable {loan : EmployeeLoan} {amount principalPortion interestPortion : ℚ} {paymentDate : Date}

/-- What holds of a loan in every status, before and while it is paid back. -/
structure Recovering (loan : EmployeeLoan) : Prop where
  split : loan.principalPaid + loan.interestPaid + loan.outstandingBalance = loan.totalRepayable
  outstandingScale : AtScale 2 loan.outstandingBalance
  principalScale : AtScale 2 loan.principalPaid
  interestScale : AtScale 2 loan.interestPaid
  agreedScale : AtScale 2 loan.totalInterest
  terms : loan.Disbursed → loan.principalAmount + loan.totalInterest = loan.totalRepayable
  recovered : loan.status = .completed → loan.Recovered

@[simp] theorem principalAmount_repaid :
    (repaid amount principalPortion interestPortion paymentDate loan).principalAmount =
      loan.principalAmount := by
  simp only [repaid]
  split_ifs <;> rfl

@[simp] theorem totalInterest_repaid :
    (repaid amount principalPortion interestPortion paymentDate loan).totalInterest =
      loan.totalInterest := by
  simp only [repaid]
  split_ifs <;> rfl

theorem Recovering.rounded (h : Recovering loan) (htie : ¬ Tie 2 amount) :
    currency (loan.outstandingBalance - amount) = loan.outstandingBalance - currency amount := by
  rw [sub_eq_add_neg, currency, halfUp_add_of_not_tie h.outstandingScale (tie_neg.not.mpr htie),
    halfUp_neg, ← sub_eq_add_neg]

theorem Recovering.split_repaid (paymentDate : Date) (h : Recovering loan)
    (hsplits : Splits amount principalPortion interestPortion) (htie : ¬ Tie 2 amount)
    (hle : amount ≤ loan.outstandingBalance) :
    let paid := repaid amount principalPortion interestPortion paymentDate loan
    paid.principalPaid + paid.interestPaid + paid.outstandingBalance = loan.totalRepayable ∧
      paid.outstandingBalance = loan.outstandingBalance - currency amount := by
  have hnonneg : 0 ≤ currency (loan.outstandingBalance - amount) :=
    halfUp_nonneg (sub_nonneg.mpr hle)
  have hbalance := outstandingBalance_repaid amount principalPortion interestPortion paymentDate
    loan
  rw [max_eq_right hnonneg, h.rounded htie] at hbalance
  refine ⟨?_, hbalance⟩
  rw [principalPaid_repaid, interestPaid_repaid, hbalance,
    hsplits.rounded htie h.principalScale h.interestScale, ← h.split]
  ring

/-- **The payment that pays off the balance** recovers principal and interest exactly when it takes
the interest that is still owed. -/
theorem recovered_repaid_iff (h : Recovering loan) (hstatus : loan.status = .disbursed)
    (hsplits : Splits amount principalPortion interestPortion) (htie : ¬ Tie 2 amount)
    (hle : amount ≤ loan.outstandingBalance) (hoff : currency amount = loan.outstandingBalance) :
    (repaid amount principalPortion interestPortion paymentDate loan).Recovered ↔
      currency (loan.interestPaid + interestPortion) = loan.totalInterest := by
  obtain ⟨hsum, hbalance⟩ := h.split_repaid paymentDate hsplits htie hle
  rw [hoff, sub_self] at hbalance
  rw [hbalance, add_zero, ← h.terms (Or.inl hstatus)] at hsum
  have hinterest := interestPaid_repaid amount principalPortion interestPortion paymentDate loan
  constructor
  · intro hrecovered
    rw [← hinterest, hrecovered.interest, totalInterest_repaid]
  · intro htakes
    rw [← hinterest] at htakes
    rw [htakes] at hsum
    refine ⟨?_, htakes.trans totalInterest_repaid.symm⟩
    rw [principalAmount_repaid]
    exact add_right_cancel hsum

theorem currency_interestPortion {interestFree : Bool} {method : Option InterestMethod}
    (hsplit : splitPayment interestFree method loan amount =
      .ok (principalPortion, interestPortion)) :
    currency interestPortion = currency (interestIn interestFree method loan amount) := by
  rw [splitPayment] at hsplit
  rw [interestIn]
  split_ifs at hsplit ⊢ with hfree hreducing htotal
  · rw [← (Prod.mk.inj (Except.ok.inj hsplit)).2]
  · obtain ⟨-, rfl⟩ := Prod.mk.inj (Except.ok.inj hsplit)
    have hportion : (if currency (accruedInterest loan) > amount then amount
        else currency (accruedInterest loan)) = min (currency (accruedInterest loan)) amount := by
      split_ifs with hgt
      · exact (min_eq_right hgt.le).symm
      · exact (min_eq_left (not_lt.mp hgt)).symm
    rw [hportion, currency, currency, currency, halfUp_mono.map_min, halfUp_halfUp,
      ← halfUp_mono.map_min]
  · obtain ⟨-, rfl⟩ := Prod.mk.inj (Except.ok.inj hsplit)
    exact halfUp_halfUp 2 _

theorem Splits.interest_rounded (hsplits : Splits amount principalPortion interestPortion)
    (htie : ¬ Tie 2 amount) {i : ℚ} (hi : AtScale 2 i) :
    currency (i + interestPortion) = i + currency interestPortion := by
  rcases hsplits.scale with hscale | hscale
  · have hrest : interestPortion = -principalPortion + amount := by
      rw [← hsplits.sum]
      ring
    have hneg : AtScale 2 (-principalPortion) := by
      rw [← zero_sub]
      exact (atScale_zero 2).sub hscale
    rw [hrest, ← add_assoc, currency, currency, halfUp_add_of_not_tie (hi.add hneg) htie,
      halfUp_add_of_not_tie hneg htie]
    ring
  · rw [currency, currency, halfUp_of_atScale (hi.add hscale), halfUp_of_atScale hscale]

/-- A payment takes the interest that is owed exactly when that is, to the cent, the interest in
it. -/
theorem takes_owed_iff (h : Recovering loan) {interestFree : Bool}
    {method : Option InterestMethod}
    (hsplit : splitPayment interestFree method loan amount =
      .ok (principalPortion, interestPortion)) (htie : ¬ Tie 2 amount) :
    currency (loan.interestPaid + interestPortion) = loan.totalInterest ↔
      OwesJust interestFree method loan amount := by
  have hrounded := (splits_of_splitPayment hsplit).interest_rounded htie h.interestScale
  rw [OwesJust, EmployeeLoan.interestOwed,
    ← halfUp_eq_iff (h.agreedScale.sub h.interestScale), hrounded, currency_interestPortion hsplit]
  constructor <;> intro htakes <;> linarith

/-- **One payment** that the balance covers, and that takes the interest still owed if it pays off
the balance. -/
theorem Recovering.pay (h : Recovering loan) (hstatus : loan.status = .disbursed)
    (hsplits : Splits amount principalPortion interestPortion) (htie : ¬ Tie 2 amount)
    (hle : amount ≤ loan.outstandingBalance)
    (htakes : currency amount = loan.outstandingBalance →
      currency (loan.interestPaid + interestPortion) = loan.totalInterest) :
    Recovering (repaid amount principalPortion interestPortion paymentDate loan) := by
  obtain ⟨hsum, hbalance⟩ := h.split_repaid paymentDate hsplits htie hle
  refine ⟨?_, ?_, ?_, ?_, ?_, fun _ => ?_, fun hcompleted => ?_⟩
  · rw [totalRepayable_repaid]
    exact hsum
  · rw [hbalance]
    exact h.outstandingScale.sub (atScale_halfUp 2 _)
  · rw [principalPaid_repaid]
    exact atScale_halfUp 2 _
  · rw [interestPaid_repaid]
    exact atScale_halfUp 2 _
  · rw [totalInterest_repaid]
    exact h.agreedScale
  · rw [principalAmount_repaid, totalInterest_repaid, totalRepayable_repaid]
    exact h.terms (Or.inl hstatus)
  · rcases status_repaid amount principalPortion interestPortion paymentDate loan with
      ⟨-, hzero⟩ | ⟨hsame, -⟩
    · have hoff : currency amount = loan.outstandingBalance := by
        rw [hzero] at hbalance
        linarith
      exact (recovered_repaid_iff h hstatus hsplits htie hle hoff).mpr (htakes hoff)
    · exact absurd ((hcompleted.symm.trans hsame).trans hstatus) (by decide)

end Payments

/-! ### Calls -/

/-- The call leaves nothing to be recovered: a loan is disbursed under terms that add up; no
deduction is larger than the balance it is recorded against and no manual payment ends in half a
cent; and where the balance is paid off, the interest in it is what is owed, and a deduction of it
is still the one the service would work out. -/
def LoanCall.RecoversRest (r : LoanRun) : LoanCall → Prop
  | disburse _ loanId _ => ∀ loan ∈ r.store.loans.get? loanId, loan.status = .approved →
      loan.principalAmount + loan.totalInterest = loan.totalRepayable
  | deduct index _ _ _ _ => ∀ item ∈ r.computed[index]?, ∀ loan ∈ r.store.loans.get? item.loanId,
      loan.status = .disbursed → item.amount ≤ loan.outstandingBalance ∧
        (item.amount = loan.outstandingBalance →
          let interestFree := loan.interestRate = 0 || loan.totalInterest = 0
          let method := (loanTypeOf r.store loan).map LoanType.interestMethod
          OwesJust interestFree method loan item.amount ∧
            splitPayment interestFree method loan item.amount =
              .ok (item.principalPortion, item.interestPortion))
  | pay _ loanId amount _ => ∀ loan ∈ r.store.loans.get? loanId,
      loan.status = .disbursed → ¬ Tie 2 (min amount loan.outstandingBalance) ∧
        (currency (min amount loan.outstandingBalance) = loan.outstandingBalance →
          OwesJust (loan.interestRate = 0) ((loanTypeOf r.store loan).map LoanType.interestMethod)
            loan (min amount loan.outstandingBalance))
  | _ => True

instance (r : LoanRun) : (c : LoanCall) → Decidable (c.RecoversRest r)
  | .disburse _ _ _ | .deduct _ _ _ _ _ | .pay _ _ _ _ => by
    unfold LoanCall.RecoversRest
    infer_instance
  | .create _ _ | .approve _ _ | .reject _ _ | .compute _ | .others _ _ _ _ =>
    inferInstanceAs (Decidable True)

/-! ### Runs -/

structure Recoverable (r : LoanRun) : Prop where
  loans : ∀ k loan, r.store.loans.get? k = some loan → Recovering loan
  computed : ∀ item ∈ r.computed, item.InCents

theorem Opening.recovering {loan : EmployeeLoan} (h : Opening loan) : Recovering loan where
  split := by rw [h.principalPaid, h.interestPaid, h.outstanding, zero_add, zero_add]
  outstandingScale := h.scale
  principalScale := by
    rw [h.principalPaid]
    exact atScale_zero 2
  interestScale := by
    rw [h.interestPaid]
    exact atScale_zero 2
  agreedScale := h.interestScale
  terms := fun hd => by
    rcases h.status with hs | hs <;> rcases hd with hd | hd <;> simp [hs] at hd
  recovered := fun hs => by rcases h.status with hs' | hs' <;> simp [hs'] at hs

theorem Recovering.withStatus {loan : EmployeeLoan} (h : Recovering loan) {status : LoanStatus}
    {date : Option Date} (hopen : status ≠ .completed)
    (hterms : status = .disbursed → loan.principalAmount + loan.totalInterest =
      loan.totalRepayable) :
    Recovering { loan with status := status, disbursementDate := date } where
  split := h.split
  outstandingScale := h.outstandingScale
  principalScale := h.principalScale
  interestScale := h.interestScale
  agreedScale := h.agreedScale
  terms := fun hd => hterms (hd.resolve_right hopen)
  recovered := fun hs => absurd hs hopen

namespace Recoverable

variable {r : LoanRun} {s' : LoanStore} {loanId k org : UUID} {loan : EmployeeLoan}

theorem change (h : Recoverable r) {verb : String} {source : LoanStatus} {u : PUnit}
    {f : EmployeeLoan → EmployeeLoan}
    (hf : ∀ loan, r.store.loans.get? k = some loan → loan.status = source → Recovering loan →
      Recovering (f loan)) (hrun : changeStatus verb source org k f r.store = .ok u s') :
    Recoverable { r with store := s' } := by
  obtain ⟨loan, hloan, hstatus, rfl⟩ := changeStatus_eq_ok hrun
  refine ⟨fun k' loan' hk' => ?_, h.computed⟩
  rw [Table.get?_modify] at hk'
  split_ifs at hk' with hk
  · rw [hk, hloan] at hk'
    obtain rfl := Option.some.inj hk'
    exact hf loan hloan hstatus (h.loans k loan hloan)
  · exact h.loans k' loan' hk'

theorem pay (h : Recoverable r) {amount principalPortion interestPortion : ℚ}
    (hpaid : Paid r.store s' loanId loan amount principalPortion interestPortion)
    (hsplits : Splits amount principalPortion interestPortion) (htie : ¬ Tie 2 amount)
    (hle : amount ≤ loan.outstandingBalance)
    (htakes : currency amount = loan.outstandingBalance →
      currency (loan.interestPaid + interestPortion) = loan.totalInterest) :
    Recoverable { r with store := s' } := by
  obtain ⟨n, paymentDate, hloans⟩ := hpaid.loans
  have hold := h.loans loanId loan hpaid.found
  have hcounted : Recovering { loan with installmentsPaid := n } :=
    ⟨hold.split, hold.outstandingScale, hold.principalScale, hold.interestScale, hold.agreedScale,
      hold.terms, fun hs => ⟨(hold.recovered hs).principal, (hold.recovered hs).interest⟩⟩
  refine ⟨fun k' loan' hk' => ?_, h.computed⟩
  rw [hloans, Table.get?_modify] at hk'
  split_ifs at hk' with hk
  · rw [hk, hpaid.found] at hk'
    obtain rfl := Option.some.inj hk'
    exact hcounted.pay hpaid.disbursed hsplits htie hle htakes
  · exact h.loans k' loan' hk'

theorem onStore {α : Type} {program : LoanSession α} (h : Recoverable r)
    (hrun : ∀ a s', program r.store = .ok a s' → Recoverable { r with store := s' }) :
    Recoverable (LoanCall.onStore program r) :=
  commit_induction (P := fun s => Recoverable { r with store := s }) h hrun

/-- **One call** that leaves nothing to be recovered. -/
theorem act (h : Recoverable r) {c : LoanCall} (hc : c.RecoversRest r) :
    Recoverable (LoanCall.act r c) := by
  cases c with
  | create org input =>
    refine h.onStore fun _ _ hrun => ?_
    obtain ⟨loan, hopening, rfl⟩ := createLoan_eq_ok hrun
    refine ⟨fun k' loan' hk' => ?_, h.computed⟩
    rw [Table.get?_insert] at hk'
    split_ifs at hk'
    · obtain rfl := Option.some.inj hk'
      exact hopening.recovering
    · exact h.loans k' loan' hk'
  | approve org loanId =>
    refine h.onStore fun _ _ hrun => h.change (fun loan _ _ hold => ?_) hrun
    exact hold.withStatus (by decide) (by simp)
  | reject org loanId =>
    refine h.onStore fun _ _ hrun => h.change (fun loan _ _ hold => ?_) hrun
    exact hold.withStatus (by decide) (by simp)
  | disburse org loanId today =>
    refine h.onStore fun _ _ hrun => h.change (fun loan hloan hstatus hold => ?_) hrun
    exact hold.withStatus (by decide) fun _ => hc loan hloan hstatus
  | compute request =>
    simp only [LoanCall.act]
    cases hitems : getDueDeductions request r.store with
    | error e => exact h
    | ok items =>
      refine ⟨h.loans, fun item hitem => ?_⟩
      rcases List.mem_append.mp hitem with hold | hnew
      · exact h.computed item hold
      · exact getDueDeductions_inCents (fun _ _ hk => (h.loans _ _ hk).outstandingScale) hitems
          item hnew
  | deduct index slipId repaymentDate skipLinkCreation org =>
    simp only [LoanCall.act]
    cases hitem : r.computed[index]? with
    | none => exact h
    | some item =>
      have hcents := h.computed item (List.mem_of_getElem? hitem)
      refine h.onStore fun _ _ hrun => ?_
      obtain ⟨loan, hpaid⟩ := recordPayrollDeduction_eq_ok hrun
      obtain ⟨hle, htakes⟩ := hc item hitem loan hpaid.found hpaid.disbursed
      refine h.pay hpaid hcents.splits (not_tie_of_atScale hcents.scale) hle fun hoff => ?_
      rw [currency, halfUp_of_atScale hcents.scale] at hoff
      obtain ⟨howes, hsplit⟩ := htakes hoff
      exact (takes_owed_iff (h.loans _ _ hpaid.found) hsplit
        (not_tie_of_atScale hcents.scale)).mpr howes
  | pay org loanId amount paymentDate =>
    refine h.onStore fun _ _ hrun => ?_
    obtain ⟨loan, principalPortion, interestPortion, hsplit, hpaid⟩ :=
      recordManualPayment_eq_ok hrun
    obtain ⟨htie, htakes⟩ := hc loan hpaid.found hpaid.disbursed
    exact h.pay hpaid (splits_of_splitPayment hsplit) htie (min_le_right _ _) fun hoff =>
      (takes_owed_iff (h.loans _ _ hpaid.found) hsplit htie).mpr (htakes hoff)
  | others employees loanTypes slips slipDeductions => exact ⟨h.loans, h.computed⟩

theorem of_reachable (h : loanSystem.ReachableWithin (fun r c => c.RecoversRest r) r) :
    Recoverable r := by
  refine h.invariant (fun r hr => ?_) ?_
  · obtain ⟨hloans, -, hcomputed⟩ := hr
    refine ⟨fun k loan hk => ?_, fun item hitem => ?_⟩
    · simp [hloans] at hk
    · rw [hcomputed] at hitem
      exact absurd hitem List.not_mem_nil
  · rintro r c _ hr hc rfl
    exact hr.act hc

end Recoverable

def lendAt (method : InterestMethod) : List LoanCall :=
  [.others payrollOffice.store.employees (Table.empty.insert {
        organizationId := 1
        typeName := "Staff loan"
        interestMethod := method
        defaultInterestRate := 12 }) payrollOffice.store.slips Table.empty,
    .create 1 {
      employeeId := 0
      principalAmount := 1000
      tenureMonths := 2
      loanTypeId := some 0
      loanNumber := "LOAN-2024-00001"
      today := lendingDay },
    .approve 1 0, .disburse 1 0 lendingDay]

def payBack : List LoanCall := [computeSlip, .deduct 0 0 slipDay true none, .pay 1 0 5000 slipDay]

end DotmacErp.Payroll
