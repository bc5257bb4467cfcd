import DotmacErp.Payroll.LoanLedger

/-!
# The deductions of a period

`getDueDeductions` goes through the active loans of an employee, each of which it passes over or
serves. `Serves` is the relation of the loans to the deductions that come out: a loan is passed
over when it is excused in the period, or when nothing can be taken for it any more, and what is
taken for a loan counts against the pay of those after it.

Without a gross pay there is no cap, and a loan that is not excused is served whenever something is
due on it (`Serves.exists_item`).
-/

namespace DotmacErp.Payroll

open LoanService Relational

theorem dueAmount_of_grossPay_none {request : DeductionRequest} (h : request.grossPay = none)
    (running : ℚ) (loan : EmployeeLoan) :
    dueAmount request running loan = if 0 < loan.due then some loan.due else none := by
  simp only [dueAmount, h, due_eq, Option.filter_some, decide_eq_true_eq]

namespace Serves

variable {s : LoanStore} {request : DeductionRequest} {running : ℚ}
  {rows : List (Stored EmployeeLoan)} {items : List LoanDeductionItem}

theorem row_of_mem (h : Serves s request running rows items) :
    ∀ item ∈ items, ∃ row ∈ rows, item.loanId = row.id ∧
      ∃ running', dueAmount request running' row.row = some item.amount := by
  induction h with
  | nil running => simp
  | pass hpass h ih =>
    intro item hitem
    obtain ⟨row, hrow, hid, hamount⟩ := ih item hitem
    exact ⟨row, List.mem_cons_of_mem _ hrow, hid, hamount⟩
  | serve hserve hdue hsplit h ih =>
    intro item hitem
    rcases List.mem_cons.mp hitem with rfl | hitem
    · exact ⟨_, List.mem_cons_self, rfl, _, hdue⟩
    · obtain ⟨row, hrow, hid, hamount⟩ := ih item hitem
      exact ⟨row, List.mem_cons_of_mem _ hrow, hid, hamount⟩

theorem exists_item (h : Serves s request running rows items) (hgross : request.grossPay = none)
    {row : Stored EmployeeLoan} (hrow : row ∈ rows) (hserve : ¬ Excused s request row)
    (hdue : 0 < row.row.due) : ∃ item ∈ items, item.loanId = row.id := by
  induction h with
  | nil running => exact absurd hrow (by simp)
  | pass hpass h ih =>
    rcases List.mem_cons.mp hrow with rfl | hrow
    · -- a loan that is passed over would be excused, or owe nothing
      rcases hpass with hexcused | hnone
      · exact absurd hexcused hserve
      · rw [dueAmount_of_grossPay_none hgross, if_pos hdue] at hnone
        exact absurd hnone (by simp)
    · exact ih hrow
  | serve hserve' hdue' hsplit h ih =>
    rcases List.mem_cons.mp hrow with rfl | hrow
    · exact ⟨_, List.mem_cons_self, rfl⟩
    · obtain ⟨item, hitem, hid⟩ := ih hrow
      exact ⟨item, List.mem_cons_of_mem _ hitem, hid⟩

end Serves

end DotmacErp.Payroll
