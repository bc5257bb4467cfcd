import Mathlib.Algebra.BigOperators.Intervals
import Mathlib.Algebra.Field.GeomSum
import Mathlib.Algebra.Order.BigOperators.Group.Finset
import Mathlib.Algebra.Order.Ring.Pow
import Mathlib.Tactic.FieldSimp
import Mathlib.Tactic.Linarith
import Mathlib.Tactic.Ring

/-!
# Annuities

What is paid at some times, one each, is worth less the later it is paid: each period discounts it
by the rate. Paid at the ends of the periods (`ordinary`) it is worth one period's discount less
than paid at their beginnings (`due`).

The closed form that programs use divides by the rate (`closedForm_eq`), and is undefined where the
rate is zero; the sums are not. At rates that are not negative an annuity is worth no more than what
is paid, and less at a higher rate; at a small rate it is worth nearly all of it.
-/

namespace Annuities

open Finset

variable {K : Type*} [Field K]

/-- What payments of one at the beginnings of the periods are worth. -/
def due (rate : K) (periods : ℕ) : K := ∑ j ∈ range periods, (1 + rate)⁻¹ ^ j

/-- What payments of one at the ends of the periods are worth. -/
def ordinary (rate : K) (periods : ℕ) : K := ∑ j ∈ range periods, (1 + rate)⁻¹ ^ (j + 1)

@[simp] theorem due_rate_zero (periods : ℕ) : due (0 : K) periods = periods := by simp [due]

@[simp] theorem ordinary_rate_zero (periods : ℕ) : ordinary (0 : K) periods = periods := by
  simp [ordinary]

@[simp] theorem due_periods_zero (rate : K) : due rate 0 = 0 := by simp [due]

@[simp] theorem ordinary_periods_zero (rate : K) : ordinary rate 0 = 0 := by simp [ordinary]

variable {rate : K}

theorem ordinary_mul (h : 1 + rate ≠ 0) (periods : ℕ) :
    ordinary rate periods * (1 + rate) = due rate periods := by
  rw [ordinary, due, Finset.sum_mul]
  refine Finset.sum_congr rfl fun j _ => ?_
  rw [pow_succ, mul_assoc, inv_mul_cancel₀ h, mul_one]

/-- **The closed form** of an annuity. -/
theorem closedForm_eq (hrate : rate ≠ 0) (h : 1 + rate ≠ 0) (periods : ℕ) :
    (1 - (1 + rate)⁻¹ ^ periods) / rate = ordinary rate periods := by
  induction periods with
  | zero => simp
  | succ periods ih =>
    have hsucc : ordinary rate (periods + 1) =
        ordinary rate periods + (1 + rate)⁻¹ ^ (periods + 1) := Finset.sum_range_succ _ _
    rw [hsucc, ← ih, pow_succ]
    field_simp
    ring

/-! ### Bounds -/

section Bounds

variable [LinearOrder K] [IsStrictOrderedRing K] {other : K} {periods : ℕ}

theorem inv_one_add_nonneg (h : 0 ≤ rate) : 0 ≤ (1 + rate)⁻¹ :=
  inv_nonneg.mpr (by linarith)

theorem inv_one_add_le_one (h : 0 ≤ rate) : (1 + rate)⁻¹ ≤ 1 :=
  inv_le_one_of_one_le₀ (by linarith)

theorem due_le (h : 0 ≤ rate) : due rate periods ≤ periods := by
  have hle : ∀ j ∈ range periods, (1 + rate)⁻¹ ^ j ≤ 1 := fun j _ =>
    pow_le_one₀ (inv_one_add_nonneg h) (inv_one_add_le_one h)
  simpa [due] using Finset.sum_le_card_nsmul _ _ _ hle

theorem ordinary_le_due (h : 0 ≤ rate) : ordinary rate periods ≤ due rate periods :=
  Finset.sum_le_sum fun _ _ =>
    pow_le_pow_of_le_one (inv_one_add_nonneg h) (inv_one_add_le_one h) (Nat.le_succ _)

/-- At a rate as high as the number of payments, those that are paid at the ends are worth less than
one of them. -/
theorem ordinary_lt_one (h : (periods : K) ≤ rate) : ordinary rate periods < 1 := by
  have hrate : 0 ≤ rate := periods.cast_nonneg.trans h
  have hworth := (ordinary_mul (by linarith) periods).trans_le (due_le hrate)
  by_contra hone
  nlinarith [not_lt.mp hone]

theorem one_le_due (h : 0 ≤ rate) (hperiods : periods ≠ 0) : 1 ≤ due rate periods := by
  obtain ⟨n, rfl⟩ := Nat.exists_eq_succ_of_ne_zero hperiods
  have hsum := Finset.single_le_sum (f := fun j => (1 + rate)⁻¹ ^ j) (s := range (n + 1))
    (fun j _ => pow_nonneg (inv_one_add_nonneg h) j) (mem_range.mpr n.succ_pos)
  simpa [due] using hsum

/-- At a higher rate two payments or more are worth less. -/
theorem due_lt_due (h : 0 ≤ rate) (hlt : rate < other) (hperiods : 2 ≤ periods) :
    due other periods < due rate periods := by
  have hdiscount : (1 + other)⁻¹ < (1 + rate)⁻¹ :=
    inv_strictAnti₀ (by linarith) (by linarith)
  refine Finset.sum_lt_sum (fun j _ => ?_) ⟨1, mem_range.mpr hperiods, ?_⟩
  · exact pow_le_pow_left₀ (inv_one_add_nonneg (h.trans hlt.le)) hdiscount.le j
  · rw [pow_one, pow_one]
    exact hdiscount

/-- Each of the payments loses no more than the rate for each period. -/
theorem mul_one_sub_le_due (h : 0 ≤ rate) :
    (periods : K) * (1 - periods * rate) ≤ due rate periods := by
  have hle : ∀ j ∈ range periods, 1 - periods * rate ≤ (1 + rate)⁻¹ ^ j := by
    intro j hj
    have hdiscount : 1 - rate ≤ (1 + rate)⁻¹ := by
      rw [← one_div, le_div_iff₀ (by linarith)]
      nlinarith
    have hbernoulli := one_add_mul_le_pow (a := (1 + rate)⁻¹ - 1)
      (by linarith [inv_one_add_nonneg h]) j
    rw [add_sub_cancel] at hbernoulli
    have hj' : (j : K) ≤ periods := Nat.cast_le.mpr (mem_range.mp hj).le
    nlinarith
  simpa [due] using Finset.card_nsmul_le_sum _ _ _ hle

end Bounds

end Annuities
