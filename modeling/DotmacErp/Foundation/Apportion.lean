import Mathlib.Algebra.BigOperators.Group.List.Basic
import Mathlib.Algebra.BigOperators.Ring.List
import Mathlib.Algebra.CharZero.Defs
import Mathlib.Algebra.Field.Basic
import Mathlib.Tactic.Common

/-!
# Apportioning a price

A price is shared among the members of a list in proportion to their weights, and equally when the
weights add up to nothing. The shares of a list that is not empty add up to the price
(`sum_share`).
-/

namespace Apportion

variable {α K : Type*} [Field K] [DecidableEq K]

/-- The share of a weight `w` in a price, of a list of `count` members of weight `total`. -/
def share (price total : K) (count : ℕ) (w : K) : K :=
  price * (if total = 0 then 1 / (count : K) else w / total)

theorem share_eq_iff [CharZero K] {price total w q : K} {count : ℕ} :
    share price total (count + 1) w = q ↔
      if total = 0 then q * (count + 1) = price else q * total = price * w := by
  have hcount : (count : K) + 1 ≠ 0 := Nat.cast_add_one_ne_zero count
  rw [share, Nat.cast_succ]
  split_ifs with htotal
  · rw [mul_one_div, div_eq_iff hcount, eq_comm]
  · rw [mul_div_assoc', div_eq_iff htotal, eq_comm]

variable {price : K} {l : List α} {weight : α → K}

/-- **The shares add up to the price.** -/
theorem sum_share [CharZero K] (h : l ≠ []) :
    (l.map fun a => share price (l.map weight).sum l.length (weight a)).sum = price := by
  unfold share
  rw [List.sum_map_mul_left]
  split_ifs with htotal
  · have hlength : (l.length : K) ≠ 0 := Nat.cast_ne_zero.mpr (List.length_pos_iff.mpr h).ne'
    rw [List.map_const', List.sum_replicate, nsmul_eq_mul, mul_one_div_cancel hlength, mul_one]
  · have hweights : (l.map fun a => weight a / (l.map weight).sum).sum = 1 := by
      simp only [div_eq_mul_inv]
      rw [List.sum_map_mul_right, mul_inv_cancel₀ htotal]
    rw [hweights, mul_one]

end Apportion
