import Mathlib.Algebra.BigOperators.Group.Finset.Basic
import Mathlib.Algebra.Order.BigOperators.Group.Finset
import Mathlib.Algebra.Order.Group.MinMax
import Mathlib.Tactic.Abel

/-!
# Charges on a balance that has a floor

A balance above a floor is charged one amount after another; a charge takes what it asks for, or
what the balance is above the floor if that is less. Charges that are not negative leave the balance
less their sum, or the floor (`balance_eq_max`); so the balance is at its floor if and only if the
charges add up to what it was above it (`balance_eq_floor_iff`).
-/

namespace FlooredCharges

variable {K : Type*} [AddCommGroup K] [LinearOrder K] [IsOrderedAddMonoid K]
variable {floor a : K} {p : ℕ → K}

/-- What a charge takes. -/
def taken (floor a p : K) : K := if a - floor ≤ 0 then 0 else min p (a - floor)

/-- The balance after some charges. -/
def balance (floor : K) (p : ℕ → K) (a : K) : ℕ → K
  | 0 => a
  | i + 1 => balance floor p a i - taken floor (balance floor p a i) (p i)

theorem sub_taken_eq_max (h : floor ≤ a) {q : K} (hq : 0 ≤ q) :
    a - taken floor a q = max floor (a - q) := by
  rw [taken]
  split_ifs with hle
  · have heq : a = floor := le_antisymm (sub_nonpos.mp hle) h
    rw [heq, sub_zero, max_eq_left (sub_le_self _ hq)]
  · rcases le_total q (a - floor) with hq' | hq'
    · rw [min_eq_left hq', max_eq_right (le_sub_comm.mp hq')]
    · rw [min_eq_right hq', sub_sub_cancel, max_eq_left (sub_le_comm.mp hq')]

/-- **The balance after charges that are not negative.** -/
theorem balance_eq_max (h : floor ≤ a) {n : ℕ} (hp : ∀ i < n, 0 ≤ p i) :
    balance floor p a n = max floor (a - ∑ i ∈ Finset.range n, p i) := by
  induction n with
  | zero => rw [balance, Finset.sum_range_zero, sub_zero, max_eq_right h]
  | succ n ih =>
    have hn := ih fun i hi => hp i (Nat.lt_succ_of_lt hi)
    have hfloor : floor ≤ balance floor p a n := hn ▸ le_max_left _ _
    have hpn := hp n (Nat.lt_succ_self n)
    rw [balance, sub_taken_eq_max hfloor hpn, hn, Finset.sum_range_succ, ← sub_sub]
    -- what is cut at the floor stays at the floor
    rcases le_total floor (a - ∑ i ∈ Finset.range n, p i) with hle | hle
    · rw [max_eq_right hle]
    · rw [max_eq_left hle, max_eq_left (sub_le_self _ hpn),
        max_eq_left ((sub_le_self _ hpn).trans hle)]

theorem balance_eq_floor_iff (h : floor ≤ a) {n : ℕ} (hp : ∀ i < n, 0 ≤ p i) :
    balance floor p a n = floor ↔ a - floor ≤ ∑ i ∈ Finset.range n, p i := by
  rw [balance_eq_max h hp, max_eq_left_iff, sub_le_comm]

end FlooredCharges
