import DotmacErp.Foundation.Rounding

/-!
# Rounding the members of a sum

Rounding the members of a list and adding them up is not rounding their sum. The two agree if and
only if what the rounding takes away from the members, the `residue`, is nothing to the sum
(`halfUp_sum_eq_iff`): it is less than half a unit, or half a unit that the rounding of the sum
gives back.
-/

namespace Rounding

variable {n : ℕ} {q r : ℚ}

def residue (n : ℕ) (l : List ℚ) : ℚ := (l.map fun q => q - halfUp n q).sum

/-- A residue that the rounding of a total gives back: less than half a unit, or half a unit
towards zero. -/
def Vanishes (n : ℕ) (total residue : ℚ) : Prop :=
  |residue| < 1 / (2 * 10 ^ n) ∨ (0 ≤ total ∧ residue = -(1 / (2 * 10 ^ n))) ∨
    (total < 0 ∧ residue = 1 / (2 * 10 ^ n))

instance (n : ℕ) (total residue : ℚ) : Decidable (Vanishes n total residue) :=
  inferInstanceAs (Decidable (_ ∨ _ ∨ _))

theorem AtScale.natMul (h : AtScale n q) (k : ℕ) : AtScale n (k * q) := by
  have hsum := atScale_sum (l := List.replicate k q) fun r hr => by
    rw [List.eq_of_mem_replicate hr]
    exact h
  rwa [List.sum_replicate, nsmul_eq_mul] at hsum

theorem AtScale.of_le {m : ℕ} (h : AtScale n q) (hle : n ≤ m) : AtScale m q := by
  obtain ⟨z, rfl⟩ := h
  refine ⟨z * 10 ^ (m - n), ?_⟩
  have hpow : (10 : ℚ) ^ m = 10 ^ n * 10 ^ (m - n) := by rw [← pow_add, Nat.add_sub_cancel' hle]
  push_cast
  rw [hpow]
  field_simp

theorem atScale_natCast (n k : ℕ) : AtScale n (k : ℚ) := by
  refine ⟨k * 10 ^ n, ?_⟩
  push_cast
  rw [mul_div_cancel_right₀ _ (by positivity)]

theorem sum_eq_add_residue (n : ℕ) (l : List ℚ) :
    l.sum = (l.map (halfUp n)).sum + residue n l := by
  induction l with
  | nil => simp [residue]
  | cons q l ih =>
    rw [residue, List.map_cons, List.map_cons, List.sum_cons, List.sum_cons, List.sum_cons, ih,
      ← residue]
    ring

/-- The nearest integer of a value is the one less than half a unit away, or half a unit away from
zero. -/
theorem halfAwayFromZero_eq_iff (x : ℚ) (z : ℤ) :
    halfAwayFromZero x = z ↔ |x - z| < 1 / 2 ∨ (0 ≤ x ∧ x - z = -(1 / 2)) ∨
      (x < 0 ∧ x - z = 1 / 2) := by
  rw [halfAwayFromZero, abs_lt]
  split_ifs with hx
  · rw [Int.floor_eq_iff]
    constructor
    · rintro ⟨hlow, hhigh⟩
      rcases eq_or_lt_of_le (show -(1 / 2) ≤ x - z by linarith) with htie | hlt
      · exact Or.inr (Or.inl ⟨hx, htie.symm⟩)
      · exact Or.inl ⟨hlt, by linarith⟩
    · rintro (⟨hlow, hhigh⟩ | ⟨-, htie⟩ | ⟨hneg, -⟩)
      · constructor <;> linarith
      · constructor <;> linarith
      · exact absurd hneg (not_lt.mpr hx)
  · rw [neg_eq_iff_eq_neg, Int.floor_eq_iff]
    push_cast
    constructor
    · rintro ⟨hlow, hhigh⟩
      rcases eq_or_lt_of_le (show x - z ≤ 1 / 2 by linarith) with htie | hlt
      · exact Or.inr (Or.inr ⟨not_le.mp hx, htie⟩)
      · exact Or.inl ⟨by linarith, hlt⟩
    · rintro (⟨hlow, hhigh⟩ | ⟨hpos, -⟩ | ⟨-, htie⟩)
      · constructor <;> linarith
      · exact absurd hpos hx
      · constructor <;> linarith

theorem halfUp_eq_iff (hr : AtScale n r) : halfUp n q = r ↔ Vanishes n q (q - r) := by
  obtain ⟨z, rfl⟩ := hr
  have hpow : (0 : ℚ) < 10 ^ n := by positivity
  have hunit : 1 / (2 * 10 ^ n) = (1 / 2 : ℚ) / 10 ^ n := by rw [div_div]
  have hneg : -((1 / 2 : ℚ) / 10 ^ n) = -(1 / 2) / 10 ^ n := (neg_div _ _).symm
  have hdiff : q - (z : ℚ) / 10 ^ n = (q * 10 ^ n - z) / 10 ^ n := by field_simp
  have hsign : q * 10 ^ n < 0 ↔ q < 0 := by
    rw [← not_le, mul_nonneg_iff_of_pos_right hpow, not_le]
  rw [halfUp, div_left_inj' hpow.ne', Int.cast_inj, halfAwayFromZero_eq_iff, Vanishes, hunit,
    hdiff, hneg, abs_div, abs_of_pos hpow, div_lt_div_iff_of_pos_right hpow,
    div_left_inj' hpow.ne', div_left_inj' hpow.ne', mul_nonneg_iff_of_pos_right hpow,
    hsign]

/-- A value is rounded to at most a nonnegative one at scale when it is less than half a unit
above it. -/
theorem halfUp_le_iff (hr : AtScale n r) (h0 : 0 ≤ r) :
    halfUp n q ≤ r ↔ q < r + 1 / (2 * 10 ^ n) := by
  obtain ⟨z, rfl⟩ := hr
  have hpow : (0 : ℚ) < 10 ^ n := by positivity
  have hz : 0 ≤ z := by
    have hcast := mul_nonneg h0 hpow.le
    rw [div_mul_cancel₀ _ hpow.ne'] at hcast
    exact_mod_cast hcast
  have hbound : q < (z : ℚ) / 10 ^ n + 1 / (2 * 10 ^ n) ↔ q * 10 ^ n < z + 1 / 2 := by
    rw [← mul_lt_mul_iff_left₀ hpow, add_mul, div_mul_cancel₀ _ hpow.ne',
      show 1 / (2 * 10 ^ n) * 10 ^ n = (1 / 2 : ℚ) by field_simp]
  rw [halfUp, div_le_div_iff_of_pos_right hpow, Int.cast_le, hbound, halfAwayFromZero]
  split_ifs with hq
  · rw [← Int.lt_add_one_iff, Int.floor_lt]
    push_cast
    constructor <;> intro h <;> linarith
  · -- a negative value is rounded to at most zero
    have hnonneg : 0 ≤ ⌊-(q * 10 ^ n) + 1 / 2⌋ := Int.floor_nonneg.mpr (by linarith)
    have hcast : (0 : ℚ) ≤ z := by exact_mod_cast hz
    exact iff_of_true (by omega) (by linarith)

theorem halfUp_nonneg_iff : 0 ≤ halfUp n q ↔ -(1 / (2 * 10 ^ n)) < q := by
  have hneg := halfUp_le_iff (q := -q) (atScale_zero n) le_rfl
  rw [halfUp_neg, zero_add] at hneg
  rw [← neg_nonpos, hneg, neg_lt]

theorem halfUp_eq_zero_iff : halfUp n q = 0 ↔ |q| < 1 / (2 * 10 ^ n) := by
  have hbelow := halfUp_nonneg_iff (n := n) (q := -q)
  rw [halfUp_neg, neg_nonneg] at hbelow
  rw [le_antisymm_iff, hbelow, halfUp_nonneg_iff, neg_lt_neg_iff, and_comm, abs_lt]

theorem abs_sub_halfUp_le (hr : AtScale n r) (h : |r - q| ≤ 1 / 10 ^ n) :
    |r - halfUp n q| ≤ 1 / 10 ^ n := by
  have hunit : AtScale n (1 / 10 ^ n) := ⟨1, by simp⟩
  obtain ⟨hlow, hhigh⟩ := abs_le.mp h
  have hbelow := halfUp_mono (n := n) (show r - 1 / 10 ^ n ≤ q by linarith)
  have habove := halfUp_mono (n := n) (show q ≤ r + 1 / 10 ^ n by linarith)
  rw [halfUp_of_atScale (hr.sub hunit)] at hbelow
  rw [halfUp_of_atScale (hr.add hunit)] at habove
  exact abs_le.mpr ⟨by linarith, by linarith⟩

/-- **Rounding the members of a sum** is rounding the sum if and only if the residue vanishes. -/
theorem halfUp_sum_eq_iff (n : ℕ) (l : List ℚ) :
    halfUp n l.sum = (l.map (halfUp n)).sum ↔ Vanishes n l.sum (residue n l) := by
  have hscale : AtScale n (l.map (halfUp n)).sum := by
    refine atScale_sum fun q hq => ?_
    obtain ⟨p, -, rfl⟩ := List.mem_map.mp hq
    exact atScale_halfUp n p
  have hresidue : l.sum - (l.map (halfUp n)).sum = residue n l := by
    rw [sum_eq_add_residue n l, add_sub_cancel_left]
  rw [halfUp_eq_iff hscale, hresidue]

end Rounding
