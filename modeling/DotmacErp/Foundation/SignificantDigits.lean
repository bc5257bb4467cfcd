import DotmacErp.Foundation.Rounding
import Mathlib.Algebra.Order.Field.Power
import Mathlib.Tactic.NormNum
import Mathlib.Tactic.Zify

/-!
# Significant digits

A value other than zero has its first significant digit at its `magnitude`
(`magnitude_spec`). Rounded to `n` significant digits it is kept as it is if it is a multiple of a
unit of the last of them, as a value at scale `s` below `10ⁿ⁻ˢ` is (`significant_of_atScale`). So
sums of values at scale are exact while they are small enough.

The default context of the decimals of the program has 28 digits: its quotients and products are
rounded to them (`decimal`), and a power is worked out by squares, with some digits more
(`decimalPower`). A quotient of whole numbers that is not one of decimals is a binary floating-point
number (`binary64`).
-/

namespace Rounding

variable {n s : ℕ} {q r : ℚ}

/-! ### The default context -/

/-- A result in the default context. -/
abbrev decimal (q : ℚ) : ℚ := significant 28 q

/-- A power in the default context: by squares from the first binary digit of the exponent on, at
the digits of the context, two more and those of the exponent. -/
def decimalPower (base : ℚ) (exponent : ℕ) : ℚ :=
  let digits := 30 + (Nat.toDigits 10 exponent).length
  if exponent = 0 then 1
  else decimal ((Nat.toDigits 2 exponent).tail.foldl (fun power bit =>
    let square := significant digits (power * power)
    if bit = '1' then significant digits (square * base) else square) base)

/-- The floating-point number of 53 binary digits next to a value, a tie going to the even one. -/
def binary64 (q : ℚ) : ℚ :=
  let e : ℤ := (q.num.natAbs.log2 : ℤ) - q.den.log2
  let unit := (2 : ℚ) ^ ((if (2 : ℚ) ^ e ≤ |q| then e else e - 1) - 52)
  halfEven (q / unit) * unit

/-! ### Rounding to the even neighbour -/

theorem halfEven_intCast (z : ℤ) : halfEven z = z := by
  rw [halfEven, Int.floor_intCast, sub_self]
  exact if_pos (by norm_num)

theorem abs_halfEven_sub_le (q : ℚ) : |(halfEven q : ℚ) - q| ≤ 1 / 2 := by
  have hle := Int.floor_le q
  have hlt := Int.lt_floor_add_one q
  rw [halfEven]
  split_ifs with hbelow habove heven
  · rw [abs_le]
    constructor <;> linarith
  · push_cast
    rw [abs_le]
    constructor <;> linarith
  · rw [abs_le]
    constructor <;> linarith
  · push_cast
    rw [abs_le]
    constructor <;> linarith

theorem halfEven_nonneg (h : 0 ≤ q) : 0 ≤ halfEven q := by
  have hfloor : 0 ≤ ⌊q⌋ := Int.floor_nonneg.mpr h
  rw [halfEven]
  split_ifs <;> omega

/-! ### The first significant digit -/

theorem toDigits_bounds {a : ℕ} (ha : a ≠ 0) :
    (10 : ℚ) ^ (((Nat.toDigits 10 a).length : ℤ) - 1) ≤ a ∧
      (a : ℚ) < (10 : ℚ) ^ ((Nat.toDigits 10 a).length : ℤ) := by
  have hpos : 0 < (Nat.toDigits 10 a).length := Nat.length_toDigits_pos
  have hupper : a < 10 ^ (Nat.toDigits 10 a).length :=
    (Nat.length_toDigits_le_iff (by norm_num) hpos).mp le_rfl
  have hlower : 10 ^ ((Nat.toDigits 10 a).length - 1) ≤ a := by
    rcases Nat.eq_zero_or_pos ((Nat.toDigits 10 a).length - 1) with hone | hmore
    · rw [hone, pow_zero]
      omega
    · by_contra hlt
      have hle := (Nat.length_toDigits_le_iff (by norm_num) hmore).mpr (not_le.mp hlt)
      omega
  constructor
  · have hcast : (((Nat.toDigits 10 a).length : ℤ) - 1) =
        (((Nat.toDigits 10 a).length - 1 : ℕ) : ℤ) := by omega
    rw [hcast, zpow_natCast]
    exact_mod_cast hlower
  · rw [zpow_natCast]
    exact_mod_cast hupper

theorem abs_eq_num_div_den (q : ℚ) : |q| = (q.num.natAbs : ℚ) / q.den := by
  rw [Rat.abs_def, Rat.divInt_eq_div]
  simp

/-- **The magnitude** of a value is the power of ten of its first significant digit. -/
theorem magnitude_spec (hq : q ≠ 0) :
    (10 : ℚ) ^ magnitude q ≤ |q| ∧ |q| < (10 : ℚ) ^ (magnitude q + 1) := by
  have hnum : q.num.natAbs ≠ 0 := Int.natAbs_ne_zero.mpr (Rat.num_ne_zero.mpr hq)
  obtain ⟨hnumLow, hnumHigh⟩ := toDigits_bounds hnum
  obtain ⟨hdenLow, hdenHigh⟩ := toDigits_bounds q.den_nz
  have hden : (0 : ℚ) < q.den := by exact_mod_cast q.den_pos
  set a : ℤ := ((Nat.toDigits 10 q.num.natAbs).length : ℤ)
  set b : ℤ := ((Nat.toDigits 10 q.den).length : ℤ)
  have hlow : (10 : ℚ) ^ (a - b - 1) ≤ |q| := by
    rw [abs_eq_num_div_den, le_div_iff₀ hden]
    calc (10 : ℚ) ^ (a - b - 1) * q.den ≤ (10 : ℚ) ^ (a - b - 1) * (10 : ℚ) ^ b := by
          gcongr
      _ = (10 : ℚ) ^ (a - 1) := by
          rw [← zpow_add₀ (by norm_num)]
          congr 1
          ring
      _ ≤ q.num.natAbs := hnumLow
  have hhigh : |q| < (10 : ℚ) ^ (a - b + 1) := by
    rw [abs_eq_num_div_den, div_lt_iff₀ hden]
    calc (q.num.natAbs : ℚ) < (10 : ℚ) ^ a := hnumHigh
      _ = (10 : ℚ) ^ (a - b + 1) * (10 : ℚ) ^ (b - 1) := by
          rw [← zpow_add₀ (by norm_num)]
          congr 1
          ring
      _ ≤ (10 : ℚ) ^ (a - b + 1) * q.den := by gcongr
  rw [magnitude]
  split_ifs with h
  · exact ⟨h, hhigh⟩
  · exact ⟨hlow, by simpa using h⟩

theorem magnitude_lt {e : ℤ} (hq : q ≠ 0) (h : |q| < (10 : ℚ) ^ e) : magnitude q < e :=
  (zpow_lt_zpow_iff_right₀ (by norm_num : (1 : ℚ) < 10)).mp ((magnitude_spec hq).1.trans_lt h)

/-! ### The error -/

@[simp] theorem significant_zero (n : ℕ) : significant n 0 = 0 := by simp [significant]

theorem significant_nonneg (n : ℕ) (h : 0 ≤ q) : 0 ≤ significant n q := by
  rw [significant]
  split_ifs
  · exact le_rfl
  · exact mul_nonneg (by exact_mod_cast halfEven_nonneg (div_nonneg h (by positivity)))
      (by positivity)

theorem binary64_nonneg (h : 0 ≤ q) : 0 ≤ binary64 q := by
  have hnumber : ∀ e : ℤ, 0 ≤ (halfEven (q / (2 : ℚ) ^ e) : ℚ) * (2 : ℚ) ^ e := fun e =>
    mul_nonneg (by exact_mod_cast halfEven_nonneg (div_nonneg h (by positivity))) (by positivity)
  exact hnumber _

@[simp] theorem decimal_zero : decimal 0 = 0 := significant_zero 28

/-- A multiple of the unit of the last digit is kept. -/
theorem significant_of_multiple {z e : ℤ} (hq : q = z * (10 : ℚ) ^ e)
    (h : |q| < (10 : ℚ) ^ (e + n)) : significant n q = q := by
  by_cases hzero : q = 0
  · rw [hzero, significant_zero]
  have hlt := magnitude_lt hzero h
  obtain ⟨k, hk⟩ := Int.eq_ofNat_of_zero_le (by omega : 0 ≤ e - (magnitude q - n + 1))
  have hunit : (10 : ℚ) ^ (magnitude q - n + 1) ≠ 0 := by positivity
  have hscaled : q / (10 : ℚ) ^ (magnitude q - n + 1) = ((z * 10 ^ k : ℤ) : ℚ) := by
    rw [div_eq_iff hunit]
    push_cast
    rw [← zpow_natCast, ← hk, mul_assoc, ← zpow_add₀ (by norm_num)]
    rw [sub_add_cancel]
    exact hq
  rw [significant, if_neg hzero]
  dsimp only
  rw [hscaled, halfEven_intCast, ← hscaled, div_mul_cancel₀ _ hunit]

/-- **Rounding is done once**: a rounded value has its digits, or is a power of ten. -/
theorem significant_significant (hn : 0 < n) (q : ℚ) :
    significant n (significant n q) = significant n q := by
  by_cases hzero : q = 0
  · rw [hzero, significant_zero, significant_zero]
  set unit := (10 : ℚ) ^ (magnitude q - n + 1) with hunit
  have hpos : 0 < unit := by positivity
  have hvalue : significant n q = halfEven (q / unit) * unit := if_neg hzero
  have hscaled : |q / unit| < (10 : ℚ) ^ n := by
    rw [abs_div, abs_of_pos hpos, div_lt_iff₀ hpos, hunit, ← zpow_natCast,
      ← zpow_add₀ (by norm_num)]
    rw [show (n : ℤ) + (magnitude q - n + 1) = magnitude q + 1 by ring]
    exact (magnitude_spec hzero).2
  have hdigits : |halfEven (q / unit)| ≤ 10 ^ n := by
    have herror := abs_halfEven_sub_le (q / unit)
    have hlt : (|halfEven (q / unit)| : ℚ) < 10 ^ n + 1 := by
      have htriangle := abs_sub_abs_le_abs_sub (halfEven (q / unit) : ℚ) (q / unit)
      linarith
    exact Int.lt_add_one_iff.mp (by exact_mod_cast hlt)
  rcases hdigits.lt_or_eq with hlt | heq
  · refine significant_of_multiple (e := magnitude q - n + 1) hvalue ?_
    rw [hvalue, abs_mul, abs_of_pos hpos, mul_comm, zpow_add₀ (by norm_num), zpow_natCast]
    exact mul_lt_mul_of_pos_left (by exact_mod_cast hlt) hpos
  · -- rounded up to a power of ten
    have hten : |significant n q| = (10 : ℚ) ^ (magnitude q + 1) := by
      rw [hvalue, abs_mul, abs_of_pos hpos, ← Int.cast_abs, heq, hunit]
      push_cast
      rw [← zpow_natCast, ← zpow_add₀ (by norm_num)]
      congr 1
      ring
    have hbound : |significant n q| < (10 : ℚ) ^ (magnitude q + 1 + n) := by
      rw [hten]
      exact zpow_lt_zpow_right₀ (by norm_num) (by omega)
    rcases abs_choice (significant n q) with hsign | hsign
    · refine significant_of_multiple (z := 1) ?_ hbound
      rw [← hsign, hten, Int.cast_one, one_mul]
    · refine significant_of_multiple (z := -1) ?_ hbound
      rw [← neg_eq_iff_eq_neg.mpr hsign, hten]
      push_cast
      ring

@[simp] theorem decimal_decimal (q : ℚ) : decimal (decimal q) = decimal q :=
  significant_significant (by norm_num) q

/-- A value at scale that is small enough is kept. -/
theorem significant_of_atScale (hq : AtScale s q) (h : |q| < (10 : ℚ) ^ ((n : ℤ) - s)) :
    significant n q = q := by
  obtain ⟨z, hz⟩ := hq
  refine significant_of_multiple (z := z) (e := -s) ?_ ?_
  · rw [hz, zpow_neg, zpow_natCast, div_eq_mul_inv]
  · rwa [neg_add_eq_sub]

end Rounding
