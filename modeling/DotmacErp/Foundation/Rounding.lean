import Mathlib.Data.Rat.Floor
import Mathlib.Algebra.Order.Round
import Mathlib.Algebra.BigOperators.Group.List.Basic
import Mathlib.Tactic.Linarith
import Mathlib.Tactic.FieldSimp
import Mathlib.Tactic.Ring
import Mathlib.Tactic.Positivity

/-!
# Decimal rounding, half away from zero

`halfUp n q` is the multiple of `10⁻ⁿ` nearest to `q`, a tie going away from zero: the
rounding of a decimal `quantize` in half-up mode and of a cast to a fixed-scale numeric
column. Values at scale `n` (`AtScale n`) are its fixed points and its range, so writing a
value twice through a column of one scale is writing it once.

The rounding is odd (`halfUp_neg`) and keeps signs (`halfUp_nonneg`); values at scale are closed
under sums (`atScale_sum`). A running value at scale changes by the rounded change but for one case,
which `halfUp_add_of_atScale` names. `significant n q` is the other rounding of decimals, to `n`
significant digits with ties to even, which a decimal context applies to a quotient.
-/

namespace Rounding

def halfAwayFromZero (q : ℚ) : ℤ :=
  if 0 ≤ q then ⌊q + 1 / 2⌋ else -⌊-q + 1 / 2⌋

/-- The nearest multiple of `10⁻ⁿ`, a tie going away from zero. -/
def halfUp (n : ℕ) (q : ℚ) : ℚ := halfAwayFromZero (q * 10 ^ n) / 10 ^ n

def halfEven (q : ℚ) : ℤ :=
  let low := ⌊q⌋
  if q - low < 1 / 2 then low
  else if 1 / 2 < q - low then low + 1
  else if low % 2 = 0 then low else low + 1

/-- The power of ten of the first significant digit: the number of digits of the numerator
less that of the denominator is that power, or one too many. -/
def magnitude (q : ℚ) : ℤ :=
  let e : ℤ := (Nat.toDigits 10 q.num.natAbs).length - (Nat.toDigits 10 q.den).length
  if (10 : ℚ) ^ e ≤ |q| then e else e - 1

/-- The value at `n` significant digits, a tie going to the even last digit: the rounding of
decimal division. -/
def significant (n : ℕ) (q : ℚ) : ℚ :=
  if q = 0 then 0
  else
    let unit := (10 : ℚ) ^ (magnitude q - n + 1)
    halfEven (q / unit) * unit

/-- The text of a value with `n` decimals, as those of a column have. The amounts of a call are
printed with the decimals of their columns as well, not with those they happen to be given with. -/
def fixedText (n : ℕ) (q : ℚ) : String :=
  let units := halfAwayFromZero (q * 10 ^ n)
  let digits := toString (units.natAbs % 10 ^ n)
  (if units < 0 then "-" else "") ++ toString (units.natAbs / 10 ^ n) ++ "." ++
    String.ofList (List.replicate (n - digits.length) '0') ++ digits

/-- A value at scale `n`: an integral number of units of `10⁻ⁿ`. -/
def AtScale (n : ℕ) (q : ℚ) : Prop := ∃ z : ℤ, q = z / 10 ^ n

variable {n : ℕ} {q r : ℚ}

theorem halfAwayFromZero_intCast (z : ℤ) : halfAwayFromZero z = z := by
  have hfloor : ∀ w : ℤ, ⌊(w : ℚ) + 1 / 2⌋ = w := by
    intro w
    rw [Int.floor_eq_iff]
    constructor <;> linarith
  rw [halfAwayFromZero]
  split_ifs with h
  · exact hfloor z
  · rw [← Int.cast_neg, hfloor, neg_neg]

theorem halfAwayFromZero_neg (q : ℚ) : halfAwayFromZero (-q) = -halfAwayFromZero q := by
  rcases lt_trichotomy q 0 with h | rfl | h
  · rw [halfAwayFromZero, halfAwayFromZero, if_pos (by linarith), if_neg (by linarith), neg_neg]
  · have h0 : halfAwayFromZero 0 = 0 := by exact_mod_cast halfAwayFromZero_intCast 0
    simp [h0]
  · rw [halfAwayFromZero, halfAwayFromZero, if_neg (by linarith), if_pos h.le, neg_neg]

theorem halfAwayFromZero_nonneg (h : 0 ≤ q) : 0 ≤ halfAwayFromZero q := by
  rw [halfAwayFromZero, if_pos h]
  exact Int.floor_nonneg.mpr (by linarith)

theorem atScale_halfUp (n : ℕ) (q : ℚ) : AtScale n (halfUp n q) := ⟨_, rfl⟩

theorem halfUp_of_atScale (h : AtScale n q) : halfUp n q = q := by
  obtain ⟨z, rfl⟩ := h
  rw [halfUp, div_mul_cancel₀ _ (by positivity), halfAwayFromZero_intCast]

@[simp] theorem halfUp_halfUp (n : ℕ) (q : ℚ) : halfUp n (halfUp n q) = halfUp n q :=
  halfUp_of_atScale (atScale_halfUp n q)

theorem atScale_zero (n : ℕ) : AtScale n 0 := ⟨0, by simp⟩

@[simp] theorem halfUp_zero (n : ℕ) : halfUp n 0 = 0 := halfUp_of_atScale (atScale_zero n)

@[simp] theorem halfUp_neg (n : ℕ) (q : ℚ) : halfUp n (-q) = -halfUp n q := by
  rw [halfUp, neg_mul, halfAwayFromZero_neg, Int.cast_neg, neg_div, halfUp]

theorem halfUp_nonneg (h : 0 ≤ q) : 0 ≤ halfUp n q :=
  div_nonneg (by exact_mod_cast halfAwayFromZero_nonneg (by positivity)) (by positivity)

theorem AtScale.add (hq : AtScale n q) (hr : AtScale n r) : AtScale n (q + r) := by
  obtain ⟨a, rfl⟩ := hq
  obtain ⟨b, rfl⟩ := hr
  exact ⟨a + b, by push_cast; ring⟩

theorem AtScale.neg (h : AtScale n q) : AtScale n (-q) := by
  obtain ⟨z, rfl⟩ := h
  exact ⟨-z, by push_cast; ring⟩

theorem AtScale.sub (hq : AtScale n q) (hr : AtScale n r) : AtScale n (q - r) := by
  rw [sub_eq_add_neg]
  exact hq.add hr.neg

theorem atScale_sum {l : List ℚ} (h : ∀ q ∈ l, AtScale n q) : AtScale n l.sum := by
  induction l with
  | nil => exact atScale_zero n
  | cons a l ih =>
    rw [List.sum_cons]
    exact (h a (by simp)).add (ih fun q hq => h q (by simp [hq]))

theorem halfAwayFromZero_mono (h : q ≤ r) : halfAwayFromZero q ≤ halfAwayFromZero r := by
  rw [halfAwayFromZero, halfAwayFromZero]
  split_ifs with hq hr hr
  · exact Int.floor_le_floor (by linarith)
  · exact absurd (hq.trans h) hr
  · -- the one is rounded to at most 0, the other to at least 0
    have hlow : 0 ≤ ⌊-q + 1 / 2⌋ := Int.floor_nonneg.mpr (by linarith)
    have hhigh : 0 ≤ ⌊r + 1 / 2⌋ := Int.floor_nonneg.mpr (by linarith)
    omega
  · exact neg_le_neg (Int.floor_le_floor (by linarith))

theorem halfUp_mono : Monotone (halfUp n) := by
  intro q r h
  have hscaled : q * 10 ^ n ≤ r * 10 ^ n := mul_le_mul_of_nonneg_right h (by positivity)
  rw [halfUp, halfUp]
  exact div_le_div_of_nonneg_right (by exact_mod_cast halfAwayFromZero_mono hscaled)
    (by positivity)

theorem halfUp_le_of_le (hr : AtScale n r) (h : q ≤ r) : halfUp n q ≤ r :=
  (halfUp_mono h).trans_eq (halfUp_of_atScale hr)

theorem le_halfUp_of_le (hr : AtScale n r) (h : r ≤ q) : r ≤ halfUp n q :=
  (halfUp_of_atScale hr).symm.trans_le (halfUp_mono h)

theorem halfUp_eq_zero_of_le (h0 : 0 ≤ q) (h : q ≤ r) (hr : halfUp n r = 0) : halfUp n q = 0 :=
  le_antisymm (hr ▸ halfUp_mono h) (halfUp_nonneg h0)

/-! ### The error of rounding -/

theorem abs_halfAwayFromZero_sub_le (q : ℚ) : |(halfAwayFromZero q : ℚ) - q| ≤ 1 / 2 := by
  have hfloor : ∀ x : ℚ, |(⌊x + 1 / 2⌋ : ℚ) - x| ≤ 1 / 2 := by
    intro x
    have hle := Int.floor_le (x + 1 / 2)
    have hlt := Int.lt_floor_add_one (x + 1 / 2)
    rw [abs_le]
    constructor <;> linarith
  rw [halfAwayFromZero]
  split_ifs
  · exact hfloor q
  · have hneg := hfloor (-q)
    rw [← abs_neg] at hneg
    push_cast
    rwa [show -((⌊-q + 1 / 2⌋ : ℚ) - -q) = -(⌊-q + 1 / 2⌋ : ℚ) - q by ring] at hneg

theorem abs_halfUp_sub_le (n : ℕ) (q : ℚ) : |halfUp n q - q| ≤ 1 / (2 * 10 ^ n) := by
  have hpow : (0 : ℚ) < 10 ^ n := by positivity
  have hscale : halfUp n q - q = (halfAwayFromZero (q * 10 ^ n) - q * 10 ^ n) / 10 ^ n := by
    rw [halfUp]
    field_simp
  rw [hscale, abs_div, abs_of_pos hpow, div_le_div_iff₀ hpow (by positivity)]
  have hround := abs_halfAwayFromZero_sub_le (q * 10 ^ n)
  nlinarith

/-! ### Rounding a change of a value at scale -/

/-- A value half-way between two neighbours at scale. -/
abbrev Tie (n : ℕ) (q : ℚ) : Prop := Int.fract (q * 10 ^ n) = 1 / 2

theorem floor_add_floor_neg (x : ℚ) :
    ⌊x + 1 / 2⌋ + ⌊-x + 1 / 2⌋ = if Int.fract x = 1 / 2 then 1 else 0 := by
  have hx : x = ⌊x⌋ + Int.fract x := (Int.floor_add_fract x).symm
  have hnonneg := Int.fract_nonneg x
  have hlt := Int.fract_lt_one x
  -- the fraction decides to which neighbour either of them goes
  have hfloor : ∀ z : ℤ, (z : ℚ) ≤ Int.fract x + 1 / 2 → Int.fract x + 1 / 2 < z + 1 →
      ⌊x + 1 / 2⌋ = ⌊x⌋ + z := by
    intro z hlow hhigh
    rw [Int.floor_eq_iff]
    push_cast
    constructor <;> linarith
  have hfloorNeg : ∀ z : ℤ, (z : ℚ) ≤ -Int.fract x + 1 / 2 → -Int.fract x + 1 / 2 < z + 1 →
      ⌊-x + 1 / 2⌋ = -⌊x⌋ + z := by
    intro z hlow hhigh
    rw [Int.floor_eq_iff]
    push_cast
    constructor <;> linarith
  rcases lt_trichotomy (Int.fract x) (1 / 2) with h | h | h
  · rw [hfloor 0 (by push_cast; linarith) (by push_cast; linarith),
      hfloorNeg 0 (by push_cast; linarith) (by push_cast; linarith), if_neg h.ne]
    ring
  · rw [hfloor 1 (by push_cast; linarith) (by push_cast; linarith),
      hfloorNeg 0 (by push_cast; linarith) (by push_cast; linarith), if_pos h]
    ring
  · rw [hfloor 1 (by push_cast; linarith) (by push_cast; linarith),
      hfloorNeg (-1) (by push_cast; linarith) (by push_cast; linarith), if_neg h.ne']
    ring

theorem halfUp_ne_zero_of_tie (h : Tie n q) : halfUp n q ≠ 0 := by
  have hpow : (10 : ℚ) ^ n ≠ 0 := by positivity
  have hfloor := floor_add_floor_neg (q * 10 ^ n)
  rw [if_pos h] at hfloor
  rw [halfUp, ne_eq, div_eq_zero_iff, not_or]
  refine ⟨?_, hpow⟩
  rw [halfAwayFromZero]
  split_ifs with hsign
  · -- the negative is rounded to at most 0, so the value to at least 1
    have hneg : ⌊-(q * 10 ^ n) + 1 / 2⌋ < 1 := by
      rw [Int.floor_lt]
      push_cast
      linarith
    exact_mod_cast (by omega : ⌊q * 10 ^ n + 1 / 2⌋ ≠ 0)
  · have hpos : ⌊q * 10 ^ n + 1 / 2⌋ < 1 := by
      rw [Int.floor_lt]
      push_cast
      linarith
    exact_mod_cast (by omega : -⌊-(q * 10 ^ n) + 1 / 2⌋ ≠ 0)

/-- **Rounding after a change**: a value at scale changes by the rounded change, except that a
negative change that ties is rounded towards zero when the result is. -/
theorem halfUp_add_of_atScale (hr : AtScale n r) (h : 0 ≤ r + q) :
    halfUp n (r + q) = r + halfUp n q + if q < 0 ∧ Tie n q then 1 / 10 ^ n else 0 := by
  obtain ⟨z, rfl⟩ := hr
  have hpow : (0 : ℚ) < 10 ^ n := by positivity
  have hscale : ((z : ℚ) / 10 ^ n + q) * 10 ^ n = q * 10 ^ n + z := by field_simp; ring
  have hround : halfAwayFromZero (((z : ℚ) / 10 ^ n + q) * 10 ^ n) = ⌊q * 10 ^ n + 1 / 2⌋ + z := by
    rw [halfAwayFromZero, if_pos (mul_nonneg h hpow.le), hscale, add_right_comm,
      Int.floor_add_intCast]
  rw [halfUp, hround, halfUp, halfAwayFromZero]
  by_cases hq : 0 ≤ q
  · rw [if_pos (mul_nonneg hq hpow.le), if_neg (fun hneg => absurd hneg.1 (not_lt.mpr hq))]
    push_cast
    ring
  · have hneg : q < 0 := not_le.mp hq
    have hfloor := floor_add_floor_neg (q * 10 ^ n)
    rw [if_neg (not_le.mpr (mul_neg_of_neg_of_pos hneg hpow))]
    by_cases htie : Tie n q
    · rw [if_pos ⟨hneg, htie⟩]
      rw [if_pos htie] at hfloor
      have hcast : (⌊q * 10 ^ n + 1 / 2⌋ : ℚ) = 1 - ⌊-(q * 10 ^ n) + 1 / 2⌋ := by
        exact_mod_cast eq_sub_of_add_eq hfloor
      rw [Int.cast_add, hcast]
      push_cast
      ring
    · rw [if_neg fun hand => htie hand.2]
      rw [if_neg htie] at hfloor
      have hcast : (⌊q * 10 ^ n + 1 / 2⌋ : ℚ) = -⌊-(q * 10 ^ n) + 1 / 2⌋ := by
        exact_mod_cast eq_neg_of_add_eq_zero_left hfloor
      rw [Int.cast_add, hcast]
      push_cast
      ring

theorem halfUp_eq_of_abs_sub_lt (hr : AtScale n r) (h : |q - r| < 1 / (2 * 10 ^ n)) :
    halfUp n q = r := by
  have hclose := abs_halfUp_sub_le n q
  obtain ⟨w, hw⟩ := atScale_halfUp n q
  obtain ⟨z, rfl⟩ := hr
  have hpow : (0 : ℚ) < 10 ^ n := by positivity
  have hdist : |((w - z : ℤ) : ℚ)| < 1 := by
    have htri : |halfUp n q - z / 10 ^ n| < 1 / 10 ^ n := by
      calc |halfUp n q - z / 10 ^ n| = |(halfUp n q - q) + (q - z / 10 ^ n)| := by ring_nf
        _ ≤ |halfUp n q - q| + |q - z / 10 ^ n| := abs_add_le _ _
        _ < 1 / (2 * 10 ^ n) + 1 / (2 * 10 ^ n) := add_lt_add_of_le_of_lt hclose h
        _ = 1 / 10 ^ n := by field_simp; norm_num
    rw [hw, ← sub_div, abs_div, abs_of_pos hpow, div_lt_div_iff_of_pos_right hpow] at htri
    exact_mod_cast htri
  have hzero : w - z = 0 := Int.abs_lt_one_iff.mp (by exact_mod_cast hdist)
  rw [hw, show w = z by omega]

theorem halfUp_of_le (hr : AtScale n r) (h0 : 0 ≤ r) (h : r ≤ q) :
    halfUp n q = r + halfUp n (q - r) := by
  have hsum := halfUp_add_of_atScale (q := q - r) hr (by linarith)
  rwa [add_sub_cancel, if_neg (fun htie => absurd htie.1 (by linarith)), add_zero] at hsum

theorem not_tie_of_atScale (h : AtScale n q) : ¬ Tie n q := by
  obtain ⟨z, rfl⟩ := h
  rw [Tie, div_mul_cancel₀ _ (by positivity), Int.fract_intCast]
  norm_num

theorem tie_neg : Tie n (-q) ↔ Tie n q := by
  have hone : ∀ x : ℚ, Int.fract x = 1 / 2 → Int.fract (-x) = 1 / 2 := by
    intro x hx
    rw [Int.fract_neg (by rw [hx]; norm_num), hx]
    norm_num
  rw [Tie, Tie, neg_mul]
  refine ⟨fun h => ?_, hone _⟩
  have hneg := hone _ h
  rwa [neg_neg] at hneg

theorem tie_sub_iff (hr : AtScale n r) : Tie n (q - r) ↔ Tie n q := by
  obtain ⟨z, rfl⟩ := hr
  have hscale : (q - (z : ℚ) / 10 ^ n) * 10 ^ n = q * 10 ^ n - z := by field_simp
  rw [Tie, Tie, hscale, Int.fract_sub_intCast]

theorem not_tie_min (hr : AtScale n r) (hq : ¬ Tie n q) :
    ¬ Tie n (min r q) ∧ ¬ Tie n (q - min r q) := by
  -- either all of the value is taken, or all of the rest
  rcases min_choice r q with hchoice | hchoice
  · rw [hchoice, tie_sub_iff hr]
    exact ⟨not_tie_of_atScale hr, hq⟩
  · rw [hchoice, sub_self]
    exact ⟨hq, not_tie_of_atScale (atScale_zero n)⟩

/-- A value at scale changes by the rounded change, whatever the signs, when the change is no
tie. -/
theorem halfUp_add_of_not_tie (hr : AtScale n r) (hq : ¬ Tie n q) :
    halfUp n (r + q) = r + halfUp n q := by
  rcases le_total 0 (r + q) with h | h
  · rw [halfUp_add_of_atScale hr h, if_neg fun htie => hq htie.2, add_zero]
  · have hneg := halfUp_add_of_atScale (q := -q) hr.neg (by linarith)
    rw [if_neg fun htie => hq (tie_neg.mp htie.2), add_zero, halfUp_neg,
      show -r + -q = -(r + q) by ring, halfUp_neg] at hneg
    linarith

end Rounding
