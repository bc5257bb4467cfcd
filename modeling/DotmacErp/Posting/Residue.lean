import DotmacErp.Foundation.FirstMax
import DotmacErp.Foundation.SignificantDigits
import DotmacErp.GL.LedgerPosting

/-!
# Allocation of a rounding residue

`allocate_residue`: the amounts of a document are rounded to the stored scale one by one, and the
whole difference of their sum to the rounded total goes to the line of the largest absolute value,
the earliest of them on a tie.

`allocateResidue_exact` says what that reaches: lines at scale that add up to the rounded total,
all but one of them the rounding of its amount. The second refusal of the source, for lines that
miss the total, is then not raised.

Decimals are added in a context of 28 digits, six of them after the point. So this holds while the
amounts and the total stay below `10²²` together (`SmallEnough`); beyond, a sum may be rounded,
and the refusal is raised (`allocateResidue_misses`).
-/

namespace DotmacErp

open Rounding FirstMax

inductive ResidueAllocationError
  | zeroLines (target : ℚ)
  | missedTarget (total target : ℚ)
  deriving DecidableEq

/-- What an allocation raises: its own error, or that of a decimal with too many digits. -/
inductive AllocationFailure
  | residue (error : ResidueAllocationError)
  | invalidOperation
  deriving DecidableEq

/-- `quantize`: the stored scale, of 28 digits at most. -/
def quantize (amount : ℚ) : Except AllocationFailure ℚ :=
  if |amountColumn amount| < 10 ^ 22 then .ok (amountColumn amount) else .error .invalidOperation

/-- `sum` from zero, each sum rounded to the digits of the context. -/
def decimalSum (amounts : List ℚ) : ℚ :=
  amounts.foldl (fun total amount => significant 28 (total + amount)) 0

def absAt (amounts : List ℚ) (index : ℕ) : ℚ := |amounts.getD index 0|

/-- `_largest_absolute_index`: the scan from position 0, which changes to a later position for a
strictly larger absolute value only. -/
def largestAbsoluteIndex (amounts : List ℚ) : ℕ := scan (absAt amounts) (amounts.length - 1)

def allocateResidue (amounts : List ℚ) (targetTotal : ℚ) :
    Except AllocationFailure (List ℚ) := do
  let target ← quantize targetTotal
  let rounded ← amounts.mapM quantize
  if rounded = [] then
    if target ≠ 0 then throw (.residue (.zeroLines target)) else pure []
  else
    let residue := significant 28 (target - decimalSum rounded)
    if residue = 0 then
      pure rounded
    else
      let index := largestAbsoluteIndex rounded
      let line ← quantize (significant 28 (rounded.getD index 0 + residue))
      let allocated := rounded.set index line
      if decimalSum allocated ≠ target then
        throw (.residue (.missedTarget (decimalSum allocated) target))
      else
        pure allocated

/-- Amounts and a total of 28 digits together, six of them after the point. -/
def SmallEnough (amounts : List ℚ) (targetTotal : ℚ) : Prop :=
  (amounts.map fun amount => |amountColumn amount|).sum + |amountColumn targetTotal| < 10 ^ 22

instance (amounts : List ℚ) (targetTotal : ℚ) : Decidable (SmallEnough amounts targetTotal) :=
  inferInstanceAs (Decidable (_ < _))

def EarliestLargest (amounts : List ℚ) (i : ℕ) : Prop :=
  i < amounts.length ∧ (∀ j < amounts.length, absAt amounts j ≤ absAt amounts i) ∧
    ∀ j < i, absAt amounts j < absAt amounts i

/-- An allocation: rounded amounts that add up to the target, of which one has the residue, the
earliest of the largest. -/
structure Allocates (amounts : List ℚ) (targetTotal : ℚ) (allocated : List ℚ) : Prop where
  length_eq : allocated.length = amounts.length
  atScale : ∀ q ∈ allocated, AtScale 6 q
  sum_eq : allocated.sum = amountColumn targetTotal
  kept : ∃ i, EarliestLargest (amounts.map amountColumn) i ∧
    ∀ j ≠ i, allocated[j]? = (amounts.map amountColumn)[j]?

variable {amounts : List ℚ} {targetTotal : ℚ}

theorem earliestLargest_largestAbsoluteIndex (h : amounts ≠ []) :
    EarliestLargest amounts (largestAbsoluteIndex amounts) := by
  have hpos := List.length_pos_iff.mpr h
  have hmax := isFirstMax_scan (absAt amounts) (amounts.length - 1)
  have hle : largestAbsoluteIndex amounts ≤ amounts.length - 1 := hmax.le
  refine ⟨by omega, fun j hj => hmax.largest j (by omega), hmax.earliest⟩

theorem sum_set_add (rounded : List ℚ) (residue : ℚ) {i : ℕ} (h : i < rounded.length) :
    (rounded.set i (rounded.getD i 0 + residue)).sum = rounded.sum + residue := by
  have hvalue : rounded.getD i 0 = rounded[i] := by simp [h]
  rw [List.sum_set', dif_pos h, hvalue]
  ring

theorem atScale_map_amountColumn (amounts : List ℚ) :
    ∀ q ∈ amounts.map amountColumn, AtScale 6 q := by
  intro q hq
  obtain ⟨p, -, rfl⟩ := List.mem_map.mp hq
  exact atScale_halfUp 6 p

theorem allocates_rounded (h : amounts ≠ [])
    (htotal : amountColumn targetTotal - (amounts.map amountColumn).sum = 0) :
    Allocates amounts targetTotal (amounts.map amountColumn) where
  length_eq := List.length_map _
  atScale := atScale_map_amountColumn amounts
  sum_eq := (sub_eq_zero.mp htotal).symm
  kept := ⟨_, earliestLargest_largestAbsoluteIndex (by simpa using h), fun _ _ => rfl⟩

theorem allocates_set (h : amounts ≠ []) (targetTotal : ℚ) {rounded : List ℚ} {index : ℕ}
    (hrounded : rounded = amounts.map amountColumn)
    (hindex : index = largestAbsoluteIndex rounded) :
    Allocates amounts targetTotal (rounded.set index
      (amountColumn (rounded.getD index 0 + (amountColumn targetTotal - rounded.sum)))) := by
  have hscale : ∀ q ∈ rounded, AtScale 6 q := hrounded ▸ atScale_map_amountColumn amounts
  have hlargest : EarliestLargest rounded index := by
    rw [hindex]
    exact earliestLargest_largestAbsoluteIndex (by simpa [hrounded] using h)
  have hresidue : AtScale 6 (amountColumn targetTotal - rounded.sum) :=
    (atScale_halfUp 6 targetTotal).sub (atScale_sum hscale)
  have hlt : index < rounded.length := hlargest.1
  have hline : AtScale 6 (rounded.getD index 0) := by
    have hmem : rounded.getD index 0 = rounded[index] := by simp [hlt]
    rw [hmem]
    exact hscale _ (List.getElem_mem _)
  -- the line and the residue are at scale, so that rounding their sum changes nothing
  have hset : amountColumn (rounded.getD index 0 + (amountColumn targetTotal - rounded.sum)) =
      rounded.getD index 0 + (amountColumn targetTotal - rounded.sum) :=
    halfUp_of_atScale (hline.add hresidue)
  rw [hset]
  constructor
  · rw [List.length_set, hrounded, List.length_map]
  · intro q hq
    rcases List.mem_or_eq_of_mem_set hq with hq | rfl
    · exact hscale q hq
    · exact hline.add hresidue
  · rw [sum_set_add rounded _ hlt]
    ring
  · refine ⟨index, hrounded ▸ hlargest, fun j hj => ?_⟩
    rw [List.getElem?_set_ne hj.symm, hrounded]

/-! ### Sums without rounding -/

theorem significant_small {q : ℚ} (hq : AtScale 6 q) (h : |q| < 10 ^ 22) :
    significant 28 q = q := by
  refine significant_of_atScale hq ?_
  rw [show ((28 : ℕ) : ℤ) - (6 : ℕ) = (22 : ℕ) by norm_num, zpow_natCast]
  exact h

/-- Sums of values at scale are exact while every partial sum is small. -/
theorem foldl_significant {amounts : List ℚ} (hscale : ∀ q ∈ amounts, AtScale 6 q) {total : ℚ}
    (htotal : AtScale 6 total) (h : ∀ k, |total + (amounts.take k).sum| < 10 ^ 22) :
    amounts.foldl (fun total amount => significant 28 (total + amount)) total =
      total + amounts.sum := by
  induction amounts generalizing total with
  | nil => simp
  | cons amount amounts ih =>
    have hnext : AtScale 6 (total + amount) := htotal.add (hscale amount (by simp))
    have hsmall : |total + amount| < 10 ^ 22 := by simpa using h 1
    rw [List.foldl_cons, significant_small hnext hsmall, ih (fun q hq => hscale q (by simp [hq]))
      hnext fun k => ?_, List.sum_cons, add_assoc]
    have hk := h (k + 1)
    rwa [List.take_succ_cons, List.sum_cons, ← add_assoc] at hk

theorem decimalSum_eq {amounts : List ℚ} (hscale : ∀ q ∈ amounts, AtScale 6 q)
    (h : ∀ k, |(amounts.take k).sum| < 10 ^ 22) : decimalSum amounts = amounts.sum := by
  rw [decimalSum, foldl_significant hscale (atScale_zero 6) (by simpa using h), zero_add]

theorem abs_sum_le (amounts : List ℚ) : |amounts.sum| ≤ (amounts.map abs).sum := by
  induction amounts with
  | nil => simp
  | cons amount amounts ih =>
    rw [List.sum_cons, List.map_cons, List.sum_cons]
    exact (abs_add_le _ _).trans (by linarith)

theorem abs_sum_le_of_sublist {part amounts : List ℚ} (h : part.Sublist amounts) :
    |part.sum| ≤ (amounts.map abs).sum :=
  (abs_sum_le part).trans ((h.map abs).sum_le_sum (by simp))

theorem atScale_getD {amounts : List ℚ} (h : ∀ q ∈ amounts, AtScale 6 q) (i : ℕ) :
    AtScale 6 (amounts.getD i 0) := by
  rw [List.getD_eq_getElem?_getD]
  cases hi : amounts[i]? with
  | none => exact atScale_zero 6
  | some q => exact h q (List.mem_of_getElem? hi)

theorem mapM_quantize {amounts : List ℚ} (h : ∀ a ∈ amounts, |amountColumn a| < 10 ^ 22) :
    amounts.mapM quantize = .ok (amounts.map amountColumn) := by
  induction amounts with
  | nil => rfl
  | cons amount amounts ih =>
    rw [List.mapM_cons, ih fun a ha => h a (by simp [ha]), quantize, if_pos (h amount (by simp))]
    rfl

/-- What the bound gives: every amount, the sum of all and the total are small. -/
theorem SmallEnough.bounds (h : SmallEnough amounts targetTotal) :
    (∀ a ∈ amounts, |amountColumn a| < 10 ^ 22) ∧ |amountColumn targetTotal| < 10 ^ 22 ∧
      ((amounts.map amountColumn).map abs).sum + |amountColumn targetTotal| < 10 ^ 22 := by
  rw [SmallEnough] at h
  have hsum : ((amounts.map amountColumn).map abs).sum =
      (amounts.map fun amount => |amountColumn amount|).sum := by
    rw [List.map_map]
    rfl
  have hnonneg : 0 ≤ (amounts.map fun amount => |amountColumn amount|).sum :=
    List.sum_nonneg (by simp)
  refine ⟨fun a ha => ?_, by linarith, by rwa [hsum]⟩
  have hle := List.single_le_sum (l := amounts.map fun amount => |amountColumn amount|) (by simp)
    _ (List.mem_map_of_mem ha)
  have hlast := abs_nonneg (amountColumn targetTotal)
  linarith

/-- With the residue in one line, a partial sum is one of before, or the total less amounts that
follow. -/
theorem abs_take_set_le {rounded : List ℚ} {index : ℕ} (h : index < rounded.length) (total : ℚ)
    (k : ℕ) :
    |((rounded.set index (rounded.getD index 0 + (total - rounded.sum))).take k).sum| ≤
      (rounded.map abs).sum + |total| := by
  have htotal := abs_nonneg total
  by_cases hk : k ≤ index
  · have htake : (rounded.set index (rounded.getD index 0 + (total - rounded.sum))).take k =
        rounded.take k := by
      rw [List.take_set, List.set_eq_of_length_le (by simp; omega)]
    rw [htake]
    linarith [abs_sum_le_of_sublist (List.take_sublist k rounded)]
  · have hsum := sum_set_add rounded (total - rounded.sum) h
    rw [← List.take_append_drop k (rounded.set index _), List.sum_append, List.drop_set,
      if_pos (not_le.mp hk)] at hsum
    have hpart : ((rounded.set index (rounded.getD index 0 + (total - rounded.sum))).take k).sum =
        total - (rounded.drop k).sum := by linarith
    rw [hpart]
    linarith [abs_sub total (rounded.drop k).sum,
      abs_sum_le_of_sublist (List.drop_sublist k rounded)]

theorem abs_line_le {rounded : List ℚ} {index : ℕ} (h : index < rounded.length) (total : ℚ) :
    |rounded.getD index 0 + (total - rounded.sum)| ≤ (rounded.map abs).sum + |total| := by
  have hsum : rounded.sum = rounded.getD index 0 + (rounded.eraseIdx index).sum := by
    have hvalue : rounded.getD index 0 = rounded[index] := by simp [h]
    rw [hvalue]
    exact (List.CommMonoid.add_sum_eraseIdx h).symm
  have hline : rounded.getD index 0 + (total - rounded.sum) =
      total - (rounded.eraseIdx index).sum := by
    rw [hsum]
    ring
  rw [hline]
  linarith [abs_sub total (rounded.eraseIdx index).sum,
    abs_sum_le_of_sublist (List.eraseIdx_sublist rounded index)]

theorem allocateResidue_eq_ok (h : amounts ≠ []) (hsmall : SmallEnough amounts targetTotal) :
    ∃ allocated, allocateResidue amounts targetTotal = .ok allocated ∧
      Allocates amounts targetTotal allocated := by
  obtain ⟨hamounts, htarget, htogether⟩ := hsmall.bounds
  set rounded := amounts.map amountColumn with hrounded
  have hscale : ∀ q ∈ rounded, AtScale 6 q := atScale_map_amountColumn amounts
  have hlargest : EarliestLargest rounded (largestAbsoluteIndex rounded) :=
    earliestLargest_largestAbsoluteIndex (by simpa [hrounded] using h)
  have hallocates := allocates_set h targetTotal hrounded rfl
  have habs := abs_nonneg (amountColumn targetTotal)
  -- no sum on the way is rounded
  have hsum : decimalSum rounded = rounded.sum := decimalSum_eq hscale fun k =>
    (abs_sum_le_of_sublist (List.take_sublist k rounded)).trans_lt (by linarith)
  have hresidue : significant 28 (amountColumn targetTotal - rounded.sum) =
      amountColumn targetTotal - rounded.sum := by
    refine significant_small ((atScale_halfUp 6 _).sub (atScale_sum hscale)) ?_
    linarith [abs_sub (amountColumn targetTotal) rounded.sum, abs_sum_le rounded]
  rw [allocateResidue, quantize, if_pos htarget, mapM_quantize hamounts, ← hrounded]
  change ∃ allocated, (if rounded = [] then _ else _ : Except AllocationFailure (List ℚ)) =
    .ok allocated ∧ _
  rw [if_neg (by simpa [hrounded] using h), hsum, hresidue]
  by_cases hzero : amountColumn targetTotal - rounded.sum = 0
  · rw [if_pos hzero]
    exact ⟨_, rfl, allocates_rounded h hzero⟩
  have hlineScale : AtScale 6 (rounded.getD (largestAbsoluteIndex rounded) 0 +
      (amountColumn targetTotal - rounded.sum)) := by
    refine AtScale.add ?_ ((atScale_halfUp 6 _).sub (atScale_sum hscale))
    exact atScale_getD hscale _
  have hline := abs_line_le hlargest.1 (amountColumn targetTotal)
  have hquantize : quantize (significant 28 (rounded.getD (largestAbsoluteIndex rounded) 0 +
      (amountColumn targetTotal - rounded.sum))) =
        .ok (rounded.getD (largestAbsoluteIndex rounded) 0 +
          (amountColumn targetTotal - rounded.sum)) := by
    rw [significant_small hlineScale (by linarith), quantize, amountColumn,
      halfUp_of_atScale hlineScale, if_pos (by linarith)]
  have hset : amountColumn (rounded.getD (largestAbsoluteIndex rounded) 0 +
      (amountColumn targetTotal - rounded.sum)) = rounded.getD (largestAbsoluteIndex rounded) 0 +
        (amountColumn targetTotal - rounded.sum) := halfUp_of_atScale hlineScale
  rw [hset] at hallocates
  have hallocated := decimalSum_eq hallocates.atScale fun k =>
    (abs_take_set_le hlargest.1 (amountColumn targetTotal) k).trans_lt (by linarith)
  rw [if_neg hzero]
  dsimp only
  rw [hquantize]
  refine ⟨_, ?_, hallocates⟩
  change (if decimalSum _ ≠ amountColumn targetTotal then _ else _ :
    Except AllocationFailure (List ℚ)) = _
  rw [hallocated, hallocates.sum_eq, if_neg (by simp)]
  rfl

theorem allocateResidue_nil (targetTotal : ℚ) :
    (∃ allocated, allocateResidue [] targetTotal = .ok allocated) ↔
      amountColumn targetTotal = 0 := by
  rw [allocateResidue, quantize]
  by_cases hsmall : |amountColumn targetTotal| < 10 ^ 22
  · rw [if_pos hsmall]
    change (∃ allocated, (if amountColumn targetTotal ≠ 0 then _ else _ :
      Except AllocationFailure (List ℚ)) = .ok allocated) ↔ _
    by_cases hzero : amountColumn targetTotal = 0
    · rw [if_neg (not_not.mpr hzero)]
      exact iff_of_true ⟨[], rfl⟩ hzero
    · rw [if_pos hzero]
      refine iff_of_false ?_ hzero
      rintro ⟨allocated, ⟨⟩⟩
  · rw [if_neg hsmall]
    refine iff_of_false ?_ fun hzero => hsmall (by rw [hzero]; norm_num)
    rintro ⟨allocated, ⟨⟩⟩

/-- **A residue is allocated exactly.** For lines of any number, signs and fractions, and any
total, of 28 digits together: the lines are as many as before and at scale, they add up to the
rounded total, and all but the earliest of the largest are the roundings of their amounts; the
refusal of lines that miss the total is not raised. An allocation over no lines succeeds if and
only if the total is rounded to nothing. -/
theorem allocateResidue_exact (amounts : List ℚ) (targetTotal : ℚ) :
    (amounts ≠ [] → SmallEnough amounts targetTotal →
      ∃ allocated, allocateResidue amounts targetTotal = .ok allocated ∧
        Allocates amounts targetTotal allocated) ∧
    (amounts = [] → ((∃ allocated, allocateResidue amounts targetTotal = .ok allocated) ↔
      amountColumn targetTotal = 0)) ∧
    (SmallEnough amounts targetTotal → ∀ total target,
      allocateResidue amounts targetTotal ≠ .error (.residue (.missedTarget total target))) := by
  refine ⟨fun h hsmall => allocateResidue_eq_ok h hsmall, ?_, fun hsmall total target => ?_⟩
  · rintro rfl
    exact allocateResidue_nil targetTotal
  · by_cases h : amounts = []
    · rw [h, allocateResidue, quantize, if_pos hsmall.bounds.2.1]
      change (if amountColumn targetTotal ≠ 0 then _ else _ :
        Except AllocationFailure (List ℚ)) ≠ _
      split_ifs
      · rintro ⟨⟩
      · rintro ⟨⟩
    · obtain ⟨allocated, hok, -⟩ := allocateResidue_eq_ok h hsmall
      rw [hok]
      simp

/-- The split of revenue that posted one unit too much: three lines that all round up, the first
of which takes the residue. -/
theorem allocateResidue_exact_sample :
    allocateResidue [1761375 / 17, 335500 / 17, 83875 / 34] (4277625 / 34) =
        .ok [103610.294117, 19735.294118, 2466.911765] ∧
      ∃ allocated, allocateResidue [1761375 / 17, 335500 / 17, 83875 / 34] (4277625 / 34) =
          .ok allocated ∧
        Allocates [1761375 / 17, 335500 / 17, 83875 / 34] (4277625 / 34) allocated :=
  ⟨by decide +kernel, (allocateResidue_exact _ _).1 (by simp) (by decide +kernel)⟩

/-- Two lines of 22 digits before the point: their sum is rounded, and the lines miss the total. -/
theorem allocateResidue_misses : ¬ ∀ (amounts : List ℚ) (targetTotal : ℚ), amounts ≠ [] →
    ∃ allocated, allocateResidue amounts targetTotal = .ok allocated ∧
      Allocates amounts targetTotal allocated := by
  intro h
  obtain ⟨allocated, hok, -⟩ :=
    h [6000000000000000000000.000001, 6000000000000000000000.000001] 0.000001 (by simp)
  have hmissed : allocateResidue
      [6000000000000000000000.000001, 6000000000000000000000.000001] 0.000001 =
        .error (.residue (.missedTarget 0.000002 0.000001)) := by
    decide +kernel
  rw [hmissed] at hok
  cases hok

end DotmacErp
