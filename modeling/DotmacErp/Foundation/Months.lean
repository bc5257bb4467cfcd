import DotmacErp.Foundation.Calendar
import Mathlib.Order.Monotone.Basic

/-!
# Stepping by months

A date is its month, counted from the first month of year zero (`Date.monthIndex`), and a day of it.
Adding months adds to the index and clips the day (`day_addMonths`). Adding one month `n` times
carries the clipped day on (`Date.stepMonths`), and so may fall behind adding `n` months at once
(`stepMonths_le`): from a day that occurs in each of the months it does not
(`stepMonths_eq_addMonths`).

A year of steps reaches the day of the next year if and only if the first day is at most the 28th,
or a 29th that meets no short February before the one it started from
(`stepMonths_year_iff`).
-/

namespace Calendar

def monthLength (index : ℕ) : ℕ := daysInMonth (index / 12) (index % 12 + 1)

theorem monthLength_ge (index : ℕ) : 28 ≤ monthLength index := daysInMonth_pos _ _

namespace Date

variable {d e : Date} {n : ℕ}

def monthIndex (d : Date) : ℕ := d.year * 12 + (d.month - 1)

theorem day_le_monthLength (d : Date) : d.day ≤ monthLength d.monthIndex := by
  have hvalid := d.valid
  have hyear : d.monthIndex / 12 = d.year := by
    rw [monthIndex]
    omega
  have hmonth : d.monthIndex % 12 + 1 = d.month := by
    rw [monthIndex]
    omega
  rw [monthLength, hyear, hmonth]
  exact hvalid.2.2.2

theorem lt_of_monthIndex_lt (h : d.monthIndex < e.monthIndex) : d < e := by
  have hd := d.valid
  have he := e.valid
  have hday := d.day_le
  rw [lt_def]
  simp only [monthIndex, code] at h ⊢
  omega

theorem le_iff_day_le (h : d.monthIndex = e.monthIndex) : d ≤ e ↔ d.day ≤ e.day := by
  have hd := d.valid
  have he := e.valid
  rw [le_def]
  simp only [monthIndex, code] at h ⊢
  omega

theorem eq_iff_day_eq (h : d.monthIndex = e.monthIndex) : d = e ↔ d.day = e.day := by
  rw [le_antisymm_iff, le_iff_day_le h, le_iff_day_le h.symm]
  omega

@[simp] theorem monthIndex_addMonths (n : ℕ) (d : Date) :
    (d.addMonths n).monthIndex = d.monthIndex + n := by
  have hd := d.valid
  simp only [monthIndex, addMonths]
  omega

@[simp] theorem day_addMonths (n : ℕ) (d : Date) :
    (d.addMonths n).day = min d.day (monthLength (d.monthIndex + n)) := by
  have hd := d.valid
  have hyear : d.year + (d.month - 1 + n) / 12 = (d.monthIndex + n) / 12 := by
    rw [monthIndex]
    omega
  have hmonth : (d.month - 1 + n) % 12 = (d.monthIndex + n) % 12 := by
    rw [monthIndex]
    omega
  rw [monthLength, ← hyear, ← hmonth]
  rfl

theorem pred_lt (h : e.year ≠ 0 ∨ 1 < e.month ∨ 1 < e.day) : e.pred < e := by
  have he := e.valid
  have hday := daysInMonth_le e.year (e.month - 1)
  rw [lt_def, pred]
  split_ifs
  · simp only [code]
    omega
  · simp only [code]
    omega
  · omega
  · simp only [code]
    omega

theorem ne_first_of_lt (h : d < e) : e.year ≠ 0 ∨ 1 < e.month ∨ 1 < e.day := by
  by_contra hfirst
  have hd := d.valid
  have hlow : e.code ≤ 33 := by
    simp only [code]
    omega
  have hcode : 33 ≤ d.code := by
    simp only [code]
    omega
  exact absurd (hcode.trans_lt h) (not_lt.mpr hlow)

theorem succ_pred (h : d < e) : e.pred.succ = e := by
  refine le_antisymm (succ_le_iff.mpr (pred_lt (ne_first_of_lt h))) (not_lt.mp fun hgt => ?_)
  exact absurd (le_pred_of_lt hgt) (not_le.mpr (lt_succ _))

/-! ### One month at a time -/

/-- The date after `n` steps of one month, each from the date reached before. -/
def stepMonths : ℕ → Date → Date
  | 0, d => d
  | n + 1, d => (stepMonths n d).addMonths 1

@[simp] theorem monthIndex_stepMonths (n : ℕ) (d : Date) :
    (stepMonths n d).monthIndex = d.monthIndex + n := by
  induction n with
  | zero => rfl
  | succ n ih => rw [stepMonths, monthIndex_addMonths, ih, Nat.add_assoc]

theorem day_stepMonths_succ (n : ℕ) (d : Date) :
    (stepMonths (n + 1) d).day =
      min (stepMonths n d).day (monthLength (d.monthIndex + (n + 1))) := by
  rw [stepMonths, day_addMonths, monthIndex_stepMonths, Nat.add_assoc]

theorem stepMonths_strictMono (d : Date) : StrictMono fun n => stepMonths n d := by
  intro m n h
  refine lt_of_monthIndex_lt ?_
  rw [monthIndex_stepMonths, monthIndex_stepMonths]
  omega

theorem le_stepMonths (n : ℕ) (d : Date) : d ≤ stepMonths n d := by
  rcases Nat.eq_zero_or_pos n with rfl | hpos
  · exact le_refl d
  · exact (stepMonths_strictMono d hpos).le

theorem day_stepMonths_le_monthLength {m : ℕ} (hm : m ≤ n) (d : Date) :
    (stepMonths n d).day ≤ monthLength (d.monthIndex + m) := by
  induction n with
  | zero =>
    obtain rfl := Nat.le_zero.mp hm
    exact d.day_le_monthLength
  | succ n ih =>
    rw [day_stepMonths_succ]
    rcases Nat.lt_or_eq_of_le hm with hlt | rfl
    · exact (Nat.min_le_left _ _).trans (ih (by omega))
    · exact Nat.min_le_right _ _

theorem day_stepMonths_le (n : ℕ) (d : Date) : (stepMonths n d).day ≤ d.day := by
  induction n with
  | zero => exact Nat.le_refl _
  | succ n ih =>
    rw [day_stepMonths_succ]
    exact (Nat.min_le_left _ _).trans ih

theorem le_day_stepMonths {k : ℕ} (hk : k ≤ d.day)
    (h : ∀ m < n, k ≤ monthLength (d.monthIndex + (m + 1))) : k ≤ (stepMonths n d).day := by
  induction n with
  | zero => exact hk
  | succ n ih =>
    rw [day_stepMonths_succ]
    exact Nat.le_min.mpr ⟨ih fun m hm => h m (by omega), h n (by omega)⟩

theorem stepMonths_le (n : ℕ) (d : Date) : stepMonths n d ≤ d.addMonths n := by
  rw [le_iff_day_le (by simp), day_addMonths]
  exact Nat.le_min.mpr ⟨day_stepMonths_le n d, day_stepMonths_le_monthLength le_rfl d⟩

theorem stepMonths_eq_addMonths (h : ∀ m < n, d.day ≤ monthLength (d.monthIndex + (m + 1))) :
    stepMonths n d = d.addMonths n := by
  refine le_antisymm (stepMonths_le n d) ?_
  rw [le_iff_day_le (by simp), day_addMonths]
  exact (Nat.min_le_left _ _).trans (le_day_stepMonths le_rfl h)

/-! ### A year of steps -/

/-- A day that is not clipped on the way to the next year, or is clipped there too. -/
def KeepsDay (d : Date) : Prop :=
  d.day ≤ 28 ∨ d.day = 29 ∧
    (d.month = 2 ∨ isLeap (if d.month = 1 then d.year else d.year + 1) = true)

instance (d : Date) : Decidable d.KeepsDay := inferInstanceAs (Decidable (_ ∨ _ ∧ _))

def toFebruary (d : Date) : ℕ := if d.month = 1 then 1 else 14 - d.month

theorem toFebruary_le (d : Date) : d.toFebruary ≤ 12 := by
  have hd := d.valid
  rw [toFebruary]
  split_ifs <;> omega

theorem monthLength_toFebruary (d : Date) :
    monthLength (d.monthIndex + d.toFebruary) =
      if isLeap (if d.month = 1 then d.year else d.year + 1) then 29 else 28 := by
  have hd := d.valid
  have hmonth : (d.monthIndex + d.toFebruary) % 12 + 1 = 2 := by
    rw [monthIndex, toFebruary]
    split_ifs <;> omega
  have hyear : (d.monthIndex + d.toFebruary) / 12 =
      if d.month = 1 then d.year else d.year + 1 := by
    rw [monthIndex, toFebruary]
    split_ifs <;> omega
  rw [monthLength, hmonth, hyear]
  rfl

theorem eq_toFebruary (d : Date) {m : ℕ} (hpos : 0 < m) (hm : m ≤ 12)
    (h : (d.monthIndex + m) % 12 + 1 = 2) : m = d.toFebruary := by
  have hd := d.valid
  rw [monthIndex] at h
  rw [toFebruary]
  split_ifs <;> omega

theorem monthLength_ge_thirty {index : ℕ} (h : index % 12 + 1 ≠ 2) : 30 ≤ monthLength index := by
  rw [monthLength]
  generalize index % 12 + 1 = m at h ⊢
  unfold daysInMonth
  split <;> omega

theorem monthLength_next_year (h : d.month ≠ 2) :
    monthLength (d.monthIndex + 12) = monthLength d.monthIndex := by
  have hd := d.valid
  have hmod : (d.monthIndex + 12) % 12 = d.monthIndex % 12 := by omega
  have hmonth : d.monthIndex % 12 + 1 ≠ 2 := by
    rw [monthIndex]
    omega
  rw [monthLength, monthLength, hmod]
  generalize d.monthIndex % 12 + 1 = m at hmonth ⊢
  unfold daysInMonth
  split
  · exact absurd rfl hmonth
  all_goals rfl

theorem not_isLeap_succ {y : ℕ} (h : isLeap y = true) : isLeap (y + 1) = false := by
  simp only [isLeap, Bool.or_eq_true, Bool.and_eq_true, beq_iff_eq, bne_iff_ne] at h
  simp only [isLeap, Bool.or_eq_false_iff, Bool.and_eq_false_iff, beq_eq_false_iff_ne]
  omega

theorem stepMonths_year_of_february (hday : 29 ≤ d.day) (hmonth : d.month = 2) :
    d.day = 29 ∧ stepMonths 12 d = d.addMonths 12 := by
  have hd := d.valid
  have hleap : isLeap d.year = true := by
    by_contra hleap
    have hlength : daysInMonth d.year d.month = 28 := by simp [hmonth, daysInMonth, hleap]
    omega
  have hlength : daysInMonth d.year d.month = 29 := by simp [hmonth, daysInMonth, hleap]
  have hnext : monthLength (d.monthIndex + 12) = 28 := by
    have hfebruary := monthLength_toFebruary d
    have hsteps : d.toFebruary = 12 := by simp [toFebruary, hmonth]
    rwa [hsteps, if_neg (by omega : d.month ≠ 1), not_isLeap_succ hleap, if_neg (by simp)]
      at hfebruary
  refine ⟨by omega, (eq_iff_day_eq (by simp)).mpr ?_⟩
  have hle := day_stepMonths_le_monthLength (le_refl 12) d
  have hge : 28 ≤ (stepMonths 12 d).day :=
    le_day_stepMonths (by omega) fun m _ => monthLength_ge _
  rw [day_addMonths, hnext]
  omega

/-- A later day than the 28th, not in February, is kept by a year of steps if and only if it is the
29th and the February on the way has one. -/
theorem stepMonths_year_iff_of_ne (hday : 29 ≤ d.day) (hmonth : d.month ≠ 2) :
    stepMonths 12 d = d.addMonths 12 ↔
      d.day = 29 ∧ isLeap (if d.month = 1 then d.year else d.year + 1) = true := by
  have hfebruary := monthLength_toFebruary d
  have hown := d.day_le_monthLength
  constructor
  · intro h
    have hkept : (stepMonths 12 d).day = d.day := by
      rw [h, day_addMonths, monthLength_next_year hmonth]
      omega
    have hle := day_stepMonths_le_monthLength d.toFebruary_le d
    rw [hkept, hfebruary] at hle
    by_cases hleap : isLeap (if d.month = 1 then d.year else d.year + 1) = true
    · rw [if_pos hleap] at hle
      exact ⟨by omega, hleap⟩
    · rw [if_neg hleap] at hle
      omega
  · rintro ⟨htwentyNine, hleap⟩
    refine stepMonths_eq_addMonths fun m hm => ?_
    by_cases hmod : (d.monthIndex + (m + 1)) % 12 + 1 = 2
    · rw [eq_toFebruary d (by omega) (by omega) hmod, hfebruary, if_pos hleap]
      omega
    · have hlong := monthLength_ge_thirty hmod
      omega

/-- **A year of steps** reaches the same day of the next year if and only if the day is kept. -/
theorem stepMonths_year_iff (d : Date) : stepMonths 12 d = d.addMonths 12 ↔ d.KeepsDay := by
  by_cases hlow : d.day ≤ 28
  · exact iff_of_true (stepMonths_eq_addMonths fun m _ => hlow.trans (monthLength_ge _)) (.inl hlow)
  · have hday : 29 ≤ d.day := by omega
    by_cases hmonth : d.month = 2
    · obtain ⟨htwentyNine, hsteps⟩ := stepMonths_year_of_february hday hmonth
      exact iff_of_true hsteps (.inr ⟨htwentyNine, .inl hmonth⟩)
    · rw [stepMonths_year_iff_of_ne hday hmonth]
      constructor
      · rintro ⟨htwentyNine, hleap⟩
        exact .inr ⟨htwentyNine, .inr hleap⟩
      · rintro (h | ⟨htwentyNine, h | hleap⟩)
        · exact absurd h hlow
        · exact absurd h hmonth
        · exact ⟨htwentyNine, hleap⟩

end Date

end Calendar
