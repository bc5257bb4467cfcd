import Mathlib.Order.Basic
import Mathlib.Order.Lattice
import Mathlib.Data.Nat.Basic
import Mathlib.Tactic.Common

/-!
# Civil dates

Dates of the proleptic Gregorian calendar, valid by construction, in chronological order,
with the date arithmetic of business code: the next and the previous day, the first and the
last day of a month, and adding calendar months with the day clipped to the length of the
month reached.

The order is carried by one number, `Date.code`, so every comparison is linear arithmetic;
the characterisations that matter are `succ_le_iff` (no date lies strictly between a date and
its successor), `pred_succ`, and `lt_addMonths`.
-/

namespace Calendar

def isLeap (y : ℕ) : Bool := (y % 4 == 0 && y % 100 != 0) || y % 400 == 0

def daysInMonth (y m : ℕ) : ℕ :=
  match m with
  | 2 => if isLeap y then 29 else 28
  | 4 | 6 | 9 | 11 => 30
  | _ => 31

theorem daysInMonth_pos (y m : ℕ) : 28 ≤ daysInMonth y m := by
  unfold daysInMonth
  split
  · split_ifs <;> omega
  all_goals omega

theorem daysInMonth_le (y m : ℕ) : daysInMonth y m ≤ 31 := by
  unfold daysInMonth
  split
  · split_ifs <;> omega
  all_goals omega

structure Date where
  year : ℕ
  month : ℕ
  day : ℕ
  valid : 1 ≤ month ∧ month ≤ 12 ∧ 1 ≤ day ∧ day ≤ daysInMonth year month
  deriving DecidableEq

namespace Date

variable {d e : Date}

def code (d : Date) : ℕ := d.year * 512 + d.month * 32 + d.day

theorem day_le (d : Date) : d.day ≤ 31 := d.valid.2.2.2.trans (daysInMonth_le _ _)

theorem code_injective : Function.Injective code := by
  intro d e h
  have hd := d.day_le
  have he := e.day_le
  obtain ⟨y, m, k, hv⟩ := d
  obtain ⟨y', m', k', hv'⟩ := e
  simp only [code] at h hd he
  obtain ⟨rfl, rfl, rfl⟩ : y = y' ∧ m = m' ∧ k = k' := by omega
  rfl

instance : LinearOrder Date := LinearOrder.lift' code code_injective

theorem le_def : d ≤ e ↔ d.code ≤ e.code := Iff.rfl

theorem lt_def : d < e ↔ d.code < e.code := Iff.rfl

private def padded (width n : ℕ) : String :=
  let digits := toString n
  String.ofList (List.replicate (width - digits.length) '0') ++ digits

def iso (d : Date) : String :=
  padded 4 d.year ++ "-" ++ padded 2 d.month ++ "-" ++ padded 2 d.day

/-! ### Days -/

/-- The day after. -/
def succ (d : Date) : Date :=
  if h : d.day < daysInMonth d.year d.month then
    ⟨d.year, d.month, d.day + 1, by have := d.valid; omega⟩
  else if h' : d.month < 12 then
    ⟨d.year, d.month + 1, 1, by have := daysInMonth_pos d.year (d.month + 1); omega⟩
  else
    ⟨d.year + 1, 1, 1, by have := daysInMonth_pos (d.year + 1) 1; omega⟩

/-- The day before. The first day of the calendar is its own predecessor. -/
def pred (d : Date) : Date :=
  if h : 1 < d.day then
    ⟨d.year, d.month, d.day - 1, by have := d.valid; omega⟩
  else if h' : 1 < d.month then
    ⟨d.year, d.month - 1, daysInMonth d.year (d.month - 1), by
      have := d.valid
      have := daysInMonth_pos d.year (d.month - 1)
      omega⟩
  else if d.year = 0 then d
  else ⟨d.year - 1, 12, 31, by simp [daysInMonth]⟩

theorem lt_succ (d : Date) : d < d.succ := by
  have := d.valid
  have := d.day_le
  rw [lt_def, succ]
  split_ifs <;> simp only [code] <;> omega

theorem succ_le_iff : d.succ ≤ e ↔ d < e := by
  refine ⟨fun h => (lt_succ d).trans_le h, fun h => ?_⟩
  have hd := d.valid
  have he := e.valid
  have := e.day_le
  have := d.day_le
  rw [lt_def] at h
  rw [le_def, succ]
  simp only [code] at h
  -- within one month the two months have the same length
  by_cases hmonth : d.year = e.year ∧ d.month = e.month
  · have hlen : daysInMonth d.year d.month = daysInMonth e.year e.month := by
      rw [hmonth.1, hmonth.2]
    split_ifs <;> simp only [code] <;> omega
  · split_ifs <;> simp only [code] <;> omega

@[simp] theorem lt_succ_iff : d < e.succ ↔ d ≤ e := by
  rw [← not_le, succ_le_iff, not_lt]

theorem le_pred_of_lt (h : d < e) : d ≤ e.pred := by
  have hd := d.valid
  have he := e.valid
  have := d.day_le
  have := e.day_le
  rw [lt_def] at h
  rw [le_def, pred]
  simp only [code] at h
  by_cases hmonth : d.year = e.year ∧ d.month + 1 = e.month
  · have hlen : daysInMonth e.year (e.month - 1) = daysInMonth d.year d.month := by
      rw [hmonth.1, ← hmonth.2, Nat.add_sub_cancel]
    split_ifs <;> simp only [code] <;> omega
  · split_ifs <;> simp only [code] <;> omega

/-! ### Months -/

def monthStart (d : Date) : Date :=
  ⟨d.year, d.month, 1, by have := d.valid; have := daysInMonth_pos d.year d.month; omega⟩

def monthEnd (d : Date) : Date :=
  ⟨d.year, d.month, daysInMonth d.year d.month, by
    have := d.valid; have := daysInMonth_pos d.year d.month; omega⟩

theorem monthStart_le (d : Date) : d.monthStart ≤ d := by
  have := d.valid
  simp only [le_def, code, monthStart]
  omega

theorem le_monthEnd (d : Date) : d ≤ d.monthEnd := by
  have := d.valid
  simp only [le_def, code, monthEnd]
  omega

/-- The same day some months on, or the last one of that month. -/
def addMonths (n : ℕ) (d : Date) : Date :=
  let index := d.month - 1 + n
  let y := d.year + index / 12
  let m := index % 12 + 1
  ⟨y, m, min d.day (daysInMonth y m), by
    have := d.valid
    have := daysInMonth_pos y m
    omega⟩

theorem lt_addMonths {n : ℕ} (hn : 0 < n) (d : Date) : d < d.addMonths n := by
  have hv := d.valid
  have hle := d.day_le
  have hpos := daysInMonth_pos (d.year + (d.month - 1 + n) / 12) ((d.month - 1 + n) % 12 + 1)
  rw [lt_def]
  simp only [code, addMonths]
  omega

end Date

end Calendar
