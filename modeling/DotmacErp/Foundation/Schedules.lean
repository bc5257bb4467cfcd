import DotmacErp.Foundation.Months

/-!
# Schedules that step from the day they run

A schedule with a period of `m` months and a first date has an occurrence `i` periods after it,
clipped to the length of its month (`occurrence`). A program that counts each next date from the day
it took the last one hands out other dates (`scheduledFrom`): the first date, and then each day of a
run plus one period (`scheduledFrom_eq_take`).

The two agree if and only if every run but the last is on its occurrence (`OnOccurrence`): in the
month of the occurrence, and on the day of the first date, or on days that the month of the next
occurrence clips alike (`scheduledFrom_eq_iff`).
-/

namespace Calendar

namespace Date

variable {start d : Date} {m i : ℕ} {runs : List Date} {run : Date}

@[simp] theorem addMonths_zero (d : Date) : d.addMonths 0 = d := by
  have hday := d.day_le_monthLength
  rw [eq_iff_day_eq (by simp), day_addMonths, Nat.add_zero]
  omega

/-- The date `i` periods of `m` months after the first one. -/
def occurrence (start : Date) (m i : ℕ) : Date := start.addMonths (i * m)

/-- The dates handed out when each next one is a period after the day of a run. -/
def scheduledFrom (m : ℕ) : Date → List Date → List Date
  | _, [] => []
  | d, run :: runs => d :: scheduledFrom m (run.addMonths m) runs

def nextFrom (m : ℕ) : Date → List Date → Date
  | d, [] => d
  | _, run :: runs => nextFrom m (run.addMonths m) runs

/-- A run in the month of its occurrence, on the day of the first date, or on a day that the month
of the next occurrence clips as it clips that one. -/
def OnOccurrence (start : Date) (m i : ℕ) (run : Date) : Prop :=
  run.monthIndex = start.monthIndex + i * m ∧ (run.day = start.day ∨
    (monthLength (start.monthIndex + (i + 1) * m) ≤ run.day ∧
      monthLength (start.monthIndex + (i + 1) * m) ≤ start.day))

instance (start : Date) (m i : ℕ) (run : Date) : Decidable (OnOccurrence start m i run) :=
  inferInstanceAs (Decidable (_ ∧ _))

/-- **One period after a run** is the next occurrence if and only if the run is on its own. -/
theorem addMonths_eq_occurrence_iff :
    run.addMonths m = start.occurrence m (i + 1) ↔ OnOccurrence start m i run := by
  have hmul : (i + 1) * m = i * m + m := Nat.succ_mul i m
  rw [OnOccurrence, occurrence]
  constructor
  · intro heq
    have hindex := congrArg monthIndex heq
    rw [monthIndex_addMonths, monthIndex_addMonths] at hindex
    have hmonth : run.monthIndex = start.monthIndex + i * m := by omega
    have hday := congrArg day heq
    have hsame : run.monthIndex + m = start.monthIndex + (i + 1) * m := by omega
    rw [day_addMonths, day_addMonths, hsame] at hday
    refine ⟨hmonth, ?_⟩
    omega
  · rintro ⟨hmonth, hclip⟩
    have hsame : run.monthIndex + m = start.monthIndex + (i + 1) * m := by omega
    rw [eq_iff_day_eq (by rw [monthIndex_addMonths, monthIndex_addMonths, hsame]), day_addMonths,
      day_addMonths, hsame]
    omega

theorem nextFrom_concat (m : ℕ) (d : Date) (runs : List Date) (run : Date) :
    nextFrom m d (runs ++ [run]) = run.addMonths m := by
  induction runs generalizing d with
  | nil => rfl
  | cons _ runs ih => exact ih _

theorem scheduledFrom_concat (m : ℕ) (d : Date) (runs : List Date) (run : Date) :
    scheduledFrom m d (runs ++ [run]) = scheduledFrom m d runs ++ [nextFrom m d runs] := by
  induction runs generalizing d with
  | nil => rfl
  | cons first runs ih =>
    rw [List.cons_append, scheduledFrom, scheduledFrom, ih, List.cons_append]
    rfl

theorem scheduledFrom_eq_take (m : ℕ) (d : Date) (runs : List Date) :
    scheduledFrom m d runs = (d :: runs.map (addMonths m)).take runs.length := by
  induction runs generalizing d with
  | nil => rfl
  | cons run runs ih => rw [scheduledFrom, ih, List.length_cons, List.take_succ_cons, List.map_cons]

theorem length_scheduledFrom (m : ℕ) (d : Date) (runs : List Date) :
    (scheduledFrom m d runs).length = runs.length := by
  rw [scheduledFrom_eq_take, List.length_take, List.length_cons, List.length_map]
  omega

theorem getElem?_scheduledFrom (hi : i + 1 < runs.length) :
    (scheduledFrom m d runs)[i + 1]? = runs[i]?.map (addMonths m) := by
  rw [scheduledFrom_eq_take, List.getElem?_take_of_lt hi, List.getElem?_cons_succ,
    List.getElem?_map]

/-- **No drift.** The dates handed out are the occurrences, in order and without a gap, if and only
if every run but the last is on its occurrence. -/
theorem scheduledFrom_eq_iff :
    scheduledFrom m start runs = (List.range runs.length).map (start.occurrence m) ↔
      ∀ i run, i + 1 < runs.length → runs[i]? = some run → OnOccurrence start m i run := by
  constructor
  · intro h i run hi hrun
    have hnext := getElem?_scheduledFrom (m := m) (d := start) hi
    rw [h, hrun, List.getElem?_map, List.getElem?_range hi] at hnext
    exact addMonths_eq_occurrence_iff.mp (Option.some.inj hnext).symm
  · intro h
    refine List.ext_getElem? fun j => ?_
    by_cases hj : j < runs.length
    · rw [List.getElem?_map, List.getElem?_range hj, Option.map_some]
      obtain _ | i := j
      · -- the first date is the occurrence of no period
        have hfirst : start.occurrence m 0 = start := by rw [occurrence, Nat.zero_mul,
          addMonths_zero]
        rw [hfirst, scheduledFrom_eq_take, List.getElem?_take_of_lt hj]
        rfl
      · obtain ⟨run, hrun⟩ : ∃ run, runs[i]? = some run :=
          ⟨_, List.getElem?_eq_getElem (by omega : i < runs.length)⟩
        rw [getElem?_scheduledFrom hj, hrun, Option.map_some,
          addMonths_eq_occurrence_iff.mpr (h i run hj hrun)]
    · rw [List.getElem?_eq_none (by rw [length_scheduledFrom]; omega),
        List.getElem?_eq_none (by rw [List.length_map, List.length_range]; omega)]

end Date

end Calendar
