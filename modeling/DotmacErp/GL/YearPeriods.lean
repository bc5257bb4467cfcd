import DotmacErp.Foundation.Months
import DotmacErp.Foundation.Selections
import DotmacErp.GL.PeriodOverlap
import Mathlib.Order.Interval.Set.Union

/-!
# The periods of a generated year

`create_year_with_periods` over twelve months. The start of each period is one month after the start
of the one before, with its day clipped, and the clipped day is carried on: the periods are the
steps of `Date.stepMonths` (`generatePeriods_year`), whatever the first day is.

They are never empty, follow one another and overlap nowhere. They cover the year up to its end if
and only if the steps reach the same day of the next year (`periods_tile_iff`).
-/

namespace DotmacErp

open Calendar Calendar.Date Relational Session Table

namespace FiscalYearService

variable {s s' : Db} {org y k : UUID} {d start : Date} {i count : ℕ}

/-! ### What a year of periods is -/

def createdPeriods (s s' : Db) : List FiscalPeriod :=
  (s'.fiscalPeriods.rows.drop s.fiscalPeriods.rows.length).map Stored.row

/-- Periods tile the days from one date to another: none is empty, each starts the day after the one
before ends, no two share a day, and together they cover these days and no others. -/
structure Tiles (periods : List FiscalPeriod) (startDate endDate : Date) : Prop where
  nonempty : ∀ p ∈ periods, p.startDate ≤ p.endDate
  consecutive : periods.IsChain fun p q => q.startDate = p.endDate.succ
  disjoint : periods.Pairwise fun p q => ¬ p.Overlaps q
  covers : ∀ d, (∃ p ∈ periods, p.Covers d) ↔ startDate ≤ d ∧ d ≤ endDate

/-! ### The generated periods -/

/-- The period of the `i`-th step from a date. -/
def stepPeriod (org y : UUID) (start : Date) (i : ℕ) : FiscalPeriod :=
  generatedPeriod org y i (stepMonths i start) (stepMonths (i + 1) start).pred

theorem stepMonths_lt (i : ℕ) (start : Date) : stepMonths i start < stepMonths (i + 1) start :=
  stepMonths_strictMono start (Nat.lt_succ_self i)

theorem succ_endDate_stepPeriod (i : ℕ) :
    (stepPeriod org y start i).endDate.succ = stepMonths (i + 1) start :=
  succ_pred (stepMonths_lt i start)

/-- A generation up to a date that the steps do not pass before the count runs out clips no
period. -/
theorem generatePeriods_eq_map {next : Date} (hreach : stepMonths (i + count) start ≤ next) :
    generatePeriods org y next.pred count i (stepMonths i start) =
      (List.range' i count).map (stepPeriod org y start) := by
  induction count generalizing i with
  | zero => rfl
  | succ count ih =>
    have hlt := stepMonths_lt i start
    have hstep : stepMonths (i + 1) start ≤ stepMonths (i + (count + 1)) start :=
      (stepMonths_strictMono start).monotone (by omega)
    have hnext : next.pred.succ = next := succ_pred (hlt.trans_le (hstep.trans hreach))
    -- the month ends within the year, so that it is not clipped
    have hend :
      min (stepMonths (i + 1) start).pred next.pred = (stepMonths (i + 1) start).pred := by
      refine min_eq_left ?_
      rw [← lt_succ_iff, hnext]
      exact (pred_lt (ne_first_of_lt hlt)).trans_le (hstep.trans hreach)
    have hmonth : (stepMonths i start).addMonths 1 = stepMonths (i + 1) start := rfl
    rw [generatePeriods, hmonth, hend, succ_pred hlt, List.range'_succ, List.map_cons,
      stepPeriod]
    congr 1
    split_ifs with hlast
    · -- past the end only after the last step
      have hpast : next ≤ stepMonths (i + 1) start := by
        rw [← hnext]
        exact succ_le_iff.mpr hlast
      have hcount : count = 0 := by
        by_contra hpos
        have hmore : stepMonths (i + 1) start < stepMonths (i + (count + 1)) start :=
          stepMonths_strictMono start (by omega)
        exact absurd (hmore.trans_le hreach) (not_lt.mpr hpast)
      rw [hcount, List.range'_zero, List.map_nil]
    · have hshift : i + 1 + count = i + (count + 1) := by omega
      refine ih ?_
      rw [hshift]
      exact hreach

/-- **The periods of a year** are its steps by one month, twelve of them. -/
theorem generatePeriods_year (org y : UUID) (start : Date) :
    generatePeriods org y (start.addMonths 12).pred 12 0 start =
      (List.range 12).map (stepPeriod org y start) := by
  have hreach : stepMonths (0 + 12) start ≤ start.addMonths 12 := stepMonths_le 12 start
  rw [List.range_eq_range']
  exact generatePeriods_eq_map hreach

theorem createdPeriods_eq {input : FiscalYearInput}
    (h : createYearWithPeriods org input count s = .ok k s') :
    createdPeriods s s' = generatePeriods org k input.endDate count 0 input.startDate := by
  obtain ⟨years, rfl, -⟩ := createYearWithPeriods_eq_ok h
  rw [createdPeriods, List.map_drop]
  change ((s.fiscalPeriods.insertAll _).rows.map Stored.row).drop _ = _
  rw [rows_insertAll]
  exact List.drop_left' (List.length_map _)

/-! ### What the steps cover -/

theorem exists_step_iff (n : ℕ) (start d : Date) :
    (∃ i < n, stepMonths i start ≤ d ∧ d < stepMonths (i + 1) start) ↔
      start ≤ d ∧ d < stepMonths n start := by
  have hmono := (stepMonths_strictMono start).monotone
  constructor
  · rintro ⟨i, hi, hlow, hhigh⟩
    exact ⟨(hmono (Nat.zero_le i)).trans hlow, hhigh.trans_le (hmono hi)⟩
  · intro h
    have hmem := Ico_subset_biUnion_Ico n (fun i => stepMonths i start) h
    simp only [Set.mem_iUnion, Finset.mem_range, Set.mem_Ico] at hmem
    obtain ⟨i, hi, hd⟩ := hmem
    exact ⟨i, hi, hd⟩

theorem covers_stepPeriod_iff :
    (stepPeriod org y start i).Covers d ↔
      stepMonths i start ≤ d ∧ d < stepMonths (i + 1) start := by
  rw [← succ_pred (stepMonths_lt i start), lt_succ_iff]
  rfl

theorem exists_covers_iff (org y : UUID) (start : Date) (n : ℕ) (d : Date) :
    (∃ p ∈ (List.range n).map (stepPeriod org y start), p.Covers d) ↔
      start ≤ d ∧ d < stepMonths n start := by
  rw [← exists_step_iff]
  constructor
  · rintro ⟨p, hp, hd⟩
    obtain ⟨i, hi, rfl⟩ := List.mem_map.mp hp
    exact ⟨i, List.mem_range.mp hi, covers_stepPeriod_iff.mp hd⟩
  · rintro ⟨i, hi, hd⟩
    exact ⟨_, List.mem_map_of_mem (List.mem_range.mpr hi), covers_stepPeriod_iff.mpr hd⟩

/-- The periods of the first steps tile the days before a date if and only if the last step ends
there. -/
theorem tiles_steps_iff (org y : UUID) {start next : Date} {n : ℕ} (hn : stepMonths n start ≤ next)
    (hnext : start < next) :
    Tiles ((List.range n).map (stepPeriod org y start)) start next.pred ↔
      stepMonths n start = next := by
  have hbefore : ∀ d, d ≤ next.pred ↔ d < next := by
    intro d
    rw [← lt_succ_iff, succ_pred hnext]
  constructor
  · intro htiles
    -- the day that the last step reaches is not covered, so it is not in the year
    have hlast := htiles.covers (stepMonths n start)
    rw [exists_covers_iff, hbefore] at hlast
    refine hn.antisymm (not_lt.mp fun hlt => ?_)
    exact lt_irrefl _ (hlast.mpr ⟨le_stepMonths n start, hlt⟩).2
  · intro hreach
    refine ⟨fun p hp => ?_, ?_, ?_, fun d => ?_⟩
    · obtain ⟨i, -, rfl⟩ := List.mem_map.mp hp
      exact le_pred_of_lt (stepMonths_lt i start)
    · rw [List.isChain_map, List.isChain_range]
      intro i _
      exact (succ_endDate_stepPeriod i).symm
    · rw [List.pairwise_map]
      refine List.pairwise_lt_range.imp fun {i j} hij => ?_
      rintro ⟨d, hi, hj⟩
      have hlow := (covers_stepPeriod_iff.mp hj).1
      have hhigh := (covers_stepPeriod_iff.mp hi).2
      have hmono : stepMonths (i + 1) start ≤ stepMonths j start :=
        (stepMonths_strictMono start).monotone hij
      exact absurd (hhigh.trans_le (hmono.trans hlow)) (lt_irrefl d)
    · rw [exists_covers_iff, hbefore, hreach]

/-! ### When a year is tiled -/

/-- **Generated periods tile the year** if and only if the first day is kept over the months: it is
at most the 28th, or it is a 29th and the next February has one, or is the one that the year
started in. -/
theorem periods_tile_iff {input : FiscalYearInput}
    (h : createYearWithPeriods org input 12 s = .ok k s')
    (hend : input.endDate = (input.startDate.addMonths 12).pred) :
    Tiles (createdPeriods s s') input.startDate input.endDate ↔ input.startDate.KeepsDay := by
  rw [createdPeriods_eq h, hend, generatePeriods_year,
    tiles_steps_iff org k (stepMonths_le 12 _) (lt_addMonths (by omega) _), stepMonths_year_iff]

def yearFrom (start : Date) : FiscalYearInput where
  yearCode := "FY"
  yearName := "Fiscal year"
  startDate := start
  endDate := (start.addMonths 12).pred

theorem endDate_yearFrom (start : Date) :
    (yearFrom start).endDate = (start.addMonths 12).pred := rfl

theorem startDate_yearFrom (start : Date) : (yearFrom start).startDate = start := rfl

def leapDay : Date := ⟨2024, 2, 29, by decide⟩

def endOfJanuary : Date := ⟨2025, 1, 31, by decide⟩

/-- A leap day starts a year that is tiled. -/
theorem periods_tile_sample :
    ∃ k s', createYearWithPeriods 0 (yearFrom leapDay) 12 {} = .ok k s' ∧
      Tiles (createdPeriods {} s') leapDay (leapDay.addMonths 12).pred := by
  have hreturns : returns (createYearWithPeriods 0 (yearFrom leapDay) 12) {} = true := by
    decide +kernel
  obtain ⟨k, s', hrun⟩ := returns_iff.mp hreturns
  exact ⟨k, s', hrun, (periods_tile_iff hrun (endDate_yearFrom leapDay)).mpr (by decide)⟩

/-- **Not every year is tiled**: in a year from the last of January the periods start on the 28th
from the second on, and the last one ends three days before the year does. -/
theorem year_not_tiled :
    ¬ ∀ (s s' : Db) (org k : UUID) (input : FiscalYearInput),
      input.endDate = (input.startDate.addMonths 12).pred →
      createYearWithPeriods org input 12 s = .ok k s' →
      Tiles (createdPeriods s s') input.startDate input.endDate := by
  intro h
  have hreturns : returns (createYearWithPeriods 0 (yearFrom endOfJanuary) 12) {} = true := by
    decide +kernel
  obtain ⟨k, s', hrun⟩ := returns_iff.mp hreturns
  have htiles := h {} s' 0 k _ (endDate_yearFrom endOfJanuary) hrun
  rw [createdPeriods_eq hrun, endDate_yearFrom, startDate_yearFrom, generatePeriods_year,
    tiles_steps_iff 0 k (stepMonths_le 12 _) (lt_addMonths (by omega) _), stepMonths_year_iff]
    at htiles
  exact absurd htiles (by decide)

end FiscalYearService

end DotmacErp
