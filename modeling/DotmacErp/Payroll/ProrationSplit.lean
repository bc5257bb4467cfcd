import DotmacErp.Foundation.Months
import DotmacErp.Foundation.RoundedSums
import DotmacErp.Payroll.ProrationHistory
import Mathlib.Tactic.NormNum

/-!
# Splitting a pay period between two employees

An employee leaves on a day of a pay period and another one joins on the day after: their payment
days should be the working days of the period, and the payment days of anyone should not exceed
them. Calendar days and business days are counted, so that both hold (`days_append`). A month of
thirty days measures each part of the period by the length of the month that the part itself begins
in, and rounds it: the parts add up exactly where these months are as long and the roundings leave
nothing (`PartsAdd`), and a part fits in the whole exactly where its share is no larger
(`ShareFits`).
-/

namespace DotmacErp.Payroll

open Calendar

/-! ### A month of thirty days -/

def thirtieths (days month : ℕ) : ℚ := days * 30 / month

def span (start stop : Date) : ℕ := stop.number + 1 - start.number

def monthOf (d : Date) : ℕ := daysInMonth d.year d.month

/-- The two parts of a period, measured and rounded, add up to it: there is no second part, or it
begins in a month as long as the first one does, and the roundings leave nothing. -/
def PartsAdd (start d stop : Date) : Prop :=
  d = stop ∨ (monthOf d.succ = monthOf start ∧
    Rounding.Vanishes 2
      (thirtieths (span start d) (monthOf start) + thirtieths (span d.succ stop) (monthOf start))
      (Rounding.residue 2 [thirtieths (span start d) (monthOf start),
        thirtieths (span d.succ stop) (monthOf start)]))

instance (start d stop : Date) : Decidable (PartsAdd start d stop) :=
  inferInstanceAs (Decidable (_ ∨ (_ ∧ _)))

/-- The share of a part of a period in the month it begins in is no larger than that of the
period. -/
def ShareFits (start stop partStart partStop : Date) : Prop :=
  partStart ≤ partStop →
    span partStart partStop * monthOf start ≤ span start stop * monthOf partStart

instance (start stop partStart partStop : Date) :
    Decidable (ShareFits start stop partStart partStop) :=
  inferInstanceAs (Decidable (_ → _))

section Thirty

variable {days days' month month' : ℕ} {start d stop : Date}

theorem monthOf_bounds (d : Date) : 28 ≤ monthOf d ∧ monthOf d ≤ 31 := by
  rw [monthOf]
  unfold daysInMonth
  split
  · split_ifs <;> omega
  all_goals omega

theorem span_pos (h : start ≤ stop) : 0 < span start stop := by
  have := Date.number_le_number.mpr h
  rw [span]
  omega

theorem thirtieths_apart (hdays : 0 < days) (h28 : 28 ≤ month ∧ month ≤ 31)
    (h28' : 28 ≤ month' ∧ month' ≤ 31) (hne : month' ≠ month) :
    3 / 200 < |thirtieths days month' - thirtieths days month| := by
  have hmonth : (0 : ℚ) < month := by exact_mod_cast (by omega : 0 < month)
  have hmonth' : (0 : ℚ) < month' := by exact_mod_cast (by omega : 0 < month')
  have hdiff : thirtieths days month' - thirtieths days month =
      30 * days * ((month : ℚ) - month') / (month' * month) := by
    rw [thirtieths, thirtieths]
    field_simp
  have happart : (1 : ℚ) ≤ |(month : ℚ) - month'| := by
    have hint : (1 : ℤ) ≤ |(month : ℤ) - month'| := Int.one_le_abs (by omega)
    exact_mod_cast hint
  have hfirst : (1 : ℚ) ≤ days := by exact_mod_cast hdays
  have hproduct : (month' : ℚ) * month ≤ 31 * 31 := by
    have hle : (month : ℚ) ≤ 31 := by exact_mod_cast h28.2
    have hle' : (month' : ℚ) ≤ 31 := by exact_mod_cast h28'.2
    exact mul_le_mul hle' hle hmonth.le (by norm_num)
  rw [hdiff, abs_div, abs_mul, abs_mul, abs_of_pos (by positivity : (0 : ℚ) < 30),
    abs_of_pos (by linarith : (0 : ℚ) < days), abs_of_pos (mul_pos hmonth' hmonth),
    lt_div_iff₀ (mul_pos hmonth' hmonth)]
  nlinarith

theorem halfUp_thirtieths_add_iff (hstart : start ≤ d) (hstop : d < stop) :
    Rounding.halfUp 2 (thirtieths (span start d) (monthOf start)) +
        Rounding.halfUp 2 (thirtieths (span d.succ stop) (monthOf d.succ)) =
      Rounding.halfUp 2 (thirtieths (span start stop) (monthOf start)) ↔
    PartsAdd start d stop := by
  have hspan : span start stop = span start d + span d.succ stop := by
    have hlow := Date.number_le_number.mpr hstart
    have hhigh := Date.number_lt_number.mpr hstop
    rw [span, span, span, Date.number_succ]
    omega
  have hwhole : thirtieths (span start stop) (monthOf start) =
      thirtieths (span start d) (monthOf start) +
        thirtieths (span d.succ stop) (monthOf start) := by
    rw [hspan, thirtieths, thirtieths, thirtieths]
    push_cast
    ring
  rw [PartsAdd, or_iff_right hstop.ne]
  by_cases hmonth : monthOf d.succ = monthOf start
  · rw [hmonth, and_iff_right rfl, hwhole]
    have hsum := Rounding.halfUp_sum_eq_iff 2 [thirtieths (span start d) (monthOf start),
      thirtieths (span d.succ stop) (monthOf start)]
    simp only [List.map_cons, List.map_nil, List.sum_cons, List.sum_nil, add_zero] at hsum
    exact eq_comm.trans hsum
  · refine iff_of_false (fun heq => ?_) fun h => hmonth h.1
    -- each rounding moves by half a hundredth at most
    have hapart := thirtieths_apart (span_pos (Date.succ_le_iff.mpr hstop)) (monthOf_bounds start)
      (monthOf_bounds d.succ) hmonth
    have hfirst := abs_le.mp (Rounding.abs_halfUp_sub_le 2
      (thirtieths (span start d) (monthOf start)))
    have hsecond := abs_le.mp (Rounding.abs_halfUp_sub_le 2
      (thirtieths (span d.succ stop) (monthOf d.succ)))
    have hboth := abs_le.mp (Rounding.abs_halfUp_sub_le 2
      (thirtieths (span start stop) (monthOf start)))
    rw [lt_abs] at hapart
    norm_num at hfirst hsecond hboth
    rcases hapart with hapart | hapart
    · linarith
    · linarith

theorem halfUp_thirtieths_le_iff (h28 : 28 ≤ month ∧ month ≤ 31)
    (h28' : 28 ≤ month' ∧ month' ≤ 31) :
    Rounding.halfUp 2 (thirtieths days' month') ≤ Rounding.halfUp 2 (thirtieths days month) ↔
      days' * month ≤ days * month' := by
  have hmonth : (0 : ℚ) < month := by exact_mod_cast (by omega : 0 < month)
  have hmonth' : (0 : ℚ) < month' := by exact_mod_cast (by omega : 0 < month')
  have hproduct : (month' : ℚ) * month ≤ 31 * 31 := by
    have hle : (month : ℚ) ≤ 31 := by exact_mod_cast h28.2
    have hle' : (month' : ℚ) ≤ 31 := by exact_mod_cast h28'.2
    exact mul_le_mul hle' hle hmonth.le (by norm_num)
  constructor
  · intro hle
    by_contra hgt
    have hone : days * month' + 1 ≤ days' * month := by omega
    have hcast : (days : ℚ) * month' + 1 ≤ days' * month := by exact_mod_cast hone
    -- a larger share is larger by more than a hundredth
    have hlarger : thirtieths days month + 1 / 100 < thirtieths days' month' := by
      rw [thirtieths, thirtieths, div_add_div _ _ hmonth.ne' (by norm_num : (100 : ℚ) ≠ 0),
        div_lt_div_iff₀ (by positivity) hmonth']
      nlinarith
    have hfirst := abs_le.mp (Rounding.abs_halfUp_sub_le 2 (thirtieths days' month'))
    have hsecond := abs_le.mp (Rounding.abs_halfUp_sub_le 2 (thirtieths days month))
    norm_num at hfirst hsecond
    linarith
  · intro hle
    refine Rounding.halfUp_mono ?_
    have hcast : (days' : ℚ) * month ≤ days * month' := by exact_mod_cast hle
    rw [thirtieths, thirtieths, div_le_div_iff₀ hmonth' hmonth]
    nlinarith

end Thirty

/-! ### The two calls -/

section Calls

variable {books : HolidayBooks} {call : PaymentDaysCall} {cache : CalendarCache} {d : Date}
  {joined start stop : Date} {left : Option Date} {method : ProrationMethod}
  {calendar : HolidayCalendar}

namespace PaymentDaysCall

def leavingOn (call : PaymentDaysCall) (joined d : Date) : PaymentDaysCall :=
  { call with
    employeeJoiningDate := joined
    employeeLeavingDate := some d }

def joiningOn (call : PaymentDaysCall) (d : Date) (left : Option Date) : PaymentDaysCall :=
  { call with
    employeeJoiningDate := d
    employeeLeavingDate := left }

theorem paymentDays_eq (call : PaymentDaysCall) (method : ProrationMethod)
    (calendar : HolidayCalendar) :
    (call.prorate method calendar).paymentDays =
      call.days method calendar call.effectiveStart call.effectiveEnd := by
  change (if _ then _ else if _ then _ else _) = _
  split_ifs with hlt hnone
  · rw [days, calculateDays, if_pos hlt]
  · -- nothing was prorated: the employee was there from the first day to the last
    rw [determineProrationReason] at hnone
    have hjoined : ¬ call.periodStart < call.employeeJoiningDate := by
      intro h
      rw [decide_eq_true h] at hnone
      split at hnone <;> simp_all
    have hleft : call.effectiveEnd = call.periodEnd := by
      rw [effectiveEnd]
      cases hleaving : call.employeeLeavingDate with
      | none => rfl
      | some d =>
        refine if_neg fun h => ?_
        rw [hleaving, Option.any_some, decide_eq_true h] at hnone
        split at hnone <;> simp_all
    rw [effectiveStart, max_eq_right (not_lt.mp hjoined), hleft]
  · rfl

end PaymentDaysCall

open PaymentDaysCall

theorem days_nonneg (call : PaymentDaysCall) (method : ProrationMethod)
    (calendar : HolidayCalendar) (start stop : Date) :
    0 ≤ call.days method calendar start stop := by
  rw [PaymentDaysCall.days, calculateDays]
  split_ifs
  · exact le_rfl
  · cases method with
    | calendarDays => exact Nat.cast_nonneg _
    | businessDays => exact Nat.cast_nonneg _
    | fixed30Day => exact Rounding.halfUp_nonneg (by positivity)

theorem days_fixed (h : start ≤ stop) :
    call.days .fixed30Day calendar start stop =
      Rounding.halfUp 2 (thirtieths (span start stop) (monthOf start)) := by
  have hnumber := Date.number_le_number.mpr h
  rw [PaymentDaysCall.days, calculateDays, if_neg (not_lt.mpr h), thirtieths, span, monthOf,
    Nat.sub_add_comm hnumber]

theorem days_calendar (h : start ≤ stop) :
    call.days .calendarDays calendar start stop = (start.daysTo stop).length := by
  have hnumber := Date.number_le_number.mpr h
  rw [PaymentDaysCall.days, calculateDays, if_neg (not_lt.mpr h), Date.length_daysTo,
    Nat.sub_add_comm hnumber]

theorem days_business (h : start ≤ stop) :
    call.days .businessDays calendar start stop = ((start.daysTo stop).countP fun day =>
      !calendar.isOff call.excludeWeekends call.excludeHolidays day : ℕ) := by
  rw [PaymentDaysCall.days, calculateDays, if_neg (not_lt.mpr h)]

/-- **The days of two parts** of a period add up to it if and only if they are counted, or their
thirtieths add up. -/
theorem days_append (hstart : start ≤ d) (hstop : d ≤ stop) :
    call.days method calendar start d + call.days method calendar d.succ stop =
        call.days method calendar start stop ↔
      (method = .fixed30Day → PartsAdd start d stop) := by
  by_cases hlast : d = stop
  · -- the second part is empty
    have hempty : call.days method calendar stop.succ stop = 0 := by
      rw [PaymentDaysCall.days, calculateDays, if_pos (Date.lt_succ stop)]
    subst hlast
    rw [hempty, add_zero]
    exact iff_of_true rfl fun _ => .inl rfl
  have hlt : d < stop := lt_of_le_of_ne hstop hlast
  have hnext : d.succ ≤ stop := Date.succ_le_iff.mpr hlt
  have hsplit := Date.daysTo_append hstart hstop
  cases method with
  | calendarDays =>
    rw [days_calendar hstart, days_calendar hnext, days_calendar (hstart.trans hstop), hsplit,
      List.length_append]
    push_cast
    exact iff_of_true rfl fun h => absurd h (by simp)
  | businessDays =>
    rw [days_business hstart, days_business hnext, days_business (hstart.trans hstop), hsplit,
      List.countP_append]
    push_cast
    exact iff_of_true rfl fun h => absurd h (by simp)
  | fixed30Day =>
    rw [days_fixed hstart, days_fixed hnext, days_fixed (hstart.trans hstop),
      halfUp_thirtieths_add_iff hstart hlt]
    exact ⟨fun h _ => h, fun h => h rfl⟩

/-- **The days of a part** are within those of the period if and only if they are counted, or its
share fits. -/
theorem days_le_iff {partStart partStop : Date} (hperiod : start ≤ stop)
    (hfirst : start ≤ partStart) (hlast : partStop ≤ stop) :
    call.days method calendar partStart partStop ≤ call.days method calendar start stop ↔
      (method = .fixed30Day → ShareFits start stop partStart partStop) := by
  by_cases hempty : partStop < partStart
  · have hzero : call.days method calendar partStart partStop = 0 := by
      rw [PaymentDaysCall.days, calculateDays, if_pos hempty]
    rw [hzero]
    exact iff_of_true (days_nonneg _ _ _ _ _) fun _ h => absurd hempty (not_lt.mpr h)
  have hpart : partStart ≤ partStop := not_lt.mp hempty
  have hnumbers : span partStart partStop ≤ span start stop := by
    have hlow := Date.number_le_number.mpr hfirst
    have hhigh := Date.number_le_number.mpr hlast
    rw [span, span]
    omega
  cases method with
  | calendarDays =>
    rw [days_calendar hpart, days_calendar hperiod, Date.length_daysTo, Date.length_daysTo]
    exact iff_of_true (by exact_mod_cast hnumbers) fun h => absurd h (by simp)
  | businessDays =>
    rw [days_business hpart, days_business hperiod]
    refine iff_of_true ?_ fun h => absurd h (by simp)
    -- the part lies between the days before it and those after it
    have hafter := Date.daysTo_append (hfirst.trans hpart) hlast
    have hbefore : (partStart.daysTo partStop).Sublist (start.daysTo partStop) := by
      rcases hfirst.eq_or_lt with rfl | hlt
      · exact List.Sublist.refl _
      · have hpred := Date.succ_pred hlt
        have hbefore : start ≤ partStart.pred := Date.le_pred_of_lt hlt
        have hupTo : partStart.pred ≤ partStop :=
          (Date.pred_lt (Date.ne_first_of_lt hlt)).le.trans hpart
        rw [Date.daysTo_append hbefore hupTo, hpred]
        exact List.sublist_append_right _ _
    have hsub : (partStart.daysTo partStop).Sublist (start.daysTo stop) := by
      rw [hafter]
      exact hbefore.trans (List.sublist_append_left _ _)
    exact_mod_cast hsub.countP_le
  | fixed30Day =>
    rw [days_fixed hpart, days_fixed hperiod,
      halfUp_thirtieths_le_iff (monthOf_bounds start) (monthOf_bounds partStart)]
    exact ⟨fun h _ _ => h, fun h => h rfl hpart⟩

/-- An employee leaves on a day of the period and another one joins on the next: the answers, one
call after the other, share the working days of the period out. -/
def SplitsExactly (books : HolidayBooks) (cache : CalendarCache) (call : PaymentDaysCall)
    (joined d : Date) (left : Option Date) : Prop :=
  ∃ result cache₁ result' cache₂,
    calculatePaymentDays books (call.leavingOn joined d) cache = .ok result cache₁ ∧
    calculatePaymentDays books (call.joiningOn d.succ left) cache₁ = .ok result' cache₂ ∧
    result'.totalWorkingDays = result.totalWorkingDays ∧
    result.paymentDays + result'.paymentDays = result.totalWorkingDays

/-- The payment days are between none and the working days. -/
def StaysWithin (books : HolidayBooks) (cache : CalendarCache) (call : PaymentDaysCall) : Prop :=
  ∃ result cache₁, calculatePaymentDays books call cache = .ok result cache₁ ∧
    0 ≤ result.paymentDays ∧ result.paymentDays ≤ result.totalWorkingDays

theorem staysWithin_iff (books : HolidayBooks) (cache : CalendarCache) (hperiod : call.HasPeriod) :
    StaysWithin books cache call ↔ (call.methodUsed books = .fixed30Day →
      ShareFits call.periodStart call.periodEnd call.effectiveStart call.effectiveEnd) := by
  have hfirst : call.periodStart ≤ call.effectiveStart := le_max_right _ _
  have hlast : call.effectiveEnd ≤ call.periodEnd := by
    rw [effectiveEnd]
    split
    · split_ifs with hlt
      · exact hlt.le
      · exact le_rfl
    · exact le_rfl
  rw [StaysWithin, calculatePaymentDays_of_hasPeriod hperiod]
  constructor
  · rintro ⟨result, cache₁, heq, -, hle⟩
    obtain ⟨rfl, -⟩ := EStateM.Result.ok.inj heq
    rw [paymentDays_eq] at hle
    exact (days_le_iff hperiod hfirst hlast).mp hle
  · intro hfits
    refine ⟨_, _, rfl, ?_, ?_⟩
    · rw [paymentDays_eq]
      exact days_nonneg _ _ _ _ _
    · rw [paymentDays_eq]
      exact (days_le_iff hperiod hfirst hlast).mpr hfits

theorem effectiveEnd_eq (h : ∀ day ∈ call.employeeLeavingDate, call.periodEnd ≤ day) :
    call.effectiveEnd = call.periodEnd := by
  rw [effectiveEnd]
  cases hleaving : call.employeeLeavingDate with
  | none => rfl
  | some day => exact if_neg (not_lt.mpr (h day hleaving))

/-- A calculator that has answered one call works with the same calendar for another that has the
same organization and the same custom holidays. -/
theorem calendar_again (books : HolidayBooks) (call other : PaymentDaysCall)
    (hcustom : other.customHolidays = call.customHolidays) (remembered : Option HolidayCalendar) :
    other.calendar books (some (call.calendar books remembered)) =
      call.calendar books remembered := by
  rw [PaymentDaysCall.calendar, PaymentDaysCall.calendar, Option.getD_some, hcustom,
    HolidayCalendar.merge, HolidayCalendar.merge, Finset.union_assoc, Finset.union_self]

theorem splitsExactly_iff (books : HolidayBooks) (cache : CalendarCache)
    (hjoined : joined ≤ call.periodStart) (hstart : call.periodStart ≤ d)
    (hstop : d ≤ call.periodEnd) (hleft : ∀ day ∈ left, call.periodEnd ≤ day) :
    SplitsExactly books cache call joined d left ↔ (call.methodUsed books = .fixed30Day →
      PartsAdd call.periodStart d call.periodEnd) := by
  have hleaver : (call.leavingOn joined d).HasPeriod := hstart.trans hstop
  have hjoiner : (call.joiningOn d.succ left).HasPeriod := hstart.trans hstop
  have hleaverStart : (call.leavingOn joined d).effectiveStart = call.periodStart :=
    max_eq_right hjoined
  have hleaverEnd : (call.leavingOn joined d).effectiveEnd = d := by
    change (if d < call.periodEnd then d else call.periodEnd) = d
    split_ifs with hlt
    · rfl
    · exact le_antisymm (not_lt.mp hlt) hstop
  have hjoinerStart : (call.joiningOn d.succ left).effectiveStart = d.succ :=
    max_eq_left (hstart.trans (Date.lt_succ d).le)
  have hjoinerEnd : (call.joiningOn d.succ left).effectiveEnd = call.periodEnd :=
    effectiveEnd_eq hleft
  let calendar := (call.leavingOn joined d).calendar books (cache call.organizationId)
  let cache₁ : CalendarCache := Function.update cache call.organizationId (some calendar)
  have hremembered : cache₁ call.organizationId = some calendar := by simp [cache₁]
  have hcalendar : (call.joiningOn d.succ left).calendar books
      (cache₁ (call.joiningOn d.succ left).organizationId) = calendar := by
    rw [show cache₁ (call.joiningOn d.succ left).organizationId = some calendar from hremembered]
    exact calendar_again books (call.leavingOn joined d) (call.joiningOn d.succ left) rfl _
  have hanswer : calculatePaymentDays books (call.leavingOn joined d) cache =
      .ok ((call.leavingOn joined d).prorate (call.methodUsed books) calendar) cache₁ :=
    calculatePaymentDays_of_hasPeriod hleaver
  have hanswer' : calculatePaymentDays books (call.joiningOn d.succ left) cache₁ =
      .ok ((call.joiningOn d.succ left).prorate (call.methodUsed books) calendar)
        (Function.update cache₁ call.organizationId (some calendar)) := by
    rw [calculatePaymentDays_of_hasPeriod hjoiner, hcalendar]
    rfl
  have hpay := paymentDays_eq (call.leavingOn joined d) (call.methodUsed books) calendar
  have hpay' := paymentDays_eq (call.joiningOn d.succ left) (call.methodUsed books) calendar
  rw [hleaverStart, hleaverEnd] at hpay
  rw [hjoinerStart, hjoinerEnd] at hpay'
  have hsplit : call.days (call.methodUsed books) calendar call.periodStart d +
      call.days (call.methodUsed books) calendar d.succ call.periodEnd =
        call.days (call.methodUsed books) calendar call.periodStart call.periodEnd ↔ _ :=
    days_append hstart hstop
  rw [SplitsExactly, ← hsplit]
  constructor
  · rintro ⟨result, _, result', _, hresult, hresult', -, hsum⟩
    obtain ⟨rfl, rfl⟩ := EStateM.Result.ok.inj (hanswer.symm.trans hresult)
    obtain ⟨rfl, -⟩ := EStateM.Result.ok.inj (hanswer'.symm.trans hresult')
    rw [hpay, hpay'] at hsum
    exact hsum
  · intro hsum
    refine ⟨_, _, _, _, hanswer, hanswer', rfl, ?_⟩
    rw [hpay, hpay']
    exact hsum

/-- **A proration splits exactly** between the one who leaves and the one who joins, and every
proration is within the period, if and only if the days are counted, or the thirtieths of the two
parts add up and the share of the part fits. -/
theorem proration_splits_iff (books : HolidayBooks) (cache : CalendarCache)
    (call : PaymentDaysCall) (joined d : Date) (left : Option Date)
    (hjoined : joined ≤ call.periodStart) (hstart : call.periodStart ≤ d)
    (hstop : d ≤ call.periodEnd) (hleft : ∀ day ∈ left, call.periodEnd ≤ day) :
    (SplitsExactly books cache call joined d left ∧ StaysWithin books cache call) ↔
      (call.methodUsed books = .fixed30Day →
        PartsAdd call.periodStart d call.periodEnd ∧
        ShareFits call.periodStart call.periodEnd call.effectiveStart call.effectiveEnd) := by
  rw [splitsExactly_iff books cache hjoined hstart hstop hleft,
    staysWithin_iff books cache (hstart.trans hstop)]
  constructor
  · rintro ⟨hadd, hfits⟩ hfixed
    exact ⟨hadd hfixed, hfits hfixed⟩
  · intro h
    exact ⟨fun hfixed => (h hfixed).1, fun hfixed => (h hfixed).2⟩

def acrossMonths : PaymentDaysCall where
  organizationId := 1
  employeeJoiningDate := ⟨2026, 2, 1, by decide⟩
  periodStart := ⟨2026, 1, 16, by decide⟩
  periodEnd := ⟨2026, 2, 15, by decide⟩
  employeeLeavingDate := none
  method := some .fixed30Day
  excludeWeekends := true
  excludeHolidays := true
  customHolidays := none

def noBooks : HolidayBooks := ⟨[], fun _ => none⟩

theorem proration_splits_iff_sample :
    SplitsExactly noBooks fresh { acrossMonths with method := some .calendarDays }
        ⟨2020, 1, 1, by decide⟩ ⟨2026, 1, 31, by decide⟩ none ∧
      StaysWithin noBooks fresh { acrossMonths with method := some .calendarDays } :=
  (proration_splits_iff noBooks fresh { acrossMonths with method := some .calendarDays }
    ⟨2020, 1, 1, by decide⟩ ⟨2026, 1, 31, by decide⟩ none (by decide) (by decide) (by decide)
    (by decide)).mpr fun h => absurd h (by decide)

/-- Sixteen days of January and fifteen days of February are 15.48 and 16.07 thirtieths, where the
whole period is 30. -/
theorem thirtieths_across_months :
    ¬ ∀ (books : HolidayBooks) (cache : CalendarCache) (call : PaymentDaysCall) (joined d : Date)
      (left : Option Date), joined ≤ call.periodStart → call.periodStart ≤ d →
      d ≤ call.periodEnd → (∀ day ∈ left, call.periodEnd ≤ day) →
      SplitsExactly books cache call joined d left ∧ StaysWithin books cache call := by
  intro h
  have hsplits :=
    (h noBooks fresh acrossMonths ⟨2020, 1, 1, by decide⟩ ⟨2026, 1, 31, by decide⟩ none
    (by decide) (by decide) (by decide) (by decide)).1
  have hadd := (splitsExactly_iff noBooks fresh (by decide) (by decide) (by decide)
    (by decide)).mp hsplits rfl
  revert hadd
  decide +kernel

end Calls

end DotmacErp.Payroll
