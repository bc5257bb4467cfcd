import DotmacErp.Payroll.WorkingDays
import Mathlib.Data.List.Count

/-!
# What a calculator answers after earlier calls

`calculate_payment_days` is a question about a pay period: the calculator keeps nothing but a
cache. Yet the cache is asked by the organization alone while a calendar holds the holidays of
one period, and the custom holidays of a call go into the cached calendar. What a calculator
remembers is said by the calls made to it (`afterCalls_eq`): the calendar of the first period
asked about, with the custom holidays of every call. An answer is that of a new calculator exactly
when the days off of the two calendars cannot be told apart by counting.
-/

namespace DotmacErp.Payroll

open Calendar

variable {books : HolidayBooks} {call : PaymentDaysCall} {cache : CalendarCache}
  {history : List PaymentDaysCall} {org : UUID}

/-! ### What a calculator remembers -/

def answer (books : HolidayBooks) (cache : CalendarCache) (call : PaymentDaysCall) :
    Except String ProrationResult :=
  match calculatePaymentDays books call cache with
  | .ok result _ => .ok result
  | .error message _ => .error message

def afterCall (books : HolidayBooks) (cache : CalendarCache) (call : PaymentDaysCall) :
    CalendarCache :=
  match calculatePaymentDays books call cache with
  | .ok _ cache' => cache'
  | .error _ cache' => cache'

def fresh : CalendarCache := fun _ => none

def afterCalls (books : HolidayBooks) (history : List PaymentDaysCall) : CalendarCache :=
  history.foldl (afterCall books) fresh

def callsOf (org : UUID) (history : List PaymentDaysCall) : List PaymentDaysCall :=
  history.filter fun c => decide (c.organizationId = org ∧ c.HasPeriod)

def remembered (books : HolidayBooks) (history : List PaymentDaysCall) (org : UUID) :
    Option HolidayCalendar :=
  (callsOf org history).head?.map fun first =>
    (callsOf org history).foldl (fun calendar c => calendar.merge c.customHolidays)
      (first.load books)

theorem callsOf_append_of (h : call.HasPeriod) :
    callsOf call.organizationId (history ++ [call]) =
      callsOf call.organizationId history ++ [call] := by
  simp [callsOf, h]

theorem callsOf_append_of_not (h : ¬ (call.organizationId = org ∧ call.HasPeriod)) :
    callsOf org (history ++ [call]) = callsOf org history := by
  simp [callsOf, h]

theorem remembered_append_of_not (h : ¬ (call.organizationId = org ∧ call.HasPeriod)) :
    remembered books (history ++ [call]) org =
      remembered books history org := by
  rw [remembered, remembered, callsOf_append_of_not h]

/-- A further call of the organization adds its custom holidays, to the calendar of its own period
when it is the first. -/
theorem remembered_append (h : call.HasPeriod) :
    remembered books (history ++ [call]) call.organizationId =
      some (call.calendar books (remembered books history call.organizationId)) := by
  rw [remembered, remembered, callsOf_append_of h]
  cases callsOf call.organizationId history with
  | nil => rfl
  | cons first rest =>
    change some ((first :: rest ++ [call]).foldl _ _) = _
    rw [List.foldl_append]
    rfl

theorem afterCall_of_hasPeriod (h : call.HasPeriod) :
    afterCall books cache call = Function.update cache call.organizationId
      (some (call.calendar books (cache call.organizationId))) := by
  rw [afterCall, calculatePaymentDays_of_hasPeriod h]

theorem afterCall_of_not_hasPeriod (h : ¬ call.HasPeriod) : afterCall books cache call = cache := by
  rw [afterCall, calculatePaymentDays_of_not_hasPeriod h]

/-- **What a calculator remembers** of an organization: the calendar of the first period asked
about, with the custom holidays of every call. -/
theorem afterCalls_eq (books : HolidayBooks) (history : List PaymentDaysCall) :
    afterCalls books history = remembered books history := by
  induction history using List.reverseRecOn with
  | nil => rfl
  | append_singleton history call ih =>
    rw [afterCalls, List.foldl_append]
    change afterCall books (afterCalls books history) call = _
    rw [ih]
    funext org
    by_cases h : call.HasPeriod
    · rw [afterCall_of_hasPeriod h, ← remembered_append h]
      by_cases hsame : org = call.organizationId
      · rw [hsame, Function.update_self]
      · have hnot : ¬ (call.organizationId = org ∧ call.HasPeriod) :=
          fun hboth => hsame hboth.1.symm
        rw [Function.update_of_ne hsame, remembered_append_of_not hnot]
    · have hnot : ¬ (call.organizationId = org ∧ call.HasPeriod) :=
        fun hboth => h hboth.2
      rw [afterCall_of_not_hasPeriod h, remembered_append_of_not hnot]

/-! ### Calendars that count alike -/

/-- The two calendars have as many days off of which the other knows nothing. -/
def OffAlike (call : PaymentDaysCall) (c f : HolidayCalendar) (startDate endDate : Date) : Prop :=
  let off (calendar : HolidayCalendar) (day : Date) : Bool :=
    calendar.isOff call.excludeWeekends call.excludeHolidays day
  ((startDate.daysTo endDate).countP fun day => off c day && !off f day) =
    (startDate.daysTo endDate).countP fun day => off f day && !off c day

instance (call : PaymentDaysCall) (c f : HolidayCalendar) (startDate endDate : Date) :
    Decidable (OffAlike call c f startDate endDate) :=
  inferInstanceAs (Decidable (_ = _))

theorem countP_not_add {α : Type*} (p q : α → Bool) (l : List α) :
    (l.countP fun a => !p a) + l.countP (fun a => p a && !q a) =
      (l.countP fun a => !q a) + l.countP fun a => q a && !p a := by
  induction l with
  | nil => rfl
  | cons a l ih =>
    simp only [List.countP_cons]
    cases p a <;> cases q a <;> simp <;> omega

variable {c f : HolidayCalendar} {startDate endDate : Date} {method : ProrationMethod}

theorem days_businessDays_eq_iff :
    call.days .businessDays c startDate endDate = call.days .businessDays f startDate endDate ↔
      OffAlike call c f startDate endDate := by
  have hcount := countP_not_add (c.isOff call.excludeWeekends call.excludeHolidays)
    (f.isOff call.excludeWeekends call.excludeHolidays) (startDate.daysTo endDate)
  rw [PaymentDaysCall.days, PaymentDaysCall.days, calculateDays, calculateDays]
  by_cases hlt : endDate < startDate
  · rw [if_pos hlt, if_pos hlt, OffAlike, Date.daysTo_of_lt hlt]
    exact iff_of_true rfl rfl
  · rw [if_neg hlt, if_neg hlt, OffAlike]
    dsimp only
    rw [Nat.cast_inj]
    constructor
    · intro heq
      omega
    · intro heq
      omega

theorem days_eq_of_ne (h : method ≠ .businessDays) :
    call.days method c startDate endDate = call.days method f startDate endDate := by
  cases method with
  | businessDays => exact absurd rfl h
  | calendarDays => rfl
  | fixed30Day => rfl

theorem effective_of_none
    (h : determineProrationReason call.employeeJoiningDate call.employeeLeavingDate
      call.periodStart call.periodEnd = .none) :
    call.effectiveStart = call.periodStart ∧ call.effectiveEnd = call.periodEnd := by
  rw [determineProrationReason] at h
  have hjoined : ¬ call.periodStart < call.employeeJoiningDate := by
    intro hlt
    simp only [hlt, decide_true] at h
    split at h <;> simp_all
  have hleft : ¬ (call.employeeLeavingDate.any fun d => decide (d < call.periodEnd)) = true := by
    intro hany
    simp only [hjoined, decide_false, hany] at h
    exact ProrationReason.noConfusion h
  refine ⟨max_eq_right (not_lt.mp hjoined), ?_⟩
  rw [PaymentDaysCall.effectiveEnd]
  cases hleaving : call.employeeLeavingDate with
  | none => rfl
  | some d =>
    rw [hleaving, Option.any_some, decide_eq_true_eq] at hleft
    exact if_neg hleft

theorem prorate_eq_iff :
    call.prorate method c = call.prorate method f ↔
      call.days method c call.periodStart call.periodEnd =
          call.days method f call.periodStart call.periodEnd ∧
        call.days method c call.effectiveStart call.effectiveEnd =
          call.days method f call.effectiveStart call.effectiveEnd := by
  constructor
  · intro h
    have htotal := congrArg ProrationResult.totalWorkingDays h
    have hpayment := congrArg ProrationResult.paymentDays h
    refine ⟨htotal, ?_⟩
    simp only [PaymentDaysCall.prorate] at hpayment
    split_ifs at hpayment with hlt hnone
    · rw [PaymentDaysCall.days, PaymentDaysCall.days, calculateDays, calculateDays, if_pos hlt,
        if_pos hlt]
    · obtain ⟨hstart, hend⟩ := effective_of_none hnone
      rw [hstart, hend]
      exact htotal
    · exact hpayment
  · rintro ⟨htotal, heffective⟩
    simp only [PaymentDaysCall.prorate, htotal, heffective]

/-! ### The answer after earlier calls -/

theorem answer_of_hasPeriod (h : call.HasPeriod) :
    answer books cache call = .ok (call.prorate (call.methodUsed books)
      (call.calendar books (cache call.organizationId))) := by
  rw [answer, calculatePaymentDays_of_hasPeriod h]

theorem answer_of_not_hasPeriod (h : ¬ call.HasPeriod) :
    answer books cache call = .error call.invalidPeriod := by
  rw [answer, calculatePaymentDays_of_not_hasPeriod h]

/-- **An answer does not depend on the calls before it** exactly when the call has no period, or is
not computed by business days, or no earlier call of its organization had a period, or the
remembered calendar and that of the call are off alike in the period and in the employee's part
of it. -/
theorem answer_after_calls (books : HolidayBooks) (history : List PaymentDaysCall)
    (call : PaymentDaysCall) :
    answer books (afterCalls books history) call = answer books fresh call ↔
      (call.HasPeriod → call.methodUsed books = .businessDays →
        ∀ calendar ∈ remembered books history call.organizationId,
          OffAlike call (calendar.merge call.customHolidays)
              ((call.load books).merge call.customHolidays) call.periodStart call.periodEnd ∧
            OffAlike call (calendar.merge call.customHolidays)
              ((call.load books).merge call.customHolidays) call.effectiveStart
              call.effectiveEnd) := by
  rw [afterCalls_eq]
  by_cases h : call.HasPeriod
  · have hanswer : answer books (remembered books history) call = answer books fresh call ↔
        call.prorate (call.methodUsed books)
            (call.calendar books (remembered books history call.organizationId)) =
          call.prorate (call.methodUsed books) (call.calendar books none) := by
      rw [answer_of_hasPeriod h, answer_of_hasPeriod h]
      exact ⟨Except.ok.inj, congrArg Except.ok⟩
    rw [hanswer, prorate_eq_iff]
    cases remembered books history call.organizationId with
    | none => simp
    | some calendar =>
      by_cases hmethod : call.methodUsed books = .businessDays
      · rw [hmethod, days_businessDays_eq_iff, days_businessDays_eq_iff]
        simp [h, PaymentDaysCall.calendar]
      · simp only [hmethod, false_implies, implies_true, iff_true]
        exact ⟨days_eq_of_ne hmethod, days_eq_of_ne hmethod⟩
  · rw [answer_of_not_hasPeriod h, answer_of_not_hasPeriod h]
    exact iff_of_true rfl fun hperiod => absurd hperiod h

/-- The last day of 2025. -/
def newYearsEve : Date := ⟨2025, 12, 31, by decide⟩

def christmasEve : Date := ⟨2026, 12, 24, by decide⟩

def yearBooks : HolidayBooks where
  holidayLists := [{
    organizationId := 1
    fromDate := newYearsEve.succ
    toDate := ⟨2026, 12, 31, by decide⟩
    weeklyOff := "Saturday,Sunday"
    isDefault := true
    isActive := true
    holidays := [christmasEve.succ] }]
  hrProrationMethod := fun _ => none

def businessCall (periodStart periodEnd : Date) : PaymentDaysCall where
  organizationId := 1
  employeeJoiningDate := ⟨2020, 6, 1, by decide⟩
  periodStart
  periodEnd
  employeeLeavingDate := none
  method := some .businessDays
  excludeWeekends := true
  excludeHolidays := true
  customHolidays := none

def juneCall : PaymentDaysCall :=
  businessCall ⟨2026, 6, 1, by decide⟩ ⟨2026, 6, 30, by decide⟩

def decemberCall : PaymentDaysCall :=
  businessCall ⟨2026, 12, 1, by decide⟩ ⟨2026, 12, 31, by decide⟩

/-- After June was asked about, Christmas is a working day. -/
theorem december_forgets_christmas :
    ¬ ∀ (books : HolidayBooks) (history : List PaymentDaysCall) (call : PaymentDaysCall),
      answer books (afterCalls books history) call = answer books fresh call := by
  intro h
  have hday : answer yearBooks (afterCalls yearBooks [juneCall]) decemberCall ≠
      answer yearBooks fresh decemberCall := by decide +kernel
  exact hday (h yearBooks [juneCall] decemberCall)

end DotmacErp.Payroll
