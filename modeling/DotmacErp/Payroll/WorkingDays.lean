import DotmacErp.Foundation.Days
import DotmacErp.Foundation.Rounding
import DotmacErp.Foundation.Session
import DotmacErp.GL.Models
import Mathlib.Data.Finset.Basic
import Mathlib.Data.List.Sort

/-!
# Working days

`WorkingDaysCalculator`: how many days an employee is paid for in a pay period, by calendar days,
by a month of thirty days or by business days. Business days leave out the weekly days off and
the holidays of the organization's holiday lists; a calculator remembers the calendar it loaded
for an organization (`getHolidayCalendar`) and adds the custom holidays of a call to the calendar
it works with, which is the remembered one (`calculatePaymentDays`).

The state of a calculator is its cache. The holiday lists and the settings it reads are a
parameter: the calculator never writes them. Logging, the names and descriptions of lists and
holidays and the count for one month (`get_business_days_in_month`) are left out.
-/

namespace DotmacErp.Payroll

open Calendar Relational Session

inductive ProrationMethod where
  | calendarDays
  | businessDays
  | fixed30Day
  deriving DecidableEq

def ProrationMethod.ofText? : String → Option ProrationMethod
  | "CALENDAR_DAYS" => some .calendarDays
  | "BUSINESS_DAYS" => some .businessDays
  | "FIXED_30_DAY" => some .fixed30Day
  | _ => none

inductive ProrationReason where
  | none
  | joinedMidPeriod
  | leftMidPeriod
  | both
  deriving DecidableEq

/-- `HolidayList`, with the dates of its holidays. -/
structure HolidayList where
  organizationId : UUID
  fromDate : Date
  toDate : Date
  weeklyOff : String
  isDefault : Bool
  isActive : Bool
  holidays : List Date

/-- What a calculator reads: the holiday lists, and the proration method in the settings of an
organization where it has one. -/
structure HolidayBooks where
  holidayLists : List HolidayList
  hrProrationMethod : UUID → Option String

inductive CalendarSource where
  | database
  | default

structure HolidayCalendar where
  holidays : Finset Date
  weeklyOffDays : Finset ℕ
  source : CalendarSource

def defaultHolidays : Finset Date :=
  {⟨2025, 1, 1, by decide⟩, ⟨2025, 4, 18, by decide⟩, ⟨2025, 4, 21, by decide⟩,
    ⟨2025, 5, 1, by decide⟩, ⟨2025, 6, 12, by decide⟩, ⟨2025, 10, 1, by decide⟩,
    ⟨2025, 12, 25, by decide⟩, ⟨2025, 12, 26, by decide⟩,
    ⟨2026, 1, 1, by decide⟩, ⟨2026, 4, 3, by decide⟩, ⟨2026, 4, 6, by decide⟩,
    ⟨2026, 5, 1, by decide⟩, ⟨2026, 6, 12, by decide⟩, ⟨2026, 10, 1, by decide⟩,
    ⟨2026, 12, 25, by decide⟩, ⟨2026, 12, 26, by decide⟩}

def defaultWeeklyOff : Finset ℕ := {5, 6}

/-! ### The days off of a list -/

/-- `DAY_NAME_TO_INDEX`. -/
def dayNames : List (String × ℕ) :=
  [("monday", 0), ("tuesday", 1), ("wednesday", 2), ("thursday", 3), ("friday", 4),
    ("saturday", 5), ("sunday", 6)]

/-- The characters `str.strip` removes. -/
def isSpace (c : Char) : Bool :=
  let n := c.toNat
  9 ≤ n && n ≤ 13 || 28 ≤ n && n ≤ 32 || n = 0x85 || n = 0xA0 || n = 0x1680 ||
    0x2000 ≤ n && n ≤ 0x200A || n = 0x2028 || n = 0x2029 || n = 0x202F || n = 0x205F || n = 0x3000

/-- `str.strip`. -/
def strip (text : List Char) : List Char :=
  (((text.dropWhile isSpace).reverse).dropWhile isSpace).reverse

/-- `_parse_weekly_off`: the days of the week a text names, separated by commas. No letter
outside ASCII is the capital of a letter of a day's name. -/
def parseWeeklyOff (text : String) : List ℕ :=
  (text.toList.splitOn ',').filterMap fun dayName =>
    dayNames.lookup (String.ofList ((strip dayName).map Char.toLower))

def HolidayList.weeklyOffDays (hl : HolidayList) : List ℕ :=
  if hl.weeklyOff = "" then [] else parseWeeklyOff hl.weeklyOff

/-! ### The calendar of a period -/

def holidayListsOf (books : HolidayBooks) (org : UUID) (periodStart periodEnd : Date) :
    List HolidayList :=
  (books.holidayLists.filter fun hl =>
    decide (hl.organizationId = org ∧ hl.isActive = true ∧ hl.fromDate ≤ periodEnd ∧
      periodStart ≤ hl.toDate)).insertionSort fun a b => b.isDefault ≤ a.isDefault

def loadHolidayCalendar (books : HolidayBooks) (org : UUID)
    (periodStart periodEnd : Date) : HolidayCalendar :=
  match holidayListsOf books org periodStart periodEnd with
  | [] => { holidays := defaultHolidays, weeklyOffDays := defaultWeeklyOff, source := .default }
  | hl :: hls =>
    let holidays := (hl :: hls).flatMap fun l =>
      l.holidays.filter fun d => decide (periodStart ≤ d ∧ d ≤ periodEnd)
    let weeklyOffDays := ((hl :: hls).flatMap HolidayList.weeklyOffDays).toFinset
    { holidays := holidays.toFinset
      weeklyOffDays := if weeklyOffDays = ∅ then defaultWeeklyOff else weeklyOffDays
      source := .database }

abbrev CalendarCache := UUID → Option HolidayCalendar

/-- `get_holiday_calendar`. The cache is asked by the organization alone. -/
def getHolidayCalendar (books : HolidayBooks) (org : UUID)
    (periodStart periodEnd : Date) : Session String CalendarCache HolidayCalendar := do
  match (← get) org with
  | some calendar => pure calendar
  | none =>
    let calendar := loadHolidayCalendar books org periodStart periodEnd
    modify fun cache => Function.update cache org (some calendar)
    pure calendar

/-- `holidays.update`: a calendar with more holidays. -/
def HolidayCalendar.merge (calendar : HolidayCalendar) (dates : Option (Finset Date)) :
    HolidayCalendar :=
  { calendar with holidays := calendar.holidays ∪ dates.getD ∅ }

def HolidayCalendar.isOff (calendar : HolidayCalendar) (excludeWeekends excludeHolidays : Bool)
    (day : Date) : Bool :=
  excludeWeekends && decide (day.weekday ∈ calendar.weeklyOffDays) ||
    excludeHolidays && decide (day ∈ calendar.holidays)

/-! ### Payment days -/

/-- The arguments of `calculate_payment_days`. -/
structure PaymentDaysCall where
  organizationId : UUID
  employeeJoiningDate : Date
  periodStart : Date
  periodEnd : Date
  employeeLeavingDate : Option Date
  method : Option ProrationMethod
  excludeWeekends : Bool
  excludeHolidays : Bool
  customHolidays : Option (Finset Date)

def prorationFactor (paymentDays totalWorkingDays : ℚ) : ℚ :=
  if 0 < totalWorkingDays then Rounding.halfUp 4 (paymentDays / totalWorkingDays) else 0

/-- `ProrationResult`; its factor is that of its days. -/
structure ProrationResult where
  totalWorkingDays : ℚ
  paymentDays : ℚ
  isProrated : Bool
  prorationReason : ProrationReason
  effectiveStart : Date
  effectiveEnd : Date
  methodUsed : ProrationMethod
  factor : ℚ
  factor_eq : factor = prorationFactor paymentDays totalWorkingDays
  deriving DecidableEq

def getOrgProrationMethod (books : HolidayBooks) (org : UUID) : ProrationMethod :=
  ((books.hrProrationMethod org).bind ProrationMethod.ofText?).getD .calendarDays

def determineProrationReason (joiningDate : Date) (leavingDate : Option Date)
    (periodStart periodEnd : Date) : ProrationReason :=
  let joinedMidPeriod := decide (periodStart < joiningDate)
  let leftMidPeriod := leavingDate.any fun d => decide (d < periodEnd)
  match joinedMidPeriod, leftMidPeriod with
  | true, true => .both
  | true, false => .joinedMidPeriod
  | false, true => .leftMidPeriod
  | false, false => .none

def calculateDays (startDate endDate : Date) (method : ProrationMethod)
    (calendar : HolidayCalendar) (excludeWeekends excludeHolidays : Bool) : ℚ :=
  if endDate < startDate then 0
  else
    let calendarDays : ℚ := ((endDate.number - startDate.number + 1 : ℕ) : ℚ)
    match method with
    | .fixed30Day =>
      Rounding.halfUp 2 (calendarDays * 30 / daysInMonth startDate.year startDate.month)
    | .businessDays =>
      (((startDate.daysTo endDate).countP fun day =>
        !calendar.isOff excludeWeekends excludeHolidays day : ℕ) : ℚ)
    | .calendarDays => calendarDays

namespace PaymentDaysCall

def HasPeriod (call : PaymentDaysCall) : Prop := call.periodStart ≤ call.periodEnd

instance (call : PaymentDaysCall) : Decidable call.HasPeriod :=
  inferInstanceAs (Decidable (call.periodStart ≤ call.periodEnd))

def effectiveStart (call : PaymentDaysCall) : Date := max call.employeeJoiningDate call.periodStart

def effectiveEnd (call : PaymentDaysCall) : Date :=
  match call.employeeLeavingDate with
  | some d => if d < call.periodEnd then d else call.periodEnd
  | none => call.periodEnd

def methodUsed (books : HolidayBooks) (call : PaymentDaysCall) : ProrationMethod :=
  call.method.getD (getOrgProrationMethod books call.organizationId)

def load (books : HolidayBooks) (call : PaymentDaysCall) : HolidayCalendar :=
  loadHolidayCalendar books call.organizationId call.periodStart call.periodEnd

def invalidPeriod (call : PaymentDaysCall) : String :=
  "Invalid pay period: period_start (" ++ call.periodStart.iso ++
    ") cannot be after period_end (" ++ call.periodEnd.iso ++ ")"

def days (call : PaymentDaysCall) (method : ProrationMethod) (calendar : HolidayCalendar)
    (startDate endDate : Date) : ℚ :=
  calculateDays startDate endDate method calendar call.excludeWeekends call.excludeHolidays

def prorate (call : PaymentDaysCall) (method : ProrationMethod) (calendar : HolidayCalendar) :
    ProrationResult :=
  let reason := determineProrationReason call.employeeJoiningDate call.employeeLeavingDate
    call.periodStart call.periodEnd
  let totalWorkingDays := call.days method calendar call.periodStart call.periodEnd
  let paymentDays :=
    if call.effectiveEnd < call.effectiveStart then 0
    else if reason = .none then totalWorkingDays
    else call.days method calendar call.effectiveStart call.effectiveEnd
  { totalWorkingDays
    paymentDays
    isProrated := decide (reason ≠ .none)
    prorationReason := reason
    effectiveStart := call.effectiveStart
    effectiveEnd := call.effectiveEnd
    methodUsed := method
    factor := prorationFactor paymentDays totalWorkingDays
    factor_eq := rfl }

end PaymentDaysCall

/-- `calculate_payment_days`. The calendar is the remembered one itself, so that the custom
holidays stay in it. -/
def calculatePaymentDays (books : HolidayBooks) (call : PaymentDaysCall) :
    Session String CalendarCache ProrationResult := do
  refuse (call.periodEnd < call.periodStart) call.invalidPeriod
  let method := call.methodUsed books
  let calendar ← getHolidayCalendar books call.organizationId call.periodStart call.periodEnd
  let calendar := calendar.merge call.customHolidays
  modify fun cache => Function.update cache call.organizationId (some calendar)
  pure (call.prorate method calendar)

/-! ### What a call does -/

variable {books : HolidayBooks} {call : PaymentDaysCall} {cache : CalendarCache}

def PaymentDaysCall.calendar (books : HolidayBooks) (call : PaymentDaysCall)
    (remembered : Option HolidayCalendar) : HolidayCalendar :=
  (remembered.getD (call.load books)).merge call.customHolidays

/-- A calculator that remembers a calendar of the organization hands it out; otherwise it loads
one. Either way it remembers what it hands out. -/
theorem getHolidayCalendar_eq (books : HolidayBooks) (org : UUID)
    (periodStart periodEnd : Date) (cache : CalendarCache) :
    let calendar := (cache org).getD
      (loadHolidayCalendar books org periodStart periodEnd)
    getHolidayCalendar books org periodStart periodEnd cache =
      .ok calendar (Function.update cache org (some calendar)) := by
  dsimp only
  cases hfound : cache org with
  | some calendar =>
    have hsame : Function.update cache org (some calendar) = cache := by
      rw [← hfound, Function.update_eq_self]
    rw [getHolidayCalendar, Option.getD_some, hsame]
    refine get_bind.mpr ?_
    rw [hfound]
    rfl
  | none =>
    rw [getHolidayCalendar, Option.getD_none]
    refine get_bind.mpr ?_
    rw [hfound]
    rfl

theorem calculatePaymentDays_of_not_hasPeriod (h : ¬ call.HasPeriod) :
    calculatePaymentDays books call cache = .error call.invalidPeriod cache := by
  have hlt : call.periodEnd < call.periodStart := not_le.mp h
  rw [calculatePaymentDays, refuse, if_pos hlt]
  rfl

theorem calculatePaymentDays_of_hasPeriod (h : call.HasPeriod) :
    calculatePaymentDays books call cache =
      .ok (call.prorate (call.methodUsed books) (call.calendar books (cache call.organizationId)))
        (Function.update cache call.organizationId
          (some (call.calendar books (cache call.organizationId)))) := by
  have hle : ¬ call.periodEnd < call.periodStart := not_lt.mpr h
  have hget := getHolidayCalendar_eq books call.organizationId call.periodStart call.periodEnd cache
  rw [calculatePaymentDays, refuse, if_neg hle]
  change EStateM.bind (getHolidayCalendar books call.organizationId call.periodStart
    call.periodEnd) _ cache = _
  rw [EStateM.bind, hget]
  change EStateM.Result.ok _ (Function.update (Function.update _ _ _) _ _) = _
  rw [Function.update_idem]
  rfl

end DotmacErp.Payroll
