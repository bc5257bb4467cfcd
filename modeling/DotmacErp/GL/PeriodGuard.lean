import Mathlib.Data.List.Sort
import DotmacErp.GL.Database

/-!
# The period guard

`PeriodGuardService`, the gate every ledger write passes: resolving which period a date falls
into, deciding whether that period takes a posting, creating a calendar month on demand, and
the guard's own transitions of a period's status.

Resolution sorts the covering periods by start date descending, then end date ascending;
periods that tie keep their creation order. The gate's contract is `requireOpenPeriod_eq_ok`:
what it returns is a period that covers the date and takes the posting, and the only thing it
ever writes is a calendar month (and year) for a date no period covered.
-/

namespace DotmacErp

open Calendar Relational Session

structure PeriodGuardResult where
  isAllowed : Bool
  fiscalPeriodId : Option UUID
  periodStatus : Option String
  message : String
  reopenSessionId : Option UUID := none

def insertFiscalYear (year : FiscalYear) : Tx UUID := do
  let db ← get
  refuse (db.fiscalYears.find? fun y => y.organizationId = year.organizationId ∧
    y.yearCode = year.yearCode).isSome (.integrity "uq_fiscal_year")
  modify fun db => { db with fiscalYears := db.fiscalYears.insert year }
  pure db.fiscalYears.next

def insertFiscalPeriod (period : FiscalPeriod) : Tx UUID := do
  let db ← get
  refuse (db.fiscalPeriods.find? fun p => p.fiscalYearId = period.fiscalYearId ∧
    p.periodNumber = period.periodNumber).isSome (.integrity "uq_fiscal_period")
  refuse (db.fiscalYears.get? period.fiscalYearId).isNone
    (.integrity "fiscal_period_fiscal_year_id_fkey")
  modify fun db => { db with fiscalPeriods := db.fiscalPeriods.insert period }
  pure db.fiscalPeriods.next

/-- A transition of a period's status: it applies to periods of the organization whose status
is one of `sources`, and is refused with a message otherwise. -/
def transition (org periodId : UUID) (sources : List PeriodStatus)
    (refusal : PeriodStatus → String) (f : FiscalPeriod → FiscalPeriod) : Tx FiscalPeriod := do
  let period ← loadPeriod org periodId
  refuse (period.status ∉ sources) (.http 400 (refusal period.status))
  modifyPeriod periodId f
  pure (f period)

section Writes

variable {s s' : Db} {org : UUID}

@[simp] theorem insertFiscalYear_eq_ok {year : FiscalYear} {k : UUID} :
    insertFiscalYear year s = .ok k s' ↔
      (∀ k' y, s.fiscalYears.get? k' = some y → y.organizationId = year.organizationId →
        y.yearCode ≠ year.yearCode) ∧ k = s.fiscalYears.next ∧
        s' = { s with fiscalYears := s.fiscalYears.insert year } := by
  have hfresh : (¬ (s.fiscalYears.find? fun y => y.organizationId = year.organizationId ∧
      y.yearCode = year.yearCode).isSome) ↔
      ∀ k' y, s.fiscalYears.get? k' = some y → y.organizationId = year.organizationId →
        y.yearCode ≠ year.yearCode := by
    rw [Table.find?_isSome_iff]
    simp
  simp only [insertFiscalYear, get_bind, refuse_bind, modify_bind, pure_eq_ok,
    hfresh]

@[simp] theorem insertFiscalPeriod_eq_ok {period : FiscalPeriod} {k : UUID} :
    insertFiscalPeriod period s = .ok k s' ↔
      (∀ k' p, s.fiscalPeriods.get? k' = some p → p.fiscalYearId = period.fiscalYearId →
        p.periodNumber ≠ period.periodNumber) ∧
        (s.fiscalYears.get? period.fiscalYearId).isSome ∧ k = s.fiscalPeriods.next ∧
        s' = { s with fiscalPeriods := s.fiscalPeriods.insert period } := by
  have hfresh : (¬ (s.fiscalPeriods.find? fun p => p.fiscalYearId = period.fiscalYearId ∧
      p.periodNumber = period.periodNumber).isSome) ↔
      ∀ k' p, s.fiscalPeriods.get? k' = some p → p.fiscalYearId = period.fiscalYearId →
        p.periodNumber ≠ period.periodNumber := by
    rw [Table.find?_isSome_iff]
    simp
  have hyear : (¬ (s.fiscalYears.get? period.fiscalYearId).isNone) ↔
      (s.fiscalYears.get? period.fiscalYearId).isSome := by
    simp [Option.isSome_iff_ne_none]
  simp only [insertFiscalPeriod, get_bind, refuse_bind, modify_bind, pure_eq_ok,
    hfresh, hyear]

@[simp] theorem transition_eq_ok {k : UUID} {sources : List PeriodStatus}
    {refusal : PeriodStatus → String} {f : FiscalPeriod → FiscalPeriod} {r : FiscalPeriod} :
    transition org k sources refusal f s = .ok r s' ↔
      ∃ p, s.fiscalPeriods.get? k = some p ∧ p.organizationId = org ∧ p.status ∈ sources ∧
        r = f p ∧ s' = { s with fiscalPeriods := s.fiscalPeriods.modify k f } := by
  rw [transition, bind_eq_ok]
  simp only [loadPeriod_eq_ok, refuse_bind, not_not]
  constructor
  · rintro ⟨p, _, ⟨hp, horg, rfl⟩, hstatus, h⟩
    obtain ⟨rfl, rfl⟩ := pure_eq_ok.mp h
    exact ⟨p, hp, horg, hstatus, rfl, rfl⟩
  · rintro ⟨p, hp, horg, hstatus, rfl, rfl⟩
    exact ⟨p, s, ⟨hp, horg, rfl⟩, hstatus, rfl⟩

end Writes

namespace PeriodGuardService

/-! ### Resolution -/

def postableStatuses : List PeriodStatus := [.open, .reopened]

/-- Most specific first: the later start, then the earlier end. -/
def MoreSpecific (p q : Stored FiscalPeriod) : Prop :=
  q.row.startDate < p.row.startDate ∨
    (q.row.startDate = p.row.startDate ∧ p.row.endDate ≤ q.row.endDate)

instance : DecidableRel MoreSpecific := fun _ _ => inferInstanceAs (Decidable (_ ∨ _))

def coveringPeriods (db : Db) (org : UUID) (targetDate : Date) :
    List (Stored FiscalPeriod) :=
  (db.fiscalPeriods.select fun p => p.organizationId = org ∧
    p.Covers targetDate).insertionSort MoreSpecific

/-- A period a posting may be directed to: its status is postable, and it is an adjustment
period only when those are allowed. -/
def Usable (allowAdjustment : Bool) (p : FiscalPeriod) : Prop :=
  p.status ∈ postableStatuses ∧ (p.isAdjustmentPeriod → allowAdjustment)

instance (allowAdjustment : Bool) (p : FiscalPeriod) : Decidable (Usable allowAdjustment p) :=
  inferInstanceAs (Decidable (_ ∧ _))

def resolvePeriodForDate (db : Db) (org : UUID) (targetDate : Date)
    (preferPostable : Bool := false) (allowAdjustment : Bool := false) :
    Option (Stored FiscalPeriod) :=
  let periods := coveringPeriods db org targetDate
  if preferPostable then
    (periods.find? fun p => Usable allowAdjustment p.row).or periods.head?
  else
    periods.head?

def getPeriodForDate (db : Db) (org : UUID) (targetDate : Date) :
    Option (Stored FiscalPeriod) :=
  resolvePeriodForDate db org targetDate

/-! ### The gate -/

def monthName : ℕ → String
  | 1 => "January"
  | 2 => "February"
  | 3 => "March"
  | 4 => "April"
  | 5 => "May"
  | 6 => "June"
  | 7 => "July"
  | 8 => "August"
  | 9 => "September"
  | 10 => "October"
  | 11 => "November"
  | _ => "December"

def onDemandYear (org : UUID) (d : Date) : FiscalYear where
  organizationId := org
  yearCode := toString d.year
  yearName := "Fiscal Year " ++ toString d.year
  startDate := ⟨d.year, 1, 1, by simp [daysInMonth]⟩
  endDate := ⟨d.year, 12, 31, by simp [daysInMonth]⟩
  isAdjustmentYear := false
  retainedEarningsAccountId := none

def onDemandPeriod (org fiscalYearId : UUID) (d : Date) : FiscalPeriod where
  organizationId := org
  fiscalYearId := fiscalYearId
  periodNumber := d.month
  periodName := monthName d.month ++ " " ++ toString d.year
  startDate := d.monthStart
  endDate := d.monthEnd
  isAdjustmentPeriod := false
  isClosingPeriod := false
  status := .open
  softClosedByUserId := none
  hardClosedByUserId := none
  reopenCount := 0
  lastReopenSessionId := none

def getOrCreateFiscalYear (org : UUID) (targetDate : Date) : Tx UUID := do
  let db ← get
  match db.fiscalYears.find? fun y => y.organizationId = org ∧
      y.yearCode = toString targetDate.year with
  | some year => pure year.id
  | none => insertFiscalYear (onDemandYear org targetDate)

/-- `_ensure_period_exists`. It never returns without a period. -/
def ensurePeriodExists (org : UUID) (targetDate : Date) :
    Tx (Stored FiscalPeriod) := do
  let db ← get
  match resolvePeriodForDate db org targetDate with
  | some existing => pure existing
  | none => do
    let fiscalYearId ← getOrCreateFiscalYear org targetDate
    let period := onDemandPeriod org fiscalYearId targetDate
    let periodId ← insertFiscalPeriod period
    pure ⟨periodId, period⟩

/-- The checks of `can_post_to_date` on the period it resolved. -/
def guardResult (period : Stored FiscalPeriod) (allowAdjustment : Bool)
    (reopenSessionId : Option UUID) : PeriodGuardResult :=
  let refused (message : String) (session : Option UUID := none) : PeriodGuardResult :=
    ⟨false, some period.id, some period.row.status.value, message, session⟩
  if period.row.isAdjustmentPeriod ∧ ¬ allowAdjustment then
    refused "Adjustment periods require explicit allowance"
  else
    match period.row.status with
    | .future => refused ("Period '" ++ period.row.periodName ++ "' is not yet open")
    | .softClosed =>
      refused ("Period '" ++ period.row.periodName ++
        "' is soft-closed; requires approval to post")
    | .hardClosed =>
      refused ("Period '" ++ period.row.periodName ++ "' is permanently closed")
    | .reopened =>
      match reopenSessionId with
      | none =>
        refused "Period is reopened; reopen session ID required" period.row.lastReopenSessionId
      | some session =>
        if period.row.lastReopenSessionId ≠ some session then
          refused "Invalid reopen session ID" period.row.lastReopenSessionId
        else
          ⟨true, some period.id, some period.row.status.value, "Period is open for posting",
            period.row.lastReopenSessionId⟩
    | .open =>
      ⟨true, some period.id, some period.row.status.value, "Period is open for posting", none⟩

/-- The period `can_post_to_date` checks: the best match, created on demand when no period
covers the date. -/
def periodForPosting (org : UUID) (postingDate : Date) (allowAdjustment : Bool) :
    Tx (Stored FiscalPeriod) := do
  let db ← get
  match resolvePeriodForDate db org postingDate true allowAdjustment with
  | some period => pure period
  | none => ensurePeriodExists org postingDate

def canPostToDate (org : UUID) (postingDate : Date) (allowAdjustment : Bool := false)
    (reopenSessionId : Option UUID := none) : Tx PeriodGuardResult := do
  let period ← periodForPosting org postingDate allowAdjustment
  pure (guardResult period allowAdjustment reopenSessionId)

def requireOpenPeriod (org : UUID) (postingDate : Date)
    (allowAdjustment : Bool := false) (reopenSessionId : Option UUID := none) : Tx UUID := do
  let result ← canPostToDate org postingDate allowAdjustment reopenSessionId
  refuse (¬ result.isAllowed) (.http 400 result.message)
  orRaise result.fiscalPeriodId (.http 400 "Fiscal period not found")

/-! ### Transitions -/

/-- `open_period`: future periods only. -/
def openPeriod (org periodId : UUID) : Tx FiscalPeriod :=
  transition org periodId [.future]
    (fun status => "Cannot open period with status '" ++ status.value ++ "'")
    fun period => { period with status := .open }

def softClosePeriod (org periodId closedByUserId : UUID) : Tx FiscalPeriod :=
  transition org periodId [.open, .reopened]
    (fun status => "Cannot soft-close period with status '" ++ status.value ++ "'")
    fun period =>
      { period with status := .softClosed, softClosedByUserId := some closedByUserId }

/-- `hard_close_period`: from any status but future and hard-closed. -/
def hardClosePeriod (org periodId closedByUserId : UUID) : Tx FiscalPeriod :=
  transition org periodId [.softClosed, .open, .reopened]
    (fun status => "Cannot hard-close period with status '" ++ status.value ++ "'")
    fun period =>
      { period with status := .hardClosed, hardClosedByUserId := some closedByUserId }

/-- `reopen_period`, under the session key drawn for it. -/
def reopenPeriod (org periodId reopenSessionId : UUID) : Tx FiscalPeriod :=
  transition org periodId [.softClosed]
    (fun status => "Cannot reopen period with status '" ++ status.value ++ "'")
    fun period =>
      { period with
        status := .reopened
        reopenCount := period.reopenCount + 1
        lastReopenSessionId := some reopenSessionId }

/-- `close_reopen_session`. The session is checked after the status, so it keeps its own
body. -/
def closeReopenSession (org periodId reopenSessionId closedByUserId : UUID) :
    Tx FiscalPeriod := do
  let period ← loadPeriod org periodId
  refuse (period.status ≠ .reopened) (.http 400 "Period is not in reopened status")
  refuse (period.lastReopenSessionId ≠ some reopenSessionId)
    (.http 400 "Invalid reopen session ID")
  modifyPeriod periodId fun period =>
    { period with status := .softClosed, softClosedByUserId := some closedByUserId }
  pure { period with status := .softClosed, softClosedByUserId := some closedByUserId }

/-! ### The contract of resolution -/

section Resolution

variable {db : Db} {org : UUID} {d : Date} {p : Stored FiscalPeriod} {prefer allow : Bool}

theorem mem_coveringPeriods :
    p ∈ coveringPeriods db org d ↔
      db.fiscalPeriods.get? p.id = some p.row ∧ p.row.organizationId = org ∧ p.row.Covers d := by
  rw [coveringPeriods, List.mem_insertionSort, Table.mem_select, decide_eq_true_iff]

theorem mem_of_resolve (h : resolvePeriodForDate db org d prefer allow = some p) :
    p ∈ coveringPeriods db org d := by
  rw [resolvePeriodForDate] at h
  split_ifs at h with hprefer
  · rcases Option.or_eq_some_iff.mp h with hfind | ⟨_, hhead⟩
    · exact List.mem_of_find?_eq_some hfind
    · exact List.mem_of_mem_head? hhead
  · exact List.mem_of_mem_head? h

theorem resolve_eq_none :
    resolvePeriodForDate db org d prefer allow = none ↔ coveringPeriods db org d = [] := by
  rw [resolvePeriodForDate]
  split_ifs with hprefer
  · rw [Option.or_eq_none_iff, List.head?_eq_none_iff]
    refine ⟨fun h => h.2, fun h => ⟨by rw [h]; rfl, h⟩⟩
  · exact List.head?_eq_none_iff

end Resolution

/-! ### The contract of the gate -/

/-- A period takes a posting: adjustment periods only when allowed, and the period is open, or
reopened under the session the posting carries. -/
def Accepts (allowAdjustment : Bool) (reopenSessionId : Option UUID) (p : FiscalPeriod) : Prop :=
  (p.isAdjustmentPeriod → allowAdjustment) ∧
    (p.status = .open ∨
      (p.status = .reopened ∧ reopenSessionId ≠ none ∧ p.lastReopenSessionId = reopenSessionId))

theorem Accepts.usable {allow : Bool} {session : Option UUID} {p : FiscalPeriod}
    (h : Accepts allow session p) : Usable allow p := by
  refine ⟨?_, h.1⟩
  rcases h.2 with hopen | ⟨hreopened, _⟩
  · simp [postableStatuses, hopen]
  · simp [postableStatuses, hreopened]

theorem accepts_onDemandPeriod (org y : UUID) (d : Date) (allow : Bool) (session : Option UUID) :
    Accepts allow session (onDemandPeriod org y d) :=
  ⟨by simp [onDemandPeriod], Or.inl rfl⟩

theorem guardResult_isAllowed {p : Stored FiscalPeriod} {allow : Bool} {session : Option UUID} :
    (guardResult p allow session).isAllowed = true ↔ Accepts allow session p.row := by
  rw [guardResult.eq_def, Accepts]
  by_cases hadj : p.row.isAdjustmentPeriod = true ∧ ¬ allow = true
  · rw [if_pos hadj]
    simp [hadj.1, hadj.2]
  · rw [if_neg hadj]
    have hallow : p.row.isAdjustmentPeriod = true → allow = true := by
      simpa using hadj
    cases hs : p.row.status with
    | reopened =>
      cases session with
      | none => simp
      | some k =>
        by_cases hk : p.row.lastReopenSessionId = some k
        · simpa [hk] using hallow
        · simp [hk]
    | «open» => simpa using hallow
    | future => simp
    | softClosed => simp
    | hardClosed => simp

@[simp] theorem guardResult_fiscalPeriodId (p : Stored FiscalPeriod) (allow : Bool)
    (session : Option UUID) : (guardResult p allow session).fiscalPeriodId = some p.id := by
  rw [guardResult.eq_def]
  split_ifs with hadj
  · rfl
  · cases p.row.status with
    | reopened =>
      cases session with
      | none => rfl
      | some k => by_cases hk : p.row.lastReopenSessionId = some k <;> simp [hk]
    | _ => rfl

section Gate

variable {s s' : Db} {org : UUID} {d : Date} {allow : Bool} {session : Option UUID}

/-- The state after a calendar month was created on demand: the month is the only new period,
a calendar year at most the only new year, and nothing else changed. -/
def Extends (org : UUID) (d : Date) (s s' : Db) (p : Stored FiscalPeriod) : Prop :=
  ∃ fiscalYearId years, p = ⟨s.fiscalPeriods.next, onDemandPeriod org fiscalYearId d⟩ ∧
    s' = { s with fiscalYears := years, fiscalPeriods := s.fiscalPeriods.insert p.row }

theorem getOrCreateFiscalYear_eq_ok {k : UUID} (h : getOrCreateFiscalYear org d s = .ok k s') :
    ∃ years, s' = { s with fiscalYears := years } := by
  rw [getOrCreateFiscalYear, get_bind] at h
  cases hfind : s.fiscalYears.find? fun y => y.organizationId = org ∧
      y.yearCode = toString d.year with
  | some year =>
    rw [hfind, pure_eq_ok] at h
    exact ⟨s.fiscalYears, h.2⟩
  | none =>
    rw [hfind, insertFiscalYear_eq_ok] at h
    exact ⟨_, h.2.2⟩

theorem ensurePeriodExists_eq_ok {p : Stored FiscalPeriod}
    (h : ensurePeriodExists org d s = .ok p s') :
    (resolvePeriodForDate s org d = some p ∧ s' = s) ∨
      (coveringPeriods s org d = [] ∧ Extends org d s s' p) := by
  rw [ensurePeriodExists, get_bind] at h
  cases hres : resolvePeriodForDate s org d with
  | some existing =>
    rw [hres, pure_eq_ok] at h
    exact Or.inl ⟨by rw [h.1], h.2⟩
  | none =>
    rw [hres] at h
    obtain ⟨yearId, s₁, hyear, h⟩ := bind_eq_ok.mp h
    obtain ⟨years, rfl⟩ := getOrCreateFiscalYear_eq_ok hyear
    obtain ⟨periodId, s₂, hperiod, h⟩ := bind_eq_ok.mp h
    obtain ⟨_, _, rfl, rfl⟩ := insertFiscalPeriod_eq_ok.mp hperiod
    obtain ⟨rfl, rfl⟩ := pure_eq_ok.mp h
    exact Or.inr ⟨resolve_eq_none.mp hres, yearId, years, rfl, rfl⟩

theorem periodForPosting_eq_ok {p : Stored FiscalPeriod} :
    periodForPosting org d allow s = .ok p s' ↔
      (resolvePeriodForDate s org d true allow = some p ∧ s' = s) ∨
        (coveringPeriods s org d = [] ∧ ensurePeriodExists org d s = .ok p s') := by
  have hnone : resolvePeriodForDate s org d true allow = none ↔ coveringPeriods s org d = [] :=
    resolve_eq_none
  rw [periodForPosting, get_bind, ← hnone]
  cases resolvePeriodForDate s org d true allow with
  | some q => simp [eq_comm]
  | none => simp

/-- **The gate's contract.** A date some period covers resolves to a period that takes the
posting, and nothing is written; a date no period covers gets its calendar month. -/
theorem requireOpenPeriod_eq_ok {k : UUID} :
    requireOpenPeriod org d allow session s = .ok k s' ↔
      (∃ p, resolvePeriodForDate s org d true allow = some p ∧ Accepts allow session p.row ∧
        k = p.id ∧ s' = s) ∨
      (coveringPeriods s org d = [] ∧ ∃ p, ensurePeriodExists org d s = .ok p s' ∧ k = p.id) := by
  have hgate : requireOpenPeriod org d allow session s = .ok k s' ↔
      ∃ p, periodForPosting org d allow s = .ok p s' ∧ Accepts allow session p.row ∧
        k = p.id := by
    rw [requireOpenPeriod, canPostToDate, bind_assoc, bind_eq_ok]
    simp only [pure_bind, refuse_bind, orRaise_eq_ok, not_not, guardResult_isAllowed,
      guardResult_fiscalPeriodId, Option.some.injEq]
    constructor
    · rintro ⟨p, _, hp, haccepts, rfl, rfl⟩
      exact ⟨p, hp, haccepts, rfl⟩
    · rintro ⟨p, hp, haccepts, rfl⟩
      exact ⟨p, _, hp, haccepts, rfl, rfl⟩
  rw [hgate]
  constructor
  · rintro ⟨p, hp, haccepts, rfl⟩
    rcases periodForPosting_eq_ok.mp hp with ⟨hres, rfl⟩ | ⟨hnone, hcreate⟩
    · exact Or.inl ⟨p, hres, haccepts, rfl, rfl⟩
    · exact Or.inr ⟨hnone, p, hcreate, rfl⟩
  · rintro (⟨p, hres, haccepts, rfl, rfl⟩ | ⟨hnone, p, hcreate, rfl⟩)
    · exact ⟨p, periodForPosting_eq_ok.mpr (Or.inl ⟨hres, rfl⟩), haccepts, rfl⟩
    · refine ⟨p, periodForPosting_eq_ok.mpr (Or.inr ⟨hnone, hcreate⟩), ?_, rfl⟩
      rcases ensurePeriodExists_eq_ok hcreate with ⟨hsome, _⟩ | ⟨_, y, years, rfl, _⟩
      · rw [resolve_eq_none.mpr hnone] at hsome
        exact absurd hsome (by simp)
      · exact accepts_onDemandPeriod org y d allow session

/-- What the gate answered for a posting date and left as the table of periods: a covering
period that takes the posting, or the calendar month it created. -/
def Gated (org : UUID) (d : Date) (allow : Bool) (session : Option UUID) (s : Db)
    (periods : Table FiscalPeriod) (k : UUID) : Prop :=
  (∃ p, resolvePeriodForDate s org d true allow = some p ∧ Accepts allow session p.row ∧
    k = p.id ∧ periods = s.fiscalPeriods) ∨
  (coveringPeriods s org d = [] ∧ ∃ y, k = s.fiscalPeriods.next ∧
    periods = s.fiscalPeriods.insert (onDemandPeriod org y d))

theorem requireOpenPeriod_gated {k : UUID}
    (h : requireOpenPeriod org d allow session s = .ok k s') :
    Gated org d allow session s s'.fiscalPeriods k ∧
      ∃ years, s' = { s with fiscalYears := years, fiscalPeriods := s'.fiscalPeriods } := by
  rcases requireOpenPeriod_eq_ok.mp h with ⟨p, hres, haccepts, rfl, rfl⟩ | ⟨hnone, p, hp, rfl⟩
  · exact ⟨Or.inl ⟨p, hres, haccepts, rfl, rfl⟩, _, rfl⟩
  · rcases ensurePeriodExists_eq_ok hp with ⟨hsome, _⟩ | ⟨_, y, years, rfl, rfl⟩
    · rw [resolve_eq_none.mpr hnone] at hsome
      exact absurd hsome (by simp)
    · exact ⟨Or.inr ⟨hnone, y, rfl, rfl⟩, years, rfl⟩

theorem ensurePeriodExists_ne_http {c : ℕ} {detail : String} :
    ensurePeriodExists org d s ≠ .error (.http c detail) s' := by
  intro h
  rw [ensurePeriodExists, get_bind_eq_error] at h
  cases hres : resolvePeriodForDate s org d with
  | some existing => simp [hres] at h
  | none =>
    simp only [hres, bind_eq_error] at h
    rcases h with h | ⟨_, _, _, h⟩
    · rw [getOrCreateFiscalYear, get_bind_eq_error] at h
      cases hfind : s.fiscalYears.find? fun y => y.organizationId = org ∧
          y.yearCode = toString d.year with
      | some year =>
        rw [hfind] at h
        simp at h
      | none =>
        rw [hfind] at h
        simp [insertFiscalYear] at h
    · simp [insertFiscalPeriod] at h

theorem requireOpenPeriod_eq_error {c : ℕ} {detail : String}
    (h : requireOpenPeriod org d allow session s = .error (.http c detail) s') : s' = s := by
  rw [requireOpenPeriod, canPostToDate, bind_assoc, bind_eq_error] at h
  rcases h with h | ⟨p, s₁, hp, h⟩
  · rw [periodForPosting, get_bind_eq_error] at h
    cases hres : resolvePeriodForDate s org d true allow with
    | some p => simp [hres] at h
    | none =>
      rw [hres] at h
      exact absurd h ensurePeriodExists_ne_http
  · rw [pure_bind, refuse_bind_eq_error, guardResult_isAllowed, guardResult_fiscalPeriodId] at h
    rcases h with ⟨hrefused, _, rfl⟩ | ⟨_, h⟩
    · rcases periodForPosting_eq_ok.mp hp with ⟨_, rfl⟩ | ⟨hnone, hcreate⟩
      · rfl
      · rcases ensurePeriodExists_eq_ok hcreate with ⟨hsome, _⟩ | ⟨_, y, years, rfl, _⟩
        · rw [resolve_eq_none.mpr hnone] at hsome
          exact absurd hsome (by simp)
        · exact absurd (accepts_onDemandPeriod org y d allow session) hrefused
    · simp at h

theorem closeReopenSession_eq_ok {k reopenSessionId user : UUID} {r : FiscalPeriod}
    (h : closeReopenSession org k reopenSessionId user s = .ok r s') :
    ∃ p, s.fiscalPeriods.get? k = some p ∧ p.organizationId = org ∧ p.status = .reopened ∧
      p.lastReopenSessionId = some reopenSessionId ∧
      s' = { s with fiscalPeriods := s.fiscalPeriods.modify k fun period =>
        { period with status := .softClosed, softClosedByUserId := some user } } := by
  rw [closeReopenSession, bind_eq_ok] at h
  obtain ⟨p, _, hload, h⟩ := h
  obtain ⟨hget, horg, rfl⟩ := loadPeriod_eq_ok.mp hload
  rw [refuse_bind, refuse_bind, bind_eq_ok, not_not, not_not] at h
  obtain ⟨hstatus, hsession, _, _, hclose, h⟩ := h
  obtain rfl := modifyPeriod_eq_ok.mp hclose
  obtain ⟨_, rfl⟩ := pure_eq_ok.mp h
  exact ⟨p, hget, horg, hstatus, hsession, rfl⟩

variable {periods : Table FiscalPeriod} {k : UUID}

theorem Gated.accepts (h : Gated org d allow session s periods k) :
    ∃ p, periods.get? k = some p ∧ p.organizationId = org ∧ p.Covers d ∧
      Accepts allow session p := by
  rcases h with ⟨p, hres, haccepts, rfl, rfl⟩ | ⟨_, y, rfl, rfl⟩
  · obtain ⟨hget, horg, hcovers⟩ := mem_coveringPeriods.mp (mem_of_resolve hres)
    exact ⟨p.row, hget, horg, hcovers, haccepts⟩
  · exact ⟨_, Table.get?_insert_self _ _, rfl, ⟨d.monthStart_le, d.le_monthEnd⟩,
      accepts_onDemandPeriod org y d allow session⟩

theorem Gated.keeps (h : Gated org d allow session s periods k) {k' : UUID} {p : FiscalPeriod}
    (hp : s.fiscalPeriods.get? k' = some p) : periods.get? k' = some p := by
  rcases h with ⟨_, _, _, _, rfl⟩ | ⟨_, y, _, rfl⟩
  · exact hp
  · exact Table.get?_insert_of_some hp _

end Gate

end PeriodGuardService

end DotmacErp
