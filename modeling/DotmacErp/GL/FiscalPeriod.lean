import DotmacErp.GL.PeriodGuard

/-!
# Fiscal periods and fiscal years

`FiscalPeriodService`, the second owner of a period's status, and `FiscalYearService`'s
creation of a year with its periods. The transition table here differs from the guard's:
`open_period` also opens a soft-closed period, hard closing requires a soft close first, and
soft closing is gated on every active bank account having a reconciliation that covers the
period.
-/

namespace DotmacErp

open Calendar Relational Session

/-- `FiscalPeriodInput`, with the defaults of the source. -/
structure FiscalPeriodInput where
  fiscalYearId : UUID
  periodNumber : ℤ
  periodName : String
  startDate : Date
  endDate : Date
  isAdjustmentPeriod : Bool := false
  isClosingPeriod : Bool := false

/-- `FiscalYearInput`, with the defaults of the source. -/
structure FiscalYearInput where
  yearCode : String
  yearName : String
  startDate : Date
  endDate : Date
  isAdjustmentYear : Bool := false
  retainedEarningsAccountId : Option UUID := none

def FiscalPeriod.Normal (p : FiscalPeriod) : Prop :=
  p.isAdjustmentPeriod = false ∧ p.isClosingPeriod = false

instance (p : FiscalPeriod) : Decidable p.Normal := inferInstanceAs (Decidable (_ ∧ _))

namespace FiscalPeriodService

/-- The period a creation request describes: it starts in the future status. -/
def newPeriod (org : UUID) (input : FiscalPeriodInput) : FiscalPeriod where
  organizationId := org
  fiscalYearId := input.fiscalYearId
  periodNumber := input.periodNumber
  periodName := input.periodName
  startDate := input.startDate
  endDate := input.endDate
  isAdjustmentPeriod := input.isAdjustmentPeriod
  isClosingPeriod := input.isClosingPeriod
  status := .future
  softClosedByUserId := none
  hardClosedByUserId := none
  reopenCount := 0
  lastReopenSessionId := none

def overlappingPeriod (db : Db) (org : UUID) (startDate endDate : Date) :
    Option (Stored FiscalPeriod) :=
  db.fiscalPeriods.find? fun p => p.organizationId = org ∧ p.Normal ∧
    p.startDate ≤ endDate ∧ startDate ≤ p.endDate

def overlapDetail (overlap : Option (Stored FiscalPeriod)) : String :=
  "Fiscal period date range overlaps an existing period ('" ++
    (overlap.elim "" fun p => p.row.periodName) ++ "')"

def createPeriod (org : UUID) (input : FiscalPeriodInput) : Tx UUID := do
  refuse (input.endDate < input.startDate)
    (.http 400 "Fiscal period start_date cannot be after end_date")
  let db ← get
  refuse (db.fiscalPeriods.find? fun p => p.fiscalYearId = input.fiscalYearId ∧
      p.periodNumber = input.periodNumber).isSome
    (.http 400 ("Period number " ++ toString input.periodNumber ++
      " already exists for this fiscal year"))
  let overlap := overlappingPeriod db org input.startDate input.endDate
  refuse ((newPeriod org input).Normal ∧ overlap.isSome)
    (.http 400 (overlapDetail overlap))
  insertFiscalPeriod (newPeriod org input)

/-- `open_period`: future periods, and soft-closed ones. -/
def openPeriod (org periodId : UUID) : Tx FiscalPeriod :=
  transition org periodId [.future, .softClosed]
    (fun status => "Cannot open period with status '" ++ status.value ++ "'")
    fun period => { period with status := .open }

/-- `_unreconciled_bank_accounts`: the active bank accounts without an accepted
reconciliation that covers the period, each with the reason. -/
def unreconciledBankAccounts (db : Db) (org : UUID) (period : FiscalPeriod) :
    List (String × String) :=
  (db.bankAccounts.select fun account =>
    account.organizationId = org ∧ account.active).filterMap fun account =>
      let recs := db.bankReconciliations.select fun rec =>
        rec.organizationId = org ∧ rec.bankAccountId = account.id ∧
          rec.periodStart ≤ period.startDate ∧ period.endDate ≤ rec.periodEnd
      let statuses := recs.map fun rec => rec.row.status
      if recs.isEmpty then
        some (account.row.accountName, "no reconciliation")
      else if .pendingReview ∈ statuses ∨ .approved ∈ statuses then
        none
      else
        let names := ([.draft, .rejected].filter (· ∈ statuses)).map ReconciliationStatus.value
        some (account.row.accountName, "only " ++ ",".intercalate names ++ " recs exist")

def closeGateDetail (period : FiscalPeriod) (missing : List (String × String)) : String :=
  "Cannot close " ++ period.periodName ++ ": " ++ toString missing.length ++
    " active bank account(s) lack a completed reconciliation covering this period -- " ++
    "; ".intercalate (missing.map fun m => m.1 ++ " (" ++ m.2 ++ ")") ++
    ". Reconcile each account (or reject/delete stale draft recs) before closing."

/-- `soft_close_period`. The bank gate reads the loaded period, so it keeps its own body. -/
def softClosePeriod (org periodId closedByUserId : UUID) : Tx FiscalPeriod := do
  let period ← loadPeriod org periodId
  refuse (period.status ∉ [.open, .reopened])
    (.http 400 ("Cannot soft close period with status '" ++ period.status.value ++ "'"))
  let db ← get
  let missing := unreconciledBankAccounts db org period
  refuse (missing ≠ []) (.http 400 (closeGateDetail period missing))
  modifyPeriod periodId fun period =>
    { period with status := .softClosed, softClosedByUserId := some closedByUserId }
  pure { period with status := .softClosed, softClosedByUserId := some closedByUserId }

/-- `hard_close_period`: soft-closed periods only. -/
def hardClosePeriod (org periodId closedByUserId : UUID) : Tx FiscalPeriod :=
  transition org periodId [.softClosed]
    (fun _ => "Period must be soft closed before hard closing")
    fun period =>
      { period with status := .hardClosed, hardClosedByUserId := some closedByUserId }

/-- `reopen_period`, under a session key the caller supplies. -/
def reopenPeriod (org periodId reopenSessionId : UUID) : Tx FiscalPeriod :=
  transition org periodId [.softClosed]
    (fun status =>
      if status = .hardClosed then "Cannot reopen a hard-closed period"
      else "Cannot reopen period with status '" ++ status.value ++ "'")
    fun period =>
      { period with
        status := .reopened
        reopenCount := period.reopenCount + 1
        lastReopenSessionId := some reopenSessionId }

section

variable {s s' : Db} {org k user : UUID}

theorem softClosePeriod_eq_ok {r : FiscalPeriod} :
    softClosePeriod org k user s = .ok r s' ↔
      ∃ p, s.fiscalPeriods.get? k = some p ∧ p.organizationId = org ∧
        p.status ∈ [PeriodStatus.open, .reopened] ∧ unreconciledBankAccounts s org p = [] ∧
        r = { p with status := .softClosed, softClosedByUserId := some user } ∧
        s' = { s with fiscalPeriods := s.fiscalPeriods.modify k fun period =>
          { period with status := .softClosed, softClosedByUserId := some user } } := by
  rw [softClosePeriod, bind_eq_ok]
  simp only [loadPeriod_eq_ok, refuse_bind, get_bind, not_not]
  constructor
  · rintro ⟨p, _, ⟨hp, horg, rfl⟩, hstatus, hgate, h⟩
    obtain ⟨rfl, rfl⟩ := pure_eq_ok.mp h
    exact ⟨p, hp, horg, hstatus, hgate, rfl, rfl⟩
  · rintro ⟨p, hp, horg, hstatus, hgate, rfl, rfl⟩
    exact ⟨p, s, ⟨hp, horg, rfl⟩, hstatus, hgate, rfl⟩

/-- A period is created only when its dates are ordered, its number is new to the year and,
for a normal period, no normal period of the organization overlaps it. -/
theorem createPeriod_eq_ok {input : FiscalPeriodInput} :
    createPeriod org input s = .ok k s' ↔
      input.startDate ≤ input.endDate ∧
      (∀ k' p, s.fiscalPeriods.get? k' = some p → p.fiscalYearId = input.fiscalYearId →
        p.periodNumber ≠ input.periodNumber) ∧
      ((newPeriod org input).Normal → ∀ k' p, s.fiscalPeriods.get? k' = some p →
        p.organizationId = org → p.Normal → p.startDate ≤ input.endDate →
        ¬ input.startDate ≤ p.endDate) ∧
      (s.fiscalYears.get? input.fiscalYearId).isSome ∧ k = s.fiscalPeriods.next ∧
      s' = { s with fiscalPeriods := s.fiscalPeriods.insert (newPeriod org input) } := by
  have hnumber : (¬ (s.fiscalPeriods.find? fun p => p.fiscalYearId = input.fiscalYearId ∧
      p.periodNumber = input.periodNumber).isSome) ↔
      ∀ k' p, s.fiscalPeriods.get? k' = some p → p.fiscalYearId = input.fiscalYearId →
        p.periodNumber ≠ input.periodNumber := by
    rw [Table.find?_isSome_iff]
    simp
  have hoverlap : (¬ ((newPeriod org input).Normal ∧
      (overlappingPeriod s org input.startDate input.endDate).isSome)) ↔
      ((newPeriod org input).Normal → ∀ k' p, s.fiscalPeriods.get? k' = some p →
        p.organizationId = org → p.Normal → p.startDate ≤ input.endDate →
        ¬ input.startDate ≤ p.endDate) := by
    rw [not_and, overlappingPeriod, Table.find?_isSome_iff]
    simp
  simp only [createPeriod, refuse_bind, get_bind, insertFiscalPeriod_eq_ok, hnumber,
    hoverlap, not_lt]
  refine and_congr_right fun _ => ?_
  constructor
  · rintro ⟨hfresh, hnormal, _, hyear, hk, hs⟩
    exact ⟨hfresh, hnormal, hyear, hk, hs⟩
  · rintro ⟨hfresh, hnormal, hyear, hk, hs⟩
    exact ⟨hfresh, hnormal, hfresh, hyear, hk, hs⟩

end

end FiscalPeriodService

namespace FiscalYearService

def createYear (org : UUID) (input : FiscalYearInput) : Tx UUID := do
  let db ← get
  refuse (db.fiscalYears.find? fun y => y.organizationId = org ∧
      y.yearCode = input.yearCode).isSome
    (.http 400 ("Fiscal year '" ++ input.yearCode ++ "' already exists"))
  insertFiscalYear
    { organizationId := org, yearCode := input.yearCode, yearName := input.yearName
      startDate := input.startDate, endDate := input.endDate
      isAdjustmentYear := input.isAdjustmentYear
      retainedEarningsAccountId := input.retainedEarningsAccountId }

/-- The generated period of a year, `Period 1`, `Period 2` and so on. -/
def generatedPeriod (org fiscalYearId : UUID) (i : ℕ) (periodStart periodEnd : Date) :
    FiscalPeriod :=
  FiscalPeriodService.newPeriod org
    { fiscalYearId, periodNumber := i + 1, periodName := "Period " ++ toString (i + 1)
      startDate := periodStart, endDate := periodEnd }

/-- The period generation loop: one month each from `periodStart`, clipped to the end of the
year, until the year is covered or the count runs out. -/
def generatePeriods (org fiscalYearId : UUID) (endDate : Date) :
    ℕ → ℕ → Date → List FiscalPeriod
  | 0, _, _ => []
  | count + 1, i, periodStart =>
    let periodEnd := min (periodStart.addMonths 1).pred endDate
    generatedPeriod org fiscalYearId i periodStart periodEnd ::
      if endDate < periodEnd.succ then []
      else generatePeriods org fiscalYearId endDate count (i + 1) periodEnd.succ

def insertPeriods : List FiscalPeriod → Tx PUnit
  | [] => pure ⟨⟩
  | period :: rest => do
    let _ ← insertFiscalPeriod period
    insertPeriods rest

def createYearWithPeriods (org : UUID) (input : FiscalYearInput)
    (periodCount : ℕ := 12) : Tx UUID := do
  let fiscalYearId ← createYear org input
  insertPeriods
    (generatePeriods org fiscalYearId input.endDate periodCount 0 input.startDate)
  pure fiscalYearId

section

variable {s s' : Db} {org k : UUID}

theorem createYear_eq_ok {input : FiscalYearInput} (h : createYear org input s = .ok k s') :
    ∃ years, s' = { s with fiscalYears := years } ∧ k = s.fiscalYears.next := by
  rw [createYear, get_bind, refuse_bind, insertFiscalYear_eq_ok] at h
  exact ⟨_, h.2.2.2, h.2.2.1⟩

theorem insertPeriods_eq_ok {periods : List FiscalPeriod} {u : PUnit}
    (h : insertPeriods periods s = .ok u s') :
    s' = { s with fiscalPeriods := periods.foldl Table.insert s.fiscalPeriods } := by
  induction periods generalizing s with
  | nil => exact (pure_eq_ok.mp h).2
  | cons period rest ih =>
    obtain ⟨_, s₁, hinsert, hrest⟩ := bind_eq_ok.mp h
    obtain ⟨_, _, _, rfl⟩ := insertFiscalPeriod_eq_ok.mp hinsert
    exact ih hrest

/-- A year with periods adds the generated periods under the next year, and nothing else but the
year. -/
theorem createYearWithPeriods_eq_ok {input : FiscalYearInput} {count : ℕ}
    (h : createYearWithPeriods org input count s = .ok k s') :
    ∃ years, s' = { s with
      fiscalYears := years
      fiscalPeriods :=
        (generatePeriods org k input.endDate count 0 input.startDate).foldl Table.insert
          s.fiscalPeriods } ∧ k = s.fiscalYears.next := by
  obtain ⟨yearId, s₁, hyear, h⟩ := bind_eq_ok.mp h
  obtain ⟨years, rfl, hk⟩ := createYear_eq_ok hyear
  obtain ⟨_, s₂, hperiods, h⟩ := bind_eq_ok.mp h
  obtain ⟨rfl, rfl⟩ := pure_eq_ok.mp h
  exact ⟨years, insertPeriods_eq_ok hperiods, hk⟩

end

end FiscalYearService

/-! ### The history of a period -/

/-- A period at a later time. Only its status and the records of its changes may differ, and a
hard-closed period does not differ at all. -/
structure FiscalPeriod.Ages (p p' : FiscalPeriod) : Prop where
  same : p' = { p with
    status := p'.status
    softClosedByUserId := p'.softClosedByUserId
    hardClosedByUserId := p'.hardClosedByUserId
    reopenCount := p'.reopenCount
    lastReopenSessionId := p'.lastReopenSessionId }
  hardClosed : p.status = .hardClosed → p' = p

def PeriodsAge (periods periods' : Table FiscalPeriod) : Prop :=
  ∀ k p, periods.get? k = some p → ∃ p', periods'.get? k = some p' ∧ p.Ages p'

section History

variable {p p' p'' : FiscalPeriod} {periods periods' periods'' : Table FiscalPeriod}

theorem FiscalPeriod.Ages.refl (p : FiscalPeriod) : p.Ages p := ⟨rfl, fun _ => rfl⟩

theorem FiscalPeriod.Ages.trans (h : p.Ages p') (h' : p'.Ages p'') : p.Ages p'' := by
  refine ⟨?_, fun hclosed => ?_⟩
  · rw [h'.same, h.same]
  · have heq := h.hardClosed hclosed
    rw [h'.hardClosed (heq ▸ hclosed), heq]

theorem FiscalPeriod.Ages.organizationId (h : p.Ages p') :
    p'.organizationId = p.organizationId := by
  rw [h.same]

theorem FiscalPeriod.Ages.covers (h : p.Ages p') {d : Date} (hd : p.Covers d) : p'.Covers d := by
  rw [h.same]
  exact hd

theorem PeriodsAge.refl (periods : Table FiscalPeriod) : PeriodsAge periods periods :=
  fun _ p hp => ⟨p, hp, .refl p⟩

theorem PeriodsAge.trans (h : PeriodsAge periods periods') (h' : PeriodsAge periods' periods'') :
    PeriodsAge periods periods'' := by
  intro k p hp
  obtain ⟨p', hp', hage⟩ := h k p hp
  obtain ⟨p'', hp'', hage'⟩ := h' k p' hp'
  exact ⟨p'', hp'', hage.trans hage'⟩

theorem PeriodsAge.insert (periods : Table FiscalPeriod) (p : FiscalPeriod) :
    PeriodsAge periods (periods.insert p) :=
  fun _ q hq => ⟨q, Table.get?_insert_of_some hq p, .refl q⟩

theorem PeriodsAge.modify {k : UUID} {f : FiscalPeriod → FiscalPeriod}
    (hget : periods.get? k = some p) (hopen : p.status ≠ .hardClosed)
    (hf : f p = { p with
      status := (f p).status
      softClosedByUserId := (f p).softClosedByUserId
      hardClosedByUserId := (f p).hardClosedByUserId
      reopenCount := (f p).reopenCount
      lastReopenSessionId := (f p).lastReopenSessionId }) :
    PeriodsAge periods (periods.modify k f) := by
  intro k' q hq
  rw [Table.get?_modify]
  split_ifs with hk
  · rw [hk, hget, Option.some.injEq] at hq
    rw [hk, hget, Option.map_some]
    exact ⟨f p, rfl, hq ▸ ⟨hf, fun hclosed => absurd hclosed hopen⟩⟩
  · exact ⟨q, hq, .refl q⟩

theorem PeriodsAge.foldl_insert (added : List FiscalPeriod) (periods : Table FiscalPeriod) :
    PeriodsAge periods (added.foldl Table.insert periods) := by
  induction added generalizing periods with
  | nil => exact .refl periods
  | cons p rest ih => exact (PeriodsAge.insert periods p).trans (ih _)

theorem PeriodGuardService.Gated.age {s : Db} {org k : UUID} {d : Date} {allow : Bool}
    {session : Option UUID} (h : Gated org d allow session s periods k) :
    PeriodsAge s.fiscalPeriods periods :=
  fun _ p hp => ⟨p, h.keeps hp, .refl p⟩

end History

end DotmacErp
