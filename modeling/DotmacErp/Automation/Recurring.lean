import DotmacErp.Foundation.Days
import DotmacErp.Foundation.Schedules
import DotmacErp.Foundation.Scripts
import DotmacErp.Foundation.Selections
import DotmacErp.Foundation.Session
import DotmacErp.GL.Models

/-!
# Recurring templates

`RecurringService`: templates of transactions that are generated on a schedule. A template is
created with its first run date (`createTemplate`), `runDueTemplates` generates every active
template whose run date has come and writes a log of each attempt, and a template can be paused,
resumed and cancelled.

A generation moves the run date to one period after the day it ran on (`generateNext`). What it
writes to the template and the log is stated once (`generateNext_cases`). The generation of the
transaction itself is a parameter: it succeeds, fails, or raises. The data it reads from the
template is left out, and the configured days of a schedule are days that exist.
-/

namespace DotmacErp

open Calendar Relational Session

/-! ### Records -/

inductive RecurringEntityType
  | invoice | bill | expense | journal

inductive RecurringFrequency
  | daily | weekly | biweekly | monthly | quarterly | semiAnnually | annually

inductive RecurringStatus
  | active | paused | completed | expired | cancelled
  deriving DecidableEq

def RecurringStatus.value : RecurringStatus → String
  | active => "ACTIVE"
  | paused => "PAUSED"
  | completed => "COMPLETED"
  | expired => "EXPIRED"
  | cancelled => "CANCELLED"

inductive RecurringLogStatus
  | success | failed | skipped
  deriving DecidableEq

/-- The keys of `schedule_config` that the service reads. -/
structure ScheduleConfig where
  dayOfWeek : Option ℕ := none
  dayOfMonth : Option { day : ℕ // 0 < day } := none

/-- `RecurringTemplateInput`, what the schedule reads. -/
structure RecurringTemplateInput where
  templateName : String
  entityType : RecurringEntityType
  frequency : RecurringFrequency
  startDate : Date
  endDate : Option Date := none
  scheduleConfig : Option ScheduleConfig := none
  occurrencesLimit : Option ℤ := none

/-- `automation.recurring_template`. -/
structure RecurringTemplate where
  organizationId : UUID
  templateName : String
  entityType : RecurringEntityType
  frequency : RecurringFrequency
  scheduleConfig : ScheduleConfig
  startDate : Date
  endDate : Option Date
  nextRunDate : Option Date
  occurrencesLimit : Option ℤ
  occurrencesCount : ℤ := 0
  lastGeneratedId : Option UUID := none
  status : RecurringStatus := .active

/-- `automation.recurring_log`. The time of the generation is its day. -/
structure RecurringLog where
  templateId : UUID
  scheduledDate : Date
  generatedAt : Date
  status : RecurringLogStatus
  generatedEntityType : Option String := none
  generatedEntityId : Option UUID := none
  generatedEntityNumber : Option String := none
  errorMessage : Option String := none
  skipReason : Option String := none

structure GenerationResult where
  success : Bool
  entityType : Option String := none
  entityId : Option UUID := none
  entityNumber : Option String := none
  errorMessage : Option String := none

/-- The two tables of the service. -/
structure RecurringStore where
  templates : Table RecurringTemplate := .empty
  logs : Table RecurringLog := .empty

/-- A service method over an open session; what it raises is a text. -/
abbrev RecurringSession := Session String RecurringStore

abbrev Generation := UUID → RecurringTemplate → Except String GenerationResult

namespace RecurringService

/-! ### The next run date -/

def capDay (d : Date) (day : { day : ℕ // 0 < day }) : Date :=
  ⟨d.year, d.month, min day.1 (daysInMonth d.year d.month), by
    have hvalid := d.valid
    have hday := day.2
    have hmonth := daysInMonth_pos d.year d.month
    omega⟩

def calculateNextRunDate (currentDate : Date) (frequency : RecurringFrequency)
    (scheduleConfig : ScheduleConfig) : Date :=
  match frequency with
  | .daily => currentDate.succ
  | .weekly =>
    let dayOfWeek := scheduleConfig.dayOfWeek.getD currentDate.weekday
    let nextDate := Date.succ^[7] currentDate
    let daysDiff : ℤ := dayOfWeek - nextDate.weekday
    let daysDiff := if daysDiff < 0 then daysDiff + 7 else daysDiff
    Date.succ^[daysDiff.toNat] nextDate
  | .biweekly => Date.succ^[14] currentDate
  | .monthly =>
    capDay (currentDate.addMonths 1)
      (scheduleConfig.dayOfMonth.getD ⟨currentDate.day, currentDate.valid.2.2.1⟩)
  | .quarterly => currentDate.addMonths 3
  | .semiAnnually => currentDate.addMonths 6
  | .annually => currentDate.addMonths 12

/-! ### The methods -/

/-- `create_template`. A start date that has passed is replaced. -/
def createTemplate (today : Date) (org : UUID) (inputData : RecurringTemplateInput) :
    RecurringSession UUID := do
  let s ← get
  refuse (s.templates.find? fun t => t.organizationId = org ∧
      t.templateName = inputData.templateName).isSome
    ("Template with name '" ++ inputData.templateName ++ "' already exists")
  let scheduleConfig := inputData.scheduleConfig.getD {}
  let nextRunDate := if inputData.startDate < today then
      calculateNextRunDate today inputData.frequency scheduleConfig
    else inputData.startDate
  let template : RecurringTemplate :=
    { organizationId := org
      templateName := inputData.templateName
      entityType := inputData.entityType
      frequency := inputData.frequency
      scheduleConfig
      startDate := inputData.startDate
      endDate := inputData.endDate
      nextRunDate := some nextRunDate
      occurrencesLimit := inputData.occurrencesLimit }
  set { s with templates := s.templates.insert template }
  pure s.templates.next

def getDueTemplates (s : RecurringStore) (checkDate : Date) : List (Stored RecurringTemplate) :=
  s.templates.select fun t => t.status = .active ∧ ∃ d ∈ t.nextRunDate, d ≤ checkDate

def skippedLog (today : Date) (templateId : UUID) (scheduledDate : Date) (skipReason : String) :
    RecurringLog where
  templateId := templateId
  scheduledDate := scheduledDate
  generatedAt := today
  status := .skipped
  skipReason := some skipReason

/-- The limit, unless it is null or zero, as Python's truth of an optional integer. -/
def activeLimit (t : RecurringTemplate) : Option ℤ := t.occurrencesLimit.filter (· ≠ 0)

def resultLog (today : Date) (templateId : UUID) (scheduledDate : Date)
    (result : GenerationResult) : RecurringLog where
  templateId := templateId
  scheduledDate := scheduledDate
  generatedAt := today
  status := if result.success then .success else .failed
  generatedEntityType := result.entityType
  generatedEntityId := result.entityId
  generatedEntityNumber := result.entityNumber
  errorMessage := result.errorMessage

def advanced (today : Date) (result : GenerationResult) (t : RecurringTemplate) :
    RecurringTemplate :=
  { t with
    occurrencesCount := t.occurrencesCount + 1
    lastGeneratedId := result.entityId
    nextRunDate := some (calculateNextRunDate today t.frequency t.scheduleConfig) }

/-- `generate_next`: the template as it leaves it, and the log it adds. -/
def generateNext (today : Date) (generate : Generation) (templateId : UUID)
    (template : RecurringTemplate) : Except String (RecurringTemplate × RecurringLog) :=
  let scheduledDate := template.nextRunDate.getD today
  if template.status ≠ .active then
    .ok (template, skippedLog today templateId scheduledDate
      ("Template status is " ++ template.status.value))
  else if ∃ endDate ∈ template.endDate, endDate < today then
    .ok ({ template with status := .expired },
      skippedLog today templateId scheduledDate "Template has expired")
  else if ∃ limit ∈ activeLimit template, limit ≤ template.occurrencesCount then
    .ok ({ template with status := .completed },
      skippedLog today templateId scheduledDate "Occurrence limit reached")
  else
    (generate templateId template).map fun result =>
      (if result.success then advanced today result template else template,
        resultLog today templateId scheduledDate result)

/-- The body of the loop of `run_due_templates`: what an attempt raises is logged. -/
def runTemplate (today : Date) (generate : Generation) (s : RecurringStore)
    (due : Stored RecurringTemplate) : RecurringStore :=
  match generateNext today generate due.id due.row with
  | .ok (template, log) =>
    { templates := s.templates.modify due.id fun _ => template
      logs := s.logs.insert log }
  | .error message =>
    { s with
      logs := s.logs.insert
        { templateId := due.id
          scheduledDate := due.row.nextRunDate.getD today
          generatedAt := today
          status := .failed
          errorMessage := some message } }

def runDueTemplates (today : Date) (generate : Generation) (s : RecurringStore) : RecurringStore :=
  (getDueTemplates s today).foldl (runTemplate today generate) s

/-- `db.get` on a template. -/
def loadTemplate (templateId : UUID) : RecurringSession RecurringTemplate := do
  let s ← get
  orRaise (s.templates.get? templateId) "Template not found"

def modifyTemplate (templateId : UUID) (f : RecurringTemplate → RecurringTemplate) :
    RecurringSession PUnit :=
  modify fun s => { s with templates := s.templates.modify templateId f }

def pause (templateId : UUID) : RecurringSession PUnit := do
  let template ← loadTemplate templateId
  refuse (template.status ≠ .active) "Template is not active"
  modifyTemplate templateId fun t => { t with status := .paused }

/-- `resume`. A run date that has passed is replaced. -/
def resume (today : Date) (templateId : UUID) : RecurringSession PUnit := do
  let template ← loadTemplate templateId
  refuse (template.status ≠ .paused) "Template is not paused"
  modifyTemplate templateId fun t =>
    { t with
      status := .active
      nextRunDate := if ∃ d ∈ t.nextRunDate, d < today then
          some (calculateNextRunDate today t.frequency t.scheduleConfig)
        else t.nextRunDate }

def cancel (templateId : UUID) : RecurringSession PUnit := do
  let _ ← loadTemplate templateId
  modifyTemplate templateId fun t => { t with status := .cancelled }

/-! ### The system -/

/-- A call of the service. -/
inductive RecurringOp
  | create (today : Date) (org : UUID) (inputData : RecurringTemplateInput)
  | run (today : Date) (generate : Generation)
  | pause (templateId : UUID)
  | resume (today : Date) (templateId : UUID)
  | cancel (templateId : UUID)

/-- What a call commits. -/
def RecurringOp.apply : RecurringOp → RecurringStore → RecurringStore
  | create today org inputData, s =>
    commit (createTemplate today org inputData) s
  | run today generate, s => runDueTemplates today generate s
  | pause templateId, s => commit (RecurringService.pause templateId) s
  | resume today templateId, s => commit (RecurringService.resume today templateId) s
  | cancel templateId, s => commit (RecurringService.cancel templateId) s

/-- The service, from empty tables on. -/
def recurringSystem : System RecurringStore RecurringOp :=
  System.ofFunction (fun s => s = {}) fun s op => op.apply s

end RecurringService

end DotmacErp
