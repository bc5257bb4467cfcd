import DotmacErp.Foundation.Session
import DotmacErp.Foundation.Pool

/-!
# The saga orchestrator

A saga is a list of steps, each with a function that executes it and, unless it only reads, one
that compensates it. The orchestrator keeps the saga's row and the rows of its steps in the
database and commits after every change of either, so that another call can go on from there.

The orchestrator is modelled as a program of database transactions: a program point (`Pc`) is a
place in `_execute_steps` or `_compensate_steps` right after a commit, and `advance` is what
happens from there up to and including the next one. The functions of the steps are the
definition's own; they work on a business state `β` through the session and may raise halfway,
in which case what they wrote is still in the session when the orchestrator commits.

The store also keeps an account of what happened to each step (`StepEvent`), which no code
reads. Time stamps, `input_data` and the columns of the saga no modelled function reads are left
out, and so is the registry of orchestrators: the saga's type is taken to be registered. Sagas of
other keys share nothing with this one.
-/

namespace DotmacErp

open Relational

variable {β ν : Type}

/-- A JSON object; the first entry under a key is the one that counts. -/
abbrev Dict (ν : Type) := List (String × ν)

/-- `dict.update`: the entries of `e` win. -/
def Dict.update (d e : Dict ν) : Dict ν := e ++ d

inductive SagaStatus where
  | pending
  | executing
  | completed
  | compensating
  | compensated
  | failed
  deriving DecidableEq

inductive StepStatus where
  | pending
  | executing
  | completed
  | failed
  | compensating
  | compensated
  deriving DecidableEq

structure StepResult (ν : Type) where
  success : Bool
  outputData : Dict ν := []
  compensationData : Dict ν := []
  error : Option String := none

/-- Definition of a saga step. Both functions get the payload; `execute` also gets the context
of the steps before it, and `compensate` what `execute` left for it. -/
structure SagaStepDefinition (β ν : Type) where
  name : String
  execute : Dict ν → Dict ν → Session String β (StepResult ν)
  compensate : Option (Dict ν → Dict ν → Session String β Bool) := none

/-- An orchestrator: its steps in execution order, and the hook that builds the result. -/
structure SagaOrchestrator (β ν : Type) where
  steps : List (SagaStepDefinition β ν)
  buildResult : Dict ν → Dict ν → Dict ν := fun _ context => context

structure SagaStep (ν : Type) where
  stepName : String
  status : StepStatus := .pending
  outputData : Option (Dict ν) := none
  compensationData : Option (Dict ν) := none
  errorMessage : Option String := none
  retryCount : ℕ := 0

/-- A saga as it is stored, with the rows of its steps. -/
structure SagaExecution (ν : Type) where
  status : SagaStatus := .pending
  currentStep : ℕ := 0
  payload : Dict ν
  context : Dict ν := []
  result : Option (Dict ν) := none
  errorMessage : Option String := none
  steps : List (SagaStep ν)

structure SagaResult (ν : Type) where
  success : Bool
  result : Dict ν := []
  error : Option String := none
  wasCompensated : Bool := false

inductive StepEvent where
  | completed (i : ℕ)
  | compensated (i : ℕ)
  deriving DecidableEq

/-- The committed database, as far as the saga goes, and the account of the steps, the latest
event first. -/
structure SagaStore (β ν : Type) where
  saga : Option (SagaExecution ν) := none
  business : β
  events : List StepEvent := []

/-- Where a worker stands in an execution or a compensation. -/
inductive Pc (ν : Type) where
  | executeSteps
  | loadContext
  | atStep (i : ℕ) (context : Dict ν)
  | runStep (i : ℕ) (context : Dict ν)
  | compensateSteps
  | loadPosition
  | atCompensation (remaining : ℕ) (compensationFailed : Bool)
  | runCompensation (i : ℕ) (compensationFailed : Bool)

/-- What a call hands to its caller. The recovery calls that run a loop hand on `success` or
`was_compensated` of the loop's result. -/
inductive SagaReply (ν : Type) where
  | result (r : SagaResult ν)
  | flag (b : Bool)
  | raised

/-- Rewrite the row of step `i`. -/
def SagaExecution.withStep (saga : SagaExecution ν) (i : ℕ) (f : SagaStep ν → SagaStep ν) :
    SagaExecution ν :=
  { saga with steps := saga.steps.modify i f }

def SagaStore.put (s : SagaStore β ν) (saga : SagaExecution ν) : SagaStore β ν :=
  { s with saga := some saga }

def nonEmpty : Option String → Option String
  | some "" => none
  | o => o

namespace SagaOrchestrator

abbrev Block (β ν : Type) := SagaStore β ν × Outcome (Pc ν) (SagaReply ν)

/-! ### Calling the functions of a step -/

/-- `step_def.execute`, with an exception turned into a failure. What was written before the
exception stays in the session. -/
def attempt (x : Session String β (StepResult ν)) (b : β) : StepResult ν × β :=
  match x b with
  | .ok r b' => (r, b')
  | .error e b' => ({ success := false, error := some e }, b')

/-- `step_def.compensate`, with an exception turned into a failure and its message. -/
def attemptCompensation (x : Session String β Bool) (b : β) : Bool × Option String × β :=
  match x b with
  | .ok success b' => (success, none, b')
  | .error e b' => (false, some ("Compensation failed: " ++ e), b')

/-! ### `_execute_steps` -/

variable (o : SagaOrchestrator β ν)

def completedResult (saga : SagaExecution ν) : SagaResult ν :=
  { success := true, result := saga.result.getD [] }

/-- `saga.status = EXECUTING`, committed. -/
def executeSteps (saga : SagaExecution ν) (s : SagaStore β ν) : Block β ν :=
  (s.put { saga with status := .executing }, .running .loadContext)

def loadContext (saga : SagaExecution ν) (s : SagaStore β ν) : Block β ν :=
  (s, .running (.atStep saga.currentStep saga.context))

/-- The head of the loop: past the last step the saga is completed; a completed step is skipped
with its output merged; any other step is marked as executing. -/
def atStep (saga : SagaExecution ν) (i : ℕ) (context : Dict ν) (s : SagaStore β ν) : Block β ν :=
  match o.steps[i]? with
  | none =>
    let completed := { saga with
      status := .completed, result := some (o.buildResult saga.payload context) }
    (s.put completed, .returned (.result (completedResult completed)))
  | some _ =>
    match saga.steps[i]? with
    | none => (s, .returned .raised)
    | some step =>
      if step.status = .completed then
        (s, .running (.atStep (i + 1) (context.update (step.outputData.getD []))))
      else
        (s.put (saga.withStep i fun step => { step with status := .executing }),
          .running (.runStep i context))

def stepCompleted (saga : SagaExecution ν) (i : ℕ) (context : Dict ν) (result : StepResult ν) :
    SagaExecution ν :=
  { saga.withStep i fun step => { step with
      status := .completed
      outputData := some result.outputData
      compensationData := some result.compensationData } with
    context := context.update result.outputData
    currentStep := i + 1 }

def stepFailed (saga : SagaExecution ν) (i : ℕ) (name : String) (error : Option String) :
    SagaExecution ν :=
  { saga.withStep i fun step => { step with status := .failed, errorMessage := error } with
    errorMessage := some ("Step '" ++ name ++ "' failed: " ++ error.getD "None") }

def runStep (saga : SagaExecution ν) (i : ℕ) (context : Dict ν) (s : SagaStore β ν) :
    Block β ν :=
  match o.steps[i]? with
  | none => (s, .returned .raised)
  | some stepDef =>
    let (result, business) := attempt (stepDef.execute saga.payload context) s.business
    if result.success then
      ({ saga := some (stepCompleted saga i context result), business,
         events := .completed i :: s.events },
        .running (.atStep (i + 1) (context.update result.outputData)))
    else
      -- the commit of the failure takes the step's own writes along
      ({ s with saga := some (stepFailed saga i stepDef.name result.error), business },
        .running .compensateSteps)

/-! ### `_compensate_steps` -/

/-- `saga.status = COMPENSATING`, committed. -/
def compensateSteps (saga : SagaExecution ν) (s : SagaStore β ν) : Block β ν :=
  (s.put { saga with status := .compensating }, .running .loadPosition)

def loadPosition (saga : SagaExecution ν) (s : SagaStore β ν) : Block β ν :=
  (s, .running (.atCompensation saga.currentStep false))

def settled (saga : SagaExecution ν) (compensationFailed : Bool) : SagaExecution ν :=
  if compensationFailed then
    { saga with
      status := .failed
      errorMessage := some ((nonEmpty saga.errorMessage).getD "Compensation failed") }
  else
    { saga with status := .compensated }

def settledResult (saga : SagaExecution ν) : SagaResult ν :=
  { success := false
    error := saga.errorMessage
    wasCompensated := decide (saga.status = .compensated) }

/-- The head of the loop, with `remaining` steps to go: a step that is not completed is skipped,
one without a compensation is settled, any other is marked as compensating. -/
def atCompensation (saga : SagaExecution ν) (compensationFailed : Bool) (s : SagaStore β ν) :
    ℕ → Block β ν
  | 0 =>
    let saga := settled saga compensationFailed
    (s.put saga, .returned (.result (settledResult saga)))
  | i + 1 =>
    match o.steps[i]?, saga.steps[i]? with
    | some stepDef, some step =>
      if step.status ≠ .completed then
        (s, .running (.atCompensation i compensationFailed))
      else if stepDef.compensate.isNone then
        (s.put (saga.withStep i fun step => { step with status := .compensated }),
          .running (.atCompensation i compensationFailed))
      else
        (s.put (saga.withStep i fun step => { step with status := .compensating }),
          .running (.runCompensation i compensationFailed))
    | _, _ => (s, .returned .raised)

/-- Compensate the step and commit what that did. After a failure the step stays as it is,
compensating. -/
def runCompensation (saga : SagaExecution ν) (i : ℕ) (compensationFailed : Bool)
    (s : SagaStore β ν) : Block β ν :=
  match (o.steps[i]?).bind SagaStepDefinition.compensate, saga.steps[i]? with
  | some compensate, some step =>
    let (success, message, business) :=
      attemptCompensation (compensate saga.payload (step.compensationData.getD [])) s.business
    if success then
      ({ saga := some (saga.withStep i fun step => { step with status := .compensated }), business,
         events := .compensated i :: s.events },
        .running (.atCompensation i compensationFailed))
    else
      ({ s with
          saga := some (saga.withStep i fun step => { step with
            errorMessage := message.or step.errorMessage
            retryCount := step.retryCount + 1 })
          business },
        .running (.atCompensation i true))
  | _, _ => (s, .returned .raised)

/-- The transaction from a program point. -/
def advanceSaga (saga : SagaExecution ν) (s : SagaStore β ν) : Pc ν → Block β ν
  | .executeSteps => executeSteps saga s
  | .loadContext => loadContext saga s
  | .atStep i context => atStep o saga i context s
  | .runStep i context => runStep o saga i context s
  | .compensateSteps => compensateSteps saga s
  | .loadPosition => loadPosition saga s
  | .atCompensation remaining failed => atCompensation o saga failed s remaining
  | .runCompensation i failed => runCompensation o saga i failed s

/-- The transaction from a program point, on the row as it is now. -/
def advance (pc : Pc ν) (s : SagaStore β ν) : Block β ν :=
  match s.saga with
  | none => (s, .returned .raised)
  | some saga => advanceSaga o saga s pc

/-! ### The calls -/

def newSaga (payload : Dict ν) : SagaExecution ν :=
  { payload, steps := o.steps.map fun stepDef => { stepName := stepDef.name } }

/-- `_handle_existing_saga`: a settled saga is reported, any other is resumed. -/
def handleExistingSaga (saga : SagaExecution ν) (s : SagaStore β ν) : Block β ν :=
  match saga.status with
  | .completed => (s, .returned (.result (completedResult saga)))
  | .compensated =>
    (s, .returned (.result {
      success := false
      error := some ((nonEmpty saga.errorMessage).getD "Saga was compensated")
      wasCompensated := true }))
  | .failed =>
    (s, .returned (.result {
      success := false
      error := some ((nonEmpty saga.errorMessage).getD "Saga failed") }))
  | .compensating => (s, .running .compensateSteps)
  | .executing | .pending => (s, .running .executeSteps)

/-- `execute`: look the key up, and create the saga when there is none. -/
def execute (payload : Dict ν) (s : SagaStore β ν) : Block β ν :=
  match s.saga with
  | some saga => handleExistingSaga saga s
  | none => (s.put (newSaga o payload), .running .executeSteps)

end SagaOrchestrator

def SagaStatus.terminal : SagaStatus → Bool
  | completed | compensated | failed => true
  | pending | executing | compensating => false

namespace SagaRecoveryService

open SagaOrchestrator (Block)

def recoverSaga (forceCompensate : Bool) (s : SagaStore β ν) : Block β ν :=
  match s.saga with
  | none => (s, .returned (.flag false))
  | some saga =>
    if saga.status.terminal then (s, .returned (.flag true))
    else if forceCompensate || saga.status = .compensating then (s, .running .compensateSteps)
    else (s, .running .executeSteps)

/-- The steps `retry_compensation` counts. -/
def stepsToCompensate (saga : SagaExecution ν) : ℕ :=
  saga.steps.countP fun step => step.status = .completed

/-- `retry_compensation`: a failed saga with completed steps goes back into the compensation
loop, and one without any is declared compensated. -/
def retryCompensation (s : SagaStore β ν) : Block β ν :=
  match s.saga with
  | none => (s, .returned .raised)
  | some saga =>
    if saga.status ≠ .failed then (s, .returned (.flag false))
    else if stepsToCompensate saga = 0 then
      (s.put { saga with status := .compensated }, .returned (.flag true))
    else (s.put { saga with status := .compensating }, .running .compensateSteps)

def markFailed (reason : String) (s : SagaStore β ν) : Block β ν :=
  match s.saga with
  | none => (s, .returned .raised)
  | some saga =>
    (s.put { saga with status := .failed, errorMessage := some reason }, .returned (.flag true))

end SagaRecoveryService

/-! ### The saga as a program -/

/-- The calls that reach a saga, and the transactions of everybody else (`business`), among them
the ones a function of a step commits itself before it dies. -/
inductive SagaCall (β ν : Type) where
  | execute (payload : Dict ν)
  | recoverSaga (forceCompensate : Bool)
  | retryCompensation
  | markFailed (reason : String)
  | business (b : β)

def SagaCall.start (o : SagaOrchestrator β ν) : SagaCall β ν → SagaStore β ν →
    SagaOrchestrator.Block β ν
  | execute payload, s => o.execute payload s
  | recoverSaga forceCompensate, s => SagaRecoveryService.recoverSaga forceCompensate s
  | retryCompensation, s => SagaRecoveryService.retryCompensation s
  | markFailed reason, s => SagaRecoveryService.markFailed reason s
  | business b, s => ({ s with business := b }, .returned (.flag true))

def sagaProgram (o : SagaOrchestrator β ν) :
    Program (SagaStore β ν) (SagaCall β ν) (Pc ν) (SagaReply ν) where
  start := SagaCall.start o
  advance := o.advance

/-- The system of all interleavings of calls on one idempotency key that is not in use yet. -/
def sagaSystem (o : SagaOrchestrator β ν) :
    System (Pool (SagaStore β ν) (Pc ν)) (Pool.Event (SagaCall β ν)) :=
  (sagaProgram o).system fun s => s.saga = none ∧ s.events = []

end DotmacErp
