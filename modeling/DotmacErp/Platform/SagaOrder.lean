import DotmacErp.Foundation.History
import DotmacErp.Platform.SagaOrchestrator

/-!
# Every step takes effect at most once, one call at a time

`execute` looks the idempotency key up without locking the row, and a saga it finds in progress
is resumed from its persisted position — also when the call that left it there is still at work.
Two calls then execute the same step (`saga_step_executed_twice`).

As long as a call that executes the saga has it to itself, the position tells the steps apart:
the ones below it have been completed, once, and the others have not (`Orderly`). The invariant
is about the rows a crash leaves behind, so it also covers every way of resuming; calls that
compensate may overlap each other, since they leave the position where it is.
-/

namespace DotmacErp

open Relational Program
open SagaOrchestrator (advanceSaga handleExistingSaga Block)

variable {β ν : Type} {o : SagaOrchestrator β ν} {saga : SagaExecution ν} {s : SagaStore β ν}
  {events : List StepEvent} {i : ℕ}

def StepStatus.reached : StepStatus → Bool
  | completed | compensating | compensated => true
  | pending | executing | failed => false

/-- Program points of `_execute_steps`. -/
def Pc.forward : Pc ν → Bool
  | executeSteps | loadContext | atStep .. | runStep .. => true
  | compensateSteps | loadPosition | atCompensation .. | runCompensation .. => false

/-- No step completes a second time without having been compensated in between. -/
def TakesEffectOnce (events : List StepEvent) : Prop :=
  ∀ i, History.Separated (.completed i) (.compensated i) events

/-- One worker executes steps while another compensates them. -/
def ExecutingAndCompensating (p : Pool (SagaStore β ν) (Pc ν)) : Prop :=
  ∃ w w' pc pc', p.workers w = some pc ∧ p.workers w' = some pc' ∧
    pc.forward = true ∧ pc'.forward = false

/-! ### Rows of steps -/

theorem SagaExecution.getElem?_withStep (saga : SagaExecution ν) (i j : ℕ)
    (f : SagaStep ν → SagaStep ν) :
    (saga.withStep i f).steps[j]? =
      (saga.steps[j]?).map fun step => if i = j then f step else step := by
  simp [withStep, List.getElem?_modify]

theorem SagaExecution.getElem?_withStep_of_ne {i j : ℕ} (h : i ≠ j)
    (f : SagaStep ν → SagaStep ν) : (saga.withStep i f).steps[j]? = saga.steps[j]? := by
  rw [getElem?_withStep]
  simp [h]

@[simp] theorem SagaExecution.length_withStep (saga : SagaExecution ν) (i : ℕ)
    (f : SagaStep ν → SagaStep ν) : (saga.withStep i f).steps.length = saga.steps.length := by
  simp [withStep]

/-! ### The position tells the steps apart -/

/-- The rows of a saga at a position: the steps below it have completed, once, and no other
step has. -/
structure Orderly (o : SagaOrchestrator β ν) (saga : SagaExecution ν) (events : List StepEvent) :
    Prop where
  length : saga.steps.length = o.steps.length
  position : saga.currentStep ≤ o.steps.length
  reached : ∀ i step, saga.steps[i]? = some step →
    (step.status.reached = true ↔ i < saga.currentStep)
  completed : ∀ i, .completed i ∈ events ↔ i < saga.currentStep
  once : ∀ i, events.count (.completed i) ≤ 1

/-- The program point's step is the one the position says. -/
def Pc.InPlace (saga : SagaExecution ν) : Pc ν → Prop
  | atStep i _ | runStep i _ => i = saga.currentStep
  | atCompensation remaining _ => remaining ≤ saga.currentStep
  | runCompensation i _ => i < saga.currentStep
  | _ => True

namespace Orderly

theorem withStep (h : Orderly o saga events) {f : SagaStep ν → SagaStep ν}
    (hf : ∀ step, saga.steps[i]? = some step → (f step).status.reached = step.status.reached) :
    Orderly o (saga.withStep i f) events where
  length := by rw [SagaExecution.length_withStep, h.length]
  position := h.position
  reached := by
    intro j step' hj
    rw [SagaExecution.getElem?_withStep, Option.map_eq_some_iff] at hj
    obtain ⟨step, hstep, rfl⟩ := hj
    have hreached := h.reached j step hstep
    by_cases hij : i = j
    · subst hij
      rw [if_pos rfl, hf step hstep]
      exact hreached
    · rw [if_neg hij]
      exact hreached
  completed := h.completed
  once := h.once

theorem compensated (h : Orderly o saga events) : Orderly o saga (.compensated i :: events) where
  length := h.length
  position := h.position
  reached := h.reached
  completed := fun j => by simpa using h.completed j
  once := fun j => by simpa using h.once j

theorem stepCompleted (h : Orderly o saga events) (hi : saga.currentStep < o.steps.length)
    (context : Dict ν) (result : StepResult ν) :
    Orderly o (SagaOrchestrator.stepCompleted saga saga.currentStep context result)
      (.completed saga.currentStep :: events) where
  length := (SagaExecution.length_withStep _ _ _).trans h.length
  position := hi
  reached := by
    intro j step' hj
    rw [SagaOrchestrator.stepCompleted, SagaExecution.getElem?_withStep,
      Option.map_eq_some_iff] at hj
    obtain ⟨step, hstep, rfl⟩ := hj
    have hreached := h.reached j step hstep
    change _ ↔ j < saga.currentStep + 1
    by_cases hij : saga.currentStep = j
    · subst hij
      simp [StepStatus.reached]
    · rw [if_neg hij, hreached]
      omega
  completed := by
    intro j
    have hold := h.completed j
    change _ ↔ j < saga.currentStep + 1
    simp only [List.mem_cons, StepEvent.completed.injEq, hold]
    omega
  once := by
    intro j
    rw [List.count_cons]
    by_cases hij : saga.currentStep = j
    · -- the position itself was not completed before
      have hnew : StepEvent.completed j ∉ events := fun hmem => by
        have hlt := (h.completed j).mp hmem
        omega
      rw [List.count_eq_zero_of_not_mem hnew, hij]
      simp
    · have hne : (StepEvent.completed saga.currentStep == StepEvent.completed j) = false := by
        simpa using hij
      rw [hne]
      simpa using h.once j

theorem congr {saga' : SagaExecution ν} (h : Orderly o saga events)
    (hsteps : saga'.steps = saga.steps) (hposition : saga'.currentStep = saga.currentStep) :
    Orderly o saga' events := by
  obtain ⟨hlength, hle, hreached, hcompleted, honce⟩ := h
  refine ⟨?_, ?_, ?_, ?_, honce⟩ <;> simpa only [hsteps, hposition]

theorem not_reached (h : Orderly o saga events) {step : SagaStep ν}
    (hstep : saga.steps[saga.currentStep]? = some step) : step.status.reached = false := by
  have hiff := h.reached _ step hstep
  simpa using hiff

theorem takesEffectOnce (h : Orderly o saga events) : TakesEffectOnce events := by
  rintro j newer between older rfl
  have honce := h.once j
  simp only [List.count_append, List.count_cons_self] at honce
  omega

end Orderly

/-! ### The store and one program point -/

def InOrder (o : SagaOrchestrator β ν) (s : SagaStore β ν) (q : Option (Pc ν)) : Prop :=
  match s.saga with
  | none => s.events = [] ∧ q = none
  | some saga => Orderly o saga s.events ∧ ∀ pc, q = some pc → pc.InPlace saga

namespace InOrder

variable {q : Option (Pc ν)}

theorem of_saga {saga : SagaExecution ν} (hs : s.saga = some saga)
    (h : Orderly o saga s.events) (hpc : ∀ pc, q = some pc → pc.InPlace saga) :
    InOrder o s q := by
  simp only [InOrder, hs]
  exact ⟨h, hpc⟩

theorem orderly (h : InOrder o s q) (hs : s.saga = some saga) : Orderly o saga s.events := by
  simp only [InOrder, hs] at h
  exact h.1

theorem inPlace {pc : Pc ν} (h : InOrder o s (some pc)) (hs : s.saga = some saga) :
    pc.InPlace saga := by
  simp only [InOrder, hs] at h
  exact h.2 pc rfl

theorem crash (h : InOrder o s q) : InOrder o s none := by
  cases hs : s.saga with
  | none =>
    simp only [InOrder, hs] at h ⊢
    exact ⟨h.1, trivial⟩
  | some saga => exact of_saga hs (h.orderly hs) (by simp)

theorem newSaga (o : SagaOrchestrator β ν) (payload : Dict ν) :
    Orderly o (o.newSaga payload) [] where
  length := by simp [SagaOrchestrator.newSaga]
  position := Nat.zero_le _
  reached := by
    intro i step hstep
    simp only [SagaOrchestrator.newSaga, List.getElem?_map, Option.map_eq_some_iff] at hstep
    obtain ⟨stepDef, _, rfl⟩ := hstep
    simp [SagaOrchestrator.newSaga, StepStatus.reached]
  completed := by simp [SagaOrchestrator.newSaga]
  once := by simp

theorem start (c : SagaCall β ν) (h : InOrder o s none) :
    InOrder o (c.start o s).1 (c.start o s).2.pc? := by
  cases hs : s.saga with
  | none =>
    have hevents : s.events = [] := by
      simp only [InOrder, hs] at h
      exact h.1
    cases c with
    | execute payload =>
      simp only [SagaCall.start, SagaOrchestrator.execute, hs]
      refine of_saga rfl ?_ (by simp [Pc.InPlace])
      simp only [SagaStore.put, hevents]
      exact newSaga o payload
    | _ =>
      simpa [SagaCall.start, SagaRecoveryService.recoverSaga, InOrder, hs,
        SagaRecoveryService.retryCompensation, SagaRecoveryService.markFailed] using hevents
  | some saga =>
    have horderly := h.orderly hs
    cases c with
    | execute payload =>
      simp only [SagaCall.start, SagaOrchestrator.execute, hs,
        handleExistingSaga]
      cases saga.status <;> exact of_saga hs horderly (by simp [Pc.InPlace])
    | recoverSaga force =>
      simp only [SagaCall.start, SagaRecoveryService.recoverSaga, hs]
      split_ifs <;> exact of_saga hs horderly (by simp [Pc.InPlace])
    | retryCompensation =>
      simp only [SagaCall.start, SagaRecoveryService.retryCompensation, hs]
      split_ifs
      · exact of_saga hs horderly (by simp)
      · exact of_saga rfl (horderly.congr rfl rfl) (by simp)
      · exact of_saga rfl (horderly.congr rfl rfl) (by simp [Pc.InPlace])
    | markFailed reason =>
      simp only [SagaCall.start, SagaRecoveryService.markFailed, hs]
      exact of_saga rfl (horderly.congr rfl rfl) (by simp)
    | business b => exact of_saga hs horderly (by simp [SagaCall.start])

/-! The transactions of the two loops, at the place the position says. -/

theorem atStep (hs : s.saga = some saga) (h : Orderly o saga s.events) (context : Dict ν) :
    InOrder o (o.atStep saga saga.currentStep context s).1
      (o.atStep saga saga.currentStep context s).2.pc? := by
  rw [SagaOrchestrator.atStep]
  split
  · exact of_saga rfl (h.congr rfl rfl) (by simp)
  · split
    · exact of_saga hs h (by simp)
    · next step hstep =>
      have hnot := h.not_reached hstep
      have hopen : step.status ≠ .completed := fun hc => by
        rw [hc] at hnot
        exact absurd hnot (by simp [StepStatus.reached])
      rw [if_neg hopen]
      refine of_saga rfl (h.withStep fun step' hstep' => ?_)
        (by simp [Pc.InPlace, SagaExecution.withStep])
      rw [h.not_reached hstep']
      rfl

theorem runStep (hs : s.saga = some saga) (h : Orderly o saga s.events) (context : Dict ν) :
    InOrder o (o.runStep saga saga.currentStep context s).1
      (o.runStep saga saga.currentStep context s).2.pc? := by
  rw [SagaOrchestrator.runStep]
  split
  · exact of_saga hs h (by simp)
  · next stepDef hdef =>
    have hlt : saga.currentStep < o.steps.length := (List.getElem?_eq_some_iff.mp hdef).1
    simp only
    split_ifs
    · exact of_saga rfl (h.stepCompleted hlt _ _)
        (by simp [Pc.InPlace, SagaOrchestrator.stepCompleted])
    · refine of_saga rfl (Orderly.congr (h.withStep (f := fun step => { step with
        status := .failed, errorMessage := _ }) fun step' hstep' => ?_) rfl rfl)
        (by simp [Pc.InPlace])
      rw [h.not_reached hstep']
      rfl

theorem atCompensation (hs : s.saga = some saga) (h : Orderly o saga s.events) (failed : Bool)
    {remaining : ℕ} (hle : remaining ≤ saga.currentStep) :
    InOrder o (o.atCompensation saga failed s remaining).1
      (o.atCompensation saga failed s remaining).2.pc? := by
  cases remaining with
  | zero =>
    refine of_saga rfl ?_ (by simp [SagaOrchestrator.atCompensation])
    cases failed <;> exact h.congr rfl rfl
  | succ i =>
    have hlt : i < saga.currentStep := hle
    have hkeep : ∀ status : StepStatus, status.reached = true → ∀ step,
        saga.steps[i]? = some step → status.reached = step.status.reached := by
      intro status hstatus step hstep
      rw [hstatus, (h.reached _ _ hstep).mpr hlt]
    rw [SagaOrchestrator.atCompensation]
    split
    · split_ifs
      · exact of_saga hs h (by simpa [Pc.InPlace] using Nat.le_of_lt hlt)
      · exact of_saga rfl (h.withStep (hkeep .compensated rfl))
          (by simpa [Pc.InPlace, SagaExecution.withStep] using Nat.le_of_lt hlt)
      · exact of_saga rfl (h.withStep (hkeep .compensating rfl))
          (by simpa [Pc.InPlace, SagaExecution.withStep] using hlt)
    · exact of_saga hs h (by simp)

theorem runCompensation (hs : s.saga = some saga) (h : Orderly o saga s.events) (failed : Bool)
    (hlt : i < saga.currentStep) :
    InOrder o (o.runCompensation saga i failed s).1
      (o.runCompensation saga i failed s).2.pc? := by
  have hle : i ≤ saga.currentStep := Nat.le_of_lt hlt
  rw [SagaOrchestrator.runCompensation]
  split
  · simp only
    split_ifs
    · refine of_saga rfl (h.withStep fun step hstep => ?_).compensated
        (by simpa [Pc.InPlace, SagaExecution.withStep] using hle)
      exact ((h.reached _ _ hstep).mpr hlt).symm
    · exact of_saga rfl (h.withStep fun _ _ => rfl)
        (by simpa [Pc.InPlace, SagaExecution.withStep] using hle)
  · exact of_saga hs h (by simp)

theorem advance (pc : Pc ν) (h : InOrder o s (some pc)) :
    InOrder o (o.advance pc s).1 (o.advance pc s).2.pc? := by
  cases hs : s.saga with
  | none =>
    simp only [InOrder, hs] at h
    exact absurd h.2 (by simp)
  | some saga =>
    have horderly := h.orderly hs
    have hplace := h.inPlace hs
    simp only [SagaOrchestrator.advance, hs]
    cases pc with
    | executeSteps =>
      exact of_saga rfl (horderly.congr rfl rfl)
        (by simp [advanceSaga, SagaOrchestrator.executeSteps, Pc.InPlace])
    | loadContext =>
      exact of_saga hs horderly
        (by simp [advanceSaga, SagaOrchestrator.loadContext, Pc.InPlace])
    | compensateSteps =>
      exact of_saga rfl (horderly.congr rfl rfl)
        (by simp [advanceSaga, SagaOrchestrator.compensateSteps, Pc.InPlace])
    | loadPosition =>
      exact of_saga hs horderly
        (by simp [advanceSaga, SagaOrchestrator.loadPosition, Pc.InPlace])
    | atStep i context =>
      obtain rfl : i = saga.currentStep := hplace
      exact atStep hs horderly context
    | runStep i context =>
      obtain rfl : i = saga.currentStep := hplace
      exact runStep hs horderly context
    | atCompensation remaining failed => exact atCompensation hs horderly failed hplace
    | runCompensation i failed => exact runCompensation hs horderly failed hplace

end InOrder

/-! ### Any number of workers -/

def SagaStore.position (s : SagaStore β ν) : Option ℕ := s.saga.map SagaExecution.currentStep

theorem position_advance {pc : Pc ν} (hpc : pc.forward = false) :
    (o.advance pc s).1.position = s.position := by
  cases hs : s.saga with
  | none => simp [SagaOrchestrator.advance, SagaStore.position, hs]
  | some saga =>
    simp only [SagaOrchestrator.advance, SagaStore.position, hs]
    cases pc with
    | compensateSteps => rfl
    | loadPosition =>
      simp [advanceSaga, SagaOrchestrator.loadPosition, hs]
    | atCompensation remaining failed =>
      simp only [advanceSaga]
      cases remaining with
      | zero => cases failed <;> rfl
      | succ i =>
        rw [SagaOrchestrator.atCompensation]
        split
        · split_ifs <;> simp [SagaStore.put, SagaExecution.withStep, hs]
        · simp [hs]
    | runCompensation i failed =>
      simp only [advanceSaga, SagaOrchestrator.runCompensation]
      split
      · split_ifs <;> rfl
      · simp [hs]
    | _ => simp [Pc.forward] at hpc

theorem forward_advance {pc pc' : Pc ν} (hpc : pc.forward = false)
    (h : (o.advance pc s).2.pc? = some pc') : pc'.forward = false := by
  cases hs : s.saga with
  | none => simp [SagaOrchestrator.advance, hs] at h
  | some saga =>
    simp only [SagaOrchestrator.advance, hs] at h
    cases pc with
    | compensateSteps =>
      obtain rfl : Pc.loadPosition = pc' := Option.some.inj h
      rfl
    | loadPosition =>
      obtain rfl : Pc.atCompensation saga.currentStep false = pc' := Option.some.inj h
      rfl
    | atCompensation remaining failed =>
      simp only [advanceSaga] at h
      cases remaining with
      | zero => simp [SagaOrchestrator.atCompensation] at h
      | succ i =>
        rw [SagaOrchestrator.atCompensation] at h
        split at h
        · split_ifs at h <;> simp at h <;> subst h <;> rfl
        · simp at h
    | runCompensation i failed =>
      simp only [advanceSaga, SagaOrchestrator.runCompensation] at h
      split at h
      · split_ifs at h <;> simp at h <;> subst h <;> rfl
      · simp at h
    | _ => simp [Pc.forward] at hpc

theorem position_start (c : SagaCall β ν) (hs : s.saga = some saga) :
    (c.start o s).1.position = s.position := by
  cases c with
  | execute payload =>
    simp only [SagaCall.start, SagaOrchestrator.execute, hs, handleExistingSaga]
    cases saga.status <;> rfl
  | recoverSaga force =>
    simp only [SagaCall.start, SagaRecoveryService.recoverSaga, hs]
    split_ifs <;> rfl
  | retryCompensation =>
    simp only [SagaCall.start, SagaRecoveryService.retryCompensation, hs]
    split_ifs <;> simp [SagaStore.put, SagaStore.position, hs]
  | markFailed reason =>
    simp [SagaCall.start, SagaRecoveryService.markFailed, SagaStore.put, SagaStore.position, hs]
  | business b => rfl

theorem InOrder.other {s' : SagaStore β ν} {q q' : Option (Pc ν)} (h : InOrder o s q)
    (h' : InOrder o s' q') (hposition : s'.position = s.position) : InOrder o s' q := by
  cases hs' : s'.saga with
  | none =>
    have hs : s.saga = none := by
      rw [SagaStore.position, hs', eq_comm, SagaStore.position] at hposition
      simpa using hposition
    simp only [InOrder, hs', hs] at h h' ⊢
    exact ⟨h'.1, h.2⟩
  | some saga' =>
    obtain ⟨saga, hs, heq⟩ : ∃ saga, s.saga = some saga ∧
        saga.currentStep = saga'.currentStep := by
      rw [SagaStore.position, hs', eq_comm, SagaStore.position] at hposition
      simpa using hposition
    refine of_saga hs' (h'.orderly hs') fun pc hpc => ?_
    subst hpc
    have hplace := h.inPlace hs
    unfold Pc.InPlace at hplace ⊢
    rwa [heq] at hplace

def ForwardAlone (p : Pool (SagaStore β ν) (Pc ν)) : Prop :=
  ∀ w pc, p.workers w = some pc → pc.forward = true → ∀ w', w' ≠ w → p.workers w' = none

structure AllInOrder (o : SagaOrchestrator β ν) (p : Pool (SagaStore β ν) (Pc ν)) : Prop where
  inOrder : ∀ w, InOrder o p.store (p.workers w)
  forwardAlone : ForwardAlone p

/-- A call that goes on executing the saga finds nobody at work on it, and one that goes on
compensating finds nobody executing. -/
def ResumesUndisturbed (o : SagaOrchestrator β ν) (p : Pool (SagaStore β ν) (Pc ν)) :
    Pool.Event (SagaCall β ν) → Prop
  | .call _ c => ∀ pc, (c.start o p.store).2.pc? = some pc →
      ∀ w pc', p.workers w = some pc' → pc.forward = false ∧ pc'.forward = false
  | _ => True

namespace AllInOrder

variable {p : Pool (SagaStore β ν) (Pc ν)} {w : ℕ}

/-- After a transaction of worker `w` that kept the position from those beside it, and went on
only where none of them is in the way. -/
theorem settle {r : Block β ν} (h : AllInOrder o p) (hr : InOrder o r.1 r.2.pc?)
    (hposition : ∀ w' pc', w' ≠ w → p.workers w' = some pc' →
      r.1.position = p.store.position)
    (hundisturbed : ∀ pc, r.2.pc? = some pc → ∀ w' pc', w' ≠ w → p.workers w' = some pc' →
      pc.forward = false ∧ pc'.forward = false) :
    AllInOrder o (p.settle w r) where
  inOrder := by
    intro w'
    by_cases hne : w' = w
    · rw [hne, Pool.settle_self]
      exact hr
    · rw [Pool.settle_of_ne hne]
      have hw' := h.inOrder w'
      cases hpc' : p.workers w' with
      | none => exact hr.crash
      | some pc' =>
        rw [hpc'] at hw'
        exact hw'.other hr (hposition w' pc' hne hpc')
  forwardAlone := by
    intro w₁ pc₁ hw₁ hforward w' hne'
    by_contra hsome
    obtain ⟨pc', hpc'⟩ := Option.ne_none_iff_exists'.mp hsome
    by_cases h₁ : w₁ = w
    · -- the worker itself went on executing
      subst h₁
      rw [Pool.settle_self] at hw₁
      rw [Pool.settle_of_ne hne'] at hpc'
      have hback := (hundisturbed pc₁ hw₁ w' pc' hne' hpc').1
      rw [hforward] at hback
      exact absurd hback (by simp)
    · rw [Pool.settle_of_ne h₁] at hw₁
      by_cases h' : w' = w
      · -- it went on beside one that executes
        subst h'
        rw [Pool.settle_self] at hpc'
        have hback := (hundisturbed pc' hpc' w₁ pc₁ h₁ hw₁).2
        rw [hforward] at hback
        exact absurd hback (by simp)
      · rw [Pool.settle_of_ne h', h.forwardAlone w₁ pc₁ hw₁ hforward w' hne'] at hpc'
        exact absurd hpc' (by simp)

theorem call (h : AllInOrder o p) {c : SagaCall β ν} (hw : p.workers w = none)
    (hc : ResumesUndisturbed o p (.call w c)) :
    AllInOrder o (p.settle w (c.start o p.store)) := by
  have hnone : InOrder o p.store none := hw ▸ h.inOrder w
  refine h.settle (hnone.start c) (fun w' pc' _ hpc' => ?_) fun pc hpc w' pc' _ hpc' =>
    hc pc hpc w' pc' hpc'
  have hbusy := h.inOrder w'
  cases hs : p.store.saga with
  | none =>
    simp only [InOrder, hs, hpc'] at hbusy
    exact absurd hbusy.2 (by simp)
  | some saga => exact position_start c hs

theorem advance (h : AllInOrder o p) {pc : Pc ν} (hw : p.workers w = some pc) :
    AllInOrder o (p.settle w (o.advance pc p.store)) := by
  have horder := h.inOrder w
  rw [hw] at horder
  -- beside another worker, this one and that one compensate
  have hback : ∀ w' pc', w' ≠ w → p.workers w' = some pc' →
      pc.forward = false ∧ pc'.forward = false := by
    intro w' pc' hne hpc'
    refine ⟨?_, ?_⟩ <;> by_contra hforward
    · rw [h.forwardAlone w pc hw (by simpa using hforward) w' hne] at hpc'
      exact absurd hpc' (by simp)
    · rw [h.forwardAlone w' pc' hpc' (by simpa using hforward) w hne.symm] at hw
      exact absurd hw (by simp)
  exact h.settle (InOrder.advance pc horder)
    (fun w' pc' hne hpc' => position_advance (hback w' pc' hne hpc').1)
    fun pc₁ hpc₁ w' pc' hne hpc' =>
      ⟨forward_advance (hback w' pc' hne hpc').1 hpc₁, (hback w' pc' hne hpc').2⟩

theorem crash (h : AllInOrder o p) (w : ℕ) :
    AllInOrder o ⟨p.store, Function.update p.workers w none⟩ where
  inOrder := by
    intro w'
    by_cases hne : w' = w
    · simpa [hne] using (h.inOrder w).crash
    · simpa [hne] using h.inOrder w'
  forwardAlone := by
    intro w₁ pc₁ hw₁ hforward w' hne'
    by_cases h₁ : w₁ = w
    · simp [h₁] at hw₁
    · by_cases h' : w' = w
      · simp [h']
      · simp only [Function.update_of_ne h₁] at hw₁
        simpa [h'] using h.forwardAlone w₁ pc₁ hw₁ hforward w' hne'

theorem apply (h : AllInOrder o p) {e : Pool.Event (SagaCall β ν)}
    (he : ResumesUndisturbed o p e) : AllInOrder o ((sagaProgram o).apply p e) := by
  cases e with
  | call w c =>
    simp only [Program.apply]
    cases hw : p.workers w with
    | some pc => exact h
    | none => exact h.call hw he
  | advance w =>
    simp only [Program.apply]
    cases hw : p.workers w with
    | none => exact h
    | some pc => exact h.advance hw
  | crash w => exact h.crash w

theorem of_quiet (hq : p.Quiet) (h : InOrder o p.store none) : AllInOrder o p where
  inOrder := fun w => by rw [hq w]; exact h
  forwardAlone := fun w pc hw => by
    rw [hq w] at hw
    exact absurd hw (by simp)

theorem takesEffectOnce (h : AllInOrder o p) : TakesEffectOnce p.store.events := by
  have horder := h.inOrder 0
  cases hs : p.store.saga with
  | none =>
    simp only [InOrder, hs] at horder
    rw [horder.1]
    rintro i newer between older hnil
    simp at hnil
  | some saga => exact (horder.orderly hs).takesEffectOnce

theorem not_executingAndCompensating (h : AllInOrder o p) : ¬ ExecutingAndCompensating p := by
  rintro ⟨w, w', pc, pc', hw, hw', hforward, hback⟩
  by_cases hne : w' = w
  · rw [hne, hw] at hw'
    obtain rfl : pc = pc' := Option.some.inj hw'
    rw [hforward] at hback
    exact absurd hback (by simp)
  · rw [h.forwardAlone w pc hw hforward w' hne] at hw'
    exact absurd hw' (by simp)

end AllInOrder

theorem inOrder_initial (s : SagaStore β ν) (h : s.saga = none ∧ s.events = []) :
    InOrder o s none := by
  simp only [InOrder, h.1]
  exact ⟨h.2, trivial⟩

/-- **Each step takes effect at most once**, and the saga is never executed and compensated at
the same time, in every run in which a call that goes on executing the saga finds nobody at work
on it and one that goes on compensating finds nobody executing. -/
theorem saga_steps_once (o : SagaOrchestrator β ν) {p : Pool (SagaStore β ν) (Pc ν)}
    (h : (sagaSystem o).ReachableWithin (ResumesUndisturbed o) p) :
    TakesEffectOnce p.store.events ∧ ¬ ExecutingAndCompensating p := by
  have horder : AllInOrder o p := by
    refine h.invariant (fun p hp => AllInOrder.of_quiet hp.2 (inOrder_initial _ hp.1)) ?_
    rintro p e _ hp he rfl
    exact hp.apply he
  exact ⟨horder.takesEffectOnce, horder.not_executingAndCompensating⟩

/-! ### Overlapping calls -/

def countingSaga : SagaOrchestrator ℕ ℕ where
  steps := [{
    name := "count"
    execute := fun _ _ => do
      modify (· + 1)
      pure { success := true }
    compensate := some fun _ _ => do
      modify (· - 1)
      pure true }]

/-- The second `execute` arrives while the first one is about to call the step's function, and
both go on to the end of the step. -/
def duplicateCalls : List (Pool.Event (SagaCall ℕ ℕ)) :=
  [.call 0 (.execute []), .advance 0, .advance 0, .advance 0,
   .call 1 (.execute []), .advance 1, .advance 1, .advance 1,
   .advance 0, .advance 1]

/-- **A step takes effect twice**: a duplicate `execute` resumes a saga that is in progress, and
the step is executed by both calls. -/
theorem saga_step_executed_twice :
    ¬ ∀ (o : SagaOrchestrator ℕ ℕ) (p : Pool (SagaStore ℕ ℕ) (Pc ℕ)),
      (sagaSystem o).Reachable p → TakesEffectOnce p.store.events ∧
        ¬ ExecutingAndCompensating p := by
  intro h
  have hrun : (sagaSystem countingSaga).Reachable
      ((sagaProgram countingSaga).run (Pool.idle { business := 0 }) duplicateCalls) :=
    reachable_run ⟨rfl, rfl⟩ duplicateCalls
  have honce := (h countingSaga _ hrun).1
  have hevents : ((sagaProgram countingSaga).run (Pool.idle { business := 0 })
      duplicateCalls).store.events = [.completed 0, .completed 0] := by decide +kernel
  rw [hevents] at honce
  have hbetween := honce 0 [] [] [] rfl
  simp at hbetween

def crashAndRecover : List (Pool.Event (SagaCall ℕ ℕ)) :=
  [.call 0 (.execute []), .advance 0, .advance 0, .advance 0, .crash 0,
   .call 1 (.recoverSaga false), .advance 1, .advance 1, .advance 1, .advance 1]

theorem saga_steps_once_sample :
    TakesEffectOnce ((sagaProgram countingSaga).run (Pool.idle { business := 0 })
        crashAndRecover).store.events ∧
      ¬ ExecutingAndCompensating ((sagaProgram countingSaga).run (Pool.idle { business := 0 })
        crashAndRecover) := by
  refine saga_steps_once countingSaga ⟨Pool.idle { business := 0 }, ⟨⟨rfl, rfl⟩, fun _ => rfl⟩,
    runWithin_run ?_⟩
  have hquiet : ((sagaProgram countingSaga).run (Pool.idle { business := 0 })
      (crashAndRecover.take 5)).Quiet := quiet_run (w := 0) (fun _ => rfl) (by decide) rfl
  refine ⟨fun _ _ w pc' hw => ?_, trivial, trivial, trivial, trivial,
    fun _ _ w pc' hw => ?_, trivial, trivial, trivial, trivial, trivial⟩
  · exact absurd hw (by simp [Pool.idle])
  · exact absurd (hw.symm.trans (hquiet w)) (by simp)

end DotmacErp
