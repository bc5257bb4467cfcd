import DotmacErp.Platform.SagaCompensation

/-!
# What a failing step leaves behind

The step that fails is not compensated, and the orchestrator does not roll its session back
before it records the failure: the commit of the step's FAILED row takes along whatever the step
wrote before it raised (`failing_step_leaves_trace`). A saga whose compensations undo their steps
exactly ends where it began if and only if the failing step leaves the session's business state
as it found it (`failed_saga_leaves_no_trace_iff`).

The argument follows the business state in both directions. Forward, the completed steps can be
taken back one by one from where the state is (`Rewinds`); a failure that wrote nothing keeps
that, and the compensation loop then walks the way back.
-/

namespace DotmacErp

open Relational Program

open SagaOrchestrator (attempt attemptCompensation)

variable {β ν : Type} {o : SagaOrchestrator β ν} {saga : SagaExecution ν} {s : SagaStore β ν}
  {i n : ℕ} {b b₀ : β} {q : Option (Pc ν)}

namespace SagaStepDefinition

/-- A step that fails leaves nothing behind. -/
def FailsClean (stepDef : SagaStepDefinition β ν) : Prop :=
  ∀ payload context b, (attempt (stepDef.execute payload context) b).1.success = false →
    (attempt (stepDef.execute payload context) b).2 = b

/-- The compensation of a step that succeeded restores what was there; without one it did
nothing. -/
def ExactlyUndone (stepDef : SagaStepDefinition β ν) : Prop :=
  ∀ payload context b, (attempt (stepDef.execute payload context) b).1.success = true →
    match stepDef.compensate with
    | none => (attempt (stepDef.execute payload context) b).2 = b
    | some compensate =>
      attemptCompensation (compensate payload
          (attempt (stepDef.execute payload context) b).1.compensationData)
        (attempt (stepDef.execute payload context) b).2 = (true, none, b)

end SagaStepDefinition

/-- One call of `execute` on a fresh key, and its worker. -/
def OneExecution : Pool (SagaStore β ν) (Pc ν) → Pool.Event (SagaCall β ν) → Prop :=
  Alone (fun c s => s.saga = none ∧ ∃ payload, c = .execute payload) fun _ _ => False

/-- The saga ended compensated, after its step `n` failed. -/
def SagaStore.CompensatedAfter (n : ℕ) (s : SagaStore β ν) : Prop :=
  ∃ saga step, s.saga = some saga ∧ saga.status = .compensated ∧
    saga.steps[n]? = some step ∧ step.status = .failed

/-! ### The way back -/

/-- Taking back the completed steps below `i` leads from the state to `b₀`. -/
def Rewinds (o : SagaOrchestrator β ν) (saga : SagaExecution ν) (b₀ : β) : ℕ → β → Prop
  | 0, b => b = b₀
  | i + 1, b => ∃ stepDef step, o.steps[i]? = some stepDef ∧ saga.steps[i]? = some step ∧
      step.status = .completed ∧
        match stepDef.compensate with
        | none => Rewinds o saga b₀ i b
        | some compensate => ∃ b', attemptCompensation
            (compensate saga.payload (step.compensationData.getD [])) b = (true, none, b') ∧
              Rewinds o saga b₀ i b'

theorem Rewinds.congr {saga' : SagaExecution ν} (h : Rewinds o saga b₀ i b)
    (hpayload : saga'.payload = saga.payload)
    (hsteps : ∀ j, j < i → saga'.steps[j]? = saga.steps[j]?) : Rewinds o saga' b₀ i b := by
  induction i generalizing b with
  | zero => exact h
  | succ i ih =>
    obtain ⟨stepDef, step, hdef, hstep, hstatus, hback⟩ := h
    have hih : ∀ b, Rewinds o saga b₀ i b → Rewinds o saga' b₀ i b := fun b hb =>
      ih hb fun j hj => hsteps j (Nat.lt_succ_of_lt hj)
    refine ⟨stepDef, step, hdef, (hsteps i (Nat.lt_succ_self i)).trans hstep, hstatus, ?_⟩
    cases hcomp : stepDef.compensate with
    | none =>
      simp only [hcomp] at hback ⊢
      exact hih b hback
    | some compensate =>
      simp only [hcomp] at hback ⊢
      obtain ⟨b', hcall, hrest⟩ := hback
      rw [hpayload]
      exact ⟨b', hcall, hih b' hrest⟩

theorem Rewinds.withStep (h : Rewinds o saga b₀ i b) {j : ℕ} (hj : i ≤ j)
    (f : SagaStep ν → SagaStep ν) : Rewinds o (saga.withStep j f) b₀ i b :=
  h.congr rfl fun _ hk =>
    SagaExecution.getElem?_withStep_of_ne (Nat.ne_of_gt (Nat.lt_of_lt_of_le hk hj)) f

theorem SagaExecution.getElem?_stepCompleted (hlength : i < saga.steps.length)
    (context : Dict ν) (result : StepResult ν) :
    ∃ step, (SagaOrchestrator.stepCompleted saga i context result).steps[i]? = some step ∧
      step.status = .completed ∧ step.compensationData = some result.compensationData := by
  rw [SagaOrchestrator.stepCompleted, SagaExecution.getElem?_withStep,
    List.getElem?_eq_getElem hlength]
  exact ⟨_, rfl, by simp, by simp⟩

theorem Rewinds.stepCompleted {stepDef : SagaStepDefinition β ν} {context : Dict ν}
    (h : Rewinds o saga b₀ i b) (hlength : i < saga.steps.length)
    (hdef : o.steps[i]? = some stepDef) (hundone : stepDef.ExactlyUndone)
    (hsuccess : (attempt (stepDef.execute saga.payload context) b).1.success = true) :
    Rewinds o (SagaOrchestrator.stepCompleted saga i context
        (attempt (stepDef.execute saga.payload context) b).1) b₀ (i + 1)
      (attempt (stepDef.execute saga.payload context) b).2 := by
  have hback := hundone saga.payload context b hsuccess
  have hkeep : Rewinds o (SagaOrchestrator.stepCompleted saga i context
      (attempt (stepDef.execute saga.payload context) b).1) b₀ i b :=
    h.congr rfl fun j hj =>
      SagaExecution.getElem?_withStep_of_ne (Nat.ne_of_gt hj) _
  obtain ⟨step, hstep, hstatus, hdata⟩ :=
    SagaExecution.getElem?_stepCompleted hlength context
      (attempt (stepDef.execute saga.payload context) b).1
  refine ⟨stepDef, step, hdef, hstep, hstatus, ?_⟩
  cases hcomp : stepDef.compensate with
  | none =>
    simp only [hcomp] at hback ⊢
    rw [hback]
    exact hkeep
  | some compensate =>
    simp only [hcomp] at hback ⊢
    rw [hdata]
    exact ⟨b, hback, hkeep⟩

/-! ### The run -/

/-- Step `n` failed. -/
def SagaExecution.FailedAt (saga : SagaExecution ν) (n : ℕ) : Prop :=
  ∃ step, saga.steps[n]? = some step ∧ step.status = .failed

def SagaExecution.NoneFailed (saga : SagaExecution ν) : Prop := ∀ n, ¬ saga.FailedAt n

theorem SagaExecution.failedAt_withStep {f : SagaStep ν → SagaStep ν}
    (hf : ∀ step, saga.steps[i]? = some step → (f step).status = .failed → step.status = .failed)
    (h : (saga.withStep i f).FailedAt n) : saga.FailedAt n := by
  obtain ⟨step', hstep', hstatus⟩ := h
  by_cases hin : i = n
  · subst hin
    rw [SagaExecution.getElem?_withStep, Option.map_eq_some_iff] at hstep'
    obtain ⟨step, hstep, rfl⟩ := hstep'
    rw [if_pos rfl] at hstatus
    exact ⟨step, hstep, hf step hstep hstatus⟩
  · rw [SagaExecution.getElem?_withStep_of_ne hin] at hstep'
    exact ⟨step', hstep', hstatus⟩

/-- How the business state relates to the one before the saga, at a program point: up to step
`n` the completed steps can be taken back, and once that step has failed, the rest of them. -/
def Pc.Retraces (o : SagaOrchestrator β ν) (n : ℕ) (b₀ : β) (saga : SagaExecution ν) (b : β) :
    Pc ν → Prop
  | executeSteps | loadContext | atStep .. | runStep .. =>
    saga.NoneFailed ∧ (saga.currentStep ≤ n → Rewinds o saga b₀ saga.currentStep b)
  | compensateSteps | loadPosition =>
    saga.FailedAt n → Rewinds o saga b₀ saga.currentStep b
  | atCompensation remaining _ => saga.FailedAt n → Rewinds o saga b₀ remaining b
  | runCompensation i _ => saga.FailedAt n → ∃ compensate step b',
      (o.steps[i]?).bind SagaStepDefinition.compensate = some compensate ∧
      saga.steps[i]? = some step ∧
      attemptCompensation (compensate saga.payload (step.compensationData.getD [])) b =
        (true, none, b') ∧ Rewinds o saga b₀ i b'

/-- The business state of the store, under the only worker and after it. -/
def Retraced (o : SagaOrchestrator β ν) (n : ℕ) (b₀ : β) (s : SagaStore β ν)
    (q : Option (Pc ν)) : Prop :=
  match s.saga with
  | none => s.business = b₀
  | some saga =>
    (saga.status = .compensated → q = none ∧ (saga.FailedAt n → s.business = b₀)) ∧
      ∀ pc, q = some pc → pc.Retraces o n b₀ saga s.business

namespace Retraced

theorem of_saga (hs : s.saga = some saga) {pc : Pc ν} (hstatus : saga.status ≠ .compensated)
    (h : pc.Retraces o n b₀ saga s.business) : Retraced o n b₀ s (some pc) := by
  simp only [Retraced, hs]
  refine ⟨fun hc => absurd hc hstatus, ?_⟩
  rintro pc' hpc'
  obtain rfl : pc = pc' := Option.some.inj hpc'
  exact h

theorem gone (hs : s.saga = some saga)
    (h : saga.status = .compensated → saga.FailedAt n → s.business = b₀) :
    Retraced o n b₀ s none := by
  simp only [Retraced, hs]
  exact ⟨fun hc => ⟨trivial, h hc⟩, by simp⟩

theorem not_compensated {pc : Pc ν} (h : Retraced o n b₀ s (some pc)) (hs : s.saga = some saga) :
    saga.status ≠ .compensated := by
  intro hc
  simp only [Retraced, hs] at h
  exact absurd (h.1 hc).1 (by simp)

theorem retraces {pc : Pc ν} (h : Retraced o n b₀ s (some pc)) (hs : s.saga = some saga) :
    pc.Retraces o n b₀ saga s.business := by
  simp only [Retraced, hs] at h
  exact h.2 pc rfl

theorem crash {pc : Pc ν} (h : Retraced o n b₀ s (some pc)) : Retraced o n b₀ s none := by
  cases hs : s.saga with
  | none => simpa only [Retraced, hs] using h
  | some saga => exact gone hs fun hc => absurd hc (h.not_compensated hs)

theorem start (payload : Dict ν) (hs : s.saga = none) (h : Retraced o n b₀ s none) :
    Retraced o n b₀ (o.execute payload s).1 (o.execute payload s).2.pc? := by
  have hbusiness : s.business = b₀ := by simpa only [Retraced, hs] using h
  simp only [SagaOrchestrator.execute, hs]
  refine of_saga rfl (by simp [SagaOrchestrator.newSaga]) ?_
  refine ⟨?_, fun _ => hbusiness⟩
  rintro j ⟨step, hstep, hstatus⟩
  simp only [SagaOrchestrator.newSaga, List.getElem?_map, Option.map_eq_some_iff] at hstep
  obtain ⟨_, _, rfl⟩ := hstep
  simp at hstatus

/-! The transactions of the two loops. -/

variable {context : Dict ν} {failed : Bool}

theorem atStep (hs : s.saga = some saga) (ho : Orderly o saga s.events)
    (h : Retraced o n b₀ s (some (.atStep saga.currentStep context))) :
    Retraced o n b₀ (o.atStep saga saga.currentStep context s).1
      (o.atStep saga saga.currentStep context s).2.pc? := by
  obtain ⟨hnone, hback⟩ := h.retraces hs
  have hnever := h.not_compensated hs
  rw [SagaOrchestrator.atStep]
  split
  · exact gone rfl (by simp)
  · split
    · exact gone hs fun hc => absurd hc (h.not_compensated hs)
    · next step hstep =>
      have hopen : step.status ≠ .completed := fun hc => by
        have hnot := ho.not_reached hstep
        rw [hc] at hnot
        exact absurd hnot (by simp [StepStatus.reached])
      rw [if_neg hopen]
      refine of_saga rfl ?_ ⟨fun j hj => ?_, fun hle => ?_⟩
      · exact hnever
      · exact hnone j (SagaExecution.failedAt_withStep (by simp) hj)
      · exact (hback hle).withStep (Nat.le_refl _) _

theorem runStep {pre post : List (SagaStepDefinition β ν)} {f : SagaStepDefinition β ν}
    (hsteps : o.steps = pre ++ f :: post) (hpre : ∀ d ∈ pre, d.ExactlyUndone)
    (hclean : f.FailsClean) (hs : s.saga = some saga) (ho : Orderly o saga s.events)
    (h : Retraced o pre.length b₀ s (some (.runStep saga.currentStep context))) :
    Retraced o pre.length b₀ (o.runStep saga saga.currentStep context s).1
      (o.runStep saga saga.currentStep context s).2.pc? := by
  obtain ⟨hnone, hback⟩ := h.retraces hs
  have hnever := h.not_compensated hs
  rw [SagaOrchestrator.runStep]
  split
  · exact gone hs fun hc => absurd hc (h.not_compensated hs)
  · next stepDef hdef =>
    have hlength : saga.currentStep < saga.steps.length := by
      have hlt := (List.getElem?_eq_some_iff.mp hdef).1
      have hlen := ho.length
      omega
    simp only
    split_ifs with hsuccess
    · refine of_saga rfl ?_ ⟨fun j hj => ?_, fun hle => ?_⟩
      · exact hnever
      · exact hnone j (SagaExecution.failedAt_withStep (by simp) hj)
      · -- a step before the failing one, which is undone exactly
        have hlt : saga.currentStep < pre.length := hle
        have hmem : stepDef ∈ pre := by
          rw [hsteps, List.getElem?_append_left hlt] at hdef
          exact List.mem_of_getElem? hdef
        exact (hback (Nat.le_of_lt hlt)).stepCompleted hlength hdef (hpre stepDef hmem) hsuccess
    · refine of_saga rfl ?_ fun hfailed => ?_
      · exact hnever
      -- the failing step is the one the position says
      have heq : saga.currentStep = pre.length := by
        by_contra hne
        obtain ⟨step, hstep, hstatus⟩ := hfailed
        rw [SagaOrchestrator.stepFailed, SagaExecution.getElem?_withStep_of_ne hne] at hstep
        exact hnone _ ⟨step, hstep, hstatus⟩
      have hf : f = stepDef := by
        rw [hsteps, heq, List.getElem?_append_right (Nat.le_refl _), Nat.sub_self] at hdef
        exact Option.some.inj hdef
      subst hf
      have hsame := hclean saga.payload context s.business (by simpa using hsuccess)
      simp only [hsame]
      refine (hback (Nat.le_of_eq heq)).congr rfl fun j hj => ?_
      exact SagaExecution.getElem?_withStep_of_ne (Nat.ne_of_gt hj) _

theorem atCompensation {remaining : ℕ} (hs : s.saga = some saga)
    (h : Retraced o n b₀ s (some (.atCompensation remaining failed))) :
    Retraced o n b₀ (o.atCompensation saga failed s remaining).1
      (o.atCompensation saga failed s remaining).2.pc? := by
  have hback : saga.FailedAt n → Rewinds o saga b₀ remaining s.business := h.retraces hs
  have hopen := h.not_compensated hs
  cases remaining with
  | zero =>
    rw [SagaOrchestrator.atCompensation]
    refine gone rfl fun _ hfailed => hback ?_
    cases failed <;> exact hfailed
  | succ i =>
    rw [SagaOrchestrator.atCompensation]
    split
    · next stepDef step hdef hstep =>
      have hunfold : ∀ hfailed : saga.FailedAt n, step.status = .completed ∧
          match stepDef.compensate with
          | none => Rewinds o saga b₀ i s.business
          | some compensate => ∃ b', attemptCompensation
              (compensate saga.payload (step.compensationData.getD [])) s.business =
                (true, none, b') ∧ Rewinds o saga b₀ i b' := by
        intro hfailed
        obtain ⟨stepDef', step', hdef', hstep', hstatus, hrest⟩ := hback hfailed
        obtain rfl : stepDef = stepDef' := Option.mem_unique hdef hdef'
        obtain rfl : step = step' := Option.mem_unique hstep hstep'
        exact ⟨hstatus, hrest⟩
      split_ifs with hcompleted hread
      · exact of_saga hs hopen fun hfailed => absurd (hunfold hfailed).1 hcompleted
      · refine of_saga rfl ?_ fun hfailed => ?_
        · exact hopen
        have hrest := (hunfold (SagaExecution.failedAt_withStep (by simp) hfailed)).2
        simp only [Option.isNone_iff_eq_none.mp hread] at hrest
        exact hrest.withStep (Nat.le_refl _) _
      · refine of_saga rfl ?_ fun hfailed => ?_
        · exact hopen
        have hrest := (hunfold (SagaExecution.failedAt_withStep (by simp) hfailed)).2
        obtain ⟨compensate, hcomp⟩ : ∃ compensate, stepDef.compensate = some compensate := by
          cases hc : stepDef.compensate with
          | none => simp [hc] at hread
          | some compensate => exact ⟨compensate, rfl⟩
        simp only [hcomp] at hrest
        obtain ⟨b', hcall, hrest⟩ := hrest
        refine ⟨compensate, { step with status := .compensating }, b', ?_, ?_, hcall,
          hrest.withStep (Nat.le_refl _) _⟩
        · rw [hdef]
          exact hcomp
        · simp [SagaExecution.getElem?_withStep, hstep]
    · exact gone hs fun hc => absurd hc hopen

theorem runCompensation (hs : s.saga = some saga)
    (h : Retraced o n b₀ s (some (.runCompensation i failed))) :
    Retraced o n b₀ (o.runCompensation saga i failed s).1
      (o.runCompensation saga i failed s).2.pc? := by
  have hback := h.retraces hs
  have hopen := h.not_compensated hs
  rw [SagaOrchestrator.runCompensation]
  split
  · next compensate step hcomp hstep =>
    have hunfold : saga.FailedAt n → ∃ b',
        attemptCompensation (compensate saga.payload (step.compensationData.getD [])) s.business =
          (true, none, b') ∧ Rewinds o saga b₀ i b' := by
      intro hfailed
      obtain ⟨compensate', step', b', hcomp', hstep', hcall, hrest⟩ := hback hfailed
      obtain rfl : compensate = compensate' := Option.mem_unique hcomp hcomp'
      obtain rfl : step = step' := Option.mem_unique hstep hstep'
      exact ⟨b', hcall, hrest⟩
    simp only
    split_ifs with hsuccess
    · refine of_saga rfl ?_ fun hfailed => ?_
      · exact hopen
      obtain ⟨b', hcall, hrest⟩ := hunfold (SagaExecution.failedAt_withStep (by simp) hfailed)
      simp only [hcall]
      exact hrest.withStep (Nat.le_refl _) _
    · refine of_saga rfl ?_ fun hfailed => ?_
      · exact hopen
      have hold : saga.FailedAt n := by
        refine SagaExecution.failedAt_withStep (fun _ _ hstatus => ?_) hfailed
        exact hstatus
      obtain ⟨b', hcall, _⟩ := hunfold hold
      rw [hcall] at hsuccess
      exact absurd rfl hsuccess
  · exact gone hs fun hc => absurd hc hopen

theorem advance {pre post : List (SagaStepDefinition β ν)} {f : SagaStepDefinition β ν}
    (hsteps : o.steps = pre ++ f :: post) (hpre : ∀ d ∈ pre, d.ExactlyUndone)
    (hclean : f.FailsClean) {pc : Pc ν} (horder : InOrder o s (some pc))
    (h : Retraced o pre.length b₀ s (some pc)) :
    Retraced o pre.length b₀ (o.advance pc s).1 (o.advance pc s).2.pc? := by
  cases hs : s.saga with
  | none =>
    simp only [InOrder, hs] at horder
    exact absurd horder.2 (by simp)
  | some saga =>
    have ho := horder.orderly hs
    have hplace := horder.inPlace hs
    have hopen := h.not_compensated hs
    have hback := h.retraces hs
    simp only [SagaOrchestrator.advance, hs]
    cases pc with
    | executeSteps =>
      have hclosed : { saga with status := .executing }.status ≠ .compensated := by simp
      refine of_saga rfl hclosed ⟨hback.1, fun hle => ?_⟩
      exact (hback.2 hle).congr rfl fun _ _ => rfl
    | loadContext => exact of_saga hs hopen hback
    | atStep i context =>
      obtain rfl : i = saga.currentStep := hplace
      exact atStep hs ho h
    | runStep i context =>
      obtain rfl : i = saga.currentStep := hplace
      exact runStep hsteps hpre hclean hs ho h
    | compensateSteps =>
      refine of_saga rfl (by simp) fun hfailed => ?_
      exact (hback hfailed).congr rfl fun _ _ => rfl
    | loadPosition => exact of_saga hs hopen hback
    | atCompensation remaining failed => exact atCompensation hs h
    | runCompensation i failed => exact runCompensation hs h

theorem keepsAlone {pre post : List (SagaStepDefinition β ν)} {f : SagaStepDefinition β ν}
    (hsteps : o.steps = pre ++ f :: post) (hpre : ∀ d ∈ pre, d.ExactlyUndone)
    (hclean : f.FailsClean) (b₀ : β) :
    (sagaProgram o).KeepsAlone (fun c s => s.saga = none ∧ ∃ payload, c = .execute payload)
      (fun _ _ => False) fun s q => InOrder o s q ∧ Retraced o pre.length b₀ s q where
  start := by
    rintro c s ⟨hs, payload, rfl⟩ ⟨horder, h⟩
    exact ⟨horder.start _, h.start payload hs⟩
  beside := fun _ _ _ hfalse => hfalse.elim
  advance := fun pc _ h => ⟨h.1.advance pc, h.2.advance hsteps hpre hclean h.1⟩
  crash := fun _ _ h => ⟨h.1.crash, h.2.crash⟩

end Retraced

/-! ### A step that leaves something -/

def announce (context : Dict ν) : SagaStepDefinition β ν where
  name := "announce"
  execute := fun _ _ => pure { success := true, outputData := context }

theorem attempt_pure (r : StepResult ν) (b : β) : attempt (pure r) b = (r, b) := rfl

theorem announce_exactlyUndone (context : Dict ν) :
    (announce context : SagaStepDefinition β ν).ExactlyUndone := fun _ _ _ _ => rfl

def failingSaga (context : Dict ν) (f : SagaStepDefinition β ν) : SagaOrchestrator β ν where
  steps := [announce context, f]

theorem failingSaga_business {f : SagaStepDefinition β ν} {payload context : Dict ν} {b : β}
    (hfail : (attempt (f.execute payload context) b).1.success = false) :
    ((sagaProgram (failingSaga context f)).run (Pool.idle { business := b })
        (.call 0 (.execute payload) :: List.replicate 10 (.advance 0))).store.CompensatedAfter 1 ∧
      ((sagaProgram (failingSaga context f)).run (Pool.idle { business := b })
        (.call 0 (.execute payload) :: List.replicate 10 (.advance 0))).store.business =
          (attempt (f.execute payload context) b).2 := by
  simp [Program.run, Program.apply, Pool.settle, Pool.idle, sagaProgram, SagaCall.start,
    SagaOrchestrator.execute, SagaOrchestrator.newSaga, SagaOrchestrator.advance, List.replicate,
    SagaOrchestrator.advanceSaga, SagaOrchestrator.executeSteps, SagaOrchestrator.loadContext,
    SagaOrchestrator.atStep, SagaOrchestrator.runStep, failingSaga, announce, SagaStore.put,
    SagaOrchestrator.compensateSteps, SagaOrchestrator.loadPosition, Dict.update,
    SagaOrchestrator.atCompensation, SagaExecution.withStep, SagaOrchestrator.stepCompleted,
    SagaOrchestrator.stepFailed, SagaOrchestrator.settled, SagaStore.CompensatedAfter, attempt_pure,
    hfail]

/-! ### The result -/

/-- **A failed saga leaves no trace of the failing step** if and only if the step fails clean:
whatever the saga, with the steps before the failing one exactly undone, and whatever its
payload, when one execution of it ends compensated the business state is the one it started
from. -/
theorem failed_saga_leaves_no_trace_iff (f : SagaStepDefinition β ν) :
    f.FailsClean ↔ ∀ (o : SagaOrchestrator β ν) (pre post : List (SagaStepDefinition β ν)),
      o.steps = pre ++ f :: post → (∀ d ∈ pre, d.ExactlyUndone) →
        ∀ (b₀ : β) (p : Pool (SagaStore β ν) (Pc ν)),
          (sagaSystem o).RunWithin OneExecution (Pool.idle { business := b₀ }) p →
            p.store.CompensatedAfter pre.length → p.store.business = b₀ := by
  constructor
  · intro hclean o pre post hsteps hpre b₀ p hrun hend
    have hstart : HoldsAlone (fun s q => InOrder o s q ∧ Retraced o pre.length b₀ s q)
        (Pool.idle { business := b₀ }) :=
      .quiet (fun _ => rfl) ⟨inOrder_initial _ ⟨rfl, rfl⟩, rfl⟩
    have hholds := hrun.preserves (fun p e p' hp he hstep => by
      rw [show p' = (sagaProgram o).apply p e from hstep]
      exact (Retraced.keepsAlone hsteps hpre hclean b₀).apply hp he) hstart
    refine hholds.store (I := fun s => s.CompensatedAfter pre.length → s.business = b₀) ?_ hend
    rintro s q ⟨_, h⟩ ⟨saga, step, hs, hstatus, hstep, hfailed⟩
    simp only [Retraced, hs] at h
    exact (h.1 hstatus).2 ⟨step, hstep, hfailed⟩
  · intro h payload context b hfail
    obtain ⟨hend, hbusiness⟩ := failingSaga_business hfail
    rw [← hbusiness]
    have hallowed : (sagaProgram (failingSaga context f)).AllowedAlong OneExecution
        (Pool.idle { business := b })
        (.call 0 (.execute payload) :: List.replicate 10 (.advance 0)) :=
      alone_call (fun _ => rfl) ⟨rfl, payload, rfl⟩ 10
    refine h (failingSaga context f) [announce context] [] rfl ?_ b _ (runWithin_run hallowed) hend
    intro d hd
    rw [List.mem_singleton.mp hd]
    exact announce_exactlyUndone context

def carelessStep : SagaStepDefinition ℕ ℕ where
  name := "reserve"
  execute := fun _ _ => do
    modify (· + 1)
    throw "declined"
  compensate := some fun _ _ => pure true

/-- **The failing step leaves a trace**: its write is committed with its FAILED row, and the
compensated saga ends in another state than it started from. -/
theorem failing_step_leaves_trace :
    ¬ ∀ (o : SagaOrchestrator ℕ ℕ) (n : ℕ), (∀ d ∈ o.steps, d.ExactlyUndone) →
      ∀ (b₀ : ℕ) (p : Pool (SagaStore ℕ ℕ) (Pc ℕ)),
        (sagaSystem o).RunWithin OneExecution (Pool.idle { business := b₀ }) p →
          p.store.CompensatedAfter n → p.store.business = b₀ := by
  intro h
  have hfail : (attempt (carelessStep.execute [] []) 0).1.success = false := by decide
  obtain ⟨hend, hbusiness⟩ := failingSaga_business hfail
  have hallowed : (sagaProgram (failingSaga [] carelessStep)).AllowedAlong OneExecution
      (Pool.idle { business := 0 })
      (.call 0 (.execute []) :: List.replicate 10 (.advance 0)) :=
    alone_call (fun _ => rfl) ⟨rfl, [], rfl⟩ 10
  have hundone : ∀ d ∈ (failingSaga [] carelessStep).steps, d.ExactlyUndone := by
    intro d hd
    have hcases : d = announce [] ∨ d = carelessStep := by simpa [failingSaga] using hd
    rcases hcases with rfl | rfl
    · exact announce_exactlyUndone []
    · -- it never succeeds
      intro payload context b hsuccess
      have hnever : (attempt (carelessStep.execute payload context) b).1.success = false := rfl
      rw [hnever] at hsuccess
      exact absurd hsuccess (by simp)
  have hsame := h _ 1 hundone 0 _ (runWithin_run hallowed) hend
  rw [hbusiness] at hsame
  exact absurd hsame (by decide)

end DotmacErp
