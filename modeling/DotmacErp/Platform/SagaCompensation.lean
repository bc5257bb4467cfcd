import DotmacErp.Platform.SagaOrder

/-!
# Compensated means undone

A step's row says COMPENSATING from before its compensation is called until the compensation has
succeeded. The compensation loop only looks at rows that say COMPLETED, and so does
`retry_compensation`, so a compensation that failed or was cut short is never called again: the
next pass skips its step and declares the saga compensated (`saga_compensated_not_undone`).

A pass that starts with no step left compensating does what it says. What a pass has done so far
is `Settling`: below the current position nothing is settled yet, and from it on every step is
compensated, unless some compensation failed in this pass.
-/

namespace DotmacErp

open Relational Program

variable {β ν : Type} {o : SagaOrchestrator β ν} {saga : SagaExecution ν} {s : SagaStore β ν}
  {events : List StepEvent} {i : ℕ} {q : Option (Pc ν)}

def CompensatedSince (i : ℕ) (events : List StepEvent) : Prop :=
  ∃ newer older, events = newer ++ .compensated i :: older ∧
    .completed i ∉ newer ∧ .completed i ∈ older

/-- Every completed step that can be compensated was compensated after it. -/
def AllUndone (o : SagaOrchestrator β ν) (events : List StepEvent) : Prop :=
  ∀ i stepDef, o.steps[i]? = some stepDef → stepDef.compensate.isSome →
    .completed i ∈ events → CompensatedSince i events

theorem CompensatedSince.cons {e : StepEvent} (h : CompensatedSince i events)
    (he : e ≠ .completed i) : CompensatedSince i (e :: events) := by
  obtain ⟨newer, older, rfl, hnewer, holder⟩ := h
  refine ⟨e :: newer, older, rfl, fun hmem => ?_, holder⟩
  rcases List.mem_cons.mp hmem with heq | hold
  · exact he heq.symm
  · exact hnewer hold

/-! ### What a pass finds, and what it has done -/

namespace SagaExecution

def AllCompleted (saga : SagaExecution ν) : Prop :=
  ∀ i step, saga.steps[i]? = some step → i < saga.currentStep → step.status = .completed

def NoneCompensating (saga : SagaExecution ν) : Prop :=
  ∀ (i : ℕ) (step : SagaStep ν), saga.steps[i]? = some step → step.status ≠ .compensating

/-- A pass of the compensation loop: the steps below `todo` are still to be looked at, and those
from `done` on have been compensated, or one of them failed to be. -/
def Settling (saga : SagaExecution ν) (todo done : ℕ) (failed : Bool) : Prop :=
  ∀ i step, saga.steps[i]? = some step → i < saga.currentStep →
    (i < todo → step.status = .completed ∨ step.status = .compensated) ∧
      (done ≤ i → step.status = .compensated ∨ failed = true)

def Closed (saga : SagaExecution ν) : Prop :=
  saga.status ≠ .pending ∧ saga.status ≠ .executing

theorem AllCompleted.settling (h : saga.AllCompleted) :
    saga.Settling saga.currentStep saga.currentStep false := by
  intro i step hstep hlt
  exact ⟨fun _ => Or.inl (h i step hstep hlt), fun hge => absurd hlt (Nat.not_lt.mpr hge)⟩

theorem AllCompleted.withStep (h : saga.AllCompleted) (hi : saga.currentStep ≤ i)
    (f : SagaStep ν → SagaStep ν) : (saga.withStep i f).AllCompleted := by
  intro j step hstep hlt
  have hij : i ≠ j := Nat.ne_of_gt (Nat.lt_of_lt_of_le hlt hi)
  rw [getElem?_withStep_of_ne hij] at hstep
  exact h j step hstep hlt

theorem NoneCompensating.settling (h : saga.NoneCompensating) (ho : Orderly o saga events) :
    saga.Settling saga.currentStep saga.currentStep false := by
  intro i step hstep hlt
  refine ⟨fun _ => ?_, fun hge => absurd hlt (Nat.not_lt.mpr hge)⟩
  have hreached := (ho.reached i step hstep).mpr hlt
  have hnot := h i step hstep
  cases hstatus : step.status <;> simp_all [StepStatus.reached]

end SagaExecution

/-- What a program point relies on. -/
def Pc.Faces (saga : SagaExecution ν) : Pc ν → Prop
  | executeSteps | loadContext | atStep .. | runStep .. => saga.AllCompleted
  | compensateSteps => saga.Settling saga.currentStep saga.currentStep false
  | loadPosition => saga.Settling saga.currentStep saga.currentStep false ∧ saga.Closed
  | atCompensation remaining failed => saga.Settling remaining remaining failed ∧ saga.Closed
  | runCompensation i failed => saga.Settling i (i + 1) failed ∧ saga.Closed

/-- The account of a saga: a compensated row was compensated, a saga that may still be executed
has nothing compensated, and a compensated saga has nothing else. -/
structure Accounted (o : SagaOrchestrator β ν) (saga : SagaExecution ν) (events : List StepEvent)
    (q : Option (Pc ν)) : Prop where
  undone : ∀ i stepDef step, o.steps[i]? = some stepDef → saga.steps[i]? = some step →
    stepDef.compensate.isSome → step.status = .compensated → CompensatedSince i events
  executable : saga.status = .pending ∨ saga.status = .executing → saga.AllCompleted
  compensated : saga.status = .compensated → q = none ∧ saga.Settling 0 0 false
  faces : ∀ pc, q = some pc → pc.Faces saga

/-- The saga of the store is accounted for. -/
def SagaStore.Accounted (o : SagaOrchestrator β ν) (s : SagaStore β ν) (q : Option (Pc ν)) :
    Prop :=
  ∀ saga, s.saga = some saga → DotmacErp.Accounted o saga s.events q

/-! ### The calls -/

def SagaCall.compensates (saga : SagaExecution ν) : SagaCall β ν → Bool
  | execute _ => saga.status = .compensating
  | recoverSaga forceCompensate =>
    !saga.status.terminal && (forceCompensate || saga.status = .compensating)
  | retryCompensation => saga.status = .failed
  | markFailed _ | business _ => false

/-- The call compensates no saga of which a step is being compensated already. -/
def SagaCall.FindsNoneCompensating (c : SagaCall β ν) (s : SagaStore β ν) : Prop :=
  ∀ saga, s.saga = some saga → c.compensates saga = true → saga.NoneCompensating

/-- The call returns at once and changes no more than the business. -/
def SagaCall.Harmless (o : SagaOrchestrator β ν) (c : SagaCall β ν) (s : SagaStore β ν) : Prop :=
  ∃ b reply, c.start o s = ({ s with business := b }, .returned reply)

namespace Accounted

theorem withStatus {saga' : SagaExecution ν} {q' : Option (Pc ν)} (h : Accounted o saga events q)
    (hsteps : saga'.steps = saga.steps)
    (hexecutable : saga'.status = .pending ∨ saga'.status = .executing → saga'.AllCompleted)
    (hcompensated : saga'.status = .compensated → q' = none ∧ saga'.Settling 0 0 false)
    (hfaces : ∀ pc, q' = some pc → pc.Faces saga') : Accounted o saga' events q' :=
  ⟨by simpa only [hsteps] using h.undone, hexecutable, hcompensated, hfaces⟩

theorem goOn {pc pc' : Pc ν} (h : Accounted o saga events (some pc)) (hfaces : pc'.Faces saga) :
    Accounted o saga events (some pc') := by
  refine ⟨h.undone, h.executable, fun hc => absurd (h.compensated hc).1 (by simp), ?_⟩
  rintro pc₁ hpc₁
  obtain rfl : pc' = pc₁ := Option.some.inj hpc₁
  exact hfaces

theorem gone (h : Accounted o saga events q) : Accounted o saga events none :=
  ⟨h.undone, h.executable, fun hc => ⟨rfl, (h.compensated hc).2⟩, by simp⟩

theorem not_compensated {pc : Pc ν} (h : Accounted o saga events (some pc)) :
    saga.status ≠ .compensated := fun hc => absurd (h.compensated hc).1 (by simp)

theorem of_saga (hs : s.saga = some saga) (h : Accounted o saga s.events q) :
    s.Accounted o q := by
  rintro saga' hs'
  obtain rfl : saga = saga' := Option.mem_unique hs hs'
  exact h

theorem start (hs : s.saga = some saga) (ho : Orderly o saga s.events)
    (h : Accounted o saga s.events none) {c : SagaCall β ν}
    (hc : c.compensates saga = true → saga.NoneCompensating) :
    (c.start o s).1.Accounted o (c.start o s).2.pc? := by
  have hready : c.compensates saga = true → saga.status ≠ .compensated →
      Accounted o saga s.events (some .compensateSteps) := by
    intro hcomp hne
    refine h.withStatus rfl h.executable (fun hcd => absurd hcd hne) ?_
    rintro pc hpc
    obtain rfl : Pc.compensateSteps = pc := Option.some.inj hpc
    exact (hc hcomp).settling ho
  have hexecute : saga.status = .pending ∨ saga.status = .executing →
      Accounted o saga s.events (some .executeSteps) := by
    intro hopen
    refine h.withStatus rfl h.executable
      (fun hcd => by rw [hcd] at hopen; exact absurd hopen (by simp)) ?_
    rintro pc hpc
    obtain rfl : Pc.executeSteps = pc := Option.some.inj hpc
    exact h.executable hopen
  cases c with
  | execute payload =>
    simp only [SagaCall.start, SagaOrchestrator.execute, hs, SagaOrchestrator.handleExistingSaga]
    cases hstatus : saga.status with
    | compensating =>
      exact of_saga hs (hready (by simp [SagaCall.compensates, hstatus]) (by simp [hstatus]))
    | pending | executing => exact of_saga hs (hexecute (by simp [hstatus]))
    | completed | compensated | failed => exact of_saga hs h
  | recoverSaga force =>
    simp only [SagaCall.start, SagaRecoveryService.recoverSaga, hs]
    split_ifs with hterminal hforce
    · exact of_saga hs h
    · refine of_saga hs (hready ?_ fun hcd => hterminal (by rw [hcd]; rfl))
      simpa [SagaCall.compensates, hterminal] using hforce
    · refine of_saga hs (hexecute ?_)
      cases hstatus : saga.status <;> simp_all [SagaStatus.terminal]
  | retryCompensation =>
    simp only [SagaCall.start, SagaRecoveryService.retryCompensation, hs]
    split_ifs with hfailed hcount
    · exact of_saga hs h
    · -- nothing is completed and nothing compensating, so everything is compensated
      have hnone := hc (by simpa [SagaCall.compensates] using hfailed)
      refine of_saga rfl (h.withStatus rfl (by simp) (fun _ => ⟨rfl, ?_⟩) (by simp))
      intro j step hstep hlt
      have hsettling := (hnone.settling ho j step hstep hlt).1 hlt
      have hnot : step.status ≠ .completed := by
        have hzero := List.countP_eq_zero.mp hcount step (List.mem_of_getElem? hstep)
        simpa using hzero
      exact ⟨fun hj => absurd hj (Nat.not_lt_zero j),
        fun _ => Or.inl (hsettling.resolve_left hnot)⟩
    · have hnone := hc (by simpa [SagaCall.compensates] using hfailed)
      refine of_saga rfl (h.withStatus rfl (by simp) (by simp) ?_)
      rintro pc hpc
      obtain rfl : Pc.compensateSteps = pc := Option.some.inj hpc
      exact hnone.settling ho
  | markFailed reason =>
    simp only [SagaCall.start, SagaRecoveryService.markFailed, hs]
    exact of_saga rfl (h.withStatus rfl (by simp) (by simp) (by simp))
  | business b => exact of_saga hs h

theorem newSaga (payload : Dict ν) :
    Accounted o (o.newSaga payload) events (some .executeSteps) := by
  have hcompleted : (o.newSaga payload).AllCompleted := fun _ _ _ hlt =>
    absurd hlt (Nat.not_lt_zero _)
  refine ⟨?_, fun _ => hcompleted, by simp [SagaOrchestrator.newSaga], ?_⟩
  · intro i stepDef step _ hstep _ hcompensated
    simp only [SagaOrchestrator.newSaga, List.getElem?_map, Option.map_eq_some_iff] at hstep
    obtain ⟨_, _, rfl⟩ := hstep
    simp at hcompensated
  · rintro pc hpc
    obtain rfl : Pc.executeSteps = pc := Option.some.inj hpc
    exact hcompleted

/-! ### The transactions of the two loops -/

theorem step {saga' : SagaExecution ν} {pc' : Pc ν} {f : SagaStep ν → SagaStep ν}
    {events' : List StepEvent} (h : Accounted o saga events q)
    (hsteps : saga'.steps = (saga.withStep i f).steps)
    (hundone : ∀ stepDef step, o.steps[i]? = some stepDef → saga.steps[i]? = some step →
      stepDef.compensate.isSome → (f step).status = .compensated → CompensatedSince i events')
    (hkeep : ∀ j, CompensatedSince j events → i ≠ j → CompensatedSince j events')
    (hexecutable : saga'.status = .pending ∨ saga'.status = .executing → saga'.AllCompleted)
    (hstatus : saga'.status ≠ .compensated) (hfaces : pc'.Faces saga') :
    Accounted o saga' events' (some pc') where
  undone := by
    intro j stepDef step' hdef hstep' hsome hcompensated
    rw [hsteps] at hstep'
    by_cases hij : i = j
    · subst hij
      rw [SagaExecution.getElem?_withStep, Option.map_eq_some_iff] at hstep'
      obtain ⟨step, hstep, rfl⟩ := hstep'
      rw [if_pos rfl] at hcompensated
      exact hundone stepDef step hdef hstep hsome hcompensated
    · rw [SagaExecution.getElem?_withStep_of_ne hij] at hstep'
      exact hkeep j (h.undone j stepDef step' hdef hstep' hsome hcompensated) hij
  executable := hexecutable
  compensated := fun hc => absurd hc hstatus
  faces := by
    rintro pc hpc
    obtain rfl : pc' = pc := Option.some.inj hpc
    exact hfaces

/-- Beside the row of step `i`, a pass changes nothing. -/
theorem settling_withStep {f : SagaStep ν → SagaStep ν} {todo done todo' done' : ℕ}
    {failed failed' : Bool} (h : saga.Settling todo done failed)
    (hi : ∀ step, saga.steps[i]? = some step → i < saga.currentStep →
      (i < todo' → (f step).status = .completed ∨ (f step).status = .compensated) ∧
        (done' ≤ i → (f step).status = .compensated ∨ failed' = true))
    (htodo : ∀ j, j ≠ i → j < todo' → j < todo) (hdone : ∀ j, j ≠ i → done' ≤ j → done ≤ j)
    (hfailed : failed = true → failed' = true) :
    (saga.withStep i f).Settling todo' done' failed' := by
  intro j step' hstep' hlt
  by_cases hij : i = j
  · subst hij
    rw [SagaExecution.getElem?_withStep, Option.map_eq_some_iff] at hstep'
    obtain ⟨step, hstep, rfl⟩ := hstep'
    rw [if_pos rfl]
    exact hi step hstep hlt
  · rw [SagaExecution.getElem?_withStep_of_ne hij] at hstep'
    obtain ⟨hbelow, habove⟩ := h j step' hstep' hlt
    refine ⟨fun hj => hbelow (htodo j (Ne.symm hij) hj), fun hj => ?_⟩
    exact (habove (hdone j (Ne.symm hij) hj)).imp_right hfailed

theorem atStep {context : Dict ν} (hs : s.saga = some saga) (ho : Orderly o saga s.events)
    (h : Accounted o saga s.events (some (.atStep saga.currentStep context))) :
    (o.atStep saga saga.currentStep context s).1.Accounted o
      (o.atStep saga saga.currentStep context s).2.pc? := by
  have hcompleted : saga.AllCompleted := h.faces _ rfl
  rw [SagaOrchestrator.atStep]
  split
  · exact of_saga rfl (h.withStatus rfl (by simp) (by simp) (by simp))
  · split
    · exact of_saga hs h.gone
    · next step hstep =>
      have hopen : step.status ≠ .completed := fun hc => by
        have hnot := ho.not_reached hstep
        rw [hc] at hnot
        exact absurd hnot (by simp [StepStatus.reached])
      rw [if_neg hopen]
      have hkeep := hcompleted.withStep (Nat.le_refl _) fun step =>
        { step with status := .executing }
      exact of_saga rfl (h.step rfl (by simp) (fun _ hj _ => hj) (fun _ => hkeep)
        h.not_compensated hkeep)

theorem runStep {context : Dict ν} (hs : s.saga = some saga)
    (h : Accounted o saga s.events (some (.runStep saga.currentStep context))) :
    (o.runStep saga saga.currentStep context s).1.Accounted o
      (o.runStep saga saga.currentStep context s).2.pc? := by
  have hcompleted : saga.AllCompleted := h.faces _ rfl
  rw [SagaOrchestrator.runStep]
  split
  · exact of_saga hs h.gone
  · next stepDef hdef =>
    simp only
    split_ifs
    · -- the step at the position joins the completed ones
      have hjoin : (SagaOrchestrator.stepCompleted saga saga.currentStep context
          (SagaOrchestrator.attempt (stepDef.execute saga.payload context)
            s.business).1).AllCompleted := by
        intro j step' hstep' hlt
        rw [SagaOrchestrator.stepCompleted, SagaExecution.getElem?_withStep,
          Option.map_eq_some_iff] at hstep'
        obtain ⟨step, hstep, rfl⟩ := hstep'
        by_cases hj : saga.currentStep = j
        · rw [if_pos hj]
        · rw [if_neg hj]
          have hle : j ≤ saga.currentStep := Nat.le_of_lt_succ hlt
          exact hcompleted j step hstep (by omega)
      refine of_saga rfl (h.step rfl (by simp) (fun j hj hne => ?_) (fun _ => hjoin)
        h.not_compensated hjoin)
      exact hj.cons (by simpa using hne)
    · have hkeep := hcompleted.withStep (Nat.le_refl _) fun step => { step with
        status := .failed
        errorMessage := (SagaOrchestrator.attempt (stepDef.execute saga.payload context)
          s.business).1.error }
      exact of_saga rfl (h.step rfl (by simp) (fun _ hj _ => hj) (fun _ => hkeep)
        h.not_compensated hkeep.settling)

theorem atCompensation {remaining : ℕ} {failed : Bool} (hs : s.saga = some saga)
    (hle : remaining ≤ saga.currentStep)
    (h : Accounted o saga s.events (some (.atCompensation remaining failed))) :
    (o.atCompensation saga failed s remaining).1.Accounted o
      (o.atCompensation saga failed s remaining).2.pc? := by
  obtain ⟨hsettling, hclosed⟩ : saga.Settling remaining remaining failed ∧ saga.Closed :=
    h.faces _ rfl
  have hnever : ¬ (saga.status = .pending ∨ saga.status = .executing) := by
    simpa [SagaExecution.Closed] using hclosed
  cases remaining with
  | zero =>
    rw [SagaOrchestrator.atCompensation]
    cases failed with
    | false => exact of_saga rfl (h.withStatus rfl (by simp [SagaOrchestrator.settled])
        (fun _ => ⟨rfl, hsettling⟩) (by simp))
    | true => exact of_saga rfl (h.withStatus rfl (by simp [SagaOrchestrator.settled])
        (by simp [SagaOrchestrator.settled]) (by simp))
  | succ i =>
    have hlt : i < saga.currentStep := hle
    rw [SagaOrchestrator.atCompensation]
    split
    · next stepDef step hdef hstep =>
      split_ifs with hcompleted hread
      · -- a step that is not completed is compensated already
        have hdone : step.status = .compensated :=
          ((hsettling i step hstep hlt).1 (Nat.lt_succ_self i)).resolve_left hcompleted
        refine of_saga hs (h.goOn ⟨fun j step' hstep' hlt' => ?_, hclosed⟩)
        obtain ⟨hbelow, habove⟩ := hsettling j step' hstep' hlt'
        refine ⟨fun hj => hbelow (Nat.lt_succ_of_lt hj), fun hj => ?_⟩
        rcases Nat.eq_or_lt_of_le hj with rfl | hj
        · obtain rfl : step = step' := Option.mem_unique hstep hstep'
          exact Or.inl hdone
        · exact habove hj
      · refine of_saga rfl (h.step rfl (fun stepDef' _ hdef' _ hsome => ?_) (fun _ hj _ => hj)
          (fun hopen => absurd hopen hnever) h.not_compensated
          ⟨settling_withStep hsettling (fun _ _ _ => ⟨fun _ => Or.inr rfl, fun _ => Or.inl rfl⟩)
            (by omega) (by omega) id, hclosed⟩)
        obtain rfl : stepDef = stepDef' := Option.mem_unique hdef hdef'
        simp [Option.isNone_iff_eq_none.mp hread] at hsome
      · refine of_saga rfl (h.step rfl (by simp) (fun _ hj _ => hj)
          (fun hopen => absurd hopen hnever) h.not_compensated
          ⟨settling_withStep hsettling (fun _ _ _ => ⟨by omega, by omega⟩)
            (by omega) (by omega) id, hclosed⟩)
    · exact of_saga hs h.gone

theorem runCompensation {failed : Bool} (hs : s.saga = some saga)
    (ho : Orderly o saga s.events) (hlt : i < saga.currentStep)
    (h : Accounted o saga s.events (some (.runCompensation i failed))) :
    (o.runCompensation saga i failed s).1.Accounted o
      (o.runCompensation saga i failed s).2.pc? := by
  obtain ⟨hsettling, hclosed⟩ : saga.Settling i (i + 1) failed ∧ saga.Closed := h.faces _ rfl
  have hnever : ¬ (saga.status = .pending ∨ saga.status = .executing) := by
    simpa [SagaExecution.Closed] using hclosed
  rw [SagaOrchestrator.runCompensation]
  split
  · next compensate step hcomp hstep =>
    simp only
    split_ifs
    · refine of_saga rfl (h.step rfl (fun _ _ _ _ _ _ => ?_) (fun j hj _ => hj.cons (by simp))
        (fun hopen => absurd hopen hnever) h.not_compensated
        ⟨settling_withStep hsettling (fun _ _ _ => ⟨by omega, fun _ => Or.inl rfl⟩)
          (by omega) (by omega) id, hclosed⟩)
      exact ⟨[], s.events, rfl, by simp, (ho.completed i).mpr hlt⟩
    · refine of_saga rfl (h.step rfl (fun stepDef' step' hdef' hstep' hsome hc => ?_)
        (fun _ hj _ => hj) (fun hopen => absurd hopen hnever) h.not_compensated
        ⟨settling_withStep hsettling (fun _ _ _ => ⟨by omega, fun _ => Or.inr rfl⟩)
          (by omega) (by omega) (fun _ => rfl), hclosed⟩)
      exact h.undone i stepDef' step' hdef' hstep' hsome hc
  · exact of_saga hs h.gone

theorem advance {pc : Pc ν} (hs : s.saga = some saga) (ho : Orderly o saga s.events)
    (hplace : pc.InPlace saga) (h : Accounted o saga s.events (some pc)) :
    (o.advance pc s).1.Accounted o (o.advance pc s).2.pc? := by
  simp only [SagaOrchestrator.advance, hs]
  cases pc with
  | executeSteps =>
    have hcompleted : saga.AllCompleted := h.faces _ rfl
    refine of_saga rfl (h.withStatus rfl (fun _ => hcompleted) (by simp) ?_)
    rintro pc hpc
    obtain rfl : Pc.loadContext = pc := Option.some.inj hpc
    exact hcompleted
  | loadContext =>
    have hcompleted : saga.AllCompleted := h.faces _ rfl
    exact of_saga hs (h.goOn hcompleted)
  | atStep i context =>
    obtain rfl : i = saga.currentStep := hplace
    exact atStep hs ho h
  | runStep i context =>
    obtain rfl : i = saga.currentStep := hplace
    exact runStep hs h
  | compensateSteps =>
    have hsettling : saga.Settling saga.currentStep saga.currentStep false := h.faces _ rfl
    refine of_saga rfl (h.withStatus rfl (by simp) (by simp) ?_)
    rintro pc hpc
    obtain rfl : Pc.loadPosition = pc := Option.some.inj hpc
    exact ⟨hsettling, by simp, by simp⟩
  | loadPosition =>
    have hready : saga.Settling saga.currentStep saga.currentStep false ∧ saga.Closed :=
      h.faces _ rfl
    exact of_saga hs (h.goOn hready)
  | atCompensation remaining failed => exact atCompensation hs hplace h
  | runCompensation i failed => exact runCompensation hs ho hplace h

end Accounted

/-! ### The result -/

def Reckoned (o : SagaOrchestrator β ν) (s : SagaStore β ν) (q : Option (Pc ν)) : Prop :=
  InOrder o s q ∧ s.Accounted o q

theorem Reckoned.keepsAlone (o : SagaOrchestrator β ν) :
    (sagaProgram o).KeepsAlone SagaCall.FindsNoneCompensating (SagaCall.Harmless o)
      (Reckoned o) where
  start := by
    rintro c s hok ⟨horder, haccount⟩
    refine ⟨horder.start c, ?_⟩
    cases hs : s.saga with
    | some saga =>
      exact (haccount saga hs).start hs (horder.orderly hs) (hok saga hs)
    | none =>
      rintro saga hsaga
      cases c with
      | execute payload =>
        simp only [sagaProgram, SagaCall.start, SagaOrchestrator.execute, hs] at hsaga ⊢
        obtain rfl := Option.some.inj hsaga
        exact .newSaga payload
      | _ =>
        simp [sagaProgram, SagaCall.start, SagaRecoveryService.recoverSaga, hs,
          SagaRecoveryService.retryCompensation, SagaRecoveryService.markFailed] at hsaga
  beside := by
    rintro c s q ⟨b, reply, hstart⟩ ⟨horder, haccount⟩
    simp only [sagaProgram, hstart]
    exact ⟨rfl, horder, haccount⟩
  advance := by
    rintro pc s ⟨horder, haccount⟩
    refine ⟨horder.advance pc, ?_⟩
    cases hs : s.saga with
    | some saga => exact (haccount saga hs).advance hs (horder.orderly hs) (horder.inPlace hs)
    | none =>
      simp only [InOrder, hs] at horder
      exact absurd horder.2 (by simp)
  crash := fun _ _ h => ⟨h.1.crash, fun saga hs => (h.2 saga hs).gone⟩

theorem Reckoned.allUndone {q : Option (Pc ν)} (h : Reckoned o s q) (hs : s.saga = some saga)
    (hstatus : saga.status = .compensated) : AllUndone o s.events := by
  intro i stepDef hdef hsome hmem
  have horder := h.1.orderly hs
  have haccount := h.2 saga hs
  have hlt : i < saga.currentStep := (horder.completed i).mp hmem
  obtain ⟨step, hstep⟩ : ∃ step, saga.steps[i]? = some step := by
    have hlength := horder.length
    have hposition := horder.position
    exact ⟨_, List.getElem?_eq_getElem (by omega)⟩
  have hsettled := ((haccount.compensated hstatus).2 i step hstep hlt).2 (Nat.zero_le i)
  exact haccount.undone i stepDef step hdef hstep hsome (hsettled.resolve_right (by simp))

/-- **Compensated means undone**: in every run of calls one at a time, crashing anywhere, in
which a call that compensates finds no step left compensating, a compensated saga has had the
compensation of each step that completed return success after it did. -/
theorem compensated_saga_undone (o : SagaOrchestrator β ν) {p : Pool (SagaStore β ν) (Pc ν)}
    (h : (sagaSystem o).ReachableWithin
      (Alone SagaCall.FindsNoneCompensating (SagaCall.Harmless o)) p)
    {saga : SagaExecution ν} (hs : p.store.saga = some saga)
    (hstatus : saga.status = .compensated) : AllUndone o p.store.events := by
  have hinit : ∀ s : SagaStore β ν, s.saga = none ∧ s.events = [] → Reckoned o s none :=
    fun s hinit => ⟨inOrder_initial s hinit, fun saga hsaga => by simp [hinit.1] at hsaga⟩
  have hholds := Program.invariant_of_alone (Reckoned.keepsAlone o) hinit h
  exact hholds.store (I := fun s => s.saga = some saga → AllUndone o s.events)
    (fun s q hq hs => hq.allUndone hs hstatus) hs

/-! ### A compensation that failed -/

/-- A saga of two steps, the first of which cannot be compensated and the second of which
fails. -/
def stubbornSaga : SagaOrchestrator ℕ ℕ where
  steps := [
    { name := "reserve"
      execute := fun _ _ => do
        modify (· + 1)
        pure { success := true }
      compensate := some fun _ _ => pure false },
    { name := "charge"
      execute := fun _ _ => throw "declined" }]

/-- A call to `execute` that runs for so many transactions. -/
def executeToEnd (transactions : ℕ) : List (Pool.Event (SagaCall ℕ ℕ)) :=
  .call 0 (.execute []) :: List.replicate transactions (.advance 0)

def failedSaga : Pool (SagaStore ℕ ℕ) (Pc ℕ) :=
  (sagaProgram stubbornSaga).run (Pool.idle { business := 0 }) (executeToEnd 11)

def retriedSaga : Pool (SagaStore ℕ ℕ) (Pc ℕ) :=
  (sagaProgram stubbornSaga).run failedSaga [.call 0 .retryCompensation]

theorem retriedSaga_reachable : (sagaSystem stubbornSaga).ReachableWithin
    (Alone (fun _ _ => True) (SagaCall.Harmless stubbornSaga)) retriedSaga := by
  have hquiet : failedSaga.Quiet :=
    quiet_run (w := 0) (fun _ => rfl) (by decide)
      (Option.isNone_iff_eq_none.mp (by decide +kernel))
  have hfailed : (sagaSystem stubbornSaga).RunWithin
      (Alone (fun _ _ => True) (SagaCall.Harmless stubbornSaga))
      (Pool.idle { business := 0 }) failedSaga :=
    runWithin_run (alone_call (fun _ => rfl) trivial 11)
  have hretried : (sagaSystem stubbornSaga).RunWithin
      (Alone (fun _ _ => True) (SagaCall.Harmless stubbornSaga)) failedSaga retriedSaga :=
    runWithin_run (alone_call hquiet trivial 0)
  exact ⟨_, ⟨⟨rfl, rfl⟩, fun _ => rfl⟩, hfailed.trans hretried⟩

/-- **A compensated saga that was not undone**: the compensation of the first step returned
failure, the retry does not call it again, and the saga is compensated. -/
theorem saga_compensated_not_undone :
    ¬ ∀ (o : SagaOrchestrator ℕ ℕ) (p : Pool (SagaStore ℕ ℕ) (Pc ℕ)) (saga : SagaExecution ℕ),
      (sagaSystem o).ReachableWithin (Alone (fun _ _ => True) (SagaCall.Harmless o)) p →
        p.store.saga = some saga → saga.status = .compensated → AllUndone o p.store.events := by
  intro h
  obtain ⟨saga, hs, hstatus⟩ : ∃ saga, retriedSaga.store.saga = some saga ∧
      decide (saga.status = .compensated) = true :=
    (Option.any_eq_true _ _).mp (by decide +kernel)
  have hundone := h stubbornSaga _ saga retriedSaga_reachable hs (by simpa using hstatus)
  have hevents : retriedSaga.store.events = [.completed 0] := by decide +kernel
  rw [hevents] at hundone
  -- the first step completed and nothing was compensated
  obtain ⟨newer, older, hsplit, _⟩ := hundone 0 _ rfl rfl (by simp)
  have hmem : StepEvent.compensated 0 ∈ [StepEvent.completed 0] := by
    rw [hsplit]
    simp
  simp at hmem

/-! ### A compensation that is resumed in time -/

def honestSaga : SagaOrchestrator ℕ ℕ where
  steps := [
    { name := "reserve"
      execute := fun _ _ => do
        modify (· + 1)
        pure { success := true }
      compensate := some fun _ _ => do
        modify (· - 1)
        pure true },
    { name := "charge"
      execute := fun _ _ => throw "declined" }]

/-- The saga, gone down before it compensates the first step. -/
def crashedSaga : Pool (SagaStore ℕ ℕ) (Pc ℕ) :=
  (sagaProgram honestSaga).run (Pool.idle { business := 0 }) (executeToEnd 8 ++ [.crash 0])

def recoveredSaga : Pool (SagaStore ℕ ℕ) (Pc ℕ) :=
  (sagaProgram honestSaga).run crashedSaga
    (.call 0 (.recoverSaga false) :: List.replicate 5 (.advance 0))

theorem recoveredSaga_reachable : (sagaSystem honestSaga).ReachableWithin
    (Alone SagaCall.FindsNoneCompensating (SagaCall.Harmless honestSaga)) recoveredSaga := by
  have hquiet : crashedSaga.Quiet :=
    quiet_run (w := 0) (fun _ => rfl) (by decide)
      (Option.isNone_iff_eq_none.mp (by decide +kernel))
  have hexecuted : (sagaSystem honestSaga).RunWithin
      (Alone SagaCall.FindsNoneCompensating (SagaCall.Harmless honestSaga))
      (Pool.idle { business := 0 })
      ((sagaProgram honestSaga).run (Pool.idle { business := 0 }) (executeToEnd 8)) :=
    runWithin_run (alone_call (fun _ => rfl) (fun saga hs => by simp [Pool.idle] at hs) 8)
  have hcrashed : (sagaSystem honestSaga).RunWithin
      (Alone SagaCall.FindsNoneCompensating (SagaCall.Harmless honestSaga))
      ((sagaProgram honestSaga).run (Pool.idle { business := 0 }) (executeToEnd 8))
      ((sagaProgram honestSaga).run ((sagaProgram honestSaga).run (Pool.idle { business := 0 })
        (executeToEnd 8)) [.crash 0]) := runWithin_run ⟨trivial, trivial⟩
  have hready : (.recoverSaga false : SagaCall ℕ ℕ).FindsNoneCompensating
      crashedSaga.store := by
    intro saga hs _ i step hstep
    have hall : crashedSaga.store.saga.all (fun saga =>
        saga.steps.all fun step => step.status ≠ .compensating) = true := by decide +kernel
    rw [hs] at hall
    simpa using List.all_eq_true.mp hall step (List.mem_of_getElem? hstep)
  have hrecovered : (sagaSystem honestSaga).RunWithin
      (Alone SagaCall.FindsNoneCompensating (SagaCall.Harmless honestSaga))
      crashedSaga recoveredSaga := runWithin_run (alone_call hquiet hready 5)
  exact ⟨_, ⟨⟨rfl, rfl⟩, fun _ => rfl⟩, (hexecuted.trans hcrashed).trans hrecovered⟩

theorem compensated_saga_undone_sample : ∃ saga, recoveredSaga.store.saga = some saga ∧
    saga.status = .compensated ∧ AllUndone honestSaga recoveredSaga.store.events := by
  obtain ⟨saga, hs, hstatus⟩ : ∃ saga, recoveredSaga.store.saga = some saga ∧
      decide (saga.status = .compensated) = true :=
    (Option.any_eq_true _ _).mp (by decide +kernel)
  have hcompensated : saga.status = .compensated := by simpa using hstatus
  exact ⟨saga, hs, hcompensated,
    compensated_saga_undone honestSaga recoveredSaga_reachable hs hcompensated⟩

end DotmacErp
