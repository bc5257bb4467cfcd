import DotmacErp.Foundation.System
import Mathlib.Logic.Function.Basic

/-!
# Workers over a shared store

A `Program σ κ π ρ` is run by any number of workers against one committed store `σ`. A call
`κ` is answered at once or leaves the worker at a program point `π`, and from a program point
the worker goes on one transaction at a time; a reply `ρ` ends the call. Between two
transactions of one worker any other worker may run, and any worker may crash, which loses its
program point and nothing else.

`Program.system` is the transition system of all interleavings. Three induction rules serve
the ways of using one:

* `Program.invariant` — every interleaving: an invariant of the store, and for each program
  point what its worker may rely on, which no other worker's transaction destroys;
* `Program.invariant_when` — the same, in runs in which every transaction that commits is one
  that may;
* `Program.invariant_of_alone` — runs in which no call goes to work while another one is at
  work: a single predicate of the store and of the program point of the only worker there is.
-/

namespace Relational

/-- What a transaction leaves its worker with: a program point to go on from, or a reply. -/
inductive Outcome (π ρ : Type) where
  | running (pc : π)
  | returned (reply : ρ)

/-- The program point of a worker that goes on. -/
def Outcome.pc? {π ρ : Type} : Outcome π ρ → Option π
  | running pc => some pc
  | returned _ => none

@[simp] theorem Outcome.pc?_running {π ρ : Type} (pc : π) :
    (running pc : Outcome π ρ).pc? = some pc := rfl

@[simp] theorem Outcome.pc?_returned {π ρ : Type} (r : ρ) :
    (returned r : Outcome π ρ).pc? = none := rfl

structure Program (σ κ π ρ : Type) where
  start : κ → σ → σ × Outcome π ρ
  advance : π → σ → σ × Outcome π ρ

/-- A store with the workers on it; an idle worker has no program point. -/
structure Pool (σ π : Type) where
  store : σ
  workers : ℕ → Option π

/-- What may happen next: a call arrives at an idle worker, a worker goes on, a worker dies. -/
inductive Pool.Event (κ : Type) where
  | call (w : ℕ) (c : κ)
  | advance (w : ℕ)
  | crash (w : ℕ)

def Pool.Event.worker {κ : Type} : Pool.Event κ → ℕ
  | call w _ | advance w | crash w => w

variable {σ κ π ρ : Type}

namespace Pool

/-- Nobody is at work. -/
def Quiet (p : Pool σ π) : Prop := ∀ w, p.workers w = none

/-- A worker after its transaction. -/
def settle (p : Pool σ π) (w : ℕ) (r : σ × Outcome π ρ) : Pool σ π :=
  ⟨r.1, Function.update p.workers w r.2.pc?⟩

/-- A store nobody works on. -/
def idle (s : σ) : Pool σ π := ⟨s, fun _ => none⟩

@[simp] theorem settle_store (p : Pool σ π) (w : ℕ) (r : σ × Outcome π ρ) :
    (p.settle w r).store = r.1 := rfl

@[simp] theorem settle_self (p : Pool σ π) (w : ℕ) (r : σ × Outcome π ρ) :
    (p.settle w r).workers w = r.2.pc? := by
  simp [settle]

theorem settle_of_ne {p : Pool σ π} {w w' : ℕ} (h : w' ≠ w) (r : σ × Outcome π ρ) :
    (p.settle w r).workers w' = p.workers w' := by
  simp [settle, h]

end Pool

namespace Program

variable (P : Program σ κ π ρ)

/-- One event. A call to a worker that is at work, and a step of an idle one, do nothing. -/
def apply (p : Pool σ π) : Pool.Event κ → Pool σ π
  | .call w c =>
    match p.workers w with
    | none => p.settle w (P.start c p.store)
    | some _ => p
  | .advance w =>
    match p.workers w with
    | none => p
    | some pc => p.settle w (P.advance pc p.store)
  | .crash w => ⟨p.store, Function.update p.workers w none⟩

/-- All interleavings, from a store nobody works on. -/
def system (init : σ → Prop) : System (Pool σ π) (Pool.Event κ) where
  init p := init p.store ∧ p.Quiet
  step p e p' := p' = P.apply p e

def run (p : Pool σ π) (es : List (Pool.Event κ)) : Pool σ π := es.foldl P.apply p

variable {P} {init : σ → Prop} {p p' : Pool σ π}

theorem workers_of_ne {e : Pool.Event κ} {w : ℕ} (h : e.worker ≠ w) :
    (P.apply p e).workers w = p.workers w := by
  cases e with
  | call w' c =>
    simp only [apply]
    cases p.workers w' with
    | none => exact Pool.settle_of_ne (Ne.symm h) _
    | some _ => rfl
  | advance w' =>
    simp only [apply]
    cases p.workers w' with
    | none => rfl
    | some pc => exact Pool.settle_of_ne (Ne.symm h) _
  | crash w' => exact Function.update_of_ne (Ne.symm h) _ _

theorem run_workers_of_ne {es : List (Pool.Event κ)} {w : ℕ} (h : ∀ e ∈ es, e.worker ≠ w) :
    (P.run p es).workers w = p.workers w := by
  induction es generalizing p with
  | nil => rfl
  | cons e es ih =>
    have hrest := ih (p := P.apply p e) fun e' he' => h e' (List.mem_cons_of_mem _ he')
    rw [workers_of_ne (h e List.mem_cons_self)] at hrest
    exact hrest

theorem quiet_run {es : List (Pool.Event κ)} {w : ℕ} (hp : p.Quiet)
    (hes : ∀ e ∈ es, e.worker = w) (hw : (P.run p es).workers w = none) : (P.run p es).Quiet := by
  intro w'
  rcases eq_or_ne w' w with rfl | hne
  · exact hw
  · rw [run_workers_of_ne fun e he => by rw [hes e he]; exact hne.symm, hp w']

def AllowedAlong (allowed : Pool σ π → Pool.Event κ → Prop) (p : Pool σ π) :
    List (Pool.Event κ) → Prop
  | [] => True
  | e :: es => allowed p e ∧ AllowedAlong allowed (P.apply p e) es

theorem runWithin_run {allowed : Pool σ π → Pool.Event κ → Prop} {es : List (Pool.Event κ)}
    (h : P.AllowedAlong allowed p es) : (P.system init).RunWithin allowed p (P.run p es) := by
  induction es generalizing p with
  | nil => exact Relation.ReflTransGen.refl
  | cons e es ih => exact Relation.ReflTransGen.head ⟨e, h.1, rfl⟩ (ih h.2)

instance AllowedAlong.decidable {allowed : Pool σ π → Pool.Event κ → Prop}
    [∀ p e, Decidable (allowed p e)] :
    (es : List (Pool.Event κ)) → (p : Pool σ π) → Decidable (P.AllowedAlong allowed p es)
  | [], _ => inferInstanceAs (Decidable True)
  | e :: es, p =>
    have : Decidable (P.AllowedAlong allowed (P.apply p e) es) :=
      AllowedAlong.decidable es (P.apply p e)
    instDecidableAnd

theorem allowedAlong_trivial (es : List (Pool.Event κ)) :
    P.AllowedAlong (fun _ _ => True) p es := by
  induction es generalizing p with
  | nil => trivial
  | cons e es ih => exact ⟨trivial, ih⟩

theorem reachable_run {s : σ} (hs : init s) (es : List (Pool.Event κ)) :
    (P.system init).Reachable (P.run (Pool.idle s) es) :=
  ⟨Pool.idle s, ⟨hs, fun _ => rfl⟩, runWithin_run (allowedAlong_trivial es)⟩

/-! ### Every interleaving -/

/-- What must be shown of an invariant `I` of the store and of the knowledge `J` a program
point carries: the worker establishes it and nobody else destroys it. -/
structure Keeps (P : Program σ κ π ρ) (I : σ → Prop) (J : σ → π → Prop) : Prop where
  start : ∀ c s, I s → I (P.start c s).1 ∧ ∀ pc, (P.start c s).2.pc? = some pc →
    J (P.start c s).1 pc
  advance : ∀ pc s, I s → J s pc → I (P.advance pc s).1 ∧ ∀ pc', (P.advance pc s).2.pc? = some pc' →
    J (P.advance pc s).1 pc'
  start_other : ∀ c s pc, I s → J s pc → J (P.start c s).1 pc
  advance_other : ∀ pc s pc', I s → J s pc → J s pc' → J (P.advance pc s).1 pc'

/-- The invariant with every worker's knowledge. -/
def Holds (I : σ → Prop) (J : σ → π → Prop) (p : Pool σ π) : Prop :=
  I p.store ∧ ∀ w pc, p.workers w = some pc → J p.store pc

/-- The transactions that may commit: those that are `ok` in the store they find. -/
def When (ok : π → σ → Prop) (p : Pool σ π) : Pool.Event κ → Prop
  | .advance w => ∀ pc ∈ p.workers w, ok pc p.store
  | _ => True

instance {ok : π → σ → Prop} [∀ pc s, Decidable (ok pc s)] (p : Pool σ π) (e : Pool.Event κ) :
    Decidable (When ok p e) :=
  match e with
  | .advance w => inferInstanceAs (Decidable (∀ pc ∈ p.workers w, ok pc p.store))
  | .call _ _ | .crash _ => inferInstanceAs (Decidable True)

/-- `Keeps`, for transactions that are `ok` in the store they find. -/
structure KeepsWhen (P : Program σ κ π ρ) (ok : π → σ → Prop) (I : σ → Prop)
    (J : σ → π → Prop) : Prop where
  start : ∀ c s, I s → I (P.start c s).1 ∧ ∀ pc, (P.start c s).2.pc? = some pc →
    J (P.start c s).1 pc
  advance : ∀ pc s, ok pc s → I s → J s pc → I (P.advance pc s).1 ∧
    ∀ pc', (P.advance pc s).2.pc? = some pc' → J (P.advance pc s).1 pc'
  start_other : ∀ c s pc, I s → J s pc → J (P.start c s).1 pc
  advance_other : ∀ pc s pc', ok pc s → I s → J s pc → J s pc' → J (P.advance pc s).1 pc'

theorem KeepsWhen.apply {ok : π → σ → Prop} {I : σ → Prop} {J : σ → π → Prop}
    (h : P.KeepsWhen ok I J) (hp : Holds I J p) {e : Pool.Event κ} (he : When ok p e) :
    Holds I J (P.apply p e) := by
  obtain ⟨hI, hJ⟩ := hp
  cases e with
  | call w c =>
    simp only [Program.apply]
    cases hw : p.workers w with
    | some pc => exact ⟨hI, hJ⟩
    | none =>
      refine ⟨(h.start c p.store hI).1, fun w' pc hpc => ?_⟩
      by_cases hne : w' = w
      · subst hne
        exact (h.start c p.store hI).2 pc (by simpa using hpc)
      · rw [Pool.settle_of_ne hne] at hpc
        exact h.start_other c p.store pc hI (hJ w' pc hpc)
  | advance w =>
    simp only [Program.apply]
    cases hw : p.workers w with
    | none => exact ⟨hI, hJ⟩
    | some q =>
      have hq := hJ w q hw
      have hok := he q hw
      refine ⟨(h.advance q p.store hok hI hq).1, fun w' pc hpc => ?_⟩
      by_cases hne : w' = w
      · subst hne
        exact (h.advance q p.store hok hI hq).2 pc (by simpa using hpc)
      · rw [Pool.settle_of_ne hne] at hpc
        exact h.advance_other q p.store pc hok hI hq (hJ w' pc hpc)
  | crash w =>
    refine ⟨hI, fun w' pc hpc => ?_⟩
    by_cases hne : w' = w
    · subst hne
      simp [Program.apply] at hpc
    · exact hJ w' pc (by simpa [Program.apply, hne] using hpc)

theorem Holds.of_quiet {I : σ → Prop} {J : σ → π → Prop} (hp : p.Quiet) (h : I p.store) :
    Holds I J p := by
  refine ⟨h, fun w pc hw => ?_⟩
  rw [hp w] at hw
  exact absurd hw (by simp)

/-- **Invariants of runs in which every transaction is `ok`.** -/
theorem invariant_when {ok : π → σ → Prop} {I : σ → Prop} {J : σ → π → Prop}
    (h : P.KeepsWhen ok I J) (hinit : ∀ s, init s → I s)
    (hp : (P.system init).ReachableWithin (When ok) p) : Holds I J p := by
  refine hp.invariant (fun p hp => .of_quiet hp.2 (hinit _ hp.1)) ?_
  rintro p e _ hp he rfl
  exact h.apply hp he

theorem Keeps.when {I : σ → Prop} {J : σ → π → Prop} (h : P.Keeps I J) :
    P.KeepsWhen (fun _ _ => True) I J :=
  ⟨h.start, fun pc s _ => h.advance pc s, h.start_other, fun pc s pc' _ => h.advance_other pc s pc'⟩

theorem Keeps.apply {I : σ → Prop} {J : σ → π → Prop} (h : P.Keeps I J) (hp : Holds I J p)
    (e : Pool.Event κ) : Holds I J (P.apply p e) := by
  refine h.when.apply hp ?_
  cases e with
  | call | crash => trivial
  | advance w => exact fun _ _ => trivial

/-- **Invariants of every interleaving.** -/
theorem invariant {I : σ → Prop} {J : σ → π → Prop} (h : P.Keeps I J)
    (hinit : ∀ s, init s → I s) (hp : (P.system init).Reachable p) : Holds I J p := by
  refine hp.invariant (fun p hp => .of_quiet hp.2 (hinit _ hp.1)) ?_
  rintro p e _ hp rfl
  exact h.apply hp e

/-! ### One call at work at a time -/

/-- One call at a time: a call that is `ok` may come when nobody is at work, and one that may
come `beside` others at any time. -/
def Alone (ok beside : κ → σ → Prop) (p : Pool σ π) : Pool.Event κ → Prop
  | .call _ c => (p.Quiet ∧ ok c p.store) ∨ beside c p.store
  | _ => True

theorem alone_call {ok beside : κ → σ → Prop} {w : ℕ} {c : κ} (hp : p.Quiet)
    (hok : ok c p.store) (n : ℕ) :
    P.AllowedAlong (Alone ok beside) p (.call w c :: List.replicate n (.advance w)) := by
  refine ⟨Or.inl ⟨hp, hok⟩, ?_⟩
  generalize P.apply p (.call w c) = p'
  induction n generalizing p' with
  | zero => trivial
  | succ n ih => exact ⟨trivial, ih _⟩

/-- What must be shown of a predicate `K` of the store and of the only program point there is:
calls establish it, calls beside a worker are answered at once and keep it, and the worker keeps
it until it returns or dies. -/
structure KeepsAlone (P : Program σ κ π ρ) (ok beside : κ → σ → Prop)
    (K : σ → Option π → Prop) : Prop where
  start : ∀ c s, ok c s → K s none → K (P.start c s).1 (P.start c s).2.pc?
  beside : ∀ c s q, beside c s → K s q →
    (P.start c s).2.pc? = none ∧ K (P.start c s).1 q
  advance : ∀ pc s, K s (some pc) → K (P.advance pc s).1 (P.advance pc s).2.pc?
  crash : ∀ pc s, K s (some pc) → K s none

inductive HoldsAlone (K : σ → Option π → Prop) (p : Pool σ π) : Prop
  | quiet (hq : p.Quiet) (h : K p.store none)
  | busy (w : ℕ) (pc : π) (hw : p.workers w = some pc)
      (others : ∀ w', w' ≠ w → p.workers w' = none) (h : K p.store (some pc))

theorem HoldsAlone.settle {K : σ → Option π → Prop} {w : ℕ} {r : σ × Outcome π ρ}
    (others : ∀ w', w' ≠ w → p.workers w' = none) (h : K r.1 r.2.pc?) :
    HoldsAlone K (p.settle w r) := by
  have hothers : ∀ w', w' ≠ w → (p.settle w r).workers w' = none := fun w' hne => by
    rw [Pool.settle_of_ne hne, others w' hne]
  cases hpc : r.2.pc? with
  | none =>
    refine .quiet (fun w' => ?_) (hpc ▸ h)
    by_cases hne : w' = w
    · rw [hne, Pool.settle_self, hpc]
    · exact hothers w' hne
  | some pc => exact .busy w pc (by rw [Pool.settle_self, hpc]) hothers (hpc ▸ h)

theorem HoldsAlone.store {K : σ → Option π → Prop} {I : σ → Prop} (h : HoldsAlone K p)
    (hI : ∀ s pc, K s pc → I s) : I p.store := by
  cases h with
  | quiet _ h => exact hI _ _ h
  | busy _ _ _ _ h => exact hI _ _ h

theorem KeepsAlone.apply {ok beside : κ → σ → Prop} {K : σ → Option π → Prop}
    (h : P.KeepsAlone ok beside K) (hp : HoldsAlone K p) {e : Pool.Event κ}
    (he : Alone ok beside p e) : HoldsAlone K (P.apply p e) := by
  cases e with
  | call w c =>
    simp only [Program.apply]
    cases hw : p.workers w with
    | some pc => exact hp
    | none =>
      cases hp with
      | quiet hq hK =>
        refine .settle (fun w' _ => hq w') ?_
        rcases he with ⟨_, hok⟩ | hbeside
        · exact h.start c p.store hok hK
        · obtain ⟨hnone, hK'⟩ := h.beside c p.store none hbeside hK
          rw [hnone]
          exact hK'
      | busy w₁ pc hw₁ others hK =>
        -- somebody is at work, so this call was one that may come beside
        have hbeside : beside c p.store := by
          refine he.resolve_left fun ⟨hquiet, _⟩ => ?_
          rw [hquiet w₁] at hw₁
          exact absurd hw₁ (by simp)
        obtain ⟨hnone, hK'⟩ := h.beside c p.store (some pc) hbeside hK
        have hne : w₁ ≠ w := fun heq => by
          rw [heq, hw] at hw₁
          exact absurd hw₁ (by simp)
        refine .busy w₁ pc (by rw [Pool.settle_of_ne hne, hw₁]) (fun w' hw' => ?_) hK'
        by_cases hcall : w' = w
        · rw [hcall, Pool.settle_self, hnone]
        · rw [Pool.settle_of_ne hcall, others w' hw']
  | advance w =>
    simp only [Program.apply]
    cases hw : p.workers w with
    | none => exact hp
    | some pc =>
      cases hp with
      | quiet hq _ =>
        rw [hq w] at hw
        exact absurd hw (by simp)
      | busy w₁ pc₁ hw₁ others hK =>
        have heq : w = w₁ := by
          by_contra hne
          rw [others w hne] at hw
          exact absurd hw (by simp)
        subst heq
        rw [hw] at hw₁
        obtain rfl : pc = pc₁ := by simpa using hw₁
        exact .settle others (h.advance pc p.store hK)
  | crash w =>
    cases hp with
    | quiet hq hK =>
      refine .quiet (fun w' => ?_) hK
      by_cases hne : w' = w <;> simp [Program.apply, hne, hq w']
    | busy w₁ pc hw₁ others hK =>
      by_cases hne : w₁ = w
      · subst hne
        refine .quiet (fun w' => ?_) (h.crash pc p.store hK)
        by_cases hw' : w' = w₁
        · simp [Program.apply, hw']
        · simp [Program.apply, hw', others w' hw']
      · refine .busy w₁ pc (by simp [Program.apply, hne, hw₁]) (fun w' hw' => ?_) hK
        by_cases hcrash : w' = w <;> simp [Program.apply, hcrash, others w' hw']

/-- **Invariants of one call at a time.** -/
theorem invariant_of_alone {ok beside : κ → σ → Prop} {K : σ → Option π → Prop}
    (h : P.KeepsAlone ok beside K) (hinit : ∀ s, init s → K s none)
    (hp : (P.system init).ReachableWithin (Alone ok beside) p) : HoldsAlone K p := by
  refine hp.invariant (fun p hp => .quiet hp.2 (hinit _ hp.1)) ?_
  rintro p e _ hp he rfl
  exact h.apply hp he

end Program

end Relational
