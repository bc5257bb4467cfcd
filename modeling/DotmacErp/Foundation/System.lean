import Mathlib.Logic.Relation
import Mathlib.Tactic.Common

/-!
# Transition systems and their runs

A `System σ ι` has initial states and a step relation labelled by operations `ι`. Its runs
are the reflexive-transitive closure of the step, optionally restricted to steps whose
operation is allowed in the state it starts from — the form in which "every run all of whose
steps meet a condition" is stated.

The two induction rules here are the only inductions over runs a development needs:
`Run.preserves` carries a state predicate along a run, `Run.relates` carries a reflexive and
transitive relation between the two ends of it. A reachability invariant is the first rule
from an initial state (`Reachable.invariant`).
-/

namespace Relational

universe u v

/-- A transition system: initial states, and steps labelled by operations. -/
structure System (σ : Type u) (ι : Type v) where
  init : σ → Prop
  step : σ → ι → σ → Prop

namespace System

variable {σ : Type u} {ι : Type v} {M : System σ ι}

/-- The states a run of allowed steps leads to. -/
def RunWithin (M : System σ ι) (allowed : σ → ι → Prop) : σ → σ → Prop :=
  Relation.ReflTransGen fun s s' => ∃ i, allowed s i ∧ M.step s i s'

def Run (M : System σ ι) : σ → σ → Prop := M.RunWithin fun _ _ => True

/-- The states of runs from an initial state all of whose steps are allowed. -/
def ReachableWithin (M : System σ ι) (allowed : σ → ι → Prop) (s : σ) : Prop :=
  ∃ s₀, M.init s₀ ∧ M.RunWithin allowed s₀ s

/-- The states of runs from an initial state. -/
def Reachable (M : System σ ι) (s : σ) : Prop := M.ReachableWithin (fun _ _ => True) s

variable {allowed : σ → ι → Prop} {s s' s'' : σ} {i : ι}

theorem RunWithin.preserves {P : σ → Prop} (h : M.RunWithin allowed s s')
    (hstep : ∀ s i s', P s → allowed s i → M.step s i s' → P s') (hs : P s) : P s' := by
  induction h with
  | refl => exact hs
  | tail _ hlast ih =>
    obtain ⟨i, hi, hm⟩ := hlast
    exact hstep _ i _ ih hi hm

/-- A reflexive, transitive relation that holds across every step from a state of the run
holds across the run. The step may use a predicate carried along (`RunWithin.preserves`). -/
theorem RunWithin.relates {P : σ → Prop} {R : σ → σ → Prop} (h : M.RunWithin allowed s s')
    (hstep : ∀ s i s', P s → allowed s i → M.step s i s' → P s') (hs : P s)
    (hrefl : ∀ s, R s s) (htrans : ∀ a b c, R a b → R b c → R a c)
    (hR : ∀ s i s', P s → allowed s i → M.step s i s' → R s s') : R s s' := by
  have hboth : P s' ∧ R s s' := by
    induction h with
    | refl => exact ⟨hs, hrefl s⟩
    | tail _ hlast ih =>
      obtain ⟨i, hi, hm⟩ := hlast
      exact ⟨hstep _ i _ ih.1 hi hm, htrans _ _ _ ih.2 (hR _ i _ ih.1 hi hm)⟩
  exact hboth.2

theorem Run.single (h : M.step s i s') : M.Run s s' :=
  Relation.ReflTransGen.single ⟨i, trivial, h⟩

theorem Reachable.run (h : M.Reachable s) (hr : M.Run s s') : M.Reachable s' := by
  obtain ⟨s₀, h₀, hs⟩ := h
  exact ⟨s₀, h₀, hs.trans hr⟩

theorem Reachable.step (h : M.Reachable s) (hm : M.step s i s') : M.Reachable s' :=
  h.run (Run.single hm)

/-- **Invariants.** A predicate that holds initially and is kept by every allowed step holds
in every state reached by allowed steps. -/
theorem ReachableWithin.invariant {P : σ → Prop} (h : M.ReachableWithin allowed s)
    (hinit : ∀ s, M.init s → P s)
    (hstep : ∀ s i s', P s → allowed s i → M.step s i s' → P s') : P s := by
  obtain ⟨s₀, h₀, hs⟩ := h
  exact hs.preserves hstep (hinit s₀ h₀)

/-- **Invariants**, unrestricted. -/
theorem Reachable.invariant {P : σ → Prop} (h : M.Reachable s)
    (hinit : ∀ s, M.init s → P s) (hstep : ∀ s i s', P s → M.step s i s' → P s') : P s :=
  ReachableWithin.invariant h hinit fun s i s' hs _ hm => hstep s i s' hs hm

end System

end Relational
