import DotmacErp.Foundation.System
import Mathlib.Logic.Function.Basic

/-!
# Processes over a shared state

Any number of processes over one shared state (`Config`): a step of a process rewrites the shared
state and its own local state, and leaves the local states of the others as they are (`move`).

What holds of such a system is an invariant of the shared state and, for each process, an assertion
about where it stands (`Sound`). A step keeps both if it keeps the invariant, establishes the
assertion of its own process, and the assertions of the other processes are stable under what it
does to the shared state (`Sound.move`).
-/

namespace Relational

universe u v w

variable {σ : Type u} {κ : Type v} {τ : Type w}

/-- A shared state, and the local state of each process. -/
structure Config (σ : Type u) (κ : Type v) (τ : Type w) where
  shared : σ
  locals : κ → τ

namespace Config

/-- A step of one process. -/
def move [DecidableEq κ] (g : Config σ κ τ) (k : κ) (outcome : σ × τ) : Config σ κ τ where
  shared := outcome.1
  locals := Function.update g.locals k outcome.2

/-- An invariant of the shared state, and an assertion about each process. -/
structure Sound (I : σ → Prop) (Q : σ → κ → τ → Prop) (g : Config σ κ τ) : Prop where
  shared : I g.shared
  locals : ∀ k, Q g.shared k (g.locals k)

variable {I : σ → Prop} {Q : σ → κ → τ → Prop} {g : Config σ κ τ} {k : κ} {s : σ} {l : τ}

@[simp] theorem move_shared [DecidableEq κ] (g : Config σ κ τ) (k : κ) (outcome : σ × τ) :
    (g.move k outcome).shared = outcome.1 := rfl

@[simp] theorem move_locals_self [DecidableEq κ] (g : Config σ κ τ) (k : κ) (outcome : σ × τ) :
    (g.move k outcome).locals k = outcome.2 := by
  simp [move]

theorem move_locals_of_ne [DecidableEq κ] {j : κ} (h : j ≠ k) (outcome : σ × τ) :
    (g.move k outcome).locals j = g.locals j := by
  simp [move, Function.update_of_ne h]

/-- **A step** keeps a system sound: its own process is where it should be, and the others do not
notice. -/
theorem Sound.move [DecidableEq κ] (h : g.Sound I Q) (hshared : I s) (hself : Q s k l)
    (hothers : ∀ j ≠ k, ∀ l', Q g.shared j l' → Q s j l') : (g.move k (s, l)).Sound I Q := by
  refine ⟨hshared, fun j => ?_⟩
  by_cases hj : j = k
  · subst hj
    rw [move_locals_self]
    exact hself
  · rw [move_locals_of_ne hj]
    exact hothers j hj _ (h.locals j)

theorem Sound.reshare (h : g.Sound I Q) (hshared : I s)
    (hall : ∀ j l', Q g.shared j l' → Q s j l') : Sound I Q ⟨s, g.locals⟩ :=
  ⟨hshared, fun j => hall j _ (h.locals j)⟩

end Config

end Relational
