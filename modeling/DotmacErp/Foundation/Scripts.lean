import DotmacErp.Foundation.System

/-!
# Systems of a function

A system in which an operation has one outcome is given by a function, `ofFunction`, and its runs
are listed: `after` is the state a list of operations leads to. `AllowedAlong`
says that every operation is allowed in the state it is made in, and is decidable when that is, so
that a listed run is checked by evaluation.
-/

namespace Relational

universe u v

namespace System

variable {σ : Type u} {ι : Type v} {init : σ → Prop} {act : σ → ι → σ}
  {allowed : σ → ι → Prop} {s : σ}

def ofFunction (init : σ → Prop) (act : σ → ι → σ) : System σ ι where
  init := init
  step s i s' := s' = act s i

def after (act : σ → ι → σ) (s : σ) (is : List ι) : σ := is.foldl act s

def AllowedAlong (allowed : σ → ι → Prop) (act : σ → ι → σ) : σ → List ι → Prop
  | _, [] => True
  | s, i :: is => allowed s i ∧ AllowedAlong allowed act (act s i) is

instance AllowedAlong.decidable [∀ s i, Decidable (allowed s i)] :
    (is : List ι) → (s : σ) → Decidable (AllowedAlong allowed act s is)
  | [], _ => inferInstanceAs (Decidable True)
  | i :: is, s =>
    have : Decidable (AllowedAlong allowed act (act s i) is) :=
      AllowedAlong.decidable is (act s i)
    instDecidableAnd

theorem runWithin_after {is : List ι} (h : AllowedAlong allowed act s is) :
    (ofFunction init act).RunWithin allowed s (after act s is) := by
  induction is generalizing s with
  | nil => exact Relation.ReflTransGen.refl
  | cons i is ih => exact Relation.ReflTransGen.head ⟨i, h.1, rfl⟩ (ih h.2)

theorem reachableWithin_after {is : List ι} (hs : init s) (h : AllowedAlong allowed act s is) :
    (ofFunction init act).ReachableWithin allowed (after act s is) :=
  ⟨s, hs, runWithin_after h⟩

theorem allowedAlong_trivial (is : List ι) :
    AllowedAlong (fun _ _ => True) act s is := by
  induction is generalizing s with
  | nil => trivial
  | cons i is ih => exact ⟨trivial, ih⟩

theorem reachable_after (hs : init s) (is : List ι) :
    (ofFunction init act).Reachable (after act s is) :=
  reachableWithin_after hs (allowedAlong_trivial is)

end System

end Relational
