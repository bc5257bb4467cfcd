import Mathlib.Data.List.Basic
import Mathlib.Tactic.Common

/-!
# At most once between two marks

A history is a list of marks, the latest first. `Separated x y` says that between any two marks
`x` there is a mark `y`: an effect is applied at most once per life, a step completes at most
once before it is undone. It is kept mark by mark by knowing whether there has been an `x` since
the latest `y` (`Since`): a new `x` needs that there has not (`separated_cons_self`), and any
other mark keeps the history separated (`Separated.cons_of_ne`).
-/

namespace History

variable {α : Type*} {x y z : α} {l : List α}

/-- Between any two marks `x` there is a mark `y`. -/
def Separated (x y : α) (l : List α) : Prop :=
  ∀ newer between older, l = newer ++ x :: (between ++ x :: older) → y ∈ between

/-- There has been a mark `x` since the latest mark `y`. -/
def Since (x y : α) (l : List α) : Prop := ∃ newer older, l = newer ++ x :: older ∧ y ∉ newer

theorem not_since_cons (h : x ≠ y) : ¬ Since x y (y :: l) := by
  rintro ⟨newer, older, heq, hnot⟩
  cases newer with
  | nil => exact h (List.cons.inj heq).1.symm
  | cons z newer =>
    refine hnot ?_
    rw [(List.cons.inj heq).1]
    exact List.mem_cons_self

theorem separated_nil : Separated x y [] := by
  intro newer between older h
  simp at h

theorem Separated.cons_of_ne (h : Separated x y l) (hz : z ≠ x) : Separated x y (z :: l) := by
  intro newer between older heq
  cases newer with
  | nil => exact absurd (List.cons.inj heq).1 hz
  | cons z' newer => exact h newer between older (List.cons.inj heq).2

theorem separated_cons_self (h : Separated x y l) (hnot : ¬ Since x y l) :
    Separated x y (x :: l) := by
  intro newer between older heq
  cases newer with
  | nil =>
    by_contra hy
    exact hnot ⟨between, older, (List.cons.inj heq).2, hy⟩
  | cons z newer => exact h newer between older (List.cons.inj heq).2

end History
