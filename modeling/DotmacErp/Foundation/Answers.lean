import Mathlib.Algebra.BigOperators.Group.List.Basic
import Mathlib.Algebra.Order.Field.Rat
import Mathlib.Data.List.Sort
import Mathlib.Order.Lattice
import Mathlib.Tactic.Common
import Mathlib.Tactic.Linarith
import Mathlib.Tactic.Ring

/-!
# The rows a query may return

A query without an order returns its rows in any order, and one ordered by a key descending in any
order that is sorted by it (`DescAnswer`): what a program computes from the answer should not
depend on which. Any row can come last in an answer without an order (`exists_perm_last`), and any
row of the greatest key among its like can be the first of them in an ordered one
(`exists_descAnswer_first`).

So where a program keeps one row of many, it keeps what they add up to in every answer only where
there is nothing to add (`forall_eq_sum_iff`).
-/

namespace Answers

variable {α β : Type*} {l rows : List α} {b : α}

/-- Every row shows what all of them add up to if and only if there is at most one, or they all
show nothing. -/
theorem forall_eq_sum_iff (w : α → ℚ) (l : List α) :
    (∀ b ∈ l, w b = (l.map w).sum) ↔ l.length ≤ 1 ∨ ∀ b ∈ l, w b = 0 := by
  constructor
  · intro h
    refine or_iff_not_imp_left.mpr fun hlength b hb => ?_
    have hsum : (l.map w).sum = l.length * (l.map w).sum := by
      have hconst := List.sum_eq_card_nsmul (l.map w) (l.map w).sum fun q hq => by
        obtain ⟨c, hc, rfl⟩ := List.mem_map.mp hq
        exact h c hc
      rwa [List.length_map, nsmul_eq_mul] at hconst
    have hmany : (1 : ℚ) < l.length := by exact_mod_cast not_le.mp hlength
    have hzero : ((l.length : ℚ) - 1) * (l.map w).sum = 0 := by
      rw [sub_mul, one_mul, ← hsum, sub_self]
    rw [h b hb]
    exact (mul_eq_zero.mp hzero).resolve_left (by linarith)
  · rintro (hlength | hzero) b hb
    · obtain ⟨c, rfl⟩ : ∃ c, l = [c] := List.length_eq_one_iff.mp
        (le_antisymm hlength (List.length_pos_of_mem hb))
      rw [List.mem_singleton.mp hb, List.map_singleton, List.sum_singleton]
    · rw [hzero b hb]
      refine (List.sum_eq_zero fun q hq => ?_).symm
      obtain ⟨c, hc, rfl⟩ := List.mem_map.mp hq
      exact hzero c hc

theorem exists_perm_last (h : b ∈ l) : ∃ rest, (rest ++ [b]).Perm l := by
  obtain ⟨s, t, rfl⟩ := List.append_of_mem h
  refine ⟨s ++ t, ?_⟩
  rw [List.append_assoc]
  exact List.perm_append_comm.append_left s

variable [LinearOrder β] {key : α → β}

def DescAnswer (key : α → β) (l rows : List α) : Prop :=
  rows.Perm l ∧ rows.Pairwise fun a b => key b ≤ key a

theorem exists_descAnswer (key : α → β) (l : List α) : ∃ rows, DescAnswer key l rows := by
  refine ⟨l.mergeSort fun a b => decide (key b ≤ key a), List.mergeSort_perm _ _, ?_⟩
  have hsorted : (l.mergeSort fun a b => decide (key b ≤ key a)).Pairwise
      fun a b => decide (key b ≤ key a) = true :=
    List.pairwise_mergeSort
      (fun a b c hab hbc => decide_eq_true ((of_decide_eq_true hbc).trans (of_decide_eq_true hab)))
      (fun a b => by
        rw [Bool.or_eq_true, decide_eq_true_eq, decide_eq_true_eq]
        exact le_total _ _) l
  exact hsorted.imp fun hle => of_decide_eq_true hle

theorem DescAnswer.find?_le {p : α → Bool} (h : DescAnswer key l rows)
    (hb : rows.find? p = some b) : ∀ c ∈ l, p c = true → key c ≤ key b := by
  intro c hc hpc
  obtain ⟨-, before, after, hrows, hbefore⟩ := List.find?_eq_some_iff_append.mp hb
  have hmem := h.1.mem_iff.mpr hc
  have hsorted := h.2
  rw [hrows, List.pairwise_append, List.pairwise_cons] at hsorted
  rw [hrows, List.mem_append, List.mem_cons] at hmem
  rcases hmem with hfirst | rfl | hlast
  · have hnot := hbefore c hfirst
    rw [hpc] at hnot
    exact absurd hnot (by simp)
  · exact le_refl _
  · exact hsorted.2.1.1 c hlast

/-- **Any row of the greatest key among its like** is the first of them in some answer. -/
theorem exists_descAnswer_first {p : α → Bool} (hb : b ∈ l) (hpb : p b = true)
    (hmax : ∀ c ∈ l, p c = true → key c ≤ key b) :
    ∃ rows, DescAnswer key l rows ∧ rows.find? p = some b := by
  obtain ⟨s, t, rfl⟩ := List.append_of_mem hb
  -- the rows of a greater key, the row itself, and the others
  obtain ⟨high, hhigh, hhighSorted⟩ :=
    exists_descAnswer key ((s ++ t).filter fun c => decide (key b < key c))
  obtain ⟨low, hlow, hlowSorted⟩ :=
    exists_descAnswer key ((s ++ t).filter fun c => !decide (key b < key c))
  have hhighKey : ∀ c ∈ high, key b < key c := fun c hc =>
    of_decide_eq_true (List.mem_filter.mp (hhigh.mem_iff.mp hc)).2
  have hlowKey : ∀ c ∈ low, key c ≤ key b := fun c hc => by
    have hnot := (List.mem_filter.mp (hlow.mem_iff.mp hc)).2
    simpa using hnot
  refine ⟨high ++ b :: low, ⟨?_, ?_⟩, ?_⟩
  · have hparts := (hhigh.append hlow).trans (List.filter_append_perm _ (s ++ t))
    exact (List.perm_middle.trans (hparts.cons b)).trans List.perm_middle.symm
  · rw [List.pairwise_append, List.pairwise_cons]
    refine ⟨hhighSorted, ⟨hlowKey, hlowSorted⟩, fun c hc d hd => ?_⟩
    rcases List.mem_cons.mp hd with rfl | hd
    · exact (hhighKey c hc).le
    · exact (hlowKey d hd).trans (hhighKey c hc).le
  · refine List.find?_eq_some_iff_append.mpr ⟨hpb, high, low, rfl, fun c hc => ?_⟩
    have hmem : c ∈ s ++ b :: t := by
      have hc' := (List.mem_filter.mp (hhigh.mem_iff.mp hc)).1
      rw [List.mem_append] at hc' ⊢
      exact hc'.imp_right (List.mem_cons_of_mem _)
    by_contra hpc
    rw [Bool.not_eq_true', Bool.not_eq_false] at hpc
    exact absurd (hmax c hmem hpc) (not_le.mpr (hhighKey c hc))

end Answers
