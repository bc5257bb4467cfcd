import Mathlib.Data.List.Sort

/-!
# Greedy selections

Elements are taken from a list one after the other, each unless it is in conflict with one that was
taken before it. In a list with the better elements first, an element that is not taken is in
conflict with a better one that is (`mem_select_or`). Sorting a list by keys that differ gives the
same list for every order of its elements (`sortOn_eq_of_perm`), and so the same selection.
-/

namespace Greedy

variable {α κ : Type*}

section Selection

variable {conflicts precedes : α → α → Prop} [DecidableRel conflicts] {taken l : List α}

/-- The elements of a list that are not in conflict with one taken before them. -/
def select (conflicts : α → α → Prop) [DecidableRel conflicts] (taken : List α) :
    List α → List α
  | [] => []
  | a :: rest =>
    if ∃ b ∈ taken, conflicts b a then select conflicts taken rest
    else a :: select conflicts (a :: taken) rest

theorem select_subset {a : α} (h : a ∈ select conflicts taken l) : a ∈ l := by
  induction l generalizing taken with
  | nil => exact h
  | cons b rest ih =>
    rw [select] at h
    split_ifs at h
    · exact List.mem_cons_of_mem b (ih h)
    · rcases List.mem_cons.mp h with rfl | h
      · exact List.mem_cons_self
      · exact List.mem_cons_of_mem b (ih h)

theorem free_of_mem_select {a b : α} (h : a ∈ select conflicts taken l) (hb : b ∈ taken) :
    ¬ conflicts b a := by
  induction l generalizing taken with
  | nil => exact absurd h List.not_mem_nil
  | cons c rest ih =>
    rw [select] at h
    split_ifs at h with hc
    · exact ih h hb
    · rcases List.mem_cons.mp h with rfl | h
      · exact fun hab => hc ⟨b, hb, hab⟩
      · exact ih h (List.mem_cons_of_mem c hb)

theorem pairwise_select : (select conflicts taken l).Pairwise fun a b => ¬ conflicts a b := by
  induction l generalizing taken with
  | nil => exact .nil
  | cons a rest ih =>
    rw [select]
    split_ifs
    · exact ih
    · exact .cons (fun b hb => free_of_mem_select hb List.mem_cons_self) ih

/-- **An element is taken**, or in conflict with one that was, or with a better one that is. -/
theorem mem_select_or (hl : l.Pairwise precedes) {a : α} (ha : a ∈ l) :
    a ∈ select conflicts taken l ∨ (∃ b ∈ taken, conflicts b a) ∨
      ∃ b ∈ select conflicts taken l, conflicts b a ∧ precedes b a := by
  induction l generalizing taken with
  | nil => exact absurd ha List.not_mem_nil
  | cons c rest ih =>
    obtain ⟨hfirst, hrest⟩ := List.pairwise_cons.mp hl
    rw [select]
    split_ifs with hc
    · rcases List.mem_cons.mp ha with rfl | ha
      · exact .inr (.inl hc)
      · exact ih hrest ha
    · rcases List.mem_cons.mp ha with rfl | hmem
      · exact .inl List.mem_cons_self
      · rcases ih hrest hmem with h | ⟨b, hb, hba⟩ | ⟨b, hb, hba⟩
        · exact .inl (List.mem_cons_of_mem c h)
        · rcases List.mem_cons.mp hb with rfl | hb
          · exact .inr (.inr ⟨b, List.mem_cons_self, hba, hfirst a hmem⟩)
          · exact .inr (.inl ⟨b, hb, hba⟩)
        · exact .inr (.inr ⟨b, List.mem_cons_of_mem c hb, hba⟩)

end Selection

section Sorting

variable [LinearOrder κ] {key : α → κ} {l l' : List α}

/-- A list in the order of keys, equal ones as they were. -/
def sortOn (key : α → κ) (l : List α) : List α := l.insertionSort fun a b => key a ≤ key b

theorem sortOn_perm (key : α → κ) (l : List α) : (sortOn key l).Perm l :=
  List.perm_insertionSort _ l

theorem pairwise_sortOn (h : (l.map key).Nodup) :
    (sortOn key l).Pairwise fun a b => key a < key b := by
  have : Std.Total fun a b : α => key a ≤ key b := ⟨fun a b => le_total _ _⟩
  have : IsTrans α fun a b => key a ≤ key b := ⟨fun a b c => le_trans⟩
  have hsorted : (sortOn key l).Pairwise fun a b => key a ≤ key b :=
    List.pairwise_insertionSort _ l
  have hnodup : ((sortOn key l).map key).Nodup := ((sortOn_perm key l).map key).nodup_iff.mpr h
  exact hsorted.imp₂ (fun a b hle hne => lt_of_le_of_ne hle hne) (List.pairwise_map.mp hnodup)

/-- **The order of a list** is nothing to its sorting by keys that differ. -/
theorem sortOn_eq_of_perm (hperm : l.Perm l') (h : (l.map key).Nodup) :
    sortOn key l = sortOn key l' := by
  refine List.Perm.eq_of_pairwise (fun a b _ _ hab hba => absurd hab hba.not_gt)
    (pairwise_sortOn h) (pairwise_sortOn ((hperm.map key).nodup_iff.mp h)) ?_
  exact (sortOn_perm key l).trans (hperm.trans (sortOn_perm key l').symm)

end Sorting

end Greedy
