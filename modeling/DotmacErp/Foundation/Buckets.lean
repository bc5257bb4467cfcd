import Mathlib.Algebra.BigOperators.Group.List.Basic
import Mathlib.Data.List.Dedup
import Mathlib.Data.List.Induction
import Mathlib.Data.List.Nodup
import Mathlib.Tactic.Common

/-!
# Loops over a dictionary

`collect key start merge l` is the dictionary that a loop builds from a list: the first entry of a
key opens its value by `start`, and every later one is put into it by `merge`. The dictionary keeps
the order in which its keys first occur.

What a key finds in the end is the same loop over the entries of that key alone
(`value?_collect`), the keys are those of the entries without repeats (`keys_collect`), and so a
sum over the dictionary is a sum over the keys (`sum_collect`).
-/

namespace Buckets

variable {α β κ M : Type*} [DecidableEq κ]

/-- What a dictionary holds under a key. -/
def value? (k : κ) : List (κ × β) → Option β
  | [] => none
  | (k', b) :: rest => if k' = k then some b else value? k rest

/-- One turn of the loop. -/
def add (key : α → κ) (start : α → β) (merge : β → α → β) (a : α) :
    List (κ × β) → List (κ × β)
  | [] => [(key a, start a)]
  | (k, b) :: rest =>
    if k = key a then (k, merge b a) :: rest else (k, b) :: add key start merge a rest

def collect (key : α → κ) (start : α → β) (merge : β → α → β) (l : List α) : List (κ × β) :=
  l.foldl (fun dict a => add key start merge a dict) []

/-- The value of the entries of one key. -/
def mergeAll (start : α → β) (merge : β → α → β) : List α → Option β
  | [] => none
  | a :: rest => some (rest.foldl merge (start a))

section Dictionary

variable {k : κ} {b : β} {dict : List (κ × β)}

theorem mem_of_value? (h : value? k dict = some b) : (k, b) ∈ dict := by
  induction dict with
  | nil => exact absurd h (by simp [value?])
  | cons kb dict ih =>
    rw [value?] at h
    split_ifs at h with hk
    · rw [← hk, ← Option.some.inj h]
      exact List.mem_cons_self
    · exact List.mem_cons_of_mem _ (ih h)

theorem value?_of_mem (hnodup : (dict.map Prod.fst).Nodup) (h : (k, b) ∈ dict) :
    value? k dict = some b := by
  induction dict with
  | nil => exact absurd h List.not_mem_nil
  | cons kb dict ih =>
    rw [List.map_cons, List.nodup_cons] at hnodup
    rcases List.mem_cons.mp h with rfl | hmem
    · rw [value?, if_pos rfl]
    · have hk : kb.1 ≠ k := fun heq => hnodup.1 (heq ▸ List.mem_map.mpr ⟨(k, b), hmem, rfl⟩)
      rw [value?, if_neg hk, ih hnodup.2 hmem]

theorem value?_map (f : κ → β → β) :
    value? k (dict.map fun kb => (kb.1, f kb.1 kb.2)) = (value? k dict).map (f k) := by
  induction dict with
  | nil => rfl
  | cons kb dict ih =>
    rw [List.map_cons, value?, value?]
    split_ifs with hk
    · rw [Option.map_some, hk]
    · exact ih

end Dictionary

variable {key : α → κ} {start : α → β} {merge : β → α → β} {a : α} {l : List α} {k : κ}
  {dict : List (κ × β)}

theorem value?_add : value? k (add key start merge a dict) =
    if key a = k then some ((value? k dict).elim (start a) fun b => merge b a)
    else value? k dict := by
  induction dict with
  | nil => rfl
  | cons kb dict ih =>
    obtain ⟨k', b⟩ := kb
    rw [add, value?]
    by_cases hk : k' = key a
    · rw [if_pos hk, value?, hk]
      split_ifs
      · rfl
      · rfl
    · rw [if_neg hk, value?, ih]
      by_cases hfound : k' = k
      · rw [if_pos hfound, if_pos hfound, if_neg fun heq => hk (hfound.trans heq.symm)]
      · rw [if_neg hfound, if_neg hfound]

theorem keys_add : (add key start merge a dict).map Prod.fst =
    if key a ∈ dict.map Prod.fst then dict.map Prod.fst else dict.map Prod.fst ++ [key a] := by
  induction dict with
  | nil => rfl
  | cons kb dict ih =>
    obtain ⟨k', b⟩ := kb
    rw [add]
    by_cases hk : k' = key a
    · rw [if_pos hk, List.map_cons, if_pos (by simp [hk])]
      rfl
    · have hmem : key a ∈ List.map Prod.fst ((k', b) :: dict) ↔ key a ∈ dict.map Prod.fst := by
        rw [List.map_cons, List.mem_cons, or_iff_right fun heq => hk heq.symm]
      rw [if_neg hk, List.map_cons, ih, if_congr hmem rfl rfl]
      split_ifs
      · rfl
      · rfl

theorem collect_concat : collect key start merge (l ++ [a]) =
    add key start merge a (collect key start merge l) := by
  rw [collect, collect, List.foldl_append]
  rfl

/-- **What a key finds** is the loop over its own entries. -/
theorem value?_collect : value? k (collect key start merge l) =
    mergeAll start merge (l.filter fun a => key a = k) := by
  induction l using List.reverseRecOn with
  | nil => rfl
  | append_singleton l a ih =>
    rw [collect_concat, value?_add, ih, List.filter_append]
    by_cases hk : key a = k
    · rw [if_pos hk, List.filter_singleton]
      simp only [hk, decide_true]
      cases l.filter fun a => key a = k with
      | nil => rfl
      | cons b rest => simp [mergeAll, List.foldl_append]
    · rw [if_neg hk, List.filter_singleton]
      simp [hk]

theorem value?_collect_first : value? k (collect key start (fun first _ => first) l) =
    (l.find? fun a => key a = k).map start := by
  rw [value?_collect, ← List.head?_filter]
  cases l.filter fun a => key a = k with
  | nil => rfl
  | cons a rest =>
    have hkept : rest.foldl (fun first _ => first) (start a) = start a := by
      induction rest with
      | nil => rfl
      | cons _ rest ih => exact ih
    rw [mergeAll, hkept]
    rfl

theorem keys_collect (key : α → κ) (start : α → β) (merge : β → α → β) (l : List α) :
    ((collect key start merge l).map Prod.fst).Nodup ∧
      ∀ k, k ∈ (collect key start merge l).map Prod.fst ↔ ∃ a ∈ l, key a = k := by
  induction l using List.reverseRecOn with
  | nil => exact ⟨List.nodup_nil, fun k => by simp [collect]⟩
  | append_singleton l a ih =>
    obtain ⟨hnodup, hmem⟩ := ih
    rw [collect_concat, keys_add]
    split_ifs with hold
    · refine ⟨hnodup, fun k => (hmem k).trans ⟨?_, ?_⟩⟩
      · rintro ⟨b, hb, hk⟩
        exact ⟨b, List.mem_append_left _ hb, hk⟩
      · rintro ⟨b, hb, rfl⟩
        rcases List.mem_append.mp hb with hb | hb
        · exact ⟨b, hb, rfl⟩
        · rw [List.mem_singleton.mp hb]
          exact (hmem _).mp hold
    · constructor
      · refine List.nodup_append.mpr ⟨hnodup, List.nodup_singleton _, ?_⟩
        intro x hx y hy heq
        rw [heq, List.mem_singleton.mp hy] at hx
        exact hold hx
      · intro k
        simp only [List.mem_append, List.mem_singleton, hmem k, or_and_right, exists_or,
          exists_eq_left]
        constructor
        · exact Or.imp_right Eq.symm
        · exact Or.imp_right Eq.symm

theorem mem_collect {b : β} : (k, b) ∈ collect key start merge l ↔
    mergeAll start merge (l.filter fun a => key a = k) = some b := by
  rw [← value?_collect]
  constructor
  · exact value?_of_mem (keys_collect key start merge l).1
  · exact mem_of_value?

/-- **A sum over the dictionary** is a sum over the keys. -/
theorem sum_collect [AddCommMonoid M] {f : κ × β → M} {g : κ → M}
    (h : ∀ kb ∈ collect key start merge l, f kb = g kb.1) :
    ((collect key start merge l).map f).sum = ((l.map key).dedup.map g).sum := by
  obtain ⟨hnodup, hmem⟩ := keys_collect key start merge l
  have hperm : ((collect key start merge l).map Prod.fst).Perm (l.map key).dedup := by
    refine (List.perm_ext_iff_of_nodup hnodup (List.nodup_dedup _)).mpr fun k => ?_
    rw [hmem, List.mem_dedup, List.mem_map]
  rw [List.map_congr_left h, ← (hperm.map g).sum_eq, List.map_map]
  rfl

end Buckets
