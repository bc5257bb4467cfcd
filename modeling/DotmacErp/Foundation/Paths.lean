import Mathlib.Data.List.Perm.Subperm
import Mathlib.Data.List.Nodup
import Mathlib.Data.Nat.Basic
import Mathlib.Tactic.Common

/-!
# Paths of a finite graph

A finite directed graph is a list of edges with their two ends; several edges may have the same
ends. The paths from a vertex are enumerated by their lengths (`pathsTo`, `mem_pathsTo`).

In an acyclic graph no path is longer than the list of edges (`IsPath.length_le`), so the paths of
at most that length are all of them. In a forest, where no two edges lead to one vertex, there is
one path from a root to each vertex it reaches (`pathsTo_eq_singleton`).
-/

namespace Paths

universe u v

variable {α : Type u} {ε : Type v} {source target : ε → α} {edges : List ε} {a b : α} {p : List ε}
  {e : ε}

inductive IsPath (source target : ε → α) (edges : List ε) (a : α) : α → List ε → Prop
  | start : IsPath source target edges a a []
  | step {p : List ε} {e : ε} (h : IsPath source target edges a (source e) p) (hmem : e ∈ edges) :
      IsPath source target edges a (target e) (p ++ [e])

def pathsTo [DecidableEq α] (source target : ε → α) (edges : List ε) (a : α) : ℕ → α → List (List ε)
  | 0, b => if b = a then [[]] else []
  | n + 1, b => (if b = a then [[]] else []) ++
      (edges.filter fun e => decide (target e = b)).flatMap fun e =>
        (pathsTo source target edges a n (source e)).map (· ++ [e])

/-- The edges lead upwards in some ranking of the nodes. -/
def Acyclic (source target : ε → α) (edges : List ε) : Prop :=
  ∃ rank : α → ℕ, ∀ e ∈ edges, rank (source e) < rank (target e)

def IsForest (target : ε → α) (edges : List ε) : Prop := (edges.map target).Nodup

def IsRoot (target : ε → α) (edges : List ε) (a : α) : Prop := ∀ e ∈ edges, target e ≠ a

/-! ### The enumeration -/

theorem mem_ite_nil [DecidableEq α] : p ∈ (if b = a then [[]] else []) ↔ b = a ∧ p = [] := by
  split_ifs with h
  · rw [List.mem_singleton]
    exact (and_iff_right h).symm
  · exact iff_of_false List.not_mem_nil fun hboth => h hboth.1

theorem isPath_iff : IsPath source target edges a b p ↔ (b = a ∧ p = []) ∨
    ∃ q e, IsPath source target edges a (source e) q ∧ e ∈ edges ∧ target e = b ∧ p = q ++ [e] := by
  constructor
  · intro h
    cases h with
    | start => exact Or.inl ⟨rfl, rfl⟩
    | step h hmem => exact Or.inr ⟨_, _, h, hmem, rfl, rfl⟩
  · rintro (⟨rfl, rfl⟩ | ⟨q, e, h, hmem, rfl, rfl⟩)
    · exact .start
    · exact h.step hmem

theorem mem_pathsTo [DecidableEq α] {n : ℕ} : p ∈ pathsTo source target edges a n b ↔
    IsPath source target edges a b p ∧ p.length ≤ n := by
  induction n generalizing b p with
  | zero =>
    rw [pathsTo, mem_ite_nil, isPath_iff]
    constructor
    · rintro ⟨hb, rfl⟩
      exact ⟨Or.inl ⟨hb, rfl⟩, le_rfl⟩
    · rintro ⟨hstart | ⟨q, e, -, -, -, rfl⟩, hlength⟩
      · exact hstart
      · rw [List.length_append, List.length_singleton] at hlength
        omega
  | succ n ih =>
    rw [pathsTo, List.mem_append, mem_ite_nil, isPath_iff]
    simp only [List.mem_flatMap, List.mem_filter, decide_eq_true_eq, List.mem_map, ih]
    constructor
    · rintro (⟨hb, rfl⟩ | ⟨e, ⟨hmem, htarget⟩, q, ⟨hq, hlength⟩, rfl⟩)
      · exact ⟨Or.inl ⟨hb, rfl⟩, Nat.zero_le _⟩
      · refine ⟨Or.inr ⟨q, e, hq, hmem, htarget, rfl⟩, ?_⟩
        rw [List.length_append, List.length_singleton]
        omega
    · rintro ⟨hstart | ⟨q, e, hq, hmem, htarget, rfl⟩, hlength⟩
      · exact Or.inl hstart
      · rw [List.length_append, List.length_singleton] at hlength
        exact Or.inr ⟨e, ⟨hmem, htarget⟩, q, ⟨hq, by omega⟩, rfl⟩

/-! ### Acyclic graphs -/

theorem IsPath.pairwise_rank {rank : α → ℕ} (hrank : ∀ e ∈ edges, rank (source e) < rank (target e))
    (h : IsPath source target edges a b p) :
    (∀ e ∈ p, e ∈ edges ∧ rank (target e) ≤ rank b) ∧
      p.Pairwise fun e e' => rank (target e) < rank (target e') := by
  induction h with
  | start => exact ⟨fun e he => absurd he List.not_mem_nil, List.Pairwise.nil⟩
  | @step p e h hmem ih =>
    obtain ⟨hbelow, hpairwise⟩ := ih
    have hhigher := hrank e hmem
    constructor
    · intro e' he'
      rcases List.mem_append.mp he' with he' | he'
      · exact ⟨(hbelow e' he').1, le_of_lt (lt_of_le_of_lt (hbelow e' he').2 hhigher)⟩
      · obtain rfl := List.mem_singleton.mp he'
        exact ⟨hmem, le_rfl⟩
    · rw [List.pairwise_append]
      refine ⟨hpairwise, List.pairwise_singleton _ _, fun e' he' last hlast => ?_⟩
      obtain rfl := List.mem_singleton.mp hlast
      exact lt_of_le_of_lt (hbelow e' he').2 hhigher

theorem IsPath.length_le (hacyclic : Acyclic source target edges)
    (h : IsPath source target edges a b p) : p.length ≤ edges.length := by
  obtain ⟨rank, hrank⟩ := hacyclic
  obtain ⟨hbelow, hpairwise⟩ := h.pairwise_rank hrank
  have hnodup : p.Nodup := hpairwise.imp fun hlt heq => by
    rw [heq] at hlt
    exact lt_irrefl _ hlt
  exact (hnodup.subperm fun e he => (hbelow e he).1).length_le

/-! ### Forests -/

theorem IsForest.filter_eq [DecidableEq α] (h : IsForest target edges) (hmem : e ∈ edges) :
    (edges.filter fun e' => decide (target e' = target e)) = [e] := by
  induction edges with
  | nil => exact absurd hmem List.not_mem_nil
  | cons first rest ih =>
    obtain ⟨hfirst, hrest⟩ := List.nodup_cons.mp
      (show (target first :: rest.map target).Nodup from h)
    rcases List.mem_cons.mp hmem with rfl | hlater
    · have hnone : (rest.filter fun e' => decide (target e' = target e)) = [] := by
        refine List.filter_eq_nil_iff.mpr fun e' he' hsame => hfirst ?_
        rw [← of_decide_eq_true hsame]
        exact List.mem_map_of_mem he'
      rw [List.filter_cons_of_pos (by simp), hnone]
    · have hother : ¬ target first = target e := by
        intro hsame
        rw [hsame] at hfirst
        exact hfirst (List.mem_map_of_mem hlater)
      rw [List.filter_cons_of_neg (by simpa using hother), ih hrest hlater]

/-- **In a forest there is one path** from a root to a vertex. -/
theorem pathsTo_eq_singleton [DecidableEq α] (hforest : IsForest target edges)
    (hroot : IsRoot target edges a) (h : IsPath source target edges a b p) {n : ℕ}
    (hn : p.length ≤ n) : pathsTo source target edges a n b = [p] := by
  have hnone : (edges.filter fun e => decide (target e = a)) = [] :=
    List.filter_eq_nil_iff.mpr fun e he hsame => hroot e he (of_decide_eq_true hsame)
  induction h generalizing n with
  | start =>
    cases n with
    | zero => rw [pathsTo, if_pos rfl]
    | succ n => rw [pathsTo, if_pos rfl, hnone, List.flatMap_nil, List.append_nil]
  | @step p e h hmem ih =>
    rw [List.length_append, List.length_singleton] at hn
    obtain ⟨m, rfl⟩ : ∃ m, n = m + 1 := ⟨n - 1, by omega⟩
    rw [pathsTo, if_neg (hroot e hmem), hforest.filter_eq hmem, List.nil_append,
      List.flatMap_singleton, ih (by omega), List.map_singleton]

theorem IsPath.of_target (hforest : IsForest target edges) (hmem : e ∈ edges)
    (hroot : IsRoot target edges a) (h : IsPath source target edges a (target e) p) :
    ∃ q, IsPath source target edges a (source e) q ∧ p = q ++ [e] := by
  rcases isPath_iff.mp h with ⟨heq, -⟩ | ⟨q, e', hq, hmem', hsame, rfl⟩
  · exact absurd heq (hroot e hmem)
  · obtain rfl : e' = e := List.inj_on_of_nodup_map hforest hmem' hmem hsame
    exact ⟨q, hq, rfl⟩

end Paths
