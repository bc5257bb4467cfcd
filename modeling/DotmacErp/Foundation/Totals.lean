import Mathlib.Algebra.BigOperators.Group.Finset.Piecewise
import Mathlib.Algebra.BigOperators.Group.List.Basic
import Mathlib.Algebra.BigOperators.Ring.List
import Mathlib.Algebra.Order.Field.Rat
import Mathlib.Tactic.Abel
import Mathlib.Tactic.Common

/-!
# Totals by key

`total amount key k l` adds an amount over the entries of a list that fall under a key: the
debits of a batch, the net movement of an account and its dimensions, the transaction count of
a balance.

Totals are additive in the list (`total_append`) and in the amount (`total_sub`), they see an
entry only through its key and amount (`total_map`, `total_congr`), and the totals over a set of
keys add up to what falls under them (`sum_total`), so a list balanced under every key is balanced.
-/

namespace Totals

variable {ρ σ κ M : Type*} [DecidableEq κ] [AddCommMonoid M]

def total (amount : ρ → M) (key : ρ → κ) (k : κ) (l : List ρ) : M :=
  ((l.filter fun r => key r = k).map amount).sum

variable {amount amount' : ρ → M} {key : ρ → κ} {k : κ} {l l' : List ρ}

@[simp] theorem total_nil : total amount key k [] = 0 := rfl

theorem total_cons (r : ρ) (l : List ρ) :
    total amount key k (r :: l) =
      (if key r = k then amount r else 0) + total amount key k l := by
  rw [total, List.filter_cons]
  by_cases h : key r = k <;> simp [h, total]

@[simp] theorem total_append :
    total amount key k (l ++ l') = total amount key k l + total amount key k l' := by
  rw [total, List.filter_append, List.map_append, List.sum_append, total, total]

theorem total_of_forall_eq {g : κ} (h : ∀ r ∈ l, key r = g) :
    total amount key k l = if k = g then (l.map amount).sum else 0 := by
  split_ifs with hk
  · rw [total, List.filter_eq_self.mpr fun r hr => by simpa [hk] using h r hr]
  · rw [total, List.filter_eq_nil_iff.mpr fun r hr => by simpa [h r hr] using Ne.symm hk]
    rfl

theorem total_eq_zero_of (h : ∀ r ∈ l, key r = k → amount r = 0) : total amount key k l = 0 := by
  refine List.sum_eq_zero fun a ha => ?_
  obtain ⟨r, hr, rfl⟩ := List.mem_map.mp ha
  obtain ⟨hmem, hkey⟩ := List.mem_filter.mp hr
  exact h r hmem (of_decide_eq_true hkey)

theorem total_eq_zero (h : ∀ r ∈ l, key r ≠ k) : total amount key k l = 0 :=
  total_eq_zero_of fun r hr hkey => absurd hkey (h r hr)

theorem total_filter (p : ρ → Bool) (l : List ρ) :
    total amount key k (l.filter p) = total (fun r => if p r then amount r else 0) key k l := by
  induction l with
  | nil => rfl
  | cons r l ih =>
    rw [List.filter_cons, total_cons]
    by_cases h : p r = true
    · rw [if_pos h, if_pos h, total_cons, ih]
    · rw [if_neg h, if_neg h, ite_self, zero_add, ih]

theorem total_map (f : σ → ρ) (l : List σ) :
    total amount key k (l.map f) = total (fun r => amount (f r)) (fun r => key (f r)) k l := by
  rw [total, List.filter_map, List.map_map]
  rfl

theorem total_filterMap {f : σ → Option ρ} {amount' : σ → M} {key' : σ → κ} (l : List σ)
    (hkey : ∀ s r, f s = some r → key r = key' s) (hamount : ∀ s, amount' s = (f s).elim 0 amount) :
    total amount key k (l.filterMap f) = total amount' key' k l := by
  induction l with
  | nil => rfl
  | cons s l ih =>
    cases hs : f s with
    | none => rw [List.filterMap_cons_none hs, total_cons, ih, hamount, hs, Option.elim_none,
        ite_self, zero_add]
    | some r => rw [List.filterMap_cons_some hs, total_cons, total_cons, ih, hkey s r hs, hamount,
        hs, Option.elim_some]

theorem sum_filter_map (p : ρ → Bool) (l : List ρ) :
    ((l.filter p).map amount).sum = (l.map fun r => if p r then amount r else 0).sum := by
  induction l with
  | nil => rfl
  | cons r l ih =>
    rw [List.filter_cons, List.map_cons, List.sum_cons, ← ih]
    by_cases h : p r = true
    · rw [if_pos h, if_pos h, List.map_cons, List.sum_cons]
    · rw [if_neg h, if_neg h, zero_add]

theorem sum_filter_or {p q : ρ → Bool} (h : ∀ r ∈ l, p r = true → q r = false) :
    ((l.filter fun r => p r || q r).map amount).sum =
      ((l.filter p).map amount).sum + ((l.filter q).map amount).sum := by
  induction l with
  | nil => simp
  | cons r l ih =>
    have hrest := ih fun r' hr' => h r' (List.mem_cons_of_mem _ hr')
    rw [List.filter_cons, List.filter_cons, List.filter_cons]
    by_cases hp : p r = true
    · have hq := h r List.mem_cons_self hp
      simp [hp, hq, hrest, add_assoc]
    · by_cases hq : q r = true
      · simp [hp, hq, hrest, add_left_comm]
      · simp [hp, hq, hrest]

theorem total_congr {key' : ρ → κ} (h : ∀ r ∈ l, key r = key' r ∧ amount r = amount' r) :
    total amount key k l = total amount' key' k l := by
  induction l with
  | nil => rfl
  | cons r l ih =>
    rw [total_cons, total_cons, (h r (by simp)).1, (h r (by simp)).2,
      ih fun r hr => h r (by simp [hr])]

theorem total_of_forall₂ {amount' : σ → M} {key' : σ → κ} {l' : List σ}
    (h : List.Forall₂ (fun r r' => key r = key' r' ∧ amount r = amount' r') l l') :
    total amount key k l = total amount' key' k l' := by
  induction h with
  | nil => rfl
  | cons hhead _ ih => rw [total_cons, total_cons, ih, hhead.1, hhead.2]

/-- The totals over a set of keys add up to the sum over the entries that fall under one of
them. -/
theorem sum_total (keys : Finset κ) (l : List ρ) :
    ∑ k ∈ keys, total amount key k l =
      (l.map fun r => if key r ∈ keys then amount r else 0).sum := by
  induction l with
  | nil => simp
  | cons r l ih =>
    simp only [total_cons, Finset.sum_add_distrib, Finset.sum_ite_eq, ih, List.map_cons,
      List.sum_cons]

theorem sum_eq_sum_total {keys : Finset κ} (h : ∀ r ∈ l, key r ∈ keys) :
    (l.map amount).sum = ∑ k ∈ keys, total amount key k l := by
  rw [sum_total]
  exact congrArg List.sum (List.map_congr_left fun r hr => (if_pos (h r hr)).symm)

theorem sum_eq_sum_of_total_eq (h : ∀ k, total amount key k l = total amount' key k l) :
    (l.map amount).sum = (l.map amount').sum := by
  have hkeys : ∀ r ∈ l, key r ∈ (l.map key).toFinset := fun r hr => by
    simpa using ⟨r, hr, rfl⟩
  rw [sum_eq_sum_total hkeys, sum_eq_sum_total hkeys]
  exact Finset.sum_congr rfl fun k _ => h k

theorem total_add :
    total (fun r => amount r + amount' r) key k l =
      total amount key k l + total amount' key k l := by
  induction l with
  | nil => simp
  | cons r l ih =>
    rw [total_cons, total_cons, total_cons, ih]
    by_cases h : key r = k
    · simp only [h, if_true]
      abel
    · simp [h]

section Group

variable {M : Type*} [AddCommGroup M] {amount amount' : ρ → M}

theorem total_sub :
    total (fun r => amount r - amount' r) key k l =
      total amount key k l - total amount' key k l := by
  induction l with
  | nil => simp
  | cons r l ih =>
    rw [total_cons, total_cons, total_cons, ih]
    by_cases h : key r = k
    · simp only [h, if_true]
      abel
    · simp [h]

theorem total_neg : total (fun r => -amount r) key k l = -total amount key k l := by
  induction l with
  | nil => simp
  | cons r l ih =>
    rw [total_cons, total_cons, ih]
    by_cases h : key r = k
    · simp only [h, if_true]
      abel
    · simp [h]

end Group

end Totals
