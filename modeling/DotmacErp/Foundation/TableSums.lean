import DotmacErp.Foundation.Keyed
import Mathlib.Algebra.BigOperators.Group.List.Basic
import Mathlib.Tactic.Abel

/-!
# Sums over the rows of a table

`Table.sum t weight` adds a weight over all rows. A sum over the rows that a query selects is the
sum of a weight that is zero elsewhere (`sum_select`), so one law for each operation — what a row
that is inserted adds (`sum_insert`), what a row that is rewritten changes (`sum_modify`) — serves
every total that a program takes.
-/

namespace Relational

namespace Table

universe u v

variable {α : Type u} {M : Type v} {t : Table α} {k : ℕ} {a : α} {weight weight' : α → M}

def sum [AddCommMonoid M] (t : Table α) (weight : α → M) : M :=
  (t.rows.map fun r => weight r.row).sum

section Monoid

variable [AddCommMonoid M]

@[simp] theorem sum_empty : (empty : Table α).sum weight = 0 := rfl

theorem sum_insert : (t.insert a).sum weight = t.sum weight + weight a := by
  rw [sum, insert, List.map_append, List.sum_append, sum]
  congr 1
  rw [List.map_singleton, List.sum_singleton]

theorem sum_select (p : α → Bool) (amount : α → M) :
    ((t.select p).map fun r => amount r.row).sum = t.sum fun a => if p a then amount a else 0 := by
  rw [select, sum]
  induction t.rows with
  | nil => rfl
  | cons r l ih =>
    rw [List.filter_cons, List.map_cons, List.sum_cons, ← ih]
    by_cases h : p r.row = true
    · rw [if_pos h, if_pos h, List.map_cons, List.sum_cons]
    · rw [if_neg h, if_neg h, zero_add]

theorem sum_congr (h : ∀ k a, t.get? k = some a → weight a = weight' a) :
    t.sum weight = t.sum weight' :=
  congrArg List.sum (List.map_congr_left fun r hr => h r.id r.row (get?_of_mem hr))

theorem sum_eq_zero (h : ∀ k a, t.get? k = some a → weight a = 0) : t.sum weight = 0 := by
  refine List.sum_eq_zero fun w hw => ?_
  obtain ⟨r, hr, rfl⟩ := List.mem_map.mp hw
  exact h r.id r.row (get?_of_mem hr)

theorem sum_add : t.sum (fun a => weight a + weight' a) = t.sum weight + t.sum weight' := by
  rw [sum, sum, sum]
  exact List.sum_map_add

theorem filter_id (t : Table α) (k : ℕ) :
    (t.rows.filter fun r => decide (r.id = k)) =
      (t.get? k).toList.map fun a => (⟨k, a⟩ : Stored α) := by
  cases h : t.get? k with
  | none =>
    refine List.filter_eq_nil_iff.mpr fun r hr hid => ?_
    have hget := get?_of_mem hr
    rw [of_decide_eq_true hid, h] at hget
    exact Option.noConfusion rfl (heq_of_eq hget)
  | some a =>
    have hnodup : (t.rows.filter fun r => decide (r.id = k)).Nodup :=
      t.nodup_ids.of_map.filter _
    refine List.perm_singleton.mp ((List.perm_ext_iff_of_nodup hnodup
      (List.nodup_singleton _)).mpr fun r => ?_)
    rw [List.mem_filter, List.mem_singleton, decide_eq_true_eq]
    constructor
    · rintro ⟨hr, rfl⟩
      rw [Option.some.inj ((get?_of_mem hr).symm.trans h).symm]
    · rintro rfl
      exact ⟨get?_eq_some.mp h, rfl⟩

/-- **A row that is rewritten**: its weight leaves the sum and the new one enters. -/
theorem sum_modify_add (h : t.get? k = some a) (f : α → α) :
    (t.modify k f).sum weight + weight a = t.sum weight + weight (f a) := by
  obtain ⟨l, l', hrows, hmodified⟩ := rows_modify h
  rw [sum, sum, hmodified, hrows]
  simp only [List.map_append, List.map_cons, List.sum_append, List.sum_cons]
  abel

theorem sum_modify_of_eq {f : α → α} (h : ∀ a, t.get? k = some a → weight (f a) = weight a) :
    (t.modify k f).sum weight = t.sum weight := by
  rw [sum, sum, modify, List.map_map]
  refine congrArg List.sum (List.map_congr_left fun r hr => ?_)
  rw [Function.comp_apply]
  split_ifs with hk
  · exact h r.row (by rw [← hk]; exact get?_of_mem hr)
  · rfl

theorem sum_update_of_eq {p : α → Bool} {f : α → α} (h : ∀ a, weight (f a) = weight a) :
    (t.update p f).sum weight = t.sum weight := by
  rw [sum, sum, update, List.map_map]
  refine congrArg List.sum (List.map_congr_left fun r _ => ?_)
  rw [Function.comp_apply]
  split_ifs
  · exact h r.row
  · rfl

theorem rows_insertAll_append (t : Table α) (l : List α) : ∃ new : List (Stored α),
    (t.insertAll l).rows = t.rows ++ new ∧ new.map Stored.row = l ∧ ∀ r ∈ new, t.next ≤ r.id := by
  induction l generalizing t with
  | nil => exact ⟨[], (List.append_nil _).symm, rfl, fun r hr => absurd hr List.not_mem_nil⟩
  | cons a l ih =>
    obtain ⟨new, hrows, hnew, hle⟩ := ih (t.insert a)
    refine ⟨⟨t.next, a⟩ :: new, ?_, ?_, fun r hr => ?_⟩
    · change ((t.insert a).insertAll l).rows = _
      rw [hrows, insert, List.append_assoc]
      rfl
    · rw [List.map_cons, hnew]
    · rcases List.mem_cons.mp hr with rfl | hr
      · exact le_refl t.next
      · have hlt := hle r hr
        rw [next_insert] at hlt
        omega

/-- **New rows, rewritten** after they are stored: their weights then are what they add. -/
theorem sum_mapRows_insertAll (l : List α) {f : Stored α → α} {g : α → α}
    (hold : ∀ r ∈ (t.insertAll l).rows, r.id < t.next → f r = r.row)
    (hnew : ∀ r ∈ (t.insertAll l).rows, t.next ≤ r.id → f r = g r.row) :
    ((t.insertAll l).mapRows f).sum weight =
      t.sum weight + (l.map fun a => weight (g a)).sum := by
  obtain ⟨new, hrows, hmap, hle⟩ := rows_insertAll_append t l
  have hsum : ((t.insertAll l).mapRows f).sum weight =
      ((t.insertAll l).rows.map fun r => weight (f r)).sum := by
    rw [sum, mapRows, List.map_map]
    rfl
  rw [hsum, hrows, List.map_append, List.sum_append, ← hmap, List.map_map, sum]
  congr 1
  · refine congrArg List.sum (List.map_congr_left fun r hr => ?_)
    rw [hold r (by rw [hrows]; exact List.mem_append_left _ hr) (lt_next (get?_of_mem hr))]
  · refine congrArg List.sum (List.map_congr_left fun r hr => ?_)
    rw [hnew r (by rw [hrows]; exact List.mem_append_right _ hr) (hle r hr)]
    rfl

end Monoid

section Group

variable [AddCommGroup M]

theorem sum_modify (h : t.get? k = some a) (f : α → α) :
    (t.modify k f).sum weight = t.sum weight + (weight (f a) - weight a) := by
  have hadd : (t.modify k f).sum weight + weight a = t.sum weight + weight (f a) :=
    sum_modify_add h f
  rw [eq_sub_of_add_eq hadd]
  abel

theorem sum_sub : t.sum (fun a => weight a - weight' a) = t.sum weight - t.sum weight' := by
  refine eq_sub_of_add_eq ?_
  rw [← sum_add]
  simp only [sub_add_cancel]

end Group

end Table

end Relational
