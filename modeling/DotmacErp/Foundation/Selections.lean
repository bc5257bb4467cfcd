import DotmacErp.Foundation.Keyed
import DotmacErp.Foundation.Totals
import Mathlib.Data.List.Find

/-!
# What an operation does to a selection

The rows a query selects, after an operation on the table: a new row joins the selection or not,
and a rewriting that keeps the condition of the query rewrites the selected rows in place. A sum
over a selection follows from these equations with the sums of lists.
-/

namespace Relational.Table

universe u

variable {α : Type u} {t : Table α} {k : ℕ} {a : α} {p q : α → Bool} {f : α → α}

theorem row_eq_of_id_eq {r r' : Stored α} (hr : r ∈ t.rows) (hr' : r' ∈ t.rows)
    (h : r.id = r'.id) : r = r' :=
  List.inj_on_of_nodup_map t.nodup_ids hr hr' h

theorem get?_modify_cases {i : ℕ} {b : α} (h : (t.modify k f).get? i = some b) :
    (i ≠ k ∧ t.get? i = some b) ∨ (i = k ∧ ∃ a, t.get? k = some a ∧ b = f a) := by
  obtain ⟨a, ha, rfl⟩ := get?_modify_eq_some.mp h
  by_cases hi : i = k
  · subst hi
    exact .inr ⟨rfl, a, ha, if_pos rfl⟩
  · exact .inl ⟨hi, by rw [if_neg hi]; exact ha⟩

theorem get?_insert_cases {i : ℕ} {a b : α} (h : (t.insert a).get? i = some b) :
    t.get? i = some b ∨ (i = t.next ∧ b = a) := by
  rw [get?_insert] at h
  split_ifs at h with hi
  · exact .inr ⟨hi, (Option.some.inj h).symm⟩
  · exact .inl h

theorem select_insert :
    (t.insert a).select q = t.select q ++ if q a then [⟨t.next, a⟩] else [] := by
  rw [select, insert, List.filter_append]
  congr 1
  by_cases h : q a <;> simp [h]

theorem get?_update_eq_some {b : α} :
    (t.update p f).get? k = some b ↔ ∃ a, t.get? k = some a ∧ b = if p a then f a else a := by
  rw [get?_update, Option.map_eq_some_iff]
  exact exists_congr fun a => and_congr_right fun _ => eq_comm

theorem select_update (h : ∀ a, q (f a) = q a) : (t.update p f).select q =
    (t.select q).map fun r => ⟨r.id, if p r.row then f r.row else r.row⟩ := by
  have hkept : ∀ r : Stored α, q (if p r.row then f r.row else r.row) = q r.row := by
    intro r
    split_ifs with hp
    · exact h r.row
    · rfl
  rw [select, update, List.filter_map, select]
  congr 1
  exact List.filter_congr fun r _ => hkept r

theorem select_update_of_disjoint (h : ∀ a, p a = true → q a = false ∧ q (f a) = false) :
    (t.update p f).select q = t.select q := by
  rw [select, update, List.filter_map, select]
  have hkept : ∀ r : Stored α, q (if p r.row then f r.row else r.row) = q r.row := by
    intro r
    split_ifs with hp
    · exact (h r.row hp).2.trans (h r.row hp).1.symm
    · rfl
  refine Eq.trans (congrArg _ (List.filter_congr fun r _ => hkept r)) ?_
  refine (List.map_congr_left fun r hr => ?_).trans (List.map_id _)
  have hq := List.of_mem_filter hr
  rw [if_neg fun hp => by simp [(h r.row hp).1] at hq]
  rfl

theorem select_update_of_forall (hnone : ∀ r ∈ t.rows, q r.row = false)
    (h : ∀ a, p a = true → q (f a) = true) :
    (t.update p f).select q = (t.select p).map fun r => ⟨r.id, f r.row⟩ := by
  have hmatch : ∀ r ∈ t.rows, q (if p r.row then f r.row else r.row) = p r.row := by
    intro r hr
    by_cases hp : p r.row = true
    · rw [if_pos hp, h r.row hp, hp]
    · rw [if_neg hp, hnone r hr, Bool.eq_false_iff.mpr hp]
  rw [select, update, List.filter_map, select]
  refine Eq.trans (congrArg _ (List.filter_congr hmatch)) (List.map_congr_left fun r hr => ?_)
  rw [if_pos (List.of_mem_filter hr)]

theorem select_modify (h : ∀ a, q (f a) = q a) : (t.modify k f).select q =
    (t.select q).map fun r => if r.id = k then ⟨r.id, f r.row⟩ else r := by
  rw [select, modify, List.filter_map, select]
  congr 1
  refine List.filter_congr fun r _ => ?_
  rw [Function.comp_apply]
  split_ifs with hk
  · exact h r.row
  · rfl

theorem select_modify_of_unselected (h : ∀ a, t.get? k = some a → q a = false ∧ q (f a) = false) :
    (t.modify k f).select q = t.select q := by
  have hunselected : ∀ r ∈ t.rows, r.id = k → q r.row = false ∧ q (f r.row) = false := by
    rintro r hr rfl
    exact h r.row (get?_of_mem hr)
  rw [select, modify, List.filter_map, select]
  have hmatch : ∀ r ∈ t.rows, ((fun r : Stored α => q r.row) ∘
      fun r => if r.id = k then ⟨r.id, f r.row⟩ else r) r = q r.row := by
    intro r hr
    rw [Function.comp_apply]
    split_ifs with hk
    · obtain ⟨hbefore, hafter⟩ := hunselected r hr hk
      exact hafter.trans hbefore.symm
    · rfl
  rw [List.filter_congr hmatch]
  refine (List.map_congr_left fun r hr => ?_).trans (List.map_id _)
  obtain ⟨hmem, hselected⟩ := List.mem_filter.mp hr
  have hne : r.id ≠ k := by
    intro hk
    rw [(hunselected r hmem hk).1] at hselected
    exact Bool.false_ne_true hselected
  rw [if_neg hne]
  rfl

theorem sum_select_modify {M : Type*} [AddMonoid M] {amount : α → M} (h : ∀ a, q (f a) = q a)
    (hamount : ∀ a, amount (f a) = amount a) :
    (((t.modify k f).select q).map fun r => amount r.row).sum =
      ((t.select q).map fun r => amount r.row).sum := by
  rw [select_modify h, List.map_map]
  congr 1
  refine List.map_congr_left fun r _ => ?_
  rw [Function.comp_apply]
  split_ifs with hk
  · exact hamount r.row
  · rfl

theorem sum_filter_add_sum_filter_not {M : Type*} [AddCommMonoid M] (l : List α) (p : α → Bool)
    (amount : α → M) :
    ((l.filter p).map amount).sum + ((l.filter fun a => !p a).map amount).sum =
      (l.map amount).sum := by
  rw [← List.sum_append, ← List.map_append]
  exact ((List.filter_append_perm p l).map amount).sum_eq

/-! ### Rewriting every row -/

section MapRows

variable {g h : Stored α → α}

theorem modify_eq_mapRows :
    t.modify k f = t.mapRows fun r => if r.id = k then f r.row else r.row := by
  refine eq_of_rows_eq (List.map_congr_left fun r _ => ?_) rfl
  by_cases hk : r.id = k <;> simp [hk]

theorem mapRows_mapRows :
    (t.mapRows g).mapRows h = t.mapRows fun r => h ⟨r.id, g r⟩ :=
  eq_of_rows_eq List.map_map rfl

theorem mapRows_congr (h' : ∀ r ∈ t.rows, g r = h r) : t.mapRows g = t.mapRows h :=
  eq_of_rows_eq (List.map_congr_left fun r hr => by rw [h' r hr]) rfl

theorem mapRows_row : t.mapRows Stored.row = t :=
  eq_of_rows_eq (List.map_id t.rows) rfl

theorem modifyAll_eq_mapRows {M : Type*} [AddCommMonoid M] {f : M → α → α} (hzero : ∀ a, f 0 a = a)
    (hadd : ∀ x y a, f y (f x a) = f (x + y) a) (changes : List (ℕ × M)) : t.modifyAll f changes =
      t.mapRows fun r => f (Totals.total Prod.snd Prod.fst r.id changes) r.row := by
  induction changes generalizing t with
  | nil =>
    refine mapRows_row.symm.trans (mapRows_congr fun r _ => ?_)
    rw [Totals.total_nil, hzero]
  | cons change changes ih =>
    have hstep : t.modifyAll f (change :: changes) =
        (t.modify change.1 (f change.2)).modifyAll f changes := rfl
    rw [hstep, ih, modify_eq_mapRows, mapRows_mapRows]
    refine mapRows_congr fun r _ => ?_
    rw [Totals.total_cons]
    by_cases hid : r.id = change.1
    · simp only [hid, if_true, hadd]
    · simp only [hid, Ne.symm hid, if_false, zero_add]

theorem select_mapRows (h : ∀ r ∈ t.rows, q (g r) = q r.row) :
    (t.mapRows g).select q = (t.select q).map fun r => ⟨r.id, g r⟩ := by
  rw [select, mapRows, List.filter_map, select]
  exact congrArg _ (List.filter_congr h)

theorem find?_mapRows (h : ∀ r ∈ t.rows, q (g r) = q r.row) :
    (t.mapRows g).find? q = (t.find? q).map fun r => ⟨r.id, g r⟩ := by
  rw [find?, mapRows, List.find?_map, find?]
  exact congrArg _ (List.find?_congr h)

end MapRows

theorem nodup_ids_select (t : Table α) (q : α → Bool) : ((t.select q).map Stored.id).Nodup :=
  t.nodup_ids.sublist (List.filter_sublist.map Stored.id)

theorem insertAll_append (l l' : List α) :
    t.insertAll (l ++ l') = (t.insertAll l).insertAll l' := List.foldl_append

theorem rows_insertAll (l : List α) :
    ((t.insertAll l).rows.map Stored.row) = t.rows.map Stored.row ++ l := by
  induction l generalizing t with
  | nil => simp [insertAll]
  | cons a l ih =>
    have hstep : t.insertAll (a :: l) = (t.insert a).insertAll l := rfl
    rw [hstep, ih, insert, List.map_append, List.append_assoc]
    rfl

theorem rows_select_insertAll (l : List α) :
    ((t.insertAll l).select q).map Stored.row = (t.select q).map Stored.row ++ l.filter q := by
  have hfilter : ∀ rows : List (Stored α),
      (rows.filter fun r => q r.row).map Stored.row = (rows.map Stored.row).filter q := by
    intro rows
    rw [List.filter_map]
    rfl
  rw [select, select, hfilter, hfilter, rows_insertAll, List.filter_append]

theorem next_le_insertAll (l : List α) : t.next ≤ (t.insertAll l).next := by
  induction l generalizing t with
  | nil => exact Nat.le_refl _
  | cons a l ih => exact Nat.le_trans (Nat.le_succ _) (ih (t := t.insert a))

theorem get?_insertAll_cases {l : List α} (h : (t.insertAll l).get? k = some a) :
    t.get? k = some a ∨ (a ∈ l ∧ t.next ≤ k) := by
  induction l generalizing t with
  | nil => exact .inl h
  | cons b l ih =>
    rcases ih (t := t.insert b) h with hold | ⟨hmem, hle⟩
    · rw [get?_insert] at hold
      split_ifs at hold with hk
      · obtain rfl := Option.some.inj hold
        exact .inr ⟨List.mem_cons_self, Nat.le_of_eq hk.symm⟩
      · exact .inl hold
    · rw [next_insert] at hle
      exact .inr ⟨List.mem_cons_of_mem b hmem, by omega⟩

end Relational.Table
