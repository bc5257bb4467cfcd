import Mathlib.Data.List.Basic
import Mathlib.Data.List.Pairwise
import Mathlib.Data.List.Nodup
import Mathlib.Tactic.Common

/-!
# Tables under surrogate keys

A `Table α` is a relational table: records of `α` under surrogate keys handed out in
creation order. The invariant travels with the table — keys are strictly increasing along
the rows and lie below the next key to be issued — so a fresh key is never in use and a key
names at most one row; no user of the library states either fact again.

Every operation has one lookup equation (`get?_insert`, `get?_modify`, `get?_update`,
`get?_mapRows`, `get?_erase`), and every query one membership equation (`find?_eq_some`,
`find?_eq_none`, `mem_select`), so a proof about a program that reads and writes tables works
with lookups only and never with the underlying list.
-/

namespace Relational

universe u

/-- A row under its key. -/
structure Stored (α : Type u) where
  id : ℕ
  row : α
  deriving DecidableEq

/-- A table: rows in creation order, under strictly increasing keys below `next`. -/
structure Table (α : Type u) where
  rows : List (Stored α)
  next : ℕ
  ordered : (rows.map Stored.id).Pairwise (· < ·)
  below : ∀ r ∈ rows, r.id < next

namespace Table

variable {α : Type u} {t : Table α} {k : ℕ} {a : α}

def empty : Table α := ⟨[], 0, List.Pairwise.nil, by simp⟩

/-- The record under a key, if there is one. -/
def get? (t : Table α) (k : ℕ) : Option α :=
  (t.rows.find? fun r => r.id == k).map Stored.row

/-- Store a record under the next key. -/
def insert (t : Table α) (a : α) : Table α where
  rows := t.rows ++ [⟨t.next, a⟩]
  next := t.next + 1
  ordered := by
    rw [List.map_append, List.pairwise_append]
    refine ⟨t.ordered, by simp, fun x hx y hy => ?_⟩
    obtain ⟨r, hr, rfl⟩ := List.mem_map.mp hx
    simp only [List.map_cons, List.map_nil, List.mem_singleton] at hy
    exact hy ▸ t.below r hr
  below := by
    intro r hr
    rcases List.mem_append.mp hr with h | h
    · exact Nat.lt_trans (t.below r h) (Nat.lt_succ_self _)
    · simp only [List.mem_singleton] at h
      simp [h]

/-- Rewrite the record under a key; nothing happens when the key is not in use. -/
def modify (t : Table α) (k : ℕ) (f : α → α) : Table α where
  rows := t.rows.map fun r => if r.id = k then ⟨r.id, f r.row⟩ else r
  next := t.next
  ordered := by
    have hid : (t.rows.map fun r => if r.id = k then (⟨r.id, f r.row⟩ : Stored α) else r).map
        Stored.id = t.rows.map Stored.id := by
      rw [List.map_map]
      refine List.map_congr_left fun r _ => ?_
      by_cases h : r.id = k <;> simp [h]
    rw [hid]
    exact t.ordered
  below := by
    intro r hr
    obtain ⟨r', hr', rfl⟩ := List.mem_map.mp hr
    by_cases h : r'.id = k
    · simpa [h] using h ▸ t.below r' hr'
    · simpa [h] using t.below r' hr'

/-- Rewrite every record that satisfies `p`. -/
def update (t : Table α) (p : α → Bool) (f : α → α) : Table α where
  rows := t.rows.map fun r => ⟨r.id, if p r.row then f r.row else r.row⟩
  next := t.next
  ordered := by
    rw [List.map_map]
    exact t.ordered
  below := by
    intro r hr
    obtain ⟨r', hr', rfl⟩ := List.mem_map.mp hr
    exact t.below r' hr'

/-- Rewrite every record, with its key in view. -/
def mapRows (t : Table α) (f : Stored α → α) : Table α where
  rows := t.rows.map fun r => ⟨r.id, f r⟩
  next := t.next
  ordered := by
    rw [List.map_map]
    exact t.ordered
  below := by
    intro r hr
    obtain ⟨r', hr', rfl⟩ := List.mem_map.mp hr
    exact t.below r' hr'

/-- Rewrite rows, one after another. -/
def modifyAll {γ : Type*} (f : γ → α → α) (changes : List (ℕ × γ)) (t : Table α) : Table α :=
  changes.foldl (fun t change => t.modify change.1 (f change.2)) t

/-- Remove the record under a key. Its key is never issued again. -/
def erase (t : Table α) (k : ℕ) : Table α where
  rows := t.rows.filter fun r => r.id != k
  next := t.next
  ordered := t.ordered.sublist ((List.filter_sublist (l := t.rows)).map Stored.id)
  below := fun r hr => t.below r (List.mem_of_mem_filter hr)

/-- The first row, in creation order, whose record satisfies `p`. -/
def find? (t : Table α) (p : α → Bool) : Option (Stored α) :=
  t.rows.find? fun r => p r.row

/-- The rows, in creation order, whose records satisfy `p`. -/
def select (t : Table α) (p : α → Bool) : List (Stored α) :=
  t.rows.filter fun r => p r.row

/-! ### Lookup -/

theorem nodup_ids (t : Table α) : (t.rows.map Stored.id).Nodup :=
  t.ordered.imp fun h => Nat.ne_of_lt h

theorem get?_eq_some : t.get? k = some a ↔ (⟨k, a⟩ : Stored α) ∈ t.rows := by
  rw [get?, Option.map_eq_some_iff]
  constructor
  · rintro ⟨r, hr, rfl⟩
    have hk : r.id = k := by simpa using List.find?_some hr
    exact hk ▸ List.mem_of_find?_eq_some hr
  · intro h
    have hsome : (t.rows.find? fun r => r.id == k).isSome :=
      List.find?_isSome.mpr ⟨_, h, by simp⟩
    obtain ⟨r, hr⟩ := Option.isSome_iff_exists.mp hsome
    refine ⟨r, hr, ?_⟩
    have hk : r.id = k := by simpa using List.find?_some hr
    have heq : r = ⟨k, a⟩ :=
      List.inj_on_of_nodup_map t.nodup_ids (List.mem_of_find?_eq_some hr) h (by simp [hk])
    rw [heq]

theorem get?_of_mem {r : Stored α} (h : r ∈ t.rows) : t.get? r.id = some r.row :=
  get?_eq_some.mpr h

theorem lt_next (h : t.get? k = some a) : k < t.next :=
  t.below _ (get?_eq_some.mp h)

@[simp] theorem get?_next (t : Table α) : t.get? t.next = none := by
  rw [Option.eq_none_iff_forall_ne_some]
  exact fun a h => Nat.lt_irrefl _ (lt_next h)

@[simp] theorem get?_empty : (empty : Table α).get? k = none := rfl

/-! ### The lookup equations of the operations -/

@[simp] theorem next_insert (t : Table α) (a : α) : (t.insert a).next = t.next + 1 := rfl

@[simp] theorem next_modify (t : Table α) (k : ℕ) (f : α → α) : (t.modify k f).next = t.next :=
  rfl

@[simp] theorem next_update (t : Table α) (p : α → Bool) (f : α → α) :
    (t.update p f).next = t.next := rfl

@[simp] theorem next_erase (t : Table α) (k : ℕ) : (t.erase k).next = t.next := rfl

theorem get?_insert (t : Table α) (a : α) (k : ℕ) :
    (t.insert a).get? k = if k = t.next then some a else t.get? k := by
  have hstored : ∀ b, (t.insert a).get? k = some b ↔
      t.get? k = some b ∨ (k = t.next ∧ b = a) := by
    intro b
    simp only [get?_eq_some, insert, List.mem_append, List.mem_singleton, Stored.mk.injEq]
  split_ifs with h
  · exact (hstored a).mpr (Or.inr ⟨h, rfl⟩)
  · ext b
    simp [hstored, h]

@[simp] theorem get?_insert_self (t : Table α) (a : α) : (t.insert a).get? t.next = some a := by
  simp [get?_insert]

theorem get?_insert_of_some (h : t.get? k = some a) (b : α) :
    (t.insert b).get? k = some a := by
  rw [get?_insert, if_neg (Nat.ne_of_lt (lt_next h)), h]

theorem get?_modify (t : Table α) (k k' : ℕ) (f : α → α) :
    (t.modify k f).get? k' = if k' = k then (t.get? k').map f else t.get? k' := by
  have hid : ∀ r : Stored α,
      (if r.id = k then (⟨r.id, f r.row⟩ : Stored α) else r).id = r.id := by
    intro r
    by_cases h : r.id = k <;> simp [h]
  rw [get?, modify, List.find?_map, Option.map_map]
  simp only [Function.comp_def, hid]
  rw [get?]
  cases hr : t.rows.find? fun r => r.id == k' with
  | none => simp
  | some r =>
    have hk : r.id = k' := by simpa using List.find?_some hr
    by_cases h : k' = k <;> simp [hk, h]

@[simp] theorem get?_modify_self (t : Table α) (k : ℕ) (f : α → α) :
    (t.modify k f).get? k = (t.get? k).map f := by
  simp [get?_modify]

theorem get?_modify_of_ne {k' : ℕ} (h : k' ≠ k) (f : α → α) :
    (t.modify k f).get? k' = t.get? k' := by
  simp [get?_modify, h]

@[simp] theorem get?_update (t : Table α) (p : α → Bool) (f : α → α) (k : ℕ) :
    (t.update p f).get? k = (t.get? k).map fun a => if p a then f a else a := by
  rw [get?, update, List.find?_map, get?, Option.map_map, Option.map_map]
  rfl

@[simp] theorem get?_mapRows (t : Table α) (f : Stored α → α) (k : ℕ) :
    (t.mapRows f).get? k = (t.get? k).map fun a => f ⟨k, a⟩ := by
  have hstored : ∀ b, (t.mapRows f).get? k = some b ↔ ∃ a, t.get? k = some a ∧ f ⟨k, a⟩ = b := by
    intro b
    simp only [get?_eq_some, mapRows, List.mem_map, Stored.mk.injEq]
    constructor
    · rintro ⟨⟨_, a⟩, hr, rfl, rfl⟩
      exact ⟨a, hr, rfl⟩
    · rintro ⟨a, ha, rfl⟩
      exact ⟨⟨k, a⟩, ha, rfl, rfl⟩
  ext b
  rw [hstored]
  simp

theorem get?_erase (t : Table α) (k k' : ℕ) :
    (t.erase k).get? k' = if k' = k then none else t.get? k' := by
  have hstored : ∀ b, (t.erase k).get? k' = some b ↔ t.get? k' = some b ∧ k' ≠ k := by
    intro b
    simp [get?_eq_some, erase, List.mem_filter]
  split_ifs with h
  · rw [Option.eq_none_iff_forall_ne_some]
    exact fun b hb => ((hstored b).mp hb).2 h
  · ext b
    simp [hstored, h]

theorem modify_modify (t : Table α) (k : ℕ) (f g : α → α) :
    (t.modify k f).modify k g = t.modify k fun a => g (f a) := by
  simp only [modify, List.map_map, mk.injEq, and_true]
  refine List.map_congr_left fun r _ => ?_
  by_cases h : r.id = k <;> simp [h]

theorem modify_insert_next (t : Table α) (a : α) (f : α → α) :
    (t.insert a).modify t.next f = t.insert (f a) := by
  have hold : t.rows.map (fun r => if r.id = t.next then (⟨r.id, f r.row⟩ : Stored α) else r) =
      t.rows := by
    conv_rhs => rw [← List.map_id t.rows]
    exact List.map_congr_left fun r hr => if_neg (Nat.ne_of_lt (t.below r hr))
  simp only [modify, insert, List.map_append, hold]
  simp

section ModifyAll

variable {γ : Type*} {f : γ → α → α} {changes : List (ℕ × γ)} {c : γ}

theorem get?_modifyAll_of_notMem (h : k ∉ changes.map Prod.fst) :
    (t.modifyAll f changes).get? k = t.get? k := by
  induction changes generalizing t with
  | nil => rfl
  | cons change changes ih =>
    rw [List.map_cons, List.mem_cons, not_or] at h
    exact (ih h.2).trans (get?_modify_of_ne h.1 _)

theorem get?_modifyAll_of_mem (hnodup : (changes.map Prod.fst).Nodup) (h : (k, c) ∈ changes) :
    (t.modifyAll f changes).get? k = (t.get? k).map (f c) := by
  induction changes generalizing t with
  | nil => exact absurd h List.not_mem_nil
  | cons change changes ih =>
    rw [List.map_cons, List.nodup_cons] at hnodup
    rcases List.mem_cons.mp h with rfl | hlater
    · exact (get?_modifyAll_of_notMem hnodup.1).trans (get?_modify_self _ _ _)
    · have hne : k ≠ change.1 := fun heq =>
        hnodup.1 (List.mem_map.mpr ⟨(k, c), hlater, heq⟩)
      exact (ih hnodup.2 hlater).trans (congrArg (Option.map (f c)) (get?_modify_of_ne hne _))

end ModifyAll

theorem rows_modify (h : t.get? k = some a) : ∃ l l', t.rows = l ++ ⟨k, a⟩ :: l' ∧
    ∀ f, (t.modify k f).rows = l ++ ⟨k, f a⟩ :: l' := by
  obtain ⟨l, l', hrows⟩ := List.append_of_mem (get?_eq_some.mp h)
  refine ⟨l, l', hrows, fun f => ?_⟩
  -- no other row has the key
  have hnodup := t.nodup_ids
  rw [hrows, List.map_append, List.map_cons, List.nodup_append, List.nodup_cons] at hnodup
  obtain ⟨-, ⟨hafter, -⟩, hbefore⟩ := hnodup
  have hold : ∀ r, r ∈ l ∨ r ∈ l' →
      (if r.id = k then (⟨r.id, f r.row⟩ : Stored α) else r) = r := by
    intro r hr
    refine if_neg fun hk => ?_
    rcases hr with hr | hr
    · exact hbefore r.id (List.mem_map.mpr ⟨r, hr, rfl⟩) k List.mem_cons_self hk
    · exact hafter (List.mem_map.mpr ⟨r, hr, hk⟩)
  change t.rows.map _ = _
  rw [hrows, List.map_append, List.map_cons, if_pos rfl]
  congr 1
  · exact (List.map_congr_left fun r hr => hold r (.inl hr)).trans (List.map_id l)
  · congr 1
    exact (List.map_congr_left fun r hr => hold r (.inr hr)).trans (List.map_id l')

/-! ### Queries -/

theorem find?_eq_some {p : α → Bool} {r : Stored α} (h : t.find? p = some r) :
    t.get? r.id = some r.row ∧ p r.row = true :=
  ⟨get?_of_mem (List.mem_of_find?_eq_some h), by simpa using List.find?_some h⟩

theorem find?_eq_none {p : α → Bool} :
    t.find? p = none ↔ ∀ k a, t.get? k = some a → p a = false := by
  rw [find?, List.find?_eq_none]
  constructor
  · intro h k a hk
    simpa using h _ (get?_eq_some.mp hk)
  · intro h r hr
    simpa using h r.id r.row (get?_of_mem hr)

theorem find?_isSome {p : α → Bool} (hk : t.get? k = some a) (hp : p a = true) :
    (t.find? p).isSome :=
  List.find?_isSome.mpr ⟨_, get?_eq_some.mp hk, hp⟩

theorem mem_select {p : α → Bool} {r : Stored α} :
    r ∈ t.select p ↔ t.get? r.id = some r.row ∧ p r.row = true := by
  rw [select, List.mem_filter, get?_eq_some]

theorem find?_isSome_iff {p : α → Bool} :
    (t.find? p).isSome ↔ ∃ k a, t.get? k = some a ∧ p a = true := by
  constructor
  · intro h
    obtain ⟨r, hr⟩ := Option.isSome_iff_exists.mp h
    exact ⟨r.id, r.row, find?_eq_some hr⟩
  · rintro ⟨k, a, hk, hp⟩
    exact find?_isSome hk hp

/-! ### Facts about every record -/

/-- Every stored record satisfies `p`. -/
def All (p : α → Prop) (t : Table α) : Prop := ∀ k a, t.get? k = some a → p a

section All

variable {p q : α → Prop} {f : α → α}

theorem all_empty : (empty : Table α).All p := fun k a h => by
  rw [get?_empty] at h
  exact absurd h (by simp)

theorem All.imp (h : t.All p) (hpq : ∀ a, p a → q a) : t.All q :=
  fun k a ha => hpq a (h k a ha)

theorem All.insert (h : t.All p) (ha : p a) : (t.insert a).All p := by
  intro k b hb
  rw [get?_insert] at hb
  split_ifs at hb
  · rwa [← Option.some.inj hb]
  · exact h k b hb

theorem All.modify (h : t.All p) (hf : ∀ a, t.get? k = some a → p (f a)) :
    (t.modify k f).All p := by
  intro i b hb
  rw [get?_modify] at hb
  split_ifs at hb with hi
  · obtain ⟨a, ha, rfl⟩ := Option.map_eq_some_iff.mp hb
    exact hf a (hi ▸ ha)
  · exact h i b hb

end All

end Table

end Relational
