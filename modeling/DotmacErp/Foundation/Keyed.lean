import DotmacErp.Foundation.Table

/-!
# Rows found by a key of their own

Besides its surrogate key a record may have a natural one, a projection of its columns that no
two rows share (`Keyed`): the account, period and dimensions of a balance. Such a table is a
partial function of the natural key (`at?`), and a program that finds, updates, creates and
deletes rows by it is described by what it does to that function.

`upsert` is the find-or-create step, and `upsertAll` the loop of it over a list of items with
distinct keys. Every operation keeps the key (`Keyed.upsertAll`, `Keyed.update`,
`Keyed.remove`, `Keyed.insertAll`) and has one lookup equation.
-/

namespace Relational

namespace Table

universe u v w

variable {α : Type u} {κ : Type v} {β : Type w} {key : α → κ} {t : Table α} {k : κ} {a b : α}

theorem eq_of_rows_eq {t' : Table α} (hrows : t.rows = t'.rows) (hnext : t.next = t'.next) :
    t = t' := by
  cases t
  cases t'
  obtain rfl := hrows
  obtain rfl := hnext
  rfl

/-- No two rows have the same key. -/
def Keyed (key : α → κ) (t : Table α) : Prop :=
  ∀ ⦃i j a b⦄, t.get? i = some a → t.get? j = some b → key a = key b → i = j

theorem keyed_empty : (empty : Table α).Keyed key := by
  intro i j a b ha
  exact absurd ha (by simp)

theorem Keyed.eq_of_key_eq (h : t.Keyed key) {i j : ℕ} (ha : t.get? i = some a)
    (hb : t.get? j = some b) (hkey : key a = key b) : a = b := by
  have hij := h ha hb hkey
  rw [hij, hb] at ha
  exact (Option.some.inj ha).symm

theorem Keyed.find?_eq (h : t.Keyed key) {i : ℕ} {p : α → Bool} (ha : t.get? i = some a)
    (hp : p a = true) (honly : ∀ b, p b = true → key b = key a) : t.find? p = some ⟨i, a⟩ := by
  obtain ⟨⟨j, b⟩, hfound⟩ := Option.isSome_iff_exists.mp (find?_isSome ha hp)
  obtain ⟨hb, hpb⟩ := find?_eq_some hfound
  obtain rfl : j = i := h hb ha (honly b hpb)
  obtain rfl : b = a := h.eq_of_key_eq hb ha (honly b hpb)
  exact hfound

theorem Keyed.nodup_select (h : t.Keyed key) (p : α → Bool) :
    ((t.select p).map fun r => key r.row).Nodup := by
  have hids : (t.select p).Pairwise fun r r' => r.id ≠ r'.id :=
    List.Pairwise.sublist List.filter_sublist (List.pairwise_map.mp t.nodup_ids)
  refine List.pairwise_map.mpr (hids.imp_of_mem fun {r r'} hr hr' hne hkey => hne ?_)
  exact h (mem_select.mp hr).1 (mem_select.mp hr').1 hkey

theorem Keyed.of_get? {t' : Table α} (h : t.Keyed key)
    (hget : ∀ i a', t'.get? i = some a' → ∃ a, t.get? i = some a ∧ key a' = key a) :
    t'.Keyed key := by
  intro i j a' b' ha' hb' hkey
  obtain ⟨a, ha, hka⟩ := hget i a' ha'
  obtain ⟨b, hb, hkb⟩ := hget j b' hb'
  exact h ha hb (by rw [← hka, ← hkb, hkey])

theorem Keyed.update (h : t.Keyed key) {p : α → Bool} {f : α → α}
    (hf : ∀ a, p a → key (f a) = key a) : (t.update p f).Keyed key := by
  refine h.of_get? fun i a' ha' => ?_
  rw [get?_update] at ha'
  obtain ⟨a, ha, rfl⟩ := Option.map_eq_some_iff.mp ha'
  refine ⟨a, ha, ?_⟩
  by_cases hp : p a
  · rw [if_pos hp, hf a hp]
  · rw [if_neg hp]

/-- Delete every row that satisfies `p`. -/
def remove (p : α → Bool) (t : Table α) : Table α where
  rows := t.rows.filter fun r => !p r.row
  next := t.next
  ordered := t.ordered.sublist ((List.filter_sublist (l := t.rows)).map Stored.id)
  below := fun r hr => t.below r (List.mem_of_mem_filter hr)

theorem get?_remove {p : α → Bool} {i : ℕ} :
    (t.remove p).get? i = some a ↔ t.get? i = some a ∧ p a = false := by
  simp [get?_eq_some, remove, List.mem_filter]

theorem Keyed.remove (h : t.Keyed key) (p : α → Bool) : (t.remove p).Keyed key :=
  h.of_get? fun _ a ha => ⟨a, (get?_remove.mp ha).1, rfl⟩

variable [DecidableEq κ]

def at? (key : α → κ) (t : Table α) (k : κ) : Option α :=
  (t.find? fun a => decide (key a = k)).map Stored.row

theorem key_of_at? (h : t.at? key k = some a) : key a = k := by
  obtain ⟨r, hr, rfl⟩ := Option.map_eq_some_iff.mp h
  exact of_decide_eq_true (find?_eq_some hr).2

theorem exists_of_at? (h : t.at? key k = some a) : ∃ i, t.get? i = some a := by
  obtain ⟨r, hr, rfl⟩ := Option.map_eq_some_iff.mp h
  exact ⟨r.id, (find?_eq_some hr).1⟩

theorem at?_eq_none : t.at? key k = none ↔ ∀ i a, t.get? i = some a → key a ≠ k := by
  rw [at?, Option.map_eq_none_iff, find?_eq_none]
  simp only [decide_eq_false_iff_not]

theorem Keyed.at?_of_get? (h : t.Keyed key) {i : ℕ} (ha : t.get? i = some a) :
    t.at? key (key a) = some a := by
  cases hb : t.at? key (key a) with
  | none => exact absurd rfl (at?_eq_none.mp hb i a ha)
  | some b =>
    obtain ⟨j, hj⟩ := exists_of_at? hb
    rw [h.eq_of_key_eq hj ha (key_of_at? hb)]

theorem Keyed.at?_eq_some (h : t.Keyed key) :
    t.at? key k = some a ↔ key a = k ∧ ∃ i, t.get? i = some a := by
  constructor
  · exact fun ha => ⟨key_of_at? ha, exists_of_at? ha⟩
  · rintro ⟨rfl, i, ha⟩
    exact h.at?_of_get? ha

@[simp] theorem at?_empty : (empty : Table α).at? key k = none := rfl

/-! ### What rewriting and removing find -/

theorem Keyed.at?_update (h : t.Keyed key) {p : α → Bool} {f : α → α}
    (hf : ∀ a, p a → key (f a) = key a) :
    (t.update p f).at? key k = (t.at? key k).map fun a => if p a then f a else a := by
  have hkey : ∀ a, key (if p a then f a else a) = key a := fun a => by
    by_cases hp : p a
    · rw [if_pos hp, hf a hp]
    · rw [if_neg hp]
  ext b
  rw [(h.update hf).at?_eq_some, Option.map_eq_some_iff]
  simp only [get?_update, Option.map_eq_some_iff]
  constructor
  · rintro ⟨rfl, i, a, ha, rfl⟩
    exact ⟨a, h.at?_eq_some.mpr ⟨(hkey a).symm, i, ha⟩, rfl⟩
  · rintro ⟨a, ha, rfl⟩
    obtain ⟨hk, i, hi⟩ := h.at?_eq_some.mp ha
    exact ⟨(hkey a).trans hk, i, a, hi, rfl⟩

theorem Keyed.at?_remove (h : t.Keyed key) (p : α → Bool) :
    (t.remove p).at? key k = (t.at? key k).filter fun a => !p a := by
  ext b
  rw [(h.remove p).at?_eq_some, Option.filter_eq_some_iff, h.at?_eq_some]
  simp only [get?_remove, Bool.not_eq_true']
  constructor
  · rintro ⟨hk, i, hi, hp⟩
    exact ⟨⟨hk, i, hi⟩, hp⟩
  · rintro ⟨⟨hk, i, hi⟩, hp⟩
    exact ⟨hk, i, hi, hp⟩

/-! ### Inserting -/

theorem Keyed.insert (h : t.Keyed key) (hnew : t.at? key (key a) = none) :
    (t.insert a).Keyed key := by
  rw [at?_eq_none] at hnew
  intro i j b c hb hc hkey
  rw [get?_insert] at hb hc
  split_ifs at hb hc with hi hj hj
  · rw [hi, hj]
  · obtain rfl := Option.some.inj hb
    exact absurd hkey.symm (hnew j c hc)
  · obtain rfl := Option.some.inj hc
    exact absurd hkey (hnew i b hb)
  · exact h hb hc hkey

theorem Keyed.at?_insert (h : t.Keyed key) (hnew : t.at? key (key a) = none) :
    (t.insert a).at? key k = if key a = k then some a else t.at? key k := by
  have hkeyed := h.insert hnew
  split_ifs with hk
  · rw [hkeyed.at?_eq_some]
    exact ⟨hk, t.next, get?_insert_self t a⟩
  · ext b
    rw [hkeyed.at?_eq_some, h.at?_eq_some]
    constructor
    · rintro ⟨hb, i, hi⟩
      refine ⟨hb, i, ?_⟩
      rw [get?_insert] at hi
      split_ifs at hi
      · obtain rfl := Option.some.inj hi
        exact absurd hb hk
      · exact hi
    · rintro ⟨hb, i, hi⟩
      exact ⟨hb, i, get?_insert_of_some hi a⟩

def insertAll (l : List α) (t : Table α) : Table α := l.foldl Table.insert t

/-- New records under distinct new keys: the key is kept, and each record is found by its own
key. -/
theorem Keyed.insertAll {l : List α} (h : t.Keyed key) (hnodup : (l.map key).Nodup)
    (hnew : ∀ a ∈ l, t.at? key (key a) = none) :
    (t.insertAll l).Keyed key ∧
      (∀ a ∈ l, (t.insertAll l).at? key (key a) = some a) ∧
      ∀ k, (∀ a ∈ l, key a ≠ k) → (t.insertAll l).at? key k = t.at? key k := by
  induction l generalizing t with
  | nil => exact ⟨h, by simp, fun _ _ => rfl⟩
  | cons a l ih =>
    rw [List.map_cons, List.nodup_cons] at hnodup
    have ha : t.at? key (key a) = none := hnew a List.mem_cons_self
    have hne : ∀ b ∈ l, key a ≠ key b := fun b hb heq =>
      hnodup.1 (List.mem_map.mpr ⟨b, hb, heq.symm⟩)
    have hnew' : ∀ b ∈ l, (t.insert a).at? key (key b) = none := fun b hb => by
      rw [h.at?_insert ha, if_neg (hne b hb)]
      exact hnew b (List.mem_cons_of_mem _ hb)
    obtain ⟨hkeyed, hfound, hother⟩ := ih (h.insert ha) hnodup.2 hnew'
    refine ⟨hkeyed, fun b hb => ?_, fun k hk => ?_⟩
    · cases List.mem_cons.mp hb with
      | inl heq =>
        rw [heq]
        exact (hother (key a) fun c hc => (hne c hc).symm).trans
          (by rw [h.at?_insert ha, if_pos rfl])
      | inr hb => exact hfound b hb
    · exact (hother k fun c hc => hk c (List.mem_cons_of_mem _ hc)).trans
        (by rw [h.at?_insert ha, if_neg (hk a List.mem_cons_self)])

/-! ### Finding or creating -/

def upsert (key : α → κ) (k : κ) (update : α → α) (create : α) (t : Table α) : Table α :=
  match t.find? fun a => decide (key a = k) with
  | some r => t.modify r.id update
  | none => t.insert create

section Upsert

variable {update : α → α} {create : α}

theorem get?_modify_eq_some {i j : ℕ} :
    (t.modify i update).get? j = some b ↔
      ∃ a, t.get? j = some a ∧ b = if j = i then update a else a := by
  rw [get?_modify]
  split_ifs with h
  · rw [Option.map_eq_some_iff]
    exact exists_congr fun a => and_congr_right fun _ => eq_comm
  · simp

theorem Keyed.upsert (h : t.Keyed key) (hupdate : ∀ a, key (update a) = key a)
    (hcreate : key create = k) : (t.upsert key k update create).Keyed key := by
  rw [Table.upsert]
  cases hfind : t.find? fun a => decide (key a = k) with
  | none => exact h.insert (by rw [hcreate, at?, hfind]; rfl)
  | some r =>
    refine h.of_get? fun i b hb => ?_
    obtain ⟨a, ha, rfl⟩ := get?_modify_eq_some.mp hb
    refine ⟨a, ha, ?_⟩
    split_ifs
    · exact hupdate a
    · rfl

theorem Keyed.at?_upsert (h : t.Keyed key) (hupdate : ∀ a, key (update a) = key a)
    (hcreate : key create = k) (k' : κ) :
    (t.upsert key k update create).at? key k' =
      if k = k' then some ((t.at? key k).elim create update) else t.at? key k' := by
  have hkeyed := h.upsert hupdate hcreate
  cases hfind : t.find? fun a => decide (key a = k) with
  | none =>
    have hnone : t.at? key k = none := by rw [at?, hfind]; rfl
    have hupsert : t.upsert key k update create = t.insert create := by rw [Table.upsert, hfind]
    rw [hupsert, h.at?_insert (hcreate ▸ hnone), hcreate, hnone]
    rfl
  | some r =>
    have hsome : t.at? key k = some r.row := by rw [at?, hfind]; rfl
    have hrow := find?_eq_some hfind
    have hupsert : t.upsert key k update create = t.modify r.id update := by
      rw [Table.upsert, hfind]
    rw [hupsert] at hkeyed ⊢
    split_ifs with hk
    · rw [hkeyed.at?_eq_some, hsome]
      refine ⟨?_, r.id, get?_modify_eq_some.mpr ⟨r.row, hrow.1, by simp⟩⟩
      rw [← hk, Option.elim_some, hupdate]
      exact of_decide_eq_true hrow.2
    · ext b
      rw [hkeyed.at?_eq_some, h.at?_eq_some]
      simp only [get?_modify_eq_some]
      -- the rewritten row has the other key, before and after
      have hid : ∀ i a, t.get? i = some a → key a = k' → i ≠ r.id := by
        intro i a ha hka hi
        rw [hi, hrow.1] at ha
        obtain rfl := Option.some.inj ha
        exact hk ((of_decide_eq_true hrow.2).symm.trans hka)
      constructor
      · rintro ⟨hkb, i, a, ha, rfl⟩
        by_cases hi : i = r.id
        · rw [if_pos hi, hupdate] at hkb
          exact absurd hi (hid i a ha hkb)
        · rw [if_neg hi] at hkb ⊢
          exact ⟨hkb, i, ha⟩
      · rintro ⟨hkb, i, hi⟩
        exact ⟨hkb, i, b, hi, by rw [if_neg (hid i b hi hkb)]⟩

omit [DecidableEq κ] in
theorem Keyed.modify (h : t.Keyed key) (hupdate : ∀ a, key (update a) = key a) (i : ℕ) :
    (t.modify i update).Keyed key := by
  refine h.of_get? fun j b hb => ?_
  obtain ⟨a, ha, rfl⟩ := get?_modify_eq_some.mp hb
  refine ⟨a, ha, ?_⟩
  split_ifs
  · exact hupdate a
  · rfl

theorem Keyed.at?_modify (h : t.Keyed key) (hupdate : ∀ a, key (update a) = key a) {i : ℕ}
    (ha : t.get? i = some a) (k' : κ) :
    (t.modify i update).at? key k' = if key a = k' then some (update a) else t.at? key k' := by
  have hkeyed := h.modify hupdate i
  split_ifs with hk
  · rw [hkeyed.at?_eq_some]
    exact ⟨(hupdate a).trans hk, i, get?_modify_eq_some.mpr ⟨a, ha, by simp⟩⟩
  · ext b
    rw [hkeyed.at?_eq_some, h.at?_eq_some]
    simp only [get?_modify_eq_some]
    -- the rewritten row has the other key, before and after
    have hid : ∀ j c, t.get? j = some c → key c = k' → j ≠ i := by
      intro j c hc hkc hj
      rw [hj, ha] at hc
      rw [← Option.some.inj hc] at hkc
      exact hk hkc
    constructor
    · rintro ⟨hkb, j, c, hc, rfl⟩
      by_cases hj : j = i
      · rw [if_pos hj, hupdate] at hkb
        exact absurd hj (hid j c hc hkb)
      · rw [if_neg hj] at hkb ⊢
        exact ⟨hkb, j, hc⟩
    · rintro ⟨hkb, j, hj⟩
      exact ⟨hkb, j, b, hj, by rw [if_neg (hid j b hj hkb)]⟩

theorem upsert_eq_self (ha : t.at? key k = some a)
    (hupdate : update a = a) : t.upsert key k update create = t := by
  rw [Table.upsert]
  obtain ⟨r, hr, hrow⟩ := Option.map_eq_some_iff.mp ha
  rw [hr]
  have hrows : (t.modify r.id update).rows = t.rows := by
    conv_rhs => rw [← List.map_id t.rows]
    refine List.map_congr_left fun r' hr' => ?_
    by_cases hid : r'.id = r.id
    · have hget := get?_of_mem hr'
      rw [hid, (find?_eq_some hr).1] at hget
      have hrow' : r'.row = a := (Option.some.inj hget).symm.trans hrow
      rw [if_pos hid, hrow', hupdate, ← hrow']
      rfl
    · rw [if_neg hid]
      rfl
  exact eq_of_rows_eq hrows rfl

end Upsert

def upsertAll (key : α → κ) (target : β → κ) (update : β → α → α) (create : β → α)
    (items : List β) (t : Table α) : Table α :=
  items.foldl (fun t item => t.upsert key (target item) (update item) (create item)) t

section UpsertAll

variable {target : β → κ} {update : β → α → α} {create : β → α} {items : List β}

theorem Keyed.upsertAll (h : t.Keyed key) (hupdate : ∀ item a, key (update item a) = key a)
    (hcreate : ∀ item, key (create item) = target item) :
    (t.upsertAll key target update create items).Keyed key := by
  induction items generalizing t with
  | nil => exact h
  | cons item items ih => exact ih (h.upsert (hupdate item) (hcreate item))

theorem Keyed.at?_upsertAll_of_ne (h : t.Keyed key)
    (hupdate : ∀ item a, key (update item a) = key a)
    (hcreate : ∀ item, key (create item) = target item) (hk : ∀ item ∈ items, target item ≠ k) :
    (t.upsertAll key target update create items).at? key k = t.at? key k := by
  induction items generalizing t with
  | nil => rfl
  | cons item items ih =>
    have hrest := ih (h.upsert (hupdate item) (hcreate item))
      fun item' h' => hk item' (List.mem_cons_of_mem _ h')
    rw [h.at?_upsert (hupdate item) (hcreate item), if_neg (hk item List.mem_cons_self)] at hrest
    exact hrest

theorem Keyed.at?_upsertAll_of_mem (h : t.Keyed key)
    (hupdate : ∀ item a, key (update item a) = key a)
    (hcreate : ∀ item, key (create item) = target item) (hnodup : (items.map target).Nodup)
    {item : β} (hitem : item ∈ items) :
    (t.upsertAll key target update create items).at? key (target item) =
      some ((t.at? key (target item)).elim (create item) (update item)) := by
  induction items generalizing t with
  | nil => exact absurd hitem (by simp)
  | cons head items ih =>
    rw [List.map_cons, List.nodup_cons] at hnodup
    have hkeyed : (t.upsert key (target head) (update head) (create head)).Keyed key :=
      h.upsert (hupdate head) (hcreate head)
    cases List.mem_cons.mp hitem with
    | inl heq =>
      subst heq
      have hlater : ∀ item' ∈ items, target item' ≠ target item := fun item' h' heq =>
        hnodup.1 (List.mem_map.mpr ⟨item', h', heq⟩)
      refine (hkeyed.at?_upsertAll_of_ne hupdate hcreate hlater).trans ?_
      rw [h.at?_upsert (hupdate item) (hcreate item), if_pos rfl]
    | inr hmem =>
      have hne : target head ≠ target item := fun heq =>
        hnodup.1 (List.mem_map.mpr ⟨item, hmem, heq.symm⟩)
      refine (ih hkeyed hnodup.2 hmem).trans ?_
      rw [h.at?_upsert (hupdate head) (hcreate head), if_neg hne]

theorem upsertAll_eq_self
    (hitems : ∀ item ∈ items, ∃ a, t.at? key (target item) = some a ∧ update item a = a) :
    t.upsertAll key target update create items = t := by
  induction items with
  | nil => rfl
  | cons item items ih =>
    obtain ⟨a, ha, hupdate⟩ := hitems item List.mem_cons_self
    rw [Table.upsertAll, List.foldl_cons, upsert_eq_self ha hupdate]
    exact ih fun item' h' => hitems item' (List.mem_cons_of_mem _ h')

end UpsertAll

end Table

end Relational
