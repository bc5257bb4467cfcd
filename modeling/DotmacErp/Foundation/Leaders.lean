import Mathlib.Data.Finset.Card
import Mathlib.Data.List.Nodup
import Mathlib.Tactic.Common

/-!
# One of each class

The members of a list fall into classes by a key. `leaders` are the first members of the classes,
and `rounds` takes the leaders of what is left, again and again: after `n` rounds the first `n`
members of each class are taken (`filter_rounds`).

Where each label occurs at least twice among the labels of a class, every label is taken exactly
once when there are as many labels as rounds and the first of them are distinct
(`count_take_eq_one_iff`).
-/

namespace Leaders

variable {α κ : Type*} [DecidableEq κ] {key : α → κ} {k : κ}

/-- The first member of each class that is not seen yet, in order. -/
def leaders (key : α → κ) : List κ → List α → List α
  | _, [] => []
  | seen, a :: l =>
    if key a ∈ seen then leaders key seen l else a :: leaders key (key a :: seen) l

/-- **The leader of a class** is its first member. -/
theorem filter_leaders (seen : List κ) (l : List α) :
    (leaders key seen l).filter (fun a => key a = k) =
      if k ∈ seen then [] else (l.filter fun a => key a = k).take 1 := by
  induction l generalizing seen with
  | nil => simp [leaders]
  | cons a l ih =>
    rw [leaders]
    by_cases ha : key a = k
    · by_cases hseen : k ∈ seen
      · rw [if_pos (ha ▸ hseen), ih, if_pos hseen, if_pos hseen]
      · rw [if_neg (ha ▸ hseen), List.filter_cons_of_pos (by simp [ha]), ih,
          if_pos (by simp [ha]), if_neg hseen, List.filter_cons_of_pos (by simp [ha])]
        rfl
    · have hrest : (a :: l).filter (fun a => key a = k) = l.filter fun a => key a = k :=
        List.filter_cons_of_neg (by simp [ha])
      rw [hrest]
      by_cases hseen : key a ∈ seen
      · rw [if_pos hseen, ih]
      · rw [if_neg hseen, List.filter_cons_of_neg (by simp [ha]), ih]
        simp [Ne.symm ha]

theorem mem_of_mem_leaders {seen : List κ} {l : List α} {a : α} (h : a ∈ leaders key seen l) :
    a ∈ l := by
  have hclass : a ∈ (leaders key seen l).filter fun b => key b = key a :=
    List.mem_filter.mpr ⟨h, by simp⟩
  rw [filter_leaders] at hclass
  split_ifs at hclass with hseen
  · exact absurd hclass List.not_mem_nil
  · exact (List.mem_filter.mp (List.mem_of_mem_take hclass)).1

theorem leaders_map {β : Type*} (key : α → κ) (key' : β → κ) (f : β → α) {l : List β}
    (seen : List κ) (h : ∀ b ∈ l, key (f b) = key' b) :
    leaders key seen (l.map f) = (leaders key' seen l).map f := by
  induction l generalizing seen with
  | nil => rfl
  | cons b l ih =>
    have hrest := fun seen => ih seen fun c hc => h c (List.mem_cons_of_mem b hc)
    rw [List.map_cons, leaders, leaders, h b List.mem_cons_self]
    split_ifs
    · exact hrest seen
    · rw [hrest, List.map_cons]

section Rounds

variable [DecidableEq α] {live : α → Bool} {l : List α}

/-- What `n` rounds take of a list: each takes the live leaders of what is left. -/
def rounds (key : α → κ) (live : α → Bool) (l : List α) : ℕ → List α
  | 0 => []
  | n + 1 => rounds key live l n ++
      (leaders key [] (l.filter fun a => a ∉ rounds key live l n)).filter live

theorem filter_notMem_take (h : l.Nodup) (n : ℕ) : (l.filter fun a => a ∉ l.take n) = l.drop n := by
  have hsplit : l.filter (fun a => a ∉ l.take n) =
      (l.take n ++ l.drop n).filter fun a => a ∉ l.take n := by
    rw [List.take_append_drop]
  have hdisjoint := List.disjoint_take_drop h (le_refl n)
  have hfirst : (l.take n).filter (fun a => a ∉ l.take n) = [] :=
    List.filter_eq_nil_iff.mpr fun a ha => by simp [ha]
  have hlast : (l.drop n).filter (fun a => a ∉ l.take n) = l.drop n :=
    List.filter_eq_self.mpr fun a ha => decide_eq_true fun htake => hdisjoint htake ha
  rw [hsplit, List.filter_append, hfirst, hlast, List.nil_append]

/-- **After `n` rounds** the first `n` members of each live class are taken. -/
theorem filter_rounds (key : α → κ) (live : α → Bool) (hnodup : l.Nodup)
    (hlive : ∀ a ∈ l, ∀ b ∈ l, key a = key b → live a = live b) (n : ℕ) (k : κ) :
      (rounds key live l n).filter (fun a => key a = k) =
      ((l.filter fun a => key a = k).filter live).take n := by
  set members := (l.filter fun a => key a = k).filter live with hmembers
  have hnodup' : members.Nodup := (hnodup.filter _).filter _
  induction n with
  | zero => rfl
  | succ n ih =>
    set taken := rounds key live l n with htaken
    set left := l.filter fun a => a ∉ taken with hleft
    -- of this class, the members after the first `n` are left
    have hrest : (left.filter fun a => key a = k).filter live = members.drop n := by
      rw [← filter_notMem_take hnodup' n, hleft, hmembers]
      simp only [List.filter_filter]
      refine List.filter_congr fun a ha => ?_
      by_cases hk : key a = k
      · have hmem : a ∈ taken ↔ a ∈ members.take n := by
          rw [← ih, List.mem_filter]
          simp [hk]
        rw [hmembers] at hmem
        simp only [List.filter_filter] at hmem
        simp only [hk, hmem, decide_true, Bool.true_and, Bool.and_comm]
      · simp [hk]
    have hleader : ((leaders key [] left).filter live).filter (fun a => key a = k) =
        ((left.filter fun a => key a = k).filter live).take 1 := by
      have hswap : ((leaders key [] left).filter live).filter (fun a => key a = k) =
          ((leaders key [] left).filter fun a => key a = k).filter live := by
        simp only [List.filter_filter]
        exact List.filter_congr fun a _ => Bool.and_comm _ _
      rw [hswap, filter_leaders, if_neg List.not_mem_nil]
      cases hclass : left.filter fun a => key a = k with
      | nil => rfl
      | cons a rest =>
        have hmem : ∀ b ∈ a :: rest, b ∈ l ∧ key b = k := by
          intro b hb
          rw [← hclass] at hb
          obtain ⟨hb, hk⟩ := List.mem_filter.mp hb
          exact ⟨(List.mem_filter.mp hb).1, by simpa using hk⟩
        have hsame : ∀ b ∈ rest, live b = live a := by
          intro b hb
          obtain ⟨ha, hka⟩ := hmem a List.mem_cons_self
          obtain ⟨hb, hkb⟩ := hmem b (List.mem_cons_of_mem a hb)
          exact hlive b hb a ha (hkb.trans hka.symm)
        by_cases hlivea : live a
        · simp [hlivea]
        · have hnone : rest.filter live = [] :=
            List.filter_eq_nil_iff.mpr fun b hb => by simp [hsame b hb, hlivea]
          simp [hlivea, hnone]
    rw [rounds, List.filter_append, ih, hleader, hrest, List.take_add]

theorem mem_of_mem_rounds {n : ℕ} {a : α} (h : a ∈ rounds key live l n) :
    a ∈ l ∧ live a = true := by
  induction n with
  | zero => exact absurd h List.not_mem_nil
  | succ n ih =>
    rcases List.mem_append.mp h with hold | hnew
    · exact ih hold
    · obtain ⟨hleader, hlive⟩ := List.mem_filter.mp hnew
      exact ⟨List.mem_of_mem_filter (mem_of_mem_leaders hleader), hlive⟩

theorem rounds_map {β : Type*} [DecidableEq β] (key : α → κ) (key' : β → κ) (live : α → Bool)
    (live' : β → Bool) (f : β → α) {m : List β} (hinj : ∀ b ∈ m, ∀ c ∈ m, f b = f c → b = c)
    (hkey : ∀ b ∈ m, key (f b) = key' b) (hlive : ∀ b ∈ m, live (f b) = live' b) (n : ℕ) :
    rounds key live (m.map f) n = (rounds key' live' m n).map f := by
  induction n with
  | zero => rfl
  | succ n ih =>
    set taken := rounds key' live' m n with htaken
    have hleft : (m.map f).filter (fun a => a ∉ taken.map f) =
        (m.filter fun b => b ∉ taken).map f := by
      rw [List.filter_map]
      refine congrArg _ (List.filter_congr fun b hb => ?_)
      have hmem : f b ∈ taken.map f ↔ b ∈ taken := by
        refine ⟨fun h => ?_, List.mem_map_of_mem⟩
        obtain ⟨c, hc, hfc⟩ := List.mem_map.mp h
        exact hinj c (mem_of_mem_rounds hc).1 b hb hfc ▸ hc
      exact decide_eq_decide.mpr (not_congr hmem)
    have hleaders := leaders_map key key' f [] fun b hb =>
      hkey b (List.mem_of_mem_filter (p := fun b => b ∉ taken) hb)
    rw [rounds, rounds, ih, hleft, hleaders, List.filter_map, List.map_append]
    refine congrArg (taken.map f ++ List.map f ·) (List.filter_congr fun b hb => ?_)
    exact hlive b (List.mem_of_mem_filter (mem_of_mem_leaders hb))

end Rounds

/-! ### Labels of a class -/

/-- **Each label once.** Where every label occurs twice or more, each is among the first `n` exactly
once when there are `n` labels and the first `n` are distinct. -/
theorem count_take_eq_one_iff {β : Type*} [DecidableEq β] {l : List β} {n : ℕ} (hne : l ≠ [])
    (htwice : ∀ b ∈ l, 2 ≤ l.count b) :
    (∀ b ∈ l, (l.take n).count b = 1) ↔ (l.take n).Nodup ∧ l.dedup.length = n := by
  constructor
  · intro h
    have hnodup : (l.take n).Nodup := by
      refine List.nodup_iff_count_le_one.mpr fun b => ?_
      by_cases hb : b ∈ l
      · exact (h b hb).le
      · rw [List.count_eq_zero_of_not_mem fun htake => hb (List.mem_of_mem_take htake)]
        exact Nat.zero_le 1
    have hsame : l.dedup.length = (l.take n).length := by
      refine (List.perm_of_nodup_nodup_toFinset_eq l.nodup_dedup hnodup ?_).length_eq
      ext b
      simp only [List.mem_toFinset, List.mem_dedup]
      refine ⟨fun hb => ?_, List.mem_of_mem_take⟩
      exact List.count_pos_iff.mp (by rw [h b hb]; exact Nat.one_pos)
    refine ⟨hnodup, ?_⟩
    have hlonger : n < l.length := by
      refine not_le.mp fun hle => ?_
      obtain ⟨b, hb⟩ := List.exists_mem_of_ne_nil l hne
      have hone := h b hb
      rw [List.take_of_length_le hle] at hone
      have htwo := htwice b hb
      omega
    rw [hsame, List.length_take]
    omega
  · rintro ⟨hnodup, hlength⟩ b hb
    refine List.count_eq_one_of_mem hnodup ?_
    have hsub : (l.take n).toFinset ⊆ l.toFinset := fun b hb =>
      List.mem_toFinset.mpr (List.mem_of_mem_take (List.mem_toFinset.mp hb))
    have hcard : l.toFinset.card ≤ (l.take n).toFinset.card := by
      have hle : l.dedup.length ≤ l.length := l.dedup_sublist.length_le
      rw [List.card_toFinset, List.toFinset_card_of_nodup hnodup, List.length_take]
      omega
    rw [← List.mem_toFinset, Finset.eq_of_subset_of_card_le hsub hcard]
    exact List.mem_toFinset.mpr hb

end Leaders
