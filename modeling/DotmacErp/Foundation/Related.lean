import Mathlib.Data.List.Forall2

/-!
# Lists related member by member

Where one list was made from another, member by member, every member of one of them has its
counterpart in the other, in the same place.
-/

namespace Related

variable {α β κ : Type*} {R : α → β → Prop} {l : List α} {l' : List β} {a : α} {b : β}

theorem exists_of_forall₂ (h : List.Forall₂ R l l') (hb : b ∈ l') : ∃ a ∈ l, R a b := by
  induction h with
  | nil => exact absurd hb List.not_mem_nil
  | cons hhead htail ih =>
    rcases List.mem_cons.mp hb with rfl | hb
    · exact ⟨_, List.mem_cons_self, hhead⟩
    · obtain ⟨a, ha, hrel⟩ := ih hb
      exact ⟨a, List.mem_cons_of_mem _ ha, hrel⟩

theorem exists_of_forall₂_left (h : List.Forall₂ R l l') (ha : a ∈ l) : ∃ b ∈ l', R a b := by
  have hflip : List.Forall₂ (flip R) l' l := h.flip
  exact exists_of_forall₂ hflip ha

theorem map_eq_of_forall₂ {f : α → κ} {g : β → κ} (h : List.Forall₂ R l l')
    (hkey : ∀ a b, R a b → g b = f a) : l'.map g = l.map f := by
  induction h with
  | nil => rfl
  | cons hhead htail ih => rw [List.map_cons, List.map_cons, hkey _ _ hhead, ih]

end Related
