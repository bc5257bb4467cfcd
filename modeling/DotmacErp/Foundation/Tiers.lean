import Mathlib.Algebra.BigOperators.Group.List.Basic
import Mathlib.Algebra.Order.Field.Basic
import Mathlib.Algebra.Order.BigOperators.Group.List
import Mathlib.Tactic.Common
import Mathlib.Tactic.Linarith
import Mathlib.Tactic.Ring

/-!
# Tiers

A scale of tiers cuts an amount into portions. A tier runs from its lower bound up to its
upper bound, or without end; tiers are `Consecutive` from a point when each begins where the
one before ends and the last has no end. Such a scale is a partition: every amount above the point
lies in exactly one tier (`Consecutive.existsUnique`), and the portions of an amount make up
the amount (`Consecutive.sum_portion`).

A portion grows with the amount, so a levy of nonnegative rates on the portions does
(`levy_mono`), and no faster than at the highest rate (`Consecutive.levy_sub_le`): there is no
jump where one tier ends and the next begins.
-/

/-- An interval of amounts, closed below and open above. -/
structure Tier (K : Type*) where
  lower : K
  upper : Option K

namespace Tier

variable {K : Type*} [Field K] [LinearOrder K] [IsStrictOrderedRing K]
variable {b : Tier K} {l : List (Tier K)} {lo a x y : K}

def Contains (b : Tier K) (a : K) : Prop := b.lower ≤ a ∧ ∀ u ∈ b.upper, a < u

def cut (b : Tier K) (x : K) : K := b.upper.elim x (min x)

def portion (b : Tier K) (x : K) : K := max 0 (b.cut x - b.lower)

inductive Consecutive : K → List (Tier K) → Prop
  | last (lo : K) : Consecutive lo [⟨lo, none⟩]
  | cons {lo hi : K} {l : List (Tier K)} (hlt : lo < hi) (h : Consecutive hi l) :
      Consecutive lo (⟨lo, some hi⟩ :: l)

def EndsAfter (b : Tier K) (a : K) : Prop := ∀ u ∈ b.upper, a < u

/-- The tiers have a value in common. -/
def Meets (b c : Tier K) : Prop := ∃ a, b.Contains a ∧ c.Contains a

omit [Field K] [IsStrictOrderedRing K] in
theorem meets_iff {b c : Tier K} :
    b.Meets c ↔ b.EndsAfter b.lower ∧ c.EndsAfter c.lower ∧
      b.EndsAfter c.lower ∧ c.EndsAfter b.lower := by
  constructor
  · rintro ⟨a, ⟨hb, hab⟩, hc, hac⟩
    exact ⟨fun u hu => hb.trans_lt (hab u hu), fun u hu => hc.trans_lt (hac u hu),
      fun u hu => hc.trans_lt (hab u hu), fun u hu => hb.trans_lt (hac u hu)⟩
  · rintro ⟨hb, hc, hcb, hbc⟩
    exact ⟨max b.lower c.lower, ⟨le_max_left _ _, fun u hu => max_lt (hb u hu) (hcb u hu)⟩,
      le_max_right _ _, fun u hu => max_lt (hbc u hu) (hc u hu)⟩

omit [Field K] [IsStrictOrderedRing K] in
theorem Meets.symm {b c : Tier K} (h : b.Meets c) : c.Meets b := by
  obtain ⟨a, hb, hc⟩ := h
  exact ⟨a, hc, hb⟩

instance decidableEndsAfter (b : Tier K) (a : K) : Decidable (b.EndsAfter a) :=
  inferInstanceAs (Decidable (∀ u ∈ b.upper, a < u))

instance decidableMeets (b c : Tier K) : Decidable (b.Meets c) :=
  decidable_of_iff _ meets_iff.symm

omit [IsStrictOrderedRing K] in
theorem portion_nonneg (b : Tier K) (x : K) : 0 ≤ b.portion x := le_max_left _ _

omit [Field K] [IsStrictOrderedRing K] in
theorem cut_mono (b : Tier K) : Monotone b.cut := by
  intro x y h
  rw [cut, cut]
  cases b.upper with
  | none => exact h
  | some u => exact min_le_min h le_rfl

theorem portion_mono (b : Tier K) : Monotone b.portion := fun _ _ h =>
  max_le_max le_rfl (sub_le_sub_right (b.cut_mono h) _)

theorem portion_eq_zero (h : x ≤ b.lower) : b.portion x = 0 := by
  refine max_eq_left (sub_nonpos.mpr (le_trans ?_ h))
  rw [cut]
  cases b.upper with
  | none => exact le_rfl
  | some u => exact min_le_left _ _

theorem portion_of_le {hi : K} (hlt : lo < hi) (h : hi ≤ x) :
    portion ⟨lo, some hi⟩ x = hi - lo := by
  change max 0 (min x hi - lo) = hi - lo
  rw [min_eq_right h, max_eq_right (sub_nonneg.mpr hlt.le)]

theorem portion_of_lt {hi : K} (hlo : lo ≤ x) (h : x ≤ hi) :
    portion ⟨lo, some hi⟩ x = x - lo := by
  change max 0 (min x hi - lo) = x - lo
  rw [min_eq_left h, max_eq_right (sub_nonneg.mpr hlo)]

namespace Consecutive

omit [Field K] [IsStrictOrderedRing K] in
theorem le_lower (h : Consecutive lo l) : ∀ b ∈ l, lo ≤ b.lower := by
  induction h with
  | last lo =>
    intro b hb
    rw [List.mem_singleton.mp hb]
  | cons hlt h ih =>
    intro b hb
    rcases List.mem_cons.mp hb with rfl | hb
    · exact le_rfl
    · exact hlt.le.trans (ih b hb)

omit [Field K] [IsStrictOrderedRing K] in
/-- What makes tiers consecutive, pair by pair: each has an upper bound above its lower one, at
which the next begins, but for the last, which has none. -/
theorem of_isChain {b : Tier K} (hwide : ∀ c ∈ b :: l, ∀ u ∈ c.upper, c.lower < u)
    (hchain : (b :: l).IsChain fun c d => c.upper = some d.lower)
    (hlast : ((b :: l).getLast (List.cons_ne_nil b l)).upper = none) :
    Consecutive b.lower (b :: l) := by
  induction l generalizing b with
  | nil =>
    obtain ⟨lower, upper⟩ := b
    obtain rfl : upper = none := hlast
    exact .last lower
  | cons c l ih =>
    obtain ⟨lower, upper⟩ := b
    obtain ⟨hnext, hrest⟩ := List.isChain_cons_cons.mp hchain
    obtain rfl : upper = some c.lower := hnext
    refine .cons (hwide _ List.mem_cons_self _ rfl) (ih ?_ hrest ?_)
    · exact fun d hd => hwide d (List.mem_cons_of_mem _ hd)
    · rwa [List.getLast_cons (List.cons_ne_nil c l)] at hlast

theorem sum_portion_eq_zero (h : Consecutive lo l) (hx : x ≤ lo) :
    (l.map fun b => b.portion x).sum = 0 := by
  refine List.sum_eq_zero fun p hp => ?_
  obtain ⟨b, hb, rfl⟩ := List.mem_map.mp hp
  exact portion_eq_zero (hx.trans (h.le_lower b hb))

/-- **The portions of an amount make up the amount.** -/
theorem sum_portion (h : Consecutive lo l) (hx : lo ≤ x) :
    (l.map fun b => b.portion x).sum = x - lo := by
  induction h with
  | last lo =>
    rw [List.map_singleton, List.sum_singleton]
    exact max_eq_right (sub_nonneg.mpr hx)
  | @cons lo hi l hlt h ih =>
    rw [List.map_cons, List.sum_cons]
    rcases le_total hi x with hle | hle
    · rw [portion_of_le hlt hle, ih hle]
      ring
    · rw [portion_of_lt hx hle, h.sum_portion_eq_zero hle, add_zero]

omit [Field K] [IsStrictOrderedRing K] in
/-- **Every amount lies in exactly one tier.** -/
theorem existsUnique (h : Consecutive lo l) (ha : lo ≤ a) : ∃! b, b ∈ l ∧ b.Contains a := by
  induction h with
  | last lo =>
    refine ⟨⟨lo, none⟩, ⟨List.mem_singleton_self _, ha, by simp⟩, ?_⟩
    rintro b ⟨hb, -⟩
    exact List.mem_singleton.mp hb
  | @cons lo hi l hlt h ih =>
    rcases lt_or_ge a hi with hin | hout
    · refine ⟨⟨lo, some hi⟩, ⟨List.mem_cons_self, ha, by simpa using hin⟩, ?_⟩
      rintro b ⟨hb, hlower, -⟩
      rcases List.mem_cons.mp hb with rfl | hb
      · rfl
      · exact absurd (hin.trans_le (h.le_lower b hb)) (not_lt.mpr hlower)
    · obtain ⟨b, ⟨hb, hcontains⟩, hunique⟩ := ih hout
      refine ⟨b, ⟨List.mem_cons_of_mem _ hb, hcontains⟩, ?_⟩
      rintro c ⟨hc, hcontains'⟩
      rcases List.mem_cons.mp hc with rfl | hc
      · exact absurd (hcontains'.2 hi rfl) (not_lt.mpr hout)
      · exact hunique c ⟨hc, hcontains'⟩

end Consecutive

/-! ### Levies -/

section Levy

variable {β : Type*} {tier : β → Tier K} {rate : β → K} {top : K} {bands : List β}

def levy (tier : β → Tier K) (rate : β → K) (bands : List β) (x : K) : K :=
  (bands.map fun b => (tier b).portion x * rate b).sum

theorem levy_sub_le_sum (tier : β → Tier K) (htop : ∀ b ∈ bands, rate b ≤ top) (h : x ≤ y) :
    levy tier rate bands y - levy tier rate bands x ≤
      top * ((bands.map fun b => (tier b).portion y).sum -
        (bands.map fun b => (tier b).portion x).sum) := by
  induction bands with
  | nil => simp [levy]
  | cons b bands ih =>
    have hrest := ih fun c hc => htop c (List.mem_cons_of_mem _ hc)
    have hportion := sub_nonneg.mpr ((tier b).portion_mono h)
    have hband := mul_le_mul_of_nonneg_left (htop b List.mem_cons_self) hportion
    simp only [levy, List.map_cons, List.sum_cons] at hrest ⊢
    linarith

/-- **No jump**: a consecutive scale levies on more of an amount at most the highest rate. -/
theorem Consecutive.levy_sub_le (hscale : Consecutive lo (bands.map tier))
    (htop : ∀ b ∈ bands, rate b ≤ top) (hx : lo ≤ x) (h : x ≤ y) :
    levy tier rate bands y - levy tier rate bands x ≤ top * (y - x) := by
  have hy := hscale.sum_portion (hx.trans h)
  have hsum := hscale.sum_portion hx
  rw [List.map_map] at hy hsum
  have hle := levy_sub_le_sum tier htop h
  calc levy tier rate bands y - levy tier rate bands x
      ≤ top * ((y - lo) - (x - lo)) := by
        rw [← hy, ← hsum]
        exact hle
    _ = top * (y - x) := by ring

end Levy

end Tier
