import Mathlib.Algebra.Order.Ring.Defs
import Mathlib.Algebra.BigOperators.Group.List.Basic
import Mathlib.Tactic.Linarith
import Mathlib.Tactic.Ring

/-!
# Gains and losses that reverse one another

The value of a thing changes time after time. What it rises by is first taken against the losses
recognized before and is a gain for the rest; what it falls by is first taken against the gains
recognized before and is a loss for the rest.

A split that knows the gains and losses recognized before only in gross, without what was reversed
of them, takes too much against them: the gains or losses left fall below nothing. So the splits of
some changes are sound (`IsSound`) if and only if each change fits (`Splits.alwaysSound_iff`): it
takes back no more than the net position, or the position has never come back from that side before.
-/

namespace Reversals

/-- How a change is recognized: as a gain, as a loss, and as the reversal of losses or gains. -/
structure Split (K : Type*) where
  gain : K
  loss : K
  lossReversed : K
  gainReversed : K

/-- A net position, by how much it has risen above nothing, and by how much it has fallen below. -/
structure Position (K : Type*) where
  net : K
  risen : K
  fallen : K

section Lists

variable {K : Type*} [CommRing K] {l : List (Split K)} {p : Split K}

/-- The change that is recognized. -/
def Split.total (p : Split K) : K := p.gain + p.lossReversed - p.loss - p.gainReversed

def gains (l : List (Split K)) : K := (l.map Split.gain).sum

def losses (l : List (Split K)) : K := (l.map Split.loss).sum

def gainsLeft (l : List (Split K)) : K := (l.map fun p => p.gain - p.gainReversed).sum

def lossesLeft (l : List (Split K)) : K := (l.map fun p => p.loss - p.lossReversed).sum

theorem gains_concat : gains (l ++ [p]) = gains l + p.gain := by simp [gains]

theorem losses_concat : losses (l ++ [p]) = losses l + p.loss := by simp [losses]

theorem gainsLeft_concat : gainsLeft (l ++ [p]) = gainsLeft l + (p.gain - p.gainReversed) := by
  simp [gainsLeft]

theorem lossesLeft_concat : lossesLeft (l ++ [p]) = lossesLeft l + (p.loss - p.lossReversed) := by
  simp [lossesLeft]

end Lists

section Definitions

variable {K : Type*} [CommRing K] [LinearOrder K]

def split (gains losses x : K) : Split K :=
  if 0 < x then
    { gain := x - min x losses, loss := 0, lossReversed := min x losses, gainReversed := 0 }
  else
    { gain := 0, loss := -x - min (-x) gains, lossReversed := 0, gainReversed := min (-x) gains }

/-- Changes that are split one after the other, each given the gross gains and losses before. -/
inductive Splits : List K → List (Split K) → Prop
  | nil : Splits [] []
  | snoc {xs : List K} {l : List (Split K)} (h : Splits xs l) (x : K) :
      Splits (xs ++ [x]) (l ++ [split (gains l) (losses l) x])

/-- Neither the gains nor the losses that are left are negative. -/
structure IsSound (l : List (Split K)) : Prop where
  gains_nonneg : 0 ≤ gainsLeft l
  losses_nonneg : 0 ≤ lossesLeft l

def Position.after (p : Position K) (x : K) : Position K where
  net := p.net + x
  risen := p.risen + max 0 (max 0 (p.net + x) - max 0 p.net)
  fallen := p.fallen + max 0 (max 0 (-(p.net + x)) - max 0 (-p.net))

def position (xs : List K) : Position K := xs.foldl Position.after ⟨0, 0, 0⟩

/-- A change fits after some changes: it takes the position back to nothing at most, or the position
has never come back from this side. -/
def Fits (xs : List K) (x : K) : Prop :=
  (0 < x → x ≤ -(position xs).net ∨ (position xs).fallen ≤ max 0 (-(position xs).net)) ∧
    (x < 0 → -x ≤ (position xs).net ∨ (position xs).risen ≤ max 0 (position xs).net)

theorem position_concat (xs : List K) (x : K) : position (xs ++ [x]) = (position xs).after x := by
  rw [position, List.foldl_append]
  rfl

theorem total_split (gains losses x : K) : (split gains losses x).total = x := by
  rw [split]
  split_ifs
  · simp only [Split.total]
    ring
  · simp only [Split.total]
    ring

/-- The splits of some changes say what the net position says, and no more is left than was
recognized. -/
structure Agrees (xs : List K) (l : List (Split K)) : Prop where
  gainsLeft_eq : gainsLeft l = max 0 (position xs).net
  lossesLeft_eq : lossesLeft l = max 0 (-(position xs).net)
  gains_eq : gains l = (position xs).risen
  losses_eq : losses l = (position xs).fallen
  gains_le : max 0 (position xs).net ≤ (position xs).risen
  losses_le : max 0 (-(position xs).net) ≤ (position xs).fallen

theorem agrees_nil : Agrees ([] : List K) [] := by
  constructor <;> simp [position, gainsLeft, lossesLeft, gains, losses]

end Definitions

variable {K : Type*} [CommRing K] [LinearOrder K] [IsStrictOrderedRing K]

section Crossing

variable (n : K) {x : K}

theorem max_neg_add (hx : 0 ≤ x) : max 0 (-(n + x)) = max 0 (-n) - min x (max 0 (-n)) := by
  rcases le_total 0 n with hn | hn
  · rw [max_eq_left (neg_nonpos.mpr hn), min_eq_right hx, sub_zero, max_eq_left]
    linarith
  · rw [max_eq_right (neg_nonneg.mpr hn)]
    rcases le_total x (-n) with hle | hle
    · rw [min_eq_left hle, max_eq_right (by linarith)]
      ring
    · rw [min_eq_right hle, sub_self, max_eq_left]
      linarith

theorem max_add (hx : 0 ≤ x) : max 0 (n + x) = max 0 n + (x - min x (max 0 (-n))) := by
  have hback := max_neg_add n hx
  have hsplit (m : K) : max 0 m - max 0 (-m) = m := by
    rcases le_total 0 m with hm | hm
    · rw [max_eq_right hm, max_eq_left (neg_nonpos.mpr hm), sub_zero]
    · rw [max_eq_left hm, max_eq_right (neg_nonneg.mpr hm), zero_sub, neg_neg]
  have hn := hsplit n
  have hnext := hsplit (n + x)
  linarith

end Crossing

/-! ### Splits that are sound -/

section Step

variable {xs : List K} {l : List (Split K)} {x : K}

omit [IsStrictOrderedRing K] in
theorem Agrees.isSound (h : Agrees xs l) : IsSound l := by
  constructor
  · rw [h.gainsLeft_eq]
    exact le_max_left _ _
  · rw [h.lossesLeft_eq]
    exact le_max_left _ _

theorem Agrees.not_both (h : Agrees xs l) : ¬ (0 < gainsLeft l ∧ 0 < lossesLeft l) := by
  rw [h.gainsLeft_eq, h.lossesLeft_eq]
  rintro ⟨hgains, hlosses⟩
  have hpos : 0 < (position xs).net := (lt_max_iff.mp hgains).resolve_left (lt_irrefl _)
  have hneg : 0 < -(position xs).net := (lt_max_iff.mp hlosses).resolve_left (lt_irrefl _)
  linarith

omit [CommRing K] [IsStrictOrderedRing K] in
theorem min_gross_eq {gross left : K} (hle : left ≤ gross) (hfits : x ≤ left ∨ gross ≤ left) :
    min x gross = min x left := by
  rcases hfits with hsmall | hnever
  · rw [min_eq_left (hsmall.trans hle), min_eq_left hsmall]
  · rw [le_antisymm hnever hle]

/-- **A rise that fits** is split as the net position says. -/
theorem Agrees.rise (h : Agrees xs l) (hx : 0 < x)
    (hfits : x ≤ max 0 (-(position xs).net) ∨
      (position xs).fallen ≤ max 0 (-(position xs).net)) :
    Agrees (xs ++ [x]) (l ++ [split (gains l) (losses l) x]) := by
  have hreversed : min x (position xs).fallen = min x (max 0 (-(position xs).net)) :=
    min_gross_eq h.losses_le hfits
  have hback := max_neg_add (position xs).net hx.le
  have hbeyond := max_add (position xs).net hx.le
  have hreversed_le : min x (max 0 (-(position xs).net)) ≤ x := min_le_left _ _
  have hreversed_nonneg : 0 ≤ min x (max 0 (-(position xs).net)) :=
    le_min hx.le (le_max_left _ _)
  have hgains_le := h.gains_le
  have hlosses_le := h.losses_le
  have hrisen : max 0 (max 0 ((position xs).net + x) - max 0 (position xs).net) =
      x - min x (max 0 (-(position xs).net)) := by
    rw [hbeyond, add_sub_cancel_left, max_eq_right (by linarith)]
  have hfallen : max 0 (max 0 (-((position xs).net + x)) - max 0 (-(position xs).net)) = 0 := by
    rw [hback, max_eq_left (by linarith)]
  rw [split, if_pos hx, h.losses_eq, hreversed]
  constructor
  · rw [gainsLeft_concat, h.gainsLeft_eq, position_concat, Position.after, hbeyond, sub_zero]
  · rw [lossesLeft_concat, h.lossesLeft_eq, position_concat, Position.after, hback]
    ring
  · rw [gains_concat, h.gains_eq, position_concat, Position.after, hrisen]
  · rw [losses_concat, h.losses_eq, position_concat, Position.after, hfallen]
  · rw [position_concat, Position.after, hrisen, hbeyond]
    linarith
  · rw [position_concat, Position.after, hfallen, hback]
    linarith

/-- **A fall that fits** is split as the net position says. -/
theorem Agrees.fall (h : Agrees xs l) (hx : x ≤ 0)
    (hfits : -x ≤ max 0 (position xs).net ∨ (position xs).risen ≤ max 0 (position xs).net) :
    Agrees (xs ++ [x]) (l ++ [split (gains l) (losses l) x]) := by
  have hx' : 0 ≤ -x := neg_nonneg.mpr hx
  have hreversed : min (-x) (position xs).risen = min (-x) (max 0 (position xs).net) :=
    min_gross_eq h.gains_le hfits
  -- the position seen from below
  have hback := max_neg_add (-(position xs).net) hx'
  have hbeyond := max_add (-(position xs).net) hx'
  have hneg : -(position xs).net + -x = -((position xs).net + x) := by ring
  rw [hneg, neg_neg, neg_neg] at hback
  rw [hneg, neg_neg] at hbeyond
  have hreversed_le : min (-x) (max 0 (position xs).net) ≤ -x := min_le_left _ _
  have hreversed_nonneg : 0 ≤ min (-x) (max 0 (position xs).net) :=
    le_min hx' (le_max_left _ _)
  have hgains_le := h.gains_le
  have hlosses_le := h.losses_le
  have hrisen : max 0 (max 0 ((position xs).net + x) - max 0 (position xs).net) = 0 := by
    rw [hback, max_eq_left (by linarith)]
  have hfallen : max 0 (max 0 (-((position xs).net + x)) - max 0 (-(position xs).net)) =
      -x - min (-x) (max 0 (position xs).net) := by
    rw [hbeyond, add_sub_cancel_left, max_eq_right (by linarith)]
  rw [split, if_neg (not_lt.mpr hx), h.gains_eq, hreversed]
  constructor
  · rw [gainsLeft_concat, h.gainsLeft_eq, position_concat, Position.after, hback]
    ring
  · rw [lossesLeft_concat, h.lossesLeft_eq, position_concat, Position.after, hbeyond, sub_zero]
  · rw [gains_concat, h.gains_eq, position_concat, Position.after, hrisen]
  · rw [losses_concat, h.losses_eq, position_concat, Position.after, hfallen]
  · rw [position_concat, Position.after, hrisen, hback]
    linarith
  · rw [position_concat, Position.after, hfallen, hbeyond]
    linarith

theorem Agrees.concat (h : Agrees xs l) (hfits : Fits xs x) :
    Agrees (xs ++ [x]) (l ++ [split (gains l) (losses l) x]) := by
  rcases lt_trichotomy x 0 with hx | rfl | hx
  · exact h.fall hx.le ((hfits.2 hx).imp_left fun hsmall => hsmall.trans (le_max_right _ _))
  · exact h.fall le_rfl (Or.inl (neg_zero.le.trans (le_max_left _ _)))
  · exact h.rise hx ((hfits.1 hx).imp_left fun hsmall => hsmall.trans (le_max_right _ _))

theorem Agrees.fits (h : Agrees xs l)
    (hsound : IsSound (l ++ [split (gains l) (losses l) x])) : Fits xs x := by
  constructor
  · intro hx
    have hnonneg := hsound.losses_nonneg
    rw [lossesLeft_concat, split, if_pos hx, h.lossesLeft_eq, h.losses_eq] at hnonneg
    have hle : min x (position xs).fallen ≤ max 0 (-(position xs).net) := by linarith
    rcases min_le_iff.mp hle with hsmall | hnever
    · exact Or.inl ((le_max_iff.mp hsmall).resolve_left (not_le.mpr hx))
    · exact Or.inr hnever
  · intro hx
    have hx' : 0 < -x := neg_pos.mpr hx
    have hnonneg := hsound.gains_nonneg
    rw [gainsLeft_concat, split, if_neg (not_lt.mpr hx.le), h.gainsLeft_eq, h.gains_eq] at hnonneg
    have hle : min (-x) (position xs).risen ≤ max 0 (position xs).net := by linarith
    rcases min_le_iff.mp hle with hsmall | hnever
    · exact Or.inl ((le_max_iff.mp hsmall).resolve_left (not_le.mpr hx'))
    · exact Or.inr hnever

end Step

/-! ### Every prefix -/

/-- Each step fits what went before it. -/
def AllFit (xs : List K) : Prop := ∀ ys y, ys ++ [y] <+: xs → Fits ys y

def AlwaysSound (l : List (Split K)) : Prop := ∀ l', l' <+: l → IsSound l'

variable {xs : List K}

omit [IsStrictOrderedRing K] in
theorem allFit_concat {x : K} : AllFit (xs ++ [x]) ↔ AllFit xs ∧ Fits xs x := by
  constructor
  · intro h
    exact ⟨fun ys y hinitial => h ys y (hinitial.trans (List.prefix_append _ _)),
      h xs x (List.prefix_rfl)⟩
  · rintro ⟨hbefore, hlast⟩ ys y hinitial
    rcases List.prefix_concat_iff.mp hinitial with heq | hinitial
    · obtain ⟨rfl, hsame⟩ := List.append_inj' heq rfl
      rwa [(List.singleton_inj.mp hsame)]
    · exact hbefore ys y hinitial

variable {l : List (Split K)}

omit [IsStrictOrderedRing K] in
theorem alwaysSound_concat {p : Split K} :
    AlwaysSound (l ++ [p]) ↔ AlwaysSound l ∧ IsSound (l ++ [p]) := by
  constructor
  · intro h
    exact ⟨fun l' hinitial => h l' (hinitial.trans (List.prefix_append _ _)),
      h _ List.prefix_rfl⟩
  · rintro ⟨hbefore, hlast⟩ l' hinitial
    rcases List.prefix_concat_iff.mp hinitial with rfl | hinitial
    · exact hlast
    · exact hbefore l' hinitial

/-- **Splits are sound at every time if and only if each change fits**, and then they say what the
net position says. -/
theorem Splits.alwaysSound_iff (h : Splits xs l) :
    (AlwaysSound l ↔ AllFit xs) ∧ (AllFit xs → Agrees xs l) := by
  induction h with
  | nil =>
    refine ⟨iff_of_true ?_ ?_, fun _ => agrees_nil⟩
    · intro l' hinitial
      rw [List.prefix_nil.mp hinitial]
      exact agrees_nil.isSound
    · intro ys y hinitial
      exact absurd (List.prefix_nil.mp hinitial) (by simp)
  | @snoc xs l h x ih =>
    obtain ⟨hiff, hagrees⟩ := ih
    rw [alwaysSound_concat, allFit_concat, hiff]
    constructor
    · refine and_congr_right fun hfit => ?_
      exact ⟨(hagrees hfit).fits, fun hfits => ((hagrees hfit).concat hfits).isSound⟩
    · exact fun hfit => (hagrees hfit.1).concat hfit.2

theorem Splits.not_both (h : Splits xs l) (hfit : AllFit xs) :
    ∀ l', l' <+: l → ¬ (0 < gainsLeft l' ∧ 0 < lossesLeft l') := by
  induction h with
  | nil =>
    intro l' hinitial
    rw [List.prefix_nil.mp hinitial]
    exact agrees_nil.not_both
  | snoc h x ih =>
    obtain ⟨hbefore, hlast⟩ := allFit_concat.mp hfit
    intro l' hinitial
    rcases List.prefix_concat_iff.mp hinitial with rfl | hinitial
    · exact ((h.alwaysSound_iff.2 hbefore).concat hlast).not_both
    · exact ih hbefore l' hinitial

end Reversals
