import DotmacErp.Inventory.LotBalances

/-!
# The three quantities of a lot balance

A lot balance keeps what is on hand, how much of it is allocated and how much is available; each
operation on it works out all three again. `Consistent` says how they belong together: what is
allocated is on hand, and what is neither allocated nor quarantined is available.

Taking stock that is on hand from a balance keeps this, as an allocation the rest no longer covers
is cut. Receiving and adjusting keep it exactly when the balance is not quarantined, or nothing
would be available anyway, and when an adjustment leaves what is allocated; allocating keeps it
when what is allocated is on hand and is not rounded up together with what is left.
-/

namespace DotmacErp.Inventory

open Rounding

namespace InventoryLotBalance

variable {balance : InventoryLotBalance} {quantity : ℚ}

/-- **The quantities of a balance belong together.** -/
structure Consistent (balance : InventoryLotBalance) : Prop where
  allocated_nonneg : 0 ≤ balance.quantityAllocated
  allocated_le : balance.quantityAllocated ≤ balance.quantityOnHand
  available : balance.quantityAvailable =
    if balance.isQuarantined then 0 else balance.quantityOnHand - balance.quantityAllocated

instance : Decidable balance.Consistent :=
  decidable_of_iff
    (0 ≤ balance.quantityAllocated ∧ balance.quantityAllocated ≤ balance.quantityOnHand ∧
      balance.quantityAvailable =
        if balance.isQuarantined then 0 else balance.quantityOnHand - balance.quantityAllocated)
    ⟨fun h => ⟨h.1, h.2.1, h.2.2⟩, fun h => ⟨h.1, h.2, h.3⟩⟩

/-- What is on hand and what is allocated are as the database keeps them. -/
structure AtScale (balance : InventoryLotBalance) : Prop where
  onHand : Rounding.AtScale 6 balance.quantityOnHand
  allocated : Rounding.AtScale 6 balance.quantityAllocated

/-- A lot as the database keeps it, with no more allocated than is on hand. -/
structure Sound (balance : InventoryLotBalance) : Prop where
  atScale : balance.AtScale
  consistent : balance.Consistent

theorem Consistent.onHand_nonneg (h : balance.Consistent) : 0 ≤ balance.quantityOnHand :=
  h.allocated_nonneg.trans h.allocated_le

theorem atScale_withdraw : (balance.withdraw quantity).AtScale :=
  ⟨atScale_halfUp 6 _, atScale_halfUp 6 _⟩

theorem AtScale.deposit (h : balance.AtScale) : (balance.deposit quantity).AtScale :=
  ⟨atScale_halfUp 6 _, h.allocated⟩

theorem AtScale.reallocate {allocated : ℚ} (h : balance.AtScale) :
    (balance.reallocate allocated).AtScale :=
  ⟨h.onHand, atScale_halfUp 6 _⟩

theorem AtScale.adjust (h : balance.AtScale) : (balance.adjust quantity).AtScale :=
  ⟨atScale_halfUp 6 _, h.allocated⟩

/-- What is available, rounded, is what is on hand, rounded, less what is allocated, as long as it
is not negative. -/
theorem numeric_sub_of_nonneg {onHand allocated : ℚ} (ha : Rounding.AtScale 6 allocated)
    (h0 : 0 ≤ allocated) (honHand : 0 ≤ onHand) (h : 0 ≤ numeric (onHand - allocated)) :
    numeric onHand = allocated + numeric (onHand - allocated) := by
  rcases le_or_gt allocated onHand with hle | hlt
  · exact halfUp_of_le ha h0 hle
  · have hzero : numeric (onHand - allocated) = 0 := by
      refine le_antisymm ?_ h
      calc numeric (onHand - allocated) ≤ numeric 0 := halfUp_mono (by linarith)
        _ = 0 := halfUp_zero 6
    have hsum := halfUp_add_of_atScale (q := onHand - allocated) ha (by linarith)
    rwa [add_sub_cancel, if_neg fun htie => halfUp_ne_zero_of_tie htie.2 hzero, add_zero] at hsum

theorem consistent_iff_of_changed (changed : InventoryLotBalance) {onHand : ℚ}
    (hb : balance.Consistent) (hscale : balance.AtScale) (h0 : 0 ≤ onHand)
    (honHand : changed.quantityOnHand = numeric onHand)
    (hallocated : changed.quantityAllocated = balance.quantityAllocated)
    (havailable : changed.quantityAvailable = numeric (onHand - balance.quantityAllocated)) :
    changed.Consistent ↔ 0 ≤ changed.quantityAvailable ∧
      (changed.isQuarantined = true → changed.quantityAvailable = 0) := by
  constructor
  · intro h
    have hle := h.allocated_le
    rw [h.available]
    cases changed.isQuarantined with
    | true => simp
    | false => simpa using hle
  · rintro ⟨hnonneg, hquarantined⟩
    rw [havailable] at hnonneg
    have hsum := numeric_sub_of_nonneg hscale.allocated hb.allocated_nonneg h0 hnonneg
    refine ⟨hallocated ▸ hb.allocated_nonneg, ?_, ?_⟩
    · rw [hallocated, honHand, hsum]
      linarith
    · split_ifs with hq
      · exact hquarantined hq
      · rw [havailable, honHand, hallocated, hsum]
        ring

theorem consistent_deposit_iff (hb : balance.Consistent) (hscale : balance.AtScale)
    (hq : 0 ≤ quantity) :
    (balance.deposit quantity).Consistent ↔ (balance.isQuarantined = true →
      numeric (balance.quantityOnHand + quantity - balance.quantityAllocated) = 0) := by
  have hsum := add_nonneg hb.onHand_nonneg hq
  rw [consistent_iff_of_changed (balance.deposit quantity) hb hscale hsum rfl rfl rfl]
  refine ⟨fun h => h.2, fun h => ⟨halfUp_nonneg ?_, h⟩⟩
  have hle := hb.allocated_le
  linarith

/-- Adjusting keeps them together unless it cuts into what is allocated, or makes a quarantined
balance available. -/
theorem consistent_adjust_iff (hb : balance.Consistent) (hscale : balance.AtScale)
    (hsum : 0 ≤ balance.quantityOnHand + quantity) :
    (balance.adjust quantity).Consistent ↔
      0 ≤ numeric (balance.quantityOnHand + quantity - balance.quantityAllocated) ∧
        (balance.isQuarantined = true →
          numeric (balance.quantityOnHand + quantity - balance.quantityAllocated) = 0) :=
  consistent_iff_of_changed (balance.adjust quantity) hb hscale hsum rfl rfl rfl

/-- Taking what is on hand keeps them together unless it makes a quarantined balance
available. -/
theorem consistent_withdraw_iff (hb : balance.Consistent) (hscale : balance.AtScale)
    (hq : quantity ≤ balance.quantityOnHand) :
    (balance.withdraw quantity).Consistent ↔ (balance.isQuarantined = true →
      (balance.withdraw quantity).quantityAvailable = 0) := by
  have hrest : 0 ≤ balance.quantityOnHand - quantity := sub_nonneg.mpr hq
  by_cases hcut : balance.quantityAllocated > balance.quantityOnHand - quantity
  · -- what is left is allocated as a whole
    have hallocated : (balance.withdraw quantity).quantityAllocated =
        (balance.withdraw quantity).quantityOnHand := by
      simp only [withdraw, if_pos hcut]
    have havailable : (balance.withdraw quantity).quantityAvailable = 0 := by
      simp only [withdraw, if_pos hcut, sub_self]
      exact halfUp_zero 6
    refine ⟨fun _ _ => havailable, fun _ => ⟨?_, hallocated.le, ?_⟩⟩
    · rw [hallocated]
      exact halfUp_nonneg hrest
    · rw [havailable, hallocated, sub_self, ite_self]
  · have hallocated : (balance.withdraw quantity).quantityAllocated =
        balance.quantityAllocated := by
      simp only [withdraw, if_neg hcut]
      exact halfUp_of_atScale hscale.allocated
    have havailable : (balance.withdraw quantity).quantityAvailable =
        numeric (balance.quantityOnHand - quantity - balance.quantityAllocated) := by
      simp only [withdraw, if_neg hcut]
    rw [consistent_iff_of_changed (balance.withdraw quantity) hb hscale hrest rfl
      hallocated havailable]
    refine ⟨fun h => h.2, fun h => ⟨?_, h⟩⟩
    rw [havailable]
    exact halfUp_nonneg (by linarith [not_lt.mp hcut])

theorem Consistent.withdraw (hb : balance.Consistent) (hscale : balance.AtScale)
    (hquarantined : balance.isQuarantined = false) (hq : quantity ≤ balance.quantityOnHand) :
    (balance.withdraw quantity).Consistent :=
  (consistent_withdraw_iff hb hscale hq).mpr fun h =>
    absurd (hquarantined.symm.trans h) Bool.false_ne_true

/-- Allocating another quantity keeps them together when, as the database keeps it, it lies between
nothing and what is on hand, does not lie half-way between two millionths, and makes no quarantined
balance available. -/
theorem consistent_reallocate_iff {allocated : ℚ} (hscale : balance.AtScale)
    (h0 : 0 ≤ balance.quantityOnHand) :
    (balance.reallocate allocated).Consistent ↔
      0 ≤ numeric allocated ∧ numeric allocated ≤ balance.quantityOnHand ∧
        if balance.isQuarantined then numeric (balance.quantityOnHand - allocated) = 0
        else ¬ Tie 6 allocated := by
  have hfree : ¬ Tie 6 allocated →
      numeric (balance.quantityOnHand - allocated) =
        balance.quantityOnHand - numeric allocated := by
    intro htie
    have hround :=
      halfUp_add_of_not_tie (q := -allocated) hscale.onHand fun h => htie (tie_neg.mp h)
    rwa [halfUp_neg, ← sub_eq_add_neg, ← sub_eq_add_neg] at hround
  -- what lies half-way is rounded up whether it is allocated or left
  have htied : 0 ≤ numeric allocated → numeric allocated ≤ balance.quantityOnHand →
      Tie 6 allocated →
        numeric (balance.quantityOnHand - allocated) ≠
          balance.quantityOnHand - numeric allocated := by
    intro hnonneg hle htie
    have hnonzero : numeric allocated ≠ 0 := halfUp_ne_zero_of_tie htie
    have hpositive : 0 < allocated := by
      by_contra hneg
      have hmono : numeric allocated ≤ numeric 0 := halfUp_mono (not_lt.mp hneg)
      rw [show numeric 0 = 0 from halfUp_zero 6] at hmono
      exact hnonzero (le_antisymm hmono hnonneg)
    rcases le_or_gt allocated balance.quantityOnHand with hcovers | hexceeds
    · have hround := halfUp_add_of_atScale (q := -allocated) hscale.onHand (by linarith)
      rw [if_pos ⟨neg_neg_iff_pos.mpr hpositive, tie_neg.mpr htie⟩, halfUp_neg,
        ← sub_eq_add_neg, ← sub_eq_add_neg] at hround
      intro heq
      have hunit : (1 : ℚ) / 10 ^ 6 = 0 := by
        have hboth := hround.symm.trans heq
        linarith
      norm_num at hunit
    · have hround := halfUp_of_le hscale.onHand h0 hexceeds.le
      have hrest : 0 ≤ numeric (allocated - balance.quantityOnHand) :=
        halfUp_nonneg (by linarith)
      have hzero : halfUp 6 (allocated - balance.quantityOnHand) = 0 := by
        have hle' : halfUp 6 allocated ≤ balance.quantityOnHand := hle
        have hrest' : 0 ≤ halfUp 6 (allocated - balance.quantityOnHand) := hrest
        linarith
      exact fun _ => halfUp_ne_zero_of_tie ((tie_sub_iff hscale.onHand).mpr htie) hzero
  constructor
  · intro h
    refine ⟨h.allocated_nonneg, h.allocated_le, ?_⟩
    have havailable : numeric (balance.quantityOnHand - allocated) =
        if balance.isQuarantined then 0 else balance.quantityOnHand - numeric allocated :=
      h.available
    split_ifs with hq
    · rwa [if_pos hq] at havailable
    · rw [if_neg hq] at havailable
      exact fun htie => htied h.allocated_nonneg h.allocated_le htie havailable
  · rintro ⟨hnonneg, hle, havailable⟩
    refine ⟨hnonneg, hle, ?_⟩
    change numeric (balance.quantityOnHand - allocated) =
      if balance.isQuarantined then 0 else balance.quantityOnHand - numeric allocated
    split_ifs at havailable ⊢
    · exact havailable
    · exact hfree havailable

/-! ### What is on hand -/

theorem onHand_deposit (hscale : balance.AtScale) (h0 : 0 ≤ balance.quantityOnHand)
    (hq : 0 ≤ quantity) :
    (balance.deposit quantity).quantityOnHand = balance.quantityOnHand + numeric quantity := by
  have hsum := halfUp_add_of_atScale hscale.onHand (add_nonneg h0 hq)
  rwa [if_neg (fun htie => absurd htie.1 (not_lt.mpr hq)), add_zero] at hsum

theorem onHand_adjust (hscale : balance.AtScale) (hsum : 0 ≤ balance.quantityOnHand + quantity)
    (htie : ¬ (quantity < 0 ∧ Tie 6 quantity)) :
    (balance.adjust quantity).quantityOnHand = balance.quantityOnHand + numeric quantity := by
  have hround := halfUp_add_of_atScale hscale.onHand hsum
  rwa [if_neg htie, add_zero] at hround

theorem onHand_withdraw (hscale : balance.AtScale) (htie : ¬ Tie 6 quantity) :
    (balance.withdraw quantity).quantityOnHand = balance.quantityOnHand - numeric quantity := by
  have hround := halfUp_add_of_not_tie hscale.onHand fun h => htie (tie_neg.mp h)
  rwa [← sub_eq_add_neg, halfUp_neg, ← sub_eq_add_neg] at hround

end InventoryLotBalance

open InventoryLotBalance

theorem sound_freshBalance (lotId warehouseId : UUID) (lot : InventoryLot) :
    (freshBalance lotId lot warehouseId).Sound where
  atScale := ⟨atScale_zero 6, atScale_zero 6⟩
  consistent := ⟨le_rfl, le_rfl, by
    change (0 : ℚ) = if false = true then 0 else 0 - 0
    rw [if_neg Bool.false_ne_true, sub_zero]⟩

theorem sound_openingBalance (item : Item) (lotId : UUID) {input : TransactionInput}
    (hq : 0 ≤ input.quantity) : (openingBalance item lotId input).Sound where
  atScale := ⟨atScale_halfUp 6 _, atScale_zero 6⟩
  consistent := ⟨le_rfl, halfUp_nonneg hq, by
    change numeric input.quantity = if false = true then 0 else numeric input.quantity - 0
    rw [if_neg Bool.false_ne_true, sub_zero]⟩

end DotmacErp.Inventory
