import DotmacErp.FixedAssets.Depreciation
import DotmacErp.Foundation.FlooredCharges

/-!
# Depreciation down to the residual value

An asset that is charged month by month over its life. Its net book value never rises and never
falls below the residual value, whatever the method (`residual_le_afterMonths`,
`afterMonths_succ_le`). Where it ends depends on the method:

* **declining methods** take in the last month all that is left, so the life ends at the residual
  value;
* **straight-line and sum-of-years** charges are each rounded to cents, and nothing makes up for the
  rounding in the last month. They end at the residual value if and only if the charges that are
  planned add up to the depreciable amount (`afterMonths_eq_residual_iff`); for straight-line
  charges that is when the monthly amount is not rounded down. The sum of the years is taken over
  whole years, so an asset with less than a year to live is not charged at all.

`endsAtResidual_iff` puts the four methods together.
-/

namespace DotmacErp.Depreciation

open Relational Rounding

section Bounds

variable {asset : Asset} {periods : ℤ}

theorem Asset.depreciation_of_not_declining (h : ¬ asset.depreciationMethod.isDeclining)
    (periods : ℤ) :
    asset.depreciation periods =
      FlooredCharges.taken asset.residualValue asset.netBookValue (asset.methodAmount periods) := by
  rw [Asset.depreciation]
  exact if_neg fun hlast => h hlast.2

theorem Asset.depreciation_of_last (h : asset.depreciationMethod.isDeclining)
    (hlast : asset.remainingLifeMonths ≤ periods) :
    asset.depreciation periods = max 0 (asset.netBookValue - asset.residualValue) := by
  rw [Asset.depreciation]
  exact if_pos ⟨max_eq_left (by omega), h⟩

theorem Asset.depreciation_le (h : asset.residualValue ≤ asset.netBookValue) (periods : ℤ) :
    asset.depreciation periods ≤ asset.netBookValue - asset.residualValue := by
  have hmax : 0 ≤ asset.netBookValue - asset.residualValue := sub_nonneg.mpr h
  simp only [Asset.depreciation]
  split_ifs
  · exact max_le hmax le_rfl
  · exact hmax
  · exact min_le_right _ _

theorem Asset.depreciation_of_le (h : asset.netBookValue ≤ asset.residualValue) (periods : ℤ) :
    asset.depreciation periods = 0 := by
  have hmax : asset.netBookValue - asset.residualValue ≤ 0 := sub_nonpos.mpr h
  simp only [Asset.depreciation]
  split_ifs
  · exact max_eq_left hmax
  · rfl

theorem Asset.depreciation_nonneg (h : 0 ≤ asset.methodAmount periods) :
    0 ≤ asset.depreciation periods := by
  simp only [Asset.depreciation]
  split_ifs with hlast hmax
  · exact le_max_left _ _
  · exact le_rfl
  · exact le_min h (not_le.mp hmax).le

variable {residualValue : ℚ} {usefulLifeMonths : ℤ}

theorem calculateStraightLine_nonneg {costBasis : ℚ}
    (hcost : residualValue ≤ costBasis) (hperiods : 0 ≤ periods) :
    0 ≤ calculateStraightLine costBasis residualValue usefulLifeMonths periods := by
  rw [calculateStraightLine]
  split_ifs with hlife
  · exact le_rfl
  · have hlife' : (0 : ℚ) < usefulLifeMonths := by exact_mod_cast not_le.mp hlife
    have hperiods' : (0 : ℚ) ≤ periods := by exact_mod_cast hperiods
    have hmonth : 0 ≤ decimal ((costBasis - residualValue) / usefulLifeMonths) :=
      significant_nonneg 28 (div_nonneg (sub_nonneg.mpr hcost) hlife'.le)
    exact halfUp_nonneg (significant_nonneg 28 (mul_nonneg hmonth hperiods'))

theorem monthlyRate_nonneg {rateMultiplier : ℚ} (hlife : 0 ≤ usefulLifeMonths)
    (hrate : 0 ≤ rateMultiplier) : 0 ≤ monthlyRate usefulLifeMonths rateMultiplier := by
  have hlife' : (0 : ℚ) ≤ usefulLifeMonths := by exact_mod_cast hlife
  have hyears : 0 ≤ binary64 (usefulLifeMonths / 12) :=
    binary64_nonneg (div_nonneg hlife' (by norm_num))
  have hannual : 0 ≤ decimal (1 / binary64 (usefulLifeMonths / 12)) :=
    significant_nonneg 28 (div_nonneg zero_le_one hyears)
  exact significant_nonneg 28 (div_nonneg (significant_nonneg 28 (mul_nonneg hannual hrate))
    (by norm_num))

theorem calculateDecliningBalance_nonneg {netBookValue rateMultiplier : ℚ} {remainingLifeMonths : ℤ}
    (hbook : 0 ≤ netBookValue) (hrate : 0 ≤ rateMultiplier) (hperiods : 0 ≤ periods) :
    0 ≤ calculateDecliningBalance netBookValue residualValue usefulLifeMonths remainingLifeMonths
      rateMultiplier periods := by
  simp only [calculateDecliningBalance]
  split_ifs with hlife hmax
  · exact le_rfl
  · exact le_rfl
  · have hmonth : 0 ≤ decimal (netBookValue * monthlyRate usefulLifeMonths rateMultiplier) :=
      significant_nonneg 28 (mul_nonneg hbook
        (monthlyRate_nonneg (not_le.mp fun h => hlife (Or.inl h)).le hrate))
    have hperiods' : (0 : ℚ) ≤ periods := by exact_mod_cast hperiods
    exact halfUp_nonneg (le_min (significant_nonneg 28 (mul_nonneg hmonth hperiods'))
      (not_le.mp hmax).le)

/-- The amount of a month in sum-of-years depreciation, before it is rounded to cents: the years
that remain, of twelve times the sum of the whole years of the life. -/
def sumOfYearsMonth (depreciable : ℚ) (life remaining : ℤ) : ℚ :=
  decimal (decimal (decimal (((remaining + 11) / 12 : ℤ) /
    (((life / 12 * (life / 12 + 1) : ℤ) : ℚ) / 2)) * depreciable) / 12)

theorem sumOfYearsMonth_nonneg {depreciable : ℚ} {life remaining : ℤ} (h : 0 ≤ depreciable)
    (hlife : 0 < life) (hremaining : 0 < remaining) :
    0 ≤ sumOfYearsMonth depreciable life remaining := by
  have hyears : (0 : ℚ) ≤ ((life / 12 * (life / 12 + 1) : ℤ) : ℚ) / 2 := by
    have hdiv : 0 ≤ life / 12 := by omega
    have hcast : (0 : ℚ) ≤ ((life / 12 * (life / 12 + 1) : ℤ) : ℚ) := by
      exact_mod_cast mul_nonneg hdiv (by omega)
    exact div_nonneg hcast (by norm_num)
  have hleft : (0 : ℚ) ≤ ((remaining + 11) / 12 : ℤ) := by
    have hdiv : 0 ≤ (remaining + 11) / 12 := by omega
    exact_mod_cast hdiv
  have hshare := significant_nonneg 28 (div_nonneg hleft hyears)
  exact significant_nonneg 28 (div_nonneg (significant_nonneg 28 (mul_nonneg hshare h))
    (by norm_num))

/-- Without a whole year there is no amount. -/
theorem sumOfYearsMonth_of_no_year {depreciable : ℚ} {life remaining : ℤ}
    (h : (((life / 12 * (life / 12 + 1) : ℤ) : ℚ) / 2) = 0) :
    sumOfYearsMonth depreciable life remaining = 0 := by
  rw [sumOfYearsMonth, h, div_zero, decimal_zero, zero_mul, decimal_zero, zero_div, decimal_zero]

@[simp] theorem decimal_sumOfYearsMonth (depreciable : ℚ) (life remaining : ℤ) :
    decimal (sumOfYearsMonth depreciable life remaining) =
      sumOfYearsMonth depreciable life remaining :=
  decimal_decimal _

theorem calculateSumOfYears_eq {costBasis : ℚ} {life remaining : ℤ} (hlife : 0 < life)
    (hremaining : 0 < remaining) (periods : ℤ) :
    calculateSumOfYears costBasis residualValue life remaining periods =
      halfUp 2
        (decimal (sumOfYearsMonth (costBasis - residualValue) life remaining * periods)) := by
  have hpos : ¬ (life ≤ 0 ∨ remaining ≤ 0) := by omega
  rw [calculateSumOfYears, if_neg hpos]
  simp only
  split_ifs with hsum
  · rw [sumOfYearsMonth_of_no_year hsum, zero_mul, decimal_zero, halfUp_zero]
  · rfl

theorem calculateSumOfYears_nonneg {costBasis : ℚ} {remainingLifeMonths : ℤ}
    (hcost : residualValue ≤ costBasis) (hperiods : 0 ≤ periods) :
    0 ≤ calculateSumOfYears costBasis residualValue usefulLifeMonths remainingLifeMonths
      periods := by
  by_cases hlife : usefulLifeMonths ≤ 0 ∨ remainingLifeMonths ≤ 0
  · rw [calculateSumOfYears, if_pos hlife]
  · push Not at hlife
    have hperiods' : (0 : ℚ) ≤ periods := by exact_mod_cast hperiods
    rw [calculateSumOfYears_eq hlife.1 hlife.2]
    exact halfUp_nonneg (significant_nonneg 28 (mul_nonneg
      (sumOfYearsMonth_nonneg (sub_nonneg.mpr hcost) hlife.1 hlife.2) hperiods'))

theorem Asset.methodAmount_nonneg (hcost : asset.residualValue ≤ asset.costBasis)
    (hbook : 0 ≤ asset.netBookValue) (hperiods : 0 ≤ periods) :
    0 ≤ asset.methodAmount periods := by
  rw [Asset.methodAmount]
  split
  · exact calculateStraightLine_nonneg hcost hperiods
  · exact calculateDecliningBalance_nonneg hbook (by norm_num) hperiods
  · exact calculateDecliningBalance_nonneg hbook (by norm_num) hperiods
  · exact calculateSumOfYears_nonneg hcost hperiods
  · exact calculateStraightLine_nonneg hcost hperiods

end Bounds

/-! ### Month by month -/

section Months

variable {asset : Asset}

/-- **The net book value does not fall below the residual value.** -/
theorem Asset.residual_le_afterMonths (h : asset.residualValue ≤ asset.netBookValue) (months : ℕ) :
    asset.residualValue ≤ (asset.afterMonths months).netBookValue := by
  induction months with
  | zero => exact h
  | succ months ih =>
    have hle := (asset.afterMonths months).depreciation_le
      (by rwa [Asset.afterMonths_residualValue]) 1
    rw [Asset.afterMonths_residualValue] at hle
    rw [Asset.afterMonths, Asset.charged_netBookValue]
    linarith

/-- **The net book value does not rise.** -/
theorem Asset.afterMonths_succ_le (h0 : 0 ≤ asset.residualValue)
    (hcost : asset.residualValue ≤ asset.costBasis)
    (h : asset.residualValue ≤ asset.netBookValue) (months : ℕ) :
    (asset.afterMonths (months + 1)).netBookValue ≤ (asset.afterMonths months).netBookValue := by
  have hbook : 0 ≤ (asset.afterMonths months).netBookValue :=
    h0.trans (Asset.residual_le_afterMonths h months)
  have hcost' : (asset.afterMonths months).residualValue ≤
      (asset.afterMonths months).costBasis := by
    rwa [Asset.afterMonths_residualValue, Asset.afterMonths_costBasis]
  have hnonneg := Asset.depreciation_nonneg (Asset.methodAmount_nonneg hcost' hbook zero_le_one)
  rw [Asset.afterMonths, Asset.charged_netBookValue]
  linarith

variable {months : ℕ}

theorem Asset.afterMonths_of_last (h : asset.depreciationMethod.isDeclining)
    (hmonths : 0 < months) (hlife : (months : ℤ) = asset.remainingLifeMonths)
    (hbook : asset.residualValue ≤ asset.netBookValue) :
    (asset.afterMonths months).netBookValue = asset.residualValue := by
  obtain ⟨before, rfl⟩ : ∃ before, months = before + 1 := ⟨months - 1, by omega⟩
  have hbefore : (before : ℤ) ≤ asset.remainingLifeMonths := by omega
  have hmethod : (asset.afterMonths before).depreciationMethod.isDeclining := by
    rwa [Asset.afterMonths_depreciationMethod]
  have hremaining : (asset.afterMonths before).remainingLifeMonths ≤ 1 := by
    rw [Asset.afterMonths_remainingLifeMonths hbefore]
    omega
  have hlast := Asset.depreciation_of_last hmethod hremaining
  have hle := Asset.residual_le_afterMonths hbook before
  rw [Asset.afterMonths, Asset.charged_netBookValue, hlast, Asset.afterMonths_residualValue,
    max_eq_right (sub_nonneg.mpr hle), sub_sub_cancel]

def Asset.planned (asset : Asset) (month : ℕ) : ℚ :=
  if asset.depreciationMethod = .sumOfYears then
    calculateSumOfYears asset.costBasis asset.residualValue asset.usefulLifeMonths
      (asset.remainingLifeMonths - month) 1
  else calculateStraightLine asset.costBasis asset.residualValue asset.usefulLifeMonths 1

theorem Asset.methodAmount_afterMonths (h : ¬ asset.depreciationMethod.isDeclining)
    (hlife : (months : ℤ) ≤ asset.remainingLifeMonths) :
    (asset.afterMonths months).methodAmount 1 = asset.planned months := by
  have hremaining := Asset.afterMonths_remainingLifeMonths hlife
  simp only [Asset.methodAmount, Asset.planned, Asset.afterMonths_depreciationMethod,
    Asset.afterMonths_costBasis, Asset.afterMonths_residualValue,
    Asset.afterMonths_usefulLifeMonths, hremaining]
  cases hmethod : asset.depreciationMethod with
  | straightLine => rfl
  | decliningBalance => exact absurd (by rw [hmethod]; rfl) h
  | doubleDeclining => exact absurd (by rw [hmethod]; rfl) h
  | sumOfYears => rfl
  | unitsOfProduction => rfl

theorem Asset.afterMonths_netBookValue (h : ¬ asset.depreciationMethod.isDeclining)
    (hlife : (months : ℤ) ≤ asset.remainingLifeMonths) :
    (asset.afterMonths months).netBookValue =
      FlooredCharges.balance asset.residualValue asset.planned asset.netBookValue months := by
  induction months with
  | zero => rfl
  | succ months ih =>
    have hle : (months : ℤ) ≤ asset.remainingLifeMonths := by
      push_cast at hlife
      omega
    have hmethod : ¬ (asset.afterMonths months).depreciationMethod.isDeclining := by
      rwa [Asset.afterMonths_depreciationMethod]
    rw [Asset.afterMonths, Asset.charged_netBookValue, Asset.depreciation_of_not_declining hmethod,
      Asset.methodAmount_afterMonths h hle, Asset.afterMonths_residualValue, ih hle,
      FlooredCharges.balance]

theorem Asset.planned_nonneg (hcost : asset.residualValue ≤ asset.costBasis) (month : ℕ) :
    0 ≤ asset.planned month := by
  rw [Asset.planned]
  split_ifs
  · exact calculateSumOfYears_nonneg hcost zero_le_one
  · exact calculateStraightLine_nonneg hcost zero_le_one

end Months

/-! ### The end of the life -/

def Asset.depreciable (asset : Asset) : ℚ := asset.costBasis - asset.residualValue

/-- The charges over a life take the depreciable amount: declining methods always do, sum-of-years
charges if there is a whole year and their roundings add up to it, straight-line charges if the
amount of a month is not rounded down. -/
def Asset.TakesAll (asset : Asset) (life : ℕ) : Prop :=
  match asset.depreciationMethod with
  | .decliningBalance | .doubleDeclining => True
  | .sumOfYears => 12 ≤ life ∧ asset.depreciable ≤
      ∑ month ∈ Finset.range life,
        halfUp 2 (sumOfYearsMonth asset.depreciable life (life - month))
  | .straightLine | .unitsOfProduction =>
    asset.depreciable / life ≤ halfUp 2 (decimal (asset.depreciable / life))

/-- Nothing of the asset is charged yet. -/
structure Asset.IsNew (asset : Asset) (life : ℕ) : Prop where
  usefulLife : asset.usefulLifeMonths = life
  remainingLife : asset.remainingLifeMonths = life
  book : asset.netBookValue = asset.costBasis
  accumulated : asset.accumulatedDepreciation = 0

section Life

variable {asset : Asset} {life : ℕ}

theorem Asset.planned_straightLine (h : asset.depreciationMethod ≠ .sumOfYears)
    (hnew : asset.IsNew life) (hlife : 0 < life) (month : ℕ) :
    asset.planned month = halfUp 2 (decimal (asset.depreciable / life)) := by
  have hpos : ¬ ((life : ℤ) ≤ 0) := by omega
  rw [Asset.planned, if_neg h, calculateStraightLine, hnew.usefulLife, if_neg hpos]
  push_cast
  rw [mul_one, decimal_decimal]
  rfl

theorem Asset.planned_sumOfYears (h : asset.depreciationMethod = .sumOfYears)
    (hnew : asset.IsNew life) {month : ℕ} (hmonth : month < life) :
    asset.planned month = halfUp 2 (sumOfYearsMonth asset.depreciable life (life - month)) := by
  have hremaining : (0 : ℤ) < life - month := by omega
  rw [Asset.planned, if_pos h, hnew.usefulLife, hnew.remainingLife,
    calculateSumOfYears_eq (by omega) hremaining, Int.cast_one, mul_one, decimal_sumOfYearsMonth]
  rfl

theorem Asset.depreciable_le_planned_iff (h : ¬ asset.depreciationMethod.isDeclining)
    (hnew : asset.IsNew life) (hlife : 0 < life) (hcost : asset.residualValue < asset.costBasis) :
    asset.depreciable ≤ ∑ month ∈ Finset.range life, asset.planned month ↔
      asset.TakesAll life := by
  have hpos : 0 < asset.depreciable := sub_pos.mpr hcost
  have hstraight (hmethod : asset.depreciationMethod ≠ .sumOfYears) :
      asset.depreciable ≤ ∑ month ∈ Finset.range life, asset.planned month ↔
        asset.depreciable / life ≤ halfUp 2 (decimal (asset.depreciable / life)) := by
    have hlife' : (0 : ℚ) < life := by exact_mod_cast hlife
    rw [Finset.sum_congr rfl fun month _ => Asset.planned_straightLine hmethod hnew hlife month,
      Finset.sum_const, Finset.card_range, nsmul_eq_mul, div_le_iff₀ hlife', mul_comm]
  rw [Asset.TakesAll]
  cases hmethod : asset.depreciationMethod with
  | straightLine => exact hstraight (by rw [hmethod]; decide)
  | decliningBalance => exact absurd (by rw [hmethod]; rfl) h
  | doubleDeclining => exact absurd (by rw [hmethod]; rfl) h
  | unitsOfProduction => exact hstraight (by rw [hmethod]; decide)
  | sumOfYears =>
    rw [Finset.sum_congr rfl fun month hmonth =>
      Asset.planned_sumOfYears hmethod hnew (Finset.mem_range.mp hmonth)]
    refine ⟨fun hsum => ⟨?_, hsum⟩, And.right⟩
    -- without a whole year there are no shares
    by_contra hshort
    have hyears : (life : ℤ) / 12 = 0 := by omega
    have hnone : ∀ remaining : ℤ, sumOfYearsMonth asset.depreciable life remaining = 0 :=
      fun remaining => sumOfYearsMonth_of_no_year (by rw [hyears]; norm_num)
    simp only [hnone, halfUp_zero, Finset.sum_const_zero] at hsum
    linarith

/-- Over its life an asset is depreciated to the residual value if and only if the charges take all
of the depreciable amount. -/
theorem Asset.afterMonths_eq_residual_iff (hnew : asset.IsNew life) (hlife : 0 < life)
    (hcost : asset.residualValue < asset.costBasis) :
    (asset.afterMonths life).netBookValue = asset.residualValue ↔ asset.TakesAll life := by
  have hbook : asset.residualValue ≤ asset.netBookValue := hnew.book ▸ hcost.le
  by_cases hdeclining : asset.depreciationMethod.isDeclining
  · have htakes : asset.TakesAll life := by
      rw [Asset.TakesAll]
      cases hmethod : asset.depreciationMethod with
      | straightLine => rw [hmethod] at hdeclining; cases hdeclining
      | decliningBalance => trivial
      | doubleDeclining => trivial
      | sumOfYears => rw [hmethod] at hdeclining; cases hdeclining
      | unitsOfProduction => rw [hmethod] at hdeclining; cases hdeclining
    refine iff_of_true ?_ htakes
    exact Asset.afterMonths_of_last hdeclining hlife hnew.remainingLife.symm hbook
  · rw [Asset.afterMonths_netBookValue hdeclining (by rw [hnew.remainingLife]),
      FlooredCharges.balance_eq_floor_iff hbook fun month _ => Asset.planned_nonneg hcost.le month,
      hnew.book, ← Asset.depreciable_le_planned_iff hdeclining hnew hlife hcost]
    rfl

end Life

/-- Charged month by month, the book value falls to the residual value and not below it. -/
structure EndsAtResidual (categories : Table AssetCategory) (asset : Stored Asset) (life : ℕ) :
    Prop where
  falls : ∀ month < life, ∀ before after, chargeMonthly categories asset month = .ok before →
    chargeMonthly categories asset (month + 1) = .ok after →
    after.row.netBookValue ≤ before.row.netBookValue
  above : ∀ month ≤ life, ∀ after, chargeMonthly categories asset month = .ok after →
    asset.row.residualValue ≤ after.row.netBookValue
  ends : ∃ after, chargeMonthly categories asset life = .ok after ∧
    after.row.netBookValue = asset.row.residualValue ∧
    after.row.accumulatedDepreciation = asset.row.costBasis - asset.row.residualValue

/-- **Depreciation ends at the residual value** if and only if the charges take all of the
depreciable amount. -/
theorem endsAtResidual_iff {categories : Table AssetCategory} {asset : Stored Asset} {life : ℕ}
    (hcategory : (categories.get? asset.row.categoryId).isSome) (hnew : asset.row.IsNew life)
    (hlife : 1 ≤ life) (hcost : asset.row.residualValue < asset.row.costBasis)
    (hresidual : 0 ≤ asset.row.residualValue) :
    EndsAtResidual categories asset life ↔ asset.row.TakesAll life := by
  have hbook : asset.row.residualValue ≤ asset.row.netBookValue := hnew.book ▸ hcost.le
  rw [← Asset.afterMonths_eq_residual_iff hnew hlife hcost]
  constructor
  · intro h
    obtain ⟨after, hafter, hend, -⟩ := h.ends
    rw [chargeMonthly_eq hcategory] at hafter
    rwa [← Except.ok.inj hafter] at hend
  · intro hend
    refine ⟨?_, ?_, ⟨asset.id, asset.row.afterMonths life⟩, chargeMonthly_eq hcategory life, hend,
      ?_⟩
    · intro month _ before after hbefore hafter
      rw [chargeMonthly_eq hcategory] at hbefore hafter
      rw [← Except.ok.inj hbefore, ← Except.ok.inj hafter]
      exact Asset.afterMonths_succ_le hresidual hcost.le hbook month
    · intro month _ after hafter
      rw [chargeMonthly_eq hcategory] at hafter
      rw [← Except.ok.inj hafter]
      exact Asset.residual_le_afterMonths hbook month
    · have htotal : (asset.row.afterMonths life).netBookValue +
          (asset.row.afterMonths life).accumulatedDepreciation =
          asset.row.netBookValue + asset.row.accumulatedDepreciation :=
        Asset.afterMonths_add life
      rw [hend, hnew.book, hnew.accumulated] at htotal
      linarith

def equipment : AssetCategory := ⟨1, 2⟩

def sampleCategories : Table AssetCategory := Table.empty.insert equipment

def newAsset (method : DepreciationMethod) (cost : ℕ) (life : ℕ) : Stored Asset where
  id := 0
  row :=
    { organizationId := 1
      assetNumber := "FA-0001"
      categoryId := 0
      depreciationMethod := method
      acquisitionCost := cost
      residualValue := 0
      accumulatedDepreciation := 0
      netBookValue := cost
      usefulLifeMonths := life
      remainingLifeMonths := life
      depreciationStartDate := none
      status := .inUse
      residual_column := atScale_zero 6
      accumulated_column := atScale_zero 6
      book_column := atScale_natCast 6 cost }

theorem newAsset_isNew (method : DepreciationMethod) (cost life : ℕ) :
    (newAsset method cost life).row.IsNew life :=
  ⟨rfl, rfl, rfl, rfl⟩

/-- A cost of 120 over a year. -/
theorem endsAtResidual_iff_sample :
    EndsAtResidual sampleCategories (newAsset .straightLine 120 12) 12 := by
  refine (endsAtResidual_iff (by decide +kernel) (newAsset_isNew _ _ _) (by decide)
    (by decide +kernel) (by decide +kernel)).mpr ?_
  change Asset.depreciable _ / (12 : ℕ) ≤ halfUp 2 (decimal (Asset.depreciable _ / (12 : ℕ)))
  decide +kernel

/-- A cost of 100 over three months is charged with 33.33 three times, which leaves a cent. -/
theorem cent_left_over : ¬ ∀ (categories : Table AssetCategory) (asset : Stored Asset) (life : ℕ),
    (categories.get? asset.row.categoryId).isSome → asset.row.IsNew life → 1 ≤ life →
    asset.row.residualValue < asset.row.costBasis → 0 ≤ asset.row.residualValue →
    EndsAtResidual categories asset life := by
  intro h
  have hends := (h sampleCategories (newAsset .straightLine 100 3) 3 (by decide +kernel)
    (newAsset_isNew _ _ _) (by decide) (by decide +kernel) (by decide +kernel)).ends
  obtain ⟨after, hafter, hbook, -⟩ := hends
  have hcent : (chargeMonthly sampleCategories (newAsset .straightLine 100 3) 3).map
      (fun asset => asset.row.netBookValue) = .ok (1 / 100) := by
    decide +kernel
  rw [hafter] at hcent
  have heq : after.row.netBookValue = 1 / 100 := Except.ok.inj hcent
  rw [hbook] at heq
  exact absurd heq (by decide +kernel)

end DotmacErp.Depreciation
