import DotmacErp.Foundation.RoundedSums
import DotmacErp.Foundation.SignificantDigits
import DotmacErp.GL.Models

/-!
# Depreciation of an asset

`DepreciationService`: how much an asset is depreciated by when some months are charged, by its
method. Straight-line and sum-of-years charges are shares of its cost, declining charges are shares
of its net book value. A charge is in cents, takes no more than what the net book value is above the
residual value, and by the declining methods takes all of it when no life remains.

Quotients and products have 28 digits, and the years of a life that a declining rate divides by are
a floating-point number; sums of amounts are exact, within what the columns hold.

A charge is applied to the asset by the posting of a run: its accumulated depreciation, its net book
value and its remaining life are those after the charge.
-/

namespace DotmacErp.Depreciation

open Calendar Relational Rounding

inductive DepreciationMethod
  | straightLine
  | decliningBalance
  | doubleDeclining
  | sumOfYears
  | unitsOfProduction
  deriving DecidableEq

inductive AssetStatus
  | notInUse
  | inUse
  | inStore
  | faulty
  | underRepair
  | fullyDepreciated
  | retired
  deriving DecidableEq

/-- `AssetCategory`, with the accounts of its charges. -/
structure AssetCategory where
  depreciationExpenseAccountId : UUID
  accumulatedDepreciationAccountId : UUID

def column (q : ℚ) : ℚ := halfUp 6 q

/-- `Asset`, with what depreciation reads and writes. The amounts are held in columns with six
decimals. -/
structure Asset where
  organizationId : UUID
  assetNumber : String
  categoryId : UUID
  costCenterId : Option UUID := none
  depreciationMethod : DepreciationMethod
  acquisitionCost : ℚ
  revaluedAmount : Option ℚ := none
  residualValue : ℚ
  accumulatedDepreciation : ℚ
  netBookValue : ℚ
  usefulLifeMonths : ℤ
  remainingLifeMonths : ℤ
  depreciationStartDate : Option Date
  status : AssetStatus
  residual_column : AtScale 6 residualValue
  accumulated_column : AtScale 6 accumulatedDepreciation
  book_column : AtScale 6 netBookValue

structure DepreciationCalculation where
  assetId : UUID
  assetNumber : String
  depreciationAmount : ℚ
  openingNbv : ℚ
  closingNbv : ℚ
  openingAccumDep : ℚ
  closingAccumDep : ℚ
  remainingLifeOpening : ℤ
  remainingLifeClosing : ℤ
  expenseAccountId : UUID
  accumDepAccountId : UUID
  costCenterId : Option UUID

/-- What the service raises; `committed` is an HTTP error that is raised after the transaction was
committed. -/
inductive DepreciationError
  | http (statusCode : ℕ) (detail : String)
  | committed (statusCode : ℕ) (detail : String)
  | valueError (message : String)
  deriving DecidableEq

/-! ### The methods -/

def calculateStraightLine (costBasis residualValue : ℚ) (usefulLifeMonths periods : ℤ) : ℚ :=
  if usefulLifeMonths ≤ 0 then 0
  else
    let depreciableAmount := costBasis - residualValue
    let monthlyDepreciation := decimal (depreciableAmount / usefulLifeMonths)
    halfUp 2 (decimal (monthlyDepreciation * periods))

/-- The share of the net book value that a declining method takes each month. -/
def monthlyRate (usefulLifeMonths : ℤ) (rateMultiplier : ℚ) : ℚ :=
  let annualRate := decimal (decimal (1 / binary64 (usefulLifeMonths / 12)) * rateMultiplier)
  decimal (annualRate / 12)

def calculateDecliningBalance (netBookValue residualValue : ℚ)
    (usefulLifeMonths remainingLifeMonths : ℤ) (rateMultiplier : ℚ) (periods : ℤ) : ℚ :=
  if usefulLifeMonths ≤ 0 ∨ remainingLifeMonths ≤ 0 then 0
  else
    let depreciation :=
      decimal (decimal (netBookValue * monthlyRate usefulLifeMonths rateMultiplier) * periods)
    let maxDepreciation := netBookValue - residualValue
    if maxDepreciation ≤ 0 then 0 else halfUp 2 (min depreciation maxDepreciation)

def calculateSumOfYears (costBasis residualValue : ℚ)
    (usefulLifeMonths remainingLifeMonths periods : ℤ) : ℚ :=
  if usefulLifeMonths ≤ 0 ∨ remainingLifeMonths ≤ 0 then 0
  else
    let usefulLifeYears := usefulLifeMonths / 12
    let remainingYears := (remainingLifeMonths + 11) / 12
    let sumOfYears : ℚ := (usefulLifeYears * (usefulLifeYears + 1) : ℤ) / 2
    if sumOfYears = 0 then 0
    else
      let depreciableAmount := costBasis - residualValue
      let annualDepreciation := decimal (decimal (remainingYears / sumOfYears) * depreciableAmount)
      let monthlyDepreciation := decimal (annualDepreciation / 12)
      halfUp 2 (decimal (monthlyDepreciation * periods))

/-- The cost that is depreciated: the revalued amount, unless it is missing or zero. -/
def Asset.costBasis (asset : Asset) : ℚ :=
  match asset.revaluedAmount with
  | some revalued => if revalued = 0 then asset.acquisitionCost else revalued
  | none => asset.acquisitionCost

def Asset.methodAmount (asset : Asset) (periods : ℤ) : ℚ :=
  match asset.depreciationMethod with
  | .straightLine => calculateStraightLine asset.costBasis asset.residualValue
      asset.usefulLifeMonths periods
  | .decliningBalance => calculateDecliningBalance asset.netBookValue asset.residualValue
      asset.usefulLifeMonths asset.remainingLifeMonths 1 periods
  | .doubleDeclining => calculateDecliningBalance asset.netBookValue asset.residualValue
      asset.usefulLifeMonths asset.remainingLifeMonths 2 periods
  | .sumOfYears => calculateSumOfYears asset.costBasis asset.residualValue
      asset.usefulLifeMonths asset.remainingLifeMonths periods
  | .unitsOfProduction => calculateStraightLine asset.costBasis asset.residualValue
      asset.usefulLifeMonths periods

def DepreciationMethod.isDeclining : DepreciationMethod → Bool
  | .decliningBalance | .doubleDeclining => true
  | _ => false

/-- The amount of a charge of some months. -/
def Asset.depreciation (asset : Asset) (periods : ℤ) : ℚ :=
  let maxDepreciation := asset.netBookValue - asset.residualValue
  let depreciation :=
    if maxDepreciation ≤ 0 then 0 else min (asset.methodAmount periods) maxDepreciation
  if max 0 (asset.remainingLifeMonths - periods) = 0 ∧ asset.depreciationMethod.isDeclining then
    max 0 maxDepreciation
  else depreciation

def calculateAssetDepreciation (categories : Table AssetCategory) (asset : Stored Asset)
    (periods : ℤ := 1) : Except DepreciationError DepreciationCalculation :=
  match categories.get? asset.row.categoryId with
  | none => .error (.valueError ("Category not found for asset " ++ asset.row.assetNumber))
  | some category =>
    let depreciation := asset.row.depreciation periods
    .ok
      { assetId := asset.id
        assetNumber := asset.row.assetNumber
        depreciationAmount := depreciation
        openingNbv := asset.row.netBookValue
        closingNbv := asset.row.netBookValue - depreciation
        openingAccumDep := asset.row.accumulatedDepreciation
        closingAccumDep := asset.row.accumulatedDepreciation + depreciation
        remainingLifeOpening := asset.row.remainingLifeMonths
        remainingLifeClosing := max 0 (asset.row.remainingLifeMonths - periods)
        expenseAccountId := category.depreciationExpenseAccountId
        accumDepAccountId := category.accumulatedDepreciationAccountId
        costCenterId := asset.row.costCenterId }

/-! ### A charge and its application -/

def Asset.apply (asset : Asset) (closingAccumDep closingNbv : ℚ) (remainingLifeClosing : ℤ) :
    Asset :=
  { asset with
    accumulatedDepreciation := column closingAccumDep
    netBookValue := column closingNbv
    remainingLifeMonths := remainingLifeClosing
    status :=
      if column closingNbv ≤ asset.residualValue then .fullyDepreciated else asset.status
    accumulated_column := atScale_halfUp 6 closingAccumDep
    book_column := atScale_halfUp 6 closingNbv }

def charge (categories : Table AssetCategory) (asset : Stored Asset) (periods : ℤ) :
    Except DepreciationError (Stored Asset) := do
  let calculation ← calculateAssetDepreciation categories asset periods
  pure ⟨asset.id, asset.row.apply calculation.closingAccumDep calculation.closingNbv
    calculation.remainingLifeClosing⟩

def chargeMonthly (categories : Table AssetCategory) (asset : Stored Asset) :
    ℕ → Except DepreciationError (Stored Asset)
  | 0 => .ok asset
  | months + 1 => do
    let charged ← chargeMonthly categories asset months
    charge categories charged 1

def Asset.charged (asset : Asset) (periods : ℤ) : Asset :=
  asset.apply (asset.accumulatedDepreciation + asset.depreciation periods)
    (asset.netBookValue - asset.depreciation periods) (max 0 (asset.remainingLifeMonths - periods))

def Asset.afterMonths (asset : Asset) : ℕ → Asset
  | 0 => asset
  | months + 1 => (asset.afterMonths months).charged 1

section Charged

variable (asset : Asset) (periods : ℤ)

theorem Asset.atScale_methodAmount : AtScale 2 (asset.methodAmount periods) := by
  rw [Asset.methodAmount]
  split
  all_goals
    simp only [calculateStraightLine, calculateDecliningBalance, calculateSumOfYears]
    split_ifs
    all_goals first | exact atScale_zero 2 | exact atScale_halfUp 2 _

theorem Asset.atScale_depreciation : AtScale 6 (asset.depreciation periods) := by
  have hmax : AtScale 6 (asset.netBookValue - asset.residualValue) :=
    asset.book_column.sub asset.residual_column
  have hamount : AtScale 6 (asset.methodAmount periods) :=
    (asset.atScale_methodAmount periods).of_le (by omega)
  simp only [Asset.depreciation]
  split_ifs
  · rcases max_choice 0 (asset.netBookValue - asset.residualValue) with h | h <;> rw [h]
    · exact atScale_zero 6
    · exact hmax
  · exact atScale_zero 6
  · rcases min_choice (asset.methodAmount periods) (asset.netBookValue - asset.residualValue)
      with h | h <;> rw [h]
    · exact hamount
    · exact hmax

@[simp] theorem Asset.charged_netBookValue :
    (asset.charged periods).netBookValue = asset.netBookValue - asset.depreciation periods :=
  halfUp_of_atScale (asset.book_column.sub (asset.atScale_depreciation periods))

@[simp] theorem Asset.charged_accumulatedDepreciation :
    (asset.charged periods).accumulatedDepreciation =
      asset.accumulatedDepreciation + asset.depreciation periods :=
  halfUp_of_atScale (asset.accumulated_column.add (asset.atScale_depreciation periods))

@[simp] theorem Asset.charged_remainingLifeMonths :
    (asset.charged periods).remainingLifeMonths = max 0 (asset.remainingLifeMonths - periods) :=
  rfl

end Charged

theorem charge_eq {categories : Table AssetCategory} {asset : Stored Asset}
    (hcategory : (categories.get? asset.row.categoryId).isSome) (periods : ℤ) :
    charge categories asset periods = .ok ⟨asset.id, asset.row.charged periods⟩ := by
  obtain ⟨category, hget⟩ := Option.isSome_iff_exists.mp hcategory
  rw [charge, calculateAssetDepreciation, hget]
  rfl

section Monthly

variable {asset : Asset}

@[simp] theorem Asset.afterMonths_residualValue (months : ℕ) :
    (asset.afterMonths months).residualValue = asset.residualValue := by
  induction months with
  | zero => rfl
  | succ months ih => exact ih

@[simp] theorem Asset.afterMonths_costBasis (months : ℕ) :
    (asset.afterMonths months).costBasis = asset.costBasis := by
  induction months with
  | zero => rfl
  | succ months ih => exact ih

@[simp] theorem Asset.afterMonths_usefulLifeMonths (months : ℕ) :
    (asset.afterMonths months).usefulLifeMonths = asset.usefulLifeMonths := by
  induction months with
  | zero => rfl
  | succ months ih => exact ih

@[simp] theorem Asset.afterMonths_depreciationMethod (months : ℕ) :
    (asset.afterMonths months).depreciationMethod = asset.depreciationMethod := by
  induction months with
  | zero => rfl
  | succ months ih => exact ih

@[simp] theorem Asset.afterMonths_organizationId (months : ℕ) :
    (asset.afterMonths months).organizationId = asset.organizationId := by
  induction months with
  | zero => rfl
  | succ months ih => exact ih

@[simp] theorem Asset.afterMonths_depreciationStartDate (months : ℕ) :
    (asset.afterMonths months).depreciationStartDate = asset.depreciationStartDate := by
  induction months with
  | zero => rfl
  | succ months ih => exact ih

@[simp] theorem Asset.afterMonths_categoryId (months : ℕ) :
    (asset.afterMonths months).categoryId = asset.categoryId := by
  induction months with
  | zero => rfl
  | succ months ih => exact ih

theorem Asset.afterMonths_remainingLifeMonths {months : ℕ}
    (h : (months : ℤ) ≤ asset.remainingLifeMonths) :
    (asset.afterMonths months).remainingLifeMonths = asset.remainingLifeMonths - months := by
  induction months with
  | zero => rw [Asset.afterMonths, Nat.cast_zero, sub_zero]
  | succ months ih =>
    push_cast at h ⊢
    rw [Asset.afterMonths, Asset.charged_remainingLifeMonths, ih (by omega)]
    omega

theorem Asset.afterMonths_add (months : ℕ) :
    (asset.afterMonths months).netBookValue + (asset.afterMonths months).accumulatedDepreciation =
      asset.netBookValue + asset.accumulatedDepreciation := by
  induction months with
  | zero => rfl
  | succ months ih =>
    rw [Asset.afterMonths, Asset.charged_netBookValue, Asset.charged_accumulatedDepreciation, ← ih]
    ring

theorem chargeMonthly_eq {categories : Table AssetCategory} {asset : Stored Asset}
    (hcategory : (categories.get? asset.row.categoryId).isSome) (months : ℕ) :
    chargeMonthly categories asset months = .ok ⟨asset.id, asset.row.afterMonths months⟩ := by
  induction months with
  | zero => rfl
  | succ months ih =>
    let charged : Stored Asset := ⟨asset.id, asset.row.afterMonths months⟩
    have hnext : (categories.get? charged.row.categoryId).isSome := by
      rwa [Asset.afterMonths_categoryId]
    rw [chargeMonthly, ih]
    exact charge_eq hnext 1

end Monthly

end DotmacErp.Depreciation
