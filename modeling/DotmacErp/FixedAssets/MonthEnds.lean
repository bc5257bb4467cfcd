import DotmacErp.FixedAssets.DepreciationRuns
import DotmacErp.FixedAssets.ResidualValue
import DotmacErp.Foundation.Months

/-!
# A run at each month end

A run is calculated and posted as of each month end, from the month in which the depreciation of an
asset starts. The months that have passed are counted by the day of the start: a month end whose day
is before it does not count its month (`elapsedMonths_monthEnd`). So for a start on one of the last
days of a month, no month is due at the end of a shorter one, and two are at the end of the next.

One month is due at each of the month ends of the life, and none later, if and only if each of these
months has the day of the start, and before each of the runs the asset has something to charge
(`oneEachMonthEnd_iff`): a month without a charge is not recognized, and stays due. What an asset
has to charge is said from its row (`Asset.HasCharge`).
-/

namespace DotmacErp.Depreciation

open Calendar Relational Rounding

/-! ### Month ends -/

def monthEndAfter (start : Date) (months : ℕ) : Date := (start.addMonths months).monthEnd

theorem monthIndex_monthEnd (d : Date) : d.monthEnd.monthIndex = d.monthIndex := rfl

theorem day_monthEnd (d : Date) : d.monthEnd.day = monthLength d.monthIndex := by
  have hvalid := d.valid
  have hyear : d.monthIndex / 12 = d.year := by
    rw [Date.monthIndex]
    omega
  have hmonth : d.monthIndex % 12 + 1 = d.month := by
    rw [Date.monthIndex]
    omega
  rw [monthLength, hyear, hmonth]
  rfl

theorem le_monthEndAfter (start : Date) (months : ℕ) : start ≤ monthEndAfter start months := by
  rcases Nat.eq_zero_or_pos months with rfl | hpos
  · have hindex : start.monthIndex = (monthEndAfter start 0).monthIndex := by
      rw [monthEndAfter, monthIndex_monthEnd, Date.monthIndex_addMonths, Nat.add_zero]
    rw [Date.le_iff_day_le hindex, monthEndAfter, day_monthEnd, Date.monthIndex_addMonths,
      Nat.add_zero]
    exact start.day_le_monthLength
  · exact (Date.lt_addMonths hpos start).le.trans (Date.le_monthEnd _)

/-- The month has the day on which depreciation starts. -/
def HasDay (start : Date) (i : ℕ) : Prop := start.day ≤ monthLength (start.monthIndex + i)

instance (start : Date) (i : ℕ) : Decidable (HasDay start i) :=
  inferInstanceAs (Decidable (_ ≤ _))

/-- **The months that have passed at a month end**: those before its month, and its month if it has
the day of the start. -/
theorem elapsedMonths_monthEnd (start : Date) (months : ℕ) :
    elapsedMonths (some start) (monthEndAfter start months) =
      if HasDay start months then (months : ℤ) + 1 else months := by
  have hnotBefore : ¬ start > monthEndAfter start months :=
    not_lt.mpr (le_monthEndAfter start months)
  have hindex : (monthEndAfter start months).monthIndex = start.monthIndex + months := by
    rw [monthEndAfter, monthIndex_monthEnd, Date.monthIndex_addMonths]
  have hday : (monthEndAfter start months).day = monthLength (start.monthIndex + months) := by
    rw [monthEndAfter, day_monthEnd, Date.monthIndex_addMonths]
  have hdifference : (((monthEndAfter start months).year : ℤ) - start.year) * 12 +
      (((monthEndAfter start months).month : ℤ) - start.month) = months := by
    have hstart := start.valid
    have hend := (monthEndAfter start months).valid
    rw [Date.monthIndex, Date.monthIndex] at hindex
    omega
  simp only [elapsedMonths, if_neg hnotBefore, hdifference, hday, HasDay]
  split_ifs <;> omega

theorem periodsDueForRun_monthEnd {asset : Asset} {start : Date} {life recognized : ℕ}
    (hstart : asset.depreciationStartDate = some start) (hlife : asset.usefulLifeMonths = life)
    (hremaining : asset.remainingLifeMonths = life - recognized) (months : ℕ) :
    periodsDueForRun asset (monthEndAfter start months) =
      if life ≤ recognized then 0
      else max 0 (min (life : ℤ) (if HasDay start months then (months : ℤ) + 1 else months) -
        recognized) := by
  rw [periodsDueForRun, hstart, elapsedMonths_monthEnd, hlife, hremaining]
  by_cases hdone : life ≤ recognized
  · rw [if_pos hdone, if_pos (Or.inr (by omega))]
  · have hpos : ¬ ((life : ℤ) ≤ 0 ∨ (life : ℤ) - recognized ≤ 0) := by omega
    have hrecognized : max 0 ((life : ℤ) - (life - recognized)) = recognized := by omega
    rw [if_neg hdone, if_neg hpos]
    simp only [hrecognized]

/-! ### One run after the other -/

def afterRuns (org : UUID) (calls : ℕ → MonthlyCall) (s : FixedAssetStore) :
    ℕ → FixedAssetStore
  | 0 => s
  | i + 1 => settle (monthlyRun org (calls i)) (afterRuns org calls s i)

/-- A run for the period that ends then, made and posted by two users after its end. -/
structure MonthlyCall.ForMonthEnd (organizationId : UUID) (monthEnd : Date) (call : MonthlyCall) :
    Prop where
  period : ∃ period, call.fiscalPeriod = some period ∧ period.organizationId = organizationId ∧
    period.endDate = monthEnd
  passed : monthEnd ≤ call.today
  users : call.createdByUserId ≠ call.postedByUserId
  posted : ∃ journalEntryId postingBatchId, call.ledger = .posted journalEntryId postingBatchId

def Asset.advanced (org : UUID) (ends : ℕ → Date) (asset : Asset) : ℕ → Asset
  | 0 => asset
  | i + 1 => (asset.advanced org ends i).advance org (ends i)

/-- **Runs of months advance every asset**, month end by month end. -/
theorem get?_afterRuns {s : FixedAssetStore} {org : UUID} {calls : ℕ → MonthlyCall}
    {ends : ℕ → Date} (hcategories : s.CategoriesExist)
    (hcalls : ∀ i, (calls i).ForMonthEnd org (ends i)) (i : ℕ) :
    (afterRuns org calls s i).CategoriesExist ∧
      ∀ k, (afterRuns org calls s i).assets.get? k =
        (s.assets.get? k).map fun asset => asset.advanced org ends i := by
  induction i with
  | zero =>
    refine ⟨hcategories, fun k => ?_⟩
    rw [afterRuns]
    exact Option.map_id_apply.symm
  | succ i ih =>
    obtain ⟨hbefore, hassets⟩ := ih
    obtain ⟨period, hperiod, horganization, hend⟩ := (hcalls i).period
    obtain ⟨hafter, hadvance⟩ := monthlyRun_assets hbefore hperiod horganization (hcalls i).users
      (hcalls i).posted
    have hasOf : min period.endDate (calls i).today = ends i := by
      rw [hend]
      exact min_eq_left (hcalls i).passed
    refine ⟨hafter, fun k => ?_⟩
    rw [afterRuns, hadvance, hassets, Option.map_map, hasOf]
    rfl

/-! ### An asset from month end to month end -/

section Asset

variable {asset : Asset} {org : UUID} {start : Date} {life : ℕ}

/-- The asset after some of the months of its life. -/
structure Asset.Recognizes (asset : Asset) (start : Date) (life recognized : ℕ) : Prop where
  starts : asset.depreciationStartDate = some start
  useful : asset.usefulLifeMonths = life
  remaining : asset.remainingLifeMonths = life - recognized

variable {i : ℕ}

theorem Asset.recognizes_afterMonths (h : asset.Recognizes start life 0) (hi : i ≤ life) :
    (asset.afterMonths i).Recognizes start life i := by
  have hremaining := h.remaining
  have hle : (i : ℤ) ≤ asset.remainingLifeMonths := by omega
  constructor
  · rw [Asset.afterMonths_depreciationStartDate, h.starts]
  · rw [Asset.afterMonths_usefulLifeMonths, h.useful]
  · rw [Asset.afterMonths_remainingLifeMonths hle]
    omega

theorem Asset.inUse_afterMonths (h : asset.status = .inUse)
    (hcharges : ∀ j ≤ i, 0 < (asset.afterMonths j).depreciation 1) :
    (asset.afterMonths i).status = .inUse := by
  induction i with
  | zero => exact h
  | succ i ih =>
    have habove : ¬ ((asset.afterMonths i).charged 1).netBookValue ≤
        (asset.afterMonths i).residualValue := fun hle =>
      (hcharges (i + 1) le_rfl).ne' (Asset.depreciation_of_le hle 1)
    have hbefore := ih fun j hj => hcharges j (by omega)
    change (if ((asset.afterMonths i).charged 1).netBookValue ≤
      (asset.afterMonths i).residualValue then _ else (asset.afterMonths i).status) = _
    rw [if_neg habove, hbefore]

/-- A run as of a month end at which one month is due charges the asset, if it is in use and the
month has a charge. -/
theorem Asset.advance_of_due (horganization : asset.organizationId = org)
    (hstatus : asset.status = .inUse) {asOfDate : Date}
    (hdue : periodsDueForRun asset asOfDate = 1) (hcharge : 0 < asset.depreciation 1) :
    asset.advance org asOfDate = asset.charged 1 := by
  have hremaining : 0 < asset.remainingLifeMonths := by
    by_contra hnone
    rw [periodsDueForRun, if_pos (Or.inr (by omega))] at hdue
    omega
  have habove : asset.residualValue < asset.netBookValue := by
    by_contra hle
    exact hcharge.ne' (Asset.depreciation_of_le (not_lt.mp hle) 1)
  rw [Asset.advance, if_pos, hdue]
  refine ⟨⟨horganization, hstatus, hremaining, habove⟩, ?_, ?_⟩
  · rw [hdue]
    exact one_pos
  · rwa [hdue]

theorem Asset.advance_of_no_charge {asOfDate : Date} {periods : ℤ}
    (hdue : periodsDueForRun asset asOfDate = periods)
    (hcharge : periods ≤ 0 ∨ asset.depreciation periods ≤ 0) :
    asset.advance org asOfDate = asset := by
  rw [Asset.advance, if_neg]
  rintro ⟨-, hpositive, hcharged⟩
  rw [hdue] at hpositive hcharged
  rcases hcharge with hnone | hnone
  · exact absurd hpositive (not_lt.mpr hnone)
  · exact absurd hcharged (not_lt.mpr hnone)

section Due

variable {recognized : ℕ}

theorem Asset.Recognizes.due_of_life_le (h : asset.Recognizes start life recognized)
    (hlife : life ≤ recognized) (i : ℕ) : periodsDueForRun asset (monthEndAfter start i) = 0 := by
  rw [periodsDueForRun_monthEnd h.starts h.useful h.remaining, if_pos hlife]

theorem Asset.Recognizes.due_of_hasDay (h : asset.Recognizes start life recognized)
    (hlife : recognized < life) {i : ℕ} (hday : HasDay start i) :
    periodsDueForRun asset (monthEndAfter start i) =
      max 0 (min (life : ℤ) ((i : ℤ) + 1) - recognized) := by
  rw [periodsDueForRun_monthEnd h.starts h.useful h.remaining, if_neg (not_le.mpr hlife),
    if_pos hday]

theorem Asset.Recognizes.due_of_not_hasDay (h : asset.Recognizes start life recognized)
    (hlife : recognized < life) {i : ℕ} (hday : ¬ HasDay start i) :
    periodsDueForRun asset (monthEndAfter start i) = max 0 (min (life : ℤ) i - recognized) := by
  rw [periodsDueForRun_monthEnd h.starts h.useful h.remaining, if_neg (not_le.mpr hlife),
    if_neg hday]

theorem Asset.Recognizes.le_due (h : asset.Recognizes start life recognized)
    (hlife : recognized < life) (i : ℕ) :
    min (life : ℤ) i - recognized ≤ periodsDueForRun asset (monthEndAfter start i) := by
  by_cases hday : HasDay start i
  · rw [h.due_of_hasDay hlife hday]
    omega
  · rw [h.due_of_not_hasDay hlife hday]
    omega

end Due

theorem Asset.advanced_eq_afterMonths (hasset : asset.Recognizes start life 0)
    (horganization : asset.organizationId = org) (hstatus : asset.status = .inUse)
    (hi : i ≤ life) (hdays : ∀ j < i, HasDay start j)
    (hcharges : ∀ j < i, 0 < (asset.afterMonths j).depreciation 1) :
    asset.advanced org (monthEndAfter start) i = asset.afterMonths i := by
  induction i with
  | zero => rfl
  | succ i ih =>
    have hbefore := ih (by omega) (fun j hj => hdays j (by omega))
      fun j hj => hcharges j (by omega)
    have hrecognizes := Asset.recognizes_afterMonths hasset (i := i) (by omega)
    have hdue : periodsDueForRun (asset.afterMonths i) (monthEndAfter start i) = 1 := by
      rw [hrecognizes.due_of_hasDay (by omega) (hdays i i.lt_succ_self)]
      omega
    rw [Asset.advanced, hbefore]
    refine Asset.advance_of_due ?_ ?_ hdue (hcharges i i.lt_succ_self)
    · rw [Asset.afterMonths_organizationId, horganization]
    · exact Asset.inUse_afterMonths hstatus fun j hj => hcharges j (by omega)

theorem Asset.advanced_of_life_le
    (h : asset.advanced org (monthEndAfter start) life = asset.afterMonths life)
    (hasset : asset.Recognizes start life 0) (hi : life ≤ i) :
    asset.advanced org (monthEndAfter start) i = asset.afterMonths life := by
  induction i, hi using Nat.le_induction with
  | base => exact h
  | succ i hi ih =>
    have hrecognizes := Asset.recognizes_afterMonths hasset (i := life) le_rfl
    have hdue := hrecognizes.due_of_life_le le_rfl i
    rw [Asset.advanced, ih]
    exact Asset.advance_of_no_charge hdue (Or.inl le_rfl)

/-- At each of the first month ends one period is due, and none after them. -/
def Asset.OneEachMonthEnd (org : UUID) (start : Date) (life : ℕ) (asset : Asset) :
    Prop :=
  ∀ i, periodsDueForRun (asset.advanced org (monthEndAfter start) i)
    (monthEndAfter start i) = if i < life then 1 else 0

/-- A month without a charge is due again at the next month end, and two are due at one of the next
two. -/
theorem Asset.charge_pos_of_oneEach (hone : asset.OneEachMonthEnd org start life)
    (hi : i < life) {current : Asset} (hcurrent : current.Recognizes start life i)
    (hadvanced : asset.advanced org (monthEndAfter start) i = current) :
    0 < current.depreciation 1 := by
  by_contra hnone
  have hnone' : current.depreciation 1 ≤ 0 := not_lt.mp hnone
  have hdue : periodsDueForRun current (monthEndAfter start i) = 1 := by
    rw [← hadvanced, hone i, if_pos hi]
  have hnext : asset.advanced org (monthEndAfter start) (i + 1) = current := by
    rw [Asset.advanced, hadvanced]
    exact Asset.advance_of_no_charge hdue (Or.inr hnone')
  have hdueNext := hone (i + 1)
  rw [hnext] at hdueNext
  -- the month that was not recognized is still due
  have hlife : i + 1 < life := by
    by_contra hend
    have hdue := hcurrent.le_due hi (i + 1)
    rw [hdueNext, if_neg hend] at hdue
    omega
  rw [if_pos hlife] at hdueNext
  have hlast : asset.advanced org (monthEndAfter start) (i + 2) = current := by
    rw [Asset.advanced, hnext]
    exact Asset.advance_of_no_charge hdueNext (Or.inr hnone')
  have hdueLast := hcurrent.le_due hi (i + 2)
  have hatMost : periodsDueForRun current (monthEndAfter start (i + 2)) ≤ 1 := by
    rw [← hlast, hone (i + 2)]
    split_ifs <;> omega
  omega

/-- **One month at each month end**: each month of the life has the day of the start, and a
charge. -/
theorem Asset.oneEach_iff (hasset : asset.Recognizes start life 0)
    (horganization : asset.organizationId = org) (hstatus : asset.status = .inUse) :
    asset.OneEachMonthEnd org start life ↔
      (∀ i < life, HasDay start i) ∧ ∀ i < life, 0 < (asset.afterMonths i).depreciation 1 := by
  constructor
  · intro hone
    have hmonths : ∀ i ≤ life, (∀ j < i, HasDay start j) ∧
        ∀ j < i, 0 < (asset.afterMonths j).depreciation 1 := by
      intro i
      induction i with
      | zero => exact fun _ => ⟨fun j hj => absurd hj j.not_lt_zero,
          fun j hj => absurd hj j.not_lt_zero⟩
      | succ i ih =>
        intro hi
        obtain ⟨hdays, hcharges⟩ := ih (by omega)
        have hadvanced := Asset.advanced_eq_afterMonths hasset horganization hstatus
          (i := i) (by omega) hdays hcharges
        have hrecognizes := Asset.recognizes_afterMonths hasset (i := i) (by omega)
        have hday : HasDay start i := by
          by_contra hmissing
          have hdue := hone i
          rw [hadvanced, hrecognizes.due_of_not_hasDay (by omega) hmissing,
            if_pos (by omega)] at hdue
          omega
        have hcharge := Asset.charge_pos_of_oneEach hone (by omega) hrecognizes hadvanced
        constructor
        · intro j hj
          rcases Nat.lt_succ_iff_lt_or_eq.mp hj with hlt | rfl
          · exact hdays j hlt
          · exact hday
        · intro j hj
          rcases Nat.lt_succ_iff_lt_or_eq.mp hj with hlt | rfl
          · exact hcharges j hlt
          · exact hcharge
    exact hmonths life le_rfl
  · rintro ⟨hdays, hcharges⟩ i
    rcases Nat.lt_or_ge i life with hi | hi
    · have hadvanced := Asset.advanced_eq_afterMonths hasset horganization hstatus
        (i := i) hi.le (fun j hj => hdays j (hj.trans hi)) fun j hj => hcharges j (hj.trans hi)
      rw [hadvanced, (Asset.recognizes_afterMonths hasset hi.le).due_of_hasDay hi (hdays i hi),
        if_pos hi]
      omega
    · have hlife := Asset.advanced_eq_afterMonths hasset horganization hstatus
        (i := life) le_rfl hdays hcharges
      rw [Asset.advanced_of_life_le hlife hasset hi,
        (Asset.recognizes_afterMonths hasset le_rfl).due_of_life_le le_rfl, if_neg (by omega)]

/-! ### Months with a charge -/

/-- The amount of a month before it is rounded to cents. -/
def Asset.monthAmount (asset : Asset) : ℚ :=
  match asset.depreciationMethod with
  | .straightLine | .unitsOfProduction => decimal (asset.depreciable / asset.usefulLifeMonths)
  | .decliningBalance =>
    min (decimal (asset.netBookValue * monthlyRate asset.usefulLifeMonths 1))
      (asset.netBookValue - asset.residualValue)
  | .doubleDeclining =>
    min (decimal (asset.netBookValue * monthlyRate asset.usefulLifeMonths 2))
      (asset.netBookValue - asset.residualValue)
  | .sumOfYears =>
    sumOfYearsMonth asset.depreciable asset.usefulLifeMonths asset.remainingLifeMonths

/-- **A month of an asset has a charge**: the asset is worth more than its residual value, and the
amount of the month is half a cent at least, or the month is the last of a declining method. -/
def Asset.HasCharge (asset : Asset) : Prop :=
  asset.residualValue < asset.netBookValue ∧ (1 / 200 ≤ asset.monthAmount ∨
    asset.remainingLifeMonths ≤ 1 ∧ asset.depreciationMethod.isDeclining)

instance (asset : Asset) : Decidable asset.HasCharge :=
  inferInstanceAs (Decidable (_ ∧ (_ ∨ _ ∧ _)))

theorem Asset.methodAmount_one (huseful : 0 < asset.usefulLifeMonths)
    (hremaining : 0 < asset.remainingLifeMonths) (hbook :
      asset.residualValue < asset.netBookValue) :
    asset.methodAmount 1 = halfUp 2 asset.monthAmount := by
  have hlife : ¬ (asset.usefulLifeMonths ≤ 0 ∨ asset.remainingLifeMonths ≤ 0) := by omega
  have hmax : ¬ (asset.netBookValue - asset.residualValue ≤ 0) := not_le.mpr (sub_pos.mpr hbook)
  have hstraight : calculateStraightLine asset.costBasis asset.residualValue
      asset.usefulLifeMonths 1 =
        halfUp 2 (decimal (asset.depreciable / asset.usefulLifeMonths)) := by
    rw [calculateStraightLine, if_neg (not_le.mpr huseful), Int.cast_one]
    simp only [mul_one, decimal_decimal]
    rfl
  have hdeclining (multiplier : ℚ) : calculateDecliningBalance asset.netBookValue
      asset.residualValue asset.usefulLifeMonths asset.remainingLifeMonths multiplier 1 =
        halfUp 2 (min (decimal (asset.netBookValue * monthlyRate asset.usefulLifeMonths multiplier))
          (asset.netBookValue - asset.residualValue)) := by
    rw [calculateDecliningBalance, if_neg hlife, Int.cast_one]
    simp only [mul_one, decimal_decimal, if_neg hmax]
  rw [Asset.methodAmount, Asset.monthAmount]
  cases asset.depreciationMethod with
  | straightLine => exact hstraight
  | unitsOfProduction => exact hstraight
  | decliningBalance => exact hdeclining 1
  | doubleDeclining => exact hdeclining 2
  | sumOfYears =>
    change calculateSumOfYears _ _ _ _ 1 = _
    rw [calculateSumOfYears_eq huseful hremaining, Int.cast_one, mul_one, decimal_sumOfYearsMonth]
    rfl

/-- **The charge of a month** is something exactly when the asset has one. -/
theorem Asset.charge_pos_iff (huseful : 0 < asset.usefulLifeMonths)
    (hremaining : 0 < asset.remainingLifeMonths) :
    0 < asset.depreciation 1 ↔ asset.HasCharge := by
  rw [Asset.HasCharge]
  rcases le_or_gt asset.netBookValue asset.residualValue with hbook | hbook
  · rw [Asset.depreciation_of_le hbook]
    exact iff_of_false (lt_irrefl 0) fun h => not_lt.mpr hbook h.1
  · have hmax : 0 < asset.netBookValue - asset.residualValue := sub_pos.mpr hbook
    rw [and_iff_right hbook]
    by_cases hlast : asset.remainingLifeMonths ≤ 1 ∧ asset.depreciationMethod.isDeclining
    · rw [Asset.depreciation_of_last hlast.2 hlast.1, max_eq_right hmax.le]
      exact iff_of_true hmax (Or.inr hlast)
    · have hnotLast : ¬ (max 0 (asset.remainingLifeMonths - 1) = 0 ∧
          asset.depreciationMethod.isDeclining) := fun h => hlast ⟨by omega, h.2⟩
      have hcents := halfUp_le_iff (n := 2) (q := asset.monthAmount) (atScale_zero 2) le_rfl
      rw [or_iff_left hlast, Asset.depreciation]
      simp only [if_neg hnotLast, if_neg (not_le.mpr hmax)]
      rw [lt_min_iff, and_iff_left hmax, Asset.methodAmount_one huseful hremaining hbook, ← not_le,
        hcents, not_lt]
      norm_num

theorem Asset.Recognizes.charge_pos_iff {recognized : ℕ}
    (h : asset.Recognizes start life recognized) (hlife : recognized < life) :
    0 < asset.depreciation 1 ↔ asset.HasCharge := by
  have huseful := h.useful
  have hremaining := h.remaining
  exact Asset.charge_pos_iff (by omega) (by omega)

/-- **One month at each month end**, said of the asset as each of the runs finds it. -/
theorem Asset.oneEach_iff_hasCharge (hasset : asset.Recognizes start life 0)
    (horganization : asset.organizationId = org) (hstatus : asset.status = .inUse) :
    asset.OneEachMonthEnd org start life ↔ ∀ i < life, HasDay start i ∧
      (asset.advanced org (monthEndAfter start) i).HasCharge := by
  rw [Asset.oneEach_iff hasset horganization hstatus]
  constructor
  · rintro ⟨hdays, hcharges⟩ i hi
    rw [Asset.advanced_eq_afterMonths hasset horganization hstatus hi.le
      (fun j hj => hdays j (hj.trans hi)) fun j hj => hcharges j (hj.trans hi)]
    exact ⟨hdays i hi,
      ((Asset.recognizes_afterMonths hasset hi.le).charge_pos_iff hi).mp (hcharges i hi)⟩
  · intro h
    refine ⟨fun i hi => (h i hi).1, fun i => ?_⟩
    induction i using Nat.strong_induction_on with
    | _ i ih =>
      intro hi
      have hcharge := (h i hi).2
      rw [Asset.advanced_eq_afterMonths hasset horganization hstatus hi.le
        (fun j hj => (h j (hj.trans hi)).1) fun j hj => ih j hj (hj.trans hi)] at hcharge
      exact ((Asset.recognizes_afterMonths hasset hi.le).charge_pos_iff hi).mpr hcharge

end Asset

/-! ### The months that are due -/

/-- As of each month end from the start on, one month of an asset is due for each month of its life,
and none later. -/
def OneEachMonthEnd (org : UUID) (calls : ℕ → MonthlyCall) (s : FixedAssetStore)
    (assetId : UUID) (start : Date) (life : ℕ) : Prop :=
  ∀ i, ∃ asset, (afterRuns org calls s i).assets.get? assetId = some asset ∧
    periodsDueForRun asset (monthEndAfter start i) = if i < life then 1 else 0

/-- The asset of `newAsset` with the start of its depreciation. -/
def startedAsset (start : Date) (life : ℕ) : Asset :=
  { (newAsset .straightLine 120 life).row with depreciationStartDate := some start }

def startedStore (start : Date) (life : ℕ) : FixedAssetStore where
  categories := sampleCategories
  assets := Table.empty.insert (startedAsset start life)
  runs := Table.empty
  schedules := Table.empty

def monthEndCall (start : Date) (i : ℕ) : MonthlyCall where
  fiscalPeriodId := i
  fiscalPeriod := some ⟨1, monthEndAfter start i⟩
  today := monthEndAfter start i
  createdByUserId := 1
  postedByUserId := 2
  ledger := .posted i i

theorem forMonthEnd_monthEndCall (start : Date) (i : ℕ) :
    (monthEndCall start i).ForMonthEnd 1 (monthEndAfter start i) :=
  ⟨⟨_, rfl, rfl, rfl⟩, le_rfl, (by decide : (1 : ℕ) ≠ 2), ⟨i, i, rfl⟩⟩

theorem categoriesExist_startedStore (start : Date) (life : ℕ) :
    (startedStore start life).CategoriesExist := by
  intro k asset hget
  rw [startedStore, Table.get?_insert, Table.get?_empty] at hget
  split_ifs at hget
  obtain rfl := Option.some.inj hget
  rfl

end DotmacErp.Depreciation
