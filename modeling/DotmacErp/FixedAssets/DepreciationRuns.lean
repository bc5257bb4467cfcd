import DotmacErp.FixedAssets.Depreciation
import DotmacErp.Foundation.Related
import DotmacErp.Foundation.Session
import DotmacErp.Foundation.TableSums

/-!
# Depreciation runs

A run charges the assets of an organization as of the end of a fiscal period: each for the months
that have passed since its depreciation started and were not charged yet. Calculating the run writes
a schedule for each asset with a charge; posting it applies the schedules to the assets, if none of
the assets has changed in between.

What a run that is calculated and posted does to the assets is said asset by asset
(`monthlyRun_assets`): an asset is charged for the months that are due, if it is in use, has
remaining life and value, and the charge is positive; every other asset stays as it is
(`Asset.advance`).

The ledger is a parameter: its answer comes with the posting.
-/

namespace DotmacErp.Depreciation

open Calendar Related Relational Session Rounding

/-! ### Months that are due -/

def elapsedMonths (startDate : Option Date) (asOfDate : Date) : ℤ :=
  match startDate with
  | none => 0
  | some startDate =>
    if startDate > asOfDate then 0
    else
      let months : ℤ := ((asOfDate.year : ℤ) - startDate.year) * 12 +
        ((asOfDate.month : ℤ) - startDate.month)
      max (if startDate.day ≤ asOfDate.day then months + 1 else months) 0

def periodsDueForRun (asset : Asset) (asOfDate : Date) : ℤ :=
  if asset.usefulLifeMonths ≤ 0 ∨ asset.remainingLifeMonths ≤ 0 then 0
  else
    let totalPeriodsDue := min asset.usefulLifeMonths
      (elapsedMonths asset.depreciationStartDate asOfDate)
    let alreadyRecognizedPeriods := max 0 (asset.usefulLifeMonths - asset.remainingLifeMonths)
    max 0 (totalPeriodsDue - alreadyRecognizedPeriods)

/-! ### The store -/

inductive DepreciationRunStatus
  | draft
  | calculating
  | calculated
  | posting
  | posted
  | failed
  | reversed
  deriving DecidableEq

def DepreciationRunStatus.value : DepreciationRunStatus → String
  | .draft => "DRAFT"
  | .calculating => "CALCULATING"
  | .calculated => "CALCULATED"
  | .posting => "POSTING"
  | .posted => "POSTED"
  | .failed => "FAILED"
  | .reversed => "REVERSED"

structure DepreciationRun where
  organizationId : UUID
  fiscalPeriodId : UUID
  runNumber : ℕ
  status : DepreciationRunStatus
  assetsProcessed : ℕ := 0
  totalDepreciation : ℚ := 0
  createdByUserId : UUID
  postedByUserId : Option UUID := none
  journalEntryId : Option UUID := none
  postingBatchId : Option UUID := none

structure DepreciationSchedule where
  runId : UUID
  assetId : UUID
  costBasis : ℚ
  accumulatedDepreciationOpening : ℚ
  netBookValueOpening : ℚ
  depreciationAmount : ℚ
  accumulatedDepreciationClosing : ℚ
  netBookValueClosing : ℚ
  remainingLifeMonthsOpening : ℤ
  remainingLifeMonthsClosing : ℤ
  expenseAccountId : UUID
  accumulatedDepreciationAccountId : UUID
  costCenterId : Option UUID

/-- `FiscalPeriod`, with what a run reads. -/
structure RunPeriod where
  organizationId : UUID
  endDate : Date

/-- The tables of the register and its depreciation. -/
structure FixedAssetStore where
  categories : Table AssetCategory
  assets : Table Asset
  runs : Table DepreciationRun
  schedules : Table DepreciationSchedule

/-- Every asset has its category. -/
def FixedAssetStore.CategoriesExist (s : FixedAssetStore) : Prop :=
  ∀ k asset, s.assets.get? k = some asset → (s.categories.get? asset.categoryId).isSome

abbrev DepreciationSession (α : Type) := Session DepreciationError FixedAssetStore α

def DepreciationError.text : DepreciationError → String
  | .http statusCode detail => toString statusCode ++ ": " ++ detail
  | .committed statusCode detail => toString statusCode ++ ": " ++ detail
  | .valueError message => message

/-! ### Calculating -/

def createDepreciationRun (org periodId createdByUserId : UUID) :
    DepreciationSession UUID := do
  let s ← get
  let existingRuns := s.runs.select fun run =>
    decide (run.organizationId = org ∧ run.fiscalPeriodId = periodId)
  set { s with
    runs := s.runs.insert
      { organizationId := org
        fiscalPeriodId := periodId
        runNumber := existingRuns.length + 1
        status := .draft
        createdByUserId } }
  pure s.runs.next

def Asset.Depreciable (org : UUID) (asset : Asset) : Prop :=
  asset.organizationId = org ∧ asset.status = .inUse ∧ 0 < asset.remainingLifeMonths ∧
    asset.residualValue < asset.netBookValue

instance (org : UUID) (asset : Asset) : Decidable (asset.Depreciable org) :=
  inferInstanceAs (Decidable (_ ∧ _ ∧ _ ∧ _))

def scheduleOf (runId : UUID) (asset : Stored Asset) (calculation : DepreciationCalculation) :
    DepreciationSchedule where
  runId := runId
  assetId := asset.id
  costBasis := column asset.row.costBasis
  accumulatedDepreciationOpening := column calculation.openingAccumDep
  netBookValueOpening := column calculation.openingNbv
  depreciationAmount := column calculation.depreciationAmount
  accumulatedDepreciationClosing := column calculation.closingAccumDep
  netBookValueClosing := column calculation.closingNbv
  remainingLifeMonthsOpening := calculation.remainingLifeOpening
  remainingLifeMonthsClosing := calculation.remainingLifeClosing
  expenseAccountId := calculation.expenseAccountId
  accumulatedDepreciationAccountId := calculation.accumDepAccountId
  costCenterId := calculation.costCenterId

def schedulesFor (categories : Table AssetCategory) (runId : UUID) (asOfDate : Date) :
    List (Stored Asset) → Except DepreciationError (List DepreciationSchedule)
  | [] => .ok []
  | asset :: assets =>
    if asset.row.depreciationStartDate = none then
      schedulesFor categories runId asOfDate assets
    else
      let periods := periodsDueForRun asset.row asOfDate
      if periods ≤ 0 then schedulesFor categories runId asOfDate assets
      else do
        let calculation ← calculateAssetDepreciation categories asset periods
        let schedules ← schedulesFor categories runId asOfDate assets
        pure (if 0 < calculation.depreciationAmount then
          scheduleOf runId asset calculation :: schedules else schedules)

def modifyRun (runId : UUID) (f : DepreciationRun → DepreciationRun) : DepreciationSession PUnit :=
  modify fun s => { s with runs := s.runs.modify runId f }

/-- The part of `calculate_run` that marks the run as failed when it raises. -/
def calculateSchedules (org runId : UUID) (fiscalPeriod : Option RunPeriod)
    (today : Date) : DepreciationSession ℕ := do
  let fiscalPeriod ← orRaise (fiscalPeriod.filter (·.organizationId = org))
    (.http 404 "Fiscal period not found")
  let asOfDate := min fiscalPeriod.endDate today
  let s ← get
  let assets := s.assets.select fun asset => decide (asset.Depreciable org)
  match schedulesFor s.categories runId asOfDate assets with
  | .error e => do
    set { s with
      schedules := s.schedules.remove fun schedule : DepreciationSchedule =>
        decide (schedule.runId = runId) }
    throw e
  | .ok schedules => do
    set { s with
      schedules := (s.schedules.remove fun schedule : DepreciationSchedule =>
        decide (schedule.runId = runId)).insertAll schedules
      runs := s.runs.modify runId fun run => { run with
        status := .calculated
        assetsProcessed := schedules.length
        totalDepreciation := column (schedules.map DepreciationSchedule.depreciationAmount).sum } }
    pure schedules.length

/-- `calculate_run`: the number of assets with a charge. The fiscal period of the run comes with the
call. -/
def calculateRun (org runId : UUID) (fiscalPeriod : Option RunPeriod) (today : Date) :
    DepreciationSession ℕ := do
  let s ← get
  let run ← orRaise ((s.runs.get? runId).filter (·.organizationId = org))
    (.http 404 "Depreciation run not found")
  refuse (run.status ∉ [.draft, .failed])
    (.http 400 ("Cannot calculate run with status '" ++ run.status.value ++ "'"))
  modifyRun runId fun run => { run with status := .calculating }
  catching (calculateSchedules org runId fiscalPeriod today) fun e => do
    modifyRun runId fun run => { run with status := .failed }
    throw (.committed 500 ("Depreciation calculation failed: " ++ e.text))

/-! ### Posting -/

inductive LedgerAnswer
  | posted (journalEntryId postingBatchId : UUID)
  | refused (message : String)
  | raised (message : String)

def DepreciationSchedule.IsStale (schedule : DepreciationSchedule) (asset : Asset) : Prop :=
  schedule.accumulatedDepreciationOpening ≠ asset.accumulatedDepreciation ∨
    schedule.netBookValueOpening ≠ asset.netBookValue ∨
    schedule.remainingLifeMonthsOpening ≠ asset.remainingLifeMonths

instance (schedule : DepreciationSchedule) (asset : Asset) : Decidable (schedule.IsStale asset) :=
  inferInstanceAs (Decidable (_ ∨ _ ∨ _))

def checkSchedule (org : UUID) (schedule : DepreciationSchedule) :
    DepreciationSession PUnit := do
  let s ← get
  let asset ← orRaise ((s.assets.get? schedule.assetId).filter
    (·.organizationId = org))
    (.http 400 "Cannot post depreciation run with missing asset schedule")
  refuse (asset.status = .retired)
    (.http 400 ("Asset " ++ asset.assetNumber ++
      " has been disposed/retired; recalculate the run before posting"))
  refuse (schedule.IsStale asset)
    (.http 400 ("Depreciation run is stale for asset " ++ asset.assetNumber ++
      "; recalculate the run before posting"))

def checkSchedules (org : UUID) :
    List (Stored DepreciationSchedule) → DepreciationSession PUnit
  | [] => pure ⟨⟩
  | schedule :: schedules => do
    checkSchedule org schedule.row
    checkSchedules org schedules

def applySchedules (schedules : List (Stored DepreciationSchedule)) (assets : Table Asset) :
    Table Asset :=
  assets.modifyAll (fun schedule asset =>
      asset.apply schedule.accumulatedDepreciationClosing schedule.netBookValueClosing
        schedule.remainingLifeMonthsClosing)
    (schedules.map fun schedule => (schedule.row.assetId, schedule.row))

def postRun (org runId postedByUserId : UUID) (ledger : LedgerAnswer) :
    DepreciationSession PUnit := do
  let s ← get
  let run ← orRaise ((s.runs.get? runId).filter (·.organizationId = org))
    (.http 404 "Depreciation run not found")
  refuse (run.status ≠ .calculated)
    (.http 400 ("Cannot post run with status '" ++ run.status.value ++ "'"))
  refuse (run.createdByUserId = postedByUserId)
    (.http 400 "Segregation of duties violation: creator cannot post")
  let schedules := s.schedules.select fun schedule => decide (schedule.runId = runId)
  refuse (schedules = []) (.http 400 "Cannot post depreciation run with no schedules")
  checkSchedules org schedules
  modifyRun runId fun run => { run with status := .posting }
  match ledger with
  | .posted journalEntryId postingBatchId => do
    modify fun s => { s with assets := applySchedules schedules s.assets }
    modifyRun runId fun run => { run with
      status := .posted
      postedByUserId := some postedByUserId
      journalEntryId := some journalEntryId
      postingBatchId := some postingBatchId }
  | .refused message => do
    modifyRun runId fun run => { run with status := .failed }
    throw (.committed 400 message)
  | .raised message => do
    modifyRun runId fun run => { run with status := .failed }
    throw (.committed 500 ("Posting failed: " ++ message))

structure MonthlyCall where
  fiscalPeriodId : UUID
  fiscalPeriod : Option RunPeriod
  today : Date
  createdByUserId : UUID
  postedByUserId : UUID
  ledger : LedgerAnswer

/-- A run is created, calculated, and posted if there is something to post, as
`create_automated_monthly_run` does for the period that is due. -/
def monthlyRun (org : UUID) (call : MonthlyCall) : DepreciationSession PUnit := do
  let runId ← createDepreciationRun org call.fiscalPeriodId call.createdByUserId
  let assetsProcessed ← calculateRun org runId call.fiscalPeriod call.today
  runIf (0 < assetsProcessed) (postRun org runId call.postedByUserId call.ledger)

/-- The state a call leaves: a raise rolls everything back, unless it came after a commit. -/
def settle {α : Type} (x : DepreciationSession α) (s : FixedAssetStore) : FixedAssetStore :=
  match x s with
  | .ok _ s' => s'
  | .error (.committed _ _) s' => s'
  | .error _ _ => s

/-! ### The schedules of a run -/

def Asset.IsCharged (asset : Asset) (asOfDate : Date) : Prop :=
  0 < periodsDueForRun asset asOfDate ∧
    0 < asset.depreciation (periodsDueForRun asset asOfDate)

instance (asset : Asset) (asOfDate : Date) : Decidable (asset.IsCharged asOfDate) :=
  inferInstanceAs (Decidable (_ ∧ _))

def Asset.advance (org : UUID) (asOfDate : Date) (asset : Asset) : Asset :=
  if asset.Depreciable org ∧ asset.IsCharged asOfDate then
    asset.charged (periodsDueForRun asset asOfDate)
  else asset

theorem periodsDueForRun_of_no_start {asset : Asset} (h : asset.depreciationStartDate = none)
    (asOfDate : Date) : periodsDueForRun asset asOfDate = 0 := by
  rw [periodsDueForRun, h]
  simp only [elapsedMonths]
  split_ifs <;> omega

structure Holds (runId : UUID) (asOfDate : Date) (asset : Stored Asset)
    (schedule : DepreciationSchedule) : Prop where
  forRun : schedule.runId = runId
  forAsset : schedule.assetId = asset.id
  fresh : ¬ schedule.IsStale asset.row
  closes : asset.row.apply schedule.accumulatedDepreciationClosing schedule.netBookValueClosing
    schedule.remainingLifeMonthsClosing = asset.row.charged (periodsDueForRun asset.row asOfDate)

theorem column_of_atScale {q : ℚ} (h : AtScale 6 q) : column q = q := halfUp_of_atScale h

theorem Asset.apply_column (asset : Asset) (closingAccumDep closingNbv : ℚ)
    (remainingLifeClosing : ℤ) :
    asset.apply (column closingAccumDep) (column closingNbv) remainingLifeClosing =
      asset.apply closingAccumDep closingNbv remainingLifeClosing := by
  simp only [Asset.apply, column, halfUp_halfUp]
  rfl

theorem holds_scheduleOf {categories : Table AssetCategory} {asset : Stored Asset}
    {calculation : DepreciationCalculation} {asOfDate : Date}
    (h : calculateAssetDepreciation categories asset (periodsDueForRun asset.row asOfDate) =
      .ok calculation) (runId : UUID) :
    Holds runId asOfDate asset (scheduleOf runId asset calculation) ∧
      calculation.depreciationAmount =
        asset.row.depreciation (periodsDueForRun asset.row asOfDate) := by
  rw [calculateAssetDepreciation] at h
  cases hget : categories.get? asset.row.categoryId with
  | none =>
    rw [hget] at h
    cases h
  | some category =>
    rw [hget] at h
    obtain rfl := Except.ok.inj h
    refine ⟨⟨rfl, rfl, ?_, asset.row.apply_column _ _ _⟩, rfl⟩
    rintro (hstale | hstale | hstale)
    · exact hstale (column_of_atScale asset.row.accumulated_column)
    · exact hstale (column_of_atScale asset.row.book_column)
    · exact hstale rfl

theorem schedulesFor_eq_ok {categories : Table AssetCategory} {assets : List (Stored Asset)}
    (hcategories : ∀ asset ∈ assets, (categories.get? asset.row.categoryId).isSome)
    (runId : UUID) (asOfDate : Date) :
    ∃ schedules, schedulesFor categories runId asOfDate assets = .ok schedules ∧
      List.Forall₂ (Holds runId asOfDate)
        (assets.filter fun asset => decide (asset.row.IsCharged asOfDate)) schedules := by
  induction assets with
  | nil => exact ⟨[], rfl, List.Forall₂.nil⟩
  | cons asset assets ih =>
    rw [List.forall_mem_cons] at hcategories
    obtain ⟨schedules, hschedules, hholds⟩ := ih hcategories.2
    have hskip (hdue : periodsDueForRun asset.row asOfDate ≤ 0) :
        (asset :: assets).filter (fun asset => decide (asset.row.IsCharged asOfDate)) =
          assets.filter fun asset => decide (asset.row.IsCharged asOfDate) := by
      rw [List.filter_cons_of_neg]
      simp only [decide_eq_true_eq]
      exact fun hcharged => absurd hcharged.1 (not_lt.mpr hdue)
    rw [schedulesFor]
    by_cases hstart : asset.row.depreciationStartDate = none
    · rw [if_pos hstart, hskip (periodsDueForRun_of_no_start hstart asOfDate).le]
      exact ⟨schedules, hschedules, hholds⟩
    · rw [if_neg hstart]
      by_cases hdue : periodsDueForRun asset.row asOfDate ≤ 0
      · rw [hskip hdue]
        simp only [if_pos hdue]
        exact ⟨schedules, hschedules, hholds⟩
      · obtain ⟨category, hcategory⟩ := Option.isSome_iff_exists.mp hcategories.1
        obtain ⟨calculation, hcalculation⟩ : ∃ calculation, calculateAssetDepreciation categories
            asset (periodsDueForRun asset.row asOfDate) = .ok calculation := by
          rw [calculateAssetDepreciation, hcategory]
          exact ⟨_, rfl⟩
        obtain ⟨hhold, hamount⟩ := holds_scheduleOf hcalculation runId
        simp only [if_neg hdue, hcalculation, hschedules, bind, Except.bind, pure, Except.pure]
        refine ⟨_, rfl, ?_⟩
        by_cases hcharge : 0 < calculation.depreciationAmount
        · have hcharged : asset.row.IsCharged asOfDate := ⟨not_le.mp hdue, hamount ▸ hcharge⟩
          rw [if_pos hcharge, List.filter_cons_of_pos]
          · exact List.Forall₂.cons hhold hholds
          · simpa only [decide_eq_true_eq] using hcharged
        · rw [if_neg hcharge, List.filter_cons_of_neg]
          · exact hholds
          · simp only [decide_eq_true_eq]
            exact fun hcharged => hcharge (hamount ▸ hcharged.2)

/-! ### A run that is calculated and posted -/

section Runs

variable {s : FixedAssetStore} {org runId : UUID} {run : DepreciationRun}
  {period : RunPeriod} {asOfDate : Date}

def chargedAssets (s : FixedAssetStore) (org : UUID) (asOfDate : Date) :
    List (Stored Asset) :=
  (s.assets.select fun asset => decide (asset.Depreciable org)).filter
    fun asset => decide (asset.row.IsCharged asOfDate)

theorem mem_chargedAssets {asset : Stored Asset} :
    asset ∈ chargedAssets s org asOfDate ↔ s.assets.get? asset.id = some asset.row ∧
      asset.row.Depreciable org ∧ asset.row.IsCharged asOfDate := by
  simp only [chargedAssets, List.mem_filter, Table.mem_select, decide_eq_true_eq, and_assoc]

structure IsCalculated (s s' : FixedAssetStore) (organizationId runId : UUID)
    (asOfDate : Date) (createdByUserId : UUID) (schedules : List DepreciationSchedule) : Prop where
  categories : s'.categories = s.categories
  assets : s'.assets = s.assets
  stored : ((s'.schedules.select fun schedule => decide (schedule.runId = runId)).map Stored.row) =
    schedules
  holds : List.Forall₂ (Holds runId asOfDate) (chargedAssets s organizationId asOfDate) schedules
  calculated : ∃ run, s'.runs.get? runId = some run ∧ run.organizationId = organizationId ∧
    run.status = .calculated ∧ run.createdByUserId = createdByUserId

theorem select_replaced (t : Table DepreciationSchedule) {runId : UUID}
    {schedules : List DepreciationSchedule} (h : ∀ schedule ∈ schedules, schedule.runId = runId) :
    (((t.remove fun schedule => decide (schedule.runId = runId)).insertAll schedules).select
      fun schedule => decide (schedule.runId = runId)).map Stored.row = schedules := by
  obtain ⟨new, hrows, hnew, -⟩ := Table.rows_insertAll_append
    (t.remove fun schedule => decide (schedule.runId = runId)) schedules
  have hold : ((t.remove fun schedule => decide (schedule.runId = runId)).rows).filter
      (fun r => decide (r.row.runId = runId)) = [] := by
    rw [List.filter_eq_nil_iff]
    intro r hr
    have hkept := (List.mem_filter.mp hr).2
    simpa using hkept
  have hall : new.filter (fun r => decide (r.row.runId = runId)) = new := by
    rw [List.filter_eq_self]
    intro r hr
    exact decide_eq_true (h r.row (hnew ▸ List.mem_map_of_mem hr))
  rw [Table.select, hrows, List.filter_append, hold, hall, List.nil_append, hnew]

theorem calculateRun_eq_ok (hcategories : s.CategoriesExist) (hrun : s.runs.get? runId = some run)
    (hrunOrg : run.organizationId = org) (hstatus : run.status = .draft)
    (hperiod : period.organizationId = org) (today : Date) :
    ∃ s' schedules,
      calculateRun org runId (some period) today s = .ok schedules.length s' ∧
      IsCalculated s s' org runId (min period.endDate today) run.createdByUserId
        schedules := by
  have hassets : ∀ asset ∈ s.assets.select fun asset => decide (asset.Depreciable org),
      (s.categories.get? asset.row.categoryId).isSome :=
    fun asset hasset => hcategories asset.id asset.row (Table.mem_select.mp hasset).1
  obtain ⟨schedules, hschedules, hholds⟩ := schedulesFor_eq_ok hassets runId
    (min period.endDate today)
  have hruns : ∀ schedule ∈ schedules, schedule.runId = runId := by
    intro schedule hschedule
    obtain ⟨asset, -, hhold⟩ := exists_of_forall₂ hholds hschedule
    exact hhold.forRun
  let s₁ : FixedAssetStore :=
    { s with runs := s.runs.modify runId fun run => { run with status := .calculating } }
  let s₂ : FixedAssetStore :=
    { s₁ with
      schedules := (s.schedules.remove fun schedule : DepreciationSchedule =>
        decide (schedule.runId = runId)).insertAll schedules
      runs := s₁.runs.modify runId fun run => { run with
        status := .calculated
        assetsProcessed := schedules.length
        totalDepreciation := column (schedules.map DepreciationSchedule.depreciationAmount).sum } }
  have hbody : calculateSchedules org runId (some period) today s₁ =
      .ok schedules.length s₂ := by
    have hschedules₁ : schedulesFor s₁.categories runId (min period.endDate today)
        (s₁.assets.select fun asset => decide (asset.Depreciable org)) =
          .ok schedules := hschedules
    rw [calculateSchedules]
    refine orRaise_bind.mpr ⟨period, ?_, get_bind.mpr ?_⟩
    · rw [Option.filter_some, if_pos (decide_eq_true hperiod)]
    · simp only [hschedules₁]
      exact bind_eq_ok.mpr ⟨⟨⟩, s₂, rfl, rfl⟩
  refine ⟨s₂, schedules, ?_, rfl, rfl, select_replaced s.schedules hruns, hholds, ?_⟩
  · rw [calculateRun]
    refine get_bind.mpr (orRaise_bind.mpr ⟨run, ?_, refuse_bind.mpr ⟨?_,
      bind_eq_ok.mpr ⟨⟨⟩, s₁, rfl, catching_eq_ok.mpr (Or.inl hbody)⟩⟩⟩)
    · rw [hrun, Option.filter_some, if_pos (decide_eq_true hrunOrg)]
    · rw [hstatus]
      simp
  · refine ⟨{ run with
      status := .calculated
      assetsProcessed := schedules.length
      totalDepreciation := column (schedules.map DepreciationSchedule.depreciationAmount).sum },
      ?_, hrunOrg, rfl, rfl⟩
    have hmodified : (s₁.runs.modify runId fun run => { run with
        status := .calculated
        assetsProcessed := schedules.length
        totalDepreciation := column
          (schedules.map DepreciationSchedule.depreciationAmount).sum }).get? runId = _ :=
      Table.get?_modify_self _ _ _
    have hcalculating : s₁.runs.get? runId = _ := Table.get?_modify_self _ _ _
    rw [hcalculating, hrun] at hmodified
    exact hmodified

theorem checkSchedules_eq_ok {schedules : List (Stored DepreciationSchedule)}
    (h : ∀ schedule ∈ schedules, ∃ asset : Stored Asset,
      s.assets.get? asset.id = some asset.row ∧ asset.row.Depreciable org ∧
      Holds runId asOfDate asset schedule.row) :
    checkSchedules org schedules s = .ok ⟨⟩ s := by
  induction schedules with
  | nil => rfl
  | cons schedule schedules ih =>
    rw [List.forall_mem_cons] at h
    obtain ⟨⟨asset, hasset, hdepreciable, hholds⟩, hrest⟩ := h
    rw [checkSchedules]
    refine bind_eq_ok.mpr ⟨⟨⟩, s, ?_, ih hrest⟩
    rw [checkSchedule]
    refine get_bind.mpr (orRaise_bind.mpr ⟨asset.row, ?_, refuse_bind.mpr ⟨?_,
      refuse_eq_ok.mpr ⟨hholds.fresh, rfl⟩⟩⟩)
    · rw [hholds.forAsset, hasset, Option.filter_some, if_pos (decide_eq_true hdepreciable.1)]
    · rw [hdepreciable.2.1]
      decide

theorem get?_applySchedules {schedules : List (Stored DepreciationSchedule)}
    (h : List.Forall₂ (Holds runId asOfDate) (chargedAssets s org asOfDate)
      (schedules.map Stored.row)) (k : ℕ) :
    (applySchedules schedules s.assets).get? k =
      (s.assets.get? k).map (Asset.advance org asOfDate) := by
  have hkeys : (schedules.map fun schedule => (schedule.row.assetId, schedule.row)).map Prod.fst =
      (chargedAssets s org asOfDate).map Stored.id := by
    rw [← map_eq_of_forall₂ h fun _ _ hholds => hholds.forAsset, List.map_map, List.map_map]
    rfl
  have hnodup : ((chargedAssets s org asOfDate).map Stored.id).Nodup :=
    s.assets.nodup_ids.sublist ((List.filter_sublist.trans List.filter_sublist).map Stored.id)
  by_cases hcharged : k ∈ (chargedAssets s org asOfDate).map Stored.id
  · obtain ⟨asset, hasset, rfl⟩ := List.mem_map.mp hcharged
    obtain ⟨row, hrow, hholds⟩ := exists_of_forall₂_left h hasset
    obtain ⟨schedule, hschedule, rfl⟩ := List.mem_map.mp hrow
    have hchange : (asset.id, schedule.row) ∈
        schedules.map fun schedule => (schedule.row.assetId, schedule.row) := by
      rw [← hholds.forAsset]
      exact List.mem_map_of_mem hschedule
    obtain ⟨hget, hadvance⟩ := mem_chargedAssets.mp hasset
    rw [applySchedules, Table.get?_modifyAll_of_mem (hkeys ▸ hnodup) hchange, hget,
      Option.map_some, Option.map_some, hholds.closes, Asset.advance, if_pos hadvance]
  · rw [applySchedules, Table.get?_modifyAll_of_notMem (hkeys ▸ hcharged)]
    cases hget : s.assets.get? k with
    | none => rfl
    | some asset =>
      have hstay : ¬ (asset.Depreciable org ∧ asset.IsCharged asOfDate) :=
        fun hadvance => hcharged (List.mem_map.mpr
          ⟨⟨k, asset⟩, mem_chargedAssets.mpr ⟨hget, hadvance⟩, rfl⟩)
      rw [Option.map_some, Asset.advance, if_neg hstay]

theorem postRun_eq_ok {s' : FixedAssetStore} {creator poster : UUID}
    {schedules : List DepreciationSchedule}
    (h : IsCalculated s s' org runId asOfDate creator schedules)
    (hsome : schedules ≠ []) (husers : creator ≠ poster) (journalEntryId postingBatchId : UUID) :
    ∃ s'', postRun org runId poster (.posted journalEntryId postingBatchId) s' =
        .ok ⟨⟩ s'' ∧ s''.categories = s.categories ∧
      ∀ k, s''.assets.get? k = (s.assets.get? k).map (Asset.advance org asOfDate) := by
  obtain ⟨run, hrun, hrunOrg, hstatus, hcreator⟩ := h.calculated
  let stored := s'.schedules.select fun schedule => decide (schedule.runId = runId)
  have hmap : stored.map Stored.row = schedules := h.stored
  have hfresh : ∀ schedule ∈ stored, ∃ asset : Stored Asset,
      s'.assets.get? asset.id = some asset.row ∧ asset.row.Depreciable org ∧
      Holds runId asOfDate asset schedule.row := by
    intro schedule hschedule
    obtain ⟨asset, hasset, hholds⟩ := exists_of_forall₂ h.holds
      (hmap ▸ List.mem_map_of_mem hschedule)
    obtain ⟨hget, hdepreciable, -⟩ := mem_chargedAssets.mp hasset
    exact ⟨asset, h.assets ▸ hget, hdepreciable, hholds⟩
  have hchecks : checkSchedules org stored s' = .ok ⟨⟩ s' :=
    checkSchedules_eq_ok hfresh
  have hnonempty : stored ≠ [] := by
    intro hempty
    rw [hempty] at hmap
    exact hsome hmap.symm
  let s₁ : FixedAssetStore :=
    { s' with runs := s'.runs.modify runId fun run => { run with status := .posting } }
  let s₂ : FixedAssetStore := { s₁ with assets := applySchedules stored s₁.assets }
  let s₃ : FixedAssetStore :=
    { s₂ with
      runs := s₂.runs.modify runId fun run => { run with
        status := .posted
        postedByUserId := some poster
        journalEntryId := some journalEntryId
        postingBatchId := some postingBatchId } }
  refine ⟨s₃, ?_, h.categories, fun k => ?_⟩
  · rw [postRun]
    refine get_bind.mpr (orRaise_bind.mpr ⟨run, ?_, refuse_bind.mpr ⟨?_,
      refuse_bind.mpr ⟨?_, ?_⟩⟩⟩)
    · rw [hrun, Option.filter_some, if_pos (decide_eq_true hrunOrg)]
    · exact not_not.mpr hstatus
    · rw [hcreator]
      exact husers
    · exact refuse_bind.mpr ⟨hnonempty, bind_eq_ok.mpr ⟨⟨⟩, s', hchecks,
        bind_eq_ok.mpr ⟨⟨⟩, s₁, rfl, bind_eq_ok.mpr ⟨⟨⟩, s₂, rfl, rfl⟩⟩⟩⟩
  · change (applySchedules stored s'.assets).get? k = _
    rw [h.assets]
    exact get?_applySchedules (hmap ▸ h.holds) k

/-- **A run of a month** advances every asset. -/
theorem monthlyRun_assets {call : MonthlyCall} (hcategories : s.CategoriesExist)
    (hcall : call.fiscalPeriod = some period) (hperiod : period.organizationId = org)
    (husers : call.createdByUserId ≠ call.postedByUserId)
    (hledger : ∃ journalEntryId postingBatchId,
      call.ledger = .posted journalEntryId postingBatchId) :
    (settle (monthlyRun org call) s).CategoriesExist ∧
      ∀ k, (settle (monthlyRun org call) s).assets.get? k =
        (s.assets.get? k).map (Asset.advance org (min period.endDate call.today)) := by
  obtain ⟨journalEntryId, postingBatchId, hledger⟩ := hledger
  -- the store with the new run
  obtain ⟨run, hnew⟩ : ∃ run : DepreciationRun, run =
      { organizationId := org
        fiscalPeriodId := call.fiscalPeriodId
        runNumber := (s.runs.select fun run => decide (run.organizationId = org ∧
          run.fiscalPeriodId = call.fiscalPeriodId)).length + 1
        status := .draft
        createdByUserId := call.createdByUserId } := ⟨_, rfl⟩
  let s₁ : FixedAssetStore := { s with runs := s.runs.insert run }
  have hcreate : createDepreciationRun org call.fiscalPeriodId call.createdByUserId s =
      .ok s.runs.next s₁ := by
    rw [createDepreciationRun]
    refine get_bind.mpr (bind_eq_ok.mpr ⟨⟨⟩, s₁, ?_, rfl⟩)
    simp only [s₁, hnew]
    rfl
  have hrun : s₁.runs.get? s.runs.next = some run := Table.get?_insert_self _ _
  have hcategories₁ : s₁.CategoriesExist := hcategories
  obtain ⟨s₂, schedules, hcalculate, hcalculated⟩ := calculateRun_eq_ok hcategories₁ hrun
    (by rw [hnew]) (by rw [hnew]) hperiod call.today
  have hcreator : run.createdByUserId = call.createdByUserId := by rw [hnew]
  rw [hcreator] at hcalculated
  have hrest : ∃ s', monthlyRun org call s = .ok ⟨⟩ s' ∧
      s'.categories = s.categories ∧ ∀ k, s'.assets.get? k =
        (s.assets.get? k).map (Asset.advance org (min period.endDate call.today)) := by
    by_cases hempty : schedules = []
    · refine ⟨s₂, ?_, hcalculated.categories, fun k => ?_⟩
      · rw [monthlyRun, hcall]
        refine bind_eq_ok.mpr ⟨_, s₁, hcreate, bind_eq_ok.mpr ⟨_, s₂, hcalculate, ?_⟩⟩
        rw [hempty, runIf, if_neg (by simp)]
        rfl
      · have hholds : List.Forall₂ (Holds s.runs.next (min period.endDate call.today))
            (chargedAssets s₁ org (min period.endDate call.today))
            (([] : List (Stored DepreciationSchedule)).map Stored.row) := by
          rw [List.map_nil, ← hempty]
          exact hcalculated.holds
        rw [hcalculated.assets]
        exact get?_applySchedules hholds k
    · obtain ⟨s₃, hpost, hposted, hassets⟩ :=
        postRun_eq_ok hcalculated hempty husers journalEntryId postingBatchId
      refine ⟨s₃, ?_, hposted, hassets⟩
      rw [monthlyRun, hcall]
      refine bind_eq_ok.mpr ⟨_, s₁, hcreate, bind_eq_ok.mpr ⟨_, s₂, hcalculate, ?_⟩⟩
      rw [runIf, if_pos (List.length_pos_iff.mpr hempty), hledger]
      exact hpost
  obtain ⟨s', hmonthly, hsame, hassets⟩ := hrest
  have hsettle : settle (monthlyRun org call) s = s' := by rw [settle, hmonthly]
  rw [hsettle]
  refine ⟨fun k asset hasset => ?_, hassets⟩
  rw [hassets, Option.map_eq_some_iff] at hasset
  obtain ⟨before, hbefore, rfl⟩ := hasset
  have hcategory : (Asset.advance org (min period.endDate call.today)
      before).categoryId = before.categoryId := by
    rw [Asset.advance]
    split_ifs <;> rfl
  rw [hsame, hcategory]
  exact hcategories k before hbefore

end Runs

end DotmacErp.Depreciation
