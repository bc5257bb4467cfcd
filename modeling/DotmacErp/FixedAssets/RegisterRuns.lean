import DotmacErp.FixedAssets.Register
import DotmacErp.Foundation.Selections
import DotmacErp.Foundation.System

/-!
# What the register keeps

Assets are acquired, put to use, depreciated, revalued and disposed of in any order, and their
status is changed; the edits that `update_asset` makes of an asset before its use are not among the
calls. In every state that is reached so the cost an asset is carried at is its net book value and
its accumulated depreciation together, the accumulated depreciation is not negative, and the
category of the asset is there (`AssetRegister.IsConsistent`).

A depreciation run is calculated in one call and posted in another, and the assets may be revalued
in between. A schedule closes with what it opened with, and it is posted only if the asset is still
as it was.
-/

namespace DotmacErp.Depreciation

open Calendar Relational Session Table Rounding

/-! ### Calls -/

inductive RegisterCall
  | createAsset (org : UUID) (input : AssetInput) (today : Date)
  | activateAsset (org assetId : UUID) (depreciationStartDate : Date)
  | updateStatus (org assetId : UUID) (newStatus : AssetStatus) (inServiceDate : Date)
  | createDepreciationRun (org periodId userId : UUID)
  | calculateRun (org runId : UUID) (fiscalPeriod : Option RunPeriod) (today : Date)
  | postRun (org runId userId : UUID) (ledger : LedgerAnswer)
  | createRevaluation (org : UUID) (input : RevaluationInput) (userId : UUID)
  | approveRevaluation (org revaluationId userId : UUID)
  | createDisposal (org : UUID) (input : DisposalInput) (userId : UUID)
  | approveDisposal (org disposalId userId : UUID)

def RegisterCall.run : RegisterCall → RegisterSession PUnit
  | .createAsset org input today =>
    discard (Depreciation.createAsset org input today)
  | .activateAsset org assetId depreciationStartDate =>
    Depreciation.activateAsset org assetId depreciationStartDate
  | .updateStatus org assetId newStatus inServiceDate =>
    Depreciation.updateStatus org assetId newStatus inServiceDate
  | .createDepreciationRun org periodId userId =>
    depreciating (discard (Depreciation.createDepreciationRun org periodId userId))
  | .calculateRun org runId fiscalPeriod today =>
    depreciating (discard (Depreciation.calculateRun org runId fiscalPeriod today))
  | .postRun org runId userId ledger =>
    depreciating (Depreciation.postRun org runId userId ledger)
  | .createRevaluation org input userId =>
    discard (Depreciation.createRevaluation org input userId)
  | .approveRevaluation org revaluationId userId =>
    Depreciation.approveRevaluation org revaluationId userId
  | .createDisposal org input userId =>
    discard (Depreciation.createDisposal org input userId)
  | .approveDisposal org disposalId userId =>
    Depreciation.approveDisposal org disposalId userId

/-- The state a call leaves: a raise rolls everything back, unless it came after a commit. -/
def outcome {α : Type} (x : RegisterSession α) (s : AssetRegister) : AssetRegister :=
  match x s with
  | .ok _ s' => s'
  | .error (.committed _ _) s' => s'
  | .error _ _ => s

def AssetRegister.CategoriesMatch (s : AssetRegister) : Prop :=
  ∀ k, (s.categories.get? k).isSome ↔ (s.policies.get? k).isSome

def registerSystem : System AssetRegister RegisterCall where
  init s := s.CategoriesMatch ∧ s.assets = Table.empty ∧ s.schedules = Table.empty ∧
    s.revaluations = Table.empty
  step s call s' := s' = outcome call.run s

theorem outcome_induction {α : Type} {x : RegisterSession α} {s : AssetRegister}
    {P : AssetRegister → Prop} (hrollback : P s)
    (hends : ∀ s', Ends (fun _ => True) x s s' → P s') : P (outcome x s) := by
  rw [outcome]
  split
  next a s' hx => exact hends s' (.inl ⟨a, hx⟩)
  next statusCode detail s' hx => exact hends s' (.inr ⟨_, trivial, hx⟩)
  next => exact hrollback

/-! ### What is kept -/

def Asset.carriedCost (asset : Asset) : ℚ := asset.revaluedAmount.getD asset.acquisitionCost

structure Asset.IsConsistent (asset : Asset) : Prop where
  carried : asset.carriedCost = asset.netBookValue + asset.accumulatedDepreciation
  accumulated_nonneg : 0 ≤ asset.accumulatedDepreciation
  cost_column : AtScale 6 asset.acquisitionCost

structure DepreciationSchedule.IsConsistent (schedule : DepreciationSchedule) : Prop where
  closes : schedule.netBookValueClosing + schedule.accumulatedDepreciationClosing =
    schedule.netBookValueOpening + schedule.accumulatedDepreciationOpening
  rises : schedule.accumulatedDepreciationOpening ≤ schedule.accumulatedDepreciationClosing
  accumulated_column : AtScale 6 schedule.accumulatedDepreciationClosing
  book_column : AtScale 6 schedule.netBookValueClosing

structure AssetRevaluation.IsConsistent (revaluation : AssetRevaluation) : Prop where
  eliminates : revaluation.accumulatedDepreciationAfter = 0
  carries : revaluation.carryingAmountAfter = revaluation.fairValue
  fair_column : AtScale 6 revaluation.fairValue

/-- The assets and schedules of the depreciation service are consistent, and its categories are
some. -/
structure FixedAssetStore.IsConsistent (s : FixedAssetStore) (categories : Table AssetCategory) :
    Prop where
  assets : s.assets.All Asset.IsConsistent
  schedules : s.schedules.All DepreciationSchedule.IsConsistent
  categorized : s.assets.All fun asset => (categories.get? asset.categoryId).isSome
  categories_eq : s.categories = categories

structure AssetRegister.IsConsistent (s : AssetRegister) : Prop where
  store : s.toFixedAssetStore.IsConsistent s.categories
  revaluations : s.revaluations.All AssetRevaluation.IsConsistent
  matching : s.CategoriesMatch

theorem Asset.IsConsistent.carriedCost_column {asset : Asset} (h : asset.IsConsistent) :
    AtScale 6 asset.carriedCost := by
  rw [h.carried]
  exact asset.book_column.add asset.accumulated_column

/-! ### Depreciation -/

section Depreciation

variable {s s' : FixedAssetStore} {org runId userId : UUID}
  {categories : Table AssetCategory}

theorem isConsistent_scheduleOf {asset : Stored Asset}
    {periods : ℤ} {calculation : DepreciationCalculation}
    (h : calculateAssetDepreciation categories asset periods = .ok calculation)
    (hpositive : 0 < calculation.depreciationAmount) :
    (scheduleOf runId asset calculation).IsConsistent := by
  rw [calculateAssetDepreciation] at h
  cases hget : categories.get? asset.row.categoryId with
  | none =>
    rw [hget] at h
    cases h
  | some category =>
    rw [hget] at h
    obtain rfl := Except.ok.inj h
    have hcharge := asset.row.atScale_depreciation periods
    have haccumulated := column_of_atScale asset.row.accumulated_column
    have hbook := column_of_atScale asset.row.book_column
    have hclosing := column_of_atScale (asset.row.accumulated_column.add hcharge)
    have hclosing' := column_of_atScale (asset.row.book_column.sub hcharge)
    constructor
    · simp only [scheduleOf, haccumulated, hbook, hclosing, hclosing']
      ring
    · simp only [scheduleOf, haccumulated, hclosing]
      linarith
    · exact atScale_halfUp 6 _
    · exact atScale_halfUp 6 _

theorem isConsistent_schedulesFor {asOfDate : Date}
    {assets : List (Stored Asset)} {schedules : List DepreciationSchedule}
    (h : schedulesFor categories runId asOfDate assets = .ok schedules) :
    ∀ schedule ∈ schedules, schedule.IsConsistent := by
  induction assets generalizing schedules with
  | nil =>
    obtain rfl := Except.ok.inj h
    simp
  | cons asset assets ih =>
    rw [schedulesFor] at h
    split_ifs at h with hstart
    · exact ih h
    · dsimp only at h
      split_ifs at h with hdue
      · exact ih h
      · cases hcalculation : calculateAssetDepreciation categories asset
            (periodsDueForRun asset.row asOfDate) with
        | error e =>
          rw [hcalculation] at h
          cases h
        | ok calculation =>
          cases hrest : schedulesFor categories runId asOfDate assets with
          | error e =>
            rw [hcalculation, hrest] at h
            cases h
          | ok rest =>
            rw [hcalculation, hrest] at h
            obtain rfl := Except.ok.inj h
            split_ifs with hpositive
            · rw [List.forall_mem_cons]
              exact ⟨isConsistent_scheduleOf hcalculation hpositive, ih hrest⟩
            · exact ih hrest

theorem FixedAssetStore.IsConsistent.withRuns (h : s.IsConsistent categories) (runs :
    Table DepreciationRun) :
    ({ s with runs := runs } : FixedAssetStore).IsConsistent categories :=
  ⟨h.assets, h.schedules, h.categorized, h.categories_eq⟩

theorem FixedAssetStore.IsConsistent.withSchedules (h : s.IsConsistent categories)
    {schedules : Table DepreciationSchedule}
    (hschedules : schedules.All DepreciationSchedule.IsConsistent) :
    ({ s with schedules := schedules } : FixedAssetStore).IsConsistent categories :=
  ⟨h.assets, hschedules, h.categorized, h.categories_eq⟩

theorem isConsistent_remove {t : Table DepreciationSchedule}
    (h : t.All DepreciationSchedule.IsConsistent) (p : DepreciationSchedule → Bool) :
    (t.remove p).All DepreciationSchedule.IsConsistent :=
  fun k schedule hget => h k schedule (get?_remove.mp hget).1

theorem isConsistent_createDepreciationRun {periodId : UUID} (h : s.IsConsistent categories)
    (hends : Ends (fun _ => True) (createDepreciationRun org periodId userId)
      s s') : s'.IsConsistent categories := by
  rw [createDepreciationRun] at hends
  obtain rfl := hends.get_bind.set_bind.pure
  exact h.withRuns _

theorem isConsistent_calculateSchedules {fiscalPeriod : Option RunPeriod} {today : Date}
    (h : s.IsConsistent categories) (hends : Ends (fun _ => True)
      (calculateSchedules org runId fiscalPeriod today) s s') : s'.IsConsistent categories := by
  rw [calculateSchedules] at hends
  rcases hends.orRaise_bind with rfl | ⟨period, -, hends⟩
  · exact h
  · have hends := hends.get_bind
    cases hschedules : schedulesFor s.categories runId (min period.endDate today)
        (s.assets.select fun asset => decide (asset.Depreciable org)) with
    | error e =>
      simp only [hschedules] at hends
      obtain rfl := hends.set_bind.throw
      exact h.withSchedules (isConsistent_remove h.schedules _)
    | ok schedules =>
      simp only [hschedules] at hends
      obtain rfl := hends.set_bind.pure
      refine ⟨h.assets, fun k schedule hget => ?_, h.categorized, h.categories_eq⟩
      rcases get?_insertAll_cases hget with hold | ⟨hnew, -⟩
      · exact isConsistent_remove h.schedules _ k schedule hold
      · exact isConsistent_schedulesFor hschedules schedule hnew

theorem isConsistent_calculateRun {fiscalPeriod : Option RunPeriod} {today : Date}
    (h : s.IsConsistent categories) (hends : Ends (fun _ => True)
      (calculateRun org runId fiscalPeriod today) s s') : s'.IsConsistent categories := by
  rw [calculateRun] at hends
  rcases hends.get_bind.orRaise_bind with rfl | ⟨run, -, hends⟩
  · exact h
  rcases hends.refuse_bind with rfl | ⟨-, hends⟩
  · exact h
  rcases (Ends.modify_bind hends).catching with ⟨a, hok⟩ | ⟨e, s₁, hraise, hends⟩
  · exact isConsistent_calculateSchedules (h.withRuns _) (.inl ⟨a, hok⟩)
  · obtain rfl := (Ends.modify_bind hends).throw
    exact (isConsistent_calculateSchedules (h.withRuns _) (.inr ⟨e, trivial, hraise⟩)).withRuns _

variable {schedule : DepreciationSchedule}

theorem ends_checkSchedule
    (hends : Ends (fun _ => True) (checkSchedule org schedule) s s') : s' = s := by
  rw [checkSchedule] at hends
  rcases hends.get_bind.orRaise_bind with rfl | ⟨asset, -, hends⟩
  · rfl
  rcases hends.refuse_bind with rfl | ⟨-, hends⟩
  · rfl
  rcases hends with ⟨u, hok⟩ | ⟨e, -, herror⟩
  · exact (refuse_eq_ok.mp hok).2
  · exact (refuse_eq_error.mp herror).2.2

theorem ends_checkSchedules {schedules : List (Stored DepreciationSchedule)}
    (hends : Ends (fun _ => True) (checkSchedules org schedules) s s') : s' = s := by
  induction schedules generalizing s with
  | nil => exact hends.pure
  | cons schedule schedules ih =>
    rw [checkSchedules] at hends
    rcases hends.bind with ⟨e, -, herror⟩ | ⟨u, s₁, hok, hends⟩
    · exact ends_checkSchedule (.inr ⟨e, trivial, herror⟩)
    · rw [ih hends]
      exact ends_checkSchedule (.inl ⟨u, hok⟩)

theorem fresh_of_checkSchedules {schedules : List (Stored DepreciationSchedule)}
    (h : checkSchedules org schedules s = .ok ⟨⟩ s') :
    ∀ schedule ∈ schedules, ∃ asset, s.assets.get? schedule.row.assetId = some asset ∧
      ¬ schedule.row.IsStale asset := by
  induction schedules generalizing s' with
  | nil => simp
  | cons schedule schedules ih =>
    rw [checkSchedules, bind_eq_ok] at h
    obtain ⟨u, s₁, hcheck, hrest⟩ := h
    obtain rfl := ends_checkSchedule (.inl ⟨u, hcheck⟩)
    rw [List.forall_mem_cons]
    refine ⟨?_, ih hrest⟩
    rw [checkSchedule, get_bind, orRaise_bind] at hcheck
    obtain ⟨asset, hget, hcheck⟩ := hcheck
    rw [refuse_bind, refuse_eq_ok] at hcheck
    exact ⟨asset, (Option.filter_eq_some_iff.mp hget).1, hcheck.2.1⟩

structure DepreciationSchedule.FitsAsset (schedule : DepreciationSchedule) (asset : Asset) :
    Prop where
  carried : asset.carriedCost =
    schedule.netBookValueClosing + schedule.accumulatedDepreciationClosing
  accumulated_nonneg : 0 ≤ schedule.accumulatedDepreciationClosing

theorem DepreciationSchedule.IsConsistent.fits {asset : Asset}
    (h : schedule.IsConsistent) (hasset : asset.IsConsistent) (hfresh : ¬ schedule.IsStale asset) :
    schedule.FitsAsset asset := by
  rw [DepreciationSchedule.IsStale, not_or, not_or, not_not, not_not] at hfresh
  obtain ⟨haccumulated, hbook, -⟩ := hfresh
  constructor
  · rw [h.closes, haccumulated, hbook, hasset.carried]
  · exact (haccumulated ▸ hasset.accumulated_nonneg).trans h.rises

theorem Asset.IsConsistent.apply {asset : Asset} (hasset : asset.IsConsistent)
    (h : schedule.IsConsistent) (hfits : schedule.FitsAsset asset) (remainingLifeClosing : ℤ) :
    (asset.apply schedule.accumulatedDepreciationClosing schedule.netBookValueClosing
      remainingLifeClosing).IsConsistent := by
  have hbook : (asset.apply schedule.accumulatedDepreciationClosing schedule.netBookValueClosing
      remainingLifeClosing).netBookValue = schedule.netBookValueClosing :=
    column_of_atScale h.book_column
  have haccumulated : (asset.apply schedule.accumulatedDepreciationClosing
      schedule.netBookValueClosing remainingLifeClosing).accumulatedDepreciation =
      schedule.accumulatedDepreciationClosing := column_of_atScale h.accumulated_column
  constructor
  · rw [hbook, haccumulated]
    exact hfits.carried
  · rw [haccumulated]
    exact hfits.accumulated_nonneg
  · exact hasset.cost_column

theorem isConsistent_applySchedules {schedules : List (Stored DepreciationSchedule)}
    {assets : Table Asset} (hassets : assets.All Asset.IsConsistent)
    (hschedules : ∀ schedule ∈ schedules, schedule.row.IsConsistent)
    (hfits : ∀ schedule ∈ schedules, ∀ asset, assets.get? schedule.row.assetId = some asset →
      schedule.row.FitsAsset asset) :
    (applySchedules schedules assets).All Asset.IsConsistent := by
  induction schedules generalizing assets with
  | nil => exact hassets
  | cons schedule schedules ih =>
    rw [List.forall_mem_cons] at hschedules hfits
    -- the rest of the schedules, on the assets after the first
    refine @ih (assets.modify schedule.row.assetId fun asset =>
      asset.apply schedule.row.accumulatedDepreciationClosing schedule.row.netBookValueClosing
        schedule.row.remainingLifeMonthsClosing) ?_ hschedules.2 ?_
    · refine hassets.modify fun asset hget => ?_
      exact (hassets _ _ hget).apply hschedules.1 (hfits.1 asset hget) _
    · intro later hlater asset hget
      rw [get?_modify] at hget
      split_ifs at hget with hsame
      · obtain ⟨before, hbefore, rfl⟩ := Option.map_eq_some_iff.mp hget
        -- the carried cost is as before
        have hfit := hfits.2 later hlater before (hsame ▸ hbefore)
        exact ⟨hfit.carried, hfit.accumulated_nonneg⟩
      · exact hfits.2 later hlater asset hget

theorem categoryId_applySchedules {schedules : List (Stored DepreciationSchedule)}
    {assets : Table Asset} {k : ℕ} {asset : Asset}
    (h : (applySchedules schedules assets).get? k = some asset) :
    ∃ before, assets.get? k = some before ∧ asset.categoryId = before.categoryId := by
  induction schedules generalizing assets with
  | nil => exact ⟨asset, h, rfl⟩
  | cons schedule schedules ih =>
    obtain ⟨before, hget, hcategory⟩ := @ih (assets.modify schedule.row.assetId
      fun asset => asset.apply schedule.row.accumulatedDepreciationClosing
        schedule.row.netBookValueClosing schedule.row.remainingLifeMonthsClosing) h
    rw [get?_modify] at hget
    split_ifs at hget with hsame
    · obtain ⟨first, hfirst, rfl⟩ := Option.map_eq_some_iff.mp hget
      exact ⟨first, hsame ▸ hfirst, hcategory⟩
    · exact ⟨before, hget, hcategory⟩

theorem isConsistent_postRun {ledger : LedgerAnswer} (h : s.IsConsistent categories)
    (hends : Ends (fun _ => True) (postRun org runId userId ledger) s s') :
    s'.IsConsistent categories := by
  rw [postRun] at hends
  rcases hends.get_bind.orRaise_bind with rfl | ⟨run, -, hends⟩
  · exact h
  rcases hends.refuse_bind with rfl | ⟨-, hends⟩
  · exact h
  rcases hends.refuse_bind with rfl | ⟨-, hends⟩
  · exact h
  rcases hends.refuse_bind with rfl | ⟨-, hends⟩
  · exact h
  rcases hends.bind with ⟨e, -, herror⟩ | ⟨⟨⟩, s₁, hchecks, hends⟩
  · rw [ends_checkSchedules (.inr ⟨e, trivial, herror⟩)]
    exact h
  obtain rfl := ends_checkSchedules (.inl ⟨_, hchecks⟩)
  have hends := Ends.modify_bind hends
  cases ledger with
  | posted journalEntryId postingBatchId =>
    have hstored : ∀ schedule ∈ s₁.schedules.select fun schedule =>
        decide (schedule.runId = runId), schedule.row.IsConsistent := by
      intro schedule hschedule
      exact h.schedules _ _ (mem_select.mp hschedule).1
    have hassets := isConsistent_applySchedules h.assets hstored fun schedule hschedule asset
        hget => by
      obtain ⟨asset', hget', hfresh⟩ := fresh_of_checkSchedules hchecks schedule hschedule
      obtain rfl := Option.mem_unique hget hget'
      exact (hstored schedule hschedule).fits (h.assets _ _ hget) hfresh
    obtain rfl := (Ends.modify_bind hends).modify
    refine ⟨hassets, h.schedules, fun k asset hget => ?_, h.categories_eq⟩
    obtain ⟨before, hbefore, hcategory⟩ := categoryId_applySchedules hget
    rw [hcategory]
    exact h.categorized k before hbefore
  | refused message =>
    obtain rfl := (Ends.modify_bind hends).throw
    exact h.withRuns _
  | raised message =>
    obtain rfl := (Ends.modify_bind hends).throw
    exact h.withRuns _

end Depreciation

/-! ### The register -/

section Register

variable {s s' : AssetRegister} {org assetId userId : UUID}

variable {α : Type}

theorem isConsistent_depreciating {x : DepreciationSession α} (h : s.IsConsistent)
    (hx : ∀ t, Ends (fun _ => True) x s.toFixedAssetStore t → t.IsConsistent s.categories)
    (hends : Ends (fun _ => True) (depreciating x) s s') : s'.IsConsistent := by
  obtain ⟨t, ht, rfl⟩ : ∃ t, Ends (fun _ => True) x s.toFixedAssetStore t ∧
      s' = { s with toFixedAssetStore := t } := by
    rcases hends with ⟨a, hok⟩ | ⟨e, -, herror⟩
    · obtain ⟨t, hrun, rfl⟩ := zoom_eq_ok.mp hok
      exact ⟨t, .inl ⟨a, hrun⟩, rfl⟩
    · rw [depreciating, zoom] at herror
      cases hrun : x s.toFixedAssetStore with
      | ok a t =>
        rw [hrun] at herror
        cases herror
      | error raised t =>
        rw [hrun] at herror
        cases herror
        exact ⟨t, .inr ⟨_, trivial, hrun⟩, rfl⟩
  have hstore := hx t ht
  have hcategories : t.categories = s.categories := hstore.categories_eq
  refine ⟨?_, h.revaluations, ?_⟩
  · change t.IsConsistent t.categories
    rwa [hcategories]
  · intro k
    change (t.categories.get? k).isSome ↔ _
    rw [hcategories]
    exact h.matching k

theorem AssetRegister.IsConsistent.withAssets (h : s.IsConsistent) {assets : Table Asset}
    (hassets : assets.All fun asset => asset.IsConsistent ∧
      (s.categories.get? asset.categoryId).isSome) :
    ({ s with assets := assets } : AssetRegister).IsConsistent :=
  ⟨⟨fun k asset hget => (hassets k asset hget).1, h.store.schedules,
    fun k asset hget => (hassets k asset hget).2, rfl⟩, h.revaluations, h.matching⟩

theorem AssetRegister.IsConsistent.modifyAsset (h : s.IsConsistent) (assetId : UUID)
    {f : Asset → Asset}
    (hf : ∀ asset, asset.IsConsistent →
      (f asset).IsConsistent ∧ (f asset).categoryId = asset.categoryId) :
    ({ s with assets := s.assets.modify assetId f } : AssetRegister).IsConsistent := by
  have hassets : s.assets.All fun asset => asset.IsConsistent ∧
      (s.categories.get? asset.categoryId).isSome :=
    fun k asset hget => ⟨h.store.assets k asset hget, h.store.categorized k asset hget⟩
  refine h.withAssets (hassets.modify fun asset hget => ?_)
  obtain ⟨hconsistent, hcategory⟩ := hf asset (h.store.assets _ _ hget)
  rw [hcategory]
  exact ⟨hconsistent, h.store.categorized _ _ hget⟩

theorem ends_requireAsset {f : Asset → RegisterSession α}
    (hends : Ends (fun _ => True) (requireAsset org assetId >>= f) s s') :
    s' = s ∨ ∃ asset, s.assets.get? assetId = some asset ∧ Ends (fun _ => True) (f asset) s s' := by
  rcases hends.bind with ⟨e, -, herror⟩ | ⟨asset, s₁, hok, hrest⟩
  · rw [requireAsset, get_bind_eq_error, orRaise_eq_error] at herror
    exact .inl herror.2.2
  · obtain ⟨hget, -, hsame⟩ := requireAsset_eq_ok.mp hok
    rw [hsame] at hrest
    exact .inr ⟨asset, hget, hrest⟩

theorem ends_discard_requireAsset {f : PUnit → RegisterSession α}
    (hends : Ends (fun _ => True) (discard (requireAsset org assetId) >>= f) s s') :
    s' = s ∨ Ends (fun _ => True) (f ⟨⟩) s s' := by
  rcases hends.bind with ⟨e, -, herror⟩ | ⟨⟨⟩, s₁, hok, hrest⟩
  · have hraise : requireAsset org assetId s = .error e s' := map_eq_error.mp herror
    rw [requireAsset, get_bind_eq_error, orRaise_eq_error] at hraise
    exact .inl hraise.2.2
  · obtain ⟨asset, hasset⟩ := discard_eq_ok.mp hok
    obtain ⟨-, -, hsame⟩ := requireAsset_eq_ok.mp hasset
    rw [hsame] at hrest
    exact .inr hrest

theorem walkToPrimary_eq_ok {policies : Table CategoryPolicy} {steps : ℕ} {visited : List UUID}
    {category primary : Stored CategoryPolicy}
    (hget : policies.get? category.id = some category.row)
    (h : walkToPrimary policies org steps visited category = .ok primary) :
    policies.get? primary.id = some primary.row := by
  induction steps generalizing visited category with
  | zero => cases h
  | succ steps ih =>
    rw [walkToPrimary] at h
    split at h
    · obtain rfl := Except.ok.inj h
      exact hget
    · split_ifs at h with hvisited
      split at h
      · cases h
      · next parent hparent => exact ih (Option.filter_eq_some_iff.mp hparent).1 h

theorem resolvePrimaryCategory_eq_ok {policies : Table CategoryPolicy} {categoryId : UUID}
    {primary : Stored CategoryPolicy}
    (h : resolvePrimaryCategory policies org categoryId = .ok primary) :
    policies.get? primary.id = some primary.row := by
  rw [resolvePrimaryCategory] at h
  split at h
  · cases h
  · next category hcategory =>
    cases hwalk : walkToPrimary policies org maxCategoryParentWalk []
        ⟨categoryId, category⟩ with
    | error e =>
      rw [hwalk] at h
      cases h
    | ok found =>
      rw [hwalk] at h
      change (if found.row.isActive then _ else _) = _ at h
      split_ifs at h
      · obtain rfl := Except.ok.inj h
        exact walkToPrimary_eq_ok (Option.filter_eq_some_iff.mp hcategory).1 hwalk

theorem isConsistent_toAsset (input : AssetInput) (category : Stored CategoryPolicy)
    (initialStatus : AssetStatus) :
    (input.toAsset org category initialStatus).IsConsistent :=
  ⟨(add_zero _).symm, le_rfl, atScale_halfUp 6 _⟩

theorem isConsistent_createAsset {input : AssetInput} {today : Date} (h : s.IsConsistent)
    (hends : Ends (fun _ => True) (createAsset org input today) s s') :
    s'.IsConsistent := by
  rw [createAsset] at hends
  refine hends.past_refuse h fun _ hends => ?_
  refine hends.past_refuse h fun _ hends => ?_
  refine hends.past_refuse h fun _ hends => ?_
  refine hends.past_refuse h fun _ hends => ?_
  have hends := hends.get_bind
  cases hresolve : resolvePrimaryCategory s.policies org input.categoryId with
  | error e =>
    rw [hresolve] at hends
    rcases hends.bind with ⟨e, -, herror⟩ | ⟨category, s₁, hok, -⟩
    · rw [(throw_eq_error.mp herror).2]
      exact h
    · exact (throw_eq_ok.mp hok).elim
  | ok category =>
    rw [hresolve] at hends
    rcases hends.bind with ⟨e, -, herror⟩ | ⟨category', s₁, hok, hends⟩
    · exact (pure_eq_error.mp herror).elim
    obtain ⟨rfl, rfl⟩ := pure_eq_ok.mp hok
    refine hends.past_refuse h fun _ hends => ?_
    refine hends.past_refuse h fun _ hends => ?_
    refine hends.past_refuse h fun _ hends => ?_
    obtain rfl := (Ends.set_bind hends).pure
    have hassets : s₁.assets.All fun asset => asset.IsConsistent ∧
        (s₁.categories.get? asset.categoryId).isSome :=
      fun k asset hget => ⟨h.store.assets k asset hget, h.store.categorized k asset hget⟩
    refine h.withAssets (hassets.insert ⟨isConsistent_toAsset input category' _, ?_⟩)
    exact (h.matching category'.id).mpr
      (Option.isSome_iff_exists.mpr ⟨_, resolvePrimaryCategory_eq_ok hresolve⟩)

theorem isConsistent_activateAsset {depreciationStartDate : Date} (h : s.IsConsistent)
    (hends : Ends (fun _ => True) (activateAsset org assetId depreciationStartDate)
      s s') : s'.IsConsistent := by
  rw [activateAsset] at hends
  rcases ends_requireAsset hends with rfl | ⟨asset, -, hends⟩
  · exact h
  refine hends.past_refuse h fun _ hends => ?_
  obtain rfl := Ends.modify hends
  exact h.modifyAsset assetId fun asset hasset =>
    ⟨⟨hasset.carried, hasset.accumulated_nonneg, hasset.cost_column⟩, rfl⟩

theorem isConsistent_updateStatus {newStatus : AssetStatus} {inServiceDate : Date}
    (h : s.IsConsistent) (hends : Ends (fun _ => True)
      (updateStatus org assetId newStatus inServiceDate) s s') : s'.IsConsistent := by
  rw [updateStatus] at hends
  rcases ends_discard_requireAsset hends with rfl | hends
  · exact h
  refine hends.past_refuse h fun _ hends => ?_
  obtain rfl := Ends.modify hends
  exact h.modifyAsset assetId fun asset hasset =>
    ⟨⟨hasset.carried, hasset.accumulated_nonneg, hasset.cost_column⟩, rfl⟩

theorem isConsistent_createRevaluation {input : RevaluationInput} (h : s.IsConsistent)
    (hends : Ends (fun _ => True) (createRevaluation org input userId) s s') :
    s'.IsConsistent := by
  rw [createRevaluation] at hends
  rcases ends_requireAsset hends with rfl | ⟨asset, -, hends⟩
  · exact h
  refine hends.past_refuse h fun _ hends => ?_
  rcases hends.get_bind.orRaise_bind with rfl | ⟨category, -, hends⟩
  · exact h
  refine hends.past_refuse h fun _ hends => ?_
  obtain rfl := (Ends.set_bind hends).pure
  exact ⟨⟨h.store.assets, h.store.schedules, h.store.categorized, rfl⟩,
    h.revaluations.insert ⟨rfl, rfl, atScale_halfUp 6 _⟩, h.matching⟩

theorem Asset.IsConsistent.revalued {asset : Asset} {revaluation : AssetRevaluation}
    (h : asset.IsConsistent) (hrevaluation : revaluation.IsConsistent) :
    (asset.revalued revaluation).IsConsistent := by
  have hbook : (asset.revalued revaluation).netBookValue = revaluation.fairValue := by
    rw [← column_of_atScale hrevaluation.fair_column, ← hrevaluation.carries]
    rfl
  have haccumulated : (asset.revalued revaluation).accumulatedDepreciation = 0 := by
    have hzero : column revaluation.accumulatedDepreciationAfter = 0 := by
      rw [hrevaluation.eliminates]
      exact halfUp_zero 6
    exact hzero
  constructor
  · rw [hbook, haccumulated, add_zero]
    rfl
  · rw [haccumulated]
  · exact h.cost_column

theorem isConsistent_approveRevaluation {revaluationId : UUID} (h : s.IsConsistent)
    (hends : Ends (fun _ => True) (approveRevaluation org revaluationId userId) s s') :
    s'.IsConsistent := by
  rw [approveRevaluation] at hends
  rcases hends.get_bind.orRaise_bind with rfl | ⟨revaluation, hget, hends⟩
  · exact h
  rcases ends_discard_requireAsset hends with rfl | hends
  · exact h
  refine hends.past_refuse h fun _ hends => ?_
  refine hends.past_refuse h fun _ hends => ?_
  have hconsistent := h.revaluations _ _ hget
  have hassets := h.modifyAsset revaluation.assetId
    (f := fun asset => asset.revalued revaluation)
    fun asset hasset => ⟨hasset.revalued hconsistent, rfl⟩
  rcases hends with ⟨u, hok⟩ | ⟨e, -, herror⟩
  · obtain rfl := set_eq_ok.mp hok
    refine ⟨hassets.store, h.revaluations.modify fun revaluation hget => ?_, h.matching⟩
    have hrevaluation := h.revaluations _ _ hget
    exact ⟨hrevaluation.eliminates, hrevaluation.carries, hrevaluation.fair_column⟩
  · exact (set_eq_error.mp herror).elim

theorem isConsistent_createDisposal {input : DisposalInput} (h : s.IsConsistent)
    (hends : Ends (fun _ => True) (createDisposal org input userId) s s') :
    s'.IsConsistent := by
  rw [createDisposal] at hends
  refine hends.past_refuse h fun _ hends => ?_
  refine hends.past_refuse h fun _ hends => ?_
  rcases ends_requireAsset hends with rfl | ⟨asset, -, hends⟩
  · exact h
  refine hends.past_refuse h fun _ hends => ?_
  refine hends.past_refuse h fun _ hends => ?_
  refine hends.past_refuse h fun _ hends => ?_
  obtain rfl := (Ends.set_bind hends.get_bind).pure
  exact ⟨⟨h.store.assets, h.store.schedules, h.store.categorized, rfl⟩, h.revaluations,
    h.matching⟩

theorem isConsistent_approveDisposal {disposalId : UUID} (h : s.IsConsistent)
    (hends : Ends (fun _ => True) (approveDisposal org disposalId userId) s s') :
    s'.IsConsistent := by
  rw [approveDisposal] at hends
  rcases hends.get_bind.orRaise_bind with rfl | ⟨disposal, -, hends⟩
  · exact h
  rcases ends_discard_requireAsset hends with rfl | hends
  · exact h
  refine hends.past_refuse h fun _ hends => ?_
  refine hends.past_refuse h fun _ hends => ?_
  have hassets := h.modifyAsset disposal.assetId
    (f := fun asset => { asset with status := .retired })
    fun asset hasset => ⟨⟨hasset.carried, hasset.accumulated_nonneg, hasset.cost_column⟩, rfl⟩
  rcases hends with ⟨u, hok⟩ | ⟨e, -, herror⟩
  · obtain rfl := set_eq_ok.mp hok
    exact ⟨hassets.store, h.revaluations, h.matching⟩
  · exact (set_eq_error.mp herror).elim

/-! ### Every run -/

/-- **A call keeps the register consistent.** -/
theorem isConsistent_run (h : s.IsConsistent) (call : RegisterCall)
    (hends : Ends (fun _ => True) call.run s s') : s'.IsConsistent := by
  cases call with
  | createAsset org input today => exact isConsistent_createAsset h hends.map
  | activateAsset org assetId date => exact isConsistent_activateAsset h hends
  | updateStatus org assetId status date => exact isConsistent_updateStatus h hends
  | createDepreciationRun org periodId userId =>
    exact isConsistent_depreciating h
      (fun t ht => isConsistent_createDepreciationRun h.store ht.map) hends
  | calculateRun org runId fiscalPeriod today =>
    exact isConsistent_depreciating h (fun t ht => isConsistent_calculateRun h.store ht.map) hends
  | postRun org runId userId ledger =>
    exact isConsistent_depreciating h (fun t ht => isConsistent_postRun h.store ht) hends
  | createRevaluation org input userId =>
    exact isConsistent_createRevaluation h hends.map
  | approveRevaluation org revaluationId userId =>
    exact isConsistent_approveRevaluation h hends
  | createDisposal org input userId => exact isConsistent_createDisposal h hends.map
  | approveDisposal org disposalId userId =>
    exact isConsistent_approveDisposal h hends

/-- **The register is consistent in every state that is reached.** -/
theorem isConsistent_of_reachable (h : registerSystem.Reachable s) : s.IsConsistent := by
  refine h.invariant ?_ ?_
  · rintro s₀ ⟨hmatching, hassets, hschedules, hrevaluations⟩
    refine ⟨⟨?_, ?_, ?_, rfl⟩, ?_, hmatching⟩
    · rw [hassets]
      exact all_empty
    · rw [hschedules]
      exact all_empty
    · rw [hassets]
      exact all_empty
    · rw [hrevaluations]
      exact all_empty
  · rintro s₁ call _ hs₁ rfl
    exact outcome_induction hs₁ fun s₂ hends => isConsistent_run hs₁ call hends

end Register

end DotmacErp.Depreciation
