import DotmacErp.FixedAssets.DepreciationRuns

/-!
# The asset register

`AssetService`, `AssetRevaluationService` and `AssetDisposalService`: an asset is acquired at its
cost, put to use, revalued under the revaluation model, and disposed of.

A revaluation is recognized when it is created: an increase first reverses deficits recognized in
profit or loss by earlier revaluations and is a surplus in equity for the rest, a decrease first
reverses surpluses and is a deficit for the rest. What it does to the asset is done by its approval:
the fair value becomes the revalued amount and the net book value, and the accumulated depreciation
is eliminated.

A disposal holds the values of the asset when it was created, the net proceeds and the gain or loss;
its approval retires the asset.
-/

namespace DotmacErp.Depreciation

open Calendar Relational Session Rounding

/-- `AssetCategory`, with what the register reads. -/
structure CategoryPolicy where
  organizationId : UUID
  parentCategoryId : Option UUID := none
  depreciationMethod : DepreciationMethod
  usefulLifeMonths : ℤ
  residualValuePercent : ℚ := 0
  assetAccountId : UUID
  gainLossDisposalAccountId : UUID
  capitalizationThreshold : ℚ := 0
  revaluationModelAllowed : Bool
  isActive : Bool := true

structure AssetRevaluation where
  assetId : UUID
  revaluationDate : Date
  carryingAmountBefore : ℚ
  accumulatedDepreciationBefore : ℚ
  fairValue : ℚ
  revaluationSurplusOrDeficit : ℚ
  carryingAmountAfter : ℚ
  accumulatedDepreciationAfter : ℚ
  surplusToEquity : ℚ
  deficitToPl : ℚ
  priorDeficitReversed : ℚ
  priorSurplusReversed : ℚ
  createdByUserId : UUID
  approvedByUserId : Option UUID := none

inductive DisposalType
  | sale
  | scrapping
  | donation
  | theft
  | insuranceClaim
  | tradeIn
  | transfer
  deriving DecidableEq

structure AssetDisposal where
  assetId : UUID
  disposalDate : Date
  disposalType : DisposalType
  costAtDisposal : ℚ
  accumulatedDepreciationAtDisposal : ℚ
  netBookValueAtDisposal : ℚ
  disposalProceeds : ℚ
  costsOfDisposal : ℚ
  netProceeds : ℚ
  gainLossOnDisposal : ℚ
  insuranceProceeds : Option ℚ
  createdByUserId : UUID
  approvedByUserId : Option UUID := none

/-- The rows of the register. A category is a row of `categories` and of `policies`. -/
structure AssetRegister extends FixedAssetStore where
  policies : Table CategoryPolicy
  revaluations : Table AssetRevaluation
  disposals : Table AssetDisposal

abbrev RegisterSession (α : Type) := Session DepreciationError AssetRegister α

def AssetStatus.value : AssetStatus → String
  | .notInUse => "NOT_IN_USE"
  | .inUse => "IN_USE"
  | .inStore => "IN_STORE"
  | .faulty => "FAULTY"
  | .underRepair => "UNDER_REPAIR"
  | .fullyDepreciated => "FULLY_DEPRECIATED"
  | .retired => "RETIRED"

def preUseAssetStatuses : List AssetStatus := [.notInUse, .inStore]

def depreciating {α : Type} (x : DepreciationSession α) : RegisterSession α :=
  zoom AssetRegister.toFixedAssetStore (fun s rows => { s with toFixedAssetStore := rows }) x

def requireAsset (org assetId : UUID) : RegisterSession Asset := do
  let s ← get
  orRaise ((s.assets.get? assetId).filter (·.organizationId = org))
    (.http 404 "Asset not found")

def modifyAsset (assetId : UUID) (f : Asset → Asset) : RegisterSession PUnit :=
  modify fun s => { s with assets := s.assets.modify assetId f }

/-! ### Acquisition and use -/

def maxCategoryParentWalk : ℕ := 16

/-- The walk of `_resolve_primary_category`, with the steps it has left. -/
def walkToPrimary (policies : Table CategoryPolicy) (org : UUID) :
    ℕ → List UUID → Stored CategoryPolicy → Except DepreciationError (Stored CategoryPolicy)
  | 0, _, _ => .error (.http 400 "Asset category hierarchy too deep")
  | steps + 1, visited, category =>
    match category.row.parentCategoryId with
    | none => .ok category
    | some parentId =>
      if category.id ∈ visited then
        .error (.http 400 "Asset category hierarchy contains a cycle")
      else
        match (policies.get? parentId).filter (·.organizationId = org) with
        | none => .error (.http 404 "Asset category not found")
        | some parent =>
          walkToPrimary policies org steps (category.id :: visited) ⟨parentId, parent⟩

def resolvePrimaryCategory (policies : Table CategoryPolicy) (org categoryId : UUID) :
    Except DepreciationError (Stored CategoryPolicy) :=
  match (policies.get? categoryId).filter (·.organizationId = org) with
  | none => .error (.http 404 "Asset category not found")
  | some category => do
    let primary ← walkToPrimary policies org maxCategoryParentWalk []
      ⟨categoryId, category⟩
    if primary.row.isActive then pure primary
    else .error (.http 400 "Asset category is not active")

/-- `AssetInput`. The asset number is the one given or drawn from its sequence. -/
structure AssetInput where
  assetNumber : String
  categoryId : UUID
  acquisitionDate : Date
  acquisitionCost : ℚ
  costCenterId : Option UUID := none
  inServiceDate : Option Date := none
  depreciationMethod : Option DepreciationMethod := none
  usefulLifeMonths : Option ℤ := none
  residualValue : Option ℚ := none
  status : Option AssetStatus := none

theorem nothing_column : AtScale 6 0 := atScale_zero 6

def AssetInput.toAsset (input : AssetInput) (org : UUID)
    (category : Stored CategoryPolicy) (initialStatus : AssetStatus) : Asset :=
  let usefulLife :=
    (input.usefulLifeMonths.filter (· ≠ 0)).getD category.row.usefulLifeMonths
  let residualValue := input.residualValue.getD
    (input.acquisitionCost * (category.row.residualValuePercent / 100))
  { organizationId := org
    assetNumber := input.assetNumber
    categoryId := category.id
    costCenterId := input.costCenterId
    depreciationMethod := input.depreciationMethod.getD category.row.depreciationMethod
    acquisitionCost := column input.acquisitionCost
    residualValue := column residualValue
    accumulatedDepreciation := 0
    netBookValue := column input.acquisitionCost
    usefulLifeMonths := usefulLife
    remainingLifeMonths := if initialStatus = .fullyDepreciated then 0 else usefulLife
    depreciationStartDate :=
      if initialStatus = .inUse ∨ initialStatus = .fullyDepreciated then
        some (input.inServiceDate.getD input.acquisitionDate)
      else none
    status := initialStatus
    residual_column := atScale_halfUp 6 _
    accumulated_column := nothing_column
    book_column := atScale_halfUp 6 _ }

def createAsset (org : UUID) (input : AssetInput) (today : Date) :
    RegisterSession UUID := do
  refuse (input.acquisitionCost ≤ 0) (.http 400 "Acquisition cost must be greater than zero.")
  refuse (input.usefulLifeMonths.any (· ≤ 0))
    (.http 400 "Useful life (months) must be greater than zero.")
  refuse (input.residualValue.any (input.acquisitionCost < ·))
    (.http 400 "Residual value cannot exceed the acquisition cost.")
  refuse (today < input.acquisitionDate) (.http 400 "Acquisition date cannot be in the future.")
  let s ← get
  let category ← (match resolvePrimaryCategory s.policies org input.categoryId with
    | .ok category => pure category
    | .error e => throw e : RegisterSession (Stored CategoryPolicy))
  refuse (input.acquisitionCost < category.row.capitalizationThreshold)
    (.http 400 ("Acquisition cost " ++ fixedText 6 input.acquisitionCost ++
      " is below capitalization threshold " ++
      fixedText 6 category.row.capitalizationThreshold))
  refuse ((s.assets.find? fun asset => decide (asset.organizationId = org ∧
      asset.assetNumber = input.assetNumber)).isSome)
    (.http 400 ("Asset number '" ++ input.assetNumber ++ "' already exists"))
  let initialStatus := input.status.getD .notInUse
  refuse (initialStatus = .retired)
    (.http 400 "Retired status must be set through the disposal workflow")
  set { s with
    assets := s.assets.insert (input.toAsset org category initialStatus) }
  pure s.assets.next

/-- `activate_asset`. The date depreciation starts is the one given, or else that of the service. -/
def activateAsset (org assetId : UUID) (depreciationStartDate : Date) :
    RegisterSession PUnit := do
  let asset ← requireAsset org assetId
  refuse (asset.status ∉ preUseAssetStatuses)
    (.http 400 ("Cannot activate asset with status '" ++ asset.status.value ++ "'"))
  modifyAsset assetId fun asset => { asset with
    status := .inUse
    depreciationStartDate := some depreciationStartDate }

/-- A status change: `update_asset` where it is given a status and nothing else. The date of the
service comes with the call. -/
def updateStatus (org assetId : UUID) (newStatus : AssetStatus) (inServiceDate : Date) :
    RegisterSession PUnit := do
  discard (requireAsset org assetId)
  refuse (newStatus = .retired)
    (.http 400 "Retired status must be set through the disposal workflow")
  modifyAsset assetId fun asset => { asset with
    status := newStatus
    depreciationStartDate :=
      if newStatus = .inUse ∨ newStatus = .fullyDepreciated then
        some (asset.depreciationStartDate.getD inServiceDate)
      else asset.depreciationStartDate
    remainingLifeMonths :=
      if newStatus = .fullyDepreciated then 0 else asset.remainingLifeMonths }

/-! ### Revaluation -/

structure RevaluationInput where
  assetId : UUID
  revaluationDate : Date
  fairValue : ℚ

/-- How a revaluation is recognized. -/
structure Recognition where
  surplusToEquity : ℚ := 0
  deficitToPl : ℚ := 0
  priorDeficitReversed : ℚ := 0
  priorSurplusReversed : ℚ := 0

def recognize (cumulativeSurplus cumulativeDeficitInPl surplusOrDeficit : ℚ) : Recognition :=
  if 0 < surplusOrDeficit then
    if 0 < cumulativeDeficitInPl then
      let priorDeficitReversed := min surplusOrDeficit cumulativeDeficitInPl
      { priorDeficitReversed
        surplusToEquity := surplusOrDeficit - priorDeficitReversed }
    else { surplusToEquity := surplusOrDeficit }
  else if surplusOrDeficit < 0 then
    let deficit := |surplusOrDeficit|
    if 0 < cumulativeSurplus then
      let priorSurplusReversed := min deficit cumulativeSurplus
      { priorSurplusReversed
        deficitToPl := deficit - priorSurplusReversed }
    else { deficitToPl := deficit }
  else {}

def priorRevaluations (s : AssetRegister) (assetId : UUID) (revaluationDate : Date) :
    List AssetRevaluation :=
  (s.revaluations.select fun revaluation : AssetRevaluation =>
    decide (revaluation.assetId = assetId ∧ revaluation.revaluationDate < revaluationDate)).map
      Stored.row

def RevaluationInput.toRow (input : RevaluationInput) (asset : Asset)
    (recognition : Recognition) (createdByUserId : UUID) : AssetRevaluation where
  assetId := input.assetId
  revaluationDate := input.revaluationDate
  carryingAmountBefore := asset.netBookValue
  accumulatedDepreciationBefore := asset.accumulatedDepreciation
  fairValue := column input.fairValue
  revaluationSurplusOrDeficit := column (input.fairValue - asset.netBookValue)
  carryingAmountAfter := column input.fairValue
  accumulatedDepreciationAfter := 0
  surplusToEquity := column recognition.surplusToEquity
  deficitToPl := column recognition.deficitToPl
  priorDeficitReversed := column recognition.priorDeficitReversed
  priorSurplusReversed := column recognition.priorSurplusReversed
  createdByUserId := createdByUserId

def AssetRevaluation.approved (revaluation : AssetRevaluation) (approvedByUserId : UUID) :
    AssetRevaluation :=
  { revaluation with approvedByUserId := some approvedByUserId }

def Asset.revalued (asset : Asset) (revaluation : AssetRevaluation) : Asset :=
  { asset with
    revaluedAmount := some revaluation.fairValue
    netBookValue := column revaluation.carryingAmountAfter
    accumulatedDepreciation := column revaluation.accumulatedDepreciationAfter
    accumulated_column := atScale_halfUp 6 revaluation.accumulatedDepreciationAfter
    book_column := atScale_halfUp 6 revaluation.carryingAmountAfter }

def createRevaluation (org : UUID) (input : RevaluationInput)
    (createdByUserId : UUID) : RegisterSession UUID := do
  let asset ← requireAsset org input.assetId
  refuse (asset.status ≠ .inUse)
    (.http 400 ("Cannot revalue asset with status '" ++ asset.status.value ++ "'"))
  let s ← get
  let category ← orRaise (s.policies.get? asset.categoryId) (.http 404 "Asset category not found")
  refuse (category.revaluationModelAllowed = false)
    (.http 400 "Revaluation model not allowed for this asset category")
  let priorRevals := priorRevaluations s input.assetId input.revaluationDate
  let cumulativeSurplus := (priorRevals.map AssetRevaluation.surplusToEquity).sum
  let cumulativeDeficitInPl := (priorRevals.map AssetRevaluation.deficitToPl).sum
  set { s with
    revaluations := s.revaluations.insert (input.toRow asset
      (recognize cumulativeSurplus cumulativeDeficitInPl (input.fairValue - asset.netBookValue))
      createdByUserId) }
  pure s.revaluations.next

def approveRevaluation (org revaluationId approvedByUserId : UUID) :
    RegisterSession PUnit := do
  let s ← get
  let revaluation ← orRaise (s.revaluations.get? revaluationId) (.http 404 "Revaluation not found")
  discard (requireAsset org revaluation.assetId)
  refuse (revaluation.approvedByUserId.isSome) (.http 400 "Revaluation already approved")
  refuse (revaluation.createdByUserId = approvedByUserId)
    (.http 400 "Segregation of duties violation: creator cannot approve")
  set { s with
    revaluations := s.revaluations.modify revaluationId (·.approved approvedByUserId)
    assets := s.assets.modify revaluation.assetId (·.revalued revaluation) }

/-! ### Disposal -/

structure DisposalInput where
  assetId : UUID
  disposalDate : Date
  disposalType : DisposalType
  disposalProceeds : ℚ := 0
  costsOfDisposal : ℚ := 0
  insuranceProceeds : Option ℚ := none

def DisposalInput.netProceeds (input : DisposalInput) : ℚ :=
  input.disposalProceeds - input.costsOfDisposal +
    if input.disposalType = .insuranceClaim then input.insuranceProceeds.getD 0 else 0

def DisposalInput.toRow (input : DisposalInput) (asset : Asset) (createdByUserId : UUID) :
    AssetDisposal where
  assetId := input.assetId
  disposalDate := input.disposalDate
  disposalType := input.disposalType
  costAtDisposal := column asset.costBasis
  accumulatedDepreciationAtDisposal := asset.accumulatedDepreciation
  netBookValueAtDisposal := asset.netBookValue
  disposalProceeds := column input.disposalProceeds
  costsOfDisposal := column input.costsOfDisposal
  netProceeds := column input.netProceeds
  gainLossOnDisposal := column (input.netProceeds - asset.netBookValue)
  insuranceProceeds := input.insuranceProceeds.map column
  createdByUserId := createdByUserId

def AssetDisposal.approved (disposal : AssetDisposal) (approvedByUserId : UUID) : AssetDisposal :=
  { disposal with approvedByUserId := some approvedByUserId }

def createDisposal (org : UUID) (input : DisposalInput) (createdByUserId : UUID) :
    RegisterSession UUID := do
  refuse (input.disposalProceeds < 0) (.http 400 "Disposal proceeds cannot be negative.")
  refuse (input.costsOfDisposal < 0) (.http 400 "Costs of disposal cannot be negative.")
  let asset ← requireAsset org input.assetId
  refuse (asset.status = .retired) (.http 400 "Asset is already retired")
  refuse (asset.status ∈ preUseAssetStatuses)
    (.http 400 "Cannot retire an asset that is not yet in use")
  refuse (asset.status = .underRepair)
    (.http 400 "Cannot retire an asset while it is under repair")
  let s ← get
  set { s with disposals := s.disposals.insert (input.toRow asset createdByUserId) }
  pure s.disposals.next

def approveDisposal (org disposalId approvedByUserId : UUID) :
    RegisterSession PUnit := do
  let s ← get
  let disposal ← orRaise (s.disposals.get? disposalId) (.http 404 "Disposal not found")
  discard (requireAsset org disposal.assetId)
  refuse (disposal.approvedByUserId.isSome) (.http 400 "Disposal already approved")
  refuse (disposal.createdByUserId = approvedByUserId)
    (.http 400 "Segregation of duties violation: creator cannot approve")
  set { s with
    disposals := s.disposals.modify disposalId (·.approved approvedByUserId)
    assets := s.assets.modify disposal.assetId fun asset => { asset with status := .retired } }

/-! ### What a call does -/

section Calls

variable {s s' : AssetRegister} {org revaluationId userId assetId : UUID}
  {input : RevaluationInput} {asset : Asset}

theorem ok_of_returns {α : Type} {x : RegisterSession α} (h : returns x s = true) :
    ∃ a, x s = .ok a (commit x s) := by
  obtain ⟨a, s', hok⟩ := returns_iff.mp h
  rw [commit_of_ok hok]
  exact ⟨a, hok⟩

theorem requireAsset_eq_ok : requireAsset org assetId s = .ok asset s' ↔
    s.assets.get? assetId = some asset ∧ asset.organizationId = org ∧ s' = s := by
  rw [requireAsset, get_bind, orRaise_eq_ok, Option.filter_eq_some_iff, decide_eq_true_eq,
    and_assoc]

theorem createRevaluation_eq_ok
    (h : createRevaluation org input userId s = .ok revaluationId s') :
    ∃ asset, s.assets.get? input.assetId = some asset ∧
      s' = { s with
        revaluations := s.revaluations.insert (input.toRow asset
          (recognize
            ((priorRevaluations s input.assetId input.revaluationDate).map
              AssetRevaluation.surplusToEquity).sum
            ((priorRevaluations s input.assetId input.revaluationDate).map
              AssetRevaluation.deficitToPl).sum
            (input.fairValue - asset.netBookValue)) userId) } := by
  rw [createRevaluation, bind_eq_ok] at h
  obtain ⟨asset, _, hasset, h⟩ := h
  obtain ⟨hget, -, rfl⟩ := requireAsset_eq_ok.mp hasset
  rw [refuse_bind, get_bind, orRaise_bind] at h
  obtain ⟨-, _, -, h⟩ := h
  rw [refuse_bind, bind_eq_ok] at h
  obtain ⟨-, _, _, hset, h⟩ := h
  refine ⟨asset, hget, ?_⟩
  rw [(pure_eq_ok.mp h).2, set_eq_ok.mp hset]

theorem approveRevaluation_eq_ok
    (h : approveRevaluation org revaluationId userId s = .ok ⟨⟩ s') :
    ∃ revaluation, s.revaluations.get? revaluationId = some revaluation ∧
      s' = { s with
        revaluations := s.revaluations.modify revaluationId (·.approved userId)
        assets := s.assets.modify revaluation.assetId (·.revalued revaluation) } := by
  rw [approveRevaluation, get_bind, orRaise_bind] at h
  obtain ⟨revaluation, hget, h⟩ := h
  rw [bind_eq_ok] at h
  obtain ⟨_, _, hdiscarded, h⟩ := h
  obtain ⟨_, hasset⟩ := discard_eq_ok.mp hdiscarded
  obtain ⟨-, -, rfl⟩ := requireAsset_eq_ok.mp hasset
  rw [refuse_bind, refuse_bind, set_eq_ok] at h
  exact ⟨revaluation, hget, h.2.2⟩

end Calls

end DotmacErp.Depreciation
