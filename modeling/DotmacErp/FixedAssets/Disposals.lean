import DotmacErp.FixedAssets.RegisterRuns
import DotmacErp.Foundation.Scripts
import DotmacErp.GL.Journal

/-!
# The journal of a disposal

`FAPostingAdapter.post_asset_disposal` clears the accumulated depreciation, debits the net proceeds
if there are any, removes the cost, and books the gain or the loss.

Net proceeds below zero have no line, so the journal lacks a debit by that much. And an asset
that was revalued to zero is removed at what it was acquired for. The sides agree if and only if
these amounts do, up to how the gain and the net proceeds are rounded (`disposal_postable_iff`);
otherwise the ledger refuses the journal.
-/

namespace DotmacErp.Depreciation

open Relational Session Table Rounding JournalService

/-! ### The lines -/

def disposalDebit (accountId : UUID) (amount : ℚ) (description : String) : JournalLineInput where
  accountId := accountId
  debitAmount := amount
  creditAmount := 0
  debitAmountFunctional := some amount
  creditAmountFunctional := some 0
  description := some description

def disposalCredit (accountId : UUID) (amount : ℚ) (description : String) : JournalLineInput where
  accountId := accountId
  debitAmount := 0
  creditAmount := amount
  debitAmountFunctional := some 0
  creditAmountFunctional := some amount
  description := some description

def disposalLines (category : AssetCategory) (policy : CategoryPolicy) (assetName : String)
    (disposal : AssetDisposal) : List JournalLineInput :=
  (if 0 < disposal.accumulatedDepreciationAtDisposal then
    [disposalDebit category.accumulatedDepreciationAccountId
      disposal.accumulatedDepreciationAtDisposal ("Clear accum dep: " ++ assetName)]
  else []) ++
  (if 0 < disposal.netProceeds then
    [disposalDebit policy.gainLossDisposalAccountId disposal.netProceeds
      ("Disposal proceeds: " ++ assetName)]
  else []) ++
  [disposalCredit policy.assetAccountId disposal.costAtDisposal ("Remove asset: " ++ assetName)] ++
  (if 0 < disposal.gainLossOnDisposal then
    [disposalCredit policy.gainLossDisposalAccountId disposal.gainLossOnDisposal
      ("Gain on disposal: " ++ assetName)]
  else if disposal.gainLossOnDisposal < 0 then
    [disposalDebit policy.gainLossDisposalAccountId |disposal.gainLossOnDisposal|
      ("Loss on disposal: " ++ assetName)]
  else [])

/-- `post_asset_disposal`, up to the lines of its journal. The name of the asset comes with the
call. -/
def postAssetDisposal (s : AssetRegister) (org disposalId : UUID) (assetName : String) :
    Except String (List JournalLineInput) :=
  match s.disposals.get? disposalId with
  | none => .error "Disposal not found"
  | some disposal =>
    match (s.assets.get? disposal.assetId).filter (·.organizationId = org) with
    | none => .error "Asset not found"
    | some asset =>
      match s.categories.get? asset.categoryId, s.policies.get? asset.categoryId with
      | some category, some policy => .ok (disposalLines category policy assetName disposal)
      | _, _ => .error "Category not found"

/-! ### When the sides agree -/

/-- What is removed of an asset beyond the cost it is carried at: an asset that was revalued to zero
is removed at what it was acquired for. -/
def Asset.overRemoved (asset : Asset) : ℚ :=
  if asset.revaluedAmount = some 0 then asset.acquisitionCost else 0

def DisposalInput.roundedApart (input : DisposalInput) (asset : Asset) : ℚ :=
  column (input.netProceeds - asset.netBookValue) -
    (column input.netProceeds - asset.netBookValue)

/-- The net proceeds that have no line are what is removed of the asset beyond its cost, up to
rounding. -/
def IsPostable (asset : Asset) (input : DisposalInput) : Prop :=
  max 0 (-column input.netProceeds) = asset.overRemoved + input.roundedApart asset

instance (asset : Asset) (input : DisposalInput) : Decidable (IsPostable asset input) :=
  inferInstanceAs (Decidable (_ = _))

section Sides

variable (category : AssetCategory) (policy : CategoryPolicy) (assetName : String)

theorem sides_disposalLines (disposal : AssetDisposal)
    (haccumulated : AtScale 6 disposal.accumulatedDepreciationAtDisposal)
    (hnonneg : 0 ≤ disposal.accumulatedDepreciationAtDisposal)
    (hproceeds : AtScale 6 disposal.netProceeds) (hcost : AtScale 6 disposal.costAtDisposal)
    (hgain : AtScale 6 disposal.gainLossOnDisposal) :
    sumAtPersistedScale ((disposalLines category policy assetName disposal).map
        JournalLineInput.debitAmount) -
      sumAtPersistedScale ((disposalLines category policy assetName disposal).map
        JournalLineInput.creditAmount) =
      disposal.accumulatedDepreciationAtDisposal + max 0 disposal.netProceeds -
        disposal.costAtDisposal - disposal.gainLossOnDisposal := by
  have hzero : amountColumn 0 = 0 := halfUp_zero 6
  have hfixed : ∀ {q : ℚ}, AtScale 6 q → amountColumn q = q := halfUp_of_atScale
  have hline (q : ℚ) (l : List JournalLineInput) (side : JournalLineInput → ℚ) :
      ((if 0 < q then l else []).map fun line => amountColumn (side line)).sum =
        if 0 < q then (l.map fun line => amountColumn (side line)).sum else 0 := by
    split_ifs <;> rfl
  have hproceeds_max : (if 0 < disposal.netProceeds then disposal.netProceeds else 0) =
      max 0 disposal.netProceeds := by
    split_ifs with hpos
    · exact (max_eq_right hpos.le).symm
    · exact (max_eq_left (not_lt.mp hpos)).symm
  have haccumulated_eq : (if 0 < disposal.accumulatedDepreciationAtDisposal then
      disposal.accumulatedDepreciationAtDisposal else 0) =
      disposal.accumulatedDepreciationAtDisposal := by
    split_ifs with hpos
    · rfl
    · exact le_antisymm hnonneg (not_lt.mp hpos)
  simp only [sumAtPersistedScale, disposalLines, List.map_map, List.map_append, List.sum_append,
    Function.comp_def]
  rw [hline, hline, hline, hline]
  simp only [disposalDebit, disposalCredit, List.map_cons, List.map_nil, List.sum_cons,
    List.sum_nil, hzero, hfixed haccumulated, hfixed hproceeds, hfixed hcost, add_zero, zero_add,
    ite_self, haccumulated_eq, hproceeds_max]
  split_ifs with hpos hneg
  · simp only [List.map_cons, List.map_nil, List.sum_cons, List.sum_nil, hzero, hfixed hgain]
    ring
  · have habs : |disposal.gainLossOnDisposal| = -disposal.gainLossOnDisposal := abs_of_neg hneg
    simp only [List.map_cons, List.map_nil, List.sum_cons, List.sum_nil, hzero, habs,
      hfixed hgain.neg]
    ring
  · have hflat : disposal.gainLossOnDisposal = 0 := le_antisymm (not_lt.mp hpos) (not_lt.mp hneg)
    simp only [List.map_nil, List.sum_nil, hflat]
    ring

theorem costBasis_eq (asset : Asset) : asset.costBasis = asset.carriedCost + asset.overRemoved := by
  rw [Asset.costBasis, Asset.carriedCost, Asset.overRemoved]
  cases asset.revaluedAmount with
  | none => simp
  | some revalued =>
    by_cases hzero : revalued = 0
    · simp [hzero]
    · simp [hzero]

theorem balanced_toRow_iff {asset : Asset} (h : asset.IsConsistent) (input : DisposalInput)
    (userId : UUID) :
    sumAtPersistedScale ((disposalLines category policy assetName
        (input.toRow asset userId)).map JournalLineInput.debitAmount) =
      sumAtPersistedScale ((disposalLines category policy assetName
        (input.toRow asset userId)).map JournalLineInput.creditAmount) ↔
      IsPostable asset input := by
  have hsides := sides_disposalLines category policy assetName (input.toRow asset userId)
    asset.accumulated_column h.accumulated_nonneg (atScale_halfUp 6 _) (atScale_halfUp 6 _)
    (atScale_halfUp 6 _)
  have hcost : column asset.costBasis = asset.netBookValue + asset.accumulatedDepreciation +
      asset.overRemoved := by
    have hover : AtScale 6 asset.overRemoved := by
      rw [Asset.overRemoved]
      split_ifs
      · exact h.cost_column
      · exact atScale_zero 6
    rw [costBasis_eq, column_of_atScale (h.carriedCost_column.add hover), h.carried]
  have hmax (q : ℚ) : max 0 q = q + max 0 (-q) := by
    rcases le_total 0 q with hq | hq
    · rw [max_eq_right hq, max_eq_left (neg_nonpos.mpr hq), add_zero]
    · rw [max_eq_left hq, max_eq_right (neg_nonneg.mpr hq), add_neg_cancel]
  have hproceeds := hmax (column input.netProceeds)
  rw [← sub_eq_zero, hsides, IsPostable, DisposalInput.roundedApart]
  simp only [DisposalInput.toRow]
  rw [hcost, hproceeds]
  constructor
  · intro hzero
    linarith
  · intro hpostable
    linarith

end Sides

section Posting

variable {s s' : AssetRegister} {org disposalId userId : UUID} {input : DisposalInput}

theorem createDisposal_eq_ok (h : createDisposal org input userId s =
      .ok disposalId s') :
    ∃ asset, s.assets.get? input.assetId = some asset ∧ asset.organizationId = org ∧
      disposalId = s.disposals.next ∧
      s' = { s with disposals := s.disposals.insert (input.toRow asset userId) } := by
  rw [createDisposal, refuse_bind, refuse_bind, bind_eq_ok] at h
  obtain ⟨-, -, asset, _, hasset, h⟩ := h
  obtain ⟨hget, horganization, rfl⟩ := requireAsset_eq_ok.mp hasset
  rw [refuse_bind, refuse_bind, refuse_bind, get_bind, bind_eq_ok] at h
  obtain ⟨-, -, -, _, _, hset, h⟩ := h
  obtain ⟨hid, rfl⟩ := pure_eq_ok.mp h
  exact ⟨asset, hget, horganization, hid, set_eq_ok.mp hset⟩

/-- **The journal of a disposal is balanced**, and the ledger accepts it, if and only if the net
proceeds that have no line are what is removed of the asset beyond the cost it is carried at, up to
rounding. -/
theorem disposal_postable_iff (hs : registerSystem.Reachable s)
    (hcall : createDisposal org input userId s = .ok disposalId s')
    (assetName : String) :
    ∃ asset lines, s.assets.get? input.assetId = some asset ∧
      postAssetDisposal s' org disposalId assetName = .ok lines ∧
      ((sumAtPersistedScale (lines.map JournalLineInput.debitAmount) =
          sumAtPersistedScale (lines.map JournalLineInput.creditAmount) ∧
        ∀ t, ∃ totals, requireBalanced lines t = .ok totals t) ↔ IsPostable asset input) := by
  have hconsistent := isConsistent_of_reachable hs
  obtain ⟨asset, hget, horganization, rfl, rfl⟩ := createDisposal_eq_ok hcall
  have hcategory := hconsistent.store.categorized _ _ hget
  obtain ⟨category, hcategory'⟩ := Option.isSome_iff_exists.mp hcategory
  obtain ⟨policy, hpolicy⟩ := Option.isSome_iff_exists.mp
    ((hconsistent.matching asset.categoryId).mp hcategory)
  refine ⟨asset, disposalLines category policy assetName (input.toRow asset userId), hget, ?_, ?_⟩
  · have hstored : (s.disposals.insert (input.toRow asset userId)).get? s.disposals.next =
        some (input.toRow asset userId) := by
      rw [get?_insert, if_pos rfl]
    have hasset : (s.assets.get? (input.toRow asset userId).assetId).filter
        (·.organizationId = org) = some asset := by
      rw [show (input.toRow asset userId).assetId = input.assetId from rfl, hget,
        Option.filter_some, if_pos (decide_eq_true horganization)]
    rw [postAssetDisposal]
    simp only [hstored, hasset, hcategory', hpolicy]
  · rw [accepted_iff, and_self]
    exact balanced_toRow_iff category policy assetName (hconsistent.store.assets _ _ hget) input
      userId

end Posting

def openRegister : AssetRegister where
  categories := Table.empty.insert ⟨40, 41⟩
  assets := Table.empty
  runs := Table.empty
  schedules := Table.empty
  policies := Table.empty.insert
    { organizationId := 1
      depreciationMethod := .straightLine
      usefulLifeMonths := 48
      assetAccountId := 42
      gainLossDisposalAccountId := 43
      revaluationModelAllowed := true }
  revaluations := Table.empty
  disposals := Table.empty

def acquisition : RegisterCall :=
  .createAsset 1
    { assetNumber := "FA-0011"
      categoryId := 0
      acquisitionDate := ⟨2023, 2, 1, by decide⟩
      acquisitionCost := 1000
      status := some .inUse } ⟨2023, 2, 2, by decide⟩

theorem init_openRegister : registerSystem.init openRegister := by
  refine ⟨fun k => ?_, rfl, rfl, rfl⟩
  have hnext : (Table.empty : Table AssetCategory).next =
    (Table.empty : Table CategoryPolicy).next := rfl
  rw [openRegister, get?_insert, get?_insert, hnext]
  split_ifs <;> simp

theorem reachable_acquisition : registerSystem.Reachable (outcome acquisition.run openRegister) :=
  ⟨openRegister, init_openRegister, .single ⟨acquisition, trivial, rfl⟩⟩

/-- **The values of an asset belong together in every state that is reached**, whatever the order
of acquisitions, depreciation runs, revaluations and disposals: the cost it is carried at is its net
book value and its accumulated depreciation, a schedule moves value from one to the other, and a
revaluation starts again at the fair value. -/
theorem register_adds_up {s : AssetRegister} (h : registerSystem.Reachable s) :
    (∀ k asset, s.assets.get? k = some asset →
      asset.revaluedAmount.getD asset.acquisitionCost =
          asset.netBookValue + asset.accumulatedDepreciation ∧
        0 ≤ asset.accumulatedDepreciation ∧ (s.categories.get? asset.categoryId).isSome) ∧
    (∀ k schedule, s.schedules.get? k = some schedule →
      schedule.netBookValueClosing + schedule.accumulatedDepreciationClosing =
          schedule.netBookValueOpening + schedule.accumulatedDepreciationOpening ∧
        schedule.accumulatedDepreciationOpening ≤ schedule.accumulatedDepreciationClosing) ∧
    ∀ k revaluation, s.revaluations.get? k = some revaluation →
      revaluation.accumulatedDepreciationAfter = 0 ∧
        revaluation.carryingAmountAfter = revaluation.fairValue := by
  have hconsistent := isConsistent_of_reachable h
  refine ⟨fun k asset hget => ?_, fun k schedule hget => ?_, fun k revaluation hget => ?_⟩
  · have hasset := hconsistent.store.assets k asset hget
    exact ⟨hasset.carried, hasset.accumulated_nonneg, hconsistent.store.categorized k asset hget⟩
  · have hschedule := hconsistent.store.schedules k schedule hget
    exact ⟨hschedule.closes, hschedule.rises⟩
  · have hrevaluation := hconsistent.revaluations k revaluation hget
    exact ⟨hrevaluation.eliminates, hrevaluation.carries⟩

/-- A month is depreciated, the asset is revalued to 1200, and the next month is depreciated. -/
def twoMonths : AssetRegister :=
  System.after (fun s call => outcome (RegisterCall.run call) s) openRegister [acquisition,
    .createDepreciationRun 1 2 7,
    .calculateRun 1 0 (some ⟨1, ⟨2023, 2, 28, by decide⟩⟩) ⟨2023, 3, 1, by decide⟩,
    .postRun 1 0 8 (.posted 90 91),
    .createRevaluation 1 ⟨0, ⟨2023, 3, 10, by decide⟩, 1200⟩ 7, .approveRevaluation 1 0 8,
    .createDepreciationRun 1 3 7,
    .calculateRun 1 1 (some ⟨1, ⟨2023, 3, 31, by decide⟩⟩) ⟨2023, 4, 1, by decide⟩,
    .postRun 1 1 8 (.posted 92 93)]

/-- The asset is carried at 1200, of which 25 are depreciated; the first month took 20.83. -/
theorem register_adds_up_sample : ∃ asset schedule revaluation,
    twoMonths.assets.get? 0 = some asset ∧ twoMonths.schedules.get? 0 = some schedule ∧
    twoMonths.revaluations.get? 0 = some revaluation ∧
    asset.accumulatedDepreciation = 25 ∧ schedule.accumulatedDepreciationClosing = 20.83 ∧
    revaluation.fairValue = 1200 ∧
    asset.revaluedAmount.getD asset.acquisitionCost =
      asset.netBookValue + asset.accumulatedDepreciation ∧
    schedule.netBookValueClosing + schedule.accumulatedDepreciationClosing =
      schedule.netBookValueOpening + schedule.accumulatedDepreciationOpening ∧
    revaluation.carryingAmountAfter = revaluation.fairValue := by
  have hreach : registerSystem.Reachable twoMonths := System.reachable_after init_openRegister _
  obtain ⟨hassets, hschedules, hrevaluations⟩ := register_adds_up hreach
  have hasset : (twoMonths.assets.get? 0).map Asset.accumulatedDepreciation = some 25 := by
    decide +kernel
  have hschedule : (twoMonths.schedules.get? 0).map
      DepreciationSchedule.accumulatedDepreciationClosing = some 20.83 := by decide +kernel
  have hrevaluation : (twoMonths.revaluations.get? 0).map AssetRevaluation.fairValue =
      some 1200 := by decide +kernel
  obtain ⟨asset, hasset, haccumulated⟩ := Option.map_eq_some_iff.mp hasset
  obtain ⟨schedule, hschedule, hclosing⟩ := Option.map_eq_some_iff.mp hschedule
  obtain ⟨revaluation, hrevaluation, hfair⟩ := Option.map_eq_some_iff.mp hrevaluation
  exact ⟨asset, schedule, revaluation, hasset, hschedule, hrevaluation, haccumulated, hclosing,
    hfair, (hassets 0 asset hasset).1, (hschedules 0 schedule hschedule).1,
    (hrevaluations 0 revaluation hrevaluation).2⟩

/-- The asset is sold for 1200, at costs of 50. -/
theorem disposal_postable_iff_sample : ∃ lines,
    postAssetDisposal (commit (createDisposal 1 ⟨0, ⟨2024, 5, 30, by decide⟩, .sale, 1200, 50,
      none⟩ 7) (outcome acquisition.run openRegister)) 1 0 "Van" = .ok lines ∧
    ∀ t, ∃ totals, requireBalanced lines t = .ok totals t := by
  have hreturns : returns (createDisposal 1 ⟨0, ⟨2024, 5, 30, by decide⟩, .sale, 1200, 50, none⟩ 7)
    (outcome acquisition.run openRegister) = true := by decide +kernel
  obtain ⟨disposalId, hcall⟩ := ok_of_returns hreturns
  obtain ⟨-, -, -, hid, -⟩ := createDisposal_eq_ok hcall
  obtain ⟨asset, lines, hget, hlines, hiff⟩ :=
    disposal_postable_iff reachable_acquisition hcall "Van"
  have hpostable : ∀ asset ∈ (outcome acquisition.run openRegister).assets.get? 0,
      IsPostable asset ⟨0, ⟨2024, 5, 30, by decide⟩, .sale, 1200, 50, none⟩ := by
    decide +kernel
  rw [hid] at hlines
  exact ⟨lines, hlines, (hiff.mpr (hpostable asset hget)).2⟩

/-- An asset that is scrapped at costs of 50 has no balanced journal. -/
theorem costs_without_line : ¬ ∀ (s s' : AssetRegister) (org disposalId userId : UUID)
    (input : DisposalInput) (assetName : String), registerSystem.Reachable s →
      createDisposal org input userId s = .ok disposalId s' →
      ∃ lines, postAssetDisposal s' org disposalId assetName = .ok lines ∧
        sumAtPersistedScale (lines.map JournalLineInput.debitAmount) =
          sumAtPersistedScale (lines.map JournalLineInput.creditAmount) := by
  intro h
  have hreturns : returns (createDisposal 1 ⟨0, ⟨2024, 5, 29, by decide⟩, .scrapping, 0, 50, none⟩
    7) (outcome acquisition.run openRegister) = true := by decide +kernel
  obtain ⟨disposalId, hcall⟩ := ok_of_returns hreturns
  obtain ⟨-, -, -, hid, -⟩ := createDisposal_eq_ok hcall
  obtain ⟨lines, hlines, hbalanced⟩ := h _ _ _ _ _ _ "Van" reachable_acquisition hcall
  rw [hid] at hlines
  have hsides : (match postAssetDisposal (commit (createDisposal 1 ⟨0, ⟨2024, 5, 29, by decide⟩,
      .scrapping, 0, 50, none⟩ 7) (outcome acquisition.run openRegister)) 1 0 "Van" with
    | .ok lines => sumAtPersistedScale (lines.map JournalLineInput.debitAmount) -
        sumAtPersistedScale (lines.map JournalLineInput.creditAmount)
    | .error _ => 0) = 50 := by
    decide +kernel
  have hnext : (outcome acquisition.run openRegister).disposals.next = 0 := by decide +kernel
  rw [hnext] at hlines
  simp only [hlines] at hsides
  rw [hbalanced, sub_self] at hsides
  norm_num at hsides

end DotmacErp.Depreciation
