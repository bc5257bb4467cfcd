import DotmacErp.FixedAssets.Register
import DotmacErp.Foundation.Reversals
import DotmacErp.Foundation.Selections

/-!
# The recognition of revaluations

The standard wants the surpluses in equity and the deficits in profit or loss, each without what was
reversed of them, never to be negative; never to be positive together while the asset is not
depreciated; and each revaluation to be recognized in full (`FollowsStandard`).

The service adds up the surpluses and deficits of the earlier revaluations without what was reversed
of them. So a history of revaluations follows the standard if and only if each change fits: it takes
the value back to where it was not revalued at most, or the value has never come back from that side
before. And since the columns hold six decimals, no fair value may be a tie between zero and the
carrying amount, where the fair value and the change are rounded apart (`followsStandard_iff`).
-/

namespace DotmacErp.Depreciation

open Calendar Relational Session Table Reversals Rounding

def revaluationsOf (s : AssetRegister) (assetId : UUID) : List AssetRevaluation :=
  (s.revaluations.select fun revaluation : AssetRevaluation =>
    decide (revaluation.assetId = assetId)).map Stored.row

/-- What a revaluation is given: the fair value, and the carrying amount of the asset. -/
structure Revalued where
  fairValue : ℚ
  carryingAmount : ℚ

def Revalued.change (revalued : Revalued) : ℚ :=
  column (revalued.fairValue - revalued.carryingAmount)

/-- The fair value is a tie between zero and the carrying amount. -/
def Revalued.RoundsApart (revalued : Revalued) : Prop :=
  Tie 6 revalued.fairValue ∧
    (0 < revalued.fairValue ∧ revalued.fairValue < revalued.carryingAmount ∨
      revalued.carryingAmount < revalued.fairValue ∧ revalued.fairValue < 0)

/-- A history of an asset: it is revalued with later and later dates, each time after the earlier
revaluations were approved; revaluations are approved; and anything else happens that leaves the
revaluations of the asset as they are. -/
inductive RevaluationHistory (assetId : UUID) : List Revalued → AssetRegister → Prop
  | start {s : AssetRegister} (h : revaluationsOf s assetId = []) :
      RevaluationHistory assetId [] s
  | created {events : List Revalued} {s s' : AssetRegister} {org : UUID}
      {input : RevaluationInput} {createdByUserId revaluationId : UUID} {asset : Asset}
      (h : RevaluationHistory assetId events s)
      (hinput : input.assetId = assetId) (hasset : s.assets.get? assetId = some asset)
      (hlater : ∀ revaluation ∈ revaluationsOf s assetId,
        revaluation.revaluationDate < input.revaluationDate)
      (happroved : ∀ revaluation ∈ revaluationsOf s assetId,
        revaluation.approvedByUserId.isSome)
      (hcall : createRevaluation org input createdByUserId s = .ok revaluationId s') :
      RevaluationHistory assetId (events ++ [⟨input.fairValue, asset.netBookValue⟩]) s'
  | approved {events : List Revalued} {s s' : AssetRegister}
      {org revaluationId approvedByUserId : UUID}
      (h : RevaluationHistory assetId events s)
      (hcall : approveRevaluation org revaluationId approvedByUserId s = .ok ⟨⟩ s') :
      RevaluationHistory assetId events s'
  | other {events : List Revalued} {s s' : AssetRegister}
      (h : RevaluationHistory assetId events s)
      (hkept : revaluationsOf s' assetId = revaluationsOf s assetId) :
      RevaluationHistory assetId events s'

/-! ### What the standard wants -/

def runningSurplus (revaluations : List AssetRevaluation) : ℚ :=
  (revaluations.map fun revaluation =>
    revaluation.surplusToEquity - revaluation.priorSurplusReversed).sum

def runningDeficit (revaluations : List AssetRevaluation) : ℚ :=
  (revaluations.map fun revaluation =>
    revaluation.deficitToPl - revaluation.priorDeficitReversed).sum

def NoDepreciation (revaluations : List AssetRevaluation) : Prop :=
  revaluations.IsChain fun earlier later =>
    later.carryingAmountBefore = earlier.carryingAmountAfter

/-- The surplus and the deficit that were recognized are never negative and never both there, and
each revaluation recognizes what it changes. -/
structure FollowsStandard (revaluations : List AssetRevaluation) : Prop where
  surplus_nonneg : ∀ earlier, earlier <+: revaluations → 0 ≤ runningSurplus earlier
  deficit_nonneg : ∀ earlier, earlier <+: revaluations → 0 ≤ runningDeficit earlier
  exclusive : ∀ earlier, earlier <+: revaluations → NoDepreciation earlier →
    ¬ (0 < runningSurplus earlier ∧ 0 < runningDeficit earlier)
  recognized : ∀ revaluation ∈ revaluations,
    revaluation.surplusToEquity + revaluation.priorDeficitReversed - revaluation.deficitToPl -
      revaluation.priorSurplusReversed = revaluation.fairValue - revaluation.carryingAmountBefore

/-! ### The recognition as a split -/

/-- The recognition that a row holds. -/
def AssetRevaluation.split (revaluation : AssetRevaluation) : Split ℚ where
  gain := revaluation.surplusToEquity
  loss := revaluation.deficitToPl
  lossReversed := revaluation.priorDeficitReversed
  gainReversed := revaluation.priorSurplusReversed

section Columns

variable {q c x L : ℚ}

theorem column_taken (hL : 0 ≤ L) (hscale : AtScale 6 L) :
    column (min x L) = min (column x) L ∧ column (x - min x L) = column x - min (column x) L := by
  have hfixed : column L = L := halfUp_of_atScale hscale
  have hmin : column (min x L) = min (column x) L := by
    have hmono : Monotone column := halfUp_mono
    rw [hmono.map_min, hfixed]
  refine ⟨hmin, ?_⟩
  rcases le_total x L with hle | hle
  · have hcolumn : column x ≤ L := by
      rw [← hfixed]
      exact halfUp_mono hle
    rw [min_eq_left hle, min_eq_left hcolumn, sub_self, sub_self]
    exact halfUp_zero 6
  · have hcolumn : L ≤ column x := by
      rw [← hfixed]
      exact halfUp_mono hle
    have hrounded : column x = L + column (x - L) := halfUp_of_le hscale hL hle
    rw [min_eq_right hle, min_eq_right hcolumn, hrounded]
    ring

/-- The change is rounded as the fair value is, unless the fair value is a tie between zero and the
carrying amount. -/
theorem column_sub_eq_iff (hc : AtScale 6 c) :
    column (q - c) = column q - c ↔ ¬ (⟨q, c⟩ : Revalued).RoundsApart := by
  by_cases htie : Tie 6 q
  · have hq : q ≠ 0 := by
      rintro rfl
      exact not_tie_of_atScale (atScale_zero 6) htie
    rcases lt_trichotomy q c with hlt | rfl | hlt
    · have hrounded := halfUp_add_of_atScale (q := -q) hc (by linarith)
      have hneg : c + -q = -(q - c) := by ring
      rw [hneg, halfUp_neg, halfUp_neg] at hrounded
      have hgap : column (q - c) = column q - c -
          (if -q < 0 ∧ Tie 6 (-q) then 1 / 10 ^ 6 else 0) := by
        rw [column, column]
        linarith
      rw [hgap, Revalued.RoundsApart]
      by_cases hpos : 0 < q
      · rw [if_pos ⟨by linarith, tie_neg.mpr htie⟩]
        refine iff_of_false (fun h => ?_) (not_not.mpr ⟨htie, Or.inl ⟨hpos, hlt⟩⟩)
        norm_num at h
      · rw [if_neg fun h => hpos (by linarith [h.1]), sub_zero]
        refine iff_of_true rfl ?_
        rintro ⟨-, h | h⟩
        · exact hpos h.1
        · exact absurd h.1 (not_lt.mpr hlt.le)
    · exact absurd htie (not_tie_of_atScale hc)
    · have hrounded := halfUp_add_of_atScale (q := q) hc.neg (by linarith)
      have hsub : -c + q = q - c := by ring
      rw [hsub] at hrounded
      have hgap : column (q - c) = column q - c + (if q < 0 ∧ Tie 6 q then 1 / 10 ^ 6 else 0) := by
        rw [column, column]
        linarith
      rw [hgap, Revalued.RoundsApart]
      by_cases hneg : q < 0
      · rw [if_pos ⟨hneg, htie⟩]
        refine iff_of_false (fun h => ?_) (not_not.mpr ⟨htie, Or.inr ⟨hlt, hneg⟩⟩)
        norm_num at h
      · rw [if_neg fun h => hneg h.1, add_zero]
        refine iff_of_true rfl ?_
        rintro ⟨-, h | h⟩
        · exact absurd h.2 (not_lt.mpr hlt.le)
        · exact hneg h.2
  · refine iff_of_true ?_ fun h => htie h.1
    have hrounded := halfUp_add_of_not_tie hc.neg htie
    have hsub : -c + q = q - c := by ring
    rw [hsub] at hrounded
    rw [column, column, hrounded]
    ring

theorem recognize_of_pos (S : ℚ) (hL : 0 ≤ L) (hx : 0 < x) : recognize S L x =
    { surplusToEquity := x - min x L, priorDeficitReversed := min x L } := by
  rw [recognize, if_pos hx]
  split_ifs with h
  · rfl
  · rw [le_antisymm (not_lt.mp h) hL, min_eq_right hx.le, sub_zero]

theorem recognize_of_neg (D : ℚ) (hL : 0 ≤ L) (hx : x < 0) : recognize L D x =
    { deficitToPl := -x - min (-x) L, priorSurplusReversed := min (-x) L } := by
  rw [recognize, if_neg (not_lt.mpr hx.le), if_pos hx, abs_of_neg hx]
  split_ifs with h
  · rfl
  · rw [le_antisymm (not_lt.mp h) hL, min_eq_right (by linarith), sub_zero]

end Columns

/-- **A row holds the split of its change.** -/
theorem split_toRow {S D : ℚ} (hS : 0 ≤ S) (hD : 0 ≤ D) (hS' : AtScale 6 S) (hD' : AtScale 6 D)
    (input : RevaluationInput) (asset : Asset) (createdByUserId : UUID) :
    (input.toRow asset (recognize S D (input.fairValue - asset.netBookValue))
      createdByUserId).split =
      Reversals.split S D (column (input.fairValue - asset.netBookValue)) := by
  have hzero : column 0 = 0 := halfUp_zero 6
  simp only [AssetRevaluation.split, RevaluationInput.toRow]
  generalize input.fairValue - asset.netBookValue = x
  rcases lt_trichotomy x 0 with hx | rfl | hx
  · have hx' : 0 ≤ -x := by linarith
    have hneg : column (-x) = -column x := halfUp_neg 6 x
    have hnonneg : 0 ≤ column (-x) := halfUp_nonneg hx'
    obtain ⟨htaken, hleft⟩ := column_taken (x := -x) hS hS'
    have hnot : ¬ 0 < column x := by
      rw [hneg] at hnonneg
      linarith
    rw [recognize_of_neg D hS hx, Reversals.split, if_neg hnot, htaken, hleft, hneg, hzero]
  · rw [recognize, if_neg (lt_irrefl 0), if_neg (lt_irrefl 0), hzero, Reversals.split,
      if_neg (lt_irrefl 0), neg_zero, min_eq_left hS, sub_zero]
  · have hnonneg : 0 ≤ column x := halfUp_nonneg hx.le
    obtain ⟨htaken, hleft⟩ := column_taken (x := x) hD hD'
    rw [recognize_of_pos S hD hx, Reversals.split, htaken, hleft, hzero]
    split_ifs with hpos
    · rfl
    · have hflat : column x = 0 := le_antisymm (not_lt.mp hpos) hnonneg
      rw [hflat, min_eq_left hD, neg_zero, min_eq_left hS, sub_zero]

/-! ### A call after the other -/

structure Records (revalued : Revalued) (revaluation : AssetRevaluation) : Prop where
  fairValue_eq : revaluation.fairValue = column revalued.fairValue
  carryingAmount_eq : revaluation.carryingAmountBefore = revalued.carryingAmount
  carrying_column : AtScale 6 revalued.carryingAmount
  total_eq : revaluation.split.total = revalued.change
  surplus_nonneg : 0 ≤ revaluation.surplusToEquity
  deficit_nonneg : 0 ≤ revaluation.deficitToPl
  surplus_column : AtScale 6 revaluation.surplusToEquity
  deficit_column : AtScale 6 revaluation.deficitToPl

structure RowsHold (events : List Revalued) (revaluations : List AssetRevaluation) : Prop where
  splits : Splits (events.map Revalued.change) (revaluations.map AssetRevaluation.split)
  records : List.Forall₂ Records events revaluations

section Steps

variable {events : List Revalued} {s s' : AssetRegister} {assetId revaluationId userId : UUID}
  {input : RevaluationInput} {asset : Asset} {revaluations : List AssetRevaluation}

theorem gains_split : gains (revaluations.map AssetRevaluation.split) =
    (revaluations.map AssetRevaluation.surplusToEquity).sum := by
  rw [gains, List.map_map]
  rfl

theorem losses_split : losses (revaluations.map AssetRevaluation.split) =
    (revaluations.map AssetRevaluation.deficitToPl).sum := by
  rw [losses, List.map_map]
  rfl

theorem RowsHold.sums (h : RowsHold events revaluations) :
    (0 ≤ (revaluations.map AssetRevaluation.surplusToEquity).sum ∧
      AtScale 6 (revaluations.map AssetRevaluation.surplusToEquity).sum) ∧
    0 ≤ (revaluations.map AssetRevaluation.deficitToPl).sum ∧
      AtScale 6 (revaluations.map AssetRevaluation.deficitToPl).sum := by
  have hrow : ∀ revaluation ∈ revaluations, ∃ revalued, Records revalued revaluation := by
    intro revaluation hmem
    obtain ⟨revalued, -, hrecords⟩ := Related.exists_of_forall₂ h.records hmem
    exact ⟨revalued, hrecords⟩
  refine ⟨⟨List.sum_nonneg ?_, atScale_sum ?_⟩, List.sum_nonneg ?_, atScale_sum ?_⟩
  all_goals
    intro amount hamount
    obtain ⟨revaluation, hmem, rfl⟩ := List.mem_map.mp hamount
    obtain ⟨revalued, hrecords⟩ := hrow revaluation hmem
  · exact hrecords.surplus_nonneg
  · exact hrecords.surplus_column
  · exact hrecords.deficit_nonneg
  · exact hrecords.deficit_column

theorem split_nonneg {S D x : ℚ} :
    0 ≤ (Reversals.split S D x).gain ∧ 0 ≤ (Reversals.split S D x).loss := by
  rw [Reversals.split]
  split_ifs with hx
  · exact ⟨sub_nonneg.mpr (min_le_left _ _), le_rfl⟩
  · exact ⟨le_rfl, sub_nonneg.mpr (min_le_left _ _)⟩

/-- **A new row** keeps what the rows hold. -/
theorem RowsHold.concat (h : RowsHold events revaluations) (input : RevaluationInput) (asset :
    Asset)
    (createdByUserId : UUID) :
    RowsHold (events ++ [⟨input.fairValue, asset.netBookValue⟩]) (revaluations ++ [input.toRow asset
      (recognize (revaluations.map AssetRevaluation.surplusToEquity).sum
        (revaluations.map AssetRevaluation.deficitToPl).sum
        (input.fairValue - asset.netBookValue)) createdByUserId]) := by
  obtain ⟨⟨hS, hS'⟩, hD, hD'⟩ := h.sums
  have hrow := split_toRow hS hD hS' hD' input asset createdByUserId
  constructor
  · rw [List.map_append, List.map_append, List.map_singleton, List.map_singleton, hrow,
      ← gains_split, ← losses_split]
    exact h.splits.snoc _
  · refine List.rel_append h.records (List.Forall₂.cons ?_ List.Forall₂.nil)
    have hnonneg := split_nonneg (S := (revaluations.map AssetRevaluation.surplusToEquity).sum)
      (D := (revaluations.map AssetRevaluation.deficitToPl).sum)
      (x := column (input.fairValue - asset.netBookValue))
    rw [← hrow] at hnonneg
    exact
      { fairValue_eq := rfl
        carryingAmount_eq := rfl
        carrying_column := asset.book_column
        total_eq := by rw [hrow, total_split, Revalued.change]
        surplus_nonneg := hnonneg.1
        deficit_nonneg := hnonneg.2
        surplus_column := atScale_halfUp 6 _
        deficit_column := atScale_halfUp 6 _ }

theorem priorRevaluations_eq {revaluationDate : Date}
    (hlater : ∀ revaluation ∈ revaluationsOf s assetId,
      revaluation.revaluationDate < revaluationDate) :
    priorRevaluations s assetId revaluationDate = revaluationsOf s assetId := by
  rw [priorRevaluations, revaluationsOf]
  refine congrArg (List.map Stored.row) (List.filter_congr fun r hr => ?_)
  refine decide_eq_decide.mpr (and_iff_left_of_imp fun hasset => ?_)
  refine hlater r.row (List.mem_map.mpr ⟨r, ?_, rfl⟩)
  exact mem_select.mpr ⟨get?_of_mem hr, decide_eq_true hasset⟩

theorem revaluationsOf_insert {revaluation : AssetRevaluation}
    (hasset : revaluation.assetId = assetId) :
    revaluationsOf { s with revaluations := s.revaluations.insert revaluation } assetId =
      revaluationsOf s assetId ++ [revaluation] := by
  rw [revaluationsOf, select_insert, if_pos (decide_eq_true hasset), List.map_append]
  rfl

theorem RowsHold.approve {assets : Table Asset} (h : RowsHold events (revaluationsOf s assetId)) :
    RowsHold events (revaluationsOf { s with
      revaluations := s.revaluations.modify revaluationId (·.approved userId)
      assets } assetId) := by
  rw [revaluationsOf] at h ⊢
  rw [select_modify (f := fun r : AssetRevaluation => r.approved userId) fun _ => rfl,
    List.map_map]
  have hsplits := h.splits
  have hrecords := h.records
  rw [List.map_map] at hsplits
  rw [List.forall₂_map_right_iff] at hrecords
  constructor
  · rw [List.map_map]
    convert hsplits using 2
    funext r
    simp only [Function.comp_apply]
    split_ifs <;> rfl
  · rw [List.forall₂_map_right_iff]
    refine hrecords.imp fun revalued r hrecord => ?_
    simp only [Function.comp_apply]
    split_ifs
    · exact ⟨hrecord.1, hrecord.2, hrecord.3, hrecord.4, hrecord.5, hrecord.6, hrecord.7,
        hrecord.8⟩
    · exact hrecord

/-- **What the rows of a history hold.** -/
theorem RevaluationHistory.holds (h : RevaluationHistory assetId events s) :
    RowsHold events (revaluationsOf s assetId) := by
  induction h with
  | start hnone =>
    rw [hnone]
    exact ⟨Splits.nil, List.Forall₂.nil⟩
  | @created events s s' org input userId revaluationId asset _ hinput hasset hlater _
      hcall ih =>
    subst hinput
    obtain ⟨asset', hget, rfl⟩ := createRevaluation_eq_ok hcall
    obtain rfl := Option.mem_unique hasset hget
    rw [priorRevaluations_eq hlater]
    have hnew := ih.concat input asset userId
    exact (congrArg (RowsHold _) (revaluationsOf_insert rfl)).mpr hnew
  | approved _ hcall ih =>
    obtain ⟨revaluation, -, rfl⟩ := approveRevaluation_eq_ok hcall
    exact ih.approve
  | other _ hkept ih =>
    rw [hkept]
    exact ih

end Steps

/-! ### The result -/

section Standard

variable {events : List Revalued} {revaluations : List AssetRevaluation}

theorem gainsLeft_split : gainsLeft (revaluations.map AssetRevaluation.split) =
    runningSurplus revaluations := by
  rw [gainsLeft, runningSurplus, List.map_map]
  rfl

theorem lossesLeft_split : lossesLeft (revaluations.map AssetRevaluation.split) =
    runningDeficit revaluations := by
  rw [lossesLeft, runningDeficit, List.map_map]
  rfl

theorem alwaysSound_split_iff : AlwaysSound (revaluations.map AssetRevaluation.split) ↔
    ∀ earlier, earlier <+: revaluations →
      0 ≤ runningSurplus earlier ∧ 0 ≤ runningDeficit earlier := by
  constructor
  · intro h earlier hinitial
    have hsound := h (earlier.map AssetRevaluation.split) (hinitial.map _)
    rw [← gainsLeft_split, ← lossesLeft_split]
    exact ⟨hsound.gains_nonneg, hsound.losses_nonneg⟩
  · intro h l hinitial
    obtain ⟨earlier, hearlier, rfl⟩ := List.prefix_map_iff.mp hinitial
    obtain ⟨hsurplus, hdeficit⟩ := h earlier hearlier
    rw [← gainsLeft_split] at hsurplus
    rw [← lossesLeft_split] at hdeficit
    exact ⟨hsurplus, hdeficit⟩

theorem Records.recognized_iff {revalued : Revalued} {revaluation : AssetRevaluation}
    (h : Records revalued revaluation) :
    revaluation.surplusToEquity + revaluation.priorDeficitReversed - revaluation.deficitToPl -
        revaluation.priorSurplusReversed =
      revaluation.fairValue - revaluation.carryingAmountBefore ↔ ¬ revalued.RoundsApart := by
  rw [h.fairValue_eq, h.carryingAmount_eq, ← column_sub_eq_iff h.carrying_column]
  have htotal := h.total_eq
  rw [Split.total, Revalued.change] at htotal
  rw [← htotal]
  exact Iff.rfl

/-- **The revaluations of an asset follow the standard** if and only if each change takes the value
back to where it was not revalued at most, or the value has never come back from that side before,
and no fair value is a tie between zero and the carrying amount. -/
theorem followsStandard_iff {assetId : UUID} {s : AssetRegister}
    (h : RevaluationHistory assetId events s) :
    FollowsStandard (revaluationsOf s assetId) ↔
      AllFit (events.map Revalued.change) ∧ ∀ revalued ∈ events, ¬ revalued.RoundsApart := by
  obtain ⟨hsplits, hrecords⟩ := h.holds
  have hsound := alwaysSound_split_iff.symm.trans hsplits.alwaysSound_iff.1
  constructor
  · intro hfollows
    refine ⟨hsound.mp fun earlier hinitial => ⟨hfollows.surplus_nonneg earlier hinitial,
      hfollows.deficit_nonneg earlier hinitial⟩, fun revalued hmem => ?_⟩
    obtain ⟨revaluation, hrow, hrecord⟩ := Related.exists_of_forall₂_left hrecords hmem
    exact hrecord.recognized_iff.mp (hfollows.recognized revaluation hrow)
  · rintro ⟨hfit, happart⟩
    have hnonneg := hsound.mpr hfit
    constructor
    · exact fun earlier hinitial => (hnonneg earlier hinitial).1
    · exact fun earlier hinitial => (hnonneg earlier hinitial).2
    · intro earlier hinitial _
      rw [← gainsLeft_split, ← lossesLeft_split]
      exact hsplits.not_both hfit _ (hinitial.map _)
    · intro revaluation hrow
      obtain ⟨revalued, hmem, hrecord⟩ := Related.exists_of_forall₂ hrecords hrow
      exact hrecord.recognized_iff.mpr (happart revalued hmem)

end Standard

def valuedAsset : Asset where
  organizationId := 1
  assetNumber := "FA-0007"
  categoryId := 0
  depreciationMethod := .straightLine
  acquisitionCost := 1000
  residualValue := 0
  accumulatedDepreciation := 0
  netBookValue := 1000
  usefulLifeMonths := 60
  remainingLifeMonths := 60
  depreciationStartDate := none
  status := .inUse
  residual_column := nothing_column
  accumulated_column := nothing_column
  book_column := ⟨1000000000, by norm_num⟩

def valuedRegister : AssetRegister where
  categories := Table.empty.insert ⟨30, 31⟩
  assets := Table.empty.insert valuedAsset
  runs := Table.empty
  schedules := Table.empty
  policies := Table.empty.insert
    { organizationId := 1
      depreciationMethod := .straightLine
      usefulLifeMonths := 60
      assetAccountId := 32
      gainLossDisposalAccountId := 33
      revaluationModelAllowed := true }
  revaluations := Table.empty
  disposals := Table.empty

def riseOfHundred : RevaluationInput := ⟨0, ⟨2023, 6, 30, by decide⟩, 1100⟩

/-- And one back to 1000. -/
def fallOfHundred : RevaluationInput := ⟨0, ⟨2023, 12, 31, by decide⟩, 1000⟩

def afterRise : AssetRegister :=
  commit (approveRevaluation 1 0 2) (commit (createRevaluation 1 riseOfHundred 1) valuedRegister)

def afterFall : AssetRegister :=
  commit (approveRevaluation 1 1 2) (commit (createRevaluation 1 fallOfHundred 1) afterRise)

theorem RevaluationHistory.revalued {assetId : UUID} {events : List Revalued} {s : AssetRegister}
    {carryingAmount : ℚ} (h : RevaluationHistory assetId events s) (input : RevaluationInput)
    (org userId revaluationId otherUserId : UUID) (hinput : input.assetId = assetId)
    (hasset : (s.assets.get? assetId).map Asset.netBookValue = some carryingAmount)
    (hready : ∀ revaluation ∈ revaluationsOf s assetId,
      revaluation.revaluationDate < input.revaluationDate ∧ revaluation.approvedByUserId.isSome)
    (hcreate : returns (createRevaluation org input userId) s = true)
    (happrove : returns (approveRevaluation org revaluationId otherUserId)
      (commit (createRevaluation org input userId) s) = true) :
    RevaluationHistory assetId (events ++ [⟨input.fairValue, carryingAmount⟩])
      (commit (approveRevaluation org revaluationId otherUserId)
        (commit (createRevaluation org input userId) s)) := by
  obtain ⟨asset, hget, rfl⟩ := Option.map_eq_some_iff.mp hasset
  obtain ⟨_, hcreated⟩ := ok_of_returns hcreate
  obtain ⟨_, happroved⟩ := ok_of_returns happrove
  exact (h.created hinput hget (fun r hr => (hready r hr).1) (fun r hr => (hready r hr).2)
    hcreated).approved happroved

theorem history_afterFall : RevaluationHistory 0 [⟨1100, 1000⟩, ⟨1000, 1100⟩] afterFall := by
  have hstart : RevaluationHistory 0 [] valuedRegister := .start (by decide +kernel)
  have hrise : RevaluationHistory 0 [⟨1100, 1000⟩] afterRise :=
    hstart.revalued riseOfHundred 1 1 0 2 rfl (by decide +kernel)
      (by decide +kernel) (by decide +kernel) (by decide +kernel)
  exact hrise.revalued fallOfHundred 1 1 1 2 rfl (by decide +kernel)
    (by decide +kernel) (by decide +kernel) (by decide +kernel)

/-- A value that rises and comes back. -/
theorem followsStandard_iff_sample : FollowsStandard (revaluationsOf afterFall 0) := by
  refine (followsStandard_iff history_afterFall).mpr ⟨?_, ?_⟩
  · have hchanges : [(⟨1100, 1000⟩ : Revalued), ⟨1000, 1100⟩].map Revalued.change =
        ([] ++ [100]) ++ [-100] := by
      decide +kernel
    rw [hchanges, allFit_concat, allFit_concat]
    refine ⟨⟨fun ys y h => absurd (List.prefix_nil.mp h) (by simp), ?_⟩, ?_⟩
    · norm_num [Fits, position]
    · norm_num [Fits, position, Position.after]
  · intro revalued hmem
    have hscale : AtScale 6 revalued.fairValue := by
      rcases List.mem_pair.mp hmem with rfl | rfl
      · exact ⟨1100000000, by norm_num⟩
      · exact ⟨1000000000, by norm_num⟩
    exact fun happart => not_tie_of_atScale hscale happart.1

/-- A surplus that was reversed is reversed again when the value falls further. -/
theorem surplus_reversed_twice : ¬ ∀ (assetId : UUID) (events : List Revalued)
    (s : AssetRegister), RevaluationHistory assetId events s →
      FollowsStandard (revaluationsOf s assetId) := by
  intro h
  have hready : returns (createRevaluation 1 ⟨0, ⟨2024, 6, 30, by decide⟩, 950⟩ 1) afterFall =
    true := by decide +kernel
  obtain ⟨_, hcreated⟩ := ok_of_returns hready
  obtain ⟨asset, hget⟩ := Option.isSome_iff_exists.mp
    (by decide +kernel : (afterFall.assets.get? 0).isSome = true)
  have hhistory := history_afterFall.created rfl hget (by decide +kernel) (by decide +kernel)
    hcreated
  have hnonneg := (h 0 _ _ hhistory).surplus_nonneg _ List.prefix_rfl
  have hsurplus : runningSurplus (revaluationsOf (commit (createRevaluation 1
      ⟨0, ⟨2024, 6, 30, by decide⟩, 950⟩ 1) afterFall) 0) = -50 := by
    decide +kernel
  rw [hsurplus] at hnonneg
  norm_num at hnonneg

end DotmacErp.Depreciation
