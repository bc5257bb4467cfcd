import DotmacErp.GL.PeriodControl

/-!
# Overlapping periods

Three routines create periods and one of them looks: `create_period` refuses a normal period
that shares a date with another, `create_year_with_periods` and the on-demand month do not ask.
The periods a year generates follow one another and never overlap among themselves
(`generatePeriods_disjoint`), so an overlap needs an older period: another year over the same
dates, or a configured period that ends or starts within the month created on demand.

`CreatesDisjoint` is the condition on a call under which what it creates is clear of the normal
periods already there. It asks of the two other creators what `create_period` checks by itself.
-/

namespace DotmacErp

open Calendar Relational Session PeriodGuardService

variable {s s' t : Db} {op : Operation} {org k : UUID} {p q : FiscalPeriod}
  {periods : Table FiscalPeriod}

/-! ### Overlap -/

def FiscalPeriod.Overlaps (p q : FiscalPeriod) : Prop := ∃ d, p.Covers d ∧ q.Covers d

theorem overlaps_iff :
    p.Overlaps q ↔ max p.startDate q.startDate ≤ min p.endDate q.endDate := by
  constructor
  · rintro ⟨d, ⟨hps, hpe⟩, hqs, hqe⟩
    exact (max_le hps hqs).trans (le_min hpe hqe)
  · intro h
    have hp := (le_max_left p.startDate q.startDate)
    have hq := (le_max_right p.startDate q.startDate)
    exact ⟨max p.startDate q.startDate, ⟨hp, h.trans (min_le_left _ _)⟩,
      hq, h.trans (min_le_right _ _)⟩

instance (p q : FiscalPeriod) : Decidable (p.Overlaps q) := decidable_of_iff _ overlaps_iff.symm

theorem FiscalPeriod.Overlaps.symm (h : p.Overlaps q) : q.Overlaps p := by
  obtain ⟨d, hp, hq⟩ := h
  exact ⟨d, hq, hp⟩

def ClearOf (periods : Table FiscalPeriod) (q : FiscalPeriod) : Prop :=
  ∀ k p, periods.get? k = some p → p.organizationId = q.organizationId → p.Normal →
    ¬ p.Overlaps q

instance (periods : Table FiscalPeriod) (q : FiscalPeriod) : Decidable (ClearOf periods q) :=
  decidable_of_iff (∀ r ∈ periods.rows, r.row.organizationId = q.organizationId → r.row.Normal →
      ¬ r.row.Overlaps q) (by
    constructor
    · intro h k p hp
      exact h ⟨k, p⟩ (Table.get?_eq_some.mp hp)
    · intro h r hr
      exact h r.id r.row (Table.get?_of_mem hr))

/-- No two normal periods of an organization overlap. -/
def NoOverlap (periods : Table FiscalPeriod) : Prop :=
  ∀ k p k' q, periods.get? k = some p → periods.get? k' = some q → k ≠ k' →
    p.organizationId = q.organizationId → p.Normal → q.Normal → ¬ p.Overlaps q

theorem noOverlap_empty : NoOverlap .empty := fun _ _ _ _ h => by simp at h

theorem NoOverlap.insert (h : NoOverlap periods) (hclear : q.Normal → ClearOf periods q) :
    NoOverlap (periods.insert q) := by
  intro k₁ p₁ k₂ p₂ h₁ h₂ hne horg hn₁ hn₂
  rw [Table.get?_insert] at h₁ h₂
  split_ifs at h₁ h₂ with hk₁ hk₂ hk₂
  · exact absurd (hk₁.trans hk₂.symm) hne
  · obtain rfl : q = p₁ := Option.some.inj h₁
    exact fun hover => hclear hn₁ k₂ p₂ h₂ horg.symm hn₂ hover.symm
  · obtain rfl : q = p₂ := Option.some.inj h₂
    exact hclear hn₂ k₁ p₁ h₁ horg hn₁
  · exact h k₁ p₁ k₂ p₂ h₁ h₂ hne horg hn₁ hn₂

theorem NoOverlap.foldl_insert {added : List FiscalPeriod} (h : NoOverlap periods)
    (hclear : ∀ q ∈ added, ClearOf periods q) (hpair : added.Pairwise fun p q => ¬ p.Overlaps q) :
    NoOverlap (added.foldl Table.insert periods) := by
  induction added generalizing periods with
  | nil => exact h
  | cons q rest ih =>
    obtain ⟨hhead, htail⟩ := List.pairwise_cons.mp hpair
    refine ih (h.insert fun _ => hclear q List.mem_cons_self) (fun r hr => ?_) htail
    intro k p hp horg hn
    rw [Table.get?_insert] at hp
    split_ifs at hp
    · obtain rfl : q = p := Option.some.inj hp
      exact hhead r hr
    · exact hclear r (List.mem_cons_of_mem q hr) k p hp horg hn

def KeepsDates (f : FiscalPeriod → FiscalPeriod) : Prop :=
  ∀ p, (f p).organizationId = p.organizationId ∧ (f p).startDate = p.startDate ∧
    (f p).endDate = p.endDate ∧ (f p).isAdjustmentPeriod = p.isAdjustmentPeriod ∧
    (f p).isClosingPeriod = p.isClosingPeriod

theorem NoOverlap.modify {f : FiscalPeriod → FiscalPeriod} (h : NoOverlap periods)
    (hf : KeepsDates f) (k : UUID) : NoOverlap (periods.modify k f) := by
  have hold : ∀ k' p', (periods.modify k f).get? k' = some p' → ∃ p, periods.get? k' = some p ∧
      p'.organizationId = p.organizationId ∧ (p'.Normal → p.Normal) ∧
      ∀ d, p'.Covers d → p.Covers d := by
    intro k' p' hp'
    rw [Table.get?_modify] at hp'
    split_ifs at hp' with hk
    · obtain ⟨p, hp, rfl⟩ := Option.map_eq_some_iff.mp hp'
      obtain ⟨horg, hstart, hend, hadjustment, hclosing⟩ := hf p
      refine ⟨p, hp, horg, fun hn => ?_, fun d hd => ?_⟩
      · exact ⟨hadjustment ▸ hn.1, hclosing ▸ hn.2⟩
      · exact ⟨hstart ▸ hd.1, hend ▸ hd.2⟩
    · exact ⟨p', hp', rfl, id, fun _ => id⟩
  intro k₁ p₁ k₂ p₂ h₁ h₂ hne horg hn₁ hn₂ hover
  obtain ⟨r₁, hr₁, horg₁, hnormal₁, hcovers₁⟩ := hold k₁ p₁ h₁
  obtain ⟨r₂, hr₂, horg₂, hnormal₂, hcovers₂⟩ := hold k₂ p₂ h₂
  obtain ⟨d, hd₁, hd₂⟩ := hover
  have hsame : r₁.organizationId = r₂.organizationId := by rw [← horg₁, ← horg₂, horg]
  exact h k₁ r₁ k₂ r₂ hr₁ hr₂ hne hsame (hnormal₁ hn₁) (hnormal₂ hn₂)
    ⟨d, hcovers₁ d hd₁, hcovers₂ d hd₂⟩

/-! ### The periods of a year -/

namespace FiscalYearService

variable {y : UUID} {e d : Date} {count i : ℕ}

theorem mem_generatePeriods (h : q ∈ generatePeriods org y e count i d) :
    q.organizationId = org ∧ q.Normal ∧ d ≤ q.startDate := by
  induction count generalizing i d with
  | zero => simp [generatePeriods] at h
  | succ count ih =>
    rw [generatePeriods, List.mem_cons] at h
    rcases h with rfl | h
    · exact ⟨rfl, ⟨rfl, rfl⟩, le_rfl⟩
    · split_ifs at h with hlast
      · simp at h
      · obtain ⟨horg, hnormal, hstart⟩ := ih h
        refine ⟨horg, hnormal, le_trans ?_ hstart⟩
        -- a month that is not the last one was not clipped, so it ends after it starts
        have hend : min (d.addMonths 1).pred e < e := Date.succ_le_iff.mp (not_lt.mp hlast)
        have hmonth : min (d.addMonths 1).pred e = (d.addMonths 1).pred := by
          refine min_eq_left (le_of_lt ?_)
          exact (min_lt_iff.mp hend).resolve_right (lt_irrefl e)
        have hle : d ≤ (d.addMonths 1).pred := Date.le_pred_of_lt (Date.lt_addMonths one_pos d)
        rw [hmonth]
        exact hle.trans (Date.lt_succ _).le

/-- **A generated year is disjoint**: each period starts after the one before has ended. -/
theorem generatePeriods_disjoint :
    (generatePeriods org y e count i d).Pairwise fun p q => ¬ p.Overlaps q := by
  induction count generalizing i d with
  | zero => exact .nil
  | succ count ih =>
    rw [generatePeriods]
    refine List.pairwise_cons.mpr ⟨fun q hq => ?_, ?_⟩
    · split_ifs at hq
      · simp at hq
      · obtain ⟨_, _, hstart⟩ := mem_generatePeriods hq
        rintro ⟨d', hd', hqd'⟩
        have hlt : d' < q.startDate := (Date.lt_succ_iff.mpr hd'.2).trans_le hstart
        exact absurd hqd'.1 (not_le.mpr hlt)
    · split_ifs
      · exact .nil
      · exact ih

end FiscalYearService

/-! ### Calls that create periods -/

def FreeMonth (s : Db) (org : UUID) (d : Date) : Prop :=
  coveringPeriods s org d = [] → ClearOf s.fiscalPeriods (onDemandPeriod org 0 d)

/-- The periods a call creates are clear of those that are there. -/
def CreatesDisjoint (s : Db) : Operation → Prop
  | .createYearWithPeriods org input count =>
    ∀ q ∈ FiscalYearService.generatePeriods org s.fiscalYears.next input.endDate count 0
      input.startDate, ClearOf s.fiscalPeriods q
  | .ensurePeriodExists org d => FreeMonth s org d
  | op => ∀ g, op.gate s = some g → FreeMonth s g.organizationId g.postingDate

theorem FreeMonth.insert {d : Date} (h : FreeMonth s org d) (hs : NoOverlap s.fiscalPeriods)
    (hnone : coveringPeriods s org d = []) (y : UUID) :
    NoOverlap (s.fiscalPeriods.insert (onDemandPeriod org y d)) := by
  refine hs.insert fun _ k p hp horg hn hover => ?_
  exact h hnone k p hp horg hn hover

theorem NoOverlap.transition {sources : List PeriodStatus} {refusal : PeriodStatus → String}
    {f : FiscalPeriod → FiscalPeriod} {r : FiscalPeriod} (hs : NoOverlap s.fiscalPeriods)
    (h : transition org k sources refusal f s = .ok r s') (hf : KeepsDates f) :
    NoOverlap s'.fiscalPeriods := by
  obtain ⟨_, _, _, _, _, hs'⟩ := transition_eq_ok.mp h
  rw [hs']
  exact hs.modify hf k

/-- **A call creates no overlap** when what it creates is clear of what is there;
`create_period` makes sure of it by itself. -/
theorem Operation.run_noOverlap {u : PUnit} (hs : NoOverlap s.fiscalPeriods)
    (hclear : CreatesDisjoint s op) (h : op.run s = .ok u s') : NoOverlap s'.fiscalPeriods := by
  by_cases hop : op.onCalendar = true
  swap
  · rcases Operation.run_gate hop h with ⟨hperiods, _⟩ | ⟨g, hg, hpassed⟩
    · rwa [hperiods]
    · have hfree : FreeMonth s g.organizationId g.postingDate := by
        cases op with
        | createYearWithPeriods => exact absurd rfl hop
        | ensurePeriodExists => exact absurd rfl hop
        | _ => exact hclear g hg
      rcases hpassed.grows with hsame | ⟨hnone, y, hinsert⟩
      · rwa [hsame]
      · rw [hinsert]
        exact hfree.insert hs hnone y
  have hkeeps : ∀ {f : FiscalPeriod → FiscalPeriod}, (∀ p, f p = { p with
      status := (f p).status
      softClosedByUserId := (f p).softClosedByUserId
      hardClosedByUserId := (f p).hardClosedByUserId
      reopenCount := (f p).reopenCount
      lastReopenSessionId := (f p).lastReopenSessionId }) → KeepsDates f := by
    intro f hf p
    rw [hf p]
    exact ⟨rfl, rfl, rfl, rfl, rfl⟩
  cases op with
  | createPeriod org input =>
    obtain ⟨_, h⟩ := discard_eq_ok.mp h
    obtain ⟨_, _, hcheck, _, _, hs'⟩ := FiscalPeriodService.createPeriod_eq_ok.mp h
    rw [hs']
    refine hs.insert fun hnormal k p hp horg hn hover => ?_
    obtain ⟨d, hd, hnew⟩ := hover
    have hstart : p.startDate ≤ input.endDate := hd.1.trans hnew.2
    have hend : input.startDate ≤ p.endDate := hnew.1.trans hd.2
    exact hcheck hnormal k p hp horg hn hstart hend
  | createYearWithPeriods org input count =>
    obtain ⟨yearId, h⟩ := discard_eq_ok.mp h
    obtain ⟨years, hs', hyear⟩ := FiscalYearService.createYearWithPeriods_eq_ok h
    rw [hs', hyear]
    exact hs.foldl_insert hclear FiscalYearService.generatePeriods_disjoint
  | ensurePeriodExists org d =>
    obtain ⟨_, h⟩ := discard_eq_ok.mp h
    rcases ensurePeriodExists_eq_ok h with ⟨_, hs'⟩ | ⟨hnone, y, _, hp, hs'⟩
    · rwa [hs']
    · rw [hs', hp]
      exact FreeMonth.insert hclear hs hnone y
  | softClosePeriod =>
    obtain ⟨_, h⟩ := discard_eq_ok.mp h
    obtain ⟨_, _, _, _, _, _, hs'⟩ := FiscalPeriodService.softClosePeriod_eq_ok.mp h
    rw [hs']
    exact hs.modify (hkeeps fun _ => rfl) _
  | closeReopenSession =>
    obtain ⟨_, h⟩ := discard_eq_ok.mp h
    obtain ⟨_, _, _, _, _, hs'⟩ := closeReopenSession_eq_ok h
    rw [hs']
    exact hs.modify (hkeeps fun _ => rfl) _
  | openPeriod | hardClosePeriod | reopenPeriod | guardOpenPeriod | guardSoftClosePeriod
  | guardHardClosePeriod | guardReopenPeriod =>
    obtain ⟨_, h⟩ := discard_eq_ok.mp h
    exact hs.transition h (hkeeps fun _ => rfl)
  | _ => exact absurd hop Bool.false_ne_true

/-- **Normal periods do not overlap** in any state of a run all of whose calls create periods
clear of the normal ones already there, from a calendar without overlaps. -/
theorem normal_periods_disjoint (hs : NoOverlap s.fiscalPeriods)
    (hrun : ledgerSystem.RunWithin CreatesDisjoint s t) : NoOverlap t.fiscalPeriods := by
  refine hrun.preserves (P := fun s => NoOverlap s.fiscalPeriods)
    (fun s op s' hs hclear hstep => ?_) hs
  obtain rfl : s' = commit op.run s := hstep
  exact commit_induction (P := fun s => NoOverlap s.fiscalPeriods) hs fun _ _ hrun =>
    Operation.run_noOverlap hs hclear hrun

/-! ### A half month -/

def lateJanuary : Date := ⟨2024, 1, 20, by decide⟩

def halfMonthCalls : List Operation :=
  [.createYearWithPeriods 0
      { yearCode := "FY24", yearName := "Fiscal Year 24", startDate := january
        endDate := january.monthEnd } 0,
    .createPeriod 0
      { fiscalYearId := 0, periodNumber := 1, periodName := "January I", startDate := january
        endDate := ⟨2024, 1, 15, by decide⟩ }]

/-- The month created on demand for the twentieth overlaps the configured half month. -/
theorem period_overlap_on_demand :
    ¬ ∀ ops : List Operation, (∀ op ∈ ops, (∃ org input, op = .createPeriod org input) ∨
      (∃ org input count, op = .createYearWithPeriods org input count) ∨
      ∃ org d, op = .ensurePeriodExists org d) →
      NoOverlap (Db.after {} ops).fiscalPeriods := by
  intro h
  have hnone := h (halfMonthCalls ++ [.ensurePeriodExists 0 lateJanuary]) (by
    simp [halfMonthCalls])
  have hhalf : ((Db.after {} (halfMonthCalls ++
      [.ensurePeriodExists 0 lateJanuary])).fiscalPeriods.get? 0).any (fun p =>
        p.organizationId = 0 ∧ p.Normal ∧ p.Covers january) = true := by decide +kernel
  have hmonth : ((Db.after {} (halfMonthCalls ++
      [.ensurePeriodExists 0 lateJanuary])).fiscalPeriods.get? 1).any (fun p =>
        p.organizationId = 0 ∧ p.Normal ∧ p.Covers january) = true := by decide +kernel
  obtain ⟨p, hp, hpred⟩ := (Option.any_eq_true _ _).mp hhalf
  obtain ⟨q, hq, hqred⟩ := (Option.any_eq_true _ _).mp hmonth
  obtain ⟨horg, hn, hd⟩ := of_decide_eq_true hpred
  obtain ⟨horg', hn', hd'⟩ := of_decide_eq_true hqred
  exact hnone 0 p 1 q hp hq (by decide) (horg.trans horg'.symm) hn hn' ⟨january, hd, hd'⟩

def quarterYear : Operation :=
  .createYearWithPeriods 0
    { yearCode := "Q1", yearName := "Quarter 1", startDate := january
      endDate := ⟨2024, 3, 31, by decide⟩ } 3

/-- The months of a quarter, and an April on demand after them, overlap nowhere. -/
theorem normal_periods_disjoint_sample :
    NoOverlap (Db.after {} [quarterYear, .ensurePeriodExists 0
      ⟨2024, 4, 20, by decide⟩]).fiscalPeriods := by
  have happril : ClearOf (commit quarterYear.run {}).fiscalPeriods
      (onDemandPeriod 0 0 ⟨2024, 4, 20, by decide⟩) := by decide +kernel
  refine normal_periods_disjoint noOverlap_empty (runWithin_after ⟨?_, fun _ => happril, trivial⟩)
  intro q _ k p hp
  simp at hp

end DotmacErp
