import DotmacErp.Consolidation.Eliminations

/-!
# Each matched balance is eliminated once

An entry covers both sides of a pair and a type. After a period is matched, and several runs have
generated their eliminations, each matched balance is covered by exactly one entry if and only if
its entities are both active, its pair has as many matched types as there were runs, and the first
matched balances of the pair, as many as there were runs, are of distinct types
(`eliminated_once_iff`). For a single run: every pair has one matched type.

With two types in a pair, one run leaves the second out (`second_type_is_left_out`).
-/

namespace DotmacErp.Consolidation

open Leaders Relational Session Table IntercompanyService

variable {s s' s₁ : ConsolidationStore} {groupId periodId runId : UUID} {tolerance : ℚ}

/-! ### Statement -/

/-- The balances of a period as they are recorded: not matched, not eliminated, and no entry is for
one of them. -/
structure Recorded (s : ConsolidationStore) (periodId : UUID) : Prop where
  paired : WellPaired s.balances
  fresh : s.balances.All fun b => b.fiscalPeriodId = periodId →
    b.isMatched = false ∧ b.isEliminated = false
  uncovered : ∀ e ∈ s.eliminations.rows, ∀ k ∈ e.row.sourceBalanceId, ∀ b ∈ s.balances.get? k,
    b.fiscalPeriodId ≠ periodId

def CoversFrom (t : Table IntercompanyBalance) (b : IntercompanyBalance) (source : Option UUID) :
    Prop :=
  ∃ k ∈ source, ∃ q ∈ t.get? k, q.fiscalPeriodId = b.fiscalPeriodId ∧ q.pairKey = b.pairKey ∧
    q.balanceType = b.balanceType

instance (t : Table IntercompanyBalance) (b : IntercompanyBalance) :
    DecidablePred (CoversFrom t b) :=
  fun source => inferInstanceAs (Decidable (∃ k ∈ source, ∃ q ∈ t.get? k, _))

def coveringEntries (s : ConsolidationStore) (b : IntercompanyBalance) :
    List (Stored EliminationEntry) :=
  s.eliminations.select fun e => decide (CoversFrom s.balances b e.sourceBalanceId)

def matchedOf (s : ConsolidationStore) (groupId periodId : UUID) (tolerance : ℚ) :
    List (Stored IntercompanyBalance) :=
  s.balances.select fun b =>
    decide (b.fiscalPeriodId = periodId ∧ Matches s groupId tolerance b)

def matchedTypes (s : ConsolidationStore) (groupId periodId : UUID) (tolerance : ℚ)
    (pair : UUID × UUID) : List String :=
  ((matchedOf s groupId periodId tolerance).filter fun r => decide (r.row.pairKey = pair)).map
    fun r => r.row.balanceType

/-- Every pair with matched balances has two active entities and as many matched types as there are
runs, one for each of its first balances. -/
def OneTypeEachRun (s : ConsolidationStore) (groupId periodId : UUID) (tolerance : ℚ) (n : ℕ) :
    Prop :=
  ∀ r ∈ matchedOf s groupId periodId tolerance,
    Live (s.activeEntity groupId) r = true ∧
      ((matchedTypes s groupId periodId tolerance r.row.pairKey).take n).Nodup ∧
      (matchedTypes s groupId periodId tolerance r.row.pairKey).dedup.length = n

instance (s : ConsolidationStore) (groupId periodId : UUID) (tolerance : ℚ) (n : ℕ) :
    Decidable (OneTypeEachRun s groupId periodId tolerance n) :=
  inferInstanceAs (Decidable (∀ r ∈ matchedOf s groupId periodId tolerance, _ ∧ _))

def afterMatchingAndRuns (groupId periodId : UUID) (tolerance : ℚ) (runIds : List UUID)
    (s : ConsolidationStore) : ConsolidationStore :=
  afterEliminations groupId runIds (commit (performMatching groupId periodId tolerance) s)

/-! ### Recording -/

theorem recordBalance_eq_ok {input : IntercompanyBalanceInput} {k : UUID}
    (h : recordBalance groupId input s = .ok k s') : input.fromEntityId ≠ input.toEntityId ∧
      s.balances.at? IntercompanyBalance.identity (newBalance input).identity = none ∧
      s' = { s with balances := s.balances.insert (newBalance input) } := by
  rw [IntercompanyService.recordBalance, get_bind] at h
  obtain ⟨-, h⟩ := refuse_bind.mp h
  obtain ⟨-, h⟩ := refuse_bind.mp h
  obtain ⟨hdistinct, h⟩ := refuse_bind.mp h
  obtain ⟨hnew, h⟩ := refuse_bind.mp h
  obtain ⟨_, s₁, hset, hpure⟩ := bind_eq_ok.mp h
  obtain ⟨-, rfl⟩ := pure_eq_ok.mp hpure
  refine ⟨hdistinct, at?_eq_none.mpr fun i b hb hidentity => hnew ?_, set_eq_ok.mp hset⟩
  exact find?_isSome hb (decide_eq_true hidentity)

/-- **Recording a balance** leaves the balances as recorded. -/
theorem Recorded.recordBalance (h : Recorded s periodId) {input : IntercompanyBalanceInput}
    {k : UUID} (hrecord : recordBalance groupId input s = .ok k s')
    (hissued : ∀ e ∈ s.eliminations.rows, ∀ k ∈ e.row.sourceBalanceId, k < s.balances.next) :
    Recorded s' periodId := by
  obtain ⟨hdistinct, hnone, rfl⟩ := recordBalance_eq_ok hrecord
  refine ⟨⟨h.paired.keyed.insert hnone, h.paired.distinct.insert hdistinct⟩,
    h.fresh.insert fun _ => ⟨rfl, rfl⟩, fun e he k hk b hb => ?_⟩
  rw [get?_insert, if_neg (hissued e he k hk).ne] at hb
  exact h.uncovered e he k hk b hb

def recordAll (groupId : UUID) (inputs : List IntercompanyBalanceInput) (s : ConsolidationStore) :
    ConsolidationStore :=
  inputs.foldl (fun s input => commit (recordBalance groupId input) s) s

/-- **Balances that are recorded** before anything is eliminated. -/
theorem recorded_recordAll {inputs : List IntercompanyBalanceInput}
    (h : Recorded s periodId ∧ s.eliminations.rows = []) :
    Recorded (recordAll groupId inputs s) periodId ∧
      (recordAll groupId inputs s).eliminations.rows = [] := by
  induction inputs generalizing s with
  | nil => exact h
  | cons input inputs ih =>
    refine ih ?_
    refine commit_induction (P := fun s => Recorded s periodId ∧ s.eliminations.rows = []) h
      fun k s' hrecord => ?_
    have hrecorded := h.1.recordBalance hrecord fun e he => by simp [h.2] at he
    obtain ⟨-, -, rfl⟩ := recordBalance_eq_ok hrecord
    exact ⟨hrecorded, h.2⟩

/-! ### Types of a pair -/

theorem mem_matchedOf {r : Stored IntercompanyBalance} :
    r ∈ matchedOf s groupId periodId tolerance ↔ r ∈ s.balances.rows ∧
      r.row.fiscalPeriodId = periodId ∧ Matches s groupId tolerance r.row := by
  rw [matchedOf, mem_select, get?_eq_some, decide_eq_true_iff]

theorem eq_or_eq_of_min_max {a b c d : ℕ} (hmin : min a b = min c d) (hmax : max a b = max c d) :
    (a = c ∧ b = d) ∨ (a = d ∧ b = c) := by
  omega

theorem live_eq_of_pairKey_eq {entity : UUID → Option LegalEntity}
    {r r' : Stored IntercompanyBalance} (h : r.row.pairKey = r'.row.pairKey) :
    Live entity r = Live entity r' := by
  obtain ⟨hmin, hmax⟩ := Prod.mk.inj h
  rcases eq_or_eq_of_min_max hmin hmax with ⟨hfrom, hto⟩ | ⟨hfrom, hto⟩
  · rw [Live, Live, hfrom, hto]
  · rw [Live, Live, hfrom, hto, Bool.and_comm]

theorem two_le_length {α : Type*} {l : List α} {a b : α} (hne : a ≠ b) (ha : a ∈ l) (hb : b ∈ l) :
    2 ≤ l.length := by
  match l, ha, hb with
  | [x], ha, hb =>
    exact absurd ((List.mem_singleton.mp ha).trans (List.mem_singleton.mp hb).symm) hne
  | _ :: _ :: _, _, _ => simp

/-- **Both sides match**: every type of a pair occurs twice. -/
theorem two_le_count_matchedTypes (h : WellPaired s.balances) {pair : UUID × UUID}
    {type : String} (htype : type ∈ matchedTypes s groupId periodId tolerance pair) :
    2 ≤ (matchedTypes s groupId periodId tolerance pair).count type := by
  obtain ⟨r, hr, rfl⟩ := List.mem_map.mp htype
  obtain ⟨hmem, hpair⟩ := List.mem_filter.mp hr
  obtain ⟨hrow, hperiod, hnets, hactive⟩ := mem_matchedOf.mp hmem
  obtain ⟨q, hfind, -⟩ := nets_iff.mp hnets
  obtain ⟨hget, hq⟩ := isReciprocal_of_reciprocal hfind
  have hqmatches : Matches s groupId tolerance q.row :=
    ⟨(h.nets_reciprocal (get?_of_mem hrow) hget hq).mpr hnets,
      (hq.2.1 ▸ hq.2.2.1 ▸ hactive.symm)⟩
  have hqmem : q ∈ (matchedOf s groupId periodId tolerance).filter
      fun r => decide (r.row.pairKey = pair) :=
    List.mem_filter.mpr ⟨mem_matchedOf.mpr ⟨get?_eq_some.mp hget, hq.1.trans hperiod, hqmatches⟩,
      by simpa [hq.pairKey_eq] using hpair⟩
  have hne : r ≠ q := by
    intro heq
    have hfrom := hq.2.1
    rw [← heq] at hfrom
    exact h.distinct r.id r.row (get?_of_mem hrow) hfrom
  rw [matchedTypes, List.count_eq_length_filter, List.filter_map, List.length_map]
  have hboth : ∀ x, x = r ∨ x = q → x ∈ ((matchedOf s groupId periodId tolerance).filter
      fun r => decide (r.row.pairKey = pair)).filter
        ((fun type => type == r.row.balanceType) ∘ fun r => r.row.balanceType) := by
    rintro x (rfl | rfl)
    · exact List.mem_filter.mpr ⟨hr, by simp⟩
    · exact List.mem_filter.mpr ⟨hqmem, by simp [hq.2.2.2]⟩
  exact two_le_length hne (hboth r (.inl rfl)) (hboth q (.inr rfl))

/-! ### Counting entries -/

structure Outcome (s s' : ConsolidationStore) (groupId periodId : UUID) (tolerance : ℚ) (n : ℕ) :
    Prop where
  balances : ∃ f : Stored IntercompanyBalance → IntercompanyBalance,
    s'.balances = s.balances.mapRows f ∧ ∀ r ∈ s.balances.rows,
      (f r).terms = r.row.terms ∧ (r.row.fiscalPeriodId = periodId →
        ((f r).isMatched = true ↔ Matches s groupId tolerance r.row))
  sources : s'.eliminations.rows.map (fun e => e.row.sourceBalanceId) =
    s.eliminations.rows.map (fun e => e.row.sourceBalanceId) ++
      (rounds (fun r => r.row.pairKey) (Live (s.activeEntity groupId))
        ((matchedOf s groupId periodId tolerance).filter fun r =>
          (s.activeEntity groupId r.row.fromEntityId).isSome) n).map fun r => some r.id

theorem Recorded.candidates_eq (h : Recorded s periodId)
    {f : Stored IntercompanyBalance → IntercompanyBalance}
    (hrows : ∀ r ∈ s.balances.rows, (f r).terms = r.row.terms ∧
      (f r).isEliminated = r.row.isEliminated ∧ (r.row.fiscalPeriodId = periodId →
        ((f r).isMatched = true ↔ Matches s groupId tolerance r.row))) :
    candidates { s with balances := s.balances.mapRows f } groupId periodId =
      ((matchedOf s groupId periodId tolerance).filter fun r =>
        (s.activeEntity groupId r.row.fromEntityId).isSome).map fun r => ⟨r.id, f r⟩ := by
  refine (congrArg (List.filter _) (select_ofPeriod fun r hr => (hrows r hr).1)).trans ?_
  rw [List.filter_map, matchedOf, balancesOf]
  refine congrArg _ ?_
  rw [select, select, List.filter_filter, List.filter_filter]
  refine List.filter_congr fun r hr => ?_
  rw [Function.comp_apply]
  by_cases hof : r.row.fiscalPeriodId = periodId
  · obtain ⟨-, heliminated, hmatched⟩ := hrows r hr
    have hfresh := (h.fresh r.id r.row (get?_of_mem hr) hof).2
    rw [Bool.eq_iff_iff]
    simp only [heliminated, hfresh, Bool.not_false, Bool.and_true, Bool.and_eq_true,
      decide_eq_true_iff, hof, true_and, hmatched hof]
    exact And.comm
  · simp [hof]

/-- **Matching, then the runs.** -/
theorem Recorded.outcome (h : Recorded s periodId) {runIds : List UUID}
    (hruns : ∀ runId ∈ runIds, InProgress s groupId periodId runId) :
    Outcome s (afterMatchingAndRuns groupId periodId tolerance runIds s) groupId periodId tolerance
      runIds.length := by
  have hunmatched : ∀ r ∈ s.balances.rows, r.row.fiscalPeriodId = periodId →
      r.row.isMatched = false := fun r hr hperiod => (h.fresh r.id r.row (get?_of_mem hr) hperiod).1
  have hreturns : ∃ results s₁, performMatching groupId periodId tolerance s = .ok results s₁ :=
    ⟨_, _, rfl⟩
  obtain ⟨results, s₁, hmatching⟩ := hreturns
  rw [afterMatchingAndRuns, commit_of_ok hmatching]
  obtain ⟨f, rfl, hrows⟩ := performMatching_eq_ok h.paired hunmatched hmatching
  set s₁ := { s with balances := s.balances.mapRows f } with hs₁
  have heliminates := eliminates_runs (s := s₁) hruns
  obtain ⟨g, hg, hrows'⟩ := heliminates.balances
  refine ⟨⟨fun r => g ⟨r.id, f r⟩, ?_, fun r hr => ?_⟩, ?_⟩
  · rw [hg, hs₁, mapRows_mapRows]
  · obtain ⟨hterms, hmatched, -⟩ := hrows' ⟨r.id, f r⟩ (List.mem_map.mpr ⟨r, hr, rfl⟩)
    refine ⟨hterms.trans (hrows r hr).1, fun hperiod => ?_⟩
    rw [hmatched]
    exact (hrows r hr).2.2 hperiod
  · have hcandidates : candidates s₁ groupId periodId =
        ((matchedOf s groupId periodId tolerance).filter fun r =>
          (s.activeEntity groupId r.row.fromEntityId).isSome).map fun r => ⟨r.id, f r⟩ :=
      h.candidates_eq hrows
    have hrounds := rounds_map (fun r : Stored IntercompanyBalance => r.row.pairKey)
      (fun r => r.row.pairKey) (Live (s.activeEntity groupId)) (Live (s.activeEntity groupId))
      (fun r => ⟨r.id, f r⟩) (m := (matchedOf s groupId periodId tolerance).filter fun r =>
        (s.activeEntity groupId r.row.fromEntityId).isSome)
      (fun r hr x hx heq => row_eq_of_id_eq (mem_matchedOf.mp (List.mem_of_mem_filter hr)).1
        (mem_matchedOf.mp (List.mem_of_mem_filter hx)).1 (Stored.mk.inj heq).1)
      (fun r hr => pairKey_eq_of_terms
        (hrows r (mem_matchedOf.mp (List.mem_of_mem_filter hr)).1).1)
      (fun r hr => live_eq_of_pairKey_eq (pairKey_eq_of_terms
        (hrows r (mem_matchedOf.mp (List.mem_of_mem_filter hr)).1).1)) runIds.length
    have hsources := heliminates.sources
    rw [hcandidates] at hsources
    refine hsources.trans (congrArg _ ?_)
    refine (congrArg (fun l => (l.map Stored.id).map some) hrounds).trans ?_
    rw [List.map_map, List.map_map]
    rfl

/-- **The entries that cover a matched balance**: as many as the first matched balances of its pair
of its type, if its entities are active. -/
theorem Outcome.length_coveringEntries {n : ℕ} (ho : Outcome s s' groupId periodId tolerance n)
    (h : Recorded s periodId) {b : Stored IntercompanyBalance}
    (hb : b ∈ matchedOf s groupId periodId tolerance) :
    (coveringEntries s' b.row).length = if Live (s.activeEntity groupId) b then
      ((matchedTypes s groupId periodId tolerance b.row.pairKey).take n).count b.row.balanceType
      else 0 := by
  obtain ⟨f, hf, hrows⟩ := ho.balances
  obtain ⟨hbrow, hperiod, -⟩ := mem_matchedOf.mp hb
  set taken := rounds (fun r => r.row.pairKey) (Live (s.activeEntity groupId))
    ((matchedOf s groupId periodId tolerance).filter fun r =>
      (s.activeEntity groupId r.row.fromEntityId).isSome) n with htaken
  have hcovers : ∀ k, CoversFrom s'.balances b.row (some k) ↔ ∃ q, s.balances.get? k = some q ∧
      q.fiscalPeriodId = b.row.fiscalPeriodId ∧ q.pairKey = b.row.pairKey ∧
        q.balanceType = b.row.balanceType := by
    intro k
    constructor
    · rintro ⟨k', hk', q', hq', hof, hpair, htype⟩
      obtain rfl := Option.some.inj hk'
      rw [hf, Option.mem_def, get?_mapRows] at hq'
      obtain ⟨q, hq, rfl⟩ := Option.map_eq_some_iff.mp hq'
      have hterms := (hrows ⟨k, q⟩ (get?_eq_some.mp hq)).1
      exact ⟨q, hq, (of_terms_eq hterms IntercompanyBalance.fiscalPeriodId).symm.trans hof,
        (pairKey_eq_of_terms hterms).symm.trans hpair,
        (of_terms_eq hterms IntercompanyBalance.balanceType).symm.trans htype⟩
    · rintro ⟨q, hq, hof, hpair, htype⟩
      have hterms := (hrows ⟨k, q⟩ (get?_eq_some.mp hq)).1
      refine ⟨k, rfl, f ⟨k, q⟩, ?_,
        (of_terms_eq hterms IntercompanyBalance.fiscalPeriodId).trans hof,
        (pairKey_eq_of_terms hterms).trans hpair,
        (of_terms_eq hterms IntercompanyBalance.balanceType).trans htype⟩
      rw [hf, Option.mem_def, get?_mapRows, hq]
      rfl
  have hold : (s.eliminations.rows.map fun e => e.row.sourceBalanceId).countP
      (fun source => decide (CoversFrom s'.balances b.row source)) = 0 := by
    refine List.countP_eq_zero.mpr fun source hsource => ?_
    obtain ⟨e, he, rfl⟩ := List.mem_map.mp hsource
    intro hcovered
    have hcovered := of_decide_eq_true hcovered
    obtain ⟨k, hk, -⟩ := id hcovered
    rw [show e.row.sourceBalanceId = some k from hk, hcovers] at hcovered
    obtain ⟨q, hq, hof, -⟩ := hcovered
    exact h.uncovered e he k hk q hq (hof.trans hperiod)
  have hnew : (taken.map fun r => some r.id).countP
      (fun source => decide (CoversFrom s'.balances b.row source)) =
        ((taken.filter fun r => decide (r.row.pairKey = b.row.pairKey)).map fun r =>
          r.row.balanceType).count b.row.balanceType := by
    rw [List.countP_map, List.count, List.countP_map, List.countP_filter]
    refine List.countP_congr fun r hr => ?_
    obtain ⟨hrrow, hrperiod, -⟩ :=
      mem_matchedOf.mp (List.mem_of_mem_filter (mem_of_mem_rounds hr).1)
    have hcovered : CoversFrom s'.balances b.row (some r.id) ↔
        r.row.pairKey = b.row.pairKey ∧ r.row.balanceType = b.row.balanceType := by
      rw [hcovers, get?_of_mem hrrow]
      simp [hrperiod, hperiod]
    simp [hcovered, and_comm]
  have hclass := filter_rounds (fun r : Stored IntercompanyBalance => r.row.pairKey)
    (Live (s.activeEntity groupId)) (l := (matchedOf s groupId periodId tolerance).filter
      fun r => (s.activeEntity groupId r.row.fromEntityId).isSome)
    (((nodup_ids_select s.balances _).of_map Stored.id).filter _)
    (fun r _ x _ => live_eq_of_pairKey_eq) n b.row.pairKey
  rw [coveringEntries, select, ← List.countP_eq_length_filter]
  have hcount := congrArg (List.countP fun source => decide (CoversFrom s'.balances b.row source))
    ho.sources
  rw [List.countP_append, hold, hnew, zero_add, hclass, List.countP_map] at hcount
  refine hcount.trans ?_
  set members := (matchedOf s groupId periodId tolerance).filter fun r =>
    decide (r.row.pairKey = b.row.pairKey) with hmembers
  have hlive : ∀ r ∈ members, Live (s.activeEntity groupId) r = Live (s.activeEntity groupId) b :=
    fun r hr => live_eq_of_pairKey_eq (of_decide_eq_true (List.mem_filter.mp hr).2)
  have hswap : (((matchedOf s groupId periodId tolerance).filter fun r =>
      (s.activeEntity groupId r.row.fromEntityId).isSome).filter fun r =>
        decide (r.row.pairKey = b.row.pairKey)).filter (Live (s.activeEntity groupId)) =
      members.filter (Live (s.activeEntity groupId)) := by
    rw [hmembers]
    simp only [List.filter_filter]
    refine List.filter_congr fun r _ => ?_
    rw [Live]
    cases (s.activeEntity groupId r.row.fromEntityId).isSome <;> simp
  rw [hswap]
  split_ifs with hactive
  · rw [List.filter_eq_self.mpr fun r hr => (hlive r hr).trans hactive, matchedTypes, List.map_take]
  · have hnone : members.filter (Live (s.activeEntity groupId)) = [] :=
      List.filter_eq_nil_iff.mpr fun r hr => by rw [hlive r hr]; exact hactive
    rw [hnone, List.take_nil]
    rfl

/-- **Intercompany elimination is complete and single** if and only if each pair has one matched
type for each run, of its first balances, and active entities. The query orders nothing: its
rows come as they were recorded, in any order, and in the same at each call. -/
theorem eliminated_once_iff (h : Recorded s periodId) (runIds : List UUID)
    (hruns : ∀ runId ∈ runIds, InProgress s groupId periodId runId) :
    let s' := afterMatchingAndRuns groupId periodId tolerance runIds s
    (∀ b ∈ s'.balances.rows, b.row.fiscalPeriodId = periodId → b.row.isMatched = true →
      (coveringEntries s' b.row).length = 1) ↔
        OneTypeEachRun s groupId periodId tolerance runIds.length := by
  intro s'
  have ho : Outcome s s' groupId periodId tolerance runIds.length := h.outcome hruns
  obtain ⟨f, hf, hrows⟩ := ho.balances
  have hmatched : (∀ b ∈ s'.balances.rows, b.row.fiscalPeriodId = periodId →
      b.row.isMatched = true → (coveringEntries s' b.row).length = 1) ↔
      ∀ b ∈ matchedOf s groupId periodId tolerance, (coveringEntries s' b.row).length = 1 := by
    have hsame : ∀ r ∈ s.balances.rows, (coveringEntries s' (f r)).length =
        (coveringEntries s' r.row).length := fun r hr =>
      of_terms_eq (hrows r hr).1 fun b => (coveringEntries s' b).length
    have hof : ∀ r ∈ s.balances.rows, (f r).fiscalPeriodId = r.row.fiscalPeriodId := fun r hr =>
      of_terms_eq (hrows r hr).1 IntercompanyBalance.fiscalPeriodId
    rw [hf]
    constructor
    · intro hall b hb
      obtain ⟨hbrow, hperiod, hmatches⟩ := mem_matchedOf.mp hb
      rw [← hsame b hbrow]
      exact hall ⟨b.id, f b⟩ (List.mem_map.mpr ⟨b, hbrow, rfl⟩) ((hof b hbrow).trans hperiod)
        (((hrows b hbrow).2 hperiod).mpr hmatches)
    · intro hall b hb hperiod hmarked
      obtain ⟨r, hr, rfl⟩ := List.mem_map.mp hb
      have hrperiod := (hof r hr).symm.trans hperiod
      exact (hsame r hr).trans (hall r (mem_matchedOf.mpr
        ⟨hr, hrperiod, ((hrows r hr).2 hrperiod).mp hmarked⟩))
  have hclass : ∀ r ∈ matchedOf s groupId periodId tolerance, r.row.balanceType ∈
      matchedTypes s groupId periodId tolerance r.row.pairKey := fun r hr =>
    List.mem_map.mpr ⟨r, List.mem_filter.mpr ⟨hr, by simp⟩, rfl⟩
  have hcount := fun r hr => count_take_eq_one_iff (n := runIds.length)
    (List.ne_nil_of_mem (hclass r hr)) fun type => two_le_count_matchedTypes h.paired
  rw [hmatched, OneTypeEachRun]
  constructor
  · intro hall r hr
    have hlive : ∀ b ∈ matchedOf s groupId periodId tolerance,
        Live (s.activeEntity groupId) b = true := by
      intro b hb
      have hone := hall b hb
      rw [ho.length_coveringEntries h hb] at hone
      by_contra hdead
      rw [if_neg hdead] at hone
      exact absurd hone (by decide)
    refine ⟨hlive r hr, (hcount r hr).mp fun type htype => ?_⟩
    obtain ⟨b, hb, rfl⟩ := List.mem_map.mp htype
    obtain ⟨hb, hpair⟩ := List.mem_filter.mp hb
    have hone := hall b hb
    rw [ho.length_coveringEntries h hb, if_pos (hlive b hb), of_decide_eq_true hpair] at hone
    exact hone
  · intro hall b hb
    obtain ⟨hlive, htypes⟩ := hall b hb
    rw [ho.length_coveringEntries h hb, if_pos hlive]
    exact (hcount b hb).mpr htypes b.row.balanceType (hclass b hb)

/-! ### Two periods -/

def threeEntities : ConsolidationStore where
  entities := ((Table.empty.insert ⟨1, "PARENT", true⟩).insert ⟨1, "CHILD", true⟩).insert
    ⟨1, "SISTER", true⟩
  balances := Table.empty
  runs := (Table.empty.insert { groupId := 1, fiscalPeriodId := 5, status := .inProgress }).insert
    { groupId := 1, fiscalPeriodId := 5, status := .inProgress }
  eliminations := Table.empty

def owes (fromEntityId toEntityId : UUID) (balanceType : String) (amount : ℚ) :
    IntercompanyBalanceInput where
  fiscalPeriodId := 5
  fromEntityId := fromEntityId
  toEntityId := toEntityId
  balanceType := balanceType
  fromEntityGlAccountId := 10
  fromEntityCurrency := "NGN"
  fromEntityAmount := amount
  fromEntityFunctionalAmount := amount
  toEntityGlAccountId := 20
  toEntityCurrency := "NGN"
  toEntityAmount := -amount
  toEntityFunctionalAmount := -amount
  reportingCurrencyCode := "NGN"
  reportingCurrencyAmount := amount

/-- Two pairs with two types each, of which one side is recorded before the other. -/
def twoPairs : ConsolidationStore :=
  recordAll 1 [owes 0 1 "LOAN" 100, owes 0 1 "TRADE" 40, owes 2 0 "FEE" 7, owes 2 0 "LOAN" 8,
    owes 1 0 "LOAN" (-100), owes 1 0 "TRADE" (-40), owes 0 2 "LOAN" (-8), owes 0 2 "FEE" (-7)]
    threeEntities

def loanAndTrade : ConsolidationStore :=
  recordAll 1 [owes 0 1 "LOAN" 100, owes 1 0 "LOAN" (-100), owes 0 1 "TRADE" 40,
    owes 1 0 "TRADE" (-40)] threeEntities

theorem recorded_threeEntities (inputs : List IntercompanyBalanceInput) :
    Recorded (recordAll 1 inputs threeEntities) 5 := by
  refine (recorded_recordAll ⟨⟨⟨keyed_empty, all_empty⟩, all_empty, ?_⟩, rfl⟩).1
  exact fun e he => absurd he List.not_mem_nil

theorem eliminated_once_iff_sample :
    let s' := afterMatchingAndRuns 1 5 (1 / 100) [0, 1] twoPairs
    (s'.balances.rows.all fun r => r.row.isMatched) = true ∧
      ∀ b ∈ s'.balances.rows, b.row.fiscalPeriodId = 5 → b.row.isMatched = true →
        (coveringEntries s' b.row).length = 1 :=
  ⟨by decide +kernel, (eliminated_once_iff (recorded_threeEntities _) [0, 1] (by
    intro runId hrun
    rcases List.mem_pair.mp hrun with rfl | rfl <;> exact ⟨_, rfl, rfl, rfl, rfl⟩)).mpr
      (by decide +kernel)⟩

/-- **A second type is left out**: one run makes an entry for the loan only. -/
theorem second_type_is_left_out :
    ¬ ∀ (s : ConsolidationStore) (groupId periodId : UUID) (tolerance : ℚ) (runIds : List UUID),
      Recorded s periodId → runIds ≠ [] →
        (∀ runId ∈ runIds, InProgress s groupId periodId runId) →
          let s' := afterMatchingAndRuns groupId periodId tolerance runIds s
          ∀ b ∈ s'.balances.rows, b.row.fiscalPeriodId = periodId → b.row.isMatched = true →
            (coveringEntries s' b.row).length = 1 := by
  intro h
  have hall := h loanAndTrade 1 5 (1 / 100) [0] (recorded_threeEntities _) (by decide) (by
    intro runId hrun
    rw [List.mem_singleton.mp hrun]
    exact ⟨_, rfl, rfl, rfl, rfl⟩)
  exact absurd hall (by decide +kernel)

end DotmacErp.Consolidation
