import DotmacErp.Consolidation.Matching
import DotmacErp.Foundation.Leaders

/-!
# What the elimination runs leave

A run eliminates the first remaining balance of each pair of active entities: the leaders of the
matched balances that are not eliminated. After several runs, what is eliminated of a pair are its
first balances, as many as there were runs (`Eliminates`, `eliminates_runs`), and each has its
entry.
-/

namespace DotmacErp.Consolidation

open Leaders Relational Session Table IntercompanyService
  ConsolidationService

variable {s s' s'' : ConsolidationStore} {groupId periodId runId : UUID}

/-- A run of the group for the period that is in progress. -/
def InProgress (s : ConsolidationStore) (groupId periodId runId : UUID) : Prop :=
  ∃ run, s.runs.get? runId = some run ∧ run.groupId = groupId ∧ run.fiscalPeriodId = periodId ∧
    run.status = .inProgress

/-- What eliminating the balances under some keys leaves: these are marked, each has an entry, and
nothing else changes of balances. -/
structure Eliminates (ids : List UUID) (s s' : ConsolidationStore) : Prop where
  entities : s'.entities = s.entities
  balances : ∃ f : Stored IntercompanyBalance → IntercompanyBalance,
    s'.balances = s.balances.mapRows f ∧ ∀ r ∈ s.balances.rows,
      (f r).terms = r.row.terms ∧ (f r).isMatched = r.row.isMatched ∧
        ((f r).isEliminated = true ↔ r.row.isEliminated = true ∨ r.id ∈ ids)
  sources : s'.eliminations.rows.map (fun e => e.row.sourceBalanceId) =
    s.eliminations.rows.map (fun e => e.row.sourceBalanceId) ++ ids.map some
  running : ∀ groupId periodId runId, InProgress s groupId periodId runId →
    InProgress s' groupId periodId runId

theorem Eliminates.refl (s : ConsolidationStore) : Eliminates [] s s :=
  ⟨rfl, ⟨Stored.row, mapRows_row.symm, fun r _ => ⟨rfl, rfl, by simp⟩⟩, by simp,
    fun _ _ _ h => h⟩

theorem Eliminates.trans {ids ids' : List UUID} (h : Eliminates ids s s')
    (h' : Eliminates ids' s' s'') : Eliminates (ids ++ ids') s s'' := by
  obtain ⟨f, hf, hrows⟩ := h.balances
  obtain ⟨g, hg, hrows'⟩ := h'.balances
  refine ⟨h'.entities.trans h.entities, ⟨fun r => g ⟨r.id, f r⟩, ?_, fun r hr => ?_⟩, ?_,
    fun groupId periodId runId hrun => h'.running _ _ _ (h.running _ _ _ hrun)⟩
  · rw [hg, hf, mapRows_mapRows]
  · obtain ⟨hterms, hmatched, heliminated⟩ := hrows r hr
    have hmem : (⟨r.id, f r⟩ : Stored IntercompanyBalance) ∈ s'.balances.rows := by
      rw [hf]
      exact List.mem_map.mpr ⟨r, hr, rfl⟩
    obtain ⟨hterms', hmatched', heliminated'⟩ := hrows' _ hmem
    refine ⟨hterms'.trans hterms, hmatched'.trans hmatched, ?_⟩
    rw [heliminated', heliminated, List.mem_append, or_assoc]
  · rw [h'.sources, h.sources, List.map_append, List.append_assoc]

/-! ### One balance -/

def eliminated (runId : UUID) (entity : UUID → Option LegalEntity) (s : ConsolidationStore)
    (r : Stored IntercompanyBalance) : ConsolidationStore :=
  match entity r.row.fromEntityId, entity r.row.toEntityId with
  | some fromEntity, some toEntity =>
    let input := eliminationInput fromEntity toEntity r
    { s with
      eliminations := s.eliminations.insert { input with consolidationRunId := runId }
      runs := s.runs.modify runId (addStatistics input)
      balances := s.balances.modify r.id (eliminatedBy s.eliminations.next) }
  | _, _ => s

def Live (entity : UUID → Option LegalEntity) (r : Stored IntercompanyBalance) : Bool :=
  (entity r.row.fromEntityId).isSome && (entity r.row.toEntityId).isSome

theorem InProgress.modify {k : UUID} {f : ConsolidationRun → ConsolidationRun}
    (hf : ∀ run, (f run).groupId = run.groupId ∧ (f run).fiscalPeriodId = run.fiscalPeriodId ∧
      (f run).status = run.status) (hruns : s'.runs = s.runs.modify k f)
    (h : InProgress s groupId periodId runId) : InProgress s' groupId periodId runId := by
  obtain ⟨run, hget, hgroup, hperiod, hstatus⟩ := h
  refine ⟨if runId = k then f run else run, ?_, ?_⟩
  · rw [hruns, get?_modify, hget]
    split_ifs <;> rfl
  · split_ifs
    · exact ⟨(hf run).1.trans hgroup, (hf run).2.1.trans hperiod, (hf run).2.2.trans hstatus⟩
    · exact ⟨hgroup, hperiod, hstatus⟩

theorem eliminates_eliminated (runId : UUID) (entity : UUID → Option LegalEntity) (s :
    ConsolidationStore)
    (r : Stored IntercompanyBalance) :
    Eliminates (if Live entity r then [r.id] else []) s (eliminated runId entity s r) := by
  rw [Live, eliminated]
  cases hfrom : entity r.row.fromEntityId with
  | none => exact Eliminates.refl s
  | some fromEntity =>
    cases hto : entity r.row.toEntityId with
    | none => exact Eliminates.refl s
    | some toEntity =>
      refine ⟨rfl, ⟨_, modify_eq_mapRows (f := eliminatedBy _), fun x _ => ?_⟩, ?_,
        fun groupId periodId k =>
        InProgress.modify (f := addStatistics _) (fun run => ⟨rfl, rfl, rfl⟩) rfl⟩
      · by_cases hid : x.id = r.id
        · rw [if_pos hid]
          exact ⟨rfl, rfl, by simp [hid, eliminatedBy]⟩
        · rw [if_neg hid]
          exact ⟨rfl, rfl, by simp [hid]⟩
      · exact List.map_append

/-! ### The loop -/

theorem createEliminationEntry_eq_ok {input : EliminationInput}
    (hrun : InProgress s groupId periodId runId)
    (hbalanced : input.debitAmount + input.nciDebitAmount =
      input.creditAmount + input.nciCreditAmount) :
    createEliminationEntry groupId runId input s = .ok s.eliminations.next { s with
      eliminations := s.eliminations.insert { input with consolidationRunId := runId }
      runs := s.runs.modify runId (addStatistics input) } := by
  obtain ⟨run, hget, hgroup, -, hstatus⟩ := hrun
  rw [createEliminationEntry, loadRun, bind_assoc, get_bind, bind_assoc,
    orRaise_bind]
  refine ⟨run, hget, ?_⟩
  rw [bind_assoc, refuse_bind]
  refine ⟨not_not.mpr hgroup, ?_⟩
  rw [pure_bind, refuse_bind]
  refine ⟨not_not.mpr hstatus, ?_⟩
  rw [refuse_bind]
  exact ⟨not_not.mpr hbalanced, rfl⟩

/-- **The loop** eliminates the leaders of the pairs. -/
theorem eliminateBalances_eq_ok (entity : UUID → Option LegalEntity)
    (hrun : InProgress s groupId periodId runId) (processed : List (UUID × UUID))
    (l : List (Stored IntercompanyBalance)) :
    ∃ entries, eliminateBalances groupId runId entity processed l s = .ok entries
      ((leaders (fun r => r.row.pairKey) processed l).foldl (eliminated runId entity) s) := by
  induction l generalizing s processed with
  | nil => exact ⟨[], rfl⟩
  | cons r l ih =>
    rw [eliminateBalances, leaders]
    split_ifs with hseen
    · exact ih hrun processed
    · have hnext := (eliminates_eliminated runId entity s r).running _ _ _ hrun
      obtain ⟨entries, hentries⟩ := ih hnext (r.row.pairKey :: processed)
      rw [List.foldl_cons]
      revert hentries
      rw [eliminated]
      cases hfrom : entity r.row.fromEntityId with
      | none => exact fun hentries => ⟨entries, hentries⟩
      | some fromEntity =>
        cases hto : entity r.row.toEntityId with
        | none => exact fun hentries => ⟨entries, hentries⟩
        | some toEntity =>
          intro hentries
          refine ⟨s.eliminations.next :: entries, bind_eq_ok.mpr ⟨_, _,
            createEliminationEntry_eq_ok hrun rfl, ?_⟩⟩
          exact bind_eq_ok.mpr ⟨⟨⟩, _, rfl, bind_eq_ok.mpr ⟨_, _, hentries, rfl⟩⟩

theorem eliminates_foldl (runId : UUID) (entity : UUID → Option LegalEntity) (s :
    ConsolidationStore)
    (l : List (Stored IntercompanyBalance)) :
    Eliminates ((l.filter (Live entity)).map Stored.id) s
      (l.foldl (eliminated runId entity) s) := by
  induction l generalizing s with
  | nil => exact Eliminates.refl s
  | cons r l ih =>
    have hstep := (eliminates_eliminated runId entity s r).trans
      (ih (eliminated runId entity s r))
    rw [List.foldl_cons]
    by_cases hlive : Live entity r
    · rw [if_pos hlive] at hstep
      rw [List.filter_cons_of_pos hlive]
      exact hstep
    · rw [if_neg hlive] at hstep
      rw [List.filter_cons_of_neg hlive]
      exact hstep

/-! ### A run, and several -/

def candidates (s : ConsolidationStore) (groupId periodId : UUID) :
    List (Stored IntercompanyBalance) :=
  (balancesOf s groupId periodId).filter fun r => r.row.isMatched && !r.row.isEliminated

/-- **One run** eliminates the leaders of the candidates whose entities are both active. -/
theorem generateIntercompanyEliminations_eq_ok (hrun : InProgress s groupId periodId runId) :
    ∃ entries s', generateIntercompanyEliminations groupId runId s = .ok entries s' ∧
      Eliminates (((leaders (fun r => r.row.pairKey) [] (candidates s groupId periodId)).filter
        (Live (s.activeEntity groupId))).map Stored.id) s s' := by
  obtain ⟨run, hget, hgroup, rfl, hstatus⟩ := id hrun
  obtain ⟨entries, hentries⟩ := eliminateBalances_eq_ok (s.activeEntity groupId) hrun []
    (candidates s groupId run.fiscalPeriodId)
  have hload : loadRun groupId runId s = .ok run s := by
    rw [loadRun, get_bind, orRaise_bind]
    exact ⟨run, hget, refuse_bind.mpr ⟨not_not.mpr hgroup, rfl⟩⟩
  have heliminates := eliminates_foldl runId (s.activeEntity groupId) s
    (leaders (fun r => r.row.pairKey) [] (candidates s groupId run.fiscalPeriodId))
  refine ⟨entries, _, bind_eq_ok.mpr ⟨run, s, hload, get_bind.mpr (bind_eq_ok.mpr
    ⟨entries, _, hentries, modify_bind.mpr rfl⟩)⟩, ?_⟩
  exact ⟨heliminates.entities, heliminates.balances, heliminates.sources,
    fun groupId periodId k h => InProgress.modify (f := withDifferences _)
      (fun run => ⟨rfl, rfl, rfl⟩) rfl (heliminates.running groupId periodId k h)⟩

def afterEliminations (groupId : UUID) (runIds : List UUID) (s : ConsolidationStore) :
    ConsolidationStore :=
  runIds.foldl (fun s runId => commit (generateIntercompanyEliminations groupId runId) s) s

/-- The balances of a period stay those they are while their terms do. -/
theorem select_ofPeriod {f : Stored IntercompanyBalance → IntercompanyBalance}
    (hterms : ∀ r ∈ s.balances.rows, (f r).terms = r.row.terms) :
    (s.balances.mapRows f).select (fun b => decide (b.fiscalPeriodId = periodId) &&
        (s.activeEntity groupId b.fromEntityId).isSome) =
      (balancesOf s groupId periodId).map fun r => ⟨r.id, f r⟩ :=
  select_mapRows fun r hr => of_terms_eq (hterms r hr) fun b =>
    decide (b.fiscalPeriodId = periodId) && (s.activeEntity groupId b.fromEntityId).isSome

theorem Eliminates.candidates_eq {l : List (Stored IntercompanyBalance)}
    (h : Eliminates (l.map Stored.id) s s') (hl : ∀ r ∈ l, r ∈ candidates s groupId periodId) :
    ∃ f : Stored IntercompanyBalance → IntercompanyBalance,
      (∀ r ∈ s.balances.rows, (f r).terms = r.row.terms) ∧
      candidates s' groupId periodId =
        ((candidates s groupId periodId).filter fun r => r ∉ l).map fun r => ⟨r.id, f r⟩ := by
  obtain ⟨f, hf, hrows⟩ := h.balances
  refine ⟨f, fun r hr => (hrows r hr).1, ?_⟩
  have hactive : s'.activeEntity = s.activeEntity := by
    funext groupId entityId
    rw [ConsolidationStore.activeEntity, ConsolidationStore.activeEntity, h.entities]
  rw [candidates, candidates, balancesOf, hactive, hf, select_ofPeriod fun r hr => (hrows r hr).1,
    List.filter_map, List.filter_filter]
  refine congrArg _ (List.filter_congr fun r hr => ?_)
  have hrow := (mem_balancesOf.mp hr).1
  obtain ⟨-, hmatched, heliminated⟩ := hrows r hrow
  -- a row is among those eliminated when its key is
  have hmem : r.id ∈ l.map Stored.id ↔ r ∈ l := by
    refine ⟨fun hid => ?_, List.mem_map_of_mem⟩
    obtain ⟨x, hx, hid⟩ := List.mem_map.mp hid
    have hxrow := (mem_balancesOf.mp (List.mem_of_mem_filter (hl x hx))).1
    exact row_eq_of_id_eq hxrow hrow hid ▸ hx
  rw [hmem] at heliminated
  rw [Function.comp_apply, hmatched, Bool.eq_iff_iff]
  simp only [Bool.and_eq_true, Bool.not_eq_true', decide_eq_true_iff, ← Bool.not_eq_true,
    heliminated, not_or]
  tauto

/-- **Several runs** eliminate the leaders of the pairs round by round. -/
theorem eliminates_runs {runIds : List UUID}
    (hruns : ∀ runId ∈ runIds, InProgress s groupId periodId runId) :
    Eliminates ((rounds (fun r => r.row.pairKey) (Live (s.activeEntity groupId))
      (candidates s groupId periodId) runIds.length).map Stored.id) s
      (afterEliminations groupId runIds s) := by
  induction runIds using List.reverseRecOn with
  | nil => exact Eliminates.refl s
  | append_singleton runIds runId ih =>
    have hbefore := ih fun k hk => hruns k (List.mem_append_left _ hk)
    set s₁ := afterEliminations groupId runIds s with hs₁
    set taken := rounds (fun r => r.row.pairKey) (Live (s.activeEntity groupId))
      (candidates s groupId periodId) runIds.length with htaken
    have hrun := hbefore.running _ _ _ (hruns runId (List.mem_append_right _ List.mem_cons_self))
    obtain ⟨entries, s₂, hok, hstep⟩ := generateIntercompanyEliminations_eq_ok hrun
    obtain ⟨f, hterms, hcandidates⟩ := hbefore.candidates_eq fun r hr => (mem_of_mem_rounds hr).1
    have hafter : afterEliminations groupId (runIds ++ [runId]) s = s₂ := by
      rw [afterEliminations, List.foldl_append]
      exact commit_of_ok hok
    have hactive : s₁.activeEntity = s.activeEntity := by
      funext groupId entityId
      rw [ConsolidationStore.activeEntity, ConsolidationStore.activeEntity, hbefore.entities]
    -- the leaders now are those of what is left
    have hleaders : ((leaders (fun r => r.row.pairKey) [] (candidates s₁ groupId periodId)).filter
        (Live (s₁.activeEntity groupId))).map Stored.id =
          ((leaders (fun r => r.row.pairKey) []
            ((candidates s groupId periodId).filter fun r => r ∉ taken)).filter
              (Live (s.activeEntity groupId))).map Stored.id := by
      have hrow : ∀ r ∈ (candidates s groupId periodId).filter fun r => r ∉ taken,
          (f r).terms = r.row.terms := fun r hr =>
        hterms r (mem_balancesOf.mp (List.mem_of_mem_filter (List.mem_of_mem_filter hr))).1
      have hlive : ∀ r ∈ (candidates s groupId periodId).filter fun r => r ∉ taken,
          Live (s.activeEntity groupId) ⟨r.id, f r⟩ = Live (s.activeEntity groupId) r :=
        fun r hr => show Live (s.activeEntity groupId) ⟨r.id, (f r).terms⟩ =
          Live (s.activeEntity groupId) ⟨r.id, r.row.terms⟩ by rw [hrow r hr]
      have hmap := leaders_map (fun r : Stored IntercompanyBalance => r.row.pairKey)
        (fun r => r.row.pairKey) (fun r => ⟨r.id, f r⟩) []
        fun r hr => pairKey_eq_of_terms (hrow r hr)
      rw [hcandidates, hactive, hmap, List.filter_map, List.map_map]
      exact congrArg _ (List.filter_congr fun r hr => hlive r (mem_of_mem_leaders hr))
    rw [hafter, List.length_append, List.length_singleton, rounds, List.map_append, ← hleaders]
    exact hbefore.trans hstep

end DotmacErp.Consolidation
