import DotmacErp.Banking.ReconciliationRuns

/-!
# What is matched once

Any run of the calls that match statement lines, within a reconciliation and directly. Four laws
hold together of what these calls write, each in the runs in which its own conditions are met:

* a statement line is flagged if and only if it has a confirmed match (`FlagsAgree`), unless it is
  split over no journal line;
* two statement lines share a journal line only within one split (`MatchedOnce`), if no call matches
  a journal line that is taken;
* a statement line has one primary match at most (`PrimaryOnce`), unless a suggestion or a split is
  added to a line that has one;
* the counters of a statement are the numbers of its lines (`CountersAgree`), as far as the calls on
  reconciliations, which do not count, leave the flags as they are.
-/

namespace DotmacErp.Banking

open Relational Session Table

namespace BankReconciliationService

variable {s s' : BankingStore} {i : UUID} {rows : List BankStatementLineMatch}

/-! ### The laws -/

/-- A line is flagged as matched when it has a confirmed match. -/
def FlagsAgree (s : BankingStore) : Prop :=
  ∀ i line, s.statementLines.get? i = some line →
    (line.isMatched = true ↔ ∃ m ∈ s.lineMatches, m.statementLineId = i ∧ m.matchState = .confirmed)

/-- A journal line is confirmed for two statement lines in one group only. -/
def MatchedOnce (s : BankingStore) : Prop :=
  ∀ m ∈ s.lineMatches, ∀ m' ∈ s.lineMatches, m.matchState = .confirmed →
    m'.matchState = .confirmed → m.journalLineId = m'.journalLineId →
      m.statementLineId ≠ m'.statementLineId →
        ∃ groupId, m.matchGroupId = some groupId ∧ m'.matchGroupId = some groupId

def primaryOf (rows : List BankStatementLineMatch) (statementLineId : UUID) :
    List BankStatementLineMatch :=
  rows.filter fun m => decide (m.statementLineId = statementLineId ∧ m.isPrimary = true)

/-- No statement line has two primary matches. -/
def PrimaryOnce (s : BankingStore) : Prop := ∀ i, (primaryOf s.lineMatches i).length ≤ 1

def numberOf (t : Table BankStatementLine) (statementId : UUID) (isMatched : Bool) : ℕ :=
  (t.select fun line => decide (line.statementId = statementId ∧ line.isMatched = isMatched)).length

/-- The counters of every statement are the numbers of its lines. -/
def CountersAgree (s : BankingStore) : Prop :=
  ∀ k statement, s.statements.get? k = some statement →
    statement.matchedLines = numberOf s.statementLines k true ∧
      statement.unmatchedLines = numberOf s.statementLines k false

/-! ### What each law asks of a call -/

def Taken (s : BankingStore) (statementLineId journalLineId : UUID) : Prop :=
  ∃ m ∈ s.lineMatches, m.matchState = .confirmed ∧ m.journalLineId = journalLineId ∧
    m.statementLineId ≠ statementLineId

def HasFlag (s : BankingStore) (isMatched : Bool) (statementLineId : UUID) : Prop :=
  ∀ line ∈ s.statementLines.get? statementLineId, line.isMatched = isMatched

/-- A match of no journal lines is of lines that are flagged already. -/
def FlagsFit (s : BankingStore) (op : BankingOperation) : Prop :=
  returns op.run s = true →
    match op with
    | .addMultiMatch _ _ statementLineIds journalLineIds =>
      journalLineIds = [] → ∀ i ∈ statementLineIds, HasFlag s true i
    | _ => True

/-- No journal line is confirmed that is taken. -/
def OnceFits (s : BankingStore) (op : BankingOperation) : Prop :=
  returns op.run s = true →
    match op with
    | .addMatch _ _ input _ => ¬ Taken s input.statementLineId input.journalLineId
    | .addMultiMatch _ _ statementLineIds journalLineIds =>
      ∀ i ∈ statementLineIds, ∀ j ∈ journalLineIds, ¬ Taken s i j
    | .matchLine _ i j _ .confirmed =>
      (∀ m ∈ existingMatch s i j, m.matchState = .suggested) → ¬ Taken s i j
    | .multiMatchLine _ i journalLineIds _ => ∀ j ∈ journalLineIds, ¬ Taken s i j
    | _ => True

/-- A match is not made primary where there is a primary match. -/
def PrimaryFits (s : BankingStore) (op : BankingOperation) : Prop :=
  returns op.run s = true →
    match op with
    | .addMultiMatch _ _ statementLineIds journalLineIds =>
      journalLineIds ≠ [] → ∀ i ∈ statementLineIds.head?, primaryOf s.lineMatches i = []
    | .matchLine _ i j _ .suggested =>
      existingMatch s i j = none → primaryOf s.lineMatches i = []
    | _ => True

/-- The calls on reconciliations leave the flags as they are. -/
def CountersFit (s : BankingStore) (op : BankingOperation) : Prop :=
  returns op.run s = true →
    match op with
    | .addMatch _ _ input _ => HasFlag s true input.statementLineId
    | .addMultiMatch _ _ statementLineIds _ => ∀ i ∈ statementLineIds, HasFlag s true i
    | .unmatch _ _ i => HasFlag s false i
    | _ => True

/-! ### Calls that match nothing -/

def BankingOperation.MatchesLines : BankingOperation → Prop
  | .addMatch .. | .addMultiMatch .. | .unmatch .. | .matchLine .. | .multiMatchLine ..
  | .unmatchLine .. => True
  | _ => False

instance (op : BankingOperation) : Decidable op.MatchesLines := by
  induction op using BankingOperation.casesOn with
  | addMatch | addMultiMatch | unmatch | matchLine | multiMatchLine | unmatchLine =>
    exact instDecidableTrue
  | create | addAdjustment | addOutstandingItem | submit | approve | reject =>
    exact instDecidableFalse

variable {op : BankingOperation} {u : PUnit}

theorem matches_frame (h : ¬ op.MatchesLines)
    (hrun : op.run s = .ok u s') : s'.statementLines = s.statementLines ∧
      s'.lineMatches = s.lineMatches ∧ s'.statements = s.statements := by
  cases op with
  | create org bankAccountId input =>
    obtain ⟨k, hcreate, -⟩ := map_eq_ok.mp hrun
    obtain ⟨account, -, rfl⟩ := createReconciliation_eq_ok hcreate
    exact ⟨rfl, rfl, rfl⟩
  | addAdjustment org reconciliationId transactionDate amount description
      adjustmentType adjustmentAccountId =>
    obtain ⟨r, -, rfl⟩ := addAdjustment_eq_ok hrun
    exact ⟨rfl, rfl, rfl⟩
  | addOutstandingItem org reconciliationId transactionDate amount description
      outstandingType reference journalLineId =>
    obtain ⟨r, -, rfl⟩ := addOutstandingItem_eq_ok hrun
    exact ⟨rfl, rfl, rfl⟩
  | submit org reconciliationId =>
    obtain ⟨r, -, -, rfl⟩ := submitForReview_eq_ok hrun
    exact ⟨rfl, rfl, rfl⟩
  | approve org reconciliationId approvedBy notes =>
    obtain ⟨r, f, -, -, -, rfl⟩ := approve_eq_ok hrun
    exact ⟨rfl, rfl, rfl⟩
  | reject org reconciliationId rejectedBy notes =>
    obtain ⟨r, -, -, rfl⟩ := reject_eq_ok hrun
    exact ⟨rfl, rfl, rfl⟩
  | addMatch | addMultiMatch | unmatch | matchLine | multiMatchLine | unmatchLine =>
    exact absurd trivial h

/-! ### Matches -/

variable {m : BankStatementLineMatch}

@[simp] theorem mem_matchesWithout :
    m ∈ matchesWithout s i ↔ m ∈ s.lineMatches ∧ m.statementLineId ≠ i := by
  rw [matchesWithout, List.mem_filter, decide_eq_true_iff]

variable {groupId : UUID} {pairs : List (Stored BankStatementLine × Stored JournalLine)}

theorem mem_splitMatches {isPrimary : Bool} (h : m ∈ splitMatches groupId isPrimary pairs) :
    (∃ pair ∈ pairs, m.statementLineId = pair.1.id ∧ m.journalLineId = pair.2.id) ∧
      m.matchState = .confirmed ∧ m.matchGroupId = some groupId := by
  induction pairs generalizing isPrimary with
  | nil => exact absurd h List.not_mem_nil
  | cons pair rest ih =>
    rcases List.mem_cons.mp h with rfl | hrest
    · exact ⟨⟨pair, List.mem_cons_self, rfl, rfl⟩, rfl, rfl⟩
    · obtain ⟨⟨other, hother, hkeys⟩, hstate⟩ := ih hrest
      exact ⟨⟨other, List.mem_cons_of_mem _ hother, hkeys⟩, hstate⟩

theorem exists_mem_splitMatches (groupId : UUID) (isPrimary : Bool)
    {pair : Stored BankStatementLine × Stored JournalLine} (h : pair ∈ pairs) :
    ∃ m ∈ splitMatches groupId isPrimary pairs, m.statementLineId = pair.1.id := by
  induction pairs generalizing isPrimary with
  | nil => exact absurd h List.not_mem_nil
  | cons first rest ih =>
    rcases List.mem_cons.mp h with rfl | hrest
    · exact ⟨_, List.mem_cons_self, rfl⟩
    · obtain ⟨m, hm, hkey⟩ := ih false hrest
      exact ⟨m, List.mem_cons_of_mem _ hm, hkey⟩

variable {journalLineIds : List UUID}

theorem mem_directMatches {isPrimary : Bool} (h : m ∈ directMatches i isPrimary journalLineIds) :
    m.statementLineId = i ∧ m.journalLineId ∈ journalLineIds ∧ m.matchState = .confirmed := by
  induction journalLineIds generalizing isPrimary with
  | nil => exact absurd h List.not_mem_nil
  | cons j rest ih =>
    rcases List.mem_cons.mp h with rfl | hrest
    · exact ⟨rfl, List.mem_cons_self, rfl⟩
    · obtain ⟨hline, hmem, hstate⟩ := ih hrest
      exact ⟨hline, List.mem_cons_of_mem _ hmem, hstate⟩

theorem exists_mem_splitPairs {lines : List (Stored BankStatementLine)}
    {journalLines : List (Stored JournalLine)} (hsome : journalLines ≠ [])
    {line : Stored BankStatementLine} (h : line ∈ lines) :
    ∃ pair ∈ splitPairs lines journalLines, pair.1 = line := by
  obtain ⟨journalLine, rest, rfl⟩ := List.exists_cons_of_ne_nil hsome
  unfold splitPairs
  split
  · obtain rfl := List.mem_singleton.mp h
    exact ⟨(line, journalLine), List.mem_map.mpr ⟨journalLine, List.mem_cons_self, rfl⟩, rfl⟩
  · exact ⟨(line, journalLine), List.mem_map.mpr ⟨line, h, rfl⟩, rfl⟩

theorem head_splitPairs {lines : List (Stored BankStatementLine)}
    {journalLines : List (Stored JournalLine)}
    {pair : Stored BankStatementLine × Stored JournalLine}
    {rest : List (Stored BankStatementLine × Stored JournalLine)}
    (h : splitPairs lines journalLines = pair :: rest) :
    (lines.map Stored.id).head? = some pair.1.id := by
  unfold splitPairs at h
  split at h
  · obtain ⟨journalLine, others, -, rfl, -⟩ := List.map_eq_cons_iff.mp h
    rfl
  · split at h
    · exact absurd h (by simp)
    · obtain ⟨line, others, rfl, rfl, -⟩ := List.map_eq_cons_iff.mp h
      rfl

/-! ### Flags -/

theorem FlagsAgree.replace (h : FlagsAgree s) {isMatched : Bool}
    (hrows : ∀ m ∈ rows, m.statementLineId = i)
    (hflag : isMatched = true ↔ ∃ m ∈ rows, m.matchState = .confirmed)
    (hlines : s'.statementLines = s.statementLines.modify i (flagged isMatched))
    (hmatches : s'.lineMatches = matchesWithout s i ++ rows) : FlagsAgree s' := by
  intro j line hline
  rw [hlines] at hline
  rw [hmatches]
  rcases get?_modify_cases hline with ⟨hj, hold⟩ | ⟨rfl, was, -, rfl⟩
  · rw [h j line hold]
    constructor
    · rintro ⟨m, hm, hmj, hstate⟩
      refine ⟨m, List.mem_append_left _ (mem_matchesWithout.mpr ⟨hm, ?_⟩), hmj, hstate⟩
      rw [hmj]
      exact hj
    · rintro ⟨m, hm, hmj, hstate⟩
      rcases List.mem_append.mp hm with hm | hm
      · exact ⟨m, (mem_matchesWithout.mp hm).1, hmj, hstate⟩
      · exact absurd (hmj.symm.trans (hrows m hm)) hj
  · refine hflag.trans ⟨?_, ?_⟩
    · rintro ⟨m, hm, hstate⟩
      exact ⟨m, List.mem_append_right _ hm, hrows m hm, hstate⟩
    · rintro ⟨m, hm, hmi, hstate⟩
      rcases List.mem_append.mp hm with hm | hm
      · exact absurd hmi (mem_matchesWithout.mp hm).2
      · exact ⟨m, hm, hstate⟩

theorem FlagsAgree.clear (h : FlagsAgree s)
    (hlines : s'.statementLines = s.statementLines.modify i (flagged false))
    (hmatches : s'.lineMatches = matchesWithout s i) : FlagsAgree s' := by
  refine h.replace (fun m (hm : m ∈ []) => absurd hm List.not_mem_nil) ?_ hlines ?_
  · simp
  · rw [hmatches, List.append_nil]

theorem FlagsAgree.same (h : FlagsAgree s) (hlines : s'.statementLines = s.statementLines)
    (hmatches : s'.lineMatches = s.lineMatches) : FlagsAgree s' := by
  rw [FlagsAgree, hlines, hmatches]
  exact h

variable {j : UUID}

theorem FlagsAgree.lineMatched {line : BankStatementLine} {matchState : MatchState}
    (h : FlagsAgree s) (hmatched : LineMatched i j line s matchState s') : FlagsAgree s' := by
  cases hmatched with
  | known => exact h
  | flagged _ m hm hkey hconfirmed hunmatched =>
    intro k other hother
    rcases get?_modify_cases hother with ⟨-, hold⟩ | ⟨rfl, was, -, rfl⟩
    · exact h k other hold
    · exact ⟨fun _ => ⟨m, hm, congrArg Prod.fst hkey, hconfirmed⟩, fun _ => rfl⟩
  | suggested hnew =>
    intro k other hother
    refine (h k other hother).trans ⟨?_, ?_⟩
    · rintro ⟨m, hm, hconfirmed⟩
      exact ⟨m, List.mem_append_left _ hm, hconfirmed⟩
    · rintro ⟨m, hm, hmk, hconfirmed⟩
      rcases List.mem_append.mp hm with hm | hm
      · exact ⟨m, hm, hmk, hconfirmed⟩
      · obtain rfl := List.mem_singleton.mp hm
        exact absurd hconfirmed (by simp)
  | confirmed hunmatched hnew =>
    refine h.replace (fun m hm => ?_) ?_ rfl rfl
    · rw [List.mem_singleton.mp hm]
    · exact ⟨fun _ => ⟨_, List.mem_singleton_self _, rfl⟩, fun _ => rfl⟩

theorem FlagsAgree.addMultiMatch (h : FlagsAgree s) {org k : UUID}
    {statementLineIds : List UUID}
    (hrun : addMultiMatch org k statementLineIds journalLineIds s = .ok u s')
    (hfits : journalLineIds = [] → ∀ i ∈ statementLineIds, HasFlag s true i) :
    FlagsAgree s' := by
  obtain ⟨r, lines, journalLines, -, -, rfl, hrows, rfl, -, -, -, rfl⟩ := addMultiMatch_eq_ok hrun
  intro j line hline
  rw [get?_mapRows] at hline
  obtain ⟨was, hwas, rfl⟩ := Option.map_eq_some_iff.mp hline
  change ((if j ∈ lines.map Stored.id then flagged true was else was).isMatched = true ↔ _)
  split_ifs with hj
  · -- a line of the split gets a match, or has one if there is no journal line
    refine ⟨fun _ => ?_, fun _ => rfl⟩
    by_cases hnone : journalLines = []
    · have hflag := hfits (by rw [hnone]; rfl) j hj was hwas
      obtain ⟨m, hm, hmj, hstate⟩ := (h j was hwas).mp hflag
      exact ⟨m, List.mem_append_left _ hm, hmj, hstate⟩
    · obtain ⟨row, hrow, rfl⟩ := List.mem_map.mp hj
      obtain ⟨pair, hpair, rfl⟩ := exists_mem_splitPairs hnone hrow
      obtain ⟨m, hm, hmj⟩ := exists_mem_splitMatches s.nextGroup true hpair
      exact ⟨m, List.mem_append_right _ hm, hmj, (mem_splitMatches hm).2.1⟩
  · refine (h j was hwas).trans ⟨?_, ?_⟩
    · rintro ⟨m, hm, hmj, hstate⟩
      exact ⟨m, List.mem_append_left _ hm, hmj, hstate⟩
    · rintro ⟨m, hm, hmj, hstate⟩
      rcases List.mem_append.mp hm with hm | hm
      · exact ⟨m, hm, hmj, hstate⟩
      · obtain ⟨⟨pair, hpair, hline, -⟩, -⟩ := mem_splitMatches hm
        refine absurd (List.mem_map.mpr ⟨pair.1, (mem_splitPairs hpair).1, ?_⟩) hj
        exact hline.symm.trans hmj

/-- **One operation** keeps the flags in agreement with the matches. -/
theorem flagsAgree_after (h : FlagsAgree s) (hfits : FlagsFit s op) :
    FlagsAgree (BankingOperation.after s op) := by
  refine commit_induction (P := FlagsAgree) h fun u s' hrun => ?_
  have hcondition := hfits (returns_iff.mpr ⟨u, s', hrun⟩)
  by_cases hop : op.MatchesLines
  · cases op with
    | addMatch org reconciliationId input forceMatch =>
      obtain ⟨r, line, glAmount, -, -, -, rfl⟩ := addMatch_eq_ok hrun
      refine h.replace (fun m hm => ?_) ?_ rfl rfl
      · rw [List.mem_singleton.mp hm]
        rfl
      · exact ⟨fun _ => ⟨_, List.mem_singleton_self _, rfl⟩, fun _ => rfl⟩
    | addMultiMatch org reconciliationId statementLineIds journalLineIds =>
      exact h.addMultiMatch hrun hcondition
    | unmatch org reconciliationId statementLineId =>
      obtain ⟨r, line, -, -, -, rfl⟩ := unmatch_eq_ok hrun
      exact h.clear rfl rfl
    | matchLine org statementLineId journalLineId forceMatch matchState =>
      obtain ⟨line, -, hmatched⟩ := matchStatementLine_eq_ok hrun
      exact h.lineMatched hmatched
    | multiMatchLine org statementLineId journalLineIds forceMatch =>
      obtain ⟨line, -, -, hsome, -, rfl⟩ := multiMatchStatementLine_eq_ok hrun
      obtain ⟨j, rest, rfl⟩ := List.exists_cons_of_ne_nil hsome
      refine h.replace (fun m hm => (mem_directMatches hm).1) ?_ rfl rfl
      exact ⟨fun _ => ⟨_, List.mem_cons_self, rfl⟩, fun _ => rfl⟩
    | unmatchLine org statementLineId =>
      obtain ⟨line, -, -, rfl⟩ := unmatchStatementLine_eq_ok hrun
      exact h.clear rfl rfl
    | create | addAdjustment | addOutstandingItem | submit | approve | reject =>
      exact hop.elim
  · obtain ⟨hlines, hmatches, -⟩ := matches_frame hop hrun
    exact h.same hlines hmatches

/-! ### Journal lines -/

theorem MatchedOnce.replace (h : MatchedOnce s) (hrows : ∀ m ∈ rows, m.statementLineId = i)
    (hfree : ∀ m ∈ rows, m.matchState = .confirmed → ¬ Taken s i m.journalLineId)
    (hmatches : s'.lineMatches = matchesWithout s i ++ rows) : MatchedOnce s' := by
  intro m hm m' hm' hconfirmed hconfirmed' hsame hother
  rw [hmatches] at hm hm'
  rcases List.mem_append.mp hm with hm | hm <;> rcases List.mem_append.mp hm' with hm' | hm'
  · exact h m (mem_matchesWithout.mp hm).1 m' (mem_matchesWithout.mp hm').1 hconfirmed
      hconfirmed' hsame hother
  · obtain ⟨hold, hne⟩ := mem_matchesWithout.mp hm
    exact absurd ⟨m, hold, hconfirmed, hsame, hne⟩ (hfree m' hm' hconfirmed')
  · obtain ⟨hold, hne⟩ := mem_matchesWithout.mp hm'
    exact absurd ⟨m', hold, hconfirmed', hsame.symm, hne⟩ (hfree m hm hconfirmed)
  · exact absurd ((hrows m hm).trans (hrows m' hm').symm) hother

theorem MatchedOnce.of_subset (h : MatchedOnce s)
    (hsubset : ∀ m ∈ s'.lineMatches, m.matchState = .confirmed → m ∈ s.lineMatches) :
    MatchedOnce s' := by
  intro m hm m' hm' hconfirmed hconfirmed'
  exact h m (hsubset m hm hconfirmed) m' (hsubset m' hm' hconfirmed') hconfirmed hconfirmed'

theorem MatchedOnce.append (h : MatchedOnce s) (hgroup : ∀ m ∈ rows, m.matchGroupId = some groupId)
    (hfree : ∀ m ∈ rows, ¬ Taken s m.statementLineId m.journalLineId)
    (hmatches : s'.lineMatches = s.lineMatches ++ rows) : MatchedOnce s' := by
  intro m hm m' hm' hconfirmed hconfirmed' hsame hother
  rw [hmatches] at hm hm'
  rcases List.mem_append.mp hm with hm | hm <;> rcases List.mem_append.mp hm' with hm' | hm'
  · exact h m hm m' hm' hconfirmed hconfirmed' hsame hother
  · exact absurd ⟨m, hm, hconfirmed, hsame, hother⟩ (hfree m' hm')
  · exact absurd ⟨m', hm', hconfirmed', hsame.symm, hother.symm⟩ (hfree m hm)
  · exact ⟨groupId, hgroup m hm, hgroup m' hm'⟩

/-- **One operation** confirms no journal line twice. -/
theorem matchedOnce_after (h : MatchedOnce s) (hfits : OnceFits s op) :
    MatchedOnce (BankingOperation.after s op) := by
  refine commit_induction (P := MatchedOnce) h fun u s' hrun => ?_
  have hcondition := hfits (returns_iff.mpr ⟨u, s', hrun⟩)
  by_cases hop : op.MatchesLines
  · cases op with
    | addMatch org reconciliationId input forceMatch =>
      obtain ⟨r, line, glAmount, -, -, -, rfl⟩ := addMatch_eq_ok hrun
      refine h.replace (fun m hm => ?_) (fun m hm _ => ?_) rfl <;> rw [List.mem_singleton.mp hm]
      · rfl
      · exact hcondition
    | addMultiMatch org reconciliationId statementLineIds journalLineIds =>
      obtain ⟨r, lines, journalLines, -, -, rfl, -, rfl, -, -, -, rfl⟩ := addMultiMatch_eq_ok hrun
      refine h.append (fun m hm => (mem_splitMatches hm).2.2) (fun m hm => ?_) rfl
      obtain ⟨⟨pair, hpair, hline, hjournal⟩, -⟩ := mem_splitMatches hm
      obtain ⟨hfirst, hsecond⟩ := mem_splitPairs hpair
      rw [hline, hjournal]
      exact hcondition _ (List.mem_map.mpr ⟨_, hfirst, rfl⟩) _ (List.mem_map.mpr ⟨_, hsecond, rfl⟩)
    | unmatch org reconciliationId statementLineId =>
      obtain ⟨r, line, -, -, -, rfl⟩ := unmatch_eq_ok hrun
      exact h.of_subset fun m hm _ => (mem_matchesWithout.mp hm).1
    | matchLine org statementLineId journalLineId forceMatch matchState =>
      obtain ⟨line, -, hmatched⟩ := matchStatementLine_eq_ok hrun
      cases hmatched with
      | known => exact h
      | flagged => exact h.of_subset fun m hm _ => hm
      | suggested =>
        refine h.of_subset fun m hm hconfirmed => ?_
        rcases List.mem_append.mp hm with hm | hm
        · exact hm
        · obtain rfl := List.mem_singleton.mp hm
          exact absurd hconfirmed (by simp)
      | confirmed hunmatched hnew =>
        refine h.replace (fun m hm => ?_) (fun m hm _ => ?_) rfl <;> rw [List.mem_singleton.mp hm]
        exact hcondition hnew
    | multiMatchLine org statementLineId journalLineIds forceMatch =>
      obtain ⟨line, -, -, -, -, rfl⟩ := multiMatchStatementLine_eq_ok hrun
      exact h.replace (fun m hm => (mem_directMatches hm).1)
        (fun m hm _ => hcondition _ (mem_directMatches hm).2.1) rfl
    | unmatchLine org statementLineId =>
      obtain ⟨line, -, -, rfl⟩ := unmatchStatementLine_eq_ok hrun
      exact h.of_subset fun m hm _ => (mem_matchesWithout.mp hm).1
    | create | addAdjustment | addOutstandingItem | submit | approve | reject =>
      exact hop.elim
  · obtain ⟨-, hmatches, -⟩ := matches_frame hop hrun
    exact h.of_subset fun m hm _ => hmatches ▸ hm

/-! ### Primary matches -/

theorem primaryOf_append (first second : List BankStatementLineMatch) (j : UUID) :
    primaryOf (first ++ second) j = primaryOf first j ++ primaryOf second j := by
  rw [primaryOf, List.filter_append, primaryOf, primaryOf]

theorem primaryOf_eq_nil
    (h : ∀ m ∈ rows, m.statementLineId = j → m.isPrimary = false) : primaryOf rows j = [] := by
  refine List.filter_eq_nil_iff.mpr fun m hm hof => ?_
  obtain ⟨hline, hprimary⟩ := of_decide_eq_true hof
  rw [h m hm hline] at hprimary
  exact Bool.false_ne_true hprimary

theorem primaryOf_matchesWithout (hj : j ≠ i) :
    primaryOf (matchesWithout s i) j = primaryOf s.lineMatches j := by
  rw [primaryOf, matchesWithout, List.filter_filter]
  refine List.filter_congr fun m _ => ?_
  by_cases hline : m.statementLineId = j
  · rw [decide_eq_true (p := m.statementLineId ≠ i) (by rw [hline]; exact hj), Bool.and_true]
  · have hother : decide (m.statementLineId = j ∧ m.isPrimary = true) = false :=
      decide_eq_false fun hboth => hline hboth.1
    rw [hother, Bool.false_and]

theorem PrimaryOnce.replace (h : PrimaryOnce s) (hrows : ∀ m ∈ rows, m.statementLineId = i)
    (hone : (primaryOf rows i).length ≤ 1)
    (hmatches : s'.lineMatches = matchesWithout s i ++ rows) : PrimaryOnce s' := by
  intro j
  rw [hmatches, primaryOf_append]
  by_cases hj : j = i
  · subst hj
    have hnone : primaryOf (matchesWithout s j) j = [] :=
      primaryOf_eq_nil fun m hm hline => absurd hline (mem_matchesWithout.mp hm).2
    rw [hnone, List.nil_append]
    exact hone
  · have hnone : primaryOf rows j = [] :=
      primaryOf_eq_nil fun m hm hline => absurd (hline.symm.trans (hrows m hm)) hj
    rw [primaryOf_matchesWithout hj, hnone, List.append_nil]
    exact h j

theorem PrimaryOnce.clear (h : PrimaryOnce s) (hmatches : s'.lineMatches = matchesWithout s i) :
    PrimaryOnce s' := by
  refine h.replace (i := i) (fun m (hm : m ∈ []) => absurd hm List.not_mem_nil) (Nat.zero_le 1) ?_
  rw [hmatches, List.append_nil]

theorem PrimaryOnce.append (h : PrimaryOnce s) (hnone : primaryOf s.lineMatches i = [])
    (hrows : ∀ m ∈ rows, m.isPrimary = true → m.statementLineId = i)
    (hone : (primaryOf rows i).length ≤ 1)
    (hmatches : s'.lineMatches = s.lineMatches ++ rows) : PrimaryOnce s' := by
  intro j
  rw [hmatches, primaryOf_append]
  by_cases hj : j = i
  · subst hj
    rw [hnone, List.nil_append]
    exact hone
  · have hnothing : primaryOf rows j = [] := by
      refine primaryOf_eq_nil fun m hm hline => ?_
      rw [← Bool.not_eq_true]
      exact fun hprimary => hj (hline.symm.trans (hrows m hm hprimary))
    rw [hnothing, List.append_nil]
    exact h j

theorem isPrimary_splitMatches :
    ∀ m ∈ splitMatches groupId false pairs, m.isPrimary = false := by
  induction pairs with
  | nil => exact fun m hm => absurd hm List.not_mem_nil
  | cons pair rest ih => exact List.forall_mem_cons.mpr ⟨rfl, ih⟩

theorem isPrimary_directMatches :
    ∀ m ∈ directMatches i false journalLineIds, m.isPrimary = false := by
  induction journalLineIds with
  | nil => exact fun m hm => absurd hm List.not_mem_nil
  | cons j rest ih => exact List.forall_mem_cons.mpr ⟨rfl, ih⟩

theorem length_primaryOf_cons {first : BankStatementLineMatch}
    (h : ∀ m ∈ rows, m.isPrimary = false) (j : UUID) :
    (primaryOf (first :: rows) j).length ≤ 1 := by
  have hrows : primaryOf rows j = [] := primaryOf_eq_nil fun m hm _ => h m hm
  rw [← List.singleton_append, primaryOf_append, hrows, List.append_nil]
  exact List.length_filter_le _ _

theorem PrimaryOnce.addMultiMatch (h : PrimaryOnce s) {org k : UUID}
    {statementLineIds : List UUID}
    (hrun : addMultiMatch org k statementLineIds journalLineIds s = .ok u s')
    (hfits : journalLineIds ≠ [] →
      ∀ i ∈ statementLineIds.head?, primaryOf s.lineMatches i = []) : PrimaryOnce s' := by
  obtain ⟨r, lines, journalLines, -, -, rfl, -, rfl, -, -, -, rfl⟩ := addMultiMatch_eq_ok hrun
  cases hpairs : splitPairs lines journalLines with
  | nil =>
    intro j
    change (primaryOf (s.lineMatches ++ splitMatches s.nextGroup true _) j).length ≤ 1
    rw [splitMatches, List.append_nil]
    exact h j
  | cons pair rest =>
    have hsome : journalLines.map Stored.id ≠ [] := by
      have hjournal := (mem_splitPairs (hpairs ▸ List.mem_cons_self)).2
      exact List.ne_nil_of_mem (List.mem_map.mpr ⟨_, hjournal, rfl⟩)
    refine h.append (hfits hsome pair.1.id (head_splitPairs hpairs)) (fun m hm hprimary => ?_) ?_
      rfl
    · rcases List.mem_cons.mp hm with rfl | hrest
      · rfl
      · exact absurd ((isPrimary_splitMatches m hrest).symm.trans hprimary) Bool.false_ne_true
    · exact length_primaryOf_cons isPrimary_splitMatches _

/-- **One operation** leaves one primary match at most. -/
theorem primaryOnce_after (h : PrimaryOnce s) (hfits : PrimaryFits s op) :
    PrimaryOnce (BankingOperation.after s op) := by
  refine commit_induction (P := PrimaryOnce) h fun u s' hrun => ?_
  have hcondition := hfits (returns_iff.mpr ⟨u, s', hrun⟩)
  by_cases hop : op.MatchesLines
  · cases op with
    | addMatch org reconciliationId input forceMatch =>
      obtain ⟨r, line, glAmount, -, -, -, rfl⟩ := addMatch_eq_ok hrun
      refine h.replace (fun m hm => ?_) ?_ rfl
      · rw [List.mem_singleton.mp hm]
        rfl
      · exact length_primaryOf_cons (fun m hm => absurd hm List.not_mem_nil) _
    | addMultiMatch org reconciliationId statementLineIds journalLineIds =>
      exact h.addMultiMatch hrun hcondition
    | unmatch org reconciliationId statementLineId =>
      obtain ⟨r, line, -, -, -, rfl⟩ := unmatch_eq_ok hrun
      exact h.clear rfl
    | matchLine org statementLineId journalLineId forceMatch matchState =>
      obtain ⟨line, -, hmatched⟩ := matchStatementLine_eq_ok hrun
      cases hmatched with
      | known => exact h
      | flagged => exact h
      | suggested hnew =>
        refine h.append (hcondition hnew) (fun m hm _ => ?_) ?_ rfl
        · rw [List.mem_singleton.mp hm]
        · exact length_primaryOf_cons (fun m hm => absurd hm List.not_mem_nil) _
      | confirmed hunmatched hnew =>
        refine h.replace (fun m hm => ?_) ?_ rfl
        · rw [List.mem_singleton.mp hm]
        · exact length_primaryOf_cons (fun m hm => absurd hm List.not_mem_nil) _
    | multiMatchLine org statementLineId journalLineIds forceMatch =>
      obtain ⟨line, -, -, hsome, -, rfl⟩ := multiMatchStatementLine_eq_ok hrun
      obtain ⟨j, rest, rfl⟩ := List.exists_cons_of_ne_nil hsome
      refine h.replace (fun m hm => (mem_directMatches hm).1) ?_ rfl
      exact length_primaryOf_cons isPrimary_directMatches _
    | unmatchLine org statementLineId =>
      obtain ⟨line, -, -, rfl⟩ := unmatchStatementLine_eq_ok hrun
      exact h.clear rfl
    | create | addAdjustment | addOutstandingItem | submit | approve | reject =>
      exact hop.elim
  · obtain ⟨-, hmatches, -⟩ := matches_frame hop hrun
    intro j
    rw [hmatches]
    exact h j

/-! ### Counters -/

def counted (statementId : UUID) (isMatched : Bool) (line : BankStatementLine) : ℤ :=
  if decide (line.statementId = statementId ∧ line.isMatched = isMatched) then 1 else 0

theorem numberOf_eq_sum (t : Table BankStatementLine) (k : UUID) (isMatched : Bool) :
    (numberOf t k isMatched : ℤ) = t.sum (counted k isMatched) := by
  have hsum := sum_select (t := t)
    (fun line => decide (line.statementId = k ∧ line.isMatched = isMatched)) fun _ => (1 : ℤ)
  rw [List.map_const', List.sum_replicate, nsmul_eq_mul, mul_one] at hsum
  exact hsum

theorem numberOf_modify {t : Table BankStatementLine} {line : BankStatementLine}
    (h : t.get? i = some line) (isMatched : Bool) (k : UUID) (which : Bool) :
    (numberOf (t.modify i (flagged isMatched)) k which : ℤ) =
      numberOf t k which + (counted k which (flagged isMatched line) - counted k which line) := by
  rw [numberOf_eq_sum, numberOf_eq_sum, sum_modify h]

theorem modify_flagged_of_eq {t : Table BankStatementLine} {isMatched : Bool}
    (h : ∀ line ∈ t.get? i, line.isMatched = isMatched) : t.modify i (flagged isMatched) = t := by
  rw [modify_eq_mapRows]
  refine (mapRows_congr fun r hr => ?_).trans mapRows_row
  split_ifs with hid
  · have hflag := h r.row (hid ▸ get?_of_mem hr)
    rw [flagged, ← hflag]
  · rfl

theorem CountersAgree.same (h : CountersAgree s) (hlines : s'.statementLines = s.statementLines)
    (hstatements : s'.statements = s.statements) : CountersAgree s' := by
  rw [CountersAgree, hlines, hstatements]
  exact h

theorem CountersAgree.confirmLine {line : BankStatementLine} (h : CountersAgree s)
    (hline : s.statementLines.get? i = some line) (hunmatched : line.isMatched = false)
    (hlines : s'.statementLines = (confirmLine i line.statementId s).statementLines)
    (hstatements : s'.statements = (confirmLine i line.statementId s).statements) :
    CountersAgree s' := by
  intro k statement hk
  rw [hstatements] at hk
  rw [hlines]
  change (s.statements.modify line.statementId countMatched).get? k = some statement at hk
  have hmatched := numberOf_modify hline true k true
  have hleft := numberOf_modify hline true k false
  change _ = ((numberOf (s.statementLines.modify i (flagged true)) k true : ℕ) : ℤ) ∧
    _ = ((numberOf (s.statementLines.modify i (flagged true)) k false : ℕ) : ℤ)
  rw [hmatched, hleft]
  rcases get?_modify_cases hk with ⟨hne, hold⟩ | ⟨rfl, was, hwas, rfl⟩
  · obtain ⟨hcount, hcount'⟩ := h k statement hold
    have hother : line.statementId ≠ k := fun hsame => hne hsame.symm
    simp [counted, flagged, hother, hcount, hcount']
  · obtain ⟨hcount, hcount'⟩ := h _ was hwas
    have hnonneg : (0 : ℤ) ≤ numberOf (s.statementLines.modify i (flagged true))
      line.statementId false := Int.natCast_nonneg _
    rw [hleft] at hnonneg
    simp only [counted, flagged, hunmatched] at hnonneg ⊢
    simp at hnonneg
    refine ⟨by simp [countMatched, hcount], ?_⟩
    simp only [countMatched, hcount']
    simp
    omega

theorem CountersAgree.clearLine {line : BankStatementLine} (h : CountersAgree s)
    (hline : s.statementLines.get? i = some line) (hmatched : line.isMatched = true)
    (hlines : s'.statementLines = s.statementLines.modify i (flagged false))
    (hstatements : s'.statements = s.statements.modify line.statementId countUnmatched) :
    CountersAgree s' := by
  intro k statement hk
  rw [hstatements] at hk
  rw [hlines]
  have hfewer := numberOf_modify hline false k true
  have hmore := numberOf_modify hline false k false
  rw [hfewer, hmore]
  rcases get?_modify_cases hk with ⟨hne, hold⟩ | ⟨rfl, was, hwas, rfl⟩
  · obtain ⟨hcount, hcount'⟩ := h k statement hold
    have hother : line.statementId ≠ k := fun hsame => hne hsame.symm
    simp [counted, flagged, hother, hcount, hcount']
  · obtain ⟨hcount, hcount'⟩ := h _ was hwas
    have hnonneg : (0 : ℤ) ≤ numberOf (s.statementLines.modify i (flagged false))
      line.statementId true := Int.natCast_nonneg _
    rw [hfewer] at hnonneg
    simp only [counted, flagged, hmatched] at hnonneg ⊢
    simp at hnonneg
    refine ⟨?_, by simp [countUnmatched, hcount']⟩
    simp only [countUnmatched, hcount]
    simp
    omega

/-- **One operation** keeps the counters in agreement with the lines. -/
theorem countersAgree_after (h : CountersAgree s)
    (hfits : CountersFit s op) : CountersAgree (BankingOperation.after s op) := by
  refine commit_induction (P := CountersAgree) h fun u s' hrun => ?_
  have hcondition := hfits (returns_iff.mpr ⟨u, s', hrun⟩)
  by_cases hop : op.MatchesLines
  · cases op with
    | addMatch org reconciliationId input forceMatch =>
      obtain ⟨r, line, glAmount, -, -, -, rfl⟩ := addMatch_eq_ok hrun
      exact h.same (modify_flagged_of_eq hcondition) rfl
    | addMultiMatch org reconciliationId statementLineIds journalLineIds =>
      obtain ⟨r, lines, journalLines, -, -, rfl, -, rfl, -, -, -, rfl⟩ := addMultiMatch_eq_ok hrun
      refine h.same ((mapRows_congr fun r hr => ?_).trans mapRows_row) rfl
      split_ifs with hid
      · rw [flagged, ← hcondition r.id hid r.row (get?_of_mem hr)]
      · rfl
    | unmatch org reconciliationId statementLineId =>
      obtain ⟨r, line, -, -, -, rfl⟩ := unmatch_eq_ok hrun
      exact h.same (modify_flagged_of_eq hcondition) rfl
    | matchLine org statementLineId journalLineId forceMatch matchState =>
      obtain ⟨line, hline, hmatched⟩ := matchStatementLine_eq_ok hrun
      cases hmatched with
      | known => exact h
      | flagged _ m hm hkey hconfirmed hunmatched => exact h.confirmLine hline hunmatched rfl rfl
      | suggested => exact h.same rfl rfl
      | confirmed hunmatched => exact h.confirmLine hline hunmatched rfl rfl
    | multiMatchLine org statementLineId journalLineIds forceMatch =>
      obtain ⟨line, hline, hunmatched, -, -, rfl⟩ := multiMatchStatementLine_eq_ok hrun
      exact h.confirmLine hline hunmatched rfl rfl
    | unmatchLine org statementLineId =>
      obtain ⟨line, hline, hmatched, rfl⟩ := unmatchStatementLine_eq_ok hrun
      exact h.clearLine hline hmatched rfl rfl
    | create | addAdjustment | addOutstandingItem | submit | approve | reject =>
      exact hop.elim
  · obtain ⟨hlines, -, hstatements⟩ := matches_frame hop hrun
    exact h.same hlines hstatements

/-! ### Runs -/

/-- Nothing is matched yet. -/
structure Unmatched (s : BankingStore) : Prop where
  noMatches : s.lineMatches = []
  lines : s.statementLines.All fun line => line.isMatched = false
  counters : CountersAgree s

theorem Unmatched.flagsAgree (h : Unmatched s) : FlagsAgree s := by
  intro i line hline
  rw [h.lines i line hline, h.noMatches]
  simp

theorem Unmatched.matchedOnce (h : Unmatched s) : MatchedOnce s := by
  intro m hm
  rw [h.noMatches] at hm
  exact absurd hm List.not_mem_nil

theorem Unmatched.primaryOnce (h : Unmatched s) : PrimaryOnce s := by
  intro i
  rw [h.noMatches]
  exact Nat.zero_le 1

/-- **Lines are matched once**, each law in every run that fits it: flags agree with confirmed
matches, journal lines are confirmed once or in one group, statement lines have one primary match at
most, and counters agree with flags. -/
theorem lines_matched_once (s : BankingStore) :
    ((bankingSystem Unmatched).ReachableWithin FlagsFit s → FlagsAgree s) ∧
    ((bankingSystem Unmatched).ReachableWithin OnceFits s → MatchedOnce s) ∧
    ((bankingSystem Unmatched).ReachableWithin PrimaryFits s → PrimaryOnce s) ∧
    ((bankingSystem Unmatched).ReachableWithin CountersFit s → CountersAgree s) := by
  refine ⟨fun hs => ?_, fun hs => ?_, fun hs => ?_, fun hs => ?_⟩
  · refine hs.invariant (P := FlagsAgree) (fun s₀ hinit => hinit.flagsAgree) ?_
    rintro s₁ op s₂ hs₁ hfits rfl
    exact flagsAgree_after hs₁ hfits
  · refine hs.invariant (P := MatchedOnce) (fun s₀ hinit => hinit.matchedOnce) ?_
    rintro s₁ op s₂ hs₁ hfits rfl
    exact matchedOnce_after hs₁ hfits
  · refine hs.invariant (P := PrimaryOnce) (fun s₀ hinit => hinit.primaryOnce) ?_
    rintro s₁ op s₂ hs₁ hfits rfl
    exact primaryOnce_after hs₁ hfits
  · refine hs.invariant (P := CountersAgree) (fun s₀ hinit => hinit.counters) ?_
    rintro s₁ op s₂ hs₁ hfits rfl
    exact countersAgree_after hs₁ hfits

/-! ### Two runs over one statement -/

instance (s : BankingStore) (i j : UUID) : Decidable (Taken s i j) :=
  inferInstanceAs (Decidable (∃ m ∈ s.lineMatches, _))

instance (s : BankingStore) (isMatched : Bool) (i : UUID) : Decidable (HasFlag s isMatched i) :=
  inferInstanceAs (Decidable (∀ line ∈ s.statementLines.get? i, _))

instance (s : BankingStore) (op : BankingOperation) : Decidable (FlagsFit s op) := by
  induction op using BankingOperation.casesOn with
  | addMultiMatch org reconciliationId statementLineIds journalLineIds =>
    exact inferInstanceAs (Decidable (_ = _ → journalLineIds = [] →
      ∀ i ∈ statementLineIds, HasFlag s true i))
  | create | addMatch | unmatch | addAdjustment | addOutstandingItem | submit | approve | reject
  | matchLine | multiMatchLine | unmatchLine => exact decidableOfTrivial _

instance (s : BankingStore) (op : BankingOperation) : Decidable (OnceFits s op) := by
  induction op using BankingOperation.casesOn with
  | addMatch org reconciliationId input forceMatch =>
    exact inferInstanceAs (Decidable (_ = _ →
      ¬ Taken s input.statementLineId input.journalLineId))
  | addMultiMatch org reconciliationId statementLineIds journalLineIds =>
    exact inferInstanceAs (Decidable (_ = _ → ∀ i ∈ statementLineIds, ∀ j ∈ journalLineIds,
      ¬ Taken s i j))
  | matchLine org i j forceMatch matchState =>
    cases matchState with
    | suggested => exact decidableOfTrivial _
    | confirmed =>
      exact inferInstanceAs (Decidable (_ = _ →
        (∀ m ∈ existingMatch s i j, m.matchState = .suggested) → ¬ Taken s i j))
  | multiMatchLine org i journalLineIds forceMatch =>
    exact inferInstanceAs (Decidable (_ = _ → ∀ j ∈ journalLineIds, ¬ Taken s i j))
  | create | unmatch | addAdjustment | addOutstandingItem | submit | approve | reject
  | unmatchLine => exact decidableOfTrivial _

instance (s : BankingStore) (op : BankingOperation) : Decidable (PrimaryFits s op) := by
  induction op using BankingOperation.casesOn with
  | addMultiMatch org reconciliationId statementLineIds journalLineIds =>
    exact inferInstanceAs (Decidable (_ = _ → journalLineIds ≠ [] →
      ∀ i ∈ statementLineIds.head?, primaryOf s.lineMatches i = []))
  | matchLine org i j forceMatch matchState =>
    cases matchState with
    | suggested =>
      exact inferInstanceAs (Decidable (_ = _ → existingMatch s i j = none →
        primaryOf s.lineMatches i = []))
    | confirmed => exact decidableOfTrivial _
  | create | addMatch | unmatch | addAdjustment | addOutstandingItem | submit | approve | reject
  | multiMatchLine | unmatchLine => exact decidableOfTrivial _

instance (s : BankingStore) (op : BankingOperation) : Decidable (CountersFit s op) := by
  induction op using BankingOperation.casesOn with
  | addMatch org reconciliationId input forceMatch =>
    exact inferInstanceAs (Decidable (_ = _ → HasFlag s true input.statementLineId))
  | addMultiMatch org reconciliationId statementLineIds journalLineIds =>
    exact inferInstanceAs (Decidable (_ = _ → ∀ i ∈ statementLineIds, HasFlag s true i))
  | unmatch org reconciliationId statementLineId =>
    exact inferInstanceAs (Decidable (_ = _ → HasFlag s false statementLineId))
  | create | addAdjustment | addOutstandingItem | submit | approve | reject | matchLine
  | multiMatchLine | unmatchLine => exact decidableOfTrivial _

def twoReceipts : BankingStore where
  accounts := monthBooks.accounts
  statements := monthBooks.statements
  statementLines := (Table.empty.insert (bankLine 1 .credit 100)).insert (bankLine 2 .credit 100)
  lineMatches := []
  journalLines := ((Table.empty.insert (bookLine 100 0)).insert (bookLine 60 0)).insert
    (bookLine 40 0)
  reconciliations := Table.empty
  reconciliationLines := []

theorem unmatched_twoReceipts : Unmatched twoReceipts := by
  have hnone : (Table.empty : Table BankStatementLine).All fun line => line.isMatched = false :=
    all_empty
  refine ⟨rfl, (hnone.insert rfl).insert rfl, fun k statement hk => ?_⟩
  rcases get?_insert_cases hk with hempty | ⟨rfl, rfl⟩
  · exact absurd hempty (by simp)
  · exact ⟨by decide +kernel, by decide +kernel⟩

/-- One receipt is suggested and confirmed, the other matched to its parts, taken back, and matched
to them again. -/
def matchedRun : List BankingOperation :=
  [.matchLine 1 0 0 false .suggested, .matchLine 1 0 0 false .confirmed,
    .multiMatchLine 1 1 [1, 2] false, .unmatchLine 1 1, .multiMatchLine 1 1 [2, 1] false]

theorem lines_matched_once_sample :
    let s := System.after BankingOperation.after twoReceipts matchedRun
    (FlagsAgree s ∧ MatchedOnce s ∧ PrimaryOnce s ∧ CountersAgree s) ∧
      s.lineMatches.map matchKey = [(0, 0), (1, 2), (1, 1)] := by
  have hinit := unmatched_twoReceipts
  obtain ⟨hflags, honce, hprimary, hcounters⟩ :=
    lines_matched_once (System.after BankingOperation.after twoReceipts matchedRun)
  exact ⟨⟨hflags (System.reachableWithin_after hinit (by decide +kernel)),
    honce (System.reachableWithin_after hinit (by decide +kernel)),
    hprimary (System.reachableWithin_after hinit (by decide +kernel)),
    hcounters (System.reachableWithin_after hinit (by decide +kernel))⟩, by decide +kernel⟩

def takenRun : List BankingOperation :=
  [.matchLine 1 0 0 false .confirmed, .matchLine 1 1 0 false .confirmed]

/-- **One receipt of the books settles two of the bank.** -/
theorem journal_line_matched_twice :
    ¬ ∀ s, (bankingSystem Unmatched).ReachableWithin (fun _ op => op.MatchesLines) s →
      FlagsAgree s ∧ MatchedOnce s ∧ PrimaryOnce s ∧ CountersAgree s := by
  intro h
  have hrun : (bankingSystem Unmatched).ReachableWithin (fun _ op => op.MatchesLines)
      (System.after BankingOperation.after twoReceipts takenRun) :=
    System.reachableWithin_after unmatched_twoReceipts (by decide +kernel)
  have hmatches : (System.after BankingOperation.after twoReceipts takenRun).lineMatches =
      [{ statementLineId := 0, journalLineId := 0 },
        { statementLineId := 1, journalLineId := 0 }] := by
    decide +kernel
  have honce := (h _ hrun).2.1
  rw [MatchedOnce, hmatches] at honce
  obtain ⟨groupId, hgroup, -⟩ := honce _ List.mem_cons_self _
    (List.mem_cons_of_mem _ List.mem_cons_self) rfl rfl rfl (by decide)
  exact absurd hgroup (by simp)

end BankReconciliationService

end DotmacErp.Banking
