import DotmacErp.Banking.ReconciliationRuns

/-!
# Matches that tie

Four calls confirm a match. Within a reconciliation the signed amounts have to be equal, and a line
that is named twice breaks the key of matches. A statement line that is matched directly only has
to come close: its amount and the journal amount are compared without their signs, up to a cent or
a hundredth of the larger one, and a pair that is recorded is taken as it is. So a match ties if
and only if the amounts are equal or clearly apart, and what is recorded ties
(`confirmed_ties_iff`).
-/

namespace DotmacErp.Banking

open Relational Session Table

namespace BankReconciliationService

variable {s s' : BankingStore} {u : PUnit} {org i j k : UUID}
  {statementLineIds journalLineIds : List UUID}

def glAmounts (s : BankingStore) (journalLineIds : List UUID) : List ℚ :=
  journalLineIds.map fun j => ((s.journalLines.get? j).map JournalLine.glAmount).getD 0

/-- The amounts of the statement lines and of the journal lines add up to the same. -/
def Ties (s : BankingStore) (statementLineIds journalLineIds : List UUID) : Prop :=
  (signedAmounts s statementLineIds.dedup).sum = (glAmounts s journalLineIds.dedup).sum

instance : Decidable (Ties s statementLineIds journalLineIds) :=
  inferInstanceAs (Decidable (_ = (_ : ℚ)))

/-- The calls that confirm matches. -/
inductive ConfirmingCall where
  | addMatch (org reconciliationId : UUID) (input : ReconciliationMatchInput)
  | addMultiMatch (org reconciliationId : UUID)
      (statementLineIds journalLineIds : List UUID)
  | matchLine (org statementLineId journalLineId : UUID)
  | multiMatchLine (org statementLineId : UUID) (journalLineIds : List UUID)

namespace ConfirmingCall

def op : ConfirmingCall → BankingOperation
  | addMatch org k input => .addMatch org k input false
  | addMultiMatch org k statementLineIds journalLineIds =>
    .addMultiMatch org k statementLineIds journalLineIds
  | matchLine org i j => .matchLine org i j false .confirmed
  | multiMatchLine org i journalLineIds =>
    .multiMatchLine org i journalLineIds false

/-- The lines the call matches tie. -/
def TiesIn (s : BankingStore) : ConfirmingCall → Prop
  | addMatch _ _ input => Ties s [input.statementLineId] [input.journalLineId]
  | addMultiMatch _ _ statementLineIds journalLineIds => Ties s statementLineIds journalLineIds
  | matchLine _ i j => Ties s [i] [j]
  | multiMatchLine _ i journalLineIds => Ties s [i] journalLineIds

end ConfirmingCall

def Apart (statementAmount glAmount : ℚ) : Prop :=
  statementAmount = glAmount ∨ ¬ amountsMatch statementAmount glAmount false

/-- The two are matched, and not only suggested. -/
def Recorded (s : BankingStore) (i j : UUID) : Prop :=
  ∃ m ∈ existingMatch s i j, m.matchState ≠ .suggested

/-- What the call does not compare is equal already, or too far apart to be taken. -/
def ConfirmingCall.Clear (s : BankingStore) : ConfirmingCall → Prop
  | addMatch .. | addMultiMatch .. => True
  | matchLine org i j => ∀ line ∈ ownLine s org i,
      (Recorded s i j → Ties s [i] [j]) ∧
      (¬ Recorded s i j → line.isMatched = false →
        ∀ journalLine ∈ ownJournalLine s org j,
          Apart line.signedAmount journalLine.glAmount)
  | multiMatchLine org i journalLineIds => ∀ line ∈ ownLine s org i,
      line.isMatched = false → journalLineIds ≠ [] → journalLineIds.Nodup →
        (∀ j ∈ journalLineIds, (ownJournalLine s org j).isSome = true) →
          Apart line.signedAmount (glAmounts s journalLineIds).sum

/-! ### Within a reconciliation -/

theorem ownJournalLine_eq_some {journalLine : JournalLine}
    (h : ownJournalLine s org j = some journalLine) :
    s.journalLines.get? j = some journalLine :=
  (Option.filter_eq_some_iff.mp h).1

theorem ties_singleton {line : BankStatementLine} (hline : s.statementLines.get? i = some line)
    (hnodup : journalLineIds.Nodup) :
    Ties s [i] journalLineIds ↔ line.signedAmount = (glAmounts s journalLineIds).sum := by
  rw [Ties, hnodup.dedup]
  simp [signedAmounts, hline]

theorem ties_pair {line : BankStatementLine} {journalLine : JournalLine}
    (hline : s.statementLines.get? i = some line)
    (hjournal : s.journalLines.get? j = some journalLine) :
    Ties s [i] [j] ↔ line.signedAmount = journalLine.glAmount := by
  rw [ties_singleton hline (List.nodup_singleton j)]
  simp [glAmounts, hjournal]

/-- **A match within a reconciliation** ties. -/
theorem ties_of_addMatch {input : ReconciliationMatchInput}
    (h : addMatch org k input false s = .ok u s') :
    Ties s [input.statementLineId] [input.journalLineId] := by
  rw [addMatch, get_bind] at h
  obtain ⟨r, -, h⟩ := orRaise_bind.mp h
  obtain ⟨-, h⟩ := refuse_bind.mp h
  obtain ⟨line, hline, h⟩ := orRaise_bind.mp h
  obtain ⟨journalLine, hjournal, h⟩ := orRaise_bind.mp h
  obtain ⟨hties, -⟩ := refuse_bind.mp h
  rw [ties_pair (ownLine_eq_some hline) (ownJournalLine_eq_some hjournal)]
  by_contra hne
  exact hties ⟨sub_ne_zero.mpr hne, rfl⟩

/-- **A split** ties, and names no line twice. -/
theorem ties_of_addMultiMatch
    (h : addMultiMatch org k statementLineIds journalLineIds s = .ok u s') :
    Ties s statementLineIds journalLineIds := by
  rw [addMultiMatch, get_bind] at h
  obtain ⟨r, -, h⟩ := orRaise_bind.mp h
  obtain ⟨-, h⟩ := refuse_bind.mp h
  obtain ⟨lines, s₁, hload, h⟩ := bind_eq_ok.mp h
  obtain ⟨rfl, hids, hlines⟩ := loadAll_eq_ok hload
  obtain ⟨journalLines, s₂, hload', h⟩ := bind_eq_ok.mp h
  obtain ⟨rfl, hjids, hjournal⟩ := loadAll_eq_ok hload'
  obtain ⟨hsum, h⟩ := refuse_bind.mp h
  obtain ⟨hsingle, h⟩ := refuse_bind.mp h
  obtain ⟨-, h⟩ := refuse_bind.mp h
  obtain ⟨hnodup, -⟩ := refuse_bind.mp h
  have hkeys := not_not.mp hnodup
  rw [List.map_append, map_matchKey_splitMatches] at hkeys
  replace hkeys := hkeys.of_append_right
  -- the side with more than one line is the one whose keys the pairs tell apart
  have hdistinct : (lines.map Stored.id).Nodup ∧ (journalLines.map Stored.id).Nodup := by
    by_cases hone : lines.length = 1
    · obtain ⟨line, rfl⟩ := List.length_eq_one_iff.mp hone
      have hpairs : (journalLines.map Stored.id).map (Prod.mk line.id) =
          (splitPairs [line] journalLines).map fun p => (p.1.id, p.2.id) := by
        simp [splitPairs]
      exact ⟨List.nodup_singleton _, List.Nodup.of_map _ (hpairs ▸ hkeys)⟩
    · obtain ⟨journalLine, rfl⟩ :=
        List.length_eq_one_iff.mp (not_not.mp fun hmany => hsingle ⟨hone, hmany⟩)
      have hpairs : (lines.map Stored.id).map (fun i => (i, journalLine.id)) =
          (splitPairs lines [journalLine]).map fun p => (p.1.id, p.2.id) := by
        unfold splitPairs
        split
        · exact absurd rfl hone
        · simp
      exact ⟨List.Nodup.of_map _ (hpairs ▸ hkeys), List.nodup_singleton _⟩
  have hgl : glAmounts s₂ (journalLines.map Stored.id) =
      journalLines.map fun r => r.row.glAmount := by
    rw [glAmounts, List.map_map]
    exact List.map_congr_left fun row hrow => by simp [hjournal row hrow]
  rw [Ties, ← hids, ← hjids, hdistinct.1.dedup, hdistinct.2.dedup, signedAmounts_eq hlines, hgl]
  exact not_not.mp hsum

/-! ### Directly -/

/-- When a direct match returns: the pair is recorded, or the line is free and the amounts are
close enough. -/
theorem matchLine_returns_iff :
    returns (matchStatementLine org i j false .confirmed) s = true ↔
      ∃ line ∈ ownLine s org i, Recorded s i j ∨ ¬ Recorded s i j ∧
        line.isMatched = false ∧ ∃ journalLine ∈ ownJournalLine s org j,
          amountsMatch line.signedAmount journalLine.glAmount false := by
  have hknown : (((s.lineMatches.find? fun m => decide (matchKey m = (i, j))).filter fun m =>
      decide (¬ (m.matchState = .suggested ∧ MatchState.confirmed ≠ .suggested))) ≠ none) ↔
        Recorded s i j := by
    rw [Recorded, existingMatch, Option.ne_none_iff_exists']
    simp [Option.filter_eq_some_iff]
  rw [returns_iff]
  constructor
  · rintro ⟨u, s', h⟩
    rw [matchStatementLine, get_bind] at h
    obtain ⟨line, hline, h⟩ := orRaise_bind.mp h
    refine ⟨line, hline, ?_⟩
    by_cases hrecorded : Recorded s i j
    · exact .inl hrecorded
    · rw [if_neg (mt hknown.mp hrecorded)] at h
      obtain ⟨hfree, h⟩ := refuse_bind.mp h
      obtain ⟨journalLine, hjournal, h⟩ := orRaise_bind.mp h
      rw [if_neg (by decide)] at h
      obtain ⟨hclose, -⟩ := refuse_bind.mp h
      exact .inr ⟨hrecorded, by simpa using hfree, journalLine, hjournal, not_not.mp hclose⟩
  · rintro ⟨line, hline, hcase⟩
    simp only [matchStatementLine, get_bind, orRaise_bind]
    rcases hcase with hrecorded | ⟨hrecorded, hfree, journalLine, hjournal, hclose⟩
    · have hruns : ∀ (p : Prop) [Decidable p] (t : BankingStore),
          ∃ s', (runIf p (set t) : BankingSession PUnit) s = .ok ⟨⟩ s' := by
        intro p _ t
        rw [runIf]
        split_ifs
        · exact ⟨t, rfl⟩
        · exact ⟨s, rfl⟩
      simp only [if_pos (hknown.mpr hrecorded)]
      exact ⟨⟨⟩, _, line, hline, (hruns _ (confirmLine i line.statementId s)).choose_spec⟩
    · simp only [if_neg (mt hknown.mp hrecorded),
        if_neg (show ¬ MatchState.confirmed = .suggested by decide)]
      exact ⟨⟨⟩, _, line, hline, refuse_bind.mpr ⟨by simp [hfree], orRaise_bind.mpr
        ⟨journalLine, hjournal, refuse_bind.mpr ⟨not_not.mpr hclose, rfl⟩⟩⟩⟩

theorem loadOwn_returns {t : BankingStore} {rows : List (Stored JournalLine)}
    (h : loadOwn t org journalLineIds s = .ok rows s') :
    (∀ j ∈ journalLineIds, (ownJournalLine t org j).isSome = true) ∧
      (rows.map fun r => r.row.glAmount) = glAmounts t journalLineIds := by
  induction journalLineIds generalizing rows s' with
  | nil =>
    obtain ⟨rfl, -⟩ := pure_eq_ok.mp h
    exact ⟨fun j hj => absurd hj List.not_mem_nil, rfl⟩
  | cons j ids ih =>
    rw [loadOwn] at h
    obtain ⟨journalLine, hj, hbind⟩ := orRaise_bind.mp h
    obtain ⟨others, s₁, hothers, hrest⟩ := bind_eq_ok.mp hbind
    obtain ⟨hown, hsum⟩ := ih hothers
    obtain ⟨rfl, -⟩ := pure_eq_ok.mp hrest
    refine ⟨List.forall_mem_cons.mpr ⟨by rw [hj]; rfl, hown⟩, ?_⟩
    rw [List.map_cons, hsum, glAmounts, glAmounts, List.map_cons, ownJournalLine_eq_some hj]
    rfl

theorem exists_loadOwn {t : BankingStore}
    (h : ∀ j ∈ journalLineIds, (ownJournalLine t org j).isSome = true) :
    ∃ rows, loadOwn t org journalLineIds s = .ok rows s := by
  induction journalLineIds with
  | nil => exact ⟨[], rfl⟩
  | cons j ids ih =>
    obtain ⟨hfirst, hrest⟩ := List.forall_mem_cons.mp h
    obtain ⟨journalLine, hj⟩ := Option.isSome_iff_exists.mp hfirst
    obtain ⟨rows, hrows⟩ := ih hrest
    exact ⟨_, orRaise_bind.mpr ⟨journalLine, hj, bind_eq_ok.mpr ⟨rows, s, hrows, rfl⟩⟩⟩

theorem multiMatchLine_returns_iff :
    returns (multiMatchStatementLine org i journalLineIds false) s = true ↔
      ∃ line ∈ ownLine s org i, line.isMatched = false ∧ journalLineIds ≠ [] ∧
        journalLineIds.Nodup ∧
        (∀ j ∈ journalLineIds, (ownJournalLine s org j).isSome = true) ∧
        amountsMatch line.signedAmount (glAmounts s journalLineIds).sum false := by
  rw [returns_iff]
  constructor
  · rintro ⟨u, s', h⟩
    rw [multiMatchStatementLine, get_bind] at h
    obtain ⟨line, hline, h⟩ := orRaise_bind.mp h
    obtain ⟨hfree, h⟩ := refuse_bind.mp h
    obtain ⟨hsome, h⟩ := refuse_bind.mp h
    obtain ⟨journalLines, s₁, hload, h⟩ := bind_eq_ok.mp h
    obtain ⟨hown, hsum⟩ := loadOwn_returns hload
    obtain ⟨hclose, h⟩ := refuse_bind.mp h
    obtain ⟨hnodup, -⟩ := refuse_bind.mp h
    rw [hsum] at hclose
    exact ⟨line, hline, by simpa using hfree, hsome, not_not.mp hnodup, hown, not_not.mp hclose⟩
  · rintro ⟨line, hline, hfree, hsome, hnodup, hown, hclose⟩
    obtain ⟨rows, hrows⟩ := exists_loadOwn (s := s) hown
    rw [← (loadOwn_returns hrows).2] at hclose
    exact ⟨⟨⟩, _, orRaise_bind.mpr ⟨line, hline, refuse_bind.mpr ⟨by simp [hfree],
      refuse_bind.mpr ⟨hsome, bind_eq_ok.mpr ⟨rows, s, hrows, refuse_bind.mpr
        ⟨not_not.mpr hclose, refuse_bind.mpr ⟨not_not.mpr hnodup, rfl⟩⟩⟩⟩⟩⟩⟩

/-- **A confirmed match ties** exactly when the amounts the direct calls compare are equal or
clearly apart, and what is recorded ties. -/
theorem confirmed_ties_iff (s : BankingStore) (call : ConfirmingCall) :
    (returns call.op.run s = true → call.TiesIn s) ↔ call.Clear s := by
  cases call with
  | addMatch org k input =>
    refine iff_of_true (fun hreturns => ?_) trivial
    obtain ⟨u, s', hrun⟩ := returns_iff.mp hreturns
    exact ties_of_addMatch hrun
  | addMultiMatch org k statementLineIds journalLineIds =>
    refine iff_of_true (fun hreturns => ?_) trivial
    obtain ⟨u, s', hrun⟩ := returns_iff.mp hreturns
    exact ties_of_addMultiMatch hrun
  | matchLine org i j =>
    change (returns (matchStatementLine org i j false .confirmed) s = true →
      Ties s [i] [j]) ↔ _
    rw [matchLine_returns_iff]
    constructor
    · intro h line hline
      refine ⟨fun hrecorded => h ⟨line, hline, .inl hrecorded⟩,
        fun hrecorded hfree journalLine hjournal => ?_⟩
      rw [Apart, or_iff_not_imp_right, not_not]
      intro hclose
      rw [← ties_pair (ownLine_eq_some hline) (ownJournalLine_eq_some hjournal)]
      exact h ⟨line, hline, .inr ⟨hrecorded, hfree, journalLine, hjournal, hclose⟩⟩
    · rintro hclear ⟨line, hline, hrecorded | ⟨hrecorded, hfree, journalLine, hjournal, hclose⟩⟩
      · exact (hclear line hline).1 hrecorded
      · rw [ties_pair (ownLine_eq_some hline) (ownJournalLine_eq_some hjournal)]
        exact ((hclear line hline).2 hrecorded hfree journalLine hjournal).resolve_right
          (not_not.mpr hclose)
  | multiMatchLine org i journalLineIds =>
    change (returns (multiMatchStatementLine org i journalLineIds false) s = true →
      Ties s [i] journalLineIds) ↔ _
    rw [multiMatchLine_returns_iff]
    constructor
    · intro h line hline hfree hsome hnodup hown
      rw [Apart, or_iff_not_imp_right, not_not]
      intro hclose
      rw [← ties_singleton (ownLine_eq_some hline) hnodup]
      exact h ⟨line, hline, hfree, hsome, hnodup, hown, hclose⟩
    · rintro hclear ⟨line, hline, hfree, hsome, hnodup, hown, hclose⟩
      rw [ties_singleton (ownLine_eq_some hline) hnodup]
      exact (hclear line hline hfree hsome hnodup hown).resolve_right (not_not.mpr hclose)

/-- **A receipt is matched to a payment** of the same amount. -/
theorem receipt_matched_to_payment :
    ¬ ∀ s (call : ConfirmingCall), returns call.op.run s = true → call.TiesIn s := by
  intro h
  have hties := h { monthBooks with journalLines := Table.empty.insert (bookLine 0 100) }
    (.matchLine 1 0 0) (by decide +kernel)
  have hnot : ¬ Ties { monthBooks with journalLines := Table.empty.insert (bookLine 0 100) }
      [0] [0] := by
    decide +kernel
  exact hnot hties

end BankReconciliationService

end DotmacErp.Banking
