import DotmacErp.Banking.ReconciliationSteps
import DotmacErp.Foundation.Scripts

/-!
# What a reconciliation's totals say

Any run of the calls on reconciliations and of the matching of statement lines. Each total of a
reconciliation is the sum over its lines, and its difference is the statement's balance less the
adjusted one of the books: what is unexplained, if and only if the outstanding deposits and payments
cancel.

Three calls must fit for that. An adjustment and an outstanding item are added to reconciliations
that are approved or rejected as to others, so they must be added to open ones; and amounts are
stored at four decimals, so totals must carry them. A split adds the absolute value of the sum of
its statement lines to what is matched, which is the sum of their absolute values only if they have
one sign.
-/

namespace DotmacErp.Banking

open Calendar Relational Session Table Rounding

namespace BankReconciliationService

variable {s s' : BankingStore} {k : UUID} {r : BankReconciliation}

/-! ### Operations -/

/-- The calls on reconciliations, and those that match statement lines directly. -/
inductive BankingOperation where
  | create (org bankAccountId : UUID) (input : ReconciliationInput)
  | addMatch (org reconciliationId : UUID) (input : ReconciliationMatchInput)
      (forceMatch : Bool)
  | addMultiMatch (org reconciliationId : UUID)
      (statementLineIds journalLineIds : List UUID)
  | unmatch (org reconciliationId statementLineId : UUID)
  | addAdjustment (org reconciliationId : UUID) (transactionDate : Date) (amount : ℚ)
      (description adjustmentType : String) (adjustmentAccountId : Option UUID)
  | addOutstandingItem (org reconciliationId : UUID) (transactionDate : Date)
      (amount : ℚ) (description outstandingType : String) (reference : Option String)
      (journalLineId : Option UUID)
  | submit (org reconciliationId : UUID)
  | approve (org reconciliationId approvedBy : UUID) (notes : Option String)
  | reject (org reconciliationId rejectedBy : UUID) (notes : String)
  | matchLine (org statementLineId journalLineId : UUID) (forceMatch : Bool)
      (matchState : MatchState)
  | multiMatchLine (org statementLineId : UUID) (journalLineIds : List UUID)
      (forceMatch : Bool)
  | unmatchLine (org statementLineId : UUID)

def BankingOperation.run : BankingOperation → BankingSession PUnit
  | .create org bankAccountId input =>
    discard (createReconciliation org bankAccountId input)
  | .addMatch org reconciliationId input forceMatch =>
    BankReconciliationService.addMatch org reconciliationId input forceMatch
  | .addMultiMatch org reconciliationId statementLineIds journalLineIds =>
    BankReconciliationService.addMultiMatch org reconciliationId statementLineIds
      journalLineIds
  | .unmatch org reconciliationId statementLineId =>
    BankReconciliationService.unmatch org reconciliationId statementLineId
  | .addAdjustment org reconciliationId transactionDate amount description
      adjustmentType adjustmentAccountId =>
    BankReconciliationService.addAdjustment org reconciliationId transactionDate amount
      description adjustmentType adjustmentAccountId
  | .addOutstandingItem org reconciliationId transactionDate amount description
      outstandingType reference journalLineId =>
    BankReconciliationService.addOutstandingItem org reconciliationId transactionDate
      amount description outstandingType reference journalLineId
  | .submit org reconciliationId => submitForReview org reconciliationId
  | .approve org reconciliationId approvedBy notes =>
    BankReconciliationService.approve org reconciliationId approvedBy notes
  | .reject org reconciliationId rejectedBy notes =>
    BankReconciliationService.reject org reconciliationId rejectedBy notes
  | .matchLine org statementLineId journalLineId forceMatch matchState =>
    matchStatementLine org statementLineId journalLineId forceMatch matchState
  | .multiMatchLine org statementLineId journalLineIds forceMatch =>
    multiMatchStatementLine org statementLineId journalLineIds forceMatch
  | .unmatchLine org statementLineId =>
    unmatchStatementLine org statementLineId

def BankingOperation.after (s : BankingStore) (op : BankingOperation) : BankingStore :=
  commit op.run s

def BankingOperation.Reconciles : BankingOperation → Prop
  | .matchLine .. | .multiMatchLine .. | .unmatchLine .. => False
  | _ => True

def signedAmounts (s : BankingStore) (statementLineIds : List UUID) : List ℚ :=
  statementLineIds.map fun i =>
    ((s.statementLines.get? i).map BankStatementLine.signedAmount).getD 0

/-- The first difference is that of the amounts that are stored. -/
def CreateFits (s : BankingStore) (org bankAccountId : UUID)
    (input : ReconciliationInput) : Prop :=
  ∀ account ∈ s.accounts.get? bankAccountId,
    moneyColumn (input.statementClosingBalance -
      glBalance s org account.glAccountId input.periodEnd) =
    moneyColumn input.statementClosingBalance -
      moneyColumn (glBalance s org account.glAccountId input.periodEnd)

/-- An adjustment fits if the reconciliation is open, and its total and its difference carry the
amount. -/
def AdjustmentFits (s : BankingStore) (reconciliationId : UUID) (amount : ℚ) : Prop :=
  ∀ r ∈ s.reconciliations.get? reconciliationId, IsOpen r ∧ Carries r.totalAdjustments amount ∧
    moneyColumn (r.statementClosingBalance -
      (r.glClosingBalance + (r.totalAdjustments + amount))) =
    r.statementClosingBalance - (r.glClosingBalance + moneyColumn (r.totalAdjustments + amount))

/-- The total of its kind carries the item, on an open reconciliation. -/
def OutstandingFits (s : BankingStore) (reconciliationId : UUID) (amount : ℚ)
    (outstandingType : String) : Prop :=
  ∀ r ∈ s.reconciliations.get? reconciliationId,
    IsOpen r ∧ Carries (outstandingTotal outstandingType r) amount

/-- The statement lines of a split all run the same way. -/
def SplitFits (s : BankingStore) (statementLineIds : List UUID) : Prop :=
  |(signedAmounts s statementLineIds).sum| = ((signedAmounts s statementLineIds).map abs).sum

/-- A call that goes through meets the condition of its kind. -/
def BankingOperation.Fits (s : BankingStore) (op : BankingOperation) : Prop :=
  returns op.run s = true →
    match op with
    | .create org bankAccountId input =>
      CreateFits s org bankAccountId input
    | .addAdjustment _ reconciliationId _ amount _ _ _ => AdjustmentFits s reconciliationId amount
    | .addOutstandingItem _ reconciliationId _ amount _ outstandingType _ _ =>
      OutstandingFits s reconciliationId amount outstandingType
    | .addMultiMatch _ _ statementLineIds _ => SplitFits s statementLineIds
    | _ => True

/-- Nothing is reconciled yet. -/
structure NoReconciliations (s : BankingStore) : Prop where
  amounts : s.statementLines.All fun line => AtScale 4 line.amount
  lines : s.reconciliationLines = []
  reconciliations : s.reconciliations.All fun _ => False

def bankingSystem (init : BankingStore → Prop) : System BankingStore BankingOperation :=
  System.ofFunction init BankingOperation.after

/-! ### Lines that are added -/

/-- **Lines are added** to an open reconciliation, which is rewritten. -/
theorem ReconciliationsSound.append (h : ReconciliationsSound s)
    (hr : s.reconciliations.get? k = some r) (hopen : IsOpen r)
    {f : BankReconciliation → BankReconciliation} {lines : List BankReconciliationLine}
    (hreconciliations : s'.reconciliations = s.reconciliations.modify k f)
    (happend : s'.reconciliationLines = s.reconciliationLines ++ lines)
    (hamounts : ∀ i line, s'.statementLines.get? i = some line →
      ∃ was, s.statementLines.get? i = some was ∧ line.amount = was.amount)
    (hlines : ∀ line ∈ lines, line.reconciliationId = k ∧ Shaped line)
    (hbalanced : Balanced (linesFor s.reconciliationLines k) r →
      Balanced (linesFor s.reconciliationLines k ++ lines) (f r)) :
    ReconciliationsSound s' ∧ KeepsClosed s s' := by
  have hids : ∀ line ∈ lines, line.reconciliationId = k := fun line hline => (hlines line hline).1
  have htouches : Touches k s s' := by
    refine ⟨fun r' hr' => ?_, hamounts, ?_, ?_, fun j hj => ?_, fun j hj => ?_,
      fun line hline => ?_⟩
    · obtain rfl := Option.mem_unique hr hr'
      exact hopen
    · rw [hreconciliations, next_modify]
    · rw [hreconciliations, next_modify]
      exact lt_next hr
    · rw [hreconciliations, get?_modify_of_ne hj]
    · rw [happend, linesFor_append_of_ne hids hj]
    · rw [happend] at hline
      exact (List.mem_append.mp hline).imp_right (hlines line)
  refine ⟨h.touched htouches fun r' hr' => ?_, htouches.keepsClosed⟩
  rw [hreconciliations, get?_modify_self, hr] at hr'
  obtain rfl := Option.some.inj hr'
  rw [happend, linesFor_append_self hids]
  exact hbalanced (h.balanced k r hr)

theorem ReconciliationsSound.same (h : ReconciliationsSound s)
    (hreconciliations : s'.reconciliations = s.reconciliations)
    (hlines : s'.reconciliationLines = s.reconciliationLines)
    (hamounts : ∀ i line, s'.statementLines.get? i = some line →
      ∃ was, s.statementLines.get? i = some was ∧ line.amount = was.amount) :
    ReconciliationsSound s' ∧ KeepsClosed s s' := by
  refine ⟨⟨fun i line hline => ?_, ?_, ?_⟩, fun k r hr _ => ?_⟩
  · obtain ⟨was, hwas, hamount⟩ := hamounts i line hline
    rw [hamount]
    exact h.amounts i was hwas
  · rw [hreconciliations, hlines]
    exact h.shaped
  · rw [hreconciliations, hlines]
    exact h.balanced
  · rw [hreconciliations, hlines]
    exact ⟨hr, rfl⟩

theorem amounts_same {t : BankingStore} (h : t.statementLines = s.statementLines) (i : UUID)
    (line : BankStatementLine) (hline : t.statementLines.get? i = some line) :
    ∃ was, s.statementLines.get? i = some was ∧ line.amount = was.amount :=
  ⟨line, by rw [← h]; exact hline, rfl⟩

theorem Balanced.reviewed {own : List BankReconciliationLine} (h : Balanced own r)
    {status : ReconciliationStatus}
    (happroved : status = .approved → r.reconciliationDifference = 0)
    (approvedBy reviewedBy : Option UUID) (reviewNotes : Option String) :
    Balanced own { r with status, approvedBy, reviewedBy, reviewNotes } := by
  refine ⟨?_, h.matched, h.adjustments, h.deposits, h.payments, h.difference, happroved⟩
  exact congrArg (fun q : BankReconciliation => { q with
    status, approvedBy, reviewedBy, reviewNotes }) h.stored

/-! ### Matches that are taken over -/

theorem importedLine_eq_some {row : Stored BankStatementLine} {line : BankReconciliationLine}
    (h : importedLine s k row = some line) :
    line.reconciliationId = k ∧ Matches line ∧
      line.statementAmount = some row.row.signedAmount := by
  rw [importedLine] at h
  split at h
  · exact absurd h (by simp)
  · obtain rfl := Option.some.inj h
    exact ⟨rfl, ⟨rfl, rfl, rfl⟩, rfl⟩

theorem Matches.stored {line : BankReconciliationLine} (h : Matches line) : Matches line.stored :=
  ⟨h.cleared, h.noAdjustment, h.notOutstanding⟩

theorem absoluteTotal_stored {lines : List BankReconciliationLine}
    (h : ∀ line ∈ lines, ∃ amount, line.statementAmount = some amount ∧ AtScale 4 amount) :
    absoluteTotal (lines.map BankReconciliationLine.stored) = absoluteTotal lines := by
  rw [absoluteTotal, absoluteTotal, List.map_map]
  congr 1
  refine List.map_congr_left fun line hline => ?_
  obtain ⟨amount, hamount, hscaled⟩ := h line hline
  have hsame := moneyColumn_eq_self_iff.mpr hscaled
  simp [BankReconciliationLine.stored, hamount, hsame]

theorem atScale_absoluteTotal_of_some {lines : List BankReconciliationLine}
    (h : ∀ line ∈ lines, ∃ amount, line.statementAmount = some amount ∧ AtScale 4 amount) :
    AtScale 4 (absoluteTotal lines) := by
  refine atScale_sum fun q hq => ?_
  obtain ⟨line, hline, rfl⟩ := List.mem_map.mp hq
  obtain ⟨amount, hamount, hscaled⟩ := h line hline
  rw [hamount]
  exact atScale_abs hscaled

variable {org : UUID}

/-- **A new reconciliation** is balanced, with the lines of the matches it takes over. -/
theorem ReconciliationsSound.create (h : ReconciliationsSound s)
    {bankAccountId u : UUID} {input : ReconciliationInput}
    (hrun : createReconciliation org bankAccountId input s = .ok u s')
    (hfits : CreateFits s org bankAccountId input) :
    ReconciliationsSound s' ∧ KeepsClosed s s' := by
  obtain ⟨account, haccount, rfl⟩ := createReconciliation_eq_ok hrun
  have hdifference := hfits account haccount
  set next := s.reconciliations.next with hnext
  have himported : ∀ line ∈ importedLines s next org bankAccountId input,
      line.reconciliationId = next ∧ Matches line ∧
        ∃ amount, line.statementAmount = some amount ∧ AtScale 4 amount := by
    intro line hline
    obtain ⟨row, hrow, hsome⟩ := List.mem_filterMap.mp hline
    obtain ⟨hid, hmatches, hamount⟩ := importedLine_eq_some hsome
    refine ⟨hid, hmatches, row.row.signedAmount, hamount, atScale_signedAmount ?_⟩
    exact h.amounts row.id row.row (mem_select.mp hrow).1
  set lines := importedLines s next org bankAccountId input
  have hids : ∀ line ∈ lines.map BankReconciliationLine.stored, line.reconciliationId = next := by
    intro line hline
    obtain ⟨was, hwas, rfl⟩ := List.mem_map.mp hline
    exact (himported was hwas).1
  have hmatches : ∀ line ∈ lines.map BankReconciliationLine.stored, Matches line := by
    intro line hline
    obtain ⟨was, hwas, rfl⟩ := List.mem_map.mp hline
    exact (himported was hwas).2.1.stored
  have hamounts : ∀ line ∈ lines, ∃ amount, line.statementAmount = some amount ∧
      AtScale 4 amount := fun line hline => (himported line hline).2.2
  -- no line can have the key of the new reconciliation yet
  have hnone : linesFor s.reconciliationLines next = [] := by
    refine List.filter_eq_nil_iff.mpr fun line hline hof => ?_
    have hknown := (h.shaped line hline).1
    rw [of_decide_eq_true hof] at hknown
    exact lt_irrefl _ hknown
  have htouches : Touches next s { s with
      reconciliations := s.reconciliations.insert (recalculated id (newReconciliation s
        org bankAccountId account input (absoluteTotal lines)))
      reconciliationLines := s.reconciliationLines ++
        lines.map BankReconciliationLine.stored } := by
    refine ⟨fun r hr => ?_, amounts_same rfl, ?_, ?_, fun j hj => ?_, fun j hj => ?_,
      fun line hline => (List.mem_append.mp hline).imp_right fun hnew => ?_⟩
    · rw [hnext, get?_next] at hr
      exact absurd hr (by simp)
    · rw [next_insert]
      exact Nat.le_succ _
    · rw [next_insert]
      exact Nat.lt_succ_self _
    · rw [get?_insert, if_neg hj]
    · exact linesFor_append_of_ne hids hj _
    · refine ⟨hids line hnew, ?_, fun _ => hmatches line hnew⟩
      obtain ⟨was, -, rfl⟩ := List.mem_map.mp hnew
      exact stored_stored was
  refine ⟨h.touched htouches fun r hr => ?_, htouches.keepsClosed⟩
  rw [hnext, get?_insert_self] at hr
  obtain rfl := Option.some.inj hr
  rw [linesFor_append_self hids, hnone, List.nil_append]
  refine ⟨?_, ?_, ?_, ?_, ?_, ?_, fun happroved => ?_⟩
  · simp [recalculated, BankReconciliation.stored]
  · rw [lineSum_matchedOf hmatches, absoluteTotal_stored hamounts]
    exact moneyColumn_eq_self_iff.mpr (atScale_absoluteTotal_of_some hamounts)
  · rw [lineSum_eq_zero fun line hline => (hmatches line hline).adjustmentOf]
    exact halfUp_zero 4
  · rw [lineSum_eq_zero fun line hline => (hmatches line hline).depositOf]
    exact halfUp_zero 4
  · rw [lineSum_eq_zero fun line hline => (hmatches line hline).paymentOf]
    exact halfUp_zero 4
  · have hzero : moneyColumn 0 = 0 := halfUp_zero 4
    change moneyColumn (input.statementClosingBalance -
        (glBalance s org account.glAccountId input.periodEnd + 0)) =
      moneyColumn input.statementClosingBalance -
        (moneyColumn (glBalance s org account.glAccountId input.periodEnd) +
          moneyColumn 0)
    rw [add_zero, hzero, add_zero]
    exact hdifference
  · exact absurd happroved (by simp [recalculated, BankReconciliation.stored,
      BankReconciliation.calculateDifference, newReconciliation])

/-! ### Splits -/

variable {seenLines seenJournalLines : List UUID}

theorem splitLines_mem {pairs : List (Stored BankStatementLine × Stored JournalLine)} :
    ∀ line ∈ splitLines k seenLines seenJournalLines pairs,
      line.reconciliationId = k ∧ Matches line ∧ ∃ amount, line.statementAmount = some amount ∧
        (amount = 0 ∨ ∃ pair ∈ pairs, amount = pair.1.row.signedAmount) := by
  induction pairs generalizing seenLines seenJournalLines with
  | nil => exact fun line hline => absurd hline List.not_mem_nil
  | cons pair rest ih =>
    refine List.forall_mem_cons.mpr ⟨⟨rfl, ⟨rfl, rfl, rfl⟩, _, rfl, ?_⟩, fun line hline => ?_⟩
    · split_ifs
      · exact .inl rfl
      · exact .inr ⟨pair, List.mem_cons_self, rfl⟩
    · obtain ⟨hid, hmatches, amount, hamount, hwhich⟩ := ih line hline
      refine ⟨hid, hmatches, amount, hamount, hwhich.imp_right fun hpair => ?_⟩
      obtain ⟨other, hother, hsame⟩ := hpair
      exact ⟨other, List.mem_cons_of_mem _ hother, hsame⟩

theorem absoluteTotal_cons (line : BankReconciliationLine) (lines : List BankReconciliationLine) :
    absoluteTotal (line :: lines) = |line.statementAmount.getD 0| + absoluteTotal lines := by
  rw [absoluteTotal, List.map_cons, List.sum_cons, absoluteTotal]

variable {journalLines : List (Stored JournalLine)}

theorem absoluteTotal_splitLines_seen {line : Stored BankStatementLine} (h : line.id ∈ seenLines) :
    absoluteTotal (splitLines k seenLines seenJournalLines
      (journalLines.map fun journalLine => (line, journalLine))) = 0 := by
  induction journalLines generalizing seenLines seenJournalLines with
  | nil => rfl
  | cons journalLine rest ih =>
    rw [List.map_cons, splitLines, absoluteTotal_cons, ih (List.mem_cons_of_mem _ h), if_pos h]
    simp

theorem absoluteTotal_splitLines {journalLine : Stored JournalLine}
    {lines : List (Stored BankStatementLine)}
    (hnodup : (lines.map Stored.id).Nodup) (hnew : ∀ line ∈ lines, line.id ∉ seenLines) :
    absoluteTotal (splitLines k seenLines seenJournalLines
      (lines.map fun line => (line, journalLine))) =
      (lines.map fun line => |line.row.signedAmount|).sum := by
  induction lines generalizing seenLines seenJournalLines with
  | nil => rfl
  | cons line rest ih =>
    obtain ⟨hline, hrest⟩ := List.nodup_cons.mp hnodup
    rw [List.map_cons, splitLines, absoluteTotal_cons, if_neg (hnew line List.mem_cons_self),
      List.map_cons, List.sum_cons, ih hrest]
    · rfl
    · intro other hother hmem
      rcases List.mem_cons.mp hmem with hsame | hseen
      · exact hline (List.mem_map.mpr ⟨other, hother, hsame⟩)
      · exact hnew other (List.mem_cons_of_mem _ hother) hseen

theorem mem_splitPairs {lines : List (Stored BankStatementLine)}
    {pair : Stored BankStatementLine × Stored JournalLine}
    (h : pair ∈ splitPairs lines journalLines) : pair.1 ∈ lines ∧ pair.2 ∈ journalLines := by
  unfold splitPairs at h
  split at h
  · obtain ⟨journalLine, hjournal, rfl⟩ := List.mem_map.mp h
    exact ⟨List.mem_singleton_self _, hjournal⟩
  · split at h
    · exact absurd h List.not_mem_nil
    · obtain ⟨line, hmem, rfl⟩ := List.mem_map.mp h
      exact ⟨hmem, List.mem_cons_self⟩

theorem map_matchKey_splitMatches (groupId : UUID) (isPrimary : Bool)
    (pairs : List (Stored BankStatementLine × Stored JournalLine)) :
    (splitMatches groupId isPrimary pairs).map matchKey =
      pairs.map fun pair => (pair.1.id, pair.2.id) := by
  induction pairs generalizing isPrimary with
  | nil => rfl
  | cons pair rest ih =>
    rw [splitMatches, List.map_cons, List.map_cons, ih]
    rfl

/-- **What a split records** is the sum of the absolute amounts of its statement lines. -/
theorem absoluteTotal_split {groupId : UUID} {lines : List (Stored BankStatementLine)}
    (htie : (lines.map fun r => r.row.signedAmount).sum =
      (journalLines.map fun r => r.row.glAmount).sum)
    (hsingle : lines.length = 1 ∨ journalLines.length = 1)
    (hnodup : ((splitMatches groupId true (splitPairs lines journalLines)).map matchKey).Nodup) :
    absoluteTotal (splitLines k [] [] (splitPairs lines journalLines)) =
      (lines.map fun line => |line.row.signedAmount|).sum := by
  by_cases hone : lines.length = 1
  · obtain ⟨line, rfl⟩ := List.length_eq_one_iff.mp hone
    rw [splitPairs]
    cases journalLines with
    | nil =>
      have hzero : line.row.signedAmount = 0 := by simpa using htie
      simp [splitLines, absoluteTotal, hzero]
    | cons journalLine rest =>
      rw [List.map_cons, splitLines, absoluteTotal_cons, if_neg List.not_mem_nil,
        absoluteTotal_splitLines_seen List.mem_cons_self]
      simp
  · obtain ⟨journalLine, rfl⟩ := List.length_eq_one_iff.mp (hsingle.resolve_left hone)
    have hpairs : splitPairs lines [journalLine] = lines.map fun line => (line, journalLine) := by
      rw [splitPairs]
      intro line hline
      exact hone (by rw [hline]; rfl)
    rw [hpairs, map_matchKey_splitMatches, List.map_map] at hnodup
    rw [hpairs]
    refine absoluteTotal_splitLines ?_ fun line _ => List.not_mem_nil
    refine List.Nodup.of_map (fun i => (i, journalLine.id)) ?_
    rw [List.map_map]
    exact hnodup

theorem signedAmounts_eq {lines : List (Stored BankStatementLine)}
    (h : ∀ row ∈ lines, s.statementLines.get? row.id = some row.row) :
    signedAmounts s (lines.map Stored.id) = lines.map fun r => r.row.signedAmount := by
  rw [signedAmounts, List.map_map]
  refine List.map_congr_left fun row hrow => ?_
  rw [Function.comp_apply, h row hrow]
  rfl

/-! ### One operation -/

theorem linesFor_filter (lines : List BankReconciliationLine)
    (p : BankReconciliationLine → Bool) (j : UUID) :
    linesFor (lines.filter p) j = (linesFor lines j).filter p := by
  rw [linesFor, linesFor, List.filter_filter, List.filter_filter]
  exact List.filter_congr fun line _ => Bool.and_comm _ _

theorem IsOpen.not_approved (h : IsOpen r) : r.status ≠ .approved := by
  intro hstatus
  rw [IsOpen, hstatus] at h
  exact absurd h (by decide)

theorem IsOpen.of_draft (h : r.status = .draft) : IsOpen r := by
  rw [IsOpen, h]
  decide

theorem IsOpen.of_pendingReview (h : r.status = .pendingReview) : IsOpen r := by
  rw [IsOpen, h]
  decide

theorem ReconciliationsSound.withLine (h : ReconciliationsSound s)
    (hr : s.reconciliations.get? k = some r) (hopen : IsOpen r) {line : BankReconciliationLine}
    {f : BankReconciliation → BankReconciliation} (hid : line.reconciliationId = k)
    (hmatches : line.statementLineId ≠ none → Matches line)
    (hlines : s'.reconciliationLines = s.reconciliationLines ++ [line.stored])
    (hreconciliations : s'.reconciliations = s.reconciliations.modify k (recalculated f))
    (hamounts : ∀ i line, s'.statementLines.get? i = some line →
      ∃ was, s.statementLines.get? i = some was ∧ line.amount = was.amount)
    (hbalanced : Balanced (linesFor s.reconciliationLines k) r →
      Balanced (linesFor s.reconciliationLines k ++ [line.stored]) (recalculated f r)) :
    ReconciliationsSound s' ∧ KeepsClosed s s' := by
  refine h.append hr hopen hreconciliations hlines hamounts (fun added hadded => ?_) hbalanced
  obtain rfl := List.mem_singleton.mp hadded
  exact ⟨hid, stored_stored line, fun hsome => (hmatches hsome).stored⟩

theorem ReconciliationsSound.addMultiMatch (h : ReconciliationsSound s)
    {statementLineIds journalLineIds : List UUID} {u : PUnit}
    (hrun : addMultiMatch org k statementLineIds journalLineIds s = .ok u s')
    (hfits : SplitFits s statementLineIds) : ReconciliationsSound s' ∧ KeepsClosed s s' := by
  obtain ⟨r, lines, journalLines, hr, hopen, rfl, hrows, -, htie, hsingle, hnodup, rfl⟩ :=
    addMultiMatch_eq_ok hrun
  rw [List.map_append, List.nodup_append] at hnodup
  have hrecorded := absoluteTotal_split (k := k) htie hsingle hnodup.2.1
  rw [SplitFits, signedAmounts_eq hrows, List.map_map] at hfits
  have hscaled : ∀ line ∈ splitLines k [] [] (splitPairs lines journalLines),
      ∃ amount, line.statementAmount = some amount ∧ AtScale 4 amount := by
    intro line hline
    obtain ⟨-, -, amount, hamount, rfl | ⟨pair, hpair, rfl⟩⟩ := splitLines_mem line hline
    · exact ⟨0, hamount, atScale_zero 4⟩
    · exact ⟨_, hamount, atScale_signedAmount (h.amounts pair.1.id _
        (hrows _ (mem_splitPairs hpair).1))⟩
  have hmatches : ∀ line ∈ (splitLines k [] [] (splitPairs lines journalLines)).map
      BankReconciliationLine.stored, line.reconciliationId = k ∧ Matches line := by
    intro line hline
    obtain ⟨was, hwas, rfl⟩ := List.mem_map.mp hline
    obtain ⟨hid, hmatches, -⟩ := splitLines_mem was hwas
    exact ⟨hid, hmatches.stored⟩
  refine h.append hr hopen rfl rfl (fun i line hline => ?_) (fun line hline => ?_)
    fun hbalanced => hbalanced.addMatched hopen.not_approved
      (fun line hline => (hmatches line hline).2) ?_ ?_
  · rw [get?_mapRows] at hline
    obtain ⟨was, hwas, rfl⟩ := Option.map_eq_some_iff.mp hline
    refine ⟨was, hwas, ?_⟩
    split_ifs <;> rfl
  · refine ⟨(hmatches line hline).1, ?_, fun _ => (hmatches line hline).2⟩
    obtain ⟨was, -, rfl⟩ := List.mem_map.mp hline
    exact stored_stored was
  · refine atScale_abs (atScale_sum fun q hq => ?_)
    obtain ⟨row, hrow, rfl⟩ := List.mem_map.mp hq
    exact atScale_signedAmount (h.amounts row.id _ (hrows row hrow))
  · rw [absoluteTotal_stored hscaled, hrecorded]
    exact hfits

theorem ReconciliationsSound.unmatch (h : ReconciliationsSound s) {statementLineId : UUID}
    {u : PUnit} (hrun : unmatch org k statementLineId s = .ok u s') :
    ReconciliationsSound s' ∧ KeepsClosed s s' := by
  obtain ⟨r, line, hr, hopen, -, rfl⟩ := unmatch_eq_ok hrun
  have hkeeps : ∀ j, j ≠ k → linesFor (s.reconciliationLines.filter fun line =>
      !matchesLine k statementLineId line) j = linesFor s.reconciliationLines j := by
    intro j hj
    rw [linesFor_filter]
    refine List.filter_eq_self.mpr fun line hline => ?_
    have hof : line.reconciliationId = j := of_decide_eq_true (List.mem_filter.mp hline).2
    have hother : matchesLine k statementLineId line = false := by
      rw [matchesLine, decide_eq_false_iff_not]
      rintro ⟨hk, -⟩
      exact hj (hof.symm.trans hk)
    rw [hother]
    rfl
  have htouches : Touches k s { s with
      reconciliations := s.reconciliations.modify k (recalculated (removeMatched
        (absoluteTotal (s.reconciliationLines.filter (matchesLine k statementLineId)))))
      reconciliationLines := s.reconciliationLines.filter fun line =>
        !matchesLine k statementLineId line
      statementLines := s.statementLines.modify statementLineId (flagged false)
      lineMatches := matchesWithout s statementLineId } := by
    refine ⟨fun r' hr' => ?_, fun i line hline => amounts_modify hline, le_refl _, ?_,
      fun j hj => get?_modify_of_ne hj _, hkeeps, fun line hline =>
        .inl (List.mem_filter.mp hline).1⟩
    · obtain rfl := Option.mem_unique hr hr'
      exact hopen
    · rw [next_modify]
      exact lt_next hr
  refine ⟨h.touched htouches fun r' hr' => ?_, htouches.keepsClosed⟩
  change (s.reconciliations.modify k _).get? k = some r' at hr'
  rw [get?_modify_self, hr] at hr'
  obtain rfl := Option.some.inj hr'
  have hgroup : s.reconciliationLines.filter (matchesLine k statementLineId) =
      (linesFor s.reconciliationLines k).filter (matchesLine k statementLineId) := by
    rw [linesFor, List.filter_filter]
    refine List.filter_congr fun line _ => ?_
    by_cases hk : line.reconciliationId = k
    · rw [decide_eq_true hk, Bool.and_true]
    · have hother : matchesLine k statementLineId line = false := by
        rw [matchesLine, decide_eq_false_iff_not]
        exact fun hall => hk hall.1
      rw [hother, Bool.false_and]
  have hmem : ∀ line ∈ linesFor s.reconciliationLines k, line ∈ s.reconciliationLines :=
    fun line hline => (List.mem_filter.mp hline).1
  have hbalanced := (h.balanced k r hr).removeMatched hopen.not_approved
    (p := matchesLine k statementLineId) (fun line hline => (h.shaped line (hmem line hline)).2)
    fun line hline hmatch => by
      obtain ⟨-, hsome, -⟩ := of_decide_eq_true hmatch
      refine (h.shaped line (hmem line hline)).2.matching ?_
      rw [hsome]
      exact Option.some_ne_none _
  change Balanced (linesFor (s.reconciliationLines.filter fun line =>
    !matchesLine k statementLineId line) k) _
  rw [linesFor_filter, hgroup]
  exact hbalanced

theorem ReconciliationsSound.lineMatched {i j : UUID} {line : BankStatementLine}
    {matchState : MatchState} (h : ReconciliationsSound s)
    (hmatched : LineMatched i j line s matchState s') :
    ReconciliationsSound s' ∧ KeepsClosed s s' := by
  cases hmatched with
  | known => exact ⟨h, keepsClosed_refl s⟩
  | flagged => exact h.same rfl rfl fun i line hline => amounts_modify hline
  | suggested => exact h.same rfl rfl (amounts_same rfl)
  | confirmed => exact h.same rfl rfl fun i line hline => amounts_modify hline

/-- **One operation** that fits keeps the reconciliations sound, and the closed ones as they
are. -/
theorem sound_after (h : ReconciliationsSound s) {op : BankingOperation}
    (hfits : BankingOperation.Fits s op) :
    ReconciliationsSound (BankingOperation.after s op) ∧
      KeepsClosed s (BankingOperation.after s op) := by
  refine commit_induction (P := fun t : BankingStore => ReconciliationsSound t ∧ KeepsClosed s t)
    ⟨h, keepsClosed_refl s⟩ fun u s' hrun => ?_
  have hcondition := hfits (returns_iff.mpr ⟨u, s', hrun⟩)
  cases op with
  | create org bankAccountId input =>
    obtain ⟨i, hcreate, -⟩ := map_eq_ok.mp hrun
    exact h.create hcreate hcondition
  | addMatch org reconciliationId input forceMatch =>
    obtain ⟨r, line, glAmount, hr, hopen, hline, rfl⟩ := addMatch_eq_ok hrun
    have hscaled := atScale_signedAmount (h.amounts _ line hline)
    have hmatches : Matches (matchLine reconciliationId input line glAmount) := ⟨rfl, rfl, rfl⟩
    refine h.withLine hr hopen rfl (fun _ => hmatches) rfl rfl
      (fun i line hline => amounts_modify hline) fun hbalanced => ?_
    refine hbalanced.addMatched hopen.not_approved (fun added hadded => ?_)
      (atScale_abs hscaled) ?_
    · obtain rfl := List.mem_singleton.mp hadded
      exact hmatches.stored
    · rw [absoluteTotal, List.map_singleton, List.sum_singleton]
      change |line.signedAmount| = |moneyColumn line.signedAmount|
      rw [moneyColumn_eq_self_iff.mpr hscaled]
  | addMultiMatch org reconciliationId statementLineIds journalLineIds =>
    exact h.addMultiMatch hrun hcondition
  | unmatch org reconciliationId statementLineId => exact h.unmatch hrun
  | addAdjustment org reconciliationId transactionDate amount description
      adjustmentType adjustmentAccountId =>
    obtain ⟨r, hr, rfl⟩ := addAdjustment_eq_ok hrun
    obtain ⟨hopen, hcarries, hdifference⟩ := hcondition r hr
    exact h.withLine hr hopen rfl (fun hsome => absurd rfl hsome) rfl rfl (amounts_same rfl)
      fun hbalanced => hbalanced.adjust hopen.not_approved hcarries hdifference _ _ _ _ _
  | addOutstandingItem org reconciliationId transactionDate amount description
      outstandingType reference journalLineId =>
    obtain ⟨r, hr, rfl⟩ := addOutstandingItem_eq_ok hrun
    obtain ⟨hopen, hcarries⟩ := hcondition r hr
    exact h.withLine hr hopen rfl (fun hsome => absurd rfl hsome) rfl rfl (amounts_same rfl)
      fun hbalanced => hbalanced.addOutstanding hopen.not_approved hcarries _ _ _ _ _
  | submit org reconciliationId =>
    obtain ⟨r, hr, hstatus, rfl⟩ := submitForReview_eq_ok hrun
    refine h.append hr (.of_draft hstatus) (f := fun r => { r with status := .pendingReview }) rfl
      (List.append_nil _).symm (amounts_same rfl)
      (fun line hline => absurd hline List.not_mem_nil) fun hbalanced => ?_
    rw [List.append_nil]
    exact hbalanced.reviewed (fun happroved => absurd happroved (by decide)) _ _ _
  | approve org reconciliationId approvedBy notes =>
    obtain ⟨r, f, hr, hstatus, hzero, rfl⟩ := approve_eq_ok hrun
    refine h.append hr (.of_pendingReview hstatus) (f := fun r => { r with
      status := .approved
      approvedBy := some approvedBy
      reviewNotes := (notes.filter fun text => text ≠ "").or r.reviewNotes }) rfl
      (List.append_nil _).symm (amounts_same rfl)
      (fun line hline => absurd hline List.not_mem_nil) fun hbalanced => ?_
    rw [List.append_nil]
    exact hbalanced.reviewed (fun _ => hzero) _ _ _
  | reject org reconciliationId rejectedBy notes =>
    obtain ⟨r, hr, hstatus, rfl⟩ := reject_eq_ok hrun
    refine h.append hr (.of_pendingReview hstatus) (f := fun r => { r with
      status := .rejected
      reviewedBy := some rejectedBy
      reviewNotes := some notes }) rfl (List.append_nil _).symm (amounts_same rfl)
      (fun line hline => absurd hline List.not_mem_nil) fun hbalanced => ?_
    rw [List.append_nil]
    exact hbalanced.reviewed (fun happroved => absurd happroved (by decide)) _ _ _
  | matchLine org statementLineId journalLineId forceMatch matchState =>
    obtain ⟨line, -, hmatched⟩ := matchStatementLine_eq_ok hrun
    exact h.lineMatched hmatched
  | multiMatchLine org statementLineId journalLineIds forceMatch =>
    obtain ⟨line, -, -, -, -, rfl⟩ := multiMatchStatementLine_eq_ok hrun
    exact h.same rfl rfl fun i line hline => amounts_modify hline
  | unmatchLine org statementLineId =>
    obtain ⟨line, -, -, rfl⟩ := unmatchStatementLine_eq_ok hrun
    exact h.same rfl rfl fun i line hline => amounts_modify hline

/-! ### Runs -/

theorem NoReconciliations.sound (h : NoReconciliations s) : ReconciliationsSound s := by
  refine ⟨h.amounts, fun line hline => ?_, fun k r hr => (h.reconciliations k r hr).elim⟩
  rw [h.lines] at hline
  exact absurd hline List.not_mem_nil

/-- The totals of a reconciliation are those of its lines. -/
structure Explained (s : BankingStore) (k : UUID) (r : BankReconciliation) : Prop where
  /-- The matched total. -/
  matched : r.totalMatched = lineSum matchedOf (linesFor s.reconciliationLines k)
  /-- The adjustments. -/
  adjustments : r.totalAdjustments = lineSum adjustmentOf (linesFor s.reconciliationLines k)
  /-- The outstanding deposits. -/
  deposits : r.outstandingDeposits = lineSum depositOf (linesFor s.reconciliationLines k)
  /-- The outstanding payments. -/
  payments : r.outstandingPayments = lineSum paymentOf (linesFor s.reconciliationLines k)
  /-- Nothing is left unexplained in what is approved. -/
  approved : r.status = .approved → r.reconciliationDifference = 0

/-- **Reconciliations are explained** in every run that fits: their totals are the sums over their
lines, their difference is the one of the adjusted balances if and only if the outstanding items
cancel, and what is approved or rejected never changes. -/
theorem reconciliations_explained (s : BankingStore)
    (hs : (bankingSystem NoReconciliations).ReachableWithin BankingOperation.Fits s) :
    (∀ k r, s.reconciliations.get? k = some r → Explained s k r ∧
      (r.reconciliationDifference = r.adjustedBankBalance - r.adjustedBookBalance ↔
        r.outstandingDeposits = r.outstandingPayments)) ∧
    ∀ s', (bankingSystem NoReconciliations).RunWithin BankingOperation.Fits s s' →
      KeepsClosed s s' := by
  have hsound : ReconciliationsSound s := by
    refine hs.invariant (P := ReconciliationsSound) (fun s₀ hinit => hinit.sound) ?_
    rintro s₁ op s₂ hs₁ hfits rfl
    exact (sound_after hs₁ hfits).1
  constructor
  · intro k r hr
    have hbalanced := hsound.balanced k r hr
    exact ⟨⟨hbalanced.matched, hbalanced.adjustments, hbalanced.deposits, hbalanced.payments,
      hbalanced.approved⟩, hbalanced.difference_iff⟩
  · intro s' hrun
    refine hrun.relates (P := ReconciliationsSound) (R := KeepsClosed) ?_ hsound
      keepsClosed_refl (fun a b c hab hbc => hab.trans hbc) ?_
    · rintro s₁ op s₂ hs₁ hfits rfl
      exact (sound_after hs₁ hfits).1
    · rintro s₁ op s₂ hs₁ hfits rfl
      exact (sound_after hs₁ hfits).2

/-! ### Two runs -/

instance (s : BankingStore) (org bankAccountId : UUID) (input : ReconciliationInput) :
    Decidable (CreateFits s org bankAccountId input) :=
  inferInstanceAs (Decidable (∀ account ∈ s.accounts.get? bankAccountId, _ = _))

instance (total amount : ℚ) : Decidable (Carries total amount) :=
  inferInstanceAs (Decidable (_ = _))

instance (s : BankingStore) (reconciliationId : UUID) (amount : ℚ) :
    Decidable (AdjustmentFits s reconciliationId amount) :=
  inferInstanceAs (Decidable (∀ r ∈ s.reconciliations.get? reconciliationId, _ ∧ _ ∧ _ = _))

instance (s : BankingStore) (reconciliationId : UUID) (amount : ℚ) (outstandingType : String) :
    Decidable (OutstandingFits s reconciliationId amount outstandingType) :=
  inferInstanceAs (Decidable (∀ r ∈ s.reconciliations.get? reconciliationId, _ ∧ _))

instance (s : BankingStore) (statementLineIds : List UUID) :
    Decidable (SplitFits s statementLineIds) :=
  inferInstanceAs (Decidable (_ = _))

/-- Nothing is asked. -/
def decidableOfTrivial (p : Prop) : Decidable (p → True) := isTrue fun _ => trivial

instance (s : BankingStore) (op : BankingOperation) : Decidable (BankingOperation.Fits s op) := by
  cases op with
  | create org bankAccountId input =>
    exact inferInstanceAs (Decidable (_ = _ → CreateFits s org bankAccountId input))
  | addAdjustment org reconciliationId transactionDate amount description
      adjustmentType adjustmentAccountId =>
    exact inferInstanceAs (Decidable (_ = _ → AdjustmentFits s reconciliationId amount))
  | addOutstandingItem org reconciliationId transactionDate amount description
      outstandingType reference journalLineId =>
    exact inferInstanceAs (Decidable (_ = _ →
      OutstandingFits s reconciliationId amount outstandingType))
  | addMultiMatch org reconciliationId statementLineIds journalLineIds =>
    exact inferInstanceAs (Decidable (_ = _ → SplitFits s statementLineIds))
  | addMatch | unmatch | submit | approve | reject | matchLine | multiMatchLine | unmatchLine =>
    exact decidableOfTrivial _

instance (op : BankingOperation) : Decidable op.Reconciles := by
  cases op with
  | matchLine | multiMatchLine | unmatchLine => exact instDecidableFalse
  | create | addMatch | addMultiMatch | unmatch | addAdjustment | addOutstandingItem | submit
  | approve | reject => exact instDecidableTrue

def valueDay : Date := ⟨2024, 8, 12, by decide⟩

def bankLine (lineNumber : ℤ) (transactionType : StatementLineType) (amount : ℚ) :
    BankStatementLine where
  statementId := 0
  lineNumber
  transactionId := none
  transactionDate := valueDay
  transactionType
  amount
  description := none
  reference := none
  bankReference := none

def bookLine (debitAmount creditAmount : ℚ) : JournalLine where
  organizationId := 1
  accountId := 5
  entryDate := valueDay
  isPosted := true
  debitAmount
  creditAmount

def monthInput (statementClosingBalance : ℚ) : ReconciliationInput where
  reconciliationDate := ⟨2024, 8, 31, by decide⟩
  periodStart := ⟨2024, 8, 1, by decide⟩
  periodEnd := ⟨2024, 8, 31, by decide⟩
  statementOpeningBalance := 0
  statementClosingBalance

/-- Money in and a payment, by the statement and by the books, which also hold a late deposit. -/
def monthBooks : BankingStore where
  accounts := Table.empty.insert { organizationId := 1, glAccountId := 5, currencyCode := "USD" }
  statements := Table.empty.insert {
    organizationId := 1
    bankAccountId := 0
    statementNumber := "S-8"
    statementDate := none
    periodStart := ⟨2024, 8, 1, by decide⟩
    periodEnd := ⟨2024, 8, 31, by decide⟩
    openingBalance := none
    closingBalance := none
    totalCredits := 100
    totalDebits := 30
    currencyCode := "USD"
    totalLines := 2
    unmatchedLines := 2 }
  statementLines := (Table.empty.insert (bankLine 1 .credit 100)).insert (bankLine 2 .debit 30)
  lineMatches := []
  journalLines := ((Table.empty.insert (bookLine 100 0)).insert (bookLine 0 30)).insert
    (bookLine 40 0)
  reconciliations := Table.empty
  reconciliationLines := []

theorem noReconciliations_monthBooks : NoReconciliations monthBooks := by
  refine ⟨?_, rfl, all_empty⟩
  exact (all_empty.insert ⟨1000000, by norm_num [bankLine]⟩).insert
    ⟨300000, by norm_num [bankLine]⟩

def approvedRun : List BankingOperation :=
  [.create 1 0 (monthInput 100),
    .addMatch 1 0 { statementLineId := 0, journalLineId := 0 } false,
    .addMultiMatch 1 0 [1] [1],
    .addAdjustment 1 0 valueDay (-10) "Charge" "fee" none,
    .addOutstandingItem 1 0 valueDay 40 "Late" "deposit" none (some 2),
    .addOutstandingItem 1 0 valueDay 40 "Cheque" "payment" none none,
    .submit 1 0, .approve 1 0 7 none]

theorem reconciliations_explained_sample :
    let s := System.after BankingOperation.after monthBooks approvedRun
    (s.reconciliations.get? 0).map (fun r =>
        (r.status, r.totalMatched, r.totalAdjustments, r.outstandingDeposits)) =
        some (.approved, 130, -10, 40) ∧
      (∀ r, s.reconciliations.get? 0 = some r → Explained s 0 r ∧
        r.reconciliationDifference = r.adjustedBankBalance - r.adjustedBookBalance) ∧
      KeepsClosed s (BankingOperation.after s (.unmatch 1 0 0)) := by
  have hrun : (bankingSystem NoReconciliations).ReachableWithin BankingOperation.Fits
      (System.after BankingOperation.after monthBooks approvedRun) :=
    System.reachableWithin_after noReconciliations_monthBooks (by decide +kernel)
  refine ⟨by decide +kernel, fun r hr => ?_, ?_⟩
  · obtain ⟨hexplained, hdifference⟩ := (reconciliations_explained _ hrun).1 0 r hr
    have hsame : ∀ r ∈ (System.after BankingOperation.after monthBooks
        approvedRun).reconciliations.get? 0, r.outstandingDeposits = r.outstandingPayments := by
      decide +kernel
    exact ⟨hexplained, hdifference.mpr (hsame r hr)⟩
  · have hfits : BankingOperation.Fits (System.after BankingOperation.after monthBooks approvedRun)
        (.unmatch 1 0 0) := by
      decide +kernel
    exact (reconciliations_explained _ hrun).2 _ (Relation.ReflTransGen.single ⟨_, hfits, rfl⟩)

def lateDepositRun : List BankingOperation :=
  [.create 1 0 (monthInput 70), .addOutstandingItem 1 0 valueDay 40 "Late" "deposit" none (some 2)]

/-- **The difference ignores what is outstanding**: the books are ahead of the bank by a deposit
that is on its way, and the difference is as if nobody knew. -/
theorem difference_with_late_deposit :
    ¬ ((∀ s, (bankingSystem NoReconciliations).ReachableWithin (fun _ op => op.Reconciles) s →
        ∀ k r, s.reconciliations.get? k = some r → Explained s k r ∧
          r.reconciliationDifference = r.adjustedBankBalance - r.adjustedBookBalance) ∧
      ∀ s s', (bankingSystem NoReconciliations).ReachableWithin (fun _ op => op.Reconciles) s →
        (bankingSystem NoReconciliations).RunWithin (fun _ op => op.Reconciles) s s' →
          KeepsClosed s s') := by
  rintro ⟨h, -⟩
  have hrun : (bankingSystem NoReconciliations).ReachableWithin (fun _ op => op.Reconciles)
      (System.after BankingOperation.after monthBooks lateDepositRun) :=
    System.reachableWithin_after noReconciliations_monthBooks (by decide +kernel)
  have hwrong : ((System.after BankingOperation.after monthBooks
      lateDepositRun).reconciliations.get? 0).map (fun r => (r.reconciliationDifference,
        r.adjustedBankBalance - r.adjustedBookBalance)) = some (-40, 0) := by
    decide +kernel
  obtain ⟨r, hr, hpair⟩ := Option.map_eq_some_iff.mp hwrong
  obtain ⟨hdifference, hzero⟩ := Prod.mk.inj hpair
  have hsame := (h _ hrun 0 r hr).2
  rw [hdifference, hzero] at hsame
  exact absurd hsame (by decide)

end BankReconciliationService

end DotmacErp.Banking
