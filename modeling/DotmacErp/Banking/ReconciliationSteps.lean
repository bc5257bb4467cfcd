import DotmacErp.Banking.Matching
import DotmacErp.Foundation.Selections
import DotmacErp.Foundation.TableSums

/-!
# What the calls on reconciliations leave

The totals of a reconciliation are sums over its lines (`Balanced`): of the adjustments, the
outstanding deposits and payments, and the absolute amounts of what is matched. Its difference is
what the statement closes with, less the adjusted balance of the books.

A call that touches a reconciliation rewrites it and its lines, and no other (`Touches`).
-/

namespace DotmacErp.Banking

open Calendar Relational Session Table Rounding

@[simp] theorem moneyColumn_moneyColumn (q : ℚ) : moneyColumn (moneyColumn q) = moneyColumn q :=
  halfUp_halfUp 4 q

namespace BankReconciliationService

variable {s s' : BankingStore} {k : UUID} {r : BankReconciliation}
  {own own' : List BankReconciliationLine}

/-! ### Sums over lines -/

def linesFor (lines : List BankReconciliationLine) (reconciliationId : UUID) :
    List BankReconciliationLine :=
  lines.filter fun line => decide (line.reconciliationId = reconciliationId)

def adjustmentOf (line : BankReconciliationLine) : ℚ :=
  if line.isAdjustment = true then line.statementAmount.getD 0 else 0

def depositOf (line : BankReconciliationLine) : ℚ :=
  if line.isOutstanding = true ∧ line.outstandingType = some "deposit" then line.glAmount.getD 0
  else 0

def paymentOf (line : BankReconciliationLine) : ℚ :=
  if line.isOutstanding = true ∧ line.outstandingType ≠ some "deposit" then
    -(line.glAmount.getD 0)
  else 0

def matchedOf (line : BankReconciliationLine) : ℚ :=
  if line.isCleared = true ∧ line.isAdjustment = false then |line.statementAmount.getD 0| else 0

def lineSum (weight : BankReconciliationLine → ℚ) (lines : List BankReconciliationLine) : ℚ :=
  (lines.map weight).sum

@[simp] theorem lineSum_append (weight : BankReconciliationLine → ℚ)
    (lines lines' : List BankReconciliationLine) :
    lineSum weight (lines ++ lines') = lineSum weight lines + lineSum weight lines' := by
  rw [lineSum, List.map_append, List.sum_append, lineSum, lineSum]

@[simp] theorem lineSum_singleton (weight : BankReconciliationLine → ℚ)
    (line : BankReconciliationLine) : lineSum weight [line] = weight line := by
  rw [lineSum, List.map_singleton, List.sum_singleton]

variable {lines : List BankReconciliationLine}

theorem lineSum_eq_zero {weight : BankReconciliationLine → ℚ} (h :
    ∀ line ∈ lines, weight line = 0) :
    lineSum weight lines = 0 := by
  refine List.sum_eq_zero fun q hq => ?_
  obtain ⟨line, hline, rfl⟩ := List.mem_map.mp hq
  exact h line hline

structure Balanced (own : List BankReconciliationLine) (r : BankReconciliation) : Prop where
  stored : r.stored = r
  matched : r.totalMatched = lineSum matchedOf own
  adjustments : r.totalAdjustments = lineSum adjustmentOf own
  deposits : r.outstandingDeposits = lineSum depositOf own
  payments : r.outstandingPayments = lineSum paymentOf own
  difference : r.reconciliationDifference = r.statementClosingBalance - r.adjustedBookBalance
  approved : r.status = .approved → r.reconciliationDifference = 0

/-- **The difference is what is unexplained** if and only if the outstanding items cancel. -/
theorem Balanced.difference_iff (h : Balanced own r) :
    r.reconciliationDifference = r.adjustedBankBalance - r.adjustedBookBalance ↔
      r.outstandingDeposits = r.outstandingPayments := by
  rw [h.difference, BankReconciliation.adjustedBankBalance]
  constructor
  · intro hsame
    linarith
  · intro hsame
    rw [hsame]
    ring

def withTotals (matched adjustments deposits payments : ℚ) (r : BankReconciliation) :
    BankReconciliation :=
  { r with
    totalMatched := matched
    totalAdjustments := adjustments
    outstandingDeposits := deposits
    outstandingPayments := payments }

/-- **New totals**, as they are stored, for new lines. -/
theorem Balanced.withTotals (h : Balanced own r) (hopen : r.status ≠ .approved)
    {matched adjustments deposits payments : ℚ}
    (hmatched : moneyColumn matched = lineSum matchedOf own')
    (hadjustments : moneyColumn adjustments = lineSum adjustmentOf own')
    (hdeposits : moneyColumn deposits = lineSum depositOf own')
    (hpayments : moneyColumn payments = lineSum paymentOf own')
    (hdifference : moneyColumn (r.statementClosingBalance -
      (r.glClosingBalance + adjustments)) =
        r.statementClosingBalance - (r.glClosingBalance + moneyColumn adjustments)) :
    Balanced own' (recalculated (withTotals matched adjustments deposits payments) r) := by
  have hclosing : moneyColumn r.statementClosingBalance = r.statementClosingBalance :=
    congrArg BankReconciliation.statementClosingBalance h.stored
  have hgl : moneyColumn r.glClosingBalance = r.glClosingBalance :=
    congrArg BankReconciliation.glClosingBalance h.stored
  refine ⟨?_, hmatched, hadjustments, hdeposits, hpayments, ?_, fun happroved => ?_⟩
  · simp [recalculated, BankReconciliation.stored]
  · change moneyColumn (r.statementClosingBalance - (r.glClosingBalance + adjustments)) =
      moneyColumn r.statementClosingBalance -
        (moneyColumn r.glClosingBalance + moneyColumn adjustments)
    rw [hclosing, hgl, hdifference]
  · exact absurd happroved hopen

/-! ### Amounts at the scale of their column -/

theorem moneyColumn_eq_self_iff {q : ℚ} : moneyColumn q = q ↔ AtScale 4 q := by
  constructor
  · intro h
    rw [← h]
    exact atScale_halfUp 4 q
  · exact halfUp_of_atScale

theorem Balanced.scaled (h : Balanced own r) :
    AtScale 4 r.statementClosingBalance ∧ AtScale 4 r.glClosingBalance ∧
      AtScale 4 r.totalMatched ∧ AtScale 4 r.totalAdjustments ∧
      AtScale 4 r.outstandingDeposits ∧ AtScale 4 r.outstandingPayments := by
  have hstored := h.stored
  refine ⟨?_, ?_, ?_, ?_, ?_, ?_⟩ <;> apply moneyColumn_eq_self_iff.mp
  · exact congrArg BankReconciliation.statementClosingBalance hstored
  · exact congrArg BankReconciliation.glClosingBalance hstored
  · exact congrArg BankReconciliation.totalMatched hstored
  · exact congrArg BankReconciliation.totalAdjustments hstored
  · exact congrArg BankReconciliation.outstandingDeposits hstored
  · exact congrArg BankReconciliation.outstandingPayments hstored

theorem Balanced.difference_scaled (h : Balanced own r) {adjustments : ℚ}
    (hadjustments : AtScale 4 adjustments) :
    moneyColumn (r.statementClosingBalance - (r.glClosingBalance + adjustments)) =
      r.statementClosingBalance - (r.glClosingBalance + moneyColumn adjustments) := by
  obtain ⟨hclosing, hgl, -⟩ := h.scaled
  rw [moneyColumn_eq_self_iff.mpr hadjustments]
  exact moneyColumn_eq_self_iff.mpr (hclosing.sub (hgl.add hadjustments))

theorem atScale_abs {q : ℚ} (h : AtScale 4 q) : AtScale 4 |q| := by
  rcases abs_choice q with hq | hq <;> rw [hq]
  · exact h
  · exact h.neg

theorem atScale_signedAmount {line : BankStatementLine} (h : AtScale 4 line.amount) :
    AtScale 4 line.signedAmount := by
  rw [BankStatementLine.signedAmount]
  split_ifs
  · exact h
  · exact h.neg

/-! ### Lines of matches -/

structure Matches (line : BankReconciliationLine) : Prop where
  cleared : line.isCleared = true
  noAdjustment : line.isAdjustment = false
  notOutstanding : line.isOutstanding = false

theorem Matches.adjustmentOf {line : BankReconciliationLine} (h : Matches line) :
    adjustmentOf line = 0 := by
  rw [BankReconciliationService.adjustmentOf, h.noAdjustment, if_neg Bool.false_ne_true]

theorem Matches.depositOf {line : BankReconciliationLine} (h : Matches line) :
    depositOf line = 0 := by
  rw [BankReconciliationService.depositOf, h.notOutstanding,
    if_neg fun hboth => Bool.false_ne_true hboth.1]

theorem Matches.paymentOf {line : BankReconciliationLine} (h : Matches line) :
    paymentOf line = 0 := by
  rw [BankReconciliationService.paymentOf, h.notOutstanding,
    if_neg fun hboth => Bool.false_ne_true hboth.1]

theorem Matches.matchedOf {line : BankReconciliationLine} (h : Matches line) :
    matchedOf line = |line.statementAmount.getD 0| := by
  rw [BankReconciliationService.matchedOf, if_pos ⟨h.cleared, h.noAdjustment⟩]

theorem lineSum_matchedOf
    (h : ∀ line ∈ lines, Matches line) : lineSum matchedOf lines = absoluteTotal lines := by
  rw [lineSum, absoluteTotal, List.map_congr_left fun line hline => (h line hline).matchedOf]

structure Shaped (line : BankReconciliationLine) : Prop where
  stored : line.stored = line
  matching : line.statementLineId ≠ none → Matches line

theorem stored_stored (line : BankReconciliationLine) : line.stored.stored = line.stored := by
  simp [BankReconciliationLine.stored, Function.comp_def]

theorem Shaped.scaled {line : BankReconciliationLine} (h : Shaped line) :
    AtScale 4 (line.statementAmount.getD 0) := by
  have hsame := congrArg BankReconciliationLine.statementAmount h.stored
  cases hamount : line.statementAmount with
  | none => exact atScale_zero 4
  | some amount =>
    rw [BankReconciliationLine.stored, hamount] at hsame
    exact moneyColumn_eq_self_iff.mp (Option.some.inj hsame)

theorem atScale_absoluteTotal
    (h : ∀ line ∈ lines, Shaped line) : AtScale 4 (absoluteTotal lines) := by
  refine atScale_sum fun q hq => ?_
  obtain ⟨line, hline, rfl⟩ := List.mem_map.mp hq
  exact atScale_abs (h line hline).scaled

variable {amount : ℚ}

/-- **More is matched**, and recorded in lines. -/
theorem Balanced.addMatched (h : Balanced own r) (hopen : r.status ≠ .approved) (hlines :
    ∀ line ∈ lines, Matches line)
    (hscaled : AtScale 4 amount) (hamount : amount = absoluteTotal lines) :
    Balanced (own ++ lines) (recalculated (addMatched amount) r) := by
  obtain ⟨-, -, hmatched, hadjustments, hdeposits, hpayments⟩ := h.scaled
  refine h.withTotals hopen ?_ ?_ ?_ ?_ (h.difference_scaled hadjustments)
  · rw [lineSum_append, lineSum_matchedOf hlines, ← hamount, ← h.matched]
    exact moneyColumn_eq_self_iff.mpr (hmatched.add hscaled)
  · rw [lineSum_append, lineSum_eq_zero fun line hline => (hlines line hline).adjustmentOf,
      add_zero, ← h.adjustments]
    exact moneyColumn_eq_self_iff.mpr hadjustments
  · rw [lineSum_append, lineSum_eq_zero fun line hline => (hlines line hline).depositOf,
      add_zero, ← h.deposits]
    exact moneyColumn_eq_self_iff.mpr hdeposits
  · rw [lineSum_append, lineSum_eq_zero fun line hline => (hlines line hline).paymentOf,
      add_zero, ← h.payments]
    exact moneyColumn_eq_self_iff.mpr hpayments

theorem lineSum_filter {weight : BankReconciliationLine → ℚ} (p : BankReconciliationLine → Bool)
    (lines : List BankReconciliationLine) :
    lineSum weight lines =
      lineSum weight (lines.filter p) + lineSum weight (lines.filter fun line => !p line) :=
  (sum_filter_add_sum_filter_not lines p weight).symm

/-- **Matches are taken back**, with their lines. -/
theorem Balanced.removeMatched (h : Balanced own r) (hopen : r.status ≠ .approved)
    {p : BankReconciliationLine → Bool} (hshaped : ∀ line ∈ own, Shaped line)
    (hp : ∀ line ∈ own, p line = true → Matches line) :
    Balanced (own.filter fun line => !p line)
      (recalculated (removeMatched (absoluteTotal (own.filter p))) r) := by
  obtain ⟨-, -, hmatched, hadjustments, hdeposits, hpayments⟩ := h.scaled
  have hgroup : ∀ line ∈ own.filter p, Matches line := fun line hline =>
    hp line (List.mem_filter.mp hline).1 (List.mem_filter.mp hline).2
  -- the lines that stay have a sum that is not negative
  have hrest : 0 ≤ lineSum matchedOf (own.filter fun line => !p line) := by
    refine List.sum_nonneg fun q hq => ?_
    obtain ⟨line, -, rfl⟩ := List.mem_map.mp hq
    rw [BankReconciliationService.matchedOf]
    split_ifs
    · exact abs_nonneg _
    · exact le_refl 0
  have htotal : max (r.totalMatched - absoluteTotal (own.filter p)) 0 =
      lineSum matchedOf (own.filter fun line => !p line) := by
    rw [h.matched, lineSum_filter p, lineSum_matchedOf hgroup, add_sub_cancel_left,
      max_eq_left hrest]
  refine h.withTotals hopen ?_ ?_ ?_ ?_ (h.difference_scaled hadjustments)
  · rw [← htotal]
    refine moneyColumn_eq_self_iff.mpr ?_
    rcases max_choice (r.totalMatched - absoluteTotal (own.filter p)) 0 with hmax | hmax <;>
      rw [hmax]
    · exact hmatched.sub (atScale_absoluteTotal fun line hline =>
        hshaped line (List.mem_filter.mp hline).1)
    · exact atScale_zero 4
  · rw [moneyColumn_eq_self_iff.mpr hadjustments, h.adjustments, lineSum_filter p,
      lineSum_eq_zero fun line hline => (hgroup line hline).adjustmentOf, zero_add]
  · rw [moneyColumn_eq_self_iff.mpr hdeposits, h.deposits, lineSum_filter p,
      lineSum_eq_zero fun line hline => (hgroup line hline).depositOf, zero_add]
  · rw [moneyColumn_eq_self_iff.mpr hpayments, h.payments, lineSum_filter p,
      lineSum_eq_zero fun line hline => (hgroup line hline).paymentOf, zero_add]

/-! ### Adjustments and outstanding items -/

def Carries (total amount : ℚ) : Prop := moneyColumn (total + amount) = total + moneyColumn amount

/-- A line that weighs nothing leaves a stored total where it was. -/
theorem lineSum_kept {weight : BankReconciliationLine → ℚ} {total : ℚ}
    {line : BankReconciliationLine} (htotal : total = lineSum weight own) (hscale : AtScale 4 total)
    (hnone : weight line = 0) : moneyColumn total = lineSum weight (own ++ [line]) := by
  rw [lineSum_append, lineSum_singleton, ← htotal, moneyColumn_eq_self_iff.mpr hscale, hnone,
    add_zero]

theorem Balanced.adjust (h : Balanced own r) (hopen : r.status ≠ .approved)
    (hcarries : Carries r.totalAdjustments amount)
    (hdifference : moneyColumn (r.statementClosingBalance -
      (r.glClosingBalance + (r.totalAdjustments + amount))) =
        r.statementClosingBalance -
          (r.glClosingBalance + moneyColumn (r.totalAdjustments + amount)))
    (reconciliationId : UUID) (transactionDate : Date) (description adjustmentType : String)
    (adjustmentAccountId : Option UUID) :
    Balanced (own ++ [(adjustmentLine reconciliationId transactionDate amount description
      adjustmentType adjustmentAccountId).stored]) (recalculated (adjust amount) r) := by
  obtain ⟨-, -, hmatched, -, hdeposits, hpayments⟩ := h.scaled
  refine h.withTotals hopen ?_ ?_ ?_ ?_ hdifference
  · exact lineSum_kept h.matched hmatched rfl
  · rw [lineSum_append, lineSum_singleton, ← h.adjustments]
    exact hcarries
  · exact lineSum_kept h.deposits hdeposits rfl
  · exact lineSum_kept h.payments hpayments rfl

def outstandingTotal (outstandingType : String) (r : BankReconciliation) : ℚ :=
  if outstandingType = "deposit" then r.outstandingDeposits else r.outstandingPayments

theorem Balanced.addOutstanding (h : Balanced own r) (hopen : r.status ≠ .approved)
    {outstandingType : String} (hcarries : Carries (outstandingTotal outstandingType r) amount)
    (reconciliationId : UUID) (transactionDate : Date) (description : String)
    (reference : Option String) (journalLineId : Option UUID) :
    Balanced (own ++ [(outstandingLine reconciliationId transactionDate amount description
      outstandingType reference journalLineId).stored])
      (recalculated (addOutstanding outstandingType amount) r) := by
  obtain ⟨-, -, hmatched, hadjustments, hdeposits, hpayments⟩ := h.scaled
  rw [outstandingTotal] at hcarries
  by_cases htype : outstandingType = "deposit"
  · rw [if_pos htype] at hcarries
    have hsame : recalculated (BankReconciliationService.addOutstanding outstandingType amount) r =
        recalculated (BankReconciliationService.withTotals r.totalMatched r.totalAdjustments
          (r.outstandingDeposits + amount) r.outstandingPayments) r := by
      rw [recalculated, BankReconciliationService.addOutstanding, if_pos htype]
      rfl
    rw [hsame]
    refine h.withTotals hopen ?_ ?_ ?_ ?_ (h.difference_scaled hadjustments)
    · exact lineSum_kept h.matched hmatched rfl
    · exact lineSum_kept h.adjustments hadjustments rfl
    · rw [lineSum_append, lineSum_singleton, ← h.deposits, hcarries]
      simp [depositOf, BankReconciliationLine.stored, outstandingLine, htype]
    · exact lineSum_kept h.payments hpayments
        (by simp [paymentOf, BankReconciliationLine.stored, outstandingLine, htype])
  · rw [if_neg htype] at hcarries
    have hsame : recalculated (BankReconciliationService.addOutstanding outstandingType amount) r =
        recalculated (BankReconciliationService.withTotals r.totalMatched r.totalAdjustments
          r.outstandingDeposits (r.outstandingPayments + amount)) r := by
      rw [recalculated, BankReconciliationService.addOutstanding, if_neg htype]
      rfl
    rw [hsame]
    refine h.withTotals hopen ?_ ?_ ?_ ?_ (h.difference_scaled hadjustments)
    · exact lineSum_kept h.matched hmatched rfl
    · exact lineSum_kept h.adjustments hadjustments rfl
    · exact lineSum_kept h.deposits hdeposits
        (by simp [depositOf, BankReconciliationLine.stored, outstandingLine, htype])
    · rw [lineSum_append, lineSum_singleton, ← h.payments, hcarries]
      simp [paymentOf, BankReconciliationLine.stored, outstandingLine, htype, moneyColumn]

/-! ### What a call touches -/

/-- What the reconciliations of a store are: their lines are shaped, and they are balanced. The
amounts of statement lines are stored. -/
structure ReconciliationsSound (s : BankingStore) : Prop where
  amounts : ∀ i line, s.statementLines.get? i = some line → AtScale 4 line.amount
  shaped : ∀ line ∈ s.reconciliationLines,
    line.reconciliationId < s.reconciliations.next ∧ Shaped line
  balanced : ∀ k r, s.reconciliations.get? k = some r →
    Balanced (linesFor s.reconciliationLines k) r

def IsOpen (r : BankReconciliation) : Prop :=
  r.status ∈ [ReconciliationStatus.draft, .pendingReview]

instance (r : BankReconciliation) : Decidable (IsOpen r) := inferInstanceAs (Decidable (_ ∈ _))

structure Touches (k : UUID) (s s' : BankingStore) : Prop where
  wasOpen : ∀ r, s.reconciliations.get? k = some r → IsOpen r
  amounts : ∀ i line, s'.statementLines.get? i = some line →
    ∃ was, s.statementLines.get? i = some was ∧ line.amount = was.amount
  next : s.reconciliations.next ≤ s'.reconciliations.next
  known : k < s'.reconciliations.next
  others : ∀ j, j ≠ k → s'.reconciliations.get? j = s.reconciliations.get? j
  otherLines : ∀ j, j ≠ k → linesFor s'.reconciliationLines j = linesFor s.reconciliationLines j
  shaped : ∀ line ∈ s'.reconciliationLines, line ∈ s.reconciliationLines ∨
    line.reconciliationId = k ∧ Shaped line

/-- **What is touched is balanced**, so that everything is. -/
theorem ReconciliationsSound.touched (h : ReconciliationsSound s) (ht : Touches k s s')
    (hbalanced : ∀ r, s'.reconciliations.get? k = some r →
      Balanced (linesFor s'.reconciliationLines k) r) : ReconciliationsSound s' := by
  refine ⟨fun i line hline => ?_, fun line hline => ?_, fun j r hr => ?_⟩
  · obtain ⟨was, hwas, hamount⟩ := ht.amounts i line hline
    rw [hamount]
    exact h.amounts i was hwas
  · rcases ht.shaped line hline with hold | ⟨hk, hshaped⟩
    · exact ⟨(h.shaped line hold).1.trans_le ht.next, (h.shaped line hold).2⟩
    · exact ⟨by rw [hk]; exact ht.known, hshaped⟩
  · by_cases hj : j = k
    · subst hj
      exact hbalanced r hr
    · rw [ht.others j hj] at hr
      rw [ht.otherLines j hj]
      exact h.balanced j r hr

/-- A reconciliation that is closed is left as it is, with its lines. -/
def KeepsClosed (s s' : BankingStore) : Prop :=
  ∀ k r, s.reconciliations.get? k = some r → ¬ IsOpen r →
    s'.reconciliations.get? k = some r ∧
      linesFor s'.reconciliationLines k = linesFor s.reconciliationLines k

theorem keepsClosed_refl (s : BankingStore) : KeepsClosed s s := fun _ _ hr _ => ⟨hr, rfl⟩

theorem KeepsClosed.trans {t : BankingStore} (h : KeepsClosed s s') (h' : KeepsClosed s' t) :
    KeepsClosed s t := by
  intro k r hr hclosed
  obtain ⟨hr', hlines⟩ := h k r hr hclosed
  obtain ⟨hr'', hlines'⟩ := h' k r hr' hclosed
  exact ⟨hr'', hlines'.trans hlines⟩

theorem Touches.keepsClosed (h : Touches k s s') : KeepsClosed s s' := by
  intro j r hr hclosed
  have hj : j ≠ k := by
    intro hj
    subst hj
    exact hclosed (h.wasOpen r hr)
  rw [h.others j hj, h.otherLines j hj]
  exact ⟨hr, rfl⟩

theorem linesFor_append_self
    (h : ∀ line ∈ lines, line.reconciliationId = k) (before : List BankReconciliationLine) :
    linesFor (before ++ lines) k = linesFor before k ++ lines := by
  rw [linesFor, List.filter_append, linesFor]
  congr 1
  exact List.filter_eq_self.mpr fun line hline => decide_eq_true (h line hline)

variable {j : UUID}

theorem linesFor_append_of_ne (h : ∀ line ∈ lines, line.reconciliationId = k) (hj : j ≠ k)
    (before : List BankReconciliationLine) :
    linesFor (before ++ lines) j = linesFor before j := by
  have hnone : linesFor lines j = [] := by
    refine List.filter_eq_nil_iff.mpr fun line hline hof => hj ?_
    exact (of_decide_eq_true hof).symm.trans (h line hline)
  rw [linesFor, List.filter_append]
  exact (congrArg _ hnone).trans (List.append_nil _)

variable {i : UUID}

theorem amounts_modify {isMatched : Bool} {line : BankStatementLine}
    {t : Table BankStatementLine} (h : (t.modify j (flagged isMatched)).get? i = some line) :
    ∃ was, t.get? i = some was ∧ line.amount = was.amount := by
  rcases get?_modify_cases h with ⟨-, hline⟩ | ⟨rfl, was, hwas, rfl⟩
  · exact ⟨line, hline, rfl⟩
  · exact ⟨was, hwas, rfl⟩

/-! ### What each call writes -/

variable {org : UUID}

theorem reconciliationOf_eq_some
    (h : reconciliationOf s org k = some r) : s.reconciliations.get? k = some r :=
  (Option.filter_eq_some_iff.mp h).1

theorem createReconciliation_eq_ok {bankAccountId : UUID} {input : ReconciliationInput} {u : UUID}
    (h : createReconciliation org bankAccountId input s = .ok u s') :
    ∃ account, s.accounts.get? bankAccountId = some account ∧
      s' = { s with
        reconciliations := s.reconciliations.insert (recalculated id
          (newReconciliation s org bankAccountId account input (absoluteTotal
            (importedLines s s.reconciliations.next org bankAccountId input))))
        reconciliationLines := s.reconciliationLines ++
          (importedLines s s.reconciliations.next org bankAccountId input).map
            BankReconciliationLine.stored } := by
  rw [createReconciliation, get_bind] at h
  obtain ⟨account, haccount, h⟩ := orRaise_bind.mp h
  obtain ⟨-, h⟩ := refuse_bind.mp h
  obtain ⟨-, h⟩ := refuse_bind.mp h
  obtain ⟨-, h⟩ := refuse_bind.mp h
  obtain ⟨_, _, hset, h⟩ := bind_eq_ok.mp h
  obtain ⟨-, rfl⟩ := pure_eq_ok.mp h
  exact ⟨account, haccount, set_eq_ok.mp hset⟩

theorem addAdjustment_eq_ok {transactionDate : Date}
    {description adjustmentType : String} {adjustmentAccountId : Option UUID} {u : PUnit}
    (h : addAdjustment org k transactionDate amount description adjustmentType
      adjustmentAccountId s = .ok u s') :
    ∃ r, s.reconciliations.get? k = some r ∧
      s' = withLine k (adjustmentLine k transactionDate amount description adjustmentType
        adjustmentAccountId) (adjust amount) s := by
  rw [addAdjustment, get_bind] at h
  obtain ⟨r, hr, h⟩ := orRaise_bind.mp h
  exact ⟨r, reconciliationOf_eq_some hr, set_eq_ok.mp h⟩

theorem addOutstandingItem_eq_ok {transactionDate : Date} {description outstandingType : String}
    {reference : Option String} {journalLineId : Option UUID} {u : PUnit}
    (h : addOutstandingItem org k transactionDate amount description outstandingType
      reference journalLineId s = .ok u s') :
    ∃ r, s.reconciliations.get? k = some r ∧
      s' = withLine k (outstandingLine k transactionDate amount description outstandingType
        reference journalLineId) (addOutstanding outstandingType amount) s := by
  rw [addOutstandingItem, get_bind] at h
  obtain ⟨r, hr, h⟩ := orRaise_bind.mp h
  exact ⟨r, reconciliationOf_eq_some hr, set_eq_ok.mp h⟩

theorem submitForReview_eq_ok {u : PUnit} (h : submitForReview org k s = .ok u s') :
    ∃ r, s.reconciliations.get? k = some r ∧ r.status = .draft ∧
      s' = { s with
        reconciliations := s.reconciliations.modify k fun r =>
          { r with status := .pendingReview } } := by
  rw [submitForReview, get_bind] at h
  obtain ⟨r, hr, h⟩ := orRaise_bind.mp h
  obtain ⟨hstatus, h⟩ := refuse_bind.mp h
  exact ⟨r, reconciliationOf_eq_some hr, not_not.mp hstatus, set_eq_ok.mp h⟩

theorem approve_eq_ok {approvedBy : UUID} {notes : Option String} {u : PUnit}
    (h : approve org k approvedBy notes s = .ok u s') :
    ∃ r f, s.reconciliations.get? k = some r ∧ r.status = .pendingReview ∧
      r.reconciliationDifference = 0 ∧
      s' = { s with
        reconciliations := s.reconciliations.modify k fun r => { r with
          status := .approved
          approvedBy := some approvedBy
          reviewNotes := (notes.filter fun text => text ≠ "").or r.reviewNotes }
        accounts := s.accounts.modify r.bankAccountId f } := by
  rw [approve, get_bind] at h
  obtain ⟨r, hr, h⟩ := orRaise_bind.mp h
  obtain ⟨hstatus, h⟩ := refuse_bind.mp h
  obtain ⟨hzero, h⟩ := refuse_bind.mp h
  exact ⟨r, _, reconciliationOf_eq_some hr, not_not.mp hstatus, not_not.mp hzero,
    set_eq_ok.mp h⟩

theorem reject_eq_ok {rejectedBy : UUID} {notes : String} {u : PUnit}
    (h : reject org k rejectedBy notes s = .ok u s') :
    ∃ r, s.reconciliations.get? k = some r ∧ r.status = .pendingReview ∧
      s' = { s with
        reconciliations := s.reconciliations.modify k fun r => { r with
          status := .rejected
          reviewedBy := some rejectedBy
          reviewNotes := some notes } } := by
  rw [reject, get_bind] at h
  obtain ⟨r, hr, h⟩ := orRaise_bind.mp h
  obtain ⟨hstatus, h⟩ := refuse_bind.mp h
  exact ⟨r, reconciliationOf_eq_some hr, not_not.mp hstatus, set_eq_ok.mp h⟩

theorem ownLine_eq_some {line : BankStatementLine}
    (h : ownLine s org i = some line) : s.statementLines.get? i = some line :=
  (Option.filter_eq_some_iff.mp h).1

/-- The match that `add_match` writes. -/
def newMatchOf (input : ReconciliationMatchInput) : BankStatementLineMatch :=
  { statementLineId := input.statementLineId, journalLineId := input.journalLineId }

variable {forceMatch : Bool}

theorem addMatch_eq_ok {input : ReconciliationMatchInput} {u : PUnit}
    (h : addMatch org k input forceMatch s = .ok u s') :
    ∃ r line glAmount, s.reconciliations.get? k = some r ∧ IsOpen r ∧
      s.statementLines.get? input.statementLineId = some line ∧
      s' = { withLine k (matchLine k input line glAmount) (addMatched |line.signedAmount|) s with
        statementLines := s.statementLines.modify input.statementLineId (flagged true)
        lineMatches := matchesWithout s input.statementLineId ++ [newMatchOf input] } := by
  rw [addMatch, get_bind] at h
  obtain ⟨r, hr, h⟩ := orRaise_bind.mp h
  obtain ⟨hopen, h⟩ := refuse_bind.mp h
  obtain ⟨line, hline, h⟩ := orRaise_bind.mp h
  obtain ⟨journalLine, -, h⟩ := orRaise_bind.mp h
  obtain ⟨-, h⟩ := refuse_bind.mp h
  exact ⟨r, line, journalLine.glAmount, reconciliationOf_eq_some hr, not_not.mp hopen,
    ownLine_eq_some hline, set_eq_ok.mp h⟩

theorem loadAll_eq_ok {α : Type} {t : Table α} {missing : UUID → BankingError} {ks : List UUID}
    {rows : List (Stored α)} (h : loadAll t missing ks s = .ok rows s') :
    s' = s ∧ rows.map Stored.id = ks ∧ ∀ row ∈ rows, t.get? row.id = some row.row := by
  induction ks generalizing rows s' with
  | nil =>
    obtain ⟨rfl, rfl⟩ := pure_eq_ok.mp h
    exact ⟨rfl, rfl, fun row hrow => absurd hrow List.not_mem_nil⟩
  | cons i ks ih =>
    rw [loadAll] at h
    obtain ⟨a, ha, hbind⟩ := orRaise_bind.mp h
    obtain ⟨others, s₁, hothers, hrest⟩ := bind_eq_ok.mp hbind
    obtain ⟨rfl, hids, hrows⟩ := ih hothers
    obtain ⟨rfl, rfl⟩ := pure_eq_ok.mp hrest
    refine ⟨rfl, congrArg (i :: ·) hids, ?_⟩
    exact List.forall_mem_cons.mpr ⟨ha, hrows⟩

theorem addMultiMatch_eq_ok {statementLineIds journalLineIds : List UUID} {u : PUnit}
    (h : addMultiMatch org k statementLineIds journalLineIds s = .ok u s') :
    ∃ (r : BankReconciliation) (lines : List (Stored BankStatementLine))
      (journalLines : List (Stored JournalLine)),
      s.reconciliations.get? k = some r ∧ IsOpen r ∧
      lines.map Stored.id = statementLineIds ∧
      (∀ row ∈ lines, s.statementLines.get? row.id = some row.row) ∧
      journalLines.map Stored.id = journalLineIds ∧
      (lines.map fun r => r.row.signedAmount).sum =
        (journalLines.map fun r => r.row.glAmount).sum ∧
      (lines.length = 1 ∨ journalLines.length = 1) ∧
      ((s.lineMatches ++ splitMatches s.nextGroup true (splitPairs lines journalLines)).map
        matchKey).Nodup ∧
      s' = { s with
        reconciliations := s.reconciliations.modify k
          (recalculated (addMatched |(lines.map fun r => r.row.signedAmount).sum|))
        reconciliationLines := s.reconciliationLines ++
          (splitLines k [] [] (splitPairs lines journalLines)).map BankReconciliationLine.stored
        statementLines := s.statementLines.mapRows fun r =>
          if r.id ∈ statementLineIds then flagged true r.row else r.row
        lineMatches := s.lineMatches ++
          splitMatches s.nextGroup true (splitPairs lines journalLines)
        nextGroup := s.nextGroup + 1 } := by
  rw [addMultiMatch, get_bind] at h
  obtain ⟨r, hr, h⟩ := orRaise_bind.mp h
  obtain ⟨hopen, h⟩ := refuse_bind.mp h
  obtain ⟨lines, s₁, hlines, h⟩ := bind_eq_ok.mp h
  obtain ⟨rfl, hids, hrows⟩ := loadAll_eq_ok hlines
  obtain ⟨journalLines, s₂, hjournal, h⟩ := bind_eq_ok.mp h
  obtain ⟨rfl, hjids, -⟩ := loadAll_eq_ok hjournal
  obtain ⟨htie, h⟩ := refuse_bind.mp h
  obtain ⟨hsingle, h⟩ := refuse_bind.mp h
  obtain ⟨-, h⟩ := refuse_bind.mp h
  obtain ⟨hnodup, h⟩ := refuse_bind.mp h
  refine ⟨r, lines, journalLines, reconciliationOf_eq_some hr, not_not.mp hopen, hids, hrows,
    hjids, not_not.mp htie, ?_, not_not.mp hnodup, set_eq_ok.mp h⟩
  by_cases hone : lines.length = 1
  · exact .inl hone
  · exact .inr (not_not.mp fun hmany => hsingle ⟨hone, hmany⟩)

theorem unmatch_eq_ok {statementLineId : UUID} {u : PUnit}
    (h : unmatch org k statementLineId s = .ok u s') :
    ∃ r line, s.reconciliations.get? k = some r ∧ IsOpen r ∧
      s.statementLines.get? statementLineId = some line ∧
      s' = { s with
        reconciliations := s.reconciliations.modify k (recalculated (removeMatched
          (absoluteTotal (s.reconciliationLines.filter (matchesLine k statementLineId)))))
        reconciliationLines := s.reconciliationLines.filter fun line =>
          !matchesLine k statementLineId line
        statementLines := s.statementLines.modify statementLineId (flagged false)
        lineMatches := matchesWithout s statementLineId } := by
  rw [unmatch, get_bind] at h
  obtain ⟨r, hr, h⟩ := orRaise_bind.mp h
  obtain ⟨hopen, h⟩ := refuse_bind.mp h
  obtain ⟨line, hline, h⟩ := orRaise_bind.mp h
  exact ⟨r, line, reconciliationOf_eq_some hr, not_not.mp hopen, hline, set_eq_ok.mp h⟩

theorem loadOwn_eq_ok {t : BankingStore} {ks : List UUID}
    {rows : List (Stored JournalLine)} (h : loadOwn t org ks s = .ok rows s') :
    s' = s := by
  induction ks generalizing rows s' with
  | nil => exact (pure_eq_ok.mp h).2
  | cons i ks ih =>
    rw [loadOwn] at h
    obtain ⟨a, -, hbind⟩ := orRaise_bind.mp h
    obtain ⟨others, s₁, hothers, hrest⟩ := bind_eq_ok.mp hbind
    obtain rfl := ih hothers
    exact (pure_eq_ok.mp hrest).2

def existingMatch (s : BankingStore) (i j : UUID) : Option BankStatementLineMatch :=
  s.lineMatches.find? fun m => decide (matchKey m = (i, j))

/-- What `match_statement_line` writes: nothing, the flag of a line that has a confirmed match, a
suggestion, or a confirmed match in place of the others. -/
inductive LineMatched (i j : UUID) (line : BankStatementLine) (s : BankingStore) :
    MatchState → BankingStore → Prop where
  | known (matchState : MatchState) : LineMatched i j line s matchState s
  | flagged (matchState : MatchState) (m : BankStatementLineMatch) (hm : m ∈ s.lineMatches)
      (hkey : matchKey m = (i, j)) (hconfirmed : m.matchState = .confirmed)
      (hunmatched : line.isMatched = false) :
      LineMatched i j line s matchState (confirmLine i line.statementId s)
  | suggested (hnew : existingMatch s i j = none) :
      LineMatched i j line s .suggested { s with
        lineMatches := s.lineMatches ++
          [{ statementLineId := i, journalLineId := j, matchState := .suggested }] }
  | confirmed (hunmatched : line.isMatched = false)
      (hnew : ∀ m ∈ existingMatch s i j, m.matchState = .suggested) :
      LineMatched i j line s .confirmed { confirmLine i line.statementId s with
        lineMatches := matchesWithout s i ++ [{ statementLineId := i, journalLineId := j }] }

theorem matchStatementLine_eq_ok {matchState : MatchState} {u : PUnit}
    (h : matchStatementLine org i j forceMatch matchState s = .ok u s') :
    ∃ line, s.statementLines.get? i = some line ∧ LineMatched i j line s matchState s' := by
  rw [matchStatementLine, get_bind] at h
  obtain ⟨line, hline, h⟩ := orRaise_bind.mp h
  refine ⟨line, ownLine_eq_some hline, ?_⟩
  split_ifs at h with hknown hstate
  · rw [runIf] at h
    split_ifs at h with hflag
    · obtain ⟨hunmatched, hsome⟩ := hflag
      obtain ⟨m, hm, hconfirmed⟩ := (Option.any_eq_true _ _).mp hsome
      obtain ⟨hfound, -⟩ := Option.filter_eq_some_iff.mp hm
      rw [set_eq_ok.mp h]
      refine .flagged matchState m (List.mem_of_find?_eq_some hfound) ?_ ?_ hunmatched
      · simpa using List.find?_some hfound
      · revert hconfirmed
        cases m.matchState <;> decide
    · obtain ⟨-, rfl⟩ := pure_eq_ok.mp h
      exact .known matchState
  · obtain ⟨-, h⟩ := refuse_bind.mp h
    obtain ⟨journalLine, -, h⟩ := orRaise_bind.mp h
    rw [set_eq_ok.mp h, hstate]
    refine .suggested ?_
    rw [hstate] at hknown
    rw [existingMatch, Option.eq_none_iff_forall_ne_some]
    simpa using hknown
  · obtain ⟨hflag, h⟩ := refuse_bind.mp h
    obtain ⟨journalLine, -, h⟩ := orRaise_bind.mp h
    obtain ⟨-, h⟩ := refuse_bind.mp h
    rw [set_eq_ok.mp h]
    have hconfirmed : matchState = .confirmed := by
      revert hstate
      cases matchState <;> decide
    rw [hconfirmed]
    refine .confirmed ?_ fun m hm => ?_
    · rw [← Bool.not_eq_true]
      exact fun hmatched => hflag ⟨hmatched, hstate⟩
    · by_contra hsuggested
      refine hknown ?_
      rw [existingMatch] at hm
      have hkept : decide (¬ (m.matchState = .suggested ∧ matchState ≠ .suggested)) = true :=
        decide_eq_true fun hboth => hsuggested hboth.1
      rw [hm, Option.filter_some, if_pos hkept]
      exact Option.some_ne_none m

theorem multiMatchStatementLine_eq_ok {journalLineIds : List UUID} {u : PUnit}
    (h : multiMatchStatementLine org i journalLineIds forceMatch s = .ok u s') :
    ∃ line, s.statementLines.get? i = some line ∧ line.isMatched = false ∧
      journalLineIds ≠ [] ∧ journalLineIds.Nodup ∧
      s' = { confirmLine i line.statementId s with
        lineMatches := matchesWithout s i ++ directMatches i true journalLineIds } := by
  rw [multiMatchStatementLine, get_bind] at h
  obtain ⟨line, hline, h⟩ := orRaise_bind.mp h
  obtain ⟨hunmatched, h⟩ := refuse_bind.mp h
  obtain ⟨hsome, h⟩ := refuse_bind.mp h
  obtain ⟨journalLines, s₁, hload, h⟩ := bind_eq_ok.mp h
  obtain rfl : s₁ = s := loadOwn_eq_ok hload
  obtain ⟨-, h⟩ := refuse_bind.mp h
  obtain ⟨hnodup, h⟩ := refuse_bind.mp h
  exact ⟨line, ownLine_eq_some hline, by simpa using hunmatched, hsome, not_not.mp hnodup,
    set_eq_ok.mp h⟩

theorem unmatchStatementLine_eq_ok {u : PUnit}
    (h : unmatchStatementLine org i s = .ok u s') :
    ∃ line, s.statementLines.get? i = some line ∧ line.isMatched = true ∧
      s' = { s with
        statementLines := s.statementLines.modify i (flagged false)
        statements := s.statements.modify line.statementId countUnmatched
        lineMatches := matchesWithout s i } := by
  rw [unmatchStatementLine, get_bind] at h
  obtain ⟨line, hline, h⟩ := orRaise_bind.mp h
  obtain ⟨hmatched, h⟩ := refuse_bind.mp h
  exact ⟨line, ownLine_eq_some hline, by simpa using hmatched, set_eq_ok.mp h⟩

end BankReconciliationService

end DotmacErp.Banking
