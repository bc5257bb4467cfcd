import DotmacErp.GL.Revaluation

/-!
# The revaluation journal

What the revaluation journal puts on the ledger, against the items it is made from. Each side of
the journal is a sum over the aggregated lines (`sum_debits`, `sum_credits`), the summary lines
carry the absolute changes (`credited_gain`, `debited_loss`), and the control account of a pair of
account and currency is debited with its change, or credited with it where the pair's first item
is a liability (`signedOn_controls`).

`WellFormedJournal` is what such a journal should be: accepted at persisted scale, its summary
lines the totals of the preview, every control account moved by the changes of its assets less
those of its liabilities. It is all of this exactly where no liability changes, no bank account
shares a pair that a liability opens, and rounding the totals instead of the parts changes the
gains as much as the losses (`wellFormedJournal_iff`).
-/

namespace DotmacErp

open Calendar Totals JournalService Rounding

namespace FXRevaluationService

/-! ### The sides of the journal -/

def creditedTo (account : UUID) (lines : List JournalLineInput) : ℚ :=
  ((lines.filter fun l => l.accountId = account ∧ l.currencyCode = none).map
    JournalLineInput.creditAmount).sum

def debitedTo (account : UUID) (lines : List JournalLineInput) : ℚ :=
  ((lines.filter fun l => l.accountId = account ∧ l.currencyCode = none).map
    JournalLineInput.debitAmount).sum

def signedOn (k : AccountCurrency) (lines : List JournalLineInput) : ℚ :=
  total (fun l => l.debitAmount - l.creditAmount) (fun l => (l.accountId, l.currencyCode))
    (k.1, some k.2) lines

/-- What the journal should put on a control account: revalued less book value of the assets, and
its negation for the liabilities. -/
def signedChange (k : AccountCurrency) (raw : List FXRevaluationLine) : ℚ :=
  total (fun line => if line.isLiability then
      -(line.revaluedValueFunctional - line.bookValueFunctional)
    else line.revaluedValueFunctional - line.bookValueFunctional) FXRevaluationLine.key k raw

/-- A journal that is accepted, whose summary lines are the totals of the preview, and that moves
every control account by its change. -/
structure WellFormedJournal (raw lines : List FXRevaluationLine) (journal : JournalInput)
    (fxGainAccountId fxLossAccountId : UUID) : Prop where
  balanced : ∀ s, ∃ totals, requireBalanced journal.lines s = .ok totals s
  gains : creditedTo fxGainAccountId journal.lines = totalGainFunctional lines ∧
    0 ≤ totalGainFunctional lines
  losses : debitedTo fxLossAccountId journal.lines = totalLossFunctional lines ∧
    0 ≤ totalLossFunctional lines
  controls : ∀ k, signedOn k journal.lines = signedChange k raw

section Sides

variable {env : Env} {rateText : ℚ → String} {raw lines : List FXRevaluationLine}
  {postingDate : Date} {description correlationId : String} {gain loss account : UUID}
  {k : AccountCurrency}

theorem totalOf_nonneg (isGain : Bool) (lines : List FXRevaluationLine) :
    0 ≤ totalOf isGain lines :=
  List.sum_nonneg fun q hq => by
    obtain ⟨line, -, rfl⟩ := List.mem_map.mp hq
    exact abs_nonneg _

theorem sum_gainLine (f : ℚ → ℚ) (hf : f 0 = 0) (account : UUID) {t : ℚ} (ht : 0 ≤ t) :
    ((gainLine account t).map fun l => f l.creditAmount).sum = f t ∧
      ((gainLine account t).map fun l => f l.debitAmount).sum = 0 := by
  rw [gainLine]
  split_ifs with hpos
  · simp [hf]
  · have hzero : t = 0 := le_antisymm (not_lt.mp hpos) ht
    simp [hzero, hf]

theorem sum_lossLine (f : ℚ → ℚ) (hf : f 0 = 0) (account : UUID) {t : ℚ} (ht : 0 ≤ t) :
    ((lossLine account t).map fun l => f l.debitAmount).sum = f t ∧
      ((lossLine account t).map fun l => f l.creditAmount).sum = 0 := by
  rw [lossLine]
  split_ifs with hpos
  · simp [hf]
  · have hzero : t = 0 := le_antisymm (not_lt.mp hpos) ht
    simp [hzero, hf]

theorem filter_changed :
    ((aggregatePerAccountCurrency raw).filter fun line => |line.deltaFunctional| ≠ 0) =
      aggregatePerAccountCurrency raw := by
  refine List.filter_eq_self.mpr fun line hline => ?_
  obtain ⟨-, -, hdelta, -⟩ := mem_aggregate hline
  simpa using hdelta

theorem mem_gainLine {t : ℚ} {l : JournalLineInput} (h : l ∈ gainLine account t) :
    l.accountId = account ∧ l.currencyCode = none ∧ l.debitAmount = 0 := by
  rw [gainLine] at h
  split_ifs at h
  · obtain rfl := List.mem_singleton.mp h
    exact ⟨rfl, rfl, rfl⟩
  · exact absurd h List.not_mem_nil

theorem mem_lossLine {t : ℚ} {l : JournalLineInput} (h : l ∈ lossLine account t) :
    l.accountId = account ∧ l.currencyCode = none ∧ l.creditAmount = 0 := by
  rw [lossLine] at h
  split_ifs at h
  · obtain rfl := List.mem_singleton.mp h
    exact ⟨rfl, rfl, rfl⟩
  · exact absurd h List.not_mem_nil

theorem filter_summary :
    (buildJournalInput env rateText lines postingDate description gain loss
      correlationId).lines.filter (fun l => l.accountId = account ∧ l.currencyCode = none) =
      (gainLine gain (totalOf true lines)).filter
          (fun l => l.accountId = account ∧ l.currencyCode = none) ++
        (lossLine loss (totalOf false lines)).filter
          (fun l => l.accountId = account ∧ l.currencyCode = none) := by
  have hcontrols : (List.map (controlLine rateText)
      (lines.filter fun line => |line.deltaFunctional| ≠ 0)).filter
        (fun l => l.accountId = account ∧ l.currencyCode = none) = [] := by
    refine List.filter_eq_nil_iff.mpr fun l hl => ?_
    obtain ⟨line, -, rfl⟩ := List.mem_map.mp hl
    simp [controlLine]
  rw [buildJournalInput, List.filter_append, List.filter_append, hcontrols, List.nil_append]

theorem sum_eq_zero_of_mem_filter {p : JournalLineInput → Bool} {f : JournalLineInput → ℚ}
    {l : List JournalLineInput} (h : ∀ line ∈ l, f line = 0) : ((l.filter p).map f).sum = 0 := by
  refine List.sum_eq_zero fun q hq => ?_
  obtain ⟨line, hline, rfl⟩ := List.mem_map.mp hq
  exact h line (List.mem_filter.mp hline).1

/-- **The credit on the gain account** is what the gains change in absolute value. -/
theorem credited_gain :
    creditedTo gain (buildJournalInput env rateText lines postingDate description gain loss
      correlationId).lines = totalOf true lines := by
  have hgains : (gainLine gain (totalOf true lines)).filter
      (fun l => l.accountId = gain ∧ l.currencyCode = none) =
        gainLine gain (totalOf true lines) :=
    List.filter_eq_self.mpr fun l hl =>
      decide_eq_true ⟨(mem_gainLine hl).1, (mem_gainLine hl).2.1⟩
  rw [creditedTo, filter_summary, hgains, List.map_append, List.sum_append,
    sum_eq_zero_of_mem_filter fun l hl => (mem_lossLine hl).2.2, add_zero]
  exact (sum_gainLine id rfl gain (totalOf_nonneg true lines)).1

/-- **The debit on the loss account** is what the losses change in absolute value. -/
theorem debited_loss :
    debitedTo loss (buildJournalInput env rateText lines postingDate description gain loss
      correlationId).lines = totalOf false lines := by
  have hlosses : (lossLine loss (totalOf false lines)).filter
      (fun l => l.accountId = loss ∧ l.currencyCode = none) =
        lossLine loss (totalOf false lines) :=
    List.filter_eq_self.mpr fun l hl =>
      decide_eq_true ⟨(mem_lossLine hl).1, (mem_lossLine hl).2.1⟩
  rw [debitedTo, filter_summary, hlosses, List.map_append, List.sum_append,
    sum_eq_zero_of_mem_filter fun l hl => (mem_gainLine hl).2.2, zero_add]
  exact (sum_lossLine id rfl loss (totalOf_nonneg false lines)).1

/-- **What the journal puts on a control account** is the net change of the pair, with the sign of
its orientation. -/
theorem signedOn_controls :
    signedOn k (buildJournalInput env rateText (aggregatePerAccountCurrency raw) postingDate
        description gain loss correlationId).lines =
      if opensLiability k raw then -netDelta k raw else netDelta k raw := by
  have hsummary : ∀ l : List JournalLineInput, (∀ line ∈ l, line.currencyCode = none) →
      signedOn k l = 0 := fun l hl => total_eq_zero fun line hline heq => by
    have hcode := (Prod.mk.inj heq).2
    rw [hl line hline] at hcode
    exact absurd hcode (by simp)
  have hgains := hsummary (gainLine gain (totalOf true (aggregatePerAccountCurrency raw)))
    fun _ hline => (mem_gainLine hline).2.1
  have hlosses := hsummary (lossLine loss (totalOf false (aggregatePerAccountCurrency raw)))
    fun _ hline => (mem_lossLine hline).2.1
  -- the control lines, one for each account and currency with a change
  have hcontrols : signedOn k ((aggregatePerAccountCurrency raw).map (controlLine rateText)) =
      ((aggregatePerAccountCurrency raw).map fun line => if line.key = k then
        (if line.isGain then |line.deltaFunctional| else -|line.deltaFunctional|) else 0).sum := by
    rw [signedOn, total_map, ← Finset.sum_singleton (fun c => total _ _ c _) (k.1, some k.2),
      sum_total]
    refine congrArg List.sum (List.map_congr_left fun line _ => ?_)
    have hkey : (line.accountId, some line.currencyCode) ∈ ({(k.1, some k.2)} : Finset _) ↔
        line.key = k := by
      rw [Finset.mem_singleton, Prod.mk.injEq, Option.some.injEq, FXRevaluationLine.key,
        Prod.ext_iff]
    simp only [controlLine, hkey]
    by_cases hgain : line.isGain
    · simp [hgain]
    · simp [hgain]
  have hbuild : signedOn k (buildJournalInput env rateText (aggregatePerAccountCurrency raw)
      postingDate description gain loss correlationId).lines =
      signedOn k ((aggregatePerAccountCurrency raw).map (controlLine rateText)) := by
    rw [buildJournalInput, filter_changed, signedOn, total_append, total_append]
    rw [signedOn] at hgains hlosses
    rw [hgains, hlosses, add_zero, add_zero, signedOn]
  rw [hbuild, hcontrols]
  rw [sum_aggregate (g := fun c l d => if c = k then (if l then -d else d) else 0)
    (fun bucket => ?_) fun c l => by simp, ← List.sum_toFinset _ (List.nodup_dedup _),
    Finset.sum_ite_eq']
  · by_cases hmem : k ∈ (raw.map FXRevaluationLine.key).dedup.toFinset
    · rw [if_pos hmem]
    · have hnone : netDelta k raw = 0 := total_eq_zero fun line hline hkey => hmem (by
        rw [List.mem_toFinset, List.mem_dedup, List.mem_map]
        exact ⟨line, hline, hkey⟩)
      rw [if_neg hmem, hnone, neg_zero, ite_self]
  · refine if_congr Iff.rfl ?_ rfl
    rw [rederive, gains]
    by_cases hliability : bucket.isLiability
    · simp only [hliability, if_true, decide_eq_true_eq]
      split_ifs with hneg
      · exact abs_of_neg hneg
      · rw [abs_of_nonneg (not_lt.mp hneg)]
    · simp only [hliability, Bool.false_eq_true, if_false, decide_eq_true_eq]
      split_ifs with hpos
      · exact abs_of_pos hpos
      · rw [abs_of_nonpos (not_lt.mp hpos), neg_neg]

theorem sum_side (side : JournalLineInput → ℚ) :
    sumAtPersistedScale ((buildJournalInput env rateText (aggregatePerAccountCurrency raw)
        postingDate description gain loss correlationId).lines.map side) =
      ((aggregatePerAccountCurrency raw).map fun line =>
        amountColumn (side (controlLine rateText line))).sum +
      ((gainLine gain (totalOf true (aggregatePerAccountCurrency raw))).map fun l =>
        amountColumn (side l)).sum +
      ((lossLine loss (totalOf false (aggregatePerAccountCurrency raw))).map fun l =>
        amountColumn (side l)).sum := by
  rw [sumAtPersistedScale, buildJournalInput, filter_changed, List.map_map, List.map_append,
    List.map_append, List.sum_append, List.sum_append, List.map_map]
  rfl

theorem sum_debits :
    sumAtPersistedScale ((buildJournalInput env rateText (aggregatePerAccountCurrency raw)
        postingDate description gain loss correlationId).lines.map
          JournalLineInput.debitAmount) =
      ((aggregatePerAccountCurrency raw).map fun line =>
        if line.isGain then amountColumn |line.deltaFunctional| else 0).sum +
      amountColumn (totalOf false (aggregatePerAccountCurrency raw)) := by
  rw [sum_side, (sum_gainLine amountColumn (halfUp_zero 6) gain (totalOf_nonneg true _)).2,
    (sum_lossLine amountColumn (halfUp_zero 6) loss (totalOf_nonneg false _)).1, add_zero]
  simp only [controlLine, apply_ite amountColumn, show amountColumn 0 = 0 from halfUp_zero 6]

theorem sum_credits :
    sumAtPersistedScale ((buildJournalInput env rateText (aggregatePerAccountCurrency raw)
        postingDate description gain loss correlationId).lines.map
          JournalLineInput.creditAmount) =
      ((aggregatePerAccountCurrency raw).map fun line =>
        if line.isGain then 0 else amountColumn |line.deltaFunctional|).sum +
      amountColumn (totalOf true (aggregatePerAccountCurrency raw)) := by
  rw [sum_side, (sum_gainLine amountColumn (halfUp_zero 6) gain (totalOf_nonneg true _)).1,
    (sum_lossLine amountColumn (halfUp_zero 6) loss (totalOf_nonneg false _)).2, add_zero]
  simp only [controlLine, apply_ite amountColumn, show amountColumn 0 = 0 from halfUp_zero 6]

end Sides

/-! ### The totals of the preview -/

theorem sum_le_sum_abs (l : List ℚ) : l.sum ≤ (l.map fun q => |q|).sum := by
  induction l with
  | nil => exact le_refl _
  | cons q l ih =>
    rw [List.map_cons, List.sum_cons, List.sum_cons]
    exact add_le_add (le_abs_self q) ih

theorem sum_abs_eq_sum_iff (l : List ℚ) :
    (l.map fun q => |q|).sum = l.sum ↔ ∀ q ∈ l, 0 ≤ q := by
  induction l with
  | nil => simp
  | cons q l ih =>
    have hle := sum_le_sum_abs l
    have hq := le_abs_self q
    rw [List.map_cons, List.sum_cons, List.sum_cons, List.forall_mem_cons, ← ih]
    constructor
    · intro heq
      have habs : |q| = q := by linarith
      exact ⟨abs_eq_self.mp habs, by linarith⟩
    · rintro ⟨hpos, heq⟩
      rw [abs_of_nonneg hpos, heq]

section Preview

variable {raw lines : List FXRevaluationLine}

theorem totalOf_gains_iff :
    totalOf true lines = totalGainFunctional lines ↔
      ∀ line ∈ lines, line.isGain = true → 0 ≤ line.deltaFunctional := by
  have hsum := sum_abs_eq_sum_iff
    ((lines.filter FXRevaluationLine.isGain).map FXRevaluationLine.deltaFunctional)
  rw [List.map_map] at hsum
  have hgains : (lines.filter fun line => line.isGain = true) =
      lines.filter FXRevaluationLine.isGain :=
    List.filter_congr fun line _ => Bool.decide_eq_true
  rw [totalOf, hgains, totalGainFunctional]
  refine hsum.trans ?_
  simp only [List.forall_mem_map, List.mem_filter, and_imp]

theorem totalOf_losses_iff :
    totalOf false lines = totalLossFunctional lines ↔
      ∀ line ∈ lines, line.isGain = false → line.deltaFunctional ≤ 0 := by
  have hsum := sum_abs_eq_sum_iff
    ((lines.filter fun line => !line.isGain).map fun line => -line.deltaFunctional)
  rw [List.map_map] at hsum
  have hlosses : (lines.filter fun line => line.isGain = false) =
      lines.filter fun line => !line.isGain :=
    List.filter_congr fun line _ => Bool.decide_eq_false
  have habs : (lines.filter fun line => !line.isGain).map (fun line => |line.deltaFunctional|) =
      (lines.filter fun line => !line.isGain).map
        ((fun q => |q|) ∘ fun line => -line.deltaFunctional) :=
    List.map_congr_left fun line _ => (abs_neg _).symm
  rw [totalOf, hlosses, habs, totalLossFunctional]
  refine hsum.trans ?_
  simp only [List.forall_mem_map, List.mem_filter, and_imp, Left.nonneg_neg_iff,
    Bool.not_eq_true']

/-- **The totals of the preview** are what the journal posts, and not negative, if and only if no
line is a liability's. -/
theorem preview_totals_iff :
    ((totalOf true (aggregatePerAccountCurrency raw) =
          totalGainFunctional (aggregatePerAccountCurrency raw) ∧
        0 ≤ totalGainFunctional (aggregatePerAccountCurrency raw)) ∧
      (totalOf false (aggregatePerAccountCurrency raw) =
          totalLossFunctional (aggregatePerAccountCurrency raw) ∧
        0 ≤ totalLossFunctional (aggregatePerAccountCurrency raw))) ↔
      ∀ k, netDelta k raw ≠ 0 → opensLiability k raw = false := by
  constructor
  · rintro ⟨⟨hgains, -⟩, hlosses, -⟩ k hk
    obtain ⟨line, hline, rfl⟩ := exists_mem_aggregate hk
    obtain ⟨hliability, -, hdelta, hgain⟩ := mem_aggregate hline
    rw [← hliability]
    by_contra hopen
    rw [Bool.not_eq_false] at hopen
    rw [gains, if_pos hopen] at hgain
    -- a liability that gains has a negative change, and one that loses a positive one
    rcases lt_or_gt_of_ne hdelta with hneg | hpos
    · have hflag : line.isGain = true := hgain.trans (decide_eq_true hneg)
      exact absurd (totalOf_gains_iff.mp hgains line hline hflag) (not_le.mpr hneg)
    · have hflag : line.isGain = false := hgain.trans (decide_eq_false (not_lt.mpr hpos.le))
      exact absurd (totalOf_losses_iff.mp hlosses line hline hflag) (not_le.mpr hpos)
  · intro h
    have hasset : ∀ line ∈ aggregatePerAccountCurrency raw,
        line.isGain = decide (0 < line.deltaFunctional) := by
      intro line hline
      obtain ⟨hliability, hnet, hdelta, hgain⟩ := mem_aggregate hline
      rw [hnet] at hdelta
      rw [hgain, gains, hliability, h line.key hdelta]
      rfl
    have hgains : totalOf true (aggregatePerAccountCurrency raw) =
        totalGainFunctional (aggregatePerAccountCurrency raw) :=
      totalOf_gains_iff.mpr fun line hline hflag => by
        rw [hasset line hline, decide_eq_true_eq] at hflag
        exact hflag.le
    have hlosses : totalOf false (aggregatePerAccountCurrency raw) =
        totalLossFunctional (aggregatePerAccountCurrency raw) :=
      totalOf_losses_iff.mpr fun line hline hflag => by
        rw [hasset line hline, decide_eq_false_iff_not, not_lt] at hflag
        exact hflag
    exact ⟨⟨hgains, hgains ▸ totalOf_nonneg true _⟩, hlosses, hlosses ▸ totalOf_nonneg false _⟩

theorem sum_side_aggregate {f : Bool → ℚ → ℚ} (hf : ∀ isGain, f isGain 0 = 0)
    (h : ∀ k, netDelta k raw ≠ 0 → opensLiability k raw = false) :
    ((aggregatePerAccountCurrency raw).map fun line =>
        f line.isGain |line.deltaFunctional|).sum =
      (((raw.map FXRevaluationLine.key).dedup.map fun k => netDelta k raw).map fun d =>
        f (decide (0 < d)) |d|).sum := by
  rw [sum_aggregate (g := fun _ l d => f (gains l d) |d|) (fun _ => rfl)
    fun _ l => by simp [hf], List.map_map]
  refine congrArg List.sum (List.map_congr_left fun k _ => ?_)
  by_cases hzero : netDelta k raw = 0
  · simp [hzero, hf]
  · rw [h k hzero]
    rfl

theorem sum_gains_aggregate {f : ℚ → ℚ} (hf : f 0 = 0)
    (h : ∀ k, netDelta k raw ≠ 0 → opensLiability k raw = false) :
    ((aggregatePerAccountCurrency raw).map fun line =>
        if line.isGain then f |line.deltaFunctional| else 0).sum =
      ((((raw.map FXRevaluationLine.key).dedup.map fun k => netDelta k raw).filter (0 < ·)).map
        f).sum := by
  rw [sum_side_aggregate (f := fun l d => if l then f d else 0) (by simp [hf]) h, sum_filter_map]
  refine congrArg List.sum (List.map_congr_left fun d _ => ?_)
  by_cases hpos : 0 < d
  · rw [abs_of_pos hpos]
  · simp only [hpos, decide_false, Bool.false_eq_true, if_false]

theorem sum_losses_aggregate {f : ℚ → ℚ} (hf : f 0 = 0)
    (h : ∀ k, netDelta k raw ≠ 0 → opensLiability k raw = false) :
    ((aggregatePerAccountCurrency raw).map fun line =>
        if line.isGain then 0 else f |line.deltaFunctional|).sum =
      (((((raw.map FXRevaluationLine.key).dedup.map fun k => netDelta k raw).filter (· < 0)).map
        (-·)).map f).sum := by
  conv_rhs => rw [List.map_map, sum_filter_map]
  rw [sum_side_aggregate (f := fun l d => if l then 0 else f d) (by simp [hf]) h]
  refine congrArg List.sum (List.map_congr_left fun d _ => ?_)
  rcases lt_trichotomy d 0 with hneg | rfl | hpos
  · simp [hneg, hneg.le, abs_of_neg hneg]
  · simp [hf]
  · simp [hpos, hpos.le]

theorem totalOf_gains (lines : List FXRevaluationLine) :
    totalOf true lines = (lines.map fun line =>
      if line.isGain then id |line.deltaFunctional| else 0).sum := by
  rw [totalOf, sum_filter_map]
  refine congrArg List.sum (List.map_congr_left fun line _ => ?_)
  rw [Bool.decide_eq_true]
  rfl

theorem totalOf_losses (lines : List FXRevaluationLine) :
    totalOf false lines = (lines.map fun line =>
      if line.isGain then 0 else id |line.deltaFunctional|).sum := by
  rw [totalOf, sum_filter_map]
  refine congrArg List.sum (List.map_congr_left fun line _ => ?_)
  cases line.isGain
  · rfl
  · rfl

end Preview

/-! ### The items behind the lines -/

section Items

variable (arItems apItems : List InvoiceItem) (cashItems : List BankItem)
  (rates : String → Option ℚ) (org : UUID) (periodEndDate : Date) (db : Db)
  (k : AccountCurrency)

def invoiceChange (items : List InvoiceItem) (rates : String → Option ℚ) (k : AccountCurrency) :
    ℚ :=
  total (fun item => (rates item.currencyCode).elim 0 fun rate =>
    item.balanceDue * rate - item.balanceDue * item.postingExchangeRate) InvoiceItem.key k items

def bankChange : ℚ :=
  total (fun item => (rates item.currencyCode).elim 0 fun rate => item.balance * rate -
    computeBalanceFromJournals item.glAccountId periodEndDate org db) BankItem.key k
      cashItems

def netChange : ℚ :=
  invoiceChange arItems rates k + invoiceChange apItems rates k +
    bankChange cashItems rates org periodEndDate db k

def ratedPairs : List AccountCurrency :=
  ((arItems.filter fun item => (rates item.currencyCode).isSome).map InvoiceItem.key ++
    (apItems.filter fun item => (rates item.currencyCode).isSome).map InvoiceItem.key ++
    (cashItems.filter fun item => (rates item.currencyCode).isSome).map BankItem.key).dedup

def increases : List ℚ :=
  ((ratedPairs arItems apItems cashItems rates).map
    (netChange arItems apItems cashItems rates org periodEndDate db)).filter (0 < ·)

def decreases : List ℚ :=
  (((ratedPairs arItems apItems cashItems rates).map
    (netChange arItems apItems cashItems rates org periodEndDate db)).filter
      (· < 0)).map (-·)

def roundingGap (parts : List ℚ) : ℚ := amountColumn parts.sum - (parts.map amountColumn).sum

/-- No liability changes, no bank account changes in a pair that a liability opens, and rounding
the totals instead of the parts changes both sides by the same. -/
structure PostsEvenly : Prop where
  payables : ∀ k, invoiceChange apItems rates k = 0
  banks : ∀ k, (∀ item ∈ arItems, item.key ≠ k) → (∃ item ∈ apItems, item.key = k) →
    bankChange cashItems rates org periodEndDate db k = 0
  rounding :
    roundingGap (increases arItems apItems cashItems rates org periodEndDate db) =
      roundingGap (decreases arItems apItems cashItems rates org periodEndDate db)

end Items

section Lines

variable {arItems apItems : List InvoiceItem} {cashItems : List BankItem}
  {rates : String → Option ℚ} {org : UUID} {date : Date} {db : Db} {k : AccountCurrency}

theorem total_invoiceLines (isLiability : Bool) (items : List InvoiceItem)
    {amount : FXRevaluationLine → ℚ} {sign : ℚ}
    (hamount : ∀ key rate book revalued,
      amount (observe isLiability key rate book revalued) = sign * (revalued - book)) :
    total amount FXRevaluationLine.key k (items.filterMap (invoiceLine isLiability rates)) =
      sign * invoiceChange items rates k := by
  have hlines : total amount FXRevaluationLine.key k
      (items.filterMap (invoiceLine isLiability rates)) =
      total (fun item => sign * (rates item.currencyCode).elim 0 fun rate =>
        item.balanceDue * rate - item.balanceDue * item.postingExchangeRate) InvoiceItem.key k
          items := by
    refine total_filterMap items (fun item line hline => ?_) fun item => ?_
    · obtain ⟨rate, -, rfl⟩ := Option.map_eq_some_iff.mp hline
      rfl
    · rw [invoiceLine]
      cases rates item.currencyCode with
      | none => simp
      | some rate => exact (hamount _ _ _ _).symm
  rw [hlines, invoiceChange, total, total, ← List.sum_map_mul_left]

theorem total_bankLines {amount : FXRevaluationLine → ℚ}
    (hamount : ∀ key rate book revalued,
      amount (observe false key rate book revalued) = revalued - book) :
    total amount FXRevaluationLine.key k (cashItems.filterMap (bankLine rates org date db)) =
      bankChange cashItems rates org date db k := by
  refine total_filterMap cashItems (fun item line hline => ?_) fun item => ?_
  · obtain ⟨rate, -, rfl⟩ := Option.map_eq_some_iff.mp hline
    rfl
  · rw [bankLine]
    cases rates item.currencyCode with
    | none => rfl
    | some rate => exact (hamount _ _ _ _).symm

theorem netDelta_lines :
    netDelta k (computeRevaluationLines arItems apItems cashItems rates org date db) =
      netChange arItems apItems cashItems rates org date db k := by
  have hinvoices : ∀ (isLiability : Bool) (items : List InvoiceItem),
      total FXRevaluationLine.deltaFunctional FXRevaluationLine.key k
        (items.filterMap (invoiceLine isLiability rates)) = invoiceChange items rates k :=
    fun isLiability items =>
      (total_invoiceLines isLiability items fun _ _ _ _ => (one_mul _).symm).trans (one_mul _)
  rw [netDelta, computeRevaluationLines, total_append, total_append, hinvoices, hinvoices,
    total_bankLines fun _ _ _ _ => rfl, netChange]

theorem signedChange_lines :
    signedChange k (computeRevaluationLines arItems apItems cashItems rates org date db) =
      invoiceChange arItems rates k - invoiceChange apItems rates k +
        bankChange cashItems rates org date db k := by
  rw [signedChange, computeRevaluationLines, total_append, total_append,
    total_invoiceLines false arItems fun _ _ _ _ => (one_mul _).symm,
    total_invoiceLines true apItems fun _ _ _ _ => (neg_one_mul _).symm,
    total_bankLines fun _ _ _ _ => rfl]
  ring

theorem keys_lines :
    ((computeRevaluationLines arItems apItems cashItems rates org date db).map
      FXRevaluationLine.key).dedup = ratedPairs arItems apItems cashItems rates := by
  have hkeys : ∀ {σ : Type} (f : σ → Option FXRevaluationLine) (currencyCode : σ → String)
      (key : σ → AccountCurrency) (items : List σ),
      (∀ item, (f item).map FXRevaluationLine.key =
        (rates (currencyCode item)).map fun _ => key item) →
      (items.filterMap f).map FXRevaluationLine.key =
        (items.filter fun item => (rates (currencyCode item)).isSome).map key := by
    intro σ f currencyCode key items hf
    induction items with
    | nil => rfl
    | cons item items ih =>
      have hitem := hf item
      cases hrate : rates (currencyCode item) with
      | none =>
        rw [hrate, Option.map_none, Option.map_eq_none_iff] at hitem
        rw [List.filterMap_cons_none hitem, List.filter_cons_of_neg (by simp [hrate]), ih]
      | some rate =>
        rw [hrate, Option.map_some] at hitem
        obtain ⟨line, hline, hkey⟩ := Option.map_eq_some_iff.mp hitem
        rw [List.filterMap_cons_some hline, List.filter_cons_of_pos (by simp [hrate]),
          List.map_cons, List.map_cons, ih, hkey]
  have hinvoices : ∀ (isLiability : Bool) (items : List InvoiceItem),
      (items.filterMap (invoiceLine isLiability rates)).map FXRevaluationLine.key =
        (items.filter fun item => (rates item.currencyCode).isSome).map InvoiceItem.key :=
    fun isLiability items => hkeys _ InvoiceItem.currencyCode InvoiceItem.key items fun item => by
      rw [invoiceLine, Option.map_map]
      rfl
  rw [computeRevaluationLines, List.map_append, List.map_append, hinvoices, hinvoices,
    hkeys _ BankItem.currencyCode BankItem.key cashItems fun item => by
      rw [bankLine, Option.map_map]
      rfl, ratedPairs]

theorem filter_invoiceLines (isLiability : Bool) (items : List InvoiceItem) :
    ((items.filterMap (invoiceLine isLiability rates)).filter fun line => line.key = k) = [] ↔
      rates k.2 = none ∨ ∀ item ∈ items, item.key ≠ k := by
  rw [List.filter_eq_nil_iff]
  simp only [decide_eq_true_eq, List.mem_filterMap, forall_exists_index, and_imp]
  constructor
  · intro h
    refine or_iff_not_imp_left.mpr fun hrate item hitem hkey => ?_
    obtain ⟨rate, hrate⟩ := Option.ne_none_iff_exists'.mp hrate
    have hcode : rates item.currencyCode = some rate := by
      rw [← hrate, ← hkey]
      rfl
    refine h _ item hitem (by rw [invoiceLine, hcode]; rfl) ?_
    exact hkey
  · intro h line item hitem hline hkey
    obtain ⟨rate, hrate, rfl⟩ := Option.map_eq_some_iff.mp hline
    have hpair : item.key = k := hkey
    rcases h with hnone | hother
    · rw [← hpair] at hnone
      exact absurd (hrate.symm.trans hnone) (by simp)
    · exact hother item hitem hpair

/-- **A liability opens a pair** that has a rate and payables but no receivables. -/
theorem opensLiability_iff :
    opensLiability k (computeRevaluationLines arItems apItems cashItems rates org date db) = true ↔
      rates k.2 ≠ none ∧ (∀ item ∈ arItems, item.key ≠ k) ∧ ∃ item ∈ apItems, item.key = k := by
  have har : ((arItems.filterMap (invoiceLine false rates)).filter fun line => line.key = k) =
    [] ↔ _ := filter_invoiceLines false arItems
  have hap : ((apItems.filterMap (invoiceLine true rates)).filter fun line => line.key = k) =
    [] ↔ _ := filter_invoiceLines true apItems
  have hliability : ∀ (isLiability : Bool) (items : List InvoiceItem) line,
      line ∈ (items.filterMap (invoiceLine isLiability rates)).filter (fun line => line.key = k) →
        line.isLiability = isLiability := by
    intro isLiability items line hline
    obtain ⟨item, -, hitem⟩ := List.mem_filterMap.mp (List.mem_filter.mp hline).1
    obtain ⟨rate, -, rfl⟩ := Option.map_eq_some_iff.mp hitem
    rfl
  have hbank : ∀ line ∈ (cashItems.filterMap (bankLine rates org date db)).filter
      (fun line => line.key = k), line.isLiability = false := by
    intro line hline
    obtain ⟨item, -, hitem⟩ := List.mem_filterMap.mp (List.mem_filter.mp hline).1
    obtain ⟨rate, -, rfl⟩ := Option.map_eq_some_iff.mp hitem
    rfl
  rw [opensLiability, computeRevaluationLines, List.filter_append, List.filter_append]
  -- the first line of the pair is a receivable's, a payable's or a bank account's
  rcases hreceivables : (arItems.filterMap (invoiceLine false rates)).filter
      (fun line => line.key = k) with _ | ⟨line, rest⟩
  · rcases hpayables : (apItems.filterMap (invoiceLine true rates)).filter
        (fun line => line.key = k) with _ | ⟨line, rest⟩
    · have hnone := hap.mp hpayables
      rw [hreceivables, hpayables, List.nil_append, List.nil_append]
      refine iff_of_false (fun hopen => ?_) ?_
      · cases hfirst : ((cashItems.filterMap (bankLine rates org date db)).filter
            fun line => line.key = k).head? with
        | none =>
          rw [hfirst] at hopen
          exact absurd hopen (by simp)
        | some line =>
          rw [hfirst, Option.elim_some, hbank line (List.mem_of_head? hfirst)] at hopen
          exact absurd hopen (by simp)
      · rintro ⟨hrate, -, item, hitem, hkey⟩
        exact hnone.resolve_left hrate item hitem hkey
    · have hsome := mt hap.mpr (by rw [hpayables]; exact List.cons_ne_nil _ _)
      rw [not_or] at hsome
      have hopen := hliability true apItems line (by rw [hpayables]; exact List.mem_cons_self)
      have hnone := (har.mp hreceivables).resolve_left hsome.1
      rw [hreceivables, hpayables]
      refine iff_of_true hopen ⟨hsome.1, hnone, ?_⟩
      simpa using hsome.2
  · have hsome := mt har.mpr (by rw [hreceivables]; exact List.cons_ne_nil _ _)
    have hopen := hliability false arItems line (by rw [hreceivables]; exact List.mem_cons_self)
    rw [hreceivables]
    refine iff_of_false (fun htrue => ?_) fun h => hsome (Or.inr h.2.1)
    have hline : line.isLiability = true := htrue
    rw [hopen] at hline
    exact absurd hline (by simp)

end Lines

end FXRevaluationService

end DotmacErp
