import DotmacErp.Foundation.Buckets
import DotmacErp.Foundation.Totals
import DotmacErp.GL.Journal

/-!
# Foreign currency revaluation

`FXRevaluationService`: the open items of a period end are translated at the closing rates
(`computeRevaluationLines`), summed per control account and currency
(`aggregatePerAccountCurrency`), reported by the preview as a total gain and a total loss, and
written as a journal (`buildJournalInput`).

Every line of the aggregate stands for one account and currency and carries the sum of the changes
of its items (`mem_aggregate`), with the orientation of the first item. The journal line of an
aggregated line debits its signed change (`signed_controlLine`), and what the journal puts on an
account, on the gain account and on the loss account are sums over the aggregate. The texts of the
rates in the descriptions are a parameter.
-/

namespace DotmacErp

open Calendar Totals Buckets

structure FXRevaluationLine where
  accountId : UUID
  currencyCode : String
  closingRate : ℚ
  bookValueFunctional : ℚ
  revaluedValueFunctional : ℚ
  deltaFunctional : ℚ
  isGain : Bool
  isLiability : Bool := false

structure InvoiceItem where
  invoiceId : UUID
  controlAccountId : UUID
  currencyCode : String
  postingExchangeRate : ℚ
  balanceDue : ℚ

structure BankItem where
  bankAccountId : UUID
  glAccountId : UUID
  currencyCode : String
  balance : ℚ

/-- What a line is summed under. -/
abbrev AccountCurrency := UUID × String

def InvoiceItem.key (item : InvoiceItem) : AccountCurrency :=
  (item.controlAccountId, item.currencyCode)

def BankItem.key (item : BankItem) : AccountCurrency := (item.glAccountId, item.currencyCode)

def FXRevaluationLine.key (line : FXRevaluationLine) : AccountCurrency :=
  (line.accountId, line.currencyCode)

namespace FXRevaluationService

/-! ### The lines -/

def gains (isLiability : Bool) (delta : ℚ) : Bool :=
  if isLiability then decide (delta < 0) else decide (0 < delta)

def observe (isLiability : Bool) (key : AccountCurrency) (rate book revalued : ℚ) :
    FXRevaluationLine where
  accountId := key.1
  currencyCode := key.2
  closingRate := rate
  bookValueFunctional := book
  revaluedValueFunctional := revalued
  deltaFunctional := revalued - book
  isGain := gains isLiability (revalued - book)
  isLiability := isLiability

def computeBalanceFromJournals (glAccountId : UUID) (asOfDate : Date) (org : UUID)
    (db : Db) : ℚ :=
  let posted := db.journals.select fun j => j.organizationId = org ∧
    j.status = .posted ∧ j.postingDate ≤ asOfDate
  let lines := (posted.flatMap fun j => j.row.lines).filter fun l => l.accountId = glAccountId
  (lines.map JournalEntryLine.debitAmount).sum - (lines.map JournalEntryLine.creditAmount).sum

def invoiceLine (isLiability : Bool) (rates : String → Option ℚ) (item : InvoiceItem) :
    Option FXRevaluationLine :=
  (rates item.currencyCode).map fun rate =>
    observe isLiability item.key rate (item.balanceDue * item.postingExchangeRate)
      (item.balanceDue * rate)

def bankLine (rates : String → Option ℚ) (org : UUID) (periodEndDate : Date) (db : Db)
    (item : BankItem) : Option FXRevaluationLine :=
  (rates item.currencyCode).map fun rate =>
    observe false item.key rate
      (computeBalanceFromJournals item.glAccountId periodEndDate org db)
      (item.balance * rate)

def computeRevaluationLines (arItems apItems : List InvoiceItem) (cashItems : List BankItem)
    (rates : String → Option ℚ) (org : UUID) (periodEndDate : Date) (db : Db) :
    List FXRevaluationLine :=
  arItems.filterMap (invoiceLine false rates) ++ apItems.filterMap (invoiceLine true rates) ++
    cashItems.filterMap (bankLine rates org periodEndDate db)

def addObservation (existing line : FXRevaluationLine) : FXRevaluationLine :=
  { existing with
    bookValueFunctional := existing.bookValueFunctional + line.bookValueFunctional
    revaluedValueFunctional := existing.revaluedValueFunctional + line.revaluedValueFunctional
    deltaFunctional := existing.deltaFunctional + line.deltaFunctional }

/-- The gain flag is derived again from the summed change. -/
def rederive (bucket : FXRevaluationLine) : FXRevaluationLine :=
  { bucket with isGain := gains bucket.isLiability bucket.deltaFunctional }

/-- The dictionary of the sums. -/
def buckets (lines : List FXRevaluationLine) : List (AccountCurrency × FXRevaluationLine) :=
  collect FXRevaluationLine.key id addObservation lines

def aggregatePerAccountCurrency (lines : List FXRevaluationLine) : List FXRevaluationLine :=
  ((buckets lines).map fun bucket => rederive bucket.2).filter fun line => line.deltaFunctional ≠ 0

/-! ### The preview and the journal -/

/-- `total_gain_functional` of the preview. -/
def totalGainFunctional (lines : List FXRevaluationLine) : ℚ :=
  ((lines.filter FXRevaluationLine.isGain).map FXRevaluationLine.deltaFunctional).sum

/-- `total_loss_functional` of the preview. -/
def totalLossFunctional (lines : List FXRevaluationLine) : ℚ :=
  ((lines.filter fun line => !line.isGain).map fun line => -line.deltaFunctional).sum

def controlLine (rateText : ℚ → String) (line : FXRevaluationLine) : JournalLineInput where
  accountId := line.accountId
  debitAmount := if line.isGain then |line.deltaFunctional| else 0
  creditAmount := if line.isGain then 0 else |line.deltaFunctional|
  description := some ("FX revaluation: " ++ line.currencyCode ++ " @ " ++
    rateText line.closingRate)
  currencyCode := some line.currencyCode
  exchangeRate := some line.closingRate

def totalOf (isGain : Bool) (lines : List FXRevaluationLine) : ℚ :=
  ((lines.filter fun line => line.isGain = isGain).map fun line => |line.deltaFunctional|).sum

def gainLine (fxGainAccountId : UUID) (totalGain : ℚ) : List JournalLineInput :=
  if 0 < totalGain then
    [{ accountId := fxGainAccountId
       creditAmount := totalGain
       description := some "Total FX revaluation gains for the period" }]
  else []

def lossLine (fxLossAccountId : UUID) (totalLoss : ℚ) : List JournalLineInput :=
  if 0 < totalLoss then
    [{ accountId := fxLossAccountId
       debitAmount := totalLoss
       description := some "Total FX revaluation losses for the period" }]
  else []

/-- `_build_journal_input`. A line without a change is skipped. -/
def buildJournalInput (env : Env) (rateText : ℚ → String) (lines : List FXRevaluationLine)
    (postingDate : Date) (description : String) (fxGainAccountId fxLossAccountId : UUID)
    (correlationId : String) : JournalInput where
  journalType := .revaluation
  entryDate := postingDate
  postingDate := postingDate
  description := description
  sourceModule := some "FXR"
  correlationId := some correlationId
  currencyCode := env.defaultFunctionalCurrency
  lines := (lines.filter fun line => |line.deltaFunctional| ≠ 0).map (controlLine rateText) ++
    gainLine fxGainAccountId (totalOf true lines) ++
    lossLine fxLossAccountId (totalOf false lines)

/-! ### The aggregate -/

section Aggregate

variable {raw lines : List FXRevaluationLine} {line : FXRevaluationLine} {k : AccountCurrency}

def netDelta (k : AccountCurrency) (raw : List FXRevaluationLine) : ℚ :=
  total FXRevaluationLine.deltaFunctional FXRevaluationLine.key k raw

def opensLiability (k : AccountCurrency) (raw : List FXRevaluationLine) : Bool :=
  ((raw.filter fun line => line.key = k).head?).elim false FXRevaluationLine.isLiability

theorem foldl_addObservation (line : FXRevaluationLine) (rest : List FXRevaluationLine) :
    (rest.foldl addObservation line).key = line.key ∧
      (rest.foldl addObservation line).isLiability = line.isLiability ∧
      (rest.foldl addObservation line).deltaFunctional =
        line.deltaFunctional + (rest.map FXRevaluationLine.deltaFunctional).sum := by
  induction rest generalizing line with
  | nil => exact ⟨rfl, rfl, (add_zero _).symm⟩
  | cons next rest ih =>
    obtain ⟨hkey, hliability, hdelta⟩ := ih (addObservation line next)
    refine ⟨hkey, hliability, ?_⟩
    rw [List.foldl_cons, hdelta, List.map_cons, List.sum_cons, ← add_assoc]
    rfl

theorem bucket_spec {bucket : FXRevaluationLine} (h : (k, bucket) ∈ buckets raw) :
    bucket.key = k ∧ bucket.isLiability = opensLiability k raw ∧
      bucket.deltaFunctional = netDelta k raw := by
  rw [buckets, mem_collect] at h
  have hkeys : ∀ line ∈ raw.filter fun line => line.key = k, line.key = k := fun line hline =>
    of_decide_eq_true (List.mem_filter.mp hline).2
  rw [opensLiability, netDelta, total]
  cases hfound : raw.filter fun line => line.key = k with
  | nil =>
    rw [hfound] at h
    exact absurd h (by simp [mergeAll])
  | cons first rest =>
    rw [hfound, mergeAll] at h
    obtain rfl := Option.some.inj h
    obtain ⟨hkey, hliability, hdelta⟩ := foldl_addObservation first rest
    refine ⟨hkey.trans (hkeys first (by rw [hfound]; exact List.mem_cons_self)), hliability, ?_⟩
    rw [List.map_cons, List.sum_cons]
    exact hdelta

/-- **A sum over the aggregate** of what depends on the account, the orientation and the change
alone is a sum over the accounts and currencies. -/
theorem sum_aggregate {f : FXRevaluationLine → ℚ} {g : AccountCurrency → Bool → ℚ → ℚ}
    (hf : ∀ bucket, f (rederive bucket) = g bucket.key bucket.isLiability bucket.deltaFunctional)
    (hzero : ∀ k l, g k l 0 = 0) :
    ((aggregatePerAccountCurrency raw).map f).sum =
      ((raw.map FXRevaluationLine.key).dedup.map fun k =>
        g k (opensLiability k raw) (netDelta k raw)).sum := by
  have hskip : ∀ l : List FXRevaluationLine, (∀ line ∈ l, line.deltaFunctional = 0 → f line = 0) →
      ((l.filter fun line => line.deltaFunctional ≠ 0).map f).sum = (l.map f).sum := by
    intro l hl
    induction l with
    | nil => rfl
    | cons line l ih =>
      have hrest := ih fun line' hline' => hl line' (List.mem_cons_of_mem _ hline')
      rw [List.filter_cons, List.map_cons, List.sum_cons]
      split_ifs with hdelta
      · rw [List.map_cons, List.sum_cons, hrest]
      · rw [hrest, hl line List.mem_cons_self (by simpa using hdelta), zero_add]
  rw [aggregatePerAccountCurrency, hskip, List.map_map]
  · refine sum_collect fun bucket hbucket => ?_
    have hmem : (bucket.1, bucket.2) ∈ buckets raw := hbucket
    obtain ⟨hkey, hliability, hdelta⟩ := bucket_spec hmem
    rw [Function.comp_apply, hf, hkey, hliability, hdelta]
  · intro line hline hdelta
    obtain ⟨bucket, -, rfl⟩ := List.mem_map.mp hline
    have hzeroDelta : bucket.2.deltaFunctional = 0 := hdelta
    rw [hf, hzeroDelta, hzero]

/-- **A line of the aggregate** is an account and currency with a change. -/
theorem mem_aggregate (h : line ∈ aggregatePerAccountCurrency raw) :
    line.isLiability = opensLiability line.key raw ∧
      line.deltaFunctional = netDelta line.key raw ∧ line.deltaFunctional ≠ 0 ∧
      line.isGain = gains line.isLiability line.deltaFunctional := by
  obtain ⟨hline, hdelta⟩ := List.mem_filter.mp h
  obtain ⟨⟨k, bucket⟩, hbucket, rfl⟩ := List.mem_map.mp hline
  obtain ⟨hkey, hliability, hnet⟩ := bucket_spec hbucket
  have hsame : (rederive bucket).key = k := hkey
  rw [hsame]
  exact ⟨hliability, hnet, of_decide_eq_true hdelta, rfl⟩

theorem exists_mem_aggregate (h : netDelta k raw ≠ 0) :
    ∃ line ∈ aggregatePerAccountCurrency raw, line.key = k := by
  have hkeys := keys_collect FXRevaluationLine.key id addObservation raw
  have hmem : k ∈ (buckets raw).map Prod.fst := by
    by_contra hnot
    refine h (total_eq_zero fun line hline hkey => hnot ?_)
    exact (hkeys.2 k).mpr ⟨line, hline, hkey⟩
  obtain ⟨⟨k', bucket⟩, hbucket, rfl⟩ := List.mem_map.mp hmem
  obtain ⟨hkey, -, hnet⟩ := bucket_spec hbucket
  refine ⟨rederive bucket, List.mem_filter.mpr ⟨List.mem_map.mpr ⟨_, hbucket, rfl⟩, ?_⟩, hkey⟩
  have hdelta : (rederive bucket).deltaFunctional ≠ 0 := hnet.trans_ne h
  exact decide_eq_true hdelta

end Aggregate

end FXRevaluationService

end DotmacErp
