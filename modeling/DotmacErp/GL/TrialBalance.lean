import DotmacErp.Foundation.Totals
import DotmacErp.GL.BalanceRuns

/-!
# The trial balance

`get_account_balances` sums the balance rows of a period over the dimensions of each account,
and `get_trial_balance` puts the closing balance of each account on its debit or its credit
side. The two sides differ by the sum of the signed closing balances (`foldl_addLine`), which
is the sum over the balance rows (`sum_closingBalance`), hence, where balances are up to date,
the sum of debits less credits over the ledger rows up to the period (`sum_closing`). Rows that
came in balanced batches cancel there, so the two sides are equal (`trialBalance_balances`).
-/

namespace DotmacErp

open Relational Session Totals Calendar

def BalanceType.value : BalanceType → String
  | actual => "ACTUAL"
  | budget => "BUDGET"
  | encumbrance => "ENCUMBRANCE"
  | forecast => "FORECAST"

structure BalanceSummary where
  accountId : UUID
  accountCode : String
  fiscalPeriodId : UUID
  balanceType : String
  currencyCode : String
  openingBalance : ℚ
  periodDebit : ℚ
  periodCredit : ℚ
  closingBalance : ℚ
  netBalance : ℚ
  transactionCount : ℕ

structure TrialBalanceLineRead where
  accountId : UUID
  accountCode : String
  accountName : String
  debitBalance : ℚ
  creditBalance : ℚ

structure TrialBalanceRead where
  fiscalPeriodId : UUID
  periodName : String
  asOfDate : Date
  lines : List TrialBalanceLineRead
  totalDebit : ℚ
  totalCredit : ℚ
  isBalanced : Bool

namespace AccountBalanceService

def balanceRows (org periodId : UUID) (balanceType : BalanceType)
    (accountIds : List UUID) (db : Db) : List AccountBalance :=
  (db.balances.select fun b => b.organizationId = org ∧
    b.fiscalPeriodId = periodId ∧ b.balanceType = balanceType ∧
    (accountIds = [] ∨ b.accountId ∈ accountIds)).map Stored.row

def sumOf (column : AccountBalance → ℚ) (rows : List AccountBalance) : ℚ :=
  (rows.map column).sum

def getAccountBalances (org periodId : UUID) (db : Db)
    (balanceType : BalanceType := .actual) (accountIds : List UUID := [])
    (aggregateDimensions : Bool := true) : List BalanceSummary :=
  let balances := balanceRows org periodId balanceType accountIds db
  let accountCode := fun a => ((db.accounts.get? a).map Account.accountCode).getD ""
  if aggregateDimensions then
    (balances.map AccountBalance.accountId).dedup.map fun a =>
      let group := balances.filter fun b => b.accountId = a
      { accountId := a
        accountCode := accountCode a
        fiscalPeriodId := periodId
        balanceType := balanceType.value
        currencyCode := db.functionalCurrency org
        openingBalance := sumOf (fun b => b.openingDebit - b.openingCredit) group
        periodDebit := sumOf AccountBalance.periodDebit group
        periodCredit := sumOf AccountBalance.periodCredit group
        closingBalance := sumOf (fun b => b.closingDebit - b.closingCredit) group
        netBalance := sumOf AccountBalance.netBalance group
        transactionCount := (group.map AccountBalance.transactionCount).sum }
  else
    balances.map fun b =>
      { accountId := b.accountId
        accountCode := accountCode b.accountId
        fiscalPeriodId := b.fiscalPeriodId
        balanceType := b.balanceType.value
        currencyCode := b.currencyCode
        openingBalance := b.openingDebit - b.openingCredit
        periodDebit := b.periodDebit
        periodCredit := b.periodCredit
        closingBalance := b.closingDebit - b.closingCredit
        netBalance := b.netBalance
        transactionCount := b.transactionCount }

structure TrialBalanceSides where
  lines : List TrialBalanceLineRead
  totalDebit : ℚ
  totalCredit : ℚ

def addLine (accounts : Table Account) (sides : TrialBalanceSides) (balance : BalanceSummary) :
    TrialBalanceSides :=
  match accounts.get? balance.accountId with
  | none => sides
  | some acct =>
    if 0 ≤ balance.closingBalance then
      { lines := sides.lines ++
          [⟨balance.accountId, acct.accountCode, acct.accountName, balance.closingBalance, 0⟩]
        totalDebit := sides.totalDebit + balance.closingBalance
        totalCredit := sides.totalCredit }
    else
      { lines := sides.lines ++
          [⟨balance.accountId, acct.accountCode, acct.accountName, 0, |balance.closingBalance|⟩]
        totalDebit := sides.totalDebit
        totalCredit := sides.totalCredit + |balance.closingBalance| }

def TrialBalanceSides.read (periodId : UUID) (periodName : String) (asOfDate : Date)
    (sides : TrialBalanceSides) : TrialBalanceRead where
  fiscalPeriodId := periodId
  periodName := periodName
  asOfDate := asOfDate
  lines := sides.lines
  totalDebit := sides.totalDebit
  totalCredit := sides.totalCredit
  isBalanced := decide (|sides.totalDebit - sides.totalCredit| < 1 / 100)

def getTrialBalance (org periodId : UUID) (asOfDate : Date) :
    Tx TrialBalanceRead := do
  let db ← get
  let period ← orRaise (db.fiscalPeriods.get? periodId)
    (.http 404 "Fiscal period not found")
  let sides := (getAccountBalances org periodId db).foldl
    (addLine db.accounts) ⟨[], 0, 0⟩
  pure (sides.read periodId period.periodName asOfDate)

/-! ### The two sides -/

theorem foldl_addLine (accounts : Table Account) (balances : List BalanceSummary)
    (sides : TrialBalanceSides) (haccounts : ∀ b ∈ balances, (accounts.get? b.accountId).isSome) :
    (balances.foldl (addLine accounts) sides).totalDebit -
        (balances.foldl (addLine accounts) sides).totalCredit =
      sides.totalDebit - sides.totalCredit +
        (balances.map BalanceSummary.closingBalance).sum := by
  induction balances generalizing sides with
  | nil => simp
  | cons b balances ih =>
    have hrest := ih (addLine accounts sides b) fun b' hb' =>
      haccounts b' (List.mem_cons_of_mem _ hb')
    obtain ⟨acct, hacct⟩ := Option.isSome_iff_exists.mp (haccounts b List.mem_cons_self)
    have hside : (addLine accounts sides b).totalDebit - (addLine accounts sides b).totalCredit =
        sides.totalDebit - sides.totalCredit + b.closingBalance := by
      simp only [addLine, hacct]
      split_ifs with hsign
      · ring
      · rw [abs_of_neg (not_le.mp hsign)]
        ring
    rw [List.foldl_cons, hrest, hside, List.map_cons, List.sum_cons]
    ring

theorem sum_closingBalance (org periodId : UUID) (db : Db) :
    ((getAccountBalances org periodId db).map
        BalanceSummary.closingBalance).sum =
      sumOf (fun b => b.closingDebit - b.closingCredit)
        (balanceRows org periodId .actual [] db) := by
  generalize hrows : balanceRows org periodId .actual [] db = rows
  have hgroups : (getAccountBalances org periodId db).map
      BalanceSummary.closingBalance = (rows.map AccountBalance.accountId).dedup.map fun a =>
        total (fun b => b.closingDebit - b.closingCredit) AccountBalance.accountId a rows := by
    rw [getAccountBalances, if_pos rfl, hrows, List.map_map]
    rfl
  have hcovers : ∀ b ∈ rows, b.accountId ∈ (rows.map AccountBalance.accountId).dedup.toFinset :=
    fun b hb => List.mem_toFinset.mpr (List.mem_dedup.mpr (List.mem_map.mpr ⟨b, hb, rfl⟩))
  rw [hgroups, sumOf, sum_eq_sum_total hcovers, List.sum_toFinset _ (List.nodup_dedup _)]

/-! ### The ledger behind the balances -/

/-- Debits less credits. -/
def signed (rows : List PostedLedgerLine) : ℚ :=
  (rows.map fun r => r.debitAmount - r.creditAmount).sum

def rowsOfPeriods (org : UUID) (periods : List UUID) (ledger : List PostedLedgerLine) :
    List PostedLedgerLine :=
  ledger.filter fun r => r.organizationId = org ∧ r.fiscalPeriodId ∈ periods

theorem signed_eq (rows : List PostedLedgerLine) :
    signed rows = (movement rows).debit - (movement rows).credit := by
  rw [signed, movement]
  induction rows with
  | nil => simp
  | cons r rows ih =>
    simp only [List.map_cons, List.sum_cons] at ih ⊢
    rw [ih]
    ring

section Closing

variable {org p : UUID} {periods : List UUID} {db : Db} {b : AccountBalance}

theorem mem_balanceRows {accountIds : List UUID} :
    b ∈ balanceRows org p .actual accountIds db ↔
      (InPeriod org p b.key ∧ (accountIds = [] ∨ b.accountId ∈ accountIds)) ∧
        ∃ i, db.balances.get? i = some b := by
  rw [balanceRows, List.mem_map]
  constructor
  · rintro ⟨r, hr, rfl⟩
    obtain ⟨hget, hr⟩ := Table.mem_select.mp hr
    rw [decide_eq_true_eq] at hr
    exact ⟨⟨⟨hr.1, hr.2.1, hr.2.2.1⟩, hr.2.2.2⟩, r.id, hget⟩
  · rintro ⟨⟨hin, hids⟩, i, hi⟩
    refine ⟨⟨i, b⟩, Table.mem_select.mpr ⟨hi, decide_eq_true ?_⟩, rfl⟩
    exact ⟨hin.1, hin.2.1, hin.2.2, hids⟩

theorem nodup_balanceRows (hkeyed : db.KeyedBalances)
    (hcurrency : ∀ k b, InPeriod org p k → db.balance? k = some b →
      k.currencyCode = db.functionalCurrency org) (accountIds : List UUID) :
    ((balanceRows org p .actual accountIds db).map fun b => (b.accountId, b.dimensions)).Nodup := by
  rw [balanceRows, List.map_map, List.nodup_map_iff_inj_on (List.Nodup.of_map _
    (hkeyed.nodup_select _))]
  intro r hr r' hr' heq
  have hrow : r.row ∈ balanceRows org p .actual accountIds db := List.mem_map.mpr ⟨r, hr, rfl⟩
  have hrow' : r'.row ∈ balanceRows org p .actual accountIds db := List.mem_map.mpr ⟨r', hr', rfl⟩
  obtain ⟨⟨hin, -⟩, i, hi⟩ := mem_balanceRows.mp hrow
  obtain ⟨⟨hin', -⟩, i', hi'⟩ := mem_balanceRows.mp hrow'
  have hcode := hcurrency r.row.key r.row hin (hkeyed.at?_of_get? hi)
  have hcode' := hcurrency r'.row.key r'.row hin' (hkeyed.at?_of_get? hi')
  have hkey : r.row.key = r'.row.key := by
    obtain ⟨ha, hd⟩ := Prod.ext_iff.mp heq
    rw [AccountBalance.key, AccountBalance.key, BalanceKey.mk.injEq]
    exact ⟨hin.1.trans hin'.1.symm, ha, hin.2.1.trans hin'.2.1.symm,
      hin.2.2.trans hin'.2.2.symm, hcode.trans hcode'.symm, hd⟩
  have hid := hkeyed (Table.mem_select.mp hr).1 (Table.mem_select.mp hr').1 hkey
  have hsame := (Table.mem_select.mp hr).1
  rw [hid, (Table.mem_select.mp hr').1] at hsame
  cases r
  cases r'
  rw [Stored.mk.injEq]
  exact ⟨hid, (Option.some.inj hsame).symm⟩

/-- **A column of the balances of a period** that shows the signed ledger rows of some periods, key
by key, adds up to these rows. -/
theorem sumOf_balanceRows {column : AccountBalance → ℚ} (hkeyed : db.KeyedBalances)
    (hcurrency : ∀ k b, InPeriod org p k → db.balance? k = some b →
      k.currencyCode = db.functionalCurrency org)
    (hcolumn : ∀ k b, InPeriod org p k → db.balance? k = some b →
      column b = signed (rowsIn periods k db.ledger))
    (hpresent : ∀ k, InPeriod org p k → k.currencyCode = db.functionalCurrency org →
      rowsIn periods k db.ledger ≠ [] → ∃ b, db.balance? k = some b) (accountIds : List UUID) :
    sumOf column (balanceRows org p .actual accountIds db) =
      signed ((rowsOfPeriods org periods db.ledger).filter fun r =>
        accountIds = [] ∨ r.accountId ∈ accountIds) := by
  have hnodup := nodup_balanceRows hkeyed hcurrency accountIds
  generalize hrows : balanceRows org p .actual accountIds db = rows at hnodup ⊢
  have hmem : ∀ b, b ∈ rows ↔ (InPeriod org p b.key ∧
      (accountIds = [] ∨ b.accountId ∈ accountIds)) ∧ ∃ i, db.balances.get? i = some b :=
    fun b => hrows ▸ mem_balanceRows
  generalize hledger : (rowsOfPeriods org periods db.ledger).filter (fun r =>
    decide (accountIds = [] ∨ r.accountId ∈ accountIds)) = ledger
  -- each balance shows the rows of its account and dimensions
  have hbalance : ∀ b ∈ rows, column b =
      total (fun r => r.debitAmount - r.creditAmount) (fun r => (r.accountId, r.dimensions))
        (b.accountId, b.dimensions) ledger := by
    intro b hb
    obtain ⟨⟨hin, hids⟩, i, hi⟩ := (hmem b).mp hb
    rw [hcolumn b.key b hin (hkeyed.at?_of_get? hi), signed, total, ← hledger]
    congr 2
    rw [rowsIn, rowsOfPeriods, List.filter_filter, List.filter_filter]
    refine List.filter_congr fun r _ => ?_
    rw [hin.1]
    simp only [← Bool.decide_and, Prod.mk.injEq, AccountBalance.key]
    refine decide_eq_decide.mpr ⟨?_, ?_⟩
    · rintro ⟨ho, ha, hd, hp⟩
      exact ⟨⟨⟨ha, hd⟩, ha ▸ hids⟩, ho, hp⟩
    · rintro ⟨⟨⟨ha, hd⟩, -⟩, ho, hp⟩
      exact ⟨ho, ha, hd, hp⟩
  -- and every row is behind some balance
  have hcovers : ∀ r ∈ ledger, (r.accountId, r.dimensions) ∈
      (rows.map fun b => (b.accountId, b.dimensions)).toFinset := by
    intro r hr
    rw [← hledger] at hr
    simp only [rowsOfPeriods, List.mem_filter, decide_eq_true_eq] at hr
    obtain ⟨⟨hrow, ho, hp⟩, hids⟩ := hr
    obtain ⟨b, hb⟩ := hpresent
      ⟨org, r.accountId, p, .actual, db.functionalCurrency org, r.dimensions⟩ ⟨rfl, rfl, rfl⟩ rfl
      (List.ne_nil_of_mem (mem_rowsIn.mpr ⟨hrow, ho, rfl, rfl, hp⟩))
    have hkey : b.key = _ := Table.key_of_at? hb
    obtain ⟨-, haccount, -, -, -, hdimensions⟩ := BalanceKey.mk.inj hkey
    refine List.mem_toFinset.mpr (List.mem_map.mpr ⟨b, (hmem b).mpr ⟨⟨?_, ?_⟩, ?_⟩,
      Prod.ext haccount hdimensions⟩)
    · rw [hkey]
      exact ⟨rfl, rfl, rfl⟩
    · exact haccount ▸ hids
    · exact Table.exists_of_at? hb
  calc sumOf column rows
      = (rows.map fun b => total (fun r => r.debitAmount - r.creditAmount)
          (fun r => (r.accountId, r.dimensions)) (b.accountId, b.dimensions) ledger).sum := by
        rw [sumOf, List.map_congr_left hbalance]
    _ = ((rows.map fun b => (b.accountId, b.dimensions)).map fun c =>
          total (fun r => r.debitAmount - r.creditAmount)
            (fun r => (r.accountId, r.dimensions)) c ledger).sum := by rw [List.map_map]; rfl
    _ = signed ledger := by
        rw [signed, sum_eq_sum_total hcovers, List.sum_toFinset _ hnodup]

theorem closing_eq_signed (h : Cumulative org periods p db) {k : BalanceKey}
    (hk : InPeriod org p k) (hb : db.balance? k = some b) :
    b.closingDebit - b.closingCredit = signed (rowsIn periods k db.ledger) := by
  obtain ⟨hdebit, hcredit⟩ := h.closing k b hk hb
  rw [hdebit, hcredit, ← signed_eq]

/-- **The closing balances of a cumulative period** add up to the signed ledger rows of its
periods. -/
theorem sum_closing (h : Cumulative org periods p db) (hkeyed : db.KeyedBalances) :
    sumOf (fun b => b.closingDebit - b.closingCredit) (balanceRows org p .actual [] db) =
      signed (rowsOfPeriods org periods db.ledger) := by
  have hsum := sumOf_balanceRows hkeyed h.currency (fun _ _ => closing_eq_signed h) h.present []
  simpa using hsum

end Closing

/-! ### Balanced batches -/

/-- The rows of one posting batch: of one organization and period, with debits equal to
credits. -/
structure BalancedBatch (rows : List PostedLedgerLine) : Prop where
  together : ∀ r ∈ rows, ∀ r' ∈ rows, r.organizationId = r'.organizationId ∧
    r.fiscalPeriodId = r'.fiscalPeriodId
  balanced : (rows.map PostedLedgerLine.debitAmount).sum =
    (rows.map PostedLedgerLine.creditAmount).sum

/-- The rows are those of balanced batches, in any order. -/
def BuiltFromBatches (ledger : List PostedLedgerLine) : Prop :=
  ∃ batches : List (List PostedLedgerLine), ledger.Perm batches.flatten ∧
    ∀ rows ∈ batches, BalancedBatch rows

theorem signed_append (rows rows' : List PostedLedgerLine) :
    signed (rows ++ rows') = signed rows + signed rows' := by
  rw [signed, List.map_append, List.sum_append, signed, signed]

theorem BalancedBatch.signed_rowsOfPeriods {rows : List PostedLedgerLine} (h : BalancedBatch rows)
    (org : UUID) (periods : List UUID) : signed (rowsOfPeriods org periods rows) = 0 := by
  have hzero : signed rows = 0 := by
    rw [signed_eq]
    exact sub_eq_zero.mpr h.balanced
  by_cases hin : ∃ r ∈ rows, r.organizationId = org ∧ r.fiscalPeriodId ∈ periods
  · obtain ⟨r, hr, horg, hperiod⟩ := hin
    have hall : rowsOfPeriods org periods rows = rows := by
      refine List.filter_eq_self.mpr fun r' hr' => decide_eq_true ?_
      obtain ⟨ho, hp⟩ := h.together r hr r' hr'
      exact ⟨ho.symm.trans horg, hp ▸ hperiod⟩
    rw [hall, hzero]
  · have hnone : rowsOfPeriods org periods rows = [] := by
      refine List.filter_eq_nil_iff.mpr fun r hr hr' => hin ⟨r, hr, ?_⟩
      exact of_decide_eq_true hr'
    rw [hnone]
    rfl

theorem signed_of_batches {ledger : List PostedLedgerLine} (h : BuiltFromBatches ledger)
    (org : UUID) (periods : List UUID) : signed (rowsOfPeriods org periods ledger) = 0 := by
  obtain ⟨batches, hperm, hbalanced⟩ := h
  have hsigned : signed (rowsOfPeriods org periods ledger) =
      signed (rowsOfPeriods org periods batches.flatten) :=
    ((hperm.filter _).map _).sum_eq
  rw [hsigned]
  clear hperm hsigned
  induction batches with
  | nil => rfl
  | cons rows batches ih =>
    have hrest := ih fun rows' h' => hbalanced rows' (List.mem_cons_of_mem _ h')
    rw [List.flatten_cons, rowsOfPeriods, List.filter_append, signed_append]
    rw [rowsOfPeriods] at hrest
    rw [hrest, add_zero]
    exact (hbalanced rows List.mem_cons_self).signed_rowsOfPeriods org periods

/-- **The trial balance balances.** Where the ledger came in balanced batches and the balances
are fresh and rolled over in order, the trial balance of every period has equal sides. -/
theorem trialBalance_balances {org p : UUID} {periods : List UUID} {db : Db} {asOfDate : Date}
    {period : FiscalPeriod} (hnodup : periods.Nodup) (hbalances : UpToDate org periods db)
    (hledger : BuiltFromBatches db.ledger)
    (haccounts : ∀ i b, db.balances.get? i = some b → (db.accounts.get? b.accountId).isSome)
    (hp : p ∈ periods) (hperiod : db.fiscalPeriods.get? p = some period) :
    ∃ read, getTrialBalance org p asOfDate db = .ok read db ∧
      read.totalDebit = read.totalCredit ∧ read.isBalanced = true := by
  obtain ⟨earlier, later, hsplit⟩ := List.append_of_mem hp
  have hfound : ∀ b ∈ getAccountBalances org p db, (db.accounts.get? b.accountId).isSome := by
    intro b hb
    rw [getAccountBalances, if_pos rfl, List.mem_map] at hb
    obtain ⟨a, ha, rfl⟩ := hb
    obtain ⟨row, hrow, rfl⟩ := List.mem_map.mp (List.mem_dedup.mp ha)
    obtain ⟨-, i, hi⟩ := mem_balanceRows.mp hrow
    exact haccounts i row hi
  have hsides := foldl_addLine db.accounts (getAccountBalances org p db) ⟨[], 0, 0⟩ hfound
  rw [sum_closingBalance, sum_closing (hbalances.cumulative hnodup hsplit) hbalances.keyed,
    signed_of_batches hledger] at hsides
  have hequal := sub_eq_zero.mp (hsides.trans (by norm_num))
  refine ⟨TrialBalanceSides.read p period.periodName asOfDate _, ?_, hequal, ?_⟩
  · rw [getTrialBalance, get_bind, orRaise_bind]
    exact ⟨period, hperiod, rfl⟩
  · exact decide_eq_true (by rw [hequal]; norm_num)

theorem trialBalance_balances_sample :
    let db := rolloverAll 1 [0, 1] (recalculate 1 twoPeriodsPass twoPeriods)
    ∃ read, getTrialBalance 1 1 ⟨2024, 2, 28, by decide⟩ db = .ok read db ∧
      read.totalDebit = read.totalCredit ∧ read.isBalanced = true := by
  intro db
  have hbatches : BuiltFromBatches db.ledger :=
    ⟨[[plainLine 0 0 0 100 0, plainLine 0 1 0 0 100], [plainLine 1 0 1 30 0,
      plainLine 1 2 1 0 30]], List.Perm.refl _, by
        simp only [List.mem_cons, List.not_mem_nil, or_false, forall_eq_or_imp, forall_eq]
        exact ⟨⟨by decide, by decide +kernel⟩, ⟨by decide, by decide +kernel⟩⟩⟩
  have haccounts : ∀ r ∈ db.balances.rows, (db.accounts.get? r.row.accountId).isSome := by
    decide +kernel
  exact trialBalance_balances (by decide)
    (upToDate_pass (by decide) twoPeriods_reachable twoPeriodsPass_covers) hbatches
    (fun i b hb => haccounts ⟨i, b⟩ (Table.get?_eq_some.mp hb)) (by decide) rfl

end AccountBalanceService

end DotmacErp
