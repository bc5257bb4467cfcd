import DotmacErp.Foundation.Keyed
import DotmacErp.GL.Database

/-!
# Account balances

`AccountBalanceService` and `BalanceRefreshService`: the balance cache is recomputed from the
posted ledger lines, one account and period at a time (`refreshBalance`) or a whole period at
once (`rebuildBalancesForPeriod`), and the closing figures of a period become the opening
figures of the next (`rolloverOpeningBalances`).

A balance row has a natural key, its `BalanceKey`, and each of the three methods is described
by what that key finds afterwards: `at?_refreshBalance_of_rows`, `…_of_unmoved` and `…_of_ne`,
`at?_rebuild…`, and `at?_rollover…`. Dimensions are part of the key with their nulls: the
methods compare a missing dimension with `IS NULL`. Accounts and periods of the rows exist, so
the flush at the end of each method does not fail, and the methods are functions of the
database. The amounts are sums of stored amounts and need no rounding.
-/

namespace DotmacErp

open Relational

/-! ### Keys and movements -/

/-- The columns of `uq_account_balance`. -/
structure BalanceKey where
  organizationId : UUID
  accountId : UUID
  fiscalPeriodId : UUID
  balanceType : BalanceType
  currencyCode : String
  dimensions : Dimensions
  deriving DecidableEq

def AccountBalance.key (b : AccountBalance) : BalanceKey :=
  ⟨b.organizationId, b.accountId, b.fiscalPeriodId, b.balanceType, b.currencyCode, b.dimensions⟩

/-- The sums and the count of a group of ledger rows. -/
structure Movement where
  debit : ℚ
  credit : ℚ
  count : ℕ
  deriving DecidableEq

/-- `sum(debit_amount)`, `sum(credit_amount)` and `count()` over some ledger rows. -/
def movement (rows : List PostedLedgerLine) : Movement :=
  ⟨(rows.map PostedLedgerLine.debitAmount).sum, (rows.map PostedLedgerLine.creditAmount).sum,
    rows.length⟩

/-- `GROUP BY` some columns of the ledger rows, with the movement of each group. -/
def groupBy {κ : Type} [DecidableEq κ] (columns : PostedLedgerLine → κ)
    (rows : List PostedLedgerLine) : List (κ × Movement) :=
  (rows.map columns).dedup.map fun k => (k, movement (rows.filter fun r => columns r = k))

def accountRows (org accountId periodId : UUID)
    (ledger : List PostedLedgerLine) : List PostedLedgerLine :=
  ledger.filter fun r => r.organizationId = org ∧ r.accountId = accountId ∧
    r.fiscalPeriodId = periodId

def periodRows (org periodId : UUID) (ledger : List PostedLedgerLine) :
    List PostedLedgerLine :=
  ledger.filter fun r => r.organizationId = org ∧ r.fiscalPeriodId = periodId

def keyRows (k : BalanceKey) (ledger : List PostedLedgerLine) : List PostedLedgerLine :=
  ledger.filter fun r => r.organizationId = k.organizationId ∧ r.accountId = k.accountId ∧
    r.fiscalPeriodId = k.fiscalPeriodId ∧ r.dimensions = k.dimensions

def AccountBalance.shown (b : AccountBalance) : Movement :=
  ⟨b.periodDebit, b.periodCredit, b.transactionCount⟩

def AccountBalance.Closed (b : AccountBalance) : Prop :=
  b.closingDebit = b.openingDebit + b.periodDebit ∧
    b.closingCredit = b.openingCredit + b.periodCredit

instance (b : AccountBalance) : Decidable b.Closed := inferInstanceAs (Decidable (_ ∧ _))

/-- Nothing was brought forward. -/
def AccountBalance.Unopened (b : AccountBalance) : Prop :=
  b.openingDebit = 0 ∧ b.openingCredit = 0

instance (b : AccountBalance) : Decidable b.Unopened := inferInstanceAs (Decidable (_ ∧ _))

/-- A ledger row of organization 1 without dimensions, for concrete ledgers. -/
def plainLine (postingBatchId accountId periodId : UUID) (debitAmount creditAmount : ℚ) :
    PostedLedgerLine where
  postingYear := 2024
  organizationId := 1
  journalEntryId := postingBatchId
  journalLineId := accountId
  postingBatchId := postingBatchId
  fiscalPeriodId := periodId
  accountId := accountId
  accountCode := "1000"
  entryDate := ⟨2024, 1, 31, by decide⟩
  postingDate := ⟨2024, 1, 31, by decide⟩
  description := none
  journalReference := none
  debitAmount := debitAmount
  creditAmount := creditAmount
  originalCurrencyCode := none
  originalDebitAmount := none
  originalCreditAmount := none
  exchangeRate := none
  dimensions := .none
  sourceModule := "GL"
  sourceDocumentType := none
  sourceDocumentId := none
  postedByUserId := 0
  correlationId := none

section Groups

variable {κ : Type} [DecidableEq κ] {columns : PostedLedgerLine → κ}
  {rows ledger : List PostedLedgerLine} {k : BalanceKey} {r : PostedLedgerLine}

theorem mem_groupBy {g : κ × Movement} :
    g ∈ groupBy columns rows ↔
      (∃ r ∈ rows, columns r = g.1) ∧ g.2 = movement (rows.filter fun r => columns r = g.1) := by
  rw [groupBy, List.mem_map]
  simp only [List.mem_dedup, List.mem_map]
  constructor
  · rintro ⟨c, hc, rfl⟩
    exact ⟨hc, rfl⟩
  · rintro ⟨hc, hm⟩
    exact ⟨g.1, hc, Prod.ext rfl hm.symm⟩

theorem nodup_groupBy (columns : PostedLedgerLine → κ) (rows : List PostedLedgerLine) :
    ((groupBy columns rows).map Prod.fst).Nodup := by
  have hfst : (groupBy columns rows).map Prod.fst = (rows.map columns).dedup := by
    rw [groupBy, List.map_map]
    exact List.map_id _
  rw [hfst]
  exact List.nodup_dedup _

@[simp] theorem mem_keyRows :
    r ∈ keyRows k ledger ↔ r ∈ ledger ∧ r.organizationId = k.organizationId ∧
      r.accountId = k.accountId ∧ r.fiscalPeriodId = k.fiscalPeriodId ∧
      r.dimensions = k.dimensions := by
  simp [keyRows, List.mem_filter]

theorem keyRows_append (l l' : List PostedLedgerLine) :
    keyRows k (l ++ l') = keyRows k l ++ keyRows k l' := List.filter_append ..

theorem filter_accountRows (k : BalanceKey) (ledger : List PostedLedgerLine) :
    ((accountRows k.organizationId k.accountId k.fiscalPeriodId ledger).filter fun r =>
      r.dimensions = k.dimensions) = keyRows k ledger := by
  rw [accountRows, List.filter_filter, keyRows]
  refine List.filter_congr fun r _ => ?_
  simp only [← Bool.decide_and, decide_eq_decide]
  tauto

theorem filter_periodRows (k : BalanceKey) (ledger : List PostedLedgerLine) :
    ((periodRows k.organizationId k.fiscalPeriodId ledger).filter fun r =>
      (r.accountId, r.dimensions) = (k.accountId, k.dimensions)) = keyRows k ledger := by
  rw [periodRows, List.filter_filter, keyRows]
  refine List.filter_congr fun r _ => ?_
  simp only [← Bool.decide_and, decide_eq_decide, Prod.mk.injEq]
  tauto

end Groups

/-! ### The methods -/

/-- A balance row as the refresh creates it, before the figures are written. -/
def newBalance (k : BalanceKey) : AccountBalance where
  organizationId := k.organizationId
  accountId := k.accountId
  fiscalPeriodId := k.fiscalPeriodId
  balanceType := k.balanceType
  currencyCode := k.currencyCode
  dimensions := k.dimensions
  openingDebit := 0
  openingCredit := 0
  periodDebit := 0
  periodCredit := 0
  closingDebit := 0
  closingCredit := 0
  netBalance := 0
  transactionCount := 0
  isStale := false
  refreshCount := 0

def AccountBalance.refreshed (m : Movement) (b : AccountBalance) : AccountBalance :=
  { b with
    periodDebit := m.debit
    periodCredit := m.credit
    closingDebit := b.openingDebit + m.debit
    closingCredit := b.openingCredit + m.credit
    netBalance := b.openingDebit + m.debit - (b.openingCredit + m.credit)
    transactionCount := m.count
    isStale := false
    refreshCount := b.refreshCount + 1 }

/-- The figures the refresh writes where there are no rows. -/
def AccountBalance.unmoved (b : AccountBalance) : AccountBalance :=
  { b with
    periodDebit := 0
    periodCredit := 0
    closingDebit := b.openingDebit
    closingCredit := b.openingCredit
    netBalance := b.openingDebit - b.openingCredit
    transactionCount := 0
    isStale := false
    refreshCount := b.refreshCount + 1 }

namespace BalanceRefreshService

/-- The balances `existing_map` holds: the actual ones of an account and a period. -/
def existing (org accountId periodId : UUID) (b : AccountBalance) : Bool :=
  b.organizationId = org ∧ b.accountId = accountId ∧
    b.fiscalPeriodId = periodId ∧ b.balanceType = .actual

def rowKey (org accountId periodId : UUID) (currencyCode : String)
    (g : Dimensions × Movement) : BalanceKey :=
  ⟨org, accountId, periodId, .actual, currencyCode, g.1⟩

def writeGroups (key : Dimensions × Movement → BalanceKey) (grouped : List (Dimensions × Movement))
    (balances : Table AccountBalance) : Table AccountBalance :=
  balances.upsertAll AccountBalance.key key (fun g => .refreshed g.2)
    (fun g => (newBalance (key g)).refreshed g.2) grouped

/-- `refresh_balance`, under its advisory lock. -/
def refreshBalance (org accountId periodId : UUID) (db : Db) : ℕ × Db :=
  let currencyCode := db.functionalCurrency org
  let grouped := groupBy PostedLedgerLine.dimensions
    (accountRows org accountId periodId db.ledger)
  let rowKey := rowKey org accountId periodId currencyCode
  let touched := grouped.map rowKey
  let existing := existing org accountId periodId
  let balances := writeGroups rowKey grouped db.balances
  let balances := balances.update (fun b => existing b && decide (b.key ∉ touched)) .unmoved
  ((balances.select existing).length, { db with balances })

end BalanceRefreshService

namespace AccountBalanceService

def rebuilt (k : BalanceKey) (m : Movement) : AccountBalance where
  organizationId := k.organizationId
  accountId := k.accountId
  fiscalPeriodId := k.fiscalPeriodId
  balanceType := k.balanceType
  currencyCode := k.currencyCode
  dimensions := k.dimensions
  -- the source leaves the opening figures to the period rollover
  openingDebit := 0
  openingCredit := 0
  periodDebit := m.debit
  periodCredit := m.credit
  closingDebit := m.debit
  closingCredit := m.credit
  netBalance := m.debit - m.credit
  transactionCount := m.count
  isStale := false
  refreshCount := 1

def rebuildBalancesForPeriod (org periodId : UUID) (balanceType : BalanceType)
    (db : Db) : ℕ × Db :=
  let kept := db.balances.remove fun b => b.organizationId = org ∧
    b.fiscalPeriodId = periodId ∧ b.balanceType = balanceType
  let results := groupBy (fun r => (r.accountId, r.dimensions))
    (periodRows org periodId db.ledger)
  let created := results.map fun g =>
    rebuilt ⟨org, g.1.1, periodId, balanceType,
      db.functionalCurrency org, g.1.2⟩ g.2
  (results.length, { db with balances := kept.insertAll created })

def rolledInto (source target : AccountBalance) : AccountBalance :=
  { target with
    openingDebit := source.closingDebit
    openingCredit := source.closingCredit
    closingDebit := source.closingDebit + target.periodDebit
    closingCredit := source.closingCredit + target.periodCredit
    netBalance := source.closingDebit + target.periodDebit -
      (source.closingCredit + target.periodCredit)
    isStale := false }

def rolledOver (toPeriodId : UUID) (source : AccountBalance) : AccountBalance :=
  { source with
    fiscalPeriodId := toPeriodId
    openingDebit := source.closingDebit
    openingCredit := source.closingCredit
    periodDebit := 0
    periodCredit := 0
    closingDebit := source.closingDebit
    closingCredit := source.closingCredit
    netBalance := source.closingDebit - source.closingCredit
    transactionCount := 0
    isStale := false
    refreshCount := 1 }

def rolloverOpeningBalances (org fromPeriodId toPeriodId : UUID)
    (balanceType : BalanceType) (db : Db) : ℕ × Db :=
  let sources := db.balances.select fun b => b.organizationId = org ∧
    b.fiscalPeriodId = fromPeriodId ∧ b.balanceType = balanceType
  let balances := db.balances.upsertAll AccountBalance.key
    (fun source => { source.row.key with fiscalPeriodId := toPeriodId })
    (fun source => rolledInto source.row) (fun source => rolledOver toPeriodId source.row) sources
  (sources.length, { db with balances })

end AccountBalanceService

/-! ### What a key finds afterwards -/

section Keys

variable (b : AccountBalance) (k : BalanceKey) (m : Movement)

@[simp] theorem AccountBalance.key_refreshed : (b.refreshed m).key = b.key := rfl

@[simp] theorem AccountBalance.key_unmoved : b.unmoved.key = b.key := rfl

@[simp] theorem key_newBalance : (newBalance k).key = k := rfl

@[simp] theorem AccountBalanceService.key_rebuilt :
    (AccountBalanceService.rebuilt k m).key = k := rfl

@[simp] theorem AccountBalanceService.key_rolledInto (source : AccountBalance) :
    (AccountBalanceService.rolledInto source b).key = b.key := rfl

@[simp] theorem AccountBalanceService.key_rolledOver (p : UUID) :
    (AccountBalanceService.rolledOver p b).key = { b.key with fiscalPeriodId := p } := rfl

@[simp] theorem AccountBalance.shown_refreshed : (b.refreshed m).shown = m := rfl

@[simp] theorem AccountBalance.shown_unmoved : b.unmoved.shown = movement [] := rfl

theorem AccountBalance.closed_refreshed : (b.refreshed m).Closed := ⟨rfl, rfl⟩

theorem AccountBalance.closed_unmoved : b.unmoved.Closed :=
  ⟨(add_zero _).symm, (add_zero _).symm⟩

end Keys

abbrev Db.balance? (db : Db) (k : BalanceKey) : Option AccountBalance :=
  db.balances.at? AccountBalance.key k

abbrev Db.KeyedBalances (db : Db) : Prop := db.balances.Keyed AccountBalance.key

namespace BalanceRefreshService

variable {db : Db} {k : BalanceKey} {o a p : UUID}

theorem mem_touched :
    k ∈ (groupBy PostedLedgerLine.dimensions (accountRows o a p db.ledger)).map
        (rowKey o a p (db.functionalCurrency o)) ↔
      (k.organizationId = o ∧ k.accountId = a ∧ k.fiscalPeriodId = p ∧ k.balanceType = .actual) ∧
        k.currencyCode = db.functionalCurrency o ∧ keyRows k db.ledger ≠ [] := by
  rw [List.mem_map]
  constructor
  · rintro ⟨g, hg, rfl⟩
    obtain ⟨⟨r, hr, hdims⟩, -⟩ := mem_groupBy.mp hg
    simp only [accountRows, List.mem_filter, decide_eq_true_eq] at hr
    refine ⟨⟨rfl, rfl, rfl, rfl⟩, rfl, List.ne_nil_of_mem (a := r) ?_⟩
    rw [mem_keyRows]
    exact ⟨hr.1, hr.2.1, hr.2.2.1, hr.2.2.2, hdims⟩
  · rintro ⟨⟨rfl, rfl, rfl, htype⟩, hcode, hrows⟩
    obtain ⟨r, hr⟩ := List.exists_mem_of_ne_nil _ hrows
    rw [← filter_accountRows, List.mem_filter, decide_eq_true_eq] at hr
    refine ⟨(k.dimensions, movement (keyRows k db.ledger)), mem_groupBy.mpr ⟨⟨r, hr⟩, ?_⟩, ?_⟩
    · rw [filter_accountRows]
    · rw [rowKey, ← hcode, ← htype]

section Groups

variable {grouped : List (Dimensions × Movement)} {balances : Table AccountBalance}

theorem keyed_writeGroups (h : balances.Keyed AccountBalance.key)
    (key : Dimensions × Movement → BalanceKey) :
    (writeGroups key grouped balances).Keyed AccountBalance.key :=
  h.upsertAll (fun _ _ => rfl) fun _ => rfl

theorem at?_writeGroups_of_mem (o a p : UUID) (code : String)
    (h : balances.Keyed AccountBalance.key)
    (hnodup : (grouped.map Prod.fst).Nodup) {g : Dimensions × Movement} (hg : g ∈ grouped) :
    (writeGroups (rowKey o a p code) grouped balances).at? AccountBalance.key
        (rowKey o a p code g) =
      some (((balances.at? AccountBalance.key (rowKey o a p code g)).getD
        (newBalance (rowKey o a p code g))).refreshed g.2) := by
  have hinj : Function.Injective fun d : Dimensions => BalanceKey.mk o a p .actual code d := by
    intro d d' heq
    exact (BalanceKey.mk.inj heq).2.2.2.2.2
  have hkeys : (grouped.map (rowKey o a p code)).Nodup := by
    have hmap : grouped.map (rowKey o a p code) =
        (grouped.map Prod.fst).map fun d => BalanceKey.mk o a p .actual code d := by
      rw [List.map_map]
      rfl
    rw [hmap]
    exact hnodup.map hinj
  have hupdate : ∀ (g : Dimensions × Movement) (b : AccountBalance),
      (b.refreshed g.2).key = b.key := fun _ _ => rfl
  have hcreate : ∀ g, ((newBalance (rowKey o a p code g)).refreshed g.2).key =
      rowKey o a p code g := fun _ => rfl
  refine (h.at?_upsertAll_of_mem hupdate hcreate hkeys hg).trans ?_
  cases balances.at? AccountBalance.key (rowKey o a p code g) with
  | none => rfl
  | some b => rfl

theorem at?_writeGroups_of_ne (h : balances.Keyed AccountBalance.key)
    {key : Dimensions × Movement → BalanceKey} (hk : k ∉ grouped.map key) :
    (writeGroups key grouped balances).at? AccountBalance.key k =
      balances.at? AccountBalance.key k :=
  h.at?_upsertAll_of_ne (fun _ _ => rfl) (fun _ => rfl) fun g hg heq =>
    hk (List.mem_map.mpr ⟨g, hg, heq⟩)

end Groups

theorem balance?_refreshBalance (h : db.KeyedBalances) (o a p : UUID) (k : BalanceKey) :
    (refreshBalance o a p db).2.balance? k =
      ((writeGroups (rowKey o a p (db.functionalCurrency o)) (groupBy PostedLedgerLine.dimensions
        (accountRows o a p db.ledger)) db.balances).at? AccountBalance.key k).map fun b =>
          if existing o a p b && decide (b.key ∉
            (groupBy PostedLedgerLine.dimensions (accountRows o a p db.ledger)).map
              (rowKey o a p (db.functionalCurrency o))) then b.unmoved else b :=
  (keyed_writeGroups h _).at?_update fun _ _ => rfl

theorem keyed_refreshBalance (h : db.KeyedBalances) (o a p : UUID) :
    (refreshBalance o a p db).2.KeyedBalances :=
  (keyed_writeGroups h _).update fun _ _ => rfl

theorem balance?_refreshBalance_of_rows (h : db.KeyedBalances)
    (hk : k.organizationId = o ∧ k.accountId = a ∧ k.fiscalPeriodId = p ∧
      k.balanceType = .actual)
    (hcode : k.currencyCode = db.functionalCurrency o) (hrows : keyRows k db.ledger ≠ []) :
    (refreshBalance o a p db).2.balance? k =
      some (((db.balance? k).getD (newBalance k)).refreshed
        (movement (keyRows k db.ledger))) := by
  have hmem := mem_touched.mpr ⟨hk, hcode, hrows⟩
  obtain ⟨g, hg, hkey⟩ := List.mem_map.mp hmem
  have hlookup := at?_writeGroups_of_mem o a p (db.functionalCurrency o) h
    (nodup_groupBy _ _) hg
  rw [hkey] at hlookup
  have hm : g.2 = movement (keyRows k db.ledger) := by
    rw [(mem_groupBy.mp hg).2, ← filter_accountRows, ← hkey]
    rfl
  rw [balance?_refreshBalance h, hlookup, Option.map_some, if_neg, hm]
  rw [Table.key_of_at? hlookup, Bool.and_eq_true, decide_eq_true_eq]
  exact fun hnot => hnot.2 hmem

theorem balance?_refreshBalance_of_unmoved (h : db.KeyedBalances)
    (hk : k.organizationId = o ∧ k.accountId = a ∧ k.fiscalPeriodId = p ∧
      k.balanceType = .actual)
    (hidle : k.currencyCode = db.functionalCurrency o → keyRows k db.ledger = []) :
    (refreshBalance o a p db).2.balance? k = (db.balance? k).map .unmoved := by
  have hmem : k ∉ (groupBy PostedLedgerLine.dimensions (accountRows o a p db.ledger)).map
      (rowKey o a p (db.functionalCurrency o)) := fun hmem => by
    obtain ⟨-, hcode, hrows⟩ := mem_touched.mp hmem
    exact hrows (hidle hcode)
  rw [balance?_refreshBalance h, at?_writeGroups_of_ne h hmem]
  refine Option.map_congr fun b hb => if_pos ?_
  have hkey : b.key = k := Table.key_of_at? hb
  rw [hkey, Bool.and_eq_true, decide_eq_true_eq, existing, decide_eq_true_eq]
  rw [← hkey] at hk
  exact ⟨hk, hmem⟩

theorem balance?_refreshBalance_of_ne (h : db.KeyedBalances)
    (hk : ¬ (k.organizationId = o ∧ k.accountId = a ∧ k.fiscalPeriodId = p ∧
      k.balanceType = .actual)) :
    (refreshBalance o a p db).2.balance? k = db.balance? k := by
  have hmem : k ∉ (groupBy PostedLedgerLine.dimensions (accountRows o a p db.ledger)).map
      (rowKey o a p (db.functionalCurrency o)) := fun hmem => hk (mem_touched.mp hmem).1
  rw [balance?_refreshBalance h, at?_writeGroups_of_ne h hmem]
  rw [Db.balance?]
  cases hb : db.balances.at? AccountBalance.key k with
  | none => rfl
  | some b =>
    rw [Option.map_some, if_neg]
    have hkey : b.key = k := Table.key_of_at? hb
    rw [Bool.and_eq_true, existing, decide_eq_true_eq]
    rw [← hkey] at hk
    exact fun hb' => hk hb'.1

end BalanceRefreshService

namespace AccountBalanceService

variable {db : Db} {k : BalanceKey} {o p q : UUID} {ty : BalanceType}

private abbrev created (o p : UUID) (ty : BalanceType) (db : Db) : List AccountBalance :=
  (groupBy (fun r => (r.accountId, r.dimensions)) (periodRows o p db.ledger)).map fun g =>
    rebuilt ⟨o, g.1.1, p, ty, db.functionalCurrency o, g.1.2⟩ g.2

private theorem nodup_created : ((created o p ty db).map AccountBalance.key).Nodup := by
  have hinj : Function.Injective fun c : UUID × Dimensions =>
      BalanceKey.mk o c.1 p ty (db.functionalCurrency o) c.2 := by
    intro c c' heq
    have hparts := BalanceKey.mk.inj heq
    exact Prod.ext hparts.2.1 hparts.2.2.2.2.2
  have hmap : (created o p ty db).map AccountBalance.key =
      ((groupBy (fun r => (r.accountId, r.dimensions)) (periodRows o p db.ledger)).map
        Prod.fst).map fun c => BalanceKey.mk o c.1 p ty (db.functionalCurrency o) c.2 := by
    rw [List.map_map, List.map_map]
    rfl
  rw [hmap]
  exact (nodup_groupBy _ _).map hinj

private theorem mem_created {b : AccountBalance} :
    b ∈ created o p ty db ↔ (b.key.organizationId = o ∧ b.key.fiscalPeriodId = p ∧
      b.key.balanceType = ty) ∧ b.key.currencyCode = db.functionalCurrency o ∧
      keyRows b.key db.ledger ≠ [] ∧ b = rebuilt b.key (movement (keyRows b.key db.ledger)) := by
  rw [List.mem_map]
  constructor
  · rintro ⟨g, hg, rfl⟩
    obtain ⟨⟨r, hr, hcolumns⟩, hm⟩ := mem_groupBy.mp hg
    simp only [key_rebuilt]
    rw [← filter_periodRows]
    refine ⟨⟨trivial, trivial, trivial⟩, trivial, List.ne_nil_of_mem (a := r) ?_, by rw [hm]⟩
    rw [List.mem_filter]
    exact ⟨hr, by simpa using hcolumns⟩
  · rintro ⟨⟨ho, hp, hty⟩, hcode, hrows, hb⟩
    obtain ⟨r, hr⟩ := List.exists_mem_of_ne_nil _ hrows
    rw [← filter_periodRows, List.mem_filter, decide_eq_true_eq] at hr
    refine ⟨((b.key.accountId, b.key.dimensions), movement (keyRows b.key db.ledger)),
      mem_groupBy.mpr ⟨⟨r, ?_, hr.2⟩, ?_⟩, ?_⟩
    · rw [← ho, ← hp]
      exact hr.1
    · rw [← filter_periodRows, ho, hp]
    · rw [← hcode, ← ho, ← hp, ← hty]
      exact hb.symm

private theorem rebuild_spec (h : db.KeyedBalances) (o p : UUID) (ty : BalanceType) :
    (rebuildBalancesForPeriod o p ty db).2.KeyedBalances ∧
      (∀ b ∈ created o p ty db,
        (rebuildBalancesForPeriod o p ty db).2.balance? b.key = some b) ∧
      ∀ k, (∀ b ∈ created o p ty db, b.key ≠ k) →
        (rebuildBalancesForPeriod o p ty db).2.balance? k =
          (db.balance? k).filter fun b => !decide (b.organizationId = o ∧
            b.fiscalPeriodId = p ∧ b.balanceType = ty) := by
  obtain ⟨hkeyed, hfound, hother⟩ := (h.remove fun b => decide (b.organizationId = o ∧
    b.fiscalPeriodId = p ∧ b.balanceType = ty)).insertAll nodup_created
    (l := created o p ty db) fun b hb => by
      -- the balances of the period are gone when the new ones are stored
      rw [h.at?_remove, Option.filter_eq_none_iff]
      intro b' hb'
      have hkey : b'.key = b.key := Table.key_of_at? hb'
      obtain ⟨hb, -⟩ := mem_created.mp hb
      rw [← hkey] at hb
      simp only [Bool.not_eq_true', decide_eq_false_iff_not, not_not]
      exact hb
  refine ⟨hkeyed, hfound, fun k hk => (hother k hk).trans ?_⟩
  rw [h.at?_remove]

theorem keyed_rebuild (h : db.KeyedBalances) (o p : UUID) (ty : BalanceType) :
    (rebuildBalancesForPeriod o p ty db).2.KeyedBalances := (rebuild_spec h o p ty).1

theorem balance?_rebuild_of_rows (h : db.KeyedBalances)
    (hk : k.organizationId = o ∧ k.fiscalPeriodId = p ∧ k.balanceType = ty)
    (hcode : k.currencyCode = db.functionalCurrency o) (hrows : keyRows k db.ledger ≠ []) :
    (rebuildBalancesForPeriod o p ty db).2.balance? k =
      some (rebuilt k (movement (keyRows k db.ledger))) :=
  (rebuild_spec h o p ty).2.1 (rebuilt k (movement (keyRows k db.ledger)))
    (mem_created.mpr ⟨hk, hcode, hrows, rfl⟩)

theorem balance?_rebuild_of_none (h : db.KeyedBalances)
    (hk : k.organizationId = o ∧ k.fiscalPeriodId = p ∧ k.balanceType = ty)
    (hidle : k.currencyCode = db.functionalCurrency o → keyRows k db.ledger = []) :
    (rebuildBalancesForPeriod o p ty db).2.balance? k = none := by
  refine ((rebuild_spec h o p ty).2.2 k fun b hb heq => ?_).trans ?_
  · obtain ⟨-, hcode, hrows, -⟩ := mem_created.mp hb
    rw [heq] at hcode hrows
    exact hrows (hidle hcode)
  · rw [Option.filter_eq_none_iff]
    intro b hb
    have hkey : b.key = k := Table.key_of_at? hb
    rw [← hkey] at hk
    simp only [Bool.not_eq_true', decide_eq_false_iff_not, not_not]
    exact hk

theorem balance?_rebuild_of_ne (h : db.KeyedBalances)
    (hk : ¬ (k.organizationId = o ∧ k.fiscalPeriodId = p ∧ k.balanceType = ty)) :
    (rebuildBalancesForPeriod o p ty db).2.balance? k = db.balance? k := by
  refine ((rebuild_spec h o p ty).2.2 k fun b hb heq => ?_).trans ?_
  · obtain ⟨hb, -⟩ := mem_created.mp hb
    rw [heq] at hb
    exact hk hb
  · cases hb : db.balance? k with
    | none => rfl
    | some b =>
      have hkey : b.key = k := Table.key_of_at? hb
      rw [← hkey] at hk
      rw [Option.filter_some, if_pos]
      simp only [Bool.not_eq_true', decide_eq_false_iff_not]
      exact hk

/-! ### The rollover -/

theorem keyed_rollover (h : db.KeyedBalances) (o p q : UUID) (ty : BalanceType) :
    (rolloverOpeningBalances o p q ty db).2.KeyedBalances :=
  h.upsertAll (fun _ _ => rfl) fun _ => rfl

private theorem mem_sources (o p : UUID) (ty : BalanceType) (h : db.KeyedBalances)
    {b : AccountBalance} :
    (∃ r ∈ db.balances.select (fun b => decide (b.organizationId = o ∧ b.fiscalPeriodId = p ∧
        b.balanceType = ty)), r.row = b) ↔
      (b.organizationId = o ∧ b.fiscalPeriodId = p ∧ b.balanceType = ty) ∧
        db.balance? b.key = some b := by
  constructor
  · rintro ⟨r, hr, rfl⟩
    obtain ⟨hget, hr⟩ := Table.mem_select.mp hr
    exact ⟨of_decide_eq_true hr, h.at?_of_get? hget⟩
  · rintro ⟨hb, hfound⟩
    obtain ⟨i, hi⟩ := Table.exists_of_at? hfound
    exact ⟨⟨i, b⟩, Table.mem_select.mpr ⟨hi, decide_eq_true hb⟩, rfl⟩

theorem balance?_rollover_of_source (h : db.KeyedBalances) {source : AccountBalance}
    (hk : k.organizationId = o ∧ k.fiscalPeriodId = q ∧ k.balanceType = ty)
    (hsource : db.balance? { k with fiscalPeriodId := p } = some source) :
    (rolloverOpeningBalances o p q ty db).2.balance? k =
      some ((db.balance? k).elim (rolledOver q source) (rolledInto source)) := by
  have hkey : source.key = { k with fiscalPeriodId := p } := Table.key_of_at? hsource
  have hparts := BalanceKey.mk.inj hkey
  obtain ⟨r, hr, hrow⟩ := (mem_sources o p ty h).mpr
    ⟨⟨hparts.1.trans hk.1, hparts.2.2.1, hparts.2.2.2.1.trans hk.2.2⟩, hkey ▸ hsource⟩
  have htarget : { r.row.key with fiscalPeriodId := q } = k := by
    rw [hrow, hkey, ← hk.2.1]
  have hnodup : ((db.balances.select fun b => decide (b.organizationId = o ∧
      b.fiscalPeriodId = p ∧ b.balanceType = ty)).map fun r =>
      { r.row.key with fiscalPeriodId := q }).Nodup := by
    -- sources with one target key have one key, as they share the source period
    refine List.pairwise_map.mpr ?_
    have hkeys := List.pairwise_map.mp (h.nodup_select fun b => decide (b.organizationId = o ∧
      b.fiscalPeriodId = p ∧ b.balanceType = ty))
    refine hkeys.imp_of_mem fun {r r'} hr hr' hne heq => hne ?_
    have hp := (of_decide_eq_true (Table.mem_select.mp hr).2).2.1
    have hp' := (of_decide_eq_true (Table.mem_select.mp hr').2).2.1
    have hparts := BalanceKey.mk.inj heq
    rw [AccountBalance.key, AccountBalance.key, BalanceKey.mk.injEq]
    exact ⟨hparts.1, hparts.2.1, hp.trans hp'.symm, hparts.2.2.2⟩
  have hupdate : ∀ (s : Stored AccountBalance) b, (rolledInto s.row b).key = b.key :=
    fun _ _ => rfl
  have hcreate : ∀ s : Stored AccountBalance,
      (rolledOver q s.row).key = { s.row.key with fiscalPeriodId := q } := fun _ => rfl
  have hlookup := h.at?_upsertAll_of_mem hupdate hcreate hnodup hr
  rw [htarget, hrow] at hlookup
  exact hlookup

theorem balance?_rollover_of_ne (h : db.KeyedBalances)
    (hk : ¬ (k.organizationId = o ∧ k.fiscalPeriodId = q ∧ k.balanceType = ty) ∨
      db.balance? { k with fiscalPeriodId := p } = none) :
    (rolloverOpeningBalances o p q ty db).2.balance? k = db.balance? k := by
  refine h.at?_upsertAll_of_ne (fun _ _ => rfl) (fun _ => rfl) fun r hr heq => ?_
  obtain ⟨hget, hr⟩ := Table.mem_select.mp hr
  have hr := of_decide_eq_true hr
  have hparts := BalanceKey.mk.inj heq
  rcases hk with hne | hnone
  · exact hne ⟨hparts.1.symm.trans hr.1, hparts.2.2.1.symm, hparts.2.2.2.1.symm.trans hr.2.2⟩
  · have hkey : r.row.key = { k with fiscalPeriodId := p } := by
      rw [← heq, ← hr.2.1]
      rfl
    exact Table.at?_eq_none.mp hnone r.id r.row hget hkey

end AccountBalanceService

end DotmacErp
