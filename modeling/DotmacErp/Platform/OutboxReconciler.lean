import DotmacErp.GL.TrialBalance
import Mathlib.Data.List.Sort

/-!
# The outbox reconciler and the two ways to recompute a period

`OutboxBalanceReconciler` compares, account by account, the movement of a period in the ledger
with the movement its balance rows show, and repairs drift by `rebuild_balances_for_period`.

The rebuild and the refresh agree on everything but the opening figures: where the refresh of
every account gives a key its `carried` figures, the rebuild gives it the ones `carried` from
zero. So they agree exactly when nothing was brought forward into the period, and then the
repair changes no opening figure either (`recalculation_paths_agree_iff`).
-/

namespace DotmacErp

open Relational AccountBalanceService BalanceRefreshService

/-- The movement of an account that the ledger and the balances disagree on. -/
structure DriftRecord where
  accountId : UUID
  expectedDebit : ℚ
  expectedCredit : ℚ
  actualDebit : ℚ
  actualCredit : ℚ

/-- What `reconcile_period` returns. -/
structure ReconcileRecord where
  organizationId : UUID
  fiscalPeriodId : UUID
  driftedAccounts : ℕ
  drift : List DriftRecord
  repaired : Bool
  rebuiltBalanceRecords : ℕ

namespace OutboxBalanceReconciler

/-- `find_period_drift`: one record for each account with drift, in the order of their ids. An
account without rows on one side counts as zero there. -/
def findPeriodDrift (org periodId : UUID) (db : Db) : List DriftRecord :=
  let expected := periodRows org periodId db.ledger
  let actual := balanceRows org periodId .actual [] db
  let accounts := (expected.map PostedLedgerLine.accountId ++
    actual.map AccountBalance.accountId).dedup.insertionSort (· ≤ ·)
  let records := accounts.map fun a =>
    let rows := expected.filter fun r => r.accountId = a
    let balances := actual.filter fun b => b.accountId = a
    DriftRecord.mk a (movement rows).debit (movement rows).credit
      (sumOf AccountBalance.periodDebit balances) (sumOf AccountBalance.periodCredit balances)
  records.filter fun d => d.expectedDebit ≠ d.actualDebit ∨ d.expectedCredit ≠ d.actualCredit

def reconcilePeriod (org periodId : UUID) (db : Db) : ReconcileRecord × Db :=
  let drift := findPeriodDrift org periodId db
  if drift = [] then
    (⟨org, periodId, 0, [], false, 0⟩, db)
  else
    let rebuilt := rebuildBalancesForPeriod org periodId .actual db
    (⟨org, periodId, drift.length, drift, true, rebuilt.1⟩, rebuilt.2)

end OutboxBalanceReconciler

/-! ### The figures of a key -/

structure Figures where
  openingDebit : ℚ
  openingCredit : ℚ
  periodDebit : ℚ
  periodCredit : ℚ
  closingDebit : ℚ
  closingCredit : ℚ
  netBalance : ℚ
  deriving DecidableEq

def AccountBalance.figures (b : AccountBalance) : Figures :=
  ⟨b.openingDebit, b.openingCredit, b.periodDebit, b.periodCredit, b.closingDebit,
    b.closingCredit, b.netBalance⟩

def figures (db : Db) (k : BalanceKey) : Figures :=
  ((db.balance? k).map AccountBalance.figures).getD ⟨0, 0, 0, 0, 0, 0, 0⟩

def carried (m : Movement) (openingDebit openingCredit : ℚ) : Figures :=
  ⟨openingDebit, openingCredit, m.debit, m.credit, openingDebit + m.debit,
    openingCredit + m.credit, openingDebit + m.debit - (openingCredit + m.credit)⟩

def recomputed (db : Db) (k : BalanceKey) : Movement :=
  if k.currencyCode = db.functionalCurrency k.organizationId then
    movement (keyRows k db.ledger) else movement []

/-- `refresh_balance` on each account of a list. -/
def refreshAccounts (org periodId : UUID) (accounts : List UUID) (db : Db) :
    Db :=
  accounts.foldl (fun db a => (refreshBalance org a periodId db).2) db

def accountsOf (org periodId : UUID) (db : Db) : List UUID :=
  ((periodRows org periodId db.ledger).map PostedLedgerLine.accountId ++
    (balanceRows org periodId .actual [] db).map AccountBalance.accountId).dedup

section Figures

variable {org p a : UUID} {db : Db} {k : BalanceKey} {accounts : List UUID}

theorem figures_of_some {b : AccountBalance} (hb : db.balance? k = some b) :
    figures db k = b.figures := by
  rw [figures, hb]
  rfl

theorem figures_of_none (hb : db.balance? k = none) :
    figures db k = ⟨0, 0, 0, 0, 0, 0, 0⟩ := by
  rw [figures, hb]
  rfl

theorem carried_nil : carried (movement []) 0 0 = ⟨0, 0, 0, 0, 0, 0, 0⟩ := by
  simp [carried, movement]

theorem recomputed_of_rows (h : keyRows k db.ledger = []) :
    recomputed db k = movement [] := by
  rw [recomputed, h, ite_self]

/-- **The rebuild** carries every key of its period from zero. -/
theorem figures_rebuild (hkeyed : db.KeyedBalances) (hk : InPeriod org p k) :
    figures (rebuildBalancesForPeriod org p .actual db).2 k = carried (recomputed db k) 0 0 := by
  have hin : k.organizationId = org ∧ k.fiscalPeriodId = p ∧ k.balanceType = .actual := hk
  by_cases hidle : k.currencyCode = db.functionalCurrency org → keyRows k db.ledger = []
  · rw [figures_of_none (balance?_rebuild_of_none hkeyed hin hidle), recomputed, hk.1]
    split_ifs with hcode
    · rw [hidle hcode, carried_nil]
    · rw [carried_nil]
  · rw [Classical.not_imp] at hidle
    rw [figures_of_some (balance?_rebuild_of_rows hkeyed hin hidle.1 hidle.2), recomputed, hk.1,
      if_pos hidle.1]
    simp [AccountBalance.figures, rebuilt, carried]

theorem figures_refresh (hkeyed : db.KeyedBalances) (hk : InPeriod org p k) :
    figures (refreshBalance org a p db).2 k =
      if k.accountId = a then
        carried (recomputed db k) (figures db k).openingDebit (figures db k).openingCredit
      else figures db k := by
  split_ifs with ha
  · have hin : k.organizationId = org ∧ k.accountId = a ∧ k.fiscalPeriodId = p ∧
        k.balanceType = .actual := ⟨hk.1, ha, hk.2⟩
    by_cases hidle : k.currencyCode = db.functionalCurrency org → keyRows k db.ledger = []
    · have hstill : recomputed db k = movement [] := by
        rw [recomputed, hk.1]
        split_ifs with hcode
        · rw [hidle hcode]
        · rfl
      rw [hstill]
      have hlookup := balance?_refreshBalance_of_unmoved hkeyed hin hidle
      cases hb : db.balance? k with
      | none =>
        rw [hb] at hlookup
        rw [figures_of_none hlookup, figures_of_none hb, carried_nil]
      | some b =>
        rw [hb] at hlookup
        rw [figures_of_some hlookup, figures_of_some hb]
        simp [AccountBalance.figures, AccountBalance.unmoved, carried, movement]
    · rw [Classical.not_imp] at hidle
      rw [figures_of_some (balance?_refreshBalance_of_rows hkeyed hin hidle.1 hidle.2),
        recomputed, hk.1, if_pos hidle.1]
      cases hb : db.balance? k with
      | none =>
        rw [figures_of_none hb]
        rfl
      | some b =>
        rw [figures_of_some hb]
        rfl
  · have hout : ¬ (k.organizationId = org ∧ k.accountId = a ∧ k.fiscalPeriodId = p ∧
        k.balanceType = .actual) := fun h => ha h.2.1
    rw [figures, figures, balance?_refreshBalance_of_ne hkeyed hout]

/-- **The refresh of many accounts** carries every key of these accounts from its opening
figures, however often an account is refreshed. -/
theorem figures_refreshAccounts (hkeyed : db.KeyedBalances) (hk : InPeriod org p k) :
    figures (refreshAccounts org p accounts db) k =
      if k.accountId ∈ accounts then
        carried (recomputed db k) (figures db k).openingDebit (figures db k).openingCredit
      else figures db k := by
  induction accounts generalizing db with
  | nil => rfl
  | cons a accounts ih =>
    have hrest := ih (keyed_refreshBalance hkeyed org a p)
    have hsame : recomputed (refreshBalance org a p db).2 k = recomputed db k := rfl
    rw [hsame, figures_refresh hkeyed hk] at hrest
    refine hrest.trans ?_
    by_cases ha : k.accountId = a
    · have hmem : k.accountId ∈ a :: accounts := by rw [ha]; exact List.mem_cons_self
      rw [if_pos ha, if_pos hmem]
      split_ifs <;> rfl
    · simp only [ha, if_false, List.mem_cons, false_or]

theorem carried_of_foreign (hk : InPeriod org p k) (hforeign : k.accountId ∉ accountsOf org p db) :
    figures db k = carried (recomputed db k) (figures db k).openingDebit
      (figures db k).openingCredit := by
  rw [accountsOf, List.mem_dedup, List.mem_append, not_or] at hforeign
  have hnone : db.balance? k = none := by
    by_contra hsome
    obtain ⟨b, hb⟩ := Option.ne_none_iff_exists'.mp hsome
    have hkey : b.key = k := Table.key_of_at? hb
    refine hforeign.2 (List.mem_map.mpr ⟨b, mem_balanceRows.mpr
      ⟨⟨hkey ▸ hk, .inl rfl⟩, ?_⟩, ?_⟩)
    · exact Table.exists_of_at? hb
    · exact congrArg BalanceKey.accountId hkey
  have hrows : keyRows k db.ledger = [] := by
    refine List.eq_nil_iff_forall_not_mem.mpr fun r hr => hforeign.1 ?_
    obtain ⟨hr, ho, ha, hp, -⟩ := mem_keyRows.mp hr
    refine List.mem_map.mpr ⟨r, List.mem_filter.mpr ⟨hr, decide_eq_true ?_⟩, ha⟩
    exact ⟨ho.trans hk.1, hp.trans hk.2.1⟩
  rw [figures_of_none hnone, recomputed_of_rows hrows, carried_nil]

end Figures

/-! ### When the two ways agree -/

/-- Key by key, the rebuild of a period and the refresh of all its accounts give the same
figures. -/
def PathsAgree (org p : UUID) (accounts : List UUID) (db : Db) : Prop :=
  ∀ k, InPeriod org p k →
    figures (rebuildBalancesForPeriod org p .actual db).2 k =
      figures (refreshAccounts org p accounts db) k

/-- The repair leaves the openings of the period as they are. -/
def RepairKeepsOpenings (org p : UUID) (db : Db) : Prop :=
  ∀ k, InPeriod org p k →
    (figures (OutboxBalanceReconciler.reconcilePeriod org p db).2 k).openingDebit =
        (figures db k).openingDebit ∧
      (figures (OutboxBalanceReconciler.reconcilePeriod org p db).2 k).openingCredit =
        (figures db k).openingCredit

/-- No balance of the period has an opening. -/
def NothingBroughtForward (org p : UUID) (db : Db) : Prop :=
  ∀ i b, db.balances.get? i = some b → InPeriod org p b.key → b.Unopened

section Agree

variable {org p : UUID} {db : Db} {accounts : List UUID}

theorem nothingBroughtForward_iff (hkeyed : db.KeyedBalances) :
    NothingBroughtForward org p db ↔ ∀ k, InPeriod org p k →
      (figures db k).openingDebit = 0 ∧ (figures db k).openingCredit = 0 := by
  constructor
  · intro h k hk
    cases hb : db.balance? k with
    | none =>
      rw [figures_of_none hb]
      exact ⟨rfl, rfl⟩
    | some b =>
      rw [figures_of_some hb]
      obtain ⟨i, hi⟩ := Table.exists_of_at? hb
      have hkey : b.key = k := Table.key_of_at? hb
      exact h i b hi (hkey ▸ hk)
  · intro h i b hi hin
    have hzero := h b.key hin
    rw [figures_of_some (hkeyed.at?_of_get? hi)] at hzero
    exact hzero

theorem figures_refreshAll (hkeyed : db.KeyedBalances)
    (haccounts : ∀ a ∈ accountsOf org p db, a ∈ accounts) {k : BalanceKey} (hk : InPeriod org p k) :
    figures (refreshAccounts org p accounts db) k =
      carried (recomputed db k) (figures db k).openingDebit (figures db k).openingCredit := by
  rw [figures_refreshAccounts hkeyed hk]
  split_ifs with ha
  · rfl
  · exact carried_of_foreign hk fun hmem => ha (haccounts _ hmem)

/-- **When the two recalculation paths agree.** The rebuild of a period gives what the refresh
of all its accounts gives, and the reconciler changes no opening figure, exactly when no
balance of the period was brought forward. -/
theorem recalculation_paths_agree_iff (hkeyed : db.KeyedBalances)
    (haccounts : ∀ a ∈ accountsOf org p db, a ∈ accounts) :
    (PathsAgree org p accounts db ∧ RepairKeepsOpenings org p db) ↔
      NothingBroughtForward org p db := by
  rw [nothingBroughtForward_iff hkeyed]
  constructor
  · rintro ⟨hagree, -⟩ k hk
    have hkey := hagree k hk
    rw [figures_rebuild hkeyed hk, figures_refreshAll hkeyed haccounts hk] at hkey
    exact ⟨(congrArg Figures.openingDebit hkey).symm, (congrArg Figures.openingCredit hkey).symm⟩
  · intro hzero
    refine ⟨fun k hk => ?_, fun k hk => ?_⟩
    · rw [figures_rebuild hkeyed hk, figures_refreshAll hkeyed haccounts hk, (hzero k hk).1,
        (hzero k hk).2]
    · rw [OutboxBalanceReconciler.reconcilePeriod]
      split_ifs
      · exact ⟨rfl, rfl⟩
      · rw [figures_rebuild hkeyed hk, (hzero k hk).1, (hzero k hk).2]
        exact ⟨rfl, rfl⟩

end Agree

def postedSinceRollover : Db :=
  let rolled := rolloverAll 1 [0, 1] (recalculate 1 twoPeriodsPass twoPeriods)
  { rolled with ledger := rolled.ledger ++ [plainLine 2 0 1 5 0, plainLine 2 1 1 0 5] }

theorem postedSinceRollover_keyed : postedSinceRollover.KeyedBalances :=
  (upToDate_pass (by decide) twoPeriods_reachable twoPeriodsPass_covers).keyed

/-- The first account opens the second period at 100, in the functional currency. -/
def openedKey : BalanceKey := ⟨1, 0, 1, .actual, "NGN", .none⟩

/-- There the refresh keeps the opening of 100, the rebuild has none, and the repair of the
drift loses it. -/
theorem recalculation_paths_differ :
    ¬ PathsAgree 1 1 (accountsOf 1 1 postedSinceRollover) postedSinceRollover ∧
      ¬ RepairKeepsOpenings 1 1 postedSinceRollover := by
  have hk : InPeriod 1 1 openedKey := ⟨rfl, rfl, rfl⟩
  refine ⟨fun hagree => ?_, fun hkeeps => ?_⟩
  · have hne : figures (rebuildBalancesForPeriod 1 1 .actual postedSinceRollover).2 openedKey ≠
        figures (refreshAccounts 1 1 (accountsOf 1 1 postedSinceRollover) postedSinceRollover)
          openedKey := by decide +kernel
    exact hne (hagree openedKey hk)
  · have hne : (figures (OutboxBalanceReconciler.reconcilePeriod 1 1 postedSinceRollover).2
        openedKey).openingDebit ≠ (figures postedSinceRollover openedKey).openingDebit := by
      decide +kernel
    exact hne (hkeeps openedKey hk).1

theorem recalculation_paths_agree_iff_sample :
    (PathsAgree 1 1 (accountsOf 1 1 postedSinceRollover) postedSinceRollover ∧
        RepairKeepsOpenings 1 1 postedSinceRollover) ↔
      NothingBroughtForward 1 1 postedSinceRollover :=
  recalculation_paths_agree_iff postedSinceRollover_keyed fun _ ha => ha

end DotmacErp
