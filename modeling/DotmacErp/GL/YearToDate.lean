import DotmacErp.Foundation.TableSums
import DotmacErp.GL.TrialBalance

/-!
# The year to date

`get_ytd_balance` adds up the `net_balance` of an account over the periods of a fiscal year up to
a given one. Refreshes and rollovers leave `net_balance` equal to the closing balance
(`NetsOut`, through every write by `Netted.apply`), so in balances that are up to date each
period already contains the periods before it: the account nets to its ledger rows up to the
period (`accountNet_eq`), opens with those of the earlier periods (`accountOpening_eq`) and moves
by its own (`accountMovement_eq`).

The sum over the periods therefore counts a movement once for every period from its own on. It is
the opening balance of the year and the movements exactly where the balances at the ends of the
earlier periods of the year cancel (`ytd_balance_iff`), as they do for the first period.
-/

namespace DotmacErp

open Relational Totals AccountBalanceService BalanceRefreshService

namespace AccountBalanceService

def getYtdBalance (org accountId fiscalYearId upToPeriodId : UUID) (db : Db)
    (balanceType : BalanceType := .actual) : ℚ :=
  match db.fiscalPeriods.get? upToPeriodId with
  | none => 0
  | some targetPeriod =>
    let periods := db.fiscalPeriods.select fun p => p.fiscalYearId = fiscalYearId ∧
      p.organizationId = org ∧ p.periodNumber ≤ targetPeriod.periodNumber
    let periodIds := periods.map Stored.id
    sumOf AccountBalance.netBalance ((db.balances.select fun b =>
      b.organizationId = org ∧ b.accountId = accountId ∧
        b.fiscalPeriodId ∈ periodIds ∧ b.balanceType = balanceType).map Stored.row)

end AccountBalanceService

def AccountBalance.NetsOut (b : AccountBalance) : Prop :=
  b.netBalance = b.closingDebit - b.closingCredit

/-- Every balance nets out. -/
def Netted (db : Db) : Prop :=
  ∀ k b, db.balance? k = some b → b.NetsOut

/-! ### Net balances through the writes -/

section Net

variable {org : UUID} {periods : List UUID} {db : Db}

theorem Netted.refresh (h : Netted db) (hkeyed : db.KeyedBalances) (o a p : UUID) :
    Netted (refreshBalance o a p db).2 := by
  intro k b' hb'
  by_cases hin : k.organizationId = o ∧ k.accountId = a ∧ k.fiscalPeriodId = p ∧
      k.balanceType = .actual
  · by_cases hidle : k.currencyCode = db.functionalCurrency o → keyRows k db.ledger = []
    · rw [balance?_refreshBalance_of_unmoved hkeyed hin hidle, Option.map_eq_some_iff] at hb'
      obtain ⟨b, -, rfl⟩ := hb'
      rfl
    · rw [Classical.not_imp] at hidle
      rw [balance?_refreshBalance_of_rows hkeyed hin hidle.1 hidle.2] at hb'
      obtain rfl := Option.some.inj hb'
      rfl
  · rw [balance?_refreshBalance_of_ne hkeyed hin] at hb'
    exact h k b' hb'

theorem Netted.rebuild (h : Netted db) (hkeyed : db.KeyedBalances) (o p : UUID)
    (ty : BalanceType) : Netted (rebuildBalancesForPeriod o p ty db).2 := by
  intro k b' hb'
  by_cases hin : k.organizationId = o ∧ k.fiscalPeriodId = p ∧ k.balanceType = ty
  · by_cases hidle : k.currencyCode = db.functionalCurrency o → keyRows k db.ledger = []
    · rw [balance?_rebuild_of_none hkeyed hin hidle] at hb'
      exact absurd hb' (by simp)
    · rw [Classical.not_imp] at hidle
      rw [balance?_rebuild_of_rows hkeyed hin hidle.1 hidle.2] at hb'
      obtain rfl := Option.some.inj hb'
      rfl
  · rw [balance?_rebuild_of_ne hkeyed hin] at hb'
    exact h k b' hb'

theorem Netted.rollover (h : Netted db) (hkeyed : db.KeyedBalances) (o p q : UUID)
    (ty : BalanceType) : Netted (rolloverOpeningBalances o p q ty db).2 := by
  intro k b' hb'
  by_cases hin : k.organizationId = o ∧ k.fiscalPeriodId = q ∧ k.balanceType = ty
  · cases hs : db.balance? { k with fiscalPeriodId := p } with
    | none =>
      rw [balance?_rollover_of_ne hkeyed (Or.inr hs)] at hb'
      exact h k b' hb'
    | some source =>
      rw [balance?_rollover_of_source hkeyed hin hs] at hb'
      obtain rfl := Option.some.inj hb'
      cases db.balance? k with
      | some target => rfl
      | none => rfl
  · rw [balance?_rollover_of_ne hkeyed (Or.inl hin)] at hb'
    exact h k b' hb'

/-- **Every write keeps the balances netted.** -/
theorem Netted.apply (h : Netted db) (hkeyed : db.KeyedBalances) (w : BalanceWrite) :
    Netted (w.apply db) := by
  cases w with
  | post rows entries =>
    intro k b' hb'
    have hkept : Db.KeyedBalances { db with ledger := db.ledger ++ rows } := hkeyed
    obtain ⟨b, stale, hb, rfl⟩ := (balance?_invalidateBatch hkept entries).2 k b' hb'
    exact h k b hb
  | refresh o a p => exact h.refresh hkeyed o a p
  | rebuild o p ty => exact h.rebuild hkeyed o p ty
  | rollover o p q ty => exact h.rollover hkeyed o p q ty
  | other db' => exact h

theorem netted_of_reachable (hnodup : periods.Nodup)
    (hs : (balanceSystem org periods).Reachable db) : Netted db := by
  have hboth : TracedBalances org periods db ∧ Netted db := by
    refine hs.invariant (P := fun db => TracedBalances org periods db ∧ Netted db)
      (fun db hinit => ⟨tracedBalances_of_init hinit, fun k b hb => ?_⟩)
      fun _ w _ htraced hstep => ?_
    · obtain ⟨i, hi⟩ := Table.exists_of_at? hb
      rw [Table.get?_eq_some, hinit] at hi
      exact absurd hi (by simp)
    · rw [hstep.2]
      exact ⟨htraced.1.apply hnodup hstep.1, htraced.2.apply htraced.1.keyed w⟩
  exact hboth.2

theorem netted_rolloverAll (h : Netted db) (hkeyed : db.KeyedBalances) (org : UUID)
    (periods : List UUID) : Netted (rolloverAll org periods db) := by
  induction periods generalizing db with
  | nil => exact h
  | cons p periods ih =>
    cases periods with
    | nil => exact h
    | cons q rest =>
      exact ih (h.rollover hkeyed org p q .actual) (keyed_rollover hkeyed org p q .actual)

theorem fiscalPeriods_recalculate (org : UUID) (ops : List Recalculation) (db : Db) :
    (recalculate org ops db).fiscalPeriods = db.fiscalPeriods := by
  induction ops generalizing db with
  | nil => rfl
  | cons op ops ih =>
    have hop : ((op.write org).apply db).fiscalPeriods = db.fiscalPeriods := by
      cases op with
      | refresh a p => rfl
      | rebuild p => rfl
    exact (ih _).trans hop

theorem fiscalPeriods_rolloverAll (org : UUID) (periods : List UUID) (db : Db) :
    (rolloverAll org periods db).fiscalPeriods = db.fiscalPeriods := by
  induction periods generalizing db with
  | nil => rfl
  | cons p periods ih =>
    cases periods with
    | nil => rfl
    | cons q rest => exact ih (rolloverOpeningBalances org p q .actual db).2

end Net

/-! ### An account through its periods -/

def accountNet (org a p : UUID) (db : Db) : ℚ :=
  sumOf AccountBalance.netBalance (balanceRows org p .actual [a] db)

def accountOpening (org a p : UUID) (db : Db) : ℚ :=
  sumOf (fun b => b.openingDebit - b.openingCredit) (balanceRows org p .actual [a] db)

def accountMovement (org a p : UUID) (db : Db) : ℚ :=
  sumOf (fun b => b.periodDebit - b.periodCredit) (balanceRows org p .actual [a] db)

def accountSigned (org a : UUID) (periods : List UUID) (ledger : List PostedLedgerLine) : ℚ :=
  signed ((rowsOfPeriods org periods ledger).filter fun r => r.accountId = a)

/-- The balances of an account at the ends of the periods `done`, which follow the periods
`before`, added up. -/
def balancesAfter (org a : UUID) (ledger : List PostedLedgerLine) : List UUID → List UUID → ℚ
  | _, [] => 0
  | before, q :: rest =>
    accountSigned org a (before ++ [q]) ledger + balancesAfter org a ledger (before ++ [q]) rest

section Account

variable {org a p q : UUID} {periods earlier later before done : List UUID} {db : Db}
  {ledger : List PostedLedgerLine}

theorem accountSigned_append (hdisjoint : ∀ x ∈ earlier, x ∉ later) :
    accountSigned org a (earlier ++ later) ledger =
      accountSigned org a earlier ledger + accountSigned org a later ledger := by
  have hexclude : ∀ r ∈ ledger, (decide (r.accountId = a) && decide (r.organizationId = org ∧
      r.fiscalPeriodId ∈ earlier)) = true → (decide (r.accountId = a) &&
        decide (r.organizationId = org ∧ r.fiscalPeriodId ∈ later)) = false := by
    intro r _ hr
    simp only [Bool.and_eq_true, decide_eq_true_eq] at hr
    simp [hdisjoint _ hr.2.2]
  simp only [accountSigned, rowsOfPeriods, signed, List.filter_filter]
  rw [← sum_filter_or hexclude]
  congr 2
  refine List.filter_congr fun r _ => ?_
  simp only [List.mem_append, ← Bool.decide_and, ← Bool.decide_or, decide_eq_decide]
  tauto

theorem accountSigned_nil : accountSigned org a [] ledger = 0 := by
  have hnone : rowsOfPeriods org [] ledger = [] :=
    List.filter_eq_nil_iff.mpr fun r _ => by simp
  rw [accountSigned, hnone]
  rfl

theorem sumOf_accountRows {column : AccountBalance → ℚ} (hkeyed : db.KeyedBalances)
    (hcurrent : Current org p db) {ps : List UUID}
    (hcolumn : ∀ k b, InPeriod org p k → db.balance? k = some b →
      column b = signed (rowsIn ps k db.ledger))
    (hpresent : ∀ k, InPeriod org p k → k.currencyCode = db.functionalCurrency org →
      rowsIn ps k db.ledger ≠ [] → ∃ b, db.balance? k = some b) :
    sumOf column (balanceRows org p .actual [a] db) = accountSigned org a ps db.ledger := by
  rw [sumOf_balanceRows hkeyed (fun k b hk hb => (hcurrent.shown k b hk hb).1) hcolumn hpresent,
    accountSigned]
  simp

/-- **The net balance** of an account in a period that is up to date already contains every
period before it. -/
theorem accountNet_eq (h : UpToDate org periods db) (hnet : Netted db) (hnodup : periods.Nodup)
    (hsplit : periods = earlier ++ q :: later) :
    accountNet org a q db = accountSigned org a (earlier ++ [q]) db.ledger := by
  have hcumulative := h.cumulative hnodup hsplit
  have hcurrent := h.current q (by rw [hsplit]; simp)
  refine sumOf_accountRows h.keyed hcurrent (fun k b hk hb => ?_) hcumulative.present
  rw [hnet k b hb]
  exact closing_eq_signed hcumulative hk hb

theorem accountMovement_eq (hkeyed : db.KeyedBalances) (h : Current org q db) :
    accountMovement org a q db = accountSigned org a [q] db.ledger := by
  have hrows : ∀ k, InPeriod org q k → rowsIn [q] k db.ledger = keyRows k db.ledger := by
    intro k hk
    refine List.filter_congr fun r _ => ?_
    simp only [decide_eq_decide, List.mem_singleton, hk.2.1]
    tauto
  refine sumOf_accountRows hkeyed h (fun k b hk hb => ?_) fun k hk hcode hne => ?_
  · obtain ⟨-, -, hshown⟩ := h.shown k b hk hb
    rw [hrows k hk, signed_eq, ← hshown]
    rfl
  · rw [hrows k hk] at hne
    exact h.present k hk hcode hne

theorem accountOpening_eq_sub (hnet : Netted db) (hkeyed : db.KeyedBalances)
    (h : Current org q db) :
    accountOpening org a q db = accountNet org a q db - accountMovement org a q db := by
  rw [accountOpening, accountNet, accountMovement, sumOf, sumOf, sumOf]
  have hrows : ∀ b ∈ balanceRows org q .actual [a] db, b.openingDebit - b.openingCredit =
      b.netBalance - (b.periodDebit - b.periodCredit) := by
    intro b hb
    obtain ⟨⟨hin, -⟩, i, hi⟩ := mem_balanceRows.mp hb
    have hfound := hkeyed.at?_of_get? hi
    obtain ⟨-, hclosed, -⟩ := h.shown b.key b hin hfound
    have hout : b.netBalance = b.closingDebit - b.closingCredit := hnet b.key b hfound
    rw [hout, hclosed.1, hclosed.2]
    ring
  rw [List.map_congr_left hrows]
  generalize balanceRows org q .actual [a] db = rows
  induction rows with
  | nil => simp
  | cons b rows ih =>
    simp only [List.map_cons, List.sum_cons, ih]
    ring

theorem accountOpening_eq (h : UpToDate org periods db) (hnet : Netted db)
    (hnodup : periods.Nodup) (hsplit : periods = earlier ++ q :: later) :
    accountOpening org a q db = accountSigned org a earlier db.ledger := by
  have hcurrent := h.current q (by rw [hsplit]; simp)
  have hnew : ∀ x ∈ earlier, x ∉ [q] := by
    rw [hsplit] at hnodup
    intro x hx hmem
    exact (List.nodup_append.mp hnodup).2.2 x hx q List.mem_cons_self (List.mem_singleton.mp hmem)
  rw [accountOpening_eq_sub hnet h.keyed hcurrent, accountNet_eq h hnet hnodup hsplit,
    accountMovement_eq h.keyed hcurrent, accountSigned_append hnew]
  ring

theorem sum_accountNet (h : UpToDate org periods db) (hnet : Netted db) (hnodup : periods.Nodup)
    (hsplit : periods = before ++ (done ++ later)) :
    (done.map fun q => accountNet org a q db).sum = balancesAfter org a db.ledger before done := by
  induction done generalizing before with
  | nil => rfl
  | cons q done ih =>
    have hrest : (done.map fun q => accountNet org a q db).sum = _ :=
      ih (by rw [hsplit]; simp : periods = (before ++ [q]) ++ (done ++ later))
    have hq : periods = before ++ q :: (done ++ later) := by rw [hsplit]; simp
    rw [List.map_cons, List.sum_cons, balancesAfter, hrest, accountNet_eq h hnet hnodup hq]

theorem sum_accountMovement (hkeyed : db.KeyedBalances) (h : ∀ q ∈ done, Current org q db)
    (hnodup : done.Nodup) :
    (done.map fun q => accountMovement org a q db).sum = accountSigned org a done db.ledger := by
  induction done with
  | nil => exact accountSigned_nil.symm
  | cons q done ih =>
    rw [List.nodup_cons] at hnodup
    have hrest := ih (fun x hx => h x (List.mem_cons_of_mem _ hx)) hnodup.2
    have hnew : ∀ x ∈ [q], x ∉ done := fun x hx => List.mem_singleton.mp hx ▸ hnodup.1
    rw [List.map_cons, List.sum_cons, hrest, accountMovement_eq hkeyed (h q List.mem_cons_self)]
    exact (accountSigned_append hnew).symm

end Account

/-! ### The year -/

/-- The periods of the year in order. -/
structure PeriodsOfYear (db : Db) (org y : UUID) (year : List UUID) : Prop where
  mem : ∀ q, q ∈ year ↔
    ∃ period, db.fiscalPeriods.get? q = some period ∧ period.fiscalYearId = y ∧
      period.organizationId = org
  ordered : year.Pairwise fun q q' => ∀ period period', db.fiscalPeriods.get? q = some period →
    db.fiscalPeriods.get? q' = some period' → period.periodNumber < period'.periodNumber

section Year

variable {org a y p : UUID} {before year after done later : List UUID} {db : Db}

theorem PeriodsOfYear.upTo (h : PeriodsOfYear db org y year) (hsplit : year = done ++ p :: later)
    {target : FiscalPeriod} (htarget : db.fiscalPeriods.get? p = some target) (q : UUID) :
    q ∈ (db.fiscalPeriods.select fun period => period.fiscalYearId = y ∧
        period.organizationId = org ∧ period.periodNumber ≤ target.periodNumber).map Stored.id ↔
      q ∈ done ++ [p] := by
  have hordered := h.ordered
  rw [hsplit, List.pairwise_append, List.pairwise_cons] at hordered
  obtain ⟨-, ⟨hlater, -⟩, hdone⟩ := hordered
  have hselect : q ∈ (db.fiscalPeriods.select fun period => period.fiscalYearId = y ∧
      period.organizationId = org ∧ period.periodNumber ≤ target.periodNumber).map Stored.id ↔
      ∃ period, db.fiscalPeriods.get? q = some period ∧ period.fiscalYearId = y ∧
        period.organizationId = org ∧ period.periodNumber ≤ target.periodNumber := by
    rw [List.mem_map]
    constructor
    · rintro ⟨r, hr, rfl⟩
      obtain ⟨hget, hin⟩ := Table.mem_select.mp hr
      exact ⟨r.row, hget, of_decide_eq_true hin⟩
    · rintro ⟨period, hget, hin⟩
      exact ⟨⟨q, period⟩, Table.mem_select.mpr ⟨hget, decide_eq_true hin⟩, rfl⟩
  rw [hselect]
  constructor
  · rintro ⟨period, hget, hyear, horg, hnumber⟩
    have hmem := (h.mem q).mpr ⟨period, hget, hyear, horg⟩
    rw [hsplit, List.mem_append, List.mem_cons] at hmem
    rcases hmem with hq | rfl | hq
    · exact List.mem_append_left _ hq
    · simp
    · -- a later period has a greater number
      have hless := hlater q hq target period htarget hget
      omega
  · intro hq
    have hmem : q ∈ year := by
      rw [hsplit]
      rcases List.mem_append.mp hq with hq | hq
      · exact List.mem_append_left _ hq
      · exact List.mem_append_right _ (List.mem_singleton.mp hq ▸ List.mem_cons_self)
    obtain ⟨period, hget, hyear, horg⟩ := (h.mem q).mp hmem
    refine ⟨period, hget, hyear, horg, ?_⟩
    rcases List.mem_append.mp hq with hq | hq
    · exact (hdone q hq p List.mem_cons_self period target hget htarget).le
    · rw [List.mem_singleton.mp hq, htarget] at hget
      rw [Option.some.inj hget]

/-- **The year to date** is the sum of the net balances of the periods up to the given one. -/
theorem getYtdBalance_eq (h : PeriodsOfYear db org y year) (hnodup : year.Nodup)
    (hsplit : year = done ++ p :: later) :
    getYtdBalance org a y p db = ((done ++ [p]).map fun q => accountNet org a q db).sum := by
  obtain ⟨target, htarget, -⟩ := (h.mem p).mp (by rw [hsplit]; simp)
  have hpast : (done ++ [p]).Nodup := by
    rw [hsplit, List.append_cons] at hnodup
    exact hnodup.of_append_left
  have hrows : ∀ q, accountNet org a q db = total AccountBalance.netBalance
      AccountBalance.fiscalPeriodId q ((db.balances.select fun b => b.organizationId = org ∧
        b.accountId = a ∧ b.balanceType = .actual).map Stored.row) := by
    intro q
    rw [accountNet, sumOf, balanceRows, total, List.filter_map]
    congr 2
    rw [Table.select, Table.select, List.filter_filter]
    refine congrArg (List.map Stored.row) (List.filter_congr fun r _ => ?_)
    simp only [Function.comp_apply, ← Bool.decide_and, decide_eq_decide, List.cons_ne_nil,
      false_or, List.mem_singleton]
    tauto
  have hselected : getYtdBalance org a y p db = (((db.balances.select fun b =>
      b.organizationId = org ∧ b.accountId = a ∧ b.balanceType = .actual).map Stored.row).map
        fun b => if b.fiscalPeriodId ∈ (done ++ [p]).toFinset then b.netBalance else 0).sum := by
    rw [getYtdBalance, htarget]
    dsimp only
    rw [sumOf, List.map_map, List.map_map]
    refine (Table.sum_select _ AccountBalance.netBalance).trans ((Table.sum_congr
      fun i b _ => ?_).trans (Table.sum_select _ fun b : AccountBalance =>
        if b.fiscalPeriodId ∈ (done ++ [p]).toFinset then b.netBalance else 0).symm)
    have hupTo := h.upTo hsplit htarget b.fiscalPeriodId
    simp only [decide_eq_true_eq, List.mem_toFinset, hupTo]
    by_cases hin : b.fiscalPeriodId ∈ done ++ [p]
    · simp only [hin, true_and, if_true]
    · simp only [hin, false_and, and_false, if_false, ite_self]
  rw [hselected, ← sum_total, List.sum_toFinset _ hpast]
  exact congrArg List.sum (List.map_congr_left fun q _ => (hrows q).symm)

/-- **The year to date and the movements.** With every period refreshed and rolled over in
order, the year to date of an account is the opening balance of the year and the movements up to
the given period exactly where the balances of the account at the ends of the earlier periods of
the year add up to zero. -/
theorem ytd_balance_iff {first : UUID} {rest : List UUID} {ops : List Recalculation}
    (hnodup : (before ++ (year ++ after)).Nodup)
    (hs : (balanceSystem org (before ++ (year ++ after))).Reachable db)
    (hops : ∀ q ∈ before ++ (year ++ after), Recalculates org db.ledger ops q)
    (hyear : PeriodsOfYear db org y year) (hfirst : year = first :: rest)
    (hsplit : year = done ++ p :: later) :
    let rolled := rolloverAll org (before ++ (year ++ after)) (recalculate org ops db)
    getYtdBalance org a y p rolled =
        accountOpening org a first rolled +
          ((done ++ [p]).map fun q => accountMovement org a q rolled).sum ↔
      balancesAfter org a db.ledger before done = 0 := by
  intro rolled
  have hrun := recalculate_run org (before ++ (year ++ after)) ops db
  have hupToDate : UpToDate org (before ++ (year ++ after)) rolled := upToDate_pass hnodup hs hops
  have hkeyed := (tracedBalances_of_reachable hnodup (hs.run hrun)).keyed
  have hnet : Netted rolled := netted_rolloverAll (netted_of_reachable hnodup (hs.run hrun))
    hkeyed org (before ++ (year ++ after))
  have hledger : rolled.ledger = db.ledger := (ledger_rolloverAll org _ _).1.trans
    (fresh_recalculate org ops (tracedBalances_of_reachable hnodup hs).keyed).1
  have hperiods : rolled.fiscalPeriods = db.fiscalPeriods :=
    (fiscalPeriods_rolloverAll org _ _).trans (fiscalPeriods_recalculate org ops db)
  clear_value rolled
  have hyear' : PeriodsOfYear rolled org y year := by
    refine ⟨?_, ?_⟩
    · rw [hperiods]
      exact hyear.mem
    · rw [hperiods]
      exact hyear.ordered
  have hyearNodup : year.Nodup := (List.nodup_append.mp (List.nodup_append.mp hnodup).2.1).1
  have hpast : (done ++ [p]).Nodup := by
    rw [hsplit, List.append_cons] at hyearNodup
    exact hyearNodup.of_append_left
  have hbefore : ∀ x ∈ before, x ∉ done ++ [p] := by
    intro x hx hmem
    refine (List.nodup_append.mp hnodup).2.2 x hx x (List.mem_append_left _ ?_) rfl
    rw [hsplit, List.append_cons]
    exact List.mem_append_left _ hmem
  have hat : before ++ (year ++ after) = (before ++ done) ++ p :: (later ++ after) := by
    rw [hsplit]
    simp
  -- opening and movements are the rows up to the period, and so is its net balance
  have hopening := accountOpening_eq (a := a) hupToDate hnet hnodup
    (by rw [hfirst]; rfl : before ++ (year ++ after) = before ++ first :: (rest ++ after))
  have hmovements : ((done ++ [p]).map fun q => accountMovement org a q rolled).sum =
      accountSigned org a (done ++ [p]) rolled.ledger := by
    refine sum_accountMovement hupToDate.keyed (fun q hq => hupToDate.current q ?_) hpast
    rw [hsplit]
    simp only [List.mem_append, List.mem_cons, List.not_mem_nil, or_false] at hq ⊢
    tauto
  have hearlier : (done.map fun q => accountNet org a q rolled).sum = _ :=
    sum_accountNet hupToDate hnet hnodup
      (by rw [hsplit]; simp : before ++ (year ++ after) = before ++ (done ++ (p :: later ++ after)))
  rw [getYtdBalance_eq hyear' hyearNodup hsplit, hopening, hmovements, ← accountSigned_append
    hbefore, List.map_append, List.sum_append, List.map_singleton, List.sum_singleton,
    accountNet_eq hupToDate hnet hnodup hat, hearlier, hledger, List.append_assoc]
  exact add_eq_right

theorem twoPeriods_year : PeriodsOfYear twoPeriods 1 0 [0, 1] := by
  have hrows : twoPeriods.fiscalPeriods.rows =
      [⟨0, monthOf2024 1 (by decide)⟩, ⟨1, monthOf2024 2 (by decide)⟩] := rfl
  have hget : ∀ q period, twoPeriods.fiscalPeriods.get? q = some period ↔
      q = 0 ∧ period = monthOf2024 1 (by decide) ∨ q = 1 ∧ period = monthOf2024 2 (by decide) := by
    intro q period
    rw [Table.get?_eq_some, hrows, List.mem_cons, List.mem_singleton, Stored.mk.injEq,
      Stored.mk.injEq]
  refine ⟨fun q => ?_, ?_⟩
  · simp only [hget, List.mem_cons, List.not_mem_nil, or_false]
    constructor
    · rintro (rfl | rfl)
      · exact ⟨_, Or.inl ⟨rfl, rfl⟩, rfl, rfl⟩
      · exact ⟨_, Or.inr ⟨rfl, rfl⟩, rfl, rfl⟩
    · rintro ⟨period, ⟨rfl, -⟩ | ⟨rfl, -⟩, -⟩
      · exact Or.inl rfl
      · exact Or.inr rfl
  · refine List.pairwise_pair.mpr fun period period' hfirst hsecond => ?_
    obtain rfl : period = monthOf2024 1 (by decide) := by
      rcases (hget _ _).mp hfirst with ⟨-, rfl⟩ | ⟨habsurd, -⟩
      · rfl
      · exact absurd habsurd (by decide)
    obtain rfl : period' = monthOf2024 2 (by decide) := by
      rcases (hget _ _).mp hsecond with ⟨habsurd, -⟩ | ⟨-, rfl⟩
      · exact absurd habsurd (by decide)
      · rfl
    decide

theorem ytd_balance_iff_sample :
    let rolled := rolloverAll 1 [0, 1] (recalculate 1 twoPeriodsPass twoPeriods)
    getYtdBalance 1 2 0 1 rolled = accountOpening 1 2 0 rolled +
      ([0, 1].map fun q => accountMovement 1 2 q rolled).sum := by
  intro rolled
  exact (@ytd_balance_iff 1 2 0 1 [] [0, 1] [] [0] [] twoPeriods 0 [1] twoPeriodsPass (by decide)
    twoPeriods_reachable twoPeriodsPass_covers twoPeriods_year rfl rfl).mpr (by decide +kernel)

/-- Cash moves by 100 in the first period and by 30 in the second one; the year to date of the
second one is 230. -/
theorem ytd_counts_again :
    ¬ ∀ (org a y p first : UUID) (before year after done later rest : List UUID) (db : Db)
      (ops : List Recalculation), (before ++ (year ++ after)).Nodup →
      (balanceSystem org (before ++ (year ++ after))).Reachable db →
      (∀ q ∈ before ++ (year ++ after), Recalculates org db.ledger ops q) →
      PeriodsOfYear db org y year → year = first :: rest → year = done ++ p :: later →
      let rolled := rolloverAll org (before ++ (year ++ after)) (recalculate org ops db)
      getYtdBalance org a y p rolled = accountOpening org a first rolled +
        ((done ++ [p]).map fun q => accountMovement org a q rolled).sum := by
  intro h
  have hcash := h 1 0 0 1 0 [] [0, 1] [] [0] [] [1] twoPeriods twoPeriodsPass (by decide)
    twoPeriods_reachable twoPeriodsPass_covers twoPeriods_year rfl rfl
  revert hcash
  decide +kernel

end Year

end DotmacErp
