import DotmacErp.Foundation.Answers
import DotmacErp.Foundation.Buckets
import DotmacErp.Foundation.Selections
import DotmacErp.GL.TrialBalance

/-!
# Balances of account lists and trends

`get_balances_for_accounts` keeps the first balance row of each account in an answer ordered by
the end of the period, `get_balance_trends` the last row of each account and period in an answer
without an order. A balance has a row for every combination of dimensions, so both keep one row of
many where `get_account_balances` adds them up.

What is kept is described by the answer the database gives (`value?_getBalancesForAccounts`,
`entry_getBalanceTrends`). It is the sum over the dimensions, in every answer the database may
give, exactly where an account has one row at most in the periods shown, or only rows that show
nothing (`listed_balances_iff`). The conversion of the trends to floats is left out.
-/

namespace DotmacErp

open Relational Buckets Answers

namespace AccountBalanceService

def listedStatuses : List PeriodStatus := [.open, .reopened, .softClosed, .hardClosed]

/-! ### The queries and the loops over their answers -/

def listedPeriod (db : Db) (b : AccountBalance) : Option (AccountBalance × FiscalPeriod) :=
  ((db.fiscalPeriods.get? b.fiscalPeriodId).filter fun p => p.status ∈ listedStatuses).map
    fun p => (b, p)

/-- The rows `get_balances_for_accounts` queries, each with its period. -/
def balancesWithPeriods (org : UUID) (accountIds : List UUID) (db : Db) :
    List (AccountBalance × FiscalPeriod) :=
  (db.balances.select fun b => b.organizationId = org ∧ b.accountId ∈ accountIds ∧
    b.balanceType = .actual).filterMap fun b => listedPeriod db b.row

/-- `get_balances_for_accounts`, on the answer to its query. -/
def getBalancesForAccounts (accountIds : List UUID)
    (balances : List (AccountBalance × FiscalPeriod)) : List (UUID × ℚ) :=
  if accountIds = [] then []
  else collect (fun row => row.1.accountId) (fun row => row.1.netBalance) (fun first _ => first)
    balances

/-- The periods `get_balance_trends` queries. -/
def listedPeriods (org : UUID) (db : Db) : List (Stored FiscalPeriod) :=
  db.fiscalPeriods.select fun p => p.organizationId = org ∧ p.status ∈ listedStatuses

/-- The rows `get_balance_trends` queries. -/
def trendBalances (org : UUID) (accountIds periodIds : List UUID) (db : Db) :
    List AccountBalance :=
  (db.balances.select fun b => b.organizationId = org ∧ b.accountId ∈ accountIds ∧
    b.fiscalPeriodId ∈ periodIds ∧ b.balanceType = .actual).map Stored.row

def setTrend (periodIds : List UUID) (result : List (UUID × List ℚ)) (b : AccountBalance) :
    List (UUID × List ℚ) :=
  if b.fiscalPeriodId ∈ periodIds then
    result.map fun entry => (entry.1, if entry.1 = b.accountId then
      entry.2.set (periodIds.reverse.idxOf b.fiscalPeriodId) b.netBalance else entry.2)
  else result

/-- `get_balance_trends`, on the answers to its queries. -/
def getBalanceTrends (accountIds : List UUID) (periods : ℕ)
    (recentPeriods : List (Stored FiscalPeriod)) (balances : List AccountBalance) :
    List (UUID × List ℚ) :=
  if accountIds = [] then []
  else if recentPeriods = [] then []
  else balances.foldl (setTrend (recentPeriods.map Stored.id))
    (collect id (fun _ => List.replicate periods 0) (fun first _ => first) accountIds)

def trendEntry (a : UUID) (i : ℕ) (result : List (UUID × List ℚ)) : Option ℚ :=
  (value? a result).bind fun entries => entries[i]?

/-! ### What is kept -/

section Kept

variable {org a q : UUID} {accountIds periodIds : List UUID} {db : Db} {i periods : ℕ}

theorem value?_getBalancesForAccounts (ha : a ∈ accountIds)
    (balances : List (AccountBalance × FiscalPeriod)) :
    value? a (getBalancesForAccounts accountIds balances) =
      (balances.find? fun row => row.1.accountId = a).map fun row => row.1.netBalance := by
  rw [getBalancesForAccounts, if_neg (List.ne_nil_of_mem ha), value?_collect_first]

theorem trendEntry_setTrend (hnodup : periodIds.Nodup) (hq : periodIds.reverse[i]? = some q)
    (result : List (UUID × List ℚ)) (b : AccountBalance) :
    trendEntry a i (setTrend periodIds result b) =
      if b.accountId = a ∧ b.fiscalPeriodId = q then
        (trendEntry a i result).map fun _ => b.netBalance
      else trendEntry a i result := by
  have hreverse : periodIds.reverse.Nodup := List.nodup_reverse.mpr hnodup
  have hmem : q ∈ periodIds := List.mem_reverse.mp (List.mem_of_getElem? hq)
  obtain ⟨hi, hget⟩ := List.getElem?_eq_some_iff.mp hq
  have hindex : periodIds.reverse.idxOf q = i := by
    rw [← hget]
    exact hreverse.idxOf_getElem i hi
  rw [setTrend, trendEntry, trendEntry]
  by_cases hperiod : b.fiscalPeriodId ∈ periodIds
  · rw [if_pos hperiod, value?_map fun (k : UUID) (entries : List ℚ) => if k = b.accountId then
      entries.set (periodIds.reverse.idxOf b.fiscalPeriodId) b.netBalance else entries]
    cases value? a result with
    | none => simp
    | some entries =>
      rw [Option.map_some, Option.bind_some, Option.bind_some]
      by_cases haccount : a = b.accountId
      · rw [if_pos haccount, List.getElem?_set]
        by_cases hsame : b.fiscalPeriodId = q
        · have hmatch : b.accountId = a ∧ b.fiscalPeriodId = q := ⟨haccount.symm, hsame⟩
          have hset : periodIds.reverse.idxOf b.fiscalPeriodId = i := by rw [hsame, hindex]
          rw [if_pos hmatch, if_pos hset, hset]
          by_cases hlength : i < entries.length
          · rw [if_pos hlength, List.getElem?_eq_getElem hlength]
            rfl
          · rw [if_neg hlength, List.getElem?_eq_none (not_lt.mp hlength)]
            rfl
        · have hother : periodIds.reverse.idxOf b.fiscalPeriodId ≠ i := fun heq => hsame <| by
            rw [← hindex] at heq
            exact (List.idxOf_inj (List.mem_reverse.mpr hperiod)).mp heq
          rw [if_neg hother, if_neg fun h => hsame h.2]
      · rw [if_neg haccount, if_neg fun h => haccount h.1.symm]
  · have hother : ¬ (b.accountId = a ∧ b.fiscalPeriodId = q) := fun h => hperiod (h.2 ▸ hmem)
    rw [if_neg hperiod, if_neg hother]

theorem trendEntry_foldl (hnodup : periodIds.Nodup) (hq : periodIds.reverse[i]? = some q)
    (balances : List AccountBalance) (result : List (UUID × List ℚ)) :
    trendEntry a i (balances.foldl (setTrend periodIds) result) =
      (trendEntry a i result).map fun before =>
        ((balances.filter fun b => b.accountId = a ∧ b.fiscalPeriodId = q).getLast?).elim before
          AccountBalance.netBalance := by
  induction balances generalizing result with
  | nil => simp
  | cons b balances ih =>
    rw [List.foldl_cons, ih, trendEntry_setTrend hnodup hq]
    by_cases hb : b.accountId = a ∧ b.fiscalPeriodId = q
    · have hfilter : ((b :: balances).filter fun b => b.accountId = a ∧ b.fiscalPeriodId = q) =
          b :: balances.filter fun b => b.accountId = a ∧ b.fiscalPeriodId = q :=
        List.filter_cons_of_pos (decide_eq_true hb)
      rw [if_pos hb, hfilter, List.getLast?_cons, Option.map_map]
      refine congrArg (fun f => Option.map f (trendEntry a i result)) (funext fun before => ?_)
      rw [Function.comp_apply, Option.elim_some]
      cases (balances.filter fun b => b.accountId = a ∧ b.fiscalPeriodId = q).getLast? with
      | none => rfl
      | some last => rfl
    · have hfilter : ((b :: balances).filter fun b => b.accountId = a ∧ b.fiscalPeriodId = q) =
          balances.filter fun b => b.accountId = a ∧ b.fiscalPeriodId = q :=
        List.filter_cons_of_neg (by simpa using hb)
      rw [if_neg hb, hfilter]

/-- **An account and period show the last of their rows**, and zero where there is none. -/
theorem trendEntry_getBalanceTrends {recentPeriods : List (Stored FiscalPeriod)}
    (ha : a ∈ accountIds) (hnodup : (recentPeriods.map Stored.id).Nodup)
    (hlength : recentPeriods.length ≤ periods)
    (hq : (recentPeriods.map Stored.id).reverse[i]? = some q) (balances : List AccountBalance) :
    trendEntry a i (getBalanceTrends accountIds periods recentPeriods balances) =
      some (((balances.filter fun b => b.accountId = a ∧ b.fiscalPeriodId = q).getLast?).elim 0
        AccountBalance.netBalance) := by
  obtain ⟨hi, -⟩ := List.getElem?_eq_some_iff.mp hq
  rw [List.length_reverse, List.length_map] at hi
  have hrecent : recentPeriods ≠ [] := List.ne_nil_of_length_pos (by omega)
  rw [getBalanceTrends, if_neg (List.ne_nil_of_mem ha), if_neg hrecent,
    trendEntry_foldl hnodup hq, trendEntry, value?_collect_first]
  cases hfound : accountIds.find? fun x => decide (id x = a) with
  | none => exact absurd (List.find?_eq_none.mp hfound a ha) (by simp)
  | some x =>
    rw [Option.map_some, Option.bind_some, List.getElem?_replicate_of_lt (by omega),
      Option.map_some]

end Kept

/-! ### The sum over the dimensions -/

def dimensionTotal (org a q : UUID) (db : Db) : ℚ :=
  sumOf AccountBalance.netBalance (balanceRows org q .actual [a] db)

def OneOrNothing (rows : List AccountBalance) : Prop :=
  rows.length ≤ 1 ∨ ∀ b ∈ rows, b.netBalance = 0

def RecentAnswer (org : UUID) (periods : ℕ) (db : Db) (recent : List (Stored FiscalPeriod)) :
    Prop :=
  ∃ answer, DescAnswer (fun p : Stored FiscalPeriod => p.row.endDate) (listedPeriods org db)
    answer ∧ recent = answer.take periods

/-- Lists and trends show sums over dimensions, whatever the order of the answers: a list the sum
in the latest period of the account, a trend the sum in each of its periods. -/
structure SumsDimensions (org : UUID) (accountIds : List UUID) (periods : ℕ) (db : Db) : Prop where
  lists : ∀ rows, DescAnswer (fun row : AccountBalance × FiscalPeriod => row.2.endDate)
      (balancesWithPeriods org accountIds db) rows →
    ∀ a ∈ accountIds, ∀ latest, (rows.find? fun row => row.1.accountId = a) = some latest →
      value? a (getBalancesForAccounts accountIds rows) =
        some (dimensionTotal org a latest.1.fiscalPeriodId db)
  trends : ∀ recent, RecentAnswer org periods db recent →
    ∀ rows, rows.Perm (trendBalances org accountIds (recent.map Stored.id) db) →
      ∀ a ∈ accountIds, ∀ i q, (recent.map Stored.id).reverse[i]? = some q →
        trendEntry a i (getBalanceTrends accountIds periods recent rows) =
          some (dimensionTotal org a q db)

/-- The requested accounts have one row or nothing in every period that may be shown: the latest
ones of their rows, and the recent ones of the organization. -/
structure OneRowShown (org : UUID) (accountIds : List UUID) (periods : ℕ) (db : Db) : Prop where
  latest : ∀ row ∈ balancesWithPeriods org accountIds db,
    (∀ other ∈ balancesWithPeriods org accountIds db, other.1.accountId = row.1.accountId →
      other.2.endDate ≤ row.2.endDate) →
    OneOrNothing (balanceRows org row.1.fiscalPeriodId .actual [row.1.accountId] db)
  recent : ∀ recent, RecentAnswer org periods db recent → ∀ q ∈ recent.map Stored.id,
    ∀ a ∈ accountIds, OneOrNothing (balanceRows org q .actual [a] db)

section Sums

variable {org a q : UUID} {accountIds periodIds : List UUID} {db : Db} {periods : ℕ}

theorem mem_balancesWithPeriods {row : AccountBalance × FiscalPeriod} :
    row ∈ balancesWithPeriods org accountIds db ↔
      row.1 ∈ balanceRows org row.1.fiscalPeriodId .actual [row.1.accountId] db ∧
        row.1.accountId ∈ accountIds ∧ db.fiscalPeriods.get? row.1.fiscalPeriodId = some row.2 ∧
        row.2.status ∈ listedStatuses := by
  rw [balancesWithPeriods, List.mem_filterMap, mem_balanceRows]
  constructor
  · rintro ⟨r, hr, hperiod⟩
    obtain ⟨hget, hselected⟩ := Table.mem_select.mp hr
    obtain ⟨ho, ha, htype⟩ := of_decide_eq_true hselected
    obtain ⟨p, hp, rfl⟩ := Option.map_eq_some_iff.mp hperiod
    obtain ⟨hfound, hlisted⟩ := Option.filter_eq_some_iff.mp hp
    exact ⟨⟨⟨⟨ho, rfl, htype⟩, Or.inr List.mem_cons_self⟩, r.id, hget⟩, ha, hfound,
      of_decide_eq_true hlisted⟩
  · rintro ⟨⟨⟨⟨ho, -, htype⟩, -⟩, i, hget⟩, ha, hfound, hlisted⟩
    refine ⟨⟨i, row.1⟩, Table.mem_select.mpr ⟨hget, decide_eq_true ⟨ho, ha, htype⟩⟩, ?_⟩
    rw [listedPeriod, hfound, Option.filter_some, if_pos (decide_eq_true hlisted)]
    rfl

theorem filter_trendBalances (ha : a ∈ accountIds) (hq : q ∈ periodIds) :
    (trendBalances org accountIds periodIds db).filter
        (fun b => b.accountId = a ∧ b.fiscalPeriodId = q) = balanceRows org q .actual [a] db := by
  rw [trendBalances, balanceRows, List.filter_map, Table.select, Table.select, List.filter_filter]
  refine congrArg (List.map Stored.row) (List.filter_congr fun r _ => ?_)
  simp only [Function.comp_apply, ← Bool.decide_and, decide_eq_decide, List.cons_ne_nil, false_or,
    List.mem_singleton]
  constructor
  · rintro ⟨⟨hra, hrq⟩, ho, -, -, htype⟩
    exact ⟨ho, hrq, htype, hra⟩
  · rintro ⟨ho, rfl, htype, rfl⟩
    exact ⟨⟨rfl, rfl⟩, ho, ha, hq, htype⟩

/-- The first row of the account shows the sum in its period, in every answer, if and only if the
account has one row or nothing in each of its latest periods. -/
theorem lists_iff :
    (∀ rows, DescAnswer (fun row : AccountBalance × FiscalPeriod => row.2.endDate)
        (balancesWithPeriods org accountIds db) rows →
      ∀ a ∈ accountIds, ∀ latest, (rows.find? fun row => row.1.accountId = a) = some latest →
        value? a (getBalancesForAccounts accountIds rows) =
          some (dimensionTotal org a latest.1.fiscalPeriodId db)) ↔
    ∀ row ∈ balancesWithPeriods org accountIds db,
      (∀ other ∈ balancesWithPeriods org accountIds db, other.1.accountId = row.1.accountId →
        other.2.endDate ≤ row.2.endDate) →
      OneOrNothing (balanceRows org row.1.fiscalPeriodId .actual [row.1.accountId] db) := by
  constructor
  · intro h row hrow hmax
    obtain ⟨-, ha, hfound, hlisted⟩ := mem_balancesWithPeriods.mp hrow
    -- each dimension row of the period comes first in some answer
    refine (forall_eq_sum_iff _ _).mp fun b hb => ?_
    obtain ⟨⟨hin, hids⟩, -⟩ := mem_balanceRows.mp hb
    have hperiod : b.fiscalPeriodId = row.1.fiscalPeriodId := hin.2.1
    have haccount : b.accountId = row.1.accountId := by simpa using hids
    have hother : (b, row.2) ∈ balancesWithPeriods org accountIds db := by
      rw [mem_balancesWithPeriods]
      dsimp only
      rw [hperiod, haccount]
      exact ⟨hb, ha, hfound, hlisted⟩
    obtain ⟨rows, hanswer, hfirst⟩ : ∃ rows,
        DescAnswer (fun row : AccountBalance × FiscalPeriod => row.2.endDate)
          (balancesWithPeriods org accountIds db) rows ∧
        (rows.find? fun other => other.1.accountId = row.1.accountId) = some (b, row.2) :=
      exists_descAnswer_first hother (decide_eq_true haccount)
        fun c hc hca => hmax c hc (of_decide_eq_true hca)
    have hshown := h rows hanswer row.1.accountId ha (b, row.2) hfirst
    rw [value?_getBalancesForAccounts ha, hfirst, Option.map_some, Option.some.injEq] at hshown
    dsimp only at hshown
    rw [hperiod] at hshown
    exact hshown
  · intro h rows hanswer a ha latest hfirst
    have hmem := hanswer.1.mem_iff.mp (List.mem_of_find?_eq_some hfirst)
    have haccount : latest.1.accountId = a := by
      simpa using List.find?_some hfirst
    have hmax := hanswer.find?_le hfirst
    have hone := h latest hmem fun other hother hoa =>
      hmax other hother (decide_eq_true (hoa.trans haccount))
    obtain ⟨hrow, -⟩ := mem_balancesWithPeriods.mp hmem
    rw [value?_getBalancesForAccounts ha, hfirst, Option.map_some]
    rw [haccount] at hone hrow
    exact congrArg some ((forall_eq_sum_iff _ _).mpr hone latest.1 hrow)

/-- **Lists and trends sum over the dimensions**, whatever the order of the answers, if and only if
every requested account has one dimension row, or nothing, in each period that may be shown. -/
theorem listed_balances_iff (org : UUID) (accountIds : List UUID) (periods : ℕ) (db : Db) :
    SumsDimensions org accountIds periods db ↔ OneRowShown org accountIds periods db := by
  have hshown : ∀ {recent : List (Stored FiscalPeriod)}, RecentAnswer org periods db recent →
      (recent.map Stored.id).Nodup ∧ recent.length ≤ periods := by
    rintro recent ⟨answer, hanswer, rfl⟩
    refine ⟨?_, List.length_take_le _ _⟩
    rw [List.map_take]
    have hids : (answer.map Stored.id).Nodup :=
      (hanswer.1.map Stored.id).nodup_iff.mpr (Table.nodup_ids_select _ _)
    exact hids.sublist (List.take_sublist _ _)
  constructor
  · intro h
    refine ⟨lists_iff.mp h.lists, fun recent hrecent q hq a ha => ?_⟩
    obtain ⟨hnodup, hlength⟩ := hshown hrecent
    obtain ⟨i, hi⟩ := List.getElem?_of_mem (List.mem_reverse.mpr hq)
    -- each dimension row comes last in some answer
    refine (forall_eq_sum_iff _ _).mp fun b hb => ?_
    rw [← filter_trendBalances ha hq] at hb
    obtain ⟨hmem, hpair⟩ := List.mem_filter.mp hb
    obtain ⟨rest, hperm⟩ := exists_perm_last hmem
    have htrend := h.trends recent hrecent (rest ++ [b]) hperm a ha i q hi
    rw [trendEntry_getBalanceTrends ha hnodup hlength hi, List.filter_append,
      List.filter_singleton, hpair, cond_true, List.getLast?_append] at htrend
    exact Option.some.inj htrend
  · intro h
    refine ⟨lists_iff.mpr h.latest, fun recent hrecent rows hperm a ha i q hi => ?_⟩
    obtain ⟨hnodup, hlength⟩ := hshown hrecent
    have hq : q ∈ recent.map Stored.id := List.mem_reverse.mp (List.mem_of_getElem? hi)
    have hone := (forall_eq_sum_iff _ _).mpr (h.recent recent hrecent q hq a ha)
    have hrows : ∀ b, b ∈ rows.filter (fun b => b.accountId = a ∧ b.fiscalPeriodId = q) ↔
        b ∈ balanceRows org q .actual [a] db := by
      intro b
      rw [← filter_trendBalances ha hq]
      exact (hperm.filter _).mem_iff
    rw [trendEntry_getBalanceTrends ha hnodup hlength hi]
    cases hlast : (rows.filter fun b => b.accountId = a ∧ b.fiscalPeriodId = q).getLast? with
    | some b => exact congrArg some (hone b ((hrows b).mp (List.mem_of_getLast? hlast)))
    | none =>
      have hempty : balanceRows org q .actual [a] db = [] := by
        rw [List.getLast?_eq_none_iff] at hlast
        refine List.eq_nil_iff_forall_not_mem.mpr fun b hb => ?_
        have hb' := (hrows b).mpr hb
        rw [hlast] at hb'
        exact List.not_mem_nil hb'
      rw [dimensionTotal, hempty]
      rfl

def costCenterBalance (costCenterId : Option UUID) (netBalance : ℚ) : AccountBalance :=
  { newBalance ⟨1, 0, 0, .actual, "NGN", { Dimensions.none with costCenterId }⟩ with
    closingDebit := netBalance
    netBalance := netBalance }

def twoDimensions : Db where
  fiscalPeriods := twoPeriods.fiscalPeriods
  balances := (Table.empty.insert (costCenterBalance none 100)).insert
    (costCenterBalance (some 7) 50)

/-- The list shows 100 for the account, or 50, where its rows add up to 150. -/
theorem list_keeps_one_row :
    ¬ ∀ (org : UUID) (accountIds : List UUID) (periods : ℕ) (db : Db),
      SumsDimensions org accountIds periods db := by
  intro h
  have hanswer : DescAnswer (fun row : AccountBalance × FiscalPeriod => row.2.endDate)
      (balancesWithPeriods 1 [0] twoDimensions) (balancesWithPeriods 1 [0] twoDimensions) :=
    ⟨List.Perm.refl _, by decide +kernel⟩
  have hshown := (h 1 [0] 6 twoDimensions).lists _ hanswer 0 List.mem_cons_self
    (costCenterBalance none 100, monthOf2024 1 (by decide)) rfl
  revert hshown
  decide +kernel

end Sums

end AccountBalanceService

end DotmacErp
