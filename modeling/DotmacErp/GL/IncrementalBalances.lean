import DotmacErp.GL.CumulativeBalances

/-!
# Balances line by line

`AccountBalanceService.update_balance_for_posting`: the balance of a line's account and dimensions
is found or created, and the line is added to it. The other way to the same figures is
`refresh_balance`, which sums the ledger rows of an account by their dimensions.

A line is one movement more (`balance?_updateBalanceForPosting`), and lines are as many movements,
whatever their order (`balance?_postLines`). From balances that have nothing but opening figures,
the lines of a period one by one and one refresh of each account come to the same figures under
every key (`incremental_eq_batch`).

The lines are stored ones, so that the amounts that are added need no rounding.
-/

namespace DotmacErp

open Relational BalanceRefreshService

namespace AccountBalanceService

/-! ### One line -/

/-- The key a line is posted under: the actual balance in the given currency, or else in the
functional one. -/
def postingKey (db : Db) (org accountId periodId : UUID)
    (currencyCode : Option String) (balanceType : BalanceType) (dimensions : Dimensions) :
    BalanceKey where
  organizationId := org
  accountId := accountId
  fiscalPeriodId := periodId
  balanceType := balanceType
  currencyCode := (currencyCode.filter (· ≠ "")).getD (db.functionalCurrency org)
  dimensions := dimensions

def postedTo (debitAmount creditAmount : ℚ) (balance : AccountBalance) : AccountBalance :=
  { balance with
    periodDebit := balance.periodDebit + debitAmount
    periodCredit := balance.periodCredit + creditAmount
    closingDebit := balance.openingDebit + (balance.periodDebit + debitAmount)
    closingCredit := balance.openingCredit + (balance.periodCredit + creditAmount)
    netBalance := balance.openingDebit + (balance.periodDebit + debitAmount) -
      (balance.openingCredit + (balance.periodCredit + creditAmount))
    transactionCount := balance.transactionCount + 1
    isStale := false
    refreshCount := balance.refreshCount + 1 }

def postedNew (k : BalanceKey) (debitAmount creditAmount : ℚ) : AccountBalance where
  organizationId := k.organizationId
  accountId := k.accountId
  fiscalPeriodId := k.fiscalPeriodId
  balanceType := k.balanceType
  currencyCode := k.currencyCode
  dimensions := k.dimensions
  openingDebit := 0
  openingCredit := 0
  periodDebit := debitAmount
  periodCredit := creditAmount
  closingDebit := debitAmount
  closingCredit := creditAmount
  netBalance := debitAmount - creditAmount
  transactionCount := 1
  isStale := false
  refreshCount := 1

/-- `update_balance_for_posting`, under its advisory lock. -/
def updateBalanceForPosting (org accountId periodId : UUID)
    (debitAmount creditAmount : ℚ) (currencyCode : Option String) (balanceType : BalanceType)
    (dimensions : Dimensions) (db : Db) : AccountBalance × Db :=
  let k := postingKey db org accountId periodId currencyCode balanceType dimensions
  let update := postedTo debitAmount creditAmount
  let create := postedNew k debitAmount creditAmount
  ((db.balance? k).elim create update,
    { db with balances := db.balances.upsert AccountBalance.key k update create })

def postLine (db : Db) (r : PostedLedgerLine) : Db :=
  (updateBalanceForPosting r.organizationId r.accountId r.fiscalPeriodId r.debitAmount
    r.creditAmount none .actual r.dimensions db).2

def postLines (lines : List PostedLedgerLine) (db : Db) : Db := lines.foldl postLine db

def refreshAccounts (org p : UUID) (accounts : List UUID) (db : Db) : Db :=
  accounts.foldl (fun db a => (refreshBalance org a p db).2) db

/-! ### Movements that are added -/

def moved (m : Movement) (b : AccountBalance) : AccountBalance :=
  { b with
    periodDebit := b.periodDebit + m.debit
    periodCredit := b.periodCredit + m.credit
    closingDebit := b.openingDebit + (b.periodDebit + m.debit)
    closingCredit := b.openingCredit + (b.periodCredit + m.credit)
    netBalance := b.openingDebit + (b.periodDebit + m.debit) -
      (b.openingCredit + (b.periodCredit + m.credit))
    transactionCount := b.transactionCount + m.count
    isStale := false
    refreshCount := b.refreshCount + m.count }

variable {db : Db} {k : BalanceKey} {b : AccountBalance} {m : Movement}
  {r : PostedLedgerLine} {lines order : List PostedLedgerLine} {org p : UUID}

theorem postedTo_eq_moved (debitAmount creditAmount : ℚ) :
    postedTo debitAmount creditAmount = moved ⟨debitAmount, creditAmount, 1⟩ := rfl

theorem postedNew_eq_moved (k : BalanceKey) (debitAmount creditAmount : ℚ) :
    postedNew k debitAmount creditAmount =
      moved ⟨debitAmount, creditAmount, 1⟩ (newBalance k) := by
  simp [postedNew, moved, newBalance]

theorem moved_moved (r : PostedLedgerLine) (rows : List PostedLedgerLine) (b : AccountBalance) :
    moved (movement rows) (moved ⟨r.debitAmount, r.creditAmount, 1⟩ b) =
      moved (movement (r :: rows)) b := by
  simp only [moved, movement, List.map_cons, List.sum_cons, List.length_cons, add_assoc,
    Nat.add_comm 1]

def lineKey (db : Db) (r : PostedLedgerLine) : BalanceKey :=
  ⟨r.organizationId, r.accountId, r.fiscalPeriodId, .actual,
    db.functionalCurrency r.organizationId, r.dimensions⟩

/-- **One line** adds its movement to the balance of its key, and changes no other. -/
theorem balance?_postLine (h : db.KeyedBalances) (r : PostedLedgerLine) (k : BalanceKey) :
    (postLine db r).balance? k =
      if lineKey db r = k then
        some (moved ⟨r.debitAmount, r.creditAmount, 1⟩ ((db.balance? k).getD (newBalance k)))
      else db.balance? k := by
  have hupdate : ∀ a, (postedTo r.debitAmount r.creditAmount a).key = a.key := fun _ => rfl
  have hcreate : (postedNew (lineKey db r) r.debitAmount r.creditAmount).key = lineKey db r := rfl
  refine (h.at?_upsert hupdate hcreate k).trans ?_
  rw [postedTo_eq_moved, postedNew_eq_moved]
  split_ifs with hk
  · subst hk
    rw [Db.balance?]
    cases db.balances.at? AccountBalance.key (lineKey db r) with
    | none => rfl
    | some b => rfl
  · rfl

theorem keyed_postLine (h : db.KeyedBalances) (r : PostedLedgerLine) :
    (postLine db r).KeyedBalances := h.upsert (fun _ => rfl) rfl

/-- The key of a line is a key of actual balances in functional currency, and the line is behind
it. -/
theorem lineKey_eq_iff :
    lineKey db r = k ↔ (k.balanceType = .actual ∧
      k.currencyCode = db.functionalCurrency k.organizationId) ∧
      r.organizationId = k.organizationId ∧ r.accountId = k.accountId ∧
        r.fiscalPeriodId = k.fiscalPeriodId ∧ r.dimensions = k.dimensions := by
  rw [lineKey]
  constructor
  · rintro rfl
    simp
  · rintro ⟨⟨htype, hcode⟩, ho, ha, hp, hd⟩
    rw [ho, ha, hp, hd, ← hcode, ← htype]

theorem keyRows_cons (r : PostedLedgerLine) (lines : List PostedLedgerLine)
    (hk : k.balanceType = .actual ∧ k.currencyCode = db.functionalCurrency k.organizationId) :
    keyRows k (r :: lines) =
      if lineKey db r = k then r :: keyRows k lines else keyRows k lines := by
  rw [keyRows, List.filter_cons, ← keyRows]
  refine if_congr ?_ rfl rfl
  rw [decide_eq_true_eq, lineKey_eq_iff]
  exact (and_iff_right hk).symm

/-- **Lines, in any order,** add the movement of the lines behind a key. -/
theorem balance?_postLines (h : db.KeyedBalances) (lines : List PostedLedgerLine)
    (hk : k.balanceType = .actual ∧ k.currencyCode = db.functionalCurrency k.organizationId) :
    (postLines lines db).balance? k =
      if keyRows k lines = [] then db.balance? k
      else some (moved (movement (keyRows k lines)) ((db.balance? k).getD (newBalance k))) := by
  induction lines generalizing db with
  | nil => rfl
  | cons r lines ih =>
    have hrest := ih (keyed_postLine h r) hk
    rw [postLines, List.foldl_cons, ← postLines, hrest, balance?_postLine h]
    rw [keyRows_cons r lines hk]
    by_cases hr : lineKey db r = k
    · rw [if_pos hr, if_pos hr, if_neg (List.cons_ne_nil _ _), Option.getD_some, moved_moved]
      split_ifs with hlines
      · -- the last of the lines
        rw [hlines]
        simp [movement]
      · rfl
    · rw [if_neg hr, if_neg hr]

theorem balance?_postLines_of_ne (h : db.KeyedBalances) (lines : List PostedLedgerLine)
    (hk : ¬ (k.balanceType = .actual ∧
      k.currencyCode = db.functionalCurrency k.organizationId)) :
    (postLines lines db).balance? k = db.balance? k := by
  induction lines generalizing db with
  | nil => rfl
  | cons r lines ih =>
    have hrest := ih (keyed_postLine h r) hk
    rw [postLines, List.foldl_cons, ← postLines, hrest, balance?_postLine h, if_neg]
    exact fun hr => hk (lineKey_eq_iff.mp hr).1

/-! ### The figures of a balance -/

structure BalanceFigures where
  openingDebit : ℚ
  openingCredit : ℚ
  periodDebit : ℚ
  periodCredit : ℚ
  closingDebit : ℚ
  closingCredit : ℚ
  netBalance : ℚ
  transactionCount : ℕ
  deriving DecidableEq

def shownFigures (b : AccountBalance) : BalanceFigures :=
  ⟨b.openingDebit, b.openingCredit, b.periodDebit, b.periodCredit, b.closingDebit, b.closingCredit,
    b.netBalance, b.transactionCount⟩

/-- Nothing has moved: the balance closes at what it opens at. -/
structure OpeningOnly (b : AccountBalance) : Prop where
  shown : b.shown = movement []
  closingDebit : b.closingDebit = b.openingDebit
  closingCredit : b.closingCredit = b.openingCredit
  netBalance : b.netBalance = b.openingDebit - b.openingCredit

instance (b : AccountBalance) : Decidable (OpeningOnly b) :=
  decidable_of_iff (b.shown = movement [] ∧ b.closingDebit = b.openingDebit ∧
    b.closingCredit = b.openingCredit ∧ b.netBalance = b.openingDebit - b.openingCredit)
    ⟨fun h => ⟨h.1, h.2.1, h.2.2.1, h.2.2.2⟩,
      fun h => ⟨h.shown, h.closingDebit, h.closingCredit, h.netBalance⟩⟩

theorem openingOnly_newBalance (k : BalanceKey) : OpeningOnly (newBalance k) :=
  ⟨rfl, rfl, rfl, (sub_zero 0).symm⟩

theorem OpeningOnly.figures_moved (h : OpeningOnly b) (m : Movement) :
    shownFigures (moved m b) = shownFigures (b.refreshed m) := by
  have hdebit : b.periodDebit = 0 := congrArg Movement.debit h.shown
  have hcredit : b.periodCredit = 0 := congrArg Movement.credit h.shown
  have hcount : b.transactionCount = 0 := congrArg Movement.count h.shown
  simp [shownFigures, moved, AccountBalance.refreshed, hdebit, hcredit, hcount]

theorem OpeningOnly.figures_unmoved (h : OpeningOnly b) :
    shownFigures b.unmoved = shownFigures b := by
  have hdebit : b.periodDebit = 0 := congrArg Movement.debit h.shown
  have hcredit : b.periodCredit = 0 := congrArg Movement.credit h.shown
  have hcount : b.transactionCount = 0 := congrArg Movement.count h.shown
  simp [shownFigures, AccountBalance.unmoved, hdebit, hcredit, hcount, h.closingDebit,
    h.closingCredit, h.netBalance]

/-! ### The refreshes of a period -/

theorem balance?_refreshAccounts_of_ne (h : db.KeyedBalances) {accounts : List UUID}
    (hk : ∀ a ∈ accounts, ¬ (k.organizationId = org ∧ k.accountId = a ∧ k.fiscalPeriodId = p ∧
      k.balanceType = .actual)) :
    (refreshAccounts org p accounts db).balance? k = db.balance? k := by
  induction accounts generalizing db with
  | nil => rfl
  | cons a accounts ih =>
    have hrest := ih (keyed_refreshBalance h org a p) fun a' ha' =>
      hk a' (List.mem_cons_of_mem a ha')
    rw [refreshAccounts, List.foldl_cons, ← refreshAccounts, hrest]
    exact balance?_refreshBalance_of_ne h (hk a List.mem_cons_self)

def refreshedBalance (db : Db) (k : BalanceKey) : Option AccountBalance :=
  if k.currencyCode = db.functionalCurrency k.organizationId ∧ keyRows k db.ledger ≠ [] then
    some (((db.balance? k).getD (newBalance k)).refreshed (movement (keyRows k db.ledger)))
  else
    (db.balance? k).map .unmoved

theorem balance?_refreshBalance_eq (h : db.KeyedBalances) (hk : InPeriod org p k) :
    (refreshBalance org k.accountId p db).2.balance? k = refreshedBalance db k := by
  obtain ⟨ho, hp, htype⟩ := hk
  rw [refreshedBalance, ho]
  split_ifs with hrows
  · exact balance?_refreshBalance_of_rows h ⟨ho, rfl, hp, htype⟩ hrows.1 hrows.2
  · refine balance?_refreshBalance_of_unmoved h ⟨ho, rfl, hp, htype⟩ fun hcode => ?_
    by_contra hne
    exact hrows ⟨hcode, hne⟩

theorem refreshedBalance_refreshBalance (h : db.KeyedBalances) {a : UUID} (ha : k.accountId ≠ a) :
    refreshedBalance (refreshBalance org a p db).2 k = refreshedBalance db k := by
  have hsame : (refreshBalance org a p db).2.balance? k = db.balance? k :=
    balance?_refreshBalance_of_ne h fun hk => ha hk.2.1
  rw [refreshedBalance, hsame]
  rfl

theorem balance?_refreshAccounts (h : db.KeyedBalances) {accounts : List UUID}
    (hnodup : accounts.Nodup) (hk : InPeriod org p k) (hmem : k.accountId ∈ accounts) :
    (refreshAccounts org p accounts db).balance? k = refreshedBalance db k := by
  induction accounts generalizing db with
  | nil => exact absurd hmem List.not_mem_nil
  | cons a accounts ih =>
    obtain ⟨hnew, hrest⟩ := List.nodup_cons.mp hnodup
    rw [refreshAccounts, List.foldl_cons, ← refreshAccounts]
    rcases List.mem_cons.mp hmem with ha | hmem
    · -- refreshed first, and left alone after
      rw [← ha] at hnew ⊢
      rw [balance?_refreshAccounts_of_ne (keyed_refreshBalance h org _ p) fun a' ha' hk' =>
        hnew (hk'.2.1 ▸ ha')]
      exact balance?_refreshBalance_eq h hk
    · have hne : k.accountId ≠ a := fun heq => hnew (heq ▸ hmem)
      rw [ih (keyed_refreshBalance h org a p) hrest hmem, refreshedBalance_refreshBalance h hne]

/-! ### Line by line and all at once -/

theorem movement_perm {rows rows' : List PostedLedgerLine} (h : rows.Perm rows') :
    movement rows = movement rows' := by
  rw [movement, movement, (h.map _).sum_eq, (h.map _).sum_eq, h.length_eq]

theorem keyRows_periodRows (hk : k.organizationId = org ∧ k.fiscalPeriodId = p)
    (ledger : List PostedLedgerLine) :
    keyRows k (periodRows org p ledger) = keyRows k ledger := by
  rw [keyRows, periodRows, List.filter_filter, keyRows]
  refine List.filter_congr fun r _ => ?_
  rw [← hk.1, ← hk.2]
  simp only [← Bool.decide_and, decide_eq_decide]
  tauto

theorem keyRows_periodRows_of_ne (hk : ¬ (k.organizationId = org ∧ k.fiscalPeriodId = p))
    (ledger : List PostedLedgerLine) : keyRows k (periodRows org p ledger) = [] := by
  refine List.eq_nil_iff_forall_not_mem.mpr fun r hr => hk ?_
  rw [mem_keyRows, periodRows, List.mem_filter, decide_eq_true_eq] at hr
  obtain ⟨⟨-, ho, hp⟩, ho', -, hp', -⟩ := hr
  exact ⟨ho'.symm.trans ho, hp'.symm.trans hp⟩

def PostedUnder (db : Db) (k : BalanceKey) (lines : List PostedLedgerLine) : Prop :=
  (k.balanceType = .actual ∧ k.currencyCode = db.functionalCurrency k.organizationId) ∧
    keyRows k lines ≠ []

theorem balance?_postLines_of_not (h : db.KeyedBalances) (hk : ¬ PostedUnder db k lines) :
    (postLines lines db).balance? k = db.balance? k := by
  by_cases hfunctional : k.balanceType = .actual ∧
      k.currencyCode = db.functionalCurrency k.organizationId
  · have hnone : keyRows k lines = [] := by
      by_contra hne
      exact hk ⟨hfunctional, hne⟩
    rw [balance?_postLines h lines hfunctional, if_pos hnone]
  · exact balance?_postLines_of_ne h lines hfunctional

theorem figures_refreshedBalance_of_not (hk : InPeriod org p k)
    (hopening : ∀ b, db.balance? k = some b → OpeningOnly b) (hnot : ¬ PostedUnder db k db.ledger) :
    (refreshedBalance db k).map shownFigures = (db.balance? k).map shownFigures := by
  rw [refreshedBalance, if_neg fun h => hnot ⟨⟨hk.2.2, h.1⟩, h.2⟩, Option.map_map]
  exact Option.map_congr fun b hb => (hopening b hb).figures_unmoved

/-- **Incremental equals batch.** The lines of a period of an organization, one by one and in any
order, and one refresh of each account, bring balances with arbitrary opening figures and nothing
else in that period to the same figures, under every key. -/
theorem incremental_eq_batch {accounts : List UUID} (hkeyed : db.KeyedBalances)
    (hopening : ∀ k b, InPeriod org p k → db.balance? k = some b → OpeningOnly b)
    (horder : order.Perm (periodRows org p db.ledger)) (hnodup : accounts.Nodup)
    (hcovers : ∀ r ∈ periodRows org p db.ledger, r.accountId ∈ accounts) (k : BalanceKey) :
    ((postLines order db).balance? k).map shownFigures =
      ((refreshAccounts org p accounts db).balance? k).map shownFigures := by
  have hperm : (keyRows k order).Perm (keyRows k (periodRows org p db.ledger)) :=
    horder.filter _
  by_cases hposted : PostedUnder db k (periodRows org p db.ledger)
  · -- the line is of the period, and its account is refreshed
    obtain ⟨hfunctional, hne⟩ := hposted
    have hplace : k.organizationId = org ∧ k.fiscalPeriodId = p := by
      by_contra hnot
      exact hne (keyRows_periodRows_of_ne hnot _)
    have hmem : k.accountId ∈ accounts := by
      obtain ⟨r, hr⟩ := List.exists_mem_of_ne_nil _ hne
      obtain ⟨hrow, -, ha, -⟩ := mem_keyRows.mp hr
      exact ha ▸ hcovers r hrow
    have hin : InPeriod org p k := ⟨hplace.1, hplace.2, hfunctional.1⟩
    have hne' : keyRows k order ≠ [] := fun h => hne (by rwa [h, List.nil_perm] at hperm)
    rw [keyRows_periodRows hplace] at hperm hne
    rw [balance?_postLines hkeyed order hfunctional, if_neg hne',
      balance?_refreshAccounts hkeyed hnodup hin hmem, refreshedBalance,
      if_pos ⟨hfunctional.2, hne⟩, movement_perm hperm, Option.map_some, Option.map_some]
    refine congrArg some (OpeningOnly.figures_moved ?_ _)
    cases hb : db.balance? k with
    | none => exact openingOnly_newBalance k
    | some b => exact hopening k b hin hb
  · have hnot : ¬ PostedUnder db k order := fun h =>
      hposted ⟨h.1, fun hnil => h.2 (by rwa [hnil, List.perm_nil] at hperm)⟩
    rw [balance?_postLines_of_not hkeyed hnot]
    by_cases hin : InPeriod org p k ∧ k.accountId ∈ accounts
    · obtain ⟨hin, hmem⟩ := hin
      rw [balance?_refreshAccounts hkeyed hnodup hin hmem]
      rw [PostedUnder, keyRows_periodRows ⟨hin.1, hin.2.1⟩] at hposted
      exact (figures_refreshedBalance_of_not hin (hopening k · hin) hposted).symm
    · rw [balance?_refreshAccounts_of_ne hkeyed fun a ha hk =>
        hin ⟨⟨hk.1, hk.2.2.1, hk.2.2.2⟩, hk.2.1 ▸ ha⟩]

/-! ### Two lines and an opening -/

/-- A balance brought forward for account 0, and three lines, two of them on that account. -/
def openedPeriod : Db where
  balances := Table.empty.insert
    { newBalance ⟨1, 0, 0, .actual, "NGN", .none⟩ with
      openingDebit := 40
      closingDebit := 40
      netBalance := 40 }
  ledger := [plainLine 0 0 0 100 0, plainLine 0 1 0 0 70, plainLine 1 0 0 0 30]

theorem incremental_eq_batch_sample :
    ((postLines openedPeriod.ledger.reverse openedPeriod).balance?
        ⟨1, 0, 0, .actual, "NGN", .none⟩).map shownFigures =
      some ⟨40, 0, 100, 30, 140, 30, 110, 2⟩ ∧
    ∀ k, ((postLines openedPeriod.ledger.reverse openedPeriod).balance? k).map shownFigures =
      ((refreshAccounts 1 0 [0, 1] openedPeriod).balance? k).map shownFigures := by
  have hkeyed : openedPeriod.KeyedBalances := Table.keyed_empty.insert rfl
  have hopening : ∀ k b, InPeriod 1 0 k → openedPeriod.balance? k = some b → OpeningOnly b := by
    intro k b _ hb
    obtain ⟨i, hi⟩ := Table.exists_of_at? hb
    have hall : ∀ r ∈ openedPeriod.balances.rows, OpeningOnly r.row := by decide +kernel
    exact hall ⟨i, b⟩ (Table.get?_eq_some.mp hi)
  have hperiod : periodRows 1 0 openedPeriod.ledger = openedPeriod.ledger := rfl
  refine ⟨by decide +kernel, incremental_eq_batch hkeyed hopening ?_ (by decide) ?_⟩
  · rw [hperiod]
    exact List.reverse_perm _
  · rw [hperiod]
    decide +kernel

end AccountBalanceService

end DotmacErp
