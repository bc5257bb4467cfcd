import DotmacErp.GL.CumulativeBalances

/-!
# The balance cache over whole runs

`balanceSystem org periods` is the life of the balance cache: postings, refreshes, rebuilds and
rollovers in any order, with the rollovers into the listed periods of the organization in
period order. Every write keeps the balances of these periods traced (`TracedBalances.apply`),
and so they are in every reachable state.

`recalculate` is a pass of refreshes and rebuilds, in any mix. It leaves every key it covers
fresh (`fresh_recalculate`), and what follows it is the pass of rollovers of
`CumulativeBalances`: `cumulative_balances` puts the two together.
-/

namespace DotmacErp

open Relational AccountBalanceService BalanceRefreshService BalanceInvalidationService

/-! ### The writes -/

inductive BalanceWrite
  | post (rows : List PostedLedgerLine) (entries : List (UUID × UUID × UUID))
  | refresh (org accountId periodId : UUID)
  | rebuild (org periodId : UUID) (balanceType : BalanceType)
  | rollover (org fromPeriodId toPeriodId : UUID) (balanceType : BalanceType)
  | other (db : Db)

/-- What a write does. A posting appends rows and invalidates their balances; other writes
leave the ledger, the balances and the functional currency alone. -/
def BalanceWrite.apply : BalanceWrite → Db → Db
  | post rows entries, db => invalidateBatch entries { db with ledger := db.ledger ++ rows }
  | refresh o a p, db => (refreshBalance o a p db).2
  | rebuild o p ty, db => (rebuildBalancesForPeriod o p ty db).2
  | rollover o p q ty, db => (rolloverOpeningBalances o p q ty db).2
  | other db', db =>
    { db' with
      ledger := db.ledger
      balances := db.balances
      functionalCurrency := db.functionalCurrency }

def BalanceWrite.InOrder (org : UUID) (periods : List UUID) : BalanceWrite → Prop
  | rollover o p q ty =>
    o = org → ty = .actual → q ∈ periods → ∃ l r, periods = l ++ p :: q :: r
  | _ => True

def balanceSystem (org : UUID) (periods : List UUID) : System Db BalanceWrite where
  init db := db.balances.rows = []
  step db w db' := w.InOrder org periods ∧ db' = w.apply db

structure TracedBalances (org : UUID) (periods : List UUID) (db : Db) : Prop where
  keyed : db.KeyedBalances
  traced : ∀ earlier p later, periods = earlier ++ p :: later →
    ∀ k b, InPeriod org p k → db.balance? k = some b → Traced earlier db k b

section Trace

variable {org : UUID} {periods earlier : List UUID} {db db' : Db} {k : BalanceKey}
  {b : AccountBalance}

theorem keyed_of_rows_nil (h : db.balances.rows = []) : db.KeyedBalances := by
  intro i j a b ha
  rw [Table.get?_eq_some, h] at ha
  exact absurd ha (by simp)

theorem tracedBalances_of_init (h : db.balances.rows = []) : TracedBalances org periods db := by
  refine ⟨keyed_of_rows_nil h, fun _ _ _ _ k b _ hb => ?_⟩
  obtain ⟨i, hi⟩ := Table.exists_of_at? hb
  rw [Table.get?_eq_some, h] at hi
  exact absurd hi (by simp)

theorem Traced.mono (h : Traced earlier db k b) {b' : AccountBalance}
    {rows : List PostedLedgerLine} (hledger : db'.ledger = db.ledger ++ rows)
    (hcode : db'.functionalCurrency = db.functionalCurrency) (hclosed : b'.Closed ↔ b.Closed)
    (hshown : b'.shown = b.shown) (hopen : b'.Unopened ↔ b.Unopened) :
    Traced earlier db' k b' := by
  refine ⟨hcode ▸ h.currency, hclosed.mpr h.closed, fun hrows => ?_, ?_⟩
  · rw [hledger, keyRows_append, List.append_eq_nil_iff] at hrows
    rw [hshown, h.still hrows.1]
  · rw [hledger, rowsIn_append, hopen]
    refine h.opened.imp_right fun hne hnil => hne ?_
    exact (List.append_eq_nil_iff.mp hnil).1

theorem balance?_invalidateBatch (h : db.KeyedBalances) (entries : List (UUID × UUID × UUID)) :
    (invalidateBatch entries db).KeyedBalances ∧
      ∀ k b', (invalidateBatch entries db).balance? k = some b' →
        ∃ b stale, db.balance? k = some b ∧ b' = { b with isStale := stale } := by
  rw [invalidateBatch]
  induction entries.dedup generalizing db with
  | nil => exact ⟨h, fun k b' hb' => ⟨b', b'.isStale, hb', rfl⟩⟩
  | cons entry rest ih =>
    have hkeyed : (invalidate entry.1 entry.2.1 entry.2.2 db).KeyedBalances :=
      h.update fun _ _ => rfl
    obtain ⟨hkept, hmarked⟩ := ih hkeyed
    refine ⟨hkept, fun k b' hb' => ?_⟩
    obtain ⟨b₁, stale, hb₁, rfl⟩ := hmarked k b' hb'
    have hlookup : (invalidate entry.1 entry.2.1 entry.2.2 db).balance? k = _ :=
      h.at?_update fun _ _ => rfl
    rw [hlookup, Option.map_eq_some_iff] at hb₁
    obtain ⟨b, hb, rfl⟩ := hb₁
    refine ⟨b, stale, hb, ?_⟩
    split_ifs <;> rfl

theorem invalidateBatch_ledger (entries : List (UUID × UUID × UUID)) (db : Db) :
    (invalidateBatch entries db).ledger = db.ledger ∧
      (invalidateBatch entries db).functionalCurrency = db.functionalCurrency := by
  obtain ⟨balances, queue, heq⟩ := invalidateBatch_frame entries db
  rw [heq]
  exact ⟨rfl, rfl⟩

/-! ### Each write -/

theorem TracedBalances.post (h : TracedBalances org periods db) (rows : List PostedLedgerLine)
    (entries : List (UUID × UUID × UUID)) :
    TracedBalances org periods (BalanceWrite.apply (.post rows entries) db) := by
  have hkept : Db.KeyedBalances { db with ledger := db.ledger ++ rows } := h.keyed
  obtain ⟨hkeyed, hmarked⟩ := balance?_invalidateBatch hkept entries
  obtain ⟨hledger, hcode⟩ := invalidateBatch_ledger entries
    { db with ledger := db.ledger ++ rows }
  refine ⟨hkeyed, fun earlier p later hsplit k b' hk hb' => ?_⟩
  obtain ⟨b, stale, hb, rfl⟩ := hmarked k b' hb'
  exact (h.traced earlier p later hsplit k b hk hb).mono hledger hcode Iff.rfl rfl Iff.rfl

theorem traced_refreshed (hcode : k.currencyCode = db.functionalCurrency k.organizationId)
    (hopened : b.Unopened ∨ rowsIn earlier k db.ledger ≠ []) :
    Traced earlier db k (b.refreshed (movement (keyRows k db.ledger))) :=
  ⟨hcode, b.closed_refreshed _, fun hrows => by rw [hrows]; rfl, hopened⟩

theorem TracedBalances.refresh (h : TracedBalances org periods db) (o a p : UUID) :
    TracedBalances org periods (BalanceWrite.apply (.refresh o a p) db) := by
  refine ⟨keyed_refreshBalance h.keyed o a p, fun earlier q later hsplit k b' hk hb' => ?_⟩
  have htraced := h.traced earlier q later hsplit k
  rw [BalanceWrite.apply] at hb' ⊢
  by_cases hin : k.organizationId = o ∧ k.accountId = a ∧ k.fiscalPeriodId = p ∧
      k.balanceType = .actual
  · by_cases hidle : k.currencyCode = db.functionalCurrency o → keyRows k db.ledger = []
    · rw [balance?_refreshBalance_of_unmoved h.keyed hin hidle, Option.map_eq_some_iff] at hb'
      obtain ⟨b, hb, rfl⟩ := hb'
      have hold := htraced b hk hb
      exact ⟨hold.currency, b.closed_unmoved, fun _ => rfl, hold.opened⟩
    · rw [Classical.not_imp] at hidle
      rw [balance?_refreshBalance_of_rows h.keyed hin hidle.1 hidle.2] at hb'
      obtain rfl := Option.some.inj hb'
      have hcode : k.currencyCode = (refreshBalance o a p db).2.functionalCurrency
          k.organizationId := hin.1 ▸ hidle.1
      refine traced_refreshed hcode ?_
      cases hb : db.balance? k with
      | none => exact Or.inl ⟨rfl, rfl⟩
      | some b => exact (htraced b hk hb).opened
  · rw [balance?_refreshBalance_of_ne h.keyed hin] at hb'
    obtain ⟨hcurrency, hclosed, hstill, hopened⟩ := htraced b' hk hb'
    exact ⟨hcurrency, hclosed, hstill, hopened⟩

theorem TracedBalances.rebuild (h : TracedBalances org periods db) (o p : UUID)
    (ty : BalanceType) : TracedBalances org periods (BalanceWrite.apply (.rebuild o p ty) db) := by
  refine ⟨keyed_rebuild h.keyed o p ty, fun earlier q later hsplit k b' hk hb' => ?_⟩
  rw [BalanceWrite.apply] at hb' ⊢
  by_cases hin : k.organizationId = o ∧ k.fiscalPeriodId = p ∧ k.balanceType = ty
  · by_cases hidle : k.currencyCode = db.functionalCurrency o → keyRows k db.ledger = []
    · rw [balance?_rebuild_of_none h.keyed hin hidle] at hb'
      exact absurd hb' (by simp)
    · rw [Classical.not_imp] at hidle
      rw [balance?_rebuild_of_rows h.keyed hin hidle.1 hidle.2] at hb'
      obtain rfl := Option.some.inj hb'
      exact ⟨hin.1 ▸ hidle.1, ⟨(zero_add _).symm, (zero_add _).symm⟩,
        fun hrows => absurd hrows hidle.2, Or.inl ⟨rfl, rfl⟩⟩
  · rw [balance?_rebuild_of_ne h.keyed hin] at hb'
    obtain ⟨hcurrency, hclosed, hstill, hopened⟩ := h.traced earlier q later hsplit k b' hk hb'
    exact ⟨hcurrency, hclosed, hstill, hopened⟩

theorem split_unique {l l' r r' : List UUID} {q : UUID} (hnodup : (l ++ q :: r).Nodup)
    (heq : l ++ q :: r = l' ++ q :: r') : l = l' := by
  induction l generalizing l' with
  | nil =>
    cases l' with
    | nil => rfl
    | cons x l' =>
      obtain ⟨rfl, rfl⟩ := List.cons.inj heq
      simp at hnodup
  | cons x l ih =>
    rw [List.cons_append, List.nodup_cons] at hnodup
    cases l' with
    | nil =>
      obtain ⟨rfl, -⟩ := List.cons.inj heq
      exact absurd (by simp) hnodup.1
    | cons x' l' =>
      obtain ⟨rfl, htail⟩ := List.cons.inj heq
      rw [ih hnodup.2 htail]

/-- A balance that is brought forward with closing figures has rows in its own period or in an
earlier one. -/
theorem Traced.closing (h : Traced earlier db k b) :
    (b.closingDebit = 0 ∧ b.closingCredit = 0) ∨
      rowsIn (earlier ++ [k.fiscalPeriodId]) k db.ledger ≠ [] := by
  rw [rowsIn_concat_ne_nil]
  by_cases hrows : keyRows k db.ledger = []
  · refine h.opened.imp (fun hopen => ?_) Or.inl
    obtain ⟨hdebit, hcredit⟩ := h.closed.of_unopened hopen
    rw [h.still hrows] at hdebit hcredit
    exact ⟨hdebit, hcredit⟩
  · exact Or.inr (Or.inr hrows)

theorem TracedBalances.rollover (hnodup : periods.Nodup) (h : TracedBalances org periods db)
    {o p q : UUID} {ty : BalanceType}
    (horder : BalanceWrite.InOrder org periods (.rollover o p q ty)) :
    TracedBalances org periods (BalanceWrite.apply (.rollover o p q ty) db) := by
  refine ⟨keyed_rollover h.keyed o p q ty, fun earlier x later hsplit k b' hk hb' => ?_⟩
  have htraced := h.traced earlier x later hsplit k
  rw [BalanceWrite.apply] at hb' ⊢
  by_cases hin : k.organizationId = o ∧ k.fiscalPeriodId = q ∧ k.balanceType = ty
  swap
  · rw [balance?_rollover_of_ne h.keyed (Or.inl hin)] at hb'
    obtain ⟨hcurrency, hclosed, hstill, hopened⟩ := htraced b' hk hb'
    exact ⟨hcurrency, hclosed, hstill, hopened⟩
  cases hs : db.balance? { k with fiscalPeriodId := p } with
  | none =>
    rw [balance?_rollover_of_ne h.keyed (Or.inr hs)] at hb'
    obtain ⟨hcurrency, hclosed, hstill, hopened⟩ := htraced b' hk hb'
    exact ⟨hcurrency, hclosed, hstill, hopened⟩
  | some source =>
    -- the source is the balance of the period before, so its rows are earlier ones
    have hxq : x = q := hk.2.1.symm.trans hin.2.1
    obtain ⟨l, r, hconsecutive⟩ := horder (hin.1.symm.trans hk.1) (hin.2.2.symm.trans hk.2.2)
      (by rw [hsplit, hxq]; simp)
    have hearlier : earlier = l ++ [p] := by
      have hsame : earlier ++ x :: later = (l ++ [p]) ++ q :: r := by
        rw [← hsplit, hconsecutive]
        simp
      rw [hxq] at hsame hsplit
      exact split_unique (hsplit ▸ hnodup) hsame
    have hsource := h.traced l p (q :: r) hconsecutive
      { k with fiscalPeriodId := p } source ⟨hk.1, rfl, hk.2.2⟩ hs
    have hclosing := hsource.closing
    rw [balance?_rollover_of_source h.keyed hin hs] at hb'
    obtain rfl := Option.some.inj hb'
    rw [hearlier]
    cases ht : db.balance? k with
    | some target =>
      have hold := htraced target hk ht
      exact ⟨hold.currency, ⟨rfl, rfl⟩, hold.still, hclosing⟩
    | none =>
      exact ⟨hsource.currency, ⟨(add_zero _).symm, (add_zero _).symm⟩, fun _ => rfl, hclosing⟩

/-- **Every write keeps the balances traced.** -/
theorem TracedBalances.apply (hnodup : periods.Nodup) (h : TracedBalances org periods db)
    {w : BalanceWrite} (horder : w.InOrder org periods) :
    TracedBalances org periods (w.apply db) := by
  cases w with
  | post rows entries => exact h.post rows entries
  | refresh o a p => exact h.refresh o a p
  | rebuild o p ty => exact h.rebuild o p ty
  | rollover o p q ty => exact h.rollover hnodup horder
  | other db' =>
    refine ⟨h.keyed, fun earlier p later hsplit k b hk hb => ?_⟩
    obtain ⟨hcurrency, hclosed, hstill, hopened⟩ := h.traced earlier p later hsplit k b hk hb
    exact ⟨hcurrency, hclosed, hstill, hopened⟩

theorem tracedBalances_of_reachable (hnodup : periods.Nodup)
    (h : (balanceSystem org periods).Reachable db) : TracedBalances org periods db :=
  h.invariant (fun _ => tracedBalances_of_init) fun _ _ _ htraced hstep =>
    hstep.2 ▸ htraced.apply hnodup hstep.1

end Trace

/-! ### A pass of refreshes and rebuilds -/

inductive Recalculation
  | refresh (accountId periodId : UUID)
  | rebuild (periodId : UUID)
  deriving DecidableEq

def Recalculation.write (org : UUID) : Recalculation → BalanceWrite
  | refresh a p => .refresh org a p
  | rebuild p => .rebuild org p .actual

def recalculate (org : UUID) (ops : List Recalculation) (db : Db) : Db :=
  ops.foldl (fun db op => (op.write org).apply db) db

/-- The balances of a period are refreshed: the period is rebuilt, or every account with rows
in it is refreshed. -/
def Recalculates (org : UUID) (ledger : List PostedLedgerLine) (ops : List Recalculation)
    (p : UUID) : Prop :=
  .rebuild p ∈ ops ∨ ∀ r ∈ ledger, r.organizationId = org → r.fiscalPeriodId = p →
    .refresh r.accountId p ∈ ops

instance (org : UUID) (ledger : List PostedLedgerLine) (ops : List Recalculation) (p : UUID) :
    Decidable (Recalculates org ledger ops p) := inferInstanceAs (Decidable (_ ∨ _))

def Recalculation.Reaches (k : BalanceKey) : Recalculation → Prop
  | refresh a p => k.accountId = a ∧ k.fiscalPeriodId = p
  | rebuild p => k.fiscalPeriodId = p

section Recalculate

variable {org : UUID} {periods : List UUID} {db : Db} {k : BalanceKey} {op : Recalculation}
  {ops : List Recalculation}

theorem Recalculation.ledger_apply (org : UUID) (op : Recalculation) (db : Db) :
    ((op.write org).apply db).ledger = db.ledger ∧
      ((op.write org).apply db).functionalCurrency = db.functionalCurrency := by
  cases op <;> exact ⟨rfl, rfl⟩

theorem Recalculation.keyed_apply (org : UUID) (op : Recalculation) (h : db.KeyedBalances) :
    ((op.write org).apply db).KeyedBalances := by
  cases op with
  | refresh a p => exact keyed_refreshBalance h org a p
  | rebuild p => exact keyed_rebuild h org p .actual

theorem Recalculation.fresh_apply (h : db.KeyedBalances) (horg : k.organizationId = org)
    (hty : k.balanceType = .actual) (hcode : k.currencyCode = db.functionalCurrency org)
    (hfresh : Fresh db k ∨ op.Reaches k) : Fresh ((op.write org).apply db) k := by
  intro hrows
  rw [(ledger_apply org op db).1] at hrows ⊢
  cases op with
  | refresh a p =>
    by_cases hin : k.organizationId = org ∧ k.accountId = a ∧ k.fiscalPeriodId = p ∧
        k.balanceType = .actual
    · exact ⟨_, balance?_refreshBalance_of_rows h hin hcode hrows, rfl⟩
    · obtain ⟨b, hb, hshown⟩ := hfresh.resolve_right (fun hr => hin ⟨horg, hr.1, hr.2, hty⟩) hrows
      exact ⟨b, (balance?_refreshBalance_of_ne h hin).trans hb, hshown⟩
  | rebuild p =>
    by_cases hin : k.organizationId = org ∧ k.fiscalPeriodId = p ∧ k.balanceType = .actual
    · exact ⟨_, balance?_rebuild_of_rows h hin hcode hrows, rfl⟩
    · obtain ⟨b, hb, hshown⟩ := hfresh.resolve_right (fun hr => hin ⟨horg, hr, hty⟩) hrows
      exact ⟨b, (balance?_rebuild_of_ne h hin).trans hb, hshown⟩

/-- **A pass of recalculations** keeps the ledger and the key, and every key it reaches is
fresh afterwards. -/
theorem fresh_recalculate (org : UUID) (ops : List Recalculation) (h : db.KeyedBalances) :
    (recalculate org ops db).ledger = db.ledger ∧
      (recalculate org ops db).functionalCurrency = db.functionalCurrency ∧
      ∀ k, k.organizationId = org → k.balanceType = .actual →
        k.currencyCode = db.functionalCurrency org →
        (Fresh db k ∨ ∃ op ∈ ops, op.Reaches k) → Fresh (recalculate org ops db) k := by
  induction ops generalizing db with
  | nil => exact ⟨rfl, rfl, fun k _ _ _ hfresh => hfresh.resolve_right (by simp)⟩
  | cons op ops ih =>
    obtain ⟨hledger, hcode⟩ := op.ledger_apply org db
    obtain ⟨hledger', hcode', hrun⟩ := ih (op.keyed_apply org h)
    refine ⟨hledger'.trans hledger, hcode'.trans hcode, fun k horg hty hk hfresh => ?_⟩
    refine hrun k horg hty (by rw [hcode, hk]) ?_
    rcases hfresh with hfresh | ⟨op', hop', hreaches⟩
    · exact Or.inl (op.fresh_apply h horg hty hk (Or.inl hfresh))
    · cases List.mem_cons.mp hop' with
      | inl heq => exact Or.inl (op.fresh_apply h horg hty hk (Or.inr (heq ▸ hreaches)))
      | inr hmem => exact Or.inr ⟨op', hmem, hreaches⟩

theorem recalculate_run (org : UUID) (periods : List UUID) (ops : List Recalculation) (db : Db) :
    (balanceSystem org periods).Run db (recalculate org ops db) := by
  induction ops generalizing db with
  | nil => exact Relation.ReflTransGen.refl
  | cons op ops ih =>
    have hstep : (balanceSystem org periods).step db (op.write org)
        ((op.write org).apply db) := by
      cases op <;> exact ⟨trivial, rfl⟩
    exact Relation.ReflTransGen.head ⟨_, trivial, hstep⟩ (ih _)

theorem prepared_recalculate (hnodup : periods.Nodup)
    (hs : (balanceSystem org periods).Reachable db) {earlier later : List UUID} {p : UUID}
    (hsplit : periods = earlier ++ p :: later) (hops : Recalculates org db.ledger ops p) :
    Prepared org earlier p (recalculate org ops db) := by
  have hkeyed := (tracedBalances_of_reachable hnodup hs).keyed
  have htraced := tracedBalances_of_reachable hnodup (hs.run (recalculate_run org periods ops db))
  obtain ⟨hledger, hcode, hfresh⟩ := fresh_recalculate org ops hkeyed
  refine ⟨htraced.traced earlier p later hsplit, fun k hk hkcode hrows => ?_⟩
  refine hfresh k hk.1 hk.2.2 (by rw [hkcode, hcode]) (Or.inr ?_) hrows
  rcases hops with hrebuild | hrefresh
  · exact ⟨_, hrebuild, hk.2.1⟩
  · rw [hledger] at hrows
    obtain ⟨r, hr⟩ := List.exists_mem_of_ne_nil _ hrows
    obtain ⟨hr, ho, ha, hp, -⟩ := mem_keyRows.mp hr
    exact ⟨_, hrefresh r hr (ho.trans hk.1) (hp.trans hk.2.1), ha.symm, hk.2.1⟩

theorem upToDate_pass (hnodup : periods.Nodup) (hs : (balanceSystem org periods).Reachable db)
    (hops : ∀ p ∈ periods, Recalculates org db.ledger ops p) :
    UpToDate org periods (rolloverAll org periods (recalculate org ops db)) := by
  have hkeyed := (tracedBalances_of_reachable hnodup
    (hs.run (recalculate_run org periods ops db))).keyed
  refine upToDate_rolloverAll hnodup hkeyed fun earlier p later hsplit => ?_
  exact prepared_recalculate hnodup hs hsplit (hops p (by rw [hsplit]; simp))

/-- **Cumulative balances.** From any state of the balance cache, when every period has been
refreshed or rebuilt and the closing figures have been rolled over in order, the closing
figures of every balance of a period are the sums over the ledger rows of its account and
dimensions up to that period, every account and dimensions with such rows has its balance
there, and a second pass of rollovers changes nothing. -/
theorem cumulative_balances (hnodup : periods.Nodup) (hs : (balanceSystem org periods).Reachable db)
    (hops : ∀ p ∈ periods, Recalculates org db.ledger ops p) :
    (∀ earlier p later, periods = earlier ++ p :: later →
      (∀ i b, (rolloverAll org periods (recalculate org ops db)).balances.get? i = some b →
        InPeriod org p b.key →
        b.closingDebit = (movement (rowsIn (earlier ++ [p]) b.key db.ledger)).debit ∧
          b.closingCredit = (movement (rowsIn (earlier ++ [p]) b.key db.ledger)).credit) ∧
      ∀ r ∈ db.ledger, r.organizationId = org → r.fiscalPeriodId ∈ earlier ++ [p] →
        ∃ i b, (rolloverAll org periods (recalculate org ops db)).balances.get? i = some b ∧
          b.key = ⟨org, r.accountId, p, .actual, db.functionalCurrency org, r.dimensions⟩) ∧
    rolloverAll org periods (rolloverAll org periods (recalculate org ops db)) =
      rolloverAll org periods (recalculate org ops db) := by
  have hkeyed := (tracedBalances_of_reachable hnodup
    (hs.run (recalculate_run org periods ops db))).keyed
  obtain ⟨hledger, hcode, -⟩ := fresh_recalculate org ops
    (tracedBalances_of_reachable hnodup hs).keyed
  have hpass := upToDate_pass hnodup hs hops
  obtain ⟨hledger', hcode'⟩ := ledger_rolloverAll org periods (recalculate org ops db)
  refine ⟨fun earlier p later hsplit => ⟨fun i b hb hin => ?_, fun r hr ho hp => ?_⟩, ?_⟩
  · have hclosing := (hpass.cumulative hnodup hsplit).closing b.key b hin
      (hpass.keyed.at?_of_get? hb)
    rw [hledger', hledger] at hclosing
    exact hclosing
  · have hpresent := (hpass.cumulative hnodup hsplit).present
      ⟨org, r.accountId, p, .actual, db.functionalCurrency org, r.dimensions⟩
      ⟨rfl, rfl, rfl⟩ (by rw [hcode', hcode])
    rw [hledger', hledger] at hpresent
    obtain ⟨b, hb⟩ := hpresent (List.ne_nil_of_mem (a := r)
      (mem_rowsIn.mpr ⟨hr, ho, rfl, rfl, hp⟩))
    obtain ⟨i, hi⟩ := Table.exists_of_at? hb
    exact ⟨i, b, hi, Table.key_of_at? hb⟩
  · refine rolloverAll_eq_self hpass.keyed fun l x y r heq => ?_
    cases periods with
    | nil => exact absurd heq (by simp)
    | cons p rest => exact rolledFrom_rolloverAll hkeyed hnodup l x y r heq

end Recalculate

/-- January or February 2024 of organization 1. -/
def monthOf2024 (month : ℕ) (valid : 1 ≤ month ∧ month ≤ 2) : FiscalPeriod where
  organizationId := 1
  fiscalYearId := 0
  periodNumber := month
  periodName := s!"2024-{month}"
  startDate := ⟨2024, month, 1, by
    rcases (by omega : month = 1 ∨ month = 2) with rfl | rfl <;> decide⟩
  endDate := ⟨2024, month, 28, by
    rcases (by omega : month = 1 ∨ month = 2) with rfl | rfl <;> decide⟩
  isAdjustmentPeriod := false
  isClosingPeriod := false
  status := .open
  softClosedByUserId := none
  hardClosedByUserId := none
  reopenCount := 0
  lastReopenSessionId := none

def twoPeriods : Db where
  accounts := ((Table.empty.insert ⟨1, "1000", "Cash", true⟩).insert
    ⟨1, "4000", "Sales", true⟩).insert ⟨1, "4100", "Services", true⟩
  fiscalPeriods := (Table.empty.insert (monthOf2024 1 (by decide))).insert
    (monthOf2024 2 (by decide))
  ledger := [plainLine 0 0 0 100 0, plainLine 0 1 0 0 100, plainLine 1 0 1 30 0,
    plainLine 1 2 1 0 30]

def twoPeriodsPass : List Recalculation := [.refresh 0 0, .rebuild 1, .refresh 1 0]

theorem twoPeriods_reachable : (balanceSystem 1 [0, 1]).Reachable twoPeriods :=
  ⟨twoPeriods, rfl, Relation.ReflTransGen.refl⟩

theorem twoPeriodsPass_covers :
    ∀ p ∈ [0, 1], Recalculates 1 twoPeriods.ledger twoPeriodsPass p := by decide

theorem cumulative_balances_sample :
    let rolled := rolloverAll 1 [0, 1] (recalculate 1 twoPeriodsPass twoPeriods)
    (∀ i b, rolled.balances.get? i = some b → InPeriod 1 1 b.key →
      b.closingDebit = (movement (rowsIn [0, 1] b.key twoPeriods.ledger)).debit ∧
        b.closingCredit = (movement (rowsIn [0, 1] b.key twoPeriods.ledger)).credit) ∧
      rolloverAll 1 [0, 1] rolled = rolled := by
  intro rolled
  have hrun := cumulative_balances (by decide) twoPeriods_reachable twoPeriodsPass_covers
  exact ⟨(hrun.1 [0] 1 [] rfl).1, hrun.2⟩

end DotmacErp
