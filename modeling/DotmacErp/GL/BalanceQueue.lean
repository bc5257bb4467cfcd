import DotmacErp.Foundation.Scripts
import DotmacErp.GL.BalanceRuns
import DotmacErp.GL.LedgerIdentity
import DotmacErp.GL.PostingContract
import Mathlib.Data.Prod.Lex

/-!
# The refresh queue

A posting marks the balances it touches as stale and queues their account and period;
`process_queue` refreshes what waits for the organization of its session, and the relay of posting
events refreshes the accounts and periods of a batch. In any order of these, of rebuilds and of
rollovers, a balance that does not show its ledger rows waits in the queue, and one call for all
that waits brings every balance up to date (`queue_loses_nothing`).

The mark alone would not do: a rollover clears it on a balance that has not been refreshed.

When an entry was invalidated comes with the call; one call runs at a time.
-/

namespace DotmacErp

open Relational Session AccountBalanceService BalanceRefreshService
  BalanceInvalidationService LedgerPostingService

/-! ### The worker and the relay -/

namespace BalanceRefreshService

/-- The entries of an organization that wait, those invalidated first before the others. -/
def pendingEntries (org : UUID) (invalidatedAt : UUID → ℕ) (db : Db) :
    List (Stored BalanceRefreshQueue) :=
  (db.balanceRefreshQueue.select fun q =>
      decide (q.organizationId = org ∧ q.processed = false)).insertionSort
    fun q r => invalidatedAt q.id ≤ invalidatedAt r.id

def processEntry (db : Db) (id : UUID) : Db :=
  match db.balanceRefreshQueue.get? id with
  | none => db
  | some entry =>
    let refreshed :=
      (refreshBalance entry.organizationId entry.accountId entry.fiscalPeriodId db).2
    { refreshed with
      balanceRefreshQueue :=
        db.balanceRefreshQueue.modify id fun q => { q with processed := true } }

def processQueue (org : UUID) (batchSize : ℕ) (invalidatedAt : UUID → ℕ) (db : Db) :
    Db :=
  (((pendingEntries org invalidatedAt db).take batchSize).map Stored.id).foldl
    processEntry db

end BalanceRefreshService

/-- `handle_ledger_posting_completed`, of an event with its batch and organization. -/
def handleLedgerPostingCompleted (org batchId : UUID) (db : Db) : Db :=
  let lines := db.ledger.filter fun line => decide (line.postingBatchId = batchId)
  let refreshKeys := (lines.map fun line => (line.accountId, line.fiscalPeriodId)).dedup
  (refreshKeys.insertionSort fun a b => toLex a ≤ toLex b).foldl
    (fun db key => (refreshBalance org key.1 key.2 db).2) db

inductive CacheCall
  | post (request : PostingRequest)
  | processQueue (org : UUID) (batchSize : ℕ) (invalidatedAt : UUID → ℕ)
  | deliver (org batchId : UUID)
  | rebuild (org periodId : UUID) (balanceType : BalanceType)
  | rollover (org fromPeriodId toPeriodId : UUID) (balanceType : BalanceType)
  | other (db : Db)

/-- The database after a call. Other calls leave the ledger, the balances and their queue. -/
def CacheCall.after (db : Db) : CacheCall → Db
  | post request => commit (postJournalEntry request) db
  | processQueue o batchSize invalidatedAt =>
    BalanceRefreshService.processQueue o batchSize invalidatedAt db
  | deliver o batchId => handleLedgerPostingCompleted o batchId db
  | rebuild o p ty => (rebuildBalancesForPeriod o p ty db).2
  | rollover o p q ty => (rolloverOpeningBalances o p q ty db).2
  | other db' =>
    { db' with
      ledger := db.ledger
      balances := db.balances
      balanceRefreshQueue := db.balanceRefreshQueue
      functionalCurrency := db.functionalCurrency }

def cacheSystem : System Db CacheCall :=
  .ofFunction (fun db => db.balances.rows = [] ∧ db.ledger = []) CacheCall.after

/-! ### What waits and what is shown -/

/-- The account and period wait in the queue. -/
def Waits (queue : Table BalanceRefreshQueue) (k : BalanceKey) : Prop :=
  ∃ i q, queue.get? i = some q ∧ q.organizationId = k.organizationId ∧
    q.accountId = k.accountId ∧ q.fiscalPeriodId = k.fiscalPeriodId ∧ q.processed = false

/-- The balance of a key shows the movement of its rows and is not stale. Where there is no balance
there are no rows. -/
def ShowsLedger (db : Db) (k : BalanceKey) : Prop :=
  match db.balance? k with
  | some b => b.shown = movement (keyRows k db.ledger) ∧ b.isStale = false
  | none => keyRows k db.ledger = []

/-- The keys the refresh writes: actual balances in the functional currency. -/
def IsKept (db : Db) (k : BalanceKey) : Prop :=
  k.balanceType = .actual ∧ k.currencyCode = db.functionalCurrency k.organizationId

/-- A balance that does not show its rows waits. -/
structure QueueCovers (db : Db) : Prop where
  keyed : db.KeyedBalances
  covers : ∀ k, IsKept db k → Waits db.balanceRefreshQueue k ∨ ShowsLedger db k

variable {db db' : Db} {k : BalanceKey} {o a p q : UUID}

theorem showsLedger_iff_of_same (hbalance : db'.balance? k = db.balance? k)
    (hledger : keyRows k db'.ledger = keyRows k db.ledger) :
    ShowsLedger db' k ↔ ShowsLedger db k := by
  rw [ShowsLedger, ShowsLedger, hbalance, hledger]

/-! ### Refreshing -/

theorem showsLedger_refresh (h : db.KeyedBalances) (hk : IsKept db k) (ho : k.organizationId = o)
    (ha : k.accountId = a) (hp : k.fiscalPeriodId = p) :
    ShowsLedger (refreshBalance o a p db).2 k := by
  have hcode : k.currencyCode = db.functionalCurrency o := ho ▸ hk.2
  by_cases hrows : keyRows k db.ledger = []
  · rw [ShowsLedger, balance?_refreshBalance_of_unmoved h ⟨ho, ha, hp, hk.1⟩ fun _ => hrows]
    cases db.balance? k with
    | none => exact hrows
    | some b => exact ⟨(congrArg movement hrows).symm, rfl⟩
  · rw [ShowsLedger, balance?_refreshBalance_of_rows h ⟨ho, ha, hp, hk.1⟩ hcode hrows]
    exact ⟨rfl, rfl⟩

theorem showsLedger_of_refresh (h : db.KeyedBalances) (hk : IsKept db k)
    (hshows : ShowsLedger db k) : ShowsLedger (refreshBalance o a p db).2 k := by
  by_cases hin : k.organizationId = o ∧ k.accountId = a ∧ k.fiscalPeriodId = p
  · exact showsLedger_refresh h hk hin.1 hin.2.1 hin.2.2
  · have hsame : (refreshBalance o a p db).2.balance? k = db.balance? k :=
      balance?_refreshBalance_of_ne h fun hall => hin ⟨hall.1, hall.2.1, hall.2.2.1⟩
    exact (showsLedger_iff_of_same hsame rfl).mpr hshows

theorem QueueCovers.refresh (h : QueueCovers db) (o a p : UUID) :
    QueueCovers (refreshBalance o a p db).2 where
  keyed := keyed_refreshBalance h.keyed o a p
  covers := fun k hk => (h.covers k hk).imp_right fun hshows =>
    showsLedger_of_refresh h.keyed hk hshows

theorem QueueCovers.refreshAll (h : QueueCovers db) (o : UUID) (keys : List (UUID × UUID)) :
    QueueCovers (keys.foldl (fun db key => (refreshBalance o key.1 key.2 db).2) db) := by
  induction keys generalizing db with
  | nil => exact h
  | cons key rest ih => exact ih (h.refresh o key.1 key.2)

theorem processEntry_frame (db : Db) (id : UUID) :
    (processEntry db id).ledger = db.ledger ∧
      (processEntry db id).functionalCurrency = db.functionalCurrency ∧
      ∀ i q, (processEntry db id).balanceRefreshQueue.get? i = some q → q.processed = false →
        i ≠ id ∧ db.balanceRefreshQueue.get? i = some q := by
  rw [processEntry]
  cases hid : db.balanceRefreshQueue.get? id with
  | none =>
    refine ⟨rfl, rfl, fun i q hq _ => ⟨?_, hq⟩⟩
    rintro rfl
    exact absurd (hid.symm.trans hq) nofun
  | some entry =>
    refine ⟨rfl, rfl, fun i q hq hwaits => ?_⟩
    rw [Table.get?_modify] at hq
    split_ifs at hq with hi
    · obtain ⟨q₀, -, rfl⟩ := Option.map_eq_some_iff.mp hq
      exact absurd hwaits (by simp)
    · exact ⟨hi, hq⟩

theorem QueueCovers.processEntry (h : QueueCovers db) (id : UUID) :
    QueueCovers (processEntry db id) := by
  rw [BalanceRefreshService.processEntry]
  cases hid : db.balanceRefreshQueue.get? id with
  | none => exact h
  | some entry =>
    refine ⟨keyed_refreshBalance h.keyed _ _ _, fun k hk => ?_⟩
    by_cases hin : k.organizationId = entry.organizationId ∧ k.accountId = entry.accountId ∧
        k.fiscalPeriodId = entry.fiscalPeriodId
    · exact .inr (showsLedger_refresh h.keyed hk hin.1 hin.2.1 hin.2.2)
    · refine (h.covers k hk).imp ?_ (showsLedger_of_refresh h.keyed hk)
      rintro ⟨i, q, hq, ho, ha, hp, hwaits⟩
      have hne : i ≠ id := by
        rintro rfl
        obtain rfl := Option.mem_unique hid hq
        exact hin ⟨ho.symm, ha.symm, hp.symm⟩
      exact ⟨i, q, (Table.get?_modify_of_ne hne _).trans hq, ho, ha, hp, hwaits⟩

theorem QueueCovers.processEntries (h : QueueCovers db) (ids : List UUID) :
    QueueCovers (ids.foldl BalanceRefreshService.processEntry db) := by
  induction ids generalizing db with
  | nil => exact h
  | cons id rest ih => exact ih (h.processEntry id)

/-- After the loop the entries are processed, and the others are as they were. -/
theorem processEntries_queue (ids : List UUID) (db : Db) :
    (ids.foldl processEntry db).ledger = db.ledger ∧
      (ids.foldl processEntry db).functionalCurrency = db.functionalCurrency ∧
      ∀ i q, (ids.foldl processEntry db).balanceRefreshQueue.get? i = some q →
        q.processed = false → i ∉ ids ∧ db.balanceRefreshQueue.get? i = some q := by
  induction ids generalizing db with
  | nil => exact ⟨rfl, rfl, fun i q hq _ => ⟨List.not_mem_nil, hq⟩⟩
  | cons id rest ih =>
    obtain ⟨hledger, hcode, hqueue⟩ := ih (processEntry db id)
    obtain ⟨hledger', hcode', hqueue'⟩ := processEntry_frame db id
    refine ⟨hledger.trans hledger', hcode.trans hcode', fun i q hq hwaits => ?_⟩
    obtain ⟨hrest, hq⟩ := hqueue i q hq hwaits
    obtain ⟨hi, hbefore⟩ := hqueue' i q hq hwaits
    exact ⟨fun hmem => (List.mem_cons.mp hmem).elim hi hrest, hbefore⟩

/-! ### Rebuilding and rolling over -/

theorem QueueCovers.rebuild (h : QueueCovers db) (o p : UUID) (ty : BalanceType) :
    QueueCovers (rebuildBalancesForPeriod o p ty db).2 := by
  refine ⟨keyed_rebuild h.keyed o p ty, fun k hk => (h.covers k hk).imp_right fun hshows => ?_⟩
  by_cases hin : k.organizationId = o ∧ k.fiscalPeriodId = p ∧ k.balanceType = ty
  · have hcode : k.currencyCode = db.functionalCurrency o := hin.1 ▸ hk.2
    by_cases hrows : keyRows k db.ledger = []
    · rw [ShowsLedger, balance?_rebuild_of_none h.keyed hin fun _ => hrows]
      exact hrows
    · rw [ShowsLedger, balance?_rebuild_of_rows h.keyed hin hcode hrows]
      exact ⟨rfl, rfl⟩
  · exact (showsLedger_iff_of_same (balance?_rebuild_of_ne h.keyed hin) rfl).mpr hshows

theorem QueueCovers.rollover (h : QueueCovers db) (o p q : UUID) (ty : BalanceType) :
    QueueCovers (rolloverOpeningBalances o p q ty db).2 := by
  refine ⟨keyed_rollover h.keyed o p q ty, fun k hk => (h.covers k hk).imp_right fun hshows => ?_⟩
  have hsame (hne : ¬ (k.organizationId = o ∧ k.fiscalPeriodId = q ∧ k.balanceType = ty) ∨
      db.balance? { k with fiscalPeriodId := p } = none) :=
    (showsLedger_iff_of_same (balance?_rollover_of_ne h.keyed hne) rfl).mpr hshows
  by_cases hin : k.organizationId = o ∧ k.fiscalPeriodId = q ∧ k.balanceType = ty
  · cases hsource : db.balance? { k with fiscalPeriodId := p } with
    | none => exact hsame (.inr hsource)
    | some source =>
      -- the movement of the target stays, and a new target has no rows
      rw [ShowsLedger, balance?_rollover_of_source h.keyed hin hsource]
      rw [ShowsLedger] at hshows
      cases htarget : db.balance? k with
      | some b =>
        rw [htarget] at hshows
        exact ⟨hshows.1, rfl⟩
      | none =>
        rw [htarget] at hshows
        exact ⟨(congrArg movement hshows).symm, rfl⟩
  · exact hsame (.inl hin)

/-! ### Posting -/

theorem waits_invalidate (hk : (k.organizationId = o ∧ k.accountId = a ∧ k.fiscalPeriodId = p) ∨
      Waits db.balanceRefreshQueue k) :
    Waits (invalidate o a p db).balanceRefreshQueue k := by
  rw [invalidate]
  cases hfind : db.balanceRefreshQueue.find? fun q => q.organizationId = o ∧ q.accountId = a ∧
      q.fiscalPeriodId = p with
  | none =>
    rcases hk with ⟨rfl, rfl, rfl⟩ | ⟨i, q, hq, hkey⟩
    · exact ⟨_, _, Table.get?_insert_self _ _, rfl, rfl, rfl, rfl⟩
    · exact ⟨i, q, Table.get?_insert_of_some hq _, hkey⟩
  | some entry =>
    obtain ⟨hentry, hkey⟩ := Table.find?_eq_some hfind
    obtain ⟨ho, ha, hp⟩ := of_decide_eq_true hkey
    rcases hk with ⟨rfl, rfl, rfl⟩ | ⟨i, q, hq, hkey, hprocessed⟩
    · exact ⟨entry.id, { entry.row with processed := false },
        by rw [Table.get?_modify_self, hentry]; rfl, ho, ha, hp, rfl⟩
    · by_cases hi : i = entry.id
      · exact ⟨i, { q with processed := false }, by rw [hi, Table.get?_modify_self, ← hi, hq]; rfl,
          hkey, hprocessed.1, hprocessed.2.1, rfl⟩
      · exact ⟨i, q, (Table.get?_modify_of_ne hi _).trans hq, hkey, hprocessed⟩

def BalanceKey.entry (k : BalanceKey) : UUID × UUID × UUID :=
  (k.organizationId, k.accountId, k.fiscalPeriodId)

theorem balance?_invalidate_of_ne (h : db.KeyedBalances) (hne : k.entry ≠ (o, a, p)) :
    (invalidate o a p db).balance? k = db.balance? k := by
  have hmark := h.at?_update (k := k)
    (p := fun b => b.organizationId = o ∧ b.accountId = a ∧ b.fiscalPeriodId = p ∧
      b.balanceType = .actual)
    (f := fun b => { b with isStale := true }) fun _ _ => rfl
  refine hmark.trans (.trans (Option.map_congr fun b hb => ?_) Option.map_id')
  refine if_neg fun hmarked => hne ?_
  obtain ⟨ho, ha, hp, -⟩ := of_decide_eq_true hmarked
  rw [← Table.key_of_at? hb, ← ho, ← ha, ← hp]
  rfl

/-- **Invalidation** queues its entries, keeps what waits and leaves the other balances. -/
theorem invalidateBatch_spec (h : db.KeyedBalances) (entries : List (UUID × UUID × UUID)) :
    (invalidateBatch entries db).KeyedBalances ∧ ∀ k,
      (k.entry ∈ entries ∨ Waits db.balanceRefreshQueue k →
        Waits (invalidateBatch entries db).balanceRefreshQueue k) ∧
      (k.entry ∉ entries → (invalidateBatch entries db).balance? k = db.balance? k) := by
  simp only [invalidateBatch, ← List.mem_dedup (l := entries)]
  induction entries.dedup generalizing db with
  | nil => exact ⟨h, fun k => ⟨fun hk => hk.resolve_left List.not_mem_nil, fun _ => rfl⟩⟩
  | cons entry rest ih =>
    have hkeyed : (invalidate entry.1 entry.2.1 entry.2.2 db).KeyedBalances :=
      h.update fun _ _ => rfl
    obtain ⟨hkept, hrest⟩ := ih hkeyed
    refine ⟨hkept, fun k => ⟨fun hk => (hrest k).1 ?_, fun hk => ?_⟩⟩
    · rw [List.mem_cons, or_assoc] at hk
      rcases hk with rfl | hk | hk
      · exact .inr (waits_invalidate (.inl ⟨rfl, rfl, rfl⟩))
      · exact .inl hk
      · exact .inr (waits_invalidate (.inr hk))
    · rw [List.mem_cons, not_or] at hk
      exact ((hrest k).2 hk.2).trans (balance?_invalidate_of_ne h hk.1)

theorem invalidateBatch_congr (entries : List (UUID × UUID × UUID))
    (hbalances : db'.balances = db.balances)
    (hqueue : db'.balanceRefreshQueue = db.balanceRefreshQueue) :
    (invalidateBatch entries db').balances = (invalidateBatch entries db).balances ∧
      (invalidateBatch entries db').balanceRefreshQueue =
        (invalidateBatch entries db).balanceRefreshQueue := by
  rw [invalidateBatch, invalidateBatch]
  induction entries.dedup generalizing db db' with
  | nil => exact ⟨hbalances, hqueue⟩
  | cons entry rest ih =>
    refine ih ?_ ?_
    · simp only [invalidate, hbalances]
    · simp only [invalidate, hqueue]

section Posting

variable {request : PostingRequest} {journal : JournalEntry} {batchId periodId : UUID}
  {entries : List PostingEntry} {result : PostingResult}

/-- What a posting does to the cache: its rows are appended and their keys invalidated. -/
def Posts (db db' : Db) : Prop :=
  ∃ (o : UUID) (rows : List PostedLedgerLine), (∀ r ∈ rows, r.organizationId = o) ∧
    db'.ledger = db.ledger ++ rows ∧ db'.functionalCurrency = db.functionalCurrency ∧
    db'.balances =
      (invalidateBatch (rows.map fun r => (o, r.accountId, r.fiscalPeriodId)) db).balances ∧
    db'.balanceRefreshQueue = (invalidateBatch
      (rows.map fun r => (o, r.accountId, r.fiscalPeriodId)) db).balanceRefreshQueue

theorem posts_writePosting
    (h : writePosting request journal batchId periodId entries db = .ok result db') :
    Posts db db' := by
  rw [writePosting, get_bind, refuse_bind, modify_bind, modify_bind] at h
  obtain ⟨-, h⟩ := h
  set rows := ledgerLines db request journal batchId periodId entries with hrows
  refine ⟨request.organizationId, rows, fun r hr => ?_, ?_⟩
  · rw [hrows, ledgerLines, List.mem_mapIdx] at hr
    obtain ⟨i, hi, rfl⟩ := hr
    rfl
  set appended : Db :=
    { db with ledger := db.ledger ++ rows, nextLineId := db.nextLineId + entries.length }
  have hbefore : appended.balances = db.balances := rfl
  obtain ⟨hbalances, hqueue⟩ := invalidateBatch_congr
    (rows.map fun r => (request.organizationId, r.accountId, r.fiscalPeriodId)) hbefore rfl
  rw [← hbalances, ← hqueue]
  obtain ⟨balances, queue, hframe⟩ := invalidateBatch_frame
    (rows.map fun r => (request.organizationId, r.accountId, r.fiscalPeriodId)) appended
  rw [hframe] at h ⊢
  obtain ⟨_, s₁, hbatch, h⟩ := bind_eq_ok.mp h
  obtain rfl := modifyBatch_eq_ok.mp hbatch
  obtain ⟨_, s₂, hjournal, h⟩ := bind_eq_ok.mp h
  obtain rfl := modifyJournal_eq_ok.mp hjournal
  obtain ⟨_, s₃, hevent, h⟩ := bind_eq_ok.mp h
  rw [publishPostingEvent, get_bind, refuse_bind, modify_eq_ok] at hevent
  obtain ⟨_, rfl⟩ := hevent
  obtain ⟨-, rfl⟩ := pure_eq_ok.mp h
  exact ⟨rfl, rfl, rfl, rfl⟩

/-- **A posting that returns** is a replay, or appends its rows and invalidates their keys. -/
theorem posts_of_postJournalEntry (h : postJournalEntry request db = .ok result db') :
    db' = db ∨ Posts db db' := by
  rw [postJournalEntry, refuse_bind] at h
  obtain ⟨-, h⟩ := h
  obtain ⟨x, s₁, hclaim, hrest⟩ := bind_eq_ok.mp h
  rcases claimKey_eq_ok hclaim with ⟨_, rfl, -, -, -, rfl⟩ | ⟨claim, rfl, -, hbatches⟩
  · exact .inl (pure_eq_ok.mp hrest).2
  refine .inr ?_
  have hs₁ : s₁ = { db with batches := s₁.batches } := by
    rcases hbatches with ⟨rfl, _⟩ | ⟨_, _, _, _, rfl⟩ <;> rfl
  generalize s₁.batches = batches at hs₁
  subst hs₁
  obtain ⟨journal, _, hjournal, h⟩ := bind_eq_ok.mp hrest
  obtain ⟨-, -, -, rfl⟩ := loadPostable_eq_ok.mp hjournal
  obtain ⟨periodId, s₂, hperiod, h⟩ := bind_eq_ok.mp h
  obtain ⟨-, years, hs₂⟩ := PeriodGuardService.requireOpenPeriod_gated hperiod
  generalize s₂.fiscalPeriods = periods at hs₂
  subst hs₂
  obtain ⟨_, _, hbalance, h⟩ := bind_eq_ok.mp h
  obtain ⟨-, rfl⟩ := validateBalance_eq_ok hbalance
  obtain ⟨_, _, hsigns, h⟩ := bind_eq_ok.mp h
  obtain rfl := validateFunctionalAmounts_eq_ok hsigns
  obtain ⟨batchId, s₃, hopen, h⟩ := bind_eq_ok.mp h
  obtain ⟨-, hs₃⟩ := openBatch_eq_ok hopen
  generalize s₃.batches = batches₃ at hs₃
  subst hs₃
  -- what comes before the writing leaves the ledger, the balances and the queue
  obtain ⟨o, rows, horg, hledger, hcode, hbalances, hqueue⟩ := posts_writePosting h
  have hbefore : ({ db with batches := batches₃, fiscalYears := years, fiscalPeriods := periods } :
      Db).balances = db.balances := rfl
  obtain ⟨hsame, hsame'⟩ := invalidateBatch_congr
    (rows.map fun r => (o, r.accountId, r.fiscalPeriodId)) hbefore rfl
  exact ⟨o, rows, horg, hledger, hcode, hbalances.trans hsame, hqueue.trans hsame'⟩

end Posting

theorem QueueCovers.posts (h : QueueCovers db) (hposts : Posts db db') : QueueCovers db' := by
  obtain ⟨o, rows, horg, hledger, hcode, hbalances, hqueue⟩ := hposts
  obtain ⟨hkeyed, hspec⟩ := invalidateBatch_spec h.keyed
    (rows.map fun r => (o, r.accountId, r.fiscalPeriodId))
  refine ⟨by rw [Db.KeyedBalances, hbalances]; exact hkeyed, fun k hk => ?_⟩
  rw [hqueue]
  rw [IsKept, hcode] at hk
  by_cases hin : k.entry ∈ rows.map fun r => (o, r.accountId, r.fiscalPeriodId)
  · exact .inl ((hspec k).1 (.inl hin))
  · refine (h.covers k hk).imp (fun hwaits => (hspec k).1 (.inr hwaits)) fun hshows => ?_
    refine (showsLedger_iff_of_same ?_ ?_).mpr hshows
    · rw [Db.balance?, hbalances]
      exact (hspec k).2 hin
    · have hnone : keyRows k rows = [] := List.eq_nil_iff_forall_not_mem.mpr fun r hr => by
        obtain ⟨hr, ho, ha, hp, -⟩ := mem_keyRows.mp hr
        refine hin (List.mem_map.mpr ⟨r, hr, ?_⟩)
        rw [← horg r hr, ho, ha, hp]
        rfl
      rw [hledger, keyRows_append, hnone, List.append_nil]

/-! ### Every run -/

/-- **Every call** keeps what is out of date in the queue. -/
theorem QueueCovers.after (h : QueueCovers db) (call : CacheCall) :
    QueueCovers (call.after db) := by
  cases call with
  | post request =>
    refine commit_induction (P := QueueCovers) h fun result db' hpost => ?_
    rcases posts_of_postJournalEntry hpost with rfl | hposts
    · exact h
    · exact h.posts hposts
  | processQueue o batchSize invalidatedAt => exact h.processEntries _
  | deliver o batchId => exact h.refreshAll o _
  | rebuild o p ty => exact h.rebuild o p ty
  | rollover o p q ty => exact h.rollover o p q ty
  | other db' => exact ⟨h.keyed, h.covers⟩

/-- **The queue loses nothing.** In every state that is reached a balance in the functional
currency shows the sums of its ledger rows and is not stale, or its account and period wait in the
queue; and a call that takes all that waits for an organization brings every one of its balances
up to date. -/
theorem queue_loses_nothing (h : cacheSystem.Reachable db) :
    (∀ k, IsKept db k → Waits db.balanceRefreshQueue k ∨ ShowsLedger db k) ∧
    ∀ org batchSize invalidatedAt,
      (pendingEntries org invalidatedAt db).length ≤ batchSize →
      ∀ k, IsKept db k → k.organizationId = org →
        ShowsLedger (processQueue org batchSize invalidatedAt db) k := by
  have hcovers : QueueCovers db := by
    refine h.invariant (P := QueueCovers) (fun db hinit => ?_) ?_
    · have hkeyed := keyed_of_rows_nil hinit.1
      refine ⟨hkeyed, fun k _ => .inr ?_⟩
      have hnone : db.balance? k = none := Table.at?_eq_none.mpr fun i b hb => by
        rw [Table.get?_eq_some, hinit.1] at hb
        exact absurd hb List.not_mem_nil
      rw [ShowsLedger, hnone, hinit.2]
      rfl
    · rintro db call db' hdb rfl
      exact hdb.after call
  refine ⟨hcovers.covers, fun o batchSize invalidatedAt hsize k hk ho => ?_⟩
  have hafter := hcovers.processEntries
    (((pendingEntries o invalidatedAt db).take batchSize).map Stored.id)
  obtain ⟨-, hcode, hqueue⟩ := processEntries_queue
    (((pendingEntries o invalidatedAt db).take batchSize).map Stored.id) db
  rw [List.take_of_length_le hsize] at hafter hcode hqueue
  rw [processQueue, List.take_of_length_le hsize]
  refine (hafter.covers k ⟨hk.1, by rw [hcode]; exact hk.2⟩).resolve_left ?_
  rintro ⟨i, q, hq, horg, -, -, hwaits⟩
  obtain ⟨hnot, hbefore⟩ := hqueue i q hq hwaits
  refine hnot (List.mem_map.mpr ⟨⟨i, q⟩, ?_, rfl⟩)
  rw [pendingEntries, List.mem_insertionSort, Table.mem_select, decide_eq_true_eq]
  exact ⟨hbefore, horg.trans ho, hwaits⟩

/-- The sale of January, approved and then posted. -/
def queuedDb : Db :=
  System.after CacheCall.after sampleDb
    [.other (sampleDb.after (sampleCalls.take 3)),
      .post
        { organizationId := 0
          journalEntryId := 0
          postingDate := january
          idempotencyKey := "sale"
          sourceModule := "GL" }]

/-- The cash and revenue balances of the sale wait, and two entries bring them up to date. -/
theorem queue_loses_nothing_sample :
    ((pendingEntries 0 id queuedDb).map fun q => q.row.accountId) = [0, 1] ∧
      ∀ k, IsKept queuedDb k → k.organizationId = 0 →
        ShowsLedger (processQueue 0 2 id queuedDb) k := by
  have hpending : ((pendingEntries 0 id queuedDb).map fun q => q.row.accountId) = [0, 1] := by
    decide +kernel
  have hsize : (pendingEntries 0 id queuedDb).length = 2 := by
    simpa using congrArg List.length hpending
  exact ⟨hpending, (queue_loses_nothing (System.reachable_after ⟨rfl, rfl⟩ _)).2 0 2 id hsize.le⟩

end DotmacErp
