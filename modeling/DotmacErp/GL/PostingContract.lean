import DotmacErp.GL.IdempotencyKey

/-!
# The contract of ledger posting

What `post_journal_entry` has done when it returns, stated once for every later proof.

A return is a replay or a posting. A replay (`LiveKey`) leaves the database as it was and says
nothing about the journal of the request. A posting is described by `Written`, the journal,
the batch and the period it went to: the gate it passed, the rows it appended, the journal and
batch it updated, and what it left alone.

The validations of the entries turn into facts about the rows: they balance at the stored
scale (`Written.balanced`).
-/

namespace DotmacErp

open Relational Session

namespace LedgerPostingService

variable {s s' : Db} {request : PostingRequest} {journal : JournalEntry}
  {batchId periodId : UUID} {result : PostingResult}

def rowsOf (s : Db) (request : PostingRequest) (journal : JournalEntry)
    (batchId periodId : UUID) : List PostedLedgerLine :=
  ledgerLines s request journal batchId periodId (requestEntries request journal)

/-! ### The batch -/

/-- What a claim makes of the batch table: the batch the rows go to, and the table with it. -/
def Opened (request : PostingRequest) (journal : JournalEntry) (periodId : UUID) (n : ℕ)
    (batches batches' : Table PostingBatch) (batchId : UUID) : Claim → Prop
  | .fresh =>
    batchId = batches.next ∧
      batches' = batches.insert (newBatch request journal periodId n)
  | .superseded batch =>
    batchId = batches.next ∧
      batches' = (batches.modify batch.id fun b =>
          { b with idempotencyKey := retiredKey batch.row.idempotencyKey batch.id }).insert
        (newBatch request journal periodId n)
  | .retry k =>
    batchId = k ∧
      batches' = batches.modify k fun batch =>
        { batch with
          organizationId := request.organizationId
          fiscalPeriodId := periodId
          sourceModule := request.sourceModule
          batchDescription := some ("Journal " ++ journal.journalNumber)
          totalEntries := n
          correlationId := request.correlationId }

theorem insertBatch_eq_ok {batch : PostingBatch} (h : insertBatch batch s = .ok batchId s') :
    batchId = s.batches.next ∧ s' = { s with batches := s.batches.insert batch } := by
  rw [insertBatch, get_bind, refuse_bind, refuse_bind, modify_bind,
    pure_eq_ok] at h
  exact h.2.2

variable {n : ℕ} {claim : Claim}

theorem openBatch_eq_ok (h : openBatch request journal periodId n claim s = .ok batchId s') :
    Opened request journal periodId n s.batches s'.batches batchId claim ∧
      s' = { s with batches := s'.batches } := by
  cases claim with
  | fresh =>
    obtain ⟨rfl, rfl⟩ := insertBatch_eq_ok h
    exact ⟨⟨rfl, rfl⟩, rfl⟩
  | superseded batch =>
    obtain ⟨_, s₁, hretire, h⟩ := bind_eq_ok.mp h
    rw [retireSupersededBatchKey, get_bind, refuse_bind, modifyBatch_eq_ok] at hretire
    obtain ⟨_, rfl⟩ := hretire
    obtain ⟨rfl, rfl⟩ := insertBatch_eq_ok h
    exact ⟨⟨rfl, rfl⟩, rfl⟩
  | retry k =>
    obtain ⟨_, s₁, hmodify, h⟩ := bind_eq_ok.mp h
    obtain rfl := modifyBatch_eq_ok.mp hmodify
    obtain ⟨rfl, rfl⟩ := pure_eq_ok.mp h
    exact ⟨⟨rfl, rfl⟩, rfl⟩

/-- What looking up the key established. -/
def Claimed (request : PostingRequest) (s : Db) : Claim → Prop
  | .fresh => findBatch s request.organizationId request.idempotencyKey = none
  | .superseded batch =>
    findBatch s request.organizationId request.idempotencyKey = some batch ∧
      batch.row.status = .posted ∧
      batchPostingReversed s request.organizationId batch.id = true
  | .retry k => ∃ batch, findBatch s request.organizationId request.idempotencyKey =
      some ⟨k, batch⟩ ∧ batch.status = .failed

/-- A failed batch set back for a retry: processing again, for the same organization and
key. -/
def Restarts (f : PostingBatch → PostingBatch) : Prop :=
  ∀ b, (f b).status = .processing ∧ (f b).organizationId = b.organizationId ∧
    (f b).idempotencyKey = b.idempotencyKey

/-- Looking up the key finds a batch to replay, or a claim; a failed batch is set back to
processing. -/
theorem claimKey_eq_ok {x : Stored PostingBatch ⊕ Claim} (h : claimKey request s = .ok x s') :
    (∃ batch, x = .inl batch ∧
        findBatch s request.organizationId request.idempotencyKey = some batch ∧
        batch.row.status = .posted ∧
        batchPostingReversed s request.organizationId batch.id = false ∧ s' = s) ∨
      ∃ claim, x = .inr claim ∧ Claimed request s claim ∧
        ((s' = s ∧ ∀ k, claim ≠ .retry k) ∨ ∃ k f, claim = .retry k ∧ Restarts f ∧
          s' = { s with batches := s.batches.modify k f }) := by
  rw [claimKey, get_bind] at h
  cases hfind : findBatch s request.organizationId request.idempotencyKey with
  | none =>
    rw [hfind, pure_eq_ok] at h
    obtain ⟨rfl, rfl⟩ := h
    exact Or.inr ⟨.fresh, rfl, hfind, Or.inl ⟨rfl, by simp⟩⟩
  | some existing =>
    rw [hfind] at h
    dsimp only at h
    cases hstatus : existing.row.status with
    | posted =>
      rw [hstatus] at h
      dsimp only at h
      split_ifs at h with hreversed
      · obtain ⟨rfl, rfl⟩ := pure_eq_ok.mp h
        exact Or.inr ⟨.superseded existing, rfl, ⟨hfind, hstatus, hreversed⟩,
          Or.inl ⟨rfl, by simp⟩⟩
      · obtain ⟨rfl, rfl⟩ := pure_eq_ok.mp h
        exact Or.inl ⟨existing, rfl, rfl, hstatus, by simpa using hreversed, rfl⟩
    | failed =>
      rw [hstatus] at h
      dsimp only at h
      rw [refuse_bind] at h
      obtain ⟨_, s₁, hmodify, h⟩ := bind_eq_ok.mp h.2
      obtain ⟨rfl, rfl⟩ := pure_eq_ok.mp h
      refine Or.inr ⟨.retry existing.id, rfl, ⟨existing.row, hfind, hstatus⟩,
        Or.inr ⟨existing.id, _, rfl, ?_, modifyBatch_eq_ok.mp hmodify⟩⟩
      exact fun _ => ⟨rfl, rfl, rfl⟩
    | pending => rw [hstatus] at h; simp at h
    | processing => rw [hstatus] at h; simp at h
    | partiallyPosted => rw [hstatus] at h; simp at h

/-! ### The validations -/

theorem loadPostable_eq_ok :
    loadPostable request s = .ok journal s' ↔
      s.journals.get? request.journalEntryId = some journal ∧
        journal.organizationId = request.organizationId ∧ journal.status = .approved ∧
        s' = s := by
  rw [loadPostable, bind_eq_ok]
  simp only [loadJournal_eq_ok, refuse_bind, not_not]
  constructor
  · rintro ⟨j, _, ⟨hj, horg, rfl⟩, _, happroved, h⟩
    obtain ⟨rfl, rfl⟩ := pure_eq_ok.mp h
    exact ⟨hj, horg, happroved, rfl⟩
  · rintro ⟨hj, horg, happroved, rfl⟩
    exact ⟨journal, _, ⟨hj, horg, rfl⟩, by simp [happroved], happroved, rfl⟩

variable {entries : List PostingEntry}

theorem validateBalance_eq_ok {u : PUnit} (h : validateBalance entries s = .ok u s') :
    sumAtPersistedScale (entries.map PostingEntry.debitAmountFunctional) =
        sumAtPersistedScale (entries.map PostingEntry.creditAmountFunctional) ∧ s' = s := by
  rw [validateBalance, refuse_eq_ok, not_not] at h
  exact h

theorem validateFunctionalAmounts_eq_ok {i : ℕ} {u : PUnit}
    (h : validateFunctionalAmounts i entries s = .ok u s') : s' = s := by
  induction entries generalizing i with
  | nil => exact (pure_eq_ok.mp h).2
  | cons entry rest ih =>
    simp only [validateFunctionalAmounts, refuse_bind] at h
    exact ih h.2.2.2.2.2

/-! ### The writes -/

/-- What a posting has done: it passed the gate with an approved journal, appended balanced
rows under one batch, marked journal and batch as posted, queued one event, and left the other
journals, the figures of every balance, and every other table alone. -/
structure Written (request : PostingRequest) (journal : JournalEntry)
    (batchId fiscalPeriodId : UUID) (s s' : Db) : Prop where
  key : request.idempotencyKey ≠ ""
  notLive : ¬ LiveKey s request.organizationId request.idempotencyKey
  found : s.journals.get? request.journalEntryId = some journal
  organization : journal.organizationId = request.organizationId
  approved : journal.status = .approved
  gated : PeriodGuardService.Gated request.organizationId request.postingDate
    request.allowAdjustmentPeriod request.reopenSessionId s s'.fiscalPeriods fiscalPeriodId
  balanced :
    ((rowsOf s request journal batchId fiscalPeriodId).map PostedLedgerLine.debitAmount).sum =
      ((rowsOf s request journal batchId fiscalPeriodId).map PostedLedgerLine.creditAmount).sum
  exactlyOne : ∀ row ∈ rowsOf s request journal batchId fiscalPeriodId,
    ExactlyOne row.debitAmount row.creditAmount
  ledger : s'.ledger = s.ledger ++ rowsOf s request journal batchId fiscalPeriodId
  journals : s'.journals = s.journals.modify request.journalEntryId (markPosted request batchId)
  batch : ∃ b, s'.batches.get? batchId = some b ∧
    b.organizationId = request.organizationId ∧ b.idempotencyKey = request.idempotencyKey ∧
    b.status = .posted
  retried : ∀ b, s.batches.get? batchId = some b → b.status = .failed ∧
    b.organizationId = request.organizationId ∧ b.idempotencyKey = request.idempotencyKey
  otherBatches : ∀ k, k ≠ batchId → s'.batches.get? k = s.batches.get? k ∨
    ∃ b, findBatch s request.organizationId request.idempotencyKey = some ⟨k, b⟩ ∧
      b.status = .posted ∧ batchPostingReversed s request.organizationId k = true ∧
      s'.batches.get? k = some { b with idempotencyKey := retiredKey b.idempotencyKey k }
  uniqueKeys : UniqueKeys s.batches → UniqueKeys s'.batches
  outbox : s'.outbox = s.outbox.insert
    (postingEvent request batchId fiscalPeriodId (requestEntries request journal))
  nextLineId : s.nextLineId ≤ s'.nextLineId
  balances : ∀ k, (s'.balances.get? k).map (fun b => { b with isStale := false }) =
    (s.balances.get? k).map fun b => { b with isStale := false }
  accounts : s'.accounts = s.accounts
  functionalCurrency : s'.functionalCurrency = s.functionalCurrency

theorem Written.get?_self (hw : Written request journal batchId periodId s s') :
    s'.journals.get? request.journalEntryId = some (markPosted request batchId journal) := by
  rw [hw.journals, Table.get?_modify_self, hw.found, Option.map_some]

theorem Written.get?_of_ne (hw : Written request journal batchId periodId s s') {k : UUID}
    (hk : k ≠ request.journalEntryId) : s'.journals.get? k = s.journals.get? k := by
  rw [hw.journals, Table.get?_modify_of_ne hk]

theorem writePosting_eq_ok
    (h : writePosting request journal batchId periodId entries s = .ok result s') :
    (∃ balances queue,
      s' = { s with
        ledger := s.ledger ++ ledgerLines s request journal batchId periodId entries
        nextLineId := s.nextLineId + entries.length
        balances := balances
        balanceRefreshQueue := queue
        batches := s.batches.modify batchId fun batch =>
          { batch with
            postedEntries :=
              (ledgerLines s request journal batchId periodId entries).length
            status := .posted }
        journals := s.journals.modify request.journalEntryId (markPosted request batchId)
        outbox := s.outbox.insert (postingEvent request batchId periodId entries) }) ∧
    AcceptsRows s (ledgerLines s request journal batchId periodId entries) ∧
    (∀ k, (s'.balances.get? k).map (fun b => { b with isStale := false }) =
      (s.balances.get? k).map fun b => { b with isStale := false }) ∧
    result.success = true ∧ result.batchId = some batchId ∧ result.idempotentReplay = false := by
  rw [writePosting, get_bind, refuse_bind, modify_bind, modify_bind,
    not_not] at h
  obtain ⟨haccepts, h⟩ := h
  set written : Db := { s with
    ledger := s.ledger ++ ledgerLines s request journal batchId periodId entries
    nextLineId := s.nextLineId + entries.length } with hwritten
  set keys := (ledgerLines s request journal batchId periodId entries).map
    fun row => (request.organizationId, row.accountId, row.fiscalPeriodId)
  have hbalances := BalanceInvalidationService.invalidateBatch_balances keys written
  obtain ⟨balances, queue, hframe⟩ :=
    BalanceInvalidationService.invalidateBatch_frame keys written
  rw [hframe] at h hbalances
  obtain ⟨_, s₁, hbatch, h⟩ := bind_eq_ok.mp h
  obtain rfl := modifyBatch_eq_ok.mp hbatch
  obtain ⟨_, s₂, hjournal, h⟩ := bind_eq_ok.mp h
  obtain rfl := modifyJournal_eq_ok.mp hjournal
  obtain ⟨_, s₃, hevent, h⟩ := bind_eq_ok.mp h
  rw [publishPostingEvent, get_bind, refuse_bind, modify_eq_ok] at hevent
  obtain ⟨_, rfl⟩ := hevent
  obtain ⟨rfl, rfl⟩ := pure_eq_ok.mp h
  exact ⟨⟨balances, queue, rfl⟩, haccepts, hbalances, rfl, rfl, rfl⟩

theorem sum_ledgerLines (s : Db) (request : PostingRequest) (journal : JournalEntry)
    (batchId periodId : UUID) (entries : List PostingEntry) :
    ((ledgerLines s request journal batchId periodId entries).map
        PostedLedgerLine.debitAmount).sum =
      sumAtPersistedScale (entries.map PostingEntry.debitAmountFunctional) ∧
    ((ledgerLines s request journal batchId periodId entries).map
        PostedLedgerLine.creditAmount).sum =
      sumAtPersistedScale (entries.map PostingEntry.creditAmountFunctional) := by
  simp only [ledgerLines, sumAtPersistedScale, List.map_map, List.mapIdx_eq_zipIdx_map]
  constructor
  · congr 1
    refine List.ext_getElem (by simp) fun i h₁ h₂ => ?_
    simp [ledgerLine]
  · congr 1
    refine List.ext_getElem (by simp) fun i h₁ h₂ => ?_
    simp [ledgerLine]

/-- What an opened batch is once it is posted: the request's batch, posted, and the others as
they were but for the key of a superseded one. -/
theorem Opened.posted {m : ℕ} {batches batches' : Table PostingBatch}
    (hclaim : Claimed request s claim) (hopened : Opened request journal periodId n
      batches batches' batchId claim)
    (hbatches : (batches = s.batches ∧ ∀ k, claim ≠ .retry k) ∨ ∃ k f, claim = .retry k ∧
      Restarts f ∧ batches = s.batches.modify k f) :
    (∃ b, (batches'.modify batchId fun b => { b with postedEntries := m, status := .posted }).get?
        batchId = some b ∧ b.organizationId = request.organizationId ∧
        b.idempotencyKey = request.idempotencyKey ∧ b.status = .posted) ∧
      (∀ b, s.batches.get? batchId = some b → b.status = .failed ∧
        b.organizationId = request.organizationId ∧
        b.idempotencyKey = request.idempotencyKey) ∧
      ∀ k, k ≠ batchId →
        (batches'.modify batchId fun b =>
            { b with postedEntries := m, status := .posted }).get? k = s.batches.get? k ∨
        ∃ b, findBatch s request.organizationId request.idempotencyKey = some ⟨k, b⟩ ∧
          b.status = .posted ∧ batchPostingReversed s request.organizationId k = true ∧
          (batches'.modify batchId fun b =>
            { b with postedEntries := m, status := .posted }).get? k =
            some { b with idempotencyKey := retiredKey b.idempotencyKey k } := by
  cases claim with
  | fresh =>
    obtain ⟨rfl, rfl⟩ := hopened
    obtain ⟨rfl, _⟩ : batches = s.batches ∧ ∀ k, Claim.fresh ≠ .retry k := by
      simpa using hbatches
    refine ⟨⟨_, by rw [Table.get?_modify_self, Table.get?_insert_self]; rfl, rfl, rfl, rfl⟩,
      by simp, fun k hk => Or.inl ?_⟩
    rw [Table.get?_modify_of_ne hk, Table.get?_insert, if_neg hk]
  | superseded batch =>
    obtain ⟨rfl, rfl⟩ := hopened
    obtain ⟨rfl, _⟩ : batches = s.batches ∧ ∀ k, Claim.superseded batch ≠ .retry k := by
      simpa using hbatches
    obtain ⟨hfind, hposted, hreversed⟩ := hclaim
    refine ⟨⟨_, by rw [Table.get?_modify_self, ← Table.next_modify, Table.get?_insert_self]; rfl,
      rfl, rfl, rfl⟩, by simp, fun k hk => ?_⟩
    rw [Table.get?_modify_of_ne hk, Table.get?_insert, Table.next_modify, if_neg hk,
      Table.get?_modify]
    by_cases hkb : k = batch.id
    · subst hkb
      refine Or.inr ⟨batch.row, hfind, hposted, hreversed, ?_⟩
      rw [if_pos rfl, (Table.find?_eq_some hfind).1]
      rfl
    · exact Or.inl (if_neg hkb)
  | retry k =>
    obtain ⟨rfl, rfl⟩ := hopened
    obtain ⟨batch, hfind, hfailed⟩ := hclaim
    obtain ⟨f, hf, rfl⟩ : ∃ f, Restarts f ∧ batches = s.batches.modify batchId f := by
      rcases hbatches with ⟨_, hne⟩ | ⟨k, f, hk, hf, rfl⟩
      · exact absurd rfl (hne batchId)
      · obtain rfl : batchId = k := by simpa using hk
        exact ⟨f, hf, rfl⟩
    obtain ⟨hget, hkey⟩ := Table.find?_eq_some hfind
    dsimp only at hget
    rw [decide_eq_true_iff] at hkey
    refine ⟨?_, ?_, fun k hk => Or.inl ?_⟩
    · simp only [Table.get?_modify_self, hget, Option.map_some]
      exact ⟨_, rfl, rfl, (hf batch).2.2.trans hkey.2, rfl⟩
    · rw [hget]
      rintro b ⟨⟩
      exact ⟨hfailed, hkey⟩
    · rw [Table.get?_modify_of_ne hk, Table.get?_modify_of_ne hk, Table.get?_modify_of_ne hk]

theorem openBatch_uniqueKeys_of_claimed {s₂ s₃ : Db} (hclaim : Claimed request s claim)
    (hbatches : (s₂.batches = s.batches ∧ ∀ k, claim ≠ .retry k) ∨ ∃ k f, claim = .retry k ∧
      Restarts f ∧ s₂.batches = s.batches.modify k f)
    (hopen : openBatch request journal periodId n claim s₂ = .ok batchId s₃)
    (hs : UniqueKeys s.batches) : UniqueKeys s₃.batches := by
  rcases hbatches with ⟨hsame, hne⟩ | ⟨k, f, rfl, hf, hmodify⟩
  · refine openBatch_uniqueKeys hopen (hsame ▸ hs) ?_
    cases claim with
    | fresh => trivial
    | superseded batch =>
      have hget := (findBatch_eq_some hclaim.1).1
      rw [← hsame] at hget
      exact hget
    | retry k => exact absurd rfl (hne k)
  · obtain ⟨batch, hfind, _⟩ := hclaim
    obtain ⟨hget, horg, _⟩ := findBatch_eq_some hfind
    have hkept : UniqueKeys s₂.batches := by
      rw [hmodify]
      exact hs.modify_of_keeps fun b _ => ⟨(hf b).2.1, (hf b).2.2⟩
    refine openBatch_uniqueKeys hopen hkept fun b hb => ?_
    rw [hmodify, Table.get?_modify_self, hget, Option.map_some, Option.some.injEq] at hb
    rw [← hb, (hf batch).2.1]
    exact horg

theorem Claimed.not_live (h : Claimed request s claim) :
    ¬ LiveKey s request.organizationId request.idempotencyKey := by
  rintro ⟨batch, hfind, hposted, hlive⟩
  cases claim with
  | fresh => exact absurd (hfind.symm.trans h) (by simp)
  | superseded other =>
    obtain ⟨hfind', _, hreversed⟩ := h
    obtain rfl : batch = other := by simpa using hfind.symm.trans hfind'
    exact absurd (hlive.symm.trans hreversed) (by simp)
  | retry k =>
    obtain ⟨b, hfind', hfailed⟩ := h
    obtain rfl : batch = ⟨k, b⟩ := by simpa using hfind.symm.trans hfind'
    exact absurd (hposted.symm.trans hfailed) (by simp)

/-- **The contract of posting.** When a posting returns, its key was live and nothing changed,
or the posting was written. -/
theorem postJournalEntry_eq_ok (h : postJournalEntry request s = .ok result s') :
    (∃ batch, findBatch s request.organizationId request.idempotencyKey = some batch ∧
        batch.row.status = .posted ∧
        batchPostingReversed s request.organizationId batch.id = false ∧
        result = replayResult batch ∧ s' = s) ∨
      ∃ journal batchId fiscalPeriodId,
        Written request journal batchId fiscalPeriodId s s' ∧ result.success = true ∧
          result.batchId = some batchId ∧ result.idempotentReplay = false := by
  rw [postJournalEntry, refuse_bind] at h
  obtain ⟨hkey, h⟩ := h
  obtain ⟨x, s₁, hclaim, hrest⟩ := bind_eq_ok.mp h
  rcases claimKey_eq_ok hclaim with ⟨batch, rfl, hfind, hposted, hlive, rfl⟩ |
    ⟨claim, rfl, hclaimed, hbatches⟩
  · obtain ⟨rfl, rfl⟩ := pure_eq_ok.mp hrest
    exact Or.inl ⟨batch, hfind, hposted, hlive, rfl, rfl⟩
  clear h hclaim
  refine Or.inr ?_
  have hs₁ : s₁ = { s with batches := s₁.batches } := by
    rcases hbatches with ⟨rfl, _⟩ | ⟨_, _, _, _, rfl⟩ <;> rfl
  have htable : (s₁.batches = s.batches ∧ ∀ k, claim ≠ .retry k) ∨ ∃ k f, claim = .retry k ∧
      Restarts f ∧ s₁.batches = s.batches.modify k f := by
    rcases hbatches with ⟨rfl, hne⟩ | ⟨k, f, hk, hf, rfl⟩
    · exact Or.inl ⟨rfl, hne⟩
    · exact Or.inr ⟨k, f, hk, hf, rfl⟩
  generalize s₁.batches = batches₁ at hs₁ htable
  subst hs₁
  -- the steps of a posting, in order
  obtain ⟨journal, _, hjournal, h⟩ := bind_eq_ok.mp hrest
  obtain ⟨hfound, horg, happroved, rfl⟩ := loadPostable_eq_ok.mp hjournal
  obtain ⟨periodId, s₂, hperiod, h⟩ := bind_eq_ok.mp h
  obtain ⟨hgated, years, hs₂⟩ := PeriodGuardService.requireOpenPeriod_gated hperiod
  generalize s₂.fiscalPeriods = periods at hgated hs₂
  subst hs₂
  obtain ⟨_, _, hbalance, h⟩ := bind_eq_ok.mp h
  obtain ⟨hbalanced, rfl⟩ := validateBalance_eq_ok hbalance
  obtain ⟨_, _, hsigns, h⟩ := bind_eq_ok.mp h
  obtain rfl := validateFunctionalAmounts_eq_ok hsigns
  obtain ⟨batchId, s₃, hopen, h⟩ := bind_eq_ok.mp h
  obtain ⟨hopened, hs₃⟩ := openBatch_eq_ok hopen
  have hunique := openBatch_uniqueKeys_of_claimed hclaimed htable hopen
  generalize s₃.batches = batches₃ at hopened hs₃
  subst hs₃
  obtain ⟨⟨balances, queue, rfl⟩, haccepts, hbalances, hsuccess, hbatch, hreplay⟩ :=
    writePosting_eq_ok h
  obtain ⟨hposted, hfailed, hothers⟩ := hopened.posted hclaimed htable
  have hsums := sum_ledgerLines s request journal batchId periodId
    (requestEntries request journal)
  exact ⟨journal, batchId, periodId,
    { key := hkey
      notLive := hclaimed.not_live
      found := hfound
      organization := horg
      approved := happroved
      gated := hgated
      balanced := hsums.1.trans (hbalanced.trans hsums.2.symm)
      exactlyOne := haccepts.1
      ledger := rfl
      journals := rfl
      batch := hposted
      retried := hfailed
      otherBatches := hothers
      uniqueKeys := fun hs => (hunique hs).modify_of_keeps fun _ _ => ⟨rfl, rfl⟩
      outbox := rfl
      nextLineId := Nat.le_add_right _ _
      balances := hbalances
      accounts := rfl
      functionalCurrency := rfl }, hsuccess, hbatch, hreplay⟩

theorem postJournalEntry_success (h : postJournalEntry request s = .ok result s') :
    result.success = true := by
  rcases postJournalEntry_eq_ok h with ⟨_, _, _, _, rfl, _⟩ | ⟨_, _, _, _, hsuccess, _, _⟩
  · rfl
  · exact hsuccess

/-! ### Refusals -/

def Reset (request : PostingRequest) (s : Db) (batches : Table PostingBatch) : Prop :=
  batches = s.batches ∨ ∃ k b f,
    findBatch s request.organizationId request.idempotencyKey = some ⟨k, b⟩ ∧
      b.status = .failed ∧ Restarts f ∧ batches = s.batches.modify k f

theorem Reset.uniqueKeys {batches : Table PostingBatch} (h : Reset request s batches)
    (hs : UniqueKeys s.batches) : UniqueKeys batches := by
  rcases h with rfl | ⟨k, b, f, _, _, hf, rfl⟩
  · exact hs
  · exact hs.modify_of_keeps fun b _ => ⟨(hf b).2.1, (hf b).2.2⟩

/-- What a refused posting may leave behind in an open session: a failed batch under its key
set back to processing, and the calendar month the gate created. -/
def Refused (request : PostingRequest) (s s' : Db) : Prop :=
  ∃ batches years periods,
    s' = { s with batches := batches, fiscalYears := years, fiscalPeriods := periods } ∧
      Reset request s batches ∧
      (periods = s.fiscalPeriods ∨ ∃ k,
        PeriodGuardService.Gated request.organizationId request.postingDate
          request.allowAdjustmentPeriod request.reopenSessionId s periods k)

variable {e : ServiceError}

theorem claimKey_eq_error (h : claimKey request s = .error e s') :
    s' = s := by
  rw [claimKey, get_bind_eq_error] at h
  cases hfind : findBatch s request.organizationId request.idempotencyKey with
  | none => simp [hfind] at h
  | some existing =>
    rw [hfind] at h
    dsimp only at h
    cases hstatus : existing.row.status with
    | posted =>
      rw [hstatus] at h
      dsimp only at h
      split_ifs at h <;> simp at h
    | failed =>
      rw [hstatus] at h
      dsimp only at h
      rw [refuse_bind_eq_error] at h
      rcases h with ⟨_, _, h⟩ | ⟨_, h⟩
      · exact h
      · simp [modifyBatch] at h
    | pending => rw [hstatus] at h; exact (throw_eq_error.mp h).2
    | processing => rw [hstatus] at h; exact (throw_eq_error.mp h).2
    | partiallyPosted => rw [hstatus] at h; exact (throw_eq_error.mp h).2

theorem claimKey_reset (h : claimKey request s = .ok (.inr claim) s') :
    ∃ batches, s' = { s with batches := batches } ∧ Reset request s batches := by
  rcases claimKey_eq_ok h with ⟨_, hinl, _⟩ | ⟨claim', hinr, hclaimed, hs⟩
  · exact absurd hinl (by simp)
  · obtain rfl : claim = claim' := by simpa using hinr
    rcases hs with ⟨rfl, _⟩ | ⟨k, f, rfl, hf, rfl⟩
    · exact ⟨_, rfl, Or.inl rfl⟩
    · obtain ⟨b, hfind, hfailed⟩ := hclaimed
      exact ⟨_, rfl, Or.inr ⟨k, b, f, hfind, hfailed, hf, rfl⟩⟩

theorem loadPostable_eq_error (h : loadPostable request s = .error e s') :
    s' = s := by
  rw [loadPostable, bind_eq_error] at h
  rcases h with h | ⟨_, _, hload, h⟩
  · exact loadJournal_eq_error h
  · obtain ⟨_, _, rfl⟩ := loadJournal_eq_ok.mp hload
    simp only [refuse_bind_eq_error, pure_eq_error, and_false, or_false] at h
    rcases h with ⟨_, _, h⟩ | ⟨_, _, _, h⟩
    · exact h
    · exact h

theorem validateFunctionalAmounts_eq_error {i : ℕ} (h :
    validateFunctionalAmounts i entries s = .error e s') : s' = s := by
  induction entries generalizing i with
  | nil => exact absurd h (by simp [validateFunctionalAmounts])
  | cons entry rest ih =>
    simp only [validateFunctionalAmounts, refuse_bind_eq_error] at h
    rcases h with ⟨_, _, h⟩ | ⟨_, ⟨_, _, h⟩ | ⟨_, ⟨_, _, h⟩ | ⟨_, ⟨_, _, h⟩ | ⟨_, ⟨_, _, h⟩ |
      ⟨_, h⟩⟩⟩⟩⟩
    · exact h
    · exact h
    · exact h
    · exact h
    · exact h
    · exact ih h

variable {c : ℕ} {detail : String}

theorem insertBatch_ne_http {batch : PostingBatch} :
    insertBatch batch s ≠ .error (.http c detail) s' := by
  intro h
  simp [insertBatch] at h

theorem openBatch_ne_http :
    openBatch request journal periodId n claim s ≠ .error (.http c detail) s' := by
  intro h
  cases claim with
  | fresh => exact insertBatch_ne_http h
  | superseded batch =>
    rw [openBatch, bind_eq_error] at h
    rcases h with h | ⟨_, _, _, h⟩
    · simp [retireSupersededBatchKey, modifyBatch] at h
    · exact insertBatch_ne_http h
  | retry k => simp [openBatch, modifyBatch] at h

theorem writePosting_ne_http :
    writePosting request journal batchId periodId entries s ≠
      .error (.http c detail) s' := by
  intro h
  simp [writePosting, modifyBatch, modifyJournal, publishPostingEvent] at h

/-- **Refusals.** A posting the service refuses has written no row, journal, or event. -/
theorem postJournalEntry_eq_error
    (h : postJournalEntry request s = .error (.http c detail) s') : Refused request s s' := by
  have hsame : Refused request s s := ⟨_, _, _, rfl, Or.inl rfl, Or.inl rfl⟩
  rw [postJournalEntry, refuse_bind_eq_error] at h
  rcases h with ⟨_, _, rfl⟩ | ⟨_, h⟩
  · exact hsame
  rw [bind_eq_error] at h
  rcases h with h | ⟨x, s₁, hclaim, h⟩
  · obtain rfl := claimKey_eq_error h
    exact hsame
  cases x with
  | inl batch => exact absurd h (by simp)
  | inr claim =>
    replace h : postUnderClaim request claim s₁ = _ := h
    obtain ⟨batches, rfl, hreset⟩ := claimKey_reset hclaim
    have hclaimed : Refused request s { s with batches := batches } :=
      ⟨_, _, _, rfl, hreset, Or.inl rfl⟩
    rw [postUnderClaim, bind_eq_error] at h
    rcases h with h | ⟨journal, _, hjournal, h⟩
    · obtain rfl := loadPostable_eq_error h
      exact hclaimed
    obtain ⟨_, _, _, rfl⟩ := loadPostable_eq_ok.mp hjournal
    rw [bind_eq_error] at h
    rcases h with h | ⟨periodId, s₂, hperiod, h⟩
    · obtain rfl := PeriodGuardService.requireOpenPeriod_eq_error h
      exact hclaimed
    -- from here on the gate has been passed and nothing else is written
    have hgated : Refused request s s₂ := by
      obtain ⟨hgate, years, hs₂⟩ := PeriodGuardService.requireOpenPeriod_gated hperiod
      generalize s₂.fiscalPeriods = periods at hgate hs₂
      exact ⟨batches, years, periods, hs₂, hreset, Or.inr ⟨periodId, hgate⟩⟩
    rw [bind_eq_error] at h
    rcases h with h | ⟨_, _, hbalance, h⟩
    · rw [validateBalance, refuse_eq_error] at h
      obtain ⟨_, _, rfl⟩ := h
      exact hgated
    obtain ⟨_, rfl⟩ := validateBalance_eq_ok hbalance
    rw [bind_eq_error] at h
    rcases h with h | ⟨_, _, hsigns, h⟩
    · obtain rfl := validateFunctionalAmounts_eq_error h
      exact hgated
    obtain rfl := validateFunctionalAmounts_eq_ok hsigns
    rw [bind_eq_error] at h
    rcases h with h | ⟨_, _, _, h⟩
    · exact absurd h openBatch_ne_http
    · exact absurd h writePosting_ne_http

end LedgerPostingService

end DotmacErp
