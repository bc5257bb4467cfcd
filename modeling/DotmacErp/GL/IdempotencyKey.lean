import DotmacErp.GL.LedgerPosting

/-!
# Idempotency keys

When a key answers for an earlier posting. `LiveKey` depends on the batch stored under the key
and on which journals of the organization point to that batch, so a journal without a batch
never matters (`liveKey_congr`).

An organization stores one batch under a key (`UniqueKeys`, the table's own constraint). The
branch of a posting that takes over the key of a reversed batch gives the old batch another
key first, and every branch keeps the constraint (`openBatch_uniqueKeys`).
-/

namespace DotmacErp

open Relational Session

namespace LedgerPostingService

variable {s s' : Db} {org b : UUID} {key : String} {status : JournalStatus}

/-- `uq_batch_org_idempotency`: an organization stores one batch under a key. -/
def UniqueKeys (batches : Table PostingBatch) : Prop :=
  ∀ k k' batch batch', batches.get? k = some batch → batches.get? k' = some batch' →
    batch.organizationId = batch'.organizationId →
    batch.idempotencyKey = batch'.idempotencyKey → k = k'

theorem findBatch_eq_some {batch : Stored PostingBatch} (h : findBatch s org key = some batch) :
    s.batches.get? batch.id = some batch.row ∧ batch.row.organizationId = org ∧
      batch.row.idempotencyKey = key := by
  obtain ⟨hget, hkey⟩ := Table.find?_eq_some h
  exact ⟨hget, of_decide_eq_true hkey⟩

theorem findBatch_eq_none :
    findBatch s org key = none ↔ ∀ k batch, s.batches.get? k = some batch →
      batch.organizationId = org → batch.idempotencyKey ≠ key := by
  rw [findBatch, Table.find?_eq_none]
  simp

theorem UniqueKeys.findBatch_eq (h : UniqueKeys s.batches) {batch : PostingBatch}
    (hget : s.batches.get? b = some batch) :
    findBatch s batch.organizationId batch.idempotencyKey = some ⟨b, batch⟩ := by
  cases hfind : findBatch s batch.organizationId batch.idempotencyKey with
  | none => exact absurd rfl (findBatch_eq_none.mp hfind b batch hget rfl)
  | some found =>
    obtain ⟨hfound, horg, hkey⟩ := findBatch_eq_some hfind
    have hid : found.id = b := h _ _ _ _ hfound hget horg hkey
    have hrow : found.row = batch := by
      rw [hid, hget] at hfound
      exact (Option.some.inj hfound).symm
    rw [← hid, ← hrow]

theorem findBatch_isSome {k : UUID} {batch : PostingBatch} (hget : s.batches.get? k = some batch)
    (horg : batch.organizationId = org) (hkey : batch.idempotencyKey = key) :
    (findBatch s org key).isSome :=
  Table.find?_isSome hget (decide_eq_true ⟨horg, hkey⟩)

/-! ### Journals of a batch -/

theorem hasJournal_iff : HasJournal s org b status = true ↔
    ∃ k j, s.journals.get? k = some j ∧ j.organizationId = org ∧ j.postingBatchId = some b ∧
      j.status = status := by
  rw [HasJournal, Table.find?_isSome_iff]
  simp

/-- Whether a journal of a status points to a batch, when the journals that point to it are
the same. -/
theorem hasJournal_congr
    (h : (∃ k j, s.journals.get? k = some j ∧ j.organizationId = org ∧
        j.postingBatchId = some b ∧ j.status = status) ↔
      ∃ k j, s'.journals.get? k = some j ∧ j.organizationId = org ∧
        j.postingBatchId = some b ∧ j.status = status) :
    HasJournal s org b status = HasJournal s' org b status := by
  rw [Bool.eq_iff_iff, hasJournal_iff, hasJournal_iff]
  exact h

/-- A key is live in one database when it is in another with the same batches and the same
journals under them. -/
theorem liveKey_congr (hbatches : s'.batches = s.batches)
    (h : ∀ b status, HasJournal s' org b status = HasJournal s org b status) :
    LiveKey s' org key ↔ LiveKey s org key := by
  simp only [LiveKey, findBatch, batchPostingReversed, hbatches, h]

theorem liveKey_insert {journal : JournalEntry} {n : ℕ} (hnone : journal.postingBatchId = none) :
    LiveKey (s.withJournals (s.journals.insert journal) n) org key ↔ LiveKey s org key := by
  refine liveKey_congr rfl fun b status => hasJournal_congr ?_
  constructor
  · rintro ⟨k, j, hget, horg, hb, hstatus⟩
    rw [Db.withJournals, Table.get?_insert] at hget
    split_ifs at hget with hk
    · rw [← Option.some.inj hget, hnone] at hb
      exact absurd hb (by simp)
    · exact ⟨k, j, hget, horg, hb, hstatus⟩
  · rintro ⟨k, j, hget, hrest⟩
    exact ⟨k, j, Table.get?_insert_of_some hget journal, hrest⟩

theorem hasJournal_modify {k : UUID} {f : JournalEntry → JournalEntry}
    (hf : ∀ j, (f j).organizationId = j.organizationId ∧
      (f j).postingBatchId = j.postingBatchId ∧ (f j).status = j.status) :
    HasJournal { s with journals := s.journals.modify k f } org b status =
      HasJournal s org b status := by
  refine hasJournal_congr ⟨?_, ?_⟩
  · rintro ⟨k', j, hget, horg, hb, hstatus⟩
    rw [Table.get?_modify] at hget
    split_ifs at hget with hk
    · obtain ⟨old, hold, rfl⟩ := Option.map_eq_some_iff.mp hget
      obtain ⟨ho, hbatch, hs⟩ := hf old
      exact ⟨k', old, hold, ho ▸ horg, hbatch ▸ hb, hs ▸ hstatus⟩
    · exact ⟨k', j, hget, horg, hb, hstatus⟩
  · rintro ⟨k', j, hget, horg, hb, hstatus⟩
    by_cases hk : k' = k
    · obtain ⟨ho, hbatch, hs⟩ := hf j
      refine ⟨k, f j, ?_, ho.trans horg, hbatch.trans hb, hs.trans hstatus⟩
      rw [Table.get?_modify_self, ← hk, hget, Option.map_some]
    · exact ⟨k', j, (Table.get?_modify_of_ne hk f).trans hget, horg, hb, hstatus⟩

/-- An edit that keeps a journal's organization, batch and status leaves every key as it is. -/
theorem liveKey_modify {k : UUID} {f : JournalEntry → JournalEntry}
    (hf : ∀ j, (f j).organizationId = j.organizationId ∧
      (f j).postingBatchId = j.postingBatchId ∧ (f j).status = j.status) :
    LiveKey { s with journals := s.journals.modify k f } org key ↔ LiveKey s org key :=
  liveKey_congr rfl fun _ _ => hasJournal_modify hf

/-- **Replay.** A posting under a live key answers for the earlier one and changes nothing. -/
theorem postJournalEntry_of_live (request : PostingRequest) (hkey : request.idempotencyKey ≠ "")
    (h : LiveKey s request.organizationId request.idempotencyKey) :
    ∃ batch, findBatch s request.organizationId request.idempotencyKey = some batch ∧
      postJournalEntry request s = .ok (replayResult batch) s := by
  obtain ⟨batch, hfind, hposted, hlive⟩ := h
  refine ⟨batch, hfind, ?_⟩
  have hclaim : claimKey request s = .ok (.inl batch) s := by
    rw [claimKey, get_bind]
    simp [hfind, hposted, hlive]
  rw [postJournalEntry, refuse_bind, bind_eq_ok]
  exact ⟨hkey, _, _, hclaim, by simp⟩

/-! ### The unique constraint -/

variable {batches : Table PostingBatch}

theorem UniqueKeys.insert (h : UniqueKeys batches)
    {batch : PostingBatch} (hfresh : ∀ k old, batches.get? k = some old →
      old.organizationId = batch.organizationId → old.idempotencyKey ≠ batch.idempotencyKey) :
    UniqueKeys (batches.insert batch) := by
  have hcases : ∀ k old, (batches.insert batch).get? k = some old →
      (k = batches.next ∧ old = batch) ∨ batches.get? k = some old := by
    intro k old hk
    rw [Table.get?_insert] at hk
    split_ifs at hk with hnext
    · exact Or.inl ⟨hnext, (Option.some.inj hk).symm⟩
    · exact Or.inr hk
  intro k k' old old' hk hk' horg hkey
  rcases hcases k old hk with ⟨hnext, heq⟩ | hold
  · rcases hcases k' old' hk' with ⟨hnext', _⟩ | hold'
    · rw [hnext, hnext']
    · exact absurd (heq ▸ hkey.symm) (hfresh k' old' hold' (heq ▸ horg.symm))
  · rcases hcases k' old' hk' with ⟨_, heq'⟩ | hold'
    · exact absurd (heq' ▸ hkey) (hfresh k old hold (heq' ▸ horg))
    · exact h k k' old old' hold hold' horg hkey

theorem UniqueKeys.modify (h : UniqueKeys batches)
    {f : PostingBatch → PostingBatch} {batch : PostingBatch} (hget : batches.get? b = some batch)
    (hfresh : ∀ k old, k ≠ b → batches.get? k = some old →
      old.organizationId = (f batch).organizationId →
      old.idempotencyKey ≠ (f batch).idempotencyKey) :
    UniqueKeys (batches.modify b f) := by
  have hcases : ∀ k old, (batches.modify b f).get? k = some old →
      (k = b ∧ old = f batch) ∨ (k ≠ b ∧ batches.get? k = some old) := by
    intro k old hk
    rw [Table.get?_modify] at hk
    split_ifs at hk with hkb
    · rw [hkb, hget, Option.map_some, Option.some.injEq] at hk
      exact Or.inl ⟨hkb, hk.symm⟩
    · exact Or.inr ⟨hkb, hk⟩
  intro k k' old old' hk hk' horg hkey
  rcases hcases k old hk with ⟨hkb, heq⟩ | ⟨hkb, hold⟩
  · rcases hcases k' old' hk' with ⟨hkb', _⟩ | ⟨hkb', hold'⟩
    · rw [hkb, hkb']
    · exact absurd (heq ▸ hkey.symm) (hfresh k' old' hkb' hold' (heq ▸ horg.symm))
  · rcases hcases k' old' hk' with ⟨_, heq'⟩ | ⟨_, hold'⟩
    · exact absurd (heq' ▸ hkey) (hfresh k old hkb hold (heq' ▸ horg))
    · exact h k k' old old' hold hold' horg hkey

theorem UniqueKeys.modify_of_keeps (h : UniqueKeys batches) {f : PostingBatch → PostingBatch}
    (hf : ∀ batch, batches.get? b = some batch →
      (f batch).organizationId = batch.organizationId ∧
        (f batch).idempotencyKey = batch.idempotencyKey) : UniqueKeys (batches.modify b f) := by
  intro k k' old old' hk hk' horg hkey
  have hcases : ∀ k old, (batches.modify b f).get? k = some old → ∃ before,
      batches.get? k = some before ∧ old.organizationId = before.organizationId ∧
        old.idempotencyKey = before.idempotencyKey := by
    intro k old hk
    rw [Table.get?_modify] at hk
    split_ifs at hk with hkb
    · obtain ⟨before, hbefore, heq⟩ := Option.map_eq_some_iff.mp hk
      rw [hkb] at hbefore ⊢
      exact ⟨before, hbefore, heq ▸ hf before hbefore⟩
    · exact ⟨old, hk, rfl, rfl⟩
  obtain ⟨before, hbefore, ho, hk₁⟩ := hcases k old hk
  obtain ⟨before', hbefore', ho', hk₂⟩ := hcases k' old' hk'
  exact h k k' before before' hbefore hbefore' (ho.symm.trans (horg.trans ho'))
    (hk₁.symm.trans (hkey.trans hk₂))

theorem insertBatch_uniqueKeys {batch : PostingBatch} (h : insertBatch batch s = .ok b s')
    (hs : UniqueKeys s.batches) : UniqueKeys s'.batches := by
  rw [insertBatch, get_bind, refuse_bind, refuse_bind, modify_bind,
    pure_eq_ok, Option.not_isSome_iff_eq_none] at h
  obtain ⟨hnone, _, _, rfl⟩ := h
  exact hs.insert (findBatch_eq_none.mp hnone)

theorem openBatch_uniqueKeys {request : PostingRequest} {journal : JournalEntry}
    {periodId : UUID} {n : ℕ} {claim : Claim}
    (h : openBatch request journal periodId n claim s = .ok b s') (hs : UniqueKeys s.batches)
    (hclaim : match claim with
      | .fresh => True
      | .superseded batch => s.batches.get? batch.id = some batch.row
      | .retry k => ∀ batch, s.batches.get? k = some batch →
        batch.organizationId = request.organizationId) : UniqueKeys s'.batches := by
  cases claim with
  | fresh => exact insertBatch_uniqueKeys h hs
  | superseded batch =>
    obtain ⟨_, s₁, hretire, h⟩ := bind_eq_ok.mp h
    rw [retireSupersededBatchKey, get_bind, refuse_bind, modifyBatch_eq_ok,
      Table.find?_isSome_iff] at hretire
    obtain ⟨hfree, rfl⟩ := hretire
    refine insertBatch_uniqueKeys h (hs.modify hclaim fun k old hk hold horg hkey => hfree ?_)
    exact ⟨k, old, by rw [Table.get?_erase, if_neg hk, hold], by simp [horg, hkey]⟩
  | retry k =>
    obtain ⟨_, s₁, hmodify, h⟩ := bind_eq_ok.mp h
    obtain ⟨_, rfl⟩ := pure_eq_ok.mp h
    rw [modifyBatch_eq_ok] at hmodify
    rw [hmodify]
    exact hs.modify_of_keeps fun batch hget => ⟨(hclaim batch hget).symm, rfl⟩

end LedgerPostingService

end DotmacErp
