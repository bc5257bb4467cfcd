import Mathlib.Tactic.NormNum
import DotmacErp.GL.LedgerIdentity
import DotmacErp.GL.Permanence

/-!
# Reversals cancel

An automatic reversal that writes its posting moves the opposite of the original on every
account and dimensions, marks the original as reversed, and can never be repeated; all of it
stays so (`Cancelled`). The original's batch then no longer answers for its key: the next
posting under that key is written, and the ones after it are replayed.

The service lets the caller choose the reversal's idempotency key. If a batch answers for that
key (`LiveKey`), the original's own batch included, the posting is replayed: the reversal stays
approved without rows, the original stays posted, and the call reports success. Every statement
here is about reversals under any other key.
-/

namespace DotmacErp

open Calendar Relational Session ReversalService

variable {s s' t t' : Db} {env : Env} {org k r user : UUID} {d : Date} {reason : String}
  {key : Option String} {allow : Bool} {session : Option UUID} {result : ReversalResult}

/-- A journal and its reversal cancel: they are linked, the journal is reversed, the reversal is
in the ledger, and their rows net to zero on every account and dimensions. -/
structure Cancelled (t : Db) (k r : UUID) : Prop where
  original : ∃ j, t.journals.get? k = some j ∧ j.status = .reversed ∧
    j.reversalJournalId = some r
  reversal : ∃ j, t.journals.get? r = some j ∧ Booked j.status ∧ j.reversedJournalId = some k
  net : ∀ a dims, netOf t.ledger k a dims + netOf t.ledger r a dims = 0

/-- No reversal of the journal is made again. -/
def Unrepeatable (t : Db) (k : UUID) : Prop :=
  ∀ env org d user reason autoPost key allow session result t',
    createReversal env org k d user reason autoPost key allow session t ≠
      .ok result t'

/-- The key of a batch can be posted under once more: a posting under it takes the key over, and
is written if it returns; from then on postings under the key are replayed. -/
def KeyReusable (t : Db) (b : UUID) (batch : PostingBatch) : Prop :=
  ∀ request : PostingRequest, request.organizationId = batch.organizationId →
    request.idempotencyKey = batch.idempotencyKey →
    LedgerPostingService.claimKey request t = .ok (.inr (.superseded ⟨b, batch⟩)) t ∧
      ∀ answer t', LedgerPostingService.postJournalEntry request t = .ok answer t' →
        answer.idempotentReplay = false ∧
        ∀ again : PostingRequest, again.organizationId = batch.organizationId →
          again.idempotencyKey = batch.idempotencyKey →
          ∃ replayed, LedgerPostingService.postJournalEntry again t' =
            .ok (LedgerPostingService.replayResult replayed) t'

/-! ### Keys of reversed postings -/

theorem LedgerPostingService.Written.live {request : PostingRequest} {journal : JournalEntry}
    {batchId periodId : UUID} (hw : Written request journal batchId periodId s s')
    (hs : UniqueKeys s.batches) :
    LiveKey s' request.organizationId request.idempotencyKey := by
  obtain ⟨batch, hbatch, horg, hkey, hposted⟩ := hw.batch
  have hfind := (hw.uniqueKeys hs).findBatch_eq hbatch
  rw [horg, hkey] at hfind
  have hjournal : HasJournal s' request.organizationId batchId .posted = true := by
    exact hasJournal_iff.mpr ⟨request.journalEntryId, markPosted request batchId journal,
      hw.get?_self, hw.organization, rfl, rfl⟩
  exact ⟨⟨batchId, batch⟩, hfind, hposted, by simp [batchPostingReversed, hjournal]⟩

variable {j : JournalEntry}

theorem Books.batch_reversed (h : Books t) {b : UUID} (hj : t.journals.get? k = some j)
    (hreversed : j.status = .reversed) (hb : j.postingBatchId = some b) :
    LedgerPostingService.batchPostingReversed t j.organizationId b = true := by
  have hsome : LedgerPostingService.HasJournal t j.organizationId b .reversed = true :=
    LedgerPostingService.hasJournal_iff.mpr ⟨k, j, hj, rfl, hb, hreversed⟩
  have hnone : LedgerPostingService.HasJournal t j.organizationId b .posted = false := by
    rw [← Bool.not_eq_true, LedgerPostingService.hasJournal_iff]
    rintro ⟨k', j', hj', _, hb', hposted⟩
    have hk : k' = k := h.batchJournal k' k j' j b hj' hj hb' hb
    rw [hk, hj, Option.some.injEq] at hj'
    rw [← hj', hreversed] at hposted
    exact absurd hposted (by decide)
  rw [LedgerPostingService.batchPostingReversed, hsome, hnone]
  rfl

theorem Books.keyReusable (h : Books t) {b : UUID} {batch : PostingBatch}
    (hj : t.journals.get? k = some j) (hreversed : j.status = .reversed)
    (hb : j.postingBatchId = some b) (hbatch : t.batches.get? b = some batch) :
    KeyReusable t b batch := by
  obtain ⟨b', batch', hb', hbatch', hposted, horg, _⟩ :=
    (h.filed k j hj).booked (Or.inr hreversed)
  have hsame : batch' = batch := by
    rw [hb, Option.some.injEq] at hb'
    rw [← hb', hbatch, Option.some.injEq] at hbatch'
    exact hbatch'.symm
  rw [hsame] at hposted horg
  have hfind := h.uniqueKeys.findBatch_eq hbatch
  have hover : LedgerPostingService.batchPostingReversed t batch.organizationId b = true := by
    rw [horg]
    exact h.batch_reversed hj hreversed hb
  intro request hro hrk
  rw [← hro, ← hrk] at hfind
  rw [← hro] at hover
  refine ⟨?_, fun answer t' hpost => ?_⟩
  · rw [LedgerPostingService.claimKey, get_bind]
    simp [hfind, hposted, hover]
  · rcases LedgerPostingService.postJournalEntry_eq_ok hpost with
      ⟨found, hfound, _, hlive, _⟩ | ⟨journal, batchId, periodId, hw, _, _, hfresh⟩
    · rw [hfind, Option.some.injEq] at hfound
      rw [← hfound, hover] at hlive
      exact absurd hlive (by decide)
    · refine ⟨hfresh, fun again hao hak => ?_⟩
      have hlive := hw.live h.uniqueKeys
      rw [hro, hrk, ← hao, ← hak] at hlive
      have hkey : again.idempotencyKey ≠ "" := by
        rw [hak, ← hrk]
        exact hw.key
      obtain ⟨replayed, _, hreplay⟩ :=
        LedgerPostingService.postJournalEntry_of_live again hkey hlive
      exact ⟨replayed, hreplay⟩

theorem Write.findBatch_isSome {key : String} (h : Write s s')
    (hs : (LedgerPostingService.findBatch s org key).isSome) :
    (LedgerPostingService.findBatch s' org key).isSome := by
  obtain ⟨⟨b, batch⟩, hfind⟩ := Option.isSome_iff_exists.mp hs
  obtain ⟨hbatch, horg, hkey⟩ := LedgerPostingService.findBatch_eq_some hfind
  cases h with
  | post request journal batchId periodId _ _ hw =>
    obtain ⟨new, hnew, hnorg, hnkey, _⟩ := hw.batch
    by_cases hb : b = batchId
    · have hold := hw.retried batch (hb ▸ hbatch)
      exact LedgerPostingService.findBatch_isSome hnew
        (hnorg.trans (hold.2.1.symm.trans horg)) (hnkey.trans (hold.2.2.symm.trans hkey))
    · rcases hw.otherBatches b hb with hsame | ⟨old, hfound, _⟩
      · exact LedgerPostingService.findBatch_isSome (hsame.trans hbatch) horg hkey
      · obtain ⟨hold, hoorg, hokey⟩ := LedgerPostingService.findBatch_eq_some hfound
        have heq : old = batch := Option.mem_unique hold hbatch
        rw [heq] at hoorg hokey
        exact LedgerPostingService.findBatch_isSome hnew
          (hnorg.trans (hoorg.symm.trans horg)) (hnkey.trans (hokey.symm.trans hkey))
  | reset request batches hreset =>
    rcases hreset with hsame | ⟨k, old, f, _, _, hf, hmodify⟩
    · rw [hsame]
      exact hs
    · rw [hmodify]
      by_cases hb : b = k
      · have hget : (s.batches.modify k f).get? b = some (f batch) := by
          rw [hb, Table.get?_modify_self, ← hb, hbatch, Option.map_some]
        exact LedgerPostingService.findBatch_isSome hget ((hf batch).2.1.trans horg)
          ((hf batch).2.2.trans hkey)
      · have hget : (s.batches.modify k f).get? b = some batch := by
          rw [Table.get?_modify_of_ne hb, hbatch]
        exact LedgerPostingService.findBatch_isSome hget horg hkey
  | _ => exact hs

/-! ### One reversal -/

/-- The journals after a reversal: the original updated, the reversal under a fresh key, the
others as they were. -/
theorem get?_withReversal {original reversal : JournalEntry}
    {f : JournalEntry → JournalEntry} (hget : s.journals.get? k = some original) (k' : UUID) :
    (withReversal s k reversal f).get? k' =
      if k' = k then some (f original)
      else if k' = s.journals.next then some reversal else s.journals.get? k' := by
  rw [withReversal, Table.get?_modify]
  split_ifs with hk hnext
  · rw [hk, Table.get?_insert_of_some hget, Option.map_some]
  · rw [Table.get?_insert, if_pos hnext]
  · rw [Table.get?_insert, if_neg hnext]

/-- Marking a journal as reversed brings no key to life. -/
theorem liveKey_of_markReversed {f : JournalEntry → JournalEntry} {key : String}
    (hf : ∀ j, (f j).organizationId = j.organizationId ∧ (f j).postingBatchId = j.postingBatchId)
    (hreversed : ∀ j, (f j).status = .reversed)
    (h : LedgerPostingService.LiveKey { s with journals := s.journals.modify k f } org key) :
    LedgerPostingService.LiveKey s org key := by
  obtain ⟨batch, hfind, hposted, hlive⟩ := h
  refine ⟨batch, hfind, hposted, ?_⟩
  simp only [LedgerPostingService.batchPostingReversed, Bool.and_eq_false_iff,
    Bool.not_eq_false'] at hlive ⊢
  rcases hlive with hsome | hnone
  · -- a journal still posted under the batch is not the marked one
    refine Or.inl ?_
    obtain ⟨k', j, hget, horg, hb, hstatus⟩ := LedgerPostingService.hasJournal_iff.mp hsome
    by_cases hk : k' = k
    · rw [hk, Table.get?_modify_self] at hget
      obtain ⟨old, _, rfl⟩ := Option.map_eq_some_iff.mp hget
      rw [hreversed] at hstatus
      exact absurd hstatus (by simp)
    · rw [Table.get?_modify_of_ne hk] at hget
      exact LedgerPostingService.hasJournal_iff.mpr ⟨k', j, hget, horg, hb, hstatus⟩
  · refine Or.inr ?_
    rw [← Bool.not_eq_true, LedgerPostingService.hasJournal_iff] at hnone ⊢
    rintro ⟨k', j, hget, horg, hb, hstatus⟩
    refine hnone ⟨k', if k' = k then f j else j, ?_, ?_⟩
    · rw [Table.get?_modify, hget]
      split_ifs <;> rfl
    · split_ifs
      · exact ⟨(hf j).1.trans horg, (hf j).2.trans hb, hreversed j⟩
      · exact ⟨horg, hb, hstatus⟩

theorem createReversal_written
    (hcall : createReversal env org k d user reason true key allow session s =
      .ok result s')
    (hkey : ¬ LedgerPostingService.LiveKey s org
      (effectiveKey org s.journals.next key)) :
    ∃ original fiscalPeriodId years periods batchId periodId,
      s.journals.get? k = some original ∧ original.organizationId = org ∧
      original.status = .posted ∧ result.reversalJournalId = some s.journals.next ∧
      LedgerPostingService.Written
        (postRequest org s.journals.next d user original key allow session)
        (storedReversal env s original k fiscalPeriodId d user reason true)
        batchId periodId
        (marked env s original k fiscalPeriodId d user reason years periods)
        s' := by
  obtain ⟨original, periodId, years, periods, hget, horg, hposted, _, hr, _, _, _,
    hpost⟩ := createReversal_auto_eq_ok hcall
  rcases hpost with ⟨hlive, _⟩ | ⟨_, answer, hpost⟩
  · exact absurd hlive hkey
  set reversal := storedReversal env s original k periodId d user reason true
  set marked := marked env s original k periodId d user reason years periods
  have hnew : marked.journals.get? s.journals.next = some reversal := by
    have hk : s.journals.next ≠ k := Nat.ne_of_gt (Table.lt_next hget)
    have hadded : (withReversal s k reversal fun journal =>
        markReversed (linkReversal s.journals.next journal)).get?
          s.journals.next = some reversal := by
      rw [get?_withReversal hget, if_neg hk, if_pos rfl]
    exact hadded
  have hdead : ¬ LedgerPostingService.LiveKey marked org
      (effectiveKey org s.journals.next key) := by
    intro hlive
    have hbefore : LedgerPostingService.LiveKey
        (s.withJournals (s.journals.insert reversal) s.nextLineId) org
        (effectiveKey org s.journals.next key) :=
      liveKey_of_markReversed (k := k) (f := fun journal => markReversed
        (linkReversal s.journals.next journal)) (fun _ => ⟨rfl, rfl⟩)
        (fun _ => rfl) hlive
    exact hkey ((LedgerPostingService.liveKey_insert rfl).mp hbefore)
  rcases LedgerPostingService.postJournalEntry_eq_ok hpost with
    ⟨batch, hfind, hbatch, hlive, _⟩ | ⟨journal, batchId, period, hw, _⟩
  · exact absurd ⟨batch, hfind, hbatch, hlive⟩ hdead
  · have hfound := hw.found
    rw [show (postRequest org s.journals.next d user original key allow
      session).journalEntryId = s.journals.next from rfl, hnew, Option.some.injEq] at hfound
    rw [← hfound] at hw
    exact ⟨original, periodId, years, periods, batchId, period, hget, horg, hposted, hr, hw⟩

/-- A posted journal answers for the key of its batch. -/
theorem Books.liveKey_of_posted (h : Books t) {b : UUID} {batch : PostingBatch}
    (hj : t.journals.get? k = some j) (hposted : j.status = .posted)
    (hb : j.postingBatchId = some b) (hbatch : t.batches.get? b = some batch)
    (horg : batch.organizationId = j.organizationId) (hstatus : batch.status = .posted) :
    LedgerPostingService.LiveKey t j.organizationId batch.idempotencyKey := by
  have hfind := h.uniqueKeys.findBatch_eq hbatch
  rw [horg] at hfind
  have hown : LedgerPostingService.HasJournal t j.organizationId b .posted = true :=
    LedgerPostingService.hasJournal_iff.mpr ⟨k, j, hj, rfl, hb, hposted⟩
  exact ⟨⟨b, batch⟩, hfind, hstatus, by simp [LedgerPostingService.batchPostingReversed, hown]⟩

theorem createReversal_cancelled (h : ledgerSystem.Reachable s)
    (hcall : createReversal env org k d user reason true key allow session s =
      .ok result s')
    (hkey : ¬ LedgerPostingService.LiveKey s org
      (effectiveKey org s.journals.next key)) :
    result.reversalJournalId = some s.journals.next ∧ Cancelled s' k s.journals.next ∧
      ∃ original b batch, s.journals.get? k = some original ∧ original.status = .posted ∧
        original.postingBatchId = some b ∧ s.batches.get? b = some batch ∧
        LedgerPostingService.findBatch s' org batch.idempotencyKey = some ⟨b, batch⟩ := by
  have hbooks := books_of_reachable h
  have hstep : ledgerSystem.step s
      (.createReversal env org k d user reason true key allow session) s' :=
    (commit_discard_of_ok hcall).symm
  have hbooks' := books_of_reachable (h.step hstep)
  obtain ⟨original, fiscalPeriodId, years, periods, batchId, periodId, hget, horg, hposted, hr,
    hw⟩ := createReversal_written hcall hkey
  have hne : s.journals.next ≠ k := Nat.ne_of_gt (Table.lt_next hget)
  -- the two journals afterwards
  have horiginal : s'.journals.get? k = some
      (markReversed (linkReversal s.journals.next original)) := by
    rw [hw.get?_of_ne hne.symm, marked, get?_withReversal hget, if_pos rfl]
  have hreversal := hw.get?_self
  have hfiled := hbooks.filed k original hget
  refine ⟨hr, ⟨⟨_, horiginal, rfl, rfl⟩, ⟨_, hreversal, Or.inl rfl, rfl⟩, fun a dims => ?_⟩, ?_⟩
  · have hnet : netOf s'.ledger k a dims = lineNet original.lines a dims :=
      (hbooks'.filed _ _ horiginal).netOf_eq (Or.inr rfl) a dims
    have hopposite : netOf s'.ledger s.journals.next a dims = -lineNet original.lines a dims :=
      ((hbooks'.filed _ _ hreversal).netOf_eq (Or.inl rfl) a dims).trans
        (lineNet_reversed s.nextLineId (fun line hline => (hfiled.stored line hline).1) a dims)
    rw [hnet, hopposite, add_neg_cancel]
  · obtain ⟨b, batch, hb, hbatch, hbposted, hborg, _⟩ := hfiled.booked (Or.inl hposted)
    have hne' : b ≠ batchId := by
      intro heq
      have hfailed := (hw.retried batch (heq ▸ hbatch)).1
      exact absurd (hbposted.symm.trans hfailed) (by simp)
    refine ⟨original, b, batch, hget, hposted, hb, hbatch, ?_⟩
    rcases hw.otherBatches b hne' with hsame | ⟨old, hfind, _⟩
    · rw [← horg, ← hborg]
      exact hbooks'.uniqueKeys.findBatch_eq (hsame.trans hbatch)
    · -- the reversal's key would be the original's, which is live
      obtain ⟨hold, _, holdkey⟩ := LedgerPostingService.findBatch_eq_some hfind
      have heq : old = batch := Option.mem_unique hold hbatch
      have hlive := hbooks.liveKey_of_posted hget hposted hb hbatch hborg hbposted
      rw [horg, ← heq, holdkey] at hlive
      exact absurd hlive hkey

theorem Cancelled.run (h : Cancelled s k r) (hrun : ledgerSystem.Run s t) : Cancelled t k r := by
  have hperm := run_permanent hrun
  obtain ⟨j, hj, hreversed, hlink⟩ := h.original
  obtain ⟨i, hi, hbooked, hback⟩ := h.reversal
  obtain ⟨⟨j', hj', hlater⟩, _⟩ := hperm k j hj (Or.inr hreversed)
  obtain ⟨⟨i', hi', hlater'⟩, _⟩ := hperm r i hi hbooked
  refine ⟨⟨j', hj', hlater.reversed hreversed, hlater.link r hlink⟩,
    ⟨i', hi', hlater'.booked, hlater'.reversedJournalId.trans hback⟩, fun a dims => ?_⟩
  rw [hperm.netOf_eq hj (Or.inr hreversed), hperm.netOf_eq hi hbooked]
  exact h.net a dims

theorem Cancelled.unrepeatable (h : Cancelled t k r) : Unrepeatable t k := by
  intro env org d user reason autoPost key allow session result t' hcall
  obtain ⟨j, hj, hreversed, _⟩ := h.original
  have hposted : ∃ original, t.journals.get? k = some original ∧ original.status = .posted := by
    cases autoPost with
    | false =>
      obtain ⟨original, _, hget, _, hposted, _⟩ := createReversal_draft_eq_ok hcall
      exact ⟨original, hget, hposted⟩
    | true =>
      obtain ⟨original, _, _, _, hget, _, hposted, _⟩ :=
        createReversal_auto_eq_ok hcall
      exact ⟨original, hget, hposted⟩
  obtain ⟨original, hget, hposted⟩ := hposted
  rw [hj, Option.some.injEq] at hget
  rw [← hget, hreversed] at hposted
  exact absurd hposted (by decide)

theorem run_findBatch_isSome {key : String} (hrun : ledgerSystem.Run s t)
    (hs : (LedgerPostingService.findBatch s org key).isSome) :
    (LedgerPostingService.findBatch t org key).isSome :=
  (run_writes hrun).preserves
    (P := fun s => (LedgerPostingService.findBatch s org key).isSome)
    (fun _ _ hs hw => hw.findBatch_isSome hs) hs

/-! ### Chains of reversals -/

/-- A posted journal, its reversal, the reversal of that, and so on, the latest first: `n`
automatic reversals under keys that no batch answers for, with any calls in between. -/
inductive ReversalChain (s : Db) (k : UUID) : ℕ → List UUID → Db → Prop
  | start : ReversalChain s k 0 [k] s
  | run {n ks t t'} : ReversalChain s k n ks t → ledgerSystem.Run t t' →
      ReversalChain s k n ks t'
  | reverse {n last ks t t' env org d user reason key allow session result} :
      ReversalChain s k n (last :: ks) t →
      createReversal env org last d user reason true key allow session t =
        .ok result t' →
      ¬ LedgerPostingService.LiveKey t org
        (effectiveKey org t.journals.next key) →
      ReversalChain s k (n + 1) (t.journals.next :: last :: ks) t'

def chainNet (t : Db) (ks : List UUID) (a : UUID) (dims : Dimensions) : ℚ :=
  (ks.map fun k => netOf t.ledger k a dims).sum

/-- What a chain carries along: its journals are booked, so they stay as they are; the latest
one moves what the original does, or the opposite; together they move that, or nothing. -/
structure ChainState (s : Db) (k : UUID) (n : ℕ) (ks : List UUID) (t : Db) : Prop where
  reachable : ledgerSystem.Reachable t
  booked : ∀ i ∈ ks, ∃ j, t.journals.get? i = some j ∧ Booked j.status
  last : ∀ i ∈ ks.head?, ∀ a dims,
    netOf t.ledger i a dims = if Even n then netOf s.ledger k a dims else -netOf s.ledger k a dims
  sum : ∀ a dims, chainNet t ks a dims = if Even n then netOf s.ledger k a dims else 0

variable {n : ℕ} {ks : List UUID}

theorem ChainState.run (h : ChainState s k n ks t)
    (hrun : ledgerSystem.Run t t') : ChainState s k n ks t' := by
  have hperm := run_permanent hrun
  have hnet : ∀ i ∈ ks, ∀ a dims, netOf t'.ledger i a dims = netOf t.ledger i a dims := by
    intro i hi a dims
    obtain ⟨j, hj, hb⟩ := h.booked i hi
    exact hperm.netOf_eq hj hb a dims
  refine ⟨h.reachable.run hrun, fun i hi => ?_, fun i hi a dims => ?_, fun a dims => ?_⟩
  · obtain ⟨j, hj, hb⟩ := h.booked i hi
    obtain ⟨⟨j', hj', hlater⟩, _⟩ := hperm i j hj hb
    exact ⟨j', hj', hlater.booked⟩
  · rw [hnet i (List.mem_of_mem_head? hi)]
    exact h.last i hi a dims
  · rw [← h.sum a dims, chainNet, chainNet]
    exact congrArg List.sum (List.map_congr_left fun i hi => hnet i hi a dims)

theorem ChainState.reverse {last : UUID} (h : ChainState s k n (last :: ks) t)
    (hcall : createReversal env org last d user reason true key allow session t =
      .ok result t')
    (hkey : ¬ LedgerPostingService.LiveKey t org
        (effectiveKey org t.journals.next key)) :
    ChainState s k (n + 1) (t.journals.next :: last :: ks) t' := by
  obtain ⟨_, hcancelled, _⟩ := createReversal_cancelled h.reachable hcall hkey
  have hstep : ledgerSystem.step t
      (.createReversal env org last d user reason true key allow session) t' :=
    (commit_discard_of_ok hcall).symm
  have hlater := h.run (System.Run.single hstep)
  have hnew : ∀ a dims, netOf t'.ledger t.journals.next a dims =
      if Even (n + 1) then netOf s.ledger k a dims else -netOf s.ledger k a dims := by
    intro a dims
    have hzero := hcancelled.net a dims
    rw [hlater.last last rfl a dims] at hzero
    have hopposite := eq_neg_of_add_eq_zero_right hzero
    rw [hopposite]
    by_cases hn : Even n <;> simp [hn, Nat.even_add_one]
  refine ⟨hlater.reachable, fun i hi => ?_, fun i hi a dims => ?_, fun a dims => ?_⟩
  · rcases List.mem_cons.mp hi with hnext | hold
    · obtain ⟨j, hj, hb, _⟩ := hcancelled.reversal
      exact ⟨j, hnext ▸ hj, hb⟩
    · exact hlater.booked i hold
  · have hi' : i = t.journals.next := by simpa using hi.symm
    rw [hi']
    exact hnew a dims
  · have hsum := hlater.sum a dims
    rw [chainNet, List.map_cons, List.sum_cons]
    rw [chainNet] at hsum
    rw [hsum, hnew a dims]
    by_cases hn : Even n <;> simp [hn, Nat.even_add_one]

theorem ReversalChain.state (h : ReversalChain s k n ks t) (hs : ledgerSystem.Reachable s)
    (hj : s.journals.get? k = some j) (hposted : j.status = .posted) :
    ChainState s k n ks t := by
  induction h with
  | start =>
    refine ⟨hs, fun i hi => ?_, fun i hi a dims => ?_, fun a dims => ?_⟩
    · rw [List.mem_singleton.mp hi]
      exact ⟨j, hj, Or.inl hposted⟩
    · have hi' : i = k := by simpa using hi.symm
      simp [hi']
    · simp [chainNet]
  | run _ hrun ih => exact ih.run hrun
  | reverse _ hcall hkey ih => exact ih.reverse hcall hkey

/-! ### The theorem -/

/-- **Reversals cancel.** An automatic reversal under a key that no batch answers for cancels
its original in every later state, the original can never be reversed again, and its key is held
by its batch, which then lets one posting through before replays resume, until a posting has
taken the key over. After `n` such reversals, each of the one before, the journals together
move what the first one did or, for odd `n`, nothing. -/
theorem reversal_cancels (h : ledgerSystem.Reachable s) :
    (∀ env org k d user reason key allow session result s',
      createReversal env org k d user reason true key allow session s =
        .ok result s' →
      ¬ LedgerPostingService.LiveKey s org
      (effectiveKey org s.journals.next key) →
      result.reversalJournalId = some s.journals.next ∧
      ∃ original b batch, s.journals.get? k = some original ∧
        original.postingBatchId = some b ∧ s.batches.get? b = some batch ∧
        LedgerPostingService.findBatch s' org batch.idempotencyKey = some ⟨b, batch⟩ ∧
        ∀ t, ledgerSystem.Run s' t →
          Cancelled t k s.journals.next ∧ Unrepeatable t k ∧
          ∃ holder, LedgerPostingService.findBatch t org batch.idempotencyKey = some holder ∧
            (holder.id = b → KeyReusable t b holder.row)) ∧
    ∀ n k ks t j, s.journals.get? k = some j → j.status = .posted → ReversalChain s k n ks t →
      ∀ a dims, chainNet t ks a dims = if Even n then netOf s.ledger k a dims else 0 := by
  refine ⟨fun env org k d user reason key allow session result s' hcall hkey => ?_,
    fun n k ks t j hj hposted hchain => (hchain.state h hj hposted).sum⟩
  obtain ⟨hr, hcancelled, original, b, batch, hget, hposted, hb, hbatch, hheld⟩ :=
    createReversal_cancelled h hcall hkey
  refine ⟨hr, original, b, batch, hget, hb, hbatch, hheld, fun t hrun => ?_⟩
  have hstep : ledgerSystem.step s
      (.createReversal env org k d user reason true key allow session) s' :=
    (commit_discard_of_ok hcall).symm
  have hfrom : ledgerSystem.Run s t := (System.Run.single hstep).trans hrun
  have hbooks := books_of_reachable (h.run hfrom)
  have hlater := hcancelled.run hrun
  obtain ⟨holder, hholder⟩ := Option.isSome_iff_exists.mp
    (run_findBatch_isSome hrun (by rw [hheld]; rfl))
  refine ⟨hlater, hlater.unrepeatable, holder, hholder, fun hid => ?_⟩
  obtain ⟨j, hj, hreversed, _⟩ := hlater.original
  have hjbatch : j.postingBatchId = some b := by
    obtain ⟨⟨j', hj', hage⟩, _⟩ := run_permanent hfrom k original hget (Or.inl hposted)
    rw [hj, Option.some.injEq] at hj'
    rw [hj', hage.postingBatchId, hb]
  have hrow := (LedgerPostingService.findBatch_eq_some hholder).1
  rw [hid] at hrow
  exact hbooks.keyReusable hj hreversed hjbatch hrow

/-! ### Two reversals -/

def twoPostedCalls : List Operation :=
  [.createJournal sampleEnv 0 sampleInput 7, .submitJournal 0 0 7, .approveJournal sampleEnv 0 0 8,
    .postJournal 0 0 8 (some "bank-recon:7") false none,
    .createJournal sampleEnv 0 sampleInput 7, .submitJournal 0 1 7, .approveJournal sampleEnv 0 1 8,
    .postJournal 0 1 8 none false none]

def twoPostedDb : Db := sampleDb.after twoPostedCalls

theorem twoPostedDb_reachable : ledgerSystem.Reachable twoPostedDb :=
  reachable_after rfl rfl rfl twoPostedCalls

def sampleReversal (key : Option String) : Tx ReversalResult :=
  createReversal sampleEnv 0 1 january 8 "mistake" true key false none

/-- Reversed under the first journal's key, the second journal keeps its net movement. -/
theorem reversal_replayed :
    ¬ ∀ s, ledgerSystem.Reachable s →
      ∀ env org k d user reason key allow session result s',
        createReversal env org k d user reason true key allow session s =
          .ok result s' → Cancelled s' k s.journals.next := by
  intro h
  obtain ⟨hreturns, hnet⟩ : returns (sampleReversal (some "bank-recon:7")) twoPostedDb = true ∧
      netOf (commit (sampleReversal (some "bank-recon:7")) twoPostedDb).ledger 1 0 .none +
        netOf (commit (sampleReversal (some "bank-recon:7")) twoPostedDb).ledger
          twoPostedDb.journals.next 0 .none = 333333 / 1000000 := by
    decide +kernel
  obtain ⟨result, s', hcall⟩ := returns_iff.mp hreturns
  have hcancelled := h twoPostedDb twoPostedDb_reachable _ _ _ _ _ _ _ _ _ result s' hcall
  rw [commit_of_ok hcall, hcancelled.net 0 .none] at hnet
  exact absurd hnet (by norm_num)

/-- Reversed under its own default key, the second journal is cancelled and stays so, and the two
move nothing together. -/
theorem reversal_cancels_sample :
    ∃ result s', sampleReversal none twoPostedDb = .ok result s' ∧
      (∀ t, ledgerSystem.Run s' t → Cancelled t 1 twoPostedDb.journals.next) ∧
      ∀ a dims, chainNet s' [twoPostedDb.journals.next, 1] a dims = 0 := by
  obtain ⟨hreturns, hkey, hposted⟩ : returns (sampleReversal none) twoPostedDb = true ∧
      (¬ LedgerPostingService.LiveKey twoPostedDb 0
        (effectiveKey 0 twoPostedDb.journals.next none)) ∧
      (twoPostedDb.journals.get? 1).any (fun j => j.status = .posted) = true := by
    decide +kernel
  obtain ⟨result, s', hcall⟩ := returns_iff.mp hreturns
  obtain ⟨j, hj, hstatus⟩ := (Option.any_eq_true _ _).mp hposted
  obtain ⟨hone, hchain⟩ := reversal_cancels twoPostedDb_reachable
  obtain ⟨_, _, _, _, _, _, _, _, hlater⟩ :=
    hone sampleEnv 0 1 january 8 "mistake" none false none result s' hcall hkey
  refine ⟨result, s', hcall, fun t hrun => (hlater t hrun).1, fun a dims => ?_⟩
  exact hchain 1 1 _ s' j hj (of_decide_eq_true hstatus) (.reverse .start hcall hkey) a dims

end DotmacErp
