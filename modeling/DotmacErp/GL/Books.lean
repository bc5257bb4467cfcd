import DotmacErp.Foundation.Totals
import DotmacErp.GL.Lifecycle

/-!
# The books

What ties journals, batches and the ledger together in every reachable state. `Filed` is the
condition on one journal: a booked journal's rows record its lines one by one under its own
posted batch, any other journal has neither rows nor a batch, and lines are stored values
under distinct keys. `Books` adds what concerns several journals at once: every row has its
journal, a batch belongs to one journal, and every batch balances.

`Books` is kept by every write, each case by looking at the one journal it touches, and so
holds in every reachable state (`books_of_reachable`).
-/

namespace DotmacErp

open Relational Totals LedgerPostingService

def rowsOfJournal (ledger : List PostedLedgerLine) (k : UUID) : List PostedLedgerLine :=
  ledger.filter fun row => row.journalEntryId = k

structure Records (line : JournalEntryLine) (row : PostedLedgerLine) : Prop where
  journalLineId : row.journalLineId = line.lineId
  accountId : row.accountId = line.accountId
  debitAmount : row.debitAmount = amountColumn line.debitAmountFunctional
  creditAmount : row.creditAmount = amountColumn line.creditAmountFunctional
  dimensions : row.dimensions = line.dimensions
  description : row.description = line.description

def batchDebits (ledger : List PostedLedgerLine) (b : UUID) : ℚ :=
  total PostedLedgerLine.debitAmount PostedLedgerLine.postingBatchId b ledger

def batchCredits (ledger : List PostedLedgerLine) (b : UUID) : ℚ :=
  total PostedLedgerLine.creditAmount PostedLedgerLine.postingBatchId b ledger

structure Filed (ledger : List PostedLedgerLine) (batches : Table PostingBatch) (k : UUID)
    (journal : JournalEntry) : Prop where
  lineKeys : (journal.lines.map JournalEntryLine.lineId).Nodup
  lines : journal.lines ≠ []
  stored : ∀ line ∈ journal.lines, line.stored = line ∧ line.Checked
  booked : Booked journal.status → ∃ b batch, journal.postingBatchId = some b ∧
    batches.get? b = some batch ∧ batch.status = .posted ∧
    batch.organizationId = journal.organizationId ∧
    List.Forall₂ Records journal.lines (rowsOfJournal ledger k) ∧
    ∀ row ∈ rowsOfJournal ledger k, row.postingBatchId = b
  unbooked : ¬ Booked journal.status →
    rowsOfJournal ledger k = [] ∧ journal.postingBatchId = none

/-- The invariant of the journals, the batches and the ledger. -/
structure Books (s : Db) : Prop where
  filed : ∀ k j, s.journals.get? k = some j → Filed s.ledger s.batches k j
  rowJournal : ∀ row ∈ s.ledger, (s.journals.get? row.journalEntryId).isSome
  batchJournal : ∀ k k' j j' b, s.journals.get? k = some j → s.journals.get? k' = some j' →
    j.postingBatchId = some b → j'.postingBatchId = some b → k = k'
  balanced : ∀ b, batchDebits s.ledger b = batchCredits s.ledger b
  uniqueKeys : UniqueKeys s.batches

variable {s s' : Db} {k : UUID}

theorem books_of_empty (hj : s.journals.rows = []) (hl : s.ledger = [])
    (hb : UniqueKeys s.batches) : Books s := by
  have hnone : ∀ k j, s.journals.get? k ≠ some j := fun k j h => by
    simpa [hj] using Table.get?_eq_some.mp h
  refine ⟨fun k j h => absurd h (hnone k j), by simp [hl],
    fun k _ j _ _ h => absurd h (hnone k j), fun b => ?_, hb⟩
  simp [batchDebits, batchCredits, hl]

/-! ### One journal at a time -/

theorem Books.rows_of_unused (h : Books s) (hk : s.journals.get? k = none) :
    rowsOfJournal s.ledger k = [] := by
  rw [rowsOfJournal, List.filter_eq_nil_iff]
  intro row hrow hrowk
  have hsome := h.rowJournal row hrow
  rw [of_decide_eq_true hrowk, hk] at hsome
  exact absurd hsome (by simp)

theorem stampLines_filed {lines : List JournalEntryLine} (hne : lines ≠ [])
    (haccepts : s.AcceptsLines (stampLines s.nextLineId lines)) :
    ((stampLines s.nextLineId lines).map JournalEntryLine.lineId).Nodup ∧
      stampLines s.nextLineId lines ≠ [] ∧
      ∀ line ∈ stampLines s.nextLineId lines, line.stored = line ∧ line.Checked := by
  refine ⟨nodup_stampLines _ _, ?_, fun line hline => ⟨?_, (haccepts line hline).1⟩⟩
  · rw [← List.length_pos_iff] at hne ⊢
    simpa using hne
  · obtain ⟨_, _, l, _, hl⟩ := mem_stampLines hline
    rw [hl]
    simp [JournalEntryLine.stored, Option.map_map, Function.comp_def]

variable {journal : JournalEntry}

/-- A journal with freshly stamped lines that is not booked yet is filed under an unused
key. -/
theorem Books.filed_entering (h : Books s)
    {lines : List JournalEntryLine} (entering : Entering journal) (hne : lines ≠ [])
    (hlines : journal.lines = stampLines s.nextLineId lines)
    (haccepts : s.AcceptsLines journal.lines) :
    Filed s.ledger s.batches s.journals.next journal := by
  rw [hlines] at haccepts
  obtain ⟨hkeys, hnonempty, hstored⟩ := stampLines_filed hne haccepts
  have hunbooked : ¬ Booked journal.status := by
    rcases entering.1 with hs | hs <;> simp [Booked, hs]
  exact ⟨hlines ▸ hkeys, hlines ▸ hnonempty, hlines ▸ hstored,
    fun hb => absurd hb hunbooked,
    fun _ => ⟨h.rows_of_unused (Table.get?_next _), entering.2.1⟩⟩

theorem Books.modify (h : Books s) {f : JournalEntry → JournalEntry}
    {n : ℕ} (hget : s.journals.get? k = some journal)
    (hbatch : (f journal).postingBatchId = journal.postingBatchId)
    (hfiled : Filed s.ledger s.batches k (f journal)) :
    Books (s.withJournals (s.journals.modify k f) n) := by
  have hlookup : ∀ k' j', (s.journals.modify k f).get? k' = some j' →
      ∃ j, s.journals.get? k' = some j ∧ j'.postingBatchId = j.postingBatchId ∧
        Filed s.ledger s.batches k' j' := by
    intro k' j' hj'
    rw [Table.get?_modify] at hj'
    split_ifs at hj' with hk
    · subst hk
      rw [hget, Option.map_some, Option.some.injEq] at hj'
      subst hj'
      exact ⟨journal, hget, hbatch, hfiled⟩
    · exact ⟨j', hj', rfl, h.filed k' j' hj'⟩
  refine ⟨fun k' j' hj' => ?_, fun row hrow => ?_, fun k₁ k₂ j₁ j₂ b h₁ h₂ hb₁ hb₂ => ?_,
    h.balanced, h.uniqueKeys⟩
  · obtain ⟨_, _, _, hfiled'⟩ := hlookup k' j' hj'
    exact hfiled'
  · have hsome := h.rowJournal row hrow
    simp only [Db.withJournals, Table.get?_modify]
    split_ifs <;> simpa using hsome
  · obtain ⟨i₁, hi₁, hb₁', _⟩ := hlookup k₁ j₁ h₁
    obtain ⟨i₂, hi₂, hb₂', _⟩ := hlookup k₂ j₂ h₂
    exact h.batchJournal k₁ k₂ i₁ i₂ b hi₁ hi₂ (hb₁' ▸ hb₁) (hb₂' ▸ hb₂)

theorem Books.insert (h : Books s) {n : ℕ} (hbatch : journal.postingBatchId = none)
    (hfiled : Filed s.ledger s.batches s.journals.next journal) :
    Books (s.withJournals (s.journals.insert journal) n) := by
  have hlookup : ∀ k' j', (s.journals.insert journal).get? k' = some j' →
      (k' = s.journals.next ∧ j' = journal) ∨ s.journals.get? k' = some j' := by
    intro k' j' hj'
    rw [Table.get?_insert] at hj'
    split_ifs at hj' with hk
    · exact Or.inl ⟨hk, (Option.some.inj hj').symm⟩
    · exact Or.inr hj'
  refine ⟨fun k' j' hj' => ?_, fun row hrow => ?_, fun k₁ k₂ j₁ j₂ b h₁ h₂ hb₁ hb₂ => ?_,
    h.balanced, h.uniqueKeys⟩
  · rcases hlookup k' j' hj' with ⟨rfl, rfl⟩ | hold
    · exact hfiled
    · exact h.filed k' j' hold
  · obtain ⟨j, hj⟩ := Option.isSome_iff_exists.mp (h.rowJournal row hrow)
    exact Option.isSome_iff_exists.mpr ⟨j, Table.get?_insert_of_some hj _⟩
  · rcases hlookup k₁ j₁ h₁ with ⟨_, rfl⟩ | hold₁
    · exact absurd (hbatch.symm.trans hb₁) (by simp)
    · rcases hlookup k₂ j₂ h₂ with ⟨_, rfl⟩ | hold₂
      · exact absurd (hbatch.symm.trans hb₂) (by simp)
      · exact h.batchJournal k₁ k₂ j₁ j₂ b hold₁ hold₂ hb₁ hb₂

/-! ### Every write keeps the books -/

/-- An update that keeps a filed journal's lines, batch and organization keeps it filed when it
stays on its side of the ledger. -/
theorem Filed.of_keeps {ledger : List PostedLedgerLine} {batches : Table PostingBatch}
    {journal' : JournalEntry} (h : Filed ledger batches k journal)
    (hlines : journal'.lines = journal.lines)
    (hbatch : journal'.postingBatchId = journal.postingBatchId)
    (horg : journal'.organizationId = journal.organizationId)
    (hside : Booked journal'.status ↔ Booked journal.status) :
    Filed ledger batches k journal' := by
  refine ⟨hlines ▸ h.lineKeys, hlines ▸ h.lines, hlines ▸ h.stored, fun hb => ?_, fun hb => ?_⟩
  · rw [hbatch, horg, hlines]
    exact h.booked (hside.mp hb)
  · rw [hbatch]
    exact h.unbooked fun hb' => hb (hside.mpr hb')

theorem rowsOf_records {request : PostingRequest}
    {batchId periodId : UUID} (hentries : request.entries = []) :
    List.Forall₂ Records journal.lines
      (rowsOf s request journal batchId periodId) := by
  have hrows : rowsOf s request journal batchId periodId =
      journal.lines.map fun line => ledgerLine s request journal batchId
        periodId line.lineId (entryOfLine line) := by
    rw [rowsOf, requestEntries, if_pos hentries,
      loadJournalLines, ledgerLines]
    refine List.ext_getElem (by simp) fun i h₁ h₂ => ?_
    simp [entryOfLine]
  rw [hrows, List.forall₂_map_right_iff]
  exact List.forall₂_same.mpr fun line _ => ⟨rfl, rfl, rfl, rfl, rfl, rfl⟩

theorem mem_rowsOf {request : PostingRequest}
    {batchId periodId : UUID} {row : PostedLedgerLine}
    (h : row ∈ rowsOf s request journal batchId periodId) :
    row.journalEntryId = request.journalEntryId ∧ row.postingBatchId = batchId ∧
      row.fiscalPeriodId = periodId ∧ row.postingDate = request.postingDate ∧
      row.organizationId = request.organizationId := by
  rw [rowsOf, ledgerLines, List.mem_mapIdx] at h
  obtain ⟨i, hi, rfl⟩ := h
  exact ⟨rfl, rfl, rfl, rfl, rfl⟩

section Post

variable {request : PostingRequest} {journal : JournalEntry} {batchId periodId : UUID}

theorem rowsOfJournal_post
    (h : Written request journal batchId periodId s s') :
    rowsOfJournal s'.ledger k = if k = request.journalEntryId then
      rowsOfJournal s.ledger k ++
        rowsOf s request journal batchId periodId
      else rowsOfJournal s.ledger k := by
  rw [h.ledger, rowsOfJournal, List.filter_append, rowsOfJournal]
  split_ifs with hk
  · congr 1
    exact List.filter_eq_self.mpr fun row hrow => by simpa [hk] using (mem_rowsOf hrow).1
  · rw [List.append_right_eq_self]
    exact List.filter_eq_nil_iff.mpr fun row hrow => by
      simpa [(mem_rowsOf hrow).1] using Ne.symm hk

theorem posted_of_written
    (h : Written request journal batchId periodId s s') {b : UUID}
    {batch : PostingBatch} (hget : s.batches.get? b = some batch)
    (hposted : batch.status = .posted) :
    ∃ batch', s'.batches.get? b = some batch' ∧ batch'.status = .posted ∧
      batch'.organizationId = batch.organizationId ∧ b ≠ batchId := by
  have hne : b ≠ batchId := by
    rintro rfl
    exact absurd (hposted.symm.trans (h.retried batch hget).1) (by simp)
  rcases h.otherBatches b hne with hsame | ⟨old, hfind, hold, _, hretired⟩
  · exact ⟨batch, hsame.trans hget, hposted, rfl, hne⟩
  · have hold' : s.batches.get? b = some old := (Table.find?_eq_some hfind).1
    obtain rfl : batch = old := Option.mem_unique hget hold'
    exact ⟨_, hretired, hposted, rfl, hne⟩

theorem Books.post (h : Books s) (hentries : request.entries = [])
    (hw : Written request journal batchId periodId s s') :
    Books s' := by
  have hfiled := h.filed _ _ hw.found
  have hunbooked : ¬ Booked journal.status := by simp [Booked, hw.approved]
  obtain ⟨batch, hbatch, horg, _, hposted⟩ := hw.batch
  have hlookup : ∀ k' j', s'.journals.get? k' = some j' →
      (k' = request.journalEntryId ∧ j' = markPosted request batchId journal)
        ∨ (k' ≠ request.journalEntryId ∧ s.journals.get? k' = some j') := by
    intro k' j' hj'
    rw [hw.journals, Table.get?_modify] at hj'
    split_ifs at hj' with hk
    · subst hk
      rw [hw.found, Option.map_some, Option.some.injEq] at hj'
      exact Or.inl ⟨rfl, hj'.symm⟩
    · exact Or.inr ⟨hk, hj'⟩
  -- the batch of the posting belonged to no journal
  have hfree : ∀ k' j', s.journals.get? k' = some j' → j'.postingBatchId ≠ some batchId := by
    intro k' j' hj' hb
    by_cases hbooked : Booked j'.status
    · obtain ⟨b, old, hb', hold, hposted', _⟩ := (h.filed k' j' hj').booked hbooked
      obtain rfl : b = batchId := Option.mem_unique hb' hb
      exact absurd (hposted'.symm.trans (hw.retried old hold).1) (by simp)
    · rw [((h.filed k' j' hj').unbooked hbooked).2] at hb
      exact absurd hb (by simp)
  refine ⟨fun k' j' hj' => ?_, fun row hrow => ?_, fun k₁ k₂ j₁ j₂ b h₁ h₂ hb₁ hb₂ => ?_,
    fun b => ?_, hw.uniqueKeys h.uniqueKeys⟩
  · rcases hlookup k' j' hj' with ⟨rfl, rfl⟩ | ⟨hk, hold⟩
    · refine ⟨hfiled.lineKeys, hfiled.lines, hfiled.stored, fun _ => ?_,
        fun hb => absurd (Or.inl rfl) hb⟩
      rw [rowsOfJournal_post hw, if_pos rfl, (hfiled.unbooked hunbooked).1, List.nil_append]
      exact ⟨batchId, batch, rfl, hbatch, hposted, horg.trans hw.organization.symm,
        rowsOf_records hentries, fun row hrow => (mem_rowsOf hrow).2.1⟩
    · have hold' := h.filed k' j' hold
      refine ⟨hold'.lineKeys, hold'.lines, hold'.stored, fun hb => ?_, fun hb => ?_⟩
      · obtain ⟨b, old, hjb, hget, hstatus, horg', hrecords, hrows⟩ := hold'.booked hb
        obtain ⟨old', hget', hstatus', horg'', _⟩ := posted_of_written hw hget hstatus
        rw [rowsOfJournal_post hw, if_neg hk]
        exact ⟨b, old', hjb, hget', hstatus', horg''.trans horg', hrecords, hrows⟩
      · rw [rowsOfJournal_post hw, if_neg hk]
        exact hold'.unbooked hb
  · rw [hw.journals, Table.get?_modify]
    rw [hw.ledger, List.mem_append] at hrow
    rcases hrow with hrow | hrow
    · have hsome := h.rowJournal row hrow
      split_ifs <;> simpa using hsome
    · rw [(mem_rowsOf hrow).1, if_pos rfl, hw.found]
      rfl
  · rcases hlookup k₁ j₁ h₁ with ⟨rfl, rfl⟩ | ⟨_, hold₁⟩ <;>
      rcases hlookup k₂ j₂ h₂ with ⟨rfl, rfl⟩ | ⟨_, hold₂⟩
    · rfl
    · obtain rfl : batchId = b := Option.some.inj hb₁
      exact absurd hb₂ (hfree k₂ j₂ hold₂)
    · obtain rfl : batchId = b := Option.some.inj hb₂
      exact absurd hb₁ (hfree k₁ j₁ hold₁)
    · exact h.batchJournal k₁ k₂ j₁ j₂ b hold₁ hold₂ hb₁ hb₂
  · have hkeys : ∀ row ∈ rowsOf s request journal batchId periodId,
        row.postingBatchId = batchId := fun row hrow => (mem_rowsOf hrow).2.1
    have hold := h.balanced b
    rw [batchDebits, batchCredits] at hold ⊢
    rw [hw.ledger, total_append, total_append, hold, total_of_forall_eq hkeys,
      total_of_forall_eq hkeys, hw.balanced]

end Post

/-- **The books are kept by every write.** -/
theorem Books.write (h : Books s) (hw : Write s s') : Books s' := by
  cases hw with
  | add journal lines entering _ _ hne hlines haccepts =>
    exact h.insert entering.2.1 (h.filed_entering entering hne hlines haccepts)
  | addReversal k original journal hget hposted _ entering _ _ _ hlines haccepts =>
    have hne : original.lines.map ReversalService.reversedLine ≠ [] := by
      simpa using (h.filed k original hget).lines
    have hadded : Books (s.withJournals (s.journals.insert journal) original.lines.length) :=
      h.insert entering.2.1 (h.filed_entering entering hne hlines haccepts)
    have hget' : (s.journals.insert journal).get? k = some original :=
      Table.get?_insert_of_some hget journal
    have hfiled : Filed s.ledger s.batches k
        (ReversalService.linkReversal s.journals.next original) :=
      (hadded.filed k original hget').of_keeps rfl rfl rfl Iff.rfl
    exact hadded.modify (n := 0) hget' rfl hfiled
  | rewrite k journal f lines hget hdraft hkeeps hstatus _ hne hlines haccepts =>
    have hfiled := h.filed k journal hget
    have hunbooked : ¬ Booked journal.status := by simp [Booked, hdraft]
    obtain ⟨hkeys, hnonempty, hstored⟩ := stampLines_filed hne haccepts
    refine h.modify hget (hkeeps journal).2.1 ⟨hlines journal ▸ hkeys, hlines journal ▸ hnonempty,
      hlines journal ▸ hstored, fun hb => absurd (hstatus journal ▸ hb) hunbooked, fun _ => ?_⟩
    rw [(hkeeps journal).2.1]
    exact hfiled.unbooked hunbooked
  | erase k journal hget hdraft _ =>
    have hnorows := ((h.filed k journal hget).unbooked (by simp [Booked, hdraft])).1
    have hlookup : ∀ k' j', (s.journals.erase k).get? k' = some j' →
        s.journals.get? k' = some j' := by
      intro k' j' hj'
      rw [Table.get?_erase] at hj'
      split_ifs at hj' with hk
      exact hj'
    refine ⟨fun k' j' hj' => h.filed k' j' (hlookup k' j' hj'), fun row hrow => ?_,
      fun k₁ k₂ j₁ j₂ b h₁ h₂ => h.batchJournal k₁ k₂ j₁ j₂ b (hlookup k₁ j₁ h₁)
        (hlookup k₂ j₂ h₂), h.balanced, h.uniqueKeys⟩
    rw [Table.get?_erase, if_neg]
    · exact h.rowJournal row hrow
    · intro hk
      have hmem : row ∈ rowsOfJournal s.ledger k := by
        simpa [rowsOfJournal, hk] using hrow
      rw [hnorows] at hmem
      exact absurd hmem (by simp)
  | move k journal f hget hbefore hafter hkeeps _ hlines =>
    exact h.modify (n := 0) hget (hkeeps journal).2.1 ((h.filed k journal hget).of_keeps
      (hlines journal) (hkeeps journal).2.1 (hkeeps journal).1
      (iff_of_false (hafter journal) hbefore))
  | reverse k journal hget hposted =>
    have hfiled : Filed s.ledger s.batches k (ReversalService.markReversed journal) :=
      (h.filed k journal hget).of_keeps rfl rfl rfl (iff_of_true (Or.inr rfl) (Or.inl hposted))
    exact h.modify (n := 0) hget rfl hfiled
  | reset request batches hreset =>
    refine ⟨fun k j hj => ?_, h.rowJournal, h.batchJournal, h.balanced,
      hreset.uniqueKeys h.uniqueKeys⟩
    have hfiled := h.filed k j hj
    refine ⟨hfiled.lineKeys, hfiled.lines, hfiled.stored, fun hb => ?_, hfiled.unbooked⟩
    obtain ⟨b, batch, hjb, hget, hposted, hrest⟩ := hfiled.booked hb
    refine ⟨b, batch, hjb, ?_, hposted, hrest⟩
    rcases hreset with rfl | ⟨kb, old, f, hfind, hfailed, _, rfl⟩
    · exact hget
    · rw [Table.get?_modify_of_ne _ f, hget]
      rintro rfl
      have hold : s.batches.get? b = some old := (Table.find?_eq_some hfind).1
      obtain rfl : batch = old := Option.mem_unique hget hold
      exact absurd (hposted.symm.trans hfailed) (by simp)
  | post request journal batchId periodId _ hentries hwritten =>
    exact h.post hentries hwritten
  | calendar years periods =>
    exact ⟨h.filed, h.rowJournal, h.batchJournal, h.balanced, h.uniqueKeys⟩
  | external accounts bankAccounts recs =>
    exact ⟨h.filed, h.rowJournal, h.batchJournal, h.balanced, h.uniqueKeys⟩

/-- **The books are in order in every reachable state.** -/
theorem books_of_reachable (h : ledgerSystem.Reachable s) : Books s :=
  reachable_of_writes h (fun _ => books_of_empty) fun _ _ hs hw => hs.write hw

end DotmacErp
