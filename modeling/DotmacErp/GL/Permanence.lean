import DotmacErp.GL.LedgerIdentity

/-!
# What is booked stays booked

A posted or reversed journal keeps everything but its status and the link to its reversal, its
rows are never added to, and a reversed journal stays reversed: no write can undo a posting
(`Permanent`). The relation is reflexive and transitive and holds across every write, hence
across every run (`run_permanent`), in which the ledger only grows (`booked_stays_booked`). So
does what is read off the rows of a journal, such as its net movement on an account and dimensions
(`netOf`).
-/

namespace DotmacErp

open Relational Totals

variable {s s' s'' : Db} {k : UUID} {j j' j'' : JournalEntry}

/-! ### One journal -/

structure Later (j j' : JournalEntry) : Prop where
  same : j' = { j with status := j'.status, reversalJournalId := j'.reversalJournalId }
  booked : Booked j'.status
  reversed : j.status = .reversed → j'.status = .reversed
  link : ∀ r, j.reversalJournalId = some r → j'.reversalJournalId = some r

theorem Later.refl (h : Booked j.status) : Later j j := ⟨rfl, h, id, fun _ => id⟩

theorem Later.trans (h : Later j j') (h' : Later j' j'') : Later j j'' := by
  refine ⟨?_, h'.booked, fun hr => h'.reversed (h.reversed hr), fun r hr => h'.link r (h.link r hr)⟩
  rw [h'.same, h.same]

theorem Later.postingBatchId (h : Later j j') : j'.postingBatchId = j.postingBatchId := by
  rw [h.same]

theorem Later.fiscalPeriodId (h : Later j j') : j'.fiscalPeriodId = j.fiscalPeriodId := by
  rw [h.same]

theorem Later.reversedJournalId (h : Later j j') :
    j'.reversedJournalId = j.reversedJournalId := by
  rw [h.same]

/-! ### All journals -/

/-- Every booked journal is still there, with the same rows. -/
def Permanent (s s' : Db) : Prop :=
  ∀ k j, s.journals.get? k = some j → Booked j.status →
    (∃ j', s'.journals.get? k = some j' ∧ Later j j') ∧
      rowsOfJournal s'.ledger k = rowsOfJournal s.ledger k

theorem Permanent.refl (s : Db) : Permanent s s :=
  fun _ j hj hb => ⟨⟨j, hj, Later.refl hb⟩, rfl⟩

theorem Permanent.trans (h : Permanent s s') (h' : Permanent s' s'') : Permanent s s'' := by
  intro k j hj hb
  obtain ⟨⟨j', hj', hlater⟩, hrows⟩ := h k j hj hb
  obtain ⟨⟨j'', hj'', hlater'⟩, hrows'⟩ := h' k j' hj' hlater.booked
  exact ⟨⟨j'', hj'', hlater.trans hlater'⟩, hrows'.trans hrows⟩

theorem permanent_modify {k₀ : UUID} {j₀ : JournalEntry} {f : JournalEntry → JournalEntry}
    {s' : Db} (hget : s.journals.get? k₀ = some j₀)
    (hjournals : s'.journals = s.journals.modify k₀ f) (hledger : s'.ledger = s.ledger)
    (hf : Booked j₀.status → Later j₀ (f j₀)) : Permanent s s' := by
  intro k j hj hb
  refine ⟨?_, by rw [hledger]⟩
  rw [hjournals, Table.get?_modify]
  split_ifs with hk
  · rw [hk, hget, Option.some.injEq] at hj
    rw [hk, hget, Option.map_some]
    exact ⟨f j₀, rfl, hj ▸ hf (hj ▸ hb)⟩
  · exact ⟨j, hj, Later.refl hb⟩

theorem permanent_of_same {s' : Db} (hjournals : s'.journals = s.journals)
    (hledger : s'.ledger = s.ledger) : Permanent s s' := by
  intro k j hj hb
  rw [hjournals, hledger]
  exact ⟨⟨j, hj, Later.refl hb⟩, rfl⟩

theorem permanent_insert {journal : JournalEntry} {s' : Db}
    (hjournals : s'.journals = s.journals.insert journal) (hledger : s'.ledger = s.ledger) :
    Permanent s s' := by
  intro k j hj hb
  rw [hjournals, hledger]
  exact ⟨⟨j, Table.get?_insert_of_some hj journal, Later.refl hb⟩, rfl⟩

theorem permanent_written {request : PostingRequest} {journal : JournalEntry}
    {batchId periodId : UUID}
    (hw : LedgerPostingService.Written request journal batchId periodId s s') :
    Permanent s s' := by
  intro k j hj hb
  have hk : k ≠ request.journalEntryId := by
    intro hk
    rw [hk, hw.found, Option.some.injEq] at hj
    rw [← hj, hw.approved] at hb
    exact absurd hb (by decide)
  refine ⟨⟨j, ?_, Later.refl hb⟩, ?_⟩
  · rw [hw.journals, Table.get?_modify_of_ne hk, hj]
  · rw [rowsOfJournal_post hw, if_neg hk]

/-- **Every write is permanent.** -/
theorem Write.permanent (h : Write s s') : Permanent s s' := by
  cases h with
  | add journal lines => exact permanent_insert rfl rfl
  | addReversal k original journal hget hposted hunlinked =>
    have hadded : Permanent s (s.withJournals (s.journals.insert journal) original.lines.length) :=
      permanent_insert rfl rfl
    refine hadded.trans (permanent_modify (Table.get?_insert_of_some hget journal) rfl rfl ?_)
    exact fun hb => ⟨rfl, hb, id, fun r hr => by simp [hunlinked] at hr⟩
  | rewrite k journal f lines hget hdraft =>
    refine permanent_modify hget rfl rfl fun hb => ?_
    rw [hdraft] at hb
    exact absurd hb (by decide)
  | erase k journal hget hdraft =>
    intro k' j hj hb
    have hk : k' ≠ k := by
      intro hk
      rw [hk, hget, Option.some.injEq] at hj
      rw [← hj, hdraft] at hb
      exact absurd hb (by decide)
    refine ⟨⟨j, ?_, Later.refl hb⟩, rfl⟩
    rw [Table.get?_erase, if_neg hk, hj]
  | move k journal f hget hbefore =>
    exact permanent_modify hget rfl rfl fun hb => absurd hb hbefore
  | reverse k journal hget =>
    exact permanent_modify hget rfl rfl fun _ => ⟨rfl, Or.inr rfl, fun _ => rfl, fun _ => id⟩
  | reset request batches => exact permanent_of_same rfl rfl
  | post request journal batchId periodId _ _ hwritten => exact permanent_written hwritten
  | calendar years periods => exact permanent_of_same rfl rfl
  | external accounts bankAccounts recs => exact permanent_of_same rfl rfl

/-- **Every run is permanent.** -/
theorem run_permanent (h : ledgerSystem.Run s s') : Permanent s s' := by
  have hwrites : Writes s s' := run_writes h
  clear h
  induction hwrites with
  | refl => exact Permanent.refl s
  | tail _ hlast ih => exact ih.trans hlast.permanent

theorem Write.ledger_prefix (h : Write s s') : s.ledger <+: s'.ledger := by
  cases h with
  | post request journal batchId periodId _ _ hwritten =>
    rw [hwritten.ledger]
    exact List.prefix_append _ _
  | _ => exact List.prefix_rfl

/-- **What is booked stays booked, in every run.** The ledger keeps its rows in their order and new
ones come behind them; a booked journal is never deleted, keeps all but its status and the link to
its reversal, is not taken back, keeps a link it has, and has the same rows. -/
theorem booked_stays_booked (h : ledgerSystem.Run s s') :
    s.ledger <+: s'.ledger ∧
      ∀ k j, s.journals.get? k = some j → Booked j.status →
        ∃ j', s'.journals.get? k = some j' ∧
          j' = { j with status := j'.status, reversalJournalId := j'.reversalJournalId } ∧
          Booked j'.status ∧ (j.status = .reversed → j'.status = .reversed) ∧
          (∀ r, j.reversalJournalId = some r → j'.reversalJournalId = some r) ∧
          rowsOfJournal s'.ledger k = rowsOfJournal s.ledger k := by
  refine ⟨?_, fun k j hj hb => ?_⟩
  · have hwrites : Writes s s' := run_writes h
    clear h
    induction hwrites with
    | refl => exact List.prefix_rfl
    | tail _ hlast ih => exact ih.trans hlast.ledger_prefix
  · obtain ⟨⟨j', hj', hlater⟩, hrows⟩ := run_permanent h k j hj hb
    exact ⟨j', hj', hlater.same, hlater.booked, hlater.reversed, hlater.link, hrows⟩

/-- The sale keeps its rows when it is reversed. -/
theorem booked_stays_booked_sample :
    let s := sampleDb.after (sampleCalls.take 4)
    let s' := sampleDb.after sampleCalls
    s.ledger.length = 2 ∧ s.ledger <+: s'.ledger ∧
      (s'.journals.get? 0).map JournalEntry.status = some .reversed ∧
      rowsOfJournal s'.ledger 0 = rowsOfJournal s.ledger 0 := by
  have hrun := run_after (sampleDb.after (sampleCalls.take 4)) (sampleCalls.drop 4)
  have hposted : ((sampleDb.after (sampleCalls.take 4)).journals.get? 0).map
      JournalEntry.status = some .posted := by
    decide +kernel
  obtain ⟨j, hj, hstatus⟩ := Option.map_eq_some_iff.mp hposted
  obtain ⟨j', -, -, -, -, -, hrows⟩ := (booked_stays_booked hrun).2 0 j hj (.inl hstatus)
  exact ⟨by decide +kernel, (booked_stays_booked hrun).1, by decide +kernel, hrows⟩

/-! ### Net movements -/

/-- What a journal's rows move on an account and dimensions, debits less credits. -/
def netOf (ledger : List PostedLedgerLine) (k a : UUID) (d : Dimensions) : ℚ :=
  total (fun row => row.debitAmount - row.creditAmount)
    (fun row => (row.accountId, row.dimensions)) (a, d) (rowsOfJournal ledger k)

def lineNet (lines : List JournalEntryLine) (a : UUID) (d : Dimensions) : ℚ :=
  total (fun line => line.debitAmountFunctional - line.creditAmountFunctional)
    (fun line => (line.accountId, line.dimensions)) (a, d) lines

theorem Filed.netOf_eq {ledger : List PostedLedgerLine} {batches : Table PostingBatch}
    (h : Filed ledger batches k j) (hb : Booked j.status) (a : UUID) (d : Dimensions) :
    netOf ledger k a d = lineNet j.lines a d := by
  obtain ⟨_, _, _, _, _, _, hrecords, _⟩ := h.booked hb
  have hstored : ∀ line ∈ j.lines,
      amountColumn line.debitAmountFunctional = line.debitAmountFunctional ∧
        amountColumn line.creditAmountFunctional = line.creditAmountFunctional := by
    intro line hline
    have hself := (h.stored line hline).1
    exact ⟨congrArg JournalEntryLine.debitAmountFunctional hself,
      congrArg JournalEntryLine.creditAmountFunctional hself⟩
  refine (total_of_forall₂ (((List.forall₂_and_left _ _).mpr ⟨hstored, hrecords⟩).imp ?_)).symm
  rintro line row ⟨⟨hdebit, hcredit⟩, hrow⟩
  rw [hrow.accountId, hrow.dimensions, hrow.debitAmount, hrow.creditAmount, hdebit, hcredit]
  exact ⟨rfl, rfl⟩

theorem lineNet_reversed {lines : List JournalEntryLine} (n : UUID)
    (hstored : ∀ line ∈ lines, line.stored = line) (a : UUID) (d : Dimensions) :
    lineNet (stampLines n (lines.map ReversalService.reversedLine)) a d = -lineNet lines a d := by
  have hswapped : List.Forall₂
      (fun line stamped : JournalEntryLine =>
        stamped.accountId = line.accountId ∧ stamped.dimensions = line.dimensions ∧
          stamped.debitAmountFunctional = amountColumn line.creditAmountFunctional ∧
          stamped.creditAmountFunctional = amountColumn line.debitAmountFunctional)
      lines (stampLines n (lines.map ReversalService.reversedLine)) := by
    rw [List.forall₂_iff_get]
    refine ⟨by simp, fun i h₁ h₂ => ?_⟩
    simp [stampLines, JournalEntryLine.stored, ReversalService.reversedLine]
  rw [lineNet, lineNet, ← total_neg]
  refine (total_of_forall₂ (((List.forall₂_and_left _ _).mpr ⟨hstored, hswapped⟩).imp ?_)).symm
  rintro line stamped ⟨hself, haccount, hdimensions, hdebit, hcredit⟩
  have hd : amountColumn line.debitAmountFunctional = line.debitAmountFunctional :=
    congrArg JournalEntryLine.debitAmountFunctional hself
  have hc : amountColumn line.creditAmountFunctional = line.creditAmountFunctional :=
    congrArg JournalEntryLine.creditAmountFunctional hself
  rw [haccount, hdimensions, hdebit, hcredit, hd, hc, neg_sub]
  exact ⟨rfl, rfl⟩

theorem Permanent.netOf_eq (h : Permanent s s') (hj : s.journals.get? k = some j)
    (hb : Booked j.status) (a : UUID) (d : Dimensions) :
    netOf s'.ledger k a d = netOf s.ledger k a d := by
  rw [netOf, (h k j hj hb).2, netOf]

end DotmacErp
