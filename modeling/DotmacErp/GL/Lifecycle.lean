import DotmacErp.Foundation.System
import DotmacErp.Posting.Adapter

/-!
# The ledger as a transition system

`Operation` lists the calls that reach the general ledger: the journal lifecycle, reversals,
the posting adapter, the period operations of both period services, and what other modules
write to the tables these services only read. A step runs one call as one transaction
(`ledgerSystem`), so a call that raises leaves the database as it was.

Every call that returns is a sequence of `Write`s (`Operation.run_writes`), the few things
that ever happen to journals, batches and the ledger. An invariant of the books is proved once
against `Write`, by cases, and holds in every reachable state (`Reachable.of_writes`).
-/

namespace DotmacErp

open Calendar Relational Session
open ReversalService (storedReversal linkReversal markReversed reversedLine)

/-! ### Writes -/

/-- The journal has rows in the ledger. -/
def Booked (status : JournalStatus) : Prop := status = .posted ∨ status = .reversed

instance (status : JournalStatus) : Decidable (Booked status) :=
  inferInstanceAs (Decidable (_ ∨ _))

def KeepsLinks (f : JournalEntry → JournalEntry) : Prop :=
  ∀ j, (f j).organizationId = j.organizationId ∧ (f j).postingBatchId = j.postingBatchId ∧
    (f j).reversedJournalId = j.reversedJournalId ∧
    (f j).reversalJournalId = j.reversalJournalId

def Entering (journal : JournalEntry) : Prop :=
  (journal.status = .draft ∨ journal.status = .approved) ∧ journal.postingBatchId = none ∧
    journal.reversalJournalId = none

/-- The period of the journal is of its organization and covers its date. -/
def HasPeriod (periods : Table FiscalPeriod) (journal : JournalEntry) : Prop :=
  ∃ p, periods.get? journal.fiscalPeriodId = some p ∧
    p.organizationId = journal.organizationId ∧ p.Covers journal.postingDate

/-- One thing that can happen to the journals, the batches and the ledger. -/
inductive Write (s : Db) : Db → Prop
  /-- A journal is created. -/
  | add (journal : JournalEntry) (lines : List JournalEntryLine)
      (entering : Entering journal) (hreversed : journal.reversedJournalId = none)
      (hperiod : HasPeriod s.fiscalPeriods journal) (hne : lines ≠ [])
      (hlines : journal.lines = stampLines s.nextLineId lines)
      (haccepts : s.AcceptsLines journal.lines) :
      Write s (s.withJournals (s.journals.insert journal) lines.length)
  /-- A journal is created as the reversal of a posted one, and the two are linked. -/
  | addReversal (k : UUID) (original journal : JournalEntry)
      (hget : s.journals.get? k = some original) (hposted : original.status = .posted)
      (hunlinked : original.reversalJournalId = none) (entering : Entering journal)
      (hreversed : journal.reversedJournalId = some k)
      (horg : journal.organizationId = original.organizationId)
      (hperiod : HasPeriod s.fiscalPeriods journal)
      (hlines : journal.lines =
        stampLines s.nextLineId (original.lines.map reversedLine))
      (haccepts : s.AcceptsLines journal.lines) :
      Write s (s.withJournals ((s.journals.insert journal).modify k
        (linkReversal s.journals.next)) original.lines.length)
  /-- A draft is rewritten, header and lines. -/
  | rewrite (k : UUID) (journal : JournalEntry) (f : JournalEntry → JournalEntry)
      (lines : List JournalEntryLine) (hget : s.journals.get? k = some journal)
      (hdraft : journal.status = .draft) (hkeeps : KeepsLinks f)
      (hstatus : ∀ j, (f j).status = j.status)
      (hperiod : HasPeriod s.fiscalPeriods (f journal)) (hne : lines ≠ [])
      (hlines : ∀ j, (f j).lines = stampLines s.nextLineId lines)
      (haccepts : s.AcceptsLines (stampLines s.nextLineId lines)) :
      Write s (s.withJournals (s.journals.modify k f) lines.length)
  /-- A draft no other journal reverses is deleted. -/
  | erase (k : UUID) (journal : JournalEntry) (hget : s.journals.get? k = some journal)
      (hdraft : journal.status = .draft)
      (hfree : ∀ k' j, s.journals.get? k' = some j → j.reversedJournalId ≠ some k) :
      Write s { s with journals := s.journals.erase k }
  /-- A journal outside the ledger changes its status to one outside the ledger. -/
  | move (k : UUID) (journal : JournalEntry) (f : JournalEntry → JournalEntry)
      (hget : s.journals.get? k = some journal) (hbefore : ¬ Booked journal.status)
      (hafter : ∀ j, ¬ Booked (f j).status) (hkeeps : KeepsLinks f)
      (hperiod : ∀ j, (f j).fiscalPeriodId = j.fiscalPeriodId ∧ (f j).postingDate = j.postingDate)
      (hlines : ∀ j, (f j).lines = j.lines) :
      Write s { s with journals := s.journals.modify k f }
  /-- A posted journal is marked as reversed. -/
  | reverse (k : UUID) (journal : JournalEntry) (hget : s.journals.get? k = some journal)
      (hposted : journal.status = .posted) :
      Write s { s with journals := s.journals.modify k markReversed }
  /-- A failed batch is set back to processing. -/
  | reset (request : PostingRequest) (batches : Table PostingBatch)
      (hreset : LedgerPostingService.Reset request s batches) :
      Write s { s with batches := batches }
  /-- A posting is written. -/
  | post (request : PostingRequest) (journal : JournalEntry) (batchId periodId : UUID)
      (s' : Db) (hentries : request.entries = [])
      (hwritten : LedgerPostingService.Written request journal batchId periodId s s') :
      Write s s'
  /-- Fiscal years and periods change. -/
  | calendar (years : Table FiscalYear) (periods : Table FiscalPeriod)
      (hage : PeriodsAge s.fiscalPeriods periods) :
      Write s { s with fiscalYears := years, fiscalPeriods := periods }
  /-- Other modules write accounts, bank accounts and reconciliations. -/
  | external (accounts : Table Account) (bankAccounts : Table BankAccount)
      (recs : Table BankReconciliation) :
      Write s { s with
        accounts := accounts, bankAccounts := bankAccounts, bankReconciliations := recs }

abbrev Writes : Db → Db → Prop := Relation.ReflTransGen Write

/-! ### Operations -/

/-- The calls that reach the general ledger, with their arguments. -/
inductive Operation
  | createJournal (env : Env) (org : UUID) (input : JournalInput) (user : UUID)
  | updateJournal (org journalEntryId : UUID) (input : JournalInput)
  | deleteJournal (org journalEntryId : UUID)
  | submitJournal (org journalEntryId user : UUID)
  | approveJournal (env : Env) (org journalEntryId user : UUID)
  | postJournal (org journalEntryId user : UUID) (idempotencyKey : Option String)
      (allowAdjustment : Bool) (reopenSessionId : Option UUID)
  | voidJournal (org journalEntryId : UUID)
  | createReversal (env : Env) (org originalJournalId : UUID) (reversalDate : Date)
      (user : UUID) (reason : String) (autoPost : Bool) (idempotencyKey : Option String)
      (allowAdjustment : Bool) (reopenSessionId : Option UUID)
  | createApproveAndPostJournal (env : Env) (org : UUID) (input : JournalInput)
      (user : UUID) (posting : BasePostingAdapter.LedgerPosting)
  | postToLedger (org journalEntryId user : UUID)
      (posting : BasePostingAdapter.LedgerPosting)
  | createPeriod (org : UUID) (input : FiscalPeriodInput)
  | openPeriod (org periodId : UUID)
  | softClosePeriod (org periodId user : UUID)
  | hardClosePeriod (org periodId user : UUID)
  | reopenPeriod (org periodId reopenSessionId : UUID)
  | createYearWithPeriods (org : UUID) (input : FiscalYearInput) (periodCount : ℕ)
  | ensurePeriodExists (org : UUID) (targetDate : Date)
  | guardOpenPeriod (org periodId : UUID)
  | guardSoftClosePeriod (org periodId user : UUID)
  | guardHardClosePeriod (org periodId user : UUID)
  | guardReopenPeriod (org periodId reopenSessionId : UUID)
  | closeReopenSession (org periodId reopenSessionId user : UUID)
  | external (accounts : Table Account) (bankAccounts : Table BankAccount)
      (recs : Table BankReconciliation)

def Operation.run : Operation → Tx PUnit
  | createJournal env org input user => discard (JournalService.createJournal env org input user)
  | updateJournal org k input => JournalService.updateJournal org k input
  | deleteJournal org k => JournalService.deleteJournal org k
  | submitJournal org k user => JournalService.submitJournal org k user
  | approveJournal env org k user => JournalService.approveJournal env org k user
  | postJournal org k user key allow session =>
    discard (JournalService.postJournal org k user key allow session)
  | voidJournal org k => JournalService.voidJournal org k
  | createReversal env org k d user reason autoPost key allow session =>
    discard (ReversalService.createReversal env org k d user reason autoPost key allow session)
  | createApproveAndPostJournal env org input user posting =>
    discard (BasePostingAdapter.createApproveAndPostJournal env org input user posting)
  | postToLedger org k user posting =>
    discard (BasePostingAdapter.postToLedger org k user posting)
  | createPeriod org input => discard (FiscalPeriodService.createPeriod org input)
  | openPeriod org k => discard (FiscalPeriodService.openPeriod org k)
  | softClosePeriod org k user => discard (FiscalPeriodService.softClosePeriod org k user)
  | hardClosePeriod org k user => discard (FiscalPeriodService.hardClosePeriod org k user)
  | reopenPeriod org k session => discard (FiscalPeriodService.reopenPeriod org k session)
  | createYearWithPeriods org input count =>
    discard (FiscalYearService.createYearWithPeriods org input count)
  | ensurePeriodExists org d => discard (PeriodGuardService.ensurePeriodExists org d)
  | guardOpenPeriod org k => discard (PeriodGuardService.openPeriod org k)
  | guardSoftClosePeriod org k user => discard (PeriodGuardService.softClosePeriod org k user)
  | guardHardClosePeriod org k user => discard (PeriodGuardService.hardClosePeriod org k user)
  | guardReopenPeriod org k session => discard (PeriodGuardService.reopenPeriod org k session)
  | closeReopenSession org k session user =>
    discard (PeriodGuardService.closeReopenSession org k session user)
  | external accounts bankAccounts recs =>
    modify fun s => { s with
      accounts := accounts, bankAccounts := bankAccounts, bankReconciliations := recs }

/-- The general ledger: it starts without journals and ledger rows, under any calendar and
accounts and any batches the unique constraint admits, and takes one call a step. -/
def ledgerSystem : System Db Operation where
  init s := s.journals.rows = [] ∧ s.ledger = [] ∧ LedgerPostingService.UniqueKeys s.batches
  step s op s' := s' = commit op.run s

def Db.after (s : Db) (ops : List Operation) : Db :=
  ops.foldl (fun s op => commit op.run s) s

theorem run_after (s : Db) (ops : List Operation) : ledgerSystem.Run s (s.after ops) := by
  induction ops generalizing s with
  | nil => exact .refl
  | cons op ops ih => exact (System.Run.single (i := op) rfl).trans (ih _)

variable {s : Db}

theorem init_of_empty (hj : s.journals.rows = []) (hl : s.ledger = [])
    (hb : s.batches.rows = []) : ledgerSystem.init s := by
  refine ⟨hj, hl, fun k k' batch batch' hget => ?_⟩
  simpa [hb] using Table.get?_eq_some.mp hget

theorem reachable_after (hj : s.journals.rows = []) (hl : s.ledger = [])
    (hb : s.batches.rows = []) (ops : List Operation) :
    ledgerSystem.Reachable (s.after ops) :=
  ⟨s, init_of_empty hj hl hb, run_after s ops⟩

def AllowedAlong (allowed : Db → Operation → Prop) : Db → List Operation → Prop
  | _, [] => True
  | s, op :: ops => allowed s op ∧ AllowedAlong allowed (commit op.run s) ops

theorem runWithin_after {allowed : Db → Operation → Prop} {ops : List Operation}
    (h : AllowedAlong allowed s ops) : ledgerSystem.RunWithin allowed s (s.after ops) := by
  induction ops generalizing s with
  | nil => exact .refl
  | cons op ops ih => exact .head ⟨op, h.1, rfl⟩ (ih h.2)

/-! ### Calls are sequences of writes -/

section

variable {s s' : Db} {env : Env} {org k user : UUID}

theorem Writes.single (h : Write s s') : Writes s s' := Relation.ReflTransGen.single h

theorem refused_writes {request : PostingRequest}
    (h : LedgerPostingService.Refused request s s') : Writes s s' := by
  obtain ⟨batches, years, periods, rfl, hreset, hperiods⟩ := h
  have hage : PeriodsAge s.fiscalPeriods periods := by
    rcases hperiods with rfl | ⟨k, hgated⟩
    · exact .refl _
    · exact hgated.age
  exact (Writes.single (.reset request batches hreset)).tail (.calendar years periods hage)

theorem postJournalEntry_writes {request : PostingRequest} {result : PostingResult}
    (hentries : request.entries = [])
    (h : LedgerPostingService.postJournalEntry request s = .ok result s') : Writes s s' := by
  rcases LedgerPostingService.postJournalEntry_eq_ok h with ⟨_, _, _, _, _, rfl⟩ |
    ⟨journal, batchId, periodId, hwritten, _⟩
  · exact .refl
  · exact Writes.single (.post request journal batchId periodId s' hentries hwritten)

theorem hasPeriod_of_get {journal : JournalEntry} {p : Stored FiscalPeriod}
    (h : PeriodGuardService.getPeriodForDate s journal.organizationId journal.postingDate = some p)
    (hp : journal.fiscalPeriodId = p.id) : HasPeriod s.fiscalPeriods journal := by
  obtain ⟨hget, horg, hcovers⟩ :=
    PeriodGuardService.mem_coveringPeriods.mp (PeriodGuardService.mem_of_resolve h)
  exact ⟨p.row, hp ▸ hget, horg, hcovers⟩

variable {input : JournalInput}

theorem createJournal_writes
    (h : JournalService.createJournal env org input user s = .ok k s') : Writes s s' := by
  obtain ⟨period, totals, hne, hperiod, hadd⟩ := JournalService.createJournal_eq_ok h
  obtain ⟨_, haccepts, rfl⟩ := addJournal_eq_ok hadd
  exact Writes.single (.add _ (JournalService.linesOfInput input) ⟨Or.inl rfl, rfl, rfl⟩ rfl
    (hasPeriod_of_get hperiod rfl) (JournalService.linesOfInput_ne_nil hne) rfl haccepts)

variable {u : PUnit}

theorem updateJournal_writes
    (h : JournalService.updateJournal org k input s = .ok u s') : Writes s s' := by
  obtain ⟨journal, period, totals, hget, rfl, hdraft, hne, hperiod, haccepts, rfl⟩ :=
    JournalService.updateJournal_eq_ok h
  exact Writes.single (.rewrite k journal _ (JournalService.linesOfInput input) hget hdraft
    (fun _ => ⟨rfl, rfl, rfl, rfl⟩) (fun _ => rfl) (hasPeriod_of_get hperiod rfl)
    (JournalService.linesOfInput_ne_nil hne) (fun _ => rfl) haccepts)

theorem deleteJournal_writes
    (h : JournalService.deleteJournal org k s = .ok u s') : Writes s s' := by
  obtain ⟨journal, hget, _, hdraft, hfree, rfl⟩ := JournalService.deleteJournal_eq_ok h
  exact Writes.single (.erase k journal hget hdraft hfree)

theorem submitJournal_writes
    (h : JournalService.submitJournal org k user s = .ok u s') : Writes s s' := by
  obtain ⟨journal, hget, _, hdraft, rfl⟩ := JournalService.submitJournal_eq_ok h
  exact Writes.single (.move k journal _ hget (by simp [Booked, hdraft])
    (fun _ => by simp [Booked, JournalService.markSubmitted]) (fun _ => ⟨rfl, rfl, rfl, rfl⟩)
    (fun _ => ⟨rfl, rfl⟩) fun _ => rfl)

theorem approveJournal_writes
    (h : JournalService.approveJournal env org k user s = .ok u s') : Writes s s' := by
  obtain ⟨journal, hget, _, hsubmitted, rfl⟩ := JournalService.approveJournal_eq_ok h
  exact Writes.single (.move k journal _ hget (by simp [Booked, hsubmitted])
    (fun _ => by simp [Booked, JournalService.markApproved]) (fun _ => ⟨rfl, rfl, rfl, rfl⟩)
    (fun _ => ⟨rfl, rfl⟩) fun _ => rfl)

theorem voidJournal_writes (h : JournalService.voidJournal org k s = .ok u s') : Writes s s' := by
  obtain ⟨journal, hget, _, hposted, hreversed, rfl⟩ := JournalService.voidJournal_eq_ok h
  exact Writes.single (.move k journal _ hget (not_or.mpr ⟨hposted, hreversed⟩)
    (fun _ => by simp [Booked, JournalService.markVoid]) (fun _ => ⟨rfl, rfl, rfl, rfl⟩)
    (fun _ => ⟨rfl, rfl⟩) fun _ => rfl)

theorem postJournal_writes {key : Option String} {allow : Bool} {session : Option UUID}
    {r : JournalEntry} (h : JournalService.postJournal org k user key allow session s = .ok r s') :
    Writes s s' := by
  obtain ⟨journal, _, _, _, ⟨_, rfl⟩ | ⟨_, result, hpost⟩⟩ := JournalService.postJournal_eq_ok h
  · exact .refl
  · exact postJournalEntry_writes rfl hpost

theorem createReversal_writes {d : Date} {reason : String} {autoPost allow : Bool}
    {key : Option String} {session : Option UUID} {r : ReversalResult}
    (h : ReversalService.createReversal env org k d user reason autoPost key allow session s =
      .ok r s') : Writes s s' := by
  cases autoPost with
  | false =>
    obtain ⟨original, period, hget, rfl, hposted, hunlinked, _, hperiod, haccepts, rfl⟩ :=
      ReversalService.createReversal_draft_eq_ok h
    exact Writes.single (.addReversal k original
      (storedReversal env s original k period.id d user reason false)
      hget hposted hunlinked ⟨Or.inl rfl, rfl, rfl⟩ rfl rfl (hasPeriod_of_get hperiod rfl) rfl
      haccepts)
  | true =>
    obtain ⟨original, periodId, years, periods, hget, rfl, hposted, hunlinked, _, _,
      hgated, haccepts, hpost⟩ := ReversalService.createReversal_auto_eq_ok h
    have hperiod : HasPeriod periods
        (storedReversal env s original k periodId d user reason true) := by
      obtain ⟨p, hp, horg, hcovers, _⟩ := hgated.accepts
      exact ⟨p, hp, horg, hcovers⟩
    have hcalendar : Write s { s with fiscalYears := years, fiscalPeriods := periods } :=
      .calendar years periods hgated.age
    have hadd : Write { s with fiscalYears := years, fiscalPeriods := periods } _ :=
      .addReversal k original
        (storedReversal env s original k periodId d user reason true)
        hget hposted hunlinked ⟨Or.inr rfl, rfl, rfl⟩ rfl rfl hperiod rfl haccepts
    rcases hpost with ⟨_, rfl⟩ | ⟨_, result, hpost⟩
    · exact (Writes.single hcalendar).tail hadd
    have hlinked : ((s.journals.insert
        (storedReversal env s original k periodId d user reason true)).modify k
        (linkReversal s.journals.next)).get? k =
        some (linkReversal s.journals.next original) := by
      rw [Table.get?_modify_self, Table.get?_insert_of_some hget]
      rfl
    have hreverse : ∀ (s : Db) (j : JournalEntry),
        s.journals.get? k = some j → j.status = .posted →
          Write s { s with journals := s.journals.modify k markReversed } :=
      fun _ j hj hstatus => .reverse k j hj hstatus
    refine (((Writes.single hcalendar).tail hadd).tail (hreverse _ _ hlinked hposted)).trans ?_
    simp only [Db.withJournals, Table.modify_modify]
    exact postJournalEntry_writes rfl hpost

theorem postToLedger_writes {posting : BasePostingAdapter.LedgerPosting} {r : AdapterResult}
    (h : BasePostingAdapter.postToLedger org k user posting s = .ok r s') : Writes s s' := by
  rcases BasePostingAdapter.postToLedger_eq_ok h with ⟨result, hpost, _⟩ |
    ⟨s₁, hrefused, hrevert, _⟩
  · exact postJournalEntry_writes rfl hpost
  · refine (refused_writes hrefused).trans ?_
    rcases BasePostingAdapter.revertUnpostedJournal_eq_ok hrevert with
      ⟨⟨journal, hget, hunposted⟩, rfl⟩ | ⟨_, rfl⟩
    · exact Writes.single (.move k journal _ hget (by simp [Booked, hunposted.1])
        (fun _ => by simp [Booked, BasePostingAdapter.revert]) (fun _ => ⟨rfl, rfl, rfl, rfl⟩)
        (fun _ => ⟨rfl, rfl⟩) fun _ => rfl)
    · exact .refl

theorem createAndApproveJournal_write {errorPrefix : String}
    (h : BasePostingAdapter.createAndApproveJournal env org input user errorPrefix s =
      .ok (.inr k) s') : k = s.journals.next ∧ Write s s' := by
  rcases BasePostingAdapter.createAndApproveJournal_eq_ok h with ⟨_, hinl, _⟩ |
    ⟨period, totals, hinr, hne, hperiod, haccepts, hs'⟩
  · exact absurd hinl (by simp)
  · refine ⟨Sum.inr.inj hinr, ?_⟩
    rw [hs']
    exact .add (BasePostingAdapter.approvedJournal env s org input user period.id totals)
      (JournalService.linesOfInput input) ⟨Or.inr rfl, rfl, rfl⟩ rfl
      (hasPeriod_of_get hperiod rfl) (JournalService.linesOfInput_ne_nil hne) rfl haccepts

theorem createApproveAndPostJournal_writes
    {posting : BasePostingAdapter.LedgerPosting} {r : Option UUID × AdapterResult}
    (h : BasePostingAdapter.createApproveAndPostJournal env org input user posting s =
      .ok r s') : Writes s s' := by
  rw [BasePostingAdapter.createApproveAndPostJournal, bind_eq_ok] at h
  obtain ⟨x, s₁, hcreate, h⟩ := h
  cases x with
  | inl failure =>
    obtain ⟨_, hs'⟩ := pure_eq_ok.mp h
    rcases BasePostingAdapter.createAndApproveJournal_eq_ok hcreate with ⟨_, _, _, hs₁⟩ |
      ⟨_, _, hinr, _⟩
    · rw [hs', hs₁]
    · exact absurd hinr (by simp)
  | inr k =>
    obtain ⟨result, s₂, hpost, h⟩ := bind_eq_ok.mp h
    obtain ⟨_, rfl⟩ := pure_eq_ok.mp h
    exact .head (createAndApproveJournal_write hcreate).2 (postToLedger_writes hpost)

/-- The calls on fiscal years and periods. -/
def Operation.onCalendar : Operation → Bool
  | createPeriod .. | openPeriod .. | softClosePeriod .. | hardClosePeriod .. | reopenPeriod ..
  | createYearWithPeriods .. | ensurePeriodExists .. | guardOpenPeriod ..
  | guardSoftClosePeriod .. | guardHardClosePeriod .. | guardReopenPeriod ..
  | closeReopenSession .. => true
  | _ => false

/-- A transition that keeps a period's identity and leaves hard-closed periods alone ages the
periods, and changes nothing else. -/
theorem transition_frame {sources : List PeriodStatus} {refusal : PeriodStatus → String}
    {f : FiscalPeriod → FiscalPeriod} {r : FiscalPeriod}
    (h : transition org k sources refusal f s = .ok r s')
    (hopen : PeriodStatus.hardClosed ∉ sources) (hf : ∀ p, f p = { p with
      status := (f p).status
      softClosedByUserId := (f p).softClosedByUserId
      hardClosedByUserId := (f p).hardClosedByUserId
      reopenCount := (f p).reopenCount
      lastReopenSessionId := (f p).lastReopenSessionId }) :
    ∃ years periods, PeriodsAge s.fiscalPeriods periods ∧
      s' = { s with fiscalYears := years, fiscalPeriods := periods } := by
  obtain ⟨p, hget, _, hstatus, _, hs⟩ := transition_eq_ok.mp h
  have hne : p.status ≠ .hardClosed := by
    intro hclosed
    exact hopen (hclosed ▸ hstatus)
  exact ⟨_, _, PeriodsAge.modify hget hne (hf p), hs⟩

variable {op : Operation}

theorem Operation.onCalendar_frame (hop : op.onCalendar = true) (h : op.run s = .ok u s') :
    ∃ years periods, PeriodsAge s.fiscalPeriods periods ∧
      s' = { s with fiscalYears := years, fiscalPeriods := periods } := by
  cases op with
  | createPeriod =>
    obtain ⟨_, h⟩ := discard_eq_ok.mp h
    obtain ⟨_, _, _, _, _, hs⟩ := FiscalPeriodService.createPeriod_eq_ok.mp h
    exact ⟨_, _, .insert _ _, hs⟩
  | softClosePeriod =>
    obtain ⟨_, h⟩ := discard_eq_ok.mp h
    obtain ⟨p, hget, _, hstatus, _, _, hs⟩ := FiscalPeriodService.softClosePeriod_eq_ok.mp h
    have hne : p.status ≠ .hardClosed := by
      intro hclosed
      simp [hclosed] at hstatus
    exact ⟨_, _, .modify hget hne rfl, hs⟩
  | createYearWithPeriods =>
    obtain ⟨_, h⟩ := discard_eq_ok.mp h
    obtain ⟨years, hs, _⟩ := FiscalYearService.createYearWithPeriods_eq_ok h
    exact ⟨years, _, .foldl_insert _ _, hs⟩
  | ensurePeriodExists =>
    obtain ⟨_, h⟩ := discard_eq_ok.mp h
    rcases PeriodGuardService.ensurePeriodExists_eq_ok h with ⟨_, hs⟩ | ⟨_, _, _, _, hs⟩
    · exact ⟨_, _, .refl _, hs⟩
    · exact ⟨_, _, .insert _ _, hs⟩
  | closeReopenSession =>
    obtain ⟨_, h⟩ := discard_eq_ok.mp h
    obtain ⟨p, hget, _, hreopened, _, hs⟩ := PeriodGuardService.closeReopenSession_eq_ok h
    exact ⟨_, _, .modify hget (by simp [hreopened]) rfl, hs⟩
  | openPeriod =>
    obtain ⟨_, h⟩ := discard_eq_ok.mp h
    exact transition_frame h (by decide) fun _ => rfl
  | hardClosePeriod =>
    obtain ⟨_, h⟩ := discard_eq_ok.mp h
    exact transition_frame h (by decide) fun _ => rfl
  | reopenPeriod =>
    obtain ⟨_, h⟩ := discard_eq_ok.mp h
    exact transition_frame h (by decide) fun _ => rfl
  | guardOpenPeriod =>
    obtain ⟨_, h⟩ := discard_eq_ok.mp h
    exact transition_frame h (by decide) fun _ => rfl
  | guardSoftClosePeriod =>
    obtain ⟨_, h⟩ := discard_eq_ok.mp h
    exact transition_frame h (by decide) fun _ => rfl
  | guardHardClosePeriod =>
    obtain ⟨_, h⟩ := discard_eq_ok.mp h
    exact transition_frame h (by decide) fun _ => rfl
  | guardReopenPeriod =>
    obtain ⟨_, h⟩ := discard_eq_ok.mp h
    exact transition_frame h (by decide) fun _ => rfl
  | _ => exact absurd hop Bool.false_ne_true

/-- **Calls are writes.** A call that returns is a sequence of writes. -/
theorem Operation.run_writes (h : op.run s = .ok u s') :
    Writes s s' := by
  by_cases hop : op.onCalendar = true
  · obtain ⟨years, periods, hage, rfl⟩ := Operation.onCalendar_frame hop h
    exact Writes.single (.calendar years periods hage)
  cases op with
  | createJournal =>
    obtain ⟨_, h⟩ := discard_eq_ok.mp h
    exact createJournal_writes h
  | updateJournal => exact updateJournal_writes h
  | deleteJournal => exact deleteJournal_writes h
  | submitJournal => exact submitJournal_writes h
  | approveJournal => exact approveJournal_writes h
  | postJournal =>
    obtain ⟨_, h⟩ := discard_eq_ok.mp h
    exact postJournal_writes h
  | voidJournal => exact voidJournal_writes h
  | createReversal =>
    obtain ⟨_, h⟩ := discard_eq_ok.mp h
    exact createReversal_writes h
  | createApproveAndPostJournal =>
    obtain ⟨_, h⟩ := discard_eq_ok.mp h
    exact createApproveAndPostJournal_writes h
  | postToLedger =>
    obtain ⟨_, h⟩ := discard_eq_ok.mp h
    exact postToLedger_writes h
  | external accounts bankAccounts recs =>
    obtain rfl := modify_eq_ok.mp h
    exact Writes.single (.external accounts bankAccounts recs)
  | _ => exact absurd rfl hop

/-! ### Induction over runs, by writes -/

theorem step_writes (h : ledgerSystem.step s op s') : Writes s s' := by
  obtain rfl : s' = commit op.run s := h
  exact commit_induction .refl fun _ _ hrun => Operation.run_writes hrun

theorem run_writes (h : ledgerSystem.Run s s') : Writes s s' :=
  System.RunWithin.relates h (P := fun _ => True) (fun _ _ _ _ _ _ => trivial) trivial
    (fun _ => .refl) (fun _ _ _ => .trans) fun _ _ _ _ _ hstep => step_writes hstep

theorem Writes.preserves {P : Db → Prop} (h : Writes s s')
    (hwrite : ∀ s s', P s → Write s s' → P s') (hs : P s) : P s' := by
  induction h with
  | refl => exact hs
  | tail _ hlast ih => exact hwrite _ _ ih hlast

/-- **Invariants.** What holds of books without journals and is kept by every write holds in
every reachable state. -/
theorem reachable_of_writes {P : Db → Prop} (h : ledgerSystem.Reachable s)
    (hinit : ∀ s : Db, s.journals.rows = [] → s.ledger = [] →
      LedgerPostingService.UniqueKeys s.batches → P s)
    (hwrite : ∀ s s', P s → Write s s' → P s') : P s :=
  h.invariant (fun s ⟨hj, hl, hb⟩ => hinit s hj hl hb) fun _ _ _ hs hstep =>
    (step_writes hstep).preserves hwrite hs

end

end DotmacErp
