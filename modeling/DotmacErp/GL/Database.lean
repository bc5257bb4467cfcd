import DotmacErp.Foundation.Session
import DotmacErp.GL.Subledgers

/-!
# The database and the session

`Db` is the committed content of the tables the ledger services read and write; a service
method is a `Tx`, which returns or raises a `ServiceError`. An `http` error is one the
service raises itself; an `integrity` error is one the database raises when a flush breaks a
constraint.

The constraints belong to the tables, so the operations here that insert rows check them:
the unique constraints, the sign and exactly-one-side checks of `journal_entry_line` and
`posted_ledger_line`, the account foreign key, and the capacity of the idempotency key.
They also apply the scale of the numeric columns, `NUMERIC(20, 6)` for amounts and
`NUMERIC(20, 10)` for rates. Each has one inversion lemma, `…_eq_ok`, and its users read
nothing else.
-/

namespace DotmacErp

open Calendar Relational Session Rounding

inductive ServiceError
  | http (statusCode : ℕ) (detail : String)
  | integrity (constraint : String)

/-- What a method asks of its surroundings while it runs: the numbers the document-numbering
module hands out, whether segregation of duties is switched on, and the configured
`default_functional_currency_code`. -/
structure Env where
  journalNumber : UUID → UUID → String
  requireSod : UUID → Bool
  defaultFunctionalCurrency : String := "NGN"

inductive ReconciliationStatus
  | draft | pendingReview | approved | rejected
  deriving DecidableEq

def ReconciliationStatus.value : ReconciliationStatus → String
  | draft => "draft"
  | pendingReview => "pending_review"
  | approved => "approved"
  | rejected => "rejected"

/-- `BankReconciliation`, the columns the close gate reads. -/
structure BankReconciliation where
  organizationId : UUID
  bankAccountId : UUID
  periodStart : Date
  periodEnd : Date
  status : ReconciliationStatus

/-- The tables. `nextLineId` is the key of the next journal line. -/
structure Db where
  functionalCurrency : UUID → String := fun _ => "NGN"
  accounts : Table Account := .empty
  fiscalYears : Table FiscalYear := .empty
  fiscalPeriods : Table FiscalPeriod := .empty
  journals : Table JournalEntry := .empty
  nextLineId : UUID := 0
  batches : Table PostingBatch := .empty
  ledger : List PostedLedgerLine := []
  balances : Table AccountBalance := .empty
  balanceRefreshQueue : Table BalanceRefreshQueue := .empty
  outbox : Table EventOutbox := .empty
  bankAccounts : Table BankAccount := .empty
  bankReconciliations : Table BankReconciliation := .empty
  subledgers : Subledgers := {}

abbrev Tx := Session ServiceError Db

/-! ### Columns -/

/-- What a `NUMERIC(20, 6)` column stores. -/
def amountColumn (q : ℚ) : ℚ := halfUp 6 q

/-- What a `NUMERIC(20, 10)` column stores. -/
def rateColumn (q : ℚ) : ℚ := halfUp 10 q

@[simp] theorem amountColumn_amountColumn (q : ℚ) :
    amountColumn (amountColumn q) = amountColumn q := halfUp_halfUp 6 q

@[simp] theorem rateColumn_rateColumn (q : ℚ) : rateColumn (rateColumn q) = rateColumn q :=
  halfUp_halfUp 10 q

def ExactlyOne (debit credit : ℚ) : Prop := (0 < debit ∧ credit = 0) ∨ (debit = 0 ∧ 0 < credit)

instance (debit credit : ℚ) : Decidable (ExactlyOne debit credit) :=
  inferInstanceAs (Decidable (_ ∨ _))

theorem ExactlyOne.swap {debit credit : ℚ} (h : ExactlyOne debit credit) :
    ExactlyOne credit debit := by
  rcases h with ⟨hd, hc⟩ | ⟨hd, hc⟩
  · exact Or.inr ⟨hc, hd⟩
  · exact Or.inl ⟨hc, hd⟩

/-! ### Loading -/

/-- `db.get` on a journal, and the organization check that follows it everywhere. -/
def loadJournal (org journalEntryId : UUID)
    (detail : String := "Journal entry not found") : Tx JournalEntry := do
  let db ← get
  let journal ← orRaise (db.journals.get? journalEntryId) (.http 404 detail)
  refuse (journal.organizationId ≠ org) (.http 404 detail)
  pure journal

/-- `db.get` on a period, and the organization check that follows it everywhere. -/
def loadPeriod (org periodId : UUID) : Tx FiscalPeriod := do
  let db ← get
  let period ← orRaise (db.fiscalPeriods.get? periodId)
    (.http 404 "Fiscal period not found")
  refuse (period.organizationId ≠ org) (.http 404 "Fiscal period not found")
  pure period

def modifyJournal (journalEntryId : UUID) (f : JournalEntry → JournalEntry) : Tx PUnit :=
  modify fun db => { db with journals := db.journals.modify journalEntryId f }

def modifyPeriod (periodId : UUID) (f : FiscalPeriod → FiscalPeriod) : Tx PUnit :=
  modify fun db => { db with fiscalPeriods := db.fiscalPeriods.modify periodId f }

def modifyBatch (batchId : UUID) (f : PostingBatch → PostingBatch) : Tx PUnit :=
  modify fun db => { db with batches := db.batches.modify batchId f }

section Loading

variable {s s' : Db} {org k : UUID} {detail : String}

@[simp] theorem loadJournal_eq_ok {journal : JournalEntry} :
    loadJournal org k detail s = .ok journal s' ↔
      s.journals.get? k = some journal ∧ journal.organizationId = org ∧ s' = s := by
  simp only [loadJournal, get_bind, orRaise_bind, refuse_bind, pure_eq_ok,
    not_not]
  constructor
  · rintro ⟨j, hj, horg, rfl, rfl⟩
    exact ⟨hj, horg, rfl⟩
  · rintro ⟨hj, horg, rfl⟩
    exact ⟨journal, hj, horg, rfl, rfl⟩

@[simp] theorem loadPeriod_eq_ok {period : FiscalPeriod} :
    loadPeriod org k s = .ok period s' ↔
      s.fiscalPeriods.get? k = some period ∧ period.organizationId = org ∧ s' = s := by
  simp only [loadPeriod, get_bind, orRaise_bind, refuse_bind, pure_eq_ok,
    not_not]
  constructor
  · rintro ⟨p, hp, horg, rfl, rfl⟩
    exact ⟨hp, horg, rfl⟩
  · rintro ⟨hp, horg, rfl⟩
    exact ⟨period, hp, horg, rfl, rfl⟩

variable {u : PUnit}

@[simp] theorem modifyJournal_eq_ok {f : JournalEntry → JournalEntry} :
    modifyJournal k f s = .ok u s' ↔ s' = { s with journals := s.journals.modify k f } :=
  modify_eq_ok

@[simp] theorem modifyPeriod_eq_ok {f : FiscalPeriod → FiscalPeriod} :
    modifyPeriod k f s = .ok u s' ↔
      s' = { s with fiscalPeriods := s.fiscalPeriods.modify k f } :=
  modify_eq_ok

@[simp] theorem modifyBatch_eq_ok {f : PostingBatch → PostingBatch} :
    modifyBatch k f s = .ok u s' ↔ s' = { s with batches := s.batches.modify k f } :=
  modify_eq_ok

theorem loadJournal_eq_error {e : ServiceError} (h : loadJournal org k detail s = .error e s') :
    s' = s := by
  rw [loadJournal, get_bind_eq_error, orRaise_bind_eq_error] at h
  rcases h with ⟨_, _, h⟩ | ⟨_, _, h⟩
  · exact h
  · rw [refuse_bind_eq_error] at h
    rcases h with ⟨_, _, h⟩ | ⟨_, h⟩
    · exact h
    · exact absurd h (by simp)

end Loading

/-! ### Journal lines -/

def JournalEntryLine.stored (line : JournalEntryLine) : JournalEntryLine :=
  { line with
    debitAmount := amountColumn line.debitAmount
    creditAmount := amountColumn line.creditAmount
    debitAmountFunctional := amountColumn line.debitAmountFunctional
    creditAmountFunctional := amountColumn line.creditAmountFunctional
    exchangeRate := line.exchangeRate.map rateColumn }

/-- The checks of `journal_entry_line`: in document and in functional currency alike, no
amount is negative and exactly one side is positive. -/
def JournalEntryLine.Checked (line : JournalEntryLine) : Prop :=
  ExactlyOne line.debitAmount line.creditAmount ∧
    ExactlyOne line.debitAmountFunctional line.creditAmountFunctional

instance (line : JournalEntryLine) : Decidable line.Checked :=
  inferInstanceAs (Decidable (_ ∧ _))

def stampLines (next : UUID) (lines : List JournalEntryLine) : List JournalEntryLine :=
  lines.mapIdx fun i line => { line.stored with lineId := next + i }

def Db.AcceptsLines (db : Db) (lines : List JournalEntryLine) : Prop :=
  ∀ line ∈ lines, line.Checked ∧ (db.accounts.get? line.accountId).isSome

instance (db : Db) (lines : List JournalEntryLine) : Decidable (db.AcceptsLines lines) :=
  inferInstanceAs (Decidable (∀ _ ∈ _, _))

def writeLines (journalEntryId : UUID) (lines : List JournalEntryLine) : Tx PUnit := do
  let db ← get
  let stamped := stampLines db.nextLineId lines
  refuse (¬ db.AcceptsLines stamped) (.integrity "gl.journal_entry_line")
  modify fun db => { db with
    journals := db.journals.modify journalEntryId fun journal => { journal with lines := stamped }
    nextLineId := db.nextLineId + lines.length }

def JournalEntry.stored (journal : JournalEntry) : JournalEntry :=
  { journal with
    exchangeRate := rateColumn journal.exchangeRate
    totalDebit := amountColumn journal.totalDebit
    totalCredit := amountColumn journal.totalCredit
    totalDebitFunctional := amountColumn journal.totalDebitFunctional
    totalCreditFunctional := amountColumn journal.totalCreditFunctional }

def insertJournal (journal : JournalEntry) : Tx UUID := do
  let db ← get
  refuse (db.journals.find? fun j => j.organizationId = journal.organizationId ∧
    j.journalNumber = journal.journalNumber).isSome (.integrity "uq_journal_number")
  modify fun db => { db with journals := db.journals.insert { journal.stored with lines := [] } }
  pure db.journals.next

/-- Insert a journal: the header, then the lines, each under fresh keys. -/
def addJournal (journal : JournalEntry) : Tx UUID := do
  let journalEntryId ← insertJournal journal
  writeLines journalEntryId journal.lines
  pure journalEntryId

/-- `db.refresh` on a journal written earlier in the session. -/
def refreshJournal (journalEntryId : UUID) : Tx JournalEntry := do
  let db ← get
  orRaise (db.journals.get? journalEntryId) (.integrity "gl.journal_entry")

section Lines

variable {s s' : Db} {k : UUID} {lines : List JournalEntryLine}

@[simp] theorem length_stampLines (next : UUID) (lines : List JournalEntryLine) :
    (stampLines next lines).length = lines.length := by
  rw [stampLines, List.length_mapIdx]

theorem mem_stampLines {next : UUID} {line : JournalEntryLine}
    (h : line ∈ stampLines next lines) : next ≤ line.lineId ∧ line.lineId < next + lines.length ∧
      ∃ l ∈ lines, line = { l.stored with lineId := line.lineId } := by
  rw [stampLines, List.mem_mapIdx] at h
  obtain ⟨i, hi, rfl⟩ := h
  exact ⟨Nat.le_add_right _ _, Nat.add_lt_add_left hi _, lines[i], List.getElem_mem hi, rfl⟩

theorem nodup_stampLines (next : UUID) (lines : List JournalEntryLine) :
    ((stampLines next lines).map JournalEntryLine.lineId).Nodup := by
  have hkeys : (stampLines next lines).map JournalEntryLine.lineId =
      List.range' next lines.length := by
    refine List.ext_getElem (by simp) fun i h₁ h₂ => ?_
    simp [stampLines]
  rw [hkeys]
  exact List.nodup_range'

@[simp] theorem writeLines_eq_ok {u : PUnit} :
    writeLines k lines s = .ok u s' ↔
      s.AcceptsLines (stampLines s.nextLineId lines) ∧
        s' = { s with
          journals := s.journals.modify k fun journal =>
            { journal with lines := stampLines s.nextLineId lines }
          nextLineId := s.nextLineId + lines.length } := by
  simp only [writeLines, get_bind, refuse_bind, modify_eq_ok, not_not]

variable {journal : JournalEntry}

@[simp] theorem insertJournal_eq_ok :
    insertJournal journal s = .ok k s' ↔
      (∀ k' j, s.journals.get? k' = some j → j.organizationId = journal.organizationId →
        j.journalNumber ≠ journal.journalNumber) ∧ k = s.journals.next ∧
        s' = { s with journals := s.journals.insert { journal.stored with lines := [] } } := by
  have hfresh : (¬ (s.journals.find? fun j => j.organizationId = journal.organizationId ∧
      j.journalNumber = journal.journalNumber).isSome) ↔
      ∀ k' j, s.journals.get? k' = some j → j.organizationId = journal.organizationId →
        j.journalNumber ≠ journal.journalNumber := by
    rw [Table.find?_isSome_iff]
    simp
  simp only [insertJournal, get_bind, refuse_bind, modify_bind, pure_eq_ok,
    hfresh]

/-- The database with another table of journals, `n` line keys further on. -/
def Db.withJournals (s : Db) (journals : Table JournalEntry) (n : ℕ) : Db :=
  { s with journals := journals, nextLineId := s.nextLineId + n }

theorem addJournal_eq_ok (h : addJournal journal s = .ok k s') :
    k = s.journals.next ∧ s.AcceptsLines (stampLines s.nextLineId journal.lines) ∧
      s' = s.withJournals (s.journals.insert
        { journal.stored with lines := stampLines s.nextLineId journal.lines })
        journal.lines.length := by
  rw [addJournal, bind_eq_ok] at h
  obtain ⟨_, _, hinsert, h⟩ := h
  obtain ⟨_, rfl, rfl⟩ := insertJournal_eq_ok.mp hinsert
  rw [bind_eq_ok] at h
  obtain ⟨_, _, hlines, h⟩ := h
  obtain ⟨haccepts, rfl⟩ := writeLines_eq_ok.mp hlines
  obtain ⟨rfl, rfl⟩ := pure_eq_ok.mp h
  refine ⟨rfl, haccepts, ?_⟩
  simp only [Table.modify_insert_next, Db.withJournals]

theorem addJournal_of_accepts
    (hnumber : ∀ k j, s.journals.get? k = some j → j.organizationId = journal.organizationId →
      j.journalNumber ≠ journal.journalNumber)
    (hlines : s.AcceptsLines (stampLines s.nextLineId journal.lines)) :
    ∃ s', addJournal journal s = .ok s.journals.next s' := by
  have hinsert : insertJournal journal s = .ok s.journals.next
      { s with journals := s.journals.insert { journal.stored with lines := [] } } :=
    insertJournal_eq_ok.mpr ⟨hnumber, rfl, rfl⟩
  obtain ⟨s', hwrite⟩ : ∃ s', writeLines s.journals.next journal.lines
      { s with journals := s.journals.insert { journal.stored with lines := [] } } =
        .ok ⟨⟩ s' := ⟨_, writeLines_eq_ok.mpr ⟨hlines, rfl⟩⟩
  refine ⟨s', ?_⟩
  rw [addJournal, bind_eq_ok]
  refine ⟨_, _, hinsert, ?_⟩
  rw [bind_eq_ok]
  exact ⟨⟨⟩, s', hwrite, pure_eq_ok.mpr ⟨rfl, rfl⟩⟩

theorem addJournal_ne_http {c : ℕ} {detail : String} :
    addJournal journal s ≠ .error (.http c detail) s' := by
  intro h
  rw [addJournal, bind_eq_error] at h
  rcases h with h | ⟨_, _, _, h⟩
  · rw [insertJournal, get_bind_eq_error, refuse_bind_eq_error] at h
    rcases h with ⟨_, h, _⟩ | ⟨_, h⟩
    · exact absurd h (by simp)
    · exact absurd h (by simp)
  · rw [bind_eq_error] at h
    rcases h with h | ⟨_, _, _, h⟩
    · rw [writeLines, get_bind_eq_error, refuse_bind_eq_error] at h
      rcases h with ⟨_, h, _⟩ | ⟨_, h⟩
      · exact absurd h (by simp)
      · exact absurd h (by simp)
    · exact absurd h (by simp)

@[simp] theorem refreshJournal_eq_ok :
    refreshJournal k s = .ok journal s' ↔ s.journals.get? k = some journal ∧ s' = s := by
  rw [refreshJournal, get_bind, orRaise_eq_ok]

end Lines

end DotmacErp
