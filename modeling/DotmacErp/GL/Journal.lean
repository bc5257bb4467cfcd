import DotmacErp.GL.PostingContract

/-!
# Journal lifecycle

`JournalService`: creating, updating, deleting, submitting, approving, posting and voiding a
journal. Every method loads the journal, checks the organization, checks the status, and
writes; the inversion lemmas say exactly that and are what the rest of the development uses.

A new journal is a draft in the most specific period covering its posting date, whatever that
period's status. A functional amount the input leaves out is the document amount at the
journal's rate.
-/

namespace DotmacErp

open Calendar Relational Session

/-- Python's truth of an optional decimal: present and not zero. -/
def nonzero (q : Option ℚ) : Option ℚ := q.filter (· ≠ 0)

namespace JournalService

/-! ### Inputs -/

/-- `_require_balanced`: the document totals at persisted scale must be equal. -/
def requireBalanced (lines : List JournalLineInput) : Tx (ℚ × ℚ) := do
  let totalDebit := sumAtPersistedScale (lines.map JournalLineInput.debitAmount)
  let totalCredit := sumAtPersistedScale (lines.map JournalLineInput.creditAmount)
  refuse (totalDebit ≠ totalCredit) (.http 400 (unbalancedDetail totalDebit totalCredit))
  pure (totalDebit, totalCredit)

def functionalDebit (exchangeRate : ℚ) (line : JournalLineInput) : ℚ :=
  line.debitAmountFunctional.getD (line.debitAmount * exchangeRate)

def functionalCredit (exchangeRate : ℚ) (line : JournalLineInput) : ℚ :=
  line.creditAmountFunctional.getD (line.creditAmount * exchangeRate)

def linesOfInput (input : JournalInput) : List JournalEntryLine :=
  input.lines.mapIdx fun i line =>
    { lineId := 0
      lineNumber := i + 1
      accountId := line.accountId
      description := line.description
      debitAmount := line.debitAmount
      creditAmount := line.creditAmount
      debitAmountFunctional := functionalDebit input.exchangeRate line
      creditAmountFunctional := functionalCredit input.exchangeRate line
      currencyCode := some ((truthy line.currencyCode).getD input.currencyCode)
      exchangeRate := some ((nonzero line.exchangeRate).getD input.exchangeRate)
      dimensions := line.dimensions }

def blockedAccounts (db : Db) (lines : List JournalLineInput) : List (Stored Account) :=
  db.accounts.rows.filter fun account =>
    account.id ∈ lines.map JournalLineInput.accountId ∧ account.row.isPostingAllowed = false

def blockedDetail (blocked : List (Stored Account)) : String :=
  "Cannot post to accounts where is_posting_allowed is False: " ++
    ", ".intercalate (blocked.map fun account =>
      account.row.accountCode ++ " (" ++ account.row.accountName ++ ")")

def noPeriodDetail (d : Date) : String := "No fiscal period found for posting date " ++ d.iso

/-! ### Methods -/

def draftJournal (env : Env) (db : Db) (org : UUID) (input : JournalInput)
    (createdByUserId periodId : UUID) (totals : ℚ × ℚ) : JournalEntry where
  organizationId := org
  journalNumber := env.journalNumber org db.journals.next
  journalType := input.journalType
  entryDate := input.entryDate
  postingDate := input.postingDate
  fiscalPeriodId := periodId
  description := input.description
  reference := input.reference
  currencyCode := input.currencyCode
  exchangeRate := input.exchangeRate
  exchangeRateTypeId := input.exchangeRateTypeId
  totalDebit := totals.1
  totalCredit := totals.2
  totalDebitFunctional := (input.lines.map (functionalDebit input.exchangeRate)).sum
  totalCreditFunctional := (input.lines.map (functionalCredit input.exchangeRate)).sum
  status := .draft
  postingBatchId := none
  isReversal := false
  reversedJournalId := none
  reversalJournalId := none
  autoReverseDate := input.autoReverseDate
  sourceModule := input.sourceModule
  sourceDocumentType := input.sourceDocumentType
  sourceDocumentId := input.sourceDocumentId
  createdByUserId := createdByUserId
  submittedByUserId := none
  approvedByUserId := none
  postedByUserId := none
  correlationId := input.correlationId
  lines := linesOfInput input

def createJournal (env : Env) (org : UUID) (input : JournalInput)
    (createdByUserId : UUID) : Tx UUID := do
  refuse (input.lines = []) (.http 400 "Journal must have at least one line")
  let totals ← requireBalanced input.lines
  let db ← get
  let blocked := blockedAccounts db input.lines
  refuse (blocked ≠ []) (.http 400 (blockedDetail blocked))
  let period ← orRaise
    (PeriodGuardService.getPeriodForDate db org input.postingDate)
    (.http 400 (noPeriodDetail input.postingDate))
  addJournal (draftJournal env db org input createdByUserId period.id totals)

def updatedHeader (input : JournalInput) (periodId : UUID) (totals : ℚ × ℚ)
    (journal : JournalEntry) : JournalEntry :=
  JournalEntry.stored
    { journal with
      journalType := input.journalType
      entryDate := input.entryDate
      postingDate := input.postingDate
      fiscalPeriodId := periodId
      description := input.description
      reference := input.reference
      currencyCode := input.currencyCode
      exchangeRate := input.exchangeRate
      totalDebit := totals.1
      totalCredit := totals.2
      totalDebitFunctional := (input.lines.map (functionalDebit input.exchangeRate)).sum
      totalCreditFunctional := (input.lines.map (functionalCredit input.exchangeRate)).sum
      autoReverseDate := input.autoReverseDate
      correlationId := input.correlationId }

/-- `update_journal`. Blocked accounts are not checked here. -/
def updateJournal (org journalEntryId : UUID) (input : JournalInput) :
    Tx PUnit := do
  let journal ← loadJournal org journalEntryId
  refuse (journal.status ≠ .draft)
    (.http 400 ("Cannot update journal with status '" ++ journal.status.value ++ "'"))
  refuse (input.lines = []) (.http 400 "Journal must have at least one line")
  let totals ← requireBalanced input.lines
  let db ← get
  let period ← orRaise
    (PeriodGuardService.getPeriodForDate db org input.postingDate)
    (.http 400 (noPeriodDetail input.postingDate))
  modifyJournal journalEntryId (updatedHeader input period.id totals)
  writeLines journalEntryId (linesOfInput input)

/-- `delete_journal`, under the foreign key from a journal to the one it reverses. -/
def deleteJournal (org journalEntryId : UUID) : Tx PUnit := do
  let journal ← loadJournal org journalEntryId
  refuse (journal.status ≠ .draft)
    (.http 400 ("Cannot delete journal with status '" ++ journal.status.value ++ "'"))
  let db ← get
  refuse (db.journals.find? fun j => j.reversedJournalId = some journalEntryId).isSome
    (.integrity "journal_entry_reversed_journal_id_fkey")
  modify fun db => { db with journals := db.journals.erase journalEntryId }

def markSubmitted (user : UUID) (journal : JournalEntry) : JournalEntry :=
  { journal with status := .submitted, submittedByUserId := some user }

def markApproved (user : UUID) (journal : JournalEntry) : JournalEntry :=
  { journal with status := .approved, approvedByUserId := some user }

def markVoid (journal : JournalEntry) : JournalEntry := { journal with status := .void }

def submitJournal (org journalEntryId submittedByUserId : UUID) : Tx PUnit := do
  let journal ← loadJournal org journalEntryId
  refuse (journal.status ≠ .draft)
    (.http 400 ("Cannot submit journal with status '" ++ journal.status.value ++ "'"))
  modifyJournal journalEntryId (markSubmitted submittedByUserId)

def sodDetail : String :=
  "Segregation of duties: creator cannot approve their own journal"

def approveJournal (env : Env) (org journalEntryId approvedByUserId : UUID) :
    Tx PUnit := do
  let journal ← loadJournal org journalEntryId
  refuse (journal.status ≠ .submitted)
    (.http 400 ("Cannot approve journal with status '" ++ journal.status.value ++ "'"))
  refuse (journal.createdByUserId = approvedByUserId ∧ env.requireSod org)
    (.http 403 sodDetail)
  modifyJournal journalEntryId (markApproved approvedByUserId)

/-- The idempotency key `post_journal` uses when the caller gives none. -/
def defaultKey (org journalEntryId : UUID) : String :=
  org.str ++ ":GL:" ++ journalEntryId.str ++ ":v1"

def effectiveKey (org journalEntryId : UUID) (idempotencyKey : Option String) :
    String :=
  (truthy idempotencyKey).getD (defaultKey org journalEntryId)

theorem effectiveKey_ne_empty (org journalEntryId : UUID)
    (idempotencyKey : Option String) :
    effectiveKey org journalEntryId idempotencyKey ≠ "" := by
  have hdefault : defaultKey org journalEntryId ≠ "" := by
    intro h
    have hlist := congrArg String.toList h
    simp [defaultKey] at hlist
  cases idempotencyKey with
  | none => exact hdefault
  | some text =>
    by_cases htext : text = ""
    · simpa [effectiveKey, truthy, Option.filter, htext] using hdefault
    · simp [effectiveKey, truthy, Option.filter, htext]

/-- The posting request of `post_journal`. -/
def postRequest (org journalEntryId postedByUserId : UUID) (journal : JournalEntry)
    (idempotencyKey : Option String) (allowAdjustment : Bool) (reopenSessionId : Option UUID) :
    PostingRequest where
  organizationId := org
  journalEntryId := journalEntryId
  postingDate := journal.postingDate
  idempotencyKey := effectiveKey org journalEntryId idempotencyKey
  sourceModule := (truthy journal.sourceModule).getD "GL"
  correlationId := journal.correlationId
  postedByUserId := some postedByUserId
  allowAdjustmentPeriod := allowAdjustment
  reopenSessionId := reopenSessionId

def postJournal (org journalEntryId postedByUserId : UUID)
    (idempotencyKey : Option String := none) (allowAdjustment : Bool := false)
    (reopenSessionId : Option UUID := none) : Tx JournalEntry := do
  let journal ← loadJournal org journalEntryId
  if journal.status = .posted then
    pure journal
  else do
    refuse (journal.status ≠ .approved)
      (.http 400 ("Cannot post journal with status '" ++ journal.status.value ++
        "'. Journal must be approved before posting."))
    let result ← LedgerPostingService.postJournalEntry
      (postRequest org journalEntryId postedByUserId journal idempotencyKey
        allowAdjustment reopenSessionId)
    refuse (result.success = false) (.http 400 result.message)
    refreshJournal journalEntryId

/-- `void_journal`: any journal that is neither posted nor reversed. -/
def voidJournal (org journalEntryId : UUID) : Tx PUnit := do
  let journal ← loadJournal org journalEntryId
  refuse (journal.status = .posted ∨ journal.status = .reversed)
    (.http 400 ("Cannot void journal with status '" ++ journal.status.value ++
      "'. Use reversal instead."))
  modifyJournal journalEntryId markVoid

/-! ### What the methods have done when they return -/

@[simp] theorem length_linesOfInput (input : JournalInput) :
    (linesOfInput input).length = input.lines.length := by
  rw [linesOfInput, List.length_mapIdx]

theorem linesOfInput_ne_nil {input : JournalInput} (h : input.lines ≠ []) :
    linesOfInput input ≠ [] := by
  rw [← List.length_pos_iff] at h ⊢
  simpa using h

section

variable {s s' : Db} {env : Env} {org k user : UUID} {input : JournalInput}

theorem requireBalanced_eq_ok {lines : List JournalLineInput} {totals : ℚ × ℚ}
    (h : requireBalanced lines s = .ok totals s') : s' = s := by
  rw [requireBalanced, refuse_bind] at h
  exact (pure_eq_ok.mp h.2).2

theorem accepted_iff {l : List JournalLineInput} :
    (∀ s, ∃ totals, requireBalanced l s = .ok totals s) ↔
      sumAtPersistedScale (l.map JournalLineInput.debitAmount) =
        sumAtPersistedScale (l.map JournalLineInput.creditAmount) := by
  constructor
  · intro h
    obtain ⟨totals, hrun⟩ := h {}
    rw [requireBalanced, refuse_bind, not_not] at hrun
    exact hrun.1
  · intro heq s
    refine ⟨(sumAtPersistedScale (l.map JournalLineInput.debitAmount),
      sumAtPersistedScale (l.map JournalLineInput.creditAmount)), ?_⟩
    rw [requireBalanced, refuse_bind, not_not]
    exact ⟨heq, rfl⟩

theorem createJournal_eq_ok (h : createJournal env org input user s = .ok k s') :
    ∃ period totals, input.lines ≠ [] ∧
      PeriodGuardService.getPeriodForDate s org input.postingDate = some period ∧
      addJournal (draftJournal env s org input user period.id totals) s = .ok k s' := by
  rw [createJournal, refuse_bind, bind_eq_ok] at h
  obtain ⟨hlines, totals, _, htotals, h⟩ := h
  obtain rfl := requireBalanced_eq_ok htotals
  rw [get_bind, refuse_bind, orRaise_bind] at h
  obtain ⟨_, period, hperiod, h⟩ := h
  exact ⟨period, totals, hlines, hperiod, h⟩

/-- What `create_journal` and the tables ask of an input. -/
structure Accepts (env : Env) (s : Db) (org : UUID) (input : JournalInput) : Prop where
  lines : input.lines ≠ []
  balanced : sumAtPersistedScale (input.lines.map JournalLineInput.debitAmount) =
    sumAtPersistedScale (input.lines.map JournalLineInput.creditAmount)
  unblocked : blockedAccounts s input.lines = []
  period : (PeriodGuardService.getPeriodForDate s org input.postingDate).isSome
  number : ∀ k j, s.journals.get? k = some j → j.organizationId = org →
    j.journalNumber ≠ env.journalNumber org s.journals.next
  stored : s.AcceptsLines (stampLines s.nextLineId (linesOfInput input))

theorem createJournal_of_accepts (h : Accepts env s org input) (user : UUID) :
    ∃ s', createJournal env org input user s = .ok s.journals.next s' := by
  obtain ⟨period, hperiod⟩ := Option.isSome_iff_exists.mp h.period
  let totals := (sumAtPersistedScale (input.lines.map JournalLineInput.debitAmount),
    sumAtPersistedScale (input.lines.map JournalLineInput.creditAmount))
  have htotals : requireBalanced input.lines s = .ok totals s := by
    rw [requireBalanced, refuse_bind, not_not]
    exact ⟨h.balanced, pure_eq_ok.mpr ⟨rfl, rfl⟩⟩
  obtain ⟨s', hadd⟩ : ∃ s', addJournal (draftJournal env s org input user period.id totals) s =
      .ok s.journals.next s' := addJournal_of_accepts h.number h.stored
  refine ⟨s', ?_⟩
  rw [createJournal, refuse_bind, bind_eq_ok]
  refine ⟨h.lines, totals, s, htotals, ?_⟩
  rw [get_bind, refuse_bind, orRaise_bind, not_not]
  exact ⟨h.unblocked, period, hperiod, hadd⟩

theorem accepts_of_createJournal (h : createJournal env org input user s = .ok k s') :
    Accepts env s org input := by
  rw [createJournal, refuse_bind, bind_eq_ok] at h
  obtain ⟨hlines, totals, s₁, htotals, h⟩ := h
  rw [requireBalanced, refuse_bind, not_not, pure_eq_ok] at htotals
  obtain ⟨hbalanced, _, rfl⟩ := htotals
  rw [get_bind, refuse_bind, orRaise_bind, not_not] at h
  obtain ⟨hunblocked, period, hperiod, hadd⟩ := h
  have hinsert := hadd
  rw [addJournal, bind_eq_ok] at hinsert
  obtain ⟨_, _, hinsert, _⟩ := hinsert
  obtain ⟨_, haccepts, _⟩ := addJournal_eq_ok hadd
  exact ⟨hlines, hbalanced, hunblocked, Option.isSome_iff_exists.mpr ⟨period, hperiod⟩,
    (insertJournal_eq_ok.mp hinsert).1, haccepts⟩

def updated (input : JournalInput) (periodId : UUID) (totals : ℚ × ℚ)
    (lines : List JournalEntryLine) (journal : JournalEntry) : JournalEntry :=
  { updatedHeader input periodId totals journal with lines := lines }

variable {u : PUnit}

theorem updateJournal_eq_ok (h : updateJournal org k input s = .ok u s') :
    ∃ journal period totals, s.journals.get? k = some journal ∧ journal.organizationId = org ∧
      journal.status = .draft ∧ input.lines ≠ [] ∧
      PeriodGuardService.getPeriodForDate s org input.postingDate = some period ∧
      s.AcceptsLines (stampLines s.nextLineId (linesOfInput input)) ∧
      s' = s.withJournals (s.journals.modify k
        (updated input period.id totals (stampLines s.nextLineId (linesOfInput input))))
        (linesOfInput input).length := by
  rw [updateJournal, bind_eq_ok] at h
  obtain ⟨journal, _, hload, h⟩ := h
  obtain ⟨hget, horg, rfl⟩ := loadJournal_eq_ok.mp hload
  rw [refuse_bind, refuse_bind, bind_eq_ok, not_not] at h
  obtain ⟨hdraft, hlines, totals, _, htotals, h⟩ := h
  obtain rfl := requireBalanced_eq_ok htotals
  rw [get_bind, orRaise_bind] at h
  obtain ⟨period, hperiod, h⟩ := h
  rw [bind_eq_ok] at h
  obtain ⟨_, _, hheader, h⟩ := h
  obtain rfl := modifyJournal_eq_ok.mp hheader
  obtain ⟨haccepts, rfl⟩ := writeLines_eq_ok.mp h
  refine ⟨journal, period, totals, hget, horg, hdraft, hlines, hperiod, haccepts, ?_⟩
  simp only [Table.modify_modify, Db.withJournals]
  rfl

theorem deleteJournal_eq_ok (h : deleteJournal org k s = .ok u s') :
    ∃ journal, s.journals.get? k = some journal ∧ journal.organizationId = org ∧
      journal.status = .draft ∧
      (∀ k' j, s.journals.get? k' = some j → j.reversedJournalId ≠ some k) ∧
      s' = { s with journals := s.journals.erase k } := by
  rw [deleteJournal, bind_eq_ok] at h
  obtain ⟨journal, _, hload, h⟩ := h
  obtain ⟨hget, horg, rfl⟩ := loadJournal_eq_ok.mp hload
  rw [refuse_bind, get_bind, refuse_bind, modify_eq_ok, not_not] at h
  obtain ⟨hdraft, hunlinked, rfl⟩ := h
  rw [Table.find?_isSome_iff] at hunlinked
  exact ⟨journal, hget, horg, hdraft, by simpa using hunlinked, rfl⟩

theorem submitJournal_eq_ok (h : submitJournal org k user s = .ok u s') :
    ∃ journal, s.journals.get? k = some journal ∧ journal.organizationId = org ∧
      journal.status = .draft ∧
      s' = { s with journals := s.journals.modify k (markSubmitted user) } := by
  rw [submitJournal, bind_eq_ok] at h
  obtain ⟨journal, _, hload, h⟩ := h
  obtain ⟨hget, horg, rfl⟩ := loadJournal_eq_ok.mp hload
  rw [refuse_bind, not_not] at h
  exact ⟨journal, hget, horg, h.1, modifyJournal_eq_ok.mp h.2⟩

theorem approveJournal_eq_ok (h : approveJournal env org k user s = .ok u s') :
    ∃ journal, s.journals.get? k = some journal ∧ journal.organizationId = org ∧
      journal.status = .submitted ∧
      s' = { s with journals := s.journals.modify k (markApproved user) } := by
  rw [approveJournal, bind_eq_ok] at h
  obtain ⟨journal, _, hload, h⟩ := h
  obtain ⟨hget, horg, rfl⟩ := loadJournal_eq_ok.mp hload
  rw [refuse_bind, refuse_bind, not_not] at h
  exact ⟨journal, hget, horg, h.1, modifyJournal_eq_ok.mp h.2.2⟩

theorem voidJournal_eq_ok (h : voidJournal org k s = .ok u s') :
    ∃ journal, s.journals.get? k = some journal ∧ journal.organizationId = org ∧
      journal.status ≠ .posted ∧ journal.status ≠ .reversed ∧
      s' = { s with journals := s.journals.modify k markVoid } := by
  rw [voidJournal, bind_eq_ok] at h
  obtain ⟨journal, _, hload, h⟩ := h
  obtain ⟨hget, horg, rfl⟩ := loadJournal_eq_ok.mp hload
  rw [refuse_bind, not_or] at h
  exact ⟨journal, hget, horg, h.1.1, h.1.2, modifyJournal_eq_ok.mp h.2⟩

/-- A return of `post_journal`: the journal was posted already, or the posting service
returned on it while it was approved. -/
theorem postJournal_eq_ok {key : Option String} {allow : Bool} {session : Option UUID}
    {r : JournalEntry} (h : postJournal org k user key allow session s = .ok r s') :
    ∃ journal, s.journals.get? k = some journal ∧ journal.organizationId = org ∧
      s'.journals.get? k = some r ∧
      ((journal.status = .posted ∧ s' = s) ∨
        (journal.status = .approved ∧ ∃ result, LedgerPostingService.postJournalEntry
          (postRequest org k user journal key allow session) s = .ok result s')) := by
  rw [postJournal, bind_eq_ok] at h
  obtain ⟨journal, _, hload, h⟩ := h
  obtain ⟨hget, horg, rfl⟩ := loadJournal_eq_ok.mp hload
  split_ifs at h with hposted
  · obtain ⟨rfl, rfl⟩ := pure_eq_ok.mp h
    exact ⟨r, hget, horg, hget, Or.inl ⟨hposted, rfl⟩⟩
  · rw [refuse_bind, bind_eq_ok, not_not] at h
    obtain ⟨happroved, result, _, hpost, h⟩ := h
    rw [refuse_bind, refreshJournal_eq_ok] at h
    obtain ⟨_, hr, rfl⟩ := h
    exact ⟨journal, hget, horg, hr, Or.inr ⟨happroved, result, hpost⟩⟩

/-! ### Refusals -/

variable {e : ServiceError}

theorem requireBalanced_eq_error {lines : List JournalLineInput}
    (h : requireBalanced lines s = .error e s') : s' = s := by
  rw [requireBalanced, refuse_bind_eq_error] at h
  rcases h with ⟨_, _, h⟩ | ⟨_, h⟩
  · exact h
  · exact absurd h (by simp)

theorem createJournal_eq_error {c : ℕ} {detail : String}
    (h : createJournal env org input user s = .error (.http c detail) s') : s' = s := by
  rw [createJournal, refuse_bind_eq_error, bind_eq_error] at h
  rcases h with ⟨_, _, h⟩ | ⟨_, h | ⟨totals, _, htotals, h⟩⟩
  · exact h
  · exact requireBalanced_eq_error h
  · obtain rfl := requireBalanced_eq_ok htotals
    rw [get_bind_eq_error, refuse_bind_eq_error, orRaise_bind_eq_error] at h
    rcases h with ⟨_, _, h⟩ | ⟨_, ⟨_, _, h⟩ | ⟨_, _, h⟩⟩
    · exact h
    · exact h
    · exact absurd h addJournal_ne_http

theorem submitJournal_ne_error {journal : JournalEntry}
    (hget : s.journals.get? k = some journal) (horg : journal.organizationId = org)
    (hdraft : journal.status = .draft) : submitJournal org k user s ≠ .error e s' := by
  intro h
  simp [submitJournal, loadJournal, modifyJournal, hget, horg, hdraft] at h

/-- A submitted journal of the organization is refused approval for segregation of duties
only, and nothing is written. -/
theorem approveJournal_eq_error {journal : JournalEntry} (hget : s.journals.get? k = some journal)
    (horg : journal.organizationId = org) (hsubmitted : journal.status = .submitted)
    (h : approveJournal env org k user s = .error e s') : e = .http 403 sodDetail ∧ s' = s := by
  simp [approveJournal, loadJournal, modifyJournal, hget, horg, hsubmitted] at h
  exact h.2

end

end JournalService

end DotmacErp
