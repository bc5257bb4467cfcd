import DotmacErp.GL.Reversal

/-!
# The posting adapter

`BasePostingAdapter`, the path every source module takes to the ledger: create a journal,
submit and approve it as the system, post it. Refusals are caught and reported in the result;
an error the database raises is not, since the handler's own first query would raise again.

A posting the service refuses sends the journal back to draft. A replay of a live key is
reported as a success, with the journal that was just created left as it is.
-/

namespace DotmacErp

open Calendar Relational Session JournalService LedgerPostingService

/-- `PostingResult` of the posting adapters. -/
structure AdapterResult where
  success : Bool
  journalEntryId : Option UUID := none
  postingBatchId : Option UUID := none
  message : String := ""
  idempotentReplay : Bool := false

namespace BasePostingAdapter

/-- What `create_approve_and_post_journal` needs besides the journal. -/
structure LedgerPosting where
  postingDate : Date
  idempotencyKey : String
  sourceModule : String
  correlationId : Option String
  successMessage : String
  creationErrorPrefix : String := "Journal creation failed"
  ledgerErrorPrefix : String := "Ledger posting failed"

def isSodRefusal : ServiceError → Bool
  | .http _ detail => "Segregation of duties".toList <:+: detail.toList
  | .integrity _ => false

/-- `submit_and_approve_as_system`. A segregation-of-duties refusal is bypassed. -/
def submitAndApproveAsSystem (env : Env) (org journalEntryId postedByUserId : UUID) :
    Tx PUnit := do
  submitJournal org journalEntryId postedByUserId
  catching (approveJournal env org journalEntryId postedByUserId)
    fun exc =>
      if isSodRefusal exc then
        modifyJournal journalEntryId (markApproved postedByUserId)
      else
        throw exc

/-- `create_and_approve_journal`: the journal, or the report of a refusal. -/
def createAndApproveJournal (env : Env) (org : UUID) (input : JournalInput)
    (postedByUserId : UUID) (errorPrefix : String) : Tx (AdapterResult ⊕ UUID) :=
  catching
    (do
      let journalEntryId ←
        createJournal env org input postedByUserId
      submitAndApproveAsSystem env org journalEntryId postedByUserId
      pure (.inr journalEntryId))
    fun
      | .http _ detail => pure (.inl { success := false, message := errorPrefix ++ ": " ++ detail })
      | exc => throw exc

def Unposted (journal : JournalEntry) : Prop :=
  journal.status = .approved ∧ journal.postingBatchId = none

instance (journal : JournalEntry) : Decidable (Unposted journal) :=
  inferInstanceAs (Decidable (_ ∧ _))

/-- A journal sent back to draft after its posting failed. -/
def revert (journal : JournalEntry) : JournalEntry :=
  { journal with status := .draft, approvedByUserId := none }

def revertUnpostedJournal (journalEntryId : UUID) : Tx PUnit := do
  let db ← get
  match db.journals.get? journalEntryId with
  | none => pure ⟨⟩
  | some journal =>
    if Unposted journal then
      modifyJournal journalEntryId revert
    else
      pure ⟨⟩

/-- The posting request of `post_to_ledger`. -/
def postRequest (org journalEntryId postedByUserId : UUID) (posting : LedgerPosting) :
    PostingRequest where
  organizationId := org
  journalEntryId := journalEntryId
  postingDate := posting.postingDate
  idempotencyKey := posting.idempotencyKey
  sourceModule := posting.sourceModule
  correlationId := posting.correlationId
  postedByUserId := some postedByUserId

def failedPosting (journalEntryId : UUID) (posting : LedgerPosting) (message : String) :
    AdapterResult where
  success := false
  journalEntryId := some journalEntryId
  message := posting.ledgerErrorPrefix ++ ": " ++ message

def postToLedger (org journalEntryId postedByUserId : UUID)
    (posting : LedgerPosting) : Tx AdapterResult :=
  catching
    (do
      let result ← postJournalEntry
        (postRequest org journalEntryId postedByUserId posting)
      if result.success = false then do
        revertUnpostedJournal journalEntryId
        pure (failedPosting journalEntryId posting result.message)
      else
        pure
          { success := true
            journalEntryId := some journalEntryId
            postingBatchId := result.batchId
            message := posting.successMessage
            idempotentReplay := result.idempotentReplay })
    fun
      | .http statusCode detail => do
        revertUnpostedJournal journalEntryId
        pure (failedPosting journalEntryId posting (toString statusCode ++ ": " ++ detail))
      | exc => throw exc

def createApproveAndPostJournal (env : Env) (org : UUID) (input : JournalInput)
    (postedByUserId : UUID) (posting : LedgerPosting) : Tx (Option UUID × AdapterResult) := do
  let created ← createAndApproveJournal env org input postedByUserId
    posting.creationErrorPrefix
  match created with
  | .inl creationError => pure (none, creationError)
  | .inr journalEntryId => do
    let result ← postToLedger org journalEntryId postedByUserId posting
    pure (some journalEntryId, result)

/-! ### What the adapter has done when it returns -/

section

variable {s s' : Db} {env : Env} {org k user : UUID} {input : JournalInput}
  {posting : LedgerPosting}

def systemApproved (user : UUID) (journal : JournalEntry) : JournalEntry :=
  markApproved user (markSubmitted user journal)

theorem isSodRefusal_sodDetail : isSodRefusal (.http 403 sodDetail) = true := by
  decide

theorem submitAndApproveAsSystem_eq_ok {journal : JournalEntry} {u : PUnit}
    (h : submitAndApproveAsSystem env org k user s = .ok u s')
    (hget : s.journals.get? k = some journal) (horg : journal.organizationId = org) :
    s' = { s with journals := s.journals.modify k (systemApproved user) } := by
  rw [submitAndApproveAsSystem, bind_eq_ok] at h
  obtain ⟨_, s₁, hsubmit, h⟩ := h
  obtain ⟨_, _, _, _, rfl⟩ := submitJournal_eq_ok hsubmit
  rcases catching_eq_ok.mp h with h | ⟨e, s₂, herror, h⟩
  · obtain ⟨_, _, _, _, rfl⟩ := approveJournal_eq_ok h
    simp only [Table.modify_modify]
    rfl
  · have hsubmitted : (s.journals.modify k (markSubmitted user)).get? k =
        some (markSubmitted user journal) := by
      rw [Table.get?_modify_self, hget, Option.map_some]
    have horg' : (markSubmitted user journal).organizationId = org := horg
    obtain ⟨rfl, rfl⟩ := approveJournal_eq_error hsubmitted horg' rfl herror
    rw [if_pos isSodRefusal_sodDetail] at h
    obtain rfl := modifyJournal_eq_ok.mp h
    simp only [Table.modify_modify]
    rfl

theorem submitAndApproveAsSystem_ne_error {journal : JournalEntry} {e : ServiceError}
    (hget : s.journals.get? k = some journal) (horg : journal.organizationId = org)
    (hdraft : journal.status = .draft) :
    submitAndApproveAsSystem env org k user s ≠ .error e s' := by
  intro h
  rw [submitAndApproveAsSystem, bind_eq_error] at h
  rcases h with h | ⟨_, s₁, hsubmit, h⟩
  · exact submitJournal_ne_error hget horg hdraft h
  · obtain ⟨_, _, _, _, rfl⟩ := submitJournal_eq_ok hsubmit
    obtain ⟨e₁, s₂, herror, h⟩ := catching_eq_error.mp h
    have hsubmitted : (s.journals.modify k (markSubmitted user)).get? k =
        some (markSubmitted user journal) := by
      rw [Table.get?_modify_self, hget, Option.map_some]
    have horg' : (markSubmitted user journal).organizationId = org := horg
    obtain ⟨rfl, rfl⟩ := approveJournal_eq_error hsubmitted horg' rfl herror
    rw [if_pos isSodRefusal_sodDetail] at h
    simp [modifyJournal] at h

/-- The journal `create_and_approve_journal` leaves, as it is stored. -/
def approvedJournal (env : Env) (s : Db) (org : UUID) (input : JournalInput)
    (user periodId : UUID) (totals : ℚ × ℚ) : JournalEntry :=
  let draft := draftJournal env s org input user periodId totals
  systemApproved user
    { draft.stored with lines := stampLines s.nextLineId (linesOfInput input) }

/-- Creation and approval either report a refusal and change nothing, or add one approved
journal. -/
theorem createAndApproveJournal_eq_ok {x : AdapterResult ⊕ UUID} {errorPrefix : String}
    (h : createAndApproveJournal env org input user errorPrefix s = .ok x s') :
    (∃ r, x = .inl r ∧ r.success = false ∧ s' = s) ∨
      ∃ period totals, x = .inr s.journals.next ∧ input.lines ≠ [] ∧
        PeriodGuardService.getPeriodForDate s org input.postingDate = some period ∧
        s.AcceptsLines (stampLines s.nextLineId (linesOfInput input)) ∧
        s' = s.withJournals
          (s.journals.insert (approvedJournal env s org input user period.id totals))
          (linesOfInput input).length := by
  rcases catching_eq_ok.mp h with h | ⟨e, s₁, herror, h⟩
  · rw [bind_eq_ok] at h
    obtain ⟨k, s₁, hcreate, h⟩ := h
    obtain ⟨period, totals, hlines, hperiod, hadd⟩ := createJournal_eq_ok hcreate
    obtain ⟨rfl, haccepts, rfl⟩ := addJournal_eq_ok hadd
    rw [bind_eq_ok] at h
    obtain ⟨_, s₂, happrove, h⟩ := h
    have hget := Table.get?_insert_self s.journals
      { (draftJournal env s org input user period.id totals).stored with
        lines := stampLines s.nextLineId (linesOfInput input) }
    obtain rfl := submitAndApproveAsSystem_eq_ok happrove hget rfl
    obtain ⟨rfl, rfl⟩ := pure_eq_ok.mp h
    refine Or.inr ⟨period, totals, rfl, hlines, hperiod, haccepts, ?_⟩
    simp only [Table.modify_insert_next, Db.withJournals]
    rfl
  · cases e with
    | integrity constraint => exact absurd h (by simp)
    | http c detail =>
      obtain ⟨rfl, rfl⟩ := pure_eq_ok.mp h
      refine Or.inl ⟨_, rfl, rfl, ?_⟩
      rw [bind_eq_error] at herror
      rcases herror with herror | ⟨k, s₂, hcreate, herror⟩
      · exact createJournal_eq_error herror
      · obtain ⟨period, totals, hlines, hperiod, hadd⟩ := createJournal_eq_ok hcreate
        obtain ⟨rfl, haccepts, rfl⟩ := addJournal_eq_ok hadd
        rw [bind_eq_error] at herror
        rcases herror with herror | ⟨_, _, _, herror⟩
        · have hget := Table.get?_insert_self s.journals
            { (draftJournal env s org input user period.id totals).stored with
              lines := stampLines s.nextLineId (linesOfInput input) }
          exact absurd herror (submitAndApproveAsSystem_ne_error hget rfl rfl)
        · exact absurd herror (by simp)

theorem createAndApproveJournal_of_accepts (h : Accepts env s org input)
    (user : UUID) (errorPrefix : String) :
    ∃ s', createAndApproveJournal env org input user errorPrefix s =
      .ok (.inr s.journals.next) s' := by
  obtain ⟨s₁, hcreate⟩ := createJournal_of_accepts h user
  obtain ⟨period, totals, _, _, hadd⟩ := createJournal_eq_ok hcreate
  have hadded := (addJournal_eq_ok hadd).2.2
  have hget : s₁.journals.get? s.journals.next = some
      { (draftJournal env s org input user period.id totals).stored with
        lines := stampLines s.nextLineId (linesOfInput input) } := by
    rw [hadded]
    exact Table.get?_insert_self _ _
  cases happrove : submitAndApproveAsSystem env org s.journals.next user s₁ with
  | error e s₂ => exact absurd happrove (submitAndApproveAsSystem_ne_error hget rfl rfl)
  | ok u s₂ =>
    refine ⟨s₂, catching_eq_ok.mpr (Or.inl ?_)⟩
    rw [bind_eq_ok]
    refine ⟨_, s₁, hcreate, ?_⟩
    rw [bind_eq_ok]
    exact ⟨u, s₂, happrove, pure_eq_ok.mpr ⟨rfl, rfl⟩⟩

theorem accepts_of_createAndApproveJournal {errorPrefix : String}
    (h : createAndApproveJournal env org input user errorPrefix s = .ok (.inr k) s') :
    Accepts env s org input := by
  rcases catching_eq_ok.mp h with h | ⟨e, s₁, _, h⟩
  · rw [bind_eq_ok] at h
    obtain ⟨_, _, hcreate, _⟩ := h
    exact accepts_of_createJournal hcreate
  · cases e with
    | integrity constraint => exact absurd h (by simp)
    | http c detail => exact absurd h (by simp)

theorem revertUnpostedJournal_eq_ok {u : PUnit} (h : revertUnpostedJournal k s = .ok u s') :
    ((∃ journal, s.journals.get? k = some journal ∧ Unposted journal) ∧
        s' = { s with journals := s.journals.modify k revert }) ∨
      ((∀ journal, s.journals.get? k = some journal → ¬ Unposted journal) ∧ s' = s) := by
  rw [revertUnpostedJournal, get_bind] at h
  cases hget : s.journals.get? k with
  | none =>
    rw [hget] at h
    exact Or.inr ⟨by simp, (pure_eq_ok.mp h).2⟩
  | some journal =>
    rw [hget] at h
    dsimp only at h
    split_ifs at h with hunposted
    · exact Or.inl ⟨⟨journal, rfl, hunposted⟩, modifyJournal_eq_ok.mp h⟩
    · refine Or.inr ⟨?_, (pure_eq_ok.mp h).2⟩
      rintro j ⟨⟩
      exact hunposted

def postedReport (journalEntryId : UUID) (posting : LedgerPosting) (result : PostingResult) :
    AdapterResult where
  success := true
  journalEntryId := some journalEntryId
  postingBatchId := result.batchId
  message := posting.successMessage
  idempotentReplay := result.idempotentReplay

theorem postToLedger_of_ok {result : PostingResult}
    (h : postJournalEntry (postRequest org k user posting) s =
      .ok result s') :
    postToLedger org k user posting s = .ok (postedReport k posting result) s' := by
  have hsuccess := postJournalEntry_success h
  refine catching_eq_ok.mpr (Or.inl ?_)
  rw [bind_eq_ok]
  refine ⟨result, s', h, ?_⟩
  rw [if_neg (by simp [hsuccess])]
  exact pure_eq_ok.mpr ⟨rfl, rfl⟩

/-- The adapter's posting either returned from the posting service and reports success, or
was refused by it and reports failure after reverting the journal. -/
theorem postToLedger_eq_ok {r : AdapterResult} (h : postToLedger org k user posting s = .ok r s') :
    (∃ result, postJournalEntry (postRequest org k user posting) s =
        .ok result s' ∧ r.success = true ∧ r.journalEntryId = some k ∧
        r.postingBatchId = result.batchId ∧ r.idempotentReplay = result.idempotentReplay) ∨
      ∃ s₁, Refused (postRequest org k user posting) s s₁ ∧
        revertUnpostedJournal k s₁ = .ok ⟨⟩ s' ∧ r.success = false := by
  have hsuccess : ∀ {result s₂}, postJournalEntry
      (postRequest org k user posting) s = .ok result s₂ → result.success = true :=
    postJournalEntry_success
  rcases catching_eq_ok.mp h with h | ⟨e, s₁, herror, h⟩
  · rw [bind_eq_ok] at h
    obtain ⟨result, s₁, hpost, h⟩ := h
    rw [if_neg (by simp [hsuccess hpost])] at h
    obtain ⟨rfl, rfl⟩ := pure_eq_ok.mp h
    exact Or.inl ⟨result, hpost, rfl, rfl, rfl, rfl⟩
  · cases e with
    | integrity constraint => exact absurd h (by simp)
    | http c detail =>
      have hrefused : Refused (postRequest org k user posting) s s₁ := by
        rw [bind_eq_error] at herror
        rcases herror with herror | ⟨result, s₂, hpost, herror⟩
        · exact postJournalEntry_eq_error herror
        · rw [if_neg (by simp [hsuccess hpost])] at herror
          exact absurd herror (by simp)
      rw [bind_eq_ok] at h
      obtain ⟨_, s₂, hrevert, h⟩ := h
      obtain ⟨rfl, rfl⟩ := pure_eq_ok.mp h
      exact Or.inr ⟨s₁, hrefused, hrevert, rfl⟩

end

end BasePostingAdapter

end DotmacErp
