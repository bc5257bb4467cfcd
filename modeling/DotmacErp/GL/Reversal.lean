import DotmacErp.GL.Journal

/-!
# Reversals

`ReversalService.create_reversal`: a posted journal gets a linked journal with its debits and
credits swapped, as a draft or, with `auto_post`, posted at once. Only the automatic branch
marks the original as reversed. It does so before it posts, but in a session that does not flush
before a query: a posting whose key answers for an earlier one is replayed before the mark is
written, and the refresh that follows drops it.
-/

namespace DotmacErp

open Calendar Relational Session LedgerPostingService

structure ReversalResult where
  success : Bool
  reversalJournalId : Option UUID := none
  reversalJournalNumber : Option String := none
  message : String := ""

namespace ReversalService

def reversedLine (line : JournalEntryLine) : JournalEntryLine where
  lineId := 0
  lineNumber := line.lineNumber
  accountId := line.accountId
  description := some ("Reversal: " ++ line.description.getD "")
  debitAmount := line.creditAmount
  creditAmount := line.debitAmount
  debitAmountFunctional := line.creditAmountFunctional
  creditAmountFunctional := line.debitAmountFunctional
  currencyCode := line.currencyCode
  exchangeRate := line.exchangeRate
  dimensions := line.dimensions

def reversalJournal (journalNumber : String) (original : JournalEntry)
    (originalJournalId periodId : UUID) (reversalDate : Date) (createdByUserId : UUID)
    (reason : String) (autoPost : Bool) : JournalEntry where
  organizationId := original.organizationId
  journalNumber := journalNumber
  journalType := .reversal
  entryDate := reversalDate
  postingDate := reversalDate
  fiscalPeriodId := periodId
  description := "Reversal of " ++ original.journalNumber ++ ": " ++ reason
  reference := some ("REV:" ++ original.journalNumber)
  currencyCode := original.currencyCode
  exchangeRate := original.exchangeRate
  exchangeRateTypeId := original.exchangeRateTypeId
  totalDebit := original.totalCredit
  totalCredit := original.totalDebit
  totalDebitFunctional := original.totalCreditFunctional
  totalCreditFunctional := original.totalDebitFunctional
  status := if autoPost then .approved else .draft
  postingBatchId := none
  isReversal := true
  reversedJournalId := some originalJournalId
  reversalJournalId := none
  autoReverseDate := none
  sourceModule := original.sourceModule
  sourceDocumentType := original.sourceDocumentType
  sourceDocumentId := original.sourceDocumentId
  createdByUserId := createdByUserId
  submittedByUserId := none
  approvedByUserId := if autoPost then some createdByUserId else none
  postedByUserId := none
  correlationId := original.correlationId
  lines := original.lines.map reversedLine

def defaultKey (org reversalJournalId : UUID) : String :=
  org.str ++ ":GL:" ++ reversalJournalId.str ++ ":reversal:v1"

def effectiveKey (org reversalJournalId : UUID) (idempotencyKey : Option String) :
    String :=
  (truthy idempotencyKey).getD (defaultKey org reversalJournalId)

def postRequest (org reversalJournalId : UUID) (reversalDate : Date)
    (createdByUserId : UUID) (original : JournalEntry) (idempotencyKey : Option String)
    (allowAdjustment : Bool) (reopenSessionId : Option UUID) : PostingRequest where
  organizationId := org
  journalEntryId := reversalJournalId
  postingDate := reversalDate
  idempotencyKey := effectiveKey org reversalJournalId idempotencyKey
  sourceModule := (truthy original.sourceModule).getD "GL"
  correlationId := original.correlationId
  postedByUserId := some createdByUserId
  allowAdjustmentPeriod := allowAdjustment
  reopenSessionId := reopenSessionId

def reversalPeriod (org : UUID) (reversalDate : Date) (autoPost allowAdjustment : Bool)
    (reopenSessionId : Option UUID) : Tx UUID := do
  let db ← get
  let period ← orRaise (PeriodGuardService.getPeriodForDate db org reversalDate)
    (.http 400 ("No fiscal period found for reversal date " ++ reversalDate.iso))
  if autoPost then
    PeriodGuardService.requireOpenPeriod org reversalDate allowAdjustment
      reopenSessionId
  else
    pure period.id

def linkReversal (reversalJournalId : UUID) (journal : JournalEntry) : JournalEntry :=
  { journal with reversalJournalId := some reversalJournalId }

def markReversed (journal : JournalEntry) : JournalEntry := { journal with status := .reversed }

/-- The original's status when the posting of its reversal is through. It is set in the session
first and written with the first flush of the posting; the key is looked up before that flush. A
posting that is replayed flushes nothing, and the refresh after it drops the status. -/
def markOriginal (request : PostingRequest) (originalJournalId : UUID) : Tx PUnit := do
  let db ← get
  if LiveKey db request.organizationId request.idempotencyKey then
    pure ⟨⟩
  else
    modifyJournal originalJournalId markReversed

/-- Step 10: mark the original and post the reversal. The posting service reports failure only
by raising; the rollback stands for the state the session started from. -/
def autoPostReversal (request : PostingRequest) (originalJournalId : UUID)
    (reversal : JournalEntry) (rollback : Db) : Tx ReversalResult := do
  markOriginal request originalJournalId
  let postResult ← postJournalEntry request
  if postResult.success = false then do
    modify fun _ => rollback
    pure
      { success := false
        reversalJournalId := some request.journalEntryId
        reversalJournalNumber := some reversal.journalNumber
        message := "Reversal created but posting failed: " ++ postResult.message }
  else
    pure
      { success := true
        reversalJournalId := some request.journalEntryId
        reversalJournalNumber := some reversal.journalNumber
        message := "Reversal created successfully and posted" }

def createReversal (env : Env) (org originalJournalId : UUID) (reversalDate : Date)
    (createdByUserId : UUID) (reason : String) (autoPost : Bool := false)
    (idempotencyKey : Option String := none) (allowAdjustment : Bool := false)
    (reopenSessionId : Option UUID := none) : Tx ReversalResult := do
  let before ← get
  let original ← loadJournal org originalJournalId "Original journal not found"
  refuse (original.status ≠ .posted)
    (.http 400 ("Cannot reverse journal with status '" ++ original.status.value ++ "'"))
  refuse original.reversalJournalId.isSome (.http 400 "Journal has already been reversed")
  let periodId ← reversalPeriod org reversalDate autoPost allowAdjustment
    reopenSessionId
  let reversal := reversalJournal (env.journalNumber org before.journals.next) original
    originalJournalId periodId reversalDate createdByUserId reason autoPost
  let reversalId ← addJournal reversal
  modifyJournal originalJournalId (linkReversal reversalId)
  if autoPost then
    autoPostReversal (postRequest org reversalId reversalDate createdByUserId original
      idempotencyKey allowAdjustment reopenSessionId) originalJournalId reversal before
  else
    pure
      { success := true
        reversalJournalId := some reversalId
        reversalJournalNumber := some reversal.journalNumber
        message := "Reversal created successfully" }

/-! ### What a reversal has done when it returns -/

section

variable {s s' : Db} {env : Env} {org k user : UUID} {d : Date} {reason : String}
  {key : Option String} {allow : Bool} {session : Option UUID} {r : ReversalResult}

def storedReversal (env : Env) (s : Db) (original : JournalEntry) (k periodId : UUID)
    (d : Date) (user : UUID) (reason : String) (autoPost : Bool) : JournalEntry :=
  { (reversalJournal (env.journalNumber original.organizationId s.journals.next) original k
      periodId d user reason autoPost).stored with
    lines := stampLines s.nextLineId (original.lines.map reversedLine) }

def withReversal (s : Db) (k : UUID) (reversal : JournalEntry)
    (f : JournalEntry → JournalEntry) : Table JournalEntry :=
  (s.journals.insert reversal).modify k f

/-- The database an automatic reversal leaves before it is posted: the reversal added, the
original linked, the calendar as the gate left it. -/
def linked (env : Env) (s : Db) (original : JournalEntry) (k periodId : UUID) (d : Date)
    (user : UUID) (reason : String) (years : Table FiscalYear) (periods : Table FiscalPeriod) :
    Db :=
  { s with
    fiscalYears := years
    fiscalPeriods := periods
    journals := withReversal s k
      (storedReversal env s original k periodId d user reason true)
      (linkReversal s.journals.next)
    nextLineId := s.nextLineId + original.lines.length }

/-- The database it posts in: the original marked as reversed, too. -/
def marked (env : Env) (s : Db) (original : JournalEntry) (k periodId : UUID) (d : Date)
    (user : UUID) (reason : String) (years : Table FiscalYear) (periods : Table FiscalPeriod) :
    Db :=
  { linked env s original k periodId d user reason years periods with
    journals := withReversal s k
      (storedReversal env s original k periodId d user reason true)
      fun journal => markReversed (linkReversal s.journals.next journal) }

theorem liveKey_linked {original : JournalEntry} {periodId : UUID} {years : Table FiscalYear}
    {periods : Table FiscalPeriod} {idempotencyKey : String} :
    LiveKey (linked env s original k periodId d user reason years periods)
      org idempotencyKey ↔ LiveKey s org idempotencyKey := by
  have hinsert : LiveKey (s.withJournals
        (s.journals.insert (storedReversal env s original k periodId d user reason true))
        (s.nextLineId + original.lines.length)) org idempotencyKey ↔
      LiveKey s org idempotencyKey := liveKey_insert rfl
  refine Iff.trans ?_ hinsert
  exact liveKey_modify (s := { s with
      fiscalYears := years
      fiscalPeriods := periods
      journals := s.journals.insert (storedReversal env s original k periodId d user reason true)
      nextLineId := s.nextLineId + original.lines.length }) fun _ => ⟨rfl, rfl, rfl⟩

/-- The automatic posting is replayed under a live key, and the original keeps its status;
under another key it is marked as reversed and the reversal is posted. -/
theorem autoPostReversal_eq_ok {request : PostingRequest} {reversal : JournalEntry}
    {rollback : Db} (h : autoPostReversal request k reversal rollback s = .ok r s') :
    r.success = true ∧ r.reversalJournalId = some request.journalEntryId ∧
      ((LiveKey s request.organizationId request.idempotencyKey ∧ s' = s) ∨
        (¬ LiveKey s request.organizationId request.idempotencyKey ∧
          ∃ result, postJournalEntry request
            { s with journals := s.journals.modify k markReversed } = .ok result s')) := by
  rw [autoPostReversal, bind_eq_ok] at h
  obtain ⟨_, s₁, hmark, h⟩ := h
  rw [markOriginal, get_bind] at hmark
  rw [bind_eq_ok] at h
  obtain ⟨result, s₂, hpost, h⟩ := h
  rw [if_neg (by simp [postJournalEntry_success hpost])] at h
  obtain ⟨rfl, rfl⟩ := pure_eq_ok.mp h
  refine ⟨rfl, rfl, ?_⟩
  by_cases hlive : LiveKey s request.organizationId request.idempotencyKey
  · rw [if_pos hlive] at hmark
    obtain ⟨_, rfl⟩ := pure_eq_ok.mp hmark
    rcases postJournalEntry_eq_ok hpost with ⟨_, _, _, _, _, hs⟩ |
      ⟨_, _, _, hw, _⟩
    · exact Or.inl ⟨hlive, hs⟩
    · exact absurd hlive hw.notLive
  · rw [if_neg hlive] at hmark
    obtain rfl := modifyJournal_eq_ok.mp hmark
    exact Or.inr ⟨hlive, result, hpost⟩

theorem createReversal_draft_eq_ok
    (h : createReversal env org k d user reason false key allow session s = .ok r s') :
    ∃ original period, s.journals.get? k = some original ∧
      original.organizationId = org ∧ original.status = .posted ∧
      original.reversalJournalId = none ∧ r.reversalJournalId = some s.journals.next ∧
      PeriodGuardService.getPeriodForDate s org d = some period ∧
      s.AcceptsLines (stampLines s.nextLineId (original.lines.map reversedLine)) ∧
      s' = { s with
        journals := withReversal s k
          (storedReversal env s original k period.id d user reason false)
          (linkReversal s.journals.next)
        nextLineId := s.nextLineId + original.lines.length } := by
  rw [createReversal, get_bind, bind_eq_ok] at h
  obtain ⟨original, s, hload, h⟩ := h
  obtain ⟨hget, horg, rfl⟩ := loadJournal_eq_ok.mp hload
  rw [refuse_bind, refuse_bind, bind_eq_ok, not_not] at h
  obtain ⟨hposted, hunlinked, periodId, s₁, hperiod, h⟩ := h
  rw [reversalPeriod, get_bind, orRaise_bind] at hperiod
  obtain ⟨period, hcovering, hperiod⟩ := hperiod
  obtain ⟨rfl, rfl⟩ := pure_eq_ok.mp hperiod
  rw [bind_eq_ok] at h
  obtain ⟨reversalId, _, hadd, h⟩ := h
  obtain ⟨rfl, haccepts, rfl⟩ := addJournal_eq_ok hadd
  rw [bind_eq_ok] at h
  obtain ⟨_, _, hlink, h⟩ := h
  obtain rfl := modifyJournal_eq_ok.mp hlink
  obtain ⟨rfl, rfl⟩ := pure_eq_ok.mp h
  subst horg
  refine ⟨original, period, hget, rfl, hposted, by simpa using hunlinked, rfl, hcovering,
    haccepts, ?_⟩
  simp only [reversalJournal, List.length_map]
  rfl

/-- **An automatic reversal** passes the gate, adds a swapped approved journal and links the
original. Under a live key that is all; under another it marks the original as reversed and
posts the reversal. -/
theorem createReversal_auto_eq_ok
    (h : createReversal env org k d user reason true key allow session s = .ok r s') :
    ∃ original fiscalPeriodId years periods, s.journals.get? k = some original ∧
      original.organizationId = org ∧ original.status = .posted ∧
      original.reversalJournalId = none ∧ r.reversalJournalId = some s.journals.next ∧
      r.success = true ∧
      PeriodGuardService.Gated org d allow session s periods fiscalPeriodId ∧
      s.AcceptsLines (stampLines s.nextLineId (original.lines.map reversedLine)) ∧
      ((LiveKey s org (effectiveKey org s.journals.next key) ∧
          s' = linked env s original k fiscalPeriodId d user reason years periods) ∨
        (¬ LiveKey s org (effectiveKey org s.journals.next key) ∧
          ∃ result, postJournalEntry
            (postRequest org s.journals.next d user original key allow session)
            (marked env s original k fiscalPeriodId d user reason years periods) =
              .ok result s')) := by
  rw [createReversal, get_bind, bind_eq_ok] at h
  obtain ⟨original, _, hload, h⟩ := h
  obtain ⟨hget, horg, rfl⟩ := loadJournal_eq_ok.mp hload
  rw [refuse_bind, refuse_bind, bind_eq_ok, not_not] at h
  obtain ⟨hposted, hunlinked, periodId, s₁, hperiod, h⟩ := h
  rw [reversalPeriod, get_bind, orRaise_bind] at hperiod
  obtain ⟨_, _, hperiod⟩ := hperiod
  obtain ⟨hgated, years, hs₁⟩ := PeriodGuardService.requireOpenPeriod_gated hperiod
  generalize s₁.fiscalPeriods = periods at hgated hs₁
  subst hs₁
  rw [bind_eq_ok] at h
  obtain ⟨reversalId, _, hadd, h⟩ := h
  obtain ⟨rfl, haccepts, rfl⟩ := addJournal_eq_ok hadd
  rw [bind_eq_ok] at h
  obtain ⟨_, _, hlink, h⟩ := h
  obtain rfl := modifyJournal_eq_ok.mp hlink
  obtain ⟨hsuccess, hreversal, hpost⟩ := autoPostReversal_eq_ok h
  subst horg
  refine ⟨original, periodId, years, periods, hget, rfl, hposted, by simpa using hunlinked,
    hreversal, hsuccess, hgated, haccepts, ?_⟩
  simp only [Table.modify_modify, reversalJournal, List.length_map] at hpost
  rcases hpost with ⟨hlive, hs⟩ | ⟨hdead, result, hpost⟩
  · exact Or.inl ⟨liveKey_linked.mp hlive, hs⟩
  · exact Or.inr ⟨fun hlive => hdead (liveKey_linked.mpr hlive), result, hpost⟩

end

end ReversalService

end DotmacErp
