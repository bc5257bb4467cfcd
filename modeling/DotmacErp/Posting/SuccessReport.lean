import DotmacErp.GL.LedgerIdentity

/-!
# What a success report is worth

`post_journal` and the posting adapter report success in two situations: the posting service
has written, or it has replayed the batch of a live key. The first puts the journal in the
ledger. The second looks at the key only, never at the journal of the request, so a journal
posted under another journal's live key stays approved, without a batch and without rows,
although the report is a success: the state `_revert_unposted_journal` exists to prevent.

The report is therefore honest exactly when the call does not replay (`post_honest_iff`,
`adapter_honest_iff`), and both conditions can be read off the database before the call.
-/

namespace DotmacErp

open Relational Session LedgerPostingService BasePostingAdapter JournalService

variable {s s' : Db} {env : Env} {org k user : UUID} {key : Option String} {allow : Bool}
  {session : Option UUID} {input : JournalInput} {posting : LedgerPosting}

/-- A journal is in the ledger: posted in a batch, with a row of its own for each line. -/
def InLedger (s : Db) (k : UUID) : Prop :=
  ∃ j, s.journals.get? k = some j ∧ j.status = .posted ∧ j.postingBatchId.isSome ∧
    j.lines ≠ [] ∧ List.Forall₂ Records j.lines (rowsOfJournal s.ledger k)

/-- A return of `post_journal` puts its journal in the ledger. -/
def PostHonest (s : Db) (org k user : UUID) (key : Option String) (allow : Bool)
    (session : Option UUID) : Prop :=
  ∀ r s', postJournal org k user key allow session s = .ok r s' → InLedger s' k

/-- A success of `create_approve_and_post_journal` puts the journal it created in the ledger. -/
def AdapterHonest (s : Db) (env : Env) (org : UUID) (input : JournalInput) (user : UUID)
    (posting : LedgerPosting) : Prop :=
  ∀ journal r s', createApproveAndPostJournal env org input user posting s =
      .ok (journal, r) s' → r.success = true → ∃ k, journal = some k ∧ InLedger s' k

/-- `post_journal` is asked to post an approved journal under a live key. -/
def PostReplays (s : Db) (org k : UUID) (key : Option String) : Prop :=
  (∃ j, s.journals.get? k = some j ∧ j.organizationId = org ∧ j.status = .approved) ∧
    LiveKey s org (effectiveKey org k key)

/-- The input is accepted, and the key of the posting is live. -/
def AdapterReplays (s : Db) (env : Env) (org : UUID) (input : JournalInput)
    (posting : LedgerPosting) : Prop :=
  Accepts env s org input ∧ posting.idempotencyKey ≠ "" ∧
    LiveKey s org posting.idempotencyKey

/-! ### Journals in the ledger -/

theorem Books.inLedger (h : Books s) {j : JournalEntry} (hj : s.journals.get? k = some j)
    (hposted : j.status = .posted) : InLedger s k := by
  have hfiled := h.filed k j hj
  obtain ⟨b, _, hb, _, _, _, hrecords, _⟩ := hfiled.booked (Or.inl hposted)
  exact ⟨j, hj, hposted, by simp [hb], hfiled.lines, hrecords⟩

theorem Books.inLedger_of_written (h : Books s) {request : PostingRequest}
    {journal : JournalEntry} {batchId periodId : UUID} (hentries : request.entries = [])
    (hw : Written request journal batchId periodId s s') :
    InLedger s' request.journalEntryId :=
  (h.post hentries hw).inLedger hw.get?_self rfl

theorem not_inLedger {j : JournalEntry} (hj : s.journals.get? k = some j)
    (happroved : j.status = .approved) : ¬ InLedger s k := by
  rintro ⟨j', hj', hposted, _⟩
  rw [hj, Option.some.injEq] at hj'
  rw [← hj', happroved] at hposted
  exact absurd hposted (by simp)

/-! ### Posting a journal -/

theorem postJournal_of_live (user : UUID) (allow : Bool) (session : Option UUID)
    {j : JournalEntry} (hj : s.journals.get? k = some j)
    (horg : j.organizationId = org) (happroved : j.status = .approved)
    (hlive : LiveKey s org (effectiveKey org k key)) :
    postJournal org k user key allow session s = .ok j s := by
  obtain ⟨batch, _, hreplay⟩ := postJournalEntry_of_live
    (postRequest org k user j key allow session)
    (effectiveKey_ne_empty org k key) hlive
  rw [postJournal, bind_eq_ok]
  refine ⟨j, s, loadJournal_eq_ok.mpr ⟨hj, horg, rfl⟩, ?_⟩
  rw [if_neg (by simp [happroved]), refuse_bind, bind_eq_ok]
  refine ⟨by simp [happroved], _, s, hreplay, ?_⟩
  rw [refuse_bind, refreshJournal_eq_ok]
  exact ⟨by simp [replayResult], hj, rfl⟩

theorem post_honest_iff (h : Books s) :
    PostHonest s org k user key allow session ↔ ¬ PostReplays s org k key := by
  constructor
  · rintro hhonest ⟨⟨j, hj, horg, happroved⟩, hlive⟩
    have hreturns := postJournal_of_live user allow session hj horg happroved hlive
    exact not_inLedger hj happroved (hhonest j s hreturns)
  · intro hreplays r s' hpost
    obtain ⟨j, hj, horg, hr, hcases⟩ := postJournal_eq_ok hpost
    rcases hcases with ⟨hposted, rfl⟩ | ⟨happroved, result, hledger⟩
    · exact h.inLedger hj hposted
    · rcases postJournalEntry_eq_ok hledger with
        ⟨batch, hfind, hbatch, hlive, _, _⟩ | ⟨journal, batchId, periodId, hw, _⟩
      · exact absurd ⟨⟨j, hj, horg, happroved⟩, batch, hfind, hbatch, hlive⟩ hreplays
      · exact h.inLedger_of_written rfl hw

/-! ### Posting through the adapter -/

theorem createApproveAndPostJournal_of_live (h : AdapterReplays s env org input posting)
    (user : UUID) :
    ∃ r s' j, createApproveAndPostJournal env org input user posting s =
        .ok (some s.journals.next, r) s' ∧ r.success = true ∧
      s'.journals.get? s.journals.next = some j ∧ Unposted j := by
  obtain ⟨haccepts, hkey, hlive⟩ := h
  obtain ⟨s₁, hcreate⟩ := createAndApproveJournal_of_accepts haccepts
    user posting.creationErrorPrefix
  rcases createAndApproveJournal_eq_ok hcreate with ⟨_, hinl, _⟩ |
    ⟨period, totals, _, _, _, _, hs₁⟩
  · exact absurd hinl (by simp)
  set journal := approvedJournal env s org input user period.id totals
  have hlive₁ : LiveKey s₁ org posting.idempotencyKey := by
    rw [hs₁]
    exact (liveKey_insert rfl).mpr hlive
  have hj : s₁.journals.get? s.journals.next = some journal := by
    rw [hs₁]
    exact Table.get?_insert_self _ _
  obtain ⟨batch, _, hreplay⟩ := postJournalEntry_of_live
    (postRequest org s.journals.next user posting) hkey hlive₁
  have hpost := postToLedger_of_ok hreplay
  refine ⟨postedReport s.journals.next posting
    (replayResult batch), s₁, journal, ?_, rfl, hj, rfl, rfl⟩
  rw [createApproveAndPostJournal, bind_eq_ok]
  refine ⟨_, s₁, hcreate, ?_⟩
  rw [bind_eq_ok]
  exact ⟨_, s₁, hpost, pure_eq_ok.mpr ⟨rfl, rfl⟩⟩

theorem adapter_honest_iff (h : Books s) :
    AdapterHonest s env org input user posting ↔ ¬ AdapterReplays s env org input posting := by
  constructor
  · intro hhonest hreplays
    obtain ⟨r, s', j, hcall, hr, hj, hunposted⟩ :=
      createApproveAndPostJournal_of_live hreplays user
    obtain ⟨k, hk, hin⟩ := hhonest _ r s' hcall hr
    rw [← Option.some.inj hk] at hin
    exact not_inLedger hj hunposted.1 hin
  · intro hreplays journal r s' hcall hr
    rw [createApproveAndPostJournal, bind_eq_ok] at hcall
    obtain ⟨x, s₁, hcreate, hcall⟩ := hcall
    rcases createAndApproveJournal_eq_ok hcreate with
      ⟨failure, hx, hfailure, _⟩ | ⟨period, totals, hx, _, _, _, hs₁⟩
    · rw [hx] at hcall
      obtain ⟨hpair, _⟩ := pure_eq_ok.mp hcall
      rw [(Prod.mk.inj hpair).2, hfailure] at hr
      exact absurd hr (by simp)
    rw [hx] at hcall hcreate
    have haccepts := accepts_of_createAndApproveJournal hcreate
    obtain ⟨result, s₂, hpost, hcall⟩ := bind_eq_ok.mp hcall
    obtain ⟨hpair, rfl⟩ := pure_eq_ok.mp hcall
    obtain ⟨hjournal, hresult⟩ := Prod.mk.inj hpair
    refine ⟨s.journals.next, hjournal, ?_⟩
    have hadded : Write s s₁ := (createAndApproveJournal_write hcreate).2
    rcases postToLedger_eq_ok hpost with ⟨answer, hledger, _⟩ |
      ⟨_, _, _, hfailed⟩
    · rcases postJournalEntry_eq_ok hledger with
        ⟨batch, hfind, hbatch, hlive, _, _⟩ | ⟨_, batchId, periodId, hw, _⟩
      · -- a replay, under a key that was live before the journal was created
        have hlive₁ : LiveKey s₁ org posting.idempotencyKey :=
          ⟨batch, hfind, hbatch, hlive⟩
        rw [hs₁] at hlive₁
        have hlive₀ := (liveKey_insert rfl).mp hlive₁
        by_cases hkey : posting.idempotencyKey = ""
        · rw [postJournalEntry, refuse_bind] at hledger
          exact absurd hkey hledger.1
        · exact absurd ⟨haccepts, hkey, hlive₀⟩ hreplays
      · exact (h.write hadded).inLedger_of_written rfl hw
    · rw [hresult, hfailed] at hr
      exact absurd hr (by simp)

/-- **Success reports.** In every reachable state, a return of `post_journal` means that the
journal is in the ledger exactly when the call does not ask for an approved journal under a
live key, and a success of the adapter does exactly when the call does not ask for an
acceptable input under one. -/
theorem success_report_iff (h : ledgerSystem.Reachable s) (org k user : UUID)
    (key : Option String) (allow : Bool) (session : Option UUID) (env : Env)
    (input : JournalInput) (posting : LedgerPosting) :
    (PostHonest s org k user key allow session ↔ ¬ PostReplays s org k key) ∧
      (AdapterHonest s env org input user posting ↔ ¬ AdapterReplays s env org input posting) :=
  ⟨post_honest_iff (books_of_reachable h), adapter_honest_iff (books_of_reachable h)⟩

/-! ### A key used twice -/

/-- Two journals of one bank statement line, approved, the first posted under its key. -/
def sharedKeyCalls : List Operation :=
  [.createJournal sampleEnv 0 sampleInput 7, .submitJournal 0 0 7, .approveJournal sampleEnv 0 0 8,
    .postJournal 0 0 8 (some "bank-recon:7") false none,
    .createJournal sampleEnv 0 sampleInput 7, .submitJournal 0 1 7, .approveJournal sampleEnv 0 1 8]

def sharedKeyDb : Db := sampleDb.after sharedKeyCalls

theorem sharedKeyDb_reachable : ledgerSystem.Reachable sharedKeyDb :=
  reachable_after rfl rfl rfl sharedKeyCalls

def sharedKeyPosting : LedgerPosting where
  postingDate := january
  idempotencyKey := "bank-recon:7"
  sourceModule := "BANKING"
  correlationId := none
  successMessage := "Posted"

theorem sharedKeyDb_replays : PostReplays sharedKeyDb 0 1 (some "bank-recon:7") := by
  have hlive : LiveKey sharedKeyDb 0
      (effectiveKey 0 1 (some "bank-recon:7")) := by decide +kernel
  have happroved : (sharedKeyDb.journals.get? 1).any
      (fun j => j.organizationId = 0 ∧ j.status = .approved) = true := by decide +kernel
  obtain ⟨j, hj, hpred⟩ := (Option.any_eq_true _ _).mp happroved
  obtain ⟨horg, hstatus⟩ := of_decide_eq_true hpred
  exact ⟨⟨j, hj, horg, hstatus⟩, hlive⟩

/-- Posting the second journal returns normally and leaves it approved. -/
theorem success_report_replayed :
    ¬ ∀ s, ledgerSystem.Reachable s → ∀ org k user key allow session,
      PostHonest s org k user key allow session := by
  intro h
  have hhonest := h sharedKeyDb sharedKeyDb_reachable 0 1 8 (some "bank-recon:7") false none
  exact (post_honest_iff (books_of_reachable sharedKeyDb_reachable)).mp hhonest
    sharedKeyDb_replays

/-- On those books posting the second journal under the first one's key is not honest, posting
it under its own key is, and neither report of the adapter under an unused key misleads. -/
theorem success_report_iff_sample :
    ¬ PostHonest sharedKeyDb 0 1 8 (some "bank-recon:7") false none ∧
      PostHonest sharedKeyDb 0 1 8 none false none ∧
      AdapterHonest sharedKeyDb sampleEnv 0 sampleInput 8
        { sharedKeyPosting with idempotencyKey := "bank-recon:8" } := by
  have hown : ¬ LiveKey sharedKeyDb 0
      (effectiveKey 0 1 none) := by decide +kernel
  have hunused : ¬ LiveKey sharedKeyDb 0 "bank-recon:8" := by
    decide +kernel
  have hshared := success_report_iff sharedKeyDb_reachable 0 1 8 (some "bank-recon:7") false none
    sampleEnv sampleInput { sharedKeyPosting with idempotencyKey := "bank-recon:8" }
  have hdefault := success_report_iff sharedKeyDb_reachable 0 1 8 none false none sampleEnv
    sampleInput sharedKeyPosting
  exact ⟨fun hhonest => hshared.1.mp hhonest sharedKeyDb_replays,
    hdefault.1.mpr fun hreplays => hown hreplays.2, hshared.2.mpr fun h => hunused h.2.2⟩

end DotmacErp
