import DotmacErp.Posting.SuccessReport
import DotmacErp.Receivables.DocumentPosting

/-!
# What the posting of a document does to the ledger

A call ends when it returns or raises something other than a refusal of the database
(`ServiceError.Recoverable`), and what it has written may be committed either way. However the
posting of a document ends, it has added at most one journal of the document, and only if none
answered for it (`PostsOnce`), and at most one journal that recognises deferred tax. All other
journals are as they were.
-/

namespace DotmacErp

/-- Errors after which what was written may be committed: all but refusals of the database. -/
def ServiceError.Recoverable : ServiceError → Prop
  | .http _ _ => True
  | .integrity _ => False

end DotmacErp

namespace DotmacErp.Receivables

open Calendar Relational Session PostingIdempotencyService BasePostingAdapter

variable {α γ : Type} {s s' db db' : Db} {env : Env} {c : PostingContext}
  {store : ReceivablesStore Db} {k org userId documentId : UUID} {input : JournalInput}
  {document : SourceDocument} {postingDate : Date}

theorem ends_raising {e : Option ServiceError}
    (h : Ends ServiceError.Recoverable (raising e) s s') : s' = s := by
  cases e with
  | none => exact Ends.pure h
  | some e => exact Ends.throw h

/-! ### One journal more -/

structure AddsFor (input : JournalInput) (s s' : Db) : Prop where
  books : Books s → Books s'
  kept : ∀ k j, s.journals.get? k = some j → s'.journals.get? k = some j
  added : ∀ k j, s'.journals.get? k = some j → s.journals.get? k = some j ∨
    (k = s.journals.next ∧ j.sourceModule = input.sourceModule ∧
      j.sourceDocumentType = input.sourceDocumentType ∧
      j.sourceDocumentId = input.sourceDocumentId)

theorem AddsFor.refl (input : JournalInput) (s : Db) : AddsFor input s s :=
  ⟨id, fun _ _ h => h, fun _ _ h => .inl h⟩

theorem AddsFor.of_insert {journal : JournalEntry} (hbooks : Books s → Books s')
    (hjournals : s'.journals = s.journals.insert journal)
    (hsource : journal.sourceModule = input.sourceModule ∧
      journal.sourceDocumentType = input.sourceDocumentType ∧
      journal.sourceDocumentId = input.sourceDocumentId) : AddsFor input s s' := by
  refine ⟨hbooks, fun k j hj => ?_, fun k j hj => ?_⟩
  · rw [hjournals]
    exact Table.get?_insert_of_some hj journal
  · rw [hjournals, Table.get?_insert] at hj
    split_ifs at hj with hk
    · rw [← Option.some.inj hj]
      exact .inr ⟨hk, hsource⟩
    · exact .inl hj

variable {posting : LedgerPosting}

/-- What the adapter does to the journals when it returns: it leaves the one it created, or has
none created. -/
theorem createApproveAndPostJournal_addsFor {r : Option UUID × AdapterResult}
    (h : createApproveAndPostJournal env org input userId posting s =
      .ok r s') : AddsFor input s s' := by
  have hbooks : Books s → Books s' := fun hs =>
    (createApproveAndPostJournal_writes h).preserves (fun _ _ hs hw => hs.write hw) hs
  rw [createApproveAndPostJournal, bind_eq_ok] at h
  obtain ⟨x, s₁, hcreate, h⟩ := h
  rcases createAndApproveJournal_eq_ok hcreate with ⟨_, rfl, _, hs₁⟩ |
    ⟨period, totals, rfl, _, _, _, rfl⟩
  · obtain ⟨_, rfl⟩ := pure_eq_ok.mp h
    rw [hs₁]
    exact .refl input s
  obtain ⟨result, s₂, hpost, h⟩ := bind_eq_ok.mp h
  obtain ⟨_, rfl⟩ := pure_eq_ok.mp h
  rcases postToLedger_eq_ok hpost with ⟨answer, hledger, _⟩ |
    ⟨s₃, hrefused, hrevert, _⟩
  · rcases LedgerPostingService.postJournalEntry_eq_ok hledger with
      ⟨_, _, _, _, _, rfl⟩ | ⟨_, batchId, periodId, hw, _⟩
    · exact .of_insert hbooks rfl ⟨rfl, rfl, rfl⟩
    · have hjournals := hw.journals
      simp only [Db.withJournals, postRequest] at hjournals
      rw [Table.modify_insert_next] at hjournals
      exact .of_insert hbooks hjournals ⟨rfl, rfl, rfl⟩
  · obtain ⟨batches, years, periods, rfl, _, _⟩ := hrefused
    rcases revertUnpostedJournal_eq_ok hrevert with ⟨_, rfl⟩ | ⟨_, rfl⟩
    · refine .of_insert hbooks (Table.modify_insert_next _ _ _) ⟨rfl, rfl, rfl⟩
    · exact .of_insert hbooks rfl ⟨rfl, rfl, rfl⟩

theorem createApproveAndPostJournal_ne_recoverable {e : ServiceError} (he : e.Recoverable) :
    createApproveAndPostJournal env org input userId posting s ≠
      .error e s' := by
  intro h
  have hhttp : ∃ code detail, e = .http code detail := by
    cases e with
    | http code detail => exact ⟨code, detail, rfl⟩
    | integrity constraint => exact he.elim
  obtain ⟨code, detail, rfl⟩ := hhttp
  rw [createApproveAndPostJournal, bind_eq_error] at h
  rcases h with h | ⟨x, s₁, hcreate, h⟩
  · obtain ⟨e, s₁, -, h⟩ := catching_eq_error.mp h
    cases e with
    | http code' detail' => exact absurd h (by simp)
    | integrity constraint => exact absurd h (by simp)
  · cases x with
    | inl failure => exact absurd h (by simp)
    | inr journalEntryId =>
      dsimp only at h
      rcases bind_eq_error.mp h with h | ⟨result, s₂, -, h⟩
      · obtain ⟨e, s₂, -, h⟩ := catching_eq_error.mp h
        cases e with
        | integrity constraint => exact absurd h (by simp)
        | http code' detail' =>
          rcases bind_eq_error.mp h with h | ⟨_, _, -, h⟩
          · rw [revertUnpostedJournal, get_bind_eq_error] at h
            cases hget : s₂.journals.get? journalEntryId with
            | none => simp [hget] at h
            | some journal =>
              simp only [hget] at h
              split at h
              · exact absurd h (by simp [modifyJournal])
              · exact absurd h (by simp)
          · exact absurd h (by simp)
      · exact absurd h (by simp)

theorem ends_createApproveAndPostJournal {f : Option UUID × AdapterResult → Tx α}
    (h : Ends ServiceError.Recoverable (createApproveAndPostJournal env org input userId
      posting >>= f) s s') :
    ∃ r s₁, createApproveAndPostJournal env org input userId
        posting s = .ok r s₁ ∧ AddsFor input s s₁ ∧ Ends ServiceError.Recoverable (f r) s₁ s' := by
  rcases Ends.bind h with ⟨e, he, h⟩ | ⟨r, s₁, hrun, hrest⟩
  · exact absurd h (createApproveAndPostJournal_ne_recoverable he)
  · exact ⟨r, s₁, hrun, createApproveAndPostJournal_addsFor hrun, hrest⟩

/-! ### The course of a posting -/

/-- Nothing changes, or a journal is added that reclassifies the tax of a payment. -/
def Follows (s s' : Db) : Prop :=
  s' = s ∨ ∃ paymentId input,
    AddsFor (SourceDocument.stamp ⟨vatReclassSource, paymentId, none⟩ input) s s'

/-- A call adds at most one journal of a document, if none answered for it. -/
def PostsOnce (document : SourceDocument) (s s' : Db) : Prop :=
  ∃ s₁, (s₁ = s ∨ resolveExistingJournal s document = none ∧
    ∃ input, AddsFor (document.stamp input) s s₁) ∧ Follows s₁ s'

theorem PostsOnce.refl (document : SourceDocument) (s : Db) : PostsOnce document s s :=
  ⟨s, .inl rfl, .inl rfl⟩

variable {paymentId : UUID} {payment : CustomerPayment}

theorem follows_postVatReclass {customer : Customer}
    (h : Ends ServiceError.Recoverable
      (postVatReclassForPayment c store org paymentId payment customer
      postingDate userId) s s') : Follows s s' := by
  rw [postVatReclassForPayment] at h
  replace h := Ends.get_bind h
  split at h
  · exact .inl (Ends.pure h)
  obtain ⟨⟨journal, result⟩, s₂, -, hadds, h⟩ := ends_createApproveAndPostJournal h
  refine .inr ⟨paymentId, vatReclassJournal payment customer postingDate
    (c.buildCashVatReclassEntries store (store.allocationsOf paymentId)), ?_⟩
  dsimp only at h
  split at h
  · rw [Ends.pure h]
    exact hadds
  · rcases Ends.bind h with ⟨e, he, h⟩ | ⟨_, s₃, hraise, h⟩
    · rw [ends_raising (.inr ⟨e, he, h⟩)]
      exact hadds
    · rw [Ends.pure h, ends_raising (.inl ⟨_, hraise⟩)]
      exact hadds

theorem follows_followPayment
    (h : Ends ServiceError.Recoverable
      (followPayment c store org paymentId payment postingDate userId) s s') :
    Follows s s' := by
  rw [followPayment] at h
  split at h
  · exact .inl (Ends.pure h)
  rcases Ends.bind h with ⟨e, he, h⟩ | ⟨failure, s₁, hreclass, h⟩
  · exact follows_postVatReclass (.inr ⟨e, he, h⟩)
  have hfollows := follows_postVatReclass (.inl ⟨failure, hreclass⟩)
  split at h
  · rw [Ends.pure h]
    exact hfollows
  · rcases Ends.bind h with ⟨e, he, h⟩ | ⟨_, s₂, hraise, h⟩
    · rw [ends_raising (.inr ⟨e, he, h⟩)]
      exact hfollows
    · rw [Ends.pure h, ends_raising (.inl ⟨_, hraise⟩)]
      exact hfollows

variable {keyModule : String} {texts : PostingTexts} {preparation : Preparation}
    {follow : Tx (Option ArPostingResult)}

/-- **However the posting of a document ends**, it has posted it at most once. -/
theorem postsOnce_postDocument
    (hfollow : ∀ s s', Ends ServiceError.Recoverable follow s s' → Follows s s')
    (h : Ends ServiceError.Recoverable
      (postDocument env org userId postingDate document keyModule texts
      preparation follow) s s') : PostsOnce document s s' := by
  simp only [postDocument] at h
  replace h := Ends.get_bind h
  cases hresolve : resolveExistingJournal s document with
  | some journalEntryId =>
    simp only [hresolve] at h
    rw [Ends.pure h]
    exact .refl document s
  | none =>
    simp only [hresolve] at h
    cases preparation with
    | refused message =>
      rw [Ends.pure h]
      exact .refl document s
    | raised error =>
      rw [Ends.throw h]
      exact .refl document s
    | nothing message =>
      rw [Ends.pure h]
      exact .refl document s
    | journal input =>
      obtain ⟨⟨journal, result⟩, s₁, -, hadds, h⟩ := ends_createApproveAndPostJournal h
      refine ⟨s₁, .inr ⟨hresolve, input, hadds⟩, ?_⟩
      dsimp only at h
      split at h
      · exact .inl (Ends.pure h)
      · rcases Ends.bind h with ⟨e, he, h⟩ | ⟨failure, s₂, hrun, h⟩
        · exact hfollow _ _ (.inr ⟨e, he, h⟩)
        · rw [Ends.pure h]
          exact hfollow _ _ (.inl ⟨failure, hrun⟩)

theorem postsOnce_postInvoice {invoiceId : UUID} {invoice : Invoice}
    (hget : store.invoices.get? invoiceId = some invoice)
    (h : Ends ServiceError.Recoverable
      (postInvoiceToLedger c store org invoiceId postingDate userId) s s') :
    PostsOnce (invoice.document invoiceId) s s' := by
  rw [postInvoiceToLedger, hget] at h
  dsimp only at h
  split at h
  · rw [Ends.pure h]
    exact .refl _ s
  · exact postsOnce_postDocument (fun t t' ht => .inl (ends_raising (Ends.map ht))) h

theorem postsOnce_postPayment (hget : store.payments.get? paymentId = some payment)
    (h : Ends ServiceError.Recoverable
      (postPaymentToLedger c store org paymentId postingDate userId) s s') :
    PostsOnce (payment.document paymentId) s s' := by
  rw [postPaymentToLedger, hget] at h
  dsimp only at h
  split at h
  · rw [Ends.pure h]
    exact .refl _ s
  · exact postsOnce_postDocument (fun t t' ht => follows_followPayment ht) h

/-! ### What a document's journals are -/

/-- A document has one journal at most. -/
def Sole (db : Db) (document : SourceDocument) : Prop :=
  ∀ k k' j j', db.journals.get? k = some j → db.journals.get? k' = some j' →
    Answers document j → Answers document j' → k = k'

theorem Follows.books (h : Follows s s') (hs : Books s) : Books s' := by
  rcases h with rfl | ⟨_, _, hadds⟩
  · exact hs
  · exact hadds.books hs

theorem Follows.kept (h : Follows s s') {j : JournalEntry} (hj : s.journals.get? k = some j) :
    s'.journals.get? k = some j := by
  rcases h with rfl | ⟨_, _, hadds⟩
  · exact hj
  · exact hadds.kept k j hj

theorem Sole.of_other (h : Sole s document) (hadds : AddsFor input s s')
    (hother : input.sourceDocumentType ≠ some document.sourceDocumentType ∨
      input.sourceDocumentId ≠ some document.documentId) : Sole s' document := by
  have hold : ∀ k j, s'.journals.get? k = some j → Answers document j →
      s.journals.get? k = some j := by
    intro k j hj hanswers
    rcases hadds.added k j hj with hold | ⟨-, -, htype, hid⟩
    · exact hold
    · rcases hother with hother | hother
      · exact absurd (htype.symm.trans hanswers.1.2.1) hother
      · exact absurd (hid.symm.trans hanswers.1.2.2.1) hother
  intro k k' j j' hj hj' hanswers hanswers'
  exact h k k' j j' (hold k j hj hanswers) (hold k' j' hj' hanswers') hanswers hanswers'

theorem Sole.of_first (hnone : ∀ k j, s.journals.get? k = some j → ¬ Answers document j)
    (hadds : AddsFor input s s') : Sole s' document := by
  have hnew : ∀ k j, s'.journals.get? k = some j → Answers document j → k = s.journals.next := by
    intro k j hj hanswers
    rcases hadds.added k j hj with hold | ⟨hk, -⟩
    · exact absurd hanswers (hnone k j hold)
    · exact hk
  intro k k' j j' hj hj' hanswers hanswers'
  rw [hnew k j hj hanswers, hnew k' j' hj' hanswers']

theorem resolveExistingJournal_eq_none (h : resolveExistingJournal s document = none)
    {j : JournalEntry} (hj : s.journals.get? k = some j) : ¬ Answers document j := by
  intro hanswers
  obtain ⟨-, hfind⟩ := Option.or_eq_none_iff.mp h
  rw [Option.map_eq_none_iff] at hfind
  exact absurd (Table.find?_eq_none.mp hfind k j hj) (by simp [hanswers])

/-- **Posting a document once** leaves at most one journal to answer for any document. -/
theorem PostsOnce.sole {other : SourceDocument} (h : PostsOnce document s s')
    (hsole : Sole s other) (hother : other.sourceDocumentType ≠ vatReclassSource) :
    Sole s' other := by
  obtain ⟨s₁, hfirst, hfollows⟩ := h
  have hsole₁ : Sole s₁ other := by
    rcases hfirst with rfl | ⟨hnone, input, hadds⟩
    · exact hsole
    by_cases hsame : document.sourceDocumentType = other.sourceDocumentType ∧
        document.documentId = other.documentId
    · refine Sole.of_first (fun k j hj hanswers => ?_) hadds
      refine resolveExistingJournal_eq_none hnone hj ?_
      rw [Answers, hsame.1, hsame.2]
      exact hanswers
    · refine hsole.of_other hadds ?_
      rcases not_and_or.mp hsame with htype | hid
      · exact .inl fun heq => htype (Option.some.inj heq)
      · exact .inr fun heq => hid (Option.some.inj heq)
  rcases hfollows with rfl | ⟨paymentId, input, hadds⟩
  · exact hsole₁
  · exact hsole₁.of_other hadds (.inl fun heq => hother (Option.some.inj heq).symm)

theorem PostsOnce.books (h : PostsOnce document s s') (hs : Books s) : Books s' := by
  obtain ⟨s₁, hfirst, hfollows⟩ := h
  refine hfollows.books ?_
  rcases hfirst with rfl | ⟨_, _, hadds⟩
  · exact hs
  · exact hadds.books hs

/-! ### What a success reports -/

def postingOf (org : UUID) (postingDate : Date) (document : SourceDocument)
    (keyModule : String) (texts : PostingTexts) (input : JournalInput) :
    LedgerPosting where
  postingDate
  idempotencyKey := makeIdempotencyKey org keyModule document.documentId
  sourceModule := "AR"
  correlationId := input.correlationId
  successMessage := texts.success

/-- **What a success is**: the journal there was, a document with nothing to post, or a new journal
and all that follows from it. -/
theorem postDocument_eq_ok {r : ArPostingResult}
    (hfailure : ∀ t failure t', follow t = .ok (some failure) t' → failure.success = false)
    (h : postDocument env org userId postingDate document keyModule texts preparation
      follow s = .ok r s') (hsuccess : r.success = true) :
    (∃ k, resolveExistingJournal s document = some k ∧ r.journalEntryId = some k ∧ s' = s) ∨
      resolveExistingJournal s document = none ∧
        ((∃ message, preparation = .nothing message ∧ r.journalEntryId = none) ∨
          ∃ input journal result s₁, preparation = .journal input ∧
            createApproveAndPostJournal env org
              (document.stamp input) userId
              (postingOf org postingDate document keyModule texts input) s =
                .ok (journal, result) s₁ ∧
            result.success = true ∧ r.journalEntryId = journal ∧ follow s₁ = .ok none s') := by
  simp only [postDocument] at h
  rw [get_bind] at h
  cases hresolve : resolveExistingJournal s document with
  | some journalEntryId =>
    simp only [hresolve] at h
    obtain ⟨rfl, rfl⟩ := pure_eq_ok.mp h
    exact .inl ⟨journalEntryId, rfl, rfl, rfl⟩
  | none =>
    simp only [hresolve] at h
    refine .inr ⟨rfl, ?_⟩
    cases preparation with
    | refused message =>
      obtain ⟨rfl, -⟩ := pure_eq_ok.mp h
      exact absurd hsuccess (by simp)
    | raised error => exact absurd h (by simp)
    | nothing message =>
      obtain ⟨rfl, -⟩ := pure_eq_ok.mp h
      exact .inl ⟨message, rfl, rfl⟩
    | journal input =>
      obtain ⟨⟨journal, result⟩, s₁, hcreate, h⟩ := bind_eq_ok.mp h
      dsimp only at h
      split at h
      · obtain ⟨rfl, -⟩ := pure_eq_ok.mp h
        exact absurd hsuccess (by simp)
      · rename_i hposted
        obtain ⟨failure, s₂, hrun, h⟩ := bind_eq_ok.mp h
        obtain ⟨rfl, rfl⟩ := pure_eq_ok.mp h
        cases failure with
        | some failure =>
          rw [Option.getD_some, hfailure _ _ _ hrun] at hsuccess
          exact absurd hsuccess (by simp)
        | none =>
          exact .inr ⟨input, journal, result, s₁, rfl, hcreate, eq_true_of_ne_false hposted, rfl,
            hrun⟩

theorem accepts_of_created {journal : Option UUID} {result : AdapterResult}
    (h : createApproveAndPostJournal env org input userId posting s =
      .ok (journal, result) s') (hsuccess : result.success = true) :
    journal = some s.journals.next ∧ JournalService.Accepts env s org input ∧
      ∃ j, s'.journals.get? s.journals.next = some j := by
  rw [createApproveAndPostJournal, bind_eq_ok] at h
  obtain ⟨x, s₁, hcreate, h⟩ := h
  rcases createAndApproveJournal_eq_ok hcreate with ⟨failure, rfl, hfailed, _⟩ |
    ⟨period, totals, rfl, _, _, _, hs₁⟩
  · obtain ⟨hpair, _⟩ := pure_eq_ok.mp h
    rw [(Prod.mk.inj hpair).2, hfailed] at hsuccess
    exact absurd hsuccess (by simp)
  · have haccepts := accepts_of_createAndApproveJournal hcreate
    obtain ⟨result', s₂, hpost, h⟩ := bind_eq_ok.mp h
    obtain ⟨hpair, rfl⟩ := pure_eq_ok.mp h
    refine ⟨(Prod.mk.inj hpair).1, haccepts, ?_⟩
    have hadded : s₁.journals.get? s.journals.next =
        some (approvedJournal env s org input userId period.id
          totals) := by
      rw [hs₁]
      exact Table.get?_insert_self _ _
    rcases postToLedger_eq_ok hpost with ⟨answer, hledger, _⟩ |
      ⟨_, _, _, hfailed⟩
    · rcases LedgerPostingService.postJournalEntry_eq_ok hledger with
        ⟨_, _, _, _, _, rfl⟩ | ⟨_, batchId, periodId, hw, _⟩
      · exact ⟨_, hadded⟩
      · exact ⟨_, hw.get?_self⟩
    · rw [(Prod.mk.inj hpair).2, hfailed] at hsuccess
      exact absurd hsuccess (by simp)

def ReadyToPost (db : Db) (org : UUID) (document : SourceDocument)
    (keyModule : String) : Prop :=
  (∀ k ∈ resolveExistingJournal db document, ∃ j ∈ db.journals.get? k, j.status = .posted) ∧
    (resolveExistingJournal db document = none → ¬ LedgerPostingService.LiveKey db org
      (makeIdempotencyKey org keyModule document.documentId))

/-- **A success puts the journal it reports in the ledger** exactly when the document was ready to
be posted. -/
theorem inLedger_postDocument_iff {r : ArPostingResult}
    (hbooks : Books s) (hfollow : ∀ s s', Ends ServiceError.Recoverable follow s s' → Follows s s')
    (hfailure : ∀ t failure t', follow t = .ok (some failure) t' → failure.success = false)
    (h : postDocument env org userId postingDate document keyModule texts preparation
      follow s = .ok r s') (hsuccess : r.success = true) (hk : r.journalEntryId = some k) :
    InLedger s' k ↔ ReadyToPost s org document keyModule := by
  rcases postDocument_eq_ok hfailure h hsuccess with ⟨k', hresolve, hk', rfl⟩ |
    ⟨hresolve, ⟨message, -, hnone⟩ | ⟨input, journal, result, s₁, -, hcreate, hposted, hjournal,
      hrun⟩⟩
  · obtain rfl := Option.mem_unique hk hk'
    constructor
    · rintro ⟨j, hj, hstatus, -⟩
      refine ⟨fun k' hmem => ?_, fun hnone => absurd (hnone.symm.trans hresolve) (by simp)⟩
      rw [hresolve, Option.mem_some_iff] at hmem
      exact hmem ▸ ⟨j, hj, hstatus⟩
    · intro hready
      obtain ⟨j, hj, hstatus⟩ := hready.1 k hresolve
      exact hbooks.inLedger hj hstatus
  · exact absurd (hnone.symm.trans hk) (by simp)
  · obtain ⟨hnext, haccepts, j, hj⟩ := accepts_of_created hcreate hposted
    obtain rfl := Option.some.inj (hk.symm.trans (hjournal.trans hnext))
    have hadds := createApproveAndPostJournal_addsFor hcreate
    have hfollows := hfollow _ _ (.inl ⟨none, hrun⟩)
    -- what follows leaves the journal
    have hkept : InLedger s' s.journals.next ↔ InLedger s₁ s.journals.next := by
      constructor
      · rintro ⟨j', hj', hstatus, -⟩
        rw [hfollows.kept hj] at hj'
        exact (hadds.books hbooks).inLedger hj (Option.some.inj hj' ▸ hstatus)
      · rintro ⟨j', hj', hstatus, -⟩
        exact (hfollows.books (hadds.books hbooks)).inLedger (hfollows.kept hj') hstatus
    rw [hkept]
    constructor
    · intro hin
      refine ⟨fun k' hmem => ?_, fun _ hlive => ?_⟩
      · rw [hresolve] at hmem
        exact absurd hmem (by simp)
      · have hreplays : AdapterReplays s env org (document.stamp input)
            (postingOf org postingDate document keyModule texts input) :=
          ⟨haccepts, by simp [postingOf, makeIdempotencyKey], hlive⟩
        obtain ⟨r', s₂, j', hcall, -, hj', hunposted⟩ :=
          createApproveAndPostJournal_of_live hreplays userId
        rw [hcreate] at hcall
        obtain ⟨-, rfl⟩ := EStateM.Result.ok.inj hcall
        exact not_inLedger hj' hunposted.1 hin
    · intro hready
      have hhonest : AdapterHonest s env org (document.stamp input) userId
          (postingOf org postingDate document keyModule texts input) :=
        (adapter_honest_iff hbooks).mpr fun hreplays => hready.2 hresolve hreplays.2.2
      obtain ⟨k', hk', hin⟩ := hhonest journal result s₁ hcreate hposted
      obtain rfl := Option.mem_unique hnext hk'
      exact hin

end DotmacErp.Receivables
