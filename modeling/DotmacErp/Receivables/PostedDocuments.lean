import DotmacErp.Foundation.Scripts
import DotmacErp.Receivables.AllocationSteps
import DotmacErp.Receivables.PostingSteps

/-!
# Posted documents are in the ledger

`ARInvoiceService.post_invoice` and `CustomerPaymentService.post_payment` over whole runs, in which
periods are closed and opened again and documents change in between. A call that raises may be
rolled back or, unless the database refused a write, be committed with what it had written, as the
callers do that catch what it raises.

In every state at most one journal answers for a document. A call that returns for a document with
an amount leaves it with a journal in the ledger exactly when the document was ready to be posted:
what answered for it was posted, and if nothing did its key was free (`posted_document_iff`). After
a posting that the ledger refused, a draft answers for the document, and the next call succeeds with
it (`retry_reports_a_draft`).
-/

namespace DotmacErp.Receivables

open Calendar Relational Session CustomerPaymentService

variable {c : PostingContext} {v : PostingServices Db} {s s' : ReceivablesStore Db}
  {org invoiceId paymentId userId : UUID} {postingDate : Option Date} {today : Date}

/-! ### Advances -/

def journalOf (s : ReceivablesStore Db) (invoiceId : UUID) : Option (Option UUID) :=
  (s.invoices.get? invoiceId).map Invoice.journalEntryId

theorem journalOf_modify {f : Invoice → Invoice} (h : s'.invoices = s.invoices.modify invoiceId f)
    (hf : ∀ i, (f i).journalEntryId = i.journalEntryId) : journalOf s' = journalOf s := by
  funext k
  rw [journalOf, journalOf, h, Table.get?_modify]
  split_ifs with hk
  · rw [Option.map_map]
    exact congrArg (fun g => (s.invoices.get? k).map g) (funext hf)
  · rfl

theorem applyReceipts_ne_recoverable {receipts : List (UUID × ℚ)} {remaining : ℚ}
    {result : AdvanceAllocationResult} {e : ReceivableError} (he : e.Recoverable) :
    AdvanceAllocationService.applyReceipts invoiceId receipts remaining result s ≠
      .error e s' := by
  induction receipts generalizing s remaining result with
  | nil => exact fun h => absurd h (by simp [AdvanceAllocationService.applyReceipts])
  | cons r rest ih =>
    intro h
    rw [AdvanceAllocationService.applyReceipts] at h
    split_ifs at h
    · exact absurd h (by simp)
    · exact ih h
    · rcases bind_eq_error.mp h with h | ⟨_, s₁, -, h⟩
      · rw [AdvanceAllocationService.applyReceipt, addAllocation] at h
        rcases bind_eq_error.mp h with h | ⟨_, _, -, h⟩
        · rw [get_bind_eq_error, refuse_bind_eq_error, refuse_bind_eq_error,
            refuse_bind_eq_error] at h
          rcases h with ⟨-, rfl, -⟩ | ⟨-, ⟨-, rfl, -⟩ | ⟨-, ⟨-, rfl, -⟩ | ⟨-, h⟩⟩⟩
          · exact he
          · exact he
          · exact he
          · exact (set_eq_error.mp h).elim
        · exact absurd h (by simp)
      · exact ih h

theorem applyAdvances_frame (h : Ends ReceivableError.Recoverable (applyAdvances invoiceId today)
    s s') : s'.ledger = s.ledger ∧ journalOf s' = journalOf s := by
  have happly := Ends.map (Ends.swallowing h)
  rw [AdvanceAllocationService.applyToInvoice] at happly
  rcases Ends.orRaise_bind (Ends.get_bind happly) with rfl | ⟨invoice, hget, hrun⟩
  · exact ⟨rfl, rfl⟩
  split at hrun
  · rw [Ends.pure hrun]
    exact ⟨rfl, rfl⟩
  dsimp only at hrun
  split at hrun
  · rw [Ends.pure hrun]
    exact ⟨rfl, rfl⟩
  rcases Ends.bind hrun with ⟨e, he, hraise⟩ | ⟨result, s₁, hreceipts, hrun⟩
  · exact absurd hraise (applyReceipts_ne_recoverable he)
  replace hrun := Ends.modify_bind hrun
  replace hrun := Ends.get_bind hrun
  rw [Ends.pure hrun]
  obtain ⟨_, hledger, hjournals⟩ := applyReceipts_induction
    (P := fun t _ => t.ledger = s.ledger ∧ journalOf t = journalOf s)
    (fun t t' remaining r u hP _ _ _ hone => by
      obtain ⟨-, -, rfl⟩ := applyReceipt_eq_ok hone
      exact ⟨hP.1, (journalOf_modify (f := receive _) rfl fun _ => rfl).trans hP.2⟩)
    hreceipts ⟨rfl, rfl⟩
  exact ⟨hledger,
    (journalOf_modify (f := applyPaymentStatus today) rfl fun _ => rfl).trans hjournals⟩

/-! ### Calls -/

/-- The two calls that post a document of a customer. -/
inductive PostingCall where
  | invoice (org invoiceId userId : UUID) (postingDate : Option Date) (today : Date)
  | payment (org paymentId userId : UUID) (postingDate : Option Date) (today : Date)

namespace PostingCall

def run (c : PostingContext) (v : PostingServices Db) : PostingCall → ReceivablesSession Db PUnit
  | invoice org invoiceId userId postingDate today =>
    ARInvoiceService.postInvoice c org invoiceId userId postingDate today
  | payment org paymentId userId postingDate today =>
    postPayment (c.services v) org paymentId userId postingDate today

def organization : PostingCall → UUID
  | invoice org .. => org
  | payment org .. => org

def document (s : ReceivablesStore Db) : PostingCall → Option SourceDocument
  | invoice _ invoiceId .. => (s.invoices.get? invoiceId).map (Invoice.document invoiceId)
  | payment _ paymentId .. => (s.payments.get? paymentId).map (CustomerPayment.document paymentId)

def amount (s : ReceivablesStore Db) : PostingCall → ℚ
  | invoice _ invoiceId .. => ((s.invoices.get? invoiceId).map Invoice.totalAmount).getD 0
  | payment _ paymentId .. => ((s.payments.get? paymentId).map CustomerPayment.gross).getD 0

def keyModule : PostingCall → String
  | invoice .. => "AR"
  | payment .. => "AR:PAY"

/-- The document refers to a journal that is in the ledger. -/
def Reported (s : ReceivablesStore Db) (call : PostingCall) : Prop :=
  ∃ document ∈ call.document s, ∃ k ∈ document.journalEntryId, InLedger s.ledger k

/-- The document of the call can be posted. -/
def Ready (s : ReceivablesStore Db) (call : PostingCall) : Prop :=
  ∀ document ∈ call.document s,
    ReadyToPost s.ledger call.organization document call.keyModule

end PostingCall

variable {α : Type} {db : Db}

theorem ends_of_answerOf {x : Tx α} {r : Except ReceivableError α}
    (hr : (answerOf x db).1 = r) (hkept : ∀ e, r = .error e → e.Recoverable) :
    Ends ServiceError.Recoverable x db (answerOf x db).2 := by
  rw [answerOf] at hr ⊢
  cases hx : x db with
  | ok a db' => exact .inl ⟨a, hx⟩
  | error e db' =>
    refine .inr ⟨e, ?_, hx⟩
    rw [hx] at hr
    have hrecoverable := hkept _ hr.symm
    cases e with
    | http code detail => trivial
    | integrity constraint => exact hrecoverable.elim

theorem answerOf_eq_ok {x : Tx α} {a : α}
    (h : (answerOf x db).1 = .ok a) : x db = .ok a (answerOf x db).2 := by
  rw [answerOf] at h ⊢
  cases hx : x db with
  | ok b db' =>
    rw [hx] at h
    obtain rfl := Except.ok.inj h
    rfl
  | error e db' =>
    rw [hx] at h
    exact absurd h (by simp)

/-! ### What a call does -/

theorem ends_postInvoice (h : Ends ReceivableError.Recoverable
    (ARInvoiceService.postInvoice c org invoiceId userId postingDate today) s s') :
    s'.ledger = s.ledger ∨ ∃ invoice, s.invoices.get? invoiceId = some invoice ∧
      PostsOnce (invoice.document invoiceId) s.ledger s'.ledger := by
  rw [ARInvoiceService.postInvoice] at h
  rcases Ends.orRaise_bind (Ends.get_bind h) with rfl | ⟨invoice, hget, h⟩
  · exact .inl rfl
  rcases Ends.refuse_bind h with rfl | ⟨-, h⟩
  · exact .inl rfl
  rcases Ends.refuse_bind h with rfl | ⟨-, h⟩
  · exact .inl rfl
  refine .inr ⟨invoice, hget, ?_⟩
  replace h := Ends.set_bind h
  generalize hanswer : (answerOf (postInvoiceToLedger c s org invoiceId
    (postingDate.getD invoice.invoiceDate) userId) s.ledger).1 = answer at h
  have hends := fun hkept => postsOnce_postInvoice hget (ends_of_answerOf hanswer hkept)
  cases answer with
  | error e =>
    rcases Ends.bind h with ⟨e', he', hraise⟩ | ⟨result, s₁, hraise, -⟩
    · obtain ⟨rfl, rfl⟩ := throw_eq_error.mp hraise
      exact hends fun e' heq => Except.error.inj heq ▸ he'
    · exact (throw_eq_ok.mp hraise).elim
  | ok result =>
    replace hends := hends fun e heq => absurd heq (by simp)
    rcases Ends.bind h with ⟨e, -, hraise⟩ | ⟨result', s₁, hreturn, h⟩
    · exact absurd hraise (by simp [ofExcept])
    obtain ⟨-, rfl⟩ := pure_eq_ok.mp hreturn
    rcases Ends.refuse_bind h with rfl | ⟨-, h⟩
    · exact hends
    · have hledger := (applyAdvances_frame (Ends.modify_bind h)).1
      rw [hledger]
      exact hends

theorem ends_getPayment {message : String} {f : CustomerPayment → ReceivablesSession Db α}
    (h : Ends ReceivableError.Recoverable
      (getPayment org paymentId message >>= f) s s') :
    s' = s ∨ ∃ payment, s.payments.get? paymentId = some payment ∧
      Ends ReceivableError.Recoverable (f payment) s s' := by
  rcases Ends.bind h with ⟨e, he, hraise⟩ | ⟨payment, s₁, hfound, h⟩
  · left
    have hends := Ends.get_bind (.inr ⟨e, he, hraise⟩ : Ends ReceivableError.Recoverable
      (getPayment org paymentId message) s s')
    rcases Ends.orRaise_bind hends with rfl | ⟨payment, -, hends⟩
    · rfl
    rcases Ends.refuse_bind hends with rfl | ⟨-, hends⟩
    · rfl
    · exact Ends.pure hends
  · obtain ⟨hget, -, hs⟩ := getPayment_eq_ok hfound
    exact .inr ⟨payment, hget, hs ▸ h⟩

def whilePosting (paymentId : UUID) (s : ReceivablesStore Db) : ReceivablesStore Db :=
  { s with payments := s.payments.modify paymentId (withStatus .approved) }

theorem ends_postPayment (h : Ends ReceivableError.Recoverable
    (postPayment (c.services v) org paymentId userId postingDate
      today) s s') :
    s'.ledger = s.ledger ∨ ∃ payment, s.payments.get? paymentId = some payment ∧
      PostsOnce (payment.document paymentId) s.ledger s'.ledger := by
  rw [postPayment] at h
  rcases ends_getPayment h with rfl | ⟨payment, hget, h⟩
  · exact .inl rfl
  rcases Ends.refuse_bind h with rfl | ⟨-, h⟩
  · exact .inl rfl
  rcases Ends.refuse_bind h with rfl | ⟨-, h⟩
  · exact .inl rfl
  refine .inr ⟨payment, hget, ?_⟩
  have happroved : (whilePosting paymentId s).payments.get? paymentId =
      some (withStatus .approved payment) := by
    rw [whilePosting, Table.get?_modify_self, hget, Option.map_some]
  replace h := Ends.modify_bind h
  change Ends _ _ (whilePosting paymentId s) s' at h
  replace h := Ends.get_bind h
  replace h := Ends.set_bind h
  dsimp only [PostingContext.services] at h
  generalize hanswer : (answerOf (postPaymentToLedger c (whilePosting paymentId s) org
    paymentId (postingDate.getD payment.paymentDate) userId) (whilePosting paymentId s).ledger).1 =
      answer at h
  have hends := fun hkept => postsOnce_postPayment happroved (ends_of_answerOf hanswer hkept)
  cases answer with
  | error e =>
    rcases Ends.bind h with ⟨e', he', hraise⟩ | ⟨result, s₁, hraise, -⟩
    · obtain ⟨e₁, s₁, hraised, hhandled⟩ := catching_eq_error.mp hraise
      obtain ⟨rfl, rfl⟩ := throw_eq_error.mp hraised
      rw [modify_bind_eq_error] at hhandled
      obtain ⟨rfl, rfl⟩ := throw_eq_error.mp hhandled
      exact hends fun e' heq => Except.error.inj heq ▸ he'
    · exact absurd hraise (by simp [ofExcept])
  | ok result =>
    replace hends := hends fun e heq => absurd heq (by simp)
    rcases Ends.bind h with ⟨e, -, hraise⟩ | ⟨result', s₁, hreturn, h⟩
    · exact absurd hraise (by simp [ofExcept])
    have hs₁ : s₁.ledger = (answerOf (postPaymentToLedger c (whilePosting paymentId s)
        org paymentId (postingDate.getD payment.paymentDate) userId) s.ledger).2 := by
      rcases catching_eq_ok.mp hreturn with hreturn | ⟨e, s₂, hraise, -⟩
      · obtain ⟨-, rfl⟩ := pure_eq_ok.mp hreturn
        rfl
      · exact absurd hraise (by simp [ofExcept])
    split at h
    · replace h := Ends.modify_bind h
      rw [Ends.throw h, hs₁]
      exact hends
    · rw [Ends.modify h, hs₁]
      exact hends

/-! ### What a success reports -/

theorem exists_journal_of_postDocument {env : Env} {document : SourceDocument} {date : Date}
    {keyModule : String} {texts : PostingTexts} {preparation : Preparation}
    {follow : Tx (Option ArPostingResult)} {r : ArPostingResult} {db' : Db}
    (hfailure : ∀ t failure t', follow t = .ok (some failure) t' → failure.success = false)
    (h : postDocument env org userId date document keyModule texts preparation follow
      db = .ok r db') (hsuccess : r.success = true)
    (hsomething : ∀ message, preparation ≠ .nothing message) : ∃ k, r.journalEntryId = some k := by
  rcases postDocument_eq_ok hfailure h hsuccess with ⟨k, -, hk, -⟩ |
    ⟨-, ⟨message, hnothing, -⟩ | ⟨_, journal, _, _, -, hcreate, hposted, hjournal, -⟩⟩
  · exact ⟨k, hk⟩
  · exact absurd hnothing (hsomething message)
  · exact ⟨_, hjournal.trans (accepts_of_created hcreate hposted).1⟩

variable {u : PUnit}

theorem postInvoice_eq_ok
    (h : ARInvoiceService.postInvoice c org invoiceId userId postingDate today s =
      .ok u s') :
    ∃ invoice result, s.invoices.get? invoiceId = some invoice ∧
      invoice.organizationId = org ∧
      postInvoiceToLedger c s org invoiceId (postingDate.getD invoice.invoiceDate)
        userId s.ledger = .ok result s'.ledger ∧
      result.success = true ∧ journalOf s' invoiceId = some result.journalEntryId := by
  rw [ARInvoiceService.postInvoice, get_bind, orRaise_bind] at h
  obtain ⟨invoice, hget, h⟩ := h
  rw [refuse_bind, refuse_bind, bind_eq_ok] at h
  obtain ⟨horg, -, _, s₁, hset, h⟩ := h
  obtain rfl := set_eq_ok.mp hset
  rw [bind_eq_ok] at h
  obtain ⟨result, s₁, hreturn, h⟩ := h
  obtain ⟨hanswer, rfl⟩ := ofExcept_eq_ok.mp hreturn
  rw [refuse_bind, modify_bind] at h
  obtain ⟨hsuccess, hadvances⟩ := h
  obtain ⟨hledger, hjournals⟩ := applyAdvances_frame (.inl ⟨u, hadvances⟩)
  refine ⟨invoice, result, hget, not_not.mp horg, ?_, eq_true_of_ne_false hsuccess, ?_⟩
  · rw [hledger]
    exact answerOf_eq_ok hanswer
  · rw [hjournals, journalOf, Table.get?_modify_self, hget]
    rfl

/-- **An invoice with an amount** that is posted is in the ledger exactly when it was ready. -/
theorem reported_postInvoice_iff (hbooks : Books s.ledger)
    (h : ARInvoiceService.postInvoice c org invoiceId userId postingDate today s =
      .ok u s')
    (hamount : (PostingCall.invoice org invoiceId userId postingDate today).amount s ≠
      0) :
    (PostingCall.invoice org invoiceId userId postingDate today).Reported s' ↔
      (PostingCall.invoice org invoiceId userId postingDate today).Ready s := by
  obtain ⟨invoice, result, hget, horg, hpost, hsuccess, hjournal⟩ := postInvoice_eq_ok h
  rw [postInvoiceToLedger, hget] at hpost
  dsimp only at hpost
  rw [if_neg (not_not.mpr horg)] at hpost
  -- an invoice's tax rows fail by raising
  have hfailure : ∀ t failure t', ((fun _ => none) <$> raising (c.createTaxTransactions s
      invoiceId) : Tx (Option ArPostingResult)) t = .ok (some failure) t' →
      failure.success = false := by
    intro t failure t' hrun
    obtain ⟨_, -, hnone⟩ := map_eq_ok.mp hrun
    exact absurd hnone (by simp)
  have hsomething : ∀ message, prepareInvoice c s invoiceId userId
      (postingDate.getD invoice.invoiceDate) invoice ≠ .nothing message := by
    intro message hnothing
    rw [PostingCall.amount, hget] at hamount
    rw [prepareInvoice, if_neg (show ¬ invoice.totalAmount = 0 from hamount)] at hnothing
    split at hnothing
    · exact absurd hnothing (by simp)
    · split at hnothing <;> exact absurd hnothing (by simp)
  obtain ⟨k, hk⟩ := exists_journal_of_postDocument hfailure hpost hsuccess hsomething
  have hiff := inLedger_postDocument_iff hbooks
    (fun t t' ht => .inl (ends_raising (Ends.map ht))) hfailure hpost hsuccess hk
  have hreported : (PostingCall.invoice org invoiceId userId postingDate
      today).Reported s' ↔ InLedger s'.ledger k := by
    obtain ⟨invoice', hget', hentry⟩ := Option.map_eq_some_iff.mp hjournal
    simp [PostingCall.Reported, PostingCall.document, hget', Invoice.document, hentry, hk]
  rw [hreported, hiff]
  simp [PostingCall.Ready, PostingCall.document, hget, PostingCall.organization,
    PostingCall.keyModule]

theorem followPayment_failure {store : ReceivablesStore Db} {payment : CustomerPayment}
    {date : Date} {failure : ArPostingResult} {db' : Db}
    (h : followPayment c store org paymentId payment date userId db =
      .ok (some failure) db') : failure.success = false := by
  rw [followPayment] at h
  cases hcustomer : store.customers.get? payment.customerId with
  | none =>
    rw [hcustomer] at h
    exact absurd (pure_eq_ok.mp h).1 (by simp)
  | some customer =>
  rw [hcustomer] at h
  obtain ⟨reported, db₁, hreclass, h⟩ := bind_eq_ok.mp h
  split at h
  · obtain ⟨rfl, -⟩ := pure_eq_ok.mp h
    rw [postVatReclassForPayment, get_bind] at hreclass
    split at hreclass
    · exact absurd (pure_eq_ok.mp hreclass).1 (by simp)
    obtain ⟨⟨journal, result⟩, db₂, -, hreclass⟩ := bind_eq_ok.mp hreclass
    dsimp only at hreclass
    split at hreclass
    · rw [Option.some.inj (pure_eq_ok.mp hreclass).1]
    · obtain ⟨_, _, -, hnone⟩ := bind_eq_ok.mp hreclass
      exact absurd (pure_eq_ok.mp hnone).1 (by simp)
  · obtain ⟨_, _, -, hnone⟩ := bind_eq_ok.mp h
    exact absurd (pure_eq_ok.mp hnone).1 (by simp)

/-- **A payment** that is posted is in the ledger exactly when it was ready. -/
theorem reported_postPayment_iff (hbooks : Books s.ledger)
    (h : postPayment (c.services v) org paymentId userId postingDate today s =
      .ok u s') :
    (PostingCall.payment org paymentId userId postingDate today).Reported s' ↔
      (PostingCall.payment org paymentId userId postingDate today).Ready s := by
  obtain ⟨payment, result, ledger, hget, horg, -, hanswer, hsuccess, hjournal, rfl⟩ :=
    postPayment_eq_ok h
  have hpost := answerOf_eq_ok (congrArg Prod.fst hanswer)
  rw [show (answerOf _ _).2 = ledger from congrArg Prod.snd hanswer, postPaymentToLedger,
    Table.get?_modify_self, hget] at hpost
  dsimp only [Option.map_some] at hpost
  rw [if_neg (not_not.mpr (show (withStatus .approved payment).organizationId = _ from horg))]
    at hpost
  obtain ⟨k, hk⟩ := Option.isSome_iff_exists.mp hjournal
  have hiff := inLedger_postDocument_iff hbooks (fun t t' ht => follows_followPayment ht)
    (fun t failure t' hrun => followPayment_failure hrun) hpost hsuccess hk
  have hreported : (PostingCall.payment org paymentId userId postingDate
      today).Reported { s with
        payments := s.payments.modify paymentId (markCleared result)
        invoices := payInvoices today 1 (s.allocationsOf paymentId) s.invoices
        ledger } ↔ InLedger ledger k := by
    simp [PostingCall.Reported, PostingCall.document, hget, CustomerPayment.document, markCleared,
      hk]
  rw [hreported, hiff]
  simp [PostingCall.Ready, PostingCall.document, hget, PostingCall.organization,
    PostingCall.keyModule, CustomerPayment.document, withStatus]

/-! ### Runs -/

inductive PostingOperation where
  | post (call : PostingCall) (rolledBack : Bool)
  | calendar (op : Operation)
  | edit (documents : ReceivablesStore Db)

/-- The store after a step. A call that raises is rolled back, or what it wrote is committed unless
the database refused a write. -/
def PostingOperation.after (c : PostingContext) (v : PostingServices Db) (s : ReceivablesStore Db) :
    PostingOperation → ReceivablesStore Db
  | post call rolledBack =>
    match call.run c v s with
    | .ok _ s' => s'
    | .error e s' => if rolledBack = true ∨ ¬ e.Recoverable then s else s'
  | calendar op => if op.onCalendar = true then { s with ledger := commit op.run s.ledger } else s
  | edit documents => { documents with ledger := s.ledger }

structure InOrder (db : Db) : Prop where
  books : Books db
  sole : ∀ document, document.sourceDocumentType ≠ vatReclassSource → Sole db document

/-- The runs of postings, from a ledger in which at most one journal answers for a document. -/
def postingSystem (c : PostingContext) (v : PostingServices Db) :
    System (ReceivablesStore Db) PostingOperation :=
  .ofFunction (fun s => ledgerSystem.Reachable s.ledger ∧
    ∀ document, document.sourceDocumentType ≠ vatReclassSource → Sole s.ledger document)
    (PostingOperation.after c v)

theorem InOrder.run (h : InOrder s.ledger) {call : PostingCall}
    (hrun : Ends ReceivableError.Recoverable (call.run c v) s s') : InOrder s'.ledger := by
  have hposts : s'.ledger = s.ledger ∨ ∃ document, PostsOnce document s.ledger s'.ledger := by
    cases call with
    | invoice org invoiceId userId postingDate today =>
      rcases ends_postInvoice hrun with hs | ⟨invoice, -, hposts⟩
      · exact .inl hs
      · exact .inr ⟨_, hposts⟩
    | payment org paymentId userId postingDate today =>
      rcases ends_postPayment hrun with hs | ⟨payment, -, hposts⟩
      · exact .inl hs
      · exact .inr ⟨_, hposts⟩
  rcases hposts with hs | ⟨document, hposts⟩
  · rw [hs]
    exact h
  · exact ⟨hposts.books h.books, fun other hother => hposts.sole (h.sole other hother) hother⟩

theorem InOrder.calendar (h : InOrder db) {op : Operation}
    (hop : op.onCalendar = true) : InOrder (commit op.run db) := by
  refine commit_induction (P := InOrder) h fun u db' hrun => ?_
  obtain ⟨years, periods, -, rfl⟩ := Operation.onCalendar_frame hop hrun
  exact ⟨(Operation.run_writes hrun).preserves (fun _ _ hs hw => hs.write hw) h.books, h.sole⟩

/-- **One step** keeps the books in order. -/
theorem inOrder_after (h : InOrder s.ledger) (op : PostingOperation) :
    InOrder (op.after c v s).ledger := by
  cases op with
  | post call rolledBack =>
    rw [PostingOperation.after]
    split
    · rename_i u s' hrun
      exact h.run (.inl ⟨u, hrun⟩)
    · rename_i e s' hrun
      split_ifs with hback
      · exact h
      · exact h.run (.inr ⟨e, not_not.mp (not_or.mp hback).2, hrun⟩)
  | calendar op =>
    rw [PostingOperation.after]
    split_ifs with hop
    · exact h.calendar hop
    · exact h
  | edit documents => exact h

theorem inOrder_of_reachable (h : (postingSystem c v).Reachable s) : InOrder s.ledger :=
  h.invariant (P := fun s => InOrder s.ledger) (fun _ hs => ⟨books_of_reachable hs.1, hs.2⟩)
    fun _ op _ hs hstep => by
      rw [show _ = _ from hstep]
      exact inOrder_after hs op

/-- **At most one journal answers for a document**, in every state a run reaches, and a call that
returns for a document with an amount puts its journal in the ledger exactly when the document was
ready to be posted. -/
theorem posted_document_iff (h : (postingSystem c v).Reachable s) :
    (∀ document, document.sourceDocumentType ≠ vatReclassSource → Sole s.ledger document) ∧
      ∀ call : PostingCall, ∀ u s', call.run c v s = .ok u s' → call.amount s ≠ 0 →
        (call.Reported s' ↔ call.Ready s) := by
  have hbooks := inOrder_of_reachable h
  refine ⟨hbooks.sole, fun call u s' hrun hamount => ?_⟩
  cases call with
  | invoice org invoiceId userId postingDate today =>
    exact reported_postInvoice_iff hbooks.books hrun hamount
  | payment org paymentId userId postingDate today =>
    exact reported_postPayment_iff hbooks.books hrun

/-! ### A posting that is retried -/

def untaxedPosting : PostingContext where
  env := sampleEnv
  invoiceJournal _ _ _ _ := .error (.inl "Invoice has no lines")
  createTaxTransactions _ _ := none
  buildCashVatReclassEntries _ _ := []
  createPaymentTaxRecognitions _ _ := none
  createWhtTransaction _ _ := none

def unusedServices : PostingServices Db where
  postPayment _ _ _ _ s := (.error (.posting ""), s.ledger)
  reverseJournal _ _ _ _ s := s.ledger
  reverseVat _ _ _ _ s := .ok s.ledger

def januaryPayment : ReceivablesStore Db where
  customers := Table.empty.insert {
    organizationId := 0
    legalName := "Customer"
    isActive := true
    arControlAccountId := 1
    parentCustomerId := none }
  taxCodes := Table.empty
  invoices := Table.empty
  payments := Table.empty.insert {
    organizationId := 0
    customerId := 0
    paymentNumber := "RCT"
    paymentDate := january
    currencyCode := "NGN"
    grossAmount := 100
    amount := 100
    whtCodeId := none
    whtAmount := 0
    whtCertificateNumber := none
    exchangeRate := 1
    functionalCurrencyAmount := 100
    bankAccountId := some 0
    reference := none
    correlationId := ""
    status := .pending
    journalEntryId := none
    postingBatchId := none }
  allocations := []
  ledger := sampleDb

def postJanuaryPayment : PostingCall := .payment 0 0 7 none january

theorem januaryPayment_reachable (ops : List PostingOperation) :
    (postingSystem untaxedPosting unusedServices).Reachable
      (System.after (PostingOperation.after untaxedPosting unusedServices) januaryPayment ops) := by
  refine System.reachable_after ⟨reachable_after (s := sampleDb) rfl rfl rfl [], ?_⟩ ops
  intro document _ k _ j _ hj
  exact absurd (Table.get?_eq_some.mp hj) List.not_mem_nil

def refusedInJanuary : List PostingOperation :=
  [.calendar (.softClosePeriod 0 0 9), .post postJanuaryPayment false, .calendar (.openPeriod 0 0)]

def retriedPayment : ReceivablesStore Db :=
  System.after
    (PostingOperation.after untaxedPosting unusedServices) januaryPayment refusedInJanuary

instance (db : Db) (org : UUID) (document : SourceDocument) (keyModule : String) :
    Decidable (ReadyToPost db org document keyModule) :=
  inferInstanceAs (Decidable (_ ∧ _))

instance (s : ReceivablesStore Db) (call : PostingCall) : Decidable (call.Ready s) :=
  inferInstanceAs (Decidable (∀ document ∈ call.document s, _))

theorem retriedPayment_returns :
    returns (postJanuaryPayment.run untaxedPosting unusedServices) retriedPayment = true ∧
      postJanuaryPayment.amount retriedPayment ≠ 0 ∧ ¬ postJanuaryPayment.Ready retriedPayment := by
  decide +kernel

/-- **The retry reports a draft**: it returns, and the payment refers to the journal that the first
call left unposted. -/
theorem retry_reports_a_draft :
    ¬ ∀ (c : PostingContext) (v : PostingServices Db) (s : ReceivablesStore Db),
      (postingSystem c v).Reachable s →
      (∀ document, document.sourceDocumentType ≠ vatReclassSource → Sole s.ledger document) ∧
      ∀ call : PostingCall, ∀ u s', call.run c v s = .ok u s' → call.amount s ≠ 0 →
        call.Reported s' := by
  intro h
  obtain ⟨hreturns, hamount, hready⟩ := retriedPayment_returns
  obtain ⟨u, s', hrun⟩ := returns_iff.mp hreturns
  have hreachable : (postingSystem untaxedPosting unusedServices).Reachable retriedPayment :=
    januaryPayment_reachable refusedInJanuary
  have hreported := (h untaxedPosting unusedServices _ hreachable).2 postJanuaryPayment u s' hrun
    hamount
  exact hready ((reported_postPayment_iff (inOrder_of_reachable hreachable).books hrun).mp
    hreported)

/-- The payment is in the ledger when it is posted at once, and not when it is posted again. -/
theorem posted_document_iff_sample :
    postJanuaryPayment.Reported
        (commit (postJanuaryPayment.run untaxedPosting unusedServices) januaryPayment) ∧
      ¬ postJanuaryPayment.Reported
        (commit (postJanuaryPayment.run untaxedPosting unusedServices) retriedPayment) := by
  constructor
  · obtain ⟨hreturns, hamount, hready⟩ :
        returns (postJanuaryPayment.run untaxedPosting unusedServices) januaryPayment = true ∧
        postJanuaryPayment.amount januaryPayment ≠ 0 ∧
        postJanuaryPayment.Ready januaryPayment := by
      decide +kernel
    obtain ⟨u, s', hrun⟩ := returns_iff.mp hreturns
    rw [commit_of_ok hrun]
    exact ((posted_document_iff (januaryPayment_reachable [])).2 postJanuaryPayment u s' hrun
      hamount).mpr hready
  · obtain ⟨hreturns, hamount, hready⟩ := retriedPayment_returns
    obtain ⟨u, s', hrun⟩ := returns_iff.mp hreturns
    rw [commit_of_ok hrun]
    exact fun hreported => hready (((posted_document_iff (januaryPayment_reachable
      refusedInJanuary)).2 postJanuaryPayment u s' hrun hamount).mp hreported)

end DotmacErp.Receivables
