import DotmacErp.Foundation.Scripts
import DotmacErp.Payables.BatchSteps

/-!
# Batches over whole runs

A batch and its payments are two machines. While a batch is a draft, its number and total are those
of the payments that are linked to it; once it is approved, each of them is approved or posted, and
when it is completed each of them is posted (`BatchSound`). The file for the bank lists all of them.

The calls keep this as long as a batch is created with the amounts that its payments are stored
with, is approved without a payment that is pending, rejected or void, and no payment of an approved
or completed batch is voided (`batches_sound`). No call checks this: a payment that was voided while
its batch was a draft is never posted, and its batch is completed and lists it
(`completed_with_void_payment`).
-/

namespace DotmacErp.Payables

open Calendar Relational Session Table Rounding SupplierPaymentService
  PaymentBatchService

variable {β : Type} {v : PayableServices β} {s s' : PayablesStore β}

/-! ### Sound batches -/

def releasedStatuses : List APPaymentStatus := [.approved, .sent, .cleared]

def postedStatuses : List APPaymentStatus := [.sent, .cleared]

/-- The payments of an approved batch are released, and those of a completed one posted. -/
def Settled (batch : APBatchStatus) (payment : APPaymentStatus) : Prop :=
  (batch = .approved → payment ∈ releasedStatuses) ∧
    (batch = .completed → payment ∈ postedStatuses)

theorem settled_draft {batch : APBatchStatus} (h : batch = .draft) (payment : APPaymentStatus) :
    Settled batch payment := by
  subst h
  exact ⟨APBatchStatus.noConfusion, APBatchStatus.noConfusion⟩

def countOf (payments : Table SupplierPayment) (batchId : UUID) : ℤ :=
  payments.sum fun p => if p.paymentBatchId = some batchId then 1 else 0

/-- What the payments of a batch come to. -/
def amountOf (payments : Table SupplierPayment) (batchId : UUID) : ℚ :=
  payments.sum fun p => if p.paymentBatchId = some batchId then p.amount else 0

structure BatchSound (payments : Table SupplierPayment) (batches : Table APPaymentBatch) :
    Prop where
  links : payments.All fun p => ∀ k ∈ p.paymentBatchId,
    ∃ b, batches.get? k = some b ∧ b.organizationId = p.organizationId
  stored : payments.All fun p => AtScale 6 p.amount
  posted : payments.All fun p => p.paymentBatchId ≠ none → p.status ∈ postedStatuses →
    p.postedByUserId.isSome = true
  drafts : ∀ k b, batches.get? k = some b → b.status = .draft →
    b.totalPayments = countOf payments k ∧ b.totalAmount = amountOf payments k
  settled : ∀ i p k b, payments.get? i = some p → p.paymentBatchId = some k →
    batches.get? k = some b → Settled b.status p.status

variable {payments : Table SupplierPayment} {batches : Table APPaymentBatch} {i k : UUID}
  {p : SupplierPayment} {b : APPaymentBatch}

theorem amountOf_atScale (h : payments.All fun p => AtScale 6 p.amount) (k : UUID) :
    AtScale 6 (amountOf payments k) := by
  refine atScale_sum fun q hq => ?_
  obtain ⟨r, hr, rfl⟩ := List.mem_map.mp hq
  beta_reduce
  split_ifs
  · exact h r.id r.row (get?_of_mem hr)
  · exact atScale_zero 6

/-! ### Calls on single payments -/

structure SameLink (p p' : SupplierPayment) : Prop where
  organization : p'.organizationId = p.organizationId
  link : p'.paymentBatchId = p.paymentBatchId
  amount : p'.amount = p.amount

/-- **A payment of a batch that is rewritten**, to a status that agrees with that of its batch. -/
theorem BatchSound.modifyPayment (h : BatchSound payments batches) {f : SupplierPayment →
    SupplierPayment} {status : APPaymentStatus} (hp : payments.get? i = some p)
    (hsame : ∀ q, SameLink q (f q)) (hstatus : (f p).status = status)
    (hposted : p.paymentBatchId ≠ none → status ∈ postedStatuses →
      (f p).postedByUserId.isSome = true)
    (hsettled : ∀ k b, p.paymentBatchId = some k → batches.get? k = some b →
      Settled b.status status) : BatchSound (payments.modify i f) batches := by
  subst hstatus
  have hat : ∀ q, payments.get? i = some q → q = p := by
    intro q hq
    exact Option.mem_unique hq hp
  refine ⟨h.links.modify fun q hq => ?_, h.stored.modify fun q hq => ?_,
    h.posted.modify fun q hq => ?_, fun k b hb hdraft => ?_, fun j q k b hq hlink hb => ?_⟩
  · rw [(hsame q).link, (hsame q).organization]
    exact h.links i q hq
  · rw [(hsame q).amount]
    exact h.stored i q hq
  · obtain rfl := hat q hq
    rw [(hsame q).link]
    exact hposted
  · obtain ⟨hcount, hamount⟩ := h.drafts k b hb hdraft
    constructor
    · rw [hcount, countOf, countOf, sum_modify_of_eq fun q _ => by rw [(hsame q).link]]
    · rw [hamount, amountOf, amountOf,
        sum_modify_of_eq fun q _ => by rw [(hsame q).link, (hsame q).amount]]
  · rcases get?_modify_cases hq with ⟨-, hold⟩ | ⟨rfl, q', hq', rfl⟩
    · exact h.settled j q k b hold hlink hb
    · obtain rfl := hat q' hq'
      exact hsettled k b ((hsame q').link.symm.trans hlink) hb

theorem BatchSound.insertPayment (h : BatchSound payments batches) (hlink : p.paymentBatchId = none)
    (hamount : AtScale 6 p.amount) : BatchSound (payments.insert p) batches := by
  refine ⟨h.links.insert fun k hk => ?_, h.stored.insert hamount,
    h.posted.insert fun hsome => absurd hlink hsome, fun k b hb hdraft => ?_,
    fun j q k b hq hq' hb => ?_⟩
  · rw [hlink] at hk
    exact absurd hk (by simp)
  · obtain ⟨hcount, htotal⟩ := h.drafts k b hb hdraft
    have hnot : p.paymentBatchId ≠ some k := by
      simp [hlink]
    constructor
    · rw [hcount, countOf, countOf, sum_insert, if_neg hnot, add_zero]
    · rw [htotal, amountOf, amountOf, sum_insert, if_neg hnot, add_zero]
  · rcases get?_insert_cases hq with hold | ⟨-, rfl⟩
    · exact h.settled j q k b hold hq' hb
    · rw [hlink] at hq'
      exact absurd hq' (by simp)

/-! ### Calls on batches -/

/-- **A batch that is rewritten**: it keeps its totals while it is a draft, and its new status
agrees with the statuses of its payments. -/
theorem BatchSound.modifyBatch (h : BatchSound payments batches) {f : APPaymentBatch →
    APPaymentBatch} (hb : batches.get? k = some b) (horg : (f b).organizationId = b.organizationId)
    (hdrafts : (f b).status = .draft → b.status = .draft ∧
      (f b).totalPayments = b.totalPayments ∧ (f b).totalAmount = b.totalAmount)
    (hsettled : ∀ i p, payments.get? i = some p → p.paymentBatchId = some k →
      Settled (f b).status p.status) : BatchSound payments (batches.modify k f) := by
  have hat : ∀ c, batches.get? k = some c → c = b := by
    intro c hc
    exact Option.mem_unique hc hb
  refine ⟨fun j q hq k' hk' => ?_, h.stored, h.posted, fun k' b' hb' hdraft => ?_,
    fun j q k' b' hq hlink hb' => ?_⟩
  · obtain ⟨c, hc, hcorg⟩ := h.links j q hq k' hk'
    refine ⟨_, get?_modify_eq_some.mpr ⟨c, hc, rfl⟩, ?_⟩
    split_ifs with hk
    · subst hk
      obtain rfl := hat c hc
      exact horg.trans hcorg
    · exact hcorg
  · rcases get?_modify_cases hb' with ⟨-, hold⟩ | ⟨rfl, c, hc, rfl⟩
    · exact h.drafts k' b' hold hdraft
    · obtain rfl := hat c hc
      obtain ⟨hwas, hcount, hamount⟩ := hdrafts hdraft
      rw [hcount, hamount]
      exact h.drafts k' c hc hwas
  · rcases get?_modify_cases hb' with ⟨-, hold⟩ | ⟨rfl, c, hc, rfl⟩
    · exact h.settled j q k' b' hq hlink hold
    · obtain rfl := hat c hc
      exact hsettled j q hq hlink

theorem countOf_link (hp : payments.get? i = some p) (l : Option UUID) (k : UUID) :
    countOf (payments.modify i (link l)) k = countOf payments k +
      ((if l = some k then 1 else 0) - if p.paymentBatchId = some k then 1 else 0) :=
  sum_modify hp (link l)

theorem amountOf_link (hp : payments.get? i = some p) (l : Option UUID) (k : UUID) :
    amountOf (payments.modify i (link l)) k = amountOf payments k +
      ((if l = some k then p.amount else 0) - if p.paymentBatchId = some k then p.amount else 0) :=
  sum_modify hp (link l)

/-- **A payment that joins or leaves a draft**, and is counted with it or no longer. -/
theorem BatchSound.relink (h : BatchSound payments batches) (hp : payments.get? i = some p)
    (hb : batches.get? k = some b) (hdraft : b.status = .draft)
    (horg : b.organizationId = p.organizationId) {l : Option UUID} {count : ℤ} {amount : ℚ}
    (hold : ∀ j, p.paymentBatchId = some j → j = k) (hnew : ∀ j, l = some j → j = k)
    (hstatus : l ≠ none → p.status ∉ postedStatuses)
    (hcount : count = (if l = some k then 1 else 0) -
      if p.paymentBatchId = some k then 1 else 0)
    (hamount : amount = (if l = some k then p.amount else 0) -
      if p.paymentBatchId = some k then p.amount else 0) :
    BatchSound (payments.modify i (link l)) (batches.modify k (addTotals count amount)) := by
  have hatp : ∀ q, payments.get? i = some q → q = p := by
    intro q hq
    exact Option.mem_unique hq hp
  have hatb : ∀ c, batches.get? k = some c → c = b := by
    intro c hc
    exact Option.mem_unique hc hb
  have hthere : ∀ j c, batches.get? j = some c → ∃ c',
      (batches.modify k (addTotals count amount)).get? j = some c' ∧
        c'.organizationId = c.organizationId := by
    intro j c hc
    refine ⟨_, get?_modify_eq_some.mpr ⟨c, hc, rfl⟩, ?_⟩
    split_ifs
    · rfl
    · rfl
  constructor
  · intro n q' hq' j hj
    rcases get?_modify_cases hq' with ⟨-, hq⟩ | ⟨rfl, q, hq, rfl⟩
    · obtain ⟨c, hc, hcorg⟩ := h.links n q' hq j hj
      obtain ⟨c', hc', hkept⟩ := hthere j c hc
      exact ⟨c', hc', hkept.trans hcorg⟩
    · obtain rfl := hatp q hq
      obtain rfl := hnew j hj
      obtain ⟨c', hc', hkept⟩ := hthere j b hb
      exact ⟨c', hc', hkept.trans horg⟩
  · exact h.stored.modify fun q hq => h.stored i q hq
  · refine h.posted.modify fun q hq hsome hwas => ?_
    obtain rfl := hatp q hq
    exact absurd hwas (hstatus hsome)
  · intro j c' hc' hcdraft
    rw [countOf_link hp, amountOf_link hp]
    rcases get?_modify_cases hc' with ⟨hne, hc⟩ | ⟨rfl, c, hc, rfl⟩
    · -- another batch has no part in this
      have hnot : l ≠ some j ∧ p.paymentBatchId ≠ some j :=
        ⟨fun hl => hne (hnew j hl), fun hl => hne (hold j hl)⟩
      rw [if_neg hnot.1, if_neg hnot.2, if_neg hnot.1, if_neg hnot.2, sub_self, sub_self, add_zero,
        add_zero]
      exact h.drafts j c' hc hcdraft
    · obtain rfl := hatb c hc
      obtain ⟨hnumber, htotal⟩ := h.drafts j c hc hdraft
      rw [← hcount, ← hamount, ← hnumber, ← htotal]
      refine ⟨rfl, halfUp_of_atScale ?_⟩
      have hscale : AtScale 6 p.amount := h.stored i p hp
      have hdelta : AtScale 6 amount := by
        rw [hamount]
        refine AtScale.sub ?_ ?_
        · split_ifs
          · exact hscale
          · exact atScale_zero 6
        · split_ifs
          · exact hscale
          · exact atScale_zero 6
      rw [htotal]
      exact (amountOf_atScale h.stored j).add hdelta
  · intro n q' j c' hq' hlink hc'
    by_cases hj : j = k
    · -- the batch is still a draft
      subst hj
      rcases get?_modify_cases hc' with ⟨hne, -⟩ | ⟨-, c, hc, rfl⟩
      · exact absurd rfl hne
      · obtain rfl := hatb c hc
        exact settled_draft hdraft q'.status
    · rw [get?_modify_of_ne hj] at hc'
      rcases get?_modify_cases hq' with ⟨-, hq⟩ | ⟨rfl, q, hq, rfl⟩
      · exact h.settled n q' j c' hq hlink hc'
      · exact absurd (hnew j hlink) hj

variable {org userId : UUID}

/-- **The drafts of a batch are approved.** -/
theorem BatchSound.approveDrafts (h : BatchSound payments batches) (hb : batches.get? k = some b)
    (hdraft : b.status = .draft) :
    BatchSound (payments.update (fun p => decide (Of org k p)) (approveDraft userId))
      batches := by
  have hkept : ∀ q, SameLink q (approveDraft userId q) ∧
      ((approveDraft userId q).status ∈ postedStatuses →
        q.status ∈ postedStatuses ∧ (approveDraft userId q).postedByUserId = q.postedByUserId) := by
    intro q
    rw [approveDraft]
    split_ifs
    · refine ⟨⟨rfl, rfl, rfl⟩, fun hposted => ?_⟩
      change APPaymentStatus.approved ∈ postedStatuses at hposted
      exact absurd hposted (by decide)
    · exact ⟨⟨rfl, rfl, rfl⟩, fun hposted => ⟨hposted, rfl⟩⟩
  constructor
  · intro n q' hq' j hj
    obtain ⟨q, hq, rfl⟩ := get?_update_eq_some.mp hq'
    split_ifs at hj ⊢
    · rw [(hkept q).1.link] at hj
      rw [(hkept q).1.organization]
      exact h.links n q hq j hj
    · exact h.links n q hq j hj
  · intro n q' hq'
    obtain ⟨q, hq, rfl⟩ := get?_update_eq_some.mp hq'
    split_ifs
    · rw [(hkept q).1.amount]
      exact h.stored n q hq
    · exact h.stored n q hq
  · intro n q' hq' hsome hposted
    obtain ⟨q, hq, rfl⟩ := get?_update_eq_some.mp hq'
    split_ifs at hsome hposted ⊢
    · obtain ⟨hwas, hby⟩ := (hkept q).2 hposted
      rw [hby]
      rw [(hkept q).1.link] at hsome
      exact h.posted n q hq hsome hwas
    · exact h.posted n q hq hsome hposted
  · intro j c hc hcdraft
    obtain ⟨hcount, hamount⟩ := h.drafts j c hc hcdraft
    constructor
    · rw [hcount, countOf, countOf, sum_update_of_eq fun q => by rw [(hkept q).1.link]]
    · rw [hamount, amountOf, amountOf,
        sum_update_of_eq fun q => by rw [(hkept q).1.link, (hkept q).1.amount]]
  · intro n q' j c hq' hlink hc
    obtain ⟨q, hq, rfl⟩ := get?_update_eq_some.mp hq'
    split_ifs at hlink ⊢ with hof
    · have hwas := (of_decide_eq_true hof).1
      rw [(hkept q).1.link, hwas] at hlink
      obtain rfl := Option.some.inj hlink
      obtain rfl := Option.mem_unique hb hc
      exact settled_draft hdraft _
    · exact h.settled n q j c hq hlink hc

/-! ### New batches -/

/-- A payment from which nothing is to be withheld has invoices that plan no withholding, and the
rounding of the net amounts to the column does not move their sum. -/
def CreateFits (s : PayablesStore β) (input : BatchInput) : Prop :=
  (∀ p ∈ plannedPayments s input, p.wht = 0 →
    ((plannedFor s p.allocations).map Prod.snd).sum ≤ 0) ∧
  amountColumn ((plannedPayments s input).map BatchPayment.net).sum =
    ((plannedPayments s input).map fun p => amountColumn p.net).sum

/-- The total of a batch that fits is the sum of what its payments are stored with. -/
theorem CreateFits.total_eq {input : BatchInput} (h : CreateFits s input) :
    amountColumn ((plannedPayments s input).map BatchPayment.net).sum =
      ((plannedPayments s input).map fun p => amountColumn (p.sent s)).sum := by
  rw [h.2]
  refine congrArg _ (List.map_congr_left fun p hp => congrArg amountColumn ?_)
  rw [BatchPayment.sent]
  split_ifs with hwht
  · rw [max_eq_right (h.1 p hp hwht), BatchPayment.net, hwht]
  · rfl

/-- **A new batch** with the amounts of its payments. -/
theorem BatchSound.createBatch (h : BatchSound s.payments s.batches)
    {id : UUID} {input : BatchInput} (hfits : CreateFits s input)
    (hrun : createBatchFromInvoiceIds v org input userId s = .ok id s') :
    BatchSound s'.payments s'.batches := by
  obtain ⟨new, batch, f, -, hbatches, hpayments, hfresh, hamounts, hold, hnew, horg, hdraft, hcount,
    htotal⟩ := createBatchFromInvoiceIds_eq_ok hrun
  have hrow : ∀ n q', s'.payments.get? n = some q' → s.payments.get? n = some q' ∨
      ∃ q ∈ new, q' = link (some s.batches.next) q := by
    intro n q' hq'
    rw [hpayments, get?_mapRows] at hq'
    obtain ⟨q, hq, rfl⟩ := Option.map_eq_some_iff.mp hq'
    rcases get?_insertAll_cases hq with hwas | ⟨hmem, hle⟩
    · rw [hold ⟨n, q⟩ (get?_eq_some.mp hq) (lt_next hwas)]
      exact .inl hwas
    · exact .inr ⟨q, hmem, hnew ⟨n, q⟩ (get?_eq_some.mp hq) hle⟩
  have hunlinked : ∀ n q, s.payments.get? n = some q → q.paymentBatchId ≠ some s.batches.next := by
    intro n q hq hlink
    obtain ⟨c, hc, -⟩ := h.links n q hq _ hlink
    exact absurd (lt_next hc) (lt_irrefl _)
  rw [hbatches]
  constructor
  · intro n q' hq' j hj
    rcases hrow n q' hq' with hq | ⟨q, hq, rfl⟩
    · obtain ⟨c, hc, hcorg⟩ := h.links n q' hq j hj
      exact ⟨c, get?_insert_of_some hc batch, hcorg⟩
    · obtain rfl := Option.some.inj hj
      exact ⟨batch, get?_insert_self s.batches batch, horg.trans (hfresh q hq).1.symm⟩
  · intro n q' hq'
    rcases hrow n q' hq' with hq | ⟨q, hq, rfl⟩
    · exact h.stored n q' hq
    · have hmem : q.amount ∈ new.map SupplierPayment.amount := List.mem_map_of_mem hq
      rw [hamounts] at hmem
      obtain ⟨planned, -, hamount⟩ := List.mem_map.mp hmem
      change AtScale 6 q.amount
      rw [← hamount]
      exact atScale_halfUp 6 _
  · intro n q' hq' hsome hposted
    rcases hrow n q' hq' with hq | ⟨q, hq, rfl⟩
    · exact h.posted n q' hq hsome hposted
    · change q.status ∈ postedStatuses at hposted
      rw [(hfresh q hq).2.2] at hposted
      exact absurd hposted (by decide)
  · intro j c hc hcdraft
    rw [hpayments, countOf, amountOf, sum_mapRows_insertAll new hold hnew,
      sum_mapRows_insertAll new hold hnew]
    rcases get?_insert_cases hc with hc | ⟨rfl, rfl⟩
    · have hne : some s.batches.next ≠ some j := by
        intro heq
        exact absurd (lt_next hc) (by rw [Option.some.inj heq]; exact lt_irrefl j)
      obtain ⟨hnumber, hsum⟩ := h.drafts j c hc hcdraft
      constructor
      · rw [hnumber, countOf]
        simp [link, hne]
      · rw [hsum, amountOf]
        simp [link, hne]
    · rw [sum_eq_zero fun n q hq => if_neg (hunlinked n q hq),
        sum_eq_zero fun n q hq => if_neg (hunlinked n q hq), zero_add, zero_add]
      have hlength : new.length = (plannedPayments s input).length := by
        rw [← List.length_map SupplierPayment.amount, hamounts, List.length_map]
      constructor
      · rw [hcount, ← hlength]
        simp [link]
      · rw [htotal, hfits.total_eq, ← hamounts]
        simp [link]
  · intro n q' j c hq' hlink hc
    rcases get?_insert_cases hc with hc | ⟨rfl, rfl⟩
    · rcases hrow n q' hq' with hq | ⟨q, hq, rfl⟩
      · exact h.settled n q' j c hq hlink hc
      · obtain rfl := Option.some.inj hlink
        exact absurd (lt_next hc) (lt_irrefl _)
    · exact settled_draft hdraft q'.status

/-! ### Processing -/

def InProcessing (s : PayablesStore β) (paymentId : UUID) : Prop :=
  ∃ p k b, s.payments.get? paymentId = some p ∧ p.paymentBatchId = some k ∧
    s.batches.get? k = some b ∧ b.status = .processing

theorem settled_processing (payment : APPaymentStatus) : Settled .processing payment :=
  ⟨APBatchStatus.noConfusion, APBatchStatus.noConfusion⟩

/-- **One payment is processed.** -/
theorem processOne_sound (h : BatchSound s.payments s.batches) {i : UUID} {posted : Bool}
    (hi : InProcessing s i) (hrun : processOne v org userId i s = .ok posted s') :
    BatchSound s'.payments s'.batches ∧ s'.batches = s.batches ∧
      (∀ j p', s'.payments.get? j = some p' → ∃ p, s.payments.get? j = some p ∧
        p'.paymentBatchId = p.paymentBatchId ∧
        (posted = true → p'.status = .sent ∨ (j ≠ i ∧ p' = p))) ∧
      ∀ j, InProcessing s j → InProcessing s' j := by
  obtain ⟨hbatches, hcases⟩ := processOne_eq_ok hrun
  obtain ⟨p, k, b, hp, hlink, hb, hprocessing⟩ := hi
  have hrewritten : ∃ f : SupplierPayment → SupplierPayment,
      s'.payments = s.payments.modify i f ∧ (∀ q, SameLink q (f q)) ∧
      ((f p).status ∈ postedStatuses → (f p).postedByUserId.isSome = true) ∧
      (posted = true → ∀ q, (f q).status = .sent) := by
    rcases hcases with ⟨-, result, hsent⟩ | ⟨hfailed, hrejected⟩
    · exact ⟨_, hsent, fun q => ⟨rfl, rfl, rfl⟩, fun _ => rfl, fun _ q => rfl⟩
    · refine ⟨_, hrejected, fun q => ⟨rfl, rfl, rfl⟩, fun hposted => ?_, fun htrue => ?_⟩
      · change APPaymentStatus.rejected ∈ postedStatuses at hposted
        exact absurd hposted (by decide)
      · rw [hfailed] at htrue
        exact absurd htrue Bool.false_ne_true
  obtain ⟨f, hpayments, hsame, hposted, hsent⟩ := hrewritten
  refine ⟨?_, hbatches, fun j p' hp' => ?_, fun j hj => ?_⟩
  · rw [hbatches, hpayments]
    refine h.modifyPayment hp hsame rfl (fun _ => hposted) fun k' b' hk' hb' => ?_
    rw [hlink] at hk'
    obtain rfl := Option.some.inj hk'
    obtain rfl := Option.mem_unique hb hb'
    rw [hprocessing]
    exact settled_processing _
  · rw [hpayments] at hp'
    rcases get?_modify_cases hp' with ⟨hne, hold⟩ | ⟨rfl, q, hq, rfl⟩
    · exact ⟨p', hold, rfl, fun _ => .inr ⟨hne, rfl⟩⟩
    · exact ⟨q, hq, (hsame q).link, fun htrue => .inl (hsent htrue q)⟩
  · obtain ⟨q, k', b', hq, hqlink, hb', hstatus⟩ := hj
    refine ⟨if j = i then f q else q, k', b', ?_, ?_, ?_, hstatus⟩
    · rw [hpayments]
      exact get?_modify_eq_some.mpr ⟨q, hq, rfl⟩
    · split_ifs
      · exact (hsame q).link.trans hqlink
      · exact hqlink
    · rw [hbatches]
      exact hb'

/-- **The payments are processed** one after the other: where all of them are posted, each is
sent. -/
theorem processEach_sound {ids : List UUID} {posted : Bool}
    (h : BatchSound s.payments s.batches) (hids : ∀ i ∈ ids, InProcessing s i)
    (hrun : processEach v org userId ids s = .ok posted s') :
    BatchSound s'.payments s'.batches ∧ s'.batches = s.batches ∧
      ∀ j p', s'.payments.get? j = some p' → ∃ p, s.payments.get? j = some p ∧
        p'.paymentBatchId = p.paymentBatchId ∧
        (posted = true → p'.status = .sent ∨ (j ∉ ids ∧ p' = p)) := by
  induction ids generalizing s posted with
  | nil =>
    obtain ⟨rfl, rfl⟩ := pure_eq_ok.mp hrun
    exact ⟨h, rfl, fun j p' hp' => ⟨p', hp', rfl, fun _ => .inr ⟨List.not_mem_nil, rfl⟩⟩⟩
  | cons i rest ih =>
    obtain ⟨hi, hrest⟩ := List.forall_mem_cons.mp hids
    obtain ⟨first, s₁, hone, hbind⟩ := bind_eq_ok.mp hrun
    obtain ⟨hsound, hbatches, hrows, hkept⟩ := processOne_sound h hi hone
    obtain ⟨others, s₂, hothers, hpure⟩ := bind_eq_ok.mp hbind
    obtain ⟨rfl, rfl⟩ := pure_eq_ok.mp hpure
    obtain ⟨hsound', hbatches', hrows'⟩ := ih hsound (fun j hj => hkept j (hrest j hj)) hothers
    refine ⟨hsound', hbatches'.trans hbatches, fun j p' hp' => ?_⟩
    obtain ⟨p₁, hp₁, hlink₁, hstatus₁⟩ := hrows' j p' hp'
    obtain ⟨p, hp, hlink, hstatus⟩ := hrows j p₁ hp₁
    refine ⟨p, hp, hlink₁.trans hlink, fun hboth => ?_⟩
    obtain ⟨hfirst, hlast⟩ := Bool.and_eq_true_iff.mp hboth
    rcases hstatus₁ hlast with hsent | ⟨hnot, rfl⟩
    · exact .inl hsent
    · rcases hstatus hfirst with hsent | ⟨hne, rfl⟩
      · exact .inl hsent
      · refine .inr ⟨fun hmem => ?_, rfl⟩
        rcases List.mem_cons.mp hmem with hj | hj
        · exact hne hj
        · exact hnot hj

/-- **A batch is processed**: if it is completed, all its payments are posted. -/
theorem BatchSound.processBatch (h : BatchSound s.payments s.batches) {batchId : UUID} {u : PUnit}
    (hrun : processBatch v org batchId userId s = .ok u s') :
    BatchSound s'.payments s'.batches := by
  rw [PaymentBatchService.processBatch, get_bind, orRaise_bind] at hrun
  obtain ⟨batch, hbatch, hrun⟩ := hrun
  obtain ⟨happroved, hrun⟩ := refuse_bind.mp hrun
  obtain ⟨hbatch, horg⟩ := batchOf_eq_some.mp hbatch
  replace happroved := not_not.mp happroved
  obtain ⟨_, s₁, hset, hrun⟩ := bind_eq_ok.mp hrun
  obtain rfl := set_eq_ok.mp hset
  obtain ⟨posted, s₂, hloop, hrun⟩ := bind_eq_ok.mp hrun
  obtain rfl := modify_eq_ok.mp hrun
  have hprocessing : BatchSound s.payments
      (s.batches.modify batchId (inBatchStatus .processing)) := by
    refine h.modifyBatch hbatch rfl (fun hstatus => ?_) fun i p _ _ => settled_processing p.status
    exact APBatchStatus.noConfusion hstatus
  have hat : (s.batches.modify batchId (inBatchStatus .processing)).get? batchId =
      some (inBatchStatus .processing batch) := by
    rw [get?_modify_self, hbatch]
    rfl
  obtain ⟨hsound, hbatches, hrows⟩ := processEach_sound hprocessing (fun i hi => by
    obtain ⟨r, hr, rfl⟩ := List.mem_map.mp hi
    obtain ⟨hmem, hof⟩ := mem_select.mp (List.mem_filter.mp hr).1
    exact ⟨r.row, batchId, _, hmem, (of_decide_eq_true hof).1, hat, rfl⟩) hloop
  have hat' : s₂.batches.get? batchId = some (inBatchStatus .processing batch) := by
    rw [hbatches]
    exact hat
  refine hsound.modifyBatch hat' rfl (fun hstatus => ?_) fun j p' hp' hlink => ?_
  · change (if posted = true then APBatchStatus.completed else .failed) = .draft at hstatus
    split_ifs at hstatus
  · change Settled (if posted = true then APBatchStatus.completed else .failed) p'.status
    split_ifs with hall
    · refine ⟨APBatchStatus.noConfusion, fun _ => ?_⟩
      obtain ⟨p, hp, hsamelink, hstatus⟩ := hrows j p' hp'
      rcases hstatus hall with hsent | ⟨hnot, rfl⟩
      · rw [hsent]
        decide
      · -- it was not among those that were to be posted
        have hreleased := (h.settled j p' batchId batch hp hlink hbatch).1 happroved
        have hporg : p'.organizationId = org := by
          obtain ⟨c, hc, hcorg⟩ := h.links j p' hp batchId hlink
          obtain rfl := Option.mem_unique hbatch hc
          exact hcorg.symm.trans horg
        have hnotapproved : p'.status ≠ .approved := by
          intro hwas
          refine hnot (List.mem_map.mpr ⟨⟨j, p'⟩, List.mem_filter.mpr ⟨?_, ?_⟩, rfl⟩)
          · exact mem_select.mpr ⟨hp, decide_eq_true ⟨hlink, hporg⟩⟩
          · exact decide_eq_true hwas
        rw [releasedStatuses, List.mem_cons] at hreleased
        exact hreleased.resolve_left hnotapproved
    · exact ⟨APBatchStatus.noConfusion, APBatchStatus.noConfusion⟩

/-! ### Operations -/

inductive BatchOperation where
  | createPayment (org : UUID) (input : SupplierPaymentInput) (userId : UUID)
  | approvePayment (org paymentId userId : UUID)
  | postPayment (org paymentId userId : UUID) (postingDate : Option Date)
  | voidPayment (org paymentId userId : UUID) (reason : String)
  | clearPayment (org paymentId : UUID)
  | createBatch (org : UUID) (input : BatchInput) (userId : UUID)
  | addPayment (org batchId paymentId : UUID)
  | removePayment (org batchId paymentId : UUID)
  | approveBatch (org batchId userId : UUID)
  | processBatch (org batchId userId : UUID)
  | bankFile (org batchId : UUID)

/-- No payment of a batch is one that its approval passes over. -/
def ApproveFits (s : PayablesStore β) (batchId : UUID) : Prop :=
  ∀ r ∈ s.payments.rows, r.row.paymentBatchId = some batchId →
    r.row.status ∉ [APPaymentStatus.pending, .void, .rejected]

/-- A payment is in no batch that is approved or completed. -/
def VoidFits (s : PayablesStore β) (paymentId : UUID) : Prop :=
  ∀ p ∈ s.payments.get? paymentId, ∀ k ∈ p.paymentBatchId, ∀ b ∈ s.batches.get? k,
    b.status ∉ [APBatchStatus.approved, .completed]

namespace BatchOperation

def run (v : PayableServices β) : BatchOperation → PayablesSession β PUnit
  | createPayment org input userId =>
    (fun _ => ⟨⟩) <$> SupplierPaymentService.createPayment v org input userId
  | approvePayment org paymentId userId =>
    SupplierPaymentService.approvePayment v org paymentId userId
  | postPayment org paymentId userId postingDate =>
    SupplierPaymentService.postPayment v org paymentId userId postingDate
  | voidPayment org paymentId userId reason =>
    SupplierPaymentService.voidPayment v org paymentId userId reason
  | clearPayment org paymentId =>
    SupplierPaymentService.markCleared org paymentId
  | createBatch org input userId =>
    (fun _ => ⟨⟩) <$> createBatchFromInvoiceIds v org input userId
  | addPayment org batchId paymentId =>
    addPaymentToBatch org batchId paymentId
  | removePayment org batchId paymentId =>
    removePaymentFromBatch org batchId paymentId
  | approveBatch org batchId userId =>
    PaymentBatchService.approveBatch org batchId userId
  | processBatch org batchId userId =>
    PaymentBatchService.processBatch v org batchId userId
  | bankFile org batchId => (fun _ => ⟨⟩) <$> generateBankFile org batchId

def after (v : PayableServices β) (s : PayablesStore β) (op : BatchOperation) : PayablesStore β :=
  commit (op.run v) s

/-- A call that goes through meets the condition of its kind. -/
def Fits (v : PayableServices β) (s : PayablesStore β) (op : BatchOperation) : Prop :=
  returns (op.run v) s = true →
    match op with
    | createBatch _ input _ => CreateFits s input
    | approveBatch _ batchId _ => ApproveFits s batchId
    | voidPayment _ paymentId _ _ => VoidFits s paymentId
    | _ => True

end BatchOperation

structure NoBatches (s : PayablesStore β) : Prop where
  batches : s.batches = Table.empty
  unlinked : s.payments.All fun p => p.paymentBatchId = none
  stored : s.payments.All fun p => AtScale 6 p.amount

def batchSystem (v : PayableServices β) : System (PayablesStore β) BatchOperation :=
  System.ofFunction NoBatches (BatchOperation.after v)

/-! ### Runs -/

theorem NoBatches.sound (h : NoBatches s) : BatchSound s.payments s.batches := by
  refine ⟨fun i p hp k hk => ?_, h.stored, fun i p hp hsome => absurd (h.unlinked i p hp) hsome,
    fun k b hb => ?_, fun i p k b hp hlink => ?_⟩
  · rw [h.unlinked i p hp] at hk
    exact absurd hk (by simp)
  · rw [h.batches, get?_empty] at hb
    exact absurd hb (by simp)
  · rw [h.unlinked i p hp] at hlink
    exact absurd hlink (by simp)

/-- **A batch is approved** without a payment that stays unapproved. -/
theorem BatchSound.approveBatch (h : BatchSound s.payments s.batches)
    {batchId : UUID} {u : PUnit} (hfits : ApproveFits s batchId)
    (hrun : PaymentBatchService.approveBatch org batchId userId s = .ok u s') :
    BatchSound s'.payments s'.batches := by
  obtain ⟨batch, f, hb, horg, hdraft, hf, rfl⟩ := approveBatch_eq_ok hrun
  have happroved : (f batch).status = .approved := (hf batch).1
  refine (h.approveDrafts hb hdraft).modifyBatch hb (hf batch).2 (fun hstatus => ?_)
    fun i p' hp' hlink => ?_
  · rw [happroved] at hstatus
    exact APBatchStatus.noConfusion hstatus
  · rw [happroved]
    refine ⟨fun _ => ?_, APBatchStatus.noConfusion⟩
    obtain ⟨p, hp, rfl⟩ := get?_update_eq_some.mp hp'
    have hplink : p.paymentBatchId = some batchId := by
      split_ifs at hlink with hof
      · exact (of_decide_eq_true hof).1
      · exact hlink
    have hporg : p.organizationId = org := by
      obtain ⟨c, hc, hcorg⟩ := h.links i p hp batchId hplink
      obtain rfl := Option.mem_unique hb hc
      exact hcorg.symm.trans horg
    have hstatus := hfits ⟨i, p⟩ (get?_eq_some.mp hp) hplink
    rw [if_pos (decide_eq_true ⟨hplink, hporg⟩), approveDraft]
    split_ifs with hwas
    · change APPaymentStatus.approved ∈ releasedStatuses
      decide
    · revert hstatus hwas
      cases p.status <;> decide

/-- **One operation** that fits keeps payments and batches sound. -/
theorem batchSound_after (h : BatchSound s.payments s.batches) {op : BatchOperation}
    (hfits : op.Fits v s) : BatchSound (op.after v s).payments (op.after v s).batches := by
  refine commit_induction (P := fun t : PayablesStore β => BatchSound t.payments t.batches) h
    fun u s' hrun => ?_
  have hcondition := hfits (returns_iff.mpr ⟨u, s', hrun⟩)
  cases op with
  | createPayment org input userId =>
    obtain ⟨k, hcreate, -⟩ := map_eq_ok.mp hrun
    obtain ⟨payment, netGross, -, -, -, hlink, -, hamount, hpayments, hbatches, -⟩ :=
      createPayment_eq_ok hcreate
    rw [hpayments, hbatches]
    refine h.insertPayment hlink ?_
    rw [hamount]
    exact atScale_halfUp 6 _
  | approvePayment org paymentId userId =>
    obtain ⟨p, hp, hstatus, rfl⟩ := approvePayment_eq_ok hrun
    have happroved : (approvedBy userId p).status = .approved := rfl
    refine h.modifyPayment hp (fun q => ⟨rfl, rfl, rfl⟩) happroved
      (fun _ hposted => absurd hposted (by decide))
      fun k b hlink hb => ⟨fun _ => by decide, fun hcompleted => ?_⟩
    have hwas := (h.settled _ p k b hp hlink hb).2 hcompleted
    revert hstatus hwas
    cases p.status <;> decide
  | postPayment org paymentId userId postingDate =>
    obtain ⟨p, result, hp, -, hpayments, hbatches⟩ := postPayment_eq_ok hrun
    rw [hpayments, hbatches]
    have hsent : (sentBy userId result p).status = .sent := rfl
    exact h.modifyPayment hp (fun q => ⟨rfl, rfl, rfl⟩) hsent (fun _ _ => rfl)
      fun k b _ _ => ⟨fun _ => by decide, fun _ => by decide⟩
  | voidPayment org paymentId userId reason =>
    obtain ⟨p, hp, hpayments, hbatches⟩ := voidPayment_eq_ok hrun
    rw [hpayments, hbatches]
    have hvoid : (withStatus .void p).status = .void := rfl
    refine h.modifyPayment hp (fun q => ⟨rfl, rfl, rfl⟩) hvoid
      (fun _ hposted => absurd hposted (by decide)) fun k b hlink hb => ?_
    have hopen := hcondition p hp k hlink b hb
    constructor
    · exact fun hstatus => absurd (by rw [hstatus]; decide) hopen
    · exact fun hstatus => absurd (by rw [hstatus]; decide) hopen
  | clearPayment org paymentId =>
    obtain ⟨p, hp, hsent, rfl⟩ := markCleared_eq_ok hrun
    have hcleared : (withStatus .cleared p).status = .cleared := rfl
    exact h.modifyPayment hp (fun q => ⟨rfl, rfl, rfl⟩) hcleared
      (fun hsome _ => h.posted _ p hp hsome (by rw [hsent]; decide))
      fun k b _ _ => ⟨fun _ => by decide, fun _ => by decide⟩
  | createBatch org input userId =>
    obtain ⟨k, hcreate, -⟩ := map_eq_ok.mp hrun
    exact h.createBatch hcondition hcreate
  | addPayment org batchId paymentId =>
    obtain ⟨b, p, hb, hdraft, hp, horg, hlink, hstatus, rfl⟩ := addPaymentToBatch_eq_ok hrun
    refine h.relink hp hb hdraft horg.symm (fun j hj => ?_) (fun j hj => ?_) (fun _ => ?_) ?_ ?_
    · rw [hlink] at hj
      exact absurd hj (by simp)
    · exact (Option.some.inj hj).symm
    · revert hstatus
      cases p.status <;> decide
    · simp [hlink]
    · simp [hlink]
  | removePayment org batchId paymentId =>
    obtain ⟨b, p, hb, hdraft, hp, hlink, rfl⟩ := removePaymentFromBatch_eq_ok hrun
    have horg : b.organizationId = p.organizationId := by
      obtain ⟨c, hc, hcorg⟩ := h.links _ p hp batchId hlink
      obtain rfl := Option.mem_unique hb hc
      exact hcorg
    refine h.relink hp hb hdraft horg (fun j hj => ?_) (fun j hj => ?_) (fun hnone => ?_) ?_ ?_
    · exact Option.mem_unique hj hlink
    · exact absurd hj (by simp)
    · exact absurd rfl hnone
    · simp [hlink]
    · simp [hlink]
  | approveBatch org batchId userId => exact h.approveBatch hcondition hrun
  | processBatch org batchId userId => exact h.processBatch hrun
  | bankFile org batchId =>
    obtain ⟨items, hfile, -⟩ := map_eq_ok.mp hrun
    obtain ⟨b, f, hb, -, hf, -, rfl⟩ := generateBankFile_eq_ok hfile
    have hfb := hf b
    refine h.modifyBatch hb (by rw [hfb]) (fun hstatus => ?_) fun i p hp hlink => ?_
    · rw [hfb] at hstatus ⊢
      exact ⟨hstatus, rfl, rfl⟩
    · rw [hfb]
      exact h.settled i p batchId b hp hlink hb

/-- **Batches are sound** in every run that fits: a draft has the number and the sum of its
payments, a completed batch has payments that were posted only, and the file for the bank lists
payments that are approved or posted only. -/
theorem batches_sound : ∀ s, (batchSystem v).ReachableWithin (fun s op => op.Fits v s) s →
    (∀ k b, s.batches.get? k = some b → b.status = .draft →
      b.totalPayments = countOf s.payments k ∧ b.totalAmount = amountOf s.payments k) ∧
    (∀ k b, s.batches.get? k = some b → b.status = .completed →
      ∀ i p, s.payments.get? i = some p → p.paymentBatchId = some k →
        p.status ∈ postedStatuses ∧ p.postedByUserId.isSome = true) ∧
    ∀ org k items s', generateBankFile org k s = .ok items s' →
      ∀ item ∈ items, ∃ p, s.payments.get? item.1 = some p ∧ p.status ∈ releasedStatuses := by
  intro s hs
  have hsound : BatchSound s.payments s.batches := by
    refine hs.invariant (P := fun t : PayablesStore β => BatchSound t.payments t.batches)
      (fun s₀ hinit => hinit.sound) ?_
    rintro s₁ op s₂ hs₁ hfits rfl
    exact batchSound_after hs₁ hfits
  refine ⟨hsound.drafts, fun k b hb hcompleted i p hp hlink => ?_,
    fun org k items s' hfile item hitem => ?_⟩
  · have hposted := (hsound.settled i p k b hp hlink hb).2 hcompleted
    exact ⟨hposted, hsound.posted i p hp (by rw [hlink]; exact Option.some_ne_none k) hposted⟩
  · obtain ⟨b, f, hb, hstatus, -, hlisted, -⟩ := generateBankFile_eq_ok hfile
    obtain ⟨p, hp, hlink⟩ := hlisted item hitem
    have hsettled := hsound.settled item.1 p k b hp hlink hb
    refine ⟨p, hp, ?_⟩
    rcases List.mem_cons.mp hstatus with happroved | hcompleted
    · exact hsettled.1 happroved
    · exact List.mem_cons_of_mem _ (hsettled.2 (List.mem_singleton.mp hcompleted))

/-! ### Two runs -/

def countingLedger : PayableServices ℕ where
  postPayment _ _ _ _ s :=
    (.ok { success := true, journalEntryId := some s.ledger, postingBatchId := some s.ledger },
      s.ledger + 1)
  reverseJournal _ _ _ _ s := s.ledger + 1
  reverseVat _ _ _ _ s := .ok s.ledger
  requiresSod _ := true
  paymentNumber k := "PAY-" ++ k.str
  batchNumber k := k.str
  defaultCurrency := "USD"

def supplierNamed (name : String) : Supplier where
  organizationId := 1
  supplierCode := name
  legalName := name
  bankDetails := { accountNumber := .number "0123456789", bankName := "Bank" }

def postedInvoice (supplierId : UUID) (number : String) (total : ℚ) : SupplierInvoice where
  organizationId := 1
  supplierId
  invoiceNumber := number
  currencyCode := "USD"
  totalAmount := total

def twoInvoices : PayablesStore ℕ where
  suppliers := (Table.empty.insert (supplierNamed "First")).insert (supplierNamed "Second")
  taxCodes := Table.empty
  bankAccounts := Table.empty.insert
    { organizationId := 1, currencyCode := "USD", accountNumber := "9" }
  invoices := (Table.empty.insert (postedInvoice 0 "INV-1" 100)).insert
    (postedInvoice 1 "INV-2" 50)
  payments := Table.empty
  allocations := []
  batches := Table.empty
  ledger := 0

theorem noBatches_twoInvoices : NoBatches twoInvoices := ⟨rfl, all_empty, all_empty⟩

def payBoth : BatchOperation :=
  .createBatch 1 {
    batchDate := ⟨2024, 5, 17, by decide⟩
    paymentMethod := "BANK_TRANSFER"
    bankAccountId := 0
    invoiceIds := [0, 1] } 7

instance (s : PayablesStore β) (input : BatchInput) : Decidable (CreateFits s input) :=
  inferInstanceAs (Decidable ((∀ p ∈ plannedPayments s input, p.wht = 0 → _) ∧ (_ : ℚ) = _))

instance (s : PayablesStore β) (batchId : UUID) : Decidable (ApproveFits s batchId) :=
  inferInstanceAs (Decidable (∀ r ∈ s.payments.rows, _ → _))

instance (s : PayablesStore β) (paymentId : UUID) : Decidable (VoidFits s paymentId) :=
  inferInstanceAs (Decidable (∀ p ∈ s.payments.get? paymentId, ∀ k ∈ p.paymentBatchId,
    ∀ b ∈ s.batches.get? k, _))

instance (v : PayableServices β) (s : PayablesStore β) (op : BatchOperation) :
    Decidable (op.Fits v s) := by
  cases op with
  | createBatch org input userId =>
    exact inferInstanceAs (Decidable (_ = _ → CreateFits s input))
  | approveBatch org batchId userId =>
    exact inferInstanceAs (Decidable (_ = _ → ApproveFits s batchId))
  | voidPayment org paymentId userId reason =>
    exact inferInstanceAs (Decidable (_ = _ → VoidFits s paymentId))
  | createPayment | approvePayment | postPayment | clearPayment | addPayment | removePayment
  | processBatch | bankFile => exact isTrue fun _ => trivial

/-- A batch is created, a payment leaves it and comes back, and it is approved and processed. -/
def paidRun : List BatchOperation :=
  [payBoth, .removePayment 1 0 1, .addPayment 1 0 1, .approveBatch 1 0 8, .processBatch 1 0 9]

theorem batches_sound_sample :
    let s := System.after (BatchOperation.after countingLedger) twoInvoices paidRun
    (s.batches.get? 0).map APPaymentBatch.status = some .completed ∧
      (∀ i p, s.payments.get? i = some p → p.paymentBatchId = some 0 →
        p.status ∈ postedStatuses ∧ p.postedByUserId.isSome = true) ∧
      amountOf s.payments 0 = 150 := by
  have hrun : (batchSystem countingLedger).ReachableWithin (fun s op => op.Fits countingLedger s)
      (System.after (BatchOperation.after countingLedger) twoInvoices paidRun) :=
    System.reachableWithin_after noBatches_twoInvoices (by decide +kernel)
  have hcompleted : ((System.after (BatchOperation.after countingLedger) twoInvoices
      paidRun).batches.get? 0).map APPaymentBatch.status = some .completed := by
    decide +kernel
  obtain ⟨b, hb, hstatus⟩ := Option.map_eq_some_iff.mp hcompleted
  exact ⟨hcompleted, (batches_sound _ hrun).2.1 0 b hb hstatus, by decide +kernel⟩

def voidedRun : List BatchOperation :=
  [payBoth, .voidPayment 1 1 9 "Duplicate", .approveBatch 1 0 8, .processBatch 1 0 9]

/-- **The batch is completed with the voided payment**, which was never posted. -/
theorem completed_with_void_payment :
    ¬ ∀ s, (batchSystem countingLedger).Reachable s →
      (∀ k b, s.batches.get? k = some b → b.status = .draft →
        b.totalPayments = countOf s.payments k ∧ b.totalAmount = amountOf s.payments k) ∧
      (∀ k b, s.batches.get? k = some b → b.status = .completed →
        ∀ i p, s.payments.get? i = some p → p.paymentBatchId = some k →
          p.status ∈ postedStatuses ∧ p.postedByUserId.isSome = true) ∧
      ∀ org k items s', generateBankFile org k s = .ok items s' →
        ∀ item ∈ items, ∃ p, s.payments.get? item.1 = some p ∧ p.status ∈ releasedStatuses := by
  intro h
  have hrun : (batchSystem countingLedger).Reachable
      (System.after (BatchOperation.after countingLedger) twoInvoices voidedRun) :=
    System.reachable_after noBatches_twoInvoices voidedRun
  have hcompleted : ((System.after (BatchOperation.after countingLedger) twoInvoices
      voidedRun).batches.get? 0).map APPaymentBatch.status = some .completed := by
    decide +kernel
  have hvoid : ((System.after (BatchOperation.after countingLedger) twoInvoices
      voidedRun).payments.get? 1).map (fun p => (p.paymentBatchId, p.status, p.postedByUserId)) =
        some (some 0, .void, none) := by
    decide +kernel
  obtain ⟨b, hb, hstatus⟩ := Option.map_eq_some_iff.mp hcompleted
  obtain ⟨p, hp, hrow⟩ := Option.map_eq_some_iff.mp hvoid
  obtain ⟨hlink, hrest⟩ := Prod.mk.inj hrow
  obtain ⟨-, hby⟩ := Prod.mk.inj hrest
  have hposted := ((h _ hrun).2.1 0 b hb hstatus 1 p hp hlink).2
  rw [hby] at hposted
  exact Bool.false_ne_true hposted

end DotmacErp.Payables
