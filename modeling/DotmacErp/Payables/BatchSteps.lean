import DotmacErp.Foundation.Selections
import DotmacErp.Foundation.TableSums
import DotmacErp.Payables.PaymentBatches

/-!
# What the calls on payments and batches leave

A call on a single payment rewrites that payment and no batch. A new payment is a draft of no batch,
and sends what is asked for, less what its invoices plan to withhold if nothing was given
(`SupplierPaymentInput.sent`). Processing posts the approved payments of a batch, and where it
reports that all went well, each of them is sent (`processEach_eq_ok`).
-/

namespace DotmacErp.Payables

open Calendar Relational Session Table Rounding

variable {β : Type} {v : PayableServices β} {s s' : PayablesStore β} {u : PUnit}

namespace SupplierPaymentService

/-! ### Single payments -/

variable {org paymentId : UUID}

theorem paymentOf_eq_some {payment : SupplierPayment} :
    paymentOf s org paymentId = some payment ↔
      s.payments.get? paymentId = some payment ∧ payment.organizationId = org := by
  rw [paymentOf, Option.filter_eq_some_iff, decide_eq_true_eq]

variable {userId : UUID}

theorem approvePayment_eq_ok (h : approvePayment v org paymentId userId s = .ok u s') :
    ∃ payment, s.payments.get? paymentId = some payment ∧
      payment.status ∈ [APPaymentStatus.draft, .pending] ∧
      s' = { s with payments := s.payments.modify paymentId (approvedBy userId) } := by
  rw [approvePayment, get_bind, orRaise_bind] at h
  obtain ⟨payment, hpayment, h⟩ := h
  obtain ⟨hstatus, h⟩ := refuse_bind.mp h
  obtain ⟨-, h⟩ := refuse_bind.mp h
  exact ⟨payment, (paymentOf_eq_some.mp hpayment).1, not_not.mp hstatus, set_eq_ok.mp h⟩

theorem postPayment_pays {postingDate : Option Date}
    (h : postPayment v org paymentId userId postingDate s = .ok u s') :
    ∃ payment result ledger, s.payments.get? paymentId = some payment ∧
      payment.status = .approved ∧ s' = { s with
        ledger := ledger
        payments := s.payments.modify paymentId (sentBy userId result)
        invoices := payInvoices 1 (s.allocationsOf paymentId) s.invoices } := by
  rw [postPayment, get_bind, orRaise_bind] at h
  obtain ⟨payment, hpayment, h⟩ := h
  obtain ⟨hstatus, h⟩ := refuse_bind.mp h
  obtain ⟨_, s₁, hset, h⟩ := bind_eq_ok.mp h
  obtain rfl := set_eq_ok.mp hset
  obtain ⟨result, s₂, hresult, h⟩ := bind_eq_ok.mp h
  obtain ⟨-, rfl⟩ := ofExcept_eq_ok.mp hresult
  obtain ⟨-, h⟩ := refuse_bind.mp h
  exact ⟨payment, result, _, (paymentOf_eq_some.mp hpayment).1, not_not.mp hstatus,
    modify_eq_ok.mp h⟩

/-- **A payment that is posted** was approved, and is sent. -/
theorem postPayment_eq_ok {postingDate : Option Date}
    (h : postPayment v org paymentId userId postingDate s = .ok u s') :
    ∃ payment result, s.payments.get? paymentId = some payment ∧ payment.status = .approved ∧
      s'.payments = s.payments.modify paymentId (sentBy userId result) ∧
      s'.batches = s.batches := by
  obtain ⟨payment, result, ledger, hpayment, hstatus, rfl⟩ := postPayment_pays h
  exact ⟨payment, result, hpayment, hstatus, rfl, rfl⟩

theorem postPayment_raises {postingDate : Option Date} {e : PayableError}
    (h : postPayment v org paymentId userId postingDate s = .error e s') :
    ∃ ledger, s' = { s with ledger := ledger } := by
  rw [postPayment, get_bind_eq_error, orRaise_bind_eq_error] at h
  rcases h with ⟨-, -, rfl⟩ | ⟨payment, -, h⟩
  · exact ⟨_, rfl⟩
  rcases refuse_bind_eq_error.mp h with ⟨-, -, rfl⟩ | ⟨-, h⟩
  · exact ⟨_, rfl⟩
  rcases bind_eq_error.mp h with h | ⟨_, s₁, hset, h⟩
  · exact (set_eq_error.mp h).elim
  obtain rfl := set_eq_ok.mp hset
  rcases bind_eq_error.mp h with h | ⟨result, s₂, hresult, h⟩
  · obtain rfl := ofExcept_error_state h
    exact ⟨_, rfl⟩
  obtain ⟨-, rfl⟩ := ofExcept_eq_ok.mp hresult
  rcases refuse_bind_eq_error.mp h with ⟨-, -, rfl⟩ | ⟨-, h⟩
  · exact ⟨_, rfl⟩
  · exact (modify_eq_error.mp h).elim

theorem takeBack_eq_ok {reason : String} {payment : SupplierPayment}
    (h : takeBack v org paymentId userId reason payment s = .ok u s') :
    ∃ ledger, s' = { s with
      ledger := ledger
      invoices := payInvoices (-1) (s.allocationsOf paymentId) s.invoices } := by
  rw [takeBack, modify_bind, runIf] at h
  split_ifs at h
  · rw [modify_bind, get_bind] at h
    obtain ⟨ledger, s₁, hledger, h⟩ := bind_eq_ok.mp h
    obtain ⟨-, rfl⟩ := ofExcept_eq_ok.mp hledger
    exact ⟨ledger, set_eq_ok.mp h⟩
  · exact ⟨s.ledger, (pure_eq_ok.mp h).2⟩

theorem voidPayment_takesBack {reason : String}
    (h : voidPayment v org paymentId userId reason s = .ok u s') :
    ∃ payment ledger, s.payments.get? paymentId = some payment ∧
      payment.status ∉ [APPaymentStatus.cleared, .void] ∧ s' = { s with
        ledger := ledger
        payments := s.payments.modify paymentId (withStatus .void)
        invoices := if payment.status = .sent then
          payInvoices (-1) (s.allocationsOf paymentId) s.invoices else s.invoices } := by
  rw [voidPayment, get_bind, orRaise_bind] at h
  obtain ⟨payment, hpayment, h⟩ := h
  obtain ⟨hstatus, h⟩ := refuse_bind.mp h
  obtain ⟨_, s₁, hback, h⟩ := bind_eq_ok.mp h
  obtain rfl := modify_eq_ok.mp h
  have hfound := (paymentOf_eq_some.mp hpayment).1
  rw [runIf] at hback
  split_ifs at hback with hsent
  · obtain ⟨ledger, rfl⟩ := takeBack_eq_ok hback
    exact ⟨payment, ledger, hfound, hstatus, by rw [if_pos hsent]⟩
  · obtain ⟨-, rfl⟩ := pure_eq_ok.mp hback
    exact ⟨payment, s₁.ledger, hfound, hstatus, by rw [if_neg hsent]⟩

theorem voidPayment_eq_ok {reason : String}
    (h : voidPayment v org paymentId userId reason s = .ok u s') :
    ∃ payment, s.payments.get? paymentId = some payment ∧
      s'.payments = s.payments.modify paymentId (withStatus .void) ∧ s'.batches = s.batches := by
  obtain ⟨payment, ledger, hpayment, -, rfl⟩ := voidPayment_takesBack h
  exact ⟨payment, hpayment, rfl, rfl⟩

theorem markCleared_eq_ok (h : markCleared org paymentId s = .ok u s') :
    ∃ payment, s.payments.get? paymentId = some payment ∧ payment.status = .sent ∧
      s' = { s with payments := s.payments.modify paymentId (withStatus .cleared) } := by
  rw [markCleared, get_bind, orRaise_bind] at h
  obtain ⟨payment, hpayment, h⟩ := h
  obtain ⟨hstatus, h⟩ := refuse_bind.mp h
  exact ⟨payment, (paymentOf_eq_some.mp hpayment).1, not_not.mp hstatus, set_eq_ok.mp h⟩

/-! ### New payments -/

theorem addAllocations_frames {γ : Type} {view : PayablesStore β → γ}
    (hview : ∀ k a s, view (withAllocation k a s) = view s) (paymentId : UUID)
    (allocations : List PaymentAllocationInput) :
    Frames view (addAllocations (β := β) paymentId allocations) := by
  induction allocations with
  | nil => exact Frames.pure _
  | cons alloc rest ih =>
    refine Frames.bind (fun s₁ a s₂ h => ?_) fun _ => ih
    rw [addAllocation, get_bind] at h
    obtain ⟨-, h⟩ := refuse_bind.mp h
    rw [set_eq_ok.mp h]
    exact hview _ _ _

theorem validateAllocation_state {supplierId : UUID} {alloc : PaymentAllocationInput}
    (h : validateAllocation org supplierId alloc s = .ok u s') : s' = s := by
  rw [validateAllocation, get_bind, orRaise_bind] at h
  obtain ⟨invoice, -, h⟩ := h
  obtain ⟨-, h⟩ := refuse_bind.mp h
  obtain ⟨-, h⟩ := refuse_bind.mp h
  exact (refuse_eq_ok.mp h).2

theorem validateEach_state {supplierId : UUID} {allocations : List PaymentAllocationInput}
    (h : validateEach org supplierId allocations s = .ok u s') : s' = s := by
  induction allocations with
  | nil => exact (pure_eq_ok.mp h).2
  | cons alloc rest ih =>
    obtain ⟨_, s₁, hone, hrest⟩ := bind_eq_ok.mp h
    obtain rfl := validateAllocation_state hone
    exact ih hrest

theorem validateWht_state {codeId : Option UUID}
    (h : validateWht org codeId s = .ok u s') : s' = s := by
  cases codeId with
  | none => exact (pure_eq_ok.mp h).2
  | some codeId =>
    rw [validateWht, get_bind, orRaise_bind] at h
    obtain ⟨code, -, h⟩ := h
    exact (refuse_eq_ok.mp h).2

theorem createPayment_adds {i : UUID} {input : SupplierPaymentInput}
    (h : createPayment v org input userId s = .ok i s') :
    ∃ payment netGross, i = s.payments.next ∧
      netAndGross input (withholding input (plannedFor s input.allocations)).1 = .ok netGross ∧
      payment.organizationId = org ∧ payment.paymentBatchId = none ∧
      payment.status = .draft ∧ payment.amount = amountColumn netGross.1 ∧
      addAllocations s.payments.next input.allocations
        { s with payments := s.payments.insert payment } = .ok ⟨⟩ s' := by
  rw [createPayment, get_bind, orRaise_bind] at h
  obtain ⟨supplier, -, h⟩ := h
  obtain ⟨-, h⟩ := refuse_bind.mp h
  obtain ⟨-, h⟩ := refuse_bind.mp h
  obtain ⟨_, s₁, hvalidate, h⟩ := bind_eq_ok.mp h
  obtain rfl := validateEach_state hvalidate
  obtain ⟨-, h⟩ := refuse_bind.mp h
  obtain ⟨netGross, s₂, hnet, h⟩ := bind_eq_ok.mp h
  obtain ⟨hnet, rfl⟩ := ofExcept_eq_ok.mp hnet
  obtain ⟨whtCodeId, s₃, hcode, h⟩ := bind_eq_ok.mp h
  obtain ⟨-, rfl⟩ := ofExcept_eq_ok.mp hcode
  obtain ⟨_, s₄, hwht, h⟩ := bind_eq_ok.mp h
  obtain rfl := validateWht_state hwht
  obtain ⟨-, h⟩ := refuse_bind.mp h
  rw [modify_bind] at h
  obtain ⟨_, s₅, hadd, h⟩ := bind_eq_ok.mp h
  obtain ⟨rfl, rfl⟩ := pure_eq_ok.mp h
  exact ⟨_, netGross, rfl, hnet, rfl, rfl, rfl, rfl, hadd⟩

/-- **A new payment** is a draft of no batch, with what is to be sent. -/
theorem createPayment_eq_ok {i : UUID} {input : SupplierPaymentInput}
    (h : createPayment v org input userId s = .ok i s') :
    ∃ payment netGross, i = s.payments.next ∧
      netAndGross input (withholding input (plannedFor s input.allocations)).1 = .ok netGross ∧
      payment.organizationId = org ∧ payment.paymentBatchId = none ∧
      payment.status = .draft ∧ payment.amount = amountColumn netGross.1 ∧
      s'.payments = s.payments.insert payment ∧ s'.batches = s.batches ∧
      s'.invoices = s.invoices := by
  obtain ⟨payment, netGross, hi, hnet, horg, hlink, hstatus, hamount, hadd⟩ := createPayment_adds h
  have hframes : Frames (fun s : PayablesStore β => (s.payments, s.batches, s.invoices))
      (addAllocations s.payments.next input.allocations) :=
    addAllocations_frames (fun _ _ _ => rfl) _ _
  obtain ⟨hpayments, hrest⟩ := Prod.mk.inj (hframes _ _ _ hadd)
  obtain ⟨hbatches, hinvoices⟩ := Prod.mk.inj hrest
  exact ⟨payment, netGross, hi, hnet, horg, hlink, hstatus, hamount, hpayments, hbatches, hinvoices⟩

end SupplierPaymentService

namespace PaymentBatchService

open SupplierPaymentService

/-! ### The plan of a batch -/

def plannedLine (s : PayablesStore β) (input : BatchInput) (invoiceId : UUID) : Option BatchLine :=
  (s.invoices.get? invoiceId).map fun invoice =>
    ⟨invoiceId, invoice.supplierId, payAmount input invoiceId invoice,
      payWht input invoiceId invoice⟩

def plannedPayments (s : PayablesStore β) (input : BatchInput) : List BatchPayment :=
  paymentsFor (input.invoiceIds.eraseDups.filterMap (plannedLine s input))

variable {input : BatchInput}

theorem payWht_nonneg {invoiceId : UUID} {invoice : SupplierInvoice}
    (h : 0 < payAmount input invoiceId invoice) : 0 ≤ payWht input invoiceId invoice := by
  rw [payWht]
  split
  · exact le_max_right _ 0
  · dsimp only
    split_ifs with hplanned
    · exact halfUp_nonneg (div_nonneg (mul_nonneg hplanned.1.le h.le) hplanned.2.le)
    · exact le_refl 0

variable {currency : String}

theorem lineFor_eq_ok {t : PayablesStore β}
    {invoiceId : UUID} {line : BatchLine} (h : lineFor t currency input invoiceId s = .ok line s') :
    s' = s ∧ plannedLine t input invoiceId = some line ∧ 0 < line.amount ∧ 0 ≤ line.wht := by
  rw [lineFor, orRaise_bind] at h
  obtain ⟨invoice, hinvoice, h⟩ := h
  obtain ⟨-, h⟩ := refuse_bind.mp h
  obtain ⟨-, h⟩ := refuse_bind.mp h
  obtain ⟨-, h⟩ := refuse_bind.mp h
  obtain ⟨hpos, h⟩ := refuse_bind.mp h
  obtain ⟨-, h⟩ := refuse_bind.mp h
  obtain ⟨rfl, rfl⟩ := pure_eq_ok.mp h
  refine ⟨rfl, ?_, not_le.mp hpos, payWht_nonneg (not_le.mp hpos)⟩
  rw [plannedLine, hinvoice]
  rfl

theorem linesFor_eq_ok {t : PayablesStore β} {invoiceIds : List UUID} {lines : List BatchLine}
    (h : linesFor t currency input invoiceIds s = .ok lines s') :
    s' = s ∧ lines = invoiceIds.filterMap (plannedLine t input) ∧
      ∀ line ∈ lines, 0 < line.amount ∧ 0 ≤ line.wht := by
  induction invoiceIds generalizing lines s s' with
  | nil =>
    obtain ⟨rfl, rfl⟩ := pure_eq_ok.mp h
    exact ⟨rfl, rfl, fun line hline => absurd hline List.not_mem_nil⟩
  | cons invoiceId rest ih =>
    obtain ⟨line, s₁, hline, hbind⟩ := bind_eq_ok.mp h
    obtain ⟨rfl, hplanned, hsigns⟩ := lineFor_eq_ok hline
    obtain ⟨others, s₂, hothers, hpure⟩ := bind_eq_ok.mp hbind
    obtain ⟨rfl, hrest, hall⟩ := ih hothers
    obtain ⟨rfl, rfl⟩ := pure_eq_ok.mp hpure
    refine ⟨rfl, ?_, ?_⟩
    · rw [List.filterMap_cons_some hplanned, hrest]
    · exact List.forall_mem_cons.mpr ⟨hsigns, hall⟩

/-- What is sent of a payment of a batch: what it settles less what is withheld. Where nothing is
withheld, what its invoices plan to withhold is. -/
def BatchPayment.sent (p : BatchPayment) (s : PayablesStore β) : ℚ :=
  if p.wht = 0 then p.gross - max ((plannedFor s p.allocations).map Prod.snd).sum 0 else p.net

theorem withholding_toInput (p : BatchPayment) (input : BatchInput) (method : APPaymentMethod)
    (currency : String) (planned : List (UUID × ℚ)) :
    (withholding (p.toInput input method currency) planned).1 =
      if p.wht = 0 then max (planned.map Prod.snd).sum 0 else p.wht := by
  rw [withholding]
  by_cases hzero : p.wht = 0
  · by_cases hplan : 0 < (planned.map Prod.snd).sum
    · simp [BatchPayment.toInput, hzero, hplan, hplan.le]
    · simp [BatchPayment.toInput, hzero, hplan, not_lt.mp hplan]
  · simp [BatchPayment.toInput, hzero]

variable {method : APPaymentMethod}

theorem netAndGross_toInput {p : BatchPayment} {netGross : ℚ × ℚ} (hwht : 0 ≤ p.wht) (hgross :
    0 < p.gross)
    (h : netAndGross (p.toInput input method currency)
      (withholding (p.toInput input method currency) (plannedFor s p.allocations)).1 =
        .ok netGross) : netGross.1 = p.sent s := by
  rw [withholding_toInput] at h
  set planned := ((plannedFor s p.allocations).map Prod.snd).sum with hplanned
  rw [BatchPayment.sent, ← hplanned]
  by_cases hzero : p.wht = 0
  · have hnet : p.net = p.gross := by rw [BatchPayment.net, hzero, sub_zero]
    have hnone : (p.toInput input method currency).grossAmount = none :=
      if_neg (by rw [hzero]; exact lt_irrefl 0)
    have hsame : |p.gross - p.gross| ≤ (1 : ℚ) / 100 := by
      rw [sub_self, abs_zero]
      norm_num
    rw [if_pos hzero] at h ⊢
    rw [netAndGross, hnone] at h
    change (if 0 < p.gross ∧ 0 < max planned 0 ∧ |p.net - p.gross| ≤ 1 / 100 then
      Except.ok (p.gross - max planned 0, p.gross) else .ok (p.net, p.net + max planned 0)) =
        Except.ok netGross at h
    rw [hnet] at h
    split_ifs at h with hdeduct
    · rw [← Except.ok.inj h]
    · rw [← Except.ok.inj h]
      have hnothing : max planned 0 = 0 := by
        by_contra hplan
        exact hdeduct ⟨hgross, lt_of_le_of_ne (le_max_right planned 0) (Ne.symm hplan), hsame⟩
      rw [hnothing, sub_zero]
  · have hpos : 0 < p.wht := lt_of_le_of_ne hwht (Ne.symm hzero)
    have hsome : (p.toInput input method currency).grossAmount = some p.gross := if_pos hpos
    rw [if_neg hzero] at h ⊢
    rw [netAndGross, hsome] at h
    dsimp only at h
    split_ifs at h
    rw [← Except.ok.inj h]
    rfl

theorem paymentsFor_signs {lines : List BatchLine}
    (h : ∀ line ∈ lines, 0 < line.amount ∧ 0 ≤ line.wht) {p : BatchPayment}
    (hp : p ∈ paymentsFor lines) : 0 < p.gross ∧ 0 ≤ p.wht := by
  obtain ⟨supplierId, hsupplier, rfl⟩ := List.mem_map.mp hp
  rw [List.mem_eraseDups] at hsupplier
  obtain ⟨line, hline, hown⟩ := List.mem_map.mp hsupplier
  have hkept : line ∈ lines.filter fun line => decide (line.supplierId = supplierId) :=
    List.mem_filter.mpr ⟨hline, decide_eq_true hown⟩
  constructor
  · rw [BatchPayment.gross, allocationTotal, paymentFor, List.map_map]
    refine List.sum_pos _ (fun q hq => ?_) (List.ne_nil_of_mem (List.mem_map_of_mem hkept))
    obtain ⟨other, hother, rfl⟩ := List.mem_map.mp hq
    exact (h other (List.mem_filter.mp hother).1).1
  · refine List.sum_nonneg fun q hq => ?_
    obtain ⟨other, hother, rfl⟩ := List.mem_map.mp hq
    exact (h other (List.mem_filter.mp hother).1).2

/-! ### Creation -/

def Fresh (org : UUID) (payment : SupplierPayment) : Prop :=
  payment.organizationId = org ∧ payment.paymentBatchId = none ∧
    payment.status = .draft

variable {org userId : UUID}

/-- **The payments of a batch**: one after the other is stored, under the next key. -/
theorem createPayments_eq_ok {plan : List BatchPayment} {ids : List UUID}
    (hsigns : ∀ p ∈ plan, 0 < p.gross ∧ 0 ≤ p.wht)
    (h : createPayments v org input method currency userId plan s = .ok ids s') :
    ∃ new : List SupplierPayment, s'.payments = s.payments.insertAll new ∧
      s'.batches = s.batches ∧ (∀ payment ∈ new, Fresh org payment) ∧
      new.map SupplierPayment.amount = plan.map (fun p => amountColumn (p.sent s)) ∧
      ∀ r ∈ s'.payments.rows, r.id ∈ ids ↔ s.payments.next ≤ r.id := by
  induction plan generalizing s ids with
  | nil =>
    obtain ⟨rfl, rfl⟩ := pure_eq_ok.mp h
    refine ⟨[], rfl, rfl, fun payment hp => absurd hp List.not_mem_nil, rfl, fun r hr => ?_⟩
    have hlt : r.id < s'.payments.next := lt_next (get?_of_mem hr)
    exact iff_of_false List.not_mem_nil (not_le.mpr hlt)
  | cons p rest ih =>
    obtain ⟨hp, hrest⟩ := List.forall_mem_cons.mp hsigns
    obtain ⟨i, s₁, hcreate, hbind⟩ := bind_eq_ok.mp h
    obtain ⟨payment, netGross, rfl, hnet, horg, hlink, hstatus, hamount, hpayments, hbatches,
      hinvoices⟩ := createPayment_eq_ok hcreate
    obtain ⟨others, s₂, hothers, hpure⟩ := bind_eq_ok.mp hbind
    obtain ⟨rfl, rfl⟩ := pure_eq_ok.mp hpure
    obtain ⟨new, hnew, hkept, hfresh, hamounts, hids⟩ := ih hrest hothers
    have hplanned : ∀ q : BatchPayment, q.sent s₁ = q.sent s := by
      intro q
      rw [BatchPayment.sent, BatchPayment.sent, plannedFor, plannedFor, hinvoices]
    refine ⟨payment :: new, ?_, hkept.trans hbatches, ?_, ?_, fun r hr => ?_⟩
    · rw [hnew, hpayments]
      rfl
    · exact List.forall_mem_cons.mpr ⟨⟨horg, hlink, hstatus⟩, hfresh⟩
    · rw [List.map_cons, List.map_cons, hamounts, hamount, netAndGross_toInput hp.2 hp.1 hnet]
      simp only [hplanned]
    · have htail := hids r hr
      rw [hpayments, next_insert] at htail
      rw [List.mem_cons, htail]
      omega

theorem createBatch_eq_ok {i : UUID} {plan : List BatchPayment}
    (h : createBatch v org input method plan userId s = .ok i s') :
    ∃ batch : APPaymentBatch, i = s.batches.next ∧ batch.organizationId = org ∧
      batch.status = .draft ∧ batch.totalPayments = plan.length ∧
      batch.totalAmount = amountColumn (plan.map BatchPayment.net).sum ∧
      s' = { s with batches := s.batches.insert batch } := by
  obtain ⟨-, h⟩ := refuse_bind.mp h
  rw [get_bind] at h
  obtain ⟨_, s₁, hset, h⟩ := bind_eq_ok.mp h
  obtain rfl := set_eq_ok.mp hset
  obtain ⟨rfl, rfl⟩ := pure_eq_ok.mp h
  exact ⟨_, rfl, rfl, rfl, rfl, rfl, rfl⟩

/-- **A batch of invoices**: its payments are new, and linked to it. -/
theorem createBatchFromInvoiceIds_eq_ok {i : UUID}
    (h : createBatchFromInvoiceIds v org input userId s = .ok i s') :
    ∃ (new : List SupplierPayment) (batch : APPaymentBatch) (f : Stored SupplierPayment →
        SupplierPayment), i = s.batches.next ∧
      s'.batches = s.batches.insert batch ∧
      s'.payments = (s.payments.insertAll new).mapRows f ∧
      (∀ payment ∈ new, Fresh org payment) ∧
      new.map SupplierPayment.amount =
        (plannedPayments s input).map (fun p => amountColumn (p.sent s)) ∧
      (∀ r ∈ (s.payments.insertAll new).rows, r.id < s.payments.next → f r = r.row) ∧
      (∀ r ∈ (s.payments.insertAll new).rows, s.payments.next ≤ r.id →
        f r = link (some s.batches.next) r.row) ∧
      batch.organizationId = org ∧ batch.status = .draft ∧
      batch.totalPayments = (plannedPayments s input).length ∧
      batch.totalAmount = amountColumn ((plannedPayments s input).map BatchPayment.net).sum := by
  obtain ⟨-, h⟩ := refuse_bind.mp h
  obtain ⟨method, -, h⟩ := orRaise_bind.mp h
  rw [get_bind] at h
  obtain ⟨currency, s₁, hcurrency, h⟩ := bind_eq_ok.mp h
  obtain ⟨-, rfl⟩ := ofExcept_eq_ok.mp hcurrency
  obtain ⟨-, h⟩ := refuse_bind.mp h
  obtain ⟨-, h⟩ := refuse_bind.mp h
  obtain ⟨lines, s₂, hlines, h⟩ := bind_eq_ok.mp h
  obtain ⟨rfl, rfl, hsigns⟩ := linesFor_eq_ok hlines
  obtain ⟨ids, s₃, hcreate, h⟩ := bind_eq_ok.mp h
  obtain ⟨new, hpayments, hbatches, hfresh, hamounts, hids⟩ :=
    createPayments_eq_ok (fun p hp => paymentsFor_signs hsigns hp) hcreate
  obtain ⟨batchId, s₄, hbatch, h⟩ := bind_eq_ok.mp h
  obtain ⟨batch, rfl, horg, hstatus, hcount, hamount, rfl⟩ := createBatch_eq_ok hbatch
  rw [modify_bind] at h
  obtain ⟨rfl, rfl⟩ := pure_eq_ok.mp h
  rw [hpayments] at hids
  refine ⟨new, batch, fun r => if r.id ∈ ids then link (some s₃.batches.next) r.row else r.row,
    by rw [hbatches], by rw [← hbatches], by rw [← hpayments], hfresh, hamounts,
    fun r hr hlt => ?_, fun r hr hle => ?_, horg, hstatus, hcount, hamount⟩
  · exact if_neg fun hmem => absurd ((hids r hr).mp hmem) (not_le.mpr hlt)
  · rw [← hbatches]
    exact if_pos ((hids r hr).mpr hle)

/-! ### Drafts -/

variable {batchId : UUID}

theorem batchOf_eq_some {batch : APPaymentBatch} :
    batchOf s org batchId = some batch ↔
      s.batches.get? batchId = some batch ∧ batch.organizationId = org := by
  rw [batchOf, Option.filter_eq_some_iff, decide_eq_true_eq]

variable {paymentId : UUID}

theorem addPaymentToBatch_eq_ok
    (h : addPaymentToBatch org batchId paymentId s = .ok u s') :
    ∃ batch payment, s.batches.get? batchId = some batch ∧ batch.status = .draft ∧
      s.payments.get? paymentId = some payment ∧
      payment.organizationId = batch.organizationId ∧ payment.paymentBatchId = none ∧
      payment.status ∈ [APPaymentStatus.draft, .pending] ∧
      s' = { s with
        payments := s.payments.modify paymentId (link (some batchId))
        batches := s.batches.modify batchId (addTotals 1 payment.amount) } := by
  rw [addPaymentToBatch, get_bind, orRaise_bind] at h
  obtain ⟨batch, hbatch, h⟩ := h
  obtain ⟨hdraft, h⟩ := refuse_bind.mp h
  obtain ⟨payment, hpayment, h⟩ := orRaise_bind.mp h
  obtain ⟨hlink, h⟩ := refuse_bind.mp h
  obtain ⟨hstatus, h⟩ := refuse_bind.mp h
  obtain ⟨hbatch, hborg⟩ := batchOf_eq_some.mp hbatch
  obtain ⟨hpayment, hporg⟩ := paymentOf_eq_some.mp hpayment
  exact ⟨batch, payment, hbatch, not_not.mp hdraft, hpayment, hporg.trans hborg.symm,
    not_not.mp hlink, not_not.mp hstatus, set_eq_ok.mp h⟩

theorem removePaymentFromBatch_eq_ok
    (h : removePaymentFromBatch org batchId paymentId s = .ok u s') :
    ∃ batch payment, s.batches.get? batchId = some batch ∧ batch.status = .draft ∧
      s.payments.get? paymentId = some payment ∧ payment.paymentBatchId = some batchId ∧
      s' = { s with
        payments := s.payments.modify paymentId (link none)
        batches := s.batches.modify batchId (addTotals (-1) (-payment.amount)) } := by
  rw [removePaymentFromBatch, get_bind, orRaise_bind] at h
  obtain ⟨batch, hbatch, h⟩ := h
  obtain ⟨hdraft, h⟩ := refuse_bind.mp h
  obtain ⟨payment, hpayment, h⟩ := orRaise_bind.mp h
  rw [Option.filter_eq_some_iff, decide_eq_true_eq] at hpayment
  exact ⟨batch, payment, (batchOf_eq_some.mp hbatch).1, not_not.mp hdraft,
    (paymentOf_eq_some.mp hpayment.1).1, hpayment.2, set_eq_ok.mp h⟩

/-! ### Approval, processing and the file -/

theorem approveBatch_eq_ok (h : approveBatch org batchId userId s = .ok u s') :
    ∃ batch f, s.batches.get? batchId = some batch ∧ batch.organizationId = org ∧
      batch.status = .draft ∧ (∀ b : APPaymentBatch, (f b).status = .approved ∧
        (f b).organizationId = b.organizationId) ∧
      s' = { s with
        payments := s.payments.update (fun p => decide (Of org batchId p))
          (approveDraft userId)
        batches := s.batches.modify batchId f } := by
  rw [approveBatch, get_bind, orRaise_bind] at h
  obtain ⟨batch, hbatch, h⟩ := h
  obtain ⟨hdraft, h⟩ := refuse_bind.mp h
  obtain ⟨-, h⟩ := refuse_bind.mp h
  obtain ⟨-, h⟩ := refuse_bind.mp h
  obtain ⟨hbatch, horg⟩ := batchOf_eq_some.mp hbatch
  refine ⟨batch, _, hbatch, horg, not_not.mp hdraft, ?_, set_eq_ok.mp h⟩
  intro b
  exact ⟨rfl, rfl⟩

theorem processOne_eq_ok {posted : Bool}
    (h : processOne v org userId paymentId s = .ok posted s') :
    s'.batches = s.batches ∧
      ((posted = true ∧ ∃ result, s'.payments =
          s.payments.modify paymentId (sentBy userId result)) ∨
        (posted = false ∧ s'.payments =
          s.payments.modify paymentId (withStatus .rejected))) := by
  rcases catching_eq_ok.mp h with h | ⟨e, s₁, hraise, h⟩
  · obtain ⟨_, s₁, hpost, h⟩ := bind_eq_ok.mp h
    obtain ⟨rfl, rfl⟩ := pure_eq_ok.mp h
    obtain ⟨payment, result, -, -, hpayments, hbatches⟩ := postPayment_eq_ok hpost
    exact ⟨hbatches, .inl ⟨rfl, result, hpayments⟩⟩
  · rcases bind_eq_error.mp hraise with hpost | ⟨_, s₂, -, hpure⟩
    · obtain ⟨ledger, rfl⟩ := postPayment_raises hpost
      split_ifs at h
      · rw [modify_bind] at h
        obtain ⟨rfl, rfl⟩ := pure_eq_ok.mp h
        exact ⟨rfl, .inr ⟨rfl, rfl⟩⟩
      · exact (throw_eq_ok.mp h).elim
    · exact (pure_eq_error.mp hpure).elim

theorem generateBankFile_eq_ok {items : List (UUID × PaymentItem)}
    (h : generateBankFile org batchId s = .ok items s') :
    ∃ batch f, s.batches.get? batchId = some batch ∧
      batch.status ∈ [APBatchStatus.approved, .completed] ∧
      (∀ b : APPaymentBatch, f b = { b with bankFileGenerated := true }) ∧
      (∀ item ∈ items, ∃ payment, s.payments.get? item.1 = some payment ∧
        payment.paymentBatchId = some batchId) ∧
      s' = { s with batches := s.batches.modify batchId f } := by
  rw [generateBankFile, get_bind, orRaise_bind] at h
  obtain ⟨batch, hbatch, h⟩ := h
  obtain ⟨hstatus, h⟩ := refuse_bind.mp h
  obtain ⟨-, h⟩ := refuse_bind.mp h
  obtain ⟨-, h⟩ := refuse_bind.mp h
  obtain ⟨_, s₁, hset, h⟩ := bind_eq_ok.mp h
  obtain rfl := set_eq_ok.mp hset
  obtain ⟨rfl, rfl⟩ := pure_eq_ok.mp h
  refine ⟨batch, _, (batchOf_eq_some.mp hbatch).1, not_not.mp hstatus, fun b => rfl,
    fun item hitem => ?_, rfl⟩
  obtain ⟨r, hr, hitem⟩ := List.mem_filterMap.mp hitem
  obtain ⟨built, -, rfl⟩ := Option.map_eq_some_iff.mp hitem
  obtain ⟨hmem, hof⟩ := mem_select.mp hr
  exact ⟨r.row, get?_of_mem (get?_eq_some.mp hmem), (of_decide_eq_true hof).1⟩

end PaymentBatchService

end DotmacErp.Payables
