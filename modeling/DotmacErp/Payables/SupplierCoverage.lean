import DotmacErp.Payables.BatchRuns

/-!
# What is paid of a supplier's invoice

Posting a payment pays its invoices and voiding one that was sent takes that back; a batch that is
processed posts its payments one by one. So in every run, whatever the ledger answers, an invoice is
paid what was paid of it at the start and what the sent and cleared payments allocate to it
(`amountPaid_tracked`). A payment that is voided, or rejected by its batch, counts for nothing.
-/

namespace DotmacErp.Payables

open Calendar Relational Session Table Rounding Totals SupplierPaymentService
  PaymentBatchService

/-! ### Posted payments -/

def isPosted (payments : Table SupplierPayment) (paymentId : UUID) : Bool :=
  (payments.get? paymentId).any fun p => decide (p.status ∈ postedStatuses)

def postedTo (payments : Table SupplierPayment) (allocations : List APPaymentAllocation)
    (invoiceId : UUID) : ℚ :=
  total (fun a => if isPosted payments a.paymentId then a.allocatedAmount else 0)
    APPaymentAllocation.invoiceId invoiceId allocations

def SamePosted (payments payments' : Table SupplierPayment) : Prop :=
  ∀ k p, payments.get? k = some p → ∃ p', payments'.get? k = some p' ∧
    (p'.status ∈ postedStatuses ↔ p.status ∈ postedStatuses)

variable {payments payments' : Table SupplierPayment} {allocations : List APPaymentAllocation}
  {k paymentId : UUID} {p : SupplierPayment}

theorem isPosted_of_get? (h : payments.get? k = some p) :
    isPosted payments k = decide (p.status ∈ postedStatuses) := by
  rw [isPosted, h]
  rfl

theorem SamePosted.isPosted (h : SamePosted payments payments') (hk : (payments.get? k).isSome) :
    isPosted payments' k = isPosted payments k := by
  obtain ⟨p, hp⟩ := Option.isSome_iff_exists.mp hk
  obtain ⟨p', hp', hsame⟩ := h k p hp
  rw [isPosted_of_get? hp', isPosted_of_get? hp]
  exact decide_eq_decide.mpr hsame

theorem samePosted_modify {f : SupplierPayment → SupplierPayment}
    (hf : ∀ p, payments.get? paymentId = some p →
      ((f p).status ∈ postedStatuses ↔ p.status ∈ postedStatuses)) :
    SamePosted payments (payments.modify paymentId f) := by
  intro k p hp
  rw [get?_modify]
  by_cases hk : k = paymentId
  · rw [if_pos hk, hp]
    exact ⟨f p, rfl, hf p (hk ▸ hp)⟩
  · rw [if_neg hk]
    exact ⟨p, hp, Iff.rfl⟩

theorem samePosted_insert (payments : Table SupplierPayment) (payment : SupplierPayment) :
    SamePosted payments (payments.insert payment) :=
  fun _ p hp => ⟨p, get?_insert_of_some hp payment, Iff.rfl⟩

theorem postedTo_of_posts (allocations : List APPaymentAllocation)
    (hother : ∀ k, k ≠ paymentId → isPosted payments' k = isPosted payments k)
    (hbefore : isPosted payments paymentId = false) (hafter : isPosted payments' paymentId = true)
    (k : UUID) :
    postedTo payments' allocations k = postedTo payments allocations k +
      total APPaymentAllocation.allocatedAmount APPaymentAllocation.invoiceId k
        (allocations.filter fun a => decide (a.paymentId = paymentId)) := by
  rw [postedTo, postedTo, total_filter, ← total_add]
  refine total_congr fun a _ => ⟨rfl, ?_⟩
  by_cases ha : a.paymentId = paymentId
  · simp [ha, hbefore, hafter]
  · simp [ha, hother _ ha]

/-! ### The loop over the allocations of a payment -/

theorem get?_payInvoices {sign : ℚ} {invoices : Table SupplierInvoice} {i' : SupplierInvoice}
    (hscale : ∀ a ∈ allocations, AtScale 6 (sign * a.allocatedAmount))
    (hpaid : ∀ k i, invoices.get? k = some i → AtScale 6 i.amountPaid)
    (h : (payInvoices sign allocations invoices).get? k = some i') :
    AtScale 6 i'.amountPaid ∧ ∃ i, invoices.get? k = some i ∧ i'.amountPaid = i.amountPaid +
      sign * total APPaymentAllocation.allocatedAmount APPaymentAllocation.invoiceId k
        allocations := by
  induction allocations generalizing invoices with
  | nil => exact ⟨hpaid k i' h, i', h, by simp⟩
  | cons a rest ih =>
    have hpaid' : ∀ k i, (invoices.modify a.invoiceId
        (addPaid (sign * a.allocatedAmount))).get? k = some i → AtScale 6 i.amountPaid := by
      intro k i hi
      rw [get?_modify] at hi
      split_ifs at hi
      · obtain ⟨i₀, -, rfl⟩ := Option.map_eq_some_iff.mp hi
        exact atScale_halfUp 6 _
      · exact hpaid k i hi
    obtain ⟨hi', i₁, hi₁, hamount⟩ :=
      ih (fun b hb => hscale b (List.mem_cons_of_mem a hb)) hpaid' h
    refine ⟨hi', ?_⟩
    rw [get?_modify] at hi₁
    rw [total_cons]
    split_ifs at hi₁ with hk
    · obtain ⟨i₀, hi₀, rfl⟩ := Option.map_eq_some_iff.mp hi₁
      have hadded : (addPaid (sign * a.allocatedAmount) i₀).amountPaid =
          i₀.amountPaid + sign * a.allocatedAmount :=
        halfUp_of_atScale ((hpaid _ _ hi₀).add (hscale a List.mem_cons_self))
      refine ⟨i₀, hk ▸ hi₀, ?_⟩
      rw [hamount, hadded, if_pos hk.symm]
      ring
    · refine ⟨i₁, hi₁, ?_⟩
      rw [hamount, if_neg fun heq => hk heq.symm, zero_add]

/-! ### What every call keeps -/

variable {β : Type} {v : PayableServices β} {s s' : PayablesStore β} {u : PUnit}
  {org userId : UUID} {before : Table SupplierInvoice}

/-- **The invariant**: the allocations are of known payments, and an invoice is paid what was paid
of it before and what the posted payments allocate to it. -/
structure PaidFrom (before : Table SupplierInvoice) (s : PayablesStore β) : Prop where
  scale : ∀ a ∈ s.allocations, AtScale 6 a.allocatedAmount
  known : ∀ a ∈ s.allocations, (s.payments.get? a.paymentId).isSome
  paid : ∀ k i, s.invoices.get? k = some i → AtScale 6 i.amountPaid ∧
    ∃ i₀, before.get? k = some i₀ ∧
      i.amountPaid = i₀.amountPaid + postedTo s.payments s.allocations k

namespace PaidFrom

theorem of_same (h : PaidFrom before s) (hposted : SamePosted s.payments s'.payments)
    (hallocations : s'.allocations = s.allocations) (hinvoices : s'.invoices = s.invoices) :
    PaidFrom before s' := by
  refine ⟨hallocations ▸ h.scale, fun a ha => ?_, fun k i hi => ?_⟩
  · rw [hallocations] at ha
    obtain ⟨p, hp⟩ := Option.isSome_iff_exists.mp (h.known a ha)
    obtain ⟨p', hp', -⟩ := hposted _ p hp
    rw [hp']
    rfl
  · rw [hinvoices] at hi
    obtain ⟨hscale, i₀, hi₀, hpaid⟩ := h.paid k i hi
    refine ⟨hscale, i₀, hi₀, ?_⟩
    rw [hpaid, postedTo, postedTo, hallocations]
    refine congrArg (i₀.amountPaid + ·) (total_congr fun a ha => ⟨rfl, ?_⟩)
    rw [hposted.isPosted (h.known a ha)]

theorem pay (h : PaidFrom before s) {sign : ℚ} (hsign : sign = 1 ∨ sign = -1)
    (hknown : ∀ k, (s.payments.get? k).isSome → (s'.payments.get? k).isSome)
    (hallocations : s'.allocations = s.allocations)
    (hinvoices : s'.invoices = payInvoices sign (s.allocationsOf paymentId) s.invoices)
    (hposted : ∀ k, postedTo s'.payments s.allocations k = postedTo s.payments s.allocations k +
      sign * total APPaymentAllocation.allocatedAmount APPaymentAllocation.invoiceId k
        (s.allocationsOf paymentId)) :
    PaidFrom before s' := by
  refine ⟨hallocations ▸ h.scale, fun a ha => ?_, fun k i' hi' => ?_⟩
  · rw [hallocations] at ha
    exact hknown _ (h.known a ha)
  · have hscale : ∀ a ∈ s.allocationsOf paymentId, AtScale 6 (sign * a.allocatedAmount) := by
      intro a ha
      have hstored := h.scale a (List.mem_filter.mp ha).1
      rcases hsign with rfl | rfl
      · rwa [one_mul]
      · rw [neg_one_mul]
        exact hstored.neg
    rw [hinvoices] at hi'
    obtain ⟨hi'scale, i, hi, hamount⟩ :=
      get?_payInvoices hscale (fun k i hi => (h.paid k i hi).1) hi'
    obtain ⟨-, i₀, hi₀, hpaid⟩ := h.paid k i hi
    refine ⟨hi'scale, i₀, hi₀, ?_⟩
    rw [hamount, hpaid, hallocations, hposted k, add_assoc]

theorem postPayment (h : PaidFrom before s) {postingDate : Option Date}
    (hrun : SupplierPaymentService.postPayment v org paymentId userId postingDate s =
      .ok u s') : PaidFrom before s' := by
  obtain ⟨p, result, ledger, hp, happroved, rfl⟩ := postPayment_pays hrun
  have hafter : (s.payments.modify paymentId (sentBy userId result)).get? paymentId =
      some (sentBy userId result p) := by
    rw [get?_modify_self, hp]
    rfl
  refine h.pay (.inl rfl) (fun k hk => ?_) rfl rfl fun k => ?_
  · rw [get?_modify]
    split_ifs <;> simpa using hk
  · rw [one_mul]
    refine postedTo_of_posts s.allocations (fun k hk => ?_) ?_ ?_ k
    · rw [isPosted, isPosted, get?_modify_of_ne hk]
    · rw [isPosted_of_get? hp, happroved]
      rfl
    · rw [isPosted_of_get? hafter]
      rfl

theorem voidPayment (h : PaidFrom before s) {reason : String}
    (hrun : SupplierPaymentService.voidPayment v org paymentId userId reason s =
      .ok u s') : PaidFrom before s' := by
  obtain ⟨p, ledger, hp, hopen, rfl⟩ := voidPayment_takesBack hrun
  by_cases hsent : p.status = .sent
  · have hafter : (s.payments.modify paymentId (withStatus .void)).get? paymentId =
        some (withStatus .void p) := by
      rw [get?_modify_self, hp]
      rfl
    refine h.pay (.inr rfl) (fun k hk => ?_) rfl (if_pos hsent) fun k => ?_
    · rw [get?_modify]
      split_ifs <;> simpa using hk
    · -- seen from the payments after, the payment is posted
      have hsame : ∀ k, k ≠ paymentId → isPosted s.payments k =
          isPosted (s.payments.modify paymentId (withStatus .void)) k := by
        intro k hk
        rw [isPosted, isPosted, get?_modify_of_ne hk]
      have hbefore : isPosted s.payments paymentId = true := by
        rw [isPosted_of_get? hp, hsent]
        rfl
      rw [postedTo_of_posts s.allocations hsame (isPosted_of_get? hafter) hbefore k, neg_one_mul]
      exact (add_neg_cancel_right _ _).symm
  · refine h.of_same (samePosted_modify fun q hq => ?_) rfl (if_neg hsent)
    obtain rfl := Option.mem_unique hp hq
    change APPaymentStatus.void ∈ postedStatuses ↔ _
    revert hsent hopen
    cases p.status <;> decide

theorem addAllocations (h : PaidFrom before s) (hp : s.payments.get? paymentId = some p)
    (hnot : p.status ∉ postedStatuses) {given : List PaymentAllocationInput}
    (hrun : SupplierPaymentService.addAllocations paymentId given s = .ok u s') :
    PaidFrom before s' := by
  induction given generalizing s with
  | nil => exact (pure_eq_ok.mp hrun).2 ▸ h
  | cons alloc rest ih =>
    obtain ⟨_, s₁, hone, hrest⟩ := bind_eq_ok.mp hrun
    rw [addAllocation, get_bind, refuse_bind] at hone
    obtain rfl := set_eq_ok.mp hone.2
    refine ih (s := withAllocation paymentId alloc s)
      ⟨fun a ha => ?_, fun a ha => ?_, fun k i hi => ?_⟩ hp hrest
    · rcases List.mem_append.mp ha with ha | ha
      · exact h.scale a ha
      · rw [List.mem_singleton.mp ha]
        exact atScale_halfUp 6 _
    · rcases List.mem_append.mp ha with ha | ha
      · exact h.known a ha
      · rw [List.mem_singleton.mp ha]
        exact Option.isSome_of_mem hp
    · obtain ⟨hscale, i₀, hi₀, hpaid⟩ := h.paid k i hi
      have hnothing : isPosted s.payments paymentId = false := by
        rw [isPosted_of_get? hp]
        exact decide_eq_false hnot
      refine ⟨hscale, i₀, hi₀, hpaid.trans ?_⟩
      rw [withAllocation, postedTo, postedTo, total_append, total_cons, total_nil, hnothing]
      simp

theorem createPayment (h : PaidFrom before s) {input : SupplierPaymentInput} {i : UUID}
    (hrun : SupplierPaymentService.createPayment v org input userId s = .ok i s') :
    PaidFrom before s' := by
  obtain ⟨payment, _, -, -, -, -, hdraft, -, hadd⟩ := createPayment_adds hrun
  have hinserted : PaidFrom before { s with payments := s.payments.insert payment } :=
    h.of_same (samePosted_insert s.payments payment) rfl rfl
  refine hinserted.addAllocations (get?_insert_self _ _) ?_ hadd
  rw [hdraft]
  decide

theorem createPayments (h : PaidFrom before s) {input : BatchInput} {method : APPaymentMethod}
    {currency : String} {plan : List BatchPayment} {ids : List UUID}
    (hrun : PaymentBatchService.createPayments v org input method currency userId plan
      s = .ok ids s') : PaidFrom before s' := by
  induction plan generalizing s ids with
  | nil => exact (pure_eq_ok.mp hrun).2 ▸ h
  | cons p rest ih =>
    obtain ⟨i, s₁, hcreate, hbind⟩ := bind_eq_ok.mp hrun
    obtain ⟨others, s₂, hothers, hpure⟩ := bind_eq_ok.mp hbind
    obtain ⟨-, rfl⟩ := pure_eq_ok.mp hpure
    exact ih (h.createPayment hcreate) hothers

theorem createBatch (h : PaidFrom before s) {input : BatchInput} {i : UUID}
    (hrun : createBatchFromInvoiceIds v org input userId s = .ok i s') :
    PaidFrom before s' := by
  obtain ⟨-, hmethod⟩ := refuse_bind.mp hrun
  obtain ⟨method, -, hread⟩ := orRaise_bind.mp hmethod
  rw [get_bind] at hread
  obtain ⟨currency, s₁, hcurrency, hchecks⟩ := bind_eq_ok.mp hread
  obtain ⟨-, rfl⟩ := ofExcept_eq_ok.mp hcurrency
  obtain ⟨-, hchecks⟩ := refuse_bind.mp hchecks
  obtain ⟨-, hchecks⟩ := refuse_bind.mp hchecks
  obtain ⟨lines, s₂, hlines, hwrites⟩ := bind_eq_ok.mp hchecks
  obtain ⟨rfl, -⟩ := linesFor_eq_ok hlines
  obtain ⟨ids, s₃, hcreate, hbatches⟩ := bind_eq_ok.mp hwrites
  obtain ⟨batchId, s₄, hbatch, hlinks⟩ := bind_eq_ok.mp hbatches
  obtain ⟨batch, -, -, -, -, -, rfl⟩ := createBatch_eq_ok hbatch
  rw [modify_bind] at hlinks
  obtain ⟨-, rfl⟩ := pure_eq_ok.mp hlinks
  refine (h.createPayments hcreate).of_same (fun k p hp => ?_) rfl rfl
  rw [get?_mapRows, hp]
  refine ⟨_, rfl, ?_⟩
  dsimp only
  split_ifs <;> exact Iff.rfl

theorem processOne (h : PaidFrom before s) {posted : Bool}
    (hnot : ∀ p, s.payments.get? paymentId = some p → p.status ∉ postedStatuses)
    (hrun : PaymentBatchService.processOne v org userId paymentId s = .ok posted s') :
    PaidFrom before s' := by
  rcases catching_eq_ok.mp hrun with hpost | ⟨e, s₁, hraise, hhandler⟩
  · obtain ⟨_, s₁, hpost, hpure⟩ := bind_eq_ok.mp hpost
    obtain ⟨-, rfl⟩ := pure_eq_ok.mp hpure
    exact h.postPayment hpost
  · rcases bind_eq_error.mp hraise with hpost | ⟨_, s₂, -, hpure⟩
    · obtain ⟨ledger, rfl⟩ := postPayment_raises hpost
      split_ifs at hhandler
      · rw [modify_bind] at hhandler
        obtain ⟨-, rfl⟩ := pure_eq_ok.mp hhandler
        have hrejected : APPaymentStatus.rejected ∉ postedStatuses := by decide
        exact h.of_same (samePosted_modify fun p hp => iff_of_false hrejected (hnot p hp)) rfl rfl
      · exact (throw_eq_ok.mp hhandler).elim
    · exact (pure_eq_error.mp hpure).elim

theorem processEach (h : PaidFrom before s) {ids : List UUID} {posted : Bool}
    (hnodup : ids.Nodup)
    (hnot : ∀ k ∈ ids, ∀ p, s.payments.get? k = some p → p.status ∉ postedStatuses)
    (hrun : PaymentBatchService.processEach v org userId ids s = .ok posted s') :
    PaidFrom before s' := by
  induction ids generalizing s posted with
  | nil => exact (pure_eq_ok.mp hrun).2 ▸ h
  | cons paymentId rest ih =>
    obtain ⟨first, s₁, hone, hbind⟩ := bind_eq_ok.mp hrun
    obtain ⟨others, s₂, hothers, hpure⟩ := bind_eq_ok.mp hbind
    obtain ⟨-, rfl⟩ := pure_eq_ok.mp hpure
    rw [List.nodup_cons] at hnodup
    refine ih (h.processOne (hnot paymentId List.mem_cons_self) hone) hnodup.2
      (fun k hk p hp => ?_) hothers
    -- the payments that come later are as they were
    have hne : k ≠ paymentId := fun heq => hnodup.1 (heq ▸ hk)
    refine hnot k (List.mem_cons_of_mem paymentId hk) p ?_
    obtain ⟨-, ⟨-, result, hpayments⟩ | ⟨-, hpayments⟩⟩ := processOne_eq_ok hone
    · rwa [hpayments, get?_modify_of_ne hne] at hp
    · rwa [hpayments, get?_modify_of_ne hne] at hp

theorem processBatch (h : PaidFrom before s) {batchId : UUID}
    (hrun : PaymentBatchService.processBatch v org batchId userId s = .ok u s') :
    PaidFrom before s' := by
  rw [PaymentBatchService.processBatch, get_bind] at hrun
  obtain ⟨batch, -, hrun⟩ := orRaise_bind.mp hrun
  obtain ⟨-, hrun⟩ := refuse_bind.mp hrun
  obtain ⟨_, s₁, hset, hrun⟩ := bind_eq_ok.mp hrun
  obtain rfl := set_eq_ok.mp hset
  obtain ⟨posted, s₂, hloop, hrun⟩ := bind_eq_ok.mp hrun
  obtain rfl := modify_eq_ok.mp hrun
  have hsame : ∀ s : PayablesStore β, SamePosted s.payments s.payments :=
    fun s _ p hp => ⟨p, hp, Iff.rfl⟩
  have hstarted : PaidFrom before
      { s with batches := s.batches.modify batchId (inBatchStatus .processing) } :=
    h.of_same (hsame s) rfl rfl
  have hlooped : PaidFrom before s₂ := by
    refine hstarted.processEach ?_ (fun k hk p hp => ?_) hloop
    · exact (nodup_ids_select _ _).sublist ((List.filter_sublist).map Stored.id)
    · obtain ⟨r, hr, rfl⟩ := List.mem_map.mp hk
      obtain ⟨hlinked, happroved⟩ := List.mem_filter.mp hr
      obtain rfl := Option.mem_unique hp (mem_select.mp hlinked).1
      rw [of_decide_eq_true happroved]
      decide
  exact hlooped.of_same (hsame s₂) rfl rfl

/-- **Every call** on payments and batches keeps what is paid in step with what is posted. -/
theorem after (h : PaidFrom before s) (op : BatchOperation) : PaidFrom before (op.after v s) := by
  refine commit_induction (P := PaidFrom before) h fun u s' hrun => ?_
  cases op with
  | createPayment org input userId =>
    obtain ⟨k, hcreate, -⟩ := map_eq_ok.mp hrun
    exact h.createPayment hcreate
  | approvePayment org paymentId userId =>
    obtain ⟨p, hp, hstatus, rfl⟩ := approvePayment_eq_ok hrun
    refine h.of_same (samePosted_modify fun q hq => ?_) rfl rfl
    obtain rfl := Option.mem_unique hp hq
    change APPaymentStatus.approved ∈ postedStatuses ↔ _
    revert hstatus
    cases p.status <;> decide
  | postPayment org paymentId userId postingDate => exact h.postPayment hrun
  | voidPayment org paymentId userId reason => exact h.voidPayment hrun
  | clearPayment org paymentId =>
    obtain ⟨p, hp, hsent, rfl⟩ := markCleared_eq_ok hrun
    refine h.of_same (samePosted_modify fun q hq => ?_) rfl rfl
    obtain rfl := Option.mem_unique hp hq
    rw [hsent]
    change APPaymentStatus.cleared ∈ postedStatuses ↔ _
    decide
  | createBatch org input userId =>
    obtain ⟨k, hcreate, -⟩ := map_eq_ok.mp hrun
    exact h.createBatch hcreate
  | addPayment org batchId paymentId =>
    obtain ⟨b, p, -, -, -, -, -, -, rfl⟩ := addPaymentToBatch_eq_ok hrun
    exact h.of_same (samePosted_modify fun _ _ => Iff.rfl) rfl rfl
  | removePayment org batchId paymentId =>
    obtain ⟨b, p, -, -, -, -, rfl⟩ := removePaymentFromBatch_eq_ok hrun
    exact h.of_same (samePosted_modify fun _ _ => Iff.rfl) rfl rfl
  | approveBatch org batchId userId =>
    obtain ⟨b, f, -, -, -, -, rfl⟩ := approveBatch_eq_ok hrun
    refine h.of_same (fun k p hp => ?_) rfl rfl
    rw [get?_update, hp]
    refine ⟨_, rfl, ?_⟩
    dsimp only
    split_ifs
    · rw [approveDraft]
      split_ifs with hdraft
      · rw [hdraft]
        change APPaymentStatus.approved ∈ postedStatuses ↔ _
        decide
      · exact Iff.rfl
    · exact Iff.rfl
  | processBatch org batchId userId => exact h.processBatch hrun
  | bankFile org batchId =>
    obtain ⟨items, hfile, -⟩ := map_eq_ok.mp hrun
    obtain ⟨b, f, -, -, -, -, rfl⟩ := generateBankFile_eq_ok hfile
    exact h.of_same (fun _ p hp => ⟨p, hp, Iff.rfl⟩) rfl rfl

end PaidFrom

/-! ### Every run -/

/-- **What is paid of an invoice is what the posted payments allocate to it**, in every run of the
calls on payments and batches that starts without allocations. No payment is deleted in it. -/
theorem amountPaid_tracked (hallocations : s.allocations = [])
    (hscale : ∀ k i, s.invoices.get? k = some i → AtScale 6 i.amountPaid)
    (h : (batchSystem v).Run s s') :
    ∀ k i, s'.invoices.get? k = some i → ∃ i₀, s.invoices.get? k = some i₀ ∧
      i.amountPaid = i₀.amountPaid + postedTo s'.payments s'.allocations k := by
  have hstart : PaidFrom s.invoices s := by
    refine ⟨fun a ha => ?_, fun a ha => ?_, fun k i hi => ⟨hscale k i hi, i, hi, ?_⟩⟩
    · rw [hallocations] at ha
      exact absurd ha List.not_mem_nil
    · rw [hallocations] at ha
      exact absurd ha List.not_mem_nil
    · rw [hallocations, postedTo, total_nil, add_zero]
  have hend : PaidFrom s.invoices s' := h.preserves (P := PaidFrom s.invoices) (by
    rintro s₁ op s₂ hs₁ - rfl
    exact hs₁.after op) hstart
  exact fun k i hi => (hend.paid k i hi).2

/-- The first invoice is paid in full by the batch, and the second is open again. -/
theorem amountPaid_tracked_sample :
    let s := System.after (BatchOperation.after countingLedger) twoInvoices
      (paidRun ++ [.voidPayment 1 1 9 "Returned"])
    postedTo s.payments s.allocations 0 = 100 ∧ postedTo s.payments s.allocations 1 = 0 ∧
      ∀ i, s.invoices.get? 0 = some i → i.amountPaid = 100 := by
  intro s
  have hrun : (batchSystem countingLedger).Run twoInvoices s :=
    System.runWithin_after (System.allowedAlong_trivial _)
  have hposted : postedTo s.payments s.allocations 0 = 100 := by decide +kernel
  have hunpaid : ∀ r ∈ twoInvoices.invoices.rows, r.row.amountPaid = 0 := by decide
  have hscale : ∀ k i, twoInvoices.invoices.get? k = some i → AtScale 6 i.amountPaid := by
    intro k i hi
    rw [hunpaid ⟨k, i⟩ (get?_eq_some.mp hi)]
    exact atScale_zero 6
  refine ⟨hposted, by decide +kernel, fun i hi => ?_⟩
  obtain ⟨i₀, hi₀, hpaid⟩ := amountPaid_tracked rfl hscale hrun 0 i hi
  rw [hpaid, hposted, hunpaid ⟨0, i₀⟩ (get?_eq_some.mp hi₀), zero_add]

end DotmacErp.Payables
