import DotmacErp.Receivables.Coverage

/-!
# What the calls on payments do

One lemma for each call says what it did when it returned: what it required and the store it left.
The checks of a receipt read and leave the store as it is. From these lemmas, that what is paid is
what covers it is kept by every call (`Tracked`).
-/

namespace DotmacErp.Receivables

open Calendar Relational Session Rounding CustomerPaymentService

variable {β : Type} {v : PostingServices β} {s s' : ReceivablesStore β}
  {org paymentId invoiceId userId : UUID} {input : CustomerPaymentInput} {today : Date}

/-! ### Creating, changing and deleting -/

def allocationRows (paymentId : UUID) (allocations : List PaymentAllocationInput) :
    List PaymentAllocation :=
  allocations.map fun a => ⟨paymentId, a.invoiceId, amountColumn a.amount⟩

variable {allocations : List PaymentAllocationInput} {u : PUnit}

theorem validateEach_eq_ok {family : List UUID} (h :
    validateEach org family allocations s = .ok u s') : s' = s := by
  induction allocations generalizing s with
  | nil => exact (pure_eq_ok.mp h).2
  | cons alloc rest ih =>
    rw [validateEach, bind_eq_ok] at h
    obtain ⟨_, s₁, halloc, hrest⟩ := h
    have hsame : s₁ = s := by
      simp only [validateAllocation, get_bind, orRaise_bind, refuse_bind,
        refuse_eq_ok] at halloc
      obtain ⟨_, _, _, _, _, _, heq⟩ := halloc
      exact heq
    rw [ih hrest, hsame]

theorem validateWht_eq_ok {whtCodeId result : Option UUID}
    (h : validateWht org whtCodeId s = .ok result s') : s' = s := by
  cases whtCodeId with
  | none => exact (pure_eq_ok.mp h).2
  | some codeId =>
    simp only [validateWht] at h
    simp only [get_bind, orRaise_bind, refuse_bind, pure_eq_ok] at h
    obtain ⟨_, _, _, _, _, heq⟩ := h
    exact heq

theorem validateReceipt_eq_ok {result : ReceiptAmounts × Option UUID}
    (h : validateReceipt org input s = .ok result s') :
    s' = s ∧ resolveReceiptAmounts input = .ok result.1 ∧
      (input.allocations.map PaymentAllocationInput.amount).sum ≤ result.1.gross := by
  rw [validateReceipt, get_bind, orRaise_bind] at h
  obtain ⟨customer, _, h⟩ := h
  rw [refuse_bind, refuse_bind, refuse_bind, bind_eq_ok] at h
  obtain ⟨_, _, _, amounts, s₁, hamounts, h⟩ := h
  obtain ⟨hresolve, rfl⟩ := ofExcept_eq_ok.mp hamounts
  rw [refuse_bind, bind_eq_ok] at h
  obtain ⟨htotal, _, s₂, heach, h⟩ := h
  rw [bind_eq_ok] at h
  obtain ⟨code, s₃, hwht, h⟩ := h
  rw [refuse_bind, pure_eq_ok] at h
  obtain ⟨_, rfl, rfl⟩ := h
  exact ⟨(validateWht_eq_ok hwht).trans (validateEach_eq_ok heach), hresolve, not_lt.mp htotal⟩

theorem addAllocations_eq_ok (h : addAllocations paymentId allocations s = .ok u s') :
    s' = { s with allocations := s.allocations ++ allocationRows paymentId allocations } := by
  induction allocations generalizing s with
  | nil =>
    rw [(pure_eq_ok.mp h).2, allocationRows, List.map_nil, List.append_nil]
  | cons alloc rest ih =>
    rw [addAllocations, bind_eq_ok] at h
    obtain ⟨_, s₁, hone, hrest⟩ := h
    obtain ⟨_, _, _, rfl⟩ := addAllocation_eq_ok hone
    rw [ih hrest, withAllocation]
    simp only [allocationRows, List.map_cons, List.append_assoc, List.singleton_append]

theorem createPayment_eq_ok {paymentNumber : String}
    (h : createPayment org paymentNumber input s = .ok paymentId s') :
    ∃ amounts whtCodeId, resolveReceiptAmounts input = .ok amounts ∧
      (input.allocations.map PaymentAllocationInput.amount).sum ≤ amounts.gross ∧
      paymentId = s.payments.next ∧
      s' = { s with
        payments :=
          s.payments.insert (newPayment org paymentNumber input amounts whtCodeId)
        allocations := s.allocations ++ allocationRows s.payments.next input.allocations } := by
  rw [createPayment, bind_eq_ok] at h
  obtain ⟨⟨amounts, whtCodeId⟩, s₁, hvalid, h⟩ := h
  obtain ⟨rfl, hresolve, htotal⟩ := validateReceipt_eq_ok hvalid
  dsimp only at h
  rw [get_bind, bind_eq_ok] at h
  obtain ⟨_, s₂, hset, h⟩ := h
  obtain rfl := set_eq_ok.mp hset
  rw [bind_eq_ok] at h
  obtain ⟨_, s₃, hadd, h⟩ := h
  obtain ⟨rfl, rfl⟩ := pure_eq_ok.mp h
  exact ⟨amounts, whtCodeId, hresolve, htotal, rfl, addAllocations_eq_ok hadd⟩

variable {payment : CustomerPayment}

theorem getPayment_eq_ok {message : String}
    (h : getPayment org paymentId message s = .ok payment s') :
    s.payments.get? paymentId = some payment ∧ payment.organizationId = org ∧
      s' = s := by
  rw [getPayment, get_bind, orRaise_bind] at h
  obtain ⟨p, hget, h⟩ := h
  rw [refuse_bind, pure_eq_ok] at h
  obtain ⟨horg, rfl, rfl⟩ := h
  exact ⟨hget, not_not.mp horg, rfl⟩

theorem updatePayment_eq_ok (h : updatePayment org paymentId input s = .ok u s') :
    ∃ payment amounts whtCodeId, s.payments.get? paymentId = some payment ∧
      payment.status = .pending ∧ resolveReceiptAmounts input = .ok amounts ∧
      (input.allocations.map PaymentAllocationInput.amount).sum ≤ amounts.gross ∧
      s' = { s with
        payments := s.payments.modify paymentId (changed input amounts whtCodeId)
        allocations := withoutPayment paymentId s.allocations ++
          allocationRows paymentId input.allocations } := by
  rw [updatePayment, bind_eq_ok] at h
  obtain ⟨payment, s₁, hfound, h⟩ := h
  obtain ⟨hget, -, rfl⟩ := getPayment_eq_ok hfound
  rw [refuse_bind, bind_eq_ok] at h
  obtain ⟨hpending, ⟨amounts, whtCodeId⟩, s₂, hvalid, h⟩ := h
  obtain ⟨rfl, hresolve, htotal⟩ := validateReceipt_eq_ok hvalid
  dsimp only at h
  rw [modify_bind] at h
  exact ⟨payment, amounts, whtCodeId, hget, not_not.mp hpending, hresolve, htotal,
    addAllocations_eq_ok h⟩

theorem deleteReceipt_eq_ok (h : deleteReceipt org paymentId s = .ok u s') :
    ∃ payment, s.payments.get? paymentId = some payment ∧ payment.status = .pending ∧
      s' = { s with
        payments := s.payments.erase paymentId
        allocations := withoutPayment paymentId s.allocations } := by
  rw [deleteReceipt, bind_eq_ok] at h
  obtain ⟨payment, s₁, hfound, h⟩ := h
  obtain ⟨hget, -, rfl⟩ := getPayment_eq_ok hfound
  rw [refuse_bind, modify_eq_ok] at h
  exact ⟨payment, hget, not_not.mp h.1, h.2⟩

/-! ### Posting and taking back -/

theorem postPayment_eq_ok {postingDate : Option Date}
    (h : postPayment v org paymentId userId postingDate today s = .ok u s') :
    ∃ payment result ledger, s.payments.get? paymentId = some payment ∧
      payment.organizationId = org ∧ payment.status = .pending ∧
      v.postPayment org paymentId (postingDate.getD payment.paymentDate) userId
        { s with payments := s.payments.modify paymentId (withStatus .approved) } =
          (.ok result, ledger) ∧
      result.success = true ∧ result.journalEntryId.isSome = true ∧
      s' = { s with
        payments := s.payments.modify paymentId (markCleared result)
        invoices := payInvoices today 1 (s.allocationsOf paymentId) s.invoices
        ledger } := by
  rw [postPayment, bind_eq_ok] at h
  obtain ⟨payment, s₁, hfound, h⟩ := h
  obtain ⟨hget, horg, rfl⟩ := getPayment_eq_ok hfound
  rw [refuse_bind, refuse_bind, modify_bind, get_bind, bind_eq_ok] at h
  obtain ⟨hpending, _, _, s₂, hledger, h⟩ := h
  obtain rfl := set_eq_ok.mp hledger
  rw [bind_eq_ok] at h
  obtain ⟨result, s₂, hposted, h⟩ := h
  rcases catching_eq_ok.mp hposted with hposted | ⟨e, s₃, _, hthrow⟩
  · obtain ⟨hanswer, rfl⟩ := ofExcept_eq_ok.mp hposted
    split at h
    · rw [modify_bind] at h
      exact absurd h (by simp)
    · rename_i haccepted
      obtain ⟨hsuccess, hjournal⟩ := not_or.mp haccepted
      obtain rfl := modify_eq_ok.mp h
      refine ⟨payment, result, _, hget, horg, not_not.mp hpending, Prod.ext hanswer rfl,
        eq_true_of_ne_false hsuccess, Option.isSome_iff_ne_none.mpr hjournal, ?_⟩
      simp only [Table.modify_modify]
      rfl
  · rw [modify_bind] at hthrow
    exact absurd hthrow (by simp)

def takenBack (paymentId : UUID) (payment : CustomerPayment) (status : PaymentStatus)
    (today : Date) (ledger : β) (s : ReceivablesStore β) : ReceivablesStore β :=
  { s with
    payments := s.payments.modify paymentId (withStatus status)
    invoices := if payment.status = .cleared
      then payInvoices today (-1) (s.allocationsOf paymentId) s.invoices else s.invoices
    ledger }

variable {reason : String}

theorem takeBack_eq_ok {action : String} {status : PaymentStatus}
    (h : takeBack v org paymentId payment action reason status today s = .ok u s') :
    ∃ ledger, s' = takenBack paymentId payment status today ledger s := by
  simp only [takenBack]
  rw [takeBack, bind_eq_ok] at h
  obtain ⟨_, s₁, hreverse, h⟩ := h
  obtain rfl := modify_eq_ok.mp h
  by_cases hcleared : payment.status = .cleared
  · simp only [runIf, if_pos hcleared] at hreverse ⊢
    rw [modify_bind] at hreverse
    by_cases hjournal : payment.journalEntryId.isSome = true
    · rw [if_pos hjournal, modify_bind, get_bind, bind_eq_ok] at hreverse
      obtain ⟨ledger, s₂, hvat, hset⟩ := hreverse
      obtain ⟨-, rfl⟩ := ofExcept_eq_ok.mp hvat
      obtain rfl := set_eq_ok.mp hset
      exact ⟨ledger, rfl⟩
    · rw [if_neg hjournal] at hreverse
      obtain ⟨-, rfl⟩ := pure_eq_ok.mp hreverse
      exact ⟨s.ledger, rfl⟩
  · simp only [runIf, if_neg hcleared] at hreverse ⊢
    obtain ⟨-, rfl⟩ := pure_eq_ok.mp hreverse
    exact ⟨s₁.ledger, rfl⟩

theorem voidPayment_eq_ok (h : voidPayment v org paymentId reason today s = .ok u s') :
    ∃ payment ledger, s.payments.get? paymentId = some payment ∧
      s' = takenBack paymentId payment .void today ledger s := by
  rw [voidPayment, bind_eq_ok] at h
  obtain ⟨payment, s₁, hfound, h⟩ := h
  obtain ⟨hget, -, rfl⟩ := getPayment_eq_ok hfound
  rw [refuse_bind] at h
  obtain ⟨ledger, hs'⟩ := takeBack_eq_ok h.2
  exact ⟨payment, ledger, hget, hs'⟩

theorem markBounced_eq_ok (h : markBounced v org paymentId reason today s = .ok u s') :
    ∃ payment ledger, s.payments.get? paymentId = some payment ∧
      s' = takenBack paymentId payment .bounced today ledger s := by
  rw [markBounced, bind_eq_ok] at h
  obtain ⟨payment, s₁, hfound, h⟩ := h
  obtain ⟨hget, -, rfl⟩ := getPayment_eq_ok hfound
  rw [refuse_bind] at h
  obtain ⟨ledger, hs'⟩ := takeBack_eq_ok h.2
  exact ⟨payment, ledger, hget, hs'⟩

/-! ### Who cleared -/

theorem isCleared_modify {f : CustomerPayment → CustomerPayment}
    (hget : s.payments.get? paymentId = some payment)
    (hs' : s'.payments = s.payments.modify paymentId f)
    (hstatus : decide ((f payment).status = .cleared) = decide (payment.status = .cleared))
    (k : UUID) : s'.isCleared k = s.isCleared k := by
  by_cases hk : k = paymentId
  · have hget' : s'.payments.get? k = some (f payment) := by
      rw [hs', hk, Table.get?_modify_self, hget, Option.map_some]
    rw [isCleared_eq_of_get? hget', hk, isCleared_eq_of_get? hget, hstatus]
  · exact isCleared_congr (by rw [hs', Table.get?_modify_of_ne hk])

theorem atScale_allocationRows {a : PaymentAllocation} (ha :
    a ∈ allocationRows paymentId allocations) :
    a.paymentId = paymentId ∧ AtScale 6 a.allocatedAmount := by
  obtain ⟨alloc, -, rfl⟩ := List.mem_map.mp ha
  exact ⟨rfl, atScale_halfUp 6 _⟩

theorem isCleared_insert (hpending : payment.status = .pending)
    (hs' : s'.payments = s.payments.insert payment) (k : UUID) :
    s'.isCleared k = s.isCleared k := by
  by_cases hk : k = s.payments.next
  · have hget : s'.payments.get? k = some payment := by
      rw [hs', hk, Table.get?_insert_self]
    rw [isCleared_eq_of_get? hget, hpending, hk, ReceivablesStore.isCleared, Table.get?_next]
    rfl
  · exact isCleared_congr (by rw [hs', Table.get?_insert, if_neg hk])

theorem isCleared_erase (hpending : payment.status = .pending)
    (hget : s.payments.get? paymentId = some payment)
    (hs' : s'.payments = s.payments.erase paymentId) (k : UUID) :
    s'.isCleared k = s.isCleared k := by
  by_cases hk : k = paymentId
  · rw [hk, isCleared_eq_of_get? hget, hpending, ReceivablesStore.isCleared, hs',
      Table.get?_erase, if_pos rfl]
    rfl
  · exact isCleared_congr (by rw [hs', Table.get?_erase, if_neg hk])

/-! ### Coverage -/

theorem coverage_createPayment {paymentNumber : String}
    (hrun : createPayment org paymentNumber input s = .ok paymentId s') :
    s'.coverage = s.coverage := by
  obtain ⟨amounts, whtCodeId, -, -, rfl, rfl⟩ := createPayment_eq_ok hrun
  have hnot : s.isCleared s.payments.next = false := by
    rw [ReceivablesStore.isCleared, Table.get?_next]
    rfl
  exact coverage_append rfl (fun a ha => (atScale_allocationRows ha).1)
    (isCleared_insert rfl rfl) hnot

theorem coverage_updatePayment (hrun : updatePayment org paymentId input s = .ok u s') :
    s'.coverage = s.coverage := by
  obtain ⟨payment, amounts, whtCodeId, hget, hpending, -, -, rfl⟩ := updatePayment_eq_ok hrun
  have hnot : s.isCleared paymentId = false := by
    rw [isCleared_eq_of_get? hget, hpending]
    rfl
  let dropped : ReceivablesStore β := { s with
    payments := s.payments.modify paymentId (changed input amounts whtCodeId)
    allocations := withoutPayment paymentId s.allocations }
  have hcleared : ∀ k, dropped.isCleared k = s.isCleared k := isCleared_modify hget rfl rfl
  have hdropped : dropped.coverage = s.coverage := coverage_withoutPayment rfl hcleared hnot
  have happended : ReceivablesStore.coverage { dropped with
      allocations := dropped.allocations ++ allocationRows paymentId input.allocations } =
        dropped.coverage :=
    coverage_append rfl (fun a ha => (atScale_allocationRows ha).1) (fun k => rfl)
      ((hcleared paymentId).trans hnot)
  exact happended.trans hdropped

theorem coverage_deleteReceipt
    (hrun : deleteReceipt org paymentId s = .ok u s') : s'.coverage = s.coverage := by
  obtain ⟨payment, hget, hpending, rfl⟩ := deleteReceipt_eq_ok hrun
  have hnot : s.isCleared paymentId = false := by
    rw [isCleared_eq_of_get? hget, hpending]
    rfl
  exact coverage_withoutPayment rfl (isCleared_erase hpending hget rfl) hnot

theorem coverage_postPayment {postingDate : Option Date}
    (hrun : postPayment v org paymentId userId postingDate today s = .ok u s')
    (k : UUID) : s'.coverage k = s.coverage k + fromPayment s paymentId k := by
  obtain ⟨payment, result, ledger, hget, -, hpending, -, -, -, hs'⟩ := postPayment_eq_ok hrun
  have hbefore : s.isCleared paymentId = false := by
    rw [isCleared_eq_of_get? hget, hpending]
    rfl
  have hafter : s'.isCleared paymentId = true := by
    rw [ReceivablesStore.isCleared, hs', Table.get?_modify_self, hget]
    rfl
  have hother : ∀ k, k ≠ paymentId → s'.isCleared k = s.isCleared k := by
    intro k hk
    exact isCleared_congr (by rw [hs', Table.get?_modify_of_ne hk])
  exact coverage_of_clears (by rw [hs']) hother hbefore hafter k

theorem coverage_takenBack (today : Date) (ledger : β) {status : PaymentStatus}
    (hget : s.payments.get? paymentId = some payment) (hstatus : status ≠ .cleared) (k : UUID) :
    (takenBack paymentId payment status today ledger s).coverage k =
      s.coverage k - if payment.status = .cleared then fromPayment s paymentId k else 0 := by
  obtain ⟨s', hs'⟩ : ∃ s', s' = takenBack paymentId payment status today ledger s := ⟨_, rfl⟩
  rw [← hs']
  have hallocations : s.allocations = s'.allocations := by rw [hs', takenBack]
  have hafter : s'.isCleared paymentId = false := by
    rw [ReceivablesStore.isCleared, hs', takenBack, Table.get?_modify_self, hget]
    exact decide_eq_false hstatus
  have hother : ∀ k, k ≠ paymentId → s.isCleared k = s'.isCleared k := by
    intro k hk
    exact isCleared_congr (by rw [hs', takenBack, Table.get?_modify_of_ne hk])
  split_ifs with hcleared
  · have hbefore : s.isCleared paymentId = true := by
      rw [isCleared_eq_of_get? hget, hcleared]
      rfl
    -- seen from the store after, the payment clears
    have hclears := coverage_of_clears hallocations hother hafter hbefore k
    have hfrom : fromPayment s' paymentId k = fromPayment s paymentId k := by
      rw [fromPayment, fromPayment, ReceivablesStore.allocationsOf, ReceivablesStore.allocationsOf,
        hallocations]
    rw [hclears, hfrom, add_sub_cancel_right]
  · have hbefore : s.isCleared paymentId = false := by
      rw [isCleared_eq_of_get? hget]
      exact decide_eq_false hcleared
    have hsame : s'.coverage = s.coverage := by
      refine coverage_congr hallocations.symm fun k => ?_
      by_cases hk : k = paymentId
      · rw [hk, hafter, hbefore]
      · exact (hother k hk).symm
    rw [hsame, sub_zero]

/-! ### What is paid stays what covers it -/

namespace Tracked

theorem scale_modify (h : Tracked s) {f : CustomerPayment → CustomerPayment}
    (hf : ∀ p, AtScale 6 p.grossAmount ∧ AtScale 6 p.amount →
      AtScale 6 (f p).grossAmount ∧ AtScale 6 (f p).amount) (k : UUID) (p : CustomerPayment)
    (hp : (s.payments.modify paymentId f).get? k = some p) :
    AtScale 6 p.grossAmount ∧ AtScale 6 p.amount := by
  rw [Table.get?_modify] at hp
  split_ifs at hp
  · obtain ⟨p₀, hp₀, rfl⟩ := Option.map_eq_some_iff.mp hp
    exact hf p₀ (h.paymentScale _ p₀ hp₀)
  · exact h.paymentScale k p hp

theorem createPayment (h : Tracked s) {paymentNumber : String}
    (hrun : createPayment org paymentNumber input s = .ok paymentId s') :
    Tracked s' := by
  have hcoverage := coverage_createPayment hrun
  obtain ⟨amounts, whtCodeId, -, -, rfl, rfl⟩ := createPayment_eq_ok hrun
  refine h.of_coverage_eq rfl (fun a ha => ?_) (fun k p hp => ?_) hcoverage
  · rcases List.mem_append.mp ha with ha | ha
    · exact h.allocationScale a ha
    · exact (atScale_allocationRows ha).2
  · rw [Table.get?_insert] at hp
    split_ifs at hp
    · rw [← Option.some.inj hp]
      exact ⟨atScale_halfUp 6 _, atScale_halfUp 6 _⟩
    · exact h.paymentScale k p hp

theorem updatePayment (h : Tracked s) {u : PUnit}
    (hrun : updatePayment org paymentId input s = .ok u s') : Tracked s' := by
  have hcoverage := coverage_updatePayment hrun
  obtain ⟨payment, amounts, whtCodeId, -, -, -, -, rfl⟩ := updatePayment_eq_ok hrun
  refine h.of_coverage_eq rfl (fun a ha => ?_)
    (h.scale_modify fun p _ => ⟨atScale_halfUp 6 _, atScale_halfUp 6 _⟩) hcoverage
  rcases List.mem_append.mp ha with ha | ha
  · exact h.allocationScale a (List.mem_filter.mp ha).1
  · exact (atScale_allocationRows ha).2

theorem deleteReceipt (h : Tracked s) {u : PUnit}
    (hrun : deleteReceipt org paymentId s = .ok u s') : Tracked s' := by
  have hcoverage := coverage_deleteReceipt hrun
  obtain ⟨payment, -, -, rfl⟩ := deleteReceipt_eq_ok hrun
  refine h.of_coverage_eq rfl (fun a ha => h.allocationScale a (List.mem_filter.mp ha).1)
    (fun k p hp => ?_) hcoverage
  rw [Table.get?_erase] at hp
  split_ifs at hp
  exact h.paymentScale k p hp

theorem postPayment (h : Tracked s) {postingDate : Option Date} {u : PUnit}
    (hrun : postPayment v org paymentId userId postingDate today s = .ok u s') :
    Tracked s' := by
  have hcoverage := coverage_postPayment hrun
  obtain ⟨payment, result, ledger, -, -, -, -, -, -, rfl⟩ := postPayment_eq_ok hrun
  refine h.pay (Or.inl rfl) rfl rfl (h.scale_modify fun p hp => hp) fun k => ?_
  rw [one_mul]
  exact hcoverage k

theorem takenBack (h : Tracked s) {payment : CustomerPayment} {status : PaymentStatus} {ledger : β}
    (hget : s.payments.get? paymentId = some payment) (hstatus : status ≠ .cleared) :
    Tracked (takenBack paymentId payment status today ledger s) := by
  have hcoverage := coverage_takenBack today ledger hget hstatus
  by_cases hcleared : payment.status = .cleared
  · simp only [if_pos hcleared] at hcoverage
    refine h.pay (Or.inr rfl) (if_pos hcleared) rfl (h.scale_modify fun p hp => hp) fun k => ?_
    rw [hcoverage k, neg_one_mul, sub_eq_add_neg]
  · simp only [if_neg hcleared, sub_zero] at hcoverage
    exact h.of_coverage_eq (if_neg hcleared) h.allocationScale (h.scale_modify fun p hp => hp)
      (funext hcoverage)

end Tracked

end DotmacErp.Receivables
