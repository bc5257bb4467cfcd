import DotmacErp.Receivables.AllocationSteps

/-!
# The limits of coverage

`Covered`: nothing negative is allocated, no more of a payment than its gross amount, and no
standard invoice is covered beyond its total.

No operation looks at all of these limits when it writes. The allocations of a payment are compared
with the balance due when it is created or changed, and with its gross amount before either is
stored; posting compares nothing; a candidate carries the amount of a payment that is not read
again. What each call relies on is stated as a condition on the call and on the state it is made in
(`WithinGross`, `FitsInvoices`, `StillMatches`), and under it every call keeps `Covered`. The
advance allocation relies on nothing: what it allocates, it compares with both limits there and
then.
-/

namespace DotmacErp.Receivables

open Calendar Relational Totals Rounding CustomerPaymentService

variable {β : Type} {v : PostingServices β} {s s' : ReceivablesStore β}
  {org paymentId invoiceId userId : UUID} {input : CustomerPaymentInput} {today : Date}

/-! ### Conditions on calls -/

/-- The amounts of a receipt, as they are stored, cover its allocations, and none is negative. -/
def CustomerPaymentInput.WithinGross (input : CustomerPaymentInput) : Prop :=
  ∀ amounts ∈ (resolveReceiptAmounts input).toOption,
    (∀ a ∈ input.allocations, 0 ≤ amountColumn a.amount) ∧
      (input.allocations.map fun a => amountColumn a.amount).sum ≤ amountColumn amounts.gross

def FitsInvoices (s : ReceivablesStore β) (paymentId : UUID) : Prop :=
  ∀ r ∈ s.invoices.rows, r.row.invoiceType = .standard →
    fromPayment s paymentId r.id ≤ r.row.balanceDue

def MatchCandidate.StillMatches (s : ReceivablesStore β) (candidate : MatchCandidate)
    (amount : ℚ) : Prop :=
  ∃ p ∈ s.payments.get? candidate.paymentId, p.status = .cleared ∧
    p.amount = candidate.paymentAmount ∧ s.allocated candidate.paymentId + amount ≤ p.grossAmount

/-! ### The invariant -/

/-- **Coverage within its limits.** -/
structure Covered (s : ReceivablesStore β) : Prop extends Tracked s where
  nonneg : ∀ a ∈ s.allocations, 0 ≤ a.allocatedAmount
  filed : ∀ a ∈ s.allocations, (s.payments.get? a.paymentId).isSome = true
  within : ∀ k p, s.payments.get? k = some p →
    s.allocated k ≤ p.grossAmount ∧ 0 ≤ p.amount ∧ p.amount ≤ p.grossAmount
  fits : ∀ k i, s.invoices.get? k = some i → i.invoiceType = .standard →
    s.coverage k ≤ i.totalAmount

namespace Covered

theorem coverage_nonneg (h : Covered s) (k : UUID) : 0 ≤ s.coverage k := by
  refine List.sum_nonneg fun q hq => ?_
  obtain ⟨a, ha, rfl⟩ := List.mem_map.mp hq
  rw [ReceivablesStore.covering]
  split
  · exact h.nonneg a (List.mem_filter.mp ha).1
  · exact le_rfl

theorem fromPayment_nonneg (h : Covered s) (paymentId k : UUID) :
    0 ≤ fromPayment s paymentId k := by
  refine List.sum_nonneg fun q hq => ?_
  obtain ⟨a, ha, rfl⟩ := List.mem_map.mp hq
  exact h.nonneg a (List.mem_filter.mp (List.mem_filter.mp ha).1).1

theorem allocated_next (h : Covered s) : s.allocated s.payments.next = 0 := by
  refine total_eq_zero fun a ha hnext => ?_
  have hfiled := h.filed a ha
  rw [hnext, Table.get?_next] at hfiled
  exact absurd hfiled (by simp)

end Covered

/-! ### What is allocated of a payment -/

theorem sum_allocationRows (allocations : List PaymentAllocationInput) (k : UUID) :
    total PaymentAllocation.allocatedAmount PaymentAllocation.paymentId k
        (allocationRows paymentId allocations) =
      if k = paymentId then (allocations.map fun a => amountColumn a.amount).sum else 0 := by
  rw [total_of_forall_eq (g := paymentId) fun a ha => (atScale_allocationRows ha).1,
    allocationRows, List.map_map]
  rfl

theorem allocated_withoutPayment (allocations : List PaymentAllocation) (k : UUID) :
    total PaymentAllocation.allocatedAmount PaymentAllocation.paymentId k
        (withoutPayment paymentId allocations) =
      if k = paymentId then 0
      else total PaymentAllocation.allocatedAmount PaymentAllocation.paymentId k allocations := by
  rw [withoutPayment, total_filter]
  split_ifs with hk
  · refine total_eq_zero_of fun a _ ha => if_neg ?_
    simp [ha, hk]
  · induction allocations with
    | nil => rfl
    | cons a rest ih =>
      rw [total_cons, total_cons, ih]
      by_cases ha : a.paymentId = paymentId
      · have hne : a.paymentId ≠ k := fun heq => hk (heq.symm.trans ha)
        rw [if_neg hne, if_neg hne]
      · simp [ha]

theorem resolveReceiptAmounts_eq_ok {amounts : ReceiptAmounts}
    (h : resolveReceiptAmounts input = .ok amounts) :
    0 ≤ amounts.net ∧ amounts.net ≤ amounts.gross := by
  simp only [resolveReceiptAmounts] at h
  split at h
  · exact absurd h (by simp)
  rename_i hnonneg
  obtain ⟨hnet, hwht⟩ := not_or.mp hnonneg
  split at h
  · obtain rfl := Except.ok.inj h
    exact ⟨not_lt.mp hnet, le_add_of_nonneg_right (not_lt.mp hwht)⟩
  · split at h
    · exact absurd h (by simp)
    rename_i hexpected
    have hle := sub_nonneg.mp (not_lt.mp hexpected)
    split at h
    · obtain rfl := Except.ok.inj h
      exact ⟨not_lt.mp hnet, hle⟩
    split at h
    · exact absurd h (by simp)
    obtain rfl := Except.ok.inj h
    exact ⟨not_lt.mp hnet, hle⟩

theorem CustomerPaymentInput.WithinGross.of_ok (h : input.WithinGross) {amounts : ReceiptAmounts}
    (hamounts : resolveReceiptAmounts input = .ok amounts) :
    (∀ a ∈ input.allocations, 0 ≤ amountColumn a.amount) ∧
      (input.allocations.map fun a => amountColumn a.amount).sum ≤ amountColumn amounts.gross := by
  refine h amounts ?_
  rw [hamounts]
  rfl

/-! ### What the calls keep -/

namespace Covered

theorem of_same_allocations (h : Covered s) (ht : Tracked s')
    {f : CustomerPayment → CustomerPayment} (hallocations : s'.allocations = s.allocations)
    (hpayments : s'.payments = s.payments.modify paymentId f)
    (hf : ∀ p, (f p).grossAmount = p.grossAmount ∧ (f p).amount = p.amount)
    (hinvoices : ∀ k i', s'.invoices.get? k = some i' → i'.invoiceType = .standard →
      s'.coverage k ≤ i'.totalAmount) : Covered s' := by
  refine ⟨ht, hallocations ▸ h.nonneg, fun a ha => ?_, fun k p' hp' => ?_, hinvoices⟩
  · have hfiled := h.filed a (hallocations ▸ ha)
    rw [hpayments, Table.get?_modify]
    split_ifs
    · rw [Option.isSome_map, hfiled]
    · exact hfiled
  · rw [hpayments, Table.get?_modify] at hp'
    rw [ReceivablesStore.allocated, hallocations]
    split_ifs at hp' with hk
    · obtain ⟨p, hp, rfl⟩ := Option.map_eq_some_iff.mp hp'
      rw [(hf p).1, (hf p).2]
      exact h.within k p hp
    · exact h.within k p' hp'

variable {payment : CustomerPayment}

theorem of_rows (h : Covered s) (ht : Tracked s') {allocations : List PaymentAllocation}
    {rows : List PaymentAllocationInput}
    (hkept : ∀ a ∈ allocations, a ∈ s.allocations ∧ a.paymentId ≠ paymentId)
    (hother : ∀ k, k ≠ paymentId →
      total PaymentAllocation.allocatedAmount PaymentAllocation.paymentId k allocations =
        s.allocated k)
    (hnone : total PaymentAllocation.allocatedAmount PaymentAllocation.paymentId paymentId
      allocations = 0)
    (hallocations : s'.allocations = allocations ++ allocationRows paymentId rows)
    (hpayment : s'.payments.get? paymentId = some payment)
    (hothers : ∀ k, k ≠ paymentId → s'.payments.get? k = s.payments.get? k)
    (hrows : ∀ a ∈ rows, 0 ≤ amountColumn a.amount)
    (hgross : (rows.map fun a => amountColumn a.amount).sum ≤ payment.grossAmount)
    (hamounts : 0 ≤ payment.amount ∧ payment.amount ≤ payment.grossAmount)
    (hinvoices : s'.invoices = s.invoices) (hcoverage : s'.coverage = s.coverage) :
    Covered s' := by
  refine ⟨ht, fun a ha => ?_, fun a ha => ?_, fun k p hp => ?_, fun k i hi hstandard => ?_⟩
  · rw [hallocations] at ha
    rcases List.mem_append.mp ha with ha | ha
    · exact h.nonneg a (hkept a ha).1
    · obtain ⟨alloc, halloc, rfl⟩ := List.mem_map.mp ha
      exact hrows alloc halloc
  · rw [hallocations] at ha
    rcases List.mem_append.mp ha with ha | ha
    · rw [hothers _ (hkept a ha).2]
      exact h.filed a (hkept a ha).1
    · rw [(atScale_allocationRows ha).1, hpayment]
      rfl
  · rw [ReceivablesStore.allocated, hallocations, total_append, sum_allocationRows]
    by_cases hk : k = paymentId
    · subst hk
      obtain rfl := Option.mem_unique hpayment hp
      rw [if_pos rfl, hnone, zero_add]
      exact ⟨hgross, hamounts⟩
    · rw [if_neg hk, add_zero, hother k hk]
      exact h.within k p (by rw [← hothers k hk, hp])
  · rw [hcoverage]
    exact h.fits k i (hinvoices ▸ hi) hstandard

theorem createPayment (h : Covered s) {paymentNumber : String} (hinput : input.WithinGross)
    (hrun : createPayment org paymentNumber input s = .ok paymentId s') :
    Covered s' := by
  have ht := h.toTracked.createPayment hrun
  have hcoverage := coverage_createPayment hrun
  obtain ⟨amounts, whtCodeId, hamounts, -, rfl, rfl⟩ := createPayment_eq_ok hrun
  obtain ⟨hrows, hgross⟩ := hinput.of_ok hamounts
  obtain ⟨hnet, hle⟩ := resolveReceiptAmounts_eq_ok hamounts
  refine h.of_rows ht (fun a ha => ⟨ha, fun heq => ?_⟩) (fun k _ => rfl) h.allocated_next rfl
    (Table.get?_insert_self _ _) (fun k hk => ?_) hrows hgross
    ⟨halfUp_nonneg hnet, halfUp_mono hle⟩ rfl hcoverage
  · have hfiled := h.filed a ha
    rw [heq, Table.get?_next] at hfiled
    exact absurd hfiled (by simp)
  · rw [Table.get?_insert, if_neg hk]

variable {u : PUnit}

theorem updatePayment (h : Covered s) (hinput : input.WithinGross)
    (hrun : updatePayment org paymentId input s = .ok u s') : Covered s' := by
  have ht := h.toTracked.updatePayment hrun
  have hcoverage := coverage_updatePayment hrun
  obtain ⟨payment, amounts, whtCodeId, hget, -, hamounts, -, rfl⟩ := updatePayment_eq_ok hrun
  obtain ⟨hrows, hgross⟩ := hinput.of_ok hamounts
  obtain ⟨hnet, hle⟩ := resolveReceiptAmounts_eq_ok hamounts
  have hchanged : (s.payments.modify paymentId (changed input amounts whtCodeId)).get? paymentId =
      some (changed input amounts whtCodeId payment) := by
    rw [Table.get?_modify_self, hget, Option.map_some]
  refine h.of_rows ht (fun a ha => ?_) (fun k hk => ?_) ?_ rfl hchanged (fun k hk => ?_) hrows
    hgross ⟨halfUp_nonneg hnet, halfUp_mono hle⟩ rfl hcoverage
  · obtain ⟨hmem, hne⟩ := List.mem_filter.mp ha
    exact ⟨hmem, of_decide_eq_true hne⟩
  · rw [allocated_withoutPayment, if_neg hk]
    rfl
  · rw [allocated_withoutPayment, if_pos rfl]
  · exact Table.get?_modify_of_ne hk _

theorem deleteReceipt (h : Covered s)
    (hrun : deleteReceipt org paymentId s = .ok u s') : Covered s' := by
  have ht := h.toTracked.deleteReceipt hrun
  have hcoverage := coverage_deleteReceipt hrun
  obtain ⟨payment, -, -, rfl⟩ := deleteReceipt_eq_ok hrun
  refine ⟨ht, fun a ha => h.nonneg a (List.mem_filter.mp ha).1, fun a ha => ?_,
    fun k p hp => ?_, fun k i hi hstandard => ?_⟩
  · obtain ⟨hmem, hne⟩ := List.mem_filter.mp ha
    rw [Table.get?_erase, if_neg (of_decide_eq_true hne)]
    exact h.filed a hmem
  · rw [Table.get?_erase] at hp
    split_ifs at hp with hk
    rw [ReceivablesStore.allocated, allocated_withoutPayment, if_neg hk]
    exact h.within k p hp
  · rw [hcoverage]
    exact h.fits k i hi hstandard

theorem postPayment (h : Covered s) {postingDate : Option Date} (hfits : FitsInvoices s paymentId)
    (hrun : postPayment v org paymentId userId postingDate today s = .ok u s') :
    Covered s' := by
  have ht := h.toTracked.postPayment hrun
  have hcoverage := coverage_postPayment hrun
  obtain ⟨payment, result, ledger, -, -, -, -, -, -, rfl⟩ := postPayment_eq_ok hrun
  refine h.of_same_allocations ht rfl rfl (fun p => ⟨rfl, rfl⟩) fun k i' hi' hstandard => ?_
  obtain ⟨i, hi, hsame⟩ := h.toTracked.get?_paid (Or.inl rfl) hi'
  have howes := hfits ⟨k, i⟩ (Table.get?_eq_some.mp hi) (hsame.invoiceType ▸ hstandard)
  rw [Invoice.balanceDue, h.paid k i hi] at howes
  rw [hcoverage, hsame.totalAmount]
  linarith

theorem takenBack (h : Covered s) {status : PaymentStatus} {ledger : β}
    (hget : s.payments.get? paymentId = some payment) (hstatus : status ≠ .cleared) :
    Covered (takenBack paymentId payment status today ledger s) := by
  have ht : Tracked (Receivables.takenBack paymentId payment status today ledger s) :=
    h.toTracked.takenBack hget hstatus
  refine h.of_same_allocations ht rfl rfl (fun p => ⟨rfl, rfl⟩) fun k i' hi' hstandard => ?_
  have hle : (Receivables.takenBack paymentId payment status today ledger s).coverage k ≤
      s.coverage k := by
    rw [coverage_takenBack today ledger hget hstatus, sub_le_self_iff]
    split
    · exact h.fromPayment_nonneg paymentId k
    · exact le_rfl
  obtain ⟨i, hi, hsame⟩ : ∃ i, s.invoices.get? k = some i ∧ SameInvoice i i' := by
    by_cases hcleared : payment.status = .cleared
    · simp only [Receivables.takenBack, if_pos hcleared] at hi'
      exact h.toTracked.get?_paid (Or.inr rfl) hi'
    · simp only [Receivables.takenBack, if_neg hcleared] at hi'
      exact ⟨i', hi', ⟨rfl, rfl⟩⟩
  rw [hsame.totalAmount]
  exact hle.trans (h.fits k i hi (hsame.invoiceType ▸ hstandard))

theorem allocate (h : Covered s) {amount : ℚ} {f : Invoice → Invoice}
    (hget : s.payments.get? paymentId = some payment) (hcleared : payment.status = .cleared)
    (hscale : AtScale 6 amount) (hnonneg : 0 ≤ amount)
    (hleft : s.allocated paymentId + amount ≤ payment.grossAmount)
    (howed : ∀ i, s.invoices.get? invoiceId = some i → amount ≤ i.balanceDue)
    (hf : ∀ i, SameInvoice i (f i) ∧ (f i).amountPaid = amountColumn (i.amountPaid + amount)) :
    Covered { withAllocation paymentId invoiceId amount s with
      invoices := s.invoices.modify invoiceId f } := by
  have hpaid : s.isCleared paymentId = true := by
    rw [isCleared_eq_of_get? hget, hcleared]
    rfl
  have hcolumn : amountColumn amount = amount := halfUp_of_atScale hscale
  have ht : Tracked { withAllocation paymentId invoiceId amount s with
      invoices := s.invoices.modify invoiceId f } := h.toTracked.allocate hpaid hscale hf
  refine ⟨ht, fun a ha => ?_, fun a ha => ?_, fun k p hp => ?_, fun k i' hi' hstandard => ?_⟩
  · rcases List.mem_append.mp ha with ha | ha
    · exact h.nonneg a ha
    · rw [List.mem_singleton.mp ha, hcolumn]
      exact hnonneg
  · rcases List.mem_append.mp ha with ha | ha
    · exact h.filed a ha
    · rw [List.mem_singleton.mp ha]
      exact Option.isSome_of_mem hget
  · change total _ _ k (s.allocations ++ [_]) ≤ _ ∧ _
    rw [total_append, total_cons, total_nil, add_zero, hcolumn]
    have hold := h.within k p hp
    by_cases hk : paymentId = k
    · subst hk
      obtain rfl := Option.mem_unique hget hp
      rw [if_pos rfl]
      exact ⟨hleft, hold.2⟩
    · rw [if_neg hk, add_zero]
      exact hold
  · have hcoverage := ht.paid k i' hi'
    rw [← hcoverage]
    change (s.invoices.modify invoiceId f).get? k = some i' at hi'
    rw [Table.get?_modify] at hi'
    split_ifs at hi' with hk
    · obtain ⟨i, hi, rfl⟩ := Option.map_eq_some_iff.mp hi'
      have hdue := howed i (hk ▸ hi)
      rw [Invoice.balanceDue] at hdue
      rw [(hf i).2, (hf i).1.totalAmount, amountColumn_add (h.paidScale hi) hscale]
      linarith
    · rw [h.paid k i' hi']
      exact h.fits k i' hi' hstandard

theorem allocateCandidate (h : Covered s) {candidate : MatchCandidate} {done : Bool}
    (hmatches : ∀ invoice ∈ s.invoices.get? candidate.invoiceId, 0 < invoice.balanceDue →
      candidate.StillMatches s (min candidate.paymentAmount invoice.balanceDue))
    (hrun : allocateCandidate candidate today s = .ok done s') : Covered s' := by
  rcases allocateCandidate_eq_ok hrun with rfl | ⟨invoice, hget, howes, -, rfl⟩
  · exact h
  obtain ⟨p, hp, hcleared, hamount, hleft⟩ := hmatches invoice hget howes
  have hscale := h.paymentScale _ p hp
  have hnonneg := (h.within _ p hp).2.1
  rw [hamount] at hscale hnonneg
  refine h.allocate hp hcleared ?_ (le_min hnonneg howes.le) hleft (fun i hi => ?_)
    fun i => ⟨⟨rfl, rfl⟩, rfl⟩
  · rcases min_choice candidate.paymentAmount invoice.balanceDue with hchoice | hchoice <;>
      rw [hchoice]
    · exact hscale.2
    · exact (h.totalScale _ _ hget).sub (h.paidScale hget)
  · obtain rfl := Option.mem_unique hget hi
    exact min_le_right _ _

theorem applyPaymentStatus (h : Covered s) : Covered { s with
    invoices := s.invoices.modify invoiceId (applyPaymentStatus today) } := by
  refine ⟨h.toTracked.applyPaymentStatus, h.nonneg, h.filed, h.within, fun k i' hi' hstandard => ?_⟩
  rw [Table.get?_modify] at hi'
  split_ifs at hi'
  · obtain ⟨i, hi, rfl⟩ := Option.map_eq_some_iff.mp hi'
    exact h.fits k i hi hstandard
  · exact h.fits k i' hi' hstandard

end Covered

/-! ### The advance allocation -/

/-- The loop over the receipts of `s`: the invoice owes what remains, and a receipt not yet applied
to it has left what it had. -/
structure Applying (s : ReceivablesStore β) (invoiceId : UUID) (t : ReceivablesStore β)
    (remaining : ℚ) : Prop where
  covered : Covered t
  payments : t.payments = s.payments
  scale : AtScale 6 remaining
  owes : ∀ i, t.invoices.get? invoiceId = some i → i.balanceDue = remaining
  unused : ∀ k, (∀ a ∈ t.allocations, a.paymentId = k → a.invoiceId ≠ invoiceId) →
    t.allocated k = s.allocated k

theorem Applying.applyReceipt {t t' : ReceivablesStore β} {remaining : ℚ} {customerId : UUID}
    {r : UUID × ℚ} {u : PUnit} (h : Applying s invoiceId t remaining)
    (hr : r ∈ AdvanceAllocationService.getUnallocatedReceipts s org customerId)
    (hamount : dustThreshold ≤ min remaining r.2)
    (hrun : AdvanceAllocationService.applyReceipt invoiceId r.1 (min remaining r.2) t = .ok u t') :
    Applying s invoiceId t' (remaining - min remaining r.2) := by
  obtain ⟨-, hunique, rfl⟩ := applyReceipt_eq_ok hrun
  obtain ⟨p, hp, hcleared, hleft⟩ := mem_getUnallocatedReceipts hr
  have hget : t.payments.get? r.1 = some p := by rw [h.payments, hp]
  have hallocated : t.allocated r.1 = s.allocated r.1 :=
    h.unused r.1 fun a ha heq => hunique a ha heq
  have hscale : AtScale 6 (min remaining r.2) := by
    rcases min_choice remaining r.2 with hchoice | hchoice <;> rw [hchoice]
    · exact h.scale
    · rw [hleft, ← hallocated]
      exact (h.covered.paymentScale _ p hget).1.sub (h.covered.allocatedScale _)
  have hnonneg : 0 ≤ min remaining r.2 :=
    le_trans (by rw [dustThreshold, paymentDust]; norm_num) hamount
  have hwithin : t.allocated r.1 + min remaining r.2 ≤ p.grossAmount := by
    have hle := min_le_right remaining r.2
    rw [hallocated]
    linarith
  refine ⟨h.covered.allocate hget hcleared hscale hnonneg hwithin (fun i hi => ?_)
    fun i => ⟨⟨rfl, rfl⟩, rfl⟩, h.payments, h.scale.sub hscale, fun i' hi' => ?_, fun k hk => ?_⟩
  · rw [h.owes i hi]
    exact min_le_left _ _
  · change (t.invoices.modify invoiceId (receive (min remaining r.2))).get? invoiceId = some i'
      at hi'
    rw [Table.get?_modify_self] at hi'
    obtain ⟨i, hi, rfl⟩ := Option.map_eq_some_iff.mp hi'
    have howes := h.owes i hi
    rw [Invoice.balanceDue] at howes ⊢
    change i.totalAmount - amountColumn (i.amountPaid + min remaining r.2) = _
    rw [amountColumn_add (h.covered.paidScale hi) hscale]
    linarith
  · have hne : r.1 ≠ k := fun heq => hk ⟨r.1, invoiceId, amountColumn (min remaining r.2)⟩
      (List.mem_append_right _ List.mem_cons_self) heq rfl
    change total _ _ k (t.allocations ++ [_]) = _
    rw [total_append, total_cons, total_nil, if_neg hne, add_zero, add_zero]
    exact h.unused k fun a ha => hk a (List.mem_append_left _ ha)

/-- **The advance allocation** stays within the limits by itself. -/
theorem Covered.applyToInvoice (h : Covered s) {result : AdvanceAllocationResult}
    (hrun : AdvanceAllocationService.applyToInvoice invoiceId today s = .ok result s') :
    Covered s' := by
  rcases applyToInvoice_eq_ok hrun with rfl | ⟨invoice, applied, s₁, hget, hreceipts, rfl⟩
  · exact h
  have hstart : Applying s invoiceId s invoice.balanceDue := by
    refine ⟨h, rfl, (h.totalScale _ _ hget).sub (h.paidScale hget), fun i hi => ?_, fun k _ => rfl⟩
    rw [← Option.mem_unique hget hi]
  obtain ⟨_, hend⟩ := applyReceipts_induction
    (fun t t' remaining r u happlying hr _ hamount hone => happlying.applyReceipt hr hamount hone)
    hreceipts hstart
  exact hend.covered.applyPaymentStatus

end DotmacErp.Receivables
