import DotmacErp.Receivables.PaymentSteps

/-!
# What the allocators do

One lemma for each call says what it did when it returned, and a rule carries a statement about the
store and what remains of the balance along the loop over the receipts (`applyReceipts_induction`).
Both allocators apply receipts that cleared, and so keep what is paid equal to what covers it.
-/

namespace DotmacErp.Receivables

open Calendar Relational Session Rounding AdvanceAllocationService

variable {β : Type} {s s' : ReceivablesStore β}
  {org customerId paymentId invoiceId : UUID} {receipts : List (UUID × ℚ)}
  {amount remaining : ℚ} {today : Date}

/-! ### Receipts -/

def receive (amount : ℚ) (invoice : Invoice) : Invoice :=
  { invoice with amountPaid := amountColumn (invoice.amountPaid + amount) }

theorem applyReceipt_eq_ok {u : PUnit} (h : applyReceipt invoiceId paymentId amount s = .ok u s') :
    (s.payments.get? paymentId).isSome = true ∧
      (∀ a ∈ s.allocations, a.paymentId = paymentId → a.invoiceId ≠ invoiceId) ∧
      s' = { withAllocation paymentId invoiceId amount s with
        invoices := s.invoices.modify invoiceId (receive amount) } := by
  rw [applyReceipt, bind_eq_ok] at h
  obtain ⟨_, s₁, hadd, h⟩ := h
  obtain ⟨hpayment, -, hunique, rfl⟩ := addAllocation_eq_ok hadd
  exact ⟨hpayment, hunique, modify_eq_ok.mp h⟩

/-- **The loop over the receipts** keeps what one receipt keeps of the store and of the balance
that remains. -/
theorem applyReceipts_induction {P : ReceivablesStore β → ℚ → Prop}
    {result result' : AdvanceAllocationResult}
    (hreceipt : ∀ s s' remaining r u, P s remaining → r ∈ receipts →
      dustThreshold < remaining → dustThreshold ≤ min remaining r.2 →
      applyReceipt invoiceId r.1 (min remaining r.2) s = .ok u s' →
      P s' (remaining - min remaining r.2))
    (h : applyReceipts invoiceId receipts remaining result s = .ok result' s')
    (hs : P s remaining) : ∃ remaining', P s' remaining' := by
  induction receipts generalizing s remaining result with
  | nil =>
    obtain ⟨-, rfl⟩ := pure_eq_ok.mp h
    exact ⟨remaining, hs⟩
  | cons r rest ih =>
    have hrest := fun s s' remaining r' u hP (hr' : r' ∈ rest) =>
      hreceipt s s' remaining r' u hP (List.mem_cons_of_mem r hr')
    rw [applyReceipts] at h
    split_ifs at h with hdust hsmall
    · obtain ⟨-, rfl⟩ := pure_eq_ok.mp h
      exact ⟨remaining, hs⟩
    · exact ih hrest h hs
    · obtain ⟨u, s₁, hone, h⟩ := bind_eq_ok.mp h
      exact ih hrest h (hreceipt s s₁ remaining r u hs List.mem_cons_self (not_le.mp hdust)
        (not_lt.mp hsmall) hone)

theorem applyToInvoice_eq_ok {result : AdvanceAllocationResult}
    (h : applyToInvoice invoiceId today s = .ok result s') :
    s' = s ∨ ∃ invoice applied s₁, s.invoices.get? invoiceId = some invoice ∧
      applyReceipts invoiceId
        (getUnallocatedReceipts s invoice.organizationId invoice.customerId)
        invoice.balanceDue {} s = .ok applied s₁ ∧
      s' = { s₁ with invoices := s₁.invoices.modify invoiceId (applyPaymentStatus today) } := by
  rw [applyToInvoice, get_bind, orRaise_bind] at h
  obtain ⟨invoice, hget, h⟩ := h
  split_ifs at h with hdust
  · exact .inl (pure_eq_ok.mp h).2
  dsimp only at h
  split_ifs at h with hnone
  · exact .inl (pure_eq_ok.mp h).2
  obtain ⟨applied, s₁, hreceipts, h⟩ := bind_eq_ok.mp h
  rw [modify_bind, get_bind] at h
  exact .inr ⟨invoice, applied, s₁, hget, hreceipts, (pure_eq_ok.mp h).2⟩

theorem mem_getUnallocatedReceipts {r : UUID × ℚ}
    (h : r ∈ getUnallocatedReceipts s org customerId) :
    ∃ p, s.payments.get? r.1 = some p ∧ p.status = .cleared ∧
      r.2 = p.grossAmount - s.allocated r.1 := by
  obtain ⟨q, hq, rfl⟩ := List.mem_map.mp h
  rw [List.mem_insertionSort, List.mem_filter, Table.mem_select, decide_eq_true_eq] at hq
  exact ⟨q.row, hq.1.1, hq.1.2.2.2.1, rfl⟩

/-! ### Exact matches -/

theorem allocateCandidate_eq_ok {candidate : MatchCandidate} {done : Bool}
    (h : allocateCandidate candidate today s = .ok done s') :
    s' = s ∨ ∃ invoice, s.invoices.get? candidate.invoiceId = some invoice ∧
      0 < invoice.balanceDue ∧ (s.payments.get? candidate.paymentId).isSome = true ∧
      s' = { withAllocation candidate.paymentId candidate.invoiceId
          (min candidate.paymentAmount invoice.balanceDue) s with
        invoices := s.invoices.modify candidate.invoiceId
          (addPaid today (min candidate.paymentAmount invoice.balanceDue)) } := by
  rw [allocateCandidate, get_bind, orRaise_bind] at h
  obtain ⟨invoice, hget, h⟩ := h
  dsimp only at h
  split_ifs at h with hsettled
  · exact .inl (pure_eq_ok.mp h).2
  rw [bind_eq_ok] at h
  obtain ⟨_, s₁, hadd, h⟩ := h
  obtain ⟨hpayment, -, -, rfl⟩ := addAllocation_eq_ok hadd
  rw [modify_bind] at h
  exact .inr ⟨invoice, hget, not_le.mp hsettled, hpayment, (pure_eq_ok.mp h).2⟩

/-! ### What is paid stays what covers it -/

namespace Tracked

theorem applyPaymentStatus (h : Tracked s) : Tracked { s with
    invoices := s.invoices.modify invoiceId (applyPaymentStatus today) } := by
  refine ⟨fun k i hi => ?_, h.allocationScale, h.paymentScale, fun k i hi => ?_⟩ <;>
    rw [Table.get?_modify] at hi <;> split_ifs at hi
  · obtain ⟨i₀, hi₀, rfl⟩ := Option.map_eq_some_iff.mp hi
    exact h.totalScale _ i₀ hi₀
  · exact h.totalScale k i hi
  · obtain ⟨i₀, hi₀, rfl⟩ := Option.map_eq_some_iff.mp hi
    rename_i hk
    exact hk ▸ h.paid _ i₀ hi₀
  · exact h.paid k i hi

theorem applyToInvoice (h : Tracked s) {result : AdvanceAllocationResult}
    (hrun : applyToInvoice invoiceId today s = .ok result s') : Tracked s' := by
  rcases applyToInvoice_eq_ok hrun with rfl | ⟨invoice, applied, s₁, hget, hreceipts, rfl⟩
  · exact h
  have hbalance : AtScale 6 invoice.balanceDue := (h.totalScale _ _ hget).sub (h.paidScale hget)
  -- the receipts cleared before the loop, which leaves the payments
  have hcleared : ∀ r ∈ getUnallocatedReceipts s invoice.organizationId invoice.customerId,
      s.isCleared r.1 = true ∧ AtScale 6 r.2 := by
    intro r hr
    obtain ⟨p, hp, hstatus, hamount⟩ := mem_getUnallocatedReceipts hr
    rw [isCleared_eq_of_get? hp, hstatus, hamount]
    exact ⟨rfl, (h.paymentScale _ p hp).1.sub (h.allocatedScale _)⟩
  obtain ⟨_, htracked, -⟩ := applyReceipts_induction
    (P := fun s₁ remaining => Tracked s₁ ∧ AtScale 6 remaining ∧ s₁.payments = s.payments)
    (fun s₁ s₂ remaining r u hP hr _ _ hone => by
      obtain ⟨htracked, hscale, hpayments⟩ := hP
      obtain ⟨-, -, rfl⟩ := applyReceipt_eq_ok hone
      have hsame : s₁.isCleared r.1 = s.isCleared r.1 := isCleared_congr (by rw [hpayments])
      have hmin : AtScale 6 (min remaining r.2) := by
        rcases min_choice remaining r.2 with hchoice | hchoice <;> rw [hchoice]
        · exact hscale
        · exact (hcleared r hr).2
      exact ⟨htracked.allocate (hsame.trans (hcleared r hr).1) hmin fun i => ⟨⟨rfl, rfl⟩, rfl⟩,
        hscale.sub hmin, hpayments⟩)
    hreceipts ⟨h, hbalance, rfl⟩
  exact htracked.applyPaymentStatus

end Tracked

end DotmacErp.Receivables
