import DotmacErp.Receivables.ReceivableRuns

/-!
# The repair of what is paid

`find_stale_amount_paid` looks for the invoices whose allocations come to more than is paid of them,
and `reconcile_amount_paid` writes the sum of the allocations over what is paid. Neither asks
whether the payments of the allocations cleared.

In every state the payments lead to, what is paid is what the cleared payments allocate. The repair
then finds an invoice exactly when more than dust is allocated to it of payments that did not clear,
or no longer have (`repair_is_idle_iff`): a payment that waits to be posted is enough
(`repair_counts_pending`).
-/

namespace DotmacErp.Receivables

open Calendar Relational Totals

variable {β : Type} {v : PostingServices β} {s : ReceivablesStore β} {org k : UUID}

/-! ### Stale invoices -/

structure Month where
  year : ℕ
  month : ℕ
  valid : 1 ≤ month ∧ month ≤ 12

def Month.start (m : Month) : Date :=
  ⟨m.year, m.month, 1, by
    have hlength := daysInMonth_pos m.year m.month
    have hvalid := m.valid
    omega⟩

def Month.end (m : Month) : Date :=
  if h : m.month = 12 then ⟨m.year + 1, 1, 1, by
    have hlength := daysInMonth_pos (m.year + 1) 1
    omega⟩
  else ⟨m.year, m.month + 1, 1, by
    have hlength := daysInMonth_pos m.year (m.month + 1)
    have hvalid := m.valid
    omega⟩

def excludedStatuses : List InvoiceStatus := [.void, .draft]

structure StaleInvoice where
  invoiceId : UUID
  invoiceNumber : String
  totalAmount : ℚ
  currentAmountPaid : ℚ
  currentStatus : InvoiceStatus
  allocationTotal : ℚ
  dueDate : Date

def StaleInvoice.correction (invoice : StaleInvoice) : ℚ :=
  invoice.allocationTotal - invoice.currentAmountPaid

/-- `alloc_sum`: everything allocated to an invoice. -/
def allocationTotal (s : ReceivablesStore β) (invoiceId : UUID) : ℚ :=
  total PaymentAllocation.allocatedAmount PaymentAllocation.invoiceId invoiceId s.allocations

/-- The invoices that the query looks at. -/
def Examined (org : UUID) (month : Option Month) (invoice : Invoice) : Prop :=
  invoice.organizationId = org ∧ invoice.status ∉ excludedStatuses ∧
    ∀ m ∈ month, m.start ≤ invoice.invoiceDate ∧ invoice.invoiceDate < m.end

instance (org : UUID) (month : Option Month) (invoice : Invoice) :
    Decidable (Examined org month invoice) :=
  inferInstanceAs (Decidable (_ ∧ _ ∧ _))

/-- `find_stale_amount_paid`: the largest correction first. The bounds of the month are taken to
reach the query, where a cast follows them (`:month_start::date`). -/
def findStaleAmountPaid (s : ReceivablesStore β) (org : UUID) (month : Option Month) :
    List StaleInvoice :=
  let rows := (s.invoices.select fun i => decide (Examined org month i)).filter fun r =>
    decide (r.row.amountPaid + paymentDust < allocationTotal s r.id)
  (rows.map fun r => {
    invoiceId := r.id
    invoiceNumber := r.row.invoiceNumber
    totalAmount := r.row.totalAmount
    currentAmountPaid := r.row.amountPaid
    currentStatus := r.row.status
    allocationTotal := allocationTotal s r.id
    dueDate := r.row.dueDate : StaleInvoice }).insertionSort fun a b => b.correction ≤ a.correction

/-! ### The repair -/

structure ReconcileResult where
  examined : ℕ := 0
  updated : ℕ := 0
  totalCorrection : ℚ := 0
  statusChanges : List (String × ℕ) := []

def countUnder (key : String) : List (String × ℕ) → List (String × ℕ)
  | [] => [(key, 1)]
  | (key', n) :: rest =>
    if key' = key then (key', n + 1) :: rest else (key', n) :: countUnder key rest

def StaleInvoice.newStatus (asOf : Date) (invoice : StaleInvoice) : InvoiceStatus :=
  resolvePaymentStatus invoice.totalAmount invoice.allocationTotal invoice.currentStatus
    (some invoice.dueDate) asOf

def writeInvoice (org : UUID) (asOf : Date) (stale : StaleInvoice)
    (invoices : Table Invoice) : Table Invoice :=
  invoices.modify stale.invoiceId fun invoice =>
    if invoice.organizationId = org then
      { invoice with
        amountPaid := amountColumn stale.allocationTotal
        status := stale.newStatus asOf }
    else invoice

/-- The loop over the stale invoices. -/
def reconcileEach (org : UUID) (asOf : Date) (dryRun : Bool) :
    List StaleInvoice → ReconcileResult → ReceivablesStore β →
      ReconcileResult × ReceivablesStore β
  | [], result, s => (result, s)
  | invoice :: rest, result, s =>
    let newStatus := invoice.newStatus asOf
    if invoice.correction ≤ paymentDust ∧ newStatus = invoice.currentStatus then
      reconcileEach org asOf dryRun rest result s
    else
      let key := invoice.currentStatus.value ++ " -> " ++ newStatus.value
      reconcileEach org asOf dryRun rest
        { result with
          updated := result.updated + 1
          totalCorrection := result.totalCorrection + invoice.correction
          statusChanges := if newStatus = invoice.currentStatus then result.statusChanges
            else countUnder key result.statusChanges }
        (if dryRun then s
          else { s with invoices := writeInvoice org asOf invoice s.invoices })

def reconcileAmountPaid (s : ReceivablesStore β) (org : UUID) (month : Option Month)
    (today : Date) (dryRun : Bool) : ReconcileResult × ReceivablesStore β :=
  let stale := findStaleAmountPaid s org month
  reconcileEach org today dryRun stale { examined := stale.length } s

/-! ### What the repair counts -/

def uncleared (s : ReceivablesStore β) (invoiceId : UUID) : ℚ :=
  total (fun a => if s.isCleared a.paymentId then 0 else a.allocatedAmount)
    PaymentAllocation.invoiceId invoiceId s.allocations

theorem allocationTotal_eq (s : ReceivablesStore β) (k : UUID) :
    allocationTotal s k = s.coverage k + uncleared s k := by
  rw [allocationTotal, ReceivablesStore.coverage, uncleared, ← total_add]
  refine total_congr fun a _ => ⟨rfl, ?_⟩
  rw [ReceivablesStore.covering]
  split <;> simp

theorem findStaleAmountPaid_eq_nil {month : Option Month} :
    findStaleAmountPaid s org month = [] ↔
      ∀ k i, s.invoices.get? k = some i → Examined org month i →
        allocationTotal s k ≤ i.amountPaid + paymentDust := by
  have hempty : ∀ l : List StaleInvoice,
      l.insertionSort (fun a b => b.correction ≤ a.correction) = [] ↔ l = [] := by
    intro l
    rw [← List.length_eq_zero_iff, List.length_insertionSort, List.length_eq_zero_iff]
  rw [findStaleAmountPaid, hempty, List.map_eq_nil_iff, List.filter_eq_nil_iff]
  constructor
  · intro h k i hi hexamined
    have hle := h ⟨k, i⟩ (Table.mem_select.mpr ⟨hi, decide_eq_true hexamined⟩)
    exact not_lt.mp fun hlt => hle (decide_eq_true hlt)
  · intro h r hr hlt
    obtain ⟨hget, hexamined⟩ := Table.mem_select.mp hr
    exact absurd (of_decide_eq_true hlt)
      (not_lt.mpr (h r.id r.row hget (of_decide_eq_true hexamined)))

theorem tracked_of_reachable
    (h : (receivableSystem v).ReachableWithin (fun _ op => op.IsOrdinary) s) : Tracked s := by
  refine h.invariant (P := Tracked) (fun s hs => (Unpaid.covered hs).toTracked) ?_
  rintro s op s' hs hop rfl
  exact tracked_after hs hop

/-- **When the repair is idle**: on the books the payments lead to, it finds no invoice and changes
nothing exactly when no more than dust is allocated to an invoice it looks at of payments that did
not clear. -/
theorem repair_is_idle_iff (v : PostingServices β)
    (h : (receivableSystem v).ReachableWithin (fun _ op => op.IsOrdinary) s)
    (org : UUID) (month : Option Month) :
    (findStaleAmountPaid s org month = [] ∧
      ∀ today dryRun, reconcileAmountPaid s org month today dryRun = ({}, s)) ↔
    ∀ k i, s.invoices.get? k = some i → Examined org month i →
      uncleared s k ≤ paymentDust := by
  have htracked := tracked_of_reachable h
  have hfinds : findStaleAmountPaid s org month = [] ↔
      ∀ k i, s.invoices.get? k = some i → Examined org month i →
        uncleared s k ≤ paymentDust := by
    rw [findStaleAmountPaid_eq_nil]
    refine forall_congr' fun k => forall_congr' fun i => forall_congr' fun hi =>
      forall_congr' fun _ => ?_
    rw [allocationTotal_eq, htracked.paid k i hi, add_le_add_iff_left]
  rw [← hfinds]
  refine ⟨fun hidle => hidle.1, fun hnone => ⟨hnone, fun today dryRun => ?_⟩⟩
  rw [reconcileAmountPaid, hnone]
  rfl

/-! ### Two states -/

def onePayment : List ReceivableOperation := [pay 60 [60], clear 0]

theorem isOrdinary_onePayment :
    System.AllowedAlong (fun _ op => op.IsOrdinary) (ReceivableOperation.after countingLedger)
      twoInvoices onePayment := ⟨trivial, trivial, trivial⟩

theorem repair_is_idle_iff_sample :
    findStaleAmountPaid (System.after (ReceivableOperation.after countingLedger) twoInvoices
      onePayment) 9 none = [] := by
  have hrun : (receivableSystem countingLedger).ReachableWithin (fun _ op => op.IsOrdinary)
      (System.after (ReceivableOperation.after countingLedger) twoInvoices onePayment) :=
    System.reachableWithin_after unpaid_twoInvoices isOrdinary_onePayment
  refine ((repair_is_idle_iff countingLedger hrun 9 none).mpr fun k i hi _ => ?_).1
  have hrows : ∀ r ∈ (System.after (ReceivableOperation.after countingLedger) twoInvoices
      onePayment).invoices.rows, uncleared (System.after (ReceivableOperation.after countingLedger)
        twoInvoices onePayment) r.id ≤ paymentDust := by
    decide +kernel
  exact hrows ⟨k, i⟩ (Table.get?_eq_some.mp hi)

/-- **The repair counts a payment that waits**: nothing is paid of the invoice, and the repair
writes that sixty is. -/
theorem repair_counts_pending :
    ¬ ∀ (v : PostingServices ℕ) (s : ReceivablesStore ℕ),
      (receivableSystem v).ReachableWithin (fun _ op => op.IsOrdinary) s →
      ∀ org month, findStaleAmountPaid s org month = [] ∧
        ∀ today dryRun, reconcileAmountPaid s org month today dryRun = ({}, s) := by
  intro h
  have hrun : (receivableSystem countingLedger).ReachableWithin (fun _ op => op.IsOrdinary)
      (System.after (ReceivableOperation.after countingLedger) twoInvoices [pay 60 [60]]) :=
    System.reachableWithin_after unpaid_twoInvoices ⟨trivial, trivial⟩
  have hstale : (findStaleAmountPaid (System.after (ReceivableOperation.after countingLedger)
      twoInvoices [pay 60 [60]]) 9 none).map StaleInvoice.correction = [60] := by
    decide +kernel
  rw [(h countingLedger _ hrun 9 none).1] at hstale
  exact absurd hstale (by simp)

end DotmacErp.Receivables
