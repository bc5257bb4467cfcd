import DotmacErp.Foundation.Selections
import DotmacErp.Sales.SalesOrders

/-!
# What the calls on a sales order leave

Each call that returns found its order in a status it is for. A shipment only adds to what is
shipped of lines of its order, up to what was ordered (`shipLines_eq_ok`); an invoice adds to what
is invoiced the requested quantities of each line (`modifyAll_invoiceLine`). Lines of other orders
stay as they are.
-/

namespace DotmacErp.Sales

open Relational Session Table Rounding Totals SalesOrderService

variable {s s' : SalesStore} {soId : UUID} {org : Option UUID}

/-! ### Loading -/

theorem loadOrder_bind {α : Type} {f : SalesOrder → SalesSession α} {a : α} :
    (loadOrder soId org >>= f) s = .ok a s' ↔
      ∃ so, s.orders.get? soId = some so ∧
        (¬ ∃ organization ∈ org, so.organizationId ≠ organization) ∧
          f so s = .ok a s' := by
  rw [loadOrder, bind_assoc, get_bind, bind_assoc, orRaise_bind]
  refine exists_congr fun so => and_congr_right fun _ => ?_
  rw [bind_assoc, refuse_bind]
  rfl

/-! ### Lines -/

structure SalesOrderLine.Bounded (l : SalesOrderLine) : Prop where
  invoiced : 0 ≤ l.quantityInvoiced
  shipped : l.quantityInvoiced ≤ l.quantityShipped
  ordered : l.quantityShipped ≤ l.quantityOrdered

structure SalesOrderLine.Scaled (l : SalesOrderLine) : Prop where
  ordered : AtScale 4 l.quantityOrdered
  shipped : AtScale 4 l.quantityShipped
  invoiced : AtScale 4 l.quantityInvoiced

variable {l : SalesOrderLine}

theorem SalesOrderLine.Scaled.stored_eq (h : l.Scaled) : l.stored = l := by
  rw [SalesOrderLine.stored, halfUp_of_atScale h.shipped, halfUp_of_atScale h.invoiced]

theorem SalesOrderLine.Bounded.stored (h : l.Bounded)
    (hordered : AtScale 4 l.quantityOrdered) : l.stored.Bounded := by
  refine ⟨halfUp_nonneg h.invoiced, halfUp_mono h.shipped, ?_⟩
  exact (halfUp_mono h.ordered).trans (halfUp_of_atScale hordered).le

structure ShippedMore (soId : UUID) (l l' : SalesOrderLine) : Prop where
  order : l'.soId = l.soId
  ordered : l'.quantityOrdered = l.quantityOrdered
  invoiced : l'.quantityInvoiced = l.quantityInvoiced
  more : l.quantityShipped ≤ l'.quantityShipped
  within : l.quantityShipped ≤ l.quantityOrdered → l'.quantityShipped ≤ l.quantityOrdered
  others : l.soId ≠ soId → l' = l

theorem ShippedMore.refl (l : SalesOrderLine) : ShippedMore soId l l :=
  ⟨rfl, rfl, rfl, le_rfl, id, fun _ => rfl⟩

theorem ShippedMore.trans {l' l'' : SalesOrderLine} (h : ShippedMore soId l l')
    (h' : ShippedMore soId l' l'') : ShippedMore soId l l'' := by
  refine ⟨h'.order.trans h.order, h'.ordered.trans h.ordered, h'.invoiced.trans h.invoiced,
    h.more.trans h'.more, fun hle => ?_, fun hne => ?_⟩
  · rw [← h.ordered]
    exact h'.within (by rw [h.ordered]; exact h.within hle)
  · exact (h'.others (h.order ▸ hne)).trans (h.others hne)

variable {u : PUnit}

/-- **The lines of a shipment**: each is shipped more, within what was ordered. -/
theorem shipLines_eq_ok {shipmentId : UUID} {requests : List LineQuantity}
    (hpos : ∀ q ∈ requests, 0 < q.quantity) (h : shipLines soId shipmentId requests s = .ok u s') :
    ∃ f : Stored SalesOrderLine → SalesOrderLine,
      s' = { s with shipmentLines := s'.shipmentLines, lines := s.lines.mapRows f } ∧
        ∀ r ∈ s.lines.rows, ShippedMore soId r.row (f r) := by
  induction requests generalizing s with
  | nil =>
    obtain ⟨-, rfl⟩ := pure_eq_ok.mp h
    exact ⟨Stored.row, by rw [mapRows_row], fun r _ => ShippedMore.refl r.row⟩
  | cons requested rest ih =>
    rw [shipLines, get_bind, orRaise_bind] at h
    obtain ⟨line, hline, h⟩ := h
    obtain ⟨horder, h⟩ := refuse_bind.mp h
    obtain ⟨hremaining, h⟩ := refuse_bind.mp h
    obtain ⟨_, s₁, hset, hrest⟩ := bind_eq_ok.mp h
    obtain ⟨f, hs', hf⟩ := ih (fun q hq => hpos q (List.mem_cons_of_mem _ hq)) hrest
    obtain rfl := set_eq_ok.mp hset
    have hquantity := hpos requested List.mem_cons_self
    set g : Stored SalesOrderLine → SalesOrderLine := fun r =>
      if r.id = requested.lineId then ship requested.quantity r.row else r.row with hg
    have hmapped : s.lines.modify requested.lineId (ship requested.quantity) = s.lines.mapRows g :=
      modify_eq_mapRows
    refine ⟨fun r => f ⟨r.id, g r⟩, ?_, fun r hr => ?_⟩
    · rw [hs', hmapped, mapRows_mapRows]
    · have hmem : (⟨r.id, g r⟩ : Stored SalesOrderLine) ∈
          (s.lines.modify requested.lineId (ship requested.quantity)).rows := by
        rw [hmapped]
        exact List.mem_map.mpr ⟨r, hr, rfl⟩
      refine ShippedMore.trans ?_ (hf _ hmem)
      by_cases hid : r.id = requested.lineId
      · have hrow : r.row = line := by
          have hget := get?_of_mem hr
          rw [hid, hline] at hget
          exact (Option.some.inj hget).symm
        have hthis : g r = ship requested.quantity r.row := if_pos hid
        rw [hthis]
        rw [← hrow] at horder hremaining
        refine ⟨rfl, rfl, rfl, ?_, fun _ => ?_, fun hne => absurd (not_not.mp horder) hne⟩
        · exact le_add_of_nonneg_right hquantity.le
        · have hle := not_lt.mp hremaining
          exact le_sub_iff_add_le'.mp hle
      · have hthis : g r = r.row := if_neg hid
        rw [hthis]
        exact ShippedMore.refl r.row

/-- **The quantities of an invoice**, line by line. -/
theorem modifyAll_invoiceLine (t : Table SalesOrderLine) (changes : List (UUID × ℚ)) :
    t.modifyAll invoiceLine changes =
      t.mapRows fun r => invoiceLine (total Prod.snd Prod.fst r.id changes) r.row := by
  refine modifyAll_eq_mapRows (fun l => ?_) (fun p q l => ?_) changes
  · rw [invoiceLine, add_zero]
  · rw [invoiceLine, invoiceLine, invoiceLine, add_assoc]

def chosenLines (s : SalesStore) (soId : UUID) (lineQuantities : List LineQuantity) :
    List (Stored SalesOrderLine × ℚ) :=
  if lineQuantities = [] then openLines s soId
  else lineQuantities.filterMap fun requested =>
    ((s.lines.get? requested.lineId).filter fun line => decide (line.soId = soId)).map fun line =>
      (⟨requested.lineId, line⟩, requested.quantity)

theorem requestedLines_eq_ok {requests : List LineQuantity}
    {lines : List (Stored SalesOrderLine × ℚ)} {s₀ : SalesStore}
    (h : requestedLines s₀ soId requests s = .ok lines s') :
    s' = s ∧ lines = requests.filterMap fun requested =>
      ((s₀.lines.get? requested.lineId).filter fun line => decide (line.soId = soId)).map
        fun line => (⟨requested.lineId, line⟩, requested.quantity) := by
  induction requests generalizing lines with
  | nil =>
    obtain ⟨rfl, rfl⟩ := pure_eq_ok.mp h
    exact ⟨rfl, rfl⟩
  | cons requested rest ih =>
    rw [requestedLines] at h
    rw [List.filterMap_cons]
    cases hline : s₀.lines.get? requested.lineId with
    | none =>
      rw [hline] at h
      exact ih h
    | some line =>
      rw [hline] at h
      by_cases horder : line.soId = soId
      · simp only [horder, if_true] at h
        obtain ⟨-, h⟩ := refuse_bind.mp h
        obtain ⟨others, s₁, hothers, hpure⟩ := bind_eq_ok.mp h
        obtain ⟨rfl, rfl⟩ := pure_eq_ok.mp hpure
        obtain ⟨rfl, rfl⟩ := ih hothers
        exact ⟨rfl, by simp [Option.filter, horder]⟩
      · simp only [horder, if_false] at h
        obtain ⟨rfl, rfl⟩ := ih h
        exact ⟨rfl, by simp [Option.filter, horder]⟩

variable {lineQuantities : List LineQuantity}

theorem linesToInvoice_eq_ok {s₀ : SalesStore} {lines : List (Stored SalesOrderLine × ℚ)}
    (h : linesToInvoice s₀ soId lineQuantities s = .ok lines s') :
    s' = s ∧ lines = chosenLines s₀ soId lineQuantities := by
  rw [linesToInvoice] at h
  rw [chosenLines]
  split_ifs at h ⊢ with hall
  · obtain ⟨rfl, rfl⟩ := pure_eq_ok.mp h
    exact ⟨rfl, rfl⟩
  · exact requestedLines_eq_ok h

theorem mem_chosenLines {line : Stored SalesOrderLine × ℚ}
    (h : line ∈ chosenLines s soId lineQuantities) :
    s.lines.get? line.1.id = some line.1.row ∧ line.1.row.soId = soId := by
  rw [chosenLines] at h
  split_ifs at h with hall
  · obtain ⟨r, hr, rfl⟩ := List.mem_map.mp h
    obtain ⟨hget, horder⟩ := mem_select.mp (List.mem_of_mem_filter hr)
    exact ⟨hget, of_decide_eq_true horder⟩
  · obtain ⟨requested, -, hline⟩ := List.mem_filterMap.mp h
    obtain ⟨l, hl, rfl⟩ := Option.map_eq_some_iff.mp hline
    obtain ⟨hget, horder⟩ := Option.filter_eq_some_iff.mp hl
    exact ⟨hget, of_decide_eq_true horder⟩

/-! ### Calls -/

/-- **A shipment.** -/
theorem createShipment_eq_ok {k : UUID} (hpos : ∀ q ∈ lineQuantities, 0 < q.quantity)
    (h : createShipment soId lineQuantities org s = .ok k s') :
    ∃ (so : SalesOrder) (f : Stored SalesOrderLine → SalesOrderLine),
      s.orders.get? soId = some so ∧ (so.status = .confirmed ∨ so.status = .inProgress) ∧
      (∀ r ∈ s.lines.rows, ShippedMore soId r.row (f r)) ∧
      s'.lines = s.lines.mapRows (fun r => (f r).stored) ∧
      s'.orders = s.orders.modify soId
        (afterShipment ({ s with lines := s.lines.mapRows f }.isFullyShipped soId)) ∧
      s'.invoices = s.invoices := by
  rw [createShipment] at h
  obtain ⟨so, hso, -, h⟩ := loadOrder_bind.mp h
  obtain ⟨hstatus, h⟩ := refuse_bind.mp h
  rw [get_bind] at h
  obtain ⟨_, s₁, hset, h⟩ := bind_eq_ok.mp h
  obtain rfl := set_eq_ok.mp hset
  obtain ⟨_, s₂, hship, h⟩ := bind_eq_ok.mp h
  obtain ⟨f, hs₂, hf⟩ := shipLines_eq_ok hpos hship
  rw [modify_bind] at h
  obtain ⟨-, rfl⟩ := pure_eq_ok.mp h
  refine ⟨so, f, hso, by simpa using not_not.mp hstatus, hf, ?_, ?_, ?_⟩
  · rw [hs₂]
    exact mapRows_mapRows
  · rw [hs₂]
    rfl
  · rw [hs₂]
    rfl

/-- **An invoice.** -/
theorem createInvoiceFromSo_eq_ok {accepts : SalesInvoice → Bool} {k : UUID}
    (h : createInvoiceFromSo accepts soId lineQuantities org s = .ok k s') :
    ∃ (so : SalesOrder) (complete : Bool), s.orders.get? soId = some so ∧
      (so.status = .inProgress ∨ so.status = .shipped ∨ so.status = .completed) ∧
      s'.lines = s.lines.mapRows (fun r => (invoiceLine (total Prod.snd Prod.fst r.id
        (quantitiesOf (chosenLines s soId lineQuantities))) r.row).stored) ∧
      s'.orders = s.orders.modify soId (afterInvoice
        (salesInvoice soId so (chosenLines s soId lineQuantities)).totalAmount complete) ∧
      s'.invoices = s.invoices.insert
        (SalesInvoice.stored (salesInvoice soId so (chosenLines s soId lineQuantities))) := by
  rw [createInvoiceFromSo] at h
  obtain ⟨so, hso, -, h⟩ := loadOrder_bind.mp h
  obtain ⟨hstatus, h⟩ := refuse_bind.mp h
  rw [get_bind] at h
  obtain ⟨lines, s₁, hlines, h⟩ := bind_eq_ok.mp h
  obtain ⟨rfl, rfl⟩ := linesToInvoice_eq_ok hlines
  obtain ⟨-, h⟩ := refuse_bind.mp h
  obtain ⟨-, h⟩ := refuse_bind.mp h
  obtain ⟨_, s₂, hset, hpure⟩ := bind_eq_ok.mp h
  obtain ⟨-, rfl⟩ := pure_eq_ok.mp hpure
  obtain rfl := set_eq_ok.mp hset
  refine ⟨so, _, hso, by simpa using not_not.mp hstatus, ?_, rfl, rfl⟩
  rw [storeLines, modifyAll_invoiceLine]
  exact mapRows_mapRows

variable {organization : UUID}

theorem cancel_eq_ok {reason : Option String} (h : cancel soId organization reason s = .ok u s') :
    s' = { s with
      orders := s.orders.modify soId fun so => { so with
        status := .cancelled
        cancelledAt := true
        cancellationReason := reason }
      lines := s.lines.update (fun l => decide (l.soId = soId)) fun l =>
        { l with fulfillmentStatus := .cancelled } } := by
  rw [cancel] at h
  obtain ⟨so, -, -, h⟩ := loadOrder_bind.mp h
  obtain ⟨-, h⟩ := refuse_bind.mp h
  rw [get_bind] at h
  obtain ⟨-, h⟩ := refuse_bind.mp h
  exact set_eq_ok.mp h

theorem hold_eq_ok (h : hold soId organization s = .ok u s') :
    ∃ so, s.orders.get? soId = some so ∧ so.status ≠ .completed ∧ so.status ≠ .cancelled ∧
      s' = { s with orders := s.orders.modify soId fun so =>
        { so with status := .onHold, heldFrom := some so.status } } := by
  rw [hold] at h
  obtain ⟨so, hso, -, h⟩ := loadOrder_bind.mp h
  obtain ⟨hstatus, h⟩ := refuse_bind.mp h
  have hboth : so.status ≠ .completed ∧ so.status ≠ .cancelled := by simpa using hstatus
  exact ⟨so, hso, hboth.1, hboth.2, modify_eq_ok.mp h⟩

theorem releaseHold_eq_ok (h : releaseHold soId organization s = .ok u s') :
    ∃ so, s.orders.get? soId = some so ∧ so.status = .onHold ∧
      s' = { s with orders := s.orders.modify soId fun so =>
        { so with status := releasedStatus s soId so } } := by
  rw [releaseHold] at h
  obtain ⟨so, hso, -, h⟩ := loadOrder_bind.mp h
  obtain ⟨hstatus, h⟩ := refuse_bind.mp h
  exact ⟨so, hso, not_not.mp hstatus, modify_eq_ok.mp h⟩

end DotmacErp.Sales
