import DotmacErp.Foundation.Rounding
import DotmacErp.Foundation.Session
import DotmacErp.GL.Models

/-!
# Sales orders

The store and the calls of `SalesOrderService` that ship, invoice, hold and cancel an order. A
shipment adds to what is shipped of its lines, one requested quantity after another; an invoice
adds to what is invoiced, once all of its quantities were compared with what was shipped and not
yet invoiced. Amounts of a call are exact until it is over, when the columns take four decimals, and
six those of an invoice.

What the mapped classes of an invoice take of what they are given is a parameter of the call that
makes one. Reservations of stock, hooks, users, dates and addresses are left out. The order an
invoice is for, and the status an order was held from, are kept for reference: no column holds them.
-/

namespace DotmacErp.Sales

open Relational Session Rounding

/-! ### Rows -/

inductive SOStatus where
  | draft
  | submitted
  | approved
  | confirmed
  | inProgress
  | shipped
  | completed
  | cancelled
  | onHold
  deriving DecidableEq

def SOStatus.value : SOStatus → String
  | draft => "DRAFT"
  | submitted => "SUBMITTED"
  | approved => "APPROVED"
  | confirmed => "CONFIRMED"
  | inProgress => "IN_PROGRESS"
  | shipped => "SHIPPED"
  | completed => "COMPLETED"
  | cancelled => "CANCELLED"
  | onHold => "ON_HOLD"

inductive FulfillmentStatus where
  | pending
  | partiallyFulfilled
  | fulfilled
  | backordered
  | cancelled

/-- `SalesOrder`, with the status it was held from. -/
structure SalesOrder where
  organizationId : UUID
  customerId : UUID
  invoicedAmount : ℚ := 0
  status : SOStatus
  approvedAt : Bool
  confirmedAt : Bool
  completedAt : Bool := false
  cancelledAt : Bool := false
  cancellationReason : Option String := none
  heldFrom : Option SOStatus := none

structure SalesOrderLine where
  soId : UUID
  lineNumber : ℕ
  quantityOrdered : ℚ
  quantityShipped : ℚ := 0
  quantityInvoiced : ℚ := 0
  unitPrice : ℚ
  discountAmount : ℚ := 0
  taxAmount : ℚ := 0
  fulfillmentStatus : FulfillmentStatus := .pending

structure Shipment where
  organizationId : UUID
  soId : UUID

structure ShipmentLine where
  shipmentId : UUID
  soLineId : UUID
  quantityShipped : ℚ
  lotNumber : Option String
  serialNumber : Option String

/-- `InvoiceLine`, as an order fills it. -/
structure SalesInvoiceLine where
  lineNumber : ℕ
  quantity : ℚ
  unitPrice : ℚ
  discountAmount : ℚ
  taxAmount : ℚ
  lineTotal : ℚ

/-- `Invoice`, as an order fills it, with the order it is for. -/
structure SalesInvoice where
  soId : UUID
  organizationId : UUID
  customerId : UUID
  subtotal : ℚ
  discountAmount : ℚ
  taxAmount : ℚ
  totalAmount : ℚ
  lines : List SalesInvoiceLine

/-- Sales orders with their lines, shipments and invoices. -/
structure SalesStore where
  orders : Table SalesOrder
  lines : Table SalesOrderLine
  shipments : Table Shipment
  shipmentLines : Table ShipmentLine
  invoices : Table SalesInvoice

/-- What a call raises. -/
inductive SalesError where
  | valueError (message : String)
  | typeError (message : String)

abbrev SalesSession (α : Type) := Session SalesError SalesStore α

def SalesStore.linesOf (s : SalesStore) (soId : UUID) : List (Stored SalesOrderLine) :=
  s.lines.select fun l => decide (l.soId = soId)

def SalesStore.isFullyShipped (s : SalesStore) (soId : UUID) : Bool :=
  (s.linesOf soId).all fun r => decide (r.row.quantityOrdered ≤ r.row.quantityShipped)

def SalesStore.isFullyInvoiced (s : SalesStore) (soId : UUID) : Bool :=
  (s.linesOf soId).all fun r => decide (r.row.quantityOrdered ≤ r.row.quantityInvoiced)

def SalesOrderLine.stored (l : SalesOrderLine) : SalesOrderLine :=
  { l with
    quantityShipped := halfUp 4 l.quantityShipped
    quantityInvoiced := halfUp 4 l.quantityInvoiced }

structure LineQuantity where
  lineId : UUID
  quantity : ℚ
  lotNumber : Option String := none
  serialNumber : Option String := none

namespace SalesOrderService

/-! ### Shipping -/

def loadOrder (soId : UUID) (org : Option UUID) : SalesSession SalesOrder := do
  let s ← get
  let so ← orRaise (s.orders.get? soId) (.valueError "Sales order not found")
  refuse (∃ organization ∈ org, so.organizationId ≠ organization)
    (.valueError "Sales order not found")
  pure so

def ship (quantity : ℚ) (l : SalesOrderLine) : SalesOrderLine :=
  { l with
    quantityShipped := l.quantityShipped + quantity
    fulfillmentStatus :=
      if l.quantityOrdered ≤ l.quantityShipped + quantity then .fulfilled
      else if 0 < l.quantityShipped + quantity then .partiallyFulfilled
      else l.fulfillmentStatus }

def shipLines (soId shipmentId : UUID) : List LineQuantity → SalesSession PUnit
  | [] => pure ⟨⟩
  | requested :: rest => do
    let s ← get
    let line ← orRaise (s.lines.get? requested.lineId)
      (.valueError ("Invalid line: " ++ toString requested.lineId))
    refuse (line.soId ≠ soId) (.valueError ("Invalid line: " ++ toString requested.lineId))
    let remaining := line.quantityOrdered - line.quantityShipped
    refuse (remaining < requested.quantity)
      (.valueError ("Cannot ship " ++ fixedText 4 requested.quantity ++ " for line " ++
        toString line.lineNumber ++ ", only " ++ fixedText 4 remaining ++ " remaining"))
    set { s with
      shipmentLines := s.shipmentLines.insert {
        shipmentId
        soLineId := requested.lineId
        quantityShipped := halfUp 4 requested.quantity
        lotNumber := requested.lotNumber
        serialNumber := requested.serialNumber }
      lines := s.lines.modify requested.lineId (ship requested.quantity) }
    shipLines soId shipmentId rest

def storeLines (s : SalesStore) : SalesStore :=
  { s with lines := s.lines.mapRows fun r => r.row.stored }

def afterShipment (fullyShipped : Bool) (so : SalesOrder) : SalesOrder :=
  { so with status := if fullyShipped then .shipped else .inProgress }

def createShipment (soId : UUID) (lineQuantities : List LineQuantity)
    (org : Option UUID) : SalesSession UUID := do
  let so ← loadOrder soId org
  refuse (so.status ∉ [SOStatus.confirmed, SOStatus.inProgress])
    (.valueError ("Cannot ship SO in " ++ so.status.value ++ " status"))
  let s ← get
  set { s with shipments := s.shipments.insert { organizationId := so.organizationId, soId } }
  shipLines soId s.shipments.next lineQuantities
  modify fun s => storeLines { s with
    orders := s.orders.modify soId (afterShipment (s.isFullyShipped soId)) }
  pure s.shipments.next

/-! ### Invoicing -/

def available (l : SalesOrderLine) : ℚ := l.quantityShipped - l.quantityInvoiced

def requestedLines (s : SalesStore) (soId : UUID) :
    List LineQuantity → SalesSession (List (Stored SalesOrderLine × ℚ))
  | [] => pure []
  | requested :: rest =>
    match s.lines.get? requested.lineId with
    | none => requestedLines s soId rest
    | some line =>
      if line.soId = soId then do
        refuse (available line < requested.quantity)
          (.valueError ("Cannot invoice " ++ fixedText 4 requested.quantity ++ " for line " ++
            toString line.lineNumber ++ ", only " ++ fixedText 4 (available line) ++
            " shipped and not yet invoiced"))
        let others ← requestedLines s soId rest
        pure ((⟨requested.lineId, line⟩, requested.quantity) :: others)
      else requestedLines s soId rest

def openLines (s : SalesStore) (soId : UUID) : List (Stored SalesOrderLine × ℚ) :=
  ((s.linesOf soId).filter fun r => decide (0 < available r.row)).map fun r =>
    (r, available r.row)

def linesToInvoice (s : SalesStore) (soId : UUID) (lineQuantities : List LineQuantity) :
    SalesSession (List (Stored SalesOrderLine × ℚ)) :=
  if lineQuantities = [] then pure (openLines s soId) else requestedLines s soId lineQuantities

def quantitiesOf (lines : List (Stored SalesOrderLine × ℚ)) : List (UUID × ℚ) :=
  lines.map fun line => (line.1.id, line.2)

def ratio (l : SalesOrderLine) (quantity : ℚ) : ℚ :=
  if l.quantityOrdered = 0 then 1 else quantity / l.quantityOrdered

def salesInvoice (soId : UUID) (so : SalesOrder) (lines : List (Stored SalesOrderLine × ℚ)) :
    SalesInvoice :=
  let subtotal := (lines.map fun (r, quantity) => quantity * r.row.unitPrice).sum
  let discount := (lines.map fun (r, quantity) =>
    r.row.discountAmount * ratio r.row quantity).sum
  let tax := (lines.map fun (r, quantity) => r.row.taxAmount * ratio r.row quantity).sum
  { soId
    organizationId := so.organizationId
    customerId := so.customerId
    subtotal := subtotal
    discountAmount := discount
    taxAmount := tax
    totalAmount := subtotal - discount + tax
    lines := (lines.zipIdx 1).map fun ((r, quantity), lineNumber) =>
      { lineNumber
        quantity
        unitPrice := r.row.unitPrice
        discountAmount := r.row.discountAmount * ratio r.row quantity
        taxAmount := r.row.taxAmount * ratio r.row quantity
        lineTotal := quantity * r.row.unitPrice - r.row.discountAmount * ratio r.row quantity +
          r.row.taxAmount * ratio r.row quantity } }

def SalesInvoice.stored (invoice : SalesInvoice) : SalesInvoice :=
  { invoice with
    subtotal := halfUp 6 invoice.subtotal
    discountAmount := halfUp 6 invoice.discountAmount
    taxAmount := halfUp 6 invoice.taxAmount
    totalAmount := halfUp 6 invoice.totalAmount
    lines := invoice.lines.map fun l => { l with
      quantity := halfUp 6 l.quantity
      unitPrice := halfUp 6 l.unitPrice
      discountAmount := halfUp 6 l.discountAmount
      taxAmount := halfUp 6 l.taxAmount
      lineTotal := halfUp 6 l.lineTotal } }

def invoiceLine (quantity : ℚ) (l : SalesOrderLine) : SalesOrderLine :=
  { l with quantityInvoiced := l.quantityInvoiced + quantity }

def afterInvoice (totalAmount : ℚ) (complete : Bool) (so : SalesOrder) : SalesOrder :=
  { so with
    invoicedAmount := halfUp 4 (so.invoicedAmount + totalAmount)
    status := if complete then .completed else so.status
    completedAt := so.completedAt || complete }

def createInvoiceFromSo (accepts : SalesInvoice → Bool) (soId : UUID)
    (lineQuantities : List LineQuantity) (org : Option UUID) : SalesSession UUID := do
  let so ← loadOrder soId org
  refuse (so.status ∉ [SOStatus.inProgress, SOStatus.shipped, SOStatus.completed])
    (.valueError ("Cannot invoice SO in " ++ so.status.value ++ " status"))
  let s ← get
  let lines ← linesToInvoice s soId lineQuantities
  refuse (lines = []) (.valueError "No lines to invoice")
  let invoice := salesInvoice soId so lines
  refuse (accepts invoice = false) (.typeError "invalid keyword argument for Invoice")
  let invoiced := { s with
    invoices := s.invoices.insert (SalesInvoice.stored invoice)
    lines := s.lines.modifyAll invoiceLine (quantitiesOf lines) }
  set (storeLines { invoiced with
    orders := invoiced.orders.modify soId (afterInvoice invoice.totalAmount
      (invoiced.isFullyInvoiced soId && invoiced.isFullyShipped soId)) })
  pure s.invoices.next

/-! ### Holding and cancelling -/

def cancel (soId org : UUID) (reason : Option String) : SalesSession PUnit := do
  let so ← loadOrder soId (some org)
  refuse (so.status ∈ [SOStatus.shipped, SOStatus.completed])
    (.valueError ("Cannot cancel SO in " ++ so.status.value ++ " status"))
  let s ← get
  refuse ((s.shipments.find? fun shipment => decide (shipment.soId = soId)).isSome)
    (.valueError "Cannot cancel SO with existing shipments")
  set { s with
    orders := s.orders.modify soId fun so => { so with
      status := .cancelled
      cancelledAt := true
      cancellationReason := reason }
    lines := s.lines.update (fun l => decide (l.soId = soId)) fun l =>
      { l with fulfillmentStatus := .cancelled } }

def hold (soId org : UUID) : SalesSession PUnit := do
  let so ← loadOrder soId (some org)
  refuse (so.status ∈ [SOStatus.completed, SOStatus.cancelled])
    (.valueError ("Cannot hold SO in " ++ so.status.value ++ " status"))
  modify fun s => { s with
    orders := s.orders.modify soId fun so =>
      { so with status := .onHold, heldFrom := some so.status } }

def releasedStatus (s : SalesStore) (soId : UUID) (so : SalesOrder) : SOStatus :=
  if s.isFullyShipped soId then .shipped
  else if (s.linesOf soId).any fun r => decide (0 < r.row.quantityShipped) then .inProgress
  else if so.confirmedAt then .confirmed
  else if so.approvedAt then .approved
  else .submitted

def releaseHold (soId org : UUID) : SalesSession PUnit := do
  let so ← loadOrder soId (some org)
  refuse (so.status ≠ .onHold) (.valueError "SO is not on hold")
  modify fun s => { s with
    orders := s.orders.modify soId fun so => { so with status := releasedStatus s soId so } }

end SalesOrderService

end DotmacErp.Sales
