import DotmacErp.Foundation.Keyed
import DotmacErp.Foundation.Rounding
import DotmacErp.Foundation.Session
import DotmacErp.GL.Models

/-!
# Goods receipts

The store and the calls of `GoodsReceiptService`, with the transitions that `purchase_order_status`
owns. A receipt adds what came in to the lines of its order; an inspection says of its lines what is
accepted and what is rejected, and takes from the order what was rejected. The status of an order
follows its lines, and what was received of it is the value of its lines.

What posting the accepted goods to the inventory raises is a parameter: it writes to none of these
tables. Quantities of a call are exact until it is over, when the columns take six decimals.
-/

namespace DotmacErp.Purchasing

open Relational Session Rounding

/-! ### Rows -/

inductive POStatus where
  | draft
  | pendingApproval
  | approved
  | partiallyReceived
  | received
  | cancelled
  | closed
  | superseded
  deriving DecidableEq

def POStatus.value : POStatus → String
  | draft => "DRAFT"
  | pendingApproval => "PENDING_APPROVAL"
  | approved => "APPROVED"
  | partiallyReceived => "PARTIALLY_RECEIVED"
  | received => "RECEIVED"
  | cancelled => "CANCELLED"
  | closed => "CLOSED"
  | superseded => "SUPERSEDED"

inductive ReceiptStatus where
  | received
  | inspecting
  | accepted
  | rejected
  | partially
  deriving DecidableEq

def ReceiptStatus.value : ReceiptStatus → String
  | received => "RECEIVED"
  | inspecting => "INSPECTING"
  | accepted => "ACCEPTED"
  | rejected => "REJECTED"
  | partially => "PARTIAL"

def ReceiptStatus.uninspected : List ReceiptStatus := [.received, .inspecting]

structure PurchaseOrder where
  organizationId : UUID
  status : POStatus

structure PurchaseOrderLine where
  poId : UUID
  lineNumber : ℕ
  quantityOrdered : ℚ
  quantityReceived : ℚ := 0
  unitPrice : ℚ

structure GoodsReceipt where
  organizationId : UUID
  poId : UUID
  receiptNumber : String
  status : ReceiptStatus
  receivedByUserId : Option UUID

structure GoodsReceiptLine where
  receiptId : UUID
  poLineId : UUID
  lineNumber : ℕ
  quantityReceived : ℚ
  quantityAccepted : ℚ := 0
  quantityRejected : ℚ := 0
  rejectionReason : Option String := none

/-- Purchase orders and the receipts for them. -/
structure PurchaseStore where
  orders : Table PurchaseOrder
  lines : Table PurchaseOrderLine
  receipts : Table GoodsReceipt
  receiptLines : Table GoodsReceiptLine

structure HTTPException where
  statusCode : ℕ
  detail : String

abbrev PurchaseSession (α : Type) := Session HTTPException PurchaseStore α

def PurchaseStore.linesOf (s : PurchaseStore) (poId : UUID) : List (Stored PurchaseOrderLine) :=
  s.lines.select fun l => decide (l.poId = poId)

def PurchaseStore.receiptLinesOf (s : PurchaseStore) (receiptId : UUID) :
    List (Stored GoodsReceiptLine) :=
  s.receiptLines.select fun l => decide (l.receiptId = receiptId)

def PurchaseStore.orderOf (s : PurchaseStore) (org poId : UUID) :
    Option PurchaseOrder :=
  (s.orders.get? poId).filter fun po => decide (po.organizationId = org)

def PurchaseStore.receiptOf (s : PurchaseStore) (org receiptId : UUID) :
    Option GoodsReceipt :=
  (s.receipts.get? receiptId).filter fun receipt =>
    decide (receipt.organizationId = org)

/-- `received_for`: the value of what was received of an order. -/
def PurchaseStore.receivedFor (s : PurchaseStore) (poId : UUID) : ℚ :=
  ((s.linesOf poId).map fun r => r.row.quantityReceived * r.row.unitPrice).sum

/-! ### The status of an order -/

/-- `POTransition`, those of the calls on receipts and of ending an order. -/
inductive POTransition where
  | cancel
  | close
  | recordReceiptProgress
  deriving DecidableEq

def receivableStates : List POStatus := [.approved, .partiallyReceived]

def receiptTrackingStates : List POStatus := [.approved, .partiallyReceived, .received]

def POTransition.verb : POTransition → String
  | cancel => "cancel"
  | close => "close"
  | recordReceiptProgress => "record receipt against"

def POTransition.fromStates : POTransition → List POStatus
  | cancel => [.draft, .pendingApproval, .approved, .partiallyReceived, .cancelled, .superseded]
  | close => [.approved, .partiallyReceived, .received]
  | recordReceiptProgress => receiptTrackingStates

def receiptProgressTarget (s : PurchaseStore) (poId : UUID) : POStatus :=
  if (s.linesOf poId).all fun r => decide (r.row.quantityReceived ≤ 0) then .approved
  else if (s.linesOf poId).all fun r => decide (r.row.quantityOrdered ≤ r.row.quantityReceived)
    then .received
  else .partiallyReceived

def POTransition.target (s : PurchaseStore) (poId : UUID) : POTransition → POStatus
  | cancel => .cancelled
  | close => .closed
  | recordReceiptProgress => receiptProgressTarget s poId

def PurchaseOrder.inStatus (status : POStatus) (po : PurchaseOrder) : PurchaseOrder :=
  { po with status }

def applyTransition (poId : UUID) (po : PurchaseOrder) (transition : POTransition) :
    PurchaseSession PUnit := do
  refuse (po.status ∉ transition.fromStates)
    ⟨400, "Cannot " ++ transition.verb ++ " PO in " ++ po.status.value ++ " status"⟩
  let s ← get
  refuse (transition = .cancel ∧ 0 < s.receivedFor poId)
    ⟨400, "Cannot cancel PO with received goods"⟩
  set { s with orders := s.orders.modify poId (PurchaseOrder.inStatus (transition.target s poId)) }

def recordReceiptProgress (poId : UUID) (po : PurchaseOrder) : PurchaseSession PUnit :=
  if po.status ∈ receiptTrackingStates then applyTransition poId po .recordReceiptProgress
  else pure ⟨⟩

def cancelPo (org poId : UUID) : PurchaseSession PUnit := do
  let s ← get
  let po ← orRaise (s.orderOf org poId) ⟨404, "Purchase order not found"⟩
  applyTransition poId po .cancel

def closePo (org poId : UUID) : PurchaseSession PUnit := do
  let s ← get
  let po ← orRaise (s.orderOf org poId) ⟨404, "Purchase order not found"⟩
  applyTransition poId po .close

namespace GoodsReceiptService

/-! ### Receiving -/

structure GRLineInput where
  poLineId : UUID
  quantityReceived : ℚ

structure GoodsReceiptInput where
  poId : UUID
  lines : List GRLineInput

def checkLines (s : PurchaseStore) (poId : UUID) : List GRLineInput → PurchaseSession PUnit
  | [] => pure ⟨⟩
  | line :: rest => do
    refuse (line.poLineId ∉ (s.linesOf poId).map Stored.id)
      ⟨400, "PO line " ++ toString line.poLineId ++ " not found in this purchase order"⟩
    checkLines s poId rest

def receive (quantity : ℚ) (l : PurchaseOrderLine) : PurchaseOrderLine :=
  { l with quantityReceived := l.quantityReceived + quantity }

def receiptLine (receiptId : UUID) (input : GRLineInput) (lineNumber : ℕ) : GoodsReceiptLine where
  receiptId
  poLineId := input.poLineId
  lineNumber
  quantityReceived := halfUp 6 input.quantityReceived

def receiveLines (receiptId : UUID) (lineNumber : ℕ) : List GRLineInput → PurchaseSession PUnit
  | [] => pure ⟨⟩
  | input :: rest => do
    let s ← get
    let poLine ← orRaise (s.lines.get? input.poLineId)
      ⟨404, "Purchase order line " ++ toString input.poLineId ++ " not found"⟩
    refuse (input.quantityReceived ≤ 0)
      ⟨400, "Quantity received must be greater than zero for line " ++
        toString poLine.lineNumber⟩
    let remainingQty := poLine.quantityOrdered - poLine.quantityReceived
    refuse (remainingQty < input.quantityReceived)
      ⟨400, "Quantity received (" ++ fixedText 6 input.quantityReceived ++
        ") exceeds remaining quantity (" ++ fixedText 6 remainingQty ++ ") for line " ++
        toString poLine.lineNumber⟩
    set { s with
      receiptLines := s.receiptLines.insert (receiptLine receiptId input lineNumber)
      lines := s.lines.modify input.poLineId (receive input.quantityReceived) }
    receiveLines receiptId (lineNumber + 1) rest

def storedLine (l : PurchaseOrderLine) : PurchaseOrderLine :=
  { l with quantityReceived := halfUp 6 l.quantityReceived }

def storedReceiptLine (l : GoodsReceiptLine) : GoodsReceiptLine :=
  { l with
    quantityAccepted := halfUp 6 l.quantityAccepted
    quantityRejected := halfUp 6 l.quantityRejected }

def storeQuantities (s : PurchaseStore) : PurchaseStore :=
  { s with
    lines := s.lines.mapRows fun r => storedLine r.row
    receiptLines := s.receiptLines.mapRows fun r => storedReceiptLine r.row }

def newReceipt (org poId : UUID) (receiptNumber : String) (receivedByUserId : UUID) :
    GoodsReceipt where
  organizationId := org
  poId
  receiptNumber
  status := .received
  receivedByUserId := some receivedByUserId

def createReceipt (org : UUID) (receiptNumber : String) (input : GoodsReceiptInput)
    (receivedByUserId : UUID) : PurchaseSession UUID := do
  let s ← get
  let po ← orRaise (s.orderOf org input.poId) ⟨404, "Purchase order not found"⟩
  refuse (po.status ∉ receivableStates)
    ⟨400, "Cannot receive goods for PO in " ++ po.status.value ++ " status"⟩
  refuse (input.lines = []) ⟨400, "Goods receipt must have at least one line"⟩
  checkLines s input.poId input.lines
  set { s with
    receipts := s.receipts.insert
      (newReceipt org input.poId receiptNumber receivedByUserId) }
  receiveLines s.receipts.next 1 input.lines
  recordReceiptProgress input.poId po
  modify storeQuantities
  pure s.receipts.next

/-! ### Inspecting -/

def inReceiptStatus (status : ReceiptStatus) (receipt : GoodsReceipt) : GoodsReceipt :=
  { receipt with status }

def startInspection (org receiptId : UUID) : PurchaseSession PUnit := do
  let s ← get
  let receipt ← orRaise (s.receiptOf org receiptId) ⟨404, "Goods receipt not found"⟩
  refuse (receipt.status ≠ .received)
    ⟨400, "Cannot start inspection for receipt in " ++ receipt.status.value ++ " status"⟩
  set { s with receipts := s.receipts.modify receiptId (inReceiptStatus .inspecting) }

structure InspectionResult where
  lineId : UUID
  quantityAccepted : ℚ
  quantityRejected : ℚ := 0
  rejectionReason : Option String := none

def inspect (result : InspectionResult) (l : GoodsReceiptLine) : GoodsReceiptLine :=
  { l with
    quantityAccepted := result.quantityAccepted
    quantityRejected := result.quantityRejected
    rejectionReason := result.rejectionReason }

def inspectLines (receiptId : UUID) : List InspectionResult → PurchaseSession PUnit
  | [] => pure ⟨⟩
  | result :: rest => do
    let s ← get
    let line ← orRaise
      ((s.receiptLines.get? result.lineId).filter fun l => decide (l.receiptId = receiptId))
      ⟨400, "Receipt line " ++ toString result.lineId ++ " not found"⟩
    refuse (result.quantityAccepted + result.quantityRejected ≠ line.quantityReceived)
      ⟨400, "Accepted + rejected quantities must equal received quantity for line " ++
        toString line.lineNumber⟩
    set { s with receiptLines := s.receiptLines.modify result.lineId (inspect result) }
    inspectLines receiptId rest

def inspectedStatus (results : List InspectionResult) : ReceiptStatus :=
  if results.all fun result => decide ¬ 0 < result.quantityRejected then .accepted
  else if results.all fun result => decide ¬ 0 < result.quantityAccepted then .rejected
  else .partially

def quantitiesOf (lines : List (Stored GoodsReceiptLine)) (quantity : GoodsReceiptLine → ℚ) :
    List (UUID × ℚ) :=
  lines.map fun r => (r.row.poLineId, quantity r.row)

def updatePoStatus (receipt : GoodsReceipt) : PurchaseSession PUnit := do
  let s ← get
  match s.orderOf receipt.organizationId receipt.poId with
  | none => pure ⟨⟩
  | some po => recordReceiptProgress receipt.poId po

def reverse (receiptId : UUID) (receipt : GoodsReceipt) (quantity : GoodsReceiptLine → ℚ) :
    PurchaseSession PUnit := do
  let s ← get
  if s.receiptLinesOf receiptId = [] then pure ⟨⟩
  else do
    set { s with
      lines := s.lines.modifyAll (fun q => receive (-q))
        (quantitiesOf (s.receiptLinesOf receiptId) quantity) }
    updatePoStatus receipt

def reversePoQuantities (receiptId : UUID) (receipt : GoodsReceipt) : PurchaseSession PUnit :=
  reverse receiptId receipt fun line => line.quantityReceived

def reverseRejectedQuantities (receiptId : UUID) (receipt : GoodsReceipt) :
    PurchaseSession PUnit :=
  reverse receiptId receipt fun line =>
    if 0 < line.quantityRejected then line.quantityRejected else 0

def postAccepted (posting : PurchaseStore → UUID → Option HTTPException) (receiptId : UUID)
    (receipt : GoodsReceipt) : PurchaseSession PUnit := do
  refuse (receipt.receivedByUserId = none) ⟨400, "Receipt has no received_by_user_id"⟩
  let s ← get
  match posting s receiptId with
  | some error => throw error
  | none => pure ⟨⟩

def settleInspection (posting : PurchaseStore → UUID → Option HTTPException) (receiptId : UUID)
    (receipt : GoodsReceipt) : ReceiptStatus → PurchaseSession PUnit
  | .rejected => reversePoQuantities receiptId receipt
  | .partially => do
    reverseRejectedQuantities receiptId receipt
    postAccepted posting receiptId receipt
  | _ => postAccepted posting receiptId receipt

def completeInspection (posting : PurchaseStore → UUID → Option HTTPException)
    (org receiptId : UUID) (inspectionResults : List InspectionResult) :
    PurchaseSession PUnit := do
  let s ← get
  let receipt ← orRaise (s.receiptOf org receiptId) ⟨404, "Goods receipt not found"⟩
  refuse (receipt.status ∉ ReceiptStatus.uninspected)
    ⟨400, "Cannot complete inspection for receipt in " ++ receipt.status.value ++ " status"⟩
  inspectLines receiptId inspectionResults
  modify fun s => { s with
    receipts := s.receipts.modify receiptId (inReceiptStatus (inspectedStatus inspectionResults)) }
  settleInspection posting receiptId receipt (inspectedStatus inspectionResults)
  modify storeQuantities

def acceptLine (l : GoodsReceiptLine) : GoodsReceiptLine :=
  { l with quantityAccepted := l.quantityReceived, quantityRejected := 0 }

def acceptAll (posting : PurchaseStore → UUID → Option HTTPException)
    (org receiptId : UUID) : PurchaseSession PUnit := do
  let s ← get
  let receipt ← orRaise (s.receiptOf org receiptId) ⟨404, "Goods receipt not found"⟩
  refuse (receipt.status ∉ ReceiptStatus.uninspected)
    ⟨400, "Cannot accept receipt in " ++ receipt.status.value ++ " status"⟩
  set { s with
    receiptLines := s.receiptLines.update (fun l => decide (l.receiptId = receiptId)) acceptLine
    receipts := s.receipts.modify receiptId (inReceiptStatus .accepted) }
  postAccepted posting receiptId receipt

end GoodsReceiptService

end DotmacErp.Purchasing
