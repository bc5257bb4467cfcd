import DotmacErp.Inventory.Lots

/-!
# Stock movements

The service that records movements. A movement is one row, or two for a transfer; each carries
its quantity and the balance of its item in its warehouse before and after. The balance itself is
stored nowhere: `getCurrentBalance` sums the quantities under the signs of their types.

The creators share this shape: checks, then what happens to the lots and to the cost, then the
row, and then the services beside the stock. Each works in its caller's session and none commits.
-/

namespace DotmacErp.Inventory

open Relational Session

variable {β : Type}

/-! ### Balances -/

def TransactionType.net (type : TransactionType) (quantity : ℚ) : ℚ :=
  match type with
  | .receipt | .returned | .assembly => quantity
  | .issue | .sale | .scrap | .disassembly => -quantity
  | .transfer | .adjustment | .countAdjustment => quantity

/-- A balance of stock is kept per item and warehouse. -/
structure StockKey where
  organizationId : UUID
  itemId : UUID
  warehouseId : UUID
  deriving DecidableEq

/-- The columns as the database keeps them. -/
def InventoryTransaction.stored (t : InventoryTransaction) : InventoryTransaction :=
  { t with
    quantity := numeric t.quantity
    unitCost := numeric t.unitCost
    totalCost := numeric t.totalCost
    costVariance := numeric t.costVariance
    quantityBefore := numeric t.quantityBefore
    quantityAfter := numeric t.quantityAfter }

def InventoryTransaction.key (t : InventoryTransaction) : StockKey :=
  ⟨t.organizationId, t.itemId, t.warehouseId⟩

def movements (transactions : Table InventoryTransaction) (key : StockKey) :
    List InventoryTransaction :=
  (transactions.select fun t => t.key = key).map Stored.row

namespace InventoryTransactionService

def getCurrentBalance (s : InventoryStore β) (org itemId warehouseId : UUID) : ℚ :=
  ((movements s.transactions ⟨org, itemId, warehouseId⟩).map fun t =>
    t.transactionType.net t.quantity).sum

def calculateWeightedAverageCost (s : InventoryStore β)
    (org itemId warehouseId : UUID) (newQuantity newUnitCost : ℚ) : ℚ :=
  let currentQty := getCurrentBalance s org itemId warehouseId
  match s.items.get? itemId with
  | none => newUnitCost
  | some item =>
    let currentValue := currentQty * item.averageCost.getD 0
    let totalQty := currentQty + newQuantity
    if totalQty ≤ 0 then newUnitCost
    else numeric ((currentValue + newQuantity * newUnitCost) / totalQty)

/-- `InventorySerialService.validate_serial_quantity`. -/
def validateSerialQuantity (quantity : ℚ) (serialNumbers : List String) :
    InventorySession β PUnit := do
  refuse (quantity.den ≠ 1) (.http 400 "Serial-tracked quantities must be whole numbers")
  refuse ((serialNumbers.length : ℤ) ≠ quantity.num)
    (.http 400 (s!"Serial-tracked quantity requires exactly {quantity.num} serial " ++
      s!"number(s); received {serialNumbers.length}"))

def serialsOf (v : Services β) (input : TransactionInput) :
    InventorySession β (List String) :=
  match v.normalizeSerialNumbers input.serialNumbers with
  | .ok serialNumbers => pure serialNumbers
  | .error e => throw e

/-- The row of a movement is written. -/
def addTransaction (t : InventoryTransaction) : InventorySession β UUID := do
  let s ← get
  set { s with transactions := s.transactions.insert t.stored }
  pure s.transactions.next

/-- `_post_inventory_transaction`, in organizations with real-time valuation. -/
def postInRealTime (v : Services β) (org transactionId userId : UUID) :
    InventorySession β PUnit := do
  let s ← get
  runIf (v.realTimeValuation org s.services)
    (callService (v.postTransaction org transactionId userId))

/-- A cost that is set: Python's `or` goes past 0. -/
def setCost (cost : Option ℚ) : Option ℚ := cost.filter (· ≠ 0)

/-! ### Receipts -/

/-- The average cost of a weighted-average item after a receipt: the ledger's, or else the legacy
computation. -/
def averageAfterReceipt (v : Services β) (org : UUID) (input : TransactionInput)
    (transactionId : UUID) : InventorySession β PUnit := do
  let answer ← askLedger (v.applyReceipt org input.itemId input.warehouseId
    input.quantity input.unitCost transactionId)
  let s ← get
  let averageCost := answer.getD (calculateWeightedAverageCost s org input.itemId
    input.warehouseId input.quantity input.unitCost)
  modifyItem input.itemId fun item => { item with averageCost := some (numeric averageCost) }

def receiptLot (item : Item) (input : TransactionInput) : InventorySession β (Option UUID) :=
  if item.costingMethod = .fifo || item.trackLots then
    createOrUpdateLotForReceipt input.itemId item input
  else pure input.lotId

def createReceipt (v : Services β) (org : UUID) (input : TransactionInput)
    (userId : UUID) : InventorySession β UUID := do
  refuse (input.quantity ≤ 0) (.validation "Receipt quantity must be positive.")
  let item ← getItem org input.itemId
  let serialNumbers ← serialsOf v input
  let skipSerialTracking :=
    input.allowMissingSerialNumbers && item.trackSerialNumbers && serialNumbers.isEmpty
  let trackSerials := item.trackSerialNumbers && !skipSerialTracking
  runIf trackSerials (validateSerialQuantity input.quantity serialNumbers)
  let warehouse ← getWarehouse org input.warehouseId "Warehouse not found"
  refuse (warehouse.isReceiving = false)
    (.http 400 "Warehouse is not configured for receiving")
  let s ← get
  let qtyBefore := getCurrentBalance s org input.itemId input.warehouseId
  let standard := item.standardCost.getD 0
  let unitCost := if item.costingMethod = .standardCost then standard else input.unitCost
  let costVariance := if item.costingMethod = .standardCost
    then (input.unitCost - standard) * input.quantity else 0
  modifyItem input.itemId fun item =>
    { item with lastPurchaseCost := some (numeric input.unitCost) }
  let lotId ← receiptLot item input
  let id ← addTransaction {
    organizationId := org
    transactionType := input.transactionType
    itemId := input.itemId
    warehouseId := input.warehouseId
    lotId := lotId
    quantity := input.quantity
    unitCost := unitCost
    totalCost := input.quantity * unitCost
    costVariance := costVariance
    quantityBefore := qtyBefore
    quantityAfter := qtyBefore + input.quantity }
  runIf trackSerials
    (callService (v.receiveSerials serialNumbers id (input.transactionType = .returned)))
  runIf (item.costingMethod = .weightedAverage) (averageAfterReceipt v org input id)
  postInRealTime v org id userId
  pure id

/-! ### Issues -/

def issueLot (item : Item) (input : TransactionInput) : InventorySession β (Option UUID) := do
  if item.trackLots then
    let s ← get
    let lotId ← orRaise input.lotId (.http 400 "Lot ID is required for lot-tracked items")
    let _ ← orRaise ((s.lots.get? lotId).filter fun lot => lot.itemId = input.itemId)
      (.http 404 "Lot not found")
    let balance ← orRaise (lotBalance? s lotId input.warehouseId)
      (.http 400 "Lot does not belong to the selected warehouse")
    refuse (balance.row.isQuarantined = true) (.http 400 "Cannot issue from quarantined lot")
    refuse (balance.row.quantityAvailable < input.quantity)
      (.http 400 (s!"Insufficient quantity in lot: " ++
        s!"{Rounding.fixedText 6 balance.row.quantityAvailable} available"))
    pure (some lotId)
  else pure none

def issueCost (org : UUID) (item : Item) (input : TransactionInput)
    (lotId : Option UUID) : InventorySession β (FifoResult) := do
  match item.costingMethod with
  | .standardCost =>
    let unitCost := item.standardCost.getD 0
    pure ⟨unitCost, input.quantity * unitCost, lotId⟩
  | .weightedAverage =>
    let unitCost := item.averageCost.getD 0
    pure ⟨unitCost, input.quantity * unitCost, lotId⟩
  | .fifo =>
    let fifo ← consumeFifo org input.itemId input.warehouseId input.quantity
    pure ⟨fifo.unitCost, fifo.totalCost, lotId <|> fifo.firstLotId⟩
  | .specificIdentification =>
    let id ← orRaise lotId (.http 400 "Lot ID required for specific identification costing")
    let s ← get
    let unitCost := ((s.lots.get? id).map InventoryLot.unitCost).getD input.unitCost
    consumeFromLot id input.warehouseId input.quantity
    pure ⟨unitCost, input.quantity * unitCost, lotId⟩

def consumeIssueLot (item : Item) (input : TransactionInput) (lotId : Option UUID) :
    InventorySession β PUnit :=
  match lotId with
  | some id =>
    runIf (item.trackLots ∧ item.costingMethod ≠ .fifo ∧
      item.costingMethod ≠ .specificIdentification)
      (consumeFromLot id input.warehouseId input.quantity)
  | none => pure ⟨⟩

def averageAfterIssue (v : Services β) (org : UUID) (input : TransactionInput)
    (transactionId : UUID) : InventorySession β PUnit := do
  match ← askLedger (v.applyIssue org input.itemId input.warehouseId input.quantity
      transactionId) with
  | some averageCost =>
    modifyItem input.itemId fun item => { item with averageCost := some (numeric averageCost) }
  | none => pure ⟨⟩

def createIssue (v : Services β) (org : UUID) (input : TransactionInput)
    (userId : UUID) : InventorySession β UUID := do
  refuse (input.quantity ≤ 0) (.validation "Issue quantity must be positive.")
  let item ← getItem org input.itemId
  let serialNumbers ← serialsOf v input
  runIf item.trackSerialNumbers (validateSerialQuantity input.quantity serialNumbers)
  let warehouse ← getWarehouse org input.warehouseId "Warehouse not found"
  refuse (warehouse.isActive = false) (.http 400 "Warehouse is not active")
  refuse (warehouse.isShipping = false) (.http 400 "Warehouse is not configured for shipping")
  let s ← get
  let qtyBefore := getCurrentBalance s org input.itemId input.warehouseId
  refuse (qtyBefore < input.quantity)
    (.http 400 (s!"Insufficient inventory: {Rounding.fixedText 6 qtyBefore} available, " ++
      s!"{Rounding.fixedText 6 input.quantity} requested"))
  let lot ← issueLot item input
  let cost ← issueCost org item input lot
  consumeIssueLot item input cost.firstLotId
  let id ← addTransaction {
    organizationId := org
    transactionType := input.transactionType
    itemId := input.itemId
    warehouseId := input.warehouseId
    lotId := cost.firstLotId
    quantity := input.quantity
    unitCost := cost.unitCost
    totalCost := cost.totalCost
    quantityBefore := qtyBefore
    quantityAfter := qtyBefore - input.quantity }
  runIf item.trackSerialNumbers (callService (v.issueSerials serialNumbers id))
  runIf (item.costingMethod = .weightedAverage) (averageAfterIssue v org input id)
  postInRealTime v org id userId
  pure id

/-! ### Adjustments -/

def adjustmentBalance (item : Item) (input : TransactionInput) :
    InventorySession β (Option (UUID × UUID × Option UUID)) := do
  if item.trackLots || item.costingMethod = .fifo then
    let s ← get
    let lotId ← orRaise input.lotId (.http 400 "Lot ID is required for this item")
    let lot ← orRaise ((s.lots.get? lotId).filter fun lot => lot.itemId = input.itemId)
      (.http 404 "Lot not found")
    if input.quantity > 0 then
      let (balanceId, pending) ← getOrCreateLotBalance lotId lot input.warehouseId
      pure (some (lotId, balanceId, pending))
    else
      let balance ← orRaise (lotBalance? s lotId input.warehouseId)
        (.http 400 "Lot does not belong to the selected warehouse")
      pure (some (lotId, balance.id, none))
  else pure none

def adjustLot (lot : Option (UUID × UUID × Option UUID)) (quantity : ℚ) :
    InventorySession β PUnit :=
  match lot with
  | some (lotId, balanceId, pending) => do
    modifyLotBalance balanceId (·.adjust quantity)
    syncLegacyLotSnapshot lotId pending
  | none => pure ⟨⟩

/-- `create_adjustment`: the quantity has a sign. -/
def createAdjustment (v : Services β) (org : UUID) (input : TransactionInput)
    (userId : UUID) : InventorySession β UUID := do
  let item ← getItem org input.itemId
  let _ ← getWarehouse org input.warehouseId "Warehouse not found"
  let s ← get
  let qtyBefore := getCurrentBalance s org input.itemId input.warehouseId
  let lot ← adjustmentBalance item input
  refuse (input.quantity < 0 ∧ qtyBefore < |input.quantity|)
    (.http 400 "Adjustment would result in negative inventory")
  let s ← get
  refuse (input.quantity < 0 ∧ lot.any fun (_, balanceId, _) =>
      (s.lotBalances.get? balanceId).any fun balance =>
        balance.quantityOnHand < |input.quantity|)
    (.http 400 "Adjustment would result in negative lot quantity")
  let unitCost := (setCost item.averageCost).getD input.unitCost
  let id ← addTransaction {
    organizationId := org
    transactionType := input.transactionType
    itemId := input.itemId
    warehouseId := input.warehouseId
    lotId := input.lotId
    quantity := input.quantity
    unitCost := unitCost
    totalCost := |input.quantity| * unitCost
    quantityBefore := qtyBefore
    quantityAfter := qtyBefore + input.quantity }
  adjustLot lot input.quantity
  postInRealTime v org id userId
  pure id

/-! ### Transfers -/

def transferBalances (item : Item) (input : TransactionInput) (toWarehouseId : UUID) :
    InventorySession β (Option (UUID × UUID × UUID × Option UUID)) := do
  if item.trackLots || item.costingMethod = .fifo then
    let s ← get
    let lotId ← orRaise input.lotId (.http 400 "Lot ID is required for this item")
    let lot ← orRaise ((s.lots.get? lotId).filter fun lot => lot.itemId = input.itemId)
      (.http 404 "Lot not found")
    let source ← orRaise (lotBalance? s lotId input.warehouseId)
      (.http 400 "Lot does not belong to the source warehouse")
    refuse (source.row.isQuarantined = true) (.http 400 "Cannot transfer quarantined lot")
    refuse (source.row.quantityAvailable < input.quantity)
      (.http 400 "Insufficient quantity in source lot balance")
    let (destinationId, pending) ← getOrCreateLotBalance lotId lot toWarehouseId
    pure (some (lotId, source.id, destinationId, pending))
  else pure none

def moveLot (lot : Option (UUID × UUID × UUID × Option UUID)) (quantity : ℚ) :
    InventorySession β PUnit :=
  match lot with
  | some (lotId, sourceId, destinationId, pending) => do
    modifyLotBalance sourceId (·.withdraw quantity)
    modifyLotBalance destinationId (·.deposit quantity)
    syncLegacyLotSnapshot lotId pending
  | none => pure ⟨⟩

/-- `create_transfer`: the row of the source, then the row of the destination. -/
def createTransfer (v : Services β) (org : UUID) (input : TransactionInput) :
    InventorySession β (UUID × UUID) := do
  let toWarehouseId ← orRaise input.toWarehouseId
    (.http 400 "to_warehouse_id is required for transfer")
  refuse (input.quantity ≤ 0) (.validation "Transfer quantity must be positive.")
  refuse (input.warehouseId = toWarehouseId)
    (.validation "Source and destination warehouses must be different.")
  let item ← getItem org input.itemId
  let serialNumbers ← serialsOf v input
  runIf item.trackSerialNumbers (validateSerialQuantity input.quantity serialNumbers)
  let _ ← getWarehouse org input.warehouseId "Source warehouse not found"
  let _ ← getWarehouse org toWarehouseId "Destination warehouse not found"
  let lot ← transferBalances item input toWarehouseId
  let s ← get
  let qtyBeforeSource := getCurrentBalance s org input.itemId input.warehouseId
  refuse (qtyBeforeSource < input.quantity)
    (.http 400 (s!"Insufficient inventory at source: " ++
      s!"{Rounding.fixedText 6 qtyBeforeSource} available"))
  let qtyBeforeDest := getCurrentBalance s org input.itemId toWarehouseId
  let unitCost := (setCost item.averageCost).getD input.unitCost
  let totalCost := input.quantity * unitCost
  let issueId ← addTransaction {
    organizationId := org
    transactionType := .transfer
    itemId := input.itemId
    warehouseId := input.warehouseId
    lotId := input.lotId
    toWarehouseId := some toWarehouseId
    quantity := -input.quantity
    unitCost := unitCost
    totalCost := totalCost
    quantityBefore := qtyBeforeSource
    quantityAfter := qtyBeforeSource - input.quantity }
  let receiptId ← addTransaction {
    organizationId := org
    transactionType := .transfer
    itemId := input.itemId
    warehouseId := toWarehouseId
    lotId := input.lotId
    quantity := input.quantity
    unitCost := unitCost
    totalCost := totalCost
    quantityBefore := qtyBeforeDest
    quantityAfter := qtyBeforeDest + input.quantity }
  moveLot lot input.quantity
  runIf item.trackSerialNumbers
    (callService (v.transferSerials serialNumbers issueId receiptId))
  pure (issueId, receiptId)

/-! ### Any movement -/

def createTransaction (v : Services β) (org : UUID) (input : TransactionInput)
    (userId : UUID) : InventorySession β UUID :=
  match input.transactionType with
  | .receipt | .returned | .assembly => createReceipt v org input userId
  | .issue | .sale | .disassembly => createIssue v org input userId
  | .transfer => Prod.fst <$> createTransfer v org input
  | .adjustment | .countAdjustment | .scrap => createAdjustment v org input userId

/-! ### What the steps leave alone -/

section Frames

variable {γ : Type} {view : InventoryStore β → γ}

theorem frames_getItem (org itemId : UUID) :
    Frames view (getItem org itemId) :=
  frames_getRow _ _ _ _

theorem frames_getWarehouse (org warehouseId : UUID) (detail : String) :
    Frames view (getWarehouse org warehouseId detail) :=
  frames_getRow _ _ _ _

theorem frames_serialsOf (v : Services β) (input : TransactionInput) :
    Frames view (serialsOf v input) := by
  rw [serialsOf]
  split
  · exact .pure _
  · exact .throw _

theorem frames_validateSerialQuantity (quantity : ℚ) (serialNumbers : List String) :
    Frames view (validateSerialQuantity (β := β) quantity serialNumbers) :=
  .bind (.refuse _ _) fun _ => .refuse _ _

theorem frames_issueLot (item : Item) (input : TransactionInput) :
    Frames view (issueLot (β := β) item input) :=
  .ite
    (.bind .get fun _ => .bind (.orRaise _ _) fun _ => .bind (.orRaise _ _) fun _ =>
      .bind (.orRaise _ _) fun _ => .bind (.refuse _ _) fun _ => .bind (.refuse _ _) fun _ =>
        .pure _)
    (.pure _)

theorem frames_postInRealTime (hview : HidesServices view) (v : Services β)
    (org transactionId userId : UUID) :
    Frames view (postInRealTime v org transactionId userId) :=
  .bind .get fun _ => .runIf (frames_callService hview _)

theorem frames_averageAfterReceipt (hview : HidesCosts view) (v : Services β)
    (org : UUID) (input : TransactionInput) (transactionId : UUID) :
    Frames view (averageAfterReceipt v org input transactionId) :=
  .bind (frames_askLedger hview.hidesServices _) fun _ => .bind .get fun _ =>
    frames_modifyItem hview _ _

theorem frames_averageAfterIssue (hview : HidesAverages view) (v : Services β)
    (org : UUID) (input : TransactionInput) (transactionId : UUID) :
    Frames view (averageAfterIssue v org input transactionId) := by
  refine .bind (frames_askLedger hview.1 _) fun answer => ?_
  cases answer with
  | none => exact .pure _
  | some averageCost => exact .modify fun s => hview.2 s _ _

variable (hview : HidesLots view)

include hview

theorem frames_receiptLot (item : Item) (input : TransactionInput) :
    Frames view (receiptLot (β := β) item input) :=
  .ite (frames_createOrUpdateLotForReceipt hview _ _ _) (.pure _)

theorem frames_issueCost (org : UUID) (item : Item) (input : TransactionInput)
    (lotId : Option UUID) :
    Frames view (issueCost (β := β) org item input lotId) := by
  rw [issueCost]
  cases item.costingMethod with
  | standardCost => exact .pure _
  | weightedAverage => exact .pure _
  | fifo => exact .bind (frames_consumeFifo hview _ _ _ _) fun _ => .pure _
  | specificIdentification =>
    exact .bind (.orRaise _ _) fun _ => .bind .get fun _ =>
      .bind (frames_consumeFromLot hview _ _ _) fun _ => .pure _

theorem frames_consumeIssueLot (item : Item) (input : TransactionInput)
    (lotId : Option UUID) : Frames view (consumeIssueLot (β := β) item input lotId) := by
  cases lotId with
  | none => exact .pure _
  | some id => exact .runIf (frames_consumeFromLot hview _ _ _)

theorem frames_adjustLot (lot : Option (UUID × UUID × Option UUID)) (quantity : ℚ) :
    Frames view (adjustLot (β := β) lot quantity) := by
  cases lot with
  | none => exact .pure _
  | some lot =>
    exact .bind (frames_modifyLotBalance hview _ _) fun _ =>
      frames_syncLegacyLotSnapshot hview _ _

theorem frames_moveLot (lot : Option (UUID × UUID × UUID × Option UUID)) (quantity : ℚ) :
    Frames view (moveLot (β := β) lot quantity) := by
  cases lot with
  | none => exact .pure _
  | some lot =>
    exact .bind (frames_modifyLotBalance hview _ _) fun _ =>
      .bind (frames_modifyLotBalance hview _ _) fun _ => frames_syncLegacyLotSnapshot hview _ _

theorem frames_adjustmentBalance (item : Item) (input : TransactionInput) :
    Frames view (adjustmentBalance (β := β) item input) :=
  .ite
    (.bind .get fun _ => .bind (.orRaise _ _) fun _ => .bind (.orRaise _ _) fun _ => .ite
      (.bind (frames_getOrCreateLotBalance hview _ _ _) fun _ => .pure _)
      (.bind (.orRaise _ _) fun _ => .pure _))
    (.pure _)

theorem frames_transferBalances (item : Item) (input : TransactionInput) (toWarehouseId : UUID) :
    Frames view (transferBalances (β := β) item input toWarehouseId) :=
  .ite
    (.bind .get fun _ => .bind (.orRaise _ _) fun _ => .bind (.orRaise _ _) fun _ =>
      .bind (.orRaise _ _) fun _ => .bind (.refuse _ _) fun _ => .bind (.refuse _ _) fun _ =>
        .bind (frames_getOrCreateLotBalance hview _ _ _) fun _ => .pure _)
    (.pure _)

end Frames

end InventoryTransactionService

end DotmacErp.Inventory
