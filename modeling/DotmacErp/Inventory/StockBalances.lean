import DotmacErp.Inventory.Transactions

/-!
# Stock that is promised

The service that answers what there is of an item and promises parts of it. What is on hand is
summed up from the movements; what is reserved is what is allocated in the balances of the item's
lots, and what is available is the difference.

Stock of an item in lots is allocated in the balance of a lot. Any other item gets a lot for its
allocations alone, one for each warehouse, which never holds stock (`generalLotNumber`).

The lot of a call without a warehouse is asked for its own. A lot does not store one: the answer is
the snapshot that an earlier step of the session may have left on the object, or nothing. It comes
with the call (`lotWarehouseId`). What an allocation refers to is only searched as text and is
left out.
-/

namespace DotmacErp.Inventory

open Relational Session

variable {β : Type}

namespace InventoryLotBalance

def allocate (quantity : ℚ) (balance : InventoryLotBalance) : InventoryLotBalance :=
  { balance.reallocate (balance.quantityAllocated + quantity) with isActive := true }

def released (quantity : ℚ) (balance : InventoryLotBalance) : ℚ :=
  max 0 (balance.quantityAllocated - quantity)

/-- Less is allocated. -/
def deallocate (quantity : ℚ) (balance : InventoryLotBalance) : InventoryLotBalance :=
  balance.reallocate (balance.released quantity)

end InventoryLotBalance

namespace InventoryBalanceService

open InventoryTransactionService

def getOnHand (s : InventoryStore β) (org itemId : UUID) (warehouseId : Option UUID) :
    ℚ :=
  ((s.transactions.select fun t => t.organizationId = org && t.itemId = itemId &&
    warehouseId.all fun w => t.warehouseId = w).map fun t =>
      t.row.transactionType.net t.row.quantity).sum

def itemBalances (s : InventoryStore β) (org itemId : UUID)
    (warehouseId : Option UUID) : List (Stored InventoryLotBalance) :=
  s.lotBalances.select fun balance => balance.isActive &&
    (s.lots.get? balance.lotId).any (fun lot =>
      lot.organizationId = org && lot.itemId = itemId) &&
    warehouseId.all fun w => balance.warehouseId = some w

def getReserved (s : InventoryStore β) (org itemId : UUID)
    (warehouseId : Option UUID) : ℚ :=
  ((itemBalances s org itemId warehouseId).map fun balance =>
    balance.row.quantityAllocated).sum

def getAvailable (s : InventoryStore β) (org itemId : UUID)
    (warehouseId : Option UUID) : ℚ :=
  getOnHand s org itemId warehouseId - getReserved s org itemId warehouseId

/-- What is to be allocated or released. -/
structure AllocationInput where
  organizationId : UUID
  itemId : UUID
  quantity : ℚ
  warehouseId : Option UUID := none
  lotId : Option UUID := none
  lotWarehouseId : Option UUID := none
  today : ℕ := 0

def AllocationInput.place (input : AllocationInput) : Option UUID :=
  input.warehouseId <|> input.lotWarehouseId

def getBalanceForLot (s : InventoryStore β) (lotId : UUID) (warehouseId : Option UUID) :
    Option (Stored InventoryLotBalance) :=
  warehouseId.bind (lotBalance? s lotId)

def lotOf (s : InventoryStore β) (input : AllocationInput) (lotId : UUID) : Option InventoryLot :=
  (s.lots.get? lotId).filter fun lot =>
    lot.itemId = input.itemId && lot.organizationId = input.organizationId

def balanceFor (s : InventoryStore β) (input : AllocationInput) (lotId : UUID) :
    Option (Stored InventoryLotBalance) :=
  (lotOf s input lotId).bind fun _ => getBalanceForLot s lotId input.place

def generalLotNumber (warehouseId : Option UUID) : String :=
  match warehouseId with
  | none => "__GENERAL__"
  | some w => s!"__GENERAL__:{w}"

def generalLot? (s : InventoryStore β) (input : AllocationInput) : Option (Stored InventoryLot) :=
  s.lots.find? fun lot => lot.organizationId = input.organizationId &&
    lot.itemId = input.itemId && lot.lotNumber = generalLotNumber input.warehouseId

def getOrCreateGeneralLot (item : Item) (input : AllocationInput) : InventorySession β UUID := do
  let s ← get
  match generalLot? s input with
  | some lot => pure lot.id
  | none =>
    refuse (s.lots.find? fun lot => lot.itemId = input.itemId &&
      lot.lotNumber = generalLotNumber input.warehouseId).isSome (.integrity "uq_inventory_lot")
    set { s with lots := s.lots.insert {
      organizationId := input.organizationId
      itemId := input.itemId
      lotNumber := generalLotNumber input.warehouseId
      receivedDate := input.today
      unitCost := numeric (item.averageCost.getD 0)
      initialQuantity := 0 } }
    pure s.lots.next

def getOrCreateGeneralBalance (lotId : UUID) (input : AllocationInput) (warehouseId : UUID) :
    InventorySession β (UUID × Option UUID) := do
  let s ← get
  match lotBalance? s lotId warehouseId with
  | some balance => pure (balance.id, none)
  | none =>
    set { s with lotBalances := s.lotBalances.insert {
      organizationId := input.organizationId
      lotId := lotId
      warehouseId := some warehouseId } }
    pure (s.lotBalances.next, some s.lotBalances.next)

def allocateGeneral (item : Item) (input : AllocationInput) : InventorySession β Bool := do
  let lotId ← getOrCreateGeneralLot item input
  match input.warehouseId with
  | none => pure false
  | some warehouseId =>
    let (balanceId, pending) ← getOrCreateGeneralBalance lotId input warehouseId
    modifyLotBalance balanceId (·.allocate input.quantity)
    syncLegacyLotSnapshot lotId pending
    pure true

def allocateLot (lotId : UUID) (input : AllocationInput) : InventorySession β Bool := do
  let s ← get
  match balanceFor s input lotId with
  | none => pure false
  | some balance =>
    if balance.row.quantityAvailable < input.quantity then pure false
    else
      modifyLotBalance balance.id (·.allocate input.quantity)
      syncLegacyLotSnapshot lotId none
      pure true

def allocateInventory (input : AllocationInput) : InventorySession β Bool := do
  let s ← get
  if getAvailable s input.organizationId input.itemId input.warehouseId < input.quantity then
    pure false
  else
    match (s.items.get? input.itemId).filter fun item =>
      item.organizationId = input.organizationId with
    | none => pure false
    | some item =>
      if item.trackLots || item.costingMethod = .fifo then
        match input.lotId with
        | none => pure false
        | some lotId => allocateLot lotId input
      else allocateGeneral item input

def deallocateLot (lotId : UUID) (input : AllocationInput) : InventorySession β Bool := do
  let s ← get
  match balanceFor s input lotId with
  | none => pure false
  | some balance =>
    modifyLotBalance balance.id (·.deallocate input.quantity)
    syncLegacyLotSnapshot lotId none
    pure true

/-- No lot is named. -/
def deallocateGeneral (input : AllocationInput) : InventorySession β Bool := do
  let s ← get
  match generalLot? s input with
  | none => pure true
  | some lot =>
    match getBalanceForLot s lot.id input.warehouseId with
    | none => pure true
    | some balance =>
      modifyLotBalance balance.id (·.deallocate input.quantity)
      syncLegacyLotSnapshot lot.id none
      pure true

def deallocateInventory (input : AllocationInput) : InventorySession β Bool :=
  match input.lotId with
  | some lotId => deallocateLot lotId input
  | none => deallocateGeneral input

end InventoryBalanceService

end DotmacErp.Inventory
