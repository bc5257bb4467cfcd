import DotmacErp.Inventory.Models
import Mathlib.Data.List.Sort

/-!
# Lots

What a movement does to the lots of its item: a receipt enters a lot or opens one, an issue takes
from one lot or from the oldest layers of the item, a transfer moves a balance, an adjustment
changes one.

Sessions do not flush before a query, so that a balance opened in a call is not among the rows
that the call's later queries return (`pending`). The snapshot the service refreshes on a lot
consists of attributes without columns, except for `is_active`.
-/

namespace DotmacErp.Inventory

open Relational Session

variable {β : Type}

namespace InventoryLotBalance

def withdraw (quantity : ℚ) (balance : InventoryLotBalance) : InventoryLotBalance :=
  let onHand := balance.quantityOnHand - quantity
  let allocated :=
    if balance.quantityAllocated > onHand then onHand else balance.quantityAllocated
  { balance with
    quantityOnHand := numeric onHand
    quantityAllocated := numeric allocated
    quantityAvailable := numeric (onHand - allocated)
    isActive := onHand > 0 || allocated > 0 }

def deposit (quantity : ℚ) (balance : InventoryLotBalance) : InventoryLotBalance :=
  let onHand := balance.quantityOnHand + quantity
  { balance with
    quantityOnHand := numeric onHand
    quantityAvailable := numeric (onHand - balance.quantityAllocated)
    isActive := true }

def adjust (quantity : ℚ) (balance : InventoryLotBalance) : InventoryLotBalance :=
  let onHand := balance.quantityOnHand + quantity
  { balance with
    quantityOnHand := numeric onHand
    quantityAvailable := numeric (onHand - balance.quantityAllocated)
    isActive := onHand > 0 || balance.quantityAllocated > 0 }

def reallocate (allocated : ℚ) (balance : InventoryLotBalance) : InventoryLotBalance :=
  { balance with
    quantityAllocated := numeric allocated
    quantityAvailable := numeric (balance.quantityOnHand - allocated) }

end InventoryLotBalance

def TransactionInput.receiptLotNumber (input : TransactionInput) : String :=
  if input.lotNumber = "" then input.generatedLotNumber else input.lotNumber

namespace InventoryTransactionService

def lotBalance? (s : InventoryStore β) (lotId warehouseId : UUID) :
    Option (Stored InventoryLotBalance) :=
  s.lotBalances.find? fun balance =>
    balance.lotId = lotId && balance.warehouseId = some warehouseId

/-- `_get_lot_balance` with `create_if_missing`: the balance's key, and the key again when the
balance is pending. -/
def getOrCreateLotBalance (lotId : UUID) (lot : InventoryLot) (warehouseId : UUID) :
    InventorySession β (UUID × Option UUID) := do
  let s ← get
  match lotBalance? s lotId warehouseId with
  | some balance => pure (balance.id, none)
  | none =>
    let balance := {
      organizationId := lot.organizationId
      lotId := lotId
      warehouseId := some warehouseId
      isActive := lot.isActive : InventoryLotBalance }
    set { s with lotBalances := s.lotBalances.insert balance }
    pure (s.lotBalances.next, some s.lotBalances.next)

def syncLegacyLotSnapshot (lotId : UUID) (pending : Option UUID) :
    InventorySession β PUnit := do
  let s ← get
  let balances := (s.lotBalances.select fun balance => balance.lotId = lotId).filter
    fun balance => some balance.id ≠ pending
  if balances.isEmpty then pure ⟨⟩
  else modifyLot lotId fun lot =>
    { lot with isActive := balances.any fun balance =>
        balance.row.quantityOnHand > 0 || balance.row.isActive }

/-! ### Receiving -/

def applyReceiptLotMetadata (input : TransactionInput) (lot : InventoryLot) : InventoryLot :=
  { lot with
    manufactureDate := input.lotManufactureDate <|> lot.manufactureDate
    expiryDate := input.lotExpiryDate <|> lot.expiryDate
    supplierLotNumber :=
      (input.lotSupplierLotNumber.filter (· ≠ "")) <|> lot.supplierLotNumber
    certificateOfAnalysis :=
      (input.lotCertificateOfAnalysis.filter (· ≠ "")) <|> lot.certificateOfAnalysis }

def receiveIntoLot (lotId : UUID) (lot : InventoryLot) (input : TransactionInput) :
    InventorySession β PUnit := do
  modifyLot lotId (applyReceiptLotMetadata input)
  let (balanceId, pending) ← getOrCreateLotBalance lotId lot input.warehouseId
  modifyLotBalance balanceId (·.deposit input.quantity)
  syncLegacyLotSnapshot lotId pending
  modifyLot lotId fun lot =>
    { lot with initialQuantity := numeric (lot.initialQuantity + input.quantity) }

def openLot (itemId : UUID) (item : Item) (lotNumber : String) (input : TransactionInput) :
    InventorySession β UUID := do
  let s ← get
  refuse (s.lots.find? fun lot => lot.itemId = itemId && lot.lotNumber = lotNumber).isSome
    (.integrity "uq_inventory_lot")
  let lot := {
    organizationId := item.organizationId
    itemId := itemId
    lotNumber := lotNumber
    manufactureDate := input.lotManufactureDate
    expiryDate := input.lotExpiryDate
    supplierLotNumber := input.lotSupplierLotNumber
    certificateOfAnalysis := input.lotCertificateOfAnalysis
    receivedDate := input.transactionDate
    unitCost := numeric input.unitCost
    initialQuantity := numeric input.quantity : InventoryLot }
  let balance := {
    organizationId := item.organizationId
    lotId := s.lots.next
    warehouseId := some input.warehouseId
    quantityOnHand := numeric input.quantity
    quantityAvailable := numeric input.quantity : InventoryLotBalance }
  set { s with
    lots := s.lots.insert lot
    lotBalances := s.lotBalances.insert balance }
  pure s.lots.next

/-- `_create_or_update_lot_for_receipt`, with the lot the movement then names. -/
def createOrUpdateLotForReceipt (itemId : UUID) (item : Item) (input : TransactionInput) :
    InventorySession β (Option UUID) := do
  let s ← get
  match input.lotId with
  | some lotId =>
    let lot ← orRaise (s.lots.get? lotId) (.http 404 "Inventory lot not found")
    refuse (lot.itemId ≠ itemId) (.http 400 "Inventory lot does not match item")
    refuse (lot.organizationId ≠ item.organizationId) (.http 404 "Inventory lot not found")
    receiveIntoLot lotId lot input
    pure (some lotId)
  | none =>
    if item.costingMethod = .fifo then
      some <$> openLot itemId item input.generatedLotNumber input
    else if item.trackLots then
      match s.lots.find? fun lot => lot.organizationId = item.organizationId &&
          lot.itemId = itemId && lot.lotNumber = input.receiptLotNumber with
      | some lot =>
        receiveIntoLot lot.id lot.row input
        pure (some lot.id)
      | none => some <$> openLot itemId item input.receiptLotNumber input
    else pure none

/-! ### Consuming -/

def consumeFromLot (lotId warehouseId : UUID) (quantity : ℚ) : InventorySession β PUnit := do
  let s ← get
  if (s.lots.get? lotId).isSome then
    let balance ← orRaise (lotBalance? s lotId warehouseId) (.http 404 "Lot balance not found")
    modifyLotBalance balance.id (·.withdraw quantity)
    syncLegacyLotSnapshot lotId none
  else pure ⟨⟩

structure FifoLayer where
  balanceId : UUID
  lotId : UUID
  quantityOnHand : ℚ
  unitCost : ℚ
  receivedDate : ℕ

def fifoLayers (s : InventoryStore β) (org itemId warehouseId : UUID) :
    List FifoLayer :=
  let balances := s.lotBalances.select fun balance =>
    balance.warehouseId = some warehouseId && balance.quantityOnHand > 0 && balance.isActive &&
      !balance.isQuarantined
  let layers := balances.filterMap fun balance =>
    ((s.lots.get? balance.row.lotId).filter fun lot =>
      lot.itemId = itemId && lot.organizationId = org).map fun lot =>
        ⟨balance.id, balance.row.lotId, balance.row.quantityOnHand, lot.unitCost,
          lot.receivedDate⟩
  layers.insertionSort fun a b => a.receivedDate ≤ b.receivedDate

def consumption : List FifoLayer → ℚ → List (FifoLayer × ℚ)
  | [], _ => []
  | layer :: layers, remaining =>
    if remaining ≤ 0 then []
    else
      let consumeQty := min layer.quantityOnHand remaining
      (layer, consumeQty) :: consumption layers (remaining - consumeQty)

def consumeLayers : List (FifoLayer × ℚ) → InventorySession β PUnit
  | [] => pure ⟨⟩
  | (layer, consumeQty) :: rest => do
    modifyLotBalance layer.balanceId (·.withdraw consumeQty)
    syncLegacyLotSnapshot layer.lotId none
    consumeLayers rest

/-- What `_consume_fifo` tells its caller. -/
structure FifoResult where
  unitCost : ℚ
  totalCost : ℚ
  firstLotId : Option UUID

def consumeFifo (org itemId warehouseId : UUID) (quantity : ℚ) :
    InventorySession β FifoResult := do
  let s ← get
  let layers := fifoLayers s org itemId warehouseId
  let totalAvailable := (layers.map FifoLayer.quantityOnHand).sum
  refuse (totalAvailable < quantity)
    (.http 400 s!"Insufficient FIFO inventory: {Rounding.fixedText 6 totalAvailable} available")
  let consumed := consumption layers quantity
  consumeLayers consumed
  let totalCost := (consumed.map fun (layer, consumeQty) => consumeQty * layer.unitCost).sum
  pure {
    unitCost := numeric (totalCost / quantity)
    totalCost := totalCost
    firstLotId := (consumed.head?).map fun (layer, _) => layer.lotId }

/-! ### Nothing but lots -/

section Frames

variable {γ : Type} {view : InventoryStore β → γ} (hview : HidesLots view)

include hview

theorem frames_getOrCreateLotBalance (lotId : UUID) (lot : InventoryLot) (warehouseId : UUID) :
    Frames view (getOrCreateLotBalance (β := β) lotId lot warehouseId) := by
  intro s a s' h
  rw [getOrCreateLotBalance, get_bind] at h
  cases hfound : lotBalance? s lotId warehouseId with
  | some balance =>
    rw [hfound] at h
    rw [(pure_eq_ok.mp h).2]
  | none =>
    rw [hfound] at h
    exact Frames.set h (.pure _) (hview s s.lots _)

theorem frames_syncLegacyLotSnapshot (lotId : UUID) (pending : Option UUID) :
    Frames view (syncLegacyLotSnapshot (β := β) lotId pending) :=
  .bind .get fun _ => .ite (.pure _) (frames_modifyLot hview _ _)

theorem frames_receiveIntoLot (lotId : UUID) (lot : InventoryLot) (input : TransactionInput) :
    Frames view (receiveIntoLot (β := β) lotId lot input) :=
  .bind (frames_modifyLot hview _ _) fun _ =>
    .bind (frames_getOrCreateLotBalance hview _ _ _) fun _ =>
      .bind (frames_modifyLotBalance hview _ _) fun _ =>
        .bind (frames_syncLegacyLotSnapshot hview _ _) fun _ => frames_modifyLot hview _ _

theorem frames_openLot (itemId : UUID) (item : Item) (lotNumber : String)
    (input : TransactionInput) :
    Frames view (openLot (β := β) itemId item lotNumber input) := by
  intro s a s' h
  rw [openLot, get_bind, refuse_bind] at h
  exact Frames.set h.2 (.pure _) (hview s _ _)

theorem frames_createOrUpdateLotForReceipt (itemId : UUID) (item : Item)
    (input : TransactionInput) :
    Frames view (createOrUpdateLotForReceipt (β := β) itemId item input) := by
  refine .bind .get fun s => ?_
  split
  · exact .bind (.orRaise _ _) fun lot => .bind (.refuse _ _) fun _ => .bind (.refuse _ _) fun _ =>
      .bind (frames_receiveIntoLot hview _ _ _) fun _ => .pure _
  · refine .ite ((frames_openLot hview _ _ _ _).map _) (.ite ?_ (.pure _))
    split
    · exact .bind (frames_receiveIntoLot hview _ _ _) fun _ => .pure _
    · exact (frames_openLot hview _ _ _ _).map _

theorem frames_consumeFromLot (lotId warehouseId : UUID) (quantity : ℚ) :
    Frames view (consumeFromLot (β := β) lotId warehouseId quantity) :=
  .bind .get fun _ => .ite
    (.bind (.orRaise _ _) fun _ => .bind (frames_modifyLotBalance hview _ _) fun _ =>
      frames_syncLegacyLotSnapshot hview _ _)
    (.pure _)

theorem frames_consumeLayers (consumed : List (FifoLayer × ℚ)) :
    Frames view (consumeLayers (β := β) consumed) := by
  induction consumed with
  | nil => exact .pure _
  | cons layer rest ih =>
    exact .bind (frames_modifyLotBalance hview _ _) fun _ =>
      .bind (frames_syncLegacyLotSnapshot hview _ _) fun _ => ih

theorem frames_consumeFifo (org itemId warehouseId : UUID) (quantity : ℚ) :
    Frames view (consumeFifo (β := β) org itemId warehouseId quantity) :=
  .bind .get fun _ => .bind (.refuse _ _) fun _ =>
    .bind (frames_consumeLayers hview _) fun _ => .pure _

end Frames

end InventoryTransactionService

end DotmacErp.Inventory
