import DotmacErp.Inventory.StockBalances

/-!
# Stock reservations

A reservation is the promise of a quantity of an item to the line of a document, recorded twice: as
a row of its own, with what of it has been fulfilled and what has been cancelled, and as an
allocation in a lot balance. Reserving writes both, cancelling and expiry release the allocation
and write the row, and fulfilling writes the row.

The feature flag and the settings come with a call that reserves, and the time of the call with
those that look at it. Priorities, users, reasons and the times of fulfilment and cancellation are
stored and read by nobody here; they are left out.
-/

namespace DotmacErp.Inventory

open Relational Session InventoryBalanceService

inductive ReservationStatus where
  | reserved
  | partiallyFulfilled
  | fulfilled
  | cancelled
  | expired

def ReservationStatus.value : ReservationStatus → String
  | reserved => "RESERVED"
  | partiallyFulfilled => "PARTIALLY_FULFILLED"
  | fulfilled => "FULFILLED"
  | cancelled => "CANCELLED"
  | expired => "EXPIRED"

/-- `_ACTIVE_STATUSES`. -/
def ReservationStatus.isActive : ReservationStatus → Bool
  | reserved | partiallyFulfilled => true
  | fulfilled | cancelled | expired => false

inductive ReservationSourceType where
  | salesOrder
  | transferOrder
  | manufacturingOrder
  deriving DecidableEq

structure StockReservation where
  organizationId : UUID
  itemId : UUID
  warehouseId : Option UUID
  lotId : Option UUID
  quantityReserved : ℚ
  quantityFulfilled : ℚ := 0
  quantityCancelled : ℚ := 0
  sourceType : ReservationSourceType
  sourceId : UUID
  sourceLineId : UUID
  status : ReservationStatus := .reserved
  expiresAt : Option ℕ := none

namespace StockReservation

def quantityRemaining (reservation : StockReservation) : ℚ :=
  reservation.quantityReserved - reservation.quantityFulfilled - reservation.quantityCancelled

/-- `is_fully_fulfilled`, with what would be fulfilled. -/
def isFullyFulfilled (reservation : StockReservation) (fulfilled : ℚ) : Bool :=
  reservation.quantityReserved ≤ fulfilled

def fulfill (quantity : ℚ) (reservation : StockReservation) : StockReservation :=
  let fulfilled := reservation.quantityFulfilled + quantity
  { reservation with
    quantityFulfilled := numeric fulfilled
    status := if reservation.isFullyFulfilled fulfilled then .fulfilled else .partiallyFulfilled }

/-- What remains is cancelled. -/
def close (status : ReservationStatus) (reservation : StockReservation) : StockReservation :=
  { reservation with
    quantityCancelled := numeric (reservation.quantityCancelled + reservation.quantityRemaining)
    status := status }

end StockReservation

/-- The stock and the reservations on it. -/
structure StockStore (β : Type) where
  stock : InventoryStore β
  reservations : Table StockReservation := Table.empty

abbrev StockSession (β α : Type) := Session InventoryError (StockStore β) α

variable {β : Type}

def onStock {α : Type} (x : InventorySession β α) : StockSession β α :=
  zoom StockStore.stock (fun s stock => { s with stock }) x

/-- `ReservationConfig`, as far as the service reads it. -/
structure ReservationConfig where
  enabled : Bool := false
  expiryHours : ℕ := 0
  allowPartial : Bool := true

structure ReserveInput where
  organizationId : UUID
  itemId : UUID
  quantity : ℚ
  sourceType : ReservationSourceType
  sourceId : UUID
  sourceLineId : UUID
  warehouseId : Option UUID := none
  lotId : Option UUID := none
  featureEnabled : Bool := true
  config : ReservationConfig := { enabled := true }
  now : ℕ := 0
  lotWarehouseId : Option UUID := none
  today : ℕ := 0

structure ReservationResult where
  success : Bool
  reservationId : Option UUID
  quantityReserved : ℚ
  quantityRequested : ℚ
  shortfall : ℚ
  message : String

/-- The counts of `release_expired`. -/
structure ReleaseResult where
  checked : ℕ
  released : ℕ
  errors : ℕ

namespace StockReservationService

/-- `get_reservation_for_line`, of an organization. -/
def getReservationForLine (s : StockStore β) (sourceType : ReservationSourceType)
    (sourceLineId org : UUID) : Option (Stored StockReservation) :=
  s.reservations.find? fun reservation => reservation.sourceType = sourceType &&
    reservation.sourceLineId = sourceLineId && reservation.status.isActive &&
      reservation.organizationId = org

def activeReservations (s : StockStore β) (org itemId : UUID)
    (warehouseId : Option UUID) : List (Stored StockReservation) :=
  s.reservations.select fun reservation => reservation.organizationId = org &&
    reservation.itemId = itemId && reservation.status.isActive &&
      warehouseId.all fun w => reservation.warehouseId = some w

def getReservedQuantity (s : StockStore β) (org itemId : UUID)
    (warehouseId : Option UUID) : ℚ :=
  ((activeReservations s org itemId warehouseId).map fun reservation =>
    reservation.row.quantityRemaining).sum

def refusal (requested shortfall : ℚ) (message : String) : ReservationResult where
  success := false
  reservationId := none
  quantityReserved := 0
  quantityRequested := requested
  shortfall := shortfall
  message := message

/-- What is allocated for a call. -/
def ReserveInput.allocation (input : ReserveInput) (quantity : ℚ) : AllocationInput where
  organizationId := input.organizationId
  itemId := input.itemId
  quantity := quantity
  warehouseId := input.warehouseId
  lotId := input.lotId
  lotWarehouseId := input.lotWarehouseId
  today := input.today

def ReserveInput.reservation (input : ReserveInput) (quantity : ℚ) : StockReservation where
  organizationId := input.organizationId
  itemId := input.itemId
  warehouseId := input.warehouseId
  lotId := input.lotId
  quantityReserved := numeric quantity
  sourceType := input.sourceType
  sourceId := input.sourceId
  sourceLineId := input.sourceLineId
  expiresAt :=
    if 0 < input.config.expiryHours then some (input.now + 3600 * input.config.expiryHours)
    else none

def addReservation (reservation : StockReservation) : StockSession β UUID := do
  let s ← get
  refuse (reservation.lotId.any fun lotId => (s.stock.lots.get? lotId).isNone)
    (.integrity "stock_reservation_lot_id_fkey")
  refuse (reservation.lotId.isSome ∧ (s.reservations.find? fun other =>
      other.sourceType = reservation.sourceType &&
        other.sourceLineId = reservation.sourceLineId &&
          other.lotId = reservation.lotId).isSome)
    (.integrity "uq_reservation_source_lot")
  set { s with reservations := s.reservations.insert reservation }
  pure s.reservations.next

def reserve (input : ReserveInput) : StockSession β ReservationResult := do
  let requested := input.quantity
  if requested ≤ 0 then
    pure (refusal requested (max 0 requested) "Quantity must be greater than zero.")
  else if input.featureEnabled = false then
    pure (refusal requested requested "Stock reservation feature flag is disabled.")
  else if input.config.enabled = false then
    pure (refusal requested requested
      "Stock reservation is not enabled in inventory settings.")
  else
    let s ← get
    match getReservationForLine s input.sourceType input.sourceLineId input.organizationId with
    | some existing =>
      pure {
        success := true
        reservationId := some existing.id
        quantityReserved := existing.row.quantityRemaining
        quantityRequested := requested
        shortfall := max 0 (requested - existing.row.quantityRemaining)
        message := "Reservation already exists." }
    | none =>
      let available := getAvailable s.stock input.organizationId input.itemId input.warehouseId
      let quantity := min available requested
      if quantity ≤ 0 then
        pure (refusal requested requested "No stock available for reservation.")
      else if quantity < requested ∧ input.config.allowPartial = false then
        pure (refusal requested requested
          "Insufficient stock and partial reservation is disabled.")
      else
        let allocated ← onStock (allocateInventory (ReserveInput.allocation input quantity))
        if allocated = false then
          pure (refusal requested requested "Unable to allocate inventory for reservation.")
        else
          let id ← addReservation (ReserveInput.reservation input quantity)
          pure {
            success := true
            reservationId := some id
            quantityReserved := quantity
            quantityRequested := requested
            shortfall := requested - quantity
            message := if requested - quantity = 0 then "Reserved successfully."
              else "Partially reserved." }

def modifyReservation (reservationId : UUID) (f : StockReservation → StockReservation) :
    StockSession β PUnit :=
  modify fun s => { s with reservations := s.reservations.modify reservationId f }

/-- A reservation that is still active; `verb` is what is to be done with it. -/
def getActive (reservationId : UUID) (verb : String) : StockSession β StockReservation := do
  let s ← get
  let reservation ← orRaise (s.reservations.get? reservationId)
    (.other s!"Reservation {reservationId} not found.")
  refuse (reservation.status.isActive = false)
    (.other s!"Cannot {verb} reservation in status {reservation.status.value}.")
  pure reservation

def fulfill (reservationId : UUID) (quantity : ℚ) : StockSession β PUnit := do
  let reservation ← getActive reservationId "fulfill"
  refuse (quantity ≤ 0) (.other "Fulfillment quantity must be greater than zero.")
  refuse (reservation.quantityRemaining < quantity)
    (.other (s!"Cannot fulfill {Rounding.fixedText 6 quantity} - only " ++
      s!"{Rounding.fixedText 6 reservation.quantityRemaining} remaining on reservation."))
  modifyReservation reservationId (·.fulfill quantity)

def releaseInput (reservation : StockReservation) (lotWarehouseId : Option UUID) :
    AllocationInput where
  organizationId := reservation.organizationId
  itemId := reservation.itemId
  quantity := reservation.quantityRemaining
  warehouseId := reservation.warehouseId
  lotId := reservation.lotId
  lotWarehouseId := lotWarehouseId

/-- What remains of a reservation is released, whether or not there is an allocation to release,
and the reservation closed. -/
def releaseRemaining (reservation : Stored StockReservation) (lotWarehouseId : Option UUID)
    (status : ReservationStatus) : StockSession β PUnit := do
  runIf (0 < reservation.row.quantityRemaining)
    (discard (onStock (deallocateInventory (releaseInput reservation.row lotWarehouseId))))
  modifyReservation reservation.id (·.close status)

def cancel (reservationId : UUID) (lotWarehouseId : Option UUID) : StockSession β PUnit := do
  let reservation ← getActive reservationId "cancel"
  releaseRemaining ⟨reservationId, reservation⟩ lotWarehouseId .cancelled

/-- The expired reservations of a batch, those that expired first before the others. A session
that belongs to an organization sees no others. -/
def expiredReservations (s : StockStore β) (org : Option UUID) (now batchSize : ℕ) :
    List (Stored StockReservation) :=
  ((s.reservations.select fun reservation => reservation.status.isActive &&
    (reservation.expiresAt.any fun expiresAt => expiresAt ≤ now) &&
      org.all fun org => reservation.organizationId = org)
    |>.insertionSort fun a b => a.row.expiresAt.getD 0 ≤ b.row.expiresAt.getD 0).take batchSize

/-- The loop over the expired reservations; a raise is counted and the loop goes on. -/
def releaseEach (lotWarehouseId : UUID → Option UUID) :
    List (Stored StockReservation) → ReleaseResult → StockSession β ReleaseResult
  | [], result => pure result
  | reservation :: rest, result => do
    let result ← catching
      (do
        releaseRemaining reservation (lotWarehouseId reservation.id) .expired
        pure { result with released := result.released + 1 })
      (fun _ => pure { result with errors := result.errors + 1 })
    releaseEach lotWarehouseId rest result

def releaseExpired (org : Option UUID) (now batchSize : ℕ)
    (lotWarehouseId : UUID → Option UUID) : StockSession β ReleaseResult := do
  let s ← get
  let expired := expiredReservations s org now batchSize
  releaseEach lotWarehouseId expired
    { checked := expired.length, released := 0, errors := 0 }

end StockReservationService

end DotmacErp.Inventory
