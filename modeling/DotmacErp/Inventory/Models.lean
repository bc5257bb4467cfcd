import DotmacErp.Foundation.Rounding
import DotmacErp.Foundation.Session
import DotmacErp.GL.Models

/-!
# Stock: items, warehouses, lots and movements

The rows the inventory services work on, with the columns their logic reads. Quantities and costs
are exact decimals in the code and six-decimal numbers in the database, which rounds what it is
given (`numeric`).

Serial numbers, the weighted-average ledger, the valuation setting and the posting to the general
ledger belong to services of their own. They read the stock but write to none of its tables
except for the number of the journal on a movement, which is not modelled; a store carries their
state as `services`, and `Services` says what they are asked (`InventorySerialService`,
`WACValuationService`, `settings_cache` and `inv_posting_adapter`).

Units, currencies, locations, dates other than those of a lot, and references are stored with a
movement and read by nobody here; they are left out.
-/

namespace DotmacErp.Inventory

open Relational Session

/-- A value as a `Numeric(20, 6)` column keeps it. -/
abbrev numeric (q : ℚ) : ℚ := Rounding.halfUp 6 q

theorem numeric_neg (q : ℚ) : numeric (-q) = -numeric q := Rounding.halfUp_neg 6 q

/-- `TransactionType`; RETURN is `returned`. -/
inductive TransactionType where
  | receipt
  | issue
  | transfer
  | adjustment
  | sale
  | returned
  | assembly
  | disassembly
  | scrap
  | countAdjustment
  deriving DecidableEq

inductive CostingMethod where
  | fifo
  | weightedAverage
  | specificIdentification
  | standardCost
  deriving DecidableEq

structure Item where
  organizationId : UUID
  costingMethod : CostingMethod
  standardCost : Option ℚ := none
  lastPurchaseCost : Option ℚ := none
  averageCost : Option ℚ := none
  trackLots : Bool := false
  trackSerialNumbers : Bool := false

structure Warehouse where
  organizationId : UUID
  isReceiving : Bool := true
  isShipping : Bool := true
  isActive : Bool := true

structure InventoryLot where
  organizationId : UUID
  itemId : UUID
  lotNumber : String
  manufactureDate : Option ℕ := none
  expiryDate : Option ℕ := none
  supplierLotNumber : Option String := none
  certificateOfAnalysis : Option String := none
  receivedDate : ℕ
  unitCost : ℚ
  initialQuantity : ℚ
  isActive : Bool := true

structure InventoryLotBalance where
  organizationId : UUID
  lotId : UUID
  warehouseId : Option UUID
  quantityOnHand : ℚ := 0
  quantityAllocated : ℚ := 0
  quantityAvailable : ℚ := 0
  isActive : Bool := true
  isQuarantined : Bool := false

/-- A stock movement. -/
structure InventoryTransaction where
  organizationId : UUID
  transactionType : TransactionType
  itemId : UUID
  warehouseId : UUID
  lotId : Option UUID := none
  toWarehouseId : Option UUID := none
  quantity : ℚ
  unitCost : ℚ
  totalCost : ℚ
  costVariance : ℚ := 0
  quantityBefore : ℚ
  quantityAfter : ℚ

/-- `TransactionInput`. Texts are given without blanks at their ends, and the number a new lot
would get comes with the input. -/
structure TransactionInput where
  transactionType : TransactionType
  transactionDate : ℕ
  itemId : UUID
  warehouseId : UUID
  quantity : ℚ
  unitCost : ℚ
  lotId : Option UUID := none
  lotNumber : String := ""
  lotManufactureDate : Option ℕ := none
  lotExpiryDate : Option ℕ := none
  lotSupplierLotNumber : Option String := none
  lotCertificateOfAnalysis : Option String := none
  toWarehouseId : Option UUID := none
  serialNumbers : List String := []
  allowMissingSerialNumbers : Bool := false
  generatedLotNumber : String := ""

/-- What the services raise. -/
inductive InventoryError where
  | http (statusCode : ℕ) (detail : String)
  | validation (message : String)
  | integrity (constraint : String)
  | other (message : String)

/-- The stock tables, and what the other services keep. -/
structure InventoryStore (β : Type) where
  items : Table Item := Table.empty
  warehouses : Table Warehouse := Table.empty
  lots : Table InventoryLot := Table.empty
  lotBalances : Table InventoryLotBalance := Table.empty
  transactions : Table InventoryTransaction := Table.empty
  services : β

/-- A program on the stock tables. -/
abbrev InventorySession (β α : Type) := Session InventoryError (InventoryStore β) α

/-- The services beside the stock. Each reads the whole store and leaves a state of its own; the
two of the weighted-average ledger also leave it when they raise, as the caller goes on then. -/
structure Services (β : Type) where
  normalizeSerialNumbers : List String → Except InventoryError (List String)
  receiveSerials : (serialNumbers : List String) → (transactionId : UUID) →
    (allowReturn : Bool) → InventoryStore β → Except InventoryError β
  issueSerials : (serialNumbers : List String) → (transactionId : UUID) → InventoryStore β →
    Except InventoryError β
  transferSerials : (serialNumbers : List String) → (issueId receiptId : UUID) →
    InventoryStore β → Except InventoryError β
  applyReceipt : (organizationId itemId warehouseId : UUID) → (quantity unitCost : ℚ) →
    (transactionId : UUID) → InventoryStore β → Except InventoryError ℚ × β
  applyIssue : (organizationId itemId warehouseId : UUID) → (quantity : ℚ) →
    (transactionId : UUID) → InventoryStore β → Except InventoryError ℚ × β
  realTimeValuation : (organizationId : UUID) → β → Bool
  postTransaction : (organizationId transactionId userId : UUID) → InventoryStore β →
    Except InventoryError β

variable {β : Type}

def callService (f : InventoryStore β → Except InventoryError β) :
    InventorySession β PUnit := do
  let s ← get
  match f s with
  | .ok services => set { s with services }
  | .error e => throw e

def askLedger (f : InventoryStore β → Except InventoryError ℚ × β) :
    InventorySession β (Option ℚ) := do
  let s ← get
  set { s with services := (f s).2 }
  match (f s).1 with
  | .ok averageCost => pure (some averageCost)
  | .error _ => pure none

def modifyItem (itemId : UUID) (f : Item → Item) : InventorySession β PUnit :=
  modify fun s => { s with items := s.items.modify itemId f }

def modifyLot (lotId : UUID) (f : InventoryLot → InventoryLot) : InventorySession β PUnit :=
  modify fun s => { s with lots := s.lots.modify lotId f }

def modifyLotBalance (balanceId : UUID) (f : InventoryLotBalance → InventoryLotBalance) :
    InventorySession β PUnit :=
  modify fun s => { s with lotBalances := s.lotBalances.modify balanceId f }

def getRow {α : Type} (table : InventoryStore β → Table α) (id : UUID) (ok : α → Bool)
    (e : InventoryError) : InventorySession β α := do
  let s ← get
  orRaise (((table s).get? id).filter ok) e

def getItem (org itemId : UUID) : InventorySession β Item :=
  getRow InventoryStore.items itemId (fun item => item.organizationId = org)
    (.http 404 "Item not found")

def getWarehouse (org warehouseId : UUID) (detail : String) :
    InventorySession β Warehouse :=
  getRow InventoryStore.warehouses warehouseId
    (fun warehouse => warehouse.organizationId = org) (.http 404 detail)

/-! ### What they leave alone -/

section Frames

variable {γ : Type} {view : InventoryStore β → γ}

def HidesLots (view : InventoryStore β → γ) : Prop :=
  ∀ s lots lotBalances, view { s with lots, lotBalances } = view s

theorem hidesLots_items : HidesLots (β := β) InventoryStore.items := fun _ _ _ => rfl

def HidesCosts (view : InventoryStore β → γ) : Prop :=
  ∀ s items services, view { s with items, services } = view s

def HidesServices (view : InventoryStore β → γ) : Prop :=
  ∀ s services, view { s with services } = view s

def HidesAverages (view : InventoryStore β → γ) : Prop :=
  HidesServices view ∧ ∀ s itemId (averageCost : Option ℚ),
    view { s with items := s.items.modify itemId fun item => { item with averageCost } } = view s

theorem HidesCosts.hidesServices (h : HidesCosts view) : HidesServices view :=
  fun s services => h s s.items services

theorem HidesCosts.hidesAverages (h : HidesCosts view) : HidesAverages view :=
  ⟨h.hidesServices, fun s _ _ => h s _ s.services⟩

theorem frames_callService (hview : HidesServices view)
    (f : InventoryStore β → Except InventoryError β) : Frames view (callService f) := by
  intro s a s' h
  rw [callService, get_bind] at h
  cases hf : f s with
  | error e => simp [hf] at h
  | ok services =>
    rw [hf] at h
    rw [set_eq_ok.mp h]
    exact hview s services

theorem frames_askLedger (hview : HidesServices view)
    (f : InventoryStore β → Except InventoryError ℚ × β) : Frames view (askLedger f) := by
  intro s a s' h
  rw [askLedger, get_bind] at h
  refine Frames.set h ?_ (hview s (f s).2)
  cases (f s).1 with
  | error e => exact .pure none
  | ok averageCost => exact .pure (some averageCost)

theorem frames_modifyItem (hview : HidesCosts view) (itemId : UUID) (f : Item → Item) :
    Frames view (modifyItem (β := β) itemId f) :=
  .modify fun s => hview s _ s.services

theorem frames_modifyLot (hview : HidesLots view) (lotId : UUID)
    (f : InventoryLot → InventoryLot) : Frames view (modifyLot (β := β) lotId f) :=
  .modify fun s => hview s _ s.lotBalances

theorem frames_modifyLotBalance (hview : HidesLots view) (balanceId : UUID)
    (f : InventoryLotBalance → InventoryLotBalance) :
    Frames view (modifyLotBalance (β := β) balanceId f) :=
  .modify fun s => hview s s.lots _

theorem frames_getRow {α : Type} (table : InventoryStore β → Table α) (id : UUID) (ok : α → Bool)
    (e : InventoryError) : Frames view (getRow table id ok e) :=
  .bind .get fun _ => .orRaise _ _

end Frames

end DotmacErp.Inventory
