import DotmacErp.Inventory.Transactions

/-!
# Lots by themselves

The service for lots allocates from a lot, consumes from it, and places it in quarantine or
releases it, in whatever warehouses it has balances. What is asked of a lot is spread over its
balances, as far as each has some (`spread`).

A call that names no organization finds the lot of any.
-/

namespace DotmacErp.Inventory

open Relational Session

variable {β : Type}

namespace InventoryLotBalance

def allocateFrom (quantity : ℚ) (balance : InventoryLotBalance) : InventoryLotBalance :=
  balance.reallocate (balance.quantityAllocated + quantity)

def quarantine (balance : InventoryLotBalance) : InventoryLotBalance :=
  { balance with isQuarantined := true, quantityAvailable := 0 }

def release (balance : InventoryLotBalance) : InventoryLotBalance :=
  { balance with
    isQuarantined := false
    quantityAvailable := numeric (balance.quantityOnHand - balance.quantityAllocated) }

end InventoryLotBalance

namespace LotSerialService

def getLot (org : Option UUID) (lotId : UUID) : InventorySession β InventoryLot := do
  let s ← get
  orRaise ((s.lots.get? lotId).filter fun lot =>
    org.all fun org => lot.organizationId = org)
    (.http 404 "Lot not found")

def getLotBalances (s : InventoryStore β) (lotId : UUID) : List (Stored InventoryLotBalance) :=
  s.lotBalances.select fun balance => balance.lotId = lotId

def spread (has : InventoryLotBalance → ℚ) :
    List (Stored InventoryLotBalance) → ℚ → List (Stored InventoryLotBalance × ℚ)
  | [], _ => []
  | balance :: balances, remaining =>
    if remaining ≤ 0 then []
    else if has balance.row ≤ 0 then spread has balances remaining
    else
      let quantity := min (has balance.row) remaining
      (balance, quantity) :: spread has balances (remaining - quantity)

def totalText (balances : List (Stored InventoryLotBalance)) (total : ℚ) : String :=
  if balances.isEmpty then "0" else Rounding.fixedText 6 total

def modifyEach (f : ℚ → InventoryLotBalance → InventoryLotBalance) :
    List (Stored InventoryLotBalance × ℚ) → InventorySession β PUnit
  | [] => pure ⟨⟩
  | (balance, quantity) :: rest => do
    modifyLotBalance balance.id (f quantity)
    modifyEach f rest

def allocateFromLot (org : Option UUID) (lotId : UUID) (quantity : ℚ) :
    InventorySession β PUnit := do
  let lot ← getLot org lotId
  let s ← get
  let balances := getLotBalances s lotId
  refuse (balances.any fun balance => balance.row.isQuarantined)
    (.http 400 s!"Lot {lot.lotNumber} is quarantined")
  let totalAvailable := (balances.map fun balance => balance.row.quantityAvailable).sum
  refuse (totalAvailable < quantity)
    (.http 400 (s!"Insufficient available quantity. Available: " ++
      s!"{totalText balances totalAvailable}"))
  modifyEach InventoryLotBalance.allocateFrom
    (spread InventoryLotBalance.quantityAvailable balances quantity)
  InventoryTransactionService.syncLegacyLotSnapshot lotId none

def consumeFromLot (org : Option UUID) (lotId : UUID) (quantity : ℚ) :
    InventorySession β PUnit := do
  let _ ← getLot org lotId
  let s ← get
  let balances := getLotBalances s lotId
  let totalOnHand := (balances.map fun balance => balance.row.quantityOnHand).sum
  refuse (totalOnHand < quantity)
    (.http 400 (s!"Cannot consume {Rounding.fixedText 6 quantity}. " ++
      s!"On hand: {totalText balances totalOnHand}"))
  modifyEach InventoryLotBalance.withdraw
    (spread InventoryLotBalance.quantityOnHand balances quantity)
  InventoryTransactionService.syncLegacyLotSnapshot lotId none

def modifyLotBalances (lotId : UUID) (f : InventoryLotBalance → InventoryLotBalance) :
    InventorySession β PUnit :=
  modify fun s => { s with
    lotBalances := s.lotBalances.update (fun balance => balance.lotId = lotId) f }

def quarantineLot (org : Option UUID) (lotId : UUID) : InventorySession β PUnit := do
  let _ ← getLot org lotId
  modifyLotBalances lotId InventoryLotBalance.quarantine
  InventoryTransactionService.syncLegacyLotSnapshot lotId none

def releaseQuarantine (org : Option UUID) (lotId : UUID) :
    InventorySession β PUnit := do
  let _ ← getLot org lotId
  modifyLotBalances lotId InventoryLotBalance.release
  InventoryTransactionService.syncLegacyLotSnapshot lotId none

end LotSerialService

end DotmacErp.Inventory
