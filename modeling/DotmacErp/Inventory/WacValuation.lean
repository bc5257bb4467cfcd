import DotmacErp.Foundation.Keyed
import DotmacErp.Inventory.Transactions

/-!
# The weighted-average ledger

`WACValuationService`: per organization, item and warehouse the ledger keeps a quantity, an average
cost and a value. A receipt adds its cost to the value and divides by the new quantity, an issue
goes out at the average; both then set the value to the quantity times the rounded average. A ledger
row that does not exist yet is opened from the movements recorded so far, at the item's average cost
(`rebuildSnapshotFromTransactions`).

The ledger is one of the services beside the stock: `withLedgers` is the services of a store with
the ledger among them.
-/

namespace DotmacErp.Inventory

open Relational Rounding

variable {β : Type}

structure ItemWacLedger where
  organizationId : UUID
  itemId : UUID
  warehouseId : UUID
  currentWac : ℚ
  quantityOnHand : ℚ
  totalValue : ℚ
  lastTransactionId : Option UUID

/-- What the ledger row is about; no two rows share it (`uq_item_wac`). -/
def ItemWacLedger.key (ledger : ItemWacLedger) : StockKey :=
  ⟨ledger.organizationId, ledger.itemId, ledger.warehouseId⟩

/-- The ledger, and what the other services keep. -/
structure WacStore (β : Type) where
  ledgers : Table ItemWacLedger := Table.empty
  others : β

def InventoryStore.plain (s : InventoryStore (WacStore β)) : InventoryStore β where
  items := s.items
  warehouses := s.warehouses
  lots := s.lots
  lotBalances := s.lotBalances
  transactions := s.transactions
  services := s.services.others

def ledgerAt (s : InventoryStore (WacStore β)) (key : StockKey) : Option ItemWacLedger :=
  s.services.ledgers.at? ItemWacLedger.key key

def InventoryStore.withLedger (s : InventoryStore (WacStore β)) (ledgers : Table ItemWacLedger) :
    InventoryStore (WacStore β) :=
  { s with services := { s.services with ledgers } }

/-- Quantities moved and average costs are six-decimal numbers, as their columns are. -/
structure InColumns (s : InventoryStore β) : Prop where
  averageCost : ∀ k item, s.items.get? k = some item → ∀ a ∈ item.averageCost, AtScale 6 a
  quantity : ∀ k t, s.transactions.get? k = some t → AtScale 6 t.quantity

theorem InColumns.balance {s : InventoryStore β} (h : InColumns s) (key : StockKey) :
    AtScale 6 (InventoryTransactionService.getCurrentBalance s key.organizationId key.itemId
      key.warehouseId) := by
  refine atScale_sum fun q hq => ?_
  obtain ⟨t, ht, rfl⟩ := List.mem_map.mp hq
  obtain ⟨r, hr, rfl⟩ := List.mem_map.mp ht
  have hscale := h.quantity r.id r.row (Table.mem_select.mp hr).1
  cases r.row.transactionType <;> first | exact hscale | exact hscale.neg

theorem InColumns.openingWac {s : InventoryStore β} (h : InColumns s) (itemId : UUID) :
    AtScale 6 (((s.items.get? itemId).bind Item.averageCost).getD 0) := by
  cases hitem : s.items.get? itemId with
  | none => exact atScale_zero 6
  | some item =>
    cases haverage : item.averageCost with
    | none =>
      rw [Option.bind_some, haverage]
      exact atScale_zero 6
    | some a =>
      rw [Option.bind_some, haverage]
      exact h.averageCost itemId item hitem a haverage

structure WacSnapshot where
  quantity : ℚ
  wac : ℚ
  totalValue : ℚ

structure WacResult where
  previousWac : ℚ
  newWac : ℚ
  unitCost : ℚ
  totalCost : ℚ
  newBalanceQty : ℚ
  newBalanceValue : ℚ

namespace WacValuationService

def ledgerRow (key : StockKey) (wac quantity value : ℚ) (transactionId : Option UUID) :
    ItemWacLedger where
  organizationId := key.organizationId
  itemId := key.itemId
  warehouseId := key.warehouseId
  currentWac := numeric wac
  quantityOnHand := numeric quantity
  totalValue := numeric value
  lastTransactionId := transactionId

/-- `_get_or_create_ledger`, and its columns set. -/
def writeLedger (row : ItemWacLedger) (ledgers : Table ItemWacLedger) : Table ItemWacLedger :=
  ledgers.upsert ItemWacLedger.key row.key
    (fun ledger => { ledger with
      currentWac := row.currentWac
      quantityOnHand := row.quantityOnHand
      totalValue := row.totalValue
      lastTransactionId := row.lastTransactionId })
    row

/-- `_rebuild_snapshot_from_transactions`, with the ledger it leaves. -/
def rebuildSnapshotFromTransactions (key : StockKey) (s : InventoryStore (WacStore β)) :
    WacSnapshot × Table ItemWacLedger :=
  let qty := InventoryTransactionService.getCurrentBalance s key.organizationId key.itemId
    key.warehouseId
  if qty ≤ 0 then (⟨0, 0, 0⟩, s.services.ledgers)
  else
    let wac := ((s.items.get? key.itemId).bind Item.averageCost).getD 0
    let totalValue := numeric (qty * wac)
    (⟨qty, wac, totalValue⟩,
      writeLedger (ledgerRow key wac qty totalValue none) s.services.ledgers)

/-- `get_snapshot`, with the ledger it leaves. -/
def getSnapshot (key : StockKey) (s : InventoryStore (WacStore β)) :
    WacSnapshot × Table ItemWacLedger :=
  match ledgerAt s key with
  | some ledger =>
    (⟨ledger.quantityOnHand, ledger.currentWac, ledger.totalValue⟩, s.services.ledgers)
  | none => rebuildSnapshotFromTransactions key s

def receiptResult (current : WacSnapshot) (receiptQty receiptUnitCost : ℚ) : WacResult :=
  let receiptTotal := receiptQty * receiptUnitCost
  let newQty := current.quantity + receiptQty
  let newWac := if newQty = 0 then 0 else numeric ((current.totalValue + receiptTotal) / newQty)
  { previousWac := current.wac
    newWac := newWac
    unitCost := receiptUnitCost
    totalCost := receiptTotal
    newBalanceQty := newQty
    newBalanceValue := numeric (newQty * newWac) }

/-- `calculate_receipt_cost`, after the snapshot. -/
def calculateReceiptCost (current : WacSnapshot) (receiptQty receiptUnitCost : ℚ) :
    Except InventoryError WacResult :=
  if receiptQty ≤ 0 then .error (.other "Receipt quantity must be positive.")
  else if receiptUnitCost < 0 then .error (.other "Receipt unit cost cannot be negative.")
  else .ok (receiptResult current receiptQty receiptUnitCost)

def issueResult (current : WacSnapshot) (issueQty : ℚ) : WacResult :=
  let newQty := current.quantity - issueQty
  { previousWac := current.wac
    newWac := current.wac
    unitCost := current.wac
    totalCost := numeric (issueQty * current.wac)
    newBalanceQty := newQty
    newBalanceValue := numeric (newQty * current.wac) }

/-- `calculate_issue_cost`, after the snapshot. -/
def calculateIssueCost (current : WacSnapshot) (issueQty : ℚ) : Except InventoryError WacResult :=
  if issueQty ≤ 0 then .error (.other "Issue quantity must be positive.")
  else if current.quantity < issueQty then
    .error (.other (s!"Insufficient stock: {Rounding.fixedText 6 current.quantity} available, " ++
      s!"{Rounding.fixedText 6 issueQty} requested"))
  else .ok (issueResult current issueQty)

/-- The result is written to the ledger row; an error leaves what the snapshot has opened. -/
def applyResult (key : StockKey) (transactionId : Option UUID)
    (result : Except InventoryError WacResult) (ledgers : Table ItemWacLedger) :
    Except InventoryError WacResult × Table ItemWacLedger :=
  match result with
  | .error e => (.error e, ledgers)
  | .ok result => (.ok result, writeLedger (ledgerRow key result.newWac result.newBalanceQty
      result.newBalanceValue transactionId) ledgers)

/-- `apply_receipt`, with the ledger it leaves. -/
def applyReceipt (key : StockKey) (receiptQty receiptUnitCost : ℚ) (transactionId : Option UUID)
    (s : InventoryStore (WacStore β)) : Except InventoryError WacResult × Table ItemWacLedger :=
  let (current, ledgers) := getSnapshot key s
  applyResult key transactionId (calculateReceiptCost current receiptQty receiptUnitCost) ledgers

/-- `apply_issue`, with the ledger it leaves. -/
def applyIssue (key : StockKey) (issueQty : ℚ) (transactionId : Option UUID)
    (s : InventoryStore (WacStore β)) : Except InventoryError WacResult × Table ItemWacLedger :=
  let (current, ledgers) := getSnapshot key s
  applyResult key transactionId (calculateIssueCost current issueQty) ledgers

/-! ### What the ledger holds afterwards -/

section Ledger

variable {ledgers : Table ItemWacLedger} {row : ItemWacLedger} {key : StockKey}
  {wac quantity value receiptQty receiptUnitCost issueQty : ℚ} {transactionId : Option UUID}
  {s : InventoryStore (WacStore β)}

@[simp] theorem key_ledgerRow :
    (ledgerRow key wac quantity value transactionId).key = key := rfl

theorem keyed_writeLedger (h : ledgers.Keyed ItemWacLedger.key) :
    (writeLedger row ledgers).Keyed ItemWacLedger.key :=
  h.upsert (fun _ => rfl) rfl

theorem at?_writeLedger (h : ledgers.Keyed ItemWacLedger.key) (k : StockKey) :
    (writeLedger row ledgers).at? ItemWacLedger.key k =
      if row.key = k then some row else ledgers.at? ItemWacLedger.key k := by
  rw [writeLedger, h.at?_upsert ?_ ?_ k]
  rotate_left
  · exact fun _ => rfl
  · rfl
  split_ifs
  · cases hfound : ledgers.at? ItemWacLedger.key row.key with
    | none => rfl
    | some ledger =>
      have hkey : ledger.key = row.key := Table.key_of_at? hfound
      simp only [ItemWacLedger.key, StockKey.mk.injEq] at hkey
      simp only [Option.elim_some, hkey]
  · rfl

theorem at?_getSnapshot_of_ne (h : s.services.ledgers.Keyed ItemWacLedger.key) {k : StockKey}
    (hk : key ≠ k) : (getSnapshot key s).2.at? ItemWacLedger.key k = ledgerAt s k := by
  rw [getSnapshot]
  cases ledgerAt s key with
  | some ledger => rfl
  | none =>
    simp only [rebuildSnapshotFromTransactions]
    split_ifs
    · rfl
    · rw [at?_writeLedger h, key_ledgerRow, if_neg hk]
      rfl

theorem keyed_getSnapshot (h : s.services.ledgers.Keyed ItemWacLedger.key) :
    (getSnapshot key s).2.Keyed ItemWacLedger.key := by
  rw [getSnapshot]
  cases ledgerAt s key with
  | some ledger => exact h
  | none =>
    simp only [rebuildSnapshotFromTransactions]
    split_ifs
    · exact h
    · exact keyed_writeLedger h

theorem keyed_applyResult {result : Except InventoryError WacResult}
    (h : ledgers.Keyed ItemWacLedger.key) :
    (applyResult key transactionId result ledgers).2.Keyed ItemWacLedger.key := by
  cases result with
  | error e => exact h
  | ok result => exact keyed_writeLedger h

theorem at?_applyResult_of_ne {result : Except InventoryError WacResult}
    (h : ledgers.Keyed ItemWacLedger.key) {k : StockKey} (hk : key ≠ k) :
    (applyResult key transactionId result ledgers).2.at? ItemWacLedger.key k =
      ledgers.at? ItemWacLedger.key k := by
  cases result with
  | error e => rfl
  | ok result =>
    rw [applyResult, at?_writeLedger h, key_ledgerRow, if_neg hk]

theorem at?_applyResult_ok {result : WacResult} (h : ledgers.Keyed ItemWacLedger.key) :
    (applyResult key transactionId (.ok result) ledgers).2.at? ItemWacLedger.key key =
      some (ledgerRow key result.newWac result.newBalanceQty result.newBalanceValue
        transactionId) := by
  rw [applyResult, at?_writeLedger h, key_ledgerRow, if_pos rfl]

theorem getSnapshot_of_some {ledger : ItemWacLedger} (h : ledgerAt s key = some ledger) :
    getSnapshot key s =
      (⟨ledger.quantityOnHand, ledger.currentWac, ledger.totalValue⟩, s.services.ledgers) := by
  rw [getSnapshot, h]

theorem getSnapshot_of_none (h : ledgerAt s key = none) :
    getSnapshot key s = rebuildSnapshotFromTransactions key s := by
  rw [getSnapshot, h]

theorem getSnapshot_withLedger (hcolumns : InColumns s)
    (h : s.services.ledgers.Keyed ItemWacLedger.key) :
    (getSnapshot key (s.withLedger (getSnapshot key s).2)).1 = (getSnapshot key s).1 := by
  cases hfound : ledgerAt s key with
  | some ledger =>
    rw [getSnapshot_of_some hfound]
    exact congrArg Prod.fst (getSnapshot_of_some hfound)
  | none =>
    rw [getSnapshot_of_none hfound]
    by_cases hqty : InventoryTransactionService.getCurrentBalance s key.organizationId key.itemId
        key.warehouseId ≤ 0
    · have hnothing : rebuildSnapshotFromTransactions key s = (⟨0, 0, 0⟩, s.services.ledgers) :=
        if_pos hqty
      rw [hnothing]
      exact (congrArg Prod.fst (getSnapshot_of_none hfound)).trans (congrArg Prod.fst hnothing)
    · have hqtyScale := hcolumns.balance key
      have hwacScale := hcolumns.openingWac key.itemId
      simp only [rebuildSnapshotFromTransactions, if_neg hqty]
      generalize InventoryTransactionService.getCurrentBalance s key.organizationId key.itemId
        key.warehouseId = qty at hqtyScale ⊢
      generalize ((s.items.get? key.itemId).bind Item.averageCost).getD 0 = wac at hwacScale ⊢
      have hrow : ledgerAt (s.withLedger (writeLedger (ledgerRow key wac qty (numeric (qty * wac))
          none) s.services.ledgers)) key =
            some (ledgerRow key wac qty (numeric (qty * wac)) none) :=
        (at?_writeLedger h key).trans (if_pos key_ledgerRow)
      rw [getSnapshot_of_some hrow]
      simp only [ledgerRow, numeric, halfUp_halfUp, halfUp_of_atScale hqtyScale,
        halfUp_of_atScale hwacScale]

end Ledger

end WacValuationService

/-- The services with the weighted-average ledger among them. The others see the store without
it, and leave it. -/
def withLedgers (v : Services β) : Services (WacStore β) where
  normalizeSerialNumbers := v.normalizeSerialNumbers
  receiveSerials serialNumbers id allowReturn s :=
    (v.receiveSerials serialNumbers id allowReturn s.plain).map fun others =>
      { s.services with others }
  issueSerials serialNumbers id s :=
    (v.issueSerials serialNumbers id s.plain).map fun others => { s.services with others }
  transferSerials serialNumbers issueId receiptId s :=
    (v.transferSerials serialNumbers issueId receiptId s.plain).map fun others =>
      { s.services with others }
  applyReceipt org itemId warehouseId quantity unitCost transactionId s :=
    let (result, ledgers) := WacValuationService.applyReceipt ⟨org, itemId, warehouseId⟩
      quantity unitCost (some transactionId) s
    (result.map WacResult.newWac, { s.services with ledgers })
  applyIssue org itemId warehouseId quantity transactionId s :=
    let (result, ledgers) := WacValuationService.applyIssue ⟨org, itemId, warehouseId⟩
      quantity (some transactionId) s
    (result.map WacResult.newWac, { s.services with ledgers })
  realTimeValuation org services :=
    v.realTimeValuation org services.others
  postTransaction org transactionId userId s :=
    (v.postTransaction org transactionId userId s.plain).map fun others =>
      { s.services with others }

end DotmacErp.Inventory
