import DotmacErp.Inventory.Transactions

/-!
# The steps of a movement

What the creators of movements do before they touch anything is read and refuse; each then takes a
few steps that write, and these are all that later results need. One lemma for each creator says
what was read and names the state after each writing step: the lots, the row of the movement, the
services beside the stock, the average cost of the item, the posting.
-/

namespace DotmacErp.Inventory

open Relational Session

namespace InventoryTransactionService

variable {β : Type} {s s' : InventoryStore β} {v : Services β} {org userId : UUID}
  {input : TransactionInput}

theorem reads {α γ : Type} {x : InventorySession β α} {f : α → InventorySession β γ} {c : γ}
    (hx : Frames id x) (h : (x >>= f) s = .ok c s') : ∃ a, x s = .ok a s ∧ f a s = .ok c s' := by
  obtain ⟨a, s₁, hxs, hf, hview⟩ := hx.step h
  obtain rfl : s₁ = s := hview
  exact ⟨a, hxs, hf⟩

theorem getRow_eq_ok {α : Type} {table : InventoryStore β → Table α} {id : UUID} {ok : α → Bool}
    {e : InventoryError} {a : α} (h : getRow table id ok e s = .ok a s') :
    (table s).get? id = some a ∧ ok a = true ∧ s' = s := by
  rw [getRow, get_bind, orRaise_eq_ok, Option.filter_eq_some_iff] at h
  exact ⟨h.1.1, h.1.2, h.2⟩

structure ItemOf (s : InventoryStore β) (organizationId itemId : UUID) (item : Item) : Prop where
  found : s.items.get? itemId = some item
  organization : item.organizationId = organizationId

theorem getItem_eq_ok {itemId : UUID} {item : Item}
    (h : getItem org itemId s = .ok item s') : ItemOf s org itemId item := by
  obtain ⟨hget, hok, -⟩ := getRow_eq_ok h
  exact ⟨hget, by simpa using hok⟩

/-! ### Receipts -/

def receiptRow (s : InventoryStore β) (org : UUID) (item : Item)
    (input : TransactionInput) (lotId : Option UUID) : InventoryTransaction :=
  let qtyBefore := getCurrentBalance s org input.itemId input.warehouseId
  let standard := item.standardCost.getD 0
  let unitCost := if item.costingMethod = .standardCost then standard else input.unitCost
  { organizationId := org
    transactionType := input.transactionType
    itemId := input.itemId
    warehouseId := input.warehouseId
    lotId := lotId
    quantity := input.quantity
    unitCost := unitCost
    totalCost := input.quantity * unitCost
    costVariance := if item.costingMethod = .standardCost
      then (input.unitCost - standard) * input.quantity else 0
    quantityBefore := qtyBefore
    quantityAfter := qtyBefore + input.quantity }

/-- The state of a receipt that has read what it needs. -/
def withPurchaseCost (s : InventoryStore β) (input : TransactionInput) : InventoryStore β :=
  { s with items := s.items.modify input.itemId fun item =>
    { item with lastPurchaseCost := some (numeric input.unitCost) } }

/-- The steps of a receipt: the lots, the row, the serial numbers, the average cost and the
posting. -/
structure ReceiptSteps (v : Services β) (organizationId userId : UUID) (input : TransactionInput)
    (s s' : InventoryStore β) (id : UUID) (item : Item) (lotId : Option UUID)
    (s₁ s₂ s₃ s₄ : InventoryStore β) : Prop where
  positive : 0 < input.quantity
  found : ItemOf s organizationId input.itemId item
  lot : receiptLot item input (withPurchaseCost s input) = .ok lotId s₁
  row : addTransaction (receiptRow s organizationId item input lotId) s₁ = .ok id s₂
  serials : ∃ (track : Bool) (numbers : List String), runIf track (callService
    (v.receiveSerials numbers id (input.transactionType = .returned))) s₂ = .ok ⟨⟩ s₃
  average : runIf (item.costingMethod = .weightedAverage)
    (averageAfterReceipt v organizationId input id) s₃ = .ok ⟨⟩ s₄
  posting : postInRealTime v organizationId id userId s₄ = .ok ⟨⟩ s'

theorem createReceipt_steps {id : UUID}
    (h : createReceipt v org input userId s = .ok id s') :
    ∃ item lotId s₁ s₂ s₃ s₄,
      ReceiptSteps v org userId input s s' id item lotId s₁ s₂ s₃ s₄ := by
  rw [createReceipt, refuse_bind] at h
  obtain ⟨hpositive, h⟩ := h
  obtain ⟨item, hitem, h⟩ := reads (frames_getItem _ _) h
  obtain ⟨serialNumbers, -, h⟩ := reads (frames_serialsOf v input) h
  obtain ⟨-, -, h⟩ := reads (.runIf (frames_validateSerialQuantity _ _)) h
  obtain ⟨warehouse, -, h⟩ := reads (frames_getWarehouse _ _ _) h
  rw [refuse_bind, get_bind] at h
  obtain ⟨-, h⟩ := h
  obtain ⟨_, s₀, hcost, h⟩ := bind_eq_ok.mp h
  obtain rfl : s₀ = withPurchaseCost s input := modify_eq_ok.mp hcost
  obtain ⟨lotId, s₁, hlot, h⟩ := bind_eq_ok.mp h
  obtain ⟨id', s₂, hrow, h⟩ := bind_eq_ok.mp h
  obtain ⟨_, s₃, hserials, h⟩ := bind_eq_ok.mp h
  obtain ⟨_, s₄, haverage, h⟩ := bind_eq_ok.mp h
  obtain ⟨_, s₅, hposting, h⟩ := bind_eq_ok.mp h
  obtain ⟨rfl, rfl⟩ := pure_eq_ok.mp h
  exact ⟨item, lotId, s₁, s₂, s₃, s₄, not_le.mp hpositive, getItem_eq_ok hitem, hlot, hrow,
    ⟨_, _, hserials⟩, haverage, hposting⟩

section Receipts

variable {γ : Type} {view : InventoryStore β → γ} {input : TransactionInput} {id : UUID}
  {item : Item} {lotId : Option UUID} {s₁ s₂ s₃ s₄ : InventoryStore β}

/-- What is not about lots is there when the receipt is recorded. -/
theorem ReceiptSteps.first (h : ReceiptSteps v org userId input s s' id item lotId s₁ s₂ s₃ s₄)
    (hview : HidesLots view) : view s₁ = view (withPurchaseCost s input) :=
  frames_receiptLot hview _ _ (withPurchaseCost s input) _ _ h.lot

/-- What is not about costs stays as it is when the receipt is recorded. -/
theorem ReceiptSteps.later (h : ReceiptSteps v org userId input s s' id item lotId s₁ s₂ s₃ s₄)
    (hview : HidesCosts view) : view s' = view s₂ := by
  obtain ⟨track, numbers, hserials⟩ := h.serials
  exact (frames_postInRealTime hview.hidesServices _ _ _ _ _ _ _ h.posting).trans
    ((Frames.runIf (frames_averageAfterReceipt hview _ _ _ _) _ _ _ h.average).trans
      (Frames.runIf (frames_callService hview.hidesServices _) _ _ _ hserials))

end Receipts

/-! ### Issues -/

def issueRow (s : InventoryStore β) (org : UUID) (input : TransactionInput)
    (cost : FifoResult) : InventoryTransaction :=
  let qtyBefore := getCurrentBalance s org input.itemId input.warehouseId
  { organizationId := org
    transactionType := input.transactionType
    itemId := input.itemId
    warehouseId := input.warehouseId
    lotId := cost.firstLotId
    quantity := input.quantity
    unitCost := cost.unitCost
    totalCost := cost.totalCost
    quantityBefore := qtyBefore
    quantityAfter := qtyBefore - input.quantity }

/-- The steps of an issue: the cost, which may consume lots, the lot, the row, the serial numbers,
the average cost and the posting. -/
structure IssueSteps (v : Services β) (organizationId userId : UUID) (input : TransactionInput)
    (s s' : InventoryStore β) (id : UUID) (item : Item) (lotId : Option UUID) (cost : FifoResult)
    (s₁ s₂ s₃ s₄ s₅ : InventoryStore β) : Prop where
  positive : 0 < input.quantity
  found : ItemOf s organizationId input.itemId item
  enough : input.quantity ≤ getCurrentBalance s organizationId input.itemId input.warehouseId
  lot : issueLot item input s = .ok lotId s
  costing : issueCost organizationId item input lotId s = .ok cost s₁
  consume : consumeIssueLot item input cost.firstLotId s₁ = .ok ⟨⟩ s₂
  row : addTransaction (issueRow s organizationId input cost) s₂ = .ok id s₃
  serials : ∃ (track : Bool) (numbers : List String), runIf track (callService
    (v.issueSerials numbers id)) s₃ = .ok ⟨⟩ s₄
  average : runIf (item.costingMethod = .weightedAverage)
    (averageAfterIssue v organizationId input id) s₄ = .ok ⟨⟩ s₅
  posting : postInRealTime v organizationId id userId s₅ = .ok ⟨⟩ s'

theorem createIssue_steps {id : UUID}
    (h : createIssue v org input userId s = .ok id s') :
    ∃ item lotId cost s₁ s₂ s₃ s₄ s₅,
      IssueSteps v org userId input s s' id item lotId cost s₁ s₂ s₃ s₄ s₅ := by
  rw [createIssue, refuse_bind] at h
  obtain ⟨hpositive, h⟩ := h
  obtain ⟨item, hitem, h⟩ := reads (frames_getItem _ _) h
  obtain ⟨serialNumbers, -, h⟩ := reads (frames_serialsOf v input) h
  obtain ⟨-, -, h⟩ := reads (.runIf (frames_validateSerialQuantity _ _)) h
  obtain ⟨warehouse, -, h⟩ := reads (frames_getWarehouse _ _ _) h
  rw [refuse_bind, refuse_bind, get_bind, refuse_bind] at h
  obtain ⟨-, -, henough, h⟩ := h
  obtain ⟨lotId, hlot, h⟩ := reads (frames_issueLot item input) h
  obtain ⟨cost, s₁, hcost, h⟩ := bind_eq_ok.mp h
  obtain ⟨_, s₂, hconsume, h⟩ := bind_eq_ok.mp h
  obtain ⟨id', s₃, hrow, h⟩ := bind_eq_ok.mp h
  obtain ⟨_, s₄, hserials, h⟩ := bind_eq_ok.mp h
  obtain ⟨_, s₅, haverage, h⟩ := bind_eq_ok.mp h
  obtain ⟨_, s₆, hposting, h⟩ := bind_eq_ok.mp h
  obtain ⟨rfl, rfl⟩ := pure_eq_ok.mp h
  exact ⟨item, lotId, cost, s₁, s₂, s₃, s₄, s₅, not_le.mp hpositive, getItem_eq_ok hitem,
    not_lt.mp henough, hlot, hcost, hconsume, hrow, ⟨_, _, hserials⟩, haverage, hposting⟩

section Issues

variable {γ : Type} {view : InventoryStore β → γ} {input : TransactionInput} {id : UUID}
  {item : Item} {lotId : Option UUID} {cost : FifoResult} {s₁ s₂ s₃ s₄ s₅ : InventoryStore β}

/-- What is not about lots is there when the issue is recorded. -/
theorem IssueSteps.first
    (h : IssueSteps v org userId input s s' id item lotId cost s₁ s₂ s₃ s₄ s₅)
    (hview : HidesLots view) : view s₂ = view s :=
  (frames_consumeIssueLot hview _ _ _ _ _ _ h.consume).trans
    (frames_issueCost hview _ _ _ _ _ _ _ h.costing)

/-- What is not about average costs stays as it is when the issue is recorded. -/
theorem IssueSteps.later
    (h : IssueSteps v org userId input s s' id item lotId cost s₁ s₂ s₃ s₄ s₅)
    (hview : HidesAverages view) : view s' = view s₃ := by
  obtain ⟨track, numbers, hserials⟩ := h.serials
  exact (frames_postInRealTime hview.1 _ _ _ _ _ _ _ h.posting).trans
    ((Frames.runIf (frames_averageAfterIssue hview _ _ _ _) _ _ _ h.average).trans
      (Frames.runIf (frames_callService hview.1 _) _ _ _ hserials))

end Issues

/-! ### Adjustments -/

def adjustmentRow (s : InventoryStore β) (org : UUID) (item : Item)
    (input : TransactionInput) : InventoryTransaction :=
  let qtyBefore := getCurrentBalance s org input.itemId input.warehouseId
  let unitCost := (setCost item.averageCost).getD input.unitCost
  { organizationId := org
    transactionType := input.transactionType
    itemId := input.itemId
    warehouseId := input.warehouseId
    lotId := input.lotId
    quantity := input.quantity
    unitCost := unitCost
    totalCost := |input.quantity| * unitCost
    quantityBefore := qtyBefore
    quantityAfter := qtyBefore + input.quantity }

def CoversAdjustment (s : InventoryStore β) (lot : Option (UUID × UUID × Option UUID))
    (quantity : ℚ) : Prop :=
  quantity < 0 → ∀ x ∈ lot, ∀ balance ∈ s.lotBalances.get? x.2.1,
    |quantity| ≤ balance.quantityOnHand

structure AdjustmentSteps (v : Services β) (organizationId userId : UUID)
    (input : TransactionInput) (s s' : InventoryStore β) (id : UUID) (item : Item)
    (lot : Option (UUID × UUID × Option UUID)) (s₁ s₂ s₃ : InventoryStore β) : Prop where
  found : ItemOf s organizationId input.itemId item
  balance : adjustmentBalance item input s = .ok lot s₁
  enough : input.quantity < 0 →
    |input.quantity| ≤ getCurrentBalance s organizationId input.itemId input.warehouseId
  covers : CoversAdjustment s₁ lot input.quantity
  row : addTransaction (adjustmentRow s organizationId item input) s₁ = .ok id s₂
  adjust : adjustLot lot input.quantity s₂ = .ok ⟨⟩ s₃
  posting : postInRealTime v organizationId id userId s₃ = .ok ⟨⟩ s'

theorem createAdjustment_steps {id : UUID}
    (h : createAdjustment v org input userId s = .ok id s') :
    ∃ item lot s₁ s₂ s₃,
      AdjustmentSteps v org userId input s s' id item lot s₁ s₂ s₃ := by
  rw [createAdjustment] at h
  obtain ⟨item, hitem, h⟩ := reads (frames_getItem _ _) h
  obtain ⟨warehouse, -, h⟩ := reads (frames_getWarehouse _ _ _) h
  rw [get_bind] at h
  obtain ⟨lot, s₁, hbalance, h⟩ := bind_eq_ok.mp h
  rw [refuse_bind, get_bind, refuse_bind] at h
  obtain ⟨henough, hcovers, h⟩ := h
  obtain ⟨id', s₂, hrow, h⟩ := bind_eq_ok.mp h
  obtain ⟨_, s₃, hadjust, h⟩ := bind_eq_ok.mp h
  obtain ⟨_, s₄, hposting, h⟩ := bind_eq_ok.mp h
  obtain ⟨rfl, rfl⟩ := pure_eq_ok.mp h
  refine ⟨item, lot, s₁, s₂, s₃, getItem_eq_ok hitem, hbalance,
    fun hneg => not_lt.mp (not_and.mp henough hneg), ?_, hrow, hadjust, hposting⟩
  intro hneg x hx balance hget
  by_contra hlt
  refine hcovers ⟨hneg, ?_⟩
  rw [Option.mem_def] at hx hget
  simp [hx, hget, not_le.mp hlt]

/-! ### Transfers -/

def transferRow (s : InventoryStore β) (org warehouseId : UUID)
    (toWarehouseId : Option UUID) (item : Item) (input : TransactionInput) (change : ℚ) :
    InventoryTransaction :=
  let qtyBefore := getCurrentBalance s org input.itemId warehouseId
  let unitCost := (setCost item.averageCost).getD input.unitCost
  { organizationId := org
    transactionType := .transfer
    itemId := input.itemId
    warehouseId := warehouseId
    lotId := input.lotId
    toWarehouseId := toWarehouseId
    quantity := change
    unitCost := unitCost
    totalCost := input.quantity * unitCost
    quantityBefore := qtyBefore
    quantityAfter := qtyBefore + change }

/-- The steps of a transfer: the balances of its lot, the two rows, the lot and the serial
numbers. -/
structure TransferSteps (v : Services β) (organizationId : UUID) (input : TransactionInput)
    (s s' : InventoryStore β) (ids : UUID × UUID) (toWarehouseId : UUID) (item : Item)
    (lot : Option (UUID × UUID × UUID × Option UUID)) (s₁ s₂ s₃ s₄ : InventoryStore β) :
    Prop where
  destination : input.toWarehouseId = some toWarehouseId
  positive : 0 < input.quantity
  apart : input.warehouseId ≠ toWarehouseId
  found : ItemOf s organizationId input.itemId item
  balances : transferBalances item input toWarehouseId s = .ok lot s₁
  enough : input.quantity ≤ getCurrentBalance s₁ organizationId input.itemId input.warehouseId
  issue : addTransaction (transferRow s₁ organizationId input.warehouseId (some toWarehouseId) item
    input (-input.quantity)) s₁ = .ok ids.1 s₂
  receipt : addTransaction (transferRow s₁ organizationId toWarehouseId none item input
    input.quantity) s₂ = .ok ids.2 s₃
  move : moveLot lot input.quantity s₃ = .ok ⟨⟩ s₄
  serials : ∃ (track : Bool) (numbers : List String), runIf track (callService
    (v.transferSerials numbers ids.1 ids.2)) s₄ = .ok ⟨⟩ s'

theorem createTransfer_steps {ids : UUID × UUID}
    (h : createTransfer v org input s = .ok ids s') :
    ∃ toWarehouseId item lot s₁ s₂ s₃ s₄,
      TransferSteps v org input s s' ids toWarehouseId item lot s₁ s₂ s₃ s₄ := by
  rw [createTransfer, orRaise_bind] at h
  obtain ⟨toWarehouseId, hdestination, h⟩ := h
  rw [refuse_bind, refuse_bind] at h
  obtain ⟨hpositive, hapart, h⟩ := h
  obtain ⟨item, hitem, h⟩ := reads (frames_getItem _ _) h
  obtain ⟨serialNumbers, -, h⟩ := reads (frames_serialsOf v input) h
  obtain ⟨-, -, h⟩ := reads (.runIf (frames_validateSerialQuantity _ _)) h
  obtain ⟨source, -, h⟩ := reads (frames_getWarehouse _ _ _) h
  obtain ⟨destination, -, h⟩ := reads (frames_getWarehouse _ _ _) h
  obtain ⟨lot, s₁, hbalances, h⟩ := bind_eq_ok.mp h
  rw [get_bind, refuse_bind] at h
  obtain ⟨henough, h⟩ := h
  obtain ⟨issueId, s₂, hissue, h⟩ := bind_eq_ok.mp h
  obtain ⟨receiptId, s₃, hreceipt, h⟩ := bind_eq_ok.mp h
  obtain ⟨_, s₄, hmove, h⟩ := bind_eq_ok.mp h
  obtain ⟨_, s₅, hserials, h⟩ := bind_eq_ok.mp h
  obtain ⟨rfl, rfl⟩ := pure_eq_ok.mp h
  refine ⟨toWarehouseId, item, lot, s₁, s₂, s₃, s₄, hdestination, not_le.mp hpositive, hapart,
    getItem_eq_ok hitem, hbalances, not_lt.mp henough, ?_, hreceipt, hmove, ⟨_, _, hserials⟩⟩
  rw [transferRow, ← sub_eq_add_neg]
  exact hissue

end InventoryTransactionService

/-! ### Any movement -/

def TransactionType.IsReceipt (type : TransactionType) : Prop :=
  type = .receipt ∨ type = .returned ∨ type = .assembly

def TransactionType.IsIssue (type : TransactionType) : Prop :=
  type = .issue ∨ type = .sale ∨ type = .disassembly

theorem TransactionType.IsReceipt.ne_transfer {type : TransactionType} (h : type.IsReceipt) :
    type ≠ .transfer := by
  rcases h with rfl | rfl | rfl <;> decide

theorem TransactionType.IsIssue.ne_transfer {type : TransactionType} (h : type.IsIssue) :
    type ≠ .transfer := by
  rcases h with rfl | rfl | rfl <;> decide

def TransactionType.IsAdjustment (type : TransactionType) : Prop :=
  type = .adjustment ∨ type = .countAdjustment ∨ type = .scrap

instance (type : TransactionType) : Decidable type.IsReceipt :=
  inferInstanceAs (Decidable (_ ∨ _))

instance (type : TransactionType) : Decidable type.IsIssue :=
  inferInstanceAs (Decidable (_ ∨ _))

instance (type : TransactionType) : Decidable type.IsAdjustment :=
  inferInstanceAs (Decidable (_ ∨ _))

namespace InventoryTransactionService

variable {β : Type} {s s' : InventoryStore β} {v : Services β}

/-- The creator that records a movement. -/
inductive Created (v : Services β) (org userId : UUID) (input : TransactionInput)
    (s s' : InventoryStore β) (id : UUID) : Prop where
  | receipt (type : input.transactionType.IsReceipt)
      (run : createReceipt v org input userId s = .ok id s')
  | issue (type : input.transactionType.IsIssue)
      (run : createIssue v org input userId s = .ok id s')
  | adjustment (type : input.transactionType.IsAdjustment)
      (run : createAdjustment v org input userId s = .ok id s')
  | transfer (type : input.transactionType = .transfer) (ids : UUID × UUID)
      (run : createTransfer v org input s = .ok ids s')

theorem createTransaction_eq_created {org userId id : UUID} {input : TransactionInput}
    (h : createTransaction v org input userId s = .ok id s') :
    Created v org userId input s s' id := by
  rw [createTransaction] at h
  cases htype : input.transactionType with
  | receipt | returned | assembly =>
    rw [htype] at h
    exact .receipt (by rw [htype]; decide) h
  | issue | sale | disassembly =>
    rw [htype] at h
    exact .issue (by rw [htype]; decide) h
  | adjustment | countAdjustment | scrap =>
    rw [htype] at h
    exact .adjustment (by rw [htype]; decide) h
  | transfer =>
    rw [htype] at h
    obtain ⟨ids, htransfer, -⟩ := map_eq_ok.mp h
    exact .transfer htype ids htransfer

end InventoryTransactionService

end DotmacErp.Inventory
