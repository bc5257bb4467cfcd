import DotmacErp.Inventory.LotBalances

/-!
# Movements of items in lots

One lemma for each creator of movements says, in terms of the state before the call and the state
after it, which lot the movement is recorded for and what becomes of the lots: `ReceivesLot`,
`IssuesLot`, `AdjustsLot` and `MovesLot`. Whatever else a creator does leaves the lots.
-/

namespace DotmacErp.Inventory

open Relational Session InventoryTransactionService

variable {β : Type} {s s' : InventoryStore β} {v : Services β} {org userId id : UUID}
  {input : TransactionInput}

def Item.InLots (item : Item) : Prop := item.costingMethod = .fifo ∨ item.trackLots = true

instance (item : Item) : Decidable item.InLots := inferInstanceAs (Decidable (_ ∨ _))

def lotsOf (s : InventoryStore β) : Table InventoryLot × Table InventoryLotBalance :=
  (s.lots, s.lotBalances)

theorem hidesCosts_lotsOf : HidesCosts (β := β) lotsOf := fun _ _ _ => rfl

theorem lotsOf_addTransaction {t : InventoryTransaction} (h : addTransaction t s = .ok id s') :
    lotsOf s' = lotsOf s := by
  rw [(addTransaction_id h).2]
  rfl

structure RowOf (t : InventoryTransaction) (type : TransactionType) (lotId : Option UUID)
    (warehouseId : UUID) (quantity : ℚ) : Prop where
  type : t.transactionType = type
  lot : t.lotId = lotId
  warehouse : t.warehouseId = warehouseId
  quantity : t.quantity = numeric quantity

/-! ### Receipts -/

variable {item : Item}

theorem ReceivesLot.congr {lotId : UUID} {r r' : InventoryStore β}
    (h : ReceivesLot item input lotId r r') (hs : lotsOf s = lotsOf r)
    (hs' : lotsOf s' = lotsOf r') : ReceivesLot item input lotId s s' := by
  obtain ⟨hlots, hbalances⟩ := Prod.mk.inj hs
  obtain ⟨hlots', hbalances'⟩ := Prod.mk.inj hs'
  cases h with
  | into lot entered found ofItem lots balanceId balances balance =>
    have hentered : lotEntered s item input = some lotId := by
      rw [lotEntered, hlots]
      exact entered
    have honly : LotsOnly s s' := fun k => by
      rw [hlots, hlots']
      exact lots k
    have hof : balanceOf s lotId input.warehouseId = balanceOf r lotId input.warehouseId := by
      rw [balanceOf, balanceOf, hbalances]
    rw [← hlots] at found
    rw [← hbalances, ← hbalances'] at balances
    rw [← hbalances, ← hof] at balance
    exact .into lot hentered found ofItem honly balanceId balances balance
  | opened lot lots new ofItem balances =>
    rw [← hlots, ← hlots'] at lots
    rw [← hlots] at new
    rw [← hbalances, ← hbalances'] at balances
    exact .opened lot lots new ofItem balances

theorem createReceipt_lots (h : createReceipt v org input userId s = .ok id s') :
    ∃ item lotId t, 0 < input.quantity ∧ ItemOf s org input.itemId item ∧
      s'.transactions = s.transactions.insert t ∧
      RowOf t input.transactionType lotId input.warehouseId input.quantity ∧
      if item.InLots then ∃ lot, lotId = some lot ∧ ReceivesLot item input lot s s'
      else lotsOf s' = lotsOf s := by
  obtain ⟨item, lotId, s₁, s₂, s₃, s₄, h⟩ := createReceipt_steps h
  have hfirst : s₁.transactions = s.transactions := h.first hidesLots_transactions
  have hlater : s'.transactions = s₂.transactions := h.later hidesCosts_transactions
  have hlots : lotsOf s' = lotsOf s₁ :=
    (h.later hidesCosts_lotsOf).trans (lotsOf_addTransaction h.row)
  refine ⟨item, lotId, _, h.positive, h.found,
    by rw [hlater, addTransaction_eq_ok h.row, hfirst], ⟨rfl, rfl, rfl, rfl⟩, ?_⟩
  split_ifs with hin
  · obtain ⟨lot, hlot, hreceives⟩ := receiptLot_eq_ok hin h.lot
    exact ⟨lot, hlot, hreceives.congr rfl hlots⟩
  · have hlot := h.lot
    have hfifo : ¬ (decide (item.costingMethod = .fifo) || item.trackLots) = true := by
      simpa [Item.InLots] using hin
    rw [receiptLot, if_neg hfifo] at hlot
    obtain ⟨-, rfl⟩ := pure_eq_ok.mp hlot
    exact hlots

/-! ### Issues -/

structure AsksForLot (input : TransactionInput) (s : InventoryStore β) (lotId : UUID)
    (balance : Stored InventoryLotBalance) : Prop where
  asked : input.lotId = some lotId
  lot : ∃ lot, s.lots.get? lotId = some lot ∧ lot.itemId = input.itemId
  found : lotBalance? s lotId input.warehouseId = some balance
  quarantined : balance.row.isQuarantined = false
  available : input.quantity ≤ balance.row.quantityAvailable

inductive IssuesLot (org : UUID) (item : Item) (input : TransactionInput)
    (s s' : InventoryStore β) : Option UUID → Prop where
  | oldest {lotId : Option UUID} (fifo : item.costingMethod = .fifo)
      (asked : if item.trackLots then ∃ id balance, lotId = some id ∧ AsksForLot input s id balance
        else lotId = none)
      (lots : LotsOnly s s')
      (enough : input.quantity ≤
        layersTotal (fifoLayers s org input.itemId input.warehouseId))
      (balances : s'.lotBalances = withdrawLayers
        (consumption (fifoLayers s org input.itemId input.warehouseId) input.quantity)
        s.lotBalances) :
      IssuesLot org item input s s' (lotId <|>
        (consumption (fifoLayers s org input.itemId input.warehouseId)
          input.quantity).head?.map fun taken => taken.1.lotId)
  | asked {lotId : UUID} {balance : Stored InventoryLotBalance}
      (fifo : item.costingMethod ≠ .fifo) (trackLots : item.trackLots = true)
      (asked : AsksForLot input s lotId balance) (lots : LotsOnly s s')
      (balances : s'.lotBalances = s.lotBalances.modify balance.id (·.withdraw input.quantity)) :
      IssuesLot org item input s s' (some lotId)
  | none {lotId : Option UUID} (notInLots : ¬ item.InLots) (lots : lotsOf s' = lotsOf s) :
      IssuesLot org item input s s' lotId

theorem consumeIssueLot_of_not {lotId : Option UUID}
    (hnot : ¬ (item.trackLots = true ∧ item.costingMethod ≠ .fifo ∧
      item.costingMethod ≠ .specificIdentification))
    (h : consumeIssueLot item input lotId s = .ok ⟨⟩ s') : s' = s := by
  cases lotId with
  | none => exact (pure_eq_ok.mp h).2
  | some id =>
    change runIf _ _ s = _ at h
    rw [runIf, if_neg hnot] at h
    exact (pure_eq_ok.mp h).2

theorem consumeFromLot_of_asked {lotId : UUID} {balance : Stored InventoryLotBalance}
    {r : InventoryStore β} (hasks : AsksForLot input s lotId balance) (hr : lotsOf r = lotsOf s)
    (h : consumeFromLot lotId input.warehouseId input.quantity r = .ok ⟨⟩ s') :
    LotsOnly s s' ∧
      s'.lotBalances = s.lotBalances.modify balance.id (·.withdraw input.quantity) := by
  obtain ⟨hlots, hbalances⟩ := Prod.mk.inj hr
  obtain ⟨lot, hget, -⟩ := hasks.lot
  have hsome : (r.lots.get? lotId).isSome := by rw [hlots, hget]; rfl
  obtain ⟨honly, found, hfound, hmodify⟩ := consumeFromLot_eq_ok hsome h
  have hsame : lotBalance? r lotId input.warehouseId = lotBalance? s lotId input.warehouseId := by
    rw [lotBalance?, lotBalance?, hbalances]
  rw [hsame, hasks.found] at hfound
  obtain rfl := Option.some.inj hfound
  refine ⟨fun k => ?_, by rw [hmodify, hbalances]⟩
  rw [honly k, hlots]

theorem issueCost_lots {lotId : Option UUID} {cost : FifoResult}
    (h : issueCost org item input lotId s = .ok cost s') :
    (item.costingMethod = .fifo ∧ ∃ result, cost.firstLotId = (lotId <|> result.firstLotId) ∧
      consumeFifo org input.itemId input.warehouseId input.quantity s = .ok result s') ∨
    (item.costingMethod = .specificIdentification ∧ ∃ id, lotId = some id ∧
      cost.firstLotId = some id ∧
      consumeFromLot id input.warehouseId input.quantity s = .ok ⟨⟩ s') ∨
    (item.costingMethod ≠ .fifo ∧ item.costingMethod ≠ .specificIdentification ∧
      cost.firstLotId = lotId ∧ s' = s) := by
  rw [issueCost] at h
  cases hmethod : item.costingMethod with
  | standardCost | weightedAverage =>
    rw [hmethod] at h
    obtain ⟨hcost, hsame⟩ := pure_eq_ok.mp h
    exact .inr (.inr ⟨by decide, by decide, by rw [hcost], hsame⟩)
  | fifo =>
    rw [hmethod] at h
    obtain ⟨result, s₁, hresult, h⟩ := bind_eq_ok.mp h
    obtain ⟨hcost, rfl⟩ := pure_eq_ok.mp h
    exact .inl ⟨rfl, result, by rw [hcost], hresult⟩
  | specificIdentification =>
    rw [hmethod] at h
    dsimp only at h
    rw [orRaise_bind] at h
    obtain ⟨id, hid, h⟩ := h
    rw [get_bind] at h
    obtain ⟨_, s₁, htake, h⟩ := bind_eq_ok.mp h
    obtain ⟨hcost, rfl⟩ := pure_eq_ok.mp h
    exact .inr (.inl ⟨rfl, id, hid, by rw [hcost, hid], htake⟩)

theorem issuesLot_of_cost {lotId : Option UUID} {cost : FifoResult}
    {s₁ : InventoryStore β} (hlot : issueLot item input s = .ok lotId s)
    (hcost : issueCost org item input lotId s = .ok cost s₁)
    (hconsume : consumeIssueLot item input cost.firstLotId s₁ = .ok ⟨⟩ s') :
    IssuesLot org item input s s' cost.firstLotId := by
  have hasked : item.trackLots = true → ∃ id balance, lotId = some id ∧
      AsksForLot input s id balance := by
    intro htrack
    obtain ⟨id, lot, balance, hid, hinput, hget, hitem, hbalance, hquarantined, havailable⟩ :=
      issueLot_eq_ok htrack hlot
    exact ⟨id, balance, hid, hinput, ⟨lot, hget, hitem⟩, hbalance, hquarantined, havailable⟩
  have hnone : ¬ item.trackLots = true → lotId = none := by
    intro htrack
    rw [issueLot, if_neg htrack] at hlot
    exact (pure_eq_ok.mp hlot).1
  rcases issueCost_lots hcost with ⟨hfifo, result, hfirst, hresult⟩ |
    ⟨hspecific, id, hid, hfirst, htake⟩ | ⟨hfifo, hspecific, hfirst, rfl⟩
  · -- the layers are consumed with the cost, and nothing after it
    obtain ⟨honly, henough, hbalances, hlayer, -⟩ := consumeFifo_eq_ok hresult
    obtain rfl := consumeIssueLot_of_not (fun h => h.2.1 hfifo) hconsume
    rw [hfirst, hlayer]
    refine .oldest hfifo ?_ honly henough hbalances
    split_ifs with htrack
    · exact hasked htrack
    · exact hnone htrack
  · -- the lot is consumed with the cost, and nothing after it
    obtain rfl := consumeIssueLot_of_not (fun h => h.2.2 hspecific) hconsume
    have htrack : item.trackLots = true := by
      by_contra htrack
      rw [hnone htrack] at hid
      exact absurd hid (by simp)
    obtain ⟨id', balance, hid', hasks⟩ := hasked htrack
    obtain rfl := Option.mem_unique hid hid'
    obtain ⟨honly, hbalances⟩ := consumeFromLot_of_asked hasks rfl htake
    rw [hfirst]
    exact .asked (by rw [hspecific]; decide) htrack hasks honly hbalances
  · by_cases htrack : item.trackLots = true
    · -- the lot is consumed after the cost
      obtain ⟨id, balance, rfl, hasks⟩ := hasked htrack
      rw [hfirst] at hconsume ⊢
      change runIf _ _ _ = _ at hconsume
      rw [runIf, if_pos ⟨htrack, hfifo, hspecific⟩] at hconsume
      obtain ⟨honly, hbalances⟩ := consumeFromLot_of_asked hasks rfl hconsume
      exact .asked hfifo htrack hasks honly hbalances
    · -- no lot is asked for, and none consumed
      obtain rfl := consumeIssueLot_of_not (fun h => htrack h.1) hconsume
      exact .none (fun hin => hin.elim hfifo htrack) rfl

theorem IssuesLot.congr {lotId : Option UUID} {r : InventoryStore β}
    (h : IssuesLot org item input s r lotId) (hr : lotsOf s' = lotsOf r) :
    IssuesLot org item input s s' lotId := by
  obtain ⟨hlots, hbalances⟩ := Prod.mk.inj hr
  have honly : LotsOnly s r → LotsOnly s s' := fun h k => by
    rw [hlots]
    exact h k
  cases h with
  | oldest fifo asked lots enough balances =>
    exact .oldest fifo asked (honly lots) enough (hbalances.trans balances)
  | asked fifo track asked lots balances =>
    exact .asked fifo track asked (honly lots) (hbalances.trans balances)
  | none notInLots lots => exact .none notInLots (hr.trans lots)

theorem createIssue_lots (h : createIssue v org input userId s = .ok id s') :
    ∃ item lotId t, 0 < input.quantity ∧ ItemOf s org input.itemId item ∧
      s'.transactions = s.transactions.insert t ∧
      RowOf t input.transactionType lotId input.warehouseId input.quantity ∧
      IssuesLot org item input s s' lotId := by
  obtain ⟨item, lotId, cost, s₁, s₂, s₃, s₄, s₅, h⟩ := createIssue_steps h
  have hfirst : s₂.transactions = s.transactions := h.first hidesLots_transactions
  have hlater : s'.transactions = s₃.transactions :=
    h.later hidesCosts_transactions.hidesAverages
  have hlots : lotsOf s' = lotsOf s₂ :=
    (h.later hidesCosts_lotsOf.hidesAverages).trans (lotsOf_addTransaction h.row)
  exact ⟨item, cost.firstLotId, _, h.positive, h.found,
    by rw [hlater, addTransaction_eq_ok h.row, hfirst], ⟨rfl, rfl, rfl, rfl⟩,
    (issuesLot_of_cost h.lot h.costing h.consume).congr hlots⟩

/-! ### Adjustments -/

structure AdjustsLot (input : TransactionInput) (lotId : UUID) (balance : InventoryLotBalance)
    (s s' : InventoryStore β) : Prop where
  asked : input.lotId = some lotId
  lots : LotsOnly s s'
  covers : input.quantity < 0 → |input.quantity| ≤ balance.quantityOnHand
  balances : ∃ lot balanceId, s.lots.get? lotId = some lot ∧
    balance = (balanceOf s lotId input.warehouseId).getD
      (freshBalance lotId lot input.warehouseId) ∧
    (openBalance lotId lot input.warehouseId s.lotBalances).get? balanceId = some balance ∧
    s'.lotBalances = (openBalance lotId lot input.warehouseId s.lotBalances).modify balanceId
      (·.adjust input.quantity)

theorem createAdjustment_lots (h : createAdjustment v org input userId s = .ok id s') :
    ∃ item t, ItemOf s org input.itemId item ∧
      s'.transactions = s.transactions.insert t ∧
      RowOf t input.transactionType input.lotId input.warehouseId input.quantity ∧
      if item.InLots then ∃ lotId balance, AdjustsLot input lotId balance s s'
      else lotsOf s' = lotsOf s := by
  obtain ⟨item, lot, s₁, s₂, s₃, h⟩ := createAdjustment_steps h
  have hfirst : s₁.transactions = s.transactions :=
    frames_adjustmentBalance hidesLots_transactions _ _ _ _ _ h.balance
  have hlater : s'.transactions = s₂.transactions :=
    (frames_postInRealTime hidesCosts_transactions.hidesServices _ _ _ _ _ _ _ h.posting).trans
      (frames_adjustLot hidesLots_transactions _ _ _ _ _ h.adjust)
  have hposting : lotsOf s' = lotsOf s₃ :=
    frames_postInRealTime hidesCosts_lotsOf.hidesServices _ _ _ _ _ _ _ h.posting
  obtain ⟨hlots', hbalances'⟩ := Prod.mk.inj hposting
  have hrow := lotsOf_addTransaction h.row
  obtain ⟨hlots₂, hbalances₂⟩ := Prod.mk.inj hrow
  refine ⟨item, _, h.found, by rw [hlater, addTransaction_eq_ok h.row, hfirst],
    ⟨rfl, rfl, rfl, rfl⟩, ?_⟩
  split_ifs with hin
  · obtain ⟨lotId, balanceId, pending, lot, rfl, hasked, hget, -, hlots₁, hbalances₁, hbalance⟩ :=
      adjustmentBalance_eq_ok hin h.balance
    obtain ⟨honly, hadjust⟩ := adjustLot_eq_ok h.adjust
    refine ⟨lotId, _, hasked, fun k => ?_, fun hneg => ?_, lot, balanceId, hget, rfl, ?_, ?_⟩
    · rw [hlots', honly k, hlots₂, hlots₁]
    · exact h.covers hneg _ rfl _ hbalance
    · rw [← hbalances₁, hbalance]
    · rw [hbalances', hadjust, hbalances₂, hbalances₁]
  · have hbalance := h.balance
    have hnot : ¬ (item.trackLots || decide (item.costingMethod = .fifo)) = true := by
      simp only [Item.InLots, not_or] at hin
      simp [hin.1, hin.2]
    rw [adjustmentBalance, if_neg hnot] at hbalance
    obtain ⟨rfl, rfl⟩ := pure_eq_ok.mp hbalance
    have hadjust : s₃ = s₂ := (pure_eq_ok.mp h.adjust).2
    rw [hposting, hadjust, hrow]

/-! ### Transfers -/

structure MovesLot (input : TransactionInput) (toWarehouseId lotId : UUID)
    (source : Stored InventoryLotBalance) (destination : InventoryLotBalance)
    (s s' : InventoryStore β) : Prop where
  asked : input.lotId = some lotId
  lots : LotsOnly s s'
  found : lotBalance? s lotId input.warehouseId = some source
  quarantined : source.row.isQuarantined = false
  available : input.quantity ≤ source.row.quantityAvailable
  balances : ∃ lot destinationId, s.lots.get? lotId = some lot ∧
    destination = (balanceOf s lotId toWarehouseId).getD (freshBalance lotId lot toWarehouseId) ∧
    (openBalance lotId lot toWarehouseId s.lotBalances).get? destinationId = some destination ∧
    s'.lotBalances = ((openBalance lotId lot toWarehouseId s.lotBalances).modify source.id
      (·.withdraw input.quantity)).modify destinationId (·.deposit input.quantity)

theorem createTransfer_lots {ids : UUID × UUID}
    (h : createTransfer v org input s = .ok ids s') :
    ∃ toWarehouseId item t t', 0 < input.quantity ∧ input.toWarehouseId = some toWarehouseId ∧
      input.warehouseId ≠ toWarehouseId ∧ ItemOf s org input.itemId item ∧
      s'.transactions = (s.transactions.insert t).insert t' ∧
      RowOf t .transfer input.lotId input.warehouseId (-input.quantity) ∧
      RowOf t' .transfer input.lotId toWarehouseId input.quantity ∧
      if item.InLots then ∃ lotId source destination,
        MovesLot input toWarehouseId lotId source destination s s'
      else lotsOf s' = lotsOf s := by
  obtain ⟨toWarehouseId, item, lot, s₁, s₂, s₃, s₄, h⟩ := createTransfer_steps h
  obtain ⟨track, numbers, hserials⟩ := h.serials
  have hfirst : s₁.transactions = s.transactions :=
    frames_transferBalances hidesLots_transactions _ _ _ _ _ _ h.balances
  have hlater : s'.transactions = s₃.transactions :=
    (Frames.runIf (frames_callService hidesCosts_transactions.hidesServices _) _ _ _ hserials).trans
      (frames_moveLot hidesLots_transactions _ _ _ _ _ h.move)
  have hrows : lotsOf s₃ = lotsOf s₁ :=
    (lotsOf_addTransaction h.receipt).trans (lotsOf_addTransaction h.issue)
  have hserials' : lotsOf s' = lotsOf s₄ :=
    Frames.runIf (frames_callService hidesCosts_lotsOf.hidesServices _) _ _ _ hserials
  obtain ⟨hlots₃, hbalances₃⟩ := Prod.mk.inj hrows
  obtain ⟨hlots', hbalances'⟩ := Prod.mk.inj hserials'
  refine ⟨toWarehouseId, item, _, _, h.positive, h.destination, h.apart, h.found,
    by rw [hlater, addTransaction_eq_ok h.receipt, addTransaction_eq_ok h.issue, hfirst],
    ⟨rfl, rfl, rfl, rfl⟩, ⟨rfl, rfl, rfl, rfl⟩, ?_⟩
  split_ifs with hin
  · obtain ⟨lotId, source, destinationId, pending, lot, rfl, hasked, hget, -, hsource,
      hquarantined, havailable, hlots₁, hbalances₁, hbalance⟩ :=
        transferBalances_eq_ok hin h.balances
    obtain ⟨honly, hmove⟩ := moveLot_eq_ok h.move
    refine ⟨lotId, source, _, hasked, fun k => ?_, hsource, hquarantined, havailable, lot,
      destinationId, hget, rfl, ?_, ?_⟩
    · rw [hlots', honly k, hlots₃, hlots₁]
    · rw [← hbalances₁, hbalance]
    · rw [hbalances', hmove, hbalances₃, hbalances₁]
  · have hbalances := h.balances
    have hnot : ¬ (item.trackLots || decide (item.costingMethod = .fifo)) = true := by
      simp only [Item.InLots, not_or] at hin
      simp [hin.1, hin.2]
    rw [transferBalances, if_neg hnot] at hbalances
    obtain ⟨rfl, rfl⟩ := pure_eq_ok.mp hbalances
    have hmove : s₄ = s₃ := (pure_eq_ok.mp h.move).2
    rw [hserials', hmove, hrows]

/-! ### Two items in lots -/

/-- A first-in-first-out item and a lot-tracked item of organization 9, and two warehouses. -/
def lotRoom : InventoryStore Unit where
  items := (Table.empty.insert { organizationId := 9, costingMethod := .fifo }).insert {
    organizationId := 9
    costingMethod := .weightedAverage
    trackLots := true }
  warehouses := (Table.empty.insert { organizationId := 9 }).insert { organizationId := 9 }
  services := ()

def moveLotOf (transactionType : TransactionType) (itemId : UUID) (quantity : ℚ)
    (lotId : Option UUID) (lotNumber : String) : MovementCall where
  organizationId := 9
  userId := 1
  input := {
    transactionType := transactionType
    transactionDate := 100
    itemId := itemId
    warehouseId := 0
    quantity := quantity
    unitCost := 4
    lotId := lotId
    toWarehouseId := some 1
    generatedLotNumber := lotNumber }

end DotmacErp.Inventory
