import DotmacErp.Foundation.Keyed
import DotmacErp.Inventory.RunningBalance

/-!
# What movements do to the lots

A lot has at most one balance in a warehouse, so that the balances are a partial function of lot
and warehouse (`balanceOf`). A movement rewrites it at one lot and warehouse or two, and at as many
as there are layers when an issue consumes the oldest ones; a receipt may open a lot, and the first
stock of a lot in a warehouse opens a balance there. Nothing but that happens to the balances, and
what a lot is (`InventoryLot.origin`) stays.

The lemmas say so for each step that touches the lots, as an equation of the table of balances.
-/

namespace DotmacErp.Inventory

open Relational Session InventoryTransactionService

variable {β : Type} {s s' s₁ : InventoryStore β}

/-- What a balance is about; no two balances share it (`uq_inventory_lot_balance`). -/
def InventoryLotBalance.place (balance : InventoryLotBalance) : UUID × Option UUID :=
  (balance.lotId, balance.warehouseId)

def balanceOf (s : InventoryStore β) (lotId warehouseId : UUID) : Option InventoryLotBalance :=
  s.lotBalances.at? InventoryLotBalance.place (lotId, some warehouseId)

def onHandOf (s : InventoryStore β) (lotId warehouseId : UUID) : ℚ :=
  (balanceOf s lotId warehouseId).elim 0 InventoryLotBalance.quantityOnHand

def InventoryLot.origin (lot : InventoryLot) : UUID × UUID × String × ℕ × ℚ :=
  (lot.organizationId, lot.itemId, lot.lotNumber, lot.receivedDate, lot.unitCost)

def LotsStay (s s' : InventoryStore β) : Prop :=
  ∀ k lot, s.lots.get? k = some lot → ∃ lot', s'.lots.get? k = some lot' ∧ lot'.origin = lot.origin

def LotsOnly (s s' : InventoryStore β) : Prop :=
  ∀ k, (s'.lots.get? k).map InventoryLot.origin = (s.lots.get? k).map InventoryLot.origin

theorem LotsOnly.stay (h : LotsOnly s s') : LotsStay s s' := by
  intro k lot hlot
  have hk := h k
  rw [hlot, Option.map_some] at hk
  obtain ⟨lot', hlot', horigin⟩ := Option.map_eq_some_iff.mp hk
  exact ⟨lot', hlot', horigin⟩

theorem LotsOnly.trans (h : LotsOnly s s₁) (h' : LotsOnly s₁ s') : LotsOnly s s' :=
  fun k => (h' k).trans (h k)

theorem lotsOnly_of_eq (h : s'.lots = s.lots) : LotsOnly s s' := fun k => by rw [h]

variable {u : PUnit}

theorem lotsOnly_modifyLot {lotId : UUID} {f : InventoryLot → InventoryLot}
    (hf : ∀ lot, (f lot).origin = lot.origin) (h : modifyLot lotId f s = .ok u s') :
    LotsOnly s s' ∧ s'.lotBalances = s.lotBalances := by
  obtain rfl := modify_eq_ok.mp h
  refine ⟨fun k => ?_, rfl⟩
  dsimp only
  rw [Table.get?_modify]
  split_ifs
  · rw [Option.map_map]
    exact congrArg (Option.map · (s.lots.get? k)) (funext hf)
  · rfl

theorem lotBalance?_eq (lotId warehouseId : UUID) :
    lotBalance? s lotId warehouseId =
      s.lotBalances.find? fun balance => decide (balance.place = (lotId, some warehouseId)) := by
  rw [lotBalance?]
  congr 1
  funext balance
  simp only [InventoryLotBalance.place, Prod.mk.injEq, Bool.decide_and]

theorem lotBalance?_row (lotId warehouseId : UUID) :
    (lotBalance? s lotId warehouseId).map Stored.row = balanceOf s lotId warehouseId := by
  rw [lotBalance?_eq, balanceOf, Table.at?]

variable {warehouseId : UUID}

theorem lotBalance?_eq_some {lotId : UUID} {balance : Stored InventoryLotBalance}
    (h : lotBalance? s lotId warehouseId = some balance) :
    s.lotBalances.get? balance.id = some balance.row ∧
      balanceOf s lotId warehouseId = some balance.row ∧
      balance.row.place = (lotId, some warehouseId) := by
  have hrow := lotBalance?_row (s := s) lotId warehouseId
  rw [h, Option.map_some] at hrow
  exact ⟨(Table.find?_eq_some h).1, hrow.symm, Table.key_of_at? hrow.symm⟩

/-! ### The steps that touch the lots -/

variable {pending : Option UUID}

theorem syncLegacyLotSnapshot_eq_ok {lotId : UUID}
    (h : syncLegacyLotSnapshot lotId pending s = .ok u s') :
    LotsOnly s s' ∧ s'.lotBalances = s.lotBalances := by
  rw [syncLegacyLotSnapshot, get_bind] at h
  split_ifs at h
  · obtain ⟨-, rfl⟩ := pure_eq_ok.mp h
    exact ⟨fun _ => rfl, rfl⟩
  · refine lotsOnly_modifyLot ?_ h
    exact fun _ => rfl

def freshBalance (lotId : UUID) (lot : InventoryLot) (warehouseId : UUID) :
    InventoryLotBalance where
  organizationId := lot.organizationId
  lotId := lotId
  warehouseId := some warehouseId
  isActive := lot.isActive

def openBalance (lotId : UUID) (lot : InventoryLot) (warehouseId : UUID)
    (balances : Table InventoryLotBalance) : Table InventoryLotBalance :=
  if (balances.at? InventoryLotBalance.place (lotId, some warehouseId)).isSome then balances
  else balances.insert (freshBalance lotId lot warehouseId)

section Open

variable {lotId warehouseId : UUID} {lot : InventoryLot} {balances : Table InventoryLotBalance}

theorem place_getD {lotId warehouseId : UUID} {lot : InventoryLot} :
    ((balanceOf s lotId warehouseId).getD (freshBalance lotId lot warehouseId)).place =
      (lotId, some warehouseId) := by
  cases h : balanceOf s lotId warehouseId with
  | none => rfl
  | some balance => exact Table.key_of_at? h

variable (lotId warehouseId lot) in
theorem get?_openBalance_of_some {k : UUID} {balance : InventoryLotBalance}
    (h : balances.get? k = some balance) :
    (openBalance lotId lot warehouseId balances).get? k = some balance := by
  rw [openBalance]
  split_ifs
  · exact h
  · exact Table.get?_insert_of_some h _

end Open

variable {balanceId : UUID} {lot : InventoryLot}

theorem getOrCreateLotBalance_eq_ok {lotId : UUID}
    (h : getOrCreateLotBalance lotId lot warehouseId s = .ok (balanceId, pending) s') :
    s'.lots = s.lots ∧ s'.lotBalances = openBalance lotId lot warehouseId s.lotBalances ∧
      s'.lotBalances.get? balanceId =
        some ((balanceOf s lotId warehouseId).getD (freshBalance lotId lot warehouseId)) := by
  rw [getOrCreateLotBalance, get_bind] at h
  have hrow := lotBalance?_row (s := s) lotId warehouseId
  cases hfound : lotBalance? s lotId warehouseId with
  | some balance =>
    rw [hfound] at h
    rw [hfound, Option.map_some] at hrow
    obtain ⟨hpair, rfl⟩ := pure_eq_ok.mp h
    obtain ⟨rfl, -⟩ := Prod.mk.inj hpair
    have hopen : (balanceOf s' lotId warehouseId).isSome := by
      rw [← hrow]
      rfl
    refine ⟨rfl, (if_pos hopen).symm, ?_⟩
    rw [(lotBalance?_eq_some hfound).1, ← hrow, Option.getD_some]
  | none =>
    rw [hfound] at h
    rw [hfound, Option.map_none] at hrow
    obtain ⟨_, s₁, hset, h⟩ := bind_eq_ok.mp h
    obtain rfl := set_eq_ok.mp hset
    obtain ⟨hpair, rfl⟩ := pure_eq_ok.mp h
    obtain ⟨rfl, -⟩ := Prod.mk.inj hpair
    have hclosed : ¬ (balanceOf s lotId warehouseId).isSome := by
      rw [← hrow]
      exact Bool.false_ne_true
    refine ⟨rfl, (if_neg hclosed).symm, ?_⟩
    rw [← hrow, Option.getD_none]
    exact Table.get?_insert_self _ _

theorem modifyLotBalance_eq_ok {f : InventoryLotBalance → InventoryLotBalance} (h :
    modifyLotBalance balanceId f s = .ok u s') :
    s'.lots = s.lots ∧ s'.lotBalances = s.lotBalances.modify balanceId f := by
  obtain rfl := modify_eq_ok.mp h
  exact ⟨rfl, rfl⟩

/-! ### Receiving -/

variable {input : TransactionInput}

theorem receiveIntoLot_eq_ok {lotId : UUID} (h : receiveIntoLot lotId lot input s = .ok u s') :
    LotsOnly s s' ∧ ∃ balanceId,
      s'.lotBalances = (openBalance lotId lot input.warehouseId s.lotBalances).modify balanceId
        (·.deposit input.quantity) ∧
      (openBalance lotId lot input.warehouseId s.lotBalances).get? balanceId =
        some ((balanceOf s lotId input.warehouseId).getD
          (freshBalance lotId lot input.warehouseId)) := by
  rw [receiveIntoLot] at h
  obtain ⟨_, s₁, hmeta, h⟩ := bind_eq_ok.mp h
  obtain ⟨⟨balanceId, pending⟩, s₂, hopen, h⟩ := bind_eq_ok.mp h
  obtain ⟨_, s₃, hdeposit, h⟩ := bind_eq_ok.mp h
  obtain ⟨_, s₄, hsync, h⟩ := bind_eq_ok.mp h
  have h₁ : LotsOnly s s₁ ∧ s₁.lotBalances = s.lotBalances := by
    refine lotsOnly_modifyLot ?_ hmeta
    exact fun _ => rfl
  obtain ⟨h₂, hbalances, hget⟩ := getOrCreateLotBalance_eq_ok hopen
  obtain ⟨h₃, hmodify⟩ := modifyLotBalance_eq_ok hdeposit
  have h₄ := syncLegacyLotSnapshot_eq_ok hsync
  have h₅ : LotsOnly s₄ s' ∧ s'.lotBalances = s₄.lotBalances := by
    refine lotsOnly_modifyLot ?_ h
    exact fun _ => rfl
  have hsame : balanceOf s₁ lotId input.warehouseId = balanceOf s lotId input.warehouseId := by
    rw [balanceOf, balanceOf, h₁.2]
  rw [h₁.2] at hbalances
  refine ⟨h₁.1.trans ((lotsOnly_of_eq h₂).trans ((lotsOnly_of_eq h₃).trans (h₄.1.trans h₅.1))),
    balanceId, ?_, ?_⟩
  · rw [h₅.2, h₄.2, hmodify, hbalances]
  · rw [← hbalances, hget, hsame]

def openingBalance (item : Item) (lotId : UUID) (input : TransactionInput) :
    InventoryLotBalance where
  organizationId := item.organizationId
  lotId := lotId
  warehouseId := some input.warehouseId
  quantityOnHand := numeric input.quantity
  quantityAvailable := numeric input.quantity

variable {itemId : UUID} {item : Item}

theorem openLot_eq_ok {lotId : UUID} {lotNumber : String} (h :
    openLot itemId item lotNumber input s = .ok lotId s') :
    lotId = s.lots.next ∧ s'.lotBalances = s.lotBalances.insert (openingBalance item lotId input) ∧
      ∃ lot, s'.lots = s.lots.insert lot ∧ lot.origin =
        (item.organizationId, itemId, lotNumber, input.transactionDate,
          numeric input.unitCost) := by
  rw [openLot, get_bind, refuse_bind] at h
  obtain ⟨-, h⟩ := h
  obtain ⟨_, s₁, hset, h⟩ := bind_eq_ok.mp h
  obtain rfl := set_eq_ok.mp hset
  obtain ⟨rfl, rfl⟩ := pure_eq_ok.mp h
  exact ⟨rfl, rfl, _, rfl, rfl⟩

def lotEntered (s : InventoryStore β) (item : Item) (input : TransactionInput) : Option UUID :=
  match input.lotId with
  | some lotId => some lotId
  | none =>
    if item.costingMethod = .fifo then none
    else (s.lots.find? fun lot => lot.organizationId = item.organizationId &&
      lot.itemId = input.itemId && lot.lotNumber = input.receiptLotNumber).map Stored.id

inductive ReceivesLot (item : Item) (input : TransactionInput) (lotId : UUID)
    (s s' : InventoryStore β) : Prop where
  | into (lot : InventoryLot) (entered : lotEntered s item input = some lotId)
      (found : s.lots.get? lotId = some lot)
      (ofItem : lot.itemId = input.itemId) (lots : LotsOnly s s') (balanceId : UUID)
      (balances : s'.lotBalances =
        (openBalance lotId lot input.warehouseId s.lotBalances).modify balanceId
          (·.deposit input.quantity))
      (balance : (openBalance lotId lot input.warehouseId s.lotBalances).get? balanceId =
        some ((balanceOf s lotId input.warehouseId).getD
          (freshBalance lotId lot input.warehouseId)))
  | opened (lot : InventoryLot) (lots : s'.lots = s.lots.insert lot) (new : lotId = s.lots.next)
      (ofItem : lot.itemId = input.itemId)
      (balances : s'.lotBalances = s.lotBalances.insert (openingBalance item lotId input))

theorem receiptLot_eq_ok {lotId : Option UUID}
    (hlots : item.costingMethod = .fifo ∨ item.trackLots = true)
    (h : receiptLot item input s = .ok lotId s') :
    ∃ id, lotId = some id ∧ ReceivesLot item input id s s' := by
  have hopened : ∀ {lotNumber : String},
      (some <$> openLot input.itemId item lotNumber input) s = .ok lotId s' →
        ∃ id, lotId = some id ∧ ReceivesLot item input id s s' := by
    intro lotNumber h
    obtain ⟨id, hopen, rfl⟩ := map_eq_ok.mp h
    obtain ⟨hnew, hbalances, lot, hlot, horigin⟩ := openLot_eq_ok hopen
    have hitem : lot.itemId = input.itemId := congrArg (fun o => o.2.1) horigin
    exact ⟨id, rfl, .opened lot hlot hnew hitem hbalances⟩
  have hinto : ∀ {id : UUID} {lot : InventoryLot}, lotEntered s item input = some id →
      s.lots.get? id = some lot → lot.itemId = input.itemId →
        (receiveIntoLot id lot input >>= fun _ => pure (some id)) s = .ok lotId s' →
          ∃ id, lotId = some id ∧ ReceivesLot item input id s s' := by
    intro id lot hentered hfound hitem h
    obtain ⟨_, s₁, hreceive, h⟩ := bind_eq_ok.mp h
    obtain ⟨rfl, rfl⟩ := pure_eq_ok.mp h
    obtain ⟨hstay, balanceId, hbalances, hbalance⟩ := receiveIntoLot_eq_ok hreceive
    exact ⟨id, rfl, .into lot hentered hfound hitem hstay balanceId hbalances hbalance⟩
  have htest : (decide (item.costingMethod = .fifo) || item.trackLots) = true := by
    rcases hlots with hfifo | htrack
    · simp [hfifo]
    · simp [htrack]
  rw [receiptLot, if_pos htest, createOrUpdateLotForReceipt, get_bind] at h
  cases hinput : input.lotId with
  | some id =>
    rw [hinput] at h
    dsimp only at h
    rw [orRaise_bind] at h
    obtain ⟨lot, hfound, h⟩ := h
    rw [refuse_bind, refuse_bind] at h
    obtain ⟨hitem, -, h⟩ := h
    exact hinto (by rw [lotEntered, hinput]) hfound (not_not.mp hitem) h
  | none =>
    rw [hinput] at h
    dsimp only at h
    by_cases hfifo : item.costingMethod = .fifo
    · rw [if_pos hfifo] at h
      exact hopened h
    · rw [if_neg hfifo, if_pos (hlots.resolve_left hfifo)] at h
      cases hfound : s.lots.find? fun lot => lot.organizationId = item.organizationId &&
          lot.itemId = input.itemId && lot.lotNumber = input.receiptLotNumber with
      | some lot =>
        rw [hfound] at h
        obtain ⟨hget, hmatch⟩ := Table.find?_eq_some hfound
        simp only [Bool.and_eq_true, decide_eq_true_eq] at hmatch
        have hentered : lotEntered s item input = some lot.id := by
          rw [lotEntered, hinput]
          dsimp only
          rw [if_neg hfifo, hfound, Option.map_some]
        exact hinto hentered hget hmatch.1.2 h
      | none =>
        rw [hfound] at h
        exact hopened h

/-! ### Consuming -/

variable {quantity : ℚ}

theorem consumeFromLot_eq_ok {lotId : UUID} (hlot : (s.lots.get? lotId).isSome)
    (h : consumeFromLot lotId warehouseId quantity s = .ok u s') :
    LotsOnly s s' ∧ ∃ balance, lotBalance? s lotId warehouseId = some balance ∧
      s'.lotBalances = s.lotBalances.modify balance.id (·.withdraw quantity) := by
  rw [consumeFromLot, get_bind, if_pos hlot, orRaise_bind] at h
  obtain ⟨balance, hfound, h⟩ := h
  obtain ⟨_, s₁, hwithdraw, h⟩ := bind_eq_ok.mp h
  obtain ⟨hlots, hbalances⟩ := modifyLotBalance_eq_ok hwithdraw
  obtain ⟨hsync, hsame⟩ := syncLegacyLotSnapshot_eq_ok h
  exact ⟨(lotsOnly_of_eq hlots).trans hsync, balance, hfound, hsame.trans hbalances⟩

def withdrawLayers (consumed : List (FifoLayer × ℚ)) (balances : Table InventoryLotBalance) :
    Table InventoryLotBalance :=
  consumed.foldl (fun balances taken =>
    balances.modify taken.1.balanceId (·.withdraw taken.2)) balances

theorem consumeLayers_eq_ok {consumed : List (FifoLayer × ℚ)}
    (h : consumeLayers consumed s = .ok u s') :
    LotsOnly s s' ∧ s'.lotBalances = withdrawLayers consumed s.lotBalances := by
  induction consumed generalizing s with
  | nil =>
    obtain ⟨-, rfl⟩ := pure_eq_ok.mp h
    exact ⟨fun _ => rfl, rfl⟩
  | cons taken consumed ih =>
    rw [consumeLayers] at h
    obtain ⟨_, s₁, hwithdraw, h⟩ := bind_eq_ok.mp h
    obtain ⟨_, s₂, hsync, h⟩ := bind_eq_ok.mp h
    obtain ⟨hlots, hbalances⟩ := modifyLotBalance_eq_ok hwithdraw
    obtain ⟨hlots₂, hbalances₂⟩ := syncLegacyLotSnapshot_eq_ok hsync
    obtain ⟨hlots', hbalances'⟩ := ih h
    refine ⟨(lotsOnly_of_eq hlots).trans (hlots₂.trans hlots'), ?_⟩
    rw [hbalances', hbalances₂, hbalances]
    rfl

def layersTotal (layers : List FifoLayer) : ℚ := (layers.map FifoLayer.quantityOnHand).sum

theorem consumeFifo_eq_ok {org : UUID} {result : FifoResult}
    (h : consumeFifo org itemId warehouseId quantity s = .ok result s') :
    LotsOnly s s' ∧
      let layers := fifoLayers s org itemId warehouseId
      quantity ≤ layersTotal layers ∧
        s'.lotBalances = withdrawLayers (consumption layers quantity) s.lotBalances ∧
        result.firstLotId =
          ((consumption layers quantity).head?.map fun taken => taken.1.lotId) ∧
        result.totalCost =
          ((consumption layers quantity).map fun taken => taken.2 * taken.1.unitCost).sum := by
  rw [consumeFifo, get_bind, refuse_bind] at h
  obtain ⟨henough, h⟩ := h
  obtain ⟨_, s₁, hlayers, h⟩ := bind_eq_ok.mp h
  obtain ⟨rfl, rfl⟩ := pure_eq_ok.mp h
  obtain ⟨hlots, hbalances⟩ := consumeLayers_eq_ok hlayers
  exact ⟨hlots, not_lt.mp henough, hbalances, rfl, rfl⟩

theorem mem_consumption {layers : List FifoLayer} {taken : FifoLayer × ℚ}
    (h : taken ∈ consumption layers quantity) :
    taken.1 ∈ layers ∧ taken.2 ≤ taken.1.quantityOnHand := by
  induction layers generalizing quantity with
  | nil => exact absurd h (by simp [consumption])
  | cons layer layers ih =>
    rw [consumption] at h
    split_ifs at h
    · exact absurd h (by simp)
    · rcases List.mem_cons.mp h with rfl | h
      · exact ⟨List.mem_cons_self, min_le_left _ _⟩
      · obtain ⟨hmem, hle⟩ := ih h
        exact ⟨List.mem_cons_of_mem _ hmem, hle⟩

theorem nodup_consumption {layers : List FifoLayer}
    (h : (layers.map FifoLayer.balanceId).Nodup) (quantity : ℚ) :
    ((consumption layers quantity).map fun taken => taken.1.balanceId).Nodup := by
  refine h.sublist ?_
  clear h
  induction layers generalizing quantity with
  | nil => exact List.Sublist.refl _
  | cons layer layers ih =>
    rw [consumption]
    split_ifs
    · exact List.nil_sublist _
    · exact (ih _).cons_cons _

structure IsLayer (s : InventoryStore β) (organizationId itemId warehouseId : UUID)
    (layer : FifoLayer) : Prop where
  balance : ∃ balance, s.lotBalances.get? layer.balanceId = some balance ∧
    balance.place = (layer.lotId, some warehouseId) ∧
      balance.quantityOnHand = layer.quantityOnHand ∧ balance.isQuarantined = false ∧
        balance.isActive = true
  lot : ∃ lot, s.lots.get? layer.lotId = some lot ∧ lot.itemId = itemId ∧
    lot.organizationId = organizationId ∧ lot.unitCost = layer.unitCost
  positive : 0 < layer.quantityOnHand

theorem isLayer_of_mem {org : UUID} {layer : FifoLayer}
    (h : layer ∈ fifoLayers s org itemId warehouseId) :
    IsLayer s org itemId warehouseId layer := by
  rw [fifoLayers, List.mem_insertionSort, List.mem_filterMap] at h
  obtain ⟨balance, hselect, hlayer⟩ := h
  obtain ⟨lot, hlot, rfl⟩ := Option.map_eq_some_iff.mp hlayer
  obtain ⟨hget, hcond⟩ := Table.mem_select.mp hselect
  obtain ⟨hfound, hitem⟩ := Option.filter_eq_some_iff.mp hlot
  simp only [Bool.and_eq_true, decide_eq_true_eq, Bool.not_eq_true'] at hcond hitem
  obtain ⟨⟨⟨hwarehouse, hpositive⟩, hactive⟩, hquarantined⟩ := hcond
  exact {
    balance := ⟨balance.row, hget, congrArg (Prod.mk balance.row.lotId) hwarehouse, rfl,
      hquarantined, hactive⟩
    lot := ⟨lot, hfound, hitem.1, hitem.2, rfl⟩
    positive := hpositive }

theorem nodup_fifoLayers (org itemId warehouseId : UUID) :
    ((fifoLayers s org itemId warehouseId).map FifoLayer.balanceId).Nodup := by
  rw [fifoLayers]
  refine ((List.perm_insertionSort _ _).map FifoLayer.balanceId).nodup_iff.mpr ?_
  have hids : ∀ rows : List (Stored InventoryLotBalance), (rows.map Stored.id).Nodup →
      ((rows.filterMap fun balance =>
        ((s.lots.get? balance.row.lotId).filter fun lot =>
          lot.itemId = itemId && lot.organizationId = org).map fun lot =>
            (⟨balance.id, balance.row.lotId, balance.row.quantityOnHand, lot.unitCost,
              lot.receivedDate⟩ : FifoLayer)).map FifoLayer.balanceId).Nodup := by
    intro rows hnodup
    refine hnodup.sublist ?_
    induction rows with
    | nil => exact List.Sublist.refl _
    | cons row rows ih =>
      have hrest := ih (List.nodup_cons.mp (by simpa using hnodup)).2
      rw [List.filterMap_cons]
      cases (s.lots.get? row.row.lotId).filter fun lot =>
          lot.itemId = itemId && lot.organizationId = org with
      | none => exact hrest.cons _
      | some lot => exact hrest.cons_cons _
  exact hids _ ((List.filter_sublist.map Stored.id).nodup s.lotBalances.nodup_ids)

/-! ### Adjusting and moving -/

theorem openBalance_of_some {lotId : UUID}
    {balances : Table InventoryLotBalance} {balance : InventoryLotBalance}
    (h : balances.at? InventoryLotBalance.place (lotId, some warehouseId) = some balance) :
    openBalance lotId lot warehouseId balances = balances := by
  rw [openBalance, h]
  exact if_pos rfl

theorem adjustmentBalance_eq_ok {found : Option (UUID × UUID × Option UUID)}
    (hlots : item.costingMethod = .fifo ∨ item.trackLots = true)
    (h : adjustmentBalance item input s = .ok found s') :
    ∃ lotId balanceId pending lot, found = some (lotId, balanceId, pending) ∧
      input.lotId = some lotId ∧ s.lots.get? lotId = some lot ∧ lot.itemId = input.itemId ∧
      s'.lots = s.lots ∧
      s'.lotBalances = openBalance lotId lot input.warehouseId s.lotBalances ∧
      s'.lotBalances.get? balanceId = some ((balanceOf s lotId input.warehouseId).getD
        (freshBalance lotId lot input.warehouseId)) := by
  have htest : (item.trackLots || decide (item.costingMethod = .fifo)) = true := by
    rcases hlots with hfifo | htrack
    · simp [hfifo]
    · simp [htrack]
  rw [adjustmentBalance, if_pos htest, get_bind, orRaise_bind] at h
  obtain ⟨lotId, hinput, h⟩ := h
  rw [orRaise_bind] at h
  obtain ⟨lot, hlot, h⟩ := h
  obtain ⟨hget, hitem⟩ := Option.filter_eq_some_iff.mp hlot
  have hitem' : lot.itemId = input.itemId := of_decide_eq_true hitem
  split_ifs at h with hquantity
  · obtain ⟨⟨balanceId, pending⟩, s₁, hopen, h⟩ := bind_eq_ok.mp h
    obtain ⟨rfl, rfl⟩ := pure_eq_ok.mp h
    obtain ⟨hsame, hbalances, hbalance⟩ := getOrCreateLotBalance_eq_ok hopen
    exact ⟨lotId, balanceId, pending, lot, rfl, hinput, hget, hitem', hsame, hbalances, hbalance⟩
  · rw [orRaise_bind] at h
    obtain ⟨balance, hfound, h⟩ := h
    obtain ⟨rfl, rfl⟩ := pure_eq_ok.mp h
    obtain ⟨hrow, hof, -⟩ := lotBalance?_eq_some hfound
    refine ⟨lotId, balance.id, none, lot, rfl, hinput, hget, hitem', rfl, ?_, ?_⟩
    · rw [openBalance_of_some hof]
    · rw [hrow, hof, Option.getD_some]

theorem adjustLot_eq_ok {lotId : UUID}
    (h : adjustLot (some (lotId, balanceId, pending)) quantity s = .ok u s') :
    LotsOnly s s' ∧ s'.lotBalances = s.lotBalances.modify balanceId (·.adjust quantity) := by
  rw [adjustLot] at h
  obtain ⟨_, s₁, hadjust, h⟩ := bind_eq_ok.mp h
  obtain ⟨hlots, hbalances⟩ := modifyLotBalance_eq_ok hadjust
  obtain ⟨hsync, hsame⟩ := syncLegacyLotSnapshot_eq_ok h
  exact ⟨(lotsOnly_of_eq hlots).trans hsync, hsame.trans hbalances⟩

theorem transferBalances_eq_ok {toWarehouseId : UUID}
    {found : Option (UUID × UUID × UUID × Option UUID)}
    (hlots : item.costingMethod = .fifo ∨ item.trackLots = true)
    (h : transferBalances item input toWarehouseId s = .ok found s') :
    ∃ lotId source destinationId pending lot,
      found = some (lotId, source.id, destinationId, pending) ∧
      input.lotId = some lotId ∧ s.lots.get? lotId = some lot ∧ lot.itemId = input.itemId ∧
      lotBalance? s lotId input.warehouseId = some source ∧ source.row.isQuarantined = false ∧
      input.quantity ≤ source.row.quantityAvailable ∧ s'.lots = s.lots ∧
      s'.lotBalances = openBalance lotId lot toWarehouseId s.lotBalances ∧
      s'.lotBalances.get? destinationId = some ((balanceOf s lotId toWarehouseId).getD
        (freshBalance lotId lot toWarehouseId)) := by
  have htest : (item.trackLots || decide (item.costingMethod = .fifo)) = true := by
    rcases hlots with hfifo | htrack
    · simp [hfifo]
    · simp [htrack]
  rw [transferBalances, if_pos htest, get_bind, orRaise_bind] at h
  obtain ⟨lotId, hinput, h⟩ := h
  rw [orRaise_bind] at h
  obtain ⟨lot, hlot, h⟩ := h
  rw [orRaise_bind] at h
  obtain ⟨source, hsource, h⟩ := h
  rw [refuse_bind, refuse_bind] at h
  obtain ⟨hquarantined, henough, h⟩ := h
  obtain ⟨⟨destinationId, pending⟩, s₁, hopen, h⟩ := bind_eq_ok.mp h
  obtain ⟨rfl, rfl⟩ := pure_eq_ok.mp h
  obtain ⟨hget, hitem⟩ := Option.filter_eq_some_iff.mp hlot
  obtain ⟨hsame, hbalances, hbalance⟩ := getOrCreateLotBalance_eq_ok hopen
  exact ⟨lotId, source, destinationId, pending, lot, rfl, hinput, hget, of_decide_eq_true hitem,
    hsource, Bool.eq_false_iff.mpr hquarantined, not_lt.mp henough, hsame, hbalances, hbalance⟩

theorem destination_ne {lotId fromWarehouseId toWarehouseId sourceId destinationId : UUID}
    {source destination : InventoryLotBalance}
    {balances : Table InventoryLotBalance} (hapart : fromWarehouseId ≠ toWarehouseId)
    (hplace : source.place = (lotId, some fromWarehouseId))
    (hdestination : destination = (balanceOf s lotId toWarehouseId).getD
      (freshBalance lotId lot toWarehouseId)) (hsource : balances.get? sourceId = some source)
    (hfound : balances.get? destinationId = some destination) : destinationId ≠ sourceId := by
  rintro rfl
  rw [hsource] at hfound
  have hplaces := congrArg InventoryLotBalance.place (Option.some.inj hfound)
  rw [hplace, hdestination, place_getD] at hplaces
  exact hapart (Option.some.inj (Prod.mk.inj hplaces).2)

theorem moveLot_eq_ok {lotId sourceId destinationId : UUID}
    (h : moveLot (some (lotId, sourceId, destinationId, pending)) quantity s = .ok u s') :
    LotsOnly s s' ∧ s'.lotBalances =
      (s.lotBalances.modify sourceId (·.withdraw quantity)).modify destinationId
        (·.deposit quantity) := by
  rw [moveLot] at h
  obtain ⟨_, s₁, hsource, h⟩ := bind_eq_ok.mp h
  obtain ⟨_, s₂, hdestination, h⟩ := bind_eq_ok.mp h
  obtain ⟨hlots, hbalances⟩ := modifyLotBalance_eq_ok hsource
  obtain ⟨hlots₂, hbalances₂⟩ := modifyLotBalance_eq_ok hdestination
  obtain ⟨hsync, hsame⟩ := syncLegacyLotSnapshot_eq_ok h
  refine ⟨(lotsOnly_of_eq hlots).trans ((lotsOnly_of_eq hlots₂).trans hsync), ?_⟩
  rw [hsame, hbalances₂, hbalances]

theorem issueLot_eq_ok {lotId : Option UUID}
    (htrack : item.trackLots = true) (h : issueLot item input s = .ok lotId s') :
    ∃ id lot balance, lotId = some id ∧ input.lotId = some id ∧ s.lots.get? id = some lot ∧
      lot.itemId = input.itemId ∧ lotBalance? s id input.warehouseId = some balance ∧
      balance.row.isQuarantined = false ∧ input.quantity ≤ balance.row.quantityAvailable := by
  rw [issueLot, if_pos htrack, get_bind, orRaise_bind] at h
  obtain ⟨id, hinput, h⟩ := h
  rw [orRaise_bind] at h
  obtain ⟨lot, hlot, h⟩ := h
  rw [orRaise_bind] at h
  obtain ⟨balance, hbalance, h⟩ := h
  rw [refuse_bind, refuse_bind] at h
  obtain ⟨hquarantined, henough, h⟩ := h
  obtain ⟨hget, hitem⟩ := Option.filter_eq_some_iff.mp hlot
  exact ⟨id, lot, balance, (pure_eq_ok.mp h).1, hinput, hget, of_decide_eq_true hitem, hbalance,
    Bool.eq_false_iff.mpr hquarantined, not_lt.mp henough⟩

end DotmacErp.Inventory
