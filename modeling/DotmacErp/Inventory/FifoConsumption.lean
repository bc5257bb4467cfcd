import DotmacErp.Foundation.Draws
import DotmacErp.Inventory.LotBalances

/-!
# Consuming the layers of an item

An issue and the valuation service both consume the layers of an item in a warehouse, the oldest
first. Each asks for the balances with stock and their lots, refuses when there is not enough, and
goes through the rows in a loop that changes them in place until nothing is wanted any more. The
transaction service refreshes each lot it touches; the valuation service does not, and tells what
each layer cost.

The rows are objects of the session: they keep exact decimals until the database rounds them
(`withdraw_eq_stored`), and a call that finds an exhausted balance before it is flushed takes
nothing from it. On the layers a query returns (`FifoLayers`), each of the two
**consumes the oldest layers** (`consumes_fifo`): it removes what is asked for, at what the layers
cost, in one call or in two, or it refuses and changes nothing. What the store's own `consumeFifo`
reports is what the loop reports, and where nothing is quarantined it costs and leaves what the
valuation service does (`issue_agrees_with_valuation`).

Each query orders the layers by the day they were received and by nothing else. Layers of one day
are taken as the balances are stored, by either query.
-/

namespace DotmacErp.Inventory

open Relational Session InventoryTransactionService

variable {β : Type}

/-- A row of the layers' query: a balance with its lot, and what other warehouses have of the
lot. -/
structure FifoRow where
  balanceId : UUID
  balance : InventoryLotBalance
  lotId : UUID
  lot : InventoryLot
  others : List InventoryLotBalance

def InventoryLotBalance.stored (balance : InventoryLotBalance) : InventoryLotBalance :=
  { balance with
    quantityOnHand := numeric balance.quantityOnHand
    quantityAllocated := numeric balance.quantityAllocated
    quantityAvailable := numeric balance.quantityAvailable }

def allocatedWithin (onHand allocated : ℚ) : ℚ :=
  if allocated > onHand then onHand else allocated

theorem allocatedWithin_twice {less more : ℚ} (h : less ≤ more) (allocated : ℚ) :
    allocatedWithin less (allocatedWithin more allocated) = allocatedWithin less allocated := by
  by_cases hmore : allocated > more
  · rw [allocatedWithin, allocatedWithin, allocatedWithin, if_pos hmore, if_pos (h.trans_lt hmore)]
    rcases h.eq_or_lt with rfl | hlt
    · exact ite_self _
    · exact if_pos hlt
  · rw [allocatedWithin.eq_1 more, if_neg hmore]

def InventoryLotBalance.consume (consumeQty : ℚ) (balance : InventoryLotBalance) :
    InventoryLotBalance :=
  let onHand := balance.quantityOnHand - consumeQty
  let allocated := allocatedWithin onHand balance.quantityAllocated
  { balance with
    quantityOnHand := onHand
    quantityAllocated := allocated
    quantityAvailable := onHand - allocated
    isActive := onHand > 0 || allocated > 0 }

theorem withdraw_eq_stored (consumeQty : ℚ) (balance : InventoryLotBalance) :
    balance.withdraw consumeQty = (balance.consume consumeQty).stored := rfl

theorem consume_consume {a b : ℚ} (hb : 0 ≤ b) (balance : InventoryLotBalance) :
    (balance.consume a).consume b = balance.consume (a + b) := by
  have honHand := sub_sub balance.quantityOnHand a b
  have hless : balance.quantityOnHand - (a + b) ≤ balance.quantityOnHand - a := by linarith
  simp only [InventoryLotBalance.consume, honHand, allocatedWithin_twice hless]

namespace FifoRow

def consume (consumeQty : ℚ) (row : FifoRow) : FifoRow :=
  { row with balance := row.balance.consume consumeQty }

/-- `_sync_legacy_lot_snapshot`, of which only `is_active` is a column. -/
def syncLegacyLotSnapshot (row : FifoRow) : FifoRow :=
  { row with
    lot.isActive := (row.balance :: row.others).any fun balance =>
      balance.quantityOnHand > 0 || balance.isActive }

def layer (row : FifoRow) : FifoLayer :=
  ⟨row.balanceId, row.lotId, row.balance.quantityOnHand, row.lot.unitCost, row.lot.receivedDate⟩

def SameLayer (row row' : FifoRow) : Prop :=
  row'.balanceId = row.balanceId ∧ row'.lotId = row.lotId ∧
    row'.lot = { row.lot with isActive := row'.lot.isActive }

end FifoRow

structure FifoLoop (ε : Type) where
  remaining : ℚ
  totalCost : ℚ := 0
  layersUsed : List ε := []
  firstLotId : Option UUID := none

/-- The loop over the layers. `take` is what a turn makes of a row, `use` what it tells of it. -/
def consumeRows {ε : Type} (take : ℚ → FifoRow → FifoRow) (use : FifoRow → ℚ → ε) :
    FifoLoop ε → List FifoRow → FifoLoop ε × List FifoRow
  | loop, [] => (loop, [])
  | loop, row :: rows =>
    if loop.remaining ≤ 0 then (loop, row :: rows)
    else
      let consumeQty := min row.balance.quantityOnHand loop.remaining
      let rest := consumeRows take use
        { remaining := loop.remaining - consumeQty
          totalCost := loop.totalCost + consumeQty * row.lot.unitCost
          layersUsed := loop.layersUsed ++ [use row consumeQty]
          firstLotId := loop.firstLotId <|> some row.lotId } rows
      (rest.1, take consumeQty row :: rest.2)

/-- What there is in the layers. -/
def totalAvailable (rows : List FifoRow) : ℚ :=
  (rows.map fun row => row.balance.quantityOnHand).sum

def layersValue (rows : List FifoRow) : ℚ :=
  (rows.map fun row => row.balance.quantityOnHand * row.lot.unitCost).sum

structure LayerUse where
  lotId : UUID
  lotNumber : String
  quantity : ℚ
  unitCost : ℚ

structure CostLayerUse extends LayerUse where
  totalCost : ℚ

/-- What `_consume_fifo` returns. -/
structure FifoCost where
  unitCost : ℚ
  totalCost : ℚ
  layersUsed : List LayerUse
  firstLotId : Option UUID

/-- What a consumption takes, and at which cost. -/
structure ConsumptionResult where
  quantityConsumed : ℚ
  totalCost : ℚ
  costLayersUsed : List CostLayerUse
  remainingQuantity : ℚ

def FifoRow.use (row : FifoRow) (consumeQty : ℚ) : LayerUse :=
  ⟨row.lotId, row.lot.lotNumber, consumeQty, row.lot.unitCost⟩

/-- `_consume_fifo`, on the rows its query returns. -/
def InventoryTransactionService.consumeFifoRows (quantity : ℚ) :
    Session InventoryError (List FifoRow) FifoCost := do
  let rows ← get
  refuse (totalAvailable rows < quantity) (.http 400
    s!"Insufficient FIFO inventory: {Rounding.fixedText 6 (totalAvailable rows)} available")
  let consumed := consumeRows (fun consumeQty row => (row.consume consumeQty).syncLegacyLotSnapshot)
    FifoRow.use { remaining := quantity } rows
  set consumed.2
  pure {
    unitCost := numeric (consumed.1.totalCost / quantity)
    totalCost := consumed.1.totalCost
    layersUsed := consumed.1.layersUsed
    firstLotId := consumed.1.firstLotId }

/-- `consume_inventory_fifo`, on the rows its query returns. -/
def FIFOValuationService.consumeInventoryFifo (quantity : ℚ) :
    Session InventoryError (List FifoRow) ConsumptionResult := do
  let rows ← get
  refuse (totalAvailable rows < quantity) (.http 400
    (s!"Insufficient inventory. Available: {Rounding.fixedText 6 (totalAvailable rows)}, " ++
      s!"Requested: {Rounding.fixedText 6 quantity}"))
  let consumed := consumeRows FifoRow.consume
    (fun row consumeQty => ⟨row.use consumeQty, consumeQty * row.lot.unitCost⟩)
    { remaining := quantity } rows
  set consumed.2
  pure {
    quantityConsumed := quantity
    totalCost := consumed.1.totalCost
    costLayersUsed := consumed.1.layersUsed
    remainingQuantity := totalAvailable rows - quantity }

/-! ### The layers of the query -/

/-- The layers of an item in a warehouse: they have stock and stand in the order of receipt. -/
structure FifoLayers where
  rows : List FifoRow
  ordered : rows.Pairwise fun row row' => row.lot.receivedDate ≤ row'.lot.receivedDate
  stocked : ∀ row ∈ rows, 0 < row.balance.quantityOnHand

/-- The balances with stock of the item's lots; the valuation service takes quarantined ones
too, and the transaction service may be asked for any organization. -/
def fifoRows (s : InventoryStore β) (org : Option UUID) (itemId warehouseId : UUID)
    (quarantined : Bool) : List FifoRow :=
  let balances := s.lotBalances.select fun balance =>
    balance.warehouseId = some warehouseId && balance.quantityOnHand > 0 && balance.isActive &&
      (quarantined || !balance.isQuarantined)
  let rows := balances.filterMap fun balance =>
    ((s.lots.get? balance.row.lotId).filter fun lot =>
      lot.itemId = itemId && org.all (lot.organizationId = ·)).map fun lot =>
        { balanceId := balance.id
          balance := balance.row
          lotId := balance.row.lotId
          lot
          others := (s.lotBalances.select fun other => other.lotId = balance.row.lotId).filterMap
            fun other => if other.id = balance.id then none else some other.row }
  rows.insertionSort fun a b => a.lot.receivedDate ≤ b.lot.receivedDate

def layersOf (s : InventoryStore β) (org : Option UUID) (itemId warehouseId : UUID)
    (quarantined : Bool) : FifoLayers where
  rows := fifoRows s org itemId warehouseId quarantined
  ordered := List.pairwise_insertionSort _ _
  stocked := by
    intro row hrow
    rw [fifoRows, List.mem_insertionSort, List.mem_filterMap] at hrow
    obtain ⟨balance, hbalance, hrow⟩ := hrow
    obtain ⟨lot, hlot, rfl⟩ := Option.map_eq_some_iff.mp hrow
    have hquery := (Table.mem_select.mp hbalance).2
    simp only [Bool.and_eq_true, decide_eq_true_eq] at hquery
    exact hquery.1.1.2

/-! ### The loop is a drawing -/

def rowDrawing (take : ℚ → FifoRow → FifoRow)
    (amount_take : ∀ q row, (take q row).balance.quantityOnHand = row.balance.quantityOnHand - q)
    (take_take : ∀ a b row, 0 ≤ b → take b (take a row) = take (a + b) row) :
    Drawing FifoRow ℚ where
  amount row := row.balance.quantityOnHand
  take := take
  amount_take := amount_take
  take_take := take_take

def issueDrawing : Drawing FifoRow ℚ :=
  rowDrawing (fun consumeQty row => (row.consume consumeQty).syncLegacyLotSnapshot)
    (fun _ _ => rfl) fun a b row hb => by
      simp only [FifoRow.syncLegacyLotSnapshot, FifoRow.consume, consume_consume hb]

def valuationDrawing : Drawing FifoRow ℚ :=
  rowDrawing FifoRow.consume (fun _ _ => rfl) fun a b row hb => by
    simp only [FifoRow.consume, consume_consume hb]

private theorem orElse_none (first : Option UUID) : (first <|> none) = first := by
  cases first <;> rfl

theorem consumeRows_eq {ε : Type} (D : Drawing FifoRow ℚ)
    (hamount : ∀ row, D.amount row = row.balance.quantityOnHand) (use : FifoRow → ℚ → ε)
    (loop : FifoLoop ε) (rows : List FifoRow) :
    (consumeRows D.take use loop rows).2 = D.leave rows loop.remaining ∧
      (consumeRows D.take use loop rows).1.totalCost =
        loop.totalCost + Drawing.cost (fun row => row.lot.unitCost) (D.taken rows loop.remaining) ∧
      (consumeRows D.take use loop rows).1.layersUsed =
        loop.layersUsed ++
          (D.taken rows loop.remaining).map (fun taken => use taken.1 taken.2) ∧
      (consumeRows D.take use loop rows).1.firstLotId =
        (loop.firstLotId <|> (D.taken rows loop.remaining).head?.map fun taken =>
          taken.1.lotId) := by
  induction rows generalizing loop with
  | nil =>
    rw [consumeRows, Drawing.leave, Drawing.taken]
    exact ⟨rfl, (add_zero _).symm, (List.append_nil _).symm, (orElse_none _).symm⟩
  | cons row rows ih =>
    rcases le_or_gt loop.remaining 0 with hq | hq
    · rw [consumeRows, if_pos hq, D.leave_of_nonpos _ hq, D.taken_of_nonpos _ hq]
      exact ⟨rfl, (add_zero _).symm, (List.append_nil _).symm, (orElse_none _).symm⟩
    · obtain ⟨hrows, hcost, hused, hfirst⟩ := ih
        { remaining := loop.remaining - min row.balance.quantityOnHand loop.remaining
          totalCost := loop.totalCost +
            min row.balance.quantityOnHand loop.remaining * row.lot.unitCost
          layersUsed := loop.layersUsed ++
            [use row (min row.balance.quantityOnHand loop.remaining)]
          firstLotId := loop.firstLotId <|> some row.lotId }
      rw [consumeRows, if_neg (not_le.mpr hq), D.leave_cons row rows hq, D.taken_cons row rows hq,
        hamount]
      refine ⟨?_, ?_, ?_, ?_⟩
      · rw [← hrows]
      · rw [hcost, Drawing.cost, Drawing.cost, List.map_cons, List.sum_cons, add_assoc]
      · rw [hused, List.map_cons, List.append_assoc, List.singleton_append]
      · rw [hfirst]
        cases loop.firstLotId <;> rfl

/-! ### Consuming the oldest layers -/

/-- What is left of the rows after a quantity is removed, the oldest first: the layers older than
the last one touched are exhausted, the newer ones are as they were. -/
def RemovesOldest (quantity : ℚ) (before after : List FifoRow) : Prop :=
  totalAvailable after = totalAvailable before - quantity ∧
    ∃ older touched newer exhausted consumed,
      before = older ++ touched :: newer ∧ after = exhausted ++ consumed :: newer ∧
      (∀ row ∈ older, row.lot.receivedDate ≤ touched.lot.receivedDate) ∧
      (∀ row ∈ newer, touched.lot.receivedDate ≤ row.lot.receivedDate) ∧
      List.Forall₂ FifoRow.SameLayer older exhausted ∧
      (∀ row ∈ exhausted, row.balance.quantityOnHand = 0) ∧
      touched.SameLayer consumed ∧ 0 ≤ consumed.balance.quantityOnHand ∧
      consumed.balance.quantityOnHand < touched.balance.quantityOnHand

def withStock (rows : List FifoRow) : List FifoRow :=
  rows.filter fun row => 0 < row.balance.quantityOnHand

/-- A consumption takes the oldest layers, in one call or in two. -/
structure ConsumesFifo {α : Type} (consume : ℚ → Session InventoryError (List FifoRow) α)
    (totalCost : α → ℚ) (layers : FifoLayers) : Prop where
  /-- A quantity that is there is removed from the oldest layers, at what they cost. -/
  removes : ∀ quantity, 0 < quantity → quantity ≤ totalAvailable layers.rows →
    ∃ answer rows, consume quantity layers.rows = .ok answer rows ∧
      RemovesOldest quantity layers.rows rows ∧
      totalCost answer + layersValue rows = layersValue layers.rows
  /-- A quantity and then another are their sum, whether the exhausted rows are still found or
  not. -/
  adds : ∀ a b, 0 < a → 0 < b → a + b ≤ totalAvailable layers.rows →
    ∃ first rows, consume a layers.rows = .ok first rows ∧
      ∃ both rows', consume (a + b) layers.rows = .ok both rows' ∧
        (∃ second, consume b rows = .ok second rows' ∧
          totalCost first + totalCost second = totalCost both) ∧
        ∃ second left, consume b (withStock rows) = .ok second left ∧
          withStock left = withStock rows' ∧
          totalCost first + totalCost second = totalCost both
  /-- A quantity that is not there is refused, and nothing changes. -/
  refuses : ∀ quantity, totalAvailable layers.rows < quantity →
    ∃ e, consume quantity layers.rows = .error e layers.rows

structure Draws {α : Type} (consume : ℚ → Session InventoryError (List FifoRow) α)
    (totalCost : α → ℚ) (D : Drawing FifoRow ℚ) : Prop where
  amount : ∀ row, D.amount row = row.balance.quantityOnHand
  same : ∀ q row, FifoRow.SameLayer row (D.take q row)
  ok : ∀ quantity rows, quantity ≤ totalAvailable rows →
    ∃ answer, consume quantity rows = .ok answer (D.leave rows quantity) ∧
      totalCost answer = Drawing.cost (fun row => row.lot.unitCost) (D.taken rows quantity)
  error : ∀ quantity rows, totalAvailable rows < quantity →
    ∃ e, consume quantity rows = .error e rows

namespace Draws

variable {α : Type} {consume : ℚ → Session InventoryError (List FifoRow) α} {totalCost : α → ℚ}
  {D : Drawing FifoRow ℚ}

theorem total_eq (h : Draws consume totalCost D) (rows : List FifoRow) :
    D.total rows = totalAvailable rows := by
  rw [Drawing.total, totalAvailable, funext h.amount]

theorem worth_eq (h : Draws consume totalCost D) (rows : List FifoRow) :
    D.worth (fun row => row.lot.unitCost) rows = layersValue rows := by
  rw [Drawing.worth, layersValue, funext h.amount]

theorem stocked_eq (h : Draws consume totalCost D) (rows : List FifoRow) :
    D.stocked rows = withStock rows := by
  rw [Drawing.stocked, withStock, funext h.amount]

theorem unitCost_take (h : Draws consume totalCost D) (q : ℚ) (row : FifoRow) :
    (D.take q row).lot.unitCost = row.lot.unitCost := by
  rw [(h.same q row).2.2]

theorem stocked (h : Draws consume totalCost D) (layers : FifoLayers) :
    ∀ row ∈ layers.rows, 0 < D.amount row := by
  intro row hrow
  rw [h.amount]
  exact layers.stocked row hrow

theorem nonneg (h : Draws consume totalCost D) (layers : FifoLayers) : D.Nonneg layers.rows :=
  fun row hrow => (h.stocked layers row hrow).le

theorem removesOldest (h : Draws consume totalCost D) (layers : FifoLayers) {quantity : ℚ}
    (hq : 0 < quantity) (hle : quantity ≤ totalAvailable layers.rows) :
    RemovesOldest quantity layers.rows (D.leave layers.rows quantity) := by
  have htotal := D.total_leave (h.nonneg layers) hq.le (hle.trans_eq (h.total_eq _).symm)
  rw [h.total_eq, h.total_eq] at htotal
  obtain ⟨older, touched, newer, part, hrows, hpos, hpart, hleave, -⟩ :=
    D.leave_eq (h.stocked layers) hq (hle.trans_eq (h.total_eq _).symm)
  have hordered := layers.ordered
  rw [hrows, List.pairwise_append, List.pairwise_cons] at hordered
  have honHand := D.amount_take part touched
  rw [h.amount, h.amount] at honHand
  rw [h.amount] at hpart
  refine ⟨htotal, older, touched, newer, _, _, hrows, hleave, ?_, hordered.2.1.1, ?_, ?_,
    h.same part touched, by linarith, by linarith⟩
  · exact fun row hrow => hordered.2.2 row hrow touched List.mem_cons_self
  · rw [List.forall₂_map_right_iff]
    exact List.forall₂_same.mpr fun row _ => h.same _ row
  · intro row hrow
    obtain ⟨row', -, rfl⟩ := List.mem_map.mp hrow
    rw [← h.amount, D.amount_take, sub_self]

theorem totalCost_eq (h : Draws consume totalCost D) {quantity : ℚ} {rows : List FifoRow}
    {answer : α} {rows' : List FifoRow} (hle : quantity ≤ totalAvailable rows)
    (hanswer : consume quantity rows = .ok answer rows') :
    rows' = D.leave rows quantity ∧
      totalCost answer = layersValue rows - layersValue rows' := by
  obtain ⟨answer', hanswer', hcost⟩ := h.ok quantity rows hle
  obtain ⟨rfl, rfl⟩ := EStateM.Result.ok.inj (hanswer.symm.trans hanswer')
  have hkept := D.cost_taken_add (p := fun row => row.lot.unitCost) h.unitCost_take rows quantity
  rw [h.worth_eq, h.worth_eq] at hkept
  refine ⟨rfl, ?_⟩
  rw [hcost]
  exact eq_sub_of_add_eq hkept

/-- **What draws from the rows and refuses what is not there consumes the oldest layers.** -/
theorem consumesFifo (h : Draws consume totalCost D) (layers : FifoLayers) :
    ConsumesFifo consume totalCost layers where
  removes := by
    intro quantity hq hle
    obtain ⟨answer, hanswer, -⟩ := h.ok quantity layers.rows hle
    refine ⟨answer, _, hanswer, h.removesOldest layers hq hle, ?_⟩
    rw [(h.totalCost_eq hle hanswer).2, sub_add_cancel]
  adds := by
    intro a b ha hb hle
    have hale : a ≤ totalAvailable layers.rows := by linarith
    have hnonneg := h.nonneg layers
    have hleft := D.total_leave hnonneg ha.le (hale.trans_eq (h.total_eq _).symm)
    have hblefirst : b ≤ totalAvailable (D.leave layers.rows a) := by
      rw [← h.total_eq, hleft, h.total_eq]
      linarith
    have hstockTotal : totalAvailable (withStock (D.leave layers.rows a)) =
        totalAvailable (D.leave layers.rows a) := by
      rw [← h.total_eq, ← h.stocked_eq, D.total_stocked (hnonneg.leave D a), h.total_eq]
    have hstockValue : ∀ rows, D.Nonneg rows → layersValue (withStock rows) = layersValue rows := by
      intro rows hrows
      rw [← h.worth_eq, ← h.stocked_eq, D.worth_stocked hrows, h.worth_eq]
    have hbstock : b ≤ totalAvailable (withStock (D.leave layers.rows a)) :=
      hblefirst.trans_eq hstockTotal.symm
    obtain ⟨first, hfirst, -⟩ := h.ok a layers.rows hale
    obtain ⟨both, hboth, -⟩ := h.ok (a + b) layers.rows hle
    obtain ⟨second, hsecond, -⟩ := h.ok b (D.leave layers.rows a) hblefirst
    obtain ⟨second', hsecond', -⟩ := h.ok b (withStock (D.leave layers.rows a)) hbstock
    have hfirstCost := (h.totalCost_eq hale hfirst).2
    have hbothCost := (h.totalCost_eq hle hboth).2
    have hsecondCost := (h.totalCost_eq hblefirst hsecond).2
    have hsecondCost' := (h.totalCost_eq hbstock hsecond').2
    have htwice := D.leave_leave hnonneg ha.le hb.le
    refine ⟨first, _, hfirst, both, _, hboth, ⟨second, ?_, ?_⟩, second', _, hsecond', ?_, ?_⟩
    · rw [hsecond, htwice]
    · rw [hfirstCost, hsecondCost, hbothCost, htwice]
      ring
    · rw [← h.stocked_eq, ← h.stocked_eq, ← h.stocked_eq,
        D.stocked_leave_stocked (hnonneg.leave D a), htwice]
    · have hrest : D.Nonneg (withStock (D.leave layers.rows a)) := by
        intro row hrow
        exact hnonneg.leave D a row (List.mem_of_mem_filter hrow)
      have hleftValue : layersValue (D.leave (withStock (D.leave layers.rows a)) b) =
          layersValue (D.leave layers.rows (a + b)) := by
        rw [← hstockValue _ (hrest.leave D b), ← hstockValue _ (hnonneg.leave D (a + b)),
          ← htwice, ← h.stocked_eq, ← h.stocked_eq, ← h.stocked_eq,
          D.stocked_leave_stocked (hnonneg.leave D a)]
      rw [hfirstCost, hsecondCost', hbothCost, hstockValue _ (hnonneg.leave D a), hleftValue]
      ring
  refuses := fun quantity hlt => h.error quantity layers.rows hlt

end Draws

theorem replacing_eq_ok {α : Type} {c : List FifoRow → Prop} [∀ rows, Decidable (c rows)]
    {e : List FifoRow → InventoryError} {answer : List FifoRow → α}
    {left : List FifoRow → List FifoRow} {rows : List FifoRow} (h : ¬ c rows) :
    (do
      let rows ← get
      refuse (c rows) (e rows)
      set (left rows)
      pure (answer rows) : Session InventoryError (List FifoRow) α) rows =
        .ok (answer rows) (left rows) := by
  rw [get_bind, refuse_bind]
  exact ⟨h, rfl⟩

theorem draws_consumeFifoRows :
    Draws consumeFifoRows FifoCost.totalCost issueDrawing where
  amount _ := rfl
  same _ _ := ⟨rfl, rfl, rfl⟩
  ok quantity rows hle := by
    obtain ⟨hrows, hcost, -⟩ := consumeRows_eq issueDrawing (fun _ => rfl) FifoRow.use
      { remaining := quantity } rows
    rw [zero_add] at hcost
    have hrun : consumeFifoRows quantity rows = _ :=
      replacing_eq_ok (c := fun rows => totalAvailable rows < quantity) (not_lt.mpr hle)
    exact ⟨_, hrun.trans (congrArg (EStateM.Result.ok _) hrows), hcost⟩
  error quantity rows hlt :=
    ⟨_, get_bind_eq_error.mpr (refuse_bind_eq_error.mpr (.inl ⟨hlt, rfl, rfl⟩))⟩

theorem draws_consumeInventoryFifo :
    Draws FIFOValuationService.consumeInventoryFifo ConsumptionResult.totalCost
      valuationDrawing where
  amount _ := rfl
  same _ _ := ⟨rfl, rfl, rfl⟩
  ok quantity rows hle := by
    obtain ⟨hrows, hcost, -⟩ := consumeRows_eq valuationDrawing (fun _ => rfl)
      (fun row consumeQty =>
        (⟨row.use consumeQty, consumeQty * row.lot.unitCost⟩ : CostLayerUse))
      { remaining := quantity } rows
    rw [zero_add] at hcost
    have hrun : FIFOValuationService.consumeInventoryFifo quantity rows = _ :=
      replacing_eq_ok (c := fun rows => totalAvailable rows < quantity) (not_lt.mpr hle)
    exact ⟨_, hrun.trans (congrArg (EStateM.Result.ok _) hrows), hcost⟩
  error quantity rows hlt :=
    ⟨_, get_bind_eq_error.mpr (refuse_bind_eq_error.mpr (.inl ⟨hlt, rfl, rfl⟩))⟩

/-! ### The store's own call -/

theorem map_layer_fifoRows (s : InventoryStore β) (org itemId warehouseId : UUID) :
    (fifoRows s (some org) itemId warehouseId false).map FifoRow.layer =
      fifoLayers s org itemId warehouseId := by
  rw [fifoRows,
    List.map_insertionSort (fun a b : FifoRow => a.lot.receivedDate ≤ b.lot.receivedDate)
    (fun a b : FifoLayer => a.receivedDate ≤ b.receivedDate) FifoRow.layer _
    fun _ _ _ _ => Iff.rfl, List.map_filterMap, fifoLayers]
  congr 2
  funext balance
  rw [Option.map_map]
  rfl

theorem consumption_map_layer (D : Drawing FifoRow ℚ)
    (hamount : ∀ row, D.amount row = row.balance.quantityOnHand) (rows : List FifoRow)
    (quantity : ℚ) :
    consumption (rows.map FifoRow.layer) quantity =
      (D.taken rows quantity).map fun taken => (taken.1.layer, taken.2) := by
  induction rows generalizing quantity with
  | nil => rfl
  | cons row rows ih =>
    rcases le_or_gt quantity 0 with hq | hq
    · rw [D.taken_of_nonpos _ hq, List.map_cons, consumption, if_pos hq]
      rfl
    · rw [D.taken_cons row rows hq, List.map_cons, consumption, if_neg (not_le.mpr hq),
        List.map_cons, ← ih, hamount]
      rfl

/-- An issue from the store reports what the loop over its layers reports. -/
theorem consumeFifo_agrees {s s' : InventoryStore β} {org itemId warehouseId : UUID}
    {quantity : ℚ} {result : FifoResult}
    (h : consumeFifo org itemId warehouseId quantity s =
      .ok result s') :
    ∃ answer rows, consumeFifoRows quantity
        (layersOf s (some org) itemId warehouseId false).rows = .ok answer rows ∧
      result.totalCost = answer.totalCost ∧ result.firstLotId = answer.firstLotId := by
  obtain ⟨-, hle, -, hfirst, hcost⟩ := consumeFifo_eq_ok h
  have hlayers := map_layer_fifoRows s org itemId warehouseId
  rw [← hlayers, consumption_map_layer issueDrawing fun _ => rfl] at hfirst hcost
  rw [← hlayers, layersTotal, List.map_map] at hle
  obtain ⟨hrows, hcost', -, hfirst'⟩ := consumeRows_eq issueDrawing (fun _ => rfl) FifoRow.use
    { remaining := quantity } (fifoRows s (some org) itemId warehouseId false)
  have hrun : consumeFifoRows quantity
      (fifoRows s (some org) itemId warehouseId false) = _ :=
    replacing_eq_ok (c := fun rows => totalAvailable rows < quantity) (not_lt.mpr hle)
  refine ⟨_, _, hrun, ?_, ?_⟩
  · rw [hcost, List.map_map]
    exact (hcost'.trans (zero_add _)).symm
  · rw [hfirst, List.head?_map, Option.map_map]
    exact hfirst'.symm

theorem stored_stored (balance : InventoryLotBalance) : balance.stored.stored = balance.stored := by
  simp only [InventoryLotBalance.stored, numeric, Rounding.halfUp_halfUp]

/-- What an issue withdraws from the layers leaves them as the valuation service does, once they
are stored, and touches no other balance. -/
theorem get?_withdrawLayers {rows : List FifoRow} {balances : Table InventoryLotBalance}
    (hnodup : (rows.map FifoRow.balanceId).Nodup)
    (hrows : ∀ row ∈ rows, balances.get? row.balanceId = some row.balance) (quantity : ℚ) :
    (∀ row ∈ valuationDrawing.leave rows quantity,
      ((withdrawLayers (consumption (rows.map FifoRow.layer) quantity) balances).get?
        row.balanceId).map InventoryLotBalance.stored = some row.balance.stored) ∧
    (valuationDrawing.leave rows quantity).map FifoRow.balanceId = rows.map FifoRow.balanceId ∧
    ∀ k, k ∉ rows.map FifoRow.balanceId →
      (withdrawLayers (consumption (rows.map FifoRow.layer) quantity) balances).get? k =
        balances.get? k := by
  induction rows generalizing balances quantity with
  | nil => exact ⟨fun row hrow => absurd hrow List.not_mem_nil, rfl, fun _ _ => rfl⟩
  | cons row rows ih =>
    rcases le_or_gt quantity 0 with hq | hq
    · rw [valuationDrawing.leave_of_nonpos _ hq, List.map_cons, consumption, if_pos hq]
      exact ⟨fun row hrow => congrArg (Option.map _) (hrows row hrow), rfl, fun _ _ => rfl⟩
    · rw [valuationDrawing.leave_cons row rows hq, List.map_cons, consumption,
        if_neg (not_le.mpr hq)]
      rw [List.map_cons, List.nodup_cons] at hnodup
      set consumeQty := min row.balance.quantityOnHand quantity
      -- the turn writes to the balance of its own layer only
      have hrest : ∀ other ∈ rows, (balances.modify row.balanceId (·.withdraw consumeQty)).get?
          other.balanceId = some other.balance := by
        intro other hother
        have hne : other.balanceId ≠ row.balanceId := fun heq =>
          hnodup.1 (heq ▸ List.mem_map_of_mem hother)
        rw [Table.get?_modify_of_ne hne]
        exact hrows other (List.mem_cons_of_mem row hother)
      obtain ⟨hleft, hids, hothers⟩ := ih hnodup.2 hrest (quantity - consumeQty)
      refine ⟨fun left hmem => ?_, congrArg (row.balanceId :: ·) hids, fun k hk => ?_⟩
      · rcases List.mem_cons.mp hmem with rfl | hmem
        · have hturn : (balances.modify row.balanceId (·.withdraw consumeQty)).get? row.balanceId =
              some (row.balance.consume consumeQty).stored := by
            rw [Table.get?_modify_self, hrows row List.mem_cons_self, Option.map_some,
              withdraw_eq_stored]
          have hstays := hothers row.balanceId hnodup.1
          exact (congrArg (Option.map _) (hstays.trans hturn)).trans
            (congrArg some (stored_stored _))
        · exact hleft left hmem
      · rw [List.map_cons, List.mem_cons, not_or] at hk
        exact (hothers k hk.2).trans (Table.get?_modify_of_ne hk.1 _)

/-- **An issue and the valuation service agree.** Where no stock of the warehouse is quarantined the
valuation service accepts what an issue accepts, at the same cost and from the same lot first; what
it leaves of a layer is what the issue stores, and the issue touches no other balance. -/
theorem issue_agrees_with_valuation {s s' : InventoryStore β}
    {org itemId warehouseId : UUID} {quantity : ℚ} {result : FifoResult}
    (hfree : ∀ i balance, s.lotBalances.get? i = some balance →
      balance.warehouseId = some warehouseId → balance.isQuarantined = false)
    (h : consumeFifo org itemId warehouseId quantity s =
      .ok result s') :
    ∃ answer rows, FIFOValuationService.consumeInventoryFifo quantity
        (layersOf s (some org) itemId warehouseId true).rows = .ok answer rows ∧
      answer.totalCost = result.totalCost ∧
      (answer.costLayersUsed.head?.map fun used => used.lotId) = result.firstLotId ∧
      (∀ row ∈ rows, (s'.lotBalances.get? row.balanceId).map InventoryLotBalance.stored =
        some row.balance.stored) ∧
      ∀ k, k ∉ rows.map FifoRow.balanceId → s'.lotBalances.get? k = s.lotBalances.get? k := by
  have hsame : (layersOf s (some org) itemId warehouseId true).rows =
      fifoRows s (some org) itemId warehouseId false := by
    simp only [layersOf, fifoRows]
    congr 2
    refine List.filter_congr fun r hr => ?_
    by_cases hwarehouse : r.row.warehouseId = some warehouseId
    · simp [hfree r.id r.row (Table.get?_eq_some.mpr hr) hwarehouse]
    · simp [hwarehouse]
  obtain ⟨-, hle, hbalances, hfirst, hcost⟩ := consumeFifo_eq_ok h
  have hlayers := map_layer_fifoRows s org itemId warehouseId
  have hnodup := nodup_fifoLayers (s := s) org itemId warehouseId
  rw [← hlayers, List.map_map] at hnodup
  rw [← hlayers, layersTotal, List.map_map] at hle
  rw [← hlayers, consumption_map_layer valuationDrawing fun _ => rfl] at hfirst hcost
  rw [← hlayers] at hbalances
  rw [hsame]
  have hfound : ∀ row ∈ fifoRows s (some org) itemId warehouseId false,
      s.lotBalances.get? row.balanceId = some row.balance := by
    intro row hrow
    rw [fifoRows, List.mem_insertionSort, List.mem_filterMap] at hrow
    obtain ⟨balance, hbalance, hrow⟩ := hrow
    obtain ⟨lot, -, rfl⟩ := Option.map_eq_some_iff.mp hrow
    exact (Table.mem_select.mp hbalance).1
  generalize fifoRows s (some org) itemId warehouseId false = rows at *
  obtain ⟨hrows, hcost', hused, -⟩ := consumeRows_eq valuationDrawing (fun _ => rfl)
    (fun row consumeQty => (⟨row.use consumeQty, consumeQty * row.lot.unitCost⟩ : CostLayerUse))
    { remaining := quantity } rows
  have hrun : FIFOValuationService.consumeInventoryFifo quantity rows = _ :=
    replacing_eq_ok (c := fun rows => totalAvailable rows < quantity) (not_lt.mpr hle)
  obtain ⟨hleft, hids, hothers⟩ := get?_withdrawLayers hnodup hfound quantity
  refine ⟨_, _, hrun.trans (congrArg (EStateM.Result.ok _) hrows), ?_, ?_, ?_, fun k hk => ?_⟩
  · rw [hcost, List.map_map]
    exact hcost'.trans (zero_add _)
  · rw [hfirst, List.head?_map, Option.map_map]
    refine (congrArg (fun used => (List.head? used).map fun use => use.lotId) hused).trans ?_
    rw [List.nil_append, List.head?_map, Option.map_map]
    rfl
  · rw [hbalances]
    exact hleft
  · rw [hbalances]
    exact hothers k (hids ▸ hk)

def twoLots : InventoryStore Unit where
  lots := (Table.empty.insert ⟨9, 0, "A", none, none, none, none, 1, 2, 3, true⟩).insert
    ⟨9, 0, "B", none, none, none, none, 2, 4, 5, true⟩
  lotBalances := (Table.empty.insert ⟨9, 0, some 0, 3, 0, 3, true, false⟩).insert
    ⟨9, 1, some 0, 5, 0, 5, true, false⟩
  services := ()

/-- An issue of four costs ten, and so does their valuation. -/
theorem issue_agrees_with_valuation_sample :
    ∃ answer rows, FIFOValuationService.consumeInventoryFifo 4
      (layersOf twoLots (some 9) 0 0 true).rows = .ok answer rows ∧ answer.totalCost = 10 := by
  have hissue : (match consumeFifo 9 0 0 4 twoLots with
    | .ok result _ => decide (result.totalCost = 10)
    | .error _ _ => false) = true := by decide +kernel
  have hfree : ∀ r ∈ twoLots.lotBalances.rows, r.row.isQuarantined = false := by decide
  split at hissue
  next result s' h =>
    obtain ⟨answer, rows, hvalued, hcost, -⟩ := issue_agrees_with_valuation
      (fun i balance hget _ => hfree ⟨i, balance⟩ (Table.get?_eq_some.mp hget)) h
    exact ⟨answer, rows, hvalued, hcost.trans (of_decide_eq_true hissue)⟩
  next => exact absurd hissue (by decide)

end DotmacErp.Inventory
