import DotmacErp.Inventory.Transactions

/-!
# Replaying the weighted-average ledger

The ledger can be recomputed from the movements in two ways: `buildRebuildRows` leaves one row for
each stock, and `buildBreakdownRows` the trail of the calculation, one row for each movement. They
are two copies of one replay. At six decimals their roundings do nothing to a sum, and they agree
as long as no issue without a cost of its own finds a negative average (`ReplaysAlike`): what such
an issue takes out is negative, and the trail takes its absolute value.

In the trail the value of a row is that of the row before plus what came in less what went out
(`RowLaw`), but for the rows that set it: stock that runs out has no value, and a revaluation gives
the value that it shows as coming in.
-/

namespace DotmacErp.Inventory

open Relational Rounding

/-- `WACRebuildRow`, and the state of its replay. -/
structure WacRebuildRow where
  key : StockKey
  quantityOnHand : ℚ
  currentWac : ℚ
  totalValue : ℚ
  lastTransactionId : UUID
  transactionCount : ℕ

structure WacBreakdownRow where
  transactionId : UUID
  transactionType : TransactionType
  quantityIn : ℚ
  quantityOut : ℚ
  unitCost : ℚ
  valueIn : ℚ
  valueOut : ℚ
  quantityAfter : ℚ
  wacAfter : ℚ
  totalValueAfter : ℚ

abbrev ReplayInput := Stored InventoryTransaction × Item

namespace WacValuationService

def signedQuantityDelta (txn : InventoryTransaction) : ℚ :=
  let delta := txn.quantityAfter - txn.quantityBefore
  if delta ≠ 0 then delta
  else match txn.transactionType with
    | .issue | .sale | .scrap | .disassembly => -|txn.quantity|
    | _ => txn.quantity

def rebuildValueDelta (txn : InventoryTransaction) (quantityDelta : ℚ) : ℚ :=
  if quantityDelta < 0 then -|txn.totalCost| else txn.totalCost

def rebuildOutboundValueDelta (txn : InventoryTransaction) (outboundQty currentWac : ℚ) : ℚ :=
  if txn.totalCost ≠ 0 then -|txn.totalCost| else -numeric (outboundQty * currentWac)

/-- A movement that sets the value of the stock and moves nothing. -/
def Revalues (txn : InventoryTransaction) : Prop :=
  signedQuantityDelta txn = 0 ∧
    (txn.transactionType = .adjustment ∨ txn.transactionType = .countAdjustment) ∧
      txn.totalCost ≠ 0 ∧ 0 < txn.quantityAfter

instance (txn : InventoryTransaction) : Decidable (Revalues txn) :=
  inferInstanceAs (Decidable (_ ∧ _))

/-- What a replay keeps of a stock: its quantity, average cost and value. -/
structure ReplayState where
  quantity : ℚ := 0
  wac : ℚ := 0
  value : ℚ := 0

/-! ### The rebuilt row -/

/-- A movement in `_build_rebuild_rows`. -/
def rebuildStep (state : ReplayState) (txn : InventoryTransaction) : ReplayState :=
  let delta := signedQuantityDelta txn
  if delta > 0 then
    let newQty := state.quantity + delta
    let newTotal := state.value + rebuildValueDelta txn delta
    { quantity := newQty
      value := numeric newTotal
      wac := if newQty > 0 then numeric (newTotal / newQty) else 0 }
  else if delta < 0 then
    let outboundQty := min |delta| state.quantity
    let newQty := state.quantity - outboundQty
    let newTotal := state.value + rebuildOutboundValueDelta txn outboundQty state.wac
    if newQty ≤ 0 then {}
    else
      { quantity := numeric newQty
        value := numeric newTotal
        wac := numeric (newTotal / newQty) }
  else if Revalues txn then
    { quantity := numeric txn.quantityAfter
      value := numeric txn.totalCost
      wac := numeric (txn.totalCost / txn.quantityAfter) }
  else state

def replayRow (row : WacRebuildRow) (txn : Stored InventoryTransaction) : WacRebuildRow :=
  let state := rebuildStep ⟨row.quantityOnHand, row.currentWac, row.totalValue⟩ txn.row
  { key := row.key
    quantityOnHand := state.quantity
    currentWac := state.wac
    totalValue := state.value
    lastTransactionId := txn.id
    transactionCount := row.transactionCount + 1 }

def replayInto (txn : Stored InventoryTransaction) : List WacRebuildRow → List WacRebuildRow
  | [] => [replayRow ⟨txn.row.key, 0, 0, 0, txn.id, 0⟩ txn]
  | row :: rows =>
    if row.key = txn.row.key then replayRow row txn :: rows else row :: replayInto txn rows

/-- A movement in the loop; other items are passed over. -/
def rebuildInto (rebuilt : List WacRebuildRow) (input : ReplayInput) : List WacRebuildRow :=
  if input.2.costingMethod ≠ .weightedAverage then rebuilt else replayInto input.1 rebuilt

def buildRebuildRows (rows : List ReplayInput) : List WacRebuildRow := rows.foldl rebuildInto []

/-! ### The trail -/

/-- What a movement shows in the trail: the state after it, and what came in and went out. -/
structure BreakdownStep where
  state : ReplayState
  quantityIn : ℚ := 0
  quantityOut : ℚ := 0
  valueIn : ℚ := 0
  valueOut : ℚ := 0

/-- A movement in `_build_breakdown_rows`. -/
def breakdownStep (state : ReplayState) (txn : InventoryTransaction) : BreakdownStep :=
  let delta := signedQuantityDelta txn
  if delta > 0 then
    let inboundCost := rebuildValueDelta txn delta
    let newQty := state.quantity + delta
    let newTotal := state.value + inboundCost
    { state := {
        quantity := numeric newQty
        value := numeric newTotal
        wac := if newQty > 0 then numeric (newTotal / newQty) else 0 }
      quantityIn := delta
      valueIn := inboundCost }
  else if delta < 0 then
    let quantityOut := min |delta| state.quantity
    let outboundValue := |rebuildOutboundValueDelta txn quantityOut state.wac|
    let newQty := state.quantity - quantityOut
    let newTotal := state.value - outboundValue
    { state :=
        if newQty ≤ 0 then {}
        else
          { quantity := numeric newQty
            value := numeric newTotal
            wac := numeric (numeric newTotal / numeric newQty) }
      quantityOut := quantityOut
      valueOut := outboundValue }
  else if Revalues txn then
    { state := {
        quantity := numeric txn.quantityAfter
        value := numeric txn.totalCost
        wac := numeric (txn.totalCost / txn.quantityAfter) }
      valueIn := numeric txn.totalCost }
  else { state := state }

def breakdownRow (txn : Stored InventoryTransaction) (step : BreakdownStep) : WacBreakdownRow where
  transactionId := txn.id
  transactionType := txn.row.transactionType
  quantityIn := step.quantityIn
  quantityOut := step.quantityOut
  unitCost := txn.row.unitCost
  valueIn := numeric step.valueIn
  valueOut := numeric step.valueOut
  quantityAfter := step.state.quantity
  wacAfter := step.state.wac
  totalValueAfter := step.state.value

def breakdownFrom : ReplayState → List ReplayInput → List WacBreakdownRow
  | _, [] => []
  | state, (txn, item) :: rows =>
    if item.costingMethod ≠ .weightedAverage then breakdownFrom state rows
    else
      let step := breakdownStep state txn.row
      breakdownRow txn step :: breakdownFrom step.state rows

def buildBreakdownRows (rows : List ReplayInput) : List WacBreakdownRow := breakdownFrom {} rows

end WacValuationService

open WacValuationService

/-! ### The two copies of a step -/

/-- The record as the database keeps it. -/
structure InventoryTransaction.InColumns (txn : InventoryTransaction) : Prop where
  quantity : AtScale 6 txn.quantity
  totalCost : AtScale 6 txn.totalCost
  quantityBefore : AtScale 6 txn.quantityBefore
  quantityAfter : AtScale 6 txn.quantityAfter

structure WacValuationService.ReplayState.Valid (state : ReplayState) : Prop where
  quantity : AtScale 6 state.quantity
  nonneg : 0 ≤ state.quantity
  value : AtScale 6 state.value

/-- The movement does not go out at a negative average. -/
def Fair (state : ReplayState) (txn : InventoryTransaction) : Prop :=
  signedQuantityDelta txn < 0 → txn.totalCost = 0 → 0 ≤ state.wac

instance (state : ReplayState) (txn : InventoryTransaction) : Decidable (Fair state txn) :=
  inferInstanceAs (Decidable (_ → _))

/-- Every movement is fair where the replay meets it. -/
def ReplaysAlike : ReplayState → List InventoryTransaction → Prop
  | _, [] => True
  | state, txn :: txns => Fair state txn ∧ ReplaysAlike (rebuildStep state txn) txns

variable {state : ReplayState} {txn : InventoryTransaction}

theorem atScale_abs {q : ℚ} (h : AtScale 6 q) : AtScale 6 |q| := by
  rcases abs_choice q with hq | hq
  · rw [hq]
    exact h
  · rw [hq]
    exact h.neg

theorem atScale_min {q r : ℚ} (hq : AtScale 6 q) (hr : AtScale 6 r) : AtScale 6 (min q r) := by
  rcases min_choice q r with h | h
  · rw [h]
    exact hq
  · rw [h]
    exact hr

namespace InventoryTransaction.InColumns

theorem delta (h : txn.InColumns) : AtScale 6 (signedQuantityDelta txn) := by
  have hmoved : AtScale 6 (txn.quantityAfter - txn.quantityBefore) :=
    h.quantityAfter.sub h.quantityBefore
  rw [signedQuantityDelta]
  split_ifs
  · exact hmoved
  · cases txn.transactionType <;>
      first | exact h.quantity | exact (atScale_abs h.quantity).neg

theorem valueDelta (h : txn.InColumns) (delta : ℚ) : AtScale 6 (rebuildValueDelta txn delta) := by
  rw [rebuildValueDelta]
  split_ifs
  · exact (atScale_abs h.totalCost).neg
  · exact h.totalCost

theorem outboundValueDelta (h : txn.InColumns) (outboundQty currentWac : ℚ) :
    AtScale 6 (rebuildOutboundValueDelta txn outboundQty currentWac) := by
  rw [rebuildOutboundValueDelta]
  split_ifs
  · exact (atScale_abs h.totalCost).neg
  · exact (atScale_halfUp 6 _).neg

end InventoryTransaction.InColumns

theorem WacValuationService.ReplayState.Valid.outbound (h : state.Valid) (ht : txn.InColumns) :
    AtScale 6 (min |signedQuantityDelta txn| state.quantity) ∧
      0 ≤ min |signedQuantityDelta txn| state.quantity :=
  ⟨atScale_min (atScale_abs ht.delta) h.quantity, le_min (abs_nonneg _) h.nonneg⟩

theorem rebuildOutboundValueDelta_nonpos (h : state.Valid) (ht : txn.InColumns)
    (hfair : Fair state txn) (hdelta : signedQuantityDelta txn < 0) :
    rebuildOutboundValueDelta txn (min |signedQuantityDelta txn| state.quantity) state.wac ≤ 0 := by
  rw [rebuildOutboundValueDelta]
  split_ifs with hcost
  · exact neg_nonpos.mpr (abs_nonneg _)
  · have hwac := hfair hdelta (not_not.mp hcost)
    exact neg_nonpos.mpr (halfUp_nonneg (mul_nonneg (h.outbound ht).2 hwac))

theorem WacValuationService.ReplayState.Valid.step (h : state.Valid) (ht : txn.InColumns) :
    (rebuildStep state txn).Valid := by
  have hnone : ({} : ReplayState).Valid := ⟨atScale_zero 6, le_rfl, atScale_zero 6⟩
  rw [rebuildStep]
  dsimp only
  by_cases hin : signedQuantityDelta txn > 0
  · rw [if_pos hin]
    exact ⟨h.quantity.add ht.delta, add_nonneg h.nonneg hin.le, atScale_halfUp 6 _⟩
  · rw [if_neg hin]
    by_cases hout : signedQuantityDelta txn < 0
    · rw [if_pos hout]
      split_ifs with hempty
      · exact hnone
      · exact ⟨atScale_halfUp 6 _, halfUp_nonneg (not_le.mp hempty).le, atScale_halfUp 6 _⟩
    · rw [if_neg hout]
      split_ifs with hset
      · exact ⟨atScale_halfUp 6 _, halfUp_nonneg hset.2.2.2.le, atScale_halfUp 6 _⟩
      · exact h

/-- **One movement**: the trail is where the rebuilt row is. -/
theorem state_breakdownStep (h : state.Valid) (ht : txn.InColumns) (hfair : Fair state txn) :
    (breakdownStep state txn).state = rebuildStep state txn := by
  rw [breakdownStep, rebuildStep]
  dsimp only
  by_cases hin : signedQuantityDelta txn > 0
  · rw [if_pos hin, if_pos hin]
    simp only [numeric, halfUp_of_atScale (h.quantity.add ht.delta)]
  · rw [if_neg hin, if_neg hin]
    by_cases hout : signedQuantityDelta txn < 0
    · rw [if_pos hout, if_pos hout]
      have hvalue := rebuildOutboundValueDelta_nonpos h ht hfair hout
      have hqty := h.quantity.sub (h.outbound ht).1
      have htotal := h.value.add (ht.outboundValueDelta
        (min |signedQuantityDelta txn| state.quantity) state.wac)
      dsimp only
      rw [abs_of_nonpos hvalue, sub_neg_eq_add]
      simp only [numeric, halfUp_of_atScale hqty, halfUp_of_atScale htotal]
    · rw [if_neg hout, if_neg hout]
      split_ifs <;> rfl

theorem WacValuationService.ReplayState.Valid.breakdownStep (h : state.Valid) :
    (breakdownStep state txn).state.Valid := by
  have hnone : ({} : ReplayState).Valid := ⟨atScale_zero 6, le_rfl, atScale_zero 6⟩
  rw [WacValuationService.breakdownStep]
  dsimp only
  by_cases hin : signedQuantityDelta txn > 0
  · rw [if_pos hin]
    exact ⟨atScale_halfUp 6 _, halfUp_nonneg (add_nonneg h.nonneg hin.le), atScale_halfUp 6 _⟩
  · rw [if_neg hin]
    by_cases hout : signedQuantityDelta txn < 0
    · rw [if_pos hout]
      split_ifs with hempty
      · exact hnone
      · exact ⟨atScale_halfUp 6 _, halfUp_nonneg (not_le.mp hempty).le, atScale_halfUp 6 _⟩
    · rw [if_neg hout]
      split_ifs with hset
      · exact ⟨atScale_halfUp 6 _, halfUp_nonneg hset.2.2.2.le, atScale_halfUp 6 _⟩
      · exact h

/-! ### The value of a row of the trail -/

/-- The value of a row, after a row of value `before`. -/
def RowLaw (before : ℚ) (txn : InventoryTransaction) (row : WacBreakdownRow) : Prop :=
  row.totalValueAfter =
    if Revalues txn then row.valueIn
    else if signedQuantityDelta txn < 0 ∧ row.quantityAfter = 0 then 0
    else before + row.valueIn - row.valueOut

/-- Every row of a trail obeys the law, each after the one before it. -/
def Accounted : ℚ → List ReplayInput → List WacBreakdownRow → Prop
  | _, [], [] => True
  | before, (txn, _) :: txns, row :: rows =>
    RowLaw before txn.row row ∧ Accounted row.totalValueAfter txns rows
  | _, _, _ => False

/-- **One movement** is accounted for. -/
theorem rowLaw_breakdownStep {txn : Stored InventoryTransaction} (h : state.Valid)
    (ht : txn.row.InColumns) :
    RowLaw state.value txn.row (breakdownRow txn (breakdownStep state txn.row)) := by
  rw [RowLaw, breakdownStep]
  dsimp only
  by_cases hin : signedQuantityDelta txn.row > 0
  · have hvalue := ht.valueDelta (signedQuantityDelta txn.row)
    rw [if_pos hin, if_neg (fun hset : Revalues txn.row => hin.ne' hset.1)]
    simp only [breakdownRow, numeric, halfUp_of_atScale (h.value.add hvalue),
      halfUp_of_atScale hvalue, halfUp_zero, sub_zero]
    rw [if_neg fun hempty => absurd hempty.1 (not_lt.mpr hin.le)]
  · rw [if_neg hin]
    by_cases hout : signedQuantityDelta txn.row < 0
    · have hvalue := atScale_abs (ht.outboundValueDelta
        (min |signedQuantityDelta txn.row| state.quantity) state.wac)
      rw [if_pos hout, if_neg (fun hset : Revalues txn.row => hout.ne hset.1)]
      by_cases hempty : state.quantity - min |signedQuantityDelta txn.row| state.quantity ≤ 0
      · simp only [breakdownRow, if_pos hempty]
        rw [if_pos ⟨hout, trivial⟩]
      · -- what is left is at scale, so that it does not vanish in its column
        have hleft := h.quantity.sub (h.outbound ht).1
        simp only [breakdownRow, if_neg hempty]
        rw [if_neg]
        · simp only [numeric, halfUp_of_atScale (h.value.sub hvalue), halfUp_of_atScale hvalue,
            halfUp_zero, add_zero]
        · rintro ⟨-, hzero⟩
          simp only [numeric, halfUp_of_atScale hleft] at hzero
          exact hempty hzero.le
    · rw [if_neg hout]
      by_cases hset : Revalues txn.row
      · rw [if_pos hset, if_pos hset]
        simp only [breakdownRow, numeric, halfUp_halfUp]
      · rw [if_neg hset, if_neg hset, if_neg (fun hempty => hout hempty.1)]
        simp only [breakdownRow, numeric, halfUp_zero, add_zero, sub_zero]

/-! ### Whole replays -/

/-- Movements of one stock that is valued at the average. -/
def OneStock (key : StockKey) (rows : List ReplayInput) : Prop :=
  ∀ row ∈ rows, row.2.costingMethod = .weightedAverage ∧ row.1.row.key = key ∧
    row.1.row.InColumns

def movementsOf (rows : List ReplayInput) : List InventoryTransaction :=
  rows.map fun row => row.1.row

variable {key : StockKey} {rows : List ReplayInput}

theorem OneStock.tail {row : ReplayInput} (h : OneStock key (row :: rows)) : OneStock key rows :=
  fun row' hrow' => h row' (List.mem_cons_of_mem row hrow')

theorem accounted_breakdownFrom (hrows : OneStock key rows) (h : state.Valid) :
    Accounted state.value rows (breakdownFrom state rows) := by
  induction rows generalizing state with
  | nil => trivial
  | cons row rows ih =>
    obtain ⟨txn, item⟩ := row
    obtain ⟨hmethod, -, ht⟩ := hrows _ List.mem_cons_self
    rw [breakdownFrom, if_neg (not_not.mpr hmethod)]
    exact ⟨rowLaw_breakdownStep h ht, ih hrows.tail (h.breakdownStep)⟩

def endOf (state : ReplayState) (trail : List WacBreakdownRow) : ReplayState :=
  match trail.getLast? with
  | some row => ⟨row.quantityAfter, row.wacAfter, row.totalValueAfter⟩
  | none => state

theorem endOf_breakdownFrom (hrows : OneStock key rows) (h : state.Valid)
    (halike : ReplaysAlike state (movementsOf rows)) :
    endOf state (breakdownFrom state rows) = (movementsOf rows).foldl rebuildStep state := by
  induction rows generalizing state with
  | nil => rfl
  | cons row rows ih =>
    obtain ⟨txn, item⟩ := row
    obtain ⟨hmethod, -, ht⟩ := hrows _ List.mem_cons_self
    have hstep : (breakdownStep state txn.row).state = rebuildStep state txn.row :=
      state_breakdownStep h ht halike.1
    have hrest : endOf (rebuildStep state txn.row)
        (breakdownFrom (rebuildStep state txn.row) rows) =
          (movementsOf rows).foldl rebuildStep (rebuildStep state txn.row) :=
      ih hrows.tail (h.step ht) halike.2
    rw [breakdownFrom, if_neg (not_not.mpr hmethod)]
    dsimp only
    rw [hstep, movementsOf, List.map_cons, List.foldl_cons, ← movementsOf, ← hrest]
    rw [endOf, endOf, List.getLast?_cons]
    cases (breakdownFrom (rebuildStep state txn.row) rows).getLast? with
    | some last => rfl
    | none => simp only [Option.getD_none, breakdownRow, hstep]

def WacRebuildRow.replayState (row : WacRebuildRow) : ReplayState :=
  ⟨row.quantityOnHand, row.currentWac, row.totalValue⟩

theorem foldl_replayInto (hrows : OneStock key rows) {row : WacRebuildRow} (hkey : row.key = key) :
    ∃ row', rows.foldl rebuildInto [row] = [row'] ∧
      row'.replayState = (movementsOf rows).foldl rebuildStep row.replayState := by
  induction rows generalizing row with
  | nil => exact ⟨row, rfl, rfl⟩
  | cons input rows ih =>
    obtain ⟨txn, item⟩ := input
    obtain ⟨hmethod, htxn, -⟩ := hrows _ List.mem_cons_self
    have hnext : (replayRow row txn).key = key := hkey
    obtain ⟨row', hfold, hstate⟩ := ih hrows.tail hnext
    refine ⟨row', ?_, hstate⟩
    rw [List.foldl_cons, rebuildInto, if_neg (not_not.mpr hmethod), replayInto,
      if_pos (hkey.trans htxn.symm)]
    exact hfold

/-- **The two replays**: over the movements of one stock, in any order, every row of the trail is
accounted for; and when no issue without a cost finds a negative average, the trail ends where the
rebuilt row is. -/
theorem replays_agree (hrows : OneStock key rows) :
    Accounted 0 rows (buildBreakdownRows rows) ∧
      (ReplaysAlike {} (movementsOf rows) → ∀ last ∈ (buildBreakdownRows rows).getLast?,
        ∃ row, buildRebuildRows rows = [row] ∧ last.quantityAfter = row.quantityOnHand ∧
          last.wacAfter = row.currentWac ∧ last.totalValueAfter = row.totalValue) := by
  have hnone : ({} : ReplayState).Valid := ⟨atScale_zero 6, le_rfl, atScale_zero 6⟩
  refine ⟨accounted_breakdownFrom hrows hnone, fun halike last hlast => ?_⟩
  have hend := endOf_breakdownFrom hrows hnone halike
  rw [endOf, ← buildBreakdownRows, Option.mem_def.mp hlast] at hend
  cases rows with
  | nil => simp [buildBreakdownRows, breakdownFrom] at hlast
  | cons input rows =>
    obtain ⟨txn, item⟩ := input
    obtain ⟨hmethod, htxn, -⟩ := hrows _ List.mem_cons_self
    have hfirst : (replayRow ⟨txn.row.key, 0, 0, 0, txn.id, 0⟩ txn).key = key := htxn
    obtain ⟨row, hfold, hstate⟩ := foldl_replayInto hrows.tail hfirst
    have hrebuilt : buildRebuildRows ((txn, item) :: rows) = [row] := by
      rw [buildRebuildRows, List.foldl_cons, rebuildInto, if_neg (not_not.mpr hmethod)]
      exact hfold
    have hsame : (⟨last.quantityAfter, last.wacAfter, last.totalValueAfter⟩ : ReplayState) =
        row.replayState := hend.trans hstate.symm
    obtain ⟨hquantity, hwac, hvalue⟩ := ReplayState.mk.inj hsame
    exact ⟨row, hrebuilt, hquantity, hwac, hvalue⟩

/-! ### Where the value of a row is set -/

def averagedItem : Item where
  organizationId := 9
  costingMethod := .weightedAverage

/-- A movement of the item in a warehouse, as it is stored. -/
def entry (id : UUID) (type : TransactionType) (quantity totalCost before after : ℚ) :
    ReplayInput :=
  (⟨id,
    { organizationId := 9
      transactionType := type
      itemId := 0
      warehouseId := 0
      quantity := quantity
      unitCost := 0
      totalCost := totalCost
      quantityBefore := before
      quantityAfter := after }⟩, averagedItem)

def inAndOutAtAverage : List ReplayInput :=
  [entry 0 .receipt 3 10 0 3, entry 1 .issue 3 0 3 0]

/-- Each row goes on from the value of the one before. -/
def RunningValues : ℚ → List WacBreakdownRow → Prop
  | _, [] => True
  | before, row :: rows =>
    row.totalValueAfter = before + row.valueIn - row.valueOut ∧
      RunningValues row.totalValueAfter rows

instance RunningValues.decidable :
    (rows : List WacBreakdownRow) → (before : ℚ) → Decidable (RunningValues before rows)
  | [], _ => inferInstanceAs (Decidable True)
  | row :: rows, _ =>
    have : Decidable (RunningValues row.totalValueAfter rows) :=
      RunningValues.decidable rows row.totalValueAfter
    instDecidableAnd

theorem oneStock_inAndOutAtAverage : OneStock ⟨9, 0, 0⟩ inAndOutAtAverage := by
  intro row hrow
  simp only [inAndOutAtAverage, List.mem_cons, List.not_mem_nil, or_false] at hrow
  have hthree : AtScale 6 (3 : ℚ) := ⟨3000000, by norm_num⟩
  have hten : AtScale 6 (10 : ℚ) := ⟨10000000, by norm_num⟩
  rcases hrow with rfl | rfl
  · exact ⟨rfl, rfl, hthree, hten, atScale_zero 6, hthree⟩
  · exact ⟨rfl, rfl, hthree, atScale_zero 6, hthree, atScale_zero 6⟩

/-- The last piece to go out leaves no value, though 0.000001 of it is not accounted for. -/
theorem trail_not_running :
    ¬ ∀ (key : StockKey) (rows : List ReplayInput), OneStock key rows →
      RunningValues 0 (buildBreakdownRows rows) := by
  intro h
  exact absurd (h ⟨9, 0, 0⟩ inAndOutAtAverage oneStock_inAndOutAtAverage) (by decide +kernel)

theorem replays_agree_sample :
    Accounted 0 inAndOutAtAverage (buildBreakdownRows inAndOutAtAverage) ∧
      ∀ last ∈ (buildBreakdownRows inAndOutAtAverage).getLast?,
        ∃ row, buildRebuildRows inAndOutAtAverage = [row] ∧
          last.quantityAfter = row.quantityOnHand ∧ last.wacAfter = row.currentWac ∧
            last.totalValueAfter = row.totalValue := by
  have halike : ReplaysAlike {} (movementsOf inAndOutAtAverage) :=
    ⟨by decide +kernel, by decide +kernel, trivial⟩
  exact ⟨(replays_agree oneStock_inAndOutAtAverage).1,
    (replays_agree oneStock_inAndOutAtAverage).2 halike⟩

end DotmacErp.Inventory
