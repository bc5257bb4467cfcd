import DotmacErp.Foundation.Scripts
import DotmacErp.Inventory.WacValuation

/-!
# The value of the weighted-average ledger

Receipts bring value into the ledger of a stock, and issues take it out. The ledger keeps the
average rounded, and sets the value to the quantity times that average, so that what a receipt
brings is not quite what the value grows by: a run of `apply_receipt` and `apply_issue` conserves
value only up to the rounding of its steps (`WacRun.slack`): half a millionth for every unit on
hand after a receipt, and half a millionth for every rounded product.

What the ledger is worth before its row exists is what the row would be opened with.
-/

namespace DotmacErp.Inventory

open Relational Rounding WacValuationService

variable {β : Type}

/-- The calls on one row of the ledger of average costs. -/
inductive WacCall where
  | receipt (quantity unitCost : ℚ) (transactionId : Option UUID)
  | issue (quantity : ℚ) (transactionId : Option UUID)

def WacCall.quantity : WacCall → ℚ
  | receipt quantity _ _ => quantity
  | issue quantity _ => quantity

/-- A run on the ledger: the store, what receipts have cost and issues have taken, and what the
rounding of the steps may have moved. -/
structure WacRun (β : Type) where
  store : InventoryStore (WacStore β)
  received : ℚ := 0
  issued : ℚ := 0
  slack : ℚ := 0

def halfUnit : ℚ := 1 / 2000000

def WacCall.act (key : StockKey) (r : WacRun β) : WacCall → WacRun β
  | receipt quantity unitCost transactionId =>
    let (result, ledgers) := applyReceipt key quantity unitCost transactionId r.store
    match result with
    | .error _ => { r with store := r.store.withLedger ledgers }
    | .ok result =>
      { r with
        store := r.store.withLedger ledgers
        received := r.received + result.totalCost
        slack := r.slack + (result.newBalanceQty * halfUnit + halfUnit) }
  | issue quantity transactionId =>
    let (result, ledgers) := applyIssue key quantity transactionId r.store
    match result with
    | .error _ => { r with store := r.store.withLedger ledgers }
    | .ok result =>
      { r with
        store := r.store.withLedger ledgers
        issued := r.issued + result.totalCost
        slack := r.slack + 3 * halfUnit }

def snapshotOf (key : StockKey) (s : InventoryStore (WacStore β)) : WacSnapshot :=
  (getSnapshot key s).1

structure Valued (snapshot : WacSnapshot) : Prop where
  quantity : AtScale 6 snapshot.quantity
  nonneg : 0 ≤ snapshot.quantity
  wac : AtScale 6 snapshot.wac
  value : snapshot.totalValue = numeric (snapshot.quantity * snapshot.wac)

theorem abs_numeric_sub_le (q : ℚ) : |numeric q - q| ≤ halfUnit := by
  have h := abs_halfUp_sub_le 6 q
  norm_num at h
  rw [halfUnit]
  exact h

/-! ### One call -/

section Steps

variable {key : StockKey} {s : InventoryStore (WacStore β)} {snapshot : WacSnapshot}
  {quantity unitCost : ℚ}

theorem Valued.value_eq_zero (h : Valued snapshot) (hzero : snapshot.quantity = 0) :
    snapshot.totalValue = 0 := by
  rw [h.value, hzero, zero_mul, numeric, halfUp_zero]

def written (result : WacResult) : WacSnapshot :=
  ⟨numeric result.newBalanceQty, numeric result.newWac, numeric result.newBalanceValue⟩

theorem snapshotOf_applyResult_ok {result : WacResult} {transactionId : Option UUID}
    {ledgers : Table ItemWacLedger} (h : ledgers.Keyed ItemWacLedger.key) :
    snapshotOf key (s.withLedger (applyResult key transactionId (.ok result) ledgers).2) =
      written result := by
  have hrow : ledgerAt (s.withLedger (applyResult key transactionId (.ok result) ledgers).2) key =
      some _ := at?_applyResult_ok h
  rw [snapshotOf, getSnapshot_of_some hrow]
  rfl

theorem Valued.receipt (h : Valued snapshot) (hscale : AtScale 6 quantity) (hq : 0 < quantity) :
    Valued (written (receiptResult snapshot quantity unitCost)) := by
  have hqty : AtScale 6 (snapshot.quantity + quantity) := h.quantity.add hscale
  have hpos : 0 < snapshot.quantity + quantity := add_pos_of_nonneg_of_pos h.nonneg hq
  refine ⟨atScale_halfUp 6 _, halfUp_nonneg hpos.le, atScale_halfUp 6 _, ?_⟩
  simp only [written, receiptResult, if_neg hpos.ne', numeric, halfUp_halfUp,
    halfUp_of_atScale hqty]

/-- The value after a receipt is the value before and the cost, but for the rounding of the
average, which counts once for each unit, and that of the product. -/
theorem Valued.receipt_value (h : Valued snapshot) (hq : 0 < quantity) :
    |(written (receiptResult snapshot quantity unitCost)).totalValue -
      (snapshot.totalValue + quantity * unitCost)| ≤
        (snapshot.quantity + quantity) * halfUnit + halfUnit := by
  have hpos : 0 < snapshot.quantity + quantity := add_pos_of_nonneg_of_pos h.nonneg hq
  set newQty := snapshot.quantity + quantity with hnewQty
  set total := snapshot.totalValue + quantity * unitCost with htotal
  have hvalue : (written (receiptResult snapshot quantity unitCost)).totalValue =
      numeric (newQty * numeric (total / newQty)) := by
    simp only [written, receiptResult, ← hnewQty, ← htotal, if_neg hpos.ne', numeric,
      halfUp_halfUp]
  have haverage : |newQty * numeric (total / newQty) - total| ≤ newQty * halfUnit := by
    have hproduct : newQty * numeric (total / newQty) - total =
        newQty * (numeric (total / newQty) - total / newQty) := by
      field_simp
    rw [hproduct, abs_mul, abs_of_pos hpos]
    exact mul_le_mul_of_nonneg_left (abs_numeric_sub_le _) hpos.le
  rw [hvalue]
  calc |numeric (newQty * numeric (total / newQty)) - total|
      = |(newQty * numeric (total / newQty) - total) +
          (numeric (newQty * numeric (total / newQty)) -
            newQty * numeric (total / newQty))| := by congr 1; ring
    _ ≤ newQty * halfUnit + halfUnit :=
        (abs_add_le _ _).trans (add_le_add haverage (abs_numeric_sub_le _))

theorem Valued.issue (h : Valued snapshot) (hscale : AtScale 6 quantity)
    (hq : quantity ≤ snapshot.quantity) :
    Valued (written (issueResult snapshot quantity)) := by
  have hqty : AtScale 6 (snapshot.quantity - quantity) := h.quantity.sub hscale
  refine ⟨atScale_halfUp 6 _, halfUp_nonneg (sub_nonneg.mpr hq), atScale_halfUp 6 _, ?_⟩
  simp only [written, issueResult, numeric, halfUp_halfUp, halfUp_of_atScale hqty,
    halfUp_of_atScale h.wac]

theorem Valued.issue_value (h : Valued snapshot) :
    |(written (issueResult snapshot quantity)).totalValue +
      (issueResult snapshot quantity).totalCost
      - snapshot.totalValue| ≤ 3 * halfUnit := by
  have hleft := abs_numeric_sub_le ((snapshot.quantity - quantity) * snapshot.wac)
  have hcost := abs_numeric_sub_le (quantity * snapshot.wac)
  have hbefore := abs_numeric_sub_le (snapshot.quantity * snapshot.wac)
  have hvalue : (written (issueResult snapshot quantity)).totalValue =
      numeric ((snapshot.quantity - quantity) * snapshot.wac) := by
    simp only [written, issueResult, numeric, halfUp_halfUp]
  rw [hvalue, h.value]
  simp only [issueResult]
  rw [abs_le] at hleft hcost hbefore ⊢
  constructor <;> linarith

theorem valued_of_none (hcolumns : InColumns s) (h : ledgerAt s key = none) :
    Valued (snapshotOf key s) := by
  rw [snapshotOf, getSnapshot_of_none h, rebuildSnapshotFromTransactions]
  dsimp only
  split_ifs with hqty
  · exact ⟨atScale_zero 6, le_rfl, atScale_zero 6, by simp [numeric]⟩
  · exact ⟨hcolumns.balance key, (not_le.mp hqty).le, hcolumns.openingWac key.itemId, rfl⟩

end Steps

/-! ### Runs -/

/-- What a run keeps: the ledger's value and the costs of the issues are its value at the start and
the costs of the receipts, within the slack. -/
structure Conserving (key : StockKey) (opening : ℚ) (r : WacRun β) : Prop where
  columns : InColumns r.store
  keyed : r.store.services.ledgers.Keyed ItemWacLedger.key
  valued : Valued (snapshotOf key r.store)
  conserved : |(snapshotOf key r.store).totalValue + r.issued - (opening + r.received)| ≤ r.slack

variable {key : StockKey} {opening : ℚ} {r : WacRun β} {s : InventoryStore (WacStore β)}

theorem InColumns.withLedger (h : InColumns s) (ledgers : Table ItemWacLedger) :
    InColumns (s.withLedger ledgers) :=
  ⟨h.averageCost, h.quantity⟩

theorem Conserving.opened (h : Conserving key opening r) :
    Conserving key opening
      { r with store := r.store.withLedger (getSnapshot key r.store).2 } := by
  have hsame : snapshotOf key (r.store.withLedger (getSnapshot key r.store).2) =
      snapshotOf key r.store := getSnapshot_withLedger h.columns h.keyed
  exact {
    columns := h.columns.withLedger _
    keyed := keyed_getSnapshot h.keyed
    valued := by
      rw [hsame]
      exact h.valued
    conserved := by
      rw [hsame]
      exact h.conserved }

variable {transactionId : Option UUID}

theorem Conserving.written (h : Conserving key opening r) {ledgers : Table ItemWacLedger}
    {result : WacResult} {received issued slack : ℚ}
    (hkeyed : ledgers.Keyed ItemWacLedger.key) (hvalued : Valued (written result))
    (hconserved : |(Inventory.written result).totalValue + issued - (opening + received)| ≤ slack) :
    Conserving key opening
      ⟨r.store.withLedger (applyResult key transactionId (.ok result) ledgers).2, received, issued,
        slack⟩ := by
  have hafter : snapshotOf key (r.store.withLedger
      (applyResult key transactionId (.ok result) ledgers).2) = Inventory.written result :=
    snapshotOf_applyResult_ok hkeyed
  exact {
    columns := h.columns.withLedger _
    keyed := keyed_applyResult hkeyed
    valued := by
      rw [hafter]
      exact hvalued
    conserved := by
      rw [hafter]
      exact hconserved }

theorem Conserving.receipt (h : Conserving key opening r) {quantity unitCost : ℚ} (hscale :
    AtScale 6 quantity) :
    Conserving key opening ((WacCall.receipt quantity unitCost transactionId).act key r) := by
  have hkeyed : (getSnapshot key r.store).2.Keyed ItemWacLedger.key := keyed_getSnapshot h.keyed
  simp only [WacCall.act, applyReceipt]
  by_cases hq : quantity ≤ 0
  · rw [calculateReceiptCost, if_pos hq]
    exact h.opened
  · by_cases hc : unitCost < 0
    · rw [calculateReceiptCost, if_neg hq, if_pos hc]
      exact h.opened
    · rw [calculateReceiptCost, if_neg hq, if_neg hc]
      have hstep : |(Inventory.written (receiptResult (snapshotOf key r.store) quantity
          unitCost)).totalValue - ((snapshotOf key r.store).totalValue + quantity * unitCost)| ≤
            ((snapshotOf key r.store).quantity + quantity) * halfUnit + halfUnit :=
        h.valued.receipt_value (not_le.mp hq)
      have hbefore := h.conserved
      refine h.written hkeyed (h.valued.receipt hscale (not_le.mp hq)) ?_
      change |(Inventory.written (receiptResult (snapshotOf key r.store) quantity
        unitCost)).totalValue + r.issued - (opening + (r.received + quantity * unitCost))| ≤
          r.slack + (((snapshotOf key r.store).quantity + quantity) * halfUnit + halfUnit)
      rw [abs_le] at hstep hbefore ⊢
      constructor <;> linarith

theorem Conserving.issue (h : Conserving key opening r) {quantity : ℚ} (hscale :
    AtScale 6 quantity) :
    Conserving key opening ((WacCall.issue quantity transactionId).act key r) := by
  have hkeyed : (getSnapshot key r.store).2.Keyed ItemWacLedger.key := keyed_getSnapshot h.keyed
  simp only [WacCall.act, applyIssue]
  by_cases hq : quantity ≤ 0
  · rw [calculateIssueCost, if_pos hq]
    exact h.opened
  · by_cases henough : (getSnapshot key r.store).1.quantity < quantity
    · rw [calculateIssueCost, if_neg hq, if_pos henough]
      exact h.opened
    · rw [calculateIssueCost, if_neg hq, if_neg henough]
      have hstep : |(Inventory.written (issueResult (snapshotOf key r.store) quantity)).totalValue +
          (issueResult (snapshotOf key r.store) quantity).totalCost -
            (snapshotOf key r.store).totalValue| ≤ 3 * halfUnit :=
        h.valued.issue_value
      have hbefore := h.conserved
      refine h.written hkeyed (h.valued.issue hscale (not_lt.mp henough)) ?_
      change |(Inventory.written (issueResult (snapshotOf key r.store) quantity)).totalValue +
        (r.issued + (issueResult (snapshotOf key r.store) quantity).totalCost) -
          (opening + r.received)| ≤ r.slack + 3 * halfUnit
      rw [abs_le] at hstep hbefore ⊢
      constructor <;> linarith

/-- **Value is conserved up to rounding**: after every run of receipts and issues on a ledger that
was not open, in quantities of at most six decimals, the value of the ledger and the costs of the
issues are the value it was opened with and the costs of the receipts, within the rounding of the
steps; and without quantity there is no value. -/
theorem wac_value_conserved (hcolumns : InColumns s)
    (hkeyed : s.services.ledgers.Keyed ItemWacLedger.key) (hnone : ledgerAt s key = none)
    {calls : List WacCall} (hscale : ∀ c ∈ calls, AtScale 6 c.quantity) :
    let r := calls.foldl (WacCall.act key) { store := s }
    |(snapshotOf key r.store).totalValue + r.issued -
      ((snapshotOf key s).totalValue + r.received)| ≤ r.slack ∧
      ((snapshotOf key r.store).quantity = 0 → (snapshotOf key r.store).totalValue = 0) := by
  have hrun : ∀ (calls : List WacCall) (r : WacRun β), (∀ c ∈ calls, AtScale 6 c.quantity) →
      Conserving key (snapshotOf key s).totalValue r →
        Conserving key (snapshotOf key s).totalValue (calls.foldl (WacCall.act key) r) := by
    intro calls
    induction calls with
    | nil => exact fun r _ h => h
    | cons c calls ih =>
      intro r hscale h
      refine ih _ (fun c' hc' => hscale c' (List.mem_cons_of_mem c hc')) ?_
      have hc := hscale c List.mem_cons_self
      cases c with
      | receipt quantity unitCost transactionId => exact h.receipt hc
      | issue quantity transactionId => exact h.issue hc
  have hfinal := hrun calls { store := s } hscale {
    columns := hcolumns
    keyed := hkeyed
    valued := valued_of_none hcolumns hnone
    conserved := by simp }
  exact ⟨hfinal.conserved, hfinal.valued.value_eq_zero⟩

/-! ### What rounding moves -/

def noStock : InventoryStore (WacStore Unit) where
  services := { others := () }

def shelf : StockKey := ⟨9, 0, 0⟩

def roundedAverage : List WacCall :=
  [.receipt 3 (3333333 / 1000000) none, .receipt 1 1 none]

/-- Less than half a millionth of a piece comes in, at a million a piece. -/
def finestQuantity : List WacCall := [.receipt (1 / 2500000) 1000000 none]

/-- Receipts of 10.999999 leave a value of 11; and a quantity too fine for its column leaves a value
of 0.4 without any quantity. -/
theorem wac_value_not_conserved :
    (¬ ∀ calls : List WacCall,
      let r := calls.foldl (WacCall.act shelf) { store := noStock }
      (snapshotOf shelf r.store).totalValue + r.issued = r.received) ∧
    ¬ ∀ calls : List WacCall,
      let r := calls.foldl (WacCall.act shelf) { store := noStock }
      (snapshotOf shelf r.store).quantity = 0 → (snapshotOf shelf r.store).totalValue = 0 := by
  constructor
  · intro h
    exact absurd (h roundedAverage) (by decide +kernel)
  · intro h
    exact absurd (h finestQuantity) (by decide +kernel)

/-- Ten pieces at 3, two at 4.5, then five out and the rest. -/
def inAndOut : List WacCall :=
  [.receipt 10 3 none, .receipt 2 (9 / 2) none, .issue 5 none, .issue 7 none]

theorem wac_value_conserved_sample :
    let r := inAndOut.foldl (WacCall.act shelf) { store := noStock }
    |(snapshotOf shelf r.store).totalValue + r.issued -
      ((snapshotOf shelf noStock).totalValue + r.received)| ≤ r.slack ∧
      ((snapshotOf shelf r.store).quantity = 0 → (snapshotOf shelf r.store).totalValue = 0) := by
  have hscale : ∀ c ∈ inAndOut, AtScale 6 c.quantity := by
    intro c hc
    simp only [inAndOut, List.mem_cons, List.not_mem_nil, or_false] at hc
    rcases hc with rfl | rfl | rfl | rfl
    · exact ⟨10000000, by norm_num [WacCall.quantity]⟩
    · exact ⟨2000000, by norm_num [WacCall.quantity]⟩
    · exact ⟨5000000, by norm_num [WacCall.quantity]⟩
    · exact ⟨7000000, by norm_num [WacCall.quantity]⟩
  have hcolumns : InColumns noStock :=
    ⟨fun k item hitem => by simp [noStock] at hitem, fun k t ht => by simp [noStock] at ht⟩
  exact wac_value_conserved hcolumns Table.keyed_empty rfl hscale

end DotmacErp.Inventory
