import DotmacErp.Inventory.WacMovements

/-!
# The weighted-average ledger and the stock

The ledger of a weighted-average item keeps a quantity of its own beside the movements. `Tracks`
says that after a call it is the balance of the stock, in every warehouse, and that the first
receipt in a warehouse leaves its quantity, its unit cost and its value.

The ledger does so only for movements that are hardly movements (`KeepsLedger`). A receipt is
recorded before the ledger is asked, so that the row it opens from the movements has counted the
receipt already, and counts it again; an adjustment and a transfer never ask the ledger. What is
left are receipts into a row that is open, and issues; and the row is open when its first receipt
had a negative cost, at which the ledger raises after it has opened the row, or a quantity that the
columns round to nothing.
-/

namespace DotmacErp.Inventory

open Relational Session Rounding InventoryTransactionService WacValuationService

variable {β : Type} {s s' : InventoryStore (WacStore β)} {v : Services β} {itemId : UUID}

def ledgerQuantity (s : InventoryStore (WacStore β)) (key : StockKey) : ℚ :=
  (ledgerAt s key).elim 0 ItemWacLedger.quantityOnHand

def Unreceived (s : InventoryStore β) (key : StockKey) : Prop :=
  ∀ t ∈ movements s.transactions key, ¬ t.transactionType.IsReceipt

def HoldsReceipt (s : InventoryStore (WacStore β)) (key : StockKey) (quantity unitCost : ℚ) :
    Prop :=
  ∃ ledger, ledgerAt s key = some ledger ∧ ledger.quantityOnHand = numeric quantity ∧
    ledger.currentWac = numeric unitCost ∧ ledger.totalValue = numeric (quantity * unitCost)

structure Tracks (v : Services β) (itemId : UUID) (s : InventoryStore (WacStore β))
    (c : MovementCall) : Prop where
  quantity : ∀ key, key.itemId = itemId →
    ledgerQuantity (c.after (withLedgers v) s) key = balanceAt (c.after (withLedgers v) s) key
  first : c.input.itemId = itemId → c.input.transactionType.IsReceipt →
    returns (c.run (withLedgers v)) s → Unreceived s c.place →
      HoldsReceipt (c.after (withLedgers v) s) c.place c.input.quantity c.input.unitCost

/-- The ledger tracks the stock after every call of a run. -/
def TracksThroughout (v : Services β) (itemId : UUID) :
    InventoryStore (WacStore β) → List MovementCall → Prop
  | _, [] => True
  | s, c :: cs => Tracks v itemId s c ∧ TracksThroughout v itemId (c.after (withLedgers v) s) cs

/-- A receipt whose ledger is open has a cost that the ledger takes, or no quantity; one whose
ledger is not has no quantity, or a negative cost that is the average of the item. -/
def KeepsReceipt (s : InventoryStore (WacStore β)) (key : StockKey) (quantity unitCost : ℚ) :
    Prop :=
  if (ledgerAt s key).isSome then 0 ≤ unitCost ∨ numeric quantity = 0
  else if 0 ≤ unitCost then
    numeric quantity = 0 ∧ numeric (quantity * numeric unitCost) = numeric (quantity * unitCost)
  else
    numeric quantity ≠ 0 ∧ numeric (openingWac s key.itemId) = numeric unitCost ∧
      numeric (numeric quantity * openingWac s key.itemId) = numeric (quantity * unitCost)

/-- The movement is one that the ledger follows: a receipt that keeps it, an issue that does not
lie half-way between two millionths, or no quantity at all. -/
def KeepsLedger (s : InventoryStore (WacStore β)) (c : MovementCall) : Prop :=
  if c.input.transactionType.IsReceipt then
    KeepsReceipt s c.place c.input.quantity c.input.unitCost
  else if c.input.transactionType.IsIssue then ¬ Tie 6 c.input.quantity
  else numeric c.input.quantity = 0

instance (s : InventoryStore (WacStore β)) (key : StockKey) (quantity unitCost : ℚ) :
    Decidable (KeepsReceipt s key quantity unitCost) :=
  inferInstanceAs (Decidable (ite _ _ _))

instance (s : InventoryStore (WacStore β)) (c : MovementCall) : Decidable (KeepsLedger s c) :=
  inferInstanceAs (Decidable (ite _ _ _))

/-- Every movement of the item that a run accepts is one that the ledger follows. -/
def KeepsThroughout (v : Services β) (itemId : UUID) :
    InventoryStore (WacStore β) → List MovementCall → Prop
  | _, [] => True
  | s, c :: cs =>
    (c.input.itemId = itemId → returns (c.run (withLedgers v)) s → KeepsLedger s c) ∧
      KeepsThroughout v itemId (c.after (withLedgers v) s) cs

/-! ### Between calls -/

/-- A stock whose ledger tracks it, between calls: the ledger is open once something has been
received. -/
structure TrackedAt (s : InventoryStore (WacStore β)) (key : StockKey) : Prop where
  scale : AtScale 6 (balanceAt s key)
  nonneg : 0 ≤ balanceAt s key
  quantity : ledgerQuantity s key = balanceAt s key
  opened : ledgerAt s key = none ↔ Unreceived s key

structure Tracked (itemId : UUID) (s : InventoryStore (WacStore β)) : Prop where
  item : (s.items.get? itemId).map Item.costingMethod = some .weightedAverage
  keyed : s.services.ledgers.Keyed ItemWacLedger.key
  tracked : ∀ key, key.itemId = itemId → TrackedAt s key

variable {key : StockKey}

theorem ledgerQuantity_of_some {ledger : ItemWacLedger}
    (h : ledgerAt s key = some ledger) : ledgerQuantity s key = ledger.quantityOnHand := by
  rw [ledgerQuantity, h, Option.elim_some]

theorem ledgerQuantity_of_none (h : ledgerAt s key = none) :
    ledgerQuantity s key = 0 := by
  rw [ledgerQuantity, h, Option.elim_none]

theorem holdsReceipt_of_some {ledger : ItemWacLedger} {quantity unitCost : ℚ}
    (h : ledgerAt s key = some ledger) :
    HoldsReceipt s key quantity unitCost ↔ ledger.quantityOnHand = numeric quantity ∧
      ledger.currentWac = numeric unitCost ∧ ledger.totalValue = numeric (quantity * unitCost) := by
  rw [HoldsReceipt, h]
  constructor
  · rintro ⟨ledger', hsome, hholds⟩
    rw [Option.some.inj hsome]
    exact hholds
  · exact fun hholds => ⟨ledger, rfl, hholds⟩

theorem Tracked.costingMethod (h : Tracked itemId s) {org : UUID} {item : Item}
    (hitem : ItemOf s org itemId item) : item.costingMethod = .weightedAverage := by
  have hmethod := h.item
  rw [hitem.found] at hmethod
  exact Option.some.inj hmethod

theorem TrackedAt.of_same (h : TrackedAt s key)
    (hmovements : movements s'.transactions key = movements s.transactions key)
    (hledger : ledgerAt s' key = ledgerAt s key) : TrackedAt s' key where
  scale := by
    rw [balanceAt_same hmovements]
    exact h.scale
  nonneg := by
    rw [balanceAt_same hmovements]
    exact h.nonneg
  quantity := by
    rw [balanceAt_same hmovements, ledgerQuantity, hledger]
    exact h.quantity
  opened := by
    rw [hledger, Unreceived, hmovements]
    exact h.opened

theorem unreceived_append {t : InventoryTransaction} (ht : ¬ t.transactionType.IsReceipt)
    (h : movements s'.transactions key = movements s.transactions key ++ [t]) :
    Unreceived s' key ↔ Unreceived s key := by
  simp only [Unreceived, h, List.forall_mem_append, List.forall_mem_singleton, ht,
    not_false_eq_true, and_true]

theorem TrackedAt.of_nothing (h : TrackedAt s key) {t : InventoryTransaction}
    (ht : ¬ t.transactionType.IsReceipt)
    (hmovements : movements s'.transactions key = movements s.transactions key ++ [t])
    (hledger : ledgerAt s' key = ledgerAt s key) (hbalance : balanceAt s' key = balanceAt s key) :
    TrackedAt s' key where
  scale := by
    rw [hbalance]
    exact h.scale
  nonneg := by
    rw [hbalance]
    exact h.nonneg
  quantity := by
    rw [hbalance, ledgerQuantity, hledger]
    exact h.quantity
  opened := by
    rw [hledger, unreceived_append ht hmovements]
    exact h.opened

/-! ### One receipt -/

section Receipt

variable {org id : UUID} {input : TransactionInput} {item : Item}
  {mid : InventoryStore (WacStore β)}

/-- **A receipt into an open ledger** is tracked when the ledger takes its cost. -/
theorem tracked_receipt_of_some (h : BooksReceipt org input id item s mid s')
    (hkeyed : s.services.ledgers.Keyed ItemWacLedger.key)
    (hmethod : item.costingMethod = .weightedAverage) {ledger : ItemWacLedger}
    (hledger : ledgerAt s (input.place org) = some ledger)
    (hscale : AtScale 6 ledger.quantityOnHand) (hnonneg : 0 ≤ ledger.quantityOnHand) :
    ledgerQuantity s' (input.place org) =
        ledger.quantityOnHand + numeric input.quantity ↔
      0 ≤ input.unitCost ∨ numeric input.quantity = 0 := by
  have hmid : ledgerAt mid (input.place org) = some ledger := by
    rw [ledgerAt, h.before]
    exact hledger
  rcases lt_or_ge input.unitCost 0 with hcost | hcost
  · -- the ledger raises and keeps its row
    have hkept : ledgerAt s' (input.place org) = some ledger := by
      rw [h.ledgerAt_of_neg hmethod hcost, getSnapshot_of_some hmid]
      exact hmid
    rw [ledgerQuantity_of_some hkept]
    constructor
    · intro hqty
      exact Or.inr (by linarith)
    · rintro (hpos | hzero)
      · exact absurd hpos (not_le.mpr hcost)
      · rw [hzero, add_zero]
  · have hafter := h.ledgerAt_of_nonneg hkeyed hmethod hcost
    rw [getSnapshot_of_some hmid] at hafter
    rw [ledgerQuantity_of_some hafter]
    have htie : ¬ (input.quantity < 0 ∧ Tie 6 input.quantity) :=
      fun hneg => absurd hneg.1 (not_lt.mpr h.positive.le)
    have hround : numeric (ledger.quantityOnHand + input.quantity) =
        ledger.quantityOnHand + numeric input.quantity :=
      (numeric_add_iff hscale (add_nonneg hnonneg h.positive.le)).mpr htie
    exact iff_of_true hround (Or.inl hcost)

/-- **The first receipt** is tracked when its quantity counts for nothing, or when the ledger
raises at its cost and the item has that cost for an average. -/
theorem tracked_receipt_of_none (h : BooksReceipt org input id item s mid s')
    (hkeyed : s.services.ledgers.Keyed ItemWacLedger.key)
    (hmethod : item.costingMethod = .weightedAverage)
    (hledger : ledgerAt s (input.place org) = none)
    (hbalance : balanceAt mid (input.place org) = numeric input.quantity) :
    (ledgerQuantity s' (input.place org) = numeric input.quantity ∧
        HoldsReceipt s' (input.place org) input.quantity input.unitCost) ↔
      KeepsReceipt s (input.place org) input.quantity input.unitCost := by
  have hmid : ledgerAt mid (input.place org) = none := by
    rw [ledgerAt, h.before]
    exact hledger
  have hkeyedMid : mid.services.ledgers.Keyed ItemWacLedger.key := by
    rw [h.before]
    exact hkeyed
  have hnonneg : 0 ≤ numeric input.quantity := halfUp_nonneg h.positive.le
  rw [KeepsReceipt, hledger, Option.isSome_none, if_neg Bool.false_ne_true]
  rcases lt_or_ge input.unitCost 0 with hcost | hcost
  · rw [if_neg (not_le.mpr hcost)]
    have hafter := h.ledgerAt_of_neg hmethod hcost
    rw [at?_getSnapshot_of_none hkeyedMid hmid, hbalance] at hafter
    by_cases hzero : numeric input.quantity ≤ 0
    · rw [if_pos hzero] at hafter
      refine iff_of_false ?_ fun hkeeps => hkeeps.1 (le_antisymm hzero hnonneg)
      rintro ⟨-, ledger, hsome, -⟩
      rw [hafter] at hsome
      exact absurd hsome (by simp)
    · rw [if_neg hzero] at hafter
      have hopening : openingRow mid (input.place org) =
          ledgerRow (input.place org) (openingWac s input.itemId)
            (numeric input.quantity)
              (numeric (numeric input.quantity * openingWac s input.itemId)) none := by
        rw [openingRow, hbalance, h.openingWac_mid]
        rfl
      rw [hopening] at hafter
      rw [ledgerQuantity_of_some hafter, holdsReceipt_of_some hafter]
      simp only [ledgerRow, numeric, halfUp_halfUp, true_and]
      exact (and_iff_right (fun heq => hzero heq.le)).symm
  · rw [if_pos hcost]
    have hafter := h.ledgerAt_of_nonneg hkeyed hmethod hcost
    rw [getSnapshot_opening hmid, hbalance] at hafter
    by_cases hzero : numeric input.quantity ≤ 0
    · have heq : numeric input.quantity = 0 := le_antisymm hzero hnonneg
      have hqty : input.quantity ≠ 0 := h.positive.ne'
      rw [if_pos hzero] at hafter
      rw [ledgerQuantity_of_some hafter, holdsReceipt_of_some hafter]
      simp only [ledgerRow, receiptResult, zero_add, if_neg hqty, mul_div_cancel_left₀ _ hqty,
        numeric, halfUp_halfUp, true_and]
      exact (and_iff_right heq).symm
    · -- what the row was opened with is counted once more
      rw [if_neg hzero] at hafter
      rw [ledgerQuantity_of_some hafter]
      have htwice : numeric (numeric input.quantity + input.quantity) =
          numeric input.quantity + numeric input.quantity :=
        (numeric_add_iff (atScale_halfUp 6 _) (add_nonneg hnonneg h.positive.le)).mpr
          fun hneg => absurd hneg.1 (not_lt.mpr h.positive.le)
      refine iff_of_false ?_ fun hkeeps => hzero hkeeps.1.le
      rintro ⟨hqty, -⟩
      have hsame : numeric (numeric input.quantity + input.quantity) = numeric input.quantity :=
        hqty
      rw [htwice] at hsame
      linarith

end Receipt

/-! ### One call -/

section Call

variable {c : MovementCall} {id : UUID}

/-- What is left to say of the stock of a receipt or an issue: the ledgers of the others and their
movements stay. -/
theorem Tracked.of_place (h : Tracked itemId s) (hrun : c.run (withLedgers v) s = .ok id s')
    (htype : c.input.transactionType ≠ .transfer) (hplace : TrackedAt s' c.place) :
    Tracked itemId s' where
  item := by
    rw [(booked hrun).costingMethod]
    exact h.item
  keyed := (booked hrun).keyed h.keyed
  tracked key hkey := by
    by_cases heq : c.place = key
    · rw [← heq]
      exact hplace
    · exact (h.tracked key hkey).of_same ((movements_of_run hrun htype).2.2 key heq)
        ((booked hrun).ledgerAt_of_ne h.keyed heq)

theorem tracks_iff_place (h : Tracked itemId s) (hrun : c.run (withLedgers v) s = .ok id s')
    (hitem : c.input.itemId = itemId) (htype : c.input.transactionType ≠ .transfer) :
    Tracks v itemId s c ↔ ledgerQuantity s' c.place = balanceAt s' c.place ∧
      (c.input.transactionType.IsReceipt → Unreceived s c.place →
        HoldsReceipt s' c.place c.input.quantity c.input.unitCost) := by
  have hafter : c.after (withLedgers v) s = s' := commit_of_ok hrun
  have haccepted : returns (c.run (withLedgers v)) s = true := returns_iff.mpr ⟨id, s', hrun⟩
  constructor
  · intro htracks
    have hquantity := htracks.quantity c.place hitem
    rw [hafter] at hquantity
    refine ⟨hquantity, fun hreceipt hfirst => ?_⟩
    have hholds := htracks.first hitem hreceipt haccepted hfirst
    rw [hafter] at hholds
    exact hholds
  · rintro ⟨hquantity, hfirst⟩
    refine ⟨fun key hkey => ?_, fun _ hreceipt _ hunreceived => ?_⟩
    · rw [hafter]
      by_cases heq : c.place = key
      · rw [← heq]
        exact hquantity
      · exact ((h.tracked key hkey).of_same ((movements_of_run hrun htype).2.2 key heq)
          ((booked hrun).ledgerAt_of_ne h.keyed heq)).quantity
    · rw [hafter]
      exact hfirst hreceipt hunreceived

/-- **One receipt.** -/
theorem tracks_receipt (h : Tracked itemId s) (hrun : c.run (withLedgers v) s = .ok id s')
    (hitem : c.input.itemId = itemId) {item : Item} {mid : InventoryStore (WacStore β)}
    (htype : c.input.transactionType.IsReceipt)
    (hbooks : BooksReceipt c.organizationId c.input id item s mid s') :
    (Tracks v itemId s c ↔ KeepsLedger s c) ∧ (Tracks v itemId s c → Tracked itemId s') := by
  have htransfer : c.input.transactionType ≠ .transfer := htype.ne_transfer
  have hmethod : item.costingMethod = .weightedAverage := h.costingMethod (hitem ▸ hbooks.found)
  have hplace := h.tracked c.place hitem
  obtain ⟨⟨t, ht, hmovements⟩, hbalance, -⟩ := movements_of_run hrun htransfer
  rw [net_of_isReceipt htype] at hbalance
  have hreceived : ¬ Unreceived s' c.place := fun hnone => by
    have hlast := hnone t (by rw [hmovements]; simp)
    rw [ht] at hlast
    exact hlast htype
  have htracked : ledgerQuantity s' c.place = balanceAt s' c.place →
      (∃ ledger, ledgerAt s' c.place = some ledger) → Tracked itemId s' := by
    rintro hquantity ⟨ledger, hledger⟩
    refine h.of_place hrun htransfer ⟨?_, ?_, hquantity, ?_⟩
    · rw [hbalance]
      exact hplace.scale.add (atScale_halfUp 6 _)
    · rw [hbalance]
      exact add_nonneg hplace.nonneg (halfUp_nonneg hbooks.positive.le)
    · refine iff_of_false ?_ hreceived
      rw [hledger]
      exact Option.some_ne_none ledger
  rw [tracks_iff_place h hrun hitem htransfer, KeepsLedger, if_pos htype]
  cases hledger : ledgerAt s c.place with
  | some ledger =>
    have hquantity : ledger.quantityOnHand = balanceAt s c.place := by
      rw [← hplace.quantity, ledgerQuantity_of_some hledger]
    have hfirst : ¬ Unreceived s c.place := fun hnone => by
      have hclosed := hplace.opened.mpr hnone
      rw [hledger] at hclosed
      exact Option.some_ne_none ledger hclosed
    have hscale : AtScale 6 ledger.quantityOnHand := by
      rw [hquantity]
      exact hplace.scale
    have hnonneg : 0 ≤ ledger.quantityOnHand := by
      rw [hquantity]
      exact hplace.nonneg
    have hkeeps := tracked_receipt_of_some hbooks h.keyed hmethod hledger hscale hnonneg
    rw [hquantity, ← hbalance] at hkeeps
    have hopen : ∃ ledger, ledgerAt s' c.place = some ledger := by
      have hmid : ledgerAt mid c.place = some ledger := by
        rw [ledgerAt, hbooks.before]
        exact hledger
      rcases lt_or_ge c.input.unitCost 0 with hcost | hcost
      · refine ⟨ledger, ?_⟩
        rw [MovementCall.place, hbooks.ledgerAt_of_neg hmethod hcost, ← MovementCall.place,
          getSnapshot_of_some hmid]
        exact hmid
      · exact ⟨_, hbooks.ledgerAt_of_nonneg h.keyed hmethod hcost⟩
    rw [KeepsReceipt, hledger, Option.isSome_some, if_pos rfl, ← hkeeps]
    refine ⟨⟨fun hboth => hboth.1, fun hqty => ⟨hqty, fun _ hnone => absurd hnone hfirst⟩⟩,
      fun hboth => htracked hboth.1 hopen⟩
  | none =>
    have hzero : balanceAt s c.place = 0 := by
      rw [← hplace.quantity, ledgerQuantity_of_none hledger]
    have hfirst : Unreceived s c.place := hplace.opened.mp hledger
    rw [hzero, zero_add] at hbalance
    have hmid : balanceAt mid (c.input.place c.organizationId) = numeric c.input.quantity := by
      rw [← hbalance]
      exact (balanceAt_congr hbooks.recorded _).symm
    have hkeeps := tracked_receipt_of_none hbooks h.keyed hmethod hledger hmid
    rw [← hbalance] at hkeeps
    refine ⟨?_, fun hboth => ?_⟩
    · rw [← MovementCall.place] at hkeeps
      rw [← hkeeps]
      exact ⟨fun hboth => ⟨hboth.1, hboth.2 htype hfirst⟩,
        fun hboth => ⟨hboth.1, fun _ _ => hboth.2⟩⟩
    · obtain ⟨ledger, hholds, -⟩ := hboth.2 htype hfirst
      exact htracked hboth.1 ⟨ledger, hholds⟩

/-- **One issue.** -/
theorem tracks_issue (h : Tracked itemId s) (hrun : c.run (withLedgers v) s = .ok id s')
    (hitem : c.input.itemId = itemId) {item : Item} {mid : InventoryStore (WacStore β)}
    (htype : c.input.transactionType.IsIssue)
    (hbooks : BooksIssue c.organizationId c.input id item s mid s') :
    (Tracks v itemId s c ↔ KeepsLedger s c) ∧ (Tracks v itemId s c → Tracked itemId s') := by
  have hreceipt : ¬ c.input.transactionType.IsReceipt := by
    rcases htype with heq | heq | heq <;> rw [heq] <;> decide
  have htransfer : c.input.transactionType ≠ .transfer := htype.ne_transfer
  have hmethod : item.costingMethod = .weightedAverage := h.costingMethod (hitem ▸ hbooks.found)
  have hplace := h.tracked c.place hitem
  obtain ⟨⟨t, ht, hmovements⟩, hbalance, -⟩ := movements_of_run hrun htransfer
  rw [net_of_isIssue htype] at hbalance
  have henough : c.input.quantity ≤ balanceAt s c.place := hbooks.enough
  cases hledger : ledgerAt s c.place with
  | none =>
    -- without a ledger there is no stock to issue
    have hquantity := hplace.quantity
    rw [ledgerQuantity_of_none hledger] at hquantity
    linarith [hbooks.positive]
  | some ledger =>
    have hquantity : ledger.quantityOnHand = balanceAt s c.place := by
      rw [← hplace.quantity, ledgerQuantity_of_some hledger]
    have hafter := hbooks.ledgerAt_of_le h.keyed hmethod hledger
      (by rw [hquantity]; exact henough)
    rw [← MovementCall.place, hquantity] at hafter
    have hleft : 0 ≤ balanceAt s c.place + -c.input.quantity := by linarith
    have hround := numeric_add_iff hplace.scale hleft
    rw [numeric_neg, ← sub_eq_add_neg] at hround
    have hneg : -c.input.quantity < 0 := neg_lt_zero.mpr hbooks.positive
    have hquantity' : ledgerQuantity s' c.place =
        numeric (balanceAt s c.place - c.input.quantity) := ledgerQuantity_of_some hafter
    rw [tracks_iff_place h hrun hitem htransfer, KeepsLedger, if_neg hreceipt, if_pos htype]
    refine ⟨?_, fun hboth => ?_⟩
    · rw [hquantity', hbalance, hround, tie_neg]
      exact ⟨fun hboth htie => hboth.1 ⟨hneg, htie⟩,
        fun htie => ⟨fun hand => htie hand.2, fun hnot => absurd hnot hreceipt⟩⟩
    · refine h.of_place hrun htransfer ⟨?_, ?_, hboth.1, ?_⟩
      · rw [hbalance]
        exact hplace.scale.add (atScale_halfUp 6 _).neg
      · rw [← hboth.1, hquantity', sub_eq_add_neg]
        exact halfUp_nonneg hleft
      · rw [unreceived_append (by rw [ht]; exact hreceipt) hmovements, ← hplace.opened, hafter,
          hledger]
        exact iff_of_false (Option.some_ne_none _) (Option.some_ne_none _)

/-- **One adjustment**: the ledger does not move with it. -/
theorem tracks_adjustment (h : Tracked itemId s) (hrun : c.run (withLedgers v) s = .ok id s')
    (hitem : c.input.itemId = itemId) (hreceipt : ¬ c.input.transactionType.IsReceipt)
    (hissue : ¬ c.input.transactionType.IsIssue) (htransfer : c.input.transactionType ≠ .transfer)
    (hledgers : s'.services.ledgers = s.services.ledgers) :
    (Tracks v itemId s c ↔ KeepsLedger s c) ∧ (Tracks v itemId s c → Tracked itemId s') := by
  have hplace := h.tracked c.place hitem
  obtain ⟨⟨t, ht, hmovements⟩, hbalance, -⟩ := movements_of_run hrun htransfer
  have hledger : ledgerAt s' c.place = ledgerAt s c.place := by
    rw [ledgerAt, hledgers, ledgerAt]
  have hquantity : ledgerQuantity s' c.place = balanceAt s c.place := by
    rw [ledgerQuantity, hledger]
    exact hplace.quantity
  have hnothing : c.input.transactionType.net (numeric c.input.quantity) = 0 ↔
      numeric c.input.quantity = 0 := by
    cases htype : c.input.transactionType <;> simp [TransactionType.net]
  rw [tracks_iff_place h hrun hitem htransfer, KeepsLedger, if_neg hreceipt, if_neg hissue,
    hquantity]
  have hiff : balanceAt s c.place = balanceAt s' c.place ↔ numeric c.input.quantity = 0 := by
    rw [hbalance, left_eq_add, hnothing]
  refine ⟨?_, fun hboth => ?_⟩
  · rw [← hiff]
    exact ⟨fun hboth => hboth.1, fun heq => ⟨heq, fun hnot => absurd hnot hreceipt⟩⟩
  · exact h.of_place hrun htransfer
      (hplace.of_nothing (by rw [ht]; exact hreceipt) hmovements hledger hboth.1.symm)

/-- **One transfer**: the ledger does not move with it either. -/
theorem tracks_transfer (h : Tracked itemId s) (hrun : c.run (withLedgers v) s = .ok id s')
    (hitem : c.input.itemId = itemId) (htransfer : c.input.transactionType = .transfer)
    (hledgers : s'.services.ledgers = s.services.ledgers) :
    (Tracks v itemId s c ↔ KeepsLedger s c) ∧ (Tracks v itemId s c → Tracked itemId s') := by
  have hafter : c.after (withLedgers v) s = s' := commit_of_ok hrun
  have hreceipt : ¬ c.input.transactionType.IsReceipt := by rw [htransfer]; decide
  have hissue : ¬ c.input.transactionType.IsIssue := by rw [htransfer]; decide
  have hmoves : ¬ TransactionType.transfer.IsReceipt := by decide
  have hledger : ∀ key, ledgerAt s' key = ledgerAt s key := fun key => by
    rw [ledgerAt, hledgers, ledgerAt]
  have hquantity : ∀ key, key.itemId = itemId → ledgerQuantity s' key = balanceAt s key :=
    fun key hkey => by
      rw [ledgerQuantity, hledger]
      exact (h.tracked key hkey).quantity
  obtain ⟨destination, t, t', ht, ht', hsame, -, hsource, hdestination, hleaves, harrives, hrest⟩ :=
    movements_of_transfer hrun htransfer
  rw [hitem] at hsame
  have hnothing : Tracks v itemId s c → numeric c.input.quantity = 0 := fun htracks => by
    have hplace := htracks.quantity c.place hitem
    rw [hafter, hquantity c.place hitem, hleaves] at hplace
    linarith
  -- a transfer of nothing leaves every stock as it was
  have htracked : numeric c.input.quantity = 0 → ∀ key, key.itemId = itemId → TrackedAt s' key := by
    intro hzero key hkey
    rw [hzero, sub_zero] at hleaves
    rw [hzero, add_zero] at harrives
    by_cases hplace : c.place = key
    · rw [← hplace]
      exact (h.tracked _ hitem).of_nothing (by rw [ht]; exact hmoves) hsource (hledger _) hleaves
    · by_cases hother : destination = key
      · rw [← hother]
        exact (h.tracked _ hsame).of_nothing (by rw [ht']; exact hmoves) hdestination (hledger _)
          harrives
      · exact (h.tracked key hkey).of_same (hrest key hplace hother) (hledger key)
  rw [KeepsLedger, if_neg hreceipt, if_neg hissue]
  refine ⟨⟨hnothing, fun hzero => ?_⟩, fun htracks => ?_⟩
  · refine ⟨fun key hkey => ?_, fun _ hnot => absurd hnot hreceipt⟩
    rw [hafter]
    exact (htracked hzero key hkey).quantity
  · refine ⟨?_, (booked hrun).keyed h.keyed, htracked (hnothing htracks)⟩
    rw [(booked hrun).costingMethod]
    exact h.item

theorem Tracked.of_other (h : Tracked itemId s) (hrun : c.run (withLedgers v) s = .ok id s')
    (hitem : c.input.itemId ≠ itemId) : Tracked itemId s' := by
  have hplace : ∀ key : StockKey, key.itemId = itemId → c.place ≠ key := fun key hkey heq =>
    hitem ((congrArg StockKey.itemId heq).trans hkey)
  refine ⟨?_, (booked hrun).keyed h.keyed, fun key hkey => ?_⟩
  · rw [(booked hrun).costingMethod]
    exact h.item
  · refine (h.tracked key hkey).of_same ?_
      ((booked hrun).ledgerAt_of_ne h.keyed (hplace key hkey))
    by_cases htransfer : c.input.transactionType = .transfer
    · obtain ⟨destination, t, t', -, -, hsame, -, -, -, -, -, hrest⟩ :=
        movements_of_transfer hrun htransfer
      refine hrest key (hplace key hkey) fun heq => hitem ?_
      rw [← hsame, heq, hkey]
    · exact (movements_of_run hrun htransfer).2.2 key (hplace key hkey)

/-- **One call** that is accepted: the ledger tracks the stock after it exactly when the movement is
one that the ledger follows. -/
theorem tracks_iff (h : Tracked itemId s) (hrun : c.run (withLedgers v) s = .ok id s') :
    (Tracks v itemId s c ↔ (c.input.itemId = itemId → KeepsLedger s c)) ∧
      (Tracks v itemId s c → Tracked itemId s') := by
  by_cases hitem : c.input.itemId = itemId
  · rw [forall_prop_of_true hitem]
    cases booked hrun with
    | receipt htype hbooks => exact tracks_receipt h hrun hitem htype hbooks
    | issue htype hbooks => exact tracks_issue h hrun hitem htype hbooks
    | other hreceipt hissue hitems hledgers =>
      by_cases htransfer : c.input.transactionType = .transfer
      · exact tracks_transfer h hrun hitem htransfer hledgers
      · exact tracks_adjustment h hrun hitem hreceipt hissue htransfer hledgers
  · have htracked := h.of_other hrun hitem
    have hafter : c.after (withLedgers v) s = s' := commit_of_ok hrun
    refine ⟨iff_of_true ⟨fun key hkey => ?_, fun heq => absurd heq hitem⟩
      fun heq => absurd heq hitem, fun _ => htracked⟩
    rw [hafter]
    exact (htracked.tracked key hkey).quantity

end Call

/-! ### Runs -/

/-- From a ledger that tracks its stock, it does so throughout a run exactly when the run makes no
other movements than those the ledger follows. -/
theorem tracksThroughout_iff (h : Tracked itemId s) (cs : List MovementCall) :
    TracksThroughout v itemId s cs ↔ KeepsThroughout v itemId s cs := by
  induction cs generalizing s with
  | nil => exact Iff.rfl
  | cons c cs ih =>
    rw [TracksThroughout, KeepsThroughout]
    cases hrun : c.run (withLedgers v) s with
    | error e s' =>
      have hafter : c.after (withLedgers v) s = s := by rw [MovementCall.after, commit, hrun]
      have hraised : ¬ returns (c.run (withLedgers v)) s = true := by simp [returns, hrun]
      rw [hafter, ih h]
      refine and_congr_left fun _ => iff_of_true ⟨fun key hkey => ?_, ?_⟩ ?_
      · rw [hafter]
        exact (h.tracked key hkey).quantity
      · exact fun _ _ haccepted => absurd haccepted hraised
      · exact fun _ haccepted => absurd haccepted hraised
    | ok id s' =>
      have hafter : c.after (withLedgers v) s = s' := commit_of_ok hrun
      have haccepted : returns (c.run (withLedgers v)) s = true := returns_iff.mpr ⟨id, s', hrun⟩
      obtain ⟨hiff, htracked⟩ := tracks_iff h hrun
      rw [hafter, hiff]
      constructor
      · rintro ⟨hkeeps, hrest⟩
        exact ⟨fun hitem _ => hkeeps hitem, (ih (htracked (hiff.mpr hkeeps))).mp hrest⟩
      · rintro ⟨hkeeps, hrest⟩
        have hall : c.input.itemId = itemId → KeepsLedger s c := fun hitem => hkeeps hitem haccepted
        exact ⟨hall, (ih (htracked (hiff.mpr hall))).mpr hrest⟩

/-- **The ledger and the stock**: from a weighted-average item without movements and without
ledger rows, the ledger tracks the stock after every call of a run exactly when every movement of
the item that is accepted is one the ledger follows. -/
theorem wac_ledger_tracks_iff (v : Services β) {s : InventoryStore (WacStore β)} {itemId : UUID}
    (hitem : (s.items.get? itemId).map Item.costingMethod = some .weightedAverage)
    (hkeyed : s.services.ledgers.Keyed ItemWacLedger.key)
    (hmovements : ∀ key, key.itemId = itemId → movements s.transactions key = [])
    (hledgers : ∀ key, key.itemId = itemId → ledgerAt s key = none) (cs : List MovementCall) :
    TracksThroughout v itemId s cs ↔ KeepsThroughout v itemId s cs := by
  refine tracksThroughout_iff ⟨hitem, hkeyed, fun key hkey => ?_⟩ cs
  have hzero : balanceAt s key = 0 := by
    change ((movements s.transactions key).map _).sum = 0
    rw [hmovements key hkey]
    rfl
  exact {
    scale := by
      rw [hzero]
      exact atScale_zero 6
    nonneg := hzero.ge
    quantity := by rw [ledgerQuantity_of_none (hledgers key hkey), hzero]
    opened := iff_of_true (hledgers key hkey) fun t ht => by
      rw [hmovements key hkey] at ht
      exact absurd ht (by simp) }

/-! ### The first receipt -/

/-- Ten pieces are received at 3: the ledger says twenty, at 1.5. -/
theorem first_receipt_counts_twice :
    ¬ ∀ (v : Services Unit) (s : InventoryStore (WacStore Unit)) (itemId : UUID)
      (cs : List MovementCall),
        (s.items.get? itemId).map Item.costingMethod = some .weightedAverage →
        s.services.ledgers.Keyed ItemWacLedger.key →
        (∀ key, key.itemId = itemId → movements s.transactions key = []) →
        (∀ key, key.itemId = itemId → ledgerAt s key = none) →
          TracksThroughout v itemId s cs := by
  intro h
  have htracks := (h plainServices (averageRoom none) 0 [moveAt .receipt 0 10 3] rfl
    Table.keyed_empty (fun _ _ => rfl) fun _ _ => rfl).1
  have hquantity := htracks.quantity ⟨9, 0, 0⟩ rfl
  exact absurd hquantity (by decide +kernel)

/-- Pieces that cost -2, the average of the item, are received; some of them are issued, and others
come in at 3. -/
def followedMovements : List MovementCall :=
  [moveAt .receipt 0 10 (-2), moveAt .issue 0 4 0, moveAt .receipt 0 5 3]

theorem wac_ledger_tracks_iff_sample :
    TracksThroughout plainServices 0 (averageRoom (some (-2))) followedMovements ∧
      balanceAt (followedMovements.foldl (MovementCall.after (withLedgers plainServices))
        (averageRoom (some (-2)))) ⟨9, 0, 0⟩ = 11 := by
  refine ⟨(wac_ledger_tracks_iff plainServices rfl Table.keyed_empty (fun _ _ => rfl)
    (fun _ _ => rfl) followedMovements).mpr ?_, by decide +kernel⟩
  exact ⟨fun _ _ => by decide +kernel, fun _ _ => by decide +kernel,
    fun _ _ => by decide +kernel, trivial⟩

end DotmacErp.Inventory
