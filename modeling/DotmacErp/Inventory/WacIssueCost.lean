import DotmacErp.Inventory.WacConservation
import DotmacErp.Inventory.WacMovements

/-!
# What a weighted-average issue costs

An issue of a weighted-average item is costed at the item's average cost, and the general ledger
posts that cost (`postIssue`); the weighted-average ledger of the warehouse, asked afterwards, takes
out a value of its own. `issueGap` is the difference of the two.

The item has one average, which is that of the warehouse whose ledger was asked last. So the two
differ by the quantity times the difference of that average to the one of the warehouse that
issues, up to their roundings: the recorded cost is rounded once, and the ledger's value before and
after it once each; a quantity that is finer than the columns is rounded in the ledger as well.
-/

namespace DotmacErp.Inventory

open Relational Session Rounding InventoryTransactionService WacValuationService

variable {β : Type} {s s' : InventoryStore (WacStore β)} {v : Services β} {itemId : UUID}

/-! ### The posting of an issue -/

/-- `post_issue`, up to the lines of the journal that it asks for. The two accounts are those of the
item or of its category, if that is found; whether the movement has a journal already comes with
the call. -/
def postIssue (org transactionId : UUID) (itemCode : String)
    (accounts : Option (Option UUID × Option UUID)) (posted : Bool) (s : InventoryStore β) :
    Except String (List JournalLineInput) :=
  match (s.transactions.get? transactionId).filter fun t => t.organizationId = org with
  | none => .error "Transaction not found"
  | some t =>
    if t.transactionType ∉ [.issue, .sale, .disassembly] then
      .error "Transaction is not an issue or sale"
    else if posted then .error "Transaction already posted"
    else if (s.items.get? t.itemId).isNone then .error "Item not found"
    else match accounts with
      | none => .error "Item category not found"
      | some (none, _) => .error "Inventory account not configured"
      | some (some _, none) => .error "COGS account not configured"
      | some (some inventoryAccount, some cogsAccount) => .ok [
        { accountId := cogsAccount
          debitAmount := t.totalCost
          debitAmountFunctional := some t.totalCost
          creditAmountFunctional := some 0
          description := some s!"COGS: {itemCode}" },
        { accountId := inventoryAccount
          creditAmount := t.totalCost
          debitAmountFunctional := some 0
          creditAmountFunctional := some t.totalCost
          description := some s!"Inventory issue: {itemCode}" }]

def recordedCost (s : InventoryStore β) (id : UUID) : ℚ :=
  (s.transactions.get? id).elim 0 InventoryTransaction.totalCost

theorem postIssue_amount {org transactionId : UUID} {itemCode : String}
    {accounts : Option (Option UUID × Option UUID)} {posted : Bool} {s : InventoryStore β}
    {lines : List JournalLineInput}
    (h : postIssue org transactionId itemCode accounts posted s = .ok lines) :
    ∀ line ∈ lines, line.debitAmount + line.creditAmount = recordedCost s transactionId := by
  rw [postIssue] at h
  cases hfound : (s.transactions.get? transactionId).filter
      fun t => t.organizationId = org with
  | none =>
    rw [hfound] at h
    exact absurd h (by simp)
  | some t =>
    have hget := (Option.filter_eq_some_iff.mp hfound).1
    rw [hfound] at h
    dsimp only at h
    split_ifs at h
    split at h
    · exact absurd h (by simp)
    · exact absurd h (by simp)
    · exact absurd h (by simp)
    · obtain rfl := Except.ok.inj h
      intro line hline
      rw [recordedCost, hget, Option.elim_some]
      simp only [List.mem_cons, List.not_mem_nil, or_false] at hline
      rcases hline with rfl | rfl
      · exact add_zero _
      · exact zero_add _

/-! ### The ledger between calls -/

def ledgerValue (s : InventoryStore (WacStore β)) (key : StockKey) : ℚ :=
  (ledgerAt s key).elim 0 ItemWacLedger.totalValue

def ledgerWac (s : InventoryStore (WacStore β)) (key : StockKey) : ℚ :=
  (ledgerAt s key).elim 0 ItemWacLedger.currentWac

def issueGap (v : Services β) (s : InventoryStore (WacStore β)) (c : MovementCall) : ℚ :=
  match c.run (withLedgers v) s with
  | .ok id s' => recordedCost s' id - (ledgerValue s c.place - ledgerValue s' c.place)
  | .error _ _ => 0

/-- A row whose value is the rounded product of a quantity and the average; the quantity in the row
is that quantity, rounded, and that quantity itself when `exact` is the case. -/
structure Costed (exact : Prop) (ledger : ItemWacLedger) (quantity : ℚ) : Prop where
  onHand : ledger.quantityOnHand = numeric quantity
  wac : AtScale 6 ledger.currentWac
  value : ledger.totalValue = numeric (quantity * ledger.currentWac)
  scale : exact → AtScale 6 quantity

structure CostedAt (exact : Prop) (s : InventoryStore (WacStore β)) (key : StockKey) : Prop where
  scale : AtScale 6 (balanceAt s key)
  none : ledgerAt s key = none → balanceAt s key = 0
  covers : ∀ ledger ∈ ledgerAt s key, balanceAt s key ≤ ledger.quantityOnHand
  nonneg : ∀ ledger ∈ ledgerAt s key, 0 ≤ ledger.quantityOnHand
  costed : ∀ ledger ∈ ledgerAt s key, ∃ quantity, Costed exact ledger quantity

structure CostedItem (exact : Prop) (itemId : UUID) (s : InventoryStore (WacStore β)) : Prop where
  item : (s.items.get? itemId).map Item.costingMethod = some .weightedAverage
  keyed : s.services.ledgers.Keyed ItemWacLedger.key
  stocks : ∀ key, key.itemId = itemId → CostedAt exact s key

/-- The item is only received, at no negative cost, and issued. -/
def Ordinary (itemId : UUID) (c : MovementCall) : Prop :=
  c.input.itemId = itemId →
    (c.input.transactionType.IsReceipt ∧ 0 ≤ c.input.unitCost) ∨ c.input.transactionType.IsIssue

instance (itemId : UUID) (c : MovementCall) : Decidable (Ordinary itemId c) :=
  inferInstanceAs (Decidable (_ → _))

variable {exact : Prop}

theorem Costed.value_near {ledger : ItemWacLedger} {quantity : ℚ}
    (h : Costed exact ledger quantity) :
    |ledger.totalValue - ledger.quantityOnHand * ledger.currentWac| ≤
        (1 + |ledger.currentWac|) * halfUnit ∧
      (exact → |ledger.totalValue - ledger.quantityOnHand * ledger.currentWac| ≤ halfUnit) := by
  have hvalue := abs_numeric_sub_le (quantity * ledger.currentWac)
  have hquantity := abs_numeric_sub_le quantity
  rw [h.value, h.onHand]
  constructor
  · have hscaled : |quantity * ledger.currentWac - numeric quantity * ledger.currentWac| ≤
        halfUnit * |ledger.currentWac| := by
      rw [← sub_mul, abs_mul, abs_sub_comm]
      exact mul_le_mul_of_nonneg_right hquantity (abs_nonneg _)
    calc |numeric (quantity * ledger.currentWac) - numeric quantity * ledger.currentWac|
        = |(numeric (quantity * ledger.currentWac) - quantity * ledger.currentWac) +
            (quantity * ledger.currentWac - numeric quantity * ledger.currentWac)| := by
          congr 1
          ring
      _ ≤ halfUnit + halfUnit * |ledger.currentWac| :=
          (abs_add_le _ _).trans (add_le_add hvalue hscaled)
      _ = (1 + |ledger.currentWac|) * halfUnit := by ring
  · intro hexact
    have hround : numeric quantity = quantity := halfUp_of_atScale (h.scale hexact)
    rw [hround]
    exact hvalue

/-! ### One call -/

section Call

variable {c : MovementCall} {id : UUID} {item : Item} {mid : InventoryStore (WacStore β)}

theorem CostedAt.of_same {key : StockKey} (h : CostedAt exact s key)
    (hmovements : movements s'.transactions key = movements s.transactions key)
    (hledger : ledgerAt s' key = ledgerAt s key) : CostedAt exact s' key where
  scale := by
    rw [balanceAt_same hmovements]
    exact h.scale
  none := by
    rw [balanceAt_same hmovements, hledger]
    exact h.none
  covers := by
    rw [balanceAt_same hmovements, hledger]
    exact h.covers
  nonneg := by
    rw [hledger]
    exact h.nonneg
  costed := by
    rw [hledger]
    exact h.costed

theorem CostedAt.of_row {key : StockKey} {ledger : ItemWacLedger} (quantity : ℚ)
    (hscale : AtScale 6 (balanceAt s key)) (hledger : ledgerAt s key = some ledger)
    (hcovers : balanceAt s key ≤ ledger.quantityOnHand) (hnonneg : 0 ≤ ledger.quantityOnHand)
    (hcosted : Costed exact ledger quantity) : CostedAt exact s key where
  scale := hscale
  none hnone := by
    rw [hledger] at hnone
    exact absurd hnone (Option.some_ne_none ledger)
  covers ledger' hledger' := by
    rw [hledger] at hledger'
    rw [← Option.some.inj hledger']
    exact hcovers
  nonneg ledger' hledger' := by
    rw [hledger] at hledger'
    rw [← Option.some.inj hledger']
    exact hnonneg
  costed ledger' hledger' := by
    rw [hledger] at hledger'
    rw [← Option.some.inj hledger']
    exact ⟨quantity, hcosted⟩

theorem CostedItem.costingMethod (h : CostedItem exact itemId s) {org : UUID}
    (hitem : ItemOf s org itemId item) : item.costingMethod = .weightedAverage := by
  have hmethod := h.item
  rw [hitem.found] at hmethod
  exact Option.some.inj hmethod

theorem CostedItem.of_place (h : CostedItem exact itemId s)
    (hrun : c.run (withLedgers v) s = .ok id s') (htype : c.input.transactionType ≠ .transfer)
    (hplace : c.input.itemId = itemId → CostedAt exact s' c.place) :
    CostedItem exact itemId s' where
  item := by
    rw [(booked hrun).costingMethod]
    exact h.item
  keyed := (booked hrun).keyed h.keyed
  stocks key hkey := by
    by_cases heq : c.place = key
    · rw [← heq]
      exact hplace ((congrArg StockKey.itemId heq).trans hkey)
    · exact (h.stocks key hkey).of_same ((movements_of_run hrun htype).2.2 key heq)
        ((booked hrun).ledgerAt_of_ne h.keyed heq)

theorem snapshot_covers {key : StockKey} {quantity : ℚ} (h : CostedAt exact s key)
    (hledgers : mid.services.ledgers = s.services.ledgers)
    (hbalance : balanceAt mid key = balanceAt s key + numeric quantity) (hquantity : 0 < quantity) :
    AtScale 6 (getSnapshot key mid).1.quantity ∧ 0 ≤ (getSnapshot key mid).1.quantity ∧
      balanceAt s key ≤ (getSnapshot key mid).1.quantity := by
  have hmid : ledgerAt mid key = ledgerAt s key := by rw [ledgerAt, hledgers, ledgerAt]
  cases hledger : ledgerAt s key with
  | some ledger =>
    rw [hledger] at hmid
    rw [getSnapshot_of_some hmid]
    obtain ⟨n, hcosted⟩ := h.costed ledger hledger
    refine ⟨?_, h.nonneg ledger hledger, h.covers ledger hledger⟩
    change AtScale 6 ledger.quantityOnHand
    rw [hcosted.onHand]
    exact atScale_halfUp 6 _
  | none =>
    have hzero := h.none hledger
    rw [hledger] at hmid
    rw [getSnapshot_opening hmid, hzero]
    split_ifs with hqty
    · exact ⟨atScale_zero 6, le_rfl, le_rfl⟩
    · rw [hzero, zero_add] at hbalance
      rw [hbalance]
      exact ⟨atScale_halfUp 6 _, halfUp_nonneg hquantity.le, halfUp_nonneg hquantity.le⟩

/-- **One receipt** that the ledger takes. -/
theorem CostedItem.receipt (h : CostedItem exact itemId s)
    (hrun : c.run (withLedgers v) s = .ok id s') (hitem : c.input.itemId = itemId)
    (htype : c.input.transactionType.IsReceipt) (hcost : 0 ≤ c.input.unitCost)
    (hexact : exact → AtScale 6 c.input.quantity)
    (hbooks : BooksReceipt c.organizationId c.input id item s mid s') :
    CostedItem exact itemId s' := by
  have htransfer : c.input.transactionType ≠ .transfer := htype.ne_transfer
  have hmethod : item.costingMethod = .weightedAverage := h.costingMethod (hitem ▸ hbooks.found)
  have hplace := h.stocks c.place hitem
  obtain ⟨-, hbalance, -⟩ := movements_of_run hrun htransfer
  rw [net_of_isReceipt htype] at hbalance
  have hmid : balanceAt mid c.place = balanceAt s c.place + numeric c.input.quantity := by
    rw [← hbalance]
    exact (balanceAt_congr hbooks.recorded _).symm
  obtain ⟨hscale, hnonneg, hcovers⟩ :=
    snapshot_covers hplace hbooks.before hmid hbooks.positive
  have hafter := hbooks.ledgerAt_of_nonneg h.keyed hmethod hcost
  rw [← MovementCall.place] at hafter
  set snapshot := (getSnapshot c.place mid).1 with hsnapshot
  have hpos : 0 < snapshot.quantity + c.input.quantity :=
    add_pos_of_nonneg_of_pos hnonneg hbooks.positive
  have hround : numeric (snapshot.quantity + c.input.quantity) =
      snapshot.quantity + numeric c.input.quantity :=
    (numeric_add_iff hscale hpos.le).mpr
      fun hneg => absurd hneg.1 (not_lt.mpr hbooks.positive.le)
  refine h.of_place hrun htransfer fun _ =>
    .of_row (snapshot.quantity + c.input.quantity) ?_ hafter ?_ ?_ ?_
  · rw [hbalance]
    exact hplace.scale.add (atScale_halfUp 6 _)
  · rw [hbalance]
    change _ ≤ numeric (snapshot.quantity + c.input.quantity)
    rw [hround]
    linarith
  · exact halfUp_nonneg hpos.le
  · exact {
      onHand := rfl
      wac := atScale_halfUp 6 _
      value := by
        simp only [ledgerRow, receiptResult, if_neg hpos.ne', numeric, halfUp_halfUp]
      scale := fun hall => hscale.add (hexact hall) }

theorem ledgerAt_issue (h : CostedItem exact itemId s) (hitem : c.input.itemId = itemId)
    (hbooks : BooksIssue c.organizationId c.input id item s mid s') :
    ∃ ledger, ledgerAt s c.place = some ledger ∧ c.input.quantity ≤ ledger.quantityOnHand ∧
      ledgerAt s' c.place = some (ledgerRow c.place ledger.currentWac
        (ledger.quantityOnHand - c.input.quantity)
          (numeric ((ledger.quantityOnHand - c.input.quantity) * ledger.currentWac))
            (some id)) := by
  have hmethod : item.costingMethod = .weightedAverage := h.costingMethod (hitem ▸ hbooks.found)
  have hplace := h.stocks c.place hitem
  have henough : c.input.quantity ≤ balanceAt s c.place := hbooks.enough
  cases hledger : ledgerAt s c.place with
  | none =>
    -- without a ledger there is no stock to issue
    have hzero := hplace.none hledger
    linarith [hbooks.positive]
  | some ledger =>
    have hqty : c.input.quantity ≤ ledger.quantityOnHand :=
      henough.trans (hplace.covers ledger hledger)
    exact ⟨ledger, rfl, hqty, hbooks.ledgerAt_of_le h.keyed hmethod hledger hqty⟩

/-- **One issue.** -/
theorem CostedItem.issue (h : CostedItem exact itemId s)
    (hrun : c.run (withLedgers v) s = .ok id s') (hitem : c.input.itemId = itemId)
    (htype : c.input.transactionType.IsIssue) (hexact : exact → AtScale 6 c.input.quantity)
    (hbooks : BooksIssue c.organizationId c.input id item s mid s') :
    CostedItem exact itemId s' := by
  have htransfer : c.input.transactionType ≠ .transfer := htype.ne_transfer
  have hplace := h.stocks c.place hitem
  obtain ⟨ledger, hledger, hqty, hafter⟩ := ledgerAt_issue h hitem hbooks
  obtain ⟨n, hcosted⟩ := hplace.costed ledger hledger
  have hscale : AtScale 6 ledger.quantityOnHand := by
    rw [hcosted.onHand]
    exact atScale_halfUp 6 _
  obtain ⟨-, hbalance, -⟩ := movements_of_run hrun htransfer
  rw [net_of_isIssue htype] at hbalance
  have hleft : 0 ≤ ledger.quantityOnHand - c.input.quantity := sub_nonneg.mpr hqty
  refine h.of_place hrun htransfer fun _ =>
    .of_row (ledger.quantityOnHand - c.input.quantity) ?_ hafter ?_ ?_ ?_
  · rw [hbalance]
    exact hplace.scale.add (atScale_halfUp 6 _).neg
  · -- a tie leaves the ledger a millionth more than the balance
    have hround := halfUp_add_of_atScale (q := -c.input.quantity) hscale
      (by rw [← sub_eq_add_neg]; exact hleft)
    have hmore : numeric (ledger.quantityOnHand - c.input.quantity) ≥
        ledger.quantityOnHand - numeric c.input.quantity := by
      rw [sub_eq_add_neg, numeric, hround, halfUp_neg, ← sub_eq_add_neg]
      split_ifs
      · linarith [show (0 : ℚ) < 1 / 10 ^ 6 by norm_num]
      · exact (add_zero _).ge
    have hcovers := hplace.covers ledger hledger
    rw [hbalance]
    change _ ≤ numeric (ledger.quantityOnHand - c.input.quantity)
    linarith
  · exact halfUp_nonneg hleft
  · exact {
      onHand := rfl
      wac := atScale_halfUp 6 _
      value := by
        simp only [ledgerRow, numeric, halfUp_halfUp, halfUp_of_atScale hcosted.wac]
      scale := fun hall => hscale.sub (hexact hall) }

theorem CostedItem.of_other (h : CostedItem exact itemId s)
    (hrun : c.run (withLedgers v) s = .ok id s') (hitem : c.input.itemId ≠ itemId) :
    CostedItem exact itemId s' := by
  have hplace : ∀ key : StockKey, key.itemId = itemId → c.place ≠ key := fun key hkey heq =>
    hitem ((congrArg StockKey.itemId heq).trans hkey)
  by_cases htransfer : c.input.transactionType = .transfer
  · refine ⟨?_, (booked hrun).keyed h.keyed, fun key hkey => ?_⟩
    · rw [(booked hrun).costingMethod]
      exact h.item
    · obtain ⟨destination, t, t', -, -, hsame, -, -, -, -, -, hrest⟩ :=
        movements_of_transfer hrun htransfer
      refine (h.stocks key hkey).of_same (hrest key (hplace key hkey) fun heq => hitem ?_)
        ((booked hrun).ledgerAt_of_ne h.keyed (hplace key hkey))
      rw [← hsame, heq, hkey]
  · exact h.of_place hrun htransfer fun heq => absurd heq hitem

/-- **One call** of a run. -/
theorem CostedItem.after (h : CostedItem exact itemId s) (hordinary : Ordinary itemId c)
    (hexact : exact → AtScale 6 c.input.quantity) :
    CostedItem exact itemId (c.after (withLedgers v) s) := by
  refine commit_induction (P := CostedItem exact itemId) h fun id s' hrun => ?_
  by_cases hitem : c.input.itemId = itemId
  · cases booked hrun with
    | receipt htype hbooks =>
      rcases hordinary hitem with ⟨-, hcost⟩ | hissue
      · exact h.receipt hrun hitem htype hcost hexact hbooks
      · rcases htype with heq | heq | heq <;> rw [heq] at hissue <;> exact absurd hissue (by decide)
    | issue htype hbooks => exact h.issue hrun hitem htype hexact hbooks
    | other hreceipt hissue hitems hledgers =>
      rcases hordinary hitem with ⟨hnot, -⟩ | hnot
      · exact absurd hnot hreceipt
      · exact absurd hnot hissue
  · exact h.of_other hrun hitem

/-- **One issue**: the cost that is recorded is what the ledger takes out and the quantity times
the difference of the averages, but for the roundings. -/
theorem CostedItem.abs_issueGap_sub_le (h : CostedItem exact itemId s)
    (hitem : c.input.itemId = itemId) (htype : c.input.transactionType.IsIssue)
    (hrun : c.run (withLedgers v) s = .ok id s') :
    |issueGap v s c - c.input.quantity * (openingWac s itemId - ledgerWac s c.place)| ≤
        (3 + |ledgerWac s c.place|) * halfUnit ∧
      (exact → |issueGap v s c - c.input.quantity *
        (openingWac s itemId - ledgerWac s c.place)| ≤ 3 * halfUnit) := by
  rw [issueGap, hrun]
  cases booked hrun with
  | receipt hreceipt hbooks =>
    rcases hreceipt with heq | heq | heq <;> rw [heq] at htype <;> exact absurd htype (by decide)
  | other hreceipt hissue hitems hledgers => exact absurd htype hissue
  | @issue item mid _ hbooks =>
    obtain ⟨ledger, hledger, hqty, hafter⟩ := ledgerAt_issue h hitem hbooks
    obtain ⟨n, hcosted⟩ := (h.stocks c.place hitem).costed ledger hledger
    have hfound := hbooks.found
    rw [hitem] at hfound
    obtain ⟨t, htransactions, hcost, hid⟩ := hbooks.cost (h.costingMethod hfound)
    have hwac : ledgerWac s c.place = ledger.currentWac := by
      rw [ledgerWac, hledger, Option.elim_some]
    have haverage : item.averageCost.getD 0 = openingWac s itemId := by
      rw [openingWac, hfound.found, Option.bind_some]
    have hrecorded : recordedCost s' id =
        numeric (c.input.quantity * openingWac s itemId) := by
      rw [recordedCost, htransactions, hid, Table.get?_insert_self, Option.elim_some, hcost,
        haverage]
    have hbefore : ledgerValue s c.place = ledger.totalValue := by
      rw [ledgerValue, hledger, Option.elim_some]
    have hleft : ledgerValue s' c.place =
        numeric ((ledger.quantityOnHand - c.input.quantity) * ledger.currentWac) := by
      rw [ledgerValue, hafter, Option.elim_some]
      simp only [ledgerRow, numeric, halfUp_halfUp]
    have hout := abs_numeric_sub_le (c.input.quantity * openingWac s itemId)
    have hrest := abs_numeric_sub_le
      ((ledger.quantityOnHand - c.input.quantity) * ledger.currentWac)
    obtain ⟨hvalue, hvalueExact⟩ := hcosted.value_near
    dsimp only
    rw [hrecorded, hbefore, hleft, hwac]
    rw [abs_le] at hout hrest hvalue
    constructor
    · rw [abs_le]
      constructor <;> linarith
    · intro hall
      have hvalue' := hvalueExact hall
      rw [abs_le] at hvalue' ⊢
      constructor <;> linarith

/-- An issue at the average of its warehouse. -/
theorem CostedItem.abs_issueGap_le (h : CostedItem exact itemId s) (hitem : c.input.itemId = itemId)
    (htype : c.input.transactionType.IsIssue)
    (haverage : openingWac s itemId = ledgerWac s c.place) :
    |issueGap v s c| ≤ (3 + |ledgerWac s c.place|) * halfUnit ∧
      (exact → |issueGap v s c| ≤ 3 * halfUnit) := by
  have hzero : (0 : ℚ) ≤ halfUnit := by norm_num [halfUnit]
  cases hrun : c.run (withLedgers v) s with
  | error e s' =>
    rw [issueGap, hrun]
    dsimp only
    rw [abs_zero]
    exact ⟨by positivity, fun _ => by positivity⟩
  | ok id s' =>
    have hgap := h.abs_issueGap_sub_le hitem htype hrun
    rwa [haverage, sub_self, mul_zero, sub_zero] at hgap

end Call

/-! ### Runs -/

def halfAPiece : List MovementCall := [moveAt .receipt 0 (1 / 2) (3 / 1000000)]

def twoWarehouses : List MovementCall := [moveAt .receipt 0 10 1, moveAt .receipt 1 10 3]

def refusedReceipts : List MovementCall := [moveAt .receipt 0 10 (-1), moveAt .receipt 0 5 (-1)]

end DotmacErp.Inventory
