import DotmacErp.Inventory.RunningBalance
import DotmacErp.Inventory.WacValuation

/-!
# Movements and the weighted-average ledger

What a movement does to the ledger and to the average cost of its item, in a store whose services
have the ledger among them. A receipt and an issue of a weighted-average item ask the ledger, in a
state where the movement itself is already recorded; an adjustment and a transfer do not ask it.

`BooksReceipt` and `BooksIssue` say so, with the state in which the ledger is asked.
-/

namespace DotmacErp.Inventory

open Relational Session InventoryTransactionService WacValuationService

variable {β γ : Type} {s s' : InventoryStore (WacStore β)} {v : Services β}

/-! ### What the other services leave alone -/

def HidesOthers (view : InventoryStore (WacStore β) → γ) : Prop :=
  ∀ s others, view { s with services := { s.services with others } } = view s

/-- Everything the ledger is asked about. -/
def books (s : InventoryStore (WacStore β)) :
    Table Item × Table InventoryTransaction × Table ItemWacLedger :=
  (s.items, s.transactions, s.services.ledgers)

theorem hidesOthers_books : HidesOthers (β := β) books := fun _ _ => rfl

theorem hidesLots_books : HidesLots (β := WacStore β) books := fun _ _ _ => rfl

theorem frames_callOther {view : InventoryStore (WacStore β) → γ} (hview : HidesOthers view)
    (f : InventoryStore (WacStore β) → Except InventoryError β) :
    Frames view (callService fun s => (f s).map fun others => { s.services with others }) := by
  intro s a s' h
  rw [callService, get_bind] at h
  cases hf : f s with
  | error e =>
    simp only [hf, Except.map] at h
    exact absurd h (by simp)
  | ok others =>
    simp only [hf, Except.map] at h
    rw [set_eq_ok.mp h]
    exact hview s others

theorem frames_postWithLedgers {view : InventoryStore (WacStore β) → γ}
    (hview : HidesOthers view) (org transactionId userId : UUID) :
    Frames view (postInRealTime (withLedgers v) org transactionId userId) :=
  .bind .get fun _ => .runIf (frames_callOther hview fun s =>
    v.postTransaction org transactionId userId s.plain)

/-! ### Receipts and issues -/

def TransactionInput.place (org : UUID) (input : TransactionInput) : StockKey :=
  ⟨org, input.itemId, input.warehouseId⟩

def Item.averaged (averageCost : ℚ) (item : Item) : Item :=
  { item with averageCost := some (numeric averageCost) }

/-- The average a receipt leaves: the ledger's, or the legacy computation when it raises. -/
def averageAfter (mid : InventoryStore (WacStore β)) (key : StockKey) (quantity unitCost : ℚ)
    (answer : Except InventoryError WacResult) : ℚ :=
  match answer with
  | .ok result => result.newWac
  | .error _ => calculateWeightedAverageCost mid key.organizationId key.itemId key.warehouseId
      quantity unitCost

def itemsAfterIssue (items : Table Item) (itemId : UUID)
    (answer : Except InventoryError WacResult) : Table Item :=
  match answer with
  | .ok result => items.modify itemId (Item.averaged result.newWac)
  | .error _ => items

/-- What a receipt does to the books; it asks the ledger in the state `mid`. -/
structure BooksReceipt (organizationId : UUID) (input : TransactionInput) (id : UUID) (item : Item)
    (s mid s' : InventoryStore (WacStore β)) : Prop where
  positive : 0 < input.quantity
  found : ItemOf s organizationId input.itemId item
  items : mid.items = (withPurchaseCost s input).items
  recorded : s'.transactions = mid.transactions
  before : mid.services.ledgers = s.services.ledgers
  ledgers : s'.services.ledgers =
    if item.costingMethod = .weightedAverage then
      (applyReceipt (input.place organizationId) input.quantity input.unitCost (some id) mid).2
    else s.services.ledgers
  after : s'.items =
    if item.costingMethod = .weightedAverage then
      mid.items.modify input.itemId (Item.averaged (averageAfter mid (input.place organizationId)
        input.quantity input.unitCost
          (applyReceipt (input.place organizationId) input.quantity input.unitCost (some id)
            mid).1))
    else mid.items

/-- What an issue does to the books; it asks the ledger in the state `mid`. -/
structure BooksIssue (organizationId : UUID) (input : TransactionInput) (id : UUID) (item : Item)
    (s mid s' : InventoryStore (WacStore β)) : Prop where
  positive : 0 < input.quantity
  found : ItemOf s organizationId input.itemId item
  enough : input.quantity ≤ balanceAt s (input.place organizationId)
  items : mid.items = s.items
  recorded : s'.transactions = mid.transactions
  cost : item.costingMethod = .weightedAverage → ∃ t, s'.transactions = s.transactions.insert t ∧
    t.totalCost = numeric (input.quantity * item.averageCost.getD 0) ∧ id = s.transactions.next
  before : mid.services.ledgers = s.services.ledgers
  ledgers : s'.services.ledgers =
    if item.costingMethod = .weightedAverage then
      (applyIssue (input.place organizationId) input.quantity (some id) mid).2
    else s.services.ledgers
  after : s'.items =
    if item.costingMethod = .weightedAverage then
      itemsAfterIssue s.items input.itemId
        (applyIssue (input.place organizationId) input.quantity (some id) mid).1
    else s.items

theorem askLedger_eq_ok {δ : Type} {s s' : InventoryStore δ}
    {f : InventoryStore δ → Except InventoryError ℚ × δ} {answer : Option ℚ}
    (h : askLedger f s = .ok answer s') :
    s' = { s with services := (f s).2 } ∧ answer = (f s).1.toOption := by
  rw [askLedger, get_bind] at h
  obtain ⟨_, s₁, hset, h⟩ := bind_eq_ok.mp h
  obtain rfl := set_eq_ok.mp hset
  cases hf : (f s).1 with
  | error e =>
    rw [hf] at h
    obtain ⟨rfl, rfl⟩ := pure_eq_ok.mp h
    exact ⟨rfl, rfl⟩
  | ok averageCost =>
    rw [hf] at h
    obtain ⟨rfl, rfl⟩ := pure_eq_ok.mp h
    exact ⟨rfl, rfl⟩

variable {org userId id : UUID} {input : TransactionInput}

theorem createReceipt_books
    (h : createReceipt (withLedgers v) org input userId s = .ok id s') :
    ∃ item mid, BooksReceipt org input id item s mid s' := by
  obtain ⟨item, lotId, s₁, s₂, mid, s₄, h⟩ := createReceipt_steps h
  obtain ⟨track, numbers, hserials⟩ := h.serials
  have hlots : books s₁ = books (withPurchaseCost s input) :=
    frames_receiptLot hidesLots_books _ _ (withPurchaseCost s input) _ _ h.lot
  obtain ⟨-, hrow⟩ := addTransaction_id h.row
  have hmid : books mid = books s₂ :=
    Frames.runIf (frames_callOther hidesOthers_books _) _ _ _ hserials
  have hposting : books s' = books s₄ :=
    frames_postWithLedgers hidesOthers_books _ _ _ _ _ _ h.posting
  simp only [books, Prod.mk.injEq] at hlots hmid hposting
  have hitems : mid.items = (withPurchaseCost s input).items := by
    rw [hmid.1, hrow]
    exact hlots.1
  have hledgers : mid.services.ledgers = s.services.ledgers := by
    rw [hmid.2.2, hrow]
    exact hlots.2.2
  have haverage := h.average
  refine ⟨item, mid, ?_⟩
  by_cases hmethod : item.costingMethod = .weightedAverage
  · rw [runIf, if_pos hmethod, averageAfterReceipt] at haverage
    obtain ⟨answer, s₅, hask, haverage⟩ := bind_eq_ok.mp haverage
    obtain ⟨rfl, rfl⟩ := askLedger_eq_ok hask
    rw [get_bind] at haverage
    obtain rfl := modify_eq_ok.mp haverage
    refine ⟨h.positive, h.found, hitems, hposting.2.1, hledgers, ?_, ?_⟩
    · rw [if_pos hmethod, hposting.2.2]
      rfl
    · rw [if_pos hmethod, hposting.1]
      change mid.items.modify input.itemId (Item.averaged ((((applyReceipt
        (input.place org) input.quantity input.unitCost (some id) mid).1.map
          WacResult.newWac).toOption).getD _)) = _
      cases (applyReceipt (input.place org) input.quantity input.unitCost (some id)
        mid).1 with
      | error e => rfl
      | ok result => rfl
  · rw [runIf, if_neg hmethod] at haverage
    obtain ⟨-, rfl⟩ := pure_eq_ok.mp haverage
    refine ⟨h.positive, h.found, hitems, hposting.2.1, hledgers, ?_, ?_⟩
    · rw [if_neg hmethod, hposting.2.2, hledgers]
    · rw [if_neg hmethod, hposting.1]

theorem issueCost_weightedAverage {item : Item} {lotId : Option UUID} {cost : FifoResult} {s₁ :
    InventoryStore β}
    {s : InventoryStore β} (hmethod : item.costingMethod = .weightedAverage)
    (h : issueCost org item input lotId s = .ok cost s₁) :
    cost = ⟨item.averageCost.getD 0, input.quantity * item.averageCost.getD 0, lotId⟩ := by
  rw [issueCost, hmethod] at h
  exact (pure_eq_ok.mp h).1

theorem createIssue_books
    (h : createIssue (withLedgers v) org input userId s = .ok id s') :
    ∃ item mid, BooksIssue org input id item s mid s' := by
  obtain ⟨item, lotId, cost, s₁, s₂, s₃, mid, s₅, h⟩ := createIssue_steps h
  obtain ⟨track, numbers, hserials⟩ := h.serials
  have hlots : books s₂ = books s :=
    (frames_consumeIssueLot hidesLots_books _ _ _ _ _ _ h.consume).trans
      (frames_issueCost hidesLots_books _ _ _ _ _ _ _ h.costing)
  obtain ⟨hid, hrow⟩ := addTransaction_id h.row
  have hmid : books mid = books s₃ :=
    Frames.runIf (frames_callOther hidesOthers_books _) _ _ _ hserials
  have hposting : books s' = books s₅ :=
    frames_postWithLedgers hidesOthers_books _ _ _ _ _ _ h.posting
  simp only [books, Prod.mk.injEq] at hlots hmid hposting
  have hitems : mid.items = s.items := by
    rw [hmid.1, hrow]
    exact hlots.1
  have hledgers : mid.services.ledgers = s.services.ledgers := by
    rw [hmid.2.2, hrow]
    exact hlots.2.2
  have htransactions : mid.transactions =
      s.transactions.insert (issueRow s org input cost).stored := by
    rw [hmid.2.1, hrow, hlots.2.1]
  have hkept : s₅.transactions = mid.transactions :=
    Frames.runIf (frames_averageAfterIssue hidesCosts_transactions.hidesAverages _ _ _ _) _ _ _
      h.average
  have hcost : item.costingMethod = .weightedAverage →
      ∃ t, s'.transactions = s.transactions.insert t ∧
        t.totalCost = numeric (input.quantity * item.averageCost.getD 0) ∧
          id = s.transactions.next := by
    intro hmethod
    refine ⟨_, (hposting.2.1.trans hkept).trans htransactions, ?_, ?_⟩
    · change numeric cost.totalCost = _
      rw [issueCost_weightedAverage hmethod h.costing]
    · rw [hid, hlots.2.1]
  have haverage := h.average
  refine ⟨item, mid, ?_⟩
  by_cases hmethod : item.costingMethod = .weightedAverage
  · rw [runIf, if_pos hmethod, averageAfterIssue] at haverage
    obtain ⟨answer, s₆, hask, haverage⟩ := bind_eq_ok.mp haverage
    obtain ⟨rfl, rfl⟩ := askLedger_eq_ok hask
    have hanswer : ((withLedgers v).applyIssue org input.itemId input.warehouseId
        input.quantity id mid).1.toOption =
          ((applyIssue (input.place org) input.quantity (some id) mid).1.map
            WacResult.newWac).toOption := rfl
    rw [hanswer] at haverage
    refine ⟨h.positive, h.found, h.enough, hitems, hposting.2.1.trans hkept, hcost, hledgers,
      ?_, ?_⟩
    · rw [if_pos hmethod, hposting.2.2]
      cases hresult : (applyIssue (input.place org) input.quantity (some id) mid).1 with
      | error e =>
        rw [hresult] at haverage
        obtain ⟨-, rfl⟩ := pure_eq_ok.mp haverage
        rfl
      | ok result =>
        rw [hresult] at haverage
        obtain rfl := modify_eq_ok.mp haverage
        rfl
    · rw [if_pos hmethod, hposting.1]
      cases hresult : (applyIssue (input.place org) input.quantity (some id) mid).1 with
      | error e =>
        rw [hresult] at haverage
        obtain ⟨-, rfl⟩ := pure_eq_ok.mp haverage
        exact hitems
      | ok result =>
        rw [hresult] at haverage
        obtain rfl := modify_eq_ok.mp haverage
        exact congrArg (Table.modify · input.itemId (Item.averaged result.newWac)) hitems
  · rw [runIf, if_neg hmethod] at haverage
    obtain ⟨-, rfl⟩ := pure_eq_ok.mp haverage
    refine ⟨h.positive, h.found, h.enough, hitems, hposting.2.1, hcost, hledgers, ?_, ?_⟩
    · rw [if_neg hmethod, hposting.2.2, hledgers]
    · rw [if_neg hmethod, hposting.1, hitems]

/-! ### Adjustments and transfers -/

theorem createAdjustment_books
    (h : createAdjustment (withLedgers v) org input userId s = .ok id s') :
    s'.items = s.items ∧ s'.services.ledgers = s.services.ledgers := by
  obtain ⟨item, lot, s₁, s₂, s₃, h⟩ := createAdjustment_steps h
  have hbalance : books s₁ = books s :=
    frames_adjustmentBalance hidesLots_books _ _ _ _ _ h.balance
  obtain ⟨-, hrow⟩ := addTransaction_id h.row
  have hadjust : books s₃ = books s₂ := frames_adjustLot hidesLots_books _ _ _ _ _ h.adjust
  have hposting : books s' = books s₃ :=
    frames_postWithLedgers hidesOthers_books _ _ _ _ _ _ h.posting
  simp only [books, Prod.mk.injEq] at hbalance hadjust hposting
  constructor
  · rw [hposting.1, hadjust.1, hrow]
    exact hbalance.1
  · rw [hposting.2.2, hadjust.2.2, hrow]
    exact hbalance.2.2

theorem createTransfer_books {ids : UUID × UUID}
    (h : createTransfer (withLedgers v) org input s = .ok ids s') :
    s'.items = s.items ∧ s'.services.ledgers = s.services.ledgers := by
  obtain ⟨toWarehouseId, item, lot, s₁, s₂, s₃, s₄, h⟩ := createTransfer_steps h
  obtain ⟨track, numbers, hserials⟩ := h.serials
  have hbalances : books s₁ = books s :=
    frames_transferBalances hidesLots_books _ _ _ _ _ _ h.balances
  obtain ⟨-, hissue⟩ := addTransaction_id h.issue
  obtain ⟨-, hreceipt⟩ := addTransaction_id h.receipt
  have hmove : books s₄ = books s₃ := frames_moveLot hidesLots_books _ _ _ _ _ h.move
  have hserials' : books s' = books s₄ :=
    Frames.runIf (frames_callOther hidesOthers_books _) _ _ _ hserials
  simp only [books, Prod.mk.injEq] at hbalances hmove hserials'
  constructor
  · rw [hserials'.1, hmove.1, hreceipt, hissue]
    exact hbalances.1
  · rw [hserials'.2.2, hmove.2.2, hreceipt, hissue]
    exact hbalances.2.2

/-! ### Any movement -/

def MovementCall.place (c : MovementCall) : StockKey := c.input.place c.organizationId

/-- What a movement did, by its kind: a receipt and an issue are valued, the others are not. -/
inductive Booked (c : MovementCall) (id : UUID) (s s' : InventoryStore (WacStore β)) : Prop where
  | receipt {item : Item} {mid : InventoryStore (WacStore β)}
      (type : c.input.transactionType.IsReceipt)
      (books : BooksReceipt c.organizationId c.input id item s mid s')
  | issue {item : Item} {mid : InventoryStore (WacStore β)}
      (type : c.input.transactionType.IsIssue)
      (books : BooksIssue c.organizationId c.input id item s mid s')
  | other (noReceipt : ¬ c.input.transactionType.IsReceipt)
      (noIssue : ¬ c.input.transactionType.IsIssue) (items : s'.items = s.items)
      (ledgers : s'.services.ledgers = s.services.ledgers)

variable {c : MovementCall}

/-- **One call** and the books. -/
theorem booked (h : c.run (withLedgers v) s = .ok id s') :
    Booked c id s s' := by
  cases createTransaction_eq_created h with
  | receipt htype hrun =>
    obtain ⟨item, mid, hbooks⟩ := createReceipt_books hrun
    exact .receipt htype hbooks
  | issue htype hrun =>
    obtain ⟨item, mid, hbooks⟩ := createIssue_books hrun
    exact .issue htype hbooks
  | adjustment htype hrun =>
    obtain ⟨hitems, hledgers⟩ := createAdjustment_books hrun
    have hother : ¬ c.input.transactionType.IsReceipt ∧ ¬ c.input.transactionType.IsIssue := by
      rcases htype with htype | htype | htype <;> rw [htype] <;> decide
    exact .other hother.1 hother.2 hitems hledgers
  | transfer htype ids hrun =>
    obtain ⟨hitems, hledgers⟩ := createTransfer_books hrun
    exact .other (by rw [htype]; decide) (by rw [htype]; decide) hitems hledgers

theorem net_of_isReceipt {type : TransactionType} (h : type.IsReceipt) (quantity : ℚ) :
    type.net quantity = quantity := by
  rcases h with rfl | rfl | rfl <;> rfl

theorem net_of_isIssue {type : TransactionType} (h : type.IsIssue) (quantity : ℚ) :
    type.net quantity = -quantity := by
  rcases h with rfl | rfl | rfl <;> rfl

theorem movements_of_run (h : c.run (withLedgers v) s = .ok id s')
    (htype : c.input.transactionType ≠ .transfer) :
    (∃ t, t.transactionType = c.input.transactionType ∧
      movements s'.transactions c.place = movements s.transactions c.place ++ [t]) ∧
      balanceAt s' c.place =
        balanceAt s c.place + c.input.transactionType.net (numeric c.input.quantity) ∧
      ∀ key, c.place ≠ key → movements s'.transactions key = movements s.transactions key := by
  rcases createTransaction_eq_ok h with ⟨-, t, htransactions, ht⟩ | ⟨htransfer, -⟩
  · have hmove : ∀ key, movements s'.transactions key =
        movements s.transactions key ++ if t.key = key then [t] else [] := fun key => by
      rw [htransactions, movements_insert]
    have hkey : t.key = c.place := ht.key
    have hplace : movements s'.transactions c.place = movements s.transactions c.place ++ [t] := by
      rw [hmove, if_pos hkey]
    refine ⟨⟨t, ht.type, hplace⟩, ?_, fun key hne => ?_⟩
    · rw [balanceAt_append hplace, ht.type, ht.quantity]
    · rw [hmove, hkey, if_neg hne, List.append_nil]
  · exact absurd htransfer htype

theorem movements_of_transfer (h : c.run (withLedgers v) s = .ok id s')
    (htype : c.input.transactionType = .transfer) :
    ∃ destination t t', t.transactionType = .transfer ∧ t'.transactionType = .transfer ∧
      destination.itemId = c.input.itemId ∧ c.place ≠ destination ∧
      movements s'.transactions c.place = movements s.transactions c.place ++ [t] ∧
      movements s'.transactions destination = movements s.transactions destination ++ [t'] ∧
      balanceAt s' c.place = balanceAt s c.place - numeric c.input.quantity ∧
      balanceAt s' destination = balanceAt s destination + numeric c.input.quantity ∧
      ∀ key, c.place ≠ key → destination ≠ key →
        movements s'.transactions key = movements s.transactions key := by
  rcases createTransaction_eq_ok h with ⟨hother, -⟩ |
    ⟨-, toWarehouseId, t, t', hapart, htransactions, ht, ht', -⟩
  · exact absurd htype hother
  · have hmove : ∀ key, movements s'.transactions key = movements s.transactions key ++
        ((if t.key = key then [t] else []) ++ if t'.key = key then [t'] else []) := fun key => by
      rw [htransactions, movements_insert, movements_insert, List.append_assoc]
    have hkey : t.key = c.place := ht.key
    have hne : c.place ≠ t'.key := by
      rw [ht'.key]
      exact fun heq => hapart (congrArg StockKey.warehouseId heq).symm
    have hsource : movements s'.transactions c.place =
        movements s.transactions c.place ++ [t] := by
      rw [hmove, if_pos hkey, if_neg hne.symm, List.append_nil]
    have hdestination : movements s'.transactions t'.key =
        movements s.transactions t'.key ++ [t'] := by
      rw [hmove, hkey, if_neg hne, if_pos rfl, List.nil_append]
    refine ⟨t'.key, t, t', ht.type, ht'.type, by rw [ht'.key], hne, hsource, hdestination, ?_, ?_,
      fun key hk hk' => ?_⟩
    · rw [balanceAt_append hsource, ht.type, ht.quantity, numeric_neg, TransactionType.net,
        sub_eq_add_neg]
    · rw [balanceAt_append hdestination, ht'.type, ht'.quantity, TransactionType.net]
    · rw [hmove, hkey, if_neg hk, if_neg hk', List.append_nil, List.append_nil]

theorem costingMethod_modify {items : Table Item} {itemId : UUID} {f : Item → Item}
    (hf : ∀ item, (f item).costingMethod = item.costingMethod) (k : UUID) :
    ((items.modify itemId f).get? k).map Item.costingMethod =
      (items.get? k).map Item.costingMethod := by
  rw [Table.get?_modify]
  split_ifs
  · rw [Option.map_map]
    exact congrArg (Option.map · (items.get? k)) (funext hf)
  · rfl

namespace Booked

variable {c : MovementCall} {id : UUID}

theorem costingMethod (h : Booked c id s s') (k : UUID) :
    (s'.items.get? k).map Item.costingMethod = (s.items.get? k).map Item.costingMethod := by
  cases h with
  | @receipt item mid htype h =>
    have hmid : (mid.items.get? k).map Item.costingMethod =
        (s.items.get? k).map Item.costingMethod := by
      rw [h.items, withPurchaseCost, costingMethod_modify]
      exact fun _ => rfl
    rw [h.after, ← hmid]
    split_ifs
    · rw [costingMethod_modify]
      exact fun _ => rfl
    · rfl
  | @issue item mid htype h =>
    rw [h.after]
    split_ifs
    · cases (applyIssue (c.input.place c.organizationId) c.input.quantity (some id) mid).1 with
      | error e => rfl
      | ok result =>
        rw [itemsAfterIssue, costingMethod_modify]
        exact fun _ => rfl
    · rfl
  | other hreceipt hissue hitems hledgers => rw [hitems]

theorem keyed (h : Booked c id s s') (hkeyed : s.services.ledgers.Keyed ItemWacLedger.key) :
    s'.services.ledgers.Keyed ItemWacLedger.key := by
  cases h with
  | @receipt item mid htype h =>
    rw [← h.before] at hkeyed
    rw [h.ledgers]
    split_ifs
    · exact keyed_applyResult (keyed_getSnapshot hkeyed)
    · rw [← h.before]
      exact hkeyed
  | @issue item mid htype h =>
    rw [← h.before] at hkeyed
    rw [h.ledgers]
    split_ifs
    · exact keyed_applyResult (keyed_getSnapshot hkeyed)
    · rw [← h.before]
      exact hkeyed
  | other hreceipt hissue hitems hledgers =>
    rw [hledgers]
    exact hkeyed

theorem ledgerAt_of_ne (h : Booked c id s s') (hkeyed : s.services.ledgers.Keyed ItemWacLedger.key)
    {k : StockKey} (hk : c.place ≠ k) : ledgerAt s' k = ledgerAt s k := by
  cases h with
  | @receipt item mid htype h =>
    rw [← h.before] at hkeyed
    rw [ledgerAt, h.ledgers]
    split_ifs
    · refine (at?_applyResult_of_ne (keyed_getSnapshot hkeyed) hk).trans ?_
      rw [← MovementCall.place, at?_getSnapshot_of_ne hkeyed hk, ledgerAt, ledgerAt, h.before]
    · rfl
  | @issue item mid htype h =>
    rw [← h.before] at hkeyed
    rw [ledgerAt, h.ledgers]
    split_ifs
    · refine (at?_applyResult_of_ne (keyed_getSnapshot hkeyed) hk).trans ?_
      rw [← MovementCall.place, at?_getSnapshot_of_ne hkeyed hk, ledgerAt, ledgerAt, h.before]
    · rfl
  | other hreceipt hissue hitems hledgers => rw [ledgerAt, hledgers, ledgerAt]

end Booked

/-! ### The ledger of the stock that moved -/

def openingWac (s : InventoryStore β) (itemId : UUID) : ℚ :=
  ((s.items.get? itemId).bind Item.averageCost).getD 0

def openingRow (s : InventoryStore β) (key : StockKey) : ItemWacLedger :=
  ledgerRow key (openingWac s key.itemId) (balanceAt s key)
    (numeric (balanceAt s key * openingWac s key.itemId)) none

section Place

variable {org id : UUID} {input : TransactionInput} {item : Item}
  {mid : InventoryStore (WacStore β)}

theorem getSnapshot_opening {key : StockKey} (hnone : ledgerAt s key = none) :
    getSnapshot key s =
      if balanceAt s key ≤ 0 then (⟨0, 0, 0⟩, s.services.ledgers)
      else (⟨balanceAt s key, openingWac s key.itemId,
        numeric (balanceAt s key * openingWac s key.itemId)⟩,
          writeLedger (openingRow s key) s.services.ledgers) :=
  getSnapshot_of_none hnone

theorem at?_getSnapshot_of_none {key : StockKey}
    (hkeyed : s.services.ledgers.Keyed ItemWacLedger.key) (hnone : ledgerAt s key = none) :
    (getSnapshot key s).2.at? ItemWacLedger.key key =
      if balanceAt s key ≤ 0 then none else some (openingRow s key) := by
  rw [getSnapshot_opening hnone]
  split_ifs
  · exact hnone
  · exact (at?_writeLedger hkeyed key).trans (if_pos key_ledgerRow)

theorem BooksReceipt.openingWac_mid (h : BooksReceipt org input id item s mid s')
    (k : UUID) : openingWac mid k = openingWac s k := by
  rw [openingWac, openingWac, h.items, withPurchaseCost]
  dsimp only
  rw [Table.get?_modify]
  split_ifs
  · cases s.items.get? k <;> rfl
  · rfl

theorem BooksReceipt.ledgerAt_of_neg (h : BooksReceipt org input id item s mid s')
    (hmethod : item.costingMethod = .weightedAverage) (hcost : input.unitCost < 0) :
    ledgerAt s' (input.place org) =
      (getSnapshot (input.place org) mid).2.at? ItemWacLedger.key
        (input.place org) := by
  rw [ledgerAt, h.ledgers, if_pos hmethod, applyReceipt]
  dsimp only
  rw [calculateReceiptCost, if_neg (not_le.mpr h.positive), if_pos hcost]
  rfl

theorem BooksReceipt.ledgerAt_of_nonneg (h : BooksReceipt org input id item s mid s')
    (hkeyed : s.services.ledgers.Keyed ItemWacLedger.key)
    (hmethod : item.costingMethod = .weightedAverage) (hcost : 0 ≤ input.unitCost) :
    let result := receiptResult (getSnapshot (input.place org) mid).1 input.quantity
      input.unitCost
    ledgerAt s' (input.place org) = some (ledgerRow (input.place org)
      result.newWac result.newBalanceQty result.newBalanceValue (some id)) := by
  rw [← h.before] at hkeyed
  rw [ledgerAt, h.ledgers, if_pos hmethod, applyReceipt]
  dsimp only
  rw [calculateReceiptCost, if_neg (not_le.mpr h.positive), if_neg (not_lt.mpr hcost)]
  exact at?_applyResult_ok (keyed_getSnapshot hkeyed)

theorem BooksIssue.ledgerAt_of_le (h : BooksIssue org input id item s mid s')
    (hkeyed : s.services.ledgers.Keyed ItemWacLedger.key)
    (hmethod : item.costingMethod = .weightedAverage) {ledger : ItemWacLedger}
    (hledger : ledgerAt s (input.place org) = some ledger)
    (hqty : input.quantity ≤ ledger.quantityOnHand) :
    ledgerAt s' (input.place org) = some (ledgerRow (input.place org)
      ledger.currentWac (ledger.quantityOnHand - input.quantity)
        (numeric ((ledger.quantityOnHand - input.quantity) * ledger.currentWac)) (some id)) := by
  have hmid : ledgerAt mid (input.place org) = some ledger := by
    rw [ledgerAt, h.before]
    exact hledger
  rw [← h.before] at hkeyed
  rw [ledgerAt, h.ledgers, if_pos hmethod, applyIssue, getSnapshot_of_some hmid]
  dsimp only
  rw [calculateIssueCost, if_neg (not_le.mpr h.positive), if_neg (not_lt.mpr hqty)]
  exact at?_applyResult_ok hkeyed

end Place

/-! ### A stock -/

def averageRoom (averageCost : Option ℚ) : InventoryStore (WacStore Unit) where
  items := Table.empty.insert {
    organizationId := 9
    costingMethod := .weightedAverage
    averageCost := averageCost }
  warehouses := (Table.empty.insert { organizationId := 9 }).insert { organizationId := 9 }
  services := { others := () }

def moveAt (transactionType : TransactionType) (warehouseId : UUID) (quantity unitCost : ℚ) :
    MovementCall where
  organizationId := 9
  userId := 1
  input := {
    transactionType := transactionType
    transactionDate := 100
    itemId := 0
    warehouseId := warehouseId
    quantity := quantity
    unitCost := unitCost }

end DotmacErp.Inventory
