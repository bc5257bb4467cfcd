import DotmacErp.Inventory.Steps

/-!
# The running balance of stock

Every movement carries the balance of its item and warehouse after it, worked out by the function
that created it. The balance that is asked for is summed up again from all movements, under the
sign of each type. `Follows` says that the two agree after a call: the balance is what the latest
movement says, it has changed by what the new movement says, and it is not negative.

They agree for every movement but two kinds (`Reconciles`). Scrap is created as an adjustment,
whose quantity has a sign, while the balance counts scrap as stock that leaves: whatever is
scrapped, the two differ. And a quantity finer than the columns is rounded in the row of the
movement and in the balance after it separately, which tells when it leaves stock and lies just
half-way between two millionths.

`running_balance_iff` says that these are the only ones: over a whole run the balances agree
exactly when no accepted movement is of either kind.
-/

namespace DotmacErp.Inventory

open Relational Session Rounding InventoryTransactionService

variable {β : Type} {s s' : InventoryStore β} {v : Services β}

def balanceAt (s : InventoryStore β) (key : StockKey) : ℚ :=
  getCurrentBalance s key.organizationId key.itemId key.warehouseId

/-- The balance of the stock follows its movements. -/
structure Follows (s s' : InventoryStore β) (key : StockKey) : Prop where
  latest : ∀ t ∈ (movements s'.transactions key).getLast?, balanceAt s' key = t.quantityAfter
  change : ∀ new, movements s'.transactions key = movements s.transactions key ++ new →
    ∀ t ∈ new, balanceAt s' key = balanceAt s key + (t.quantityAfter - t.quantityBefore)
  nonneg : 0 ≤ balanceAt s' key

/-- A call of `create_transaction`. -/
structure MovementCall where
  organizationId : UUID
  input : TransactionInput
  userId : UUID

namespace MovementCall

def run (v : Services β) (c : MovementCall) : InventorySession β UUID :=
  createTransaction v c.organizationId c.input c.userId

def after (v : Services β) (s : InventoryStore β) (c : MovementCall) : InventoryStore β :=
  commit (c.run v) s

end MovementCall

/-- By how much a movement changes the stock of its warehouse, as its creator sees it. -/
def TransactionInput.change (input : TransactionInput) : ℚ :=
  match input.transactionType with
  | .receipt | .returned | .assembly => input.quantity
  | .issue | .sale | .disassembly | .transfer => -input.quantity
  | .adjustment | .countAdjustment | .scrap => input.quantity

/-- The movement's record and the balance agree: what is scrapped is nothing, and what leaves
stock does not lie half-way between two millionths. -/
def TransactionInput.Reconciles (input : TransactionInput) : Prop :=
  if input.transactionType = .scrap then numeric input.quantity = 0
  else ¬ (input.change < 0 ∧ Tie 6 input.change)

instance (input : TransactionInput) : Decidable input.Reconciles :=
  inferInstanceAs (Decidable (ite _ _ _))

/-- The records follow the balance at each call of the run. -/
def FollowsThroughout (v : Services β) : InventoryStore β → List MovementCall → Prop
  | _, [] => True
  | s, c :: cs => (∀ key, Follows s (c.after v s) key) ∧ FollowsThroughout v (c.after v s) cs

/-- What reconciles is asked of each call of the run that returns. -/
def ReconcilesThroughout (v : Services β) : InventoryStore β → List MovementCall → Prop
  | _, [] => True
  | s, c :: cs =>
    (returns (c.run v) s → c.input.Reconciles) ∧ ReconcilesThroughout v (c.after v s) cs

/-! ### What a call records -/

/-- The row of a movement that changes the stock at `key`. -/
structure Movement (s : InventoryStore β) (place : StockKey) (type : TransactionType)
    (quantity change : ℚ) (t : InventoryTransaction) : Prop where
  key : t.key = place
  type : t.transactionType = type
  quantity : t.quantity = numeric quantity
  before : t.quantityBefore = numeric (balanceAt s place)
  after : t.quantityAfter = numeric (balanceAt s place + change)
  enough : 0 ≤ balanceAt s place → 0 ≤ balanceAt s place + change

theorem balanceAt_congr (h : s'.transactions = s.transactions) (key : StockKey) :
    balanceAt s' key = balanceAt s key := by
  rw [balanceAt, balanceAt, getCurrentBalance, getCurrentBalance, h]

variable {t : InventoryTransaction} {id : UUID}

theorem addTransaction_id (h : addTransaction t s = .ok id s') :
    id = s.transactions.next ∧ s' = { s with transactions := s.transactions.insert t.stored } := by
  rw [addTransaction, get_bind] at h
  simp only [bind_eq_ok, set_eq_ok, pure_eq_ok] at h
  obtain ⟨-, _, rfl, rfl, rfl⟩ := h
  exact ⟨rfl, rfl⟩

theorem addTransaction_eq_ok
    (h : addTransaction t s = .ok id s') : s'.transactions = s.transactions.insert t.stored := by
  rw [(addTransaction_id h).2]

theorem hidesLots_transactions : HidesLots (β := β) InventoryStore.transactions :=
  fun _ _ _ => rfl

theorem hidesCosts_transactions : HidesCosts (β := β) InventoryStore.transactions :=
  fun _ _ _ => rfl

variable {key : StockKey} {type : TransactionType} {quantity change : ℚ}

theorem Movement.of_added {s₁ s₂ : InventoryStore β} (hadd : addTransaction t s₁ = .ok id s₂)
    (hkeep : s₁.transactions = s.transactions) (hlater : s'.transactions = s₂.transactions)
    (hkey : t.key = key) (htype : t.transactionType = type) (hquantity : t.quantity = quantity)
    (hbefore : t.quantityBefore = balanceAt s key)
    (hafter : t.quantityAfter = balanceAt s key + change)
    (henough : 0 ≤ balanceAt s key → 0 ≤ balanceAt s key + change) :
    ∃ t', s'.transactions = s.transactions.insert t' ∧
      Movement s key type quantity change t' := by
  refine ⟨t.stored, by rw [hlater, addTransaction_eq_ok hadd, hkeep], ?_⟩
  exact {
    key := hkey
    type := htype
    quantity := congrArg numeric hquantity
    before := congrArg numeric hbefore
    after := congrArg numeric hafter
    enough := henough }

variable {org userId : UUID} {input : TransactionInput}

theorem createReceipt_eq_ok (h : createReceipt v org input userId s = .ok id s') :
    ∃ t, s'.transactions = s.transactions.insert t ∧
      Movement s ⟨org, input.itemId, input.warehouseId⟩ input.transactionType
        input.quantity input.quantity t := by
  obtain ⟨item, lotId, s₁, s₂, s₃, s₄, h⟩ := createReceipt_steps h
  exact Movement.of_added h.row (h.first hidesLots_transactions) (h.later hidesCosts_transactions)
    rfl rfl rfl rfl rfl fun hnonneg => add_nonneg hnonneg h.positive.le

theorem createIssue_eq_ok (h : createIssue v org input userId s = .ok id s') :
    ∃ t, s'.transactions = s.transactions.insert t ∧
      Movement s ⟨org, input.itemId, input.warehouseId⟩ input.transactionType
        input.quantity (-input.quantity) t := by
  obtain ⟨item, lotId, cost, s₁, s₂, s₃, s₄, s₅, h⟩ := createIssue_steps h
  exact Movement.of_added h.row (h.first hidesLots_transactions)
    (h.later hidesCosts_transactions.hidesAverages) rfl rfl rfl rfl (sub_eq_add_neg _ _)
    fun _ => by
      rw [← sub_eq_add_neg]
      exact sub_nonneg.mpr h.enough

theorem createAdjustment_eq_ok (h : createAdjustment v org input userId s = .ok id s') :
    ∃ t, s'.transactions = s.transactions.insert t ∧
      Movement s ⟨org, input.itemId, input.warehouseId⟩ input.transactionType
        input.quantity input.quantity t := by
  obtain ⟨item, lot, s₁, s₂, s₃, h⟩ := createAdjustment_steps h
  have hlots : s₁.transactions = s.transactions :=
    frames_adjustmentBalance hidesLots_transactions _ _ _ _ _ h.balance
  have hlater : s'.transactions = s₂.transactions :=
    (frames_postInRealTime hidesCosts_transactions.hidesServices _ _ _ _ _ _ _ h.posting).trans
      (frames_adjustLot hidesLots_transactions _ _ _ _ _ h.adjust)
  refine Movement.of_added h.row hlots hlater rfl rfl rfl rfl rfl fun hnonneg => ?_
  rcases le_or_gt 0 input.quantity with hq | hq
  · exact add_nonneg hnonneg hq
  · have hcovered : |input.quantity| ≤
        balanceAt s ⟨org, input.itemId, input.warehouseId⟩ := h.enough hq
    rw [abs_of_neg hq] at hcovered
    linarith

/-- A transfer takes its quantity from one warehouse, where there was enough, and adds it to
another one. -/
theorem createTransfer_eq_ok {ids : UUID × UUID}
    (h : createTransfer v org input s = .ok ids s') :
    ∃ toWarehouseId t t', toWarehouseId ≠ input.warehouseId ∧
      s'.transactions = (s.transactions.insert t).insert t' ∧
      Movement s ⟨org, input.itemId, input.warehouseId⟩ .transfer
        (-input.quantity) (-input.quantity) t ∧
      Movement s ⟨org, input.itemId, toWarehouseId⟩ .transfer
        input.quantity input.quantity t' ∧ 0 < input.quantity := by
  obtain ⟨toWarehouseId, item, lot, s₁, s₂, s₃, s₄, h⟩ := createTransfer_steps h
  obtain ⟨track, numbers, hserials⟩ := h.serials
  have hlots : s₁.transactions = s.transactions :=
    frames_transferBalances hidesLots_transactions _ _ _ _ _ _ h.balances
  have hlater : s'.transactions = s₃.transactions :=
    (Frames.runIf (frames_callService hidesCosts_transactions.hidesServices _) _ _ _ hserials).trans
      (frames_moveLot hidesLots_transactions _ _ _ _ _ h.move)
  have hsource := balanceAt_congr hlots ⟨org, input.itemId, input.warehouseId⟩
  have hdest := balanceAt_congr hlots ⟨org, input.itemId, toWarehouseId⟩
  have henough : input.quantity ≤
      balanceAt s ⟨org, input.itemId, input.warehouseId⟩ := by
    rw [← hsource]
    exact h.enough
  refine ⟨toWarehouseId, _, _, h.apart.symm,
    by rw [hlater, addTransaction_eq_ok h.receipt, addTransaction_eq_ok h.issue, hlots], ?_, ?_,
    h.positive⟩
  · exact {
      key := rfl
      type := rfl
      quantity := rfl
      before := congrArg numeric hsource
      after := congrArg (fun b => numeric (b + -input.quantity)) hsource
      enough := fun _ => by
        rw [← sub_eq_add_neg]
        exact sub_nonneg.mpr henough }
  · exact {
      key := rfl
      type := rfl
      quantity := rfl
      before := congrArg numeric hdest
      after := congrArg (fun b => numeric (b + input.quantity)) hdest
      enough := fun hnonneg => add_nonneg hnonneg h.positive.le }

theorem createTransaction_eq_ok
    (h : createTransaction v org input userId s = .ok id s') :
    (input.transactionType ≠ .transfer ∧ ∃ t, s'.transactions = s.transactions.insert t ∧
      Movement s ⟨org, input.itemId, input.warehouseId⟩ input.transactionType
        input.quantity input.change t) ∨
    (input.transactionType = .transfer ∧ ∃ toWarehouseId t t',
      toWarehouseId ≠ input.warehouseId ∧
      s'.transactions = (s.transactions.insert t).insert t' ∧
      Movement s ⟨org, input.itemId, input.warehouseId⟩ .transfer
        (-input.quantity) (-input.quantity) t ∧
      Movement s ⟨org, input.itemId, toWarehouseId⟩ .transfer
        input.quantity input.quantity t' ∧ 0 < input.quantity) := by
  have hchange : input.change = match input.transactionType with
    | .receipt | .returned | .assembly => input.quantity
    | .issue | .sale | .disassembly | .transfer => -input.quantity
    | .adjustment | .countAdjustment | .scrap => input.quantity := rfl
  cases htype : input.transactionType with
  | receipt | returned | assembly =>
    simp only [createTransaction, htype] at h hchange
    rw [hchange, ← htype]
    exact .inl ⟨by rw [htype]; decide, createReceipt_eq_ok h⟩
  | issue | sale | disassembly =>
    simp only [createTransaction, htype] at h hchange
    rw [hchange, ← htype]
    exact .inl ⟨by rw [htype]; decide, createIssue_eq_ok h⟩
  | adjustment | countAdjustment | scrap =>
    simp only [createTransaction, htype] at h hchange
    rw [hchange, ← htype]
    exact .inl ⟨by rw [htype]; decide, createAdjustment_eq_ok h⟩
  | transfer =>
    simp only [createTransaction, htype] at h
    obtain ⟨ids, htransfer, -⟩ := map_eq_ok.mp h
    exact .inr ⟨rfl, createTransfer_eq_ok htransfer⟩

/-! ### What the balance makes of it -/

structure Balanced (s : InventoryStore β) (key : StockKey) : Prop where
  atScale : AtScale 6 (balanceAt s key)
  nonneg : 0 ≤ balanceAt s key
  latest : ∀ t ∈ (movements s.transactions key).getLast?, balanceAt s key = t.quantityAfter

theorem movements_insert (transactions : Table InventoryTransaction) (t : InventoryTransaction)
    (key : StockKey) :
    movements (transactions.insert t) key =
      movements transactions key ++ if t.key = key then [t] else [] := by
  simp only [movements, Table.select, Table.insert, List.filter_append, List.map_append]
  by_cases h : t.key = key <;> simp [h]

theorem balanceAt_append (h : movements s'.transactions key = movements s.transactions key ++ [t]) :
    balanceAt s' key = balanceAt s key + t.transactionType.net t.quantity := by
  change ((movements s'.transactions key).map fun t => t.transactionType.net t.quantity).sum =
    ((movements s.transactions key).map fun t => t.transactionType.net t.quantity).sum + _
  rw [h]
  simp

theorem balanceAt_same (h : movements s'.transactions key = movements s.transactions key) :
    balanceAt s' key = balanceAt s key := by
  change ((movements s'.transactions key).map _).sum = ((movements s.transactions key).map _).sum
  rw [h]

theorem Follows.of_same (hs : Balanced s key)
    (h : movements s'.transactions key = movements s.transactions key) : Follows s s' key where
  latest := by
    rw [h, balanceAt_same h]
    exact hs.latest
  change := fun new hnew t ht => by
    rw [h, List.self_eq_append_right] at hnew
    simp [hnew] at ht
  nonneg := by
    rw [balanceAt_same h]
    exact hs.nonneg

/-- A movement is followed when the balance after it, rounded, is the balance before it and what
counts of it. -/
theorem follows_iff (hs : Balanced s key) (ht : Movement s key type quantity change t)
    (h : movements s'.transactions key = movements s.transactions key ++ [t]) :
    Follows s s' key ↔
      numeric (balanceAt s key + change) = balanceAt s key + type.net (numeric quantity) := by
  have hbalance : balanceAt s' key = balanceAt s key + type.net (numeric quantity) := by
    rw [balanceAt_append h, ht.type, ht.quantity]
  have hlast : (movements s'.transactions key).getLast? = some t := by
    rw [h, List.getLast?_concat]
  constructor
  · intro hfollows
    rw [← hbalance, hfollows.latest t hlast, ht.after]
  · intro heq
    have hafter : balanceAt s' key = t.quantityAfter := by rw [hbalance, ← heq, ht.after]
    have hbefore : t.quantityBefore = balanceAt s key := by
      rw [ht.before, numeric, halfUp_of_atScale hs.atScale]
    exact {
      latest := fun t' ht' => by
        rw [hlast] at ht'
        rw [hafter, Option.some.inj ht']
      change := fun new hnew t' ht' => by
        rw [h, List.append_cancel_left_eq] at hnew
        rw [← hnew, List.mem_singleton] at ht'
        rw [ht', hbefore, hafter]
        ring
      nonneg := by
        rw [hafter, ht.after]
        exact halfUp_nonneg (ht.enough hs.nonneg) }

theorem Balanced.of_follows (h : Follows s s' key)
    (hscale : AtScale 6 (balanceAt s' key)) : Balanced s' key :=
  ⟨hscale, h.nonneg, h.latest⟩

/-- The database rounds a balance as it rounds the change, unless the change leaves stock and
ties. -/
theorem numeric_add_iff {b : ℚ} (hb : AtScale 6 b) (h : 0 ≤ b + change) :
    numeric (b + change) = b + numeric change ↔ ¬ (change < 0 ∧ Tie 6 change) := by
  rw [numeric, halfUp_add_of_atScale hb h]
  split_ifs with htie
  · simp [htie]
  · simp [htie]

theorem numeric_add_neg_iff {b : ℚ} (hb : AtScale 6 b) (h : 0 ≤ b + change) :
    numeric (b + change) = b + -numeric change ↔ numeric change = 0 := by
  rw [numeric, halfUp_add_of_atScale hb h]
  constructor
  · intro heq
    split_ifs at heq with htie
    · -- twice a number of millionths would be one millionth
      obtain ⟨z, hz⟩ := atScale_halfUp 6 change
      rw [hz] at heq
      have htwice : (2 * z + 1 : ℚ) = 0 := by
        field_simp at heq
        linarith
      have hodd : 2 * z + 1 = 0 := by exact_mod_cast htwice
      omega
    · linarith
  · intro hzero
    have hround : halfUp 6 change = 0 := hzero
    rw [if_neg fun htie => halfUp_ne_zero_of_tie htie.2 hzero, numeric, hround]
    ring

theorem follows_iff_reconciles (hs : Balanced s key) (htype : input.transactionType ≠ .transfer)
    (ht : Movement s key input.transactionType input.quantity input.change t)
    (h : movements s'.transactions key = movements s.transactions key ++ [t]) :
    Follows s s' key ↔ input.Reconciles := by
  rw [follows_iff hs ht h]
  have henough := ht.enough hs.nonneg
  have hplus := numeric_add_iff hs.atScale henough
  have hminus := numeric_add_neg_iff hs.atScale henough
  cases hcase : input.transactionType with
  | transfer => exact absurd hcase htype
  | scrap =>
    simp only [TransactionInput.Reconciles, TransactionInput.change, TransactionType.net,
      hcase] at hminus ⊢
    exact hminus
  | receipt | returned | assembly | adjustment | countAdjustment =>
    simp only [TransactionInput.Reconciles, TransactionInput.change, TransactionType.net,
      hcase] at hplus ⊢
    exact hplus
  | issue | sale | disassembly =>
    simp only [TransactionInput.Reconciles, TransactionInput.change, TransactionType.net,
      hcase] at hplus ⊢
    rw [numeric_neg] at hplus
    exact hplus

theorem atScale_net (type : TransactionType) (quantity : ℚ) :
    AtScale 6 (type.net (numeric quantity)) := by
  have hplus := atScale_halfUp 6 quantity
  have hminus := atScale_halfUp 6 (-quantity)
  rw [halfUp_neg] at hminus
  cases type <;> first | exact hplus | exact hminus

theorem atScale_balanceAt (hs : Balanced s key) (ht : Movement s key type quantity change t)
    (h : movements s'.transactions key = movements s.transactions key ++ [t]) :
    AtScale 6 (balanceAt s' key) := by
  rw [balanceAt_append h, ht.type, ht.quantity]
  exact hs.atScale.add (atScale_net type quantity)

/-- **One call**: an accepted movement is followed everywhere exactly when it reconciles, and
every balance is then at scale again. -/
theorem follows_of_accepted (hs : ∀ key, Balanced s key) {c : MovementCall}
    (h : c.run v s = .ok id s') :
    ((∀ key, Follows s s' key) ↔ c.input.Reconciles) ∧ ∀ key, AtScale 6 (balanceAt s' key) := by
  rcases createTransaction_eq_ok h with ⟨htype, t, htransactions, ht⟩ |
    ⟨htype, toWarehouseId, t, t', hother, htransactions, ht, ht', hpositive⟩
  · have hmove : ∀ key, movements s'.transactions key =
        movements s.transactions key ++ if t.key = key then [t] else [] := fun key => by
      rw [htransactions, movements_insert]
    have hsame : ∀ key, t.key ≠ key →
        movements s'.transactions key = movements s.transactions key := fun key hne => by
      rw [hmove, if_neg hne, List.append_nil]
    have hhere := hmove t.key
    rw [if_pos rfl, ht.key] at hhere
    refine ⟨⟨fun hall => ?_, fun hreconciles key => ?_⟩, fun key => ?_⟩
    · exact (follows_iff_reconciles (hs _) htype ht hhere).mp (hall _)
    · by_cases hkey : t.key = key
      · rw [← hkey, ht.key]
        exact (follows_iff_reconciles (hs _) htype ht hhere).mpr hreconciles
      · exact .of_same (hs key) (hsame key hkey)
    · by_cases hkey : t.key = key
      · rw [← hkey, ht.key]
        exact atScale_balanceAt (hs _) ht hhere
      · rw [balanceAt_same (hsame key hkey)]
        exact (hs key).atScale
  · have hmove : ∀ key, movements s'.transactions key = movements s.transactions key ++
        ((if t.key = key then [t] else []) ++ if t'.key = key then [t'] else []) := fun key => by
      rw [htransactions, movements_insert, movements_insert, List.append_assoc]
    have hne : t'.key ≠ t.key := by
      rw [ht.key, ht'.key]
      exact fun heq => hother (congrArg StockKey.warehouseId heq)
    have hsource := hmove t.key
    rw [if_pos rfl, if_neg hne, List.append_nil, ht.key] at hsource
    have hdest := hmove t'.key
    rw [if_neg hne.symm, if_pos rfl, List.nil_append, ht'.key] at hdest
    have hsame : ∀ key, t.key ≠ key → t'.key ≠ key →
        movements s'.transactions key = movements s.transactions key := fun key hk hk' => by
      rw [hmove, if_neg hk, if_neg hk', List.append_nil, List.append_nil]
    -- what arrives is followed, and what leaves is unless it ties
    have harrives : Follows s s' ⟨c.organizationId, c.input.itemId, toWarehouseId⟩ := by
      rw [follows_iff (hs _) ht' hdest, TransactionType.net]
      exact (numeric_add_iff (hs _).atScale (ht'.enough (hs _).nonneg)).mpr
        fun htie => absurd htie.1 (not_lt.mpr hpositive.le)
    have hleaves : Follows s s' ⟨c.organizationId, c.input.itemId, c.input.warehouseId⟩ ↔
        c.input.Reconciles := by
      rw [follows_iff (hs _) ht hsource, TransactionType.net,
        numeric_add_iff (hs _).atScale (ht.enough (hs _).nonneg)]
      simp only [TransactionInput.Reconciles, TransactionInput.change, htype]
      simp
    refine ⟨⟨fun hall => hleaves.mp (hall _), fun hreconciles key => ?_⟩, fun key => ?_⟩
    · by_cases hk : t.key = key
      · rw [← hk, ht.key]
        exact hleaves.mpr hreconciles
      · by_cases hk' : t'.key = key
        · rw [← hk', ht'.key]
          exact harrives
        · exact .of_same (hs key) (hsame key hk hk')
    · by_cases hk : t.key = key
      · rw [← hk, ht.key]
        exact atScale_balanceAt (hs _) ht hsource
      · by_cases hk' : t'.key = key
        · rw [← hk', ht'.key]
          exact atScale_balanceAt (hs _) ht' hdest
        · rw [balanceAt_same (hsame key hk hk')]
          exact (hs key).atScale

/-! ### Runs -/

/-- From balances that stand, they follow the movements throughout a run exactly when every
accepted movement reconciles. -/
theorem followsThroughout_iff (hs : ∀ key, Balanced s key) (cs : List MovementCall) :
    FollowsThroughout v s cs ↔ ReconcilesThroughout v s cs := by
  induction cs generalizing s with
  | nil => exact Iff.rfl
  | cons c cs ih =>
    rw [FollowsThroughout, ReconcilesThroughout]
    cases hrun : c.run v s with
    | error e s' =>
      have hafter : c.after v s = s := by rw [MovementCall.after, commit, hrun]
      have hraised : ¬ returns (c.run v) s = true := by simp [returns, hrun]
      rw [hafter]
      constructor
      · rintro ⟨-, hrest⟩
        exact ⟨fun haccepted => absurd haccepted hraised, (ih hs).mp hrest⟩
      · rintro ⟨-, hrest⟩
        exact ⟨fun key => .of_same (hs key) rfl, (ih hs).mpr hrest⟩
    | ok id s' =>
      have hafter : c.after v s = s' := commit_of_ok hrun
      have haccepted : returns (c.run v) s = true := returns_iff.mpr ⟨id, s', hrun⟩
      obtain ⟨hiff, hscale⟩ := follows_of_accepted hs hrun
      rw [hafter, hiff]
      constructor
      · rintro ⟨hreconciles, hrest⟩
        have hs' : ∀ key, Balanced s' key := fun key =>
          .of_follows (hiff.mpr hreconciles key) (hscale key)
        exact ⟨fun _ => hreconciles, (ih hs').mp hrest⟩
      · rintro ⟨hreconciles, hrest⟩
        have hs' : ∀ key, Balanced s' key := fun key =>
          .of_follows (hiff.mpr (hreconciles haccepted) key) (hscale key)
        exact ⟨hreconciles haccepted, (ih hs').mpr hrest⟩

/-- **The running balance**: from a stock without movements, the balances follow the movements
after every call of a run exactly when every movement that is accepted reconciles: it scraps
nothing, and takes no quantity from stock that lies half-way between two millionths. -/
theorem running_balance_iff (v : Services β) {s : InventoryStore β}
    (hs : s.transactions = Table.empty) (cs : List MovementCall) :
    FollowsThroughout v s cs ↔ ReconcilesThroughout v s cs := by
  have hnone : ∀ key, movements s.transactions key = [] := fun key => by
    rw [hs]
    rfl
  have hzero : ∀ key, balanceAt s key = 0 := fun key => by
    change ((movements s.transactions key).map _).sum = 0
    rw [hnone]
    rfl
  refine followsThroughout_iff (fun key => ?_) cs
  exact {
    atScale := by
      rw [hzero]
      exact atScale_zero 6
    nonneg := (hzero key).ge
    latest := fun t ht => by simp [hnone] at ht }

/-! ### Scrap -/

def plainServices : Services Unit where
  normalizeSerialNumbers := .ok
  receiveSerials := fun _ _ _ _ => .ok ()
  issueSerials := fun _ _ _ => .ok ()
  transferSerials := fun _ _ _ _ => .ok ()
  applyReceipt := fun _ _ _ _ unitCost _ _ => (.ok unitCost, ())
  applyIssue := fun _ _ _ _ _ _ => (.error (.other "Insufficient stock"), ())
  realTimeValuation := fun _ _ => false
  postTransaction := fun _ _ _ _ => .ok ()

/-- An item of organization 9 in standard costing, and two warehouses. -/
def stockroom : InventoryStore Unit where
  items := Table.empty.insert {
    organizationId := 9
    costingMethod := .standardCost
    standardCost := some 5 }
  warehouses := (Table.empty.insert { organizationId := 9 }).insert { organizationId := 9 }
  services := ()

def move (transactionType : TransactionType) (quantity : ℚ) (toWarehouseId : Option UUID) :
    MovementCall where
  organizationId := 9
  userId := 1
  input := {
    transactionType := transactionType
    transactionDate := 100
    itemId := 0
    warehouseId := 0
    quantity := quantity
    unitCost := 4
    toWarehouseId := toWarehouseId }

def scrapping : List MovementCall := [move .receipt 10 none, move .scrap 3 none]

/-- **Scrap breaks the balance**: of ten pieces three are scrapped; the movement says thirteen
are left and the balance seven. -/
theorem scrap_breaks_balance :
    ¬ ∀ (v : Services Unit) (s : InventoryStore Unit) (cs : List MovementCall),
      s.transactions = Table.empty → FollowsThroughout v s cs := by
  intro h
  have hfollows := (h plainServices stockroom scrapping rfl).2.1 ⟨9, 0, 0⟩
  let final := scrapping.foldl (MovementCall.after plainServices) stockroom
  have hlast : ((movements final.transactions ⟨9, 0, 0⟩).getLast?).any
      (fun t => decide (balanceAt final ⟨9, 0, 0⟩ ≠ t.quantityAfter)) = true := by
    decide +kernel
  obtain ⟨t, ht, hne⟩ := (Option.any_eq_true _ _).mp hlast
  exact of_decide_eq_true hne (hfollows.latest t ht)

/-- Stock is received, moved to the other warehouse, sold and counted. -/
def ordinaryMovements : List MovementCall :=
  [move .receipt 10 none, move .transfer 4 (some 1), move .sale (5 / 2) none,
    move .countAdjustment (-1) none, move .issue 7 none]

theorem running_balance_iff_sample :
    FollowsThroughout plainServices stockroom ordinaryMovements ∧
      balanceAt (ordinaryMovements.foldl (MovementCall.after plainServices) stockroom)
        ⟨9, 0, 0⟩ = 5 / 2 := by
  refine ⟨(running_balance_iff plainServices rfl ordinaryMovements).mpr ?_, by decide +kernel⟩
  exact ⟨fun _ => by decide +kernel, fun _ => by decide +kernel, fun _ => by decide +kernel,
    fun _ => by decide +kernel, fun _ => by decide +kernel, trivial⟩

end DotmacErp.Inventory
