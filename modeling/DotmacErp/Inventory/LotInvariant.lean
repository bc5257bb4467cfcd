import DotmacErp.Foundation.Scripts
import DotmacErp.Inventory.LotMovements
import DotmacErp.Inventory.LotQuantities
import DotmacErp.Inventory.LotSerials
import DotmacErp.Inventory.StockBalances

/-!
# The quantities of lot balances over whole runs

Three services write the balances of lots, and each works out the three quantities of a balance by
hand. Over a run of their operations the quantities of every balance belong together
(`lot_quantities_belong_together`), as long as the operations avoid what they do not look at: a
receipt and a transfer into a balance in quarantine, a release and a consumption there, an
adjustment that leaves less than what is allocated, a release of a negative quantity, and an
allocation that lies half-way between two millionths.

Issues, quarantine and its release keep the quantities together in any case.
-/

namespace DotmacErp.Inventory

open Relational Session Rounding InventoryTransactionService InventoryBalanceService

variable {β : Type} {s s' : InventoryStore β} {v : Services β}

/-! ### Operations on lots -/

inductive LotOperation where
  | move (call : MovementCall)
  | allocate (input : AllocationInput)
  | deallocate (input : AllocationInput)
  | allocateFrom (org : Option UUID) (lotId : UUID) (quantity : ℚ)
  | consumeFrom (org : Option UUID) (lotId : UUID) (quantity : ℚ)
  | quarantine (org : Option UUID) (lotId : UUID)
  | release (org : Option UUID) (lotId : UUID)

/-- What stock may be received into a balance: none in quarantine that would be available. -/
def InventoryLotBalance.Admits (balance : InventoryLotBalance) (quantity : ℚ) : Prop :=
  balance.isQuarantined = true →
    numeric (balance.quantityOnHand + quantity - balance.quantityAllocated) = 0

/-- What is allocated stays covered when the quantity is added. -/
def InventoryLotBalance.Spares (balance : InventoryLotBalance) (quantity : ℚ) : Prop :=
  0 ≤ numeric (balance.quantityOnHand + quantity - balance.quantityAllocated) ∧
    balance.Admits quantity

/-- What may be allocated of a balance: stock there is, and in quarantine all of it. -/
def InventoryLotBalance.Fits (balance : InventoryLotBalance) (allocated : ℚ) : Prop :=
  0 ≤ numeric allocated ∧ numeric allocated ≤ balance.quantityOnHand ∧
    if balance.isQuarantined then numeric (balance.quantityOnHand - allocated) = 0
    else ¬ Tie 6 allocated

def InventoryLotBalance.Yields (balance : InventoryLotBalance) (quantity : ℚ) : Prop :=
  balance.isQuarantined = true →
    numeric (balance.quantityOnHand - quantity - balance.quantityAllocated) ≤ 0

instance (balance : InventoryLotBalance) (quantity : ℚ) : Decidable (balance.Admits quantity) :=
  inferInstanceAs (Decidable (_ → _))

instance (balance : InventoryLotBalance) (quantity : ℚ) : Decidable (balance.Spares quantity) :=
  inferInstanceAs (Decidable (_ ∧ _))

instance (balance : InventoryLotBalance) (allocated : ℚ) : Decidable (balance.Fits allocated) :=
  inferInstanceAs (Decidable (_ ∧ _ ∧ _))

instance (balance : InventoryLotBalance) (quantity : ℚ) : Decidable (balance.Yields quantity) :=
  inferInstanceAs (Decidable (_ → _))

/-- A receipt and a transfer enter balances that admit them, and an adjustment leaves what is
allocated. -/
def MovementCall.SparesLots (s : InventoryStore β) (c : MovementCall) : Prop :=
  ∀ item ∈ s.items.get? c.input.itemId, item.InLots →
    (c.input.transactionType.IsReceipt → ∀ lotId ∈ lotEntered s item c.input,
      ∀ balance ∈ balanceOf s lotId c.input.warehouseId, balance.Admits c.input.quantity) ∧
    (c.input.transactionType.IsAdjustment → ∀ lotId ∈ c.input.lotId,
      ∀ balance ∈ balanceOf s lotId c.input.warehouseId, balance.Spares c.input.quantity) ∧
    (c.input.transactionType = .transfer → ∀ lotId ∈ c.input.lotId,
      ∀ toWarehouseId ∈ c.input.toWarehouseId, ∀ balance ∈ balanceOf s lotId toWarehouseId,
        balance.Admits c.input.quantity)

instance (s : InventoryStore β) (c : MovementCall) : Decidable (c.SparesLots s) :=
  inferInstanceAs (Decidable (∀ item ∈ s.items.get? c.input.itemId, item.InLots →
    (_ → ∀ lotId ∈ lotEntered s item c.input,
      ∀ balance ∈ balanceOf s lotId c.input.warehouseId, _) ∧
    (_ → ∀ lotId ∈ c.input.lotId, ∀ balance ∈ balanceOf s lotId c.input.warehouseId, _) ∧
    (_ → ∀ lotId ∈ c.input.lotId, ∀ toWarehouseId ∈ c.input.toWarehouseId,
      ∀ balance ∈ balanceOf s lotId toWarehouseId, _)))

def answersYes (x : InventorySession β Bool) (s : InventoryStore β) : Bool :=
  match x s with
  | .ok answer _ => answer
  | .error _ _ => false

namespace LotOperation

def run (v : Services β) : LotOperation → InventorySession β PUnit
  | move c => (fun _ => ⟨⟩) <$> c.run v
  | allocate input => (fun _ => ⟨⟩) <$> allocateInventory input
  | deallocate input => (fun _ => ⟨⟩) <$> deallocateInventory input
  | allocateFrom org lotId quantity =>
    LotSerialService.allocateFromLot org lotId quantity
  | consumeFrom org lotId quantity =>
    LotSerialService.consumeFromLot org lotId quantity
  | quarantine org lotId => LotSerialService.quarantineLot org lotId
  | release org lotId => LotSerialService.releaseQuarantine org lotId

def after (v : Services β) (s : InventoryStore β) (op : LotOperation) : InventoryStore β :=
  commit (op.run v) s

/-- The operation is on a lot with stock, not on the lot kept for the allocations of an item
without lots. -/
def OnStock (s : InventoryStore β) : LotOperation → Prop
  | allocate input => ∀ item ∈ s.items.get? input.itemId, item.InLots
  | deallocate input => input.lotId.isSome = true
  | _ => True

/-- The call leaves in the lot what is allocated of it. -/
def Spares (v : Services β) (s : InventoryStore β) : LotOperation → Prop
  | move c => returns (c.run v) s = true → c.SparesLots s
  | allocate input => answersYes (allocateInventory input) s = true →
    ∀ lotId ∈ input.lotId, ∀ balance ∈ balanceFor s input lotId,
      balance.row.Fits (balance.row.quantityAllocated + input.quantity)
  | deallocate input => ∀ lotId ∈ input.lotId, ∀ balance ∈ balanceFor s input lotId,
      balance.row.Fits (balance.row.released input.quantity)
  | allocateFrom org lotId quantity =>
    returns (LotSerialService.allocateFromLot org lotId quantity) s = true →
      0 < quantity → ¬ Tie 6 quantity
  | consumeFrom org lotId quantity =>
    returns (LotSerialService.consumeFromLot org lotId quantity) s = true →
      ∀ taken ∈ LotSerialService.spread InventoryLotBalance.quantityOnHand
        (LotSerialService.getLotBalances s lotId) quantity, taken.1.row.Yields taken.2
  | quarantine _ _ => True
  | release _ _ => True

instance (s : InventoryStore β) (op : LotOperation) : Decidable (op.OnStock s) := by
  cases op with
  | allocate input =>
    exact inferInstanceAs (Decidable (∀ item ∈ s.items.get? input.itemId, item.InLots))
  | deallocate input => exact inferInstanceAs (Decidable (input.lotId.isSome = true))
  | _ => exact inferInstanceAs (Decidable True)

instance (v : Services β) (s : InventoryStore β) (op : LotOperation) :
    Decidable (op.Spares v s) := by
  cases op with
  | move c => exact inferInstanceAs (Decidable (returns (c.run v) s = true → c.SparesLots s))
  | allocate input =>
    exact inferInstanceAs (Decidable (answersYes (allocateInventory input) s = true →
      ∀ lotId ∈ input.lotId, ∀ balance ∈ balanceFor s input lotId,
        balance.row.Fits (balance.row.quantityAllocated + input.quantity)))
  | deallocate input =>
    exact inferInstanceAs (Decidable (∀ lotId ∈ input.lotId,
      ∀ balance ∈ balanceFor s input lotId,
        balance.row.Fits (balance.row.released input.quantity)))
  | allocateFrom org lotId quantity =>
    exact inferInstanceAs (Decidable (_ → _ → ¬ Tie 6 quantity))
  | consumeFrom org lotId quantity =>
    exact inferInstanceAs (Decidable (_ →
      ∀ taken ∈ LotSerialService.spread InventoryLotBalance.quantityOnHand
        (LotSerialService.getLotBalances s lotId) quantity, taken.1.row.Yields taken.2))
  | quarantine | release => exact inferInstanceAs (Decidable True)

end LotOperation

def lotSystem (v : Services β) : System (InventoryStore β) LotOperation :=
  .ofFunction (fun s => s.lotBalances = Table.empty) (LotOperation.after v)

/-! ### Movements -/

section Movements

variable {org : UUID} {item : Item} {input : TransactionInput}
  {balances : Table InventoryLotBalance}

theorem all_openBalance {P : InventoryLotBalance → Prop} (lotId warehouseId : UUID)
    (lot : InventoryLot) (h : balances.All P) (hP : P (freshBalance lotId lot warehouseId)) :
    (openBalance lotId lot warehouseId balances).All P := by
  rw [openBalance]
  split_ifs
  · exact h
  · exact h.insert hP

theorem getD_cases {P : InventoryLotBalance → Prop} {lotId warehouseId : UUID}
    {lot : InventoryLot} (hof : ∀ balance ∈ balanceOf s lotId warehouseId, P balance)
    (hfresh : P (freshBalance lotId lot warehouseId)) :
    P ((balanceOf s lotId warehouseId).getD (freshBalance lotId lot warehouseId)) := by
  cases h : balanceOf s lotId warehouseId with
  | none => exact hfresh
  | some balance => exact hof balance h

theorem admits_freshBalance (lotId warehouseId : UUID) (lot : InventoryLot) (quantity : ℚ) :
    (freshBalance lotId lot warehouseId).Admits quantity :=
  fun h => absurd h Bool.false_ne_true

variable {balance : InventoryLotBalance} {quantity : ℚ}

theorem InventoryLotBalance.Sound.deposit
    (h : balance.Sound) (hq : 0 ≤ quantity) (hadmits : balance.Admits quantity) :
    (balance.deposit quantity).Sound :=
  ⟨h.atScale.deposit, (consistent_deposit_iff h.consistent h.atScale hq).mpr hadmits⟩

theorem InventoryLotBalance.Sound.withdraw
    (h : balance.Sound) (hq : quantity ≤ balance.quantityOnHand) (hyields :
      balance.Yields quantity) :
    (balance.withdraw quantity).Sound := by
  refine ⟨atScale_withdraw, (consistent_withdraw_iff h.consistent h.atScale hq).mpr fun hin => ?_⟩
  have hle := hyields hin
  by_cases hcut : balance.quantityAllocated > balance.quantityOnHand - quantity
  · simp only [InventoryLotBalance.withdraw, if_pos hcut, sub_self]
    exact halfUp_zero 6
  · simp only [InventoryLotBalance.withdraw, if_neg hcut]
    exact le_antisymm hle (halfUp_nonneg (by linarith [not_lt.mp hcut]))

theorem InventoryLotBalance.Sound.issue
    (h : balance.Sound) (hquarantined : balance.isQuarantined = false)
    (hq : quantity ≤ balance.quantityOnHand) : (balance.withdraw quantity).Sound :=
  h.withdraw hq fun hin => absurd (hquarantined.symm.trans hin) Bool.false_ne_true

theorem InventoryLotBalance.Sound.available_le (h : balance.Sound) :
    balance.quantityAvailable ≤ balance.quantityOnHand := by
  have h0 := h.consistent.allocated_nonneg
  have hle := h.consistent.allocated_le
  rw [h.consistent.available]
  split_ifs <;> linarith

theorem all_receives {lotId : UUID} (h : s.lotBalances.All InventoryLotBalance.Sound)
    (hq : 0 < input.quantity) (hr : ReceivesLot item input lotId s s')
    (hadmits : ∀ lotId ∈ lotEntered s item input,
      ∀ balance ∈ balanceOf s lotId input.warehouseId, balance.Admits input.quantity) :
    s'.lotBalances.All InventoryLotBalance.Sound := by
  cases hr with
  | into lot entered found ofItem lots balanceId balances balance =>
    have hopen := all_openBalance lotId input.warehouseId lot h
      (sound_freshBalance lotId input.warehouseId lot)
    rw [balances]
    refine hopen.modify fun row hrow => (hopen _ _ hrow).deposit hq.le ?_
    rw [balance] at hrow
    rw [← Option.some.inj hrow]
    exact getD_cases (P := fun balance => balance.Admits input.quantity) (hadmits lotId entered)
      (admits_freshBalance lotId input.warehouseId lot _)
  | opened lot lots new ofItem balances =>
    rw [balances]
    exact h.insert (sound_openingBalance item lotId hq.le)

theorem all_withdrawLayers {consumed : List (FifoLayer × ℚ)}
    (h : balances.All InventoryLotBalance.Sound)
    (hnodup : (consumed.map fun taken => taken.1.balanceId).Nodup)
    (hlayers : ∀ taken ∈ consumed, ∃ balance, balances.get? taken.1.balanceId = some balance ∧
      balance.isQuarantined = false ∧ taken.2 ≤ balance.quantityOnHand) :
    (withdrawLayers consumed balances).All InventoryLotBalance.Sound := by
  induction consumed generalizing balances with
  | nil => exact h
  | cons taken consumed ih =>
    rw [List.map_cons, List.nodup_cons] at hnodup
    obtain ⟨balance, hget, hquarantined, hle⟩ := hlayers taken List.mem_cons_self
    refine ih (h.modify fun row hrow => ?_) hnodup.2 fun later hlater => ?_
    · rw [hget] at hrow
      obtain rfl := Option.some.inj hrow
      exact (h _ _ hget).issue hquarantined hle
    · obtain ⟨balance', hget', hrest⟩ := hlayers later (List.mem_cons_of_mem _ hlater)
      have hne : later.1.balanceId ≠ taken.1.balanceId := fun heq =>
        hnodup.1 (List.mem_map.mpr ⟨later, hlater, heq⟩)
      exact ⟨balance', by rw [Table.get?_modify_of_ne hne, hget'], hrest⟩

theorem all_issues {lotId : Option UUID} (h : s.lotBalances.All InventoryLotBalance.Sound)
    (hi : IssuesLot org item input s s' lotId) :
    s'.lotBalances.All InventoryLotBalance.Sound := by
  cases hi with
  | oldest fifo asked lots enough balances =>
    rw [balances]
    refine all_withdrawLayers h (nodup_consumption (nodup_fifoLayers _ _ _) _)
      fun taken htaken => ?_
    obtain ⟨hmem, hle⟩ := mem_consumption htaken
    obtain ⟨balance, hget, -, honHand, hquarantined, -⟩ := (isLayer_of_mem hmem).balance
    exact ⟨balance, hget, hquarantined, honHand ▸ hle⟩
  | asked fifo trackLots asked lots balances =>
    obtain ⟨hget, -, -⟩ := lotBalance?_eq_some asked.found
    have hrow := h _ _ hget
    rw [balances]
    refine h.modify fun row hget' => ?_
    rw [hget] at hget'
    obtain rfl := Option.some.inj hget'
    exact hrow.issue asked.quarantined (asked.available.trans hrow.available_le)
  | none notInLots lots =>
    rw [(Prod.mk.inj lots).2]
    exact h

theorem all_adjusts {lotId : UUID}
    (h : s.lotBalances.All InventoryLotBalance.Sound) (ha : AdjustsLot input lotId balance s s')
    (hspares : ∀ lotId ∈ input.lotId, ∀ balance ∈ balanceOf s lotId input.warehouseId,
      balance.Spares input.quantity) :
    s'.lotBalances.All InventoryLotBalance.Sound := by
  obtain ⟨lot, balanceId, hget, hbalance, hfound, hadjust⟩ := ha.balances
  have hopen := all_openBalance lotId input.warehouseId lot h
    (sound_freshBalance lotId input.warehouseId lot)
  have hrow := hopen _ _ hfound
  have hsum : 0 ≤ balance.quantityOnHand + input.quantity := by
    rcases le_or_gt 0 input.quantity with hq | hq
    · exact add_nonneg hrow.consistent.onHand_nonneg hq
    · have hcovers := ha.covers hq
      rw [abs_of_neg hq] at hcovers
      linarith
  -- a fresh balance has nothing, so that the adjustment adds to it
  have hspared : balance.Spares input.quantity := by
    cases hof : balanceOf s lotId input.warehouseId with
    | some found =>
      rw [hof, Option.getD_some] at hbalance
      rw [hbalance]
      exact hspares lotId ha.asked found hof
    | none =>
      rw [hof, Option.getD_none] at hbalance
      rw [hbalance]
      refine ⟨halfUp_nonneg ?_, admits_freshBalance lotId input.warehouseId lot _⟩
      rw [hbalance] at hsum
      exact hsum.trans_eq (sub_zero _).symm
  rw [hadjust]
  refine hopen.modify fun row hrow' => ?_
  rw [hfound] at hrow'
  obtain rfl := Option.some.inj hrow'
  exact ⟨hrow.atScale.adjust,
    (InventoryLotBalance.consistent_adjust_iff hrow.consistent hrow.atScale hsum).mpr hspared⟩

theorem all_moves {toWarehouseId lotId : UUID} {source : Stored InventoryLotBalance}
    {destination : InventoryLotBalance} (h : s.lotBalances.All InventoryLotBalance.Sound)
    (hq : 0 < input.quantity) (hapart : input.warehouseId ≠ toWarehouseId)
    (hm : MovesLot input toWarehouseId lotId source destination s s')
    (hadmits : ∀ balance ∈ balanceOf s lotId toWarehouseId, balance.Admits input.quantity) :
    s'.lotBalances.All InventoryLotBalance.Sound := by
  obtain ⟨lot, destinationId, -, hdestination, hfound, hbalances⟩ := hm.balances
  obtain ⟨hget, -, hplace⟩ := lotBalance?_eq_some hm.found
  have hopen := all_openBalance lotId toWarehouseId lot h
    (sound_freshBalance lotId toWarehouseId lot)
  have hsource := get?_openBalance_of_some lotId toWarehouseId lot hget
  have hrow := h _ _ hget
  have hwithdraw : ((openBalance lotId lot toWarehouseId s.lotBalances).modify source.id
      (·.withdraw input.quantity)).All InventoryLotBalance.Sound := by
    refine hopen.modify fun row hrow' => ?_
    rw [hsource] at hrow'
    obtain rfl := Option.some.inj hrow'
    exact hrow.issue hm.quarantined (hm.available.trans hrow.available_le)
  have hother :
    destinationId ≠ source.id := destination_ne hapart hplace hdestination hsource hfound
  have hadmitted : destination.Admits input.quantity := by
    rw [hdestination]
    exact getD_cases (P := fun balance => balance.Admits input.quantity) hadmits
      (admits_freshBalance lotId toWarehouseId lot _)
  rw [hbalances]
  refine hwithdraw.modify fun row hrow' => (hwithdraw _ _ hrow').deposit hq.le ?_
  rw [Table.get?_modify_of_ne hother, hfound] at hrow'
  rwa [← Option.some.inj hrow']

end Movements

theorem all_of_move (h : s.lotBalances.All InventoryLotBalance.Sound) {c : MovementCall} {id : UUID}
    (hspares : c.SparesLots s) (hrun : c.run v s = .ok id s') :
    s'.lotBalances.All InventoryLotBalance.Sound := by
  cases createTransaction_eq_created hrun with
  | receipt htype hrun =>
    obtain ⟨item, lotId, t, hq, hitem, -, -, hlots⟩ := createReceipt_lots hrun
    split_ifs at hlots with hin
    · obtain ⟨lot, -, hreceives⟩ := hlots
      exact all_receives h hq hreceives ((hspares item hitem.found hin).1 htype)
    · rw [(Prod.mk.inj hlots).2]
      exact h
  | issue htype hrun =>
    obtain ⟨item, lotId, t, -, -, -, -, hlots⟩ := createIssue_lots hrun
    exact all_issues h hlots
  | adjustment htype hrun =>
    obtain ⟨item, t, hitem, -, -, hlots⟩ := createAdjustment_lots hrun
    split_ifs at hlots with hin
    · obtain ⟨lotId, balance, hadjusts⟩ := hlots
      exact all_adjusts h hadjusts ((hspares item hitem.found hin).2.1 htype)
    · rw [(Prod.mk.inj hlots).2]
      exact h
  | transfer htype ids hrun =>
    obtain ⟨toWarehouseId, item, t, t', hq, hto, hapart, hitem, -, -, -, hlots⟩ :=
      createTransfer_lots hrun
    split_ifs at hlots with hin
    · obtain ⟨lotId, source, destination, hmoves⟩ := hlots
      exact all_moves h hq hapart hmoves
        ((hspares item hitem.found hin).2.2 htype lotId hmoves.asked toWarehouseId hto)
    · rw [(Prod.mk.inj hlots).2]
      exact h

/-! ### Allocations -/

section Allocations

variable {input : AllocationInput} {lotId : UUID}

theorem InventoryLotBalance.Sound.reallocate {balance : InventoryLotBalance} {allocated : ℚ}
    (h : balance.Sound) (hfits : balance.Fits allocated) : (balance.reallocate allocated).Sound :=
  ⟨h.atScale.reallocate,
    (consistent_reallocate_iff h.atScale h.consistent.onHand_nonneg).mpr hfits⟩

theorem InventoryLotBalance.Sound.activate {balance : InventoryLotBalance} (h : balance.Sound) :
    ({ balance with isActive := true } : InventoryLotBalance).Sound :=
  ⟨⟨h.atScale.onHand, h.atScale.allocated⟩,
    ⟨h.consistent.allocated_nonneg, h.consistent.allocated_le, h.consistent.available⟩⟩

theorem balanceFor_eq_some {balance : Stored InventoryLotBalance}
    (h : balanceFor s input lotId = some balance) :
    s.lotBalances.get? balance.id = some balance.row := by
  rw [balanceFor, Option.bind_eq_some_iff] at h
  obtain ⟨_, -, h⟩ := h
  rw [getBalanceForLot, Option.bind_eq_some_iff] at h
  obtain ⟨warehouseId, -, h⟩ := h
  exact (lotBalance?_eq_some h).1

variable {answer : Bool}

theorem all_of_modified {balance : Stored InventoryLotBalance} {lotId : UUID}
    {f : InventoryLotBalance → InventoryLotBalance} {b : Bool}
    (h : s.lotBalances.All InventoryLotBalance.Sound)
    (hget : s.lotBalances.get? balance.id = some balance.row) (hf : (f balance.row).Sound)
    (hrun :
      (modifyLotBalance balance.id f >>= fun _ => syncLegacyLotSnapshot lotId none >>= fun _ =>
      pure answer) s = .ok b s') : s'.lotBalances.All InventoryLotBalance.Sound := by
  obtain ⟨_, s₁, hmodify, hrun⟩ := bind_eq_ok.mp hrun
  obtain ⟨_, s₂, hsync, hrun⟩ := bind_eq_ok.mp hrun
  obtain ⟨-, rfl⟩ := pure_eq_ok.mp hrun
  rw [(syncLegacyLotSnapshot_eq_ok hsync).2, (modifyLotBalance_eq_ok hmodify).2]
  refine h.modify fun row hrow => ?_
  rw [hget] at hrow
  rwa [← Option.some.inj hrow]

theorem all_of_allocate (h : s.lotBalances.All InventoryLotBalance.Sound)
    (hon : (LotOperation.allocate input).OnStock s)
    (hspares : (LotOperation.allocate input).Spares v s)
    (hrun : allocateInventory input s = .ok answer s') :
    s'.lotBalances.All InventoryLotBalance.Sound := by
  have hrefused :
    ∀ {r : InventoryStore β}, (pure false : InventorySession β Bool) s = .ok answer r →
      r.lotBalances.All InventoryLotBalance.Sound := fun hpure => by
    obtain ⟨-, rfl⟩ := pure_eq_ok.mp hpure
    exact h
  have hyes : answer = true → answersYes (allocateInventory input) s = true := fun hanswer => by
    rw [answersYes, hrun, hanswer]
  rw [allocateInventory, get_bind] at hrun
  split_ifs at hrun
  · exact hrefused hrun
  cases hitem : (s.items.get? input.itemId).filter fun item =>
      item.organizationId = input.organizationId with
  | none =>
    rw [hitem] at hrun
    exact hrefused hrun
  | some item =>
    rw [hitem] at hrun
    dsimp only at hrun
    have hin : (item.trackLots || decide (item.costingMethod = .fifo)) = true := by
      rcases hon item (Option.filter_eq_some_iff.mp hitem).1 with hfifo | htrack
      · simp [hfifo]
      · simp [htrack]
    rw [if_pos hin] at hrun
    cases hlot : input.lotId with
    | none =>
      rw [hlot] at hrun
      exact hrefused hrun
    | some lotId =>
      rw [hlot] at hrun
      dsimp only at hrun
      rw [allocateLot, get_bind] at hrun
      cases hbalance : balanceFor s input lotId with
      | none =>
        rw [hbalance] at hrun
        exact hrefused hrun
      | some balance =>
        rw [hbalance] at hrun
        dsimp only at hrun
        split_ifs at hrun
        · exact hrefused hrun
        · have hget := balanceFor_eq_some hbalance
          have hanswer : answer = true := by
            obtain ⟨_, s₁, -, hrun⟩ := bind_eq_ok.mp hrun
            obtain ⟨_, s₂, -, hrun⟩ := bind_eq_ok.mp hrun
            exact (pure_eq_ok.mp hrun).1
          exact all_of_modified (f := (·.allocate input.quantity)) h hget ((h _ _ hget).reallocate
            (hspares (hyes hanswer) lotId hlot balance hbalance)).activate hrun

theorem all_of_deallocate (h : s.lotBalances.All InventoryLotBalance.Sound)
    (hon : (LotOperation.deallocate input).OnStock s)
    (hspares : (LotOperation.deallocate input).Spares v s)
    (hrun : deallocateInventory input s = .ok answer s') :
    s'.lotBalances.All InventoryLotBalance.Sound := by
  obtain ⟨lotId, hlot⟩ := Option.isSome_iff_exists.mp hon
  rw [deallocateInventory, hlot] at hrun
  dsimp only at hrun
  rw [deallocateLot, get_bind] at hrun
  cases hbalance : balanceFor s input lotId with
  | none =>
    rw [hbalance] at hrun
    obtain ⟨-, rfl⟩ := pure_eq_ok.mp hrun
    exact h
  | some balance =>
    rw [hbalance] at hrun
    have hget := balanceFor_eq_some hbalance
    exact all_of_modified (f := (·.deallocate input.quantity)) h hget
      ((h _ _ hget).reallocate (hspares lotId hlot balance hbalance)) hrun

end Allocations

/-! ### Lots by themselves -/

section LotSerials

open LotSerialService

variable {org : Option UUID} {lotId : UUID} {quantity : ℚ}

variable {has : InventoryLotBalance → ℚ} {balances : List (Stored InventoryLotBalance)}

theorem mem_spread
    {taken : Stored InventoryLotBalance × ℚ} (h : taken ∈ spread has balances quantity) :
    taken.1 ∈ balances ∧ 0 < taken.2 ∧ taken.2 ≤ has taken.1.row := by
  induction balances generalizing quantity with
  | nil => exact absurd h (by simp [spread])
  | cons balance balances ih =>
    rw [spread] at h
    split_ifs at h with hdone hnone
    · exact absurd h (by simp)
    · obtain ⟨hmem, hrest⟩ := ih h
      exact ⟨List.mem_cons_of_mem _ hmem, hrest⟩
    · rcases List.mem_cons.mp h with rfl | h
      · exact ⟨List.mem_cons_self, lt_min (not_le.mp hnone) (not_le.mp hdone), min_le_left _ _⟩
      · obtain ⟨hmem, hrest⟩ := ih h
        exact ⟨List.mem_cons_of_mem _ hmem, hrest⟩

theorem not_tie_of_mem_spread {taken : Stored InventoryLotBalance × ℚ}
    (hscale : ∀ balance ∈ balances, AtScale 6 (has balance.row)) (htie : ¬ Tie 6 quantity)
    (h : taken ∈ spread has balances quantity) : ¬ Tie 6 taken.2 := by
  induction balances generalizing quantity with
  | nil => exact absurd h (by simp [spread])
  | cons balance balances ih =>
    have hrest : ∀ balance ∈ balances, AtScale 6 (has balance.row) := fun balance hbalance =>
      hscale balance (List.mem_cons_of_mem _ hbalance)
    rw [spread] at h
    split_ifs at h
    · exact absurd h (by simp)
    · exact ih hrest htie h
    · have htaken := not_tie_min (hscale balance List.mem_cons_self) htie
      rcases List.mem_cons.mp h with rfl | h
      · exact htaken.1
      · exact ih hrest htaken.2 h

theorem nodup_spread (h : (balances.map Stored.id).Nodup) (quantity : ℚ) :
    ((spread has balances quantity).map fun taken => taken.1.id).Nodup := by
  refine h.sublist ?_
  clear h
  induction balances generalizing quantity with
  | nil => exact List.Sublist.refl _
  | cons balance balances ih =>
    rw [spread]
    split_ifs
    · exact List.nil_sublist _
    · exact (ih _).cons _
    · exact (ih _).cons_cons _

variable {u : PUnit}

theorem all_of_modifyEach {f : ℚ → InventoryLotBalance → InventoryLotBalance}
    {spreading : List (Stored InventoryLotBalance × ℚ)}
    (h : s.lotBalances.All InventoryLotBalance.Sound)
    (hnodup : (spreading.map fun taken => taken.1.id).Nodup)
    (hf : ∀ taken ∈ spreading, s.lotBalances.get? taken.1.id = some taken.1.row ∧
      (f taken.2 taken.1.row).Sound) (hrun : modifyEach f spreading s = .ok u s') :
    s'.lotBalances.All InventoryLotBalance.Sound := by
  induction spreading generalizing s with
  | nil =>
    obtain ⟨-, rfl⟩ := pure_eq_ok.mp hrun
    exact h
  | cons taken spreading ih =>
    rw [List.map_cons, List.nodup_cons] at hnodup
    rw [modifyEach] at hrun
    obtain ⟨_, s₁, hmodify, hrun⟩ := bind_eq_ok.mp hrun
    obtain ⟨-, hbalances⟩ := modifyLotBalance_eq_ok hmodify
    obtain ⟨hget, hsound⟩ := hf taken List.mem_cons_self
    refine ih ?_ hnodup.2 (fun later hlater => ?_) hrun
    · rw [hbalances]
      refine h.modify fun row hrow => ?_
      rw [hget] at hrow
      rwa [← Option.some.inj hrow]
    · obtain ⟨hget', hsound'⟩ := hf later (List.mem_cons_of_mem _ hlater)
      have hne : later.1.id ≠ taken.1.id := fun heq =>
        hnodup.1 (List.mem_map.mpr ⟨later, hlater, heq⟩)
      exact ⟨by rw [hbalances, Table.get?_modify_of_ne hne, hget'], hsound'⟩

theorem nodup_getLotBalances : ((getLotBalances s lotId).map Stored.id).Nodup :=
  (List.filter_sublist.map Stored.id).nodup s.lotBalances.nodup_ids

theorem all_of_allocateFrom (h : s.lotBalances.All InventoryLotBalance.Sound)
    (hspares : (LotOperation.allocateFrom org lotId quantity).Spares v s)
    (hrun : allocateFromLot org lotId quantity s = .ok u s') :
    s'.lotBalances.All InventoryLotBalance.Sound := by
  have htie := hspares (returns_iff.mpr ⟨u, s', hrun⟩)
  rw [allocateFromLot] at hrun
  obtain ⟨lot, -, hrun⟩ := reads (.bind .get fun _ => .orRaise _ _) hrun
  rw [get_bind, refuse_bind, refuse_bind] at hrun
  obtain ⟨hquarantined, -, hrun⟩ := hrun
  obtain ⟨_, s₁, heach, hrun⟩ := bind_eq_ok.mp hrun
  rw [(syncLegacyLotSnapshot_eq_ok hrun).2]
  refine all_of_modifyEach h (nodup_spread nodup_getLotBalances _) (fun taken htaken => ?_) heach
  obtain ⟨hmem, hpositive, hle⟩ := mem_spread htaken
  have hget := (Table.mem_select.mp hmem).1
  have hrow := h _ _ hget
  have hfree : taken.1.row.isQuarantined = false := by
    simp only [List.any_eq_true, not_exists, not_and, Bool.not_eq_true] at hquarantined
    exact hquarantined _ hmem
  have havailable := hrow.consistent.available
  rw [hfree, if_neg Bool.false_ne_true] at havailable
  have h0 := hrow.consistent.allocated_nonneg
  refine ⟨hget, hrow.reallocate ⟨halfUp_nonneg (by linarith), ?_, ?_⟩⟩
  · -- what is allocated is available, so that all of it is on hand
    have hmono : numeric (taken.1.row.quantityAllocated + taken.2) ≤
        numeric taken.1.row.quantityOnHand := halfUp_mono (by linarith)
    rwa [show numeric taken.1.row.quantityOnHand = _ from halfUp_of_atScale hrow.atScale.onHand]
      at hmono
  · rw [hfree, if_neg Bool.false_ne_true]
    have htaken' : ¬ Tie 6 taken.2 := by
      refine not_tie_of_mem_spread (fun balance hbalance => ?_) (htie ?_) htaken
      · have hother := h _ _ (Table.mem_select.mp hbalance).1
        rw [hother.consistent.available]
        split_ifs
        · exact atScale_zero 6
        · exact hother.atScale.onHand.sub hother.atScale.allocated
      · by_contra hneg
        have hempty : spread InventoryLotBalance.quantityAvailable (getLotBalances s lotId)
            quantity = [] := by
          cases getLotBalances s lotId with
          | nil => rfl
          | cons balance balances => rw [spread, if_pos (not_lt.mp hneg)]
        rw [hempty] at htaken
        exact absurd htaken (by simp)
    intro htied
    refine htaken' ((tie_sub_iff hrow.atScale.allocated.neg).mp ?_)
    rwa [sub_neg_eq_add, add_comm]

theorem all_of_consumeFrom (h : s.lotBalances.All InventoryLotBalance.Sound)
    (hspares : (LotOperation.consumeFrom org lotId quantity).Spares v s)
    (hrun : LotSerialService.consumeFromLot org lotId quantity s = .ok u s') :
    s'.lotBalances.All InventoryLotBalance.Sound := by
  have hyields := hspares (returns_iff.mpr ⟨u, s', hrun⟩)
  rw [LotSerialService.consumeFromLot] at hrun
  obtain ⟨lot, -, hrun⟩ := reads (.bind .get fun _ => .orRaise _ _) hrun
  rw [get_bind, refuse_bind] at hrun
  obtain ⟨-, hrun⟩ := hrun
  obtain ⟨_, s₁, heach, hrun⟩ := bind_eq_ok.mp hrun
  rw [(syncLegacyLotSnapshot_eq_ok hrun).2]
  refine all_of_modifyEach h (nodup_spread nodup_getLotBalances _) (fun taken htaken => ?_) heach
  obtain ⟨hmem, -, hle⟩ := mem_spread htaken
  have hget := (Table.mem_select.mp hmem).1
  exact ⟨hget, (h _ _ hget).withdraw hle (hyields taken htaken)⟩

theorem all_of_modifyLotBalances {f : InventoryLotBalance → InventoryLotBalance} {u' : PUnit}
    {s₁ : InventoryStore β} (h : s.lotBalances.All InventoryLotBalance.Sound)
    (hf : ∀ balance : InventoryLotBalance, balance.Sound → (f balance).Sound)
    (hmodify : modifyLotBalances lotId f s = .ok u s₁)
    (hsync : syncLegacyLotSnapshot lotId none s₁ = .ok u' s') :
    s'.lotBalances.All InventoryLotBalance.Sound := by
  rw [(syncLegacyLotSnapshot_eq_ok hsync).2, modify_eq_ok.mp hmodify]
  intro k balance hget
  rw [Table.get?_update] at hget
  obtain ⟨row, hrow, rfl⟩ := Option.map_eq_some_iff.mp hget
  split_ifs
  · exact hf row (h k row hrow)
  · exact h k row hrow

theorem InventoryLotBalance.Sound.quarantine {balance : InventoryLotBalance} (h : balance.Sound) :
    balance.quarantine.Sound :=
  ⟨⟨h.atScale.onHand, h.atScale.allocated⟩,
    ⟨h.consistent.allocated_nonneg, h.consistent.allocated_le, (if_pos rfl).symm⟩⟩

theorem InventoryLotBalance.Sound.release {balance : InventoryLotBalance} (h : balance.Sound) :
    balance.release.Sound := by
  refine ⟨⟨h.atScale.onHand, h.atScale.allocated⟩,
    ⟨h.consistent.allocated_nonneg, h.consistent.allocated_le, ?_⟩⟩
  change numeric (balance.quantityOnHand - balance.quantityAllocated) = _
  rw [numeric, halfUp_of_atScale (h.atScale.onHand.sub h.atScale.allocated)]
  rfl

end LotSerials

/-! ### Runs -/

/-- **One operation** keeps the quantities of every balance together. -/
theorem all_of_operation (h : s.lotBalances.All InventoryLotBalance.Sound) {op : LotOperation}
    {u : PUnit} (hon : op.OnStock s) (hspares : op.Spares v s) (hrun : op.run v s = .ok u s') :
    s'.lotBalances.All InventoryLotBalance.Sound := by
  cases op with
  | move c =>
    obtain ⟨id, hmove, -⟩ := map_eq_ok.mp hrun
    exact all_of_move h (hspares (returns_iff.mpr ⟨id, s', hmove⟩)) hmove
  | allocate input =>
    obtain ⟨answer, hallocate, -⟩ := map_eq_ok.mp hrun
    exact all_of_allocate h hon hspares hallocate
  | deallocate input =>
    obtain ⟨answer, hdeallocate, -⟩ := map_eq_ok.mp hrun
    exact all_of_deallocate h hon hspares hdeallocate
  | allocateFrom org lotId quantity => exact all_of_allocateFrom h hspares hrun
  | consumeFrom org lotId quantity => exact all_of_consumeFrom h hspares hrun
  | quarantine org lotId =>
    rw [LotOperation.run, LotSerialService.quarantineLot] at hrun
    obtain ⟨lot, -, hrun⟩ := reads (.bind .get fun _ => .orRaise _ _) hrun
    obtain ⟨_, s₁, hmodify, hsync⟩ := bind_eq_ok.mp hrun
    exact all_of_modifyLotBalances h (fun _ => InventoryLotBalance.Sound.quarantine) hmodify hsync
  | release org lotId =>
    rw [LotOperation.run, LotSerialService.releaseQuarantine] at hrun
    obtain ⟨lot, -, hrun⟩ := reads (.bind .get fun _ => .orRaise _ _) hrun
    obtain ⟨_, s₁, hmodify, hsync⟩ := bind_eq_ok.mp hrun
    exact all_of_modifyLotBalances h (fun _ => InventoryLotBalance.Sound.release) hmodify hsync

/-- **The quantities of lot balances belong together**: in every run of operations on lots with
stock that avoid what they do not look at, nothing is allocated that is not on hand, and what is
neither allocated nor quarantined is available. -/
theorem lot_quantities_belong_together (v : Services β)
    (h : (lotSystem v).ReachableWithin (fun s op => op.OnStock s ∧ op.Spares v s) s) :
    s.lotBalances.All InventoryLotBalance.Consistent := by
  have hsound : s.lotBalances.All InventoryLotBalance.Sound := by
    refine h.invariant (P := fun s => s.lotBalances.All InventoryLotBalance.Sound)
      (fun s hs => ?_) ?_
    · change s.lotBalances = Table.empty at hs
      rw [hs]
      exact Table.all_empty
    · rintro s op s' hs ⟨hon, hspares⟩ rfl
      cases hrun : op.run v s with
      | error e s' =>
        rw [LotOperation.after, commit, hrun]
        exact hs
      | ok u s' =>
        rw [LotOperation.after, commit_of_ok hrun]
        exact all_of_operation hs hon hspares hrun
  exact hsound.imp fun _ h => h.consistent

/-! ### Two runs -/

/-- A lot is received, allocated from, issued, counted, moved, put in quarantine and released. -/
def operationsOnLot : List LotOperation :=
  [.move (moveLotOf .receipt 1 8 none "A"), .allocateFrom (some 9) 0 3,
    .move (moveLotOf .issue 1 1 (some 0) ""), .move (moveLotOf .countAdjustment 1 (-1) (some 0) ""),
    .move (moveLotOf .transfer 1 1 (some 0) ""), .quarantine none 0, .release none 0,
    .allocate ⟨9, 1, 1, some 0, some 0, none, 0⟩, .deallocate ⟨9, 1, 2, some 0, some 0, none, 0⟩,
    .consumeFrom (some 9) 0 1]

theorem lot_quantities_belong_together_sample :
    (balanceOf (System.after (LotOperation.after plainServices) lotRoom operationsOnLot) 0 0).map
        (fun balance => (balance.quantityOnHand, balance.quantityAllocated)) = some (4, 2) ∧
      (System.after (LotOperation.after plainServices) lotRoom operationsOnLot).lotBalances.All
        InventoryLotBalance.Consistent := by
  have hrun : (lotSystem plainServices).ReachableWithin
      (fun s op => op.OnStock s ∧ op.Spares plainServices s)
      (System.after (LotOperation.after plainServices) lotRoom operationsOnLot) :=
    System.reachableWithin_after rfl (by decide +kernel)
  exact ⟨by decide +kernel, lot_quantities_belong_together plainServices hrun⟩

/-- Of eight pieces five are allocated, and then six are found missing. -/
def adjustBelowAllocated : List LotOperation :=
  [.move (moveLotOf .receipt 1 8 none "A"), .allocateFrom (some 9) 0 5,
    .move (moveLotOf .adjustment 1 (-6) (some 0) "")]

/-- **An adjustment leaves more allocated than on hand**: two pieces are there, five of them
allocated. -/
theorem adjustment_below_allocated :
    ¬ ∀ (v : Services Unit) (s : InventoryStore Unit),
      (lotSystem v).ReachableWithin (fun s op => op.OnStock s) s →
        s.lotBalances.All InventoryLotBalance.Consistent := by
  intro h
  have hrun : (lotSystem plainServices).ReachableWithin (fun s op => op.OnStock s)
      (System.after (LotOperation.after plainServices) lotRoom adjustBelowAllocated) :=
    System.reachableWithin_after rfl (by decide +kernel)
  have hbroken : ((System.after (LotOperation.after plainServices) lotRoom
      adjustBelowAllocated).lotBalances.get? 0).any (fun balance => !decide balance.Consistent) =
        true := by
    decide +kernel
  obtain ⟨balance, hget, hnot⟩ := (Option.any_eq_true _ _).mp hbroken
  simp only [Bool.not_eq_true', decide_eq_false_iff_not] at hnot
  exact hnot (h plainServices _ hrun 0 balance hget)

end DotmacErp.Inventory
