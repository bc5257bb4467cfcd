import DotmacErp.Inventory.LotMovements
import DotmacErp.Inventory.StockBalances

/-!
# What allocating, releasing and issuing do to the stock

An allocation finds a balance, or opens one together with the lot it is kept in, and writes what is
allocated there (`Allocates`); a release finds the balance again and writes less
(`releasedBalance?`); an issue takes from balances (`issueTakes`). The lemmas say so in terms of the
state before the call and the state after it.

What all of them leave is what the lots are, whose the balances are and which items are in lots
(`Stays`), so that what once was the balance of a promise still is.
-/

namespace DotmacErp.Inventory

open Relational Session InventoryTransactionService InventoryBalanceService

variable {β : Type} {s s' s₁ : InventoryStore β}

structure Stays (s s' : InventoryStore β) : Prop where
  lots : LotsStay s s'
  balances : ∀ k balance, s.lotBalances.get? k = some balance →
    ∃ balance', s'.lotBalances.get? k = some balance' ∧ balance'.place = balance.place
  items : ∀ k item, s.items.get? k = some item →
    ∃ item', s'.items.get? k = some item' ∧ (item'.InLots ↔ item.InLots)

/-! ### Opening -/

/-- What no two lots share (`uq_inventory_lot`). -/
def InventoryLot.number (lot : InventoryLot) : UUID × String := (lot.itemId, lot.lotNumber)

theorem InventoryLot.number_eq_of_origin {lot lot' : InventoryLot} (h : lot'.origin = lot.origin) :
    lot'.number = lot.number := by
  simp only [origin, Prod.mk.injEq] at h
  rw [number, number, h.2.1, h.2.2.1]

theorem LotsOnly.keyed (h : LotsOnly s s') (hkeyed : s.lots.Keyed InventoryLot.number) :
    s'.lots.Keyed InventoryLot.number := by
  refine hkeyed.of_get? fun k lot' hget' => ?_
  have hk := h k
  rw [hget', Option.map_some] at hk
  obtain ⟨lot, hget, horigin⟩ := Option.map_eq_some_iff.mp hk.symm
  exact ⟨lot, hget, InventoryLot.number_eq_of_origin horigin.symm⟩

structure Opens (s s' : InventoryStore β) : Prop where
  items : s'.items = s.items
  lots : s'.lots = s.lots ∨ ∃ lot, s'.lots = s.lots.insert lot ∧
    s.lots.at? InventoryLot.number lot.number = none
  balances : s'.lotBalances = s.lotBalances ∨ ∃ balance,
    s'.lotBalances = s.lotBalances.insert balance ∧
      s.lotBalances.at? InventoryLotBalance.place balance.place = none ∧
      balance.quantityAllocated = 0

theorem Opens.refl (s : InventoryStore β) : Opens s s := ⟨rfl, .inl rfl, .inl rfl⟩

theorem Opens.stays (h : Opens s s') : Stays s s' := by
  refine ⟨fun k lot hget => ?_, fun k balance hget => ?_, fun k item hget => ?_⟩
  · rcases h.lots with hlots | ⟨new, hlots, -⟩
    · exact ⟨lot, by rw [hlots, hget], rfl⟩
    · exact ⟨lot, by rw [hlots, Table.get?_insert_of_some hget], rfl⟩
  · rcases h.balances with hbalances | ⟨new, hbalances, -⟩
    · exact ⟨balance, by rw [hbalances, hget], rfl⟩
    · exact ⟨balance, by rw [hbalances, Table.get?_insert_of_some hget], rfl⟩
  · exact ⟨item, by rw [h.items, hget], Iff.rfl⟩

variable {item : Item} {input : AllocationInput} {lotId : UUID}

theorem getOrCreateGeneralLot_eq_ok (h : getOrCreateGeneralLot item input s = .ok lotId s') :
    Opens s s' ∧ ∃ lot, s'.lots.get? lotId = some lot ∧
      lot.organizationId = input.organizationId ∧
      lot.number = (input.itemId, generalLotNumber input.warehouseId) := by
  rw [getOrCreateGeneralLot, get_bind] at h
  cases hfound : generalLot? s input with
  | some lot =>
    rw [hfound] at h
    obtain ⟨rfl, rfl⟩ := pure_eq_ok.mp h
    obtain ⟨hget, hlot⟩ := Table.find?_eq_some hfound
    simp only [Bool.and_eq_true, decide_eq_true_eq] at hlot
    exact ⟨.refl _, lot.row, hget, hlot.1.1, Prod.ext hlot.1.2 hlot.2⟩
  | none =>
    rw [hfound] at h
    dsimp only at h
    rw [refuse_bind] at h
    obtain ⟨hnew, h⟩ := h
    obtain ⟨_, s₁, hset, h⟩ := bind_eq_ok.mp h
    obtain rfl := set_eq_ok.mp hset
    obtain ⟨rfl, rfl⟩ := pure_eq_ok.mp h
    refine ⟨⟨rfl, .inr ⟨_, rfl, ?_⟩, .inl rfl⟩, _, Table.get?_insert_self _ _, rfl, rfl⟩
    rw [Table.at?, Option.map_eq_none_iff]
    rw [Option.not_isSome_iff_eq_none] at hnew
    refine Table.find?_eq_none.mpr fun k lot hget => ?_
    have hother := Table.find?_eq_none.mp hnew k lot hget
    simpa [InventoryLot.number] using hother

variable {balanceId : UUID}

theorem getOrCreateGeneralBalance_eq_ok {warehouseId : UUID} {pending : Option UUID}
    (h : getOrCreateGeneralBalance lotId input warehouseId s = .ok (balanceId, pending) s') :
    Opens s s' ∧ s'.lots = s.lots ∧ ∃ balance, s'.lotBalances.get? balanceId = some balance ∧
      balance.place = (lotId, some warehouseId) := by
  rw [getOrCreateGeneralBalance, get_bind] at h
  cases hfound : lotBalance? s lotId warehouseId with
  | some balance =>
    rw [hfound] at h
    obtain ⟨hpair, rfl⟩ := pure_eq_ok.mp h
    obtain ⟨rfl, -⟩ := Prod.mk.inj hpair
    obtain ⟨hget, -, hplace⟩ := lotBalance?_eq_some hfound
    exact ⟨.refl _, rfl, balance.row, hget, hplace⟩
  | none =>
    rw [hfound] at h
    obtain ⟨_, s₁, hset, h⟩ := bind_eq_ok.mp h
    obtain rfl := set_eq_ok.mp hset
    obtain ⟨hpair, rfl⟩ := pure_eq_ok.mp h
    obtain ⟨rfl, -⟩ := Prod.mk.inj hpair
    have hnew := lotBalance?_row (s := s) lotId warehouseId
    rw [hfound, Option.map_none] at hnew
    exact ⟨⟨rfl, .inl rfl, .inr ⟨_, rfl, hnew.symm, rfl⟩⟩, rfl, _, Table.get?_insert_self _ _, rfl⟩

/-! ### Rewriting one balance -/

structure Rewrites (balanceId : UUID) (f : InventoryLotBalance → InventoryLotBalance)
    (s s' : InventoryStore β) : Prop where
  lots : LotsOnly s s'
  items : s'.items = s.items
  balances : s'.lotBalances = s.lotBalances.modify balanceId f

theorem Rewrites.stays {f : InventoryLotBalance → InventoryLotBalance}
    (h : Rewrites balanceId f s s') (hf : ∀ balance, (f balance).place = balance.place) :
    Stays s s' := by
  refine ⟨h.lots.stay, fun k balance hget => ?_, fun k item hget => ⟨item, ?_, Iff.rfl⟩⟩
  · rw [h.balances, Table.get?_modify, hget]
    split_ifs
    · exact ⟨_, rfl, hf balance⟩
    · exact ⟨_, rfl, rfl⟩
  · rw [h.items, hget]

variable {answer : Bool}

theorem rewrites_eq_ok {pending : Option UUID} {b : Bool}
    {f : InventoryLotBalance → InventoryLotBalance}
    (h : (modifyLotBalance balanceId f >>= fun _ => syncLegacyLotSnapshot lotId pending >>=
      fun _ => pure answer) s = .ok b s') : b = answer ∧ Rewrites balanceId f s s' := by
  obtain ⟨_, s₁, hmodify, h⟩ := bind_eq_ok.mp h
  obtain ⟨_, s₂, hsync, h⟩ := bind_eq_ok.mp h
  obtain ⟨hanswer, rfl⟩ := pure_eq_ok.mp h
  obtain ⟨hlots, hbalances⟩ := modifyLotBalance_eq_ok hmodify
  obtain ⟨honly, hsame⟩ := syncLegacyLotSnapshot_eq_ok hsync
  refine ⟨hanswer, (lotsOnly_of_eq hlots).trans honly, ?_, hsame.trans hbalances⟩
  exact (frames_syncLegacyLotSnapshot hidesLots_items _ _ _ _ _ hsync).trans
    (frames_modifyLotBalance hidesLots_items _ _ _ _ _ hmodify)

/-! ### Allocating -/

structure AllocatedIn (input : AllocationInput) (s : InventoryStore β) (balanceId : UUID)
    (balance : InventoryLotBalance) (lot : InventoryLot) (item : Item) : Prop where
  balanceRow : s.lotBalances.get? balanceId = some balance
  lotRow : s.lots.get? balance.lotId = some lot
  itemRow : s.items.get? input.itemId = some item
  organization : lot.organizationId = input.organizationId
  ofItem : lot.itemId = input.itemId
  warehouse : ∃ w, balance.warehouseId = some w ∧
    if item.InLots then input.place = some w else input.warehouseId = some w
  ofLot : if item.InLots then input.lotId = some balance.lotId
    else lot.lotNumber = generalLotNumber input.warehouseId

inductive Allocates (input : AllocationInput) (s s' : InventoryStore β) : Bool → Prop where
  | refused (opens : Opens s s') : Allocates input s s' false
  | allocated (s₁ s₂ : InventoryStore β) (lot : Opens s s₁) (balance : Opens s₁ s₂)
      {balanceId : UUID} (rewrites : Rewrites balanceId (·.allocate input.quantity) s₂ s')
      (place : ∃ balance lot item, AllocatedIn input s₂ balanceId balance lot item) :
      Allocates input s s' true

theorem allocateLot_eq_ok (hitem : s.items.get? input.itemId = some item) (hin : item.InLots)
    (hlot : input.lotId = some lotId) (h : allocateLot lotId input s = .ok answer s') :
    Allocates input s s' answer := by
  rw [allocateLot, get_bind] at h
  cases hfound : balanceFor s input lotId with
  | none =>
    rw [hfound] at h
    obtain ⟨rfl, rfl⟩ := pure_eq_ok.mp h
    exact .refused (.refl _)
  | some balance =>
    rw [hfound] at h
    dsimp only at h
    split_ifs at h
    · obtain ⟨rfl, rfl⟩ := pure_eq_ok.mp h
      exact .refused (.refl _)
    · obtain ⟨rfl, hrewrites⟩ := rewrites_eq_ok h
      obtain ⟨lot, hof, hbalance⟩ := Option.bind_eq_some_iff.mp hfound
      obtain ⟨hget, hlot'⟩ := Option.filter_eq_some_iff.mp hof
      simp only [Bool.and_eq_true, decide_eq_true_eq] at hlot'
      obtain ⟨w, hw, hbalance⟩ := Option.bind_eq_some_iff.mp hbalance
      obtain ⟨hrow, -, hplace⟩ := lotBalance?_eq_some hbalance
      obtain ⟨hlotId, hwarehouse⟩ := Prod.mk.inj hplace
      refine .allocated s s (.refl s) (.refl s) hrewrites ⟨balance.row, lot, item, hrow, ?_, hitem,
        hlot'.2, hlot'.1, ⟨w, hwarehouse, ?_⟩, ?_⟩
      · rw [hlotId, hget]
      · rw [if_pos hin, hw]
      · rw [if_pos hin, hlot, hlotId]

theorem allocateGeneral_eq_ok (hitem : s.items.get? input.itemId = some item) (hin : ¬ item.InLots)
    (h : allocateGeneral item input s = .ok answer s') : Allocates input s s' answer := by
  rw [allocateGeneral] at h
  obtain ⟨lotId, s₁, hlot, h⟩ := bind_eq_ok.mp h
  obtain ⟨hopens, lot, hget, horganization, hnumber⟩ := getOrCreateGeneralLot_eq_ok hlot
  cases hwarehouse : input.warehouseId with
  | none =>
    rw [hwarehouse] at h
    obtain ⟨rfl, rfl⟩ := pure_eq_ok.mp h
    exact .refused hopens
  | some warehouseId =>
    rw [hwarehouse] at h
    obtain ⟨⟨balanceId, pending⟩, s₂, hbalance, h⟩ := bind_eq_ok.mp h
    obtain ⟨hopens', hlots, balance, hrow, hplace⟩ := getOrCreateGeneralBalance_eq_ok hbalance
    obtain ⟨rfl, hrewrites⟩ := rewrites_eq_ok h
    obtain ⟨hlotId, hof⟩ := Prod.mk.inj hplace
    obtain ⟨hofItem, hofNumber⟩ := Prod.mk.inj hnumber
    refine .allocated s₁ s₂ hopens hopens' hrewrites ⟨balance, lot, item, hrow, ?_, ?_,
      horganization, hofItem, ⟨warehouseId, hof, ?_⟩, ?_⟩
    · rw [hlotId, hlots, hget]
    · rw [hopens'.items, hopens.items, hitem]
    · rw [if_neg hin, hwarehouse]
    · rw [if_neg hin, hofNumber]

/-- **What `allocate_inventory` does.** -/
theorem allocateInventory_eq_ok
    (h : allocateInventory input s = .ok answer s') : Allocates input s s' answer := by
  have hrefused : (pure false : InventorySession β Bool) s = .ok answer s' →
      Allocates input s s' answer := fun h => by
    obtain ⟨rfl, rfl⟩ := pure_eq_ok.mp h
    exact .refused (.refl _)
  rw [allocateInventory, get_bind] at h
  split_ifs at h
  · exact hrefused h
  cases hitem : (s.items.get? input.itemId).filter fun item =>
      item.organizationId = input.organizationId with
  | none =>
    rw [hitem] at h
    exact hrefused h
  | some item =>
    rw [hitem] at h
    dsimp only at h
    have hget := (Option.filter_eq_some_iff.mp hitem).1
    have hlots : (item.trackLots || decide (item.costingMethod = .fifo)) = true ↔ item.InLots := by
      simp [Item.InLots, or_comm]
    split_ifs at h with hin
    · cases hlot : input.lotId with
      | none =>
        rw [hlot] at h
        exact hrefused h
      | some lotId =>
        rw [hlot] at h
        exact allocateLot_eq_ok hget (hlots.mp hin) hlot h
    · exact allocateGeneral_eq_ok hget (fun hin' => hin (hlots.mpr hin')) h

/-! ### Releasing -/

def releasedBalance? (s : InventoryStore β) (input : AllocationInput) :
    Option (Stored InventoryLotBalance) :=
  match input.lotId with
  | some lotId => balanceFor s input lotId
  | none => (generalLot? s input).bind fun lot => getBalanceForLot s lot.id input.warehouseId

/-- **What `deallocate_inventory` does.** -/
theorem deallocateInventory_eq_ok (h : deallocateInventory input s = .ok answer s') :
    match releasedBalance? s input with
    | none => s' = s
    | some balance => Rewrites balance.id (·.deallocate input.quantity) s s' := by
  rw [deallocateInventory] at h
  rw [releasedBalance?]
  cases hlot : input.lotId with
  | some lotId =>
    rw [hlot] at h
    dsimp only at h ⊢
    rw [deallocateLot, get_bind] at h
    cases hfound : balanceFor s input lotId with
    | none =>
      rw [hfound] at h
      exact (pure_eq_ok.mp h).2
    | some balance =>
      rw [hfound] at h
      exact (rewrites_eq_ok h).2
  | none =>
    rw [hlot] at h
    dsimp only at h ⊢
    rw [deallocateGeneral, get_bind] at h
    cases hgeneral : generalLot? s input with
    | none =>
      rw [hgeneral] at h
      exact (pure_eq_ok.mp h).2
    | some lot =>
      rw [hgeneral] at h
      dsimp only at h
      rw [Option.bind_some]
      cases hfound : getBalanceForLot s lot.id input.warehouseId with
      | none =>
        rw [hfound] at h
        exact (pure_eq_ok.mp h).2
      | some balance =>
        rw [hfound] at h
        exact (rewrites_eq_ok h).2

/-! ### Issuing -/

section Issues

variable {org userId id : UUID} {item : Item} {input : TransactionInput}

def issueTakes (s : InventoryStore β) (org : UUID) (item : Item)
    (input : TransactionInput) : List (UUID × ℚ) :=
  if item.costingMethod = .fifo then
    (consumption (fifoLayers s org input.itemId input.warehouseId) input.quantity).map
      fun taken => (taken.1.balanceId, taken.2)
  else if item.trackLots then
    ((input.lotId.bind fun lotId => lotBalance? s lotId input.warehouseId).map fun balance =>
      (balance.id, input.quantity)).toList
  else []

theorem nodup_issueTakes :
    ((issueTakes s org item input).map Prod.fst).Nodup := by
  rw [issueTakes]
  split_ifs
  · rw [List.map_map]
    exact nodup_consumption (nodup_fifoLayers _ _ _) _
  · rcases (input.lotId.bind fun lotId => lotBalance? s lotId input.warehouseId) with _ | balance
    · exact List.nodup_nil
    · exact List.nodup_singleton _
  · exact List.nodup_nil

theorem IssuesLot.takes {lotId : Option UUID} (h : IssuesLot org item input s s' lotId) :
    LotsOnly s s' ∧ s'.lotBalances = s.lotBalances.modifyAll InventoryLotBalance.withdraw
      (issueTakes s org item input) := by
  cases h with
  | oldest fifo asked lots enough balances =>
    refine ⟨lots, ?_⟩
    rw [balances, issueTakes, if_pos fifo, withdrawLayers, Table.modifyAll, List.foldl_map]
  | asked fifo trackLots asked lots balances =>
    refine ⟨lots, ?_⟩
    rw [balances, issueTakes, if_neg fifo, if_pos trackLots, asked.asked, Option.bind_some,
      asked.found]
    rfl
  | none notInLots lots =>
    obtain ⟨hlots, hbalances⟩ := Prod.mk.inj lots
    rw [Item.InLots, not_or] at notInLots
    refine ⟨lotsOnly_of_eq hlots, ?_⟩
    rw [hbalances, issueTakes, if_neg notInLots.1, if_neg notInLots.2]
    rfl

def kindsOf (s : InventoryStore β) (itemId : UUID) : Option Bool :=
  (s.items.get? itemId).map fun item => decide item.InLots

theorem hidesLots_kindsOf : HidesLots (β := β) kindsOf := fun _ _ _ => rfl

theorem hidesAverages_kindsOf : HidesAverages (β := β) kindsOf := by
  refine ⟨fun _ _ => rfl, fun s itemId averageCost => funext fun k => ?_⟩
  simp only [kindsOf, Table.get?_modify]
  split_ifs
  · rw [Option.map_map]
    rfl
  · rfl

/-- **What an issue does** to the lots and their balances. -/
theorem createIssue_takes {v : Services β}
    (h : createIssue v org input userId s = .ok id s') :
    ∃ item, ItemOf s org input.itemId item ∧ LotsOnly s s' ∧ kindsOf s' = kindsOf s ∧
      s'.lotBalances = s.lotBalances.modifyAll InventoryLotBalance.withdraw
        (issueTakes s org item input) := by
  obtain ⟨item, lotId, t, -, hitem, -, -, hissues⟩ := createIssue_lots h
  obtain ⟨_, _, _, s₁, s₂, s₃, s₄, s₅, hsteps⟩ := createIssue_steps h
  have hcosted : kindsOf s₂ = kindsOf s := hsteps.first hidesLots_kindsOf
  have hrow : kindsOf s₃ = kindsOf s₂ := by rw [(addTransaction_id hsteps.row).2]; rfl
  have hlater : kindsOf s' = kindsOf s₃ := hsteps.later hidesAverages_kindsOf
  obtain ⟨honly, hbalances⟩ := hissues.takes
  exact ⟨item, hitem, honly, hlater.trans (hrow.trans hcosted), hbalances⟩

end Issues

end DotmacErp.Inventory
