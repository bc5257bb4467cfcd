import DotmacErp.Foundation.Totals
import DotmacErp.Inventory.Allocations
import DotmacErp.Inventory.Reservations

/-!
# The accounts of reservations and allocations

A reservation promises what of it is neither fulfilled nor cancelled, and the promise is also an
allocation in a lot balance. `Accounts` says that the two agree: each promise is held in one
balance, and what is allocated in a balance is the sum of the promises held there. The sum over the
balances of an item in a warehouse is then the sum over its reservations (`Accounts.reserved_eq`).

Each of the calls keeps the accounts as far as it writes both sides: allocating and storing the
reservation, releasing and closing it, and an issue that leaves what is allocated of the balances
it takes from.
-/

namespace DotmacErp.Inventory

open Relational Rounding Totals InventoryTransactionService InventoryBalanceService
  StockReservationService

variable {β : Type}

/-! ### The quantities of a reservation -/

namespace StockReservation

variable {r : StockReservation} {quantity : ℚ} {status : ReservationStatus}

/-- **What is fulfilled and cancelled of a reservation has been reserved.** -/
structure Bounded (r : StockReservation) : Prop where
  reserved : AtScale 6 r.quantityReserved
  fulfilled : AtScale 6 r.quantityFulfilled
  cancelled : AtScale 6 r.quantityCancelled
  fulfilled_nonneg : 0 ≤ r.quantityFulfilled
  cancelled_nonneg : 0 ≤ r.quantityCancelled
  le : r.quantityFulfilled + r.quantityCancelled ≤ r.quantityReserved

theorem Bounded.remaining_nonneg (h : r.Bounded) : 0 ≤ r.quantityRemaining := by
  have hle := h.le
  rw [quantityRemaining]
  linarith

theorem Bounded.atScale_remaining (h : r.Bounded) : AtScale 6 r.quantityRemaining :=
  (h.reserved.sub h.fulfilled).sub h.cancelled

theorem Bounded.fulfilled_le (h : r.Bounded) (hle : quantity ≤ r.quantityRemaining) :
    numeric (r.quantityFulfilled + quantity) ≤ r.quantityReserved - r.quantityCancelled := by
  have hsum : r.quantityFulfilled + quantity ≤ r.quantityReserved - r.quantityCancelled := by
    rw [quantityRemaining] at hle
    linarith
  calc numeric (r.quantityFulfilled + quantity)
      ≤ numeric (r.quantityReserved - r.quantityCancelled) := halfUp_mono hsum
    _ = r.quantityReserved - r.quantityCancelled :=
      halfUp_of_atScale (h.reserved.sub h.cancelled)

theorem Bounded.fulfill (h : r.Bounded) (h0 : 0 ≤ quantity) (hle : quantity ≤ r.quantityRemaining) :
    (r.fulfill quantity).Bounded where
  reserved := h.reserved
  fulfilled := atScale_halfUp 6 _
  cancelled := h.cancelled
  fulfilled_nonneg := halfUp_nonneg (add_nonneg h.fulfilled_nonneg h0)
  cancelled_nonneg := h.cancelled_nonneg
  le := by
    have hsum := h.fulfilled_le hle
    change numeric (r.quantityFulfilled + quantity) + r.quantityCancelled ≤ r.quantityReserved
    linarith

theorem Bounded.cancelled_close (h : r.Bounded) :
    (r.close status).quantityCancelled = r.quantityReserved - r.quantityFulfilled := by
  have hsum : r.quantityCancelled + r.quantityRemaining =
      r.quantityReserved - r.quantityFulfilled := by
    rw [quantityRemaining]
    ring
  change numeric (r.quantityCancelled + r.quantityRemaining) = _
  rw [hsum]
  exact halfUp_of_atScale (h.reserved.sub h.fulfilled)

theorem Bounded.close (h : r.Bounded) : (r.close status).Bounded where
  reserved := h.reserved
  fulfilled := h.fulfilled
  cancelled := atScale_halfUp 6 _
  fulfilled_nonneg := h.fulfilled_nonneg
  cancelled_nonneg := by
    have hle := h.le
    have hnonneg := h.cancelled_nonneg
    rw [h.cancelled_close]
    linarith
  le := by
    rw [h.cancelled_close]
    exact (add_sub_cancel _ _).le

def promised (r : StockReservation) : ℚ := if r.status.isActive then r.quantityRemaining else 0

theorem Bounded.promised_nonneg (h : r.Bounded) : 0 ≤ r.promised := by
  rw [promised]
  split_ifs
  · exact h.remaining_nonneg
  · exact le_rfl

theorem Bounded.atScale_promised (h : r.Bounded) : AtScale 6 r.promised := by
  rw [promised]
  split_ifs
  · exact h.atScale_remaining
  · exact atScale_zero 6

theorem Bounded.promised_close (h : r.Bounded) : (r.close status).promised = 0 := by
  have hnone : (r.close status).quantityRemaining = 0 := by
    rw [quantityRemaining, h.cancelled_close]
    change r.quantityReserved - r.quantityFulfilled - (r.quantityReserved - r.quantityFulfilled) = 0
    ring
  rw [promised, hnone, ite_self]

theorem Bounded.promised_fulfill (h : r.Bounded) (h0 : 0 < quantity)
    (hle : quantity ≤ r.quantityRemaining) (hactive : r.status.isActive = true)
    (hnothing : numeric quantity = 0) : (r.fulfill quantity).promised = r.promised := by
  have hsum := halfUp_add_of_atScale h.fulfilled (add_nonneg h.fulfilled_nonneg h0.le)
  rw [if_neg fun htie => absurd htie.1 (not_lt.mpr h0.le), add_zero] at hsum
  have hfulfilled : (r.fulfill quantity).quantityFulfilled = r.quantityFulfilled :=
    hsum.trans ((congrArg (r.quantityFulfilled + ·) hnothing).trans (add_zero _))
  have hremaining : (r.fulfill quantity).quantityRemaining = r.quantityRemaining := by
    rw [quantityRemaining, quantityRemaining, hfulfilled]
    rfl
  -- the whole of what remains is not rounded to nothing
  have hpartly : r.isFullyFulfilled (r.quantityFulfilled + quantity) = false := by
    refine decide_eq_false fun hfull => ?_
    have hcancelled := h.cancelled_nonneg
    rw [quantityRemaining] at hle
    have hwhole : quantity = r.quantityRemaining := by
      rw [quantityRemaining]
      linarith
    have hscale := halfUp_of_atScale h.atScale_remaining
    rw [← hwhole] at hscale
    exact h0.ne' (hscale.symm.trans hnothing)
  have hstatus : (r.fulfill quantity).status = .partiallyFulfilled := by
    simp only [StockReservation.fulfill, hpartly, Bool.false_eq_true, if_false]
  rw [promised, promised, hstatus, hactive, hremaining]
  rfl

end StockReservation

/-! ### Each promise is held in a balance -/

section Accounts

variable {s s' : InventoryStore β} {reservations : Table StockReservation} {held : UUID → UUID}
  {r : StockReservation} {k balanceId : UUID}

def HeldIn (s : InventoryStore β) (r : StockReservation) (balanceId : UUID) : Prop :=
  ∃ balance lot item, AllocatedIn (releaseInput r none) s balanceId balance lot item

/-- **Reservations and allocations agree**: each promise is held in a balance, and what is
allocated in a balance is what is promised there. -/
structure Accounts (s : InventoryStore β) (reservations : Table StockReservation)
    (held : UUID → UUID) : Prop where
  lots : s.lots.Keyed InventoryLot.number
  places : s.lotBalances.Keyed InventoryLotBalance.place
  idle : s.lotBalances.All fun balance => balance.isActive = false → balance.quantityAllocated ≤ 0
  bounded : reservations.All StockReservation.Bounded
  holds : ∀ k r, reservations.get? k = some r → r.promised ≠ 0 → HeldIn s r (held k)
  allocated : ∀ k balance, s.lotBalances.get? k = some balance → balance.quantityAllocated =
    total (fun r => r.row.promised) (fun r => held r.id) k reservations.rows

variable {balance : InventoryLotBalance} {lot : InventoryLot} {item : Item}

theorem AllocatedIn.stays {input : AllocationInput} (h :
    AllocatedIn input s balanceId balance lot item)
    (hs : Stays s s') :
    ∃ balance lot item, AllocatedIn input s' balanceId balance lot item := by
  obtain ⟨balance', hbalance', hplace⟩ := hs.balances _ _ h.balanceRow
  obtain ⟨hlotId, hwarehouse⟩ := Prod.mk.inj hplace
  obtain ⟨lot', hlot', horigin⟩ := hs.lots _ _ h.lotRow
  simp only [InventoryLot.origin, Prod.mk.injEq] at horigin
  obtain ⟨item', hitem', hkind⟩ := hs.items _ _ h.itemRow
  refine ⟨balance', lot', item', hbalance', by rw [hlotId, hlot'], hitem',
    horigin.1.trans h.organization, horigin.2.1.trans h.ofItem, ?_, ?_⟩
  · simpa only [hwarehouse, hkind] using h.warehouse
  · simpa only [hlotId, hkind, horigin.2.2.1] using h.ofLot

theorem HeldIn.stays (h : HeldIn s r balanceId) (hs : Stays s s') : HeldIn s' r balanceId := by
  obtain ⟨balance, lot, item, h⟩ := h
  exact h.stays hs

theorem AllocatedIn.named (h : AllocatedIn (releaseInput r none) s balanceId balance lot item) :
    ∃ w, balance.warehouseId = some w ∧ r.warehouseId = some w := by
  obtain ⟨w, hbalance, hw⟩ := h.warehouse
  refine ⟨w, hbalance, ?_⟩
  split_ifs at hw
  · have hplace : (r.warehouseId <|> none) = some w := hw
    simpa using hplace
  · exact hw

theorem Accounts.atScale_allocated (h : Accounts s reservations held) (hget :
    s.lotBalances.get? k = some balance) :
    AtScale 6 balance.quantityAllocated := by
  rw [h.allocated k balance hget]
  refine atScale_sum fun q hq => ?_
  obtain ⟨r, hr, rfl⟩ := List.mem_map.mp hq
  exact (h.bounded _ _ (Table.get?_of_mem (List.mem_of_mem_filter hr))).atScale_promised

theorem Accounts.promised_le (h : Accounts s reservations held) (hget :
    s.lotBalances.get? (held k) = some balance)
    (hr : reservations.get? k = some r) : r.promised ≤ balance.quantityAllocated := by
  rw [h.allocated _ balance hget]
  refine List.single_le_sum (fun q hq => ?_) _ (List.mem_map.mpr ⟨⟨k, r⟩, ?_, rfl⟩)
  · obtain ⟨r', hr', rfl⟩ := List.mem_map.mp hq
    exact (h.bounded _ _ (Table.get?_of_mem (List.mem_of_mem_filter hr'))).promised_nonneg
  · exact List.mem_filter.mpr ⟨Table.get?_eq_some.mp hr, decide_eq_true rfl⟩

theorem Accounts.allocated_nonneg (h : Accounts s reservations held) (hget :
    s.lotBalances.get? k = some balance) :
    0 ≤ balance.quantityAllocated := by
  rw [h.allocated k balance hget]
  refine List.sum_nonneg fun q hq => ?_
  obtain ⟨r, hr, rfl⟩ := List.mem_map.mp hq
  exact (h.bounded _ _ (Table.get?_of_mem (List.mem_of_mem_filter hr))).promised_nonneg

/-- A promise is held in a balance of its item that `get_reserved` looks at, if and only if it is
one that `get_reserved_quantity` looks at. -/
theorem Accounts.mem_balances_iff (h : Accounts s reservations held) (org itemId : UUID)
    (warehouseId : Option UUID) (hr : reservations.get? k = some r) (hpromised : r.promised ≠ 0) :
    held k ∈ (itemBalances s org itemId warehouseId).map Stored.id ↔
      r.organizationId = org ∧ r.itemId = itemId ∧ r.status.isActive = true ∧
        (warehouseId.all fun w => r.warehouseId = some w) = true := by
  obtain ⟨balance, lot, item, hheld⟩ := h.holds k r hr hpromised
  obtain ⟨w, hbalance, hnamed⟩ := hheld.named
  have hactive : r.status.isActive = true := by
    by_contra hnot
    exact hpromised (if_neg hnot)
  have hin : balance.isActive = true := by
    by_contra hnot
    have hle := h.idle _ _ hheld.balanceRow (Bool.not_eq_true _ ▸ hnot)
    have hpositive := lt_of_le_of_ne (h.bounded k r hr).promised_nonneg (Ne.symm hpromised)
    have hcovers := h.promised_le hheld.balanceRow hr
    linarith
  have horganization : lot.organizationId = r.organizationId := hheld.organization
  have hitem : lot.itemId = r.itemId := hheld.ofItem
  have hmem : held k ∈ (itemBalances s org itemId warehouseId).map Stored.id ↔
      (⟨held k, balance⟩ : Stored InventoryLotBalance) ∈
        itemBalances s org itemId warehouseId := by
    rw [List.mem_map]
    refine ⟨fun ⟨found, hfound, hid⟩ => ?_, fun hfound => ⟨_, hfound, rfl⟩⟩
    have hget := (Table.mem_select.mp hfound).1
    rw [hid, hheld.balanceRow] at hget
    obtain ⟨id, row⟩ := found
    obtain rfl : id = held k := hid
    rwa [Option.some.inj hget]
  rw [hmem, itemBalances, Table.mem_select]
  simp [hheld.balanceRow, hheld.lotRow, hin, hactive, horganization, hitem, hbalance, hnamed,
    and_assoc]

/-- **What is allocated of an item in a warehouse is what its reservations promise.** -/
theorem Accounts.reserved_eq (h : Accounts s reservations held) (org itemId : UUID)
    (warehouseId : Option UUID) :
    getReserved s org itemId warehouseId =
      getReservedQuantity ⟨s, reservations⟩ org itemId warehouseId := by
  have hnodup : ((itemBalances s org itemId warehouseId).map Stored.id).Nodup :=
    (List.filter_sublist.map Stored.id).nodup s.lotBalances.nodup_ids
  let promise (r : Stored StockReservation) : ℚ := r.row.promised
  let keys := ((itemBalances s org itemId warehouseId).map Stored.id).toFinset
  let wanted (r : StockReservation) : Bool := r.organizationId = org &&
    r.itemId = itemId && r.status.isActive && warehouseId.all fun w => r.warehouseId = some w
  calc getReserved s org itemId warehouseId
      = ((itemBalances s org itemId warehouseId).map fun balance =>
          total promise (fun r => held r.id) balance.id reservations.rows).sum :=
        congrArg List.sum (List.map_congr_left fun balance hbalance =>
          h.allocated _ _ (Table.mem_select.mp hbalance).1)
    _ = ∑ k ∈ keys, total promise (fun r => held r.id) k reservations.rows := by
        rw [List.sum_toFinset _ hnodup, List.map_map]
        rfl
    _ = (reservations.rows.map fun r => if held r.id ∈ keys then promise r else 0).sum :=
        sum_total _ _
    _ = (reservations.rows.map fun r =>
          if wanted r.row = true then r.row.quantityRemaining else 0).sum := by
        refine congrArg List.sum (List.map_congr_left fun r hr => ?_)
        have hget := Table.get?_of_mem hr
        by_cases hpromised : r.row.promised = 0
        · rw [show promise r = 0 from hpromised, ite_self]
          split_ifs with hwanted
          · simp only [wanted, Bool.and_eq_true] at hwanted
            rwa [StockReservation.promised, if_pos hwanted.1.2, eq_comm] at hpromised
          · rfl
        · have hiff := h.mem_balances_iff org itemId warehouseId hget hpromised
          have hwanted : held r.id ∈ keys ↔ wanted r.row = true := by
            rw [List.mem_toFinset, hiff]
            simp only [wanted, Bool.and_eq_true, decide_eq_true_eq, and_assoc]
          simp only [hwanted]
          split_ifs with hin
          · simp only [wanted, Bool.and_eq_true] at hin
            exact if_pos hin.1.2
          · rfl
    _ = getReservedQuantity ⟨s, reservations⟩ org itemId warehouseId := by
        rw [List.sum_map_ite, List.map_const', List.sum_replicate, nsmul_zero, add_zero,
          getReservedQuantity, activeReservations, Table.select]
        simp only [Bool.decide_eq_true]
        rfl

/-! ### What the calls do to the accounts -/

theorem Accounts.opens (h : Accounts s reservations held) (ho : Opens s s') :
    Accounts s' reservations held := by
  have hstays := ho.stays
  refine ⟨?_, ?_, ?_, h.bounded, fun k r hr hpromised => (h.holds k r hr hpromised).stays hstays,
    fun k balance hget => ?_⟩
  · rcases ho.lots with hlots | ⟨lot, hlots, hnew⟩
    · rw [hlots]
      exact h.lots
    · rw [hlots]
      exact h.lots.insert hnew
  · rcases ho.balances with hbalances | ⟨balance, hbalances, hnew, -⟩
    · rw [hbalances]
      exact h.places
    · rw [hbalances]
      exact h.places.insert hnew
  · rcases ho.balances with hbalances | ⟨balance, hbalances, -, hnone⟩
    · rw [hbalances]
      exact h.idle
    · rw [hbalances]
      exact h.idle.insert fun _ => hnone.le
  · rcases ho.balances with hbalances | ⟨new, hbalances, -, hnone⟩
    · rw [hbalances] at hget
      exact h.allocated k balance hget
    · rw [hbalances, Table.get?_insert] at hget
      split_ifs at hget with hk
      · -- nothing is held in a balance that was not there
        obtain rfl := Option.some.inj hget
        rw [hnone, total_eq_zero_of]
        intro r hr hheld
        by_contra hpromised
        obtain ⟨_, _, _, hin⟩ := h.holds r.id r.row (Table.get?_of_mem hr) hpromised
        have hrow := hin.balanceRow
        rw [hheld, hk, Table.get?_next] at hrow
        exact absurd hrow (by simp)
      · exact h.allocated k balance hget

variable {quantity : ℚ}

theorem Accounts.allocate (h : Accounts s reservations held) (h0 : 0 ≤ quantity)
    (hr : Rewrites balanceId (·.allocate quantity) s s') (hbounded : r.Bounded)
    (hpromised : r.promised = numeric quantity) (hheld : r.promised ≠ 0 → HeldIn s r balanceId) :
    Accounts s' (reservations.insert r) (Function.update held reservations.next balanceId) := by
  have hstays : Stays s s' := hr.stays fun _ => rfl
  -- the reservations there were have other keys
  have hother : ∀ row ∈ reservations.rows,
      Function.update held reservations.next balanceId row.id = held row.id := fun row hrow =>
    Function.update_of_ne (Nat.ne_of_lt (reservations.below row hrow)) _ _
  refine ⟨hr.lots.keyed h.lots, ?_, ?_, h.bounded.insert hbounded, fun k r' hget hpromised' => ?_,
    fun k balance' hget => ?_⟩
  · rw [hr.balances]
    refine h.places.modify ?_ _
    exact fun _ => rfl
  · rw [hr.balances]
    exact h.idle.modify fun _ _ hidle => absurd hidle Bool.noConfusion
  · rw [Table.get?_insert] at hget
    split_ifs at hget with hk
    · obtain rfl := Option.some.inj hget
      rw [hk, Function.update_self]
      exact (hheld hpromised').stays hstays
    · rw [Function.update_of_ne hk]
      exact (h.holds k r' hget hpromised').stays hstays
  · have hrows : total (fun r => r.row.promised)
        (fun row => Function.update held reservations.next balanceId row.id) k
          (reservations.insert r).rows =
        total (fun r => r.row.promised) (fun row => held row.id) k reservations.rows +
          if balanceId = k then numeric quantity else 0 := by
      change total _ _ k (reservations.rows ++ [⟨reservations.next, r⟩]) = _
      rw [total_append, total_cons, total_nil, add_zero, Function.update_self, hpromised]
      exact congrArg (· + _) (total_congr fun row hrow => ⟨hother row hrow, rfl⟩)
    rw [hrows]
    rw [hr.balances, Table.get?_modify] at hget
    split_ifs at hget with hk
    · obtain ⟨balance, hbalance, rfl⟩ := Option.map_eq_some_iff.mp hget
      have hnonneg := h.allocated_nonneg hbalance
      have hsum := halfUp_add_of_atScale (h.atScale_allocated hbalance) (add_nonneg hnonneg h0)
      rw [if_neg fun htie => absurd htie.1 (not_lt.mpr h0), add_zero] at hsum
      rw [if_pos hk.symm, ← h.allocated k balance (hk ▸ hbalance)]
      exact hsum
    · rw [if_neg (Ne.symm hk), add_zero]
      exact h.allocated k balance' hget

variable {row : StockReservation}

theorem total_modify (hr : reservations.get? k = some row)
    (f : StockReservation → StockReservation) (i : UUID) :
    total (fun r => r.row.promised) (fun r => held r.id) i (reservations.modify k f).rows =
      total (fun r => r.row.promised) (fun r => held r.id) i reservations.rows +
        if held k = i then (f row).promised - row.promised else 0 := by
  obtain ⟨l, l', hrows, hmodified⟩ := Table.rows_modify hr
  rw [hmodified, hrows, total_append, total_cons, total_append, total_cons]
  split_ifs
  · ring
  · ring

theorem Accounts.modify (h : Accounts s reservations held)
    (hr : reservations.get? k = some row) {f : StockReservation → StockReservation}
    (hbounded : (f row).Bounded) (hpromised : (f row).promised = row.promised)
    (hsame : ∀ balanceId, HeldIn s row balanceId → HeldIn s (f row) balanceId) :
    Accounts s (reservations.modify k f) held := by
  refine ⟨h.lots, h.places, h.idle, h.bounded.modify fun row' hrow' => ?_,
    fun i r' hget hpromised' => ?_, fun i balance hget => ?_⟩
  · rw [hr] at hrow'
    rwa [← Option.some.inj hrow']
  · rw [Table.get?_modify] at hget
    split_ifs at hget with hi
    · rw [hi, hr] at hget
      obtain rfl := Option.some.inj hget
      rw [hi]
      exact hsame _ (h.holds k row hr (hpromised ▸ hpromised'))
    · exact h.holds i r' hget hpromised'
  · rw [total_modify hr, hpromised, sub_self, ite_self, add_zero]
    exact h.allocated i balance hget

theorem Accounts.release (h : Accounts s reservations held)
    (hr : reservations.get? k = some row) (hactive : row.status.isActive = true)
    (hrewrites : Rewrites (held k) (·.deallocate row.quantityRemaining) s s')
    (status : ReservationStatus) : Accounts s' (reservations.modify k (·.close status)) held := by
  have hstays : Stays s s' := hrewrites.stays fun _ => rfl
  have hrow := h.bounded k row hr
  have hpromised : row.promised = row.quantityRemaining := if_pos hactive
  have hreleased : ∀ balance, s.lotBalances.get? (held k) = some balance →
      (balance.deallocate row.quantityRemaining).quantityAllocated =
        balance.quantityAllocated - row.quantityRemaining := by
    intro balance hbalance
    have hcovers := h.promised_le hbalance hr
    rw [hpromised] at hcovers
    change numeric (max 0 (balance.quantityAllocated - row.quantityRemaining)) = _
    rw [max_eq_right (sub_nonneg.mpr hcovers)]
    exact halfUp_of_atScale ((h.atScale_allocated hbalance).sub hrow.atScale_remaining)
  refine ⟨hrewrites.lots.keyed h.lots, ?_, ?_,
    h.bounded.modify fun row' hrow' => (h.bounded _ _ hrow').close,
    fun i r' hget hpromised' => ?_, fun i balance' hget => ?_⟩
  · rw [hrewrites.balances]
    refine h.places.modify ?_ _
    exact fun _ => rfl
  · rw [hrewrites.balances]
    refine h.idle.modify fun balance hbalance hidle => ?_
    rw [hreleased balance hbalance]
    have hle := h.idle _ _ hbalance hidle
    have hremaining := hrow.remaining_nonneg
    linarith
  · rw [Table.get?_modify] at hget
    split_ifs at hget with hi
    · rw [hi, hr] at hget
      obtain rfl := Option.some.inj hget
      exact absurd hrow.promised_close hpromised'
    · exact (h.holds i r' hget hpromised').stays hstays
  · rw [total_modify hr, hrow.promised_close, hpromised]
    rw [hrewrites.balances, Table.get?_modify] at hget
    split_ifs at hget with hi
    · rw [hi] at hget ⊢
      obtain ⟨balance, hbalance, rfl⟩ := Option.map_eq_some_iff.mp hget
      rw [if_pos rfl, hreleased balance hbalance, h.allocated _ _ hbalance]
      ring
    · rw [if_neg (Ne.symm hi), add_zero]
      exact h.allocated i balance' hget

/-- The stock without the quantity covers what is allocated. -/
def InventoryLotBalance.Covers (balance : InventoryLotBalance) (quantity : ℚ) : Prop :=
  balance.quantityAllocated ≤ numeric (balance.quantityOnHand - quantity)

theorem allocated_withdraw_iff (hscale : AtScale 6 balance.quantityAllocated) :
    (balance.withdraw quantity).quantityAllocated = balance.quantityAllocated ↔
      balance.Covers quantity := by
  rw [InventoryLotBalance.Covers]
  by_cases hcut : balance.quantityAllocated > balance.quantityOnHand - quantity
  · have hle : numeric (balance.quantityOnHand - quantity) ≤ balance.quantityAllocated :=
      (halfUp_mono hcut.le).trans (halfUp_of_atScale hscale).le
    simp only [InventoryLotBalance.withdraw, if_pos hcut]
    exact ⟨fun heq => heq.ge, fun hcovers => le_antisymm hle hcovers⟩
  · have hcovers : balance.quantityAllocated ≤ numeric (balance.quantityOnHand - quantity) :=
      (halfUp_of_atScale hscale).ge.trans (halfUp_mono (not_lt.mp hcut))
    simp only [InventoryLotBalance.withdraw, if_neg hcut]
    exact ⟨fun _ => hcovers, fun _ => halfUp_of_atScale hscale⟩

theorem allocated_withdraw_nonpos (h : (balance.withdraw quantity).isActive = false) :
    (balance.withdraw quantity).quantityAllocated ≤ 0 := by
  simp only [InventoryLotBalance.withdraw, Bool.or_eq_false_iff, decide_eq_false_iff_not,
    not_lt] at h ⊢
  exact (halfUp_mono h.2).trans (halfUp_zero 6).le

theorem Accounts.get?_withdrawn (h : Accounts s reservations held) {takes : List (UUID × ℚ)}
    (hnodup : (takes.map Prod.fst).Nodup) (hcovers : ∀ taken ∈ takes,
      ∀ balance ∈ s.lotBalances.get? taken.1, balance.Covers taken.2) (hget :
        s.lotBalances.get? k = some balance) :
    ∃ balance', (s.lotBalances.modifyAll InventoryLotBalance.withdraw takes).get? k =
        some balance' ∧ balance'.place = balance.place ∧
      balance'.quantityAllocated = balance.quantityAllocated ∧
      (balance'.isActive = false → balance'.quantityAllocated ≤ 0) := by
  by_cases hk : k ∈ takes.map Prod.fst
  · obtain ⟨⟨_, quantity⟩, htaken, rfl⟩ := List.mem_map.mp hk
    refine ⟨balance.withdraw quantity, ?_, rfl, ?_, allocated_withdraw_nonpos⟩
    · rw [Table.get?_modifyAll_of_mem hnodup htaken, hget, Option.map_some]
    · exact (allocated_withdraw_iff (h.atScale_allocated hget)).mpr
        (hcovers _ htaken balance hget)
  · exact ⟨balance, (Table.get?_modifyAll_of_notMem hk).trans hget, rfl, rfl,
      h.idle k balance hget⟩

theorem Accounts.withdraw (h : Accounts s reservations held) {takes : List (UUID × ℚ)}
    (hlots : LotsOnly s s') (hkinds : kindsOf s' = kindsOf s)
    (hbalances : s'.lotBalances = s.lotBalances.modifyAll InventoryLotBalance.withdraw takes)
    (hnodup : (takes.map Prod.fst).Nodup) (hcovers : ∀ taken ∈ takes,
      ∀ balance ∈ s.lotBalances.get? taken.1, balance.Covers taken.2) :
    Accounts s' reservations held := by
  -- a balance that is there afterwards was there before
  have hback : ∀ k balance', s'.lotBalances.get? k = some balance' →
      ∃ balance, s.lotBalances.get? k = some balance ∧ balance'.place = balance.place ∧
        balance'.quantityAllocated = balance.quantityAllocated ∧
        (balance'.isActive = false → balance'.quantityAllocated ≤ 0) := by
    intro k balance' hget
    have hsome : ∃ balance, s.lotBalances.get? k = some balance := by
      rw [hbalances] at hget
      by_cases hk : k ∈ takes.map Prod.fst
      · obtain ⟨⟨_, quantity⟩, htaken, rfl⟩ := List.mem_map.mp hk
        rw [Table.get?_modifyAll_of_mem hnodup htaken] at hget
        obtain ⟨balance, hbalance, -⟩ := Option.map_eq_some_iff.mp hget
        exact ⟨balance, hbalance⟩
      · exact ⟨balance', (Table.get?_modifyAll_of_notMem hk).symm.trans hget⟩
    obtain ⟨balance, hbalance⟩ := hsome
    obtain ⟨found, hfound, hrest⟩ := h.get?_withdrawn hnodup hcovers hbalance
    rw [← hbalances, hget] at hfound
    obtain rfl := Option.some.inj hfound
    exact ⟨balance, hbalance, hrest⟩
  have hstays : Stays s s' := by
    refine ⟨hlots.stay, fun k balance hget => ?_, fun itemId item hget => ?_⟩
    · obtain ⟨balance', hget', hplace, -⟩ := h.get?_withdrawn hnodup hcovers hget
      exact ⟨balance', by rw [hbalances, hget'], hplace⟩
    · have hkind := congrFun hkinds itemId
      rw [kindsOf, kindsOf, hget, Option.map_some] at hkind
      obtain ⟨item', hget', hdecide⟩ := Option.map_eq_some_iff.mp hkind
      exact ⟨item', hget', by simpa using hdecide⟩
  refine ⟨hlots.keyed h.lots, ?_, fun k balance' hget => ?_, h.bounded,
    fun k r hr hpromised => (h.holds k r hr hpromised).stays hstays, fun k balance' hget => ?_⟩
  · refine h.places.of_get? fun k balance' hget => ?_
    obtain ⟨balance, hbalance, hplace, -⟩ := hback k balance' hget
    exact ⟨balance, hbalance, hplace⟩
  · obtain ⟨_, -, -, -, hidle⟩ := hback k balance' hget
    exact hidle
  · obtain ⟨balance, hbalance, -, hallocated, -⟩ := hback k balance' hget
    rw [hallocated]
    exact h.allocated k balance hbalance

/-! ### The balance a release finds -/

/-- A release of a reservation finds the lot its promise is allocated in: it names none, its item is
in lots, or it names the lot that is kept for the allocations of the item. -/
def FindsLot (s : InventoryStore β) (r : StockReservation) : Prop :=
  ∀ lotId ∈ r.lotId, (∀ item ∈ s.items.get? r.itemId, item.InLots) ∨
    (s.lots.get? lotId).map InventoryLot.number =
      some (r.itemId, generalLotNumber r.warehouseId)

/-- **A release finds the balance in which a promise is held.** -/
theorem AllocatedIn.released (h : AllocatedIn (releaseInput r none) s balanceId balance lot item)
    (hlots : s.lots.Keyed InventoryLot.number)
    (hplaces : s.lotBalances.Keyed InventoryLotBalance.place) (hfinds : FindsLot s r)
    (lotWarehouseId : Option UUID) :
    releasedBalance? s (releaseInput r lotWarehouseId) = some ⟨balanceId, balance⟩ := by
  obtain ⟨w, hbalance, hnamed⟩ := h.named
  have horganization : lot.organizationId = r.organizationId := h.organization
  have hofItem : lot.itemId = r.itemId := h.ofItem
  have hofLot := h.ofLot
  have hfound : lotBalance? s balance.lotId w = some ⟨balanceId, balance⟩ := by
    rw [lotBalance?_eq]
    refine hplaces.find?_eq h.balanceRow ?_ fun b hb => ?_
    · simp [InventoryLotBalance.place, hbalance]
    · rw [of_decide_eq_true hb, InventoryLotBalance.place, hbalance]
  have hwarehouse : getBalanceForLot s balance.lotId r.warehouseId =
      some ⟨balanceId, balance⟩ := by
    rw [getBalanceForLot, hnamed, Option.bind_some, hfound]
  rw [releasedBalance?]
  cases hlotId : r.lotId with
  | some lotId =>
    have hsame : lotId = balance.lotId := by
      by_cases hin : item.InLots
      · rw [if_pos hin] at hofLot
        have hnames : r.lotId = some balance.lotId := hofLot
        rw [hlotId] at hnames
        exact Option.some.inj hnames
      · rw [if_neg hin] at hofLot
        have hnumber := (hfinds lotId hlotId).resolve_left fun hall => hin (hall item h.itemRow)
        obtain ⟨lot', hlot', hnumber'⟩ := Option.map_eq_some_iff.mp hnumber
        refine hlots hlot' h.lotRow (hnumber'.trans ?_)
        rw [InventoryLot.number, hofItem, hofLot]
        rfl
    have hplace : (releaseInput r lotWarehouseId).place = r.warehouseId := by
      rw [AllocationInput.place, releaseInput, hnamed]
      rfl
    have hof : lotOf s (releaseInput r lotWarehouseId) lotId = some lot := by
      rw [lotOf, hsame, h.lotRow]
      exact Option.filter_eq_some_iff.mpr ⟨rfl, by simp [releaseInput, horganization, hofItem]⟩
    rw [show (releaseInput r lotWarehouseId).lotId = some lotId from hlotId]
    dsimp only
    rw [balanceFor, hof, Option.bind_some, hplace, hsame, hwarehouse]
  | none =>
    have hin : ¬ item.InLots := fun hin => by
      rw [if_pos hin] at hofLot
      exact absurd (hlotId.symm.trans hofLot) (by simp)
    rw [if_neg hin] at hofLot
    have hgeneral : generalLot? s (releaseInput r lotWarehouseId) =
        some ⟨balance.lotId, lot⟩ := by
      refine hlots.find?_eq h.lotRow ?_ fun other hother => ?_
      · simp only [Bool.and_eq_true, decide_eq_true_eq]
        exact ⟨⟨horganization, hofItem⟩, hofLot⟩
      · simp only [Bool.and_eq_true, decide_eq_true_eq] at hother
        rw [InventoryLot.number, InventoryLot.number, hother.1.2, hother.2, hofItem, hofLot]
        rfl
    rw [show (releaseInput r lotWarehouseId).lotId = none from hlotId]
    dsimp only
    rw [hgeneral, Option.bind_some]
    exact hwarehouse

end Accounts

end DotmacErp.Inventory
