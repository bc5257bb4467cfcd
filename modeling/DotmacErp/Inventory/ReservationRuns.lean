import DotmacErp.Foundation.Scripts
import DotmacErp.Inventory.ReservationAccounting

/-!
# Reservations over whole runs

Over a run of the reservation service, mixed with issues, what is allocated of an item in a
warehouse is what its active reservations promise, and no issue changes an allocation
(`reserved_stock_accounted`), as long as nothing is fulfilled, a reservation that is made names its
warehouse, one that is given up finds the lot its allocation is in, and an issue leaves what is
allocated of the balances it takes from. That no more is fulfilled and cancelled of a reservation
than was reserved holds over any run.

Fulfilling a reservation writes its row and leaves the allocation, so that what is allocated is
more than what is promised from then on (`fulfilment_keeps_allocation`).
-/

namespace DotmacErp.Inventory

open Relational Session Rounding InventoryTransactionService InventoryBalanceService
  StockReservationService

variable {β : Type} {v : Services β} {s s' : StockStore β} {held : UUID → UUID}

/-! ### Operations -/

/-- The calls of a run over stock and reservations. -/
inductive StockOperation where
  | reserve (input : ReserveInput)
  | fulfill (reservationId : UUID) (quantity : ℚ)
  | cancel (reservationId : UUID) (lotWarehouseId : Option UUID)
  | releaseExpired (org : Option UUID) (now batchSize : ℕ)
      (lotWarehouseId : UUID → Option UUID)
  | issue (org : UUID) (input : TransactionInput) (userId : UUID)

namespace StockOperation

def run (v : Services β) : StockOperation → StockSession β PUnit
  | reserve input => (fun _ => ⟨⟩) <$> StockReservationService.reserve input
  | fulfill reservationId quantity => StockReservationService.fulfill reservationId quantity
  | cancel reservationId lotWarehouseId =>
    StockReservationService.cancel reservationId lotWarehouseId
  | releaseExpired org now batchSize lotWarehouseId =>
    (fun _ => ⟨⟩) <$>
      StockReservationService.releaseExpired org now batchSize lotWarehouseId
  | issue org input userId =>
    (fun _ => ⟨⟩) <$> onStock (createIssue v org input userId)

def after (v : Services β) (s : StockStore β) (op : StockOperation) : StockStore β :=
  commit (op.run v) s

/-- What is allocated stays what is promised: a reservation finds its warehouse or promises
nothing, nothing is fulfilled, and what is given up finds its lot. -/
def Accounted (v : Services β) (s : StockStore β) : StockOperation → Prop
  | reserve input => (after v s (reserve input)).reservations.next ≠ s.reservations.next →
    input.warehouseId.isSome = true ∨ numeric (min (getAvailable s.stock input.organizationId
      input.itemId input.warehouseId) input.quantity) = 0
  | fulfill reservationId quantity =>
    returns (StockReservationService.fulfill reservationId quantity) s = true →
      numeric quantity = 0
  | cancel reservationId _ => ∀ r ∈ s.reservations.get? reservationId,
      r.status.isActive = true → r.quantityRemaining ≠ 0 → FindsLot s.stock r
  | releaseExpired org now batchSize _ =>
    ∀ r ∈ expiredReservations s org now batchSize,
      r.row.quantityRemaining ≠ 0 → FindsLot s.stock r.row
  | issue org input userId =>
    returns (onStock (createIssue v org input userId)) s = true →
      ∀ item ∈ s.stock.items.get? input.itemId,
        ∀ taken ∈ issueTakes s.stock org item input,
          ∀ balance ∈ s.stock.lotBalances.get? taken.1, balance.Covers taken.2

end StockOperation

def stockSystem (v : Services β) : System (StockStore β) StockOperation :=
  .ofFunction
    (fun s => s.reservations = Table.empty ∧ s.stock.lots.Keyed InventoryLot.number ∧
      s.stock.lotBalances.Keyed InventoryLotBalance.place ∧
      s.stock.lotBalances.All fun balance => balance.quantityAllocated = 0)
    (StockOperation.after v)

/-! ### What the calls do -/

/-- **What `reserve` does**: nothing, or it allocates, and stores a reservation if it has. -/
theorem reserve_eq_ok {input : ReserveInput} {result : ReservationResult}
    (h : reserve input s = .ok result s') :
    s' = s ∨ ∃ quantity answer stock, 0 < quantity ∧
      quantity = min (getAvailable s.stock input.organizationId input.itemId input.warehouseId)
        input.quantity ∧
      allocateInventory (ReserveInput.allocation input quantity) s.stock = .ok answer stock ∧
      s' = { s with
        stock
        reservations := if answer
          then s.reservations.insert (ReserveInput.reservation input quantity)
          else s.reservations } := by
  have hrefused : ∀ {answer : ReservationResult},
      (pure answer : StockSession β ReservationResult) s = .ok result s' → s' = s :=
    fun h => (pure_eq_ok.mp h).2
  rw [reserve] at h
  dsimp only at h
  split_ifs at h
  · exact .inl (hrefused h)
  · exact .inl (hrefused h)
  · exact .inl (hrefused h)
  rw [get_bind] at h
  cases hfound : getReservationForLine s input.sourceType input.sourceLineId
      input.organizationId with
  | some existing =>
    rw [hfound] at h
    exact .inl (hrefused h)
  | none =>
    rw [hfound] at h
    dsimp only at h
    split at h
    · exact .inl (hrefused h)
    rename_i hnone
    split at h
    · exact .inl (hrefused h)
    obtain ⟨answer, s₁, hallocate, h⟩ := bind_eq_ok.mp h
    obtain ⟨stock, hstock, rfl⟩ := zoom_eq_ok.mp hallocate
    refine .inr ⟨_, answer, stock, not_le.mp hnone, rfl, hstock, ?_⟩
    cases answer with
    | false => exact (pure_eq_ok.mp h).2
    | true =>
      rw [if_neg (by decide)] at h
      obtain ⟨id, s₂, hadd, h⟩ := bind_eq_ok.mp h
      obtain ⟨-, rfl⟩ := pure_eq_ok.mp h
      rw [addReservation, get_bind, refuse_bind, refuse_bind] at hadd
      obtain ⟨-, -, hadd⟩ := hadd
      obtain ⟨_, s₃, hset, hadd⟩ := bind_eq_ok.mp hadd
      obtain rfl := set_eq_ok.mp hset
      exact (pure_eq_ok.mp hadd).2

variable {reservationId : UUID}

theorem getActive_eq_ok {verb : String} {r : StockReservation}
    (h : getActive reservationId verb s = .ok r s') :
    s.reservations.get? reservationId = some r ∧ r.status.isActive = true ∧ s' = s := by
  rw [getActive, get_bind, orRaise_bind] at h
  obtain ⟨found, hget, h⟩ := h
  rw [refuse_bind] at h
  obtain ⟨hactive, h⟩ := h
  obtain ⟨rfl, rfl⟩ := pure_eq_ok.mp h
  exact ⟨hget, Bool.eq_true_of_not_eq_false hactive, rfl⟩

variable {u : PUnit}

theorem modifyReservation_eq_ok {f : StockReservation → StockReservation} (h :
    modifyReservation reservationId f s = .ok u s') :
    s' = { s with reservations := s.reservations.modify reservationId f } :=
  modify_eq_ok.mp h

variable {quantity : ℚ}

/-- **What `fulfill` does.** -/
theorem fulfill_eq_ok (h : fulfill reservationId quantity s = .ok u s') :
    ∃ r, s.reservations.get? reservationId = some r ∧ r.status.isActive = true ∧ 0 < quantity ∧
      quantity ≤ r.quantityRemaining ∧
      s' = { s with reservations := s.reservations.modify reservationId (·.fulfill quantity) } := by
  rw [fulfill] at h
  obtain ⟨r, s₁, hfound, hrest⟩ := bind_eq_ok.mp h
  obtain ⟨hget, hactive, rfl⟩ := getActive_eq_ok hfound
  rw [refuse_bind, refuse_bind] at hrest
  obtain ⟨hpositive, hle, hrest⟩ := hrest
  exact ⟨r, hget, hactive, not_le.mp hpositive, not_lt.mp hle, modifyReservation_eq_ok hrest⟩

theorem deallocateInventory_ne_error {r r' : InventoryStore β} {input : AllocationInput}
    {e : InventoryError} : deallocateInventory input r ≠ .error e r' := by
  have hsync : ∀ {lotId : UUID} {pending : Option UUID} {r : InventoryStore β},
      syncLegacyLotSnapshot lotId pending r ≠ .error e r' := by
    intro lotId pending r h
    rw [syncLegacyLotSnapshot, get_bind_eq_error] at h
    split_ifs at h
    · exact absurd h (by simp)
    · exact absurd (modify_eq_error.mp h) id
  have hrewrite : ∀ {balanceId lotId : UUID} {f : InventoryLotBalance → InventoryLotBalance}
      {r : InventoryStore β}, (modifyLotBalance balanceId f >>= fun _ =>
        syncLegacyLotSnapshot lotId none >>= fun _ => pure true) r ≠ .error e r' := by
    intro balanceId lotId f r h
    rw [modifyLotBalance, modify_bind_eq_error] at h
    rcases bind_eq_error.mp h with h | ⟨_, _, -, h⟩
    · exact hsync h
    · exact absurd h (by simp)
  intro h
  rw [deallocateInventory] at h
  cases hlot : input.lotId with
  | some lotId =>
    rw [hlot] at h
    dsimp only at h
    rw [deallocateLot, get_bind_eq_error] at h
    cases hbalance : balanceFor r input lotId with
    | none =>
      rw [hbalance] at h
      exact absurd h (by simp)
    | some balance =>
      rw [hbalance] at h
      exact hrewrite h
  | none =>
    rw [hlot] at h
    dsimp only at h
    rw [deallocateGeneral, get_bind_eq_error] at h
    cases hgeneral : generalLot? r input with
    | none =>
      rw [hgeneral] at h
      exact absurd h (by simp)
    | some lot =>
      rw [hgeneral] at h
      dsimp only at h
      cases hbalance : getBalanceForLot r lot.id input.warehouseId with
      | none =>
        rw [hbalance] at h
        exact absurd h (by simp)
      | some balance =>
        rw [hbalance] at h
        exact hrewrite h

variable {reservation : Stored StockReservation} {status : ReservationStatus}

theorem releaseRemaining_ne_error {lotWarehouseId : Option UUID} {e : InventoryError} :
    releaseRemaining reservation lotWarehouseId status s ≠ .error e s' := by
  intro h
  rw [releaseRemaining] at h
  rcases bind_eq_error.mp h with h | ⟨_, _, -, h⟩
  · rw [runIf] at h
    split_ifs at h
    · have hstock : onStock (deallocateInventory (releaseInput reservation.row lotWarehouseId)) s =
          .error e s' := map_eq_error.mp h
      rw [onStock, zoom] at hstock
      cases hrun : deallocateInventory (releaseInput reservation.row lotWarehouseId) s.stock with
      | ok answer stock =>
        rw [hrun] at hstock
        exact absurd hstock (by simp)
      | error e' stock => exact deallocateInventory_ne_error hrun
    · exact absurd h (by simp)
  · exact absurd (modify_eq_error.mp h) id

/-- **What giving a reservation up does.** -/
theorem releaseRemaining_eq_ok {lotWarehouseId : Option UUID}
    (h : releaseRemaining reservation lotWarehouseId status s = .ok u s') :
    ∃ stock, s' = { s with
        stock
        reservations := s.reservations.modify reservation.id (·.close status) } ∧
      if 0 < reservation.row.quantityRemaining then ∃ answer, deallocateInventory
        (releaseInput reservation.row lotWarehouseId) s.stock = .ok answer stock
      else stock = s.stock := by
  rw [releaseRemaining] at h
  obtain ⟨_, s₁, hrelease, h⟩ := bind_eq_ok.mp h
  rw [modifyReservation_eq_ok h]
  rw [runIf] at hrelease
  split_ifs at hrelease ⊢
  · obtain ⟨answer, hstock⟩ := discard_eq_ok.mp hrelease
    obtain ⟨stock, hrun, rfl⟩ := zoom_eq_ok.mp hstock
    exact ⟨stock, rfl, answer, hrun⟩
  · obtain ⟨-, rfl⟩ := pure_eq_ok.mp hrelease
    exact ⟨s₁.stock, rfl, rfl⟩

variable {counts : ReleaseResult}

theorem releaseEach_cons {rest : List (Stored StockReservation)}
    {lotWarehouseId : UUID → Option UUID} {result : ReleaseResult}
    (h : releaseEach lotWarehouseId (reservation :: rest) counts s = .ok result s') :
    ∃ counts s₁, releaseRemaining reservation (lotWarehouseId reservation.id) .expired s =
        .ok ⟨⟩ s₁ ∧ releaseEach lotWarehouseId rest counts s₁ = .ok result s' := by
  rw [releaseEach] at h
  obtain ⟨counts', s₁, hrelease, h⟩ := bind_eq_ok.mp h
  rcases catching_eq_ok.mp hrelease with hrelease | ⟨e, s₂, hraise, -⟩
  · obtain ⟨_, s₂, hrelease, hpure⟩ := bind_eq_ok.mp hrelease
    obtain ⟨-, rfl⟩ := pure_eq_ok.mp hpure
    exact ⟨counts', s₁, hrelease, h⟩
  · rcases bind_eq_error.mp hraise with hraise | ⟨_, _, -, hraise⟩
    · exact absurd hraise releaseRemaining_ne_error
    · exact absurd hraise (by simp)

/-! ### What the calls do to the accounts -/

abbrev StockStore.Accounts (s : StockStore β) (held : UUID → UUID) : Prop :=
  Inventory.Accounts s.stock s.reservations held

theorem bounded_reservation (input : ReserveInput) (h0 : 0 ≤ quantity) :
    (ReserveInput.reservation input quantity).Bounded ∧
      (ReserveInput.reservation input quantity).promised = numeric quantity := by
  refine ⟨⟨atScale_halfUp 6 _, atScale_zero 6, atScale_zero 6, le_rfl, le_rfl, ?_⟩, ?_⟩
  · exact (add_zero (0 : ℚ)).le.trans (halfUp_nonneg h0)
  · change numeric quantity - 0 - 0 = numeric quantity
    ring

theorem accounts_reserve {input : ReserveInput} {result : ReservationResult} (h : s.Accounts held)
    (hnames : s'.reservations.next ≠ s.reservations.next → input.warehouseId.isSome = true ∨
      numeric (min (getAvailable s.stock input.organizationId input.itemId input.warehouseId)
        input.quantity) = 0)
    (hrun : reserve input s = .ok result s') : ∃ held', s'.Accounts held' := by
  rcases reserve_eq_ok hrun with rfl | ⟨quantity, answer, stock, h0, hquantity, hallocate, rfl⟩
  · exact ⟨held, h⟩
  cases allocateInventory_eq_ok hallocate with
  | refused opens => exact ⟨held, h.opens opens⟩
  | @allocated s₁ s₂ lot balance balanceId rewrites place =>
    obtain ⟨hbounded, hpromised⟩ := bounded_reservation input h0.le
    refine ⟨_, ((h.opens lot).opens balance).allocate h0.le rewrites hbounded hpromised
      fun hpromise => ?_⟩
    obtain ⟨row, lotRow, item, hin⟩ := place
    have hnext : (s.reservations.insert (ReserveInput.reservation input quantity)).next ≠
        s.reservations.next := Nat.succ_ne_self _
    have hsome := (hnames hnext).resolve_right fun hzero =>
      hpromise (hpromised.trans (hquantity ▸ hzero))
    obtain ⟨w, hw⟩ := Option.isSome_iff_exists.mp hsome
    -- what is allocated with the call is what a release of the reservation looks for
    refine ⟨row, lotRow, item, hin.balanceRow, hin.lotRow, hin.itemRow, hin.organization,
      hin.ofItem, ?_, hin.ofLot⟩
    have hplace : (ReserveInput.allocation input quantity).place =
        (releaseInput (ReserveInput.reservation input quantity) none).place := by
      simp [AllocationInput.place, ReserveInput.allocation, ReserveInput.reservation, releaseInput,
        hw]
    rw [← hplace]
    exact hin.warehouse

theorem accounts_fulfill (h : s.Accounts held)
    (hnothing : numeric quantity = 0) (hrun : fulfill reservationId quantity s = .ok u s') :
    s'.Accounts held := by
  obtain ⟨r, hget, hactive, h0, hle, rfl⟩ := fulfill_eq_ok hrun
  have hbounded := h.bounded reservationId r hget
  refine h.modify hget (hbounded.fulfill h0.le hle)
    (hbounded.promised_fulfill h0 hle hactive hnothing) fun balanceId hheld => ?_
  obtain ⟨balance, lot, item, hin⟩ := hheld
  exact ⟨balance, lot, item, hin.balanceRow, hin.lotRow, hin.itemRow, hin.organization,
    hin.ofItem, hin.warehouse, hin.ofLot⟩

theorem accounts_releaseRemaining {lotWarehouseId : Option UUID} (h : s.Accounts held)
    (hget : s.reservations.get? reservation.id = some reservation.row)
    (hactive : reservation.row.status.isActive = true)
    (hfinds : reservation.row.quantityRemaining ≠ 0 → FindsLot s.stock reservation.row)
    (hrun : releaseRemaining reservation lotWarehouseId status s = .ok u s') :
    s'.Accounts held ∧ s'.reservations = s.reservations.modify reservation.id (·.close status) ∧
      ∀ r, FindsLot s.stock r → FindsLot s'.stock r := by
  obtain ⟨stock, rfl, hstock⟩ := releaseRemaining_eq_ok hrun
  have hbounded := h.bounded _ _ hget
  have hpromised : reservation.row.promised = reservation.row.quantityRemaining := if_pos hactive
  split_ifs at hstock with hremaining
  · obtain ⟨answer, hdeallocate⟩ := hstock
    obtain ⟨balance, lot, item, hin⟩ := h.holds _ _ hget (hpromised ▸ hremaining.ne')
    have hreleased := deallocateInventory_eq_ok hdeallocate
    rw [hin.released h.lots h.places (hfinds hremaining.ne') lotWarehouseId] at hreleased
    refine ⟨h.release hget hactive hreleased status, rfl, fun r hr lotId hlotId => ?_⟩
    rcases hr lotId hlotId with hitems | hlot
    · exact .inl (hreleased.items ▸ hitems)
    · obtain ⟨row, hrow, hnumber⟩ := Option.map_eq_some_iff.mp hlot
      obtain ⟨row', hrow', horigin⟩ := hreleased.lots.stay _ _ hrow
      refine .inr (Option.map_eq_some_iff.mpr ⟨row', hrow', ?_⟩)
      exact (InventoryLot.number_eq_of_origin horigin).trans hnumber
  · -- nothing remains, so that nothing is promised before or after
    obtain rfl := hstock
    have hnone : reservation.row.quantityRemaining = 0 :=
      le_antisymm (not_lt.mp hremaining) hbounded.remaining_nonneg
    refine ⟨h.modify hget hbounded.close ?_ fun balanceId hheld => ?_, rfl, fun r hr => hr⟩
    · rw [hbounded.promised_close, hpromised, hnone]
    · obtain ⟨balance, lot, item, hin⟩ := hheld
      exact ⟨balance, lot, item, hin.balanceRow, hin.lotRow, hin.itemRow, hin.organization,
        hin.ofItem, hin.warehouse, hin.ofLot⟩

theorem accounts_releaseEach {lotWarehouseId : UUID → Option UUID}
    {reservations : List (Stored StockReservation)} {result : ReleaseResult}
    (h : s.Accounts held) (hnodup : (reservations.map Stored.id).Nodup)
    (hall : ∀ r ∈ reservations, s.reservations.get? r.id = some r.row ∧
      r.row.status.isActive = true ∧ (r.row.quantityRemaining ≠ 0 → FindsLot s.stock r.row))
    (hrun : releaseEach lotWarehouseId reservations counts s = .ok result s') :
    s'.Accounts held := by
  induction reservations generalizing s counts with
  | nil =>
    obtain ⟨-, rfl⟩ := pure_eq_ok.mp hrun
    exact h
  | cons reservation rest ih =>
    rw [List.map_cons, List.nodup_cons] at hnodup
    obtain ⟨counts', s₁, hrelease, hrest⟩ := releaseEach_cons hrun
    obtain ⟨hget, hactive, hfinds⟩ := hall reservation List.mem_cons_self
    obtain ⟨haccounts, hreservations, hkept⟩ :=
      accounts_releaseRemaining h hget hactive hfinds hrelease
    refine ih haccounts hnodup.2 (fun r hr => ?_) hrest
    obtain ⟨hget', hactive', hfinds'⟩ := hall r (List.mem_cons_of_mem _ hr)
    have hne : r.id ≠ reservation.id := fun heq =>
      hnodup.1 (List.mem_map.mpr ⟨r, hr, heq⟩)
    exact ⟨by rw [hreservations, Table.get?_modify_of_ne hne, hget'], hactive',
      fun hremaining => hkept _ (hfinds' hremaining)⟩

theorem mem_expiredReservations (org : Option UUID) (now batchSize : ℕ) :
    ((expiredReservations s org now batchSize).map Stored.id).Nodup ∧
      ∀ r ∈ expiredReservations s org now batchSize,
        s.reservations.get? r.id = some r.row ∧ r.row.status.isActive = true := by
  have hselected : ∀ p : StockReservation → Bool,
      ((s.reservations.select p).map Stored.id).Nodup := fun p =>
    (List.filter_sublist.map Stored.id).nodup s.reservations.nodup_ids
  constructor
  · refine List.Nodup.sublist ((List.take_sublist _ _).map Stored.id) ?_
    exact ((List.perm_insertionSort _ _).map Stored.id).nodup_iff.mpr (hselected _)
  · intro r hr
    have hmem := (List.mem_insertionSort _).mp (List.mem_of_mem_take hr)
    obtain ⟨hget, hwanted⟩ := Table.mem_select.mp hmem
    simp only [Bool.and_eq_true] at hwanted
    exact ⟨hget, hwanted.1.1⟩

theorem accounts_issue {org userId id : UUID} {input : TransactionInput}
    (h : s.Accounts held)
    (hcovers : ∀ item ∈ s.stock.items.get? input.itemId,
      ∀ taken ∈ issueTakes s.stock org item input,
        ∀ balance ∈ s.stock.lotBalances.get? taken.1, balance.Covers taken.2)
    (hrun : onStock (createIssue v org input userId) s = .ok id s') :
    s'.Accounts held ∧ ∀ k balance, s.stock.lotBalances.get? k = some balance →
      ∃ balance', s'.stock.lotBalances.get? k = some balance' ∧
        balance'.quantityAllocated = balance.quantityAllocated := by
  obtain ⟨stock, hissue, rfl⟩ := zoom_eq_ok.mp hrun
  obtain ⟨item, hitem, hlots, hkinds, hbalances⟩ := createIssue_takes hissue
  have hcovered := hcovers item hitem.found
  refine ⟨h.withdraw hlots hkinds hbalances nodup_issueTakes hcovered, fun k balance hget => ?_⟩
  obtain ⟨balance', hget', -, hallocated, -⟩ := h.get?_withdrawn nodup_issueTakes hcovered hget
  exact ⟨balance', hbalances ▸ hget', hallocated⟩

/-- **One operation** that writes both sides keeps the accounts. -/
theorem accounts_after (h : s.Accounts held) {op : StockOperation} (hop : op.Accounted v s) :
    ∃ held', (op.after v s).Accounts held' := by
  refine commit_induction (P := fun s' => op.after v s = s' → ∃ held', s'.Accounts held')
    (fun _ => ⟨held, h⟩) (fun u s' hrun hafter => ?_) rfl
  cases op with
  | reserve input =>
    obtain ⟨result, hreserve, -⟩ := map_eq_ok.mp hrun
    refine accounts_reserve h (fun hnext => hop ?_) hreserve
    rwa [hafter]
  | fulfill reservationId quantity =>
    exact ⟨held, accounts_fulfill h (hop (returns_iff.mpr ⟨u, s', hrun⟩)) hrun⟩
  | cancel reservationId lotWarehouseId =>
    obtain ⟨r, s₁, hfound, hrest⟩ := bind_eq_ok.mp hrun
    obtain ⟨hget, hactive, rfl⟩ := getActive_eq_ok hfound
    exact ⟨held, (accounts_releaseRemaining h hget hactive (hop r hget hactive) hrest).1⟩
  | releaseExpired org now batchSize lotWarehouseId =>
    obtain ⟨result, hrelease, -⟩ := map_eq_ok.mp hrun
    rw [releaseExpired, get_bind] at hrelease
    obtain ⟨hnodup, hactive⟩ := mem_expiredReservations (s := s) org now batchSize
    exact ⟨held, accounts_releaseEach h hnodup
      (fun r hr => ⟨(hactive r hr).1, (hactive r hr).2, hop r hr⟩) hrelease⟩
  | issue org input userId =>
    obtain ⟨id, hissue, -⟩ := map_eq_ok.mp hrun
    exact ⟨held, (accounts_issue h (hop (returns_iff.mpr ⟨id, s', hissue⟩)) hissue).1⟩

/-! ### What holds of the quantities alone -/

theorem bounded_releaseEach {lotWarehouseId : UUID → Option UUID}
    {reservations : List (Stored StockReservation)} {result : ReleaseResult}
    (h : s.reservations.All StockReservation.Bounded)
    (hrun : releaseEach lotWarehouseId reservations counts s = .ok result s') :
    s'.reservations.All StockReservation.Bounded := by
  induction reservations generalizing s counts with
  | nil =>
    obtain ⟨-, rfl⟩ := pure_eq_ok.mp hrun
    exact h
  | cons reservation rest ih =>
    obtain ⟨counts', s₁, hrelease, hrest⟩ := releaseEach_cons hrun
    refine ih ?_ hrest
    obtain ⟨stock, rfl, -⟩ := releaseRemaining_eq_ok hrelease
    exact h.modify fun row hrow => (h _ _ hrow).close

/-- **Any operation** keeps them. -/
theorem bounded_after (h : s.reservations.All StockReservation.Bounded) (op : StockOperation) :
    (op.after v s).reservations.All StockReservation.Bounded := by
  refine commit_induction
    (P := fun s' : StockStore β => s'.reservations.All StockReservation.Bounded) h
    fun u s' hrun => ?_
  cases op with
  | reserve input =>
    obtain ⟨result, hreserve, -⟩ := map_eq_ok.mp hrun
    rcases reserve_eq_ok hreserve with rfl | ⟨quantity, answer, stock, h0, -, -, rfl⟩
    · exact h
    · cases answer with
      | false => exact h
      | true => exact h.insert (bounded_reservation _ h0.le).1
  | fulfill reservationId quantity =>
    obtain ⟨r, hget, -, h0, hle, rfl⟩ := fulfill_eq_ok hrun
    refine h.modify fun row hrow => ?_
    rw [hget] at hrow
    rw [← Option.some.inj hrow]
    exact (h _ _ hget).fulfill h0.le hle
  | cancel reservationId lotWarehouseId =>
    obtain ⟨r, s₁, hfound, hrest⟩ := bind_eq_ok.mp hrun
    obtain ⟨-, -, rfl⟩ := getActive_eq_ok hfound
    obtain ⟨stock, rfl, -⟩ := releaseRemaining_eq_ok hrest
    exact h.modify fun row hrow => (h _ _ hrow).close
  | releaseExpired org now batchSize lotWarehouseId =>
    obtain ⟨result, hrelease, -⟩ := map_eq_ok.mp hrun
    rw [releaseExpired, get_bind] at hrelease
    exact bounded_releaseEach h hrelease
  | issue org input userId =>
    obtain ⟨id, hissue, -⟩ := map_eq_ok.mp hrun
    obtain ⟨stock, -, rfl⟩ := zoom_eq_ok.mp hissue
    exact h

/-! ### Runs -/

theorem exists_accounts (h : (stockSystem v).ReachableWithin (fun s op => op.Accounted v s) s) :
    ∃ held, s.Accounts held := by
  refine h.invariant (P := fun s => ∃ held, s.Accounts held) (fun s hs => ?_) ?_
  · obtain ⟨hnone, hlots, hplaces, hallocated⟩ := hs
    refine ⟨id, hlots, hplaces, hallocated.imp fun _ hzero _ => hzero.le, ?_, ?_, ?_⟩
    · rw [hnone]
      exact Table.all_empty
    · intro k r hget
      rw [hnone] at hget
      exact absurd hget (by simp)
    · intro k balance hget
      rw [hnone, hallocated k balance hget]
      rfl
  · rintro s op s' ⟨held, hs⟩ hop rfl
    exact accounts_after hs hop

/-- **Reserved stock is accounted for**: no more is fulfilled and cancelled of a reservation than
was reserved; and in runs whose operations write both sides, what is allocated of an item in a
warehouse is what its reservations promise, and an issue leaves every allocation. -/
theorem reserved_stock_accounted (v : Services β) :
    (∀ s, (stockSystem v).Reachable s → s.reservations.All fun r =>
      0 ≤ r.quantityFulfilled + r.quantityCancelled ∧
        r.quantityFulfilled + r.quantityCancelled ≤ r.quantityReserved) ∧
    ∀ s, (stockSystem v).ReachableWithin (fun s op => op.Accounted v s) s →
      (∀ org itemId warehouseId,
        getReserved s.stock org itemId warehouseId =
          getReservedQuantity s org itemId warehouseId) ∧
      ∀ org input userId,
        StockOperation.Accounted v s (.issue org input userId) →
        ∀ k balance, s.stock.lotBalances.get? k = some balance →
          ∃ balance', (StockOperation.after v s
              (.issue org input userId)).stock.lotBalances.get? k = some balance' ∧
            balance'.quantityAllocated = balance.quantityAllocated := by
  refine ⟨fun s hs => ?_, fun s hs => ⟨fun org itemId warehouseId => ?_, ?_⟩⟩
  · have hbounded : s.reservations.All StockReservation.Bounded := by
      refine hs.invariant (P := fun s => s.reservations.All StockReservation.Bounded)
        (fun s hs => ?_) ?_
      · rw [hs.1]
        exact Table.all_empty
      · rintro s op s' h rfl
        exact bounded_after h op
    exact hbounded.imp fun r h => ⟨add_nonneg h.fulfilled_nonneg h.cancelled_nonneg, h.le⟩
  · obtain ⟨held, haccounts⟩ := exists_accounts hs
    exact haccounts.reserved_eq org itemId warehouseId
  · intro org input userId hop k balance hget
    obtain ⟨held, haccounts⟩ := exists_accounts hs
    refine commit_induction (P := fun s' : StockStore β => ∃ balance', s'.stock.lotBalances.get? k =
      some balance' ∧ balance'.quantityAllocated = balance.quantityAllocated)
      ⟨balance, hget, rfl⟩ fun u s' hrun => ?_
    obtain ⟨id, hissue, -⟩ := map_eq_ok.mp hrun
    have hcovers := hop (returns_iff.mpr ⟨id, s', hissue⟩)
    exact (accounts_issue haccounts hcovers hissue).2 k balance hget

/-! ### Two runs -/

/-- Ten pieces of a first-in-first-out item in a lot, and ten of an item without lots. -/
def promisedRoom : StockStore Unit where
  stock := { (lotRoom : InventoryStore Unit) with
    items := (Table.empty.insert { organizationId := 9, costingMethod := .fifo }).insert {
      organizationId := 9
      costingMethod := .weightedAverage }
    lots := Table.empty.insert {
      organizationId := 9
      itemId := 0
      lotNumber := "A"
      receivedDate := 1
      unitCost := 4
      initialQuantity := 10 }
    lotBalances := Table.empty.insert {
      organizationId := 9
      lotId := 0
      warehouseId := some 0
      quantityOnHand := 10
      quantityAvailable := 10 }
    transactions := (Table.empty.insert (arrival 0)).insert (arrival 1) }
where
  /-- The receipt of ten pieces of an item. -/
  arrival (itemId : UUID) : InventoryTransaction := {
    organizationId := 9
    transactionType := .receipt
    itemId := itemId
    warehouseId := 0
    quantity := 10
    unitCost := 4
    totalCost := 40
    quantityBefore := 0
    quantityAfter := 10 }

theorem init_promisedRoom (v : Services Unit) : (stockSystem v).init promisedRoom := by
  refine ⟨rfl, Table.keyed_empty.insert rfl, Table.keyed_empty.insert rfl, ?_⟩
  exact Table.all_empty.insert rfl

def reserveFour (itemId lineId : UUID) (lotId : Option UUID) (expiryHours : ℕ) : StockOperation :=
  .reserve {
    organizationId := 9
    itemId := itemId
    quantity := 4
    sourceType := .salesOrder
    sourceId := 1
    sourceLineId := lineId
    warehouseId := some 0
    lotId := lotId
    config := { enabled := true, expiryHours := expiryHours } }

/-- Four are promised of the lot and four of the other item, twice; five pieces of the lot are
issued, one promise is given up and one expires. -/
def promises : List StockOperation :=
  [reserveFour 0 1 (some 0) 0, reserveFour 1 2 none 0, reserveFour 1 3 none 1,
    .issue 9 (moveLotOf .issue 0 5 none "").input 1, .cancel 1 none,
    .releaseExpired (some 9) 3600 10 fun _ => none]

instance (s : InventoryStore β) (r : StockReservation) : Decidable (FindsLot s r) :=
  inferInstanceAs (Decidable (∀ lotId ∈ r.lotId, (∀ item ∈ s.items.get? r.itemId, item.InLots) ∨ _))

instance (balance : InventoryLotBalance) (quantity : ℚ) : Decidable (balance.Covers quantity) :=
  inferInstanceAs (Decidable (_ ≤ _))

instance (v : Services β) (s : StockStore β) (op : StockOperation) :
    Decidable (op.Accounted v s) := by
  cases op with
  | reserve input => exact inferInstanceAs (Decidable (_ ≠ _ → _ ∨ _))
  | fulfill reservationId quantity =>
    exact inferInstanceAs (Decidable (_ = _ → numeric quantity = 0))
  | cancel reservationId lotWarehouseId =>
    exact inferInstanceAs (Decidable (∀ r ∈ s.reservations.get? reservationId,
      r.status.isActive = true → r.quantityRemaining ≠ 0 → FindsLot s.stock r))
  | releaseExpired org now batchSize lotWarehouseId =>
    exact inferInstanceAs (Decidable (∀ r ∈ expiredReservations s org now batchSize,
      r.row.quantityRemaining ≠ 0 → FindsLot s.stock r.row))
  | issue org input userId =>
    exact inferInstanceAs (Decidable (_ = _ → ∀ item ∈ s.stock.items.get? input.itemId,
      ∀ taken ∈ issueTakes s.stock org item input,
        ∀ balance ∈ s.stock.lotBalances.get? taken.1, balance.Covers taken.2))

theorem reserved_stock_accounted_sample :
    let s := System.after (StockOperation.after plainServices) promisedRoom promises
    (getReservedQuantity s 9 0 (some 0), getReservedQuantity s 9 1 (some 0)) = (4, 0) ∧
      getReserved s.stock 9 0 (some 0) = 4 ∧ getReserved s.stock 9 1 (some 0) = 0 ∧
      getOnHand s.stock 9 0 (some 0) = 5 := by
  have hrun : (stockSystem plainServices).ReachableWithin
      (fun s op => op.Accounted plainServices s)
      (System.after (StockOperation.after plainServices) promisedRoom promises) :=
    System.reachableWithin_after (init_promisedRoom plainServices) (by decide +kernel)
  have hquantities : (getReservedQuantity (System.after (StockOperation.after plainServices)
      promisedRoom promises) 9 0 (some 0), getReservedQuantity (System.after
        (StockOperation.after plainServices) promisedRoom promises) 9 1 (some 0)) = (4, 0) := by
    decide +kernel
  have hagree := ((reserved_stock_accounted plainServices).2 _ hrun).1
  obtain ⟨hfirst, hsecond⟩ := Prod.mk.inj hquantities
  exact ⟨hquantities, (hagree 9 0 (some 0)).trans hfirst, (hagree 9 1 (some 0)).trans hsecond,
    by decide +kernel⟩

def fulfilledPromise : List StockOperation := [reserveFour 1 1 none 0, .fulfill 0 4]

/-- **Fulfilment leaves the allocation**: nothing is promised any more, and four stay allocated. -/
theorem fulfilment_keeps_allocation :
    ¬ ∀ (v : Services Unit) (s : StockStore Unit), (stockSystem v).Reachable s →
      ∀ org itemId warehouseId,
        getReserved s.stock org itemId warehouseId =
          getReservedQuantity s org itemId warehouseId := by
  intro h
  have hrun : (stockSystem plainServices).Reachable
      (System.after (StockOperation.after plainServices) promisedRoom fulfilledPromise) :=
    System.reachableWithin_after (init_promisedRoom plainServices) (System.allowedAlong_trivial _)
  have hbroken : getReserved (System.after (StockOperation.after plainServices) promisedRoom
      fulfilledPromise).stock 9 1 (some 0) ≠ getReservedQuantity
        (System.after (StockOperation.after plainServices) promisedRoom fulfilledPromise) 9 1
          (some 0) := by
    decide +kernel
  exact hbroken (h plainServices _ hrun 9 1 (some 0))

end DotmacErp.Inventory
