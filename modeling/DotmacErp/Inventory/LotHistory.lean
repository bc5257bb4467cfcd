import DotmacErp.Foundation.Scripts
import DotmacErp.Inventory.LotMovements
import DotmacErp.Inventory.LotQuantities
import Mathlib.Algebra.BigOperators.Pi
import Mathlib.Algebra.Group.Pi.Basic

/-!
# Lots and the movements recorded for them

A movement of an item whose stock is in lots names the lot it is of, so that what is on hand of a
lot in a warehouse can be asked of its balance, or summed up from the movements recorded for it.

The two agree as long as every movement does to the lot it names what it records
(`lots_match_history`). Two kinds of movement do not. An issue of a first-in-first-out item
consumes the oldest layers, however many it takes, and records one lot: the oldest one, or for a
lot-tracked item the lot that was asked for, which was checked and need not be touched. And a
movement that does not reconcile with the balance of its item (`TransactionInput.Reconciles`)
does not reconcile with its lot either.
-/

namespace DotmacErp.Inventory

open Relational Session Rounding InventoryTransactionService

variable {β : Type} {s s' : InventoryStore β} {v : Services β}

/-! ### Two records of the same stock -/

def lotMovements (transactions : Table InventoryTransaction) (lotId warehouseId : UUID) :
    List InventoryTransaction :=
  (transactions.select fun t => t.lotId = some lotId && t.warehouseId = warehouseId).map Stored.row

def recordedOf (s : InventoryStore β) (lotId warehouseId : UUID) : ℚ :=
  ((lotMovements s.transactions lotId warehouseId).map fun t =>
    t.transactionType.net t.quantity).sum

/-- The item of the call is kept in lots. -/
def OnLots (s : InventoryStore β) (c : MovementCall) : Prop :=
  ∀ item ∈ s.items.get? c.input.itemId, item.InLots

instance (s : InventoryStore β) (c : MovementCall) : Decidable (OnLots s c) :=
  inferInstanceAs (Decidable (∀ item ∈ s.items.get? c.input.itemId, item.InLots))

def MovementCall.layers (s : InventoryStore β) (c : MovementCall) : List FifoLayer :=
  fifoLayers s c.organizationId c.input.itemId c.input.warehouseId

/-- An issue of a first-in-first-out item takes no more than the oldest layer has, which for a
lot-tracked item is of the lot that is asked for. -/
def TakesOldest (s : InventoryStore β) (c : MovementCall) : Prop :=
  c.input.transactionType.IsIssue → ∀ item ∈ s.items.get? c.input.itemId,
    item.costingMethod = .fifo → ∀ layer ∈ (c.layers s).head?,
      numeric c.input.quantity ≤ layer.quantityOnHand ∧
        (item.trackLots = true → numeric c.input.quantity ≠ 0 →
          c.input.lotId = some layer.lotId)

instance (s : InventoryStore β) (c : MovementCall) : Decidable (TakesOldest s c) :=
  inferInstanceAs (Decidable (_ → ∀ item ∈ s.items.get? c.input.itemId, _ →
    ∀ layer ∈ (c.layers s).head?, _ ∧ _))

structure Unmoved (s : InventoryStore β) : Prop where
  transactions : s.transactions = Table.empty
  lotBalances : s.lotBalances = Table.empty

def movementSystem (v : Services β) : System (InventoryStore β) MovementCall :=
  .ofFunction Unmoved (MovementCall.after v)

/-- The movement records the lot that its quantity is taken from. -/
def RecordsItsLot (v : Services β) (s : InventoryStore β) (c : MovementCall) : Prop :=
  OnLots s c ∧ (returns (c.run v) s → c.input.Reconciles ∧ TakesOldest s c)

instance (v : Services β) (s : InventoryStore β) (c : MovementCall) :
    Decidable (RecordsItsLot v s c) :=
  inferInstanceAs (Decidable (_ ∧ (_ → _ ∧ _)))

/-! ### Changes of the balances -/

def onHandIn (balances : Table InventoryLotBalance) (place : UUID × Option UUID) : ℚ :=
  (balances.at? InventoryLotBalance.place place).elim 0 InventoryLotBalance.quantityOnHand

/-- The balances have changed by `δ`; each place has one, and each is as `P` says. -/
structure Restocked (P : InventoryLotBalance → Prop) (balances balances' :
    Table InventoryLotBalance)
    (δ : UUID × Option UUID → ℚ) : Prop where
  keyed : balances'.Keyed InventoryLotBalance.place
  rows : balances'.All P
  onHand : ∀ place, onHandIn balances' place = onHandIn balances place + δ place

section Restocked

variable {P : InventoryLotBalance → Prop} {balances balances₁ balances' : Table InventoryLotBalance}
  {δ δ' : UUID × Option UUID → ℚ} {balance : InventoryLotBalance}

theorem Restocked.refl (hkeyed : balances.Keyed InventoryLotBalance.place)
    (hrows : balances.All P) : Restocked P balances balances 0 :=
  ⟨hkeyed, hrows, fun _ => (add_zero _).symm⟩

theorem Restocked.trans (h : Restocked P balances balances₁ δ)
    (h' : Restocked P balances₁ balances' δ') : Restocked P balances balances' (δ + δ') := by
  refine ⟨h'.keyed, h'.rows, fun place => ?_⟩
  rw [h'.onHand, h.onHand, Pi.add_apply, add_assoc]

theorem restocked_modify {f : InventoryLotBalance → InventoryLotBalance} {balanceId : UUID}
    {change : ℚ} (hkeyed : balances.Keyed InventoryLotBalance.place) (hrows : balances.All P)
    (hplace : ∀ balance, (f balance).place = balance.place)
    (hget : balances.get? balanceId = some balance) (hP : P (f balance))
    (honHand : (f balance).quantityOnHand = balance.quantityOnHand + change) :
    Restocked P balances (balances.modify balanceId f) (Pi.single balance.place change) := by
  refine ⟨hkeyed.modify hplace balanceId, hrows.modify fun a ha => ?_, fun place => ?_⟩
  · rw [hget] at ha
    rwa [← Option.some.inj ha]
  · rw [onHandIn, hkeyed.at?_modify hplace hget, Pi.single_apply]
    by_cases hp : balance.place = place
    · rw [if_pos hp, if_pos hp.symm, ← hp, onHandIn, hkeyed.at?_of_get? hget]
      exact honHand
    · rw [if_neg hp, if_neg (Ne.symm hp), add_zero]
      rfl

theorem restocked_insert (hkeyed : balances.Keyed InventoryLotBalance.place)
    (hrows : balances.All P)
    (hnew : balances.at? InventoryLotBalance.place balance.place = none) (hP : P balance) :
    Restocked P balances (balances.insert balance)
      (Pi.single balance.place balance.quantityOnHand) := by
  refine ⟨hkeyed.insert hnew, hrows.insert hP, fun place => ?_⟩
  rw [onHandIn, hkeyed.at?_insert hnew, Pi.single_apply]
  by_cases hp : balance.place = place
  · rw [if_pos hp, if_pos hp.symm, ← hp, onHandIn, hnew]
    exact (zero_add _).symm
  · rw [if_neg hp, if_neg (Ne.symm hp), add_zero]
    rfl

theorem restocked_openBalance (lotId warehouseId : UUID) (lot : InventoryLot)
    (hkeyed : balances.Keyed InventoryLotBalance.place) (hrows : balances.All P)
    (hP : P (freshBalance lotId lot warehouseId)) :
    Restocked P balances (openBalance lotId lot warehouseId balances) 0 := by
  rw [openBalance]
  split_ifs with hopen
  · exact .refl hkeyed hrows
  · have hinsert := restocked_insert hkeyed hrows
      (Option.not_isSome_iff_eq_none.mp hopen : balances.at? InventoryLotBalance.place
        (freshBalance lotId lot warehouseId).place = none) hP
    have hzero : (freshBalance lotId lot warehouseId).quantityOnHand = 0 := rfl
    rwa [hzero, Pi.single_zero] at hinsert

end Restocked

/-! ### Balances nothing is promised of -/

/-- A sound balance of which nothing is allocated or quarantined. -/
structure InventoryLotBalance.Settled (balance : InventoryLotBalance) : Prop
    extends balance.Sound where
  allocated : balance.quantityAllocated = 0
  quarantined : balance.isQuarantined = false

namespace InventoryLotBalance.Settled

variable {balance : InventoryLotBalance} {quantity : ℚ}

theorem available_eq (h : balance.Settled) :
    balance.quantityAvailable = balance.quantityOnHand := by
  rw [h.consistent.available, h.quarantined, if_neg Bool.false_ne_true, h.allocated, sub_zero]

theorem deposit (h : balance.Settled) (hq : 0 ≤ quantity) : (balance.deposit quantity).Settled where
  atScale := h.atScale.deposit
  consistent := (consistent_deposit_iff h.consistent h.atScale hq).mpr fun hquarantined =>
    absurd (h.quarantined.symm.trans hquarantined) Bool.false_ne_true
  allocated := h.allocated
  quarantined := h.quarantined

theorem adjust (h : balance.Settled) (hsum : 0 ≤ balance.quantityOnHand + quantity) :
    (balance.adjust quantity).Settled where
  atScale := h.atScale.adjust
  consistent := by
    rw [consistent_adjust_iff h.consistent h.atScale hsum]
    refine ⟨halfUp_nonneg ?_, fun hquarantined =>
      absurd (h.quarantined.symm.trans hquarantined) Bool.false_ne_true⟩
    rw [h.allocated, sub_zero]
    exact hsum
  allocated := h.allocated
  quarantined := h.quarantined

theorem withdraw (h : balance.Settled) (hq : quantity ≤ balance.quantityOnHand) :
    (balance.withdraw quantity).Settled where
  atScale := atScale_withdraw
  consistent := h.consistent.withdraw h.atScale h.quarantined hq
  allocated := by
    have hcut : ¬ 0 > balance.quantityOnHand - quantity := by linarith
    simp only [InventoryLotBalance.withdraw, h.allocated, if_neg hcut]
    exact halfUp_zero 6
  quarantined := h.quarantined

end InventoryLotBalance.Settled

theorem settled_freshBalance (lotId warehouseId : UUID) (lot : InventoryLot) :
    (freshBalance lotId lot warehouseId).Settled :=
  ⟨sound_freshBalance lotId warehouseId lot, rfl, rfl⟩

variable {input : TransactionInput}

theorem settled_openingBalance (item : Item) (lotId : UUID)
    (hq : 0 ≤ input.quantity) : (openingBalance item lotId input).Settled :=
  ⟨sound_openingBalance item lotId hq, rfl, rfl⟩

def OfSettledLot (lots : Table InventoryLot) (balance : InventoryLotBalance) : Prop :=
  balance.Settled ∧ (lots.get? balance.lotId).isSome = true

theorem OfSettledLot.of_stay {balance : InventoryLotBalance} (hstay : LotsStay s s')
    (h : OfSettledLot s.lots balance) : OfSettledLot s'.lots balance := by
  obtain ⟨lot, hlot⟩ := Option.isSome_iff_exists.mp h.2
  obtain ⟨lot', hlot', -⟩ := hstay _ lot hlot
  exact ⟨h.1, by rw [hlot']; rfl⟩

/-! ### What a call does to the lots -/

/-- **What is on hand of every lot is what its movements say.** -/
structure Tallies (s : InventoryStore β) : Prop where
  keyed : s.lotBalances.Keyed InventoryLotBalance.place
  rows : s.lotBalances.All (OfSettledLot s.lots)
  tally : ∀ lotId warehouseId, onHandOf s lotId warehouseId = recordedOf s lotId warehouseId

theorem lotMovements_insert (transactions : Table InventoryTransaction) (t : InventoryTransaction)
    (lotId warehouseId : UUID) :
    lotMovements (transactions.insert t) lotId warehouseId =
      lotMovements transactions lotId warehouseId ++
        if t.lotId = some lotId ∧ t.warehouseId = warehouseId then [t] else [] := by
  simp only [lotMovements, Table.select, Table.insert, List.filter_append, List.map_append,
    ← Bool.decide_and]
  by_cases h : t.lotId = some lotId ∧ t.warehouseId = warehouseId <;> simp [h]

theorem recordedOf_insert {t : InventoryTransaction} {lotId warehouseId : UUID}
    (h : s'.transactions = s.transactions.insert t) (hlot : t.lotId = some lotId)
    (hwarehouse : t.warehouseId = warehouseId) (k w : UUID) :
    recordedOf s' k w = recordedOf s k w +
      (Pi.single (lotId, some warehouseId) (t.transactionType.net t.quantity) :
        UUID × Option UUID → ℚ) (k, some w) := by
  rw [recordedOf, recordedOf, h, lotMovements_insert, hlot, hwarehouse, List.map_append,
    List.sum_append, Pi.single_apply]
  by_cases hkw : lotId = k ∧ warehouseId = w
  · rw [if_pos ⟨congrArg some hkw.1, hkw.2⟩, if_pos (by rw [hkw.1, hkw.2])]
    simp
  · rw [if_neg fun h => hkw ⟨Option.some.inj h.1, h.2⟩, if_neg fun h => hkw ?_]
    · rfl
    · obtain ⟨hk, hw⟩ := Prod.mk.inj h
      exact ⟨hk.symm, (Option.some.inj hw).symm⟩

theorem Tallies.step (h : Tallies s) {δ : UUID × Option UUID → ℚ}
    (hchange : Restocked (OfSettledLot s'.lots) s.lotBalances s'.lotBalances δ)
    (hrecord : ∀ k w, recordedOf s' k w = recordedOf s k w + δ (k, some w)) : Tallies s' where
  keyed := hchange.keyed
  rows := hchange.rows
  tally k w := by
    have honHand := hchange.onHand (k, some w)
    rw [hrecord, ← h.tally]
    exact honHand

theorem Tallies.receives (h : Tallies s) {item : Item} {lotId : UUID}
    (hq : 0 < input.quantity) (hr : ReceivesLot item input lotId s s') :
    Restocked (OfSettledLot s'.lots) s.lotBalances s'.lotBalances
      (Pi.single (lotId, some input.warehouseId) (numeric input.quantity)) := by
  cases hr with
  | into lot entered found ofItem lots balanceId balances balance =>
    have hrows := h.rows.imp fun _ => OfSettledLot.of_stay lots.stay
    obtain ⟨lot', hlot', -⟩ := lots.stay _ lot found
    have hopen := restocked_openBalance lotId input.warehouseId lot h.keyed
      hrows ⟨settled_freshBalance lotId input.warehouseId lot, by
        change (s'.lots.get? lotId).isSome = true
        rw [hlot']
        rfl⟩
    have hrow := hopen.rows _ _ balance
    have hmodify := restocked_modify (f := (·.deposit input.quantity)) hopen.keyed hopen.rows
      (fun _ => rfl) balance ⟨hrow.1.deposit hq.le, hrow.2⟩
      (InventoryLotBalance.onHand_deposit hrow.1.atScale hrow.1.consistent.onHand_nonneg hq.le)
    rw [place_getD] at hmodify
    rw [balances]
    have hboth := hopen.trans hmodify
    rwa [zero_add] at hboth
  | opened lot lots new ofItem balances =>
    have hstay : LotsStay s s' := fun k lot' hlot' =>
      ⟨lot', by rw [lots]; exact Table.get?_insert_of_some hlot' _, rfl⟩
    have hrows := h.rows.imp fun _ => OfSettledLot.of_stay hstay
    -- the lot is new, so that no balance is of it
    have hnew : s.lotBalances.at? InventoryLotBalance.place
        (openingBalance item lotId input).place = none := by
      rw [Table.at?_eq_none]
      intro k balance hk hplace
      have hown := (h.rows k balance hk).2
      have hlot : balance.lotId = s.lots.next := by
        rw [← new]
        exact congrArg Prod.fst hplace
      rw [hlot, Table.get?_next] at hown
      exact absurd hown (by simp)
    rw [balances]
    refine restocked_insert h.keyed hrows hnew ⟨settled_openingBalance item lotId hq.le, ?_⟩
    change (s'.lots.get? lotId).isSome = true
    rw [lots, new, Table.get?_insert_self]
    rfl

variable {quantity : ℚ}

theorem restocked_withdraw {lots : Table InventoryLot} {balances : Table InventoryLotBalance}
    {balance : InventoryLotBalance} {balanceId : UUID}
    (hkeyed : balances.Keyed InventoryLotBalance.place)
    (hrows : balances.All (OfSettledLot lots)) (hget : balances.get? balanceId = some balance)
    (hq : quantity ≤ balance.quantityOnHand) (htie : ¬ Tie 6 quantity) :
    Restocked (OfSettledLot lots) balances (balances.modify balanceId (·.withdraw quantity))
      (Pi.single balance.place (-numeric quantity)) := by
  have hrow := hrows _ _ hget
  refine restocked_modify hkeyed hrows (fun _ => rfl) hget ⟨hrow.1.withdraw hq, hrow.2⟩ ?_
  rw [InventoryLotBalance.onHand_withdraw hrow.1.atScale htie, sub_eq_add_neg]

/-! ### Consuming layers -/

theorem consumption_bounds {layers : List FifoLayer}
    (hlayers : ∀ layer ∈ layers, 0 < layer.quantityOnHand ∧ AtScale 6 layer.quantityOnHand)
    (htie : ¬ Tie 6 quantity) {taken : FifoLayer × ℚ} (h : taken ∈ consumption layers quantity) :
    0 ≤ taken.2 ∧ taken.2 ≤ quantity ∧ ¬ Tie 6 taken.2 := by
  induction layers generalizing quantity with
  | nil => exact absurd h (by simp [consumption])
  | cons layer layers ih =>
    rw [consumption] at h
    split_ifs at h with hdone
    · exact absurd h (by simp)
    obtain ⟨hpositive, hscale⟩ := hlayers layer List.mem_cons_self
    have hmin : 0 ≤ min layer.quantityOnHand quantity :=
      le_min hpositive.le (not_le.mp hdone).le
    have htaken := not_tie_min hscale htie
    rcases List.mem_cons.mp h with rfl | h
    · exact ⟨hmin, min_le_right _ _, htaken.1⟩
    · obtain ⟨h0, hle, htie'⟩ :=
        ih (fun layer hlayer => hlayers layer (List.mem_cons_of_mem _ hlayer)) htaken.2 h
      exact ⟨h0, hle.trans (by linarith), htie'⟩

def takenFrom (warehouseId : UUID) (consumed : List (FifoLayer × ℚ)) : UUID × Option UUID → ℚ :=
  (consumed.map fun taken =>
    (Pi.single (taken.1.lotId, some warehouseId) (-numeric taken.2) :
      UUID × Option UUID → ℚ)).sum

theorem restocked_withdrawLayers {lots : Table InventoryLot} (warehouseId : UUID)
    {consumed : List (FifoLayer × ℚ)} {balances : Table InventoryLotBalance}
    (hkeyed : balances.Keyed InventoryLotBalance.place) (hrows : balances.All (OfSettledLot lots))
    (hnodup : (consumed.map fun taken => taken.1.balanceId).Nodup)
    (hlayers : ∀ taken ∈ consumed, ¬ Tie 6 taken.2 ∧ ∃ balance,
      balances.get? taken.1.balanceId = some balance ∧
      balance.place = (taken.1.lotId, some warehouseId) ∧ taken.2 ≤ balance.quantityOnHand) :
    Restocked (OfSettledLot lots) balances (withdrawLayers consumed balances)
      (takenFrom warehouseId consumed) := by
  induction consumed generalizing balances with
  | nil => exact .refl hkeyed hrows
  | cons taken consumed ih =>
    rw [List.map_cons, List.nodup_cons] at hnodup
    obtain ⟨htie, balance, hget, hplace, hle⟩ := hlayers taken List.mem_cons_self
    have hfirst := restocked_withdraw hkeyed hrows hget hle htie
    rw [hplace] at hfirst
    refine hfirst.trans (ih hfirst.keyed hfirst.rows hnodup.2 fun later hlater => ?_)
    obtain ⟨htie', balance', hget', hrest⟩ := hlayers later (List.mem_cons_of_mem _ hlater)
    have hne : later.1.balanceId ≠ taken.1.balanceId := fun heq =>
      hnodup.1 (List.mem_map.mpr ⟨later, hlater, heq⟩)
    exact ⟨htie', balance', by rw [Table.get?_modify_of_ne hne, hget'], hrest⟩

theorem Tallies.layer (h : Tallies s) {org itemId warehouseId : UUID}
    {layer : FifoLayer} (hlayer : layer ∈ fifoLayers s org itemId warehouseId) :
    0 < layer.quantityOnHand ∧ AtScale 6 layer.quantityOnHand := by
  have hl := isLayer_of_mem hlayer
  obtain ⟨balance, hget, -, honHand, -⟩ := hl.balance
  rw [← honHand]
  exact ⟨honHand ▸ hl.positive, (h.rows _ _ hget).1.atScale.onHand⟩

/-- When the oldest layer has the quantity, nothing that the database keeps is taken from the
others. -/
theorem takenFrom_of_oldest {layer : FifoLayer} {layers : List FifoLayer}
    (hscale : AtScale 6 layer.quantityOnHand) (hpositive : 0 < layer.quantityOnHand)
    (hlayers : ∀ layer ∈ layers, 0 < layer.quantityOnHand ∧ AtScale 6 layer.quantityOnHand)
    (hq : 0 < quantity) (htie : ¬ Tie 6 quantity)
    (hle : numeric quantity ≤ layer.quantityOnHand) (warehouseId : UUID) :
    takenFrom warehouseId (consumption (layer :: layers) quantity) =
      Pi.single (layer.lotId, some warehouseId) (-numeric quantity) := by
  rw [consumption, if_neg (not_le.mpr hq), takenFrom, List.map_cons, List.sum_cons]
  -- what is left after the oldest layer is rounded to nothing
  have hrest : numeric (quantity - min layer.quantityOnHand quantity) = 0 ∧
      numeric (min layer.quantityOnHand quantity) = numeric quantity ∧
      ¬ Tie 6 (quantity - min layer.quantityOnHand quantity) := by
    rcases le_total quantity layer.quantityOnHand with hcovers | hshort
    · rw [min_eq_right hcovers, sub_self]
      exact ⟨halfUp_zero 6, rfl, not_tie_of_atScale (atScale_zero 6)⟩
    · rw [min_eq_left hshort, tie_sub_iff hscale]
      have hsum : numeric quantity = layer.quantityOnHand +
          numeric (quantity - layer.quantityOnHand) := halfUp_of_le hscale hpositive.le hshort
      have hnonneg : 0 ≤ numeric (quantity - layer.quantityOnHand) :=
        halfUp_nonneg (sub_nonneg.mpr hshort)
      have hzero : numeric (quantity - layer.quantityOnHand) = 0 := by linarith
      have hfull : numeric layer.quantityOnHand = layer.quantityOnHand := halfUp_of_atScale hscale
      exact ⟨hzero, by rw [hfull, hsum, hzero, add_zero], htie⟩
  obtain ⟨hzero, hsame, htie'⟩ := hrest
  have hothers : ∀ taken ∈ consumption layers (quantity - min layer.quantityOnHand quantity),
      (Pi.single (taken.1.lotId, some warehouseId) (-numeric taken.2) :
        UUID × Option UUID → ℚ) = 0 := by
    intro taken htaken
    obtain ⟨h0, hrem, -⟩ := consumption_bounds hlayers htie' htaken
    have hnone : numeric taken.2 = 0 := halfUp_eq_zero_of_le h0 hrem hzero
    rw [hnone, neg_zero, Pi.single_zero]
  rw [List.sum_eq_zero fun x hx => ?_, add_zero, hsame]
  obtain ⟨taken, htaken, rfl⟩ := List.mem_map.mp hx
  exact hothers taken htaken

/-! ### One call -/

section Call

variable {org : UUID} {item : Item} {input : TransactionInput}

theorem Tallies.issues (h : Tallies s) {lotId : Option UUID} (hq : 0 < input.quantity)
    (htie : ¬ Tie 6 input.quantity) (hin : item.InLots)
    (holdest : item.costingMethod = .fifo →
      ∀ layer ∈ (fifoLayers s org input.itemId input.warehouseId).head?,
        numeric input.quantity ≤ layer.quantityOnHand ∧
          (item.trackLots = true → numeric input.quantity ≠ 0 → input.lotId = some layer.lotId))
    (hi : IssuesLot org item input s s' lotId) :
    ∃ id, lotId = some id ∧ Restocked (OfSettledLot s'.lots) s.lotBalances s'.lotBalances
      (Pi.single (id, some input.warehouseId) (-numeric input.quantity)) := by
  cases hi with
  | @oldest asked hfifo hasked lots enough balances =>
    have hrows := h.rows.imp fun _ => OfSettledLot.of_stay lots.stay
    have hlayers : ∀ layer ∈ fifoLayers s org input.itemId input.warehouseId,
        0 < layer.quantityOnHand ∧ AtScale 6 layer.quantityOnHand := fun _ => h.layer
    have hconsumed := restocked_withdrawLayers input.warehouseId h.keyed hrows
      (nodup_consumption (nodup_fifoLayers _ _ _) input.quantity) fun taken htaken => by
        obtain ⟨hmem, hle⟩ := mem_consumption htaken
        obtain ⟨-, -, htie'⟩ := consumption_bounds hlayers htie htaken
        obtain ⟨balance, hget, hplace, honHand, -⟩ := (isLayer_of_mem hmem).balance
        exact ⟨htie', balance, hget, hplace, honHand ▸ hle⟩
    rw [← balances] at hconsumed
    cases hlist : fifoLayers s org input.itemId input.warehouseId with
    | nil =>
      rw [hlist] at enough
      exact absurd hq (not_lt.mpr enough)
    | cons layer layers =>
      rw [hlist] at hconsumed hlayers
      obtain ⟨hle, hnamed⟩ := holdest hfifo layer (by rw [hlist]; rfl)
      obtain ⟨hpositive, hscale⟩ := hlayers layer List.mem_cons_self
      rw [takenFrom_of_oldest hscale hpositive
        (fun layer hlayer => hlayers layer (List.mem_cons_of_mem _ hlayer)) hq htie
          hle] at hconsumed
      by_cases htrack : item.trackLots = true
      · -- the lot that is recorded was asked for
        rw [if_pos htrack] at hasked
        obtain ⟨id, balance, rfl, hasks⟩ := hasked
        refine ⟨id, rfl, ?_⟩
        by_cases hzero : numeric input.quantity = 0
        · rw [hzero, neg_zero, Pi.single_zero] at hconsumed ⊢
          exact hconsumed
        · have hid := hasks.asked.symm.trans (hnamed htrack hzero)
          rw [Option.some.inj hid]
          exact hconsumed
      · rw [if_neg htrack] at hasked
        refine ⟨layer.lotId, ?_, hconsumed⟩
        rw [hasked, consumption, if_neg (not_le.mpr hq)]
        rfl
  | @asked id balance hfifo htrack hasks lots balances =>
    have hrows := h.rows.imp fun _ => OfSettledLot.of_stay lots.stay
    obtain ⟨hget, -, hplace⟩ := lotBalance?_eq_some hasks.found
    have hrow := h.rows _ _ hget
    have hle := hasks.available
    rw [hrow.1.available_eq] at hle
    refine ⟨id, rfl, ?_⟩
    rw [balances, ← hplace]
    exact restocked_withdraw h.keyed hrows hget hle htie
  | none hnot lots => exact absurd hin hnot

theorem ofSettledLot_freshBalance {lotId warehouseId : UUID} {lot : InventoryLot}
    (hget : s.lots.get? lotId = some lot) (hstay : LotsStay s s') :
    OfSettledLot s'.lots (freshBalance lotId lot warehouseId) := by
  obtain ⟨lot', hlot', -⟩ := hstay _ lot hget
  refine ⟨settled_freshBalance lotId warehouseId lot, ?_⟩
  change (s'.lots.get? lotId).isSome = true
  rw [hlot']
  rfl

theorem Tallies.adjusts (h : Tallies s) {lotId : UUID} {balance : InventoryLotBalance}
    (htie : ¬ (input.quantity < 0 ∧ Tie 6 input.quantity))
    (ha : AdjustsLot input lotId balance s s') :
    Restocked (OfSettledLot s'.lots) s.lotBalances s'.lotBalances
      (Pi.single (lotId, some input.warehouseId) (numeric input.quantity)) := by
  obtain ⟨lot, balanceId, hget, hbalance, hfound, hadjust⟩ := ha.balances
  have hopen := restocked_openBalance lotId input.warehouseId lot h.keyed
    (h.rows.imp fun _ => OfSettledLot.of_stay ha.lots.stay)
    (ofSettledLot_freshBalance hget ha.lots.stay)
  have hrow := hopen.rows _ _ hfound
  have hsum : 0 ≤ balance.quantityOnHand + input.quantity := by
    rcases le_or_gt 0 input.quantity with hq | hq
    · exact add_nonneg hrow.1.consistent.onHand_nonneg hq
    · have hcovers := ha.covers hq
      rw [abs_of_neg hq] at hcovers
      linarith
  have hmodify := restocked_modify (f := (·.adjust input.quantity)) hopen.keyed hopen.rows
    (fun _ => rfl) hfound ⟨hrow.1.adjust hsum, hrow.2⟩
    (InventoryLotBalance.onHand_adjust hrow.1.atScale hsum htie)
  have hboth := hopen.trans hmodify
  rwa [zero_add, ← hadjust, hbalance, place_getD] at hboth

theorem Tallies.moves (h : Tallies s) {toWarehouseId lotId : UUID}
    {source : Stored InventoryLotBalance} {destination : InventoryLotBalance}
    (hq : 0 < input.quantity) (htie : ¬ Tie 6 input.quantity)
    (hapart : input.warehouseId ≠ toWarehouseId)
    (hm : MovesLot input toWarehouseId lotId source destination s s') :
    Restocked (OfSettledLot s'.lots) s.lotBalances s'.lotBalances
      (Pi.single (lotId, some input.warehouseId) (-numeric input.quantity) +
        Pi.single (lotId, some toWarehouseId) (numeric input.quantity)) := by
  obtain ⟨lot, destinationId, hget, hdestination, hfound, hbalances⟩ := hm.balances
  obtain ⟨hrow, -, hplace⟩ := lotBalance?_eq_some hm.found
  have hopen := restocked_openBalance lotId toWarehouseId lot h.keyed
    (h.rows.imp fun _ => OfSettledLot.of_stay hm.lots.stay)
    (ofSettledLot_freshBalance hget hm.lots.stay)
  have hsource := get?_openBalance_of_some lotId toWarehouseId lot hrow
  have hle := hm.available
  rw [(h.rows _ _ hrow).1.available_eq] at hle
  have hwithdraw := restocked_withdraw hopen.keyed hopen.rows hsource hle htie
  have hother :
    destinationId ≠ source.id := destination_ne hapart hplace hdestination hsource hfound
  have hfound' := (Table.get?_modify_of_ne hother (·.withdraw input.quantity)).trans hfound
  have hrow' := hwithdraw.rows _ _ hfound'
  have hdeposit := restocked_modify (f := (·.deposit input.quantity)) hwithdraw.keyed
    hwithdraw.rows (fun _ => rfl) hfound' ⟨hrow'.1.deposit hq.le, hrow'.2⟩
    (InventoryLotBalance.onHand_deposit hrow'.1.atScale hrow'.1.consistent.onHand_nonneg hq.le)
  have hall := (hopen.trans hwithdraw).trans hdeposit
  rwa [zero_add, ← hbalances, hplace, hdestination, place_getD] at hall

end Call

theorem change_of_isIssue (h : input.transactionType.IsIssue) :
    input.change = -input.quantity := by
  rw [TransactionInput.change]
  rcases h with h | h | h <;> rw [h]

theorem net_of_isAdjustment
    (h : input.transactionType.IsAdjustment) (hreconciles : input.Reconciles) :
    input.transactionType.net (numeric input.quantity) = numeric input.quantity ∧
      ¬ (input.quantity < 0 ∧ Tie 6 input.quantity) := by
  rw [TransactionInput.Reconciles] at hreconciles
  rcases h with h | h | h
  · rw [h, if_neg (by decide), TransactionInput.change, h] at hreconciles
    exact ⟨by rw [h]; rfl, hreconciles⟩
  · rw [h, if_neg (by decide), TransactionInput.change, h] at hreconciles
    exact ⟨by rw [h]; rfl, hreconciles⟩
  · rw [if_pos h] at hreconciles
    refine ⟨?_, fun htie => halfUp_ne_zero_of_tie htie.2 hreconciles⟩
    rw [h, TransactionType.net, hreconciles, neg_zero]

/-- **One call** of an item in lots: when it takes from the lot it records, the lots tally with
their movements after it. -/
theorem tallies_of_run (h : Tallies s) {c : MovementCall} {id : UUID} (hon : OnLots s c)
    (hreconciles : c.input.Reconciles) (holdest : TakesOldest s c)
    (hrun : c.run v s = .ok id s') : Tallies s' := by
  cases createTransaction_eq_created hrun with
  | receipt htype hrun =>
    obtain ⟨item, lotId, t, hq, hitem, hinsert, hrow, hlots⟩ := createReceipt_lots hrun
    rw [if_pos (hon item hitem.found)] at hlots
    obtain ⟨lot, rfl, hreceives⟩ := hlots
    refine h.step (h.receives hq hreceives) fun k w => ?_
    rw [recordedOf_insert hinsert hrow.lot hrow.warehouse, hrow.type, hrow.quantity]
    rcases htype with htype | htype | htype <;> rw [htype] <;> rfl
  | issue htype hrun =>
    obtain ⟨item, lotId, t, hq, hitem, hinsert, hrow, hlots⟩ := createIssue_lots hrun
    have htie : ¬ Tie 6 c.input.quantity := by
      intro htie
      have hscrap : c.input.transactionType ≠ .scrap := by
        rcases htype with htype | htype | htype <;> rw [htype] <;> decide
      rw [TransactionInput.Reconciles, if_neg hscrap, change_of_isIssue htype] at hreconciles
      exact hreconciles ⟨neg_neg_iff_pos.mpr hq, tie_neg.mpr htie⟩
    obtain ⟨lot, rfl, hchange⟩ := h.issues hq htie (hon item hitem.found)
      (holdest htype item hitem.found) hlots
    refine h.step hchange fun k w => ?_
    rw [recordedOf_insert hinsert hrow.lot hrow.warehouse, hrow.type, hrow.quantity]
    rcases htype with htype | htype | htype <;> rw [htype] <;> rfl
  | adjustment htype hrun =>
    obtain ⟨item, t, hitem, hinsert, hrow, hlots⟩ := createAdjustment_lots hrun
    rw [if_pos (hon item hitem.found)] at hlots
    obtain ⟨lotId, balance, hadjusts⟩ := hlots
    obtain ⟨hnet, htie⟩ := net_of_isAdjustment htype hreconciles
    refine h.step (h.adjusts htie hadjusts) fun k w => ?_
    rw [recordedOf_insert hinsert (hrow.lot.trans hadjusts.asked) hrow.warehouse, hrow.type,
      hrow.quantity, hnet]
  | transfer htype ids hrun =>
    obtain ⟨toWarehouseId, item, t, t', hq, hto, hapart, hitem, hinsert, hrow, hrow', hlots⟩ :=
      createTransfer_lots hrun
    rw [if_pos (hon item hitem.found)] at hlots
    obtain ⟨lotId, source, destination, hmoves⟩ := hlots
    have htie : ¬ Tie 6 c.input.quantity := by
      intro htie
      rw [TransactionInput.Reconciles, htype, if_neg (by decide), TransactionInput.change,
        htype] at hreconciles
      exact hreconciles ⟨neg_neg_iff_pos.mpr hq, tie_neg.mpr htie⟩
    refine h.step (h.moves hq htie hapart hmoves) fun k w => ?_
    have hfirst := recordedOf_insert
      (show ({ s with transactions := s.transactions.insert t } : InventoryStore β).transactions =
        s.transactions.insert t from rfl) (hrow.lot.trans hmoves.asked) hrow.warehouse k w
    have hsecond := recordedOf_insert (s := { s with transactions := s.transactions.insert t })
      hinsert (hrow'.lot.trans hmoves.asked) hrow'.warehouse k w
    rw [hsecond, hfirst, hrow.type, hrow'.type, hrow.quantity, hrow'.quantity, numeric_neg,
      Pi.add_apply, add_assoc]
    rfl

/-! ### Runs -/

theorem tallies_of_unmoved (h : Unmoved s) : Tallies s where
  keyed := by
    rw [h.lotBalances]
    exact Table.keyed_empty
  rows := by
    rw [h.lotBalances]
    exact Table.all_empty
  tally lotId warehouseId := by
    rw [onHandOf, balanceOf, h.lotBalances, recordedOf, h.transactions]
    rfl

/-- **Lots tally with their movements**: in every run of movements of items in lots, each of which
reconciles and takes from the oldest layer only, of the lot it records, what is on hand of every
lot in every warehouse is the sum of the movements recorded for it. -/
theorem lots_match_history (v : Services β)
    (h : (movementSystem v).ReachableWithin (RecordsItsLot v) s) (lotId warehouseId : UUID) :
    onHandOf s lotId warehouseId = recordedOf s lotId warehouseId := by
  refine (h.invariant (P := Tallies) (fun s hs => tallies_of_unmoved hs) ?_).tally _ _
  rintro s c s' hs ⟨hon, hrecords⟩ rfl
  cases hrun : c.run v s with
  | error e s' =>
    rw [MovementCall.after, commit, hrun]
    exact hs
  | ok id s' =>
    rw [MovementCall.after, commit_of_ok hrun]
    obtain ⟨hreconciles, holdest⟩ := hrecords (returns_iff.mpr ⟨id, s', hrun⟩)
    exact tallies_of_run hs hon hreconciles holdest hrun

/-! ### Two runs -/

/-- Both items are received, moved, counted and issued; no issue takes more than the oldest layer
has. -/
def movesByLot : List MovementCall :=
  [moveLotOf .receipt 0 10 none "A", moveLotOf .receipt 0 5 none "B",
    moveLotOf .receipt 1 8 none "C", moveLotOf .transfer 0 3 (some 1) "",
    moveLotOf .issue 0 10 none "", moveLotOf .sale 1 (5 / 2) (some 2) "",
    moveLotOf .countAdjustment 1 (-1) (some 2) ""]

theorem lots_match_history_sample :
    onHandOf (movesByLot.foldl (MovementCall.after plainServices) lotRoom) 2 0 = 9 / 2 ∧
      recordedOf (movesByLot.foldl (MovementCall.after plainServices) lotRoom) 2 0 = 9 / 2 := by
  have honHand : onHandOf (movesByLot.foldl (MovementCall.after plainServices) lotRoom) 2 0 =
      9 / 2 := by decide +kernel
  have hrun : (movementSystem plainServices).ReachableWithin (RecordsItsLot plainServices)
      (System.after (MovementCall.after plainServices) lotRoom movesByLot) :=
    System.reachableWithin_after ⟨rfl, rfl⟩ (by decide +kernel)
  exact ⟨honHand, (lots_match_history plainServices hrun 2 0).symm.trans honHand⟩

def issueAcrossLots : List MovementCall :=
  [moveLotOf .receipt 0 10 none "A", moveLotOf .receipt 0 5 none "B",
    moveLotOf .issue 0 12 none ""]

/-- **An issue across two layers is recorded for one**: the first lot is empty, and by its
movements it has two pieces less than nothing. -/
theorem issue_across_lots :
    ¬ ∀ (v : Services Unit) (s : InventoryStore Unit),
      (movementSystem v).ReachableWithin OnLots s →
        ∀ lotId warehouseId, onHandOf s lotId warehouseId = recordedOf s lotId warehouseId := by
  intro h
  have hrun : (movementSystem plainServices).ReachableWithin OnLots
      (System.after (MovementCall.after plainServices) lotRoom issueAcrossLots) :=
    System.reachableWithin_after ⟨rfl, rfl⟩ (by decide +kernel)
  have hdiffers : onHandOf (System.after (MovementCall.after plainServices) lotRoom
      issueAcrossLots) 0 0 ≠ recordedOf (System.after (MovementCall.after plainServices) lotRoom
        issueAcrossLots) 0 0 := by
    decide +kernel
  exact hdiffers (h plainServices _ hrun 0 0)

end DotmacErp.Inventory
