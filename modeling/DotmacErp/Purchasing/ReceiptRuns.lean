import DotmacErp.Foundation.Scripts
import DotmacErp.Purchasing.ReceiptSteps

/-!
# Purchase order receipts over whole runs

Over the calls on receipts, what an order line has received is what its receipt lines count for:
what came in until they are inspected, and what was accepted of it then (`order_receipts_sound`).
Each line stays within what was ordered, an inspected one is accepted and rejected in parts that
make up what came in, and nothing was received of a cancelled order. The calls do not look at all of
this: the results of an inspection must name each line of the receipt, with parts that are not
negative, and an order that is cancelled must have no line that was received, whatever its price.

An inspection without results accepts the receipt and none of its goods
(`empty_inspection_accepts_nothing`).
-/

namespace DotmacErp.Purchasing

open Relational Session Table Rounding Totals GoodsReceiptService

variable {s s' : PurchaseStore} {poId receiptId : UUID}
  {posting : PurchaseStore → UUID → Option HTTPException}

/-! ### Operations -/

inductive PurchaseOperation where
  | receive (org : UUID) (receiptNumber : String) (input : GoodsReceiptInput)
      (receivedByUserId : UUID)
  | startInspection (org receiptId : UUID)
  | completeInspection (org receiptId : UUID)
      (inspectionResults : List InspectionResult)
  | acceptAll (org receiptId : UUID)
  | cancel (org poId : UUID)
  | close (org poId : UUID)

/-- The quantities of each order line, stored one by one, are those stored together. -/
def ReceiptFits (inputs : List GRLineInput) : Prop :=
  ∀ input ∈ inputs, halfUp 6 (receivedOf inputs input.poLineId) =
    total (fun l => halfUp 6 l.quantityReceived) GRLineInput.poLineId input.poLineId inputs

/-- The parts of a result are not negative and, as they are stored, make up what came in. -/
def ResultFits (quantityReceived : ℚ) (result : InspectionResult) : Prop :=
  0 ≤ halfUp 6 result.quantityAccepted ∧ 0 ≤ halfUp 6 result.quantityRejected ∧
    halfUp 6 result.quantityAccepted + halfUp 6 result.quantityRejected = quantityReceived

def rejectedQuantity (results : List InspectionResult) (r : Stored GoodsReceiptLine) : ℚ :=
  (lastResult results r.id).elim 0 fun result => max 0 result.quantityRejected

/-- Every line of the receipt of which something came in has a result, the last of which fits; and
in an inspection that accepts a part, the rejected quantities of each order line, stored one by one,
are those stored together. -/
def InspectionFits (s : PurchaseStore) (receiptId : UUID) (results : List InspectionResult) :
    Prop :=
  (∀ r ∈ s.receiptLinesOf receiptId,
    (lastResult results r.id).elim (r.row.quantityReceived = 0)
      (ResultFits r.row.quantityReceived)) ∧
  (inspectedStatus results = .partially → ∀ r ∈ s.lines.rows,
    halfUp 6 (r.row.quantityReceived - total (rejectedQuantity results) (fun l => l.row.poLineId)
      r.id (s.receiptLinesOf receiptId)) =
    r.row.quantityReceived - total (fun l => halfUp 6 (rejectedQuantity results l))
      (fun l => l.row.poLineId) r.id (s.receiptLinesOf receiptId))

/-- Nothing was received of the order. -/
def CancelFits (s : PurchaseStore) (poId : UUID) : Prop :=
  ∀ r ∈ s.linesOf poId, r.row.quantityReceived ≤ 0

namespace PurchaseOperation

def run (posting : PurchaseStore → UUID → Option HTTPException) :
    PurchaseOperation → PurchaseSession PUnit
  | receive org receiptNumber input receivedByUserId =>
    (fun _ => ⟨⟩) <$> createReceipt org receiptNumber input receivedByUserId
  | startInspection org receiptId =>
    GoodsReceiptService.startInspection org receiptId
  | completeInspection org receiptId inspectionResults =>
    GoodsReceiptService.completeInspection posting org receiptId inspectionResults
  | acceptAll org receiptId =>
    GoodsReceiptService.acceptAll posting org receiptId
  | cancel org poId => cancelPo org poId
  | close org poId => closePo org poId

def after (posting : PurchaseStore → UUID → Option HTTPException) (s : PurchaseStore)
    (op : PurchaseOperation) : PurchaseStore :=
  commit (op.run posting) s

/-- The operation, when it returns, meets the condition it does not look at. -/
def Fits (posting : PurchaseStore → UUID → Option HTTPException) (s : PurchaseStore)
    (op : PurchaseOperation) : Prop :=
  returns (op.run posting) s = true →
    match op with
    | receive _ _ input _ => ReceiptFits input.lines
    | completeInspection _ receiptId inspectionResults =>
      InspectionFits s receiptId inspectionResults
    | cancel _ poId => CancelFits s poId
    | _ => True

end PurchaseOperation

/-- Orders of which nothing is received. -/
structure Unreceived (s : PurchaseStore) : Prop where
  lines : s.lines.All fun l =>
    0 ≤ l.quantityOrdered ∧ AtScale 6 l.quantityOrdered ∧ l.quantityReceived = 0
  receipts : s.receipts = Table.empty
  receiptLines : s.receiptLines = Table.empty

def purchaseSystem (posting : PurchaseStore → UUID → Option HTTPException) :
    System PurchaseStore PurchaseOperation :=
  .ofFunction Unreceived (PurchaseOperation.after posting)

/-! ### The invariant -/

def ReceiptStatus.counts (status : ReceiptStatus) (l : GoodsReceiptLine) : ℚ :=
  if status ∈ ReceiptStatus.uninspected then l.quantityReceived else l.quantityAccepted

def PurchaseStore.countedQuantity (s : PurchaseStore) (l : GoodsReceiptLine) : ℚ :=
  (s.receipts.get? l.receiptId).elim 0 fun receipt => receipt.status.counts l

def PurchaseStore.counted (s : PurchaseStore) (poLineId : UUID) : ℚ :=
  total s.countedQuantity GoodsReceiptLine.poLineId poLineId (s.receiptLines.rows.map Stored.row)

/-- All that came in was accepted or rejected. -/
structure Settled (l : GoodsReceiptLine) : Prop where
  accepted : 0 ≤ l.quantityAccepted
  rejected : 0 ≤ l.quantityRejected
  parts : l.quantityAccepted + l.quantityRejected = l.quantityReceived

/-- A line of a receipt with a status: nothing is accepted or rejected of it before the
inspection. -/
structure LineSound (status : ReceiptStatus) (l : GoodsReceiptLine) : Prop where
  scaled : AtScale 6 l.quantityAccepted ∧ AtScale 6 l.quantityRejected
  received : AtScale 6 l.quantityReceived ∧ 0 ≤ l.quantityReceived
  uninspected : status ∈ ReceiptStatus.uninspected →
    l.quantityAccepted = 0 ∧ l.quantityRejected = 0
  inspected : status ∉ ReceiptStatus.uninspected → Settled l

structure ReceiptsSound (s : PurchaseStore) : Prop where
  lines : s.lines.All fun l => AtScale 6 l.quantityOrdered ∧ AtScale 6 l.quantityReceived ∧
    0 ≤ l.quantityReceived ∧ l.quantityReceived ≤ l.quantityOrdered
  receiptLines : s.receiptLines.All fun l =>
    ∃ receipt, s.receipts.get? l.receiptId = some receipt ∧ LineSound receipt.status l
  counted : ∀ i l, s.lines.get? i = some l → l.quantityReceived = s.counted i
  cancelled : ∀ i po, s.orders.get? i = some po → po.status = .cancelled → CancelFits s i

variable {status : ReceiptStatus} {l : GoodsReceiptLine}

theorem LineSound.counts_nonneg (h : LineSound status l) : 0 ≤ status.counts l := by
  rw [ReceiptStatus.counts]
  split_ifs with hstatus
  · exact h.received.2
  · exact (h.inspected hstatus).accepted

theorem countedQuantity_eq {receipt : GoodsReceipt}
    (h : s.receipts.get? l.receiptId = some receipt) :
    s.countedQuantity l = receipt.status.counts l := by
  rw [PurchaseStore.countedQuantity, h]
  rfl

theorem counted_nonneg
    (h : s.receiptLines.All fun l =>
      ∃ receipt, s.receipts.get? l.receiptId = some receipt ∧ LineSound receipt.status l)
    (i : UUID) : 0 ≤ s.counted i := by
  refine List.sum_nonneg fun q hq => ?_
  obtain ⟨l, hl, rfl⟩ := List.mem_map.mp hq
  obtain ⟨r, hr, rfl⟩ := List.mem_map.mp (List.mem_of_mem_filter hl)
  obtain ⟨receipt, hreceipt, hsound⟩ := h r.id r.row (get?_of_mem hr)
  rw [countedQuantity_eq hreceipt]
  exact hsound.counts_nonneg

/-! ### A receipt changes its status -/

/-- **One receipt is inspected further**, and what its lines count for less is taken from the order
lines. -/
theorem ReceiptsSound.inspect (h : ReceiptsSound s) {receipt : GoodsReceipt} {f :
    Stored PurchaseOrderLine → PurchaseOrderLine}
    {g : Stored GoodsReceiptLine → GoodsReceiptLine} {d : Stored GoodsReceiptLine → ℚ}
    (hreceipt : s.receipts.get? receiptId = some receipt)
    (hstatus : receipt.status ∈ ReceiptStatus.uninspected)
    (hreceipts : s'.receipts = s.receipts.modify receiptId (inReceiptStatus status))
    (hreceiptLines : s'.receiptLines = s.receiptLines.mapRows g)
    (hothers : ∀ r ∈ s.receiptLines.rows, r.row.receiptId ≠ receiptId → g r = r.row)
    (hkept : ∀ r, (g r).receiptId = r.row.receiptId ∧ (g r).poLineId = r.row.poLineId)
    (hthis : ∀ r ∈ s.receiptLinesOf receiptId, LineSound status (g r) ∧ 0 ≤ d r ∧
      status.counts (g r) = r.row.quantityReceived - d r) (hlines : s'.lines = s.lines.mapRows f)
    (hline : ∀ r ∈ s.lines.rows, (f r).poId = r.row.poId ∧
      (f r).quantityOrdered = r.row.quantityOrdered ∧ AtScale 6 (f r).quantityReceived ∧
      (f r).quantityReceived = r.row.quantityReceived - total d (fun l => l.row.poLineId) r.id
        (s.receiptLinesOf receiptId))
    (horders : Uncancelling s.orders s'.orders) : ReceiptsSound s' := by
  have hreceiptOf : ∀ i, s'.receipts.get? i =
      if i = receiptId then (s.receipts.get? i).map (inReceiptStatus status)
      else s.receipts.get? i := fun i => by rw [hreceipts, get?_modify]
  have hrows : s'.receiptLines.rows.map Stored.row = s.receiptLines.rows.map g := by
    rw [hreceiptLines]
    exact List.map_map
  have hcounts : ∀ r ∈ s.receiptLines.rows, s'.countedQuantity (g r) =
      s.countedQuantity r.row - if decide (r.row.receiptId = receiptId) then d r else 0 := by
    intro r hr
    by_cases hof : r.row.receiptId = receiptId
    · have hmem : r ∈ s.receiptLinesOf receiptId := mem_receiptLinesOf.mpr ⟨get?_of_mem hr, hof⟩
      have hnew : s'.receipts.get? (g r).receiptId = some (inReceiptStatus status receipt) := by
        rw [(hkept r).1, hof, hreceiptOf, if_pos rfl, hreceipt]
        rfl
      have hold : s.receipts.get? r.row.receiptId = some receipt := by rw [hof, hreceipt]
      rw [countedQuantity_eq hnew, countedQuantity_eq hold, if_pos (decide_eq_true hof)]
      refine (hthis r hmem).2.2.trans ?_
      rw [ReceiptStatus.counts, if_pos hstatus]
    · have hsame : s'.receipts.get? r.row.receiptId = s.receipts.get? r.row.receiptId := by
        rw [hreceiptOf, if_neg hof]
      rw [hothers r hr hof, PurchaseStore.countedQuantity, PurchaseStore.countedQuantity, hsame,
        decide_eq_false hof, if_neg Bool.false_ne_true, sub_zero]
  have hcounted : ∀ i, s'.counted i = s.counted i - total d (fun l => l.row.poLineId) i
      (s.receiptLinesOf receiptId) := by
    intro i
    rw [PurchaseStore.counted, hrows, total_map, PurchaseStore.counted, total_map,
      PurchaseStore.receiptLinesOf, select, total_filter, ← total_sub]
    exact total_congr fun r hr => ⟨(hkept r).2, hcounts r hr⟩
  have hless : ∀ i, 0 ≤ total d (fun l => l.row.poLineId) i (s.receiptLinesOf receiptId) := by
    intro i
    refine List.sum_nonneg fun q hq => ?_
    obtain ⟨r, hr, rfl⟩ := List.mem_map.mp hq
    exact (hthis r (List.mem_of_mem_filter hr)).2.1
  have hsound : s'.receiptLines.All fun l =>
      ∃ receipt, s'.receipts.get? l.receiptId = some receipt ∧ LineSound receipt.status l := by
    intro i l hl
    rw [hreceiptLines, get?_mapRows] at hl
    obtain ⟨l₀, hl₀, rfl⟩ := Option.map_eq_some_iff.mp hl
    by_cases hof : l₀.receiptId = receiptId
    · refine ⟨inReceiptStatus status receipt, ?_, ?_⟩
      · rw [(hkept _).1, hreceiptOf, if_pos hof, hof, hreceipt]
        rfl
      · exact (hthis ⟨i, l₀⟩ (mem_receiptLinesOf.mpr ⟨hl₀, hof⟩)).1
    · have hrow : g ⟨i, l₀⟩ = l₀ := hothers ⟨i, l₀⟩ (get?_eq_some.mp hl₀) hof
      obtain ⟨receipt₀, hreceipt₀, hline₀⟩ := h.receiptLines i l₀ hl₀
      refine ⟨receipt₀, ?_, ?_⟩
      · rw [hrow, hreceiptOf, if_neg hof, hreceipt₀]
      · rw [hrow]
        exact hline₀
  have hnewCounted : ∀ i l, s'.lines.get? i = some l → l.quantityReceived = s'.counted i := by
    intro i l hl
    rw [hlines, get?_mapRows] at hl
    obtain ⟨l₀, hl₀, rfl⟩ := Option.map_eq_some_iff.mp hl
    have hrow := (hline ⟨i, l₀⟩ (get?_eq_some.mp hl₀)).2.2.2
    rw [hrow, hcounted, h.counted i l₀ hl₀]
  have hfewer : ∀ r ∈ s.lines.rows, (f r).quantityReceived ≤ r.row.quantityReceived := by
    intro r hr
    rw [(hline r hr).2.2.2]
    exact sub_le_self _ (hless r.id)
  refine ⟨fun i l hl => ?_, hsound, hnewCounted, fun i po hpo hcancelled r hr => ?_⟩
  · have hnonneg := (hnewCounted i l hl).ge.trans' (counted_nonneg hsound i)
    rw [hlines, get?_mapRows] at hl
    obtain ⟨l₀, hl₀, rfl⟩ := Option.map_eq_some_iff.mp hl
    have hmem := get?_eq_some.mp hl₀
    obtain ⟨-, hordered, hscale, -⟩ := hline ⟨i, l₀⟩ hmem
    obtain ⟨hscale₀, -, -, hwithin⟩ := h.lines i l₀ hl₀
    refine ⟨?_, hscale, hnonneg, ?_⟩
    · rw [hordered]
      exact hscale₀
    · rw [hordered]
      exact (hfewer ⟨i, l₀⟩ hmem).trans hwithin
  · obtain ⟨hget, hof⟩ := mem_linesOf.mp hr
    rw [hlines, get?_mapRows] at hget
    obtain ⟨l₀, hl₀, hrow⟩ := Option.map_eq_some_iff.mp hget
    have hmem := get?_eq_some.mp hl₀
    rw [← hrow] at hof ⊢
    have hfit := h.cancelled i po (horders i po hpo hcancelled) hcancelled ⟨r.id, l₀⟩
      (mem_linesOf.mpr ⟨hl₀, (hline ⟨r.id, l₀⟩ hmem).1.symm.trans hof⟩)
    exact (hfewer ⟨r.id, l₀⟩ hmem).trans hfit

variable {org : UUID} {u : PUnit}

theorem ReceiptsSound.startInspection (h : ReceiptsSound s)
    (hrun : startInspection org receiptId s = .ok u s') : ReceiptsSound s' := by
  obtain ⟨⟨receipt, hreceipt, hstatus⟩, rfl⟩ := startInspection_eq_ok hrun
  refine h.inspect (f := Stored.row) (g := Stored.row) (d := fun _ => 0) hreceipt
    (by rw [hstatus]; decide) rfl mapRows_row.symm (fun _ _ _ => rfl) (fun _ => ⟨rfl, rfl⟩)
    (fun r hr => ?_) mapRows_row.symm (fun r hr => ?_) (Uncancelling.refl s.orders)
  · obtain ⟨hget, hof⟩ := mem_receiptLinesOf.mp hr
    obtain ⟨receipt', hreceipt', hline⟩ := h.receiptLines r.id r.row hget
    rw [hof, hreceipt] at hreceipt'
    obtain rfl := Option.some.inj hreceipt'
    have hnothing := hline.uninspected (by rw [hstatus]; decide)
    exact ⟨⟨hline.scaled, hline.received, fun _ => hnothing, fun hnot => absurd hnot (by decide)⟩,
      le_rfl, (sub_zero _).symm⟩
  · refine ⟨rfl, rfl, (h.lines r.id r.row (get?_of_mem hr)).2.1, ?_⟩
    rw [total_eq_zero_of fun _ _ _ => rfl, sub_zero]

theorem ReceiptsSound.acceptAll (h : ReceiptsSound s)
    (hrun : acceptAll posting org receiptId s = .ok u s') : ReceiptsSound s' := by
  obtain ⟨⟨receipt, hreceipt, hstatus⟩, rfl⟩ := acceptAll_eq_ok hrun
  set g : Stored GoodsReceiptLine → GoodsReceiptLine := fun r =>
    if decide (r.row.receiptId = receiptId) then acceptLine r.row else r.row with hg
  refine h.inspect (f := Stored.row) (g := g) (d := fun _ => 0) hreceipt hstatus rfl rfl
    (fun r _ hne => ?_) (fun r => ?_) (fun r hr => ?_) mapRows_row.symm (fun r hr => ?_)
    (Uncancelling.refl s.orders)
  · exact if_neg (by simpa using hne)
  · simp only [hg]
    split_ifs
    · exact ⟨rfl, rfl⟩
    · exact ⟨rfl, rfl⟩
  · obtain ⟨hget, hof⟩ := mem_receiptLinesOf.mp hr
    obtain ⟨_, -, hline⟩ := h.receiptLines r.id r.row hget
    have hrow : g r = acceptLine r.row := if_pos (decide_eq_true hof)
    rw [hrow]
    refine ⟨⟨⟨hline.received.1, atScale_zero 6⟩, hline.received, fun hnot => ?_, fun _ => ?_⟩,
      le_rfl, ?_⟩
    · exact absurd hnot (by decide)
    · exact ⟨hline.received.2, le_rfl, add_zero _⟩
    · exact (sub_zero _).symm
  · refine ⟨rfl, rfl, (h.lines r.id r.row (get?_of_mem hr)).2.1, ?_⟩
    rw [total_eq_zero_of fun _ _ _ => rfl, sub_zero]

/-! ### Completed inspections -/

theorem inspectedStatus_notMem (results : List InspectionResult) :
    inspectedStatus results ∉ ReceiptStatus.uninspected := by
  rw [inspectedStatus]
  split_ifs <;> decide

variable {results : List InspectionResult} {result : InspectionResult}

theorem mem_of_lastResult {i : UUID}
    (h : lastResult results i = some result) : result ∈ results ∧ result.lineId = i := by
  obtain ⟨hmem, hid⟩ := List.mem_filter.mp (List.mem_of_getLast? h)
  exact ⟨hmem, of_decide_eq_true hid⟩

variable {r : Stored GoodsReceiptLine}

theorem inspectedLine_of_some (h : lastResult results r.id = some result) :
    inspectedLine results r = inspect result r.row := by
  rw [inspectedLine, h]
  rfl

theorem inspectedLine_of_none
    (h : lastResult results r.id = none) : inspectedLine results r = r.row := by
  rw [inspectedLine, h]
  rfl

theorem halfUp_eq_zero {q : ℚ} (h : ¬ 0 < q) (h0 : 0 ≤ halfUp 6 q) : halfUp 6 q = 0 := by
  have hle := halfUp_mono (n := 6) (not_lt.mp h)
  rw [halfUp_zero] at hle
  exact le_antisymm hle h0

/-- **A result that fits**: what is not taken from the order is accepted. -/
theorem accepted_eq_sub (hmem : result ∈ results)
    (hfits : ResultFits l.quantityReceived result) (hscale : AtScale 6 l.quantityReceived) :
    halfUp 6 result.quantityAccepted = l.quantityReceived -
      halfUp 6 (reversedQuantity (inspectedStatus results) (inspect result l)) := by
  obtain ⟨haccepted, hrejected, hparts⟩ := hfits
  rw [inspectedStatus]
  split_ifs with hall hnone
  · have hnot : ¬ 0 < result.quantityRejected :=
      of_decide_eq_true (List.all_eq_true.mp hall result hmem)
    rw [halfUp_eq_zero hnot hrejected, add_zero] at hparts
    have hzero : reversedQuantity .accepted (inspect result l) = 0 := rfl
    rw [hzero, halfUp_zero, sub_zero, hparts]
  · have hnot : ¬ 0 < result.quantityAccepted :=
      of_decide_eq_true (List.all_eq_true.mp hnone result hmem)
    have hall' : reversedQuantity .rejected (inspect result l) = l.quantityReceived := rfl
    rw [hall', halfUp_of_atScale hscale, sub_self, halfUp_eq_zero hnot haccepted]
  · have hpart : reversedQuantity .partially (inspect result l) =
        if 0 < result.quantityRejected then result.quantityRejected else 0 := rfl
    rw [hpart, ← hparts]
    by_cases hpos : 0 < result.quantityRejected
    · rw [if_pos hpos, add_sub_cancel_right]
    · rw [if_neg hpos, halfUp_zero, sub_zero, halfUp_eq_zero hpos hrejected, add_zero]

theorem inspectedLine_kept (results : List InspectionResult) (r : Stored GoodsReceiptLine) :
    (inspectedLine results r).quantityReceived = r.row.quantityReceived ∧
      (inspectedLine results r).receiptId = r.row.receiptId ∧
      (inspectedLine results r).poLineId = r.row.poLineId := by
  cases hlast : lastResult results r.id with
  | none =>
    rw [inspectedLine_of_none hlast]
    exact ⟨rfl, rfl, rfl⟩
  | some result =>
    rw [inspectedLine_of_some hlast]
    exact ⟨rfl, rfl, rfl⟩

def reversedLine (results : List InspectionResult) (r : Stored GoodsReceiptLine) : ℚ :=
  reversedQuantity (inspectedStatus results) (inspectedLine results r)

theorem reversedLine_nonneg (h : 0 ≤ r.row.quantityReceived) : 0 ≤ reversedLine results r := by
  rw [reversedLine]
  cases inspectedStatus results with
  | rejected => exact h.trans (inspectedLine_kept results r).1.ge
  | partially =>
    simp only [reversedQuantity]
    split_ifs with hpos
    · exact hpos.le
    · exact le_rfl
  | received => exact le_rfl
  | inspecting => exact le_rfl
  | accepted => exact le_rfl

theorem atScale_reversedLine
    (h : AtScale 6 r.row.quantityReceived) (hstatus : inspectedStatus results ≠ .partially) :
    AtScale 6 (reversedLine results r) := by
  rw [reversedLine]
  cases hcase : inspectedStatus results with
  | rejected =>
    have hwhole : reversedQuantity .rejected (inspectedLine results r) = r.row.quantityReceived :=
      (inspectedLine_kept results r).1
    rw [hwhole]
    exact h
  | partially => exact absurd hcase hstatus
  | received => exact atScale_zero 6
  | inspecting => exact atScale_zero 6
  | accepted => exact atScale_zero 6

theorem reversedLine_eq_rejectedQuantity (hrejected : r.row.quantityRejected = 0)
    (hstatus : inspectedStatus results = .partially) :
    reversedLine results r = rejectedQuantity results r := by
  rw [reversedLine, hstatus, rejectedQuantity]
  cases hlast : lastResult results r.id with
  | none =>
    simp only [inspectedLine_of_none hlast, reversedQuantity, hrejected, lt_irrefl, if_false,
      Option.elim_none]
  | some result =>
    have hmax : max 0 result.quantityRejected =
        if 0 < result.quantityRejected then result.quantityRejected else 0 := by
      split_ifs with hpos
      · exact max_eq_right hpos.le
      · exact max_eq_left (not_lt.mp hpos)
    rw [inspectedLine_of_some hlast, Option.elim_some, hmax]
    rfl

/-- **A line of the receipt**: what is not taken of it from the order is accepted. -/
theorem LineSound.inspectedLine (h : LineSound status r.row)
    (hstatus : status ∈ ReceiptStatus.uninspected)
    (hfits : (lastResult results r.id).elim (r.row.quantityReceived = 0)
      (ResultFits r.row.quantityReceived)) :
    LineSound (inspectedStatus results) (storedReceiptLine (inspectedLine results r)) ∧
      (inspectedStatus results).counts (storedReceiptLine (inspectedLine results r)) =
        r.row.quantityReceived - halfUp 6 (reversedLine results r) := by
  obtain ⟨haccepted, hrejected⟩ := h.uninspected hstatus
  have hcounts : (inspectedStatus results).counts
      (storedReceiptLine (Purchasing.inspectedLine results r)) =
        halfUp 6 (Purchasing.inspectedLine results r).quantityAccepted :=
    if_neg (inspectedStatus_notMem results)
  have hreceived := (inspectedLine_kept results r).1
  rw [hcounts]
  suffices hboth : Settled (storedReceiptLine (Purchasing.inspectedLine results r)) ∧
      halfUp 6 (Purchasing.inspectedLine results r).quantityAccepted =
        r.row.quantityReceived - halfUp 6 (reversedLine results r) by
    refine ⟨⟨⟨atScale_halfUp 6 _, atScale_halfUp 6 _⟩, ?_,
      fun hnot => absurd hnot (inspectedStatus_notMem results), fun _ => hboth.1⟩, hboth.2⟩
    change AtScale 6 (Purchasing.inspectedLine results r).quantityReceived ∧
      0 ≤ (Purchasing.inspectedLine results r).quantityReceived
    rw [hreceived]
    exact h.received
  rw [reversedLine]
  cases hlast : lastResult results r.id with
  | none =>
    rw [hlast] at hfits
    have hnothing : r.row.quantityReceived = 0 := hfits
    have hstored : storedReceiptLine r.row = r.row := by
      rw [storedReceiptLine, halfUp_of_atScale h.scaled.1, halfUp_of_atScale h.scaled.2]
    have hzero : reversedQuantity (inspectedStatus results) r.row = 0 := by
      cases inspectedStatus results with
      | rejected => exact hnothing
      | partially => simp only [reversedQuantity, hrejected, lt_irrefl, if_false]
      | received => rfl
      | inspecting => rfl
      | accepted => rfl
    rw [inspectedLine_of_none hlast, hstored, hzero, haccepted, hnothing, halfUp_zero, sub_zero]
    exact ⟨⟨haccepted.ge, hrejected.ge, by rw [haccepted, hrejected, hnothing, add_zero]⟩, rfl⟩
  | some result =>
    rw [hlast] at hfits
    have hresult : ResultFits r.row.quantityReceived result := hfits
    rw [inspectedLine_of_some hlast]
    exact ⟨⟨hresult.1, hresult.2.1, hresult.2.2⟩,
      accepted_eq_sub (mem_of_lastResult hlast).1 hresult h.received.1⟩

theorem halfUp_sub_total {amount : Stored GoodsReceiptLine → ℚ} {q : ℚ} {i : UUID}
    {lines : List (Stored GoodsReceiptLine)} (hq : AtScale 6 q)
    (hamount : ∀ l ∈ lines, AtScale 6 (amount l)) :
    halfUp 6 (q - total amount (fun l => l.row.poLineId) i lines) =
      q - total (fun l => halfUp 6 (amount l)) (fun l => l.row.poLineId) i lines := by
  have hsame : total (fun l => halfUp 6 (amount l)) (fun l => l.row.poLineId) i lines =
      total amount (fun l => l.row.poLineId) i lines :=
    total_congr fun l hl => ⟨rfl, halfUp_of_atScale (hamount l hl)⟩
  have hscale : AtScale 6 (total amount (fun l => l.row.poLineId) i lines) := by
    refine atScale_sum fun p hp => ?_
    obtain ⟨l, hl, rfl⟩ := List.mem_map.mp hp
    exact hamount l (List.mem_of_mem_filter hl)
  rw [hsame, halfUp_of_atScale (hq.sub hscale)]

theorem ReceiptsSound.completeInspection (h : ReceiptsSound s) (hfits :
    InspectionFits s receiptId results)
    (hrun : completeInspection posting org receiptId results s = .ok u s') :
    ReceiptsSound s' := by
  obtain ⟨receipt, hreceipt, hstatus, hresults, hlines, hreceipts, hreceiptLines, horders⟩ :=
    completeInspection_eq_ok hrun
  obtain ⟨heach, htogether⟩ := hfits
  have hbefore : ∀ r ∈ s.receiptLinesOf receiptId, LineSound receipt.status r.row := by
    intro r hr
    obtain ⟨hget, hof⟩ := mem_receiptLinesOf.mp hr
    obtain ⟨receipt', hreceipt', hline⟩ := h.receiptLines r.id r.row hget
    rw [hof, hreceipt] at hreceipt'
    obtain rfl := Option.some.inj hreceipt'
    exact hline
  have htaken : ∀ i, takenOf s receiptId results i = total (reversedLine results)
      (fun l => l.row.poLineId) i (s.receiptLinesOf receiptId) := by
    intro i
    rw [takenOf, reversedOf, total_map]
    exact total_congr fun r _ => ⟨(inspectedLine_kept results r).2.2, rfl⟩
  -- the quantities are stored one by one as they are together
  have hstored : ∀ r ∈ s.lines.rows, halfUp 6 (r.row.quantityReceived -
      takenOf s receiptId results r.id) = r.row.quantityReceived -
        total (fun l => halfUp 6 (reversedLine results l)) (fun l => l.row.poLineId) r.id
          (s.receiptLinesOf receiptId) := by
    intro r hr
    rw [htaken]
    by_cases hpart : inspectedStatus results = .partially
    · have hrejected : ∀ l ∈ s.receiptLinesOf receiptId,
          reversedLine results l = rejectedQuantity results l := fun l hl =>
        reversedLine_eq_rejectedQuantity ((hbefore l hl).uninspected hstatus).2 hpart
      rw [total_congr fun l hl => ⟨rfl, hrejected l hl⟩,
        total_congr fun l hl => ⟨rfl, congrArg (halfUp 6) (hrejected l hl)⟩]
      exact htogether hpart r hr
    · exact halfUp_sub_total (h.lines r.id r.row (get?_of_mem hr)).2.1 fun l hl =>
        atScale_reversedLine (hbefore l hl).received.1 hpart
  refine h.inspect (d := fun l => halfUp 6 (reversedLine results l)) hreceipt hstatus hreceipts
    hreceiptLines (fun r hr hne => ?_) (fun r => (inspectedLine_kept results r).2)
    (fun r hr => ?_) hlines (fun r hr => ⟨rfl, rfl, atScale_halfUp 6 _, ?_⟩) horders
  · have hlast : lastResult results r.id = none := by
      cases hlast : lastResult results r.id with
      | none => rfl
      | some result =>
        obtain ⟨hmem, hid⟩ := mem_of_lastResult hlast
        obtain ⟨l, hl, hof, -⟩ := hresults result hmem
        rw [hid, get?_of_mem hr] at hl
        obtain rfl := Option.some.inj hl
        exact absurd hof hne
    obtain ⟨_, -, hline⟩ := h.receiptLines r.id r.row (get?_of_mem hr)
    rw [inspectedLine_of_none hlast, storedReceiptLine, halfUp_of_atScale hline.scaled.1,
      halfUp_of_atScale hline.scaled.2]
  · obtain ⟨hsound, hcounts⟩ := (hbefore r hr).inspectedLine hstatus (heach r hr)
    exact ⟨hsound, halfUp_nonneg (reversedLine_nonneg (hbefore r hr).received.2), hcounts⟩
  · rw [← hstored r hr, sub_eq_add_neg]
    rfl

/-! ### Receiving, and ending an order -/

theorem total_newLines (receiptId : UUID) (lineNumber : ℕ) (inputs : List GRLineInput) (i : UUID) :
    total GoodsReceiptLine.quantityReceived GoodsReceiptLine.poLineId i
      (newLines receiptId lineNumber inputs) =
        total (fun l => halfUp 6 l.quantityReceived) GRLineInput.poLineId i inputs := by
  induction inputs generalizing lineNumber with
  | nil => rfl
  | cons input rest ih =>
    have hcons : newLines receiptId lineNumber (input :: rest) =
        receiptLine receiptId input lineNumber :: newLines receiptId (lineNumber + 1) rest := rfl
    rw [hcons, total_cons, total_cons, ih]
    rfl

variable {inputs : List GRLineInput}

theorem mem_newLines {lineNumber : ℕ} (h : l ∈ newLines receiptId lineNumber inputs) :
    ∃ input ∈ inputs, ∃ n, l = receiptLine receiptId input n := by
  obtain ⟨⟨input, n⟩, hmem, rfl⟩ := List.mem_map.mp h
  exact ⟨input, List.fst_mem_of_mem_zipIdx hmem, n, rfl⟩

theorem lineSound_receiptLine {input : GRLineInput} (h : 0 < input.quantityReceived) (n : ℕ) :
    LineSound .received (receiptLine receiptId input n) :=
  ⟨⟨atScale_zero 6, atScale_zero 6⟩, ⟨atScale_halfUp 6 _, halfUp_nonneg h.le⟩,
    fun _ => ⟨rfl, rfl⟩, fun hnot => absurd (by decide) hnot⟩

theorem LineSound.storedReceiptLine_eq (h : LineSound status l) : storedReceiptLine l = l := by
  rw [storedReceiptLine, halfUp_of_atScale h.scaled.1, halfUp_of_atScale h.scaled.2]

theorem receivedOf_nonneg
    (h : ∀ input ∈ inputs, 0 < input.quantityReceived) (i : UUID) : 0 ≤ receivedOf inputs i := by
  refine List.sum_nonneg fun q hq => ?_
  obtain ⟨input, hinput, rfl⟩ := List.mem_map.mp hq
  exact (h input (List.mem_of_mem_filter hinput)).le

theorem ReceiptFits.receivedOf_eq (h : ReceiptFits inputs) (i : UUID) :
    halfUp 6 (receivedOf inputs i) =
      total (fun l => halfUp 6 l.quantityReceived) GRLineInput.poLineId i inputs := by
  by_cases hnamed : ∃ input ∈ inputs, input.poLineId = i
  · obtain ⟨input, hinput, rfl⟩ := hnamed
    exact h input hinput
  · have hnone : ∀ input ∈ inputs, input.poLineId ≠ i := fun input hinput hid =>
      hnamed ⟨input, hinput, hid⟩
    rw [receivedOf, total_eq_zero hnone, total_eq_zero hnone, halfUp_zero]

theorem ReceiptsSound.createReceipt (h : ReceiptsSound s) {receivedByUserId k : UUID}
    {receiptNumber : String} {input : GoodsReceiptInput} (hfits : ReceiptFits input.lines)
    (hrun : createReceipt org receiptNumber input receivedByUserId s = .ok k s') :
    ReceiptsSound s' := by
  obtain ⟨po, receipt, hpo, hreceivable, hstatus, hpos, hknown, hwithin, hlines, hreceipts,
    hreceiptLines, horders⟩ := createReceipt_eq_ok hrun
  have hold : ∀ l : GoodsReceiptLine, (∃ r₀, s.receipts.get? l.receiptId = some r₀) →
      s'.receipts.get? l.receiptId = s.receipts.get? l.receiptId := by
    rintro l ⟨r₀, hr₀⟩
    rw [hreceipts, get?_insert_of_some hr₀, hr₀]
  have hnewReceipt : s'.receipts.get? s.receipts.next = some receipt := by
    rw [hreceipts, get?_insert_self]
  have hstored : ∀ l ∈ newLines s.receipts.next 1 input.lines,
      LineSound receipt.status l ∧ l.receiptId = s.receipts.next := by
    intro l hl
    obtain ⟨line, hline, n, rfl⟩ := mem_newLines hl
    rw [hstatus]
    exact ⟨lineSound_receiptLine (hpos line hline) n, rfl⟩
  have hrows : s'.receiptLines.rows.map Stored.row = (s.receiptLines.rows.map Stored.row ++
      newLines s.receipts.next 1 input.lines).map storedReceiptLine := by
    rw [hreceiptLines, ← rows_insertAll, List.map_map]
    exact List.map_map
  have hsound : s'.receiptLines.All fun l =>
      ∃ receipt, s'.receipts.get? l.receiptId = some receipt ∧ LineSound receipt.status l := by
    intro i l hl
    rw [hreceiptLines, get?_mapRows] at hl
    obtain ⟨l₀, hl₀, rfl⟩ := Option.map_eq_some_iff.mp hl
    rcases get?_insertAll_cases hl₀ with hget | ⟨hmem, -⟩
    · obtain ⟨r₀, hr₀, hline⟩ := h.receiptLines i l₀ hget
      rw [hline.storedReceiptLine_eq, hold l₀ ⟨r₀, hr₀⟩]
      exact ⟨r₀, hr₀, hline⟩
    · obtain ⟨hline, hof⟩ := hstored l₀ hmem
      rw [hline.storedReceiptLine_eq, hof]
      exact ⟨receipt, hnewReceipt, hline⟩
  have hcounted : ∀ i, s'.counted i = s.counted i +
      total (fun l => halfUp 6 l.quantityReceived) GRLineInput.poLineId i input.lines := by
    intro i
    rw [PurchaseStore.counted, hrows, total_map, total_append, PurchaseStore.counted,
      ← total_newLines s.receipts.next 1]
    congr 1
    · refine total_congr fun l hl => ⟨rfl, ?_⟩
      obtain ⟨r, hr, rfl⟩ := List.mem_map.mp hl
      obtain ⟨r₀, hr₀, hline⟩ := h.receiptLines r.id r.row (get?_of_mem hr)
      rw [hline.storedReceiptLine_eq, PurchaseStore.countedQuantity,
        PurchaseStore.countedQuantity, hold r.row ⟨r₀, hr₀⟩]
    · refine total_congr fun l hl => ⟨rfl, ?_⟩
      obtain ⟨hline, hof⟩ := hstored l hl
      have hget : s'.receipts.get? l.receiptId = some receipt := by rw [hof, hnewReceipt]
      rw [hline.storedReceiptLine_eq, countedQuantity_eq hget, ReceiptStatus.counts, hstatus]
      exact if_pos (by decide)
  have hreceived : ∀ r ∈ s.lines.rows,
      halfUp 6 (r.row.quantityReceived + receivedOf input.lines r.id) =
        r.row.quantityReceived + total (fun l => halfUp 6 l.quantityReceived)
          GRLineInput.poLineId r.id input.lines := by
    intro r hr
    obtain ⟨-, hscale, hnonneg, -⟩ := h.lines r.id r.row (get?_of_mem hr)
    have hadded := receivedOf_nonneg hpos r.id
    rw [halfUp_add_of_atScale hscale (add_nonneg hnonneg hadded),
      if_neg fun htie => absurd htie.1 hadded.not_gt, add_zero, hfits.receivedOf_eq]
  refine ⟨fun i l hl => ?_, hsound, fun i l hl => ?_, fun i po' hpo' hcancelled r hr => ?_⟩
  · rw [hlines, get?_mapRows] at hl
    obtain ⟨l₀, hl₀, rfl⟩ := Option.map_eq_some_iff.mp hl
    obtain ⟨hscale, -, hnonneg, hle⟩ := h.lines i l₀ hl₀
    refine ⟨hscale, atScale_halfUp 6 _, ?_, ?_⟩
    · exact halfUp_nonneg (add_nonneg hnonneg (receivedOf_nonneg hpos i))
    · have hmono := halfUp_mono (n := 6) (hwithin ⟨i, l₀⟩ (get?_eq_some.mp hl₀) hle)
      exact hmono.trans (halfUp_of_atScale hscale).le
  · rw [hlines, get?_mapRows] at hl
    obtain ⟨l₀, hl₀, rfl⟩ := Option.map_eq_some_iff.mp hl
    rw [hcounted, ← h.counted i l₀ hl₀]
    exact hreceived ⟨i, l₀⟩ (get?_eq_some.mp hl₀)
  · have hcancelledBefore := horders i po' hpo' hcancelled
    have hother : i ≠ input.poId := by
      rintro rfl
      rw [hpo] at hcancelledBefore
      rw [Option.some.inj hcancelledBefore, hcancelled] at hreceivable
      exact absurd hreceivable (by decide)
    obtain ⟨hget, hof⟩ := mem_linesOf.mp hr
    rw [hlines, get?_mapRows] at hget
    obtain ⟨l₀, hl₀, hrow⟩ := Option.map_eq_some_iff.mp hget
    rw [← hrow] at hof ⊢
    -- the lines of the input are of another order
    have hnothing : receivedOf input.lines r.id = 0 := by
      refine total_eq_zero fun line hline hid => ?_
      obtain ⟨r', hr', hid'⟩ := hknown line hline
      obtain ⟨hget', hof'⟩ := mem_linesOf.mp hr'
      rw [hid', hid, hl₀] at hget'
      rw [← Option.some.inj hget'] at hof'
      exact hother (hof.symm.trans hof')
    have hzero := h.cancelled i po' hcancelledBefore hcancelled ⟨r.id, l₀⟩
      (mem_linesOf.mpr ⟨hl₀, hof⟩)
    change halfUp 6 (l₀.quantityReceived + receivedOf input.lines r.id) ≤ 0
    rw [hnothing, add_zero]
    exact (halfUp_mono hzero).trans (halfUp_zero 6).le

theorem ReceiptsSound.withOrders (h : ReceiptsSound s) {orders : Table PurchaseOrder}
    (hcancelled : ∀ i po, orders.get? i = some po → po.status = .cancelled → CancelFits s i) :
    ReceiptsSound { s with orders := orders } :=
  ⟨h.lines, h.receiptLines, h.counted, hcancelled⟩

theorem ReceiptsSound.cancel (h : ReceiptsSound s)
    (hfits : CancelFits s poId) (hrun : cancelPo org poId s = .ok u s') :
    ReceiptsSound s' := by
  obtain rfl := cancelPo_eq_ok hrun
  refine h.withOrders fun i po hpo hcancelled => ?_
  obtain ⟨po₀, hpo₀, rfl⟩ := get?_modify_eq_some.mp hpo
  split_ifs at hcancelled with hi
  · rw [hi]
    exact hfits
  · exact h.cancelled i po₀ hpo₀ hcancelled

theorem ReceiptsSound.close (h : ReceiptsSound s)
    (hrun : closePo org poId s = .ok u s') : ReceiptsSound s' := by
  obtain rfl := closePo_eq_ok hrun
  refine h.withOrders fun i po hpo hcancelled => ?_
  have hbefore := uncancelling_modify (by decide) s.orders i po hpo hcancelled
  exact h.cancelled i po hbefore hcancelled

/-! ### Runs -/

theorem Unreceived.receiptsSound (h : Unreceived s) : ReceiptsSound s := by
  have hnone : ∀ i, s.counted i = 0 := fun i => by
    rw [PurchaseStore.counted, h.receiptLines]
    rfl
  refine ⟨fun i l hl => ?_, ?_, fun i l hl => ?_, fun i po _ _ r hr => ?_⟩
  · obtain ⟨hordered, hscale, hreceived⟩ := h.lines i l hl
    rw [hreceived]
    exact ⟨hscale, atScale_zero 6, le_rfl, hordered⟩
  · rw [h.receiptLines]
    exact Table.all_empty
  · rw [hnone, (h.lines i l hl).2.2]
  · exact (h.lines r.id r.row (mem_linesOf.mp hr).1).2.2.le

/-- **One operation** that meets its condition keeps receipts sound. -/
theorem receiptsSound_after (h : ReceiptsSound s) {op : PurchaseOperation}
    (hfits : op.Fits posting s) : ReceiptsSound (op.after posting s) := by
  refine commit_induction (P := ReceiptsSound) h fun u s' hrun => ?_
  have hcondition := hfits (returns_iff.mpr ⟨u, s', hrun⟩)
  cases op with
  | receive org receiptNumber input receivedByUserId =>
    obtain ⟨k, hreceive, -⟩ := map_eq_ok.mp hrun
    exact h.createReceipt hcondition hreceive
  | startInspection org receiptId => exact h.startInspection hrun
  | completeInspection org receiptId results =>
    exact h.completeInspection hcondition hrun
  | acceptAll org receiptId => exact h.acceptAll hrun
  | cancel org poId => exact h.cancel hcondition hrun
  | close org poId => exact h.close hrun

/-- **Order receipts are sound**: in runs whose calls meet their conditions, an order line has
received within what was ordered what its receipt lines count for, an inspected line was accepted
and rejected in parts that make up what came in, and nothing was received of a cancelled order. -/
theorem order_receipts_sound
    (h : (purchaseSystem posting).ReachableWithin (fun s op => op.Fits posting s) s) :
    (∀ i l, s.lines.get? i = some l → 0 ≤ l.quantityReceived ∧
      l.quantityReceived ≤ l.quantityOrdered ∧ l.quantityReceived = s.counted i) ∧
    (∀ i l receipt, s.receiptLines.get? i = some l →
      s.receipts.get? l.receiptId = some receipt → receipt.status ∉ ReceiptStatus.uninspected →
        0 ≤ l.quantityAccepted ∧ 0 ≤ l.quantityRejected ∧
          l.quantityAccepted + l.quantityRejected = l.quantityReceived) ∧
    ∀ i po, s.orders.get? i = some po → po.status = .cancelled →
      ∀ r ∈ s.linesOf i, ¬ 0 < r.row.quantityReceived := by
  have hsound : ReceiptsSound s := by
    refine h.invariant (P := ReceiptsSound) (fun s hs => hs.receiptsSound) ?_
    rintro s op s' hs hfits rfl
    exact receiptsSound_after hs hfits
  refine ⟨fun i l hl => ?_, fun i l receipt hl hreceipt hinspected => ?_,
    fun i po hpo hcancelled r hr => ?_⟩
  · obtain ⟨-, -, hnonneg, hle⟩ := hsound.lines i l hl
    exact ⟨hnonneg, hle, hsound.counted i l hl⟩
  · obtain ⟨receipt', hreceipt', hline⟩ := hsound.receiptLines i l hl
    obtain rfl := Option.mem_unique hreceipt hreceipt'
    have hsettled := hline.inspected hinspected
    exact ⟨hsettled.accepted, hsettled.rejected, hsettled.parts⟩
  · exact not_lt.mpr (hsound.cancelled i po hpo hcancelled r hr)

/-! ### Two runs -/

def approvedOrder : PurchaseStore where
  orders := Table.empty.insert { organizationId := 1, status := .approved }
  lines := (Table.empty.insert {
    poId := 0, lineNumber := 1, quantityOrdered := 10, unitPrice := 3 }).insert {
      poId := 0, lineNumber := 2, quantityOrdered := 5, unitPrice := 0 }
  receipts := Table.empty
  receiptLines := Table.empty

theorem unreceived_approvedOrder : Unreceived approvedOrder := by
  refine ⟨?_, rfl, rfl⟩
  refine (Table.all_empty.insert ?_).insert ?_
  · exact ⟨by decide, ⟨10000000, by norm_num⟩, rfl⟩
  · exact ⟨by decide, ⟨5000000, by norm_num⟩, rfl⟩

instance decidableElim {o : Option InspectionResult} {p : Prop} {q : InspectionResult → Prop}
    [Decidable p] [DecidablePred q] : Decidable (o.elim p q) := by
  cases o with
  | none => exact inferInstanceAs (Decidable p)
  | some result => exact inferInstanceAs (Decidable (q result))

instance (inputs : List GRLineInput) : Decidable (ReceiptFits inputs) :=
  inferInstanceAs (Decidable (∀ input ∈ inputs, _ = _))

instance (quantityReceived : ℚ) : DecidablePred (ResultFits quantityReceived) := fun _ =>
  inferInstanceAs (Decidable (_ ∧ _ ∧ _))

instance (s : PurchaseStore) (receiptId : UUID) (results : List InspectionResult) :
    Decidable (InspectionFits s receiptId results) :=
  inferInstanceAs (Decidable ((∀ r ∈ s.receiptLinesOf receiptId, _) ∧
    (_ → ∀ r ∈ s.lines.rows, _ = _)))

instance (s : PurchaseStore) (poId : UUID) : Decidable (CancelFits s poId) :=
  inferInstanceAs (Decidable (∀ r ∈ s.linesOf poId, _ ≤ _))

instance (s : PurchaseStore) (op : PurchaseOperation) : Decidable (op.Fits posting s) := by
  cases op with
  | receive org receiptNumber input receivedByUserId =>
    exact inferInstanceAs (Decidable (_ = _ → ReceiptFits input.lines))
  | completeInspection org receiptId results =>
    exact inferInstanceAs (Decidable (_ = _ → InspectionFits s receiptId results))
  | cancel org poId => exact inferInstanceAs (Decidable (_ = _ → CancelFits s poId))
  | startInspection | acceptAll | close => exact isTrue fun _ => trivial

/-- The goods come in three times: a part of the first is rejected, with one line named twice, all
of the second is accepted, and all of the third is rejected. -/
def inspectedOrder : List PurchaseOperation :=
  [.receive 1 "GRN-1" ⟨0, [⟨0, 4⟩, ⟨0, 3⟩, ⟨1, 5⟩]⟩ 7, .startInspection 1 0,
    .completeInspection 1 0 [⟨0, 3, 1, none⟩, ⟨1, 0, 3, none⟩, ⟨2, 5, 0, none⟩, ⟨1, 3, 0, none⟩],
    .receive 1 "GRN-2" ⟨0, [⟨0, 2⟩]⟩ 7, .acceptAll 1 1,
    .receive 1 "GRN-3" ⟨0, [⟨0, 1⟩]⟩ 7, .completeInspection 1 2 [⟨4, 0, 1, none⟩],
    .cancel 1 0, .close 1 0]

theorem order_receipts_sound_sample :
    let s := System.after (PurchaseOperation.after fun _ _ => none) approvedOrder inspectedOrder
    s.lines.rows.map (fun r => r.row.quantityReceived) = [8, 5] ∧ s.counted 0 = 8 ∧
      s.counted 1 = 5 := by
  have hrun : (purchaseSystem fun _ _ => none).ReachableWithin
      (fun s op => op.Fits (fun _ _ => none) s)
      (System.after (PurchaseOperation.after fun _ _ => none) approvedOrder inspectedOrder) :=
    System.reachableWithin_after unreceived_approvedOrder (by decide +kernel)
  obtain ⟨hlines, -, -⟩ := order_receipts_sound hrun
  have hrows : (System.after (PurchaseOperation.after fun _ _ => none) approvedOrder
      inspectedOrder).lines.rows.map (fun r => (r.id, r.row.quantityReceived)) =
        [(0, 8), (1, 5)] := by
    decide +kernel
  have hget : ∀ i q, (i, q) ∈ [((0 : ℕ), (8 : ℚ)), (1, 5)] → (System.after
      (PurchaseOperation.after fun _ _ => none) approvedOrder inspectedOrder).counted i = q := by
    intro i q hmem
    rw [← hrows] at hmem
    obtain ⟨r, hr, hpair⟩ := List.mem_map.mp hmem
    obtain ⟨rfl, rfl⟩ := Prod.mk.inj hpair
    exact (hlines r.id r.row (Table.get?_of_mem hr)).2.2.symm
  refine ⟨by decide +kernel, hget 0 8 (by simp), hget 1 5 (by simp)⟩

def emptyInspection : List PurchaseOperation :=
  [.receive 1 "GRN-1" ⟨0, [⟨0, 10⟩]⟩ 7, .completeInspection 1 0 []]

/-- **Nothing is accepted and all is received**: the receipt is accepted, with ten that came in and
none that were accepted or rejected. -/
theorem empty_inspection_accepts_nothing :
    ¬ ∀ (posting : PurchaseStore → UUID → Option HTTPException) (s : PurchaseStore),
      (purchaseSystem posting).Reachable s →
        (∀ i l, s.lines.get? i = some l → 0 ≤ l.quantityReceived ∧
          l.quantityReceived ≤ l.quantityOrdered ∧ l.quantityReceived = s.counted i) ∧
        (∀ i l receipt, s.receiptLines.get? i = some l →
          s.receipts.get? l.receiptId = some receipt →
          receipt.status ∉ ReceiptStatus.uninspected →
            0 ≤ l.quantityAccepted ∧ 0 ≤ l.quantityRejected ∧
              l.quantityAccepted + l.quantityRejected = l.quantityReceived) ∧
        ∀ i po, s.orders.get? i = some po → po.status = .cancelled →
          ∀ r ∈ s.linesOf i, ¬ 0 < r.row.quantityReceived := by
  intro h
  have hrun : (purchaseSystem fun _ _ => none).Reachable
      (System.after (PurchaseOperation.after fun _ _ => none) approvedOrder emptyInspection) :=
    System.reachable_after unreceived_approvedOrder emptyInspection
  have hline : ((System.after (PurchaseOperation.after fun _ _ => none) approvedOrder
      emptyInspection).lines.get? 0).map PurchaseOrderLine.quantityReceived = some 10 := by
    decide +kernel
  obtain ⟨l, hl, hreceived⟩ := Option.map_eq_some_iff.mp hline
  have hcounted := ((h _ _ hrun).1 0 l hl).2.2
  rw [hreceived] at hcounted
  exact absurd hcounted (by decide +kernel)

end DotmacErp.Purchasing
