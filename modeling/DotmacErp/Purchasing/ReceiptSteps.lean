import DotmacErp.Foundation.Selections
import DotmacErp.Purchasing.GoodsReceipts

/-!
# What the calls on receipts leave

A receipt adds to each line of its order what its own lines say (`receiveLines_eq_ok`). An
inspection gives a line the last result that names it (`inspectLines_eq_ok`), and what it takes from
an order line is the sum over the lines of the receipt (`reverse_eq_ok`). No call but a cancellation
makes an order cancelled (`Uncancelling`).
-/

namespace DotmacErp.Purchasing

open Relational Session Table Totals GoodsReceiptService

variable {s s' : PurchaseStore} {poId receiptId : UUID} {u : PUnit}

variable {org : UUID} {po : PurchaseOrder}

theorem orderOf_eq_some :
    s.orderOf org poId = some po ↔
      s.orders.get? poId = some po ∧ po.organizationId = org := by
  rw [PurchaseStore.orderOf, Option.filter_eq_some_iff, decide_eq_true_eq]

variable {receipt : GoodsReceipt}

theorem receiptOf_eq_some :
    s.receiptOf org receiptId = some receipt ↔
      s.receipts.get? receiptId = some receipt ∧ receipt.organizationId = org := by
  rw [PurchaseStore.receiptOf, Option.filter_eq_some_iff, decide_eq_true_eq]

theorem mem_linesOf {r : Stored PurchaseOrderLine} :
    r ∈ s.linesOf poId ↔ s.lines.get? r.id = some r.row ∧ r.row.poId = poId := by
  rw [PurchaseStore.linesOf, mem_select, decide_eq_true_eq]

theorem mem_receiptLinesOf {r : Stored GoodsReceiptLine} :
    r ∈ s.receiptLinesOf receiptId ↔
      s.receiptLines.get? r.id = some r.row ∧ r.row.receiptId = receiptId := by
  rw [PurchaseStore.receiptLinesOf, mem_select, decide_eq_true_eq]

/-! ### Statuses of orders -/

/-- Orders change in their status alone, and none becomes cancelled. -/
def Uncancelling (orders orders' : Table PurchaseOrder) : Prop :=
  ∀ i po, orders'.get? i = some po → po.status = .cancelled → orders.get? i = some po

theorem Uncancelling.refl (orders : Table PurchaseOrder) : Uncancelling orders orders :=
  fun _ _ h _ => h

theorem uncancelling_modify {status : POStatus} (h : status ≠ .cancelled)
    (orders : Table PurchaseOrder) :
    Uncancelling orders (orders.modify poId (PurchaseOrder.inStatus status)) := by
  intro i po hpo hcancelled
  obtain ⟨po₀, hpo₀, rfl⟩ := get?_modify_eq_some.mp hpo
  split_ifs at hcancelled ⊢ with hi
  · exact absurd hcancelled h
  · exact hpo₀

theorem receiptProgressTarget_ne_cancelled : receiptProgressTarget s poId ≠ .cancelled := by
  rw [receiptProgressTarget]
  split_ifs <;> decide

theorem applyTransition_eq_ok {transition : POTransition} :
    applyTransition poId po transition s = .ok u s' ↔
      po.status ∈ transition.fromStates ∧ ¬ (transition = .cancel ∧ 0 < s.receivedFor poId) ∧
        s' = { s with
          orders := s.orders.modify poId
            (PurchaseOrder.inStatus (transition.target s poId)) } := by
  rw [applyTransition, refuse_bind, not_not, get_bind, refuse_bind, set_eq_ok]

theorem recordReceiptProgress_eq_ok (h : recordReceiptProgress poId po s = .ok u s') :
    s' = { s with orders := s'.orders } ∧ Uncancelling s.orders s'.orders := by
  rw [recordReceiptProgress] at h
  split_ifs at h
  · obtain ⟨-, -, rfl⟩ := applyTransition_eq_ok.mp h
    exact ⟨rfl, uncancelling_modify receiptProgressTarget_ne_cancelled s.orders⟩
  · obtain ⟨-, rfl⟩ := pure_eq_ok.mp h
    exact ⟨rfl, Uncancelling.refl s'.orders⟩

theorem cancelPo_eq_ok (h : cancelPo org poId s = .ok u s') :
    s' = { s with orders := s.orders.modify poId (PurchaseOrder.inStatus .cancelled) } := by
  rw [cancelPo, get_bind, orRaise_bind] at h
  obtain ⟨po, -, h⟩ := h
  exact (applyTransition_eq_ok.mp h).2.2

theorem closePo_eq_ok (h : closePo org poId s = .ok u s') :
    s' = { s with orders := s.orders.modify poId (PurchaseOrder.inStatus .closed) } := by
  rw [closePo, get_bind, orRaise_bind] at h
  obtain ⟨po, -, h⟩ := h
  exact (applyTransition_eq_ok.mp h).2.2

/-! ### Receiving -/

def receivedOf (inputs : List GRLineInput) (poLineId : UUID) : ℚ :=
  total GRLineInput.quantityReceived GRLineInput.poLineId poLineId inputs

def newLines (receiptId : UUID) (lineNumber : ℕ) (inputs : List GRLineInput) :
    List GoodsReceiptLine :=
  (inputs.zipIdx lineNumber).map fun input => receiptLine receiptId input.1 input.2

theorem receive_zero (l : PurchaseOrderLine) : receive 0 l = l := by
  rw [receive, add_zero]

theorem receive_receive (p q : ℚ) (l : PurchaseOrderLine) :
    receive q (receive p l) = receive (p + q) l := by
  rw [receive, receive, receive, add_assoc]

/-- **The lines of a receipt**: each order line has its part, within what was ordered. -/
theorem receiveLines_eq_ok {lineNumber : ℕ} {inputs : List GRLineInput}
    (h : receiveLines receiptId lineNumber inputs s = .ok u s') :
    s' = { s with
      lines := s.lines.mapRows fun r => receive (receivedOf inputs r.id) r.row
      receiptLines := s.receiptLines.insertAll (newLines receiptId lineNumber inputs) } ∧
    (∀ input ∈ inputs, 0 < input.quantityReceived) ∧
    ∀ r ∈ s.lines.rows, r.row.quantityReceived ≤ r.row.quantityOrdered →
      r.row.quantityReceived + receivedOf inputs r.id ≤ r.row.quantityOrdered := by
  induction inputs generalizing s lineNumber with
  | nil =>
    obtain ⟨-, rfl⟩ := pure_eq_ok.mp h
    have hsame : s'.lines.mapRows (fun r => receive (receivedOf [] r.id) r.row) = s'.lines := by
      refine (mapRows_congr fun r _ => ?_).trans mapRows_row
      exact receive_zero r.row
    refine ⟨by rw [hsame]; rfl, fun input hinput => absurd hinput List.not_mem_nil, ?_⟩
    intro r _ hle
    exact (add_zero _).trans_le hle
  | cons input rest ih =>
    rw [receiveLines, get_bind, orRaise_bind] at h
    obtain ⟨poLine, hpoLine, h⟩ := h
    obtain ⟨hpos, h⟩ := refuse_bind.mp h
    obtain ⟨hremaining, h⟩ := refuse_bind.mp h
    obtain ⟨_, s₁, hset, hrest⟩ := bind_eq_ok.mp h
    obtain ⟨hs', hpositive, hwithin⟩ := ih hrest
    obtain rfl := set_eq_ok.mp hset
    set g : Stored PurchaseOrderLine → PurchaseOrderLine := fun r =>
      if r.id = input.poLineId then receive input.quantityReceived r.row else r.row with hg
    have hmapped : s.lines.modify input.poLineId (receive input.quantityReceived) =
        s.lines.mapRows g := modify_eq_mapRows
    have hcons : ∀ i, receivedOf (input :: rest) i =
        (if input.poLineId = i then input.quantityReceived else 0) + receivedOf rest i :=
      fun i => total_cons input rest
    refine ⟨?_, ?_, fun r hr hle => ?_⟩
    · have hlines : (s.lines.mapRows g).mapRows (fun r => receive (receivedOf rest r.id) r.row) =
          s.lines.mapRows fun r => receive (receivedOf (input :: rest) r.id) r.row := by
        rw [mapRows_mapRows]
        refine mapRows_congr fun r _ => ?_
        rw [hcons, hg]
        by_cases hid : r.id = input.poLineId
        · simp only [hid, if_true, receive_receive]
        · simp only [hid, Ne.symm hid, if_false, zero_add]
      rw [hs', hmapped, hlines]
      rfl
    · intro input' hinput'
      rcases List.mem_cons.mp hinput' with rfl | hlater
      · exact not_le.mp hpos
      · exact hpositive input' hlater
    · have hmem : (⟨r.id, g r⟩ : Stored PurchaseOrderLine) ∈
          (s.lines.modify input.poLineId (receive input.quantityReceived)).rows := by
        rw [hmapped]
        exact List.mem_map.mpr ⟨r, hr, rfl⟩
      have hlater := hwithin _ hmem
      rw [hcons]
      by_cases hid : r.id = input.poLineId
      · have hrow : r.row = poLine := by
          have hget := get?_of_mem hr
          rw [hid, hpoLine] at hget
          exact (Option.some.inj hget).symm
        have hthis : g r = receive input.quantityReceived r.row := if_pos hid
        simp only [hthis] at hlater
        rw [← hrow] at hremaining
        rw [if_pos hid.symm, ← add_assoc]
        exact hlater (le_sub_iff_add_le'.mp (not_lt.mp hremaining))
      · have hthis : g r = r.row := if_neg hid
        simp only [hthis] at hlater
        rw [if_neg (Ne.symm hid), zero_add]
        exact hlater hle

theorem checkLines_eq_ok {s₀ : PurchaseStore} {inputs : List GRLineInput}
    (h : checkLines s₀ poId inputs s = .ok u s') :
    s' = s ∧ ∀ input ∈ inputs, ∃ r ∈ s₀.linesOf poId, r.id = input.poLineId := by
  induction inputs with
  | nil =>
    obtain ⟨-, rfl⟩ := pure_eq_ok.mp h
    exact ⟨rfl, fun input hinput => absurd hinput List.not_mem_nil⟩
  | cons input rest ih =>
    rw [checkLines] at h
    obtain ⟨hknown, h⟩ := refuse_bind.mp h
    obtain ⟨rfl, hrest⟩ := ih h
    refine ⟨rfl, fun input' hinput' => ?_⟩
    rcases List.mem_cons.mp hinput' with rfl | hlater
    · exact List.mem_map.mp (not_not.mp hknown)
    · exact hrest input' hlater

/-- **A receipt.** -/
theorem createReceipt_eq_ok {receivedByUserId k : UUID} {receiptNumber : String}
    {input : GoodsReceiptInput}
    (h : createReceipt org receiptNumber input receivedByUserId s = .ok k s') :
    ∃ (po : PurchaseOrder) (receipt : GoodsReceipt),
      s.orders.get? input.poId = some po ∧ po.status ∈ receivableStates ∧
      receipt.status = .received ∧
      (∀ l ∈ input.lines, 0 < l.quantityReceived) ∧
      (∀ l ∈ input.lines, ∃ r ∈ s.linesOf input.poId, r.id = l.poLineId) ∧
      (∀ r ∈ s.lines.rows, r.row.quantityReceived ≤ r.row.quantityOrdered →
        r.row.quantityReceived + receivedOf input.lines r.id ≤ r.row.quantityOrdered) ∧
      s'.lines = s.lines.mapRows (fun r =>
        storedLine (receive (receivedOf input.lines r.id) r.row)) ∧
      s'.receipts = s.receipts.insert receipt ∧
      s'.receiptLines = (s.receiptLines.insertAll (newLines s.receipts.next 1 input.lines)).mapRows
        (fun r => storedReceiptLine r.row) ∧
      Uncancelling s.orders s'.orders := by
  rw [createReceipt, get_bind, orRaise_bind] at h
  obtain ⟨po, hpo, h⟩ := h
  obtain ⟨hstatus, h⟩ := refuse_bind.mp h
  obtain ⟨-, h⟩ := refuse_bind.mp h
  obtain ⟨_, s₁, hcheck, h⟩ := bind_eq_ok.mp h
  obtain ⟨rfl, hknown⟩ := checkLines_eq_ok hcheck
  obtain ⟨_, s₂, hset, h⟩ := bind_eq_ok.mp h
  obtain ⟨_, s₃, hreceive, h⟩ := bind_eq_ok.mp h
  obtain ⟨hs₃, hpos, hwithin⟩ := receiveLines_eq_ok hreceive
  obtain ⟨_, s₄, hprogress, h⟩ := bind_eq_ok.mp h
  obtain ⟨hs₄, horders⟩ := recordReceiptProgress_eq_ok hprogress
  rw [modify_bind] at h
  obtain ⟨-, rfl⟩ := pure_eq_ok.mp h
  obtain rfl := set_eq_ok.mp hset
  refine ⟨po, newReceipt org input.poId receiptNumber receivedByUserId,
    (orderOf_eq_some.mp hpo).1, not_not.mp hstatus, rfl, hpos, hknown, hwithin, ?_, ?_, ?_, ?_⟩
  · rw [hs₄, hs₃]
    exact mapRows_mapRows
  · rw [hs₄, hs₃]
    rfl
  · rw [hs₄, hs₃]
    rfl
  · rw [hs₃] at horders
    exact horders

/-! ### Inspecting -/

def lastResult (results : List InspectionResult) (lineId : UUID) : Option InspectionResult :=
  (results.filter fun result => decide (result.lineId = lineId)).getLast?

def inspectedLine (results : List InspectionResult) (r : Stored GoodsReceiptLine) :
    GoodsReceiptLine :=
  (lastResult results r.id).elim r.row fun result => inspect result r.row

theorem lastResult_cons (result : InspectionResult) (rest : List InspectionResult) (i : UUID) :
    lastResult (result :: rest) i = if result.lineId = i then
      some ((lastResult rest i).getD result) else lastResult rest i := by
  rw [lastResult, List.filter_cons]
  by_cases hi : result.lineId = i
  · simp only [hi, decide_true, if_true, List.getLast?_cons]
    rfl
  · simp only [hi, decide_false, Bool.false_eq_true, if_false]
    rfl

/-- **The results of an inspection**: a line has its last one, and all that came in is in it. -/
theorem inspectLines_eq_ok {results : List InspectionResult}
    (h : inspectLines receiptId results s = .ok u s') :
    s' = { s with receiptLines := s.receiptLines.mapRows (inspectedLine results) } ∧
      ∀ result ∈ results, ∃ l, s.receiptLines.get? result.lineId = some l ∧
        l.receiptId = receiptId ∧
        result.quantityAccepted + result.quantityRejected = l.quantityReceived := by
  induction results generalizing s with
  | nil =>
    obtain ⟨-, rfl⟩ := pure_eq_ok.mp h
    have hsame : s'.receiptLines.mapRows (inspectedLine []) = s'.receiptLines :=
      (mapRows_congr fun r _ => rfl).trans mapRows_row
    exact ⟨by rw [hsame], fun result hresult => absurd hresult List.not_mem_nil⟩
  | cons result rest ih =>
    rw [inspectLines, get_bind, orRaise_bind] at h
    obtain ⟨line, hline, h⟩ := h
    obtain ⟨hget, hof⟩ := Option.filter_eq_some_iff.mp hline
    obtain ⟨hsum, h⟩ := refuse_bind.mp h
    obtain ⟨_, s₁, hset, hrest⟩ := bind_eq_ok.mp h
    obtain ⟨hs', hlines⟩ := ih hrest
    obtain rfl := set_eq_ok.mp hset
    constructor
    · have hmapped : (s.receiptLines.modify result.lineId (inspect result)).mapRows
          (inspectedLine rest) = s.receiptLines.mapRows (inspectedLine (result :: rest)) := by
        rw [modify_eq_mapRows, mapRows_mapRows]
        refine mapRows_congr fun r _ => ?_
        rw [inspectedLine, inspectedLine, lastResult_cons]
        by_cases hid : r.id = result.lineId
        · simp only [hid, if_true]
          -- a later result for the line replaces all of this one
          cases lastResult rest result.lineId with
          | none => rfl
          | some later => rfl
        · simp only [hid, Ne.symm hid, if_false]
      rw [hs', hmapped]
    · intro result' hresult'
      rcases List.mem_cons.mp hresult' with rfl | hlater
      · exact ⟨line, hget, of_decide_eq_true hof, not_not.mp hsum⟩
      · obtain ⟨l, hl, hreceipt, heq⟩ := hlines result' hlater
        obtain ⟨l₀, hl₀, rfl⟩ := get?_modify_eq_some.mp hl
        refine ⟨l₀, hl₀, ?_, ?_⟩
        · split_ifs at hreceipt
          · exact hreceipt
          · exact hreceipt
        · split_ifs at heq
          · exact heq
          · exact heq

def reversedOf (lines : List (Stored GoodsReceiptLine)) (quantity : GoodsReceiptLine → ℚ)
    (poLineId : UUID) : ℚ :=
  total (fun r => quantity r.row) (fun r => r.row.poLineId) poLineId lines

theorem updatePoStatus_eq_ok (h : updatePoStatus receipt s = .ok u s') :
    s' = { s with orders := s'.orders } ∧ Uncancelling s.orders s'.orders := by
  rw [updatePoStatus, get_bind] at h
  cases hpo : s.orderOf receipt.organizationId receipt.poId with
  | none =>
    rw [hpo] at h
    obtain ⟨-, rfl⟩ := pure_eq_ok.mp h
    exact ⟨rfl, Uncancelling.refl s'.orders⟩
  | some po =>
    rw [hpo] at h
    exact recordReceiptProgress_eq_ok h

theorem reverse_eq_ok {quantity : GoodsReceiptLine → ℚ}
    (h : reverse receiptId receipt quantity s = .ok u s') :
    s' = { s with
      lines := s.lines.mapRows fun r =>
        receive (-(reversedOf (s.receiptLinesOf receiptId) quantity r.id)) r.row
      orders := s'.orders } ∧ Uncancelling s.orders s'.orders := by
  rw [reverse, get_bind] at h
  by_cases hlines : s.receiptLinesOf receiptId = []
  · simp only [hlines, if_true] at h
    obtain ⟨-, rfl⟩ := pure_eq_ok.mp h
    have hsame : s'.lines.mapRows (fun r => receive (-(reversedOf [] quantity r.id)) r.row) =
        s'.lines := by
      refine (mapRows_congr fun r _ => ?_).trans mapRows_row
      exact (congrArg (receive · r.row) neg_zero).trans (receive_zero r.row)
    rw [hlines]
    exact ⟨by rw [hsame], Uncancelling.refl s'.orders⟩
  · simp only [hlines, if_false] at h
    obtain ⟨_, s₁, hset, h⟩ := bind_eq_ok.mp h
    obtain rfl := set_eq_ok.mp hset
    have hmapped : s.lines.modifyAll (fun q => receive (-q))
        (quantitiesOf (s.receiptLinesOf receiptId) quantity) = s.lines.mapRows fun r =>
          receive (-(reversedOf (s.receiptLinesOf receiptId) quantity r.id)) r.row := by
      rw [modifyAll_eq_mapRows (fun l => by rw [neg_zero, receive_zero]) fun p q l => by
        rw [receive_receive, neg_add]]
      refine mapRows_congr fun r _ => ?_
      rw [quantitiesOf, total_map]
      rfl
    rw [hmapped] at h
    exact updatePoStatus_eq_ok h

variable {posting : PurchaseStore → UUID → Option HTTPException}

theorem postAccepted_eq_ok (h : postAccepted posting receiptId receipt s = .ok u s') :
    s' = s := by
  rw [postAccepted] at h
  obtain ⟨-, h⟩ := refuse_bind.mp h
  rw [get_bind] at h
  cases hpost : posting s receiptId with
  | some error =>
    rw [hpost] at h
    exact (throw_eq_ok.mp h).elim
  | none =>
    rw [hpost] at h
    exact (pure_eq_ok.mp h).2

def reversedQuantity (status : ReceiptStatus) (l : GoodsReceiptLine) : ℚ :=
  match status with
  | .rejected => l.quantityReceived
  | .partially => if 0 < l.quantityRejected then l.quantityRejected else 0
  | _ => 0

/-- **Settling an inspection**: what is taken from order lines depends on its status. -/
theorem settleInspection_eq_ok {status : ReceiptStatus}
    (h : settleInspection posting receiptId receipt status s = .ok u s') :
    s' = { s with
      lines := s.lines.mapRows fun r =>
        receive (-(reversedOf (s.receiptLinesOf receiptId) (reversedQuantity status) r.id)) r.row
      orders := s'.orders } ∧ Uncancelling s.orders s'.orders := by
  have hnothing : (∀ l, reversedQuantity status l = 0) →
      s.lines.mapRows (fun r => receive (-(reversedOf (s.receiptLinesOf receiptId)
        (reversedQuantity status) r.id)) r.row) = s.lines := by
    intro hzero
    refine (mapRows_congr fun r _ => ?_).trans mapRows_row
    have hnone : reversedOf (s.receiptLinesOf receiptId) (reversedQuantity status) r.id = 0 :=
      total_eq_zero_of fun r' _ _ => hzero r'.row
    rw [hnone, neg_zero, receive_zero]
  cases status with
  | rejected => exact reverse_eq_ok h
  | partially =>
    obtain ⟨_, s₁, hrejected, hpost⟩ := bind_eq_ok.mp h
    obtain rfl := postAccepted_eq_ok hpost
    exact reverse_eq_ok hrejected
  | received =>
    obtain rfl := postAccepted_eq_ok h
    rw [hnothing fun _ => rfl]
    exact ⟨rfl, Uncancelling.refl s'.orders⟩
  | inspecting =>
    obtain rfl := postAccepted_eq_ok h
    rw [hnothing fun _ => rfl]
    exact ⟨rfl, Uncancelling.refl s'.orders⟩
  | accepted =>
    obtain rfl := postAccepted_eq_ok h
    rw [hnothing fun _ => rfl]
    exact ⟨rfl, Uncancelling.refl s'.orders⟩

def takenOf (s : PurchaseStore) (receiptId : UUID) (results : List InspectionResult)
    (poLineId : UUID) : ℚ :=
  reversedOf ((s.receiptLinesOf receiptId).map fun r => ⟨r.id, inspectedLine results r⟩)
    (reversedQuantity (inspectedStatus results)) poLineId

theorem receiptId_inspectedLine (results : List InspectionResult) (r : Stored GoodsReceiptLine) :
    (inspectedLine results r).receiptId = r.row.receiptId := by
  rw [inspectedLine]
  cases lastResult results r.id with
  | none => rfl
  | some result => rfl

/-- **A completed inspection.** -/
theorem completeInspection_eq_ok {results : List InspectionResult}
    (h : completeInspection posting org receiptId results s = .ok u s') :
    ∃ receipt, s.receipts.get? receiptId = some receipt ∧
      receipt.status ∈ ReceiptStatus.uninspected ∧
      (∀ result ∈ results, ∃ l, s.receiptLines.get? result.lineId = some l ∧
        l.receiptId = receiptId ∧
        result.quantityAccepted + result.quantityRejected = l.quantityReceived) ∧
      s'.lines = s.lines.mapRows (fun r =>
        storedLine (receive (-(takenOf s receiptId results r.id)) r.row)) ∧
      s'.receipts = s.receipts.modify receiptId (inReceiptStatus (inspectedStatus results)) ∧
      s'.receiptLines = s.receiptLines.mapRows (fun r =>
        storedReceiptLine (inspectedLine results r)) ∧
      Uncancelling s.orders s'.orders := by
  rw [completeInspection, get_bind, orRaise_bind] at h
  obtain ⟨receipt, hreceipt, h⟩ := h
  obtain ⟨hstatus, h⟩ := refuse_bind.mp h
  obtain ⟨_, s₁, hinspect, h⟩ := bind_eq_ok.mp h
  obtain ⟨hs₁, hresults⟩ := inspectLines_eq_ok hinspect
  rw [modify_bind] at h
  obtain ⟨_, s₂, hsettle, h⟩ := bind_eq_ok.mp h
  have hfinal : s' = storeQuantities s₂ := modify_eq_ok.mp h
  obtain ⟨hs₂, horders⟩ := settleInspection_eq_ok hsettle
  have hlinesOf : s₁.receiptLinesOf receiptId =
      (s.receiptLinesOf receiptId).map fun r => ⟨r.id, inspectedLine results r⟩ := by
    rw [hs₁]
    exact select_mapRows fun r _ => by rw [receiptId_inspectedLine]
  have htaken : ∀ i, reversedOf (s₁.receiptLinesOf receiptId)
      (reversedQuantity (inspectedStatus results)) i = takenOf s receiptId results i := fun i => by
    rw [hlinesOf]
    rfl
  refine ⟨receipt, (receiptOf_eq_some.mp hreceipt).1, not_not.mp hstatus, hresults, ?_, ?_, ?_, ?_⟩
  · rw [hfinal, hs₂]
    refine mapRows_mapRows.trans ?_
    rw [show s₁.lines = s.lines by rw [hs₁]]
    exact mapRows_congr fun r _ => congrArg (fun q => storedLine (receive (-q) r.row)) (htaken r.id)
  · rw [hfinal, hs₂, hs₁]
    rfl
  · rw [hfinal, hs₂, hs₁]
    exact mapRows_mapRows
  · rw [hs₁] at horders
    rw [hfinal]
    exact horders

theorem startInspection_eq_ok (h : startInspection org receiptId s = .ok u s') :
    (∃ receipt, s.receipts.get? receiptId = some receipt ∧ receipt.status = .received) ∧
      s' = { s with receipts := s.receipts.modify receiptId (inReceiptStatus .inspecting) } := by
  rw [startInspection, get_bind, orRaise_bind] at h
  obtain ⟨receipt, hreceipt, h⟩ := h
  obtain ⟨hstatus, h⟩ := refuse_bind.mp h
  exact ⟨⟨receipt, (receiptOf_eq_some.mp hreceipt).1, not_not.mp hstatus⟩, set_eq_ok.mp h⟩

theorem acceptAll_eq_ok (h : acceptAll posting org receiptId s = .ok u s') :
    (∃ receipt, s.receipts.get? receiptId = some receipt ∧
      receipt.status ∈ ReceiptStatus.uninspected) ∧
      s' = { s with
        receiptLines := s.receiptLines.update (fun l => decide (l.receiptId = receiptId)) acceptLine
        receipts := s.receipts.modify receiptId (inReceiptStatus .accepted) } := by
  rw [acceptAll, get_bind, orRaise_bind] at h
  obtain ⟨receipt, hreceipt, h⟩ := h
  obtain ⟨hstatus, h⟩ := refuse_bind.mp h
  obtain ⟨_, s₁, hset, hpost⟩ := bind_eq_ok.mp h
  obtain rfl := set_eq_ok.mp hset
  exact ⟨⟨receipt, (receiptOf_eq_some.mp hreceipt).1, not_not.mp hstatus⟩,
    postAccepted_eq_ok hpost⟩

end DotmacErp.Purchasing
