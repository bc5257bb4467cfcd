import DotmacErp.Foundation.Scripts
import DotmacErp.Sales.OrderSteps

/-!
# Sales orders over whole runs

Over the calls on confirmed orders, no line is invoiced beyond what is shipped of it or shipped
beyond what was ordered, the invoices of an order add up to its invoiced amount, and releasing an
order restores the status it was held from (`sales_orders_sound`). The calls do not look at all that
this needs: the requested quantities of a line must be available together, an invoice's total must
fit the four decimals of the order's amount, and an order must be held from a status that its
quantities tell.

An order that was shipped nothing is in progress after an empty shipment, and released to confirmed
(`empty_shipment_forgets_progress`).
-/

namespace DotmacErp.Sales

open Relational Session Table Rounding Totals SalesOrderService

variable {s s' : SalesStore} {soId : UUID} {accepts : SalesInvoice → Bool}

/-! ### Operations -/

inductive SalesOperation where
  | ship (soId : UUID) (lineQuantities : List LineQuantity) (org : Option UUID)
  | invoice (soId : UUID) (lineQuantities : List LineQuantity) (org : Option UUID)
  | hold (soId org : UUID)
  | release (soId org : UUID)
  | cancel (soId org : UUID) (reason : Option String)

/-- The requested quantities of each line are available together, and the total of the invoice has,
in six decimals, no more than four. -/
def InvoiceFits (s : SalesStore) (soId : UUID) (lineQuantities : List LineQuantity) : Prop :=
  let lines := chosenLines s soId lineQuantities
  (∀ r ∈ s.linesOf soId,
    halfUp 4 (total Prod.snd Prod.fst r.id (quantitiesOf lines)) ≤ available r.row) ∧
  ∀ so ∈ s.orders.get? soId,
    halfUp 4 (halfUp 6 (salesInvoice soId so lines).totalAmount) =
      halfUp 6 (salesInvoice soId so lines).totalAmount

/-- The quantities of an order tell its status: it is not held already, it has lines if it is
confirmed, and it is shipped in part if it is in progress. -/
def HoldFits (s : SalesStore) (soId : UUID) : Prop :=
  ∀ so ∈ s.orders.get? soId, so.status ≠ .onHold ∧
    (so.status = .confirmed → s.linesOf soId ≠ []) ∧
    (so.status = .inProgress → s.isFullyShipped soId = false ∧
      ∃ r ∈ s.linesOf soId, 0 < r.row.quantityShipped)

namespace SalesOperation

def run (accepts : SalesInvoice → Bool) : SalesOperation → SalesSession PUnit
  | ship soId lineQuantities org =>
    (fun _ => ⟨⟩) <$> createShipment soId lineQuantities org
  | invoice soId lineQuantities org =>
    (fun _ => ⟨⟩) <$> createInvoiceFromSo accepts soId lineQuantities org
  | hold soId org => SalesOrderService.hold soId org
  | release soId org => releaseHold soId org
  | cancel soId org reason => SalesOrderService.cancel soId org reason

def after (accepts : SalesInvoice → Bool) (s : SalesStore) (op : SalesOperation) : SalesStore :=
  commit (op.run accepts) s

/-- Requested quantities are positive. -/
def InScope : SalesOperation → Prop
  | ship _ lineQuantities _ => ∀ q ∈ lineQuantities, 0 < q.quantity
  | invoice _ lineQuantities _ => ∀ q ∈ lineQuantities, 0 < q.quantity
  | _ => True

/-- A call that goes through meets the condition of its kind. -/
def Fits (accepts : SalesInvoice → Bool) (s : SalesStore) (op : SalesOperation) : Prop :=
  returns (op.run accepts) s = true →
    match op with
    | invoice soId lineQuantities _ => InvoiceFits s soId lineQuantities
    | hold soId _ => HoldFits s soId
    | _ => True

end SalesOperation

structure Confirmed (s : SalesStore) : Prop where
  orders : s.orders.All fun so =>
    so.status = .confirmed ∧ so.confirmedAt = true ∧ so.invoicedAmount = 0
  lines : s.lines.All fun l => 0 < l.quantityOrdered ∧ AtScale 4 l.quantityOrdered ∧
    l.quantityShipped = 0 ∧ l.quantityInvoiced = 0
  invoices : s.invoices = Table.empty

def salesSystem (accepts : SalesInvoice → Bool) : System SalesStore SalesOperation :=
  .ofFunction Confirmed (SalesOperation.after accepts)

/-! ### The invariant -/

def SalesStore.invoiced (s : SalesStore) (soId : UUID) : ℚ :=
  ((s.invoices.select fun invoice => decide (invoice.soId = soId)).map fun r =>
    r.row.totalAmount).sum

def StatusTold (s : SalesStore) (soId : UUID) (so : SalesOrder) : Prop :=
  match so.status with
  | .confirmed => ∀ r ∈ s.linesOf soId, r.row.quantityShipped = 0
  | .shipped => s.isFullyShipped soId = true
  | .onHold => so.heldFrom = some (releasedStatus s soId so)
  | .inProgress | .completed | .cancelled => True
  | .draft | .submitted | .approved => False

/-- Lines within their bounds, invoiced amounts that are accounted for, and statuses that hold. -/
structure SalesSound (s : SalesStore) : Prop where
  lines : s.lines.All fun l => 0 < l.quantityOrdered ∧ l.Scaled ∧ l.Bounded
  confirmed : s.orders.All fun so => so.confirmedAt = true ∧ AtScale 4 so.invoicedAmount
  invoiced : ∀ k so, s.orders.get? k = some so → so.invoicedAmount = s.invoiced k
  status : ∀ k so, s.orders.get? k = some so → StatusTold s k so

/-! ### Lines of an order -/

theorem mem_linesOf {r : Stored SalesOrderLine} :
    r ∈ s.linesOf soId ↔ s.lines.get? r.id = some r.row ∧ r.row.soId = soId := by
  rw [SalesStore.linesOf, mem_select, decide_eq_true_eq]

theorem linesOf_mapRows {f : Stored SalesOrderLine → SalesOrderLine}
    (hlines : s'.lines = s.lines.mapRows f) (horder : ∀ r ∈ s.lines.rows, (f r).soId = r.row.soId) :
    s'.linesOf soId = (s.linesOf soId).map fun r => ⟨r.id, f r⟩ := by
  rw [SalesStore.linesOf, hlines]
  exact select_mapRows fun r hr => by rw [horder r hr]

variable {so : SalesOrder}

/-- A status is still told after lines were rewritten with what is ordered and shipped of the
order's own. -/
theorem StatusTold.congr {f : Stored SalesOrderLine → SalesOrderLine} (h : StatusTold s soId so)
    (hlines : s'.lines = s.lines.mapRows f) (horder : ∀ r ∈ s.lines.rows, (f r).soId = r.row.soId)
    (hsame : ∀ r ∈ s.linesOf soId, (f r).quantityShipped = r.row.quantityShipped ∧
      (f r).quantityOrdered = r.row.quantityOrdered) : StatusTold s' soId so := by
  have hlinesOf : s'.linesOf soId = (s.linesOf soId).map fun r => ⟨r.id, f r⟩ :=
    linesOf_mapRows hlines horder
  have hfully : s'.isFullyShipped soId = s.isFullyShipped soId := by
    rw [SalesStore.isFullyShipped, SalesStore.isFullyShipped, hlinesOf, List.all_map,
      Bool.eq_iff_iff, List.all_eq_true, List.all_eq_true]
    refine forall₂_congr fun r hr => ?_
    rw [Function.comp_apply, (hsame r hr).1, (hsame r hr).2]
  have hany : ((s'.linesOf soId).any fun r => decide (0 < r.row.quantityShipped)) =
      (s.linesOf soId).any fun r => decide (0 < r.row.quantityShipped) := by
    rw [hlinesOf, List.any_map, Bool.eq_iff_iff, List.any_eq_true, List.any_eq_true]
    refine exists_congr fun r => and_congr_right fun hr => ?_
    rw [Function.comp_apply, (hsame r hr).1]
  have hreleased : releasedStatus s' soId so = releasedStatus s soId so := by
    rw [releasedStatus, releasedStatus, hfully, hany]
  have hunshipped : (∀ r ∈ s.linesOf soId, r.row.quantityShipped = 0) →
      ∀ r ∈ s'.linesOf soId, r.row.quantityShipped = 0 := by
    intro hnone r hr
    rw [hlinesOf] at hr
    obtain ⟨r₀, hr₀, rfl⟩ := List.mem_map.mp hr
    exact (hsame r₀ hr₀).1.trans (hnone r₀ hr₀)
  rw [StatusTold] at h ⊢
  cases hstatus : so.status with
  | confirmed =>
    rw [hstatus] at h
    exact hunshipped h
  | shipped =>
    rw [hstatus] at h
    exact hfully.trans h
  | onHold =>
    rw [hstatus] at h
    exact h.trans (congrArg some hreleased.symm)
  | inProgress => trivial
  | completed => trivial
  | cancelled => trivial
  | draft =>
    rw [hstatus] at h
    exact h
  | submitted =>
    rw [hstatus] at h
    exact h
  | approved =>
    rw [hstatus] at h
    exact h

theorem StatusTold.of_lines_eq (h : StatusTold s soId so)
    (hlines : s'.lines = s.lines) : StatusTold s' soId so :=
  h.congr (f := Stored.row) (hlines.trans mapRows_row.symm) (fun _ _ => rfl)
    fun _ _ => ⟨rfl, rfl⟩

/-! ### Shipments -/

/-- A stored line that orders something, ships what is ordered and bills what is shipped. -/
def SalesOrderLine.Sound (l : SalesOrderLine) : Prop :=
  0 < l.quantityOrdered ∧ l.Scaled ∧ l.Bounded

theorem ShippedMore.sound {l l' : SalesOrderLine} (h : ShippedMore soId l l') (hl : l.Sound) :
    l'.stored.Sound := by
  obtain ⟨hordered, hscaled, hbounded⟩ := hl
  have hscale : AtScale 4 l'.quantityOrdered := by
    rw [h.ordered]
    exact hscaled.ordered
  have hbounds : l'.Bounded := by
    refine ⟨?_, ?_, ?_⟩
    · rw [h.invoiced]
      exact hbounded.invoiced
    · rw [h.invoiced]
      exact hbounded.shipped.trans h.more
    · rw [h.ordered]
      exact h.within hbounded.ordered
  refine ⟨?_, ⟨hscale, atScale_halfUp 4 _, atScale_halfUp 4 _⟩, hbounds.stored hscale⟩
  change 0 < l'.quantityOrdered
  rwa [h.ordered]

variable {lineQuantities : List LineQuantity}

theorem SalesSound.createShipment (h : SalesSound s)
    {org : Option UUID} {k : UUID} (hpos : ∀ q ∈ lineQuantities, 0 < q.quantity)
    (hrun : createShipment soId lineQuantities org s = .ok k s') : SalesSound s' := by
  obtain ⟨so, f, hso, -, hf, hlines, horders, hinvoices⟩ := createShipment_eq_ok hpos hrun
  have hsound : ∀ r ∈ s.lines.rows, (f r).stored.Sound := fun r hr =>
    (hf r hr).sound (h.lines r.id r.row (get?_of_mem hr))
  have hsame : ∀ i, s'.invoiced i = s.invoiced i := fun i => by
    rw [SalesStore.invoiced, SalesStore.invoiced, hinvoices]
  have hshipped : { s with lines := s.lines.mapRows f }.isFullyShipped soId = true →
      s'.isFullyShipped soId = true := by
    intro hfull
    rw [SalesStore.isFullyShipped, List.all_eq_true] at hfull ⊢
    intro r' hr'
    rw [linesOf_mapRows hlines fun r hr => (hf r hr).order] at hr'
    obtain ⟨r, hr, rfl⟩ := List.mem_map.mp hr'
    have hmem : (⟨r.id, f r⟩ : Stored SalesOrderLine) ∈
        ({ s with lines := s.lines.mapRows f } : SalesStore).linesOf soId := by
      rw [linesOf_mapRows (s := s) rfl fun r hr => (hf r hr).order]
      exact List.mem_map.mpr ⟨r, hr, rfl⟩
    -- what was ordered has the scale of the column
    have hscale := (hsound r (List.mem_of_mem_filter hr)).2.1.ordered
    have hle : (f r).quantityOrdered ≤ (f r).quantityShipped := of_decide_eq_true (hfull _ hmem)
    exact decide_eq_true ((halfUp_of_atScale hscale).ge.trans (halfUp_mono hle))
  refine ⟨?_, ?_, fun i so' hso' => ?_, fun i so' hso' => ?_⟩
  · intro i l hl
    rw [hlines, get?_mapRows] at hl
    obtain ⟨l₀, hl₀, rfl⟩ := Option.map_eq_some_iff.mp hl
    exact hsound ⟨i, l₀⟩ (get?_eq_some.mp hl₀)
  · rw [horders]
    exact h.confirmed.modify fun so₀ hso₀ => h.confirmed soId so₀ hso₀
  · rw [hsame i]
    rw [horders] at hso'
    obtain ⟨so₀, hso₀, rfl⟩ := get?_modify_eq_some.mp hso'
    have hinvoiced := h.invoiced i so₀ hso₀
    split_ifs
    · exact hinvoiced
    · exact hinvoiced
  · rw [horders] at hso'
    obtain ⟨so₀, hso₀, rfl⟩ := get?_modify_eq_some.mp hso'
    by_cases hi : i = soId
    · rw [if_pos hi, hi, afterShipment, StatusTold]
      cases hfull : { s with lines := s.lines.mapRows f }.isFullyShipped soId with
      | true => exact hshipped hfull
      | false => trivial
    · rw [if_neg hi]
      refine (h.status i so₀ hso₀).congr hlines (fun r hr => (hf r hr).order) fun r hr => ?_
      obtain ⟨hget, hof⟩ := mem_linesOf.mp hr
      have hmem := List.mem_of_mem_filter hr
      have hother : f r = r.row := (hf r hmem).others (by rw [hof]; exact hi)
      rw [hother, (h.lines r.id r.row hget).2.1.stored_eq]
      exact ⟨rfl, rfl⟩

/-! ### Invoices -/

theorem pos_of_mem_chosenLines
    (hpos : ∀ q ∈ lineQuantities, 0 < q.quantity) {line : Stored SalesOrderLine × ℚ}
    (h : line ∈ chosenLines s soId lineQuantities) : 0 < line.2 := by
  rw [chosenLines] at h
  split_ifs at h with hall
  · obtain ⟨r, hr, rfl⟩ := List.mem_map.mp h
    have hopen := List.of_mem_filter hr
    exact of_decide_eq_true hopen
  · obtain ⟨requested, hmem, hline⟩ := List.mem_filterMap.mp h
    obtain ⟨l, -, rfl⟩ := Option.map_eq_some_iff.mp hline
    exact hpos requested hmem

def taken (s : SalesStore) (soId : UUID) (lineQuantities : List LineQuantity) (lineId : UUID) : ℚ :=
  total Prod.snd Prod.fst lineId (quantitiesOf (chosenLines s soId lineQuantities))

theorem taken_nonneg (hpos : ∀ q ∈ lineQuantities, 0 < q.quantity) (i : UUID) :
    0 ≤ taken s soId lineQuantities i := by
  rw [taken, total]
  refine List.sum_nonneg fun q hq => ?_
  obtain ⟨change, hchange, rfl⟩ := List.mem_map.mp hq
  obtain ⟨line, hline, rfl⟩ := List.mem_map.mp (List.mem_of_mem_filter hchange)
  exact (pos_of_mem_chosenLines hpos hline).le

theorem taken_of_ne {r : Stored SalesOrderLine} (hr : r ∈ s.lines.rows) (hne : r.row.soId ≠ soId) :
    taken s soId lineQuantities r.id = 0 := by
  refine total_eq_zero fun change hchange hid => hne ?_
  obtain ⟨line, hline, rfl⟩ := List.mem_map.mp hchange
  obtain ⟨hget, horder⟩ := mem_chosenLines hline
  have hrow : line.1.row = r.row := by
    rw [show line.1.id = r.id from hid, get?_of_mem hr] at hget
    exact (Option.some.inj hget).symm
  rwa [hrow] at horder

/-- **What an invoice leaves of a line**: no more is invoiced than was shipped. -/
theorem sound_invoiceLine {l : SalesOrderLine} {quantity : ℚ} (hl : l.Sound) (h0 : 0 ≤ quantity)
    (hfits : halfUp 4 quantity ≤ available l) : (invoiceLine quantity l).stored.Sound := by
  obtain ⟨hordered, hscaled, hbounded⟩ := hl
  have hstored : halfUp 4 (l.quantityInvoiced + quantity) =
      l.quantityInvoiced + halfUp 4 quantity := by
    rw [halfUp_add_of_atScale hscaled.invoiced (add_nonneg hbounded.invoiced h0),
      if_neg fun htie => absurd htie.1 h0.not_gt, add_zero]
  have hshipped : halfUp 4 l.quantityShipped = l.quantityShipped :=
    halfUp_of_atScale hscaled.shipped
  refine ⟨hordered, ⟨hscaled.ordered, atScale_halfUp 4 _, atScale_halfUp 4 _⟩, ?_, ?_, ?_⟩
  · exact halfUp_nonneg (add_nonneg hbounded.invoiced h0)
  · change halfUp 4 (l.quantityInvoiced + quantity) ≤ halfUp 4 l.quantityShipped
    rw [hstored, hshipped]
    exact le_sub_iff_add_le'.mp hfits
  · exact hshipped.le.trans hbounded.ordered

theorem invoiced_insert {invoice : SalesInvoice} {i : UUID} (hof : invoice.soId = soId)
    (hinvoices : s'.invoices = s.invoices.insert invoice) :
    s'.invoiced i = s.invoiced i + if soId = i then invoice.totalAmount else 0 := by
  rw [SalesStore.invoiced, hinvoices, select_insert, List.map_append, List.sum_append,
    SalesStore.invoiced, hof]
  by_cases hi : soId = i <;> simp [hi]

theorem halfUp_add_total {amount totalAmount : ℚ} (hamount : AtScale 4 amount)
    (hfits : halfUp 4 (halfUp 6 totalAmount) = halfUp 6 totalAmount) :
    halfUp 4 (amount + totalAmount) = amount + halfUp 6 totalAmount := by
  have hscale : AtScale 4 (halfUp 6 totalAmount) := by
    rw [← hfits]
    exact atScale_halfUp 4 _
  refine halfUp_eq_of_abs_sub_lt (hamount.add hscale) ?_
  have hclose := abs_halfUp_sub_le 6 totalAmount
  rw [abs_sub_comm] at hclose
  rw [add_sub_add_left_eq_sub]
  exact hclose.trans_lt (by norm_num)

theorem SalesSound.createInvoiceFromSo (h : SalesSound s) {org : Option UUID} {k : UUID}
    (hpos : ∀ q ∈ lineQuantities, 0 < q.quantity) (hfits : InvoiceFits s soId lineQuantities)
    (hrun : createInvoiceFromSo accepts soId lineQuantities org s = .ok k s') :
    SalesSound s' := by
  obtain ⟨so, complete, hso, hstatus, hlines, horders, hinvoices⟩ := createInvoiceFromSo_eq_ok hrun
  obtain ⟨htogether, htotal⟩ := hfits
  have hsound : ∀ r ∈ s.lines.rows,
      (invoiceLine (taken s soId lineQuantities r.id) r.row).stored.Sound := by
    intro r hr
    have hl := h.lines r.id r.row (get?_of_mem hr)
    refine sound_invoiceLine hl (taken_nonneg hpos r.id) ?_
    by_cases hof : r.row.soId = soId
    · exact htogether r (mem_linesOf.mpr ⟨get?_of_mem hr, hof⟩)
    · rw [taken_of_ne hr hof, halfUp_zero]
      exact sub_nonneg.mpr hl.2.2.shipped
  have htold : ∀ i so₀, s.orders.get? i = some so₀ → StatusTold s' i so₀ := by
    intro i so₀ hso₀
    refine (h.status i so₀ hso₀).congr hlines (fun _ _ => rfl) fun r hr => ⟨?_, rfl⟩
    exact halfUp_of_atScale (h.lines r.id r.row (mem_linesOf.mp hr).1).2.1.shipped
  refine ⟨?_, ?_, fun i so' hso' => ?_, fun i so' hso' => ?_⟩
  · intro i l hl
    rw [hlines, get?_mapRows] at hl
    obtain ⟨l₀, hl₀, rfl⟩ := Option.map_eq_some_iff.mp hl
    exact hsound ⟨i, l₀⟩ (get?_eq_some.mp hl₀)
  · rw [horders]
    exact h.confirmed.modify fun so₀ hso₀ => ⟨(h.confirmed soId so₀ hso₀).1, atScale_halfUp 4 _⟩
  · have hadded := invoiced_insert (i := i) (show _ = soId from rfl) hinvoices
    rw [hadded]
    rw [horders] at hso'
    obtain ⟨so₀, hso₀, rfl⟩ := get?_modify_eq_some.mp hso'
    have hinvoiced := h.invoiced i so₀ hso₀
    by_cases hi : i = soId
    · subst hi
      obtain rfl := Option.mem_unique hso hso₀
      rw [if_pos rfl, if_pos rfl, ← hinvoiced]
      exact halfUp_add_total (h.confirmed i so hso).2 (htotal so hso)
    · rw [if_neg hi, if_neg (Ne.symm hi), add_zero]
      exact hinvoiced
  · rw [horders] at hso'
    obtain ⟨so₀, hso₀, rfl⟩ := get?_modify_eq_some.mp hso'
    have htold₀ := htold i so₀ hso₀
    by_cases hi : i = soId
    · subst hi
      obtain rfl := Option.mem_unique hso hso₀
      rw [if_pos rfl, afterInvoice, StatusTold]
      rw [StatusTold] at htold₀
      cases complete with
      | true => trivial
      | false =>
        -- the order keeps a status in which it was invoiced
        rcases hstatus with hprogress | hshipped | hcompleted
        · simp only [hprogress, Bool.false_eq_true, if_false]
        · simp only [hshipped, Bool.false_eq_true, if_false] at htold₀ ⊢
          exact htold₀
        · simp only [hcompleted, Bool.false_eq_true, if_false]
    · rw [if_neg hi]
      exact htold₀

/-! ### Holding and cancelling -/

variable {organization : UUID} {u : PUnit}

theorem SalesSound.cancel (h : SalesSound s) {reason : Option String} (hrun :
    cancel soId organization reason s = .ok u s') : SalesSound s' := by
  have hs' := cancel_eq_ok hrun
  have hlines : s'.lines = s.lines.mapRows fun r =>
      if decide (r.row.soId = soId) then { r.row with fulfillmentStatus := .cancelled }
      else r.row := by
    rw [hs']
    rfl
  have hsame : ∀ i, s'.invoiced i = s.invoiced i := fun i => by rw [hs']; rfl
  refine ⟨?_, ?_, fun i so' hso' => ?_, fun i so' hso' => ?_⟩
  · intro i l hl
    rw [hlines, get?_mapRows] at hl
    obtain ⟨l₀, hl₀, rfl⟩ := Option.map_eq_some_iff.mp hl
    obtain ⟨hordered, hscaled, hbounded⟩ := h.lines i l₀ hl₀
    split_ifs
    · exact ⟨hordered, ⟨hscaled.ordered, hscaled.shipped, hscaled.invoiced⟩,
        ⟨hbounded.invoiced, hbounded.shipped, hbounded.ordered⟩⟩
    · exact ⟨hordered, hscaled, hbounded⟩
  · rw [hs']
    exact h.confirmed.modify fun so₀ hso₀ => h.confirmed soId so₀ hso₀
  · rw [hsame i]
    rw [hs'] at hso'
    obtain ⟨so₀, hso₀, rfl⟩ := get?_modify_eq_some.mp hso'
    have hinvoiced := h.invoiced i so₀ hso₀
    split_ifs
    · exact hinvoiced
    · exact hinvoiced
  · rw [hs'] at hso'
    obtain ⟨so₀, hso₀, rfl⟩ := get?_modify_eq_some.mp hso'
    split_ifs with hi
    · trivial
    · refine (h.status i so₀ hso₀).congr hlines (fun r _ => ?_) fun r _ => ?_
      · split_ifs
        · rfl
        · rfl
      · split_ifs
        · exact ⟨rfl, rfl⟩
        · exact ⟨rfl, rfl⟩

theorem SalesSound.modifyStatus (h : SalesSound s) {f : SalesOrder → SalesOrder}
    (hkept : ∀ so, (f so).confirmedAt = so.confirmedAt ∧ (f so).invoicedAmount = so.invoicedAmount)
    (htold : ∀ so, s.orders.get? soId = some so → StatusTold s soId (f so)) :
    SalesSound { s with orders := s.orders.modify soId f } := by
  refine ⟨h.lines, ?_, fun i so' hso' => ?_, fun i so' hso' => ?_⟩
  · refine h.confirmed.modify fun so₀ hso₀ => ?_
    rw [(hkept so₀).1, (hkept so₀).2]
    exact h.confirmed soId so₀ hso₀
  · obtain ⟨so₀, hso₀, rfl⟩ := get?_modify_eq_some.mp hso'
    have hinvoiced := h.invoiced i so₀ hso₀
    split_ifs
    · exact (hkept so₀).2.trans hinvoiced
    · exact hinvoiced
  · obtain ⟨so₀, hso₀, rfl⟩ := get?_modify_eq_some.mp hso'
    split_ifs with hi
    · subst hi
      exact (htold so₀ hso₀).of_lines_eq rfl
    · exact (h.status i so₀ hso₀).of_lines_eq rfl

/-- **What a hold keeps**: an order whose quantities tell its status is released to it. -/
theorem releasedStatus_eq (h : SalesSound s) (hfits : HoldFits s soId)
    (hso : s.orders.get? soId = some so) (hcompleted : so.status ≠ .completed)
    (hcancelled : so.status ≠ .cancelled) : releasedStatus s soId so = so.status := by
  obtain ⟨hheld, hlines, hpartial⟩ := hfits so hso
  have htold := h.status soId so hso
  rw [StatusTold] at htold
  rw [releasedStatus]
  cases hstatus : so.status with
  | confirmed =>
    rw [hstatus] at htold
    have hunshipped : ∀ r ∈ s.linesOf soId, r.row.quantityShipped = 0 := htold
    obtain ⟨r, hr⟩ := List.exists_mem_of_ne_nil _ (hlines hstatus)
    have hfully : ¬ s.isFullyShipped soId = true := by
      intro hall
      have hle := of_decide_eq_true (List.all_eq_true.mp hall r hr)
      rw [hunshipped r hr] at hle
      exact absurd hle (h.lines r.id r.row (mem_linesOf.mp hr).1).1.not_ge
    have hnone : ¬ ((s.linesOf soId).any fun r => decide (0 < r.row.quantityShipped)) = true := by
      intro hany
      obtain ⟨r', hr', hpos⟩ := List.any_eq_true.mp hany
      rw [hunshipped r' hr'] at hpos
      exact absurd hpos (by decide)
    rw [if_neg hfully, if_neg hnone, if_pos (h.confirmed soId so hso).1]
  | shipped =>
    rw [hstatus] at htold
    exact if_pos htold
  | inProgress =>
    obtain ⟨hnot, r, hr, hpos⟩ := hpartial hstatus
    have hany : ((s.linesOf soId).any fun r => decide (0 < r.row.quantityShipped)) = true :=
      List.any_eq_true.mpr ⟨r, hr, decide_eq_true hpos⟩
    rw [hnot, if_neg Bool.false_ne_true, if_pos hany]
  | onHold => exact absurd hstatus hheld
  | completed => exact absurd hstatus hcompleted
  | cancelled => exact absurd hstatus hcancelled
  | draft =>
    rw [hstatus] at htold
    exact htold.elim
  | submitted =>
    rw [hstatus] at htold
    exact htold.elim
  | approved =>
    rw [hstatus] at htold
    exact htold.elim

theorem SalesSound.hold (h : SalesSound s) (hfits : HoldFits s soId) (hrun :
    hold soId organization s = .ok u s') : SalesSound s' := by
  obtain ⟨so, hso, hcompleted, hcancelled, rfl⟩ := hold_eq_ok hrun
  refine h.modifyStatus (fun _ => ⟨rfl, rfl⟩) fun so₀ hso₀ => ?_
  obtain rfl := Option.mem_unique hso hso₀
  exact congrArg some (releasedStatus_eq h hfits hso hcompleted hcancelled).symm

theorem SalesSound.releaseHold (h : SalesSound s)
    (hrun : releaseHold soId organization s = .ok u s') : SalesSound s' := by
  obtain ⟨so, hso, -, rfl⟩ := releaseHold_eq_ok hrun
  refine h.modifyStatus (fun _ => ⟨rfl, rfl⟩) fun so₀ hso₀ => ?_
  have hconfirmed := (h.confirmed soId so₀ hso₀).1
  rw [StatusTold]
  by_cases hfully : s.isFullyShipped soId = true
  · have hstatus : releasedStatus s soId so₀ = .shipped := if_pos hfully
    simp only [hstatus]
    exact hfully
  · by_cases hany : ((s.linesOf soId).any fun r => decide (0 < r.row.quantityShipped)) = true
    · have hstatus : releasedStatus s soId so₀ = .inProgress := by
        rw [releasedStatus, if_neg hfully, if_pos hany]
      simp only [hstatus]
    · have hstatus : releasedStatus s soId so₀ = .confirmed := by
        rw [releasedStatus, if_neg hfully, if_neg hany, if_pos hconfirmed]
      simp only [hstatus]
      intro r hr
      have hl := (h.lines r.id r.row (mem_linesOf.mp hr).1).2.2
      have hle : ¬ 0 < r.row.quantityShipped := fun hpos =>
        hany (List.any_eq_true.mpr ⟨r, hr, decide_eq_true hpos⟩)
      exact le_antisymm (not_lt.mp hle) (hl.invoiced.trans hl.shipped)

/-! ### Runs -/

theorem Confirmed.salesSound (h : Confirmed s) : SalesSound s := by
  refine ⟨h.lines.imp fun l hl => ?_, h.orders.imp fun so hso => ?_, fun i so hso => ?_,
    fun i so hso => ?_⟩
  · obtain ⟨hordered, hscale, hshipped, hinvoiced⟩ := hl
    refine ⟨hordered, ⟨hscale, ?_, ?_⟩, ⟨hinvoiced.ge, ?_, ?_⟩⟩
    · rw [hshipped]
      exact atScale_zero 4
    · rw [hinvoiced]
      exact atScale_zero 4
    · rw [hinvoiced, hshipped]
    · rw [hshipped]
      exact hordered.le
  · refine ⟨hso.2.1, ?_⟩
    rw [hso.2.2]
    exact atScale_zero 4
  · rw [(h.orders i so hso).2.2, SalesStore.invoiced, h.invoices]
    rfl
  · rw [StatusTold, (h.orders i so hso).1]
    exact fun r hr => (h.lines r.id r.row (mem_linesOf.mp hr).1).2.2.1

/-- **One operation** that meets its condition keeps orders sound. -/
theorem salesSound_after (h : SalesSound s) {op : SalesOperation} (hscope : op.InScope)
    (hfits : op.Fits accepts s) : SalesSound (op.after accepts s) := by
  refine commit_induction (P := SalesSound) h fun u s' hrun => ?_
  have hcondition := hfits (returns_iff.mpr ⟨u, s', hrun⟩)
  cases op with
  | ship soId lineQuantities org =>
    obtain ⟨k, hship, -⟩ := map_eq_ok.mp hrun
    exact h.createShipment hscope hship
  | invoice soId lineQuantities org =>
    obtain ⟨k, hinvoice, -⟩ := map_eq_ok.mp hrun
    exact h.createInvoiceFromSo hscope hcondition hinvoice
  | hold soId org => exact h.hold hcondition hrun
  | release soId org => exact h.releaseHold hrun
  | cancel soId org reason => exact h.cancel hrun

/-- **Sales orders are sound**: in runs whose calls meet their conditions, a line is invoiced within
what is shipped and shipped within what was ordered, an order's invoiced amount is that of its
invoices, and an order on hold is released to the status it was held from. -/
theorem sales_orders_sound
    (h : (salesSystem accepts).ReachableWithin (fun s op => op.InScope ∧ op.Fits accepts s) s) :
    (s.lines.All fun l => 0 ≤ l.quantityInvoiced ∧ l.quantityInvoiced ≤ l.quantityShipped ∧
      l.quantityShipped ≤ l.quantityOrdered) ∧
    ∀ k so, s.orders.get? k = some so → so.invoicedAmount = s.invoiced k ∧
      (so.status = .onHold → ∀ s', releaseHold k so.organizationId s = .ok ⟨⟩ s' →
        (s'.orders.get? k).map SalesOrder.status = so.heldFrom) := by
  have hsound : SalesSound s := by
    refine h.invariant (P := SalesSound) (fun s hs => hs.salesSound) ?_
    rintro s op s' hs ⟨hscope, hfits⟩ rfl
    exact salesSound_after hs hscope hfits
  refine ⟨fun k l hl => ?_, fun k so hso => ⟨hsound.invoiced k so hso, fun hheld s' hrun => ?_⟩⟩
  · obtain ⟨-, -, hbounded⟩ := hsound.lines k l hl
    exact ⟨hbounded.invoiced, hbounded.shipped, hbounded.ordered⟩
  · obtain ⟨so', hso', -, rfl⟩ := releaseHold_eq_ok hrun
    obtain rfl := Option.mem_unique hso hso'
    have htold := hsound.status k so hso
    rw [StatusTold, hheld] at htold
    rw [get?_modify_self, hso]
    exact htold.symm

/-! ### Two runs -/

def confirmedOrder : SalesStore where
  orders := Table.empty.insert {
    organizationId := 1, customerId := 2, status := .confirmed, approvedAt := true,
    confirmedAt := true }
  lines := (Table.empty.insert {
    soId := 0, lineNumber := 1, quantityOrdered := 10, unitPrice := 3, discountAmount := 1,
    taxAmount := 2 }).insert {
      soId := 0, lineNumber := 2, quantityOrdered := 2, unitPrice := 7 }
  shipments := Table.empty
  shipmentLines := Table.empty
  invoices := Table.empty

theorem confirmed_confirmedOrder : Confirmed confirmedOrder := by
  refine ⟨?_, ?_, rfl⟩
  · exact Table.all_empty.insert ⟨rfl, rfl, rfl⟩
  · refine (Table.all_empty.insert ?_).insert ?_
    · exact ⟨by decide, ⟨100000, by norm_num⟩, rfl, rfl⟩
    · exact ⟨by decide, ⟨20000, by norm_num⟩, rfl, rfl⟩

instance (s : SalesStore) (soId : UUID) (lineQuantities : List LineQuantity) :
    Decidable (InvoiceFits s soId lineQuantities) :=
  inferInstanceAs (Decidable ((∀ r ∈ s.linesOf soId, _ ≤ _) ∧
    ∀ so ∈ s.orders.get? soId, _ = _))

instance (s : SalesStore) (soId : UUID) : Decidable (HoldFits s soId) :=
  inferInstanceAs (Decidable (∀ so ∈ s.orders.get? soId, _ ≠ _ ∧ (_ → s.linesOf soId ≠ []) ∧
    (_ → s.isFullyShipped soId = false ∧ ∃ r ∈ s.linesOf soId, 0 < r.row.quantityShipped)))

instance (s : SalesStore) (op : SalesOperation) : Decidable (op.Fits accepts s) := by
  cases op with
  | invoice soId lineQuantities org =>
    exact inferInstanceAs (Decidable (_ = _ → InvoiceFits s soId lineQuantities))
  | hold soId org => exact inferInstanceAs (Decidable (_ = _ → HoldFits s soId))
  | ship | release | cancel => exact isTrue fun _ => trivial

instance (op : SalesOperation) : Decidable op.InScope := by
  cases op with
  | ship soId lineQuantities org =>
    exact inferInstanceAs (Decidable (∀ q ∈ lineQuantities, 0 < q.quantity))
  | invoice soId lineQuantities org =>
    exact inferInstanceAs (Decidable (∀ q ∈ lineQuantities, 0 < q.quantity))
  | hold | release | cancel => exact isTrue trivial

/-- Some of a line is shipped in two requests and invoiced, some is invoiced by line, and the order
is held, released, shipped from and held again. -/
def partlyShipped : List SalesOperation :=
  [.ship 0 [⟨0, 3, none, none⟩, ⟨0, 2, none, none⟩, ⟨1, 1, none, none⟩] (some 1),
    .invoice 0 [⟨0, 1, none, none⟩, ⟨0, 2, none, none⟩] (some 1), .invoice 0 [] none,
    .cancel 0 1 none, .hold 0 1, .release 0 1, .ship 0 [⟨0, 4, none, none⟩] (some 1), .hold 0 1]

theorem sales_orders_sound_sample :
    let s := System.after (SalesOperation.after fun _ => true) confirmedOrder partlyShipped
    (s.orders.get? 0).map (fun so => (so.status, so.invoicedAmount)) = some (.onHold, 45 / 2) ∧
      s.invoiced 0 = 45 / 2 ∧ (s.lines.All fun l => l.quantityShipped ≤ l.quantityOrdered) ∧
      ((commit (releaseHold 0 1) s).orders.get? 0).map SalesOrder.status = some .inProgress := by
  have hrun : (salesSystem fun _ => true).ReachableWithin
      (fun s op => op.InScope ∧ op.Fits (fun _ => true) s)
      (System.after (SalesOperation.after fun _ => true) confirmedOrder partlyShipped) :=
    System.reachableWithin_after confirmed_confirmedOrder (by decide +kernel)
  have horder : ((System.after (SalesOperation.after fun _ => true) confirmedOrder
      partlyShipped).orders.get? 0).map (fun so =>
        (so.organizationId, so.status, so.invoicedAmount, so.heldFrom)) =
      some (1, .onHold, 45 / 2, some .inProgress) := by
    decide +kernel
  obtain ⟨so, hso, hfields⟩ := Option.map_eq_some_iff.mp horder
  simp only [Prod.mk.injEq] at hfields
  obtain ⟨horg, hstatus, hamount, hheld⟩ := hfields
  obtain ⟨hlines, horders⟩ := sales_orders_sound hrun
  obtain ⟨hinvoiced, hreleased⟩ := horders 0 so hso
  refine ⟨by rw [hso, Option.map_some, hstatus, hamount], hinvoiced.symm.trans hamount,
    fun k l hl => (hlines k l hl).2.2, ?_⟩
  have hreturns : returns (releaseHold 0 1) (System.after (SalesOperation.after fun _ => true)
      confirmedOrder partlyShipped) = true := by
    decide +kernel
  obtain ⟨u, s', hrelease⟩ := returns_iff.mp hreturns
  rw [commit_of_ok hrelease, ← hheld]
  exact hreleased hstatus s' (horg ▸ hrelease)

def emptyShipment : List SalesOperation := [.ship 0 [] (some 1), .hold 0 1]

/-- **Nothing shipped is progress until it is held**: the order was in progress, and is released to
confirmed. -/
theorem empty_shipment_forgets_progress :
    ¬ ∃ accepts : SalesInvoice → Bool, ∀ s : SalesStore,
      (salesSystem accepts).ReachableWithin (fun _ op => op.InScope) s →
        (s.lines.All fun l => 0 ≤ l.quantityInvoiced ∧ l.quantityInvoiced ≤ l.quantityShipped ∧
          l.quantityShipped ≤ l.quantityOrdered) ∧
        ∀ k so, s.orders.get? k = some so → so.invoicedAmount = s.invoiced k ∧
          (so.status = .onHold → ∀ s', releaseHold k so.organizationId s = .ok ⟨⟩ s' →
            (s'.orders.get? k).map SalesOrder.status = so.heldFrom) := by
  rintro ⟨accepts, h⟩
  have hallowed : System.AllowedAlong (fun _ op => op.InScope) (SalesOperation.after accepts)
      confirmedOrder emptyShipment := ⟨by decide, trivial, trivial⟩
  -- no invoice is made, so it does not matter which are accepted
  have hany : ∀ s, ∀ op ∈ emptyShipment,
      SalesOperation.after accepts s op = SalesOperation.after (fun _ => true) s op := by
    intro s op hop
    rcases List.mem_pair.mp hop with rfl | rfl
    · rfl
    · rfl
  have hrun := System.reachableWithin_after confirmed_confirmedOrder hallowed
  rw [System.after, List.foldl_ext _ _ _ hany] at hrun
  have horder : ((System.after (SalesOperation.after fun _ => true) confirmedOrder
      emptyShipment).orders.get? 0).map (fun so =>
        (so.organizationId, so.status, so.heldFrom)) = some (1, .onHold, some .inProgress) := by
    decide +kernel
  obtain ⟨so, hso, hfields⟩ := Option.map_eq_some_iff.mp horder
  simp only [Prod.mk.injEq] at hfields
  obtain ⟨horg, hstatus, hheld⟩ := hfields
  have hreturns : returns (releaseHold 0 1) (System.after (SalesOperation.after fun _ => true)
      confirmedOrder emptyShipment) = true := by
    decide +kernel
  obtain ⟨u, s', hrelease⟩ := returns_iff.mp hreturns
  have hreleased := ((h _ hrun).2 0 so hso).2 hstatus s' (horg ▸ hrelease)
  rw [hheld, ← commit_of_ok hrelease] at hreleased
  exact absurd hreleased (by decide +kernel)

end DotmacErp.Sales
