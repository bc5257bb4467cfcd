import DotmacErp.Foundation.Selections
import DotmacErp.Revenue.ContractSteps

/-!
# The revenue of a contract

The prices of the obligations of a contract add up to its value, the events of an obligation add up
to what it has recognised, and a satisfied obligation has recognised its price (`Conserved`). A
recognition keeps all of this (`Conserved.recognizes`), and so does a modification with a catch-up.

The other calls keep it under a condition they do not look at: a contract is created with an
obligation, an obligation is added where the satisfied ones keep their prices
(`NewObligationFits`), and a prospective modification with nothing left to satisfy does not change
the value (`ModificationFits`).
-/

namespace DotmacErp.Revenue

open Apportion Calendar Relational Table Totals ContractService

variable {s s' : ContractStore} {org contractId obligationId : UUID} {u : PUnit}

/-! ### The invariant -/

/-- What of the price is allocated to the obligations. -/
def ContractStore.allocated (s : ContractStore) (contractId org : UUID) : ℚ :=
  ((s.obligationsOf contractId org).map fun r => r.row.allocatedTransactionPrice).sum

/-- A satisfied obligation has recognised its price. -/
def PerformanceObligation.Settled (o : PerformanceObligation) : Prop :=
  o.status = .satisfied →
    o.totalSatisfiedAmount = o.allocatedTransactionPrice ∧ o.satisfactionPercentage = 100

/-- The value of each contract is allocated, and recognised as far as its obligations are
satisfied. -/
structure Conserved (s : ContractStore) : Prop where
  owned : s.obligations.All fun o => o.contractId < s.contracts.next
  issued : ∀ e ∈ s.events, e.obligationId < s.obligations.next
  value : ∀ k c, s.contracts.get? k = some c →
    c.totalContractValue = some (s.allocated k c.organizationId) ∧
      s.allocated k c.organizationId ≠ 0
  recognized : ∀ k o, s.obligations.get? k = some o → s.recognized k = o.totalSatisfiedAmount
  satisfied : s.obligations.All PerformanceObligation.Settled
  completed : ∀ k c, s.contracts.get? k = some c → c.status = .completed →
    ∀ r ∈ s.obligationsOf k c.organizationId, r.row.status = .satisfied

/-! ### Obligations of a contract -/

theorem mem_obligationsOf {r : Stored PerformanceObligation} :
    r ∈ s.obligationsOf contractId org ↔
      s.obligations.get? r.id = some r.row ∧ r.row.IsOf contractId org := by
  rw [ContractStore.obligationsOf, mem_select, decide_eq_true_iff]

section Update

variable {p : PerformanceObligation → Bool} {f : PerformanceObligation → PerformanceObligation}

theorem select_update_of_ne {k : UUID} (hp : ∀ o, p o = true → o.contractId = contractId)
    (hf : ∀ o, (f o).contractId = o.contractId) (hne : k ≠ contractId) :
    (s.obligations.update p f).select (fun o => decide (o.IsOf k org)) =
      s.obligationsOf k org := by
  refine select_update_of_disjoint fun o ho => ?_
  have hother : ∀ o' : PerformanceObligation, o'.contractId = contractId →
      decide (o'.IsOf k org) = false := fun o' ho' =>
    decide_eq_false fun his => hne (his.1.symm.trans ho')
  exact ⟨hother o (hp o ho), hother (f o) ((hf o).trans (hp o ho))⟩

theorem sum_select_update_self (contractId org : UUID)
    (p : PerformanceObligation → Bool) (f : PerformanceObligation → PerformanceObligation) (hf :
      ∀ o, (f o).contractId = o.contractId ∧
    (f o).organizationId = o.organizationId) :
    (((s.obligations.update p f).select fun o =>
      decide (o.IsOf contractId org)).map fun r =>
        r.row.allocatedTransactionPrice).sum =
      ((s.obligationsOf contractId org).map fun r =>
        if p r.row then (f r.row).allocatedTransactionPrice
        else r.row.allocatedTransactionPrice).sum := by
  have hkept : ∀ o, decide ((f o).IsOf contractId org) =
      decide (o.IsOf contractId org) := by
    intro o
    refine decide_eq_decide.mpr ?_
    simp only [PerformanceObligation.IsOf, (hf o).1, (hf o).2]
  rw [select_update hkept, List.map_map]
  refine congrArg List.sum (List.map_congr_left fun r _ => ?_)
  exact apply_ite PerformanceObligation.allocatedTransactionPrice (p r.row = true) _ _

end Update

variable {price : ℚ}

theorem sum_allocate {l : List (Stored PerformanceObligation)} (h : l ≠ []) :
    (l.map fun r => (allocate price l r.row).allocatedTransactionPrice).sum = price := sum_share h

theorem sum_update_allocate {among : List (Stored PerformanceObligation)}
    {change : PerformanceObligation → PerformanceObligation}
    (hamong : among = s.obligationsOf contractId org) (hne : among ≠ [])
    (hchange : ∀ o, (change o).contractId = o.contractId ∧
      (change o).organizationId = o.organizationId ∧
      (change o).allocatedTransactionPrice = (allocate price among o).allocatedTransactionPrice) :
    (((s.obligations.update (fun o => decide (o.IsOf contractId org)) change).select
      fun o => decide (o.IsOf contractId org)).map fun r =>
        r.row.allocatedTransactionPrice).sum = price := by
  rw [sum_select_update_self _ _ _ _ fun o => ⟨(hchange o).1, (hchange o).2.1⟩, ← hamong]
  refine Eq.trans (congrArg List.sum (List.map_congr_left fun r hr => ?_)) (sum_allocate hne)
  rw [hamong] at hr
  rw [if_pos (decide_eq_true (mem_obligationsOf.mp hr).2)]
  exact (hchange r.row).2.2

/-! ### New obligations -/

structure IsNewObligation (contractId organizationId : UUID) (o : PerformanceObligation) :
    Prop where
  contract : o.contractId = contractId
  organization : o.organizationId = organizationId
  status : o.status = .notStarted
  amount : o.totalSatisfiedAmount = 0

theorem mem_newObligations {value : Option ℚ} {inputs : List PerformanceObligationInput}
    {o : PerformanceObligation} (h : o ∈ newObligations contractId org value inputs) :
    IsNewObligation contractId org o := by
  obtain ⟨⟨input, idx⟩, -, rfl⟩ := List.mem_map.mp h
  exact ⟨rfl, rfl, rfl, rfl⟩

/-- **The obligations of a new contract share its value.** -/
theorem sum_newObligations {value : ℚ} (hvalue : value ≠ 0)
    {inputs : List PerformanceObligationInput} (h : inputs ≠ []) :
    ((newObligations contractId org (some value) inputs).map
      PerformanceObligation.allocatedTransactionPrice).sum = value := by
  have hprice : orElse (some value)
      (inputs.map PerformanceObligationInput.standaloneSellingPrice).sum = value := by
    simp [orElse, Option.filter, hvalue]
  have hshares : (newObligations contractId org (some value) inputs).map
      PerformanceObligation.allocatedTransactionPrice = inputs.map fun input =>
        share value (inputs.map PerformanceObligationInput.standaloneSellingPrice).sum
          inputs.length input.standaloneSellingPrice := by
    conv_rhs => rw [← List.zipIdx_map_fst 1 inputs]
    rw [newObligations, List.map_map, List.map_map, List.zipIdx_map_fst]
    refine List.map_congr_left fun input _ => ?_
    change share (orElse (some value) _) _ _ _ = _
    rw [hprice]
    rfl
  rw [hshares]
  exact sum_share h

theorem sum_select_insertAll (l : List PerformanceObligation) (k org : UUID) :
    (((s.obligations.insertAll l).select fun o => decide (o.IsOf k org)).map fun r =>
      r.row.allocatedTransactionPrice).sum = s.allocated k org +
        ((l.filter fun o => decide (o.IsOf k org)).map
          PerformanceObligation.allocatedTransactionPrice).sum := by
  have hrows : ∀ rows : List (Stored PerformanceObligation),
      rows.map (fun r => r.row.allocatedTransactionPrice) =
        (rows.map Stored.row).map PerformanceObligation.allocatedTransactionPrice := by
    intro rows
    rw [List.map_map]
    rfl
  rw [hrows, rows_select_insertAll, List.map_append, List.sum_append, ← hrows]
  rfl

variable {k : UUID}

theorem Conserved.recognized_eq_zero (h : Conserved s) (hk : s.obligations.next ≤ k) :
    s.recognized k = 0 :=
  total_eq_zero fun e he heq => absurd (h.issued e he) (not_lt.mpr (hk.trans heq.ge))

theorem Conserved.obligationsOf_eq_nil (h : Conserved s) {org : UUID}
    (hk : s.contracts.next ≤ k) : s.obligationsOf k org = [] := by
  refine List.filter_eq_nil_iff.mpr fun r hr => ?_
  have hlt := h.owned r.id r.row (get?_of_mem hr)
  simpa using fun his : r.row.IsOf k org => absurd (his.1 ▸ hlt) (not_lt.mpr hk)

/-! ### Steps -/

theorem Conserved.modifyStatus (h : Conserved s) {f : Contract → Contract}
    (horg : ∀ c, (f c).organizationId = c.organizationId)
    (hvalue : ∀ c, (f c).totalContractValue = c.totalContractValue)
    (hcompleted : ∀ c, s.contracts.get? contractId = some c → (f c).status = .completed →
      ∀ r ∈ s.obligationsOf contractId c.organizationId, r.row.status = .satisfied) :
    Conserved { s with contracts := s.contracts.modify contractId f } := by
  refine ⟨h.owned, h.issued, fun k c hc => ?_, h.recognized, h.satisfied, fun k c hc hstatus => ?_⟩
  · obtain ⟨c', hold, rfl⟩ := get?_modify_eq_some.mp hc
    split_ifs with hk
    · rw [hvalue, horg]
      exact h.value k c' hold
    · exact h.value k c' hold
  · obtain ⟨c', hold, rfl⟩ := get?_modify_eq_some.mp hc
    split_ifs at hstatus ⊢ with hk
    · rw [horg]
      exact hk ▸ hcompleted c' (hk ▸ hold) hstatus
    · exact h.completed k c' hold hstatus

/-- **A new contract**, with obligations that share its value. -/
theorem Conserved.createContract (h : Conserved s) {contractNumber : String}
    {input : ContractInput} {value : ℚ} (hvalue : input.totalContractValue = some value)
    (hne : value ≠ 0) (hobligations : input.obligations ≠ [])
    (hcreate : createContract organizationId contractNumber input s = .ok k s') :
    Conserved s' := by
  obtain ⟨c, horg, hstatus, hcvalue, rfl⟩ := createContract_eq_ok hcreate
  -- what is new belongs to the new contract only, and what was there to the others
  have hother : ∀ k org, k ≠ s.contracts.next → ∀ o ∈ newObligations s.contracts.next
      organizationId input.totalContractValue input.obligations,
      decide (o.IsOf k org) = false := fun k org hk o ho =>
    decide_eq_false fun his => hk (his.1.symm.trans (mem_newObligations ho).contract)
  refine ⟨fun k o ho => ?_, fun e he => ?_, fun k c' hc' => ?_, fun k o ho => ?_, fun k o ho => ?_,
    fun k c' hc' hcompleted r hr => ?_⟩
  · rcases get?_insertAll_cases ho with hold | ⟨hnew, -⟩
    · exact Nat.lt_succ_of_lt (h.owned k o hold)
    · rw [(mem_newObligations hnew).contract]
      exact Nat.lt_succ_self _
  · exact (h.issued e he).trans_le (next_le_insertAll _)
  · rw [ContractStore.allocated, ContractStore.obligationsOf, sum_select_insertAll]
    rw [get?_insert] at hc'
    split_ifs at hc' with hk
    · obtain rfl := Option.some.inj hc'
      have hnone : s.allocated k c.organizationId = 0 := by
        rw [ContractStore.allocated, h.obligationsOf_eq_nil hk.ge]
        rfl
      have hall : (newObligations s.contracts.next organizationId input.totalContractValue
          input.obligations).filter (fun o => decide (o.IsOf k c.organizationId)) =
            newObligations s.contracts.next organizationId (some value) input.obligations := by
        rw [hvalue]
        refine List.filter_eq_self.mpr fun o ho => decide_eq_true ?_
        exact ⟨(mem_newObligations ho).contract.trans hk.symm,
          (mem_newObligations ho).organization.trans horg.symm⟩
      rw [hnone, hall, sum_newObligations hne hobligations, zero_add, hcvalue, hvalue]
      exact ⟨rfl, hne⟩
    · have hnew : (newObligations s.contracts.next organizationId input.totalContractValue
          input.obligations).filter (fun o => decide (o.IsOf k c'.organizationId)) = [] :=
        List.filter_eq_nil_iff.mpr fun o ho => by simp [hother k c'.organizationId hk o ho]
      rw [hnew, List.map_nil, List.sum_nil, add_zero]
      exact h.value k c' hc'
  · rcases get?_insertAll_cases ho with hold | ⟨hnew, hle⟩
    · exact h.recognized k o hold
    · rw [(mem_newObligations hnew).amount]
      exact h.recognized_eq_zero hle
  · rcases get?_insertAll_cases ho with hold | ⟨hnew, -⟩
    · exact h.satisfied k o hold
    · intro hsatisfied
      rw [(mem_newObligations hnew).status] at hsatisfied
      exact absurd hsatisfied (by decide)
  · obtain ⟨hget, hof⟩ := mem_obligationsOf.mp hr
    rw [get?_insert] at hc'
    split_ifs at hc' with hk
    · obtain rfl := Option.some.inj hc'
      rw [hstatus] at hcompleted
      exact absurd hcompleted (by decide)
    · rcases get?_insertAll_cases hget with hold | ⟨hnew, -⟩
      · exact h.completed k c' hc' hcompleted r (mem_obligationsOf.mpr ⟨hold, hof⟩)
      · exact absurd (hother k c'.organizationId hk r.row hnew) (by simp [hof])

/-- **A recognition.** -/
theorem Conserved.recognizes (h : Conserved s) {event : RevenueRecognitionEvent}
    {change : PerformanceObligation → PerformanceObligation} {o : PerformanceObligation}
    (hrec : Recognizes s event change o) : Conserved (recognizedIn s event change) := by
  have hkeys : ∀ k org a, decide ((change a).IsOf k org) = decide (a.IsOf k org) := by
    intro k org a
    refine decide_eq_decide.mpr ?_
    simp only [PerformanceObligation.IsOf, hrec.contract, hrec.organization]
  have hallocated : ∀ k org, (recognizedIn s event change).allocated k org = s.allocated k org :=
    fun k org => sum_select_modify (hkeys k org) hrec.price
  refine ⟨h.owned.modify fun a ha => ?_, ?_, fun k c hc => ?_, fun k a ha => ?_,
    h.satisfied.modify fun a ha => ?_, fun k c hc hstatus r hr => ?_⟩
  · rw [hrec.contract]
    exact h.owned _ a ha
  · intro e he
    rcases List.mem_append.mp he with hold | hnew
    · exact h.issued e hold
    · rw [List.mem_singleton.mp hnew]
      exact lt_next (t := s.obligations) hrec.found
  · rw [hallocated]
    exact h.value k c hc
  · obtain ⟨a', ha', rfl⟩ := get?_modify_eq_some.mp ha
    rw [ContractStore.recognized, recognizedIn, total_append]
    split_ifs with hk
    · obtain rfl : a' = o := Option.some.inj (ha'.symm.trans (hk ▸ hrec.found))
      rw [hk, total_cons, if_pos rfl, total_nil, hrec.amount]
      have hbefore := h.recognized event.obligationId a' hrec.found
      rw [ContractStore.recognized] at hbefore
      rw [hbefore]
      ring
    · rw [total_cons, if_neg (Ne.symm hk), total_nil, add_zero, add_zero]
      exact h.recognized k a' ha'
  · obtain rfl : a = o := Option.some.inj (ha.symm.trans hrec.found)
    intro hstatus
    rw [hrec.price]
    exact hrec.satisfied hstatus
  · obtain ⟨hget, hof⟩ := mem_obligationsOf.mp hr
    obtain ⟨a, ha, hrow⟩ := get?_modify_eq_some.mp hget
    split_ifs at hrow with hk
    · -- the obligation was satisfied already
      obtain rfl : a = o := Option.some.inj (ha.symm.trans (hk ▸ hrec.found))
      have hbefore : a.IsOf k c.organizationId := by
        rw [hrow] at hof
        exact of_decide_eq_true ((hkeys k c.organizationId a).symm.trans (decide_eq_true hof))
      exact absurd (h.completed k c hc hstatus ⟨r.id, a⟩ (mem_obligationsOf.mpr ⟨ha, hbefore⟩))
        hrec.unsatisfied
    · rw [hrow] at hof ⊢
      exact h.completed k c hc hstatus ⟨r.id, a⟩ (mem_obligationsOf.mpr ⟨ha, hof⟩)

/-! ### New prices -/

variable {c : Contract}

/-- **New prices** of the obligations of a contract that is not completed: they add up to its value,
and what is recognised of each is accounted for. -/
theorem Conserved.repriced (h : Conserved s) (contractId : UUID) {value : ℚ} (hvalue : value ≠ 0)
    (hstatus : c.status ≠ .completed) (hnext : s'.contracts.next = s.contracts.next)
    (hself : ∀ c', s'.contracts.get? contractId = some c' → c'.totalContractValue = some value ∧
      c'.organizationId = c.organizationId ∧ c'.status = c.status)
    (hothers : ∀ k, k ≠ contractId → s'.contracts.get? k = s.contracts.get? k ∧
      ∀ org, s'.obligationsOf k org = s.obligationsOf k org)
    (hsum : s'.allocated contractId c.organizationId = value)
    (hissued : ∀ e ∈ s'.events, e.obligationId < s'.obligations.next)
    (hrows : ∀ k o, s'.obligations.get? k = some o → o.contractId < s.contracts.next ∧
      s'.recognized k = o.totalSatisfiedAmount ∧ o.Settled) :
    Conserved s' := by
  refine ⟨fun k o ho => hnext ▸ (hrows k o ho).1, hissued, fun k c' hc' => ?_,
    fun k o ho => (hrows k o ho).2.1, fun k o ho => (hrows k o ho).2.2,
    fun k c' hc' hcompleted => ?_⟩
  · by_cases hk : k = contractId
    · obtain ⟨hvalue', horg, -⟩ := hself c' (hk ▸ hc')
      rw [hk, horg, hsum]
      exact ⟨hvalue', hvalue⟩
    · rw [ContractStore.allocated, (hothers k hk).2]
      exact h.value k c' ((hothers k hk).1 ▸ hc')
  · by_cases hk : k = contractId
    · obtain ⟨-, -, hsame⟩ := hself c' (hk ▸ hc')
      exact absurd (hsame.symm.trans hcompleted) hstatus
    · rw [(hothers k hk).2]
      exact h.completed k c' ((hothers k hk).1 ▸ hc') hcompleted

/-- The price of every satisfied obligation is to the value of the contract as its standalone
selling price is to those of all with the new one, or the same for all where these come to nothing.
-/
def NewObligationFits (s : ContractStore) (org contractId : UUID)
    (input : PerformanceObligationInput) : Prop :=
  let obligations := s.obligationsOf contractId org
  let total := (obligations.map fun r => r.row.standaloneSellingPrice).sum +
    input.standaloneSellingPrice
  ∀ c ∈ s.contracts.get? contractId, ∀ r ∈ obligations, r.row.status = .satisfied →
    if total = 0 then
      r.row.allocatedTransactionPrice * (obligations.length + 1) = c.totalContractValue.getD 0
    else r.row.allocatedTransactionPrice * total =
      c.totalContractValue.getD 0 * r.row.standaloneSellingPrice

/-- **A new obligation**, next to satisfied ones that keep their prices. -/
theorem Conserved.addPerformanceObligation (h : Conserved s) {input : PerformanceObligationInput}
    (hfits : NewObligationFits s organizationId contractId input)
    (hadd : addPerformanceObligation organizationId contractId input s = .ok u s') :
    Conserved s' := by
  obtain ⟨c, hc, rfl, hstatus, rfl⟩ := addPerformanceObligation_eq_ok hadd
  obtain ⟨hvalue, hne⟩ := h.value contractId c hc
  set s₁ := withObligation contractId c.organizationId input s with hs₁
  set added : PerformanceObligation := newObligation contractId c.organizationId
    ((s.obligationsOf contractId c.organizationId).length + 1) input.standaloneSellingPrice
    input with hadded
  have hobligations : s₁.obligationsOf contractId c.organizationId =
      s.obligationsOf contractId c.organizationId ++ [⟨s.obligations.next, added⟩] := by
    have hself : decide (added.IsOf contractId c.organizationId) = true :=
      decide_eq_true ⟨rfl, rfl⟩
    rw [ContractStore.obligationsOf, hs₁, withObligation, select_insert, if_pos hself]
    rfl
  have hprice : ∀ other, orElse c.totalContractValue other =
      s.allocated contractId c.organizationId := by
    intro other
    simp [orElse, hvalue, Option.filter, hne]
  refine h.repriced contractId (c := c) hne hstatus rfl (fun c' hc' => ?_)
    (fun k hk => ⟨rfl, fun org => ?_⟩)
    ?_ (fun e he => Nat.lt_succ_of_lt (h.issued e he)) fun k o ho => ?_
  · obtain rfl := Option.mem_unique hc hc'
    exact ⟨hvalue, rfl, rfl⟩
  · have hother : decide (added.IsOf k org) = false := decide_eq_false fun his => hk his.1.symm
    have hbefore : s₁.obligationsOf k org = s.obligationsOf k org := by
      rw [ContractStore.obligationsOf, hs₁, withObligation, select_insert, hother]
      exact List.append_nil _
    rw [← hbefore]
    exact select_update_of_ne (s := s₁) (fun o ho => (of_decide_eq_true ho).1) (fun o => rfl) hk
  · have hnil : s₁.obligationsOf contractId c.organizationId ≠ [] := by simp [hobligations]
    rw [reallocated, hprice]
    exact sum_update_allocate rfl hnil fun o => ⟨rfl, rfl, rfl⟩
  · obtain ⟨o₁, ho₁, rfl⟩ := get?_update_eq_some.mp ho
    rw [hs₁, withObligation, get?_insert] at ho₁
    have hrow : o₁.contractId < s.contracts.next ∧ s.recognized k = o₁.totalSatisfiedAmount ∧
        (o₁.status = .satisfied → s.obligations.get? k = some o₁) := by
      split_ifs at ho₁ with hk
      · obtain rfl := Option.some.inj ho₁
        exact ⟨lt_next hc, h.recognized_eq_zero hk.ge, fun hnew =>
          ObligationStatus.noConfusion hnew⟩
      · exact ⟨h.owned k o₁ ho₁, h.recognized k o₁ ho₁, fun _ => ho₁⟩
    split_ifs with hp
    · refine ⟨hrow.1, hrow.2.1, fun hsatisfied => ?_⟩
      have hold := hrow.2.2 hsatisfied
      have hkept :=
        hfits c hc ⟨k, o₁⟩ (mem_obligationsOf.mpr ⟨hold, of_decide_eq_true hp⟩) hsatisfied
      obtain ⟨htotal, hprogress⟩ := h.satisfied k o₁ hold hsatisfied
      rw [← share_eq_iff] at hkept
      refine ⟨htotal.trans (hkept.symm.trans ?_), hprogress⟩
      rw [allocate, hprice, hobligations, hvalue, Option.getD_some]
      simp only [List.map_append, List.sum_append, List.length_append, List.map_cons, List.map_nil,
        List.sum_cons, List.sum_nil, add_zero, List.length_singleton]
      rfl
    · exact ⟨hrow.1, hrow.2.1, fun hsatisfied => h.satisfied k o₁ (hrow.2.2 hsatisfied) hsatisfied⟩

theorem Conserved.obligationsOf_ne_nil (h : Conserved s)
    (hc : s.contracts.get? contractId = some c) :
    s.obligationsOf contractId c.organizationId ≠ [] := by
  intro hnil
  refine (h.value contractId c hc).2 ?_
  rw [ContractStore.allocated, hnil]
  rfl

theorem get?_withValue {c' : Contract} (hc : s.contracts.get? contractId = some c)
    (hc' : (withValue contractId price s).contracts.get? contractId = some c') :
    c'.totalContractValue = some price ∧ c'.organizationId = c.organizationId ∧
      c'.status = c.status := by
  rw [withValue, get?_modify_self, hc] at hc'
  obtain rfl := Option.some.inj hc'
  exact ⟨rfl, rfl, rfl⟩

/-- A prospective modification with nothing left to satisfy keeps the value. -/
def ModificationFits (s : ContractStore) (org contractId : UUID)
    (newTransactionPrice : Option ℚ) (modificationType : ModificationType) : Prop :=
  modificationType = .prospective →
    (∀ r ∈ s.obligationsOf contractId org, r.row.status = .satisfied) →
      ∀ price ∈ newTransactionPrice.filter (· ≠ 0), ∀ c ∈ s.contracts.get? contractId,
        c.totalContractValue = some price

/-- What a prospective modification allocates adds up to the value, when there is something left to
satisfy or nothing to change. -/
theorem sum_reallocateProspectively
    (hall : (∀ r ∈ s.obligationsOf contractId org, r.row.status = .satisfied) →
      some (s.allocated contractId org) = some price) :
    let obligations := s.obligationsOf contractId org
    let unsatisfied := obligations.filter fun r => decide (r.row.status ≠ .satisfied)
    let satisfied := obligations.filter fun r => decide (r.row.status = .satisfied)
    (((s.obligations.update
      (fun o => decide (o.IsOf contractId org ∧ o.status ≠ .satisfied))
      (allocate (price - (satisfied.map fun r => r.row.allocatedTransactionPrice).sum)
        unsatisfied)).select fun o => decide (o.IsOf contractId org)).map fun r =>
          r.row.allocatedTransactionPrice).sum = price := by
  intro obligations unsatisfied satisfied
  set remaining := price - (satisfied.map fun r => r.row.allocatedTransactionPrice).sum
    with hremaining
  have hsum := sum_select_update_self (s := s) contractId org
    (fun o => decide (o.IsOf contractId org ∧ o.status ≠ .satisfied))
    (allocate remaining unsatisfied) fun o => ⟨rfl, rfl⟩
  rw [hsum, ← sum_filter_add_sum_filter_not _ fun r => decide (r.row.status = .satisfied)]
  have hkept : ∀ r ∈ satisfied,
      (if decide (r.row.IsOf contractId org ∧ r.row.status ≠ .satisfied) = true
        then (allocate remaining unsatisfied r.row).allocatedTransactionPrice
        else r.row.allocatedTransactionPrice) = r.row.allocatedTransactionPrice := by
    intro r hr
    have hstatus := of_decide_eq_true (List.mem_filter.mp hr).2
    rw [if_neg (by simp [hstatus])]
  have hchanged : ∀ r ∈ unsatisfied,
      (if decide (r.row.IsOf contractId org ∧ r.row.status ≠ .satisfied) = true
        then (allocate remaining unsatisfied r.row).allocatedTransactionPrice
        else r.row.allocatedTransactionPrice) =
          (allocate remaining unsatisfied r.row).allocatedTransactionPrice := by
    intro r hr
    obtain ⟨hmem, hstatus⟩ := List.mem_filter.mp hr
    rw [if_pos (decide_eq_true ⟨(mem_obligationsOf.mp hmem).2, of_decide_eq_true hstatus⟩)]
  have hothers : (obligations.filter fun r => !decide (r.row.status = .satisfied)) = unsatisfied :=
    List.filter_congr fun r _ => (decide_not).symm
  rw [hothers, List.map_congr_left hkept, List.map_congr_left hchanged]
  by_cases hnil : unsatisfied = []
  · -- nothing is left to satisfy, and the value is what it was
    have hsame : s.allocated contractId org = price := by
      refine Option.some.inj (hall fun r hr => ?_)
      have hmem := List.filter_eq_nil_iff.mp hnil r hr
      simpa using hmem
    have hsplit := sum_filter_add_sum_filter_not obligations
      (fun r => decide (r.row.status = .satisfied)) fun r => r.row.allocatedTransactionPrice
    rw [hothers, hnil] at hsplit
    rw [hnil, ← hsame]
    exact hsplit
  · rw [sum_allocate hnil, hremaining, add_sub_cancel]

/-- **A prospective modification**: the unsatisfied obligations share what the satisfied ones leave
of the value. -/
theorem Conserved.reallocateProspectively (h : Conserved s)
    (hc : s.contracts.get? contractId = some c) (hstatus : c.status ≠ .completed)
    (hprice : price ≠ 0)
    (hfits : (∀ r ∈ s.obligationsOf contractId c.organizationId, r.row.status = .satisfied) →
      c.totalContractValue = some price) :
    Conserved (reallocateProspectively contractId { c with totalContractValue := some price }
      (withValue contractId price s)) := by
  set obligations := s.obligationsOf contractId c.organizationId with hobligations
  refine h.repriced contractId hprice hstatus rfl (fun c' hc' => get?_withValue hc hc')
    (fun k hk => ⟨get?_modify_of_ne hk _, fun org => select_update_of_ne
      (fun o ho => (of_decide_eq_true ho).1.1) (fun o => rfl) hk⟩) ?_
    (fun e he => h.issued e he) fun k o ho => ?_
  · rw [ContractStore.allocated, ContractStore.obligationsOf,
      ContractService.reallocateProspectively]
    exact sum_reallocateProspectively fun hall =>
      (h.value contractId c hc).1.symm.trans (hfits hall)
  · obtain ⟨o₁, ho₁, rfl⟩ := get?_update_eq_some.mp ho
    have hrecognized := h.recognized k o₁ ho₁
    split_ifs with hp
    · exact ⟨h.owned k o₁ ho₁, hrecognized, fun hsatisfied =>
        absurd hsatisfied (of_decide_eq_true hp).2⟩
    · exact ⟨h.owned k o₁ ho₁, hrecognized, h.satisfied k o₁ ho₁⟩

section Catchup

variable {today : Date} {among : List (Stored PerformanceObligation)} {price : ℚ}
  {r : Stored PerformanceObligation} {e : RevenueRecognitionEvent}

theorem catchupEvent_eq_none (h : catchupEvent today among price r = none) :
    earned (allocate price among r.row) = r.row.totalSatisfiedAmount := by
  rw [catchupEvent] at h
  split_ifs at h with hadjustment
  exact sub_eq_zero.mp hadjustment

theorem catchupEvent_eq_some (h : catchupEvent today among price r = some e) :
    e.obligationId = r.id ∧
      e.amountRecognized = earned (allocate price among r.row) - r.row.totalSatisfiedAmount := by
  rw [catchupEvent] at h
  split_ifs at h with hadjustment
  obtain rfl := Option.some.inj h
  exact ⟨rfl, rfl⟩

end Catchup

theorem total_catchup (today : Date) (price : ℚ) (among : List (Stored PerformanceObligation))
    {l : List (Stored PerformanceObligation)} (hnodup :
      (l.map Stored.id).Nodup) {r : Stored PerformanceObligation} (hr : r ∈ l) :
    total RevenueRecognitionEvent.amountRecognized RevenueRecognitionEvent.obligationId r.id
      (l.filterMap (catchupEvent today among price)) =
        earned (allocate price among r.row) - r.row.totalSatisfiedAmount := by
  induction l with
  | nil => exact absurd hr List.not_mem_nil
  | cons first l ih =>
    rw [List.map_cons, List.nodup_cons] at hnodup
    have hlater : r ∈ l → first.id ≠ r.id := fun hmem heq =>
      hnodup.1 (heq ▸ List.mem_map.mpr ⟨r, hmem, rfl⟩)
    -- the events of the rest are for other obligations than the first
    have hrest : total RevenueRecognitionEvent.amountRecognized
        RevenueRecognitionEvent.obligationId first.id
          (l.filterMap (catchupEvent today among price)) = 0 := by
      refine total_eq_zero fun e he heq => hnodup.1 ?_
      obtain ⟨r', hr', hevent⟩ := List.mem_filterMap.mp he
      rw [← heq, (catchupEvent_eq_some hevent).1]
      exact List.mem_map.mpr ⟨r', hr', rfl⟩
    cases hevent : catchupEvent today among price first with
    | none =>
      rw [List.filterMap_cons_none hevent]
      rcases List.mem_cons.mp hr with rfl | hmem
      · rw [hrest, sub_eq_zero.mpr (catchupEvent_eq_none hevent)]
      · exact ih hnodup.2 hmem
    | some e =>
      rw [List.filterMap_cons_some hevent, total_cons, (catchupEvent_eq_some hevent).1]
      rcases List.mem_cons.mp hr with rfl | hmem
      · rw [if_pos rfl, hrest, add_zero, (catchupEvent_eq_some hevent).2]
      · rw [if_neg (hlater hmem), zero_add]
        exact ih hnodup.2 hmem

/-- **A catch-up**: all the obligations share the value, and what they have earned of it is
recognised. -/
theorem Conserved.reallocateCumulativeCatchup (h : Conserved s)
    {today : Date} (hc : s.contracts.get? contractId = some c) (hstatus : c.status ≠ .completed)
    (hprice : price ≠ 0) :
    Conserved (reallocateCumulativeCatchup contractId { c with totalContractValue := some price }
      today (withValue contractId price s)) := by
  set obligations := s.obligationsOf contractId c.organizationId with hobligations
  refine h.repriced contractId hprice hstatus rfl (fun c' hc' => get?_withValue hc hc')
    (fun k hk => ⟨get?_modify_of_ne hk _, fun org => select_update_of_ne
      (fun o ho => (of_decide_eq_true ho).1) (fun o => rfl) hk⟩) ?_ (fun e he => ?_)
    fun k o ho => ?_
  · exact sum_update_allocate hobligations (h.obligationsOf_ne_nil hc) fun o => ⟨rfl, rfl, rfl⟩
  · rcases List.mem_append.mp he with hold | hnew
    · exact h.issued e hold
    · obtain ⟨r, hr, hevent⟩ := List.mem_filterMap.mp hnew
      rw [(catchupEvent_eq_some hevent).1]
      exact lt_next (t := s.obligations) (mem_obligationsOf.mp hr).1
  · obtain ⟨o₁, ho₁, rfl⟩ := get?_update_eq_some.mp ho
    have hrecognized := h.recognized k o₁ ho₁
    rw [ContractStore.recognized] at hrecognized
    rw [ContractStore.recognized, ContractService.reallocateCumulativeCatchup, total_append]
    split_ifs with hp
    · have hmem : (⟨k, o₁⟩ : Stored PerformanceObligation) ∈ obligations :=
        mem_obligationsOf.mpr ⟨ho₁, of_decide_eq_true hp⟩
      have hcaught := total_catchup today price obligations
        (nodup_ids_select s.obligations _) hmem
      refine ⟨h.owned k o₁ ho₁, (congrArg₂ (· + ·) hrecognized hcaught).trans ?_,
        fun hsatisfied => ?_⟩
      · exact add_sub_cancel _ _
      · obtain ⟨-, hprogress⟩ := h.satisfied k o₁ ho₁ hsatisfied
        refine ⟨?_, hprogress⟩
        change _ * (o₁.satisfactionPercentage / 100) = _
        rw [hprogress, div_self (by norm_num), mul_one]
        rfl
    · refine ⟨h.owned k o₁ ho₁, ?_, h.satisfied k o₁ ho₁⟩
      have hnone : total RevenueRecognitionEvent.amountRecognized
          RevenueRecognitionEvent.obligationId k
            (obligations.filterMap (catchupEvent today obligations price)) = 0 := by
        refine total_eq_zero fun e he heq => hp ?_
        obtain ⟨r, hr, hevent⟩ := List.mem_filterMap.mp he
        obtain ⟨hget, hof⟩ := mem_obligationsOf.mp hr
        rw [← (catchupEvent_eq_some hevent).1, heq] at hget
        exact decide_eq_true (Option.mem_unique ho₁ hget ▸ hof)
      exact (congrArg₂ (· + ·) hrecognized hnone).trans (add_zero _)

/-- **A modification**, prospective or with a catch-up. -/
theorem Conserved.modifyContract (h : Conserved s) {newTransactionPrice : Option ℚ}
    {modificationType : ModificationType} {today : Date}
    (htype : modificationType ≠ .separateContract)
    (hfits : ModificationFits s org contractId newTransactionPrice modificationType)
    (hmodify : modifyContract org contractId newTransactionPrice modificationType today
      s = .ok u s') : Conserved s' := by
  obtain ⟨c, hc, rfl, hstatus, hs'⟩ := modifyContract_eq_ok hmodify
  cases hprice : newTransactionPrice.filter (· ≠ 0) with
  | none =>
    rw [hprice] at hs'
    exact hs' ▸ h
  | some price =>
    rw [hprice] at hs'
    have hne : price ≠ 0 := by simpa using (Option.filter_eq_some_iff.mp hprice).2
    have hopen : c.status ≠ .completed := by simp [hstatus]
    cases modificationType with
    | prospective =>
      rw [show s' = _ from hs']
      exact h.reallocateProspectively hc hopen hne fun hall => hfits rfl hall price hprice c hc
    | cumulativeCatchup =>
      rw [show s' = _ from hs']
      exact h.reallocateCumulativeCatchup hc hopen hne
    | separateContract => exact absurd rfl htype

end DotmacErp.Revenue
