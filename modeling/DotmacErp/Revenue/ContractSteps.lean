import DotmacErp.Revenue.Contracts

/-!
# What the calls on a contract leave

Each call of `ContractService` that returns found its contract, or its obligation, in the
organization it was called for, and leaves a store that is written out here (`…_eq_ok`). The proofs
over runs read these equations and not the calls.
-/

namespace DotmacErp.Revenue

open Calendar Relational Session

namespace ContractService

variable {s s' : ContractStore} {org contractId obligationId : UUID} {u : PUnit}

/-! ### Loading -/

theorem loadContract_eq_ok {c : Contract} :
    loadContract org contractId s = .ok c s' ↔
      s' = s ∧ s.contracts.get? contractId = some c ∧ c.organizationId = org := by
  rw [loadContract, get_bind, orRaise_bind]
  constructor
  · rintro ⟨c', hc, h⟩
    obtain ⟨horg, h⟩ := refuse_bind.mp h
    obtain ⟨rfl, rfl⟩ := pure_eq_ok.mp h
    exact ⟨rfl, hc, not_not.mp horg⟩
  · rintro ⟨rfl, hc, horg⟩
    exact ⟨c, hc, refuse_bind.mpr ⟨not_not.mpr horg, rfl⟩⟩

theorem loadContract_bind {α : Type} {f : Contract → ContractSession α} {a : α} :
    (loadContract org contractId >>= f) s = .ok a s' ↔
      ∃ c, s.contracts.get? contractId = some c ∧ c.organizationId = org ∧
        f c s = .ok a s' := by
  simp only [bind_eq_ok, loadContract_eq_ok]
  constructor
  · rintro ⟨c, _, ⟨rfl, hc, horg⟩, h⟩
    exact ⟨c, hc, horg, h⟩
  · rintro ⟨c, hc, horg, h⟩
    exact ⟨c, s, ⟨rfl, hc, horg⟩, h⟩

theorem loadObligation_bind {α : Type} {f : PerformanceObligation → ContractSession α}
    {a : α} :
    (loadObligation org obligationId >>= f) s = .ok a s' ↔
      ∃ o, s.obligations.get? obligationId = some o ∧ o.organizationId = org ∧
        f o s = .ok a s' := by
  rw [loadObligation, bind_assoc, get_bind, bind_assoc, orRaise_bind]
  refine exists_congr fun o => and_congr_right fun _ => ?_
  rw [bind_assoc, refuse_bind, not_not]
  rfl

/-! ### Contracts -/

theorem createContract_eq_ok {contractNumber : String} {input : ContractInput} {k : UUID}
    (h : createContract org contractNumber input s = .ok k s') :
    ∃ c : Contract, c.organizationId = org ∧ c.status = .draft ∧
      c.totalContractValue = input.totalContractValue ∧
      s' = { s with
        contracts := s.contracts.insert c
        obligations := s.obligations.insertAll (newObligations s.contracts.next org
          input.totalContractValue input.obligations) } := by
  rw [createContract, get_bind] at h
  obtain ⟨-, h⟩ := refuse_bind.mp h
  obtain ⟨-, h⟩ := refuse_bind.mp h
  obtain ⟨-, h⟩ := refuse_bind.mp h
  obtain ⟨-, h⟩ := refuse_bind.mp h
  obtain ⟨_, s₁, hset, hpure⟩ := bind_eq_ok.mp h
  obtain ⟨-, rfl⟩ := pure_eq_ok.mp hpure
  exact ⟨_, rfl, rfl, rfl, set_eq_ok.mp hset⟩

theorem activateContract_eq_ok (h : activateContract org contractId s = .ok u s') :
    s' = { s with contracts := s.contracts.modify contractId fun c =>
      { c with status := .active, approvalStatus := "APPROVED" } } := by
  rw [activateContract] at h
  obtain ⟨c, -, -, h⟩ := loadContract_bind.mp h
  obtain ⟨-, h⟩ := refuse_bind.mp h
  rw [get_bind] at h
  obtain ⟨-, h⟩ := refuse_bind.mp h
  exact set_eq_ok.mp h

theorem completeContract_eq_ok (h : completeContract org contractId s = .ok u s') :
    (∃ c, s.contracts.get? contractId = some c ∧ c.organizationId = org) ∧
      (∀ r ∈ s.obligationsOf contractId org, r.row.status = .satisfied) ∧
      s' = { s with contracts := s.contracts.modify contractId fun c =>
        { c with status := .completed } } := by
  rw [completeContract] at h
  obtain ⟨c, hc, horg, h⟩ := loadContract_bind.mp h
  rw [get_bind] at h
  obtain ⟨hnone, h⟩ := refuse_bind.mp h
  refine ⟨⟨c, hc, horg⟩, fun r hr => ?_, set_eq_ok.mp h⟩
  have hempty := List.filter_eq_nil_iff.mp (not_not.mp hnone) r hr
  simpa using hempty

/-! ### Obligations -/

def reallocated (contractId : UUID) (c : Contract) (s : ContractStore) : ContractStore :=
  let obligations := s.obligationsOf contractId c.organizationId
  { s with
    obligations := s.obligations.update (fun o => decide (o.IsOf contractId c.organizationId))
      (allocate (orElse c.totalContractValue
        (obligations.map fun r => r.row.standaloneSellingPrice).sum) obligations) }

def withObligation (contractId org : UUID) (input : PerformanceObligationInput)
    (s : ContractStore) : ContractStore :=
  { s with
    obligations := s.obligations.insert (newObligation contractId org
      ((s.obligationsOf contractId org).length + 1) input.standaloneSellingPrice
      input) }

theorem addPerformanceObligation_eq_ok {input : PerformanceObligationInput}
    (h : addPerformanceObligation org contractId input s = .ok u s') :
    ∃ c, s.contracts.get? contractId = some c ∧ c.organizationId = org ∧
      c.status ≠ .completed ∧
      s' = reallocated contractId c (withObligation contractId org input s) := by
  rw [addPerformanceObligation] at h
  obtain ⟨c, hc, horg, h⟩ := loadContract_bind.mp h
  obtain ⟨hstatus, h⟩ := refuse_bind.mp h
  refine ⟨c, hc, horg, fun heq => hstatus (by simp [heq]), ?_⟩
  rw [modify_bind, reallocateTransactionPrice, get_bind] at h
  simp only [hc, horg, ne_eq, not_true_eq_false, if_false] at h
  rw [reallocated, horg]
  exact set_eq_ok.mp h

/-- What a recognition writes: the obligation it is for was not satisfied, the event says by how
much its recognised amount changes, and it is satisfied only when all of its price is
recognised. -/
structure Recognizes (s : ContractStore) (event : RevenueRecognitionEvent)
    (change : PerformanceObligation → PerformanceObligation) (o : PerformanceObligation) :
    Prop where
  found : s.obligations.get? event.obligationId = some o
  unsatisfied : o.status ≠ .satisfied
  amount : event.amountRecognized = (change o).totalSatisfiedAmount - o.totalSatisfiedAmount
  satisfied : (change o).status = .satisfied →
    (change o).totalSatisfiedAmount = o.allocatedTransactionPrice ∧
      (change o).satisfactionPercentage = 100
  contract : ∀ o, (change o).contractId = o.contractId
  organization : ∀ o, (change o).organizationId = o.organizationId
  price : ∀ o, (change o).allocatedTransactionPrice = o.allocatedTransactionPrice

def recognizedIn (s : ContractStore) (event : RevenueRecognitionEvent)
    (change : PerformanceObligation → PerformanceObligation) : ContractStore :=
  { s with
    obligations := s.obligations.modify event.obligationId change
    events := s.events ++ [event] }

theorem recognize_eq_ok {event : RevenueRecognitionEvent}
    {change : PerformanceObligation → PerformanceObligation} :
    recognize event change s = .ok u s' ↔ s' = recognizedIn s event change := modify_eq_ok

theorem updateProgress_eq_ok {eventDate : Date} {progressPercentage : ℚ}
    (hprogress : progressPercentage ≤ 100)
    (h : updateProgress org obligationId eventDate progressPercentage s = .ok u s') :
    ∃ event change o, Recognizes s event change o ∧ s' = recognizedIn s event change := by
  rw [updateProgress] at h
  obtain ⟨o, ho, -, h⟩ := loadObligation_bind.mp h
  obtain ⟨-, h⟩ := refuse_bind.mp h
  obtain ⟨hstatus, h⟩ := refuse_bind.mp h
  obtain ⟨-, h⟩ := refuse_bind.mp h
  have hs' := recognize_eq_ok.mp h
  refine ⟨_, _, o, ?_, hs'⟩
  refine ⟨ho, hstatus, rfl, fun hsatisfied => ?_, fun _ => rfl, fun _ => rfl, fun _ => rfl⟩
  -- an obligation that is satisfied has progressed by the whole
  have hfull : progressPercentage = 100 := by
    refine le_antisymm hprogress (not_lt.mp fun hlt => ?_)
    simp [not_le.mpr hlt] at hsatisfied
  exact ⟨by simp [hfull], hfull⟩

theorem satisfyPointInTime_eq_ok {satisfactionDate : Date}
    (h : satisfyPointInTime org obligationId satisfactionDate s = .ok u s') :
    ∃ event change o, Recognizes s event change o ∧ s' = recognizedIn s event change := by
  rw [satisfyPointInTime] at h
  obtain ⟨o, ho, -, h⟩ := loadObligation_bind.mp h
  obtain ⟨-, h⟩ := refuse_bind.mp h
  obtain ⟨hstatus, h⟩ := refuse_bind.mp h
  have hs' := recognize_eq_ok.mp h
  refine ⟨_, _, o, ?_, hs'⟩
  exact ⟨ho, hstatus, rfl, fun _ => ⟨rfl, rfl⟩, fun _ => rfl, fun _ => rfl, fun _ => rfl⟩

/-! ### Modification -/

def withValue (contractId : UUID) (price : ℚ) (s : ContractStore) : ContractStore :=
  { s with contracts := s.contracts.modify contractId fun c =>
    { c with totalContractValue := some price } }

theorem modifyContract_eq_ok {newTransactionPrice : Option ℚ} {modificationType : ModificationType}
    {today : Date}
    (h : modifyContract org contractId newTransactionPrice modificationType today s =
      .ok u s') :
    ∃ c, s.contracts.get? contractId = some c ∧ c.organizationId = org ∧
      c.status = .active ∧
      match newTransactionPrice.filter (· ≠ 0) with
      | none => s' = s
      | some price =>
        let contract := { c with totalContractValue := some price }
        match modificationType with
        | .prospective =>
          s' = reallocateProspectively contractId contract (withValue contractId price s)
        | .cumulativeCatchup =>
          s' = reallocateCumulativeCatchup contractId contract today (withValue contractId price s)
        | .separateContract => s' = withValue contractId price s := by
  rw [modifyContract] at h
  obtain ⟨c, hc, horg, h⟩ := loadContract_bind.mp h
  obtain ⟨hstatus, h⟩ := refuse_bind.mp h
  refine ⟨c, hc, horg, not_not.mp hstatus, ?_⟩
  cases hprice : newTransactionPrice.filter (· ≠ 0) with
  | none =>
    rw [hprice] at h
    exact (pure_eq_ok.mp h).2
  | some price =>
    rw [hprice] at h
    have hs' := modify_eq_ok.mp h
    cases modificationType with
    | prospective => exact hs'
    | cumulativeCatchup => exact hs'
    | separateContract => exact hs'

end ContractService

end DotmacErp.Revenue
