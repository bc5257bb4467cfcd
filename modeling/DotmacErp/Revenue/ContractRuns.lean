import DotmacErp.Foundation.Scripts
import DotmacErp.Revenue.ContractRevenue

/-!
# Contract revenue is conserved

Over the calls on contracts, each of which meets its condition, what is allocated to the obligations
of a contract is its value, their events add up to what they have recognised, a satisfied obligation
has recognised its price, and so a completed contract has recognised its value
(`contract_revenue_conserved`).

An added obligation takes part of the price of those that are satisfied, and these have recognised
all they had (`added_obligation_reprices_a_satisfied_one`).
-/

namespace DotmacErp.Revenue

open Calendar Relational Session Table ContractService

variable {s s' : ContractStore}

/-! ### Operations -/

inductive ContractOperation where
  | create (org : UUID) (contractNumber : String) (input : ContractInput)
  | activate (org contractId : UUID)
  | addObligation (org contractId : UUID) (input : PerformanceObligationInput)
  | updateProgress (org obligationId : UUID) (eventDate : Date)
      (progressPercentage : ℚ)
  | satisfy (org obligationId : UUID) (satisfactionDate : Date)
  | modify (org contractId : UUID) (newTransactionPrice : Option ℚ)
      (modificationType : ModificationType) (today : Date)
  | complete (org contractId : UUID)

namespace ContractOperation

def run : ContractOperation → ContractSession PUnit
  | create org contractNumber input =>
    (fun _ => ⟨⟩) <$> createContract org contractNumber input
  | activate org contractId => activateContract org contractId
  | addObligation org contractId input =>
    addPerformanceObligation org contractId input
  | updateProgress org obligationId eventDate progressPercentage =>
    ContractService.updateProgress org obligationId eventDate progressPercentage
  | satisfy org obligationId satisfactionDate =>
    satisfyPointInTime org obligationId satisfactionDate
  | modify org contractId newTransactionPrice modificationType today =>
    modifyContract org contractId newTransactionPrice modificationType today
  | complete org contractId => completeContract org contractId

def after (s : ContractStore) (op : ContractOperation) : ContractStore := commit op.run s

/-- The calls considered: contracts have a positive value, progress is a part of the whole, and a
modification is prospective or catches up. -/
def InScope : ContractOperation → Prop
  | create _ _ input => ∃ value ∈ input.totalContractValue, 0 < value
  | updateProgress _ _ _ progressPercentage => 0 ≤ progressPercentage ∧ progressPercentage ≤ 100
  | modify _ _ _ modificationType _ => modificationType ≠ .separateContract
  | _ => True

/-- A call that goes through meets the condition of its kind. -/
def Fits (s : ContractStore) (op : ContractOperation) : Prop :=
  returns op.run s = true →
    match op with
    | create _ _ input => input.obligations ≠ []
    | addObligation org contractId input =>
      NewObligationFits s org contractId input
    | modify org contractId newTransactionPrice modificationType _ =>
      ModificationFits s org contractId newTransactionPrice modificationType
    | _ => True

end ContractOperation

structure NoContracts (s : ContractStore) : Prop where
  contracts : s.contracts = Table.empty
  obligations : s.obligations = Table.empty
  events : s.events = []

def contractSystem : System ContractStore ContractOperation :=
  .ofFunction NoContracts ContractOperation.after

/-! ### One operation -/

theorem NoContracts.conserved (h : NoContracts s) : Conserved s := by
  have hobligations : ∀ k o, s.obligations.get? k ≠ some o := by
    intro k o ho
    rw [h.obligations] at ho
    exact absurd ho (by simp)
  have hcontracts : ∀ k c, s.contracts.get? k ≠ some c := by
    intro k c hc
    rw [h.contracts] at hc
    exact absurd hc (by simp)
  refine ⟨fun k o ho => absurd ho (hobligations k o), ?_, fun k c hc => absurd hc (hcontracts k c),
    fun k o ho => absurd ho (hobligations k o), fun k o ho => absurd ho (hobligations k o),
    fun k c hc => absurd hc (hcontracts k c)⟩
  simp [h.events]

/-- **One operation** that meets its condition conserves the revenue of contracts. -/
theorem conserved_after (h : Conserved s) {op : ContractOperation} (hscope : op.InScope)
    (hfits : op.Fits s) : Conserved (op.after s) := by
  refine commit_induction (P := Conserved) h fun u s' hrun => ?_
  have hcondition := hfits (returns_iff.mpr ⟨u, s', hrun⟩)
  cases op with
  | create org contractNumber input =>
    obtain ⟨value, hvalue, hpos⟩ := hscope
    obtain ⟨k, hcreate, -⟩ := map_eq_ok.mp hrun
    exact h.createContract hvalue hpos.ne' hcondition hcreate
  | activate org contractId =>
    obtain rfl := activateContract_eq_ok hrun
    exact h.modifyStatus (fun _ => rfl) (fun _ => rfl)
      fun c hc hstatus => ContractStatus.noConfusion hstatus
  | addObligation org contractId input =>
    exact h.addPerformanceObligation hcondition hrun
  | updateProgress org obligationId eventDate progressPercentage =>
    obtain ⟨event, change, o, hrec, rfl⟩ := updateProgress_eq_ok hscope.2 hrun
    exact h.recognizes hrec
  | satisfy org obligationId satisfactionDate =>
    obtain ⟨event, change, o, hrec, rfl⟩ := satisfyPointInTime_eq_ok hrun
    exact h.recognizes hrec
  | modify org contractId newTransactionPrice modificationType today =>
    exact h.modifyContract hscope hcondition hrun
  | complete org contractId =>
    obtain ⟨⟨c, hc, rfl⟩, hall, rfl⟩ := completeContract_eq_ok hrun
    refine h.modifyStatus (fun _ => rfl) (fun _ => rfl) fun c' hc' _ => ?_
    obtain rfl := Option.mem_unique hc hc'
    exact hall

/-! ### Runs -/

/-- **Contract revenue is conserved**: in runs whose calls meet their conditions, the prices of the
obligations of a contract add up to its value, each obligation has recognised what its events say
and, once satisfied, its price, and a completed contract has recognised its value. -/
theorem contract_revenue_conserved
    (h : contractSystem.ReachableWithin (fun s op => op.InScope ∧ op.Fits s) s) {k : UUID}
    {c : Contract} (hc : s.contracts.get? k = some c) :
    c.totalContractValue = some (s.allocated k c.organizationId) ∧
      (∀ r ∈ s.obligationsOf k c.organizationId,
        s.recognized r.id = r.row.totalSatisfiedAmount ∧ (r.row.status = .satisfied →
          r.row.totalSatisfiedAmount = r.row.allocatedTransactionPrice)) ∧
      (c.status = .completed → c.totalContractValue =
        some ((s.obligationsOf k c.organizationId).map fun r => s.recognized r.id).sum) := by
  have hconserved : Conserved s := by
    refine h.invariant (P := Conserved) (fun s hs => hs.conserved) ?_
    rintro s op s' hs ⟨hscope, hfits⟩ rfl
    exact conserved_after hs hscope hfits
  have hrows : ∀ r ∈ s.obligationsOf k c.organizationId,
      s.recognized r.id = r.row.totalSatisfiedAmount ∧ (r.row.status = .satisfied →
        r.row.totalSatisfiedAmount = r.row.allocatedTransactionPrice) := by
    intro r hr
    have hget := (mem_obligationsOf.mp hr).1
    exact ⟨hconserved.recognized _ _ hget, fun hstatus => (hconserved.satisfied _ _ hget hstatus).1⟩
  refine ⟨(hconserved.value k c hc).1, hrows, fun hcompleted => ?_⟩
  have hsum : s.allocated k c.organizationId =
      ((s.obligationsOf k c.organizationId).map fun r => s.recognized r.id).sum := by
    refine congrArg List.sum (List.map_congr_left fun r hr => ?_)
    obtain ⟨hrecognized, hsettled⟩ := hrows r hr
    exact (hrecognized.trans (hsettled (hconserved.completed k c hc hcompleted r hr))).symm
  exact (hconserved.value k c hc).1.trans (congrArg some hsum)

/-! ### Two runs -/

def oneCustomer : ContractStore where
  customers := Table.empty.insert 9
  contracts := Table.empty
  obligations := Table.empty
  events := []

theorem noContracts_oneCustomer : NoContracts oneCustomer := ⟨rfl, rfl, rfl⟩

def contractDay : Date := ⟨2024, 9, 30, by decide⟩

def promise (satisfactionPattern : SatisfactionPattern) (price : ℚ) :
    PerformanceObligationInput where
  satisfactionPattern := satisfactionPattern
  standaloneSellingPrice := price

def twoPromises (second : SatisfactionPattern) : ContractOperation :=
  .create 9 "CON" {
    customerId := 0
    obligations := [promise .pointInTime 50, promise second 50]
    totalContractValue := some 100 }

/-- A third promise is added before one is satisfied, the price is modified both ways, and all that
was promised is delivered. -/
def deliveredContract : List ContractOperation :=
  [twoPromises .overTime, .addObligation 9 0 (promise .pointInTime 25), .activate 9 0,
    .updateProgress 9 1 contractDay 40, .modify 9 0 (some 150) .cumulativeCatchup contractDay,
    .satisfy 9 0 contractDay, .modify 9 0 (some 130) .prospective contractDay,
    .updateProgress 9 1 contractDay 100, .satisfy 9 2 contractDay, .complete 9 0]

instance (s : ContractStore) (org contractId : UUID)
    (input : PerformanceObligationInput) :
    Decidable (NewObligationFits s org contractId input) :=
  inferInstanceAs (Decidable (∀ c ∈ s.contracts.get? contractId,
    ∀ r ∈ s.obligationsOf contractId org, _ → _))

instance (s : ContractStore) (org contractId : UUID) (price : Option ℚ)
    (modificationType : ModificationType) :
    Decidable (ModificationFits s org contractId price modificationType) :=
  inferInstanceAs (Decidable (modificationType = .prospective →
    (∀ r ∈ s.obligationsOf contractId org, r.row.status = .satisfied) →
      ∀ p ∈ price.filter (· ≠ 0), ∀ c ∈ s.contracts.get? contractId,
        c.totalContractValue = some p))

instance (s : ContractStore) (op : ContractOperation) : Decidable (op.Fits s) := by
  cases op with
  | create org contractNumber input =>
    exact inferInstanceAs (Decidable (_ = _ → input.obligations ≠ []))
  | addObligation org contractId input =>
    exact inferInstanceAs (Decidable (_ = _ → NewObligationFits s org contractId input))
  | modify org contractId price modificationType today =>
    exact inferInstanceAs (Decidable (_ = _ →
      ModificationFits s org contractId price modificationType))
  | activate | updateProgress | satisfy | complete => exact isTrue fun _ => trivial

instance (op : ContractOperation) : Decidable op.InScope := by
  cases op with
  | create org contractNumber input =>
    exact inferInstanceAs (Decidable (∃ value ∈ input.totalContractValue, 0 < value))
  | updateProgress org obligationId eventDate progressPercentage =>
    exact inferInstanceAs (Decidable (0 ≤ progressPercentage ∧ progressPercentage ≤ 100))
  | modify org contractId price modificationType today =>
    exact inferInstanceAs (Decidable (modificationType ≠ .separateContract))
  | activate | addObligation | satisfy | complete => exact isTrue trivial

theorem contract_revenue_conserved_sample :
    let s := System.after ContractOperation.after oneCustomer deliveredContract
    (s.contracts.get? 0).map (fun c => (c.status, c.totalContractValue)) =
        some (.completed, some 130) ∧
      ((s.obligationsOf 0 9).map fun r => s.recognized r.id).sum = 130 := by
  have hrun : contractSystem.ReachableWithin (fun s op => op.InScope ∧ op.Fits s)
      (System.after ContractOperation.after oneCustomer deliveredContract) :=
    System.reachableWithin_after noContracts_oneCustomer (by decide +kernel)
  have hcontract : (((System.after ContractOperation.after oneCustomer
      deliveredContract).contracts.get? 0).map fun c =>
        (c.organizationId, c.status, c.totalContractValue)) = some (9, .completed, some 130) := by
    decide +kernel
  obtain ⟨c, hc, hterms⟩ := Option.map_eq_some_iff.mp hcontract
  simp only [Prod.mk.injEq] at hterms
  obtain ⟨horg, hstatus, hvalue⟩ := hterms
  have hsum := (contract_revenue_conserved hrun hc).2.2 hstatus
  rw [hvalue, horg] at hsum
  exact ⟨by rw [hc, Option.map_some, hstatus, hvalue], (Option.some.inj hsum).symm⟩

def lateObligation : List ContractOperation :=
  [twoPromises .pointInTime, .satisfy 9 0 contractDay,
    .addObligation 9 0 (promise .pointInTime 50)]

/-- **The satisfied obligation has another price then**: it has recognised 50, and a third of a
hundred is allocated to it. -/
theorem added_obligation_reprices_a_satisfied_one :
    ¬ ∀ s : ContractStore, contractSystem.ReachableWithin (fun _ op => op.InScope) s →
      ∀ k c, s.contracts.get? k = some c →
        c.totalContractValue = some (s.allocated k c.organizationId) ∧
        (∀ r ∈ s.obligationsOf k c.organizationId,
          s.recognized r.id = r.row.totalSatisfiedAmount ∧ (r.row.status = .satisfied →
            r.row.totalSatisfiedAmount = r.row.allocatedTransactionPrice)) ∧
        (c.status = .completed → c.totalContractValue =
          some ((s.obligationsOf k c.organizationId).map fun r => s.recognized r.id).sum) := by
  intro h
  have hrun : contractSystem.ReachableWithin (fun _ op => op.InScope)
      (System.after ContractOperation.after oneCustomer lateObligation) :=
    System.reachableWithin_after noContracts_oneCustomer (by decide +kernel)
  have hcontract : (((System.after ContractOperation.after oneCustomer
      lateObligation).contracts.get? 0).map Contract.organizationId) = some 9 := by
    decide +kernel
  obtain ⟨c, hc, horg⟩ := Option.map_eq_some_iff.mp hcontract
  have hrows := (h _ hrun 0 c hc).2.1
  rw [horg] at hrows
  have hsettled : ∀ r ∈ (System.after ContractOperation.after oneCustomer
      lateObligation).obligationsOf 0 9, r.row.status = .satisfied →
        r.row.totalSatisfiedAmount = r.row.allocatedTransactionPrice :=
    fun r hr => (hrows r hr).2
  exact absurd hsettled (by decide +kernel)

end DotmacErp.Revenue
