import DotmacErp.Foundation.Selections
import DotmacErp.Foundation.TableSums
import DotmacErp.Ipsas.Appropriations

/-!
# What the calls on budgets leave

A commitment binds what it commits and does not cancel; one that is cancelled as a whole binds what
was obligated under it. The calls on a commitment bind no more than before (`Bounded`), a new one
binds its amount, and a virement takes from one appropriation what it gives to another one of its
fund (`apply_eq_ok`).
-/

namespace DotmacErp.Ipsas

open Relational Session Table Rounding

variable {s s' : BudgetStore} {u : PUnit}

/-! ### What is bound -/

def Commitment.bound (c : Commitment) : ℚ :=
  match c.status with
  | .cancelled => c.obligatedAmount
  | .lapsed => 0
  | _ => c.committedAmount - c.cancelledAmount

def boundUnder (s : BudgetStore) (appropriationId : UUID) : ℚ :=
  s.commitments.sum fun c => if c.appropriationId = some appropriationId then c.bound else 0

def heldByCancelled (s : BudgetStore) (appropriationId : UUID) : ℚ :=
  s.commitments.sum fun c =>
    if c.appropriationId = some appropriationId ∧ c.status = .cancelled then c.obligatedAmount
    else 0

theorem Commitment.Standing.bound {c : Commitment} (h : c.Standing) :
    c.bound = c.committedAmount - c.cancelledAmount := by
  obtain ⟨hcancelled, hlapsed⟩ := h
  rw [Commitment.bound]
  cases hstatus : c.status with
  | cancelled => exact absurd hstatus hcancelled
  | lapsed => exact absurd hstatus hlapsed
  | pending | committed | obligated | partiallyPaid | expended => rfl

/-! ### Commitments that change -/

/-- The amounts of a commitment are stored ones, and nothing is obligated that it does not bind. -/
structure Commitment.Proper (c : Commitment) : Prop where
  committed : AtScale 6 c.committedAmount
  obligated : AtScale 6 c.obligatedAmount
  expended : AtScale 6 c.expendedAmount
  cancelled : AtScale 6 c.cancelledAmount
  spent : 0 ≤ c.expendedAmount
  covered : c.Standing → c.obligatedAmount ≤ c.committedAmount - c.cancelledAmount

/-- A commitment that a call leaves: under its appropriation, it binds no more than before. -/
structure Bounded (c c' : Commitment) : Prop where
  organization : c'.organizationId = c.organizationId
  appropriation : c'.appropriationId = c.appropriationId
  proper : c.Proper → c'.Proper
  bound : c.Proper → c'.bound ≤ c.bound

namespace CommitmentService

/-- **An obligation** binds nothing new. -/
theorem recordObligation_eq_ok {commitmentId : UUID} {amount : ℚ}
    (h : recordObligation commitmentId amount s = .ok u s') :
    ∃ c, s.commitments.get? commitmentId = some c ∧ Bounded c (obligate amount c) ∧
      s' = { s with commitments := s.commitments.modify commitmentId (obligate amount) } := by
  rw [recordObligation, get_bind, getOr404, orRaise_bind] at h
  obtain ⟨c, hc, h⟩ := h
  obtain ⟨hstatus, h⟩ := refuse_bind.mp h
  obtain ⟨hremaining, h⟩ := refuse_bind.mp h
  have hstanding : c.Standing := by
    refine ⟨fun hwas => hstatus ?_, fun hwas => hstatus ?_⟩ <;> rw [hwas] <;> decide
  refine ⟨c, hc, ⟨rfl, rfl, fun hproper => ?_, fun _ => ?_⟩, set_eq_ok.mp h⟩
  · refine ⟨hproper.committed, atScale_halfUp 6 _, hproper.expended, hproper.cancelled,
      hproper.spent, fun _ => ?_⟩
    have hscale : AtScale 6 (c.committedAmount - c.cancelledAmount) :=
      hproper.committed.sub hproper.cancelled
    have hle : c.obligatedAmount + amount ≤ c.committedAmount - c.cancelledAmount := by
      linarith [not_lt.mp hremaining]
    calc halfUp 6 (c.obligatedAmount + amount)
        ≤ halfUp 6 (c.committedAmount - c.cancelledAmount) := halfUp_mono hle
      _ = c.committedAmount - c.cancelledAmount := halfUp_of_atScale hscale
  · rw [hstanding.bound]
    exact le_refl (c.committedAmount - c.cancelledAmount)

/-- **An expenditure** binds nothing new. -/
theorem recordExpenditure_eq_ok {commitmentId : UUID} {amount : ℚ}
    (h : recordExpenditure commitmentId amount s = .ok u s') :
    ∃ c, s.commitments.get? commitmentId = some c ∧ (0 < amount → Bounded c (expend amount c)) ∧
      s' = { s with commitments := s.commitments.modify commitmentId (expend amount) } := by
  rw [recordExpenditure, get_bind, getOr404, orRaise_bind] at h
  obtain ⟨c, hc, h⟩ := h
  obtain ⟨hstatus, h⟩ := refuse_bind.mp h
  obtain ⟨-, h⟩ := refuse_bind.mp h
  have hstanding : c.Standing := by
    refine ⟨fun hwas => hstatus ?_, fun hwas => hstatus ?_⟩ <;> rw [hwas] <;> decide
  have hexpended : (expend amount c).Standing := by
    rw [expend]
    split_ifs <;> exact ⟨CommitmentStatus.noConfusion, CommitmentStatus.noConfusion⟩
  refine ⟨c, hc, fun hpos => ⟨rfl, rfl, fun hproper => ?_, fun _ => ?_⟩, set_eq_ok.mp h⟩
  · refine ⟨hproper.committed, hproper.obligated, atScale_halfUp 6 _, hproper.cancelled,
      halfUp_nonneg ?_, fun _ => hproper.covered hstanding⟩
    linarith [hproper.spent]
  · rw [hstanding.bound, hexpended.bound]
    exact le_refl (c.committedAmount - c.cancelledAmount)

/-- **A cancellation** binds no more: what was obligated is bound still. -/
theorem cancelCommitment_eq_ok {commitmentId : UUID} {amount : Option ℚ}
    (h : cancelCommitment commitmentId amount s = .ok u s') :
    ∃ c f, s.commitments.get? commitmentId = some c ∧
      ((∀ a ∈ amount, 0 < a) → Bounded c (f c)) ∧
      s' = { s with commitments := s.commitments.modify commitmentId f } := by
  rw [cancelCommitment, get_bind, getOr404, orRaise_bind] at h
  obtain ⟨c, hc, h⟩ := h
  obtain ⟨hstatus, h⟩ := refuse_bind.mp h
  have hstanding : c.Standing := by
    refine ⟨fun hwas => hstatus ?_, fun hwas => hstatus ?_⟩ <;> rw [hwas] <;> decide
  cases amount with
  | none =>
    refine ⟨c, cancelAll, hc, fun _ => ⟨rfl, rfl, fun hproper => ?_, fun hproper => ?_⟩,
      set_eq_ok.mp h⟩
    · exact ⟨hproper.committed, hproper.obligated, hproper.expended,
        (hproper.committed.sub hproper.obligated).sub hproper.expended, hproper.spent,
        fun hstill => absurd rfl hstill.1⟩
    · rw [hstanding.bound]
      exact hproper.covered hstanding
  | some a =>
    obtain ⟨havailable, h⟩ := refuse_bind.mp h
    have hstill : (cancelSome a c).Standing := hstanding
    refine ⟨c, cancelSome a, hc, fun hpos => ⟨rfl, rfl, fun hproper => ?_, fun hproper => ?_⟩,
      set_eq_ok.mp h⟩
    · refine ⟨hproper.committed, hproper.obligated, hproper.expended, atScale_halfUp 6 _,
        hproper.spent, fun _ => ?_⟩
      have hscale : AtScale 6 (c.committedAmount - c.obligatedAmount) :=
        hproper.committed.sub hproper.obligated
      have hle : c.cancelledAmount + a ≤ c.committedAmount - c.obligatedAmount := by
        linarith [not_lt.mp havailable, hproper.spent]
      have hrounded : halfUp 6 (c.cancelledAmount + a) ≤
          c.committedAmount - c.obligatedAmount := by
        calc halfUp 6 (c.cancelledAmount + a)
            ≤ halfUp 6 (c.committedAmount - c.obligatedAmount) := halfUp_mono hle
          _ = c.committedAmount - c.obligatedAmount := halfUp_of_atScale hscale
      change c.obligatedAmount ≤ c.committedAmount - halfUp 6 (c.cancelledAmount + a)
      linarith
    · have ha : 0 < a := hpos a rfl
      have hgrows : c.cancelledAmount ≤ halfUp 6 (c.cancelledAmount + a) := by
        calc c.cancelledAmount = halfUp 6 c.cancelledAmount :=
              (halfUp_of_atScale hproper.cancelled).symm
          _ ≤ halfUp 6 (c.cancelledAmount + a) := halfUp_mono (by linarith)
      rw [hstanding.bound, hstill.bound]
      change c.committedAmount - halfUp 6 (c.cancelledAmount + a) ≤
        c.committedAmount - c.cancelledAmount
      linarith

/-- What a new commitment was checked for. -/
structure Admitted (s : BudgetStore) (organizationId appropriationId : UUID) (amount : ℚ) :
    Prop where
  granted : ∃ a, s.appropriations.get? appropriationId = some a ∧
    a.organizationId = organizationId ∧ a.Granted
  fits : amount ≤ availableUnder s organizationId appropriationId

theorem validateNewCommitment_eq_ok {org fundId : UUID}
    {appropriationId : Option UUID} {amount : ℚ}
    (h : validateNewCommitment org fundId appropriationId amount s = .ok u s') :
    0 < amount ∧ (∀ k ∈ appropriationId, Admitted s org k amount) ∧ s' = s := by
  rw [validateNewCommitment] at h
  obtain ⟨hpos, h⟩ := refuse_bind.mp h
  rw [get_bind, orRaise_bind] at h
  obtain ⟨fund, -, h⟩ := h
  obtain ⟨-, h⟩ := refuse_bind.mp h
  cases appropriationId with
  | none => exact ⟨not_le.mp hpos, fun k hk => absurd hk (by simp), (pure_eq_ok.mp h).2⟩
  | some k =>
    simp only [orRaise_bind] at h
    obtain ⟨approp, hfound, h⟩ := h
    obtain ⟨hgranted, h⟩ := refuse_bind.mp h
    obtain ⟨hfits, hs⟩ := refuse_eq_ok.mp h
    obtain ⟨hget, horg⟩ := Option.filter_eq_some_iff.mp hfound
    refine ⟨not_le.mp hpos, fun k' hk' => ?_, hs⟩
    obtain rfl := Option.some.inj hk'
    exact ⟨⟨approp, hget, of_decide_eq_true horg, not_not.mp hgranted⟩, not_lt.mp hfits⟩

/-- **A new commitment**, whatever its source. -/
theorem createFrom_eq_ok {commitmentType : CommitmentType} {sourceType : String}
    {sourceId org k : UUID} {input : CommitmentInput}
    (h : createFrom commitmentType sourceType sourceId org input s = .ok k s') :
    0 < input.amount ∧
      (∀ a ∈ input.appropriationId, Admitted s org a input.amount) ∧
      s' = { s with
        commitments := s.commitments.insert
          (newCommitment commitmentType sourceType sourceId org input) } := by
  rw [createFrom] at h
  obtain ⟨_, s₁, hvalid, hrest⟩ := bind_eq_ok.mp h
  obtain ⟨hpos, hadmitted, rfl⟩ := validateNewCommitment_eq_ok hvalid
  rw [get_bind] at hrest
  obtain ⟨-, hrest⟩ := refuse_bind.mp hrest
  obtain ⟨_, s₂, hset, hpure⟩ := bind_eq_ok.mp hrest
  obtain ⟨-, rfl⟩ := pure_eq_ok.mp hpure
  exact ⟨hpos, hadmitted, set_eq_ok.mp hset⟩

end CommitmentService

/-! ### Appropriations -/

namespace AppropriationService

theorem create_eq_ok {org userId k : UUID} {data : AppropriationCreate}
    (h : create org data userId s = .ok k s') :
    0 < data.approvedAmount ∧ s' = { s with
      appropriations :=
        s.appropriations.insert (newAppropriation org data userId) } := by
  rw [create] at h
  obtain ⟨hpos, h⟩ := refuse_bind.mp h
  rw [get_bind] at h
  obtain ⟨-, h⟩ := refuse_bind.mp h
  obtain ⟨_, s₁, hset, hpure⟩ := bind_eq_ok.mp h
  obtain ⟨-, rfl⟩ := pure_eq_ok.mp hpure
  exact ⟨not_le.mp hpos, set_eq_ok.mp hset⟩

theorem approve_eq_ok {appropriationId approverId : UUID}
    (h : approve appropriationId approverId s = .ok u s') :
    ∃ f, (∀ a : Appropriation, f a = { a with
        status := .approved, approvedByUserId := some approverId }) ∧
      s' = { s with appropriations := s.appropriations.modify appropriationId f } := by
  rw [approve, get_bind, orRaise_bind] at h
  obtain ⟨a, -, h⟩ := h
  obtain ⟨-, h⟩ := refuse_bind.mp h
  obtain ⟨-, h⟩ := refuse_bind.mp h
  exact ⟨_, fun _ => rfl, set_eq_ok.mp h⟩

end AppropriationService

/-! ### Virements -/

namespace VirementService

theorem create_eq_ok {org userId k : UUID} {data : VirementCreate}
    {virementNumber : String} (h : create org data userId virementNumber s = .ok k s') :
    data.fromAppropriationId ≠ data.toAppropriationId ∧ 0 < data.amount ∧ s' = { s with
      virements :=
        s.virements.insert (newVirement org data userId virementNumber) } := by
  rw [create] at h
  obtain ⟨hne, h⟩ := refuse_bind.mp h
  obtain ⟨hpos, h⟩ := refuse_bind.mp h
  rw [get_bind] at h
  obtain ⟨-, h⟩ := refuse_bind.mp h
  obtain ⟨_, s₁, hset, hpure⟩ := bind_eq_ok.mp h
  obtain ⟨-, rfl⟩ := pure_eq_ok.mp hpure
  exact ⟨hne, not_le.mp hpos, set_eq_ok.mp hset⟩

theorem approve_eq_ok {virementId approverId : UUID}
    (h : approve virementId approverId s = .ok u s') :
    ∃ f, (∀ v : Virement, f v = { v with
        status := .approved, approvedByUserId := some approverId }) ∧
      s' = { s with virements := s.virements.modify virementId f } := by
  rw [approve, get_bind, orRaise_bind] at h
  obtain ⟨v, -, h⟩ := h
  obtain ⟨-, h⟩ := refuse_bind.mp h
  obtain ⟨-, h⟩ := refuse_bind.mp h
  exact ⟨_, fun _ => rfl, set_eq_ok.mp h⟩

/-- **A virement** moves its amount between appropriations of one fund, from one under which it is
available. -/
theorem apply_eq_ok {virementId : UUID} (h : apply virementId s = .ok u s') :
    ∃ v source destination f, s.virements.get? virementId = some v ∧
      s.appropriations.get? v.fromAppropriationId = some source ∧
      s.appropriations.get? v.toAppropriationId = some destination ∧
      source.organizationId = v.organizationId ∧ source.fundId = destination.fundId ∧
      (∀ v : Virement, f v = { v with status := .applied }) ∧
      s' = { s with
        appropriations :=
          (s.appropriations.modify v.fromAppropriationId (revise (-v.amount))).modify
            v.toAppropriationId (revise v.amount)
        virements := s.virements.modify virementId f } := by
  rw [apply, get_bind, orRaise_bind] at h
  obtain ⟨v, hv, h⟩ := h
  obtain ⟨-, h⟩ := refuse_bind.mp h
  rw [orRaise_bind] at h
  obtain ⟨source, hsource, h⟩ := h
  rw [orRaise_bind] at h
  obtain ⟨destination, hdestination, h⟩ := h
  obtain ⟨horg, h⟩ := refuse_bind.mp h
  obtain ⟨-, h⟩ := refuse_bind.mp h
  obtain ⟨-, h⟩ := refuse_bind.mp h
  obtain ⟨hfund, h⟩ := refuse_bind.mp h
  obtain ⟨-, h⟩ := refuse_bind.mp h
  exact ⟨v, source, destination, _, hv, hsource, hdestination,
    not_not.mp fun hne => horg (.inl hne), not_not.mp hfund, fun _ => rfl, set_eq_ok.mp h⟩

end VirementService

end DotmacErp.Ipsas
