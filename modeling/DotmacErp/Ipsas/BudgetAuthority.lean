import DotmacErp.Foundation.Scripts
import DotmacErp.Ipsas.AuthoritySteps

/-!
# Budget authority over whole runs

Virements keep the authority of every fund: the revised amounts of its appropriations add up to the
approved ones. They are a ceiling, too, for what the commitments under an appropriation bind, as
long as what is drawn — by a new commitment or a virement — leaves room for what was obligated under
commitments that are cancelled (`budget_authority_sound`). What is available does not count that
(`cancelled_obligation_is_spent_again`).
-/

namespace DotmacErp.Ipsas

open Relational Session Table Rounding CommitmentService VirementService

variable {s s' : BudgetStore}

/-! ### Operations -/

/-- A call on appropriations, commitments or virements. -/
inductive BudgetOperation where
  | createAppropriation (org : UUID)
      (data : AppropriationService.AppropriationCreate) (userId : UUID)
  | approveAppropriation (appropriationId approverId : UUID)
  | commit (org : UUID) (commitmentType : CommitmentType)
      (input : CommitmentInput)
  | commitFromPo (org poId : UUID) (input : CommitmentInput)
  | commitFromContract (org contractId : UUID)
      (input : CommitmentInput)
  | obligate (commitmentId : UUID) (amount : ℚ)
  | expend (commitmentId : UUID) (amount : ℚ)
  | cancel (commitmentId : UUID) (amount : Option ℚ)
  | createVirement (org : UUID) (data : VirementCreate) (userId : UUID)
      (virementNumber : String)
  | approveVirement (virementId approverId : UUID)
  | applyVirement (virementId : UUID)

/-- What is drawn under an appropriation leaves room for what was obligated under commitments that
are cancelled. -/
def DrawFits (s : BudgetStore) (org appropriationId : UUID) (amount : ℚ) : Prop :=
  amount + heldByCancelled s appropriationId ≤ availableUnder s org appropriationId

def CommitmentFits (s : BudgetStore) (org : UUID)
    (input : CommitmentInput) : Prop :=
  ∀ k ∈ input.appropriationId, DrawFits s org k input.amount

def VirementFits (s : BudgetStore) (virementId : UUID) : Prop :=
  ∀ v ∈ s.virements.get? virementId, DrawFits s v.organizationId v.fromAppropriationId v.amount

namespace BudgetOperation

def run : BudgetOperation → BudgetSession PUnit
  | createAppropriation org data userId =>
    (fun _ => ⟨⟩) <$> AppropriationService.create org data userId
  | approveAppropriation appropriationId approverId =>
    AppropriationService.approve appropriationId approverId
  | commit org commitmentType input =>
    (fun _ => ⟨⟩) <$> create org commitmentType input
  | commitFromPo org poId input =>
    (fun _ => ⟨⟩) <$> createCommitmentFromPo org poId input
  | commitFromContract org contractId input =>
    (fun _ => ⟨⟩) <$> createCommitmentFromContract org contractId input
  | obligate commitmentId amount => recordObligation commitmentId amount
  | expend commitmentId amount => recordExpenditure commitmentId amount
  | cancel commitmentId amount => cancelCommitment commitmentId amount
  | createVirement org data userId virementNumber =>
    (fun _ => ⟨⟩) <$> create org data userId virementNumber
  | approveVirement virementId approverId => approve virementId approverId
  | applyVirement virementId => apply virementId

def after (s : BudgetStore) (op : BudgetOperation) : BudgetStore := Session.commit op.run s

/-- The amounts that the calls do not check are positive. -/
def InScope : BudgetOperation → Prop
  | obligate _ amount | expend _ amount => 0 < amount
  | cancel _ amount => ∀ a ∈ amount, 0 < a
  | _ => True

/-- A call that goes through meets the condition of its kind. -/
def Fits (s : BudgetStore) (op : BudgetOperation) : Prop :=
  returns op.run s = true →
    match op with
    | commit org _ input | commitFromPo org _ input
    | commitFromContract org _ input => CommitmentFits s org input
    | applyVirement virementId => VirementFits s virementId
    | _ => True

end BudgetOperation

/-- No appropriation, commitment or virement yet. -/
structure NoAuthority (s : BudgetStore) : Prop where
  appropriations : s.appropriations = Table.empty
  commitments : s.commitments = Table.empty
  virements : s.virements = Table.empty

def budgetSystem : System BudgetStore BudgetOperation :=
  System.ofFunction NoAuthority BudgetOperation.after

/-! ### The authority of a fund -/

/-- What the appropriations of a fund are approved for. -/
def approvedOf (s : BudgetStore) (fundId : UUID) : ℚ :=
  s.appropriations.sum fun a => if a.fundId = fundId then a.approvedAmount else 0

def revisedOf (s : BudgetStore) (fundId : UUID) : ℚ :=
  s.appropriations.sum fun a => if a.fundId = fundId then a.revisedAmount else 0

def FundsBalanced (s : BudgetStore) : Prop := ∀ fundId, revisedOf s fundId = approvedOf s fundId

variable {u : PUnit}

theorem FundsBalanced.apply (h : FundsBalanced s) {virementId : UUID}
    (hrun : apply virementId s = .ok u s') : FundsBalanced s' := by
  obtain ⟨v, source, destination, f, -, hsource, hdestination, -, hfund, -, rfl⟩ :=
    apply_eq_ok hrun
  intro fundId
  set taken := s.appropriations.modify v.fromAppropriationId (revise (-v.amount))
    with htaken
  have hthere : ∃ b, taken.get? v.toAppropriationId = some b ∧
      b.fundId = destination.fundId := by
    refine ⟨_, get?_modify_eq_some.mpr ⟨destination, hdestination, rfl⟩, ?_⟩
    split_ifs
    · rfl
    · rfl
  obtain ⟨b, hb, hbfund⟩ := hthere
  have hrevised : (taken.modify v.toAppropriationId (revise v.amount)).sum
      (fun a => if a.fundId = fundId then a.revisedAmount else 0) = revisedOf s fundId := by
    rw [sum_modify hb, htaken, sum_modify hsource, revisedOf]
    simp only [revise, hbfund, hfund]
    split_ifs
    · ring
    · ring
  have happroved : (taken.modify v.toAppropriationId (revise v.amount)).sum
      (fun a => if a.fundId = fundId then a.approvedAmount else 0) = approvedOf s fundId := by
    rw [sum_modify_of_eq (f := revise v.amount) fun a _ => rfl, htaken,
      sum_modify_of_eq (f := revise (-v.amount)) fun a _ => rfl, approvedOf]
  exact hrevised.trans ((h fundId).trans happroved.symm)

/-- **One operation** keeps the authority of every fund. -/
theorem fundsBalanced_after (h : FundsBalanced s) (op : BudgetOperation) :
    FundsBalanced (op.after s) := by
  refine commit_induction (P := FundsBalanced) h fun u s' hrun => ?_
  cases op with
  | createAppropriation org data userId =>
    obtain ⟨k, hcreate, -⟩ := map_eq_ok.mp hrun
    obtain ⟨-, rfl⟩ := AppropriationService.create_eq_ok hcreate
    intro fundId
    rw [revisedOf, approvedOf, sum_insert, sum_insert]
    exact congrArg₂ _ (h fundId) rfl
  | approveAppropriation appropriationId approverId =>
    obtain ⟨f, hf, rfl⟩ := AppropriationService.approve_eq_ok hrun
    intro fundId
    rw [revisedOf, approvedOf, sum_modify_of_eq fun a _ => by rw [hf],
      sum_modify_of_eq fun a _ => by rw [hf]]
    exact h fundId
  | commit org commitmentType input =>
    obtain ⟨k, hcreate, -⟩ := map_eq_ok.mp hrun
    obtain ⟨-, -, rfl⟩ := createFrom_eq_ok hcreate
    exact h
  | commitFromPo org poId input =>
    obtain ⟨k, hcreate, -⟩ := map_eq_ok.mp hrun
    obtain ⟨-, -, rfl⟩ := createFrom_eq_ok hcreate
    exact h
  | commitFromContract org contractId input =>
    obtain ⟨k, hcreate, -⟩ := map_eq_ok.mp hrun
    obtain ⟨-, -, rfl⟩ := createFrom_eq_ok hcreate
    exact h
  | obligate commitmentId amount =>
    obtain ⟨c, -, -, rfl⟩ := recordObligation_eq_ok hrun
    exact h
  | expend commitmentId amount =>
    obtain ⟨c, -, -, rfl⟩ := recordExpenditure_eq_ok hrun
    exact h
  | cancel commitmentId amount =>
    obtain ⟨c, f, -, -, rfl⟩ := cancelCommitment_eq_ok hrun
    exact h
  | createVirement org data userId virementNumber =>
    obtain ⟨k, hcreate, -⟩ := map_eq_ok.mp hrun
    obtain ⟨-, -, rfl⟩ := create_eq_ok hcreate
    exact h
  | approveVirement virementId approverId =>
    obtain ⟨f, -, rfl⟩ := approve_eq_ok hrun
    exact h
  | applyVirement virementId => exact h.apply hrun

/-! ### What is available -/

structure WithinAuthority (s : BudgetStore) : Prop where
  granted : s.commitments.All fun c => ∀ k ∈ c.appropriationId,
    ∃ a, s.appropriations.get? k = some a ∧ a.organizationId = c.organizationId ∧ a.Granted
  proper : s.commitments.All Commitment.Proper
  revised : s.appropriations.All fun a => AtScale 6 a.revisedAmount
  virements : s.virements.All fun v =>
    v.fromAppropriationId ≠ v.toAppropriationId ∧ AtScale 6 v.amount ∧ 0 ≤ v.amount
  ceiling : ∀ k a, s.appropriations.get? k = some a → boundUnder s k ≤ a.revisedAmount

variable {k i : UUID} {a : Appropriation}

theorem WithinAuthority.appropriation_ne (h : WithinAuthority s)
    (hk : s.appropriations.get? k = some a) (hgranted : ¬ a.Granted) {c : Commitment}
    (hc : s.commitments.get? i = some c) : c.appropriationId ≠ some k := by
  intro hunder
  obtain ⟨a', ha', -, hgranted'⟩ := h.granted i c hc k hunder
  rw [hk] at ha'
  exact hgranted (Option.some.inj ha' ▸ hgranted')

theorem totalAppropriated_eq (hk : s.appropriations.get? k = some a) :
    (calculate s a.organizationId (some k) none none).totalAppropriated =
      if a.Granted then a.revisedAmount else 0 := by
  have hrows : ((s.appropriations.rows.filter fun r =>
      decide (r.row.organizationId = a.organizationId) && asked (some k) (r.id = ·) &&
        asked none (r.row.fundId = ·) && asked none (r.row.accountId = some ·)).filter fun r =>
          decide r.row.Granted) =
      ((s.appropriations.rows.filter fun r => decide (r.id = k)).filter fun r =>
        decide (r.row.organizationId = a.organizationId)).filter fun r =>
          decide r.row.Granted := by
    rw [List.filter_filter, List.filter_filter, List.filter_filter]
    refine List.filter_congr fun r _ => ?_
    simp [asked, Bool.and_assoc]
  change ((List.filter _ (List.filter _ _)).map _).sum = _
  rw [hrows, filter_id, hk]
  by_cases hgranted : a.Granted
  · simp [hgranted]
  · simp [hgranted]

/-- **What is available** under an appropriation: its revised amount less what is bound, but for
what was obligated under commitments that are cancelled. -/
theorem WithinAuthority.availableUnder_le (h : WithinAuthority s)
    (hk : s.appropriations.get? k = some a) :
    availableUnder s a.organizationId k ≤
      a.revisedAmount - (boundUnder s k - heldByCancelled s k) := by
  have hcommitted : (calculate s a.organizationId (some k) none none).totalCommitted =
      boundUnder s k - heldByCancelled s k := by
    change ((s.commitments.select _).map _).sum - ((s.commitments.select _).map _).sum = _
    rw [sum_select, sum_select, boundUnder, heldByCancelled, ← sum_sub, ← sum_sub]
    refine sum_congr fun i c hc => ?_
    by_cases hunder : c.appropriationId = some k
    · obtain ⟨a', ha', horg, -⟩ := h.granted i c hc k hunder
      rw [hk] at ha'
      obtain rfl := Option.some.inj ha'
      by_cases hstanding : c.Standing
      · have hlive : c.status ≠ .cancelled := hstanding.1
        simp [asked, hunder, horg, hstanding, hlive, hstanding.bound]
      · by_cases hcancelled : c.status = .cancelled
        · simp [asked, hunder, hstanding, hcancelled, Commitment.bound]
        · have hlapsed : c.status = .lapsed := by
            by_contra hnot
            exact hstanding ⟨hcancelled, hnot⟩
          simp [asked, hunder, hstanding, hlapsed, Commitment.bound]
    · simp [asked, hunder]
  have happropriated : (calculate s a.organizationId (some k) none none).totalAppropriated ≤
      a.revisedAmount := by
    rw [totalAppropriated_eq hk]
    split_ifs with hgranted
    · exact le_refl a.revisedAmount
    · have hnone : boundUnder s k = 0 :=
        sum_eq_zero fun i c hc => if_neg (h.appropriation_ne hk hgranted hc)
      rw [← hnone]
      exact h.ceiling k a hk
  change (calculate s a.organizationId (some k) none none).totalAppropriated -
    (calculate s a.organizationId (some k) none none).totalCommitted ≤ _
  rw [hcommitted]
  exact sub_le_sub_right happropriated _

theorem WithinAuthority.drawn_le (h : WithinAuthority s)
    (hk : s.appropriations.get? k = some a) {amount : ℚ}
    (hfits : DrawFits s a.organizationId k amount) : amount ≤ a.revisedAmount - boundUnder s k := by
  have havailable := h.availableUnder_le hk
  rw [DrawFits] at hfits
  linarith

/-! ### Calls on commitments -/

theorem boundUnder_atScale (h : s.commitments.All Commitment.Proper) (k : UUID) :
    AtScale 6 (boundUnder s k) := by
  refine atScale_sum fun q hq => ?_
  obtain ⟨r, hr, rfl⟩ := List.mem_map.mp hq
  have hproper := h r.id r.row (get?_of_mem hr)
  beta_reduce
  split_ifs
  · rw [Commitment.bound]
    cases r.row.status with
    | cancelled => exact hproper.obligated
    | lapsed => exact atScale_zero 6
    | pending | committed | obligated | partiallyPaid | expended =>
      exact hproper.committed.sub hproper.cancelled
  · exact atScale_zero 6

/-- **A commitment that a call leaves** binding no more. -/
theorem WithinAuthority.bounded (h : WithinAuthority s) {c : Commitment}
    {f : Commitment → Commitment} (hi : s.commitments.get? i = some c) (hf : Bounded c (f c)) :
    WithinAuthority { s with commitments := s.commitments.modify i f } := by
  have hproper := h.proper i c hi
  refine ⟨h.granted.modify fun c' hc' => ?_, h.proper.modify fun c' hc' => ?_, h.revised,
    h.virements, fun k a hk => ?_⟩
  · obtain rfl := Option.mem_unique hi hc'
    rw [hf.appropriation, hf.organization]
    exact h.granted i c hi
  · obtain rfl := Option.mem_unique hi hc'
    exact hf.proper hproper
  · have hbound : boundUnder { s with commitments := s.commitments.modify i f } k ≤
        boundUnder s k := by
      rw [boundUnder, boundUnder, sum_modify hi, hf.appropriation]
      have hle := hf.bound hproper
      split_ifs
      · linarith
      · simp
    exact hbound.trans (h.ceiling k a hk)

/-- **A new commitment** that fits. -/
theorem WithinAuthority.createFrom (h : WithinAuthority s) {commitmentType : CommitmentType}
    {sourceType : String} {sourceId org : UUID}
    {input : CommitmentInput} (hfits : CommitmentFits s org input)
    (hrun : createFrom commitmentType sourceType sourceId org input s =
      .ok i s') : WithinAuthority s' := by
  obtain ⟨hpos, hadmitted, rfl⟩ := createFrom_eq_ok hrun
  have hscale : AtScale 6 (halfUp 6 input.amount) := atScale_halfUp 6 _
  refine ⟨h.granted.insert fun k hk => (hadmitted k hk).granted, h.proper.insert ?_, h.revised,
    h.virements, fun k a hk => ?_⟩
  · refine ⟨hscale, atScale_zero 6, atScale_zero 6, atScale_zero 6, le_refl 0, fun _ => ?_⟩
    change 0 ≤ halfUp 6 input.amount - 0
    rw [sub_zero]
    exact halfUp_nonneg hpos.le
  · rw [boundUnder, sum_insert]
    by_cases hunder : input.appropriationId = some k
    · obtain ⟨a', ha', horg, -⟩ := (hadmitted k hunder).granted
      rw [hk] at ha'
      obtain rfl := Option.some.inj ha'
      have hdrawn : input.amount ≤ a.revisedAmount - boundUnder s k :=
        h.drawn_le hk (horg ▸ hfits k hunder)
      have hstored : halfUp 6 input.amount ≤ a.revisedAmount - boundUnder s k := by
        calc halfUp 6 input.amount ≤ halfUp 6 (a.revisedAmount - boundUnder s k) :=
              halfUp_mono hdrawn
          _ = a.revisedAmount - boundUnder s k :=
              halfUp_of_atScale ((h.revised k a hk).sub (boundUnder_atScale h.proper k))
      have hnew : (newCommitment commitmentType sourceType sourceId
          org input).bound = halfUp 6 input.amount - 0 := rfl
      change boundUnder s k + (if input.appropriationId = some k then _ else _) ≤ _
      rw [if_pos hunder, hnew]
      linarith
    · change boundUnder s k + (if input.appropriationId = some k then _ else _) ≤ _
      rw [if_neg hunder, add_zero]
      exact h.ceiling k a hk

/-! ### Calls on appropriations and virements -/

theorem WithinAuthority.createAppropriation (h : WithinAuthority s) {org userId : UUID}
    {data : AppropriationService.AppropriationCreate}
    (hrun : AppropriationService.create org data userId s = .ok i s') :
    WithinAuthority s' := by
  obtain ⟨hpos, rfl⟩ := AppropriationService.create_eq_ok hrun
  refine ⟨fun j c hc k hk => ?_, h.proper, h.revised.insert (atScale_halfUp 6 _), h.virements,
    fun k a hk => ?_⟩
  · obtain ⟨a, ha, hrest⟩ := h.granted j c hc k hk
    exact ⟨a, get?_insert_of_some ha _, hrest⟩
  · rcases get?_insert_cases hk with hold | ⟨rfl, rfl⟩
    · exact h.ceiling k a hold
    · -- no commitment has the new key yet
      have hnone : boundUnder s s.appropriations.next = 0 := by
        refine sum_eq_zero fun j c hc => if_neg fun hunder => ?_
        obtain ⟨a, ha, -⟩ := h.granted j c hc _ hunder
        exact absurd (lt_next ha) (lt_irrefl _)
      change boundUnder s s.appropriations.next ≤ halfUp 6 data.approvedAmount
      rw [hnone]
      exact halfUp_nonneg hpos.le

theorem WithinAuthority.withAppropriations (h : WithinAuthority s)
    {appropriations : Table Appropriation}
    (hkept : ∀ k a, s.appropriations.get? k = some a → ∃ a', appropriations.get? k = some a' ∧
      a'.organizationId = a.organizationId ∧ (a.Granted → a'.Granted))
    (hceiling : ∀ k a', appropriations.get? k = some a' →
      AtScale 6 a'.revisedAmount ∧ boundUnder s k ≤ a'.revisedAmount) :
    WithinAuthority { s with appropriations := appropriations } := by
  refine ⟨fun j c hc k hk => ?_, h.proper, fun k a' ha' => (hceiling k a' ha').1, h.virements,
    fun k a' ha' => (hceiling k a' ha').2⟩
  obtain ⟨a, ha, horg, hgranted⟩ := h.granted j c hc k hk
  obtain ⟨a', ha', horg', hgranted'⟩ := hkept k a ha
  exact ⟨a', ha', horg'.trans horg, hgranted' hgranted⟩

theorem WithinAuthority.approveAppropriation (h : WithinAuthority s)
    {appropriationId approverId : UUID}
    (hrun : AppropriationService.approve appropriationId approverId s = .ok u s') :
    WithinAuthority s' := by
  obtain ⟨f, hf, rfl⟩ := AppropriationService.approve_eq_ok hrun
  refine h.withAppropriations (fun k a ha => ?_) fun k a' ha' => ?_
  · refine ⟨_, get?_modify_eq_some.mpr ⟨a, ha, rfl⟩, ?_⟩
    split_ifs
    · rw [hf]
      exact ⟨rfl, fun _ => .inl rfl⟩
    · exact ⟨rfl, id⟩
  · rcases get?_modify_cases ha' with ⟨-, hold⟩ | ⟨rfl, a, ha, rfl⟩
    · exact ⟨h.revised k a' hold, h.ceiling k a' hold⟩
    · rw [hf]
      exact ⟨h.revised k a ha, h.ceiling k a ha⟩

/-- **A virement** that fits. -/
theorem WithinAuthority.applyVirement (h : WithinAuthority s) {virementId : UUID}
    (hfits : VirementFits s virementId)
    (hrun : apply virementId s = .ok u s') : WithinAuthority s' := by
  obtain ⟨v, source, destination, f, hv, hsource, hdestination, horg, -, hf, rfl⟩ :=
    apply_eq_ok hrun
  obtain ⟨hne, hscale, hnonneg⟩ := h.virements _ v hv
  have hdrawn : v.amount ≤ source.revisedAmount - boundUnder s v.fromAppropriationId :=
    h.drawn_le hsource (horg ▸ hfits v hv)
  have hkeeps : WithinAuthority { s with
      appropriations :=
        (s.appropriations.modify v.fromAppropriationId
          (revise (-v.amount))).modify v.toAppropriationId
            (revise v.amount) } := by
    refine h.withAppropriations (fun k a ha => ?_) fun k a' ha' => ?_
    · refine ⟨_, get?_modify_eq_some.mpr ⟨_, get?_modify_eq_some.mpr ⟨a, ha, rfl⟩, rfl⟩, ?_⟩
      split_ifs <;> exact ⟨rfl, id⟩
    · rcases get?_modify_cases ha' with ⟨-, htaken⟩ | ⟨rfl, a, ha, rfl⟩
      · rcases get?_modify_cases htaken with ⟨-, hold⟩ | ⟨rfl, a, ha, rfl⟩
        · exact ⟨h.revised k a' hold, h.ceiling k a' hold⟩
        · obtain rfl := Option.mem_unique hsource ha
          refine ⟨(h.revised _ _ ha).add hscale.neg, ?_⟩
          change boundUnder s v.fromAppropriationId ≤ source.revisedAmount + -v.amount
          linarith
      · rw [get?_modify_of_ne hne.symm] at ha
        refine ⟨(h.revised _ _ ha).add hscale, ?_⟩
        change boundUnder s v.toAppropriationId ≤ a.revisedAmount + v.amount
        linarith [h.ceiling _ a ha]
  refine ⟨hkeeps.granted, hkeeps.proper, hkeeps.revised, h.virements.modify fun v' hv' => ?_,
    hkeeps.ceiling⟩
  rw [hf]
  exact h.virements _ v' hv'

/-! ### Runs -/

theorem NoAuthority.withinAuthority (h : NoAuthority s) : WithinAuthority s := by
  refine ⟨?_, ?_, ?_, ?_, fun k a hk => ?_⟩
  · rw [h.commitments]
    exact all_empty
  · rw [h.commitments]
    exact all_empty
  · rw [h.appropriations]
    exact all_empty
  · rw [h.virements]
    exact all_empty
  · rw [h.appropriations, get?_empty] at hk
    exact absurd hk (by simp)

/-- **One operation** that draws what fits keeps commitments within their authority. -/
theorem withinAuthority_after (h : WithinAuthority s) {op : BudgetOperation} (hscope : op.InScope)
    (hfits : op.Fits s) : WithinAuthority (op.after s) := by
  refine commit_induction (P := WithinAuthority) h fun u s' hrun => ?_
  have hcondition := hfits (returns_iff.mpr ⟨u, s', hrun⟩)
  cases op with
  | createAppropriation org data userId =>
    obtain ⟨k, hcreate, -⟩ := map_eq_ok.mp hrun
    exact h.createAppropriation hcreate
  | approveAppropriation appropriationId approverId => exact h.approveAppropriation hrun
  | commit org commitmentType input =>
    obtain ⟨k, hcreate, -⟩ := map_eq_ok.mp hrun
    exact h.createFrom hcondition hcreate
  | commitFromPo org poId input =>
    obtain ⟨k, hcreate, -⟩ := map_eq_ok.mp hrun
    exact h.createFrom hcondition hcreate
  | commitFromContract org contractId input =>
    obtain ⟨k, hcreate, -⟩ := map_eq_ok.mp hrun
    exact h.createFrom hcondition hcreate
  | obligate commitmentId amount =>
    obtain ⟨c, hc, hbounded, rfl⟩ := recordObligation_eq_ok hrun
    exact h.bounded hc hbounded
  | expend commitmentId amount =>
    obtain ⟨c, hc, hbounded, rfl⟩ := recordExpenditure_eq_ok hrun
    exact h.bounded hc (hbounded hscope)
  | cancel commitmentId amount =>
    obtain ⟨c, f, hc, hbounded, rfl⟩ := cancelCommitment_eq_ok hrun
    exact h.bounded hc (hbounded hscope)
  | createVirement org data userId virementNumber =>
    obtain ⟨k, hcreate, -⟩ := map_eq_ok.mp hrun
    obtain ⟨hne, hpos, rfl⟩ := create_eq_ok hcreate
    exact ⟨h.granted, h.proper, h.revised,
      h.virements.insert ⟨hne, atScale_halfUp 6 _, halfUp_nonneg hpos.le⟩, h.ceiling⟩
  | approveVirement virementId approverId =>
    obtain ⟨f, hf, rfl⟩ := approve_eq_ok hrun
    refine ⟨h.granted, h.proper, h.revised, h.virements.modify fun v hv => ?_, h.ceiling⟩
    rw [hf]
    exact h.virements _ v hv
  | applyVirement virementId => exact h.applyVirement hcondition hrun

/-- **Budget authority is a ceiling**: every run keeps the authority of every fund, and a run whose
draws fit binds no more under an appropriation than its revised amount. -/
theorem budget_authority_sound (s : BudgetStore) :
    (budgetSystem.Reachable s → ∀ fundId, revisedOf s fundId = approvedOf s fundId) ∧
    (budgetSystem.ReachableWithin (fun s op => op.InScope ∧ op.Fits s) s →
      ∀ k a, s.appropriations.get? k = some a → a.Granted →
        boundUnder s k ≤ a.revisedAmount) := by
  constructor
  · intro hs
    refine hs.invariant (P := FundsBalanced) (fun s₀ hinit fundId => ?_) ?_
    · rw [revisedOf, approvedOf, hinit.appropriations, sum_empty, sum_empty]
    · rintro s₁ op s₂ hs₁ rfl
      exact fundsBalanced_after hs₁ op
  · intro hs k a hk _
    have hwithin : WithinAuthority s := by
      refine hs.invariant (P := WithinAuthority) (fun s₀ hinit => hinit.withinAuthority) ?_
      rintro s₁ op s₂ hs₁ hallowed rfl
      exact withinAuthority_after hs₁ hallowed.1 hallowed.2
    exact hwithin.ceiling k a hk

/-! ### Two runs -/

def oneFund : BudgetStore where
  functionalCurrency := fun _ => "USD"
  funds := Table.empty.insert { organizationId := 1 }
  appropriations := Table.empty
  allotments := Table.empty
  commitments := Table.empty
  virements := Table.empty

theorem noAuthority_oneFund : NoAuthority oneFund := ⟨rfl, rfl, rfl⟩

def appropriated (code : String) (appropriationId : UUID) : List BudgetOperation :=
  [.createAppropriation 1 {
    fiscalYearId := 2024
    fundId := 0
    appropriationCode := code
    approvedAmount := 100
    currencyCode := "USD" } 7, .approveAppropriation appropriationId 8]

/-- A commitment under the first appropriation. -/
def committed (number : String) (amount : ℚ) : BudgetOperation :=
  .commit 1 .other {
    commitmentNumber := number
    fundId := 0
    accountId := 4
    amount
    currencyCode := "USD"
    createdByUserId := 7
    appropriationId := some 0 }

instance (s : BudgetStore) (org appropriationId : UUID) (amount : ℚ) :
    Decidable (DrawFits s org appropriationId amount) :=
  inferInstanceAs (Decidable (_ ≤ (_ : ℚ)))

instance (s : BudgetStore) (org : UUID) (input : CommitmentInput) :
    Decidable (CommitmentFits s org input) :=
  inferInstanceAs (Decidable (∀ k ∈ input.appropriationId,
    DrawFits s org k input.amount))

instance (s : BudgetStore) (virementId : UUID) : Decidable (VirementFits s virementId) :=
  inferInstanceAs (Decidable (∀ v ∈ s.virements.get? virementId, DrawFits s _ _ _))

instance (op : BudgetOperation) : Decidable op.InScope := by
  cases op with
  | obligate commitmentId amount => exact inferInstanceAs (Decidable (0 < amount))
  | expend commitmentId amount => exact inferInstanceAs (Decidable (0 < amount))
  | cancel commitmentId amount => exact inferInstanceAs (Decidable (∀ a ∈ amount, 0 < a))
  | createAppropriation | approveAppropriation | commit | commitFromPo | commitFromContract
  | createVirement | approveVirement | applyVirement => exact isTrue trivial

instance (s : BudgetStore) (op : BudgetOperation) : Decidable (op.Fits s) := by
  cases op with
  | commit org commitmentType input =>
    exact inferInstanceAs (Decidable (_ = _ → CommitmentFits s org input))
  | commitFromPo org poId input =>
    exact inferInstanceAs (Decidable (_ = _ → CommitmentFits s org input))
  | commitFromContract org contractId input =>
    exact inferInstanceAs (Decidable (_ = _ → CommitmentFits s org input))
  | applyVirement virementId =>
    exact inferInstanceAs (Decidable (_ = _ → VirementFits s virementId))
  | createAppropriation | approveAppropriation | obligate | expend | cancel | createVirement
  | approveVirement => exact isTrue fun _ => trivial

/-- Two appropriations, commitments with obligations, expenditures and cancellations, and a
virement of what is left. -/
def budgetYear : List BudgetOperation :=
  appropriated "A-1" 0 ++ appropriated "A-2" 1 ++
    [committed "C-1" 60, .obligate 0 40, .expend 0 10, .cancel 0 (some 5), committed "C-2" 20,
      .cancel 1 none, .createVirement 1 ⟨2024, 0, 1, 30, "USD"⟩ 7 "V-1", .approveVirement 0 8,
      .applyVirement 0, committed "C-3" 15]

theorem budget_authority_sound_sample :
    let s := System.after BudgetOperation.after oneFund budgetYear
    (s.appropriations.rows.map fun r => r.row.revisedAmount) = [70, 130] ∧
      revisedOf s 0 = approvedOf s 0 ∧ boundUnder s 0 ≤ 70 := by
  have hreached : budgetSystem.Reachable
      (System.after BudgetOperation.after oneFund budgetYear) :=
    System.reachable_after noAuthority_oneFund budgetYear
  have hrun : budgetSystem.ReachableWithin (fun s op => op.InScope ∧ op.Fits s)
      (System.after BudgetOperation.after oneFund budgetYear) :=
    System.reachableWithin_after noAuthority_oneFund (by decide +kernel)
  have hfirst : ((System.after BudgetOperation.after oneFund
      budgetYear).appropriations.get? 0).map (fun a => (a.status, a.revisedAmount)) =
        some (.approved, 70) := by
    decide +kernel
  obtain ⟨a, ha, hrow⟩ := Option.map_eq_some_iff.mp hfirst
  obtain ⟨hstatus, hrevised⟩ := Prod.mk.inj hrow
  have hceiling := (budget_authority_sound _).2 hrun 0 a ha (.inl hstatus)
  exact ⟨by decide +kernel, (budget_authority_sound _).1 hreached 0, hrevised ▸ hceiling⟩

/-- All of an appropriation is obligated, its commitment is cancelled, and all is committed
again. -/
def spentTwice : List BudgetOperation :=
  appropriated "A-1" 0 ++
    [committed "C-1" 100, .obligate 0 60, .cancel 0 none, committed "C-2" 100]

/-- **The obligation is spent again**: the commitments bind more than the appropriation has. -/
theorem cancelled_obligation_is_spent_again :
    ¬ ∀ s, budgetSystem.ReachableWithin (fun _ op => op.InScope) s →
      (∀ k a, s.appropriations.get? k = some a → a.Granted → boundUnder s k ≤ a.revisedAmount) ∧
        ∀ fundId, revisedOf s fundId = approvedOf s fundId := by
  intro h
  have hrun : budgetSystem.ReachableWithin (fun _ op => op.InScope)
      (System.after BudgetOperation.after oneFund spentTwice) :=
    System.reachableWithin_after noAuthority_oneFund (by decide +kernel)
  have hgranted : ((System.after BudgetOperation.after oneFund
      spentTwice).appropriations.get? 0).map (fun a => (a.status, a.revisedAmount)) =
        some (.approved, 100) := by
    decide +kernel
  obtain ⟨a, ha, hrow⟩ := Option.map_eq_some_iff.mp hgranted
  obtain ⟨hstatus, hrevised⟩ := Prod.mk.inj hrow
  have hceiling := (h _ hrun).1 0 a ha (.inl hstatus)
  rw [hrevised] at hceiling
  exact absurd hceiling (by decide +kernel)

end DotmacErp.Ipsas
