import DotmacErp.Ipsas.BudgetAuthority

/-!
# The amounts of a commitment

A commitment counts what was committed, obligated, expended and cancelled. Obligations include what
is expended, so the part that is neither obligated nor cancelled is what a further obligation may
use. A cancellation subtracts the expenditures as well, and an expenditure compares with the
obligated amount alone: a commitment that is paid in part keeps something it can neither cancel nor
give back, and one whose first obligation is paid counts as expended.

The amounts stay in their order over every run; what the statuses say, and what a cancellation
accepts, is right exactly when no call meets one of the two (`commitment_amounts_iff`).
-/

namespace DotmacErp.Ipsas

open Relational Session Table Rounding
open CommitmentService (cancelCommitment cancelSome getOr404 recordObligation recordExpenditure
  cancelAll createFrom_eq_ok createFrom newCommitment)

variable {s s' : BudgetStore} {c : Commitment} {k : UUID} {u : PUnit}

/-! ### Calls on one commitment -/

def Commitment.Open (c : Commitment) : Prop :=
  c.status ∉ [CommitmentStatus.expended, .cancelled, .lapsed]

instance : Decidable c.Open := inferInstanceAs (Decidable ¬ _)

/-- What is neither obligated nor cancelled. -/
def Commitment.unobligated (c : Commitment) : ℚ :=
  c.committedAmount - c.obligatedAmount - c.cancelledAmount

inductive CommitmentCall where
  | obligate (amount : ℚ)
  | expend (amount : ℚ)
  | cancel (amount : Option ℚ)

namespace CommitmentCall

def run (k : UUID) : CommitmentCall → BudgetSession PUnit
  | obligate amount => recordObligation k amount
  | expend amount => recordExpenditure k amount
  | cancel amount => cancelCommitment k amount

def Accepted (c : Commitment) : CommitmentCall → Prop
  | obligate amount => c.status ∈ [CommitmentStatus.committed, .obligated] ∧ amount ≤ c.unobligated
  | expend amount => c.status ∈ [CommitmentStatus.obligated, .partiallyPaid] ∧
      amount ≤ c.obligatedAmount - c.expendedAmount
  | cancel none => c.Open
  | cancel (some amount) => c.Open ∧ amount ≤ c.unobligated - c.expendedAmount

def effect : CommitmentCall → Commitment → Commitment
  | obligate amount => CommitmentService.obligate amount
  | expend amount => CommitmentService.expend amount
  | cancel none => cancelAll
  | cancel (some amount) => cancelSome amount

/-- The amount of the call is positive. -/
def Positive : CommitmentCall → Prop
  | obligate amount | expend amount => 0 < amount
  | cancel amount => ∀ a ∈ amount, 0 < a

/-- The call does not meet what the code gets wrong: a payment that completes the obligations
completes the commitment, nothing is expended when the whole is cancelled, and a part that is
cancelled does not reach into what the expenditures hide. -/
def Clean (c : Commitment) : CommitmentCall → Prop
  | obligate _ => True
  | expend amount => c.status ∈ [CommitmentStatus.obligated, .partiallyPaid] →
      c.expendedAmount + amount = c.obligatedAmount → c.unobligated = 0
  | cancel none => c.Open → c.expendedAmount = 0
  | cancel (some amount) => c.Open → amount ≤ c.unobligated →
      amount ≤ c.unobligated - c.expendedAmount

instance (call : CommitmentCall) : Decidable call.Positive := by
  cases call with
  | obligate amount => exact inferInstanceAs (Decidable (0 < amount))
  | expend amount => exact inferInstanceAs (Decidable (0 < amount))
  | cancel amount => exact inferInstanceAs (Decidable (∀ a ∈ amount, 0 < a))

instance (call : CommitmentCall) : Decidable (call.Clean c) := by
  cases call with
  | obligate => exact isTrue trivial
  | expend amount => exact inferInstanceAs (Decidable (_ → _ → _ = (0 : ℚ)))
  | cancel amount =>
    cases amount with
    | none => exact inferInstanceAs (Decidable (c.Open → _ = (0 : ℚ)))
    | some amount => exact inferInstanceAs (Decidable (c.Open → amount ≤ _ → amount ≤ _))

/-- **A call returns** exactly when the commitment is there and accepts it. -/
theorem run_eq_ok_iff (call : CommitmentCall) : call.run k s = .ok u s' ↔
    ∃ c, s.commitments.get? k = some c ∧ call.Accepted c ∧
      s' = { s with commitments := s.commitments.modify k call.effect } := by
  cases call with
  | obligate amount =>
    rw [run, recordObligation, get_bind, getOr404,
      orRaise_bind]
    simp only [refuse_bind, set_eq_ok, not_not, not_lt, Accepted, and_assoc]
    rfl
  | expend amount =>
    rw [run, recordExpenditure, get_bind, getOr404,
      orRaise_bind]
    simp only [refuse_bind, set_eq_ok, not_not, not_lt, Accepted, and_assoc]
    rfl
  | cancel amount =>
    rw [run, cancelCommitment, get_bind, getOr404,
      orRaise_bind]
    cases amount with
    | none =>
      simp only [refuse_bind, set_eq_ok, Accepted]
      rfl
    | some amount =>
      have havailable : ∀ c : Commitment, c.committedAmount - c.obligatedAmount -
          c.expendedAmount - c.cancelledAmount = c.unobligated - c.expendedAmount := by
        intro c
        rw [Commitment.unobligated]
        ring
      simp only [refuse_bind, set_eq_ok, not_lt, Accepted, and_assoc, havailable]
      rfl

end CommitmentCall

/-! ### What holds of a commitment -/

/-- What is spent is obligated, and what is obligated is committed and not cancelled. -/
def Commitment.Ordered (c : Commitment) : Prop :=
  0 ≤ c.expendedAmount ∧ c.expendedAmount ≤ c.obligatedAmount ∧
    c.obligatedAmount ≤ c.committedAmount - c.cancelledAmount

/-- The status says what is left: nothing when all is expended, and what was obligated when the
commitment was cancelled. -/
def Commitment.Settled (c : Commitment) : Prop :=
  (c.status = .expended → c.expendedAmount = c.committedAmount - c.cancelledAmount) ∧
    (c.status = .cancelled → c.committedAmount - c.cancelledAmount = c.obligatedAmount)

/-- A stored commitment in order: nothing beyond what it was made for. -/
structure Commitment.Sound (c : Commitment) : Prop where
  committed : AtScale 6 c.committedAmount
  obligated : AtScale 6 c.obligatedAmount
  expended : AtScale 6 c.expendedAmount
  cancelled : AtScale 6 c.cancelledAmount
  ordered : c.Ordered

/-- **A call keeps the amounts in their order.** -/
theorem Commitment.Sound.effect (h : c.Sound) {call : CommitmentCall} (hpos : call.Positive)
    (haccepted : call.Accepted c) : (call.effect c).Sound := by
  obtain ⟨hspent, hpaid, hcovered⟩ := h.ordered
  cases call with
  | obligate amount =>
    have hadded : 0 < amount := hpos
    have hle : amount ≤ c.committedAmount - c.obligatedAmount - c.cancelledAmount := haccepted.2
    have hlow : c.expendedAmount ≤ c.obligatedAmount + amount := by linarith
    have hhigh : c.obligatedAmount + amount ≤ c.committedAmount - c.cancelledAmount := by linarith
    exact ⟨h.committed, atScale_halfUp 6 _, h.expended, h.cancelled, hspent,
      le_halfUp_of_le h.expended hlow, halfUp_le_of_le (h.committed.sub h.cancelled) hhigh⟩
  | expend amount =>
    have hadded : 0 < amount := hpos
    have hle : c.expendedAmount + amount ≤ c.obligatedAmount := by linarith [haccepted.2]
    exact ⟨h.committed, h.obligated, atScale_halfUp 6 _, h.cancelled,
      halfUp_nonneg (by linarith), halfUp_le_of_le h.obligated hle, hcovered⟩
  | cancel amount =>
    cases amount with
    | none =>
      refine ⟨h.committed, h.obligated, h.expended,
        (h.committed.sub h.obligated).sub h.expended, hspent, hpaid, ?_⟩
      change c.obligatedAmount ≤
        c.committedAmount - (c.committedAmount - c.obligatedAmount - c.expendedAmount)
      linarith
    | some amount =>
      have hle : amount ≤ c.committedAmount - c.obligatedAmount - c.cancelledAmount -
        c.expendedAmount := haccepted.2
      refine ⟨h.committed, h.obligated, h.expended, atScale_halfUp 6 _, hspent, hpaid, ?_⟩
      have hrounded : halfUp 6 (c.cancelledAmount + amount) ≤
          c.committedAmount - c.obligatedAmount :=
        halfUp_le_of_le (h.committed.sub h.obligated) (by linarith)
      change c.obligatedAmount ≤ c.committedAmount - halfUp 6 (c.cancelledAmount + amount)
      linarith

/-- **A call leaves the commitment settled** exactly when it is clean. -/
theorem Commitment.Sound.settled_effect_iff (h : c.Sound) {call : CommitmentCall}
    (hwhole : ∀ a, call ≠ .cancel (some a)) :
    (call.Accepted c → (call.effect c).Settled) ↔ call.Clean c := by
  cases call with
  | obligate amount =>
    have hstatus : (CommitmentService.obligate amount c).status = .obligated := rfl
    refine ⟨fun _ => trivial, fun _ _ => ⟨fun hs => ?_, fun hs => ?_⟩⟩ <;>
      exact absurd (hstatus.symm.trans hs) (by decide)
  | expend amount =>
    have hexpended : (CommitmentService.expend amount c).status = .expended ↔
        c.obligatedAmount ≤ c.expendedAmount + amount := by
      rw [CommitmentService.expend]
      split_ifs with hpaid <;> simp [hpaid]
    have hcancelled : (CommitmentService.expend amount c).status ≠ .cancelled := by
      rw [CommitmentService.expend]
      split_ifs <;> simp
    have hremainder : c.obligatedAmount = c.committedAmount - c.cancelledAmount ↔
        c.unobligated = 0 := by
      rw [Commitment.unobligated]
      constructor <;> intro heq <;> linarith
    have hsettled : c.expendedAmount + amount = c.obligatedAmount →
        ((CommitmentService.expend amount c).expendedAmount =
          c.committedAmount - c.cancelledAmount ↔ c.unobligated = 0) := by
      intro hpaid
      rw [← hremainder]
      change halfUp 6 (c.expendedAmount + amount) = _ ↔ _
      rw [hpaid, halfUp_of_atScale h.obligated]
    constructor
    · intro hkeeps hstatus hpaid
      exact (hsettled hpaid).mp ((hkeeps ⟨hstatus, by linarith⟩).1 (hexpended.mpr hpaid.ge))
    · intro hclean haccepted
      refine ⟨fun hs => ?_, fun hs => absurd hs hcancelled⟩
      have hpaid : c.expendedAmount + amount = c.obligatedAmount :=
        le_antisymm (by linarith [haccepted.2]) (hexpended.mp hs)
      exact (hsettled hpaid).mpr (hclean haccepted.1 hpaid)
  | cancel amount =>
    cases amount with
    | some a => exact absurd rfl (hwhole a)
    | none =>
      have hstatus : (cancelAll c).status = .cancelled := rfl
      have hleft : c.committedAmount - (c.committedAmount - c.obligatedAmount - c.expendedAmount) =
          c.obligatedAmount ↔ c.expendedAmount = 0 := by
        constructor <;> intro heq <;> linarith
      constructor
      · exact fun hkeeps hopen => hleft.mp ((hkeeps hopen).2 rfl)
      · exact fun hclean hopen => ⟨fun hs => absurd (hstatus.symm.trans hs) (by decide),
          fun _ => hleft.mpr (hclean hopen)⟩

theorem settled_cancelSome {a : ℚ} (hopen : c.Open) :
    (cancelSome a c).Settled := by
  have hstatus : (cancelSome a c).status = c.status := rfl
  refine ⟨fun hs => absurd ?_ hopen, fun hs => absurd ?_ hopen⟩ <;> rw [← hstatus, hs] <;> decide

/-! ### Runs -/

/-- The calls of a run on commitments. -/
inductive CommitmentOperation where
  | create (commitmentType : CommitmentType) (sourceType : String)
      (sourceId org : UUID) (input : CommitmentService.CommitmentInput)
  | on (k : UUID) (call : CommitmentCall)

namespace CommitmentOperation

def run : CommitmentOperation → BudgetSession PUnit
  | create commitmentType sourceType sourceId org input => (fun _ => ⟨⟩) <$>
      createFrom commitmentType sourceType sourceId org input
  | on k call => call.run k

def after (s : BudgetStore) (op : CommitmentOperation) : BudgetStore := commit op.run s

def Positive : CommitmentOperation → Prop
  | create .. => True
  | on _ call => call.Positive

/-- The call is clean of the commitment it is about. -/
def Clean (s : BudgetStore) : CommitmentOperation → Prop
  | create .. => True
  | on k call => ∀ c ∈ s.commitments.get? k, call.Clean c

/-- A part is cancelled exactly when the commitment is open and that much is neither obligated nor
cancelled. -/
def CancelsExactly (s : BudgetStore) : CommitmentOperation → Prop
  | on k (.cancel (some a)) => returns (cancelCommitment k (some a)) s = true ↔
      ∃ c, s.commitments.get? k = some c ∧ c.Open ∧ a ≤ c.unobligated
  | _ => True

instance (op : CommitmentOperation) : Decidable op.Positive := by
  cases op with
  | create => exact isTrue trivial
  | on k call => exact inferInstanceAs (Decidable call.Positive)

instance (op : CommitmentOperation) : Decidable (op.Clean s) := by
  cases op with
  | create => exact isTrue trivial
  | on k call => exact inferInstanceAs (Decidable (∀ c ∈ s.commitments.get? k, call.Clean c))

end CommitmentOperation

/-- The calls on commitments, with any funds and appropriations. -/
def commitmentSystem : System BudgetStore CommitmentOperation :=
  System.ofFunction (fun s => s.commitments = Table.empty) CommitmentOperation.after

open CommitmentOperation

/-- **One operation** keeps the amounts of every commitment in their order. -/
theorem sound_after (h : s.commitments.All Commitment.Sound) {op : CommitmentOperation}
    (hpos : op.Positive) : (op.after s).commitments.All Commitment.Sound := by
  refine commit_induction (P := fun s :
    BudgetStore => s.commitments.All Commitment.Sound) h fun u s' hrun => ?_
  cases op with
  | create commitmentType sourceType sourceId org input =>
    obtain ⟨i, hcreate, -⟩ := map_eq_ok.mp hrun
    obtain ⟨hamount, -, rfl⟩ := createFrom_eq_ok hcreate
    refine h.insert ⟨atScale_halfUp 6 _, atScale_zero 6, atScale_zero 6, atScale_zero 6,
      le_refl 0, le_refl 0, ?_⟩
    change 0 ≤ halfUp 6 input.amount - 0
    rw [sub_zero]
    exact halfUp_nonneg hamount.le
  | on k call =>
    obtain ⟨c, hc, haccepted, rfl⟩ := (CommitmentCall.run_eq_ok_iff call).mp hrun
    refine h.modify fun c' hc' => ?_
    obtain rfl := Option.mem_unique hc hc'
    exact (h k c hc).effect hpos haccepted

/-- **One clean operation** keeps every commitment settled, and an accepted one that is not clean
does not. -/
theorem settled_after_iff (hsound : s.commitments.All Commitment.Sound)
    (h : s.commitments.All Commitment.Settled) (op : CommitmentOperation) :
    op.CancelsExactly s ∧ (op.after s).commitments.All Commitment.Settled ↔ op.Clean s := by
  cases op with
  | create commitmentType sourceType sourceId org input =>
    refine ⟨fun _ => trivial, fun _ => ⟨trivial, ?_⟩⟩
    refine commit_induction (P := fun s : BudgetStore => s.commitments.All Commitment.Settled) h
      fun u s' hrun => ?_
    obtain ⟨i, hcreate, -⟩ := map_eq_ok.mp hrun
    obtain ⟨-, -, rfl⟩ := createFrom_eq_ok hcreate
    have hstatus : (newCommitment commitmentType sourceType sourceId
      org input).status = .committed := rfl
    refine h.insert ⟨fun hs => ?_, fun hs => ?_⟩ <;>
      exact absurd (hstatus.symm.trans hs) (by decide)
  | on k call =>
    have hreturns : returns (call.run k) s = true ↔
        ∃ c, s.commitments.get? k = some c ∧ call.Accepted c := by
      simp only [returns_iff, CommitmentCall.run_eq_ok_iff]
      exact ⟨fun ⟨_, _, c, hc, ha, _⟩ => ⟨c, hc, ha⟩, fun ⟨c, hc, ha⟩ => ⟨⟨⟩, _, c, hc, ha, rfl⟩⟩
    have hkeeps : ((on k call).after s).commitments.All Commitment.Settled ↔
        ∀ c ∈ s.commitments.get? k, call.Accepted c → (call.effect c).Settled := by
      constructor
      · intro hall c hc haccepted
        have hafter : (on k call).after s =
            { s with commitments := s.commitments.modify k call.effect } :=
          commit_of_ok (a := ⟨⟩) ((CommitmentCall.run_eq_ok_iff call).mpr ⟨c, hc, haccepted, rfl⟩)
        rw [hafter] at hall
        exact hall k _ (get?_modify_eq_some.mpr ⟨c, hc, (if_pos rfl).symm⟩)
      · intro hcall
        refine commit_induction (P := fun s : BudgetStore => s.commitments.All Commitment.Settled) h
          fun u s' hrun => ?_
        obtain ⟨c, hc, haccepted, rfl⟩ := (CommitmentCall.run_eq_ok_iff call).mp hrun
        refine h.modify fun c' hc' => ?_
        obtain rfl := Option.mem_unique hc hc'
        exact hcall c hc haccepted
    rw [hkeeps]
    by_cases hwhole : ∀ a, call ≠ .cancel (some a)
    · have hexact : (on k call).CancelsExactly s := by
        cases call with
        | obligate | expend => trivial
        | cancel amount =>
          cases amount with
          | none => trivial
          | some a => exact absurd rfl (hwhole a)
      rw [and_iff_right hexact]
      exact forall₂_congr fun c hc => (hsound k c hc).settled_effect_iff hwhole
    · push Not at hwhole
      obtain ⟨a, rfl⟩ := hwhole
      have hsettled : ∀ c ∈ s.commitments.get? k, (CommitmentCall.cancel (some a)).Accepted c →
          ((CommitmentCall.cancel (some a)).effect c).Settled :=
        fun c _ haccepted => settled_cancelSome haccepted.1
      rw [and_iff_left hsettled]
      change (returns ((CommitmentCall.cancel (some a)).run k) s = true ↔ _) ↔ _
      rw [hreturns]
      constructor
      · intro hexact c hc hopen hle
        obtain ⟨c', hc', haccepted⟩ := hexact.mpr ⟨c, hc, hopen, hle⟩
        obtain rfl := Option.mem_unique hc hc'
        exact haccepted.2
      · intro hclean
        constructor
        · rintro ⟨c, hc, hopen, hle⟩
          have hspent := (hsound k c hc).ordered.1
          exact ⟨c, hc, hopen, by linarith⟩
        · rintro ⟨c, hc, hopen, hle⟩
          exact ⟨c, hc, hopen, hclean c hc hopen hle⟩

/-- **The amounts of commitments**: over every run they are in their order, and as long as every
call is clean the statuses say what is left, and a further call keeps that, and cancels exactly what
it may, if and only if it is clean. -/
theorem commitment_amounts_iff (s : BudgetStore) :
    (commitmentSystem.ReachableWithin (fun _ op => op.Positive) s →
      s.commitments.All Commitment.Ordered) ∧
    (commitmentSystem.ReachableWithin (fun s op => op.Positive ∧ op.Clean s) s →
      s.commitments.All Commitment.Settled ∧ ∀ op : CommitmentOperation, op.Positive →
        (op.CancelsExactly s ∧ (op.after s).commitments.All Commitment.Settled ↔ op.Clean s)) := by
  constructor
  · intro hs
    have hsound : s.commitments.All Commitment.Sound := by
      refine hs.invariant (P := fun s => s.commitments.All Commitment.Sound) ?_ ?_
      · intro s₀ hinit
        rw [show s₀.commitments = Table.empty from hinit]
        exact all_empty
      · rintro s₁ op s₂ hs₁ hpos rfl
        exact sound_after hs₁ hpos
    exact hsound.imp fun c hc => hc.ordered
  · intro hs
    have hboth : s.commitments.All Commitment.Sound ∧ s.commitments.All Commitment.Settled := by
      refine hs.invariant (P := fun s => s.commitments.All Commitment.Sound ∧
        s.commitments.All Commitment.Settled) ?_ ?_
      · intro s₀ hinit
        rw [show s₀.commitments = Table.empty from hinit]
        exact ⟨all_empty, all_empty⟩
      · rintro s₁ op s₂ ⟨hsound, hsettled⟩ ⟨hpos, hclean⟩ rfl
        exact ⟨sound_after hsound hpos, ((settled_after_iff hsound hsettled op).mpr hclean).2⟩
    exact ⟨hboth.2, fun op _ => settled_after_iff hboth.1 hboth.2 op⟩

/-! ### Two runs -/

def hundredCommitted : CommitmentOperation :=
  .create .other "manual" 1 1 {
    commitmentNumber := "C-1"
    fundId := 0
    accountId := 4
    amount := 100
    currencyCode := "USD"
    createdByUserId := 7 }

/-- Half is obligated, a tenth cancelled, the rest obligated and paid in two parts. -/
def paidOff : List CommitmentOperation :=
  [hundredCommitted, .on 0 (.obligate 50), .on 0 (.cancel (some 10)), .on 0 (.obligate 40),
    .on 0 (.expend 60), .on 0 (.expend 30)]

theorem commitment_amounts_iff_sample :
    let s := System.after CommitmentOperation.after oneFund paidOff
    s.commitments.All Commitment.Ordered ∧ s.commitments.All Commitment.Settled := by
  have hrun : commitmentSystem.ReachableWithin (fun s op => op.Positive ∧ op.Clean s)
      (System.after CommitmentOperation.after oneFund paidOff) :=
    System.reachableWithin_after rfl (by decide +kernel)
  have hpositive : commitmentSystem.ReachableWithin (fun _ op => op.Positive)
      (System.after CommitmentOperation.after oneFund paidOff) :=
    System.reachableWithin_after rfl (by decide +kernel)
  exact ⟨(commitment_amounts_iff _).1 hpositive, ((commitment_amounts_iff _).2 hrun).1⟩

def firstPaid : List CommitmentOperation :=
  [hundredCommitted, .on 0 (.obligate 60), .on 0 (.expend 60)]

/-- **A paid obligation closes the commitment**: forty were never obligated, and nothing more can
be obligated or cancelled. -/
theorem first_payment_closes :
    ¬ ∀ s, commitmentSystem.ReachableWithin (fun _ op => op.Positive) s →
      s.commitments.All Commitment.Ordered ∧ s.commitments.All Commitment.Settled ∧
        ∀ op : CommitmentOperation, op.Positive → op.CancelsExactly s := by
  intro h
  have hrun : commitmentSystem.ReachableWithin (fun _ op => op.Positive)
      (System.after CommitmentOperation.after oneFund firstPaid) :=
    System.reachableWithin_after rfl (by decide +kernel)
  have hrow : ((System.after CommitmentOperation.after oneFund
      firstPaid).commitments.get? 0).map (fun c => (c.status, c.expendedAmount,
        c.committedAmount - c.cancelledAmount)) = some (.expended, 60, 100) := by
    decide +kernel
  obtain ⟨c, hc, hrow⟩ := Option.map_eq_some_iff.mp hrow
  obtain ⟨hstatus, hamounts⟩ := Prod.mk.inj hrow
  obtain ⟨hexpended, hleft⟩ := Prod.mk.inj hamounts
  have hsettled := ((h _ hrun).2.1 0 c hc).1 hstatus
  rw [hexpended, hleft] at hsettled
  exact absurd hsettled (by norm_num)

end DotmacErp.Ipsas
