import DotmacErp.Platform.ApprovalWorkflow
import Mathlib.Data.Finset.Card
import Mathlib.Data.Finset.Dedup

/-!
# What an approval stands for

An approved request should have been approved on every level, by as many different and eligible
users as the level asks for (`Sound`), and a pending one should still be open to approval
(`Unwedged`): a level that already has its approvals refuses every further one, so a request that
stays on such a level can never be approved.

Both are kept by every commit of `approve` that is `Undisturbed` by the commits made since the
call's reading. An approval that leaves its level open must not complete it together with the
others, nor be the second one of its user; one that moves the request on must not move it back.
The service locks nothing and checks none of this when it commits, and both properties are lost
(`approval_disturbed`).

The invariant of the store is `Progress`, and what a call knows between its reading and its
commit is `Backed`; since approvals are only ever added, other calls leave it true
(`Backed.grows`).
-/

namespace DotmacErp.Approval

open Relational Session Program ApprovalWorkflowService

variable {s s' : ApprovalStore} {k : UUID}

def approvers (s : ApprovalStore) (k : UUID) (level : ℕ) : List UUID :=
  (existingApprovals (s.decisionsOf k) level).map ApprovalDecision.approverUserId

abbrev Eligible (s : ApprovalStore) (c : ApprovalLevel) (u : UUID) : Prop :=
  isUserAllowedForLevel s u c = none

def LevelMet (s : ApprovalStore) (k : UUID) (level : ℕ) (c : ApprovalLevel) : Prop :=
  c.required ≤ ((approvers s k level).toFinset.filter (Eligible s c)).card

/-- An approved request is approved on every level. -/
def Sound (s : ApprovalStore) : Prop :=
  ∀ k request workflow, s.requests.get? k = some request →
    s.workflows.get? request.workflowId = some workflow → request.status = .approved →
      ∀ i c, workflow.approvalLevels[i]? = some c → LevelMet s k (i + 1) c

/-- No pending request has all the approvals of its level. -/
def Unwedged (s : ApprovalStore) : Prop :=
  ∀ k request workflow c, s.requests.get? k = some request →
    s.workflows.get? request.workflowId = some workflow → request.status = .pending →
      workflow.approvalLevels[request.currentLevel - 1]? = some c →
        (existingApprovals (s.decisionsOf k) request.currentLevel).length < c.required

/-- The commit of an approval goes undisturbed by those made since the call read the request.
While the request is pending: when the approval leaves its level open by the call's own count,
and the request is still on it, the user has not approved there since, and the level is left open
by the count in the store too; when the approval moves the request on, the request has not gone
beyond the next level. -/
def Undisturbed (pc : ApprovalPc) (s : ApprovalStore) : Prop :=
  match pc with
  | .approving a => ∀ request ∈ s.requests.get? a.requestId, request.status = .pending →
      (a.existing + 1 < a.requiredCount → request.currentLevel = a.level →
        a.approverUserId ∉ approvers s a.requestId a.level ∧
          (approvers s a.requestId a.level).length + 1 < a.requiredCount) ∧
      (a.requiredCount ≤ a.existing + 1 → a.level < a.totalLevels →
        request.currentLevel ≤ a.level + 1)
  | .rejecting _ | .cancelling _ _ => True

instance (pc : ApprovalPc) (s : ApprovalStore) : Decidable (Undisturbed pc s) :=
  match pc with
  | .approving a => inferInstanceAs (Decidable (∀ request ∈ s.requests.get? a.requestId, _))
  | .rejecting _ | .cancelling _ _ => inferInstanceAs (Decidable True)

/-! ### Decisions and requests after a commit -/

theorem decisionsOf_insert (d : ApprovalDecision) :
    ({ s with decisions := s.decisions.insert d } : ApprovalStore).decisionsOf k =
      s.decisionsOf k ++ if d.requestId = k then [d] else [] := by
  simp only [ApprovalStore.decisionsOf, Table.select, Table.insert, List.filter_append,
    List.map_append]
  by_cases h : d.requestId = k <;> simp [h]

theorem existingApprovals_append (ds : List ApprovalDecision) (d : ApprovalDecision) (l : ℕ) :
    existingApprovals (ds ++ [d]) l =
      existingApprovals ds l ++ if d.level = l ∧ d.action = .approve then [d] else [] := by
  simp only [existingApprovals, List.filter_append]
  by_cases h : d.level = l ∧ d.action = .approve <;> simp_all

theorem approvers_approve (a : Approving) (l : ℕ) :
    approvers (a.commit s) k l =
      approvers s k l ++ if a.requestId = k ∧ a.level = l then [a.approverUserId] else [] := by
  have hds : (a.commit s).decisionsOf k =
      s.decisionsOf k ++ if a.requestId = k then [a.decision] else [] :=
    decisionsOf_insert a.decision
  rw [approvers, hds]
  by_cases hk : a.requestId = k
  · rw [if_pos hk, existingApprovals_append]
    by_cases hl : a.level = l <;> simp [hk, hl, approvers, Approving.decision]
  · simp [hk, approvers]

theorem approvers_reject (r : Rejecting) (l : ℕ) :
    approvers (r.commit s) k l = approvers s k l := by
  have hds : (r.commit s).decisionsOf k =
      s.decisionsOf k ++ if r.requestId = k then [r.decision] else [] :=
    decisionsOf_insert r.decision
  rw [approvers, hds]
  by_cases hk : r.requestId = k
  · rw [if_pos hk, existingApprovals_append]
    simp [approvers, Rejecting.decision]
  · simp [hk, approvers]

theorem length_approvers (s : ApprovalStore) (k : UUID) (l : ℕ) :
    (approvers s k l).length = (existingApprovals (s.decisionsOf k) l).length :=
  List.length_map _

theorem ApprovalLevel.required_pos (c : ApprovalLevel) : 0 < c.required := by
  rw [ApprovalLevel.required]
  omega

theorem approvers_of_none (h : s.decisionsOf k = []) (l : ℕ) : approvers s k l = [] := by
  rw [approvers, h]
  rfl

/-! ### Growth -/

/-- What every commit of the service keeps: approvals stay, and a request that is pending has
been pending and has not gone back. -/
structure Grows (s s' : ApprovalStore) : Prop where
  workflows : s'.workflows = s.workflows
  eligible : ∀ c u, Eligible s' c u ↔ Eligible s c u
  approvers : ∀ k l u, u ∈ approvers s k l → u ∈ approvers s' k l
  requests : ∀ k request, s.requests.get? k = some request →
    ∃ request', s'.requests.get? k = some request' ∧ request'.workflowId = request.workflowId ∧
      (request'.status = .pending →
        request.status = .pending ∧ request.currentLevel ≤ request'.currentLevel)

theorem Grows.refl (s : ApprovalStore) : Grows s s where
  workflows := rfl
  eligible := fun _ _ => Iff.rfl
  approvers := fun _ _ _ h => h
  requests := fun _ request h => ⟨request, h, rfl, fun hp => ⟨hp, le_rfl⟩⟩

variable {c : ApprovalLevel}

theorem LevelMet.grows {l : ℕ} (h : LevelMet s k l c) (hg : Grows s s') :
    LevelMet s' k l c := by
  refine le_trans h (Finset.card_le_card fun u hu => ?_)
  simp only [Finset.mem_filter, List.mem_toFinset] at hu ⊢
  exact ⟨hg.approvers k l u hu.1, (hg.eligible c u).mpr hu.2⟩

theorem LevelMet.of_users {l : ℕ} {users : Finset UUID} {u : UUID}
    (hcount : c.required ≤ users.card + 1) (hu : u ∉ users)
    (husers : ∀ v ∈ users, v ∈ approvers s k l ∧ Eligible s c v)
    (hnew : u ∈ approvers s k l) (heligible : Eligible s c u) : LevelMet s k l c := by
  have hcard : (insert u users).card = users.card + 1 := Finset.card_insert_of_notMem hu
  rw [LevelMet]
  refine le_trans (hcount.trans hcard.symm.le) (Finset.card_le_card fun v hv => ?_)
  rw [Finset.mem_filter, List.mem_toFinset]
  rcases Finset.mem_insert.mp hv with rfl | hv
  · exact ⟨hnew, heligible⟩
  · exact husers v hv

/-! ### The invariant -/

structure Progress (s : ApprovalStore) (k : UUID) (request : ApprovalRequest)
    (workflow : ApprovalWorkflow) : Prop where
  positive : 1 ≤ request.currentLevel
  passed : ∀ i c, i + 1 < request.currentLevel → workflow.approvalLevels[i]? = some c →
    LevelMet s k (i + 1) c
  approved : request.status = .approved → ∀ i c, workflow.approvalLevels[i]? = some c →
    LevelMet s k (i + 1) c
  current : request.status = .pending →
    ∀ c, workflow.approvalLevels[request.currentLevel - 1]? = some c →
      (approvers s k request.currentLevel).Nodup ∧
        (∀ u ∈ approvers s k request.currentLevel, Eligible s c u) ∧
          (approvers s k request.currentLevel).length < c.required
  ahead : request.status = .pending → ∀ l, request.currentLevel < l → approvers s k l = []

/-- Every request has come as far as its approvals say, and decisions are on requests. -/
structure InProgress (s : ApprovalStore) : Prop where
  progress : ∀ k request, s.requests.get? k = some request →
    ∃ workflow, s.workflows.get? request.workflowId = some workflow ∧
      Progress s k request workflow
  known : ∀ k, s.requests.get? k = none → s.decisionsOf k = []

/-- What `approve` has read of a request, seen from a later store. -/
structure BackedBy (s : ApprovalStore) (a : Approving) (request : ApprovalRequest)
    (workflow : ApprovalWorkflow) (c : ApprovalLevel) : Prop where
  positive : 1 ≤ a.level
  requiredCount : a.requiredCount = c.required
  totalLevels : a.totalLevels = workflow.approvalLevels.length
  behind : request.status = .pending → a.level ≤ request.currentLevel
  passed : ∀ i c', i + 1 < a.level → workflow.approvalLevels[i]? = some c' →
    LevelMet s a.requestId (i + 1) c'
  users : ∃ users : Finset UUID, a.existing ≤ users.card ∧ a.approverUserId ∉ users ∧
    ∀ v ∈ users, v ∈ approvers s a.requestId a.level ∧ Eligible s c v
  eligible : Eligible s c a.approverUserId

/-- What a call goes by between its reading and its commit. -/
def Backed (s : ApprovalStore) : ApprovalPc → Prop
  | .approving a => ∃ request workflow c, s.requests.get? a.requestId = some request ∧
      s.workflows.get? request.workflowId = some workflow ∧
        workflow.approvalLevels[a.level - 1]? = some c ∧ BackedBy s a request workflow c
  | .rejecting r => (s.requests.get? r.requestId).isSome
  | .cancelling _ _ => True

variable {pc : ApprovalPc}

theorem Backed.grows (h : Backed s pc) (hg : Grows s s') : Backed s' pc := by
  cases pc with
  | approving a =>
    obtain ⟨request, workflow, c, hrequest, hworkflow, hc, hb⟩ := h
    obtain ⟨request', hrequest', hid, hstatus⟩ := hg.requests _ _ hrequest
    refine ⟨request', workflow, c, hrequest', ?_, hc, ?_⟩
    · rw [hg.workflows, hid]
      exact hworkflow
    · obtain ⟨users, hcard, hnot, husers⟩ := hb.users
      exact {
        positive := hb.positive
        requiredCount := hb.requiredCount
        totalLevels := hb.totalLevels
        behind := fun hp => (hb.behind (hstatus hp).1).trans (hstatus hp).2
        passed := fun i c' hi hc' => (hb.passed i c' hi hc').grows hg
        users := ⟨users, hcard, hnot, fun v hv =>
          ⟨hg.approvers _ _ v (husers v hv).1, (hg.eligible c v).mpr (husers v hv).2⟩⟩
        eligible := (hg.eligible c _).mpr hb.eligible }
  | rejecting r =>
    obtain ⟨request, hrequest⟩ := Option.isSome_iff_exists.mp h
    obtain ⟨request', hrequest', -⟩ := hg.requests _ _ hrequest
    exact Option.isSome_iff_exists.mpr ⟨request', hrequest'⟩
  | cancelling => trivial

/-! ### What the calls do -/

theorem flush_cases (a : Approving) (request : ApprovalRequest) :
    (a.existing + 1 < a.requiredCount ∧ a.flush request = request) ∨
      (a.requiredCount ≤ a.existing + 1 ∧ a.totalLevels ≤ a.level ∧ a.flush request =
        { request with status := .approved, finalApproverUserId := some a.approverUserId }) ∨
      (a.requiredCount ≤ a.existing + 1 ∧ a.level < a.totalLevels ∧
        a.flush request = { request with currentLevel := a.level + 1 }) := by
  by_cases hfull : a.requiredCount ≤ a.existing + 1
  · by_cases hlast : a.totalLevels ≤ a.level
    · exact .inr (.inl ⟨hfull, hlast, by simp [Approving.flush, hfull, hlast]⟩)
    · exact .inr (.inr ⟨hfull, by omega, by simp [Approving.flush, hfull, hlast]⟩)
  · exact .inl ⟨by omega, by simp [Approving.flush, hfull]⟩

theorem grows_close {f : ApprovalRequest → ApprovalRequest}
    (hworkflows : s'.workflows = s.workflows) (heligible : ∀ c u, Eligible s' c u ↔ Eligible s c u)
    (happrovers : ∀ k l, approvers s' k l = approvers s k l)
    (hrequests : s'.requests = s.requests.modify k f)
    (hf : ∀ request, (f request).workflowId = request.workflowId ∧
      (f request).status ≠ .pending) : Grows s s' where
  workflows := hworkflows
  eligible := heligible
  approvers := fun k l u hu => by rwa [happrovers]
  requests := by
    intro k' request h
    rw [hrequests, Table.get?_modify]
    by_cases hk : k' = k
    · subst hk
      exact ⟨f request, by simp [h], (hf request).1, fun hp => absurd hp (hf request).2⟩
    · exact ⟨request, by simp [hk, h], rfl, fun hp => ⟨hp, le_rfl⟩⟩

variable {a : Approving}

theorem grows_approve (h : Undisturbed (.approving a) s) :
    Grows s (a.commit s) where
  workflows := rfl
  eligible := fun _ _ => Iff.rfl
  approvers := fun k l u hu => by
    rw [approvers_approve]
    exact List.mem_append_left _ hu
  requests := by
    intro k request hrequest
    have hget : (a.commit s).requests.get? k =
        if k = a.requestId then some (a.flush request) else some request := by
      rw [Approving.commit, Table.get?_modify]
      split_ifs with hk
      · rw [hrequest]
        rfl
      · exact hrequest
    by_cases hk : k = a.requestId
    · refine ⟨a.flush request, by rw [hget, if_pos hk], ?_⟩
      rcases flush_cases a request with ⟨_, hf⟩ | ⟨_, _, hf⟩ | ⟨hfull, hmore, hf⟩
      · rw [hf]
        exact ⟨rfl, fun hp => ⟨hp, le_rfl⟩⟩
      · rw [hf]
        exact ⟨rfl, fun hp => absurd hp (by simp)⟩
      · rw [hf]
        refine ⟨rfl, fun hp => ⟨hp, ?_⟩⟩
        exact (h request (hk ▸ hrequest) hp).2 hfull hmore
    · exact ⟨request, by rw [hget, if_neg hk], rfl, fun hp => ⟨hp, le_rfl⟩⟩

theorem grows_reject (r : Rejecting) : Grows s (r.commit s) :=
  grows_close rfl (fun _ _ => Iff.rfl) (fun _ _ => approvers_reject r _) rfl
    fun _ => ⟨rfl, by simp [Rejecting.flush]⟩

theorem grows_cancel (requestId : UUID) (reason : String) :
    Grows s (cancelCommit requestId reason s) :=
  grows_close rfl (fun _ _ => Iff.rfl) (fun _ _ => rfl) rfl
    fun _ => ⟨rfl, by simp [cancelFlush]⟩

theorem submitForApproval_eq_ok {org workflowId requestedByUserId id : UUID}
    (h : ApprovalWorkflowService.submitForApproval org workflowId
      requestedByUserId s = .ok id s') :
    ∃ workflow request, s.workflows.get? request.workflowId = some workflow ∧
      request.currentLevel = 1 ∧ request.status = .pending ∧
        s' = { s with requests := s.requests.insert request } := by
  rw [ApprovalWorkflowService.submitForApproval, get_bind, orRaise_bind] at h
  obtain ⟨workflow, hworkflow, h⟩ := h
  rw [refuse_bind, refuse_bind] at h
  obtain ⟨-, -, h⟩ := h
  simp only [bind_eq_ok, set_eq_ok, pure_eq_ok] at h
  obtain ⟨-, _, rfl, -, rfl⟩ := h
  exact ⟨workflow,
    { organizationId := org, workflowId, requestedByUserId }, hworkflow, rfl, rfl, rfl⟩

@[simp] theorem reading_store {α : Type} (checks : ApprovalSession α) (next : α → ApprovalPc) :
    (reading checks next s).1 = s := by
  rw [reading]
  cases checks s <;> rfl

theorem reading_pc {α : Type} {checks : ApprovalSession α} {next : α → ApprovalPc} (h :
    (reading checks next s).2.pc? = some pc) :
    ∃ a s', checks s = .ok a s' ∧ pc = next a := by
  rw [reading] at h
  cases hchecks : checks s with
  | error exc s' => simp [hchecks] at h
  | ok a s' =>
    rw [hchecks] at h
    exact ⟨a, s', rfl, (Option.some.inj h).symm⟩

@[simp] theorem statusAfter_store (requestId : UUID) : (statusAfter requestId s).1 = s := by
  rw [statusAfter]
  cases getApprovalStatus requestId s <;> rfl

@[simp] theorem statusAfter_pc (requestId : UUID) : (statusAfter requestId s).2.pc? = none := by
  rw [statusAfter]
  cases getApprovalStatus requestId s <;> rfl

theorem grows_start (call : ApprovalCall) : Grows s (call.start s).1 := by
  cases call with
  | submitForApproval org workflowId requestedByUserId =>
    simp only [ApprovalCall.start]
    split
    · next id s' h =>
      obtain ⟨_, request, -, -, -, rfl⟩ := submitForApproval_eq_ok h
      exact {
        workflows := rfl
        eligible := fun _ _ => Iff.rfl
        approvers := fun _ _ _ hu => hu
        requests := fun k r hr =>
          ⟨r, Table.get?_insert_of_some hr _, rfl, fun hp => ⟨hp, le_rfl⟩⟩ }
    · exact .refl s
  | approve | reject | cancelRequest =>
    rw [ApprovalCall.start, reading_store]
    exact .refl s

theorem grows_advance (h : Undisturbed pc s) : Grows s (pc.advance s).1 := by
  cases pc with
  | approving a =>
    rw [ApprovalPc.advance, statusAfter_store]
    exact grows_approve h
  | rejecting r =>
    rw [ApprovalPc.advance, statusAfter_store]
    exact grows_reject r
  | cancelling requestId reason =>
    rw [ApprovalPc.advance, statusAfter_store]
    exact grows_cancel requestId reason

/-! ### The readings -/

theorem approveChecks_eq_ok {requestId approverUserId : UUID} {comments : Option String}
    {delegatedFromUserId : Option UUID}
    (h : approveChecks requestId approverUserId comments delegatedFromUserId s = .ok a s') :
    a.requestId = requestId ∧ a.approverUserId = approverUserId ∧
      ∃ request workflow c, s.requests.get? requestId = some request ∧
        request.status = .pending ∧ s.workflows.get? request.workflowId = some workflow ∧
        workflow.approvalLevels[request.currentLevel - 1]? = some c ∧
        approverUserId ∉ approvers s requestId request.currentLevel ∧
        Eligible s c approverUserId ∧ a.level = request.currentLevel ∧
        a.existing = (approvers s requestId request.currentLevel).length ∧
        a.requiredCount = c.required ∧ a.totalLevels = workflow.approvalLevels.length := by
  rw [approveChecks, get_bind, orRaise_bind] at h
  obtain ⟨request, hrequest, h⟩ := h
  rw [refuse_bind, orRaise_bind] at h
  obtain ⟨hpending, workflow, hworkflow, h⟩ := h
  rw [refuse_bind, orRaise_bind] at h
  obtain ⟨-, c, hc, h⟩ := h
  rw [refuse_bind, refuse_bind] at h
  obtain ⟨hnot, -, h⟩ := h
  have hnew : approverUserId ∉ approvers s requestId request.currentLevel := by
    intro hmem
    obtain ⟨d, hd, rfl⟩ := List.mem_map.mp hmem
    exact hnot (List.any_eq_true.mpr ⟨d, hd, by simp⟩)
  cases hallowed : isUserAllowedForLevel s approverUserId c with
  | some reason => simp [hallowed] at h
  | none =>
    simp only [hallowed] at h
    cases hsod : sodViolation request (s.decisionsOf requestId) approverUserId c with
    | some violation => simp [hsod] at h
    | none =>
      simp only [hsod, pure_eq_ok] at h
      obtain ⟨rfl, -⟩ := h
      exact ⟨rfl, rfl, request, workflow, c, hrequest, by simpa using hpending, hworkflow, hc,
        hnew, hallowed, rfl, (length_approvers _ _ _).symm, rfl, rfl⟩

theorem backed_start {call : ApprovalCall} (hs : InProgress s)
    (h : (call.start s).2.pc? = some pc) : Backed s pc := by
  cases call with
  | submitForApproval =>
    simp only [ApprovalCall.start] at h
    split at h <;> simp at h
  | approve requestId approverUserId comments delegatedFromUserId =>
    obtain ⟨a, _, hok, rfl⟩ := reading_pc h
    obtain ⟨hid, huser, request, workflow, c, hrequest, hpending, hworkflow, hc, hnew, heligible,
      hlevel, hexisting, hrequired, htotal⟩ := approveChecks_eq_ok hok
    subst hid huser
    obtain ⟨workflow', hworkflow', hprogress⟩ := hs.progress _ _ hrequest
    obtain rfl : workflow = workflow' := Option.mem_unique hworkflow hworkflow'
    obtain ⟨hnodup, hall, -⟩ := hprogress.current hpending c hc
    refine ⟨request, workflow, c, hrequest, hworkflow, hlevel ▸ hc, ?_⟩
    exact {
      positive := hlevel ▸ hprogress.positive
      requiredCount := hrequired
      totalLevels := htotal
      behind := fun _ => hlevel.le
      passed := fun i c' hi hc' => hprogress.passed i c' (hlevel ▸ hi) hc'
      users := by
        refine ⟨(approvers s a.requestId request.currentLevel).toFinset, ?_, ?_, fun v hv => ?_⟩
        · rw [hexisting, List.toFinset_card_of_nodup hnodup]
        · rwa [List.mem_toFinset]
        · rw [List.mem_toFinset] at hv
          exact ⟨hlevel ▸ hv, hall v hv⟩
      eligible := heligible }
  | reject requestId rejectorUserId comments =>
    obtain ⟨r, _, hok, rfl⟩ := reading_pc h
    rw [rejectChecks, refuse_bind, get_bind, orRaise_bind] at hok
    obtain ⟨-, request, hrequest, hok⟩ := hok
    rw [refuse_bind, pure_eq_ok] at hok
    obtain ⟨-, rfl, -⟩ := hok
    exact Option.isSome_iff_exists.mpr ⟨request, hrequest⟩
  | cancelRequest requestId cancelledByUserId reason =>
    obtain ⟨_, _, _, rfl⟩ := reading_pc h
    trivial

/-! ### The commits -/

variable {request : ApprovalRequest} {workflow : ApprovalWorkflow}

theorem Progress.of_same (h : Progress s k request workflow) (hg : Grows s s')
    (happrovers : ∀ l, approvers s' k l = approvers s k l) : Progress s' k request workflow where
  positive := h.positive
  passed := fun i c hi hc => (h.passed i c hi hc).grows hg
  approved := fun ha i c hc => (h.approved ha i c hc).grows hg
  current := fun hp c hc => by
    obtain ⟨hnodup, hall, hlt⟩ := h.current hp c hc
    rw [happrovers]
    exact ⟨hnodup, fun u hu => (hg.eligible c u).mpr (hall u hu), hlt⟩
  ahead := fun hp l hl => by rw [happrovers, h.ahead hp l hl]

theorem Progress.close {request' : ApprovalRequest} (h : Progress s k request workflow)
    (hg : Grows s s') (hlevel : request'.currentLevel = request.currentLevel)
    (hopen : request'.status ≠ .pending) (hnot : request'.status ≠ .approved) :
    Progress s' k request' workflow where
  positive := hlevel ▸ h.positive
  passed := fun i c hi hc => (h.passed i c (hlevel ▸ hi) hc).grows hg
  approved := fun ha => absurd ha hnot
  current := fun hp => absurd hp hopen
  ahead := fun hp => absurd hp hopen

theorem Progress.approve (h : Progress s a.requestId request workflow)
    (hb : BackedBy s a request workflow c) (hc : workflow.approvalLevels[a.level - 1]? = some c)
    (hok : request.status = .pending →
      (a.existing + 1 < a.requiredCount → request.currentLevel = a.level →
        a.approverUserId ∉ approvers s a.requestId a.level ∧
          (approvers s a.requestId a.level).length + 1 < a.requiredCount) ∧
      (a.requiredCount ≤ a.existing + 1 → a.level < a.totalLevels →
        request.currentLevel ≤ a.level + 1))
    (hg : Grows s (a.commit s)) :
    Progress (a.commit s) a.requestId (a.flush request) workflow := by
  have happrovers : ∀ l, approvers (a.commit s) a.requestId l =
      approvers s a.requestId l ++ if a.level = l then [a.approverUserId] else [] := fun l => by
    rw [approvers_approve]
    simp
  have hother : ∀ l, a.level ≠ l →
      approvers (a.commit s) a.requestId l = approvers s a.requestId l := fun l hl => by
    rw [happrovers, if_neg hl, List.append_nil]
  have hmem : a.approverUserId ∈ approvers (a.commit s) a.requestId a.level := by
    rw [happrovers, if_pos rfl]
    exact List.mem_append_right _ (List.mem_singleton.mpr rfl)
  -- by its own count the approval completes its level
  have hmet : a.requiredCount ≤ a.existing + 1 → LevelMet (a.commit s) a.requestId a.level c := by
    intro hfull
    obtain ⟨users, hcard, hnot, husers⟩ := hb.users
    refine LevelMet.of_users ?_ hnot (fun v hv =>
      ⟨hg.approvers _ _ v (husers v hv).1, (hg.eligible c v).mpr (husers v hv).2⟩) hmem
      ((hg.eligible c _).mpr hb.eligible)
    rw [hb.requiredCount] at hfull
    omega
  -- and so it and the levels before it are met
  have hpassed : a.requiredCount ≤ a.existing + 1 → ∀ i c', i + 1 < a.level + 1 →
      workflow.approvalLevels[i]? = some c' → LevelMet (a.commit s) a.requestId (i + 1) c' := by
    intro hfull i c' hi hc'
    have hpos := hb.positive
    rcases Nat.lt_or_ge (i + 1) a.level with hlt | hge
    · exact (hb.passed i c' hlt hc').grows hg
    · have hlevel : a.level = i + 1 := by omega
      rw [hlevel, Nat.add_sub_cancel] at hc
      obtain rfl : c = c' := Option.mem_unique hc hc'
      rw [← hlevel]
      exact hmet hfull
  rcases flush_cases a request with ⟨hopen, hf⟩ | ⟨hfull, hlast, hf⟩ | ⟨hfull, hmore, hf⟩
  · rw [hf]
    exact {
      positive := h.positive
      passed := fun i c' hi hc' => (h.passed i c' hi hc').grows hg
      approved := fun ha i c' hc' => (h.approved ha i c' hc').grows hg
      current := by
        intro hp c' hc'
        obtain ⟨hnodup, hall, hlt⟩ := h.current hp c' hc'
        by_cases hlevel : request.currentLevel = a.level
        · obtain ⟨hnot, hshort⟩ := (hok hp).1 hopen hlevel
          rw [hlevel] at hnodup hall hc' ⊢
          obtain rfl : c = c' := Option.mem_unique hc hc'
          rw [happrovers, if_pos rfl]
          refine ⟨?_, fun u hu => ?_, ?_⟩
          · exact List.nodup_append.mpr ⟨hnodup, List.nodup_singleton _, fun v hv w hw => by
              rw [List.mem_singleton.mp hw]
              exact fun heq => hnot (heq ▸ hv)⟩
          · rw [hg.eligible]
            rcases List.mem_append.mp hu with hu | hu
            · exact hall u hu
            · rw [List.mem_singleton.mp hu]
              exact hb.eligible
          · rw [List.length_append, List.length_singleton, ← hb.requiredCount]
            exact hshort
        · rw [hother _ (Ne.symm hlevel)]
          exact ⟨hnodup, fun u hu => (hg.eligible c' u).mpr (hall u hu), hlt⟩
      ahead := fun hp l hl => by
        have hbehind := hb.behind hp
        rw [hother l (by omega), h.ahead hp l hl] }
  · rw [hf]
    have hall : ∀ i c', workflow.approvalLevels[i]? = some c' →
        LevelMet (a.commit s) a.requestId (i + 1) c' := fun i c' hc' => by
      have hi := (List.getElem?_eq_some_iff.mp hc').1
      have htotal := hb.totalLevels
      exact hpassed hfull i c' (by omega) hc'
    exact {
      positive := h.positive
      passed := fun i c' _ hc' => hall i c' hc'
      approved := fun _ => hall
      current := fun hp => absurd hp (by simp)
      ahead := fun hp => absurd hp (by simp) }
  · rw [hf]
    have hnext : request.status = .pending → ∀ l, a.level + 1 ≤ l →
        request.currentLevel < l ∨ request.currentLevel = l := fun hp l hl => by
      have := (hok hp).2 hfull hmore
      omega
    exact {
      positive := Nat.succ_pos _
      passed := hpassed hfull
      approved := fun ha i c' hc' => (h.approved ha i c' hc').grows hg
      current := by
        intro hp c' hc'
        rw [hother (a.level + 1) (by omega)]
        rcases hnext hp _ le_rfl with hlt | heq
        · rw [h.ahead hp _ hlt]
          exact ⟨List.nodup_nil, by simp, c'.required_pos⟩
        · obtain ⟨hnodup, hall, hlt⟩ := h.current hp c' (by rw [heq]; exact hc')
          rw [heq] at hnodup hall hlt
          exact ⟨hnodup, fun u hu => (hg.eligible c' u).mpr (hall u hu), hlt⟩
      ahead := by
        intro hp l hl
        have hlevel := (hok hp).2 hfull hmore
        simp only at hl
        rw [hother l (by omega), h.ahead hp l (by omega)] }

theorem InProgress.modify {f : ApprovalRequest → ApprovalRequest} (h : InProgress s)
    (hg : Grows s s') (hrequests : s'.requests = s.requests.modify k f)
    (hid : ∀ request, (f request).workflowId = request.workflowId)
    (hothers : ∀ k', k' ≠ k → s'.decisionsOf k' = s.decisionsOf k')
    (hnone : s.requests.get? k = none → s'.decisionsOf k = s.decisionsOf k)
    (hprogress : ∀ request workflow, s.requests.get? k = some request →
      s.workflows.get? request.workflowId = some workflow → Progress s k request workflow →
        Progress s' k (f request) workflow) : InProgress s' where
  progress := by
    intro k' request' hget
    rw [hrequests, Table.get?_modify] at hget
    split_ifs at hget with hk
    · subst hk
      obtain ⟨request, hrequest, rfl⟩ := Option.map_eq_some_iff.mp hget
      obtain ⟨workflow, hworkflow, hp⟩ := h.progress _ _ hrequest
      refine ⟨workflow, ?_, hprogress request workflow hrequest hworkflow hp⟩
      rw [hg.workflows, hid]
      exact hworkflow
    · obtain ⟨workflow, hworkflow, hp⟩ := h.progress _ _ hget
      refine ⟨workflow, by rw [hg.workflows]; exact hworkflow, hp.of_same hg fun l => ?_⟩
      rw [approvers, approvers, hothers k' hk]
  known := by
    intro k' hget
    rw [hrequests, Table.get?_modify] at hget
    split_ifs at hget with hk
    · subst hk
      have hget' := Option.map_eq_none_iff.mp hget
      rw [hnone hget', h.known k' hget']
    · rw [hothers k' hk, h.known k' hget]

theorem InProgress.approve (h : InProgress s) (hb : Backed s (.approving a))
    (hok : Undisturbed (.approving a) s) : InProgress (a.commit s) := by
  obtain ⟨request, workflow, c, hrequest, hworkflow, hc, hb⟩ := hb
  have hds : ∀ k', (a.commit s).decisionsOf k' =
      s.decisionsOf k' ++ if a.requestId = k' then [a.decision] else [] :=
    fun k' => decisionsOf_insert a.decision
  refine h.modify (grows_approve hok) rfl (fun request => ?_) (fun k' hk => ?_) (fun hnone => ?_)
    fun request' workflow' hrequest' hworkflow' hp => ?_
  · rcases flush_cases a request with ⟨_, hf⟩ | ⟨_, _, hf⟩ | ⟨_, _, hf⟩ <;> rw [hf]
  · rw [hds, if_neg hk.symm, List.append_nil]
  · rw [hrequest] at hnone
    exact absurd hnone (by simp)
  · obtain rfl : request = request' := Option.mem_unique hrequest hrequest'
    obtain rfl : workflow = workflow' := Option.mem_unique hworkflow hworkflow'
    exact hp.approve hb hc (hok request hrequest) (grows_approve hok)

theorem InProgress.reject {r : Rejecting} (h : InProgress s) (hb : Backed s (.rejecting r)) :
    InProgress (r.commit s) := by
  have hds : ∀ k', (r.commit s).decisionsOf k' =
      s.decisionsOf k' ++ if r.requestId = k' then [r.decision] else [] :=
    fun k' => decisionsOf_insert r.decision
  refine h.modify (grows_reject r) rfl (fun _ => rfl) (fun k' hk => ?_) (fun hnone => ?_)
    fun request workflow hrequest hworkflow hp => ?_
  · rw [hds, if_neg hk.symm, List.append_nil]
  · simp [Backed, hnone] at hb
  · exact hp.close (grows_reject r) rfl (by simp [Rejecting.flush]) (by simp [Rejecting.flush])

theorem InProgress.cancel (h : InProgress s) (requestId : UUID) (reason : String) :
    InProgress (cancelCommit requestId reason s) :=
  h.modify (grows_cancel requestId reason) rfl (fun _ => rfl) (fun _ _ => rfl) (fun _ => rfl)
    fun _ _ _ _ hp =>
      hp.close (grows_cancel requestId reason) rfl (by simp [cancelFlush]) (by simp [cancelFlush])

theorem InProgress.submit
    (h : InProgress s) (hworkflow : s.workflows.get? request.workflowId = some workflow)
    (hlevel : request.currentLevel = 1) (hpending : request.status = .pending)
    (hg : Grows s { s with requests := s.requests.insert request }) :
    InProgress { s with requests := s.requests.insert request } where
  progress := by
    intro k request' hget
    rw [Table.get?_insert] at hget
    split_ifs at hget with hk
    · obtain rfl := Option.some.inj hget
      have hnone : ∀ l, approvers s k l = [] :=
        approvers_of_none (h.known k (by rw [hk, Table.get?_next]))
      exact ⟨workflow, hworkflow, {
        positive := hlevel.ge
        passed := fun i c hi _ => by omega
        approved := fun ha => by simp [hpending] at ha
        current := fun _ c _ => by
          change (approvers s k _).Nodup ∧ (∀ u ∈ approvers s k _, _) ∧ (approvers s k _).length < _
          rw [hnone]
          exact ⟨List.nodup_nil, by simp, c.required_pos⟩
        ahead := fun _ l _ => hnone l }⟩
    · obtain ⟨workflow', hworkflow', hp⟩ := h.progress _ _ hget
      exact ⟨workflow', hworkflow', hp.of_same hg fun _ => rfl⟩
  known := by
    intro k hget
    rw [Table.get?_insert] at hget
    split_ifs at hget with hk
    exact h.known k hget

theorem inProgress_start (call : ApprovalCall) (h : InProgress s) :
    InProgress (call.start s).1 := by
  have hg := grows_start (s := s) call
  cases call with
  | submitForApproval org workflowId requestedByUserId =>
    simp only [ApprovalCall.start] at hg ⊢
    split
    · next id s' hok =>
      rw [hok] at hg
      obtain ⟨workflow, request, hworkflow, hlevel, hpending, rfl⟩ := submitForApproval_eq_ok hok
      exact h.submit hworkflow hlevel hpending hg
    · exact h
  | approve | reject | cancelRequest =>
    rw [ApprovalCall.start, reading_store]
    exact h

theorem inProgress_advance (h : InProgress s) (hb : Backed s pc)
    (hok : Undisturbed pc s) : InProgress (pc.advance s).1 := by
  cases pc with
  | approving a =>
    rw [ApprovalPc.advance, statusAfter_store]
    exact h.approve hb hok
  | rejecting r =>
    rw [ApprovalPc.advance, statusAfter_store]
    exact h.reject hb
  | cancelling requestId reason =>
    rw [ApprovalPc.advance, statusAfter_store]
    exact h.cancel requestId reason

theorem keepsWhen_undisturbed : approvalProgram.KeepsWhen Undisturbed InProgress Backed where
  start := fun call _ h => ⟨inProgress_start call h, fun _ hpc =>
    (backed_start h hpc).grows (grows_start call)⟩
  advance := fun pc s hok h hb => by
    refine ⟨inProgress_advance h hb hok, fun pc' hpc' => ?_⟩
    cases pc <;> simp [approvalProgram, ApprovalPc.advance] at hpc'
  start_other := fun call _ _ _ hb => hb.grows (grows_start call)
  advance_other := fun _ _ _ hok _ _ hb' => hb'.grows (grows_advance hok)

theorem InProgress.sound (h : InProgress s) : Sound s := by
  intro k request workflow hrequest hworkflow happroved i c hc
  obtain ⟨workflow', hworkflow', hp⟩ := h.progress k request hrequest
  obtain rfl : workflow = workflow' := Option.mem_unique hworkflow hworkflow'
  exact hp.approved happroved i c hc

theorem InProgress.unwedged (h : InProgress s) : Unwedged s := by
  intro k request workflow c hrequest hworkflow hpending hc
  obtain ⟨workflow', hworkflow', hp⟩ := h.progress k request hrequest
  obtain rfl : workflow = workflow' := Option.mem_unique hworkflow hworkflow'
  rw [← length_approvers]
  exact (hp.current hpending c hc).2.2

/-- **Approvals count, and no request wedges**, in every run in which approvals commit
undisturbed: an approved request has, on every level of its workflow, as many approvals by
different eligible users as the level requires, and the current level of a pending request is
short of approvals. -/
theorem undisturbed_approval_sound {p : Pool ApprovalStore ApprovalPc}
    (h : approvalSystem.ReachableWithin (When Undisturbed) p) :
    Sound p.store ∧ Unwedged p.store := by
  have hholds := invariant_when keepsWhen_undisturbed (fun s hs => ?_) h
  · exact ⟨hholds.1.sound, hholds.1.unwedged⟩
  · obtain ⟨hrequests, hdecisions⟩ := hs
    exact {
      progress := fun k request hget => by simp [hrequests] at hget
      known := fun k _ => by
        rw [ApprovalStore.decisionsOf, hdecisions]
        rfl }

/-! ### Overlapping approvals -/

def committee (approvalLevels : List ApprovalLevel) : ApprovalStore where
  workflows := Table.empty.insert { organizationId := 9, approvalLevels }
  roles := Table.empty.insert {}
  personRoles := [(1, 0), (2, 0), (3, 0)]

def byRole (requiredCount : ℤ) : ApprovalLevel where
  approverType := some "ROLE"
  approverId := some 0
  requiredCount := some requiredCount

/-- Two users read a request that takes two approvals, and then both commit. -/
def wedging : List (Pool.Event ApprovalCall) :=
  [.call 0 (.submitForApproval 9 0 5), .call 0 (.approve 0 1 none none),
   .call 1 (.approve 0 2 none none), .advance 0, .advance 1]

/-- A user reads a request that takes three approvals twice before committing, and another one
approves it then. -/
def votingTwice : List (Pool.Event ApprovalCall) :=
  [.call 0 (.submitForApproval 9 0 5), .call 0 (.approve 0 1 none none),
   .call 1 (.approve 0 1 none none), .advance 0, .advance 1,
   .call 0 (.approve 0 2 none none), .advance 0]

theorem wedging_pending : ((approvalProgram.run (Pool.idle (committee [byRole 2]))
    wedging).store.requests.get? 0).map (fun r => (r.workflowId, r.currentLevel, r.status)) =
      some (0, 1, .pending) := by
  decide +kernel

theorem votingTwice_approved : ((approvalProgram.run (Pool.idle (committee [byRole 3]))
    votingTwice).store.requests.get? 0).map (fun r => (r.workflowId, r.currentLevel, r.status)) =
      some (0, 1, .approved) := by
  decide +kernel

/-- **Overlapping approvals wedge a request, and approve one unduly**: two users of one level both
commit what they worked out from a request without approvals, and the level is satisfied but not
left; a user who approves twice at the same time counts twice. -/
theorem approval_disturbed :
    (∃ p, approvalSystem.Reachable p ∧ ¬ Unwedged p.store) ∧
      ∃ p, approvalSystem.Reachable p ∧ ¬ Sound p.store := by
  refine ⟨⟨_, reachable_run (s := committee [byRole 2]) ⟨rfl, rfl⟩ wedging, fun h => ?_⟩,
    ⟨_, reachable_run (s := committee [byRole 3]) ⟨rfl, rfl⟩ votingTwice, fun h => ?_⟩⟩
  · obtain ⟨request, hrequest, hfields⟩ := Option.map_eq_some_iff.mp wedging_pending
    simp only [Prod.mk.injEq] at hfields
    obtain ⟨hworkflow, hlevel, hpending⟩ := hfields
    have hshort := h 0 request { organizationId := 9, approvalLevels := [byRole 2] } (byRole 2)
      hrequest (by rw [hworkflow]; decide +kernel) hpending (by rw [hlevel]; rfl)
    rw [hlevel] at hshort
    exact absurd hshort (by decide +kernel)
  · obtain ⟨request, hrequest, hfields⟩ := Option.map_eq_some_iff.mp votingTwice_approved
    simp only [Prod.mk.injEq] at hfields
    obtain ⟨hworkflow, -, happroved⟩ := hfields
    have hmet := h 0 request { organizationId := 9, approvalLevels := [byRole 3] }
      hrequest (by rw [hworkflow]; decide +kernel) happroved 0 (byRole 3) rfl
    exact absurd hmet (by unfold LevelMet; decide +kernel)

/-- Two users approve at the same time and leave the level open, a third one completes it, and
the second level has one approver. -/
def committeeAgrees : List (Pool.Event ApprovalCall) :=
  [.call 0 (.submitForApproval 9 0 5), .call 0 (.approve 0 1 none none),
   .call 1 (.approve 0 2 none none), .advance 0, .advance 1,
   .call 0 (.approve 0 3 none none), .advance 0, .call 1 (.approve 0 1 none none), .advance 1]

theorem undisturbed_approval_sound_sample :
    (Sound (approvalProgram.run (Pool.idle (committee [byRole 3, byRole 1]))
        committeeAgrees).store ∧
      Unwedged (approvalProgram.run (Pool.idle (committee [byRole 3, byRole 1]))
        committeeAgrees).store) ∧
      ((approvalProgram.run (Pool.idle (committee [byRole 3, byRole 1]))
        committeeAgrees).store.requests.get? 0).map ApprovalRequest.status = some .approved :=
  ⟨undisturbed_approval_sound ⟨Pool.idle (committee [byRole 3, byRole 1]),
    ⟨⟨rfl, rfl⟩, fun _ => rfl⟩, runWithin_run (by decide +kernel)⟩, by decide +kernel⟩

end DotmacErp.Approval
