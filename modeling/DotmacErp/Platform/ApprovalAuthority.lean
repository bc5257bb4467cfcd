import DotmacErp.Foundation.Selections
import DotmacErp.Platform.ApprovalSound

/-!
# Who approved

Between the reading and the commit of a call other calls commit, and levels may be counted wrong;
what a call has read of its user stays true, though. In every interleaving each approval is by a
user the workflow names for its level, other than the one who asked where the level's rule says so,
and an approved request was approved on its last level by its final approver
(`approvals_authorized`). The list of pending approvals shows a user the requests that the user's
approval would be taken for, and no others (`shown_iff_approvable`).

The filter of the list by document type is a predicate that comes with the call.
-/

namespace DotmacErp.Approval

open Relational Session Program ApprovalWorkflowService

variable {s s' : ApprovalStore} {k : UUID} {pc : ApprovalPc} {a : Approving}

/-- The user of a decision may approve on its level of the request. -/
def Entitled (s : ApprovalStore) (d : ApprovalDecision) : Prop :=
  ∃ request workflow c, s.requests.get? d.requestId = some request ∧
    s.workflows.get? request.workflowId = some workflow ∧
    workflow.approvalLevels[d.level - 1]? = some c ∧ Eligible s c d.approverUserId ∧
    (c.sodRule = some "CANNOT_BE_CREATOR" → d.approverUserId ≠ request.requestedByUserId)

/-- The approval of the last level by the final approver of a request. -/
def FinallyApproved (s : ApprovalStore) (k : UUID) (request : ApprovalRequest)
    (workflow : ApprovalWorkflow) : Prop :=
  ∃ i d, s.decisions.get? i = some d ∧ d.requestId = k ∧ d.action = .approve ∧
    d.level = workflow.approvalLevels.length ∧
    request.finalApproverUserId = some d.approverUserId

/-- Approvals are by users who may approve, and approved requests by their final approvers. -/
structure Authorized (s : ApprovalStore) : Prop where
  entitled : s.decisions.All fun d => d.action = .approve → Entitled s d
  approved : ∀ k request workflow, s.requests.get? k = some request →
    s.workflows.get? request.workflowId = some workflow → request.status = .approved →
      FinallyApproved s k request workflow

/-- What a call goes by whatever commits beside it. -/
def ReadRightly (s : ApprovalStore) : ApprovalPc → Prop
  | .approving a => Entitled s a.decision ∧ ∀ request workflow,
      s.requests.get? a.requestId = some request →
      s.workflows.get? request.workflowId = some workflow →
        a.totalLevels = workflow.approvalLevels.length ∧ a.level ≤ a.totalLevels
  | .rejecting _ | .cancelling _ _ => True

/-! ### What every commit keeps -/

/-- Workflows and roles stay, and of a request its workflow and who asked. -/
structure KeepsRequests (s s' : ApprovalStore) : Prop where
  workflows : s'.workflows = s.workflows
  eligible : ∀ c u, Eligible s' c u ↔ Eligible s c u
  requests : ∀ k request, s.requests.get? k = some request →
    ∃ request', s'.requests.get? k = some request' ∧
      request'.workflowId = request.workflowId ∧
      request'.requestedByUserId = request.requestedByUserId

theorem Entitled.mono {d : ApprovalDecision} (h : Entitled s d) (hk : KeepsRequests s s') :
    Entitled s' d := by
  obtain ⟨request, workflow, c, hrequest, hworkflow, hc, heligible, hsod⟩ := h
  obtain ⟨request', hrequest', hid, hasked⟩ := hk.requests _ _ hrequest
  refine ⟨request', workflow, c, hrequest', ?_, hc, (hk.eligible c _).mpr heligible, ?_⟩
  · rw [hk.workflows, hid, hworkflow]
  · rw [hasked]
    exact hsod

theorem ReadRightly.mono (h : ReadRightly s pc) (hk : KeepsRequests s s') :
    ReadRightly s' pc := by
  cases pc with
  | approving a =>
    refine ⟨h.1.mono hk, fun request' workflow hrequest' hworkflow => ?_⟩
    obtain ⟨request, _, _, hrequest, -⟩ := h.1
    obtain ⟨request'', hrequest'', hid, -⟩ := hk.requests _ _ hrequest
    obtain rfl := Option.mem_unique hrequest' hrequest''
    rw [hk.workflows, hid] at hworkflow
    exact h.2 request workflow hrequest hworkflow
  | rejecting | cancelling => trivial

theorem keepsRequests_modify {f : ApprovalRequest → ApprovalRequest}
    (hworkflows : s'.workflows = s.workflows) (heligible : ∀ c u, Eligible s' c u ↔ Eligible s c u)
    (hrequests : s'.requests = s.requests.modify k f)
    (hf : ∀ request, (f request).workflowId = request.workflowId ∧
      (f request).requestedByUserId = request.requestedByUserId) : KeepsRequests s s' := by
  refine ⟨hworkflows, heligible, fun k' request hrequest => ?_⟩
  rw [hrequests, Table.get?_modify]
  by_cases hk : k' = k
  · subst hk
    exact ⟨f request, by rw [if_pos rfl, hrequest]; rfl, hf request⟩
  · exact ⟨request, by rw [if_neg hk, hrequest], rfl, rfl⟩

theorem flush_keeps (a : Approving) (request : ApprovalRequest) :
    (a.flush request).workflowId = request.workflowId ∧
      (a.flush request).requestedByUserId = request.requestedByUserId := by
  rcases flush_cases a request with ⟨-, hf⟩ | ⟨-, -, hf⟩ | ⟨-, -, hf⟩ <;> rw [hf] <;>
    exact ⟨rfl, rfl⟩

theorem keepsRequests_advance (pc : ApprovalPc) : KeepsRequests s (pc.advance s).1 := by
  cases pc with
  | approving a =>
    rw [ApprovalPc.advance, statusAfter_store]
    exact keepsRequests_modify rfl (fun _ _ => Iff.rfl) rfl (flush_keeps a)
  | rejecting r =>
    rw [ApprovalPc.advance, statusAfter_store]
    exact keepsRequests_modify rfl (fun _ _ => Iff.rfl) rfl fun _ => ⟨rfl, rfl⟩
  | cancelling requestId reason =>
    rw [ApprovalPc.advance, statusAfter_store]
    exact keepsRequests_modify rfl (fun _ _ => Iff.rfl) rfl fun _ => ⟨rfl, rfl⟩

theorem keepsRequests_start (call : ApprovalCall) : KeepsRequests s (call.start s).1 := by
  have hsame : KeepsRequests s s :=
    ⟨rfl, fun _ _ => Iff.rfl, fun _ request h => ⟨request, h, rfl, rfl⟩⟩
  cases call with
  | submitForApproval org workflowId requestedByUserId =>
    simp only [ApprovalCall.start]
    split
    · next id s' h =>
      obtain ⟨_, request, -, -, -, rfl⟩ := submitForApproval_eq_ok h
      exact ⟨rfl, fun _ _ => Iff.rfl, fun k r hr =>
        ⟨r, Table.get?_insert_of_some hr _, rfl, rfl⟩⟩
    · exact hsame
  | approve | reject | cancelRequest =>
    rw [ApprovalCall.start, reading_store]
    exact hsame

/-! ### Readings and commits -/

/-- The checks of `approve` have asked for a violation of the level's rule. -/
theorem approveChecks_sod {u : UUID} {comments : Option String} {delegatedFrom : Option UUID}
    {request : ApprovalRequest} {workflow : ApprovalWorkflow} {c : ApprovalLevel}
    (h : approveChecks k u comments delegatedFrom s = .ok a s')
    (hrequest : s.requests.get? k = some request)
    (hworkflow : s.workflows.get? request.workflowId = some workflow)
    (hc : workflow.approvalLevels[request.currentLevel - 1]? = some c) :
    sodViolation request (s.decisionsOf k) u c = none := by
  rw [approveChecks, get_bind, hrequest] at h
  simp only [orRaise_bind, refuse_bind, hworkflow, hc, Option.some.injEq,
    exists_eq_left'] at h
  obtain ⟨-, -, -, -, h⟩ := h
  by_contra hviolation
  obtain ⟨violation, hviolation⟩ := Option.ne_none_iff_exists'.mp hviolation
  cases hallowed : isUserAllowedForLevel s u c <;> simp [hallowed, hviolation] at h

theorem not_creator_of_sod {request : ApprovalRequest} {ds : List ApprovalDecision} {u : UUID}
    {c : ApprovalLevel} (h : sodViolation request ds u c = none)
    (hrule : c.sodRule = some "CANNOT_BE_CREATOR") : u ≠ request.requestedByUserId := by
  rintro rfl
  simp [sodViolation, hrule, AuthorizationService.validateSodRule] at h

theorem readRightly_start {call : ApprovalCall} (h : (call.start s).2.pc? = some pc) :
    ReadRightly s pc := by
  cases call with
  | submitForApproval =>
    simp only [ApprovalCall.start] at h
    split at h <;> simp at h
  | approve requestId u comments delegatedFrom =>
    obtain ⟨a, _, hok, rfl⟩ := reading_pc h
    obtain ⟨rfl, rfl, request, workflow, c, hrequest, -, hworkflow, hc, -, heligible, hlevel, -, -,
      htotal⟩ := approveChecks_eq_ok hok
    have hsod := approveChecks_sod hok hrequest hworkflow hc
    rw [← hlevel] at hc
    refine ⟨⟨request, workflow, c, hrequest, hworkflow, hc, heligible, not_creator_of_sod hsod⟩,
      fun request' workflow' hrequest' hworkflow' => ?_⟩
    obtain rfl := Option.mem_unique hrequest hrequest'
    obtain rfl := Option.mem_unique hworkflow hworkflow'
    have hinside := (List.getElem?_eq_some_iff.mp hc).1
    exact ⟨htotal, by omega⟩
  | reject | cancelRequest =>
    obtain ⟨_, _, -, rfl⟩ := reading_pc h
    trivial

/-- A commit that keeps the decisions and approves requests by final approvals only. -/
theorem Authorized.of_kept (h : Authorized s) (hk : KeepsRequests s s')
    (hnew : ∀ i d, s'.decisions.get? i = some d → s.decisions.get? i = some d ∨
      (d.action = .approve → Entitled s d))
    (hold : ∀ i d, s.decisions.get? i = some d → s'.decisions.get? i = some d)
    (happroved : ∀ k request workflow, s'.requests.get? k = some request →
      s.workflows.get? request.workflowId = some workflow → request.status = .approved →
        (∃ before, s.requests.get? k = some before ∧ before.workflowId = request.workflowId ∧
          before.status = .approved ∧
          before.finalApproverUserId = request.finalApproverUserId) ∨
        FinallyApproved s' k request workflow) : Authorized s' := by
  refine ⟨fun i d hd haction => ?_, fun k request workflow hrequest hworkflow hstatus => ?_⟩
  · rcases hnew i d hd with hd | hd
    · exact (h.entitled i d hd haction).mono hk
    · exact (hd haction).mono hk
  · rw [hk.workflows] at hworkflow
    rcases happroved k request workflow hrequest hworkflow hstatus with
      ⟨before, hbefore, hid, happroved, hfinal⟩ | hfinal
    · obtain ⟨i, d, hd, hof, haction, hlevel, huser⟩ :=
        h.approved k before workflow hbefore (hid ▸ hworkflow) happroved
      exact ⟨i, d, hold i d hd, hof, haction, hlevel, hfinal ▸ huser⟩
    · exact hfinal

theorem approved_before {f : ApprovalRequest → ApprovalRequest} {requestId : UUID}
    {request : ApprovalRequest} (hf : ∀ request, (f request).status ≠ .approved)
    (hget : (s.requests.modify requestId f).get? k = some request)
    (hstatus : request.status = .approved) :
    ∃ before, s.requests.get? k = some before ∧ before.workflowId = request.workflowId ∧
      before.status = .approved ∧ before.finalApproverUserId = request.finalApproverUserId := by
  rw [Table.get?_modify] at hget
  split_ifs at hget
  · obtain ⟨before, -, rfl⟩ := Option.map_eq_some_iff.mp hget
    exact absurd hstatus (hf before)
  · exact ⟨request, hget, rfl, hstatus, rfl⟩

theorem Authorized.start (h : Authorized s) (call : ApprovalCall) :
    Authorized (call.start s).1 := by
  have hkeeps := keepsRequests_start (s := s) call
  cases call with
  | submitForApproval org workflowId requestedByUserId =>
    simp only [ApprovalCall.start] at hkeeps ⊢
    split
    · next id s' hok =>
      rw [hok] at hkeeps
      obtain ⟨_, request, -, -, hpending, rfl⟩ := submitForApproval_eq_ok hok
      refine h.of_kept hkeeps (fun _ _ => .inl) (fun _ _ h => h) fun k r workflow hr _ hstatus => ?_
      rcases Table.get?_insert_cases hr with hold | ⟨-, rfl⟩
      · exact .inl ⟨r, hold, rfl, hstatus, rfl⟩
      · exact absurd (hpending.symm.trans hstatus) (by decide)
    · exact h
  | approve | reject | cancelRequest =>
    rw [ApprovalCall.start, reading_store]
    exact h

theorem Authorized.advance (h : Authorized s) (hread : ReadRightly s pc) :
    Authorized (pc.advance s).1 := by
  have hkeeps := keepsRequests_advance (s := s) pc
  cases pc with
  | approving a =>
    rw [ApprovalPc.advance, statusAfter_store] at hkeeps ⊢
    refine h.of_kept hkeeps (fun i d hd => ?_) (fun i d hd => Table.get?_insert_of_some hd _)
      fun k request workflow hrequest hworkflow hstatus => ?_
    · rcases Table.get?_insert_cases hd with hd | ⟨-, rfl⟩
      · exact .inl hd
      · exact .inr fun _ => hread.1
    · change (s.requests.modify a.requestId a.flush).get? k = some request at hrequest
      rw [Table.get?_modify] at hrequest
      split_ifs at hrequest with hk
      · obtain ⟨before, hbefore, rfl⟩ := Option.map_eq_some_iff.mp hrequest
        rw [(flush_keeps a before).1] at hworkflow
        rcases flush_cases a before with ⟨-, hf⟩ | ⟨-, hlast, hf⟩ | ⟨-, -, hf⟩
        · rw [hf] at hstatus ⊢
          exact .inl ⟨before, hk ▸ hbefore, rfl, hstatus, rfl⟩
        · -- the last level: the new decision is the final one
          obtain ⟨htotal, hlevel⟩ := hread.2 before workflow (hk ▸ hbefore) hworkflow
          refine .inr ⟨_, a.decision, Table.get?_insert_self _ _, hk.symm, rfl, ?_, by rw [hf]; rfl⟩
          exact (le_antisymm hlevel hlast).trans htotal
        · -- a request that was approved in the meantime stays approved
          rw [hf] at hstatus ⊢
          exact .inl ⟨before, hk ▸ hbefore, rfl, hstatus, rfl⟩
      · exact .inl ⟨request, hrequest, rfl, hstatus, rfl⟩
  | rejecting r =>
    rw [ApprovalPc.advance, statusAfter_store] at hkeeps ⊢
    refine h.of_kept hkeeps (fun i d hd => ?_) (fun i d hd => Table.get?_insert_of_some hd _)
      fun k request _ hrequest _ hstatus =>
        .inl (approved_before (by simp [Rejecting.flush]) hrequest hstatus)
    rcases Table.get?_insert_cases hd with hd | ⟨-, rfl⟩
    · exact .inl hd
    · exact .inr fun haction => absurd haction (by simp [Rejecting.decision])
  | cancelling requestId reason =>
    rw [ApprovalPc.advance, statusAfter_store] at hkeeps ⊢
    exact h.of_kept hkeeps (fun _ _ => .inl) (fun _ _ => id) fun k request _ hrequest _ hstatus =>
      .inl (approved_before (by simp [cancelFlush]) hrequest hstatus)

theorem keeps_authorized : approvalProgram.Keeps Authorized ReadRightly where
  start := fun call s h => ⟨h.start call, fun _ hpc =>
    (readRightly_start hpc).mono (keepsRequests_start call)⟩
  advance := fun pc s h hread => by
    refine ⟨h.advance hread, fun pc' hpc' => ?_⟩
    cases pc <;> simp [approvalProgram, ApprovalPc.advance] at hpc'
  start_other := fun call _ _ _ hread => hread.mono (keepsRequests_start call)
  advance_other := fun pc _ _ _ _ hread' => hread'.mono (keepsRequests_advance pc)

/-- **Approvals are authorized, whatever the interleaving**: each is by a user its level names, not
by the one who asked where the level's rule excludes that, and an approved request has the approval
of its last level by its final approver. -/
theorem approvals_authorized {p : Pool ApprovalStore ApprovalPc}
    (h : approvalSystem.Reachable p) :
    (∀ i d, p.store.decisions.get? i = some d → d.action = .approve → Entitled p.store d) ∧
    ∀ k request workflow, p.store.requests.get? k = some request →
      p.store.workflows.get? request.workflowId = some workflow → request.status = .approved →
        FinallyApproved p.store k request workflow := by
  have hinit : ∀ s, s.requests = Table.empty ∧ s.decisions = Table.empty → Authorized s := by
    rintro s ⟨hrequests, hdecisions⟩
    refine ⟨?_, fun k request workflow hrequest => ?_⟩
    · rw [hdecisions]
      exact Table.all_empty
    · rw [hrequests] at hrequest
      exact absurd hrequest (by simp)
  have hauthorized : Authorized p.store := (Program.invariant keeps_authorized hinit h).1
  exact ⟨hauthorized.entitled, hauthorized.approved⟩

/-- The request that one user approved twice at a time was approved by users of the committee. -/
theorem approvals_authorized_sample :
    ∃ r, FinallyApproved (approvalProgram.run (Pool.idle (committee [byRole 3])) votingTwice).store
      0 r { organizationId := 9, approvalLevels := [byRole 3] } := by
  obtain ⟨request, hrequest, hfields⟩ := Option.map_eq_some_iff.mp votingTwice_approved
  simp only [Prod.mk.injEq] at hfields
  obtain ⟨hworkflow, -, happroved⟩ := hfields
  refine ⟨request, (approvals_authorized (reachable_run (s := committee [byRole 3]) ⟨rfl, rfl⟩
    votingTwice)).2 0 request _ hrequest ?_ happroved⟩
  rw [hworkflow]
  decide +kernel

/-! ### Pending approvals -/

namespace ApprovalWorkflowService

/-- The page of pending requests that `get_pending_approvals` goes through. -/
def pendingPage (org : UUID) (ofType : UUID → Bool) (limit offset : ℕ)
    (s : ApprovalStore) : List (Stored ApprovalRequest) :=
  let requests := s.requests.select fun request =>
    decide (request.organizationId = org ∧ request.status = .pending)
  ((requests.filter fun request => ofType request.id).drop offset).take limit

def getPendingApprovals (org approverUserId : UUID) (ofType : UUID → Bool)
    (limit offset : ℕ) (s : ApprovalStore) : List UUID :=
  ((pendingPage org ofType limit offset s).filter fun request =>
    (s.workflows.get? request.row.workflowId).any fun workflow =>
      (isUserAllowedForRequest s request.id request.row workflow approverUserId).isNone).map
    Stored.id

end ApprovalWorkflowService

/-- The sibling checks: a user is allowed for a request if and only if `approve` goes through. -/
theorem isUserAllowedForRequest_iff {request : ApprovalRequest} {workflow : ApprovalWorkflow}
    (hrequest : s.requests.get? k = some request) (hpending : request.status = .pending)
    (hworkflow : s.workflows.get? request.workflowId = some workflow)
    (hlevel : 1 ≤ request.currentLevel) (u : UUID) (comments : Option String)
    (delegatedFrom : Option UUID) :
    isUserAllowedForRequest s k request workflow u = none ↔
      returns (approveChecks k u comments delegatedFrom) s = true := by
  rw [returns_iff]
  simp only [approveChecks, get_bind, orRaise_bind, refuse_bind, hrequest,
    hpending, hworkflow, Option.some.injEq, exists_eq_left', exists_and_left,
    isUserAllowedForRequest]
  rw [if_neg (by omega)]
  cases hc : workflow.approvalLevels[request.currentLevel - 1]? with
  | none => simp
  | some c =>
    have hin : request.currentLevel ≤ workflow.approvalLevels.length := by
      have := (List.getElem?_eq_some_iff.mp hc).1
      omega
    simp only [Option.some.injEq, exists_eq_left', gt_iff_lt, ge_iff_le, not_lt, hin, not_le,
      ne_eq, not_true_eq_false, not_false_eq_true, true_and, exists_and_left]
    split_ifs with hfull hvoted
    · simp
      omega
    · simp [hvoted]
    · have hopen := Nat.lt_of_not_le hfull
      cases hallowed : isUserAllowedForLevel s u c with
      | some reason => simp
      | none =>
        cases hsod : sodViolation request (s.decisionsOf k) u c with
        | some violation => simp
        | none => simp [hvoted, hopen]

/-- Every request has a workflow and has come to a level. -/
def Placed (s : ApprovalStore) : Prop :=
  s.requests.All fun request =>
    1 ≤ request.currentLevel ∧ (s.workflows.get? request.workflowId).isSome

theorem keeps_placed : approvalProgram.Keeps Placed fun _ _ => True where
  start := fun call s h => by
    refine ⟨?_, fun _ _ => trivial⟩
    cases call with
    | submitForApproval org workflowId requestedByUserId =>
      simp only [approvalProgram, ApprovalCall.start]
      split
      · next id s' hok =>
        obtain ⟨workflow, request, hworkflow, hlevel, -, rfl⟩ := submitForApproval_eq_ok hok
        exact h.insert ⟨hlevel.ge, by rw [hworkflow]; rfl⟩
      · exact h
    | approve | reject | cancelRequest =>
      simp only [approvalProgram, ApprovalCall.start, reading_store]
      exact h
  advance := fun pc s h _ => by
    refine ⟨?_, fun _ _ => trivial⟩
    cases pc with
    | approving a =>
      simp only [approvalProgram, ApprovalPc.advance, statusAfter_store]
      refine Table.All.modify h fun request hrequest => ?_
      obtain ⟨hlevel, hworkflow⟩ := h _ request hrequest
      rcases flush_cases a request with ⟨-, hf⟩ | ⟨-, -, hf⟩ | ⟨-, -, hf⟩ <;> rw [hf]
      · exact ⟨hlevel, hworkflow⟩
      · exact ⟨hlevel, hworkflow⟩
      · exact ⟨Nat.le_add_left 1 _, hworkflow⟩
    | rejecting r | cancelling requestId reason =>
      simp only [approvalProgram, ApprovalPc.advance, statusAfter_store]
      exact Table.All.modify h fun request hrequest => h _ request hrequest
  start_other := fun _ _ _ _ _ => trivial
  advance_other := fun _ _ _ _ _ _ => trivial

/-- **The list of pending approvals is exact, whatever the interleaving**: of the page of pending
requests a user is shown those that an approval by the user would be taken for now. -/
theorem shown_iff_approvable {p : Pool ApprovalStore ApprovalPc} (h : approvalSystem.Reachable p)
    (org u : UUID) (ofType : UUID → Bool) (limit offset : ℕ)
    (comments : Option String) (delegatedFrom : Option UUID) (k : UUID) :
    k ∈ getPendingApprovals org u ofType limit offset p.store ↔
      k ∈ (pendingPage org ofType limit offset p.store).map Stored.id ∧
        returns (approveChecks k u comments delegatedFrom) p.store = true := by
  have hinit : ∀ s, s.requests = Table.empty ∧ s.decisions = Table.empty → Placed s := by
    rintro s ⟨hrequests, -⟩
    rw [Placed, hrequests]
    exact Table.all_empty
  have hplaced : Placed p.store := (Program.invariant keeps_placed hinit h).1
  have hallowed : ∀ r ∈ pendingPage org ofType limit offset p.store,
      ((p.store.workflows.get? r.row.workflowId).any fun workflow =>
        (isUserAllowedForRequest p.store r.id r.row workflow u).isNone) = true ↔
      returns (approveChecks r.id u comments delegatedFrom) p.store = true := by
    intro r hr
    have hselected := List.mem_of_mem_filter (List.mem_of_mem_drop (List.mem_of_mem_take hr))
    obtain ⟨hget, hpending⟩ := Table.mem_select.mp hselected
    obtain ⟨hlevel, hworkflow⟩ := hplaced _ _ hget
    obtain ⟨workflow, hworkflow⟩ := Option.isSome_iff_exists.mp hworkflow
    rw [hworkflow, Option.any_some, Option.isNone_iff_eq_none]
    exact isUserAllowedForRequest_iff hget (of_decide_eq_true hpending).2 hworkflow hlevel u
      comments delegatedFrom
  rw [getPendingApprovals, List.mem_map, List.mem_map]
  constructor
  · rintro ⟨r, hr, rfl⟩
    obtain ⟨hpage, hany⟩ := List.mem_filter.mp hr
    exact ⟨⟨r, hpage, rfl⟩, (hallowed r hpage).mp hany⟩
  · rintro ⟨⟨r, hpage, rfl⟩, hreturns⟩
    exact ⟨r, List.mem_filter.mpr ⟨hpage, (hallowed r hpage).mpr hreturns⟩, rfl⟩

/-- On the second page one request is open to a user who has approved the other. -/
theorem shown_iff_approvable_sample :
    let p := approvalProgram.run (Pool.idle (committee [byRole 2]))
      [.call 0 (.submitForApproval 9 0 5), .call 0 (.submitForApproval 9 0 5),
        .call 0 (.submitForApproval 9 0 5), .call 0 (.approve 1 1 none none), .advance 0]
    (pendingPage 9 (fun _ => true) 2 1 p.store).map Stored.id = [1, 2] ∧
      returns (approveChecks 2 1 none none) p.store = true ∧
      ¬ returns (approveChecks 1 1 none none) p.store = true := by
  intro p
  have hpage : (pendingPage 9 (fun _ => true) 2 1 p.store).map Stored.id = [1, 2] := by
    decide +kernel
  have hshown : getPendingApprovals 9 1 (fun _ => true) 2 1 p.store = [2] := by decide +kernel
  have hreachable : approvalSystem.Reachable p := reachable_run ⟨rfl, rfl⟩ _
  have hiff := shown_iff_approvable hreachable 9 1 (fun _ => true) 2 1 none none
  rw [hshown, hpage] at hiff
  refine ⟨hpage, ((hiff 2).mp (by decide)).2, fun hreturns => ?_⟩
  exact absurd ((hiff 1).mpr ⟨by decide, hreturns⟩) (by decide)

end DotmacErp.Approval
