import DotmacErp.Foundation.Pool
import DotmacErp.Foundation.Session
import DotmacErp.GL.Models

/-!
# Approval workflows

A request for the approval of a document goes through the levels of a workflow. Each level names
who may approve it and how many approvals it takes; an approval that completes its level moves
the request on, or approves it when there is no further level.

The service works with one session for each call: it loads the request with its decisions and
makes its checks, then writes a decision and what follows for the request, and commits. Nothing
is locked, so that between a call's reading and its commit any other call may commit. What is
flushed was worked out from what was read: the new `current_level` is a number, not an increment
(`approvalProgram`).

Of the workflows and the roles the code only reads what is there; users' network addresses, the
MFA mark and the time stamps are left out.
-/

namespace DotmacErp.Approval

open Relational Session

/-- An entry of `approval_levels`. -/
structure ApprovalLevel where
  approverType : Option String
  approverId : Option UUID
  requiredCount : Option ℤ := some 1
  sodRule : Option String := none
  deriving DecidableEq

structure ApprovalWorkflow where
  organizationId : UUID
  approvalLevels : List ApprovalLevel
  isActive : Bool := true
  deriving DecidableEq

inductive ApprovalRequestStatus where
  | pending
  | approved
  | rejected
  | cancelled
  | escalated
  deriving DecidableEq

def ApprovalRequestStatus.value : ApprovalRequestStatus → String
  | pending => "PENDING"
  | approved => "APPROVED"
  | rejected => "REJECTED"
  | cancelled => "CANCELLED"
  | escalated => "ESCALATED"

inductive ApprovalDecisionAction where
  | approve
  | reject
  | delegate
  | escalate
  | requestInfo
  deriving DecidableEq

structure ApprovalRequest where
  organizationId : UUID
  workflowId : UUID
  requestedByUserId : UUID
  currentLevel : ℕ := 1
  status : ApprovalRequestStatus := .pending
  finalApproverUserId : Option UUID := none
  notes : Option String := none

structure ApprovalDecision where
  requestId : UUID
  level : ℕ
  approverUserId : UUID
  delegatedFromUserId : Option UUID := none
  action : ApprovalDecisionAction
  comments : Option String := none

structure Role where
  isActive : Bool := true

/-- The tables the service works on. -/
structure ApprovalStore where
  workflows : Table ApprovalWorkflow := Table.empty
  roles : Table Role := Table.empty
  /-- `PersonRole`, as pairs of a person and a role. -/
  personRoles : List (UUID × UUID) := []
  requests : Table ApprovalRequest := Table.empty
  decisions : Table ApprovalDecision := Table.empty

/-- What the service raises. -/
structure HTTPException where
  statusCode : ℕ
  detail : String

abbrev ApprovalSession := Session HTTPException ApprovalStore

structure ApprovalStatus where
  requestId : UUID
  status : String
  currentLevel : ℕ
  totalLevels : ℕ
  decisions : List ApprovalDecision
  canApprove : Bool
  canReject : Bool

/-- `request.decisions`, in the order they were made. -/
def ApprovalStore.decisionsOf (s : ApprovalStore) (requestId : UUID) : List ApprovalDecision :=
  (s.decisions.select fun d => d.requestId = requestId).map Stored.row

/-- `required_count` as the service reads it: a missing count and 0 stand for 1. -/
def ApprovalLevel.required (level : ApprovalLevel) : ℕ :=
  let requiredCount := match level.requiredCount with
    | none => 1
    | some n => if n = 0 then 1 else n
  (max requiredCount 1).toNat

def existingApprovals (decisions : List ApprovalDecision) (level : ℕ) : List ApprovalDecision :=
  decisions.filter fun d => d.level = level && d.action = .approve

namespace AuthorizationService

/-- `validate_sod_rule`: nothing, or the violation. -/
def validateSodRule (userId : UUID) (rule : String) (createdByUserId : UUID)
    (previousApprovers : List UUID) : Option String :=
  if rule = "CANNOT_BE_CREATOR" then
    if createdByUserId = userId then
      some "Segregation of duties: approver cannot be document creator"
    else none
  else if rule = "CANNOT_BE_PREVIOUS_APPROVER" then
    if previousApprovers.contains userId then
      some "Segregation of duties: user already approved at previous level"
    else none
  else none

end AuthorizationService

namespace ApprovalWorkflowService

def hasRole (s : ApprovalStore) (userId roleId : UUID) : Bool :=
  s.personRoles.contains (userId, roleId) && (s.roles.get? roleId).any Role.isActive

/-- `_is_user_allowed_for_level`: nothing, or the reason why not. -/
def isUserAllowedForLevel (s : ApprovalStore) (approverUserId : UUID)
    (levelConfig : ApprovalLevel) : Option String :=
  if levelConfig.approverType = some "USER" then
    match levelConfig.approverId with
    | none => some "Approval level is missing approver configuration"
    | some approverId =>
      if approverId ≠ approverUserId then some "User is not eligible to approve this level"
      else none
  else if levelConfig.approverType = some "ROLE" then
    match levelConfig.approverId with
    | none => some "Approval level is missing approver configuration"
    | some roleId =>
      if hasRole s approverUserId roleId then none
      else some "User is not eligible to approve this level"
  else if levelConfig.approverType = none ∨ levelConfig.approverType = some "" then
    some "Approval level is missing approver configuration"
  else some "Approval level uses unsupported approver type"

/-- The segregation of duties of a level; a level without a rule has none. -/
def sodViolation (request : ApprovalRequest) (decisions : List ApprovalDecision)
    (userId : UUID) (levelConfig : ApprovalLevel) : Option String :=
  match levelConfig.sodRule with
  | none => none
  | some rule =>
    if rule = "" then none
    else AuthorizationService.validateSodRule userId rule request.requestedByUserId
      (decisions.map ApprovalDecision.approverUserId)

/-- `_is_user_allowed_for_request`: nothing, or the reason why not. -/
def isUserAllowedForRequest (s : ApprovalStore) (requestId : UUID) (request : ApprovalRequest)
    (workflow : ApprovalWorkflow) (approverUserId : UUID) : Option String :=
  if request.currentLevel < 1 then some "Approval level is not configured"
  else
    match workflow.approvalLevels[request.currentLevel - 1]? with
    | none => some "Approval level is not configured"
    | some levelConfig =>
      let existing := existingApprovals (s.decisionsOf requestId) request.currentLevel
      if levelConfig.required ≤ existing.length then some "Approval level already satisfied"
      else if existing.any fun d => d.approverUserId = approverUserId then
        some "User has already approved this level"
      else
        match isUserAllowedForLevel s approverUserId levelConfig with
        | some reason => some reason
        | none => sodViolation request (s.decisionsOf requestId) approverUserId levelConfig

def getApprovalStatus (requestId : UUID) : ApprovalSession ApprovalStatus := do
  let s ← get
  let request ← orRaise (s.requests.get? requestId) ⟨404, "Approval request not found"⟩
  let workflow ← orRaise (s.workflows.get? request.workflowId) ⟨500, "request.workflow"⟩
  let isOpen := decide (request.status = .pending)
  pure {
    requestId
    status := request.status.value
    currentLevel := request.currentLevel
    totalLevels := workflow.approvalLevels.length
    decisions := s.decisionsOf requestId
    canApprove := isOpen
    canReject := isOpen }

/-! ### Submitting -/

def submitForApproval (org workflowId requestedByUserId : UUID) :
    ApprovalSession UUID := do
  let s ← get
  let workflow ← orRaise (s.workflows.get? workflowId) ⟨404, "Approval workflow not found"⟩
  refuse (workflow.organizationId ≠ org) ⟨404, "Approval workflow not found"⟩
  refuse (workflow.isActive = false) ⟨400, "Approval workflow is not active"⟩
  set { s with requests := s.requests.insert {
    organizationId := org
    workflowId := workflowId
    requestedByUserId := requestedByUserId } }
  pure s.requests.next

/-! ### Approving -/

/-- What `approve` works with once its checks have passed. -/
structure Approving where
  requestId : UUID
  approverUserId : UUID
  delegatedFromUserId : Option UUID
  comments : Option String
  /-- `request.current_level` as loaded. -/
  level : ℕ
  /-- `len(existing_approvals)` as loaded. -/
  existing : ℕ
  requiredCount : ℕ
  totalLevels : ℕ

/-- `approve`, up to the creation of the decision. -/
def approveChecks (requestId approverUserId : UUID) (comments : Option String)
    (delegatedFromUserId : Option UUID) : ApprovalSession Approving := do
  let s ← get
  let request ← orRaise (s.requests.get? requestId) ⟨404, "Approval request not found"⟩
  refuse (request.status ≠ .pending)
    ⟨400, s!"Request is not pending (status: {request.status.value})"⟩
  let workflow ← orRaise (s.workflows.get? request.workflowId) ⟨500, "request.workflow"⟩
  refuse (request.currentLevel > workflow.approvalLevels.length)
    ⟨400, "No more approval levels defined"⟩
  let currentLevelConfig ← orRaise workflow.approvalLevels[request.currentLevel - 1]?
    ⟨500, "approval_levels"⟩
  let decisions := s.decisionsOf requestId
  let existing := existingApprovals decisions request.currentLevel
  refuse (existing.any fun d => d.approverUserId = approverUserId)
    ⟨400, "User has already approved this level"⟩
  refuse (existing.length ≥ currentLevelConfig.required) ⟨400, "Approval level already satisfied"⟩
  match isUserAllowedForLevel s approverUserId currentLevelConfig with
  | some reason => throw ⟨403, reason⟩
  | none => pure ⟨⟩
  match sodViolation request decisions approverUserId currentLevelConfig with
  | some violation => throw ⟨403, violation⟩
  | none => pure ⟨⟩
  pure {
    requestId
    approverUserId
    delegatedFromUserId
    comments
    level := request.currentLevel
    existing := existing.length
    requiredCount := currentLevelConfig.required
    totalLevels := workflow.approvalLevels.length }

/-- The decision `approve` records. -/
def Approving.decision (a : Approving) : ApprovalDecision where
  requestId := a.requestId
  level := a.level
  approverUserId := a.approverUserId
  delegatedFromUserId := a.delegatedFromUserId
  action := .approve
  comments := a.comments

/-- What `approve` writes to the request: the columns it changed, with the values it worked out
from the request it had loaded. -/
def Approving.flush (a : Approving) (request : ApprovalRequest) : ApprovalRequest :=
  if a.requiredCount ≤ a.existing + 1 then
    if a.totalLevels ≤ a.level then
      { request with status := .approved, finalApproverUserId := some a.approverUserId }
    else { request with currentLevel := a.level + 1 }
  else request

/-- The commit of `approve`. -/
def Approving.commit (a : Approving) (s : ApprovalStore) : ApprovalStore :=
  { s with
    decisions := s.decisions.insert a.decision
    requests := s.requests.modify a.requestId a.flush }

/-! ### Rejecting and cancelling -/

/-- What `reject` works with once its checks have passed. -/
structure Rejecting where
  requestId : UUID
  rejectorUserId : UUID
  comments : String
  level : ℕ

/-- `reject`, up to the creation of the decision. -/
def rejectChecks (requestId rejectorUserId : UUID) (comments : String) :
    ApprovalSession Rejecting := do
  refuse (comments = "") ⟨400, "Rejection comments are required"⟩
  let s ← get
  let request ← orRaise (s.requests.get? requestId) ⟨404, "Approval request not found"⟩
  refuse (request.status ≠ .pending)
    ⟨400, s!"Request is not pending (status: {request.status.value})"⟩
  pure { requestId, rejectorUserId, comments, level := request.currentLevel }

/-- The decision `reject` records. -/
def Rejecting.decision (r : Rejecting) : ApprovalDecision where
  requestId := r.requestId
  level := r.level
  approverUserId := r.rejectorUserId
  action := .reject
  comments := some r.comments

/-- What `reject` writes to the request. -/
def Rejecting.flush (r : Rejecting) (request : ApprovalRequest) : ApprovalRequest :=
  { request with status := .rejected, notes := some r.comments }

/-- The commit of `reject`. -/
def Rejecting.commit (r : Rejecting) (s : ApprovalStore) : ApprovalStore :=
  { s with
    decisions := s.decisions.insert r.decision
    requests := s.requests.modify r.requestId r.flush }

/-- `cancel_request`, up to the change of the request. -/
def cancelChecks (requestId cancelledByUserId : UUID) : ApprovalSession PUnit := do
  let s ← get
  let request ← orRaise (s.requests.get? requestId) ⟨404, "Approval request not found"⟩
  refuse (request.status ≠ .pending)
    ⟨400, s!"Request cannot be cancelled (status: {request.status.value})"⟩
  refuse (request.requestedByUserId ≠ cancelledByUserId)
    ⟨403, "Only the original requester can cancel this request"⟩

/-- What `cancel_request` writes to the request. -/
def cancelFlush (reason : String) (request : ApprovalRequest) : ApprovalRequest :=
  { request with status := .cancelled, notes := some ("Cancelled: " ++ reason) }

/-- The commit of `cancel_request`. -/
def cancelCommit (requestId : UUID) (reason : String) (s : ApprovalStore) : ApprovalStore :=
  { s with requests := s.requests.modify requestId (cancelFlush reason) }

end ApprovalWorkflowService

open ApprovalWorkflowService

/-! ### Calls -/

inductive ApprovalCall where
  | submitForApproval (org workflowId requestedByUserId : UUID)
  | approve (requestId approverUserId : UUID) (comments : Option String)
      (delegatedFromUserId : Option UUID)
  | reject (requestId rejectorUserId : UUID) (comments : String)
  | cancelRequest (requestId cancelledByUserId : UUID) (reason : String)

/-- A call between its reading and its commit. -/
inductive ApprovalPc where
  | approving (a : Approving)
  | rejecting (r : Rejecting)
  | cancelling (requestId : UUID) (reason : String)

/-- What a call hands to its caller. -/
inductive ApprovalReply where
  | submitted (requestId : UUID)
  | status (status : ApprovalStatus)
  | raised (exc : HTTPException)

/-- What a transaction leaves. -/
abbrev ApprovalBlock := ApprovalStore × Outcome ApprovalPc ApprovalReply

def reading {α : Type} (checks : ApprovalSession α) (next : α → ApprovalPc) (s : ApprovalStore) :
    ApprovalBlock :=
  match checks s with
  | .ok a _ => (s, .running (next a))
  | .error exc _ => (s, .returned (.raised exc))

def statusAfter (requestId : UUID) (s : ApprovalStore) : ApprovalBlock :=
  match getApprovalStatus requestId s with
  | .ok status _ => (s, .returned (.status status))
  | .error exc _ => (s, .returned (.raised exc))

/-- A call's reading; `submit_for_approval` commits at once. -/
def ApprovalCall.start : ApprovalCall → ApprovalStore → ApprovalBlock
  | .submitForApproval org workflowId requestedByUserId, s =>
    match ApprovalWorkflowService.submitForApproval org workflowId
        requestedByUserId s with
    | .ok requestId s' => (s', .returned (.submitted requestId))
    | .error exc _ => (s, .returned (.raised exc))
  | .approve requestId approverUserId comments delegatedFromUserId, s =>
    reading (approveChecks requestId approverUserId comments delegatedFromUserId) .approving s
  | .reject requestId rejectorUserId comments, s =>
    reading (rejectChecks requestId rejectorUserId comments) .rejecting s
  | .cancelRequest requestId cancelledByUserId reason, s =>
    reading (cancelChecks requestId cancelledByUserId) (fun _ => .cancelling requestId reason) s

/-- A call's commit. -/
def ApprovalPc.advance : ApprovalPc → ApprovalStore → ApprovalBlock
  | .approving a, s => statusAfter a.requestId (a.commit s)
  | .rejecting r, s => statusAfter r.requestId (r.commit s)
  | .cancelling requestId reason, s => statusAfter requestId (cancelCommit requestId reason s)

def approvalProgram : Program ApprovalStore ApprovalCall ApprovalPc ApprovalReply where
  start := ApprovalCall.start
  advance := ApprovalPc.advance

/-- Approvals by interleaved callers, from empty tables. -/
def approvalSystem : System (Pool ApprovalStore ApprovalPc) (Pool.Event ApprovalCall) :=
  approvalProgram.system fun s => s.requests = Table.empty ∧ s.decisions = Table.empty

end DotmacErp.Approval
