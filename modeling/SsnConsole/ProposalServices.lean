import SsnConsole.MembershipServices

/-!
# Canister, policy, billing and proposal services

The operations of `canister_service`, `approval_policy_service`,
`organization_billing_plan_service` and `proposal_service`.  An operation that
calls the management canister stops at the await; what it still has to do is
kept as an `InFlight` value and resumed by the reply.
-/

namespace SsnConsole.Backend

open SsnConsole.MessageSlice

variable [Host]

/-- A call of the management canister on behalf of a proposal. -/
inductive OperationCall
  /-- `create_canister` awaited by `create_my_canister`. -/
  | createCanister
  /-- `canister_status` awaited by `add_canister_controller`. -/
  | canisterStatus (canisterId controllerId : Principal)
  /-- `update_settings` awaited by `add_canister_controller`. -/
  | updateSettings (canisterId controllerId : Principal) (controllers : List Principal)
  deriving DecidableEq

/-- The endpoint that executes an operation. -/
inductive ExecutionOrigin
  | createProposal
  | voteProposal
  deriving DecidableEq

/-- An operation of a proposal that waits for the management canister. -/
structure OperationInFlight where
  origin : ExecutionOrigin
  projectId : ProjectId
  proposalId : ProposalId
  call : OperationCall
  deriving DecidableEq

/-- A canister command that waits for the management canister. -/
inductive CanisterCommand
  | start
  | stop
  deriving DecidableEq

/-- A suspended message of the backend. -/
inductive InFlight
  | operation (operation : OperationInFlight)
  | command (command : CanisterCommand) (canisterId : Principal)
  deriving DecidableEq

/-- What the management canister answers. -/
inductive Reply
  | canisterCreated (canisterId : Principal)
  | canisterStatus (controllers : List Principal)
  | done
  | rejected (message : String)

/-- How far a message got: to its response or to an await. -/
inductive Slot
  | ready (response : Response)
  | awaiting (inFlight : InFlight)

/-- The suspended message that a message leaves behind. -/
def Slot.suspended : Slot → List InFlight
  | .ready _ => []
  | .awaiting inFlight => [inFlight]

/-- How far the execution of an operation got. -/
inductive Progress
  | finished
  | awaiting (operation : OperationInFlight)

namespace CanisterRepository

/-- `canister_repository::create_canister`. -/
def createCanister (projectId : ProjectId) (canister : Canister) :
    StateM Stores CanisterId :=
  drawing fun canisterId s =>
    { s with canister := s.canister.createCanister canisterId projectId canister }

end CanisterRepository

namespace CanisterService

/-- The error of an operation on a canister that is not stored. -/
def canisterNotFound (canisterId : CanisterId) : ApiError :=
  .clientError s!"Canister {canisterId.text} not found."

/-- The project of a stored canister, if the caller may manage its canisters. -/
def managedProject (call : Call) (canisterId : CanisterId) : Service ProjectAuth := do
  let projectId ← lookup (fun s => s.canister.getCanisterProjectId canisterId)
    (canisterNotFound canisterId)
  check (ProjectAuth.require call.caller projectId ProjectPermissions.CANISTER_MANAGE)

/-- `update_my_canister_name`. -/
def updateMyCanisterName (call : Call) (canisterId : String) (name : Option String) :
    Service Response := do
  let canisterId ← require (Id.tryFrom canisterId)
  let _ ← managedProject call canisterId
  let name ← require
    (match name with
    | some raw => (CanisterName.tryFrom raw).map fun name => some name.text
    | none => .ok none)
  tryWrite fun s =>
    match s.canister.updateCanisterName canisterId name with
    | some canister => .ok { s with canister := canister }
    | none => .error (canisterNotFound canisterId)
  return .unit

/-- `resolve_managed_canister_principal`. -/
def resolveManagedCanisterPrincipal (call : Call) (canisterId : CanisterId) :
    Service Principal := do
  let _ ← managedProject call canisterId
  let canister ← lookup (fun s => s.canister.getCanister canisterId)
    (canisterNotFound canisterId)
  return canister.principal

/-- A command on a managed canister, up to its call. -/
def commandMyCanister (call : Call) (canisterId : String) (command : CanisterCommand) :
    Service Slot := do
  let canisterId ← require (Id.tryFrom canisterId)
  let principal ← resolveManagedCanisterPrincipal call canisterId
  return .awaiting (.command command principal)

/-- `start_my_canister` up to its call. -/
def startMyCanister (call : Call) (canisterId : String) : Service Slot :=
  commandMyCanister call canisterId .start

/-- `stop_my_canister` up to its call. -/
def stopMyCanister (call : Call) (canisterId : String) : Service Slot :=
  commandMyCanister call canisterId .stop

/-- `remove_my_canister`. -/
def removeMyCanister (call : Call) (canisterId : String) : Service Response := do
  let canisterId ← require (Id.tryFrom canisterId)
  let auth ← managedProject call canisterId
  tryWrite fun s =>
    match s.canister.softDeleteCanister auth.projectId canisterId call.now with
    | some canister => .ok { s with canister := canister }
    | none =>
        .error (.clientError
          s!"Canister {canisterId.text} is not active in user's project (already removed?).")
  return .unit

/-- A new record of a canister without a name. -/
def newCanister (principal : Principal) : Canister :=
  ⟨principal, none, none⟩

/-- Record a canister under a project. -/
def recordCanister (projectId : ProjectId) (s : Stores) (principal : Principal) : Stores :=
  (CanisterRepository.createCanister projectId (newCanister principal) s).2

/-- Adopt one orphan: record it and forget that it was an orphan. -/
def adoptOrphan (projectId : ProjectId) (parent : Principal) (s : Stores)
    (child : Principal) : Stores :=
  let s := recordCanister projectId s child
  { s with orphanedCanister := s.orphanedCanister.removeOrphanedCanister child parent }

/-- The loop that adopts the descendants of the principals on a stack.

Every round but the last consumes a row of the orphan index, so one more round
than it has rows empties the stack. -/
def adoptDescendants (projectId : ProjectId) : Nat → List Principal → Stores → Stores
  | 0, _, s => s
  | _ + 1, [], s => s
  | rounds + 1, parent :: stack, s =>
      let children := s.orphanedCanister.listChildrenByParent parent
      adoptDescendants projectId rounds (children.reverse ++ stack)
        (children.foldl (adoptOrphan projectId parent) s)

/-- One mapping of an `add_child_canisters` request. -/
def addChildCanister (s : Stores) (mapping : Dto.ParentChildMapping) : Stores :=
  let child := mapping.childCanisterId
  let parent := mapping.parentCanisterId
  if (s.canister.getCanisterByPrincipal child).isSome ||
      (s.orphanedCanister.getParentByChild child).isSome then
    s
  else
    match (s.canister.getCanisterByPrincipal parent).bind s.canister.getCanisterProjectId with
    | some projectId =>
        adoptDescendants projectId (s.orphanedCanister.parentChildIndex.size + 1) [child]
          (recordCanister projectId s child)
    | none =>
        { s with orphanedCanister := s.orphanedCanister.createOrphanedCanister child parent }

/-- `add_child_canisters`. -/
def addChildCanisters (mappings : List Dto.ParentChildMapping) : Service Response := do
  write fun s => mappings.foldl addChildCanister s
  return .unit

/-- `count_active_canisters_for_org`. -/
def countActiveCanistersForOrg (orgId : OrgId) (s : Stores) : Nat :=
  ((s.project.listOrgProjects orgId).map fun (projectId, _) =>
    (s.canister.listActiveCanistersByProject projectId).length).sum

/-- The canister limit of an organization's billing plan. -/
def canisterLimit (orgId : OrgId) (now : Nat) (s : Stores) : Nat :=
  (s.billingPlan.getOrDefault orgId now).limits.maxCanisters

/-- `enforce_canister_quota`. -/
def enforceCanisterQuota (orgId : OrgId) (now : Nat) (s : Stores) : ApiResult Unit :=
  let limit := canisterLimit orgId now s
  if countActiveCanistersForOrg orgId s ≥ limit then
    .error (.quotaExceeded
      s!"Organization {orgId.text} has reached its plan limit of {limit} canisters.")
  else
    .ok ()

end CanisterService

namespace ApprovalPolicyService

/-- `upsert_approval_policy`. -/
def upsertApprovalPolicy (call : Call) (projectId : String)
    (operationType : Dto.OperationType) (policyType : Dto.PolicyType) :
    Service Response := do
  let (projectId, operationType, policy) ←
    require (mapUpsertApprovalPolicyRequest projectId operationType policyType)
  let auth ←
    check
      (ProjectAuth.require call.caller projectId ProjectPermissions.APPROVAL_POLICY_MANAGE)
  let policyId ← commit
    (ApprovalPolicyRepository.upsertApprovalPolicy auth.projectId operationType policy)
  return mapApprovalPolicyResponse policyId operationType policy

end ApprovalPolicyService

namespace OrganizationBillingPlanService

/-- `set_org_plan`: Enterprise limits are not set here. -/
def setOrgPlan (call : Call) (orgId : String) (tier : Dto.PlanTier) : Service Response := do
  let orgId ← require (Id.tryFrom orgId)
  rejectIf (fun s => (s.organization.getOrg orgId).isNone)
    (.clientError s!"Organization with id {orgId.text} does not exist.")
  let plan ← require
    (match tier with
    | .free => .ok (OrganizationBillingPlan.freeSnapshot call.now)
    | .pro => .ok (OrganizationBillingPlan.proSnapshot call.now)
    | .enterprise =>
        .error (.clientError
          "Enterprise plans must be assigned via the custom-limits endpoint."))
  write fun s => { s with billingPlan := s.billingPlan.setPlan orgId plan }
  return .unit

end OrganizationBillingPlanService

namespace ProposalService

/-- `operation_type_of`. -/
def operationTypeOf : ProposalOperation → OperationType
  | .createCanister => .createCanister
  | .addCanisterController _ _ => .addCanisterController

/-- `enforce_canister_quota_for_project`; its error is a plain message. -/
def enforceCanisterQuotaForProject (projectId : ProjectId) (now : Nat) (s : Stores) :
    Except String Unit :=
  match s.project.getProject projectId with
  | none => .error s!"Project {projectId.text} no longer exists."
  | some project =>
      match CanisterService.enforceCanisterQuota project.orgId now s with
      | .ok () => .ok ()
      | .error error => .error error.message

/-- `set_proposal_status` on the stores. -/
def setProposalStatus (now : Nat) (proposalId : ProposalId) (status : ProposalStatus) :
    Service Unit :=
  tryWrite fun s =>
    (s.proposal.setProposalStatus proposalId status now).map
      fun proposal => { s with proposal := proposal }

/-- The end of `execute_operation`: record how the operation went. -/
def finishOperation (now : Nat) (proposalId : ProposalId) (result : Except String Unit) :
    Service Unit :=
  match result with
  | .ok () => setProposalStatus now proposalId .executed
  | .error message => setProposalStatus now proposalId (.failed message)

/-- `execute_operation` up to its first await. -/
def executeOperation (origin : ExecutionOrigin) (now : Nat) (projectId : ProjectId)
    (proposalId : ProposalId) (operation : ProposalOperation) : Service Progress := do
  setProposalStatus now proposalId .executing
  match operation with
  | .createCanister =>
      let quota ← inspect (enforceCanisterQuotaForProject projectId now)
      match quota with
      | .ok () => return .awaiting ⟨origin, projectId, proposalId, .createCanister⟩
      | .error message =>
          finishOperation now proposalId (.error message)
          return .finished
  | .addCanisterController canisterId controllerId =>
      return .awaiting ⟨origin, projectId, proposalId, .canisterStatus canisterId controllerId⟩

/-- The response that ends `create_proposal` and `vote_proposal`. -/
def answerWithProposal (origin : ExecutionOrigin) (proposalId : ProposalId) :
    Service Response := do
  let moment :=
    match origin with
    | .createProposal => "processing"
    | .voteProposal => "voting"
  let proposal ← lookup (fun s => s.proposal.getProposal proposalId)
    (.internalError s!"Could not find proposal {proposalId.text} after {moment}")
  return mapProposalResponse proposalId proposal

/-- Await the operation, or answer once it has finished. -/
def answerWhenFinished (origin : ExecutionOrigin) (proposalId : ProposalId)
    (progress : Progress) : Service Slot :=
  match progress with
  | .awaiting operation => pure (.awaiting (.operation operation))
  | .finished => do
      let response ← answerWithProposal origin proposalId
      return .ready response

/-- The policy in force for an operation of a project. -/
def policyInForce (projectId : ProjectId) (operation : ProposalOperation) (s : Stores) :
    PolicyType :=
  ((s.approvalPolicy.getProjectApprovalPolicyByOperationType projectId
    (operationTypeOf operation)).getD .default).policyType

/-- `process_proposal` up to its first await. -/
def processProposal (now : Nat) (projectId : ProjectId) (proposalId : ProposalId)
    (operation : ProposalOperation) : Service Progress := do
  let policy ← inspect (policyInForce projectId operation)
  match policy with
  | .autoApprove => executeOperation .createProposal now projectId proposalId operation
  | .fixedQuorum threshold =>
      rejectIf (fun _ => threshold < 1)
        (.clientError
          s!"FixedQuorum policy on project {projectId.text} has invalid threshold 0.")
      let approvers ← inspect
        (listProjectUsersWithPermission projectId ProjectPermissions.PROPOSAL_APPROVE)
      rejectIf (fun _ => asU32 approvers.length < threshold)
        (.clientError
          s!"FixedQuorum policy requires {threshold} approvers but project {projectId.text} only has {approvers.length}.")
      tryWrite fun s =>
        (s.proposal.setProposalPendingApproval proposalId threshold approvers now).map
          fun proposal => { s with proposal := proposal }
      return .finished

/-- `create_proposal` up to its first await. -/
def createProposal (call : Call) (projectId : String)
    (operation : Option Dto.ProposalOperation) : Service Slot := do
  let (projectId, operation) ← require (mapCreateProposalRequest projectId operation)
  let auth ←
    check (ProjectAuth.require call.caller projectId ProjectPermissions.PROPOSAL_CREATE)
  check fun s =>
    match operation with
    | .createCanister => CanisterService.enforceCanisterQuota auth.orgId call.now s
    | .addCanisterController _ _ => .ok ()
  let proposal : Proposal :=
    { projectId := projectId
      proposerId := auth.userId
      status := .open
      operation := operation
      createdAtNanos := none
      updatedAtNanos := none }
  let proposalId ← commit
    (drawing fun proposalId s =>
      { s with proposal := s.proposal.createProposal proposalId projectId proposal call.now })
  let progress ← processProposal call.now projectId proposalId operation
  answerWhenFinished .createProposal proposalId progress

/-- Read a proposal together with the caller's access to its project. -/
def accessibleProposal (call : Call) (proposalId : ProposalId) :
    Service (Proposal × ProjectAuth) := do
  let proposal ← lookup (fun s => s.proposal.getProposal proposalId)
    (proposalNotFoundOrNoAccess proposalId)
  let auth ← reportAs (fun _ => proposalNotFoundOrNoAccess proposalId)
    (check (ProjectAuth.require call.caller proposal.projectId .EMPTY))
  return (proposal, auth)

/-- A recorded vote: the proposal as it was, the voter and the vote's outcome. -/
structure CastVote where
  proposalId : ProposalId
  proposal : Proposal
  voter : UserId
  vote : Vote
  outcome : VoteOutcome

/-- `vote_proposal` up to the recording of the vote. -/
def castVote (call : Call) (proposalId : String) (vote : Dto.Vote) : Service CastVote := do
  let (proposalId, vote) ← require (mapVoteProposalRequest proposalId vote)
  let (proposal, auth) ← accessibleProposal call proposalId
  rejectIf (fun _ => !auth.perms.contains ProjectPermissions.PROPOSAL_APPROVE)
    (.unauthorized
      s!"User {auth.userId.text} lacks proposal_approve on project {auth.projectId.text}.")
  let (outcome, recorded) ← check fun s =>
    s.proposal.recordProposalVote proposalId auth.userId vote call.now
  write fun s => { s with proposal := recorded }
  return ⟨proposalId, proposal, auth.userId, vote, outcome⟩

/-- `vote_proposal` up to its first await. -/
def voteProposal (call : Call) (proposalId : String) (vote : Dto.Vote) : Service Slot := do
  let cast ← castVote call proposalId vote
  if cast.outcome = .reachedApproval then
    let progress ←
      executeOperation .voteProposal call.now cast.proposal.projectId cast.proposalId
        cast.proposal.operation
    answerWhenFinished .voteProposal cast.proposalId progress
  else
    answerWhenFinished .voteProposal cast.proposalId .finished

/-- `cancel_proposal`. -/
def cancelProposal (call : Call) (proposalId : String) : Service Response := do
  let proposalId ← require (Id.tryFrom proposalId)
  let (proposal, auth) ← accessibleProposal call proposalId
  rejectIf
    (fun _ =>
      decide (auth.userId ≠ proposal.proposerId) &&
        !auth.perms.contains ProjectPermissions.PROJECT_ADMIN)
    (.unauthorized
      s!"User {auth.userId.text} cannot cancel proposal {proposalId.text}: must be the proposer or a project admin.")
  tryWrite fun s =>
    (s.proposal.cancelProposal proposalId call.now).map
      fun proposal => { s with proposal := proposal }
  let updated ← lookup (fun s => s.proposal.getProposal proposalId)
    (.internalError s!"Could not find proposal {proposalId.text} after cancelling")
  return mapProposalResponse proposalId updated

/-- The end of an operation once the management canister has answered. -/
def completeOperation (now : Nat) (operation : OperationInFlight)
    (result : Except String Unit) : Service Slot := do
  finishOperation now operation.proposalId result
  answerWhenFinished operation.origin operation.proposalId .finished

/-- `create_my_canister` after its await. -/
def resumeCreateCanister (now : Nat) (operation : OperationInFlight) :
    Reply → Option (Service Slot)
  | .canisterCreated principal => some do
      write fun s => CanisterService.recordCanister operation.projectId s principal
      completeOperation now operation (.ok ())
  | .rejected message => some <|
      completeOperation now operation
        (.error
          s!"Failed to create canister via management canister, message: {message}")
  | _ => none

/-- `add_canister_controller` after its first await. -/
def resumeCanisterStatus (now : Nat) (operation : OperationInFlight)
    (canisterId controllerId : Principal) : Reply → Option (Service Slot)
  | .canisterStatus controllers => some <|
      if controllers.contains controllerId then
        completeOperation now operation
          (.error
            s!"Controller {controllerId.text} is already a controller of canister {canisterId.text}")
      else
        pure
          (.awaiting
            (.operation
              { operation with
                call :=
                  .updateSettings canisterId controllerId (controllers ++ [controllerId]) }))
  | .rejected message => some <|
      completeOperation now operation
        (.error
          s!"Failed to get canister_status for canister {canisterId.text}: {message}")
  | _ => none

/-- `add_canister_controller` after its second await. -/
def resumeUpdateSettings (now : Nat) (operation : OperationInFlight)
    (canisterId : Principal) : Reply → Option (Service Slot)
  | .done => some (completeOperation now operation (.ok ()))
  | .rejected message => some <|
      completeOperation now operation
        (.error s!"Failed to set controllers for canister {canisterId.text}: {message}")
  | _ => none

/-- Resume an operation with the reply that it waited for. -/
def resumeOperation (now : Nat) (operation : OperationInFlight) (reply : Reply) :
    Option (Service Slot) :=
  match operation.call with
  | .createCanister => resumeCreateCanister now operation reply
  | .canisterStatus canisterId controllerId =>
      resumeCanisterStatus now operation canisterId controllerId reply
  | .updateSettings canisterId _ _ => resumeUpdateSettings now operation canisterId reply

end ProposalService

/-- The rest of `start_my_canister` or `stop_my_canister` after its await. -/
def resumeCommand (command : CanisterCommand) (canisterId : Principal) :
    Reply → Option (Service Slot)
  | .done => some (pure (.ready .unit))
  | .rejected message =>
      let verb :=
        match command with
        | .start => "start"
        | .stop => "stop"
      some (throw (.internalError s!"Failed to {verb} canister {canisterId.text}: {message}"))
  | _ => none

/-- Resume a suspended message; a reply of the wrong kind does not occur. -/
def resume (now : Nat) (inFlight : InFlight) (reply : Reply) : Option (Service Slot) :=
  match inFlight with
  | .operation operation => ProposalService.resumeOperation now operation reply
  | .command command canisterId => resumeCommand command canisterId reply

end SsnConsole.Backend
