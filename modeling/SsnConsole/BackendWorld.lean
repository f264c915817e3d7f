import SsnConsole.AccountServices
import SsnConsole.ProposalServices
import SsnConsole.TimedRun

/-!
# The backend as an event-driven system

Every update message runs the gate of its endpoint and then its service.  A
world is the stores together with the suspended messages; its events are the
arrival of a message and the arrival of a reply.
-/

namespace SsnConsole.Backend

open SsnConsole.MessageSlice
open SsnConsole.MessageRun
open SsnConsole.TimedRun

variable [Host]

/-- The error of a message: the token endpoints have an error type of their own. -/
inductive Failure
  | api (error : ApiError)
  | rejection (error : RejectionError)

/-- A service whose response is ready without an await. -/
def answered {ε : Type} (failure : ε → Failure) (service : Slice Stores ε Response) :
    Slice Stores Failure Slot :=
  reportAs failure (Slot.ready <$> service)

/-- The service operation that a request runs, up to its first await. -/
def handle (call : Call) : Request → Slice Stores Failure Slot
  | .createMyUserProfile => answered .api (UserProfileService.createMyUserProfile call)
  | .updateMyUserProfile email =>
      answered .api (UserProfileService.updateMyUserProfile call email)
  | .verifyEmail token => answered .rejection (UserProfileService.verifyEmail call token)
  | .adminUpdateUserProfile userId status =>
      answered .api (UserProfileService.updateUserProfile userId status)
  | .registerLinkCode code targetPrincipal =>
      answered .api (PrincipalLinkService.registerLinkCode call code targetPrincipal)
  | .linkMyPrincipal code => answered .api (PrincipalLinkService.linkMyPrincipal call code)
  | .unlinkMyPrincipal principal =>
      answered .api (PrincipalLinkService.unlinkMyPrincipal call principal)
  | .setMyPrincipalName principal name =>
      answered .api (PrincipalLinkService.setMyPrincipalName call principal name)
  | .revokeMyLinkCode => answered .api (PrincipalLinkService.revokeMyLinkCode call)
  | .adminLinkPrincipalToUser userId principal =>
      answered .api (PrincipalLinkService.adminLinkPrincipalToUser call userId principal)
  | .adminUnlinkPrincipalFromUser userId principal =>
      answered .api (PrincipalLinkService.adminUnlinkPrincipalFromUser call userId principal)
  | .recoverAccountByEmail token =>
      answered .rejection (PrincipalLinkService.recoverAccountByEmail call token)
  | .adminGrantStaffPermissions userId permissions =>
      answered .api (StaffPermissionsService.grantStaffPermissions userId permissions)
  | .adminRevokeStaffPermissions userId =>
      answered .api (StaffPermissionsService.revokeStaffPermissions userId)
  | .adminGrantServicePrincipalPermissions servicePrincipal permissions =>
      answered .api
        (ServicePrincipalService.grantServicePrincipalPermissions servicePrincipal permissions)
  | .adminRevokeServicePrincipalPermissions servicePrincipal =>
      answered .api
        (ServicePrincipalService.revokeServicePrincipalPermissions servicePrincipal)
  | .createOrganization name => answered .api (OrganizationService.createOrganization call name)
  | .updateOrganization orgId name =>
      answered .api (OrganizationService.updateOrganization call orgId name)
  | .deleteOrganization orgId =>
      answered .api (OrganizationService.deleteOrganization call orgId)
  | .createTeam orgId name => answered .api (TeamService.createTeam call orgId name)
  | .updateTeam teamId name => answered .api (TeamService.updateTeam call teamId name)
  | .deleteTeam teamId => answered .api (TeamService.deleteTeam call teamId)
  | .addUserToTeam teamId userId =>
      answered .api (TeamService.addUserToTeam call teamId userId)
  | .removeUserFromTeam teamId userId =>
      answered .api (TeamService.removeUserFromTeam call teamId userId)
  | .updateTeamOrgPermissions teamId permissions =>
      answered .api (TeamService.updateTeamOrgPermissions call teamId permissions)
  | .createProject orgId name => answered .api (ProjectService.createProject call orgId name)
  | .updateProject projectId name =>
      answered .api (ProjectService.updateProject call projectId name)
  | .deleteProject projectId => answered .api (ProjectService.deleteProject call projectId)
  | .addTeamToProject projectId teamId =>
      answered .api (ProjectService.addTeamToProject call projectId teamId)
  | .removeTeamFromProject projectId teamId =>
      answered .api (ProjectService.removeTeamFromProject call projectId teamId)
  | .updateTeamProjectPermissions projectId teamId permissions =>
      answered .api
        (ProjectService.updateTeamProjectPermissions call projectId teamId permissions)
  | .createOrgInvite orgId target =>
      answered .api (InviteService.createOrgInvite call orgId target)
  | .revokeOrgInvite inviteId => answered .api (InviteService.revokeOrgInvite call inviteId)
  | .acceptOrgInvite inviteId => answered .api (InviteService.acceptOrgInvite call inviteId)
  | .declineOrgInvite inviteId => answered .api (InviteService.declineOrgInvite call inviteId)
  | .createProposal projectId operation =>
      reportAs .api (ProposalService.createProposal call projectId operation)
  | .voteProposal proposalId vote =>
      reportAs .api (ProposalService.voteProposal call proposalId vote)
  | .cancelProposal proposalId =>
      answered .api (ProposalService.cancelProposal call proposalId)
  | .upsertApprovalPolicy projectId operationType policyType =>
      answered .api
        (ApprovalPolicyService.upsertApprovalPolicy call projectId operationType policyType)
  | .adminSetOrgBillingPlan orgId tier =>
      answered .api (OrganizationBillingPlanService.setOrgPlan call orgId tier)
  | .removeMyCanister canisterId =>
      answered .api (CanisterService.removeMyCanister call canisterId)
  | .updateMyCanisterName canisterId name =>
      answered .api (CanisterService.updateMyCanisterName call canisterId name)
  | .startMyCanister canisterId =>
      reportAs .api (CanisterService.startMyCanister call canisterId)
  | .stopMyCanister canisterId =>
      reportAs .api (CanisterService.stopMyCanister call canisterId)
  | .addChildCanisters parentChildMappings =>
      answered .api (CanisterService.addChildCanisters parentChildMappings)
  | .upsertTermsAndConditionsDecision termsAndConditionsId decisionType =>
      answered .api
        (TermsAndConditionsService.upsertTermsAndConditionsDecision call termsAndConditionsId
          decisionType)
  | .adminCreateTermsAndConditions content comment =>
      answered .api
        (TermsAndConditionsService.createTermsAndConditions call content comment)

/-- The check that the endpoint of a request makes before its service. -/
def gate (call : Call) (request : Request) (s : Stores) : ApiResult Unit :=
  match request with
  | .adminUpdateUserProfile _ _ => assertStaffPerm call StaffPermissions.MANAGE_USERS s
  | .adminSetOrgBillingPlan _ _ => assertStaffPerm call StaffPermissions.WRITE_BILLING s
  | .adminGrantStaffPermissions _ _ | .adminRevokeStaffPermissions _
  | .adminGrantServicePrincipalPermissions _ _
  | .adminRevokeServicePrincipalPermissions _
  | .adminCreateTermsAndConditions _ _ => assertController call
  | .createProposal _ _ | .voteProposal _ _ | .cancelProposal _
  | .upsertApprovalPolicy _ _ _ => assertHasPlatformAccess call s
  | .addChildCanisters _ =>
      if call.caller ≠ Host.canisterHistoryId then
        .error (.unauthorized
          "Only the canister-history canister is allowed to call this endpoint")
      else
        .ok ()
  | _ => assertAuthenticated call.caller

/-- An endpoint: its gate and then its service. -/
def endpoint (call : Call) (request : Request) : Slice Stores Failure Slot := do
  reportAs .api (check (gate call request))
  handle call request

/-- The stores and the messages that wait for a reply. -/
structure World where
  stores : Stores
  inFlight : List InFlight

/-- The world of a newly installed canister. -/
def World.empty : World :=
  ⟨Stores.empty, []⟩

/-- What can happen next: a message arrives, or the reply to a suspended one. -/
inductive Event
  | message (call : Call) (request : Request)
  | reply (now : Nat) (index : Nat) (reply : Reply)

/-- The time at which an event happens. -/
def Event.now : Event → Nat
  | .message call _ => call.now
  | .reply now _ _ => now

/-- The message that the result of a slice leaves suspended, if any. -/
def suspendedBy : Except Failure Slot → List InFlight
  | .ok slot => slot.suspended
  | .error _ => []

/-- The world after a slice, with the message that it suspends added. -/
def World.afterSlice (inFlight : List InFlight) (ended : Except Failure Slot × Stores) :
    World :=
  ⟨ended.2, inFlight ++ suspendedBy ended.1⟩

/-- One event.  `serve` runs a message; a reply needs a suspended message. -/
def World.step (serve : Call → Request → Slice Stores Failure Slot) (world : World) :
    Event → Option World
  | .message call request =>
      some (World.afterSlice world.inFlight (outcome (serve call request) world.stores))
  | .reply now index reply =>
      (world.inFlight[index]?).bind fun inFlight =>
        (resume now inFlight reply).map fun slice =>
          World.afterSlice (world.inFlight.eraseIdx index)
            (outcome (reportAs .api slice) world.stores)

/-- Steps in which messages run their services without the endpoints' gates. -/
abbrev World.serviceStep : World → Event → Option World :=
  World.step handle

/-- Steps in which messages pass the gates of their endpoints. -/
abbrev World.endpointStep : World → Event → Option World :=
  World.step endpoint

/-- Worlds that any sequence of service operations and replies leads to. -/
abbrev World.Reachable (world : World) : Prop :=
  MessageRun.Reachable World.serviceStep (fun _ _ => True) World.empty world

/-- Runs of the backend whose clock does not go back. -/
abbrev World.timedStep : Timed World → Event → Option (Timed World) :=
  TimedRun.timedStep World.serviceStep Event.now

/-- Worlds with their clock that any sequence of operations leads to. -/
abbrev World.TimedReachable (timed : Timed World) : Prop :=
  MessageRun.Reachable World.timedStep (fun _ _ => True) ⟨World.empty, 0⟩ timed

/-- A message refused at its gate changes nothing; any other runs its service. -/
theorem World.endpointStep_message
    (world : World)
    (call : Call)
    (request : Request) :
    World.endpointStep world (.message call request) =
      match gate call request world.stores with
      | .ok () => World.serviceStep world (.message call request)
      | .error _ => some world := by
  simp only [World.endpointStep, World.serviceStep, World.step, endpoint, outcome_bind,
    outcome_reportAs, outcome_check]
  cases gate call request world.stores with
  | ok _ =>
      rfl
  | error _ =>
      simp [World.afterSlice, suspendedBy]

end SsnConsole.Backend
