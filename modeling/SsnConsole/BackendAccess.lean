import SsnConsole.MembershipStores
import SsnConsole.AccountStores
import SsnConsole.CanisterStores
import SsnConsole.MessageSlice

/-!
# The backend's state and its access control

All stores of the canister in one record, the drawing of fresh identifiers, and
the checks of `access_control_service` that every operation starts with.
-/

namespace SsnConsole.Backend

open Std
open SsnConsole.StableIndex
open SsnConsole.MessageSlice

/-- The stable stores, the pending link codes and the random generator. -/
structure Stores where
  organization : OrganizationState
  team : TeamState
  project : ProjectState
  userProfile : UserProfileState
  servicePrincipal : ServicePrincipalState
  invite : InviteState
  terms : TermsAndConditionsState
  canister : CanisterState
  orphanedCanister : OrphanedCanisterState
  proposal : ProposalState
  approvalPolicy : ApprovalPolicyState
  billingPlan : BillingPlanState
  pendingLinkCodes : ExtTreeMap UserId PendingLinkCode
  /-- How many identifiers have been drawn so far. -/
  drawn : Nat

/-- The stores of a newly installed canister. -/
def Stores.empty : Stores where
  organization := .empty
  team := .empty
  project := .empty
  userProfile := .empty
  servicePrincipal := .empty
  invite := .empty
  terms := .empty
  canister := .empty
  orphanedCanister := .empty
  proposal := .empty
  approvalPolicy := .empty
  billingPlan := .empty
  pendingLinkCodes := ∅
  drawn := 0

variable [Host]

/-- The identifier that the next call of `Id::new` returns. -/
def Stores.nextId (s : Stores) {marker : Marker} : Id marker :=
  ⟨Host.draw s.drawn⟩

/-- `assert_authenticated`. -/
def assertAuthenticated (principal : Principal) : ApiResult Unit :=
  if principal = Principal.anonymous then
    .error (.unauthenticated
      "Anonymous principals are not allowed to perform this action.")
  else
    .ok ()

/-- `assert_controller`. -/
def assertController (call : Call) : ApiResult Unit := do
  assertAuthenticated call.caller
  if call.isController call.caller then
    .ok ()
  else
    .error (.unauthorized "Only controllers are allowed to perform this action.")

def projectNotFoundOrNoAccess (projectId : ProjectId) : ApiError :=
  .clientError s!"Project with id {projectId.text} does not exist or you do not have access."

def teamNotFoundOrNoAccess (teamId : TeamId) : ApiError :=
  .clientError s!"Team with id {teamId.text} does not exist or you do not have access."

def proposalNotFoundOrNoAccess (proposalId : ProposalId) : ApiError :=
  .clientError
    s!"Proposal with id {proposalId.text} does not exist or you do not have access."

/-- `check_profile_staff_perm`. -/
def checkProfileStaffPerm (profile : UserProfile) (needed : StaffPermissions) :
    ApiResult Unit :=
  if profile.status ≠ .active then
    .error (.unauthorized "Inactive users cannot perform staff actions.")
  else if !(profile.staffPermissions.getD .EMPTY).contains needed then
    .error (.unauthorized s!"Caller lacks required staff permissions: {needed.text}")
  else
    .ok ()

/-- `assert_staff_perm`: controllers, then service principals, then accounts. -/
def assertStaffPerm (call : Call) (needed : StaffPermissions) (s : Stores) :
    ApiResult Unit := do
  assertAuthenticated call.caller
  if call.isController call.caller then
    .ok ()
  else
    match s.servicePrincipal.getServicePrincipalPermissions call.caller with
    | some permissions =>
        if permissions.contains needed then
          .ok ()
        else
          .error (.unauthorized s!"Caller lacks required staff permissions: {needed.text}")
    | none =>
        let userId ← s.userProfile.assertUserIdByPrincipal call.caller
        match s.userProfile.getUserProfileByUserId userId with
        | none => .error (.unauthorized "User profile not found.")
        | some profile => checkProfileStaffPerm profile needed

/-- `caller_staff_permissions`: the effective staff permissions of a principal. -/
def callerStaffPermissions (isController : Principal → Bool) (caller : Principal)
    (s : Stores) : StaffPermissions :=
  if caller = Principal.anonymous then
    .EMPTY
  else if isController caller then
    StaffPermissions.ALL
  else
    match s.servicePrincipal.getServicePrincipalPermissions caller with
    | some permissions => permissions
    | none =>
        match s.userProfile.getUserIdByPrincipal caller with
        | none => .EMPTY
        | some userId =>
            match s.userProfile.getUserProfileByUserId userId with
            | none => .EMPTY
            | some profile =>
                if profile.status = .active then
                  profile.staffPermissions.getD .EMPTY
                else
                  .EMPTY

/-- `assert_staff_can_grant`: no staff permission beyond the caller's own. -/
def assertStaffCanGrant (call : Call) (granted : StaffPermissions) (s : Stores) :
    ApiResult Unit :=
  let callerPerms := callerStaffPermissions call.isController call.caller s
  if !callerPerms.contains granted then
    .error (.unauthorized
      s!"Cannot grant staff permissions ({granted.text}) beyond your own ({callerPerms.text})")
  else
    .ok ()

/-- `assert_principal_is_unclaimed`. -/
def assertPrincipalIsUnclaimed (principal : Principal) (s : Stores) : ApiResult Unit :=
  if (s.servicePrincipal.getServicePrincipalPermissions principal).isSome then
    .error (.clientError "Principal is already registered as a service principal.")
  else if (s.userProfile.getUserIdByPrincipal principal).isSome then
    .error (.clientError "Principal is already linked to a user account.")
  else
    .ok ()

/-- `assert_has_platform_access`. -/
def assertHasPlatformAccess (call : Call) (s : Stores) : ApiResult Unit := do
  assertAuthenticated call.caller
  if call.isController call.caller then
    .ok ()
  else
    let userId ← s.userProfile.assertUserIdByPrincipal call.caller
    if !s.terms.hasAcceptedLatestTermsAndConditions userId then
      .error (.unauthorized
        "The latest terms and conditions must be accepted to perform this action.")
    else
      match s.userProfile.getUserProfileByUserId userId with
      | none => .error (.unauthorized "User profile not found.")
      | some profile =>
          if profile.status = .inactive then
            .error (.unauthorized "Inactive users cannot perform this action.")
          else
            .ok ()

/-- Proof of membership in an organization, with the caller's permissions there. -/
structure OrgAuth where
  userId : UserId
  orgId : OrgId
  perms : OrgPermissions
  deriving DecidableEq

namespace OrgAuth

/-- `OrgAuth::require_for_user`. -/
def requireForUser (userId : UserId) (orgId : OrgId) (needed : OrgPermissions)
    (s : Stores) : ApiResult OrgAuth :=
  if !s.organization.isUserInOrg userId orgId then
    .error (.unauthorized
      s!"User with id {userId.text} does not belong to org with id {orgId.text}")
  else
    let perms := s.team.aggregateUserOrgPermissions userId orgId
    if !perms.contains needed then
      .error (.unauthorized
        s!"User with id {userId.text} lacks required permissions on org with id {orgId.text}: {needed.text}")
    else
      .ok ⟨userId, orgId, perms⟩

/-- `OrgAuth::require`. -/
def require (caller : Principal) (orgId : OrgId) (needed : OrgPermissions) (s : Stores) :
    ApiResult OrgAuth := do
  let userId ← s.userProfile.assertUserIdByPrincipal caller
  requireForUser userId orgId needed s

/-- `OrgAuth::assert_member`. -/
def assertMember (auth : OrgAuth) (targetUserId : UserId) (s : Stores) : ApiResult Unit :=
  if !s.organization.isUserInOrg targetUserId auth.orgId then
    .error (.unauthorized
      s!"User with id {targetUserId.text} does not belong to org with id {auth.orgId.text}")
  else
    .ok ()

/-- `OrgAuth::assert_can_grant`: no organization permission beyond one's own. -/
def assertCanGrant (auth : OrgAuth) (granted : OrgPermissions) : ApiResult Unit :=
  if !auth.perms.contains granted then
    .error (.unauthorized
      s!"Cannot grant org permissions ({granted.text}) beyond your own ({auth.perms.text})")
  else
    .ok ()

end OrgAuth

/-- Proof of access to a project, with the user's permissions on it. -/
structure ProjectAuth where
  userId : UserId
  projectId : ProjectId
  orgId : OrgId
  perms : ProjectPermissions
  deriving DecidableEq

namespace ProjectAuth

/-- `ProjectAuth::for_user`. -/
def forUser (userId : UserId) (projectId : ProjectId) (needed : ProjectPermissions)
    (s : Stores) : ApiResult ProjectAuth :=
  match s.project.getProject projectId with
  | none => .error (projectNotFoundOrNoAccess projectId)
  | some project =>
      if !s.organization.isUserInOrg userId project.orgId then
        .error (projectNotFoundOrNoAccess projectId)
      else
        let (perms, hasLink) :=
          s.project.aggregateTeamProjectPermissions (s.team.listUserTeamIds userId) projectId
        if !hasLink then
          .error (.unauthorized
            s!"User with id {userId.text} does not have access to project with id {projectId.text}")
        else if !perms.contains needed then
          .error (.unauthorized
            s!"User with id {userId.text} lacks required permissions on project with id {projectId.text}: {needed.text}")
        else
          .ok ⟨userId, projectId, project.orgId, perms⟩

/-- `ProjectAuth::require`. -/
def require (caller : Principal) (projectId : ProjectId) (needed : ProjectPermissions)
    (s : Stores) : ApiResult ProjectAuth := do
  let userId ← s.userProfile.assertUserIdByPrincipal caller
  forUser userId projectId needed s

/-- `ProjectAuth::assert_can_grant`: no project permission beyond one's own. -/
def assertCanGrant (auth : ProjectAuth) (granted : ProjectPermissions) : ApiResult Unit :=
  if !auth.perms.contains granted then
    .error (.unauthorized
      s!"Cannot grant project permissions ({granted.text}) beyond your own ({auth.perms.text})")
  else
    .ok ()

end ProjectAuth

/-- Keep the first occurrence of every listed user. -/
def firstOccurrences (users : List UserId) : List UserId :=
  users.foldl (fun seen userId => if userId ∈ seen then seen else seen ++ [userId]) []

/-- `list_project_users_with_permission`: the distinct users of the granting teams. -/
def listProjectUsersWithPermission (projectId : ProjectId) (needed : ProjectPermissions)
    (s : Stores) : List UserId :=
  let granting :=
    (s.project.listProjectTeamIds projectId).filter fun teamId =>
      match s.project.getProjectTeamPermissions projectId teamId with
      | none => false
      | some permissions => permissions.contains needed
  firstOccurrences (granting.flatMap s.team.listTeamUserIds)

/-- `require_team_access`. -/
def requireTeamAccess (caller : Principal) (teamId : TeamId) (needed : OrgPermissions)
    (s : Stores) : ApiResult (Team × OrgAuth) := do
  let userId ← s.userProfile.assertUserIdByPrincipal caller
  match s.team.getTeam teamId with
  | none => .error (teamNotFoundOrNoAccess teamId)
  | some team =>
      if !s.organization.isUserInOrg userId team.orgId then
        .error (teamNotFoundOrNoAccess teamId)
      else
        let auth ← OrgAuth.requireForUser userId team.orgId needed s
        .ok (team, auth)

/-- The error of an operation that would leave an organization without an admin. -/
def orgAdminMustRemain (orgId : OrgId) : ApiError :=
  .clientError
    s!"Organization with id {orgId.text} must retain at least one team with ORG_ADMIN and at least one member."

/-- `assert_org_admin_populated_after_removing_team`. -/
def assertOrgAdminPopulatedAfterRemovingTeam (orgId : OrgId) (teamId : TeamId)
    (s : Stores) : ApiResult Unit :=
  if !s.team.orgAdminIsPopulatedExcludingTeam orgId teamId then
    .error (orgAdminMustRemain orgId)
  else
    .ok ()

end SsnConsole.Backend
