import SsnConsole.BackendRecords

/-!
# Requests, responses and their mapping

The wire types of the backend's update endpoints, where identifiers are still
text and permissions are named booleans, with the mapping functions between
wire types and stored records.
-/

namespace SsnConsole.Backend

namespace Dto

/-- Organization permissions on the wire. -/
structure OrgPermissions where
  orgAdmin : Bool
  memberManage : Bool
  teamManage : Bool
  projectCreate : Bool
  billingManage : Bool

/-- Project permissions on the wire. -/
structure ProjectPermissions where
  projectAdmin : Bool
  canisterManage : Bool
  proposalCreate : Bool
  proposalApprove : Bool
  canisterOperate : Bool
  canisterRead : Bool
  approvalPolicyManage : Bool
  projectSettings : Bool

/-- Staff permissions on the wire. -/
structure StaffPermissions where
  readAllOrgs : Bool
  writeBilling : Bool
  manageUsers : Bool
  readMetrics : Bool

structure Organization where
  id : String
  name : String
  yourPermissions : OrgPermissions

structure Team where
  id : String
  name : String

structure OrgTeam where
  id : String
  name : String
  permissions : OrgPermissions

structure ProjectTeam where
  id : String
  name : String
  permissions : ProjectPermissions

structure Project where
  id : String
  orgId : String
  name : String
  yourPermissions : ProjectPermissions

inductive UserStatus
  | active
  | inactive

structure UserProfile where
  id : String
  email : Option String
  emailVerified : Bool
  status : UserStatus
  isAdmin : Bool

inductive InviteTarget
  | email (address : String)
  | userId (userId : String)
  | principal (principal : Principal)

inductive InviteStatus
  | pending
  | accepted
  | declined
  | revoked

structure OrgInvite where
  id : String
  orgId : String
  orgName : String
  createdBy : String
  createdAtNs : Nat
  expiresAtNs : Nat
  target : InviteTarget
  status : InviteStatus

inductive Vote
  | approve
  | reject

structure ProposalVote where
  voter : String
  vote : Vote

inductive ProposalOperation
  | createCanister
  | addCanisterController (canisterId controllerId : Principal)

inductive ProposalStatus
  | open
  | pendingApproval (threshold : Nat) (approvers : List String) (votes : List ProposalVote)
  | rejected
  | cancelled
  | executing
  | executed
  | failed (message : String)

structure Proposal where
  id : String
  projectId : String
  proposerId : String
  status : Option ProposalStatus
  operation : Option ProposalOperation
  createdAtNanos : Option Nat
  updatedAtNanos : Option Nat

inductive OperationType
  | createCanister
  | addCanisterController

inductive PolicyType
  | autoApprove
  | fixedQuorum (threshold : Nat)

structure ApprovalPolicy where
  id : String
  operationType : OperationType
  policyType : PolicyType

inductive PlanTier
  | free
  | pro
  | enterprise

inductive TermsAndConditionsDecisionType
  | accept
  | reject

/-- One row of an `add_child_canisters` request. -/
structure ParentChildMapping where
  parentCanisterId : Principal
  childCanisterId : Principal

end Dto

/-- The update messages of the backend, with their arguments as received. -/
inductive Request
  | createMyUserProfile
  | updateMyUserProfile (email : Option String)
  | verifyEmail (token : String)
  | adminUpdateUserProfile (userId : String) (status : Option Dto.UserStatus)
  | registerLinkCode (code : String) (targetPrincipal : Principal)
  | linkMyPrincipal (code : String)
  | unlinkMyPrincipal (principal : Principal)
  | setMyPrincipalName (principal : Principal) (name : Option String)
  | revokeMyLinkCode
  | adminLinkPrincipalToUser (userId : String) (principal : Principal)
  | adminUnlinkPrincipalFromUser (userId : String) (principal : Principal)
  | recoverAccountByEmail (token : String)
  | adminGrantStaffPermissions (userId : String) (permissions : Dto.StaffPermissions)
  | adminRevokeStaffPermissions (userId : String)
  | adminGrantServicePrincipalPermissions
      (servicePrincipal : Principal) (permissions : Dto.StaffPermissions)
  | adminRevokeServicePrincipalPermissions (servicePrincipal : Principal)
  | createOrganization (name : String)
  | updateOrganization (orgId : String) (name : String)
  | deleteOrganization (orgId : String)
  | createTeam (orgId : String) (name : String)
  | updateTeam (teamId : String) (name : String)
  | deleteTeam (teamId : String)
  | addUserToTeam (teamId : String) (userId : String)
  | removeUserFromTeam (teamId : String) (userId : String)
  | updateTeamOrgPermissions (teamId : String) (permissions : Dto.OrgPermissions)
  | createProject (orgId : String) (name : String)
  | updateProject (projectId : String) (name : String)
  | deleteProject (projectId : String)
  | addTeamToProject (projectId : String) (teamId : String)
  | removeTeamFromProject (projectId : String) (teamId : String)
  | updateTeamProjectPermissions
      (projectId : String) (teamId : String) (permissions : Dto.ProjectPermissions)
  | createOrgInvite (orgId : String) (target : Dto.InviteTarget)
  | revokeOrgInvite (inviteId : String)
  | acceptOrgInvite (inviteId : String)
  | declineOrgInvite (inviteId : String)
  | createProposal (projectId : String) (operation : Option Dto.ProposalOperation)
  | voteProposal (proposalId : String) (vote : Dto.Vote)
  | cancelProposal (proposalId : String)
  | upsertApprovalPolicy
      (projectId : String) (operationType : Dto.OperationType) (policyType : Dto.PolicyType)
  | adminSetOrgBillingPlan (orgId : String) (tier : Dto.PlanTier)
  | removeMyCanister (canisterId : String)
  | updateMyCanisterName (canisterId : String) (name : Option String)
  | startMyCanister (canisterId : String)
  | stopMyCanister (canisterId : String)
  | addChildCanisters (parentChildMappings : List Dto.ParentChildMapping)
  | upsertTermsAndConditionsDecision
      (termsAndConditionsId : String) (decisionType : Dto.TermsAndConditionsDecisionType)
  | adminCreateTermsAndConditions (content : String) (comment : String)

/-- What an update message returns when it succeeds. -/
inductive Response
  | unit
  | organization (organization : Dto.Organization)
  | team (team : Dto.Team)
  | orgTeam (team : Dto.OrgTeam)
  | projectTeam (team : Dto.ProjectTeam)
  | project (project : Dto.Project)
  | userProfile (profile : Dto.UserProfile)
  | invite (invite : Dto.OrgInvite)
  | proposal (proposal : Dto.Proposal)
  | approvalPolicy (policy : Dto.ApprovalPolicy)
  | linkCode (expiresAtNanos : Nat)

/-- `map_org_permissions`. -/
def mapOrgPermissions (perms : OrgPermissions) : Dto.OrgPermissions where
  orgAdmin := perms.contains OrgPermissions.ORG_ADMIN
  memberManage := perms.contains OrgPermissions.MEMBER_MANAGE
  teamManage := perms.contains OrgPermissions.TEAM_MANAGE
  projectCreate := perms.contains OrgPermissions.PROJECT_CREATE
  billingManage := perms.contains OrgPermissions.BILLING_MANAGE

/-- Add a flag to a permission set when its boolean is set. -/
def Permissions.withFlag {scope : PermissionScope} (permissions : Permissions scope)
    (present : Bool) (flag : Permissions scope) : Permissions scope :=
  if present then permissions.union flag else permissions

/-- `map_org_permissions_from_dto`. -/
def mapOrgPermissionsFromDto (perms : Dto.OrgPermissions) : OrgPermissions :=
  ((((Permissions.EMPTY.withFlag perms.orgAdmin OrgPermissions.ORG_ADMIN).withFlag
    perms.memberManage OrgPermissions.MEMBER_MANAGE).withFlag
    perms.teamManage OrgPermissions.TEAM_MANAGE).withFlag
    perms.projectCreate OrgPermissions.PROJECT_CREATE).withFlag
    perms.billingManage OrgPermissions.BILLING_MANAGE

/-- `map_project_permissions`. -/
def mapProjectPermissions (perms : ProjectPermissions) : Dto.ProjectPermissions where
  projectAdmin := perms.contains ProjectPermissions.PROJECT_ADMIN
  canisterManage := perms.contains ProjectPermissions.CANISTER_MANAGE
  proposalCreate := perms.contains ProjectPermissions.PROPOSAL_CREATE
  proposalApprove := perms.contains ProjectPermissions.PROPOSAL_APPROVE
  canisterOperate := perms.contains ProjectPermissions.CANISTER_OPERATE
  canisterRead := perms.contains ProjectPermissions.CANISTER_READ
  approvalPolicyManage := perms.contains ProjectPermissions.APPROVAL_POLICY_MANAGE
  projectSettings := perms.contains ProjectPermissions.PROJECT_SETTINGS

/-- `map_project_permissions_from_dto`. -/
def mapProjectPermissionsFromDto (perms : Dto.ProjectPermissions) : ProjectPermissions :=
  (((((((Permissions.EMPTY.withFlag
    perms.projectAdmin ProjectPermissions.PROJECT_ADMIN).withFlag
    perms.canisterManage ProjectPermissions.CANISTER_MANAGE).withFlag
    perms.proposalCreate ProjectPermissions.PROPOSAL_CREATE).withFlag
    perms.proposalApprove ProjectPermissions.PROPOSAL_APPROVE).withFlag
    perms.canisterOperate ProjectPermissions.CANISTER_OPERATE).withFlag
    perms.canisterRead ProjectPermissions.CANISTER_READ).withFlag
    perms.approvalPolicyManage ProjectPermissions.APPROVAL_POLICY_MANAGE).withFlag
    perms.projectSettings ProjectPermissions.PROJECT_SETTINGS

/-- `map_staff_permissions_from_dto`. -/
def mapStaffPermissionsFromDto (perms : Dto.StaffPermissions) : StaffPermissions :=
  (((Permissions.EMPTY.withFlag
    perms.readAllOrgs StaffPermissions.READ_ALL_ORGS).withFlag
    perms.writeBilling StaffPermissions.WRITE_BILLING).withFlag
    perms.manageUsers StaffPermissions.MANAGE_USERS).withFlag
    perms.readMetrics StaffPermissions.READ_METRICS

variable [Host]

/-- `map_organization_to_response`. -/
def mapOrganizationToResponse (id : OrgId) (org : Organization)
    (yourPermissions : OrgPermissions) : Response :=
  .organization ⟨id.text, org.name, mapOrgPermissions yourPermissions⟩

/-- `map_team_to_response`. -/
def mapTeamToResponse (teamId : TeamId) (team : Team) : Response :=
  .team ⟨teamId.text, team.name⟩

/-- `map_org_team`. -/
def mapOrgTeam (teamId : TeamId) (team : Team) (perms : OrgPermissions) : Dto.OrgTeam :=
  ⟨teamId.text, team.name, mapOrgPermissions perms⟩

/-- `map_project_team`. -/
def mapProjectTeam (teamId : TeamId) (team : Team) (perms : ProjectPermissions) :
    Dto.ProjectTeam :=
  ⟨teamId.text, team.name, mapProjectPermissions perms⟩

/-- `map_project_to_response`. -/
def mapProjectToResponse (projectId : ProjectId) (project : Project)
    (yourPermissions : ProjectPermissions) : Response :=
  .project
    ⟨projectId.text, project.orgId.text, project.name,
      mapProjectPermissions yourPermissions⟩

/-- `map_user_status_request`. -/
def mapUserStatusRequest : Dto.UserStatus → UserStatus
  | .active => .active
  | .inactive => .inactive

/-- `map_user_status_response`. -/
def mapUserStatusResponse : UserStatus → Dto.UserStatus
  | .active => .active
  | .inactive => .inactive

/-- `map_create_my_user_profile_response`. -/
def mapCreateMyUserProfileResponse (call : Call) (id : UserId) (profile : UserProfile) :
    Response :=
  .userProfile
    { id := id.text
      email := profile.email
      emailVerified := profile.emailVerified
      status := mapUserStatusResponse profile.status
      isAdmin := call.isController call.caller }

/-- `map_invite_target_to_data`. -/
def mapInviteTargetToData : Dto.InviteTarget → Except String InviteTarget
  | .email address => .ok (.email address)
  | .userId id =>
      match (Id.tryFrom id : ApiResult UserId) with
      | .ok userId => .ok (.userId userId)
      | .error error => .error error.message
  | .principal principal => .ok (.principal principal)

/-- `map_invite_target_to_dto`. -/
def mapInviteTargetToDto : InviteTarget → Dto.InviteTarget
  | .email address => .email address
  | .userId userId => .userId userId.text
  | .principal principal => .principal principal

/-- `map_invite_status_to_dto`. -/
def mapInviteStatusToDto : InviteStatus → Dto.InviteStatus
  | .pending => .pending
  | .accepted => .accepted
  | .declined => .declined
  | .revoked => .revoked

/-- `map_invite_to_dto`. -/
def mapInviteToDto (inviteId : InviteId) (invite : OrgInvite) (orgName : String) :
    Dto.OrgInvite where
  id := inviteId.text
  orgId := invite.orgId.text
  orgName := orgName
  createdBy := invite.createdBy.text
  createdAtNs := invite.createdAtNs
  expiresAtNs := invite.expiresAtNs
  target := mapInviteTargetToDto invite.target
  status := mapInviteStatusToDto invite.status

/-- `map_vote`. -/
def mapVote : Vote → Dto.Vote
  | .approve => .approve
  | .reject => .reject

/-- `map_vote_proposal_request`. -/
def mapVoteProposalRequest (proposalId : String) (vote : Dto.Vote) :
    ApiResult (ProposalId × Vote) := do
  let proposalId ← Id.tryFrom proposalId
  match vote with
  | .approve => .ok (proposalId, .approve)
  | .reject => .ok (proposalId, .reject)

/-- `map_create_proposal_request`. -/
def mapCreateProposalRequest (projectId : String) (operation : Option Dto.ProposalOperation) :
    ApiResult (ProjectId × ProposalOperation) := do
  let projectId ← Id.tryFrom projectId
  match operation with
  | some .createCanister => .ok (projectId, .createCanister)
  | some (.addCanisterController canisterId controllerId) =>
      .ok (projectId, .addCanisterController canisterId controllerId)
  | none => .error (.clientError "Failed to decode proposal request operation")

/-- The wire form of a proposal's status. -/
def mapProposalStatus : ProposalStatus → Dto.ProposalStatus
  | .open => .open
  | .pendingApproval threshold approvers votes =>
      .pendingApproval threshold (approvers.map Id.text)
        (votes.map fun (voter, vote) => ⟨voter.text, mapVote vote⟩)
  | .rejected => .rejected
  | .cancelled => .cancelled
  | .executing => .executing
  | .executed => .executed
  | .failed message => .failed message

/-- `map_proposal_response`. -/
def mapProposalResponse (proposalId : ProposalId) (proposal : Proposal) : Response :=
  .proposal
    { id := proposalId.text
      projectId := proposal.projectId.text
      proposerId := proposal.proposerId.text
      status := some (mapProposalStatus proposal.status)
      operation :=
        match proposal.operation with
        | .createCanister => some .createCanister
        | .addCanisterController canisterId controllerId =>
            some (.addCanisterController canisterId controllerId)
      createdAtNanos := proposal.createdAtNanos
      updatedAtNanos := proposal.updatedAtNanos }

/-- `map_operation_type_in`. -/
def mapOperationTypeIn : Dto.OperationType → OperationType
  | .createCanister => .createCanister
  | .addCanisterController => .addCanisterController

/-- `map_operation_type_out`. -/
def mapOperationTypeOut : OperationType → Dto.OperationType
  | .createCanister => .createCanister
  | .addCanisterController => .addCanisterController
  | .noop => .createCanister

/-- `map_policy_type_in`: a quorum of zero is refused. -/
def mapPolicyTypeIn : Dto.PolicyType → ApiResult PolicyType
  | .autoApprove => .ok .autoApprove
  | .fixedQuorum threshold =>
      if threshold < 1 then
        .error (.clientError "FixedQuorum threshold must be at least 1.")
      else
        .ok (.fixedQuorum threshold)

/-- `map_policy_type_out`. -/
def mapPolicyTypeOut : PolicyType → Dto.PolicyType
  | .autoApprove => .autoApprove
  | .fixedQuorum threshold => .fixedQuorum threshold

/-- `map_upsert_approval_policy_request`. -/
def mapUpsertApprovalPolicyRequest (projectId : String) (operationType : Dto.OperationType)
    (policyType : Dto.PolicyType) : ApiResult (ProjectId × OperationType × ApprovalPolicy) := do
  let projectId ← Id.tryFrom projectId
  let policyType ← mapPolicyTypeIn policyType
  .ok (projectId, mapOperationTypeIn operationType, ⟨policyType⟩)

/-- `map_approval_policy_response`. -/
def mapApprovalPolicyResponse (id : ApprovalPolicyId) (operationType : OperationType)
    (policy : ApprovalPolicy) : Response :=
  .approvalPolicy
    ⟨id.text, mapOperationTypeOut operationType, mapPolicyTypeOut policy.policyType⟩

/-- The stored form of a decision type. -/
def mapDecisionType : Dto.TermsAndConditionsDecisionType → TermsAndConditionsDecisionType
  | .accept => .accept
  | .reject => .reject

end SsnConsole.Backend
