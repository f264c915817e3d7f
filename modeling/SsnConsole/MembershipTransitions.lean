import SsnConsole.AccountServices
import SsnConsole.BackendAuthorization

/-!
# What the membership operations write

One constructor for each way in which an organization, team, project or invite
operation can end after writing, with everything that it checked before.  The
operations are unfolded here and nowhere else.
-/

namespace SsnConsole.Backend

open Std (ExtTreeMap)
open SsnConsole.MessageSlice

variable [Host]

/-- The stores with one more drawn identifier. -/
def Stores.drawOne (s : Stores) : Stores :=
  { s with drawn := s.drawn + 1 }

/-- The stores after a user has founded an organization. -/
def Stores.founding (s : Stores) (userId : UserId) (org : Organization) : Stores :=
  ((OrganizationService.foundOrganization userId org).run s).2

/-- Storing an approval policy touches the policies and the generator only. -/
theorem ApprovalPolicyRepository.upsertApprovalPolicy_frame
    (projectId : ProjectId)
    (operationType : OperationType)
    (policy : ApprovalPolicy)
    (s : Stores) :
    ∃ approvalPolicy drawn,
      s.drawn ≤ drawn ∧
        ((upsertApprovalPolicy projectId operationType policy).run s).2 =
          { s with approvalPolicy := approvalPolicy, drawn := drawn } := by
  change ∃ approvalPolicy drawn, s.drawn ≤ drawn ∧ (upsertApprovalPolicy _ _ _ s).2 = _
  unfold upsertApprovalPolicy
  split
  · exact ⟨_, s.drawn, le_refl _, rfl⟩
  · exact ⟨_, s.drawn + 1, by omega, rfl⟩

/-- Allowing both operation types touches the policies and the generator only. -/
theorem OrganizationService.autoApproveBoth_frame
    (projectId : ProjectId)
    (s : Stores) :
    ∃ approvalPolicy drawn,
      s.drawn ≤ drawn ∧
        ((autoApproveBoth projectId).run s).2 =
          { s with approvalPolicy := approvalPolicy, drawn := drawn } := by
  obtain ⟨firstPolicies, firstDrawn, firstGrown, first⟩ :=
    ApprovalPolicyRepository.upsertApprovalPolicy_frame projectId .createCanister
      ⟨.autoApprove⟩ s
  obtain ⟨secondPolicies, secondDrawn, secondGrown, second⟩ :=
    ApprovalPolicyRepository.upsertApprovalPolicy_frame projectId .addCanisterController
      ⟨.autoApprove⟩ { s with approvalPolicy := firstPolicies, drawn := firstDrawn }
  refine ⟨secondPolicies, secondDrawn, firstGrown.trans secondGrown, ?_⟩
  have sequence :
      ((autoApproveBoth projectId).run s).2 =
        ((ApprovalPolicyRepository.upsertApprovalPolicy projectId .addCanisterController
          ⟨.autoApprove⟩).run
          ((ApprovalPolicyRepository.upsertApprovalPolicy projectId .createCanister
            ⟨.autoApprove⟩).run s).2).2 :=
    rfl
  rw [sequence, first, second]

/-- A founder joins a new organization with one team and one linked project. -/
theorem Stores.founding_eq
    (s : Stores)
    (userId : UserId)
    (org : Organization) :
    ∃ approvalPolicy drawn,
      s.drawn + 3 ≤ drawn ∧
        s.founding userId org =
          { s with
            organization := s.organization.createOrg s.nextId userId org
            team :=
              s.team.createTeam s.drawOne.nextId userId s.nextId
                ⟨s.nextId, "Default Team"⟩
            project :=
              (s.project.createProject s.drawOne.drawOne.nextId s.nextId
                ⟨s.nextId, "Default Project"⟩).addTeamToProject s.drawOne.nextId
                  s.drawOne.drawOne.nextId
            approvalPolicy := approvalPolicy
            drawn := drawn } := by
  obtain ⟨approvalPolicy, drawn, grown, approved⟩ :=
    OrganizationService.autoApproveBoth_frame s.drawOne.drawOne.nextId
      { s with
        organization := s.organization.createOrg s.nextId userId org
        team :=
          s.team.createTeam s.drawOne.nextId userId s.nextId ⟨s.nextId, "Default Team"⟩
        project :=
          (s.project.createProject s.drawOne.drawOne.nextId s.nextId
            ⟨s.nextId, "Default Project"⟩).addTeamToProject s.drawOne.nextId
              s.drawOne.drawOne.nextId
        drawn := s.drawn + 3 }
  exact ⟨approvalPolicy, drawn, grown, approved⟩

/-- Requests that find their work already done. -/
inductive AlreadyDone (s : Stores) : Request → Prop
  | addUserToTeam
      {teamText userText : String}
      {teamId : TeamId}
      {userId : UserId}
      (teamParsed : Id.tryFrom teamText = .ok teamId)
      (userParsed : Id.tryFrom userText = .ok userId)
      (present : s.team.isUserInTeam userId teamId = true) :
      AlreadyDone s (.addUserToTeam teamText userText)
  | removeUserFromTeam
      {teamText userText : String}
      {teamId : TeamId}
      {userId : UserId}
      (teamParsed : Id.tryFrom teamText = .ok teamId)
      (userParsed : Id.tryFrom userText = .ok userId)
      (absent : s.team.isUserInTeam userId teamId = false) :
      AlreadyDone s (.removeUserFromTeam teamText userText)
  | addTeamToProject
      {projectText teamText : String}
      {projectId : ProjectId}
      {teamId : TeamId}
      (projectParsed : Id.tryFrom projectText = .ok projectId)
      (teamParsed : Id.tryFrom teamText = .ok teamId)
      (present : s.project.isTeamInProject teamId projectId = true) :
      AlreadyDone s (.addTeamToProject projectText teamText)
  | removeTeamFromProject
      {projectText teamText : String}
      {projectId : ProjectId}
      {teamId : TeamId}
      (projectParsed : Id.tryFrom projectText = .ok projectId)
      (teamParsed : Id.tryFrom teamText = .ok teamId)
      (absent : s.project.isTeamInProject teamId projectId = false) :
      AlreadyDone s (.removeTeamFromProject projectText teamText)

/-- The writes of the organization, team and project operations. -/
inductive MembershipWrite (call : Call) (s : Stores) : Request → Stores → Prop
  | alreadyDone
      {request : Request}
      (done : AlreadyDone s request) :
      MembershipWrite call s request s
  | createOrganization
      {userId : UserId}
      {text : String}
      {name : OrgName}
      (account : s.userProfile.getUserIdByPrincipal call.caller = some userId)
      (valid : OrgName.tryFrom text = .ok name) :
      MembershipWrite call s (.createOrganization text) (s.founding userId ⟨name.text⟩)
  | updateOrganization
      {orgText text : String}
      {orgId : OrgId}
      {auth : OrgAuth}
      {name : OrgName}
      {organization : OrganizationState}
      (parsed : Id.tryFrom orgText = .ok orgId)
      (granted : auth.Granted call.caller orgId OrgPermissions.ORG_ADMIN s)
      (valid : OrgName.tryFrom text = .ok name)
      (updated : s.organization.updateOrg auth.orgId ⟨name.text⟩ = .ok organization) :
      MembershipWrite call s (.updateOrganization orgText text)
        { s with organization := organization }
  | deleteOrganization
      {orgText : String}
      {orgId : OrgId}
      {auth : OrgAuth}
      {organization : OrganizationState}
      (parsed : Id.tryFrom orgText = .ok orgId)
      (granted : auth.Granted call.caller orgId OrgPermissions.ORG_ADMIN s)
      (another : s.organization.hasAtLeastNUserOrgs auth.userId 2 = true)
      (noProjects : s.project.orgHasProjects auth.orgId = false)
      (deleted : s.organization.deleteOrg auth.orgId = .ok organization) :
      MembershipWrite call s (.deleteOrganization orgText)
        { s with
          team := s.team.deleteOrgTeams auth.orgId
          organization := organization
          billingPlan := s.billingPlan.deletePlan auth.orgId }
  /-- The teams are gone, then the record turns out to be missing. -/
  | abandonDeletion
      {orgText : String}
      {orgId : OrgId}
      {auth : OrgAuth}
      {error : ApiError}
      (parsed : Id.tryFrom orgText = .ok orgId)
      (granted : auth.Granted call.caller orgId OrgPermissions.ORG_ADMIN s)
      (noProjects : s.project.orgHasProjects auth.orgId = false)
      (missing : s.organization.deleteOrg auth.orgId = .error error) :
      MembershipWrite call s (.deleteOrganization orgText)
        { s with team := s.team.deleteOrgTeams auth.orgId }
  | createTeam
      {orgText text : String}
      {orgId : OrgId}
      {auth : OrgAuth}
      {name : TeamName}
      (parsed : Id.tryFrom orgText = .ok orgId)
      (granted : auth.Granted call.caller orgId OrgPermissions.TEAM_MANAGE s)
      (valid : TeamName.tryFrom text = .ok name)
      (few : s.team.hasAtLeastNOrgTeams auth.orgId MAX_TEAMS_PER_ORG = false) :
      MembershipWrite call s (.createTeam orgText text)
        { s.drawOne with
          team :=
            s.team.createTeam s.nextId auth.userId auth.orgId ⟨auth.orgId, name.text⟩ }
  | updateTeam
      {teamText text : String}
      {teamId : TeamId}
      {existing : Team}
      {auth : OrgAuth}
      {name : TeamName}
      {team : TeamState}
      (parsed : Id.tryFrom teamText = .ok teamId)
      (access : TeamAccess call.caller teamId OrgPermissions.TEAM_MANAGE s existing auth)
      (valid : TeamName.tryFrom text = .ok name)
      (updated : s.team.updateTeam teamId ⟨existing.orgId, name.text⟩ = .ok team) :
      MembershipWrite call s (.updateTeam teamText text) { s with team := team }
  | deleteTeam
      {teamText : String}
      {teamId : TeamId}
      {existing : Team}
      {auth : OrgAuth}
      {team : TeamState}
      (parsed : Id.tryFrom teamText = .ok teamId)
      (access : TeamAccess call.caller teamId OrgPermissions.TEAM_MANAGE s existing auth)
      (another : s.team.hasAtLeastNOrgTeams auth.orgId 2 = true)
      (unlinked : s.project.teamHasProjects teamId = false)
      (adminRemains : s.team.orgAdminIsPopulatedExcludingTeam auth.orgId teamId = true)
      (deleted : s.team.deleteTeam teamId auth.orgId = .ok team) :
      MembershipWrite call s (.deleteTeam teamText)
        { s with project := s.project.removeTeamProjectLinks teamId, team := team }
  | addUserToTeam
      {teamText userText : String}
      {teamId : TeamId}
      {userId : UserId}
      {existing : Team}
      {auth : OrgAuth}
      (teamParsed : Id.tryFrom teamText = .ok teamId)
      (userParsed : Id.tryFrom userText = .ok userId)
      (access : TeamAccess call.caller teamId OrgPermissions.MEMBER_MANAGE s existing auth)
      (member : s.organization.isUserInOrg userId auth.orgId = true)
      (grantable :
        auth.perms.contains ((s.team.getOrgTeamPermissions auth.orgId teamId).getD .EMPTY) =
          true)
      (absent : s.team.isUserInTeam userId teamId = false) :
      MembershipWrite call s (.addUserToTeam teamText userText)
        { s with team := s.team.addUserToTeam userId teamId }
  | removeUserFromTeam
      {teamText userText : String}
      {teamId : TeamId}
      {userId : UserId}
      {existing : Team}
      {auth : OrgAuth}
      (teamParsed : Id.tryFrom teamText = .ok teamId)
      (userParsed : Id.tryFrom userText = .ok userId)
      (access : TeamAccess call.caller teamId OrgPermissions.MEMBER_MANAGE s existing auth)
      (present : s.team.isUserInTeam userId teamId = true)
      (adminRemains :
        s.team.orgAdminIsPopulatedExcludingTeamMember auth.orgId teamId userId = true) :
      MembershipWrite call s (.removeUserFromTeam teamText userText)
        { s with team := s.team.removeUserFromTeam userId teamId }
  | updateTeamOrgPermissions
      {teamText : String}
      {permissions : Dto.OrgPermissions}
      {teamId : TeamId}
      {existing : Team}
      {auth : OrgAuth}
      (parsed : Id.tryFrom teamText = .ok teamId)
      (access : TeamAccess call.caller teamId OrgPermissions.ORG_ADMIN s existing auth)
      (grantable : auth.perms.contains (mapOrgPermissionsFromDto permissions) = true)
      (adminRemains :
        (mapOrgPermissionsFromDto permissions).contains OrgPermissions.ORG_ADMIN = true ∨
          s.team.orgAdminIsPopulatedExcludingTeam auth.orgId teamId = true) :
      MembershipWrite call s (.updateTeamOrgPermissions teamText permissions)
        { s with
          team :=
            s.team.setOrgTeamPermissions auth.orgId teamId
              (mapOrgPermissionsFromDto permissions) }
  | createProject
      {orgText text : String}
      {orgId : OrgId}
      {auth : OrgAuth}
      {name : ProjectName}
      (parsed : Id.tryFrom orgText = .ok orgId)
      (granted : auth.Granted call.caller orgId OrgPermissions.PROJECT_CREATE s)
      (valid : ProjectName.tryFrom text = .ok name) :
      MembershipWrite call s (.createProject orgText text)
        { s.drawOne with
          project :=
            (s.team.listUserTeamsInOrg auth.userId auth.orgId).foldl
              (fun state teamId => state.addTeamToProject teamId s.nextId)
              (s.project.createProject s.nextId auth.orgId ⟨auth.orgId, name.text⟩) }
  | updateProject
      {projectText text : String}
      {projectId : ProjectId}
      {auth : ProjectAuth}
      {name : ProjectName}
      {project : ProjectState}
      (parsed : Id.tryFrom projectText = .ok projectId)
      (granted :
        auth.Granted call.caller projectId ProjectPermissions.PROJECT_SETTINGS s)
      (valid : ProjectName.tryFrom text = .ok name)
      (updated :
        s.project.updateProject auth.projectId ⟨auth.orgId, name.text⟩ = .ok project) :
      MembershipWrite call s (.updateProject projectText text) { s with project := project }
  | deleteProject
      {projectText : String}
      {projectId : ProjectId}
      {auth : ProjectAuth}
      {project : ProjectState}
      (parsed : Id.tryFrom projectText = .ok projectId)
      (granted : auth.Granted call.caller projectId ProjectPermissions.PROJECT_ADMIN s)
      (another : s.project.hasAtLeastNOrgProjects auth.orgId 2 = true)
      (emptied : s.canister.projectHasCanisters auth.projectId = false)
      (deleted : s.project.deleteProject auth.projectId auth.orgId = .ok project) :
      MembershipWrite call s (.deleteProject projectText) { s with project := project }
  | addTeamToProject
      {projectText teamText : String}
      {projectId : ProjectId}
      {teamId : TeamId}
      {auth : ProjectAuth}
      (projectParsed : Id.tryFrom projectText = .ok projectId)
      (teamParsed : Id.tryFrom teamText = .ok teamId)
      (granted : auth.Granted call.caller projectId ProjectPermissions.PROJECT_ADMIN s)
      (sameOrg : (s.team.getTeam teamId).map Team.orgId = some auth.orgId)
      (absent : s.project.isTeamInProject teamId auth.projectId = false) :
      MembershipWrite call s (.addTeamToProject projectText teamText)
        { s with project := s.project.addTeamToProject teamId auth.projectId }
  | removeTeamFromProject
      {projectText teamText : String}
      {projectId : ProjectId}
      {teamId : TeamId}
      {auth : ProjectAuth}
      (projectParsed : Id.tryFrom projectText = .ok projectId)
      (teamParsed : Id.tryFrom teamText = .ok teamId)
      (granted : auth.Granted call.caller projectId ProjectPermissions.PROJECT_ADMIN s)
      (present : s.project.isTeamInProject teamId auth.projectId = true)
      (another : 2 ≤ s.project.projectTeamCount auth.projectId) :
      MembershipWrite call s (.removeTeamFromProject projectText teamText)
        { s with project := s.project.removeTeamFromProject teamId auth.projectId }
  | updateTeamProjectPermissions
      {projectText teamText : String}
      {permissions : Dto.ProjectPermissions}
      {projectId : ProjectId}
      {teamId : TeamId}
      {auth : ProjectAuth}
      (projectParsed : Id.tryFrom projectText = .ok projectId)
      (teamParsed : Id.tryFrom teamText = .ok teamId)
      (granted : auth.Granted call.caller projectId ProjectPermissions.PROJECT_ADMIN s)
      (sameOrg : (s.team.getTeam teamId).map Team.orgId = some auth.orgId)
      (present : s.project.isTeamInProject teamId auth.projectId = true)
      (grantable : auth.perms.contains (mapProjectPermissionsFromDto permissions) = true) :
      MembershipWrite call s (.updateTeamProjectPermissions projectText teamText permissions)
        { s with
          project :=
            s.project.setProjectTeamPermissions auth.projectId teamId
              (mapProjectPermissionsFromDto permissions) }

/-- The writes of the invite operations. -/
inductive InviteWrite (call : Call) (s : Stores) : Request → Stores → Prop
  /-- Expired invites are swept although no new one may be created. -/
  | sweep
      {orgText : String}
      {target : Dto.InviteTarget}
      {orgId : OrgId} :
      InviteWrite call s (.createOrgInvite orgText target)
        { s with invite := s.invite.sweepExpiredOrgInvites orgId call.now }
  | create
      {orgText : String}
      {target : Dto.InviteTarget}
      {orgId : OrgId}
      {auth : OrgAuth}
      {invite : OrgInvite}
      (granted : auth.Granted call.caller orgId OrgPermissions.MEMBER_MANAGE s)
      (sameOrg : invite.orgId = orgId) :
      InviteWrite call s (.createOrgInvite orgText target)
        { s.drawOne with
          invite :=
            (s.invite.sweepExpiredOrgInvites orgId call.now).createInvite s.nextId invite }
  | revoke
      {inviteText : String}
      {inviteId : InviteId}
      {stored : OrgInvite}
      {invite : InviteState}
      (found : s.invite.getInvite inviteId = some stored)
      (updated :
        s.invite.updateInvite inviteId { stored with status := .revoked } = .ok invite) :
      InviteWrite call s (.revokeOrgInvite inviteText) { s with invite := invite }
  | accept
      {inviteText : String}
      {inviteId : InviteId}
      {stored : OrgInvite}
      {userId : UserId}
      {profile : UserProfile}
      {invite : InviteState}
      (account : s.userProfile.getUserIdByPrincipal call.caller = some userId)
      (profileStored : s.userProfile.getUserProfileByUserId userId = some profile)
      (found : s.invite.getInvite inviteId = some stored)
      (absent : s.organization.isUserInOrg userId stored.orgId = false)
      (updated :
        s.invite.updateInvite inviteId { stored with status := .accepted } = .ok invite) :
      InviteWrite call s (.acceptOrgInvite inviteText)
        { s with
          organization := s.organization.addUserToOrg userId stored.orgId
          invite := invite }
  /-- The invitee is a member already; only the invite changes. -/
  | acceptAsMember
      {inviteText : String}
      {inviteId : InviteId}
      {stored : OrgInvite}
      {invite : InviteState}
      (found : s.invite.getInvite inviteId = some stored)
      (updated :
        s.invite.updateInvite inviteId { stored with status := .accepted } = .ok invite) :
      InviteWrite call s (.acceptOrgInvite inviteText) { s with invite := invite }
  | decline
      {inviteText : String}
      {inviteId : InviteId}
      {stored : OrgInvite}
      {invite : InviteState}
      (found : s.invite.getInvite inviteId = some stored)
      (updated :
        s.invite.updateInvite inviteId { stored with status := .declined } = .ok invite) :
      InviteWrite call s (.declineOrgInvite inviteText) { s with invite := invite }

omit [Host] in
/-- A check that a stored value has an expected view fails unless it has it. -/
private theorem map_eq_some_of_any
    {α β : Type}
    [DecidableEq β]
    {value : Option α}
    {view : α → β}
    {expected : β}
    (held : (!value.any fun stored => decide (view stored = expected)) = false) :
    value.map view = some expected := by
  cases value with
  | none =>
      simp at held
  | some stored =>
      simpa using held

/-- Deleting a stored team succeeds. -/
private theorem deleteTeam_ne_error
    {state : TeamState}
    {teamId : TeamId}
    {team : Team}
    {orgId : OrgId}
    {error : ApiError}
    (stored : state.getTeam teamId = some team) :
    state.deleteTeam teamId orgId ≠ .error error := by
  have contained : state.teams.contains teamId = true := by
    rw [ExtTreeMap.contains_eq_isSome_getElem?]
    exact Option.isSome_of_eq_some stored
  simp [TeamState.deleteTeam, contained]

/-- Updating a stored invite succeeds. -/
theorem updateInvite_ne_error
    {state : InviteState}
    {inviteId : InviteId}
    {stored invite : OrgInvite}
    {error : ApiError}
    (found : state.getInvite inviteId = some stored) :
    state.updateInvite inviteId invite ≠ .error error := by
  have lookup : state.invites[inviteId]? = some stored := found
  simp [InviteState.updateInvite, lookup]

namespace OrganizationService

/-- What `create_organization` writes. -/
theorem createOrganization_settles
    (call : Call)
    (text : String)
    (s : Stores) :
    Settles (createOrganization call text) s fun _ after =>
      MembershipWrite call s (.createOrganization text) after := by
  refine .check fun userId resolved => .require fun name valid => .rejectIf fun _ => ?_
  exact .createOrganization (UserProfileState.assertUserIdByPrincipal_ok resolved) valid

/-- What `update_organization` writes. -/
theorem updateOrganization_settles
    (call : Call)
    (orgText text : String)
    (s : Stores) :
    Settles (updateOrganization call orgText text) s fun _ after =>
      MembershipWrite call s (.updateOrganization orgText text) after := by
  refine
    .require fun orgId parsed => .check fun auth accepted => .require fun name valid =>
      .tryWrite fun after written => ?_
  obtain ⟨organization, updated, rfl⟩ := map_eq_ok.mp written
  exact .updateOrganization parsed (OrgAuth.require_ok accepted) valid updated

/-- What `delete_organization` writes: its last check comes after its first write. -/
theorem deleteOrganization_ends
    (call : Call)
    (orgText : String)
    (s : Stores) :
    Ends (deleteOrganization call orgText) s
      (fun _ after => MembershipWrite call s (.deleteOrganization orgText) after)
      (fun _ after =>
        after = s ∨ MembershipWrite call s (.deleteOrganization orgText) after) := by
  simp only [deleteOrganization, ends_bind, ends_require, ends_check, ends_rejectIf,
    ends_write, ends_tryWrite, ends_pure, map_eq_ok, map_eq_error, true_or, implies_true,
    and_true]
  intro orgId parsed auth accepted another noProjects
  have granted := OrgAuth.require_ok accepted
  constructor
  · rintro after ⟨organization, deleted, rfl⟩
    exact .deleteOrganization parsed granted (by simpa using another) noProjects deleted
  · intro error missing
    exact .inr (.abandonDeletion parsed granted noProjects missing)

end OrganizationService

namespace TeamService

/-- What `create_team` writes. -/
theorem createTeam_settles
    (call : Call)
    (orgText text : String)
    (s : Stores) :
    Settles (createTeam call orgText text) s fun _ after =>
      MembershipWrite call s (.createTeam orgText text) after := by
  refine
    .require fun orgId parsed => .check fun auth accepted => .require fun name valid =>
      .rejectIf fun few => ?_
  exact .createTeam parsed (OrgAuth.require_ok accepted) valid few

/-- What `update_team` writes. -/
theorem updateTeam_settles
    (call : Call)
    (teamText text : String)
    (s : Stores) :
    Settles (updateTeam call teamText text) s fun _ after =>
      MembershipWrite call s (.updateTeam teamText text) after := by
  refine
    .require fun teamId parsed => .check fun (existing, auth) accepted =>
      .require fun name valid => .tryWrite fun after written => ?_
  obtain ⟨team, updated, rfl⟩ := map_eq_ok.mp written
  exact .updateTeam parsed (requireTeamAccess_ok accepted) valid updated

/-- What `delete_team` writes: the team is stored, so its deletion succeeds. -/
theorem deleteTeam_settles
    (call : Call)
    (teamText : String)
    (s : Stores) :
    Settles (deleteTeam call teamText) s fun _ after =>
      MembershipWrite call s (.deleteTeam teamText) after := by
  refine
    .require fun teamId parsed => .check fun (existing, auth) accepted =>
      .rejectIf fun another => .rejectIf fun unlinked => .check fun _ populated => ?_
  have access := requireTeamAccess_ok accepted
  simp only [ends_bind, ends_write, ends_tryWrite, ends_pure, map_eq_ok, map_eq_error]
  constructor
  · rintro after ⟨team, deleted, rfl⟩
    exact
      .deleteTeam parsed access (by simpa using another) unlinked
        (assertOrgAdminPopulatedAfterRemovingTeam_ok populated) deleted
  · intro error failed
    exact (deleteTeam_ne_error access.stored failed).elim

/-- What `add_user_to_team` writes. -/
theorem addUserToTeam_settles
    (call : Call)
    (teamText userText : String)
    (s : Stores) :
    Settles (addUserToTeam call teamText userText) s fun _ after =>
      MembershipWrite call s (.addUserToTeam teamText userText) after := by
  refine
    .require fun teamId teamParsed => .require fun userId userParsed =>
      .check fun (existing, auth) accepted => .check fun _ isMember =>
        .inspect <| .require fun _ within => .inspect <|
          .ite (fun present => ?_) (fun absent => ?_)
  · exact .alreadyDone (.addUserToTeam teamParsed userParsed present)
  · exact
      .addUserToTeam teamParsed userParsed (requireTeamAccess_ok accepted)
        (OrgAuth.assertMember_ok isMember) (OrgAuth.assertCanGrant_ok.mp within)
        (by simpa using absent)

/-- What `remove_user_from_team` writes. -/
theorem removeUserFromTeam_settles
    (call : Call)
    (teamText userText : String)
    (s : Stores) :
    Settles (removeUserFromTeam call teamText userText) s fun _ after =>
      MembershipWrite call s (.removeUserFromTeam teamText userText) after := by
  refine
    .require fun teamId teamParsed => .require fun userId userParsed =>
      .check fun (existing, auth) accepted => .inspect <|
        .ite (fun absent => ?_) (fun present => .rejectIf fun adminRemains => ?_)
  · exact .alreadyDone (.removeUserFromTeam teamParsed userParsed (by simpa using absent))
  · exact
      .removeUserFromTeam teamParsed userParsed (requireTeamAccess_ok accepted)
        (by simpa using present) (by simpa using adminRemains)

/-- What `update_team_org_permissions` writes. -/
theorem updateTeamOrgPermissions_settles
    (call : Call)
    (teamText : String)
    (permissions : Dto.OrgPermissions)
    (s : Stores) :
    Settles (updateTeamOrgPermissions call teamText permissions) s fun _ after =>
      MembershipWrite call s (.updateTeamOrgPermissions teamText permissions) after := by
  refine
    .require fun teamId parsed => .check fun (existing, auth) accepted =>
      .require fun _ within => .check fun _ populated => ?_
  refine
    .updateTeamOrgPermissions parsed (requireTeamAccess_ok accepted)
      (OrgAuth.assertCanGrant_ok.mp within) ?_
  by_cases keepsAdmin :
      (mapOrgPermissionsFromDto permissions).contains OrgPermissions.ORG_ADMIN = true
  · exact .inl keepsAdmin
  · rw [if_pos (by simpa using keepsAdmin)] at populated
    exact .inr (assertOrgAdminPopulatedAfterRemovingTeam_ok populated)

end TeamService

namespace ProjectService

/-- What `create_project` writes. -/
theorem createProject_settles
    (call : Call)
    (orgText text : String)
    (s : Stores) :
    Settles (createProject call orgText text) s fun _ after =>
      MembershipWrite call s (.createProject orgText text) after := by
  refine
    .require fun orgId parsed => .check fun auth accepted => .require fun name valid =>
      .rejectIf fun _ => ?_
  exact .createProject parsed (OrgAuth.require_ok accepted) valid

/-- What `update_project` writes. -/
theorem updateProject_settles
    (call : Call)
    (projectText text : String)
    (s : Stores) :
    Settles (updateProject call projectText text) s fun _ after =>
      MembershipWrite call s (.updateProject projectText text) after := by
  refine
    .require fun projectId parsed => .check fun auth accepted =>
      .require fun name valid => .tryWrite fun after written => ?_
  obtain ⟨project, updated, rfl⟩ := map_eq_ok.mp written
  exact .updateProject parsed (ProjectAuth.require_ok accepted) valid updated

/-- What `delete_project` writes. -/
theorem deleteProject_settles
    (call : Call)
    (projectText : String)
    (s : Stores) :
    Settles (deleteProject call projectText) s fun _ after =>
      MembershipWrite call s (.deleteProject projectText) after := by
  refine
    .require fun projectId parsed => .check fun auth accepted => .rejectIf fun another =>
      .rejectIf fun emptied => .tryWrite fun after written => ?_
  obtain ⟨project, deleted, rfl⟩ := map_eq_ok.mp written
  exact
    .deleteProject parsed (ProjectAuth.require_ok accepted) (by simpa using another) emptied
      deleted

/-- What `add_team_to_project` writes. -/
theorem addTeamToProject_settles
    (call : Call)
    (projectText teamText : String)
    (s : Stores) :
    Settles (addTeamToProject call projectText teamText) s fun _ after =>
      MembershipWrite call s (.addTeamToProject projectText teamText) after := by
  refine
    .require fun projectId projectParsed => .require fun teamId teamParsed =>
      .check fun auth accepted => .rejectIf fun found => .inspect <|
        .ite (fun present => ?_) (fun absent => ?_)
  · have granted := ProjectAuth.require_ok accepted
    rw [granted.project] at present
    exact .alreadyDone (.addTeamToProject projectParsed teamParsed present)
  · exact
      .addTeamToProject projectParsed teamParsed (ProjectAuth.require_ok accepted)
        (map_eq_some_of_any found) (by simpa using absent)

/-- What `remove_team_from_project` writes. -/
theorem removeTeamFromProject_settles
    (call : Call)
    (projectText teamText : String)
    (s : Stores) :
    Settles (removeTeamFromProject call projectText teamText) s fun _ after =>
      MembershipWrite call s (.removeTeamFromProject projectText teamText) after := by
  refine
    .require fun projectId projectParsed => .require fun teamId teamParsed =>
      .check fun auth accepted => .inspect <|
        .ite (fun absent => ?_) (fun present => .rejectIf fun another => ?_)
  · have granted := ProjectAuth.require_ok accepted
    rw [granted.project] at absent
    exact
      .alreadyDone (.removeTeamFromProject projectParsed teamParsed (by simpa using absent))
  · exact
      .removeTeamFromProject projectParsed teamParsed (ProjectAuth.require_ok accepted)
        (by simpa using present) (Nat.not_lt.mp (of_decide_eq_false another))

/-- What `update_team_project_permissions` writes. -/
theorem updateTeamProjectPermissions_settles
    (call : Call)
    (projectText teamText : String)
    (permissions : Dto.ProjectPermissions)
    (s : Stores) :
    Settles (updateTeamProjectPermissions call projectText teamText permissions) s
      fun _ after =>
        MembershipWrite call s
          (.updateTeamProjectPermissions projectText teamText permissions) after := by
  refine
    .require fun projectId projectParsed => .require fun teamId teamParsed =>
      .check fun auth accepted => .lookup fun team found => .rejectIf fun linked =>
        .require fun _ within => ?_
  refine
    .updateTeamProjectPermissions projectParsed teamParsed (ProjectAuth.require_ok accepted)
      ?_ (by simpa using linked) (ProjectAuth.assertCanGrant_ok.mp within)
  obtain ⟨stored, sameOrg⟩ := Option.filter_eq_some_iff.mp found
  simpa [stored] using sameOrg

end ProjectService

namespace InviteService

/-- What `create_org_invite` writes: the sweep also precedes a refusal. -/
theorem createOrgInvite_ends
    (call : Call)
    (orgText : String)
    (target : Dto.InviteTarget)
    (s : Stores) :
    Ends (createOrgInvite call orgText target) s
      (fun _ after => InviteWrite call s (.createOrgInvite orgText target) after)
      (fun _ after =>
        after = s ∨ InviteWrite call s (.createOrgInvite orgText target) after) := by
  simp only [createOrgInvite, ends_bind, ends_require, ends_check, ends_rejectIf,
    ends_write, ends_commit, ends_inspect, ends_pure, true_or, implies_true, and_true]
  intro orgId _ auth accepted _ _ _
  constructor
  · intro _
    exact .create (OrgAuth.require_ok accepted) rfl
  · intro _
    exact .inr .sweep

/-- What `revoke_org_invite` writes. -/
theorem revokeOrgInvite_settles
    (call : Call)
    (inviteText : String)
    (s : Stores) :
    Settles (revokeOrgInvite call inviteText) s fun _ after =>
      InviteWrite call s (.revokeOrgInvite inviteText) after := by
  refine
    .require fun inviteId _ => .lookup fun stored found => .check fun auth _ =>
      .rejectIf fun _ => .rejectIf fun _ => .tryWrite fun after written => ?_
  obtain ⟨invite, updated, rfl⟩ := map_eq_ok.mp written
  exact .revoke found updated

/-- What the checks of an invitee establish. -/
theorem actionableInvite_settles
    (call : Call)
    (inviteText : String)
    (s : Stores) :
    Settles (actionableInvite call inviteText) s fun actionable after =>
      after = s ∧
        s.userProfile.getUserIdByPrincipal call.caller = some actionable.2.1 ∧
        (∃ profile,
          s.userProfile.getUserProfileByUserId actionable.2.1 = some profile) ∧
        s.invite.getInvite actionable.1 = some actionable.2.2 := by
  refine
    .require fun inviteId _ => .check fun userId resolved => .lookup fun profile known =>
      .inspect <| .lookup fun stored found => .require fun _ _ => ?_
  exact
    ⟨rfl, UserProfileState.assertUserIdByPrincipal_ok resolved, ⟨profile, known⟩, found⟩

/-- What `accept_org_invite` writes: the invite is stored, so its update succeeds. -/
theorem acceptOrgInvite_settles
    (call : Call)
    (inviteText : String)
    (s : Stores) :
    Settles (acceptOrgInvite call inviteText) s fun _ after =>
      InviteWrite call s (.acceptOrgInvite inviteText) after := by
  refine ends_bind.mpr ((actionableInvite_settles call inviteText s).mono ?_ fun _ _ => id)
  rintro ⟨inviteId, userId, stored⟩ current ⟨rfl, account, ⟨profile, known⟩, found⟩
  by_cases present : current.organization.isUserInOrg userId stored.orgId = true
  · simp only [ends_bind, ends_write, ends_tryWrite, ends_pure, map_eq_ok, map_eq_error,
      if_pos present]
    constructor
    · rintro after ⟨invite, updated, rfl⟩
      exact .acceptAsMember found updated
    · intro error failed
      exact (updateInvite_ne_error found failed).elim
  · simp only [ends_bind, ends_write, ends_tryWrite, ends_pure, map_eq_ok, map_eq_error,
      if_neg present]
    constructor
    · rintro after ⟨invite, updated, rfl⟩
      exact .accept account known found (by simpa using present) updated
    · intro error failed
      exact (updateInvite_ne_error found failed).elim

/-- What `decline_org_invite` writes. -/
theorem declineOrgInvite_settles
    (call : Call)
    (inviteText : String)
    (s : Stores) :
    Settles (declineOrgInvite call inviteText) s fun _ after =>
      InviteWrite call s (.declineOrgInvite inviteText) after := by
  refine ends_bind.mpr ((actionableInvite_settles call inviteText s).mono ?_ fun _ _ => id)
  rintro ⟨inviteId, userId, stored⟩ current ⟨rfl, -, -, found⟩
  refine Settles.tryWrite fun after written => ?_
  obtain ⟨invite, updated, rfl⟩ := map_eq_ok.mp written
  exact .decline found updated

end InviteService

end SsnConsole.Backend
