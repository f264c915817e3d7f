import SsnConsole.BackendAccess
import SsnConsole.BackendMessages

/-!
# Organization, team and project services

The operations of `organization_service`, `team_service` and
`project_service`: each parses its request, asks access control, checks its
own conditions and only then writes.
-/

namespace SsnConsole.Backend

open SsnConsole.MessageSlice

/-- A backend operation between two awaits. -/
abbrev Service (α : Type) :=
  Slice Stores ApiError α

variable [Host]

/-- Draw an identifier and insert what it names. -/
def drawing {marker : Marker} (insert : Id marker → Stores → Stores) :
    StateM Stores (Id marker) :=
  fun s => (s.nextId, insert s.nextId { s with drawn := s.drawn + 1 })

namespace OrganizationRepository

/-- `organization_repository::create_org`. -/
def createOrg (userId : UserId) (org : Organization) : StateM Stores OrgId :=
  drawing fun orgId s => { s with organization := s.organization.createOrg orgId userId org }

/-- The organization that `organization_repository::add_default_org` creates. -/
def defaultOrganization : Organization :=
  ⟨"Default Organization"⟩

end OrganizationRepository

namespace TeamRepository

/-- `team_repository::create_team`. -/
def createTeam (userId : UserId) (orgId : OrgId) (team : Team) : StateM Stores TeamId :=
  drawing fun teamId s => { s with team := s.team.createTeam teamId userId orgId team }

/-- `team_repository::add_default_team`. -/
def addDefaultTeam (userId : UserId) (orgId : OrgId) : StateM Stores TeamId :=
  createTeam userId orgId ⟨orgId, "Default Team"⟩

end TeamRepository

namespace ProjectRepository

/-- `project_repository::create_project`. -/
def createProject (orgId : OrgId) (project : Project) : StateM Stores ProjectId :=
  drawing fun projectId s =>
    { s with project := s.project.createProject projectId orgId project }

/-- `project_repository::add_default_project`: a project linked to the team. -/
def addDefaultProject (teamId : TeamId) (orgId : OrgId) : StateM Stores ProjectId := do
  let projectId ← createProject orgId ⟨orgId, "Default Project"⟩
  modify fun s => { s with project := s.project.addTeamToProject teamId projectId }
  return projectId

end ProjectRepository

namespace ApprovalPolicyRepository

/-- `approval_policy_repository::upsert_approval_policy`: a stored policy keeps its id. -/
def upsertApprovalPolicy (projectId : ProjectId) (operationType : OperationType)
    (approvalPolicy : ApprovalPolicy) : StateM Stores ApprovalPolicyId :=
  fun s =>
    match
      s.approvalPolicy.projectOperationTypeApprovalPolicyIndex[(projectId, operationType)]?
    with
    | some policyId =>
        (policyId,
          { s with
            approvalPolicy :=
              s.approvalPolicy.upsertApprovalPolicy policyId projectId operationType
                approvalPolicy })
    | none =>
        drawing
          (fun policyId s =>
            { s with
              approvalPolicy :=
                s.approvalPolicy.upsertApprovalPolicy policyId projectId operationType
                  approvalPolicy })
          s

end ApprovalPolicyRepository

def MAX_TEAMS_PER_ORG : Nat := 50
def MAX_PROJECTS_PER_ORG : Nat := 50
def MAX_ORGS_PER_USER : Nat := 20

namespace OrganizationService

/-- Allow both operation types of a new project without a vote. -/
def autoApproveBoth (projectId : ProjectId) : StateM Stores Unit := do
  let _ ←
    ApprovalPolicyRepository.upsertApprovalPolicy projectId .createCanister ⟨.autoApprove⟩
  let _ ←
    ApprovalPolicyRepository.upsertApprovalPolicy projectId .addCanisterController
      ⟨.autoApprove⟩

/-- A new organization of a user, with its default team and default project. -/
def foundOrganization (userId : UserId) (org : Organization) : StateM Stores OrgId := do
  let orgId ← OrganizationRepository.createOrg userId org
  let teamId ← TeamRepository.addDefaultTeam userId orgId
  let projectId ← ProjectRepository.addDefaultProject teamId orgId
  autoApproveBoth projectId
  return orgId

/-- `create_organization`. -/
def createOrganization (call : Call) (name : String) : Service Response := do
  let userId ← check fun s => s.userProfile.assertUserIdByPrincipal call.caller
  let name ← require (OrgName.tryFrom name)
  rejectIf (fun s => s.organization.hasAtLeastNUserOrgs userId MAX_ORGS_PER_USER)
    (.clientError s!"Cannot create more than {MAX_ORGS_PER_USER} organizations.")
  let org : Organization := ⟨name.text⟩
  let orgId ← commit (foundOrganization userId org)
  return mapOrganizationToResponse orgId org OrgPermissions.ALL

/-- `update_organization`. -/
def updateOrganization (call : Call) (orgId name : String) : Service Response := do
  let orgId ← require (Id.tryFrom orgId)
  let auth ← check (OrgAuth.require call.caller orgId OrgPermissions.ORG_ADMIN)
  let name ← require (OrgName.tryFrom name)
  let org : Organization := ⟨name.text⟩
  tryWrite fun s =>
    (s.organization.updateOrg auth.orgId org).map fun organization =>
      { s with organization := organization }
  return mapOrganizationToResponse auth.orgId org auth.perms

/-- `delete_organization`. -/
def deleteOrganization (call : Call) (orgId : String) : Service Response := do
  let orgId ← require (Id.tryFrom orgId)
  let auth ← check (OrgAuth.require call.caller orgId OrgPermissions.ORG_ADMIN)
  rejectIf (fun s => !s.organization.hasAtLeastNUserOrgs auth.userId 2)
    (.clientError "Cannot delete your last organization.")
  rejectIf (fun s => s.project.orgHasProjects auth.orgId)
    (.clientError
      "Cannot delete an organization that still has projects. Remove all projects first.")
  write fun s => { s with team := s.team.deleteOrgTeams auth.orgId }
  tryWrite fun s =>
    (s.organization.deleteOrg auth.orgId).map fun organization =>
      { s with organization := organization }
  write fun s => { s with billingPlan := s.billingPlan.deletePlan auth.orgId }
  return .unit

end OrganizationService

namespace TeamService

/-- `create_team`. -/
def createTeam (call : Call) (orgId name : String) : Service Response := do
  let orgId ← require (Id.tryFrom orgId)
  let auth ← check (OrgAuth.require call.caller orgId OrgPermissions.TEAM_MANAGE)
  let name ← require (TeamName.tryFrom name)
  rejectIf (fun s => s.team.hasAtLeastNOrgTeams auth.orgId MAX_TEAMS_PER_ORG)
    (.clientError s!"Cannot create more than {MAX_TEAMS_PER_ORG} teams per organization.")
  let team : Team := ⟨auth.orgId, name.text⟩
  let teamId ← commit (TeamRepository.createTeam auth.userId auth.orgId team)
  return mapTeamToResponse teamId team

/-- `update_team`. -/
def updateTeam (call : Call) (teamId name : String) : Service Response := do
  let teamId ← require (Id.tryFrom teamId)
  let (existing, _) ←
    check (requireTeamAccess call.caller teamId OrgPermissions.TEAM_MANAGE)
  let name ← require (TeamName.tryFrom name)
  let team : Team := ⟨existing.orgId, name.text⟩
  tryWrite fun s => (s.team.updateTeam teamId team).map fun team => { s with team := team }
  return mapTeamToResponse teamId team

/-- `delete_team`. -/
def deleteTeam (call : Call) (teamId : String) : Service Response := do
  let teamId ← require (Id.tryFrom teamId)
  let (_, auth) ← check (requireTeamAccess call.caller teamId OrgPermissions.TEAM_MANAGE)
  rejectIf (fun s => !s.team.hasAtLeastNOrgTeams auth.orgId 2)
    (.clientError "Cannot delete the last team in an organization.")
  rejectIf (fun s => s.project.teamHasProjects teamId)
    (.clientError "Cannot delete a team that still has projects. Remove all projects first.")
  check (assertOrgAdminPopulatedAfterRemovingTeam auth.orgId teamId)
  write fun s => { s with project := s.project.removeTeamProjectLinks teamId }
  tryWrite fun s =>
    (s.team.deleteTeam teamId auth.orgId).map fun team => { s with team := team }
  return .unit

/-- `add_user_to_team`. -/
def addUserToTeam (call : Call) (teamId userId : String) : Service Response := do
  let teamId ← require (Id.tryFrom teamId)
  let targetUserId ← require (Id.tryFrom userId)
  let (_, auth) ← check (requireTeamAccess call.caller teamId OrgPermissions.MEMBER_MANAGE)
  check (auth.assertMember targetUserId)
  let destPerms ←
    inspect fun s => (s.team.getOrgTeamPermissions auth.orgId teamId).getD .EMPTY
  require (auth.assertCanGrant destPerms)
  if ← inspect fun s => s.team.isUserInTeam targetUserId teamId then
    return .unit
  else
    write fun s => { s with team := s.team.addUserToTeam targetUserId teamId }
    return .unit

/-- `remove_user_from_team`. -/
def removeUserFromTeam (call : Call) (teamId userId : String) : Service Response := do
  let teamId ← require (Id.tryFrom teamId)
  let targetUserId ← require (Id.tryFrom userId)
  let (_, auth) ← check (requireTeamAccess call.caller teamId OrgPermissions.MEMBER_MANAGE)
  if ← inspect fun s => !s.team.isUserInTeam targetUserId teamId then
    return .unit
  else
    rejectIf
      (fun s =>
        !s.team.orgAdminIsPopulatedExcludingTeamMember auth.orgId teamId targetUserId)
      (orgAdminMustRemain auth.orgId)
    write fun s => { s with team := s.team.removeUserFromTeam targetUserId teamId }
    return .unit

/-- `update_team_org_permissions`. -/
def updateTeamOrgPermissions (call : Call) (teamId : String)
    (permissions : Dto.OrgPermissions) : Service Response := do
  let teamId ← require (Id.tryFrom teamId)
  let (team, auth) ← check (requireTeamAccess call.caller teamId OrgPermissions.ORG_ADMIN)
  let newPerms := mapOrgPermissionsFromDto permissions
  require (auth.assertCanGrant newPerms)
  check fun s =>
    if !newPerms.contains OrgPermissions.ORG_ADMIN then
      assertOrgAdminPopulatedAfterRemovingTeam auth.orgId teamId s
    else
      .ok ()
  write fun s => { s with team := s.team.setOrgTeamPermissions auth.orgId teamId newPerms }
  return .orgTeam (mapOrgTeam teamId team newPerms)

end TeamService

namespace ProjectService

/-- `create_project`: every team of the creator in the organization is linked. -/
def createProject (call : Call) (orgId name : String) : Service Response := do
  let orgId ← require (Id.tryFrom orgId)
  let auth ← check (OrgAuth.require call.caller orgId OrgPermissions.PROJECT_CREATE)
  let name ← require (ProjectName.tryFrom name)
  rejectIf (fun s => s.project.hasAtLeastNOrgProjects auth.orgId MAX_PROJECTS_PER_ORG)
    (.clientError
      s!"Cannot create more than {MAX_PROJECTS_PER_ORG} projects per organization.")
  let project : Project := ⟨auth.orgId, name.text⟩
  let projectId ← commit (ProjectRepository.createProject auth.orgId project)
  write fun s =>
    { s with
      project :=
        (s.team.listUserTeamsInOrg auth.userId auth.orgId).foldl
          (fun state teamId => state.addTeamToProject teamId projectId) s.project }
  return mapProjectToResponse projectId project ProjectPermissions.ALL

/-- `update_project`. -/
def updateProject (call : Call) (projectId name : String) : Service Response := do
  let projectId ← require (Id.tryFrom projectId)
  let auth ←
    check (ProjectAuth.require call.caller projectId ProjectPermissions.PROJECT_SETTINGS)
  let name ← require (ProjectName.tryFrom name)
  let project : Project := ⟨auth.orgId, name.text⟩
  tryWrite fun s =>
    (s.project.updateProject auth.projectId project).map fun project =>
      { s with project := project }
  return mapProjectToResponse auth.projectId project auth.perms

/-- `delete_project`. -/
def deleteProject (call : Call) (projectId : String) : Service Response := do
  let projectId ← require (Id.tryFrom projectId)
  let auth ←
    check (ProjectAuth.require call.caller projectId ProjectPermissions.PROJECT_ADMIN)
  rejectIf (fun s => !s.project.hasAtLeastNOrgProjects auth.orgId 2)
    (.clientError "Cannot delete the last project in an organization.")
  rejectIf (fun s => s.canister.projectHasCanisters auth.projectId)
    (.clientError
      "Cannot delete a project that still has canisters. Remove all canisters first.")
  tryWrite fun s =>
    (s.project.deleteProject auth.projectId auth.orgId).map fun project =>
      { s with project := project }
  return .unit

/-- `add_team_to_project`. -/
def addTeamToProject (call : Call) (projectId teamId : String) : Service Response := do
  let projectId ← require (Id.tryFrom projectId)
  let teamId ← require (Id.tryFrom teamId)
  let auth ←
    check (ProjectAuth.require call.caller projectId ProjectPermissions.PROJECT_ADMIN)
  rejectIf
    (fun s => !(s.team.getTeam teamId).any fun team => decide (team.orgId = auth.orgId))
    (teamNotFoundOrNoAccess teamId)
  if ← inspect fun s => s.project.isTeamInProject teamId auth.projectId then
    return .unit
  else
    write fun s => { s with project := s.project.addTeamToProject teamId auth.projectId }
    return .unit

/-- `remove_team_from_project`. -/
def removeTeamFromProject (call : Call) (projectId teamId : String) :
    Service Response := do
  let projectId ← require (Id.tryFrom projectId)
  let teamId ← require (Id.tryFrom teamId)
  let auth ←
    check (ProjectAuth.require call.caller projectId ProjectPermissions.PROJECT_ADMIN)
  if ← inspect fun s => !s.project.isTeamInProject teamId auth.projectId then
    return .unit
  else
    rejectIf (fun s => s.project.projectTeamCount auth.projectId < 2)
      (.clientError "Cannot remove the last team from a project.")
    write fun s => { s with project := s.project.removeTeamFromProject teamId auth.projectId }
    return .unit

/-- `update_team_project_permissions`. -/
def updateTeamProjectPermissions (call : Call) (projectId teamId : String)
    (permissions : Dto.ProjectPermissions) : Service Response := do
  let projectId ← require (Id.tryFrom projectId)
  let teamId ← require (Id.tryFrom teamId)
  let auth ←
    check (ProjectAuth.require call.caller projectId ProjectPermissions.PROJECT_ADMIN)
  let team ←
    lookup
      (fun s => (s.team.getTeam teamId).filter fun team => decide (team.orgId = auth.orgId))
      (teamNotFoundOrNoAccess teamId)
  rejectIf (fun s => !s.project.isTeamInProject teamId auth.projectId)
    (teamNotFoundOrNoAccess teamId)
  let newPerms := mapProjectPermissionsFromDto permissions
  require (auth.assertCanGrant newPerms)
  write fun s =>
    { s with
      project := s.project.setProjectTeamPermissions auth.projectId teamId newPerms }
  return .projectTeam (mapProjectTeam teamId team newPerms)

end ProjectService

end SsnConsole.Backend
