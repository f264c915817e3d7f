import SsnConsole.AccessListings
import SsnConsole.BackendQueries
import SsnConsole.LookedUpRows
import SsnConsole.PruneSoundness

/-!
# Views of the membership stores

The queries that show a caller its organizations, teams and projects, and those
that show the members, the teams and the projects of an organization.
-/

namespace SsnConsole.Backend

open SsnConsole.LookedUpRows
open SsnConsole.StableIndex

/-- `list_all_team_project_ids`: every project of the teams, each once.  The source
collects them in a hash set, which promises no order. -/
def ProjectState.listAllTeamProjectIds (s : ProjectState) (teamIds : List TeamId) :
    List ProjectId :=
  pushUnseen (teamIds.flatMap s.listTeamProjectIds)

/-- `list_team_projects`: those of the projects that have a record. -/
def ProjectState.listTeamProjects (s : ProjectState) (teamIds : List TeamId) :
    List (ProjectId × Project) :=
  lookedUp s.getProject (s.listAllTeamProjectIds teamIds)

namespace Dto

/-- A member of an organization; the teams are those within it. -/
structure OrgUser where
  id : String
  email : Option String
  emailVerified : Bool
  teams : List Team
  isOrgAdmin : Bool

end Dto

section Mapping

variable [Host]

/-- `map_organization_response`. -/
def mapOrganizationResponse (id : OrgId) (org : Organization)
    (yourPermissions : OrgPermissions) : Dto.Organization :=
  ⟨id.text, org.name, mapOrgPermissions yourPermissions⟩

/-- `map_project_response`. -/
def mapProjectResponse (projectId : ProjectId) (project : Project)
    (yourPermissions : ProjectPermissions) : Dto.Project :=
  ⟨projectId.text, project.orgId.text, project.name, mapProjectPermissions yourPermissions⟩

/-- `map_team`. -/
def mapTeam (teamId : TeamId) (team : Team) : Dto.Team :=
  ⟨teamId.text, team.name⟩

/-- One entry of `map_list_org_users_response`. -/
def mapOrgUser (userId : UserId) (profile : UserProfile) (teams : List (TeamId × Team))
    (isOrgAdmin : Bool) : Dto.OrgUser where
  id := userId.text
  email := profile.email
  emailVerified := profile.emailVerified
  teams := teams.map fun (teamId, team) => mapTeam teamId team
  isOrgAdmin := isOrgAdmin

end Mapping

variable [Host]

namespace OrganizationService

/-- `list_my_organizations`. -/
def listMyOrganizations (call : Call) (s : Stores) : ApiResult (List Dto.Organization) := do
  let userId ← s.userProfile.assertUserIdByPrincipal call.caller
  let organizations := (s.organization.listUserOrgs userId).map fun (orgId, org) =>
    mapOrganizationResponse orgId org (s.team.aggregateUserOrgPermissions userId orgId)
  .ok organizations

/-- `get_organization`; without an answer where its `expect` traps. -/
def getOrganization (call : Call) (orgId : String) (s : Stores) :
    Option (ApiResult Dto.Organization) :=
  let access : ApiResult OrgAuth := do
    let orgId ← Id.tryFrom orgId
    OrgAuth.require call.caller orgId .EMPTY s
  match access with
  | .error error => some (.error error)
  | .ok auth =>
      (s.organization.getOrg auth.orgId).map fun org =>
        .ok (mapOrganizationResponse auth.orgId org auth.perms)

/-- What `list_org_users` says about one member: the teams, among those of the
organization, and whether one of them administers it. -/
def describeMember (orgId : OrgId) (orgTeams : List (TeamId × Team × OrgPermissions))
    (canSeeDetails : Bool) (s : Stores) (userId : UserId) (profile : UserProfile) :
    Dto.OrgUser :=
  if !canSeeDetails then
    mapOrgUser userId profile [] false
  else
    let teamIds := s.team.listUserTeamsInOrg userId orgId
    let teams := lookedUp (fun teamId => (orgTeams.lookup teamId).map Prod.fst) teamIds
    let isOrgAdmin := teamIds.any fun teamId =>
      ((orgTeams.lookup teamId).map fun (_, perms) =>
        perms.contains OrgPermissions.ORG_ADMIN).getD false
    mapOrgUser userId profile teams isOrgAdmin

/-- `list_org_users`: teams and administrators are shown to those who manage members. -/
def listOrgUsers (call : Call) (orgId : String) (s : Stores) :
    ApiResult (List Dto.OrgUser) := do
  let orgId ← Id.tryFrom orgId
  let auth ← OrgAuth.require call.caller orgId .EMPTY s
  let canSeeDetails := auth.perms.contains OrgPermissions.MEMBER_MANAGE
  let orgTeams := if canSeeDetails then s.team.listOrgTeamsWithPermissions orgId else []
  let users := lookedUp s.userProfile.getUserProfileByUserId (s.organization.listOrgUsers orgId)
  .ok
    (users.map fun (userId, profile) =>
      describeMember orgId orgTeams canSeeDetails s userId profile)

end OrganizationService

namespace TeamService

end TeamService

namespace ProjectService

/-- `list_my_projects`. -/
def listMyProjects (call : Call) (s : Stores) : ApiResult (List Dto.Project) := do
  let userId ← s.userProfile.assertUserIdByPrincipal call.caller
  let teamIds := s.team.listUserTeamIds userId
  let projects := (s.project.listTeamProjects teamIds).map fun (projectId, project) =>
    let (perms, _) := s.project.aggregateTeamProjectPermissions teamIds projectId
    mapProjectResponse projectId project perms
  .ok projects

/-- `list_org_projects`. -/
def listOrgProjects (call : Call) (orgId : String) (s : Stores) :
    ApiResult (List Dto.Project) := do
  let orgId ← Id.tryFrom orgId
  let auth ← OrgAuth.require call.caller orgId .EMPTY s
  let teamIds := s.team.listUserTeamIds auth.userId
  let projects := (s.project.listOrgProjects auth.orgId).map fun (projectId, project) =>
    let (perms, _) := s.project.aggregateTeamProjectPermissions teamIds projectId
    mapProjectResponse projectId project perms
  .ok projects

end ProjectService

end SsnConsole.Backend
