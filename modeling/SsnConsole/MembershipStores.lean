import SsnConsole.BackendRecords
import SsnConsole.StableIndex

/-!
# Organization, team and project stores

The three repositories whose indexes together say who belongs to what and with
which permissions.  Each function is the body of the repository function of the
same name, over that repository's own state.
-/

namespace SsnConsole.Backend

open Std
open SsnConsole.StableIndex

/-- State of `organization_repository`. -/
structure OrganizationState where
  organizations : ExtTreeMap OrgId Organization
  organizationUserIndex : ExtTreeSet (OrgId × UserId)
  userOrganizationIndex : ExtTreeSet (UserId × OrgId)

namespace OrganizationState

def empty : OrganizationState :=
  ⟨∅, ∅, ∅⟩

/-- `create_org` with its drawn identifier. -/
def createOrg (s : OrganizationState) (orgId : OrgId) (userId : UserId)
    (org : Organization) : OrganizationState :=
  { s with
    organizations := s.organizations.insert orgId org
    organizationUserIndex := s.organizationUserIndex.insert (orgId, userId)
    userOrganizationIndex := s.userOrganizationIndex.insert (userId, orgId) }

def getOrg (s : OrganizationState) (orgId : OrgId) : Option Organization :=
  s.organizations[orgId]?

def updateOrg [Host] (s : OrganizationState) (orgId : OrgId) (org : Organization) :
    ApiResult OrganizationState :=
  if s.organizations.contains orgId then
    .ok { s with organizations := s.organizations.insert orgId org }
  else
    .error (.clientError s!"Organization with id {orgId.text} does not exist.")

def listOrgUsers (s : OrganizationState) (orgId : OrgId) : List UserId :=
  prefixRows s.organizationUserIndex orgId

/-- `delete_org`: the record and its user links. -/
def deleteOrg [Host] (s : OrganizationState) (orgId : OrgId) :
    ApiResult OrganizationState :=
  if s.organizations.contains orgId then
    let orgUsers := s.listOrgUsers orgId
    .ok
      { organizations := s.organizations.erase orgId
        organizationUserIndex :=
          eraseRows s.organizationUserIndex (orgUsers.map fun userId => (orgId, userId))
        userOrganizationIndex :=
          eraseRows s.userOrganizationIndex (orgUsers.map fun userId => (userId, orgId)) }
  else
    .error (.clientError s!"Organization with id {orgId.text} does not exist.")

def hasAtLeastNUserOrgs (s : OrganizationState) (userId : UserId) (n : Nat) : Bool :=
  ((prefixRows s.userOrganizationIndex userId).take n).length ≥ n

def addUserToOrg (s : OrganizationState) (userId : UserId) (orgId : OrgId) :
    OrganizationState :=
  { s with
    organizationUserIndex := s.organizationUserIndex.insert (orgId, userId)
    userOrganizationIndex := s.userOrganizationIndex.insert (userId, orgId) }

def isUserInOrg (s : OrganizationState) (userId : UserId) (orgId : OrgId) : Bool :=
  s.organizationUserIndex.contains (orgId, userId)

end OrganizationState

/-- State of `team_repository`. -/
structure TeamState where
  teams : ExtTreeMap TeamId Team
  teamUserIndex : ExtTreeSet (TeamId × UserId)
  userTeamIndex : ExtTreeSet (UserId × TeamId)
  organizationTeamPermissionsIndex : ExtTreeMap (OrgId × TeamId) OrgPermissions

namespace TeamState

def empty : TeamState :=
  ⟨∅, ∅, ∅, ∅⟩

/-- `create_team_with_permissions` with its drawn identifier. -/
def createTeamWithPermissions (s : TeamState) (teamId : TeamId) (userId : UserId)
    (orgId : OrgId) (team : Team) (permissions : OrgPermissions) : TeamState where
  teams := s.teams.insert teamId team
  teamUserIndex := s.teamUserIndex.insert (teamId, userId)
  userTeamIndex := s.userTeamIndex.insert (userId, teamId)
  organizationTeamPermissionsIndex :=
    s.organizationTeamPermissionsIndex.insert (orgId, teamId) permissions

/-- `create_team`: a new team holds every organization permission. -/
def createTeam (s : TeamState) (teamId : TeamId) (userId : UserId) (orgId : OrgId)
    (team : Team) : TeamState :=
  s.createTeamWithPermissions teamId userId orgId team OrgPermissions.ALL

def getTeam (s : TeamState) (teamId : TeamId) : Option Team :=
  s.teams[teamId]?

def updateTeam [Host] (s : TeamState) (teamId : TeamId) (team : Team) :
    ApiResult TeamState :=
  if s.teams.contains teamId then
    .ok { s with teams := s.teams.insert teamId team }
  else
    .error (.clientError s!"Team with id {teamId.text} does not exist.")

def listTeamUserIds (s : TeamState) (teamId : TeamId) : List UserId :=
  prefixRows s.teamUserIndex teamId

/-- Remove every membership row of a team, on both sides. -/
def removeTeamUsers (s : TeamState) (teamId : TeamId) : TeamState :=
  let teamUsers := s.listTeamUserIds teamId
  { s with
    teamUserIndex :=
      eraseRows s.teamUserIndex (teamUsers.map fun userId => (teamId, userId))
    userTeamIndex :=
      eraseRows s.userTeamIndex (teamUsers.map fun userId => (userId, teamId)) }

def deleteTeam [Host] (s : TeamState) (teamId : TeamId) (orgId : OrgId) :
    ApiResult TeamState :=
  if s.teams.contains teamId then
    let withoutRows : TeamState :=
      { s with
        teams := s.teams.erase teamId
        organizationTeamPermissionsIndex :=
          s.organizationTeamPermissionsIndex.erase (orgId, teamId) }
    .ok (withoutRows.removeTeamUsers teamId)
  else
    .error (.clientError s!"Team with id {teamId.text} does not exist.")

/-- The team identifiers listed under an organization, in order. -/
def listOrgTeamIds (s : TeamState) (orgId : OrgId) : List TeamId :=
  (prefixEntries s.organizationTeamPermissionsIndex orgId).map Prod.fst

/-- One round of `delete_org_teams`. -/
def deleteOrgTeam (orgId : OrgId) (s : TeamState) (teamId : TeamId) : TeamState :=
  let withoutRows : TeamState :=
    { s with
      organizationTeamPermissionsIndex :=
        s.organizationTeamPermissionsIndex.erase (orgId, teamId)
      teams := s.teams.erase teamId }
  withoutRows.removeTeamUsers teamId

/-- `delete_org_teams`: every team of the organization and its user links. -/
def deleteOrgTeams (s : TeamState) (orgId : OrgId) : TeamState :=
  (s.listOrgTeamIds orgId).foldl (deleteOrgTeam orgId) s

def isUserInTeam (s : TeamState) (userId : UserId) (teamId : TeamId) : Bool :=
  s.teamUserIndex.contains (teamId, userId)

/-- `set_org_team_permissions`: no effect if the link is absent. -/
def setOrgTeamPermissions (s : TeamState) (orgId : OrgId) (teamId : TeamId)
    (permissions : OrgPermissions) : TeamState :=
  if s.organizationTeamPermissionsIndex[(orgId, teamId)]?.isSome then
    { s with
      organizationTeamPermissionsIndex :=
        s.organizationTeamPermissionsIndex.insert (orgId, teamId) permissions }
  else
    s

def getOrgTeamPermissions (s : TeamState) (orgId : OrgId) (teamId : TeamId) :
    Option OrgPermissions :=
  s.organizationTeamPermissionsIndex[(orgId, teamId)]?

def listUserTeamIds (s : TeamState) (userId : UserId) : List TeamId :=
  prefixRows s.userTeamIndex userId

/-- `aggregate_user_org_permissions`: the union over the user's teams. -/
def aggregateUserOrgPermissions (s : TeamState) (userId : UserId) (orgId : OrgId) :
    OrgPermissions :=
  Permissions.unionAll
    ((s.listUserTeamIds userId).filterMap fun teamId =>
      s.getOrgTeamPermissions orgId teamId)

/-- `org_admin_is_populated_excluding_team`. -/
def orgAdminIsPopulatedExcludingTeam (s : TeamState) (orgId : OrgId)
    (excludedTeamId : TeamId) : Bool :=
  (prefixEntries s.organizationTeamPermissionsIndex orgId).any
    fun (teamId, permissions) =>
      if teamId = excludedTeamId then
        false
      else
        permissions.contains OrgPermissions.ORG_ADMIN &&
          !(s.listTeamUserIds teamId).isEmpty

def addUserToTeam (s : TeamState) (userId : UserId) (teamId : TeamId) : TeamState :=
  { s with
    teamUserIndex := s.teamUserIndex.insert (teamId, userId)
    userTeamIndex := s.userTeamIndex.insert (userId, teamId) }

def removeUserFromTeam (s : TeamState) (userId : UserId) (teamId : TeamId) : TeamState :=
  { s with
    teamUserIndex := s.teamUserIndex.erase (teamId, userId)
    userTeamIndex := s.userTeamIndex.erase (userId, teamId) }

/-- `org_admin_is_populated_excluding_team_member`. -/
def orgAdminIsPopulatedExcludingTeamMember (s : TeamState) (orgId : OrgId)
    (fromTeamId : TeamId) (userId : UserId) : Bool :=
  (prefixEntries s.organizationTeamPermissionsIndex orgId).any
    fun (teamId, permissions) =>
      if !permissions.contains OrgPermissions.ORG_ADMIN then
        false
      else
        (s.listTeamUserIds teamId).any
          fun memberId => !(decide (teamId = fromTeamId) && decide (memberId = userId))

def hasAtLeastNOrgTeams (s : TeamState) (orgId : OrgId) (n : Nat) : Bool :=
  ((s.listOrgTeamIds orgId).take n).length ≥ n

/-- `list_user_teams_in_org`: the user's teams that are linked to the organization. -/
def listUserTeamsInOrg (s : TeamState) (userId : UserId) (orgId : OrgId) : List TeamId :=
  (s.listUserTeamIds userId).filter fun teamId =>
    (s.getOrgTeamPermissions orgId teamId).isSome

end TeamState

/-- State of `project_repository`. -/
structure ProjectState where
  projects : ExtTreeMap ProjectId Project
  organizationProjectIndex : ExtTreeSet (OrgId × ProjectId)
  projectTeamPermissionsIndex : ExtTreeMap (ProjectId × TeamId) ProjectPermissions
  teamProjectPermissionsIndex : ExtTreeMap (TeamId × ProjectId) ProjectPermissions

namespace ProjectState

def empty : ProjectState :=
  ⟨∅, ∅, ∅, ∅⟩

/-- `create_project` with its drawn identifier. -/
def createProject (s : ProjectState) (projectId : ProjectId) (orgId : OrgId)
    (project : Project) : ProjectState :=
  { s with
    projects := s.projects.insert projectId project
    organizationProjectIndex := s.organizationProjectIndex.insert (orgId, projectId) }

def addTeamToProjectWithPermissions (s : ProjectState) (teamId : TeamId)
    (projectId : ProjectId) (permissions : ProjectPermissions) : ProjectState :=
  { s with
    projectTeamPermissionsIndex :=
      s.projectTeamPermissionsIndex.insert (projectId, teamId) permissions
    teamProjectPermissionsIndex :=
      s.teamProjectPermissionsIndex.insert (teamId, projectId) permissions }

/-- `add_team_to_project`: a new link carries every project permission. -/
def addTeamToProject (s : ProjectState) (teamId : TeamId) (projectId : ProjectId) :
    ProjectState :=
  s.addTeamToProjectWithPermissions teamId projectId ProjectPermissions.ALL

def removeTeamFromProject (s : ProjectState) (teamId : TeamId) (projectId : ProjectId) :
    ProjectState :=
  { s with
    projectTeamPermissionsIndex := s.projectTeamPermissionsIndex.erase (projectId, teamId)
    teamProjectPermissionsIndex := s.teamProjectPermissionsIndex.erase (teamId, projectId) }

def getProjectTeamPermissions (s : ProjectState) (projectId : ProjectId)
    (teamId : TeamId) : Option ProjectPermissions :=
  s.projectTeamPermissionsIndex[(projectId, teamId)]?

def isTeamInProject (s : ProjectState) (teamId : TeamId) (projectId : ProjectId) : Bool :=
  (s.getProjectTeamPermissions projectId teamId).isSome

/-- `set_project_team_permissions`: no effect if the link is absent. -/
def setProjectTeamPermissions (s : ProjectState) (projectId : ProjectId)
    (teamId : TeamId) (permissions : ProjectPermissions) : ProjectState :=
  if (s.getProjectTeamPermissions projectId teamId).isNone then
    s
  else
    s.addTeamToProjectWithPermissions teamId projectId permissions

/-- `aggregate_team_project_permissions`: the union and whether any team is linked. -/
def aggregateTeamProjectPermissions (s : ProjectState) (teamIds : List TeamId)
    (projectId : ProjectId) : ProjectPermissions × Bool :=
  let granted := teamIds.filterMap fun teamId => s.getProjectTeamPermissions projectId teamId
  (Permissions.unionAll granted, !granted.isEmpty)

def listProjectTeamIds (s : ProjectState) (projectId : ProjectId) : List TeamId :=
  (prefixEntries s.projectTeamPermissionsIndex projectId).map Prod.fst

def projectTeamCount (s : ProjectState) (projectId : ProjectId) : Nat :=
  (s.listProjectTeamIds projectId).length

def updateProject [Host] (s : ProjectState) (projectId : ProjectId) (project : Project) :
    ApiResult ProjectState :=
  if s.projects.contains projectId then
    .ok { s with projects := s.projects.insert projectId project }
  else
    .error (.clientError s!"Project with id {projectId.text} does not exist.")

/-- `delete_project`: the record, its organization row and its team links. -/
def deleteProject [Host] (s : ProjectState) (projectId : ProjectId) (orgId : OrgId) :
    ApiResult ProjectState :=
  if s.projects.contains projectId then
    let teamIds := s.listProjectTeamIds projectId
    .ok
      { projects := s.projects.erase projectId
        organizationProjectIndex := s.organizationProjectIndex.erase (orgId, projectId)
        projectTeamPermissionsIndex :=
          eraseKeys s.projectTeamPermissionsIndex
            (teamIds.map fun teamId => (projectId, teamId))
        teamProjectPermissionsIndex :=
          eraseKeys s.teamProjectPermissionsIndex
            (teamIds.map fun teamId => (teamId, projectId)) }
  else
    .error (.clientError s!"Project with id {projectId.text} does not exist.")

/-- The project identifiers listed under an organization, in order. -/
def listOrgProjectIds (s : ProjectState) (orgId : OrgId) : List ProjectId :=
  prefixRows s.organizationProjectIndex orgId

def hasAtLeastNOrgProjects (s : ProjectState) (orgId : OrgId) (n : Nat) : Bool :=
  ((s.listOrgProjectIds orgId).take n).length ≥ n

def listTeamProjectIds (s : ProjectState) (teamId : TeamId) : List ProjectId :=
  (prefixEntries s.teamProjectPermissionsIndex teamId).map Prod.fst

/-- `remove_team_project_links`: every link of a team, on both sides. -/
def removeTeamProjectLinks (s : ProjectState) (teamId : TeamId) : ProjectState :=
  let projectIds := s.listTeamProjectIds teamId
  { s with
    teamProjectPermissionsIndex :=
      eraseKeys s.teamProjectPermissionsIndex
        (projectIds.map fun projectId => (teamId, projectId))
    projectTeamPermissionsIndex :=
      eraseKeys s.projectTeamPermissionsIndex
        (projectIds.map fun projectId => (projectId, teamId)) }

def getProject (s : ProjectState) (projectId : ProjectId) : Option Project :=
  s.projects[projectId]?

/-- `list_org_projects`: the listed projects that have a record. -/
def listOrgProjects (s : ProjectState) (orgId : OrgId) : List (ProjectId × Project) :=
  (s.listOrgProjectIds orgId).filterMap fun projectId =>
    (s.getProject projectId).map fun project => (projectId, project)

def teamHasProjects (s : ProjectState) (teamId : TeamId) : Bool :=
  !(s.listTeamProjectIds teamId).isEmpty

def orgHasProjects (s : ProjectState) (orgId : OrgId) : Bool :=
  !(s.listOrgProjectIds orgId).isEmpty

end ProjectState

end SsnConsole.Backend
