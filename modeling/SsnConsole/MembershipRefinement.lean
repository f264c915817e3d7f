import SsnConsole.MembershipGraph

/-!
# Repository functions as graph operations

Each write of the membership repositories keeps the indexes in agreement and is
an operation of the graph that they represent.
-/

namespace SsnConsole.Backend

open Std (ExtTreeMap ExtTreeSet)
open SsnConsole.StableIndex
open SsnConsole.AccessGraph

variable {profiles : ExtTreeMap UserId UserProfile}
variable {organization : OrganizationState} {team : TeamState} {project : ProjectState}
variable {userId : UserId} {orgId : OrgId} {teamId : TeamId} {projectId : ProjectId}

section Graphs

/-- A new profile registers a user. -/
theorem membershipGraph_insert_profile
    {profile : UserProfile} :
    membershipGraph (profiles.insert userId profile) organization team project =
      (membershipGraph profiles organization team project).register userId := by
  unfold membershipGraph Graph.register
  congr 1
  ext other
  simp only [mem_insert_entry, Set.mem_ofPred_eq, Set.mem_insert_iff, or_comm]

/-- `add_user_to_org` is joining. -/
theorem membershipGraph_addUserToOrg :
    membershipGraph profiles (organization.addUserToOrg userId orgId) team project =
      (membershipGraph profiles organization team project).join userId orgId := by
  unfold membershipGraph Graph.join OrganizationState.addUserToOrg
  congr 1
  funext other
  ext member
  simp only [mem_insert_row, Set.mem_ofPred_eq, Prod.mk.injEq]

/-- `update_org` does not change the graph. -/
theorem membershipGraph_updateOrg
    [Host]
    {org : Organization}
    {after : OrganizationState}
    (updated : organization.updateOrg orgId org = .ok after) :
    membershipGraph profiles after team project =
      membershipGraph profiles organization team project := by
  unfold OrganizationState.updateOrg at updated
  split at updated
  · rename_i stored
    cases updated
    unfold membershipGraph
    congr 1
    ext other
    simp only [mem_insert_entry, Set.mem_ofPred_eq, or_iff_left_iff_imp]
    rintro rfl
    exact ExtTreeMap.mem_iff_contains.mpr stored
  · cases updated

/-- `create_team` opens a team that grants everything. -/
theorem membershipGraph_createTeam
    {name : String} :
    membershipGraph profiles organization (team.createTeam teamId userId orgId ⟨orgId, name⟩)
        project =
      (membershipGraph profiles organization team project).addTeam userId orgId teamId
        OrgPermissions.ALL.flags := by
  unfold membershipGraph Graph.addTeam Graph.setOrgGrant Graph.enroll
    TeamState.createTeam TeamState.createTeamWithPermissions
  congr 1
  · funext other
    by_cases same : other = teamId
    · simp [TeamState.getTeam, same]
    · simp [TeamState.getTeam, getElem?_insert_entry, same]
  · funext other
    ext member
    simp only [mem_insert_row, Set.mem_ofPred_eq, Prod.mk.injEq]
  · funext other
    ext flag
    by_cases same : other = teamId
    · simp [TeamState.getTeam, TeamState.getOrgTeamPermissions, same]
    · simp [TeamState.getTeam, TeamState.getOrgTeamPermissions, getElem?_insert_entry, same]

/-- `update_team` keeps the graph if the team keeps its organization. -/
theorem membershipGraph_updateTeam
    [Host]
    {stored updated : Team}
    {after : TeamState}
    (found : team.getTeam teamId = some stored)
    (sameOrg : updated.orgId = stored.orgId)
    (written : team.updateTeam teamId updated = .ok after) :
    membershipGraph profiles organization after project =
      membershipGraph profiles organization team project := by
  have lookup : team.teams[teamId]? = some stored := found
  unfold TeamState.updateTeam at written
  split at written
  · cases written
    unfold membershipGraph
    congr 1
    · funext other
      by_cases same : other = teamId
      · simp [TeamState.getTeam, same, lookup, sameOrg]
      · simp [TeamState.getTeam, getElem?_insert_entry, same]
    · funext other
      ext flag
      by_cases same : other = teamId
      · simp [TeamState.getTeam, TeamState.getOrgTeamPermissions, same, lookup, sameOrg]
      · simp [TeamState.getTeam, TeamState.getOrgTeamPermissions, getElem?_insert_entry, same]
  · cases written

/-- `add_user_to_team` is enrolling. -/
theorem membershipGraph_addUserToTeam :
    membershipGraph profiles organization (team.addUserToTeam userId teamId) project =
      (membershipGraph profiles organization team project).enroll userId teamId := by
  unfold membershipGraph Graph.enroll TeamState.addUserToTeam
  congr 1
  funext other
  ext member
  simp only [mem_insert_row, Set.mem_ofPred_eq, Prod.mk.injEq]

/-- `remove_user_from_team` is leaving. -/
theorem membershipGraph_removeUserFromTeam :
    membershipGraph profiles organization (team.removeUserFromTeam userId teamId) project =
      (membershipGraph profiles organization team project).expel userId teamId := by
  unfold membershipGraph Graph.expel TeamState.removeUserFromTeam
  congr 1
  funext other
  ext member
  simp only [mem_erase_row, Set.mem_ofPred_eq, ne_eq, Prod.mk.injEq]

/-- `set_org_team_permissions` on a linked team sets what it grants. -/
theorem membershipGraph_setOrgTeamPermissions
    {stored : Team}
    {permissions : OrgPermissions}
    (found : team.getTeam teamId = some stored)
    (sameOrg : stored.orgId = orgId)
    (row : (orgId, teamId) ∈ team.organizationTeamPermissionsIndex) :
    membershipGraph profiles organization
        (team.setOrgTeamPermissions orgId teamId permissions) project =
      (membershipGraph profiles organization team project).setOrgGrant teamId
        permissions.flags := by
  have lookup : team.teams[teamId]? = some stored := found
  have linked : team.organizationTeamPermissionsIndex[(orgId, teamId)]?.isSome := by
    rwa [← ExtTreeMap.mem_iff_isSome_getElem?]
  unfold TeamState.setOrgTeamPermissions
  rw [if_pos linked]
  unfold membershipGraph Graph.setOrgGrant
  congr 1
  funext other
  ext flag
  by_cases same : other = teamId
  · simp [TeamState.getTeam, TeamState.getOrgTeamPermissions, same, lookup, sameOrg]
  · simp [TeamState.getTeam, TeamState.getOrgTeamPermissions, getElem?_insert_entry, same]

/-- Removing a team's membership rows empties the team. -/
theorem mem_removeTeamUsers
    {other : TeamId} :
    (other, userId) ∈ (team.removeTeamUsers teamId).teamUserIndex ↔
      (other, userId) ∈ team.teamUserIndex ∧ other ≠ teamId :=
  mem_eraseRows_range

/-- The stored team state after `delete_team`. -/
theorem TeamState.deleteTeam_ok
    [Host]
    {after : TeamState}
    (deleted : team.deleteTeam teamId orgId = .ok after) :
    after =
      TeamState.removeTeamUsers
        { team with
          teams := team.teams.erase teamId
          organizationTeamPermissionsIndex :=
            team.organizationTeamPermissionsIndex.erase (orgId, teamId) }
        teamId := by
  unfold TeamState.deleteTeam at deleted
  split at deleted
  · cases deleted
    rfl
  · cases deleted

/-- Lookups after `remove_team_project_links`, when the two link indexes agree. -/
private theorem getElem?_removeTeamProjectLinks
    {otherProject : ProjectId}
    {otherTeam : TeamId}
    (mirrored :
      ∀ {projectId : ProjectId} {teamId : TeamId},
        project.projectTeamPermissionsIndex[(projectId, teamId)]? =
          project.teamProjectPermissionsIndex[(teamId, projectId)]?) :
    (project.removeTeamProjectLinks teamId).projectTeamPermissionsIndex[(otherProject,
      otherTeam)]? =
      if otherTeam = teamId then none
      else project.projectTeamPermissionsIndex[(otherProject, otherTeam)]? := by
  simp only [ProjectState.removeTeamProjectLinks, ProjectState.listTeamProjectIds,
    getElem?_eraseKeys]
  by_cases same : otherTeam = teamId
  · subst same
    simp only [if_true, ite_eq_left_iff]
    intro unlisted
    rw [mirrored]
    by_contra linked
    obtain ⟨permissions, row⟩ := Option.ne_none_iff_exists'.mp linked
    apply unlisted
    exact
      List.mem_map.mpr
        ⟨otherProject, List.mem_map.mpr ⟨(otherProject, permissions), mem_prefixEntries.mpr row, rfl⟩,
          rfl⟩
  · rw [if_neg same, if_neg]
    intro listed
    obtain ⟨_, _, equal⟩ := List.mem_map.mp listed
    exact same (Prod.mk.inj equal).2.symm

/-- `delete_team` and its link sweep remove the team. -/
theorem membershipGraph_deleteTeam
    [Host]
    {after : TeamState}
    (agree : IndexesAgree organization team project)
    (deleted : team.deleteTeam teamId orgId = .ok after) :
    membershipGraph profiles organization after (project.removeTeamProjectLinks teamId) =
      (membershipGraph profiles organization team project).removeTeam teamId := by
  obtain rfl := TeamState.deleteTeam_ok deleted
  unfold membershipGraph Graph.removeTeam
  congr 1
  · funext other
    by_cases same : other = teamId
    · simp [TeamState.getTeam, TeamState.removeTeamUsers, same]
    · simp [TeamState.getTeam, TeamState.removeTeamUsers, getElem?_erase_entry, same]
  · funext other
    ext member
    exact mem_removeTeamUsers
  · funext other
    ext flag
    by_cases same : other = teamId
    · simp [TeamState.getTeam, TeamState.removeTeamUsers, same]
    · simp [TeamState.getTeam, TeamState.getOrgTeamPermissions, TeamState.removeTeamUsers,
        getElem?_erase_entry, same]
  · funext otherProject otherTeam
    simp only [ProjectState.getProjectTeamPermissions,
      getElem?_removeTeamProjectLinks agree.projectTeam]
    split <;> rfl

/-- Adding links for a list of teams touches exactly their rows. -/
private theorem foldl_addTeamToProject
    (projectId : ProjectId)
    (teams : List TeamId)
    (state : ProjectState) :
    (teams.foldl (fun state teamId => state.addTeamToProject teamId projectId) state).projects =
        state.projects ∧
      (teams.foldl (fun state teamId => state.addTeamToProject teamId projectId)
          state).organizationProjectIndex = state.organizationProjectIndex ∧
      (∀ (otherProject : ProjectId) (otherTeam : TeamId),
        (teams.foldl (fun state teamId => state.addTeamToProject teamId projectId)
            state).projectTeamPermissionsIndex[(otherProject, otherTeam)]? =
          if otherProject = projectId ∧ otherTeam ∈ teams then some ProjectPermissions.ALL
          else state.projectTeamPermissionsIndex[(otherProject, otherTeam)]?) ∧
      ∀ (otherProject : ProjectId) (otherTeam : TeamId),
        (teams.foldl (fun state teamId => state.addTeamToProject teamId projectId)
            state).teamProjectPermissionsIndex[(otherTeam, otherProject)]? =
          if otherProject = projectId ∧ otherTeam ∈ teams then some ProjectPermissions.ALL
          else state.teamProjectPermissionsIndex[(otherTeam, otherProject)]? := by
  induction teams generalizing state with
  | nil =>
      simp
  | cons first rest inductionHypothesis =>
      obtain ⟨projects, rows, projectTeam, teamProject⟩ :=
        inductionHypothesis (state.addTeamToProject first projectId)
      refine ⟨projects, rows, fun otherProject otherTeam => ?_, fun otherProject otherTeam => ?_⟩
      · rw [List.foldl_cons, projectTeam]
        simp only [ProjectState.addTeamToProject, ProjectState.addTeamToProjectWithPermissions,
          getElem?_insert_entry, Prod.mk.injEq, List.mem_cons]
        grind
      · rw [List.foldl_cons, teamProject]
        simp only [ProjectState.addTeamToProject, ProjectState.addTeamToProjectWithPermissions,
          getElem?_insert_entry, Prod.mk.injEq, List.mem_cons]
        grind

/-- `create_project` opens a project with links that carry everything. -/
theorem membershipGraph_createProject
    {name : String}
    {teams : List TeamId} :
    membershipGraph profiles organization team
        (teams.foldl (fun state teamId => state.addTeamToProject teamId projectId)
          (project.createProject projectId orgId ⟨orgId, name⟩)) =
      (membershipGraph profiles organization team project).addProject projectId orgId
        {teamId | teamId ∈ teams} ProjectPermissions.ALL.flags := by
  obtain ⟨projects, -, projectTeam, -⟩ :=
    foldl_addTeamToProject projectId teams
      (project.createProject projectId orgId ⟨orgId, name⟩)
  unfold membershipGraph Graph.addProject Graph.link
  congr 1
  · funext other
    simp only [ProjectState.getProject, projects]
    by_cases same : other = projectId
    · simp [ProjectState.createProject, same]
    · simp [ProjectState.createProject, getElem?_insert_entry, same]
  · funext otherProject otherTeam
    simp only [ProjectState.getProjectTeamPermissions, projectTeam, Set.mem_ofPred_eq]
    split <;> rfl

/-- `update_project` keeps the graph if the project keeps its organization. -/
theorem membershipGraph_updateProject
    [Host]
    {updated : Project}
    {after : ProjectState}
    (sameOrg : (project.getProject projectId).map Project.orgId = some updated.orgId)
    (written : project.updateProject projectId updated = .ok after) :
    membershipGraph profiles organization team after =
      membershipGraph profiles organization team project := by
  unfold ProjectState.updateProject at written
  split at written
  · cases written
    unfold membershipGraph
    congr 1
    funext other
    by_cases same : other = projectId
    · subst same
      rw [sameOrg]
      simp [ProjectState.getProject]
    · simp [ProjectState.getProject, getElem?_insert_entry, same]
  · cases written

/-- The stored project state after `delete_project`. -/
theorem ProjectState.deleteProject_ok
    [Host]
    {after : ProjectState}
    (deleted : project.deleteProject projectId orgId = .ok after) :
    after.projects = project.projects.erase projectId ∧
      after.organizationProjectIndex =
        project.organizationProjectIndex.erase (orgId, projectId) ∧
      after.projectTeamPermissionsIndex =
        eraseKeys project.projectTeamPermissionsIndex
          ((project.listProjectTeamIds projectId).map fun teamId => (projectId, teamId)) ∧
      after.teamProjectPermissionsIndex =
        eraseKeys project.teamProjectPermissionsIndex
          ((project.listProjectTeamIds projectId).map fun teamId => (teamId, projectId)) := by
  unfold ProjectState.deleteProject at deleted
  split at deleted
  · cases deleted
    exact ⟨rfl, rfl, rfl, rfl⟩
  · cases deleted

/-- A linked team is listed under its project. -/
private theorem mem_listProjectTeamIds :
    teamId ∈ project.listProjectTeamIds projectId ↔
      (project.projectTeamPermissionsIndex[(projectId, teamId)]?).isSome := by
  unfold ProjectState.listProjectTeamIds
  rw [List.mem_map, Option.isSome_iff_exists]
  constructor
  · rintro ⟨⟨_, permissions⟩, listed, rfl⟩
    exact ⟨permissions, mem_prefixEntries.mp listed⟩
  · rintro ⟨permissions, row⟩
    exact ⟨(teamId, permissions), mem_prefixEntries.mpr row, rfl⟩

/-- Lookups after the link sweep of `delete_project`. -/
theorem getElem?_eraseKeys_projectTeams
    {otherProject : ProjectId}
    {otherTeam : TeamId} :
    (eraseKeys project.projectTeamPermissionsIndex
        ((project.listProjectTeamIds projectId).map fun teamId =>
          (projectId, teamId)))[(otherProject, otherTeam)]? =
      if otherProject = projectId then none
      else project.projectTeamPermissionsIndex[(otherProject, otherTeam)]? := by
  rw [getElem?_eraseKeys]
  by_cases same : otherProject = projectId
  · subst same
    simp only [if_true, ite_eq_left_iff]
    intro unlisted
    by_contra linked
    apply unlisted
    refine List.mem_map.mpr ⟨otherTeam, ?_, rfl⟩
    exact mem_listProjectTeamIds.mpr (Option.isSome_iff_ne_none.mpr linked)
  · rw [if_neg same, if_neg]
    intro listed
    obtain ⟨_, _, equal⟩ := List.mem_map.mp listed
    exact same (Prod.mk.inj equal).1.symm

/-- `delete_project` removes the project. -/
theorem membershipGraph_deleteProject
    [Host]
    {after : ProjectState}
    (deleted : project.deleteProject projectId orgId = .ok after) :
    membershipGraph profiles organization team after =
      (membershipGraph profiles organization team project).removeProject projectId := by
  obtain ⟨projects, -, projectTeam, -⟩ := ProjectState.deleteProject_ok deleted
  unfold membershipGraph Graph.removeProject
  congr 1
  · funext other
    simp only [ProjectState.getProject, projects, getElem?_erase_entry]
    split <;> rfl
  · funext otherProject otherTeam
    simp only [ProjectState.getProjectTeamPermissions, projectTeam,
      getElem?_eraseKeys_projectTeams]
    split <;> rfl

/-- Storing a link's permissions links the team. -/
theorem membershipGraph_addTeamToProjectWithPermissions
    {permissions : ProjectPermissions} :
    membershipGraph profiles organization team
        (project.addTeamToProjectWithPermissions teamId projectId permissions) =
      (membershipGraph profiles organization team project).link projectId {teamId}
        permissions.flags := by
  unfold membershipGraph Graph.link
  congr 1
  funext otherProject otherTeam
  simp only [ProjectState.getProjectTeamPermissions,
    ProjectState.addTeamToProjectWithPermissions, getElem?_insert_entry, Prod.mk.injEq,
    Set.mem_singleton_iff]
  split <;> rfl

/-- `set_project_team_permissions` on a linked team replaces the link's permissions. -/
theorem membershipGraph_setProjectTeamPermissions
    {permissions : ProjectPermissions}
    (linked : project.isTeamInProject teamId projectId = true) :
    membershipGraph profiles organization team
        (project.setProjectTeamPermissions projectId teamId permissions) =
      (membershipGraph profiles organization team project).link projectId {teamId}
        permissions.flags := by
  unfold ProjectState.setProjectTeamPermissions
  unfold ProjectState.isTeamInProject at linked
  rw [if_neg (by simpa [Option.isSome_iff_ne_none] using linked)]
  exact membershipGraph_addTeamToProjectWithPermissions

/-- `remove_team_from_project` unlinks the team. -/
theorem membershipGraph_removeTeamFromProject :
    membershipGraph profiles organization team
        (project.removeTeamFromProject teamId projectId) =
      (membershipGraph profiles organization team project).unlink projectId teamId := by
  unfold membershipGraph Graph.unlink
  congr 1
  funext otherProject otherTeam
  simp only [ProjectState.getProjectTeamPermissions, ProjectState.removeTeamFromProject,
    getElem?_erase_entry, Prod.mk.injEq]
  split <;> rfl

/-- Founding an organization is one operation of the graph. -/
theorem membershipGraph_founding
    {org : Organization}
    {teamName projectName : String} :
    membershipGraph profiles (organization.createOrg orgId userId org)
        (team.createTeam teamId userId orgId ⟨orgId, teamName⟩)
        ((project.createProject projectId orgId ⟨orgId, projectName⟩).addTeamToProject teamId
          projectId) =
      (membershipGraph profiles organization team project).found userId orgId teamId projectId
        OrgPermissions.ALL.flags ProjectPermissions.ALL.flags := by
  let before := membershipGraph profiles organization team project
  have members :
      membershipGraph profiles (organization.addUserToOrg userId orgId) team project =
        before.join userId orgId :=
    membershipGraph_addUserToOrg
  have teams :
      membershipGraph profiles organization
          (team.createTeam teamId userId orgId ⟨orgId, teamName⟩) project =
        before.addTeam userId orgId teamId OrgPermissions.ALL.flags :=
    membershipGraph_createTeam
  have projects :
      membershipGraph profiles organization team
          ((project.createProject projectId orgId ⟨orgId, projectName⟩).addTeamToProject
            teamId projectId) =
        before.addProject projectId orgId {teamId} ProjectPermissions.ALL.flags := by
    have created :
        membershipGraph profiles organization team
            ([teamId].foldl (fun state teamId => state.addTeamToProject teamId projectId)
              (project.createProject projectId orgId ⟨orgId, projectName⟩)) =
          before.addProject projectId orgId {other | other ∈ [teamId]}
            ProjectPermissions.ALL.flags :=
      membershipGraph_createProject
    have single : {other | other ∈ [teamId]} = ({teamId} : Set TeamId) := by
      ext other
      simp
    rwa [single] at created
  apply AccessGraph.Graph.ext
  · rfl
  · ext other
    change
      other ∈ organization.organizations.insert orgId org ↔
        other ∈ insert orgId {other | other ∈ organization.organizations}
    simp only [mem_insert_entry, Set.mem_insert_iff, Set.mem_ofPred_eq, or_comm]
  · exact (congrArg Graph.members members :)
  · exact (congrArg Graph.teamOrg teams :)
  · exact (congrArg Graph.projectOrg projects :)
  · exact (congrArg Graph.teamUsers teams :)
  · exact (congrArg Graph.orgGrant teams :)
  · exact (congrArg Graph.projectGrant projects :)

end Graphs

namespace IndexesAgree

/-- Joining an organization adds a row on both sides. -/
theorem addUserToOrg
    (agree : IndexesAgree organization team project) :
    IndexesAgree (organization.addUserToOrg userId orgId) team project :=
  { agree with
    organizationUser := by
      intro otherOrg otherUser
      simp only [OrganizationState.addUserToOrg, mem_insert_row, agree.organizationUser,
        Prod.mk.injEq, and_comm] }

/-- A new organization adds its founder's row on both sides. -/
theorem createOrg
    {org : Organization}
    (agree : IndexesAgree organization team project) :
    IndexesAgree (organization.createOrg orgId userId org) team project :=
  { agree with organizationUser := (agree.addUserToOrg).organizationUser }

/-- Updating an organization touches no row. -/
theorem updateOrg
    [Host]
    {org : Organization}
    {after : OrganizationState}
    (agree : IndexesAgree organization team project)
    (updated : organization.updateOrg orgId org = .ok after) :
    IndexesAgree after team project := by
  unfold OrganizationState.updateOrg at updated
  split at updated
  · cases updated
    exact { agree with organizationUser := agree.organizationUser }
  · cases updated

/-- A new team adds its rows under its own organization. -/
theorem createTeam
    {name : String}
    (agree : IndexesAgree organization team project)
    (fresh : team.getTeam teamId = none) :
    IndexesAgree organization (team.createTeam teamId userId orgId ⟨orgId, name⟩) project :=
  { agree with
    teamUser := by
      intro otherTeam otherUser
      simp only [TeamState.createTeam, TeamState.createTeamWithPermissions, mem_insert_row,
        agree.teamUser, Prod.mk.injEq, and_comm]
    teamRow := by
      intro otherOrg otherTeam
      simp only [TeamState.createTeam, TeamState.createTeamWithPermissions, mem_insert_entry,
        TeamState.getTeam, getElem?_insert_entry, Prod.mk.injEq]
      by_cases same : otherTeam = teamId
      · subst same
        have noRow : (otherOrg, otherTeam) ∉ team.organizationTeamPermissionsIndex := by
          rw [agree.teamRow, fresh]
          simp
        simp [noRow, eq_comm]
      · simp only [same, and_false, or_false, if_false]
        exact agree.teamRow }

/-- Updating a team within its organization touches no row. -/
theorem updateTeam
    [Host]
    {stored updated : Team}
    {after : TeamState}
    (agree : IndexesAgree organization team project)
    (found : team.getTeam teamId = some stored)
    (sameOrg : updated.orgId = stored.orgId)
    (written : team.updateTeam teamId updated = .ok after) :
    IndexesAgree organization after project := by
  have lookup : team.teams[teamId]? = some stored := found
  unfold TeamState.updateTeam at written
  split at written
  · cases written
    exact
      { agree with
        teamUser := agree.teamUser
        teamRow := by
          intro otherOrg otherTeam
          rw [agree.teamRow]
          by_cases same : otherTeam = teamId
          · simp [TeamState.getTeam, same, lookup, sameOrg]
          · simp [TeamState.getTeam, getElem?_insert_entry, same] }
  · cases written

/-- Deleting a team removes its rows on every side. -/
theorem deleteTeam
    [Host]
    {after : TeamState}
    (agree : IndexesAgree organization team project)
    (belongs : (team.getTeam teamId).map Team.orgId = some orgId)
    (deleted : team.deleteTeam teamId orgId = .ok after) :
    IndexesAgree organization after (project.removeTeamProjectLinks teamId) := by
  obtain rfl := TeamState.deleteTeam_ok deleted
  exact
    { agree with
      teamUser := by
        intro otherTeam otherUser
        simp only [TeamState.removeTeamUsers, TeamState.listTeamUserIds, mem_eraseRows,
          List.mem_map, mem_prefixRows, Prod.mk.injEq, agree.teamUser]
        grind
      teamRow := by
        intro otherOrg otherTeam
        simp only [TeamState.removeTeamUsers, mem_erase_entry, TeamState.getTeam,
          getElem?_erase_entry, ne_eq, Prod.mk.injEq]
        by_cases same : otherTeam = teamId
        · subst same
          rw [agree.teamRow, belongs]
          simp [eq_comm]
        · simp only [same, and_false, not_false_eq_true, and_true, if_false]
          exact agree.teamRow
      projectTeam := by
        intro otherProject otherTeam
        rw [getElem?_removeTeamProjectLinks agree.projectTeam]
        simp only [ProjectState.removeTeamProjectLinks, ProjectState.listTeamProjectIds,
          getElem?_eraseKeys, agree.projectTeam]
        by_cases same : otherTeam = teamId
        · subst same
          rw [if_pos rfl]
          split
          · rfl
          · rename_i unlisted
            by_contra linked
            obtain ⟨permissions, row⟩ := Option.ne_none_iff_exists'.mp (Ne.symm linked)
            apply unlisted
            exact
              List.mem_map.mpr
                ⟨otherProject,
                  List.mem_map.mpr
                    ⟨(otherProject, permissions), mem_prefixEntries.mpr row, rfl⟩,
                  rfl⟩
        · rw [if_neg same, if_neg]
          intro listed
          obtain ⟨_, _, equal⟩ := List.mem_map.mp listed
          exact same (Prod.mk.inj equal).1.symm }

/-- Joining a team adds a row on both sides. -/
theorem addUserToTeam
    (agree : IndexesAgree organization team project) :
    IndexesAgree organization (team.addUserToTeam userId teamId) project :=
  { agree with
    teamUser := by
      intro otherTeam otherUser
      simp only [TeamState.addUserToTeam, mem_insert_row, agree.teamUser, Prod.mk.injEq,
        and_comm]
    teamRow := agree.teamRow }

/-- Leaving a team removes the row on both sides. -/
theorem removeUserFromTeam
    (agree : IndexesAgree organization team project) :
    IndexesAgree organization (team.removeUserFromTeam userId teamId) project :=
  { agree with
    teamUser := by
      intro otherTeam otherUser
      simp only [TeamState.removeUserFromTeam, mem_erase_row, agree.teamUser, ne_eq,
        Prod.mk.injEq, and_comm]
    teamRow := agree.teamRow }

/-- Setting a team's permissions keeps its row. -/
theorem setOrgTeamPermissions
    {permissions : OrgPermissions}
    (agree : IndexesAgree organization team project) :
    IndexesAgree organization (team.setOrgTeamPermissions orgId teamId permissions)
      project := by
  unfold TeamState.setOrgTeamPermissions
  split
  · rename_i linked
    exact
      { agree with
        teamUser := agree.teamUser
        teamRow := by
          intro otherOrg otherTeam
          have kept :
              (otherOrg, otherTeam) ∈
                  team.organizationTeamPermissionsIndex.insert (orgId, teamId) permissions ↔
                (otherOrg, otherTeam) ∈ team.organizationTeamPermissionsIndex := by
            rw [mem_insert_entry, or_iff_left_iff_imp]
            intro same
            rw [same, ExtTreeMap.mem_iff_isSome_getElem?]
            exact linked
          exact kept.trans agree.teamRow }
  · exact agree

/-- A new project adds its row and its links on both sides. -/
theorem createProject
    {name : String}
    {teams : List TeamId}
    (agree : IndexesAgree organization team project)
    (fresh : project.getProject projectId = none) :
    IndexesAgree organization team
      (teams.foldl (fun state teamId => state.addTeamToProject teamId projectId)
        (project.createProject projectId orgId ⟨orgId, name⟩)) := by
  obtain ⟨projects, rows, projectTeam, teamProject⟩ :=
    foldl_addTeamToProject projectId teams
      (project.createProject projectId orgId ⟨orgId, name⟩)
  exact
    { agree with
      projectRow := by
        intro otherOrg otherProject
        rw [ProjectState.getProject, projects, rows]
        simp only [ProjectState.createProject, mem_insert_row, getElem?_insert_entry,
          Prod.mk.injEq]
        by_cases same : otherProject = projectId
        · subst same
          have noRow : (otherOrg, otherProject) ∉ project.organizationProjectIndex := by
            rw [agree.projectRow, fresh]
            simp
          simp [noRow, eq_comm]
        · simp only [same, and_false, or_false, if_false]
          exact agree.projectRow
      projectTeam := by
        intro otherProject otherTeam
        rw [projectTeam, teamProject]
        have mirrored :
            project.projectTeamPermissionsIndex[(otherProject, otherTeam)]? =
              project.teamProjectPermissionsIndex[(otherTeam, otherProject)]? :=
          agree.projectTeam
        simp only [ProjectState.createProject, mirrored] }

/-- Updating a project within its organization touches no row. -/
theorem updateProject
    [Host]
    {updated : Project}
    {after : ProjectState}
    (agree : IndexesAgree organization team project)
    (sameOrg : (project.getProject projectId).map Project.orgId = some updated.orgId)
    (written : project.updateProject projectId updated = .ok after) :
    IndexesAgree organization team after := by
  unfold ProjectState.updateProject at written
  split at written
  · cases written
    exact
      { agree with
        projectRow := by
          intro otherOrg otherProject
          rw [agree.projectRow]
          by_cases same : otherProject = projectId
          · subst same
            rw [sameOrg]
            simp [ProjectState.getProject]
          · simp [ProjectState.getProject, getElem?_insert_entry, same]
        projectTeam := agree.projectTeam }
  · cases written

/-- Deleting a project removes its rows on every side. -/
theorem deleteProject
    [Host]
    {after : ProjectState}
    (agree : IndexesAgree organization team project)
    (inOrg : (project.getProject projectId).map Project.orgId = some orgId)
    (deleted : project.deleteProject projectId orgId = .ok after) :
    IndexesAgree organization team after := by
  obtain ⟨projects, rows, projectTeam, teamProject⟩ := ProjectState.deleteProject_ok deleted
  exact
    { agree with
      projectRow := by
        intro otherOrg otherProject
        rw [ProjectState.getProject, projects, rows]
        simp only [mem_erase_row, getElem?_erase_entry, ne_eq, Prod.mk.injEq]
        by_cases same : otherProject = projectId
        · subst same
          rw [agree.projectRow, inOrg]
          simp [eq_comm]
        · simp only [same, and_false, not_false_eq_true, and_true, if_false]
          exact agree.projectRow
      projectTeam := by
        intro otherProject otherTeam
        rw [projectTeam, teamProject, getElem?_eraseKeys_projectTeams, getElem?_eraseKeys]
        by_cases same : otherProject = projectId
        · subst same
          rw [if_pos rfl, ← agree.projectTeam]
          split
          · rfl
          · rename_i unlisted
            by_contra linked
            apply unlisted
            refine List.mem_map.mpr ⟨otherTeam, ?_, rfl⟩
            exact mem_listProjectTeamIds.mpr (Option.isSome_iff_ne_none.mpr (Ne.symm linked))
        · rw [if_neg same, if_neg, agree.projectTeam]
          intro listed
          obtain ⟨_, _, equal⟩ := List.mem_map.mp listed
          exact same (Prod.mk.inj equal).2.symm }

/-- A link is stored on both sides. -/
theorem addTeamToProjectWithPermissions
    {permissions : ProjectPermissions}
    (agree : IndexesAgree organization team project) :
    IndexesAgree organization team
      (project.addTeamToProjectWithPermissions teamId projectId permissions) :=
  { agree with
    projectRow := agree.projectRow
    projectTeam := by
      intro otherProject otherTeam
      simp only [ProjectState.addTeamToProjectWithPermissions, getElem?_insert_entry,
        Prod.mk.injEq, agree.projectTeam, and_comm] }

/-- Setting a link's permissions stores them on both sides. -/
theorem setProjectTeamPermissions
    {permissions : ProjectPermissions}
    (agree : IndexesAgree organization team project) :
    IndexesAgree organization team
      (project.setProjectTeamPermissions projectId teamId permissions) := by
  unfold ProjectState.setProjectTeamPermissions
  split
  · exact agree
  · exact agree.addTeamToProjectWithPermissions

/-- Removing a link removes it on both sides. -/
theorem removeTeamFromProject
    (agree : IndexesAgree organization team project) :
    IndexesAgree organization team (project.removeTeamFromProject teamId projectId) :=
  { agree with
    projectRow := agree.projectRow
    projectTeam := by
      intro otherProject otherTeam
      simp only [ProjectState.removeTeamFromProject, getElem?_erase_entry, Prod.mk.injEq,
        agree.projectTeam, and_comm] }

/-- Founding an organization adds all its rows. -/
theorem founding
    {org : Organization}
    {teamName projectName : String}
    (agree : IndexesAgree organization team project)
    (freshTeam : team.getTeam teamId = none)
    (freshProject : project.getProject projectId = none) :
    IndexesAgree (organization.createOrg orgId userId org)
      (team.createTeam teamId userId orgId ⟨orgId, teamName⟩)
      ((project.createProject projectId orgId ⟨orgId, projectName⟩).addTeamToProject teamId
        projectId) := by
  change
    IndexesAgree _ _
      ([teamId].foldl (fun state teamId => state.addTeamToProject teamId projectId) _)
  exact (agree.createOrg.createTeam freshTeam).createProject freshProject

end IndexesAgree

end SsnConsole.Backend
