import SsnConsole.AccessGraph
import SsnConsole.BackendTransitions
import SsnConsole.PermissionFlags

/-!
# The membership stores as an access graph

The abstract reading of the organization, team and project indexes: who belongs
to what and which flags the teams grant.  `IndexesAgree` says when the indexes
represent a graph at all, and each repository function then is the operation of
the graph that it stands for.
-/

namespace SsnConsole.Backend

open Std (ExtTreeMap ExtTreeSet)
open SsnConsole.StableIndex

/-- The graph of the membership stores. -/
abbrev MembershipGraph : Type :=
  AccessGraph.Graph UserId OrgId TeamId ProjectId Nat Nat

/-- The indexes of the membership stores represent a graph. -/
structure IndexesAgree
    (organization : OrganizationState)
    (team : TeamState)
    (project : ProjectState) : Prop where
  organizationUser :
    ∀ {orgId : OrgId} {userId : UserId},
      (orgId, userId) ∈ organization.organizationUserIndex ↔
        (userId, orgId) ∈ organization.userOrganizationIndex
  teamUser :
    ∀ {teamId : TeamId} {userId : UserId},
      (teamId, userId) ∈ team.teamUserIndex ↔ (userId, teamId) ∈ team.userTeamIndex
  teamRow :
    ∀ {orgId : OrgId} {teamId : TeamId},
      (orgId, teamId) ∈ team.organizationTeamPermissionsIndex ↔
        (team.getTeam teamId).map Team.orgId = some orgId
  projectRow :
    ∀ {orgId : OrgId} {projectId : ProjectId},
      (orgId, projectId) ∈ project.organizationProjectIndex ↔
        (project.getProject projectId).map Project.orgId = some orgId
  projectTeam :
    ∀ {projectId : ProjectId} {teamId : TeamId},
      project.projectTeamPermissionsIndex[(projectId, teamId)]? =
        project.teamProjectPermissionsIndex[(teamId, projectId)]?

/-- The abstract reading of the membership stores. -/
def membershipGraph (profiles : ExtTreeMap UserId UserProfile)
    (organization : OrganizationState) (team : TeamState) (project : ProjectState) :
    MembershipGraph where
  users := {userId | userId ∈ profiles}
  orgs := {orgId | orgId ∈ organization.organizations}
  members := fun orgId => {userId | (orgId, userId) ∈ organization.organizationUserIndex}
  teamOrg := fun teamId => (team.getTeam teamId).map Team.orgId
  projectOrg := fun projectId => (project.getProject projectId).map Project.orgId
  teamUsers := fun teamId => {userId | (teamId, userId) ∈ team.teamUserIndex}
  orgGrant := fun teamId =>
    {flag | ∃ stored permissions,
      team.getTeam teamId = some stored ∧
        team.getOrgTeamPermissions stored.orgId teamId = some permissions ∧
          flag ∈ permissions.flags}
  projectGrant := fun projectId teamId =>
    (project.getProjectTeamPermissions projectId teamId).map Permissions.flags

/-- The graph of the stores of a backend. -/
def Stores.graph (s : Stores) : MembershipGraph :=
  membershipGraph s.userProfile.profiles s.organization s.team s.project

/-- The indexes of the stores represent their graph. -/
def Stores.IndexesAgree (s : Stores) : Prop :=
  Backend.IndexesAgree s.organization s.team s.project

section Reading

variable {s : Stores}

/-- What the teams of a user grant in an organization, as the code aggregates it. -/
theorem Stores.IndexesAgree.flags_aggregateUserOrgPermissions
    (agree : s.IndexesAgree)
    (userId : UserId)
    (orgId : OrgId) :
    (s.team.aggregateUserOrgPermissions userId orgId).flags = s.graph.orgFlags userId orgId := by
  ext flag
  unfold TeamState.aggregateUserOrgPermissions
  rw [Permissions.mem_flags_unionAll]
  constructor
  · rintro ⟨permissions, listed, granted⟩
    obtain ⟨teamId, enrolled, row⟩ := List.mem_filterMap.mp listed
    have isRow : (orgId, teamId) ∈ s.team.organizationTeamPermissionsIndex := by
      rw [ExtTreeMap.mem_iff_isSome_getElem?]
      exact Option.isSome_of_eq_some row
    have belongs := agree.teamRow.mp isRow
    obtain ⟨stored, found, rfl⟩ := Option.map_eq_some_iff.mp belongs
    refine ⟨teamId, ?_, belongs, stored, permissions, found, row, granted⟩
    exact agree.teamUser.mpr (mem_prefixRows.mp enrolled)
  · rintro ⟨teamId, enrolled, belongs, stored, permissions, found, row, granted⟩
    have sameOrg : stored.orgId = orgId := by
      have unfolded : (s.team.getTeam teamId).map Team.orgId = some orgId := belongs
      rw [found] at unfolded
      simpa using unfolded
    subst sameOrg
    refine ⟨permissions, List.mem_filterMap.mpr ⟨teamId, ?_, row⟩, granted⟩
    exact mem_prefixRows.mpr (agree.teamUser.mp enrolled)

/-- What the teams of a user grant on a project, as the code aggregates it. -/
theorem Stores.IndexesAgree.flags_aggregateTeamProjectPermissions
    (agree : s.IndexesAgree)
    (userId : UserId)
    (projectId : ProjectId) :
    (s.project.aggregateTeamProjectPermissions (s.team.listUserTeamIds userId)
      projectId).1.flags = s.graph.projectFlags userId projectId := by
  ext flag
  unfold ProjectState.aggregateTeamProjectPermissions
  rw [Permissions.mem_flags_unionAll]
  constructor
  · rintro ⟨permissions, listed, granted⟩
    obtain ⟨teamId, enrolled, row⟩ := List.mem_filterMap.mp listed
    refine ⟨teamId, permissions.flags, ?_, ?_, granted⟩
    · exact agree.teamUser.mpr (mem_prefixRows.mp enrolled)
    · exact congrArg (Option.map Permissions.flags) row
  · rintro ⟨teamId, flags, enrolled, linked, granted⟩
    obtain ⟨permissions, row, rfl⟩ := Option.map_eq_some_iff.mp linked
    refine ⟨permissions, List.mem_filterMap.mpr ⟨teamId, ?_, row⟩, granted⟩
    exact mem_prefixRows.mpr (agree.teamUser.mp enrolled)

end Reading

section Guards

variable {s : Stores}
variable {userId : UserId} {orgId : OrgId} {teamId : TeamId} {projectId : ProjectId}

/-- A duplicate-free list of two elements has one besides any given one. -/
private theorem exists_other
    {α : Type}
    {items : List α}
    (distinct : items.Nodup)
    (enough : 2 ≤ items.length)
    (item : α) :
    ∃ other ∈ items, other ≠ item := by
  by_contra none_other
  have all_same : ∀ other ∈ items, other = item := by
    intro other member
    by_contra different
    exact none_other ⟨other, member, different⟩
  match items, distinct, enough with
  | first :: second :: rest, distinct, _ =>
      have firstSame := all_same first (by simp)
      have secondSame := all_same second (by simp)
      rw [firstSame, secondSame] at distinct
      simp at distinct

/-- Members of an organization are its members in the graph. -/
theorem Stores.mem_members
    (member : s.organization.isUserInOrg userId orgId = true) :
    userId ∈ s.graph.members orgId :=
  ExtTreeSet.mem_iff_contains.mpr member

/-- Members of a team are its members in the graph. -/
theorem Stores.mem_teamUsers :
    s.team.isUserInTeam userId teamId = true ↔ userId ∈ s.graph.teamUsers teamId :=
  ExtTreeSet.mem_iff_contains.symm

/-- A row of the permission index is a team of the organization. -/
theorem Stores.IndexesAgree.mem_listOrgTeamIds
    (agree : s.IndexesAgree) :
    teamId ∈ s.team.listOrgTeamIds orgId ↔ s.graph.teamOrg teamId = some orgId := by
  unfold TeamState.listOrgTeamIds
  rw [List.mem_map]
  refine Iff.trans ?_ agree.teamRow
  rw [ExtTreeMap.mem_iff_isSome_getElem?, Option.isSome_iff_exists]
  constructor
  · rintro ⟨⟨_, permissions⟩, listed, rfl⟩
    exact ⟨permissions, mem_prefixEntries.mp listed⟩
  · rintro ⟨permissions, row⟩
    exact ⟨(teamId, permissions), mem_prefixEntries.mpr row, rfl⟩

/-- An organization with two teams has one besides any given one. -/
theorem Stores.IndexesAgree.exists_other_team
    (agree : s.IndexesAgree)
    (enough : s.team.hasAtLeastNOrgTeams orgId 2 = true)
    (teamId : TeamId) :
    ∃ other, other ≠ teamId ∧ s.graph.teamOrg other = some orgId := by
  have long : 2 ≤ (s.team.listOrgTeamIds orgId).length := by
    have taken := of_decide_eq_true enough
    rw [List.length_take] at taken
    omega
  obtain ⟨other, listed, distinct⟩ := exists_other (nodup_prefixEntries_keys _ _) long teamId
  exact ⟨other, distinct, agree.mem_listOrgTeamIds.mp listed⟩

/-- An organization with two projects has one besides any given one. -/
theorem Stores.IndexesAgree.exists_other_project
    (agree : s.IndexesAgree)
    (enough : s.project.hasAtLeastNOrgProjects orgId 2 = true)
    (projectId : ProjectId) :
    ∃ other, other ≠ projectId ∧ s.graph.projectOrg other = some orgId := by
  have long : 2 ≤ (s.project.listOrgProjectIds orgId).length := by
    have taken := of_decide_eq_true enough
    rw [List.length_take] at taken
    omega
  obtain ⟨other, listed, distinct⟩ := exists_other (nodup_prefixRows _ _) long projectId
  exact ⟨other, distinct, agree.projectRow.mp (mem_prefixRows.mp listed)⟩

/-- A project with two linked teams has one besides any given one. -/
theorem Stores.exists_other_link
    (enough : 2 ≤ s.project.projectTeamCount projectId)
    (teamId : TeamId) :
    ∃ other, other ≠ teamId ∧ (s.graph.projectGrant projectId other).isSome := by
  obtain ⟨other, listed, distinct⟩ := exists_other (nodup_prefixEntries_keys _ _) enough teamId
  obtain ⟨⟨_, permissions⟩, row, rfl⟩ := List.mem_map.mp listed
  have lookup : s.project.getProjectTeamPermissions projectId _ = some permissions :=
    mem_prefixEntries.mp row
  refine ⟨_, distinct, ?_⟩
  change (Option.map _ (s.project.getProjectTeamPermissions projectId _)).isSome = true
  rw [lookup]
  rfl

/-- A team without listed projects is linked to none. -/
theorem Stores.IndexesAgree.projectGrant_eq_none
    (agree : s.IndexesAgree)
    (unlinked : s.project.teamHasProjects teamId = false)
    (projectId : ProjectId) :
    s.graph.projectGrant projectId teamId = none := by
  have noRows : s.project.listTeamProjectIds teamId = [] := by
    simpa [ProjectState.teamHasProjects] using unlinked
  have noRow : s.project.teamProjectPermissionsIndex[(teamId, projectId)]? = none := by
    by_contra linked
    obtain ⟨permissions, row⟩ := Option.ne_none_iff_exists'.mp linked
    have listed : projectId ∈ s.project.listTeamProjectIds teamId :=
      List.mem_map.mpr ⟨(projectId, permissions), mem_prefixEntries.mpr row, rfl⟩
    rw [noRows] at listed
    cases listed
  rw [← agree.projectTeam] at noRow
  exact congrArg (Option.map Permissions.flags) noRow

/-- A listed team that grants `ORG_ADMIN` administers its organization. -/
private theorem Stores.IndexesAgree.administeredBy
    {permissions : OrgPermissions}
    (agree : s.IndexesAgree)
    (listed : (teamId, permissions) ∈ prefixEntries s.team.organizationTeamPermissionsIndex orgId)
    (grants : permissions.contains OrgPermissions.ORG_ADMIN = true)
    (enrolled : userId ∈ s.team.listTeamUserIds teamId) :
    s.graph.AdministeredBy OrgPermissions.ORG_ADMIN.flags orgId teamId userId := by
  have row := mem_prefixEntries.mp listed
  have belongs : (s.team.getTeam teamId).map Team.orgId = some orgId := by
    apply agree.teamRow.mp
    rw [ExtTreeMap.mem_iff_isSome_getElem?]
    exact Option.isSome_of_eq_some row
  refine ⟨belongs, ?_, mem_prefixRows.mp enrolled⟩
  obtain ⟨stored, found, rfl⟩ := Option.map_eq_some_iff.mp belongs
  intro flag isAdmin
  exact ⟨stored, permissions, found, row, Permissions.contains_iff.mp grants isAdmin⟩

/-- The admin check without a team finds an administrator in another team. -/
theorem Stores.IndexesAgree.administeredBy_excludingTeam
    (agree : s.IndexesAgree)
    (populated : s.team.orgAdminIsPopulatedExcludingTeam orgId teamId = true) :
    ∃ other user,
      other ≠ teamId ∧
        s.graph.AdministeredBy OrgPermissions.ORG_ADMIN.flags orgId other user := by
  obtain ⟨⟨other, permissions⟩, listed, holds⟩ := List.any_eq_true.mp populated
  dsimp only at holds
  split at holds
  · cases holds
  · rename_i distinct
    obtain ⟨grants, nonempty⟩ := Bool.and_eq_true_iff.mp holds
    obtain ⟨user, enrolled⟩ : ∃ user, user ∈ s.team.listTeamUserIds other := by
      apply List.exists_mem_of_ne_nil
      simpa using nonempty
    exact ⟨other, user, distinct, agree.administeredBy listed grants enrolled⟩

/-- The admin check without a membership finds another administrator. -/
theorem Stores.IndexesAgree.administeredBy_excludingTeamMember
    (agree : s.IndexesAgree)
    (populated :
      s.team.orgAdminIsPopulatedExcludingTeamMember orgId teamId userId = true) :
    ∃ other user,
      ¬(other = teamId ∧ user = userId) ∧
        s.graph.AdministeredBy OrgPermissions.ORG_ADMIN.flags orgId other user := by
  obtain ⟨⟨other, permissions⟩, listed, holds⟩ := List.any_eq_true.mp populated
  dsimp only at holds
  split at holds
  · cases holds
  · rename_i grants
    obtain ⟨user, enrolled, distinct⟩ := List.any_eq_true.mp holds
    exact
      ⟨other, user, by simpa [or_iff_not_imp_left] using distinct,
        agree.administeredBy listed (by simpa using grants) enrolled⟩

/-- The teams that a project creator brings in belong to the organization. -/
theorem Stores.IndexesAgree.mem_listUserTeamsInOrg
    (agree : s.IndexesAgree) :
    teamId ∈ s.team.listUserTeamsInOrg userId orgId ↔
      userId ∈ s.graph.teamUsers teamId ∧ s.graph.teamOrg teamId = some orgId := by
  unfold TeamState.listUserTeamsInOrg TeamState.listUserTeamIds
  rw [List.mem_filter, mem_prefixRows]
  refine and_congr agree.teamUser.symm ?_
  refine Iff.trans ?_ agree.teamRow
  rw [ExtTreeMap.mem_iff_isSome_getElem?]
  rfl

end Guards

end SsnConsole.Backend
