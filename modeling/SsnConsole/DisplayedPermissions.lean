import SsnConsole.MembershipViews

/-!
# Displayed permissions are the enforced ones

The views carry `your_permissions`, so that a client can offer what the caller
may do without asking again.  Here they are compared with the access checks
themselves: in every reachable state a caller is shown exactly the organizations
and projects that the checks let it into, with exactly the permissions that they
grant, whichever view it asks.
-/

namespace SsnConsole.Backend

open SsnConsole.LookedUpRows
open SsnConsole.MessageSlice
open SsnConsole.MessageRun
open SsnConsole.StableIndex

section Readback

variable {scope : PermissionScope}

/-- Adding a flag that another set holds adds what the two have in common. -/
theorem Permissions.flags_withFlag
    {start held flag : Permissions scope}
    (single : flag.IsFlag) :
    (start.withFlag (held.contains flag) flag).flags =
      start.flags ∪ held.flags ∩ flag.flags := by
  obtain ⟨place, onlyPlace⟩ := single.exists_flags_eq
  have membership : held.contains flag = true ↔ place ∈ held.flags := by
    rw [Permissions.contains_iff, onlyPlace, Set.singleton_subset_iff]
  unfold Permissions.withFlag
  split
  · rename_i holds
    have inHeld := membership.mp holds
    rw [Permissions.flags_union, onlyPlace,
      Set.inter_eq_right.mpr (Set.singleton_subset_iff.mpr inHeld)]
  · rename_i lacks
    have notInHeld : place ∉ held.flags := fun inHeld => lacks (membership.mpr inHeld)
    rw [onlyPlace, Set.inter_singleton_eq_empty.mpr notInHeld, Set.union_empty]

/-- What is read back from the displayed organization permissions. -/
theorem flags_mapOrgPermissions
    (perms : OrgPermissions) :
    (mapOrgPermissionsFromDto (mapOrgPermissions perms)).flags =
      perms.flags ∩ OrgPermissions.ALL.flags := by
  have known :
      OrgPermissions.ALL.flags =
        OrgPermissions.ORG_ADMIN.flags ∪ OrgPermissions.MEMBER_MANAGE.flags ∪
          OrgPermissions.TEAM_MANAGE.flags ∪ OrgPermissions.PROJECT_CREATE.flags ∪
            OrgPermissions.BILLING_MANAGE.flags := by
    simp only [Permissions.flags, OrgPermissions.ALL, BitFlags.flags_or]
  have admin : OrgPermissions.ORG_ADMIN.IsFlag := ⟨0, by decide, rfl⟩
  have member : OrgPermissions.MEMBER_MANAGE.IsFlag := ⟨1, by decide, rfl⟩
  have team : OrgPermissions.TEAM_MANAGE.IsFlag := ⟨2, by decide, rfl⟩
  have project : OrgPermissions.PROJECT_CREATE.IsFlag := ⟨3, by decide, rfl⟩
  have billing : OrgPermissions.BILLING_MANAGE.IsFlag := ⟨4, by decide, rfl⟩
  simp only [mapOrgPermissionsFromDto, mapOrgPermissions, Permissions.flags_withFlag, admin,
    member, team, project, billing, Permissions.flags_EMPTY, Set.empty_union, known,
    Set.inter_union_distrib_left]

/-- What is read back from the displayed project permissions. -/
theorem flags_mapProjectPermissions
    (perms : ProjectPermissions) :
    (mapProjectPermissionsFromDto (mapProjectPermissions perms)).flags =
      perms.flags ∩ ProjectPermissions.ALL.flags := by
  have known :
      ProjectPermissions.ALL.flags =
        ProjectPermissions.PROJECT_ADMIN.flags ∪ ProjectPermissions.CANISTER_MANAGE.flags ∪
          ProjectPermissions.PROPOSAL_CREATE.flags ∪
            ProjectPermissions.PROPOSAL_APPROVE.flags ∪
              ProjectPermissions.CANISTER_OPERATE.flags ∪
                ProjectPermissions.CANISTER_READ.flags ∪
                  ProjectPermissions.APPROVAL_POLICY_MANAGE.flags ∪
                    ProjectPermissions.PROJECT_SETTINGS.flags := by
    simp only [Permissions.flags, ProjectPermissions.ALL, BitFlags.flags_or]
  have admin : ProjectPermissions.PROJECT_ADMIN.IsFlag := ⟨0, by decide, rfl⟩
  have manage : ProjectPermissions.CANISTER_MANAGE.IsFlag := ⟨1, by decide, rfl⟩
  have create : ProjectPermissions.PROPOSAL_CREATE.IsFlag := ⟨2, by decide, rfl⟩
  have approve : ProjectPermissions.PROPOSAL_APPROVE.IsFlag := ⟨3, by decide, rfl⟩
  have operate : ProjectPermissions.CANISTER_OPERATE.IsFlag := ⟨4, by decide, rfl⟩
  have read : ProjectPermissions.CANISTER_READ.IsFlag := ⟨5, by decide, rfl⟩
  have policy : ProjectPermissions.APPROVAL_POLICY_MANAGE.IsFlag := ⟨6, by decide, rfl⟩
  have settings : ProjectPermissions.PROJECT_SETTINGS.IsFlag := ⟨7, by decide, rfl⟩
  simp only [mapProjectPermissionsFromDto, mapProjectPermissions, Permissions.flags_withFlag,
    admin, manage, create, approve, operate, read, policy, settings, Permissions.flags_EMPTY,
    Set.empty_union, known, Set.inter_union_distrib_left]

/-- The displayed organization permissions answer for every known permission. -/
theorem contains_mapOrgPermissions
    {perms needed : OrgPermissions}
    (known : OrgPermissions.ALL.contains needed = true) :
    (mapOrgPermissionsFromDto (mapOrgPermissions perms)).contains needed = true ↔
      perms.contains needed = true := by
  rw [Permissions.contains_iff] at known
  rw [Permissions.contains_iff, Permissions.contains_iff, flags_mapOrgPermissions,
    Set.subset_inter_iff]
  exact and_iff_left known

/-- The displayed project permissions answer for every known permission. -/
theorem contains_mapProjectPermissions
    {perms needed : ProjectPermissions}
    (known : ProjectPermissions.ALL.contains needed = true) :
    (mapProjectPermissionsFromDto (mapProjectPermissions perms)).contains needed = true ↔
      perms.contains needed = true := by
  rw [Permissions.contains_iff] at known
  rw [Permissions.contains_iff, Permissions.contains_iff, flags_mapProjectPermissions,
    Set.subset_inter_iff]
  exact and_iff_left known

end Readback

section Checks

variable [Host] {s : Stores} {caller : Principal} {userId : UserId}
variable {orgId : OrgId} {projectId : ProjectId}

/-- A user passes in an organization exactly if it is a member whose teams grant enough. -/
theorem OrgAuth.exists_requireForUser_iff
    {needed : OrgPermissions} :
    (∃ auth, OrgAuth.requireForUser userId orgId needed s = .ok auth) ↔
      s.organization.isUserInOrg userId orgId = true ∧
        (s.team.aggregateUserOrgPermissions userId orgId).contains needed = true := by
  constructor
  · rintro ⟨auth, passed⟩
    have holds := OrgAuth.requireForUser_ok passed
    have enough := holds.needed
    rw [holds.perms] at enough
    exact ⟨holds.member, enough⟩
  · rintro ⟨member, enough⟩
    refine ⟨⟨userId, orgId, s.team.aggregateUserOrgPermissions userId orgId⟩, ?_⟩
    simp [OrgAuth.requireForUser, member, enough]

/-- An account resolves to its user. -/
theorem UserProfileState.assertUserIdByPrincipal_eq_ok
    {state : UserProfileState}
    (account : state.getUserIdByPrincipal caller = some userId) :
    state.assertUserIdByPrincipal caller = .ok userId := by
  simp [UserProfileState.assertUserIdByPrincipal, account]

/-- The check of a caller with an account is the check of its user. -/
theorem OrgAuth.require_eq_requireForUser
    {needed : OrgPermissions}
    (account : s.userProfile.getUserIdByPrincipal caller = some userId) :
    OrgAuth.require caller orgId needed s = OrgAuth.requireForUser userId orgId needed s := by
  have resolved := UserProfileState.assertUserIdByPrincipal_eq_ok account
  simp only [OrgAuth.require, resolved, bind, Except.bind]

/-- The project check of a caller with an account is the check of its user. -/
theorem ProjectAuth.require_eq_forUser
    {needed : ProjectPermissions}
    (account : s.userProfile.getUserIdByPrincipal caller = some userId) :
    ProjectAuth.require caller projectId needed s =
      ProjectAuth.forUser userId projectId needed s := by
  have resolved := UserProfileState.assertUserIdByPrincipal_eq_ok account
  simp only [ProjectAuth.require, resolved, bind, Except.bind]

/-- A member passes without needing a permission, with its teams' permissions. -/
theorem OrgAuth.requireForUser_EMPTY
    (member : s.organization.isUserInOrg userId orgId = true) :
    OrgAuth.requireForUser userId orgId .EMPTY s =
      .ok ⟨userId, orgId, s.team.aggregateUserOrgPermissions userId orgId⟩ := by
  simp [OrgAuth.requireForUser, member, Permissions.contains_EMPTY]

/-- Who passes in an organization is a member of it. -/
theorem OrgAuth.exists_requireForUser_EMPTY_iff :
    (∃ auth, OrgAuth.requireForUser userId orgId .EMPTY s = .ok auth) ↔
      s.organization.isUserInOrg userId orgId = true := by
  rw [OrgAuth.exists_requireForUser_iff]
  exact and_iff_left (Permissions.contains_EMPTY _)

/-- What the user's teams grant on a project, by the project checks. -/
abbrev Stores.projectPerms (s : Stores) (userId : UserId) (projectId : ProjectId) :
    ProjectPermissions :=
  (s.project.aggregateTeamProjectPermissions (s.team.listUserTeamIds userId) projectId).1

/-- In a sound state a linked user passes exactly with what its teams grant. -/
theorem Stores.Sound.exists_forUser_iff
    {needed : ProjectPermissions}
    (sound : s.Sound) :
    (∃ auth, ProjectAuth.forUser userId projectId needed s = .ok auth) ↔
      s.Linked userId projectId ∧
        (s.projectPerms userId projectId).contains needed = true := by
  rw [sound.forUser_ok_iff, Permissions.contains_iff,
    sound.agree.flags_aggregateTeamProjectPermissions]

omit [Host] in
/-- Teams grant nothing on a project that none of them is linked to. -/
theorem Stores.linked_of_contains
    {needed : ProjectPermissions}
    (agree : s.IndexesAgree)
    (nonempty : needed ≠ .EMPTY)
    (enough : (s.projectPerms userId projectId).contains needed = true) :
    s.Linked userId projectId := by
  by_contra unlinked
  have nothing : s.projectPerms userId projectId = .EMPTY := by
    have ungranted :
        (s.team.listUserTeamIds userId).filterMap
          (fun teamId => s.project.getProjectTeamPermissions projectId teamId) = [] := by
      rw [List.filterMap_eq_nil_iff]
      intro teamId enrolled
      by_contra granted
      have member := agree.teamUser.mpr (mem_prefixRows.mp enrolled)
      exact unlinked ⟨teamId, member, Option.isSome_iff_ne_none.mpr granted⟩
    simp [Stores.projectPerms, ProjectState.aggregateTeamProjectPermissions, ungranted,
      Permissions.unionAll]
  rw [nothing] at enough
  have zero : 0 = needed.bits := by
    simpa [Permissions.contains, Permissions.EMPTY] using enough
  exact nonempty (congrArg Permissions.mk zero.symm)

end Checks

section Views

variable [Host]

/-- The organizations shown to a caller are those that the checks let it into, with the
permissions that the checks grant. -/
structure Stores.OrganizationsShown (s : Stores) (call : Call)
    (rows : List (OrgId × Dto.Organization)) : Prop where
  listed : OrganizationService.listMyOrganizations call s = .ok (rows.map Prod.snd)
  distinct : (rows.map Prod.fst).Nodup
  admitted :
    ∀ orgId,
      orgId ∈ rows.map Prod.fst ↔
        ∃ auth, OrgAuth.require call.caller orgId .EMPTY s = .ok auth
  enforced :
    ∀ orgId shown needed,
      (orgId, shown) ∈ rows → OrgPermissions.ALL.contains needed = true →
        ((mapOrgPermissionsFromDto shown.yourPermissions).contains needed = true ↔
          ∃ auth, OrgAuth.require call.caller orgId needed s = .ok auth)
  /-- `get_organization` shows the same entry. -/
  found :
    ∀ orgId shown text,
      (orgId, shown) ∈ rows → Id.tryFrom text = .ok orgId →
        OrganizationService.getOrganization call text s = some (.ok shown)
  /-- `get_organization` shows no other organization, and never traps. -/
  refused :
    ∀ orgId text,
      orgId ∉ rows.map Prod.fst → Id.tryFrom text = .ok orgId →
        ∃ error, OrganizationService.getOrganization call text s = some (.error error)

/-- The projects shown to a caller are those that the checks give access to, with the
permissions that the checks grant. -/
structure Stores.ProjectsShown (s : Stores) (call : Call)
    (rows : List (ProjectId × Dto.Project)) : Prop where
  listed : ProjectService.listMyProjects call s = .ok (rows.map Prod.snd)
  distinct : (rows.map Prod.fst).Nodup
  admitted :
    ∀ projectId,
      projectId ∈ rows.map Prod.fst ↔
        ∃ auth, ProjectAuth.require call.caller projectId .EMPTY s = .ok auth
  enforced :
    ∀ projectId shown needed,
      (projectId, shown) ∈ rows → ProjectPermissions.ALL.contains needed = true →
        ((mapProjectPermissionsFromDto shown.yourPermissions).contains needed = true ↔
          ∃ auth, ProjectAuth.require call.caller projectId needed s = .ok auth)
  /-- `get_project` shows the same entry. -/
  found :
    ∀ projectId shown text,
      (projectId, shown) ∈ rows → Id.tryFrom text = .ok projectId →
        ProjectService.getProject call text s = some (.ok (.project shown))
  /-- `get_project` shows no other project, and never traps. -/
  refused :
    ∀ projectId text,
      projectId ∉ rows.map Prod.fst → Id.tryFrom text = .ok projectId →
        ∃ error, ProjectService.getProject call text s = some (.error error)

/-- The projects of an organization, as shown to one of its members. -/
structure Stores.OrgProjectsShown (s : Stores) (call : Call) (orgId : OrgId) (text : String)
    (rows : List (ProjectId × Dto.Project)) : Prop where
  listed : ProjectService.listOrgProjects call text s = .ok (rows.map Prod.snd)
  distinct : (rows.map Prod.fst).Nodup
  complete :
    ∀ projectId,
      projectId ∈ rows.map Prod.fst ↔
        (s.project.getProject projectId).map Project.orgId = some orgId
  /-- A project without access is listed too, and then without any permission. -/
  enforced :
    ∀ projectId shown needed,
      (projectId, shown) ∈ rows → ProjectPermissions.ALL.contains needed = true →
        needed ≠ .EMPTY →
          ((mapProjectPermissionsFromDto shown.yourPermissions).contains needed = true ↔
            ∃ auth, ProjectAuth.require call.caller projectId needed s = .ok auth)

variable {s : Stores} {call : Call} {userId : UserId}

/-- The rows of `list_my_organizations`, by their organizations. -/
private def organizationRows (s : Stores) (userId : UserId) :
    List (OrgId × Dto.Organization) :=
  (s.organization.listUserOrgs userId).map fun row =>
    (row.1,
      mapOrganizationResponse row.1 row.2 (s.team.aggregateUserOrgPermissions userId row.1))

/-- The rows of a listing of projects, by their projects. -/
private def projectRows (s : Stores) (userId : UserId) (projects : List (ProjectId × Project)) :
    List (ProjectId × Dto.Project) :=
  projects.map fun row =>
    (row.1, mapProjectResponse row.1 row.2 (s.projectPerms userId row.1))

/-- A row shows an organization of the user. -/
private theorem mem_organizationRows_iff
    {orgId : OrgId}
    {shown : Dto.Organization} :
    (orgId, shown) ∈ organizationRows s userId ↔
      ∃ org,
        (orgId, org) ∈ s.organization.listUserOrgs userId ∧
          mapOrganizationResponse orgId org (s.team.aggregateUserOrgPermissions userId orgId) =
            shown :=
  mem_map_describe fun orgId org =>
    mapOrganizationResponse orgId org (s.team.aggregateUserOrgPermissions userId orgId)

/-- A row shows a listed project. -/
private theorem mem_projectRows_iff
    {projects : List (ProjectId × Project)}
    {projectId : ProjectId}
    {shown : Dto.Project} :
    (projectId, shown) ∈ projectRows s userId projects ↔
      ∃ project,
        (projectId, project) ∈ projects ∧
          mapProjectResponse projectId project (s.projectPerms userId projectId) = shown :=
  mem_map_describe fun projectId project =>
    mapProjectResponse projectId project (s.projectPerms userId projectId)

/-- The keys of the organizations of a user are the rows of its index. -/
private theorem map_fst_organizationRows
    (sound : s.Sound) :
    (organizationRows s userId).map Prod.fst =
      prefixRows s.organization.userOrganizationIndex userId := by
  have integrity := sound.membershipIntegrity
  have complete :
      ∀ orgId ∈ prefixRows s.organization.userOrganizationIndex userId,
        (s.organization.getOrg orgId).isSome := by
    intro orgId member
    have mirrored := sound.agree.organizationUser.mpr (mem_prefixRows.mp member)
    have stored := (integrity.memberExists orgId userId mirrored).1
    exact Std.ExtTreeMap.isSome_getElem?_iff_mem.mpr stored
  have sameKeys :
      (organizationRows s userId).map Prod.fst =
        (s.organization.listUserOrgs userId).map Prod.fst :=
    map_fst_map
      (fun orgId org =>
        mapOrganizationResponse orgId org (s.team.aggregateUserOrgPermissions userId orgId))
      (s.organization.listUserOrgs userId)
  rw [sameKeys]
  exact map_fst_lookedUp complete

/-- The listed organizations of a user are those that it is a member of. -/
private theorem mem_organizationRows
    (sound : s.Sound)
    {orgId : OrgId} :
    orgId ∈ (organizationRows s userId).map Prod.fst ↔
      s.organization.isUserInOrg userId orgId = true := by
  rw [map_fst_organizationRows sound, mem_prefixRows, ← sound.agree.organizationUser]
  exact Std.ExtTreeSet.mem_iff_contains

/-- The view of one's organizations agrees with the checks. -/
theorem Stores.Sound.organizationsShown
    (sound : s.Sound)
    (account : s.userProfile.getUserIdByPrincipal call.caller = some userId) :
    s.OrganizationsShown call (organizationRows s userId) where
  listed := by
    have resolved := UserProfileState.assertUserIdByPrincipal_eq_ok account
    simp [OrganizationService.listMyOrganizations, organizationRows, resolved, bind, Except.bind,
      Function.comp_def]
  distinct := by
    rw [map_fst_organizationRows sound]
    exact nodup_prefixRows _ _
  admitted orgId := by
    rw [mem_organizationRows sound, OrgAuth.require_eq_requireForUser account,
      OrgAuth.exists_requireForUser_EMPTY_iff]
  enforced orgId shown needed member known := by
    have key : orgId ∈ (organizationRows s userId).map Prod.fst := List.mem_map_of_mem member
    have belongs := (mem_organizationRows sound).mp key
    obtain ⟨org, -, rfl⟩ := mem_organizationRows_iff.mp member
    rw [OrgAuth.require_eq_requireForUser account, OrgAuth.exists_requireForUser_iff]
    simp only [belongs, true_and]
    exact contains_mapOrgPermissions known
  found orgId shown text member parsed := by
    have key : orgId ∈ (organizationRows s userId).map Prod.fst := List.mem_map_of_mem member
    have belongs := (mem_organizationRows sound).mp key
    obtain ⟨org, row, rfl⟩ := mem_organizationRows_iff.mp member
    have stored := (mem_lookedUp.mp row).2
    simp [OrganizationService.getOrganization, parsed, OrgAuth.require_eq_requireForUser account,
      OrgAuth.requireForUser_EMPTY belongs, bind, Except.bind, stored]
  refused orgId text absent parsed := by
    have foreign : s.organization.isUserInOrg userId orgId = false := by
      rw [← Bool.not_eq_true, ← mem_organizationRows sound]
      exact absent
    simp [OrganizationService.getOrganization, parsed, OrgAuth.require_eq_requireForUser account,
      OrgAuth.requireForUser, foreign, bind, Except.bind]

/-- The keys of a listing of projects are left as they are. -/
private theorem map_fst_projectRows
    {projects : List (ProjectId × Project)} :
    (projectRows s userId projects).map Prod.fst = projects.map Prod.fst :=
  map_fst_map
    (fun projectId project =>
      mapProjectResponse projectId project (s.projectPerms userId projectId))
    projects

/-- The projects of a user are those that a team of it is linked to. -/
private theorem map_fst_listTeamProjects
    (sound : s.Sound) :
    (s.project.listTeamProjects (s.team.listUserTeamIds userId)).map Prod.fst =
      s.project.listAllTeamProjectIds (s.team.listUserTeamIds userId) := by
  apply map_fst_lookedUp
  intro projectId member
  rw [ProjectState.listAllTeamProjectIds, mem_pushUnseen, ← mem_sorted, ← mem_dedup] at member
  have linked := sound.agree.mem_linkedProjects.mp member
  obtain ⟨project, stored, -⟩ := sound.member_of_linked linked
  exact Option.isSome_of_eq_some stored

/-- The listed projects of a user are those that it has access to. -/
private theorem mem_listTeamProjects
    (sound : s.Sound)
    {projectId : ProjectId} :
    projectId ∈ (s.project.listTeamProjects (s.team.listUserTeamIds userId)).map Prod.fst ↔
      s.Linked userId projectId := by
  rw [map_fst_listTeamProjects sound, ProjectState.listAllTeamProjectIds, mem_pushUnseen,
    ← sound.agree.mem_linkedProjects, mem_dedup, mem_sorted]

/-- The view of one's projects agrees with the checks. -/
theorem Stores.Sound.projectsShown
    (sound : s.Sound)
    (account : s.userProfile.getUserIdByPrincipal call.caller = some userId) :
    s.ProjectsShown call
      (projectRows s userId (s.project.listTeamProjects (s.team.listUserTeamIds userId))) where
  listed := by
    have resolved := UserProfileState.assertUserIdByPrincipal_eq_ok account
    simp [ProjectService.listMyProjects, projectRows, resolved, bind, Except.bind,
      Function.comp_def]
  distinct := by
    rw [map_fst_projectRows, map_fst_listTeamProjects sound]
    exact nodup_pushUnseen _
  admitted projectId := by
    rw [map_fst_projectRows, mem_listTeamProjects sound, ProjectAuth.require_eq_forUser account,
      sound.forUser_EMPTY_ok_iff]
  enforced projectId shown needed member known := by
    obtain ⟨project, row, rfl⟩ := mem_projectRows_iff.mp member
    have linked := (mem_listTeamProjects sound).mp (List.mem_map_of_mem row)
    rw [ProjectAuth.require_eq_forUser account, sound.exists_forUser_iff]
    simp only [linked, true_and]
    exact contains_mapProjectPermissions known
  found projectId shown text member parsed := by
    obtain ⟨project, row, rfl⟩ := mem_projectRows_iff.mp member
    have linked := (mem_listTeamProjects sound).mp (List.mem_map_of_mem row)
    have stored := (mem_lookedUp.mp row).2
    obtain ⟨auth, granted⟩ := sound.forUser_EMPTY_ok_iff.mpr linked
    rw [← ProjectAuth.require_eq_forUser account] at granted
    have access := ProjectAuth.require_ok granted
    have sameUser : auth.userId = userId :=
      Option.some.inj (access.account.symm.trans account)
    have samePerms : auth.perms = s.projectPerms userId projectId := by
      rw [access.perms, sameUser]
    simp [ProjectService.getProject, parsed, granted, bind, Except.bind, access.project, stored,
      samePerms, mapProjectToResponse, mapProjectResponse]
  refused projectId text absent parsed := by
    have unlinked : ¬ ∃ auth, ProjectAuth.forUser userId projectId .EMPTY s = .ok auth := by
      rw [sound.forUser_EMPTY_ok_iff, ← mem_listTeamProjects sound, ← map_fst_projectRows]
      exact absent
    rw [← ProjectAuth.require_eq_forUser account] at unlinked
    cases granted : ProjectAuth.require call.caller projectId .EMPTY s with
    | error error =>
        exact ⟨error, by
          simp [ProjectService.getProject, parsed, granted, bind, Except.bind]⟩
    | ok auth =>
        exact absurd ⟨auth, granted⟩ unlinked

/-- The listed projects of an organization are all of its projects. -/
private theorem map_fst_listOrgProjects
    (sound : s.Sound)
    {orgId : OrgId} :
    (s.project.listOrgProjects orgId).map Prod.fst = s.project.listOrgProjectIds orgId := by
  apply map_fst_lookedUp
  intro projectId member
  have stored := sound.agree.projectRow.mp (mem_prefixRows.mp member)
  obtain ⟨project, found, -⟩ := Option.map_eq_some_iff.mp stored
  exact Option.isSome_of_eq_some found

/-- The view of an organization's projects agrees with the checks. -/
theorem Stores.Sound.orgProjectsShown
    {orgId : OrgId}
    {text : String}
    (sound : s.Sound)
    (account : s.userProfile.getUserIdByPrincipal call.caller = some userId)
    (member : s.organization.isUserInOrg userId orgId = true)
    (parsed : Id.tryFrom text = .ok orgId) :
    s.OrgProjectsShown call orgId text
      (projectRows s userId (s.project.listOrgProjects orgId)) where
  listed := by
    simp [ProjectService.listOrgProjects, projectRows, parsed,
      OrgAuth.require_eq_requireForUser account, OrgAuth.requireForUser_EMPTY member, bind,
      Except.bind, Function.comp_def]
  distinct := by
    rw [map_fst_projectRows, map_fst_listOrgProjects sound]
    exact nodup_prefixRows _ _
  complete projectId := by
    rw [map_fst_projectRows, map_fst_listOrgProjects sound, ProjectState.listOrgProjectIds,
      mem_prefixRows, sound.agree.projectRow]
  enforced projectId shown needed listed known nonempty := by
    obtain ⟨project, -, rfl⟩ := mem_projectRows_iff.mp listed
    rw [ProjectAuth.require_eq_forUser account, sound.exists_forUser_iff]
    constructor
    · intro displayed
      have granted := (contains_mapProjectPermissions known).mp displayed
      exact ⟨Stores.linked_of_contains sound.agree nonempty granted, granted⟩
    · rintro ⟨-, granted⟩
      exact (contains_mapProjectPermissions known).mpr granted

/-- The projects of a caller are, organization by organization, those listed there that it
has access to. -/
private theorem mem_ownProjects_iff
    (sound : s.Sound)
    {orgId : OrgId}
    {projectId : ProjectId}
    {shown : Dto.Project}
    (listed : (projectId, shown) ∈ projectRows s userId (s.project.listOrgProjects orgId)) :
    (projectId, shown) ∈
        projectRows s userId (s.project.listTeamProjects (s.team.listUserTeamIds userId)) ↔
      ∃ auth, ProjectAuth.forUser userId projectId .EMPTY s = .ok auth := by
  rw [sound.forUser_EMPTY_ok_iff, ← mem_listTeamProjects sound]
  constructor
  · intro own
    obtain ⟨project, row, -⟩ := mem_projectRows_iff.mp own
    exact List.mem_map_of_mem row
  · intro own
    obtain ⟨⟨sameId, project⟩, row, rfl⟩ := List.mem_map.mp own
    obtain ⟨sameProject, listedRow, rfl⟩ := mem_projectRows_iff.mp listed
    have found := (mem_lookedUp.mp row).2
    have stored := (mem_lookedUp.mp listedRow).2
    obtain rfl : project = sameProject := Option.some.inj (found.symm.trans stored)
    exact mem_projectRows_iff.mpr ⟨project, row, rfl⟩

/-- Every view of a caller shows what the access checks enforce, in every reachable state:
the organizations, the projects, and the projects of each organization. -/
theorem displayedPermissions_enforced
    {world : World}
    {call : Call}
    {userId : UserId}
    (reachable : world.Reachable)
    (account :
      world.stores.userProfile.getUserIdByPrincipal call.caller = some userId) :
    ∃ organizations projects,
      world.stores.OrganizationsShown call organizations ∧
        world.stores.ProjectsShown call projects ∧
          (∀ projectId shown,
            (projectId, shown) ∈ projects →
              ∃ orgId ∈ organizations.map Prod.fst, shown.orgId = orgId.text) ∧
            ∀ orgId text,
              orgId ∈ organizations.map Prod.fst → Id.tryFrom text = .ok orgId →
                ∃ rows,
                  world.stores.OrgProjectsShown call orgId text rows ∧
                    ∀ row ∈ rows,
                      row ∈ projects ↔
                        ∃ auth,
                          ProjectAuth.require call.caller row.1 .EMPTY world.stores =
                            .ok auth := by
  have sound : world.stores.Sound := World.Reachable.sound reachable
  refine ⟨_, _, sound.organizationsShown account, sound.projectsShown account, ?_, ?_⟩
  · intro projectId shown member
    obtain ⟨project, row, rfl⟩ := mem_projectRows_iff.mp member
    have linked := (mem_listTeamProjects sound).mp (List.mem_map_of_mem row)
    obtain ⟨stored, found, belongs⟩ := sound.member_of_linked linked
    obtain rfl : project = stored :=
      Option.some.inj ((mem_lookedUp.mp row).2.symm.trans found)
    exact ⟨project.orgId, (mem_organizationRows sound).mpr belongs, rfl⟩
  · intro orgId text member parsed
    have belongs := (mem_organizationRows sound).mp member
    refine ⟨_, sound.orgProjectsShown account belongs parsed, ?_⟩
    rintro ⟨projectId, shown⟩ listed
    rw [ProjectAuth.require_eq_forUser account]
    exact mem_ownProjects_iff sound listed

end Views

section Sharing

open TextualHost

attribute [local instance] host

/-- The colleague of a shared project is shown what the checks let it do. -/
theorem displayedPermissions_enforced_sharedCanister :
    ∃ world,
      runEvents World.serviceStep World.empty sharedCanister = some world ∧
        ∃ organizations projects,
          world.stores.OrganizationsShown (callBy colleague) organizations ∧
            world.stores.ProjectsShown (callBy colleague) projects ∧
              (∀ projectId shown,
                (projectId, shown) ∈ projects →
                  ∃ orgId ∈ organizations.map Prod.fst, shown.orgId = orgId.text) ∧
                ∀ orgId text,
                  orgId ∈ organizations.map Prod.fst → Id.tryFrom text = .ok orgId →
                    ∃ rows,
                      world.stores.OrgProjectsShown (callBy colleague) orgId text rows ∧
                        ∀ row ∈ rows,
                          row ∈ projects ↔
                            ∃ auth,
                              ProjectAuth.require (callBy colleague).caller row.1 .EMPTY
                                  world.stores =
                                .ok auth := by
  have evaluated :
      (runEvents World.serviceStep World.empty sharedCanister).any (fun world =>
        world.stores.userProfile.getUserIdByPrincipal colleague == some ⟨draw 6⟩) = true := by
    decide +kernel
  obtain ⟨world, ran, found⟩ := (Option.any_eq_true _ _).mp evaluated
  have reachable : world.Reachable := .runEvents .initial (fun _ _ _ => trivial) ran
  exact ⟨world, ran, displayedPermissions_enforced reachable (eq_of_beq found)⟩

end Sharing

end SsnConsole.Backend
