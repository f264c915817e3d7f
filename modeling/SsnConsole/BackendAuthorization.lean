import SsnConsole.BackendAccess

/-!
# What a passed authorization says

The proofs of access that `access_control_service` hands out record the
caller's account, its membership and its aggregated permissions.  Each record
is stated once here, so that operations never unfold the checks again.
-/

namespace SsnConsole.Backend

open SsnConsole.MessageSlice

variable [Host]

/-- A principal resolves to the account that its index row names. -/
theorem UserProfileState.assertUserIdByPrincipal_ok
    {state : UserProfileState}
    {principal : Principal}
    {userId : UserId}
    (accepted : state.assertUserIdByPrincipal principal = .ok userId) :
    state.getUserIdByPrincipal principal = some userId := by
  unfold UserProfileState.assertUserIdByPrincipal at accepted
  split at accepted
  · cases accepted
    assumption
  · cases accepted

/-- What `OrgAuth::require_for_user` establishes about a user. -/
structure OrgAuth.Holds
    (auth : OrgAuth)
    (userId : UserId)
    (orgId : OrgId)
    (needed : OrgPermissions)
    (s : Stores) : Prop where
  user : auth.userId = userId
  organization : auth.orgId = orgId
  member : s.organization.isUserInOrg userId orgId = true
  perms : auth.perms = s.team.aggregateUserOrgPermissions userId orgId
  needed : auth.perms.contains needed = true

/-- Organization access is granted to members that hold what is needed. -/
theorem OrgAuth.requireForUser_ok
    {auth : OrgAuth}
    {userId : UserId}
    {orgId : OrgId}
    {needed : OrgPermissions}
    {s : Stores}
    (accepted : OrgAuth.requireForUser userId orgId needed s = .ok auth) :
    auth.Holds userId orgId needed s := by
  unfold OrgAuth.requireForUser at accepted
  split at accepted
  · cases accepted
  · rename_i member
    dsimp only at accepted
    split at accepted
    · cases accepted
    · rename_i contained
      cases accepted
      exact
        { user := rfl
          organization := rfl
          member := by simpa using member
          perms := rfl
          needed := by simpa using contained }

/-- What `OrgAuth::require` establishes about a caller. -/
structure OrgAuth.Granted
    (auth : OrgAuth)
    (caller : Principal)
    (orgId : OrgId)
    (needed : OrgPermissions)
    (s : Stores) : Prop where
  account : s.userProfile.getUserIdByPrincipal caller = some auth.userId
  holds : auth.Holds auth.userId orgId needed s

/-- A passed organization check names the caller's own account. -/
theorem OrgAuth.require_ok
    {auth : OrgAuth}
    {caller : Principal}
    {orgId : OrgId}
    {needed : OrgPermissions}
    {s : Stores}
    (accepted : OrgAuth.require caller orgId needed s = .ok auth) :
    auth.Granted caller orgId needed s := by
  obtain ⟨userId, resolved, required⟩ := bind_eq_ok.mp accepted
  have holds := OrgAuth.requireForUser_ok required
  obtain rfl := holds.user
  exact ⟨UserProfileState.assertUserIdByPrincipal_ok resolved, holds⟩

/-- Only members pass `OrgAuth::assert_member`. -/
theorem OrgAuth.assertMember_ok
    {auth : OrgAuth}
    {targetUserId : UserId}
    {s : Stores}
    (accepted : auth.assertMember targetUserId s = .ok ()) :
    s.organization.isUserInOrg targetUserId auth.orgId = true := by
  unfold OrgAuth.assertMember at accepted
  split at accepted
  · cases accepted
  · rename_i member
    simpa using member

omit [Host] in
/-- `OrgAuth::assert_can_grant` passes exactly within the holder's permissions. -/
theorem OrgAuth.assertCanGrant_ok
    {auth : OrgAuth}
    {granted : OrgPermissions} :
    auth.assertCanGrant granted = .ok () ↔ auth.perms.contains granted = true := by
  unfold OrgAuth.assertCanGrant
  cases auth.perms.contains granted <;> simp

/-- What `require_team_access` establishes about a caller and a team. -/
structure TeamAccess
    (caller : Principal)
    (teamId : TeamId)
    (needed : OrgPermissions)
    (s : Stores)
    (team : Team)
    (auth : OrgAuth) : Prop where
  stored : s.team.getTeam teamId = some team
  granted : auth.Granted caller team.orgId needed s

/-- Team access is organization access to the team's own organization. -/
theorem requireTeamAccess_ok
    {caller : Principal}
    {teamId : TeamId}
    {needed : OrgPermissions}
    {s : Stores}
    {team : Team}
    {auth : OrgAuth}
    (accepted : requireTeamAccess caller teamId needed s = .ok (team, auth)) :
    TeamAccess caller teamId needed s team auth := by
  obtain ⟨userId, resolved, found⟩ := bind_eq_ok.mp accepted
  cases lookup : s.team.getTeam teamId with
  | none =>
      simp [lookup] at found
  | some stored =>
      simp only [lookup] at found
      split at found
      · cases found
      · obtain ⟨given, required, same⟩ := bind_eq_ok.mp found
        cases same
        have holds := OrgAuth.requireForUser_ok required
        obtain rfl := holds.user
        exact
          ⟨lookup, UserProfileState.assertUserIdByPrincipal_ok resolved, holds⟩

/-- What `ProjectAuth::require` establishes about a caller. -/
structure ProjectAuth.Granted
    (auth : ProjectAuth)
    (caller : Principal)
    (projectId : ProjectId)
    (needed : ProjectPermissions)
    (s : Stores) : Prop where
  account : s.userProfile.getUserIdByPrincipal caller = some auth.userId
  project : auth.projectId = projectId
  organization : (s.project.getProject projectId).map Project.orgId = some auth.orgId
  member : s.organization.isUserInOrg auth.userId auth.orgId = true
  perms :
    auth.perms =
      (s.project.aggregateTeamProjectPermissions (s.team.listUserTeamIds auth.userId)
        projectId).1
  needed : auth.perms.contains needed = true

/-- Project access is granted to members whose teams hold what is needed. -/
theorem ProjectAuth.require_ok
    {auth : ProjectAuth}
    {caller : Principal}
    {projectId : ProjectId}
    {needed : ProjectPermissions}
    {s : Stores}
    (accepted : ProjectAuth.require caller projectId needed s = .ok auth) :
    auth.Granted caller projectId needed s := by
  obtain ⟨userId, resolved, found⟩ := bind_eq_ok.mp accepted
  unfold ProjectAuth.forUser at found
  cases lookup : s.project.getProject projectId with
  | none =>
      simp [lookup] at found
  | some project =>
      simp only [lookup] at found
      split at found
      · cases found
      · rename_i member
        split at found
        · cases found
        · split at found
          · cases found
          · rename_i contained
            cases found
            exact
              { account := UserProfileState.assertUserIdByPrincipal_ok resolved
                project := rfl
                organization := by simp [lookup]
                member := by simpa using member
                perms := rfl
                needed := by simpa using contained }

omit [Host] in
/-- `ProjectAuth::assert_can_grant` passes exactly within the holder's permissions. -/
theorem ProjectAuth.assertCanGrant_ok
    {auth : ProjectAuth}
    {granted : ProjectPermissions} :
    auth.assertCanGrant granted = .ok () ↔ auth.perms.contains granted = true := by
  unfold ProjectAuth.assertCanGrant
  cases auth.perms.contains granted <;> simp

/-- The last-admin check passes when another populated admin team remains. -/
theorem assertOrgAdminPopulatedAfterRemovingTeam_ok
    {orgId : OrgId}
    {teamId : TeamId}
    {s : Stores}
    (accepted : assertOrgAdminPopulatedAfterRemovingTeam orgId teamId s = .ok ()) :
    s.team.orgAdminIsPopulatedExcludingTeam orgId teamId = true := by
  unfold assertOrgAdminPopulatedAfterRemovingTeam at accepted
  split at accepted
  · cases accepted
  · rename_i populated
    simpa using populated

end SsnConsole.Backend
