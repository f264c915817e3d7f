import SsnConsole.CanisterPlacement
import SsnConsole.InviteListing

/-!
# Accounts that may be pruned

`staleness_service` walks from a user to their organizations, and from there to
members, teams, projects, canisters and invites.  An account that it clears is
alone in its organizations, and nothing would be lost with them.
-/

namespace SsnConsole.Backend

open SsnConsole.MessageRun
open SsnConsole.MessageSlice
open SsnConsole.StableIndex

section Staleness

/-- `list_user_orgs`: the organizations of a user that have a record. -/
def OrganizationState.listUserOrgs (s : OrganizationState) (userId : UserId) :
    List (OrgId × Organization) :=
  (prefixRows s.userOrganizationIndex userId).filterMap fun orgId =>
    (s.getOrg orgId).map fun org => (orgId, org)

/-- `list_org_teams_with_permissions`: the linked teams that have a record. -/
def TeamState.listOrgTeamsWithPermissions (s : TeamState) (orgId : OrgId) :
    List (TeamId × Team × OrgPermissions) :=
  (prefixEntries s.organizationTeamPermissionsIndex orgId).filterMap
    fun (teamId, permissions) =>
      (s.getTeam teamId).map fun team => (teamId, team, permissions)

/-- Reasons not to prune what a user leaves behind. -/
inductive StaleBlocker
  | hasCanisters
  | orgHasOtherMembers
  | teamHasOtherMembers
  | hasPendingInvites
  | isStaff
  deriving DecidableEq

namespace StalenessService

/-- `team_blockers`. -/
def teamBlockers (teamId : TeamId) (owner : UserId) (s : Stores) : List StaleBlocker :=
  if (s.team.listTeamUserIds teamId).any fun member => decide (member ≠ owner) then
    [.teamHasOtherMembers]
  else
    []

/-- `org_blockers`. -/
def orgBlockers (orgId : OrgId) (owner : UserId) (nowNs : Nat) (s : Stores) :
    List StaleBlocker :=
  let members :=
    if (s.organization.listOrgUsers orgId).any fun member => decide (member ≠ owner) then
      [.orgHasOtherMembers]
    else
      []
  let teams :=
    (s.team.listOrgTeamsWithPermissions orgId).flatMap fun (teamId, _, _) =>
      teamBlockers teamId owner s
  -- Projects are listed by organization, which finds those without a team as well.
  let projects :=
    (s.project.listOrgProjects orgId).flatMap fun (projectId, _) =>
      if s.canister.projectHasCanisters projectId then [.hasCanisters] else []
  let invites :=
    if s.invite.countPendingInvitesForOrg orgId nowNs > 0 then [.hasPendingInvites] else []
  members ++ teams ++ projects ++ invites

/-- `is_staff`. -/
def isStaff (userId : UserId) (s : Stores) : Bool :=
  match (s.userProfile.getUserProfileByUserId userId).bind UserProfile.staffPermissions with
  | none => false
  | some permissions => decide (permissions ≠ .EMPTY)

/-- `user_blockers`. -/
def userBlockers (userId : UserId) (nowNs : Nat) (s : Stores) : List StaleBlocker :=
  let staff := if isStaff userId s then [.isStaff] else []
  staff ++
    (s.organization.listUserOrgs userId).flatMap fun (orgId, _) =>
      orgBlockers orgId userId nowNs s

/-- `is_prunable_user`. -/
def isPrunableUser (userId : UserId) (nowNs : Nat) (s : Stores) : Bool :=
  (userBlockers userId nowNs s).isEmpty

end StalenessService

end Staleness

section Blockers

open StalenessService

variable {s : Stores} {userId : UserId} {orgId : OrgId} {now : Nat}

/-- A blocker that is not reported does not apply. -/
private theorem not_reported
    {blocker : StaleBlocker}
    {applies : Prop}
    [Decidable applies]
    (silent : (if applies then [blocker] else []) = []) :
    ¬applies := by
  intro holds
  rw [if_pos holds] at silent
  cases silent

/-- An organization without blockers, as far as access and pruning go. -/
structure StalenessService.OrgCleared (orgId : OrgId) (owner : UserId) (nowNs : Nat)
    (s : Stores) : Prop where
  members : ∀ member ∈ s.organization.listOrgUsers orgId, member = owner
  projects :
    ∀ row ∈ s.project.listOrgProjects orgId,
      s.canister.projectHasCanisters row.1 = false
  invites : s.invite.countPendingInvitesForOrg orgId nowNs = 0

/-- Nothing blocks an organization only if it is cleared. -/
theorem StalenessService.orgCleared_of_orgBlockers
    (unblocked : orgBlockers orgId userId now s = []) :
    OrgCleared orgId userId now s := by
  unfold orgBlockers at unblocked
  rw [List.append_eq_nil_iff, List.append_eq_nil_iff, List.append_eq_nil_iff] at unblocked
  obtain ⟨⟨⟨members, -⟩, projects⟩, invites⟩ := unblocked
  rw [List.flatMap_eq_nil_iff] at projects
  exact
    { members := by
        intro member listed
        by_contra other
        apply not_reported members
        exact List.any_eq_true.mpr ⟨member, listed, decide_eq_true other⟩
      projects := by
        intro row listed
        exact Bool.eq_false_of_not_eq_true (not_reported (projects row listed))
      invites := Nat.eq_zero_of_not_pos (not_reported invites) }

/-- An account that is not staff records no staff permissions. -/
theorem StalenessService.isStaff_eq_false
    {profile : UserProfile}
    (known : s.userProfile.getUserProfileByUserId userId = some profile)
    (civilian : isStaff userId s = false) :
    profile.staffPermissions.getD .EMPTY = .EMPTY := by
  rw [isStaff, known, Option.bind_some] at civilian
  cases granted : profile.staffPermissions with
  | none => rfl
  | some permissions =>
      rw [granted] at civilian
      exact not_not.mp (of_decide_eq_false civilian)

/-- Nothing blocks a user only if they are not staff and their organizations are cleared. -/
theorem StalenessService.isPrunableUser_cleared
    (prunable : isPrunableUser userId now s = true) :
    isStaff userId s = false ∧
      ∀ row ∈ s.organization.listUserOrgs userId, OrgCleared row.1 userId now s := by
  have unblocked : userBlockers userId now s = [] := List.isEmpty_iff.mp prunable
  obtain ⟨staff, organizations⟩ := List.append_eq_nil_iff.mp unblocked
  constructor
  · exact Bool.eq_false_of_not_eq_true (not_reported staff)
  · intro row listed
    exact orgCleared_of_orgBlockers (List.flatMap_eq_nil_iff.mp organizations row listed)

end Blockers

section Listings

variable {s : Stores} {userId : UserId} {orgId : OrgId} {projectId : ProjectId}

/-- The organizations of a member are listed. -/
theorem Stores.mem_listUserOrgs
    (agree : s.IndexesAgree)
    (wellFormed : s.graph.WellFormed)
    (member : s.organization.isUserInOrg userId orgId = true) :
    ∃ org, (orgId, org) ∈ s.organization.listUserOrgs userId := by
  have belongs : userId ∈ s.graph.members orgId := Stores.mem_members member
  have recorded : orgId ∈ s.organization.organizations := (wellFormed.member belongs).1
  have row : orgId ∈ prefixRows s.organization.userOrganizationIndex userId :=
    mem_prefixRows.mpr (agree.organizationUser.mp belongs)
  obtain ⟨org, found⟩ :=
    Option.isSome_iff_exists.mp (Std.ExtTreeMap.mem_iff_isSome_getElem?.mp recorded)
  refine ⟨org, List.mem_filterMap.mpr ⟨orgId, row, ?_⟩⟩
  rw [OrganizationState.getOrg, found, Option.map_some]

/-- The projects of an organization are listed. -/
theorem Stores.IndexesAgree.mem_listOrgProjects
    {project : Project}
    (agree : s.IndexesAgree)
    (found : s.project.getProject projectId = some project) :
    (projectId, project) ∈ s.project.listOrgProjects project.orgId := by
  have row : projectId ∈ s.project.listOrgProjectIds project.orgId := by
    apply mem_prefixRows.mpr
    apply agree.projectRow.mpr
    rw [found, Option.map_some]
  refine List.mem_filterMap.mpr ⟨projectId, row, ?_⟩
  rw [found, Option.map_some]

/-- An organization that counts no pending invite has none that has not expired before. -/
theorem InviteState.Indexed.expired_of_count
    {state : InviteState}
    {inviteId : InviteId}
    {invite : OrgInvite}
    {now : Nat}
    (indexed : state.Indexed)
    (uncounted : state.countPendingInvitesForOrg invite.orgId now = 0)
    (stored : state.getInvite inviteId = some invite)
    (pending : invite.status = .pending) :
    invite.expiresAtNs < now := by
  by_contra unexpired
  have listed :
      InviteState.orgIndexKey invite inviteId ∈ state.organizationInviteIndex :=
    (indexed.organization _).mpr ⟨inviteId, invite, stored, rfl⟩
  have counted :
      InviteState.orgIndexKey invite inviteId ∈
        state.pendingKeys invite.orgId (some now) none := by
    apply List.mem_filter.mpr
    refine ⟨Std.ExtTreeSet.mem_toList.mpr listed, ?_⟩
    simp [InviteState.orgIndexKey, pending, Nat.not_lt.mp unexpired]
  rw [List.eq_nil_of_length_eq_zero uncounted] at counted
  cases counted

end Listings

section Access

variable [Host] {s : Stores}

/-- What `ProjectAuth::for_user` asks of a user: the project's organization is theirs. -/
theorem ProjectAuth.forUser_member
    {auth : ProjectAuth}
    {userId : UserId}
    {projectId : ProjectId}
    {needed : ProjectPermissions}
    (accepted : ProjectAuth.forUser userId projectId needed s = .ok auth) :
    (s.project.getProject projectId).map Project.orgId = some auth.orgId ∧
      s.organization.isUserInOrg userId auth.orgId = true := by
  unfold ProjectAuth.forUser at accepted
  cases found : s.project.getProject projectId with
  | none =>
      rw [found] at accepted
      cases accepted
  | some project =>
      rw [found] at accepted
      dsimp only at accepted
      split at accepted
      · cases accepted
      · rename_i member
        split at accepted
        · cases accepted
        · split at accepted
          · cases accepted
          · cases accepted
            exact ⟨rfl, by simpa using member⟩

end Access

section Pruning

variable [Host]

/-- An organization that would be lost to nobody but the user. -/
structure Stores.AloneIn (s : Stores) (userId : UserId) (now : Nat) (orgId : OrgId) :
    Prop where
  organizationAccess :
    ∀ other needed auth, OrgAuth.requireForUser other orgId needed s = .ok auth →
      other = userId
  projectAccess :
    ∀ other projectId project needed auth,
      s.project.getProject projectId = some project → project.orgId = orgId →
        ProjectAuth.forUser other projectId needed s = .ok auth → other = userId
  canisters :
    ∀ projectId project, s.project.getProject projectId = some project →
      project.orgId = orgId →
        ∀ canisterId : CanisterId,
          (projectId, canisterId) ∉ s.canister.activeProjectCanisterIndex ∧
            (projectId, canisterId) ∉ s.canister.deletedProjectCanisterIndex ∧
              s.canister.getCanisterProjectId canisterId ≠ some projectId
  invites :
    ∀ inviteId invite, s.invite.getInvite inviteId = some invite → invite.orgId = orgId →
      invite.status = .pending → invite.expiresAtNs < now
  acceptance :
    ∀ call inviteText inviteId invite,
      call.now = now → Id.tryFrom inviteText = .ok inviteId →
        s.invite.getInvite inviteId = some invite → invite.orgId = orgId →
          ¬AcceptsInvite call inviteText s

/-- An account that can be pruned without a loss to anyone else. -/
structure Stores.SafeToPrune (s : Stores) (userId : UserId) (now : Nat) : Prop where
  staff :
    ∀ profile, s.userProfile.getUserProfileByUserId userId = some profile →
      profile.staffPermissions.getD .EMPTY = .EMPTY
  alone : ∀ orgId, s.organization.isUserInOrg userId orgId = true → s.AloneIn userId now orgId
  confined :
    ∀ projectId needed auth, ProjectAuth.forUser userId projectId needed s = .ok auth →
      (s.project.getProject projectId).map Project.orgId = some auth.orgId ∧
        s.organization.isUserInOrg userId auth.orgId = true

/-- A cleared organization would be lost to nobody but the user. -/
theorem World.Reachable.aloneIn
    {world : World}
    {userId : UserId}
    {orgId : OrgId}
    {now : Nat}
    (reachable : world.Reachable)
    (cleared : StalenessService.OrgCleared orgId userId now world.stores) :
    world.stores.AloneIn userId now orgId := by
  have agree := (World.Reachable.sound reachable).agree
  have onlyMember :
      ∀ other, world.stores.organization.isUserInOrg other orgId = true →
        other = userId := by
    intro other member
    have row : other ∈ world.stores.organization.listOrgUsers orgId :=
      mem_prefixRows.mpr (Stores.mem_members member)
    exact cleared.members other row
  have expired :
      ∀ inviteId invite, world.stores.invite.getInvite inviteId = some invite →
        invite.orgId = orgId → invite.status = .pending → invite.expiresAtNs < now := by
    intro inviteId invite stored own pending
    subst own
    exact
      (World.Reachable.invitesIndexed reachable).indexed.expired_of_count cleared.invites
        stored pending
  exact
    { organizationAccess := by
        intro other needed auth accepted
        exact onlyMember other (OrgAuth.requireForUser_ok accepted).member
      projectAccess := by
        intro other projectId project needed auth found own accepted
        obtain ⟨organization, member⟩ := ProjectAuth.forUser_member accepted
        rw [found, Option.map_some, own] at organization
        cases organization
        exact onlyMember other member
      canisters := by
        intro projectId project found own canisterId
        subst own
        have emptied := cleared.projects _ (agree.mem_listOrgProjects found)
        obtain ⟨noActive, noDeleted⟩ := CanisterState.projectHasCanisters_eq_false.mp emptied
        exact
          ⟨noActive canisterId, noDeleted canisterId,
            (World.Reachable.canistersPlaced reachable).no_canister emptied canisterId⟩
      invites := expired
      acceptance := by
        intro call inviteText inviteId invite atNow named stored own accepts
        obtain ⟨otherId, invitee, other, invited⟩ := accepts.invited
        cases named.symm.trans invited.named
        cases stored.symm.trans invited.stored
        have before := expired inviteId invite stored own invited.pending
        have unexpired := invited.unexpired
        rw [atNow] at unexpired
        exact Nat.lt_asymm before unexpired }

/-- In every reachable state, what `is_prunable_user` clears can be pruned without a loss to
anyone else. -/
theorem prunableUser_safeToPrune
    {world : World}
    {userId : UserId}
    {now : Nat}
    (reachable : world.Reachable)
    (prunable : StalenessService.isPrunableUser userId now world.stores = true) :
    world.stores.SafeToPrune userId now := by
  obtain ⟨civilian, cleared⟩ := StalenessService.isPrunableUser_cleared prunable
  have sound := World.Reachable.sound reachable
  exact
    { staff := by
        intro profile known
        exact StalenessService.isStaff_eq_false known civilian
      alone := by
        intro orgId member
        obtain ⟨org, listed⟩ := Stores.mem_listUserOrgs sound.agree sound.wellFormed member
        exact World.Reachable.aloneIn reachable (cleared (orgId, org) listed)
      confined := by
        intro projectId needed auth accepted
        exact ProjectAuth.forUser_member accepted }

end Pruning

section ExpiredInvite

open TextualHost

attribute [local instance] host

/-- Once the invite has expired, its sender can be pruned. -/
theorem prunableUser_afterExpiry :
    withInvite.SafeToPrune ⟨draw 0⟩
      ((callBy founder).now + InviteService.INVITE_TTL_NS + 1) := by
  have reachable : (invitedColleague.state 3).Reachable :=
    .of_endpoints (invitedColleague.reachable (by decide))
  exact prunableUser_safeToPrune reachable (by decide +kernel)

/-- At the moment at which the invite expires, its sender is still kept. -/
example :
    StalenessService.isPrunableUser ⟨draw 0⟩
      ((callBy founder).now + InviteService.INVITE_TTL_NS) withInvite = false := by
  decide +kernel

end ExpiredInvite

end SsnConsole.Backend
