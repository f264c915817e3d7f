import SsnConsole.MembershipSteps
import SsnConsole.TextualHost

/-!
# Integrity of the membership stores

Every reachable state is sound.  Read back on the indexes, soundness says that
the two sides of every relation mirror each other, that every row mentions only
what exists, and that every organization keeps an administrator.
-/

namespace SsnConsole.Backend

open SsnConsole.AccessGraph
open SsnConsole.MessageRun

section Invariants

variable [Host]

namespace Stores

/-- An empty backend is sound. -/
theorem Sound.empty : Stores.empty.Sound where
  agree := by
    constructor <;>
      simp [Stores.empty, OrganizationState.empty, TeamState.empty, ProjectState.empty,
        TeamState.getTeam, ProjectState.getProject]
  wellFormed := by
    constructor <;>
      simp [Stores.graph, membershipGraph, Stores.empty, OrganizationState.empty,
        TeamState.empty, ProjectState.empty, TeamState.getTeam, ProjectState.getProject,
        ProjectState.getProjectTeamPermissions]
  administered := by
    simp [Stores.graph, membershipGraph, Stores.empty, OrganizationState.empty]
  within := by
    constructor <;>
      simp [Stores.graph, membershipGraph, Stores.empty, OrganizationState.empty,
        TeamState.empty, ProjectState.empty, UserProfileState.empty, TeamState.getTeam,
        ProjectState.getProject]
  account := by
    simp [Stores.empty, UserProfileState.empty, UserProfileState.getUserIdByPrincipal]
  inviteOrg := by
    simp [Stores.empty, InviteState.empty, InviteState.getInvite]

variable {s after : Stores} {call : Call} {request : Request}

/-- A sound state stays sound through a permitted operation of its graph. -/
theorem Sound.step
    {caller : Option UserId}
    {operation : MembershipOperation}
    (sound : s.Sound)
    (step : GraphStep caller s after operation)
    (account :
      ∀ {principal userId},
        after.userProfile.getUserIdByPrincipal principal = some userId →
          s.userProfile.getUserIdByPrincipal principal = some userId ∨
            userId ∈ after.graph.users)
    (inviteOrg :
      ∀ {inviteId stored},
        after.invite.getInvite inviteId = some stored → stored.orgId ∈ s.graph.orgs) :
    after.Sound where
  agree := step.agree
  wellFormed := by
    rw [step.graph]
    exact sound.wellFormed.apply step.permitted
  administered := by
    intro orgId stored
    rw [step.graph] at stored ⊢
    exact Graph.Administered.apply (sound.administered orgId) step.permitted stored
  within := by
    rw [step.graph]
    refine (sound.within.mono ?_ ?_ ?_ ?_).apply step.creates <;>
      exact fun _ known => Drawn.mono known step.drawn
  account := by
    intro principal userId resolved
    rcases account resolved with earlier | registered
    · rw [step.graph]
      exact Graph.users_subset_apply (sound.account earlier)
    · exact registered
  inviteOrg := by
    intro inviteId stored found
    rw [step.graph]
    exact Graph.orgs_subset_apply (inviteOrg found)

/-- What leaves access control alone keeps a sound state sound. -/
theorem Sound.sameAccess
    (sound : s.Sound)
    (same : SameAccess s after) :
    after.Sound := by
  have step : GraphStep none s after .keep := same.graphStep sound.agree
  refine sound.step step (fun resolved => .inl ?_) (fun found => ?_)
  · rwa [same.userProfile] at resolved
  · rw [same.invite] at found
    exact sound.inviteOrg found

end Stores

section Preservation

variable {s after : Stores} {call : Call} {request : Request}

/-- A stored invite keeps its organization when its status changes. -/
private theorem inviteOrg_updateInvite
    {state updated : InviteState}
    {inviteId otherId : InviteId}
    {found stored : OrgInvite}
    {status : InviteStatus}
    {orgs : Set OrgId}
    (known : ∀ {id invite}, state.getInvite id = some invite → invite.orgId ∈ orgs)
    (before : state.getInvite inviteId = some found)
    (written : state.updateInvite inviteId { found with status := status } = .ok updated)
    (lookup : updated.getInvite otherId = some stored) :
    stored.orgId ∈ orgs := by
  have lookedUp : state.invites[inviteId]? = some found := before
  simp only [InviteState.updateInvite, lookedUp, Except.ok.injEq] at written
  subst written
  simp only [InviteState.getInvite, StableIndex.getElem?_insert_entry] at lookup
  split at lookup
  · cases lookup
    exact (known before : found.orgId ∈ orgs)
  · exact known lookup

omit [Host] in
/-- Sweeping expired invites adds none. -/
theorem getInvite_sweepExpiredOrgInvites
    {state : InviteState}
    {orgId : OrgId}
    {now : Nat}
    {inviteId : InviteId}
    {stored : OrgInvite}
    (found : (state.sweepExpiredOrgInvites orgId now).getInvite inviteId = some stored) :
    state.getInvite inviteId = some stored := by
  simp only [InviteState.getInvite, InviteState.sweepExpiredOrgInvites,
    StableIndex.getElem?_eraseKeys] at found
  split at found
  · cases found
  · exact found

/-- The invite operations store invites of existing organizations only. -/
private theorem InviteWrite.inviteOrg
    {inviteId : InviteId}
    {stored : OrgInvite}
    (write : InviteWrite call s request after)
    (sound : s.Sound)
    (found : after.invite.getInvite inviteId = some stored) :
    stored.orgId ∈ s.graph.orgs := by
  cases write with
  | sweep =>
      exact sound.inviteOrg (getInvite_sweepExpiredOrgInvites found)
  | create granted sameOrg =>
      have member := Stores.mem_members granted.holds.member
      have existing := (sound.wellFormed.member member).1
      simp only [InviteState.getInvite, InviteState.createInvite,
        StableIndex.getElem?_insert_entry] at found
      split at found
      · cases found
        rw [sameOrg]
        exact existing
      · exact sound.inviteOrg (getInvite_sweepExpiredOrgInvites found)
  | revoke before updated | accept _ _ before _ updated | acceptAsMember before updated
  | decline before updated =>
      exact inviteOrg_updateInvite sound.inviteOrg before updated found

/-- Every message keeps a sound state sound. -/
theorem Handled.sound
    {result : Except Failure Slot}
    (handled : Handled call s request result after)
    (sound : s.Sound) :
    after.Sound := by
  obtain ⟨operation, step, -⟩ := handled.graphStep sound
  cases handled with
  | refused =>
      exact sound
  | signUp _ =>
      obtain ⟨policies, drawn, -, founded⟩ :=
        Stores.founding_eq
          { s with
            userProfile :=
              (s.userProfile.createUserProfile s.nextId call.caller .default).incrementUserCount
                false
            drawn := s.drawn + 1 }
          s.nextId OrganizationRepository.defaultOrganization
      rw [Stores.signingUp, founded] at step ⊢
      refine sound.step step (fun {principal userId} resolved => ?_) sound.inviteOrg
      simp only [UserProfileState.getUserIdByPrincipal, UserProfileState.incrementUserCount,
        UserProfileState.createUserProfile, StableIndex.getElem?_insert_entry] at resolved
      split at resolved
      · cases resolved
        exact .inr (StableIndex.mem_insert_entry.mpr (.inr rfl))
      · exact .inl resolved
  | membership write _ =>
      obtain ⟨same, sameInvite⟩ := write.sameAccounts
      refine sound.step step (fun resolved => .inl ?_) (fun found => ?_)
      · rwa [same.userProfile] at resolved
      · rw [sameInvite] at found
        exact sound.inviteOrg found
  | invite write _ =>
      refine sound.step step (fun resolved => .inl ?_) (write.inviteOrg sound)
      rwa [write.sameAccounts.userProfile] at resolved
  | account write _ =>
      refine sound.step step (fun resolved => ?_) (fun found => ?_)
      · exact (write.principalIndex resolved).imp_right (write.sameMembership.users _).mpr
      · rw [write.sameMembership.invite] at found
        exact sound.inviteOrg found
  | policy write =>
      exact sound.sameAccess write.sameAccess
  | proposal write =>
      exact sound.sameAccess write.sameAccess
  | canister write =>
      exact sound.sameAccess write.sameAccess

end Preservation

namespace World

/-- The stores of the world are sound. -/
def Sound (world : World) : Prop :=
  world.stores.Sound

/-- Every event keeps a sound world sound. -/
theorem Stepped.sound
    {world after : World}
    {event : Event}
    (stepped : world.Stepped event after)
    (sound : world.Sound) :
    after.Sound := by
  cases stepped with
  | message handled =>
      exact handled.sound sound
  | reply _ resumed =>
      exact Stores.Sound.sameAccess sound resumed.sameAccess

/-- Every reachable world is sound. -/
theorem Reachable.sound
    {world : World}
    (reachable : world.Reachable) :
    world.stores.Sound := by
  have base : World.empty.Sound := Stores.Sound.empty
  refine reachable.invariant base ?_
  intro before event after _ sound _ stepped
  exact (serviceStep_cases stepped).sound sound

/-- Identifiers are drawn and never given back. -/
theorem Stepped.drawn_le
    {before after : World}
    {event : Event}
    (stepped : before.Stepped event after)
    (sound : before.stores.Sound) :
    before.stores.drawn ≤ after.stores.drawn := by
  cases stepped with
  | message handled =>
      obtain ⟨operation, step, -⟩ := handled.graphStep sound
      exact step.drawn
  | reply _ resumed => exact resumed.sameAccess.drawn

end World

/-- The relations of the membership stores, read on their indexes. -/
structure Stores.MembershipIntegrity (s : Stores) : Prop where
  organizationUserMirror :
    ∀ (orgId : OrgId) (userId : UserId),
      (orgId, userId) ∈ s.organization.organizationUserIndex ↔
        (userId, orgId) ∈ s.organization.userOrganizationIndex
  teamUserMirror :
    ∀ (teamId : TeamId) (userId : UserId),
      (teamId, userId) ∈ s.team.teamUserIndex ↔ (userId, teamId) ∈ s.team.userTeamIndex
  projectTeamMirror :
    ∀ (projectId : ProjectId) (teamId : TeamId),
      s.project.projectTeamPermissionsIndex[(projectId, teamId)]? =
        s.project.teamProjectPermissionsIndex[(teamId, projectId)]?
  teamMember :
    ∀ (teamId : TeamId) (userId : UserId),
      (teamId, userId) ∈ s.team.teamUserIndex →
        ∃ team : Team, s.team.teams[teamId]? = some team ∧
          (team.orgId, userId) ∈ s.organization.organizationUserIndex
  linkedOrg :
    ∀ (projectId : ProjectId) (teamId : TeamId),
      (projectId, teamId) ∈ s.project.projectTeamPermissionsIndex →
        ∃ (project : Project) (team : Team), s.project.projects[projectId]? = some project ∧
          s.team.teams[teamId]? = some team ∧ team.orgId = project.orgId
  organizationProject :
    ∀ (orgId : OrgId) (projectId : ProjectId),
      (orgId, projectId) ∈ s.project.organizationProjectIndex ↔
        ∃ project : Project,
          s.project.projects[projectId]? = some project ∧ project.orgId = orgId
  organizationTeam :
    ∀ (orgId : OrgId) (teamId : TeamId),
      (orgId, teamId) ∈ s.team.organizationTeamPermissionsIndex ↔
        ∃ team : Team, s.team.teams[teamId]? = some team ∧ team.orgId = orgId
  projectLinked :
    ∀ projectId ∈ s.project.projects,
      ∃ teamId, (projectId, teamId) ∈ s.project.projectTeamPermissionsIndex
  orgProject :
    ∀ orgId ∈ s.organization.organizations,
      ∃ (projectId : ProjectId) (project : Project),
        s.project.projects[projectId]? = some project ∧ project.orgId = orgId
  orgTeam :
    ∀ orgId ∈ s.organization.organizations,
      ∃ (teamId : TeamId) (team : Team), s.team.teams[teamId]? = some team ∧ team.orgId = orgId
  memberExists :
    ∀ (orgId : OrgId) (userId : UserId),
      (orgId, userId) ∈ s.organization.organizationUserIndex →
        orgId ∈ s.organization.organizations ∧ userId ∈ s.userProfile.profiles
  teamMemberExists :
    ∀ (teamId : TeamId) (userId : UserId),
      (teamId, userId) ∈ s.team.teamUserIndex →
        teamId ∈ s.team.teams ∧ userId ∈ s.userProfile.profiles
  teamOrgExists :
    ∀ (orgId : OrgId) (teamId : TeamId),
      (orgId, teamId) ∈ s.team.organizationTeamPermissionsIndex →
        orgId ∈ s.organization.organizations
  projectOrgExists :
    ∀ (orgId : OrgId) (projectId : ProjectId),
      (orgId, projectId) ∈ s.project.organizationProjectIndex →
        orgId ∈ s.organization.organizations
  accountExists :
    ∀ (principal : Principal) (userId : UserId),
      s.userProfile.principalIndex[principal]? = some userId →
        userId ∈ s.userProfile.profiles
  invitingOrgExists :
    ∀ (inviteId : InviteId) (invite : OrgInvite),
      s.invite.invites[inviteId]? = some invite →
        invite.orgId ∈ s.organization.organizations

omit [Host] in
/-- A team belongs to an organization in the graph as its record says. -/
theorem Stores.teamOrg_eq_some
    {s : Stores}
    {teamId : TeamId}
    {orgId : OrgId} :
    s.graph.teamOrg teamId = some orgId ↔
      ∃ team, s.team.teams[teamId]? = some team ∧ team.orgId = orgId :=
  Option.map_eq_some_iff

omit [Host] in
/-- A project belongs to an organization in the graph as its record says. -/
theorem Stores.projectOrg_eq_some
    {s : Stores}
    {projectId : ProjectId}
    {orgId : OrgId} :
    s.graph.projectOrg projectId = some orgId ↔
      ∃ project, s.project.projects[projectId]? = some project ∧ project.orgId = orgId :=
  Option.map_eq_some_iff

omit [Host] in
/-- A link of the graph is a row of the project's index. -/
theorem Stores.isSome_projectGrant
    {s : Stores}
    {projectId : ProjectId}
    {teamId : TeamId} :
    (s.graph.projectGrant projectId teamId).isSome ↔
      (projectId, teamId) ∈ s.project.projectTeamPermissionsIndex := by
  rw [Std.ExtTreeMap.mem_iff_isSome_getElem?]
  exact (Bool.eq_iff_iff.mp Option.isSome_map)

/-- A sound state has membership integrity. -/
theorem Stores.Sound.membershipIntegrity
    {s : Stores}
    (sound : s.Sound) :
    s.MembershipIntegrity where
  organizationUserMirror _ _ := sound.agree.organizationUser
  teamUserMirror _ _ := sound.agree.teamUser
  projectTeamMirror _ _ := sound.agree.projectTeam
  teamMember := by
    intro teamId userId enrolled
    obtain ⟨orgId, belongs, member⟩ := sound.wellFormed.teamUser enrolled
    obtain ⟨team, stored, rfl⟩ := Stores.teamOrg_eq_some.mp belongs
    exact ⟨team, stored, member⟩
  linkedOrg := by
    intro projectId teamId linked
    obtain ⟨orgId, inOrg, belongs⟩ :=
      sound.wellFormed.linked (Stores.isSome_projectGrant.mpr linked)
    obtain ⟨project, projectStored, rfl⟩ := Stores.projectOrg_eq_some.mp inOrg
    obtain ⟨team, teamStored, sameOrg⟩ := Stores.teamOrg_eq_some.mp belongs
    exact ⟨project, team, projectStored, teamStored, sameOrg⟩
  organizationProject _ _ := sound.agree.projectRow.trans Stores.projectOrg_eq_some
  organizationTeam _ _ := sound.agree.teamRow.trans Stores.teamOrg_eq_some
  projectLinked := by
    intro projectId stored
    rw [Std.ExtTreeMap.mem_iff_isSome_getElem?] at stored
    obtain ⟨teamId, linked⟩ :=
      sound.wellFormed.projectLinked ((Bool.eq_iff_iff.mp Option.isSome_map).mpr stored)
    exact ⟨teamId, Stores.isSome_projectGrant.mp linked⟩
  orgProject := by
    intro orgId stored
    obtain ⟨projectId, inOrg⟩ := sound.wellFormed.orgProject stored
    exact ⟨projectId, Stores.projectOrg_eq_some.mp inOrg⟩
  orgTeam := by
    intro orgId stored
    obtain ⟨teamId, belongs⟩ := sound.wellFormed.orgTeam stored
    exact ⟨teamId, Stores.teamOrg_eq_some.mp belongs⟩
  memberExists _ _ member := sound.wellFormed.member member
  teamMemberExists := by
    intro teamId userId enrolled
    obtain ⟨orgId, belongs, member⟩ := sound.wellFormed.teamUser enrolled
    obtain ⟨team, stored, -⟩ := Stores.teamOrg_eq_some.mp belongs
    refine ⟨?_, (sound.wellFormed.member member).2⟩
    exact Std.ExtTreeMap.mem_iff_isSome_getElem?.mpr (Option.isSome_of_eq_some stored)
  teamOrgExists := by
    intro orgId teamId row
    exact sound.wellFormed.teamOrg (sound.agree.teamRow.mp row)
  projectOrgExists := by
    intro orgId projectId row
    exact sound.wellFormed.projectOrg (sound.agree.projectRow.mp row)
  accountExists _ _ resolved := sound.account resolved
  invitingOrgExists _ _ found := sound.inviteOrg found

/-- The membership stores keep their integrity in every reachable state. -/
theorem membershipIntegrity_of_reachable
    {world : World}
    (reachable : world.Reachable) :
    world.stores.MembershipIntegrity :=
  reachable.sound.membershipIntegrity

/-- Every organization keeps a populated team with `ORG_ADMIN`, in every reachable state. -/
theorem lastAdmin_of_reachable
    {world : World}
    (reachable : world.Reachable) :
    ∀ orgId ∈ world.stores.organization.organizations,
      ∃ (teamId : TeamId) (permissions : OrgPermissions) (userId : UserId),
        world.stores.team.organizationTeamPermissionsIndex[(orgId, teamId)]? =
            some permissions ∧
          permissions.contains OrgPermissions.ORG_ADMIN = true ∧
          (teamId, userId) ∈ world.stores.team.teamUserIndex ∧
          (orgId, userId) ∈ world.stores.organization.organizationUserIndex := by
  intro orgId existing
  have sound := reachable.sound
  obtain ⟨teamId, userId, belongs, grants, enrolled⟩ := sound.administered orgId existing
  obtain ⟨memberOrg, belongsTo, member⟩ := sound.wellFormed.teamUser enrolled
  rw [belongs] at belongsTo
  cases belongsTo
  obtain ⟨team, stored, rfl⟩ := Stores.teamOrg_eq_some.mp belongs
  -- The administrator's flag is granted by a row, and all its flags by the same one.
  obtain ⟨other, permissions, found, row, -⟩ :=
    grants (by decide : OrgPermissions.ORG_ADMIN.bits.getLsbD 0 = true)
  obtain rfl : team = other := Option.some.inj (stored.symm.trans found)
  refine ⟨teamId, permissions, userId, row, Permissions.contains_iff.mpr ?_, enrolled, member⟩
  intro flag adminFlag
  obtain ⟨same, samePermissions, sameFound, sameRow, granted⟩ := grants adminFlag
  obtain rfl : team = same := Option.some.inj (stored.symm.trans sameFound)
  rw [row] at sameRow
  cases sameRow
  exact granted

end Invariants

section Reorganization

open TextualHost

attribute [local instance] host

/-- A founder invites a colleague, makes it the administrator of a second team, replaces
the default project and leaves the default team. -/
def reorganization : List Event :=
  [.message (callBy founder) .createMyUserProfile,
    .message (callBy colleague) .createMyUserProfile,
    .message (callBy founder) (.createOrgInvite (idText 1) (.principal colleague)),
    .message (callBy colleague) (.acceptOrgInvite (idText 12)),
    .message (callBy founder) (.createTeam (idText 1) "Operations"),
    .message (callBy founder) (.addUserToTeam (idText 13) (idText 6)),
    .message (callBy colleague) (.createProject (idText 1) "Platform"),
    .message (callBy founder) (.deleteProject (idText 3)),
    .message (callBy founder) (.removeUserFromTeam (idText 2) (idText 0)),
    .message (callBy colleague) (.deleteTeam (idText 2))]

/-- The stores keep their integrity through the reorganization. -/
theorem membershipIntegrity_reorganization :
    ∃ world,
      runEvents World.serviceStep World.empty reorganization = some world ∧
        world.stores.MembershipIntegrity := by
  obtain ⟨world, ran⟩ :=
    Option.isSome_iff_exists.mp
      (by decide +kernel :
        (runEvents World.serviceStep World.empty reorganization).isSome = true)
  exact
    ⟨world, ran,
      membershipIntegrity_of_reachable (.runEvents .initial (fun _ _ _ => trivial) ran)⟩

/-- The organization keeps an administrator through the reorganization. -/
theorem lastAdmin_reorganization :
    ∃ world,
      runEvents World.serviceStep World.empty reorganization = some world ∧
        ∃ (teamId : TeamId) (permissions : OrgPermissions) (userId : UserId),
          world.stores.team.organizationTeamPermissionsIndex[((⟨draw 1⟩ : OrgId), teamId)]? =
              some permissions ∧
            permissions.contains OrgPermissions.ORG_ADMIN = true ∧
            (teamId, userId) ∈ world.stores.team.teamUserIndex ∧
            ((⟨draw 1⟩ : OrgId), userId) ∈
              world.stores.organization.organizationUserIndex := by
  have kept :
      (runEvents World.serviceStep World.empty reorganization).any
        (fun world => decide ((⟨draw 1⟩ : OrgId) ∈ world.stores.organization.organizations)) =
          true := by
    decide +kernel
  obtain ⟨world, ran, existing⟩ := (Option.any_eq_true _ _).mp kept
  exact
    ⟨world, ran,
      lastAdmin_of_reachable (.runEvents .initial (fun _ _ _ => trivial) ran) ⟨draw 1⟩
        (of_decide_eq_true existing)⟩

end Reorganization

end SsnConsole.Backend
