import SsnConsole.AccessOperations
import SsnConsole.BackendFrames
import SsnConsole.MembershipRefinement

/-!
# Messages as operations of the access graph

Every message and every reply is one permitted operation of the graph that the
membership stores represent, run with the permissions of the caller's account.
`Stores.Sound` collects what the operations need and keep.
-/

namespace SsnConsole.Backend

open SsnConsole.AccessGraph

variable [Host]

/-- The identifier is one of those drawn so far. -/
def Drawn (drawn : Nat) {marker : Marker} (id : Id marker) : Prop :=
  ∃ index < drawn, id.uuid = Host.draw index

/-- Drawn identifiers stay drawn. -/
theorem Drawn.mono
    {drawn later : Nat}
    {marker : Marker}
    {id : Id marker}
    (known : Drawn drawn id)
    (grown : drawn ≤ later) :
    Drawn later id := by
  obtain ⟨index, earlier, same⟩ := known
  exact ⟨index, by omega, same⟩

/-- An identifier is drawn once its turn has come, and not before. -/
theorem drawn_draw
    {drawn index : Nat}
    {marker : Marker} :
    Drawn drawn (⟨Host.draw index⟩ : Id marker) ↔ index < drawn := by
  constructor
  · rintro ⟨other, earlier, same⟩
    rwa [Host.draw_injective same]
  · intro earlier
    exact ⟨index, earlier, rfl⟩

/-- The identifiers drawn so far, by what they name. -/
def drawnNames (drawn : Nat) : Names UserId OrgId TeamId ProjectId where
  users := {userId | Drawn drawn userId}
  orgs := {orgId | Drawn drawn orgId}
  teams := {teamId | Drawn drawn teamId}
  projects := {projectId | Drawn drawn projectId}

omit [Host] in
/-- The flags that new teams and links carry, and the flag of an administrator. -/
def accessGrants : Grants Nat Nat where
  newTeam := OrgPermissions.ALL.flags
  newLink := ProjectPermissions.ALL.flags
  admin := OrgPermissions.ORG_ADMIN.flags
  admin_subset := Permissions.contains_iff.mp (by decide)

/-- The operations on the graph of the membership stores. -/
abbrev MembershipOperation : Type :=
  Operation UserId OrgId TeamId ProjectId Nat Nat

/-- What the stores of access control keep in every reachable state. -/
structure Stores.Sound (s : Stores) : Prop where
  agree : s.IndexesAgree
  wellFormed : s.graph.WellFormed
  administered : ∀ orgId ∈ s.graph.orgs, s.graph.Administered accessGrants.admin orgId
  within : s.graph.Within (drawnNames s.drawn)
  account :
    ∀ {principal userId},
      s.userProfile.getUserIdByPrincipal principal = some userId → userId ∈ s.graph.users
  inviteOrg :
    ∀ {inviteId stored},
      s.invite.getInvite inviteId = some stored → stored.orgId ∈ s.graph.orgs

/-- The request asks for the operation, as far as it opens, enrolls or links. -/
def Requests (request : Request) : MembershipOperation → Prop
  | .addTeam _ orgId _ =>
      ∃ orgText name, request = .createTeam orgText name ∧ Id.tryFrom orgText = .ok orgId
  | .enroll userId teamId =>
      ∃ teamText userText,
        request = .addUserToTeam teamText userText ∧
          Id.tryFrom teamText = .ok teamId ∧ Id.tryFrom userText = .ok userId
  | .link projectId teamId =>
      ∃ projectText teamText,
        request = .addTeamToProject projectText teamText ∧
          Id.tryFrom projectText = .ok projectId ∧ Id.tryFrom teamText = .ok teamId
  | _ => True

/-- A change of the stores is an operation of their graph that the caller may run. -/
structure GraphStep (caller : Option UserId) (s after : Stores)
    (operation : MembershipOperation) : Prop where
  permitted : s.graph.Permitted accessGrants caller operation
  graph : after.graph = s.graph.apply accessGrants operation
  agree : after.IndexesAgree
  creates : operation.CreatesWithin (drawnNames after.drawn)
  drawn : s.drawn ≤ after.drawn

/-- A change that leaves the graph and its indexes alone is no operation. -/
theorem GraphStep.keep
    {caller : Option UserId}
    {s after : Stores}
    (graph : after.graph = s.graph)
    (agree : after.IndexesAgree)
    (drawn : s.drawn ≤ after.drawn) :
    GraphStep caller s after .keep where
  permitted := .keep
  graph := graph
  agree := agree
  creates := trivial
  drawn := drawn

namespace Stores.Sound

variable {s : Stores}
variable {index : Nat}

/-- A user whose turn is still to come does not exist. -/
theorem freshUser
    (sound : s.Sound)
    (later : s.drawn ≤ index) :
    (⟨Host.draw index⟩ : UserId) ∉ s.graph.users := by
  intro stored
  have drawn := drawn_draw.mp (sound.within.users stored)
  omega

/-- An organization whose turn is still to come does not exist. -/
theorem freshOrg
    (sound : s.Sound)
    (later : s.drawn ≤ index) :
    (⟨Host.draw index⟩ : OrgId) ∉ s.graph.orgs := by
  intro stored
  have drawn := drawn_draw.mp (sound.within.orgs stored)
  omega

/-- A team whose turn is still to come does not exist. -/
theorem freshTeam
    (sound : s.Sound)
    (later : s.drawn ≤ index) :
    s.graph.teamOrg ⟨Host.draw index⟩ = none := by
  by_contra stored
  have drawn := drawn_draw.mp (sound.within.teams _ (Option.ne_none_iff_isSome.mp stored))
  omega

/-- A project whose turn is still to come does not exist. -/
theorem freshProject
    (sound : s.Sound)
    (later : s.drawn ≤ index) :
    s.graph.projectOrg ⟨Host.draw index⟩ = none := by
  by_contra stored
  have drawn := drawn_draw.mp (sound.within.projects _ (Option.ne_none_iff_isSome.mp stored))
  omega

end Stores.Sound

omit [Host] in
/-- A team that the graph does not have has no record. -/
theorem Stores.getTeam_eq_none
    {s : Stores}
    {teamId : TeamId}
    (absent : s.graph.teamOrg teamId = none) :
    s.team.getTeam teamId = none :=
  Option.map_eq_none_iff.mp absent

omit [Host] in
/-- A project that the graph does not have has no record. -/
theorem Stores.getProject_eq_none
    {s : Stores}
    {projectId : ProjectId}
    (absent : s.graph.projectOrg projectId = none) :
    s.project.getProject projectId = none :=
  Option.map_eq_none_iff.mp absent

section Authorizations

variable {s : Stores} {caller : Principal}

omit [Host] in
/-- The permissions of an organization check are those of the caller's account. -/
theorem OrgAuth.Granted.flags_perms
    {auth : OrgAuth}
    {orgId : OrgId}
    {needed : OrgPermissions}
    (granted : auth.Granted caller orgId needed s)
    (agree : s.IndexesAgree) :
    auth.perms.flags =
      s.graph.heldInOrg (s.userProfile.getUserIdByPrincipal caller) orgId := by
  rw [granted.holds.perms, agree.flags_aggregateUserOrgPermissions, granted.account,
    AccessGraph.Graph.heldInOrg_some]

omit [Host] in
/-- The permissions of a project check are those of the caller's account. -/
theorem ProjectAuth.Granted.flags_perms
    {auth : ProjectAuth}
    {projectId : ProjectId}
    {needed : ProjectPermissions}
    (granted : auth.Granted caller projectId needed s)
    (agree : s.IndexesAgree) :
    auth.perms.flags =
      s.graph.heldOnProject (s.userProfile.getUserIdByPrincipal caller) projectId := by
  rw [granted.perms, agree.flags_aggregateTeamProjectPermissions, granted.account,
    AccessGraph.Graph.heldOnProject_some]

omit [Host] in
/-- A checked project belongs to the organization that the check names. -/
theorem ProjectAuth.Granted.inOrg
    {auth : ProjectAuth}
    {projectId : ProjectId}
    {needed : ProjectPermissions}
    (granted : auth.Granted caller projectId needed s) :
    s.graph.projectOrg auth.projectId = some auth.orgId := by
  rw [granted.project]
  exact granted.organization

/-- A checked organization exists, so it still has a project. -/
theorem OrgAuth.Granted.orgHasProjects
    {auth : OrgAuth}
    {orgId : OrgId}
    {needed : OrgPermissions}
    (granted : auth.Granted caller orgId needed s)
    (sound : s.Sound) :
    s.project.orgHasProjects auth.orgId = true := by
  have member := Stores.mem_members granted.holds.member
  obtain ⟨project, belongs⟩ :=
    sound.wellFormed.orgProject (sound.wellFormed.member member).1
  have listed : project ∈ s.project.listOrgProjectIds auth.orgId := by
    rw [granted.holds.organization]
    exact StableIndex.mem_prefixRows.mpr (sound.agree.projectRow.mpr belongs)
  simpa [ProjectState.orgHasProjects] using List.ne_nil_of_mem listed

end Authorizations

section Writes

variable {s after : Stores} {call : Call} {request : Request}

/-- Founding an organization is founding it in the graph. -/
theorem GraphStep.founding
    {caller : Option UserId}
    {userId : UserId}
    {org : Organization}
    (sound : s.Sound)
    (registered : userId ∈ s.graph.users) :
    GraphStep caller s (s.founding userId org)
      (.found userId s.nextId s.drawOne.nextId s.drawOne.drawOne.nextId) := by
  have freshTeam : s.graph.teamOrg s.drawOne.nextId = none :=
    sound.freshTeam (Nat.le_succ _)
  have freshProject : s.graph.projectOrg s.drawOne.drawOne.nextId = none :=
    sound.freshProject (Nat.le_add_right _ 2)
  obtain ⟨policies, drawn, grown, founded⟩ := s.founding_eq userId org
  rw [founded]
  exact
    { permitted := .found registered (sound.freshOrg (le_refl _)) freshTeam freshProject
      graph := membershipGraph_founding
      agree :=
        IndexesAgree.founding sound.agree (Stores.getTeam_eq_none freshTeam)
          (Stores.getProject_eq_none freshProject)
      creates :=
        ⟨⟨s.drawn, by dsimp only; omega, rfl⟩, ⟨s.drawn + 1, by dsimp only; omega, rfl⟩,
          ⟨s.drawn + 2, by dsimp only; omega, rfl⟩⟩
      drawn := by dsimp only; omega }

/-- Signing up is registering and founding. -/
theorem GraphStep.signingUp
    {caller : Option UserId}
    {principal : Principal}
    (sound : s.Sound) :
    GraphStep caller s (s.signingUp principal)
      (.signUp s.nextId s.drawOne.nextId s.drawOne.drawOne.nextId
        s.drawOne.drawOne.drawOne.nextId) := by
  have freshTeam : s.graph.teamOrg s.drawOne.drawOne.nextId = none :=
    sound.freshTeam (Nat.le_add_right _ 2)
  have freshProject : s.graph.projectOrg s.drawOne.drawOne.drawOne.nextId = none :=
    sound.freshProject (Nat.le_add_right _ 3)
  obtain ⟨policies, drawn, grown, founded⟩ :=
    Stores.founding_eq
      { s with
        userProfile :=
          (s.userProfile.createUserProfile s.nextId principal .default).incrementUserCount false
        drawn := s.drawn + 1 }
      s.nextId OrganizationRepository.defaultOrganization
  rw [Stores.signingUp, founded]
  dsimp only at grown
  exact
    { permitted := .signUp (sound.freshOrg (Nat.le_succ _)) freshTeam freshProject
      graph := by
        refine membershipGraph_founding.trans ?_
        exact congrArg (fun graph : MembershipGraph => graph.found _ _ _ _ _ _)
          membershipGraph_insert_profile
      agree :=
        IndexesAgree.founding sound.agree (Stores.getTeam_eq_none freshTeam)
          (Stores.getProject_eq_none freshProject)
      creates :=
        ⟨⟨s.drawn, by dsimp only; omega, rfl⟩, ⟨s.drawn + 1, by dsimp only; omega, rfl⟩,
          ⟨s.drawn + 2, by dsimp only; omega, rfl⟩, ⟨s.drawn + 3, by dsimp only; omega, rfl⟩⟩
      drawn := by dsimp only; omega }

/-- A new team is opened by its caller. -/
private theorem graphStep_createTeam
    {orgId : OrgId}
    {auth : OrgAuth}
    {name : String}
    (sound : s.Sound)
    (granted : auth.Granted call.caller orgId OrgPermissions.TEAM_MANAGE s) :
    GraphStep (s.userProfile.getUserIdByPrincipal call.caller) s
      { s.drawOne with
        team := s.team.createTeam s.nextId auth.userId auth.orgId ⟨auth.orgId, name⟩ }
      (.addTeam auth.userId auth.orgId s.nextId) := by
  have fresh : s.graph.teamOrg s.nextId = none := sound.freshTeam (le_refl _)
  refine
    { permitted := .addTeam granted.account ?_ fresh
      graph := membershipGraph_createTeam
      agree := IndexesAgree.createTeam sound.agree (Stores.getTeam_eq_none fresh)
      creates := ⟨s.drawn, Nat.lt_succ_self _, rfl⟩
      drawn := Nat.le_succ _ }
  rw [granted.holds.organization]
  exact Stores.mem_members granted.holds.member

/-- A deleted team leaves another team and another administrator behind. -/
private theorem graphStep_deleteTeam
    {teamId : TeamId}
    {existing : Team}
    {auth : OrgAuth}
    {team : TeamState}
    (sound : s.Sound)
    (access : TeamAccess call.caller teamId OrgPermissions.TEAM_MANAGE s existing auth)
    (another : s.team.hasAtLeastNOrgTeams auth.orgId 2 = true)
    (unlinked : s.project.teamHasProjects teamId = false)
    (adminRemains : s.team.orgAdminIsPopulatedExcludingTeam auth.orgId teamId = true)
    (deleted : s.team.deleteTeam teamId auth.orgId = .ok team) :
    GraphStep (s.userProfile.getUserIdByPrincipal call.caller) s
      { s with project := s.project.removeTeamProjectLinks teamId, team := team }
      (.removeTeam teamId) := by
  rw [access.granted.holds.organization] at another adminRemains deleted
  have belongs : s.graph.teamOrg teamId = some existing.orgId :=
    congrArg (Option.map Team.orgId) access.stored
  obtain ⟨other, distinct, otherBelongs⟩ := sound.agree.exists_other_team another teamId
  refine
    { permitted :=
        .removeTeam (sound.agree.projectGrant_eq_none unlinked) distinct
          (otherBelongs.trans belongs.symm) fun orgId belongsTo => ?_
      graph := membershipGraph_deleteTeam sound.agree deleted
      agree := IndexesAgree.deleteTeam sound.agree belongs deleted
      creates := trivial
      drawn := le_refl _ }
  rw [belongs] at belongsTo
  cases belongsTo
  exact sound.agree.administeredBy_excludingTeam adminRemains

/-- A user is enrolled by somebody who holds what the team grants. -/
private theorem graphStep_addUserToTeam
    {teamId : TeamId}
    {userId : UserId}
    {existing : Team}
    {auth : OrgAuth}
    (sound : s.Sound)
    (access : TeamAccess call.caller teamId OrgPermissions.MEMBER_MANAGE s existing auth)
    (member : s.organization.isUserInOrg userId auth.orgId = true)
    (grantable :
      auth.perms.contains ((s.team.getOrgTeamPermissions auth.orgId teamId).getD .EMPTY) =
        true) :
    GraphStep (s.userProfile.getUserIdByPrincipal call.caller) s
      { s with team := s.team.addUserToTeam userId teamId } (.enroll userId teamId) := by
  rw [access.granted.holds.organization] at member grantable
  have belongs : s.graph.teamOrg teamId = some existing.orgId :=
    congrArg (Option.map Team.orgId) access.stored
  refine
    { permitted := .enroll belongs (Stores.mem_members member) ?_
      graph := membershipGraph_addUserToTeam
      agree := IndexesAgree.addUserToTeam sound.agree
      creates := trivial
      drawn := le_refl _ }
  rw [← access.granted.flags_perms sound.agree]
  rintro flag ⟨stored, permissions, found, row, mem⟩
  rw [access.stored] at found
  cases found
  rw [row] at grantable
  exact Permissions.contains_iff.mp grantable mem

/-- A removed member leaves another administrator behind. -/
private theorem graphStep_removeUserFromTeam
    {teamId : TeamId}
    {userId : UserId}
    {existing : Team}
    {auth : OrgAuth}
    (sound : s.Sound)
    (access : TeamAccess call.caller teamId OrgPermissions.MEMBER_MANAGE s existing auth)
    (adminRemains :
      s.team.orgAdminIsPopulatedExcludingTeamMember auth.orgId teamId userId = true) :
    GraphStep (s.userProfile.getUserIdByPrincipal call.caller) s
      { s with team := s.team.removeUserFromTeam userId teamId } (.expel userId teamId) := by
  rw [access.granted.holds.organization] at adminRemains
  have belongs : s.graph.teamOrg teamId = some existing.orgId :=
    congrArg (Option.map Team.orgId) access.stored
  refine
    { permitted := .expel fun orgId belongsTo => ?_
      graph := membershipGraph_removeUserFromTeam
      agree := IndexesAgree.removeUserFromTeam sound.agree
      creates := trivial
      drawn := le_refl _ }
  rw [belongs] at belongsTo
  cases belongsTo
  exact sound.agree.administeredBy_excludingTeamMember adminRemains

/-- A team's permissions are set by somebody who holds the new ones. -/
private theorem graphStep_updateTeamOrgPermissions
    {permissions : OrgPermissions}
    {teamId : TeamId}
    {existing : Team}
    {auth : OrgAuth}
    (sound : s.Sound)
    (access : TeamAccess call.caller teamId OrgPermissions.ORG_ADMIN s existing auth)
    (grantable : auth.perms.contains permissions = true)
    (adminRemains :
      permissions.contains OrgPermissions.ORG_ADMIN = true ∨
        s.team.orgAdminIsPopulatedExcludingTeam auth.orgId teamId = true) :
    GraphStep (s.userProfile.getUserIdByPrincipal call.caller) s
      { s with team := s.team.setOrgTeamPermissions auth.orgId teamId permissions }
      (.setOrgGrant teamId permissions.flags) := by
  have sameOrg := access.granted.holds.organization
  rw [sameOrg] at adminRemains
  have belongs : s.graph.teamOrg teamId = some existing.orgId :=
    congrArg (Option.map Team.orgId) access.stored
  refine
    { permitted := .setOrgGrant belongs ?_ ?_
      graph :=
        membershipGraph_setOrgTeamPermissions access.stored sameOrg.symm
          (sound.agree.teamRow.mpr (by rw [sameOrg]; exact belongs))
      agree := IndexesAgree.setOrgTeamPermissions sound.agree
      creates := trivial
      drawn := le_refl _ }
  · rw [← access.granted.flags_perms sound.agree]
    exact Permissions.contains_iff.mp grantable
  · refine adminRemains.imp Permissions.contains_iff.mp fun populated orgId belongsTo => ?_
    rw [belongs] at belongsTo
    cases belongsTo
    exact sound.agree.administeredBy_excludingTeam populated

/-- A new project is linked to the creator's teams, of which there is one. -/
private theorem graphStep_createProject
    {orgId : OrgId}
    {auth : OrgAuth}
    {name : String}
    (sound : s.Sound)
    (granted : auth.Granted call.caller orgId OrgPermissions.PROJECT_CREATE s) :
    GraphStep (s.userProfile.getUserIdByPrincipal call.caller) s
      { s.drawOne with
        project :=
          (s.team.listUserTeamsInOrg auth.userId auth.orgId).foldl
            (fun state teamId => state.addTeamToProject teamId s.nextId)
            (s.project.createProject s.nextId auth.orgId ⟨auth.orgId, name⟩) }
      (.addProject s.nextId auth.orgId
        {teamId | teamId ∈ s.team.listUserTeamsInOrg auth.userId auth.orgId}) := by
  have sameOrg := granted.holds.organization
  have fresh : s.graph.projectOrg s.nextId = none := sound.freshProject (le_refl _)
  refine
    { permitted := .addProject fresh ?_ ?_ ?_
      graph := membershipGraph_createProject
      agree := IndexesAgree.createProject sound.agree (Stores.getProject_eq_none fresh)
      creates := ⟨s.drawn, Nat.lt_succ_self _, rfl⟩
      drawn := Nat.le_succ _ }
  · rw [sameOrg]
    exact (sound.wellFormed.member (Stores.mem_members granted.holds.member)).1
  · intro teamId listed
    exact (sound.agree.mem_listUserTeamsInOrg.mp listed).2
  · -- The needed flag comes from one of the creator's teams.
    have bit : 3 ∈ OrgPermissions.PROJECT_CREATE.flags :=
      (by decide : OrgPermissions.PROJECT_CREATE.bits.getLsbD 3 = true)
    have held := Permissions.contains_iff.mp granted.holds.needed bit
    rw [granted.holds.perms, sound.agree.flags_aggregateUserOrgPermissions, ← sameOrg] at held
    obtain ⟨teamId, enrolled, belongs, -⟩ := held
    exact ⟨teamId, sound.agree.mem_listUserTeamsInOrg.mpr ⟨enrolled, belongs⟩⟩

/-- A deleted project leaves another project behind. -/
private theorem graphStep_deleteProject
    {projectId : ProjectId}
    {auth : ProjectAuth}
    {project : ProjectState}
    (sound : s.Sound)
    (granted : auth.Granted call.caller projectId ProjectPermissions.PROJECT_ADMIN s)
    (another : s.project.hasAtLeastNOrgProjects auth.orgId 2 = true)
    (deleted : s.project.deleteProject auth.projectId auth.orgId = .ok project) :
    GraphStep (s.userProfile.getUserIdByPrincipal call.caller) s
      { s with project := project } (.removeProject auth.projectId) := by
  obtain ⟨other, distinct, otherInOrg⟩ :=
    sound.agree.exists_other_project another auth.projectId
  exact
    { permitted := .removeProject distinct (otherInOrg.trans granted.inOrg.symm)
      graph := membershipGraph_deleteProject deleted
      agree := IndexesAgree.deleteProject sound.agree granted.inOrg deleted
      creates := trivial
      drawn := le_refl _ }

/-- Every membership operation is a permitted operation of the graph. -/
theorem MembershipWrite.graphStep
    (write : MembershipWrite call s request after)
    (sound : s.Sound) :
    ∃ operation,
      GraphStep (s.userProfile.getUserIdByPrincipal call.caller) s after operation ∧
        Requests request operation := by
  cases write with
  | alreadyDone _ =>
      exact ⟨_, .keep rfl sound.agree (le_refl _), trivial⟩
  | createOrganization account _ =>
      exact ⟨_, .founding sound (sound.account account), trivial⟩
  | updateOrganization _ _ _ updated =>
      exact
        ⟨_,
          .keep (membershipGraph_updateOrg updated)
            (IndexesAgree.updateOrg sound.agree updated) (le_refl _),
          trivial⟩
  | deleteOrganization _ granted _ noProjects _ | abandonDeletion _ granted noProjects _ =>
      rw [granted.orgHasProjects sound] at noProjects
      cases noProjects
  | createTeam parsed granted _ _ =>
      refine ⟨_, graphStep_createTeam sound granted, _, _, rfl, ?_⟩
      rw [granted.holds.organization]
      exact parsed
  | @updateTeam _ _ _ existing _ name _ _ access _ updated =>
      have sameOrg : (⟨existing.orgId, name.text⟩ : Team).orgId = existing.orgId := rfl
      exact
        ⟨_,
          .keep (membershipGraph_updateTeam access.stored sameOrg updated)
            (IndexesAgree.updateTeam sound.agree access.stored sameOrg updated) (le_refl _),
          trivial⟩
  | deleteTeam _ access another unlinked adminRemains deleted =>
      exact
        ⟨_, graphStep_deleteTeam sound access another unlinked adminRemains deleted, trivial⟩
  | addUserToTeam teamParsed userParsed access member grantable _ =>
      exact
        ⟨_, graphStep_addUserToTeam sound access member grantable, _, _, rfl, teamParsed,
          userParsed⟩
  | removeUserFromTeam _ _ access _ adminRemains =>
      exact ⟨_, graphStep_removeUserFromTeam sound access adminRemains, trivial⟩
  | updateTeamOrgPermissions _ access grantable adminRemains =>
      exact
        ⟨_, graphStep_updateTeamOrgPermissions sound access grantable adminRemains, trivial⟩
  | createProject _ granted _ =>
      exact ⟨_, graphStep_createProject sound granted, trivial⟩
  | @updateProject _ _ _ auth _ _ _ granted _ updated =>
      have inOrg :
          (s.project.getProject auth.projectId).map Project.orgId = some auth.orgId :=
        granted.inOrg
      exact
        ⟨_,
          .keep (membershipGraph_updateProject inOrg updated)
            (IndexesAgree.updateProject sound.agree inOrg updated) (le_refl _),
          trivial⟩
  | deleteProject _ granted another _ deleted =>
      exact ⟨_, graphStep_deleteProject sound granted another deleted, trivial⟩
  | @addTeamToProject projectText teamText _ teamId auth projectParsed teamParsed granted
      sameOrg absent =>
      have unlinked : s.graph.projectGrant auth.projectId teamId = none := by
        rw [ProjectState.isTeamInProject, Option.isSome_eq_false_iff,
          Option.isNone_iff_eq_none] at absent
        exact congrArg (Option.map Permissions.flags) absent
      refine
        ⟨.link auth.projectId teamId,
          { permitted := .link granted.inOrg sameOrg unlinked
            graph := membershipGraph_addTeamToProjectWithPermissions
            agree := IndexesAgree.addTeamToProjectWithPermissions sound.agree
            creates := trivial
            drawn := le_refl _ }, projectText, teamText, rfl, ?_, teamParsed⟩
      rw [granted.project]
      exact projectParsed
  | @removeTeamFromProject _ _ _ teamId auth _ _ _ _ another =>
      obtain ⟨other, distinct, kept⟩ := Stores.exists_other_link another teamId
      exact
        ⟨.unlink auth.projectId teamId,
          { permitted := .unlink distinct kept
            graph := membershipGraph_removeTeamFromProject
            agree := IndexesAgree.removeTeamFromProject sound.agree
            creates := trivial
            drawn := le_refl _ }, trivial⟩
  | @updateTeamProjectPermissions _ _ permissions _ teamId auth _ _ granted sameOrg present
      grantable =>
      refine
        ⟨.setProjectGrant auth.projectId teamId
            (mapProjectPermissionsFromDto permissions).flags,
          { permitted := .setProjectGrant granted.inOrg sameOrg ?_
            graph := membershipGraph_setProjectTeamPermissions present
            agree := IndexesAgree.setProjectTeamPermissions sound.agree
            creates := trivial
            drawn := le_refl _ }, trivial⟩
      rw [granted.project, ← granted.flags_perms sound.agree]
      exact Permissions.contains_iff.mp grantable

/-- Accepting an invite is joining; the other invite operations are none. -/
theorem InviteWrite.graphStep
    (write : InviteWrite call s request after)
    (sound : s.Sound) :
    ∃ operation,
      GraphStep (s.userProfile.getUserIdByPrincipal call.caller) s after operation ∧
        Requests request operation := by
  cases write with
  | @accept _ _ stored userId _ _ account _ found _ _ =>
      exact
        ⟨.join userId stored.orgId,
          { permitted := .join (sound.account account) (sound.inviteOrg found)
            graph := membershipGraph_addUserToOrg
            agree := IndexesAgree.addUserToOrg sound.agree
            creates := trivial
            drawn := le_refl _ }, trivial⟩
  | create _ _ =>
      exact ⟨_, .keep rfl sound.agree (Nat.le_succ _), trivial⟩
  | sweep | revoke _ _ | acceptAsMember _ _ | decline _ _ =>
      exact ⟨_, .keep rfl sound.agree (le_refl _), trivial⟩

/-- The account operations are no operation of the graph. -/
theorem SameMembership.graphStep
    {caller : Option UserId}
    (same : SameMembership s after)
    (agree : s.IndexesAgree) :
    GraphStep caller s after .keep := by
  have users : {userId | userId ∈ after.userProfile.profiles} =
      {userId | userId ∈ s.userProfile.profiles} :=
    Set.ext same.users
  refine .keep ?_ ?_ same.drawn
  · simp only [Stores.graph, membershipGraph, users, same.organization, same.team, same.project]
  · rw [Stores.IndexesAgree, same.organization, same.team, same.project]
    exact agree

/-- What leaves access control alone is no operation of the graph. -/
theorem SameAccess.graphStep
    {caller : Option UserId}
    (same : SameAccess s after)
    (agree : s.IndexesAgree) :
    GraphStep caller s after .keep := by
  refine .keep ?_ ?_ same.drawn
  · rw [Stores.graph, same.userProfile, same.organization, same.team, same.project]
    rfl
  · rw [Stores.IndexesAgree, same.organization, same.team, same.project]
    exact agree

/-- Every message is a permitted operation of the graph. -/
theorem Handled.graphStep
    {result : Except Failure Slot}
    (handled : Handled call s request result after)
    (sound : s.Sound) :
    ∃ operation,
      GraphStep (s.userProfile.getUserIdByPrincipal call.caller) s after operation ∧
        Requests request operation := by
  cases handled with
  | refused =>
      exact ⟨_, .keep rfl sound.agree (le_refl _), trivial⟩
  | signUp _ =>
      exact ⟨_, .signingUp sound, trivial⟩
  | membership write _ =>
      exact write.graphStep sound
  | invite write _ =>
      exact write.graphStep sound
  | account write _ =>
      exact ⟨_, write.sameMembership.graphStep sound.agree, trivial⟩
  | policy write =>
      exact ⟨_, write.sameAccess.graphStep sound.agree, trivial⟩
  | proposal write =>
      exact ⟨_, write.sameAccess.graphStep sound.agree, trivial⟩
  | canister write =>
      exact ⟨_, write.sameAccess.graphStep sound.agree, trivial⟩

end Writes

end SsnConsole.Backend
