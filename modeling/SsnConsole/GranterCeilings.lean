import SsnConsole.MembershipIntegrity
import SsnConsole.TextualHost

/-!
# Granter ceilings

Nobody should hand out, in an organization or on a project, a permission that it
does not hold there.  Read on the graph, each ceiling is decided operation by
operation: opening a team is the only way over the organization ceiling, and
enrolling a member and linking a team are the only ways over the project ceiling.
-/

namespace SsnConsole.Backend

open SsnConsole.AccessGraph
open SsnConsole.MessageRun
open SsnConsole.MessageSlice

section Ceilings

/-- The permissions of a user on a project, over its teams linked to it. -/
def Stores.userProjectPermissions (s : Stores) (userId : UserId) (projectId : ProjectId) :
    ProjectPermissions :=
  (s.project.aggregateTeamProjectPermissions (s.team.listUserTeamIds userId) projectId).1

/-- What a caller holds in an organization; without an account, nothing. -/
def Stores.callerOrgPermissions (s : Stores) (caller : Principal) (orgId : OrgId) :
    OrgPermissions :=
  match s.userProfile.getUserIdByPrincipal caller with
  | some userId => s.team.aggregateUserOrgPermissions userId orgId
  | none => .EMPTY

/-- What a caller holds on a project; without an account, nothing. -/
def Stores.callerProjectPermissions (s : Stores) (caller : Principal)
    (projectId : ProjectId) : ProjectPermissions :=
  match s.userProfile.getUserIdByPrincipal caller with
  | some userId => s.userProjectPermissions userId projectId
  | none => .EMPTY

/-- Nobody gains more in an existing organization than the caller holds there. -/
def OrgGranterCeiling (caller : Principal) (s after : Stores) : Prop :=
  ∀ userId, ∀ orgId ∈ s.organization.organizations,
    ((s.team.aggregateUserOrgPermissions userId orgId).union
        (s.callerOrgPermissions caller orgId)).contains
      (after.team.aggregateUserOrgPermissions userId orgId) = true

/-- Nobody gains more on an existing project than the caller holds there. -/
def ProjectGranterCeiling (caller : Principal) (s after : Stores) : Prop :=
  ∀ userId, ∀ projectId ∈ s.project.projects,
    ((s.userProjectPermissions userId projectId).union
        (s.callerProjectPermissions caller projectId)).contains
      (after.userProjectPermissions userId projectId) = true

variable {s after : Stores} {caller : Principal}

/-- A caller's organization permissions in the graph. -/
theorem Stores.IndexesAgree.flags_callerOrgPermissions
    (agree : s.IndexesAgree)
    (orgId : OrgId) :
    (s.callerOrgPermissions caller orgId).flags =
      s.graph.heldInOrg (s.userProfile.getUserIdByPrincipal caller) orgId := by
  unfold Stores.callerOrgPermissions
  cases s.userProfile.getUserIdByPrincipal caller with
  | none =>
      simp [Graph.heldInOrg]
  | some userId =>
      rw [Graph.heldInOrg_some]
      exact agree.flags_aggregateUserOrgPermissions userId orgId

/-- A caller's project permissions in the graph. -/
theorem Stores.IndexesAgree.flags_callerProjectPermissions
    (agree : s.IndexesAgree)
    (projectId : ProjectId) :
    (s.callerProjectPermissions caller projectId).flags =
      s.graph.heldOnProject (s.userProfile.getUserIdByPrincipal caller) projectId := by
  unfold Stores.callerProjectPermissions
  cases s.userProfile.getUserIdByPrincipal caller with
  | none =>
      simp [Graph.heldOnProject]
  | some userId =>
      rw [Graph.heldOnProject_some]
      exact agree.flags_aggregateTeamProjectPermissions userId projectId

/-- The organization ceiling is the one of the graph. -/
theorem orgGranterCeiling_iff_graph
    (agree : s.IndexesAgree)
    (agreeAfter : after.IndexesAgree) :
    OrgGranterCeiling caller s after ↔
      s.graph.OrgCeiling after.graph
        (s.graph.heldInOrg (s.userProfile.getUserIdByPrincipal caller)) := by
  simp only [OrgGranterCeiling, Permissions.contains_iff, Permissions.flags_union,
    agree.flags_aggregateUserOrgPermissions, agreeAfter.flags_aggregateUserOrgPermissions,
    agree.flags_callerOrgPermissions]
  rfl

/-- The project ceiling is the one of the graph. -/
theorem projectGranterCeiling_iff_graph
    (agree : s.IndexesAgree)
    (agreeAfter : after.IndexesAgree) :
    ProjectGranterCeiling caller s after ↔
      s.graph.ProjectCeiling after.graph
        (s.graph.heldOnProject (s.userProfile.getUserIdByPrincipal caller)) := by
  have stored :
      ∀ projectId,
        projectId ∈ s.project.projects ↔ (s.graph.projectOrg projectId).isSome := by
    intro projectId
    rw [Std.ExtTreeMap.mem_iff_isSome_getElem?]
    exact (Bool.eq_iff_iff.mp Option.isSome_map).symm
  simp only [ProjectGranterCeiling, Permissions.contains_iff, Permissions.flags_union,
    Stores.userProjectPermissions, agree.flags_aggregateTeamProjectPermissions,
    agreeAfter.flags_aggregateTeamProjectPermissions, agree.flags_callerProjectPermissions,
    stored]
  rfl

end Ceilings

section OrganizationCeiling

variable [Host]

/-- A team is opened only by a caller that holds every organization permission. -/
def OpensTeamWithinOwn (call : Call) (request : Request) (s : Stores) : Prop :=
  ∀ orgText name orgId,
    request = .createTeam orgText name → Id.tryFrom orgText = .ok orgId →
      (s.callerOrgPermissions call.caller orgId).contains OrgPermissions.ALL = true

variable {s after : Stores} {call : Call} {request : Request}

/-- A successful `create_team` opens a team of its caller. -/
private theorem Handled.createTeam_ok
    {orgText name : String}
    {orgId : OrgId}
    {result : Except Failure Slot}
    {slot : Slot}
    (handled : Handled call s request result after)
    (answered : result = .ok slot)
    (asked : request = .createTeam orgText name)
    (parsed : Id.tryFrom orgText = .ok orgId)
    (sound : s.Sound) :
    ∃ userId,
      s.userProfile.getUserIdByPrincipal call.caller = some userId ∧
        orgId ∈ s.graph.orgs ∧
          after.graph = s.graph.addTeam userId orgId s.nextId OrgPermissions.ALL.flags := by
  subst asked
  cases handled with
  | refused =>
      cases answered
  | membership write _ =>
      cases write with
      | alreadyDone done =>
          cases done
      | @createTeam _ _ _ auth _ parsedOrg granted _ _ =>
          obtain rfl : orgId = _ := Except.ok.inj (parsed.symm.trans parsedOrg)
          obtain rfl := granted.holds.organization
          refine ⟨auth.userId, granted.account, ?_, membershipGraph_createTeam⟩
          exact (sound.wellFormed.member (Stores.mem_members granted.holds.member)).1
  | invite write _ =>
      cases write
  | account write _ =>
      cases write
  | policy write =>
      cases write
  | proposal write =>
      cases write
  | canister write =>
      cases write

/-- Exactly opening a team can break the organization ceiling. -/
theorem Handled.orgGranterCeiling_iff
    {slot : Slot}
    (handled : Handled call s request (.ok slot) after)
    (sound : s.Sound) :
    OrgGranterCeiling call.caller s after ↔ OpensTeamWithinOwn call request s := by
  obtain ⟨operation, step, requests⟩ := handled.graphStep sound
  rw [orgGranterCeiling_iff_graph sound.agree step.agree]
  constructor
  · intro ceiling orgText name orgId asked parsed
    obtain ⟨userId, account, existing, opened⟩ :=
      handled.createTeam_ok rfl asked parsed sound
    have fresh : s.graph.teamOrg s.nextId = none := sound.freshTeam (le_refl _)
    rw [opened, Graph.orgCeiling_addTeam_iff sound.wellFormed fresh existing, account,
      Graph.heldInOrg_some, Set.union_self] at ceiling
    rw [Permissions.contains_iff, sound.agree.flags_callerOrgPermissions, account,
      Graph.heldInOrg_some]
    exact ceiling
  · intro within
    rw [step.graph]
    refine Graph.OrgCeiling.apply sound.wellFormed step.permitted ?_
    rintro userId orgId teamId rfl
    obtain ⟨orgText, name, asked, parsed⟩ := requests
    rw [← sound.agree.flags_callerOrgPermissions]
    exact Permissions.contains_iff.mp (within orgText name orgId asked parsed)

end OrganizationCeiling

section ProjectCeiling

variable [Host]

/-- A team is linked only if its members or the caller hold everything on the project. -/
def LinksWithinOwn (call : Call) (request : Request) (s : Stores) : Prop :=
  ∀ projectText teamText projectId teamId,
    request = .addTeamToProject projectText teamText →
      Id.tryFrom projectText = .ok projectId → Id.tryFrom teamText = .ok teamId →
        s.project.isTeamInProject teamId projectId = false →
          ∀ userId, s.team.isUserInTeam userId teamId = true →
            ((s.userProjectPermissions userId projectId).union
                (s.callerProjectPermissions call.caller projectId)).contains
              ProjectPermissions.ALL = true

/-- A user is enrolled only if it or the caller holds what the team's links carry. -/
def EnrollsWithinOwn (call : Call) (request : Request) (s : Stores) : Prop :=
  ∀ teamText userText teamId userId,
    request = .addUserToTeam teamText userText →
      Id.tryFrom teamText = .ok teamId → Id.tryFrom userText = .ok userId →
        s.team.isUserInTeam userId teamId = false →
          ∀ projectId permissions,
            s.project.getProjectTeamPermissions projectId teamId = some permissions →
              ((s.userProjectPermissions userId projectId).union
                  (s.callerProjectPermissions call.caller projectId)).contains
                permissions = true

variable {s after : Stores} {call : Call} {request : Request}
variable {teamText : String} {teamId : TeamId}

/-- A successful `add_team_to_project` links a team that was not linked. -/
private theorem Handled.addTeamToProject_ok
    {projectText : String}
    {projectId : ProjectId}
    {result : Except Failure Slot}
    {slot : Slot}
    (handled : Handled call s request result after)
    (answered : result = .ok slot)
    (asked : request = .addTeamToProject projectText teamText)
    (projectParsed : Id.tryFrom projectText = .ok projectId)
    (teamParsed : Id.tryFrom teamText = .ok teamId)
    (absent : s.project.isTeamInProject teamId projectId = false) :
    (s.graph.projectOrg projectId).isSome ∧
      after.graph = s.graph.link projectId {teamId} ProjectPermissions.ALL.flags := by
  subst asked
  cases handled with
  | refused =>
      cases answered
  | membership write _ =>
      cases write with
      | alreadyDone done =>
          cases done with
          | addTeamToProject otherProject otherTeam present =>
              obtain rfl : projectId = _ := Except.ok.inj (projectParsed.symm.trans otherProject)
              obtain rfl : teamId = _ := Except.ok.inj (teamParsed.symm.trans otherTeam)
              rw [absent] at present
              cases present
      | addTeamToProject otherProject otherTeam granted _ _ =>
          obtain rfl : projectId = _ := Except.ok.inj (projectParsed.symm.trans otherProject)
          obtain rfl : teamId = _ := Except.ok.inj (teamParsed.symm.trans otherTeam)
          obtain rfl := granted.project
          exact
            ⟨Option.isSome_of_eq_some granted.inOrg,
              membershipGraph_addTeamToProjectWithPermissions⟩
  | invite write _ =>
      cases write
  | account write _ =>
      cases write
  | policy write =>
      cases write
  | proposal write =>
      cases write
  | canister write =>
      cases write

/-- A successful `add_user_to_team` enrolls a user that was not in the team. -/
private theorem Handled.addUserToTeam_ok
    {userText : String}
    {userId : UserId}
    {result : Except Failure Slot}
    {slot : Slot}
    (handled : Handled call s request result after)
    (answered : result = .ok slot)
    (asked : request = .addUserToTeam teamText userText)
    (teamParsed : Id.tryFrom teamText = .ok teamId)
    (userParsed : Id.tryFrom userText = .ok userId)
    (absent : s.team.isUserInTeam userId teamId = false) :
    after.graph = s.graph.enroll userId teamId := by
  subst asked
  cases handled with
  | refused =>
      cases answered
  | membership write _ =>
      cases write with
      | alreadyDone done =>
          cases done with
          | addUserToTeam otherTeam otherUser present =>
              obtain rfl : teamId = _ := Except.ok.inj (teamParsed.symm.trans otherTeam)
              obtain rfl : userId = _ := Except.ok.inj (userParsed.symm.trans otherUser)
              rw [absent] at present
              cases present
      | addUserToTeam otherTeam otherUser _ _ _ _ =>
          obtain rfl : teamId = _ := Except.ok.inj (teamParsed.symm.trans otherTeam)
          obtain rfl : userId = _ := Except.ok.inj (userParsed.symm.trans otherUser)
          exact membershipGraph_addUserToTeam
  | invite write _ =>
      cases write
  | account write _ =>
      cases write
  | policy write =>
      cases write
  | proposal write =>
      cases write
  | canister write =>
      cases write

/-- A ceiling check on a user and the caller, read on the graph. -/
private theorem contains_union_iff
    {userId : UserId}
    {projectId : ProjectId}
    {permissions : ProjectPermissions}
    (sound : s.Sound) :
    ((s.userProjectPermissions userId projectId).union
        (s.callerProjectPermissions call.caller projectId)).contains permissions = true ↔
      permissions.flags ⊆
        s.graph.projectFlags userId projectId ∪
          s.graph.heldOnProject (s.userProfile.getUserIdByPrincipal call.caller) projectId := by
  rw [Permissions.contains_iff, Permissions.flags_union,
    sound.agree.flags_callerProjectPermissions, Stores.userProjectPermissions,
    sound.agree.flags_aggregateTeamProjectPermissions]

omit [Host] in
/-- A link of the graph comes from stored permissions. -/
private theorem projectGrant_eq_some
    {projectId : ProjectId}
    {flags : Set Nat} :
    s.graph.projectGrant projectId teamId = some flags ↔
      ∃ permissions,
        s.project.getProjectTeamPermissions projectId teamId = some permissions ∧
          permissions.flags = flags :=
  Option.map_eq_some_iff

/-- Exactly linking and enrolling can break the project ceiling. -/
theorem Handled.projectGranterCeiling_iff
    {slot : Slot}
    (handled : Handled call s request (.ok slot) after)
    (sound : s.Sound) :
    ProjectGranterCeiling call.caller s after ↔
      LinksWithinOwn call request s ∧ EnrollsWithinOwn call request s := by
  obtain ⟨operation, step, requests⟩ := handled.graphStep sound
  rw [projectGranterCeiling_iff_graph sound.agree step.agree]
  constructor
  · intro ceiling
    constructor
    · intro projectText teamText projectId teamId asked projectParsed teamParsed absent
      obtain ⟨existing, linked⟩ :=
        handled.addTeamToProject_ok rfl asked projectParsed teamParsed absent
      have unlinked : s.graph.projectGrant projectId teamId = none := by
        rw [ProjectState.isTeamInProject, Option.isSome_eq_false_iff,
          Option.isNone_iff_eq_none] at absent
        exact congrArg (Option.map Permissions.flags) absent
      rw [linked, Graph.projectCeiling_link_iff existing unlinked] at ceiling
      intro userId enrolled
      rw [contains_union_iff sound]
      exact ceiling userId (Stores.mem_teamUsers.mp enrolled)
    · intro teamText userText teamId userId asked teamParsed userParsed absent projectId
        permissions granted
      have enrolled := handled.addUserToTeam_ok rfl asked teamParsed userParsed absent
      rw [enrolled, Graph.projectCeiling_enroll_iff sound.wellFormed] at ceiling
      rw [contains_union_iff sound]
      exact ceiling projectId _ (projectGrant_eq_some.mpr ⟨permissions, granted, rfl⟩)
  · rintro ⟨links, enrolls⟩
    rw [step.graph]
    refine Graph.ProjectCeiling.apply sound.wellFormed step.permitted ?_ ?_
    · rintro userId teamId rfl projectId flags granted
      obtain ⟨permissions, stored, rfl⟩ := projectGrant_eq_some.mp granted
      obtain ⟨teamText, userText, asked, teamParsed, userParsed⟩ := requests
      cases enrolled : s.team.isUserInTeam userId teamId with
      | true =>
          -- A member already holds what its team's links carry.
          refine Set.subset_union_of_subset_left (fun flag mem => ?_) _
          exact ⟨teamId, _, Stores.mem_teamUsers.mp enrolled, granted, mem⟩
      | false =>
          rw [← contains_union_iff sound]
          exact
            enrolls teamText userText teamId userId asked teamParsed userParsed enrolled
              projectId permissions stored
    · rintro projectId teamId rfl userId enrolled
      obtain ⟨projectText, teamText, asked, projectParsed, teamParsed⟩ := requests
      have absent : s.project.isTeamInProject teamId projectId = false := by
        cases step.permitted with
        | link _ _ unlinked =>
            rw [ProjectState.isTeamInProject, Option.isSome_eq_false_iff,
              Option.isNone_iff_eq_none]
            exact Option.map_eq_none_iff.mp unlinked
      refine (contains_union_iff sound).mp ?_
      exact
        links projectText teamText projectId teamId asked projectParsed teamParsed absent userId
          (Stores.mem_teamUsers.mpr enrolled)

end ProjectCeiling

section Runs

variable [Host]

/-- In a run, a success stays below the organization ceiling exactly if it opens no
team beyond its caller's own permissions. -/
theorem orgGranterCeiling_iff_of_execution
    (execution : Execution World.serviceStep World.empty)
    {time : Nat}
    {call : Call}
    {request : Request}
    (within : time < execution.length)
    (arrives : execution.event time = .message call request)
    (succeeded : (execution.state time).Succeeds call request) :
    OrgGranterCeiling call.caller (execution.state time).stores
        (execution.state (time + 1)).stores ↔
      OpensTeamWithinOwn call request (execution.state time).stores := by
  have reachable : (execution.state time).Reachable :=
    execution.reachable (Nat.le_of_lt within)
  have stepped := execution.advances time within
  rw [arrives] at stepped
  obtain ⟨slot, handled⟩ := succeeded.handled stepped
  exact handled.orgGranterCeiling_iff reachable.sound

/-- In a run, a success stays below the project ceiling exactly if it links no team and
enrolls nobody beyond what the gaining users or its caller hold. -/
theorem projectGranterCeiling_iff_of_execution
    (execution : Execution World.serviceStep World.empty)
    {time : Nat}
    {call : Call}
    {request : Request}
    (within : time < execution.length)
    (arrives : execution.event time = .message call request)
    (succeeded : (execution.state time).Succeeds call request) :
    ProjectGranterCeiling call.caller (execution.state time).stores
        (execution.state (time + 1)).stores ↔
      LinksWithinOwn call request (execution.state time).stores ∧
        EnrollsWithinOwn call request (execution.state time).stores := by
  have reachable : (execution.state time).Reachable :=
    execution.reachable (Nat.le_of_lt within)
  have stepped := execution.advances time within
  rw [arrives] at stepped
  obtain ⟨slot, handled⟩ := succeeded.handled stepped
  exact handled.projectGranterCeiling_iff reachable.sound

end Runs

section Escalation

open TextualHost

attribute [local instance] host

/-- A founder prepares two teams, and an invited colleague with only `MEMBER_MANAGE`
and `TEAM_MANAGE` enrolls itself in one and opens another. -/
def escalation : List Event :=
  [.message (callBy founder) .createMyUserProfile,
    .message (callBy colleague) .createMyUserProfile,
    .message (callBy founder) (.createOrgInvite (idText 1) (.principal colleague)),
    .message (callBy colleague) (.acceptOrgInvite (idText 12)),
    .message (callBy founder) (.createTeam (idText 1) "Operations"),
    .message (callBy founder)
      (.updateTeamOrgPermissions (idText 13) ⟨false, true, true, false, false⟩),
    .message (callBy founder) (.addUserToTeam (idText 13) (idText 6)),
    .message (callBy founder) (.createTeam (idText 1) "Maintainers"),
    .message (callBy founder)
      (.updateTeamOrgPermissions (idText 14) ⟨false, false, false, false, false⟩),
    .message (callBy founder) (.addTeamToProject (idText 3) (idText 14)),
    .message (callBy colleague) (.addUserToTeam (idText 14) (idText 6)),
    .message (callBy colleague) (.createTeam (idText 1) "Colleagues")]

/-- The run of these events. -/
def escalationRun : Execution World.serviceStep World.empty :=
  .ofEvents escalation (.message (callBy founder) .revokeMyLinkCode) (by decide +kernel)

/-- The founder, who holds everything, may open a team. -/
theorem orgGranterCeiling_founder_opens_team :
    OrgGranterCeiling founder (escalationRun.state 4).stores (escalationRun.state 5).stores := by
  have arrives :
      escalationRun.event 4 =
        .message (callBy founder) (.createTeam (idText 1) "Operations") :=
    rfl
  refine
    (orgGranterCeiling_iff_of_execution escalationRun (by decide) arrives
      (World.succeeds_of_isOk (by decide +kernel))).mpr ?_
  intro orgText name orgId asked parsed
  cases asked
  cases parsed.symm.trans (by decide +kernel : Id.tryFrom (idText 1) = .ok ⟨draw 1⟩)
  decide +kernel

/-- A colleague with `TEAM_MANAGE` gains every organization permission by opening a team. -/
theorem createTeam_exceeds_orgGranterCeiling :
    ∃ time call request,
      time < escalationRun.length ∧ escalationRun.event time = .message call request ∧
        (escalationRun.state time).Succeeds call request ∧
          ¬OrgGranterCeiling call.caller (escalationRun.state time).stores
            (escalationRun.state (time + 1)).stores := by
  refine
    ⟨11, callBy colleague, .createTeam (idText 1) "Colleagues", by decide, by rfl,
      World.succeeds_of_isOk (by decide +kernel), fun ceiling => ?_⟩
  exact absurd (ceiling ⟨draw 6⟩ ⟨draw 1⟩ (by decide +kernel)) (by decide +kernel)

/-- The founder, who holds everything on the project, may link a team. -/
theorem projectGranterCeiling_founder_links_team :
    ProjectGranterCeiling founder (escalationRun.state 9).stores
      (escalationRun.state 10).stores := by
  have arrives :
      escalationRun.event 9 =
        .message (callBy founder) (.addTeamToProject (idText 3) (idText 14)) :=
    rfl
  refine
    (projectGranterCeiling_iff_of_execution escalationRun (by decide) arrives
      (World.succeeds_of_isOk (by decide +kernel))).mpr ⟨?_, ?_⟩
  · intro projectText teamText projectId teamId asked projectParsed teamParsed _ userId _
    cases asked
    cases projectParsed.symm.trans (by decide +kernel : Id.tryFrom (idText 3) = .ok ⟨draw 3⟩)
    refine Permissions.contains_union_right ?_
    decide +kernel
  · intro teamText userText teamId userId asked
    cases asked

/-- A colleague without project permissions gains all of a team's by enrolling itself. -/
theorem addUserToTeam_exceeds_projectGranterCeiling :
    ∃ time call request,
      time < escalationRun.length ∧ escalationRun.event time = .message call request ∧
        (escalationRun.state time).Succeeds call request ∧
          ¬ProjectGranterCeiling call.caller (escalationRun.state time).stores
            (escalationRun.state (time + 1)).stores := by
  refine
    ⟨10, callBy colleague, .addUserToTeam (idText 14) (idText 6), by decide, by rfl,
      World.succeeds_of_isOk (by decide +kernel), fun ceiling => ?_⟩
  exact absurd (ceiling ⟨draw 6⟩ ⟨draw 3⟩ (by decide +kernel)) (by decide +kernel)

end Escalation

end SsnConsole.Backend
