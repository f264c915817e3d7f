import SsnConsole.MembershipIntegrity

/-!
# What one event does to the projects

A project belongs to the organization that it was created in until it is
deleted.  Projects are created under new identifiers, and only a project
without canisters is deleted.
-/

namespace SsnConsole.Backend

open SsnConsole.AccessGraph

variable [Host]
variable {call : Call} {request : Request} {s after : Stores}

/-- Every way in which an event changes which projects there are. -/
inductive ProjectChange (s after : Stores) : Prop
  | keep
      (same : ∀ projectId, after.graph.projectOrg projectId = s.graph.projectOrg projectId) :
      ProjectChange s after
  | create
      {index : Nat}
      {orgId : OrgId}
      (fresh : s.drawn ≤ index)
      (drawn : index < after.drawn)
      (created : after.graph.projectOrg ⟨Host.draw index⟩ = some orgId)
      (others :
        ∀ other, other ≠ ⟨Host.draw index⟩ →
          after.graph.projectOrg other = s.graph.projectOrg other) :
      ProjectChange s after
  | delete
      {projectId : ProjectId}
      (emptied : s.canister.projectHasCanisters projectId = false)
      (deleted : after.graph.projectOrg projectId = none)
      (others :
        ∀ other, other ≠ projectId →
          after.graph.projectOrg other = s.graph.projectOrg other) :
      ProjectChange s after

namespace ProjectChange

/-- Equal graphs have the same projects. -/
theorem of_graph
    (same : after.graph = s.graph) :
    ProjectChange s after :=
  .keep fun _ => by rw [same]

/-- A graph with one more project has that project created. -/
theorem of_addProject
    {index : Nat}
    (orgId : OrgId)
    (added :
      after.graph.projectOrg =
        (s.graph.addProject ⟨Host.draw index⟩ orgId ∅ ∅).projectOrg)
    (fresh : s.drawn ≤ index)
    (drawn : index < after.drawn) :
    ProjectChange s after := by
  have created : after.graph.projectOrg ⟨Host.draw index⟩ = some orgId := by
    rw [added]
    simp [Graph.addProject]
  refine .create fresh drawn created ?_
  intro other distinct
  rw [added]
  simp [Graph.addProject, distinct]

/-- A graph without a project has that project deleted. -/
theorem of_removeProject
    {projectId : ProjectId}
    (emptied : s.canister.projectHasCanisters projectId = false)
    (removed : after.graph.projectOrg = (s.graph.removeProject projectId).projectOrg) :
    ProjectChange s after := by
  refine .delete emptied ?_ ?_
  · rw [removed]
    simp [Graph.removeProject]
  · intro other distinct
    rw [removed]
    simp [Graph.removeProject, distinct]

end ProjectChange

/-- A membership operation creates a project, deletes an empty one or keeps the projects. -/
theorem MembershipWrite.projectChange
    (write : MembershipWrite call s request after)
    (sound : s.Sound) :
    ProjectChange s after := by
  cases write with
  | alreadyDone _ | updateOrganization _ _ _ _ | deleteOrganization _ _ _ _ _
  | abandonDeletion _ _ _ _ | createTeam _ _ _ _ | updateTeam _ _ _ _ | deleteTeam _ _ _ _ _ _
  | addUserToTeam _ _ _ _ _ _ | removeUserFromTeam _ _ _ _ _
  | updateTeamOrgPermissions _ _ _ _ | addTeamToProject _ _ _ _ _
  | removeTeamFromProject _ _ _ _ _ =>
      exact .keep fun _ => rfl
  | @createOrganization userId _ name account _ =>
      have founding : GraphStep none s (s.founding userId ⟨name.text⟩) _ :=
        .founding sound (sound.account account)
      have added := congrArg Graph.projectOrg founding.graph
      exact
        .of_addProject s.nextId added (Nat.le_add_right _ 2)
          (drawn_draw.mp founding.creates.2.2)
  | @createProject _ _ _ auth name _ _ _ =>
      have created :
          membershipGraph s.userProfile.profiles s.organization s.team
              ((s.team.listUserTeamsInOrg auth.userId auth.orgId).foldl
                (fun state teamId => state.addTeamToProject teamId s.nextId)
                (s.project.createProject s.nextId auth.orgId ⟨auth.orgId, name.text⟩)) =
            _ :=
        membershipGraph_createProject
      have added := congrArg Graph.projectOrg created
      exact .of_addProject auth.orgId added (le_refl _) (Nat.lt_succ_self _)
  | @updateProject _ _ _ auth name _ _ granted _ updated =>
      have inOrg :
          (s.project.getProject auth.projectId).map Project.orgId =
            some (Project.orgId ⟨auth.orgId, name.text⟩) :=
        granted.inOrg
      exact .of_graph (membershipGraph_updateProject inOrg updated)
  | deleteProject _ _ _ emptied deleted =>
      exact .of_removeProject emptied (congrArg Graph.projectOrg
        (membershipGraph_deleteProject deleted))
  | @updateTeamProjectPermissions _ _ permissions _ teamId auth _ _ _ _ present _ =>
      have linked :
          membershipGraph s.userProfile.profiles s.organization s.team
              (s.project.setProjectTeamPermissions auth.projectId teamId
                (mapProjectPermissionsFromDto permissions)) =
            _ :=
        membershipGraph_setProjectTeamPermissions present
      have sameProjects := congrArg Graph.projectOrg linked
      exact .keep fun projectId => congrFun sameProjects projectId

/-- An event changes the projects in one of these ways. -/
theorem World.Stepped.projectChange
    {world after : World}
    {event : Event}
    (stepped : world.Stepped event after)
    (sound : world.stores.Sound) :
    ProjectChange world.stores after.stores := by
  have untouched :
      ∀ {stores : Stores},
        stores.project = world.stores.project → ProjectChange world.stores stores := by
    intro stores same
    refine .keep fun projectId => ?_
    rw [Stores.graph, same]
    rfl
  cases stepped with
  | @message call _ _ _ handled =>
      cases handled with
      | refused =>
          exact .keep fun _ => rfl
      | signUp _ =>
          have signUp : GraphStep none world.stores (world.stores.signingUp call.caller) _ :=
            .signingUp sound
          have added := congrArg Graph.projectOrg signUp.graph
          exact
            .of_addProject world.stores.drawOne.nextId added (Nat.le_add_right _ 3)
              (drawn_draw.mp signUp.creates.2.2.2)
      | membership write _ =>
          exact write.projectChange sound
      | invite write _ =>
          cases write <;> exact untouched rfl
      | account write _ =>
          exact untouched write.sameMembership.project
      | policy write =>
          exact untouched write.sameAccess.project
      | proposal write =>
          exact untouched write.sameAccess.project
      | canister write =>
          exact untouched write.sameAccess.project
  | reply _ resumed =>
      exact untouched resumed.sameAccess.project

end SsnConsole.Backend
