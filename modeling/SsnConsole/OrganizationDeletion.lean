import SsnConsole.MembershipIntegrity

/-!
# Deleting an organization

`delete_organization` asks for an organization without projects, and
`delete_project` refuses to delete an organization's last project.  Every
organization starts with a project, so the first guard never passes.
-/

namespace SsnConsole.Backend

open SsnConsole.MessageSlice
open SsnConsole.MessageRun

section Deletion

variable [Host]

/-- The event is a message of one of the user's principals, or a reply. -/
def World.OperatedBy (userId : UserId) (world : World) : Event → Prop
  | .message call _ =>
      world.stores.userProfile.getUserIdByPrincipal call.caller = some userId
  | .reply _ _ _ => True

/-- The user can run operations after which `delete_organization` succeeds. -/
def World.CanDelete (world : World) (userId : UserId) (orgId : OrgId) : Prop :=
  ∃ after call orgText response,
    MessageRun.Reachable World.serviceStep (World.OperatedBy userId) world after ∧
      after.stores.userProfile.getUserIdByPrincipal call.caller = some userId ∧
      Id.tryFrom orgText = .ok orgId ∧
      (outcome (OrganizationService.deleteOrganization call orgText) after.stores).1 =
        .ok response

/-- The user holds everything in an organization that could be given up. -/
structure Stores.HoldsEverything (s : Stores) (userId : UserId) (orgId : OrgId) : Prop where
  member : s.organization.isUserInOrg userId orgId = true
  orgPermissions :
    (s.team.aggregateUserOrgPermissions userId orgId).contains OrgPermissions.ALL = true
  projectPermissions :
    ∀ projectId ∈ s.project.listOrgProjectIds orgId,
      (ProjectAuth.forUser userId projectId ProjectPermissions.ALL s).isOk = true
  anotherOrg : s.organization.hasAtLeastNUserOrgs userId 2 = true
  noCanisters :
    ∀ projectId ∈ s.project.listOrgProjectIds orgId,
      s.canister.projectHasCanisters projectId = false

/-- In a sound state `delete_organization` never succeeds. -/
theorem Stores.Sound.deleteOrganization_ne_ok
    {s : Stores}
    {call : Call}
    {orgText : String}
    {response : Response}
    (sound : s.Sound) :
    (outcome (OrganizationService.deleteOrganization call orgText) s).1 ≠ .ok response := by
  intro succeeded
  have ended := OrganizationService.deleteOrganization_ends call orgText s
  unfold Ends at ended
  rcases result : outcome (OrganizationService.deleteOrganization call orgText) s with
    ⟨verdict, after⟩
  rw [result] at succeeded ended
  obtain rfl : verdict = .ok response := succeeded
  have write : MembershipWrite call s (.deleteOrganization orgText) after := ended
  cases write with
  | alreadyDone done =>
      cases done
  | deleteOrganization _ granted _ noProjects _ | abandonDeletion _ granted noProjects _ =>
      rw [granted.orgHasProjects sound] at noProjects
      cases noProjects

/-- Whatever a user runs from a reachable world, `delete_organization` fails after it. -/
private theorem World.Reachable.not_canDelete
    {world : World}
    {userId : UserId}
    {orgId : OrgId}
    (reachable : world.Reachable) :
    ¬ world.CanDelete userId orgId := by
  rintro ⟨after, call, orgText, response, operated, -, -, succeeded⟩
  have later : after.Reachable :=
    MessageRun.Reachable.trans reachable (operated.loosen fun _ _ _ => trivial)
  have sound : after.stores.Sound := World.Reachable.sound later
  exact sound.deleteOrganization_ne_ok succeeded

/-- Nobody can bring about the deletion of an organization, whatever they hold in it. -/
theorem organization_never_deletable
    {world : World}
    (reachable : world.Reachable)
    (userId : UserId)
    (orgId : OrgId) :
    ¬ world.CanDelete userId orgId :=
  World.Reachable.not_canDelete reachable

end Deletion

section SecondOrganization

open TextualHost

attribute [local instance] host

/-- A founder signs up and creates a second organization. -/
def secondOrganization : Execution World.serviceStep World.empty :=
  .ofEvents
    [.message (callBy founder) .createMyUserProfile,
      .message (callBy founder) (.createOrganization "Second")]
    (.reply 0 0 .done) (by decide +kernel)

/-- The founder cannot delete the first of two organizations. -/
theorem organization_never_deletable_secondOrganization :
    ¬ (secondOrganization.state 2).CanDelete ⟨draw 0⟩ ⟨draw 1⟩ :=
  organization_never_deletable (secondOrganization.reachable (by decide : 2 ≤ 2)) ⟨draw 0⟩
    ⟨draw 1⟩

/-- The founder holds everything in an organization that it cannot delete. -/
theorem secondOrganization_undeletable :
    ∃ (world : World) (userId : UserId) (orgId : OrgId),
      world.Reachable ∧ world.stores.HoldsEverything userId orgId ∧
        ¬ world.CanDelete userId orgId := by
  have reachable : (secondOrganization.state 2).Reachable :=
    secondOrganization.reachable (by decide : 2 ≤ 2)
  refine
    ⟨secondOrganization.state 2, ⟨draw 0⟩, ⟨draw 1⟩, reachable, ?_,
      World.Reachable.not_canDelete reachable⟩
  exact
    { member := by decide +kernel
      orgPermissions := by decide +kernel
      projectPermissions := by decide +kernel
      anotherOrg := by decide +kernel
      noCanisters := by decide +kernel }

end SecondOrganization

end SsnConsole.Backend
