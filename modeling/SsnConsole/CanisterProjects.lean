import SsnConsole.CanisterPlacement
import SsnConsole.EndpointRuns
import SsnConsole.ProjectTransitions
import SsnConsole.TextualHost

/-!
# The projects of canisters

A project with rows is not deleted, but a creation that is in flight has no row
yet.  Every canister belongs to a stored project in the runs whose creations
find their project when the reply arrives.
-/

namespace SsnConsole.Backend

open SsnConsole.MessageRun

section Projects

variable [Host]

/-- Every canister of the project index belongs to a stored project. -/
def World.CanisterProjectsExist (world : World) : Prop :=
  ∀ canisterId projectId,
    world.stores.canister.getCanisterProjectId canisterId = some projectId →
      (world.stores.project.getProject projectId).isSome

/-- A reply that creates a canister finds the project of the creation stored. -/
def RepliesFindProject (world : World) (event : Event) : Prop :=
  ∀ now index operation principal,
    event = .reply now index (.canisterCreated principal) →
      world.inFlight[index]? = some (.operation operation) →
        operation.call = .createCanister →
          (world.stores.project.getProject operation.projectId).isSome

/-- A reported canister belongs to a project that has canisters. -/
private theorem exists_canister_of_addChildCanisters
    {s : Stores}
    {mappings : List Dto.ParentChildMapping}
    {canisterId : CanisterId}
    {projectId : ProjectId}
    (belongs :
      (mappings.foldl CanisterService.addChildCanister s).canister.getCanisterProjectId
        canisterId = some projectId) :
    ∃ other, s.canister.getCanisterProjectId other = some projectId := by
  refine
    @CanisterService.addChildCanisters_induction _
      (fun reached =>
        ∀ canisterId projectId,
          reached.canister.getCanisterProjectId canisterId = some projectId →
            ∃ other, s.canister.getCanisterProjectId other = some projectId)
      mappings s ?_ ?_ ?_ canisterId projectId belongs
  · intro reached parentProject principal parentId known parentBelongs other otherProject placed
    rw [CanisterService.getCanisterProjectId_recordCanister] at placed
    split at placed
    · cases placed
      exact known parentId parentProject parentBelongs
    · exact known other otherProject placed
  · intro reached orphans known
    exact known
  · intro other otherProject placed
    exact ⟨other, placed⟩

/-- A canister belongs to a project that had canisters, or to that of a creation in flight. -/
theorem World.CanisterChange.project_known
    {world : World}
    {event : Event}
    {after : Stores}
    {canisterId : CanisterId}
    {projectId : ProjectId}
    (change : world.CanisterChange event after)
    (belongs : after.canister.getCanisterProjectId canisterId = some projectId) :
    (∃ other, world.stores.canister.getCanisterProjectId other = some projectId) ∨
      ∃ now index operation principal,
        event = .reply now index (.canisterCreated principal) ∧
          world.inFlight[index]? = some (.operation operation) ∧
            operation.call = .createCanister ∧ projectId = operation.projectId := by
  cases change with
  | same same =>
      rw [same.canister] at belongs
      exact .inl ⟨canisterId, belongs⟩
  | remove removed =>
      obtain ⟨stored, -, -, rfl⟩ := CanisterState.softDeleteCanister_eq_some removed
      exact .inl ⟨canisterId, belongs⟩
  | rename changed =>
      obtain ⟨stored, -, rfl⟩ := CanisterState.updateCanisterName_eq_some changed
      exact .inl ⟨canisterId, belongs⟩
  | report =>
      exact .inl (exists_canister_of_addChildCanisters belongs)
  | @record now index operation principal waiting called =>
      have recorded :=
        (CanisterService.getCanisterProjectId_recordCanister canisterId).symm.trans belongs
      split at recorded
      · cases recorded
        exact .inr ⟨now, index, operation, principal, rfl, waiting, called, rfl⟩
      · exact .inl ⟨canisterId, recorded⟩

/-- A project with canisters is still stored after any event. -/
theorem ProjectChange.isSome_getProject
    {s after : Stores}
    {canisterId : CanisterId}
    {projectId : ProjectId}
    (change : ProjectChange s after)
    (placed : s.CanistersPlaced)
    (belongs : s.canister.getCanisterProjectId canisterId = some projectId)
    (stored : (s.project.getProject projectId).isSome) :
    (after.project.getProject projectId).isSome := by
  have inGraph : (s.graph.projectOrg projectId).isSome :=
    Option.isSome_map.trans stored
  suffices kept : (after.graph.projectOrg projectId).isSome from Option.isSome_map.symm.trans kept
  cases change with
  | keep same =>
      rw [same]
      exact inGraph
  | @create index _ _ _ created others =>
      by_cases isNew : projectId = ⟨Host.draw index⟩
      · rw [isNew, created]
        rfl
      · rw [others projectId isNew]
        exact inGraph
  | @delete deletedId emptied _ others =>
      have distinct : projectId ≠ deletedId := by
        rintro rfl
        exact placed.no_canister emptied canisterId belongs
      rw [others projectId distinct]
      exact inGraph

/-- A reply leaves the projects alone. -/
theorem World.Stepped.project_of_reply
    {world after : World}
    {now index : Nat}
    {reply : Reply}
    (stepped : world.Stepped (.reply now index reply) after) :
    after.stores.project = world.stores.project := by
  cases stepped with
  | reply _ resumed => exact resumed.sameAccess.project

/-- In every run whose creations find their projects, every canister has a stored project. -/
theorem canisterProjectsExist_of_repliesFindProject
    {world : World}
    (reachable :
      MessageRun.Reachable World.serviceStep RepliesFindProject World.empty world) :
    world.CanisterProjectsExist := by
  have base : World.empty.CanisterProjectsExist := by
    intro canisterId projectId belongs
    simp [World.empty, Stores.empty, CanisterState.empty, CanisterState.getCanisterProjectId]
      at belongs
  refine reachable.invariant base ?_
  intro before event after earlier exist found served canisterId projectId belongs
  have reached : before.Reachable := earlier.loosen fun _ _ _ => trivial
  have stepped := World.serviceStep_cases served
  rcases stepped.canisterChange.project_known belongs with
    ⟨other, known⟩ | ⟨now, index, operation, principal, rfl, waiting, called, rfl⟩
  · exact
      (stepped.projectChange reached.sound).isSome_getProject reached.canistersPlaced known
        (exist other projectId known)
  · rw [stepped.project_of_reply]
    exact found now index operation principal rfl waiting called

end Projects

section LateReply

open TextualHost

attribute [local instance] host

/-- An active founder has a second project and the creation of a canister in flight for it. -/
def secondProject : List Event :=
  [.message (callBy founder) .createMyUserProfile,
    .message (callBy operator) (.adminUpdateUserProfile (idText 0) (some .active)),
    .message (callBy founder) (.createProject (idText 1) "Second"),
    .message (callBy founder) (.createProposal (idText 6) (some .createCanister))]

/-- The management canister's reply to the creation. -/
def secondProjectReply : Event :=
  .reply 1700000000000000000 0 (.canisterCreated (principal 7))

/-- The reply arrives while the project is there. -/
def timelyReply : Execution World.endpointStep World.empty :=
  admittedRun (secondProject ++ [secondProjectReply]) secondProjectReply (by decide +kernel)

/-- The project is deleted before the reply arrives. -/
def lateReply : Execution World.endpointStep World.empty :=
  admittedRun
    (secondProject ++ [.message (callBy founder) (.deleteProject (idText 6)), secondProjectReply])
    secondProjectReply (by decide +kernel)

/-- A message finds whatever it is to find. -/
private theorem repliesFindProject_message
    {world : World}
    {call : Call}
    {request : Request} :
    RepliesFindProject world (.message call request) := by
  intro now index operation principal asked
  cases asked

/-- A reply that arrives in time gives the project a canister. -/
theorem canisterProjectsExist_timelyReply :
    (timelyReply.state 5).CanisterProjectsExist := by
  refine
    canisterProjectsExist_of_repliesFindProject
      (World.Reachable.of_endpoints
        (timelyReply.reachable_of_permitted (by decide : 5 ≤ 5) ?_))
  have found : RepliesFindProject (timelyReply.state 4) secondProjectReply := by
    intro now index operation principal asked waiting _
    cases asked
    have creating :
        (timelyReply.state 4).inFlight[0]? =
          some (.operation ⟨.createProposal, ⟨draw 6⟩, ⟨draw 7⟩, .createCanister⟩) := by
      decide +kernel
    cases creating.symm.trans waiting
    decide +kernel
  intro time early
  match time, early with
  | 0, _ | 1, _ | 2, _ | 3, _ => exact repliesFindProject_message
  | 4, _ => exact found

/-- A canister created for a deleted project belongs to no stored project. -/
theorem lateReply_breaks_canisterProjectsExist :
    ∃ world,
      MessageRun.Reachable World.endpointStep (fun _ _ => True) World.empty world ∧
        ¬world.CanisterProjectsExist := by
  refine ⟨lateReply.state 6, lateReply.reachable (by decide : 6 ≤ 6), fun exist => ?_⟩
  have recorded :
      (lateReply.state 6).stores.canister.getCanisterProjectId ⟨draw 8⟩ = some ⟨draw 6⟩ := by
    decide +kernel
  have gone :
      ((lateReply.state 6).stores.project.getProject ⟨draw 6⟩).isSome = false := by
    decide +kernel
  have stored := exist ⟨draw 8⟩ ⟨draw 6⟩ recorded
  rw [gone] at stored
  cases stored

end LateReply

end SsnConsole.Backend
