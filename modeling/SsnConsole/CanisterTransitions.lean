import SsnConsole.ChildAdoption

/-!
# What one event does to the canisters

Canister records are written by two canister operations, by the reports of the
canister history and by the replies of the management canister.  Every other
event leaves the canister stores alone.
-/

namespace SsnConsole.Backend

open Std (ExtTreeMap)
open SsnConsole.MessageRun
open SsnConsole.StableIndex

/-- The canister and orphan stores are untouched. -/
structure SameCanisters (s after : Stores) : Prop where
  canister : after.canister = s.canister
  orphanedCanister : after.orphanedCanister = s.orphanedCanister
  drawn : s.drawn ≤ after.drawn

/-- A soft deletion marks a record of the project and moves its row. -/
theorem CanisterState.softDeleteCanister_eq_some
    {state deleted : CanisterState}
    {projectId : ProjectId}
    {canisterId : CanisterId}
    {now : Nat}
    (accepted : state.softDeleteCanister projectId canisterId now = some deleted) :
    ∃ stored,
      state.getCanister canisterId = some stored ∧
        (projectId, canisterId) ∈ state.activeProjectCanisterIndex ∧
          deleted =
            { state with
              canisters :=
                state.canisters.insert canisterId { stored with deletedAt := some now }
              activeProjectCanisterIndex :=
                state.activeProjectCanisterIndex.erase (projectId, canisterId)
              deletedProjectCanisterIndex :=
                state.deletedProjectCanisterIndex.insert (projectId, canisterId) } := by
  unfold softDeleteCanister at accepted
  split at accepted
  · rename_i active
    obtain ⟨stored, found, rfl⟩ := Option.map_eq_some_iff.mp accepted
    exact ⟨stored, found, Std.ExtTreeSet.mem_iff_contains.mpr active, rfl⟩
  · cases accepted

/-- A renaming replaces a record's name. -/
theorem CanisterState.updateCanisterName_eq_some
    {state renamed : CanisterState}
    {canisterId : CanisterId}
    {name : Option String}
    (accepted : state.updateCanisterName canisterId name = some renamed) :
    ∃ stored,
      state.getCanister canisterId = some stored ∧
        renamed =
          { state with
            canisters := state.canisters.insert canisterId { stored with name := name } } := by
  obtain ⟨stored, found, rfl⟩ := Option.map_eq_some_iff.mp accepted
  exact ⟨stored, found, rfl⟩

variable [Host]

/-- Every way in which an event changes the canister stores. -/
inductive World.CanisterChange (world : World) : Event → Stores → Prop
  | same
      {event : Event}
      {after : Stores}
      (same : SameCanisters world.stores after) :
      World.CanisterChange world event after
  | remove
      {call : Call}
      {canisterText : String}
      {projectId : ProjectId}
      {canisterId : CanisterId}
      {deleted : CanisterState}
      (removed :
        world.stores.canister.softDeleteCanister projectId canisterId call.now = some deleted) :
      World.CanisterChange world (.message call (.removeMyCanister canisterText))
        { world.stores with canister := deleted }
  | rename
      {call : Call}
      {canisterText : String}
      {text name : Option String}
      {canisterId : CanisterId}
      {renamed : CanisterState}
      (changed : world.stores.canister.updateCanisterName canisterId name = some renamed) :
      World.CanisterChange world (.message call (.updateMyCanisterName canisterText text))
        { world.stores with canister := renamed }
  | report
      {call : Call}
      {mappings : List Dto.ParentChildMapping} :
      World.CanisterChange world (.message call (.addChildCanisters mappings))
        (mappings.foldl CanisterService.addChildCanister world.stores)
  | record
      {now index : Nat}
      {operation : OperationInFlight}
      {principal : Principal}
      (waiting : world.inFlight[index]? = some (.operation operation))
      (called : operation.call = .createCanister) :
      World.CanisterChange world (.reply now index (.canisterCreated principal))
        ((CanisterService.recordCanister operation.projectId world.stores
          principal).overwriteStatus operation.proposalId .executed now)

/-- The start of an execution leaves the canisters alone. -/
theorem ExecutionStart.sameCanisters
    {origin : ExecutionOrigin}
    {now : Nat}
    {projectId : ProjectId}
    {proposalId : ProposalId}
    {s after : Stores}
    {operation : ProposalOperation}
    {progress : Progress}
    (start : ExecutionStart origin now projectId proposalId s operation progress after) :
    SameCanisters s after := by
  cases start with
  | awaitCreation _ | quotaExceeded _ | awaitStatus =>
      exact ⟨rfl, rfl, le_refl _⟩

/-- The proposal operations leave the canisters alone. -/
theorem ProposalWrite.sameCanisters
    {call : Call}
    {s after : Stores}
    {request : Request}
    {result : Except ApiError Slot}
    (write : ProposalWrite call s request result after) :
    SameCanisters s after := by
  cases write with
  | leaveOpen _ _ _ | awaitApproval _ _ _ _ _ =>
      exact ⟨rfl, rfl, Nat.le_succ _⟩
  | recordVote _ _ _ _ | cancel _ _ _ _ _ =>
      exact ⟨rfl, rfl, le_refl _⟩
  | executeNew _ _ _ start _ =>
      have same := start.sameCanisters
      exact ⟨same.canister, same.orphanedCanister, (Nat.le_succ _).trans same.drawn⟩
  | executeApproved _ _ _ _ start _ =>
      have same := start.sameCanisters
      exact ⟨same.canister, same.orphanedCanister, same.drawn⟩

/-- An event changes the canister stores in one of these ways. -/
theorem World.Stepped.canisterChange
    {world after : World}
    {event : Event}
    (stepped : world.Stepped event after) :
    world.CanisterChange event after.stores := by
  cases stepped with
  | message handled =>
      cases handled.operates with
      | elsewhere same _ =>
          exact .same ⟨same.canister, same.orphanedCanister, same.drawn⟩
      | proposal write =>
          exact .same write.sameCanisters
      | canister write =>
          cases write with
          | removeMyCanister _ _ deleted =>
              exact .remove deleted
          | updateMyCanisterName _ _ renamed =>
              exact .rename renamed
          | startMyCanister _ _ _ | stopMyCanister _ _ _ =>
              exact .same ⟨rfl, rfl, le_refl _⟩
          | addChildCanisters =>
              exact .report
  | reply waiting resumed =>
      cases resumed with
      | recordCanister called =>
          exact .record waiting called
      | fail _ | settingsUpdated _ | updateSettings _ _ | commandAnswered =>
          exact .same ⟨rfl, rfl, le_refl _⟩

/-- Every event keeps the indexes in agreement. -/
theorem World.CanisterChange.canistersIndexed
    {world : World}
    {event : Event}
    {after : Stores}
    (change : world.CanisterChange event after)
    (indexed : world.stores.CanistersIndexed) :
    after.CanistersIndexed := by
  cases change with
  | same same =>
      refine indexed.of_same same.canister ?_ same.drawn
      rw [same.orphanedCanister]
      exact indexed.orphans
  | @remove call _ _ _ _ removed =>
      obtain ⟨stored, found, -, rfl⟩ := CanisterState.softDeleteCanister_eq_some removed
      exact
        indexed.replaceRecord { stored with deletedAt := some call.now } found rfl rfl rfl rfl
          rfl rfl
  | @rename _ _ _ name _ _ changed =>
      obtain ⟨stored, found, rfl⟩ := CanisterState.updateCanisterName_eq_some changed
      exact indexed.replaceRecord { stored with name := name } found rfl rfl rfl rfl rfl rfl
  | @report _ mappings =>
      exact
        List.foldlRecOn mappings CanisterService.addChildCanister indexed
          fun _ earlier mapping _ => earlier.addChildCanister mapping
  | record _ _ =>
      exact indexed.recordCanister.of_same rfl indexed.orphans (le_refl _)

/-- The canister indexes of the world agree with its records. -/
def World.CanistersIndexed (world : World) : Prop :=
  world.stores.CanistersIndexed

/-- The canister indexes agree with the records in every reachable world. -/
theorem World.Reachable.canistersIndexed
    {world : World}
    (reachable : world.Reachable) :
    world.CanistersIndexed := by
  have base : World.empty.CanistersIndexed := Stores.CanistersIndexed.empty
  refine reachable.invariant base ?_
  intro before event after _ indexed _ stepped
  exact (World.serviceStep_cases stepped).canisterChange.canistersIndexed indexed

end SsnConsole.Backend
