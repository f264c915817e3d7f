import SsnConsole.CanisterPlacement
import SsnConsole.AdoptionOrder
import SsnConsole.EndpointRuns
import SsnConsole.ProposalLifecycle
import SsnConsole.TextualHost

/-!
# Whose controllers a proposal changes

The canister of a controller change is named by the request that creates the
proposal, and nothing compares it with the project later.  The calls in flight
change the controllers of their own project's canisters only, in the runs whose
proposals name such canisters when they are created.
-/

namespace SsnConsole.Backend

open SsnConsole.MessageRun
open SsnConsole.MessageSlice
open SsnConsole.StableIndex

/-- The canister whose controllers a call reads or changes. -/
def OperationCall.controlled : OperationCall → Option Principal
  | .canisterStatus canisterId _ | .updateSettings canisterId _ _ => some canisterId
  | .createCanister => none

/-- A proposal of the project with this operation is stored. -/
def Stores.Proposes (s : Stores) (proposalId : ProposalId) (projectId : ProjectId)
    (operation : ProposalOperation) : Prop :=
  ∃ proposal,
    s.proposal.getProposal proposalId = some proposal ∧ proposal.projectId = projectId ∧
      proposal.operation = operation

/-- Every controller change in flight is for a canister of its proposal's project. -/
def World.ControllersConfined (world : World) : Prop :=
  ∀ waiting principal,
    .operation waiting ∈ world.inFlight → waiting.call.controlled = some principal →
      (∃ operation,
          world.stores.Proposes waiting.proposalId waiting.projectId operation) ∧
        world.stores.Tracks principal waiting.projectId

section Confinement

variable [Host]
variable {s after : Stores} {proposalId : ProposalId} {projectId : ProjectId}
variable {operation : ProposalOperation}

/-- A message that may create a controller change names a canister of the project. -/
def NamesOwnCanister (world : World) (event : Event) : Prop :=
  ∀ call projectText canisterId controllerId projectId auth,
    event =
        .message call
          (.createProposal projectText (some (.addCanisterController canisterId controllerId))) →
      Id.tryFrom projectText = .ok projectId →
        ProjectAuth.require call.caller projectId ProjectPermissions.PROPOSAL_CREATE
            world.stores = .ok auth →
          world.stores.Tracks canisterId projectId

omit [Host] in
/-- Equal proposal stores propose the same. -/
theorem Stores.proposes_of_same
    (same : after.proposal = s.proposal) :
    after.Proposes proposalId projectId operation ↔
      s.Proposes proposalId projectId operation := by
  unfold Proposes
  rw [same]

omit [Host] in
/-- A new status keeps the projects and operations of the proposals. -/
theorem Stores.proposes_overwriteStatus
    {overwritten : ProposalId}
    {status : ProposalStatus}
    {now : Nat} :
    (s.overwriteStatus overwritten status now).Proposes proposalId projectId operation ↔
      s.Proposes proposalId projectId operation := by
  unfold Proposes Stores.overwriteStatus
  simp only [ProposalState.getProposal_overwriteStatus]
  by_cases same : proposalId = overwritten
  · subst same
    rw [if_pos rfl]
    cases s.proposal.getProposal proposalId with
    | none => simp
    | some proposal => simp [Proposal.withStatus]
  · rw [if_neg same]

/-- The projects and operations of the proposals after one more. -/
theorem Stores.proposes_proposing
    {auth : ProjectAuth}
    {newProject : ProjectId}
    {newOperation : ProposalOperation}
    {now : Nat} :
    (s.proposing newProject (openProposal auth newProject newOperation) now).Proposes proposalId
        projectId operation ↔
      if proposalId = s.nextId then newProject = projectId ∧ newOperation = operation
      else s.Proposes proposalId projectId operation := by
  have lookup :
      (s.proposing newProject (openProposal auth newProject newOperation)
            now).proposal.getProposal proposalId =
        if proposalId = s.nextId then
          some
            { openProposal auth newProject newOperation with
              createdAtNanos := some now, updatedAtNanos := some now }
        else s.proposal.getProposal proposalId :=
    getElem?_insert_entry
  unfold Proposes
  rw [lookup]
  split
  · simp [openProposal]
  · rfl

/-- The start of an execution keeps the projects and operations of the proposals. -/
theorem ExecutionStart.proposes
    {origin : ExecutionOrigin}
    {now : Nat}
    {started : ProposalId}
    {startedProject : ProjectId}
    {startedOperation : ProposalOperation}
    {progress : Progress}
    (start : ExecutionStart origin now startedProject started s startedOperation progress after) :
    after.Proposes proposalId projectId operation ↔
      s.Proposes proposalId projectId operation := by
  cases start with
  | awaitCreation _ | awaitStatus =>
      exact Stores.proposes_overwriteStatus
  | quotaExceeded _ =>
      exact Stores.proposes_overwriteStatus.trans Stores.proposes_overwriteStatus

/-- The call that an execution waits for is made for its proposal. -/
theorem ExecutionStart.controlled
    {origin : ExecutionOrigin}
    {now : Nat}
    {progress : Progress}
    {slot : Slot}
    {waiting : OperationInFlight}
    {principal : Principal}
    (start : ExecutionStart origin now projectId proposalId s operation progress after)
    (answer : progress.Answers slot)
    (suspended : .operation waiting ∈ slot.suspended)
    (controls : waiting.call.controlled = some principal) :
    waiting.proposalId = proposalId ∧ waiting.projectId = projectId ∧
      ∃ controllerId, operation = .addCanisterController principal controllerId := by
  cases start with
  | awaitCreation _ =>
      cases answer
      cases List.mem_singleton.mp suspended
      cases controls
  | quotaExceeded _ =>
      cases answer
      cases suspended
  | @awaitStatus canisterId controllerId =>
      cases answer
      cases List.mem_singleton.mp suspended
      cases controls
      exact ⟨rfl, rfl, controllerId, rfl⟩

/-- Where the proposals and the controller changes of a world come from. -/
structure World.ProposalOrigins (before : World) (event : Event) (after : World) : Prop where
  kept :
    ∀ proposalId projectId operation,
      before.stores.Proposes proposalId projectId operation →
        after.stores.Proposes proposalId projectId operation
  origin :
    ∀ proposalId projectId operation,
      after.stores.Proposes proposalId projectId operation →
        before.stores.Proposes proposalId projectId operation ∨
          ∃ (call : Call) (projectText : String) (requested : Option Dto.ProposalOperation)
            (auth : ProjectAuth),
            event = .message call (.createProposal projectText requested) ∧
              mapCreateProposalRequest projectText requested = .ok (projectId, operation) ∧
                auth.Granted call.caller projectId ProjectPermissions.PROPOSAL_CREATE
                  before.stores
  calls :
    ∀ waiting principal,
      .operation waiting ∈ after.inFlight → waiting.call.controlled = some principal →
        (∃ earlier,
            .operation earlier ∈ before.inFlight ∧
              earlier.proposalId = waiting.proposalId ∧
                earlier.projectId = waiting.projectId ∧
                  earlier.call.controlled = some principal) ∨
          ∃ controllerId,
            after.stores.Proposes waiting.proposalId waiting.projectId
              (.addCanisterController principal controllerId)

namespace World.ProposalOrigins

variable {before : World} {event : Event}

/-- Nothing comes from anywhere if proposals and controller changes stay. -/
theorem of_same
    {after : World}
    (same :
      ∀ proposalId projectId operation,
        after.stores.Proposes proposalId projectId operation ↔
          before.stores.Proposes proposalId projectId operation)
    (calls :
      ∀ waiting principal,
        .operation waiting ∈ after.inFlight → waiting.call.controlled = some principal →
          ∃ earlier,
            .operation earlier ∈ before.inFlight ∧
              earlier.proposalId = waiting.proposalId ∧
                earlier.projectId = waiting.projectId ∧
                  earlier.call.controlled = some principal) :
    before.ProposalOrigins event after where
  kept proposalId projectId operation := (same proposalId projectId operation).mpr
  origin proposalId projectId operation proposed :=
    .inl ((same proposalId projectId operation).mp proposed)
  calls waiting principal listed controls := .inl (calls waiting principal listed controls)

/-- A message that suspends no operation and keeps the proposals keeps the origins. -/
theorem of_answered
    {stores : Stores}
    {suspended : List InFlight}
    (same :
      ∀ proposalId projectId operation,
        stores.Proposes proposalId projectId operation ↔
          before.stores.Proposes proposalId projectId operation)
    (answered : ∀ waiting, .operation waiting ∉ suspended) :
    before.ProposalOrigins event ⟨stores, before.inFlight ++ suspended⟩ := by
  refine of_same same ?_
  intro waiting principal listed controls
  rcases List.mem_append.mp listed with earlier | new
  · exact ⟨waiting, earlier, rfl, rfl, controls⟩
  · exact (answered waiting new).elim

/-- A created proposal comes from its request, and its execution calls as it says. -/
theorem of_created
    {call : Call}
    {projectText : String}
    {requested : Option Dto.ProposalOperation}
    {auth : ProjectAuth}
    {inFlight suspended : List InFlight}
    (absent : s.proposalStatus s.nextId = none)
    (parsed : mapCreateProposalRequest projectText requested = .ok (projectId, operation))
    (granted :
      auth.Granted call.caller projectId ProjectPermissions.PROPOSAL_CREATE s)
    (proposes :
      ∀ other otherProject otherOperation,
        after.Proposes other otherProject otherOperation ↔
          if other = s.nextId then projectId = otherProject ∧ operation = otherOperation
          else s.Proposes other otherProject otherOperation)
    (calls :
      ∀ waiting principal,
        .operation waiting ∈ suspended → waiting.call.controlled = some principal →
          waiting.proposalId = s.nextId ∧ waiting.projectId = projectId ∧
            ∃ controllerId, operation = .addCanisterController principal controllerId) :
    World.ProposalOrigins ⟨s, inFlight⟩ (.message call (.createProposal projectText requested))
      ⟨after, inFlight ++ suspended⟩ where
  kept other otherProject otherOperation proposed := by
    refine (proposes other otherProject otherOperation).mpr ?_
    have distinct : other ≠ s.nextId := by
      rintro rfl
      obtain ⟨proposal, stored, -⟩ := proposed
      have noProposal := Option.map_eq_none_iff.mp absent
      cases noProposal.symm.trans stored
    rw [if_neg distinct]
    exact proposed
  origin other otherProject otherOperation proposed := by
    have created := (proposes other otherProject otherOperation).mp proposed
    split at created
    · obtain ⟨rfl, rfl⟩ := created
      exact .inr ⟨call, projectText, requested, auth, rfl, parsed, granted⟩
    · exact .inl created
  calls waiting principal listed controls := by
    rcases List.mem_append.mp listed with earlier | new
    · exact .inl ⟨waiting, earlier, rfl, rfl, controls⟩
    · obtain ⟨sameProposal, sameProject, controllerId, rfl⟩ :=
        calls waiting principal new controls
      refine .inr ⟨controllerId, (proposes _ _ _).mpr ?_⟩
      rw [if_pos sameProposal]
      exact ⟨sameProject.symm, rfl⟩

end World.ProposalOrigins

/-- The proposal operations add proposals as asked, and call as their proposals say. -/
theorem ProposalWrite.proposalOrigins
    {call : Call}
    {request : Request}
    {result : Except ApiError Slot}
    {inFlight : List InFlight}
    (write : ProposalWrite call s request result after)
    (absent : s.proposalStatus s.nextId = none) :
    World.ProposalOrigins ⟨s, inFlight⟩ (.message call request)
      ⟨after, inFlight ++ suspendedBy (result.mapError .api)⟩ := by
  have nothing :
      ∀ waiting principal,
        InFlight.operation waiting ∈ ([] : List InFlight) →
          waiting.call.controlled = some principal → False := by
    intro waiting principal listed
    cases listed
  cases write with
  | leaveOpen parsed granted _ =>
      refine .of_created absent parsed granted (fun _ _ _ => Stores.proposes_proposing) ?_
      exact fun waiting principal listed controls =>
        (nothing waiting principal listed controls).elim
  | awaitApproval parsed granted _ _ _ =>
      refine
        .of_created absent parsed granted
          (fun _ _ _ => Stores.proposes_overwriteStatus.trans Stores.proposes_proposing) ?_
      exact fun waiting principal listed controls =>
        (nothing waiting principal listed controls).elim
  | executeNew parsed granted _ start answer =>
      exact
        .of_created absent parsed granted
          (fun _ _ _ => start.proposes.trans Stores.proposes_proposing)
          fun waiting principal listed controls => start.controlled answer listed controls
  | recordVote _ _ _ _ | cancel _ _ _ _ _ =>
      exact .of_answered (fun _ _ _ => Stores.proposes_overwriteStatus) fun _ => List.not_mem_nil
  | @executeApproved _ _ votedId _ _ proposal _ _ _ _ _ _ _ _ accepted _ start answer =>
      have same :
          ∀ other otherProject otherOperation,
            after.Proposes other otherProject otherOperation ↔
              s.Proposes other otherProject otherOperation :=
        fun _ _ _ => start.proposes.trans Stores.proposes_overwriteStatus
      refine
        { kept := fun _ _ _ => (same _ _ _).mpr
          origin := fun _ _ _ proposed => .inl ((same _ _ _).mp proposed)
          calls := ?_ }
      intro waiting principal listed controls
      rcases List.mem_append.mp listed with earlier | new
      · exact .inl ⟨waiting, earlier, rfl, rfl, controls⟩
      · obtain ⟨sameProposal, sameProject, controllerId, controlled⟩ :=
          start.controlled answer new controls
        refine .inr ⟨controllerId, (same _ _ _).mpr ?_⟩
        exact
          ⟨proposal, by rw [sameProposal]; exact accepted.stored, sameProject.symm, controlled⟩

/-- A reply keeps the proposals, and calls on for the proposal that it resumes. -/
theorem Resumption.proposalOrigins
    {now index : Nat}
    {resumed : InFlight}
    {reply : Reply}
    {inFlight suspended : List InFlight}
    (resumption : Resumption now s resumed reply suspended after)
    (waiting : inFlight[index]? = some resumed) :
    World.ProposalOrigins ⟨s, inFlight⟩ (.reply now index reply)
      ⟨after, inFlight.eraseIdx index ++ suspended⟩ := by
  have remaining :
      ∀ call principal,
        .operation call ∈ inFlight.eraseIdx index → call.call.controlled = some principal →
          ∃ earlier,
            .operation earlier ∈ inFlight ∧ earlier.proposalId = call.proposalId ∧
              earlier.projectId = call.projectId ∧ earlier.call.controlled = some principal :=
    fun call principal listed controls =>
      ⟨call, List.mem_of_mem_eraseIdx listed, rfl, rfl, controls⟩
  have ended :
      ∀ {stores : Stores},
        (∀ other otherProject otherOperation,
            stores.Proposes other otherProject otherOperation ↔
              s.Proposes other otherProject otherOperation) →
          World.ProposalOrigins ⟨s, inFlight⟩ (.reply now index reply)
            ⟨stores, inFlight.eraseIdx index ++ []⟩ := by
    intro stores same
    refine .of_same same ?_
    simpa using remaining
  cases resumption with
  | recordCanister _ | fail _ | settingsUpdated _ =>
      exact ended fun _ _ _ => Stores.proposes_overwriteStatus
  | commandAnswered =>
      exact ended fun _ _ _ => Iff.rfl
  | @updateSettings operation canisterId _ _ called _ =>
      refine .of_same (fun _ _ _ => Iff.rfl) ?_
      intro call principal listed controls
      rcases List.mem_append.mp listed with earlier | new
      · exact remaining call principal earlier controls
      · cases List.mem_singleton.mp new
        refine ⟨operation, List.mem_of_getElem? waiting, rfl, rfl, ?_⟩
        rw [called]
        exact controls

/-- An event keeps the origins of proposals and controller changes. -/
theorem World.Stepped.proposalOrigins
    {world next : World}
    {event : Event}
    (stepped : world.Stepped event next)
    (absent : world.stores.proposalStatus world.stores.nextId = none) :
    world.ProposalOrigins event next := by
  cases stepped with
  | message handled =>
      cases handled.operates with
      | elsewhere same answered =>
          rw [answered]
          exact
            .of_answered (fun _ _ _ => Stores.proposes_of_same same.proposal) fun _ =>
              List.not_mem_nil
      | proposal write =>
          exact write.proposalOrigins absent
      | canister write =>
          refine .of_answered (fun _ _ _ => Stores.proposes_of_same write.sameProposals) ?_
          intro waiting listed
          have noOperation :=
            List.countP_eq_zero.mp (write.executes_nothing waiting.proposalId) _ listed
          simp [InFlight.executes] at noOperation
  | reply waiting resumed =>
      exact resumed.proposalOrigins waiting

section Tracking

variable {principal : Principal}

omit [Host] in
/-- A principal stays tracked if its records and their projects stay. -/
theorem Stores.Tracks.of_records
    (tracks : s.Tracks principal projectId)
    (records :
      ∀ canisterId canister,
        s.canister.getCanister canisterId = some canister →
          ∃ kept,
            after.canister.getCanister canisterId = some kept ∧
              kept.principal = canister.principal)
    (projects :
      ∀ canisterId,
        s.canister.getCanisterProjectId canisterId = some projectId →
          after.canister.getCanisterProjectId canisterId = some projectId) :
    after.Tracks principal projectId := by
  obtain ⟨canisterId, canister, stored, rfl, belongs⟩ := tracks
  obtain ⟨kept, storedAfter, same⟩ := records canisterId canister stored
  exact ⟨canisterId, kept, storedAfter, same, projects canisterId belongs⟩

omit [Host] in
/-- A principal stays tracked if a record is replaced by one of the same principal. -/
theorem Stores.Tracks.replaceRecord
    {replaced : CanisterId}
    {old : Canister}
    (new : Canister)
    (tracks : s.Tracks principal projectId)
    (found : s.canister.getCanister replaced = some old)
    (same : new.principal = old.principal)
    (records : after.canister.canisters = s.canister.canisters.insert replaced new)
    (projects : after.canister.canisterProjectIndex = s.canister.canisterProjectIndex) :
    after.Tracks principal projectId := by
  refine tracks.of_records ?_ ?_
  · intro canisterId canister stored
    have lookup :
        after.canister.getCanister canisterId =
          if canisterId = replaced then some new else s.canister.getCanister canisterId := by
      rw [CanisterState.getCanister, records]
      exact getElem?_insert_entry
    by_cases isReplaced : canisterId = replaced
    · subst isReplaced
      cases found.symm.trans stored
      exact ⟨new, lookup.trans (if_pos rfl), same⟩
    · exact ⟨canister, (lookup.trans (if_neg isReplaced)).trans stored, rfl⟩
  · intro canisterId belongs
    rw [CanisterState.getCanisterProjectId, projects]
    exact belongs

/-- Recording a canister keeps the others tracked. -/
theorem Stores.Tracks.recordCanister
    {recordedProject : ProjectId}
    {recorded : Principal}
    (tracks : s.Tracks principal projectId)
    (placed : s.CanistersPlaced) :
    (CanisterService.recordCanister recordedProject s recorded).Tracks principal projectId := by
  obtain ⟨canisterId, canister, stored, rfl, belongs⟩ := tracks
  have distinct : canisterId ≠ s.nextId := by
    rintro rfl
    cases (placed.fresh s.drawn (le_refl _)).symm.trans belongs
  refine ⟨canisterId, canister, ?_, rfl, ?_⟩
  · rw [CanisterService.getCanister_recordCanister, if_neg distinct]
    exact stored
  · rw [CanisterService.getCanisterProjectId_recordCanister, if_neg distinct]
    exact belongs

/-- What a project tracks, it tracks after any event. -/
theorem World.CanisterChange.tracks
    {world : World}
    {event : Event}
    (change : world.CanisterChange event after)
    (placed : world.stores.CanistersPlaced)
    (tracks : world.stores.Tracks principal projectId) :
    after.Tracks principal projectId := by
  cases change with
  | same same =>
      refine tracks.of_records ?_ ?_
      · rw [same.canister]
        exact fun _ canister stored => ⟨canister, stored, rfl⟩
      · rw [same.canister]
        exact fun _ belongs => belongs
  | @remove call _ _ _ _ removed =>
      obtain ⟨old, found, -, rfl⟩ := CanisterState.softDeleteCanister_eq_some removed
      exact
        Stores.Tracks.replaceRecord { old with deletedAt := some call.now } tracks found rfl rfl
          rfl
  | @rename _ _ _ name _ _ changed =>
      obtain ⟨old, found, rfl⟩ := CanisterState.updateCanisterName_eq_some changed
      exact Stores.Tracks.replaceRecord { old with name := name } tracks found rfl rfl rfl
  | @report _ mappings =>
      have both :=
        @CanisterService.addChildCanisters_induction _
          (fun reached => reached.CanistersPlaced ∧ reached.Tracks principal projectId)
          mappings world.stores
          (fun _ _ _ _ holds _ => ⟨holds.1.recordCanister, holds.2.recordCanister holds.1⟩)
          (fun _ _ holds => ⟨holds.1.of_same rfl (le_refl _), holds.2⟩) ⟨placed, tracks⟩
      exact both.2
  | record _ _ =>
      exact tracks.recordCanister placed

end Tracking

/-- The proposals of a project change the controllers of its own canisters only. -/
structure World.ProposalsConfined (world : World) : Prop where
  proposals :
    ∀ proposalId projectId canisterId controllerId,
      world.stores.Proposes proposalId projectId
          (.addCanisterController canisterId controllerId) →
        world.stores.Tracks canisterId projectId
  calls : world.ControllersConfined

/-- A mapped request asks for the operation that it maps to. -/
private theorem mapCreateProposalRequest_ok
    {projectText : String}
    {requested : Option Dto.ProposalOperation}
    {canisterId controllerId : Principal}
    (parsed :
      mapCreateProposalRequest projectText requested =
        .ok (projectId, .addCanisterController canisterId controllerId)) :
    Id.tryFrom projectText = .ok projectId ∧
      requested = some (.addCanisterController canisterId controllerId) := by
  obtain ⟨parsedId, read, mapped⟩ := bind_eq_ok.mp parsed
  split at mapped <;> cases mapped
  exact ⟨read, rfl⟩

/-- In every run whose proposals name canisters of their project, the calls in flight change
the controllers of canisters of their proposal's project only. -/
theorem controllersConfined_of_namesOwnCanister
    {world : World}
    (reachable :
      MessageRun.Reachable World.serviceStep NamesOwnCanister World.empty world) :
    world.ControllersConfined := by
  have base : World.empty.ProposalsConfined := by
    refine ⟨?_, ?_⟩
    · rintro proposalId projectId canisterId controllerId ⟨proposal, stored, -⟩
      simp [World.empty, Stores.empty, ProposalState.empty, ProposalState.getProposal] at stored
    · intro waiting principal listed
      cases listed
  suffices confined : world.ProposalsConfined from confined.calls
  refine reachable.invariant base ?_
  intro before event after earlier confined named served
  have reached : before.Reachable := earlier.loosen fun _ _ _ => trivial
  have stepped := World.serviceStep_cases served
  have origins := stepped.proposalOrigins reached.proposalsTracked.absent
  have tracks :
      ∀ {principal projectId},
        before.stores.Tracks principal projectId → after.stores.Tracks principal projectId :=
    fun tracks => stepped.canisterChange.tracks reached.canistersPlaced tracks
  have proposals :
      ∀ proposalId projectId canisterId controllerId,
        after.stores.Proposes proposalId projectId
            (.addCanisterController canisterId controllerId) →
          after.stores.Tracks canisterId projectId := by
    intro proposalId projectId canisterId controllerId proposed
    rcases origins.origin proposalId projectId _ proposed with
      before | ⟨call, projectText, requested, auth, rfl, parsed, granted⟩
    · exact tracks (confined.proposals proposalId projectId canisterId controllerId before)
    · obtain ⟨read, rfl⟩ := mapCreateProposalRequest_ok parsed
      have access := granted.require_eq_ok (by decide) granted.needed
      exact tracks (named call projectText canisterId controllerId projectId auth rfl read access)
  refine ⟨proposals, ?_⟩
  intro waiting principal listed controls
  rcases origins.calls waiting principal listed controls with
    ⟨earlier, waited, sameProposal, sameProject, controlled⟩ | ⟨controllerId, proposed⟩
  · obtain ⟨⟨operation, proposed⟩, tracked⟩ := confined.calls earlier principal waited controlled
    rw [sameProposal, sameProject] at proposed
    rw [sameProject] at tracked
    exact ⟨⟨operation, origins.kept _ _ _ proposed⟩, tracks tracked⟩
  · exact ⟨⟨_, proposed⟩, proposals _ _ principal controllerId proposed⟩

end Confinement

section ForeignCanister

open TextualHost

attribute [local instance] host

/-- Two active founders of two organizations; the second one's project has a canister. -/
def foundedCanister : List Event :=
  [.message (callBy founder) .createMyUserProfile,
    .message (callBy colleague) .createMyUserProfile,
    .message (callBy operator) (.adminUpdateUserProfile (idText 0) (some .active)),
    .message (callBy operator) (.adminUpdateUserProfile (idText 6) (some .active)),
    .message (callBy colleague) (.createProposal (idText 9) (some .createCanister)),
    .reply 1700000000000000000 0 (.canisterCreated (principal 7))]

/-- A member of a project proposes to become a controller of the canister. -/
def controllerProposal (member : Principal) (projectText : String) : Event :=
  .message (callBy member)
    (.createProposal projectText (some (.addCanisterController (principal 7) member)))

/-- The canister's own project changes its controllers. -/
def ownCanister : Execution World.endpointStep World.empty :=
  admittedRun (foundedCanister ++ [controllerProposal colleague (idText 9)])
    (controllerProposal colleague (idText 9)) (by decide +kernel)

/-- A project of another organization changes the controllers of the canister. -/
def foreignCanister : Execution World.endpointStep World.empty :=
  admittedRun (foundedCanister ++ [controllerProposal founder (idText 3)])
    (controllerProposal founder (idText 3)) (by decide +kernel)

/-- A controller change in flight that its project may make. -/
theorem controllersConfined_ownCanister :
    (ownCanister.state 7).ControllersConfined := by
  refine
    controllersConfined_of_namesOwnCanister
      (World.Reachable.of_endpoints
        (ownCanister.reachable_of_permitted (by decide : 7 ≤ 7) ?_))
  have own : (ownCanister.state 6).stores.Tracks (principal 7) ⟨draw 9⟩ :=
    ⟨⟨draw 13⟩, CanisterService.newCanister (principal 7), by decide +kernel, rfl,
      by decide +kernel⟩
  intro time early call projectText canisterId controllerId projectId auth asked read _
  match time, early with
  | 0, _ | 1, _ | 2, _ | 3, _ | 4, _ | 5, _ => cases asked
  | 6, _ =>
      cases asked
      have text : Id.tryFrom (idText 9) = .ok (⟨draw 9⟩ : ProjectId) := by
        decide +kernel
      cases text.symm.trans read
      exact own

/-- A project's proposal changes the controllers of a canister of another organization. -/
theorem foreignCanister_breaks_controllersConfined :
    ∃ world,
      MessageRun.Reachable World.endpointStep (fun _ _ => True) World.empty world ∧
        ¬world.ControllersConfined := by
  refine ⟨foreignCanister.state 7, foreignCanister.reachable (by decide : 7 ≤ 7), ?_⟩
  intro confined
  have waiting :
      InFlight.operation
          ⟨.createProposal, ⟨draw 3⟩, ⟨draw 14⟩, .canisterStatus (principal 7) founder⟩ ∈
        (foreignCanister.state 7).inFlight := by
    decide +kernel
  obtain ⟨-, canisterId, canister, -, -, belongs⟩ := confined _ (principal 7) waiting rfl
  have placed : (foreignCanister.state 7).CanistersPlaced :=
    World.Reachable.canistersPlaced
      (World.Reachable.of_endpoints (foreignCanister.reachable (by decide : 7 ≤ 7)))
  exact
    Stores.CanistersPlaced.no_canister placed (by decide +kernel) canisterId belongs

end ForeignCanister

end SsnConsole.Backend
