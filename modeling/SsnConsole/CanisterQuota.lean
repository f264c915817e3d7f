import SsnConsole.CanisterProjects
import SsnConsole.EndpointRuns
import SsnConsole.ForeignResources
import SsnConsole.ProposalMoves
import SsnConsole.TextualHost

/-!
# The canister quota of an organization

The limit of the plan is compared with the active canisters before the call of
the management canister, and the record is made when its reply arrives.  What
stays below the limit is the number of active canisters and of creations in
flight together, in the runs whose creations are started with that room.
-/

namespace SsnConsole.Backend

open SsnConsole.MessageSlice
open SsnConsole.MessageRun
open SsnConsole.StableIndex

variable {s after : Stores} {orgId : OrgId}

/-- An active row under a project of the organization. -/
def Stores.activeFor (s : Stores) (orgId : OrgId) (row : ProjectId × CanisterId) : Bool :=
  decide (s.projectOrganization row.1 = some orgId)

/-- The message in flight creates a canister for a project of the organization. -/
def InFlight.createsFor (s : Stores) (orgId : OrgId) : InFlight → Bool
  | .operation waiting =>
      decide (waiting.call = .createCanister) &&
        decide (s.projectOrganization waiting.projectId = some orgId)
  | .command _ _ => false

/-- How many creations are in flight for the projects of an organization. -/
def World.creationsInFlight (world : World) (orgId : OrgId) : Nat :=
  world.inFlight.countP (InFlight.createsFor world.stores orgId)

/-- Looking up entries that are all there keeps the list of keys. -/
private theorem map_fst_lookups
    {β γ : Type}
    {items : List β}
    {view : β → Option γ}
    (stored : ∀ item ∈ items, (view item).isSome) :
    (items.filterMap fun item => (view item).map fun value => (item, value)).map Prod.fst =
      items := by
  induction items with
  | nil =>
      rfl
  | cons item rest inductionHypothesis =>
      obtain ⟨value, found⟩ := Option.isSome_iff_exists.mp (stored item (by simp))
      have tail := inductionHypothesis fun other member => stored other (by simp [member])
      rw [List.filterMap_cons, found]
      simp only [Option.map_some, List.map_cons, tail]

section Quota

variable [Host]

/-- The active canisters of an organization and the creations in flight for it. -/
def World.quotaLoad (world : World) (orgId : OrgId) : Nat :=
  CanisterService.countActiveCanistersForOrg orgId world.stores + world.creationsInFlight orgId

omit [Host] in
/-- The limit of a plan does not depend on the time. -/
theorem canisterLimit_eq
    (now later : Nat) :
    CanisterService.canisterLimit orgId now s = CanisterService.canisterLimit orgId later s := by
  unfold CanisterService.canisterLimit BillingPlanState.getOrDefault
  cases s.billingPlan.billingPlans[orgId]? <;> rfl

/-- The active canisters of an organization are the active rows of its projects. -/
theorem countActiveCanistersForOrg_eq
    (agree : s.IndexesAgree)
    (indexed : s.CanistersIndexed)
    (placed : s.CanistersPlaced) :
    CanisterService.countActiveCanistersForOrg orgId s =
      countRows s.canister.activeProjectCanisterIndex (s.activeFor orgId) := by
  have owned (projectId : ProjectId) :
      projectId ∈ s.project.listOrgProjectIds orgId ↔
        s.projectOrganization projectId = some orgId :=
    mem_prefixRows.trans agree.projectRow
  have projects :
      (s.project.listOrgProjects orgId).map Prod.fst = s.project.listOrgProjectIds orgId := by
    refine map_fst_lookups fun projectId listed => ?_
    obtain ⟨project, found, -⟩ := Option.map_eq_some_iff.mp ((owned projectId).mp listed)
    exact Option.isSome_of_eq_some found
  have lengths (projectId : ProjectId) :
      (s.canister.listActiveCanistersByProject projectId).length =
        (prefixRows s.canister.activeProjectCanisterIndex projectId).length := by
    rw [← List.length_map Prod.fst, CanisterState.listActiveCanistersByProject,
      map_fst_lookups]
    intro canisterId listed
    have belongs : s.canister.getCanisterProjectId canisterId = some projectId :=
      (placed.rows canisterId projectId).mpr (.inl (mem_prefixRows.mp listed))
    have recorded := indexed.placed canisterId
    rw [belongs] at recorded
    exact recorded.symm
  have summed :
      CanisterService.countActiveCanistersForOrg orgId s =
        ((s.project.listOrgProjectIds orgId).map fun projectId =>
          (prefixRows s.canister.activeProjectCanisterIndex projectId).length).sum := by
    rw [← projects, List.map_map]
    refine congrArg List.sum (List.map_congr_left ?_)
    intro entry _
    exact lengths entry.1
  have distinct : (s.project.listOrgProjectIds orgId).Nodup :=
    nodup_prefixRows _ _
  rw [summed, sum_length_prefixRows _ distinct]
  unfold countRows
  refine List.countP_congr fun row _ => ?_
  simpa [Stores.activeFor] using owned row.1

/-- The projects of canisters and of operations in flight have been drawn. -/
structure World.ProjectsDrawn (world : World) : Prop where
  canisters :
    ∀ canisterId projectId,
      world.stores.canister.getCanisterProjectId canisterId = some projectId →
        Drawn world.stores.drawn projectId
  calls :
    ∀ waiting, InFlight.operation waiting ∈ world.inFlight →
      Drawn world.stores.drawn waiting.projectId

/-- The operation that a started execution leaves suspended is one of its project. -/
theorem ExecutionStart.suspended_eq
    {origin : ExecutionOrigin}
    {now : Nat}
    {projectId : ProjectId}
    {proposalId : ProposalId}
    {operation : ProposalOperation}
    {progress : Progress}
    {slot : Slot}
    (start : ExecutionStart origin now projectId proposalId s operation progress after)
    (answer : progress.Answers slot) :
    slot.suspended = [] ∨
      ∃ waiting : OperationInFlight,
        slot.suspended = [.operation waiting] ∧ waiting.projectId = projectId := by
  cases start with
  | awaitCreation | awaitStatus =>
      cases answer
      exact .inr ⟨_, rfl, rfl⟩
  | quotaExceeded =>
      cases answer
      exact .inl rfl

/-- A proposal operation leaves at most one operation suspended, of a stored project. -/
theorem ProposalWrite.suspended_eq
    {call : Call}
    {request : Request}
    {result : Except ApiError Slot}
    (write : ProposalWrite call s request result after) :
    suspendedBy (result.mapError .api) = [] ∨
      ∃ waiting : OperationInFlight,
        suspendedBy (result.mapError .api) = [.operation waiting] ∧
          (s.project.getProject waiting.projectId).isSome := by
  cases write with
  | leaveOpen | awaitApproval | recordVote | cancel =>
      exact .inl rfl
  | executeNew _ granted _ start answer | executeApproved _ granted _ _ start answer =>
      obtain ⟨project, stored, -⟩ := Option.map_eq_some_iff.mp granted.organization
      rcases start.suspended_eq answer with nothing | ⟨waiting, suspended, sameProject⟩
      · exact .inl nothing
      · refine .inr ⟨waiting, suspended, ?_⟩
        rw [sameProject, stored]
        rfl

/-- What a message leaves suspended: nothing, a command, or an operation of a stored project. -/
theorem Handled.suspended_eq
    {call : Call}
    {request : Request}
    {result : Except Failure Slot}
    (handled : Handled call s request result after) :
    (∀ waiting, InFlight.operation waiting ∉ suspendedBy result) ∨
      ∃ waiting : OperationInFlight,
        suspendedBy result = [.operation waiting] ∧
          (s.project.getProject waiting.projectId).isSome := by
  cases handled with
  | refused | signUp | policy =>
      exact .inl fun _ => List.not_mem_nil
  | membership _ answered | invite _ answered | account _ answered =>
      rw [answered]
      exact .inl fun _ => List.not_mem_nil
  | proposal write =>
      rcases write.suspended_eq with nothing | suspended
      · rw [nothing]
        exact .inl fun _ => List.not_mem_nil
      · exact .inr suspended
  | canister write =>
      left
      intro waiting
      cases write <;> simp [suspendedBy, Slot.suspended]

/-- An operation suspended by an event is of a stored project, or of one that waited before. -/
theorem World.Stepped.waiting_known
    {before after : World}
    {event : Event}
    {waiting : OperationInFlight}
    (stepped : before.Stepped event after)
    (waits : InFlight.operation waiting ∈ after.inFlight) :
    (∃ earlier : OperationInFlight,
      InFlight.operation earlier ∈ before.inFlight ∧ earlier.projectId = waiting.projectId) ∨
      (before.stores.project.getProject waiting.projectId).isSome := by
  cases stepped with
  | message handled =>
      rcases List.mem_append.mp waits with kept | suspended
      · exact .inl ⟨waiting, kept, rfl⟩
      · rcases handled.suspended_eq with none | ⟨started, alone, stored⟩
        · exact (none waiting suspended).elim
        · rw [alone] at suspended
          cases List.mem_singleton.mp suspended
          exact .inr stored
  | reply waited resumed =>
      rcases List.mem_append.mp waits with kept | suspended
      · exact .inl ⟨waiting, List.mem_of_mem_eraseIdx kept, rfl⟩
      · cases resumed with
        | recordCanister | fail | settingsUpdated | commandAnswered =>
            cases suspended
        | updateSettings =>
            cases List.mem_singleton.mp suspended
            exact .inl ⟨_, List.mem_of_getElem? waited, rfl⟩

/-- Every event keeps the projects of canisters and operations drawn. -/
theorem World.Stepped.projectsDrawn
    {before after : World}
    {event : Event}
    (stepped : before.Stepped event after)
    (sound : before.stores.Sound)
    (known : before.ProjectsDrawn) :
    after.ProjectsDrawn where
  canisters := by
    intro canisterId projectId belongs
    refine Drawn.mono ?_ (stepped.drawn_le sound)
    rcases stepped.canisterChange.project_known belongs with
      ⟨other, belonged⟩ | ⟨now, index, operation, principal, -, waited, -, rfl⟩
    · exact known.canisters other projectId belonged
    · exact known.calls operation (List.mem_of_getElem? waited)
  calls := by
    intro waiting waits
    refine Drawn.mono ?_ (stepped.drawn_le sound)
    rcases stepped.waiting_known waits with ⟨earlier, waited, sameProject⟩ | stored
    · rw [← sameProject]
      exact known.calls earlier waited
    · exact sound.within.projects _ (Option.isSome_map.trans stored)

/-- The projects of canisters and operations are drawn in every reachable world. -/
theorem World.Reachable.projectsDrawn
    {world : World}
    (reachable : world.Reachable) :
    world.ProjectsDrawn := by
  have base : World.empty.ProjectsDrawn := by
    constructor
    · intro canisterId projectId belongs
      simp [World.empty, Stores.empty, CanisterState.empty,
        CanisterState.getCanisterProjectId] at belongs
    · intro waiting waits
      cases waits
  refine reachable.invariant base ?_
  intro before event after earlier known _ stepped
  exact (World.serviceStep_cases stepped).projectsDrawn (World.Reachable.sound earlier) known

omit [Host] in
/-- The organization's active rows, and its creations in flight. -/
def World.load (world : World) (orgId : OrgId) : Nat :=
  countRows world.stores.canister.activeProjectCanisterIndex (world.stores.activeFor orgId) +
    world.creationsInFlight orgId

/-- A project drawn before an event does not enter an organization by it. -/
theorem ProjectChange.projectOrganization_before
    {projectId : ProjectId}
    (change : ProjectChange s after)
    (known : Drawn s.drawn projectId)
    (owned : after.projectOrganization projectId = some orgId) :
    s.projectOrganization projectId = some orgId := by
  have ownedAfter : after.graph.projectOrg projectId = some orgId := owned
  suffices ownedBefore : s.graph.projectOrg projectId = some orgId from ownedBefore
  cases change with
  | keep same =>
      rwa [same] at ownedAfter
  | @create index _ fresh _ _ others =>
      have distinct : projectId ≠ ⟨Host.draw index⟩ := by
        rintro rfl
        have earlier := drawn_draw.mp known
        omega
      rwa [others projectId distinct] at ownedAfter
  | @delete deletedId _ deleted others =>
      by_cases same : projectId = deletedId
      · rw [same, deleted] at ownedAfter
        cases ownedAfter
      · rwa [others projectId same] at ownedAfter

/-- Fewer rows of fewer projects are fewer active canisters. -/
private theorem countRows_activeFor_le
    (placed : s.CanistersPlaced)
    (known :
      ∀ canisterId projectId, s.canister.getCanisterProjectId canisterId = some projectId →
        Drawn s.drawn projectId)
    (owned :
      ∀ projectId, Drawn s.drawn projectId → after.projectOrganization projectId = some orgId →
        s.projectOrganization projectId = some orgId)
    (subset :
      ∀ row, row ∈ after.canister.activeProjectCanisterIndex →
        row ∈ s.canister.activeProjectCanisterIndex) :
    countRows after.canister.activeProjectCanisterIndex (after.activeFor orgId) ≤
      countRows s.canister.activeProjectCanisterIndex (s.activeFor orgId) := by
  refine (countRows_le_of_subset subset).trans (countRows_mono ?_)
  rintro ⟨projectId, canisterId⟩ active counted
  have belongs : s.canister.getCanisterProjectId canisterId = some projectId :=
    (placed.rows canisterId projectId).mpr (.inl active)
  have ownedAfter : after.projectOrganization projectId = some orgId := of_decide_eq_true counted
  exact decide_eq_true (owned projectId (known canisterId projectId belongs) ownedAfter)

/-- A message other than a report of canisters adds no active row. -/
private theorem activeRows_subset
    {world : World}
    {call : Call}
    {request : Request}
    (change : world.CanisterChange (.message call request) after)
    (noReport : ∀ mappings, request ≠ .addChildCanisters mappings) :
    ∀ row, row ∈ after.canister.activeProjectCanisterIndex →
      row ∈ world.stores.canister.activeProjectCanisterIndex := by
  intro row active
  cases change with
  | same same =>
      rwa [same.canister] at active
  | remove removed =>
      obtain ⟨stored, -, -, rfl⟩ := CanisterState.softDeleteCanister_eq_some removed
      exact (mem_erase_row.mp active).1
  | rename changed =>
      obtain ⟨stored, -, rfl⟩ := CanisterState.updateCanisterName_eq_some changed
      exact active
  | report =>
      exact (noReport _ rfl).elim

/-- A message leaves the load as it is, or adds one creation of the organization. -/
private theorem load_message
    {world : World}
    {call : Call}
    {request : Request}
    {after : World}
    (stepped : world.Stepped (.message call request) after)
    (sound : world.stores.Sound)
    (placed : world.stores.CanistersPlaced)
    (known : world.ProjectsDrawn)
    (noReport : ∀ mappings, request ≠ .addChildCanisters mappings) :
    after.load orgId ≤ world.load orgId ∨
      after.load orgId ≤ world.load orgId + 1 ∧
        ∃ waiting : OperationInFlight,
          after.inFlight = world.inFlight ++ [.operation waiting] ∧
            waiting.call = .createCanister ∧
              world.stores.projectOrganization waiting.projectId = some orgId := by
  have owned (projectId : ProjectId) (drawn : Drawn world.stores.drawn projectId)
      (ownedAfter : after.stores.projectOrganization projectId = some orgId) :
      world.stores.projectOrganization projectId = some orgId :=
    (stepped.projectChange sound).projectOrganization_before drawn ownedAfter
  have rows :=
    countRows_activeFor_le placed known.canisters owned
      (activeRows_subset stepped.canisterChange noReport)
  have calls :
      world.inFlight.countP (InFlight.createsFor after.stores orgId) ≤
        world.inFlight.countP (InFlight.createsFor world.stores orgId) := by
    refine List.countP_mono_left fun waiting listed counted => ?_
    cases waiting with
    | command =>
        cases counted
    | operation waiting =>
        obtain ⟨creates, ownedAfter⟩ := (Bool.and_eq_true_iff).mp counted
        have ownedBefore :=
          owned waiting.projectId (known.calls waiting listed) (of_decide_eq_true ownedAfter)
        exact (Bool.and_eq_true_iff).mpr ⟨creates, decide_eq_true ownedBefore⟩
  cases stepped with
  | @message _ _ result stores handled =>
      unfold World.load World.creationsInFlight
      dsimp only at rows calls ⊢
      rw [List.countP_append]
      by_cases creating :
          (suspendedBy result).countP (InFlight.createsFor stores orgId) = 0
      · left
        rw [creating]
        exact Nat.add_le_add rows calls
      · rcases handled.suspended_eq with none | ⟨waiting, alone, stored⟩
        · refine (creating (List.countP_eq_zero.mpr fun other listed => ?_)).elim
          cases other with
          | command =>
              exact Bool.false_ne_true
          | operation waiting =>
              exact (none waiting listed).elim
        · rw [alone, List.countP_singleton] at creating
          rw [alone, List.countP_singleton]
          by_cases counted : InFlight.createsFor stores orgId (.operation waiting) = true
          · rw [if_pos counted]
            obtain ⟨creates, ownedAfter⟩ := (Bool.and_eq_true_iff).mp counted
            have drawn : Drawn world.stores.drawn waiting.projectId :=
              sound.within.projects _ (Option.isSome_map.trans stored)
            exact
              .inr ⟨by omega, waiting, rfl, of_decide_eq_true creates,
                owned _ drawn (of_decide_eq_true ownedAfter)⟩
          · rw [if_neg counted] at creating
            exact (creating rfl).elim

/-- A reply leaves the load as it is, or lowers it. -/
private theorem load_reply
    {world : World}
    {now index : Nat}
    {reply : Reply}
    {after : World}
    (stepped : world.Stepped (.reply now index reply) after)
    (placed : world.stores.CanistersPlaced) :
    after.load orgId ≤ world.load orgId := by
  cases stepped with
  | @reply _ _ _ resumedMessage suspended stores waiting resumed =>
      have counts := countP_resume (InFlight.createsFor world.stores orgId) suspended waiting
      have same : stores.projectOrganization = world.stores.projectOrganization := by
        funext projectId
        rw [Stores.projectOrganization, resumed.sameAccess.project]
        rfl
      have sameCalls :
          InFlight.createsFor stores orgId = InFlight.createsFor world.stores orgId := by
        funext message
        cases message <;> simp only [InFlight.createsFor, same]
      have sameRows : stores.activeFor orgId = world.stores.activeFor orgId := by
        funext row
        simp only [Stores.activeFor, same]
      unfold World.load World.creationsInFlight
      dsimp only
      rw [sameCalls, sameRows]
      cases resumed with
      | fail | settingsUpdated | commandAnswered =>
          rw [List.countP_nil] at counts
          have fewer := Nat.le.intro counts
          exact Nat.add_le_add_left fewer _
      | updateSettings =>
          rw [List.countP_singleton] at counts
          have fewer := Nat.le.intro counts
          exact Nat.add_le_add_left fewer _
      | @recordCanister operation principal called =>
          have unplaced : world.stores.canister.getCanisterProjectId world.stores.nextId = none :=
            placed.fresh world.stores.drawn (le_refl _)
          have absent :
              (operation.projectId, world.stores.nextId) ∉
                world.stores.canister.activeProjectCanisterIndex := by
            intro active
            have belongs := (placed.rows _ _).mpr (.inl active)
            rw [unplaced] at belongs
            cases belongs
          have recorded :
              countRows
                  (world.stores.canister.activeProjectCanisterIndex.insert
                    (operation.projectId, world.stores.nextId))
                  (world.stores.activeFor orgId) =
                _ := countRows_insert absent
          have sameCount :
              InFlight.createsFor world.stores orgId (.operation operation) =
                world.stores.activeFor orgId (operation.projectId, world.stores.nextId) := by
            simp only [InFlight.createsFor, Stores.activeFor, called, decide_true, Bool.true_and]
          rw [List.countP_nil, sameCount] at counts
          change
            countRows
                  (world.stores.canister.activeProjectCanisterIndex.insert
                    (operation.projectId, world.stores.nextId))
                  (world.stores.activeFor orgId) + _ ≤ _
          rw [recorded]
          omega

/-- A message leaves the creation of a canister for the organization in flight. -/
def World.StartsCreation (before : World) (event : Event) (orgId : OrgId) : Prop :=
  ∃ after waiting,
    World.endpointStep before event = some after ∧
      after.inFlight = before.inFlight ++ [.operation waiting] ∧
        waiting.call = .createCanister ∧
          before.stores.projectOrganization waiting.projectId = some orgId

/-- The event reports no canisters and does not lower the organization's limit. -/
structure KeepsPlan (orgId : OrgId) (before : World) (event : Event) : Prop where
  noReport : ∀ call mappings, event ≠ .message call (.addChildCanisters mappings)
  limit :
    ∀ after, World.endpointStep before event = some after →
      CanisterService.canisterLimit orgId 0 before.stores ≤
        CanisterService.canisterLimit orgId 0 after.stores

/-- A creation that the event starts fits next to those in flight. -/
structure LeavesRoom (orgId : OrgId) (before : World) (event : Event) : Prop
    extends KeepsPlan orgId before event where
  room :
    before.StartsCreation event orgId →
      before.quotaLoad orgId < CanisterService.canisterLimit orgId 0 before.stores

/-- In a reachable world the load is counted by rows and waiting messages. -/
theorem World.Reachable.quotaLoad_eq
    {world : World}
    (reachable : world.Reachable)
    (orgId : OrgId) :
    world.quotaLoad orgId = world.load orgId := by
  have counted : CanisterService.countActiveCanistersForOrg orgId world.stores = _ :=
    countActiveCanistersForOrg_eq reachable.sound.agree reachable.canistersIndexed
      reachable.canistersPlaced
  rw [World.quotaLoad, counted]
  rfl

/-- A reachable world whose load is within the organization's limit. -/
structure WithinQuota (orgId : OrgId) (world : World) : Prop where
  reachable : world.Reachable
  load : world.quotaLoad orgId ≤ CanisterService.canisterLimit orgId 0 world.stores

/-- An event that leaves room keeps the load within the limit. -/
theorem WithinQuota.step
    {before after : World}
    {event : Event}
    (quota : WithinQuota orgId before)
    (permitted : LeavesRoom orgId before event)
    (stepped : World.endpointStep before event = some after) :
    WithinQuota orgId after := by
  have reachable := quota.reachable
  have within := quota.load
  have limit := permitted.limit after stepped
  rcases World.endpointStep_cases stepped with rfl | ⟨served, -⟩
  · exact quota
  · have reachableAfter : after.Reachable := .step reachable trivial served
    refine ⟨reachableAfter, ?_⟩
    have cases := World.serviceStep_cases served
    rw [World.Reachable.quotaLoad_eq reachableAfter orgId]
    rw [World.Reachable.quotaLoad_eq reachable orgId] at within
    cases event with
    | reply now index reply =>
        have lower : after.load orgId ≤ before.load orgId :=
          load_reply cases (World.Reachable.canistersPlaced reachable)
        omega
    | message call request =>
        have noReport (mappings : List Dto.ParentChildMapping) :
            request ≠ .addChildCanisters mappings := by
          rintro rfl
          exact permitted.noReport call mappings rfl
        rcases load_message cases reachable.sound reachable.canistersPlaced
            reachable.projectsDrawn noReport with
          kept | ⟨raised, waiting, suspended, creates, owned⟩
        · exact kept.trans (within.trans limit)
        · have room := permitted.room ⟨after, waiting, stepped, suspended, creates, owned⟩
          rw [World.Reachable.quotaLoad_eq reachable orgId] at room
          omega

/-- Within the quota, and with room for every creation, the quota is never exceeded. -/
theorem canisterQuota_of_leavesRoom
    {start world : World}
    (reachable : start.Reachable)
    (within : start.quotaLoad orgId ≤ CanisterService.canisterLimit orgId 0 start.stores)
    (run : MessageRun.Reachable World.endpointStep (LeavesRoom orgId) start world)
    (now : Nat) :
    CanisterService.countActiveCanistersForOrg orgId world.stores ≤
      CanisterService.canisterLimit orgId now world.stores := by
  have base : WithinQuota orgId start := ⟨reachable, within⟩
  have kept : WithinQuota orgId world :=
    run.invariant base fun _ _ _ _ quota permitted stepped => quota.step permitted stepped
  rw [canisterLimit_eq now 0]
  exact (Nat.le_add_right _ _).trans kept.load

end Quota

section Overcommitment

open TextualHost

attribute [local instance] host

/-- The founder signs up and is activated; the Free plan allows three canisters. -/
def activeFounder : List Event :=
  [.message (callBy founder) .createMyUserProfile,
    .message (callBy operator) (.adminUpdateUserProfile (idText 0) (some .active))]

/-- The founder asks for a canister. -/
def requestCanister : Event :=
  .message (callBy founder) (.createProposal (idText 3) (some .createCanister))

/-- The first creation in flight succeeds. -/
def oldestCreationReply (seed : UInt8) : Event :=
  .reply 1700000000000000000 0 (.canisterCreated (principal seed))

/-- One canister is requested and created. -/
def oneCreation : Execution World.endpointStep World.empty :=
  admittedRun (activeFounder ++ [requestCanister, oldestCreationReply 7]) requestCanister
    (by decide +kernel)

/-- Four canisters are requested before the first of them is created. -/
def fourCreations : Execution World.endpointStep World.empty :=
  admittedRun
    (activeFounder ++
      [requestCanister, requestCanister, requestCanister, requestCanister, oldestCreationReply 7,
        oldestCreationReply 8, oldestCreationReply 9, oldestCreationReply 10])
    requestCanister (by decide +kernel)

/-- A step of a run keeps the plan if the limit before and after it is the same. -/
private theorem keepsPlan_of_run
    {run : Execution World.endpointStep World.empty}
    {time : Nat}
    (within : time < run.length)
    (noReport : ∀ call mappings, run.event time ≠ .message call (.addChildCanisters mappings))
    (limit :
      CanisterService.canisterLimit orgId 0 (run.state time).stores =
        CanisterService.canisterLimit orgId 0 (run.state (time + 1)).stores) :
    KeepsPlan orgId (run.state time) (run.event time) where
  noReport := noReport
  limit after stepped := by
    cases (run.advances time within).symm.trans stepped
    exact limit.le

/-- One creation stays within the quota. -/
theorem canisterQuota_oneCreation :
    CanisterService.countActiveCanistersForOrg ⟨draw 1⟩ (oneCreation.state 4).stores ≤
      CanisterService.canisterLimit ⟨draw 1⟩ 0 (oneCreation.state 4).stores := by
  have reachable : (oneCreation.state 2).Reachable :=
    World.Reachable.of_endpoints (oneCreation.reachable (by decide : 2 ≤ 4))
  refine
    canisterQuota_of_leavesRoom reachable (by decide +kernel)
      (oneCreation.reachable_from (by decide : 2 ≤ 4) (by decide : 4 ≤ 4) ?_) 0
  intro time started before
  match time, started, before with
  | 2, _, _ =>
      refine ⟨keepsPlan_of_run (by decide) ?_ (by decide +kernel), fun _ => by decide +kernel⟩
      intro call mappings asked
      cases asked
  | 3, _, _ =>
      refine ⟨keepsPlan_of_run (by decide) ?_ (by decide +kernel), fun _ => by decide +kernel⟩
      intro call mappings asked
      cases asked

/-- Four creations in flight together exceed a quota of three. -/
theorem fourCreations_exceed_canisterQuota :
    ∃ start world,
      MessageRun.Reachable World.endpointStep (fun _ _ => True) World.empty start ∧
        CanisterService.countActiveCanistersForOrg ⟨draw 1⟩ start.stores ≤
          CanisterService.canisterLimit ⟨draw 1⟩ 0 start.stores ∧
        start.inFlight = [] ∧
        MessageRun.Reachable World.endpointStep (KeepsPlan ⟨draw 1⟩) start world ∧
        CanisterService.canisterLimit ⟨draw 1⟩ 0 world.stores <
          CanisterService.countActiveCanistersForOrg ⟨draw 1⟩ world.stores := by
  have run :
      MessageRun.Reachable World.endpointStep (KeepsPlan ⟨draw 1⟩) (fourCreations.state 2)
        (fourCreations.state 10) := by
    refine fourCreations.reachable_from (by decide : 2 ≤ 10) (by decide : 10 ≤ 10) ?_
    intro time started before
    have sameLimit :
        ∀ index, index < 11 →
          CanisterService.canisterLimit ⟨draw 1⟩ 0 (fourCreations.state index).stores = 3 := by
      decide +kernel
    refine keepsPlan_of_run before ?_ ?_
    · intro call mappings asked
      match time, started, before with
      | 2, _, _ | 3, _, _ | 4, _, _ | 5, _, _ | 6, _, _ | 7, _, _ | 8, _, _ | 9, _, _ =>
          cases asked
    · rw [sameLimit time (by omega), sameLimit (time + 1) (by omega)]
  exact
    ⟨fourCreations.state 2, fourCreations.state 10,
      fourCreations.reachable (by decide : 2 ≤ 10), by decide +kernel, by decide +kernel, run,
      by decide +kernel⟩

end Overcommitment

end SsnConsole.Backend
