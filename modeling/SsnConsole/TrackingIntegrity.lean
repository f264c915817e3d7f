import SsnConsole.AdoptionOrder
import SsnConsole.CanisterTransitions
import SsnConsole.EndpointRuns

/-!
# Tracking under concurrency

A canister becomes known by the reply that creates it and by the reports of the
canister history.  The reports look for records and orphans first; the reply
does not, so tracking stays intact in the runs whose replies bring canisters
that nothing has been reported about.
-/

namespace SsnConsole.Backend

open SsnConsole.AdoptionForest
open SsnConsole.MessageRun
open SsnConsole.StableIndex

section Preservation

variable [Host]
variable {s after : Stores}

namespace Stores.TrackingIntegrity

omit [Host] in
/-- Tracking stays intact when every record is one that had the same principal before. -/
theorem of_records
    (intact : s.TrackingIntegrity)
    (older :
      ∀ canisterId canister,
        after.canister.getCanister canisterId = some canister →
          ∃ stored,
            s.canister.getCanister canisterId = some stored ∧
              stored.principal = canister.principal)
    (sameOrphans : after.orphanedCanister = s.orphanedCanister) :
    after.TrackingIntegrity := by
  have wasTracked : ∀ principal, after.IsTracked principal → s.IsTracked principal := by
    rintro principal ⟨canisterId, canister, stored, rfl⟩
    obtain ⟨old, oldStored, same⟩ := older canisterId canister stored
    exact ⟨canisterId, old, oldStored, same⟩
  have wasOrphan : ∀ child parent, after.IsOrphan child parent → s.IsOrphan child parent := by
    intro child parent orphaned
    unfold Stores.IsOrphan at orphaned ⊢
    rw [← sameOrphans]
    exact orphaned
  refine ⟨?_, ?_, ?_⟩
  · intro first second firstCanister secondCanister firstStored secondStored same
    obtain ⟨firstOld, firstOldStored, firstSame⟩ := older first firstCanister firstStored
    obtain ⟨secondOld, secondOldStored, secondSame⟩ := older second secondCanister secondStored
    refine intact.oneRecord first second firstOld secondOld firstOldStored secondOldStored ?_
    rw [firstSame, same, secondSame]
  · intro child parent orphaned tracked
    exact
      intact.orphanUntracked child parent (wasOrphan child parent orphaned)
        (wasTracked child tracked)
  · intro child parent orphaned tracked
    exact
      intact.parentUntracked child parent (wasOrphan child parent orphaned)
        (wasTracked parent tracked)

omit [Host] in
/-- A record that is replaced by one of the same principal keeps tracking intact. -/
theorem replaceRecord
    {state : CanisterState}
    {replacedId : CanisterId}
    {old : Canister}
    (replacement : Canister)
    (intact : s.TrackingIntegrity)
    (found : s.canister.getCanister replacedId = some old)
    (principal : old.principal = replacement.principal)
    (records : state.canisters = s.canister.canisters.insert replacedId replacement) :
    { s with canister := state : Stores }.TrackingIntegrity := by
  refine intact.of_records ?_ rfl
  intro canisterId canister stored
  rw [CanisterState.getCanister, records, getElem?_insert_entry] at stored
  split at stored
  · rename_i same
    cases stored
    exact ⟨old, same ▸ found, principal⟩
  · exact ⟨canister, stored, rfl⟩

/-- A reported mapping keeps tracking intact. -/
theorem addChildCanister
    (mapping : Dto.ParentChildMapping)
    (indexed : s.CanistersIndexed)
    (intact : s.TrackingIntegrity) :
    (CanisterService.addChildCanister s mapping).TrackingIntegrity := by
  by_cases waits : (s.orphanedCanister.getParentByChild mapping.childCanisterId).isSome = true
  · have unchanged : CanisterService.addChildCanister s mapping = s := by
      unfold CanisterService.addChildCanister
      exact if_pos (Bool.or_eq_true_iff.mpr (.inr waits))
    rw [unchanged]
    exact intact
  · have free : s.orphanedCanister.getParentByChild mapping.childCanisterId = none :=
      Option.not_isSome_iff_eq_none.mp waits
    have noParent :
        ∀ parent,
          s.IsOrphan mapping.childCanisterId parent → parent = mapping.parentCanisterId := by
      intro parent orphaned
      rw [Stores.IsOrphan, free] at orphaned
      cases orphaned
    exact ((indexed.tracking_of_integrity intact).addChildCanister noParent).integrity

/-- Reported mappings keep tracking intact. -/
theorem addChildCanisters
    (mappings : List Dto.ParentChildMapping)
    (indexed : s.CanistersIndexed)
    (intact : s.TrackingIntegrity) :
    (mappings.foldl CanisterService.addChildCanister s).TrackingIntegrity := by
  induction mappings generalizing s with
  | nil => exact intact
  | cons mapping rest step =>
      exact step (indexed.addChildCanister mapping) (intact.addChildCanister mapping indexed)

/-- Recording a principal that nothing is known about keeps tracking intact. -/
theorem recordCanister
    {projectId : ProjectId}
    {principal : Principal}
    (intact : s.TrackingIntegrity)
    (untracked : ¬s.IsTracked principal)
    (notOrphan : ∀ parent, ¬s.IsOrphan principal parent)
    (notParent : ∀ child, ¬s.IsOrphan child principal) :
    (CanisterService.recordCanister projectId s principal).TrackingIntegrity := by
  have wasTracked :
      ∀ other,
        (CanisterService.recordCanister projectId s principal).IsTracked other →
          s.IsTracked other ∨ other = principal := by
    rintro other ⟨canisterId, canister, stored, rfl⟩
    rw [CanisterService.getCanister_recordCanister] at stored
    split at stored
    · cases stored
      exact .inr rfl
    · exact .inl ⟨canisterId, canister, stored, rfl⟩
  refine ⟨?_, ?_, ?_⟩
  · intro first second firstCanister secondCanister firstStored secondStored same
    rw [CanisterService.getCanister_recordCanister] at firstStored secondStored
    split at firstStored
    · rename_i firstNew
      split at secondStored
      · rename_i secondNew
        rw [firstNew, secondNew]
      · cases firstStored
        exact (untracked ⟨second, secondCanister, secondStored, same.symm⟩).elim
    · split at secondStored
      · cases secondStored
        exact (untracked ⟨first, firstCanister, firstStored, same⟩).elim
      · exact
          intact.oneRecord first second firstCanister secondCanister firstStored secondStored
            same
  · intro child parent orphaned tracked
    rcases wasTracked child tracked with before | rfl
    · exact intact.orphanUntracked child parent orphaned before
    · exact notOrphan parent orphaned
  · intro child parent orphaned tracked
    rcases wasTracked parent tracked with before | rfl
    · exact intact.parentUntracked child parent orphaned before
    · exact notParent child orphaned

omit [Host] in
/-- Nothing is tracked at first. -/
theorem empty : Stores.empty.TrackingIntegrity := by
  have noOrphans : ∀ child parent, ¬Stores.empty.IsOrphan child parent := by
    simp [Stores.empty, Stores.IsOrphan, OrphanedCanisterState.empty,
      OrphanedCanisterState.getParentByChild]
  refine ⟨?_, ?_, ?_⟩
  · simp [Stores.empty, CanisterState.empty, CanisterState.getCanister]
  · exact fun child parent orphaned => (noOrphans child parent orphaned).elim
  · exact fun child parent orphaned => (noOrphans child parent orphaned).elim

end Stores.TrackingIntegrity

/-- A reply that creates a canister brings one that is neither tracked nor an orphan nor the
parent of an orphan. -/
def CreatesUnknown (world : World) (event : Event) : Prop :=
  ∀ now index operation principal,
    event = .reply now index (.canisterCreated principal) →
      world.inFlight[index]? = some (.operation operation) →
        operation.call = .createCanister →
          ¬world.stores.IsTracked principal ∧
            (∀ parent, ¬world.stores.IsOrphan principal parent) ∧
              ∀ child, ¬world.stores.IsOrphan child principal

/-- An event that creates nothing known keeps tracking intact. -/
theorem World.CanisterChange.trackingIntegrity
    {world : World}
    {event : Event}
    (change : world.CanisterChange event after)
    (unknown : CreatesUnknown world event)
    (indexed : world.stores.CanistersIndexed)
    (intact : world.stores.TrackingIntegrity) :
    after.TrackingIntegrity := by
  cases change with
  | same same =>
      refine intact.of_records ?_ same.orphanedCanister
      intro canisterId canister stored
      rw [same.canister] at stored
      exact ⟨canister, stored, rfl⟩
  | @remove call _ _ _ _ removed =>
      obtain ⟨old, found, -, rfl⟩ := CanisterState.softDeleteCanister_eq_some removed
      exact intact.replaceRecord { old with deletedAt := some call.now } found rfl rfl
  | @rename _ _ _ name _ _ changed =>
      obtain ⟨old, found, rfl⟩ := CanisterState.updateCanisterName_eq_some changed
      exact intact.replaceRecord { old with name := name } found rfl rfl
  | @report _ mappings => exact intact.addChildCanisters mappings indexed
  | @record _ _ operation _ waiting called =>
      obtain ⟨untracked, notOrphan, notParent⟩ := unknown _ _ _ _ rfl waiting called
      have recorded :
          (CanisterService.recordCanister operation.projectId _ _).TrackingIntegrity :=
        intact.recordCanister untracked notOrphan notParent
      refine recorded.of_records ?_ rfl
      exact fun canisterId canister stored => ⟨canister, stored, rfl⟩

/-- Tracking is intact in the world. -/
def World.TrackingIntegrity (world : World) : Prop :=
  world.stores.TrackingIntegrity

/-- In every run whose creations bring unknown canisters, tracking is intact throughout. -/
theorem trackingIntegrity_of_createsUnknown
    {world : World}
    (reachable :
      MessageRun.Reachable World.serviceStep CreatesUnknown World.empty world) :
    world.TrackingIntegrity := by
  have base : World.empty.TrackingIntegrity := Stores.TrackingIntegrity.empty
  refine reachable.invariant base ?_
  intro before event after earlier intact unknown stepped
  have indexed : before.CanistersIndexed :=
    World.Reachable.canistersIndexed (earlier.loosen fun _ _ _ => trivial)
  exact
    (World.serviceStep_cases stepped).canisterChange.trackingIntegrity unknown indexed intact

end Preservation

section EarlyReport

open TextualHost

attribute [local instance] host

/-- The backend canister itself. -/
def backendCanister : Principal :=
  ⟨[0, 0, 0, 0, 1, 0, 0, 41, 1, 1], by decide⟩

/-- An active founder's proposal has the creation of a canister in flight. -/
def creation : List Event :=
  [.message (callBy founder) .createMyUserProfile,
    .message (callBy operator) (.adminUpdateUserProfile (idText 0) (some .active)),
    .message (callBy founder) (.createProposal (idText 3) (some .createCanister))]

/-- The canister history's report that the backend created a canister. -/
def creationReport : Event :=
  .message (callBy Host.canisterHistoryId) (.addChildCanisters [⟨backendCanister, principal 7⟩])

/-- The management canister's reply to the creation. -/
def creationReply : Event :=
  .reply 1700000000000000000 0 (.canisterCreated (principal 7))

/-- The reply arrives before the report. -/
def promptReply : Execution World.endpointStep World.empty :=
  admittedRun (creation ++ [creationReply, creationReport]) creationReport (by decide +kernel)

/-- The report arrives before the reply. -/
def earlyReport : Execution World.endpointStep World.empty :=
  admittedRun (creation ++ [creationReport, creationReply]) creationReport (by decide +kernel)

/-- An event that is no reply creates nothing. -/
private theorem createsUnknown_message
    {world : World}
    {call : Call}
    {request : Request} :
    CreatesUnknown world (.message call request) := by
  intro now index operation principal asked
  cases asked

/-- A creation that is reported after its reply keeps tracking intact. -/
theorem trackingIntegrity_promptReply :
    (promptReply.state 5).TrackingIntegrity := by
  refine
    trackingIntegrity_of_createsUnknown
      (World.Reachable.of_endpoints (promptReply.reachable_of_permitted (by decide : 5 ≤ 5) ?_))
  have indexed : (promptReply.state 3).CanistersIndexed :=
    World.Reachable.canistersIndexed (World.Reachable.of_endpoints (promptReply.reachable (by decide)))
  have noOrphans : (promptReply.state 3).stores.orphanedCanister.childToParentIndex = ∅ :=
    Std.ExtTreeMap.isEmpty_iff.mp (by decide +kernel)
  have unknown : CreatesUnknown (promptReply.state 3) creationReply := by
    intro now index operation principal asked _ _
    cases asked
    refine ⟨?_, ?_, ?_⟩
    · rw [Stores.CanistersIndexed.isTracked_iff indexed]
      decide +kernel
    · simp [Stores.IsOrphan, OrphanedCanisterState.getParentByChild, noOrphans]
    · simp [Stores.IsOrphan, OrphanedCanisterState.getParentByChild, noOrphans]
  intro time early
  interval_cases time
  · exact createsUnknown_message
  · exact createsUnknown_message
  · exact createsUnknown_message
  · exact unknown
  · exact createsUnknown_message

/-- The reply to a creation reported before it tracks a canister that is an orphan. -/
theorem earlyReport_breaks_trackingIntegrity :
    ∃ world,
      MessageRun.Reachable World.endpointStep (fun _ _ => True) World.empty world ∧
        ¬world.TrackingIntegrity := by
  refine ⟨earlyReport.state 5, earlyReport.reachable (by decide : 5 ≤ 5), fun intact => ?_⟩
  have indexed : (earlyReport.state 5).CanistersIndexed :=
    World.Reachable.canistersIndexed (.of_endpoints (earlyReport.reachable (by decide)))
  have orphaned : (earlyReport.state 5).stores.IsOrphan (principal 7) backendCanister := by
    unfold Stores.IsOrphan
    decide +kernel
  refine intact.orphanUntracked _ _ orphaned ?_
  rw [Stores.CanistersIndexed.isTracked_iff indexed]
  decide +kernel

end EarlyReport

end SsnConsole.Backend
