import SsnConsole.CanisterOtlpSyncer
import SsnConsole.MessageRun

/-!
# The checkpoint of the canister-otlp-syncer service

The state file is written after every page that has a successor, while usages
are recorded once, at the end of a Run.  The checkpoint stays behind what is
recorded exactly when every page with a successor brings it past recorded
snapshots only.
-/

namespace SsnConsole.CanisterOtlpSyncer

open Std
open SsnConsole.Backend (Principal)
open SsnConsole.CursorPaging
open SsnConsole.CyclesMonitor
open SsnConsole.MessageRun
open SsnConsole.StableIndex

section Spec

/-- The timestamp that is persisted in the state file. -/
def Syncer.checkpoint (syncer : Syncer) : Option UInt64 :=
  fileTimestamp syncer.stateFile

/-- A usage of the snapshot's canister at its time or later has been recorded. -/
def Recorded (syncer : Syncer) (snapshot : CyclesMetricsSnapshotDto) : Prop :=
  ∃ later ∈ syncer.returned,
    later.canisterId = snapshot.canisterId ∧ snapshot.timestampNs ≤ later.timestampNs ∧
      derivedUsage later ∈ syncer.recorded

/-- Everything that was returned from before the checkpoint is recorded. -/
def CheckpointBehind (syncer : Syncer) : Prop :=
  ∀ timestamp, syncer.checkpoint = some timestamp →
    ∀ snapshot ∈ syncer.returned, snapshot.timestampNs < timestamp → Recorded syncer snapshot

/-- A reply pages in key order after an exclusive cursor. -/
structure PageAfter
    (cursor : Cursor)
    (snapshots : List CyclesMetricsSnapshotDto)
    (next : Option Cursor) : Prop where
  beyond : ∀ snapshot ∈ snapshots, Beyond (some cursor) snapshot.row.1
  ordered : snapshots.Pairwise fun early late => compare early.row.1 late.row.1 = .lt
  continues :
    ∀ continuation, next = some continuation →
      ∃ last, snapshots.getLast? = some last ∧ continuation = last.row.1

/-- Every successful listing of a run pages in key order after its cursor. -/
def PagesInOrder {initial : Syncer} (execution : Execution Syncer.step initial) : Prop :=
  ∀ time, time < execution.length → ∀ cursor latest snapshots next,
    (execution.state time).phase = .listing cursor latest →
      execution.event time = .listed snapshots next → PageAfter cursor snapshots next

/-- The next event brings the checkpoint past recorded snapshots only. -/
def WritesBehind (syncer : Syncer) (event : SyncerEvent) : Prop :=
  ∀ snapshots continuation latest,
    syncer.phase = .pushing snapshots (some continuation) latest → event = .pushed →
      ∀ snapshot ∈ syncer.returned, snapshot.timestampNs < continuation.1 →
        Recorded syncer snapshot

end Spec

section Pages

/-- The cycles-monitor canister pages in key order after the cursor. -/
theorem pageAfter_listSnapshotsAfter
    (monitor : State)
    (cursor : Cursor)
    (limit : Nat) :
    PageAfter cursor (monitor.listSnapshotsAfter (some cursor) limit).1
      (monitor.listSnapshotsAfter (some cursor) limit).2 := by
  have rows := monitor.rows_listSnapshotsAfter (some cursor) limit
  refine ⟨?_, ?_, ?_⟩
  · intro snapshot member
    have listed : snapshot.row ∈
        pageAfter monitor.cyclesMetricsSnapshots (some cursor) limit := by
      rw [← rows]
      exact List.mem_map.mpr ⟨snapshot, member, rfl⟩
    exact (mem_rowsAfter.mp (List.mem_of_mem_take listed)).2
  · have sorted : (pageAfter monitor.cyclesMetricsSnapshots (some cursor) limit).Pairwise
        fun early late => compare early.1 late.1 = .lt :=
      (rowsAfter_ordered _ _).sublist (List.take_sublist _ _)
    rw [← rows, List.pairwise_map] at sorted
    exact sorted
  · intro continuation more
    unfold State.listSnapshotsAfter at more ⊢
    simp only at more ⊢
    split at more
    · rw [List.getLast?_map]
      cases last :
          ((pageAfter monitor.cyclesMetricsSnapshots (some cursor) (limit + 1)).take
            limit).getLast? with
      | none =>
          rw [last] at more
          cases more
      | some row =>
          rw [last] at more
          cases more
          exact ⟨_, rfl, rfl⟩
    · cases more

/-- A row beyond a cursor is not older than it. -/
theorem timestamp_le_of_beyond
    {cursor key : Cursor}
    (beyond : Beyond (some cursor) key) :
    cursor.1 ≤ key.1 := by
  have order : compare cursor key = .lt := beyond cursor rfl
  have first : (compare cursor.1 key.1).then (compare cursor.2 key.2) = .lt := order
  rcases Ordering.then_eq_lt.mp first with less | ⟨same, _⟩
  · exact UInt64.le_of_lt (Std.compare_eq_lt.mp less)
  · rw [LawfulEqOrd.eq_of_compare same]
    exact UInt64.le_refl _

end Pages

section Steps

/-- What one event does to the checkpoint, the returned snapshots and the recorded usages. -/
inductive Moves (before after : Syncer) (event : SyncerEvent) : Prop
  /-- A Run starts after the checkpoint, if there is one. -/
  | starts
      {nowUnixNano : Int}
      (idle : before.phase = .idle)
      (phase :
        after.phase =
          .listing (readStartTimestamp before.stateFile nowUnixNano, minPrincipal) ∅)
      (stateFile : after.stateFile = before.stateFile)
      (returned : after.returned = before.returned)
      (recorded : after.recorded = before.recorded)
  /-- A page comes. -/
  | lists
      {cursor : Cursor}
      {latest : Latest}
      {snapshots : List CyclesMetricsSnapshotDto}
      {next : Option Cursor}
      (phase : before.phase = .listing cursor latest)
      (listed : event = .listed snapshots next)
      (notListing : ∀ cursor latest, after.phase ≠ .listing cursor latest)
      (stateFile : after.stateFile = before.stateFile)
      (returned : after.returned = before.returned ++ snapshots)
      (recorded : after.recorded = before.recorded)
  /-- A page with a successor is pushed, and the checkpoint moves. -/
  | writes
      {snapshots : List CyclesMetricsSnapshotDto}
      {continuation : Cursor}
      {latest newLatest : Latest}
      (phase : before.phase = .pushing snapshots (some continuation) latest)
      (pushed : event = .pushed)
      (nextPhase : after.phase = .listing continuation newLatest)
      (stateFile : after.stateFile = some (formatUint continuation.1))
      (returned : after.returned = before.returned)
      (recorded : after.recorded = before.recorded)
  /-- Anything else leaves the checkpoint and only adds recorded usages. -/
  | keeps
      (notListing : ∀ cursor latest, after.phase ≠ .listing cursor latest)
      (notPushed :
        ∀ snapshots continuation latest,
          before.phase = .pushing snapshots (some continuation) latest → event ≠ .pushed)
      (stateFile : after.stateFile = before.stateFile)
      (returned : after.returned = before.returned)
      (recorded : before.recorded ⊆ after.recorded)

/-- After a last page no listing is under way. -/
theorem Syncer.afterPage_none
    (syncer : Syncer)
    (latest : Latest) :
    (∀ cursor other, (syncer.afterPage none latest).phase ≠ .listing cursor other) ∧
      (syncer.afterPage none latest).stateFile = syncer.stateFile ∧
      (syncer.afterPage none latest).returned = syncer.returned ∧
      (syncer.afterPage none latest).recorded = syncer.recorded := by
  unfold Syncer.afterPage
  refine ⟨?_, rfl, rfl, rfl⟩
  intro cursor other
  dsimp only
  split <;> simp

/-- Every event moves the service in one of these ways. -/
theorem moves_of_step
    {before after : Syncer}
    {event : SyncerEvent}
    (paged :
      ∀ cursor latest snapshots next, before.phase = .listing cursor latest →
        event = .listed snapshots next → PageAfter cursor snapshots next)
    (stepped : before.step event = some after) :
    Moves before after event := by
  unfold Syncer.step at stepped
  split at stepped
  · next nowUnixNano idle =>
      cases stepped
      exact .starts idle rfl rfl rfl rfl
  · next cursor latest snapshots next phase =>
      dsimp only at stepped
      by_cases empty : snapshots.isEmpty = true
      · rw [if_pos empty] at stepped
        cases stepped
        have noSnapshots : snapshots = [] := List.isEmpty_iff.mp empty
        cases next with
        | none =>
            obtain ⟨notListing, stateFile, returned, recorded⟩ :=
              Syncer.afterPage_none
                { before with returned := before.returned ++ snapshots } latest
            exact .lists phase rfl notListing stateFile returned recorded
        | some continuation =>
            obtain ⟨last, listed, _⟩ :=
              (paged cursor latest snapshots _ phase rfl).continues continuation rfl
            rw [noSnapshots] at listed
            cases listed
      · rw [if_neg empty] at stepped
        cases stepped
        exact .lists phase rfl (by simp) rfl rfl rfl
  · next snapshots next latest phase =>
      cases stepped
      cases next with
      | none =>
          obtain ⟨notListing, stateFile, returned, recorded⟩ :=
            Syncer.afterPage_none before (snapshots.foldl keepLatest latest)
          refine .keeps notListing ?_ stateFile returned (by rw [recorded]; exact fun _ => id)
          intro others continuation otherLatest pushing
          rw [phase] at pushing
          cases pushing
      | some continuation =>
          exact .writes phase rfl rfl rfl rfl rfl
  · next latest phase =>
      cases stepped
      refine .keeps (by simp) ?_ rfl rfl (List.subset_append_left _ _)
      intro snapshots continuation other pushing
      rw [phase] at pushing
      cases pushing
  · next cursor latest phase =>
      cases stepped
      exact .keeps (by simp) (by simp) rfl rfl (fun _ => id)
  · next snapshots next latest phase =>
      cases stepped
      exact .keeps (by simp) (by simp) rfl rfl (fun _ => id)
  · next latest phase =>
      cases stepped
      exact .keeps (by simp) (by simp) rfl rfl (fun _ => id)
  · cases stepped

/-- What is recorded stays recorded while more comes. -/
theorem Recorded.mono
    {before after : Syncer}
    {snapshot : CyclesMetricsSnapshotDto}
    (recorded : Recorded before snapshot)
    (returned : before.returned ⊆ after.returned)
    (kept : before.recorded ⊆ after.recorded) :
    Recorded after snapshot := by
  obtain ⟨later, member, same, ordered, used⟩ := recorded
  exact ⟨later, returned member, same, ordered, kept used⟩

/-- The page that is being listed starts at or after the checkpoint. -/
def CursorAhead (syncer : Syncer) : Prop :=
  ∀ timestamp cursor latest, syncer.checkpoint = some timestamp →
    syncer.phase = .listing cursor latest → timestamp ≤ cursor.1

/-- Every event keeps the cursor at or after the checkpoint. -/
theorem CursorAhead.moves
    {before after : Syncer}
    {event : SyncerEvent}
    (moves : Moves before after event) :
    CursorAhead after := by
  intro timestamp cursor latest checkpoint listing
  cases moves with
  | starts idle phase stateFile returned recorded =>
      rw [phase] at listing
      cases listing
      unfold Syncer.checkpoint at checkpoint
      rw [stateFile] at checkpoint
      unfold readStartTimestamp
      rw [checkpoint]
      exact UInt64.le_refl _
  | lists phase listed notListing stateFile returned recorded =>
      exact absurd listing (notListing cursor latest)
  | writes phase pushed nextPhase stateFile returned recorded =>
      rw [nextPhase] at listing
      cases listing
      unfold Syncer.checkpoint at checkpoint
      rw [stateFile, fileTimestamp_formatUint] at checkpoint
      cases checkpoint
      exact UInt64.le_refl _
  | keeps notListing notPushed stateFile returned recorded =>
      exact absurd listing (notListing cursor latest)

/-- An event that writes behind keeps the checkpoint behind what is recorded. -/
theorem CheckpointBehind.moves
    {before after : Syncer}
    {event : SyncerEvent}
    (behind : CheckpointBehind before)
    (ahead : CursorAhead before)
    (paged :
      ∀ cursor latest snapshots next, before.phase = .listing cursor latest →
        event = .listed snapshots next → PageAfter cursor snapshots next)
    (writes : WritesBehind before event)
    (moves : Moves before after event) :
    CheckpointBehind after := by
  intro timestamp checkpoint snapshot member older
  unfold Syncer.checkpoint at checkpoint
  cases moves with
  | starts idle phase stateFile returned recorded =>
      rw [stateFile] at checkpoint
      rw [returned] at member
      exact (behind timestamp checkpoint snapshot member older).mono
        (by rw [returned]; exact fun _ => id) (by rw [recorded]; exact fun _ => id)
  | @lists cursor latest snapshots next phase listed notListing stateFile returned recorded =>
      rw [stateFile] at checkpoint
      rw [returned] at member
      rcases List.mem_append.mp member with old | new
      · exact (behind timestamp checkpoint snapshot old older).mono
          (by rw [returned]; exact List.subset_append_left _ _)
          (by rw [recorded]; exact fun _ => id)
      · -- A page starts after the checkpoint, so its snapshots are not older.
        have page := paged cursor latest snapshots next phase listed
        have beyond := timestamp_le_of_beyond (page.beyond snapshot new)
        have started := ahead timestamp cursor latest checkpoint phase
        exact absurd older
          (UInt64.not_lt.mpr (UInt64.le_trans started beyond))
  | @writes snapshots continuation latest newLatest phase pushed nextPhase stateFile returned
      recorded =>
      rw [stateFile, fileTimestamp_formatUint] at checkpoint
      cases checkpoint
      rw [returned] at member
      exact (writes snapshots continuation latest phase pushed snapshot member older).mono
        (by rw [returned]; exact fun _ => id) (by rw [recorded]; exact fun _ => id)
  | keeps notListing notPushed stateFile returned recorded =>
      rw [stateFile] at checkpoint
      rw [returned] at member
      exact (behind timestamp checkpoint snapshot member older).mono
        (by rw [returned]; exact fun _ => id) recorded

end Steps

section Runs

variable {stateFile : Option (List Char)}
variable {execution : Execution Syncer.step (.installed stateFile)}

/-- Every step of a run whose replies page in order moves the service. -/
theorem PagesInOrder.moves
    (paged : PagesInOrder execution)
    {time : Nat}
    (within : time < execution.length) :
    Moves (execution.state time) (execution.state (time + 1)) (execution.event time) :=
  moves_of_step (paged time within) (execution.advances time within)

/-- The cursor is at or after the checkpoint at every moment. -/
theorem PagesInOrder.cursorAhead
    (paged : PagesInOrder execution)
    {time : Nat}
    (within : time ≤ execution.length) :
    CursorAhead (execution.state time) := by
  cases time with
  | zero =>
      rw [execution.starts]
      intro timestamp cursor latest _ listing
      cases listing
  | succ time =>
      exact .moves (paged.moves (by omega))

/--
The checkpoint is never ahead of what is recorded exactly when every page that
has a successor finds everything from before its end recorded.
-/
theorem checkpointBehind_iff_of_execution
    (paged : PagesInOrder execution) :
    (∀ time, time ≤ execution.length → CheckpointBehind (execution.state time)) ↔
      ∀ time, time < execution.length →
        WritesBehind (execution.state time) (execution.event time) := by
  constructor
  · intro behind time within snapshots continuation latest phase pushed snapshot member older
    have moves := paged.moves within
    have next := behind (time + 1) within
    cases moves with
    | starts idle =>
        rw [phase] at idle
        cases idle
    | lists _ listed =>
        rw [pushed] at listed
        cases listed
    | writes phase' _ _ stateFile returned recorded =>
        rw [phase] at phase'
        cases phase'
        have checkpoint : (execution.state (time + 1)).checkpoint = some continuation.1 := by
          unfold Syncer.checkpoint
          rw [stateFile, fileTimestamp_formatUint]
        obtain ⟨later, laterMember, same, ordered, used⟩ :=
          next continuation.1 checkpoint snapshot (by rw [returned]; exact member) older
        exact ⟨later, by rw [← returned]; exact laterMember, same, ordered,
          by rw [← recorded]; exact used⟩
    | keeps _ notPushed =>
        exact absurd pushed (notPushed snapshots continuation latest phase)
  · intro writes time
    induction time with
    | zero =>
        intro _
        rw [execution.starts]
        intro timestamp checkpoint snapshot member
        cases member
    | succ time inductionHypothesis =>
        intro within
        exact (inductionHypothesis (by omega)).moves (paged.cursorAhead (by omega))
          (paged time (by omega)) (writes time (by omega)) (paged.moves (by omega))

end Runs

section Backlog

def alpha : Principal :=
  ⟨[11], by decide⟩

def beta : Principal :=
  ⟨[12], by decide⟩

/-- A snapshot of burned cycles. -/
def burnedAt (canisterId : Principal) (timestampNs : UInt64) (burnedCycles : Nat) :
    CyclesMetricsSnapshotDto :=
  { memory := 0, computeAllocation := 0, ingressInduction := 0, instructions := 0,
    requestAndResponseTransmission := 0, uninstall := 0, httpOutcalls := 0,
    burnedCycles := burnedCycles, timestampNs := timestampNs, canisterId := canisterId }

/-- A Run over one page, and one over two pages that meet inside one timestamp. -/
def quietEvents : List SyncerEvent :=
  [.started 3600000000050, .listed [burnedAt alpha 100 1] none, .pushed, .recorded,
    .started 3600000000050, .listed [burnedAt alpha 100 1] (some (100, alpha)), .pushed,
    .listed [burnedAt beta 100 2] none, .pushed, .recorded]

/-- A Run whose second page never comes, and the Run after it. -/
def interruptedEvents : List SyncerEvent :=
  [.started 3600000000050,
    .listed [burnedAt alpha 100 1, burnedAt beta 110 2] (some (110, beta)), .pushed,
    .listingFailed, .started 3600000000060, .listed [burnedAt beta 110 2] none, .pushed,
    .recorded]

/-- The run over a quiet backlog. -/
def quietRun : Execution Syncer.step (.installed none) :=
  .ofEvents quietEvents .recordingFailed (by decide +kernel)

/-- The run whose second page never comes. -/
def interruptedRun : Execution Syncer.step (.installed none) :=
  .ofEvents interruptedEvents .recordingFailed (by decide +kernel)

/-- The interrupted run's replies page in order. -/
theorem pagesInOrder_interruptedRun :
    PagesInOrder interruptedRun := by
  intro time within cursor latest snapshots next listing listed
  have bound : time < 8 := within
  interval_cases time
  all_goals try cases listed
  · have phase : (interruptedRun.state 1).phase =
        .listing (50, minPrincipal) ∅ := rfl
    rw [phase] at listing
    cases listing
    refine ⟨by decide, by decide, ?_⟩
    intro continuation more
    cases more
    exact ⟨_, rfl, rfl⟩
  · have phase : (interruptedRun.state 5).phase =
        .listing (110, minPrincipal) ∅ := rfl
    rw [phase] at listing
    cases listing
    refine ⟨by decide, by decide, ?_⟩
    intro continuation more
    cases more

/-- After the interruption, what was returned from before the checkpoint is never recorded. -/
theorem interruptedRun_checkpoint_ahead :
    PagesInOrder interruptedRun ∧
      (interruptedRun.state 8).checkpoint = some 110 ∧
      burnedAt alpha 100 1 ∈ (interruptedRun.state 8).returned ∧
      ¬Recorded (interruptedRun.state 8) (burnedAt alpha 100 1) ∧
      ¬CheckpointBehind (interruptedRun.state 3) := by
  have unrecorded (time : Nat)
      (noUsage :
        ((interruptedRun.state time).recorded.all fun usage => usage.canisterId ≠ alpha) =
          true) :
      ¬Recorded (interruptedRun.state time) (burnedAt alpha 100 1) := by
    rintro ⟨later, _, same, _, used⟩
    have other := List.all_eq_true.mp noUsage (derivedUsage later) used
    exact absurd same (of_decide_eq_true other)
  refine ⟨pagesInOrder_interruptedRun, by decide +kernel, by decide +kernel, ?_, ?_⟩
  · exact unrecorded 8 (by decide +kernel)
  · intro behind
    refine unrecorded 3 (by decide +kernel) (behind 110 ?_ (burnedAt alpha 100 1) ?_ ?_)
    · decide +kernel
    · decide +kernel
    · decide

/-- The quiet run's replies page in order. -/
theorem pagesInOrder_quietRun :
    PagesInOrder quietRun := by
  intro time within cursor latest snapshots next listing listed
  have bound : time < 10 := within
  have firstPhase : (quietRun.state 1).phase = .listing (50, minPrincipal) ∅ := rfl
  have secondPhase : (quietRun.state 5).phase = .listing (50, minPrincipal) ∅ := rfl
  have thirdPhase :
      (quietRun.state 7).phase =
        .listing (100, alpha) (keepLatest ∅ (burnedAt alpha 100 1)) := rfl
  interval_cases time
  all_goals try cases listed
  · rw [firstPhase] at listing
    cases listing
    refine ⟨by decide, by decide, ?_⟩
    intro continuation more
    cases more
  · rw [secondPhase] at listing
    cases listing
    refine ⟨by decide, by decide, ?_⟩
    intro continuation more
    cases more
    exact ⟨_, rfl, rfl⟩
  · rw [thirdPhase] at listing
    injection listing with sameCursor
    subst sameCursor
    refine ⟨by decide, by decide, ?_⟩
    intro continuation more
    cases more

/-- The quiet run keeps its checkpoint behind at every moment. -/
theorem checkpointBehind_quietRun :
    (quietRun.state 10).checkpoint = some 100 ∧
      ∀ time, time ≤ 10 → CheckpointBehind (quietRun.state time) := by
  refine ⟨by decide +kernel, ?_⟩
  apply (checkpointBehind_iff_of_execution pagesInOrder_quietRun).mpr
  intro time within snapshots continuation latest phase pushed snapshot member older
  have bound : time < 10 := within
  have firstPhase :
      (quietRun.state 2).phase = .pushing [burnedAt alpha 100 1] none ∅ := rfl
  have secondPhase :
      (quietRun.state 6).phase = .pushing [burnedAt alpha 100 1] (some (100, alpha)) ∅ := rfl
  have thirdPhase :
      (quietRun.state 8).phase =
        .pushing [burnedAt beta 100 2] none (keepLatest ∅ (burnedAt alpha 100 1)) := rfl
  interval_cases time
  all_goals try cases pushed
  · rw [firstPhase] at phase
    cases phase
  · rw [secondPhase] at phase
    cases phase
    have notOlder :
        ∀ snapshot ∈ (quietRun.state 6).returned, ¬snapshot.timestampNs < (100, alpha).1 := by
      decide +kernel
    exact absurd older (notOlder snapshot member)
  · rw [thirdPhase] at phase
    injection phase with _ noSuccessor
    cases noSuccessor

end Backlog

end SsnConsole.CanisterOtlpSyncer
