import SsnConsole.CyclesMonitor
import SsnConsole.MessageRun

/-!
# Polling the cycles-monitor canister

Inserts and polls arrive as separate messages.  The client continues after the
last snapshot that it was given, so it is given every snapshot once as long as
no snapshot is inserted at or before its cursor or over a stored one.
-/

namespace SsnConsole.CyclesMonitor

open SsnConsole.Backend (Principal)
open SsnConsole.CursorPaging
open SsnConsole.MessageRun
open SsnConsole.StableIndex

/-- The canister and the client that polls it. -/
structure Polling where
  monitor : State
  client : Client Cursor CyclesMetricsSnapshot

/-- An empty canister and a client that has not polled. -/
def Polling.empty : Polling :=
  ⟨.empty, .new⟩

/-- A reply brings a snapshot, or the client polls. -/
inductive PollingEvent
  | inserted (timestampNs : UInt64) (canisterId : Principal) (snapshot : CyclesMetricsSnapshot)
  | polled (limit : Nat)
  deriving DecidableEq

/-- The snapshots that a poll returns. -/
def Polling.page (polling : Polling) (limit : Nat) : List CyclesMetricsSnapshotDto :=
  (polling.monitor.listSnapshotsAfter polling.client.cursor limit).1

/-- One message. -/
def Polling.step (polling : Polling) : PollingEvent → Option Polling
  | .inserted timestampNs canisterId snapshot =>
      some { polling with
        monitor := polling.monitor.insertSnapshot timestampNs canisterId snapshot }
  | .polled limit =>
      some { polling with
        client := polling.client.receive ((polling.page limit).map CyclesMetricsSnapshotDto.row) }

/-- The next snapshot has a new key, beyond the client's cursor. -/
def InsertsAhead (polling : Polling) : PollingEvent → Prop
  | .inserted timestampNs canisterId _ =>
      (timestampNs, canisterId) ∉ polling.monitor.cyclesMetricsSnapshots ∧
        Beyond polling.client.cursor (timestampNs, canisterId)
  | .polled _ => True

instance (polling : Polling) (event : PollingEvent) : Decidable (InsertsAhead polling event) :=
  match event with
  | .inserted timestampNs canisterId _ =>
      inferInstanceAs (Decidable
        ((timestampNs, canisterId) ∉ polling.monitor.cyclesMetricsSnapshots ∧
          Beyond polling.client.cursor (timestampNs, canisterId)))
  | .polled _ => inferInstanceAs (Decidable True)

section Steps

/-- The client has been given each stored snapshot up to its cursor. -/
def Polling.UpToDate (polling : Polling) : Prop :=
  CaughtUp polling.monitor.cyclesMetricsSnapshots polling.client

/-- A message whose snapshot lies ahead leaves the client caught up. -/
theorem Polling.UpToDate.step
    {before after : Polling}
    {event : PollingEvent}
    (upToDate : before.UpToDate)
    (ahead : InsertsAhead before event)
    (stepped : before.step event = some after) :
    after.UpToDate := by
  cases event with
  | inserted timestampNs canisterId snapshot =>
      cases stepped
      apply CaughtUp.gain upToDate
      intro key value stored
      rw [State.getElem?_insertSnapshot] at stored
      by_cases new : key = (timestampNs, canisterId)
      · rw [new]
        exact Or.inr ahead.2
      · rw [if_neg new] at stored
        split at stored
        · cases stored
        · exact Or.inl stored
  | polled limit =>
      cases stepped
      unfold Polling.UpToDate Polling.page
      rw [State.rows_listSnapshotsAfter]
      exact CaughtUp.receive upToDate limit

/-- A stored snapshot that is not pruned keeps its contents. -/
theorem Polling.step_keeps
    {before after : Polling}
    {event : PollingEvent}
    (ahead : InsertsAhead before event)
    (stepped : before.step event = some after)
    {key : Cursor}
    {snapshot : CyclesMetricsSnapshot}
    (stored : before.monitor.cyclesMetricsSnapshots[key]? = some snapshot)
    (kept : key ∈ after.monitor.cyclesMetricsSnapshots) :
    after.monitor.cyclesMetricsSnapshots[key]? = some snapshot := by
  cases event with
  | inserted timestampNs canisterId other =>
      cases stepped
      obtain ⟨contents, present⟩ := Option.isSome_iff_exists.mp
        (Std.ExtTreeMap.isSome_getElem?_iff_mem.mpr kept)
      rw [present]
      rw [State.getElem?_insertSnapshot] at present
      have old : key ≠ (timestampNs, canisterId) := by
        intro same
        apply ahead.1
        rw [← same, ← Std.ExtTreeMap.isSome_getElem?_iff_mem, stored]
        rfl
      rw [if_neg old] at present
      split at present
      · cases present
      · rw [← present, stored]
  | polled limit =>
      cases stepped
      exact stored

end Steps

section Runs

variable (execution : Execution Polling.step Polling.empty)

/-- Every snapshot of the run is inserted under a new key beyond the client's cursor. -/
def AlwaysAhead : Prop :=
  ∀ time, time < execution.length → InsertsAhead (execution.state time) (execution.event time)

variable {execution}

/-- In a run that inserts ahead, the client is always caught up. -/
theorem AlwaysAhead.upToDate
    (ahead : AlwaysAhead execution)
    {time : Nat}
    (within : time ≤ execution.length) :
    (execution.state time).UpToDate := by
  induction time with
  | zero =>
      rw [execution.starts]
      exact caughtUp_new _
  | succ time inductionHypothesis =>
      have earlier := inductionHypothesis (by omega)
      exact earlier.step (ahead time (by omega)) (execution.advances time (by omega))

/-- In a run that inserts ahead, a snapshot is stored unchanged until it is pruned. -/
theorem AlwaysAhead.stored
    (ahead : AlwaysAhead execution)
    {inserted time : Nat}
    {timestampNs : UInt64}
    {canisterId : Principal}
    {snapshot : CyclesMetricsSnapshot}
    (insertion : execution.event inserted = .inserted timestampNs canisterId snapshot)
    (later : inserted < time)
    (within : time ≤ execution.length)
    (kept :
      ∀ between, inserted < between → between ≤ time →
        (timestampNs, canisterId) ∈ (execution.state between).monitor.cyclesMetricsSnapshots) :
    (execution.state time).monitor.cyclesMetricsSnapshots[(timestampNs, canisterId)]? =
      some snapshot := by
  induction time with
  | zero =>
      omega
  | succ time inductionHypothesis =>
      have stepped := execution.advances time (by omega)
      rcases Nat.lt_or_eq_of_le (Nat.le_of_lt_succ later) with earlier | rfl
      · have stored := inductionHypothesis earlier (by omega)
          fun between after before => kept between after (by omega)
        exact Polling.step_keeps (ahead time (by omega)) stepped stored
          (kept (time + 1) (by omega) (Nat.le_refl _))
      · rw [insertion] at stepped
        have inserts : execution.state (inserted + 1) =
            { execution.state inserted with
              monitor :=
                (execution.state inserted).monitor.insertSnapshot timestampNs canisterId
                  snapshot } :=
          (Option.some_inj.mp stepped).symm
        rw [inserts, State.getElem?_insertSnapshot, if_pos rfl]

/--
In a run whose snapshots are all inserted ahead of the client, a snapshot that
is not pruned has been given to the client exactly once when a later poll
returns an empty page.
-/
theorem snapshot_received_once_of_execution
    (ahead : AlwaysAhead execution)
    {inserted finished limit : Nat}
    {timestampNs : UInt64}
    {canisterId : Principal}
    {snapshot : CyclesMetricsSnapshot}
    (insertion : execution.event inserted = .inserted timestampNs canisterId snapshot)
    (later : inserted < finished)
    (within : finished < execution.length)
    (poll : execution.event finished = .polled limit)
    (positive : 0 < limit)
    (emptyPage : (execution.state finished).page limit = [])
    (kept :
      ∀ between, inserted < between → between ≤ finished →
        (timestampNs, canisterId) ∈ (execution.state between).monitor.cyclesMetricsSnapshots) :
    ((timestampNs, canisterId), snapshot) ∈ (execution.state (finished + 1)).client.received ∧
      ((execution.state (finished + 1)).client.received.map Prod.fst).count
        (timestampNs, canisterId) = 1 := by
  have caughtUp :
      CaughtUp (execution.state finished).monitor.cyclesMetricsSnapshots
        (execution.state finished).client :=
    ahead.upToDate (Nat.le_of_lt within)
  have stored := ahead.stored insertion later (Nat.le_of_lt within) kept
  have stepped := execution.advances finished within
  rw [poll] at stepped
  have polled : (execution.state (finished + 1)).client = (execution.state finished).client := by
    rw [← Option.some_inj.mp stepped]
    simp [Client.receive, emptyPage]
  have finishedPage :
      pageAfter (execution.state finished).monitor.cyclesMetricsSnapshots
        (execution.state finished).client.cursor limit = [] := by
    rw [← State.rows_listSnapshotsAfter]
    unfold Polling.page at emptyPage
    rw [emptyPage]
    rfl
  rw [polled]
  exact caughtUp.count_eq_one positive finishedPage stored

end Runs

section SameTime

/-- Counters that show only burned cycles. -/
def burned (burnedCycles : Nat) : CyclesMetricsSnapshot :=
  ⟨0, 0, 0, 0, 0, 0, 0, burnedCycles⟩

def firstCanister : Principal :=
  ⟨[1], by decide⟩

def secondCanister : Principal :=
  ⟨[2], by decide⟩

/-- Two rounds of replies, each complete before the client polls it. -/
def completeRounds : List PollingEvent :=
  [.inserted 5 firstCanister (burned 1), .inserted 5 secondCanister (burned 2), .polled 1,
    .inserted 9 firstCanister (burned 3), .polled 1, .polled 1, .polled 1]

/-- The run of the complete rounds. -/
def completeRoundsRun : Execution Polling.step Polling.empty :=
  .ofEvents completeRounds (.polled 1) (by decide +kernel)

/-- In complete rounds, the client is given the second canister's snapshot once. -/
theorem snapshot_received_once_completeRounds :
    completeRoundsRun.event 1 = .inserted 5 secondCanister (burned 2) ∧
      ((5, secondCanister), burned 2) ∈ (completeRoundsRun.state 7).client.received ∧
      ((completeRoundsRun.state 7).client.received.map Prod.fst).count (5, secondCanister) =
        1 := by
  have ahead : AlwaysAhead completeRoundsRun := by
    unfold AlwaysAhead
    decide +kernel
  have insertion : completeRoundsRun.event 1 = .inserted 5 secondCanister (burned 2) := rfl
  have poll : completeRoundsRun.event 6 = .polled 1 := rfl
  have emptyPage : (completeRoundsRun.state 6).page 1 = [] := by decide +kernel
  have kept :
      ∀ between, between ≤ 6 → 1 < between →
        (5, secondCanister) ∈
          (completeRoundsRun.state between).monitor.cyclesMetricsSnapshots := by
    decide +kernel
  exact ⟨insertion,
    snapshot_received_once_of_execution ahead insertion (by decide) (by decide) poll
      (by decide) emptyPage fun between later within => kept between within later⟩

/-- A poll between two replies of one time. -/
def splitRound : List PollingEvent :=
  [.inserted 5 secondCanister (burned 2), .polled 10, .inserted 5 firstCanister (burned 1),
    .polled 10]

/-- The run of a split round. -/
def splitRoundRun : Execution Polling.step Polling.empty :=
  .ofEvents splitRound (.polled 10) (by decide +kernel)

/-- The times of the snapshots that a list of messages inserts. -/
def insertTimes (events : List PollingEvent) : List UInt64 :=
  events.filterMap fun event =>
    match event with
    | .inserted timestampNs _ _ => some timestampNs
    | .polled _ => none

/-- In a split round, the later reply of the smaller canister is never returned. -/
theorem splitRound_loses_snapshot :
    (insertTimes splitRound).Pairwise (· ≤ ·) ∧
      splitRoundRun.event 2 = .inserted 5 firstCanister (burned 1) ∧
      splitRoundRun.event 3 = .polled 10 ∧
      3 < splitRoundRun.length ∧
      (splitRoundRun.state 3).page 10 = [] ∧
      (5, firstCanister) ∈ (splitRoundRun.state 3).monitor.cyclesMetricsSnapshots ∧
      ((splitRoundRun.state 4).client.received.map Prod.fst).count (5, firstCanister) = 0 := by
  decide +kernel

end SameTime

end SsnConsole.CyclesMonitor
