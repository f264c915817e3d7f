import SsnConsole.BackendTypes
import SsnConsole.CursorPaging

/-!
# The cycles-monitor canister

Snapshots of a canister's cycle counters are stored under the time of the reply
that brought them, and old snapshots of a canister are pruned when a new one of
it comes.  Clients list the snapshots page by page.
-/

namespace SsnConsole.CyclesMonitor

open Std
open SsnConsole.Backend (Principal)
open SsnConsole.CursorPaging
open SsnConsole.StableIndex

structure CyclesMetricsSnapshot where
  memory : Nat
  computeAllocation : Nat
  ingressInduction : Nat
  instructions : Nat
  requestAndResponseTransmission : Nat
  uninstall : Nat
  httpOutcalls : Nat
  burnedCycles : Nat
  deriving DecidableEq

/-- The key of a stored snapshot, and a cursor: its time and its canister. -/
abbrev Cursor := UInt64 × Principal

/-- `dto::CyclesMetricsSnapshotDto`. -/
structure CyclesMetricsSnapshotDto extends CyclesMetricsSnapshot where
  timestampNs : UInt64
  canisterId : Principal
  deriving DecidableEq

namespace CyclesMetricsSnapshotDto

/-- A listed snapshot from its stored row. -/
def ofRow (row : Cursor × CyclesMetricsSnapshot) : CyclesMetricsSnapshotDto :=
  { row.2 with timestampNs := row.1.1, canisterId := row.1.2 }

/-- The row that a listed snapshot comes from. -/
def row (snapshot : CyclesMetricsSnapshotDto) : Cursor × CyclesMetricsSnapshot :=
  ((snapshot.timestampNs, snapshot.canisterId), snapshot.toCyclesMetricsSnapshot)

end CyclesMetricsSnapshotDto

/-- 24 hours. -/
def TARGET_RETENTION_PERIOD_NANOS : UInt64 :=
  24 * 60 * 60 * 1000000000

/-- `CyclesMonitorState`. -/
structure State where
  cyclesMetricsSnapshots : ExtTreeMap Cursor CyclesMetricsSnapshot
  canisterTimestampsIndex : ExtTreeSet (Principal × UInt64)
  latestCyclesMetricsSnapshots : ExtTreeMap Principal CyclesMetricsSnapshot

namespace State

def empty : State :=
  ⟨∅, ∅, ∅⟩

/-- The times of a canister's snapshots that are too old at a new one's time. -/
def staleSnapshots (s : State) (timestampNs : UInt64) (canisterId : Principal) : List UInt64 :=
  if TARGET_RETENTION_PERIOD_NANOS ≤ timestampNs then
    (prefixRows s.canisterTimestampsIndex canisterId).filter
      fun time => decide (time ≤ timestampNs - TARGET_RETENTION_PERIOD_NANOS)
  else
    []

/-- `insert_snapshot`. -/
def insertSnapshot (s : State) (timestampNs : UInt64) (canisterId : Principal)
    (snapshot : CyclesMetricsSnapshot) : State :=
  let stale := s.staleSnapshots timestampNs canisterId
  { cyclesMetricsSnapshots :=
      (eraseKeys s.cyclesMetricsSnapshots (stale.map fun time => (time, canisterId))).insert
        (timestampNs, canisterId) snapshot
    canisterTimestampsIndex :=
      (eraseRows s.canisterTimestampsIndex (stale.map fun time => (canisterId, time))).insert
        (canisterId, timestampNs)
    latestCyclesMetricsSnapshots :=
      s.latestCyclesMetricsSnapshots.insert canisterId snapshot }

/-- `list_snapshots_after`: a page, and a cursor if there are more rows. -/
def listSnapshotsAfter (s : State) (cursor : Option Cursor) (limit : Nat) :
    List CyclesMetricsSnapshotDto × Option Cursor :=
  let rows := pageAfter s.cyclesMetricsSnapshots cursor (limit + 1)
  let page := rows.take limit
  (page.map .ofRow, if rows.length > limit then page.getLast?.map Prod.fst else none)

/-- The listed snapshots come from the first rows beyond the cursor. -/
theorem rows_listSnapshotsAfter
    (s : State)
    (cursor : Option Cursor)
    (limit : Nat) :
    (s.listSnapshotsAfter cursor limit).1.map CyclesMetricsSnapshotDto.row =
      pageAfter s.cyclesMetricsSnapshots cursor limit := by
  have first :
      (pageAfter s.cyclesMetricsSnapshots cursor (limit + 1)).take limit =
        pageAfter s.cyclesMetricsSnapshots cursor limit := by
    unfold pageAfter
    rw [List.take_take, Nat.min_eq_left (Nat.le_succ limit)]
  have listed :
      (s.listSnapshotsAfter cursor limit).1 =
        (pageAfter s.cyclesMetricsSnapshots cursor limit).map .ofRow := by
    rw [← first]
    rfl
  rw [listed, List.map_map]
  exact List.map_id _

/-- A stored row is the new one or an old one that is not pruned. -/
theorem getElem?_insertSnapshot
    (s : State)
    (timestampNs : UInt64)
    (canisterId : Principal)
    (snapshot : CyclesMetricsSnapshot)
    (key : Cursor) :
    (s.insertSnapshot timestampNs canisterId snapshot).cyclesMetricsSnapshots[key]? =
      if key = (timestampNs, canisterId) then some snapshot
      else if key ∈ (s.staleSnapshots timestampNs canisterId).map fun time => (time, canisterId)
        then none
      else s.cyclesMetricsSnapshots[key]? := by
  unfold insertSnapshot
  rw [getElem?_insert_entry, getElem?_eraseKeys]
  by_cases stale :
      key ∈ (s.staleSnapshots timestampNs canisterId).map fun time => (time, canisterId)
  · rw [if_pos stale, if_pos stale]
  · rw [if_neg stale, if_neg stale]

end State

end SsnConsole.CyclesMonitor
