import SsnConsole.BackendMessages
import SsnConsole.StableTotals

/-!
# The canister-history canister

`process_canister_changes` asks the management canister for the last changes of
a canister and stores those that are new.  The reply is a window over the end of
a history; what fell out of the window before it was seen is kept as a missed
range.
-/

namespace SsnConsole.CanisterHistory

open Std
open SsnConsole.Backend
open SsnConsole.StableIndex

inductive CanisterChangeOrigin
  | fromUser (userId : Principal)
  | fromCanister (canisterId : Principal) (canisterVersion : Option Nat)
  deriving DecidableEq

inductive CodeDeploymentMode
  | install
  | reinstall
  | upgrade
  deriving DecidableEq

inductive SnapshotSource
  | takenFromCanister
  | metadataUpload
  deriving DecidableEq

inductive CanisterChangeDetails
  | creation (controllers : List Principal) (environmentVariablesHash : Option (List UInt8))
  | codeUninstall
  | codeDeployment (mode : CodeDeploymentMode) (moduleHash : List UInt8)
  | loadSnapshot
      (fromCanisterId : Option Principal)
      (snapshotId : List UInt8)
      (canisterVersion takenAtTimestamp : Nat)
      (source : SnapshotSource)
  | controllersChange (controllers : List Principal)
  deriving DecidableEq

/-- `management_canister::Change`. -/
structure Change where
  timestampNanos : Nat
  canisterVersion : Nat
  origin : CanisterChangeOrigin
  details : Option CanisterChangeDetails
  deriving DecidableEq

/-- A stored change: `Change` with the canister that it is about. -/
structure CanisterChange extends Change where
  canisterId : Principal
  deriving DecidableEq

/-- `map_management_canister_change_response`. -/
def mapManagementCanisterChangeResponse (canisterId : Principal) (change : Change) :
    CanisterChange :=
  { change with canisterId := canisterId }

structure CanisterChangeInfo where
  totalNumChanges : Nat
  storedNumChanges : Nat
  missedRanges : List (Nat × Nat)
  isDeleted : Bool
  deriving DecidableEq

namespace CanisterChangeInfo

/-- The record of a canister that is not known yet. -/
def unknown : CanisterChangeInfo :=
  ⟨0, 0, [], false⟩

end CanisterChangeInfo

/-- A random UUID that names a stored change or a failed mapping. -/
abbrev RecordId := Nat

/-- `CanisterHistoryState`, with the number of identifiers drawn so far. -/
structure State where
  canisterInfos : ExtTreeMap Principal CanisterChangeInfo
  canisterChanges : ExtTreeMap RecordId CanisterChange
  canisterIdTimestampChangeIndex : ExtTreeSet (Principal × Nat × RecordId)
  originTimestampChangeIndex : ExtTreeSet (Principal × Nat × RecordId)
  failedCanisterMappings : ExtTreeMap RecordId Backend.Dto.ParentChildMapping
  drawn : Nat

namespace State

def empty : State :=
  ⟨∅, ∅, ∅, ∅, ∅, 0⟩

variable [Host]

/-- `insert_change` with its drawn identifier. -/
def insertChange (s : State) (change : CanisterChange) : State :=
  let id := Host.draw s.drawn
  let origin :=
    match change.origin with
    | .fromUser userId => userId
    | .fromCanister canisterId _ => canisterId
  { s with
    canisterChanges := s.canisterChanges.insert id change
    originTimestampChangeIndex :=
      s.originTimestampChangeIndex.insert (origin, change.timestampNanos, id)
    canisterIdTimestampChangeIndex :=
      s.canisterIdTimestampChangeIndex.insert (change.canisterId, change.timestampNanos, id)
    drawn := s.drawn + 1 }

/-- `upsert_canister_change_info`. -/
def upsertCanisterChangeInfo (s : State) (canisterId : Principal) (info : CanisterChangeInfo) :
    State :=
  { s with canisterInfos := s.canisterInfos.insert canisterId info }

/-- `add_failed_canister_mappings`. -/
def addFailedCanisterMappings (s : State)
    (newMappings : List Backend.Dto.ParentChildMapping) : State :=
  newMappings.foldl
    (fun s mapping =>
      { s with
        failedCanisterMappings :=
          s.failedCanisterMappings.insert (Host.draw s.drawn) mapping
        drawn := s.drawn + 1 })
    s

end State

/-- What `get_canister_info` comes back with. -/
inductive CanisterInfoReply
  | info (totalNumChanges : Nat) (recentChanges : List Change)
  | canisterDeleted
  | failed (error : ApiError)

/-- The child of a change that creates a canister, with the canister that created it. -/
def createdBy (change : CanisterChange) : List Backend.Dto.ParentChildMapping :=
  match change.details, change.origin with
  | some (.creation _ _), .fromCanister parentId _ => [⟨parentId, change.canisterId⟩]
  | _, _ => []

/-- How far the loop over the recent changes has got. -/
structure Progress where
  state : State
  storedNumChanges : Nat
  newCanisterMappings : List Backend.Dto.ParentChildMapping

section Service

variable [Host]

/-- The loop's body: store a change that lies beyond what is already accounted for. -/
def processRecentChange (canisterId : Principal) (startIndex totalNumChanges : Nat)
    (progress : Progress) (entry : Change × Nat) : Progress :=
  let currentIndex := startIndex + entry.2
  if currentIndex ≥ totalNumChanges then
    let change := mapManagementCanisterChangeResponse canisterId entry.1
    { state := progress.state.insertChange change
      storedNumChanges := progress.storedNumChanges + 1
      newCanisterMappings := progress.newCanisterMappings ++ createdBy change }
  else
    progress

/-- The missed ranges with the gap before a window, if there is one. -/
def withGap (missedRanges : List (Nat × Nat)) (totalNumChanges startIndex : Nat) :
    List (Nat × Nat) :=
  if startIndex > totalNumChanges then
    missedRanges ++ [(totalNumChanges, startIndex)]
  else
    missedRanges

/-- The end of `process_canister_changes`, after a window of recent changes has come. -/
def processWindow (canisterId : Principal) (stored : CanisterChangeInfo)
    (totalNumChanges : Nat) (recentChanges : List Change) (s : State) :
    List Backend.Dto.ParentChildMapping × State :=
  let startIndex := totalNumChanges - recentChanges.length
  let progress :=
    recentChanges.zipIdx.foldl
      (processRecentChange canisterId startIndex stored.totalNumChanges)
      ⟨s, stored.storedNumChanges, []⟩
  (progress.newCanisterMappings,
    progress.state.upsertCanisterChangeInfo canisterId
      { totalNumChanges := totalNumChanges
        storedNumChanges := progress.storedNumChanges
        missedRanges := withGap stored.missedRanges stored.totalNumChanges startIndex
        isDeleted := stored.isDeleted })

/--
`process_canister_changes`: its result, the mappings that it sends to the
backend, and the state.
-/
def processCanisterChanges (canisterId : Principal) (reply : CanisterInfoReply) (s : State) :
    ApiResult Unit × List Backend.Dto.ParentChildMapping × State :=
  let existing := s.canisterInfos[canisterId]?
  let stored := existing.getD .unknown
  if stored.isDeleted then
    (.ok (), [], s)
  else
    match reply with
    | .info totalNumChanges recentChanges =>
        (.ok (), processWindow canisterId stored totalNumChanges recentChanges s)
    | .canisterDeleted =>
        match existing with
        | some stored =>
            (.ok (), [],
              s.upsertCanisterChangeInfo canisterId { stored with isDeleted := true })
        | none => (.error (.internalError s!"Canister {canisterId.text} not found"), [], s)
    | .failed error => (.error error, [], s)

/-- What happens to the canister: a run for one canister, or a failed `add_child_canisters`. -/
inductive Event
  | processed (canisterId : Principal) (reply : CanisterInfoReply)
  | mappingsFailed (newMappings : List Backend.Dto.ParentChildMapping)

/-- One event. -/
def State.step (s : State) : Event → State
  | .processed canisterId reply => (processCanisterChanges canisterId reply s).2.2
  | .mappingsFailed newMappings => s.addFailedCanisterMappings newMappings

end Service

end SsnConsole.CanisterHistory
