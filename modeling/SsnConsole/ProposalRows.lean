import SsnConsole.BackendRecords
import SsnConsole.Cbor

/-!
# Stored proposals

How `Storable for Proposal` writes a proposal to its row and reads it back.  A row
that does not read as a proposal of the current shape is read as one of the
earlier shape, whose status is dropped.
-/

namespace SsnConsole.Backend

open SsnConsole.Cbor

/-- What rows take from outside the source: the bytes of UUIDs and of CBOR items. -/
class RowFormat where
  /-- `Uuid::as_bytes`. -/
  uuidBytes : Nat → List UInt8
  /-- `Uuid::from_slice`. -/
  uuidFromSlice : List UInt8 → Option Nat
  /-- A UUID is read back from its bytes. -/
  uuidFromSlice_uuidBytes : ∀ uuid, uuidFromSlice (uuidBytes uuid) = some uuid
  /-- A principal of full length is no UUID. -/
  uuidFromSlice_principal :
    ∀ content : List UInt8, content.length = 29 → uuidFromSlice content = none
  /-- `ciborium::into_writer`. -/
  intoWriter : Item → List UInt8
  /-- `ciborium::de::from_reader`. -/
  fromReader : List UInt8 → Option Item
  /-- An item is read back from what was written. -/
  fromReader_intoWriter : ∀ item, fromReader (intoWriter item) = some item

section Serde

variable {α : Type}

/-- A struct or a struct variant: its fields by their names. -/
def structItem (fields : List (String × Item)) : Item :=
  .map (fields.map fun (name, value) => (.text name, value))

/-- The fields of a struct, by their names. -/
def structFields : Item → Option (List (String × Item))
  | .map entries =>
      entries.mapM fun
        | (.text name, value) => some (name, value)
        | _ => none
  | _ => none

/-- A field that may be missing. -/
def fieldOrDefault (missing : Option α) (deserialize : Item → Option α)
    (fields : List (String × Item)) (name : String) : Option α :=
  match fields.filter fun field => field.1 = name with
  | [] => missing
  | [(_, value)] => deserialize value
  | _ => none

/-- A field that must be there. -/
def field (deserialize : Item → Option α) (fields : List (String × Item))
    (name : String) : Option α :=
  fieldOrDefault none deserialize fields name

/-- An optional value. -/
def optionItem (serialize : α → Item) : Option α → Item
  | none => .null
  | some value => serialize value

/-- Read an optional value. -/
def optionFrom (deserialize : Item → Option α) : Item → Option (Option α)
  | .null => some none
  | item => (deserialize item).map some

/-- Read a vector. -/
def arrayFrom (deserialize : Item → Option α) : Item → Option (List α)
  | .array items => items.mapM deserialize
  | _ => none

/-- Read an integer; a row holds one that fits the field it was written from. -/
def unsignedFrom : Item → Option Nat
  | .unsigned value => some value
  | _ => none

/-- Read a string. -/
def textFrom : Item → Option String
  | .text content => some content
  | _ => none

/-- The fields of a struct are read back. -/
@[simp] theorem structFields_structItem
    (fields : List (String × Item)) :
    structFields (structItem fields) = some fields := by
  rw [structItem, structFields]
  induction fields with
  | nil => rfl
  | cons field fields ih =>
      rw [List.map_cons, List.mapM_cons, ih]
      rfl

/-- A vector is read back when its items are. -/
theorem arrayFrom_array
    {serialize : α → Item}
    {deserialize : Item → Option α}
    (readBack : ∀ value, deserialize (serialize value) = some value)
    (values : List α) :
    arrayFrom deserialize (.array (values.map serialize)) = some values := by
  rw [arrayFrom]
  induction values with
  | nil => rfl
  | cons value values ih =>
      rw [List.map_cons, List.mapM_cons, readBack, ih]
      rfl

/-- An optional number is read back. -/
theorem optionFrom_optionItem
    (value : Option Nat) :
    optionFrom unsignedFrom (optionItem .unsigned value) = some value := by
  cases value <;> rfl

end Serde

section Rows

variable [RowFormat]

namespace Id

variable {marker : Marker}

def serialize (id : Id marker) : Item :=
  .bytes (RowFormat.uuidBytes id.uuid)

def deserialize : Item → Option (Id marker)
  | .bytes content => (RowFormat.uuidFromSlice content).map fun uuid => ⟨uuid⟩
  | _ => none

/-- An identifier is read back. -/
@[simp] theorem deserialize_serialize
    (id : Id marker) :
    deserialize id.serialize = some id := by
  simp [serialize, deserialize, RowFormat.uuidFromSlice_uuidBytes]

end Id

namespace Principal

def serialize (principal : Principal) : Item :=
  .bytes principal.bytes

def deserialize : Item → Option Principal
  | .bytes content =>
      if short : content.length ≤ 29 then some ⟨content, short⟩ else none
  | _ => none

omit [RowFormat] in
/-- A principal is read back. -/
@[simp] theorem deserialize_serialize
    (principal : Principal) :
    deserialize principal.serialize = some principal := by
  simp [serialize, deserialize, principal.short]

end Principal

namespace Vote

def serialize : Vote → Item
  | .approve => .text "Approve"
  | .reject => .text "Reject"

def deserialize : Item → Option Vote
  | .text "Approve" => some .approve
  | .text "Reject" => some .reject
  | _ => none

/-- A recorded vote: the approver and what they voted. -/
def serializeEntry (entry : UserId × Vote) : Item :=
  .array [entry.1.serialize, entry.2.serialize]

def deserializeEntry : Item → Option (UserId × Vote)
  | .array [voter, vote] => do
      let voter ← Id.deserialize voter
      let vote ← Vote.deserialize vote
      return (voter, vote)
  | _ => none

/-- A recorded vote is read back. -/
@[simp] theorem deserializeEntry_serializeEntry
    (entry : UserId × Vote) :
    deserializeEntry (serializeEntry entry) = some entry := by
  rcases entry with ⟨voter, vote⟩
  have voted : Vote.deserialize vote.serialize = some vote := by
    cases vote <;> rfl
  simp [serializeEntry, deserializeEntry, voted]

end Vote

namespace ProposalStatus

def serialize : ProposalStatus → Item
  | .open => .text "Open"
  | .pendingApproval threshold approvers votes =>
      structItem
        [("PendingApproval",
          structItem
            [("threshold", .unsigned threshold),
              ("approvers", .array (approvers.map Id.serialize)),
              ("votes", .array (votes.map Vote.serializeEntry))])]
  | .rejected => .text "Rejected"
  | .cancelled => .text "Cancelled"
  | .executing => .text "Executing"
  | .executed => .text "Executed"
  | .failed message => structItem [("Failed", .text message)]

/-- Read the fields of `PendingApproval`. -/
def deserializePending (item : Item) : Option ProposalStatus := do
  let fields ← structFields item
  let threshold ← field unsignedFrom fields "threshold"
  let approvers ← field (arrayFrom Id.deserialize) fields "approvers"
  let votes ← field (arrayFrom Vote.deserializeEntry) fields "votes"
  return .pendingApproval threshold approvers votes

def deserialize : Item → Option ProposalStatus
  | .text "Open" => some .open
  | .text "Rejected" => some .rejected
  | .text "Cancelled" => some .cancelled
  | .text "Executing" => some .executing
  | .text "Executed" => some .executed
  | .map [(.text "PendingApproval", item)] => deserializePending item
  | .map [(.text "Failed", item)] => (textFrom item).map .failed
  | _ => none

/-- Every status is read back, whatever threshold, approvers and votes it carries. -/
@[simp] theorem deserialize_serialize
    (status : ProposalStatus) :
    deserialize status.serialize = some status := by
  cases status with
  | «open» => rfl
  | pendingApproval threshold approvers votes =>
      have readApprovers :
          arrayFrom Id.deserialize (.array (approvers.map Id.serialize)) = some approvers :=
        arrayFrom_array Id.deserialize_serialize approvers
      have readVotes := arrayFrom_array Vote.deserializeEntry_serializeEntry votes
      change deserializePending _ = _
      simp [deserializePending, field, fieldOrDefault, unsignedFrom, readApprovers, readVotes]
  | rejected => rfl
  | cancelled => rfl
  | executing => rfl
  | executed => rfl
  | failed message => rfl

end ProposalStatus

namespace ProposalOperation

def serialize : ProposalOperation → Item
  | .createCanister => .text "CreateCanister"
  | .addCanisterController canisterId controllerId =>
      structItem
        [("AddCanisterController",
          structItem
            [("canister_id", canisterId.serialize),
              ("controller_id", controllerId.serialize)])]

/-- Read the fields of `AddCanisterController`. -/
def deserializeController (item : Item) : Option ProposalOperation := do
  let fields ← structFields item
  let canisterId ← field Principal.deserialize fields "canister_id"
  let controllerId ← field Principal.deserialize fields "controller_id"
  return .addCanisterController canisterId controllerId

def deserialize : Item → Option ProposalOperation
  | .text "CreateCanister" => some .createCanister
  | .map [(.text "AddCanisterController", item)] => deserializeController item
  | _ => none

omit [RowFormat] in
/-- An operation is read back. -/
@[simp] theorem deserialize_serialize
    (operation : ProposalOperation) :
    deserialize operation.serialize = some operation := by
  cases operation with
  | createCanister => rfl
  | addCanisterController canisterId controllerId =>
      change deserializeController _ = _
      simp [deserializeController, field, fieldOrDefault]

end ProposalOperation

/-- `LegacyProposal`: a row of the earlier shape, its status any item. -/
structure LegacyProposal where
  projectId : ProjectId
  proposerId : UserId
  status : Item
  operation : ProposalOperation
  createdAtNanos : Option Nat
  updatedAtNanos : Option Nat

/-- Without its status, a legacy proposal is open again. -/
def LegacyProposal.reset (legacy : LegacyProposal) : Proposal where
  projectId := legacy.projectId
  proposerId := legacy.proposerId
  status := .open
  operation := legacy.operation
  createdAtNanos := legacy.createdAtNanos
  updatedAtNanos := legacy.updatedAtNanos

/-- An optional timestamp; it may be missing. -/
def timestamp (fields : List (String × Item)) (name : String) : Option (Option Nat) :=
  fieldOrDefault (some none) (optionFrom unsignedFrom) fields name

def LegacyProposal.deserialize (item : Item) : Option LegacyProposal := do
  let fields ← structFields item
  let projectId ← field Id.deserialize fields "project_id"
  let proposerId ← field Id.deserialize fields "proposer_id"
  let status ← field some fields "status"
  let operation ← field ProposalOperation.deserialize fields "operation"
  let createdAtNanos ← timestamp fields "created_at_nanos"
  let updatedAtNanos ← timestamp fields "updated_at_nanos"
  return ⟨projectId, proposerId, status, operation, createdAtNanos, updatedAtNanos⟩

namespace Proposal

def serialize (proposal : Proposal) : Item :=
  structItem
    [("project_id", proposal.projectId.serialize),
      ("proposer_id", proposal.proposerId.serialize),
      ("status", proposal.status.serialize),
      ("operation", proposal.operation.serialize),
      ("created_at_nanos", optionItem .unsigned proposal.createdAtNanos),
      ("updated_at_nanos", optionItem .unsigned proposal.updatedAtNanos)]

/-- Read a proposal of the current shape; without a proposer it has the nil one. -/
def deserialize (item : Item) : Option Proposal := do
  let fields ← structFields item
  let projectId ← field Id.deserialize fields "project_id"
  let proposerId ← fieldOrDefault (some .nil) Id.deserialize fields "proposer_id"
  let status ← field ProposalStatus.deserialize fields "status"
  let operation ← field ProposalOperation.deserialize fields "operation"
  let createdAtNanos ← timestamp fields "created_at_nanos"
  let updatedAtNanos ← timestamp fields "updated_at_nanos"
  return ⟨projectId, proposerId, status, operation, createdAtNanos, updatedAtNanos⟩

/-- `Storable::to_bytes`. -/
def toBytes (proposal : Proposal) : List UInt8 :=
  RowFormat.intoWriter proposal.serialize

/-- `Storable::from_bytes`; it panics on a row of neither shape. -/
def fromBytes (row : List UInt8) : Option Proposal :=
  (RowFormat.fromReader row).bind fun item =>
    match Proposal.deserialize item with
    | some proposal => some proposal
    | none => (LegacyProposal.deserialize item).map LegacyProposal.reset

/-- A proposal is read back. -/
@[simp] theorem deserialize_serialize
    (proposal : Proposal) :
    deserialize proposal.serialize = some proposal := by
  simp [serialize, deserialize, field, fieldOrDefault, timestamp, optionFrom_optionItem]

/-- The row of a proposal reads as the proposal, in every status. -/
@[simp] theorem fromBytes_toBytes
    (proposal : Proposal) :
    fromBytes proposal.toBytes = some proposal := by
  simp [fromBytes, toBytes, RowFormat.fromReader_intoWriter]

end Proposal

end Rows

section Standard

/-- The bytes of a UUID: sixteen, the most significant first.  Identifiers from `2 ^ 128` on,
which no UUID is, get longer bytes. -/
def standardUuidBytes (uuid : Nat) : List UInt8 :=
  if uuid < 256 ^ 16 then bigEndian 16 uuid else List.replicate 30 0 ++ groups uuid

/-- The UUID that bytes stand for. -/
def standardUuid (content : List UInt8) : Option Nat :=
  if content.length = 16 then
    some (number content)
  else if content.length ≤ 30 then
    none
  else
    (readGroups (content.drop 30)).map Prod.fst

/-- A number in groups has at least one of them. -/
private theorem length_groups_pos
    (value : Nat) :
    0 < (groups value).length := by
  rw [groups]
  split <;> simp

/-- A UUID is read back from its bytes. -/
private theorem standardUuid_standardUuidBytes
    (uuid : Nat) :
    standardUuid (standardUuidBytes uuid) = some uuid := by
  unfold standardUuidBytes
  split
  · rename_i fits
    rw [standardUuid, length_bigEndian, if_pos rfl, number_bigEndian fits]
  · have long := length_groups_pos uuid
    have size : (List.replicate 30 (0 : UInt8) ++ groups uuid).length = 30 + (groups uuid).length := by
      rw [List.length_append, List.length_replicate]
    have rest : (List.replicate 30 (0 : UInt8) ++ groups uuid).drop 30 = groups uuid := by
      exact List.drop_left' List.length_replicate
    have read := readGroups_groups uuid []
    rw [List.append_nil] at read
    rw [standardUuid, size, if_neg (by omega), if_neg (by omega), rest, read]
    rfl

/-- Rows in the standard encodings. -/
@[reducible]
def standardRows : RowFormat where
  uuidBytes := standardUuidBytes
  uuidFromSlice := standardUuid
  uuidFromSlice_uuidBytes := standardUuid_standardUuidBytes
  uuidFromSlice_principal content full := by
    rw [standardUuid, full]
    rfl
  intoWriter := Item.encode
  fromReader := Item.decode
  fromReader_intoWriter := decode_encode

end Standard

end SsnConsole.Backend
