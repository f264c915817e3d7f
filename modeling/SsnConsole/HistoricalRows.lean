import SsnConsole.ProposalRows

/-!
# Rows of earlier versions

A stored proposal may have been written before there were proposers, before there
were timestamps, or while approvals were keyed by principals.  The shape that
`LegacyProposal` reads has no default for the proposer, so a row that is old in both
ways cannot be read.
-/

namespace SsnConsole.Backend

open SsnConsole.Cbor

section Shapes

variable [RowFormat]

/-- A pending approval from when approvers were principals. -/
structure PrincipalApproval where
  threshold : Nat
  approvers : List Principal
  votes : List (Principal × Vote)
  someApprover : approvers ≠ []
  full : ∀ approver ∈ approvers, approver.bytes.length = 29
  among : ∀ vote ∈ votes, vote.1 ∈ approvers

/-- A status that a row may hold. -/
inductive HistoricalStatus
  | current (status : ProposalStatus)
  | principalKeyed (approval : PrincipalApproval)

/-- A row of any version: what it holds, where `none` stands for a field that it lacks. -/
structure HistoricalRow where
  projectId : ProjectId
  proposerId : Option UserId
  status : HistoricalStatus
  operation : ProposalOperation
  createdAtNanos : Option (Option Nat)
  updatedAtNanos : Option (Option Nat)

/-- A recorded vote of a principal. -/
def Vote.serializePrincipalEntry (entry : Principal × Vote) : Item :=
  .array [entry.1.serialize, entry.2.serialize]

/-- The fields of a pending approval keyed by principals. -/
def PrincipalApproval.serializeFields (approval : PrincipalApproval) : Item :=
  structItem
    [("threshold", .unsigned approval.threshold),
      ("approvers", .array (approval.approvers.map Principal.serialize)),
      ("votes", .array (approval.votes.map Vote.serializePrincipalEntry))]

def HistoricalStatus.serialize : HistoricalStatus → Item
  | .current status => status.serialize
  | .principalKeyed approval => structItem [("PendingApproval", approval.serializeFields)]

/-- A column of a row: the field, if the row has it. -/
def presentField (column : String × Option Item) : List (String × Item) :=
  column.2.toList.map fun value => (column.1, value)

namespace HistoricalRow

/-- The columns of a row, in the order of the struct. -/
def columns (row : HistoricalRow) : List (String × Option Item) :=
  [("project_id", some row.projectId.serialize),
    ("proposer_id", row.proposerId.map Id.serialize),
    ("status", some row.status.serialize),
    ("operation", some row.operation.serialize),
    ("created_at_nanos", row.createdAtNanos.map (optionItem .unsigned)),
    ("updated_at_nanos", row.updatedAtNanos.map (optionItem .unsigned))]

/-- The fields that a row has. -/
def fields (row : HistoricalRow) : List (String × Item) :=
  row.columns.flatMap presentField

/-- The bytes of a row. -/
def toBytes (row : HistoricalRow) : List UInt8 :=
  RowFormat.intoWriter (structItem row.fields)

/-- The row holds a pending approval keyed by principals. -/
def PrincipalKeyed (row : HistoricalRow) : Prop :=
  ∃ approval, row.status = .principalKeyed approval

/-- The proposal that a row stands for: what it holds, the nil proposer and no timestamps
for what it lacks, and an open status in place of one keyed by principals. -/
def proposal (row : HistoricalRow) : Proposal where
  projectId := row.projectId
  proposerId := row.proposerId.getD .nil
  status :=
    match row.status with
    | .current status => status
    | .principalKeyed _ => .open
  operation := row.operation
  createdAtNanos := row.createdAtNanos.getD none
  updatedAtNanos := row.updatedAtNanos.getD none

end HistoricalRow

end Shapes

section Columns

variable {α : Type} {columns : List (String × Option Item)} {name : String}

/-- No other column has the field of a column. -/
theorem filter_flatMap_presentField
    {value : Option Item}
    (distinct : (columns.map Prod.fst).Nodup)
    (member : (name, value) ∈ columns) :
    (columns.flatMap presentField).filter (fun field => field.1 = name) =
      presentField (name, value) := by
  have own :
      ∀ column : String × Option Item,
        (presentField column).filter (fun field => field.1 = name) =
          if column.1 = name then presentField column else [] := by
    rintro ⟨other, value⟩
    cases value <;> by_cases same : other = name <;> simp [presentField, same]
  induction columns with
  | nil => cases member
  | cons first rest inductionHypothesis =>
      obtain ⟨fresh, distinct⟩ := List.nodup_cons.mp distinct
      rw [List.flatMap_cons, List.filter_append, own]
      rcases List.mem_cons.mp member with rfl | later
      · have others :
            (rest.flatMap presentField).filter (fun field => field.1 = name) = [] := by
          rw [List.filter_flatMap, List.flatMap_eq_nil_iff]
          intro column listed
          rw [own, if_neg]
          intro same
          exact fresh (List.mem_map.mpr ⟨column, listed, same⟩)
        rw [others, if_pos rfl, List.append_nil]
      · have different : first.1 ≠ name := by
          intro same
          exact fresh (List.mem_map.mpr ⟨_, later, same.symm⟩)
        rw [if_neg different, List.nil_append, inductionHypothesis distinct later]

/-- A column is read if it is there, and defaulted if it is not. -/
theorem fieldOrDefault_columns
    {value : Option Item}
    (missing : Option α)
    (deserialize : Item → Option α)
    (distinct : (columns.map Prod.fst).Nodup)
    (member : (name, value) ∈ columns) :
    fieldOrDefault missing deserialize (columns.flatMap presentField) name =
      value.elim missing deserialize := by
  rw [fieldOrDefault, filter_flatMap_presentField distinct member]
  cases value <;> rfl

end Columns

section Reading

variable [RowFormat] {row : HistoricalRow}

/-- A principal of full length is no identifier. -/
theorem Id.deserialize_principal
    {marker : Marker}
    {principal : Principal}
    (full : principal.bytes.length = 29) :
    (Id.deserialize principal.serialize : Option (Id marker)) = none := by
  rw [Principal.serialize, Id.deserialize, RowFormat.uuidFromSlice_principal _ full,
    Option.map_none]

/-- Principals do not read as accounts. -/
theorem PrincipalApproval.deserialize_approvers
    (approval : PrincipalApproval) :
    arrayFrom (Id.deserialize : Item → Option UserId)
      (.array (approval.approvers.map Principal.serialize)) = none := by
  cases listed : approval.approvers with
  | nil => exact (approval.someApprover listed).elim
  | cons first rest =>
      have full : first.bytes.length = 29 := approval.full first (by simp [listed])
      rw [arrayFrom, List.map_cons, List.mapM_cons, Id.deserialize_principal full]
      rfl

/-- A pending approval keyed by principals is no current status. -/
theorem PrincipalApproval.deserialize_serialize
    (approval : PrincipalApproval) :
    ProposalStatus.deserialize (HistoricalStatus.principalKeyed approval).serialize = none := by
  have unread := approval.deserialize_approvers
  change ProposalStatus.deserializePending _ = _
  simp [ProposalStatus.deserializePending, PrincipalApproval.serializeFields, field,
    fieldOrDefault, unsignedFrom, unread]

namespace HistoricalRow

/-- The columns have names of their own. -/
private theorem columns_distinct :
    (row.columns.map Prod.fst).Nodup := by
  simp [columns]

/-- A timestamp reads as what the row holds, or as none. -/
private theorem timestamp_column
    {name : String}
    {stored : Option (Option Nat)}
    (member : (name, stored.map (optionItem .unsigned)) ∈ row.columns) :
    timestamp row.fields name = some (stored.getD none) := by
  rw [timestamp, fields, fieldOrDefault_columns _ _ columns_distinct member]
  cases stored with
  | none => rfl
  | some value => exact optionFrom_optionItem value

/-- The fields that rows of every version have. -/
private theorem field_column
    {α : Type}
    {name : String}
    {item : Item}
    (deserialize : Item → Option α)
    (member : (name, some item) ∈ row.columns) :
    field deserialize row.fields name = deserialize item :=
  fieldOrDefault_columns none deserialize columns_distinct member

/-- The project is read in rows of every version. -/
private theorem field_projectId :
    field Id.deserialize row.fields "project_id" = some row.projectId := by
  have stored : ("project_id", some row.projectId.serialize) ∈ row.columns := by
    simp [columns]
  rw [field_column _ stored, Id.deserialize_serialize]

/-- The operation is read in rows of every version. -/
private theorem field_operation :
    field ProposalOperation.deserialize row.fields "operation" = some row.operation := by
  have stored : ("operation", some row.operation.serialize) ∈ row.columns := by
    simp [columns]
  rw [field_column _ stored, ProposalOperation.deserialize_serialize]

/-- The status is in rows of every version. -/
private theorem field_status
    {α : Type}
    (deserialize : Item → Option α) :
    field deserialize row.fields "status" = deserialize row.status.serialize := by
  have stored : ("status", some row.status.serialize) ∈ row.columns := by
    simp [columns]
  exact field_column deserialize stored

/-- A missing proposer is read as the default that the reader has for it. -/
private theorem fieldOrDefault_proposerId
    (missing : Option UserId) :
    fieldOrDefault missing Id.deserialize row.fields "proposer_id" =
      row.proposerId.elim missing some := by
  have stored : ("proposer_id", row.proposerId.map Id.serialize) ∈ row.columns := by
    simp [columns]
  rw [fields, fieldOrDefault_columns _ _ columns_distinct stored]
  cases row.proposerId with
  | none => rfl
  | some proposerId => exact Id.deserialize_serialize proposerId

/-- The timestamps of a row. -/
private theorem timestamp_createdAtNanos :
    timestamp row.fields "created_at_nanos" = some (row.createdAtNanos.getD none) :=
  timestamp_column (by simp [columns])

private theorem timestamp_updatedAtNanos :
    timestamp row.fields "updated_at_nanos" = some (row.updatedAtNanos.getD none) :=
  timestamp_column (by simp [columns])

/-- The current shape reads every row with a current status. -/
theorem deserialize_current
    {status : ProposalStatus}
    (current : row.status = .current status) :
    Proposal.deserialize (structItem row.fields) = some row.proposal := by
  have proposer :
      fieldOrDefault (some Id.nil) Id.deserialize row.fields "proposer_id" =
        some (row.proposerId.getD .nil) := by
    rw [fieldOrDefault_proposerId]
    cases row.proposerId <;> rfl
  have held : field ProposalStatus.deserialize row.fields "status" = some status := by
    rw [field_status, current]
    exact ProposalStatus.deserialize_serialize status
  simp [Proposal.deserialize, field_projectId, proposer, held, field_operation,
    timestamp_createdAtNanos, timestamp_updatedAtNanos, proposal, current]

/-- The current shape does not read approvals keyed by principals. -/
theorem deserialize_principalKeyed
    {approval : PrincipalApproval}
    (keyed : row.status = .principalKeyed approval) :
    Proposal.deserialize (structItem row.fields) = none := by
  have unread : field ProposalStatus.deserialize row.fields "status" = none := by
    rw [field_status, keyed]
    exact approval.deserialize_serialize
  simp [Proposal.deserialize, unread, field_projectId]

/-- The legacy shape reads a row only with its proposer. -/
theorem deserialize_legacy
    {approval : PrincipalApproval}
    (keyed : row.status = .principalKeyed approval) :
    (LegacyProposal.deserialize (structItem row.fields)).map LegacyProposal.reset =
      row.proposerId.map fun _ => row.proposal := by
  have proposer :
      field Id.deserialize row.fields "proposer_id" = row.proposerId := by
    rw [field, fieldOrDefault_proposerId]
    cases row.proposerId <;> rfl
  have held : field some row.fields "status" = some row.status.serialize :=
    field_status some
  cases proposed : row.proposerId with
  | none =>
      rw [proposed] at proposer
      simp [LegacyProposal.deserialize, field_projectId, proposer]
  | some proposerId =>
      rw [proposed] at proposer
      simp [LegacyProposal.deserialize, field_projectId, proposer, held, field_operation,
        timestamp_createdAtNanos, timestamp_updatedAtNanos, LegacyProposal.reset, proposal,
        keyed, proposed]

end HistoricalRow

/-- What is read of any historical row: the proposal that it stands for, unless it is keyed by
principals and lacks the proposer. -/
theorem Proposal.fromBytes_toBytes_historical
    (row : HistoricalRow) :
    Proposal.fromBytes row.toBytes =
      match row.status with
      | .current _ => some row.proposal
      | .principalKeyed _ => row.proposerId.map fun _ => row.proposal := by
  rw [Proposal.fromBytes, HistoricalRow.toBytes, RowFormat.fromReader_intoWriter,
    Option.bind_some]
  cases shape : row.status with
  | current status => rw [HistoricalRow.deserialize_current shape]
  | principalKeyed approval =>
      rw [HistoricalRow.deserialize_principalKeyed shape]
      exact HistoricalRow.deserialize_legacy shape

/-- A historical row reads as the proposal that it stands for exactly if it is not both keyed
by principals and without a proposer. -/
theorem Proposal.fromBytes_historical_iff
    (row : HistoricalRow) :
    Proposal.fromBytes row.toBytes = some row.proposal ↔
      ¬(row.PrincipalKeyed ∧ row.proposerId = none) := by
  rw [Proposal.fromBytes_toBytes_historical]
  unfold HistoricalRow.PrincipalKeyed
  cases row.status with
  | current status => simp
  | principalKeyed approval => cases row.proposerId <;> simp

end Reading

section Unreadable

attribute [local instance] standardRows

/-- A pending approval of one principal. -/
def soleApproval : PrincipalApproval where
  threshold := 1
  approvers := [⟨List.replicate 28 1 ++ [2], by decide⟩]
  votes := []
  someApprover := by decide
  full := by decide
  among := by decide

/-- A row with this approval from before there were proposers. -/
def unproposedRow : HistoricalRow where
  projectId := ⟨7⟩
  proposerId := none
  status := .principalKeyed soleApproval
  operation := .createCanister
  createdAtNanos := none
  updatedAtNanos := none

/-- The row cannot be read. -/
theorem unproposedRow_unreadable :
    ∃ row : HistoricalRow, Proposal.fromBytes row.toBytes = none :=
  ⟨unproposedRow, by rw [Proposal.fromBytes_toBytes_historical]; rfl⟩

end Unreadable

end SsnConsole.Backend
