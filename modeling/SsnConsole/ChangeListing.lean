import SsnConsole.HistoryAccounting
import SsnConsole.OffsetPaging
import SsnConsole.PageWalk

/-!
# Listing the changes of a canister

`list_canister_changes` counts pages by the counter of a canister's record and
cuts them from the rows of an index that is ordered by time and identifier, each
joined with the change that it names.  After any runs the counter, the rows and
the stored changes agree, so the pages are complete in either direction.
-/

namespace SsnConsole.CanisterHistory

open Std
open SsnConsole.Backend
open SsnConsole.OffsetPaging
open SsnConsole.PageWalk
open SsnConsole.StableIndex

def MIN_PAGINATION_LIMIT : Nat := 1
def MAX_PAGINATION_LIMIT : Nat := 50
def DEFAULT_PAGINATION_LIMIT : Nat := 10
def MIN_PAGINATION_PAGE : Nat := 1
def DEFAULT_PAGINATION_PAGE : Nat := 1

namespace Dto

inductive CanisterChangeDetails
  | creation (controllers : List Principal) (environmentVariablesHash : Option (List UInt8))
  | codeUninstall
  | codeDeployment (mode : Option CodeDeploymentMode) (moduleHash : List UInt8)
  | loadSnapshot
      (fromCanisterId : Option Principal)
      (snapshotId : List UInt8)
      (canisterVersion takenAtTimestamp : Nat)
      (source : Option SnapshotSource)
  | controllersChange (controllers : List Principal)
  deriving DecidableEq

structure CanisterChange where
  id : String
  canisterId : Principal
  timestampNanos : Nat
  canisterVersion : Nat
  origin : Option CanisterChangeOrigin
  details : Option CanisterChangeDetails
  deriving DecidableEq

structure ListCanisterChangesRequest where
  canisterId : Principal
  reverse : Option Bool
  limit : Option Nat
  page : Option Nat

structure PaginationMetaResponse where
  limit : Nat
  page : Nat
  totalItems : Nat
  totalPages : Nat
  deriving DecidableEq

structure ListCanisterChangesResponse where
  changes : List CanisterChange
  isDeleted : Bool
  paginationMeta : PaginationMetaResponse
  deriving DecidableEq

end Dto

/-- The details of a change as a client sees them. -/
def mapDetails : CanisterChangeDetails → Dto.CanisterChangeDetails
  | .creation controllers environmentVariablesHash =>
      .creation controllers environmentVariablesHash
  | .codeUninstall => .codeUninstall
  | .codeDeployment mode moduleHash => .codeDeployment (some mode) moduleHash
  | .loadSnapshot fromCanisterId snapshotId canisterVersion takenAtTimestamp source =>
      .loadSnapshot fromCanisterId snapshotId canisterVersion takenAtTimestamp (some source)
  | .controllersChange controllers => .controllersChange controllers

/-- `map_canister_change_response`. -/
def mapCanisterChangeResponse [Host] (row : RecordId × CanisterChange) : Dto.CanisterChange where
  id := Host.uuidText row.1
  canisterId := row.2.canisterId
  timestampNanos := row.2.timestampNanos
  canisterVersion := row.2.canisterVersion
  origin := some row.2.origin
  details := row.2.details.map mapDetails

namespace State

def getCanisterChangesCount (s : State) (canisterId : Principal) : Nat :=
  (s.canisterInfos[canisterId]?.map (·.storedNumChanges)).getD 0

/-- The rows of a canister, by time and identifier. -/
def changeRows (s : State) (canisterId : Principal) : List (Nat × RecordId) :=
  prefixRows s.canisterIdTimestampChangeIndex canisterId

/-- A row with the change that it names. -/
def joinChange (s : State) (row : Nat × RecordId) : Option (RecordId × CanisterChange) :=
  s.canisterChanges[row.2]?.map fun change => (row.2, change)

/-- `list_canister_changes` of the repository. -/
def listCanisterChanges (s : State) (canisterId : Principal) (reverse : Bool)
    (limit page : Nat) : List (RecordId × CanisterChange) :=
  let rangeIter := s.changeRows canisterId
  let iter := if reverse then rangeIter.reverse else rangeIter
  wordPage USIZE_BITS (iter.filterMap s.joinChange) limit page

/-- A change takes three rows: its own and one in each of two indexes.  Each names it by 16 bytes
and holds its time in 8. -/
def CHANGE_BYTES : Nat :=
  3 * (16 + 8)

/-- The rows fit into the stable memory that they are kept in. -/
def FitsStableMemory (s : State) : Prop :=
  s.canisterIdTimestampChangeIndex.size * CHANGE_BYTES ≤ STABLE_MEMORY_BYTES

instance (s : State) : Decidable s.FitsStableMemory :=
  inferInstanceAs (Decidable (_ ≤ _))

end State

/-- `list_canister_changes`. -/
def listCanisterChanges [Host] (req : Dto.ListCanisterChangesRequest) (s : State) :
    Dto.ListCanisterChangesResponse :=
  let reverse := req.reverse.getD false
  let limit :=
    clamp (req.limit.getD DEFAULT_PAGINATION_LIMIT) MIN_PAGINATION_LIMIT MAX_PAGINATION_LIMIT
  let page := req.page.getD DEFAULT_PAGINATION_PAGE
  let totalItems := s.getCanisterChangesCount req.canisterId
  let totalPages := max (divCeil totalItems limit) MIN_PAGINATION_PAGE
  let page := clamp page MIN_PAGINATION_PAGE totalPages
  let changes := s.listCanisterChanges req.canisterId reverse limit page
  { changes := changes.map mapCanisterChangeResponse
    isDeleted := (s.canisterInfos[req.canisterId]?.map (·.isDeleted)).getD false
    paginationMeta := ⟨limit, page, totalItems, totalPages⟩ }

section Insertions

variable [Host]

/-- The changes of a window that lie beyond what is accounted for. -/
def newChanges (canisterId : Principal) (startIndex totalNumChanges : Nat)
    (entries : List (Change × Nat)) : List CanisterChange :=
  (entries.filter fun entry => decide (startIndex + entry.2 ≥ totalNumChanges)).map fun entry =>
    mapManagementCanisterChangeResponse canisterId entry.1

/-- The loop over a window inserts its new changes, one after the other. -/
theorem foldl_processRecentChange
    (canisterId : Principal)
    (startIndex totalNumChanges : Nat)
    (entries : List (Change × Nat))
    (progress : Progress) :
    (entries.foldl (processRecentChange canisterId startIndex totalNumChanges) progress).state =
        (newChanges canisterId startIndex totalNumChanges entries).foldl State.insertChange
          progress.state ∧
      (entries.foldl (processRecentChange canisterId startIndex totalNumChanges)
          progress).storedNumChanges =
        progress.storedNumChanges +
          (newChanges canisterId startIndex totalNumChanges entries).length := by
  induction entries generalizing progress with
  | nil => exact ⟨rfl, rfl⟩
  | cons entry rest hypothesis =>
      by_cases fresh : startIndex + entry.2 ≥ totalNumChanges
      · obtain ⟨state, stored⟩ :=
          hypothesis (processRecentChange canisterId startIndex totalNumChanges progress entry)
        have first :
            newChanges canisterId startIndex totalNumChanges (entry :: rest) =
              mapManagementCanisterChangeResponse canisterId entry.1 ::
                newChanges canisterId startIndex totalNumChanges rest := by
          simp [newChanges, fresh]
        have step :
            processRecentChange canisterId startIndex totalNumChanges progress entry =
              { state :=
                  progress.state.insertChange
                    (mapManagementCanisterChangeResponse canisterId entry.1)
                storedNumChanges := progress.storedNumChanges + 1
                newCanisterMappings :=
                  progress.newCanisterMappings ++
                    createdBy (mapManagementCanisterChangeResponse canisterId entry.1) } := by
          simp [processRecentChange, fresh]
        rw [first, List.foldl_cons, List.foldl_cons, List.length_cons]
        constructor
        · rw [state, step]
        · rw [stored, step]
          exact Nat.add_right_comm _ _ _
      · have none :
            newChanges canisterId startIndex totalNumChanges (entry :: rest) =
              newChanges canisterId startIndex totalNumChanges rest := by
          simp [newChanges, fresh]
        have step :
            processRecentChange canisterId startIndex totalNumChanges progress entry =
              progress := by
          simp [processRecentChange, fresh]
        rw [none, List.foldl_cons, step]
        exact hypothesis progress

/-- The index names exactly the stored changes, and their identifiers were drawn. -/
structure Indexed (s : State) : Prop where
  drawnIds : DrawnIds s
  rows :
    ∀ canisterId timestampNanos id,
      (canisterId, timestampNanos, id) ∈ s.canisterIdTimestampChangeIndex ↔
        ∃ change, s.canisterChanges[id]? = some change ∧ change.canisterId = canisterId ∧
          change.timestampNanos = timestampNanos

/-- Nothing is indexed at first. -/
theorem indexed_empty : Indexed .empty where
  drawnIds := by
    intro id member
    exact absurd member ExtTreeMap.not_mem_empty
  rows := by
    intro canisterId timestampNanos id
    constructor
    · intro member
      exact absurd member ExtTreeSet.not_mem_empty
    · rintro ⟨change, stored, -⟩
      exact absurd (stored.symm.trans ExtTreeMap.getElem?_empty) (by simp)

/-- An inserted change is indexed. -/
theorem Indexed.insertChange
    {s : State}
    (indexed : Indexed s)
    (change : CanisterChange) :
    Indexed (s.insertChange change) where
  drawnIds := indexed.drawnIds.insertChange change
  rows := by
    intro canisterId timestampNanos id
    have fresh : s.canisterChanges[Host.draw s.drawn]? = none := indexed.drawnIds.fresh
    have stored :
        (s.insertChange change).canisterChanges[id]? =
          if id = Host.draw s.drawn then some change else s.canisterChanges[id]? :=
      getElem?_insert_entry
    have row :
        (canisterId, timestampNanos, id) ∈
            (s.insertChange change).canisterIdTimestampChangeIndex ↔
          (canisterId, timestampNanos, id) ∈ s.canisterIdTimestampChangeIndex ∨
            (canisterId, timestampNanos, id) =
              (change.canisterId, change.timestampNanos, Host.draw s.drawn) :=
      mem_insert_row
    rw [row, stored, indexed.rows]
    by_cases new : id = Host.draw s.drawn
    · subst new
      rw [if_pos rfl, fresh]
      constructor
      · rintro (⟨other, absent, -⟩ | same)
        · cases absent
        · cases same
          exact ⟨change, rfl, rfl, rfl⟩
      · rintro ⟨other, same, rfl, rfl⟩
        cases same
        exact Or.inr rfl
    · rw [if_neg new]
      constructor
      · rintro (known | same)
        · exact known
        · cases same
          exact absurd rfl new
      · exact Or.inl

/-- The rows of a canister after an insertion. -/
theorem Indexed.changeRows_insertChange
    {s : State}
    (indexed : Indexed s)
    (change : CanisterChange)
    (canisterId : Principal) :
    ((s.insertChange change).changeRows canisterId).Perm
      (if change.canisterId = canisterId then
        (change.timestampNanos, Host.draw s.drawn) :: s.changeRows canisterId
      else s.changeRows canisterId) := by
  have absent (timestampNanos : Nat) :
      (timestampNanos, Host.draw s.drawn) ∉ s.changeRows canisterId := by
    intro member
    obtain ⟨other, stored, -⟩ := (indexed.rows _ _ _).mp (mem_prefixRows.mp member)
    rw [indexed.drawnIds.fresh] at stored
    cases stored
  have member (row : Nat × RecordId) :
      row ∈ (s.insertChange change).changeRows canisterId ↔
        row ∈ s.changeRows canisterId ∨
          change.canisterId = canisterId ∧ row = (change.timestampNanos, Host.draw s.drawn) := by
    unfold State.changeRows
    rw [mem_prefixRows, mem_prefixRows]
    change _ ∈ s.canisterIdTimestampChangeIndex.insert _ ↔ _
    rw [mem_insert_row, Prod.mk.injEq, eq_comm (a := canisterId)]
  split_ifs with own
  · apply (List.perm_ext_iff_of_nodup (nodup_prefixRows _ _)
      (List.nodup_cons.mpr ⟨absent _, nodup_prefixRows _ _⟩)).mpr
    intro row
    apply (member row).trans
    rw [List.mem_cons, and_iff_right own, or_comm]
  · apply (List.perm_ext_iff_of_nodup (nodup_prefixRows _ _) (nodup_prefixRows _ _)).mpr
    intro row
    apply (member row).trans
    exact or_iff_left fun both => own both.1

/-- Insertions leave the records of the canisters alone. -/
theorem canisterInfos_foldl_insertChange
    (changes : List CanisterChange)
    (s : State) :
    (changes.foldl State.insertChange s).canisterInfos = s.canisterInfos := by
  induction changes generalizing s with
  | nil => rfl
  | cons change rest hypothesis => exact hypothesis (s.insertChange change)

/-- Inserted changes are indexed, and each adds one row to those of its canister. -/
theorem Indexed.foldl_insertChange
    (changes : List CanisterChange)
    {s : State}
    (indexed : Indexed s) :
    Indexed (changes.foldl State.insertChange s) ∧
      ∀ canisterId,
        ((changes.foldl State.insertChange s).changeRows canisterId).length =
          (s.changeRows canisterId).length +
            changes.countP fun change => decide (change.canisterId = canisterId) := by
  induction changes generalizing s with
  | nil => exact ⟨indexed, fun _ => rfl⟩
  | cons change rest hypothesis =>
      obtain ⟨after, grown⟩ := hypothesis (indexed.insertChange change)
      refine ⟨after, ?_⟩
      intro canisterId
      have first := (indexed.changeRows_insertChange change canisterId).length_eq
      rw [List.foldl_cons, grown, first, List.countP_cons]
      by_cases own : change.canisterId = canisterId
      · rw [if_pos own, if_pos (decide_eq_true own), List.length_cons]
        omega
      · rw [if_neg own, if_neg (by simpa using own)]
        omega

omit [Host] in
/-- All new changes of a window are changes of the canister. -/
theorem countP_newChanges
    (processedId canisterId : Principal)
    (startIndex totalNumChanges : Nat)
    (entries : List (Change × Nat)) :
    ((newChanges processedId startIndex totalNumChanges entries).countP fun change =>
        decide (change.canisterId = canisterId)) =
      if canisterId = processedId then
        (newChanges processedId startIndex totalNumChanges entries).length
      else
        0 := by
  have own :
      ∀ change ∈ newChanges processedId startIndex totalNumChanges entries,
        change.canisterId = processedId := by
    intro change member
    obtain ⟨entry, -, rfl⟩ := List.mem_map.mp member
    rfl
  split_ifs with same
  · apply List.countP_eq_length.mpr
    intro change member
    exact decide_eq_true ((own change member).trans same.symm)
  · apply List.countP_eq_zero.mpr
    intro change member equal
    exact same ((of_decide_eq_true equal).symm.trans (own change member))

end Insertions

section Runs

variable [Host]

/-- The counter of a record says how many rows its canister has. -/
structure Tallied (s : State) : Prop where
  indexed : Indexed s
  counted : ∀ canisterId, s.getCanisterChangesCount canisterId = (s.changeRows canisterId).length

/-- Nothing is counted at first. -/
theorem tallied_empty : Tallied .empty where
  indexed := indexed_empty
  counted _ := rfl

omit [Host] in
/-- The counter of a canister after its record is written. -/
theorem getCanisterChangesCount_upsert
    (s : State)
    (processedId canisterId : Principal)
    (info : CanisterChangeInfo) :
    (s.upsertCanisterChangeInfo processedId info).getCanisterChangesCount canisterId =
      if canisterId = processedId then info.storedNumChanges
      else s.getCanisterChangesCount canisterId := by
  unfold State.getCanisterChangesCount State.upsertCanisterChangeInfo
  rw [getElem?_insert_entry]
  split_ifs <;> rfl

omit [Host] in
/-- The counter that a run starts from. -/
theorem storedNumChanges_getD_unknown
    (s : State)
    (canisterId : Principal) :
    (s.canisterInfos[canisterId]?.getD .unknown).storedNumChanges =
      s.getCanisterChangesCount canisterId := by
  unfold State.getCanisterChangesCount
  cases s.canisterInfos[canisterId]? <;> rfl

/-- A run over a window inserts its new changes and then writes the canister's record. -/
theorem processWindow_eq
    (processedId : Principal)
    (stored : CanisterChangeInfo)
    (totalNumChanges : Nat)
    (recentChanges : List Change)
    (s : State) :
    (processWindow processedId stored totalNumChanges recentChanges s).2 =
      ((newChanges processedId (totalNumChanges - recentChanges.length) stored.totalNumChanges
          recentChanges.zipIdx).foldl State.insertChange s).upsertCanisterChangeInfo processedId
        { totalNumChanges := totalNumChanges
          storedNumChanges :=
            stored.storedNumChanges +
              (newChanges processedId (totalNumChanges - recentChanges.length)
                stored.totalNumChanges recentChanges.zipIdx).length
          missedRanges :=
            withGap stored.missedRanges stored.totalNumChanges
              (totalNumChanges - recentChanges.length)
          isDeleted := stored.isDeleted } := by
  obtain ⟨state, counted⟩ :=
    foldl_processRecentChange processedId (totalNumChanges - recentChanges.length)
      stored.totalNumChanges recentChanges.zipIdx ⟨s, stored.storedNumChanges, []⟩
  unfold processWindow
  dsimp only
  rw [state, counted]

/-- A window, whatever it shows, is counted. -/
theorem Tallied.processWindow
    {s : State}
    (tallied : Tallied s)
    (processedId : Principal)
    (totalNumChanges : Nat)
    (recentChanges : List Change) :
    Tallied
      (processWindow processedId (s.canisterInfos[processedId]?.getD .unknown) totalNumChanges
        recentChanges s).2 := by
  rw [processWindow_eq]
  generalize listed :
    newChanges processedId (totalNumChanges - recentChanges.length)
      (s.canisterInfos[processedId]?.getD .unknown).totalNumChanges recentChanges.zipIdx =
        inserted
  obtain ⟨indexed, grown⟩ := tallied.indexed.foldl_insertChange inserted
  have own (canisterId : Principal) :
      (inserted.countP fun change => decide (change.canisterId = canisterId)) =
        if canisterId = processedId then inserted.length else 0 := by
    rw [← listed]
    exact countP_newChanges processedId canisterId _ _ _
  constructor
  · exact ⟨indexed.drawnIds, indexed.rows⟩
  · intro canisterId
    rw [getCanisterChangesCount_upsert, storedNumChanges_getD_unknown, tallied.counted]
    change _ = ((inserted.foldl State.insertChange s).changeRows canisterId).length
    rw [grown, own]
    split_ifs with processed
    · rw [processed]
    · unfold State.getCanisterChangesCount
      rw [canisterInfos_foldl_insertChange]
      exact tallied.counted canisterId

/-- Failed mappings touch no row of a change. -/
theorem index_addFailedCanisterMappings
    (newMappings : List Backend.Dto.ParentChildMapping)
    (s : State) :
    (s.addFailedCanisterMappings newMappings).canisterIdTimestampChangeIndex =
      s.canisterIdTimestampChangeIndex := by
  unfold State.addFailedCanisterMappings
  induction newMappings generalizing s with
  | nil => rfl
  | cons mapping rest hypothesis => exact hypothesis _

/-- Every event keeps the counters. -/
theorem Tallied.step
    {s : State}
    (tallied : Tallied s)
    (event : Event) :
    Tallied (s.step event) := by
  have ended := step_ended s event
  generalize s.step event = after at ended
  cases ended with
  | unchanged => exact tallied
  | @deleted processedId _ stored known =>
      constructor
      · exact ⟨tallied.indexed.drawnIds, tallied.indexed.rows⟩
      · intro canisterId
        have kept : s.getCanisterChangesCount processedId = stored.storedNumChanges := by
          unfold State.getCanisterChangesCount
          rw [known]
          rfl
        rw [getCanisterChangesCount_upsert]
        change _ = (s.changeRows canisterId).length
        rw [← tallied.counted]
        split_ifs with own
        · rw [own, kept]
        · rfl
  | window processedId totalNumChanges recentChanges =>
      exact tallied.processWindow processedId totalNumChanges recentChanges
  | failed newMappings =>
      obtain ⟨infos, changes, drawn⟩ := untouched_addFailedCanisterMappings s newMappings
      have index := index_addFailedCanisterMappings newMappings s
      constructor
      · constructor
        · intro id member
          rw [changes] at member
          obtain ⟨drawing, earlier, rfl⟩ := tallied.indexed.drawnIds id member
          exact ⟨drawing, by omega, rfl⟩
        · rw [changes, index]
          exact tallied.indexed.rows
      · intro canisterId
        unfold State.getCanisterChangesCount State.changeRows
        rw [infos, index]
        exact tallied.counted canisterId

/-- The counters are right in every state that runs lead to. -/
theorem tallied_foldl_step
    (events : List Event) :
    Tallied (events.foldl State.step State.empty) := by
  have kept (s : State) (tallied : Tallied s) : Tallied (events.foldl State.step s) := by
    induction events generalizing s with
    | nil => exact tallied
    | cons event rest hypothesis => exact hypothesis (s.step event) (tallied.step event)
  exact kept .empty tallied_empty

end Runs

section Listing

variable [Host]

/-- The stored changes of a canister, by time and identifier. -/
def State.orderedChanges (s : State) (canisterId : Principal) :
    List (RecordId × CanisterChange) :=
  (s.changeRows canisterId).filterMap s.joinChange

/-- Time comes first, and the identifier decides between changes of one time. -/
def ListedBefore (early late : RecordId × CanisterChange) : Prop :=
  early.2.timestampNanos < late.2.timestampNanos ∨
    early.2.timestampNanos = late.2.timestampNanos ∧ early.1 < late.1

/-- The changes on all pages of a listing, as many as the listing says there are. -/
def shownPages (s : State) (canisterId : Principal) (reverse : Option Bool)
    (limit : Option Nat) : List Dto.CanisterChange :=
  let first := listCanisterChanges ⟨canisterId, reverse, limit, none⟩ s
  (List.range' 1 first.paginationMeta.totalPages).flatMap fun page =>
    (listCanisterChanges ⟨canisterId, reverse, limit, some page⟩ s).changes

/-- The size of a page. -/
def changeLimit (limit : Option Nat) : Nat :=
  clamp (limit.getD DEFAULT_PAGINATION_LIMIT) MIN_PAGINATION_LIMIT MAX_PAGINATION_LIMIT

omit [Host] in
/-- A page has between one and fifty changes. -/
theorem changeLimit_bounds
    (limit : Option Nat) :
    1 ≤ changeLimit limit ∧ changeLimit limit ≤ 50 :=
  clamp_bounds (by decide) _

/-- The stored changes on all pages of the repository. -/
def listedPages (s : State) (canisterId : Principal) (reverse : Bool) (limit : Option Nat) :
    List (RecordId × CanisterChange) :=
  (List.range' 1 (totalPages (s.getCanisterChangesCount canisterId) (changeLimit limit))).flatMap
    (s.listCanisterChanges canisterId reverse (changeLimit limit))

/-- What the pages show is what the repository lists. -/
theorem shownPages_eq
    (s : State)
    (canisterId : Principal)
    (reverse : Option Bool)
    (limit : Option Nat) :
    shownPages s canisterId reverse limit =
      (listedPages s canisterId (reverse.getD false) limit).map mapCanisterChangeResponse := by
  have page :
      ∀ page ∈
          List.range' 1 (totalPages (s.getCanisterChangesCount canisterId) (changeLimit limit)),
        (listCanisterChanges ⟨canisterId, reverse, limit, some page⟩ s).changes =
          (s.listCanisterChanges canisterId (reverse.getD false) (changeLimit limit) page).map
            mapCanisterChangeResponse := by
    intro page member
    obtain ⟨first, beyond⟩ := List.mem_range'_1.mp member
    have last :
        page ≤ totalPages (s.getCanisterChangesCount canisterId) (changeLimit limit) := by
      omega
    have kept :
        clamp page MIN_PAGINATION_PAGE
            (totalPages (s.getCanisterChangesCount canisterId) (changeLimit limit)) =
          page :=
      clamp_eq_self first last
    change (s.listCanisterChanges canisterId (reverse.getD false) (changeLimit limit)
      (clamp page MIN_PAGINATION_PAGE
        (totalPages (s.getCanisterChangesCount canisterId) (changeLimit limit)))).map _ = _
    rw [kept]
  change (List.range' 1 (totalPages (s.getCanisterChangesCount canisterId)
    (changeLimit limit))).flatMap _ = _
  rw [List.flatMap_congr page, listedPages, List.map_flatMap]

section Rows

variable {s : State} {canisterId : Principal}

/-- Every row names a change of its canister and its time. -/
theorem Indexed.joinChange
    (indexed : Indexed s)
    {row : Nat × RecordId}
    (member : row ∈ s.changeRows canisterId) :
    ∃ change,
      s.joinChange row = some (row.2, change) ∧ s.canisterChanges[row.2]? = some change ∧
        change.canisterId = canisterId ∧ change.timestampNanos = row.1 := by
  obtain ⟨change, stored, own, time⟩ := (indexed.rows _ _ _).mp (mem_prefixRows.mp member)
  have joined : s.joinChange row = some (row.2, change) := by
    unfold State.joinChange
    rw [stored]
    rfl
  exact ⟨change, joined, stored, own, time⟩

/-- The listed changes are the stored ones of the canister. -/
theorem Indexed.mem_orderedChanges
    (indexed : Indexed s)
    {id : RecordId}
    {change : CanisterChange} :
    (id, change) ∈ s.orderedChanges canisterId ↔
      s.canisterChanges[id]? = some change ∧ change.canisterId = canisterId := by
  constructor
  · intro member
    obtain ⟨row, listed, found⟩ := List.mem_filterMap.mp member
    obtain ⟨other, joined, stored, own, -⟩ := indexed.joinChange listed
    rw [joined] at found
    cases found
    exact ⟨stored, own⟩
  · rintro ⟨stored, own⟩
    have listed : (change.timestampNanos, id) ∈ s.changeRows canisterId :=
      mem_prefixRows.mpr ((indexed.rows _ _ _).mpr ⟨change, stored, own, rfl⟩)
    have joined : s.joinChange (change.timestampNanos, id) = some (id, change) := by
      unfold State.joinChange
      rw [stored]
      rfl
    exact List.mem_filterMap.mpr ⟨_, listed, joined⟩

/-- The rows of a canister can be read back from its listed changes. -/
theorem Indexed.map_orderedChanges
    (indexed : Indexed s) :
    (s.orderedChanges canisterId).map (fun entry => (entry.2.timestampNanos, entry.1)) =
      s.changeRows canisterId := by
  apply map_filterMap_eq_self
  intro row member
  obtain ⟨change, joined, -, -, time⟩ := indexed.joinChange member
  exact ⟨_, joined, Prod.ext time rfl⟩

/-- The changes are listed by time and identifier. -/
theorem Indexed.orderedChanges_ordered
    (indexed : Indexed s) :
    (s.orderedChanges canisterId).Pairwise ListedBefore := by
  have ordered := prefixRows_ordered s.canisterIdTimestampChangeIndex canisterId
  change (s.changeRows canisterId).Pairwise _ at ordered
  rw [← indexed.map_orderedChanges, List.pairwise_map] at ordered
  apply ordered.imp
  intro early late less
  rcases Ordering.then_eq_lt.mp less with time | ⟨time, id⟩
  · exact Or.inl (Nat.compare_eq_lt.mp time)
  · exact Or.inr ⟨Nat.compare_eq_eq.mp time, Nat.compare_eq_lt.mp id⟩

/-- No change is listed twice. -/
theorem Indexed.nodup_orderedChanges
    (indexed : Indexed s) :
    ((s.orderedChanges canisterId).map Prod.fst).Nodup := by
  apply List.pairwise_map.mpr
  apply indexed.orderedChanges_ordered.imp_of_mem
  intro early late earlyMember lateMember before same
  have earlyStored := (indexed.mem_orderedChanges.mp earlyMember).1
  have lateStored := (indexed.mem_orderedChanges.mp lateMember).1
  rw [same, lateStored] at earlyStored
  have change : late.2 = early.2 := Option.some.inj earlyStored
  rw [ListedBefore, change, same] at before
  rcases before with less | ⟨-, less⟩
  · exact Nat.lt_irrefl _ less
  · exact Nat.lt_irrefl _ less

end Rows

section Pages

variable {s : State}

/-- As many changes are listed as the counter says. -/
theorem Tallied.length_orderedChanges
    (tallied : Tallied s)
    (canisterId : Principal) :
    (s.orderedChanges canisterId).length = s.getCanisterChangesCount canisterId := by
  have rows : ((s.orderedChanges canisterId).map _).length = (s.changeRows canisterId).length :=
    congrArg List.length tallied.indexed.map_orderedChanges
  rw [List.length_map] at rows
  rw [rows, tallied.counted]

/-- The listed changes, in the asked direction. -/
def State.directedChanges (s : State) (canisterId : Principal) (reverse : Bool) :
    List (RecordId × CanisterChange) :=
  if reverse then (s.orderedChanges canisterId).reverse else s.orderedChanges canisterId

/-- There are as many of them in either direction. -/
theorem Tallied.length_directedChanges
    (tallied : Tallied s)
    (canisterId : Principal)
    (reverse : Bool) :
    (s.directedChanges canisterId reverse).length = s.getCanisterChangesCount canisterId := by
  rw [← tallied.length_orderedChanges canisterId]
  unfold State.directedChanges
  split_ifs
  · exact List.length_reverse
  · rfl

/-- A page of the repository is cut from the listed changes. -/
theorem Tallied.listCanisterChanges_eq
    (tallied : Tallied s)
    (fits : s.FitsStableMemory)
    (canisterId : Principal)
    (reverse : Bool)
    (limit : Option Nat)
    {page : Nat}
    (first : 1 ≤ page)
    (last : page ≤ totalPages (s.getCanisterChangesCount canisterId) (changeLimit limit)) :
    s.listCanisterChanges canisterId reverse (changeLimit limit) page =
      pageOf (s.directedChanges canisterId reverse) (changeLimit limit) page := by
  obtain ⟨positive, bounded⟩ := changeLimit_bounds limit
  have small : changeLimit limit < 2 ^ USIZE_BITS := bounded.trans_lt (by decide)
  have counted := tallied.length_directedChanges canisterId reverse
  have few : (s.directedChanges canisterId reverse).length < 2 ^ USIZE_BITS := by
    have rows : (s.changeRows canisterId).length ≤ s.canisterIdTimestampChangeIndex.size := by
      unfold State.changeRows prefixRows
      rw [List.length_map, ← ExtTreeSet.length_toList]
      exact List.length_filter_le _ _
    rw [counted, tallied.counted]
    exact rows.trans_lt (rows_lt_of_fits (by decide) fits)
  have joined :
      ((if reverse then (s.changeRows canisterId).reverse else
        s.changeRows canisterId).filterMap s.joinChange) =
          s.directedChanges canisterId reverse := by
    unfold State.directedChanges
    split_ifs
    · exact List.filterMap_reverse
    · rfl
  unfold State.listCanisterChanges
  dsimp only
  rw [joined]
  rw [← counted] at last
  exact wordPage_eq few positive small first last

/-- All pages together list the stored changes. -/
theorem Tallied.listedPages_eq
    (tallied : Tallied s)
    (fits : s.FitsStableMemory)
    (canisterId : Principal)
    (reverse : Bool)
    (limit : Option Nat) :
    listedPages s canisterId reverse limit = s.directedChanges canisterId reverse := by
  have page :
      ∀ page ∈
          List.range' 1 (totalPages (s.getCanisterChangesCount canisterId) (changeLimit limit)),
        s.listCanisterChanges canisterId reverse (changeLimit limit) page =
          pageOf (s.directedChanges canisterId reverse) (changeLimit limit) page := by
    intro page member
    obtain ⟨first, beyond⟩ := List.mem_range'_1.mp member
    exact tallied.listCanisterChanges_eq fits canisterId reverse limit first (by omega)
  rw [listedPages, List.flatMap_congr page, ← tallied.length_directedChanges canisterId reverse,
    flatMap_pages _ (changeLimit_bounds limit).1]

/-- No page shows a change of another canister. -/
theorem Indexed.canisterId_of_shown
    (indexed : Indexed s)
    (req : Dto.ListCanisterChangesRequest)
    {change : Dto.CanisterChange}
    (shown : change ∈ (listCanisterChanges req s).changes) :
    change.canisterId = req.canisterId := by
  obtain ⟨entry, onPage, rfl⟩ := List.mem_map.mp shown
  obtain ⟨row, directed, found⟩ :=
    List.mem_filterMap.mp (List.mem_of_mem_drop (List.mem_of_mem_take onPage))
  have listed : row ∈ s.changeRows req.canisterId := by
    split_ifs at directed
    · exact List.mem_reverse.mp directed
    · exact directed
  obtain ⟨stored, joined, -, own, -⟩ := indexed.joinChange listed
  rw [joined] at found
  cases found
  exact own

/--
In every state that runs lead to, the counter of a canister is the number of its
rows; all pages together show each stored change of the canister once, by time and
identifier; in reverse they show the reversed list; and no page shows a change of
another canister.
-/
theorem listCanisterChanges_complete
    (events : List Event)
    (fits : (events.foldl State.step State.empty).FitsStableMemory)
    (canisterId : Principal)
    (limit : Option Nat) :
    let s := events.foldl State.step State.empty
    s.getCanisterChangesCount canisterId = (s.changeRows canisterId).length ∧
      ∃ listed : List (RecordId × CanisterChange),
        (listed.map Prod.fst).Nodup ∧
          (∀ id change, (id, change) ∈ listed ↔
            s.canisterChanges[id]? = some change ∧ change.canisterId = canisterId) ∧
          listed.Pairwise ListedBefore ∧
          (∀ reverse : Option Bool, reverse.getD false = false →
            shownPages s canisterId reverse limit = listed.map mapCanisterChangeResponse) ∧
          shownPages s canisterId (some true) limit =
            (listed.map mapCanisterChangeResponse).reverse ∧
          ∀ reverse page,
            ∀ change ∈ (listCanisterChanges ⟨canisterId, reverse, limit, page⟩ s).changes,
              change.canisterId = canisterId := by
  intro s
  have tallied : Tallied s := tallied_foldl_step events
  have indexed := tallied.indexed
  refine
    ⟨tallied.counted canisterId, s.orderedChanges canisterId, indexed.nodup_orderedChanges,
      fun _ _ => indexed.mem_orderedChanges, indexed.orderedChanges_ordered, ?_, ?_,
      fun _ _ _ shown => indexed.canisterId_of_shown _ shown⟩
  · intro reverse forward
    rw [shownPages_eq, tallied.listedPages_eq fits, forward]
    rfl
  · rw [shownPages_eq, tallied.listedPages_eq fits, ← List.map_reverse]
    rfl

end Pages

end Listing

section SevenChanges

open TextualHost

attribute [local instance] host

/-- Seven stored changes on three pages, after the truncated runs. -/
theorem listCanisterChanges_truncatedEvents :
    let s := truncatedEvents.foldl State.step State.empty
    s.getCanisterChangesCount colleague = 7 ∧
      shownPages s colleague (some true) (some 3) =
        (shownPages s colleague none (some 3)).reverse := by
  have fits : (truncatedEvents.foldl State.step State.empty).FitsStableMemory := by
    decide +kernel
  have count : (truncatedEvents.foldl State.step State.empty).getCanisterChangesCount colleague =
      7 := by
    decide +kernel
  obtain ⟨-, listed, -, -, -, forward, backward, -⟩ :=
    listCanisterChanges_complete truncatedEvents fits colleague (some 3)
  refine ⟨count, ?_⟩
  rw [backward, forward none rfl]

end SevenChanges

end SsnConsole.CanisterHistory
