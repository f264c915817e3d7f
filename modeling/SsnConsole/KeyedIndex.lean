import SsnConsole.StableIndex

/-!
# Indexes by composite keys

A table keeps its rows by identifier and an index holds one composite key for
each row, built from what the row currently says.  `Indexes` is exactness of
the index; a write keeps it if it moves the key together with the row.
-/

namespace SsnConsole.KeyedIndex

open Std
open SsnConsole.StableIndex

variable {κ ν ι : Type}

/-- The index holds the key of every row, and nothing else. -/
def Indexes
    [Ord κ] [TransOrd κ] [Ord ι] [TransOrd ι]
    (rows : ExtTreeMap κ ν)
    (key : κ → ν → ι)
    (index : ExtTreeSet ι) : Prop :=
  ∀ entry, entry ∈ index ↔ ∃ id value, rows[id]? = some value ∧ entry = key id value

namespace Indexes

variable [Ord κ] [TransOrd κ] [LawfulEqOrd κ] [DecidableEq κ]
variable [Ord ι] [TransOrd ι] [LawfulEqOrd ι]
variable {rows : ExtTreeMap κ ν} {key : κ → ν → ι} {index : ExtTreeSet ι}
variable {id : κ} {old value : ν}

omit [LawfulEqOrd κ] [DecidableEq κ] [LawfulEqOrd ι] in
/-- An empty table has an empty index. -/
theorem empty : Indexes (∅ : ExtTreeMap κ ν) key (∅ : ExtTreeSet ι) := by
  intro entry
  simp

omit [LawfulEqOrd κ] [DecidableEq κ] [LawfulEqOrd ι] in
/-- Two keys of one row are the same key. -/
theorem eq_of_name
    {first second : ι}
    (indexes : Indexes rows key index)
    (name : ι → κ)
    (named : ∀ id value, name (key id value) = id)
    (firstMember : first ∈ index)
    (secondMember : second ∈ index)
    (same : name first = name second) :
    first = second := by
  obtain ⟨firstId, firstValue, firstRow, rfl⟩ := (indexes first).mp firstMember
  obtain ⟨secondId, secondValue, secondRow, rfl⟩ := (indexes second).mp secondMember
  rw [named, named] at same
  subst same
  rw [firstRow] at secondRow
  cases secondRow
  rfl

/-- A row under a new identifier brings its key. -/
theorem insert
    (indexes : Indexes rows key index)
    (fresh : rows[id]? = none) :
    Indexes (rows.insert id value) key (index.insert (key id value)) := by
  intro entry
  rw [mem_insert_row, indexes entry]
  constructor
  · rintro (⟨other, stored, row, rfl⟩ | rfl)
    · have different : other ≠ id := by
        rintro rfl
        rw [fresh] at row
        cases row
      refine ⟨other, stored, ?_, rfl⟩
      rw [getElem?_insert_entry, if_neg different]
      exact row
    · exact ⟨id, value, by rw [getElem?_insert_entry, if_pos rfl], rfl⟩
  · rintro ⟨other, stored, row, rfl⟩
    rw [getElem?_insert_entry] at row
    split at row
    · rename_i same
      cases row
      exact .inr (by rw [same])
    · exact .inl ⟨other, stored, row, rfl⟩

/-- A row that changes moves its key. -/
theorem replace
    (indexes : Indexes rows key index)
    (name : ι → κ)
    (named : ∀ id value, name (key id value) = id)
    (found : rows[id]? = some old) :
    Indexes (rows.insert id value) key ((index.erase (key id old)).insert (key id value)) := by
  intro entry
  rw [mem_insert_row, mem_erase_row, indexes entry]
  constructor
  · rintro (⟨⟨other, stored, row, rfl⟩, moved⟩ | rfl)
    · have different : other ≠ id := by
        rintro rfl
        rw [found] at row
        cases row
        exact moved rfl
      refine ⟨other, stored, ?_, rfl⟩
      rw [getElem?_insert_entry, if_neg different]
      exact row
    · exact ⟨id, value, by rw [getElem?_insert_entry, if_pos rfl], rfl⟩
  · rintro ⟨other, stored, row, rfl⟩
    rw [getElem?_insert_entry] at row
    split at row
    · rename_i same
      cases row
      exact .inr (by rw [same])
    · rename_i different
      refine .inl ⟨⟨other, stored, row, rfl⟩, ?_⟩
      intro sameKey
      have sameName := congrArg name sameKey
      rw [named, named] at sameName
      exact different sameName

omit [LawfulEqOrd ι] in
/-- A row that changes but keeps its key needs no other. -/
theorem overwrite
    (indexes : Indexes rows key index)
    (found : rows[id]? = some old)
    (same : key id value = key id old) :
    Indexes (rows.insert id value) key index := by
  intro entry
  rw [indexes entry]
  constructor
  · rintro ⟨other, stored, member, rfl⟩
    by_cases hit : other = id
    · subst hit
      cases found.symm.trans member
      exact ⟨other, value, by rw [getElem?_insert_entry, if_pos rfl], same.symm⟩
    · exact ⟨other, stored, by rw [getElem?_insert_entry, if_neg hit, member], rfl⟩
  · rintro ⟨other, stored, member, rfl⟩
    rw [getElem?_insert_entry] at member
    split at member
    · rename_i hit
      cases member
      exact ⟨id, old, found, by rw [hit, same]⟩
    · exact ⟨other, stored, member, rfl⟩

/-- Rows that are swept take their keys with them. -/
theorem sweep
    {ids : List κ}
    {entries : List ι}
    (indexes : Indexes rows key index)
    (swept : ∀ id value, rows[id]? = some value → (key id value ∈ entries ↔ id ∈ ids)) :
    Indexes (eraseKeys rows ids) key (eraseRows index entries) := by
  intro entry
  rw [mem_eraseRows, indexes entry]
  constructor
  · rintro ⟨⟨other, stored, row, rfl⟩, kept⟩
    refine ⟨other, stored, ?_, rfl⟩
    rw [getElem?_eraseKeys, if_neg (fun listed => kept ((swept other stored row).mpr listed))]
    exact row
  · rintro ⟨other, stored, row, rfl⟩
    rw [getElem?_eraseKeys] at row
    split at row
    · cases row
    · rename_i kept
      exact
        ⟨⟨other, stored, row, rfl⟩, fun listed => kept ((swept other stored row).mp listed)⟩

end Indexes

section Lookups

variable {view : κ → Option ν}

/-- Looking keys up keeps them in order and drops those without a value. -/
theorem map_fst_lookups_sublist
    (keys : List κ) :
    List.Sublist
      ((keys.filterMap fun key => (view key).map fun value => (key, value)).map Prod.fst)
      keys := by
  induction keys with
  | nil => exact .slnil
  | cons key rest inductionHypothesis =>
      cases found : view key with
      | none =>
          rw [List.filterMap_cons_none (by rw [found, Option.map_none])]
          exact inductionHypothesis.cons key
      | some value =>
          rw [List.filterMap_cons_some (by rw [found, Option.map_some]), List.map_cons]
          exact inductionHypothesis.cons_cons key

/-- Keys may be selected before or after they are looked up. -/
theorem filter_lookups
    (wanted : κ → Bool)
    (keys : List κ) :
    (keys.filter wanted).filterMap (fun key => (view key).map fun value => (key, value)) =
      (keys.filterMap fun key => (view key).map fun value => (key, value)).filter
        fun row => wanted row.1 := by
  induction keys with
  | nil => rfl
  | cons key rest inductionHypothesis =>
      cases found : view key <;> cases selected : wanted key <;>
        simp [found, selected, inductionHypothesis]

end Lookups

section Counts

variable [Ord κ] [TransOrd κ]

/-- How many rows of a table have a property. -/
def countEntries (rows : ExtTreeMap κ ν) (counts : κ × ν → Bool) : Nat :=
  rows.toList.countP counts

variable [LawfulEqOrd κ]
variable {rows later : ExtTreeMap κ ν} {counts wanted : κ × ν → Bool}

/-- Rows that are extra or counted before are at most the extra ones more. -/
theorem countEntries_le
    (extra : List (κ × ν))
    (covered :
      ∀ id value, later[id]? = some value → counts (id, value) = true →
        (id, value) ∈ extra ∨ rows[id]? = some value ∧ wanted (id, value) = true) :
    countEntries later counts ≤ countEntries rows wanted + extra.length := by
  have subset :
      later.toList.filter counts ⊆ rows.toList.filter wanted ++ extra := by
    rintro ⟨id, value⟩ member
    obtain ⟨listed, counted⟩ := List.mem_filter.mp member
    have row := ExtTreeMap.mem_toList_iff_getElem?_eq_some.mp listed
    rcases covered id value row counted with new | ⟨before, wantedBefore⟩
    · exact List.mem_append_right _ new
    · refine List.mem_append_left _ (List.mem_filter.mpr ⟨?_, wantedBefore⟩)
      exact ExtTreeMap.mem_toList_iff_getElem?_eq_some.mpr before
  have distinct : (later.toList.filter counts).Nodup := (nodup_entries later).filter _
  have bounded := (List.subperm_of_subset distinct subset).length_le
  simpa [countEntries, List.countP_eq_length_filter] using bounded

/-- Counted rows whose keys are pairwise distinct are as few as the keys. -/
theorem countEntries_le_length
    {keys : List ι}
    (key : κ × ν → ι)
    (name : ι → κ)
    (named : ∀ row, name (key row) = row.1)
    (covered :
      ∀ id value, rows[id]? = some value → counts (id, value) = true → key (id, value) ∈ keys) :
    countEntries rows counts ≤ keys.length := by
  have subset : (rows.toList.filter counts).map key ⊆ keys := by
    intro entry member
    obtain ⟨⟨id, value⟩, filtered, rfl⟩ := List.mem_map.mp member
    obtain ⟨listed, counted⟩ := List.mem_filter.mp filtered
    exact covered id value (ExtTreeMap.mem_toList_iff_getElem?_eq_some.mp listed) counted
  have distinct : ((rows.toList.filter counts).map key).Nodup := by
    refine List.Nodup.map_on ?_ ((nodup_entries rows).filter _)
    rintro ⟨firstId, firstValue⟩ firstMember ⟨secondId, secondValue⟩ secondMember sameKey
    have sameName := congrArg name sameKey
    rw [named, named] at sameName
    obtain rfl : firstId = secondId := sameName
    have firstRow :=
      ExtTreeMap.mem_toList_iff_getElem?_eq_some.mp (List.mem_filter.mp firstMember).1
    have secondRow :=
      ExtTreeMap.mem_toList_iff_getElem?_eq_some.mp (List.mem_filter.mp secondMember).1
    rw [firstRow] at secondRow
    cases secondRow
    rfl
  have bounded := (List.subperm_of_subset distinct subset).length_le
  simpa [countEntries, List.countP_eq_length_filter] using bounded

end Counts

end SsnConsole.KeyedIndex
