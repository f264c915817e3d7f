import Mathlib

/-!
# Two-column indexes over ordered sets and maps

A stable store keeps a relation as an ordered set of pairs, or as an ordered
map whose keys are pairs, and reads it back through a range that fixes the
first column.  This module gives the ranges, their row-level meaning, and what
inserting, erasing or sweeping rows does to them.
-/

namespace SsnConsole.StableIndex

open Std

/-- Rows are ordered by their first column and then by their second. -/
scoped instance pairOrd {α β : Type} [Ord α] [Ord β] : Ord (α × β) :=
  lexOrd

variable {α β γ κ : Type} [Ord α] [Ord β] [Ord κ]

section Definitions

variable [TransOrd α] [TransOrd β] [DecidableEq α]

/-- The second columns of the rows whose first column is `key`, in order. -/
def prefixRows
    (rows : ExtTreeSet (α × β))
    (key : α) : List β :=
  (rows.toList.filter fun row => decide (row.1 = key)).map Prod.snd

/-- The entries of a pair-keyed map whose first column is `key`, in order. -/
def prefixEntries
    (rows : ExtTreeMap (α × β) γ)
    (key : α) : List (β × γ) :=
  (rows.toList.filter fun entry => decide (entry.1.1 = key)).map
    fun entry => (entry.1.2, entry.2)

end Definitions

/-- Remove every listed row from a set. -/
def eraseRows [TransOrd κ] (rows : ExtTreeSet κ) (keys : List κ) : ExtTreeSet κ :=
  keys.foldl (fun remaining key => remaining.erase key) rows

/-- Remove every listed key from a map. -/
def eraseKeys [TransOrd κ] (rows : ExtTreeMap κ γ) (keys : List κ) :
    ExtTreeMap κ γ :=
  keys.foldl (fun remaining key => remaining.erase key) rows

/-- A set lists every row once. -/
theorem nodup_toList
    [TransOrd κ]
    [LawfulEqOrd κ]
    (rows : ExtTreeSet κ) :
    rows.toList.Nodup := by
  refine ExtTreeSet.distinct_toList.imp ?_
  intro first second distinct equal
  exact distinct (by simp [equal])

/-- A map lists every entry once. -/
theorem nodup_entries
    [TransOrd κ]
    [LawfulEqOrd κ]
    (entries : ExtTreeMap κ γ) :
    entries.toList.Nodup := by
  refine List.Pairwise.imp ?_ (ExtTreeMap.distinct_keys_toList : entries.toList.Pairwise _)
  intro first second distinct equal
  exact distinct (by simp [equal])

section Rows

variable [TransOrd α] [TransOrd β] [LawfulEqOrd α] [LawfulEqOrd β] [DecidableEq α]

/-- A range holds exactly the rows of its first column. -/
@[simp]
theorem mem_prefixRows
    {rows : ExtTreeSet (α × β)}
    {key : α}
    {value : β} :
    value ∈ prefixRows rows key ↔ (key, value) ∈ rows := by
  simp [prefixRows]

/-- A range never lists one row twice. -/
theorem nodup_prefixRows
    (rows : ExtTreeSet (α × β))
    (key : α) :
    (prefixRows rows key).Nodup := by
  refine List.Nodup.map_on ?_ ((nodup_toList rows).filter _)
  rintro ⟨firstKey, firstValue⟩ firstMember ⟨secondKey, secondValue⟩ secondMember
    sameValue
  simp only [List.mem_filter, decide_eq_true_eq] at firstMember secondMember
  rw [firstMember.2, secondMember.2]
  simpa using sameValue

/-- A range of a map holds exactly the entries of its first column. -/
@[simp]
theorem mem_prefixEntries
    {rows : ExtTreeMap (α × β) γ}
    {key : α}
    {entry : β × γ} :
    entry ∈ prefixEntries rows key ↔ rows[(key, entry.1)]? = some entry.2 := by
  simp only [prefixEntries, List.mem_map, List.mem_filter, decide_eq_true_eq]
  constructor
  · rintro ⟨⟨⟨firstKey, column⟩, value⟩, ⟨stored, rfl⟩, rfl⟩
    exact ExtTreeMap.mem_toList_iff_getElem?_eq_some.mp stored
  · intro stored
    exact
      ⟨((key, entry.1), entry.2),
        ⟨ExtTreeMap.mem_toList_iff_getElem?_eq_some.mpr stored, rfl⟩, rfl⟩

/-- The second columns of a range of a map are pairwise distinct. -/
theorem nodup_prefixEntries_keys
    (rows : ExtTreeMap (α × β) γ)
    (key : α) :
    ((prefixEntries rows key).map Prod.fst).Nodup := by
  have keysNodup : (rows.toList.map Prod.fst).Nodup := by
    rw [ExtTreeMap.map_fst_toList_eq_keys]
    refine ExtTreeMap.distinct_keys.imp ?_
    intro first second distinct equal
    exact distinct (by simp [equal])
  have filteredNodup :
      ((rows.toList.filter fun entry => decide (entry.1.1 = key)).map Prod.fst).Nodup :=
    keysNodup.sublist ((List.filter_sublist).map Prod.fst)
  have columns :
      (prefixEntries rows key).map Prod.fst =
        ((rows.toList.filter fun entry => decide (entry.1.1 = key)).map Prod.fst).map
          Prod.snd := by
    simp [prefixEntries, Function.comp_def]
  rw [columns]
  refine List.Nodup.map_on ?_ filteredNodup
  rintro ⟨firstKey, firstColumn⟩ firstMember ⟨secondKey, secondColumn⟩ secondMember
    sameColumn
  simp only [List.mem_map, List.mem_filter, decide_eq_true_eq] at firstMember secondMember
  obtain ⟨firstEntry, ⟨-, firstPrefix⟩, firstShape⟩ := firstMember
  obtain ⟨secondEntry, ⟨-, secondPrefix⟩, secondShape⟩ := secondMember
  rw [firstShape] at firstPrefix
  rw [secondShape] at secondPrefix
  simp_all

end Rows

section Updates

variable [TransOrd κ] [LawfulEqOrd κ]

/-- Membership after inserting a row. -/
theorem mem_insert_row
    {rows : ExtTreeSet κ}
    {row new : κ} :
    row ∈ rows.insert new ↔ row ∈ rows ∨ row = new := by
  rw [ExtTreeSet.mem_insert, Std.compare_eq_iff_eq, or_comm, @eq_comm κ new row]

/-- Membership after erasing a row. -/
theorem mem_erase_row
    {rows : ExtTreeSet κ}
    {row old : κ} :
    row ∈ rows.erase old ↔ row ∈ rows ∧ row ≠ old := by
  rw [ExtTreeSet.mem_erase, ne_eq, Std.compare_eq_iff_eq, and_comm, @eq_comm κ old row]

omit [LawfulEqOrd κ] in
/-- Erasing a row that is there leaves one row less. -/
theorem size_erase_row
    {rows : ExtTreeSet κ}
    {old : κ}
    (member : old ∈ rows) :
    (rows.erase old).size + 1 = rows.size := by
  have contained : rows.contains old = true := ExtTreeSet.mem_iff_contains.mp member
  have nonempty : rows.size ≠ 0 := by
    intro zero
    rw [ExtTreeSet.eq_empty_iff_size_eq_zero.mpr zero] at member
    exact ExtTreeSet.not_mem_empty member
  rw [ExtTreeSet.size_erase, if_pos contained]
  omega

/-- Membership after inserting an entry. -/
theorem mem_insert_entry
    {entries : ExtTreeMap κ γ}
    {key new : κ}
    {value : γ} :
    key ∈ entries.insert new value ↔ key ∈ entries ∨ key = new := by
  rw [ExtTreeMap.mem_insert, Std.compare_eq_iff_eq, or_comm, @eq_comm κ new key]

/-- Membership after erasing an entry. -/
theorem mem_erase_entry
    {entries : ExtTreeMap κ γ}
    {key old : κ} :
    key ∈ entries.erase old ↔ key ∈ entries ∧ key ≠ old := by
  rw [ExtTreeMap.mem_erase, ne_eq, Std.compare_eq_iff_eq, and_comm, @eq_comm κ old key]

/-- Lookups after inserting an entry. -/
theorem getElem?_insert_entry
    [DecidableEq κ]
    {entries : ExtTreeMap κ γ}
    {key new : κ}
    {value : γ} :
    (entries.insert new value)[key]? = if key = new then some value else entries[key]? := by
  rw [ExtTreeMap.getElem?_insert]
  by_cases same : key = new
  · simp [same]
  · simp [same, Ne.symm same]

/-- Lookups after erasing an entry. -/
theorem getElem?_erase_entry
    [DecidableEq κ]
    {entries : ExtTreeMap κ γ}
    {key old : κ} :
    (entries.erase old)[key]? = if key = old then none else entries[key]? := by
  rw [ExtTreeMap.getElem?_erase]
  by_cases same : key = old
  · simp [same]
  · simp [same, Ne.symm same]

end Updates

section Sweeps

variable [TransOrd κ] [LawfulEqOrd κ]

/-- A sweep keeps exactly the rows that it does not list. -/
@[simp]
theorem mem_eraseRows
    {rows : ExtTreeSet κ}
    {keys : List κ}
    {row : κ} :
    row ∈ eraseRows rows keys ↔ row ∈ rows ∧ row ∉ keys := by
  induction keys generalizing rows with
  | nil =>
      simp [eraseRows]
  | cons key rest inductionHypothesis =>
      have unfolded : eraseRows rows (key :: rest) = eraseRows (rows.erase key) rest := rfl
      rw [unfolded, inductionHypothesis]
      simp only [ExtTreeSet.mem_erase, List.mem_cons, not_or, ne_eq,
        Std.compare_eq_iff_eq]
      tauto

/-- A sweep of a map keeps exactly the entries whose keys it does not list. -/
@[simp]
theorem getElem?_eraseKeys
    [DecidableEq κ]
    {rows : ExtTreeMap κ γ}
    {keys : List κ}
    {key : κ} :
    (eraseKeys rows keys)[key]? = if key ∈ keys then none else rows[key]? := by
  induction keys generalizing rows with
  | nil =>
      simp [eraseKeys]
  | cons first rest inductionHypothesis =>
      have unfolded :
          eraseKeys rows (first :: rest) = eraseKeys (rows.erase first) rest := rfl
      rw [unfolded, inductionHypothesis, ExtTreeMap.getElem?_erase]
      by_cases inRest : key ∈ rest
      · simp [inRest]
      · by_cases isFirst : first = key
        · simp [isFirst]
        · simp [inRest, isFirst, Ne.symm isFirst]

end Sweeps

section Mirrors

variable [TransOrd α] [TransOrd β] [LawfulEqOrd α] [LawfulEqOrd β] [DecidableEq α]

/-- Erasing the whole range of a key keeps exactly the rows of other keys. -/
theorem mem_eraseRows_range
    {rows : ExtTreeSet (α × β)}
    {key other : α}
    {value : β} :
    (other, value) ∈ eraseRows rows ((prefixRows rows key).map fun value => (key, value)) ↔
      (other, value) ∈ rows ∧ other ≠ key := by
  simp only [mem_eraseRows, List.mem_map, mem_prefixRows, Prod.mk.injEq]
  constructor
  · rintro ⟨stored, unlisted⟩
    refine ⟨stored, ?_⟩
    rintro rfl
    exact unlisted ⟨value, stored, rfl, rfl⟩
  · rintro ⟨stored, distinct⟩
    refine ⟨stored, ?_⟩
    rintro ⟨_, _, same, _⟩
    exact distinct same.symm

/-- The same in a second index that holds the rows the other way round. -/
theorem mem_eraseRows_mirror
    {rows : ExtTreeSet (α × β)}
    {mirror : ExtTreeSet (β × α)}
    (mirrored : ∀ key value, (key, value) ∈ rows ↔ (value, key) ∈ mirror)
    {key other : α}
    {value : β} :
    (value, other) ∈ eraseRows mirror ((prefixRows rows key).map fun value => (value, key)) ↔
      (value, other) ∈ mirror ∧ other ≠ key := by
  simp only [mem_eraseRows, List.mem_map, mem_prefixRows, Prod.mk.injEq]
  constructor
  · rintro ⟨stored, unlisted⟩
    refine ⟨stored, ?_⟩
    rintro rfl
    exact unlisted ⟨value, (mirrored other value).mpr stored, rfl, rfl⟩
  · rintro ⟨stored, distinct⟩
    refine ⟨stored, ?_⟩
    rintro ⟨_, _, _, same⟩
    exact distinct same.symm

end Mirrors

section Search

variable [TransOrd κ] [LawfulEqOrd κ]
variable {rows : ExtTreeMap κ γ} {wanted : γ → Bool}

/-- A search in key order finds the wanted entry with the least key. -/
theorem find?_toList_eq_some
    {key : κ}
    {value : γ} :
    rows.toList.find? (fun row => wanted row.2) = some (key, value) ↔
      rows[key]? = some value ∧ wanted value = true ∧
        ∀ other otherValue, rows[other]? = some otherValue → wanted otherValue = true →
          compare other key ≠ .lt := by
  have ordered : rows.toList.Pairwise fun early late => compare early.1 late.1 = .lt :=
    ExtTreeMap.ordered_keys_toList
  rw [List.find?_eq_some_iff_append]
  constructor
  · rintro ⟨isWanted, before, after, listed, unwanted⟩
    have row : rows[key]? = some value := by
      rw [← ExtTreeMap.mem_toList_iff_getElem?_eq_some, listed]
      simp
    refine ⟨row, isWanted, fun other otherValue found otherWanted smaller => ?_⟩
    rw [← ExtTreeMap.mem_toList_iff_getElem?_eq_some, listed] at found
    rw [listed, List.pairwise_append] at ordered
    rcases List.mem_append.mp found with earlier | later
    · have refused := unwanted _ earlier
      rw [otherWanted] at refused
      cases refused
    · rcases List.mem_cons.mp later with same | afterwards
      · cases same
        rw [ReflOrd.compare_self] at smaller
        cases smaller
      · have larger : compare key other = .lt :=
          (List.pairwise_cons.mp ordered.2.1).1 _ afterwards
        rw [OrientedOrd.eq_swap, larger] at smaller
        cases smaller
  · rintro ⟨row, isWanted, least⟩
    rw [← ExtTreeMap.mem_toList_iff_getElem?_eq_some] at row
    obtain ⟨before, after, listed⟩ := List.append_of_mem row
    refine ⟨isWanted, before, after, listed, ?_⟩
    rintro ⟨other, otherValue⟩ earlier
    rw [listed, List.pairwise_append] at ordered
    have smaller : compare other key = .lt :=
      ordered.2.2 _ earlier (key, value) List.mem_cons_self
    have found : rows[other]? = some otherValue := by
      rw [← ExtTreeMap.mem_toList_iff_getElem?_eq_some, listed]
      exact List.mem_append_left _ earlier
    by_contra otherWanted
    have otherWanted : wanted otherValue = true := by simpa using otherWanted
    exact least other otherValue found otherWanted smaller

end Search

section Rewrites

variable {ρ σ : Type}

/-- A loop whose every round changes nothing changes nothing. -/
theorem foldl_eq_self
    {step : σ → ρ → σ}
    {state : σ}
    {rows : List ρ}
    (unchanged : ∀ row ∈ rows, step state row = state) :
    rows.foldl step state = state := by
  induction rows with
  | nil => rfl
  | cons row rows ih =>
      have first := unchanged row (by simp)
      have others := ih fun other member => unchanged other (by simp [member])
      rw [List.foldl_cons, first, others]

/-- The same of a loop that may fail: no round fails or changes anything. -/
theorem foldlM_eq_self
    {step : σ → ρ → Option σ}
    {state : σ}
    {rows : List ρ}
    (unchanged : ∀ row ∈ rows, step state row = some state) :
    rows.foldlM step state = some state := by
  induction rows with
  | nil => rfl
  | cons row rows ih =>
      have first := unchanged row (by simp)
      have others := ih fun other member => unchanged other (by simp [member])
      rw [List.foldlM_cons, first]
      exact others

/-- Storing an entry that is there already changes nothing. -/
theorem insert_eq_self
    [TransOrd κ]
    [LawfulEqOrd κ]
    {rows : ExtTreeMap κ γ}
    {key : κ}
    {value : γ}
    (stored : rows[key]? = some value) :
    rows.insert key value = rows := by
  apply ExtTreeMap.ext_getElem?
  intro other
  rw [ExtTreeMap.getElem?_insert]
  split
  · rename_i same
    rw [← LawfulEqOrd.eq_of_compare same, stored]
  · rfl

end Rewrites

section Groups

variable [TransOrd κ]
variable {ρ ν : Type}

/-- Add a value to the group of its key, behind those that are there. -/
def addToGroup (groups : ExtTreeMap κ (List ν)) (key : κ) (value : ν) :
    ExtTreeMap κ (List ν) :=
  groups.insert key (groups[key]?.getD [] ++ [value])

/-- The values of the rows that have a key, by key and in order. -/
def groupBy (key : ρ → Option κ) (value : ρ → ν) (rows : List ρ) : ExtTreeMap κ (List ν) :=
  rows.foldl
    (fun groups row =>
      match key row with
      | some found => addToGroup groups found (value row)
      | none => groups)
    ∅

/-- The rows that have a key. -/
def rowsOf [DecidableEq κ] (key : ρ → Option κ) (rows : List ρ) (wanted : κ) : List ρ :=
  rows.filter fun row => decide (key row = some wanted)

variable [LawfulEqOrd κ] [DecidableEq κ]

/-- The group of a key holds the values of its rows; a key without rows has no group. -/
theorem getElem?_groupBy
    (key : ρ → Option κ)
    (value : ρ → ν)
    (rows : List ρ)
    (wanted : κ) :
    (groupBy key value rows)[wanted]? =
      if rowsOf key rows wanted = [] then none
      else some ((rowsOf key rows wanted).map value) := by
  induction rows using List.reverseRecOn with
  | nil => rfl
  | append_singleton rows row ih =>
      have last :
          groupBy key value (rows ++ [row]) =
            match key row with
            | some found => addToGroup (groupBy key value rows) found (value row)
            | none => groupBy key value rows := by
        rw [groupBy, List.foldl_append]
        rfl
      rw [last, rowsOf, List.filter_append]
      cases keyed : key row with
      | none => simpa [keyed, rowsOf] using ih
      | some found =>
          by_cases same : wanted = found
          · subst same
            simp only [addToGroup, getElem?_insert_entry, ih, rowsOf]
            by_cases empty : rows.filter (fun row => decide (key row = some wanted)) = []
            · simp [keyed, empty]
            · simp [keyed, empty]
          · have other : ¬found = wanted := fun equal => same equal.symm
            simpa [addToGroup, getElem?_insert_entry, same, keyed, other, rowsOf] using ih

end Groups

section Counts

/-- How many rows of a set have a property. -/
def countRows [TransOrd κ] (rows : ExtTreeSet κ) (counts : κ → Bool) : Nat :=
  rows.toList.countP counts

section Sets

variable [TransOrd κ] [LawfulEqOrd κ]
variable {rows : ExtTreeSet κ} {counts wanted : κ → Bool}

/-- A property of fewer rows counts fewer of them. -/
theorem countRows_mono
    (implies : ∀ row ∈ rows, counts row = true → wanted row = true) :
    countRows rows counts ≤ countRows rows wanted := by
  refine List.countP_mono_left fun row member => ?_
  exact implies row (ExtTreeSet.mem_toList.mp member)

/-- A new row is counted if it has the property. -/
theorem countRows_insert
    {new : κ}
    (absent : new ∉ rows) :
    countRows (rows.insert new) counts =
      countRows rows counts + if counts new = true then 1 else 0 := by
  have absentFromList : new ∉ rows.toList := by
    rwa [ExtTreeSet.mem_toList]
  have extended : (rows.insert new).toList.Perm (new :: rows.toList) := by
    rw [List.perm_ext_iff_of_nodup (nodup_toList _)
      (List.nodup_cons.mpr ⟨absentFromList, nodup_toList rows⟩)]
    intro row
    simp only [ExtTreeSet.mem_toList, ExtTreeSet.mem_insert, Std.compare_eq_iff_eq,
      List.mem_cons]
    rw [@eq_comm κ new row]
  rw [countRows, extended.countP_eq, List.countP_cons]
  rfl

/-- Fewer rows are counted in a smaller set. -/
theorem countRows_le_of_subset
    {fewer : ExtTreeSet κ}
    (subset : ∀ row, row ∈ fewer → row ∈ rows) :
    countRows fewer counts ≤ countRows rows counts := by
  have subperm : fewer.toList.Subperm rows.toList := by
    refine List.subperm_of_subset (nodup_toList fewer) ?_
    intro row member
    exact ExtTreeSet.mem_toList.mpr (subset row (ExtTreeSet.mem_toList.mp member))
  exact subperm.countP_le counts

end Sets

section Ranges

variable [TransOrd α] [TransOrd β] [DecidableEq α]

/-- The ranges of distinct keys together hold the rows under any of them. -/
theorem sum_length_prefixRows
    (rows : ExtTreeSet (α × β))
    {keys : List α}
    (distinct : keys.Nodup) :
    (keys.map fun key => (prefixRows rows key).length).sum =
      countRows rows fun row : α × β => decide (row.1 ∈ keys) := by
  induction keys with
  | nil =>
      simp [countRows]
  | cons key rest inductionHypothesis =>
      obtain ⟨absent, distinctRest⟩ := List.nodup_cons.mp distinct
      have range :
          (prefixRows rows key).length =
            rows.toList.countP fun row => decide (row.1 = key) := by
        rw [prefixRows, List.length_map, List.countP_eq_length_filter]
      rw [List.map_cons, List.sum_cons, inductionHypothesis distinctRest, range]
      unfold countRows
      induction rows.toList with
      | nil =>
          rfl
      | cons row others countedOthers =>
          simp only [List.countP_cons, decide_eq_true_eq, List.mem_cons]
          by_cases same : row.1 = key
          · have notRest : row.1 ∉ rest := by
              rwa [same]
            simp only [same, true_or, if_true, if_neg absent]
            simp only [List.mem_cons] at countedOthers
            omega
          · simp only [same, false_or, if_false]
            simp only [List.mem_cons] at countedOthers
            omega

end Ranges

end Counts

end SsnConsole.StableIndex
