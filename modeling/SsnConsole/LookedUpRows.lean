import Mathlib

/-!
# Rows looked up by their keys

A listing that walks the keys of an index and keeps those that a store still has
a record of.  Where every key has a record, the listing has the keys of the index.
-/

namespace SsnConsole.LookedUpRows

variable {κ ρ σ : Type}

/-- The keys that have a record, each with its record, in the order of the keys. -/
def lookedUp (find : κ → Option ρ) (keys : List κ) : List (κ × ρ) :=
  keys.filterMap fun key => (find key).map fun record => (key, record)

variable {find : κ → Option ρ} {keys : List κ}

/-- A row is a key with its record. -/
@[simp]
theorem mem_lookedUp
    {key : κ}
    {record : ρ} :
    (key, record) ∈ lookedUp find keys ↔ key ∈ keys ∧ find key = some record := by
  simp only [lookedUp, List.mem_filterMap, Option.map_eq_some_iff, Prod.mk.injEq]
  constructor
  · rintro ⟨listed, member, found, stored, rfl, rfl⟩
    exact ⟨member, stored⟩
  · rintro ⟨member, stored⟩
    exact ⟨key, member, record, stored, rfl, rfl⟩

/-- Where no key lacks a record, the rows have the listed keys, in order. -/
theorem map_fst_lookedUp
    (complete : ∀ key ∈ keys, (find key).isSome) :
    (lookedUp find keys).map Prod.fst = keys := by
  induction keys with
  | nil =>
      rfl
  | cons key rest inductionHypothesis =>
      obtain ⟨record, stored⟩ := Option.isSome_iff_exists.mp (complete key List.mem_cons_self)
      have others := inductionHypothesis fun other member =>
        complete other (List.mem_cons_of_mem key member)
      have unfolded : lookedUp find (key :: rest) = (key, record) :: lookedUp find rest := by
        simp [lookedUp, stored]
      rw [unfolded, List.map_cons, others]

/-- Describing the records leaves the keys as they are. -/
@[simp]
theorem map_fst_map
    (describe : κ → ρ → σ)
    (rows : List (κ × ρ)) :
    (rows.map fun row => (row.1, describe row.1 row.2)).map Prod.fst = rows.map Prod.fst := by
  simp [Function.comp_def]

/-- A described row describes the record of its key. -/
theorem mem_map_describe
    (describe : κ → ρ → σ)
    {rows : List (κ × ρ)}
    {key : κ}
    {shown : σ} :
    (key, shown) ∈ rows.map (fun row => (row.1, describe row.1 row.2)) ↔
      ∃ record, (key, record) ∈ rows ∧ describe key record = shown := by
  simp only [List.mem_map, Prod.mk.injEq]
  constructor
  · rintro ⟨⟨listed, record⟩, member, rfl, described⟩
    exact ⟨record, member, described⟩
  · rintro ⟨record, member, described⟩
    exact ⟨(key, record), member, rfl, described⟩

end SsnConsole.LookedUpRows
