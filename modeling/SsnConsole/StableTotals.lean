import SsnConsole.StableIndex

/-!
# Totals over the entries of an ordered map

A weight for each entry gives a map a total.  Replacing one entry changes the
total by the difference of two weights, whatever else the map holds.
-/

namespace SsnConsole.StableTotals

open Std
open SsnConsole.StableIndex

variable {κ γ : Type}

section Definitions

variable [Ord κ] [TransOrd κ]

/-- The sum of the weights of all entries. -/
def total (weight : κ → γ → Nat) (entries : ExtTreeMap κ γ) : Nat :=
  (entries.toList.map fun entry => weight entry.1 entry.2).sum

/-- The weight of the entry under a key, if there is one. -/
def weightAt (weight : κ → γ → Nat) (entries : ExtTreeMap κ γ) (key : κ) : Nat :=
  (entries[key]?.map (weight key)).getD 0

/-- An empty map has no weight. -/
theorem total_empty
    (weight : κ → γ → Nat) :
    total weight (∅ : ExtTreeMap κ γ) = 0 := by
  have nothing : (∅ : ExtTreeMap κ γ).toList = [] := ExtTreeMap.toList_eq_nil_iff.mpr rfl
  simp [total, nothing]

end Definitions

section Updates

variable [Ord κ] [TransOrd κ] [LawfulEqOrd κ]

variable [DecidableEq κ]

/-- Inserting an entry lists it before the entries of the other keys. -/
theorem toList_insert_perm
    (entries : ExtTreeMap κ γ)
    (key : κ)
    (value : γ) :
    (entries.insert key value).toList.Perm ((key, value) :: (entries.erase key).toList) := by
  have absent : (key, value) ∉ (entries.erase key).toList := by
    simp [ExtTreeMap.mem_toList_iff_getElem?_eq_some]
  rw [List.perm_ext_iff_of_nodup (nodup_entries _)
    (List.nodup_cons.mpr ⟨absent, nodup_entries _⟩)]
  rintro ⟨other, row⟩
  simp only [ExtTreeMap.mem_toList_iff_getElem?_eq_some, getElem?_insert_entry,
    getElem?_erase_entry, List.mem_cons, Prod.mk.injEq]
  by_cases same : other = key
  · simp [same, eq_comm]
  · simp [same]

/-- Re-inserting a present entry changes nothing. -/
theorem insert_of_getElem?_eq_some
    {entries : ExtTreeMap κ γ}
    {key : κ}
    {value : γ}
    (present : entries[key]? = some value) :
    entries.insert key value = entries := by
  apply ExtTreeMap.ext_getElem?
  intro other
  rw [getElem?_insert_entry]
  by_cases same : other = key
  · simp [same, present]
  · simp [same]

/-- Erasing an absent key changes nothing. -/
theorem erase_of_getElem?_eq_none
    {entries : ExtTreeMap κ γ}
    {key : κ}
    (absent : entries[key]? = none) :
    entries.erase key = entries := by
  apply ExtTreeMap.ext_getElem?
  intro other
  rw [getElem?_erase_entry]
  by_cases same : other = key
  · simp [same, absent]
  · simp [same]

variable (weight : κ → γ → Nat)

/-- A map weighs as much as its entry under a key and its other entries. -/
theorem total_eq_add_erase
    (entries : ExtTreeMap κ γ)
    (key : κ) :
    total weight entries = weightAt weight entries key + total weight (entries.erase key) := by
  cases present : entries[key]? with
  | none =>
      rw [erase_of_getElem?_eq_none present]
      simp [weightAt, present]
  | some value =>
      have listed := (toList_insert_perm entries key value).map
        fun entry => weight entry.1 entry.2
      rw [insert_of_getElem?_eq_some present] at listed
      have summed := listed.sum_eq
      simpa [total, weightAt, present] using summed

/-- Inserting an entry replaces the weight under its key. -/
theorem total_insert
    (entries : ExtTreeMap κ γ)
    (key : κ)
    (value : γ) :
    total weight (entries.insert key value) + weightAt weight entries key =
      total weight entries + weight key value := by
  have listed := (toList_insert_perm entries key value).map
    fun entry => weight entry.1 entry.2
  have inserted : total weight (entries.insert key value) =
      weight key value + total weight (entries.erase key) := by
    simpa [total] using listed.sum_eq
  have split := total_eq_add_erase weight entries key
  omega

/-- Entries under a weightless key do not count. -/
theorem total_insert_of_weightless
    {weight : κ → γ → Nat}
    (entries : ExtTreeMap κ γ)
    {key : κ}
    (weightless : ∀ value, weight key value = 0)
    (value : γ) :
    total weight (entries.insert key value) = total weight entries := by
  have inserted := total_insert weight entries key value
  have old : weightAt weight entries key = 0 := by
    unfold weightAt
    cases entries[key]? with
    | none =>
        rfl
    | some former =>
        exact weightless former
  rw [old, weightless value] at inserted
  exact inserted

/-- No entry outweighs the whole map. -/
theorem weightAt_le_total
    (entries : ExtTreeMap κ γ)
    (key : κ) :
    weightAt weight entries key ≤ total weight entries := by
  have split := total_eq_add_erase weight entries key
  omega

end Updates

section Ranges

variable {α β : Type} [Ord α] [Ord β] [TransOrd α] [TransOrd β] [DecidableEq α]

/-- The sum over a range is the total of the entries in its first column. -/
theorem sum_prefixEntries
    (value : γ → Nat)
    (rows : ExtTreeMap (α × β) γ)
    (key : α) :
    ((prefixEntries rows key).map fun entry => value entry.2).sum =
      total (fun (row : α × β) content => if row.1 = key then value content else 0) rows := by
  unfold prefixEntries total
  induction rows.toList with
  | nil =>
      rfl
  | cons entry rest inductionHypothesis =>
      by_cases inRange : entry.1.1 = key
      · simpa [inRange] using inductionHypothesis
      · simpa [inRange] using inductionHypothesis

end Ranges

end SsnConsole.StableTotals
