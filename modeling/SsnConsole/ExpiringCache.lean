import SsnConsole.StableIndex

/-!
# Caches whose entries expire

A fill drops what has expired and stores a value with a fresh expiry; a lookup
passes over what has expired.  Fills may come late and in any order, so an entry
says nothing about the latest fill.  What holds of every fill holds of every
entry: `Traces` keeps the time from which the entry's lifetime counts.
-/

namespace SsnConsole.ExpiringCache

open Std
open SsnConsole.StableIndex

variable {κ ν : Type} [Ord κ] [TransOrd κ] [LawfulEqOrd κ]

/-- A value and the time from which it must not be used. -/
structure Entry (ν : Type) where
  expiresAt : Int
  value : ν

/-- Entries by key. -/
abbrev Cache (κ ν : Type) [Ord κ] : Type :=
  ExtTreeMap κ (Entry ν)

/-- The entry of a key, unless it has expired. -/
def live (cache : Cache κ ν) (key : κ) (now : Int) : Option (Entry ν) :=
  cache[key]?.filter fun entry => decide (now < entry.expiresAt)

/-- Drop what has expired. -/
def sweep (cache : Cache κ ν) (now : Int) : Cache κ ν :=
  cache.filter fun _ entry => decide (now < entry.expiresAt)

/-- Sweep, and store a value that expires after `ttl`. -/
def fill (cache : Cache κ ν) (now ttl : Int) (key : κ) (value : ν) : Cache κ ν :=
  (sweep cache now).insert key ⟨now + ttl, value⟩

variable {cache : Cache κ ν} {key other : κ} {now ttl : Int} {value : ν} {entry : Entry ν}

omit [LawfulEqOrd κ] in
/-- A live entry is stored under its key and has not expired. -/
theorem live_eq_some :
    live cache key now = some entry ↔ cache[key]? = some entry ∧ now < entry.expiresAt := by
  unfold live
  rw [Option.filter_eq_some_iff, decide_eq_true_iff]

omit [LawfulEqOrd κ] in
/-- What a sweep leaves was stored, and has not expired. -/
theorem getElem?_sweep
    (kept : (sweep cache now)[key]? = some entry) :
    cache[key]? = some entry ∧ now < entry.expiresAt := by
  simpa [sweep] using kept

variable [DecidableEq κ]

/-- An entry after a fill is the filled one, or was there and has not expired. -/
theorem getElem?_fill
    (stored : (fill cache now ttl key value)[other]? = some entry) :
    (other = key ∧ entry = ⟨now + ttl, value⟩) ∨
      (cache[other]? = some entry ∧ now < entry.expiresAt) := by
  unfold fill at stored
  rw [getElem?_insert_entry] at stored
  split at stored
  · rename_i same
    exact .inl ⟨same, (Option.some.inj stored).symm⟩
  · exact .inr (getElem?_sweep stored)

/-- Every entry goes back to a fill: `Filled key at value` holds, and the entry expires
`ttl` after that time. -/
def Traces
    (Filled : κ → Int → ν → Prop)
    (ttl : Int)
    (cache : Cache κ ν) : Prop :=
  ∀ key entry, cache[key]? = some entry →
    ∃ readAt, Filled key readAt entry.value ∧ entry.expiresAt = readAt + ttl

namespace Traces

variable {Filled Later : κ → Int → ν → Prop}

omit [LawfulEqOrd κ] [DecidableEq κ] in
/-- An empty cache goes back to nothing. -/
theorem empty : Traces Filled ttl (∅ : Cache κ ν) := by
  intro key entry stored
  simp at stored

omit [LawfulEqOrd κ] [DecidableEq κ] in
/-- Fills that happened stay so. -/
theorem mono
    (traces : Traces Filled ttl cache)
    (implies : ∀ key readAt value, Filled key readAt value → Later key readAt value) :
    Traces Later ttl cache := by
  intro key entry stored
  obtain ⟨readAt, filled, expires⟩ := traces key entry stored
  exact ⟨readAt, implies _ _ _ filled, expires⟩

/-- A fill keeps every entry traced, however late it comes. -/
theorem fill
    (traces : Traces Filled ttl cache)
    (filled : Filled key now value) :
    Traces Filled ttl (fill cache now ttl key value) := by
  intro other entry stored
  rcases getElem?_fill stored with ⟨rfl, rfl⟩ | ⟨before, -⟩
  · exact ⟨now, filled, rfl⟩
  · exact traces other entry before

omit [LawfulEqOrd κ] [DecidableEq κ] in
/-- A live entry goes back to a fill less than `ttl` ago. -/
theorem of_live
    (traces : Traces Filled ttl cache)
    (found : live cache key now = some entry) :
    ∃ readAt,
      Filled key readAt entry.value ∧ entry.expiresAt = readAt + ttl ∧ now < readAt + ttl := by
  obtain ⟨stored, unexpired⟩ := live_eq_some.mp found
  obtain ⟨readAt, filled, expires⟩ := traces key entry stored
  exact ⟨readAt, filled, expires, expires ▸ unexpired⟩

end Traces

end SsnConsole.ExpiringCache
