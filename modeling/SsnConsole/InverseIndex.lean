import Mathlib

/-!
# Hand-maintained inverse indexes

An index finds the owner of a key.  `Inverts` says that it is exact for owners
that hold at most one key each, `Mirrors` that it is exact for a relation of
owners and keys.  Keys then have one owner each.  The module gives the updates
that keep an index exact.
-/

namespace SsnConsole.InverseIndex

variable {Key Owner : Type}

/-- The index finds the owner of a key exactly if the owner holds the key. -/
def Inverts (ownerOf : Key → Option Owner) (keyOf : Owner → Option Key) : Prop :=
  ∀ key owner, ownerOf key = some owner ↔ keyOf owner = some key

namespace Inverts

variable {ownerOf updatedOwnerOf : Key → Option Owner}
variable {keyOf updatedKeyOf : Owner → Option Key}
variable {key : Key} {owner : Owner}

/-- A key has at most one owner. -/
theorem owner_unique
    {other : Owner}
    (inverts : Inverts ownerOf keyOf)
    (holds : keyOf owner = some key)
    (otherHolds : keyOf other = some key) :
    owner = other := by
  have found := (inverts key owner).mpr holds
  have otherFound := (inverts key other).mpr otherHolds
  exact Option.some.inj (found.symm.trans otherFound)

/-- Nothing changes if nobody's key does. -/
theorem of_same
    (inverts : Inverts ownerOf keyOf)
    (sameOwners : ∀ key, updatedOwnerOf key = ownerOf key)
    (sameKeys : ∀ owner, updatedKeyOf owner = keyOf owner) :
    Inverts updatedOwnerOf updatedKeyOf := by
  intro key owner
  rw [sameOwners, sameKeys]
  exact inverts key owner

/-- An owner that gives up its key has it erased from the index. -/
theorem release
    [DecidableEq Key]
    [DecidableEq Owner]
    (inverts : Inverts ownerOf keyOf)
    (holds : keyOf owner = some key)
    (owners : ∀ other, updatedOwnerOf other = if other = key then none else ownerOf other)
    (keys : ∀ other, updatedKeyOf other = if other = owner then none else keyOf other) :
    Inverts updatedOwnerOf updatedKeyOf := by
  intro otherKey otherOwner
  rw [owners, keys]
  by_cases sameKey : otherKey = key
  · subst sameKey
    by_cases sameOwner : otherOwner = owner
    · simp [sameOwner]
    · have notHeld : keyOf otherOwner ≠ some otherKey :=
        fun held => sameOwner (inverts.owner_unique held holds)
      simp [sameOwner, notHeld]
  · by_cases sameOwner : otherOwner = owner
    · subst sameOwner
      rw [if_neg sameKey, if_pos rfl, inverts, holds]
      simp [Ne.symm sameKey]
    · rw [if_neg sameKey, if_neg sameOwner]
      exact inverts otherKey otherOwner

/-- An owner without another key may take a key that nobody else has. -/
theorem claim
    [DecidableEq Key]
    [DecidableEq Owner]
    (inverts : Inverts ownerOf keyOf)
    (free : ∀ other, ownerOf key = some other → other = owner)
    (keyless : ∀ other, keyOf owner = some other → other = key)
    (owners : ∀ other, updatedOwnerOf other = if other = key then some owner else ownerOf other)
    (keys : ∀ other, updatedKeyOf other = if other = owner then some key else keyOf other) :
    Inverts updatedOwnerOf updatedKeyOf := by
  intro otherKey otherOwner
  rw [owners, keys]
  by_cases sameKey : otherKey = key
  · subst sameKey
    by_cases sameOwner : otherOwner = owner
    · simp [sameOwner]
    · have notHeld : keyOf otherOwner ≠ some otherKey :=
        fun held => sameOwner (free otherOwner ((inverts _ _).mpr held))
      simp [sameOwner, Ne.symm sameOwner, notHeld]
  · by_cases sameOwner : otherOwner = owner
    · subst sameOwner
      have notFound : ownerOf otherKey ≠ some otherOwner :=
        fun found => sameKey (keyless otherKey ((inverts _ _).mp found))
      simp [sameKey, Ne.symm sameKey, notFound]
    · rw [if_neg sameKey, if_neg sameOwner]
      exact inverts otherKey otherOwner

end Inverts

/-- The index finds the owner of a key exactly if the relation has that row. -/
def Mirrors (ownerOf : Key → Option Owner) (row : Owner → Key → Prop) : Prop :=
  ∀ key owner, ownerOf key = some owner ↔ row owner key

namespace Mirrors

variable {ownerOf updatedOwnerOf : Key → Option Owner}
variable {row updatedRow : Owner → Key → Prop}
variable {key : Key} {owner : Owner}

/-- A key has rows of one owner only. -/
theorem owner_unique
    {other : Owner}
    (mirrors : Mirrors ownerOf row)
    (rows : row owner key)
    (otherRows : row other key) :
    owner = other := by
  have found := (mirrors key owner).mpr rows
  have otherFound := (mirrors key other).mpr otherRows
  exact Option.some.inj (found.symm.trans otherFound)

/-- A key without an owner has no rows. -/
theorem no_row
    (mirrors : Mirrors ownerOf row)
    (free : ownerOf key = none) :
    ¬row owner key := by
  intro found
  have owned := (mirrors key owner).mpr found
  rw [free] at owned
  cases owned

/-- A key without an owner may be linked to anyone. -/
theorem link
    [DecidableEq Key]
    (owner : Owner)
    (mirrors : Mirrors ownerOf row)
    (free : ownerOf key = none)
    (owners : ∀ other, updatedOwnerOf other = if other = key then some owner else ownerOf other)
    (rows :
      ∀ otherOwner other,
        updatedRow otherOwner other ↔
          row otherOwner other ∨ (otherOwner = owner ∧ other = key)) :
    Mirrors updatedOwnerOf updatedRow := by
  intro other otherOwner
  rw [owners, rows]
  by_cases same : other = key
  · subst same
    have noRow : ¬row otherOwner other := mirrors.no_row free
    simp [noRow, eq_comm]
  · simp only [same, and_false, or_false]
    exact mirrors other otherOwner

/-- The one link of a key may be taken away. -/
theorem unlink
    [DecidableEq Key]
    (mirrors : Mirrors ownerOf row)
    (linked : ownerOf key = some owner)
    (owners : ∀ other, updatedOwnerOf other = if other = key then none else ownerOf other)
    (rows :
      ∀ otherOwner other,
        updatedRow otherOwner other ↔
          row otherOwner other ∧ ¬(otherOwner = owner ∧ other = key)) :
    Mirrors updatedOwnerOf updatedRow := by
  intro other otherOwner
  rw [owners, rows]
  by_cases same : other = key
  · subst same
    have onlyOwner : row otherOwner other → otherOwner = owner :=
      fun found => mirrors.owner_unique found ((mirrors other owner).mp linked)
    simp only [if_true, reduceCtorEq, and_true, false_iff, not_and, not_not]
    exact onlyOwner
  · simp only [same, and_false, not_false_eq_true, and_true]
    exact mirrors other otherOwner

end Mirrors

end SsnConsole.InverseIndex
