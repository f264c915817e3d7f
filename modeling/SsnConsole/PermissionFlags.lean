import SsnConsole.BackendTypes
import SsnConsole.BitFlags

/-!
# Permission sets as sets of flags

The code combines and compares permission masks; read as sets of flags, `union`
is union and `contains` is inclusion.
-/

namespace SsnConsole.Backend

namespace Permissions

variable {scope : PermissionScope}

/-- The flags of a permission set. -/
def flags (permissions : Permissions scope) : Set Nat :=
  BitFlags.flags permissions.bits

/-- `contains` is inclusion of flags. -/
theorem contains_iff
    {permissions other : Permissions scope} :
    permissions.contains other = true ↔ other.flags ⊆ permissions.flags := by
  unfold contains
  rw [beq_iff_eq]
  exact BitFlags.and_eq_right_iff

/-- `union` is the union of flags. -/
@[simp]
theorem flags_union
    (first second : Permissions scope) :
    (first.union second).flags = first.flags ∪ second.flags :=
  BitFlags.flags_or first.bits second.bits

/-- A union contains what its second set contains. -/
theorem contains_union_right
    {first second other : Permissions scope}
    (contained : second.contains other = true) :
    (first.union second).contains other = true := by
  rw [contains_iff] at contained ⊢
  rw [flags_union]
  exact contained.trans Set.subset_union_right

/-- A union contains what its first set contains. -/
theorem contains_union_left
    {first second other : Permissions scope}
    (contained : first.contains other = true) :
    (first.union second).contains other = true := by
  rw [contains_iff] at contained ⊢
  rw [flags_union]
  exact contained.trans Set.subset_union_left

/-- Every set contains itself. -/
theorem contains_self
    (permissions : Permissions scope) :
    permissions.contains permissions = true :=
  contains_iff.mpr subset_rfl

/-- The empty set has no flags. -/
@[simp]
theorem flags_EMPTY : (EMPTY : Permissions scope).flags = ∅ :=
  BitFlags.flags_zero

/-- The empty set adds nothing to a union. -/
@[simp]
theorem union_EMPTY_left
    (permissions : Permissions scope) :
    EMPTY.union permissions = permissions := by
  simp [EMPTY, union]

/-- Every set contains the empty one. -/
theorem contains_EMPTY
    (permissions : Permissions scope) :
    permissions.contains EMPTY = true := by
  rw [contains_iff, flags_EMPTY]
  exact Set.empty_subset _

/-- Folding unions collects the flags of every set. -/
private theorem mem_flags_foldl_union
    {sets : List (Permissions scope)}
    {start : Permissions scope}
    {flag : Nat} :
    flag ∈ (sets.foldl union start).flags ↔
      flag ∈ start.flags ∨ ∃ permissions ∈ sets, flag ∈ permissions.flags := by
  induction sets generalizing start with
  | nil =>
      simp
  | cons first rest inductionHypothesis =>
      rw [List.foldl_cons, inductionHypothesis, flags_union]
      simp [or_assoc]

/-- The flags of a union of sets are the flags of its members. -/
theorem mem_flags_unionAll
    {sets : List (Permissions scope)}
    {flag : Nat} :
    flag ∈ (unionAll sets).flags ↔ ∃ permissions ∈ sets, flag ∈ permissions.flags := by
  unfold unionAll
  rw [mem_flags_foldl_union]
  simp

end Permissions

end SsnConsole.Backend
