import Mathlib

/-!
# Bit masks as sets of flags

A mask of fixed width is the set of its set bits: masking tests inclusion,
disjunction is union.
-/

namespace SsnConsole.BitFlags

variable {width : Nat}

/-- The positions of the set bits of a mask. -/
def flags (mask : BitVec width) : Set Nat :=
  {position | mask.getLsbD position = true}

/-- A mask has no bits exactly if it is zero. -/
@[simp]
theorem flags_zero : flags (0 : BitVec width) = ∅ := by
  ext position
  simp [flags]

/-- Disjunction is union. -/
@[simp]
theorem flags_or
    (first second : BitVec width) :
    flags (first ||| second) = flags first ∪ flags second := by
  ext position
  simp [flags]

/-- A shifted one has the single bit it was shifted to. -/
theorem flags_one_shiftLeft
    {place : Nat}
    (within : place < width) :
    flags ((1 : BitVec width) <<< place) = {place} := by
  ext position
  simp only [flags, Set.mem_ofPred_eq, Set.mem_singleton_iff, BitVec.getLsbD_shiftLeft]
  grind

/-- Masking with `second` gives `second` exactly if its bits are all set. -/
theorem and_eq_right_iff
    {first second : BitVec width} :
    first &&& second = second ↔ flags second ⊆ flags first := by
  constructor
  · intro masked position set
    have both : (first &&& second).getLsbD position = true := by
      rw [masked]
      exact set
    rw [BitVec.getLsbD_and, Bool.and_eq_true] at both
    exact both.1
  · intro included
    apply BitVec.eq_of_getLsbD_eq
    intro position _
    rw [BitVec.getLsbD_and]
    by_cases set : second.getLsbD position = true
    · have firstSet : first.getLsbD position = true := included set
      simp [set, firstSet]
    · simp only [Bool.not_eq_true] at set
      simp [set]

end SsnConsole.BitFlags
