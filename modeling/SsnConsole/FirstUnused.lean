import Mathlib

/-!
# The first unused candidate

Candidates are tried one after the other until one is not in use.  Distinct
candidates cannot all be in use, so the search ends after at most as many
failures as there are values in use.
-/

namespace SsnConsole.FirstUnused

variable {α : Type} [DecidableEq α]

/-- Try the candidates from an index on, at most `fuel` of them. -/
def firstUnused (used : List α) (candidate : Nat → α) : Nat → Nat → Option α
  | 0, _ => none
  | fuel + 1, index =>
      if candidate index ∈ used then
        firstUnused used candidate fuel (index + 1)
      else
        some (candidate index)

variable {used : List α} {candidate : Nat → α}

/-- What the search finds is an unused candidate. -/
theorem unused_of_firstUnused
    {fuel index : Nat}
    {found : α}
    (search : firstUnused used candidate fuel index = some found) :
    found ∉ used ∧ ∃ place, index ≤ place ∧ found = candidate place := by
  induction fuel generalizing index with
  | zero => cases search
  | succ fuel inductionHypothesis =>
      unfold firstUnused at search
      split at search
      · obtain ⟨unused, place, later, same⟩ := inductionHypothesis search
        exact ⟨unused, place, Nat.le_of_succ_le later, same⟩
      · rename_i unused
        obtain rfl := Option.some.inj search
        exact ⟨unused, index, Nat.le_refl index, rfl⟩

/-- More fuel finds the same candidate. -/
theorem firstUnused_of_le
    {fuel more index : Nat}
    {found : α}
    (search : firstUnused used candidate fuel index = some found)
    (enough : fuel ≤ more) :
    firstUnused used candidate more index = some found := by
  induction fuel generalizing more index with
  | zero => cases search
  | succ fuel inductionHypothesis =>
      obtain ⟨more, rfl⟩ : ∃ rest, more = rest + 1 := ⟨more - 1, by omega⟩
      unfold firstUnused at search ⊢
      split at search
      · rename_i taken
        rw [if_pos taken]
        exact inductionHypothesis search (Nat.le_of_succ_le_succ enough)
      · rename_i unused
        rw [if_neg unused]
        exact search

/-- A search without a result has tried used candidates only. -/
theorem mem_of_firstUnused_eq_none
    {fuel index : Nat}
    (search : firstUnused used candidate fuel index = none) :
    ∀ step < fuel, candidate (index + step) ∈ used := by
  induction fuel generalizing index with
  | zero =>
      intro step below
      cases below
  | succ fuel inductionHypothesis =>
      unfold firstUnused at search
      split at search
      · rename_i taken
        intro step below
        cases step with
        | zero => exact taken
        | succ step =>
            have later := inductionHypothesis search step (Nat.lt_of_succ_lt_succ below)
            rw [Nat.add_right_comm] at later
            exact later
      · cases search

/-- With more fuel than there are used values, distinct candidates suffice. -/
theorem exists_firstUnused
    (distinct : Function.Injective candidate)
    (index : Nat) :
    ∃ found, ∀ fuel, used.length < fuel →
      firstUnused used candidate fuel index = some found := by
  cases search : firstUnused used candidate (used.length + 1) index with
  | some found => exact ⟨found, fun fuel enough => firstUnused_of_le search enough⟩
  | none =>
      have tried := mem_of_firstUnused_eq_none search
      let candidates := (List.range (used.length + 1)).map fun step => candidate (index + step)
      have nodup : candidates.Nodup := by
        apply List.nodup_range.map
        intro first second same
        exact Nat.add_left_cancel (distinct same)
      have inside : candidates ⊆ used := by
        intro value member
        obtain ⟨step, below, rfl⟩ := List.mem_map.mp member
        exact tried step (List.mem_range.mp below)
      have bound : candidates.length ≤ used.length := (nodup.subperm inside).length_le
      have count : candidates.length = used.length + 1 := by simp [candidates]
      omega

end SsnConsole.FirstUnused
