import Mathlib

/-!
# Walks through consecutive periods

A count of days becomes a year, and a day of the year becomes a month, by
subtracting the lengths of consecutive periods until the rest fits into one.
This module gives the walk for arbitrary lengths and says which period it ends
in.
-/

namespace SsnConsole.PeriodWalk

/-- Leave at most `rounds` whole periods behind: the period reached and the rest. -/
def locate (lengths : Nat → Nat) : Nat → Nat → Nat → Nat × Nat
  | 0, index, offset => (index, offset)
  | rounds + 1, index, offset =>
      if offset ≥ lengths index then
        locate lengths rounds (index + 1) (offset - lengths index)
      else
        (index, offset)

/-- How far after the start of period `first` the period `index` starts. -/
def elapsed (lengths : Nat → Nat) (first index : Nat) : Nat :=
  ∑ period ∈ Finset.Ico first index, lengths period

variable (lengths : Nat → Nat)

/-- A period starts where its predecessor ends. -/
theorem elapsed_succ
    {first index : Nat}
    (ordered : first ≤ index) :
    elapsed lengths first (index + 1) = elapsed lengths first index + lengths index := by
  simp [elapsed, Finset.sum_Ico_succ_top ordered]

/-- Later periods start later. -/
theorem elapsed_mono
    (first : Nat)
    {early late : Nat}
    (ordered : early ≤ late) :
    elapsed lengths first early ≤ elapsed lengths first late := by
  apply Finset.sum_le_sum_of_subset
  exact Finset.Ico_subset_Ico_right ordered

/-- The periods after the first one are those that a walk from the second sees. -/
theorem elapsed_eq_add
    {first index : Nat}
    (ordered : first < index) :
    elapsed lengths first index = lengths first + elapsed lengths (first + 1) index := by
  simp [elapsed, Finset.sum_eq_sum_Ico_succ_bot ordered]

/-- Where a walk that started in period `first` has arrived. -/
structure Located (lengths : Nat → Nat) (rounds first offset index rest : Nat) : Prop where
  notBefore : first ≤ index
  notBeyond : index ≤ first + rounds
  consumed : elapsed lengths first index + rest = offset
  settled : rest < lengths index ∨ index = first + rounds

/-- A walk leaves whole periods behind and stops where the rest fits. -/
theorem locate_located
    (rounds first offset : Nat) :
    Located lengths rounds first offset
      (locate lengths rounds first offset).1 (locate lengths rounds first offset).2 := by
  induction rounds generalizing first offset with
  | zero =>
      refine ⟨le_refl first, le_refl first, ?_, Or.inr rfl⟩
      simp [elapsed, locate]
  | succ rounds inductionHypothesis =>
      rw [locate]
      by_cases whole : offset ≥ lengths first
      · rw [if_pos whole]
        have later := inductionHypothesis (first + 1) (offset - lengths first)
        have start := elapsed_eq_add lengths (Nat.lt_of_succ_le later.notBefore)
        have consumed := later.consumed
        have notBeyond := later.notBeyond
        refine ⟨Nat.le_of_succ_le later.notBefore, by omega, by omega, ?_⟩
        rcases later.settled with fits | exhausted
        · exact Or.inl fits
        · exact Or.inr (by omega)
      · rw [if_neg whole]
        refine ⟨le_refl first, Nat.le_add_right _ _, ?_, Or.inl (Nat.lt_of_not_le whole)⟩
        simp [elapsed]

/-- A step that leads through each period leads through all of them. -/
theorem iterate_elapsed
    {α : Type*}
    (step : α → α)
    (start : Nat → α)
    {first : Nat}
    {index : Nat}
    (ordered : first ≤ index)
    (through : ∀ period, first ≤ period → period < index →
      step^[lengths period] (start period) = start (period + 1)) :
    step^[elapsed lengths first index] (start first) = start index := by
  induction index, ordered using Nat.le_induction with
  | base =>
      simp [elapsed]
  | succ index ordered inductionHypothesis =>
      have earlier := inductionHypothesis fun period from' before =>
        through period from' (Nat.lt_succ_of_lt before)
      rw [elapsed_succ lengths ordered, Nat.add_comm, Function.iterate_add_apply, earlier]
      exact through index ordered (Nat.lt_succ_self index)

variable {lengths}

/-- A walk with room for the whole offset stops inside a period. -/
theorem Located.inside
    {rounds first offset index rest : Nat}
    (located : Located lengths rounds first offset index rest)
    (room : offset < elapsed lengths first (first + rounds)) :
    rest < lengths index ∧ index < first + rounds := by
  have consumed := located.consumed
  have within : index < first + rounds := by
    by_contra beyond
    have reached := elapsed_mono lengths first (Nat.le_of_not_lt beyond)
    omega
  rcases located.settled with fits | exhausted
  · exact ⟨fits, within⟩
  · omega

/-- Of two walks, the one over the longer offset ends no earlier. -/
theorem Located.index_le
    {rounds laterRounds first offset laterOffset index laterIndex rest laterRest : Nat}
    (located : Located lengths rounds first offset index rest)
    (later : Located lengths laterRounds first laterOffset laterIndex laterRest)
    (fits : laterRest < lengths laterIndex)
    (ordered : offset ≤ laterOffset) :
    index ≤ laterIndex := by
  by_contra beyond
  have passed : laterIndex + 1 ≤ index := by omega
  have reached := elapsed_mono lengths first passed
  have next := elapsed_succ lengths later.notBefore
  have consumed := located.consumed
  have laterConsumed := later.consumed
  omega

/-- Two walks that end in one period leave rests ordered as their offsets. -/
theorem Located.rest_le
    {rounds laterRounds first offset laterOffset index rest laterRest : Nat}
    (located : Located lengths rounds first offset index rest)
    (later : Located lengths laterRounds first laterOffset index laterRest)
    (ordered : offset ≤ laterOffset) :
    rest ≤ laterRest := by
  have consumed := located.consumed
  have laterConsumed := later.consumed
  omega

end SsnConsole.PeriodWalk
