import Mathlib

/-!
# Walking a list in batches

A list of calls is made batch by batch.  A batch whose last calls all failed, as
many as a limit says, is the last one; otherwise the walk ends with the list.
-/

namespace SsnConsole.BatchedWalk

variable {α : Type}

/-- How many of the last results are failures, counted as the results come in. -/
def streak (failed : List Bool) : Nat :=
  failed.foldl (fun count failed => if failed then count + 1 else 0) 0

/-- The batches of a walk whose calls are counted from `calls`; a round takes one unit of fuel. -/
def walk (size limit : Nat) (fails : Nat → Bool) :
    Nat → Nat → List α → Option (List (List α))
  | 0, _, _ => none
  | fuel + 1, calls, rest =>
      let batch := rest.take size
      if batch.isEmpty then
        some []
      else if limit ≤ streak ((List.range' calls batch.length).map fails) then
        some [batch]
      else
        (walk size limit fails fuel (calls + batch.length) (rest.drop size)).map (batch :: ·)

/-- What a walk calls: a prefix of the list, and all of it unless the last calls before its end
failed, as many as the limit says. -/
structure Walked (size limit : Nat) (fails : Nat → Bool) (calls : Nat) (rest : List α)
    (batches : List (List α)) : Prop where
  front : List.IsPrefix batches.flatten rest
  bounded : ∀ batch ∈ batches, batch ≠ [] ∧ batch.length ≤ size
  ended :
    batches.flatten.length < rest.length →
      limit ≤ batches.flatten.length ∧
        ∀ call, batches.flatten.length - limit ≤ call → call < batches.flatten.length →
          fails (calls + call) = true

/-- One more result ends a streak or adds to it. -/
theorem streak_concat
    (failed : List Bool)
    (last : Bool) :
    streak (failed ++ [last]) = if last then streak failed + 1 else 0 := by
  unfold streak
  rw [List.foldl_append]
  rfl

/-- A streak is made of failures. -/
theorem streak_spec
    (failed : List Bool) :
    streak failed ≤ failed.length ∧
      ∀ index, failed.length - streak failed ≤ index → index < failed.length →
        failed[index]? = some true := by
  induction failed using List.reverseRecOn with
  | nil =>
      refine ⟨le_refl _, ?_⟩
      intro index _ within
      exact absurd within (Nat.not_lt_zero _)
  | append_singleton failed last hypothesis =>
      obtain ⟨bounded, failures⟩ := hypothesis
      rw [streak_concat, List.length_append, List.length_singleton]
      cases last with
      | false =>
          refine ⟨Nat.zero_le _, ?_⟩
          intro index above within
          exact absurd above (Nat.not_le.mpr within)
      | true =>
          refine ⟨Nat.succ_le_succ bounded, ?_⟩
          intro index above within
          rw [if_pos rfl] at above
          rcases Nat.lt_or_ge index failed.length with earlier | boundary
          · rw [List.getElem?_append_left earlier]
            exact failures index (by omega) earlier
          · rw [List.getElem?_append_right boundary]
            have position : index - failed.length = 0 := by
              omega
            rw [position]
            rfl

/-- A batch whose last calls failed ends a walk. -/
theorem Walked.gaveUp
    {size limit calls : Nat}
    {fails : Nat → Bool}
    {rest : List α}
    (nonempty : rest.take size ≠ [])
    (failed : limit ≤ streak ((List.range' calls (rest.take size).length).map fails)) :
    Walked size limit fails calls rest [rest.take size] where
  front := by
    rw [List.flatten_singleton]
    exact List.take_prefix size rest
  bounded := by
    intro batch member
    rw [List.mem_singleton.mp member]
    exact ⟨nonempty, List.length_take_le size rest⟩
  ended := by
    intro _
    rw [List.flatten_singleton]
    obtain ⟨bounded, failures⟩ :=
      streak_spec ((List.range' calls (rest.take size).length).map fails)
    rw [List.length_map, List.length_range'] at bounded failures
    refine ⟨failed.trans bounded, ?_⟩
    intro call above within
    have result := failures call (by omega) within
    rw [List.getElem?_map, List.getElem?_range' within, Option.map_some, Nat.one_mul] at result
    exact Option.some.inj result

/-- A batch before a walk over what is left. -/
theorem Walked.cons
    {size limit calls : Nat}
    {fails : Nat → Bool}
    {rest : List α}
    {batches : List (List α)}
    (nonempty : rest.take size ≠ [])
    (walked :
      Walked size limit fails (calls + (rest.take size).length) (rest.drop size) batches) :
    Walked size limit fails calls rest (rest.take size :: batches) where
  front := by
    rw [List.flatten_cons]
    obtain ⟨left, assembled⟩ := walked.front
    refine ⟨left, ?_⟩
    rw [List.append_assoc, assembled, List.take_append_drop]
  bounded := by
    intro batch member
    rcases List.mem_cons.mp member with rfl | later
    · exact ⟨nonempty, List.length_take_le size rest⟩
    · exact walked.bounded batch later
  ended := by
    intro short
    have whole : (rest.take size).length + (rest.drop size).length = rest.length := by
      rw [← List.length_append, List.take_append_drop]
    rw [List.flatten_cons, List.length_append] at short ⊢
    obtain ⟨enough, failures⟩ := walked.ended (by omega)
    refine ⟨by omega, ?_⟩
    intro call above within
    have result := failures (call - (rest.take size).length) (by omega) (by omega)
    have position :
        calls + (rest.take size).length + (call - (rest.take size).length) = calls + call := by
      omega
    rw [position] at result
    exact result

/-- A walk ends, with the same batches whatever fuel it is given beyond what it needs. -/
theorem exists_walked
    {size limit : Nat}
    (positive : 0 < size)
    (fails : Nat → Bool)
    (calls : Nat)
    (rest : List α) :
    ∃ batches,
      Walked size limit fails calls rest batches ∧
        ∀ fuel, rest.length < fuel → walk size limit fails fuel calls rest = some batches := by
  induction length : rest.length using Nat.strongRecOn generalizing rest calls with
  | ind count hypothesis =>
      by_cases empty : rest = []
      · subst empty
        refine ⟨[], ⟨List.nil_prefix, fun _ member => absurd member List.not_mem_nil, ?_⟩, ?_⟩
        · intro short
          exact absurd short (Nat.lt_irrefl _)
        · intro fuel enough
          obtain ⟨more, rfl⟩ := Nat.exists_eq_add_one_of_ne_zero (Nat.ne_zero_of_lt enough)
          rw [walk, List.take_nil]
          rfl
      · have nonempty : rest.take size ≠ [] := by
          intro none
          rcases List.take_eq_nil_iff.mp none with zero | nil
          · omega
          · exact empty nil
        have visible : (rest.take size).isEmpty = false := by
          rw [List.isEmpty_eq_false_iff]
          exact nonempty
        by_cases failed : limit ≤ streak ((List.range' calls (rest.take size).length).map fails)
        · refine ⟨[rest.take size], Walked.gaveUp nonempty failed, ?_⟩
          intro fuel enough
          obtain ⟨more, rfl⟩ := Nat.exists_eq_add_one_of_ne_zero (Nat.ne_zero_of_lt enough)
          rw [walk]
          simp only [visible, if_pos failed, Bool.false_eq_true, if_false]
        · have fewer : (rest.drop size).length < count := by
            have present : 0 < rest.length := List.length_pos_iff.mpr empty
            rw [List.length_drop]
            omega
          obtain ⟨batches, walked, runs⟩ :=
            hypothesis _ fewer (calls + (rest.take size).length) (rest.drop size) rfl
          refine ⟨rest.take size :: batches, walked.cons nonempty, ?_⟩
          intro fuel enough
          obtain ⟨more, rfl⟩ := Nat.exists_eq_add_one_of_ne_zero (Nat.ne_zero_of_lt enough)
          rw [walk]
          simp only [visible, if_neg failed, Bool.false_eq_true, if_false]
          rw [runs more (by omega)]
          rfl

end SsnConsole.BatchedWalk
