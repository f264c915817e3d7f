import Mathlib

/-!
# Substitution in texts

A text is split at every occurrence of a token, from the left, and joined with a
replacement.  What neither the token nor the replacement has is left in the text as
it was.
-/

namespace SsnConsole.TextSubstitution

variable {α : Type} [DecidableEq α]

/-- The pieces of a text between the occurrences of a token, after some units that still belong
to an occurrence. -/
def splitFrom (token : List α) : Nat → List α → List (List α)
  | _, [] => [[]]
  | skip + 1, _ :: rest => splitFrom token skip rest
  | 0, unit :: rest =>
      if token.isPrefixOf (unit :: rest) then
        [] :: splitFrom token (token.length - 1) rest
      else
        (splitFrom token 0 rest).modifyHead (unit :: ·)

/-- The pieces of a text between the occurrences of a token. -/
def split (token text : List α) : List (List α) :=
  splitFrom token 0 text

/-- A text with a replacement for every occurrence of a token. -/
def replaceAll (token replacement text : List α) : List α :=
  replacement.intercalate (split token text)

/-- A text with a replacement for the first occurrence of a token. -/
def replaceFirst (token replacement : List α) : List α → List α
  | [] => if token = [] then replacement else []
  | unit :: rest =>
      if token.isPrefixOf (unit :: rest) then
        replacement ++ (unit :: rest).drop token.length
      else
        unit :: replaceFirst token replacement rest

/-- A text with a mark for every run of units that are not kept, inside a run or not. -/
def collapseRuns (keep : α → Bool) (mark : α) : Bool → List α → List α
  | _, [] => []
  | inRun, unit :: rest =>
      if keep unit then
        unit :: collapseRuns keep mark false rest
      else if inRun then
        collapseRuns keep mark true rest
      else
        mark :: collapseRuns keep mark true rest

section Pieces

/-- There is a last piece. -/
theorem splitFrom_ne_nil
    (token : List α)
    (skip : Nat)
    (text : List α) :
    splitFrom token skip text ≠ [] := by
  induction text generalizing skip with
  | nil =>
      cases skip with
      | zero => exact List.cons_ne_nil _ _
      | succ skip => exact List.cons_ne_nil _ _
  | cons unit rest inductionHypothesis =>
      cases skip with
      | succ skip => exact inductionHypothesis skip
      | zero =>
          simp only [splitFrom]
          split
          · exact List.cons_ne_nil _ _
          · intro none
            cases pieces : splitFrom token 0 rest with
            | nil => exact inductionHypothesis 0 pieces
            | cons first others =>
                rw [pieces] at none
                cases none

omit [DecidableEq α] in
/-- A unit before the first piece is a unit before the joined text. -/
theorem intercalate_modifyHead
    {pieces : List (List α)}
    (some : pieces ≠ [])
    (token : List α)
    (unit : α) :
    token.intercalate (pieces.modifyHead (unit :: ·)) = unit :: token.intercalate pieces := by
  cases pieces with
  | nil => exact (some rfl).elim
  | cons first others =>
      cases others with
      | nil => simp
      | cons second others => simp

/-- Joined with the token, the pieces are the text. -/
theorem intercalate_splitFrom
    {token : List α}
    (nonempty : token ≠ [])
    (skip : Nat)
    (text : List α) :
    token.intercalate (splitFrom token skip text) = text.drop skip := by
  induction text generalizing skip with
  | nil =>
      cases skip with
      | zero => rfl
      | succ skip => rfl
  | cons unit rest inductionHypothesis =>
      cases skip with
      | succ skip => exact inductionHypothesis skip
      | zero =>
          simp only [splitFrom]
          split
          · rename_i occurs
            obtain ⟨later, whole⟩ := List.isPrefixOf_iff_prefix.mp occurs
            rw [List.intercalate_cons_of_ne_nil (splitFrom_ne_nil _ _ _), List.nil_append,
              inductionHypothesis]
            have dropped : rest.drop (token.length - 1) = later := by
              cases token with
              | nil => exact (nonempty rfl).elim
              | cons first others =>
                  obtain ⟨-, tail⟩ := List.cons.inj whole
                  rw [← tail]
                  exact List.drop_left
            rw [dropped]
            exact whole
          · rw [intercalate_modifyHead (splitFrom_ne_nil _ _ _), inductionHypothesis]
            rfl

omit [DecidableEq α] in
/-- A separator without units of a kind does not count among them. -/
theorem filter_intercalate
    {keep : α → Bool}
    {separator : List α}
    (absent : ∀ unit ∈ separator, keep unit = false)
    (pieces : List (List α)) :
    (separator.intercalate pieces).filter keep = (pieces.map (List.filter keep)).flatten := by
  have dropped : separator.filter keep = [] := by
    apply List.filter_eq_nil_iff.mpr
    intro unit member kept
    rw [absent unit member] at kept
    cases kept
  induction pieces with
  | nil => rfl
  | cons first others inductionHypothesis =>
      cases others with
      | nil => simp
      | cons second others =>
          rw [List.intercalate_cons_cons, List.filter_append, List.filter_append, dropped,
            inductionHypothesis]
          simp

/-- Units of a kind that neither the token nor the replacement has stay as they are, in their
order. -/
theorem filter_replaceAll
    {keep : α → Bool}
    {token replacement : List α}
    (nonempty : token ≠ [])
    (tokenFree : ∀ unit ∈ token, keep unit = false)
    (replacementFree : ∀ unit ∈ replacement, keep unit = false)
    (text : List α) :
    (replaceAll token replacement text).filter keep = text.filter keep := by
  have joined : token.intercalate (split token text) = text :=
    intercalate_splitFrom nonempty 0 text
  calc
    (replaceAll token replacement text).filter keep =
        ((split token text).map (List.filter keep)).flatten :=
      filter_intercalate replacementFree _
    _ = (token.intercalate (split token text)).filter keep :=
      (filter_intercalate tokenFree _).symm
    _ = text.filter keep := by rw [joined]

end Pieces

section Occurrences

omit [DecidableEq α] in
/-- A token without a unit does not lie across an occurrence of this unit. -/
theorem infix_append_cons
    {token before after : List α}
    {unit : α}
    (free : unit ∉ token)
    (occurs : token <:+: before ++ unit :: after) :
    token <:+: before ∨ token <:+: after := by
  obtain ⟨first, last, whole⟩ := occurs
  rw [List.append_assoc] at whole
  rcases List.append_eq_append_iff.mp whole with ⟨gap, rfl, follows⟩ | ⟨gap, rfl, follows⟩
  · -- The token begins before the unit, so it also ends there.
    rcases List.append_eq_append_iff.mp follows with ⟨rest, rfl, -⟩ | ⟨rest, same, follows⟩
    · exact .inl ⟨first, rest, by rw [List.append_assoc]⟩
    · cases rest with
      | nil =>
          refine .inl ⟨first, [], ?_⟩
          simpa using same
      | cons other rest =>
          obtain ⟨rfl, -⟩ := List.cons.inj follows
          exact (free (same ▸ by simp)).elim
  · cases gap with
    | nil =>
        cases token with
        | nil => exact .inl (List.nil_infix)
        | cons other token =>
            obtain ⟨rfl, -⟩ := List.cons.inj follows
            exact (free List.mem_cons_self).elim
    | cons other gap =>
        obtain ⟨-, rest⟩ := List.cons.inj follows
        exact .inr ⟨gap, last, by rw [List.append_assoc]; exact rest.symm⟩

omit [DecidableEq α] in
/-- A token whose first unit it has only once is not found before its place. -/
private theorem not_prefix_append
    {first : α}
    {others piece rest : List α}
    (once : first ∉ others)
    (nonempty : piece ≠ [])
    (absent : ¬ first :: others <:+: piece) :
    ¬ first :: others <+: piece ++ (first :: others) ++ rest := by
  rintro ⟨last, whole⟩
  rw [List.append_assoc] at whole
  rcases List.append_eq_append_iff.mp whole with ⟨gap, same, -⟩ | ⟨gap, same, follows⟩
  · exact absent ⟨[], gap, by rw [List.nil_append, ← same]⟩
  · cases gap with
    | nil => exact absent ⟨[], [], by simpa using same⟩
    | cons unit gap =>
        obtain ⟨rfl, -⟩ := List.cons.inj follows
        cases piece with
        | nil => exact nonempty rfl
        | cons start piece =>
            obtain ⟨-, rfl⟩ := List.cons.inj same
            exact once (by simp)

/-- A piece without the token is the first one, if the token comes next. -/
theorem split_append
    {first : α}
    {others : List α}
    (once : first ∉ others)
    {piece : List α}
    (absent : ¬ first :: others <:+: piece)
    (rest : List α) :
    split (first :: others) (piece ++ (first :: others) ++ rest) =
      piece :: split (first :: others) rest := by
  induction piece with
  | nil =>
      have occurs : (first :: others).isPrefixOf (first :: (others ++ rest)) = true :=
        List.isPrefixOf_iff_prefix.mpr (List.prefix_append _ _)
      have skipped :
          ∀ units : List α,
            splitFrom (first :: others) units.length (units ++ rest) =
              split (first :: others) rest := by
        intro units
        induction units with
        | nil => rfl
        | cons unit units inductionHypothesis => exact inductionHypothesis
      show splitFrom (first :: others) 0 (first :: (others ++ rest)) = _
      rw [splitFrom, if_pos occurs]
      exact congrArg ([] :: ·) (skipped others)
  | cons unit piece inductionHypothesis =>
      have later : ¬ first :: others <:+: piece := by
        intro occurs
        exact absent (occurs.trans (List.suffix_cons unit piece).isInfix)
      have here : ¬ first :: others <+: unit :: piece ++ (first :: others) ++ rest :=
        not_prefix_append once (List.cons_ne_nil unit piece) absent
      have unread :
          ¬ (first :: others).isPrefixOf (unit :: (piece ++ (first :: others) ++ rest)) = true :=
        fun occurs => here (List.isPrefixOf_iff_prefix.mp occurs)
      have remaining := inductionHypothesis later
      unfold split at remaining ⊢
      rw [List.cons_append, List.cons_append, splitFrom, if_neg unread, remaining]
      rfl

/-- A text without the token is the only piece. -/
theorem split_eq_singleton
    {token text : List α}
    (absent : ¬ token <:+: text) :
    split token text = [text] := by
  induction text with
  | nil => rfl
  | cons unit text inductionHypothesis =>
      have here : ¬ token.isPrefixOf (unit :: text) = true := fun occurs =>
        absent (List.isPrefixOf_iff_prefix.mp occurs).isInfix
      have later : ¬ token <:+: text := fun occurs =>
        absent (occurs.trans (List.suffix_cons unit text).isInfix)
      have remaining := inductionHypothesis later
      unfold split at remaining ⊢
      rw [splitFrom, if_neg here, remaining]
      rfl

end Occurrences

section FirstOccurrence

/-- Units before which the token does not occur are passed over. -/
theorem replaceFirst_cons
    {token : List α}
    {unit : α}
    {rest : List α}
    (absent : ¬ token <+: unit :: rest)
    (replacement : List α) :
    replaceFirst token replacement (unit :: rest) =
      unit :: replaceFirst token replacement rest := by
  rw [replaceFirst, if_neg fun occurs => absent (List.isPrefixOf_iff_prefix.mp occurs)]

/-- The token at the beginning of a text is replaced. -/
theorem replaceFirst_append
    {token : List α}
    (nonempty : token ≠ [])
    (replacement rest : List α) :
    replaceFirst token replacement (token ++ rest) = replacement ++ rest := by
  cases token with
  | nil => exact (nonempty rfl).elim
  | cons unit token =>
      have occurs : (unit :: token).isPrefixOf (unit :: (token ++ rest)) = true :=
        List.isPrefixOf_iff_prefix.mpr (List.prefix_append _ _)
      rw [List.cons_append, replaceFirst, if_pos occurs]
      simp

end FirstOccurrence

section Runs

omit [DecidableEq α] in
/-- Only units that are kept, and marks, are left. -/
theorem keep_or_eq_of_mem_collapseRuns
    {keep : α → Bool}
    {mark unit : α}
    {inRun : Bool}
    {text : List α}
    (member : unit ∈ collapseRuns keep mark inRun text) :
    keep unit = true ∨ unit = mark := by
  induction text generalizing inRun with
  | nil => cases member
  | cons first rest inductionHypothesis =>
      simp only [collapseRuns] at member
      split at member
      · rename_i kept
        rcases List.mem_cons.mp member with rfl | later
        · exact .inl kept
        · exact inductionHypothesis later
      · split at member
        · exact inductionHypothesis member
        · rcases List.mem_cons.mp member with same | later
          · exact .inr same
          · exact inductionHypothesis later

end Runs

end SsnConsole.TextSubstitution
