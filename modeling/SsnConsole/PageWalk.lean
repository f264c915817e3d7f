import SsnConsole.CursorPaging

/-!
# Walks through pages

A client follows the cursor of each page until a page brings none.  Pages that
are cut from rows in key order, each behind the last key of the one before,
hold all the rows between them.
-/

namespace SsnConsole.PageWalk

open Std
open SsnConsole.CursorPaging
open SsnConsole.StableIndex

/-- Some rows, and where to continue if there may be more. -/
structure Page (ρ τ : Type) where
  rows : List ρ
  next : Option τ

section Walks

variable {ρ τ : Type}

/-- The pages given to a client that starts at a cursor and follows it to the end. -/
inductive Walk (fetch : Option τ → Option (Page ρ τ)) : Option τ → List (List ρ) → Prop
  | last
      {cursor : Option τ}
      {rows : List ρ}
      (answered : fetch cursor = some ⟨rows, none⟩) :
      Walk fetch cursor [rows]
  | more
      {cursor : Option τ}
      {reached : τ}
      {rows : List ρ}
      {pages : List (List ρ)}
      (answered : fetch cursor = some ⟨rows, some reached⟩)
      (rest : Walk fetch (some reached) pages) :
      Walk fetch cursor (rows :: pages)

/-- A client is given the same pages each time. -/
theorem Walk.unique
    {fetch : Option τ → Option (Page ρ τ)}
    {cursor : Option τ}
    {first second : List (List ρ)}
    (walk : Walk fetch cursor first)
    (other : Walk fetch cursor second) :
    first = second := by
  induction walk generalizing second with
  | last answered =>
      cases other with
      | last again =>
          cases answered.symm.trans again
          rfl
      | more again _ => cases answered.symm.trans again
  | more answered _ inductionHypothesis =>
      cases other with
      | last again => cases answered.symm.trans again
      | more again rest =>
          cases answered.symm.trans again
          rw [inductionHypothesis rest]

end Walks

section Cuts

variable {κ ρ : Type} [Ord κ] [TransOrd κ]
variable {key : ρ → κ} {rows : List ρ} {limit : Nat}

/-- The rows beyond a cursor. -/
def remaining (key : ρ → κ) (rows : List ρ) (cursor : Option κ) : List ρ :=
  rows.filter fun row => decide (Beyond cursor (key row))

/-- The page at a cursor: a full page is continued behind its last key. -/
def cut (key : ρ → κ) (rows : List ρ) (limit : Nat) (cursor : Option κ) : Page ρ κ :=
  let page := (remaining key rows cursor).take limit
  ⟨page, if page.length = limit then page.getLast?.map key else none⟩

/-- The rows are in the order of their keys. -/
def Ordered (key : ρ → κ) (rows : List ρ) : Prop :=
  rows.Pairwise fun early late => compare (key early) (key late) = .lt

omit [TransOrd κ] in
/-- Everything remains at first. -/
theorem remaining_none : remaining key rows none = rows := by
  apply List.filter_eq_self.mpr
  intro row _
  apply decide_eq_true
  intro reached absent
  cases absent

/-- Behind one of several ordered rows remain the ones that follow it. -/
private theorem remaining_of_split
    {before after : List ρ}
    {last : ρ}
    (ordered : Ordered key (before ++ last :: after)) :
    remaining key (before ++ last :: after) (some (key last)) = after := by
  obtain ⟨_, suffix, crossing⟩ := List.pairwise_append.mp ordered
  have done : ∀ row ∈ before, ¬Beyond (some (key last)) (key row) := by
    intro row member beyond
    have earlier := crossing row member last List.mem_cons_self
    have later := beyond (key last) rfl
    exact OrientedCmp.not_lt_of_lt earlier later
  have reached : ¬Beyond (some (key last)) (key last) := by
    intro beyond
    have same : compare (key last) (key last) = .eq := ReflOrd.compare_self
    cases (beyond (key last) rfl).symm.trans same
  have ahead : ∀ row ∈ after, Beyond (some (key last)) (key row) := by
    rintro row member reached ⟨⟩
    exact (List.pairwise_cons.mp suffix).1 row member
  rw [remaining, List.filter_append, List.filter_cons_of_neg (by simpa using reached)]
  rw [List.filter_eq_nil_iff.mpr (by simpa using done), List.nil_append]
  exact List.filter_eq_self.mpr (by simpa using ahead)

/-- Behind the last row of a page remains what the page left. -/
theorem remaining_of_page
    {cursor : Option κ}
    {before after : List ρ}
    {last : ρ}
    (ordered : Ordered key rows)
    (split : remaining key rows cursor = before ++ last :: after) :
    remaining key rows (some (key last)) = after := by
  have within : Beyond cursor (key last) := by
    have member : last ∈ remaining key rows cursor := by
      rw [split]
      simp
    exact of_decide_eq_true (List.mem_filter.mp member).2
  have further :
      remaining key rows (some (key last)) =
        remaining key (remaining key rows cursor) (some (key last)) := by
    rw [remaining, remaining, remaining, List.filter_filter]
    apply List.filter_congr
    intro row _
    by_cases beyond : Beyond (some (key last)) (key row)
    · simp [beyond, beyond_trans within beyond]
    · simp [beyond]
  have orderedRest : Ordered key (before ++ last :: after) := by
    rw [← split]
    exact List.Pairwise.filter _ ordered
  rw [further, split]
  exact remaining_of_split orderedRest

omit [TransOrd κ] in
/-- A page that is not full is the last one and holds what remains. -/
private theorem cut_of_short
    {cursor : Option κ}
    (short : (remaining key rows cursor).length < limit) :
    cut key rows limit cursor = ⟨remaining key rows cursor, none⟩ := by
  rw [cut, List.take_of_length_le short.le, if_neg short.ne]

omit [TransOrd κ] in
/-- A full page is continued behind its last row. -/
private theorem cut_of_full
    {cursor : Option κ}
    (positive : 0 < limit)
    (full : limit ≤ (remaining key rows cursor).length) :
    ∃ before last,
      remaining key rows cursor =
          before ++ last :: (remaining key rows cursor).drop limit ∧
        cut key rows limit cursor = ⟨before ++ [last], some (key last)⟩ := by
  have length : ((remaining key rows cursor).take limit).length = limit := by
    rw [List.length_take, Nat.min_eq_left full]
  rcases List.eq_nil_or_concat ((remaining key rows cursor).take limit) with
    empty | ⟨before, last, page⟩
  · rw [empty, List.length_nil] at length
    exact (positive.ne length).elim
  · rw [List.concat_eq_append] at page
    refine ⟨before, last, ?_, ?_⟩
    · calc
        remaining key rows cursor =
            (remaining key rows cursor).take limit ++
              (remaining key rows cursor).drop limit :=
          (List.take_append_drop limit _).symm
        _ = before ++ last :: (remaining key rows cursor).drop limit := by
          rw [page, List.append_assoc, List.singleton_append]
    · rw [cut, if_pos length, page, List.getLast?_concat, Option.map_some]

/-- A page in another form. -/
def Page.map {σ τ : Type} (page : Page ρ κ) (present : ρ → σ) (encode : κ → τ) : Page σ τ :=
  ⟨page.rows.map present, page.next.map encode⟩

/-- Whoever answers the cursors that it hands out with the next cut gives all that remains. -/
theorem exists_walk
    {σ τ : Type}
    {present : ρ → σ}
    {encode : κ → τ}
    {fetch : Option τ → Option (Page σ τ)}
    (ordered : Ordered key rows)
    (positive : 0 < limit)
    (answers :
      ∀ cursor, (∀ reached, cursor = some reached → reached ∈ rows.map key) →
        fetch (cursor.map encode) = some ((cut key rows limit cursor).map present encode))
    (cursor : Option κ)
    (handedOut : ∀ reached, cursor = some reached → reached ∈ rows.map key) :
    ∃ pages,
      Walk fetch (cursor.map encode) pages ∧
        pages.flatten = (remaining key rows cursor).map present := by
  induction size : (remaining key rows cursor).length using Nat.strong_induction_on
    generalizing cursor with
  | _ bound inductionHypothesis =>
      have answered := answers cursor handedOut
      rcases Nat.lt_or_ge (remaining key rows cursor).length limit with short | full
      · rw [cut_of_short short] at answered
        refine ⟨[(remaining key rows cursor).map present], .last answered, ?_⟩
        rw [List.flatten_singleton]
      · obtain ⟨before, last, split, page⟩ := cut_of_full positive full
        rw [page] at answered
        have rest := remaining_of_page ordered split
        have own : key last ∈ rows.map key := by
          have member : last ∈ remaining key rows cursor := by
            rw [split]
            simp
          exact List.mem_map_of_mem (List.mem_filter.mp member).1
        have next : ∀ reached, some (key last) = some reached → reached ∈ rows.map key := by
          rintro reached ⟨⟩
          exact own
        have fewer : (remaining key rows (some (key last))).length < bound := by
          rw [rest, List.length_drop]
          omega
        obtain ⟨pages, walk, flatten⟩ :=
          inductionHypothesis _ fewer (some (key last)) next rfl
        refine ⟨(before ++ [last]).map present :: pages, .more answered walk, ?_⟩
        rw [List.flatten_cons, flatten, rest, ← List.map_append, List.append_assoc,
          List.singleton_append, ← split]

end Cuts

section Ranges

variable {α β : Type} [Ord α] [Ord β]
variable [TransOrd α] [TransOrd β] [LawfulEqOrd α] [LawfulEqOrd β] [DecidableEq α]

omit [LawfulEqOrd β] in
/-- A range lists its rows in the order of their second columns. -/
theorem prefixRows_ordered
    (rows : ExtTreeSet (α × β))
    (key : α) :
    (prefixRows rows key).Pairwise fun early late => compare early late = .lt := by
  have ordered :
      (rows.toList.filter fun row => decide (row.1 = key)).Pairwise fun early late =>
        compare early late = .lt :=
    List.Pairwise.filter _ ExtTreeSet.ordered_toList
  rw [prefixRows, List.pairwise_map]
  apply ordered.imp_of_mem
  intro early late earlyMember lateMember less
  have earlyKey : early.1 = key := of_decide_eq_true (List.mem_filter.mp earlyMember).2
  have lateKey : late.1 = key := of_decide_eq_true (List.mem_filter.mp lateMember).2
  have lexicographic :
      compare early late = (compare early.1 late.1).then (compare early.2 late.2) :=
    rfl
  rw [lexicographic, earlyKey, lateKey, ReflOrd.compare_self] at less
  exact less

end Ranges

end SsnConsole.PageWalk
