import Mathlib

/-!
# Runs of consecutive numbers

A scan over ascending numbers closes a run when the next number does not follow
the last one.  The runs are apart from each other, and writing them out gives the
numbers back.
-/

namespace SsnConsole.IntervalRuns

/-- The numbers from the first of a run to its last. -/
def members (run : Nat × Nat) : List Nat :=
  List.range' run.1 (run.2 + 1 - run.1)

/-- The runs that are closed, and the one that is still growing. -/
structure Scan where
  closed : List (Nat × Nat)
  growing : Option (Nat × Nat)

namespace Scan

/-- Nothing has been scanned yet. -/
def start : Scan :=
  ⟨[], none⟩

/-- The next number extends the growing run, or begins a new one. -/
def add (scan : Scan) (value : Nat) : Scan :=
  match scan.growing with
  | none => { scan with growing := some (value, value) }
  | some (first, last) =>
      if value = last + 1 then
        { scan with growing := some (first, value) }
      else
        ⟨scan.closed ++ [(first, last)], some (value, value)⟩

/-- All runs, once nothing more comes. -/
def runs (scan : Scan) : List (Nat × Nat) :=
  scan.closed ++ scan.growing.toList

end Scan

/-- Nonempty runs in order, with a gap between any two. -/
structure Separated (runs : List (Nat × Nat)) : Prop where
  nonempty : ∀ run ∈ runs, run.1 ≤ run.2
  apart : runs.Pairwise fun early late => early.2 + 1 < late.1

/-- A single number is a run. -/
theorem members_single
    (value : Nat) :
    members (value, value) = [value] := by
  unfold members
  rw [Nat.add_sub_cancel_left]
  rfl

/-- A run grows by the number that follows its last one. -/
theorem members_succ
    {first last : Nat}
    (ordered : first ≤ last) :
    members (first, last + 1) = members (first, last) ++ [last + 1] := by
  have length : last + 1 + 1 - first = last + 1 - first + 1 := by
    omega
  have position : first + 1 * (last + 1 - first) = last + 1 := by
    omega
  unfold members
  dsimp only
  rw [length, List.range'_concat, position]

/-- A nonempty run behind all others, with a gap before it, keeps the runs separated. -/
theorem Separated.append
    {runs : List (Nat × Nat)}
    (separated : Separated runs)
    {run : Nat × Nat}
    (nonempty : run.1 ≤ run.2)
    (apart : ∀ other ∈ runs, other.2 + 1 < run.1) :
    Separated (runs ++ [run]) where
  nonempty := by
    intro other member
    rcases List.mem_append.mp member with earlier | last
    · exact separated.nonempty other earlier
    · rw [List.mem_singleton.mp last]
      exact nonempty
  apart := by
    refine List.pairwise_append.mpr ⟨separated.apart, List.pairwise_singleton _ _, ?_⟩
    intro other earlier late last
    rw [List.mem_singleton.mp last]
    exact apart other earlier

/-- The last number of a run belongs to it. -/
theorem last_mem_members
    {run : Nat × Nat}
    (nonempty : run.1 ≤ run.2) :
    run.2 ∈ members run := by
  unfold members
  rw [List.mem_range'_1]
  omega

/-- The runs so far are separated and write out what was scanned. -/
structure Scanned (scan : Scan) (values : List Nat) : Prop where
  separated : Separated scan.runs
  written : scan.runs.flatMap members = values
  /-- Runs are closed only when another one begins. -/
  begun : scan.growing = none → scan.closed = []

/-- Nothing is written out at first. -/
theorem scanned_start : Scanned .start [] where
  separated := ⟨fun _ member => absurd member List.not_mem_nil, List.Pairwise.nil⟩
  written := rfl
  begun _ := rfl

/-- The first number begins a run. -/
private theorem Scanned.add_first
    {closed : List (Nat × Nat)}
    {values : List Nat}
    (scanned : Scanned ⟨closed, none⟩ values)
    (value : Nat) :
    Scanned (Scan.add ⟨closed, none⟩ value) (values ++ [value]) := by
  obtain rfl : closed = [] := scanned.begun rfl
  obtain rfl : [] = values := scanned.written
  refine ⟨⟨?_, List.pairwise_singleton _ _⟩, ?_, fun absent => by cases absent⟩
  · intro run member
    rw [List.mem_singleton.mp member]
  · change [(value, value)].flatMap members = [value]
    rw [List.flatMap_singleton, members_single]

/-- The number that follows the last one extends the growing run. -/
private theorem Scanned.add_next
    {closed : List (Nat × Nat)}
    {first last : Nat}
    {values : List Nat}
    (scanned : Scanned ⟨closed, some (first, last)⟩ values)
    (ordered : first ≤ last) :
    Scanned ⟨closed, some (first, last + 1)⟩ (values ++ [last + 1]) := by
  obtain ⟨closedApart, -, apart⟩ := List.pairwise_append.mp scanned.separated.apart
  have closedSeparated : Separated closed :=
    ⟨fun run member => scanned.separated.nonempty run (List.mem_append_left _ member),
      closedApart⟩
  have gap (run : Nat × Nat) (member : run ∈ closed) : run.2 + 1 < first :=
    apart run member _ (List.mem_singleton_self _)
  refine
    ⟨closedSeparated.append (Nat.le_succ_of_le ordered) gap, ?_, fun absent => by cases absent⟩
  rw [← scanned.written]
  change (closed ++ [(first, last + 1)]).flatMap members =
    (closed ++ [(first, last)]).flatMap members ++ [last + 1]
  rw [List.flatMap_append, List.flatMap_append, List.flatMap_singleton,
    List.flatMap_singleton, members_succ ordered, List.append_assoc]

/-- A number behind a gap closes the growing run and begins another one. -/
private theorem Scanned.add_apart
    {closed : List (Nat × Nat)}
    {first last value : Nat}
    {values : List Nat}
    (scanned : Scanned ⟨closed, some (first, last)⟩ values)
    (ordered : first ≤ last)
    (gap : last + 1 < value) :
    Scanned ⟨closed ++ [(first, last)], some (value, value)⟩ (values ++ [value]) := by
  refine ⟨scanned.separated.append (le_refl value) ?_, ?_, fun absent => by cases absent⟩
  · intro run member
    rcases List.mem_append.mp member with earlier | growing
    · have early : run.2 + 1 < first :=
        (List.pairwise_append.mp scanned.separated.apart).2.2 run earlier _
          (List.mem_singleton_self _)
      omega
    · rw [List.mem_singleton.mp growing]
      exact gap
  · rw [← scanned.written]
    change ((closed ++ [(first, last)]) ++ [(value, value)]).flatMap members = _
    rw [List.flatMap_append, List.flatMap_singleton, members_single]
    rfl

/-- The next number is written out behind those before it. -/
theorem Scanned.add
    {scan : Scan}
    {values : List Nat}
    (scanned : Scanned scan values)
    {value : Nat}
    (greater : ∀ earlier ∈ values, earlier < value) :
    Scanned (scan.add value) (values ++ [value]) := by
  rcases scan with ⟨closed, growing⟩
  cases growing with
  | none => exact scanned.add_first value
  | some run =>
      rcases run with ⟨first, last⟩
      have growing : (first, last) ∈ closed ++ [(first, last)] :=
        List.mem_append_right _ (List.mem_singleton_self _)
      have ordered : first ≤ last := scanned.separated.nonempty _ growing
      have scannedLast : last ∈ values := by
        rw [← scanned.written]
        exact List.mem_flatMap.mpr ⟨_, growing, last_mem_members ordered⟩
      have before : last < value := greater last scannedLast
      unfold Scan.add
      dsimp only
      split_ifs with next
      · subst next
        exact scanned.add_next ordered
      · exact scanned.add_apart ordered (by omega)

/-- A scan over more ascending numbers writes these out as well. -/
theorem Scanned.foldl
    {scan : Scan}
    {values more : List Nat}
    (scanned : Scanned scan values)
    (ascending : (values ++ more).Pairwise (· < ·)) :
    Scanned (more.foldl Scan.add scan) (values ++ more) := by
  induction more generalizing scan values with
  | nil =>
      rw [List.append_nil]
      exact scanned
  | cons value rest hypothesis =>
      have greater : ∀ earlier ∈ values, earlier < value := by
        intro earlier member
        exact (List.pairwise_append.mp ascending).2.2 earlier member value List.mem_cons_self
      have assembled : values ++ value :: rest = values ++ [value] ++ rest := by
        rw [List.append_assoc]
        rfl
      rw [assembled] at ascending ⊢
      exact hypothesis (scanned.add greater) ascending

/-- The runs of ascending numbers are separated and write out the numbers. -/
theorem scanned_foldl
    {values : List Nat}
    (ascending : values.Pairwise (· < ·)) :
    Scanned (values.foldl Scan.add .start) values :=
  scanned_start.foldl ascending

end SsnConsole.IntervalRuns
