import SsnConsole.BatchedWalk
import SsnConsole.CanisterIds

/-!
# Syncing the canisters of a subnet

Both monitoring canisters walk the ranges of a subnet's identifiers in batches of
calls.  `sync_canister_histories` gives up on a range when the last hundred calls of
a batch failed; `sync_canister_metrics` goes on in any case.
-/

namespace SsnConsole.CanisterUtils

open SsnConsole.Backend (ApiError ApiResult Principal)
open SsnConsole.BatchedWalk

/-- No more calls than this wait at the same time. -/
def MAX_CALLS_PER_BATCH : Nat := 490

/-- The batches of a range; `results` are those of the calls in the order they are made. -/
def walkRange (results : Nat → ApiResult Unit) (gaveUp : List (ApiResult Unit) → Bool) :
    Nat → Nat → CanisterIdRange → Option (List (List CanisterId))
  | 0, _, _ => none
  | fuel + 1, calls, range =>
      let batch := (range.collect MAX_CALLS_PER_BATCH).1
      let range := (range.collect MAX_CALLS_PER_BATCH).2
      if batch.isEmpty then
        some []
      else if gaveUp ((List.range' calls batch.length).map results) then
        some [batch]
      else
        (walkRange results gaveUp fuel (calls + batch.length) range).map (batch :: ·)

/-- The range between two principals, or the error of the first that is no identifier. -/
def convertRange (failedToConvert : String → ApiError) (range : Principal × Principal) :
    ApiResult CanisterIdRange :=
  match CanisterId.tryFrom range.1 with
  | .error err => .error (failedToConvert err)
  | .ok start =>
      match CanisterId.tryFrom range.2 with
      | .error err => .error (failedToConvert err)
      | .ok endId => .ok (.new (start, endId))

/-- The loop over ranges: the batches of those that were walked, and the result. -/
def syncRanges (failedToConvert : String → ApiError) (results : Nat → ApiResult Unit)
    (gaveUp : List (ApiResult Unit) → Bool) (fuel : Nat) :
    Nat → List (Principal × Principal) →
      Option (List (List (List CanisterId)) × ApiResult Unit)
  | _, [] => some ([], .ok ())
  | calls, range :: rest =>
      match convertRange failedToConvert range with
      | .error err => some ([], .error err)
      | .ok canisterIdRange =>
          (walkRange results gaveUp fuel calls canisterIdRange).bind fun batches =>
            (syncRanges failedToConvert results gaveUp fuel (calls + batches.flatten.length)
              rest).map fun others => (batches :: others.1, others.2)

/-- The range of canonical identifiers between two numbers. -/
def canonicalRange (bounds : Nat × Nat) : Principal × Principal :=
  ((CanisterId.canonical bounds.1).principal, (CanisterId.canonical bounds.2).principal)

/-- The canonical identifiers between two numbers. -/
def idsBetween (bounds : Nat × Nat) : List CanisterId :=
  (List.range' bounds.1 (bounds.2 + 1 - bounds.1)).map .canonical

/-- The walks over ranges, one after the other; every call has its number. -/
inductive WalkedRanges (limit : Nat) (fails : Nat → Bool) :
    Nat → List (Nat × Nat) → List (List (List CanisterId)) → Prop
  | nil (calls : Nat) : WalkedRanges limit fails calls [] []
  | cons
      {calls : Nat}
      {bounds : Nat × Nat}
      {batches : List (List CanisterId)}
      {rest : List (Nat × Nat)}
      {others : List (List (List CanisterId))}
      (walked : Walked MAX_CALLS_PER_BATCH limit fails calls (idsBetween bounds) batches)
      (later : WalkedRanges limit fails (calls + batches.flatten.length) rest others) :
      WalkedRanges limit fails calls (bounds :: rest) (batches :: others)

section Walks

variable {results : Nat → ApiResult Unit}
variable {gaveUp : List (ApiResult Unit) → Bool}
variable {limit : Nat}
variable {fails : Nat → Bool}

/-- A range is walked as the list of its identifiers. -/
theorem walkRange_eq
    (decides :
      ∀ calls count,
        gaveUp ((List.range' calls count).map results) =
          decide (limit ≤ streak ((List.range' calls count).map fails)))
    (fuel calls : Nat)
    (range : CanisterIdRange) :
    walkRange results gaveUp fuel calls range =
      walk MAX_CALLS_PER_BATCH limit fails fuel calls range.remaining := by
  induction fuel generalizing calls range with
  | zero => rfl
  | succ fuel hypothesis =>
      obtain ⟨taken, left⟩ := range.collect_eq MAX_CALLS_PER_BATCH
      rw [walkRange, walk]
      simp only [taken, hypothesis, left, decides, decide_eq_true_eq]

/-- A range of canonical identifiers is converted back. -/
theorem convertRange_canonicalRange
    (failedToConvert : String → ApiError)
    (bounds : Nat × Nat) :
    convertRange failedToConvert (canonicalRange bounds) =
      .ok (.new (CanisterId.canonical bounds.1, CanisterId.canonical bounds.2)) := by
  unfold convertRange canonicalRange
  dsimp only
  rw [CanisterId.tryFrom_eq_ok.mpr rfl, CanisterId.tryFrom_eq_ok.mpr rfl]

/-- Ranges of canonical identifiers are all walked, one after the other. -/
theorem exists_walkedRanges
    (failedToConvert : String → ApiError)
    (results : Nat → ApiResult Unit)
    (gaveUp : List (ApiResult Unit) → Bool)
    (limit : Nat)
    (fails : Nat → Bool)
    (decides :
      ∀ calls count,
        gaveUp ((List.range' calls count).map results) =
          decide (limit ≤ streak ((List.range' calls count).map fails)))
    {ranges : List (Nat × Nat)}
    (ordered : ∀ bounds ∈ ranges, bounds.1 ≤ bounds.2 ∧ bounds.2 ≤ MAX_VALUE)
    (calls : Nat) :
    ∃ walks,
      WalkedRanges limit fails calls ranges walks ∧
        ∀ fuel, 2 ^ 64 < fuel →
          syncRanges failedToConvert results gaveUp fuel calls (ranges.map canonicalRange) =
            some (walks, .ok ()) := by
  induction ranges generalizing calls with
  | nil => exact ⟨[], .nil calls, fun _ _ => rfl⟩
  | cons bounds rest hypothesis =>
      obtain ⟨inOrder, bounded⟩ := ordered bounds List.mem_cons_self
      obtain ⟨batches, walked, runs⟩ :=
        exists_walked (by decide : 0 < MAX_CALLS_PER_BATCH) fails calls (idsBetween bounds)
      obtain ⟨others, later, restRuns⟩ :=
        hypothesis (fun other member => ordered other (List.mem_cons_of_mem _ member))
          (calls + batches.flatten.length)
      refine ⟨batches :: others, .cons walked later, ?_⟩
      intro fuel enough
      have length : (idsBetween bounds).length < fuel := by
        unfold idsBetween
        unfold MAX_VALUE at bounded
        rw [List.length_map, List.length_range']
        omega
      rw [List.map_cons, syncRanges, convertRange_canonicalRange]
      dsimp only
      rw [walkRange_eq decides, CanisterIdRange.remaining_canonical inOrder bounded]
      change ((walk _ _ _ fuel calls (idsBetween bounds)).bind _) = _
      rw [runs fuel length, Option.bind_some, restRuns fuel enough]
      rfl

/-- As many ranges are walked as there are. -/
theorem WalkedRanges.length_eq
    {calls : Nat}
    {ranges : List (Nat × Nat)}
    {walks : List (List (List CanisterId))}
    (walked : WalkedRanges limit fails calls ranges walks) :
    walks.length = ranges.length := by
  induction walked with
  | nil => rfl
  | cons walked later hypothesis => exact congrArg Nat.succ hypothesis

/-- The calls of a range are counted behind those of the ranges before it. -/
theorem WalkedRanges.walked_getElem?
    {calls : Nat}
    {ranges : List (Nat × Nat)}
    {walks : List (List (List CanisterId))}
    (walked : WalkedRanges limit fails calls ranges walks)
    {index : Nat}
    {bounds : Nat × Nat}
    {batches : List (List CanisterId)}
    (range : ranges[index]? = some bounds)
    (walk : walks[index]? = some batches) :
    Walked MAX_CALLS_PER_BATCH limit fails
      (calls + (walks.take index).flatten.flatten.length) (idsBetween bounds) batches := by
  induction walked generalizing index with
  | nil => cases range
  | cons walked later hypothesis =>
      cases index with
      | zero =>
          cases range
          cases walk
          exact walked
      | succ index =>
          have below := hypothesis range walk
          rw [List.take_succ_cons, List.flatten_cons, List.flatten_append, List.length_append,
            ← Nat.add_assoc]
          exact below

/-- Where no call counts as failed, every range is walked to its end. -/
theorem WalkedRanges.flatten_eq
    {calls : Nat}
    {ranges : List (Nat × Nat)}
    {walks : List (List (List CanisterId))}
    (walked : WalkedRanges 1 (fun _ => false) calls ranges walks) :
    walks.flatten.flatten = ranges.flatMap idsBetween := by
  induction walked with
  | nil => rfl
  | @cons calls bounds batches rest others walked later hypothesis =>
      have whole : batches.flatten = idsBetween bounds := by
        rcases walked.front.length_le.lt_or_eq with short | same
        · obtain ⟨some, failures⟩ := walked.ended short
          exact absurd (failures (batches.flatten.length - 1) (le_refl _) (by omega))
            Bool.false_ne_true
        · exact walked.front.eq_of_length same
      rw [List.flatten_cons, List.flatten_append, hypothesis, whole, List.flatMap_cons]

/-- The numbers of the identifiers between two numbers. -/
theorem map_value_idsBetween
    {bounds : Nat × Nat}
    (bounded : bounds.2 ≤ MAX_VALUE) :
    (idsBetween bounds).map CanisterId.value =
      List.range' bounds.1 (bounds.2 + 1 - bounds.1) := by
  have numbers :
      ∀ number ∈ List.range' bounds.1 (bounds.2 + 1 - bounds.1),
        (CanisterId.canonical number).value = number := by
    intro number member
    obtain ⟨_, below⟩ := List.mem_range'_1.mp member
    exact CanisterId.value_canonical (by omega)
  have same := List.map_congr_left numbers
  rw [List.map_id'] at same
  rw [idsBetween, List.map_map]
  exact same

end Walks

end SsnConsole.CanisterUtils

namespace SsnConsole.CanisterHistory

open SsnConsole.Backend (ApiResult Principal)
open SsnConsole.BatchedWalk
open SsnConsole.CanisterUtils

/-- The loop that counts failures in a batch. -/
def numConsecutiveFailed (results : List (ApiResult Unit)) : Nat :=
  results.foldl
    (fun count result =>
      match result with
      | .error _ => count + 1
      | .ok () => 0)
    0

/-- `sync_canister_histories`; `results` are those of `process_canister_changes`. -/
def syncCanisterHistories (results : Nat → ApiResult Unit) (fuel : Nat)
    (canisterRanges : List (Principal × Principal)) :
    Option (List (List (List CanisterId)) × ApiResult Unit) :=
  syncRanges
    (fun err => .internalError s!"Failed to convert stored subnet canister id range: {err}")
    results (fun batch => decide (numConsecutiveFailed batch ≥ 100)) fuel 0 canisterRanges

/-- A call failed. -/
def failed : ApiResult Unit → Bool
  | .error _ => true
  | .ok () => false

/-- The loop counts a streak. -/
theorem numConsecutiveFailed_eq
    (results : List (ApiResult Unit)) :
    numConsecutiveFailed results = streak (results.map failed) := by
  unfold numConsecutiveFailed streak
  rw [List.foldl_map]
  congr 1
  funext count result
  cases result <;> rfl

/--
Every configured range of canonical identifiers is walked, whatever calls fail: the
processed identifiers are a prefix of the range's, each once and in ascending order,
in batches of at most `MAX_CALLS_PER_BATCH`; and an identifier is left out only
behind a hundred consecutive ones of its range that failed.
-/
theorem syncCanisterHistories_covers
    (results : Nat → ApiResult Unit)
    {ranges : List (Nat × Nat)}
    (ordered : ∀ bounds ∈ ranges, bounds.1 ≤ bounds.2 ∧ bounds.2 ≤ MAX_VALUE) :
    ∃ walks : List (List (List CanisterId)),
      (∀ fuel, 2 ^ 64 < fuel →
        syncCanisterHistories results fuel (ranges.map canonicalRange) =
          some (walks, .ok ())) ∧
        walks.length = ranges.length ∧
        ∀ index bounds batches,
          ranges[index]? = some bounds → walks[index]? = some batches →
            let earlierCalls := (walks.take index).flatten.flatten.length
            let processed := batches.flatten
            List.IsPrefix processed (idsBetween bounds) ∧
              (processed.map CanisterId.value).Pairwise (· < ·) ∧
              (∀ batch ∈ batches, batch ≠ [] ∧ batch.length ≤ MAX_CALLS_PER_BATCH) ∧
              ∀ position, processed.length ≤ position → position < (idsBetween bounds).length →
                ∃ first, first + 100 ≤ position ∧
                  ∀ call, first ≤ call → call < first + 100 →
                    call < processed.length ∧
                      failed (results (earlierCalls + call)) = true := by
  have decides (calls count : Nat) :
      decide (numConsecutiveFailed ((List.range' calls count).map results) ≥ 100) =
        decide
          (100 ≤ streak ((List.range' calls count).map fun call => failed (results call))) := by
    rw [numConsecutiveFailed_eq, List.map_map]
    rfl
  obtain ⟨walks, walked, runs⟩ :=
    exists_walkedRanges
      (fun err => .internalError s!"Failed to convert stored subnet canister id range: {err}")
      results (fun batch => decide (numConsecutiveFailed batch ≥ 100)) 100
      (fun call => failed (results call)) decides ordered 0
  refine ⟨walks, runs, walked.length_eq, ?_⟩
  intro index bounds batches range walk earlierCalls processed
  have spec := walked.walked_getElem? range walk
  rw [Nat.zero_add] at spec
  have bounded := (ordered bounds (List.mem_of_getElem? range)).2
  refine ⟨spec.front, ?_, spec.bounded, ?_⟩
  · have ascending : ((idsBetween bounds).map CanisterId.value).Pairwise (· < ·) := by
      rw [map_value_idsBetween bounded]
      exact List.pairwise_lt_range'
    exact ascending.sublist (spec.front.sublist.map _)
  · intro position unprocessed within
    obtain ⟨enough, failures⟩ := spec.ended (unprocessed.trans_lt within)
    change 100 ≤ processed.length at enough
    refine ⟨processed.length - 100, by omega, ?_⟩
    intro call above below
    have made : call < processed.length := by
      omega
    exact ⟨made, failures call above made⟩

/-- The first range is given up on, and the second is walked all the same. -/
theorem syncCanisterHistories_twoRanges :
    ∃ walks : List (List (List CanisterId)),
      walks.length = 2 ∧
        ∀ fuel, 2 ^ 64 < fuel →
          syncCanisterHistories
              (fun call => if call < 490 then .error (.internalError "timeout") else .ok ())
              fuel ([(0, 999), (2000, 2001)].map canonicalRange) =
            some (walks, .ok ()) := by
  obtain ⟨walks, runs, length, -⟩ :=
    syncCanisterHistories_covers
      (fun call => if call < 490 then .error (.internalError "timeout") else .ok ())
      (by decide :
        ∀ bounds ∈ [(0, 999), (2000, 2001)], bounds.1 ≤ bounds.2 ∧ bounds.2 ≤ MAX_VALUE)
  exact ⟨walks, length, runs⟩

end SsnConsole.CanisterHistory

namespace SsnConsole.CyclesMonitor

open SsnConsole.Backend (ApiResult Principal)
open SsnConsole.BatchedWalk
open SsnConsole.CanisterUtils

/-- `sync_canister_metrics`, from what `get_subnet_canister_ids` comes back with; `results` are
those of `process_canister_metrics`. -/
def syncCanisterMetrics (results : Nat → ApiResult Unit) (fuel : Nat)
    (canisterIdRanges : ApiResult (List (Principal × Principal))) :
    Option (List (List (List CanisterId)) × ApiResult Unit) :=
  match canisterIdRanges with
  | .error err => some ([], .error err)
  | .ok ranges => syncRanges .internalError results (fun _ => false) fuel 0 ranges

/-- All identifiers of ranges of canonical identifiers are processed, whatever calls fail. -/
theorem syncCanisterMetrics_processes
    (results : Nat → ApiResult Unit)
    {ranges : List (Nat × Nat)}
    (ordered : ∀ bounds ∈ ranges, bounds.1 ≤ bounds.2 ∧ bounds.2 ≤ MAX_VALUE) :
    ∃ walks : List (List (List CanisterId)),
      walks.flatten.flatten = ranges.flatMap idsBetween ∧
        ∀ fuel, 2 ^ 64 < fuel →
          syncCanisterMetrics results fuel (.ok (ranges.map canonicalRange)) =
            some (walks, .ok ()) := by
  have decides (calls count : Nat) :
      false = decide (1 ≤ streak ((List.range' calls count).map fun _ => false)) := by
    symm
    apply decide_eq_false
    intro failing
    obtain ⟨bounded, failures⟩ := streak_spec ((List.range' calls count).map fun _ => false)
    have last := failures (((List.range' calls count).map fun _ => false).length - 1)
      (by omega) (by omega)
    rw [List.getElem?_map] at last
    obtain ⟨_, -, absurdly⟩ := Option.map_eq_some_iff.mp last
    exact Bool.false_ne_true absurdly
  obtain ⟨walks, walked, runs⟩ :=
    exists_walkedRanges .internalError results (fun _ => false) 1 (fun _ => false) decides
      ordered 0
  exact ⟨walks, walked.flatten_eq, runs⟩

end SsnConsole.CyclesMonitor
