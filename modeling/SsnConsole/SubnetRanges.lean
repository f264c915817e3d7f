import SsnConsole.CanisterHistory
import SsnConsole.IntervalRuns
import SsnConsole.SubnetSync
import SsnConsole.TextualHost

/-!
# The ranges of a subnet

`update_subnet_canister_ranges` accepts any pairs of identifiers, and
`list_subnet_canister_id_ranges` compresses the known ones into ranges.  Walking the
compressed ranges gives back the identifiers that they were made from; an accepted
range may go on to the last number when it cannot meet its end.
-/

namespace SsnConsole.CanisterHistory

open Std
open SsnConsole.Backend (ApiError ApiResult Call Principal assertController)
open SsnConsole.Cbor (bigEndian)
open SsnConsole.CanisterUtils
open SsnConsole.IntervalRuns

section Configuration

/-- `SubnetCanisterRangeInfo`. -/
structure SubnetCanisterRangeInfo where
  canisterRanges : List (Principal × Principal)
  deriving DecidableEq

/-- The loop of `update_subnet_canister_ranges` over the numbered ranges of a request. -/
def checkRanges : List ((Principal × Principal) × Nat) → ApiResult Unit
  | [] => .ok ()
  | (range, i) :: rest =>
      match CanisterId.tryFrom range.1 with
      | .error err =>
          .error (.clientError
            s!"The start principal of the {i}th provided subnet range is invalid: {err}")
      | .ok _ =>
          match CanisterId.tryFrom range.2 with
          | .error err =>
              .error (.clientError
                s!"The end principal of the {i}th provided subnet range is invalid: {err}")
          | .ok _ => checkRanges rest

/-- `update_subnet_canister_ranges`: its result and what is stored. -/
def updateSubnetCanisterRanges (call : Call) (canisterRanges : List (Principal × Principal))
    (info : SubnetCanisterRangeInfo) : ApiResult Unit × SubnetCanisterRangeInfo :=
  match (do assertController call; checkRanges canisterRanges.zipIdx : ApiResult Unit) with
  | .error err => (.error err, info)
  | .ok () => (.ok (), ⟨canisterRanges⟩)

/-- The ends of checked ranges are identifiers. -/
theorem checkRanges_eq_ok
    {ranges : List (Principal × Principal)}
    {start : Nat}
    (accepted : checkRanges (ranges.zipIdx start) = .ok ())
    {range : Principal × Principal}
    (member : range ∈ ranges) :
    ∃ first last,
      CanisterId.tryFrom range.1 = .ok first ∧ CanisterId.tryFrom range.2 = .ok last := by
  induction ranges generalizing start with
  | nil => exact absurd member List.not_mem_nil
  | cons head rest hypothesis =>
      rw [List.zipIdx_cons, checkRanges] at accepted
      cases firstFound : CanisterId.tryFrom head.1 with
      | error err =>
          rw [firstFound] at accepted
          cases accepted
      | ok first =>
          cases lastFound : CanisterId.tryFrom head.2 with
          | error err =>
              rw [firstFound, lastFound] at accepted
              cases accepted
          | ok last =>
              rw [firstFound, lastFound] at accepted
              rcases List.mem_cons.mp member with rfl | later
              · exact ⟨first, last, firstFound, lastFound⟩
              · exact hypothesis accepted later

/-- An accepted request is stored, and its ranges were checked. -/
theorem updateSubnetCanisterRanges_eq_ok
    {call : Call}
    {ranges : List (Principal × Principal)}
    {info after : SubnetCanisterRangeInfo}
    (accepted : updateSubnetCanisterRanges call ranges info = (.ok (), after)) :
    after.canisterRanges = ranges ∧ checkRanges ranges.zipIdx = .ok () := by
  unfold updateSubnetCanisterRanges at accepted
  cases controller : assertController call with
  | error err =>
      rw [controller] at accepted
      cases accepted
  | ok _ =>
      cases checked : checkRanges ranges.zipIdx with
      | error err =>
          rw [controller] at accepted
          simp only [bind, Except.bind, checked] at accepted
          cases accepted
      | ok _ =>
          rw [controller] at accepted
          simp only [bind, Except.bind, checked] at accepted
          cases accepted
          exact ⟨rfl, rfl⟩

/--
An accepted range always comes to an end, and what it yields has exactly the
numbers between its ends if it ends with the last number there is, is one
identifier, or ends with a greater number and the usual reserved byte.
-/
theorem acceptedRange_yields_iff
    {call : Call}
    {ranges : List (Principal × Principal)}
    {info after : SubnetCanisterRangeInfo}
    (accepted : updateSubnetCanisterRanges call ranges info = (.ok (), after)) :
    after.canisterRanges = ranges ∧
      ∀ range ∈ ranges,
        ∃ start endId ids,
          CanisterId.tryFrom range.1 = .ok start ∧ CanisterId.tryFrom range.2 = .ok endId ∧
            (∀ yielded, (CanisterIdRange.new (start, endId)).Yields yielded ↔ yielded = ids) ∧
            (ids.map CanisterId.value =
                List.range' start.value (endId.value + 1 - start.value) ↔
              endId.value = MAX_VALUE ∨ start = endId ∨
                start.value < endId.value ∧ endId.IsCanonical) := by
  obtain ⟨stored, checked⟩ := updateSubnetCanisterRanges_eq_ok accepted
  refine ⟨stored, ?_⟩
  intro range member
  obtain ⟨start, endId, startFound, endFound⟩ := checkRanges_eq_ok checked member
  refine
    ⟨start, endId, _, startFound, endFound, fun _ => CanisterIdRange.yields_iff, ?_⟩
  rw [CanisterIdRange.map_value_remaining, ← CanisterIdRange.following_eq_iff]
  constructor
  · intro same
    have lengths := congrArg List.length same
    rw [List.length_range', List.length_range'] at lengths
    exact lengths
  · intro counted
    rw [counted]

/-- The stored range of two canonical identifiers can be requested by a controller. -/
def requestedRange (bounds : Nat × Nat) : ApiResult Unit × SubnetCanisterRangeInfo :=
  updateSubnetCanisterRanges (Backend.TextualHost.callBy Backend.TextualHost.operator)
    [canonicalRange bounds] ⟨[]⟩

/-- A range in order yields its numbers. -/
theorem acceptedRange_inOrder :
    ∃ start endId ids,
      CanisterId.tryFrom (canonicalRange (1, 3)).1 = .ok start ∧
        CanisterId.tryFrom (canonicalRange (1, 3)).2 = .ok endId ∧
        (CanisterIdRange.new (start, endId)).Yields ids ∧
        (ids.map CanisterId.value =
            List.range' start.value (endId.value + 1 - start.value) ↔
          endId.value = MAX_VALUE ∨ start = endId ∨
            start.value < endId.value ∧ endId.IsCanonical) := by
  have accepted : requestedRange (1, 3) = (.ok (), ⟨[canonicalRange (1, 3)]⟩) := by
    decide +kernel
  obtain ⟨-, yields⟩ := acceptedRange_yields_iff accepted
  obtain ⟨start, endId, ids, startFound, endFound, unique, exactly⟩ :=
    yields _ (List.mem_singleton_self _)
  exact ⟨start, endId, ids, startFound, endFound, (unique ids).mpr rfl, exactly⟩

/-- A range from five to three is accepted and yields all numbers from five on. -/
theorem acceptedRange_reversed :
    requestedRange (5, 3) = (.ok (), ⟨[canonicalRange (5, 3)]⟩) ∧
      ∃ ids,
        (CanisterIdRange.new (CanisterId.canonical 5, CanisterId.canonical 3)).Yields ids ∧
          ids.map CanisterId.value = List.range' 5 (2 ^ 64 - 5) ∧
          ids.map CanisterId.value ≠ List.range' 5 (3 + 1 - 5) := by
  have follow :
      (CanisterIdRange.new (CanisterId.canonical 5, CanisterId.canonical 3)).following =
        2 ^ 64 - 6 := by
    decide +kernel
  have length : 2 ^ 64 - 6 + 1 = 2 ^ 64 - 5 := by
    norm_num
  have numbers :
      (CanisterIdRange.new (CanisterId.canonical 5, CanisterId.canonical 3)).remaining.map
          CanisterId.value =
        List.range' 5 (2 ^ 64 - 5) := by
    rw [CanisterIdRange.map_value_remaining, follow, length,
      CanisterId.value_canonical (by decide : 5 ≤ MAX_VALUE)]
  refine ⟨by decide +kernel, _, CanisterIdRange.yields_iff.mpr rfl, numbers, ?_⟩
  intro none
  have lengths := congrArg List.length (numbers.symm.trans none)
  rw [List.length_range', List.length_range'] at lengths
  omega

end Configuration

section Compression

/-- The state of the loop of `list_subnet_canister_id_ranges`. -/
structure RangeScan where
  ranges : List (Principal × Principal)
  currentRangeStart : Option CanisterId
  currentRangeEnd : Option CanisterId

/-- The loop's body; nothing comes back from a branch that is `unreachable!`. -/
def scanCanister (scan : RangeScan) (entry : Principal × CanisterChangeInfo) :
    Option RangeScan :=
  if entry.2.isDeleted then
    some scan
  else
    match CanisterId.tryFrom entry.1 with
    | .error _ => some scan
    | .ok canisterId =>
        match scan.currentRangeStart, scan.currentRangeEnd with
        | none, none =>
            some { scan with
              currentRangeStart := some canisterId
              currentRangeEnd := some canisterId }
        | some start, some endId =>
            if canisterId.toU64 = endId.toU64 + 1 then
              some { scan with currentRangeEnd := some canisterId }
            else
              some
                { ranges := scan.ranges ++ [(start.principal, endId.principal)]
                  currentRangeStart := some canisterId
                  currentRangeEnd := some canisterId }
        | _, _ => none

/-- The ranges once the loop has ended. -/
def RangeScan.finish (scan : RangeScan) : List (Principal × Principal) :=
  match scan.currentRangeStart, scan.currentRangeEnd with
  | some start, some endId => scan.ranges ++ [(start.principal, endId.principal)]
  | _, _ => scan.ranges

/-- `list_subnet_canister_id_ranges`. -/
def State.listSubnetCanisterIdRanges (s : State) : Option (List (Principal × Principal)) :=
  (s.canisterInfos.toList.foldlM scanCanister ⟨[], none, none⟩).map RangeScan.finish

/-- The number of a canister that is not deleted. -/
def liveNumber (entry : Principal × CanisterChangeInfo) : Option Nat :=
  if entry.2.isDeleted then
    none
  else
    (CanisterId.tryFrom entry.1).toOption.map CanisterId.value

/-- All known canisters have canonical identifiers. -/
def State.CanonicalIds (s : State) : Prop :=
  ∀ principal ∈ s.canisterInfos,
    ∃ value ≤ MAX_VALUE, principal = (CanisterId.canonical value).principal

/-- The loop's state in which these runs have been scanned. -/
def RangeScan.ofRuns (scan : Scan) : RangeScan where
  ranges := scan.closed.map canonicalRange
  currentRangeStart := scan.growing.map fun run => .canonical run.1
  currentRangeEnd := scan.growing.map fun run => .canonical run.2

/-- The ranges of the runs that have been scanned. -/
theorem RangeScan.finish_ofRuns
    (scan : Scan) :
    (RangeScan.ofRuns scan).finish = scan.runs.map canonicalRange := by
  rcases scan with ⟨closed, growing⟩
  cases growing with
  | none => exact (congrArg (List.map canonicalRange) (List.append_nil closed)).symm
  | some run =>
      change closed.map canonicalRange ++ [canonicalRange run] =
        (closed ++ [run]).map canonicalRange
      rw [List.map_append]
      rfl

/-- A deleted canister is skipped. -/
theorem scanCanister_deleted
    {entry : Principal × CanisterChangeInfo}
    (deleted : entry.2.isDeleted = true)
    (scan : RangeScan) :
    scanCanister scan entry = some scan := by
  rw [scanCanister, if_pos deleted]

/-- A canister that is not deleted is added to the runs; its number is greater than those
before it, so that counting up does not wrap. -/
theorem scanCanister_live
    {scan : Scan}
    {value : Nat}
    (fits : value ≤ MAX_VALUE)
    (behind : ∀ run ∈ scan.growing, run.2 < value)
    {info : CanisterChangeInfo}
    (live : info.isDeleted = false) :
    scanCanister (.ofRuns scan) ((CanisterId.canonical value).principal, info) =
      some (.ofRuns (scan.add value)) := by
  rcases scan with ⟨closed, growing⟩
  have accepted :
      CanisterId.tryFrom (CanisterId.canonical value).principal =
        .ok (CanisterId.canonical value) :=
    CanisterId.tryFrom_eq_ok.mpr rfl
  cases growing with
  | none =>
      simp only [scanCanister, live, accepted]
      rfl
  | some run =>
      rcases run with ⟨first, last⟩
      have before : last < value := behind _ rfl
      have next :
          (CanisterId.canonical value).toU64 = (CanisterId.canonical last).toU64 + 1 ↔
            value = last + 1 :=
        CanisterId.toU64_canonical_eq_succ_iff before fits
      have scanned :
          scanCanister (.ofRuns ⟨closed, some (first, last)⟩)
              ((CanisterId.canonical value).principal, info) =
            if (CanisterId.canonical value).toU64 = (CanisterId.canonical last).toU64 + 1 then
              some
                { RangeScan.ofRuns ⟨closed, some (first, last)⟩ with
                  currentRangeEnd := some (.canonical value) }
            else
              some
                ⟨closed.map canonicalRange ++ [canonicalRange (first, last)],
                  some (.canonical value), some (.canonical value)⟩ := by
        simp only [scanCanister, live, accepted]
        rfl
      rw [scanned]
      unfold Scan.add
      dsimp only
      by_cases follows : value = last + 1
      · rw [if_pos (next.mpr follows), if_pos follows]
        rfl
      · rw [if_neg (mt next.mp follows), if_neg follows]
        unfold RangeScan.ofRuns
        rw [List.map_append]
        rfl

/-- The number of a canister with a canonical identifier. -/
theorem liveNumber_canonical
    {value : Nat}
    (fits : value ≤ MAX_VALUE)
    (info : CanisterChangeInfo) :
    liveNumber ((CanisterId.canonical value).principal, info) =
      if info.isDeleted then none else some value := by
  have accepted :
      CanisterId.tryFrom (CanisterId.canonical value).principal =
        .ok (CanisterId.canonical value) :=
    CanisterId.tryFrom_eq_ok.mpr rfl
  have number :
      (CanisterId.tryFrom (CanisterId.canonical value).principal).toOption.map
          CanisterId.value =
        some value := by
    rw [accepted]
    exact congrArg some (CanisterId.value_canonical fits)
  unfold liveNumber
  rw [number]

/-- After a number has been added, it is the last one of the growing run. -/
theorem growing_add
    (scan : Scan)
    (value : Nat)
    {run : Nat × Nat}
    (growing : run ∈ (scan.add value).growing) :
    run.2 = value := by
  unfold Scan.add at growing
  cases before : scan.growing with
  | none =>
      rw [before] at growing
      cases growing
      rfl
  | some previous =>
      rw [before] at growing
      dsimp only at growing
      split_ifs at growing with follows
      · cases growing
        rfl
      · cases growing
        rfl

/-- The loop scans the numbers of the canisters that are not deleted. -/
theorem foldlM_scanCanister
    {entries : List (Principal × CanisterChangeInfo)}
    (canonical :
      ∀ entry ∈ entries, ∃ value ≤ MAX_VALUE, entry.1 = (CanisterId.canonical value).principal)
    (ascending : (entries.filterMap liveNumber).Pairwise (· < ·))
    {scan : Scan}
    (behind : ∀ run ∈ scan.growing, ∀ value ∈ entries.filterMap liveNumber, run.2 < value) :
    entries.foldlM scanCanister (.ofRuns scan) =
      some (.ofRuns ((entries.filterMap liveNumber).foldl Scan.add scan)) := by
  induction entries generalizing scan with
  | nil => rfl
  | cons entry rest hypothesis =>
      have others := fun other member => canonical other (List.mem_cons_of_mem _ member)
      obtain ⟨value, fits, found⟩ := canonical entry List.mem_cons_self
      obtain ⟨principal, info⟩ := entry
      obtain rfl : principal = (CanisterId.canonical value).principal := found
      have number := liveNumber_canonical fits info
      cases deleted : info.isDeleted with
      | true =>
          rw [deleted] at number
          rw [List.filterMap_cons_none number] at ascending behind ⊢
          rw [List.foldlM_cons, scanCanister_deleted deleted]
          exact hypothesis others ascending behind
      | false =>
          rw [deleted] at number
          rw [List.filterMap_cons_some number] at ascending behind ⊢
          obtain ⟨first, later⟩ := List.pairwise_cons.mp ascending
          have before : ∀ run ∈ scan.growing, run.2 < value := by
            intro run growing
            exact behind run growing value List.mem_cons_self
          rw [List.foldlM_cons, scanCanister_live fits before deleted, List.foldl_cons]
          apply hypothesis others later
          intro run growing next member
          rw [growing_add scan value growing]
          exact first next member

/-- Canonical identifiers are ordered as their numbers are. -/
theorem compare_canonical
    {first second : Nat}
    (firstFits : first ≤ MAX_VALUE)
    (secondFits : second ≤ MAX_VALUE) :
    compare (CanisterId.canonical first).principal (CanisterId.canonical second).principal =
      compare first second := by
  have firstWord : (UInt64.ofNat first).toNat = first :=
    UInt64.toNat_ofNat_of_lt' (Nat.lt_of_le_of_lt firstFits (by decide))
  have secondWord : (UInt64.ofNat second).toNat = second :=
    UInt64.toNat_ofNat_of_lt' (Nat.lt_of_le_of_lt secondFits (by decide))
  have widths :
      (bigEndian U64_LENGTH first).length = (bigEndian U64_LENGTH second).length := by
    rw [Cbor.length_bigEndian, Cbor.length_bigEndian]
  change
    compare (bigEndian U64_LENGTH (UInt64.ofNat first).toNat ++ [0x01, OPAQUE_ID_CLASS])
        (bigEndian U64_LENGTH (UInt64.ofNat second).toNat ++ [0x01, OPAQUE_ID_CLASS]) =
      _
  rw [firstWord, secondWord, Cbor.compare_append_right widths, Cbor.compare_number widths,
    Cbor.number_bigEndian (Nat.lt_of_le_of_lt firstFits (by decide)),
    Cbor.number_bigEndian (Nat.lt_of_le_of_lt secondFits (by decide))]

/-- The numbers of the canisters that are known and not deleted, in the order of the store. -/
def State.liveValues (s : State) : List Nat :=
  s.canisterInfos.toList.filterMap liveNumber

/-- What is stored under a canonical identifier. -/
theorem State.CanonicalIds.exists_value
    {s : State}
    (canonical : s.CanonicalIds)
    {entry : Principal × CanisterChangeInfo}
    (stored : entry ∈ s.canisterInfos.toList) :
    ∃ value ≤ MAX_VALUE, entry.1 = (CanisterId.canonical value).principal := by
  have found := ExtTreeMap.mem_toList_iff_getElem?_eq_some.mp stored
  apply canonical
  rw [ExtTreeMap.mem_iff_isSome_getElem?, found]
  rfl

/-- The number that counts is that of the identifier. -/
theorem liveNumber_eq_some
    {entry : Principal × CanisterChangeInfo}
    {value number : Nat}
    (fits : value ≤ MAX_VALUE)
    (principal : entry.1 = (CanisterId.canonical value).principal)
    (counts : liveNumber entry = some number) :
    number = value ∧ entry.2.isDeleted = false := by
  obtain ⟨_, info⟩ := entry
  obtain rfl := principal
  rw [liveNumber_canonical fits info] at counts
  cases deleted : info.isDeleted with
  | true =>
      rw [deleted] at counts
      cases counts
  | false =>
      rw [deleted] at counts
      cases counts
      exact ⟨rfl, rfl⟩

/-- The numbers come in ascending order. -/
theorem State.CanonicalIds.liveValues_ascending
    {s : State}
    (canonical : s.CanonicalIds) :
    s.liveValues.Pairwise (· < ·) := by
  unfold State.liveValues
  apply List.pairwise_filterMap.mpr
  apply ExtTreeMap.ordered_keys_toList.imp_of_mem
  intro first second firstStored secondStored ordered number counts other otherCounts
  obtain ⟨firstValue, firstFits, firstPrincipal⟩ := canonical.exists_value firstStored
  obtain ⟨secondValue, secondFits, secondPrincipal⟩ := canonical.exists_value secondStored
  rw [firstPrincipal, secondPrincipal, compare_canonical firstFits secondFits] at ordered
  rw [(liveNumber_eq_some firstFits firstPrincipal counts).1,
    (liveNumber_eq_some secondFits secondPrincipal otherCounts).1]
  exact Nat.compare_eq_lt.mp ordered

/-- The numbers are those of the stored canisters that are not deleted. -/
theorem State.CanonicalIds.mem_liveValues
    {s : State}
    (canonical : s.CanonicalIds)
    {value : Nat} :
    value ∈ s.liveValues ↔
      value ≤ MAX_VALUE ∧
        ∃ info, s.canisterInfos[(CanisterId.canonical value).principal]? = some info ∧
          info.isDeleted = false := by
  unfold State.liveValues
  rw [List.mem_filterMap]
  constructor
  · intro found
    obtain ⟨entry, stored, counts⟩ := found
    obtain ⟨own, fits, principal⟩ := canonical.exists_value stored
    obtain ⟨same, live⟩ := liveNumber_eq_some fits principal counts
    rw [same, ← principal]
    exact ⟨fits, entry.2, ExtTreeMap.mem_toList_iff_getElem?_eq_some.mp stored, live⟩
  · intro found
    obtain ⟨fits, info, stored, live⟩ := found
    have number := liveNumber_canonical fits info
    rw [live] at number
    exact ⟨_, ExtTreeMap.mem_toList_iff_getElem?_eq_some.mpr stored, number⟩

/-- What is between the ends of runs has the numbers of the runs. -/
theorem flatMap_idsBetween
    (runs : List (Nat × Nat)) :
    runs.flatMap idsBetween = (runs.flatMap members).map .canonical :=
  List.map_flatMap.symm

/-- The known canisters that are not deleted are those that the numbers determine. -/
theorem State.CanonicalIds.mem_map_canonical
    {s : State}
    (canonical : s.CanonicalIds)
    {id : CanisterId} :
    id ∈ s.liveValues.map .canonical ↔
      ∃ info, s.canisterInfos[id.principal]? = some info ∧ info.isDeleted = false := by
  rw [List.mem_map]
  constructor
  · intro determined
    obtain ⟨value, counted, rfl⟩ := determined
    exact (canonical.mem_liveValues.mp counted).2
  · intro found
    obtain ⟨info, stored, live⟩ := found
    obtain ⟨value, fits, principal⟩ :=
      canonical.exists_value (ExtTreeMap.mem_toList_iff_getElem?_eq_some.mpr stored)
    have same : CanisterId.canonical value = id := by
      apply CanisterId.principal_injective
      exact principal.symm
    refine ⟨value, canonical.mem_liveValues.mpr ⟨fits, info, ?_, live⟩, same⟩
    rw [same]
    exact stored

/-- The ranges of the known canisters are those of the runs of their numbers. -/
theorem State.CanonicalIds.listSubnetCanisterIdRanges_eq
    {s : State}
    (canonical : s.CanonicalIds) :
    s.listSubnetCanisterIdRanges =
      some ((s.liveValues.foldl Scan.add .start).runs.map canonicalRange) := by
  have behind :
      ∀ run ∈ Scan.start.growing, ∀ value ∈ s.liveValues, run.2 < value := by
    intro run growing
    cases growing
  have scanned :=
    foldlM_scanCanister (fun _ stored => canonical.exists_value stored)
      canonical.liveValues_ascending behind
  unfold State.listSubnetCanisterIdRanges
  change (s.canisterInfos.toList.foldlM scanCanister (RangeScan.ofRuns .start)).map _ = _
  rw [scanned, Option.map_some, RangeScan.finish_ofRuns]
  rfl

/--
The listed ranges are in order, each nonempty, with a gap between any two.  Walking
each in turn yields the known canisters that are not deleted, each once and in
ascending order, and these are the ones whose metrics are processed.
-/
theorem listSubnetCanisterIdRanges_expands
    {s : State}
    (canonical : s.CanonicalIds) :
    ∃ bounds : List (Nat × Nat),
      s.listSubnetCanisterIdRanges = some (bounds.map canonicalRange) ∧
        Separated bounds ∧
        (∀ run ∈ bounds,
          run.2 ≤ MAX_VALUE ∧
            (CanisterIdRange.new (.canonical run.1, .canonical run.2)).Yields (idsBetween run)) ∧
        ((bounds.flatMap idsBetween).map CanisterId.value).Pairwise (· < ·) ∧
        (∀ id : CanisterId,
          id ∈ bounds.flatMap idsBetween ↔
            ∃ info, s.canisterInfos[id.principal]? = some info ∧ info.isDeleted = false) ∧
        ∀ results, ∃ walks : List (List (List CanisterId)),
          walks.flatten.flatten = bounds.flatMap idsBetween ∧
            ∀ fuel, 2 ^ 64 < fuel →
              CyclesMonitor.syncCanisterMetrics results fuel (.ok (bounds.map canonicalRange)) =
                some (walks, .ok ()) := by
  have scanned := scanned_foldl canonical.liveValues_ascending
  have expanded :
      (s.liveValues.foldl Scan.add .start).runs.flatMap idsBetween =
        s.liveValues.map .canonical := by
    rw [flatMap_idsBetween, scanned.written]
  have bounded :
      ∀ run ∈ (s.liveValues.foldl Scan.add .start).runs,
        run.1 ≤ run.2 ∧ run.2 ≤ MAX_VALUE := by
    intro run member
    have nonempty := scanned.separated.nonempty run member
    have counted : run.2 ∈ s.liveValues := by
      rw [← scanned.written]
      exact List.mem_flatMap.mpr ⟨run, member, last_mem_members nonempty⟩
    exact ⟨nonempty, (canonical.mem_liveValues.mp counted).1⟩
  refine ⟨_, canonical.listSubnetCanisterIdRanges_eq, scanned.separated, ?_, ?_, ?_, ?_⟩
  · intro run member
    obtain ⟨nonempty, fits⟩ := bounded run member
    refine ⟨fits, CanisterIdRange.yields_iff.mpr ?_⟩
    rw [CanisterIdRange.remaining_canonical nonempty fits]
    rfl
  · have numbers :
        ∀ value ∈ s.liveValues, (CanisterId.canonical value).value = value := by
      intro value counted
      exact CanisterId.value_canonical (canonical.mem_liveValues.mp counted).1
    have same := List.map_congr_left numbers
    rw [List.map_id'] at same
    rw [expanded, List.map_map]
    change (s.liveValues.map fun value => (CanisterId.canonical value).value).Pairwise (· < ·)
    rw [same]
    exact canonical.liveValues_ascending
  · intro id
    rw [expanded]
    exact canonical.mem_map_canonical
  · intro results
    exact CyclesMonitor.syncCanisterMetrics_processes results bounded

/-- No canister is known at first. -/
theorem canonicalIds_empty :
    State.empty.CanonicalIds :=
  fun _ known => absurd known ExtTreeMap.not_mem_empty

/-- A canister with a canonical identifier becomes known. -/
theorem State.CanonicalIds.upsertCanisterChangeInfo
    {s : State}
    (canonical : s.CanonicalIds)
    {value : Nat}
    (fits : value ≤ MAX_VALUE)
    (info : CanisterChangeInfo) :
    (s.upsertCanisterChangeInfo (CanisterId.canonical value).principal info).CanonicalIds := by
  intro principal known
  rcases ExtTreeMap.mem_insert.mp known with same | earlier
  · exact ⟨value, fits, (LawfulEqOrd.eq_of_compare same).symm⟩
  · exact canonical principal earlier

/-- The first and the last number and two neighbours, with a deleted canister behind them. -/
def gapState : State :=
  [(0, false), (4, false), (5, false), (6, true), (MAX_VALUE, false)].foldl
    (fun s canister =>
      s.upsertCanisterChangeInfo (CanisterId.canonical canister.1).principal
        { CanisterChangeInfo.unknown with isDeleted := canister.2 })
    .empty

/-- Its identifiers are canonical. -/
theorem canonicalIds_gapState :
    gapState.CanonicalIds :=
  ((((canonicalIds_empty.upsertCanisterChangeInfo (by decide : 0 ≤ MAX_VALUE) _
    ).upsertCanisterChangeInfo (by decide : 4 ≤ MAX_VALUE) _
    ).upsertCanisterChangeInfo (by decide : 5 ≤ MAX_VALUE) _
    ).upsertCanisterChangeInfo (by decide : 6 ≤ MAX_VALUE) _
    ).upsertCanisterChangeInfo (Nat.le_refl MAX_VALUE) _

/-- Its ranges expand to its identifiers. -/
theorem listSubnetCanisterIdRanges_gaps :
    ∃ bounds : List (Nat × Nat),
      gapState.listSubnetCanisterIdRanges = some (bounds.map canonicalRange) ∧
        Separated bounds ∧
        ∀ id : CanisterId,
          id ∈ bounds.flatMap idsBetween ↔
            ∃ info, gapState.canisterInfos[id.principal]? = some info ∧
              info.isDeleted = false := by
  obtain ⟨bounds, listed, separated, -, -, exactly, -⟩ :=
    listSubnetCanisterIdRanges_expands canonicalIds_gapState
  exact ⟨bounds, listed, separated, exactly⟩

end Compression

end SsnConsole.CanisterHistory
