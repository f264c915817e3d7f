import SsnConsole.CyclesMonitor

/-!
# The retention of snapshots

What `insert_snapshot` keeps, seen from the log of all insertions: a canister's
snapshots from the retention period before its last one.  The index mirrors the
snapshots throughout, which is what lets the pruning find them.
-/

namespace SsnConsole.CyclesMonitor

open Std
open SsnConsole.Backend (Principal)
open SsnConsole.StableIndex

/-- The arguments of one call of `insert_snapshot`. -/
structure Insertion where
  timestampNs : UInt64
  canisterId : Principal
  snapshot : CyclesMetricsSnapshot
  deriving DecidableEq

/-- The key that a snapshot is inserted under. -/
def Insertion.key (insertion : Insertion) : Cursor :=
  (insertion.timestampNs, insertion.canisterId)

/-- An insertion prunes the keys of its canister from the retention period before it or earlier. -/
def Insertion.Prunes (insertion : Insertion) (key : Cursor) : Prop :=
  key.2 = insertion.canisterId ∧
    key.1.toNat + TARGET_RETENTION_PERIOD_NANOS.toNat ≤ insertion.timestampNs.toNat

instance (insertion : Insertion) (key : Cursor) : Decidable (insertion.Prunes key) :=
  inferInstanceAs (Decidable (_ ∧ _))

/-- One call of `insert_snapshot`. -/
def State.insert (s : State) (insertion : Insertion) : State :=
  s.insertSnapshot insertion.timestampNs insertion.canisterId insertion.snapshot

/-- The state after the insertions of a log. -/
def inserted (log : List Insertion) : State :=
  log.foldl State.insert .empty

section Spec

/-- The last insertion for a canister. -/
def lastFor (log : List Insertion) (canisterId : Principal) : Option Insertion :=
  log.reverse.find? fun insertion => decide (insertion.canisterId = canisterId)

/-- The last insertion under a key. -/
def lastUnder (log : List Insertion) (key : Cursor) : Option Insertion :=
  log.reverse.find? fun insertion => decide (insertion.key = key)

/-- The snapshots from the retention period before the last insertion for their canister. -/
def retained (log : List Insertion) (key : Cursor) : Option CyclesMetricsSnapshot :=
  (lastFor log key.2).bind fun last =>
    if last.timestampNs.toNat < key.1.toNat + TARGET_RETENTION_PERIOD_NANOS.toNat then
      (lastUnder log key).map Insertion.snapshot
    else
      none

/-- The index lists the keys of the snapshots, their columns swapped. -/
def State.Mirrored (s : State) : Prop :=
  ∀ timestampNs canisterId,
    (timestampNs, canisterId) ∈ s.cyclesMetricsSnapshots ↔
      (canisterId, timestampNs) ∈ s.canisterTimestampsIndex

/-- The state holds what is retained of a log. -/
structure Retains (s : State) (log : List Insertion) : Prop where
  mirrored : s.Mirrored
  rows : ∀ key, s.cyclesMetricsSnapshots[key]? = retained log key
  latest :
    ∀ canisterId,
      s.latestCyclesMetricsSnapshots[canisterId]? =
        (lastFor log canisterId).map Insertion.snapshot

end Spec

section Logs

/-- The last insertion for a canister once there is one more. -/
theorem lastFor_concat
    (log : List Insertion)
    (insertion : Insertion)
    (canisterId : Principal) :
    lastFor (log ++ [insertion]) canisterId =
      if insertion.canisterId = canisterId then some insertion else lastFor log canisterId := by
  unfold lastFor
  rw [List.reverse_append, List.reverse_singleton, List.singleton_append, List.find?_cons]
  by_cases same : insertion.canisterId = canisterId
  · rw [if_pos same, decide_eq_true same]
  · rw [if_neg same, decide_eq_false same]

/-- The last insertion under a key once there is one more. -/
theorem lastUnder_concat
    (log : List Insertion)
    (insertion : Insertion)
    (key : Cursor) :
    lastUnder (log ++ [insertion]) key =
      if insertion.key = key then some insertion else lastUnder log key := by
  unfold lastUnder
  rw [List.reverse_append, List.reverse_singleton, List.singleton_append, List.find?_cons]
  by_cases same : insertion.key = key
  · rw [if_pos same, decide_eq_true same]
  · rw [if_neg same, decide_eq_false same]

/-- The last insertion for a canister is one of the log. -/
theorem mem_of_lastFor
    {log : List Insertion}
    {canisterId : Principal}
    {last : Insertion}
    (found : lastFor log canisterId = some last) :
    last ∈ log :=
  List.mem_reverse.mp (List.mem_of_find?_eq_some found)

/-- Without an insertion for a canister there is none under its keys. -/
theorem lastUnder_eq_none
    {log : List Insertion}
    {key : Cursor}
    (absent : lastFor log key.2 = none) :
    lastUnder log key = none := by
  apply List.find?_eq_none.mpr
  intro insertion member under
  have other := List.find?_eq_none.mp absent insertion member
  apply other
  have same : insertion.key = key := of_decide_eq_true under
  rw [← same]
  exact decide_eq_true rfl

end Logs

section Insertions

/-- The keys that an insertion finds too old. -/
theorem mem_staleSnapshots
    {s : State}
    {timestampNs time : UInt64}
    {canisterId : Principal} :
    time ∈ s.staleSnapshots timestampNs canisterId ↔
      (canisterId, time) ∈ s.canisterTimestampsIndex ∧
        time.toNat + TARGET_RETENTION_PERIOD_NANOS.toNat ≤ timestampNs.toNat := by
  unfold State.staleSnapshots
  by_cases late : TARGET_RETENTION_PERIOD_NANOS ≤ timestampNs
  · have cutoff :
        (timestampNs - TARGET_RETENTION_PERIOD_NANOS).toNat =
          timestampNs.toNat - TARGET_RETENTION_PERIOD_NANOS.toNat :=
      UInt64.toNat_sub_of_le _ _ late
    have above := UInt64.le_iff_toNat_le.mp late
    rw [if_pos late, List.mem_filter, mem_prefixRows, decide_eq_true_eq,
      UInt64.le_iff_toNat_le, cutoff, Nat.le_sub_iff_add_le above]
  · have below := mt UInt64.le_iff_toNat_le.mpr late
    rw [if_neg late]
    constructor
    · intro member
      cases member
    · intro old
      obtain ⟨-, old⟩ := old
      omega

/-- The keys of the snapshots that an insertion removes. -/
theorem mem_staleKeys
    {s : State}
    {insertion : Insertion}
    {key : Cursor} :
    (key ∈ (s.staleSnapshots insertion.timestampNs insertion.canisterId).map
        fun time => (time, insertion.canisterId)) ↔
      (key.2, key.1) ∈ s.canisterTimestampsIndex ∧ insertion.Prunes key := by
  rw [List.mem_map]
  constructor
  · intro stale
    obtain ⟨time, member, rfl⟩ := stale
    obtain ⟨indexed, old⟩ := mem_staleSnapshots.mp member
    exact ⟨indexed, rfl, old⟩
  · intro stale
    obtain ⟨indexed, same, old⟩ := stale
    rw [same] at indexed
    exact ⟨key.1, mem_staleSnapshots.mpr ⟨indexed, old⟩, Prod.ext rfl same.symm⟩

/-- The rows of the index that an insertion removes. -/
theorem mem_staleRows
    {s : State}
    {insertion : Insertion}
    {key : Cursor} :
    ((key.2, key.1) ∈ (s.staleSnapshots insertion.timestampNs insertion.canisterId).map
        fun time => (insertion.canisterId, time)) ↔
      (key.2, key.1) ∈ s.canisterTimestampsIndex ∧ insertion.Prunes key := by
  rw [← mem_staleKeys, List.mem_map, List.mem_map]
  constructor
  · intro stale
    obtain ⟨time, member, same⟩ := stale
    exact ⟨time, member, congrArg Prod.swap same⟩
  · intro stale
    obtain ⟨time, member, same⟩ := stale
    exact ⟨time, member, congrArg Prod.swap same⟩

/-- What is stored once there is one more insertion into a mirrored state. -/
theorem State.Mirrored.getElem?_insert
    {s : State}
    (mirrored : s.Mirrored)
    (insertion : Insertion)
    (key : Cursor) :
    (s.insert insertion).cyclesMetricsSnapshots[key]? =
      if key = insertion.key then some insertion.snapshot
      else if insertion.Prunes key then none
      else s.cyclesMetricsSnapshots[key]? := by
  unfold State.insert
  rw [State.getElem?_insertSnapshot]
  by_cases pruned : insertion.Prunes key
  · rw [if_pos pruned]
    by_cases indexed : (key.2, key.1) ∈ s.canisterTimestampsIndex
    · rw [if_pos (mem_staleKeys.mpr ⟨indexed, pruned⟩)]
      rfl
    · have absent : s.cyclesMetricsSnapshots[key]? = none :=
        ExtTreeMap.getElem?_eq_none (mt (mirrored key.1 key.2).mp indexed)
      rw [absent, ite_self]
      rfl
  · have kept :
        key ∉ (s.staleSnapshots insertion.timestampNs insertion.canisterId).map
          fun time => (time, insertion.canisterId) := by
      intro stale
      exact pruned (mem_staleKeys.mp stale).2
    rw [if_neg pruned, if_neg kept]
    rfl

/-- The keys of the snapshots after an insertion. -/
theorem State.Mirrored.mem_insert
    {s : State}
    (mirrored : s.Mirrored)
    {insertion : Insertion}
    {key : Cursor} :
    key ∈ (s.insert insertion).cyclesMetricsSnapshots ↔
      (key ∈ s.cyclesMetricsSnapshots ∧ ¬insertion.Prunes key) ∨ key = insertion.key := by
  rw [ExtTreeMap.mem_iff_isSome_getElem?, mirrored.getElem?_insert,
    ExtTreeMap.mem_iff_isSome_getElem?]
  by_cases new : key = insertion.key
  · rw [if_pos new]
    exact ⟨fun _ => Or.inr new, fun _ => rfl⟩
  · rw [if_neg new, or_iff_left new]
    by_cases pruned : insertion.Prunes key
    · rw [if_pos pruned]
      exact ⟨fun absent => absurd absent Bool.false_ne_true, fun kept => absurd pruned kept.2⟩
    · rw [if_neg pruned, and_iff_left pruned]

/-- The rows of the index after an insertion. -/
theorem mem_index_insert
    (s : State)
    (insertion : Insertion)
    (key : Cursor) :
    (key.2, key.1) ∈ (s.insert insertion).canisterTimestampsIndex ↔
      ((key.2, key.1) ∈ s.canisterTimestampsIndex ∧ ¬insertion.Prunes key) ∨
        key = insertion.key := by
  have same :
      (key.2, key.1) = (insertion.canisterId, insertion.timestampNs) ↔ key = insertion.key :=
    ⟨congrArg Prod.swap, congrArg Prod.swap⟩
  unfold State.insert State.insertSnapshot
  rw [mem_insert_row, mem_eraseRows, mem_staleRows, same, not_and]
  constructor
  · intro found
    rcases found with ⟨indexed, kept⟩ | new
    · exact Or.inl ⟨indexed, kept indexed⟩
    · exact Or.inr new
  · intro found
    rcases found with ⟨indexed, kept⟩ | new
    · exact Or.inl ⟨indexed, fun _ => kept⟩
    · exact Or.inr new

/-- The index mirrors the snapshots after an insertion. -/
theorem State.Mirrored.insert
    {s : State}
    (mirrored : s.Mirrored)
    (insertion : Insertion) :
    (s.insert insertion).Mirrored := by
  intro timestampNs canisterId
  rw [mirrored.mem_insert, mirrored timestampNs canisterId]
  exact (mem_index_insert s insertion (timestampNs, canisterId)).symm

end Insertions

section Runs

/-- What a log retains once there is one more insertion that is not earlier. -/
theorem retained_concat
    {log : List Insertion}
    {insertion : Insertion}
    (latest : ∀ earlier ∈ log, earlier.timestampNs ≤ insertion.timestampNs)
    (key : Cursor) :
    retained (log ++ [insertion]) key =
      if key = insertion.key then some insertion.snapshot
      else if insertion.Prunes key then none
      else retained log key := by
  unfold retained
  rw [lastFor_concat, lastUnder_concat]
  by_cases same : insertion.canisterId = key.2
  · rw [if_pos same, Option.bind_some]
    by_cases new : key = insertion.key
    · subst new
      have positive : 0 < TARGET_RETENTION_PERIOD_NANOS.toNat := by
        decide
      have within :
          insertion.timestampNs.toNat <
            insertion.timestampNs.toNat + TARGET_RETENTION_PERIOD_NANOS.toNat :=
        Nat.lt_add_of_pos_right positive
      rw [if_pos rfl, if_pos rfl]
      exact if_pos within
    · rw [if_neg new, if_neg (Ne.symm new)]
      by_cases pruned : insertion.Prunes key
      · rw [if_pos pruned, if_neg (Nat.not_lt_of_le pruned.2)]
      · have recent :
            insertion.timestampNs.toNat <
              key.1.toNat + TARGET_RETENTION_PERIOD_NANOS.toNat := by
          apply Nat.lt_of_not_le
          intro old
          exact pruned ⟨same.symm, old⟩
        rw [if_neg pruned, if_pos recent]
        cases found : lastFor log key.2 with
        | none =>
            rw [lastUnder_eq_none found]
            rfl
        | some last =>
            have earlier := UInt64.le_iff_toNat_le.mp (latest last (mem_of_lastFor found))
            rw [Option.bind_some, if_pos (Nat.lt_of_le_of_lt earlier recent)]
  · have new : key ≠ insertion.key := by
      intro new
      rw [new] at same
      exact same rfl
    have kept : ¬insertion.Prunes key := fun pruned => same pruned.1.symm
    rw [if_neg same, if_neg new, if_neg kept, if_neg (Ne.symm new)]

/-- Nothing is retained at first. -/
theorem retains_empty :
    Retains .empty [] where
  mirrored _ _ :=
    ⟨fun stored => absurd stored ExtTreeMap.not_mem_empty,
      fun indexed => absurd indexed ExtTreeSet.not_mem_empty⟩
  rows _ := ExtTreeMap.getElem?_empty
  latest _ := ExtTreeMap.getElem?_empty

/-- An insertion that is not earlier keeps what the longer log retains. -/
theorem Retains.insert
    {s : State}
    {log : List Insertion}
    (retains : Retains s log)
    {insertion : Insertion}
    (latest : ∀ earlier ∈ log, earlier.timestampNs ≤ insertion.timestampNs) :
    Retains (s.insert insertion) (log ++ [insertion]) where
  mirrored := retains.mirrored.insert insertion
  rows key := by
    rw [retains.mirrored.getElem?_insert, retained_concat latest, retains.rows]
  latest canisterId := by
    have stored :
        (s.insert insertion).latestCyclesMetricsSnapshots[canisterId]? =
          if canisterId = insertion.canisterId then some insertion.snapshot
          else s.latestCyclesMetricsSnapshots[canisterId]? :=
      getElem?_insert_entry
    rw [stored, lastFor_concat, retains.latest]
    by_cases same : canisterId = insertion.canisterId
    · rw [if_pos same, if_pos same.symm]
      rfl
    · rw [if_neg same, if_neg (Ne.symm same)]

/-- Insertions at times that do not go back keep what their log retains. -/
theorem retains_inserted
    {log : List Insertion}
    (ordered : log.Pairwise fun early late => early.timestampNs ≤ late.timestampNs) :
    Retains (inserted log) log := by
  induction log using List.reverseRecOn with
  | nil => exact retains_empty
  | append_singleton earlier insertion hypothesis =>
      obtain ⟨before, -, later⟩ := List.pairwise_append.mp ordered
      have step : inserted (earlier ++ [insertion]) = (inserted earlier).insert insertion :=
        List.foldl_concat _ _ _ _
      rw [step]
      apply (hypothesis before).insert
      intro other member
      exact later other member insertion (List.mem_singleton_self _)

/--
After insertions at times that do not go back, the snapshots and the index mirror each
other.  Of a canister whose last insertion was at a time, the snapshots that were last
inserted under keys of the retention period before that time are stored, and no others;
its latest snapshot is the last one inserted; and insertions for other canisters leave
its snapshots as they are.
-/
theorem insertSnapshot_retains
    {log : List Insertion}
    (ordered : log.Pairwise fun early late => early.timestampNs ≤ late.timestampNs) :
    (∀ timestampNs canisterId,
      (timestampNs, canisterId) ∈ (inserted log).cyclesMetricsSnapshots ↔
        (canisterId, timestampNs) ∈ (inserted log).canisterTimestampsIndex) ∧
      ∀ canisterId last, lastFor log canisterId = some last →
        (∀ timestampNs snapshot,
          (inserted log).cyclesMetricsSnapshots[(timestampNs, canisterId)]? = some snapshot ↔
            last.timestampNs.toNat <
                timestampNs.toNat + TARGET_RETENTION_PERIOD_NANOS.toNat ∧
              ∃ insertion, lastUnder log (timestampNs, canisterId) = some insertion ∧
                insertion.snapshot = snapshot) ∧
          (inserted log).latestCyclesMetricsSnapshots[canisterId]? = some last.snapshot ∧
          ∀ (timestampNs : UInt64) (insertion : Insertion),
            insertion.canisterId ≠ canisterId →
              ((inserted log).insert insertion).cyclesMetricsSnapshots[(timestampNs,
                  canisterId)]? =
                (inserted log).cyclesMetricsSnapshots[(timestampNs, canisterId)]? := by
  have retains := retains_inserted ordered
  refine ⟨retains.mirrored, ?_⟩
  intro canisterId last found
  refine ⟨?_, ?_, ?_⟩
  · intro timestampNs snapshot
    rw [retains.rows, retained, found, Option.bind_some]
    split_ifs with recent
    · rw [Option.map_eq_some_iff]
      exact (and_iff_right recent).symm
    · constructor
      · intro absent
        cases absent
      · intro within
        exact absurd within.1 recent
  · rw [retains.latest, found]
    rfl
  · intro timestampNs insertion other
    have new : (timestampNs, canisterId) ≠ insertion.key :=
      fun same => other (congrArg Prod.snd same).symm
    have kept : ¬insertion.Prunes (timestampNs, canisterId) := fun pruned => other pruned.1.symm
    rw [retains.mirrored.getElem?_insert, if_neg new, if_neg kept]

/-- An insertion of the example: a snapshot of burned cycles. -/
def burnedAmount (timestampNs : UInt64) (canisterId : Principal) (burnedCycles : Nat) :
    Insertion where
  timestampNs := timestampNs
  canisterId := canisterId
  snapshot :=
    { memory := 0, computeAllocation := 0, ingressInduction := 0, instructions := 0,
      requestAndResponseTransmission := 0, uninstall := 0, httpOutcalls := 0,
      burnedCycles := burnedCycles }

/-- Two canisters, a repeated key, and a last insertion one retention period after the first. -/
def dayLog : List Insertion :=
  let first : Principal := ⟨[21], by decide⟩
  let second : Principal := ⟨[22], by decide⟩
  [burnedAmount 5 first 1, burnedAmount 6 first 2, burnedAmount 6 second 3, burnedAmount 6 first 4,
    burnedAmount (TARGET_RETENTION_PERIOD_NANOS + 5) first 5]

/-- The first canister keeps the last snapshot of the repeated key. -/
theorem insertSnapshot_dayLog :
    (inserted dayLog).cyclesMetricsSnapshots[((6, ⟨[21], by decide⟩) : Cursor)]? =
      some (burnedAmount 6 ⟨[21], by decide⟩ 4).snapshot := by
  have ordered :
      dayLog.Pairwise fun early late => early.timestampNs ≤ late.timestampNs := by
    decide +kernel
  obtain ⟨-, retained⟩ := insertSnapshot_retains ordered
  obtain ⟨rows, -⟩ := retained ⟨[21], by decide⟩ _ rfl
  apply (rows 6 _).mpr
  exact ⟨by decide +kernel, _, rfl, rfl⟩

end Runs

end SsnConsole.CyclesMonitor
