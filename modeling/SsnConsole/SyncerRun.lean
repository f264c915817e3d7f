import SsnConsole.KeyedMaximum
import SsnConsole.OtlpMetrics
import SsnConsole.SyncerCheckpoint

/-!
# A Run whose calls all succeed

Every page is pushed, and the usage of each canister's latest snapshot is recorded
at the end.  The usages of a page are matched with its snapshots by their indexes,
and they are recorded in the order in which a map happens to be ranged over.
-/

namespace SsnConsole.CanisterOtlpSyncer

open Std
open SsnConsole.Backend (Principal)
open SsnConsole.CyclesMonitor
open SsnConsole.KeyedMaximum
open SsnConsole.MessageRun
open SsnConsole.StableIndex

/-- The order in which a map is ranged over: any order. -/
structure MapOrder where
  order : List (Principal × Stamped) → List (Principal × Stamped)
  permutes : ∀ entries, (order entries).Perm entries

/-- One order is that of the keys. -/
def MapOrder.keyed : MapOrder :=
  ⟨fun entries => entries, fun _ => .refl _⟩

/-- What `ListMetricsAfter` returns: pages with a cursor, and a last one without. -/
structure Replies where
  continued : List (List CyclesMetricsSnapshotDto × Cursor)
  last : List CyclesMetricsSnapshotDto

namespace Replies

def pages (replies : Replies) : List (List CyclesMetricsSnapshotDto) :=
  replies.continued.map Prod.fst ++ [replies.last]

/-- All snapshots in page order. -/
def seen (replies : Replies) : List CyclesMetricsSnapshotDto :=
  replies.pages.flatten

end Replies

/-- Keep a usage unless a later one of its canister is kept. -/
def keepUsage (latest : Latest) (usage : Backend.Dto.CanisterUsage) (ts : UInt64) : Latest :=
  match latest[usage.canisterId]? with
  | some cur => if ts ≥ cur.ts then latest.insert usage.canisterId ⟨usage, ts⟩ else latest
  | none => latest.insert usage.canisterId ⟨usage, ts⟩

/-- The loop over the usages of a page from an index on; nothing comes back from an index that
is out of range. -/
def keepUsages (snapshots : List CyclesMetricsSnapshotDto) :
    Nat → List Backend.Dto.CanisterUsage → Latest → Option Latest
  | _, [], latest => some latest
  | i, usage :: rest, latest =>
      snapshots[i]?.bind fun snapshot =>
        keepUsages snapshots (i + 1) rest (keepUsage latest usage snapshot.timestampNs)

/-- How far a Run has got. -/
structure RunProgress where
  pushes : List ResourceMetrics
  latest : Latest
  stateFile : Option (List Char)

/-- The calls that a Run has made, and the state file that it leaves. -/
structure RunOutcome where
  pushes : List ResourceMetrics
  recordings : List (List Backend.Dto.CanisterUsage)
  stateFile : Option (List Char)

/-- The usages that a Run records at its end, as the map is ranged over. -/
def rangedUsages (ranged : MapOrder) (latest : Latest) : List Backend.Dto.CanisterUsage :=
  (ranged.order latest.toList).map fun entry => entry.2.usage

variable (text : Principal → String)
variable (environment : String)

/-- Push a page and keep its latest usages. -/
def RunProgress.receive (progress : RunProgress) (snapshots : List CyclesMetricsSnapshotDto) :
    Option RunProgress :=
  if snapshots.isEmpty then
    some progress
  else
    let built := build text snapshots environment
    (keepUsages snapshots 0 built.2 progress.latest).map fun latest =>
      { progress with
        pushes := progress.pushes ++ [built.1]
        latest := latest }

/-- Go on to the next page. -/
def RunProgress.receiveContinued (progress : RunProgress)
    (page : List CyclesMetricsSnapshotDto × Cursor) : Option RunProgress :=
  (progress.receive text environment page.1).map fun progress =>
    { progress with stateFile := some (formatUint page.2.1) }

/-- `Run`, where all calls succeed. -/
def run (ranged : MapOrder) (stateFile : Option (List Char)) (replies : Replies) :
    Option RunOutcome :=
  ((replies.continued.foldlM (RunProgress.receiveContinued text environment)
        ⟨[], ∅, stateFile⟩).bind
    fun progress => progress.receive text environment replies.last).map fun progress =>
      let usages := rangedUsages ranged progress.latest
      { pushes := progress.pushes
        recordings := if usages.isEmpty then [] else [usages]
        stateFile := progress.stateFile }

section Pages

/-- The usages of a page stand at the indexes of their snapshots. -/
theorem keepUsages_eq
    (earlier rest : List CyclesMetricsSnapshotDto)
    (latest : Latest) :
    keepUsages (earlier ++ rest) earlier.length (rest.map derivedUsage) latest =
      some (rest.foldl keepLatest latest) := by
  induction rest generalizing earlier latest with
  | nil => rfl
  | cons snapshot rest hypothesis =>
      have assembled : earlier ++ snapshot :: rest = earlier ++ [snapshot] ++ rest := by
        rw [List.append_assoc]
        rfl
      have here : (earlier ++ snapshot :: rest)[earlier.length]? = some snapshot := by
        rw [List.getElem?_append_right (Nat.le_refl _), Nat.sub_self]
        rfl
      have next := hypothesis (earlier ++ [snapshot]) (keepLatest latest snapshot)
      rw [List.length_append] at next
      rw [List.map_cons, keepUsages, here, Option.bind_some, assembled]
      exact next

/-- The pushes of some pages: one for each that is not empty. -/
def pushesOf (pages : List (List CyclesMetricsSnapshotDto)) : List ResourceMetrics :=
  (pages.filter fun page => !page.isEmpty).map fun page => (build text page environment).1

/-- A page is received whatever it holds. -/
theorem receive_eq
    (progress : RunProgress)
    (snapshots : List CyclesMetricsSnapshotDto) :
    progress.receive text environment snapshots =
      some
        { progress with
          pushes := progress.pushes ++ pushesOf text environment [snapshots]
          latest := snapshots.foldl keepLatest progress.latest } := by
  cases snapshots with
  | nil =>
      have none : pushesOf text environment [[]] = [] := rfl
      rw [none, List.append_nil]
      rfl
  | cons first rest =>
      have kept :
          keepUsages (first :: rest) 0 (build text (first :: rest) environment).2
              progress.latest =
            some ((first :: rest).foldl keepLatest progress.latest) := by
        rw [build_usages]
        exact keepUsages_eq [] (first :: rest) progress.latest
      have received :
          progress.receive text environment (first :: rest) =
            (keepUsages (first :: rest) 0 (build text (first :: rest) environment).2
                progress.latest).map fun latest =>
              { progress with
                pushes := progress.pushes ++ [(build text (first :: rest) environment).1]
                latest := latest } :=
        rfl
      rw [received, kept]
      rfl

/-- The state file after some continued pages. -/
def stateFileAfter (stateFile : Option (List Char))
    (continued : List (List CyclesMetricsSnapshotDto × Cursor)) : Option (List Char) :=
  (continued.getLast?.map fun page => formatUint page.2.1).or stateFile

/-- The first of some continued pages is written before the others. -/
theorem stateFileAfter_cons
    (stateFile : Option (List Char))
    (page : List CyclesMetricsSnapshotDto × Cursor)
    (rest : List (List CyclesMetricsSnapshotDto × Cursor)) :
    stateFileAfter stateFile (page :: rest) =
      stateFileAfter (some (formatUint page.2.1)) rest := by
  unfold stateFileAfter
  rw [List.getLast?_cons]
  cases rest.getLast? with
  | none => rfl
  | some last => rfl

/-- Continued pages are received one after the other. -/
theorem foldlM_receiveContinued
    (progress : RunProgress)
    (continued : List (List CyclesMetricsSnapshotDto × Cursor)) :
    continued.foldlM (RunProgress.receiveContinued text environment) progress =
      some
        { pushes := progress.pushes ++ pushesOf text environment (continued.map Prod.fst)
          latest := (continued.map Prod.fst).flatten.foldl keepLatest progress.latest
          stateFile := stateFileAfter progress.stateFile continued } := by
  induction continued generalizing progress with
  | nil =>
      have none : pushesOf text environment [] = [] := rfl
      rw [List.map_nil, none, List.append_nil]
      rfl
  | cons page rest hypothesis =>
      have pushes :
          pushesOf text environment (page.1 :: rest.map Prod.fst) =
            pushesOf text environment [page.1] ++
              pushesOf text environment (rest.map Prod.fst) := by
        unfold pushesOf
        rw [← List.map_append, ← List.filter_append]
        rfl
      rw [List.foldlM_cons, RunProgress.receiveContinued, receive_eq]
      change List.foldlM _ _ rest = _
      rw [hypothesis, List.map_cons, List.flatten_cons, List.foldl_append, pushes,
        ← List.append_assoc, stateFileAfter_cons]

/-- A Run comes to its end, with everything that it has been given kept. -/
theorem run_eq
    (ranged : MapOrder)
    (stateFile : Option (List Char))
    (replies : Replies) :
    run text environment ranged stateFile replies =
      some
        { pushes := pushesOf text environment replies.pages
          recordings :=
            let usages := rangedUsages ranged (replies.seen.foldl keepLatest ∅)
            if usages.isEmpty then [] else [usages]
          stateFile := stateFileAfter stateFile replies.continued } := by
  have pushes :
      pushesOf text environment replies.pages =
        pushesOf text environment (replies.continued.map Prod.fst) ++
          pushesOf text environment [replies.last] := by
    unfold pushesOf Replies.pages
    rw [← List.map_append, ← List.filter_append]
  have seen :
      replies.seen.foldl keepLatest ∅ =
        replies.last.foldl keepLatest
          ((replies.continued.map Prod.fst).flatten.foldl keepLatest ∅) := by
    unfold Replies.seen Replies.pages
    rw [List.flatten_append, List.foldl_append]
    congr 1
    exact List.append_nil _
  unfold run
  rw [foldlM_receiveContinued, Option.bind_some, receive_eq, Option.map_some, pushes, seen]
  rfl

end Pages

section Latest

/-- The snapshot is the last one of the greatest time among its canister's. -/
abbrev LatestSnapshot (seen : List CyclesMetricsSnapshotDto)
    (snapshot : CyclesMetricsSnapshotDto) : Prop :=
  LastGreatest CyclesMetricsSnapshotDto.canisterId (fun snapshot => snapshot.timestampNs.toNat)
    seen snapshot

/-- The kept usages are those of the latest snapshots, one for each canister that was seen. -/
structure Collects (latest : Latest) (seen : List CyclesMetricsSnapshotDto) : Prop where
  found :
    ∀ canisterId stamped, latest[canisterId]? = some stamped →
      ∃ snapshot, LatestSnapshot seen snapshot ∧ snapshot.canisterId = canisterId ∧
        stamped = ⟨derivedUsage snapshot, snapshot.timestampNs⟩
  covered : ∀ snapshot ∈ seen, snapshot.canisterId ∈ latest

/-- Nothing has been seen at first. -/
theorem collects_empty :
    Collects ∅ [] where
  found canisterId stamped stored := by
    rw [ExtTreeMap.getElem?_empty] at stored
    cases stored
  covered _ member := absurd member List.not_mem_nil

/-- A canister that was seen has a latest snapshot, whose usage is kept. -/
theorem Collects.exists_latest
    {latest : Latest}
    {seen : List CyclesMetricsSnapshotDto}
    (collects : Collects latest seen)
    {snapshot : CyclesMetricsSnapshotDto}
    (member : snapshot ∈ seen) :
    ∃ greatest, LatestSnapshot seen greatest ∧
      greatest.canisterId = snapshot.canisterId ∧
      latest[snapshot.canisterId]? = some ⟨derivedUsage greatest, greatest.timestampNs⟩ := by
  have known := collects.covered snapshot member
  rw [ExtTreeMap.mem_iff_isSome_getElem?, Option.isSome_iff_exists] at known
  obtain ⟨stamped, stored⟩ := known
  obtain ⟨greatest, isGreatest, same, rfl⟩ := collects.found _ stamped stored
  exact ⟨greatest, isGreatest, same, stored⟩

/-- A snapshot that is not older than the kept one takes its place. -/
theorem Collects.insert
    {latest : Latest}
    {seen : List CyclesMetricsSnapshotDto}
    (collects : Collects latest seen)
    {snapshot : CyclesMetricsSnapshotDto}
    (newest :
      ∀ kept, latest[snapshot.canisterId]? = some kept → kept.ts ≤ snapshot.timestampNs) :
    Collects
      (latest.insert snapshot.canisterId ⟨derivedUsage snapshot, snapshot.timestampNs⟩)
      (seen ++ [snapshot]) where
  found := by
    intro canisterId stamped stored
    rw [getElem?_insert_entry] at stored
    split_ifs at stored with own
    · cases stored
      refine ⟨snapshot, lastGreatest_concat ?_, own.symm, rfl⟩
      intro other member same
      obtain ⟨greatest, isGreatest, own, kept⟩ := collects.exists_latest member
      have bounded := isGreatest.le member own.symm
      rw [same] at kept
      exact bounded.trans (UInt64.le_iff_toNat_le.mp (newest _ kept))
    · obtain ⟨kept, isGreatest, keptOwn, rfl⟩ := collects.found canisterId stamped stored
      refine ⟨kept, isGreatest.concat ?_, keptOwn, rfl⟩
      intro same
      exact absurd (keptOwn.symm.trans same.symm) own
  covered := by
    intro other member
    rw [mem_insert_entry]
    rcases List.mem_append.mp member with earlier | last
    · exact Or.inl (collects.covered other earlier)
    · rw [List.mem_singleton.mp last]
      exact Or.inr rfl

/-- A snapshot that is older than the kept one is passed over. -/
theorem Collects.pass
    {latest : Latest}
    {seen : List CyclesMetricsSnapshotDto}
    (collects : Collects latest seen)
    {snapshot : CyclesMetricsSnapshotDto}
    {kept : Stamped}
    (stored : latest[snapshot.canisterId]? = some kept)
    (older : snapshot.timestampNs < kept.ts) :
    Collects latest (seen ++ [snapshot]) where
  found := by
    intro canisterId stamped found
    obtain ⟨other, isGreatest, own, rfl⟩ := collects.found canisterId stamped found
    refine ⟨other, isGreatest.concat ?_, own, rfl⟩
    intro same
    rw [same, own, found] at stored
    cases stored
    exact UInt64.lt_iff_toNat_lt.mp older
  covered := by
    intro other member
    rcases List.mem_append.mp member with earlier | last
    · exact collects.covered other earlier
    · rw [List.mem_singleton.mp last, ExtTreeMap.mem_iff_isSome_getElem?, stored]
      rfl

/-- One more snapshot. -/
theorem Collects.keepLatest
    {latest : Latest}
    {seen : List CyclesMetricsSnapshotDto}
    (collects : Collects latest seen)
    (snapshot : CyclesMetricsSnapshotDto) :
    Collects (keepLatest latest snapshot) (seen ++ [snapshot]) := by
  unfold CanisterOtlpSyncer.keepLatest
  cases stored : latest[snapshot.canisterId]? with
  | none =>
      apply collects.insert
      intro kept found
      rw [stored] at found
      cases found
  | some kept =>
      dsimp only
      split_ifs with newer
      · apply collects.insert
        intro other found
        rw [stored] at found
        cases found
        exact newer
      · exact collects.pass stored (UInt64.not_le.mp newer)

/-- What is kept after some snapshots. -/
theorem collects_foldl
    (seen : List CyclesMetricsSnapshotDto) :
    Collects (seen.foldl CanisterOtlpSyncer.keepLatest ∅) seen := by
  induction seen using List.reverseRecOn with
  | nil => exact collects_empty
  | append_singleton earlier snapshot hypothesis =>
      rw [List.foldl_concat]
      exact hypothesis.keepLatest snapshot

/-- The usages are those of the latest snapshots. -/
theorem Collects.mem_rangedUsages
    {latest : Latest}
    {seen : List CyclesMetricsSnapshotDto}
    (collects : Collects latest seen)
    (ranged : MapOrder)
    {usage : Backend.Dto.CanisterUsage} :
    usage ∈ rangedUsages ranged latest ↔
      ∃ snapshot, LatestSnapshot seen snapshot ∧ derivedUsage snapshot = usage := by
  unfold rangedUsages
  rw [List.mem_map]
  constructor
  · intro listed
    obtain ⟨⟨canisterId, stamped⟩, member, rfl⟩ := listed
    have stored :=
      ExtTreeMap.mem_toList_iff_getElem?_eq_some.mp ((ranged.permutes _).mem_iff.mp member)
    obtain ⟨snapshot, isGreatest, -, rfl⟩ := collects.found canisterId stamped stored
    exact ⟨snapshot, isGreatest, rfl⟩
  · intro derived
    obtain ⟨snapshot, isGreatest, rfl⟩ := derived
    obtain ⟨other, otherGreatest, same, stored⟩ := collects.exists_latest isGreatest.mem
    have equal : other = snapshot := otherGreatest.unique isGreatest same
    refine
      ⟨_, (ranged.permutes _).mem_iff.mpr (ExtTreeMap.mem_toList_iff_getElem?_eq_some.mpr stored),
        ?_⟩
    rw [equal]

/-- Each canister that was seen has a usage. -/
theorem Collects.exists_usage
    {latest : Latest}
    {seen : List CyclesMetricsSnapshotDto}
    (collects : Collects latest seen)
    (ranged : MapOrder)
    {snapshot : CyclesMetricsSnapshotDto}
    (member : snapshot ∈ seen) :
    ∃ usage ∈ rangedUsages ranged latest, usage.canisterId = snapshot.canisterId := by
  obtain ⟨greatest, isGreatest, same, -⟩ := collects.exists_latest member
  have recorded := (collects.mem_rangedUsages ranged).mpr ⟨greatest, isGreatest, rfl⟩
  exact ⟨derivedUsage greatest, recorded, same⟩

/-- No canister has two usages. -/
theorem Collects.nodup_rangedUsages
    {latest : Latest}
    {seen : List CyclesMetricsSnapshotDto}
    (collects : Collects latest seen)
    (ranged : MapOrder) :
    ((rangedUsages ranged latest).map Backend.Dto.CanisterUsage.canisterId).Nodup := by
  have own :
      ∀ entry ∈ ranged.order latest.toList, entry.2.usage.canisterId = entry.1 := by
    intro entry member
    have stored :=
      ExtTreeMap.mem_toList_iff_getElem?_eq_some.mp ((ranged.permutes _).mem_iff.mp member)
    obtain ⟨snapshot, -, same, stamped⟩ := collects.found entry.1 entry.2 stored
    rw [stamped]
    exact same
  have keys : ((ranged.order latest.toList).map Prod.fst).Nodup := by
    rw [((ranged.permutes latest.toList).map Prod.fst).nodup_iff,
      ExtTreeMap.map_fst_toList_eq_keys]
    exact ExtTreeMap.nodup_keys
  unfold rangedUsages
  rw [List.map_map]
  exact (List.map_congr_left own).symm ▸ keys

end Latest

section Runs

/-- The data points of the pushes of some pages are those of all their snapshots, in order. -/
theorem flatMap_pointsOf
    (pages : List (List CyclesMetricsSnapshotDto))
    {index : Nat}
    {metric : MetricDef}
    (defined : defs[index]? = some metric) :
    (pushesOf text environment pages).flatMap (fun pushed => pushed.pointsOf index) =
      pages.flatten.map fun snapshot => dataPoint text snapshot metric := by
  have points (page : List CyclesMetricsSnapshotDto) :
      (build text page environment).1.pointsOf index =
        page.map fun snapshot => dataPoint text snapshot metric := by
    unfold ResourceMetrics.pointsOf
    rw [build_metrics, List.getElem?_map, defined]
    rfl
  unfold pushesOf
  rw [List.flatMap_map, ← List.flatten_filter_not_isEmpty, List.map_flatten, List.flatMap_def]
  simp only [points]

/--
A Run whose calls all succeed comes to its end.  It has pushed one page after the other,
every snapshot once and in order; it has recorded usages once, or not at all if it has
seen no snapshot; and the usages are those that are derived from the latest snapshots,
the last of the greatest time, one for each canister that was seen.
-/
theorem run_records_latest
    (ranged : MapOrder)
    (stateFile : Option (List Char))
    (replies : Replies) :
    ∃ outcome, run text environment ranged stateFile replies = some outcome ∧
      outcome.pushes =
        ((replies.pages.filter fun page => !page.isEmpty).map fun page =>
          (build text page environment).1) ∧
      (∀ index metric, defs[index]? = some metric →
        outcome.pushes.flatMap (fun pushed => pushed.pointsOf index) =
          replies.seen.map fun snapshot => dataPoint text snapshot metric) ∧
      outcome.recordings.length ≤ 1 ∧
      (outcome.recordings = [] ↔ replies.seen = []) ∧
      ∀ usages ∈ outcome.recordings,
        (usages.map Backend.Dto.CanisterUsage.canisterId).Nodup ∧
          (∀ snapshot ∈ replies.seen,
            ∃ usage ∈ usages, usage.canisterId = snapshot.canisterId) ∧
          ∀ usage, usage ∈ usages ↔
            ∃ snapshot, LatestSnapshot replies.seen snapshot ∧
              (build text [snapshot] environment).2 = [usage] := by
  have collects := collects_foldl replies.seen
  have nonempty :
      rangedUsages ranged (replies.seen.foldl keepLatest ∅) = [] ↔ replies.seen = [] := by
    constructor
    · intro none
      apply List.eq_nil_iff_forall_not_mem.mpr
      intro snapshot member
      obtain ⟨usage, recorded, -⟩ := collects.exists_usage ranged member
      rw [none] at recorded
      cases recorded
    · intro none
      apply List.eq_nil_iff_forall_not_mem.mpr
      intro usage recorded
      obtain ⟨snapshot, isGreatest, -⟩ := (collects.mem_rangedUsages ranged).mp recorded
      have seen := isGreatest.mem
      rw [none] at seen
      cases seen
  refine ⟨_, run_eq text environment ranged stateFile replies, rfl, ?_, ?_, ?_, ?_⟩
  · intro index metric defined
    exact flatMap_pointsOf text environment replies.pages defined
  · dsimp only
    split_ifs
    · exact Nat.zero_le 1
    · exact Nat.le_refl 1
  · rw [← nonempty]
    dsimp only
    split_ifs with empty
    · exact iff_of_true rfl (List.isEmpty_iff.mp empty)
    · exact iff_of_false not_false (mt List.isEmpty_iff.mpr empty)
  · intro usages recorded
    dsimp only at recorded
    split_ifs at recorded with empty
    · cases recorded
    · obtain rfl := List.mem_singleton.mp recorded
      refine ⟨collects.nodup_rangedUsages ranged, ?_, ?_⟩
      · intro snapshot member
        exact collects.exists_usage ranged member
      · intro usage
        rw [collects.mem_rangedUsages ranged]
        simp only [build_usages, List.map_cons, List.map_nil, List.cons.injEq, and_true]

/-- The events of a page: it comes, and is pushed unless it is empty. -/
def pageEvents (snapshots : List CyclesMetricsSnapshotDto) (next : Option Cursor) :
    List SyncerEvent :=
  .listed snapshots next :: if snapshots.isEmpty then [] else [.pushed]

/-- The events of a Run whose calls all succeed. -/
def Replies.events (replies : Replies) (nowUnixNano : Int) : List SyncerEvent :=
  .started nowUnixNano ::
    ((replies.continued.flatMap fun page => pageEvents page.1 (some page.2)) ++
      (pageEvents replies.last none ++ if replies.seen.isEmpty then [] else [.recorded]))

/-- A page leads to the next one, or to the end. -/
theorem runEvents_pageEvents
    (stateFile : Option (List Char))
    (cursor : Cursor)
    (latest : Latest)
    (returned : List CyclesMetricsSnapshotDto)
    (recorded : List Backend.Dto.CanisterUsage)
    (snapshots : List CyclesMetricsSnapshotDto)
    (next : Option Cursor)
    (more : List SyncerEvent) :
    runEvents Syncer.step ⟨stateFile, .listing cursor latest, returned, recorded⟩
        (pageEvents snapshots next ++ more) =
      runEvents Syncer.step
        (Syncer.afterPage ⟨stateFile, .idle, returned ++ snapshots, recorded⟩ next
          (snapshots.foldl keepLatest latest))
        more := by
  cases snapshots with
  | nil =>
      cases next with
      | none => rfl
      | some continuation => rfl
  | cons first rest =>
      cases next with
      | none => rfl
      | some continuation => rfl

/-- Continued pages lead to the page behind them. -/
theorem runEvents_continued
    (stateFile : Option (List Char))
    (cursor : Cursor)
    (latest : Latest)
    (returned : List CyclesMetricsSnapshotDto)
    (recorded : List Backend.Dto.CanisterUsage)
    (continued : List (List CyclesMetricsSnapshotDto × Cursor))
    (more : List SyncerEvent) :
    ∃ reached,
      runEvents Syncer.step ⟨stateFile, .listing cursor latest, returned, recorded⟩
          ((continued.flatMap fun page => pageEvents page.1 (some page.2)) ++ more) =
        runEvents Syncer.step
          ⟨stateFileAfter stateFile continued,
            .listing reached ((continued.map Prod.fst).flatten.foldl keepLatest latest),
            returned ++ (continued.map Prod.fst).flatten, recorded⟩
          more := by
  induction continued generalizing stateFile cursor latest returned with
  | nil =>
      refine ⟨cursor, ?_⟩
      rw [List.flatMap_nil, List.map_nil, List.flatten_nil, List.append_nil]
      rfl
  | cons page rest hypothesis =>
      obtain ⟨reached, ran⟩ :=
        hypothesis (some (formatUint page.2.1)) page.2 (page.1.foldl keepLatest latest)
          (returned ++ page.1)
      refine ⟨reached, ?_⟩
      rw [List.flatMap_cons, List.append_assoc, runEvents_pageEvents, stateFileAfter_cons,
        List.map_cons, List.flatten_cons, List.foldl_append, ← List.append_assoc]
      exact ran

/-- The service records what a Run records, and leaves the same state file. -/
theorem runEvents_replies
    (stateFile : Option (List Char))
    (returned : List CyclesMetricsSnapshotDto)
    (recorded : List Backend.Dto.CanisterUsage)
    (nowUnixNano : Int)
    (replies : Replies) :
    runEvents Syncer.step ⟨stateFile, .idle, returned, recorded⟩ (replies.events nowUnixNano) =
      some
        ⟨stateFileAfter stateFile replies.continued, .idle, returned ++ replies.seen,
          recorded ++ latestUsages (replies.seen.foldl keepLatest ∅)⟩ := by
  have collects := collects_foldl replies.seen
  have seen :
      (replies.continued.map Prod.fst).flatten ++ replies.last = replies.seen := by
    unfold Replies.seen Replies.pages
    rw [List.flatten_append]
    exact congrArg (_ ++ ·) (List.append_nil _).symm
  obtain ⟨reached, ran⟩ :=
    runEvents_continued stateFile (readStartTimestamp stateFile nowUnixNano, minPrincipal) ∅
      returned recorded replies.continued
      (pageEvents replies.last none ++ if replies.seen.isEmpty then [] else [.recorded])
  rw [runEvents_pageEvents, ← List.foldl_append, List.append_assoc, seen] at ran
  have started :
      runEvents Syncer.step ⟨stateFile, .idle, returned, recorded⟩
          (replies.events nowUnixNano) =
        runEvents Syncer.step
          ⟨stateFile,
            .listing (readStartTimestamp stateFile nowUnixNano, minPrincipal) ∅, returned,
            recorded⟩
          ((replies.continued.flatMap fun page => pageEvents page.1 (some page.2)) ++
            (pageEvents replies.last none ++
              if replies.seen.isEmpty then [] else [.recorded])) :=
    rfl
  rw [started, ran]
  cases snapshots : replies.seen with
  | nil =>
      have nothing : recorded ++ latestUsages (([] : List _).foldl keepLatest ∅) = recorded :=
        List.append_nil recorded
      rw [nothing]
      rfl
  | cons first rest =>
      have nonempty : (latestUsages ((first :: rest).foldl keepLatest ∅)).isEmpty = false := by
        have member : first ∈ replies.seen := by
          rw [snapshots]
          exact List.mem_cons_self
        obtain ⟨usage, kept, -⟩ := collects.exists_usage .keyed member
        rw [snapshots] at kept
        exact List.isEmpty_eq_false_iff_exists_mem.mpr ⟨usage, kept⟩
      unfold Syncer.afterPage
      dsimp only
      rw [nonempty]
      rfl

end Runs

end SsnConsole.CanisterOtlpSyncer
