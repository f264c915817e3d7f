import SsnConsole.CanisterHistory
import SsnConsole.TextualHost

/-!
# Accounting for a canister's history

Every reply is a window over the end of one append-only history.  After any
runs, each change of the history so far either is stored once or lies in one
missed range, and the counters add up.
-/

namespace SsnConsole.CanisterHistory

open Std
open SsnConsole.Backend
open SsnConsole.StableIndex
open SsnConsole.StableTotals

section Spec

/-- The stored changes of a canister. -/
def changesOf (s : State) (canisterId : Principal) : List CanisterChange :=
  (s.canisterChanges.toList.filter fun entry => decide (entry.2.canisterId = canisterId)).map
    Prod.snd

/-- An index lies in a range. -/
def InRange (index : Nat) (range : Nat × Nat) : Prop :=
  range.1 ≤ index ∧ index < range.2

/-- The lengths of all ranges together. -/
def totalLength (ranges : List (Nat × Nat)) : Nat :=
  (ranges.map fun range => range.2 - range.1).sum

/-- Nonempty ranges, one after the other. -/
structure Ordered (ranges : List (Nat × Nat)) : Prop where
  nonempty : ∀ range ∈ ranges, range.1 < range.2
  sorted : ranges.Pairwise fun early late => early.2 ≤ late.1

/-- Each index of the history so far was stored once or lies in one missed range. -/
structure AccountsFor (info : CanisterChangeInfo) (inserted : List Nat) : Prop where
  ordered : Ordered info.missedRanges
  within : ∀ range ∈ info.missedRanges, range.2 ≤ info.totalNumChanges
  insertedOnce : inserted.Nodup
  insertedWithin : ∀ index ∈ inserted, index < info.totalNumChanges
  notMissed : ∀ index ∈ inserted, ∀ range ∈ info.missedRanges, ¬InRange index range
  covered :
    ∀ index, index < info.totalNumChanges →
      index ∈ inserted ∨ ∃ range ∈ info.missedRanges, InRange index range
  stored : info.storedNumChanges = inserted.length
  balanced : info.storedNumChanges + totalLength info.missedRanges = info.totalNumChanges

/-- The stored changes of a canister are the changes of its history that its record names. -/
def Accounted (history : Nat → Change) (canisterId : Principal) (s : State) : Prop :=
  ∃ inserted : List Nat,
    (changesOf s canisterId).Perm
        (inserted.map fun index =>
          mapManagementCanisterChangeResponse canisterId (history index)) ∧
      AccountsFor (s.canisterInfos[canisterId]?.getD .unknown) inserted

/-- A reply shows a window over the end of the history. -/
def WindowOf (history : Nat → Change) (totalNumChanges : Nat) (recentChanges : List Change) :
    Prop :=
  recentChanges.length ≤ totalNumChanges ∧
    recentChanges =
      (List.range' (totalNumChanges - recentChanges.length) recentChanges.length).map history

/-- The windows that a list of events shows for a canister, in order. -/
def windowsFor (canisterId : Principal) (events : List Event) : List (Nat × List Change) :=
  events.filterMap fun event =>
    match event with
    | .processed processedId (.info totalNumChanges recentChanges) =>
        if processedId = canisterId then some (totalNumChanges, recentChanges) else none
    | _ => none

/-- All replies for a canister show one append-only history, whose length never shrinks. -/
structure Consistent (history : Nat → Change) (canisterId : Principal) (events : List Event) :
    Prop where
  windows :
    ∀ window ∈ windowsFor canisterId events, WindowOf history window.1 window.2
  growing : (windowsFor canisterId events).Pairwise fun early late => early.1 ≤ late.1

end Spec

section Ranges

/-- The ranges of ordered ranges that hold an index are one and the same. -/
theorem Ordered.eq_of_inRange
    {ranges : List (Nat × Nat)}
    (ordered : Ordered ranges)
    {index : Nat}
    {first second : Nat × Nat}
    (firstMember : first ∈ ranges)
    (secondMember : second ∈ ranges)
    (inFirst : InRange index first)
    (inSecond : InRange index second) :
    first = second := by
  obtain ⟨firstLower, firstUpper⟩ := inFirst
  obtain ⟨secondLower, secondUpper⟩ := inSecond
  have sorted := ordered.sorted
  clear ordered
  induction ranges with
  | nil =>
      cases firstMember
  | cons range rest inductionHypothesis =>
      obtain ⟨later, restSorted⟩ := List.pairwise_cons.mp sorted
      rcases List.mem_cons.mp firstMember with rfl | firstLater
      · rcases List.mem_cons.mp secondMember with rfl | secondLater
        · rfl
        · have apart := later second secondLater
          omega
      · rcases List.mem_cons.mp secondMember with rfl | secondLater
        · have apart := later first firstLater
          omega
        · exact inductionHypothesis firstLater secondLater restSorted

/-- A nonempty range after all others keeps the ranges ordered. -/
theorem Ordered.append
    {ranges : List (Nat × Nat)}
    (ordered : Ordered ranges)
    {range : Nat × Nat}
    (nonempty : range.1 < range.2)
    (after : ∀ other ∈ ranges, other.2 ≤ range.1) :
    Ordered (ranges ++ [range]) where
  nonempty := by
    intro other member
    rcases List.mem_append.mp member with earlier | last
    · exact ordered.nonempty other earlier
    · rw [List.mem_singleton.mp last]
      exact nonempty
  sorted := by
    rw [List.pairwise_append]
    refine ⟨ordered.sorted, List.pairwise_singleton _ _, ?_⟩
    intro other member last isLast
    rw [List.mem_singleton.mp isLast]
    exact after other member

/-- The gap before a window, if there is one, is missed as well. -/
theorem mem_withGap
    {missedRanges : List (Nat × Nat)}
    {accounted start : Nat}
    {range : Nat × Nat} :
    range ∈ withGap missedRanges accounted start ↔
      range ∈ missedRanges ∨ start > accounted ∧ range = (accounted, start) := by
  unfold withGap
  split_ifs with gap
  · rw [List.mem_append, List.mem_singleton, and_iff_right gap]
  · constructor
    · exact Or.inl
    · intro missed
      rcases missed with old | ⟨isGap, -⟩
      · exact old
      · exact absurd isGap gap

/-- The gap before a window counts as far as it reaches. -/
theorem totalLength_withGap
    (missedRanges : List (Nat × Nat))
    (accounted start : Nat) :
    totalLength (withGap missedRanges accounted start) =
      totalLength missedRanges + (start - accounted) := by
  unfold withGap totalLength
  split_ifs with gap
  · rw [List.map_append, List.sum_append]
    rfl
  · rw [Nat.sub_eq_zero_of_le (Nat.le_of_not_lt gap), Nat.add_zero]

/-- The gap before a window comes after what was accounted for. -/
theorem Ordered.withGap
    {missedRanges : List (Nat × Nat)}
    (ordered : Ordered missedRanges)
    {accounted : Nat}
    (within : ∀ range ∈ missedRanges, range.2 ≤ accounted)
    (start : Nat) :
    Ordered (withGap missedRanges accounted start) := by
  unfold CanisterHistory.withGap
  split_ifs with gap
  · exact ordered.append gap within
  · exact ordered

/-- The indexes of a window that are not accounted for yet. -/
def newIndexes (start length accounted : Nat) : List Nat :=
  (List.range' start length).filter fun index => decide (accounted ≤ index)

/-- Membership in the new indexes of a window. -/
theorem mem_newIndexes
    {start length accounted index : Nat} :
    index ∈ newIndexes start length accounted ↔
      start ≤ index ∧ index < start + length ∧ accounted ≤ index := by
  unfold newIndexes
  rw [List.mem_filter, List.mem_range'_1, decide_eq_true_eq, and_assoc]

/-- The first index of a window is new if it was not accounted for. -/
theorem newIndexes_succ
    (start length accounted : Nat) :
    newIndexes start (length + 1) accounted =
      if accounted ≤ start then
        start :: newIndexes (start + 1) length accounted
      else
        newIndexes (start + 1) length accounted := by
  unfold newIndexes
  rw [List.range'_succ, List.filter_cons]
  simp only [decide_eq_true_eq]

/-- How many indexes of a window are new. -/
theorem length_newIndexes
    (start length accounted : Nat) :
    (newIndexes start length accounted).length = start + length - max start accounted := by
  induction length generalizing start with
  | zero =>
      simp [newIndexes]
  | succ length inductionHypothesis =>
      have later := inductionHypothesis (start + 1)
      rw [newIndexes_succ]
      split
      · rw [List.length_cons, later]
        omega
      · rw [later]
        omega

/-- A window that reaches the new end accounts for everything up to it. -/
theorem AccountsFor.window
    {info : CanisterChangeInfo}
    {inserted : List Nat}
    (accounts : AccountsFor info inserted)
    {totalNumChanges length : Nat}
    (grown : info.totalNumChanges ≤ totalNumChanges)
    (fits : length ≤ totalNumChanges) :
    AccountsFor
      { totalNumChanges := totalNumChanges
        storedNumChanges :=
          info.storedNumChanges +
            (newIndexes (totalNumChanges - length) length info.totalNumChanges).length
        missedRanges :=
          withGap info.missedRanges info.totalNumChanges (totalNumChanges - length)
        isDeleted := info.isDeleted }
      (inserted ++ newIndexes (totalNumChanges - length) length info.totalNumChanges) := by
  have newOnce : (newIndexes (totalNumChanges - length) length info.totalNumChanges).Nodup :=
    (List.nodup_range' 1).filter _
  have newCount := length_newIndexes (totalNumChanges - length) length info.totalNumChanges
  have balanced := accounts.balanced
  have disjoint : inserted.Disjoint
      (newIndexes (totalNumChanges - length) length info.totalNumChanges) := by
    intro index old isNew
    have before := accounts.insertedWithin index old
    have after := mem_newIndexes.mp isNew
    omega
  -- The gap, if there is one, lies between what was accounted for and the window.
  have gapLength :=
    totalLength_withGap info.missedRanges info.totalNumChanges (totalNumChanges - length)
  refine ⟨?_, ?_, ?_, ?_, ?_, ?_, ?_, ?_⟩
  · exact accounts.ordered.withGap accounts.within _
  · intro range member
    rcases mem_withGap.mp member with old | ⟨_, rfl⟩
    · exact Nat.le_trans (accounts.within range old) grown
    · exact Nat.sub_le _ _
  · exact List.nodup_append'.mpr ⟨accounts.insertedOnce, newOnce, disjoint⟩
  · intro index member
    rcases List.mem_append.mp member with old | isNew
    · exact Nat.lt_of_lt_of_le (accounts.insertedWithin index old) grown
    · have bounds := mem_newIndexes.mp isNew
      show index < totalNumChanges
      omega
  · intro index member range missed inRange
    obtain ⟨lower, upper⟩ := inRange
    rcases List.mem_append.mp member with old | isNew
    · rcases mem_withGap.mp missed with oldRange | ⟨_, rfl⟩
      · exact accounts.notMissed index old range oldRange ⟨lower, upper⟩
      · have before := accounts.insertedWithin index old
        have reached : info.totalNumChanges ≤ index := lower
        omega
    · have bounds := mem_newIndexes.mp isNew
      rcases mem_withGap.mp missed with oldRange | ⟨_, rfl⟩
      · have ended := accounts.within range oldRange
        omega
      · have short : index < totalNumChanges - length := upper
        omega
  · intro index bound
    have inHistory : index < totalNumChanges := bound
    by_cases old : index < info.totalNumChanges
    · rcases accounts.covered index old with stored | ⟨range, missed, inRange⟩
      · exact Or.inl (List.mem_append_left _ stored)
      · exact Or.inr ⟨range, mem_withGap.mpr (Or.inl missed), inRange⟩
    · by_cases inWindow : totalNumChanges - length ≤ index
      · refine Or.inl (List.mem_append_right _ (mem_newIndexes.mpr ?_))
        omega
      · have gap : totalNumChanges - length > info.totalNumChanges := by omega
        refine Or.inr ⟨_, mem_withGap.mpr (Or.inr ⟨gap, rfl⟩), ?_, ?_⟩
        · exact Nat.le_of_not_lt old
        · exact Nat.lt_of_not_le inWindow
  · show info.storedNumChanges + _ = _
    rw [List.length_append, accounts.stored]
  · show info.storedNumChanges + _ + _ = totalNumChanges
    rw [gapLength, newCount]
    omega

end Ranges

section Inserts

variable [Host]

/-- Only drawn identifiers name stored changes. -/
def DrawnIds (s : State) : Prop :=
  ∀ id ∈ s.canisterChanges, ∃ drawing, drawing < s.drawn ∧ id = Host.draw drawing

/-- A drawn identifier names no stored change yet. -/
theorem DrawnIds.fresh
    {s : State}
    (drawnIds : DrawnIds s) :
    s.canisterChanges[Host.draw s.drawn]? = none := by
  apply ExtTreeMap.getElem?_eq_none
  intro stored
  obtain ⟨drawing, earlier, same⟩ := drawnIds _ stored
  have sameDrawing := Host.draw_injective same
  omega

/-- An inserted change has a drawn identifier. -/
theorem DrawnIds.insertChange
    {s : State}
    (drawnIds : DrawnIds s)
    (change : CanisterChange) :
    DrawnIds (s.insertChange change) := by
  intro id member
  rcases mem_insert_entry.mp member with old | rfl
  · obtain ⟨drawing, earlier, rfl⟩ := drawnIds id old
    exact ⟨drawing, Nat.lt_succ_of_lt earlier, rfl⟩
  · exact ⟨s.drawn, Nat.lt_succ_self _, rfl⟩

/-- An inserted change is added to those of its canister. -/
theorem changesOf_insertChange
    {s : State}
    (drawnIds : DrawnIds s)
    (change : CanisterChange)
    (canisterId : Principal) :
    (changesOf (s.insertChange change) canisterId).Perm
      (changesOf s canisterId ++
        if change.canisterId = canisterId then [change] else []) := by
  have listed := toList_insert_perm s.canisterChanges (Host.draw s.drawn) change
  rw [erase_of_getElem?_eq_none drawnIds.fresh] at listed
  have filtered := (listed.filter
    fun entry => decide (entry.2.canisterId = canisterId)).map Prod.snd
  refine List.Perm.trans filtered ?_
  unfold changesOf
  by_cases own : change.canisterId = canisterId
  · simpa [own] using (List.perm_append_singleton _ _).symm
  · simp [own]

/-- What the loop of a run does to the stores, when it inserts the given indexes. -/
structure Inserts
    (history : Nat → Change)
    (canisterId : Principal)
    (indexes : List Nat)
    (before after : Progress) : Prop where
  infos : after.state.canisterInfos = before.state.canisterInfos
  drawnIds : DrawnIds after.state
  counted : after.storedNumChanges = before.storedNumChanges + indexes.length
  own :
    (changesOf after.state canisterId).Perm
      (changesOf before.state canisterId ++
        indexes.map fun index =>
          mapManagementCanisterChangeResponse canisterId (history index))
  others :
    ∀ other, other ≠ canisterId →
      (changesOf after.state other).Perm (changesOf before.state other)

/-- The loop over a window inserts its new indexes. -/
theorem inserts_foldl_processRecentChange
    (history : Nat → Change)
    (canisterId : Principal)
    (startIndex accounted offset length : Nat)
    (progress : Progress)
    (drawnIds : DrawnIds progress.state) :
    Inserts history canisterId (newIndexes (startIndex + offset) length accounted) progress
      ((((List.range' (startIndex + offset) length).map history).zipIdx offset).foldl
        (processRecentChange canisterId startIndex accounted) progress) := by
  induction length generalizing offset progress with
  | zero =>
      refine ⟨rfl, drawnIds, rfl, ?_, ?_⟩
      · simp [newIndexes]
      · intro other _
        exact List.Perm.refl _
  | succ length inductionHypothesis =>
      have next : startIndex + offset + 1 = startIndex + (offset + 1) := Nat.add_assoc _ _ _
      rw [List.range'_succ, List.map_cons, List.zipIdx_cons, List.foldl_cons, next]
      by_cases isNew : startIndex + offset ≥ accounted
      · let change := mapManagementCanisterChangeResponse canisterId (history (startIndex + offset))
        have indexes : newIndexes (startIndex + offset) (length + 1) accounted =
            (startIndex + offset) :: newIndexes (startIndex + (offset + 1)) length accounted := by
          rw [newIndexes_succ, if_pos isNew, next]
        have body :
            processRecentChange canisterId startIndex accounted progress
                (history (startIndex + offset), offset) =
              { state := progress.state.insertChange change
                storedNumChanges := progress.storedNumChanges + 1
                newCanisterMappings := progress.newCanisterMappings ++ createdBy change } := by
          unfold processRecentChange
          exact if_pos isNew
        rw [body, indexes]
        have rest :=
          inductionHypothesis (offset + 1)
            { state := progress.state.insertChange change
              storedNumChanges := progress.storedNumChanges + 1
              newCanisterMappings := progress.newCanisterMappings ++ createdBy change }
            (drawnIds.insertChange change)
        have added := changesOf_insertChange drawnIds change canisterId
        have ownChange : change.canisterId = canisterId := rfl
        rw [if_pos ownChange] at added
        refine ⟨rest.infos, rest.drawnIds, ?_, ?_, ?_⟩
        · have counted := rest.counted
          simp only [List.length_cons] at counted ⊢
          omega
        · refine rest.own.trans ?_
          rw [List.map_cons]
          refine (added.append_right _).trans ?_
          rw [List.append_assoc, List.singleton_append]
        · intro other distinct
          refine (rest.others other distinct).trans ?_
          have unchanged := changesOf_insertChange drawnIds change other
          rw [if_neg (fun same => distinct same.symm), List.append_nil] at unchanged
          exact unchanged
      · have indexes : newIndexes (startIndex + offset) (length + 1) accounted =
            newIndexes (startIndex + (offset + 1)) length accounted := by
          rw [newIndexes_succ, if_neg isNew, next]
        have body :
            processRecentChange canisterId startIndex accounted progress
                (history (startIndex + offset), offset) = progress := by
          unfold processRecentChange
          exact if_neg isNew
        rw [body, indexes]
        exact inductionHypothesis (offset + 1) progress drawnIds

end Inserts

section Runs

variable [Host]
variable {history : Nat → Change}
variable {canisterId : Principal}

omit [Host] in
/-- An unknown canister has no history to account for. -/
theorem accountsFor_empty :
    AccountsFor (State.empty.canisterInfos[canisterId]?.getD .unknown) [] := by
  have unknown : (State.empty.canisterInfos[canisterId]?.getD .unknown) = .unknown := by
    simp [State.empty]
  rw [unknown]
  refine ⟨⟨?_, ?_⟩, ?_, ?_, ?_, ?_, ?_, ?_, ?_⟩ <;>
    simp [CanisterChangeInfo.unknown, totalLength]

omit [Host] in
/-- Nothing is known of a canister at first. -/
theorem accounted_empty :
    Accounted history canisterId .empty := by
  refine ⟨[], ?_, accountsFor_empty⟩
  have nothing : (∅ : ExtTreeMap RecordId CanisterChange).toList = [] :=
    ExtTreeMap.toList_eq_nil_iff.mpr rfl
  simp [changesOf, State.empty, nothing]

/-- How many changes of a canister's history are accounted for. -/
def totalNumChangesOf (s : State) (canisterId : Principal) : Nat :=
  (s.canisterInfos[canisterId]?.getD .unknown).totalNumChanges

/-- The counters of a canister's record. -/
def countersOf (s : State) (canisterId : Principal) : Nat × Nat × List (Nat × Nat) :=
  let info := s.canisterInfos[canisterId]?.getD .unknown
  (info.totalNumChanges, info.storedNumChanges, info.missedRanges)

omit [Host] in
/-- A record whose counters are the same accounts for the same indexes. -/
theorem AccountsFor.of_counters
    {info other : CanisterChangeInfo}
    {inserted : List Nat}
    (accounts : AccountsFor info inserted)
    (total : other.totalNumChanges = info.totalNumChanges)
    (stored : other.storedNumChanges = info.storedNumChanges)
    (missed : other.missedRanges = info.missedRanges) :
    AccountsFor other inserted := by
  obtain ⟨ordered, within, once, insertedWithin, notMissed, covered, count, balanced⟩ := accounts
  refine ⟨?_, ?_, once, ?_, ?_, ?_, ?_, ?_⟩
  · rwa [missed]
  · rwa [missed, total]
  · rwa [total]
  · rwa [missed]
  · rwa [missed, total]
  · rwa [stored]
  · rwa [stored, missed, total]

/-- A run without a window, or for another canister, leaves the counters and the changes alone. -/
structure Untouched (canisterId : Principal) (before after : State) : Prop where
  counters : countersOf after canisterId = countersOf before canisterId
  changes : (changesOf after canisterId).Perm (changesOf before canisterId)

omit [Host] in
/-- Untouched canisters stay accounted for. -/
theorem Accounted.of_untouched
    {before after : State}
    (accounted : Accounted history canisterId before)
    (untouched : Untouched canisterId before after) :
    Accounted history canisterId after := by
  obtain ⟨inserted, changes, accounts⟩ := accounted
  have counters := untouched.counters
  simp only [countersOf, Prod.mk.injEq] at counters
  refine ⟨inserted, untouched.changes.trans changes, ?_⟩
  exact accounts.of_counters counters.1 counters.2.1 counters.2.2

/-- Failed mappings touch no canister's record. -/
theorem untouched_addFailedCanisterMappings
    (s : State)
    (newMappings : List Backend.Dto.ParentChildMapping) :
    (s.addFailedCanisterMappings newMappings).canisterInfos = s.canisterInfos ∧
      (s.addFailedCanisterMappings newMappings).canisterChanges = s.canisterChanges ∧
      s.drawn ≤ (s.addFailedCanisterMappings newMappings).drawn := by
  unfold State.addFailedCanisterMappings
  induction newMappings generalizing s with
  | nil =>
      exact ⟨rfl, rfl, Nat.le_refl _⟩
  | cons mapping rest inductionHypothesis =>
      rw [List.foldl_cons]
      obtain ⟨infos, changes, drawn⟩ := inductionHypothesis
        { s with
          failedCanisterMappings :=
            s.failedCanisterMappings.insert (Host.draw s.drawn) mapping
          drawn := s.drawn + 1 }
      exact ⟨infos, changes, Nat.le_of_succ_le drawn⟩

/-- The ways in which an event can end for the records and the changes. -/
inductive Ended (s : State) : Event → State → Prop
  /-- The run stopped before it changed anything. -/
  | unchanged (event : Event) : Ended s event s
  /-- The canister is gone. -/
  | deleted
      {processedId : Principal}
      {reply : CanisterInfoReply}
      {stored : CanisterChangeInfo}
      (known : s.canisterInfos[processedId]? = some stored) :
      Ended s (.processed processedId reply)
        (s.upsertCanisterChangeInfo processedId { stored with isDeleted := true })
  /-- A window came. -/
  | window
      (processedId : Principal)
      (totalNumChanges : Nat)
      (recentChanges : List Change) :
      Ended s (.processed processedId (.info totalNumChanges recentChanges))
        (processWindow processedId (s.canisterInfos[processedId]?.getD .unknown)
          totalNumChanges recentChanges s).2
  /-- The backend did not take the mappings. -/
  | failed (newMappings : List Backend.Dto.ParentChildMapping) :
      Ended s (.mappingsFailed newMappings) (s.addFailedCanisterMappings newMappings)

/-- Every event ends in one of these ways. -/
theorem step_ended
    (s : State)
    (event : Event) :
    Ended s event (s.step event) := by
  cases event with
  | mappingsFailed newMappings =>
      exact .failed newMappings
  | processed processedId reply =>
      unfold State.step processCanisterChanges
      by_cases gone : (s.canisterInfos[processedId]?.getD .unknown).isDeleted = true
      · simp only [gone, if_true]
        exact .unchanged _
      · simp only [gone]
        cases reply with
        | info totalNumChanges recentChanges =>
            exact .window processedId totalNumChanges recentChanges
        | canisterDeleted =>
            cases known : s.canisterInfos[processedId]? with
            | none =>
                exact .unchanged _
            | some stored =>
                exact .deleted known
        | failed error =>
            exact .unchanged _

/-- The loop of a run over a window inserts the window's new indexes. -/
theorem processWindow_inserts
    (canisterId : Principal)
    {s : State}
    (drawnIds : DrawnIds s)
    (stored : CanisterChangeInfo)
    {totalNumChanges : Nat}
    {recentChanges : List Change}
    (window : WindowOf history totalNumChanges recentChanges) :
    ∃ progress,
      Inserts history canisterId
          (newIndexes (totalNumChanges - recentChanges.length) recentChanges.length
            stored.totalNumChanges)
          ⟨s, stored.storedNumChanges, []⟩ progress ∧
        (processWindow canisterId stored totalNumChanges recentChanges s).2 =
          progress.state.upsertCanisterChangeInfo canisterId
            { totalNumChanges := totalNumChanges
              storedNumChanges := progress.storedNumChanges
              missedRanges :=
                withGap stored.missedRanges stored.totalNumChanges
                  (totalNumChanges - recentChanges.length)
              isDeleted := stored.isDeleted } := by
  have inserts :=
    inserts_foldl_processRecentChange history canisterId
      (totalNumChanges - recentChanges.length) stored.totalNumChanges 0 recentChanges.length
      ⟨s, stored.storedNumChanges, []⟩ drawnIds
  refine ⟨_, inserts, ?_⟩
  unfold processWindow
  rw [Nat.add_zero, ← window.2]

/-- A window accounts for its canister up to the new end of the history. -/
theorem Accounted.processWindow_own
    {s : State}
    (accounted : Accounted history canisterId s)
    (drawnIds : DrawnIds s)
    {totalNumChanges : Nat}
    {recentChanges : List Change}
    (window : WindowOf history totalNumChanges recentChanges)
    (grown : totalNumChangesOf s canisterId ≤ totalNumChanges) :
    Accounted history canisterId
      (processWindow canisterId (s.canisterInfos[canisterId]?.getD .unknown) totalNumChanges
        recentChanges s).2 := by
  obtain ⟨inserted, changes, accounts⟩ := accounted
  obtain ⟨progress, inserts, ended⟩ :=
    processWindow_inserts canisterId drawnIds
      (s.canisterInfos[canisterId]?.getD .unknown) window
  refine ⟨inserted ++ newIndexes (totalNumChanges - recentChanges.length)
    recentChanges.length (s.canisterInfos[canisterId]?.getD .unknown).totalNumChanges, ?_, ?_⟩
  · rw [ended, List.map_append]
    exact inserts.own.trans (changes.append_right _)
  · have recorded := accounts.window grown window.1
    rw [ended]
    unfold State.upsertCanisterChangeInfo
    simp only [getElem?_insert_entry, if_true, Option.getD_some]
    rw [inserts.counted]
    exact recorded

/-- A window for one canister leaves the others untouched. -/
theorem untouched_processWindow_other
    {s : State}
    (drawnIds : DrawnIds s)
    (stored : CanisterChangeInfo)
    {totalNumChanges : Nat}
    {recentChanges : List Change}
    (window : WindowOf history totalNumChanges recentChanges)
    {other : Principal}
    (distinct : other ≠ canisterId) :
    Untouched other s (processWindow canisterId stored totalNumChanges recentChanges s).2 := by
  obtain ⟨progress, inserts, ended⟩ :=
    processWindow_inserts canisterId drawnIds stored window
  rw [ended]
  refine ⟨?_, inserts.others other distinct⟩
  unfold countersOf State.upsertCanisterChangeInfo
  simp only [getElem?_insert_entry, if_neg distinct, inserts.infos]

omit [Host] in
/-- Marking a canister as deleted leaves its counters alone. -/
theorem untouched_upsertDeleted
    {s : State}
    {processedId : Principal}
    {stored : CanisterChangeInfo}
    (known : s.canisterInfos[processedId]? = some stored) :
    Untouched canisterId s
      (s.upsertCanisterChangeInfo processedId { stored with isDeleted := true }) := by
  refine ⟨?_, List.Perm.refl _⟩
  unfold countersOf State.upsertCanisterChangeInfo
  rw [getElem?_insert_entry]
  by_cases own : canisterId = processedId
  · subst own
    simp [known]
  · rw [if_neg own]

end Runs

section Invariant

variable [Host]
variable {history : Principal → Nat → Change}

/-- Every canister is accounted for, and stored changes have drawn identifiers. -/
structure Sound (history : Principal → Nat → Change) (s : State) : Prop where
  drawnIds : DrawnIds s
  accounted : ∀ canisterId, Accounted (history canisterId) canisterId s

/-- The windows of an event continue what is accounted for. -/
def Continues (history : Principal → Nat → Change) (s : State) (event : Event) : Prop :=
  ∀ canisterId, ∀ window ∈ windowsFor canisterId [event],
    WindowOf (history canisterId) window.1 window.2 ∧
      totalNumChangesOf s canisterId ≤ window.1

omit [Host] in
/-- A processed window is the window that its event shows. -/
theorem Continues.window
    {s : State}
    {processedId : Principal}
    {totalNumChanges : Nat}
    {recentChanges : List Change}
    (continues :
      Continues history s (.processed processedId (.info totalNumChanges recentChanges))) :
    WindowOf (history processedId) totalNumChanges recentChanges ∧
      totalNumChangesOf s processedId ≤ totalNumChanges := by
  exact continues processedId (totalNumChanges, recentChanges) (by simp [windowsFor])

/-- One event keeps every canister accounted for. -/
theorem Sound.step
    {s : State}
    (sound : Sound history s)
    {event : Event}
    (continues : Continues history s event) :
    Sound history (s.step event) := by
  have ended := step_ended s event
  generalize s.step event = after at ended
  cases ended with
  | unchanged =>
      exact sound
  | deleted known =>
      refine ⟨sound.drawnIds, ?_⟩
      intro canisterId
      exact (sound.accounted canisterId).of_untouched (untouched_upsertDeleted known)
  | failed newMappings =>
      obtain ⟨infos, changes, drawn⟩ := untouched_addFailedCanisterMappings s newMappings
      refine ⟨?_, ?_⟩
      · intro id member
        rw [changes] at member
        obtain ⟨drawing, earlier, named⟩ := sound.drawnIds id member
        exact ⟨drawing, Nat.lt_of_lt_of_le earlier drawn, named⟩
      · intro canisterId
        apply (sound.accounted canisterId).of_untouched
        refine ⟨?_, ?_⟩
        · unfold countersOf
          rw [infos]
        · unfold changesOf
          rw [changes]
  | window processedId totalNumChanges recentChanges =>
      obtain ⟨window, grown⟩ := continues.window
      refine ⟨?_, ?_⟩
      · obtain ⟨progress, inserts, processed⟩ :=
          processWindow_inserts processedId sound.drawnIds
            (s.canisterInfos[processedId]?.getD .unknown) window
        rw [processed]
        exact inserts.drawnIds
      · intro canisterId
        by_cases own : canisterId = processedId
        · subst own
          exact (sound.accounted canisterId).processWindow_own sound.drawnIds window grown
        · apply (sound.accounted canisterId).of_untouched
          exact untouched_processWindow_other sound.drawnIds _ window own

/-- An event accounts for no more than what its window shows. -/
theorem Sound.totalNumChangesOf_step_le
    {s : State}
    (sound : Sound history s)
    {event : Event}
    (continues : Continues history s event)
    {canisterId : Principal}
    {bound : Nat}
    (before : totalNumChangesOf s canisterId ≤ bound)
    (shown : ∀ window ∈ windowsFor canisterId [event], window.1 ≤ bound) :
    totalNumChangesOf (s.step event) canisterId ≤ bound := by
  have ended := step_ended s event
  generalize s.step event = after at ended
  cases ended with
  | unchanged =>
      exact before
  | @deleted processedId reply stored known =>
      have untouched :
          Untouched canisterId s
            (s.upsertCanisterChangeInfo processedId { stored with isDeleted := true }) :=
        untouched_upsertDeleted known
      have total := congrArg Prod.fst untouched.counters
      exact Nat.le_trans (Nat.le_of_eq total) before
  | failed newMappings =>
      obtain ⟨infos, _, _⟩ := untouched_addFailedCanisterMappings s newMappings
      unfold totalNumChangesOf
      rw [infos]
      exact before
  | window processedId totalNumChanges recentChanges =>
      obtain ⟨window, grown⟩ := continues.window
      by_cases own : canisterId = processedId
      · subst own
        have limit := shown (totalNumChanges, recentChanges) (by simp [windowsFor])
        unfold totalNumChangesOf processWindow State.upsertCanisterChangeInfo
        simp only [getElem?_insert_entry, if_true, Option.getD_some]
        exact limit
      · have untouched :=
          untouched_processWindow_other sound.drawnIds
            (s.canisterInfos[processedId]?.getD .unknown) window own
        have total := congrArg Prod.fst untouched.counters
        exact Nat.le_trans (Nat.le_of_eq total) before

omit [Host] in
/-- The windows of a list of events are those of its first event and of the others. -/
theorem windowsFor_cons
    (canisterId : Principal)
    (event : Event)
    (rest : List Event) :
    windowsFor canisterId (event :: rest) =
      windowsFor canisterId [event] ++ windowsFor canisterId rest := by
  unfold windowsFor
  rw [← List.filterMap_append, List.singleton_append]

/-- Nothing is stored of any history at first. -/
theorem sound_empty : Sound history State.empty := by
  refine ⟨?_, fun canisterId => accounted_empty⟩
  intro id member
  exact absurd member ExtTreeMap.not_mem_empty

/-- What every event keeps whose windows continue one history, such events keep together. -/
theorem Sound.foldl_induction
    (Kept : State → Prop)
    (step :
      ∀ s event, Sound history s → Continues history s event → Kept s → Kept (s.step event))
    {s : State}
    {events : List Event}
    (sound : Sound history s)
    (kept : Kept s)
    (consistent : ∀ canisterId, Consistent (history canisterId) canisterId events)
    (ahead :
      ∀ canisterId, ∀ window ∈ windowsFor canisterId events,
        totalNumChangesOf s canisterId ≤ window.1) :
    Sound history (events.foldl State.step s) ∧ Kept (events.foldl State.step s) := by
  induction events generalizing s with
  | nil =>
      exact ⟨sound, kept⟩
  | cons event rest inductionHypothesis =>
      have continues : Continues history s event := by
        intro canisterId window member
        have listed : window ∈ windowsFor canisterId (event :: rest) := by
          rw [windowsFor_cons]
          exact List.mem_append_left _ member
        exact ⟨(consistent canisterId).windows window listed,
          ahead canisterId window listed⟩
      rw [List.foldl_cons]
      apply inductionHypothesis (sound.step continues) (step s event sound continues kept)
      · intro canisterId
        obtain ⟨windows, growing⟩ := consistent canisterId
        rw [windowsFor_cons] at windows growing
        refine ⟨?_, (List.pairwise_append.mp growing).2.1⟩
        intro window member
        exact windows window (List.mem_append_right _ member)
      · intro canisterId window member
        have growing := (consistent canisterId).growing
        rw [windowsFor_cons] at growing
        apply sound.totalNumChangesOf_step_le continues
        · apply ahead canisterId window
          rw [windowsFor_cons]
          exact List.mem_append_right _ member
        · intro earlier shown
          exact (List.pairwise_append.mp growing).2.2 earlier shown window member

/-- Events whose windows continue one history keep every canister accounted for. -/
theorem Sound.foldl_step
    {s : State}
    {events : List Event}
    (sound : Sound history s)
    (consistent : ∀ canisterId, Consistent (history canisterId) canisterId events)
    (ahead :
      ∀ canisterId, ∀ window ∈ windowsFor canisterId events,
        totalNumChangesOf s canisterId ≤ window.1) :
    Sound history (events.foldl State.step s) :=
  (Sound.foldl_induction (fun _ => True) (fun _ _ _ _ _ => trivial) sound trivial consistent
    ahead).1

omit [Host] in
/-- An accounted index was stored once or lies in exactly one missed range. -/
theorem AccountsFor.exactly
    {info : CanisterChangeInfo}
    {inserted : List Nat}
    (accounts : AccountsFor info inserted)
    {index : Nat}
    (within : index < info.totalNumChanges) :
    (inserted.count index = 1 ∧ ∀ range ∈ info.missedRanges, ¬InRange index range) ∨
      (inserted.count index = 0 ∧
        ∃! range, range ∈ info.missedRanges ∧ InRange index range) := by
  by_cases stored : index ∈ inserted
  · exact Or.inl ⟨List.count_eq_one_of_mem accounts.insertedOnce stored,
      accounts.notMissed index stored⟩
  · rcases accounts.covered index within with present | ⟨range, missed, inRange⟩
    · exact absurd present stored
    · refine Or.inr ⟨List.count_eq_zero.mpr stored, range, ⟨missed, inRange⟩, ?_⟩
      rintro other ⟨otherMissed, inOther⟩
      exact accounts.ordered.eq_of_inRange otherMissed missed inOther inRange

/-- A run that gets no window, or finds its canister gone, keeps all counters. -/
private theorem countersOf_processed_windowless
    {s : State}
    {processedId : Principal}
    {reply : CanisterInfoReply}
    (windowless :
      (∀ totalNumChanges recentChanges,
          reply ≠ CanisterInfoReply.info totalNumChanges recentChanges) ∨
        (s.canisterInfos[processedId]?.getD .unknown).isDeleted = true)
    (canisterId : Principal) :
    countersOf (s.step (.processed processedId reply)) canisterId = countersOf s canisterId := by
  unfold State.step processCanisterChanges
  by_cases gone : (s.canisterInfos[processedId]?.getD .unknown).isDeleted = true
  · simp only [gone, if_true]
  · simp only [gone]
    cases reply with
    | info totalNumChanges recentChanges =>
        rcases windowless with noWindow | deleted
        · exact absurd rfl (noWindow totalNumChanges recentChanges)
        · exact absurd deleted gone
    | canisterDeleted =>
        cases known : s.canisterInfos[processedId]? with
        | none =>
            rfl
        | some stored =>
            exact (untouched_upsertDeleted known).counters
    | failed error =>
        rfl

/--
After any runs over one append-only history for each canister, every change so
far is stored once or lies in one missed range, and the counters add up.  A run
that gets no reply, or learns that its canister is gone, keeps all counters.
-/
theorem historyAccounted_of_events
    {events : List Event}
    (consistent : ∀ canisterId, Consistent (history canisterId) canisterId events) :
    let s := events.foldl State.step State.empty
    (∀ canisterId, ∃ inserted : List Nat,
      let info := s.canisterInfos[canisterId]?.getD .unknown
      (changesOf s canisterId).Perm
          (inserted.map fun index =>
            mapManagementCanisterChangeResponse canisterId (history canisterId index)) ∧
        (∀ index ∈ inserted, index < info.totalNumChanges) ∧
        (∀ index, index < info.totalNumChanges →
          (inserted.count index = 1 ∧ ∀ range ∈ info.missedRanges, ¬InRange index range) ∨
            (inserted.count index = 0 ∧
              ∃! range, range ∈ info.missedRanges ∧ InRange index range)) ∧
        Ordered info.missedRanges ∧
        info.storedNumChanges = inserted.length ∧
        info.storedNumChanges + totalLength info.missedRanges = info.totalNumChanges) ∧
      ∀ processedId reply,
        ((∀ totalNumChanges recentChanges,
            reply ≠ CanisterInfoReply.info totalNumChanges recentChanges) ∨
          (s.canisterInfos[processedId]?.getD .unknown).isDeleted = true) →
        ∀ canisterId,
          countersOf (s.step (.processed processedId reply)) canisterId =
            countersOf s canisterId := by
  intro s
  have sound : Sound history s := by
    apply sound_empty.foldl_step consistent
    intro canisterId window _
    exact Nat.zero_le _
  constructor
  · intro canisterId
    obtain ⟨inserted, changes, accounts⟩ := sound.accounted canisterId
    exact ⟨inserted, changes, accounts.insertedWithin, fun index within =>
      accounts.exactly within, accounts.ordered, accounts.stored, accounts.balanced⟩
  · intro processedId reply windowless canisterId
    exact countersOf_processed_windowless windowless canisterId

end Invariant

section Truncation

open TextualHost

attribute [local instance] host

/-- A history of upgrades, one a second. -/
def upgrades (_ : Principal) (index : Nat) : Change where
  timestampNanos := index * 1000000000
  canisterVersion := index
  origin := .fromUser founder
  details := some (.codeDeployment .upgrade [])

/-- A window over a history of upgrades. -/
def upgradesWindow (canisterId : Principal) (totalNumChanges length : Nat) : Event :=
  .processed canisterId
    (.info totalNumChanges
      ((List.range' (totalNumChanges - length) length).map (upgrades canisterId)))

/-- Overlap, truncation, an empty window, a failed call and a deletion, one after the other. -/
def truncatedEvents : List Event :=
  [upgradesWindow colleague 3 3, upgradesWindow colleague 5 4, upgradesWindow colleague 9 2,
    upgradesWindow colleague 10 0,
    .processed colleague (.failed (.internalError "timeout")),
    upgradesWindow colleague 10 3, .processed colleague .canisterDeleted,
    .mappingsFailed [⟨founder, colleague⟩]]

/-- The windows of the truncated runs are windows over one growing history. -/
theorem consistent_truncatedEvents
    (canisterId : Principal) :
    Consistent (upgrades canisterId) canisterId truncatedEvents := by
  by_cases known : canisterId = colleague
  · subst known
    refine ⟨?_, ?_⟩
    · unfold WindowOf
      decide +kernel
    · decide +kernel
  · have windowless : windowsFor canisterId truncatedEvents = [] := by
      have distinct : colleague ≠ canisterId := fun same => known same.symm
      simp [windowsFor, truncatedEvents, upgradesWindow, distinct]
    refine ⟨?_, ?_⟩ <;> simp [windowless]

/-- Seven of ten changes are stored after the truncated runs, the others are missed. -/
theorem historyAccounted_truncatedEvents :
    let s := truncatedEvents.foldl State.step State.empty
    (s.canisterInfos[colleague]?.getD .unknown) = ⟨10, 7, [(5, 7), (9, 10)], true⟩ ∧
      ∀ canisterId, ∃ inserted : List Nat,
        (changesOf s canisterId).Perm
            (inserted.map fun index =>
              mapManagementCanisterChangeResponse canisterId (upgrades canisterId index)) ∧
          (s.canisterInfos[canisterId]?.getD .unknown).storedNumChanges = inserted.length := by
  refine ⟨by decide +kernel, ?_⟩
  intro canisterId
  obtain ⟨inserted, changes, _, _, _, stored, _⟩ :=
    (historyAccounted_of_events consistent_truncatedEvents).1 canisterId
  exact ⟨inserted, changes, stored⟩

end Truncation

end SsnConsole.CanisterHistory
