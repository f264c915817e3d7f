import SsnConsole.ChangeListing

/-!
# The order of a listed history

A change is stored under its time and a random identifier, not under its place in
the history.  The listing keeps the order of the history exactly if changes of one
time happen to have drawn their identifiers in that order.
-/

namespace SsnConsole.CanisterHistory

open Std
open SsnConsole.Backend
open SsnConsole.OffsetPaging
open SsnConsole.StableIndex

section Insertions

variable [Host]

/-- Every insertion draws one identifier. -/
theorem drawn_foldl_insertChange
    (changes : List CanisterChange)
    (s : State) :
    (changes.foldl State.insertChange s).drawn = s.drawn + changes.length := by
  induction changes generalizing s with
  | nil => rfl
  | cons change rest hypothesis =>
      rw [List.foldl_cons, hypothesis, List.length_cons]
      change s.drawn + 1 + rest.length = _
      omega

/-- The stored changes after some insertions, each under the identifier drawn for it. -/
theorem getElem?_foldl_insertChange
    (changes : List CanisterChange)
    {s : State}
    (drawnIds : DrawnIds s)
    (id : RecordId)
    (change : CanisterChange) :
    (changes.foldl State.insertChange s).canisterChanges[id]? = some change ↔
      s.canisterChanges[id]? = some change ∨
        ∃ entry ∈ changes.zipIdx s.drawn, id = Host.draw entry.2 ∧ change = entry.1 := by
  induction changes generalizing s with
  | nil =>
      rw [List.zipIdx_nil]
      simp
  | cons first rest hypothesis =>
      have fresh : s.canisterChanges[Host.draw s.drawn]? = none := drawnIds.fresh
      have inserted :
          (s.insertChange first).canisterChanges[id]? =
            if id = Host.draw s.drawn then some first else s.canisterChanges[id]? :=
        getElem?_insert_entry
      rw [List.foldl_cons, hypothesis (drawnIds.insertChange first), inserted, List.zipIdx_cons]
      change _ ∨ (∃ entry ∈ rest.zipIdx (s.drawn + 1), _) ↔ _
      constructor
      · rintro (stored | ⟨entry, later, named⟩)
        · split_ifs at stored with new
          · cases stored
            exact Or.inr ⟨_, List.mem_cons_self, new, rfl⟩
          · exact Or.inl stored
        · exact Or.inr ⟨entry, List.mem_cons_of_mem _ later, named⟩
      · rintro (stored | ⟨entry, member, named⟩)
        · left
          rw [if_neg]
          · exact stored
          · rintro rfl
            rw [fresh] at stored
            cases stored
        · rcases List.mem_cons.mp member with rfl | later
          · left
            rw [if_pos named.1, named.2]
          · exact Or.inr ⟨entry, later, named⟩

omit [Host] in
/-- The new changes of a window over a history are those with new indexes. -/
theorem newChanges_window
    (history : Nat → Change)
    (canisterId : Principal)
    (startIndex accounted offset length : Nat) :
    newChanges canisterId startIndex accounted
        (((List.range' (startIndex + offset) length).map history).zipIdx offset) =
      (newIndexes (startIndex + offset) length accounted).map fun index =>
        mapManagementCanisterChangeResponse canisterId (history index) := by
  induction length generalizing offset with
  | zero => rfl
  | succ length hypothesis =>
      have rest := hypothesis (offset + 1)
      rw [← Nat.add_assoc] at rest
      rw [List.range'_succ, List.map_cons, List.zipIdx_cons]
      unfold newChanges newIndexes at rest ⊢
      rw [List.range'_succ]
      by_cases fresh : accounted ≤ startIndex + offset
      · rw [List.filter_cons_of_pos (by simpa using fresh),
          List.filter_cons_of_pos (by simpa using fresh), List.map_cons, List.map_cons, rest]
      · rw [List.filter_cons_of_neg (by simpa using fresh),
          List.filter_cons_of_neg (by simpa using fresh), rest]

end Insertions

section Places

variable [Host]

/-- The stored changes of a canister, each with its place in the history and the drawing that gave
it its identifier; both ascend together. -/
structure Recorded (history : Nat → Change) (canisterId : Principal) (s : State)
    (entries : List (Nat × Nat)) : Prop where
  ascending : entries.Pairwise fun early late => early.1 < late.1 ∧ early.2 < late.2
  drawn : ∀ entry ∈ entries, entry.2 < s.drawn
  stored :
    ∀ id change,
      s.canisterChanges[id]? = some change ∧ change.canisterId = canisterId ↔
        ∃ entry ∈ entries,
          id = Host.draw entry.2 ∧
            change = mapManagementCanisterChangeResponse canisterId (history entry.1)
  accounts :
    AccountsFor (s.canisterInfos[canisterId]?.getD .unknown) (entries.map Prod.fst)

variable {history : Nat → Change}
variable {canisterId : Principal}
variable {s after : State}
variable {entries : List (Nat × Nat)}

/-- Nothing is recorded at first. -/
theorem recorded_empty : Recorded history canisterId .empty [] where
  ascending := List.Pairwise.nil
  drawn _ member := absurd member List.not_mem_nil
  stored id change := by
    constructor
    · rintro ⟨stored, -⟩
      exact absurd (stored.symm.trans ExtTreeMap.getElem?_empty) (by simp)
    · rintro ⟨entry, member, -⟩
      exact absurd member List.not_mem_nil
  accounts := accountsFor_empty

/-- What touches neither the changes nor the counters of a canister keeps its places. -/
theorem Recorded.of_untouched
    (recorded : Recorded history canisterId s entries)
    (drawn : s.drawn ≤ after.drawn)
    (changes :
      ∀ (id : RecordId) (change : CanisterChange),
        after.canisterChanges[id]? = some change ∧ change.canisterId = canisterId ↔
          s.canisterChanges[id]? = some change ∧ change.canisterId = canisterId)
    (counters : countersOf after canisterId = countersOf s canisterId) :
    Recorded history canisterId after entries where
  ascending := recorded.ascending
  drawn entry member := (recorded.drawn entry member).trans_le drawn
  stored id change := (changes id change).trans (recorded.stored id change)
  accounts := by
    simp only [countersOf, Prod.mk.injEq] at counters
    exact recorded.accounts.of_counters counters.1 counters.2.1 counters.2.2

omit [Host] in
/-- Elements that ascend are counted off in ascending order. -/
theorem pairwise_zipIdx
    {indexes : List Nat}
    (ascending : indexes.Pairwise (· < ·))
    (start : Nat) :
    (indexes.zipIdx start).Pairwise fun early late => early.1 < late.1 ∧ early.2 < late.2 := by
  induction indexes generalizing start with
  | nil => exact List.Pairwise.nil
  | cons index rest hypothesis =>
      obtain ⟨least, others⟩ := List.pairwise_cons.mp ascending
      rw [List.zipIdx_cons]
      refine List.pairwise_cons.mpr ⟨?_, hypothesis others (start + 1)⟩
      intro entry member
      exact ⟨least _ (List.fst_mem_of_mem_zipIdx member), List.le_snd_of_mem_zipIdx member⟩

/-- Insertions of later places of the history are recorded behind the earlier ones. -/
theorem Recorded.inserted
    (recorded : Recorded history canisterId s entries)
    (drawnIds : DrawnIds s)
    {indexes : List Nat}
    (later : ∀ index ∈ indexes, totalNumChangesOf s canisterId ≤ index)
    (ascending : indexes.Pairwise (· < ·))
    {info : CanisterChangeInfo}
    (accounts : AccountsFor info (entries.map Prod.fst ++ indexes)) :
    Recorded history canisterId
      (((indexes.map fun index =>
          mapManagementCanisterChangeResponse canisterId (history index)).foldl
        State.insertChange s).upsertCanisterChangeInfo canisterId info)
      (entries ++ indexes.zipIdx s.drawn) where
  ascending := by
    refine List.pairwise_append.mpr
      ⟨recorded.ascending, pairwise_zipIdx ascending s.drawn, ?_⟩
    intro early earlyMember late lateMember
    have before : early.1 < totalNumChangesOf s canisterId :=
      recorded.accounts.insertedWithin _ (List.mem_map_of_mem earlyMember)
    have beyond := later _ (List.fst_mem_of_mem_zipIdx lateMember)
    exact
      ⟨before.trans_le beyond,
        (recorded.drawn early earlyMember).trans_le (List.le_snd_of_mem_zipIdx lateMember)⟩
  drawn := by
    intro entry member
    change _ < State.drawn (List.foldl _ _ _)
    rw [drawn_foldl_insertChange, List.length_map]
    rcases List.mem_append.mp member with earlier | new
    · exact Nat.lt_add_right _ (recorded.drawn entry earlier)
    · exact List.snd_lt_add_of_mem_zipIdx new
  stored := by
    intro id change
    change (State.canisterChanges (List.foldl _ _ _))[id]? = _ ∧ _ ↔ _
    rw [getElem?_foldl_insertChange _ drawnIds, List.zipIdx_map]
    constructor
    · rintro ⟨known | ⟨entry, new, named, rfl⟩, own⟩
      · obtain ⟨entry, member, found⟩ := (recorded.stored id change).mp ⟨known, own⟩
        exact ⟨entry, List.mem_append_left _ member, found⟩
      · obtain ⟨place, listed, rfl⟩ := List.mem_map.mp new
        exact ⟨place, List.mem_append_right _ listed, named, rfl⟩
    · rintro ⟨entry, member, named, rfl⟩
      refine ⟨?_, rfl⟩
      rcases List.mem_append.mp member with earlier | new
      · exact Or.inl ((recorded.stored id _).mpr ⟨entry, earlier, named, rfl⟩).1
      · exact Or.inr ⟨_, List.mem_map_of_mem new, named, rfl⟩
  accounts := by
    unfold State.upsertCanisterChangeInfo
    rw [getElem?_insert_entry, if_pos rfl, List.map_append, List.zipIdx_map_fst]
    exact accounts

/-- A window over the history adds its new places behind those that are there. -/
theorem Recorded.processWindow_own
    (recorded : Recorded history canisterId s entries)
    (drawnIds : DrawnIds s)
    {totalNumChanges : Nat}
    {recentChanges : List Change}
    (window : WindowOf history totalNumChanges recentChanges)
    (grown : totalNumChangesOf s canisterId ≤ totalNumChanges) :
    ∃ entries,
      Recorded history canisterId
        (processWindow canisterId (s.canisterInfos[canisterId]?.getD .unknown) totalNumChanges
          recentChanges s).2
        entries := by
  have inserted :=
    newChanges_window history canisterId (totalNumChanges - recentChanges.length)
      (totalNumChangesOf s canisterId) 0 recentChanges.length
  rw [Nat.add_zero, ← window.2] at inserted
  have accounts := recorded.accounts.window grown window.1
  rw [processWindow_eq]
  change ∃ entries, Recorded history canisterId
    (((newChanges canisterId (totalNumChanges - recentChanges.length)
      (totalNumChangesOf s canisterId) recentChanges.zipIdx).foldl State.insertChange
        s).upsertCanisterChangeInfo canisterId _) entries
  rw [inserted]
  refine ⟨_, recorded.inserted drawnIds ?_ ?_ ?_⟩
  · intro index member
    exact (mem_newIndexes.mp member).2.2
  · exact List.Pairwise.filter _ List.pairwise_lt_range'
  · change AccountsFor
      ⟨_, _ + (newChanges canisterId _ (totalNumChangesOf s canisterId) _).length, _, _⟩ _
    rw [inserted, List.length_map]
    exact accounts

/-- A window for one canister keeps the places of the others. -/
theorem Recorded.processWindow_other
    (recorded : Recorded history canisterId s entries)
    (drawnIds : DrawnIds s)
    {processedId : Principal}
    {processedHistory : Nat → Change}
    (stored : CanisterChangeInfo)
    {totalNumChanges : Nat}
    {recentChanges : List Change}
    (window : WindowOf processedHistory totalNumChanges recentChanges)
    (distinct : canisterId ≠ processedId) :
    Recorded history canisterId
      (processWindow processedId stored totalNumChanges recentChanges s).2 entries := by
  have untouched := untouched_processWindow_other drawnIds stored window distinct
  refine recorded.of_untouched ?_ ?_ untouched.counters
  · rw [processWindow_eq]
    change _ ≤ State.drawn (List.foldl _ _ _)
    rw [drawn_foldl_insertChange]
    exact Nat.le_add_right _ _
  · intro id change
    rw [processWindow_eq]
    change (State.canisterChanges (List.foldl _ _ _))[id]? = _ ∧ _ ↔ _
    rw [getElem?_foldl_insertChange _ drawnIds]
    apply and_congr_left
    intro own
    apply or_iff_left
    rintro ⟨entry, new, -, rfl⟩
    obtain ⟨shown, -, same⟩ := List.mem_map.mp (List.fst_mem_of_mem_zipIdx new)
    rw [← same] at own
    exact distinct own.symm

end Places

section Runs

variable [Host]
variable {history : Principal → Nat → Change}

/-- Every canister's stored changes have their places. -/
def Placed (history : Principal → Nat → Change) (s : State) : Prop :=
  ∀ canisterId, ∃ entries, Recorded (history canisterId) canisterId s entries

/-- Every event over the histories keeps the places. -/
theorem Placed.step
    (s : State)
    (event : Event)
    (sound : Sound history s)
    (continues : Continues history s event)
    (placed : Placed history s) :
    Placed history (s.step event) := by
  intro canisterId
  obtain ⟨entries, recorded⟩ := placed canisterId
  have ended := step_ended s event
  generalize s.step event = after at ended
  cases ended with
  | unchanged => exact ⟨entries, recorded⟩
  | deleted known =>
      have untouched : Untouched canisterId s _ := untouched_upsertDeleted known
      exact ⟨entries, recorded.of_untouched le_rfl (fun _ _ => Iff.rfl) untouched.counters⟩
  | failed newMappings =>
      obtain ⟨infos, changes, drawn⟩ := untouched_addFailedCanisterMappings s newMappings
      refine ⟨entries, recorded.of_untouched drawn ?_ ?_⟩
      · intro id change
        rw [changes]
      · unfold countersOf
        rw [infos]
  | window processedId totalNumChanges recentChanges =>
      obtain ⟨window, grown⟩ := continues.window
      by_cases own : canisterId = processedId
      · subst own
        exact recorded.processWindow_own sound.drawnIds window grown
      · exact ⟨entries, recorded.processWindow_other sound.drawnIds _ window own⟩

/-- The places are kept through events over the histories. -/
theorem placed_foldl_step
    {events : List Event}
    (consistent : ∀ canisterId, Consistent (history canisterId) canisterId events) :
    Placed history (events.foldl State.step State.empty) := by
  have initial : Placed history State.empty := fun _ => ⟨[], recorded_empty⟩
  refine (Sound.foldl_induction (Placed history) Placed.step sound_empty initial consistent ?_).2
  intro canisterId window _
  exact Nat.zero_le _

end Runs

section Order

variable [Host]
variable {history : Nat → Change}
variable {canisterId : Principal}
variable {s : State}
variable {entries : List (Nat × Nat)}

/-- The stored change at a place, under its identifier. -/
def changeAt (history : Nat → Change) (canisterId : Principal) (entry : Nat × Nat) :
    RecordId × CanisterChange :=
  (Host.draw entry.2, mapManagementCanisterChangeResponse canisterId (history entry.1))

/-- Changes of one time drew their identifiers in the order of the history. -/
def TiesAscend (history : Nat → Change) (entries : List (Nat × Nat)) : Prop :=
  entries.Pairwise fun early late =>
    (history early.1).timestampNanos = (history late.1).timestampNanos →
      Host.draw early.2 < Host.draw late.2

/-- The listing and the places show the same changes. -/
theorem Recorded.orderedChanges_perm
    (recorded : Recorded history canisterId s entries)
    (indexed : Indexed s) :
    (s.orderedChanges canisterId).Perm (entries.map (changeAt history canisterId)) := by
  have listedOnce : (s.orderedChanges canisterId).Nodup :=
    indexed.nodup_orderedChanges.of_map
  have placedOnce : (entries.map (changeAt history canisterId)).Nodup := by
    apply List.pairwise_map.mpr
    apply recorded.ascending.imp
    intro early late before same
    have drawing : early.2 = late.2 := Host.draw_injective (congrArg Prod.fst same)
    exact absurd drawing before.2.ne
  apply (List.perm_ext_iff_of_nodup listedOnce placedOnce).mpr
  rintro ⟨id, change⟩
  rw [indexed.mem_orderedChanges, recorded.stored, List.mem_map]
  apply exists_congr
  intro entry
  rw [changeAt, Prod.mk.injEq, eq_comm (a := id), eq_comm (a := change)]

/-- The listing keeps the order of the history exactly if ties ascend. -/
theorem Recorded.orderedChanges_eq_iff
    (recorded : Recorded history canisterId s entries)
    (indexed : Indexed s)
    (nondecreasing : Monotone fun index => (history index).timestampNanos) :
    s.orderedChanges canisterId = entries.map (changeAt history canisterId) ↔
      TiesAscend history entries := by
  have before (early late : Nat × Nat) (ascending : early.1 < late.1 ∧ early.2 < late.2) :
      ListedBefore (changeAt history canisterId early) (changeAt history canisterId late) ↔
        ((history early.1).timestampNanos = (history late.1).timestampNanos →
          Host.draw early.2 < Host.draw late.2) := by
    have time : (history early.1).timestampNanos ≤ (history late.1).timestampNanos :=
      nondecreasing ascending.1.le
    constructor
    · rintro (less | ⟨-, less⟩) same
      · exact absurd same less.ne
      · exact less
    · intro ascend
      rcases time.lt_or_eq with less | same
      · exact Or.inl less
      · exact Or.inr ⟨same, ascend same⟩
  have ordered :
      (entries.map (changeAt history canisterId)).Pairwise ListedBefore ↔
        TiesAscend history entries := by
    rw [List.pairwise_map]
    constructor
    · intro listed
      exact recorded.ascending.imp₂ (fun early late ascending => (before early late ascending).mp)
        listed
    · intro ascend
      exact recorded.ascending.imp₂ (fun early late ascending => (before early late ascending).mpr)
        ascend
  rw [← ordered]
  constructor
  · intro same
    rw [← same]
    exact indexed.orderedChanges_ordered
  · intro sorted
    refine (recorded.orderedChanges_perm indexed).eq_of_pairwise ?_
      indexed.orderedChanges_ordered sorted
    intro first second _ _ forth back
    rcases forth with less | ⟨same, less⟩
    · rcases back with more | ⟨other, -⟩
      · exact absurd more less.asymm
      · exact absurd other less.ne'
    · rcases back with more | ⟨-, more⟩
      · exact absurd same more.ne'
      · exact absurd more less.asymm

/--
After any runs over histories whose times never decrease, the pages of a canister
list its stored changes in the order of its history exactly if those of one time
drew their identifiers in that order.
-/
theorem historyOrder_iff
    {history : Principal → Nat → Change}
    {events : List Event}
    (consistent : ∀ canisterId, Consistent (history canisterId) canisterId events)
    (nondecreasing :
      ∀ canisterId, Monotone fun index => (history canisterId index).timestampNanos)
    (fits : (events.foldl State.step State.empty).FitsStableMemory)
    (canisterId : Principal)
    (limit : Option Nat) :
    let s := events.foldl State.step State.empty
    shownPages s canisterId (some false) limit =
        (listedPages s canisterId false limit).map mapCanisterChangeResponse ∧
      ∃ entries,
        Recorded (history canisterId) canisterId s entries ∧
          (listedPages s canisterId false limit =
              entries.map (changeAt (history canisterId) canisterId) ↔
            TiesAscend (history canisterId) entries) := by
  intro s
  have tallied : Tallied s := tallied_foldl_step events
  obtain ⟨entries, recorded⟩ := placed_foldl_step consistent canisterId
  refine ⟨shownPages_eq s canisterId (some false) limit, entries, recorded, ?_⟩
  rw [tallied.listedPages_eq fits]
  exact recorded.orderedChanges_eq_iff tallied.indexed (nondecreasing canisterId)

end Order

section OneRound

open TextualHost

/-- The second drawn identifier is less than the first. -/
@[reducible]
def swappedHost : Host :=
  { host with
    draw := fun index => draw (Equiv.swap 0 1 index)
    draw_injective := by
      intro first second same
      exact (Equiv.swap 0 1).injective (host.draw_injective same) }

attribute [local instance] swappedHost

/-- A history of upgrades that all happen in one round. -/
def simultaneous (_ : Principal) (index : Nat) : Change where
  timestampNanos := 1700000000000000000
  canisterVersion := index
  origin := .fromUser founder
  details := some (.codeDeployment .upgrade [])

/-- One run, which is shown two upgrades. -/
def oneRound : List Event :=
  [.processed colleague
    (.info 2 ((List.range' 0 2).map (simultaneous colleague)))]

/-- The run's window is a window over the history. -/
theorem consistent_oneRound
    (canisterId : Principal) :
    Consistent (simultaneous canisterId) canisterId oneRound := by
  by_cases known : canisterId = colleague
  · subst known
    constructor
    · unfold WindowOf
      decide +kernel
    · decide +kernel
  · have windowless : windowsFor canisterId oneRound = [] := by
      have distinct : colleague ≠ canisterId := fun same => known same.symm
      simp [windowsFor, oneRound, distinct]
    constructor
    · simp [windowless]
    · simp [windowless]

/-- The pages list two upgrades of one round in the wrong order. -/
theorem historyOrder_oneRound :
    (∀ canisterId, Consistent (simultaneous canisterId) canisterId oneRound) ∧
      (∀ canisterId, Monotone fun index => (simultaneous canisterId index).timestampNanos) ∧
      ¬∃ indexes : List Nat,
        indexes.Pairwise (· < ·) ∧
          (shownPages (oneRound.foldl State.step State.empty) colleague (some false) none).map
              (·.canisterVersion) =
            indexes.map fun index => (simultaneous colleague index).canisterVersion := by
  refine ⟨consistent_oneRound, fun _ => monotone_const, ?_⟩
  rintro ⟨indexes, ascending, shown⟩
  have versions :
      (shownPages (oneRound.foldl State.step State.empty) colleague (some false) none).map
          (·.canisterVersion) =
        [1, 0] := by
    decide +kernel
  rw [versions] at shown
  have same : indexes = [1, 0] := by
    rw [← List.map_id indexes]
    exact shown.symm
  rw [same] at ascending
  exact absurd ascending (by decide)

end OneRound

section Spaced

open TextualHost

attribute [local instance] host

/-- Upgrades one second apart are listed in order. -/
theorem historyOrder_truncatedEvents :
    let s := truncatedEvents.foldl State.step State.empty
    ∃ entries,
      Recorded (upgrades colleague) colleague s entries ∧
        TiesAscend (upgrades colleague) entries ∧
          listedPages s colleague false (some 3) =
            entries.map (changeAt (upgrades colleague) colleague) := by
  have nondecreasing (canisterId : Principal) :
      Monotone fun index => (upgrades canisterId index).timestampNanos := by
    intro early late before
    exact Nat.mul_le_mul_right _ before
  obtain ⟨-, entries, recorded, listed⟩ :=
    historyOrder_iff consistent_truncatedEvents nondecreasing (by decide +kernel) colleague
      (some 3)
  -- No two upgrades have one time, so there are no ties to order.
  have ascend : TiesAscend (upgrades colleague) entries := by
    refine recorded.ascending.imp ?_
    rintro early late ⟨before, -⟩ same
    exact absurd (Nat.eq_of_mul_eq_mul_right (by decide) same) before.ne
  exact ⟨entries, recorded, ascend, listed.mpr ascend⟩

end Spaced

end SsnConsole.CanisterHistory
