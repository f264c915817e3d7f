import SsnConsole.ChildAdoption
import SsnConsole.TextualHost

/-!
# The order of child reports

However the reported mappings are ordered and split into calls, the canisters
that end up tracked, their projects and the remaining orphans are the same: they
are determined by the links, and reporting them again changes nothing.
-/

namespace SsnConsole.Backend

open SsnConsole.AdoptionForest
open SsnConsole.MessageSlice

/-- A principal has a canister record. -/
def Stores.IsTracked (s : Stores) (principal : Principal) : Prop :=
  ∃ canisterId canister,
    s.canister.getCanister canisterId = some canister ∧ canister.principal = principal

/-- A principal has a canister record under a project. -/
def Stores.Tracks (s : Stores) (principal : Principal) (projectId : ProjectId) : Prop :=
  ∃ canisterId canister,
    s.canister.getCanister canisterId = some canister ∧ canister.principal = principal ∧
      s.canister.getCanisterProjectId canisterId = some projectId

/-- No principal has two records, no orphan is tracked, and no orphan's parent is. -/
structure Stores.TrackingIntegrity (s : Stores) : Prop where
  oneRecord :
    ∀ first second firstCanister secondCanister,
      s.canister.getCanister first = some firstCanister →
        s.canister.getCanister second = some secondCanister →
          firstCanister.principal = secondCanister.principal → first = second
  orphanUntracked : ∀ child parent, s.IsOrphan child parent → ¬s.IsTracked child
  parentUntracked : ∀ child parent, s.IsOrphan child parent → ¬s.IsTracked parent

section Order

variable [Host]
variable {s after : Stores}

namespace Stores.CanistersIndexed

/-- A principal is tracked exactly if it has a project. -/
theorem isTracked_iff
    {principal : Principal}
    (indexed : s.CanistersIndexed) :
    s.IsTracked principal ↔ (s.trackedProject principal).isSome := by
  rw [indexed.isSome_trackedProject]
  constructor
  · rintro ⟨canisterId, canister, stored, rfl⟩
    exact indexed.indexed canisterId canister stored
  · intro resolves
    obtain ⟨canisterId, resolved⟩ := Option.isSome_iff_exists.mp resolves
    obtain ⟨canister, stored, own⟩ := indexed.found principal canisterId resolved
    exact ⟨canisterId, canister, stored, own⟩

/-- With one record each, records and index tell the same projects. -/
theorem tracks_iff
    {principal : Principal}
    {projectId : ProjectId}
    (indexed : s.CanistersIndexed)
    (oneRecordEach : s.OneRecordEach) :
    s.Tracks principal projectId ↔ s.trackedProject principal = some projectId := by
  constructor
  · rintro ⟨canisterId, canister, stored, rfl, placed⟩
    rw [trackedProject, oneRecordEach canisterId canister stored]
    exact placed
  · intro tracked
    obtain ⟨canisterId, resolved, placed⟩ := Option.bind_eq_some_iff.mp tracked
    obtain ⟨canister, stored, own⟩ := indexed.found principal canisterId resolved
    exact ⟨canisterId, canister, stored, own, placed⟩

/-- Intact stores are settled by their own orphans. -/
theorem tracking_of_integrity
    (indexed : s.CanistersIndexed)
    (intact : s.TrackingIntegrity) :
    s.Tracking s.trackedProject s.IsOrphan [] where
  indexed := indexed
  oneRecordEach := by
    intro canisterId canister stored
    have resolves := indexed.indexed canisterId canister stored
    obtain ⟨other, resolved⟩ := Option.isSome_iff_exists.mp resolves
    obtain ⟨otherCanister, otherStored, own⟩ := indexed.found _ other resolved
    rw [resolved, intact.oneRecord other canisterId otherCanister canister otherStored stored own]
  settling := by
    refine Settled.start ?_ ?_
    · intro child parent orphaned
      have untracked := intact.orphanUntracked child parent orphaned
      rw [indexed.isTracked_iff] at untracked
      exact Option.not_isSome_iff_eq_none.mp untracked
    · intro child parent orphaned
      have untracked := intact.parentUntracked child parent orphaned
      rw [indexed.isTracked_iff] at untracked
      exact Option.not_isSome_iff_eq_none.mp untracked

end Stores.CanistersIndexed

/-- What is settled is intact. -/
theorem Stores.Tracking.integrity
    {own : Principal → Option ProjectId}
    {link : Principal → Principal → Prop}
    (tracking : s.Tracking own link []) :
    s.TrackingIntegrity where
  oneRecord := by
    intro first second firstCanister secondCanister firstStored secondStored same
    have firstFound := tracking.oneRecordEach first firstCanister firstStored
    have secondFound := tracking.oneRecordEach second secondCanister secondStored
    rw [same] at firstFound
    exact Option.some.inj (firstFound.symm.trans secondFound)
  orphanUntracked := by
    intro child parent orphaned
    rw [tracking.indexed.isTracked_iff, tracking.settling.unlabelled child parent orphaned]
    decide
  parentUntracked := by
    intro child parent orphaned
    rw [tracking.indexed.isTracked_iff]
    rcases tracking.settling.waiting child parent orphaned with unlabelled | isPending
    · rw [unlabelled]
      decide
    · cases isPending

/-- A child and its parent are reported together, or stored as an orphan before. -/
def Stores.ReportedLink (s : Stores) (mappings : List Dto.ParentChildMapping)
    (child parent : Principal) : Prop :=
  s.IsOrphan child parent ∨
    ∃ mapping ∈ mappings,
      child = mapping.childCanisterId ∧ parent = mapping.parentCanisterId

/-- The stores after `add_child_canisters` calls in succession. -/
def Stores.afterReports (s : Stores) (calls : List (List Dto.ParentChildMapping)) : Stores :=
  calls.foldl (fun s mappings => (outcome (CanisterService.addChildCanisters mappings) s).2) s

/-- Only the sequence of all mappings matters, not how it is split into calls. -/
theorem Stores.afterReports_eq
    (calls : List (List Dto.ParentChildMapping)) :
    s.afterReports calls = calls.flatten.foldl CanisterService.addChildCanister s := by
  induction calls generalizing s with
  | nil =>
      rfl
  | cons mappings rest inductionHypothesis =>
      rw [List.flatten_cons, List.foldl_append]
      exact inductionHypothesis

/-- A list of mappings adds its links one by one. -/
private theorem tracking_foldl_addChildCanister
    {own : Principal → Option ProjectId}
    {link : Principal → Principal → Prop}
    {mappings : List Dto.ParentChildMapping}
    (tracking : s.Tracking own link [])
    (oneParent :
      ∀ child first second,
        (link child first ∨
            ∃ mapping ∈ mappings,
              child = mapping.childCanisterId ∧ first = mapping.parentCanisterId) →
          (link child second ∨
            ∃ mapping ∈ mappings,
              child = mapping.childCanisterId ∧ second = mapping.parentCanisterId) →
            first = second) :
    (mappings.foldl CanisterService.addChildCanister s).Tracking own
      (fun child parent =>
        link child parent ∨
          ∃ mapping ∈ mappings,
            child = mapping.childCanisterId ∧ parent = mapping.parentCanisterId)
      [] := by
  induction mappings generalizing s link with
  | nil =>
      simpa using tracking
  | cons mapping rest inductionHypothesis =>
      have added :=
        tracking.addChildCanister fun parent orphaned =>
          oneParent mapping.childCanisterId parent mapping.parentCanisterId
            (.inl (tracking.settling.linked _ _ orphaned))
            (.inr ⟨mapping, List.mem_cons_self, rfl, rfl⟩)
      have sameLinks :
          ∀ child parent,
            ((link child parent ∨
                  (child = mapping.childCanisterId ∧ parent = mapping.parentCanisterId)) ∨
                ∃ other ∈ rest,
                  child = other.childCanisterId ∧ parent = other.parentCanisterId) ↔
              (link child parent ∨
                ∃ other ∈ mapping :: rest,
                  child = other.childCanisterId ∧ parent = other.parentCanisterId) := by
        intro child parent
        simp only [List.mem_cons, exists_eq_or_imp, or_assoc]
      have ended :=
        inductionHypothesis added fun child first second firstLinked secondLinked =>
          oneParent child first second ((sameLinks child first).mp firstLinked)
            ((sameLinks child second).mp secondLinked)
      simp only [sameLinks] at ended
      exact ended

/-- What the links determine: who is tracked, under which project, and who stays an orphan. -/
structure Stores.AdoptsAlong (s : Stores) (link : Principal → Principal → Prop)
    (after : Stores) : Prop where
  /-- Tracked is whoever a chain of links leads to a tracked canister. -/
  tracked :
    ∀ principal,
      after.IsTracked principal ↔
        ∃ ancestor, Relation.ReflTransGen link principal ancestor ∧ s.IsTracked ancestor
  /-- The project is that of the first tracked canister on the chain. -/
  project :
    ∀ principal projectId,
      after.Tracks principal projectId ↔
        ∃ ancestor,
          Leads s.trackedProject link principal ancestor ∧ s.Tracks ancestor projectId
  /-- Every other linked child is an orphan of its parent. -/
  orphan :
    ∀ child parent,
      after.IsOrphan child parent ↔ link child parent ∧ ¬after.IsTracked child

/-- Settled stores have adopted along their links. -/
private theorem Stores.Tracking.adoptsAlong
    {link : Principal → Principal → Prop}
    (tracking : after.Tracking s.trackedProject link [])
    (indexed : s.CanistersIndexed)
    (oneRecordEach : s.OneRecordEach)
    (oneParent : ∀ child first second, link child first → link child second → first = second) :
    s.AdoptsAlong link after := by
  have labels :
      ∀ principal projectId,
        after.trackedProject principal = some projectId ↔
          Inherits s.trackedProject link principal projectId :=
    fun _ _ => Settled.labels_iff tracking.settling oneParent
  have inherits :
      ∀ principal,
        after.IsTracked principal ↔ ∃ projectId, Inherits s.trackedProject link principal projectId := by
    intro principal
    rw [tracking.indexed.isTracked_iff, Option.isSome_iff_exists]
    exact exists_congr fun projectId => labels principal projectId
  refine ⟨?_, ?_, ?_⟩
  · intro principal
    rw [inherits, exists_inherits_iff]
    exact exists_congr fun ancestor => and_congr_right fun _ => indexed.isTracked_iff.symm
  · intro principal projectId
    rw [tracking.indexed.tracks_iff tracking.oneRecordEach, labels]
    exact
      exists_congr fun ancestor =>
        and_congr_right fun _ => (indexed.tracks_iff oneRecordEach).symm
  · intro child parent
    rw [Settled.orphan_iff tracking.settling oneParent, inherits, not_exists]

/-- A mapping whose child is tracked or waits changes nothing. -/
private theorem addChildCanister_of_known
    {own : Principal → Option ProjectId}
    {link : Principal → Principal → Prop}
    {mapping : Dto.ParentChildMapping}
    (tracking : s.Tracking own link [])
    (linked : link mapping.childCanisterId mapping.parentCanisterId) :
    CanisterService.addChildCanister s mapping = s := by
  have known :
      (s.canister.getCanisterByPrincipal mapping.childCanisterId).isSome = true ∨
        (s.orphanedCanister.getParentByChild mapping.childCanisterId).isSome = true := by
    rw [← tracking.indexed.isSome_trackedProject]
    cases owned : own mapping.childCanisterId with
    | some projectId =>
        left
        rw [tracking.settling.keeps _ projectId owned]
        rfl
    | none =>
        refine (tracking.settling.resolved _ _ owned linked).imp_right ?_
        intro orphaned
        exact Option.isSome_of_eq_some orphaned
  unfold CanisterService.addChildCanister
  exact if_pos (Bool.or_eq_true_iff.mpr known)

/-- Known mappings change nothing. -/
private theorem foldl_addChildCanister_of_known
    {own : Principal → Option ProjectId}
    {link : Principal → Principal → Prop}
    {mappings : List Dto.ParentChildMapping}
    (tracking : s.Tracking own link [])
    (linked :
      ∀ mapping ∈ mappings, link mapping.childCanisterId mapping.parentCanisterId) :
    mappings.foldl CanisterService.addChildCanister s = s := by
  induction mappings with
  | nil =>
      rfl
  | cons mapping rest inductionHypothesis =>
      rw [List.foldl_cons, addChildCanister_of_known tracking (linked mapping List.mem_cons_self)]
      exact inductionHypothesis fun other later => linked other (List.mem_cons_of_mem _ later)

/-- In any order and in any calls, the reports settle the same links. -/
private theorem tracking_afterReports
    {mappings : List Dto.ParentChildMapping}
    {calls : List (List Dto.ParentChildMapping)}
    (start : s.Tracking s.trackedProject s.IsOrphan [])
    (oneParent :
      ∀ child first second,
        s.ReportedLink mappings child first →
          s.ReportedLink mappings child second → first = second)
    (permuted : calls.flatten.Perm mappings) :
    (s.afterReports calls).Tracking s.trackedProject (s.ReportedLink mappings) [] := by
  have sameLinks :
      ∀ child parent,
        (s.IsOrphan child parent ∨
            ∃ mapping ∈ calls.flatten,
              child = mapping.childCanisterId ∧ parent = mapping.parentCanisterId) ↔
          s.ReportedLink mappings child parent := by
    intro child parent
    simp only [Stores.ReportedLink, permuted.mem_iff]
  have folded :=
    tracking_foldl_addChildCanister start fun child first second firstLinked secondLinked =>
      oneParent child first second ((sameLinks child first).mp firstLinked)
        ((sameLinks child second).mp secondLinked)
  simp only [sameLinks] at folded
  rw [Stores.afterReports_eq]
  exact folded

/-- However reports are ordered and split, the links determine what they lead to; reporting
again changes nothing, and the inner loop always ends. -/
theorem addChildCanisters_order_independent
    {mappings : List Dto.ParentChildMapping}
    {calls : List (List Dto.ParentChildMapping)}
    (indexed : s.CanistersIndexed)
    (intact : s.TrackingIntegrity)
    (oneParent :
      ∀ child first second,
        s.ReportedLink mappings child first →
          s.ReportedLink mappings child second → first = second)
    (sameMappings : calls.flatten.Perm mappings) :
    s.AdoptsAlong (s.ReportedLink mappings) (s.afterReports calls) ∧
      (∀ otherCalls : List (List Dto.ParentChildMapping),
        otherCalls.flatten.Perm mappings →
          (∀ principal projectId,
              (s.afterReports otherCalls).Tracks principal projectId ↔
                (s.afterReports calls).Tracks principal projectId) ∧
            ∀ child parent,
              (s.afterReports otherCalls).IsOrphan child parent ↔
                (s.afterReports calls).IsOrphan child parent) ∧
        (∀ againCalls : List (List Dto.ParentChildMapping),
          againCalls.flatten.Perm mappings →
            (s.afterReports calls).afterReports againCalls = s.afterReports calls) ∧
          ∀ (t : Stores) (projectId : ProjectId) (child : Principal),
            CanisterService.Drains projectId [child] t
              (CanisterService.adoptDescendants projectId
                (t.orphanedCanister.parentChildIndex.size + 1) [child] t) := by
  have start := indexed.tracking_of_integrity intact
  have adopts :
      ∀ someCalls : List (List Dto.ParentChildMapping),
        someCalls.flatten.Perm mappings →
          s.AdoptsAlong (s.ReportedLink mappings) (s.afterReports someCalls) :=
    fun _ permuted =>
      (tracking_afterReports start oneParent permuted).adoptsAlong indexed start.oneRecordEach
        oneParent
  refine ⟨adopts calls sameMappings, ?_, ?_, ?_⟩
  · intro otherCalls otherPermuted
    refine ⟨?_, ?_⟩
    · intro principal projectId
      rw [(adopts otherCalls otherPermuted).project, (adopts calls sameMappings).project]
    · intro child parent
      rw [(adopts otherCalls otherPermuted).orphan, (adopts calls sameMappings).orphan,
        (adopts otherCalls otherPermuted).tracked, (adopts calls sameMappings).tracked]
  · intro againCalls againPermuted
    rw [Stores.afterReports_eq]
    refine
      foldl_addChildCanister_of_known (tracking_afterReports start oneParent sameMappings) ?_
    intro mapping again
    exact .inr ⟨mapping, againPermuted.mem_iff.mp again, rfl, rfl⟩
  · intro t projectId child
    exact CanisterService.drains_adoptDescendants projectId (Nat.add_comm _ _).le

end Order

section Reports

open TextualHost

attribute [local instance] host

/-- A single tracked canister, and no orphans. -/
def reportedStores : Stores :=
  CanisterService.recordCanister ⟨7⟩ Stores.empty (principal 1)

/-- The reports: a child and a grandchild of the tracked canister, and a cycle. -/
def reportedMappings : List Dto.ParentChildMapping :=
  [⟨principal 1, principal 2⟩, ⟨principal 2, principal 3⟩, ⟨principal 5, principal 4⟩,
    ⟨principal 4, principal 5⟩]

/-- The same reports backwards in two calls, the grandchild's before the child's. -/
def reportedCalls : List (List Dto.ParentChildMapping) :=
  [[⟨principal 4, principal 5⟩],
    [⟨principal 5, principal 4⟩, ⟨principal 2, principal 3⟩, ⟨principal 1, principal 2⟩]]

/-- Nobody waits before the reports. -/
private theorem not_isOrphan_reportedStores
    {child parent : Principal} :
    ¬reportedStores.IsOrphan child parent := by
  simp [Stores.IsOrphan, reportedStores, CanisterService.recordCanister,
    CanisterRepository.createCanister, drawing, Stores.empty, OrphanedCanisterState.empty,
    OrphanedCanisterState.getParentByChild]

/-- The single record is intact. -/
private theorem reportedStores_integrity : reportedStores.TrackingIntegrity := by
  have noRecords : Stores.empty.OneRecordEach := by
    intro canisterId canister stored
    simp [Stores.empty, CanisterState.empty, CanisterState.getCanister] at stored
  have tracking :
      reportedStores.Tracking reportedStores.trackedProject reportedStores.IsOrphan [] :=
    ⟨Stores.CanistersIndexed.empty.recordCanister,
      noRecords.recordCanister (by simp [Stores.empty, CanisterState.empty,
        CanisterState.getCanisterByPrincipal]),
      Settled.start (fun _ _ orphaned => (not_isOrphan_reportedStores orphaned).elim)
        (fun _ _ orphaned => (not_isOrphan_reportedStores orphaned).elim)⟩
  exact tracking.integrity

/-- The reports of the example are adopted along their links. -/
theorem reportedCalls_adoptAlong :
    reportedStores.AdoptsAlong (reportedStores.ReportedLink reportedMappings)
      (reportedStores.afterReports reportedCalls) := by
  have oneParent :
      ∀ first ∈ reportedMappings, ∀ second ∈ reportedMappings,
        first.childCanisterId = second.childCanisterId →
          first.parentCanisterId = second.parentCanisterId := by
    decide
  have backwards : reportedCalls.flatten.Perm reportedMappings :=
    List.reverse_perm reportedMappings
  refine
    (addChildCanisters_order_independent Stores.CanistersIndexed.empty.recordCanister
      reportedStores_integrity ?_ backwards).1
  rintro child first second (orphaned | ⟨firstMapping, firstReported, rfl, rfl⟩)
    (orphaned | ⟨secondMapping, secondReported, same, rfl⟩)
  · exact (not_isOrphan_reportedStores orphaned).elim
  · exact (not_isOrphan_reportedStores orphaned).elim
  · exact (not_isOrphan_reportedStores orphaned).elim
  · exact oneParent firstMapping firstReported secondMapping secondReported same

end Reports

end SsnConsole.Backend
