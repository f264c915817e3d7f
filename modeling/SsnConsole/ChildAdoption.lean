import SsnConsole.CanisterTracking

/-!
# Adopting child canisters

`add_child_canisters` tracks a child whose parent is tracked, together with the
orphans that wait for it, and keeps any other child as an orphan.  Its inner loop
ends on every input, and what it computes is the inheritance of projects along
the reported links.
-/

namespace SsnConsole.Backend

open SsnConsole.AdoptionForest
open SsnConsole.StableIndex

variable [Host]

namespace CanisterService

/-- The loop `while let Some(parent) = stack.pop()`, run from a stack to its end. -/
inductive Drains (projectId : ProjectId) : List Principal → Stores → Stores → Prop
  | done
      {s : Stores} :
      Drains projectId [] s s
  | pop
      {parent : Principal}
      {stack : List Principal}
      {s after : Stores}
      (rest :
        Drains projectId ((s.orphanedCanister.listChildrenByParent parent).reverse ++ stack)
          ((s.orphanedCanister.listChildrenByParent parent).foldl
            (adoptOrphan projectId parent) s)
          after) :
      Drains projectId (parent :: stack) s after

section Termination

variable (projectId : ProjectId) {parent : Principal} {s : Stores}

/-- Adopting listed orphans removes one row of the orphan index for each. -/
private theorem size_foldl_adoptOrphan
    {children : List Principal}
    (distinct : children.Nodup)
    (listed :
      ∀ child ∈ children, (parent, child) ∈ s.orphanedCanister.parentChildIndex) :
    (children.foldl (adoptOrphan projectId parent) s).orphanedCanister.parentChildIndex.size +
        children.length =
      s.orphanedCanister.parentChildIndex.size := by
  induction children generalizing s with
  | nil =>
      rfl
  | cons child rest inductionHypothesis =>
      obtain ⟨notLater, restDistinct⟩ := List.nodup_cons.mp distinct
      have restListed :
          ∀ other ∈ rest,
            (parent, other) ∈
              (adoptOrphan projectId parent s child).orphanedCanister.parentChildIndex := by
        intro other later
        refine mem_erase_row.mpr ⟨listed other (List.mem_cons_of_mem _ later), ?_⟩
        intro same
        cases same
        exact notLater later
      have removed :
          (s.orphanedCanister.parentChildIndex.erase (parent, child)).size + 1 =
            s.orphanedCanister.parentChildIndex.size :=
        size_erase_row (listed child List.mem_cons_self)
      have restRemoved := inductionHypothesis restDistinct restListed
      have adopted :
          (adoptOrphan projectId parent s child).orphanedCanister.parentChildIndex =
            s.orphanedCanister.parentChildIndex.erase (parent, child) := rfl
      rw [adopted] at restRemoved
      rw [List.foldl_cons, List.length_cons]
      omega

/-- With a round for each stacked principal and each orphan row, the loop ends. -/
theorem drains_adoptDescendants
    {rounds : Nat}
    {stack : List Principal}
    (enough : stack.length + s.orphanedCanister.parentChildIndex.size ≤ rounds) :
    Drains projectId stack s (adoptDescendants projectId rounds stack s) := by
  induction rounds generalizing stack s with
  | zero =>
      have empty : stack = [] := List.length_eq_zero_iff.mp (by omega)
      subst empty
      exact .done
  | succ rounds inductionHypothesis =>
      cases stack with
      | nil =>
          exact .done
      | cons parent stack =>
          have removed :=
            size_foldl_adoptOrphan projectId
              (nodup_prefixRows s.orphanedCanister.parentChildIndex parent)
              fun child member => mem_prefixRows.mp member
          have listed :
              prefixRows s.orphanedCanister.parentChildIndex parent =
                s.orphanedCanister.listChildrenByParent parent := rfl
          rw [listed] at removed
          refine .pop (inductionHypothesis ?_)
          rw [List.length_append, List.length_reverse]
          rw [List.length_cons] at enough
          omega

/-- The loop that follows the recording of a child ends. -/
theorem drains_child
    (s : Stores)
    (child : Principal) :
    Drains projectId [child] (recordCanister projectId s child)
      (adoptDescendants projectId (s.orphanedCanister.parentChildIndex.size + 1) [child]
        (recordCanister projectId s child)) :=
  drains_adoptDescendants projectId (Nat.add_comm 1 _).le

end Termination

end CanisterService

/-- Every record is the one that its principal leads to: no principal has two records. -/
def Stores.OneRecordEach (s : Stores) : Prop :=
  ∀ canisterId canister,
    s.canister.getCanister canisterId = some canister →
      s.canister.getCanisterByPrincipal canister.principal = some canisterId

/-- The stores on the way to the projects that the links pass on. -/
structure Stores.Tracking
    (own : Principal → Option ProjectId)
    (link : Principal → Principal → Prop)
    (pending : List Principal)
    (s : Stores) : Prop where
  indexed : s.CanistersIndexed
  oneRecordEach : s.OneRecordEach
  settling : Settling own link pending s.trackedProject s.IsOrphan

section Adoption

variable {own : Principal → Option ProjectId} {link : Principal → Principal → Prop}
variable {pending : List Principal} {s after : Stores}
variable {projectId : ProjectId} {parent child : Principal}

/-- An untracked principal may be recorded without giving anyone two records. -/
theorem Stores.OneRecordEach.recordCanister
    {principal : Principal}
    (oneRecordEach : s.OneRecordEach)
    (untracked : s.canister.getCanisterByPrincipal principal = none) :
    (CanisterService.recordCanister projectId s principal).OneRecordEach := by
  intro canisterId canister stored
  rw [CanisterService.getCanisterByPrincipal_recordCanister]
  rw [CanisterService.getCanister_recordCanister] at stored
  split at stored
  · rename_i same
    cases stored
    have itself : (CanisterService.newCanister principal).principal = principal := rfl
    rw [if_pos itself, same]
  · have found := oneRecordEach canisterId canister stored
    have different : canister.principal ≠ principal := by
      intro same
      rw [same, untracked] at found
      cases found
    rw [if_neg different]
    exact found

/-- Who is not tracked has no record. -/
theorem Stores.CanistersIndexed.getCanisterByPrincipal_eq_none
    {principal : Principal}
    (indexed : s.CanistersIndexed)
    (untracked : s.trackedProject principal = none) :
    s.canister.getCanisterByPrincipal principal = none := by
  have isSome := indexed.isSome_trackedProject principal
  rw [untracked] at isSome
  exact Option.isNone_iff_eq_none.mp (by simpa using isSome.symm)

/-- The orphans after one is adopted. -/
theorem CanisterService.isOrphan_adoptOrphan
    {other waitsFor : Principal} :
    (CanisterService.adoptOrphan projectId parent s child).IsOrphan other waitsFor ↔
      s.IsOrphan other waitsFor ∧ other ≠ child := by
  have erased :
      (CanisterService.adoptOrphan projectId parent s child).orphanedCanister.getParentByChild
          other =
        if other = child then none else s.orphanedCanister.getParentByChild other :=
    getElem?_erase_entry
  unfold Stores.IsOrphan
  rw [erased]
  by_cases same : other = child
  · simp [same]
  · simp [same]

/-- Adopting the orphans of one parent keeps the indexes in agreement. -/
private theorem canistersIndexed_foldl_adoptOrphan
    {children : List Principal}
    (indexed : s.CanistersIndexed)
    (distinct : children.Nodup)
    (orphaned : ∀ child ∈ children, s.IsOrphan child parent) :
    (children.foldl (CanisterService.adoptOrphan projectId parent) s).CanistersIndexed := by
  induction children generalizing s with
  | nil =>
      exact indexed
  | cons child rest inductionHypothesis =>
      obtain ⟨notLater, restDistinct⟩ := List.nodup_cons.mp distinct
      refine
        inductionHypothesis (indexed.adoptOrphan (orphaned child List.mem_cons_self))
          restDistinct ?_
      intro other later
      refine
        CanisterService.isOrphan_adoptOrphan.mpr
          ⟨orphaned other (List.mem_cons_of_mem _ later), ?_⟩
      rintro rfl
      exact notLater later

/-- The loop keeps the indexes in agreement, whatever it starts from. -/
theorem CanisterService.Drains.canistersIndexed
    {stack : List Principal}
    (drains : CanisterService.Drains projectId stack s after)
    (indexed : s.CanistersIndexed) :
    after.CanistersIndexed := by
  induction drains with
  | done =>
      exact indexed
  | @pop parent stack s after rest inductionHypothesis =>
      refine
        inductionHypothesis
          (canistersIndexed_foldl_adoptOrphan indexed (nodup_prefixRows _ parent) ?_)
      intro child listed
      exact (indexed.orphans child parent).mpr (mem_prefixRows.mp listed)

/-- A reported mapping keeps the indexes in agreement. -/
theorem Stores.CanistersIndexed.addChildCanister
    (mapping : Dto.ParentChildMapping)
    (indexed : s.CanistersIndexed) :
    (CanisterService.addChildCanister s mapping).CanistersIndexed := by
  unfold CanisterService.addChildCanister
  dsimp only
  split
  · exact indexed
  · rename_i unknown
    split
    · rename_i projectId _
      exact (CanisterService.drains_child projectId s _).canistersIndexed indexed.recordCanister
    · refine indexed.createOrphan ?_
      simp only [Bool.or_eq_true, not_or, Bool.not_eq_true, Option.isSome_eq_false_iff,
        Option.isNone_iff_eq_none] at unknown
      exact unknown.2

/-- Adopting an orphan of a tracked principal. -/
theorem Stores.Tracking.adoptOrphan
    (tracking : s.Tracking own link pending)
    (labelled : s.trackedProject parent = some projectId)
    (orphaned : s.IsOrphan child parent) :
    (CanisterService.adoptOrphan projectId parent s child).Tracking own link
      (child :: pending) where
  indexed := tracking.indexed.adoptOrphan orphaned
  oneRecordEach := by
    have untracked := tracking.settling.unlabelled child parent orphaned
    exact
      tracking.oneRecordEach.recordCanister
        (tracking.indexed.getCanisterByPrincipal_eq_none untracked)
  settling := by
    exact
      tracking.settling.adopt orphaned labelled
        tracking.indexed.trackedProject_recordCanister
        fun _ _ => CanisterService.isOrphan_adoptOrphan

/-- Adopting all orphans of a tracked principal leaves it none. -/
private theorem tracking_foldl_adoptOrphan
    {children : List Principal}
    (tracking : s.Tracking own link pending)
    (labelled : ∀ waiting ∈ pending, s.trackedProject waiting = some projectId)
    (parentPending : parent ∈ pending)
    (distinct : children.Nodup)
    (listed : ∀ child, s.IsOrphan child parent ↔ child ∈ children)
    (ended : children.foldl (CanisterService.adoptOrphan projectId parent) s = after) :
    after.Tracking own link (children.reverse ++ pending) ∧
      (∀ waiting ∈ children.reverse ++ pending, after.trackedProject waiting = some projectId) ∧
        ∀ child, ¬after.IsOrphan child parent := by
  induction children generalizing s pending with
  | nil =>
      subst ended
      refine ⟨tracking, labelled, ?_⟩
      intro child orphaned
      cases (listed child).mp orphaned
  | cons child rest inductionHypothesis =>
      obtain ⟨notLater, restDistinct⟩ := List.nodup_cons.mp distinct
      have orphaned := (listed child).mpr List.mem_cons_self
      have adopted := tracking.adoptOrphan (labelled parent parentPending) orphaned
      have projects :
          ∀ other,
            (CanisterService.adoptOrphan projectId parent s child).trackedProject other =
              if other = child then some projectId else s.trackedProject other :=
        tracking.indexed.trackedProject_recordCanister
      have nowLabelled :
          ∀ waiting ∈ child :: pending,
            (CanisterService.adoptOrphan projectId parent s child).trackedProject waiting =
              some projectId := by
        intro waiting isPending
        rw [projects]
        rcases List.mem_cons.mp isPending with rfl | before
        · exact if_pos rfl
        · rw [labelled waiting before]
          exact ite_self _
      have restListed :
          ∀ other,
            (CanisterService.adoptOrphan projectId parent s child).IsOrphan other parent ↔
              other ∈ rest := by
        intro other
        rw [CanisterService.isOrphan_adoptOrphan, listed, List.mem_cons]
        constructor
        · rintro ⟨rfl | later, different⟩
          · exact (different rfl).elim
          · exact later
        · intro later
          refine ⟨.inr later, ?_⟩
          rintro rfl
          exact notLater later
      have rest :=
        inductionHypothesis adopted nowLabelled (List.mem_cons_of_mem _ parentPending)
          restDistinct restListed ended
      rw [List.reverse_cons, List.append_assoc]
      exact rest

/-- Draining a stack of tracked principals leaves nobody pending. -/
theorem Stores.Tracking.drain
    {stack : List Principal}
    (tracking : s.Tracking own link stack)
    (labelled : ∀ waiting ∈ stack, s.trackedProject waiting = some projectId)
    (drains : CanisterService.Drains projectId stack s after) :
    after.Tracking own link [] := by
  induction drains with
  | done =>
      exact tracking
  | @pop parent stack s after rest inductionHypothesis =>
      have listed :
          ∀ child,
            s.IsOrphan child parent ↔ child ∈ s.orphanedCanister.listChildrenByParent parent :=
        fun child => (tracking.indexed.orphans child parent).trans mem_prefixRows.symm
      obtain ⟨adopted, nowLabelled, childless⟩ :=
        tracking_foldl_adoptOrphan tracking labelled List.mem_cons_self
          (nodup_prefixRows _ parent) listed rfl
      refine inductionHypothesis ⟨adopted.indexed, adopted.oneRecordEach, ?_⟩ ?_
      · refine (adopted.settling.weaken ?_).done childless
        intro waiting isPending
        simp only [List.mem_append, List.mem_cons] at isPending ⊢
        tauto
      · intro waiting isPending
        refine nowLabelled waiting ?_
        simp only [List.mem_append, List.mem_cons] at isPending ⊢
        tauto

/-- A child that is tracked, or waits for the same parent, only adds its link. -/
theorem Stores.Tracking.known
    (tracking : s.Tracking own link [])
    (isKnown : (s.trackedProject child).isSome ∨ s.IsOrphan child parent) :
    s.Tracking own
      (fun other waitsFor => link other waitsFor ∨ (other = child ∧ waitsFor = parent)) [] :=
  ⟨tracking.indexed, tracking.oneRecordEach,
    tracking.settling.known (fun _ _ => Iff.rfl) isKnown⟩

/-- A new child of a tracked parent is recorded, and all that wait for it are adopted. -/
theorem Stores.Tracking.recordChild
    (tracking : s.Tracking own link [])
    (untracked : s.canister.getCanisterByPrincipal child = none)
    (unlabelled : s.trackedProject child = none)
    (free : s.orphanedCanister.getParentByChild child = none)
    (parentTracked : s.trackedProject parent = some projectId) :
    (CanisterService.adoptDescendants projectId
        (s.orphanedCanister.parentChildIndex.size + 1) [child]
        (CanisterService.recordCanister projectId s child)).Tracking own
      (fun other waitsFor => link other waitsFor ∨ (other = child ∧ waitsFor = parent)) [] := by
  have notWaiting : ∀ parent, ¬s.IsOrphan child parent := by
    intro parent orphaned
    rw [Stores.IsOrphan, free] at orphaned
    cases orphaned
  have recorded :
      (CanisterService.recordCanister projectId s child).Tracking own
        (fun other waitsFor => link other waitsFor ∨ (other = child ∧ waitsFor = parent))
        [child] :=
    ⟨tracking.indexed.recordCanister, tracking.oneRecordEach.recordCanister untracked,
      tracking.settling.join (fun _ _ => Iff.rfl) unlabelled notWaiting parentTracked
        tracking.indexed.trackedProject_recordCanister⟩
  refine recorded.drain ?_ (CanisterService.drains_child projectId s _)
  intro waiting isPending
  rw [tracking.indexed.trackedProject_recordCanister, List.mem_singleton.mp isPending]
  exact if_pos rfl

/-- A new child of an untracked parent waits for it. -/
theorem Stores.Tracking.createOrphan
    (tracking : s.Tracking own link [])
    (unlabelled : s.trackedProject child = none)
    (free : s.orphanedCanister.getParentByChild child = none)
    (parentUntracked : s.trackedProject parent = none) :
    Stores.Tracking own
      (fun other waitsFor => link other waitsFor ∨ (other = child ∧ waitsFor = parent)) []
      { s with orphanedCanister := s.orphanedCanister.createOrphanedCanister child parent } := by
  refine
    ⟨tracking.indexed.createOrphan free, tracking.oneRecordEach,
      tracking.settling.wait (fun _ _ => Iff.rfl) unlabelled parentUntracked ?_⟩
  intro other waitsFor
  have inserted :
      (s.orphanedCanister.createOrphanedCanister child parent).getParentByChild other =
        if other = child then some parent else s.orphanedCanister.getParentByChild other :=
    getElem?_insert_entry
  unfold Stores.IsOrphan
  rw [inserted]
  by_cases same : other = child
  · subst same
    simp [free, eq_comm]
  · simp [same]

/-- One mapping adds its link, whether its child is known, waits or is tracked. -/
theorem Stores.Tracking.addChildCanister
    {mapping : Dto.ParentChildMapping}
    (tracking : s.Tracking own link [])
    (sameParent :
      ∀ parent,
        s.IsOrphan mapping.childCanisterId parent → parent = mapping.parentCanisterId) :
    (CanisterService.addChildCanister s mapping).Tracking own
      (fun child parent =>
        link child parent ∨
          (child = mapping.childCanisterId ∧ parent = mapping.parentCanisterId))
      [] := by
  unfold CanisterService.addChildCanister
  dsimp only
  split
  · rename_i known
    apply tracking.known
    rcases Bool.or_eq_true_iff.mp known with isTracked | waits
    · left
      rw [tracking.indexed.isSome_trackedProject]
      exact isTracked
    · right
      obtain ⟨parent, orphaned⟩ := Option.isSome_iff_exists.mp waits
      rw [← sameParent parent orphaned]
      exact orphaned
  · rename_i unknown
    simp only [Bool.or_eq_true, not_or, Bool.not_eq_true, Option.isSome_eq_false_iff,
      Option.isNone_iff_eq_none] at unknown
    obtain ⟨untracked, free⟩ := unknown
    have unlabelled : s.trackedProject mapping.childCanisterId = none := by
      unfold Stores.trackedProject
      rw [untracked]
      rfl
    split
    · rename_i projectId parentTracked
      exact tracking.recordChild untracked unlabelled free parentTracked
    · rename_i parentUntracked
      exact tracking.createOrphan unlabelled free parentUntracked

end Adoption

end SsnConsole.Backend
