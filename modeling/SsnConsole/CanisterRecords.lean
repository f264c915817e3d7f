import SsnConsole.EndpointRuns
import SsnConsole.MaintainedRuns
import SsnConsole.TextualHost

/-!
# The records of canisters

Five maps are written by hand whenever a canister is recorded, renamed or removed.
A record is filed under its project in one of two indexes, and whether it has been
removed says in which.
-/

namespace SsnConsole.Backend

open SsnConsole.MessageRun
open SsnConsole.MessageSlice
open SsnConsole.StableIndex

section Filing

variable [Host] {s after : Stores}

/-- The records are filed under their projects by whether they have been removed. -/
structure Stores.CanistersFiled (s : Stores) : Prop where
  known :
    ∀ canisterId,
      (s.canister.getCanisterProjectId canisterId).isSome =
        (s.canister.getCanister canisterId).isSome
  active :
    ∀ projectId canisterId, (projectId, canisterId) ∈ s.canister.activeProjectCanisterIndex ↔
      s.canister.getCanisterProjectId canisterId = some projectId ∧
        ∃ canister, s.canister.getCanister canisterId = some canister ∧
          canister.deletedAt = none
  deleted :
    ∀ projectId canisterId, (projectId, canisterId) ∈ s.canister.deletedProjectCanisterIndex ↔
      s.canister.getCanisterProjectId canisterId = some projectId ∧
        ∃ canister, s.canister.getCanister canisterId = some canister ∧
          canister.deletedAt.isSome
  /-- Identifiers whose turn is still to come name no record. -/
  fresh : ∀ index, s.drawn ≤ index → s.canister.getCanister ⟨Host.draw index⟩ = none

/-- Every record is still there, and one that was removed as it was removed. -/
def Stores.CanistersFollow (s after : Stores) : Prop :=
  ∀ canisterId canister, s.canister.getCanister canisterId = some canister →
    ∃ kept, after.canister.getCanister canisterId = some kept ∧
      ∀ deletedAt, canister.deletedAt = some deletedAt → kept.deletedAt = some deletedAt

omit [Host] in
/-- What follows what follows follows. -/
theorem Stores.CanistersFollow.trans
    {middle : Stores}
    (first : s.CanistersFollow middle)
    (second : middle.CanistersFollow after) :
    s.CanistersFollow after := by
  intro canisterId canister stored
  obtain ⟨between, found, sooner⟩ := first canisterId canister stored
  obtain ⟨kept, foundLater, later⟩ := second canisterId between found
  refine ⟨kept, foundLater, ?_⟩
  intro deletedAt removed
  exact later deletedAt (sooner deletedAt removed)

omit [Host] in
/-- Records that are as they were follow. -/
theorem Stores.CanistersFollow.of_same
    (same : ∀ canisterId,
      after.canister.getCanister canisterId = s.canister.getCanister canisterId) :
    s.CanistersFollow after := by
  intro canisterId canister stored
  exact ⟨canister, (same canisterId).trans stored, fun _ removed => removed⟩

/-- What a removal does to the canisters. -/
structure CanisterState.SoftDeleted (state removed : CanisterState) (projectId : ProjectId)
    (canisterId : CanisterId) (stored : Canister) (now : Nat) : Prop where
  found : state.getCanister canisterId = some stored
  row : (projectId, canisterId) ∈ state.activeProjectCanisterIndex
  record :
    ∀ other, removed.getCanister other =
      if other = canisterId then some { stored with deletedAt := some now }
      else state.getCanister other
  project : ∀ other, removed.getCanisterProjectId other = state.getCanisterProjectId other
  active :
    ∀ otherProject other, (otherProject, other) ∈ removed.activeProjectCanisterIndex ↔
      (otherProject, other) ∈ state.activeProjectCanisterIndex ∧
        (otherProject, other) ≠ (projectId, canisterId)
  deleted :
    ∀ otherProject other, (otherProject, other) ∈ removed.deletedProjectCanisterIndex ↔
      (otherProject, other) ∈ state.deletedProjectCanisterIndex ∨
        (otherProject, other) = (projectId, canisterId)

omit [Host] in
/-- A removal that succeeds finds the record active and marks it. -/
theorem CanisterState.softDeleted_of_softDeleteCanister
    {state removed : CanisterState}
    {projectId : ProjectId}
    {canisterId : CanisterId}
    {now : Nat}
    (accepted : state.softDeleteCanister projectId canisterId now = some removed) :
    ∃ stored, state.SoftDeleted removed projectId canisterId stored now := by
  obtain ⟨stored, found, row, rfl⟩ := CanisterState.softDeleteCanister_eq_some accepted
  exact
    ⟨stored,
      { found := found
        row := row
        record := fun _ => getElem?_insert_entry
        project := fun _ => rfl
        active := fun _ _ => mem_erase_row
        deleted := fun _ _ => mem_insert_row }⟩

omit [Host] in
/-- What holds of a record's removal can be read off the removal alone. -/
private theorem exists_removal
    {stored : Option Canister}
    {holds : Option Nat → Prop} :
    (∃ canister, stored = some canister ∧ holds canister.deletedAt) ↔
      ∃ deletedAt, stored.map Canister.deletedAt = some deletedAt ∧ holds deletedAt := by
  cases stored <;> simp

namespace Stores.CanistersFiled

/-- Nothing is recorded at first. -/
theorem empty : Stores.empty.CanistersFiled where
  known canisterId := by
    simp [Stores.empty, CanisterState.empty, CanisterState.getCanisterProjectId,
      CanisterState.getCanister]
  active projectId canisterId := by
    simp [Stores.empty, CanisterState.empty, CanisterState.getCanisterProjectId]
  deleted projectId canisterId := by
    simp [Stores.empty, CanisterState.empty, CanisterState.getCanisterProjectId]
  fresh index _ := by
    simp [Stores.empty, CanisterState.empty, CanisterState.getCanister]

/-- Records stay filed where neither their rows nor their removals change. -/
theorem of_records
    (filed : s.CanistersFiled)
    (records :
      ∀ canisterId,
        (after.canister.getCanister canisterId).map Canister.deletedAt =
          (s.canister.getCanister canisterId).map Canister.deletedAt)
    (rows :
      after.canister =
        { s.canister with
          canisters := after.canister.canisters
          principalCanisterIndex := after.canister.principalCanisterIndex })
    (drawn : s.drawn ≤ after.drawn) :
    after.CanistersFiled := by
  have known :
      ∀ canisterId,
        (after.canister.getCanister canisterId).isSome =
          (s.canister.getCanister canisterId).isSome := by
    intro canisterId
    have same := congrArg Option.isSome (records canisterId)
    rwa [Option.isSome_map, Option.isSome_map] at same
  have removal :
      ∀ canisterId (holds : Option Nat → Prop),
        (∃ canister, after.canister.getCanister canisterId = some canister ∧
            holds canister.deletedAt) ↔
          ∃ canister, s.canister.getCanister canisterId = some canister ∧
            holds canister.deletedAt := by
    intro canisterId holds
    rw [exists_removal, exists_removal, records]
  have projects :
      ∀ canisterId,
        after.canister.getCanisterProjectId canisterId =
          s.canister.getCanisterProjectId canisterId := by
    intro canisterId
    rw [rows]
    rfl
  constructor
  · intro canisterId
    rw [projects, known, filed.known]
  · intro projectId canisterId
    rw [projects, removal canisterId fun deletedAt => deletedAt = none, ← filed.active, rows]
  · intro projectId canisterId
    rw [projects, removal canisterId fun deletedAt => deletedAt.isSome = true,
      ← filed.deleted, rows]
  · intro index later
    have unknown : s.canister.getCanister ⟨Host.draw index⟩ = none :=
      filed.fresh index (drawn.trans later)
    have same := records ⟨Host.draw index⟩
    rw [unknown, Option.map_none, Option.map_eq_none_iff] at same
    exact same

/-- A new record is filed as active. -/
theorem recordCanister
    {projectId : ProjectId}
    {principal : Principal}
    (filed : s.CanistersFiled) :
    (CanisterService.recordCanister projectId s principal).CanistersFiled := by
  have unknown : s.canister.getCanister s.nextId = none := filed.fresh s.drawn (le_refl _)
  have unplaced : s.canister.getCanisterProjectId s.nextId = none := by
    have known := filed.known s.nextId
    rw [unknown] at known
    exact Option.not_isSome_iff_eq_none.mp (Bool.eq_false_iff.mp known)
  have rows :
      ∀ other canisterId,
        (other, canisterId) ∈
            (CanisterService.recordCanister projectId s
              principal).canister.activeProjectCanisterIndex ↔
          (other, canisterId) ∈ s.canister.activeProjectCanisterIndex ∨
            (other, canisterId) = (projectId, s.nextId) :=
    fun _ _ => mem_insert_row
  have sameDeleted :
      (CanisterService.recordCanister projectId s
          principal).canister.deletedProjectCanisterIndex =
        s.canister.deletedProjectCanisterIndex := rfl
  constructor
  · intro canisterId
    rw [CanisterService.getCanisterProjectId_recordCanister,
      CanisterService.getCanister_recordCanister]
    split
    · rfl
    · exact filed.known canisterId
  · intro other canisterId
    rw [rows, filed.active, CanisterService.getCanisterProjectId_recordCanister,
      CanisterService.getCanister_recordCanister]
    by_cases new : canisterId = s.nextId
    · subst new
      simp [unplaced, CanisterService.newCanister, eq_comm]
    · simp [new]
  · intro other canisterId
    rw [sameDeleted, filed.deleted, CanisterService.getCanisterProjectId_recordCanister,
      CanisterService.getCanister_recordCanister]
    by_cases new : canisterId = s.nextId
    · subst new
      simp [unplaced, CanisterService.newCanister]
    · simp [new]
  · intro index later
    have distinct : (⟨Host.draw index⟩ : CanisterId) ≠ s.nextId := by
      intro same
      have sameDraw := Host.draw_injective (congrArg Id.uuid same)
      have laterBefore : s.drawn < index := later
      exact absurd sameDraw laterBefore.ne'
    rw [CanisterService.getCanister_recordCanister, if_neg distinct]
    exact filed.fresh index ((Nat.le_succ _).trans later)

/-- A new record takes the place of none. -/
theorem recordCanister_follow
    {projectId : ProjectId}
    {principal : Principal}
    (filed : s.CanistersFiled) :
    s.CanistersFollow (CanisterService.recordCanister projectId s principal) := by
  intro canisterId canister stored
  have unknown : s.canister.getCanister s.nextId = none := filed.fresh s.drawn (le_refl _)
  have old : canisterId ≠ s.nextId := by
    rintro rfl
    cases stored.symm.trans unknown
  refine ⟨canister, ?_, fun _ removed => removed⟩
  rw [CanisterService.getCanister_recordCanister, if_neg old]
  exact stored

/-- A record that is removed is filed as deleted from then on. -/
theorem softDeleted
    {removed : CanisterState}
    {projectId : ProjectId}
    {canisterId : CanisterId}
    {stored : Canister}
    {now : Nat}
    (filed : s.CanistersFiled)
    (deletion : s.canister.SoftDeleted removed projectId canisterId stored now) :
    { s with canister := removed : Stores }.CanistersFiled := by
  obtain ⟨own, canister, again, unremoved⟩ :=
    (filed.active projectId canisterId).mp deletion.row
  cases deletion.found.symm.trans again
  constructor
  · intro other
    rw [deletion.project, deletion.record, filed.known]
    split
    · rename_i same
      rw [same, again]
      rfl
    · rfl
  · intro otherProject other
    rw [deletion.active, filed.active, deletion.project, deletion.record]
    by_cases same : other = canisterId
    · subst same
      rw [own, if_pos rfl]
      constructor
      · rintro ⟨⟨project, -⟩, distinct⟩
        cases project
        exact (distinct rfl).elim
      · rintro ⟨-, canister, recorded, unremoved⟩
        cases recorded
        cases unremoved
    · rw [if_neg same]
      exact and_iff_left fun row => same (congrArg Prod.snd row)
  · intro otherProject other
    rw [deletion.deleted, filed.deleted, deletion.project, deletion.record]
    by_cases same : other = canisterId
    · subst same
      rw [own, again, if_pos rfl]
      constructor
      · rintro (⟨-, canister, recorded, removed⟩ | row)
        · cases recorded
          rw [unremoved] at removed
          cases removed
        · cases row
          exact ⟨rfl, _, rfl, rfl⟩
      · rintro ⟨project, -⟩
        cases project
        exact .inr rfl
    · rw [if_neg same]
      exact or_iff_left fun row => same (congrArg Prod.snd row)
  · intro index later
    have unknown : s.canister.getCanister ⟨Host.draw index⟩ = none := filed.fresh index later
    rw [deletion.record, if_neg]
    · exact unknown
    · rintro rfl
      cases again.symm.trans unknown

/-- No other record is affected by a removal, and the removed one had not been removed. -/
theorem softDeleted_follow
    {removed : CanisterState}
    {projectId : ProjectId}
    {canisterId : CanisterId}
    {stored : Canister}
    {now : Nat}
    (filed : s.CanistersFiled)
    (deletion : s.canister.SoftDeleted removed projectId canisterId stored now) :
    s.CanistersFollow { s with canister := removed } := by
  intro other canister recorded
  dsimp only
  rw [deletion.record]
  by_cases same : other = canisterId
  · subst same
    obtain ⟨-, before, again, unremoved⟩ := (filed.active projectId other).mp deletion.row
    cases recorded.symm.trans again
    rw [if_pos rfl]
    refine ⟨_, rfl, ?_⟩
    intro deletedAt removed
    rw [unremoved] at removed
    cases removed
  · rw [if_neg same]
    exact ⟨canister, recorded, fun _ removed => removed⟩

/-- A renamed record stays where it is filed. -/
theorem renamed
    {state : CanisterState}
    {canisterId : CanisterId}
    {name : Option String}
    (filed : s.CanistersFiled)
    (accepted : s.canister.updateCanisterName canisterId name = some state) :
    { s with canister := state : Stores }.CanistersFiled ∧
      s.CanistersFollow { s with canister := state } := by
  obtain ⟨stored, found, rfl⟩ := CanisterState.updateCanisterName_eq_some accepted
  have records :
      ∀ other,
        (s.canister.canisters.insert canisterId { stored with name := name })[other]? =
          if other = canisterId then some { stored with name := name }
          else s.canister.getCanister other :=
    fun _ => getElem?_insert_entry
  constructor
  · apply filed.of_records
    · intro other
      dsimp only [CanisterState.getCanister]
      rw [records]
      split
      · rename_i same
        rw [same]
        exact (congrArg (Option.map Canister.deletedAt) found).symm
      · rfl
    · rfl
    · exact le_refl _
  · intro other canister recorded
    dsimp only [CanisterState.getCanister]
    rw [records]
    by_cases same : other = canisterId
    · subst same
      cases recorded.symm.trans found
      rw [if_pos rfl]
      exact ⟨_, rfl, fun _ removed => removed⟩
    · rw [if_neg same]
      exact ⟨canister, recorded, fun _ removed => removed⟩

end Stores.CanistersFiled

end Filing

section Runs

variable [Host] {s after : Stores}

/-- The records are filed, and follow those of an earlier state. -/
structure Stores.CanistersKept (s after : Stores) : Prop where
  filed : after.CanistersFiled
  follow : s.CanistersFollow after

/-- Only the index of the principals may have changed. -/
theorem Stores.CanistersFiled.kept_of_rows
    (filed : s.CanistersFiled)
    (rows :
      after.canister =
        { s.canister with
          principalCanisterIndex := after.canister.principalCanisterIndex })
    (drawn : s.drawn ≤ after.drawn) :
    s.CanistersKept after := by
  have same :
      ∀ canisterId,
        after.canister.getCanister canisterId = s.canister.getCanister canisterId := by
    intro canisterId
    rw [rows]
    rfl
  have records : after.canister.canisters = s.canister.canisters := by
    rw [rows]
  refine ⟨filed.of_records ?_ ?_ drawn, .of_same same⟩
  · intro canisterId
    rw [same]
  · rw [records]
    exact rows

/-- Reported mappings keep the records. -/
theorem Stores.CanistersFiled.addChildCanisters
    {mappings : List Dto.ParentChildMapping}
    (filed : s.CanistersFiled) :
    s.CanistersKept (mappings.foldl CanisterService.addChildCanister s) := by
  apply CanisterService.addChildCanisters_induction
  · intro before projectId principal _ kept _
    exact ⟨kept.filed.recordCanister, kept.follow.trans kept.filed.recordCanister_follow⟩
  · intro before orphans kept
    exact ⟨kept.filed.of_records (fun _ => rfl) rfl (le_refl _), kept.follow⟩
  · exact ⟨filed, .of_same fun _ => rfl⟩

/-- Every event keeps the records. -/
theorem World.CanisterChange.canistersKept
    {world : World}
    {event : Event}
    (change : world.CanisterChange event after)
    (filed : world.stores.CanistersFiled) :
    world.stores.CanistersKept after := by
  cases change with
  | same same =>
      apply filed.kept_of_rows ?_ same.drawn
      rw [same.canister]
  | remove removed =>
      obtain ⟨stored, deletion⟩ := CanisterState.softDeleted_of_softDeleteCanister removed
      exact ⟨filed.softDeleted deletion, filed.softDeleted_follow deletion⟩
  | rename changed => exact ⟨(filed.renamed changed).1, (filed.renamed changed).2⟩
  | report => exact filed.addChildCanisters
  | record _ _ =>
      exact
        ⟨filed.recordCanister.of_records (fun _ => rfl) rfl (le_refl _),
          filed.recordCanister_follow.trans (.of_same fun _ => rfl)⟩

/-- Migrations keep the records. -/
theorem MigrationEffect.canistersKept
    (effect : MigrationEffect s after)
    (filed : s.CanistersFiled) :
    s.CanistersKept after := by
  have drawn : s.drawn ≤ after.drawn := effect.drawn.ge
  apply filed.kept_of_rows ?_ drawn
  rcases effect.canister with same | migrated
  · rw [same]
  · rw [migrated]
    rfl

/-- A record that was removed at a time, and is listed as active nowhere. -/
def Stores.RemovedAt (s : Stores) (canisterId : CanisterId) (deletedAt : Nat) : Prop :=
  (∀ projectId : ProjectId, (projectId, canisterId) ∉ s.canister.activeProjectCanisterIndex) ∧
    ∃ canister, s.canister.getCanister canisterId = some canister ∧
      canister.deletedAt = some deletedAt

/-- Only the name of one record has changed. -/
def Stores.RenamedOne (s : Stores) (canisterId : CanisterId) (after : Stores) : Prop :=
  ∃ stored name,
    s.canister.getCanister canisterId = some stored ∧
      after =
        { s with
          canister :=
            { s.canister with
              canisters := s.canister.canisters.insert canisterId { stored with name := name } } }

/-- Where the records are filed, and what removing and renaming do to them. -/
structure Stores.CanisterRecords (s : Stores) : Prop where
  /-- A record is in one of the two indexes, under its project. -/
  filed :
    ∀ canisterId canister, s.canister.getCanister canisterId = some canister →
      ∃ projectId, s.canister.getCanisterProjectId canisterId = some projectId ∧
        (∀ other, (other, canisterId) ∈ s.canister.activeProjectCanisterIndex ↔
          other = projectId ∧ canister.deletedAt = none) ∧
          ∀ other, (other, canisterId) ∈ s.canister.deletedProjectCanisterIndex ↔
            other = projectId ∧ canister.deletedAt.isSome
  /-- The indexes have no other rows. -/
  only :
    ∀ canisterId, s.canister.getCanister canisterId = none →
      s.canister.getCanisterProjectId canisterId = none ∧
        ∀ projectId : ProjectId,
          (projectId, canisterId) ∉ s.canister.activeProjectCanisterIndex ∧
            (projectId, canisterId) ∉ s.canister.deletedProjectCanisterIndex
  removedTwice :
    ∀ call canisterText canisterId deletedAt,
      Id.tryFrom canisterText = .ok canisterId → s.RemovedAt canisterId deletedAt →
        ∃ error, outcome (CanisterService.removeMyCanister call canisterText) s = (.error error, s)
  renamed :
    ∀ call canisterText name result after,
      outcome (CanisterService.updateMyCanisterName call canisterText name) s = (result, after) →
        after = s ∨
          ∃ canisterId, Id.tryFrom canisterText = .ok canisterId ∧ s.RenamedOne canisterId after

/-- A record that was removed is active nowhere. -/
theorem Stores.CanistersFiled.removedAt
    {canisterId : CanisterId}
    {canister : Canister}
    {deletedAt : Nat}
    (filed : s.CanistersFiled)
    (stored : s.canister.getCanister canisterId = some canister)
    (removed : canister.deletedAt = some deletedAt) :
    s.RemovedAt canisterId deletedAt := by
  refine ⟨?_, canister, stored, removed⟩
  intro projectId row
  obtain ⟨-, again, found, unremoved⟩ := (filed.active projectId canisterId).mp row
  cases stored.symm.trans found
  cases removed.symm.trans unremoved

/-- A second removal fails and writes nothing. -/
theorem Stores.RemovedAt.removeMyCanister
    {call : Call}
    {canisterText : String}
    {canisterId : CanisterId}
    {deletedAt : Nat}
    (removed : s.RemovedAt canisterId deletedAt)
    (named : Id.tryFrom canisterText = .ok canisterId) :
    ∃ error, outcome (CanisterService.removeMyCanister call canisterText) s = (.error error, s) := by
  have settles :=
    ends_iff_outcome.mp (CanisterService.removeMyCanister_settles call canisterText s)
  rcases ended : outcome (CanisterService.removeMyCanister call canisterText) s with
    ⟨error | response, after⟩
  · exact ⟨error, by rw [settles.2 error after ended]⟩
  · cases settles.1 response after ended with
    | removeMyCanister parsed managed deleted =>
        cases named.symm.trans parsed
        obtain ⟨stored, deletion⟩ := CanisterState.softDeleted_of_softDeleteCanister deleted
        exact (removed.1 _ deletion.row).elim

/-- A renaming changes one name, or nothing. -/
theorem CanisterService.updateMyCanisterName_renames
    {call : Call}
    {canisterText : String}
    {name : Option String}
    {result : Except ApiError Response}
    (ended : outcome (updateMyCanisterName call canisterText name) s = (result, after)) :
    after = s ∨
      ∃ canisterId, Id.tryFrom canisterText = .ok canisterId ∧ s.RenamedOne canisterId after := by
  have settles := ends_iff_outcome.mp (updateMyCanisterName_settles call canisterText name s)
  cases result with
  | error error => exact .inl (settles.2 error after ended)
  | ok response =>
      cases settles.1 response after ended with
      | updateMyCanisterName parsed managed renamed =>
          obtain ⟨stored, found, rfl⟩ := CanisterState.updateCanisterName_eq_some renamed
          exact .inr ⟨_, parsed, stored, _, found, rfl⟩

/-- Filed records are where they should be. -/
theorem Stores.CanistersFiled.canisterRecords
    (filed : s.CanistersFiled) :
    s.CanisterRecords where
  filed canisterId canister stored := by
    have placed : (s.canister.getCanisterProjectId canisterId).isSome := by
      rw [filed.known, stored]
      rfl
    obtain ⟨projectId, own⟩ := Option.isSome_iff_exists.mp placed
    refine ⟨projectId, own, ?_, ?_⟩
    · intro other
      rw [filed.active, own, stored]
      simp [@eq_comm _ projectId other]
    · intro other
      rw [filed.deleted, own, stored]
      simp [@eq_comm _ projectId other]
  only canisterId unknown := by
    have unplaced : s.canister.getCanisterProjectId canisterId = none := by
      have known := filed.known canisterId
      rw [unknown] at known
      exact Option.not_isSome_iff_eq_none.mp (Bool.eq_false_iff.mp known)
    refine ⟨unplaced, ?_⟩
    intro projectId
    rw [filed.active, filed.deleted, unplaced]
    simp
  removedTwice _ _ _ _ named removed := removed.removeMyCanister named
  renamed _ _ _ _ _ ended := CanisterService.updateMyCanisterName_renames ended

variable [RowFormat]

/-- Every step of a run with migrations keeps the records. -/
theorem World.canistersKept_of_upkeep
    {world next : World}
    {change : Upkeep}
    (stepped : world.upkeep change = some next)
    (filed : world.stores.CanistersFiled) :
    world.stores.CanistersKept next.stores := by
  rcases World.upkeep_cases stepped with ⟨event, -, taken⟩ | effect
  · exact taken.canisterChange.canistersKept filed
  · exact effect.canistersKept filed

/-- The records are kept from any world in which they are filed. -/
theorem World.canistersKept_of_run
    {world later : World}
    (filed : world.stores.CanistersFiled)
    (run : MessageRun.Reachable World.upkeep (fun _ _ => True) world later) :
    world.stores.CanistersKept later.stores := by
  induction run with
  | initial => exact ⟨filed, .of_same fun _ => rfl⟩
  | step _ _ stepped inductionHypothesis =>
      have kept := World.canistersKept_of_upkeep stepped inductionHypothesis.filed
      exact ⟨kept.filed, inductionHypothesis.follow.trans kept.follow⟩

/-- In every world that events and migrations lead to, the records are filed as they should be;
and from there on, one that was removed stays removed at the same time. -/
theorem canisterRecords_of_maintained
    {world : World}
    (maintained : world.Maintained) :
    world.stores.CanisterRecords ∧
      ∀ later, MessageRun.Reachable World.upkeep (fun _ _ => True) world later →
        ∀ canisterId canister deletedAt,
          world.stores.canister.getCanister canisterId = some canister →
            canister.deletedAt = some deletedAt →
              later.stores.RemovedAt canisterId deletedAt := by
  have filed : world.stores.CanistersFiled :=
    (World.canistersKept_of_run Stores.CanistersFiled.empty maintained).filed
  refine ⟨filed.canisterRecords, ?_⟩
  intro later run canisterId canister deletedAt stored removed
  have kept := World.canistersKept_of_run filed run
  obtain ⟨record, found, stays⟩ := kept.follow canisterId canister stored
  exact kept.filed.removedAt found (stays deletedAt removed)

end Runs

section RemovedCanister

open TextualHost

attribute [local instance] host
attribute [local instance] standardRows

/-- An active founder's canister is created, renamed, migrated and removed, and the removed
record is renamed. -/
def removal : List Upkeep :=
  [.event (.message (callBy founder) .createMyUserProfile),
    .event (.message (callBy operator) (.adminUpdateUserProfile (idText 0) (some .active))),
    .event (.message (callBy founder) (.createProposal (idText 3) (some .createCanister))),
    .event (.reply 1700000000000000000 0 (.canisterCreated (principal 7))),
    .event (.message (callBy founder) (.updateMyCanisterName (idText 7) (some "Ledger"))),
    .migration .principalCanisterIndex .empty,
    .event (.message (callBy founder) (.removeMyCanister (idText 7))),
    .event (.message (callBy founder) (.updateMyCanisterName (idText 7) none))]

/-- The run in which it is removed. -/
def removedCanister : Execution World.upkeep World.empty :=
  .ofEvents removal (.upgrade .empty) (by decide +kernel)

/-- The stores with the removed canister. -/
def withoutCanister : Stores :=
  (removedCanister.state 8).stores

/-- The record stays removed when it is renamed. -/
theorem canisterRecords_removedCanister :
    withoutCanister.CanisterRecords ∧
      withoutCanister.RemovedAt ⟨draw 7⟩ (callBy founder).now := by
  have maintained : (removedCanister.state 8).Maintained :=
    removedCanister.reachable (by decide)
  have before : (removedCanister.state 7).Maintained :=
    removedCanister.reachable (by decide)
  have removed :
      ((removedCanister.state 7).stores.canister.getCanister ⟨draw 7⟩).bind
          Canister.deletedAt =
        some (callBy founder).now := by
    decide +kernel
  obtain ⟨canister, stored, deletedAt⟩ := Option.bind_eq_some_iff.mp removed
  have later :
      MessageRun.Reachable World.upkeep (fun _ _ => True) (removedCanister.state 7)
        (removedCanister.state 8) :=
    removedCanister.reachable_from (by decide) (by decide) fun _ _ _ => trivial
  exact
    ⟨(canisterRecords_of_maintained maintained).1,
      (canisterRecords_of_maintained before).2 _ later _ _ _ stored deletedAt⟩

end RemovedCanister

end SsnConsole.Backend
