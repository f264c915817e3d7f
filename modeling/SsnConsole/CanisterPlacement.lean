import SsnConsole.CanisterTransitions

/-!
# The rows of canisters

A project lists its canisters in two ranges of rows, the active and the deleted
ones.  In every reachable world the rows and the project index of the canisters
say the same.
-/

namespace SsnConsole.Backend

open SsnConsole.MessageRun
open SsnConsole.StableIndex

variable [Host]
variable {s after : Stores}

/-- The rows of the projects tell which canister belongs to which project. -/
structure Stores.CanistersPlaced (s : Stores) : Prop where
  rows :
    ∀ canisterId projectId,
      s.canister.getCanisterProjectId canisterId = some projectId ↔
        (projectId, canisterId) ∈ s.canister.activeProjectCanisterIndex ∨
          (projectId, canisterId) ∈ s.canister.deletedProjectCanisterIndex
  /-- Identifiers whose turn is still to come have no project. -/
  fresh :
    ∀ index, s.drawn ≤ index → s.canister.getCanisterProjectId ⟨Host.draw index⟩ = none

omit [Host] in
/-- A project has no canisters if it has no rows in either range. -/
theorem CanisterState.projectHasCanisters_eq_false
    {state : CanisterState}
    {projectId : ProjectId} :
    state.projectHasCanisters projectId = false ↔
      (∀ canisterId, (projectId, canisterId) ∉ state.activeProjectCanisterIndex) ∧
        ∀ canisterId, (projectId, canisterId) ∉ state.deletedProjectCanisterIndex := by
  rw [CanisterState.projectHasCanisters, Bool.or_eq_false_iff, Bool.not_eq_false',
    Bool.not_eq_false', List.isEmpty_iff, List.isEmpty_iff, List.eq_nil_iff_forall_not_mem,
    List.eq_nil_iff_forall_not_mem]
  simp only [mem_prefixRows]

namespace Stores.CanistersPlaced

/-- Nothing is placed at first. -/
theorem empty : Stores.empty.CanistersPlaced where
  rows canisterId projectId := by
    simp [Stores.empty, CanisterState.empty, CanisterState.getCanisterProjectId]
  fresh index _ := by
    simp [Stores.empty, CanisterState.empty, CanisterState.getCanisterProjectId]

/-- Canisters that nothing happens to stay placed. -/
theorem of_same
    (placed : s.CanistersPlaced)
    (sameCanisters : after.canister = s.canister)
    (drawn : s.drawn ≤ after.drawn) :
    after.CanistersPlaced where
  rows canisterId projectId := by
    rw [sameCanisters]
    exact placed.rows canisterId projectId
  fresh index later := by
    rw [sameCanisters]
    exact placed.fresh index (drawn.trans later)

/-- A recorded canister is placed under its project. -/
theorem recordCanister
    {projectId : ProjectId}
    {principal : Principal}
    (placed : s.CanistersPlaced) :
    (CanisterService.recordCanister projectId s principal).CanistersPlaced where
  rows canisterId otherProject := by
    have unplaced : s.canister.getCanisterProjectId s.nextId = none :=
      placed.fresh s.drawn (le_refl _)
    have rowsAfter :
        (otherProject, canisterId) ∈
            (CanisterService.recordCanister projectId s
              principal).canister.activeProjectCanisterIndex ↔
          (otherProject, canisterId) ∈ s.canister.activeProjectCanisterIndex ∨
            (otherProject, canisterId) = (projectId, s.nextId) :=
      mem_insert_row
    have noRow := (not_congr (placed.rows s.nextId otherProject)).mp (by simp [unplaced])
    have deletedAfter :
        (CanisterService.recordCanister projectId s
            principal).canister.deletedProjectCanisterIndex =
          s.canister.deletedProjectCanisterIndex := rfl
    rw [CanisterService.getCanisterProjectId_recordCanister, rowsAfter, deletedAfter,
      Prod.mk.injEq]
    by_cases same : canisterId = s.nextId
    · rw [if_pos same]
      subst same
      obtain ⟨noActive, noDeleted⟩ := not_or.mp noRow
      simp [noActive, noDeleted, eq_comm]
    · rw [if_neg same, placed.rows canisterId otherProject]
      simp [same]
  fresh index later := by
    have distinct : (⟨Host.draw index⟩ : CanisterId) ≠ s.nextId := by
      intro same
      have sameDraw := Host.draw_injective (congrArg Id.uuid same)
      have laterBefore : s.drawn < index := later
      omega
    rw [CanisterService.getCanisterProjectId_recordCanister, if_neg distinct]
    exact placed.fresh index ((Nat.le_succ _).trans later)

/-- A project that has no canisters has no canister placed under it. -/
theorem no_canister
    {projectId : ProjectId}
    (placed : s.CanistersPlaced)
    (emptied : s.canister.projectHasCanisters projectId = false)
    (canisterId : CanisterId) :
    s.canister.getCanisterProjectId canisterId ≠ some projectId := by
  intro belongs
  obtain ⟨noActive, noDeleted⟩ := CanisterState.projectHasCanisters_eq_false.mp emptied
  rcases (placed.rows canisterId projectId).mp belongs with active | deleted
  · exact noActive canisterId active
  · exact noDeleted canisterId deleted

/-- A soft deletion moves a row of a canister's project. -/
theorem softDelete
    {deleted : CanisterState}
    {projectId : ProjectId}
    {canisterId : CanisterId}
    {now : Nat}
    (placed : s.CanistersPlaced)
    (removed :
      s.canister.softDeleteCanister projectId canisterId now = some deleted) :
    { s with canister := deleted : Stores }.CanistersPlaced where
  rows otherCanister otherProject := by
    obtain ⟨stored, -, active, rfl⟩ := CanisterState.softDeleteCanister_eq_some removed
    dsimp only
    rw [mem_erase_row, mem_insert_row]
    refine (placed.rows otherCanister otherProject).trans ?_
    by_cases same : (otherProject, otherCanister) = (projectId, canisterId)
    · rw [same]
      simp [active]
    · simp [same]
  fresh index later := by
    obtain ⟨stored, -, -, rfl⟩ := CanisterState.softDeleteCanister_eq_some removed
    exact placed.fresh index later

/-- A reported mapping keeps the canisters placed. -/
theorem addChildCanisters
    {mappings : List Dto.ParentChildMapping}
    (placed : s.CanistersPlaced) :
    (mappings.foldl CanisterService.addChildCanister s).CanistersPlaced :=
  CanisterService.addChildCanisters_induction (fun _ _ _ _ placed _ => placed.recordCanister)
    (fun _ _ placed => placed.of_same rfl (le_refl _)) placed

end Stores.CanistersPlaced

/-- Every event keeps the canisters placed. -/
theorem World.CanisterChange.canistersPlaced
    {world : World}
    {event : Event}
    (change : world.CanisterChange event after)
    (placed : world.stores.CanistersPlaced) :
    after.CanistersPlaced := by
  cases change with
  | same same => exact placed.of_same same.canister same.drawn
  | remove removed => exact placed.softDelete removed
  | rename changed =>
      obtain ⟨stored, -, rfl⟩ := CanisterState.updateCanisterName_eq_some changed
      exact ⟨placed.rows, placed.fresh⟩
  | report => exact placed.addChildCanisters
  | record _ _ => exact placed.recordCanister.of_same rfl (le_refl _)

/-- The canisters of the world are placed under their projects. -/
def World.CanistersPlaced (world : World) : Prop :=
  world.stores.CanistersPlaced

/-- Canisters are placed in every reachable world. -/
theorem World.Reachable.canistersPlaced
    {world : World}
    (reachable : world.Reachable) :
    world.CanistersPlaced := by
  have base : World.empty.CanistersPlaced := Stores.CanistersPlaced.empty
  refine reachable.invariant base ?_
  intro before event after _ placed _ stepped
  exact (World.serviceStep_cases stepped).canisterChange.canistersPlaced placed

end SsnConsole.Backend
