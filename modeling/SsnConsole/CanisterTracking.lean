import SsnConsole.AdoptionForest
import SsnConsole.BackendFrames
import SsnConsole.InverseIndex

/-!
# Tracked canisters and orphans

Canister records are found by their principals, and orphans are kept in two
indexes.  The indexes agree in every reachable world; on top of them the module
reads which canisters are tracked, and what each event does to the records.
-/

namespace SsnConsole.Backend

open Std (ExtTreeMap)
open SsnConsole.InverseIndex
open SsnConsole.MessageRun
open SsnConsole.StableIndex

/-- The project of the canister that a principal is recorded as. -/
def Stores.trackedProject (s : Stores) (principal : Principal) : Option ProjectId :=
  (s.canister.getCanisterByPrincipal principal).bind s.canister.getCanisterProjectId

/-- A canister is stored as an orphan of a parent. -/
def Stores.IsOrphan (s : Stores) (child parent : Principal) : Prop :=
  s.orphanedCanister.getParentByChild child = some parent

variable [Host]

/-- The canister and orphan indexes agree with the records. -/
structure Stores.CanistersIndexed (s : Stores) : Prop where
  /-- A principal leads to a record of its own. -/
  found :
    ∀ principal canisterId,
      s.canister.getCanisterByPrincipal principal = some canisterId →
        ∃ canister,
          s.canister.getCanister canisterId = some canister ∧ canister.principal = principal
  /-- The principal of a record leads to some record. -/
  indexed :
    ∀ canisterId canister,
      s.canister.getCanister canisterId = some canister →
        (s.canister.getCanisterByPrincipal canister.principal).isSome
  /-- Exactly the records have a project. -/
  placed :
    ∀ canisterId,
      (s.canister.getCanisterProjectId canisterId).isSome =
        (s.canister.getCanister canisterId).isSome
  /-- Identifiers whose turn is still to come name no record. -/
  fresh : ∀ index, s.drawn ≤ index → s.canister.getCanister ⟨Host.draw index⟩ = none
  /-- The two orphan indexes are inverses of each other. -/
  orphans :
    Mirrors s.orphanedCanister.getParentByChild
      fun parent child => (parent, child) ∈ s.orphanedCanister.parentChildIndex

section Records

variable {s after : Stores} {projectId : ProjectId} {principal : Principal}

/-- The records after one more. -/
theorem CanisterService.getCanister_recordCanister
    (canisterId : CanisterId) :
    (CanisterService.recordCanister projectId s principal).canister.getCanister canisterId =
      if canisterId = s.nextId then some (CanisterService.newCanister principal)
      else s.canister.getCanister canisterId :=
  getElem?_insert_entry

/-- The projects of the records after one more. -/
theorem CanisterService.getCanisterProjectId_recordCanister
    (canisterId : CanisterId) :
    (CanisterService.recordCanister projectId s principal).canister.getCanisterProjectId
        canisterId =
      if canisterId = s.nextId then some projectId
      else s.canister.getCanisterProjectId canisterId :=
  getElem?_insert_entry

/-- The index of principals after one more record. -/
theorem CanisterService.getCanisterByPrincipal_recordCanister
    (other : Principal) :
    (CanisterService.recordCanister projectId s principal).canister.getCanisterByPrincipal
        other =
      if other = principal then some s.nextId
      else s.canister.getCanisterByPrincipal other :=
  getElem?_insert_entry

namespace Stores.CanistersIndexed

/-- The next identifier names no record. -/
theorem nextId_fresh
    (indexed : s.CanistersIndexed) :
    s.canister.getCanister s.nextId = none :=
  indexed.fresh s.drawn (le_refl _)

/-- Indexes over the same records agree as before. -/
theorem of_same
    (indexed : s.CanistersIndexed)
    (sameCanisters : after.canister = s.canister)
    (orphans :
      Mirrors after.orphanedCanister.getParentByChild
        fun parent child => (parent, child) ∈ after.orphanedCanister.parentChildIndex)
    (drawn : s.drawn ≤ after.drawn) :
    after.CanistersIndexed where
  found := by
    rw [sameCanisters]
    exact indexed.found
  indexed := by
    rw [sameCanisters]
    exact indexed.indexed
  placed := by
    rw [sameCanisters]
    exact indexed.placed
  fresh := by
    intro index later
    rw [sameCanisters]
    exact indexed.fresh index (drawn.trans later)
  orphans := orphans

/-- Recording a canister keeps the indexes in agreement. -/
theorem recordCanister
    (indexed : s.CanistersIndexed) :
    (CanisterService.recordCanister projectId s principal).CanistersIndexed where
  found := by
    intro other canisterId resolved
    rw [CanisterService.getCanisterByPrincipal_recordCanister] at resolved
    rw [CanisterService.getCanister_recordCanister]
    split at resolved
    · rename_i same
      cases resolved
      rw [if_pos rfl]
      exact ⟨CanisterService.newCanister principal, rfl, same.symm⟩
    · obtain ⟨canister, stored, own⟩ := indexed.found other canisterId resolved
      have different : canisterId ≠ s.nextId := by
        rintro rfl
        rw [indexed.nextId_fresh] at stored
        cases stored
      rw [if_neg different]
      exact ⟨canister, stored, own⟩
  indexed := by
    intro canisterId canister stored
    rw [CanisterService.getCanisterByPrincipal_recordCanister]
    by_cases same : canister.principal = principal
    · rw [if_pos same]
      rfl
    · rw [if_neg same]
      rw [CanisterService.getCanister_recordCanister] at stored
      split at stored
      · cases stored
        exact (same rfl).elim
      · exact indexed.indexed canisterId canister stored
  placed := by
    intro canisterId
    rw [CanisterService.getCanisterProjectId_recordCanister,
      CanisterService.getCanister_recordCanister]
    by_cases same : canisterId = s.nextId
    · rw [if_pos same, if_pos same]
      rfl
    · rw [if_neg same, if_neg same]
      exact indexed.placed canisterId
  fresh := by
    intro index later
    have laterBefore : s.drawn < index := later
    have different : (⟨Host.draw index⟩ : CanisterId) ≠ s.nextId := by
      intro same
      have sameDraw := Host.draw_injective (congrArg Id.uuid same)
      omega
    rw [CanisterService.getCanister_recordCanister, if_neg different]
    exact indexed.fresh index (Nat.le_of_lt laterBefore)
  orphans := indexed.orphans

/-- A record may be replaced by one of the same principal. -/
theorem replaceRecord
    {canisterId : CanisterId}
    {stored : Canister}
    (canister : Canister)
    (indexed : s.CanistersIndexed)
    (found : s.canister.getCanister canisterId = some stored)
    (samePrincipal : canister.principal = stored.principal)
    (records : after.canister.canisters = s.canister.canisters.insert canisterId canister)
    (sameProjects : after.canister.canisterProjectIndex = s.canister.canisterProjectIndex)
    (samePrincipals :
      after.canister.principalCanisterIndex = s.canister.principalCanisterIndex)
    (sameOrphans : after.orphanedCanister = s.orphanedCanister)
    (sameDrawn : after.drawn = s.drawn) :
    after.CanistersIndexed := by
  have lookup :
      ∀ other,
        after.canister.getCanister other =
          if other = canisterId then some canister else s.canister.getCanister other := by
    intro other
    rw [CanisterState.getCanister, records]
    exact getElem?_insert_entry
  have projects : after.canister.getCanisterProjectId = s.canister.getCanisterProjectId := by
    funext other
    exact congrArg (fun index => index[other]?) sameProjects
  have principals :
      after.canister.getCanisterByPrincipal = s.canister.getCanisterByPrincipal := by
    funext other
    exact congrArg (fun index => index[other]?) samePrincipals
  refine ⟨?_, ?_, ?_, ?_, ?_⟩
  · intro principal other resolved
    rw [principals] at resolved
    obtain ⟨record, storedRecord, own⟩ := indexed.found principal other resolved
    rw [lookup]
    by_cases same : other = canisterId
    · subst same
      rw [if_pos rfl]
      obtain rfl : stored = record := Option.some.inj (found.symm.trans storedRecord)
      exact ⟨canister, rfl, samePrincipal.trans own⟩
    · rw [if_neg same]
      exact ⟨record, storedRecord, own⟩
  · intro other record storedRecord
    rw [principals]
    rw [lookup] at storedRecord
    split at storedRecord
    · cases storedRecord
      rw [samePrincipal]
      exact indexed.indexed canisterId stored found
    · exact indexed.indexed other record storedRecord
  · intro other
    rw [projects, lookup, indexed.placed]
    by_cases same : other = canisterId
    · rw [if_pos same, same, found]
      rfl
    · rw [if_neg same]
  · intro index later
    rw [sameDrawn] at later
    have different : (⟨Host.draw index⟩ : CanisterId) ≠ canisterId := by
      rintro rfl
      rw [indexed.fresh index later] at found
      cases found
    rw [lookup, if_neg different]
    exact indexed.fresh index later
  · rw [sameOrphans]
    exact indexed.orphans

/-- A child that waits for nobody may become an orphan. -/
theorem createOrphan
    {child parent : Principal}
    (indexed : s.CanistersIndexed)
    (free : s.orphanedCanister.getParentByChild child = none) :
    ({ s with
        orphanedCanister :=
          s.orphanedCanister.createOrphanedCanister child parent } : Stores).CanistersIndexed := by
  refine indexed.of_same rfl ?_ (le_refl _)
  refine indexed.orphans.link parent free (fun other => getElem?_insert_entry) ?_
  intro otherParent other
  change (otherParent, other) ∈ s.orphanedCanister.parentChildIndex.insert (parent, child) ↔ _
  rw [mem_insert_row, Prod.mk.injEq]

/-- Adopting an orphan records it and removes it from both orphan indexes. -/
theorem adoptOrphan
    {child parent : Principal}
    (indexed : s.CanistersIndexed)
    (orphaned : s.IsOrphan child parent) :
    (CanisterService.adoptOrphan projectId parent s child).CanistersIndexed := by
  have recorded : (CanisterService.recordCanister projectId s child).CanistersIndexed :=
    indexed.recordCanister
  refine recorded.of_same rfl ?_ (le_refl _)
  refine indexed.orphans.unlink orphaned (fun other => getElem?_erase_entry) ?_
  intro otherParent other
  change (otherParent, other) ∈ s.orphanedCanister.parentChildIndex.erase (parent, child) ↔ _
  rw [mem_erase_row, ne_eq, Prod.mk.injEq]

/-- A principal is tracked exactly if some record is found by it. -/
theorem isSome_trackedProject
    (indexed : s.CanistersIndexed)
    (principal : Principal) :
    (s.trackedProject principal).isSome =
      (s.canister.getCanisterByPrincipal principal).isSome := by
  unfold Stores.trackedProject
  cases resolved : s.canister.getCanisterByPrincipal principal with
  | none =>
      rfl
  | some canisterId =>
      obtain ⟨canister, stored, -⟩ := indexed.found principal canisterId resolved
      rw [Option.bind_some, indexed.placed canisterId, stored]
      rfl

/-- Recording a canister tracks it under its project, and changes nobody else's. -/
theorem trackedProject_recordCanister
    (indexed : s.CanistersIndexed)
    (other : Principal) :
    (CanisterService.recordCanister projectId s principal).trackedProject other =
      if other = principal then some projectId else s.trackedProject other := by
  unfold Stores.trackedProject
  rw [CanisterService.getCanisterByPrincipal_recordCanister]
  by_cases same : other = principal
  · rw [if_pos same, if_pos same, Option.bind_some,
      CanisterService.getCanisterProjectId_recordCanister, if_pos rfl]
  · rw [if_neg same, if_neg same]
    cases resolved : s.canister.getCanisterByPrincipal other with
    | none =>
        rfl
    | some canisterId =>
        obtain ⟨canister, stored, -⟩ := indexed.found other canisterId resolved
        have different : canisterId ≠ s.nextId := by
          rintro rfl
          rw [indexed.nextId_fresh] at stored
          cases stored
        rw [Option.bind_some, Option.bind_some,
          CanisterService.getCanisterProjectId_recordCanister, if_neg different]

/-- A newly installed canister has no records and no orphans. -/
theorem empty : Stores.empty.CanistersIndexed := by
  refine ⟨?_, ?_, ?_, ?_, ?_⟩
  · simp [Stores.empty, CanisterState.empty, CanisterState.getCanisterByPrincipal]
  · simp [Stores.empty, CanisterState.empty, CanisterState.getCanister]
  · simp [Stores.empty, CanisterState.empty, CanisterState.getCanister,
      CanisterState.getCanisterProjectId]
  · simp [Stores.empty, CanisterState.empty, CanisterState.getCanister]
  · intro child parent
    simp [Stores.empty, OrphanedCanisterState.empty, OrphanedCanisterState.getParentByChild]

end Stores.CanistersIndexed

end Records

end SsnConsole.Backend
