import SsnConsole.CanisterTransitions
import SsnConsole.PostUpgrade

/-!
# Runs with migrations

The migrations of `post_upgrade` are operations of their repositories and assume
nothing about what ran before them.  Here a run may take any of them, or a whole
upgrade, between any two events, over any rows that earlier releases left.
-/

namespace SsnConsole.Backend

open SsnConsole.MessageRun

section Migrations

/-- The migrations of `post_upgrade`. -/
inductive Migration
  | orgTeamPermissions
  | projectTeamPermissions
  | principalCanisterIndex
  | verifiedEmailIndex
  | proposalsProposerId
  | pendingApprovalReset
  deriving DecidableEq

variable [Host] [RowFormat]

/-- What a migration makes of stable memory, unless it panics. -/
def Migration.run : Migration → StableMemory → Option StableMemory
  | .orgTeamPermissions, memory => some (migrateOrgTeamPermissions memory)
  | .projectTeamPermissions, memory => some (migrateProjectTeamPermissions memory)
  | .principalCanisterIndex, memory => some (migratePrincipalCanisterIndex memory)
  | .verifiedEmailIndex, memory => some (migrateVerifiedEmailIndex memory)
  | .proposalsProposerId, memory => migrateProposalsProposerId memory
  | .pendingApprovalReset, memory => migratePendingApprovalReset memory

/-- An event, or a migration over the rows that earlier releases left. -/
inductive Upkeep
  | event (event : Event)
  | migration (migration : Migration) (legacy : LegacyTables)
  | upgrade (legacy : LegacyTables)

/-- The world reads its stores from stable memory. -/
def World.restore (world : World) (memory : StableMemory) : World :=
  { world with stores := memory.stores world.stores.drawn }

/-- One step of a run with migrations. -/
def World.upkeep (world : World) : Upkeep → Option World
  | .event event => World.serviceStep world event
  | .migration migration legacy =>
      (migration.run (world.stores.stable legacy)).map world.restore
  | .upgrade legacy => (postUpgrade (world.stores.stable legacy)).map world.restore

/-- Worlds that events and migrations lead to. -/
def World.Maintained (world : World) : Prop :=
  MessageRun.Reachable World.upkeep (fun _ _ => True) World.empty world

end Migrations

section Effects

variable [Host]

/-- What migrations do to the profiles and the canisters. -/
structure MigrationEffect (s after : Stores) : Prop where
  userProfile :
    after.userProfile = s.userProfile ∨
      after.userProfile = s.userProfile.migrateVerifiedEmailIndex
  canister :
    after.canister = s.canister ∨ after.canister = s.canister.migratePrincipalCanisterIndex
  drawn : after.drawn = s.drawn

variable [RowFormat]

omit [Host] in
/-- Rewriting proposals touches nothing else. -/
theorem rewriteProposals_frame
    {memory rewritten : StableMemory}
    (ran : rewriteProposals memory = some rewritten) :
    rewritten = { memory with proposals := rewritten.proposals } := by
  obtain ⟨proposals, -, rfl⟩ := Option.map_eq_some_iff.mp ran
  rfl

/-- A migration touches the profiles or the canisters in its own way only. -/
theorem Migration.effect
    {migration : Migration}
    {world : World}
    {legacy : LegacyTables}
    {memory : StableMemory}
    (ran : migration.run (world.stores.stable legacy) = some memory) :
    MigrationEffect world.stores (world.restore memory).stores := by
  cases migration with
  | orgTeamPermissions | projectTeamPermissions =>
      cases ran
      exact ⟨.inl rfl, .inl rfl, rfl⟩
  | principalCanisterIndex =>
      cases ran
      exact ⟨.inl rfl, .inr rfl, rfl⟩
  | verifiedEmailIndex =>
      cases ran
      exact ⟨.inr rfl, .inl rfl, rfl⟩
  | proposalsProposerId | pendingApprovalReset =>
      rw [rewriteProposals_frame ran]
      exact ⟨.inl rfl, .inl rfl, rfl⟩

/-- A whole upgrade runs both of these migrations once. -/
theorem postUpgrade_effect
    {world : World}
    {legacy : LegacyTables}
    {memory : StableMemory}
    (ran : postUpgrade (world.stores.stable legacy) = some memory) :
    MigrationEffect world.stores (world.restore memory).stores := by
  obtain ⟨proposed, first, second⟩ := Option.bind_eq_some_iff.mp ran
  rw [rewriteProposals_frame second, rewriteProposals_frame first]
  exact ⟨.inr rfl, .inr rfl, rfl⟩

/-- One step is an event or has the effect of migrations. -/
theorem World.upkeep_cases
    {world after : World}
    {change : Upkeep}
    (stepped : world.upkeep change = some after) :
    (∃ event, change = .event event ∧ world.Stepped event after) ∨
      MigrationEffect world.stores after.stores := by
  cases change with
  | event event => exact .inl ⟨event, rfl, World.serviceStep_cases stepped⟩
  | migration migration legacy =>
      obtain ⟨memory, ran, rfl⟩ := Option.map_eq_some_iff.mp stepped
      exact .inr (migration.effect ran)
  | upgrade legacy =>
      obtain ⟨memory, ran, rfl⟩ := Option.map_eq_some_iff.mp stepped
      exact .inr (postUpgrade_effect ran)

omit [RowFormat] in
/-- Identifiers are drawn and never given back, whatever the state. -/
theorem World.CanisterChange.drawn_le
    {world : World}
    {event : Event}
    {after : Stores}
    (change : world.CanisterChange event after) :
    world.stores.drawn ≤ after.drawn := by
  cases change with
  | same same => exact same.drawn
  | remove _ | rename _ => exact le_refl _
  | @report _ mappings =>
      have grown :
          SameAccess world.stores
            (mappings.foldl CanisterService.addChildCanister world.stores) := by
        apply CanisterService.addChildCanisters_induction
        · intro earlier projectId principal _ same _
          exact same.trans (.recordCanister projectId earlier principal)
        · intro earlier orphans same
          exact same.trans ⟨rfl, rfl, rfl, rfl, rfl, rfl, le_refl _⟩
        · exact .refl world.stores
      exact grown.drawn
  | record _ _ => exact Nat.le_succ _

/-- Events alone lead to maintained worlds. -/
theorem World.Reachable.maintained
    {world : World}
    (reachable : world.Reachable) :
    world.Maintained := by
  induction reachable with
  | initial => exact .initial
  | @step before after event earlier permitted stepped inductionHypothesis =>
      have taken : before.upkeep (.event event) = some after := stepped
      exact .step inductionHypothesis trivial taken

end Effects

end SsnConsole.Backend
