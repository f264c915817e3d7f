import SsnConsole.CanisterTransitions
import SsnConsole.ChildAdoption
import SsnConsole.EndpointRuns
import SsnConsole.KeyedIndex
import SsnConsole.LinkCodeIndependence
import SsnConsole.PostUpgrade
import SsnConsole.TextualHost
import SsnConsole.VerifiedEmail

/-!
# Transparency of upgrades

Every upgrade runs migrations that rewrite whole tables.  On the states that the
running system leads to they rewrite each row as it is, so an upgrade loses the
pending link codes and nothing else, and what does not read the codes cannot
tell whether there was one.
-/

namespace SsnConsole.Backend

open Std (ExtTreeMap ExtTreeSet)
open SsnConsole.MessageRun
open SsnConsole.MessageSlice
open SsnConsole.StableIndex

section Rows

variable [RowFormat]

/-- A row that a proposal was written to is written again as it is. -/
theorem rewriteProposal_eq_self
    {proposals : ProposalRows}
    {id : ProposalId}
    (written :
      ∀ row, proposals[id]? = some row → ∃ proposal : Proposal, row = proposal.toBytes) :
    rewriteProposal proposals id = some proposals := by
  unfold rewriteProposal
  split
  · rfl
  · rename_i row stored
    obtain ⟨proposal, rfl⟩ := written row stored
    rw [Proposal.fromBytes_toBytes, Option.map_some, insert_eq_self stored]

/-- The proposals that the stores keep in stable memory are written again as they are. -/
theorem rewriteProposals_stable
    (s : Stores)
    (legacy : LegacyTables) :
    rewriteProposals (s.stable legacy) = some (s.stable legacy) := by
  have same :
      (s.stable legacy).proposals.keys.foldlM rewriteProposal (s.stable legacy).proposals =
        some (s.stable legacy).proposals := by
    apply foldlM_eq_self
    intro id _
    apply rewriteProposal_eq_self
    intro row stored
    rw [Stores.stable, ExtTreeMap.getElem?_map] at stored
    obtain ⟨proposal, -, rfl⟩ := Option.map_eq_some_iff.mp stored
    exact ⟨proposal, rfl⟩
  rw [rewriteProposals, same, Option.map_some]

/-- Without legacy team rows there are no permissions to restore. -/
theorem migrateOrgTeamPermissions_stable
    (s : Stores) :
    migrateOrgTeamPermissions (s.stable .empty) = s.stable .empty := by
  have noRows : (s.stable .empty).legacy.organizationTeamIndex.toList = [] := by
    simp [Stores.stable, LegacyTables.empty]
  simp only [migrateOrgTeamPermissions, noRows]
  rfl

/-- Without legacy project rows there are no permissions to restore. -/
theorem migrateProjectTeamPermissions_stable
    (s : Stores) :
    migrateProjectTeamPermissions (s.stable .empty) = s.stable .empty := by
  have noRows : (s.stable .empty).legacy.projectTeamIndex.toList = [] := by
    simp [Stores.stable, LegacyTables.empty]
  simp only [migrateProjectTeamPermissions, noRows]
  rfl

/-- A restarted canister reads what was stored, except for the link codes. -/
theorem stores_stable
    (s : Stores)
    (legacy : LegacyTables) :
    (s.stable legacy).stores s.drawn = s.setLinkCodes ∅ := by
  have proposals :
      (s.proposal.proposals.map fun _ proposal => proposal.toBytes).filterMap
        (fun _ row => Proposal.fromBytes row) = s.proposal.proposals := by
    apply ExtTreeMap.ext_getElem?
    intro id
    rw [ExtTreeMap.getElem?_filterMap', ExtTreeMap.getElem?_map]
    cases s.proposal.proposals[id]? <;> simp
  rw [Stores.stable, StableMemory.stores, proposals]
  rfl

end Rows

/-- No principal has two canister records. -/
def Stores.UniquePrincipals (s : Stores) : Prop :=
  ∀ first second firstCanister secondCanister,
    s.canister.getCanister first = some firstCanister →
      s.canister.getCanister second = some secondCanister →
        firstCanister.principal = secondCanister.principal → first = second

/-- Where each record is the one that its principal leads to, the index is complete. -/
theorem CanisterState.migratePrincipalCanisterIndex_eq_self
    {s : Stores}
    (oneRecordEach : s.OneRecordEach) :
    s.canister.migratePrincipalCanisterIndex = s.canister := by
  have index :
      s.canister.canisters.toList.foldl
        (fun index row => index.insert row.2.principal row.1) s.canister.principalCanisterIndex =
          s.canister.principalCanisterIndex := by
    apply foldl_eq_self
    rintro ⟨canisterId, canister⟩ member
    have stored := ExtTreeMap.mem_toList_iff_getElem?_eq_some.mp member
    exact insert_eq_self (oneRecordEach canisterId canister stored)
  rw [CanisterState.migratePrincipalCanisterIndex, index]

section Transparency

variable [Host]

/-- With one record each, the index of principals leads back to every record. -/
theorem Stores.CanistersIndexed.oneRecordEach
    {s : Stores}
    (indexed : s.CanistersIndexed)
    (unique : s.UniquePrincipals) :
    s.OneRecordEach := by
  intro canisterId canister stored
  obtain ⟨other, led⟩ := Option.isSome_iff_exists.mp (indexed.indexed canisterId canister stored)
  obtain ⟨otherCanister, otherStored, same⟩ := indexed.found canister.principal other led
  have identical : other = canisterId :=
    unique other canisterId otherCanister canister otherStored stored same
  rw [led, identical]

/-- What a profile claims it holds verified. -/
theorem UserProfile.verifiedKey_of_claimed
    {profile : UserProfile}
    {key : VerifiedEmailKey}
    (claimed : profile.claimedKey = some key) :
    profile.verifiedKey = some key := by
  unfold UserProfile.claimedKey at claimed
  unfold UserProfile.verifiedKey
  split at claimed
  · rename_i verified
    obtain ⟨raw, stored, found⟩ := Option.bind_eq_some_iff.mp claimed
    have normal : normalizeEmail raw = key := by
      simp only [VerifiedEmailKey.fromLegacyStorageUnchecked] at found
      split at found
      · cases found
      · exact Option.some.inj found
    rw [if_pos verified, stored, Option.map_some, normal]
  · cases claimed

namespace UserProfileState.VerifiedEmailsAgree

variable {state : UserProfileState}

/-- Where the index agrees with the profiles, it leads from a claim to the claimant. -/
theorem indexed_of_claimed
    {row : UserId × UserProfile}
    {key : VerifiedEmailKey}
    (agree : state.VerifiedEmailsAgree)
    (stored : row ∈ state.profiles.toList)
    (claimed : row.2.claimedKey = some key) :
    state.verifiedEmailIndex[key]? = some row.1 := by
  have found : state.getUserProfileByUserId row.1 = some row.2 :=
    ExtTreeMap.mem_toList_iff_getElem?_eq_some.mp stored
  have verified := UserProfile.verifiedKey_of_claimed claimed
  apply (agree.inverts key row.1).mpr
  rw [verifiedKeyOf_of_stored found, verified]

/-- Two rows with one claim are the same row. -/
private theorem same_row
    {first second : UserId × UserProfile}
    {key : VerifiedEmailKey}
    (agree : state.VerifiedEmailsAgree)
    (firstClaims :
      first ∈ state.profiles.toList ∧ decide (first.2.claimedKey = some key) = true)
    (secondClaims :
      second ∈ state.profiles.toList ∧ decide (second.2.claimedKey = some key) = true) :
    first = second := by
  have leads := agree.indexed_of_claimed firstClaims.1 (of_decide_eq_true firstClaims.2)
  have alsoLeads := agree.indexed_of_claimed secondClaims.1 (of_decide_eq_true secondClaims.2)
  have sameUser : first.1 = second.1 := Option.some.inj (leads.symm.trans alsoLeads)
  have stored := ExtTreeMap.mem_toList_iff_getElem?_eq_some.mp firstClaims.1
  have alsoStored := ExtTreeMap.mem_toList_iff_getElem?_eq_some.mp secondClaims.1
  rw [sameUser, alsoStored] at stored
  exact Prod.ext sameUser (Option.some.inj stored).symm

/-- Every claim is made by one account, which the index has already. -/
theorem settled
    {claim : VerifiedEmailKey × List UserId}
    (agree : state.VerifiedEmailsAgree)
    (made : claim ∈ state.claimants.toList) :
    ∃ userId, claim.2 = [userId] ∧ state.verifiedEmailIndex[claim.1]? = some userId := by
  rcases claim with ⟨key, users⟩
  have group := ExtTreeMap.mem_toList_iff_getElem?_eq_some.mp made
  rw [claimants, getElem?_groupBy] at group
  split at group
  · cases group
  · rename_i claimed
    obtain ⟨row, member⟩ := List.exists_mem_of_ne_nil _ claimed
    have same :
        ∀ other ∈ rowsOf (fun row => row.2.claimedKey) state.profiles.toList key, other = row := by
      intro other otherMember
      exact agree.same_row (List.mem_filter.mp otherMember) (List.mem_filter.mp member)
    have once : (rowsOf (fun row => row.2.claimedKey) state.profiles.toList key).Nodup :=
      (StableIndex.nodup_entries state.profiles).filter _
    have single : rowsOf (fun row => row.2.claimedKey) state.profiles.toList key = [row] := by
      apply List.perm_singleton.mp
      apply (List.perm_ext_iff_of_nodup once (List.nodup_singleton row)).mpr
      intro other
      rw [List.mem_singleton]
      exact ⟨same other, fun equal => equal ▸ member⟩
    have users_eq : [row.1] = users := by
      rw [single] at group
      exact Option.some.inj group
    have claims := List.mem_filter.mp member
    exact
      ⟨row.1, users_eq.symm, agree.indexed_of_claimed claims.1 (of_decide_eq_true claims.2)⟩

/-- Where the index agrees with the profiles, the migration finds nothing to do. -/
theorem migrateVerifiedEmailIndex_eq_self
    (agree : state.VerifiedEmailsAgree) :
    state.migrateVerifiedEmailIndex = state := by
  apply foldl_eq_self
  intro claim made
  obtain ⟨userId, single, indexed⟩ := agree.settled made
  rw [settleClaim, single]
  change { state with verifiedEmailIndex := state.verifiedEmailIndex.insert claim.1 userId } = state
  rw [insert_eq_self indexed]

end UserProfileState.VerifiedEmailsAgree

variable [RowFormat]

/-- Where the indexes agree with the records and profiles, no migration changes anything. -/
theorem postUpgrade_stable
    {s : Stores}
    (oneRecordEach : s.OneRecordEach)
    (agree : s.userProfile.VerifiedEmailsAgree) :
    postUpgrade (s.stable .empty) = some (s.stable .empty) := by
  have canisters : migratePrincipalCanisterIndex (s.stable .empty) = s.stable .empty := by
    rw [migratePrincipalCanisterIndex]
    change { s.stable .empty with canister := s.canister.migratePrincipalCanisterIndex } = _
    rw [CanisterState.migratePrincipalCanisterIndex_eq_self oneRecordEach]
    rfl
  have emails : migrateVerifiedEmailIndex (s.stable .empty) = s.stable .empty := by
    rw [migrateVerifiedEmailIndex]
    change { s.stable .empty with userProfile := s.userProfile.migrateVerifiedEmailIndex } = _
    rw [agree.migrateVerifiedEmailIndex_eq_self]
    rfl
  have proposals := rewriteProposals_stable s .empty
  rw [postUpgrade, migrateOrgTeamPermissions_stable, migrateProjectTeamPermissions_stable,
    canisters, emails, migrateProposalsProposerId, proposals]
  exact proposals

/-- The migrations change nothing in a reachable world without doubly recorded principals. -/
theorem World.Reachable.postUpgrade_stable
    {world : World}
    (reachable : world.Reachable)
    (unique : world.stores.UniquePrincipals) :
    postUpgrade (world.stores.stable .empty) = some (world.stores.stable .empty) := by
  have indexed : world.stores.CanistersIndexed := reachable.canistersIndexed
  exact Backend.postUpgrade_stable (indexed.oneRecordEach unique) reachable.verifiedEmailsAgree

/-- A deployed canister: its world and the tables that earlier releases wrote. -/
structure Deployment where
  world : World
  legacy : LegacyTables

/-- What happens to a deployed canister. -/
inductive Lifecycle
  | event (event : Event)
  | upgrade

namespace Lifecycle

/-- Whether it is an event rather than an upgrade. -/
def isEvent : Lifecycle → Bool
  | .event _ => true
  | .upgrade => false

/-- Whether it is an event that reads the pending link codes. -/
def readsLinkCodes : Lifecycle → Bool
  | .event happened => happened.readsLinkCodes
  | .upgrade => false

end Lifecycle

namespace Deployment

/-- A newly installed canister. -/
def empty : Deployment :=
  ⟨World.empty, .empty⟩

/-- Replace the code: only stable memory is left, and `post_upgrade` migrates it.  Nothing
is in flight then. -/
def upgrade (deployment : Deployment) : Option Deployment :=
  if deployment.world.inFlight = [] then
    (postUpgrade (deployment.world.stores.stable deployment.legacy)).map fun memory =>
      ⟨⟨memory.stores deployment.world.stores.drawn, []⟩, memory.legacy⟩
  else
    none

/-- One event or one upgrade; events do not touch the tables of earlier releases. -/
def step (deployment : Deployment) : Lifecycle → Option Deployment
  | .event event =>
      (World.endpointStep deployment.world event).map fun world => ⟨world, deployment.legacy⟩
  | .upgrade => deployment.upgrade

/-- A run of events and upgrades with the answers to its events.  Whenever it upgrades, no
principal has two records. -/
inductive Serves :
    Deployment → List Lifecycle → List (Except Failure Slot) → Deployment → Prop
  | stop {deployment : Deployment} : Serves deployment [] [] deployment
  | event
      {deployment next last : Deployment}
      {event : Event}
      {answer : Except Failure Slot}
      {changes : List Lifecycle}
      {answers : List (Except Failure Slot)}
      (answered : deployment.world.answer event = some answer)
      (stepped : deployment.step (.event event) = some next)
      (rest : Serves next changes answers last) :
      Serves deployment (.event event :: changes) (answer :: answers) last
  | upgrade
      {deployment next last : Deployment}
      {changes : List Lifecycle}
      {answers : List (Except Failure Slot)}
      (unique : deployment.world.stores.UniquePrincipals)
      (stepped : deployment.step .upgrade = some next)
      (rest : Serves next changes answers last) :
      Serves deployment (.upgrade :: changes) answers last

omit [RowFormat] in
/-- The world is one that events alone lead to, and no rows of earlier releases are there. -/
structure Operated (deployment : Deployment) : Prop where
  reachable :
    MessageRun.Reachable World.endpointStep (fun _ _ => True) World.empty deployment.world
  noLegacy : deployment.legacy = .empty

variable {deployment last : Deployment} {changes : List Lifecycle}
variable {answers : List (Except Failure Slot)}

/-- An upgrade of an operated canister changes nothing but the link codes. -/
theorem Operated.upgrade_eq
    (operated : deployment.Operated)
    (unique : deployment.world.stores.UniquePrincipals)
    (idle : deployment.world.inFlight = []) :
    deployment.upgrade = some ⟨deployment.world.setLinkCodes ∅, .empty⟩ := by
  rcases deployment with ⟨world, legacy⟩
  obtain rfl : legacy = .empty := operated.noLegacy
  have reachable : world.Reachable := World.Reachable.of_endpoints operated.reachable
  have unchanged := reachable.postUpgrade_stable unique
  have restarted := stores_stable world.stores .empty
  have suspended : world.inFlight = [] := idle
  rw [upgrade, if_pos idle, unchanged, Option.map_some, restarted, World.setLinkCodes, suspended]
  rfl

/-- Only an idle canister is upgraded. -/
theorem idle_of_upgrade
    {next : Deployment}
    (stepped : deployment.step .upgrade = some next) :
    deployment.world.inFlight = [] := by
  by_contra busy
  rw [step, upgrade, if_neg busy] at stepped
  cases stepped

omit [RowFormat] in
/-- Without its codes a world is one that events lead to: a late link attempt drops them. -/
theorem Operated.forget
    (operated : deployment.Operated) :
    Operated ⟨deployment.world.setLinkCodes ∅, .empty⟩ where
  reachable := by
    obtain ⟨event, stepped⟩ := deployment.world.exists_forgetting
    exact .step operated.reachable trivial stepped
  noLegacy := rfl

/-- Events and upgrades lead to worlds that events alone lead to. -/
theorem Serves.operated
    (serves : Serves deployment changes answers last)
    (operated : deployment.Operated) :
    last.Operated := by
  induction serves with
  | stop => exact operated
  | event answered stepped rest ih =>
      obtain ⟨world, moved, rfl⟩ := Option.map_eq_some_iff.mp stepped
      exact ih ⟨.step operated.reachable trivial moved, operated.noLegacy⟩
  | upgrade unique stepped rest ih =>
      have upgraded := operated.upgrade_eq unique (idle_of_upgrade stepped)
      obtain rfl := Option.some.inj (upgraded.symm.trans stepped)
      exact ih operated.forget

/-- Without its upgrades, a run that does not read the codes gives the same answers and the
same world but for the codes; the induction carries the codes that the other run has. -/
theorem Serves.withoutUpgrades
    (serves : Serves deployment changes answers last)
    (operated : deployment.Operated)
    (blind : ∀ change ∈ changes, change.readsLinkCodes = false)
    (codes : ExtTreeMap UserId PendingLinkCode) :
    ∃ later,
      Serves ⟨deployment.world.setLinkCodes codes, deployment.legacy⟩
        (changes.filter Lifecycle.isEvent) answers
        ⟨last.world.setLinkCodes later, last.legacy⟩ := by
  induction serves generalizing codes with
  | stop => exact ⟨codes, .stop⟩
  | @event _ _ _ event _ _ _ answered stepped rest ih =>
      obtain ⟨world, moved, rfl⟩ := Option.map_eq_some_iff.mp stepped
      have unread : event.readsLinkCodes = false := blind (.event event) List.mem_cons_self
      obtain ⟨sameAnswer, moving, movesAlike⟩ :=
        World.endpointStep_setLinkCodes codes unread moved
      obtain ⟨later, served⟩ :=
        ih ⟨.step operated.reachable trivial moved, operated.noLegacy⟩
          (fun change member => blind change (List.mem_cons_of_mem _ member)) moving
      refine ⟨later, .event (sameAnswer.trans answered) ?_ served⟩
      rw [step, movesAlike]
      rfl
  | upgrade unique stepped rest ih =>
      have upgraded := operated.upgrade_eq unique (idle_of_upgrade stepped)
      obtain rfl := Option.some.inj (upgraded.symm.trans stepped)
      have legacy := operated.noLegacy
      obtain ⟨later, served⟩ :=
        ih operated.forget (fun change member => blind change (List.mem_cons_of_mem _ member)) codes
      refine ⟨later, ?_⟩
      rw [legacy]
      exact served

/-- However often an operated canister is upgraded, it only loses the link codes. -/
theorem Operated.upgrades_eq
    (count : Nat)
    (operated : deployment.Operated)
    (unique : deployment.world.stores.UniquePrincipals)
    (idle : deployment.world.inFlight = []) :
    runEvents step deployment (List.replicate (count + 1) .upgrade) =
      some ⟨deployment.world.setLinkCodes ∅, .empty⟩ := by
  induction count generalizing deployment with
  | zero =>
      have once := operated.upgrade_eq unique idle
      rw [List.replicate_one, runEvents, step, once]
      rfl
  | succ count ih =>
      have once := operated.upgrade_eq unique idle
      rw [List.replicate_succ, runEvents, step, once]
      exact ih operated.forget unique idle

omit [RowFormat] in
/-- A newly installed canister has served nothing yet. -/
theorem Operated.empty : Operated .empty :=
  ⟨.initial, rfl⟩

end Deployment

/-- Where no principal has two records, the migrations leave stable memory as it is.  Runs of
events and upgrades lead to worlds that events alone lead to; there any number of upgrades
loses the link codes only; and leaving out the upgrades of a run that does not read the codes
changes no answer and nothing in its last world but the codes. -/
theorem upgradesTransparent :
    (∀ world : World,
        world.Reachable → world.stores.UniquePrincipals →
          postUpgrade (world.stores.stable .empty) = some (world.stores.stable .empty)) ∧
      ∀ changes answers last,
        Deployment.Serves .empty changes answers last →
          last.Operated ∧
            (last.world.stores.UniquePrincipals → last.world.inFlight = [] →
              ∀ count,
                runEvents Deployment.step last (List.replicate (count + 1) .upgrade) =
                  some ⟨last.world.setLinkCodes ∅, .empty⟩) ∧
            ((∀ change ∈ changes, change.readsLinkCodes = false) →
              ∃ plain codes,
                Deployment.Serves .empty (changes.filter Lifecycle.isEvent) answers plain ∧
                  last = ⟨plain.world.setLinkCodes codes, plain.legacy⟩) := by
  refine ⟨fun world reachable unique => reachable.postUpgrade_stable unique, ?_⟩
  intro changes answers last serves
  have operated := serves.operated .empty
  refine ⟨operated, fun unique idle count => operated.upgrades_eq count unique idle, ?_⟩
  intro blind
  obtain ⟨later, served⟩ := serves.withoutUpgrades .empty blind ∅
  exact ⟨_, last.world.stores.pendingLinkCodes, served, rfl⟩

end Transparency

section Release

open TextualHost

attribute [local instance] host
attribute [local instance] standardRows

/-- The founder signs up, registers a link code and creates a canister. -/
def firstCanister : List Event :=
  [.message (callBy founder) .createMyUserProfile,
    .message (callBy operator) (.adminUpdateUserProfile (idText 0) (some .active)),
    .message (callBy founder) (.registerLinkCode "AB12CD34" (principal 9)),
    .message (callBy founder) (.createProposal (idText 3) (some .createCanister)),
    .reply 1700000000000000000 0 (.canisterCreated (principal 7))]

/-- The founder creates a team. -/
def newTeam : Event :=
  .message (callBy founder) (.createTeam (idText 1) "Platform")

/-- The canister is upgraded before the founder creates a team. -/
def release : List Lifecycle :=
  firstCanister.map .event ++ [.upgrade, .event newTeam]

/-- An event that happens has an answer. -/
private theorem exists_answer
    {world after : World}
    {event : Event}
    (stepped : World.endpointStep world event = some after) :
    ∃ answer, world.answer event = some answer := by
  cases event with
  | message call request => exact ⟨_, rfl⟩
  | reply now index reply =>
      obtain ⟨inFlight, waiting, continued⟩ := Option.bind_eq_some_iff.mp stepped
      obtain ⟨slice, resumed, -⟩ := Option.map_eq_some_iff.mp continued
      refine ⟨(outcome (reportAs .api slice) world.stores).1, ?_⟩
      rw [World.answer, waiting, Option.bind_some, resumed, Option.map_some]

/-- Events that gates admit are served, and then what follows them. -/
private theorem serves_admitted
    {events : List Event}
    {world after : World}
    {changes : List Lifecycle}
    {answers : List (Except Failure Slot)}
    {last : Deployment}
    (ran : runEvents World.admittedStep world events = some after)
    (follows : Deployment.Serves ⟨after, .empty⟩ changes answers last) :
    ∃ answers, Deployment.Serves ⟨world, .empty⟩ (events.map .event ++ changes) answers last := by
  induction events generalizing world with
  | nil =>
      obtain rfl := Option.some.inj ran
      exact ⟨answers, follows⟩
  | cons event events ih =>
      obtain ⟨next, admitted, others⟩ := Option.bind_eq_some_iff.mp ran
      have stepped := World.endpointStep_of_admitted admitted
      obtain ⟨answer, answered⟩ := exists_answer stepped
      obtain ⟨later, served⟩ := ih others
      refine ⟨answer :: later, .event answered ?_ served⟩
      rw [Deployment.step, stepped]
      rfl

/-- The records of a table may be compared one by one. -/
private theorem uniquePrincipals_of_rows
    {s : Stores}
    (distinct :
      ∀ first ∈ s.canister.canisters.toList, ∀ second ∈ s.canister.canisters.toList,
        first.2.principal = second.2.principal → first.1 = second.1) :
    s.UniquePrincipals := by
  intro first second firstCanister secondCanister firstStored secondStored same
  have firstRow := ExtTreeMap.mem_toList_iff_getElem?_eq_some.mpr firstStored
  have secondRow := ExtTreeMap.mem_toList_iff_getElem?_eq_some.mpr secondStored
  exact distinct (first, firstCanister) firstRow (second, secondCanister) secondRow same

/-- The founder gets the same answers whether or not the canister was upgraded. -/
theorem upgradesTransparent_release :
    ∃ answers last plain codes,
      Deployment.Serves .empty release answers last ∧
        Deployment.Serves .empty (release.filter Lifecycle.isEvent) answers plain ∧
          last = ⟨plain.world.setLinkCodes codes, plain.legacy⟩ := by
  obtain ⟨world, ran⟩ :=
    Option.isSome_iff_exists.mp
      (by decide +kernel :
        (runEvents World.admittedStep World.empty firstCanister).isSome = true)
  have evaluated :
      (runEvents World.admittedStep World.empty firstCanister).all
        (fun world =>
          decide (world.inFlight = []) &&
            decide
              (∀ first ∈ world.stores.canister.canisters.toList,
                ∀ second ∈ world.stores.canister.canisters.toList,
                  first.2.principal = second.2.principal → first.1 = second.1)) = true := by
    decide +kernel
  rw [ran, Option.all_some, Bool.and_eq_true] at evaluated
  have idle := of_decide_eq_true evaluated.1
  have unique := uniquePrincipals_of_rows (of_decide_eq_true evaluated.2)
  obtain ⟨_, before⟩ := serves_admitted ran Deployment.Serves.stop
  have upgraded := (before.operated .empty).upgrade_eq unique idle
  obtain ⟨_, last, follows⟩ :
      ∃ answers last,
        Deployment.Serves ⟨world.setLinkCodes ∅, .empty⟩ [.event newTeam] answers last :=
    ⟨_, _, .event rfl rfl .stop⟩
  obtain ⟨answers, served⟩ :=
    serves_admitted ran (Deployment.Serves.upgrade unique upgraded follows)
  obtain ⟨plain, codes, plainly, same⟩ :=
    (upgradesTransparent.2 release answers last served).2.2 (by decide +kernel)
  exact ⟨answers, last, plain, codes, served, plainly, same⟩

end Release

end SsnConsole.Backend
