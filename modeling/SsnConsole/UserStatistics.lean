import SsnConsole.EmailMigration
import SsnConsole.MaintainedRuns
import SsnConsole.StableTotals

/-!
# The user statistics

The numbers of accounts, of active ones and of inactive ones are stored beside the
profiles.  Two operations move them, and every other one that writes a profile back
leaves its status as it is stored.
-/

namespace SsnConsole.Backend

open Std (ExtTreeMap)
open SsnConsole.MessageRun
open SsnConsole.StableIndex
open SsnConsole.StableTotals

section Counting

namespace UserProfileState

/-- How many accounts have a status that counts. -/
def countAccounts (state : UserProfileState) (counts : UserStatus → Bool) : Nat :=
  total (fun _ profile => if counts profile.status then 1 else 0) state.profiles

/-- How many accounts have a status. -/
def countStatus (state : UserProfileState) (status : UserStatus) : Nat :=
  state.countAccounts fun other => decide (other = status)

variable {state after : UserProfileState} {userId : UserId} {profile stored : UserProfile}
variable {counts : UserStatus → Bool}

/-- All accounts are counted if every status counts. -/
theorem countAccounts_all :
    (state.countAccounts fun _ => true) = state.profiles.size := by
  simp [countAccounts, total, ExtTreeMap.length_toList]

/-- A profile that is replaced is counted by its new status. -/
theorem countAccounts_storeProfile
    (found : state.getUserProfileByUserId userId = some stored) :
    ((state.storeProfile userId profile).countAccounts counts +
        if counts stored.status then 1 else 0) =
      state.countAccounts counts + if counts profile.status then 1 else 0 := by
  have replaced :=
    total_insert (fun (_ : UserId) (profile : UserProfile) =>
      if counts profile.status then 1 else 0) state.profiles userId profile
  have before : state.profiles[userId]? = some stored := found
  rw [weightAt, before] at replaced
  exact replaced

/-- A new profile is counted by its status. -/
theorem countAccounts_insert
    (fresh : state.getUserProfileByUserId userId = none) :
    (state.storeProfile userId profile).countAccounts counts =
      state.countAccounts counts + if counts profile.status then 1 else 0 := by
  have added :=
    total_insert (fun (_ : UserId) (profile : UserProfile) =>
      if counts profile.status then 1 else 0) state.profiles userId profile
  have before : state.profiles[userId]? = none := fresh
  rw [weightAt, before] at added
  exact added

/-- A stored account is one of those with its status. -/
theorem countStatus_pos
    (found : state.getUserProfileByUserId userId = some stored) :
    0 < state.countStatus stored.status := by
  have one :=
    weightAt_le_total (fun (_ : UserId) (profile : UserProfile) =>
      if decide (profile.status = stored.status) = true then 1 else 0) state.profiles userId
  have before : state.profiles[userId]? = some stored := found
  rw [weightAt, before] at one
  simp only [Option.map_some, decide_true, if_true, Option.getD_some] at one
  exact one

/-- No status has more accounts than there are. -/
theorem countStatus_le
    (status : UserStatus) :
    state.countStatus status ≤ state.profiles.size := by
  rw [← countAccounts_all, countStatus, countAccounts, countAccounts, total, total]
  apply List.sum_le_sum
  intro row _
  split <;> simp

end UserProfileState

end Counting

section Statuses

namespace UserProfileState

/-- The accounts are the same, with the same statuses, and the statistics too. -/
structure SameStatuses (state after : UserProfileState) : Prop where
  stats : after.stats = state.stats
  counts : ∀ counts, after.countAccounts counts = state.countAccounts counts
  users :
    ∀ userId,
      (after.getUserProfileByUserId userId).isSome =
        (state.getUserProfileByUserId userId).isSome

variable {state middle after : UserProfileState} {userId : UserId}
variable {profile stored : UserProfile}

/-- Profiles that are left alone keep their statuses. -/
theorem SameStatuses.of_profiles
    (profiles : after.profiles = state.profiles)
    (stats : after.stats = state.stats) :
    state.SameStatuses after where
  stats := stats
  counts counts := by
    rw [countAccounts, countAccounts, profiles]
  users userId := by
    rw [getUserProfileByUserId, getUserProfileByUserId, profiles]

/-- Statuses that are kept twice are kept. -/
theorem SameStatuses.trans
    (first : state.SameStatuses middle)
    (second : middle.SameStatuses after) :
    state.SameStatuses after where
  stats := second.stats.trans first.stats
  counts counts := (second.counts counts).trans (first.counts counts)
  users userId := (second.users userId).trans (first.users userId)

/-- A profile may be replaced by one with the same status. -/
theorem SameStatuses.storeProfile
    (found : state.getUserProfileByUserId userId = some stored)
    (status : profile.status = stored.status) :
    state.SameStatuses (state.storeProfile userId profile) where
  stats := rfl
  counts counts := by
    have replaced :
        ((state.storeProfile userId profile).countAccounts counts +
            if counts stored.status then 1 else 0) =
          state.countAccounts counts + if counts profile.status then 1 else 0 :=
      countAccounts_storeProfile found
    rw [status] at replaced
    exact Nat.add_right_cancel replaced
  users other := by
    rw [getUserProfileByUserId, UserProfileState.storeProfile, getElem?_insert_entry]
    split
    · rename_i same
      rw [same, found]
      rfl
    · rfl

/-- The index of verified addresses may change along with a profile. -/
theorem SameStatuses.storeProfileIndexed
    (index : ExtTreeMap VerifiedEmailKey UserId)
    (found : state.getUserProfileByUserId userId = some stored)
    (status : profile.status = stored.status) :
    state.SameStatuses
      ({ state with verifiedEmailIndex := index }.storeProfile userId profile) := by
  have indexed : state.SameStatuses { state with verifiedEmailIndex := index } :=
    .of_profiles rfl rfl
  exact indexed.trans (.storeProfile found status)

/-- Losing a flag leaves the status alone. -/
theorem SameStatuses.resetVerified
    (userId : UserId) :
    state.SameStatuses (state.resetVerified userId) := by
  unfold UserProfileState.resetVerified
  split
  · rename_i profile found
    exact .storeProfile found rfl
  · exact .of_profiles rfl rfl

/-- Losing flags leaves the statuses alone. -/
theorem SameStatuses.foldl_resetVerified
    (users : List UserId) :
    state.SameStatuses (users.foldl UserProfileState.resetVerified state) := by
  induction users generalizing state with
  | nil => exact .of_profiles rfl rfl
  | cons first rest inductionHypothesis =>
      exact (SameStatuses.resetVerified first).trans inductionHypothesis

/-- Settling a claim leaves the statuses alone. -/
theorem SameStatuses.settleClaim
    (claim : VerifiedEmailKey × List UserId) :
    state.SameStatuses (state.settleClaim claim) := by
  unfold UserProfileState.settleClaim
  split
  · exact .of_profiles rfl rfl
  · exact .foldl_resetVerified _

/-- The migration of the verified addresses leaves the statuses alone. -/
theorem SameStatuses.migrateVerifiedEmailIndex
    [Host] :
    state.SameStatuses state.migrateVerifiedEmailIndex := by
  have settled :
      ∀ (claims : EmailClaims) (state : UserProfileState),
        state.SameStatuses (claims.foldl UserProfileState.settleClaim state) := by
    intro claims
    induction claims with
    | nil => exact fun _ => .of_profiles rfl rfl
    | cons first rest inductionHypothesis =>
        intro state
        exact (SameStatuses.settleClaim first).trans (inductionHypothesis _)
  exact settled _ state

/-- The statistics are those of the stored profiles. -/
structure Counted (state : UserProfileState) : Prop where
  total : state.stats.total = UInt64.ofNat state.profiles.size
  active : state.stats.active = UInt64.ofNat (state.countStatus .active)
  inactive : state.stats.inactive = UInt64.ofNat (state.countStatus .inactive)

/-- Statuses that are kept are counted as before. -/
theorem Counted.of_same
    (counted : state.Counted)
    (same : state.SameStatuses after) :
    after.Counted where
  total := by
    rw [same.stats, ← countAccounts_all, same.counts, countAccounts_all]
    exact counted.total
  active := by
    rw [same.stats, countStatus, same.counts]
    exact counted.active
  inactive := by
    rw [same.stats, countStatus, same.counts]
    exact counted.inactive

/-- One account more is one more on the counter. -/
private theorem ofNat_add_one
    {fewer more : Nat}
    (one : more = fewer + 1) :
    UInt64.ofNat fewer + 1 = UInt64.ofNat more := by
  rw [one, UInt64.ofNat_add]
  rfl

/-- One account less is one less on the counter. -/
private theorem ofNat_sub_one
    {fewer more : Nat}
    (one : fewer + 1 = more) :
    UInt64.ofNat more - 1 = UInt64.ofNat fewer := by
  rw [← one, UInt64.ofNat_add]
  exact UInt64.add_sub_cancel _ _

/-- An account that changes its status is counted under the new one. -/
theorem Counted.updateStatus
    (counted : state.Counted)
    (found : state.getUserProfileByUserId userId = some stored)
    (status : UserStatus) :
    ((state.updateUserStatusCount (decide (stored.status = .active))
        (decide (status = .active))).storeProfile userId
      { stored with status := status }).Counted := by
  by_cases unchanged : stored.status = status
  · subst unchanged
    rw [updateUserStatusCount, if_pos rfl]
    exact counted.of_same (.storeProfile found rfl)
  · have moved :
        ∀ counts : UserStatus → Bool,
          ((state.storeProfile userId { stored with status := status }).countAccounts counts +
              if counts stored.status then 1 else 0) =
            state.countAccounts counts + if counts status then 1 else 0 :=
      fun _ => countAccounts_storeProfile found
    have all := moved fun _ => true
    have active := moved fun other => decide (other = .active)
    have inactive := moved fun other => decide (other = .inactive)
    rw [countAccounts_all, countAccounts_all] at all
    have sameTotal := Nat.add_right_cancel all
    -- The account leaves one status for the other: one counter falls and the other rises.
    cases before : stored.status with
    | active =>
        cases status with
        | active => exact (unchanged before).elim
        | inactive =>
            rw [before] at active inactive
            exact
              { total := counted.total.trans (congrArg UInt64.ofNat sameTotal.symm)
                active := (congrArg (· - 1) counted.active).trans (ofNat_sub_one active)
                inactive := (congrArg (· + 1) counted.inactive).trans (ofNat_add_one inactive) }
    | inactive =>
        cases status with
        | inactive => exact (unchanged before).elim
        | active =>
            rw [before] at active inactive
            exact
              { total := counted.total.trans (congrArg UInt64.ofNat sameTotal.symm)
                active := (congrArg (· + 1) counted.active).trans (ofNat_add_one active)
                inactive := (congrArg (· - 1) counted.inactive).trans (ofNat_sub_one inactive) }

/-- A new account, which is inactive, is counted. -/
theorem Counted.signUp
    {principal : Principal}
    (counted : state.Counted)
    (fresh : state.getUserProfileByUserId userId = none) :
    ((state.createUserProfile userId principal .default).incrementUserCount false).Counted := by
  have added :
      ∀ counts : UserStatus → Bool,
        (state.storeProfile userId .default).countAccounts counts =
          state.countAccounts counts + if counts .inactive then 1 else 0 :=
    fun _ => countAccounts_insert fresh
  have all := added fun _ => true
  have active := added fun other => decide (other = .active)
  have inactive := added fun other => decide (other = .inactive)
  rw [countAccounts_all, countAccounts_all] at all
  exact
    { total := (congrArg (· + 1) counted.total).trans (ofNat_add_one all)
      active := counted.active.trans (congrArg UInt64.ofNat active.symm)
      inactive := (congrArg (· + 1) counted.inactive).trans (ofNat_add_one inactive) }

end UserProfileState

end Statuses

section Runs

variable [Host] {call : Call} {request : Request} {s after : Stores}

/-- The account operations keep the statistics. -/
theorem AccountWrite.counted
    (write : AccountWrite call s request after)
    (counted : s.userProfile.Counted) :
    after.userProfile.Counted := by
  cases write with
  | @updateStatus _ status userId profile _ stored =>
      exact counted.updateStatus stored _
  | keepEmail _ stored | setEmail _ stored _ _ =>
      exact counted.of_same (.storeProfile stored rfl)
  | grantStaffPermissions _ _ stored | revokeStaffPermissions _ stored =>
      exact counted.of_same (.storeProfile stored rfl)
  | @replaceVerifiedEmail _ userId profile _ _ stored _ _ _ =>
      obtain ⟨index, released⟩ := s.userProfile.releaseOwnEmail_frame userId profile
      dsimp only
      rw [released]
      exact counted.of_same (.storeProfileIndexed index stored rfl)
  | verifyEmail _ _ stored _ _ claim =>
      obtain ⟨index, rfl⟩ := UserProfileState.claimVerifiedEmail_frame claim
      exact counted.of_same (.storeProfileIndexed index stored rfl)
  | linkMyPrincipal _ _ _ link | adminLinkPrincipalToUser _ _ _ _ _ link
  | recoverAccountByEmail _ _ _ _ _ link =>
      obtain ⟨-, -, rfl⟩ := UserProfileState.linkPrincipalToUser_ok link
      exact counted.of_same (.of_profiles rfl rfl)
  | unlinkMyPrincipal _ unlink | adminUnlinkPrincipalFromUser _ _ unlink =>
      obtain rfl := UserProfileState.unlinkPrincipalFromUser_ok unlink
      exact counted.of_same (.of_profiles rfl rfl)
  | setMyPrincipalName _ _ rename =>
      obtain ⟨names, rfl⟩ := UserProfileState.setPrincipalName_ok rename
      exact counted.of_same (.of_profiles rfl rfl)
  | registerLinkCode _ _ | pruneLinkCodes | spendLinkCode | revokeMyLinkCode _
  | grantServicePrincipalPermissions _ _ _ | revokeServicePrincipalPermissions _
  | changeDecision _ | makeDecision | createTermsAndConditions =>
      exact counted

/-- The statistics are those of the profiles, and the next account is a new one. -/
structure Stores.UsersCounted (s : Stores) : Prop where
  counted : s.userProfile.Counted
  fresh :
    ∀ index, s.drawn ≤ index →
      s.userProfile.getUserProfileByUserId ⟨Host.draw index⟩ = none

namespace Stores.UsersCounted

/-- No accounts are counted as none. -/
theorem empty : Stores.empty.UsersCounted where
  counted :=
    { total := rfl
      active := rfl
      inactive := rfl }
  fresh _ _ := by
    simp [Stores.empty, UserProfileState.empty, UserProfileState.getUserProfileByUserId]

/-- The accounts are counted where they stay the same ones. -/
theorem of_counted
    (users : s.UsersCounted)
    (counted : after.userProfile.Counted)
    (same :
      ∀ userId,
        (after.userProfile.getUserProfileByUserId userId).isSome =
          (s.userProfile.getUserProfileByUserId userId).isSome)
    (drawn : s.drawn ≤ after.drawn) :
    after.UsersCounted where
  counted := counted
  fresh index later := by
    have unknown := users.fresh index (drawn.trans later)
    have still := same ⟨Host.draw index⟩
    rw [unknown] at still
    exact Option.not_isSome_iff_eq_none.mp (Bool.eq_false_iff.mp still)

/-- The accounts are counted where their store is left alone. -/
theorem of_same
    (users : s.UsersCounted)
    (same : after.userProfile = s.userProfile)
    (drawn : s.drawn ≤ after.drawn) :
    after.UsersCounted := by
  apply users.of_counted ?_ ?_ drawn
  · rw [same]
    exact users.counted
  · intro userId
    rw [same]

/-- A new account is counted. -/
theorem signingUp
    {principal : Principal}
    (users : s.UsersCounted) :
    (s.signingUp principal).UsersCounted := by
  have unknown : s.userProfile.getUserProfileByUserId s.nextId = none :=
    users.fresh s.drawn (le_refl _)
  obtain ⟨policies, drawn, grown, founded⟩ :=
    Stores.founding_eq
      { s with
        userProfile :=
          (s.userProfile.createUserProfile s.nextId principal .default).incrementUserCount false
        drawn := s.drawn + 1 }
      s.nextId OrganizationRepository.defaultOrganization
  rw [Stores.signingUp, founded]
  dsimp only at grown
  refine ⟨users.counted.signUp unknown, ?_⟩
  intro index later
  dsimp only at later
  have afterwards : s.drawn < index := by
    omega
  have distinct : (⟨Host.draw index⟩ : UserId) ≠ s.nextId := by
    intro same
    have sameDraw := Host.draw_injective (congrArg Id.uuid same)
    exact absurd sameDraw afterwards.ne'
  have kept :
      (s.userProfile.createUserProfile s.nextId principal .default).getUserProfileByUserId
          ⟨Host.draw index⟩ =
        s.userProfile.getUserProfileByUserId ⟨Host.draw index⟩ := by
    rw [UserProfileState.getUserProfileByUserId, UserProfileState.createUserProfile,
      getElem?_insert_entry, if_neg distinct]
    rfl
  exact kept.trans (users.fresh index afterwards.le)

end Stores.UsersCounted

/-- Every message keeps the accounts counted. -/
theorem Handled.usersCounted
    {result : Except Failure Slot}
    (handled : Handled call s request result after)
    (drawn : s.drawn ≤ after.drawn)
    (users : s.UsersCounted) :
    after.UsersCounted := by
  cases handled.reachesAccounts with
  | elsewhere same =>
      exact users.of_same same.userProfile drawn
  | signUp _ =>
      exact users.signingUp
  | account write =>
      apply users.of_counted (write.counted users.counted) ?_ drawn
      intro userId
      have same := write.sameMembership.users userId
      rw [ExtTreeMap.mem_iff_isSome_getElem?, ExtTreeMap.mem_iff_isSome_getElem?] at same
      exact Bool.eq_iff_iff.mpr same

/-- Migrations keep the accounts counted. -/
theorem MigrationEffect.usersCounted
    (effect : MigrationEffect s after)
    (users : s.UsersCounted) :
    after.UsersCounted := by
  have drawn : s.drawn ≤ after.drawn := effect.drawn.ge
  rcases effect.userProfile with same | migrated
  · exact users.of_same same drawn
  · have kept : s.userProfile.SameStatuses s.userProfile.migrateVerifiedEmailIndex :=
      .migrateVerifiedEmailIndex
    rw [← migrated] at kept
    exact users.of_counted (users.counted.of_same kept) kept.users drawn

variable [RowFormat]

/-- Every step of a run with migrations keeps the accounts counted. -/
theorem World.usersCounted_of_upkeep
    {world next : World}
    {change : Upkeep}
    (stepped : world.upkeep change = some next)
    (users : world.stores.UsersCounted) :
    next.stores.UsersCounted := by
  rcases World.upkeep_cases stepped with ⟨event, -, taken⟩ | effect
  · have drawn := taken.canisterChange.drawn_le
    cases taken with
    | message handled => exact handled.usersCounted drawn users
    | reply _ resumed => exact users.of_same resumed.sameAccess.userProfile drawn
  · exact effect.usersCounted users

/-- What the stored statistics say. -/
structure UserProfileState.Statistics (state : UserProfileState) : Prop where
  counted : state.Counted
  /-- A table has fewer than `2 ^ 64` rows, as its length is stored as a `u64`. -/
  exact :
    state.profiles.size < 2 ^ 64 →
      state.stats.total.toNat = state.profiles.size ∧
        state.stats.active.toNat = state.countStatus .active ∧
          state.stats.inactive.toNat = state.countStatus .inactive
  /-- The counter that a change of status decrements is not zero. -/
  noUnderflow :
    state.profiles.size < 2 ^ 64 →
      ∀ userId profile, state.getUserProfileByUserId userId = some profile →
        ∀ status, profile.status ≠ status →
          0 < (if status = .active then state.stats.inactive else state.stats.active).toNat

omit [Host] [RowFormat] in
/-- A number of accounts that fits is what its counter says. -/
theorem UserProfileState.Counted.statistics
    {state : UserProfileState}
    (counted : state.Counted) :
    state.Statistics := by
  have counters :
      state.profiles.size < 2 ^ 64 →
        state.stats.total.toNat = state.profiles.size ∧
          state.stats.active.toNat = state.countStatus .active ∧
            state.stats.inactive.toNat = state.countStatus .inactive := by
    intro fits
    have active := state.countStatus_le .active
    have inactive := state.countStatus_le .inactive
    rw [counted.total, counted.active, counted.inactive]
    exact
      ⟨UInt64.toNat_ofNat_of_lt' fits, UInt64.toNat_ofNat_of_lt' (active.trans_lt fits),
        UInt64.toNat_ofNat_of_lt' (inactive.trans_lt fits)⟩
  refine ⟨counted, counters, ?_⟩
  intro fits userId profile found status changed
  obtain ⟨-, active, inactive⟩ := counters fits
  have positive := countStatus_pos found
  cases before : profile.status with
  | active =>
      rw [before] at positive changed
      rw [if_neg (Ne.symm changed), active]
      exact positive
  | inactive =>
      rw [before] at positive changed
      have activated : status = .active := by
        cases status with
        | active => rfl
        | inactive => exact (changed rfl).elim
      rw [if_pos activated, inactive]
      exact positive

/-- In every world that events and migrations lead to, the statistics count the profiles, and
no change of status makes a counter underflow. -/
theorem userStatistics_of_maintained
    {world : World}
    (maintained : world.Maintained) :
    world.stores.userProfile.Statistics := by
  have users : world.stores.UsersCounted := by
    induction maintained with
    | initial => exact Stores.UsersCounted.empty
    | step _ _ stepped inductionHypothesis =>
        exact World.usersCounted_of_upkeep stepped inductionHypothesis
  exact users.counted.statistics

end Runs

section TwoAccounts

open TextualHost

attribute [local instance] host
attribute [local instance] standardRows

/-- Two accounts sign up, one of them is activated, the profiles are migrated, and it is
deactivated again. -/
def statusChanges : List Upkeep :=
  [.event (.message (callBy founder) .createMyUserProfile),
    .event (.message (callBy colleague) .createMyUserProfile),
    .event (.message (callBy operator) (.adminUpdateUserProfile (idText 0) (some .active))),
    .migration .verifiedEmailIndex .empty,
    .event (.message (callBy founder) (.updateMyUserProfile (some "Ada@Example.org"))),
    .event (.message (callBy operator) (.adminUpdateUserProfile (idText 0) (some .inactive)))]

/-- The run in which their statuses change. -/
def changedStatuses : Execution World.upkeep World.empty :=
  .ofEvents statusChanges (.upgrade .empty) (by decide +kernel)

/-- The statistics count both accounts, before and after the deactivation. -/
theorem userStatistics_changedStatuses :
    (changedStatuses.state 5).stores.userProfile.Statistics ∧
      (changedStatuses.state 6).stores.userProfile.Statistics :=
  ⟨userStatistics_of_maintained (changedStatuses.reachable (by decide)),
    userStatistics_of_maintained (changedStatuses.reachable (by decide))⟩

/-- Two accounts are inactive in the end. -/
example : (changedStatuses.state 6).stores.userProfile.stats = ⟨2, 0, 2⟩ := by
  decide +kernel

end TwoAccounts

end SsnConsole.Backend
