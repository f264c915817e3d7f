import SsnConsole.TextualHost
import SsnConsole.Upgrades

/-!
# The migration of the verified addresses

`migrate_verified_email_index` groups the verified profiles by their normal
address.  An address with one claimant is indexed; the claimants of any other
lose their flag.  Index and profiles agree afterwards, so a second migration has
nothing to do.
-/

namespace SsnConsole.Backend

open Std (ExtTreeMap)
open SsnConsole.StableIndex

section Claims

/-- A profile without its `email_verified` flag. -/
def UserProfile.unverified (profile : UserProfile) : UserProfile :=
  { profile with emailVerified := false }

/-- Claims of addresses, with the accounts that make them. -/
abbrev EmailClaims : Type :=
  List (VerifiedEmailKey × List UserId)

/-- One of the claims is not the account's alone. -/
def EmailClaims.Collides (claims : EmailClaims) (userId : UserId) : Prop :=
  ∃ claim ∈ claims, (∀ owner, claim.2 ≠ [owner]) ∧ userId ∈ claim.2

/-- The rows once some claims are settled. -/
structure ClaimsSettled (claims : EmailClaims) (state after : UserProfileState) : Prop where
  indexed :
    ∀ key userId, after.verifiedEmailIndex[key]? = some userId ↔
      (key, [userId]) ∈ claims ∨ state.verifiedEmailIndex[key]? = some userId
  reset :
    ∀ userId, claims.Collides userId →
      after.profiles[userId]? = (state.profiles[userId]?).map UserProfile.unverified
  kept :
    ∀ userId, ¬claims.Collides userId → after.profiles[userId]? = state.profiles[userId]?
  rest :
    after =
      { state with
        profiles := after.profiles
        verifiedEmailIndex := after.verifiedEmailIndex }

variable {state : UserProfileState} {users : List UserId} {claims : EmailClaims}

/-- Dropping an account's flag drops it of its profile only. -/
theorem UserProfileState.getElem?_resetVerified
    (resetId userId : UserId) :
    (state.resetVerified resetId).profiles[userId]? =
      if userId = resetId then (state.profiles[userId]?).map UserProfile.unverified
      else state.profiles[userId]? := by
  unfold resetVerified
  cases found : state.profiles[resetId]? with
  | none =>
      dsimp only
      split
      · rename_i same
        rw [same, found, Option.map_none]
      · rfl
  | some profile =>
      dsimp only
      rw [getElem?_insert_entry]
      split
      · rename_i same
        rw [same, found, Option.map_some]
        rfl
      · rfl

/-- Dropping the flags of some accounts drops them of these profiles only. -/
theorem UserProfileState.getElem?_foldl_resetVerified
    (userId : UserId) :
    (users.foldl resetVerified state).profiles[userId]? =
      if userId ∈ users then (state.profiles[userId]?).map UserProfile.unverified
      else state.profiles[userId]? := by
  induction users generalizing state with
  | nil => rfl
  | cons first rest inductionHypothesis =>
      rw [List.foldl_cons, inductionHypothesis, getElem?_resetVerified]
      by_cases same : userId = first
      · subst same
        by_cases again : userId ∈ rest
        · cases state.profiles[userId]? <;> simp [again, UserProfile.unverified]
        · simp [again]
      · simp [same]

/-- Dropping flags touches nothing but profiles. -/
theorem UserProfileState.foldl_resetVerified_rest :
    users.foldl resetVerified state =
      { state with profiles := (users.foldl resetVerified state).profiles } := by
  induction users generalizing state with
  | nil => rfl
  | cons first rest inductionHypothesis =>
      rw [List.foldl_cons, inductionHypothesis]
      unfold resetVerified
      split <;> rfl

/-- A single claimant of a new address is indexed. -/
private theorem ClaimsSettled.owned
    {address : VerifiedEmailKey}
    {owner : UserId}
    (fresh : state.verifiedEmailIndex[address]? = none) :
    ClaimsSettled [(address, [owner])] state (state.settleClaim (address, [owner])) := by
  have none : ∀ userId, ¬EmailClaims.Collides [(address, [owner])] userId := by
    rintro userId ⟨claim, member, shared, -⟩
    cases List.mem_singleton.mp member
    exact shared owner rfl
  exact
    { indexed := by
        intro key userId
        rw [UserProfileState.settleClaim, getElem?_insert_entry, List.mem_singleton,
          Prod.mk.injEq]
        by_cases same : key = address
        · subst same
          simp [fresh, eq_comm]
        · simp [same]
      reset := fun userId collides => (none userId collides).elim
      kept := fun _ _ => rfl
      rest := rfl }

/-- Several claimants of an address lose their flags. -/
private theorem ClaimsSettled.shared
    {address : VerifiedEmailKey}
    (shared : ∀ owner, users ≠ [owner]) :
    ClaimsSettled [(address, users)] state (state.settleClaim (address, users)) := by
  have settled :
      state.settleClaim (address, users) =
        users.foldl UserProfileState.resetVerified state := by
    unfold UserProfileState.settleClaim
    split
    · rename_i owner same
      exact (shared owner same).elim
    · rfl
  have collides :
      ∀ userId, EmailClaims.Collides [(address, users)] userId ↔ userId ∈ users := by
    intro userId
    constructor
    · rintro ⟨claim, member, -, claimant⟩
      cases List.mem_singleton.mp member
      exact claimant
    · intro claimant
      exact ⟨_, List.mem_singleton_self _, shared, claimant⟩
  rw [settled]
  exact
    { indexed := by
        intro key userId
        rw [UserProfileState.foldl_resetVerified_rest, List.mem_singleton, Prod.mk.injEq]
        simp [(shared userId).symm]
      reset := by
        intro userId collision
        rw [UserProfileState.getElem?_foldl_resetVerified,
          if_pos ((collides userId).mp collision)]
      kept := by
        intro userId alone
        rw [UserProfileState.getElem?_foldl_resetVerified,
          if_neg (mt (collides userId).mpr alone)]
      rest := by
        rw [UserProfileState.foldl_resetVerified_rest] }

/-- A claim of a new address is settled. -/
theorem ClaimsSettled.single
    {claim : VerifiedEmailKey × List UserId}
    (fresh : state.verifiedEmailIndex[claim.1]? = none) :
    ClaimsSettled [claim] state (state.settleClaim claim) := by
  rcases claim with ⟨address, users⟩
  by_cases single : ∃ owner, users = [owner]
  · obtain ⟨owner, rfl⟩ := single
    exact .owned fresh
  · exact .shared fun owner same => single ⟨owner, same⟩

/-- Claims that are settled one after the other are settled together. -/
theorem ClaimsSettled.trans
    {middle after : UserProfileState}
    {first second : EmailClaims}
    (earlier : ClaimsSettled first state middle)
    (later : ClaimsSettled second middle after) :
    ClaimsSettled (first ++ second) state after where
  indexed key userId := by
    rw [later.indexed, earlier.indexed, List.mem_append, or_left_comm, or_assoc]
  reset userId collides := by
    obtain ⟨claim, member, shared, claimant⟩ := collides
    by_cases early : first.Collides userId
    · by_cases late : second.Collides userId
      · rw [later.reset userId late, earlier.reset userId early, Option.map_map]
        rfl
      · rw [later.kept userId late, earlier.reset userId early]
    · have late : second.Collides userId := by
        rcases List.mem_append.mp member with inFirst | inSecond
        · exact (early ⟨claim, inFirst, shared, claimant⟩).elim
        · exact ⟨claim, inSecond, shared, claimant⟩
      rw [later.reset userId late, earlier.kept userId early]
  kept userId alone := by
    have early : ¬first.Collides userId := by
      rintro ⟨claim, member, collision⟩
      exact alone ⟨claim, List.mem_append_left _ member, collision⟩
    have late : ¬second.Collides userId := by
      rintro ⟨claim, member, collision⟩
      exact alone ⟨claim, List.mem_append_right _ member, collision⟩
    rw [later.kept userId late, earlier.kept userId early]
  rest := by
    have both := later.rest
    rw [earlier.rest] at both
    exact both

/-- Claims of distinct new addresses are all settled. -/
theorem ClaimsSettled.foldl
    (distinct : claims.Pairwise fun first second => first.1 ≠ second.1)
    (fresh : ∀ claim ∈ claims, state.verifiedEmailIndex[claim.1]? = none) :
    ClaimsSettled claims state (claims.foldl UserProfileState.settleClaim state) := by
  induction claims generalizing state with
  | nil =>
      exact
        { indexed := by simp
          reset := by
            rintro userId ⟨claim, member, -⟩
            cases member
          kept := fun _ _ => rfl
          rest := rfl }
  | cons first rest inductionHypothesis =>
      obtain ⟨different, distinct⟩ := List.pairwise_cons.mp distinct
      have single : ClaimsSettled [first] state (state.settleClaim first) :=
        .single (fresh first List.mem_cons_self)
      apply single.trans
      apply inductionHypothesis distinct
      intro claim member
      apply Option.eq_none_iff_forall_ne_some.mpr
      intro userId indexed
      rcases (single.indexed _ _).mp indexed with same | before
      · exact different claim member (congrArg Prod.fst (List.mem_singleton.mp same)).symm
      · rw [fresh claim (List.mem_cons_of_mem _ member)] at before
        cases before

end Claims

section Migration

variable [Host] {state : UserProfileState} {key : VerifiedEmailKey} {userId : UserId}

namespace UserProfileState

/-- Every verified profile has an address that is not blank. -/
def VerifiedNonblank (state : UserProfileState) : Prop :=
  ∀ userId profile, state.getUserProfileByUserId userId = some profile →
    profile.emailVerified = true →
      ∃ raw, profile.email = some raw ∧ normalizeEmail raw ≠ ""

/-- The rows tell whether every profile has an address that is not blank. -/
theorem VerifiedNonblank.of_rows
    (addressed :
      ∀ row ∈ state.profiles.toList,
        (row.2.email.any fun raw => decide (normalizeEmail raw ≠ "")) = true) :
    state.VerifiedNonblank := by
  intro userId profile found _
  have row := addressed _ (ExtTreeMap.mem_toList_iff_getElem?_eq_some.mpr found)
  obtain ⟨raw, address, named⟩ := (Option.any_eq_true _ _).mp row
  exact ⟨raw, address, of_decide_eq_true named⟩

/-- The account is the only verified one with this normal address. -/
def SoleClaimant (state : UserProfileState) (key : VerifiedEmailKey) (userId : UserId) :
    Prop :=
  ∀ other, state.verifiedKeyOf other = some key ↔ other = userId

/-- Another verified account has the same normal address. -/
def Collided (state : UserProfileState) (userId : UserId) : Prop :=
  ∃ key other,
    state.verifiedKeyOf userId = some key ∧ state.verifiedKeyOf other = some key ∧
      other ≠ userId

/-- The accounts that claim an address, in the order of their identifiers. -/
def claimantsOf (state : UserProfileState) (key : VerifiedEmailKey) : List UserId :=
  (rowsOf (fun row => row.2.claimedKey) state.profiles.toList key).map Prod.fst

/-- The claims are those of the addresses that have claimants. -/
theorem mem_claimants
    {claim : VerifiedEmailKey × List UserId} :
    claim ∈ state.claimants.toList ↔
      claim.2 = state.claimantsOf claim.1 ∧ state.claimantsOf claim.1 ≠ [] := by
  rcases claim with ⟨key, users⟩
  rw [ExtTreeMap.mem_toList_iff_getElem?_eq_some, claimants, getElem?_groupBy, claimantsOf,
    ne_eq, List.map_eq_nil_iff]
  split
  · rename_i none
    simp [none]
  · rename_i some
    simp [some, eq_comm]

/-- No account claims an address twice. -/
theorem nodup_claimantsOf :
    (state.claimantsOf key).Nodup := by
  have rows :
      ((rowsOf (fun row => row.2.claimedKey) state.profiles.toList key).map Prod.fst).Sublist
        (state.profiles.toList.map Prod.fst) :=
    List.filter_sublist.map Prod.fst
  apply rows.nodup
  rw [ExtTreeMap.map_fst_toList_eq_keys]
  exact ExtTreeMap.nodup_keys

/-- Where verified profiles have addresses, they claim them. -/
theorem mem_claimantsOf
    (nonblank : state.VerifiedNonblank) :
    userId ∈ state.claimantsOf key ↔ state.verifiedKeyOf userId = some key := by
  rw [claimantsOf, List.mem_map]
  constructor
  · rintro ⟨row, member, rfl⟩
    obtain ⟨stored, claimed⟩ := List.mem_filter.mp member
    have found : state.getUserProfileByUserId row.1 = some row.2 :=
      ExtTreeMap.mem_toList_iff_getElem?_eq_some.mp stored
    rw [verifiedKeyOf_of_stored found]
    exact UserProfile.verifiedKey_of_claimed (of_decide_eq_true claimed)
  · intro holds
    obtain ⟨profile, found, held⟩ := Option.bind_eq_some_iff.mp holds
    refine ⟨(userId, profile), List.mem_filter.mpr ⟨?_, decide_eq_true ?_⟩, rfl⟩
    · exact ExtTreeMap.mem_toList_iff_getElem?_eq_some.mpr found
    · unfold UserProfile.verifiedKey at held
      split at held
      · rename_i verified
        obtain ⟨raw, address, named⟩ := nonblank userId profile found verified
        rw [address, Option.map_some] at held
        have claimed : profile.claimedKey = some (normalizeEmail raw) := by
          simp [UserProfile.claimedKey, verified, address,
            VerifiedEmailKey.fromLegacyStorageUnchecked, named]
        exact claimed.trans held
      · cases held

/-- A claim is a single account's exactly if that account is the sole claimant. -/
theorem mem_claimants_single
    (nonblank : state.VerifiedNonblank) :
    (key, [userId]) ∈ state.claimants.toList ↔ state.SoleClaimant key userId := by
  have members :
      state.SoleClaimant key userId ↔
        ∀ other, other ∈ state.claimantsOf key ↔ other = userId := by
    simp only [SoleClaimant, mem_claimantsOf nonblank]
  rw [mem_claimants, members]
  constructor
  · rintro ⟨single, -⟩ other
    rw [← single, List.mem_singleton]
  · intro sole
    have single : [userId].Perm (state.claimantsOf key) := by
      apply (List.perm_ext_iff_of_nodup (List.nodup_singleton _) nodup_claimantsOf).mpr
      intro other
      rw [List.mem_singleton, sole]
    have same := (List.perm_singleton.mp single.symm).symm
    exact ⟨same, same ▸ List.cons_ne_nil _ _⟩

/-- The accounts whose claims collide are those that share an address. -/
theorem collides_claimants
    (nonblank : state.VerifiedNonblank) :
    EmailClaims.Collides state.claimants.toList userId ↔ state.Collided userId := by
  constructor
  · rintro ⟨⟨key, users⟩, member, shared, claimant⟩
    obtain ⟨same, -⟩ := mem_claimants.mp member
    dsimp only at same
    subst same
    have holds := (mem_claimantsOf nonblank).mp claimant
    by_contra alone
    have single : (key, [userId]) ∈ state.claimants.toList := by
      apply (mem_claimants_single nonblank).mpr
      intro other
      constructor
      · intro otherHolds
        by_contra different
        exact alone ⟨key, other, holds, otherHolds, different⟩
      · rintro rfl
        exact holds
    exact shared userId (mem_claimants.mp single).1.symm
  · rintro ⟨key, other, holds, otherHolds, different⟩
    have claimant := (mem_claimantsOf nonblank).mpr holds
    refine ⟨(key, state.claimantsOf key), mem_claimants.mpr ⟨rfl, ?_⟩, ?_, claimant⟩
    · exact List.ne_nil_of_mem claimant
    · intro owner single
      have otherClaims := (mem_claimantsOf nonblank).mpr otherHolds
      dsimp only at single
      rw [single, List.mem_singleton] at claimant otherClaims
      exact different (otherClaims.trans claimant.symm)

/-- What the migration of a repository without an index comes to. -/
structure EmailsMigrated (state after : UserProfileState) : Prop where
  indexed :
    ∀ key userId, after.verifiedEmailIndex[key]? = some userId ↔ state.SoleClaimant key userId
  collided :
    ∀ userId profile, state.getUserProfileByUserId userId = some profile →
      state.Collided userId → after.getUserProfileByUserId userId = some profile.unverified
  kept :
    ∀ userId, ¬state.Collided userId →
      after.getUserProfileByUserId userId = state.getUserProfileByUserId userId
  rest :
    after =
      { state with
        profiles := after.profiles
        verifiedEmailIndex := after.verifiedEmailIndex }
  verified :
    ∀ userId profile, after.getUserProfileByUserId userId = some profile →
      (profile.emailVerified = true ↔
        ∃ raw, profile.email = some raw ∧
          after.verifiedEmailIndex[normalizeEmail raw]? = some userId)
  again : after.migrateVerifiedEmailIndex = after

/-- The migration settles every claim. -/
theorem claimsSettled_migrateVerifiedEmailIndex
    (unindexed : state.verifiedEmailIndex = ∅) :
    ClaimsSettled state.claimants.toList state state.migrateVerifiedEmailIndex := by
  apply ClaimsSettled.foldl
  · apply ExtTreeMap.distinct_keys_toList.imp
    intro first second different same
    exact different (Std.compare_eq_iff_eq.mpr same)
  · intro claim _
    rw [unindexed]
    exact ExtTreeMap.getElem?_empty

/-- An account whose claim collides is stored. -/
theorem Collided.stored
    (shared : state.Collided userId) :
    ∃ profile, state.getUserProfileByUserId userId = some profile := by
  obtain ⟨key, other, holds, -⟩ := shared
  obtain ⟨profile, found, -⟩ := Option.bind_eq_some_iff.mp holds
  exact ⟨profile, found⟩

/-- A sole claimant holds the address, and nobody shares it. -/
theorem soleClaimant_iff :
    state.SoleClaimant key userId ↔
      state.verifiedKeyOf userId = some key ∧ ¬state.Collided userId := by
  constructor
  · intro sole
    have holds := (sole userId).mpr rfl
    refine ⟨holds, ?_⟩
    rintro ⟨shared, other, held, otherHolds, different⟩
    rw [holds] at held
    cases held
    exact different ((sole other).mp otherHolds)
  · rintro ⟨holds, alone⟩ other
    constructor
    · intro otherHolds
      by_contra different
      exact alone ⟨key, other, holds, otherHolds, different⟩
    · rintro rfl
      exact holds

/-- A profile with a verified address is a verified profile with this address. -/
theorem verifiedKeyOf_eq_some
    {profile : UserProfile}
    (found : state.getUserProfileByUserId userId = some profile) :
    state.verifiedKeyOf userId = some key ↔
      profile.emailVerified = true ∧
        ∃ raw, profile.email = some raw ∧ normalizeEmail raw = key := by
  rw [verifiedKeyOf_of_stored found, UserProfile.verifiedKey]
  split
  · rename_i verified
    rw [Option.map_eq_some_iff, and_iff_right verified]
  · rename_i unverified
    simp [unverified]

/-- The address of a sole claimant is not blank. -/
theorem SoleClaimant.ne_empty
    (sole : state.SoleClaimant key userId)
    (nonblank : state.VerifiedNonblank) :
    key ≠ "" := by
  obtain ⟨holds, -⟩ := soleClaimant_iff.mp sole
  obtain ⟨profile, found, -⟩ := Option.bind_eq_some_iff.mp holds
  obtain ⟨verified, raw, address, normal⟩ := (verifiedKeyOf_eq_some found).mp holds
  obtain ⟨other, same, nonempty⟩ := nonblank userId profile found verified
  rw [address] at same
  cases same
  rwa [← normal]

section Settled

variable {after : UserProfileState}

/-- A settled index maps an address to its sole claimant. -/
theorem indexed_of_settled
    (settled : ClaimsSettled state.claimants.toList state after)
    (nonblank : state.VerifiedNonblank)
    (unindexed : state.verifiedEmailIndex = ∅) :
    after.verifiedEmailIndex[key]? = some userId ↔ state.SoleClaimant key userId := by
  rw [settled.indexed, mem_claimants_single nonblank, unindexed, ExtTreeMap.getElem?_empty]
  exact or_iff_left nofun

/-- Those who share an address are not verified any more. -/
theorem unverified_of_settled
    {profile : UserProfile}
    (settled : ClaimsSettled state.claimants.toList state after)
    (nonblank : state.VerifiedNonblank)
    (found : state.getUserProfileByUserId userId = some profile)
    (shared : state.Collided userId) :
    after.getUserProfileByUserId userId = some profile.unverified := by
  have reset := settled.reset userId ((collides_claimants nonblank).mpr shared)
  exact reset.trans (congrArg (Option.map UserProfile.unverified) found)

/-- The others keep their profiles. -/
theorem kept_of_settled
    (settled : ClaimsSettled state.claimants.toList state after)
    (nonblank : state.VerifiedNonblank)
    (alone : ¬state.Collided userId) :
    after.getUserProfileByUserId userId = state.getUserProfileByUserId userId :=
  settled.kept userId (mt (collides_claimants nonblank).mp alone)

/-- A profile keeps its verified address unless its claim collides. -/
theorem verifiedKeyOf_of_settled
    (settled : ClaimsSettled state.claimants.toList state after)
    (nonblank : state.VerifiedNonblank) :
    after.verifiedKeyOf userId = some key ↔
      state.verifiedKeyOf userId = some key ∧ ¬state.Collided userId := by
  by_cases shared : state.Collided userId
  · obtain ⟨profile, found⟩ := shared.stored
    rw [verifiedKeyOf_of_stored (unverified_of_settled settled nonblank found shared)]
    simp [UserProfile.verifiedKey, UserProfile.unverified, shared]
  · simp [verifiedKeyOf, kept_of_settled settled nonblank shared, shared]

/-- A settled index agrees with the profiles. -/
theorem agree_of_settled
    (settled : ClaimsSettled state.claimants.toList state after)
    (nonblank : state.VerifiedNonblank)
    (unindexed : state.verifiedEmailIndex = ∅) :
    after.VerifiedEmailsAgree where
  inverts key userId := by
    rw [indexed_of_settled settled nonblank unindexed, soleClaimant_iff,
      verifiedKeyOf_of_settled settled nonblank]
  nonempty key member := by
    obtain ⟨userId, row⟩ :=
      Option.isSome_iff_exists.mp (ExtTreeMap.mem_iff_isSome_getElem?.mp member)
    exact ((indexed_of_settled settled nonblank unindexed).mp row).ne_empty nonblank

/-- A verified profile is indexed under its address, and only a verified one is. -/
theorem verified_iff_of_settled
    {profile : UserProfile}
    (settled : ClaimsSettled state.claimants.toList state after)
    (nonblank : state.VerifiedNonblank)
    (unindexed : state.verifiedEmailIndex = ∅)
    (found : after.getUserProfileByUserId userId = some profile) :
    profile.emailVerified = true ↔
      ∃ raw, profile.email = some raw ∧
        after.verifiedEmailIndex[normalizeEmail raw]? = some userId := by
  have agree := agree_of_settled settled nonblank unindexed
  constructor
  · intro verified
    have alone : ¬state.Collided userId := by
      intro shared
      obtain ⟨before, stored⟩ := shared.stored
      cases (unverified_of_settled settled nonblank stored shared).symm.trans found
      cases verified
    have stored := (kept_of_settled settled nonblank alone).symm.trans found
    obtain ⟨raw, address, -⟩ := nonblank userId profile stored verified
    have holds := (verifiedKeyOf_eq_some found).mpr ⟨verified, raw, address, rfl⟩
    exact ⟨raw, address, (agree.inverts _ userId).mpr holds⟩
  · rintro ⟨raw, -, row⟩
    exact ((verifiedKeyOf_eq_some found).mp ((agree.inverts _ userId).mp row)).1

end Settled

/-- For any profiles whose verified ones have an address that is not blank, the migration
without an index indexes the sole claimants, resets those that share an address, and leaves
profiles and index agreeing. -/
theorem migrateVerifiedEmailIndex_emailsMigrated
    (nonblank : state.VerifiedNonblank)
    (unindexed : state.verifiedEmailIndex = ∅) :
    EmailsMigrated state state.migrateVerifiedEmailIndex := by
  have settled := state.claimsSettled_migrateVerifiedEmailIndex unindexed
  have agree := agree_of_settled settled nonblank unindexed
  exact
    { indexed := fun _ _ => indexed_of_settled settled nonblank unindexed
      collided := fun _ _ found shared => unverified_of_settled settled nonblank found shared
      kept := fun _ alone => kept_of_settled settled nonblank alone
      rest := settled.rest
      verified := fun _ _ found => verified_iff_of_settled settled nonblank unindexed found
      again := agree.migrateVerifiedEmailIndex_eq_self }

end UserProfileState

end Migration

section Collision

open TextualHost

attribute [local instance] host

/-- A verified profile with an address as it was given. -/
def verifiedAs (address : String) : UserProfile :=
  { UserProfile.default with email := some address, emailVerified := true }

/-- Two accounts give one address in different spellings, a third has its own. -/
def respelled : UserProfileState :=
  { UserProfileState.empty with
    profiles :=
      ((UserProfileState.empty.profiles.insert ⟨draw 0⟩ (verifiedAs " Dup@Example.com")).insert
        ⟨draw 1⟩ (verifiedAs "dup@example.com")).insert ⟨draw 2⟩ (verifiedAs "own@example.com") }

/-- The collision is settled. -/
theorem migrateVerifiedEmailIndex_respelled :
    respelled.EmailsMigrated respelled.migrateVerifiedEmailIndex := by
  have addressed :
      ∀ row ∈ respelled.profiles.toList,
        (row.2.email.any fun raw => decide (normalizeEmail raw ≠ "")) = true := by
    decide +kernel
  exact UserProfileState.migrateVerifiedEmailIndex_emailsMigrated (.of_rows addressed) rfl

/-- Only the third account keeps its address. -/
example :
    respelled.migrateVerifiedEmailIndex.verifiedEmailIndex.toList =
      [("own@example.com", ⟨draw 2⟩)] := by
  decide +kernel

end Collision

end SsnConsole.Backend
