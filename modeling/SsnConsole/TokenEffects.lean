import SsnConsole.VerifiedEmail

/-!
# What tokens do

Two messages carry a token.  One verifies the address of the caller's account, the
other links the caller to the account that holds an address verified.  Nothing
else makes an address verified.
-/

namespace SsnConsole.Backend

open SsnConsole.MessageSlice
open SsnConsole.StableIndex

variable [Host]

namespace UserProfileState

variable {state : UserProfileState} {userId other : UserId} {profile stored : UserProfile}

/-- A profile with no other verified address than before verifies none. -/
theorem verifiedKeyOf_of_storeProfile
    {key : VerifiedEmailKey}
    (found : state.getUserProfileByUserId userId = some stored)
    (kept : ∀ key, profile.verifiedKey = some key → stored.verifiedKey = some key)
    (holds : (state.storeProfile userId profile).verifiedKeyOf other = some key) :
    state.verifiedKeyOf other = some key := by
  rw [verifiedKeyOf_storeProfile] at holds
  split at holds
  · rename_i same
    rw [same, verifiedKeyOf_of_stored found]
    exact kept key holds
  · exact holds

end UserProfileState

/-- Claims that verify an address, given by its normal form. -/
structure Claims.Verify (claims : Claims) (key : VerifiedEmailKey) : Prop where
  purpose : claims.purpose = none ∨ claims.purpose = some PURPOSE_EMAIL_VERIFICATION
  address : normalizeEmail claims.email = key

/-- A verification checks that the token is for the address of the caller's account. -/
theorem UserProfileService.verifyEmail_matches
    (call : Call)
    (token : String)
    (s : Stores) :
    Settles (verifyEmail call token) s fun _ _ =>
      ∃ claims,
        Jwt.tokenClaims token call.now = .ok claims ∧
          ∀ userId profile address,
            s.userProfile.getUserProfileByPrincipal call.caller = some (userId, profile) →
              profile.email = some address → claims.Verify (normalizeEmail address) := by
  refine .require fun claims signed => ?_
  refine .require fun _ purpose => .lookup fun (userId, profile) found =>
    .lookup fun storedEmail addressed => ?_
  have usable : claims.purpose = none ∨ claims.purpose = some PURPOSE_EMAIL_VERIFICATION := by
    by_contra unusable
    rw [if_neg unusable] at purpose
    cases purpose
  obtain ⟨account, stored⟩ := UserProfileState.getUserProfileByPrincipal_eq_some.mp found
  simp only [ends_bind, ends_reportAs, ends_require, ends_rejectIf, ends_tryWrite, ends_pure,
    map_eq_ok, map_eq_error, implies_true, and_true]
  rintro email accepted claimEmail claimAccepted same _ ⟨claimed, claim, rfl⟩
  have kept : claimed.getUserProfileByUserId userId = some profile := by
    obtain ⟨emails, rfl⟩ := UserProfileState.claimVerifiedEmail_frame claim
    exact stored
  simp only [UserProfileState.updateUserProfile_of_stored kept]
  constructor
  · rintro _ -
    refine ⟨claims, signed, ?_⟩
    intro otherId otherProfile address otherFound otherAddressed
    rw [found] at otherFound
    cases otherFound
    rw [addressed] at otherAddressed
    cases otherAddressed
    refine ⟨usable, ?_⟩
    have matching : email.text = claimEmail.text := by simpa using same
    rw [← Email.text_of_tryFrom accepted, ← Email.text_of_tryFrom claimAccepted, matching]
  · intro error failed
    cases failed

variable {call : Call} {request : Request} {s after : Stores} {userId : UserId}
  {key : VerifiedEmailKey}

/-- Of the account operations, only a verification makes an address verified. -/
theorem AccountWrite.verifiedKeyOf_cases
    (write : AccountWrite call s request after)
    (holds : after.userProfile.verifiedKeyOf userId = some key) :
    s.userProfile.verifiedKeyOf userId = some key ∨
      ∃ token profile address,
        request = .verifyEmail token ∧
          s.userProfile.getUserProfileByPrincipal call.caller = some (userId, profile) ∧
            profile.email = some address ∧ normalizeEmail address = key := by
  cases write with
  | @updateStatus _ status account profile _ stored =>
      left
      obtain ⟨stats, moved⟩ :=
        s.userProfile.updateUserStatusCount_frame (decide (profile.status = .active))
          (decide ((status.map mapUserStatusRequest).getD profile.status = .active))
      dsimp only at holds
      rw [moved] at holds
      refine UserProfileState.verifiedKeyOf_of_storeProfile stored ?_ holds
      exact fun _ keyed => keyed
  | keepEmail _ stored =>
      left
      refine UserProfileState.verifiedKeyOf_of_storeProfile stored ?_ holds
      exact fun _ keyed => keyed
  | grantStaffPermissions _ _ stored | revokeStaffPermissions _ stored =>
      left
      refine UserProfileState.verifiedKeyOf_of_storeProfile stored ?_ holds
      exact fun _ keyed => keyed
  | @replaceVerifiedEmail _ account profile email _ stored _ _ verified =>
      left
      obtain ⟨emails, released⟩ := s.userProfile.releaseOwnEmail_frame account profile
      dsimp only at holds
      rw [released] at holds
      refine UserProfileState.verifiedKeyOf_of_storeProfile stored ?_ holds
      intro _ keyed
      cases keyed
  | setEmail _ stored _ harmless =>
      left
      refine UserProfileState.verifiedKeyOf_of_storeProfile stored ?_ holds
      intro _ keyed
      rcases harmless with same | unverified
      · rw [← keyed]
        simp only [UserProfile.verifiedKey, same]
      · simp [UserProfile.verifiedKey, unverified] at keyed
  | @verifyEmail token claims account profile storedEmail email claimed _ caller stored
      addressed accepted claim =>
      obtain ⟨emails, rfl⟩ := UserProfileState.claimVerifiedEmail_frame claim
      dsimp only at holds
      rw [UserProfileState.verifiedKeyOf_storeProfile] at holds
      split at holds
      · rename_i same
        right
        refine ⟨token, profile, storedEmail, rfl, ?_, addressed, ?_⟩
        · rw [same]
          exact UserProfileState.getUserProfileByPrincipal_eq_some.mpr ⟨caller, stored⟩
        · simpa [UserProfile.verifiedKey, addressed] using holds
      · left
        exact holds
  | linkMyPrincipal _ _ _ link | adminLinkPrincipalToUser _ _ _ _ _ link
  | recoverAccountByEmail _ _ _ _ _ link =>
      left
      obtain ⟨-, -, rfl⟩ := UserProfileState.linkPrincipalToUser_ok link
      exact holds
  | unlinkMyPrincipal _ unlink | adminUnlinkPrincipalFromUser _ _ unlink =>
      left
      obtain rfl := UserProfileState.unlinkPrincipalFromUser_ok unlink
      exact holds
  | setMyPrincipalName _ _ rename =>
      left
      obtain ⟨names, rfl⟩ := UserProfileState.setPrincipalName_ok rename
      exact holds
  | registerLinkCode _ _ | pruneLinkCodes | spendLinkCode | revokeMyLinkCode _
  | grantServicePrincipalPermissions _ _ _ | revokeServicePrincipalPermissions _
  | changeDecision _ | makeDecision | createTermsAndConditions =>
      left
      exact holds

/-- A new account holds no address verified. -/
private theorem verifiedKeyOf_signingUp
    {principal : Principal}
    (holds : (s.signingUp principal).userProfile.verifiedKeyOf userId = some key) :
    s.userProfile.verifiedKeyOf userId = some key := by
  obtain ⟨policies, drawn, -, founded⟩ :=
    Stores.founding_eq
      { s with
        userProfile :=
          (s.userProfile.createUserProfile s.nextId principal .default).incrementUserCount false
        drawn := s.drawn + 1 }
      s.nextId OrganizationRepository.defaultOrganization
  rw [Stores.signingUp, founded] at holds
  simp only [UserProfileState.verifiedKeyOf, UserProfileState.getUserProfileByUserId,
    UserProfileState.incrementUserCount, UserProfileState.createUserProfile,
    getElem?_insert_entry] at holds
  split at holds
  · cases holds
  · exact holds

/-- Of all messages, only a verification makes an address verified. -/
theorem Handled.verifiedKeyOf_cases
    {result : Except Failure Slot}
    (handled : Handled call s request result after)
    (holds : after.userProfile.verifiedKeyOf userId = some key) :
    s.userProfile.verifiedKeyOf userId = some key ∨
      ∃ token profile address,
        request = .verifyEmail token ∧
          s.userProfile.getUserProfileByPrincipal call.caller = some (userId, profile) ∧
            profile.email = some address ∧ normalizeEmail address = key := by
  cases handled.reachesAccounts with
  | elsewhere same =>
      rw [same.userProfile] at holds
      exact .inl holds
  | signUp _ =>
      exact .inl (verifiedKeyOf_signingUp holds)
  | account write =>
      exact write.verifiedKeyOf_cases holds

/-- An address becomes verified by a message with a token for it, on the account of the caller. -/
theorem World.verified_of_step
    {world next : World}
    {event : Event}
    (stepped : World.serviceStep world event = some next)
    (holds : HoldsVerified next.stores userId key) :
    HoldsVerified world.stores userId key ∨
      ∃ call token claims,
        event = .message call (.verifyEmail token) ∧
          Jwt.tokenClaims token call.now = .ok claims ∧ claims.Verify key ∧
            world.stores.userProfile.getUserIdByPrincipal call.caller = some userId := by
  have keyed := verifiedKeyOf_eq_some.mpr holds
  cases event with
  | reply now index reply =>
      left
      cases World.serviceStep_cases stepped with
      | reply _ resumed =>
          rw [resumed.sameAccess.userProfile] at keyed
          exact verifiedKeyOf_eq_some.mp keyed
  | message call request =>
      cases stepped
      have handled : Handled call world.stores request _ _ :=
        handled_of_outcome Prod.mk.eta.symm
      rcases handled.verifiedKeyOf_cases keyed with
        before | ⟨token, profile, address, rfl, found, addressed, normal⟩
      · exact .inl (verifiedKeyOf_eq_some.mp before)
      · have settles :
            Settles (handle call (.verifyEmail token)) world.stores fun _ _ => _ :=
          ends_reportAs.mpr
            (ends_map.mpr (UserProfileService.verifyEmail_matches call token world.stores))
        obtain ⟨onValue, onError⟩ := ends_iff_outcome.mp settles
        rcases ended : outcome (handle call (.verifyEmail token)) world.stores with
          ⟨error | slot, after⟩
        · have unchanged := onError error after ended
          rw [World.afterSlice, ended, unchanged] at holds
          exact .inl holds
        · obtain ⟨claims, signed, verify⟩ := onValue slot after ended
          obtain ⟨account, -⟩ := UserProfileState.getUserProfileByPrincipal_eq_some.mp found
          rw [← normal]
          exact
            .inr
              ⟨call, token, claims, rfl, signed, verify userId profile address found addressed,
                account⟩

/-- Recovery links the caller to the holder of the token's address. -/
theorem World.linked_of_recovery
    {world next : World}
    {token : String}
    {principal : Principal}
    (reachable : world.Reachable)
    (stepped : World.serviceStep world (.message call (.recoverAccountByEmail token)) = some next)
    (linked : next.stores.userProfile.getUserIdByPrincipal principal = some userId)
    (new : world.stores.userProfile.getUserIdByPrincipal principal ≠ some userId) :
    principal = call.caller ∧
      ∃ claims,
        Jwt.tokenClaims token call.now = .ok claims ∧
          claims.purpose = some PURPOSE_ACCOUNT_RECOVERY ∧
            HoldsVerified world.stores userId (normalizeEmail claims.email) := by
  have agree := reachable.verifiedEmailsAgree
  cases World.serviceStep_cases stepped with
  | message handled =>
      cases handled.reachesAccounts with
      | elsewhere same =>
          rw [same.userProfile] at linked
          exact (new linked).elim
      | account write =>
          cases write with
          | @recoverAccountByEmail _ claims email holder _ signed purpose accepted found _ link =>
              obtain ⟨-, -, rfl⟩ := UserProfileState.linkPrincipalToUser_ok link
              simp only [UserProfileState.getUserIdByPrincipal, getElem?_insert_entry] at linked
              split at linked
              · rename_i same
                obtain rfl := Option.some.inj linked
                refine ⟨same, claims, signed, purpose, verifiedKeyOf_eq_some.mp ?_⟩
                rw [← Email.text_of_tryFrom accepted]
                exact (agree.inverts _ _).mp found
              · exact (new linked).elim

end SsnConsole.Backend
