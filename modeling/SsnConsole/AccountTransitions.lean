import SsnConsole.AccountServices
import SsnConsole.BackendAuthorization

/-!
# What the account operations write

One constructor for each way in which a profile, link, staff, service-principal
or terms operation can end after writing, with everything that it checked
before.
-/

namespace SsnConsole.Backend

open Std (ExtTreeMap)
open SsnConsole.MessageSlice
open SsnConsole.StableIndex

namespace UserProfileState

/-- Store a profile under its identifier. -/
def storeProfile (state : UserProfileState) (userId : UserId) (profile : UserProfile) :
    UserProfileState :=
  { state with profiles := state.profiles.insert userId profile }

/-- A profile found by a principal is stored under the account of its index row. -/
theorem getUserProfileByPrincipal_eq_some
    {state : UserProfileState}
    {principal : Principal}
    {userId : UserId}
    {profile : UserProfile} :
    state.getUserProfileByPrincipal principal = some (userId, profile) ↔
      state.getUserIdByPrincipal principal = some userId ∧
        state.getUserProfileByUserId userId = some profile := by
  unfold getUserProfileByPrincipal
  cases state.getUserIdByPrincipal principal with
  | none =>
      simp
  | some found =>
      simp only [Option.bind_some, Option.map_eq_some_iff, Prod.mk.injEq, Option.some.injEq]
      constructor
      · rintro ⟨stored, lookup, rfl, rfl⟩
        exact ⟨rfl, lookup⟩
      · rintro ⟨rfl, lookup⟩
        exact ⟨profile, lookup, rfl, rfl⟩

/-- Moving the status counters leaves every index alone. -/
theorem updateUserStatusCount_frame
    (state : UserProfileState)
    (wasActive isActive : Bool) :
    ∃ stats, state.updateUserStatusCount wasActive isActive = { state with stats := stats } := by
  unfold updateUserStatusCount
  split
  · exact ⟨state.stats, rfl⟩
  · exact ⟨_, rfl⟩

/-- Claiming a verified address touches the index of verified addresses only. -/
theorem claimVerifiedEmail_frame
    {state claimed : UserProfileState}
    {userId : UserId}
    {email : Email}
    (accepted : state.claimVerifiedEmail userId email = .ok claimed) :
    ∃ verifiedEmailIndex, claimed = { state with verifiedEmailIndex := verifiedEmailIndex } := by
  unfold claimVerifiedEmail at accepted
  split at accepted
  · split at accepted
    · cases accepted
      exact ⟨_, rfl⟩
    · cases accepted
  · cases accepted
    exact ⟨_, rfl⟩

/-- Linking gives an unlinked principal to a stored account. -/
theorem linkPrincipalToUser_ok
    {state linked : UserProfileState}
    {userId : UserId}
    {principal : Principal}
    (accepted : state.linkPrincipalToUser userId principal = .ok linked) :
    userId ∈ state.profiles ∧ state.getUserIdByPrincipal principal = none ∧
      linked =
        { state with
          principalIndex := state.principalIndex.insert principal userId
          idPrincipalIndex := state.idPrincipalIndex.insert (userId, principal) } := by
  unfold linkPrincipalToUser at accepted
  split at accepted
  · cases accepted
  · rename_i stored
    split at accepted
    · cases accepted
    · rename_i unlinked
      cases accepted
      refine ⟨ExtTreeMap.mem_iff_contains.mpr (by simpa using stored), ?_, rfl⟩
      simpa [getUserIdByPrincipal] using unlinked

/-- Unlinking removes a principal of the account. -/
theorem unlinkPrincipalFromUser_ok
    {state unlinked : UserProfileState}
    {userId : UserId}
    {principal : Principal}
    (accepted : state.unlinkPrincipalFromUser userId principal = .ok unlinked) :
    unlinked =
      { state with
        principalIndex := state.principalIndex.erase principal
        idPrincipalIndex := state.idPrincipalIndex.erase (userId, principal)
        principalNames := state.principalNames.erase (userId, principal) } := by
  unfold unlinkPrincipalFromUser at accepted
  split at accepted
  · cases accepted
  · split at accepted
    · cases accepted
    · cases accepted
      rfl

/-- Only a principal of the account is unlinked, and never its last one. -/
theorem unlinkPrincipalFromUser_checked
    {state unlinked : UserProfileState}
    {userId : UserId}
    {principal : Principal}
    (accepted : state.unlinkPrincipalFromUser userId principal = .ok unlinked) :
    state.getUserIdByPrincipal principal = some userId ∧
      1 < (state.getPrincipalsByUserId userId).length := by
  unfold unlinkPrincipalFromUser at accepted
  split at accepted
  · cases accepted
  · rename_i linked
    split at accepted
    · cases accepted
    · rename_i several
      exact ⟨not_not.mp linked, not_le.mp several⟩

/-- Only a principal of the account is named. -/
theorem setPrincipalName_checked
    {state renamed : UserProfileState}
    {userId : UserId}
    {principal : Principal}
    {name : Option String}
    (accepted : state.setPrincipalName userId principal name = .ok renamed) :
    (userId, principal) ∈ state.idPrincipalIndex ∧
      ∀ key, key ∈ renamed.principalNames →
        key ∈ state.principalNames ∨ key = (userId, principal) := by
  unfold setPrincipalName at accepted
  split at accepted
  · cases accepted
  · rename_i linked
    refine ⟨by simpa using linked, ?_⟩
    intro key named
    split at accepted <;> cases accepted
    · exact mem_insert_entry.mp named
    · exact .inl (mem_erase_entry.mp named).1

/-- Naming a principal changes the names only. -/
theorem setPrincipalName_ok
    {state renamed : UserProfileState}
    {userId : UserId}
    {principal : Principal}
    {name : Option String}
    (accepted : state.setPrincipalName userId principal name = .ok renamed) :
    ∃ principalNames, renamed = { state with principalNames := principalNames } := by
  unfold setPrincipalName at accepted
  split at accepted
  · cases accepted
  · split at accepted <;> cases accepted
    · exact ⟨_, rfl⟩
    · exact ⟨_, rfl⟩

variable [Host]

/-- Updating a stored profile stores the new one. -/
theorem updateUserProfile_of_stored
    {state : UserProfileState}
    {userId : UserId}
    {stored profile : UserProfile}
    (found : state.getUserProfileByUserId userId = some stored) :
    state.updateUserProfile userId profile = .ok (state.storeProfile userId profile) := by
  have contained : state.profiles.contains userId = true := by
    rw [ExtTreeMap.contains_eq_isSome_getElem?]
    exact Option.isSome_of_eq_some found
  simp [updateUserProfile, contained, storeProfile]

/-- Releasing a verified address touches the index of verified addresses only. -/
theorem releaseOwnEmail_frame
    (state : UserProfileState)
    (userId : UserId)
    (profile : UserProfile) :
    ∃ verifiedEmailIndex,
      state.releaseOwnEmail userId profile =
        { state with verifiedEmailIndex := verifiedEmailIndex } := by
  unfold releaseOwnEmail releaseVerifiedEmail
  split
  · split
    · exact ⟨_, rfl⟩
    · split <;> exact ⟨_, rfl⟩
  · exact ⟨_, rfl⟩

end UserProfileState

/-- Nobody passes as unclaimed with a service registration or an account. -/
theorem assertPrincipalIsUnclaimed_ok
    {principal : Principal}
    {s : Stores}
    (accepted : assertPrincipalIsUnclaimed principal s = .ok ()) :
    s.servicePrincipal.getServicePrincipalPermissions principal = none ∧
      s.userProfile.getUserIdByPrincipal principal = none := by
  unfold assertPrincipalIsUnclaimed at accepted
  split at accepted
  · cases accepted
  · rename_i unregistered
    split at accepted
    · cases accepted
    · rename_i unlinked
      exact ⟨by simpa using unregistered, by simpa using unlinked⟩

/-- A passed staff ceiling: the caller holds what it hands out. -/
theorem assertStaffCanGrant_ok
    {call : Call}
    {granted : StaffPermissions}
    {s : Stores}
    (accepted : assertStaffCanGrant call granted s = .ok ()) :
    (callerStaffPermissions call.isController call.caller s).contains granted = true := by
  unfold assertStaffCanGrant at accepted
  dsimp only at accepted
  split at accepted
  · cases accepted
  · rename_i contained
    simpa using contained

variable [Host]

/-- The writes of the account operations. -/
inductive AccountWrite (call : Call) (s : Stores) : Request → Stores → Prop
  | updateStatus
      {userText : String}
      {status : Option Dto.UserStatus}
      {userId : UserId}
      {profile : UserProfile}
      (parsed : Id.tryFrom userText = .ok userId)
      (stored : s.userProfile.getUserProfileByUserId userId = some profile) :
      AccountWrite call s (.adminUpdateUserProfile userText status)
        { s with
          userProfile :=
            (s.userProfile.updateUserStatusCount (decide (profile.status = .active))
              (decide
                ((status.map mapUserStatusRequest).getD profile.status = .active))).storeProfile
              userId
              { profile with status := (status.map mapUserStatusRequest).getD profile.status } }
  | keepEmail
      {userId : UserId}
      {profile : UserProfile}
      (account : s.userProfile.getUserIdByPrincipal call.caller = some userId)
      (stored : s.userProfile.getUserProfileByUserId userId = some profile) :
      AccountWrite call s (.updateMyUserProfile none)
        { s with userProfile := s.userProfile.storeProfile userId profile }
  | replaceVerifiedEmail
      {text : String}
      {userId : UserId}
      {profile : UserProfile}
      {email : Email}
      (account : s.userProfile.getUserIdByPrincipal call.caller = some userId)
      (stored : s.userProfile.getUserProfileByUserId userId = some profile)
      (accepted : Email.tryFrom text = .ok email)
      (changed : profile.email ≠ some email.text)
      (verified : profile.emailVerified = true) :
      AccountWrite call s (.updateMyUserProfile (some text))
        { s with
          userProfile :=
            (s.userProfile.releaseOwnEmail userId profile).storeProfile userId
              { profile with email := some email.text, emailVerified := false } }
  | setEmail
      {text : String}
      {userId : UserId}
      {profile : UserProfile}
      {email : Email}
      (account : s.userProfile.getUserIdByPrincipal call.caller = some userId)
      (stored : s.userProfile.getUserProfileByUserId userId = some profile)
      (accepted : Email.tryFrom text = .ok email)
      (harmless : profile.email = some email.text ∨ profile.emailVerified = false) :
      AccountWrite call s (.updateMyUserProfile (some text))
        { s with
          userProfile :=
            s.userProfile.storeProfile userId { profile with email := some email.text } }
  | verifyEmail
      {token : String}
      {claims : Claims}
      {userId : UserId}
      {profile : UserProfile}
      {storedEmail : String}
      {email : Email}
      {claimed : UserProfileState}
      (signed : Jwt.tokenClaims token call.now = .ok claims)
      (account : s.userProfile.getUserIdByPrincipal call.caller = some userId)
      (stored : s.userProfile.getUserProfileByUserId userId = some profile)
      (addressed : profile.email = some storedEmail)
      (accepted : Email.tryFrom storedEmail = .ok email)
      (claim : s.userProfile.claimVerifiedEmail userId email = .ok claimed) :
      AccountWrite call s (.verifyEmail token)
        { s with
          userProfile := claimed.storeProfile userId { profile with emailVerified := true } }
  | registerLinkCode
      {code : String}
      {target : Principal}
      {userId : UserId}
      (account : s.userProfile.getUserIdByPrincipal call.caller = some userId)
      (named : target ≠ Principal.anonymous) :
      AccountWrite call s (.registerLinkCode code target)
        { s with
          pendingLinkCodes :=
            (PrincipalLinkService.pruneLinkCodes call.now s).pendingLinkCodes.insert userId
              ⟨code, target,
                min (call.now + PrincipalLinkService.LINK_CODE_TTL_NANOS) (2 ^ 64 - 1)⟩ }
  /-- Expired codes are dropped although the call fails. -/
  | pruneLinkCodes
      {code : String} :
      AccountWrite call s (.linkMyPrincipal code)
        (PrincipalLinkService.pruneLinkCodes call.now s)
  /-- The code is spent although the call fails. -/
  | spendLinkCode
      {code : String}
      {userId : UserId} :
      AccountWrite call s (.linkMyPrincipal code)
        { s with
          pendingLinkCodes :=
            (PrincipalLinkService.pruneLinkCodes call.now s).pendingLinkCodes.erase userId }
  | linkMyPrincipal
      {code : String}
      {userId : UserId}
      {entry : PendingLinkCode}
      {linked : UserProfileState}
      (pending :
        (PrincipalLinkService.pruneLinkCodes call.now s).pendingLinkCodes.toList.find?
          (fun row => decide (row.2.code = code)) = some (userId, entry))
      (target : entry.targetPrincipal = call.caller)
      (unclaimed : assertPrincipalIsUnclaimed call.caller s = .ok ())
      (link : s.userProfile.linkPrincipalToUser userId call.caller = .ok linked) :
      AccountWrite call s (.linkMyPrincipal code)
        { s with
          pendingLinkCodes :=
            (PrincipalLinkService.pruneLinkCodes call.now s).pendingLinkCodes.erase userId
          userProfile := linked }
  | unlinkMyPrincipal
      {principal : Principal}
      {userId : UserId}
      {unlinked : UserProfileState}
      (account : s.userProfile.getUserIdByPrincipal call.caller = some userId)
      (unlink : s.userProfile.unlinkPrincipalFromUser userId principal = .ok unlinked) :
      AccountWrite call s (.unlinkMyPrincipal principal) { s with userProfile := unlinked }
  | setMyPrincipalName
      {principal : Principal}
      {name validated : Option String}
      {userId : UserId}
      {renamed : UserProfileState}
      (account : s.userProfile.getUserIdByPrincipal call.caller = some userId)
      (valid : validateOptionalPrincipalName name = .ok validated)
      (rename : s.userProfile.setPrincipalName userId principal validated = .ok renamed) :
      AccountWrite call s (.setMyPrincipalName principal name) { s with userProfile := renamed }
  | revokeMyLinkCode
      {userId : UserId}
      (account : s.userProfile.getUserIdByPrincipal call.caller = some userId) :
      AccountWrite call s .revokeMyLinkCode
        { s with pendingLinkCodes := s.pendingLinkCodes.erase userId }
  | adminLinkPrincipalToUser
      {userText : String}
      {principal : Principal}
      {userId : UserId}
      {linked : UserProfileState}
      (parsed : Id.tryFrom userText = .ok userId)
      (permitted : assertStaffPerm call StaffPermissions.MANAGE_USERS s = .ok ())
      (grantable :
        (callerStaffPermissions call.isController call.caller s).contains
          (((s.userProfile.getUserProfileByUserId userId).bind
            (·.staffPermissions)).getD .EMPTY) = true)
      (named : principal ≠ Principal.anonymous)
      (unclaimed : assertPrincipalIsUnclaimed principal s = .ok ())
      (link : s.userProfile.linkPrincipalToUser userId principal = .ok linked) :
      AccountWrite call s (.adminLinkPrincipalToUser userText principal)
        { s with userProfile := linked }
  | adminUnlinkPrincipalFromUser
      {userText : String}
      {principal : Principal}
      {userId : UserId}
      {unlinked : UserProfileState}
      (parsed : Id.tryFrom userText = .ok userId)
      (permitted : assertStaffPerm call StaffPermissions.MANAGE_USERS s = .ok ())
      (unlink : s.userProfile.unlinkPrincipalFromUser userId principal = .ok unlinked) :
      AccountWrite call s (.adminUnlinkPrincipalFromUser userText principal)
        { s with userProfile := unlinked }
  | recoverAccountByEmail
      {token : String}
      {claims : Claims}
      {email : Email}
      {userId : UserId}
      {linked : UserProfileState}
      (signed : Jwt.tokenClaims token call.now = .ok claims)
      (purpose : claims.purpose = some PURPOSE_ACCOUNT_RECOVERY)
      (accepted : Email.tryFrom claims.email = .ok email)
      (holder : s.userProfile.getUserIdByVerifiedEmail email = some userId)
      (unclaimed : assertPrincipalIsUnclaimed call.caller s = .ok ())
      (link : s.userProfile.linkPrincipalToUser userId call.caller = .ok linked) :
      AccountWrite call s (.recoverAccountByEmail token) { s with userProfile := linked }
  | grantStaffPermissions
      {userText : String}
      {permissions : Dto.StaffPermissions}
      {userId : UserId}
      {profile : UserProfile}
      (parsed : Id.tryFrom userText = .ok userId)
      (some_granted : mapStaffPermissionsFromDto permissions ≠ .EMPTY)
      (stored : s.userProfile.getUserProfileByUserId userId = some profile) :
      AccountWrite call s (.adminGrantStaffPermissions userText permissions)
        { s with
          userProfile :=
            s.userProfile.storeProfile userId
              { profile with
                staffPermissions := some (mapStaffPermissionsFromDto permissions) } }
  | revokeStaffPermissions
      {userText : String}
      {userId : UserId}
      {profile : UserProfile}
      (parsed : Id.tryFrom userText = .ok userId)
      (stored : s.userProfile.getUserProfileByUserId userId = some profile) :
      AccountWrite call s (.adminRevokeStaffPermissions userText)
        { s with
          userProfile :=
            s.userProfile.storeProfile userId { profile with staffPermissions := none } }
  | grantServicePrincipalPermissions
      {principal : Principal}
      {permissions : Dto.StaffPermissions}
      (named : principal ≠ Principal.anonymous)
      (unlinked : s.userProfile.getUserIdByPrincipal principal = none)
      (some_granted : mapStaffPermissionsFromDto permissions ≠ .EMPTY) :
      AccountWrite call s (.adminGrantServicePrincipalPermissions principal permissions)
        { s with
          servicePrincipal :=
            s.servicePrincipal.setServicePrincipalPermissions principal
              (mapStaffPermissionsFromDto permissions) }
  | revokeServicePrincipalPermissions
      {principal : Principal}
      (named : principal ≠ Principal.anonymous) :
      AccountWrite call s (.adminRevokeServicePrincipalPermissions principal)
        { s with servicePrincipal := s.servicePrincipal.removeServicePrincipal principal }
  | changeDecision
      {termsText : String}
      {decisionType : Dto.TermsAndConditionsDecisionType}
      {id : TermsAndConditionsDecisionId}
      {decision : TermsAndConditionsDecision}
      (known :
        s.terms.decisionsUserIndex[(decision.userId, decision.termsAndConditionsId)]? =
          some id) :
      AccountWrite call s (.upsertTermsAndConditionsDecision termsText decisionType)
        { s with terms := s.terms.upsertDecision id decision }
  | makeDecision
      {termsText : String}
      {decisionType : Dto.TermsAndConditionsDecisionType}
      {decision : TermsAndConditionsDecision} :
      AccountWrite call s (.upsertTermsAndConditionsDecision termsText decisionType)
        { s with
          terms := s.terms.upsertDecision s.nextId decision
          drawn := s.drawn + 1 }
  | createTermsAndConditions
      {content comment : String}
      {terms : TermsAndConditions} :
      AccountWrite call s (.adminCreateTermsAndConditions content comment)
        { s with
          terms := s.terms.createTermsAndConditions s.nextId terms
          drawn := s.drawn + 1 }

namespace UserProfileService

/-- What `update_user_profile` writes: the profile is stored, so its update succeeds. -/
theorem updateUserProfile_settles
    (call : Call)
    (userText : String)
    (status : Option Dto.UserStatus)
    (s : Stores) :
    Settles (updateUserProfile userText status) s fun _ after =>
      AccountWrite call s (.adminUpdateUserProfile userText status) after := by
  refine .require fun userId parsed => .lookup fun profile stored => ?_
  have counted :
      (s.userProfile.updateUserStatusCount (decide (profile.status = .active))
        (decide
          ((status.map mapUserStatusRequest).getD profile.status =
            .active))).getUserProfileByUserId userId = some profile := by
    obtain ⟨stats, moved⟩ :=
      s.userProfile.updateUserStatusCount_frame (decide (profile.status = .active))
        (decide ((status.map mapUserStatusRequest).getD profile.status = .active))
    rw [moved]
    exact stored
  simp only [ends_bind, ends_write, ends_tryWrite, ends_pure,
    UserProfileState.updateUserProfile_of_stored counted, map_eq_ok, map_eq_error]
  constructor
  · rintro after ⟨_, same, rfl⟩
    cases same
    exact .updateStatus parsed stored
  · intro error failed
    cases failed

/-- What `update_my_user_profile` writes. -/
theorem updateMyUserProfile_settles
    (call : Call)
    (email : Option String)
    (s : Stores) :
    Settles (updateMyUserProfile call email) s fun _ after =>
      AccountWrite call s (.updateMyUserProfile email) after := by
  refine .lookup fun (userId, profile) found => ?_
  obtain ⟨account, stored⟩ := UserProfileState.getUserProfileByPrincipal_eq_some.mp found
  cases email with
  | none =>
      refine .tryWrite fun after written => ?_
      rw [UserProfileState.updateUserProfile_of_stored stored] at written
      cases written
      exact .keepEmail account stored
  | some text =>
      refine .require fun email accepted => .ite (fun replaced => ?_) (fun kept => ?_)
      · have replaces : profile.email ≠ some email.text ∧ profile.emailVerified = true := by
          simpa using replaced
        have released :
            (s.userProfile.releaseOwnEmail userId profile).getUserProfileByUserId userId =
              some profile := by
          obtain ⟨emails, released⟩ := s.userProfile.releaseOwnEmail_frame userId profile
          rw [released]
          exact stored
        simp only [ends_bind, ends_write, ends_tryWrite, ends_pure,
          UserProfileState.updateUserProfile_of_stored released, map_eq_ok, map_eq_error]
        constructor
        · rintro after ⟨_, same, rfl⟩
          cases same
          exact .replaceVerifiedEmail account stored accepted replaces.1 replaces.2
        · intro error failed
          cases failed
      · refine .tryWrite fun after written => ?_
        rw [UserProfileState.updateUserProfile_of_stored stored] at written
        cases written
        exact .setEmail account stored accepted (by simpa [or_iff_not_imp_left] using kept)

/-- What `verify_email` writes: the claimed address is the stored one. -/
theorem verifyEmail_settles
    (call : Call)
    (token : String)
    (s : Stores) :
    Settles (verifyEmail call token) s fun _ after =>
      AccountWrite call s (.verifyEmail token) after := by
  refine .require fun claims signed => ?_
  refine .require fun _ _ => .lookup fun (userId, profile) found =>
    .lookup fun storedEmail addressed => ?_
  obtain ⟨account, stored⟩ := UserProfileState.getUserProfileByPrincipal_eq_some.mp found
  simp only [ends_bind, ends_reportAs, ends_require, ends_rejectIf, ends_tryWrite, ends_pure,
    map_eq_ok, map_eq_error, implies_true, and_true]
  rintro email accepted claimEmail _ _ _ ⟨claimed, claim, rfl⟩
  have kept : claimed.getUserProfileByUserId userId = some profile := by
    obtain ⟨emails, rfl⟩ := UserProfileState.claimVerifiedEmail_frame claim
    exact stored
  simp only [UserProfileState.updateUserProfile_of_stored kept]
  constructor
  · rintro after ⟨_, same, rfl⟩
    cases same
    exact .verifyEmail signed account stored addressed accepted claim
  · intro error failed
    cases failed

end UserProfileService

namespace PrincipalLinkService

/-- What `register_link_code` writes. -/
theorem registerLinkCode_settles
    (call : Call)
    (code : String)
    (target : Principal)
    (s : Stores) :
    Settles (registerLinkCode call code target) s fun _ after =>
      AccountWrite call s (.registerLinkCode code target) after := by
  refine .check fun userId resolved => .require fun _ _ => .rejectIf fun named => ?_
  exact
    .registerLinkCode (UserProfileState.assertUserIdByPrincipal_ok resolved)
      (by simpa using named)

/-- What `link_my_principal` writes: codes expire and are spent by failures too. -/
theorem linkMyPrincipal_ends
    (call : Call)
    (code : String)
    (s : Stores) :
    Ends (linkMyPrincipal call code) s
      (fun _ after => AccountWrite call s (.linkMyPrincipal code) after)
      (fun _ after => AccountWrite call s (.linkMyPrincipal code) after) := by
  simp only [linkMyPrincipal, ends_bind, ends_write, ends_lookup, Prod.forall, ends_rejectIf,
    ends_check, ends_tryWrite, ends_pure, map_eq_ok, map_eq_error]
  refine ⟨fun userId entry pending => ⟨fun target => ⟨?_, ?_⟩, ?_⟩, ?_⟩
  · intro _ unclaimed
    constructor
    · rintro after ⟨linked, link, rfl⟩
      exact .linkMyPrincipal pending (by simpa using target) unclaimed link
    · intro error _
      exact .spendLinkCode
  · intro error _
    exact .spendLinkCode
  · intro _
    exact .pruneLinkCodes
  · intro _
    exact .pruneLinkCodes

/-- What `unlink_my_principal` writes. -/
theorem unlinkMyPrincipal_settles
    (call : Call)
    (principal : Principal)
    (s : Stores) :
    Settles (unlinkMyPrincipal call principal) s fun _ after =>
      AccountWrite call s (.unlinkMyPrincipal principal) after := by
  refine .check fun userId resolved => .tryWrite fun after written => ?_
  obtain ⟨unlinked, unlink, rfl⟩ := map_eq_ok.mp written
  exact .unlinkMyPrincipal (UserProfileState.assertUserIdByPrincipal_ok resolved) unlink

/-- What `set_my_principal_name` writes. -/
theorem setMyPrincipalName_settles
    (call : Call)
    (principal : Principal)
    (name : Option String)
    (s : Stores) :
    Settles (setMyPrincipalName call principal name) s fun _ after =>
      AccountWrite call s (.setMyPrincipalName principal name) after := by
  refine
    .check fun userId resolved => .require fun validated valid =>
      .tryWrite fun after written => ?_
  obtain ⟨renamed, rename, rfl⟩ := map_eq_ok.mp written
  exact
    .setMyPrincipalName (UserProfileState.assertUserIdByPrincipal_ok resolved) valid rename

/-- What `revoke_my_link_code` writes. -/
theorem revokeMyLinkCode_settles
    (call : Call)
    (s : Stores) :
    Settles (revokeMyLinkCode call) s fun _ after =>
      AccountWrite call s .revokeMyLinkCode after := by
  refine .check fun userId resolved => .rejectIf fun _ => ?_
  exact .revokeMyLinkCode (UserProfileState.assertUserIdByPrincipal_ok resolved)

/-- What `admin_link_principal_to_user` writes. -/
theorem adminLinkPrincipalToUser_settles
    (call : Call)
    (userText : String)
    (principal : Principal)
    (s : Stores) :
    Settles (adminLinkPrincipalToUser call userText principal) s fun _ after =>
      AccountWrite call s (.adminLinkPrincipalToUser userText principal) after := by
  refine
    .require fun userId parsed => .check fun _ permitted => .inspect <|
      .check fun _ grantable => .rejectIf fun named => .check fun _ unclaimed =>
        .tryWrite fun after written => ?_
  obtain ⟨linked, link, rfl⟩ := map_eq_ok.mp written
  exact
    .adminLinkPrincipalToUser parsed permitted (assertStaffCanGrant_ok grantable)
      (of_decide_eq_false named) unclaimed link

/-- What `admin_unlink_principal_from_user` writes. -/
theorem adminUnlinkPrincipalFromUser_settles
    (call : Call)
    (userText : String)
    (principal : Principal)
    (s : Stores) :
    Settles (adminUnlinkPrincipalFromUser call userText principal) s fun _ after =>
      AccountWrite call s (.adminUnlinkPrincipalFromUser userText principal) after := by
  refine
    .require fun userId parsed => .check fun _ permitted => .tryWrite fun after written => ?_
  obtain ⟨unlinked, unlink, rfl⟩ := map_eq_ok.mp written
  exact .adminUnlinkPrincipalFromUser parsed permitted unlink

/-- What `recover_account_by_email` writes. -/
theorem recoverAccountByEmail_settles
    (call : Call)
    (token : String)
    (s : Stores) :
    Settles (recoverAccountByEmail call token) s fun _ after =>
      AccountWrite call s (.recoverAccountByEmail token) after := by
  refine .require fun claims signed => ?_
  simp only [recoverWithClaims, ends_bind, ends_reportAs, ends_require, ends_rejectIf,
    ends_lookup, ends_check, ends_tryWrite, ends_pure, map_eq_ok, map_eq_error, implies_true,
    and_true]
  rintro purpose email accepted userId holder _ unclaimed after ⟨linked, link, rfl⟩
  exact
    .recoverAccountByEmail signed (by simpa using purpose) accepted holder unclaimed link

end PrincipalLinkService

namespace StaffPermissionsService

/-- Replacing staff permissions stores the profile that carries the new ones. -/
theorem setStaffPermissions_settles
    {userId : UserId}
    {permissions : Option StaffPermissions}
    {s : Stores}
    {onValue : Response → Stores → Prop}
    (stores :
      ∀ profile,
        s.userProfile.getUserProfileByUserId userId = some profile →
          onValue .unit
            { s with
              userProfile :=
                s.userProfile.storeProfile userId
                  { profile with staffPermissions := permissions } }) :
    Settles (setStaffPermissions userId permissions) s onValue := by
  refine .lookup fun profile stored => .tryWrite fun after written => ?_
  rw [UserProfileState.updateUserProfile_of_stored stored] at written
  cases written
  exact stores profile stored

/-- What `grant_staff_permissions` writes. -/
theorem grantStaffPermissions_settles
    (call : Call)
    (userText : String)
    (permissions : Dto.StaffPermissions)
    (s : Stores) :
    Settles (grantStaffPermissions userText permissions) s fun _ after =>
      AccountWrite call s (.adminGrantStaffPermissions userText permissions) after := by
  refine .rejectIf fun nonempty => .require fun userId parsed => ?_
  exact
    setStaffPermissions_settles fun profile stored =>
      .grantStaffPermissions parsed (by simpa using nonempty) stored

/-- What `revoke_staff_permissions` writes. -/
theorem revokeStaffPermissions_settles
    (call : Call)
    (userText : String)
    (s : Stores) :
    Settles (revokeStaffPermissions userText) s fun _ after =>
      AccountWrite call s (.adminRevokeStaffPermissions userText) after := by
  refine .require fun userId parsed => ?_
  exact
    setStaffPermissions_settles fun profile stored => .revokeStaffPermissions parsed stored

end StaffPermissionsService

namespace ServicePrincipalService

omit [Host] in
/-- Only named principals pass `reject_anonymous`. -/
theorem rejectAnonymous_ok
    {principal : Principal}
    (accepted : rejectAnonymous principal = .ok ()) :
    principal ≠ Principal.anonymous := by
  unfold rejectAnonymous at accepted
  split at accepted
  · cases accepted
  · assumption

/-- What `grant_service_principal_permissions` writes. -/
theorem grantServicePrincipalPermissions_settles
    (call : Call)
    (principal : Principal)
    (permissions : Dto.StaffPermissions)
    (s : Stores) :
    Settles (grantServicePrincipalPermissions principal permissions) s fun _ after =>
      AccountWrite call s (.adminGrantServicePrincipalPermissions principal permissions)
        after := by
  refine
    .require fun _ named => .rejectIf fun unlinked => .rejectIf fun nonempty => ?_
  exact
    .grantServicePrincipalPermissions (rejectAnonymous_ok named) (by simpa using unlinked)
      (by simpa using nonempty)

/-- What `revoke_service_principal_permissions` writes. -/
theorem revokeServicePrincipalPermissions_settles
    (call : Call)
    (principal : Principal)
    (s : Stores) :
    Settles (revokeServicePrincipalPermissions principal) s fun _ after =>
      AccountWrite call s (.adminRevokeServicePrincipalPermissions principal) after := by
  refine .require fun _ named => ?_
  exact .revokeServicePrincipalPermissions (rejectAnonymous_ok named)

end ServicePrincipalService

namespace TermsAndConditionsService

/-- What `upsert_terms_and_conditions_decision` writes. -/
theorem upsertTermsAndConditionsDecision_settles
    (call : Call)
    (termsText : String)
    (decisionType : Dto.TermsAndConditionsDecisionType)
    (s : Stores) :
    Settles (upsertTermsAndConditionsDecision call termsText decisionType) s fun _ after =>
      AccountWrite call s (.upsertTermsAndConditionsDecision termsText decisionType)
        after := by
  refine
    .rejectIf fun _ => .check fun userId _ => .require fun termsId _ => .rejectIf fun _ =>
      .inspect ?_
  split
  · rename_i id known
    exact .changeDecision known
  · exact .makeDecision

/-- What `create_terms_and_conditions` writes. -/
theorem createTermsAndConditions_settles
    (call : Call)
    (content comment : String)
    (s : Stores) :
    Settles (createTermsAndConditions call content comment) s fun _ after =>
      AccountWrite call s (.adminCreateTermsAndConditions content comment) after := by
  refine .check fun userId _ => ?_
  exact .createTermsAndConditions

end TermsAndConditionsService

end SsnConsole.Backend
