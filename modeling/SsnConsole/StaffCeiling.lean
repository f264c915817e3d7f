import SsnConsole.BackendFrames
import SsnConsole.PermissionFlags
import SsnConsole.TextualHost

/-!
# The staff ceiling

The effective staff permissions of a principal come from its controller status,
its service registration, or the active account that it is linked to.  Nobody
should raise them beyond what it holds itself; changing an account's status is
the one operation that can.
-/

namespace SsnConsole.Backend

open SsnConsole.MessageRun
open SsnConsole.MessageSlice

/-- The staff permissions that a profile gives: none unless it is active. -/
def UserProfile.effectiveStaffPermissions (profile : UserProfile) : StaffPermissions :=
  if profile.status = .active then profile.staffPermissions.getD .EMPTY else .EMPTY

/-- An active profile gives what it records. -/
theorem UserProfile.effectiveStaffPermissions_of_active
    {profile : UserProfile}
    (active : profile.status = .active) :
    profile.effectiveStaffPermissions = profile.staffPermissions.getD .EMPTY :=
  if_pos active

/-- Any other profile gives nothing. -/
theorem UserProfile.effectiveStaffPermissions_of_not_active
    {profile : UserProfile}
    (notActive : profile.status ≠ .active) :
    profile.effectiveStaffPermissions = .EMPTY :=
  if_neg notActive

/-- The staff permissions that a stored account gives. -/
def UserProfileState.accountStaffPermissions (state : UserProfileState) (userId : UserId) :
    StaffPermissions :=
  match state.getUserProfileByUserId userId with
  | none => .EMPTY
  | some profile => profile.effectiveStaffPermissions

/-- The staff permissions that a principal has from its account. -/
def UserProfileState.linkedStaffPermissions (state : UserProfileState)
    (principal : Principal) : StaffPermissions :=
  match state.getUserIdByPrincipal principal with
  | none => .EMPTY
  | some userId => state.accountStaffPermissions userId

/-- A principal whose staff permissions come from its account alone. -/
structure StaffByAccount (isController : Principal → Bool) (principal : Principal)
    (s : Stores) : Prop where
  named : principal ≠ Principal.anonymous
  noController : isController principal = false
  noService : s.servicePrincipal.getServicePrincipalPermissions principal = none

section Effective

variable {isController : Principal → Bool} {principal : Principal} {s after : Stores}

/-- Staff permissions by account are those of the linked account. -/
theorem StaffByAccount.callerStaffPermissions_eq
    (byAccount : StaffByAccount isController principal s) :
    callerStaffPermissions isController principal s =
      s.userProfile.linkedStaffPermissions principal := by
  unfold callerStaffPermissions
  rw [if_neg byAccount.named, if_neg (by simp [byAccount.noController]), byAccount.noService]
  rfl

/-- Any other staff permissions do not depend on the accounts. -/
theorem callerStaffPermissions_of_not_byAccount
    (other : ¬StaffByAccount isController principal s)
    (sameService : after.servicePrincipal = s.servicePrincipal) :
    callerStaffPermissions isController principal after =
      callerStaffPermissions isController principal s := by
  unfold callerStaffPermissions
  rw [sameService]
  by_cases anonymous : principal = Principal.anonymous
  · simp only [if_pos anonymous]
  · by_cases controls : isController principal = true
    · simp only [if_pos controls]
    · cases service : s.servicePrincipal.getServicePrincipalPermissions principal with
      | some permissions =>
          rfl
      | none =>
          exact (other ⟨anonymous, by simpa using controls, service⟩).elim

end Effective

/-- A principal that links itself to an account in this very step. -/
def LinksItself (request : Request) (principal : Principal) (s after : Stores) : Prop :=
  ((∃ code, request = .linkMyPrincipal code) ∨
      ∃ token, request = .recoverAccountByEmail token) ∧
    s.userProfile.getUserIdByPrincipal principal = none ∧
      (after.userProfile.getUserIdByPrincipal principal).isSome

/-- Nobody but a principal that links itself gains staff permissions beyond the caller's. -/
def StaffGranterCeiling (call : Call) (request : Request) (s after : Stores) : Prop :=
  ∀ principal, ¬LinksItself request principal s after →
    ((callerStaffPermissions call.isController principal s).union
        (callerStaffPermissions call.isController call.caller s)).contains
      (callerStaffPermissions call.isController principal after) = true

section Accounts

variable {call : Call} {request : Request} {s after : Stores}

/-- With the service registrations unchanged, the ceiling is about accounts. -/
theorem StaffGranterCeiling.of_accounts
    (sameService : after.servicePrincipal = s.servicePrincipal)
    (accounts :
      ∀ principal,
        ¬LinksItself request principal s after →
          StaffByAccount call.isController principal s →
            ((s.userProfile.linkedStaffPermissions principal).union
                (callerStaffPermissions call.isController call.caller s)).contains
              (after.userProfile.linkedStaffPermissions principal) = true) :
    StaffGranterCeiling call request s after := by
  intro principal notItself
  by_cases byAccount : StaffByAccount call.isController principal s
  · have byAccountAfter : StaffByAccount call.isController principal after :=
      ⟨byAccount.named, byAccount.noController, by rw [sameService]; exact byAccount.noService⟩
    rw [byAccount.callerStaffPermissions_eq, byAccountAfter.callerStaffPermissions_eq]
    exact accounts principal notItself byAccount
  · rw [callerStaffPermissions_of_not_byAccount byAccount sameService]
    exact Permissions.contains_union_left (Permissions.contains_self _)

/-- What leaves the accounts alone stays below the ceiling. -/
theorem StaffGranterCeiling.of_sameAccounts
    (same : SameAccounts s after) :
    StaffGranterCeiling call request s after := by
  refine .of_accounts same.servicePrincipal fun principal _ _ => ?_
  rw [same.userProfile]
  exact Permissions.contains_union_left (Permissions.contains_self _)

/-- Replacing a profile changes what its own principals have from it. -/
theorem UserProfileState.linkedStaffPermissions_storeProfile
    {state before : UserProfileState}
    {userId : UserId}
    {profile : UserProfile}
    {principal : Principal}
    (sameLinks : state.principalIndex = before.principalIndex)
    (sameProfiles : state.profiles = before.profiles) :
    (state.storeProfile userId profile).linkedStaffPermissions principal =
      if before.getUserIdByPrincipal principal = some userId then
        profile.effectiveStaffPermissions
      else
        before.linkedStaffPermissions principal := by
  have resolve :
      (state.storeProfile userId profile).getUserIdByPrincipal principal =
        before.getUserIdByPrincipal principal :=
    congrArg (fun index => index[principal]?) sameLinks
  simp only [linkedStaffPermissions, resolve]
  cases before.getUserIdByPrincipal principal with
  | none =>
      rfl
  | some linked =>
      simp only [accountStaffPermissions, getUserProfileByUserId, storeProfile, sameProfiles,
        StableIndex.getElem?_insert_entry, Option.some.injEq]
      by_cases same : linked = userId <;> simp only [same, if_true, if_false]

/-- A stored profile gives its principals its staff permissions while it is active. -/
theorem UserProfileState.linkedStaffPermissions_of_stored
    {state : UserProfileState}
    {userId : UserId}
    {profile : UserProfile}
    {principal : Principal}
    (linked : state.getUserIdByPrincipal principal = some userId)
    (stored : state.getUserProfileByUserId userId = some profile) :
    state.linkedStaffPermissions principal = profile.effectiveStaffPermissions := by
  simp only [linkedStaffPermissions, linked, accountStaffPermissions, stored]

/-- A replaced profile with the same status and staff permissions changes nothing. -/
theorem StaffGranterCeiling.of_sameStaff
    {state : UserProfileState}
    {userId : UserId}
    {stored profile : UserProfile}
    (sameService : after.servicePrincipal = s.servicePrincipal)
    (written : after.userProfile = state.storeProfile userId profile)
    (sameLinks : state.principalIndex = s.userProfile.principalIndex)
    (sameProfiles : state.profiles = s.userProfile.profiles)
    (found : s.userProfile.getUserProfileByUserId userId = some stored)
    (sameStatus : profile.status = stored.status)
    (sameStaff : profile.staffPermissions = stored.staffPermissions) :
    StaffGranterCeiling call request s after := by
  refine .of_accounts sameService fun principal _ _ => ?_
  refine Permissions.contains_union_left ?_
  rw [written, UserProfileState.linkedStaffPermissions_storeProfile sameLinks sameProfiles]
  split
  · rename_i linked
    rw [UserProfileState.linkedStaffPermissions_of_stored linked found,
      UserProfile.effectiveStaffPermissions, UserProfile.effectiveStaffPermissions, sameStatus,
      sameStaff]
    exact Permissions.contains_self _
  · exact Permissions.contains_self _

/-- Linking a principal gives it what the account has, and nobody else anything. -/
theorem UserProfileState.linkedStaffPermissions_link
    {state linked : UserProfileState}
    {userId : UserId}
    {target principal : Principal}
    (link : state.linkPrincipalToUser userId target = .ok linked) :
    linked.linkedStaffPermissions principal =
      if principal = target then state.accountStaffPermissions userId
      else state.linkedStaffPermissions principal := by
  obtain ⟨-, -, rfl⟩ := linkPrincipalToUser_ok link
  simp only [linkedStaffPermissions, getUserIdByPrincipal, StableIndex.getElem?_insert_entry]
  by_cases same : principal = target
  · simp only [if_pos same]
    rfl
  · simp only [if_neg same]
    rfl

/-- Unlinking a principal takes everything from it, and nothing from anybody else. -/
theorem UserProfileState.linkedStaffPermissions_unlink
    {state unlinked : UserProfileState}
    {userId : UserId}
    {target principal : Principal}
    (unlink : state.unlinkPrincipalFromUser userId target = .ok unlinked) :
    unlinked.linkedStaffPermissions principal =
      if principal = target then .EMPTY else state.linkedStaffPermissions principal := by
  obtain rfl := unlinkPrincipalFromUser_ok unlink
  simp only [linkedStaffPermissions, getUserIdByPrincipal, StableIndex.getElem?_erase_entry]
  by_cases same : principal = target
  · simp only [if_pos same]
  · simp only [if_neg same]
    rfl

/-- An account has no more staff permissions than its profile records. -/
theorem UserProfileState.contains_accountStaffPermissions
    {state : UserProfileState}
    {userId : UserId}
    {held : StaffPermissions}
    (within :
      held.contains
        (((state.getUserProfileByUserId userId).bind (·.staffPermissions)).getD .EMPTY) =
          true) :
    held.contains (state.accountStaffPermissions userId) = true := by
  unfold accountStaffPermissions
  cases lookup : state.getUserProfileByUserId userId with
  | none =>
      exact Permissions.contains_EMPTY _
  | some profile =>
      dsimp only [UserProfile.effectiveStaffPermissions]
      split
      · simpa [lookup] using within
      · exact Permissions.contains_EMPTY _

end Accounts

section Operations

variable [Host]

/-- An account is reactivated only by a caller that holds its staff permissions, as far as
principals depend on it. -/
def ReactivatesWithinOwn (call : Call) (request : Request) (s : Stores) : Prop :=
  ∀ userText userId profile,
    request = .adminUpdateUserProfile userText (some .active) →
      Id.tryFrom userText = .ok userId →
        s.userProfile.getUserProfileByUserId userId = some profile →
          profile.status = .inactive →
            ∀ principal,
              s.userProfile.getUserIdByPrincipal principal = some userId →
                StaffByAccount call.isController principal s →
                  (callerStaffPermissions call.isController call.caller s).contains
                    (profile.staffPermissions.getD .EMPTY) = true

variable {call : Call} {request : Request} {s after : Stores}

/-- A change of status stays below the ceiling exactly if a reactivation does. -/
private theorem updateStatus_iff
    {userText : String}
    {status : Option Dto.UserStatus}
    {userId : UserId}
    {profile : UserProfile}
    {state : UserProfileState}
    (changed : UserProfile)
    (asked : request = .adminUpdateUserProfile userText status)
    (parsed : Id.tryFrom userText = .ok userId)
    (stored : s.userProfile.getUserProfileByUserId userId = some profile)
    (sameService : after.servicePrincipal = s.servicePrincipal)
    (sameLinks : state.principalIndex = s.userProfile.principalIndex)
    (sameProfiles : state.profiles = s.userProfile.profiles)
    (written : after.userProfile = state.storeProfile userId changed)
    (newStatus : changed.status = (status.map mapUserStatusRequest).getD profile.status)
    (sameStaff : changed.staffPermissions = profile.staffPermissions) :
    StaffGranterCeiling call request s after ↔ ReactivatesWithinOwn call request s := by
  have effective :
      ∀ principal,
        after.userProfile.linkedStaffPermissions principal =
          if s.userProfile.getUserIdByPrincipal principal = some userId then
            changed.effectiveStaffPermissions
          else s.userProfile.linkedStaffPermissions principal := by
    intro principal
    rw [written, UserProfileState.linkedStaffPermissions_storeProfile sameLinks sameProfiles]
  constructor
  · intro ceiling otherText otherId other askedOther parsedOther storedOther inactive principal
      linked byAccount
    rw [asked] at askedOther
    cases askedOther
    obtain rfl : userId = otherId := Except.ok.inj (parsed.symm.trans parsedOther)
    obtain rfl : profile = other := Option.some.inj (stored.symm.trans storedOther)
    have notItself : ¬LinksItself request principal s after := by
      rintro ⟨-, unlinked, -⟩
      rw [linked] at unlinked
      cases unlinked
    have below := ceiling principal notItself
    have byAccountAfter : StaffByAccount call.isController principal after :=
      ⟨byAccount.named, byAccount.noController, by rw [sameService]; exact byAccount.noService⟩
    -- An inactive account gave nothing, so the caller must hold everything it gives now.
    have gaveNothing : profile.status ≠ .active := by
      rw [inactive]
      decide
    rw [byAccount.callerStaffPermissions_eq, byAccountAfter.callerStaffPermissions_eq,
      effective principal, if_pos linked,
      UserProfileState.linkedStaffPermissions_of_stored linked stored,
      UserProfile.effectiveStaffPermissions_of_not_active gaveNothing,
      Permissions.union_EMPTY_left,
      UserProfile.effectiveStaffPermissions_of_active newStatus, sameStaff] at below
    exact below
  · intro within
    refine .of_accounts sameService fun principal _ byAccount => ?_
    rw [effective principal]
    by_cases linked : s.userProfile.getUserIdByPrincipal principal = some userId
    · rw [if_pos linked, UserProfileState.linkedStaffPermissions_of_stored linked stored]
      by_cases active : changed.status = .active
      · rw [UserProfile.effectiveStaffPermissions_of_active active, sameStaff]
        cases before : profile.status with
        | active =>
            rw [UserProfile.effectiveStaffPermissions_of_active before]
            exact Permissions.contains_union_left (Permissions.contains_self _)
        | inactive =>
            have reactivated : status = some .active := by
              rw [newStatus, before] at active
              rcases status with _ | _ | _ <;> simp_all [mapUserStatusRequest]
            subst reactivated
            refine Permissions.contains_union_right ?_
            exact
              within userText userId profile asked parsed stored before principal linked
                byAccount
      · rw [UserProfile.effectiveStaffPermissions_of_not_active active]
        exact Permissions.contains_EMPTY _
    · rw [if_neg linked]
      exact Permissions.contains_union_left (Permissions.contains_self _)

/-- Signing up gives the caller an account without staff permissions. -/
private theorem staffGranterCeiling_signingUp :
    StaffGranterCeiling call request s (s.signingUp call.caller) := by
  obtain ⟨policies, drawn, -, founded⟩ :=
    Stores.founding_eq
      { s with
        userProfile :=
          (s.userProfile.createUserProfile s.nextId call.caller .default).incrementUserCount false
        drawn := s.drawn + 1 }
      s.nextId OrganizationRepository.defaultOrganization
  rw [Stores.signingUp, founded]
  refine .of_accounts rfl fun principal _ _ => ?_
  have unprivileged : UserProfile.default.effectiveStaffPermissions = .EMPTY := rfl
  simp only [UserProfileState.linkedStaffPermissions, UserProfileState.accountStaffPermissions,
    UserProfileState.getUserIdByPrincipal, UserProfileState.getUserProfileByUserId,
    UserProfileState.incrementUserCount, UserProfileState.createUserProfile,
    StableIndex.getElem?_insert_entry]
  by_cases itself : principal = call.caller
  · simp only [if_pos itself, if_true, unprivileged]
    exact Permissions.contains_EMPTY _
  · simp only [if_neg itself]
    cases s.userProfile.principalIndex[principal]? with
    | none =>
        exact Permissions.contains_EMPTY _
    | some userId =>
        by_cases new : userId = s.nextId
        · simp only [if_pos new, unprivileged]
          exact Permissions.contains_EMPTY _
        · simp only [if_neg new]
          exact Permissions.contains_union_left (Permissions.contains_self _)

omit [Host] in
/-- Only controllers pass `assert_controller`. -/
private theorem assertController_ok
    (passed : assertController call = .ok ()) :
    call.isController call.caller = true := by
  obtain ⟨_, -, controls⟩ := bind_eq_ok.mp passed
  split at controls
  · assumption
  · cases controls

omit [Host] in
/-- A principal that links itself is exempt; the others keep what they have. -/
private theorem staffGranterCeiling_linkItself
    {userId : UserId}
    {linked : UserProfileState}
    (itself :
      (∃ code, request = .linkMyPrincipal code) ∨
        ∃ token, request = .recoverAccountByEmail token)
    (link : s.userProfile.linkPrincipalToUser userId call.caller = .ok linked)
    (sameService : after.servicePrincipal = s.servicePrincipal)
    (written : after.userProfile = linked) :
    StaffGranterCeiling call request s after := by
  refine .of_accounts sameService fun principal notItself _ => ?_
  rw [written, UserProfileState.linkedStaffPermissions_link link]
  split
  · rename_i same
    subst same
    obtain ⟨-, unlinked, rfl⟩ := UserProfileState.linkPrincipalToUser_ok link
    refine (notItself ⟨itself, unlinked, ?_⟩).elim
    simp only [written, UserProfileState.getUserIdByPrincipal,
      StableIndex.getElem?_insert_entry, if_true, Option.isSome_some]
  · exact Permissions.contains_union_left (Permissions.contains_self _)

/-- An account operation stays below the ceiling if a reactivation does. -/
private theorem AccountWrite.staffGranterCeiling
    (write : AccountWrite call s request after)
    (passed : gate call request s = .ok ())
    (noController : call.isController call.caller = false)
    (within : ReactivatesWithinOwn call request s) :
    StaffGranterCeiling call request s after := by
  cases write with
  | @updateStatus _ status userId profile parsed stored =>
      obtain ⟨stats, moved⟩ :=
        s.userProfile.updateUserStatusCount_frame (decide (profile.status = .active))
          (decide ((status.map mapUserStatusRequest).getD profile.status = .active))
      refine
        Iff.mpr
          (updateStatus_iff
            { profile with status := (status.map mapUserStatusRequest).getD profile.status } rfl
            parsed stored rfl ?_ ?_ rfl rfl rfl)
          within <;>
        rw [moved]
  | keepEmail _ stored | setEmail _ stored _ _ =>
      exact .of_sameStaff rfl rfl rfl rfl stored rfl rfl
  | @replaceVerifiedEmail _ userId profile _ _ stored _ _ _ =>
      obtain ⟨emails, released⟩ := s.userProfile.releaseOwnEmail_frame userId profile
      refine .of_sameStaff rfl rfl ?_ ?_ stored rfl rfl <;> rw [released]
  | verifyEmail _ _ stored _ _ claim =>
      obtain ⟨emails, rfl⟩ := UserProfileState.claimVerifiedEmail_frame claim
      exact .of_sameStaff rfl rfl rfl rfl stored rfl rfl
  | linkMyPrincipal _ _ _ link =>
      exact staffGranterCeiling_linkItself (.inl ⟨_, rfl⟩) link rfl rfl
  | recoverAccountByEmail _ _ _ _ _ link =>
      exact staffGranterCeiling_linkItself (.inr ⟨_, rfl⟩) link rfl rfl
  | unlinkMyPrincipal _ unlink | adminUnlinkPrincipalFromUser _ _ unlink =>
      refine .of_accounts rfl fun principal _ _ => ?_
      rw [UserProfileState.linkedStaffPermissions_unlink unlink]
      split
      · exact Permissions.contains_EMPTY _
      · exact Permissions.contains_union_left (Permissions.contains_self _)
  | adminLinkPrincipalToUser _ _ grantable _ _ link =>
      refine .of_accounts rfl fun principal _ _ => ?_
      rw [UserProfileState.linkedStaffPermissions_link link]
      split
      · exact
          Permissions.contains_union_right
            (UserProfileState.contains_accountStaffPermissions grantable)
      · exact Permissions.contains_union_left (Permissions.contains_self _)
  | setMyPrincipalName _ _ rename =>
      obtain ⟨names, rfl⟩ := UserProfileState.setPrincipalName_ok rename
      refine .of_accounts rfl fun principal _ _ => ?_
      exact Permissions.contains_union_left (Permissions.contains_self _)
  | grantStaffPermissions _ _ _ | revokeStaffPermissions _ _
  | grantServicePrincipalPermissions _ _ _ | revokeServicePrincipalPermissions _ =>
      -- These are for controllers only.
      rw [assertController_ok passed] at noController
      cases noController
  | registerLinkCode _ _ | pruneLinkCodes | spendLinkCode | revokeMyLinkCode _
  | changeDecision _ | makeDecision | createTermsAndConditions =>
      exact .of_sameAccounts ⟨rfl, rfl⟩

/-- A successful change of status to active stores it. -/
private theorem Handled.reactivation_ok
    {userText : String}
    {result : Except Failure Slot}
    {slot : Slot}
    (handled : Handled call s request result after)
    (answered : result = .ok slot)
    (asked : request = .adminUpdateUserProfile userText (some .active)) :
    StaffGranterCeiling call request s after ↔ ReactivatesWithinOwn call request s := by
  subst asked
  cases handled with
  | refused =>
      cases answered
  | account write _ =>
      cases write with
      | @updateStatus _ _ userId profile parsed stored =>
          obtain ⟨stats, moved⟩ :=
            s.userProfile.updateUserStatusCount_frame (decide (profile.status = .active))
              (decide
                (((some Dto.UserStatus.active).map mapUserStatusRequest).getD profile.status =
                  .active))
          refine
            updateStatus_iff { profile with status := .active } rfl parsed stored rfl ?_ ?_ rfl
              rfl rfl <;>
            rw [moved]
  | membership write _ =>
      cases write with
      | alreadyDone done =>
          cases done
  | invite write _ =>
      cases write
  | policy write =>
      cases write
  | proposal write =>
      cases write
  | canister write =>
      cases write

/-- Exactly reactivating an account can break the staff ceiling. -/
theorem Handled.staffGranterCeiling_iff
    {result : Except Failure Slot}
    {slot : Slot}
    (handled : Handled call s request result after)
    (answered : result = .ok slot)
    (passed : gate call request s = .ok ())
    (noController : call.isController call.caller = false) :
    StaffGranterCeiling call request s after ↔ ReactivatesWithinOwn call request s := by
  constructor
  · intro ceiling userText userId profile asked
    exact
      (handled.reactivation_ok answered asked).mp ceiling userText userId profile asked
  · intro within
    cases handled.reachesAccounts with
    | elsewhere same =>
        exact .of_sameAccounts same
    | signUp _ =>
        exact staffGranterCeiling_signingUp
    | account write =>
        exact write.staffGranterCeiling passed noController within

/-- In a run, an accepted message of a caller that is no controller stays below the staff
ceiling exactly if it reactivates no account beyond its caller's own permissions. -/
theorem staffGranterCeiling_iff_of_execution
    (execution : Execution World.endpointStep World.empty)
    {time : Nat}
    {call : Call}
    {request : Request}
    (within : time < execution.length)
    (arrives : execution.event time = .message call request)
    (accepted : (execution.state time).Accepts call request)
    (noController : call.isController call.caller = false) :
    StaffGranterCeiling call request (execution.state time).stores
        (execution.state (time + 1)).stores ↔
      ReactivatesWithinOwn call request (execution.state time).stores := by
  have stepped := execution.advances time within
  rw [arrives] at stepped
  obtain ⟨slot, handled⟩ := accepted.handled stepped
  exact handled.staffGranterCeiling_iff rfl accepted.1 noController

end Operations

section Reactivation

open TextualHost

attribute [local instance] host

/-- The operator gives two accounts staff permissions and activates the colleague's, who
manages users; the colleague links a principal and activates the founder's account. -/
def reactivation : List Event :=
  [.message (callBy founder) .createMyUserProfile,
    .message (callBy colleague) .createMyUserProfile,
    .message (callBy operator)
      (.adminGrantStaffPermissions (idText 0) ⟨false, true, false, false⟩),
    .message (callBy operator)
      (.adminGrantStaffPermissions (idText 6) ⟨false, false, true, false⟩),
    .message (callBy operator) (.adminUpdateUserProfile (idText 6) (some .active)),
    .message (callBy colleague) (.adminLinkPrincipalToUser (idText 6) (principal 3)),
    .message (callBy colleague) (.adminUpdateUserProfile (idText 0) (some .active))]

/-- The run of these events. -/
def reactivationRun : Execution World.endpointStep World.empty :=
  .ofEvents reactivation (.message (callBy founder) .revokeMyLinkCode) (by decide +kernel)

/-- Linking a principal to one's own account hands out nothing new. -/
theorem staffGranterCeiling_colleague_links_principal :
    StaffGranterCeiling (callBy colleague)
      (.adminLinkPrincipalToUser (idText 6) (principal 3)) (reactivationRun.state 5).stores
      (reactivationRun.state 6).stores := by
  refine
    (staffGranterCeiling_iff_of_execution reactivationRun (by decide) rfl
      ⟨by decide +kernel, World.succeeds_of_isOk (by decide +kernel)⟩
      (by decide +kernel)).mpr ?_
  intro userText userId profile asked
  cases asked

/-- A caller with `MANAGE_USERS` alone activates an account with `WRITE_BILLING`. -/
theorem reactivation_exceeds_staffGranterCeiling :
    ∃ time call request,
      time < reactivationRun.length ∧ reactivationRun.event time = .message call request ∧
        (reactivationRun.state time).Accepts call request ∧
          call.isController call.caller = false ∧
            ¬StaffGranterCeiling call request (reactivationRun.state time).stores
              (reactivationRun.state (time + 1)).stores := by
  refine
    ⟨6, callBy colleague, .adminUpdateUserProfile (idText 0) (some .active), by decide, by rfl,
      ⟨by decide +kernel, World.succeeds_of_isOk (by decide +kernel)⟩, by decide +kernel,
      fun ceiling => ?_⟩
  have notItself :
      ¬LinksItself (.adminUpdateUserProfile (idText 0) (some .active)) founder
        (reactivationRun.state 6).stores (reactivationRun.state 7).stores := by
    rintro ⟨⟨code, asked⟩ | ⟨token, asked⟩, -⟩ <;> cases asked
  exact absurd (ceiling founder notItself) (by decide +kernel)

end Reactivation

end SsnConsole.Backend
