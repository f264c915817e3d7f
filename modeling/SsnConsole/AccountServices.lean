import SsnConsole.MembershipServices

/-!
# Account services

The operations of `user_profile_service`, `principal_link_service`,
`staff_permissions_service`, `service_principal_service`, `invite_service` and
`terms_and_conditions_service`, with the token verification they rest on.
-/

namespace SsnConsole.Backend

open SsnConsole.MessageSlice

variable [Host]

namespace Jwt

/-- `invalid`. -/
def invalid (message : String) : RejectionError :=
  .new message .invalid

/-- `ensure` as a result: the error unless the condition holds. -/
def ensure (condition : Bool) (message : String) : Except RejectionError Unit :=
  if condition then .ok () else .error (invalid message)

/-- A parsed value, or the error of its absence. -/
def present {α : Type} (value : Option α) (message : String) : Except RejectionError α :=
  match value with
  | some value => .ok value
  | none => .error (invalid message)

/-- `verify_jwt` at the backend's claims. -/
def verifyJwt (token : String) (publicKeyBytes : List UInt8) (now : Nat) :
    Except RejectionError Claims :=
  match (token.toList.splitOn '.').map String.ofList with
  | [header, payload, signature] => do
      let message := header ++ "." ++ payload
      let sigBytes ←
        present (Host.base64UrlDecode signature) "Invalid JWT signature base64 encoding"
      ensure (Host.isSignature sigBytes) "Invalid JWT signature length"
      ensure (Host.isVerifyingKey publicKeyBytes) "Invalid JWT public key"
      ensure (Host.verifySignature publicKeyBytes message sigBytes)
        "JWT signature verification failed"
      let payloadBytes ←
        present (Host.base64UrlDecode payload) "Invalid JWT payload base64 encoding"
      let exp ← present (Host.parseBaseClaims payloadBytes) "Failed to parse JWT base claims"
      if now / 1000000000 > exp then
        .error (.new "JWT has expired" .expired)
      else
        present (Host.parseClaims payloadBytes) "Failed to parse JSON claims"
  | _ => .error (invalid "Invalid JWT token format")

/-- `extract_ed25519_public_key_from_pem`. -/
def extractEd25519PublicKeyFromPem (pem : String) : Except String (List UInt8) :=
  let b64 :=
    (((pem.replace "-----BEGIN PUBLIC KEY-----" "").replace
      "-----END PUBLIC KEY-----" "").replace "\n" "").replace "\r" ""
  match Host.base64Decode b64 with
  | .error error => .error s!"Base64 decode error: {error}"
  | .ok der =>
      if der.length ≠ 44 then
        .error
          s!"Expected DER length of 44 for Ed25519 public key, got {der.length}"
      else
        .ok (der.drop 12)

/-- The claims of a token under the environment's public key. -/
def tokenClaims (token : String) (now : Nat) : Except RejectionError Claims :=
  match extractEd25519PublicKeyFromPem Host.publicKeyPem with
  | .error error =>
      .error (.fromApiError (.internalError s!"Failed to parse public key: {error}"))
  | .ok publicKeyBytes => verifyJwt token publicKeyBytes now

end Jwt

/-- A token operation between two awaits. -/
abbrev TokenService (α : Type) :=
  Slice Stores RejectionError α

def PURPOSE_EMAIL_VERIFICATION : String := "email_verification"
def PURPOSE_ACCOUNT_RECOVERY : String := "account_recovery"

namespace UserProfileRepository

/-- `user_profile_repository::create_user_profile`. -/
def createUserProfile (caller : Principal) (profile : UserProfile) : StateM Stores UserId :=
  drawing fun id s => { s with userProfile := s.userProfile.createUserProfile id caller profile }

end UserProfileRepository

namespace UserProfileService

/-- The error of an operation on an account that is not there. -/
def userProfileForUserMissing (userId : UserId) : ApiError :=
  .clientError s!"User profile for user with id {userId.text} does not exist."

/-- The error of an operation by a principal without an account. -/
def userProfileForPrincipalMissing (principal : Principal) : String :=
  s!"User profile for principal {principal.text} does not exist."

/-- `update_user_profile`: set an account's status and move the counters. -/
def updateUserProfile (userId : String) (status : Option Dto.UserStatus) :
    Service Response := do
  let userId ← require (Id.tryFrom userId)
  let profile ← lookup (fun s => s.userProfile.getUserProfileByUserId userId)
    (userProfileForUserMissing userId)
  let newStatus := (status.map mapUserStatusRequest).getD profile.status
  write fun s =>
    { s with
      userProfile :=
        s.userProfile.updateUserStatusCount
          (decide (profile.status = .active)) (decide (newStatus = .active)) }
  tryWrite fun s =>
    (s.userProfile.updateUserProfile userId { profile with status := newStatus }).map
      fun userProfile => { s with userProfile := userProfile }
  return .unit

/-- `create_my_user_profile`: an account with its own default organization. -/
def createMyUserProfile (call : Call) : Service Response := do
  rejectIf (fun s => (s.userProfile.getUserIdByPrincipal call.caller).isSome)
    (.clientError s!"User profile for principal {call.caller.text} already exists.")
  check (assertPrincipalIsUnclaimed call.caller)
  let profile := UserProfile.default
  let userId ← commit (UserProfileRepository.createUserProfile call.caller profile)
  write fun s =>
    { s with
      userProfile := s.userProfile.incrementUserCount (decide (profile.status = .active)) }
  let _ ← commit
    (OrganizationService.foundOrganization userId OrganizationRepository.defaultOrganization)
  return mapCreateMyUserProfileResponse call userId profile

/-- `update_my_user_profile`: a new address is unverified and its old key released. -/
def updateMyUserProfile (call : Call) (email : Option String) : Service Response := do
  let (userId, profile) ←
    lookup (fun s => s.userProfile.getUserProfileByPrincipal call.caller)
      (.clientError (userProfileForPrincipalMissing call.caller))
  match email with
  | none =>
      tryWrite fun s =>
        (s.userProfile.updateUserProfile userId profile).map
          fun userProfile => { s with userProfile := userProfile }
      return .unit
  | some rawEmail =>
      let newEmail ← require (Email.tryFrom rawEmail)
      let changed := decide (profile.email ≠ some newEmail.text)
      if changed && profile.emailVerified then
        write fun s =>
          { s with userProfile := s.userProfile.releaseOwnEmail userId profile }
        tryWrite fun s =>
          (s.userProfile.updateUserProfile userId
            { profile with email := some newEmail.text, emailVerified := false }).map
            fun userProfile => { s with userProfile := userProfile }
        return .unit
      else
        tryWrite fun s =>
          (s.userProfile.updateUserProfile userId
            { profile with email := some newEmail.text }).map
            fun userProfile => { s with userProfile := userProfile }
        return .unit

/-- The part of `verify_email` after its token is verified. -/
def verifyEmailWithClaims (call : Call) (claims : Claims) : TokenService Response := do
  require
    (if claims.purpose = none ∨ claims.purpose = some PURPOSE_EMAIL_VERIFICATION then
      .ok ()
    else
      .error (.new "Token cannot be used to verify an email." .wrongPurpose))
  let (userId, profile) ←
    lookup (fun s => s.userProfile.getUserProfileByPrincipal call.caller)
      (.new (userProfileForPrincipalMissing call.caller) .profileNotFound)
  let storedEmail ← lookup (fun _ => profile.email)
    (.fromApiError (.clientError "User profile does not have an email to verify"))
  let profileEmail ← reportAs .fromApiError (require (Email.tryFrom storedEmail))
  let claimEmail ← reportAs .fromApiError (require (Email.tryFrom claims.email))
  rejectIf (fun _ => decide (profileEmail.text ≠ claimEmail.text))
    (.new "Token email does not match user profile email" .emailMismatch)
  reportAs .fromApiError
    (tryWrite fun s =>
      (s.userProfile.claimVerifiedEmail userId profileEmail).map
        fun userProfile => { s with userProfile := userProfile })
  reportAs .fromApiError
    (tryWrite fun s =>
      (s.userProfile.updateUserProfile userId { profile with emailVerified := true }).map
        fun userProfile => { s with userProfile := userProfile })
  return .unit

/-- `verify_email`. -/
def verifyEmail (call : Call) (token : String) : TokenService Response := do
  let claims ← require (Jwt.tokenClaims token call.now)
  verifyEmailWithClaims call claims

end UserProfileService

namespace PrincipalLinkService

def LINK_CODE_TTL_NANOS : Nat := 15 * 60 * 1000000000
def LINK_CODE_LEN : Nat := 8

/-- Drop the link codes that have expired by `now`. -/
def pruneLinkCodes (now : Nat) (s : Stores) : Stores :=
  { s with
    pendingLinkCodes := s.pendingLinkCodes.filter fun _ entry => decide (entry.expiresAtNanos > now) }

/-- `validate_code_format`. -/
def validateCodeFormat (code : String) : ApiResult Unit :=
  if code.utf8ByteSize ≠ LINK_CODE_LEN then
    .error (.clientError "Link code must be 8 characters.")
  else if !code.toList.all fun char => char.isUpper || char.isDigit then
    .error (.clientError "Link code must use uppercase letters and digits only.")
  else
    .ok ()

/-- `register_link_code`: the user's pending code is replaced. -/
def registerLinkCode (call : Call) (code : String) (targetPrincipal : Principal) :
    Service Response := do
  let userId ← check fun s => s.userProfile.assertUserIdByPrincipal call.caller
  require (validateCodeFormat code)
  rejectIf (fun _ => decide (targetPrincipal = Principal.anonymous))
    (.clientError "Target principal must not be anonymous.")
  let expiresAt := min (call.now + LINK_CODE_TTL_NANOS) (2 ^ 64 - 1)
  write (pruneLinkCodes call.now)
  write fun s =>
    { s with
      pendingLinkCodes := s.pendingLinkCodes.insert userId ⟨code, targetPrincipal, expiresAt⟩ }
  return .linkCode expiresAt

/-- `link_my_principal`: expired codes are dropped even when the call fails. -/
def linkMyPrincipal (call : Call) (code : String) : Service Response := do
  write (pruneLinkCodes call.now)
  let (userId, entry) ←
    lookup (fun s => s.pendingLinkCodes.toList.find? fun row => decide (row.2.code = code))
      (.clientError "Invalid or expired link code.")
  rejectIf (fun _ => decide (entry.targetPrincipal ≠ call.caller))
    (.clientError "Invalid or expired link code.")
  write fun s => { s with pendingLinkCodes := s.pendingLinkCodes.erase userId }
  check (assertPrincipalIsUnclaimed call.caller)
  tryWrite fun s =>
    (s.userProfile.linkPrincipalToUser userId call.caller).map
      fun userProfile => { s with userProfile := userProfile }
  return .unit

/-- `unlink_my_principal`. -/
def unlinkMyPrincipal (call : Call) (principal : Principal) : Service Response := do
  let userId ← check fun s => s.userProfile.assertUserIdByPrincipal call.caller
  tryWrite fun s =>
    (s.userProfile.unlinkPrincipalFromUser userId principal).map
      fun userProfile => { s with userProfile := userProfile }
  return .unit

/-- `set_my_principal_name`. -/
def setMyPrincipalName (call : Call) (principal : Principal) (name : Option String) :
    Service Response := do
  let userId ← check fun s => s.userProfile.assertUserIdByPrincipal call.caller
  let validated ← require (validateOptionalPrincipalName name)
  tryWrite fun s =>
    (s.userProfile.setPrincipalName userId principal validated).map
      fun userProfile => { s with userProfile := userProfile }
  return .unit

/-- `revoke_my_link_code`. -/
def revokeMyLinkCode (call : Call) : Service Response := do
  let userId ← check fun s => s.userProfile.assertUserIdByPrincipal call.caller
  rejectIf (fun s => !s.pendingLinkCodes.contains userId)
    (.clientError "Link code not found.")
  write fun s => { s with pendingLinkCodes := s.pendingLinkCodes.erase userId }
  return .unit

/-- `admin_link_principal_to_user`, bounded by the caller's own staff permissions. -/
def adminLinkPrincipalToUser (call : Call) (userId : String) (principal : Principal) :
    Service Response := do
  let userId ← require (Id.tryFrom userId)
  check (assertStaffPerm call StaffPermissions.MANAGE_USERS)
  let targetPerms ← inspect fun s =>
    ((s.userProfile.getUserProfileByUserId userId).bind (·.staffPermissions)).getD .EMPTY
  check (assertStaffCanGrant call targetPerms)
  rejectIf (fun _ => decide (principal = Principal.anonymous))
    (.clientError "Target principal must not be anonymous.")
  check (assertPrincipalIsUnclaimed principal)
  tryWrite fun s =>
    (s.userProfile.linkPrincipalToUser userId principal).map
      fun userProfile => { s with userProfile := userProfile }
  return .unit

/-- `admin_unlink_principal_from_user`. -/
def adminUnlinkPrincipalFromUser (call : Call) (userId : String) (principal : Principal) :
    Service Response := do
  let userId ← require (Id.tryFrom userId)
  check (assertStaffPerm call StaffPermissions.MANAGE_USERS)
  tryWrite fun s =>
    (s.userProfile.unlinkPrincipalFromUser userId principal).map
      fun userProfile => { s with userProfile := userProfile }
  return .unit

/-- `recover_with_claims`: link the caller to the holder of a verified address. -/
def recoverWithClaims (call : Call) (claims : Claims) : TokenService Response := do
  rejectIf (fun _ => decide (claims.purpose ≠ some PURPOSE_ACCOUNT_RECOVERY))
    (.new "Token cannot be used to recover an account." .wrongPurpose)
  let email ← reportAs .fromApiError (require (Email.tryFrom claims.email))
  let userId ← lookup (fun s => s.userProfile.getUserIdByVerifiedEmail email)
    (.new "No verified account found for this email." .noVerifiedAccount)
  reportAs .fromApiError (check (assertPrincipalIsUnclaimed call.caller))
  reportAs .fromApiError
    (tryWrite fun s =>
      (s.userProfile.linkPrincipalToUser userId call.caller).map
        fun userProfile => { s with userProfile := userProfile })
  return .unit

/-- `recover_account_by_email`. -/
def recoverAccountByEmail (call : Call) (token : String) : TokenService Response := do
  let claims ← require (Jwt.tokenClaims token call.now)
  recoverWithClaims call claims

end PrincipalLinkService

namespace StaffPermissionsService

/-- Replace an account's staff permissions. -/
def setStaffPermissions (userId : UserId) (permissions : Option StaffPermissions) :
    Service Response := do
  let profile ← lookup (fun s => s.userProfile.getUserProfileByUserId userId)
    (.clientError s!"User profile with id {userId.text} does not exist.")
  tryWrite fun s =>
    (s.userProfile.updateUserProfile userId
      { profile with staffPermissions := permissions }).map
      fun userProfile => { s with userProfile := userProfile }
  return .unit

/-- `grant_staff_permissions`: an empty grant is refused. -/
def grantStaffPermissions (userId : String) (permissions : Dto.StaffPermissions) :
    Service Response := do
  let perms := mapStaffPermissionsFromDto permissions
  rejectIf (fun _ => decide (perms = .EMPTY))
    (.clientError
      "Refusing to grant empty staff permissions; call revoke_staff_permissions instead.")
  let userId ← require (Id.tryFrom userId)
  setStaffPermissions userId (some perms)

/-- `revoke_staff_permissions`. -/
def revokeStaffPermissions (userId : String) : Service Response := do
  let userId ← require (Id.tryFrom userId)
  setStaffPermissions userId none

end StaffPermissionsService

namespace ServicePrincipalService

/-- `reject_anonymous`. -/
def rejectAnonymous (principal : Principal) : ApiResult Unit :=
  if principal = Principal.anonymous then
    .error (.clientError "Anonymous principal is not a valid service principal.")
  else
    .ok ()

/-- `grant_service_principal_permissions`. -/
def grantServicePrincipalPermissions (servicePrincipal : Principal)
    (permissions : Dto.StaffPermissions) : Service Response := do
  require (rejectAnonymous servicePrincipal)
  rejectIf (fun s => (s.userProfile.getUserIdByPrincipal servicePrincipal).isSome)
    (.clientError "Principal is already linked to a user account.")
  let perms := mapStaffPermissionsFromDto permissions
  rejectIf (fun _ => decide (perms = .EMPTY))
    (.clientError "Cannot grant empty staff permissions; use revoke instead.")
  write fun s =>
    { s with
      servicePrincipal :=
        s.servicePrincipal.setServicePrincipalPermissions servicePrincipal perms }
  return .unit

/-- `revoke_service_principal_permissions`. -/
def revokeServicePrincipalPermissions (servicePrincipal : Principal) :
    Service Response := do
  require (rejectAnonymous servicePrincipal)
  write fun s =>
    { s with servicePrincipal := s.servicePrincipal.removeServicePrincipal servicePrincipal }
  return .unit

end ServicePrincipalService

namespace InviteService

def INVITE_TTL_NS : Nat := 7 * 24 * 60 * 60 * 1000000000
def MAX_PENDING_INVITES_PER_ORG : Nat := 10

/-- `normalize_target`. -/
def normalizeTarget : InviteTarget → ApiResult InviteTarget
  | .email address =>
      match Email.tryFrom address with
      | .ok email => .ok (.email email.text)
      | .error error => .error error
  | other => .ok other

/-- The mapped and normalized target of an invite request. -/
def requestedTarget (target : Dto.InviteTarget) : ApiResult InviteTarget :=
  match mapInviteTargetToData target with
  | .ok target => normalizeTarget target
  | .error message => .error (.clientError message)

/-- Whether the invited user or principal is known to be a member already. -/
def targetIsMember (target : InviteTarget) (orgId : OrgId) (s : Stores) : Bool :=
  let memberUserId :=
    match target with
    | .userId userId => some userId
    | .principal principal => s.userProfile.getUserIdByPrincipal principal
    | .email _ => none
  memberUserId.any fun userId => s.organization.isUserInOrg userId orgId

/-- `create_org_invite`: expired invites are swept even when the call fails. -/
def createOrgInvite (call : Call) (orgId : String) (target : Dto.InviteTarget) :
    Service Response := do
  let orgId ← require (Id.tryFrom orgId)
  let auth ← check (OrgAuth.require call.caller orgId OrgPermissions.MEMBER_MANAGE)
  let target ← require (requestedTarget target)
  rejectIf (targetIsMember target orgId)
    (.clientError "User is already a member of this organization.")
  write fun s => { s with invite := s.invite.sweepExpiredOrgInvites orgId call.now }
  rejectIf
    (fun s =>
      s.invite.countPendingInvitesForOrg orgId call.now ≥ MAX_PENDING_INVITES_PER_ORG)
    (.clientError
      s!"Cannot have more than {MAX_PENDING_INVITES_PER_ORG} pending invites per organization.")
  let invite : OrgInvite :=
    { orgId := orgId
      createdBy := auth.userId
      createdAtNs := call.now
      expiresAtNs := call.now + INVITE_TTL_NS
      target := target
      status := .pending }
  let inviteId ← commit
    (drawing fun inviteId s => { s with invite := s.invite.createInvite inviteId invite })
  let orgName ← inspect fun s => ((s.organization.getOrg orgId).map (·.name)).getD ""
  return .invite (mapInviteToDto inviteId invite orgName)

/-- The error of an operation on an invite that is not stored. -/
def inviteMissing (inviteId : InviteId) : ApiError :=
  .clientError s!"Invite with id {inviteId.text} does not exist."

/-- Read a stored invite. -/
def storedInvite (inviteId : InviteId) : Service OrgInvite :=
  lookup (fun s => s.invite.getInvite inviteId) (inviteMissing inviteId)

/-- `revoke_org_invite`. -/
def revokeOrgInvite (call : Call) (inviteId : String) : Service Response := do
  let inviteId ← require (Id.tryFrom inviteId)
  let invite ← storedInvite inviteId
  let auth ← check (OrgAuth.require call.caller invite.orgId .EMPTY)
  rejectIf
    (fun _ =>
      decide (invite.createdBy ≠ auth.userId) &&
        !auth.perms.contains OrgPermissions.MEMBER_MANAGE)
    (.unauthorized "Only the inviter or a member manager can revoke this invite.")
  rejectIf (fun _ => decide (invite.status ≠ .pending))
    (.clientError "Only pending invites can be revoked.")
  tryWrite fun s =>
    (s.invite.updateInvite inviteId { invite with status := .revoked }).map
      fun invite => { s with invite := invite }
  return .unit

/-- `invite_matches_user`. -/
def inviteMatchesUser (target : InviteTarget) (userId : UserId)
    (principals : List Principal) (email : Option String) (emailVerified : Bool) : Bool :=
  match target with
  | .userId targetUserId => decide (targetUserId = userId)
  | .principal targetPrincipal => principals.contains targetPrincipal
  | .email targetEmail =>
      match emailVerified, email with
      | true, some email => eqIgnoreAsciiCase email targetEmail
      | _, _ => false

/-- `assert_invite_is_actionable_by`. -/
def assertInviteIsActionableBy (invite : OrgInvite) (userId : UserId)
    (principals : List Principal) (email : Option String) (emailVerified : Bool)
    (nowNs : Nat) : ApiResult Unit :=
  if invite.status ≠ .pending then
    .error (.clientError "Invite is no longer pending.")
  else if invite.expiresAtNs ≤ nowNs then
    .error (.clientError "Invite has expired.")
  else if !inviteMatchesUser invite.target userId principals email emailVerified then
    .error (.unauthorized "Invite is not addressed to the caller.")
  else
    .ok ()

/-- The invitee's checks, shared by accepting and declining. -/
def actionableInvite (call : Call) (inviteId : String) :
    Service (InviteId × UserId × OrgInvite) := do
  let inviteId ← require (Id.tryFrom inviteId)
  let userId ← check fun s => s.userProfile.assertUserIdByPrincipal call.caller
  let profile ← lookup (fun s => s.userProfile.getUserProfileByUserId userId)
    (UserProfileService.userProfileForUserMissing userId)
  let principals ← inspect fun s => s.userProfile.getPrincipalsByUserId userId
  let invite ← storedInvite inviteId
  require
    (assertInviteIsActionableBy invite userId principals profile.email
      profile.emailVerified call.now)
  return (inviteId, userId, invite)

/-- `accept_org_invite`. -/
def acceptOrgInvite (call : Call) (inviteId : String) : Service Response := do
  let (inviteId, userId, invite) ← actionableInvite call inviteId
  write fun s =>
    if s.organization.isUserInOrg userId invite.orgId then
      s
    else
      { s with organization := s.organization.addUserToOrg userId invite.orgId }
  tryWrite fun s =>
    (s.invite.updateInvite inviteId { invite with status := .accepted }).map
      fun invite => { s with invite := invite }
  return .unit

/-- `decline_org_invite`. -/
def declineOrgInvite (call : Call) (inviteId : String) : Service Response := do
  let (inviteId, _, invite) ← actionableInvite call inviteId
  tryWrite fun s =>
    (s.invite.updateInvite inviteId { invite with status := .declined }).map
      fun invite => { s with invite := invite }
  return .unit

end InviteService

namespace TermsAndConditionsService

/-- `upsert_terms_and_conditions_decision`: a repeated decision keeps its row. -/
def upsertTermsAndConditionsDecision (call : Call) (termsAndConditionsId : String)
    (decisionType : Dto.TermsAndConditionsDecisionType) : Service Response := do
  rejectIf (fun _ => call.isController call.caller)
    (.unauthorized "Controllers do not need to accept terms and conditions.")
  let userId ← check fun s => s.userProfile.assertUserIdByPrincipal call.caller
  let termsAndConditionsId ← require (Id.tryFrom termsAndConditionsId)
  let decision : TermsAndConditionsDecision :=
    ⟨termsAndConditionsId, userId, call.now, mapDecisionType decisionType⟩
  rejectIf (fun s => !s.terms.termsAndConditions.contains termsAndConditionsId)
    (.clientError
      s!"Terms and conditions with id {termsAndConditionsId.text} does not exist.")
  let known ← inspect fun s => s.terms.decisionsUserIndex[(userId, termsAndConditionsId)]?
  match known with
  | some id =>
      write fun s => { s with terms := s.terms.upsertDecision id decision }
      return .unit
  | none =>
      let _ ← commit
        (drawing fun id s => { s with terms := s.terms.upsertDecision id decision })
      return .unit

/-- `create_terms_and_conditions`. -/
def createTermsAndConditions (call : Call) (content comment : String) :
    Service Response := do
  let userId ← check fun s => s.userProfile.assertUserIdByPrincipal call.caller
  let terms : TermsAndConditions := ⟨content, comment, call.now, userId⟩
  let _ ← commit
    (drawing fun id s => { s with terms := s.terms.createTermsAndConditions id terms })
  return .unit

end TermsAndConditionsService

end SsnConsole.Backend
