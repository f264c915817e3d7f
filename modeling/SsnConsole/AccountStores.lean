import SsnConsole.BackendRecords
import SsnConsole.StableIndex

/-!
# Account, service-principal, invite and terms stores

The repositories around user accounts: profiles with their linked principals
and verified addresses, service principals, organization invites and the
accepted terms.
-/

namespace SsnConsole.Backend

open Std
open SsnConsole.StableIndex

/-- State of `user_profile_repository`. -/
structure UserProfileState where
  profiles : ExtTreeMap UserId UserProfile
  principalIndex : ExtTreeMap Principal UserId
  idPrincipalIndex : ExtTreeSet (UserId × Principal)
  principalNames : ExtTreeMap (UserId × Principal) String
  verifiedEmailIndex : ExtTreeMap VerifiedEmailKey UserId
  stats : UserStatsData

namespace UserProfileState

def empty : UserProfileState :=
  ⟨∅, ∅, ∅, ∅, ∅, UserStatsData.default⟩

def getUserIdByPrincipal (s : UserProfileState) (principal : Principal) : Option UserId :=
  s.principalIndex[principal]?

def getUserProfileByUserId (s : UserProfileState) (userId : UserId) : Option UserProfile :=
  s.profiles[userId]?

def getUserProfileByPrincipal (s : UserProfileState) (principal : Principal) :
    Option (UserId × UserProfile) :=
  (s.getUserIdByPrincipal principal).bind fun userId =>
    (s.getUserProfileByUserId userId).map fun profile => (userId, profile)

def assertUserIdByPrincipal [Host] (s : UserProfileState) (principal : Principal) :
    ApiResult UserId :=
  match s.getUserIdByPrincipal principal with
  | some userId => .ok userId
  | none =>
      .error (.clientError s!"User profile for principal {principal.text} does not exist.")

def getPrincipalsByUserId (s : UserProfileState) (userId : UserId) : List Principal :=
  prefixRows s.idPrincipalIndex userId

/-- `create_user_profile` with its drawn identifier. -/
def createUserProfile (s : UserProfileState) (id : UserId) (caller : Principal)
    (userProfile : UserProfile) : UserProfileState :=
  { s with
    profiles := s.profiles.insert id userProfile
    principalIndex := s.principalIndex.insert caller id
    idPrincipalIndex := s.idPrincipalIndex.insert (id, caller) }

def linkPrincipalToUser (s : UserProfileState) (userId : UserId) (principal : Principal) :
    ApiResult UserProfileState :=
  if !s.profiles.contains userId then
    .error (.clientError "Principal cannot be linked.")
  else if s.principalIndex.contains principal then
    .error (.clientError "Principal cannot be linked.")
  else
    .ok
      { s with
        principalIndex := s.principalIndex.insert principal userId
        idPrincipalIndex := s.idPrincipalIndex.insert (userId, principal) }

def unlinkPrincipalFromUser (s : UserProfileState) (userId : UserId)
    (principal : Principal) : ApiResult UserProfileState :=
  if s.principalIndex[principal]? ≠ some userId then
    .error (.clientError "Principal cannot be unlinked.")
  else if (s.getPrincipalsByUserId userId).length ≤ 1 then
    .error (.clientError "Principal cannot be unlinked.")
  else
    .ok
      { s with
        principalIndex := s.principalIndex.erase principal
        idPrincipalIndex := s.idPrincipalIndex.erase (userId, principal)
        principalNames := s.principalNames.erase (userId, principal) }

def setPrincipalName (s : UserProfileState) (userId : UserId) (principal : Principal)
    (name : Option String) : ApiResult UserProfileState :=
  if !s.idPrincipalIndex.contains (userId, principal) then
    .error (.clientError "Principal cannot be renamed.")
  else
    match name with
    | some value =>
        .ok { s with principalNames := s.principalNames.insert (userId, principal) value }
    | none =>
        .ok { s with principalNames := s.principalNames.erase (userId, principal) }

def getUserIdByVerifiedEmail (s : UserProfileState) (email : Email) : Option UserId :=
  s.verifiedEmailIndex[email.text]?

def claimVerifiedEmail (s : UserProfileState) (userId : UserId) (email : Email) :
    ApiResult UserProfileState :=
  match s.verifiedEmailIndex[email.text]? with
  | some existing =>
      if existing = userId then
        .ok s
      else
        .error (.clientError "Email is already verified on another account.")
  | none =>
      .ok { s with verifiedEmailIndex := s.verifiedEmailIndex.insert email.text userId }

/-- `release_verified_email`: no effect on an entry of another user. -/
def releaseVerifiedEmail [Host] (s : UserProfileState) (userId : UserId)
    (rawEmail : String) : UserProfileState :=
  match VerifiedEmailKey.fromLegacyStorageUnchecked rawEmail with
  | none => s
  | some key =>
      if s.verifiedEmailIndex[key]? = some userId then
        { s with verifiedEmailIndex := s.verifiedEmailIndex.erase key }
      else
        s

/-- Release the entry of a profile's own address, if it has one. -/
def releaseOwnEmail [Host] (s : UserProfileState) (userId : UserId)
    (profile : UserProfile) : UserProfileState :=
  match profile.email with
  | some old => s.releaseVerifiedEmail userId old
  | none => s

def updateUserProfile [Host] (s : UserProfileState) (userId : UserId)
    (userProfile : UserProfile) : ApiResult UserProfileState :=
  if s.profiles.contains userId then
    .ok { s with profiles := s.profiles.insert userId userProfile }
  else
    .error (.clientError s!"User profile with ID {userId.text} does not exist.")

/-- `increment_user_count`, with the counters' wrapping arithmetic. -/
def incrementUserCount (s : UserProfileState) (isActive : Bool) : UserProfileState :=
  { s with
    stats :=
      { total := s.stats.total + 1
        active := if isActive then s.stats.active + 1 else s.stats.active
        inactive := if isActive then s.stats.inactive else s.stats.inactive + 1 } }

def updateUserStatusCount (s : UserProfileState) (wasActive isActive : Bool) :
    UserProfileState :=
  if wasActive = isActive then
    s
  else
    { s with
      stats :=
        { s.stats with
          active := if isActive then s.stats.active + 1 else s.stats.active - 1
          inactive := if isActive then s.stats.inactive - 1 else s.stats.inactive + 1 } }

end UserProfileState

/-- State of `service_principal_repository`. -/
structure ServicePrincipalState where
  servicePrincipalPermissions : ExtTreeMap Principal StaffPermissions

namespace ServicePrincipalState

def empty : ServicePrincipalState :=
  ⟨∅⟩

def getServicePrincipalPermissions (s : ServicePrincipalState) (principal : Principal) :
    Option StaffPermissions :=
  s.servicePrincipalPermissions[principal]?

def setServicePrincipalPermissions (s : ServicePrincipalState) (principal : Principal)
    (permissions : StaffPermissions) : ServicePrincipalState :=
  ⟨s.servicePrincipalPermissions.insert principal permissions⟩

def removeServicePrincipal (s : ServicePrincipalState) (principal : Principal) :
    ServicePrincipalState :=
  ⟨s.servicePrincipalPermissions.erase principal⟩

end ServicePrincipalState

/-- Key of `organization_invite_index`. -/
abbrev OrgInviteKey := OrgId × (Nat × Nat) × InviteId

/-- Key of `invite_status_index`. -/
abbrev InviteStatusKey := (Nat × Nat) × InviteId

instance : TransOrd InviteStatusKey :=
  Std.instTransOrdProd

instance : TransOrd OrgInviteKey :=
  Std.instTransOrdProd

/-- State of `invite_repository`. -/
structure InviteState where
  invites : ExtTreeMap InviteId OrgInvite
  organizationInviteIndex : ExtTreeSet OrgInviteKey
  inviteStatusIndex : ExtTreeSet InviteStatusKey

namespace InviteState

def empty : InviteState :=
  ⟨∅, ∅, ∅⟩

/-- `org_index_key`. -/
def orgIndexKey (invite : OrgInvite) (inviteId : InviteId) : OrgInviteKey :=
  (invite.orgId, (invite.status.asU8, invite.expiresAtNs), inviteId)

/-- `status_index_key`. -/
def statusIndexKey (invite : OrgInvite) (inviteId : InviteId) : InviteStatusKey :=
  ((invite.status.asU8, invite.expiresAtNs), inviteId)

/-- `create_invite` with its drawn identifier. -/
def createInvite (s : InviteState) (inviteId : InviteId) (invite : OrgInvite) :
    InviteState where
  organizationInviteIndex := s.organizationInviteIndex.insert (orgIndexKey invite inviteId)
  inviteStatusIndex := s.inviteStatusIndex.insert (statusIndexKey invite inviteId)
  invites := s.invites.insert inviteId invite

def getInvite (s : InviteState) (inviteId : InviteId) : Option OrgInvite :=
  s.invites[inviteId]?

def updateInvite [Host] (s : InviteState) (inviteId : InviteId) (invite : OrgInvite) :
    ApiResult InviteState :=
  match s.invites[inviteId]? with
  | none => .error (.clientError s!"Invite with id {inviteId.text} does not exist.")
  | some old =>
      .ok
        { organizationInviteIndex :=
            (s.organizationInviteIndex.erase (orgIndexKey old inviteId)).insert
              (orgIndexKey invite inviteId)
          inviteStatusIndex :=
            (s.inviteStatusIndex.erase (statusIndexKey old inviteId)).insert
              (statusIndexKey invite inviteId)
          invites := s.invites.insert inviteId invite }

/-- The organization's index keys of pending invites expiring in a window. -/
def pendingKeys (s : InviteState) (orgId : OrgId) (first last : Option Nat) :
    List OrgInviteKey :=
  s.organizationInviteIndex.toList.filter fun (keyOrg, (status, expiresAt), _) =>
    decide (keyOrg = orgId) && decide (status = InviteStatus.pending.asU8) &&
      first.all (fun bound => decide (bound ≤ expiresAt)) &&
      last.all (fun bound => decide (expiresAt ≤ bound))

def countPendingInvitesForOrg (s : InviteState) (orgId : OrgId) (nowNs : Nat) : Nat :=
  (s.pendingKeys orgId (some nowNs) none).length

/-- `sweep_expired_org_invites`: pending invites that expired by `now_ns`. -/
def sweepExpiredOrgInvites (s : InviteState) (orgId : OrgId) (nowNs : Nat) : InviteState :=
  let expired := s.pendingKeys orgId none (some nowNs)
  { invites := eraseKeys s.invites (expired.map fun key => key.2.2)
    organizationInviteIndex := eraseRows s.organizationInviteIndex expired
    inviteStatusIndex := eraseRows s.inviteStatusIndex (expired.map fun key => key.2) }

end InviteState

/-- State of `terms_and_conditions_repository`. -/
structure TermsAndConditionsState where
  termsAndConditions : ExtTreeMap TermsAndConditionsId TermsAndConditions
  createdAtIndex : ExtTreeSet (Nat × TermsAndConditionsId)
  decisions : ExtTreeMap TermsAndConditionsDecisionId TermsAndConditionsDecision
  decisionsUserIndex : ExtTreeMap (UserId × TermsAndConditionsId) TermsAndConditionsDecisionId

namespace TermsAndConditionsState

def empty : TermsAndConditionsState :=
  ⟨∅, ∅, ∅, ∅⟩

/-- `get_latest_terms_and_condition_id`: the last row of the creation index. -/
def getLatestTermsAndConditionId (s : TermsAndConditionsState) :
    Option TermsAndConditionsId :=
  s.createdAtIndex.max?.map Prod.snd

def hasAcceptedTermsAndConditions (s : TermsAndConditionsState) (userId : UserId)
    (termsAndConditionsId : TermsAndConditionsId) : Bool :=
  ((s.decisionsUserIndex[(userId, termsAndConditionsId)]?.bind fun decisionId =>
    s.decisions[decisionId]?).map fun decision =>
      decide (decision.decisionType = .accept)).getD false

def hasAcceptedLatestTermsAndConditions (s : TermsAndConditionsState) (userId : UserId) :
    Bool :=
  match s.getLatestTermsAndConditionId with
  | none => true
  | some latestId => s.hasAcceptedTermsAndConditions userId latestId

/-- `upsert_terms_and_conditions_decision` with the identifier it settles on. -/
def upsertDecision (s : TermsAndConditionsState) (id : TermsAndConditionsDecisionId)
    (decision : TermsAndConditionsDecision) : TermsAndConditionsState :=
  { s with
    decisions := s.decisions.insert id decision
    decisionsUserIndex :=
      s.decisionsUserIndex.insert (decision.userId, decision.termsAndConditionsId) id }

/-- `create_terms_and_conditions` with its drawn identifier. -/
def createTermsAndConditions (s : TermsAndConditionsState) (id : TermsAndConditionsId)
    (termsAndConditions : TermsAndConditions) : TermsAndConditionsState :=
  { s with
    termsAndConditions := s.termsAndConditions.insert id termsAndConditions
    createdAtIndex := s.createdAtIndex.insert (termsAndConditions.createdAt, id) }

end TermsAndConditionsState

end SsnConsole.Backend
