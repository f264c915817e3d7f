import SsnConsole.InverseIndex
import SsnConsole.StaffCeiling

/-!
# Identities

Accounts, their principals, the principals' names and the service principals are
kept in separate maps by operations of three services.  They agree with each
other in every world that the endpoints lead to.
-/

namespace SsnConsole.Backend

open Std (ExtTreeMap)
open SsnConsole.InverseIndex
open SsnConsole.MessageRun
open SsnConsole.StableIndex

section Accounts

/-- The indexes of a user-profile store agree with its profiles. -/
structure UserProfileState.PrincipalsAgree (state : UserProfileState) : Prop where
  /-- The two indexes are inverses of each other. -/
  mirrors :
    Mirrors state.getUserIdByPrincipal
      fun userId principal => (userId, principal) ∈ state.idPrincipalIndex
  /-- No account is left without a principal. -/
  inhabited :
    ∀ userId, userId ∈ state.profiles →
      ∃ principal, (userId, principal) ∈ state.idPrincipalIndex
  /-- Only linked principals have names. -/
  named : ∀ link, link ∈ state.principalNames → link ∈ state.idPrincipalIndex

namespace UserProfileState.PrincipalsAgree

variable {state after : UserProfileState} {userId : UserId} {principal : Principal}

/-- Stores with the same accounts, links and names agree as before. -/
theorem of_same
    (agree : state.PrincipalsAgree)
    (sameLinks : after.principalIndex = state.principalIndex)
    (sameRows : after.idPrincipalIndex = state.idPrincipalIndex)
    (sameNames : after.principalNames = state.principalNames)
    (sameUsers : ∀ userId, userId ∈ after.profiles ↔ userId ∈ state.profiles) :
    after.PrincipalsAgree where
  mirrors := by
    have same : after.getUserIdByPrincipal = state.getUserIdByPrincipal := by
      funext principal
      exact congrArg (fun index => index[principal]?) sameLinks
    rw [same, sameRows]
    exact agree.mirrors
  inhabited := by
    intro userId stored
    rw [sameRows]
    exact agree.inhabited userId ((sameUsers userId).mp stored)
  named := by
    rw [sameRows, sameNames]
    exact agree.named

/-- Linking a principal without an account keeps the indexes in step. -/
theorem linking
    (agree : state.PrincipalsAgree)
    (unlinked : state.getUserIdByPrincipal principal = none)
    (sameNames : after.principalNames = state.principalNames)
    (links : after.principalIndex = state.principalIndex.insert principal userId)
    (rows : after.idPrincipalIndex = state.idPrincipalIndex.insert (userId, principal))
    (users : ∀ other, other ∈ after.profiles → other ∈ state.profiles ∨ other = userId) :
    after.PrincipalsAgree where
  mirrors := by
    refine agree.mirrors.link userId unlinked (fun other => ?_) (fun otherId other => ?_)
    · rw [getUserIdByPrincipal, links]
      exact getElem?_insert_entry
    · rw [rows, mem_insert_row, Prod.mk.injEq]
  inhabited := by
    intro other stored
    rcases users other stored with before | new
    · obtain ⟨linked, row⟩ := agree.inhabited other before
      refine ⟨linked, ?_⟩
      rw [rows]
      exact mem_insert_row.mpr (.inl row)
    · refine ⟨principal, ?_⟩
      rw [rows, new]
      exact mem_insert_row.mpr (.inr rfl)
  named := by
    intro link isNamed
    rw [sameNames] at isNamed
    rw [rows]
    exact mem_insert_row.mpr (.inl (agree.named link isNamed))

/-- An account keeps a principal when one of several is unlinked. -/
private theorem exists_other
    (principal : Principal)
    (several : 1 < (state.getPrincipalsByUserId userId).length) :
    ∃ other, (userId, other) ∈ state.idPrincipalIndex ∧ other ≠ principal := by
  by_contra noOther
  have onlyOne : state.getPrincipalsByUserId userId ⊆ [principal] := by
    intro other listed
    rw [List.mem_singleton]
    by_contra different
    exact noOther ⟨other, mem_prefixRows.mp listed, different⟩
  have single : (state.getPrincipalsByUserId userId).length ≤ 1 :=
    (List.subperm_of_subset (nodup_prefixRows _ _) onlyOne).length_le
  exact absurd several (Nat.not_lt.mpr single)

/-- Unlinking takes the link, its row and its name. -/
theorem unlink
    (agree : state.PrincipalsAgree)
    (accepted : state.unlinkPrincipalFromUser userId principal = .ok after) :
    after.PrincipalsAgree := by
  obtain ⟨linked, several⟩ := unlinkPrincipalFromUser_checked accepted
  obtain rfl := unlinkPrincipalFromUser_ok accepted
  constructor
  · refine agree.mirrors.unlink linked (fun other => ?_) (fun otherId other => ?_)
    · exact getElem?_erase_entry
    · rw [mem_erase_row, ne_eq, Prod.mk.injEq]
  · intro other stored
    by_cases same : other = userId
    · subst same
      obtain ⟨kept, row, different⟩ := exists_other principal several
      refine ⟨kept, mem_erase_row.mpr ⟨row, ?_⟩⟩
      simpa using different
    · obtain ⟨kept, row⟩ := agree.inhabited other stored
      refine ⟨kept, mem_erase_row.mpr ⟨row, ?_⟩⟩
      simp [same]
  · intro link isNamed
    obtain ⟨before, different⟩ := mem_erase_entry.mp isNamed
    exact mem_erase_row.mpr ⟨agree.named link before, different⟩

/-- Naming a linked principal keeps names to linked principals. -/
theorem rename
    {name : Option String}
    (agree : state.PrincipalsAgree)
    (accepted : state.setPrincipalName userId principal name = .ok after) :
    after.PrincipalsAgree := by
  obtain ⟨linked, onlyNamed⟩ := setPrincipalName_checked accepted
  obtain ⟨names, rfl⟩ := setPrincipalName_ok accepted
  refine ⟨agree.mirrors, agree.inhabited, ?_⟩
  intro link isNamed
  rcases onlyNamed link isNamed with before | rfl
  · exact agree.named link before
  · exact linked

end UserProfileState.PrincipalsAgree

end Accounts

/-- The identity stores agree: links, names, service registrations and the anonymous
principal. -/
structure Stores.IdentitiesAgree (s : Stores) : Prop where
  principals : s.userProfile.PrincipalsAgree
  /-- No linked principal is registered as a service principal. -/
  disjoint :
    ∀ principal userId,
      s.userProfile.getUserIdByPrincipal principal = some userId →
        s.servicePrincipal.getServicePrincipalPermissions principal = none
  anonymousUnlinked : s.userProfile.getUserIdByPrincipal Principal.anonymous = none
  anonymousUnregistered :
    s.servicePrincipal.getServicePrincipalPermissions Principal.anonymous = none

namespace Stores.IdentitiesAgree

variable {s after : Stores} {principal : Principal}

/-- Operations that leave every link alone keep the identities in step. -/
theorem of_sameLinks
    (agree : s.IdentitiesAgree)
    (sameService : after.servicePrincipal = s.servicePrincipal)
    (sameLinks : after.userProfile.principalIndex = s.userProfile.principalIndex)
    (principals : after.userProfile.PrincipalsAgree) :
    after.IdentitiesAgree := by
  have same :
      after.userProfile.getUserIdByPrincipal = s.userProfile.getUserIdByPrincipal := by
    funext principal
    exact congrArg (fun index => index[principal]?) sameLinks
  refine ⟨principals, ?_, ?_, ?_⟩
  · rw [same, sameService]
    exact agree.disjoint
  · rw [same]
    exact agree.anonymousUnlinked
  · rw [sameService]
    exact agree.anonymousUnregistered

/-- A profile may be replaced by another one of the same account. -/
theorem storeProfile
    {state : UserProfileState}
    {userId : UserId}
    {stored profile : UserProfile}
    (agree : s.IdentitiesAgree)
    (found : s.userProfile.getUserProfileByUserId userId = some stored)
    (sameService : after.servicePrincipal = s.servicePrincipal)
    (written : after.userProfile = state.storeProfile userId profile)
    (sameLinks : state.principalIndex = s.userProfile.principalIndex)
    (sameRows : state.idPrincipalIndex = s.userProfile.idPrincipalIndex)
    (sameNames : state.principalNames = s.userProfile.principalNames)
    (sameProfiles : state.profiles = s.userProfile.profiles) :
    after.IdentitiesAgree := by
  have known : userId ∈ s.userProfile.profiles :=
    ExtTreeMap.mem_iff_isSome_getElem?.mpr (Option.isSome_of_eq_some found)
  refine agree.of_sameLinks sameService (by rw [written]; exact sameLinks) ?_
  rw [written]
  refine agree.principals.of_same sameLinks sameRows sameNames fun other => ?_
  rw [UserProfileState.storeProfile, sameProfiles, mem_insert_entry]
  constructor
  · rintro (before | rfl)
    · exact before
    · exact known
  · exact .inl

/-- A named principal that nobody claims may be linked. -/
theorem linking
    (userId : UserId)
    (agree : s.IdentitiesAgree)
    (named : principal ≠ Principal.anonymous)
    (unlinked : s.userProfile.getUserIdByPrincipal principal = none)
    (unregistered : s.servicePrincipal.getServicePrincipalPermissions principal = none)
    (sameService : after.servicePrincipal = s.servicePrincipal)
    (sameNames : after.userProfile.principalNames = s.userProfile.principalNames)
    (links :
      after.userProfile.principalIndex = s.userProfile.principalIndex.insert principal userId)
    (rows :
      after.userProfile.idPrincipalIndex =
        s.userProfile.idPrincipalIndex.insert (userId, principal))
    (users :
      ∀ other, other ∈ after.userProfile.profiles →
        other ∈ s.userProfile.profiles ∨ other = userId) :
    after.IdentitiesAgree := by
  have lookup :
      ∀ other,
        after.userProfile.getUserIdByPrincipal other =
          if other = principal then some userId
          else s.userProfile.getUserIdByPrincipal other := by
    intro other
    rw [UserProfileState.getUserIdByPrincipal, links]
    exact getElem?_insert_entry
  refine
    ⟨agree.principals.linking unlinked sameNames links rows users, ?_, ?_, ?_⟩
  · intro other otherId linked
    rw [sameService]
    rw [lookup] at linked
    split at linked
    · rename_i same
      rw [same]
      exact unregistered
    · exact agree.disjoint other otherId linked
  · rw [lookup, if_neg (Ne.symm named)]
    exact agree.anonymousUnlinked
  · rw [sameService]
    exact agree.anonymousUnregistered

/-- Linking through the repository links a principal that nobody claims. -/
theorem linkPrincipalToUser
    [Host]
    {linked : UserProfileState}
    {userId : UserId}
    (agree : s.IdentitiesAgree)
    (named : principal ≠ Principal.anonymous)
    (unclaimed : assertPrincipalIsUnclaimed principal s = .ok ())
    (link : s.userProfile.linkPrincipalToUser userId principal = .ok linked)
    (sameService : after.servicePrincipal = s.servicePrincipal)
    (written : after.userProfile = linked) :
    after.IdentitiesAgree := by
  obtain ⟨unregistered, unlinked⟩ := assertPrincipalIsUnclaimed_ok unclaimed
  obtain ⟨-, -, rfl⟩ := UserProfileState.linkPrincipalToUser_ok link
  refine agree.linking userId named unlinked unregistered sameService ?_ ?_ ?_ ?_ <;> rw [written]
  exact fun other stored => .inl stored

/-- Unlinking through the repository leaves no name and frees the principal. -/
theorem unlinkPrincipalFromUser
    {unlinked : UserProfileState}
    {userId : UserId}
    (agree : s.IdentitiesAgree)
    (unlink : s.userProfile.unlinkPrincipalFromUser userId principal = .ok unlinked)
    (sameService : after.servicePrincipal = s.servicePrincipal)
    (written : after.userProfile = unlinked) :
    after.IdentitiesAgree := by
  have principals := agree.principals.unlink unlink
  obtain rfl := UserProfileState.unlinkPrincipalFromUser_ok unlink
  have lookup :
      ∀ other,
        after.userProfile.getUserIdByPrincipal other =
          if other = principal then none
          else s.userProfile.getUserIdByPrincipal other := by
    intro other
    rw [written, UserProfileState.getUserIdByPrincipal]
    exact getElem?_erase_entry
  refine ⟨by rw [written]; exact principals, ?_, ?_, ?_⟩
  · intro other otherId linked
    rw [sameService]
    rw [lookup] at linked
    split at linked
    · cases linked
    · exact agree.disjoint other otherId linked
  · rw [lookup, agree.anonymousUnlinked]
    exact ite_self none
  · rw [sameService]
    exact agree.anonymousUnregistered

/-- A named principal without an account may be registered as a service principal. -/
theorem register
    {permissions : StaffPermissions}
    (agree : s.IdentitiesAgree)
    (named : principal ≠ Principal.anonymous)
    (unlinked : s.userProfile.getUserIdByPrincipal principal = none)
    (sameAccounts : after.userProfile = s.userProfile)
    (written :
      after.servicePrincipal =
        s.servicePrincipal.setServicePrincipalPermissions principal permissions) :
    after.IdentitiesAgree := by
  have lookup :
      ∀ other,
        after.servicePrincipal.getServicePrincipalPermissions other =
          if other = principal then some permissions
          else s.servicePrincipal.getServicePrincipalPermissions other := by
    intro other
    rw [written]
    exact getElem?_insert_entry
  refine ⟨by rw [sameAccounts]; exact agree.principals, ?_, ?_, ?_⟩
  · intro other userId linked
    rw [sameAccounts] at linked
    have different : other ≠ principal := by
      rintro rfl
      rw [unlinked] at linked
      cases linked
    rw [lookup, if_neg different]
    exact agree.disjoint other userId linked
  · rw [sameAccounts]
    exact agree.anonymousUnlinked
  · rw [lookup, if_neg (Ne.symm named)]
    exact agree.anonymousUnregistered

/-- A service principal may be removed. -/
theorem deregister
    (agree : s.IdentitiesAgree)
    (sameAccounts : after.userProfile = s.userProfile)
    (written :
      after.servicePrincipal = s.servicePrincipal.removeServicePrincipal principal) :
    after.IdentitiesAgree := by
  have lookup :
      ∀ other,
        s.servicePrincipal.getServicePrincipalPermissions other = none →
          after.servicePrincipal.getServicePrincipalPermissions other = none := by
    intro other unregistered
    have erased :
        after.servicePrincipal.getServicePrincipalPermissions other =
          if other = principal then none
          else s.servicePrincipal.getServicePrincipalPermissions other := by
      rw [written]
      exact getElem?_erase_entry
    rw [erased, unregistered]
    exact ite_self none
  refine ⟨by rw [sameAccounts]; exact agree.principals, ?_, ?_, ?_⟩
  · intro other userId linked
    rw [sameAccounts] at linked
    exact lookup other (agree.disjoint other userId linked)
  · rw [sameAccounts]
    exact agree.anonymousUnlinked
  · exact lookup _ agree.anonymousUnregistered

/-- A store without accounts, links and registrations agrees with itself. -/
theorem empty : Stores.empty.IdentitiesAgree := by
  refine ⟨⟨?_, ?_, ?_⟩, ?_, ?_, ?_⟩
  · intro principal userId
    simp [Stores.empty, UserProfileState.empty, UserProfileState.getUserIdByPrincipal]
  · simp [Stores.empty, UserProfileState.empty]
  · simp [Stores.empty, UserProfileState.empty]
  · simp [Stores.empty, UserProfileState.empty, UserProfileState.getUserIdByPrincipal]
  · simp [Stores.empty, UserProfileState.empty, UserProfileState.getUserIdByPrincipal]
  · simp [Stores.empty, ServicePrincipalState.empty,
      ServicePrincipalState.getServicePrincipalPermissions]

end Stores.IdentitiesAgree

section Operations

variable [Host]
variable {call : Call} {request : Request} {s after : Stores}

/-- The account operations of an authenticated caller keep the identities in step. -/
theorem AccountWrite.identitiesAgree
    (write : AccountWrite call s request after)
    (authenticated : call.caller ≠ Principal.anonymous)
    (agree : s.IdentitiesAgree) :
    after.IdentitiesAgree := by
  cases write with
  | @updateStatus _ status userId profile _ stored =>
      obtain ⟨stats, moved⟩ :=
        s.userProfile.updateUserStatusCount_frame (decide (profile.status = .active))
          (decide ((status.map mapUserStatusRequest).getD profile.status = .active))
      refine agree.storeProfile stored rfl rfl ?_ ?_ ?_ ?_ <;> rw [moved]
  | keepEmail _ stored | setEmail _ stored _ _ | grantStaffPermissions _ _ stored
  | revokeStaffPermissions _ stored =>
      exact agree.storeProfile stored rfl rfl rfl rfl rfl rfl
  | @replaceVerifiedEmail _ userId profile _ _ stored _ _ _ =>
      obtain ⟨emails, released⟩ := s.userProfile.releaseOwnEmail_frame userId profile
      refine agree.storeProfile stored rfl rfl ?_ ?_ ?_ ?_ <;> rw [released]
  | verifyEmail _ _ stored _ _ claim =>
      obtain ⟨emails, rfl⟩ := UserProfileState.claimVerifiedEmail_frame claim
      exact agree.storeProfile stored rfl rfl rfl rfl rfl rfl
  | linkMyPrincipal _ _ unclaimed link | recoverAccountByEmail _ _ _ _ unclaimed link =>
      exact agree.linkPrincipalToUser authenticated unclaimed link rfl rfl
  | adminLinkPrincipalToUser _ _ _ named unclaimed link =>
      exact agree.linkPrincipalToUser named unclaimed link rfl rfl
  | unlinkMyPrincipal _ unlink | adminUnlinkPrincipalFromUser _ _ unlink =>
      exact agree.unlinkPrincipalFromUser unlink rfl rfl
  | setMyPrincipalName _ _ rename =>
      have principals := agree.principals.rename rename
      obtain ⟨names, rfl⟩ := UserProfileState.setPrincipalName_ok rename
      exact agree.of_sameLinks rfl rfl principals
  | grantServicePrincipalPermissions named unlinked _ =>
      exact agree.register named unlinked rfl rfl
  | revokeServicePrincipalPermissions named =>
      exact agree.deregister rfl rfl
  | registerLinkCode _ _ | pruneLinkCodes | spendLinkCode | revokeMyLinkCode _
  | changeDecision _ | makeDecision | createTermsAndConditions =>
      exact agree.of_sameLinks rfl rfl agree.principals

/-- Signing up links the caller to a new account. -/
private theorem identitiesAgree_signingUp
    {caller : Principal}
    (authenticated : caller ≠ Principal.anonymous)
    (unclaimed : assertPrincipalIsUnclaimed caller s = .ok ())
    (agree : s.IdentitiesAgree) :
    (s.signingUp caller).IdentitiesAgree := by
  obtain ⟨unregistered, unlinked⟩ := assertPrincipalIsUnclaimed_ok unclaimed
  obtain ⟨policies, drawn, -, founded⟩ :=
    Stores.founding_eq
      { s with
        userProfile :=
          (s.userProfile.createUserProfile s.nextId caller .default).incrementUserCount false
        drawn := s.drawn + 1 }
      s.nextId OrganizationRepository.defaultOrganization
  rw [Stores.signingUp, founded]
  refine agree.linking s.nextId authenticated unlinked unregistered rfl rfl rfl rfl ?_
  intro other stored
  exact mem_insert_entry.mp stored

/-- Every message of an authenticated caller keeps the identities in step. -/
theorem Handled.identitiesAgree
    {result : Except Failure Slot}
    (handled : Handled call s request result after)
    (passed : gate call request s = .ok ())
    (agree : s.IdentitiesAgree) :
    after.IdentitiesAgree := by
  cases handled.reachesAccounts with
  | elsewhere same =>
      refine agree.of_sameLinks same.servicePrincipal (by rw [same.userProfile]) ?_
      rw [same.userProfile]
      exact agree.principals
  | signUp unclaimed =>
      have authenticated := gate_authenticated passed (by simp)
      exact identitiesAgree_signingUp authenticated unclaimed agree
  | account write =>
      have notHistory : ∀ mappings, request ≠ .addChildCanisters mappings := by
        rintro mappings rfl
        cases write
      exact write.identitiesAgree (gate_authenticated passed notHistory) agree

/-- The identity stores of a world agree. -/
def World.IdentitiesAgree (world : World) : Prop :=
  world.stores.IdentitiesAgree

/-- The identities agree in every world that the endpoints lead to. -/
theorem World.identitiesAgree_of_endpoints
    {world : World}
    (reachable : MessageRun.Reachable World.endpointStep (fun _ _ => True) World.empty world) :
    world.IdentitiesAgree := by
  have base : World.empty.IdentitiesAgree := Stores.IdentitiesAgree.empty
  refine reachable.invariant base ?_
  intro before event after _ agree _ stepped
  rcases World.endpointStep_cases stepped with rfl | ⟨served, passed⟩
  · exact agree
  · cases World.serviceStep_cases served with
    | message handled =>
        exact handled.identitiesAgree (passed _ _ rfl) agree
    | reply _ resumed =>
        have same := resumed.sameAccess
        refine
          Stores.IdentitiesAgree.of_sameLinks agree same.servicePrincipal
            (by rw [same.userProfile]) ?_
        rw [same.userProfile]
        exact Stores.IdentitiesAgree.principals agree

/-- What the identity stores guarantee, read on their maps. -/
structure Stores.IdentityIntegrity (s : Stores) : Prop where
  /-- `principal_index` and `id_principal_index` are inverses of each other. -/
  inverse :
    ∀ (principal : Principal) (userId : UserId),
      s.userProfile.principalIndex[principal]? = some userId ↔
        (userId, principal) ∈ s.userProfile.idPrincipalIndex
  /-- Every profile has a linked principal. -/
  linked :
    ∀ userId, userId ∈ s.userProfile.profiles →
      ∃ principal, (userId, principal) ∈ s.userProfile.idPrincipalIndex
  /-- No principal is linked to two users. -/
  oneAccount :
    ∀ principal first second,
      (first, principal) ∈ s.userProfile.idPrincipalIndex →
        (second, principal) ∈ s.userProfile.idPrincipalIndex → first = second
  /-- Every named principal is an existing link of its user. -/
  named :
    ∀ userId principal,
      (userId, principal) ∈ s.userProfile.principalNames →
        (userId, principal) ∈ s.userProfile.idPrincipalIndex
  /-- No principal is linked and registered as a service principal. -/
  disjoint :
    ∀ principal,
      ¬(principal ∈ s.userProfile.principalIndex ∧
        principal ∈ s.servicePrincipal.servicePrincipalPermissions)
  /-- The anonymous principal is neither. -/
  anonymous :
    Principal.anonymous ∉ s.userProfile.principalIndex ∧
      Principal.anonymous ∉ s.servicePrincipal.servicePrincipalPermissions

omit [Host] in
/-- Identities that agree have their integrity. -/
theorem Stores.IdentitiesAgree.integrity
    (agree : s.IdentitiesAgree) :
    s.IdentityIntegrity where
  inverse := agree.principals.mirrors
  linked := agree.principals.inhabited
  oneAccount principal first second firstLinked secondLinked :=
    agree.principals.mirrors.owner_unique firstLinked secondLinked
  named userId principal isNamed := agree.principals.named (userId, principal) isNamed
  disjoint := by
    rintro principal ⟨isLinked, isRegistered⟩
    have found : ∃ userId, s.userProfile.getUserIdByPrincipal principal = some userId :=
      Option.isSome_iff_exists.mp (ExtTreeMap.mem_iff_isSome_getElem?.mp isLinked)
    obtain ⟨userId, linked⟩ := found
    have unregistered : s.servicePrincipal.servicePrincipalPermissions[principal]? = none :=
      agree.disjoint principal userId linked
    rw [ExtTreeMap.mem_iff_isSome_getElem?, unregistered] at isRegistered
    cases isRegistered
  anonymous := by
    have unlinked : s.userProfile.principalIndex[Principal.anonymous]? = none :=
      agree.anonymousUnlinked
    have unregistered :
        s.servicePrincipal.servicePrincipalPermissions[Principal.anonymous]? = none :=
      agree.anonymousUnregistered
    simp only [ExtTreeMap.mem_iff_isSome_getElem?, unlinked, unregistered]
    decide

/-- The identity stores keep their integrity in every world that the endpoints lead to. -/
theorem identityIntegrity_of_endpoints
    {world : World}
    (reachable : MessageRun.Reachable World.endpointStep (fun _ _ => True) World.empty world) :
    world.stores.IdentityIntegrity :=
  Stores.IdentitiesAgree.integrity (World.identitiesAgree_of_endpoints reachable)

end Operations

section Reactivation

open TextualHost

attribute [local instance] host

/-- Two accounts, one of them with two principals, keep the integrity. -/
theorem identityIntegrity_reactivationRun :
    (reactivationRun.state 7).stores.IdentityIntegrity :=
  identityIntegrity_of_endpoints (reactivationRun.reachable (by decide : 7 ≤ 7))

end Reactivation

end SsnConsole.Backend
