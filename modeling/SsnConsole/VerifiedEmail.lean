import SsnConsole.InverseIndex
import SsnConsole.MembershipIntegrity

/-!
# Verified addresses

The index of verified addresses is maintained by hand beside the profiles.  It
inverts them in every reachable state: an address leads to the one account that
holds it verified, so recovery can link a principal to no other account.
-/

namespace SsnConsole.Backend

open Std (ExtTreeMap)
open SsnConsole.InverseIndex
open SsnConsole.MessageRun
open SsnConsole.MessageSlice (require)
open SsnConsole.StableIndex

section Invariant

variable [Host]

/-- The address that a profile holds verified, in its normal form. -/
def UserProfile.verifiedKey (profile : UserProfile) : Option VerifiedEmailKey :=
  if profile.emailVerified then profile.email.map normalizeEmail else none

namespace UserProfileState

/-- The address that an account holds verified. -/
def verifiedKeyOf (state : UserProfileState) (userId : UserId) : Option VerifiedEmailKey :=
  (state.getUserProfileByUserId userId).bind UserProfile.verifiedKey

/-- The index of verified addresses inverts the profiles. -/
structure VerifiedEmailsAgree (state : UserProfileState) : Prop where
  inverts :
    Inverts (fun key : VerifiedEmailKey => state.verifiedEmailIndex[key]?) state.verifiedKeyOf
  nonempty : ∀ key, key ∈ state.verifiedEmailIndex → key ≠ ""

variable {state after : UserProfileState} {userId : UserId} {profile stored : UserProfile}

/-- The verified address of an account after its profile is replaced. -/
theorem verifiedKeyOf_storeProfile
    (state : UserProfileState)
    (userId other : UserId)
    (profile : UserProfile) :
    (state.storeProfile userId profile).verifiedKeyOf other =
      if other = userId then profile.verifiedKey else state.verifiedKeyOf other := by
  simp only [verifiedKeyOf, getUserProfileByUserId, storeProfile, getElem?_insert_entry]
  split <;> rfl

/-- The verified address of a stored account is that of its profile. -/
theorem verifiedKeyOf_of_stored
    (found : state.getUserProfileByUserId userId = some stored) :
    state.verifiedKeyOf userId = stored.verifiedKey := by
  rw [verifiedKeyOf, found]
  rfl

/-- What changes neither the index nor anybody's verified address keeps them agreeing. -/
theorem VerifiedEmailsAgree.of_same
    (agree : state.VerifiedEmailsAgree)
    (sameIndex : after.verifiedEmailIndex = state.verifiedEmailIndex)
    (sameKeys : ∀ userId, after.verifiedKeyOf userId = state.verifiedKeyOf userId) :
    after.VerifiedEmailsAgree where
  inverts := agree.inverts.of_same (fun key => by rw [sameIndex]) sameKeys
  nonempty := by
    rw [sameIndex]
    exact agree.nonempty

/-- A profile may be replaced by one with the same verified address. -/
theorem VerifiedEmailsAgree.storeProfile
    (agree : state.VerifiedEmailsAgree)
    (found : state.getUserProfileByUserId userId = some stored)
    (sameKey : profile.verifiedKey = stored.verifiedKey) :
    (state.storeProfile userId profile).VerifiedEmailsAgree := by
  refine agree.of_same rfl fun other => ?_
  rw [verifiedKeyOf_storeProfile]
  split
  · rename_i same
    rw [same, sameKey, verifiedKeyOf_of_stored found]
  · rfl

/-- An account that replaces its verified address has the old one released. -/
theorem VerifiedEmailsAgree.releaseOwnEmail
    (agree : state.VerifiedEmailsAgree)
    (found : state.getUserProfileByUserId userId = some stored)
    (wasVerified : stored.emailVerified = true)
    (unverified : profile.verifiedKey = none) :
    ((state.releaseOwnEmail userId stored).storeProfile userId profile).VerifiedEmailsAgree := by
  have held := verifiedKeyOf_of_stored found
  cases addressed : stored.email with
  | none =>
      have keyless : stored.verifiedKey = none := by
        simp [UserProfile.verifiedKey, addressed]
      have unchanged : state.releaseOwnEmail userId stored = state := by
        simp [UserProfileState.releaseOwnEmail, addressed]
      rw [unchanged]
      exact agree.storeProfile found (unverified.trans keyless.symm)
  | some address =>
      have holds : state.verifiedKeyOf userId = some (normalizeEmail address) := by
        rw [held, UserProfile.verifiedKey, wasVerified, addressed]
        rfl
      have indexed : state.verifiedEmailIndex[normalizeEmail address]? = some userId :=
        (agree.inverts _ _).mpr holds
      have named : normalizeEmail address ≠ "" := by
        refine agree.nonempty _ (ExtTreeMap.mem_iff_isSome_getElem?.mpr ?_)
        rw [indexed]
        rfl
      have released :
          state.releaseOwnEmail userId stored =
            { state with
              verifiedEmailIndex :=
                state.verifiedEmailIndex.erase (normalizeEmail address) } := by
        simp only [UserProfileState.releaseOwnEmail, addressed,
          UserProfileState.releaseVerifiedEmail,
          VerifiedEmailKey.fromLegacyStorageUnchecked, if_neg named, indexed, if_true]
      rw [released]
      constructor
      · refine agree.inverts.release holds (fun other => getElem?_erase_entry) fun other => ?_
        rw [verifiedKeyOf_storeProfile, unverified]
        rfl
      · intro key member
        exact agree.nonempty key (mem_erase_entry.mp member).1

/-- An account that verifies its address has claimed it. -/
theorem VerifiedEmailsAgree.claimVerifiedEmail
    {email : Email}
    {address : String}
    (agree : state.VerifiedEmailsAgree)
    (found : state.getUserProfileByUserId userId = some stored)
    (addressed : stored.email = some address)
    (accepted : Email.tryFrom address = .ok email)
    (claim : state.claimVerifiedEmail userId email = .ok after) :
    (after.storeProfile userId { stored with emailVerified := true }).VerifiedEmailsAgree := by
  have normal := Email.text_of_tryFrom accepted
  have newKey :
      ({ stored with emailVerified := true } : UserProfile).verifiedKey = some email.text := by
    simp [UserProfile.verifiedKey, addressed, normal]
  have keyless : ∀ other, state.verifiedKeyOf userId = some other → other = email.text := by
    intro other holds
    rw [verifiedKeyOf_of_stored found, UserProfile.verifiedKey, addressed] at holds
    split at holds
    · rw [normal]
      exact (Option.some.inj holds).symm
    · cases holds
  have claimed :
      (∀ other, state.verifiedEmailIndex[email.text]? = some other → other = userId) ∧
        after.profiles = state.profiles ∧
          ∀ other : VerifiedEmailKey,
            after.verifiedEmailIndex[other]? =
              if other = email.text then some userId else state.verifiedEmailIndex[other]? := by
    unfold UserProfileState.claimVerifiedEmail at claim
    split at claim
    · rename_i existing indexed
      split at claim
      · rename_i same
        cases claim
        subst same
        refine ⟨fun other found => ?_, rfl, fun other => ?_⟩
        · exact Option.some.inj (found.symm.trans indexed)
        · split
          · rename_i same
            rw [same, indexed]
          · rfl
      · cases claim
    · rename_i free
      cases claim
      refine ⟨fun other found => ?_, rfl, fun other => getElem?_insert_entry⟩
      rw [free] at found
      cases found
  obtain ⟨free, sameProfiles, owners⟩ := claimed
  constructor
  · refine agree.inverts.claim free keyless owners fun other => ?_
    rw [verifiedKeyOf_storeProfile, newKey]
    simp only [verifiedKeyOf, getUserProfileByUserId, sameProfiles]
  · intro key member
    rw [ExtTreeMap.mem_iff_isSome_getElem?] at member
    have found := owners key
    by_cases same : key = email.text
    · rw [same]
      exact email.text_ne_empty
    · rw [if_neg same] at found
      refine agree.nonempty key (ExtTreeMap.mem_iff_isSome_getElem?.mpr ?_)
      rw [← found]
      exact member

end UserProfileState

variable {call : Call} {request : Request} {s after : Stores}

/-- The account operations keep the index of verified addresses exact. -/
theorem AccountWrite.verifiedEmailsAgree
    (write : AccountWrite call s request after)
    (agree : s.userProfile.VerifiedEmailsAgree) :
    after.userProfile.VerifiedEmailsAgree := by
  cases write with
  | @updateStatus _ status userId profile _ stored =>
      obtain ⟨stats, moved⟩ :=
        s.userProfile.updateUserStatusCount_frame (decide (profile.status = .active))
          (decide ((status.map mapUserStatusRequest).getD profile.status = .active))
      have agreeMoved : { s.userProfile with stats := stats }.VerifiedEmailsAgree :=
        agree.of_same rfl fun _ => rfl
      dsimp only
      rw [moved]
      exact agreeMoved.storeProfile stored rfl
  | keepEmail _ stored =>
      exact agree.storeProfile stored rfl
  | grantStaffPermissions _ _ stored | revokeStaffPermissions _ stored =>
      exact agree.storeProfile stored rfl
  | replaceVerifiedEmail _ stored _ _ verified =>
      exact agree.releaseOwnEmail stored verified rfl
  | setEmail _ stored _ harmless =>
      refine agree.storeProfile stored ?_
      -- Either the address is the stored one, or it is not verified.
      rcases harmless with same | unverified
      · simp only [UserProfile.verifiedKey, same]
      · simp [UserProfile.verifiedKey, unverified]
  | verifyEmail _ _ stored addressed accepted claim =>
      exact agree.claimVerifiedEmail stored addressed accepted claim
  | linkMyPrincipal _ _ _ link | adminLinkPrincipalToUser _ _ _ _ _ link
  | recoverAccountByEmail _ _ _ _ _ link =>
      obtain ⟨-, -, rfl⟩ := UserProfileState.linkPrincipalToUser_ok link
      exact agree.of_same rfl fun _ => rfl
  | unlinkMyPrincipal _ unlink | adminUnlinkPrincipalFromUser _ _ unlink =>
      obtain rfl := UserProfileState.unlinkPrincipalFromUser_ok unlink
      exact agree.of_same rfl fun _ => rfl
  | setMyPrincipalName _ _ rename =>
      obtain ⟨names, rfl⟩ := UserProfileState.setPrincipalName_ok rename
      exact agree.of_same rfl fun _ => rfl
  | registerLinkCode _ _ | pruneLinkCodes | spendLinkCode | revokeMyLinkCode _
  | grantServicePrincipalPermissions _ _ _ | revokeServicePrincipalPermissions _
  | changeDecision _ | makeDecision | createTermsAndConditions =>
      exact agree

/-- A new account has no verified address. -/
private theorem verifiedEmailsAgree_signingUp
    {principal : Principal}
    (sound : s.Sound)
    (agree : s.userProfile.VerifiedEmailsAgree) :
    (s.signingUp principal).userProfile.VerifiedEmailsAgree := by
  obtain ⟨policies, drawn, -, founded⟩ :=
    Stores.founding_eq
      { s with
        userProfile :=
          (s.userProfile.createUserProfile s.nextId principal .default).incrementUserCount false
        drawn := s.drawn + 1 }
      s.nextId OrganizationRepository.defaultOrganization
  rw [Stores.signingUp, founded]
  refine agree.of_same rfl fun userId => ?_
  have fresh : s.userProfile.getUserProfileByUserId s.nextId = none :=
    ExtTreeMap.getElem?_eq_none (sound.freshUser (le_refl _))
  simp only [UserProfileState.verifiedKeyOf, UserProfileState.getUserProfileByUserId,
    UserProfileState.incrementUserCount, UserProfileState.createUserProfile,
    getElem?_insert_entry]
  split
  · rename_i new
    subst new
    exact (congrArg (Option.bind · UserProfile.verifiedKey) fresh).symm
  · rfl

/-- Every message keeps the index of verified addresses exact. -/
theorem Handled.verifiedEmailsAgree
    {result : Except Failure Slot}
    (handled : Handled call s request result after)
    (sound : s.Sound)
    (agree : s.userProfile.VerifiedEmailsAgree) :
    after.userProfile.VerifiedEmailsAgree := by
  cases handled.reachesAccounts with
  | elsewhere same =>
      rwa [same.userProfile]
  | signUp _ =>
      exact verifiedEmailsAgree_signingUp sound agree
  | account write =>
      exact write.verifiedEmailsAgree agree

/-- The index of verified addresses of the world is exact. -/
def World.VerifiedEmailsAgree (world : World) : Prop :=
  world.stores.userProfile.VerifiedEmailsAgree

/-- An empty index is exact. -/
private theorem World.VerifiedEmailsAgree.empty : World.empty.VerifiedEmailsAgree := by
  constructor
  · intro key userId
    simp [World.empty, Stores.empty, UserProfileState.empty, UserProfileState.verifiedKeyOf,
      UserProfileState.getUserProfileByUserId]
  · simp [World.empty, Stores.empty, UserProfileState.empty]

/-- The index of verified addresses is exact in every reachable world. -/
theorem World.Reachable.verifiedEmailsAgree
    {world : World}
    (reachable : world.Reachable) :
    world.VerifiedEmailsAgree := by
  refine reachable.invariant World.VerifiedEmailsAgree.empty ?_
  intro before event after earlier agree _ stepped
  have sound := World.Reachable.sound earlier
  cases World.serviceStep_cases stepped with
  | message handled =>
      exact handled.verifiedEmailsAgree sound agree
  | reply _ resumed =>
      have same := resumed.sameAccess.userProfile
      unfold World.VerifiedEmailsAgree at agree ⊢
      rwa [same]

/-- The account holds an address verified whose normal form is `key`. -/
def HoldsVerified (s : Stores) (userId : UserId) (key : VerifiedEmailKey) : Prop :=
  ∃ profile address,
    s.userProfile.profiles[userId]? = some profile ∧ profile.emailVerified = true ∧
      profile.email = some address ∧ normalizeEmail address = key

/-- The verified address of an account, read on its profile. -/
theorem verifiedKeyOf_eq_some
    {userId : UserId}
    {key : VerifiedEmailKey} :
    s.userProfile.verifiedKeyOf userId = some key ↔ HoldsVerified s userId key := by
  constructor
  · intro holds
    obtain ⟨profile, stored, keyed⟩ := Option.bind_eq_some_iff.mp holds
    unfold UserProfile.verifiedKey at keyed
    split at keyed
    · rename_i verified
      obtain ⟨address, addressed, normal⟩ := Option.map_eq_some_iff.mp keyed
      exact ⟨profile, address, stored, verified, addressed, normal⟩
    · cases keyed
  · rintro ⟨profile, address, stored, verified, addressed, normal⟩
    rw [UserProfileState.verifiedKeyOf_of_stored stored, UserProfile.verifiedKey, verified,
      addressed, ← normal]
    rfl

/-- Recovery links a principal to the holder of the token's address only. -/
private theorem Handled.recovery
    {token : String}
    {result : Except Failure Slot}
    {principal : Principal}
    {userId : UserId}
    (handled : Handled call s request result after)
    (asked : request = .recoverAccountByEmail token)
    (agree : s.userProfile.VerifiedEmailsAgree)
    (linked : after.userProfile.getUserIdByPrincipal principal = some userId)
    (new : s.userProfile.getUserIdByPrincipal principal ≠ some userId) :
    ∃ claims,
      Jwt.tokenClaims token call.now = .ok claims ∧
        HoldsVerified s userId (normalizeEmail claims.email) := by
  subst asked
  cases handled.reachesAccounts with
  | elsewhere same =>
      rw [same.userProfile] at linked
      exact (new linked).elim
  | account write =>
      cases write with
      | @recoverAccountByEmail _ claims email holder _ signed _ accepted found _ link =>
          obtain ⟨-, -, rfl⟩ := UserProfileState.linkPrincipalToUser_ok link
          simp only [UserProfileState.getUserIdByPrincipal, getElem?_insert_entry] at linked
          split at linked
          · obtain rfl := Option.some.inj linked
            refine ⟨claims, signed, verifiedKeyOf_eq_some.mp ?_⟩
            rw [← Email.text_of_tryFrom accepted]
            exact (agree.inverts _ _).mp found
          · exact (new linked).elim

/-- In every reachable world the index of verified addresses inverts the profiles, no two
accounts hold one address verified, and recovery links to the holder of the address only. -/
theorem verifiedEmails_of_reachable
    {world : World}
    (reachable : world.Reachable) :
    (∀ (key : VerifiedEmailKey) (userId : UserId),
        world.stores.userProfile.verifiedEmailIndex[key]? = some userId ↔
          HoldsVerified world.stores userId key) ∧
      (∀ key first second,
        HoldsVerified world.stores first key → HoldsVerified world.stores second key →
          first = second) ∧
      ∀ call token after principal userId,
        World.serviceStep world (.message call (.recoverAccountByEmail token)) = some after →
          after.stores.userProfile.getUserIdByPrincipal principal = some userId →
            world.stores.userProfile.getUserIdByPrincipal principal ≠ some userId →
              ∃ claims,
                Jwt.tokenClaims token call.now = .ok claims ∧
                  HoldsVerified world.stores userId (normalizeEmail claims.email) := by
  have agree := reachable.verifiedEmailsAgree
  refine ⟨fun key userId => ?_, fun key first second holds otherHolds => ?_, ?_⟩
  · exact (agree.inverts key userId).trans verifiedKeyOf_eq_some
  · exact
      agree.inverts.owner_unique (verifiedKeyOf_eq_some.mpr holds)
        (verifiedKeyOf_eq_some.mpr otherHolds)
  · intro call token after principal userId stepped linked new
    cases World.serviceStep_cases stepped with
    | message handled =>
        exact handled.recovery rfl agree linked new

end Invariant

section Tokens

/-- The three parts of a token. -/
theorem Jwt.splitOn_parts
    {header payload signature : String}
    (headerPlain : '.' ∉ header.toList)
    (payloadPlain : '.' ∉ payload.toList)
    (signaturePlain : '.' ∉ signature.toList) :
    ((header ++ "." ++ payload ++ "." ++ signature).toList.splitOn '.').map String.ofList =
      [header, payload, signature] := by
  have joined :
      (header ++ "." ++ payload ++ "." ++ signature).toList =
        ['.'].intercalate [header.toList, payload.toList, signature.toList] := by
    simp [String.toList_append]
  have parts :
      (['.'].intercalate [header.toList, payload.toList, signature.toList]).splitOn '.' =
        [header.toList, payload.toList, signature.toList] := by
    apply List.splitOn_intercalate
    · simp [headerPlain, payloadPlain, signaturePlain]
    · simp
  rw [joined, parts]
  simp

end Tokens

namespace SignedTokens

/-- A token that was signed with the service's key; its content is a JSON object with its claims
and its expiry. -/
structure SignedToken where
  payload : String
  signature : String
  content : List UInt8
  signatureBytes : List UInt8
  claims : Claims

/-- The header of the tokens. -/
def header : String :=
  "eyJhbGciOiJFZERTQSIsInR5cCI6IkpXVCJ9"

/-- The text of a token. -/
def SignedToken.text (token : SignedToken) : String :=
  header ++ "." ++ token.payload ++ "." ++ token.signature

/-- The token that verifies the address. -/
def verification : SignedToken where
  payload :=
    "eyJlbWFpbCI6ImFkYUBleGFtcGxlLm9yZyIsImV4cCI6MTcwMDAwMDkwMCwiaWF0IjoxNzAwMDAwMDAwLCJwdXJwb3" ++
      "NlIjoiZW1haWxfdmVyaWZpY2F0aW9uIn0"
  signature :=
    "4jadUKUm8uUdtqRsjabktsZvo4ZrWLeQFXxGkJSsys03OgjnYmq1YnLg__qaINYSxTvAQWJLqcrCX44c5yIJCQ"
  content :=
    [123, 34, 101, 109, 97, 105, 108, 34, 58, 34, 97, 100, 97, 64, 101, 120, 97, 109, 112, 108,
     101, 46, 111, 114, 103, 34, 44, 34, 101, 120, 112, 34, 58, 49, 55, 48, 48, 48, 48, 48, 57,
     48, 48, 44, 34, 105, 97, 116, 34, 58, 49, 55, 48, 48, 48, 48, 48, 48, 48, 48, 44, 34, 112,
     117, 114, 112, 111, 115, 101, 34, 58, 34, 101, 109, 97, 105, 108, 95, 118, 101, 114, 105,
     102, 105, 99, 97, 116, 105, 111, 110, 34, 125]
  signatureBytes :=
    [226, 54, 157, 80, 165, 38, 242, 229, 29, 182, 164, 108, 141, 166, 228, 182, 198, 111, 163,
     134, 107, 88, 183, 144, 21, 124, 70, 144, 148, 172, 202, 205, 55, 58, 8, 231, 98, 106, 181,
     98, 114, 224, 255, 250, 154, 32, 214, 18, 197, 59, 192, 65, 98, 75, 169, 202, 194, 95, 142,
     28, 231, 34, 9, 9]
  claims := ⟨"ada@example.org", some "email_verification"⟩

/-- The token that recovers the account of the address. -/
def recovery : SignedToken where
  payload :=
    "eyJlbWFpbCI6ImFkYUBleGFtcGxlLm9yZyIsImV4cCI6MTcwMDAwMDkwMCwiaWF0IjoxNzAwMDAwMDAwLCJwdXJwb3" ++
      "NlIjoiYWNjb3VudF9yZWNvdmVyeSJ9"
  signature :=
    "W61zTyYYXtaYyGGCwOjitjSL8pOZao5HXkT-aRLIfadySU5IezrncRSkdyJRqHxirK7uTM8xoUcdP4ReG5GhAg"
  content :=
    [123, 34, 101, 109, 97, 105, 108, 34, 58, 34, 97, 100, 97, 64, 101, 120, 97, 109, 112, 108,
     101, 46, 111, 114, 103, 34, 44, 34, 101, 120, 112, 34, 58, 49, 55, 48, 48, 48, 48, 48, 57,
     48, 48, 44, 34, 105, 97, 116, 34, 58, 49, 55, 48, 48, 48, 48, 48, 48, 48, 48, 44, 34, 112,
     117, 114, 112, 111, 115, 101, 34, 58, 34, 97, 99, 99, 111, 117, 110, 116, 95, 114, 101, 99,
     111, 118, 101, 114, 121, 34, 125]
  signatureBytes :=
    [91, 173, 115, 79, 38, 24, 94, 214, 152, 200, 97, 130, 192, 232, 226, 182, 52, 139, 242, 147,
     153, 106, 142, 71, 94, 68, 254, 105, 18, 200, 125, 167, 114, 73, 78, 72, 123, 58, 231, 113,
     20, 164, 119, 34, 81, 168, 124, 98, 172, 174, 238, 76, 207, 49, 161, 71, 29, 63, 132, 94, 27,
     145, 161, 2]
  claims := ⟨"ada@example.org", some "account_recovery"⟩

/-- The tokens that were signed; both expire at the same time. -/
def signed : List SignedToken :=
  [verification, recovery]

theorem verification_mem_signed : verification ∈ signed :=
  List.mem_cons_self

theorem recovery_mem_signed : recovery ∈ signed :=
  List.mem_cons_of_mem verification List.mem_cons_self

/-- The key that signed the tokens. -/
def publicKey : List UInt8 :=
  [148, 192, 136, 138, 151, 72, 233, 221, 87, 7, 128, 204, 118, 25, 12, 86, 202, 131, 208, 53,
   110, 210, 136, 151, 113, 70, 219, 88, 98, 244, 221, 161]

/-- The host that holds the key and reads the tokens. -/
@[reducible]
def host : Host :=
  { TextualHost.host with
    publicKeyPem :=
      "-----BEGIN PUBLIC KEY-----\nMCowBQYDK2VwAyEAlMCIipdI6d1XB4DMdhkMVsqD0DVu0oiXcUbbWGL03aE=\n" ++
        "-----END PUBLIC KEY-----\n"
    base64Decode := fun _ => .ok ([48, 42, 48, 5, 6, 3, 43, 101, 112, 3, 33, 0] ++ publicKey)
    base64UrlDecode := fun text =>
      signed.findSome? fun token =>
        if text = token.payload then some token.content
        else if text = token.signature then some token.signatureBytes
        else none
    verifySignature := fun key message bytes =>
      key == publicKey &&
        signed.any fun token =>
          bytes == token.signatureBytes && message == header ++ "." ++ token.payload
    parseBaseClaims := fun bytes =>
      (signed.find? fun token => bytes == token.content).map fun _ => 1700000900
    parseClaims := fun bytes =>
      (signed.find? fun token => bytes == token.content).map SignedToken.claims }

attribute [local instance] SignedTokens.host

/-- What the host reads of a token. -/
theorem reads_of_signed
    {token : SignedToken}
    (member : token ∈ signed) :
    ('.' ∉ header.toList ∧ '.' ∉ token.payload.toList ∧ '.' ∉ token.signature.toList) ∧
      (Host.base64UrlDecode token.signature = some token.signatureBytes ∧
        Host.base64UrlDecode token.payload = some token.content) ∧
        Host.isSignature token.signatureBytes = true ∧
          Host.verifySignature publicKey (header ++ "." ++ token.payload)
              token.signatureBytes = true ∧
            Host.parseBaseClaims token.content = some 1700000900 ∧
              Host.parseClaims token.content = some token.claims := by
  revert token
  decide +kernel

/-- The host reads the claims of the tokens until they expire. -/
theorem tokenClaims_of_signed
    {token : SignedToken}
    {now : Nat}
    (member : token ∈ signed)
    (current : now / 1000000000 ≤ 1700000900) :
    Jwt.tokenClaims token.text now = .ok token.claims := by
  obtain ⟨⟨headerPlain, payloadPlain, signaturePlain⟩, ⟨signature, payload⟩, isSignature,
    verified, expiry, claims⟩ := reads_of_signed member
  have key : Jwt.extractEd25519PublicKeyFromPem Host.publicKeyPem = .ok publicKey := rfl
  have isKey : Host.isVerifyingKey publicKey = true := rfl
  have parts := Jwt.splitOn_parts headerPlain payloadPlain signaturePlain
  unfold Jwt.tokenClaims Jwt.verifyJwt
  rw [key]
  simp only [SignedToken.text, parts]
  simp [bind, Except.bind, Jwt.present, Jwt.ensure, signature, payload, isSignature, isKey,
    verified, expiry, claims, Nat.not_lt.mpr current]

/-- The verification's token is accepted until it expires. -/
theorem verifyEmail_verification
    {call : Call}
    (current : call.now / 1000000000 ≤ 1700000900) :
    UserProfileService.verifyEmail call verification.text =
      UserProfileService.verifyEmailWithClaims call verification.claims := by
  have accepted : Jwt.tokenClaims verification.text call.now = .ok verification.claims :=
    tokenClaims_of_signed verification_mem_signed current
  have passed :
      (require (.ok verification.claims) : TokenService Claims) = pure verification.claims := rfl
  rw [UserProfileService.verifyEmail, accepted, passed, pure_bind]

/-- The recovery's token is accepted until it expires. -/
theorem recoverAccountByEmail_recovery
    {call : Call}
    (current : call.now / 1000000000 ≤ 1700000900) :
    PrincipalLinkService.recoverAccountByEmail call recovery.text =
      PrincipalLinkService.recoverWithClaims call recovery.claims := by
  have accepted : Jwt.tokenClaims recovery.text call.now = .ok recovery.claims :=
    tokenClaims_of_signed recovery_mem_signed current
  have passed :
      (require (.ok recovery.claims) : TokenService Claims) = pure recovery.claims := rfl
  rw [PrincipalLinkService.recoverAccountByEmail, accepted, passed, pure_bind]

end SignedTokens

section Addresses

open TextualHost (callBy founder colleague principal)
open SignedTokens

attribute [local instance] SignedTokens.host

/-- The founder verifies an address and moves to another one, and a colleague verifies the first
one then. -/
def movedAddress : List Event :=
  [.message (callBy founder) .createMyUserProfile,
    .message (callBy founder) (.updateMyUserProfile (some "Ada@Example.org")),
    .message (callBy founder) (.verifyEmail verification.text),
    .message (callBy colleague) .createMyUserProfile,
    .message (callBy founder) (.updateMyUserProfile (some "ada@example.net")),
    .message (callBy colleague) (.updateMyUserProfile (some " ada@example.org ")),
    .message (callBy colleague) (.verifyEmail verification.text)]

/-- A new principal asks to recover the account of the address. -/
def recoverAddress : Event :=
  .message (callBy (principal 3)) (.recoverAccountByEmail recovery.text)

/-- The calls come before the tokens expire. -/
private theorem callBy_current
    (caller : Principal) :
    (callBy caller).now / 1000000000 ≤ 1700000900 := by
  have now : (callBy caller).now = 1700000000000000000 := rfl
  rw [now]
  decide

/-- The founder's and the colleague's account. -/
def founderId : UserId :=
  ⟨TextualHost.draw 0⟩

def colleagueId : UserId :=
  ⟨TextualHost.draw 6⟩

/-- The events happen, and the recovery links the new principal to the colleague's account. -/
private theorem movedAddress_runs :
    ((runEvents World.serviceStep World.empty movedAddress).any fun world =>
      decide (world.stores.userProfile.verifiedEmailIndex["ada@example.org"]? =
          some colleagueId) &&
        (World.serviceStep world recoverAddress).any fun after =>
          decide (world.stores.userProfile.getUserIdByPrincipal (principal 3) = none) &&
            decide (after.stores.userProfile.getUserIdByPrincipal (principal 3) =
              some colleagueId)) = true := by
  simp only [movedAddress, recoverAddress, runEvents, World.step, handle,
    verifyEmail_verification (callBy_current _),
    recoverAccountByEmail_recovery (callBy_current _)]
  decide +kernel

/-- The address belongs to the colleague's account alone, which the recovery links to. -/
theorem verifiedEmails_movedAddress :
    ∃ world after claims,
      runEvents World.serviceStep World.empty movedAddress = some world ∧
        World.serviceStep world recoverAddress = some after ∧
          after.stores.userProfile.getUserIdByPrincipal (principal 3) = some colleagueId ∧
            HoldsVerified world.stores colleagueId "ada@example.org" ∧
              ¬ HoldsVerified world.stores founderId "ada@example.org" ∧
                Jwt.tokenClaims recovery.text (callBy (principal 3)).now = .ok claims ∧
                  HoldsVerified world.stores colleagueId (normalizeEmail claims.email) := by
  obtain ⟨world, ran, found⟩ := (Option.any_eq_true _ _).mp movedAddress_runs
  rw [Bool.and_eq_true, decide_eq_true_iff] at found
  obtain ⟨indexed, found⟩ := found
  obtain ⟨after, stepped, found⟩ := (Option.any_eq_true _ _).mp found
  rw [Bool.and_eq_true, decide_eq_true_iff, decide_eq_true_iff] at found
  obtain ⟨unlinked, linked⟩ := found
  have unlinked :
      world.stores.userProfile.getUserIdByPrincipal (principal 3) ≠ some colleagueId := by
    rw [unlinked]
    simp
  obtain ⟨inverts, unique, recovers⟩ :=
    verifiedEmails_of_reachable (.runEvents .initial (fun _ _ _ => trivial) ran)
  have holds := (inverts "ada@example.org" colleagueId).mp indexed
  have other : ¬ HoldsVerified world.stores founderId "ada@example.org" := by
    intro also
    exact absurd (unique _ _ _ also holds) (by decide)
  obtain ⟨claims, accepted, holder⟩ :=
    recovers (callBy (principal 3)) recovery.text after (principal 3) colleagueId stepped linked
      unlinked
  exact ⟨world, after, claims, ran, stepped, linked, holds, other, accepted, holder⟩

end Addresses

end SsnConsole.Backend
