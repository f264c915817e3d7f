import SsnConsole.IiAuth

/-!
# What an authenticated request proves

A request that the middleware passes on carries a chain of signatures from
Internet Identity to the key that signed this very request.  The chain may have
any length: every link is checked with the key of the link before it.
-/

namespace SsnConsole.IiAuth

open SsnConsole.AgentGo
open SsnConsole.GoStandard
open SsnConsole.MessageSlice (bind_eq_ok)
open Certification

section Signatures

variable [Certification]

/-- A signature of a message by an Ed25519 key in DER form. -/
def SignedBy (keyDER message signature : Bytes) : Prop :=
  ∃ key,
    publicED25519KeyFromDER keyDER = .ok key ∧ ed25519Verify key message signature = true

/-- A signature of a message by a canister under a root key: a certificate of the canister's
data, and a tree with that data that has a path for the message and the signer's seed. -/
def CanisterSigned (canisterID : Principal) (rootPublicKey signerDER message signature : Bytes) :
    Prop :=
  ∃ signer certificate tree cert,
    canisterSigPublicKeyFromDER signerDER = .ok signer ∧ signer.canisterID = canisterID ∧
      unmarshalWrapper signature = .ok (certificate, tree) ∧
        unmarshalCertificate certificate = .ok cert ∧
          verifyCertifiedData cert canisterID rootPublicKey (digest tree) = .ok () ∧
            ∃ witness,
              treeLookup tree [bytesOf "sig", sha256 signer.seed, sha256 message] = .ok witness

/-- A link is signed by the key of the link before it. -/
def Follows (previous link : SignedDelegation) : Prop :=
  ∃ message,
    signatureMessage link.delegation = .ok message ∧
      SignedBy previous.delegation.publicKey message link.signature

omit [Certification] in
/-- A link has not expired at a time. -/
def Unexpired (now : Int) (link : SignedDelegation) : Prop :=
  now ≤ link.delegation.expiration.toNat

/-- The key of the last link, or the root key of an empty chain. -/
def DelegationChain.leafKey (chain : DelegationChain) : Bytes :=
  match chain.delegations.getLast? with
  | some link => link.delegation.publicKey
  | none => chain.publicKey

/-- What a request proves about the principal that it is passed on with. -/
structure Authenticated (config : Config) (request : Request)
    (skewReading expiryReading : Instant) (principal : Principal) (timestampMillis : Int)
    (chain : DelegationChain) (signature : Bytes) : Prop where
  timestampSent : parseInt64 (request.header headerTimestamp) = some timestampMillis
  chainSent : unmarshalChain (request.header headerDelegation) = some chain
  signatureSent : hexDecode (request.header headerSignature) = some signature
  /-- The client's time is within the window around the server's, if the window bounds it. -/
  skew :
    |skewReading.unixNano - timestampMillis * 1000000| ≤ config.skew.nanoseconds ↔
      config.skew.Bounds (skewReading.unixNano - timestampMillis * 1000000)
  principal : principal = newSelfAuthenticating chain.publicKey
  nonempty : config.allowEmptyChain = false → chain.delegations ≠ []
  anchored :
    ∀ link, chain.delegations.head? = some link →
      ∃ message,
        signatureMessage link.delegation = .ok message ∧
          CanisterSigned config.iiCanisterID config.rootPublicKey chain.publicKey message
            link.signature
  signed :
    ∀ (index : Nat) (within : index + 1 < chain.delegations.length),
      Follows chain.delegations[index] chain.delegations[index + 1]
  unexpired : ∀ link ∈ chain.delegations, Unexpired expiryReading.unixNano link
  challenge :
    SignedBy chain.leafKey
      (challengeBytes request.method request.path request.rawQuery timestampMillis
        chain.publicKey)
      signature

end Signatures

section Checks

/-- A condition that is not met refuses nothing. -/
@[simp]
theorem rejectWhen_eq_ok
    {condition : Bool}
    {message : String} :
    rejectWhen condition message = .ok () ↔ condition = false := by
  cases condition <;> simp [rejectWhen]

/-- Only a value passes where one is required. -/
@[simp]
theorem required_eq_ok
    {α : Type}
    {value : Option α}
    {message : String}
    {found : α} :
    required value message = .ok found ↔ value = some found := by
  cases value <;> simp [required]

/-- A context changes errors only. -/
@[simp]
theorem wrapped_eq_ok
    {α : Type}
    {context : String}
    {result : Except String α}
    {value : α} :
    wrapped context result = .ok value ↔ result = .ok value := by
  cases result <;> simp [wrapped, Except.mapError]

variable [Certification]

omit [Certification] in
/-- A link that is not past the server's time as an unsigned number has not expired. -/
theorem unexpired_of_not_lt
    {reading : Instant}
    {link : SignedDelegation}
    (notPast : ¬ link.delegation.expiration < reading.toUInt64) :
    Unexpired reading.unixNano link := by
  unfold Unexpired
  have later := UInt64.not_lt.mp notPast
  have bounds := reading.representable
  have value : reading.toUInt64.toNat = (reading.unixNano % 2 ^ 64).toNat := by
    unfold Instant.toUInt64
    rw [UInt64.toNat_ofNat']
    omega
  have latest : reading.toUInt64.toNat ≤ link.delegation.expiration.toNat :=
    UInt64.le_iff_toNat_le.mp later
  omega

/-- What the check of a link by an Ed25519 key establishes. -/
theorem follows_of_verified
    {previous sd : SignedDelegation}
    {signerKey : Bytes}
    {reading : Instant}
    (parsed : publicED25519KeyFromDER previous.delegation.publicKey = .ok signerKey)
    (verified : verifyEd25519SignedDelegation sd signerKey reading.toUInt64 = .ok ()) :
    Follows previous sd ∧ Unexpired reading.unixNano sd := by
  obtain ⟨⟨⟩, current, verified⟩ := bind_eq_ok.mp verified
  obtain ⟨message, composed, checked⟩ := bind_eq_ok.mp verified
  have notPast : ¬ sd.delegation.expiration < reading.toUInt64 := by
    simpa using current
  have signed : ed25519Verify signerKey message sd.signature = true := by
    simpa using checked
  exact ⟨⟨message, composed, signerKey, parsed, signed⟩, unexpired_of_not_lt notPast⟩

/-- What the loop establishes: the links follow one another, and none has expired. -/
theorem isChain_of_verifyRemaining
    {reading : Instant}
    {index : Nat}
    {previous : SignedDelegation}
    {links : List SignedDelegation}
    (verified : verifyRemaining reading.toUInt64 index previous links = .ok ()) :
    (previous :: links).IsChain Follows ∧
      ∀ link ∈ links, Unexpired reading.unixNano link := by
  induction links generalizing index previous with
  | nil =>
      exact ⟨.singleton previous, by simp⟩
  | cons link rest inductionHypothesis =>
      obtain ⟨signerKey, parsed, verified⟩ := bind_eq_ok.mp verified
      obtain ⟨⟨⟩, checked, verified⟩ := bind_eq_ok.mp verified
      obtain ⟨follows, unexpired⟩ :=
        follows_of_verified (wrapped_eq_ok.mp parsed) (wrapped_eq_ok.mp checked)
      obtain ⟨chain, restUnexpired⟩ := inductionHypothesis verified
      refine ⟨.cons_cons follows chain, ?_⟩
      intro other member
      rcases List.mem_cons.mp member with rfl | later
      · exact unexpired
      · exact restUnexpired other later

/-- What the check of the first link establishes. -/
theorem canisterSigned_of_verified
    {sd : SignedDelegation}
    {signerDER : Bytes}
    {signer : CanisterSigPublicKey}
    {iiCanisterID : Principal}
    {rootPublicKey : Bytes}
    {reading : Instant}
    (parsed : canisterSigPublicKeyFromDER signerDER = .ok signer)
    (configured : signer.canisterID.raw = iiCanisterID.raw)
    (verified :
      verifyCanisterSignedDelegation sd signer rootPublicKey reading.toUInt64 = .ok ()) :
    (∃ message,
        signatureMessage sd.delegation = .ok message ∧
          CanisterSigned iiCanisterID rootPublicKey signerDER message sd.signature) ∧
      Unexpired reading.unixNano sd := by
  obtain ⟨⟨⟩, current, verified⟩ := bind_eq_ok.mp verified
  obtain ⟨message, composed, verified⟩ := bind_eq_ok.mp verified
  obtain ⟨⟨certificate, tree⟩, unwrapped, verified⟩ := bind_eq_ok.mp verified
  obtain ⟨cert, decoded, verified⟩ := bind_eq_ok.mp verified
  obtain ⟨⟨⟩, certified, verified⟩ := bind_eq_ok.mp verified
  obtain ⟨witness, found, -⟩ := bind_eq_ok.mp verified
  have notPast : ¬ sd.delegation.expiration < reading.toUInt64 := by
    simpa using current
  have sameCanister : signer.canisterID = iiCanisterID := by
    cases signer
    cases iiCanisterID
    exact congrArg Principal.mk configured
  refine ⟨⟨message, composed, signer, certificate, tree, cert, parsed, sameCanister, ?_⟩,
    unexpired_of_not_lt notPast⟩
  refine
    ⟨wrapped_eq_ok.mp unwrapped, wrapped_eq_ok.mp decoded, ?_, witness,
      wrapped_eq_ok.mp found⟩
  rw [← sameCanister]
  exact wrapped_eq_ok.mp certified

/-- What a verified chain establishes. -/
structure ChainVerified (dc : DelegationChain) (now : Int) (iiCanisterID : Principal)
    (rootPublicKey : Bytes) (principal : Principal) (sessionPubKey : Bytes) : Prop where
  principal : principal = newSelfAuthenticating dc.publicKey
  anchored :
    ∀ link, dc.delegations.head? = some link →
      ∃ message,
        signatureMessage link.delegation = .ok message ∧
          CanisterSigned iiCanisterID rootPublicKey dc.publicKey message link.signature
  linked : dc.delegations.IsChain Follows
  unexpired : ∀ link ∈ dc.delegations, Unexpired now link
  leaf : sessionPubKey = dc.leafKey

/-- A chain of any length is verified from its anchor to its last link. -/
theorem chainVerified_of_verifyDelegationChain
    {dc : DelegationChain}
    {reading : Instant}
    {iiCanisterID principal : Principal}
    {rootPublicKey sessionPubKey : Bytes}
    (verified :
      verifyDelegationChain dc reading.toUInt64 iiCanisterID rootPublicKey =
        .ok (principal, sessionPubKey)) :
    ChainVerified dc reading.unixNano iiCanisterID rootPublicKey principal sessionPubKey := by
  obtain ⟨delegations, publicKey⟩ := dc
  unfold verifyDelegationChain at verified
  cases delegations with
  | nil =>
      cases verified
      exact
        { principal := rfl
          anchored := by simp
          linked := .nil
          unexpired := by simp
          leaf := rfl }
  | cons first rest =>
      obtain ⟨signer, parsed, verified⟩ := bind_eq_ok.mp verified
      obtain ⟨⟨⟩, anchor, verified⟩ := bind_eq_ok.mp verified
      obtain ⟨⟨⟩, checked, verified⟩ := bind_eq_ok.mp verified
      obtain ⟨⟨⟩, remaining, answered⟩ := bind_eq_ok.mp verified
      have configured : signer.canisterID.raw = iiCanisterID.raw := by
        simpa using anchor
      obtain ⟨anchored, firstUnexpired⟩ :=
        canisterSigned_of_verified (wrapped_eq_ok.mp parsed) configured
          (wrapped_eq_ok.mp checked)
      obtain ⟨linked, restUnexpired⟩ := isChain_of_verifyRemaining remaining
      cases answered
      exact
        { principal := rfl
          anchored := by
            rintro link same
            cases same
            exact anchored
          linked := linked
          unexpired := by
            intro link member
            rcases List.mem_cons.mp member with rfl | later
            · exact firstUnexpired
            · exact restUnexpired link later
          leaf := by
            simp [DelegationChain.leafKey, List.getLast?_cons, List.getLast_eq_getLastD] }

/-- What a verified challenge establishes. -/
theorem signedBy_of_verifyChallengeSignature
    {sessionPubKeyDER challenge sig : Bytes}
    (verified : verifyChallengeSignature sessionPubKeyDER challenge sig = .ok ()) :
    SignedBy sessionPubKeyDER challenge sig := by
  obtain ⟨key, parsed, checked⟩ := bind_eq_ok.mp verified
  exact ⟨key, wrapped_eq_ok.mp parsed, by simpa using checked⟩

/-- What the checks of the handler establish. -/
theorem authenticated_of_authenticate
    {config : Config}
    {request : Request}
    {skewReading expiryReading : Instant}
    {principal : Principal}
    (accepted :
      authenticate config request skewReading expiryReading = .ok principal) :
    ∃ timestampMillis chain signature,
      Authenticated config request skewReading expiryReading principal timestampMillis chain
        signature := by
  obtain ⟨⟨⟩, -, accepted⟩ := bind_eq_ok.mp accepted
  obtain ⟨timestampMillis, timestampSent, accepted⟩ := bind_eq_ok.mp accepted
  obtain ⟨⟨⟩, inWindow, accepted⟩ := bind_eq_ok.mp accepted
  obtain ⟨⟨⟩, -, accepted⟩ := bind_eq_ok.mp accepted
  obtain ⟨chain, chainSent, accepted⟩ := bind_eq_ok.mp accepted
  obtain ⟨⟨⟩, allowed, accepted⟩ := bind_eq_ok.mp accepted
  obtain ⟨⟨⟩, -, accepted⟩ := bind_eq_ok.mp accepted
  obtain ⟨signature, signatureSent, accepted⟩ := bind_eq_ok.mp accepted
  obtain ⟨⟨caller, sessionPubKey⟩, walked, accepted⟩ := bind_eq_ok.mp accepted
  obtain ⟨⟨⟩, challenged, answered⟩ := bind_eq_ok.mp accepted
  cases answered
  have verified := chainVerified_of_verifyDelegationChain (wrapped_eq_ok.mp walked)
  have signed := signedBy_of_verifyChallengeSignature (wrapped_eq_ok.mp challenged)
  rw [rejectWhen_eq_ok, Bool.or_eq_false_iff, decide_eq_false_iff_not,
    decide_eq_false_iff_not] at inWindow
  refine
    ⟨timestampMillis, chain, signature,
      { timestampSent := required_eq_ok.mp timestampSent
        chainSent := required_eq_ok.mp chainSent
        signatureSent := required_eq_ok.mp signatureSent
        skew := abs_sub_le_iff_of_timeSub inWindow.1 inWindow.2
        principal := verified.principal
        nonempty := ?_
        anchored := verified.anchored
        signed := ?_
        unexpired := verified.unexpired
        challenge := ?_ }⟩
  · intro production empty
    simp [production, empty] at allowed
  · intro index within
    exact List.isChain_iff_getElem.mp verified.linked index within
  · rw [← verified.leaf]
    exact signed

/-- A request is passed on only after all checks. -/
theorem authenticate_of_next
    {config : Config}
    {request : Request}
    {skewReading expiryReading : Instant}
    {principal : Principal}
    (passed : serveHTTP config request skewReading expiryReading = .next principal) :
    authenticate config request skewReading expiryReading = .ok principal := by
  unfold serveHTTP at passed
  cases accepted : authenticate config request skewReading expiryReading with
  | ok caller =>
      rw [accepted] at passed
      cases passed
      rfl
  | error message =>
      rw [accepted] at passed
      cases passed

end Checks

section ChainsInOrder

variable [Certification] {config : Config} {chain : DelegationChain} {reading : Instant}

/-- A chain of delegations from Internet Identity that has not expired at a time. -/
structure ChainInOrder (config : Config) (chain : DelegationChain) (reading : Instant) :
    Prop where
  nonempty : config.allowEmptyChain = false → chain.delegations ≠ []
  anchored :
    ∀ link, chain.delegations.head? = some link →
      ∃ message,
        signatureMessage link.delegation = .ok message ∧
          CanisterSigned config.iiCanisterID config.rootPublicKey chain.publicKey message
            link.signature
  linked : chain.delegations.IsChain Follows
  unexpired : ∀ link ∈ chain.delegations, Unexpired reading.unixNano link
  /-- The clock does not stand before 1970, where its reading would wrap. -/
  modern : 0 ≤ reading.unixNano

omit [Certification] in
/-- A link that has not expired is not past the server's time. -/
private theorem not_lt_of_unexpired
    {link : SignedDelegation}
    (modern : 0 ≤ reading.unixNano)
    (unexpired : Unexpired reading.unixNano link) :
    ¬ link.delegation.expiration < reading.toUInt64 := by
  have bounds := reading.representable
  have read : reading.toUInt64.toNat = reading.unixNano.toNat := by
    unfold Instant.toUInt64
    rw [UInt64.toNat_ofNat', Int.emod_eq_of_lt modern (by omega)]
    exact Nat.mod_eq_of_lt (by omega)
  unfold Unexpired at unexpired
  rw [UInt64.lt_iff_toNat_lt, read]
  omega

/-- Links that follow one another pass the loop. -/
private theorem verifyRemaining_eq_ok
    {previous : SignedDelegation}
    {links : List SignedDelegation}
    (index : Nat)
    (linked : (previous :: links).IsChain Follows)
    (unexpired : ∀ link ∈ links, ¬ link.delegation.expiration < reading.toUInt64) :
    verifyRemaining reading.toUInt64 index previous links = .ok () := by
  induction links generalizing index previous with
  | nil => rfl
  | cons link rest inductionHypothesis =>
      obtain ⟨⟨message, signed, key, parsed, verified⟩, linked⟩ := List.isChain_cons_cons.mp linked
      have passed :
          verifyEd25519SignedDelegation link key reading.toUInt64 = .ok () := by
        simp [verifyEd25519SignedDelegation, bind_eq_ok, rejectWhen, signed, verified,
          unexpired link List.mem_cons_self]
      have remaining :=
        inductionHypothesis (index + 1) linked fun other member =>
          unexpired other (List.mem_cons_of_mem link member)
      simp [verifyRemaining, bind_eq_ok, parsed, passed, remaining]

/-- A first link that Internet Identity signed passes its check. -/
private theorem verifyCanisterSignedDelegation_eq_ok
    {link : SignedDelegation}
    {signerDER message rootPublicKey : Bytes}
    {canisterID : Principal}
    (signed : signatureMessage link.delegation = .ok message)
    (certified : CanisterSigned canisterID rootPublicKey signerDER message link.signature)
    (unexpired : ¬ link.delegation.expiration < reading.toUInt64) :
    ∃ signer,
      canisterSigPublicKeyFromDER signerDER = .ok signer ∧ signer.canisterID = canisterID ∧
        verifyCanisterSignedDelegation link signer rootPublicKey reading.toUInt64 = .ok () := by
  obtain ⟨signer, certificate, tree, cert, parsed, rfl, unwrapped, decoded, verified, witness,
    found⟩ := certified
  refine ⟨signer, parsed, rfl, ?_⟩
  simp [verifyCanisterSignedDelegation, bind_eq_ok, rejectWhen, signed, unwrapped, decoded,
    verified, found, unexpired, wrapped, Except.mapError]

/-- A chain that is in order passes, with the principal of its root key. -/
theorem verifyDelegationChain_eq_ok
    (order : ChainInOrder config chain reading) :
    verifyDelegationChain chain reading.toUInt64 config.iiCanisterID config.rootPublicKey =
      .ok (newSelfAuthenticating chain.publicKey, chain.leafKey) := by
  have current : ∀ link ∈ chain.delegations, ¬ link.delegation.expiration < reading.toUInt64 :=
    fun link member => not_lt_of_unexpired order.modern (order.unexpired link member)
  cases links : chain.delegations with
  | nil =>
      have leaf : chain.leafKey = chain.publicKey := by
        rw [DelegationChain.leafKey, links]
        rfl
      simp [verifyDelegationChain, links, leaf]
  | cons first rest =>
      have anchored := order.anchored
      have linked := order.linked
      rw [links] at anchored linked current
      obtain ⟨message, signed, certified⟩ := anchored first rfl
      obtain ⟨signer, parsed, configured, passed⟩ :=
        verifyCanisterSignedDelegation_eq_ok signed certified
          (current first List.mem_cons_self)
      have remaining :=
        verifyRemaining_eq_ok 1 linked fun other member =>
          current other (List.mem_cons_of_mem first member)
      have leaf :
          ((first :: rest).getLast (List.cons_ne_nil first rest)).delegation.publicKey =
            chain.leafKey := by
        simp only [DelegationChain.leafKey, links,
          List.getLast?_eq_some_getLast (List.cons_ne_nil first rest)]
      simp [verifyDelegationChain, links, bind_eq_ok, rejectWhen, parsed, configured, passed,
        remaining, leaf, pure, Except.pure]

omit [Certification] in
/-- A timestamp within the window passes both comparisons. -/
theorem within_window
    {time other : Int}
    {window : Duration}
    (within : |time - other| ≤ window.nanoseconds) :
    ¬ window.nanoseconds < (timeSub time other).nanoseconds ∧
      ¬ (timeSub time other).nanoseconds < window.neg.nanoseconds := by
  have bounds := window.representable
  obtain ⟨below, above⟩ := abs_le.mp within
  have exactly : (timeSub time other).nanoseconds = time - other := by
    unfold timeSub Duration.saturate
    rw [dif_neg (by omega), dif_neg (by omega)]
  have negated : window.neg.nanoseconds = -window.nanoseconds := by
    unfold Duration.neg
    rw [dif_neg (by omega)]
  rw [exactly, negated]
  omega

/-- A request with a chain that is in order, signed with its session key, passes if its timestamp
passes both comparisons. -/
theorem serveHTTP_eq_next
    {request : Request}
    {skewReading : Instant}
    {timestampMillis : Int}
    {signature : Bytes}
    (timestampSent : parseInt64 (request.header headerTimestamp) = some timestampMillis)
    (chainPresent : request.header headerDelegation ≠ [])
    (chainSent : unmarshalChain (request.header headerDelegation) = some chain)
    (signaturePresent : request.header headerSignature ≠ [])
    (signatureSent : hexDecode (request.header headerSignature) = some signature)
    (inWindow :
      ¬ config.skew.nanoseconds <
            (timeSub skewReading.unixNano (timestampMillis * 1000000)).nanoseconds ∧
        ¬ (timeSub skewReading.unixNano (timestampMillis * 1000000)).nanoseconds <
            config.skew.neg.nanoseconds)
    (order : ChainInOrder config chain reading)
    (signed :
      SignedBy chain.leafKey
        (challengeBytes request.method request.path request.rawQuery timestampMillis
          chain.publicKey)
        signature) :
    serveHTTP config request skewReading reading =
      .next (newSelfAuthenticating chain.publicKey) := by
  have timestampPresent : request.header headerTimestamp ≠ [] := by
    intro missing
    rw [missing] at timestampSent
    cases timestampSent
  have timely :
      (decide (config.skew.nanoseconds <
            (timeSub skewReading.unixNano (timestampMillis * 1000000)).nanoseconds) ||
        decide ((timeSub skewReading.unixNano (timestampMillis * 1000000)).nanoseconds <
            config.skew.neg.nanoseconds)) = false := by
    rw [Bool.or_eq_false_iff, decide_eq_false_iff_not, decide_eq_false_iff_not]
    exact inWindow
  obtain ⟨key, parsed, verified⟩ := signed
  have challenged :
      verifyChallengeSignature chain.leafKey
        (challengeBytes request.method request.path request.rawQuery timestampMillis
          chain.publicKey)
        signature = .ok () := by
    simp [verifyChallengeSignature, bind_eq_ok, rejectWhen, parsed, verified]
  have accepted :
      authenticate config request skewReading reading =
        .ok (newSelfAuthenticating chain.publicKey) := by
    have linked : (!config.allowEmptyChain && decide (chain.delegations.length = 0)) = false := by
      cases strict : config.allowEmptyChain with
      | true => rfl
      | false => simp [order.nonempty strict]
    simp only [authenticate, bind_eq_ok, required_eq_ok, wrapped_eq_ok]
    exact
      ⟨(), rejectWhen_eq_ok.mpr (decide_eq_false timestampPresent), timestampMillis,
        timestampSent, (), rejectWhen_eq_ok.mpr timely, (),
        rejectWhen_eq_ok.mpr (decide_eq_false chainPresent), chain, chainSent, (),
        rejectWhen_eq_ok.mpr linked, (), rejectWhen_eq_ok.mpr (decide_eq_false signaturePresent),
        signature, signatureSent, _, verifyDelegationChain_eq_ok order, (), challenged, rfl⟩
  rw [serveHTTP, accepted]

end ChainsInOrder

/-- Every request that a validated middleware passes on proves its principal; its timestamp is in
time exactly if the window bounds the difference. -/
theorem delegatedAuthentication
    [Certification]
    (config : Config)
    (handler : Request → Instant → Instant → Served)
    (validated : middleware config = .ok handler)
    (request : Request)
    (skewReading expiryReading : Instant)
    (principal : Principal)
    (passed : handler request skewReading expiryReading = .next principal) :
    ∃ timestampMillis chain signature,
      Authenticated config request skewReading expiryReading principal timestampMillis chain
        signature := by
  obtain ⟨⟨⟩, -, same⟩ := bind_eq_ok.mp validated
  cases same
  exact authenticated_of_authenticate (authenticate_of_next passed)

section RecordedRequest

/-- Internet Identity's canister. -/
def iiCanister : Principal :=
  ⟨[0, 0, 0, 0, 0, 0, 0, 7, 1, 1]⟩

/-- The root key of the replica that runs it, in DER form. -/
def replicaRootKey : Bytes :=
  [48, 129, 130, 48, 29, 6, 13, 43, 6, 1, 4, 1, 130, 220, 124, 5, 3, 1, 2, 1, 6, 12, 43, 6, 1, 4,
   1, 130, 220, 124, 5, 3, 2, 1, 3, 97, 0, 180, 206, 245, 19, 54, 35, 106, 170, 121, 122, 61, 93,
   11, 215, 198, 50, 231, 98, 253, 78, 166, 38, 212, 14, 115, 61, 35, 129, 1, 50, 128, 117, 56,
   62, 110, 9, 89, 163, 253, 116, 120, 145, 26, 68, 63, 127, 149, 7, 0, 53, 7, 41, 233, 187, 141,
   218, 65, 199, 78, 104, 78, 233, 159, 135, 211, 52, 85, 231, 141, 146, 106, 217, 130, 135, 162,
   231, 47, 213, 210, 41, 0, 64, 198, 115, 174, 178, 57, 30, 117, 167, 149, 181, 196, 235, 225,
   102]

/-- The seed of a user's key in Internet Identity. -/
def userSeed : Bytes :=
  [17, 189, 137, 77, 120, 237, 27, 105, 151, 174, 205, 206, 59, 62, 94, 225, 200, 158, 188, 189,
   118, 245, 120, 9, 177, 152, 129, 179, 184, 10, 34, 22]

/-- The user's key in DER form: it names the canister that signs with it. -/
def userKey : Bytes :=
  [48, 60, 48, 12, 6, 10, 43, 6, 1, 4, 1, 131, 184, 67, 1, 2, 3, 44, 0, 10] ++ iiCanister.raw ++
    userSeed

/-- The principal of the user's key. -/
def userPrincipal : Principal :=
  ⟨[61, 1, 245, 120, 89, 212, 42, 80, 28, 251, 25, 58, 21, 160, 58, 186, 25, 132, 14, 92, 203,
    139, 113, 72, 102, 107, 32, 233, 2]⟩

/-- The digest of the user's key. -/
def userKeyDigest : Bytes :=
  [7, 213, 48, 254, 7, 46, 249, 44, 67, 243, 156, 79, 235, 40, 23, 170, 204, 254, 8, 140, 102,
   35, 237, 76, 129, 157, 93, 97, 216, 85, 168, 251]

/-- The digest of the seed. -/
def userSeedDigest : Bytes :=
  [187, 173, 109, 222, 231, 209, 162, 165, 104, 149, 218, 197, 113, 158, 6, 189, 50, 235, 0, 100,
   43, 81, 208, 250, 248, 68, 108, 3, 20, 137, 212, 41]

/-- What stands before an Ed25519 key in DER form. -/
def ed25519Header : Bytes :=
  [48, 42, 48, 5, 6, 3, 43, 101, 112, 3, 33, 0]

/-- The key that the user logs in with. -/
def loginKey : Bytes :=
  [150, 123, 68, 33, 122, 192, 114, 207, 70, 70, 33, 58, 91, 218, 22, 69, 122, 198, 105, 7, 77,
   148, 133, 11, 174, 69, 123, 224, 15, 108, 238, 24]

/-- The key of the client's session. -/
def sessionKey : Bytes :=
  [5, 8, 181, 69, 71, 21, 103, 15, 91, 171, 196, 26, 26, 160, 71, 121, 117, 39, 244, 252, 221,
   93, 107, 201, 127, 124, 12, 12, 144, 191, 158, 62]

/-- Internet Identity delegates to the login's key, for eight hours. -/
def loginDelegation : Delegation where
  publicKey := ed25519Header ++ loginKey
  expiration := 1700028800000000000
  targets := []

/-- The login's key delegates to the session's key, for half an hour. -/
def sessionDelegation : Delegation where
  publicKey := ed25519Header ++ sessionKey
  expiration := 1700001800000000000
  targets := []

/-- The text that is signed for a delegation with a digest. -/
def delegationMessage (digest : Bytes) : Bytes :=
  26 :: bytesOf "ic-request-auth-delegation" ++ digest

/-- The text that Internet Identity signed. -/
def loginMessage : Bytes :=
  delegationMessage
    [56, 188, 135, 43, 171, 175, 218, 84, 249, 165, 199, 237, 204, 12, 2, 18, 173, 0, 19, 226,
     74, 73, 48, 207, 89, 93, 31, 45, 252, 243, 91, 24]

/-- The text that the login's key signed. -/
def sessionMessage : Bytes :=
  delegationMessage
    [172, 107, 5, 95, 129, 173, 148, 1, 102, 172, 30, 85, 31, 55, 15, 33, 18, 121, 167, 130, 210,
     184, 149, 178, 3, 59, 241, 248, 127, 38, 114, 219]

/-- The digest of the text that Internet Identity signed. -/
def loginMessageDigest : Bytes :=
  [198, 124, 121, 100, 115, 116, 196, 33, 90, 60, 133, 218, 30, 142, 243, 197, 168, 164, 129, 16,
   19, 61, 12, 241, 185, 34, 126, 137, 250, 189, 36, 190]

/-- The tree of Internet Identity's signatures, as far as the signature is in it. -/
def signatureTree : Bytes :=
  [131, 2, 67, 115, 105, 103, 131, 2, 88, 32] ++ userSeedDigest ++ [131, 2, 88, 32] ++
    loginMessageDigest ++ [130, 3, 64]

/-- The digest of the tree. -/
def signatureTreeDigest : Bytes :=
  [34, 219, 133, 101, 208, 127, 121, 36, 228, 109, 56, 68, 42, 98, 57, 17, 208, 123, 215, 9, 193,
   25, 75, 19, 128, 102, 134, 253, 218, 107, 155, 245]

/-- The replica's certificate that the tree is the canister's data. -/
def certificate : Bytes :=
  [217, 217, 247, 162, 100, 116, 114, 101, 101, 131, 1, 131, 2, 72, 99, 97, 110, 105, 115, 116,
   101, 114, 131, 2, 74, 0, 0, 0, 0, 0, 0, 0, 7, 1, 1, 131, 2, 78, 99, 101, 114, 116, 105, 102,
   105, 101, 100, 95, 100, 97, 116, 97, 130, 3, 88, 32] ++ signatureTreeDigest ++
    [131, 2, 68, 116, 105, 109, 101, 130, 3, 73, 128, 184, 248, 144, 190, 159, 231, 203, 23, 105,
     115, 105, 103, 110, 97, 116, 117, 114, 101, 88, 48] ++
    [144, 169, 32, 202, 172, 211, 69, 66, 173, 175, 44, 87, 42, 46, 60, 6, 248, 187, 3, 170, 189,
     90, 198, 45, 15, 217, 173, 183, 249, 156, 189, 48, 114, 78, 201, 71, 120, 85, 35, 180, 46,
     231, 170, 3, 191, 236, 220, 111]

/-- Internet Identity's signature: the certificate and the tree. -/
def canisterSignature : Bytes :=
  [217, 217, 247, 162, 107, 99, 101, 114, 116, 105, 102, 105, 99, 97, 116, 101, 88, 167] ++ certificate ++
    [100, 116, 114, 101, 101] ++ signatureTree

/-- The signature of the login's key for the session's. -/
def loginSignature : Bytes :=
  [226, 245, 98, 58, 102, 50, 41, 218, 0, 120, 119, 164, 105, 66, 147, 59, 156, 53, 86, 105, 24,
   144, 222, 248, 249, 17, 82, 233, 0, 157, 243, 28, 46, 155, 183, 81, 189, 110, 112, 86, 186,
   143, 107, 253, 103, 181, 184, 82, 23, 18, 70, 119, 158, 232, 199, 241, 243, 244, 153, 166, 14,
   24, 16, 7]

/-- The user's chain. -/
def userChain : DelegationChain where
  delegations := [⟨loginDelegation, canisterSignature⟩, ⟨sessionDelegation, loginSignature⟩]
  publicKey := userKey

/-- A link in the text of a chain. -/
def linkText (expiration : String) (link : SignedDelegation) : Bytes :=
  bytesOf ("\x7b\"delegation\":\x7b\"expiration\":\"" ++ expiration ++ "\",\"pubkey\":\"") ++
    hexEncode link.delegation.publicKey ++ bytesOf "\"\x7d,\"signature\":\"" ++
    hexEncode link.signature ++ bytesOf "\"\x7d"

/-- The header with the user's chain. -/
def userChainHeader : Bytes :=
  bytesOf "\x7b\"delegations\":[" ++
    linkText "1797b72fbbef0000" ⟨loginDelegation, canisterSignature⟩ ++ bytesOf "," ++
    linkText "17979ea14e865000" ⟨sessionDelegation, loginSignature⟩ ++
    bytesOf "],\"publicKey\":\"" ++ hexEncode userKey ++ bytesOf "\"\x7d"

/-- The challenge for a request of the user without a query. -/
def userChallenge (method path : String) (timestampMillis : Int) : Bytes :=
  bytesOf method ++ 10 :: bytesOf path ++ 10 :: [] ++ 10 :: bytesOf (toString timestampMillis) ++
    10 :: hexEncode userKeyDigest

/-- The session's signature of a request in 2023. -/
def signatureOf2023 : Bytes :=
  [78, 15, 46, 186, 142, 169, 49, 162, 105, 119, 56, 41, 225, 76, 176, 67, 153, 211, 133, 213,
   204, 133, 214, 249, 153, 42, 122, 214, 114, 98, 142, 187, 103, 214, 45, 113, 31, 233, 111, 230,
   70, 170, 161, 82, 86, 158, 241, 251, 216, 32, 127, 167, 159, 153, 1, 67, 109, 84, 212, 6, 40,
   170, 227, 7]

/-- The session's signature of a request with a timestamp in 1716. -/
def signatureOf1716 : Bytes :=
  [151, 68, 155, 182, 5, 11, 54, 165, 168, 88, 41, 19, 93, 10, 46, 121, 206, 147, 181, 212, 141,
   11, 114, 191, 47, 254, 112, 204, 99, 74, 77, 199, 206, 46, 57, 56, 129, 200, 185, 30, 208, 25,
   117, 68, 74, 24, 60, 191, 203, 224, 78, 246, 20, 201, 18, 236, 178, 114, 227, 153, 109, 220,
   110, 2]

/-- The session's signature of a request for a metrics session. -/
def sessionSignature : Bytes :=
  [117, 146, 105, 178, 87, 16, 177, 33, 96, 63, 65, 97, 125, 174, 145, 131, 251, 72, 196, 202,
   27, 118, 136, 54, 15, 94, 247, 202, 101, 233, 139, 6, 119, 239, 99, 167, 37, 42, 188, 205, 218,
   19, 16, 159, 12, 61, 197, 121, 44, 65, 248, 216, 51, 69, 28, 113, 212, 130, 177, 27, 2, 66, 90,
   14]

/-- The Ed25519 signatures: who signed which text, and how. -/
def recordedSignatures : List (Bytes × Bytes × Bytes) :=
  [(loginKey, sessionMessage, loginSignature),
    (sessionKey, userChallenge "GET" "/x" 1700000000000, signatureOf2023),
    (sessionKey, userChallenge "GET" "/x" (-8000000000000), signatureOf1716),
    (sessionKey, userChallenge "POST" "/v0/metrics/session" 1700000000000, sessionSignature)]

/-- The values of the cryptographic functions at the recorded chain and requests. -/
@[reducible]
def recorded : Certification where
  Certificate := Bytes
  HashTree := Bytes
  unmarshalChain text := if text = userChainHeader then some userChain else none
  canisterSigPublicKeyFromDER der :=
    if der = userKey then .ok ⟨iiCanister, userSeed⟩ else .error "not a canister's key"
  publicED25519KeyFromDER der :=
    if der.length = 44 ∧ der.take 12 = ed25519Header then
      .ok (der.drop 12)
    else
      .error "not an Ed25519 public key"
  signatureMessage delegation :=
    if delegation = loginDelegation then
      .ok loginMessage
    else if delegation = sessionDelegation then
      .ok sessionMessage
    else
      .error "not a recorded delegation"
  unmarshalWrapper signature :=
    if signature = canisterSignature then
      .ok (certificate, signatureTree)
    else
      .error "not a canister's signature"
  unmarshalCertificate text :=
    if text = certificate then .ok certificate else .error "not a certificate"
  digest tree := if tree = signatureTree then signatureTreeDigest else []
  treeLookup tree path :=
    if tree = signatureTree ∧ path = [bytesOf "sig", userSeedDigest, loginMessageDigest] then
      .ok []
    else
      .error "not found"
  verifyCertifiedData cert canisterID rootKey data :=
    if cert = certificate ∧ canisterID = iiCanister ∧ rootKey = replicaRootKey ∧
        data = signatureTreeDigest then
      .ok ()
    else
      .error "not certified"
  sha256 data :=
    if data = userKey then
      userKeyDigest
    else if data = userSeed then
      userSeedDigest
    else if data = loginMessage then
      loginMessageDigest
    else
      []
  ed25519Verify key message signature := decide ((key, message, signature) ∈ recordedSignatures)
  newSelfAuthenticating key := if key = userKey then userPrincipal else ⟨[]⟩

attribute [local instance] recorded

/-- A configuration for the replica's Internet Identity. -/
def replicaConfig (skewWindow : Duration) : Config where
  iiCanisterID := iiCanister
  rootPublicKey := replicaRootKey
  skewWindow := skewWindow
  allowEmptyChain := false

/-- The configuration validates. -/
private theorem middleware_replicaConfig
    (skewWindow : Duration) :
    middleware (replicaConfig skewWindow) = .ok (serveHTTP (replicaConfig skewWindow)) := by
  have validated : (replicaConfig skewWindow).validate = .ok () := by
    simp only [Config.validate, replicaConfig, iiCanister, replicaRootKey,
      List.length_eq_zero_iff, List.cons_ne_nil, if_false, Bool.false_eq_true]
  exact bind_eq_ok.mpr ⟨(), validated, rfl⟩

/-- The server's clock in 2023. -/
def november2023 : Instant :=
  ⟨1700000000 * 1000000000, by decide⟩

/-- Internet Identity signed the first link of the user's chain. -/
private theorem loginDelegation_signed :
    CanisterSigned iiCanister replicaRootKey userKey loginMessage canisterSignature := by
  have seed : sha256 userSeed = userSeedDigest := by
    have notKey : userSeed ≠ userKey := by decide
    simp only [sha256, if_neg notKey, if_true]
  have message : sha256 loginMessage = loginMessageDigest := by
    have notKey : loginMessage ≠ userKey := by
      simp [loginMessage, delegationMessage, userKey]
    have notSeed : loginMessage ≠ userSeed := by
      simp [loginMessage, delegationMessage, userSeed]
    simp only [sha256, if_neg notKey, if_neg notSeed, if_true]
  have hashed : digest signatureTree = signatureTreeDigest := if_pos rfl
  refine
    ⟨⟨iiCanister, userSeed⟩, certificate, signatureTree, certificate, if_pos rfl, rfl, if_pos rfl,
      if_pos rfl, ?_, [], ?_⟩
  · rw [hashed]
    exact if_pos ⟨rfl, rfl, rfl, rfl⟩
  · rw [seed, message]
    exact if_pos ⟨rfl, rfl⟩

/-- An Ed25519 key is read from its DER form. -/
theorem publicED25519KeyFromDER_append
    {key : Bytes}
    (length : key.length = 32) :
    publicED25519KeyFromDER (ed25519Header ++ key) = .ok key := by
  have header : ed25519Header.length = 12 := rfl
  have form :
      (ed25519Header ++ key).length = 44 ∧ (ed25519Header ++ key).take 12 = ed25519Header := by
    constructor
    · rw [List.length_append, header, length]
    · exact List.take_left' header
  simp only [publicED25519KeyFromDER, if_pos form, List.drop_left' header]

/-- The user's chain is in order for the replica's Internet Identity. -/
theorem userChain_inOrder
    (skewWindow : Duration) :
    ChainInOrder (replicaConfig skewWindow) userChain november2023 where
  nonempty _ := List.cons_ne_nil _ _
  anchored := by
    rintro link ⟨⟩
    exact ⟨loginMessage, if_pos rfl, loginDelegation_signed⟩
  linked := by
    refine .cons_cons ?_ (.singleton _)
    have message : signatureMessage sessionDelegation = .ok sessionMessage := by
      have other : sessionDelegation ≠ loginDelegation := by decide
      simp only [signatureMessage, if_neg other, if_true]
    refine ⟨sessionMessage, message, loginKey, publicED25519KeyFromDER_append rfl, ?_⟩
    simp [ed25519Verify, recordedSignatures]
  unexpired := by
    intro link member
    simp only [userChain, List.mem_cons, List.not_mem_nil, or_false] at member
    unfold Unexpired
    rcases member with rfl | rfl
    · decide
    · decide
  modern := by decide

/-- The client's request with a timestamp and a signature. -/
def clientRequest (method path timestamp : String) (signature : Bytes) : Request where
  method := bytesOf method
  path := bytesOf path
  rawQuery := []
  header name :=
    if name = headerTimestamp then
      bytesOf timestamp
    else if name = headerSignature then
      hexEncode signature
    else if name = headerDelegation then
      userChainHeader
    else
      []

/-- The header with the user's chain is not empty. -/
theorem userChainHeader_ne_nil : userChainHeader ≠ [] := by
  have opening : bytesOf "\x7b\"delegations\":[" ≠ [] := by decide +kernel
  simp [userChainHeader, opening]

/-- The challenge for a request of the user is the one that the middleware computes. -/
theorem challengeBytes_userKey
    (method path : String)
    (timestampMillis : Int) :
    challengeBytes (bytesOf method) (bytesOf path) [] timestampMillis userKey =
      userChallenge method path timestampMillis := by
  have hashed : sha256 userKey = userKeyDigest := if_pos rfl
  rw [challengeBytes, hashed, userChallenge]

/-- The client's request passes if its session signed it and its timestamp passes. -/
theorem clientRequest_passes
    {skewWindow : Duration}
    {method path timestamp : String}
    {timestampMillis : Int}
    {signature : Bytes}
    (timestampSent : parseInt64 (bytesOf timestamp) = some timestampMillis)
    (inWindow :
      ¬ (replicaConfig skewWindow).skew.nanoseconds <
            (timeSub november2023.unixNano (timestampMillis * 1000000)).nanoseconds ∧
        ¬ (timeSub november2023.unixNano (timestampMillis * 1000000)).nanoseconds <
            (replicaConfig skewWindow).skew.neg.nanoseconds)
    (signaturePresent : signature ≠ [])
    (signed :
      (sessionKey, userChallenge method path timestampMillis, signature) ∈ recordedSignatures) :
    serveHTTP (replicaConfig skewWindow) (clientRequest method path timestamp signature)
        november2023 november2023 =
      .next userPrincipal := by
  have principal : newSelfAuthenticating userKey = userPrincipal := if_pos rfl
  rw [← principal]
  refine
    serveHTTP_eq_next timestampSent userChainHeader_ne_nil (if_pos rfl) (hexEncode_ne_nil signaturePresent)
      (hexDecode_hexEncode signature) inWindow (userChain_inOrder skewWindow) ?_
  refine ⟨sessionKey, publicED25519KeyFromDER_append rfl, ?_⟩
  rw [← challengeBytes_userKey] at signed
  exact decide_eq_true signed

/-- The client's request of 2023 passes when it is sent. -/
theorem clientRequest_passes_in2023 :
    serveHTTP (replicaConfig ⟨60 * 1000000000, by decide⟩)
        (clientRequest "GET" "/x" "1700000000000" signatureOf2023) november2023 november2023 =
      .next userPrincipal := by
  have read : parseInt64 (bytesOf "1700000000000") = some 1700000000000 := by
    decide +kernel
  exact
    clientRequest_passes read (by decide +kernel) (List.cons_ne_nil _ _)
      (by simp [recordedSignatures])

/-- A request in time proves the user's principal, with the user's chain of two links. -/
theorem delegatedAuthentication_clientRequest :
    ∃ timestampMillis signature,
      Authenticated (replicaConfig ⟨60 * 1000000000, by decide⟩)
        (clientRequest "GET" "/x" "1700000000000" signatureOf2023) november2023 november2023
        userPrincipal timestampMillis userChain signature := by
  obtain ⟨timestampMillis, chain, signature, authenticated⟩ :=
    delegatedAuthentication (replicaConfig ⟨60 * 1000000000, by decide⟩) (serveHTTP _)
      (middleware_replicaConfig _) (clientRequest "GET" "/x" "1700000000000" signatureOf2023)
      november2023 november2023 userPrincipal clientRequest_passes_in2023
  have read : unmarshalChain userChainHeader = some userChain := if_pos rfl
  obtain rfl : userChain = chain :=
    Option.some.inj (read.symm.trans authenticated.chainSent)
  exact ⟨timestampMillis, signature, authenticated⟩

/-- With the largest window, a timestamp of more than three centuries ago passes. -/
theorem staleRequest_passes :
    middleware (replicaConfig Duration.max) = .ok (serveHTTP (replicaConfig Duration.max)) ∧
      serveHTTP (replicaConfig Duration.max)
          (clientRequest "GET" "/x" "-8000000000000" signatureOf1716) november2023
          november2023 = .next userPrincipal ∧
        ∀ timestampMillis,
          parseInt64
              ((clientRequest "GET" "/x" "-8000000000000" signatureOf1716).header
                headerTimestamp) =
            some timestampMillis →
          ¬ |november2023.unixNano - timestampMillis * 1000000| ≤
              (replicaConfig Duration.max).skew.nanoseconds := by
  have read : parseInt64 (bytesOf "-8000000000000") = some (-8000000000000) := by
    decide +kernel
  refine ⟨middleware_replicaConfig _, ?_, ?_⟩
  · exact
      clientRequest_passes read (by decide +kernel) (List.cons_ne_nil _ _)
        (by simp [recordedSignatures])
  · intro timestampMillis sent
    cases sent.symm.trans read
    decide +kernel

end RecordedRequest

end SsnConsole.IiAuth
