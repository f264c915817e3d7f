import SsnConsole.DelegatedAuthentication

/-!
# Challenges and the requests that they are made of

A challenge joins the parts of a request with newlines.  Only the path may
contain one, so the parts before it are read from the front and those behind it
from the back: a challenge is that of one request, and so is a signature of it.
-/

namespace SsnConsole.IiAuth

open SsnConsole.AgentGo
open SsnConsole.GoStandard
open Certification

section Separators

variable {α : Type} {separator : α}

/-- What comes before the first separator is told apart from what follows it. -/
theorem append_cons_inj_front
    {front otherFront rest otherRest : List α}
    (plain : separator ∉ front)
    (otherPlain : separator ∉ otherFront)
    (same : front ++ separator :: rest = otherFront ++ separator :: otherRest) :
    front = otherFront ∧ rest = otherRest := by
  induction front generalizing otherFront with
  | nil =>
      cases otherFront with
      | nil =>
          exact ⟨rfl, (List.cons.inj same).2⟩
      | cons first others =>
          obtain rfl := (List.cons.inj same).1
          exact absurd List.mem_cons_self otherPlain
  | cons item front inductionHypothesis =>
      cases otherFront with
      | nil =>
          obtain rfl := (List.cons.inj same).1
          exact absurd List.mem_cons_self plain
      | cons first others =>
          obtain ⟨rfl, behind⟩ := List.cons.inj same
          obtain ⟨rfl, rests⟩ :=
            inductionHypothesis (fun inside => plain (List.mem_cons_of_mem _ inside))
              (fun inside => otherPlain (List.mem_cons_of_mem _ inside)) behind
          exact ⟨rfl, rests⟩

/-- What comes behind the last separator is told apart from what precedes it. -/
theorem append_cons_inj_back
    {back otherBack rest otherRest : List α}
    (plain : separator ∉ back)
    (otherPlain : separator ∉ otherBack)
    (same : rest ++ separator :: back = otherRest ++ separator :: otherBack) :
    rest = otherRest ∧ back = otherBack := by
  have reversed := congrArg List.reverse same
  simp only [List.reverse_append, List.reverse_cons, List.append_assoc, List.singleton_append]
    at reversed
  obtain ⟨backs, rests⟩ :=
    append_cons_inj_front (fun inside => plain (List.mem_reverse.mp inside))
      (fun inside => otherPlain (List.mem_reverse.mp inside)) reversed
  exact ⟨List.reverse_injective rests, List.reverse_injective backs⟩

end Separators

section Challenges

variable [Certification]

/-- A challenge determines the parts of its request, and the key's digest. -/
theorem challengeBytes_inj
    {method path query chainKey otherMethod otherPath otherQuery otherChainKey : Bytes}
    {timestampMillis otherTimestampMillis : Int}
    (methodLine : 10 ∉ method)
    (queryLine : 10 ∉ query)
    (otherMethodLine : 10 ∉ otherMethod)
    (otherQueryLine : 10 ∉ otherQuery)
    (same :
      challengeBytes method path query timestampMillis chainKey =
        challengeBytes otherMethod otherPath otherQuery otherTimestampMillis otherChainKey) :
    method = otherMethod ∧ path = otherPath ∧ query = otherQuery ∧
      timestampMillis = otherTimestampMillis ∧ sha256 chainKey = sha256 otherChainKey := by
  unfold challengeBytes at same
  obtain ⟨same, digests⟩ :=
    append_cons_inj_back (newline_not_mem_hexEncode _) (newline_not_mem_hexEncode _) same
  obtain ⟨same, timestamps⟩ :=
    append_cons_inj_back (newline_not_mem_toString_int _) (newline_not_mem_toString_int _) same
  obtain ⟨same, queries⟩ := append_cons_inj_back queryLine otherQueryLine same
  obtain ⟨methods, paths⟩ := append_cons_inj_front methodLine otherMethodLine same
  exact
    ⟨methods, paths, queries, Int.repr_inj.mp (bytesOf_injective timestamps),
      hexEncode_injective digests⟩

/-- The path of the sessions endpoint. -/
def sessionPath : String :=
  "/v0/metrics/session"

/-- The bytes that `mintSession` of the frontend signs. -/
def mintSessionChallenge (timestampMillis : Nat) (chainPubKey : Bytes) : Bytes :=
  bytesOf s!"POST\n{sessionPath}\n\n{timestampMillis}\n" ++ hexEncode (sha256 chainPubKey)

/-- The frontend signs the challenge that the middleware computes for its request. -/
theorem mintSessionChallenge_eq
    (timestampMillis : Nat)
    (chainPubKey : Bytes) :
    mintSessionChallenge timestampMillis chainPubKey =
      challengeBytes (bytesOf "POST") (bytesOf sessionPath) [] timestampMillis chainPubKey := by
  have newline : bytesOf "\n" = [10] := by
    rw [bytesOf_eq]
    rfl
  have text :
      s!"POST\n{sessionPath}\n\n{timestampMillis}\n" =
        "POST" ++ "\n" ++ sessionPath ++ "\n" ++ "\n" ++ toString timestampMillis ++ "\n" := rfl
  have numeral : toString (timestampMillis : Int) = toString timestampMillis := rfl
  unfold mintSessionChallenge challengeBytes
  rw [text, numeral]
  simp only [bytesOf_append, newline, List.append_assoc, List.cons_append, List.nil_append]

/-- A signer with an Ed25519 key: no signature of a message verifies for another one. -/
structure Signer (key : Bytes) where
  sign : Bytes → Bytes
  binds :
    ∀ message other, ed25519Verify key other (sign message) = true → other = message

/--
Equal challenges are of equal requests, whatever the path contains; and a
signature that was made for one request passes with no other one under the same
key.
-/
theorem challenge_binds :
    (∀ (method path query chainKey otherMethod otherPath otherQuery otherChainKey : Bytes)
        (timestampMillis otherTimestampMillis : Int),
      10 ∉ method → 10 ∉ query → 10 ∉ otherMethod → 10 ∉ otherQuery →
        challengeBytes method path query timestampMillis chainKey =
            challengeBytes otherMethod otherPath otherQuery otherTimestampMillis
              otherChainKey →
          method = otherMethod ∧ path = otherPath ∧ query = otherQuery ∧
            timestampMillis = otherTimestampMillis ∧
              sha256 chainKey = sha256 otherChainKey) ∧
      ∀ (key : Bytes) (signer : Signer key) (method path query chainKey : Bytes)
          (timestampMillis : Int) (config : Config) (request : Request)
          (skewReading expiryReading : Instant) (principal : Principal) (sentMillis : Int)
          (chain : DelegationChain),
        10 ∉ method → 10 ∉ query → 10 ∉ request.method → 10 ∉ request.rawQuery →
          serveHTTP config request skewReading expiryReading = .next principal →
            parseInt64 (request.header headerTimestamp) = some sentMillis →
              unmarshalChain (request.header headerDelegation) = some chain →
                publicED25519KeyFromDER chain.leafKey = .ok key →
                  hexDecode (request.header headerSignature) =
                      some
                        (signer.sign
                          (challengeBytes method path query timestampMillis chainKey)) →
                    request.method = method ∧ request.path = path ∧
                      request.rawQuery = query ∧ sentMillis = timestampMillis ∧
                        sha256 chain.publicKey = sha256 chainKey := by
  constructor
  · intro method path query chainKey otherMethod otherPath otherQuery otherChainKey
      timestampMillis otherTimestampMillis methodLine queryLine otherMethodLine otherQueryLine same
    exact challengeBytes_inj methodLine queryLine otherMethodLine otherQueryLine same
  · intro key signer method path query chainKey timestampMillis config request skewReading
      expiryReading principal sentMillis chain methodLine queryLine requestMethodLine
      requestQueryLine passed timestampSent chainSent leafKey signatureSent
    obtain ⟨readMillis, readChain, signature, authenticated⟩ :=
      authenticated_of_authenticate (authenticate_of_next passed)
    obtain rfl := Option.some.inj (authenticated.timestampSent.symm.trans timestampSent)
    obtain rfl := Option.some.inj (authenticated.chainSent.symm.trans chainSent)
    obtain rfl := Option.some.inj (authenticated.signatureSent.symm.trans signatureSent)
    obtain ⟨leaf, parsed, verified⟩ := authenticated.challenge
    obtain rfl := Except.ok.inj (parsed.symm.trans leafKey)
    exact
      challengeBytes_inj requestMethodLine requestQueryLine methodLine queryLine
        (signer.binds _ _ verified)

end Challenges

section RecordedSignature

attribute [local instance] recorded

/-- The session's key with the signature that it made in 2023. -/
def recordedSigner : Signer sessionKey where
  sign message :=
    if message = userChallenge "GET" "/x" 1700000000000 then signatureOf2023 else []
  binds message other verified := by
    have recordings := of_decide_eq_true verified
    have notLogin : sessionKey ≠ loginKey := by decide
    have not1716 : signatureOf2023 ≠ signatureOf1716 := by decide
    have notSession : signatureOf2023 ≠ sessionSignature := by decide
    simp only [recordedSignatures, List.mem_cons, List.not_mem_nil, or_false, Prod.mk.injEq,
      notLogin, false_and, false_or, true_and] at recordings
    by_cases signed : message = userChallenge "GET" "/x" 1700000000000
    · simp only [if_pos signed, not1716, notSession, and_false, or_false] at recordings
      exact recordings.1.trans signed.symm
    · rw [if_neg signed] at recordings
      rcases recordings with ⟨-, same⟩ | ⟨-, same⟩ | ⟨-, same⟩
      · cases same
      · cases same
      · cases same

/-- A path with a newline is read back from its challenge, and the client's request of 2023 is
the one that its signature was made for. -/
theorem challenge_binds_clientRequest :
    bytesOf "/x\n" = [47, 120, 10] ∧
      (clientRequest "GET" "/x" "1700000000000" signatureOf2023).path = bytesOf "/x" := by
  constructor
  · have parts :=
      challenge_binds.1 (bytesOf "GET") (bytesOf "/x\n") [] userKey [71, 69, 84] [47, 120, 10]
        [] userKey 1700000000000 1700000000000 (by decide +kernel) (by decide +kernel)
        (by decide +kernel) (by decide +kernel) (by decide +kernel)
    exact parts.2.1
  · have signed :
        hexDecode (hexEncode signatureOf2023) =
          some
            (recordedSigner.sign
              (challengeBytes (bytesOf "GET") (bytesOf "/x") [] 1700000000000 userKey)) := by
      rw [hexDecode_hexEncode, challengeBytes_userKey]
      exact congrArg some (if_pos rfl).symm
    have parts :=
      challenge_binds.2 sessionKey recordedSigner (bytesOf "GET") (bytesOf "/x") []
        userKey 1700000000000 (replicaConfig ⟨60 * 1000000000, by decide⟩)
        (clientRequest "GET" "/x" "1700000000000" signatureOf2023) november2023 november2023
        userPrincipal 1700000000000 userChain (by decide +kernel) (by decide +kernel)
        (by decide +kernel) (by decide +kernel) clientRequest_passes_in2023 (by decide +kernel)
        (if_pos rfl) (publicED25519KeyFromDER_append rfl) signed
    exact parts.2.1

end RecordedSignature

end SsnConsole.IiAuth
