import SsnConsole.AgentGo
import SsnConsole.GoStandard
import SsnConsole.MessageSlice

/-!
# Authentication with Internet Identity delegations

The middleware `iiauth` takes a delegation chain, a timestamp and a signature
from the headers of a request.  It walks the chain from a canister signature of
Internet Identity to the session key, and checks that this key signed a
challenge made of the request itself.
-/

namespace SsnConsole.IiAuth

open SsnConsole.AgentGo
open SsnConsole.GoStandard
open SsnConsole.MessageSlice (bind_eq_ok)

/-- `ii.Delegation`, as far as it is read here. -/
structure Delegation where
  publicKey : Bytes
  expiration : UInt64
  targets : List Principal
  deriving DecidableEq

/-- `ii.SignedDelegation`. -/
structure SignedDelegation where
  delegation : Delegation
  signature : Bytes
  deriving DecidableEq

/-- `ii.DelegationChain`. -/
structure DelegationChain where
  delegations : List SignedDelegation
  publicKey : Bytes
  deriving DecidableEq

/-- `ii.CanisterSigPublicKey`. -/
structure CanisterSigPublicKey where
  canisterID : Principal
  seed : Bytes

/-- What the middleware uses of `agent-go`, `cbor` and the cryptography of Go. -/
class Certification where
  Certificate : Type
  HashTree : Type
  /-- `json.Unmarshal` into a chain. -/
  unmarshalChain : Bytes → Option DelegationChain
  canisterSigPublicKeyFromDER : Bytes → Except String CanisterSigPublicKey
  publicED25519KeyFromDER : Bytes → Except String Bytes
  signatureMessage : Delegation → Except String Bytes
  /-- `cbor.Unmarshal` of a canister signature: a certificate and a tree. -/
  unmarshalWrapper : Bytes → Except String (Bytes × HashTree)
  /-- `cbor.Unmarshal` of a certificate. -/
  unmarshalCertificate : Bytes → Except String Certificate
  digest : HashTree → Bytes
  /-- `HashTree.Lookup`. -/
  treeLookup : HashTree → List Bytes → Except String Bytes
  verifyCertifiedData : Certificate → Principal → Bytes → Bytes → Except String Unit
  sha256 : Bytes → Bytes
  ed25519Verify : Bytes → Bytes → Bytes → Bool
  newSelfAuthenticating : Bytes → Principal

open Certification

/-- `Config`, with its clock left out: its readings come with each request. -/
structure Config where
  iiCanisterID : Principal
  rootPublicKey : Bytes
  skewWindow : Duration
  allowEmptyChain : Bool

namespace Config

/-- `Config.Validate`. -/
def validate (config : Config) : Except String Unit :=
  if config.allowEmptyChain then
    .ok ()
  else if config.iiCanisterID.raw.length = 0 then
    .error "iiauth: IICanisterID must be set"
  else if config.rootPublicKey.length = 0 then
    .error "iiauth: RootPublicKey must be set"
  else
    .ok ()

/-- The window in force: a minute unless one is set. -/
def skew (config : Config) : Duration :=
  if config.skewWindow.nanoseconds = 0 then
    ⟨60 * 1000000000, by decide⟩
  else
    config.skewWindow

end Config

/-- A reading of the clock that `UnixNano` can express. -/
structure Instant where
  unixNano : Int
  representable : -2 ^ 63 ≤ unixNano ∧ unixNano < 2 ^ 63

/-- `uint64(t.UnixNano())`: readings before 1970 wrap. -/
def Instant.toUInt64 (instant : Instant) : UInt64 :=
  UInt64.ofNat (instant.unixNano % 2 ^ 64).toNat

/-- What the middleware reads of a request; a missing header is empty. -/
structure Request where
  method : Bytes
  path : Bytes
  rawQuery : Bytes
  header : String → Bytes

def headerDelegation : String := "X-IC-Delegation"
def headerSignature : String := "X-IC-Signature"
def headerTimestamp : String := "X-IC-Timestamp"

/-- The outcome of a request: refused with a message, or passed on with its principal. -/
inductive Served
  | unauthorized (message : String)
  | next (principal : Principal)
  deriving DecidableEq

/-- Refuse when a condition holds. -/
def rejectWhen (condition : Bool) (message : String) : Except String Unit :=
  if condition then .error message else .ok ()

/-- Use a value, or refuse without it. -/
def required {α : Type} (value : Option α) (message : String) : Except String α :=
  match value with
  | some value => .ok value
  | none => .error message

/-- Put a context in front of an error, as `%w` does. -/
def wrapped {α : Type} (context : String) (result : Except String α) : Except String α :=
  result.mapError fun error => s!"{context}: {error}"

variable [Certification]

/-- `verifyCanisterSignedDelegation`. -/
def verifyCanisterSignedDelegation (sd : SignedDelegation) (canisterSig : CanisterSigPublicKey)
    (rootPublicKey : Bytes) (currentTimeNS : UInt64) : Except String Unit := do
  rejectWhen (decide (sd.delegation.expiration < currentTimeNS)) "expired"
  let message ← signatureMessage sd.delegation
  let (certificate, tree) ← wrapped "decode sig wrapper" (unmarshalWrapper sd.signature)
  let cert ← wrapped "decode certificate" (unmarshalCertificate certificate)
  wrapped "verify certificate"
    (verifyCertifiedData cert canisterSig.canisterID rootPublicKey (digest tree))
  let _ ← wrapped "witness lookup"
    (treeLookup tree [bytesOf "sig", sha256 canisterSig.seed, sha256 message])
  return ()

/-- `verifyEd25519SignedDelegation`. -/
def verifyEd25519SignedDelegation (sd : SignedDelegation) (signerKey : Bytes)
    (currentTimeNS : UInt64) : Except String Unit := do
  rejectWhen (decide (sd.delegation.expiration < currentTimeNS)) "expired"
  let message ← signatureMessage sd.delegation
  rejectWhen (!ed25519Verify signerKey message sd.signature) "signature mismatch"

/-- The loop over the links from `index` on: each is checked with the key of the link
before it. -/
def verifyRemaining (currentTimeNS : UInt64) :
    Nat → SignedDelegation → List SignedDelegation → Except String Unit
  | _, _, [] => .ok ()
  | index, previous, sd :: rest => do
      let signerKey ←
        wrapped s!"delegation[{index}] signer"
          (publicED25519KeyFromDER previous.delegation.publicKey)
      wrapped s!"delegation[{index}]" (verifyEd25519SignedDelegation sd signerKey currentTimeNS)
      verifyRemaining currentTimeNS (index + 1) sd rest

/-- `VerifyDelegationChain`: the principal of the chain and the key of its last link. -/
def verifyDelegationChain (dc : DelegationChain) (currentTimeNS : UInt64)
    (iiCanisterID : Principal) (rootPublicKey : Bytes) : Except String (Principal × Bytes) :=
  match dc.delegations with
  | [] => .ok (newSelfAuthenticating dc.publicKey, dc.publicKey)
  | first :: rest => do
      let canisterSig ← wrapped "parse root pubkey" (canisterSigPublicKeyFromDER dc.publicKey)
      rejectWhen (decide (canisterSig.canisterID.raw ≠ iiCanisterID.raw))
        "delegation not anchored to expected II canister"
      wrapped "delegation[0]"
        (verifyCanisterSignedDelegation first canisterSig rootPublicKey currentTimeNS)
      verifyRemaining currentTimeNS 1 first rest
      return (newSelfAuthenticating dc.publicKey,
        ((first :: rest).getLast (by simp)).delegation.publicKey)

/-- `VerifyChallengeSignature`. -/
def verifyChallengeSignature (sessionPubKeyDER challenge sig : Bytes) : Except String Unit := do
  let key ← wrapped "parse session pubkey" (publicED25519KeyFromDER sessionPubKeyDER)
  rejectWhen (!ed25519Verify key challenge sig) "challenge signature mismatch"

/-- `ChallengeBytes`. -/
def challengeBytes (method path query : Bytes) (timestampMillis : Int) (chainPubKey : Bytes) :
    Bytes :=
  method ++ 10 :: path ++ 10 :: query ++ 10 :: bytesOf (toString timestampMillis) ++
    10 :: hexEncode (sha256 chainPubKey)

/-- The checks of the handler, up to the principal that it passes on. -/
def authenticate (config : Config) (request : Request) (skewReading expiryReading : Instant) :
    Except String Principal := do
  let tsStr := request.header headerTimestamp
  rejectWhen (decide (tsStr = [])) s!"missing {headerTimestamp}"
  let tsMillis ← required (parseInt64 tsStr) s!"invalid {headerTimestamp}"
  let d := timeSub skewReading.unixNano (tsMillis * 1000000)
  rejectWhen
    (decide (config.skew.nanoseconds < d.nanoseconds) ||
      decide (d.nanoseconds < config.skew.neg.nanoseconds))
    "timestamp outside skew window"
  let delegationHdr := request.header headerDelegation
  rejectWhen (decide (delegationHdr = [])) s!"missing {headerDelegation}"
  let dc ← required (unmarshalChain delegationHdr) s!"invalid {headerDelegation}"
  rejectWhen (!config.allowEmptyChain && decide (dc.delegations.length = 0))
    "empty delegation chain rejected; II login required"
  let sigHex := request.header headerSignature
  rejectWhen (decide (sigHex = [])) s!"missing {headerSignature}"
  let sig ← required (hexDecode sigHex) s!"invalid {headerSignature}"
  let (callerPrincipal, sessionPubKey) ←
    wrapped "delegation chain"
      (verifyDelegationChain dc expiryReading.toUInt64 config.iiCanisterID
        config.rootPublicKey)
  let challenge :=
    challengeBytes request.method request.path request.rawQuery tsMillis dc.publicKey
  wrapped "challenge" (verifyChallengeSignature sessionPubKey challenge sig)
  return callerPrincipal

/-- The handler: it reads the clock for the timestamp and again for the chain. -/
def serveHTTP (config : Config) (request : Request) (skewReading expiryReading : Instant) :
    Served :=
  match authenticate config request skewReading expiryReading with
  | .ok principal => .next principal
  | .error message => .unauthorized message

/-- `Middleware`: a configuration that does not validate panics. -/
def middleware (config : Config) :
    Except String (Request → Instant → Instant → Served) := do
  config.validate
  return serveHTTP config

end SsnConsole.IiAuth
