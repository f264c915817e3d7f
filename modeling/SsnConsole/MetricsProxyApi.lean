import SsnConsole.MessageRun

/-!
# The client of the metrics proxy

`MetricsProxyApi` keeps a session token until shortly before its expiry.  Calls
that find none wait for one mint, which the first of them starts; between the
awaits of all these calls anything may happen.
-/

namespace SsnConsole.Frontend

open SsnConsole.MessageRun

/-- A session token with its expiry. -/
structure ClientSession where
  token : String
  expiresAtMs : Int
  deriving DecidableEq

/-- `SESSION_REFRESH_BUFFER_MS`. -/
def SESSION_REFRESH_BUFFER_MS : Int := 30000

/-- What the client reads of an identity. -/
class ClientIdentity (Identity : Type) where
  /-- `instanceof DelegationIdentity`. -/
  isDelegation : Identity → Bool
  /-- `constructor.name`. -/
  constructorName : Identity → String

/-- What comes of the signature and the request of a mint. -/
inductive MintReply
  /-- The identity does not sign, or there is no response. -/
  | rejected (message : String)
  | response (status : Nat) (statusText text : String)
      (body : Except String ClientSession)

/-- A call of `getSessionToken`. -/
structure TokenCall (Identity : Type) where
  id : Nat
  identity : Identity

/-- A call of `mintSession` that waits for its response, with the promise that it settles. -/
structure MintCall (Identity : Type) where
  promise : Nat
  identity : Identity

/-- What a call of `getSessionToken` came to. -/
structure TokenAnswer (Identity : Type) where
  call : TokenCall Identity
  /-- The promise that the call waited for, if any. -/
  promise : Option Nat
  result : Except String String

/-- `MetricsProxyApi`, with the calls that its promises belong to. -/
structure MetricsProxyApi (Identity : Type) where
  session : Option ClientSession
  /-- `inflightSession`: the promise of a mint whose `finally` has not run. -/
  inflightSession : Option Nat
  minting : List (MintCall Identity)
  /-- Mints that have ended and whose `finally` has not run. -/
  settled : List (Nat × Except String String)
  /-- The calls that wait for a promise. -/
  waiting : List (Nat × TokenCall Identity)
  /-- How many promises and calls there were. -/
  promises : Nat
  calls : Nat
  answered : List (TokenAnswer Identity)

/-- What happens to the client. -/
inductive ClientEvent (Identity : Type)
  | call (identity : Identity) (now : Int)
  | reply (index : Nat) (reply : MintReply)
  | release (index : Nat)

/-- `ok` of a response. -/
def isOkStatus (status : Nat) : Bool :=
  decide (200 ≤ status) && decide (status ≤ 299)

/-- `mintSession` after its request. -/
def mintResult : MintReply → Except String ClientSession
  | .rejected message => .error message
  | .response status statusText text body =>
      if isOkStatus status then
        body
      else
        .error s!"metrics-proxy session {status} {statusText}: {text}"

namespace MetricsProxyApi

section Methods

variable {Identity : Type}

/-- The client of a new page. -/
def new : MetricsProxyApi Identity where
  session := none
  inflightSession := none
  minting := []
  settled := []
  waiting := []
  promises := 0
  calls := 0
  answered := []

/-- The session that `getSessionToken` returns without waiting, if any. -/
def freshSession (api : MetricsProxyApi Identity) (now : Int) : Option ClientSession :=
  api.session.filter fun session =>
    decide (now < session.expiresAtMs - SESSION_REFRESH_BUFFER_MS)

/-- The call that comes next. -/
def nextCall (api : MetricsProxyApi Identity) (identity : Identity) : TokenCall Identity :=
  ⟨api.calls, identity⟩

/-- `getSessionToken` with a session that is fresh. -/
def answerCached (api : MetricsProxyApi Identity) (identity : Identity)
    (session : ClientSession) : MetricsProxyApi Identity :=
  { api with
    calls := api.calls + 1
    answered := ⟨api.nextCall identity, none, .ok session.token⟩ :: api.answered }

/-- `getSessionToken` while a session is being minted. -/
def joinMint (api : MetricsProxyApi Identity) (identity : Identity) (promise : Nat) :
    MetricsProxyApi Identity :=
  { api with
    calls := api.calls + 1
    waiting := (promise, api.nextCall identity) :: api.waiting }

/-- `mintSession` after its last await. -/
def endMint (api : MetricsProxyApi Identity) (index : Nat) (mint : MintCall Identity)
    (result : Except String ClientSession) : MetricsProxyApi Identity :=
  let minting := api.minting.eraseIdx index
  match result with
  | .ok session =>
      { api with
        session := some session
        minting := minting
        settled := (mint.promise, .ok session.token) :: api.settled }
  | .error message =>
      { api with
        minting := minting
        settled := (mint.promise, .error message) :: api.settled }

/-- The `finally` of a mint, after which those who wait for its promise are answered. -/
def release (api : MetricsProxyApi Identity) (index : Nat) (promise : Nat)
    (result : Except String String) : MetricsProxyApi Identity :=
  let (answered, waiting) := api.waiting.partition fun waiter => waiter.1 == promise
  { api with
    inflightSession := none
    settled := api.settled.eraseIdx index
    waiting := waiting
    answered :=
      answered.map (fun waiter => ⟨waiter.2, some promise, result⟩) ++ api.answered }

variable [ClientIdentity Identity]

/-- The error of an identity that is not delegated. -/
def notDelegated (identity : Identity) : String :=
  s!"metrics-proxy: expected DelegationIdentity, got {ClientIdentity.constructorName identity}; " ++
    "user must be logged in via II with an Ed25519 session key"

/-- `mintSession` up to its first await. -/
def mintSession (api : MetricsProxyApi Identity) (identity : Identity) (promise : Nat) :
    MetricsProxyApi Identity :=
  if ClientIdentity.isDelegation identity then
    { api with minting := ⟨promise, identity⟩ :: api.minting }
  else
    { api with settled := (promise, .error (notDelegated identity)) :: api.settled }

/-- `getSessionToken` up to its first await. -/
def getSessionToken (api : MetricsProxyApi Identity) (identity : Identity) (now : Int) :
    MetricsProxyApi Identity :=
  match api.freshSession now with
  | some session => api.answerCached identity session
  | none =>
      match api.inflightSession with
      | some promise => api.joinMint identity promise
      | none =>
          let promise := api.promises
          { (api.mintSession identity promise).joinMint identity promise with
            inflightSession := some promise
            promises := api.promises + 1 }

/-- One event. -/
def step (api : MetricsProxyApi Identity) :
    ClientEvent Identity → Option (MetricsProxyApi Identity)
  | .call identity now => some (api.getSessionToken identity now)
  | .reply index reply =>
      (api.minting[index]?).map fun mint => api.endMint index mint (mintResult reply)
  | .release index =>
      (api.settled[index]?).map fun (promise, result) => api.release index promise result

end Methods

end MetricsProxyApi

end SsnConsole.Frontend
