import SsnConsole.HttpService
import SsnConsole.MailThrottle
import SsnConsole.MessageRun
import SsnConsole.UrlQuery

/-!
# The auth service

A request names an address, and the service mails a link with a signed token
there.  The answer never says whether it did.  Between the throttle, the signing
and the place among the sends in flight, requests interleave freely.
-/

namespace SsnConsole.AuthService

open SsnConsole.GoStandard
open SsnConsole.HttpService
open SsnConsole.UrlQuery

section Tokens

/-- The claims of a token; times are in seconds. -/
structure TokenClaims where
  issuedAt : Int
  expiry : Int
  email : Bytes
  purpose : Bytes
  deriving DecidableEq

/-- `mail.Address`. -/
structure MailAddress where
  name : Bytes
  address : Bytes

/-- What the service uses of `encoding/json`, `net/mail`, `html/template` and `go-jose`. -/
class AuthLibraries where
  /-- `Decode` of an `emailRequest`, without unknown fields. -/
  decodeEmailRequest : Bytes → Option Bytes
  /-- `mail.ParseAddress`. -/
  parseAddress : Bytes → Option MailAddress
  /-- `Execute` of a template at a link. -/
  execute : Bytes → Bytes → Option Bytes
  /-- `Serialize` of signed claims. -/
  serialize : TokenClaims → Option Bytes

open AuthLibraries

/-- `Time.Unix`, of a time in nanoseconds. -/
def unix (time : Int) : Int :=
  time / 1000000000

/-- `tokenTTL`. -/
def tokenTTL : Duration :=
  ⟨15 * (60 * 1000000000), by decide⟩

def purposeEmailVerification : Bytes :=
  bytesOf "email_verification"

def purposeAccountRecovery : Bytes :=
  bytesOf "account_recovery"

variable [AuthLibraries]

/-- `signPurposed` at a reading of the clock. -/
def signPurposed (now : Int) (email purpose : Bytes) (ttl : Duration) : Option Bytes :=
  serialize
    { issuedAt := unix now
      expiry := unix (now + ttl.nanoseconds)
      email := email
      purpose := purpose }

/-- `SignEmailVerification`. -/
def signEmailVerification (now : Int) (email : Bytes) (ttl : Duration) : Option Bytes :=
  signPurposed now email purposeEmailVerification ttl

/-- `SignAccountRecovery`. -/
def signAccountRecovery (now : Int) (email : Bytes) (ttl : Duration) : Option Bytes :=
  signPurposed now email purposeAccountRecovery ttl

end Tokens

section Flows

variable [AuthLibraries]

/-- `mintAndMailFlow`. -/
structure MintAndMailFlow where
  purpose : Bytes
  sign : Int → Bytes → Duration → Option Bytes
  frontendPath : Bytes
  subject : Bytes
  html : Bytes
  textTemplate : Bytes → Bytes

def verificationEmailHTML : Bytes :=
  bytesOf ("<p>Click <a href=\"\x7b\x7b.Link\x7d\x7d\">here</a> to sign in to SSN Console.</p>" ++
    "<p>This link will expire in 15 minutes.</p>")

def recoveryEmailHTML : Bytes :=
  bytesOf ("<p>Click <a href=\"\x7b\x7b.Link\x7d\x7d\">here</a> to recover access to your SSN " ++
    "Console account from a new Internet Identity.</p>" ++
    "<p>If you did not request this, you can ignore this email.</p>" ++
    "<p>This link will expire in 15 minutes.</p>")

def emailVerificationFlow : MintAndMailFlow where
  purpose := bytesOf "email_verification"
  sign := signEmailVerification
  frontendPath := bytesOf "/verify"
  subject := bytesOf "Swiss Subnet Email Verification"
  html := verificationEmailHTML
  textTemplate link :=
    bytesOf "Sign in to SSN Console by visiting this link: " ++ link ++
      bytesOf "\nThis link will expire in 15 minutes."

def accountRecoveryFlow : MintAndMailFlow where
  purpose := bytesOf "account_recovery"
  sign := signAccountRecovery
  frontendPath := bytesOf "/recover"
  subject := bytesOf "Swiss Subnet Account Recovery"
  html := recoveryEmailHTML
  textTemplate link :=
    bytesOf "Recover access to your SSN Console account by visiting this link: " ++ link ++
      bytesOf "\nIf you did not request this, you can ignore this email." ++
      bytesOf "\nThis link will expire in 15 minutes."

/-- The routes that mint and mail. -/
inductive Route
  | emailVerification
  | accountRecovery
  deriving DecidableEq

/-- The flow of a route. -/
def Route.flow : Route → MintAndMailFlow
  | .emailVerification => emailVerificationFlow
  | .accountRecovery => accountRecoveryFlow

end Flows

/-- What the service is configured with. -/
structure Deps where
  frontendURL : Bytes
  allowedOrigins : List Bytes
  smtpFrom : Bytes

/-- `Message`. -/
structure Message where
  sender : Bytes
  recipient : Bytes
  subject : Bytes
  html : Bytes
  text : Bytes
  deriving DecidableEq

/-- A request that the throttle let through, with its reading of the clock. -/
structure Admission where
  route : Route
  email : Bytes
  admittedAt : Int
  deriving DecidableEq

/-- A mail that is ready, with the request that it answers. -/
structure Mail where
  admission : Admission
  message : Message
  deriving DecidableEq

section Handler

variable [AuthLibraries]

/-- `validEmail`. -/
def validEmail (email : Bytes) : Bool :=
  (AuthLibraries.parseAddress email).any fun parsed =>
    parsed.address == email && parsed.name == []

/-- `maxRequestBody`. -/
def maxRequestBody : Nat := 1024

/-- The call of the throttle that a request makes. -/
def Admission.call (admission : Admission) : SendCall :=
  ⟨admission.route.flow.purpose, admission.email, admission.admittedAt⟩

/-- The address of a request, if its body is well formed and the address is valid. -/
def requestedEmail (body : Bytes) : Option Bytes :=
  (AuthLibraries.decodeEmailRequest (body.take maxRequestBody)).filter fun email =>
    validEmail email

/-- The link of a token. -/
def tokenLink (deps : Deps) (route : Route) (jwt : Bytes) : Bytes :=
  deps.frontendURL ++ route.flow.frontendPath ++ bytesOf "?token=" ++ queryEscape jwt

/-- The mail with a token. -/
def composeMail (deps : Deps) (admission : Admission) (now : Int) : Option Mail := do
  let flow := admission.route.flow
  let jwt ← flow.sign now admission.email tokenTTL
  let link := tokenLink deps admission.route jwt
  let html ← AuthLibraries.execute flow.html link
  some
    { admission := admission
      message :=
        { sender := deps.smtpFrom
          recipient := admission.email
          subject := flow.subject
          html := html
          text := flow.textTemplate link } }

/-- `maxInFlightSends`: the capacity of `sem`. -/
def maxInFlightSends : Nat := 32

/-- The service between two of its atomic steps. -/
structure AuthServer where
  throttle : Throttle
  /-- The last reading of the clock in the order of the throttle's lock. -/
  clock : Int
  /-- Requests that the throttle let through and whose mails are not ready. -/
  admitted : List Admission
  /-- Mails that are ready and still need a place among those in flight. -/
  composed : List Mail
  /-- Mails that are being sent; each holds one place in `sem`. -/
  inFlight : List Mail
  /-- Every mail that the mailer was given so far, the last one first. -/
  mailed : List Mail

/-- `New`. -/
def AuthServer.new (start : Int) : AuthServer where
  throttle := ∅
  clock := start
  admitted := []
  composed := []
  inFlight := []
  mailed := []

/-- What happens in the service. -/
inductive AuthEvent
  /-- A request comes in and gets the throttle's lock, with a reading that it took before. -/
  | receive (route : Route) (header : String → Bytes) (body : Bytes) (now : Int)
  /-- The handler of an admitted request signs a token and renders the mail. -/
  | compose (index : Nat) (now : Int)
  /-- A handler tries to take a place in `sem`. -/
  | launch (index : Nat)
  /-- `Send` returns, with or without an error, and the place is given back. -/
  | finish (index : Nat)

namespace AuthServer

/-- The part of `handleMintAndMail` before the token is signed. -/
def receive (server : AuthServer) (route : Route) (body : Bytes) (now : Int) :
    Option Nat × AuthServer :=
  match requestedEmail body with
  | none => (some 202, server)
  | some email =>
      let admission : Admission := ⟨route, email, now⟩
      let (allowed, throttle) := allowSend server.throttle admission.call
      if allowed then
        (none,
          { server with
            throttle := throttle
            clock := now
            admitted := admission :: server.admitted })
      else
        (some 202, { server with throttle := throttle, clock := now })

/-- The select on `sem`: the mail is sent if there is a place, and dropped if not. -/
def launch (server : AuthServer) (index : Nat) (mail : Mail) : AuthServer :=
  let composed := server.composed.eraseIdx index
  if server.inFlight.length < maxInFlightSends then
    { server with
      composed := composed
      inFlight := mail :: server.inFlight
      mailed := mail :: server.mailed }
  else
    { server with composed := composed }

/-- One atomic step: the status that a handler answers with, if it ends, and the service after
it.  A handler reads the clock before it gets the throttle's lock, so a reading may be earlier
than that of the handler before it. -/
def serve (deps : Deps) (server : AuthServer) :
    AuthEvent → Option (Option Nat × AuthServer)
  | .receive route header body now =>
      match withCORS deps.allowedOrigins (header "Origin") with
      | .error (status, _) => some (some status, server)
      | .ok _ => some (server.receive route body now)
  | .compose index now =>
      (server.admitted[index]?).map fun admission =>
        let admitted := server.admitted.eraseIdx index
        match composeMail deps admission now with
        | none => (some 202, { server with admitted := admitted })
        | some mail =>
            (none, { server with admitted := admitted, composed := mail :: server.composed })
  | .launch index =>
      (server.composed[index]?).map fun mail => (some 202, server.launch index mail)
  | .finish index =>
      if index < server.inFlight.length then
        some (none, { server with inFlight := server.inFlight.eraseIdx index })
      else
        none

/-- The service after one atomic step. -/
def step (deps : Deps) (server : AuthServer) (event : AuthEvent) : Option AuthServer :=
  (server.serve deps event).map Prod.snd

end AuthServer

end Handler

end SsnConsole.AuthService
