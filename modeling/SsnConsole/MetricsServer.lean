import SsnConsole.AuthCache
import SsnConsole.HttpService
import SsnConsole.IiAuth
import SsnConsole.MetricsQueries
import SsnConsole.Sessions

/-!
# The metrics proxy

A client proves its principal once and gets a session token for it.  A request
for a metric presents the token, is checked against the canisters that the
principal may read, and is sent on to Grafana.  Requests are served side by side:
they share the session store and the authorization cache, and wait for the lock
of the one and for the authorizer behind the other.
-/

namespace SsnConsole.MetricsProxy

open SsnConsole.AgentGo
open SsnConsole.GoStandard
open SsnConsole.HttpService
open SsnConsole.IiAuth
open SsnConsole.MessageRun
open ProxyLibraries

section Requests

/-- `APIPrefix`. -/
def apiPrefix : String :=
  "/v0/metrics"

/-- `Deps` without the upstreams. -/
structure Deps where
  allowedOrigins : List Bytes
  iiAuth : IiAuth.Config
  authCacheTTL : Duration
  sessionTTL : Duration

/-- The lifetime of a list of canisters that is in force. -/
def Deps.ttl (deps : Deps) : Duration :=
  if deps.authCacheTTL.nanoseconds = 0 then ⟨60 * second, by decide⟩ else deps.authCacheTTL

/-- The lifetime of a session that is in force. -/
def Deps.sessions (deps : Deps) : Duration :=
  if deps.sessionTTL.nanoseconds = 0 then ⟨15 * 60 * second, by decide⟩ else deps.sessionTTL

/-- A request for a metric of a canister, or for the list of metrics; what is missing reads as
empty. -/
structure MetricsRequest where
  header : String → Bytes
  canisterID : String
  slug : String
  query : String → Bytes

/-- `bearerToken`. -/
def bearerToken (header : String → Bytes) : Option Bytes :=
  let h := header "Authorization"
  let scheme := bytesOf "Bearer "
  if scheme.isPrefixOf h then
    let token := trimSpace (h.drop scheme.length)
    if token = [] then none else some token
  else
    none

/-- `grafana.QueryRangeRequest`. -/
structure QueryRangeRequest where
  query : String
  start : Int
  stop : Int
  step : Duration

/-- What becomes of a request: an answer, or a query to Grafana. -/
inductive Outcome
  | error (status : Nat) (message : String)
  | session (token : Bytes) (expiresAtMS : Int)
  | metrics (list : List Metric)
  | forward (metric : Metric) (query : QueryRangeRequest)

/-- The answer to a foreign origin, if the origin is foreign. -/
def foreignOrigin (deps : Deps) (header : String → Bytes) : Option Outcome :=
  match withCORS deps.allowedOrigins (header "Origin") with
  | .error (status, message) => some (.error status message)
  | .ok _ => none

/-- An origin that is not foreign is missing or configured. -/
theorem origin_of_foreignOrigin
    {deps : Deps}
    {header : String → Bytes}
    (domestic : foreignOrigin deps header = none) :
    header "Origin" = [] ∨ header "Origin" ∈ deps.allowedOrigins := by
  unfold foreignOrigin at domestic
  cases passed : withCORS deps.allowedOrigins (header "Origin") with
  | error refusal =>
      rw [passed] at domestic
      cases domestic
  | ok headers =>
      exact origin_of_withCORS passed

end Requests

section Handlers

variable [ProxyLibraries]

/-- The query for a metric of a canister. -/
def promQuery (metric : Metric) (canisterID : String) : String :=
  s!"{metric.series}" ++ "\x7bcanister_id=" ++ quote canisterID ++ "\x7d"

/-- `handleQueryRange` after the verdict of the cache, up to the call of Grafana. -/
def concludeQuery {ε : Type} (verdict : Except ε Bool) (request : MetricsRequest) (now : Int) :
    Outcome :=
  match verdict with
  | .error _ => .error 502 "authorization lookup failed"
  | .ok false => .error 403 "not authorized for this canister"
  | .ok true =>
      match lookup request.slug with
      | none => .error 404 "unknown metric"
      | some metric =>
          match parseRange request.query now with
          | .error message => .error 400 message
          | .ok (start, stop, step) =>
              .forward metric ⟨promQuery metric request.canisterID, start, stop, step⟩

/-- Grafana is asked only for what the client named, under the bounds, and only if the cache
allows it. -/
theorem concludeQuery_eq_forward
    {ε : Type}
    {verdict : Except ε Bool}
    {request : MetricsRequest}
    {now : Int}
    {metric : Metric}
    {query : QueryRangeRequest}
    (forwarded : concludeQuery verdict request now = .forward metric query) :
    verdict = .ok true ∧ metric ∈ catalogue ∧ metric.slug = request.slug ∧
      query.query = promQuery metric request.canisterID ∧
        Bounded query.start query.stop query.step := by
  cases verdict with
  | error failure =>
      cases forwarded
  | ok allowed =>
      cases allowed with
      | false =>
          cases forwarded
      | true =>
          simp only [concludeQuery] at forwarded
          cases found : lookup request.slug with
          | none =>
              rw [found] at forwarded
              cases forwarded
          | some entry =>
              rw [found] at forwarded
              cases read : parseRange request.query now with
              | error message =>
                  rw [read] at forwarded
                  cases forwarded
              | ok range =>
                  obtain ⟨start, stop, step⟩ := range
                  rw [read] at forwarded
                  cases forwarded
                  obtain ⟨-, -, -, bounded⟩ := parseRange_eq_ok_iff.mp read
                  obtain ⟨member, named⟩ := mem_catalogue_of_lookup found
                  exact ⟨rfl, member, named, rfl, bounded⟩

end Handlers

section Server

/-- A request for a metric whose session was found. -/
structure Admitted where
  request : MetricsRequest
  caller : Principal

/-- The call of the cache that a request makes. -/
def Admitted.call (admitted : Admitted) (now : Int) : WaitingCall :=
  ⟨admitted.caller, admitted.request.canisterID, now⟩

/-- `Server`: the session store and the cache, the requests that have a session and have not
asked the cache, and those behind the calls that wait for the authorizer, in their order. -/
structure MetricsServer where
  sessions : Sessions
  cache : AuthCache
  admitted : List Admitted
  asking : List Admitted

/-- `New`, with a configuration that validates. -/
def MetricsServer.new (deps : Deps) (clock : Int) : MetricsServer :=
  ⟨.new deps.sessions clock, .new clock, [], []⟩

/-- A request arrives, gets the lock of the session store, calls the cache, or is told by the
authorizer. -/
inductive ServerEvent (ε : Type)
  | session (request : Request) (skewReading expiryReading : Instant)
      (random : Option (Vector UInt8 32)) (now : Int)
  | minted (index : Nat)
  | list (request : MetricsRequest) (now : Int)
  | query (request : MetricsRequest) (now : Int)
  | authorize (index : Nat) (now rangeNow : Int)
  | reply (index : Nat) (reply : AuthorizerReply ε) (rangeNow : Int)

/-- A request that the mux sends to the session endpoint. -/
def isSessionRoute (request : Request) : Bool :=
  request.method == bytesOf "POST" && request.path == bytesOf (apiPrefix ++ "/session")

/-- `SessionMiddleware`: the principal of the session, or an answer. -/
def sessionMiddleware (store : SessionStore) (header : String → Bytes) (now : Int) :
    Except Outcome Principal :=
  match bearerToken header with
  | none => .error (.error 401 "missing or malformed Authorization header")
  | some token =>
      match (store.lookup now token).1 with
      | (principal, true) => .ok principal
      | (_, false) => .error (.error 401 "session expired or unknown")

/-- The middleware passes on the principal of a session that its token finds. -/
theorem found_of_sessionMiddleware
    {store : SessionStore}
    {header : String → Bytes}
    {now : Int}
    {caller : Principal}
    (passed : sessionMiddleware store header now = .ok caller) :
    ∃ token, bearerToken header = some token ∧ (store.lookup now token).1 = (caller, true) := by
  unfold sessionMiddleware at passed
  cases sent : bearerToken header with
  | none =>
      rw [sent] at passed
      cases passed
  | some token =>
      rw [sent] at passed
      simp only at passed
      rcases SessionStore.lookup_cases store now token with missing | ⟨principal, found⟩
      · rw [missing] at passed
        cases passed
      · rw [found] at passed
        cases passed
        exact ⟨token, rfl, found⟩

/-- What `SessionMiddleware` does to the store. -/
def lookupSession (sessions : Sessions) (header : String → Bytes) (now : Int) :
    Option Sessions :=
  match bearerToken header with
  | none => some sessions
  | some token => sessions.step (.lookup token now)

variable [Certification] [PrincipalText] [ProxyLibraries] {ε : Type}

namespace MetricsServer

/-- The outcome that an event gives to a request, if any, and the server after it. -/
def serve (deps : Deps) (server : MetricsServer) :
    ServerEvent ε → Option (Option Outcome × MetricsServer)
  | .session request skewReading expiryReading random now =>
      if isSessionRoute request then
        match foreignOrigin deps request.header with
        | some refusal => some (some refusal, server)
        | none =>
            match serveHTTP deps.iiAuth request skewReading expiryReading with
            | .unauthorized message => some (some (.error 401 message), server)
            | .next principal =>
                (server.sessions.step (.mint principal random now)).map fun sessions =>
                  (if random.isNone then some (.error 500 "session mint failed") else none,
                    { server with sessions := sessions })
      else
        none
  | .minted index =>
      (server.sessions.minting[index]?).bind fun minting =>
        (server.sessions.step (.minted index)).map fun sessions =>
          let (token, expiresAt) := (server.sessions.store.finishMint minting).1
          (some (.session token (expiresAt / 1000000)), { server with sessions := sessions })
  | .list request now =>
      match foreignOrigin deps request.header with
      | some refusal => some (some refusal, server)
      | none =>
          (lookupSession server.sessions request.header now).map fun sessions =>
            (match sessionMiddleware server.sessions.store request.header now with
              | .error refusal => some refusal
              | .ok _ => some (.metrics catalogue),
              { server with sessions := sessions })
  | .query request now =>
      match foreignOrigin deps request.header with
      | some refusal => some (some refusal, server)
      | none =>
          (lookupSession server.sessions request.header now).map fun sessions =>
            let server' := { server with sessions := sessions }
            match sessionMiddleware server.sessions.store request.header now with
            | .error refusal => (some refusal, server')
            | .ok caller =>
                match decodePrincipal request.canisterID with
                | .error message => (some (.error 400 s!"invalid canister id: {message}"), server')
                | .ok _ =>
                    (none, { server' with admitted := server.admitted ++ [⟨request, caller⟩] })
  | .authorize index now rangeNow =>
      (server.admitted[index]?).bind fun admitted =>
        (server.cache.serve (ε := ε) deps.ttl.nanoseconds (.call (admitted.call now))).map
          fun (verdict, cache) =>
            let server' :=
              { server with cache := cache, admitted := server.admitted.eraseIdx index }
            match verdict with
            | none => (none, { server' with asking := server.asking ++ [admitted] })
            | some verdict => (some (concludeQuery verdict admitted.request rangeNow), server')
  | .reply index reply rangeNow =>
      (server.asking[index]?).bind fun admitted =>
        (server.cache.serve deps.ttl.nanoseconds (.reply index reply)).map
          fun (verdict, cache) =>
            (verdict.map fun verdict => concludeQuery verdict admitted.request rangeNow,
              { server with cache := cache, asking := server.asking.eraseIdx index })

/-- One event. -/
def step (deps : Deps) (server : MetricsServer) (event : ServerEvent ε) : Option MetricsServer :=
  (server.serve deps event).map Prod.snd

end MetricsServer

end Server

end SsnConsole.MetricsProxy
