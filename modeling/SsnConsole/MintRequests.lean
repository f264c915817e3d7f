import SsnConsole.ChallengeEncoding
import SsnConsole.LiveSessions

/-!
# Requests for a session

The frontend asks for a session with what its identity holds: a chain of delegations
and a session key.  Written by the frontend and read by the proxy, these are the
same, so a client whose chain is in order is never turned away.
-/

namespace SsnConsole.MetricsProxy

open SsnConsole.AgentGo
open SsnConsole.Frontend (SESSION_REFRESH_BUFFER_MS)
open SsnConsole.GoStandard
open SsnConsole.IiAuth
open SsnConsole.MessageRun
open Certification
open ProxyLibraries

section Frontend

variable [Certification]

/-- What an identity that Internet Identity delegated to gives. -/
structure SessionIdentity where
  /-- `getDelegation`. -/
  chain : DelegationChain
  /-- `JSON.stringify(delegation.toJSON())`. -/
  delegationJSON : Bytes
  /-- `sign`, with the session key. -/
  sign : Bytes → Bytes

/-- The request that `mintSession` makes; what it does not set is the browser's. -/
def mintRequest (identity : SessionIdentity) (timestampMillis : Nat)
    (browser : String → Bytes) : Request where
  method := bytesOf "POST"
  path := bytesOf sessionPath
  rawQuery := []
  header name :=
    if name = headerDelegation then
      identity.delegationJSON
    else if name = headerSignature then
      hexEncode (identity.sign (mintSessionChallenge timestampMillis identity.chain.publicKey))
    else if name = headerTimestamp then
      bytesOf (toString timestampMillis)
    else
      browser name

/-- An identity with a chain that is in order, written as it is read, and with a session key that
signs a challenge. -/
structure LoggedIn (config : Config) (identity : SessionIdentity) (reading : Instant)
    (challenge : Bytes) : Prop where
  order : ChainInOrder config identity.chain reading
  present : identity.delegationJSON ≠ []
  readable : unmarshalChain identity.delegationJSON = some identity.chain
  signs : SignedBy identity.chain.leafKey challenge (identity.sign challenge)
  signature : identity.sign challenge ≠ []

/-- The frontend's request of an identity that is logged in passes the middleware. -/
theorem mintRequest_passes
    {config : Config}
    {identity : SessionIdentity}
    {timestampMillis : Nat}
    {browser : String → Bytes}
    {skewReading reading : Instant}
    (fits : timestampMillis < 2 ^ 63)
    (inTime :
      |skewReading.unixNano - timestampMillis * 1000000| ≤ config.skew.nanoseconds)
    (loggedIn :
      LoggedIn config identity reading
        (mintSessionChallenge timestampMillis identity.chain.publicKey)) :
    serveHTTP config (mintRequest identity timestampMillis browser) skewReading reading =
      .next (newSelfAuthenticating identity.chain.publicKey) := by
  refine
    serveHTTP_eq_next (parseInt64_toString fits) loggedIn.present loggedIn.readable
      (hexEncode_ne_nil loggedIn.signature) (hexDecode_hexEncode _) (within_window inTime)
      loggedIn.order ?_
  have signs := loggedIn.signs
  rw [mintSessionChallenge_eq] at signs ⊢
  exact signs

end Frontend

section RoundTrip

variable [Certification] [PrincipalText] [ProxyLibraries] {ε : Type} {deps : Deps} {start : Int}

namespace MetricsRun

variable {run : MetricsRun ε deps start} {time : Nat}

omit [Certification] [PrincipalText] [ProxyLibraries] in
/-- A call of `Mint` with random bytes waits for the lock. -/
private theorem mem_minting_of_mint
    {sessions after : Sessions}
    {principal : Principal}
    {random : Vector UInt8 32}
    {now : Int}
    (stepped : sessions.step (.mint principal (some random) now) = some after) :
    ⟨hexEncode random.toList, principal, now⟩ ∈ after.minting := by
  simp only [Sessions.step] at stepped
  split at stepped
  · cases stepped
    simp [SessionStore.beginMint]
  · cases stepped

omit [PrincipalText] [ProxyLibraries] in
/-- The frontend asks where sessions are given. -/
private theorem isSessionRoute_mintRequest
    {identity : SessionIdentity}
    {timestampMillis : Nat}
    {browser : String → Bytes} :
    isSessionRoute (mintRequest identity timestampMillis browser) = true := by
  have path : sessionPath = apiPrefix ++ "/session" := by decide
  simp [isSessionRoute, mintRequest, path]

/-- A token was drawn by the one request that draws its bytes. -/
private theorem proves_of_proved
    {requested : Nat}
    {random : Vector UInt8 32}
    {principal : Principal}
    {now : Int}
    (distinct : run.DistinctRandom)
    (inside : requested < run.length)
    (within : time ≤ run.length)
    (draws : run.Draws requested random)
    (proved : run.Proved time (hexEncode random.toList) principal now) :
    MetricsServer.Proves deps (run.event requested) principal random now := by
  obtain ⟨earlier, before, bytes, text, proves⟩ := proved
  obtain rfl : random = bytes := Vector.toList_inj.mp (hexEncode_injective text)
  have earlierDraws : run.Draws earlier random := by
    obtain ⟨request, skewReading, expiryReading, -, -, -, event, -⟩ := proves
    exact ⟨request, skewReading, expiryReading, now, event⟩
  obtain rfl :=
    distinct earlier requested random (before.trans_le within) inside earlierDraws draws
  exact proves

omit [PrincipalText] [ProxyLibraries] in
/-- What the frontend's request proves is the principal of its own chain. -/
private theorem eq_of_proves
    {event : ServerEvent ε}
    {identity : SessionIdentity}
    {timestampMillis : Nat}
    {browser : String → Bytes}
    {skewReading reading : Instant}
    {random : Vector UInt8 32}
    {principal : Principal}
    {mintNow now : Int}
    (requests :
      event =
        .session (mintRequest identity timestampMillis browser) skewReading reading
          (some random) mintNow)
    (readable : unmarshalChain identity.delegationJSON = some identity.chain)
    (proves : MetricsServer.Proves deps event principal random now) :
    principal = newSelfAuthenticating identity.chain.publicKey ∧ now = mintNow := by
  obtain ⟨request, skew, expiry, sentMillis, chain, signature, same, -, -, -, authenticated⟩ :=
    proves
  rw [requests] at same
  cases same
  obtain rfl : identity.chain = chain :=
    Option.some.inj (readable.symm.trans authenticated.chainSent)
  exact ⟨authenticated.principal, rfl⟩

/--
A client that is logged in is let in and stays so: its request for a session is
not refused, and with the token that it draws the client's queries for a canister
id that decodes go on as ones of the principal of its own chain, for as long as
the client finds the session fresh and its queries arrive within the margin.
-/
theorem session_roundTrip
    (run : MetricsRun ε deps start)
    (distinct : run.DistinctRandom)
    (identity : SessionIdentity)
    (timestampMillis requested : Nat)
    (browser : String → Bytes)
    (skewReading reading : Instant)
    (random : Vector UInt8 32)
    (mintNow : Int)
    (inside : requested < run.length)
    (requests :
      run.event requested =
        .session (mintRequest identity timestampMillis browser) skewReading reading
          (some random) mintNow)
    (domestic :
      foreignOrigin deps (mintRequest identity timestampMillis browser).header = none)
    (fits : timestampMillis < 2 ^ 63)
    (inTime :
      |skewReading.unixNano - timestampMillis * 1000000| ≤ deps.iiAuth.skew.nanoseconds)
    (loggedIn :
      LoggedIn deps.iiAuth identity reading
        (mintSessionChallenge timestampMillis identity.chain.publicKey)) :
    (∃ after,
        (run.state requested).serve deps (run.event requested) = some (none, after) ∧
          ⟨hexEncode random.toList, newSelfAuthenticating identity.chain.publicKey, mintNow⟩ ∈
            after.sessions.minting) ∧
      ∀ minted asked expiresAtMS request clientNow now,
        minted < asked → asked < run.length →
          ((run.state minted).serve deps (run.event minted)).bind Prod.fst =
              some (.session (hexEncode random.toList) expiresAtMS) →
            run.event asked = .query request now → foreignOrigin deps request.header = none →
              request.header "Authorization" =
                  bytesOf "Bearer " ++ hexEncode random.toList →
                clientNow < expiresAtMS - SESSION_REFRESH_BUFFER_MS →
                  now ≤ (clientNow + SESSION_REFRESH_BUFFER_MS) * 1000000 →
                    decodePrincipal request.canisterID = .ok () →
                      ∃ after,
                        (run.state asked).serve deps (run.event asked) = some (none, after) ∧
                          after.admitted =
                            (run.state asked).admitted ++
                              [⟨request, newSelfAuthenticating identity.chain.publicKey⟩] := by
  have passes :
      serveHTTP deps.iiAuth (mintRequest identity timestampMillis browser) skewReading
          reading =
        .next (newSelfAuthenticating identity.chain.publicKey) :=
    mintRequest_passes fits inTime loggedIn
  have called :
      sessionEvent deps (run.event requested) =
        some
          (.mint (newSelfAuthenticating identity.chain.publicKey) (some random) mintNow) := by
    simp [requests, sessionEvent, domestic, passes]
  have draws : run.Draws requested random := ⟨_, _, _, _, requests⟩
  constructor
  · have stepped := sessions_of_step (run.advances requested inside)
    rw [called] at stepped
    have route :
        isSessionRoute (mintRequest identity timestampMillis browser) = true :=
      isSessionRoute_mintRequest
    refine ⟨{ run.state requested with sessions := (run.state (requested + 1)).sessions }, ?_, ?_⟩
    · rw [requests]
      simp only [MetricsServer.serve, route, if_true, domestic, passes, stepped, Option.map_some]
      rfl
    · exact mem_minting_of_mint stepped
  · intro minted asked expiresAtMS request clientNow now before within returned event queried sent
      fresh prompt named
    obtain ⟨index, minting, gotLock, waiting, token, rfl⟩ := minted_of_session returned
    have inMinted := (before.trans within).le
    have sound := sessionsSound inMinted
    have proved := sound.minting minting (List.mem_of_getElem? waiting)
    rw [← token] at proved
    obtain ⟨own, -⟩ :=
      eq_of_proves requests loggedIn.readable
        (proves_of_proved distinct inside inMinted draws proved)
    rw [sound.ttl] at fresh
    rw [token] at sent
    obtain ⟨outcome, after, served, becomes⟩ :=
      query_of_minting distinct before within gotLock waiting event queried sent
        (alive_of_fresh fresh prompt)
    rcases becomes with ⟨-, rfl, admitted⟩ | ⟨message, unnamed, -⟩
    · rw [own] at admitted
      exact ⟨after, served, admitted⟩
    · rw [named] at unnamed
      cases unnamed

end MetricsRun

end RoundTrip

section RecordedIdentity

attribute [local instance] recorded userTexts recordedLibraries

/-- The client of the recorded run, whose session signs the challenge. -/
def recordedIdentity : SessionIdentity where
  chain := userChain
  delegationJSON := userChainHeader
  sign message :=
    if message = userChallenge "POST" "/v0/metrics/session" 1700000000000 then
      sessionSignature
    else
      []

/-- The challenge that the frontend signs is the recorded one. -/
private theorem mintSessionChallenge_userKey :
    mintSessionChallenge 1700000000000 userKey =
      userChallenge "POST" "/v0/metrics/session" 1700000000000 := by
  have path : sessionPath = "/v0/metrics/session" := by decide
  rw [mintSessionChallenge_eq, path]
  exact challengeBytes_userKey "POST" "/v0/metrics/session" 1700000000000

/-- The client of the recorded run is logged in, with a chain of two links. -/
private theorem recordedIdentity_loggedIn :
    LoggedIn recordedDeps.iiAuth recordedIdentity november2023
      (mintSessionChallenge 1700000000000 recordedIdentity.chain.publicKey) := by
  have challenge :
      mintSessionChallenge 1700000000000 recordedIdentity.chain.publicKey =
        userChallenge "POST" "/v0/metrics/session" 1700000000000 :=
    mintSessionChallenge_userKey
  have signed :
      recordedIdentity.sign (userChallenge "POST" "/v0/metrics/session" 1700000000000) =
        sessionSignature :=
    if_pos rfl
  rw [challenge]
  constructor
  · exact userChain_inOrder _
  · exact userChainHeader_ne_nil
  · exact if_pos rfl
  · rw [signed]
    refine ⟨sessionKey, publicED25519KeyFromDER_append rfl, ?_⟩
    simp [ed25519Verify, recordedSignatures]
  · rw [signed]
    exact List.cons_ne_nil _ _

/-- What happens once the session of the frontend's request waits. -/
def mintedEvents : List (ServerEvent String) :=
  [.minted 0, .query memoryRequest (1700000001 * second)]

/-- The frontend's request brings the proxy to where its session waits. -/
private theorem step_mintRequest :
    MetricsServer.step (ε := String) recordedDeps
        (MetricsServer.new recordedDeps (1700000000 * second))
        (.session (mintRequest recordedIdentity 1700000000000 fun _ => []) november2023
          november2023 (some (Vector.replicate 32 17)) (1700000000 * second)) =
      some signedIn := by
  have principal : newSelfAuthenticating userKey = userPrincipal := if_pos rfl
  refine step_of_passes MetricsRun.isSessionRoute_mintRequest rfl ?_
  rw [← principal]
  exact mintRequest_passes (by decide) (by decide +kernel) recordedIdentity_loggedIn

/-- The proxy serves the frontend's request for a session and what happens then. -/
private theorem mintedEvents_served :
    (runEvents (MetricsServer.step recordedDeps)
        (MetricsServer.new recordedDeps (1700000000 * second))
        (.session (mintRequest recordedIdentity 1700000000000 fun _ => []) november2023
            november2023 (some (Vector.replicate 32 17)) (1700000000 * second) ::
          mintedEvents)).isSome =
      true := by
  rw [runEvents, step_mintRequest]
  decide +kernel

/-- The client asks for a session with its frontend and for the memory of a canister. -/
def mintedRun : MetricsRun String recordedDeps (1700000000 * second) :=
  .ofEvents
    (.session (mintRequest recordedIdentity 1700000000000 fun _ => []) november2023
        november2023 (some (Vector.replicate 32 17)) (1700000000 * second) ::
      mintedEvents)
    (.minted 0) mintedEvents_served

/-- One request of the frontend's run draws random bytes. -/
private theorem mintedRun_distinct : mintedRun.DistinctRandom := by
  have drawing :
      ∀ time, time < 3 → ∀ random, MetricsRun.Draws mintedRun time random → time = 0 := by
    intro time within random draws
    obtain ⟨request, skewReading, expiryReading, now, event⟩ := draws
    interval_cases time
    · rfl
    all_goals cases event
  intro first second random firstWithin secondWithin firstDraws secondDraws
  rw [drawing first firstWithin random firstDraws, drawing second secondWithin random secondDraws]

/-- The proxy returns the session that the frontend asked for. -/
private theorem mintedRun_returns :
    ((mintedRun.state 1).serve recordedDeps (mintedRun.event 1)).bind Prod.fst =
      some (.session (hexEncode (List.replicate 32 17)) 1700000900000) := by
  have signed : mintedRun.state 1 = signedIn := by
    show (runEvents _ _ [_]).getD _ = _
    rw [runEvents, step_mintRequest]
    rfl
  have evaluated :
      ((signedIn.serve recordedDeps (mintedRun.event 1)).bind Prod.fst).any
          (Outcome.isSession (hexEncode (List.replicate 32 17)) 1700000900000) = true := by
    decide +kernel
  rw [signed]
  obtain ⟨outcome, found, is⟩ := (Option.any_eq_true _ _).mp evaluated
  rw [found, eq_session_of_isSession is]

/-- The query of the frontend's run is one of the user's principal. -/
theorem session_roundTrip_mintedRun :
    ∃ after,
      (mintedRun.state 2).serve recordedDeps (mintedRun.event 2) = some (none, after) ∧
        after.admitted =
          (mintedRun.state 2).admitted ++ [⟨memoryRequest, newSelfAuthenticating userKey⟩] :=
  (mintedRun.session_roundTrip mintedRun_distinct recordedIdentity 1700000000000 0 (fun _ => [])
    november2023 november2023 (Vector.replicate 32 17) (1700000000 * second) (by decide) rfl rfl
    (by decide) (by decide +kernel) recordedIdentity_loggedIn).2 1 2 1700000900000 memoryRequest
    1700000000500 (1700000001 * second) (by decide) (by decide) mintedRun_returns rfl rfl rfl
    (by decide) (by decide) rfl

end RecordedIdentity

end SsnConsole.MetricsProxy
