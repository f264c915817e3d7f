import SsnConsole.MetricsServerSteps

/-!
# Whose metrics the proxy reads

A query reaches Grafana only for a canister that the backend listed for the
principal of the session, and the session goes back to a signed request of that
principal.  Both facts age: a session and a list count for their lifetimes,
however the requests interleave.
-/

namespace SsnConsole.MetricsProxy

open Std
open SsnConsole.AgentGo
open SsnConsole.ExpiringCache
open SsnConsole.GoStandard
open SsnConsole.HttpService
open SsnConsole.IiAuth
open SsnConsole.MessageRun

section Runs

variable [Certification] [PrincipalText] [ProxyLibraries] {ε : Type} {deps : Deps}

/-- Runs of the proxy. -/
abbrev MetricsRun (ε : Type) (deps : Deps) (start : Int) : Type :=
  Execution (MetricsServer.step (ε := ε) deps) (MetricsServer.new deps start)

variable {start : Int}

namespace MetricsRun

variable (run : MetricsRun ε deps start)

/-- A token was drawn before an event by a request for a session that a principal signed; the
session counts from a reading of the clock. -/
def Proved (time : Nat) (token : Bytes) (principal : Principal) (now : Int) : Prop :=
  ∃ earlier < time, ∃ random : Vector UInt8 32,
    token = hexEncode random.toList ∧
      MetricsServer.Proves deps (run.event earlier) principal random now

/-- A request came in before an event, from no foreign origin, with the token of a live session of
its caller. -/
def Presented (time : Nat) (admitted : Admitted) : Prop :=
  ∃ earlier < time, ∃ now token provedAt,
    run.event earlier = .query admitted.request now ∧
      foreignOrigin deps admitted.request.header = none ∧
        bearerToken admitted.request.header = some token ∧
          run.Proved earlier token admitted.caller provedAt ∧
            now < provedAt + deps.sessions.nanoseconds

/-- The authorizer returns a list to a call of the cache. -/
def Told (time : Nat) (call : WaitingCall) (list : List Principal) : Prop :=
  ∃ index rangeNow,
    run.event time = .reply index (.ok list) rangeNow ∧
      (run.state time).cache.waiting[index]? = some call

/-- An event hands a request to the cache, or tells it what the authorizer returned. -/
def Decides (time : Nat) (admitted : Admitted) (call : WaitingCall) : Prop :=
  (∃ index now rangeNow,
      run.event time = .authorize index now rangeNow ∧
        (run.state time).admitted[index]? = some admitted ∧ call = admitted.call now) ∨
    ∃ index reply rangeNow,
      run.event time = .reply index reply rangeNow ∧
        (run.state time).asking[index]? = some admitted ∧
          (run.state time).cache.waiting[index]? = some call

/-- A request that called the cache is sent on to Grafana. -/
def Forwards (time : Nat) (admitted : Admitted) (call : WaitingCall) (metric : Metric)
    (query : QueryRangeRequest) : Prop :=
  run.Decides time admitted call ∧
    ((run.state time).serve deps (run.event time)).map Prod.fst =
      some (some (.forward metric query))

/-- The list behind a value of the cache was returned before an event. -/
def Filled (time : Nat) (key : String) (readAt : Int) (value : ExtTreeSet String) : Prop :=
  ∃ earlier asker list,
    earlier < time ∧ run.Told earlier asker list ∧ asker.user.text = key ∧
      asker.now = readAt ∧ value = canisterIDs list ∧ readAt ≤ (run.state time).cache.clock

/-- What holds of the session store before every event. -/
structure SessionsSound (time : Nat) : Prop where
  ttl : (run.state time).sessions.store.ttl = deps.sessions
  minting :
    ∀ minting ∈ (run.state time).sessions.minting,
      run.Proved time minting.token minting.principal minting.now
  stored :
    ∀ (token : Bytes) (entry : SessionEntry),
      (run.state time).sessions.store.sessions[token]? = some entry →
        ∃ provedAt,
          run.Proved time token entry.principal provedAt ∧
            entry.expiresAt = provedAt + deps.sessions.nanoseconds

/-- What holds of the requests before every event. -/
structure RequestsSound (time : Nat) : Prop where
  admitted : ∀ admitted ∈ (run.state time).admitted, run.Presented time admitted
  asking : ∀ admitted ∈ (run.state time).asking, run.Presented time admitted
  /-- The calls that wait for the authorizer are those of the requests. -/
  aligned :
    (run.state time).cache.waiting.map (fun call => (call.user, call.canisterID)) =
      (run.state time).asking.map fun admitted => (admitted.caller, admitted.request.canisterID)

/-- What holds of the cache before every event. -/
structure CacheSound (time : Nat) : Prop where
  traces : Traces (run.Filled time) deps.ttl.nanoseconds (run.state time).cache.out
  waiting :
    ∀ call ∈ (run.state time).cache.waiting, call.now ≤ (run.state time).cache.clock

variable {run} {time : Nat}

/-- What was proved before an event was proved before the next. -/
theorem Proved.succ
    {token : Bytes}
    {principal : Principal}
    {now : Int}
    (proved : run.Proved time token principal now) :
    run.Proved (time + 1) token principal now := by
  obtain ⟨earlier, before, proves⟩ := proved
  exact ⟨earlier, Nat.lt_succ_of_lt before, proves⟩

/-- What was presented before an event was presented before the next. -/
theorem Presented.succ
    {admitted : Admitted}
    (presented : run.Presented time admitted) :
    run.Presented (time + 1) admitted := by
  obtain ⟨earlier, before, rest⟩ := presented
  exact ⟨earlier, Nat.lt_succ_of_lt before, rest⟩

/-- Every event keeps the session store sound. -/
theorem SessionsSound.step
    (sound : run.SessionsSound time)
    (within : time < run.length) :
    run.SessionsSound (time + 1) := by
  have change := MetricsServer.change_of_step (run.advances time within)
  rcases MetricsServer.sessions_of_change change with same | ⟨call, stepped, mints⟩
  · constructor
    · rw [same]
      exact sound.ttl
    · rw [same]
      exact fun minting member => (sound.minting minting member).succ
    · rw [same]
      intro token entry stored
      obtain ⟨provedAt, proved, expires⟩ := sound.stored token entry stored
      exact ⟨provedAt, proved.succ, expires⟩
  · constructor
    · rw [ttl_of_sessionStep stepped]
      exact sound.ttl
    · intro minting member
      rcases minting_of_sessionStep stepped member with earlier | ⟨random, drawn, started⟩
      · exact (sound.minting minting earlier).succ
      · exact ⟨time, Nat.lt_succ_self time, random, drawn, mints _ _ _ started⟩
    · intro token entry stored
      rcases stored_of_sessionStep stepped stored with earlier | ⟨minting, waiting, rfl, rfl⟩
      · obtain ⟨provedAt, proved, expires⟩ := sound.stored token entry earlier
        exact ⟨provedAt, proved.succ, expires⟩
      · refine ⟨minting.now, (sound.minting minting waiting).succ, ?_⟩
        rw [sound.ttl]

/-- The session store is sound before every event of a run. -/
theorem sessionsSound
    (within : time ≤ run.length) :
    run.SessionsSound time := by
  induction time with
  | zero =>
      constructor
      · rw [run.starts]
        rfl
      · rw [run.starts]
        intro minting member
        cases member
      · rw [run.starts]
        intro token entry stored
        simp [MetricsServer.new, Sessions.new, SessionStore.new] at stored
  | succ time inductionHypothesis =>
      exact (inductionHypothesis (by omega)).step (by omega)

/-- What was filled in before an event was filled in before the next. -/
theorem Filled.succ
    {key : String}
    {readAt : Int}
    {value : ExtTreeSet String}
    (forward : (run.state time).cache.clock ≤ (run.state (time + 1)).cache.clock)
    (filled : run.Filled time key readAt value) :
    run.Filled (time + 1) key readAt value := by
  obtain ⟨earlier, asker, list, before, told, named, read, same, bounded⟩ := filled
  exact
    ⟨earlier, asker, list, Nat.lt_succ_of_lt before, told, named, read, same,
      bounded.trans forward⟩

/-- Every event keeps the cache sound. -/
theorem CacheSound.step
    (sound : run.CacheSound time)
    (within : time < run.length) :
    run.CacheSound (time + 1) := by
  have change := MetricsServer.change_of_step (run.advances time within)
  rcases MetricsServer.cache_of_change change with same | ⟨cacheEvent, changed, passedOn⟩
  · have forward : (run.state time).cache.clock ≤ (run.state (time + 1)).cache.clock :=
      (congrArg AuthCache.clock same).ge
    constructor
    · rw [same]
      exact sound.traces.mono fun key readAt value filled => filled.succ forward
    · rw [same]
      exact sound.waiting
  · have forward := clock_le_of_cacheChange changed
    constructor
    · refine traces_of_cacheChange changed sound.traces
        (fun key readAt value filled => filled.succ forward) ?_
      rintro index list call rfl waited
      obtain ⟨rangeNow, replied⟩ := passedOn index _ rfl
      exact
        ⟨time, call, list, Nat.lt_succ_self time, ⟨index, rangeNow, replied, waited⟩, rfl, rfl,
          rfl, (sound.waiting call (List.mem_of_getElem? waited)).trans forward⟩
    · exact waiting_of_cacheChange changed sound.waiting

/-- The cache is sound before every event of a run. -/
theorem cacheSound
    (within : time ≤ run.length) :
    run.CacheSound time := by
  induction time with
  | zero =>
      constructor
      · rw [run.starts]
        exact .empty
      · rw [run.starts]
        intro call member
        cases member
  | succ time inductionHypothesis =>
      exact (inductionHypothesis (by omega)).step (by omega)

/-- A session that a lookup finds goes back to a proof within its lifetime. -/
theorem proved_of_lookup
    {token : Bytes}
    {caller : Principal}
    {now : Int}
    (within : time ≤ run.length)
    (found : ((run.state time).sessions.store.lookup now token).1 = (caller, true)) :
    ∃ provedAt,
      run.Proved time token caller provedAt ∧ now < provedAt + deps.sessions.nanoseconds := by
  obtain ⟨expiresAt, stored, unexpired⟩ := SessionStore.lookup_eq_iff.mp found
  obtain ⟨provedAt, proved, expires⟩ := (sessionsSound within).stored token _ stored
  exact ⟨provedAt, proved, expires ▸ unexpired⟩

/-- An event presents a request, or passes on those that were presented. -/
theorem presented_of_change
    {event : ServerEvent ε}
    {after : MetricsServer}
    (sound : run.RequestsSound time)
    (within : time ≤ run.length)
    (happened : run.event time = event)
    (change : (run.state time).Change deps event after) :
    (∀ admitted ∈ after.admitted, run.Presented (time + 1) admitted) ∧
      ∀ admitted ∈ after.asking, run.Presented (time + 1) admitted := by
  have admittedBefore (admitted : Admitted) (member : admitted ∈ (run.state time).admitted) :
      run.Presented (time + 1) admitted :=
    (sound.admitted admitted member).succ
  have askingBefore (admitted : Admitted) (member : admitted ∈ (run.state time).asking) :
      run.Presented (time + 1) admitted :=
    (sound.asking admitted member).succ
  cases change with
  | refused | proved | minted | looked =>
      exact ⟨admittedBefore, askingBefore⟩
  | @admitted request now token caller sessions domestic sent found stepped =>
      refine ⟨?_, askingBefore⟩
      intro admitted member
      rcases List.mem_append.mp member with earlier | new
      · exact admittedBefore admitted earlier
      · cases List.mem_singleton.mp new
        obtain ⟨provedAt, proved, unexpired⟩ := proved_of_lookup within found
        exact
          ⟨time, Nat.lt_succ_self time, now, token, provedAt, happened, domestic, sent, proved,
            unexpired⟩
  | answered =>
      exact
        ⟨fun admitted member => admittedBefore admitted (List.mem_of_mem_eraseIdx member),
          askingBefore⟩
  | asked waited =>
      refine
        ⟨fun admitted member => admittedBefore admitted (List.mem_of_mem_eraseIdx member), ?_⟩
      intro admitted member
      rcases List.mem_append.mp member with earlier | new
      · exact askingBefore admitted earlier
      · cases List.mem_singleton.mp new
        exact admittedBefore _ (List.mem_of_getElem? waited)
  | told =>
      exact
        ⟨admittedBefore,
          fun admitted member => askingBefore admitted (List.mem_of_mem_eraseIdx member)⟩

omit [ProxyLibraries] in
/-- The calls that wait stay those of the requests. -/
theorem aligned_of_change
    {event : ServerEvent ε}
    {server after : MetricsServer}
    (aligned :
      server.cache.waiting.map (fun call => (call.user, call.canisterID)) =
        server.asking.map fun admitted => (admitted.caller, admitted.request.canisterID))
    (change : server.Change deps event after) :
    after.cache.waiting.map (fun call => (call.user, call.canisterID)) =
      after.asking.map fun admitted => (admitted.caller, admitted.request.canisterID) := by
  cases change with
  | refused | proved | minted | looked | admitted =>
      exact aligned
  | answered _ served =>
      simp only [waiting_of_answered served]
      exact aligned
  | asked _ served =>
      simp only [waiting_of_asked served, List.map_append, aligned]
      rfl
  | told _ served =>
      simp only [waiting_of_told served, ← List.eraseIdx_map, aligned]

/-- Every event keeps the requests sound. -/
theorem RequestsSound.step
    (sound : run.RequestsSound time)
    (within : time < run.length) :
    run.RequestsSound (time + 1) := by
  have change := MetricsServer.change_of_step (run.advances time within)
  obtain ⟨admitted, asking⟩ := presented_of_change sound within.le rfl change
  exact ⟨admitted, asking, aligned_of_change sound.aligned change⟩

/-- The requests are sound before every event of a run. -/
theorem requestsSound
    (within : time ≤ run.length) :
    run.RequestsSound time := by
  induction time with
  | zero =>
      constructor
      · rw [run.starts]
        intro admitted member
        cases member
      · rw [run.starts]
        intro admitted member
        cases member
      · rw [run.starts]
        rfl
  | succ time inductionHypothesis =>
      exact (inductionHypothesis (by omega)).step (by omega)

/-- A request that the cache decides on calls it for its own caller and canister. -/
theorem call_of_decides
    {admitted : Admitted}
    {call : WaitingCall}
    (within : time ≤ run.length)
    (decides : run.Decides time admitted call) :
    call.user = admitted.caller ∧ call.canisterID = admitted.request.canisterID := by
  rcases decides with ⟨index, now, rangeNow, -, -, rfl⟩ | ⟨index, reply, rangeNow, -, asks, waits⟩
  · exact ⟨rfl, rfl⟩
  · have aligned := congrArg (fun list => list[index]?) (requestsSound within).aligned
    simp only [List.getElem?_map, asks, waits, Option.map_some] at aligned
    exact Prod.mk.inj (Option.some.inj aligned)

/-- A request that the cache decides on was presented with a session. -/
theorem presented_of_decides
    {admitted : Admitted}
    {call : WaitingCall}
    (within : time ≤ run.length)
    (decides : run.Decides time admitted call) :
    run.Presented time admitted := by
  have sound := requestsSound within
  rcases decides with ⟨index, now, rangeNow, -, waits, -⟩ | ⟨index, reply, rangeNow, -, asks, -⟩
  · exact sound.admitted admitted (List.mem_of_getElem? waits)
  · exact sound.asking admitted (List.mem_of_getElem? asks)

/-- The list by which a request is allowed: the authorizer returns it to this very call, or
returned it to one for the same principal within the lifetime of a list. -/
def Listed (run : MetricsRun ε deps start) (time : Nat) (call : WaitingCall) : Prop :=
  ∃ earlier asker list,
    run.Told earlier asker list ∧ asker.user = call.user ∧
      call.canisterID ∈ list.map Principal.text ∧
        ((earlier = time ∧ asker = call) ∨
          (earlier < time ∧ asker.now ≤ call.now ∧
            call.now < asker.now + deps.ttl.nanoseconds))

/-- A live entry of the cache has a list that was returned for its key. -/
theorem listed_of_live
    {call : WaitingCall}
    {entry : Entry (ExtTreeSet String)}
    (within : time ≤ run.length)
    (forward : (run.state time).cache.clock ≤ call.now)
    (found : live (run.state time).cache.out call.user.text call.now = some entry)
    (contains : entry.value.contains call.canisterID = true) :
    run.Listed time call := by
  obtain ⟨readAt, filled, expires, unexpired⟩ := (cacheSound within).traces.of_live found
  obtain ⟨earlier, asker, list, before, told, named, rfl, same, bounded⟩ := filled
  rw [same, AuthCache.contains_canisterIDs] at contains
  exact
    ⟨earlier, asker, list, told, PrincipalText.text_injective named, contains,
      .inr ⟨before, bounded.trans forward, unexpired⟩⟩

/-- What is sent on to Grafana was allowed by the cache and concluded from the request. -/
theorem concluded_of_forwards
    {admitted : Admitted}
    {call : WaitingCall}
    {metric : Metric}
    {query : QueryRangeRequest}
    (within : time ≤ run.length)
    (forwards : run.Forwards time admitted call metric query) :
    run.Listed time call ∧
      ∃ rangeNow,
        concludeQuery (ε := ε) (.ok true) admitted.request rangeNow = .forward metric query := by
  obtain ⟨decides, served⟩ := forwards
  obtain ⟨⟨outcome, after⟩, served, same⟩ := Option.map_eq_some_iff.mp served
  cases same
  rcases decides with
    ⟨index, now, rangeNow, happened, waits, rfl⟩ | ⟨index, reply, rangeNow, happened, asks, waits⟩
  · rw [happened] at served
    simp only [MetricsServer.serve, waits, Option.bind_some] at served
    obtain ⟨⟨verdict, cache⟩, answered, same⟩ := Option.map_eq_some_iff.mp served
    cases verdict with
    | none =>
        cases same
    | some verdict =>
        have forwarded := Option.some.inj (Prod.mk.inj same).1
        obtain ⟨rfl, -⟩ := concludeQuery_eq_forward forwarded
        refine ⟨?_, rangeNow, forwarded⟩
        rcases allowed_cases answered with
          ⟨_, entry, called, forward, found, contains⟩ | ⟨_, _, _, called, -⟩
        · cases called
          exact listed_of_live within forward found contains
        · cases called
  · rw [happened] at served
    simp only [MetricsServer.serve, asks, Option.bind_some] at served
    obtain ⟨⟨verdict, cache⟩, answered, same⟩ := Option.map_eq_some_iff.mp served
    cases verdict with
    | none =>
        cases same
    | some verdict =>
        have forwarded := Option.some.inj (Prod.mk.inj same).1
        obtain ⟨rfl, -⟩ := concludeQuery_eq_forward forwarded
        refine ⟨?_, rangeNow, forwarded⟩
        rcases allowed_cases answered with
          ⟨_, _, called, -⟩ | ⟨_, list, other, called, waited, contains⟩
        · cases called
        · cases called
          cases waits.symm.trans waited
          exact
            ⟨time, call, list, ⟨index, rangeNow, happened, waits⟩, rfl, contains,
              .inl ⟨rfl, rfl⟩⟩

/--
Every query that reaches Grafana, in every interleaving of requests, names one
series of the catalogue and one canister within the bounds on range and step;
the canister is on a list that the backend returned for the caller, to this call
or less than the lifetime of a list before it; and the token of the caller's
session was drawn by a request to the session endpoint that the caller signed
less than the lifetime of a session before.  Neither request came from a foreign
origin.
-/
theorem metricsQuery_authorized
    (run : MetricsRun ε deps start)
    (time : Nat)
    (within : time < run.length)
    (admitted : Admitted)
    (call : WaitingCall)
    (metric : Metric)
    (query : QueryRangeRequest)
    (forwards : run.Forwards time admitted call metric query) :
    (call.user = admitted.caller ∧ call.canisterID = admitted.request.canisterID) ∧
      run.Listed time call ∧
        (∃ earlier < time, ∃ now token provedAt,
          run.event earlier = .query admitted.request now ∧
            (admitted.request.header "Origin" = [] ∨
              admitted.request.header "Origin" ∈ deps.allowedOrigins) ∧
              bearerToken admitted.request.header = some token ∧
                run.Proved earlier token admitted.caller provedAt ∧
                  now < provedAt + deps.sessions.nanoseconds) ∧
          metric ∈ catalogue ∧ metric.slug = admitted.request.slug ∧
            query.query = promQuery metric admitted.request.canisterID ∧
              Bounded query.start query.stop query.step := by
  have decides := forwards.1
  obtain ⟨listed, rangeNow, concluded⟩ := concluded_of_forwards within.le forwards
  obtain ⟨-, member, named, text, bounded⟩ := concludeQuery_eq_forward concluded
  obtain ⟨earlier, before, now, token, provedAt, asked, domestic, sent, proved, unexpired⟩ :=
    presented_of_decides within.le decides
  have origin := origin_of_foreignOrigin domestic
  exact
    ⟨call_of_decides within.le decides, listed,
      ⟨earlier, before, now, token, provedAt, asked, origin, sent, proved, unexpired⟩, member,
      named, text, bounded⟩

end MetricsRun

end Runs

section RecordedSession

/-- The textual form of the user's principal. -/
def userText : String :=
  "d22i3-eb5ah-2xqwo-ufjib-z6yzh-ik2ao-v2dgc-a4xgl-rnyuq-ztled-uqe"

/-- No other principal has the user's textual form. -/
private theorem exampleText_ne_userText
    (principal : Principal) :
    exampleText principal ≠ userText := by
  intro same
  unfold exampleText at same
  split at same
  · revert same
    decide
  · split at same
    · revert same
      decide
    · have first := congrArg (fun text => text.toList.head?) same
      simp [userText] at first

/-- Principals by their encodings, with that of the client. -/
@[reducible]
def userTexts : PrincipalText where
  text := Function.update exampleText userPrincipal userText
  text_injective := by
    intro first second same
    simp only [Function.update_apply] at same
    split at same
    · rename_i isFirst
      split at same
      · rename_i isSecond
        rw [isFirst, isSecond]
      · exact (exampleText_ne_userText second same.symm).elim
    · split at same
      · exact (exampleText_ne_userText first same).elim
      · exact exampleTexts.text_injective same

/-- The libraries at what the recorded requests read. -/
@[reducible]
def recordedLibraries : ProxyLibraries where
  parseRFC3339 _ := none
  parseDuration _ := .error "time: invalid duration"
  quote text := "\"" ++ text ++ "\""
  decodePrincipal text := if text = "hqgi5-iic" then .ok () else .error "invalid principal"

attribute [local instance] recorded userTexts recordedLibraries

/-- The proxy for the replica's Internet Identity and one frontend. -/
def recordedDeps : Deps where
  allowedOrigins := [bytesOf "https://console.example"]
  iiAuth := replicaConfig ⟨0, by decide⟩
  authCacheTTL := ⟨0, by decide⟩
  sessionTTL := ⟨0, by decide⟩

/-- The client's request for a session. -/
def sessionRequest : Request :=
  clientRequest "POST" "/v0/metrics/session" "1700000000000" sessionSignature

/-- The request passes the middleware. -/
private theorem sessionRequest_passes :
    serveHTTP recordedDeps.iiAuth sessionRequest november2023 november2023 =
      .next userPrincipal := by
  have read : parseInt64 (bytesOf "1700000000000") = some 1700000000000 := by
    decide +kernel
  exact
    clientRequest_passes read (by decide +kernel) (List.cons_ne_nil _ _)
      (by simp [recordedSignatures])

/-- The proxy while the client's session waits for its lock. -/
def signedIn : MetricsServer :=
  { MetricsServer.new recordedDeps (1700000000 * second) with
    sessions :=
      { Sessions.new recordedDeps.sessions (1700000000 * second) with
        minting :=
          [⟨hexEncode (Vector.replicate 32 17).toList, userPrincipal, 1700000000 * second⟩] } }

/-- A request for a session that passes brings the proxy there. -/
theorem step_of_passes
    {request : Request}
    (route : isSessionRoute request = true)
    (domestic : foreignOrigin recordedDeps request.header = none)
    (passes :
      serveHTTP recordedDeps.iiAuth request november2023 november2023 = .next userPrincipal) :
    MetricsServer.step (ε := String) recordedDeps
        (MetricsServer.new recordedDeps (1700000000 * second))
        (.session request november2023 november2023 (some (Vector.replicate 32 17))
          (1700000000 * second)) =
      some signedIn := by
  simp only [MetricsServer.step, MetricsServer.serve, route, if_true, domestic, passes]
  rfl

/-- The client's request for the memory of a canister in the last hour. -/
def memoryRequest : MetricsRequest where
  header name :=
    if name = "Authorization" then
      bytesOf "Bearer " ++ hexEncode (List.replicate 32 17)
    else
      []
  canisterID := "hqgi5-iic"
  slug := "memory-bytes"
  query _ := []

/-- What happens once the session waits: the client asks for the memory of a canister. -/
def memoryEvents : List (ServerEvent String) :=
  [.minted 0, .query memoryRequest (1700000001 * second),
    .authorize 0 (1700000002 * second) (1700000002 * second),
    .reply 0 (.ok [canister]) (1700000002 * second)]

/-- The client's first request brings the proxy to where its session waits. -/
private theorem step_sessionRequest :
    MetricsServer.step (ε := String) recordedDeps
        (MetricsServer.new recordedDeps (1700000000 * second))
        (.session sessionRequest november2023 november2023 (some (Vector.replicate 32 17))
          (1700000000 * second)) =
      some signedIn :=
  step_of_passes (by decide +kernel) (by decide +kernel) sessionRequest_passes

/-- The proxy serves the client's request for a session and what happens then. -/
private theorem memoryEvents_served :
    (runEvents (MetricsServer.step recordedDeps)
        (MetricsServer.new recordedDeps (1700000000 * second))
        (.session sessionRequest november2023 november2023 (some (Vector.replicate 32 17))
            (1700000000 * second) ::
          memoryEvents)).isSome =
      true := by
  rw [runEvents, step_sessionRequest]
  decide +kernel

/-- The client gets a session and asks for the memory of a canister. -/
def memoryRun : MetricsRun String recordedDeps (1700000000 * second) :=
  .ofEvents
    (.session sessionRequest november2023 november2023 (some (Vector.replicate 32 17))
        (1700000000 * second) ::
      memoryEvents)
    (.minted 0) memoryEvents_served

/-- After its first event the run goes on from where the session waits. -/
theorem memoryRun_state
    (time : Nat) :
    memoryRun.state (time + 1) =
      (runEvents (MetricsServer.step recordedDeps) signedIn (memoryEvents.take time)).getD
        (MetricsServer.new recordedDeps (1700000000 * second)) := by
  show (runEvents _ _ (_ :: memoryEvents.take time)).getD _ = _
  rw [runEvents, step_sessionRequest]
  rfl

/-- Whether an outcome is a query to Grafana. -/
def Outcome.isForward : Outcome → Bool
  | .forward _ _ => true
  | _ => false

/-- The request is sent on. -/
theorem memoryRun_forwards :
    ∃ admitted call metric query, memoryRun.Forwards 4 admitted call metric query := by
  have evaluated :
      ((memoryRun.state 4).asking[0]?).isSome ∧
        ((memoryRun.state 4).cache.waiting[0]?).isSome ∧
          (((memoryRun.state 4).serve recordedDeps (memoryRun.event 4)).bind Prod.fst).any
            Outcome.isForward := by
    rw [memoryRun_state]
    decide +kernel
  obtain ⟨asks, waits, forwards⟩ := evaluated
  obtain ⟨admitted, asks⟩ := Option.isSome_iff_exists.mp asks
  obtain ⟨call, waits⟩ := Option.isSome_iff_exists.mp waits
  cases served : (memoryRun.state 4).serve recordedDeps (memoryRun.event 4) with
  | none =>
      rw [served] at forwards
      cases forwards
  | some result =>
      obtain ⟨outcome, after⟩ := result
      rw [served] at forwards
      rcases outcome with _ | ⟨_ | _ | _ | ⟨metric, query⟩⟩
      · cases forwards
      · cases forwards
      · cases forwards
      · cases forwards
      · exact
          ⟨admitted, call, metric, query, .inr ⟨0, _, _, rfl, asks, waits⟩,
            congrArg (Option.map Prod.fst) served⟩

/-- The canister of the query that is sent on is on a list for the client. -/
theorem metricsQuery_authorized_memoryRun :
    ∃ admitted call metric query,
      memoryRun.Forwards 4 admitted call metric query ∧ memoryRun.Listed 4 call ∧
        Bounded query.start query.stop query.step := by
  obtain ⟨admitted, call, metric, query, forwards⟩ := memoryRun_forwards
  obtain ⟨-, listed, -, -, -, -, bounded⟩ :=
    MetricsRun.metricsQuery_authorized memoryRun 4 (by decide) admitted call metric query forwards
  exact ⟨admitted, call, metric, query, forwards, listed, bounded⟩

end RecordedSession

end SsnConsole.MetricsProxy
