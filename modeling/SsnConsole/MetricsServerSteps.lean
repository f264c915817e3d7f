import SsnConsole.DelegatedAuthentication
import SsnConsole.MetricsServer

/-!
# What one event does to the metrics proxy

Every event changes the session store by one call of it, the cache by one call of
it, or neither.
-/

namespace SsnConsole.MetricsProxy

open Std
open SsnConsole.AgentGo
open SsnConsole.ExpiringCache
open SsnConsole.ForgetfulMap (forget)
open SsnConsole.GoStandard
open SsnConsole.HttpService
open SsnConsole.IiAuth
open SsnConsole.MessageRun

section SessionSteps

variable {sessions after : Sessions} {event : SessionEvent}

/-- A call leaves the lifetime of sessions as it is. -/
theorem ttl_of_sessionStep
    (stepped : sessions.step event = some after) :
    after.store.ttl = sessions.store.ttl := by
  cases event with
  | mint principal random now =>
      simp only [Sessions.step] at stepped
      split at stepped
      · cases stepped
        rfl
      · cases stepped
  | minted index =>
      obtain ⟨minting, -, rfl⟩ := Option.map_eq_some_iff.mp stepped
      rfl
  | lookup token now =>
      simp only [Sessions.step] at stepped
      split at stepped
      · cases stepped
        simp only [SessionStore.lookup]
        split
        · rfl
        · split <;> rfl
      · cases stepped

/-- A call of `Mint` that waits afterwards waited before, or starts here. -/
theorem minting_of_sessionStep
    {minting : Minting}
    (stepped : sessions.step event = some after)
    (member : minting ∈ after.minting) :
    minting ∈ sessions.minting ∨
      ∃ random : Vector UInt8 32,
        minting.token = hexEncode random.toList ∧
          event = .mint minting.principal (some random) minting.now := by
  cases event with
  | mint principal random now =>
      simp only [Sessions.step] at stepped
      split at stepped
      · cases stepped
        rcases List.mem_append.mp member with earlier | new
        · exact .inl earlier
        · obtain ⟨buf, rfl, rfl⟩ := Option.map_eq_some_iff.mp (Option.mem_toList.mp new)
          exact .inr ⟨buf, rfl, rfl⟩
      · cases stepped
  | minted index =>
      obtain ⟨_, -, rfl⟩ := Option.map_eq_some_iff.mp stepped
      exact .inl (List.mem_of_mem_eraseIdx member)
  | lookup token now =>
      simp only [Sessions.step] at stepped
      split at stepped
      · cases stepped
        exact .inl member
      · cases stepped

/-- A session that is stored afterwards was stored before, or a call of `Mint` stores it here. -/
theorem stored_of_sessionStep
    {token : Bytes}
    {entry : SessionEntry}
    (stepped : sessions.step event = some after)
    (stored : after.store.sessions[token]? = some entry) :
    sessions.store.sessions[token]? = some entry ∨
      ∃ minting ∈ sessions.minting,
        minting.token = token ∧
          entry = ⟨minting.principal, minting.now + sessions.store.ttl.nanoseconds⟩ := by
  cases event with
  | mint principal random now =>
      simp only [Sessions.step] at stepped
      split at stepped
      · cases stepped
        exact .inl stored
      · cases stepped
  | minted index =>
      obtain ⟨minting, waiting, rfl⟩ := Option.map_eq_some_iff.mp stepped
      simp only [SessionStore.finishMint, ExtTreeMap.getElem?_insert] at stored
      split at stored
      · rename_i same
        cases stored
        exact .inr ⟨minting, List.mem_of_getElem? waiting, LawfulEqOrd.eq_of_compare same, rfl⟩
      · simp only [forget, ExtTreeMap.getElem?_filter', Option.filter_eq_some_iff] at stored
        exact .inl stored.1
  | lookup token' now =>
      simp only [Sessions.step] at stepped
      split at stepped
      · cases stepped
        simp only [SessionStore.lookup] at stored
        split at stored
        · exact .inl stored
        · split at stored
          · rw [ExtTreeMap.getElem?_erase] at stored
            split at stored
            · cases stored
            · exact .inl stored
          · exact .inl stored
      · cases stepped

end SessionSteps

section CacheSteps

variable [PrincipalText] {ε : Type} {ttl : Int} {cache after : AuthCache} {event : AuthEvent ε}

/-- The clock of the cache does not go back. -/
theorem clock_le_of_cacheChange
    (change : cache.Change ttl event after) :
    cache.clock ≤ after.clock := by
  cases change with
  | answered forward | asked forward =>
      exact forward
  | failed | refilled =>
      exact le_rfl

/-- Calls that wait have read the clock. -/
theorem waiting_of_cacheChange
    (change : cache.Change ttl event after)
    (waited : ∀ call ∈ cache.waiting, call.now ≤ cache.clock) :
    ∀ call ∈ after.waiting, call.now ≤ after.clock := by
  intro call member
  cases change with
  | answered forward =>
      exact (waited call member).trans forward
  | asked forward =>
      rcases List.mem_append.mp member with earlier | new
      · exact (waited call earlier).trans forward
      · rw [List.mem_singleton.mp new]
  | failed | refilled =>
      exact waited call (List.mem_of_mem_eraseIdx member)

/-- The entries go back to what was filled in before, or to the reply that comes here. -/
theorem traces_of_cacheChange
    {Filled Later : String → Int → ExtTreeSet String → Prop}
    (change : cache.Change ttl event after)
    (traces : Traces Filled ttl cache.out)
    (implies : ∀ key readAt value, Filled key readAt value → Later key readAt value)
    (refills :
      ∀ index list call,
        event = .reply index (.ok list) → cache.waiting[index]? = some call →
          Later call.user.text call.now (canisterIDs list)) :
    Traces Later ttl after.out := by
  have kept : Traces Later ttl cache.out := traces.mono implies
  cases change with
  | answered | asked | failed =>
      exact kept
  | refilled waited =>
      exact kept.fill (refills _ _ _ rfl waited)

/-- A call that is answered at once does not wait. -/
theorem waiting_of_answered
    {call : WaitingCall}
    {verdict : Except ε Bool}
    (served : cache.serve ttl (.call call) = some (some verdict, after)) :
    after.waiting = cache.waiting := by
  simp only [AuthCache.serve] at served
  split at served
  · have allowed := Option.some.inj served
    simp only [AuthCache.allows] at allowed
    split at allowed
    · cases allowed
      rfl
    · cases allowed
  · cases served

/-- A call that is not answered waits after the others. -/
theorem waiting_of_asked
    {call : WaitingCall}
    (served : cache.serve (ε := ε) ttl (.call call) = some (none, after)) :
    after.waiting = cache.waiting ++ [call] := by
  simp only [AuthCache.serve] at served
  split at served
  · have allowed := Option.some.inj served
    simp only [AuthCache.allows] at allowed
    split at allowed
    · cases allowed
    · cases allowed
      rfl
  · cases served

/-- A call that is told something does not wait any more. -/
theorem waiting_of_told
    {index : Nat}
    {reply : AuthorizerReply ε}
    {verdict : Option (Except ε Bool)}
    (served : cache.serve ttl (.reply index reply) = some (verdict, after)) :
    after.waiting = cache.waiting.eraseIdx index := by
  obtain ⟨call, -, answered⟩ := Option.map_eq_some_iff.mp served
  cases reply with
  | error error =>
      cases answered
      rfl
  | ok list =>
      cases answered
      rfl

/-- A call is allowed by an entry that has its canister, or by the authorizer's reply. -/
theorem allowed_cases
    {event : AuthEvent ε}
    (served : cache.serve ttl event = some (some (.ok true), after)) :
    (∃ call entry,
        event = .call call ∧ cache.clock ≤ call.now ∧
          live cache.out call.user.text call.now = some entry ∧
            entry.value.contains call.canisterID = true) ∨
      ∃ index list call,
        event = .reply index (.ok list) ∧ cache.waiting[index]? = some call ∧
          call.canisterID ∈ list.map Principal.text := by
  cases event with
  | call call =>
      simp only [AuthCache.serve] at served
      split at served
      · rename_i forward
        have allowed := Option.some.inj served
        simp only [AuthCache.allows] at allowed
        split at allowed
        · rename_i entry found
          refine .inl ⟨call, entry, rfl, forward, found, ?_⟩
          exact Except.ok.inj (Option.some.inj (Prod.mk.inj allowed).1)
        · cases allowed
      · cases served
  | reply index reply =>
      obtain ⟨call, waited, answered⟩ := Option.map_eq_some_iff.mp served
      cases reply with
      | error error =>
          cases answered
      | ok list =>
          have allowed := (Prod.mk.inj answered).1
          refine .inr ⟨index, list, call, rfl, waited, ?_⟩
          exact
            AuthCache.contains_canisterIDs.mp (Except.ok.inj (Option.some.inj allowed))

end CacheSteps

variable [Certification] [PrincipalText] [ProxyLibraries] {ε : Type} {deps : Deps}

namespace MetricsServer

/-- Every way in which an event changes the server. -/
inductive Change (deps : Deps) (server : MetricsServer) : ServerEvent ε → MetricsServer → Prop
  | refused
      {event : ServerEvent ε} :
      Change deps server event server
  | proved
      {request : Request}
      {skewReading expiryReading : Instant}
      {random : Option (Vector UInt8 32)}
      {now : Int}
      {principal : Principal}
      {sessions : Sessions}
      (route : isSessionRoute request = true)
      (domestic : foreignOrigin deps request.header = none)
      (passed : serveHTTP deps.iiAuth request skewReading expiryReading = .next principal)
      (stepped : server.sessions.step (.mint principal random now) = some sessions) :
      Change deps server (.session request skewReading expiryReading random now)
        { server with sessions := sessions }
  | minted
      {index : Nat}
      {sessions : Sessions}
      (stepped : server.sessions.step (.minted index) = some sessions) :
      Change deps server (.minted index) { server with sessions := sessions }
  | looked
      {event : ServerEvent ε}
      {token : Bytes}
      {now : Int}
      {sessions : Sessions}
      (stepped : server.sessions.step (.lookup token now) = some sessions) :
      Change deps server event { server with sessions := sessions }
  | admitted
      {request : MetricsRequest}
      {now : Int}
      {token : Bytes}
      {caller : Principal}
      {sessions : Sessions}
      (domestic : foreignOrigin deps request.header = none)
      (sent : bearerToken request.header = some token)
      (found : (server.sessions.store.lookup now token).1 = (caller, true))
      (stepped : server.sessions.step (.lookup token now) = some sessions) :
      Change deps server (.query request now)
        { server with sessions := sessions, admitted := server.admitted ++ [⟨request, caller⟩] }
  | answered
      {index : Nat}
      {now rangeNow : Int}
      {admitted : Admitted}
      {verdict : Except ε Bool}
      {cache : AuthCache}
      (waited : server.admitted[index]? = some admitted)
      (served :
        server.cache.serve deps.ttl.nanoseconds (.call (admitted.call now)) =
          some (some verdict, cache)) :
      Change deps server (.authorize index now rangeNow)
        { server with cache := cache, admitted := server.admitted.eraseIdx index }
  | asked
      {index : Nat}
      {now rangeNow : Int}
      {admitted : Admitted}
      {cache : AuthCache}
      (waited : server.admitted[index]? = some admitted)
      (served :
        server.cache.serve (ε := ε) deps.ttl.nanoseconds (.call (admitted.call now)) =
          some (none, cache)) :
      Change deps server (.authorize index now rangeNow)
        { server with
          cache := cache
          admitted := server.admitted.eraseIdx index
          asking := server.asking ++ [admitted] }
  | told
      {index : Nat}
      {reply : AuthorizerReply ε}
      {rangeNow : Int}
      {admitted : Admitted}
      {verdict : Option (Except ε Bool)}
      {cache : AuthCache}
      (waited : server.asking[index]? = some admitted)
      (served :
        server.cache.serve deps.ttl.nanoseconds (.reply index reply) = some (verdict, cache)) :
      Change deps server (.reply index reply rangeNow)
        { server with cache := cache, asking := server.asking.eraseIdx index }

variable {server after : MetricsServer}

omit [ProxyLibraries] in
/-- The middleware changes the store by a lookup, if at all. -/
theorem changed_of_lookupSession
    {event : ServerEvent ε}
    {header : String → Bytes}
    {now : Int}
    {sessions : Sessions}
    (looked : lookupSession server.sessions header now = some sessions) :
    server.Change deps event { server with sessions := sessions } := by
  unfold lookupSession at looked
  cases sent : bearerToken header with
  | none =>
      rw [sent] at looked
      cases looked
      exact .refused
  | some token =>
      rw [sent] at looked
      exact .looked looked

/-- Every event changes the server in one of these ways. -/
theorem change_of_step
    {event : ServerEvent ε}
    (stepped : server.step deps event = some after) :
    server.Change deps event after := by
  obtain ⟨⟨outcome, next⟩, served, rfl⟩ := Option.map_eq_some_iff.mp stepped
  cases event with
  | session request skewReading expiryReading random now =>
      simp only [serve] at served
      split at served
      · rename_i route
        split at served
        · cases served
          exact .refused
        · rename_i domestic
          split at served
          · cases served
            exact .refused
          · rename_i passed
            obtain ⟨sessions, minting, same⟩ := Option.map_eq_some_iff.mp served
            cases same
            exact .proved route domestic passed minting
      · cases served
  | minted index =>
      obtain ⟨minting, -, served⟩ := Option.bind_eq_some_iff.mp served
      obtain ⟨sessions, finished, same⟩ := Option.map_eq_some_iff.mp served
      cases same
      exact .minted finished
  | list request now =>
      simp only [serve] at served
      split at served
      · cases served
        exact .refused
      · obtain ⟨sessions, looked, same⟩ := Option.map_eq_some_iff.mp served
        cases same
        exact changed_of_lookupSession looked
  | query request now =>
      simp only [serve] at served
      split at served
      · cases served
        exact .refused
      · rename_i domestic
        obtain ⟨sessions, looked, same⟩ := Option.map_eq_some_iff.mp served
        cases passed : sessionMiddleware server.sessions.store request.header now with
        | error refusal =>
            rw [passed] at same
            cases same
            exact changed_of_lookupSession looked
        | ok caller =>
            rw [passed] at same
            simp only at same
            split at same
            · cases same
              exact changed_of_lookupSession looked
            · cases same
              obtain ⟨token, sent, found⟩ := found_of_sessionMiddleware passed
              unfold lookupSession at looked
              rw [sent] at looked
              exact .admitted domestic sent found looked
  | authorize index now rangeNow =>
      obtain ⟨admitted, waited, served⟩ := Option.bind_eq_some_iff.mp served
      obtain ⟨⟨verdict, cache⟩, answered, same⟩ := Option.map_eq_some_iff.mp served
      cases verdict with
      | none =>
          cases same
          exact .asked waited answered
      | some verdict =>
          cases same
          exact .answered waited answered
  | reply index reply rangeNow =>
      obtain ⟨admitted, waited, served⟩ := Option.bind_eq_some_iff.mp served
      obtain ⟨⟨verdict, cache⟩, answered, same⟩ := Option.map_eq_some_iff.mp served
      cases same
      exact .told waited answered

/-- A principal signs a request to the session endpoint, from no foreign origin, which draws
random bytes at a reading of the clock. -/
def Proves (deps : Deps) (event : ServerEvent ε) (principal : Principal)
    (random : Vector UInt8 32) (now : Int) : Prop :=
  ∃ request skewReading expiryReading timestampMillis chain signature,
    event = .session request skewReading expiryReading (some random) now ∧
      foreignOrigin deps request.header = none ∧
        request.method = bytesOf "POST" ∧ request.path = bytesOf (apiPrefix ++ "/session") ∧
          Authenticated deps.iiAuth request skewReading expiryReading principal timestampMillis
            chain signature

omit [ProxyLibraries] in
/-- An event changes the session store by a call of it, where only proofs mint. -/
theorem sessions_of_change
    {event : ServerEvent ε}
    (change : server.Change deps event after) :
    after.sessions = server.sessions ∨
      ∃ call, server.sessions.step call = some after.sessions ∧
        ∀ principal random now, call = .mint principal (some random) now →
          Proves deps event principal random now := by
  cases change with
  | refused | answered | asked | told =>
      exact .inl rfl
  | @proved request skewReading expiryReading random now principal sessions route domestic passed
      stepped =>
      refine .inr ⟨_, stepped, ?_⟩
      intro other otherRandom otherNow same
      cases same
      obtain ⟨timestampMillis, chain, signature, authenticated⟩ :=
        authenticated_of_authenticate (authenticate_of_next passed)
      obtain ⟨method, path⟩ :
          request.method = bytesOf "POST" ∧ request.path = bytesOf (apiPrefix ++ "/session") := by
        simpa [isSessionRoute] using route
      exact
        ⟨request, skewReading, expiryReading, timestampMillis, chain, signature, rfl, domestic,
          method, path, authenticated⟩
  | minted stepped | looked stepped | admitted _ _ _ stepped =>
      refine .inr ⟨_, stepped, ?_⟩
      intro principal random now same
      cases same

omit [ProxyLibraries] in
/-- An event changes the cache by an event of it, where replies are passed on. -/
theorem cache_of_change
    {event : ServerEvent ε}
    (change : server.Change deps event after) :
    after.cache = server.cache ∨
      ∃ cacheEvent : AuthEvent ε,
        server.cache.Change deps.ttl.nanoseconds cacheEvent after.cache ∧
          ∀ index reply, cacheEvent = .reply index reply →
            ∃ rangeNow, event = .reply index reply rangeNow := by
  cases change with
  | refused | proved | minted | looked | admitted =>
      exact .inl rfl
  | answered _ served | asked _ served =>
      refine .inr ⟨_, AuthCache.change_of_step (Option.map_eq_some_iff.mpr ⟨_, served, rfl⟩), ?_⟩
      intro index reply same
      cases same
  | @told index reply rangeNow admitted verdict cache waited served =>
      refine .inr ⟨_, AuthCache.change_of_step (Option.map_eq_some_iff.mpr ⟨_, served, rfl⟩), ?_⟩
      intro other otherReply same
      cases same
      exact ⟨rangeNow, rfl⟩

end MetricsServer

end SsnConsole.MetricsProxy
