import SsnConsole.ComponentRuns
import SsnConsole.MetricsAccess
import SsnConsole.MetricsProxyApi

/-!
# Sessions that the client may use

A session that the proxy returned opens its queries until its expiry, however many
sessions were swept in between.  The client stops using it half a minute before, so
that a query which arrives within this half minute is never refused for its session.
-/

namespace SsnConsole.MetricsProxy

open SsnConsole.AgentGo
open SsnConsole.ComponentRuns
open SsnConsole.Frontend (SESSION_REFRESH_BUFFER_MS)
open SsnConsole.GoStandard
open SsnConsole.HttpService
open SsnConsole.IiAuth
open SsnConsole.MessageRun
open ProxyLibraries

section Spaces

/-- Nothing is dropped from a text that starts with no piece. -/
private theorem dropPieces_eq_self
    {pieces : List Bytes}
    {text : Bytes}
    (solid : ∀ piece ∈ pieces, piece.isPrefixOf text = false)
    (fuel : Nat) :
    dropPieces pieces fuel text = text := by
  cases fuel with
  | zero => rfl
  | succ fuel =>
      have absent : pieces.find? (fun piece => piece.isPrefixOf text) = none := by
        apply List.find?_eq_none.mpr
        intro piece member
        simp [solid piece member]
      simp only [dropPieces, absent]

/-- Pieces that start with another byte than a text are no prefix of it. -/
private theorem isPrefixOf_eq_false
    {pieces : List Bytes}
    {first : UInt8}
    (others :
      pieces.all (fun piece => piece.head?.any fun byte => !byte == first) = true)
    (rest : Bytes) :
    ∀ piece ∈ pieces, piece.isPrefixOf (first :: rest) = false := by
  intro piece member
  have other := List.all_eq_true.mp others piece member
  cases piece with
  | nil => cases other
  | cons byte bytes =>
      simp only [List.head?_cons, Option.any_some, Bool.not_eq_true', beq_eq_false_iff_ne] at other
      simp [List.isPrefixOf, other]

/-- A text of hexadecimal digits starts and ends with no space. -/
private theorem solid_of_hexDigits
    {text : Bytes}
    (digits : ∀ byte ∈ text, ∃ value : UInt8, value.toNat < 16 ∧ byte = hexDigit value)
    (nonempty : text ≠ []) :
    (∀ piece ∈ spaces, piece.isPrefixOf text = false) ∧
      ∀ piece ∈ spaces.map List.reverse, piece.isPrefixOf text = false := by
  cases text with
  | nil => exact (nonempty rfl).elim
  | cons first rest =>
      obtain ⟨value, small, rfl⟩ := digits first List.mem_cons_self
      have checked :
          ∀ value : Fin 16,
            (spaces.all fun piece =>
                piece.head?.any fun byte => !byte == hexDigit (UInt8.ofNat value)) = true ∧
              ((spaces.map List.reverse).all fun piece =>
                piece.head?.any fun byte => !byte == hexDigit (UInt8.ofNat value)) = true := by
        decide +kernel
      have found := checked ⟨value.toNat, small⟩
      rw [UInt8.ofNat_toNat] at found
      exact ⟨isPrefixOf_eq_false found.1 rest, isPrefixOf_eq_false found.2 rest⟩

/-- Hexadecimal text has no space around it. -/
theorem trimSpace_hexEncode
    (bytes : Bytes) :
    trimSpace (hexEncode bytes) = hexEncode bytes := by
  by_cases empty : hexEncode bytes = []
  · rw [empty]
    rfl
  · have front := (solid_of_hexDigits (fun _ member => hexDigit_of_mem_hexEncode member) empty).1
    have back :=
      (solid_of_hexDigits
        (fun _ member => hexDigit_of_mem_hexEncode (List.mem_reverse.mp member))
        (fun reversed => empty (List.reverse_eq_nil_iff.mp reversed))).2
    rw [trimSpace, dropPieces_eq_self front, dropPieces_eq_self back, List.reverse_reverse]

/-- Random bytes have a text. -/
private theorem randomText_ne_nil
    (random : Vector UInt8 32) :
    hexEncode random.toList ≠ [] := by
  apply hexEncode_ne_nil
  intro none
  have length := random.length_toList
  rw [none] at length
  cases length

end Spaces

section Answers

/-- The middleware returns no session. -/
private theorem sessionMiddleware_ne_session
    {store : SessionStore}
    {header : String → Bytes}
    {now expiresAtMS : Int}
    {token : Bytes} :
    sessionMiddleware store header now ≠ .error (.session token expiresAtMS) := by
  unfold sessionMiddleware
  split
  · rintro ⟨⟩
  · split <;> rintro ⟨⟩

/-- A foreign origin is answered with no session. -/
private theorem foreignOrigin_ne_session
    {deps : Deps}
    {header : String → Bytes}
    {token : Bytes}
    {expiresAtMS : Int} :
    foreignOrigin deps header ≠ some (.session token expiresAtMS) := by
  unfold foreignOrigin
  split <;> rintro ⟨⟩

/-- The header that the client sends carries its token. -/
private theorem bearerToken_of_header
    {header : String → Bytes}
    {bytes : Bytes}
    (sent : header "Authorization" = bytesOf "Bearer " ++ hexEncode bytes)
    (nonempty : hexEncode bytes ≠ []) :
    bearerToken header = some (hexEncode bytes) := by
  unfold bearerToken
  simp only [sent, List.isPrefixOf_iff_prefix.mpr (List.prefix_append _ _), if_true,
    List.drop_left, trimSpace_hexEncode, if_neg nonempty]

/-- The end of a query is no session. -/
private theorem concludeQuery_ne_session
    [ProxyLibraries]
    {ε : Type}
    {verdict : Except ε Bool}
    {request : MetricsRequest}
    {now expiresAtMS : Int}
    {token : Bytes} :
    concludeQuery verdict request now ≠ .session token expiresAtMS := by
  unfold concludeQuery
  split
  · exact Outcome.noConfusion
  · exact Outcome.noConfusion
  · split
    · exact Outcome.noConfusion
    · split <;> exact Outcome.noConfusion

end Answers

section Component

variable [Certification] [PrincipalText] [ProxyLibraries] {ε : Type} {deps : Deps}

/-- The call of the session store that an event makes, if any. -/
def sessionEvent (deps : Deps) : ServerEvent ε → Option SessionEvent
  | .session request skewReading expiryReading random now =>
      if (foreignOrigin deps request.header).isNone then
        match serveHTTP deps.iiAuth request skewReading expiryReading with
        | .next principal => some (.mint principal random now)
        | .unauthorized _ => none
      else
        none
  | .minted index => some (.minted index)
  | .list request now | .query request now =>
      if (foreignOrigin deps request.header).isNone then
        (bearerToken request.header).map fun token => .lookup token now
      else
        none
  | .authorize _ _ _ | .reply _ _ _ => none

omit [Certification] [PrincipalText] [ProxyLibraries] in
/-- The middleware looks the token up, if there is one. -/
private theorem sessions_of_lookupSession
    {sessions after : Sessions}
    {header : String → Bytes}
    {now : Int}
    (looked : lookupSession sessions header now = some after) :
    match (bearerToken header).map fun token => SessionEvent.lookup token now with
    | some call => sessions.step call = some after
    | none => after = sessions := by
  unfold lookupSession at looked
  cases sent : bearerToken header with
  | none =>
      rw [sent] at looked
      exact (Option.some.inj looked).symm
  | some token =>
      rw [sent] at looked
      exact looked

variable {server after : MetricsServer}

/-- An event changes the session store by the call that it makes. -/
theorem sessions_of_step
    {event : ServerEvent ε}
    (stepped : server.step deps event = some after) :
    match sessionEvent deps event with
    | some call => server.sessions.step call = some after.sessions
    | none => after.sessions = server.sessions := by
  obtain ⟨⟨outcome, next⟩, served, rfl⟩ := Option.map_eq_some_iff.mp stepped
  cases event with
  | session request skewReading expiryReading random now =>
      simp only [MetricsServer.serve] at served
      split at served
      · cases domestic : foreignOrigin deps request.header with
        | some refusal =>
            rw [domestic] at served
            cases served
            simp [sessionEvent, domestic]
        | none =>
            cases passed : serveHTTP deps.iiAuth request skewReading expiryReading with
            | unauthorized message =>
                simp only [domestic, passed] at served
                cases served
                simp [sessionEvent, domestic, passed]
            | next principal =>
                simp only [domestic, passed] at served
                obtain ⟨sessions, minting, same⟩ := Option.map_eq_some_iff.mp served
                cases same
                simpa [sessionEvent, domestic, passed] using minting
      · cases served
  | minted index =>
      obtain ⟨minting, -, served⟩ := Option.bind_eq_some_iff.mp served
      obtain ⟨sessions, finished, same⟩ := Option.map_eq_some_iff.mp served
      cases same
      exact finished
  | list request now =>
      simp only [MetricsServer.serve] at served
      cases domestic : foreignOrigin deps request.header with
      | some refusal =>
          rw [domestic] at served
          cases served
          simp [sessionEvent, domestic]
      | none =>
          rw [domestic] at served
          obtain ⟨sessions, looked, same⟩ := Option.map_eq_some_iff.mp served
          cases same
          simpa [sessionEvent, domestic] using sessions_of_lookupSession looked
  | query request now =>
      simp only [MetricsServer.serve] at served
      cases domestic : foreignOrigin deps request.header with
      | some refusal =>
          rw [domestic] at served
          cases served
          simp [sessionEvent, domestic]
      | none =>
          rw [domestic] at served
          obtain ⟨sessions, looked, same⟩ := Option.map_eq_some_iff.mp served
          have kept : next.sessions = sessions := by
            revert same
            split
            · rintro ⟨⟩
              rfl
            · split
              · rintro ⟨⟩
                rfl
              · rintro ⟨⟩
                rfl
          rw [kept]
          simpa [sessionEvent, domestic] using sessions_of_lookupSession looked
  | authorize index now rangeNow =>
      obtain ⟨admitted, waited, served⟩ := Option.bind_eq_some_iff.mp served
      obtain ⟨⟨verdict, cache⟩, answered, same⟩ := Option.map_eq_some_iff.mp served
      cases verdict <;> cases same <;> rfl
  | reply index reply rangeNow =>
      obtain ⟨admitted, waited, served⟩ := Option.bind_eq_some_iff.mp served
      obtain ⟨⟨verdict, cache⟩, answered, same⟩ := Option.map_eq_some_iff.mp served
      cases same
      rfl

/-- A session is returned by an event that gets the lock of the session store. -/
theorem minted_of_session
    {event : ServerEvent ε}
    {token : Bytes}
    {expiresAtMS : Int}
    (returned :
      (server.serve deps event).bind Prod.fst = some (.session token expiresAtMS)) :
    ∃ index minting,
      event = .minted index ∧ server.sessions.minting[index]? = some minting ∧
        token = minting.token ∧
          expiresAtMS =
            (minting.now + server.sessions.store.ttl.nanoseconds) / 1000000 := by
  obtain ⟨⟨outcome, after⟩, served, rfl⟩ := Option.bind_eq_some_iff.mp returned
  cases event with
  | session request skewReading expiryReading random now =>
      simp only [MetricsServer.serve] at served
      split at served
      · split at served
        · rename_i refused
          cases served
          exact (foreignOrigin_ne_session refused).elim
        · split at served
          · cases served
          · obtain ⟨sessions, -, same⟩ := Option.map_eq_some_iff.mp served
            have answered := congrArg Prod.fst same
            dsimp only at answered
            split at answered <;> cases answered
      · cases served
  | minted index =>
      obtain ⟨minting, waiting, served⟩ := Option.bind_eq_some_iff.mp served
      obtain ⟨sessions, -, same⟩ := Option.map_eq_some_iff.mp served
      cases same
      exact ⟨index, minting, rfl, waiting, rfl, rfl⟩
  | list request now =>
      simp only [MetricsServer.serve] at served
      split at served
      · rename_i refused
        cases served
        exact (foreignOrigin_ne_session refused).elim
      · obtain ⟨sessions, -, same⟩ := Option.map_eq_some_iff.mp served
        have answered := congrArg Prod.fst same
        dsimp only at answered
        split at answered
        · rename_i refused
          cases answered
          exact (sessionMiddleware_ne_session refused).elim
        · cases answered
  | query request now =>
      simp only [MetricsServer.serve] at served
      split at served
      · rename_i refused
        cases served
        exact (foreignOrigin_ne_session refused).elim
      · obtain ⟨sessions, -, same⟩ := Option.map_eq_some_iff.mp served
        split at same
        · rename_i refused
          cases same
          exact (sessionMiddleware_ne_session refused).elim
        · split at same <;> cases same
  | authorize index now rangeNow =>
      obtain ⟨admitted, -, served⟩ := Option.bind_eq_some_iff.mp served
      obtain ⟨⟨verdict, cache⟩, -, same⟩ := Option.map_eq_some_iff.mp served
      cases verdict with
      | none => cases same
      | some verdict =>
          have answered := congrArg Prod.fst same
          exact (concludeQuery_ne_session (Option.some.inj answered)).elim
  | reply index reply rangeNow =>
      obtain ⟨admitted, -, served⟩ := Option.bind_eq_some_iff.mp served
      obtain ⟨⟨verdict, cache⟩, -, same⟩ := Option.map_eq_some_iff.mp served
      have answered := congrArg Prod.fst same
      obtain ⟨verdict, -, concluded⟩ := Option.map_eq_some_iff.mp answered
      exact (concludeQuery_ne_session concluded).elim

namespace MetricsRun

variable {start : Int} (run : MetricsRun ε deps start)

/-- The session store is a component of the proxy. -/
def sessionComponent : Component run Sessions.step where
  view := MetricsServer.sessions
  event time := sessionEvent deps (run.event time)
  moves time within call called := by
    have stepped := sessions_of_step (run.advances time within)
    rw [called] at stepped
    exact stepped
  rests time within silent := by
    have stepped := sessions_of_step (run.advances time within)
    rw [silent] at stepped
    exact stepped

/-- The run of the session store. -/
def sessionRun : SessionRun deps.sessions start :=
  run.sessionComponent.run (.minted 0)

/-- A request for a session draws random bytes. -/
def Draws (time : Nat) (random : Vector UInt8 32) : Prop :=
  ∃ request skewReading expiryReading now,
    run.event time = .session request skewReading expiryReading (some random) now

/-- No two requests for a session draw the same random bytes. -/
def DistinctRandom : Prop :=
  ∀ first second random,
    first < run.length → second < run.length →
      run.Draws first random → run.Draws second random → first = second

variable {run} {time : Nat}

/-- What draws a token in the run of the session store is a request that draws its bytes. -/
theorem draws_of_sessionEvent
    {call : SessionEvent}
    {minting : Minting}
    (called : sessionEvent deps (run.event time) = some call)
    (drawn : call.draws = some minting) :
    ∃ random : Vector UInt8 32,
      minting.token = hexEncode random.toList ∧ run.Draws time random := by
  cases call with
  | minted index => cases drawn
  | lookup token now => cases drawn
  | mint principal random now =>
      obtain ⟨bytes, rfl, rfl⟩ := Option.map_eq_some_iff.mp drawn
      refine ⟨bytes, rfl, ?_⟩
      cases event : run.event time with
      | session request skewReading expiryReading random now =>
          rw [event] at called
          simp only [sessionEvent] at called
          split at called
          · split at called
            · cases called
              exact ⟨request, skewReading, expiryReading, _, event⟩
            · cases called
          · cases called
      | minted index =>
          rw [event] at called
          cases called
      | list request now =>
          rw [event] at called
          simp [sessionEvent] at called
      | query request now =>
          rw [event] at called
          simp [sessionEvent] at called
      | authorize index now rangeNow =>
          rw [event] at called
          cases called
      | reply index reply rangeNow =>
          rw [event] at called
          cases called

/-- Distinct random bytes make distinct tokens. -/
theorem distinctTokens
    (distinct : run.DistinctRandom) :
    run.sessionRun.DistinctTokens := by
  intro first second minting other firstWithin secondWithin firstDraws secondDraws same
  obtain ⟨firstTime, firstBefore, rfl, firstMoved⟩ :=
    run.sessionComponent.exists_move firstWithin
  obtain ⟨secondTime, secondBefore, rfl, secondMoved⟩ :=
    run.sessionComponent.exists_move secondWithin
  obtain ⟨random, token, draws⟩ := draws_of_sessionEvent firstMoved firstDraws
  obtain ⟨otherRandom, otherToken, otherDraws⟩ := draws_of_sessionEvent secondMoved secondDraws
  rw [token, otherToken] at same
  obtain rfl : random = otherRandom := Vector.toList_inj.mp (hexEncode_injective same)
  rw [distinct firstTime secondTime random firstBefore secondBefore draws otherDraws]

/-- Getting the lock is a move of the session store. -/
private theorem sessionComponent_event
    {index : Nat}
    (event : run.event time = .minted index) :
    run.sessionComponent.event time = some (.minted index) := by
  show sessionEvent deps (run.event time) = _
  rw [event]
  rfl

/-- The move has its place in the run of the session store. -/
private theorem sessionRun_event
    {index : Nat}
    (within : time < run.length)
    (event : run.event time = .minted index) :
    run.sessionRun.event (run.sessionComponent.count time) = .minted index :=
  (run.sessionComponent.run_event within (sessionComponent_event event)).2

/-- The states of the session store are those of its run. -/
private theorem sessionRun_state
    (within : time ≤ run.length) :
    run.sessionRun.state (run.sessionComponent.count time) = (run.state time).sessions :=
  run.sessionComponent.run_state within

/-- A session that was returned is in the store while it lives. -/
private theorem stored_of_minted
    {minted asked index : Nat}
    {minting : Minting}
    {now : Int}
    (distinct : run.DistinctRandom)
    (before : minted < asked)
    (within : asked ≤ run.length)
    (event : run.event minted = .minted index)
    (waiting : (run.state minted).sessions.minting[index]? = some minting)
    (come : (run.state asked).sessions.clock ≤ now)
    (alive : now < minting.now + deps.sessions.nanoseconds) :
    (run.state asked).sessions.store.sessions[minting.token]? =
      some ⟨minting.principal, minting.now + deps.sessions.nanoseconds⟩ := by
  have inTime := before.trans_le within
  have lifetime := (sessionsSound inTime.le).ttl
  have returns :
      run.sessionRun.Minted (run.sessionComponent.count asked) minting.token
        ⟨minting.principal, minting.now + deps.sessions.nanoseconds⟩ := by
    refine ⟨run.sessionComponent.count minted,
      run.sessionComponent.count_lt_count before (sessionComponent_event event), index, minting,
      sessionRun_event inTime event, ?_, rfl, ?_⟩
    · rw [sessionRun_state inTime.le]
      exact waiting
    · rw [sessionRun_state inTime.le, SessionStore.finishMint, lifetime]
  have come : (run.sessionRun.state (run.sessionComponent.count asked)).clock ≤ now := by
    rw [sessionRun_state within]
    exact come
  have stored :=
    SessionRun.stored_iff (distinctTokens distinct)
      (run.sessionComponent.count_le_length within) come minting.token
      ⟨minting.principal, minting.now + deps.sessions.nanoseconds⟩
  rw [sessionRun_state within] at stored
  exact (stored.mpr ⟨returns, alive⟩).1

/-- A query reads the clock no earlier than the session store did. -/
private theorem clock_le_of_query
    {request : MetricsRequest}
    {token : Bytes}
    {now : Int}
    (within : time < run.length)
    (event : run.event time = .query request now)
    (domestic : foreignOrigin deps request.header = none)
    (sent : bearerToken request.header = some token) :
    (run.state time).sessions.clock ≤ now := by
  have stepped := sessions_of_step (run.advances time within)
  have called : sessionEvent deps (run.event time) = some (.lookup token now) := by
    simp [event, sessionEvent, domestic, sent]
  rw [called] at stepped
  by_contra later
  simp only [Sessions.step, if_neg later] at stepped
  cases stepped

/-- What becomes of a query whose session is found. -/
private theorem serve_query
    {server : MetricsServer}
    {request : MetricsRequest}
    {token : Bytes}
    {caller : Principal}
    {now : Int}
    (domestic : foreignOrigin deps request.header = none)
    (sent : bearerToken request.header = some token)
    (found : (server.sessions.store.lookup now token).1 = (caller, true))
    (come : server.sessions.clock ≤ now) :
    ∃ outcome after,
      server.serve (ε := ε) deps (.query request now) = some (outcome, after) ∧
        ((decodePrincipal request.canisterID = .ok () ∧ outcome = none ∧
            after.admitted = server.admitted ++ [⟨request, caller⟩]) ∨
          ∃ message,
            decodePrincipal request.canisterID = .error message ∧
              outcome = some (.error 400 s!"invalid canister id: {message}")) := by
  have passed : sessionMiddleware server.sessions.store request.header now = .ok caller := by
    simp only [sessionMiddleware, sent, found]
  simp only [MetricsServer.serve, domestic, lookupSession, sent, Sessions.step, if_pos come,
    Option.map_some, passed]
  cases decodePrincipal request.canisterID with
  | error message => exact ⟨_, _, rfl, .inr ⟨message, rfl, rfl⟩⟩
  | ok _ => exact ⟨_, _, rfl, .inl ⟨rfl, rfl, rfl⟩⟩

/-- A query with the token of a session that lives goes on as one of its principal. -/
theorem query_of_minting
    {minted asked index : Nat}
    {minting : Minting}
    {request : MetricsRequest}
    {now : Int}
    (distinct : run.DistinctRandom)
    (before : minted < asked)
    (within : asked < run.length)
    (gotLock : run.event minted = .minted index)
    (waiting : (run.state minted).sessions.minting[index]? = some minting)
    (event : run.event asked = .query request now)
    (domestic : foreignOrigin deps request.header = none)
    (sent : request.header "Authorization" = bytesOf "Bearer " ++ minting.token)
    (alive : now < minting.now + deps.sessions.nanoseconds) :
    ∃ outcome after,
      (run.state asked).serve deps (run.event asked) = some (outcome, after) ∧
        ((decodePrincipal request.canisterID = .ok () ∧ outcome = none ∧
            after.admitted = (run.state asked).admitted ++ [⟨request, minting.principal⟩]) ∨
          ∃ message,
            decodePrincipal request.canisterID = .error message ∧
              outcome = some (.error 400 s!"invalid canister id: {message}")) := by
  have inTime := before.trans within
  obtain ⟨-, -, random, drawn, -⟩ :=
    (sessionsSound inTime.le).minting minting (List.mem_of_getElem? waiting)
  have bearer : bearerToken request.header = some minting.token := by
    rw [drawn] at sent ⊢
    exact bearerToken_of_header sent (randomText_ne_nil random)
  have come := clock_le_of_query within event domestic bearer
  have stored := stored_of_minted distinct before within.le gotLock waiting come alive
  have found :
      ((run.state asked).sessions.store.lookup now minting.token).1 =
        (minting.principal, true) :=
    SessionStore.lookup_eq_iff.mpr ⟨_, stored, alive⟩
  rw [event]
  exact serve_query domestic bearer found come

omit [Certification] [PrincipalText] [ProxyLibraries] in
/-- A query that arrives within the client's margin of a fresh session arrives while it lives. -/
theorem alive_of_fresh
    {expiresAt clientNow now : Int}
    (fresh : clientNow < expiresAt / 1000000 - SESSION_REFRESH_BUFFER_MS)
    (prompt : now ≤ (clientNow + SESSION_REFRESH_BUFFER_MS) * 1000000) :
    now < expiresAt := by
  have rounded := Int.ediv_mul_le expiresAt (by decide : (1000000 : Int) ≠ 0)
  have margin :
      (clientNow + SESSION_REFRESH_BUFFER_MS) * 1000000 < expiresAt / 1000000 * 1000000 := by
    linarith
  exact (prompt.trans_lt margin).trans_le rounded

/--
A session that the proxy returned, and that the client finds fresh, opens a query
that arrives within the client's margin, however the requests interleave: the
query goes on as one of the principal that signed the request which drew the
session's token, unless its canister is none.
-/
theorem liveSession_admitted
    (run : MetricsRun ε deps start)
    (distinct : run.DistinctRandom)
    (minted asked : Nat)
    (before : minted < asked)
    (within : asked < run.length)
    (token : Bytes)
    (expiresAtMS clientNow now : Int)
    (returned :
      ((run.state minted).serve deps (run.event minted)).bind Prod.fst =
        some (.session token expiresAtMS))
    (request : MetricsRequest)
    (event : run.event asked = .query request now)
    (domestic : foreignOrigin deps request.header = none)
    (sent : request.header "Authorization" = bytesOf "Bearer " ++ token)
    (fresh : clientNow < expiresAtMS - SESSION_REFRESH_BUFFER_MS)
    (prompt : now ≤ (clientNow + SESSION_REFRESH_BUFFER_MS) * 1000000) :
    ∃ caller provedAt outcome after,
      run.Proved minted token caller provedAt ∧
        (run.state asked).serve deps (run.event asked) = some (outcome, after) ∧
          ((decodePrincipal request.canisterID = .ok () ∧ outcome = none ∧
              after.admitted = (run.state asked).admitted ++ [⟨request, caller⟩]) ∨
            ∃ message,
              decodePrincipal request.canisterID = .error message ∧
                outcome = some (.error 400 s!"invalid canister id: {message}")) := by
  obtain ⟨index, minting, gotLock, waiting, rfl, rfl⟩ := minted_of_session returned
  have sound := sessionsSound (before.trans within).le
  rw [sound.ttl] at fresh
  have proved := sound.minting minting (List.mem_of_getElem? waiting)
  obtain ⟨outcome, after, served, becomes⟩ :=
    query_of_minting distinct before within gotLock waiting event domestic sent
      (alive_of_fresh fresh prompt)
  exact ⟨minting.principal, minting.now, outcome, after, proved, served, becomes⟩

end MetricsRun

end Component

section RecordedSession

attribute [local instance] recorded userTexts recordedLibraries

/-- One request of the recorded run draws random bytes. -/
private theorem memoryRun_distinct : memoryRun.DistinctRandom := by
  have drawing :
      ∀ time, time < 5 → ∀ random, MetricsRun.Draws memoryRun time random → time = 0 := by
    intro time within random draws
    obtain ⟨request, skewReading, expiryReading, now, event⟩ := draws
    interval_cases time
    · rfl
    all_goals cases event
  intro first second random firstWithin secondWithin firstDraws secondDraws
  rw [drawing first firstWithin random firstDraws, drawing second secondWithin random secondDraws]

/-- Whether an outcome is a session. -/
def Outcome.isSession (token : Bytes) (expiresAtMS : Int) : Outcome → Bool
  | .session other otherExpiresAtMS => other == token && otherExpiresAtMS == expiresAtMS
  | _ => false

/-- An outcome that is a session is that session. -/
theorem eq_session_of_isSession
    {token : Bytes}
    {expiresAtMS : Int}
    {outcome : Outcome}
    (is : outcome.isSession token expiresAtMS = true) :
    outcome = .session token expiresAtMS := by
  cases outcome with
  | session other otherExpiresAtMS =>
      simp only [Outcome.isSession, Bool.and_eq_true, beq_iff_eq] at is
      rw [is.1, is.2]
  | error status message => cases is
  | metrics list => cases is
  | forward metric query => cases is

/-- The proxy returns the session in the recorded run. -/
private theorem memoryRun_returns :
    ((memoryRun.state 1).serve recordedDeps (memoryRun.event 1)).bind Prod.fst =
      some (.session (hexEncode (List.replicate 32 17)) 1700000900000) := by
  have evaluated :
      (((memoryRun.state 1).serve recordedDeps (memoryRun.event 1)).bind Prod.fst).any
          (Outcome.isSession (hexEncode (List.replicate 32 17)) 1700000900000) = true := by
    rw [memoryRun_state]
    decide +kernel
  obtain ⟨outcome, found, is⟩ := (Option.any_eq_true _ _).mp evaluated
  rw [found, eq_session_of_isSession is]

/-- The session of the recorded run opens its query. -/
theorem liveSession_admitted_memoryRun :
    ∃ caller provedAt outcome after,
      memoryRun.Proved 1 (hexEncode (List.replicate 32 17)) caller provedAt ∧
        (memoryRun.state 2).serve recordedDeps (memoryRun.event 2) = some (outcome, after) ∧
          ((decodePrincipal memoryRequest.canisterID = .ok () ∧ outcome = none ∧
              after.admitted = (memoryRun.state 2).admitted ++ [⟨memoryRequest, caller⟩]) ∨
            ∃ message,
              decodePrincipal memoryRequest.canisterID = .error message ∧
                outcome = some (.error 400 s!"invalid canister id: {message}")) :=
  memoryRun.liveSession_admitted memoryRun_distinct 1 2 (by decide) (by decide)
    (hexEncode (List.replicate 32 17)) 1700000900000 1700000000500 (1700000001 * second)
    memoryRun_returns memoryRequest rfl rfl rfl (by decide) (by decide)

end RecordedSession

end SsnConsole.MetricsProxy
