import SsnConsole.AuthServer

/-!
# What the auth service mails

However its requests interleave, the service has no more sends in flight than it
allows, and mails an address only what a request for that address asked for, with
a token of the purpose that was asked for.  If the readings of the clock come in
the order of the throttle's lock, it mails no two requests for one purpose and
address whose readings are within the throttle's window.
-/

namespace SsnConsole.AuthService

open SsnConsole.ForgetfulMap
open SsnConsole.GoStandard
open SsnConsole.HttpService
open SsnConsole.MessageRun
open SsnConsole.UrlQuery

section Delivery

variable [AuthLibraries] {deps : Deps} {start : Int}

/-- The readings of two requests for one purpose and address are apart by the window. -/
def Admission.Apart (first second : Admission) : Prop :=
  first.route = second.route → first.email = second.email →
    perEmailThrottle.nanoseconds ≤ |first.admittedAt - second.admittedAt|

omit [AuthLibraries] in
/-- It does not matter which of the two came first. -/
theorem Admission.Apart.symm
    {first second : Admission}
    (apart : first.Apart second) :
    second.Apart first := by
  intro sameRoute sameEmail
  rw [abs_sub_comm]
  exact apart sameRoute.symm sameEmail.symm

namespace AuthServer

/-- The requests that the throttle let through and that were not dropped later. -/
def ledger (server : AuthServer) : List Admission :=
  server.admitted ++ server.composed.map Mail.admission ++ server.mailed.map Mail.admission

/-- What holds of the service whatever happened. -/
structure Sound (server : AuthServer) : Prop where
  capacity : server.inFlight.length ≤ maxInFlightSends
  sending : ∀ mail ∈ server.inFlight, mail ∈ server.mailed

/-- What holds of the service if the readings come in the order of the throttle's lock. -/
structure Spaced (server : AuthServer) : Prop where
  apart : server.ledger.Pairwise Admission.Apart
  /-- The throttle remembers a request at least as late as every one in the ledger. -/
  remembers :
    ∃ written,
      Remembers isRecent server.throttle written server.clock ∧
        ∀ admission ∈ server.ledger,
          ∃ last, written admission.call.key = some last ∧ admission.admittedAt ≤ last

omit [AuthLibraries] in
/-- A new service is sound. -/
theorem Sound.new : (AuthServer.new start).Sound where
  capacity := Nat.zero_le _
  sending _ member := absurd member List.not_mem_nil

/-- A new service is spaced. -/
theorem Spaced.new : (AuthServer.new start).Spaced where
  apart := List.Pairwise.nil
  remembers := ⟨fun _ => none, .empty, fun _ member => absurd member List.not_mem_nil⟩

variable {server after : AuthServer}

/-- What one atomic step does, branch by branch. -/
inductive Change (deps : Deps) (server : AuthServer) :
    AuthEvent → Option Nat → AuthServer → Prop
  | foreign {route header body now status message}
      (refused : withCORS deps.allowedOrigins (header "Origin") = .error (status, message)) :
      Change deps server (.receive route header body now) (some status) server
  | malformed {route header body now headers}
      (passed : withCORS deps.allowedOrigins (header "Origin") = .ok headers)
      (unreadable : requestedEmail body = none) :
      Change deps server (.receive route header body now) (some 202) server
  | throttled {route header body now email headers}
      (passed : withCORS deps.allowedOrigins (header "Origin") = .ok headers)
      (requested : requestedEmail body = some email)
      (refused : (allowSend server.throttle (Admission.call ⟨route, email, now⟩)).1 = false) :
      Change deps server (.receive route header body now) (some 202)
        { server with
          throttle := (allowSend server.throttle (Admission.call ⟨route, email, now⟩)).2
          clock := now }
  | admitted {route header body now email headers}
      (passed : withCORS deps.allowedOrigins (header "Origin") = .ok headers)
      (requested : requestedEmail body = some email)
      (allowed : (allowSend server.throttle (Admission.call ⟨route, email, now⟩)).1 = true) :
      Change deps server (.receive route header body now) none
        { server with
          throttle := (allowSend server.throttle (Admission.call ⟨route, email, now⟩)).2
          clock := now
          admitted := ⟨route, email, now⟩ :: server.admitted }
  | failed {index now admission}
      (found : server.admitted[index]? = some admission)
      (failed : composeMail deps admission now = none) :
      Change deps server (.compose index now) (some 202)
        { server with admitted := server.admitted.eraseIdx index }
  | composed {index now admission mail}
      (found : server.admitted[index]? = some admission)
      (composed : composeMail deps admission now = some mail) :
      Change deps server (.compose index now) none
        { server with
          admitted := server.admitted.eraseIdx index
          composed := mail :: server.composed }
  | launched {index mail}
      (found : server.composed[index]? = some mail)
      (room : server.inFlight.length < maxInFlightSends) :
      Change deps server (.launch index) (some 202)
        { server with
          composed := server.composed.eraseIdx index
          inFlight := mail :: server.inFlight
          mailed := mail :: server.mailed }
  | capped {index mail}
      (found : server.composed[index]? = some mail)
      (full : ¬ server.inFlight.length < maxInFlightSends) :
      Change deps server (.launch index) (some 202)
        { server with composed := server.composed.eraseIdx index }
  | finished {index}
      (sending : index < server.inFlight.length) :
      Change deps server (.finish index) none
        { server with inFlight := server.inFlight.eraseIdx index }

/-- Every atomic step takes one of the branches. -/
theorem change_of_serve
    {event : AuthEvent}
    {status : Option Nat}
    (served : server.serve deps event = some (status, after)) :
    server.Change deps event status after := by
  cases event with
  | receive route header body now =>
      simp only [AuthServer.serve] at served
      cases passed : withCORS deps.allowedOrigins (header "Origin") with
      | error refusal =>
          simp only [passed] at served
          cases served
          exact .foreign passed
      | ok headers =>
          simp only [passed, AuthServer.receive] at served
          cases requested : requestedEmail body with
          | none =>
              simp only [requested] at served
              cases served
              exact .malformed passed requested
          | some email =>
              simp only [requested] at served
              split at served
              · rename_i allowed
                cases served
                exact .admitted passed requested allowed
              · rename_i refused
                cases served
                exact .throttled passed requested (Bool.not_eq_true _ ▸ refused)
  | compose index now =>
      simp only [AuthServer.serve, Option.map_eq_some_iff] at served
      obtain ⟨admission, found, served⟩ := served
      split at served
      · rename_i failed
        cases served
        exact .failed found failed
      · rename_i mail composed
        cases served
        exact .composed found composed
  | launch index =>
      simp only [AuthServer.serve, Option.map_eq_some_iff] at served
      obtain ⟨mail, found, served⟩ := served
      unfold AuthServer.launch at served
      split at served
      · rename_i room
        cases served
        exact .launched found room
      · rename_i full
        cases served
        exact .capped found full
  | finish index =>
      simp only [AuthServer.serve] at served
      split at served
      · rename_i sending
        cases served
        exact .finished sending
      · cases served

/-- Every step keeps the service sound. -/
theorem Sound.change
    {event : AuthEvent}
    {status : Option Nat}
    (sound : server.Sound)
    (change : server.Change deps event status after) :
    after.Sound := by
  cases change with
  | foreign | malformed | throttled | admitted | failed | composed | capped =>
      exact ⟨sound.capacity, sound.sending⟩
  | @launched index mail found room =>
      refine ⟨room, ?_⟩
      intro sent member
      rcases List.mem_cons.mp member with rfl | earlier
      · exact List.mem_cons_self
      · exact List.mem_cons_of_mem mail (sound.sending sent earlier)
  | @finished index sending =>
      refine ⟨(List.length_eraseIdx_le server.inFlight index).trans sound.capacity, ?_⟩
      exact fun mail member => sound.sending mail ((List.eraseIdx_sublist _ index).subset member)

/-- A service that only moves or drops requests stays spaced. -/
theorem Spaced.of_subperm
    (spaced : server.Spaced)
    (throttle : after.throttle = server.throttle)
    (clock : after.clock = server.clock)
    (moved : after.ledger.Subperm server.ledger) :
    after.Spaced where
  apart := by
    obtain ⟨kept, permuted, sublist⟩ := moved
    have keptApart := spaced.apart.sublist sublist
    exact (permuted.pairwise_iff Admission.Apart.symm).mp keptApart
  remembers := by
    obtain ⟨written, remembers, known⟩ := spaced.remembers
    rw [throttle, clock]
    exact ⟨written, remembers, fun admission member => known admission (moved.subset member)⟩

/-- Requests for one purpose and address have one key. -/
theorem call_key_eq
    {first second : Admission}
    (sameRoute : first.route = second.route)
    (sameEmail : first.email = second.email) :
    first.call.key = second.call.key := by
  simp only [SendCall.key, Admission.call, sameRoute, sameEmail]

/-- A request that the throttle lets through is apart from all others. -/
theorem Spaced.admit
    (admission : Admission)
    (spaced : server.Spaced)
    (later : server.clock ≤ admission.admittedAt)
    (allowed : (allowSend server.throttle admission.call).1 = true) :
    Spaced
      { server with
        throttle := (allowSend server.throttle admission.call).2
        clock := admission.admittedAt
        admitted := admission :: server.admitted } where
  apart := by
    obtain ⟨written, remembers, known⟩ := spaced.remembers
    have waited := (allowSend_eq_true_iff remembers later).mp allowed
    refine List.Pairwise.cons ?_ spaced.apart
    intro other member sameRoute sameEmail
    obtain ⟨last, wrote, notLater⟩ := known other member
    rw [← call_key_eq sameRoute sameEmail] at wrote
    have apart := waited last wrote
    have forward : perEmailThrottle.nanoseconds ≤ admission.admittedAt - other.admittedAt := by
      have reading : admission.call.now = admission.admittedAt := rfl
      omega
    exact forward.trans (le_abs_self _)
  remembers := by
    obtain ⟨written, remembers, known⟩ := spaced.remembers
    have waited := (allowSend_eq_true_iff remembers later).mp allowed
    refine ⟨_, remembers_allowSend remembers later, ?_⟩
    have wrote :
        writtenAfter written server.throttle admission.call =
          Function.update written admission.call.key (some admission.admittedAt) := by
      rw [writtenAfter, if_pos allowed]
      rfl
    rw [wrote]
    intro other member
    rcases List.mem_cons.mp member with rfl | earlier
    · exact ⟨other.admittedAt, Function.update_self _ _ _, le_refl _⟩
    · obtain ⟨last, before, notLater⟩ := known other earlier
      by_cases sameKey : other.call.key = admission.call.key
      · have apart := waited last (sameKey ▸ before)
        have window : 0 ≤ perEmailThrottle.nanoseconds := by decide
        have reading : admission.call.now = admission.admittedAt := rfl
        refine ⟨admission.admittedAt, ?_, by omega⟩
        rw [sameKey, Function.update_self]
      · exact ⟨last, by rw [Function.update_of_ne sameKey]; exact before, notLater⟩

/-- A request that the throttle refuses leaves the ledger alone. -/
theorem Spaced.refuse
    (call : SendCall)
    (spaced : server.Spaced)
    (later : server.clock ≤ call.now)
    (refused : (allowSend server.throttle call).1 = false) :
    Spaced
      { server with
        throttle := (allowSend server.throttle call).2
        clock := call.now } where
  apart := spaced.apart
  remembers := by
    obtain ⟨written, remembers, known⟩ := spaced.remembers
    have same : writtenAfter written server.throttle call = written := by
      rw [writtenAfter, refused]
      rfl
    have after := remembers_allowSend remembers later
    rw [same] at after
    exact ⟨written, after, known⟩

/-- A composed mail answers the request it was composed for. -/
theorem admission_of_composeMail
    {admission : Admission}
    {now : Int}
    {mail : Mail}
    (composed : composeMail deps admission now = some mail) :
    mail.admission = admission := by
  simp only [composeMail, Option.bind_eq_bind, Option.bind_eq_some_iff, Option.some.injEq]
    at composed
  obtain ⟨jwt, -, html, -, rfl⟩ := composed
  rfl

/-- A mail that is composed moves its request along in the ledger. -/
theorem Spaced.compose
    {index : Nat}
    {mail : Mail}
    (spaced : server.Spaced)
    (found : server.admitted[index]? = some mail.admission) :
    Spaced
      { server with
        admitted := server.admitted.eraseIdx index
        composed := mail :: server.composed } := by
  refine spaced.of_subperm rfl rfl (List.Perm.subperm ?_)
  obtain ⟨within, same⟩ := List.getElem?_eq_some_iff.mp found
  have moved := List.getElem_cons_eraseIdx_perm within
  rw [same] at moved
  show (server.admitted.eraseIdx index ++ mail.admission :: server.composed.map Mail.admission ++
    server.mailed.map Mail.admission).Perm server.ledger
  apply List.Perm.append_right
  exact List.perm_middle.trans (moved.append_right _)

/-- A request whose mail fails is dropped from the ledger. -/
theorem Spaced.drop
    (index : Nat)
    (spaced : server.Spaced) :
    Spaced { server with admitted := server.admitted.eraseIdx index } := by
  refine spaced.of_subperm rfl rfl (List.Sublist.subperm ?_)
  show (server.admitted.eraseIdx index ++ server.composed.map Mail.admission ++
    server.mailed.map Mail.admission).Sublist server.ledger
  exact ((List.eraseIdx_sublist server.admitted index).append_right _).append_right _

/-- A mail that takes a place is handed to the mailer. -/
theorem Spaced.launch
    {index : Nat}
    {mail : Mail}
    (spaced : server.Spaced)
    (found : server.composed[index]? = some mail) :
    Spaced
      { server with
        composed := server.composed.eraseIdx index
        inFlight := mail :: server.inFlight
        mailed := mail :: server.mailed } := by
  refine spaced.of_subperm rfl rfl (List.Perm.subperm ?_)
  obtain ⟨within, same⟩ := List.getElem?_eq_some_iff.mp found
  have moved := (List.getElem_cons_eraseIdx_perm within).map Mail.admission
  rw [same] at moved
  show (server.admitted ++ (server.composed.eraseIdx index).map Mail.admission ++
    mail.admission :: server.mailed.map Mail.admission).Perm server.ledger
  have kept :
      (mail.admission :: (server.admitted ++
        (server.composed.eraseIdx index).map Mail.admission)).Perm
          (server.admitted ++ server.composed.map Mail.admission) :=
    List.perm_middle.symm.trans (moved.append_left _)
  exact List.perm_middle.trans (kept.append_right _)

/-- A mail without a place is dropped. -/
theorem Spaced.cap
    (index : Nat)
    (spaced : server.Spaced) :
    Spaced { server with composed := server.composed.eraseIdx index } := by
  refine spaced.of_subperm rfl rfl (List.Sublist.subperm ?_)
  show (server.admitted ++ (server.composed.eraseIdx index).map Mail.admission ++
    server.mailed.map Mail.admission).Sublist server.ledger
  have kept := (List.eraseIdx_sublist server.composed index).map Mail.admission
  exact (kept.append_left _).append_right _

/-- A step whose reading comes in the order of the throttle's lock keeps the service spaced. -/
theorem Spaced.change
    {event : AuthEvent}
    {status : Option Nat}
    (spaced : server.Spaced)
    (change : server.Change deps event status after)
    (later : server.clock ≤ after.clock) :
    after.Spaced := by
  cases change with
  | foreign => exact spaced
  | malformed => exact spaced
  | throttled _ _ refused => exact spaced.refuse _ later refused
  | admitted _ _ allowed => exact spaced.admit _ later allowed
  | failed => exact spaced.drop _
  | composed found composed =>
      rw [← admission_of_composeMail composed] at found
      exact spaced.compose found
  | launched found => exact spaced.launch found
  | capped => exact spaced.cap _
  | finished => exact spaced.of_subperm rfl rfl (List.Subperm.refl _)

/-- A waiting request waited before, or the throttle let it through just now. -/
theorem admitted_of_change
    {event : AuthEvent}
    {status : Option Nat}
    {admission : Admission}
    (change : server.Change deps event status after)
    (member : admission ∈ after.admitted) :
    admission ∈ server.admitted ∨
      ∃ header body,
        event = .receive admission.route header body admission.admittedAt ∧
          (header "Origin" = [] ∨ header "Origin" ∈ deps.allowedOrigins) ∧
            requestedEmail body = some admission.email := by
  cases change with
  | @admitted route header body now email headers passed requested allowed =>
      rcases List.mem_cons.mp member with rfl | earlier
      · exact .inr ⟨header, body, rfl, origin_of_withCORS passed, requested⟩
      · exact .inl earlier
  | failed => exact .inl ((List.eraseIdx_sublist _ _).subset member)
  | composed => exact .inl ((List.eraseIdx_sublist _ _).subset member)
  | foreign => exact .inl member
  | malformed => exact .inl member
  | throttled => exact .inl member
  | launched => exact .inl member
  | capped => exact .inl member
  | finished => exact .inl member

/-- A mail was there before, or it is composed just now for a request that waited. -/
theorem mail_of_change
    {event : AuthEvent}
    {status : Option Nat}
    {mail : Mail}
    (change : server.Change deps event status after)
    (member : mail ∈ after.composed ∨ mail ∈ after.mailed) :
    (mail ∈ server.composed ∨ mail ∈ server.mailed) ∨
      ∃ index now,
        event = .compose index now ∧ mail.admission ∈ server.admitted ∧
          composeMail deps mail.admission now = some mail := by
  cases change with
  | @composed index now admission ready found composed =>
      rcases member with waiting | mailed
      · rcases List.mem_cons.mp waiting with rfl | earlier
        · rw [← admission_of_composeMail composed] at found composed
          exact .inr ⟨index, now, rfl, List.mem_of_getElem? found, composed⟩
        · exact .inl (.inl earlier)
      · exact .inl (.inr mailed)
  | @launched index ready found room =>
      rcases member with waiting | mailed
      · exact .inl (.inl ((List.eraseIdx_sublist _ _).subset waiting))
      · rcases List.mem_cons.mp mailed with rfl | earlier
        · exact .inl (.inl (List.mem_of_getElem? found))
        · exact .inl (.inr earlier)
  | capped =>
      rcases member with waiting | mailed
      · exact .inl (.inl ((List.eraseIdx_sublist _ _).subset waiting))
      · exact .inl (.inr mailed)
  | foreign => exact .inl member
  | malformed => exact .inl member
  | throttled => exact .inl member
  | admitted => exact .inl member
  | failed => exact .inl member
  | finished => exact .inl member

/-- A handler answers 202, whatever became of the request, unless its origin is foreign: then
nothing has happened. -/
theorem status_of_change
    {event : AuthEvent}
    {status : Nat}
    (change : server.Change deps event (some status) after) :
    status = 202 ∨
      after = server ∧
        ∃ route header body now,
          event = .receive route header body now ∧ header "Origin" ≠ [] ∧
            header "Origin" ∉ deps.allowedOrigins := by
  cases change with
  | @foreign route header body now status message refused =>
      refine .inr ⟨rfl, route, header, body, now, rfl, ?_⟩
      unfold withCORS at refused
      split at refused
      · rename_i foreign
        simp only [originAllowed, ne_eq, Bool.and_eq_true, decide_eq_true_eq, Bool.not_eq_true',
          List.any_eq_false, beq_iff_eq] at foreign
        exact ⟨foreign.1, fun member => foreign.2 _ member rfl⟩
      · split at refused <;> cases refused
  | malformed => exact .inl rfl
  | throttled => exact .inl rfl
  | failed => exact .inl rfl
  | launched => exact .inl rfl
  | capped => exact .inl rfl

end AuthServer

section Contents

/-- What a mail says: it goes to the address that asked for it, and its link carries a token of
the purpose that was asked for, which counts for a quarter of an hour. -/
structure Mail.Answers (deps : Deps) (mail : Mail) (signedAt : Int) (jwt : Bytes) : Prop where
  signed :
    AuthLibraries.serialize
        { issuedAt := unix signedAt
          expiry := unix signedAt + 15 * 60
          email := mail.admission.email
          purpose := mail.admission.route.flow.purpose } =
      some jwt
  sender : mail.message.sender = deps.smtpFrom
  recipient : mail.message.recipient = mail.admission.email
  subject : mail.message.subject = mail.admission.route.flow.subject
  /-- Whoever reads the query of the link finds the token. -/
  linked :
    ∃ link query,
      link = deps.frontendURL ++ mail.admission.route.flow.frontendPath ++ 63 :: query ∧
        (parseQuery query).valuesOf (bytesOf "token") = [jwt] ∧
          mail.message.text = mail.admission.route.flow.textTemplate link ∧
            AuthLibraries.execute mail.admission.route.flow.html link = some mail.message.html

/-- Both flows sign tokens of their own purpose. -/
private theorem Route.sign_eq
    (route : Route)
    (now : Int)
    (email : Bytes)
    (ttl : Duration) :
    route.flow.sign now email ttl = signPurposed now email route.flow.purpose ttl := by
  cases route <;> rfl

/-- A composed mail says what it should. -/
theorem answers_of_composeMail
    {admission : Admission}
    {now : Int}
    {mail : Mail}
    (composed : composeMail deps admission now = some mail) :
    ∃ jwt, mail.Answers deps now jwt := by
  simp only [composeMail, Option.bind_eq_bind, Option.bind_eq_some_iff, Option.some.injEq]
    at composed
  obtain ⟨jwt, signed, html, rendered, rfl⟩ := composed
  refine ⟨jwt, ?_, rfl, rfl, rfl, ?_⟩
  · have expires : unix (now + tokenTTL.nanoseconds) = unix now + 15 * 60 := by
      have quarter : tokenTTL.nanoseconds = (15 * 60) * 1000000000 := rfl
      rw [unix, quarter, Int.add_mul_ediv_right _ _ (by decide)]
      rfl
    rw [Route.sign_eq, signPurposed, expires] at signed
    exact signed
  · refine ⟨_, parameterText (bytesOf "token", jwt), ?_, ?_, rfl, rendered⟩
    · have opened : bytesOf "?token=" = 63 :: (queryEscape (bytesOf "token") ++ [61]) := by
        decide +kernel
      simp [tokenLink, opened, parameterText]
    · have read := parseQuery_intercalate [(bytesOf "token", jwt)]
      have single :
          List.intercalate [38] ([(bytesOf "token", jwt)].map parameterText) =
            parameterText (bytesOf "token", jwt) := by
        simp
      rw [single] at read
      rw [read]
      simp [Values.addAll]

end Contents

section Runs

/-- Runs of the service. -/
abbrev AuthRun (deps : Deps) (start : Int) : Type :=
  Execution (AuthServer.step deps) (AuthServer.new start)

namespace AuthRun

variable (run : AuthRun deps start)

/-- Before an event, the readings of the clock came in the order of the throttle's lock. -/
def InLockOrder (time : Nat) : Prop :=
  ∀ earlier < time, (run.state earlier).clock ≤ (run.state (earlier + 1)).clock

/-- Someone asked for a mail before an event, from no foreign origin. -/
def Requested (time : Nat) (admission : Admission) : Prop :=
  ∃ earlier < time, ∃ header body,
    run.event earlier = .receive admission.route header body admission.admittedAt ∧
      (header "Origin" = [] ∨ header "Origin" ∈ deps.allowedOrigins) ∧
        requestedEmail body = some admission.email

/-- A mail was composed before an event, for a request before it. -/
def Composed (time : Nat) (mail : Mail) : Prop :=
  ∃ earlier < time, ∃ index now,
    run.event earlier = .compose index now ∧ run.Requested earlier mail.admission ∧
      composeMail deps mail.admission now = some mail

variable {run} {time : Nat}

/-- A step of a run takes one of the branches. -/
private theorem exists_change
    (within : time < run.length) :
    ∃ status, (run.state time).Change deps (run.event time) status (run.state (time + 1)) := by
  obtain ⟨⟨status, after⟩, served, same⟩ := Option.map_eq_some_iff.mp (run.advances time within)
  cases same
  exact ⟨status, AuthServer.change_of_serve served⟩

/-- The service is sound before every event of a run. -/
theorem sound
    (within : time ≤ run.length) :
    (run.state time).Sound := by
  induction time with
  | zero =>
      rw [run.starts]
      exact .new
  | succ time inductionHypothesis =>
      obtain ⟨status, change⟩ := exists_change within
      exact (inductionHypothesis (Nat.le_of_succ_le within)).change change

/-- Every waiting request was made before. -/
theorem requested_of_admitted
    {admission : Admission}
    (within : time ≤ run.length)
    (member : admission ∈ (run.state time).admitted) :
    run.Requested time admission := by
  induction time with
  | zero =>
      rw [run.starts] at member
      cases member
  | succ time inductionHypothesis =>
      obtain ⟨status, change⟩ := exists_change within
      rcases AuthServer.admitted_of_change change member with earlier | ⟨header, body, received⟩
      · obtain ⟨when, before, asked⟩ :=
          inductionHypothesis (Nat.le_of_succ_le within) earlier
        exact ⟨when, Nat.lt_succ_of_lt before, asked⟩
      · exact ⟨time, Nat.lt_succ_self time, header, body, received⟩

/-- Every mail was composed before. -/
theorem composed_of_mail
    {mail : Mail}
    (within : time ≤ run.length)
    (member : mail ∈ (run.state time).composed ∨ mail ∈ (run.state time).mailed) :
    run.Composed time mail := by
  induction time with
  | zero =>
      rw [run.starts] at member
      rcases member with impossible | impossible <;> cases impossible
  | succ time inductionHypothesis =>
      obtain ⟨status, change⟩ := exists_change within
      rcases AuthServer.mail_of_change change member with
        earlier | ⟨index, now, event, waiting, composed⟩
      · obtain ⟨when, before, made⟩ := inductionHypothesis (Nat.le_of_succ_le within) earlier
        exact ⟨when, Nat.lt_succ_of_lt before, made⟩
      · exact
          ⟨time, Nat.lt_succ_self time, index, now, event,
            requested_of_admitted (Nat.le_of_succ_le within) waiting, composed⟩

/-- The service is spaced as long as the readings come in the order of the throttle's lock. -/
theorem spaced
    (within : time ≤ run.length)
    (ordered : run.InLockOrder time) :
    (run.state time).Spaced := by
  induction time with
  | zero =>
      rw [run.starts]
      exact .new
  | succ time inductionHypothesis =>
      obtain ⟨status, change⟩ := exists_change within
      have before : run.InLockOrder time := fun earlier less =>
        ordered earlier (Nat.lt_succ_of_lt less)
      exact
        (inductionHypothesis (Nat.le_of_succ_le within) before).change change
          (ordered time (Nat.lt_succ_self time))

variable (run time)

/-- What holds of the mails of a service, before every event of its runs. -/
structure MailSound : Prop where
  /-- There are never more sends in flight than places. -/
  capacity : (run.state time).inFlight.length ≤ maxInFlightSends
  sending : ∀ mail ∈ (run.state time).inFlight, mail ∈ (run.state time).mailed
  /-- If the readings come in the order of the throttle's lock, then those of the requests that
  were mailed are apart by the window, for one purpose and address. -/
  apart :
    run.InLockOrder time →
      (run.state time).mailed.Pairwise fun late early => late.admission.Apart early.admission
  /-- Every mail answers a request for it. -/
  answers :
    ∀ mail ∈ (run.state time).mailed,
      ∃ earlier < time, ∃ index signedAt jwt,
        run.event earlier = .compose index signedAt ∧ run.Requested earlier mail.admission ∧
          mail.Answers deps signedAt jwt
  /-- A handler answers 202 in any case, unless the origin is foreign: then nothing happens. -/
  silent :
    ∀ event status after,
      (run.state time).serve deps event = some (some status, after) →
        status = 202 ∨
          after = run.state time ∧
            ∃ route header body now,
              event = .receive route header body now ∧ header "Origin" ≠ [] ∧
                header "Origin" ∉ deps.allowedOrigins

variable {run time}

/-- However its requests interleave, the service mails what was asked for, to whom it was asked
for, and its answers do not say so.  It does so no more often than the throttle says, if the
readings of the clock come in the order of the throttle's lock. -/
theorem mailSound
    (within : time ≤ run.length) :
    run.MailSound time where
  capacity := (sound within).capacity
  sending := (sound within).sending
  apart ordered := by
    have apart := (spaced within ordered).apart
    have mailed := (List.pairwise_append.mp apart).2.1
    exact List.pairwise_map.mp mailed
  answers mail member := by
    obtain ⟨earlier, before, index, now, event, requested, composed⟩ :=
      composed_of_mail within (.inr member)
    obtain ⟨jwt, answers⟩ := answers_of_composeMail composed
    exact ⟨earlier, before, index, now, jwt, event, requested, answers⟩
  silent event status after served :=
    AuthServer.status_of_change (AuthServer.change_of_serve served)

end AuthRun

end Runs

end Delivery

namespace RecordedMail

/-- The address that asks. -/
def ada : Bytes :=
  bytesOf "ada@example.org"

/-- A token that was recorded for the address. -/
def token : Bytes :=
  bytesOf ("eyJhbGciOiJFZERTQSIsInR5cCI6IkpXVCJ9.eyJlbWFpbCI6ImFkYUBleGFtcGxlLm9yZyIsImV4cCI6MTc" ++
    "wMDAwMDkwMCwiaWF0IjoxNzAwMDAwMDAwLCJwdXJwb3NlIjoiZW1haWxfdmVyaWZpY2F0aW9uIn0.4jadUKU" ++
    "m8uUdtqRsjabktsZvo4ZrWLeQFXxGkJSsys03OgjnYmq1YnLg__qaINYSxTvAQWJLqcrCX44c5yIJCQ")

/-- The libraries at the recorded request. -/
@[reducible]
def libraries : AuthLibraries where
  decodeEmailRequest body :=
    if body == bytesOf "\x7b\"email\":\"ada@example.org\"\x7d" then some ada else none
  parseAddress text := if text == ada then some ⟨[], ada⟩ else none
  execute template link :=
    if template == verificationEmailHTML then
      some
        (bytesOf "<p>Click <a href=\"" ++ link ++
          bytesOf "\">here</a> to sign in to SSN Console.</p>" ++
          bytesOf "<p>This link will expire in 15 minutes.</p>")
    else
      none
  serialize claims :=
    if claims = ⟨1700000000, 1700000900, ada, purposeEmailVerification⟩ then some token else none

attribute [local instance] libraries

/-- The service of the recorded request. -/
def deps : Deps where
  frontendURL := bytesOf "https://console.example.org"
  allowedOrigins := [bytesOf "https://console.example.org"]
  smtpFrom := bytesOf "Swiss Subnet <noreply@example.org>"

/-- A request of the frontend for a mail to the address. -/
def asking (now : Int) : AuthEvent :=
  .receive .emailVerification (fun _ => bytesOf "https://console.example.org")
    (bytesOf "\x7b\"email\":\"ada@example.org\"\x7d") now

/-- The address asks twice while its first mail is on its way. -/
def events : List AuthEvent :=
  [asking 1700000000000000000, .compose 0 1700000000000000000, asking 1700000030000000000,
    .launch 0, .finish 0]

/-- The run of these events. -/
def run : AuthRun deps 0 :=
  .ofEvents events (.finish 0) (by decide +kernel)

/-- The service behaves in the recorded run, whose readings come in the order of the lock. -/
theorem mailSound_recorded :
    ((run.state 5).mailed.length = 1 ∧ run.InLockOrder 5) ∧ run.MailSound 5 := by
  refine ⟨?_, run.mailSound (Nat.le_refl 5)⟩
  unfold AuthRun.InLockOrder
  decide +kernel

end RecordedMail

end SsnConsole.AuthService
