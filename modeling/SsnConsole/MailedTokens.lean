import SsnConsole.MailDelivery
import SsnConsole.TokenEffects

/-!
# Mailed tokens

The auth service mails tokens and the backend takes them; the two run side by side
and share nothing but the key.  If nobody can forge a token, then an address is
verified, and an account is recovered, only with a token that was mailed to the
address for this purpose, and not long before.
-/

namespace SsnConsole.MailedTokens

open SsnConsole.AuthService
open SsnConsole.Backend
open SsnConsole.GoStandard
open SsnConsole.MessageRun

/-- The auth service and the backend. -/
structure Deployment where
  auth : AuthServer
  backend : World

/-- What happens in one of the two. -/
inductive DeploymentEvent
  | auth (event : AuthEvent)
  | backend (event : Event)

/-- The call that presents a token, and the token. -/
def DeploymentEvent.presents : DeploymentEvent → Option (Call × String)
  | .backend (.message call (.verifyEmail token)) => some (call, token)
  | .backend (.message call (.recoverAccountByEmail token)) => some (call, token)
  | _ => none

/-- Both as they start. -/
def Deployment.new (start : Int) : Deployment where
  auth := .new start
  backend := .empty

/-- What the backend reads of a token of the service is what the service put into it. -/
structure TokensAgree [Host] [AuthLibraries] : Prop where
  readable :
    ∀ claims jwt,
      AuthLibraries.serialize claims = some jwt →
        ∃ header payload signature : String,
          '.' ∉ header.toList ∧ '.' ∉ payload.toList ∧ '.' ∉ signature.toList ∧
            jwt = bytesOf (header ++ "." ++ payload ++ "." ++ signature) ∧
              ∀ content, Host.base64UrlDecode payload = some content →
                (∀ expiry, Host.parseBaseClaims content = some expiry →
                  claims.expiry = expiry) ∧
                  ∀ read, Host.parseClaims content = some read →
                    bytesOf read.email = claims.email ∧
                      read.purpose.map bytesOf = some claims.purpose

section Readings

variable [Host]

omit [Host] in
/-- A value that was parsed. -/
private theorem present_eq_ok
    {α : Type}
    {parsed : Option α}
    {message : String}
    {value : α} :
    Jwt.present parsed message = .ok value ↔ parsed = some value := by
  cases parsed <;> simp [Jwt.present]

variable [AuthLibraries]

/-- An accepted token of the service carries the address and the purpose it was signed for, and
has not expired. -/
theorem TokensAgree.of_tokenClaims
    {signed : TokenClaims}
    {token : String}
    {now : Nat}
    {claims : Claims}
    (agree : TokensAgree)
    (serialized : AuthLibraries.serialize signed = some (bytesOf token))
    (accepted : Jwt.tokenClaims token now = .ok claims) :
    bytesOf claims.email = signed.email ∧ claims.purpose.map bytesOf = some signed.purpose ∧
      (now / 1000000000 : Nat) ≤ signed.expiry := by
  obtain ⟨header, payload, signature, headerPlain, payloadPlain, signaturePlain, same, content⟩ :=
    agree.readable signed _ serialized
  have parts := Jwt.splitOn_parts headerPlain payloadPlain signaturePlain
  rw [← bytesOf_injective same] at parts
  unfold Jwt.tokenClaims at accepted
  split at accepted
  · cases accepted
  · unfold Jwt.verifyJwt at accepted
    rw [parts] at accepted
    simp only [MessageSlice.bind_eq_ok, present_eq_ok] at accepted
    obtain ⟨_, _, _, _, _, _, _, _, bytes, decoded, expiry, base, rest⟩ := accepted
    obtain ⟨expires, reads⟩ := content bytes decoded
    split at rest
    · cases rest
    · rename_i current
      obtain ⟨email, purpose⟩ := reads claims (present_eq_ok.mp rest)
      refine ⟨email, purpose, ?_⟩
      rw [expires expiry base]
      exact Int.ofNat_le.mpr (Nat.le_of_not_lt current)

end Readings

section Runs

variable [Host] [AuthLibraries] {deps : Deps} {start : Int}

/-- One event of the two. -/
def Deployment.step (deps : Deps) (deployment : Deployment) :
    DeploymentEvent → Option Deployment
  | .auth event =>
      (AuthServer.step deps deployment.auth event).map fun auth =>
        { deployment with auth := auth }
  | .backend event =>
      (World.endpointStep deployment.backend event).map fun backend =>
        { deployment with backend := backend }

/-- Runs of the two. -/
abbrev DeploymentRun (deps : Deps) (start : Int) : Type :=
  Execution (Deployment.step deps) (Deployment.new start)

/-- A token of a route was mailed to an address, and at the time of a call it still counts. -/
def Deployment.Mailed
    (deps : Deps)
    (deployment : Deployment)
    (route : Route)
    (email token : String)
    (call : Call) : Prop :=
  ∃ mail ∈ deployment.auth.mailed, ∃ signedAt,
    mail.Answers deps signedAt (bytesOf token) ∧ mail.admission.route = route ∧
      mail.message.recipient = bytesOf email ∧
        (call.now / 1000000000 : Nat) ≤ unix signedAt + 15 * 60

namespace DeploymentRun

variable (run : DeploymentRun deps start)

/-- Nobody forges a token: who presents one that the backend accepts has it from a mail. -/
def Unforged : Prop :=
  ∀ time < run.length, ∀ call token claims,
    (run.event time).presents = some (call, token) →
      Jwt.tokenClaims token call.now = .ok claims →
        ∃ mail ∈ (run.state time).auth.mailed, ∃ signedAt,
          mail.Answers deps signedAt (bytesOf token)

/-- The holder of an account verified an address before an event, with a token that was mailed
there to verify it. -/
def VerifiedBefore (time : Nat) (userId : UserId) (key : VerifiedEmailKey) : Prop :=
  ∃ earlier < time, ∃ call token email,
    run.event earlier = .backend (.message call (.verifyEmail token)) ∧
      (run.state earlier).backend.stores.userProfile.getUserIdByPrincipal call.caller =
          some userId ∧
        (run.state earlier).Mailed deps .emailVerification email token call ∧
          normalizeEmail email = key

/-- What mailed tokens can do, up to a time of a run. -/
structure TokensConfined (time : Nat) : Prop where
  /-- An address that an account holds verified was verified by its holder. -/
  verified :
    ∀ userId key,
      HoldsVerified (run.state time).backend.stores userId key →
        run.VerifiedBefore time userId key
  /-- Recovery links the caller to the account whose holder verified the address, and the token
  was mailed to the address to recover it. -/
  recovered :
    ∀ earlier < time, ∀ call token principal userId,
      run.event earlier = .backend (.message call (.recoverAccountByEmail token)) →
        (run.state (earlier + 1)).backend.stores.userProfile.getUserIdByPrincipal principal =
            some userId →
          (run.state earlier).backend.stores.userProfile.getUserIdByPrincipal principal ≠
              some userId →
            principal = call.caller ∧
              ∃ email,
                (run.state earlier).Mailed deps .accountRecovery email token call ∧
                  run.VerifiedBefore earlier userId (normalizeEmail email)

variable {run} {time : Nat}

/-- A step of the auth service leaves the backend alone. -/
private theorem backend_of_auth
    {event : AuthEvent}
    (within : time < run.length)
    (happened : run.event time = .auth event) :
    (run.state (time + 1)).backend = (run.state time).backend := by
  have stepped := run.advances time within
  rw [happened] at stepped
  obtain ⟨auth, -, same⟩ := Option.map_eq_some_iff.mp stepped
  rw [← same]

/-- Every mail of the auth service was composed for its request. -/
private theorem composed_of_mailed
    {mail : Mail}
    (within : time ≤ run.length)
    (member : mail ∈ (run.state time).auth.composed ∨ mail ∈ (run.state time).auth.mailed) :
    ∃ now, composeMail deps mail.admission now = some mail := by
  induction time with
  | zero =>
      rw [run.starts] at member
      rcases member with impossible | impossible <;> cases impossible
  | succ time inductionHypothesis =>
      have earlier := inductionHypothesis (Nat.le_of_succ_le within)
      have stepped := run.advances time within
      cases happened : run.event time with
      | backend event =>
          rw [happened] at stepped
          obtain ⟨backend, -, same⟩ := Option.map_eq_some_iff.mp stepped
          rw [← same] at member
          exact earlier member
      | auth event =>
          rw [happened] at stepped
          obtain ⟨auth, ran, same⟩ := Option.map_eq_some_iff.mp stepped
          obtain ⟨⟨status, after⟩, served, rfl⟩ := Option.map_eq_some_iff.mp ran
          rw [← same] at member
          rcases AuthServer.mail_of_change (AuthServer.change_of_serve served) member with
            before | ⟨-, now, -, -, composed⟩
          · exact earlier before
          · exact ⟨now, composed⟩

/-- A step of the backend is a step of its endpoints. -/
private theorem endpointStep_of_backend
    {event : Event}
    (within : time < run.length)
    (happened : run.event time = .backend event) :
    World.endpointStep (run.state time).backend event = some (run.state (time + 1)).backend := by
  have stepped := run.advances time within
  rw [happened] at stepped
  obtain ⟨backend, served, same⟩ := Option.map_eq_some_iff.mp stepped
  rw [served, ← same]

/-- The backend is in a reachable world throughout. -/
theorem backend_reachable
    (within : time ≤ run.length) :
    (run.state time).backend.Reachable := by
  apply World.Reachable.of_endpoints
  induction time with
  | zero =>
      rw [run.starts]
      exact .initial
  | succ time inductionHypothesis =>
      have earlier := inductionHypothesis (Nat.le_of_succ_le within)
      cases happened : run.event time with
      | auth event =>
          rw [backend_of_auth within happened]
          exact earlier
      | backend event =>
          exact .step earlier trivial (endpointStep_of_backend within happened)

omit [Host] in
/-- A purpose names one route. -/
private theorem route_of_purpose
    {route other : Route}
    (same : other.flow.purpose = route.flow.purpose) :
    other = route := by
  cases route <;> cases other
  · rfl
  · exact absurd (bytesOf_injective same) (by decide)
  · exact absurd (bytesOf_injective same) (by decide)
  · rfl

/-- An accepted token was mailed to its address, for its purpose, and has not expired. -/
theorem mailed_of_tokenClaims
    {call : Call}
    {token purpose : String}
    {claims : Claims}
    {route : Route}
    (agree : TokensAgree)
    (mailed :
      ∃ mail ∈ (run.state time).auth.mailed, ∃ signedAt,
        mail.Answers deps signedAt (bytesOf token))
    (accepted : Jwt.tokenClaims token call.now = .ok claims)
    (stated : claims.purpose = some purpose)
    (named : route.flow.purpose = bytesOf purpose) :
    (run.state time).Mailed deps route claims.email token call := by
  obtain ⟨mail, member, signedAt, answers⟩ := mailed
  obtain ⟨email, purposes, current⟩ := agree.of_tokenClaims answers.signed accepted
  rw [stated] at purposes
  have same : mail.admission.route.flow.purpose = route.flow.purpose :=
    (Option.some.inj purposes).symm.trans named.symm
  refine ⟨mail, member, signedAt, answers, route_of_purpose same, ?_, current⟩
  exact answers.recipient.trans email.symm

/-- What was verified stays so. -/
private theorem VerifiedBefore.mono
    {later : Nat}
    {userId : UserId}
    {key : VerifiedEmailKey}
    (verified : run.VerifiedBefore time userId key)
    (ordered : time ≤ later) :
    run.VerifiedBefore later userId key := by
  obtain ⟨earlier, before, rest⟩ := verified
  exact ⟨earlier, before.trans_le ordered, rest⟩

/-- An address that is held verified was verified by its holder, with a mailed token. -/
theorem verifiedBefore
    {userId : UserId}
    {key : VerifiedEmailKey}
    (agree : TokensAgree)
    (unforged : run.Unforged)
    (within : time ≤ run.length)
    (holds : HoldsVerified (run.state time).backend.stores userId key) :
    run.VerifiedBefore time userId key := by
  induction time with
  | zero =>
      rw [run.starts] at holds
      obtain ⟨profile, address, stored, -⟩ := holds
      simp [Deployment.new, World.empty, Stores.empty, UserProfileState.empty] at stored
  | succ time inductionHypothesis =>
      have earlier := inductionHypothesis (Nat.le_of_succ_le within)
      cases happened : run.event time with
      | auth event =>
          rw [backend_of_auth within happened] at holds
          exact (earlier holds).mono (Nat.le_succ time)
      | backend event =>
          rcases World.endpointStep_cases (endpointStep_of_backend within happened) with
            same | ⟨served, -⟩
          · rw [same] at holds
            exact (earlier holds).mono (Nat.le_succ time)
          · rcases World.verified_of_step served holds with
              before | ⟨call, token, claims, rfl, accepted, verify, account⟩
            · exact (earlier before).mono (Nat.le_succ time)
            · have presented : (run.event time).presents = some (call, token) := by
                rw [happened]
                rfl
              have mailed := unforged time within call token claims presented accepted
              have stated : claims.purpose = some PURPOSE_EMAIL_VERIFICATION := by
                obtain ⟨mail, -, signedAt, answers⟩ := mailed
                obtain ⟨-, purposes, -⟩ := agree.of_tokenClaims answers.signed accepted
                rcases verify.purpose with absent | stated
                · rw [absent] at purposes
                  cases purposes
                · exact stated
              refine ⟨time, Nat.lt_succ_self time, call, token, claims.email, happened, account,
                ?_, verify.address⟩
              exact mailed_of_tokenClaims agree mailed accepted stated rfl

/-- With tokens that nobody forges, an address is verified and an account recovered only by who
was mailed a token for it. -/
theorem tokensConfined
    (agree : TokensAgree)
    (unforged : run.Unforged)
    (within : time ≤ run.length) :
    run.TokensConfined time where
  verified _ _ holds := verifiedBefore agree unforged within holds
  recovered earlier before call token principal userId happened linked new := by
    have inside : earlier < run.length := before.trans_le within
    rcases World.endpointStep_cases (endpointStep_of_backend inside happened) with
      same | ⟨served, -⟩
    · rw [same] at linked
      exact (new linked).elim
    · obtain ⟨caller, claims, accepted, stated, holds⟩ :=
        World.linked_of_recovery (backend_reachable inside.le) served linked new
      have presented : (run.event earlier).presents = some (call, token) := by
        rw [happened]
        rfl
      have mailed := unforged earlier inside call token claims presented accepted
      refine ⟨caller, claims.email, ?_, verifiedBefore agree unforged inside.le holds⟩
      exact mailed_of_tokenClaims agree mailed accepted stated rfl

end DeploymentRun

end Runs

namespace RecordedTokens

open SignedTokens

/-- The auth service's token is the one that the backend's host reads. -/
private theorem token_eq : RecordedMail.token = bytesOf verification.text :=
  congrArg bytesOf (by decide +kernel)

attribute [local instance] SignedTokens.host RecordedMail.libraries

/-- The backend reads of the recorded token what the auth service wrote. -/
theorem tokensAgree : TokensAgree where
  readable claims jwt serialized := by
    simp only [AuthLibraries.serialize, Option.ite_none_right_eq_some, Option.some.injEq]
      at serialized
    obtain ⟨rfl, rfl⟩ := serialized
    obtain ⟨⟨headerPlain, payloadPlain, signaturePlain⟩, ⟨-, payload⟩, -, -, expires, reads⟩ :=
      reads_of_signed verification_mem_signed
    refine ⟨header, verification.payload, verification.signature, headerPlain, payloadPlain,
      signaturePlain, token_eq, ?_⟩
    intro read decoded
    obtain rfl := Option.some.inj (payload.symm.trans decoded)
    constructor
    · intro expiry parsed
      obtain rfl := Option.some.inj (expires.symm.trans parsed)
      rfl
    · intro claims parsed
      obtain rfl := Option.some.inj (reads.symm.trans parsed)
      exact ⟨rfl, rfl⟩

/-- A call of the account's founder, after the mail came. -/
def call : Call :=
  { TextualHost.callBy TextualHost.founder with now := 1700000300000000000 }

/-- The founder's address is verified with a token that was mailed there. -/
def events : List DeploymentEvent :=
  [.backend (.message call .createMyUserProfile),
    .backend (.message call (.updateMyUserProfile (some "Ada@example.org"))),
    .auth (RecordedMail.asking 1700000000000000000),
    .auth (.compose 0 1700000000000000000),
    .auth (.launch 0),
    .backend (.message call (.verifyEmail verification.text))]

/-- The run of these events. -/
def run : DeploymentRun RecordedMail.deps 0 :=
  .ofEvents events (.auth (.finish 0)) (by decide +kernel)

/-- The token that is presented was mailed before. -/
theorem unforged : run.Unforged := by
  have presented :
      (List.range 6).all fun time =>
        (run.event time).presents.all fun shown =>
          shown.2 == verification.text && !(run.state time).auth.mailed.isEmpty := by
    decide +kernel
  intro time within call token claims shown accepted
  have found := List.all_eq_true.mp presented time (List.mem_range.mpr within)
  rw [shown] at found
  simp only [Option.all_some, Bool.and_eq_true, beq_iff_eq, Bool.not_eq_true',
    List.isEmpty_eq_false_iff] at found
  obtain ⟨rfl, nonempty⟩ := found
  obtain ⟨mail, member⟩ := List.exists_mem_of_ne_nil _ nonempty
  obtain ⟨now, composed⟩ := DeploymentRun.composed_of_mailed (Nat.le_of_lt within) (.inr member)
  obtain ⟨jwt, answers⟩ := answers_of_composeMail composed
  have serialized := answers.signed
  simp only [AuthLibraries.serialize, Option.ite_none_right_eq_some, Option.some.injEq]
    at serialized
  obtain ⟨-, rfl⟩ := serialized
  exact ⟨mail, member, _, token_eq ▸ answers⟩

/-- After the run the founder's address is verified. -/
private theorem verifiedKeyOf_founder :
    (run.state 6).backend.stores.userProfile.verifiedKeyOf ⟨TextualHost.draw 0⟩ =
      some "ada@example.org" := by
  have current : call.now / 1000000000 ≤ 1700000900 := by decide
  show
    ((runEvents (Deployment.step RecordedMail.deps) (Deployment.new 0) events).getD
      (Deployment.new 0)).backend.stores.userProfile.verifiedKeyOf ⟨TextualHost.draw 0⟩ =
        some "ada@example.org"
  simp only [events, runEvents, Deployment.step, World.endpointStep, World.step, endpoint, handle,
    verifyEmail_verification current]
  decide +kernel

/-- The address of the recorded run is verified, by who was mailed the token. -/
theorem tokensConfined_recorded :
    (run.state 6).backend.stores.userProfile.verifiedKeyOf ⟨TextualHost.draw 0⟩ =
        some "ada@example.org" ∧
      run.TokensConfined 6 :=
  ⟨verifiedKeyOf_founder, run.tokensConfined tokensAgree unforged (Nat.le_refl 6)⟩

end RecordedTokens

end SsnConsole.MailedTokens
