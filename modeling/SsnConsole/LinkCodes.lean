import SsnConsole.BackendFrames
import SsnConsole.TextualHost

/-!
# Link codes

A user registers a code for a principal, and the principal presents the code to
be linked.  Pending codes sit in one map by user, expire, and are swept and
spent by several operations.  In every run with a clock that does not go back,
a principal is linked only by the code that the user last registered for it.
-/

namespace SsnConsole.Backend

open Std (ExtTreeMap)
open SsnConsole.MessageRun
open SsnConsole.MessageSlice
open SsnConsole.StableIndex
open SsnConsole.TimedRun

section Safety

variable [Host]

/-- `get_my_pending_link_code`: expired codes are dropped on the way. -/
def PrincipalLinkService.getMyPendingLinkCode (call : Call) :
    Service (Option PendingLinkCode) := do
  let userId ← check fun s => s.userProfile.assertUserIdByPrincipal call.caller
  write (pruneLinkCodes call.now)
  inspect fun s => s.pendingLinkCodes[userId]?

section Changes

variable {call : Call} {request : Request} {s after : Stores}
variable {result : Except Failure Slot}
variable {userId : UserId} {entry : PendingLinkCode}

/-- The entry that a registration stores. -/
def registeredEntry (call : Call) (code : String) (target : Principal) : PendingLinkCode :=
  ⟨code, target, min (call.now + PrincipalLinkService.LINK_CODE_TTL_NANOS) (2 ^ 64 - 1)⟩

omit [Host] in
/-- What is pending after dropping expired codes was pending before, and has not expired. -/
theorem pending_pruneLinkCodes
    {now : Nat} :
    (PrincipalLinkService.pruneLinkCodes now s).pendingLinkCodes[userId]? = some entry ↔
      s.pendingLinkCodes[userId]? = some entry ∧ now < entry.expiresAtNanos := by
  simp [PrincipalLinkService.pruneLinkCodes]

/-- Every way in which a message changes the pending link codes. -/
inductive LinkCodeChange (call : Call) (s : Stores) :
    Request → Except Failure Slot → Stores → Prop
  | registered
      {code : String}
      {target : Principal}
      {userId : UserId}
      {slot : Slot}
      {after : Stores}
      (account : s.userProfile.getUserIdByPrincipal call.caller = some userId)
      (written :
        after.pendingLinkCodes =
          (PrincipalLinkService.pruneLinkCodes call.now s).pendingLinkCodes.insert userId
            (registeredEntry call code target)) :
      LinkCodeChange call s (.registerLinkCode code target) (.ok slot) after
  /-- Nothing is registered; codes may be dropped. -/
  | dropped
      {request : Request}
      {result : Except Failure Slot}
      {after : Stores}
      (unregistered :
        ∀ code target, request = .registerLinkCode code target →
          ∃ failure, result = .error failure)
      (kept :
        ∀ (userId : UserId) (entry : PendingLinkCode),
          after.pendingLinkCodes[userId]? = some entry →
            s.pendingLinkCodes[userId]? = some entry) :
      LinkCodeChange call s request result after

omit [Host] in
/-- A message that leaves the codes alone drops none. -/
private theorem LinkCodeChange.same
    (unregistered : ∀ code target, request ≠ .registerLinkCode code target)
    (same : after.pendingLinkCodes = s.pendingLinkCodes) :
    LinkCodeChange call s request result after := by
  refine .dropped (fun code target asked => (unregistered code target asked).elim) ?_
  intro userId entry pending
  rwa [same] at pending

omit [Host] in
/-- Codes that are pruned and perhaps spent were pending before. -/
private theorem pending_of_erase
    {now : Nat}
    {spent : UserId}
    (pending :
      ((PrincipalLinkService.pruneLinkCodes now s).pendingLinkCodes.erase spent)[userId]? =
        some entry) :
    s.pendingLinkCodes[userId]? = some entry := by
  rw [getElem?_erase_entry] at pending
  split at pending
  · cases pending
  · exact (pending_pruneLinkCodes.mp pending).1

/-- What `register_link_code` does to the codes. -/
private theorem registerLinkCode_changes
    (call : Call)
    (code : String)
    (target : Principal)
    (s : Stores) :
    Ends (answered .api (PrincipalLinkService.registerLinkCode call code target)) s
      (fun slot after => LinkCodeChange call s (.registerLinkCode code target) (.ok slot) after)
      fun failure after =>
        LinkCodeChange call s (.registerLinkCode code target) (.error failure) after := by
  simp only [answered, ends_reportAs, ends_map]
  refine (PrincipalLinkService.registerLinkCode_settles call code target s).mono ?_ ?_
  · intro response after write
    cases write with
    | registerLinkCode account _ =>
        exact .registered account rfl
  · rintro error after rfl
    exact .dropped (fun _ _ _ => ⟨_, rfl⟩) fun _ _ pending => pending

/-- The account operations change the codes in one of these ways. -/
private theorem AccountWrite.linkCodeChange
    (write : AccountWrite call s request after)
    (unregistered : ∀ code target, request ≠ .registerLinkCode code target) :
    LinkCodeChange call s request result after := by
  have drops
      (kept :
        ∀ (userId : UserId) (entry : PendingLinkCode),
          after.pendingLinkCodes[userId]? = some entry →
            s.pendingLinkCodes[userId]? = some entry) :
      LinkCodeChange call s request result after :=
    .dropped (fun code target asked => (unregistered code target asked).elim) kept
  cases write with
  | @registerLinkCode code target _ _ _ =>
      exact (unregistered code target rfl).elim
  | pruneLinkCodes =>
      exact drops fun _ _ pending => (pending_pruneLinkCodes.mp pending).1
  | spendLinkCode | linkMyPrincipal _ _ _ _ =>
      exact drops fun _ _ pending => pending_of_erase pending
  | revokeMyLinkCode _ =>
      refine drops fun userId entry pending => ?_
      rw [getElem?_erase_entry] at pending
      split at pending
      · cases pending
      · exact pending
  | _ =>
      exact .same unregistered rfl

/-- Founding an organization leaves the codes alone. -/
private theorem pendingLinkCodes_founding
    (s : Stores)
    (userId : UserId)
    (org : Organization) :
    (s.founding userId org).pendingLinkCodes = s.pendingLinkCodes := by
  obtain ⟨policies, drawn, -, founded⟩ := s.founding_eq userId org
  rw [founded]

/-- Every message changes the codes in one of these ways. -/
theorem linkCodeChange_of_outcome
    (ran : outcome (handle call request) s = (result, after)) :
    LinkCodeChange call s request result after := by
  have handled := handled_of_outcome ran
  cases handled with
  | refused =>
      exact .dropped (fun _ _ _ => ⟨_, rfl⟩) fun _ _ pending => pending
  | signUp _ =>
      refine .same (fun code target asked => by cases asked) ?_
      exact pendingLinkCodes_founding _ _ _
  | membership write _ =>
      refine .same ?_ ?_
      · rintro code target rfl
        cases write with
        | alreadyDone done => cases done
      · cases write with
        | createOrganization _ _ => exact pendingLinkCodes_founding _ _ _
        | _ => rfl
  | invite write _ =>
      refine .same ?_ ?_
      · rintro code target rfl
        cases write
      · cases write <;> rfl
  | account write _ =>
      cases request with
      | registerLinkCode code target =>
          have changes := registerLinkCode_changes call code target s
          unfold Ends at changes
          rw [show outcome (answered .api
            (PrincipalLinkService.registerLinkCode call code target)) s = _ from ran] at changes
          cases result with
          | ok _ => exact changes
          | error _ => exact changes
      | _ => exact write.linkCodeChange (fun code target asked => by cases asked)
  | policy write =>
      refine .same ?_ ?_
      · rintro code target rfl
        cases write
      · cases write with
        | @upsertApprovalPolicy _ _ _ _ operation policy auth parsed granted =>
            obtain ⟨policies, drawn, grown, written⟩ :=
              ApprovalPolicyRepository.upsertApprovalPolicy_frame auth.projectId operation
                policy s
            exact (congrArg Stores.pendingLinkCodes written).trans rfl
        | setOrgPlan => rfl
  | proposal write =>
      refine .same ?_ write.sameSettings.pendingLinkCodes
      rintro code target rfl
      cases write
  | canister write =>
      refine .same ?_ ?_
      · rintro code target rfl
        cases write
      · cases write with
        | removeMyCanister | updateMyCanisterName | startMyCanister | stopMyCanister => rfl
        | addChildCanisters =>
            let Kept (earlier : Stores) : Prop :=
              earlier.pendingLinkCodes = s.pendingLinkCodes
            have kept (mappings : List Dto.ParentChildMapping) :
                Kept (mappings.foldl CanisterService.addChildCanister s) := by
              apply CanisterService.addChildCanisters_induction
              · exact fun _ _ _ _ kept _ => kept
              · exact fun _ _ kept => kept
              · rfl
            exact kept _

/-- What a linking message does that links its caller to a user. -/
theorem linkMyPrincipal_links
    {code : String}
    (ran : outcome (handle call (.linkMyPrincipal code)) s = (result, after))
    (unlinked : s.userProfile.getUserIdByPrincipal call.caller ≠ some userId)
    (linked : after.userProfile.getUserIdByPrincipal call.caller = some userId) :
    ∃ entry,
      s.pendingLinkCodes[userId]? = some entry ∧ call.now < entry.expiresAtNanos ∧
        entry.code = code ∧ entry.targetPrincipal = call.caller ∧
        assertPrincipalIsUnclaimed call.caller s = .ok () ∧
        after.pendingLinkCodes[userId]? = none := by
  have handled := handled_of_outcome ran
  cases handled with
  | refused =>
      exact (unlinked linked).elim
  | membership write _ =>
      cases write with
      | alreadyDone done => cases done
  | invite write _ | policy write | proposal write | canister write =>
      cases write
  | account write _ =>
      cases write with
      | pruneLinkCodes | spendLinkCode =>
          exact (unlinked linked).elim
      | @linkMyPrincipal _ user entry profiles pending target unclaimed link =>
          obtain ⟨-, -, rfl⟩ := UserProfileState.linkPrincipalToUser_ok link
          have sameUser : user = userId := by
            simpa [UserProfileState.getUserIdByPrincipal] using linked
          subst sameUser
          have row := ExtTreeMap.mem_toList_iff_getElem?_eq_some.mp
            (List.mem_of_find?_eq_some pending)
          obtain ⟨before, unexpired⟩ := pending_pruneLinkCodes.mp row
          have presented : entry.code = code := by
            simpa using List.find?_some pending
          refine ⟨entry, before, unexpired, presented, target, unclaimed, ?_⟩
          rw [getElem?_erase_entry, if_pos rfl]

end Changes

section Histories

/-- The events of a run: those of the backend, and reading one's pending code. -/
inductive LinkEvent
  | backend (event : Event)
  | getMyPendingLinkCode (call : Call)

/-- The time at which an event happens. -/
def LinkEvent.now : LinkEvent → Nat
  | .backend event => event.now
  | .getMyPendingLinkCode call => call.now

/-- One event. -/
def World.linkStep (world : World) : LinkEvent → Option World
  | .backend event => World.serviceStep world event
  | .getMyPendingLinkCode call =>
      some
        { world with
          stores :=
            (outcome (PrincipalLinkService.getMyPendingLinkCode call) world.stores).2 }

/-- Runs of the backend whose clock does not go back. -/
abbrev LinkRun : Type :=
  Execution (TimedRun.timedStep World.linkStep LinkEvent.now) ⟨World.empty, 0⟩

namespace LinkRun

variable (run : LinkRun)

/-- The world before event `time`. -/
def world (time : Nat) : World :=
  (run.state time).state

/-- When event `time` happens. -/
def clock (time : Nat) : Nat :=
  (run.event time).now

/-- A principal of the user has a request of its own answered. -/
def Succeeds (time : Nat) (userId : UserId) (request : Request) : Prop :=
  ∃ call,
    run.event time = .backend (.message call request) ∧
      (run.world time).stores.userProfile.getUserIdByPrincipal call.caller = some userId ∧
        (run.world time).Succeeds call request

/-- An unexpired code of the user is spent by an attempt to link. -/
def Consumes (time : Nat) (userId : UserId) : Prop :=
  ∃ call code entry,
    run.event time = .backend (.message call (.linkMyPrincipal code)) ∧
      (run.world time).stores.pendingLinkCodes[userId]? = some entry ∧
        call.now < entry.expiresAtNanos ∧
          (run.world (time + 1)).stores.pendingLinkCodes[userId]? = none

/-- `link_my_principal`, called by the principal with the code, links it to the user. -/
def Links (time : Nat) (principal : Principal) (userId : UserId) (code : String) : Prop :=
  ∃ call,
    run.event time = .backend (.message call (.linkMyPrincipal code)) ∧
      call.caller = principal ∧
        (run.world time).stores.userProfile.getUserIdByPrincipal principal ≠ some userId ∧
          (run.world (time + 1)).stores.userProfile.getUserIdByPrincipal principal =
            some userId

/-- The registration that a link rests on. -/
structure Authorizes (registration time : Nat) (principal : Principal) (userId : UserId)
    (code : String) : Prop where
  earlier : registration < time
  registered : run.Succeeds registration userId (.registerLinkCode code principal)
  /-- Less than fifteen minutes ago. -/
  recent : run.clock time < run.clock registration + 15 * 60 * 1000000000
  notReplaced :
    ∀ between, registration < between → between < time →
      ∀ other target, ¬ run.Succeeds between userId (.registerLinkCode other target)
  notRevoked :
    ∀ between, registration < between → between < time →
      ¬ run.Succeeds between userId .revokeMyLinkCode
  notConsumed :
    ∀ between, registration < between → between < time → ¬ run.Consumes between userId
  unlinked :
    (run.world time).stores.userProfile.getUserIdByPrincipal principal = none
  unregistered :
    (run.world time).stores.servicePrincipal.getServicePrincipalPermissions principal = none

/-- The registration that a pending code goes back to, pending ever since. -/
structure Origin (registration time : Nat) (userId : UserId) (entry : PendingLinkCode) :
    Prop where
  earlier : registration < time
  registered :
    run.Succeeds registration userId (.registerLinkCode entry.code entry.targetPrincipal)
  expires : entry.expiresAtNanos ≤ run.clock registration + 15 * 60 * 1000000000
  notReplaced :
    ∀ between, registration < between → between < time →
      ∀ other target, ¬ run.Succeeds between userId (.registerLinkCode other target)
  pending :
    ∀ between, registration < between → between ≤ time →
      (run.world between).stores.pendingLinkCodes[userId]? = some entry

variable {run} {time : Nat} {userId : UserId} {entry : PendingLinkCode}

/-- The world after an event of the run. -/
theorem linkStep_world
    (within : time < run.length) :
    World.linkStep (run.world time) (run.event time) = some (run.world (time + 1)) :=
  (timedStep_eq_some.mp (run.advances time within)).2.1

/-- Reading one's pending code may drop codes and brings none. -/
private theorem pending_of_getMyPendingLinkCode
    {call : Call}
    {s : Stores}
    (pending :
      (outcome (PrincipalLinkService.getMyPendingLinkCode call) s).2.pendingLinkCodes[userId]? =
        some entry) :
    s.pendingLinkCodes[userId]? = some entry := by
  have ends :
      Ends (PrincipalLinkService.getMyPendingLinkCode call) s
        (fun _ after =>
          after.pendingLinkCodes[userId]? = some entry →
            s.pendingLinkCodes[userId]? = some entry)
        fun _ after =>
          after.pendingLinkCodes[userId]? = some entry →
            s.pendingLinkCodes[userId]? = some entry := by
    simp only [PrincipalLinkService.getMyPendingLinkCode, ends_bind, ends_check, ends_write,
      ends_inspect]
    constructor
    · intro reader _ kept
      exact (pending_pruneLinkCodes.mp kept).1
    · exact fun _ _ => id
  unfold Ends at ends
  rcases ran : outcome (PrincipalLinkService.getMyPendingLinkCode call) s with ⟨result, after⟩
  rw [ran] at ends pending
  cases result with
  | ok _ => exact ends pending
  | error _ => exact ends pending

/-- Taking up a reply leaves the codes alone. -/
theorem pendingLinkCodes_of_reply
    {before after : World}
    {now index : Nat}
    {reply : Reply}
    (taken : before.Stepped (.reply now index reply) after) :
    after.stores.pendingLinkCodes = before.stores.pendingLinkCodes := by
  cases taken with
  | reply _ resumed =>
      exact resumed.sameSettings.pendingLinkCodes

/-- A code that is pending after an event was just registered, or was pending before. -/
theorem pending_cases
    (within : time < run.length)
    (pending : (run.world (time + 1)).stores.pendingLinkCodes[userId]? = some entry) :
    (run.Succeeds time userId (.registerLinkCode entry.code entry.targetPrincipal) ∧
        entry.expiresAtNanos ≤ run.clock time + 15 * 60 * 1000000000) ∨
      ((run.world time).stores.pendingLinkCodes[userId]? = some entry ∧
        ∀ other target, ¬ run.Succeeds time userId (.registerLinkCode other target)) := by
  have stepped := linkStep_world within
  cases happened : run.event time with
  | getMyPendingLinkCode call =>
      rw [happened] at stepped
      have world : run.world (time + 1) = _ := (Option.some.inj stepped).symm
      rw [world] at pending
      refine .inr ⟨pending_of_getMyPendingLinkCode pending, ?_⟩
      rintro other target ⟨caller, event, -⟩
      rw [happened] at event
      cases event
  | backend event =>
      rw [happened] at stepped
      have taken : World.serviceStep (run.world time) event = some (run.world (time + 1)) :=
        stepped
      cases event with
      | reply now index reply =>
          refine .inr ⟨?_, ?_⟩
          · rw [← pendingLinkCodes_of_reply (World.serviceStep_cases taken)]
            exact pending
          · rintro other target ⟨caller, event, -⟩
            rw [happened] at event
            cases event
      | message call request =>
          rcases ran : outcome (handle call request) (run.world time).stores with
            ⟨result, after⟩
          have stores : (run.world (time + 1)).stores = after := by
            have world := Option.some.inj taken
            rw [← world, ran]
            rfl
          rw [stores] at pending
          have change := linkCodeChange_of_outcome ran
          cases change with
          | @registered code target user slot _ account written =>
              have succeeds : (run.world time).Succeeds call (.registerLinkCode code target) :=
                ⟨slot, congrArg Prod.fst ran⟩
              rw [written, getElem?_insert_entry] at pending
              split at pending
              · rename_i same
                subst same
                cases pending
                exact
                  .inl ⟨⟨call, happened, account, succeeds⟩, by
                    rw [clock, happened]
                    exact Nat.min_le_left _ _⟩
              · rename_i different
                refine .inr ⟨(pending_pruneLinkCodes.mp pending).1, ?_⟩
                rintro other otherTarget ⟨caller, event, otherAccount, -⟩
                rw [happened] at event
                cases event
                rw [account] at otherAccount
                exact different (Option.some.inj otherAccount).symm
          | dropped unregistered kept =>
              refine .inr ⟨kept userId entry pending, ?_⟩
              rintro other target ⟨caller, event, -, slot, succeeded⟩
              rw [happened] at event
              cases event
              obtain ⟨failure, failed⟩ := unregistered other target rfl
              rw [ran, failed] at succeeded
              cases succeeded

/-- Every pending code goes back to its user's last registration. -/
theorem exists_origin
    (within : time ≤ run.length)
    (pending : (run.world time).stores.pendingLinkCodes[userId]? = some entry) :
    ∃ registration, run.Origin registration time userId entry := by
  induction time with
  | zero =>
      have start : run.world 0 = World.empty := congrArg Timed.state run.starts
      rw [start] at pending
      simp [World.empty, Stores.empty] at pending
  | succ time inductionHypothesis =>
      rcases pending_cases (by omega) pending with ⟨registered, expires⟩ | ⟨before, quiet⟩
      · refine ⟨time, Nat.lt_succ_self time, registered, expires, ?_, ?_⟩
        · intro between after sooner
          omega
        · intro between after sooner
          obtain rfl : between = time + 1 := by omega
          exact pending
      · obtain ⟨registration, origin⟩ := inductionHypothesis (by omega) before
        refine
          ⟨registration, origin.earlier.trans (Nat.lt_succ_self time), origin.registered,
            origin.expires, ?_, ?_⟩
        · intro between after sooner
          rcases Nat.lt_or_ge between time with earlier | latest
          · exact origin.notReplaced between after earlier
          · obtain rfl : between = time := by omega
            exact quiet
        · intro between after sooner
          rcases Nat.lt_or_ge between (time + 1) with earlier | latest
          · exact origin.pending between after (by omega)
          · obtain rfl : between = time + 1 := by omega
            exact pending

/-- A successful revocation leaves no code of the user pending. -/
theorem pending_of_revoked
    (within : time < run.length)
    (revoked : run.Succeeds time userId .revokeMyLinkCode) :
    (run.world (time + 1)).stores.pendingLinkCodes[userId]? = none := by
  obtain ⟨call, happened, account, succeeds⟩ := revoked
  have stepped := linkStep_world within
  rw [happened] at stepped
  have taken :
      World.serviceStep (run.world time) (.message call .revokeMyLinkCode) =
        some (run.world (time + 1)) := stepped
  obtain ⟨slot, handled⟩ := succeeds.handled taken
  have written :
      ∀ {after : Stores}, Handled call (run.world time).stores .revokeMyLinkCode (.ok slot) after →
        after.pendingLinkCodes[userId]? = none := by
    intro after handled
    generalize result : (Except.ok slot : Except Failure Slot) = ended at handled
    cases handled with
    | refused =>
        cases result
    | membership write _ =>
        cases write with
        | alreadyDone done => cases done
    | invite write _ | policy write | proposal write | canister write =>
        cases write
    | account write _ =>
        cases write with
        | revokeMyLinkCode sameAccount =>
            rw [account] at sameAccount
            cases sameAccount
            rw [getElem?_erase_entry, if_pos rfl]
  exact written handled

/-- A link spends the code of the user whom it links its caller to. -/
theorem Links.consumes
    {principal : Principal}
    {code : String}
    (within : time < run.length)
    (links : run.Links time principal userId code) :
    ∃ entry,
      (run.world time).stores.pendingLinkCodes[userId]? = some entry ∧
        run.clock time < entry.expiresAtNanos ∧ entry.code = code ∧
          entry.targetPrincipal = principal ∧
            assertPrincipalIsUnclaimed principal (run.world time).stores = .ok () ∧
              run.Consumes time userId := by
  obtain ⟨call, happened, rfl, unlinked, linked⟩ := links
  have stepped := linkStep_world within
  rw [happened] at stepped
  have taken :
      World.serviceStep (run.world time) (.message call (.linkMyPrincipal code)) =
        some (run.world (time + 1)) := stepped
  rcases ran : outcome (handle call (.linkMyPrincipal code)) (run.world time).stores with
    ⟨result, after⟩
  have stores : (run.world (time + 1)).stores = after := by
    rw [← Option.some.inj taken, ran]
    rfl
  rw [stores] at linked
  obtain ⟨entry, pending, unexpired, presented, target, unclaimed, spent⟩ :=
    linkMyPrincipal_links ran unlinked linked
  have now : run.clock time = call.now := by
    rw [clock, happened]
    rfl
  refine
    ⟨entry, pending, by rwa [now], presented, target, unclaimed, call, code, entry, happened,
      pending, unexpired, ?_⟩
  rw [stores]
  exact spent

/-- The origin of the code that a link presents authorizes the link. -/
theorem Origin.authorizes
    {registration : Nat}
    {principal : Principal}
    (origin : run.Origin registration time userId entry)
    (within : time < run.length)
    (target : entry.targetPrincipal = principal)
    (unexpired : run.clock time < entry.expiresAtNanos)
    (unclaimed : assertPrincipalIsUnclaimed principal (run.world time).stores = .ok ()) :
    run.Authorizes registration time principal userId entry.code := by
  obtain ⟨unregistered, unlinked⟩ := assertPrincipalIsUnclaimed_ok unclaimed
  refine
    { earlier := origin.earlier
      registered := ?_
      recent := Nat.lt_of_lt_of_le unexpired origin.expires
      notReplaced := origin.notReplaced
      notRevoked := ?_
      notConsumed := ?_
      unlinked := unlinked
      unregistered := unregistered }
  · rw [← target]
    exact origin.registered
  · intro between after sooner revoked
    have dropped := pending_of_revoked (by omega) revoked
    rw [origin.pending (between + 1) (by omega) (by omega)] at dropped
    cases dropped
  · rintro between after sooner ⟨call, code, spent, -, -, -, dropped⟩
    rw [origin.pending (between + 1) (by omega) (by omega)] at dropped
    cases dropped

/-- One registration authorizes at most one link. -/
theorem Authorizes.unique
    {registration first second : Nat}
    {otherUser : UserId}
    {principal otherPrincipal : Principal}
    {code otherCode : String}
    (firstWithin : first < run.length)
    (secondWithin : second < run.length)
    (firstLinks : run.Links first principal userId code)
    (secondLinks : run.Links second otherPrincipal otherUser otherCode)
    (firstOrigin : run.Authorizes registration first principal userId code)
    (secondOrigin : run.Authorizes registration second otherPrincipal otherUser otherCode) :
    first = second := by
  obtain rfl : userId = otherUser := by
    obtain ⟨call, happened, account, -⟩ := firstOrigin.registered
    obtain ⟨otherCall, otherHappened, otherAccount, -⟩ := secondOrigin.registered
    rw [happened] at otherHappened
    cases otherHappened
    exact Option.some.inj (account.symm.trans otherAccount)
  rcases Nat.lt_trichotomy first second with earlier | same | later
  · obtain ⟨-, -, -, -, -, -, consumed⟩ := firstLinks.consumes firstWithin
    exact (secondOrigin.notConsumed first firstOrigin.earlier earlier consumed).elim
  · exact same
  · obtain ⟨-, -, -, -, -, -, consumed⟩ := secondLinks.consumes secondWithin
    exact (firstOrigin.notConsumed second secondOrigin.earlier later consumed).elim

end LinkRun

end Histories

/-- Every link rests on a recent, unspent registration of the user for that principal, and
no registration is behind two links. -/
theorem linkCodeSafety
    (run : LinkRun)
    (time : Nat)
    (principal : Principal)
    (userId : UserId)
    (code : String)
    (within : time < run.length)
    (links : run.Links time principal userId code) :
    ∃ registration,
      run.Authorizes registration time principal userId code ∧
        ∀ other otherPrincipal otherUser otherCode, other < run.length →
          run.Links other otherPrincipal otherUser otherCode →
            run.Authorizes registration other otherPrincipal otherUser otherCode →
              other = time := by
  obtain ⟨entry, pending, unexpired, rfl, target, unclaimed, -⟩ := links.consumes within
  obtain ⟨registration, origin⟩ := LinkRun.exists_origin within.le pending
  have authorizes := origin.authorizes within target unexpired unclaimed
  refine ⟨registration, authorizes, ?_⟩
  intro other otherPrincipal otherUser otherCode otherWithin otherLinks otherAuthorizes
  exact
    LinkRun.Authorizes.unique otherWithin within otherLinks links otherAuthorizes authorizes

end Safety

section LinkedDevice

open TextualHost

attribute [local instance] host

/-- A founder replaces its code for a second device, a stranger tries it in vain, and the
device presents it. -/
def linkedDevice : LinkRun :=
  .ofEvents
    [.backend (.message (callBy founder) .createMyUserProfile),
      .backend (.message (callBy founder) (.registerLinkCode "FIRST001" (principal 7))),
      .backend (.message (callBy founder) (.registerLinkCode "SECOND02" (principal 8))),
      .getMyPendingLinkCode (callBy founder),
      .backend (.message (callBy (principal 7)) (.linkMyPrincipal "SECOND02")),
      .backend (.message (callBy (principal 8)) (.linkMyPrincipal "SECOND02"))]
    (.getMyPendingLinkCode (callBy founder)) (by decide +kernel)

/-- The device is linked by the founder's last registration. -/
theorem linkCodeSafety_linkedDevice :
    linkedDevice.Links 5 (principal 8) ⟨draw 0⟩ "SECOND02" ∧
      ∃ registration,
        linkedDevice.Authorizes registration 5 (principal 8) ⟨draw 0⟩ "SECOND02" ∧
          ∀ other otherPrincipal otherUser otherCode, other < linkedDevice.length →
            linkedDevice.Links other otherPrincipal otherUser otherCode →
              linkedDevice.Authorizes registration other otherPrincipal otherUser otherCode →
                other = 5 := by
  have links : linkedDevice.Links 5 (principal 8) ⟨draw 0⟩ "SECOND02" :=
    ⟨callBy (principal 8), rfl, rfl, by decide +kernel, by decide +kernel⟩
  exact ⟨links, linkCodeSafety linkedDevice 5 (principal 8) ⟨draw 0⟩ _ (by decide) links⟩

end LinkedDevice

end SsnConsole.Backend
