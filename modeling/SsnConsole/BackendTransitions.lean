import SsnConsole.AccountTransitions
import SsnConsole.BackendWorld
import SsnConsole.MembershipTransitions
import SsnConsole.ProposalTransitions

/-!
# What one event of the backend does

Every message ends as one of its operation's writes, or leaves the stores as
they were; every reply is taken up in one of the ways of its suspended message.
Invariants of worlds are proved by cases over these relations.
-/

namespace SsnConsole.Backend

open SsnConsole.MessageSlice
open SsnConsole.MessageRun

variable [Host]

/-- The stores after a principal without an account has signed up. -/
def Stores.signingUp (s : Stores) (caller : Principal) : Stores :=
  Stores.founding
    { s with
      userProfile :=
        (s.userProfile.createUserProfile s.nextId caller .default).incrementUserCount false
      drawn := s.drawn + 1 }
    s.nextId OrganizationRepository.defaultOrganization

/-- Every way in which a message's service ends, up to its first await. -/
inductive Handled (call : Call) (s : Stores) :
    Request → Except Failure Slot → Stores → Prop
  | refused
      {request : Request}
      {failure : Failure} :
      Handled call s request (.error failure) s
  | signUp
      {response : Response}
      (unclaimed : assertPrincipalIsUnclaimed call.caller s = .ok ()) :
      Handled call s .createMyUserProfile (.ok (.ready response)) (s.signingUp call.caller)
  | membership
      {request : Request}
      {result : Except Failure Slot}
      {after : Stores}
      (write : MembershipWrite call s request after)
      (answered : suspendedBy result = []) :
      Handled call s request result after
  | invite
      {request : Request}
      {result : Except Failure Slot}
      {after : Stores}
      (write : InviteWrite call s request after)
      (answered : suspendedBy result = []) :
      Handled call s request result after
  | account
      {request : Request}
      {result : Except Failure Slot}
      {after : Stores}
      (write : AccountWrite call s request after)
      (answered : suspendedBy result = []) :
      Handled call s request result after
  | policy
      {request : Request}
      {response : Response}
      {after : Stores}
      (write : PolicyWrite call s request after) :
      Handled call s request (.ok (.ready response)) after
  | proposal
      {request : Request}
      {result : Except ApiError Slot}
      {after : Stores}
      (write : ProposalWrite call s request result after) :
      Handled call s request (result.mapError .api) after
  | canister
      {request : Request}
      {slot : Slot}
      {after : Stores}
      (write : CanisterWrite call s request slot after) :
      Handled call s request (.ok slot) after

/-- A settling service with a response ends as its write does. -/
private theorem answered_ends
    {ε : Type}
    {call : Call}
    {s : Stores}
    {request : Request}
    {failure : ε → Failure}
    {service : Slice Stores ε Response}
    {onValue : Response → Stores → Prop}
    (settles : Settles service s onValue)
    (holds :
      ∀ response after,
        onValue response after → Handled call s request (.ok (.ready response)) after) :
    Ends (answered failure service) s
      (fun slot after => Handled call s request (.ok slot) after)
      (fun error after => Handled call s request (.error error) after) := by
  refine ends_reportAs.mpr (ends_map.mpr (settles.mono holds ?_))
  rintro error _ rfl
  exact .refused

/-- A settling service with a slot ends as its write does. -/
private theorem awaited_ends
    {call : Call}
    {s : Stores}
    {request : Request}
    {service : Service Slot}
    {onValue : Slot → Stores → Prop}
    (settles : Settles service s onValue)
    (holds :
      ∀ slot after, onValue slot after → Handled call s request (.ok slot) after) :
    Ends (reportAs .api service) s
      (fun slot after => Handled call s request (.ok slot) after)
      (fun error after => Handled call s request (.error error) after) := by
  refine ends_reportAs.mpr (settles.mono holds ?_)
  rintro error _ rfl
  exact .refused

/-- `create_my_user_profile` signs its caller up. -/
private theorem createMyUserProfile_settles
    (call : Call)
    (s : Stores) :
    Settles (UserProfileService.createMyUserProfile call) s fun _ after =>
      assertPrincipalIsUnclaimed call.caller s = .ok () ∧ after = s.signingUp call.caller := by
  refine .rejectIf fun _ => .check fun _ unclaimed => ?_
  exact ⟨unclaimed, rfl⟩

/-- Every message ends in one of the ways of its operation. -/
theorem handle_ends
    (call : Call)
    (request : Request)
    (s : Stores) :
    Ends (handle call request) s
      (fun slot after => Handled call s request (.ok slot) after)
      (fun failure after => Handled call s request (.error failure) after) := by
  cases request with
  | createMyUserProfile =>
      refine answered_ends (createMyUserProfile_settles call s) ?_
      rintro response _ ⟨unclaimed, rfl⟩
      exact .signUp unclaimed
  | updateMyUserProfile email =>
      exact
        answered_ends (UserProfileService.updateMyUserProfile_settles call email s)
          fun _ _ write => .account write rfl
  | verifyEmail token =>
      exact
        answered_ends (UserProfileService.verifyEmail_settles call token s)
          fun _ _ write => .account write rfl
  | adminUpdateUserProfile userText status =>
      exact
        answered_ends (UserProfileService.updateUserProfile_settles call userText status s)
          fun _ _ write => .account write rfl
  | registerLinkCode code target =>
      exact
        answered_ends (PrincipalLinkService.registerLinkCode_settles call code target s)
          fun _ _ write => .account write rfl
  | linkMyPrincipal code =>
      refine ends_reportAs.mpr (ends_map.mpr ?_)
      exact
        (PrincipalLinkService.linkMyPrincipal_ends call code s).mono
          (fun _ _ write => .account write rfl) (fun _ _ write => .account write rfl)
  | unlinkMyPrincipal principal =>
      exact
        answered_ends (PrincipalLinkService.unlinkMyPrincipal_settles call principal s)
          fun _ _ write => .account write rfl
  | setMyPrincipalName principal name =>
      exact
        answered_ends (PrincipalLinkService.setMyPrincipalName_settles call principal name s)
          fun _ _ write => .account write rfl
  | revokeMyLinkCode =>
      exact
        answered_ends (PrincipalLinkService.revokeMyLinkCode_settles call s)
          fun _ _ write => .account write rfl
  | adminLinkPrincipalToUser userText principal =>
      exact
        answered_ends
          (PrincipalLinkService.adminLinkPrincipalToUser_settles call userText principal s)
          fun _ _ write => .account write rfl
  | adminUnlinkPrincipalFromUser userText principal =>
      exact
        answered_ends
          (PrincipalLinkService.adminUnlinkPrincipalFromUser_settles call userText principal s)
          fun _ _ write => .account write rfl
  | recoverAccountByEmail token =>
      exact
        answered_ends (PrincipalLinkService.recoverAccountByEmail_settles call token s)
          fun _ _ write => .account write rfl
  | adminGrantStaffPermissions userText permissions =>
      exact
        answered_ends
          (StaffPermissionsService.grantStaffPermissions_settles call userText permissions s)
          fun _ _ write => .account write rfl
  | adminRevokeStaffPermissions userText =>
      exact
        answered_ends (StaffPermissionsService.revokeStaffPermissions_settles call userText s)
          fun _ _ write => .account write rfl
  | adminGrantServicePrincipalPermissions principal permissions =>
      exact
        answered_ends
          (ServicePrincipalService.grantServicePrincipalPermissions_settles call principal
            permissions s)
          fun _ _ write => .account write rfl
  | adminRevokeServicePrincipalPermissions principal =>
      exact
        answered_ends
          (ServicePrincipalService.revokeServicePrincipalPermissions_settles call principal s)
          fun _ _ write => .account write rfl
  | createOrganization text =>
      exact
        answered_ends (OrganizationService.createOrganization_settles call text s)
          fun _ _ write => .membership write rfl
  | updateOrganization orgText text =>
      exact
        answered_ends (OrganizationService.updateOrganization_settles call orgText text s)
          fun _ _ write => .membership write rfl
  | deleteOrganization orgText =>
      refine ends_reportAs.mpr (ends_map.mpr ?_)
      refine (OrganizationService.deleteOrganization_ends call orgText s).mono ?_ ?_
      · exact fun _ _ write => .membership write rfl
      · rintro error after (rfl | write)
        · exact .refused
        · exact .membership write rfl
  | createTeam orgText text =>
      exact
        answered_ends (TeamService.createTeam_settles call orgText text s)
          fun _ _ write => .membership write rfl
  | updateTeam teamText text =>
      exact
        answered_ends (TeamService.updateTeam_settles call teamText text s)
          fun _ _ write => .membership write rfl
  | deleteTeam teamText =>
      exact
        answered_ends (TeamService.deleteTeam_settles call teamText s)
          fun _ _ write => .membership write rfl
  | addUserToTeam teamText userText =>
      exact
        answered_ends (TeamService.addUserToTeam_settles call teamText userText s)
          fun _ _ write => .membership write rfl
  | removeUserFromTeam teamText userText =>
      exact
        answered_ends (TeamService.removeUserFromTeam_settles call teamText userText s)
          fun _ _ write => .membership write rfl
  | updateTeamOrgPermissions teamText permissions =>
      exact
        answered_ends
          (TeamService.updateTeamOrgPermissions_settles call teamText permissions s)
          fun _ _ write => .membership write rfl
  | createProject orgText text =>
      exact
        answered_ends (ProjectService.createProject_settles call orgText text s)
          fun _ _ write => .membership write rfl
  | updateProject projectText text =>
      exact
        answered_ends (ProjectService.updateProject_settles call projectText text s)
          fun _ _ write => .membership write rfl
  | deleteProject projectText =>
      exact
        answered_ends (ProjectService.deleteProject_settles call projectText s)
          fun _ _ write => .membership write rfl
  | addTeamToProject projectText teamText =>
      exact
        answered_ends (ProjectService.addTeamToProject_settles call projectText teamText s)
          fun _ _ write => .membership write rfl
  | removeTeamFromProject projectText teamText =>
      exact
        answered_ends
          (ProjectService.removeTeamFromProject_settles call projectText teamText s)
          fun _ _ write => .membership write rfl
  | updateTeamProjectPermissions projectText teamText permissions =>
      exact
        answered_ends
          (ProjectService.updateTeamProjectPermissions_settles call projectText teamText
            permissions s)
          fun _ _ write => .membership write rfl
  | createOrgInvite orgText target =>
      refine ends_reportAs.mpr (ends_map.mpr ?_)
      refine (InviteService.createOrgInvite_ends call orgText target s).mono ?_ ?_
      · exact fun _ _ write => .invite write rfl
      · rintro error after (rfl | write)
        · exact .refused
        · exact .invite write rfl
  | revokeOrgInvite inviteText =>
      exact
        answered_ends (InviteService.revokeOrgInvite_settles call inviteText s)
          fun _ _ write => .invite write rfl
  | acceptOrgInvite inviteText =>
      exact
        answered_ends (InviteService.acceptOrgInvite_settles call inviteText s)
          fun _ _ write => .invite write rfl
  | declineOrgInvite inviteText =>
      exact
        answered_ends (InviteService.declineOrgInvite_settles call inviteText s)
          fun _ _ write => .invite write rfl
  | createProposal projectText requested =>
      refine ends_reportAs.mpr ?_
      refine (ProposalService.createProposal_ends call projectText requested s).mono ?_ ?_
      · exact fun _ _ write => .proposal write
      · rintro error after (rfl | write)
        · exact .refused
        · exact .proposal write
  | voteProposal proposalText vote =>
      exact
        awaited_ends (ProposalService.voteProposal_settles call proposalText vote s)
          fun _ _ write => .proposal write
  | cancelProposal proposalText =>
      exact
        answered_ends (ProposalService.cancelProposal_settles call proposalText s)
          fun _ _ write => .proposal write
  | upsertApprovalPolicy projectText operationType policyType =>
      exact
        answered_ends
          (ApprovalPolicyService.upsertApprovalPolicy_settles call projectText operationType
            policyType s)
          fun _ _ => .policy
  | adminSetOrgBillingPlan orgText tier =>
      exact
        answered_ends (OrganizationBillingPlanService.setOrgPlan_settles call orgText tier s)
          fun _ _ => .policy
  | removeMyCanister canisterText =>
      exact
        answered_ends (CanisterService.removeMyCanister_settles call canisterText s)
          fun _ _ => .canister
  | updateMyCanisterName canisterText name =>
      exact
        answered_ends (CanisterService.updateMyCanisterName_settles call canisterText name s)
          fun _ _ => .canister
  | startMyCanister canisterText =>
      exact
        awaited_ends (CanisterService.startMyCanister_settles call canisterText s)
          fun _ _ => .canister
  | stopMyCanister canisterText =>
      exact
        awaited_ends (CanisterService.stopMyCanister_settles call canisterText s)
          fun _ _ => .canister
  | addChildCanisters mappings =>
      exact
        answered_ends (CanisterService.addChildCanisters_settles call mappings s)
          fun _ _ => .canister
  | upsertTermsAndConditionsDecision termsText decisionType =>
      exact
        answered_ends
          (TermsAndConditionsService.upsertTermsAndConditionsDecision_settles call termsText
            decisionType s)
          fun _ _ write => .account write rfl
  | adminCreateTermsAndConditions content comment =>
      exact
        answered_ends
          (TermsAndConditionsService.createTermsAndConditions_settles call content comment s)
          fun _ _ write => .account write rfl

omit [Host] in
/-- What a service ends in, whatever it answers, its message ends in. -/
theorem of_answered
    {ε : Type}
    {failure : ε → Failure}
    {service : Slice Stores ε Response}
    {s after : Stores}
    {result : Except Failure Slot}
    {Holds : Stores → Prop}
    (ends : Ends service s (fun _ after => Holds after) fun _ after => Holds after)
    (ran : outcome (answered failure service) s = (result, after)) :
    Holds after := by
  have answers :
      Ends (answered failure service) s (fun _ after => Holds after)
        fun _ after => Holds after := by
    simpa only [answered, ends_reportAs, ends_map] using ends
  unfold Ends at answers
  rw [ran] at answers
  cases result with
  | ok _ => exact answers
  | error _ => exact answers

/-- The outcome of a message is one of the ways of its operation. -/
theorem handled_of_outcome
    {call : Call}
    {request : Request}
    {s after : Stores}
    {result : Except Failure Slot}
    (ran : outcome (handle call request) s = (result, after)) :
    Handled call s request result after := by
  obtain ⟨onValue, onError⟩ := ends_iff_outcome.mp (handle_ends call request s)
  cases result with
  | ok slot =>
      exact onValue slot after ran
  | error failure =>
      exact onError failure after ran

omit [Host] in
/-- Nobody passes the authentication check anonymously. -/
theorem assertAuthenticated_ok
    {principal : Principal}
    (passed : assertAuthenticated principal = .ok ()) :
    principal ≠ Principal.anonymous := by
  unfold assertAuthenticated at passed
  split at passed
  · cases passed
  · assumption

/-- Every gate but that of the canister history authenticates its caller. -/
theorem gate_authenticated
    {call : Call}
    {request : Request}
    {s : Stores}
    (passed : gate call request s = .ok ())
    (notHistory : ∀ mappings, request ≠ .addChildCanisters mappings) :
    call.caller ≠ Principal.anonymous := by
  have authenticated : assertAuthenticated call.caller = .ok () := by
    cases request with
    | addChildCanisters mappings =>
        exact (notHistory mappings rfl).elim
    | adminUpdateUserProfile _ _ | adminSetOrgBillingPlan _ _ | adminGrantStaffPermissions _ _
    | adminRevokeStaffPermissions _ | adminGrantServicePrincipalPermissions _ _
    | adminRevokeServicePrincipalPermissions _ | adminCreateTermsAndConditions _ _
    | createProposal _ _ | voteProposal _ _ | cancelProposal _ | upsertApprovalPolicy _ _ _ =>
        obtain ⟨_, authenticated, -⟩ := bind_eq_ok.mp passed
        exact authenticated
    | _ =>
        exact passed
  exact assertAuthenticated_ok authenticated

namespace World

/-- The service of a request answers, or suspends, without an error. -/
def Succeeds (world : World) (call : Call) (request : Request) : Prop :=
  ∃ slot, (outcome (handle call request) world.stores).1 = .ok slot

/-- An answer that is no error is a success. -/
theorem succeeds_of_isOk
    {world : World}
    {call : Call}
    {request : Request}
    (answered : (outcome (handle call request) world.stores).1.isOk = true) :
    world.Succeeds call request := by
  unfold Succeeds
  cases result : (outcome (handle call request) world.stores).1 with
  | ok slot =>
      exact ⟨slot, rfl⟩
  | error failure =>
      rw [result] at answered
      cases answered

/-- A successful message ends in one of the ways of its operation. -/
theorem Succeeds.handled
    {world after : World}
    {call : Call}
    {request : Request}
    (succeeded : world.Succeeds call request)
    (stepped : serviceStep world (.message call request) = some after) :
    ∃ slot, Handled call world.stores request (.ok slot) after.stores := by
  obtain ⟨slot, answered⟩ := succeeded
  cases stepped
  refine ⟨slot, ?_⟩
  rw [← answered]
  exact handled_of_outcome Prod.mk.eta.symm

/-- The endpoint of a request lets it pass, and its service succeeds. -/
def Accepts (world : World) (call : Call) (request : Request) : Prop :=
  gate call request world.stores = .ok () ∧ world.Succeeds call request

/-- An accepted message ends in one of the ways of its operation. -/
theorem Accepts.handled
    {world after : World}
    {call : Call}
    {request : Request}
    (accepted : world.Accepts call request)
    (stepped : endpointStep world (.message call request) = some after) :
    ∃ slot, Handled call world.stores request (.ok slot) after.stores := by
  rw [endpointStep_message, accepted.1] at stepped
  exact accepted.2.handled stepped

/-- An endpoint-level step is refused at its gate, or is the service-level step. -/
theorem endpointStep_cases
    {world after : World}
    {event : Event}
    (stepped : endpointStep world event = some after) :
    after = world ∨
      serviceStep world event = some after ∧
        ∀ call request, event = .message call request → gate call request world.stores = .ok () := by
  cases event with
  | reply now index reply =>
      right
      refine ⟨stepped, ?_⟩
      intro call request asked
      cases asked
  | message call request =>
      rw [endpointStep_message] at stepped
      cases passed : gate call request world.stores with
      | error error =>
          rw [passed] at stepped
          left
          exact (Option.some.inj stepped).symm
      | ok _ =>
          rw [passed] at stepped
          right
          refine ⟨stepped, ?_⟩
          intro otherCall otherRequest asked
          cases asked
          exact passed

/-- Worlds that endpoints lead to are worlds that services lead to. -/
theorem Reachable.of_endpoints
    {allowed : World → Event → Prop}
    {world : World}
    (reachable : MessageRun.Reachable endpointStep allowed World.empty world) :
    MessageRun.Reachable serviceStep allowed World.empty world := by
  refine reachable.invariant .initial ?_
  intro before event after _ earlier permitted stepped
  rcases endpointStep_cases stepped with rfl | ⟨served, -⟩
  · exact earlier
  · exact .step earlier permitted served

/-- Every way in which an event changes the world. -/
inductive Stepped (world : World) : Event → World → Prop
  | message
      {call : Call}
      {request : Request}
      {result : Except Failure Slot}
      {after : Stores}
      (handled : Handled call world.stores request result after) :
      Stepped world (.message call request) ⟨after, world.inFlight ++ suspendedBy result⟩
  | reply
      {now index : Nat}
      {reply : Reply}
      {inFlight : InFlight}
      {suspended : List InFlight}
      {after : Stores}
      (waiting : world.inFlight[index]? = some inFlight)
      (resumed : Resumption now world.stores inFlight reply suspended after) :
      Stepped world (.reply now index reply)
        ⟨after, world.inFlight.eraseIdx index ++ suspended⟩

/-- A service-level step is one of the ways of its event. -/
theorem serviceStep_cases
    {world after : World}
    {event : Event}
    (stepped : serviceStep world event = some after) :
    world.Stepped event after := by
  cases event with
  | message call request =>
      cases stepped
      exact .message (handled_of_outcome (Prod.mk.eta).symm)
  | reply now index reply =>
      obtain ⟨inFlight, waiting, continued⟩ := Option.bind_eq_some_iff.mp stepped
      obtain ⟨slice, resumed, rfl⟩ := Option.map_eq_some_iff.mp continued
      have ends :
          Ends (reportAs Failure.api slice) world.stores
            (fun slot after => Resumption now world.stores inFlight reply slot.suspended after)
            (fun _ after => Resumption now world.stores inFlight reply [] after) :=
        ends_reportAs.mpr (resume_ends resumed)
      refine .reply waiting ?_
      obtain ⟨onValue, onError⟩ := ends_iff_outcome.mp ends
      cases ended : outcome (reportAs Failure.api slice) world.stores with
      | mk result stores =>
          cases result with
          | ok slot =>
              exact onValue slot stores ended
          | error failure =>
              exact onError failure stores ended

end World

end SsnConsole.Backend
