import SsnConsole.BackendTransitions

/-!
# Evaluated runs of the endpoints

The latest terms and conditions are the largest entry of a tree, which does not
evaluate by reduction.  Until terms are published, an active account passes the
platform check whatever that entry is; runs whose gates are passed this way or
by evaluation are runs of the endpoints.
-/

namespace SsnConsole.Backend

open SsnConsole.MessageRun

variable [Host]

/-- The platform check of an active account, while no terms are published. -/
def platformAccessWithoutTerms (call : Call) (s : Stores) : Bool :=
  s.terms.createdAtIndex.isEmpty && !decide (call.caller = Principal.anonymous) &&
    (s.userProfile.getUserProfileByPrincipal call.caller).any fun entry =>
      decide (entry.2.status = .active)

omit [Host] in
/-- Without published terms every user has accepted the latest ones. -/
theorem TermsAndConditionsState.hasAcceptedLatest_of_isEmpty
    {terms : TermsAndConditionsState}
    {userId : UserId}
    (unpublished : terms.createdAtIndex.isEmpty = true) :
    terms.hasAcceptedLatestTermsAndConditions userId = true := by
  have noLatest : terms.getLatestTermsAndConditionId = none := by
    unfold getLatestTermsAndConditionId
    rw [Std.ExtTreeSet.isEmpty_iff.mp unpublished, Std.ExtTreeSet.max?_empty]
    rfl
  unfold hasAcceptedLatestTermsAndConditions
  rw [noLatest]

/-- An active account has platform access while no terms are published. -/
theorem assertHasPlatformAccess_of_withoutTerms
    {call : Call}
    {s : Stores}
    (access : platformAccessWithoutTerms call s = true) :
    assertHasPlatformAccess call s = .ok () := by
  obtain ⟨⟨unpublished, authenticated⟩, active⟩ :
      (s.terms.createdAtIndex.isEmpty = true ∧ call.caller ≠ Principal.anonymous) ∧
        (s.userProfile.getUserProfileByPrincipal call.caller).any
            (fun entry => decide (entry.2.status = .active)) = true := by
    simpa [platformAccessWithoutTerms] using access
  obtain ⟨entry, stored, isActive⟩ := (Option.any_eq_true _ _).mp active
  obtain ⟨userId, linked, hasProfile⟩ := Option.bind_eq_some_iff.mp stored
  obtain ⟨profile, found, rfl⟩ := Option.map_eq_some_iff.mp hasProfile
  have known : s.userProfile.assertUserIdByPrincipal call.caller = .ok userId := by
    rw [UserProfileState.assertUserIdByPrincipal, linked]
  have accepted : s.terms.hasAcceptedLatestTermsAndConditions userId = true :=
    TermsAndConditionsState.hasAcceptedLatest_of_isEmpty unpublished
  have isActive : profile.status = .active := of_decide_eq_true isActive
  simp only [assertHasPlatformAccess, assertAuthenticated, if_neg authenticated, known, bind,
    Except.bind, accepted, found, isActive]
  cases call.isController call.caller <;> rfl

/-- Whether an event is a reply or passes its gate, while no terms are published. -/
def World.admits (world : World) : Event → Bool
  | .message call request =>
      match request with
      | .createProposal _ _ | .voteProposal _ _ | .cancelProposal _
      | .upsertApprovalPolicy _ _ _ => platformAccessWithoutTerms call world.stores
      | _ => (gate call request world.stores).isOk
  | .reply _ _ _ => true

/-- Steps that an evaluated gate admits. -/
def World.admittedStep (world : World) (event : Event) : Option World :=
  if world.admits event then World.serviceStep world event else none

/-- What a gate admits is a step of the endpoints. -/
theorem World.endpointStep_of_admitted
    {world next : World}
    {event : Event}
    (stepped : world.admittedStep event = some next) :
    World.endpointStep world event = some next := by
  have ok_of_isOk : ∀ {result : ApiResult Unit}, result.isOk = true → result = .ok () := by
    intro result isOk
    cases result with
    | ok _ => rfl
    | error _ => cases isOk
  have admitted : world.admits event = true := by
    by_contra refused
    rw [World.admittedStep, if_neg refused] at stepped
    cases stepped
  rw [World.admittedStep, if_pos admitted] at stepped
  cases event with
  | reply now index reply => exact stepped
  | message call request =>
      have passed : gate call request world.stores = .ok () := by
        cases request with
        | createProposal | voteProposal | cancelProposal | upsertApprovalPolicy =>
            exact assertHasPlatformAccess_of_withoutTerms admitted
        | _ => exact ok_of_isOk admitted
      rw [World.endpointStep_message, passed]
      exact stepped

/-- The run of events that evaluated gates admit. -/
def admittedRun
    (events : List Event)
    (idle : Event)
    (ran : (runEvents World.admittedStep World.empty events).isSome = true) :
    Execution World.endpointStep World.empty :=
  (Execution.ofEvents events idle ran).mono fun _ _ _ stepped =>
    World.endpointStep_of_admitted stepped

end SsnConsole.Backend
