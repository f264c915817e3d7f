import SsnConsole.MembershipIntegrity
import SsnConsole.TermsHistory

/-!
# The acceptance of the latest terms

Runs of the backend are recorded with the history of their accepted terms
operations.  The stores agree with the history, but the version that the canister
takes for the latest one is the greatest by time and random identifier.
-/

namespace SsnConsole.Backend

open SsnConsole.MessageRun
open SsnConsole.MessageSlice
open SsnConsole.TimedRun

section Frames

variable [Host]
variable {call : Call} {s after : Stores} {request : Request}

/-- The membership operations leave the terms alone. -/
private theorem MembershipWrite.sameTerms
    (write : MembershipWrite call s request after) :
    after.terms = s.terms := by
  cases write with
  | createOrganization =>
      obtain ⟨policies, drawn, -, founded⟩ := s.founding_eq _ _
      rw [founded]
  | _ =>
      rfl

/-- The policy and billing operations leave the terms alone. -/
private theorem PolicyWrite.sameTerms
    (write : PolicyWrite call s request after) :
    after.terms = s.terms := by
  cases write with
  | @upsertApprovalPolicy _ _ _ _ operation policy auth _ _ =>
      obtain ⟨policies, drawn, -, written⟩ :=
        ApprovalPolicyRepository.upsertApprovalPolicy_frame auth.projectId operation policy s
      rw [written]
  | setOrgPlan =>
      rfl

/-- The canister operations leave the terms alone. -/
private theorem CanisterWrite.sameTerms
    {slot : Slot}
    (write : CanisterWrite call s request slot after) :
    after.terms = s.terms := by
  cases write with
  | @addChildCanisters mappings =>
      exact
        @CanisterService.addChildCanisters_induction _ (fun later => later.terms = s.terms)
          mappings s (fun _ _ _ _ same _ => same) (fun _ _ same => same) rfl
  | _ =>
      rfl

/-- Of the account operations only the two terms operations reach the terms. -/
private theorem AccountWrite.sameTerms
    (write : AccountWrite call s request after)
    (noDecision :
      ∀ termsText decisionType,
        request ≠ .upsertTermsAndConditionsDecision termsText decisionType)
    (noVersion :
      ∀ content comment, request ≠ .adminCreateTermsAndConditions content comment) :
    after.terms = s.terms := by
  cases write with
  | changeDecision | makeDecision =>
      exact absurd rfl (noDecision _ _)
  | createTermsAndConditions =>
      exact absurd rfl (noVersion _ _)
  | _ =>
      rfl

/-- Only the two terms operations reach the terms. -/
private theorem Handled.sameTerms
    {result : Except Failure Slot}
    (handled : Handled call s request result after)
    (noDecision :
      ∀ termsText decisionType,
        request ≠ .upsertTermsAndConditionsDecision termsText decisionType)
    (noVersion :
      ∀ content comment, request ≠ .adminCreateTermsAndConditions content comment) :
    after.terms = s.terms := by
  cases handled with
  | refused =>
      rfl
  | signUp _ =>
      obtain ⟨policies, drawn, -, founded⟩ :=
        Stores.founding_eq
          { s with
            userProfile :=
              (s.userProfile.createUserProfile s.nextId call.caller .default).incrementUserCount
                false
            drawn := s.drawn + 1 }
          s.nextId OrganizationRepository.defaultOrganization
      rw [Stores.signingUp, founded]
  | membership write _ =>
      exact write.sameTerms
  | invite write _ =>
      cases write <;> rfl
  | account write _ =>
      exact write.sameTerms noDecision noVersion
  | policy write =>
      exact write.sameTerms
  | proposal write =>
      exact write.sameSettings.terms
  | canister write =>
      exact write.sameTerms

end Frames

section Messages

variable [Host]

/-- What an accepted message does to the terms. -/
def acceptedTermsAct (s : Stores) (call : Call) : Request → Option TermsAct
  | .adminCreateTermsAndConditions _ _ => some (.created (call.now, s.nextId))
  | .upsertTermsAndConditionsDecision termsText decisionType =>
      (s.userProfile.getUserIdByPrincipal call.caller).bind fun userId =>
        (Id.tryFrom termsText).toOption.map fun termsId =>
          .decided (userId, termsId) (mapDecisionType decisionType)
  | _ => none

/-- What a message does to the terms: nothing unless it is accepted. -/
def termsAct (s : Stores) (call : Call) (request : Request) : Option TermsAct :=
  match (outcome (handle call request) s).1 with
  | .ok _ => acceptedTermsAct s call request
  | .error _ => none

/-- Every way in which a message with its act on the terms changes the stores. -/
inductive TermsStep (now : Nat) (s : Stores) : Option TermsAct → Stores → Prop
  | elsewhere
      {after : Stores}
      (same : after.terms = s.terms) :
      TermsStep now s none after
  | create
      (terms : TermsAndConditions)
      (stamped : terms.createdAt = now) :
      TermsStep now s (some (.created (now, s.nextId)))
        { s with
          terms := s.terms.createTermsAndConditions s.nextId terms
          drawn := s.drawn + 1 }
  | change
      {id : TermsAndConditionsDecisionId}
      (decision : TermsAndConditionsDecision)
      (known :
        s.terms.decisionsUserIndex[TermsAndConditionsState.decisionKey decision]? = some id) :
      TermsStep now s
        (some (.decided (TermsAndConditionsState.decisionKey decision) decision.decisionType))
        { s with terms := s.terms.upsertDecision id decision }
  | decide
      (decision : TermsAndConditionsDecision)
      (unknown :
        s.terms.decisionsUserIndex[TermsAndConditionsState.decisionKey decision]? = none) :
      TermsStep now s
        (some (.decided (TermsAndConditionsState.decisionKey decision) decision.decisionType))
        { s with
          terms := s.terms.upsertDecision s.nextId decision
          drawn := s.drawn + 1 }

/-- An accepted decision is on a stored version and is recorded. -/
theorem upsertTermsAndConditionsDecision_decides
    (call : Call)
    (termsText : String)
    (decisionType : Dto.TermsAndConditionsDecisionType)
    (s : Stores) :
    Settles
      (TermsAndConditionsService.upsertTermsAndConditionsDecision call termsText decisionType) s
      fun _ after =>
        (∃ termsId : TermsAndConditionsId,
          Id.tryFrom termsText = .ok termsId ∧ termsId ∈ s.terms.termsAndConditions) ∧
          TermsStep call.now s
            (acceptedTermsAct s call
              (.upsertTermsAndConditionsDecision termsText decisionType))
            after := by
  refine
    .rejectIf fun _ => .check fun userId resolved => .require fun termsId parsed =>
      .rejectIf fun published => .inspect ?_
  have stored : termsId ∈ s.terms.termsAndConditions :=
    Std.ExtTreeMap.mem_iff_contains.mpr (by simpa using published)
  have account := UserProfileState.assertUserIdByPrincipal_ok resolved
  have act :
      acceptedTermsAct s call (.upsertTermsAndConditionsDecision termsText decisionType) =
        some (.decided (userId, termsId) (mapDecisionType decisionType)) := by
    simp [acceptedTermsAct, account, parsed, Except.toOption]
  rw [act]
  split
  · rename_i id known
    exact
      ⟨⟨termsId, parsed, stored⟩,
        .change ⟨termsId, userId, call.now, mapDecisionType decisionType⟩ known⟩
  · rename_i unknown
    exact
      ⟨⟨termsId, parsed, stored⟩,
        .decide ⟨termsId, userId, call.now, mapDecisionType decisionType⟩ unknown⟩

/-- An accepted version is recorded. -/
theorem createTermsAndConditions_creates
    (call : Call)
    (content comment : String)
    (s : Stores) :
    Settles (TermsAndConditionsService.createTermsAndConditions call content comment) s
      fun _ after =>
        TermsStep call.now s
          (acceptedTermsAct s call (.adminCreateTermsAndConditions content comment)) after := by
  refine .check fun userId _ => ?_
  exact .create ⟨content, comment, call.now, userId⟩ rfl

omit [Host] in
/-- A message settles as its service does. -/
private theorem settles_answered
    {service : Service Response}
    {s : Stores}
    {Holds : Stores → Prop}
    (settles : Settles service s fun _ after => Holds after) :
    Settles (answered Failure.api service) s fun _ after => Holds after :=
  ends_reportAs.mpr (ends_map.mpr settles)

/-- A decision on a version that is not stored is refused without a trace. -/
theorem refused_of_unknown
    {call : Call}
    {termsText : String}
    {decisionType : Dto.TermsAndConditionsDecisionType}
    {s : Stores}
    (unknown :
      ∀ termsId : TermsAndConditionsId,
        Id.tryFrom termsText = .ok termsId → termsId ∉ s.terms.termsAndConditions) :
    ∃ failure,
      outcome (handle call (.upsertTermsAndConditionsDecision termsText decisionType)) s =
        (.error failure, s) := by
  have settles := settles_answered
    (upsertTermsAndConditionsDecision_decides call termsText decisionType s)
  obtain ⟨onValue, onError⟩ := ends_iff_outcome.mp settles
  rcases ran : outcome (handle call (.upsertTermsAndConditionsDecision termsText decisionType)) s
    with ⟨failure | slot, after⟩
  · rw [onError failure after ran]
    exact ⟨failure, rfl⟩
  · obtain ⟨⟨termsId, parsed, stored⟩, -⟩ := onValue slot after ran
    exact absurd stored (unknown termsId parsed)

/-- An accepted message acts on the terms. -/
theorem termsAct_of_ok
    {call : Call}
    {request : Request}
    {s after : Stores}
    {slot : Slot}
    (ran : outcome (handle call request) s = (.ok slot, after)) :
    termsAct s call request = acceptedTermsAct s call request := by
  rw [termsAct, ran]

/-- A refused message does not. -/
theorem termsAct_of_error
    {call : Call}
    {request : Request}
    {s after : Stores}
    {failure : Failure}
    (ran : outcome (handle call request) s = (.error failure, after)) :
    termsAct s call request = none := by
  rw [termsAct, ran]

/-- A settling service makes a terms step if its accepted outcomes do. -/
private theorem termsStep_of_settles
    {call : Call}
    {request : Request}
    {s after : Stores}
    {result : Except Failure Slot}
    (settles :
      Settles (handle call request) s fun _ after =>
        TermsStep call.now s (acceptedTermsAct s call request) after)
    (ran : outcome (handle call request) s = (result, after)) :
    TermsStep call.now s (termsAct s call request) after := by
  obtain ⟨onValue, onError⟩ := ends_iff_outcome.mp settles
  cases result with
  | ok slot =>
      rw [termsAct_of_ok ran]
      exact onValue slot after ran
  | error failure =>
      rw [termsAct_of_error ran, onError failure after ran]
      exact .elsewhere rfl

/-- Every message changes the stores in one of the ways of its act on the terms. -/
theorem termsStep_of_outcome
    {call : Call}
    {request : Request}
    {s after : Stores}
    {result : Except Failure Slot}
    (ran : outcome (handle call request) s = (result, after)) :
    TermsStep call.now s (termsAct s call request) after := by
  have handled := handled_of_outcome ran
  cases request with
  | upsertTermsAndConditionsDecision termsText decisionType =>
      refine termsStep_of_settles (settles_answered ?_) ran
      exact
        (upsertTermsAndConditionsDecision_decides call termsText decisionType s).mono
          (fun _ _ decided => decided.2) fun _ _ same => same
  | adminCreateTermsAndConditions content comment =>
      exact
        termsStep_of_settles
          (settles_answered (createTermsAndConditions_creates call content comment s)) ran
  | _ =>
      have same := handled.sameTerms (by simp) (by simp)
      cases result with
      | ok slot =>
          rw [termsAct_of_ok ran]
          exact .elsewhere same
      | error failure =>
          rw [termsAct_of_error ran]
          exact .elsewhere same

end Messages

section Runs

variable [Host]

/-- The backend with its clock and the history of its terms. -/
structure RecordedTerms where
  timed : Timed World
  history : TermsHistory

/-- What an event does to the terms. -/
def Event.termsAct (s : Stores) : Event → Option TermsAct
  | .message call request => Backend.termsAct s call request
  | .reply _ _ _ => none

/-- Every event changes the stores in one of the ways of its act on the terms. -/
theorem World.termsStep
    {world after : World}
    {event : Event}
    (served : World.serviceStep world event = some after) :
    TermsStep event.now world.stores (event.termsAct world.stores) after.stores := by
  cases event with
  | message call request =>
      cases served
      exact termsStep_of_outcome (Prod.mk.eta).symm
  | reply now index reply =>
      cases World.serviceStep_cases served with
      | reply waiting resumed =>
          exact .elsewhere resumed.sameSettings.terms

namespace RecordedTerms

/-- A new backend without a history. -/
def initial : RecordedTerms :=
  ⟨⟨World.empty, 0⟩, []⟩

/-- The stores of the backend. -/
def stores (recorded : RecordedTerms) : Stores :=
  recorded.timed.state.stores

/-- One event, with what it does to the terms added to the history. -/
def step (recorded : RecordedTerms) (event : Event) : Option RecordedTerms :=
  (World.timedStep recorded.timed event).map fun next =>
    ⟨next, (event.termsAct recorded.stores).toList ++ recorded.history⟩

/-- The states that any run whose clock does not go back leads to. -/
abbrev Reachable (recorded : RecordedTerms) : Prop :=
  MessageRun.Reachable step (fun _ _ => True) initial recorded

/-- The stores agree with the history, and nothing in it is from the future. -/
structure Sound (recorded : RecordedTerms) : Prop where
  stores : recorded.stores.Sound
  agrees : recorded.stores.terms.Agrees recorded.history
  past : ∀ version ∈ recorded.history.versions, version.1 ≤ recorded.timed.clock
  drawn : ∀ id ∈ recorded.stores.terms.decisions, Drawn recorded.stores.drawn id

/-- A new backend is sound. -/
theorem Sound.initial : Sound initial where
  stores := Stores.Sound.empty
  agrees := .empty
  past := by simp [RecordedTerms.initial, TermsHistory.versions]
  drawn := by
    simp [RecordedTerms.initial, RecordedTerms.stores, World.empty, Stores.empty,
      TermsAndConditionsState.empty]

/-- What a terms step does is what its act says. -/
private theorem Sound.agrees_after
    {recorded : RecordedTerms}
    {now : Nat}
    {act : Option TermsAct}
    {after : Stores}
    (sound : recorded.Sound)
    (later : recorded.timed.clock ≤ now)
    (moved : TermsStep now recorded.stores act after) :
    after.terms.Agrees (act.toList ++ recorded.history) := by
  cases moved with
  | elsewhere same =>
      rw [same]
      exact sound.agrees
  | create terms stamped =>
      subst stamped
      apply sound.agrees.create
      intro version member
      exact (sound.past version member).trans later
  | @change id decision known =>
      apply sound.agrees.decide
      · intro other held
        obtain ⟨stored, isStored, keyed⟩ := sound.agrees.exists_row known
        obtain rfl := Option.some.inj (held.symm.trans isStored)
        exact keyed
      · intro other found
        exact Option.some.inj (found.symm.trans known)
  | decide decision unknown =>
      apply sound.agrees.decide
      · intro other held
        have member := Std.ExtTreeMap.mem_iff_isSome_getElem?.mpr (by rw [held]; rfl)
        exact absurd (drawn_draw.mp (sound.drawn _ member)) (lt_irrefl _)
      · intro other found
        rw [unknown] at found
        cases found

/-- The identifiers of the decisions after a terms step are drawn. -/
private theorem Sound.drawn_after
    {recorded : RecordedTerms}
    {now : Nat}
    {act : Option TermsAct}
    {after : Stores}
    (sound : recorded.Sound)
    (grown : recorded.stores.drawn ≤ after.drawn)
    (moved : TermsStep now recorded.stores act after) :
    ∀ id ∈ after.terms.decisions, Drawn after.drawn id := by
  intro id member
  cases moved with
  | elsewhere same =>
      rw [same] at member
      exact (sound.drawn id member).mono grown
  | create terms stamped =>
      exact (sound.drawn id member).mono grown
  | @change known decision found =>
      rcases StableIndex.mem_insert_entry.mp member with earlier | rfl
      · exact sound.drawn id earlier
      · obtain ⟨stored, held, -⟩ := sound.agrees.exists_row found
        exact sound.drawn id (Std.ExtTreeMap.mem_iff_isSome_getElem?.mpr (by rw [held]; rfl))
  | decide decision unknown =>
      rcases StableIndex.mem_insert_entry.mp member with earlier | rfl
      · exact (sound.drawn id earlier).mono grown
      · exact drawn_draw.mpr (Nat.lt_succ_self _)

/-- A version in the history after a terms step is one before it, or new. -/
private theorem Sound.past_after
    {recorded : RecordedTerms}
    {now : Nat}
    {act : Option TermsAct}
    {after : Stores}
    (sound : recorded.Sound)
    (later : recorded.timed.clock ≤ now)
    (moved : TermsStep now recorded.stores act after) :
    ∀ version ∈ TermsHistory.versions (act.toList ++ recorded.history), version.1 ≤ now := by
  have past :
      ∀ version ∈ recorded.history.versions, version.1 ≤ now := by
    intro version member
    exact (sound.past version member).trans later
  cases moved with
  | create terms stamped =>
      intro version member
      rcases List.mem_cons.mp member with rfl | earlier
      · exact Nat.le_refl now
      · exact past version earlier
  | _ =>
      exact past

/-- Every event keeps a sound backend sound. -/
theorem Sound.step
    {before after : RecordedTerms}
    {event : Event}
    (sound : before.Sound)
    (stepped : before.step event = some after) :
    after.Sound := by
  obtain ⟨next, timedStep, rfl⟩ := Option.map_eq_some_iff.mp stepped
  obtain ⟨later, served, clock⟩ := timedStep_eq_some.mp timedStep
  have sequel := World.serviceStep_cases served
  have moved := World.termsStep served
  constructor
  · exact sequel.sound sound.stores
  · exact sound.agrees_after later moved
  · rw [clock]
    exact sound.past_after later moved
  · exact sound.drawn_after (sequel.drawn_le sound.stores) moved

/-- Every reachable backend is sound. -/
theorem Reachable.sound
    {recorded : RecordedTerms}
    (reachable : recorded.Reachable) :
    recorded.Sound := by
  apply reachable.invariant Sound.initial
  intro before event after _ sound _ stepped
  exact sound.step stepped

end RecordedTerms

/-- The most recent version and the greatest one of its time are accepted by the same users. -/
def TermsHistory.TieSettled (history : TermsHistory) : Prop :=
  ∀ latest ∈ history.versions.head?, ∀ id, history.GreatestAt latest.1 id →
    ∀ userId,
      history.lastDecision (userId, id) = some .accept ↔
        history.lastDecision (userId, latest.2) = some .accept

omit [Host] in
/-- A latest version that drew the greatest identifier of its time settles the tie. -/
theorem TermsHistory.tieSettled_of_greatest
    {history : TermsHistory}
    (greatest :
      ∀ latest ∈ history.versions.head?, history.GreatestAt latest.1 latest.2) :
    history.TieSettled := by
  intro latest isLatest id isGreatest userId
  have own := greatest latest isLatest
  have sameUuid : id.uuid = latest.2.uuid :=
    Nat.le_antisymm (own.2 _ isGreatest.1 rfl) (isGreatest.2 _ own.1 rfl)
  have same : id = latest.2 := congrArg (Id.mk : Nat → TermsAndConditionsId) sameUuid
  rw [same]

omit [Host] in
/-- The acceptance that the canister sees is that of the history exactly if ties are settled. -/
theorem hasAcceptedLatest_iff
    {terms : TermsAndConditionsState}
    {history : TermsHistory}
    (agrees : terms.Agrees history) :
    (∀ userId,
        terms.hasAcceptedLatestTermsAndConditions userId = true ↔
          history.HasAcceptedLatest userId) ↔
      history.TieSettled := by
  cases created : history.versions.head? with
  | none =>
      have noLatest := agrees.getLatest_eq_none_iff.mpr created
      simp [TermsAndConditionsState.hasAcceptedLatestTermsAndConditions, noLatest,
        TermsHistory.HasAcceptedLatest, TermsHistory.TieSettled, created]
  | some latest =>
      obtain ⟨id, found⟩ : ∃ id, terms.getLatestTermsAndConditionId = some id := by
        rw [← Option.ne_none_iff_exists', ne_eq, agrees.getLatest_eq_none_iff, created]
        simp
      have isGreatest := (agrees.getLatest_eq_some_iff created id).mp found
      have code : ∀ userId,
          terms.hasAcceptedLatestTermsAndConditions userId = true ↔
            history.lastDecision (userId, id) = some .accept := by
        intro userId
        rw [TermsAndConditionsState.hasAcceptedLatestTermsAndConditions, found]
        exact agrees.hasAccepted_iff userId id
      have meant : ∀ userId,
          history.HasAcceptedLatest userId ↔
            history.lastDecision (userId, latest.2) = some .accept := by
        intro userId
        simp [TermsHistory.HasAcceptedLatest, created]
      simp only [code, meant]
      constructor
      · intro same other isLatest otherId otherGreatest userId
        obtain rfl : latest = other := Option.some.inj (created.symm.trans isLatest)
        have otherFound := (agrees.getLatest_eq_some_iff created otherId).mpr otherGreatest
        obtain rfl := Option.some.inj (found.symm.trans otherFound)
        exact same userId
      · intro settled userId
        exact settled latest created id isGreatest userId

/--
In every state of every run, acceptance of the latest terms is what the history
says exactly if a tie of the latest time is settled, and in particular if the
most recent version drew the greatest identifier of its time.  Each user has at
most one stored decision on each version, and a decision on a version that was
not created is refused without a trace.
-/
theorem termsAcceptance_iff
    {recorded : RecordedTerms}
    (reachable : recorded.Reachable) :
    ((∀ userId,
          recorded.stores.terms.hasAcceptedLatestTermsAndConditions userId = true ↔
            recorded.history.HasAcceptedLatest userId) ↔
        recorded.history.TieSettled) ∧
      ((∀ latest ∈ recorded.history.versions.head?,
          recorded.history.GreatestAt latest.1 latest.2) →
        ∀ userId,
          recorded.stores.terms.hasAcceptedLatestTermsAndConditions userId = true ↔
            recorded.history.HasAcceptedLatest userId) ∧
      (∀ (first second : TermsAndConditionsDecisionId)
          (decision otherDecision : TermsAndConditionsDecision),
        recorded.stores.terms.decisions[first]? = some decision →
          recorded.stores.terms.decisions[second]? = some otherDecision →
            decision.userId = otherDecision.userId →
              decision.termsAndConditionsId = otherDecision.termsAndConditionsId →
                first = second) ∧
      ∀ call termsText decisionType,
        (∀ (termsId : TermsAndConditionsId) (time : Nat),
            Id.tryFrom termsText = .ok termsId →
              (time, termsId) ∉ recorded.history.versions) →
          ∃ failure,
            outcome (handle call (.upsertTermsAndConditionsDecision termsText decisionType))
                recorded.stores =
              (.error failure, recorded.stores) := by
  have agrees := reachable.sound.agrees
  have exactly := hasAcceptedLatest_iff agrees
  refine ⟨exactly, ?_, ?_, ?_⟩
  · intro greatest
    exact exactly.mpr (TermsHistory.tieSettled_of_greatest greatest)
  · intro first second decision otherDecision stored otherStored sameUser sameVersion
    exact agrees.row_unique stored otherStored (Prod.ext sameUser sameVersion)
  · intro call termsText decisionType unknown
    apply refused_of_unknown
    intro termsId parsed stored
    obtain ⟨time, member⟩ := (agrees.versions termsId).mp stored
    exact unknown termsId time parsed member

end Runs

section OneRound

open TextualHost

/-- A host that draws the identifier of the second version before that of the first. -/
@[reducible]
def exchangedHost : Host :=
  { host with
    draw := fun index => draw (Equiv.swap 12 13 index)
    draw_injective := by
      intro first second same
      exact (Equiv.swap 12 13).injective (host.draw_injective same) }

attribute [local instance] exchangedHost

/-- The operator publishes two versions in one round, and the colleague accepts the second. -/
def twoVersions : List Event :=
  [.message (callBy operator) .createMyUserProfile,
    .message (callBy colleague) .createMyUserProfile,
    .message (callBy operator) (.adminCreateTermsAndConditions "Terms of 2025" "first"),
    .message (callBy operator) (.adminCreateTermsAndConditions "Terms of 2026" "second"),
    .message (callBy colleague) (.upsertTermsAndConditionsDecision (idText 12) .accept)]

/-- The colleague's decision on the latest version does not count. -/
theorem termsAcceptance_twoVersions :
    ¬∀ recorded : RecordedTerms,
      recorded.Reachable →
        ∀ userId,
          recorded.stores.terms.hasAcceptedLatestTermsAndConditions userId = true ↔
            recorded.history.HasAcceptedLatest userId := by
  intro always
  have evaluated :
      (runEvents RecordedTerms.step .initial twoVersions).any
        (fun recorded =>
          decide
            (recorded.history.versions =
                [(1700000000000000000, ⟨draw 12⟩), (1700000000000000000, ⟨draw 13⟩)] ∧
              recorded.history.lastDecision (⟨draw 6⟩, ⟨draw 12⟩) = some .accept ∧
              recorded.history.lastDecision (⟨draw 6⟩, ⟨draw 13⟩) = none)) = true := by
    decide +kernel
  obtain ⟨recorded, ran, decided⟩ := (Option.any_eq_true _ _).mp evaluated
  obtain ⟨versions, accepted, undecided⟩ := of_decide_eq_true decided
  have reachable : recorded.Reachable := .runEvents .initial (fun _ _ _ => trivial) ran
  have settled :=
    (hasAcceptedLatest_iff reachable.sound.agrees).mp (always recorded reachable)
  have greatest :
      recorded.history.GreatestAt 1700000000000000000 ⟨draw 13⟩ := by
    unfold TermsHistory.GreatestAt
    rw [versions]
    decide
  have tie := settled (1700000000000000000, ⟨draw 12⟩) (by rw [versions]; rfl) _ greatest
    ⟨draw 6⟩
  rw [accepted, undecided] at tie
  cases tie.mpr rfl

end OneRound

section Ascending

open TextualHost

attribute [local instance] host

/-- Two versions of one time draw ascending identifiers, and the colleague accepts both. -/
def acceptedVersions : List Event :=
  [.message (callBy operator) .createMyUserProfile,
    .message (callBy colleague) .createMyUserProfile,
    .message (callBy operator) (.adminCreateTermsAndConditions "Terms of 2025" "first"),
    .message (callBy colleague) (.upsertTermsAndConditionsDecision (idText 12) .accept),
    .message (callBy operator) (.adminCreateTermsAndConditions "Terms of 2026" "second"),
    .message (callBy colleague) (.upsertTermsAndConditionsDecision (idText 14) .accept)]

/-- The colleague's decision on the latest version counts, and nobody else decided. -/
theorem termsAcceptance_acceptedVersions :
    ∃ recorded,
      runEvents RecordedTerms.step .initial acceptedVersions = some recorded ∧
        ∀ userId,
          recorded.stores.terms.hasAcceptedLatestTermsAndConditions userId = true ↔
            recorded.history.HasAcceptedLatest userId := by
  have evaluated :
      (runEvents RecordedTerms.step .initial acceptedVersions).any
        (fun recorded =>
          recorded.history.versions == 
            [(1700000000000000000, ⟨draw 14⟩), (1700000000000000000, ⟨draw 12⟩)]) = true := by
    decide +kernel
  obtain ⟨recorded, ran, created⟩ := (Option.any_eq_true _ _).mp evaluated
  have versions := eq_of_beq created
  refine ⟨recorded, ran, ?_⟩
  apply (termsAcceptance_iff (.runEvents .initial (fun _ _ _ => trivial) ran)).2.1
  rw [versions]
  intro latest isLatest
  obtain rfl := Option.some.inj isLatest
  constructor
  · rw [versions]
    exact List.mem_cons_self
  · rw [versions]
    decide

end Ascending

end SsnConsole.Backend
