import SsnConsole.BackendFrames

/-!
# What one event does to a proposal

The status of a proposal and the number of messages that wait for its operation
move together.  `ProposalMove` lists the moves of one proposal with what each of
them establishes; every event is one of them for every proposal.
-/

namespace SsnConsole.Backend

open SsnConsole.MessageSlice
open SsnConsole.StableIndex

variable [Host]

section Authorization

variable {s : Stores} {caller : Principal} {projectId : ProjectId} {auth : ProjectAuth}

/-- A check with other needs passes if the holder's permissions include them. -/
theorem ProjectAuth.Granted.require_eq_ok
    {held needed : ProjectPermissions}
    (granted : auth.Granted caller projectId held s)
    (nonempty : (Permissions.EMPTY : ProjectPermissions).contains held = false)
    (contained : auth.perms.contains needed = true) :
    ProjectAuth.require caller projectId needed s = .ok auth := by
  obtain ⟨project, stored, sameOrg⟩ := Option.map_eq_some_iff.mp granted.organization
  have linked :
      (s.project.aggregateTeamProjectPermissions (s.team.listUserTeamIds auth.userId)
        projectId).2 = true := by
    by_contra unlinked
    have nobody :
        (s.team.listUserTeamIds auth.userId).filterMap
            (fun teamId => s.project.getProjectTeamPermissions projectId teamId) = [] := by
      simpa [ProjectState.aggregateTeamProjectPermissions] using unlinked
    have nothing : auth.perms = .EMPTY := by
      rw [granted.perms, ProjectState.aggregateTeamProjectPermissions, nobody]
      rfl
    have heldNothing := granted.needed
    rw [nothing, nonempty] at heldNothing
    cases heldNothing
  have resolved : s.userProfile.assertUserIdByPrincipal caller = .ok auth.userId := by
    rw [UserProfileState.assertUserIdByPrincipal, granted.account]
  have member : s.organization.isUserInOrg auth.userId project.orgId = true := by
    rw [sameOrg]
    exact granted.member
  unfold ProjectAuth.require ProjectAuth.forUser
  simp only [resolved, stored, member, linked, ← granted.perms, contained, bind, Except.bind]
  simp [← granted.project, sameOrg]

end Authorization

section Votes

variable {call : Call} {proposalText : String} {requested : Dto.Vote} {s : Stores}
variable {proposalId : ProposalId} {vote : Vote} {auth : ProjectAuth} {proposal : Proposal}
variable {threshold : Nat} {approvers : List UserId} {votes : List (UserId × Vote)}

/-- An acceptable vote is recorded with what the votes have reached. -/
theorem AcceptedVote.recordProposalVote_eq_ok
    {state : ProposalState}
    {voter : UserId}
    (accepted :
      AcceptedVote state proposalId voter proposal threshold approvers votes)
    (vote : Vote)
    (now : Nat) :
    ∃ after,
      state.recordProposalVote proposalId voter vote now =
        .ok
          (ProposalState.voteOutcome threshold approvers (votes ++ [(voter, vote)]), after) := by
  have stored : state.proposals[proposalId]? = some proposal := accepted.stored
  have unvoted : (votes.any fun entry => decide (entry.1 = voter)) = false := by
    simpa using accepted.fresh
  have listed : approvers.contains voter = true := by
    simpa using accepted.approver
  unfold ProposalState.recordProposalVote
  simp only [stored, accepted.pending, unvoted, listed]
  exact ⟨_, rfl⟩

/-- An acceptable vote of an authorized caller is cast. -/
theorem AcceptedVote.castVote_eq_ok
    (parsed : mapVoteProposalRequest proposalText requested = .ok (proposalId, vote))
    (granted :
      auth.Granted call.caller proposal.projectId ProjectPermissions.PROPOSAL_APPROVE s)
    (accepted :
      AcceptedVote s.proposal proposalId auth.userId proposal threshold approvers votes) :
    (outcome (ProposalService.castVote call proposalText requested) s).1 =
      .ok
        ⟨proposalId, proposal, auth.userId, vote,
          ProposalState.voteOutcome threshold approvers (votes ++ [(auth.userId, vote)])⟩ := by
  have access :
      ProjectAuth.require call.caller proposal.projectId .EMPTY s = .ok auth :=
    granted.require_eq_ok (by decide) (by simp [Permissions.contains, Permissions.EMPTY])
  obtain ⟨after, recorded⟩ := accepted.recordProposalVote_eq_ok vote call.now
  refine Ends.outcome_eq_ok ?_
  simp [ProposalService.castVote, ProposalService.accessibleProposal, parsed, access,
    accepted.stored, granted.needed, recorded]

/-- A cast vote is an acceptable vote of an authorized caller. -/
theorem castVote_ok
    {cast : ProposalService.CastVote}
    (recorded :
      (outcome (ProposalService.castVote call proposalText requested) s).1 = .ok cast) :
    ∃ (auth : ProjectAuth) (threshold : Nat) (approvers : List UserId)
      (votes : List (UserId × Vote)),
      ProjectAuth.require call.caller cast.proposal.projectId
          ProjectPermissions.PROPOSAL_APPROVE s = .ok auth ∧
        auth.userId = cast.voter ∧
          AcceptedVote s.proposal cast.proposalId cast.voter cast.proposal threshold approvers
            votes := by
  have settles :
      Settles (ProposalService.castVote call proposalText requested) s fun cast _ =>
        ∃ (auth : ProjectAuth) (threshold : Nat) (approvers : List UserId)
          (votes : List (UserId × Vote)),
          ProjectAuth.require call.caller cast.proposal.projectId
              ProjectPermissions.PROPOSAL_APPROVE s = .ok auth ∧
            auth.userId = cast.voter ∧
              AcceptedVote s.proposal cast.proposalId cast.voter cast.proposal threshold
                approvers votes := by
    refine ProposalService.castVote_settles ?_
    intro proposalId vote auth proposal threshold approvers votes _ granted accepted
    have access := granted.require_eq_ok (by decide) granted.needed
    exact ⟨auth, threshold, approvers, votes, access, rfl, accepted⟩
  exact settles.of_ok (Prod.ext recorded rfl)

end Votes

section Moves

/-- The status of a proposal, if it is stored. -/
def Stores.proposalStatus (s : Stores) (proposalId : ProposalId) : Option ProposalStatus :=
  (s.proposal.getProposal proposalId).map Proposal.status

/-- The message in flight waits for an operation of the proposal. -/
def InFlight.executes (proposalId : ProposalId) : InFlight → Bool
  | .operation waiting => decide (waiting.proposalId = proposalId)
  | .command _ _ => false

/-- How many messages wait for an operation of a proposal. -/
def World.executions (world : World) (proposalId : ProposalId) : Nat :=
  world.inFlight.countP (InFlight.executes proposalId)

/-- A message asks to create a proposal, under the identifier that comes next. -/
def World.Creates (world : World) (event : Event) (proposalId : ProposalId)
    (projectId : ProjectId) (operation : ProposalOperation) : Prop :=
  ∃ call projectText requested,
    event = .message call (.createProposal projectText requested) ∧
      mapCreateProposalRequest projectText requested = .ok (projectId, operation) ∧
        proposalId = world.stores.nextId

/-- A message records the vote of a user on a proposal. -/
def World.RecordsVote (world : World) (event : Event) (proposalId : ProposalId)
    (voter : UserId) (vote : Vote) : Prop :=
  ∃ call proposalText requested cast,
    event = .message call (.voteProposal proposalText requested) ∧
      (outcome (ProposalService.castVote call proposalText requested) world.stores).1 =
          .ok cast ∧
        cast.proposalId = proposalId ∧ cast.voter = voter ∧ cast.vote = vote

/-- The status that the start of an execution leaves, and how many messages then wait. -/
inductive Begun : ProposalStatus → Nat → Prop
  | issued : Begun .executing 1
  | refused
      {message : String} :
      Begun (.failed message) 0

/-- The status that a proposal is created with, and how many messages then wait. -/
inductive Opening (s : Stores) (projectId : ProjectId) (operation : ProposalOperation) :
    ProposalStatus → Nat → Prop
  | leftOpen : Opening s projectId operation .open 0
  | awaiting
      {threshold : Nat}
      (policy : ProposalService.policyInForce projectId operation s = .fixedQuorum threshold)
      (positive : 1 ≤ threshold) :
      Opening s projectId operation
        (.pendingApproval threshold
          (listProjectUsersWithPermission projectId ProjectPermissions.PROPOSAL_APPROVE s) [])
        0
  | approved
      {status : ProposalStatus}
      {started : Nat}
      (policy : ProposalService.policyInForce projectId operation s = .autoApprove)
      (begun : Begun status started) :
      Opening s projectId operation status started

/-- The status that a recorded vote leaves, and how many messages then wait. -/
inductive Decision (threshold : Nat) (approvers : List UserId) (votes : List (UserId × Vote)) :
    ProposalStatus → Nat → Prop
  | undecided : Decision threshold approvers votes (.pendingApproval threshold approvers votes) 0
  | rejected : Decision threshold approvers votes .rejected 0
  | approved
      {status : ProposalStatus}
      {started : Nat}
      (reached : ProposalState.voteOutcome threshold approvers votes = .reachedApproval)
      (begun : Begun status started) :
      Decision threshold approvers votes status started

/-- Every way in which an event moves one proposal. -/
inductive ProposalMove (before : World) (event : Event) (proposalId : ProposalId)
    (after : World) : Prop
  | keep
      (status :
        after.stores.proposalStatus proposalId = before.stores.proposalStatus proposalId)
      (executions : after.executions proposalId = before.executions proposalId)
  | create
      {projectId : ProjectId}
      {operation : ProposalOperation}
      {status : ProposalStatus}
      {started : Nat}
      (creates : before.Creates event proposalId projectId operation)
      (drawn : before.stores.drawn < after.stores.drawn)
      (absent : before.stores.proposalStatus proposalId = none)
      (opening : Opening before.stores projectId operation status started)
      (stored : after.stores.proposalStatus proposalId = some status)
      (executions : after.executions proposalId = before.executions proposalId + started)
  | vote
      {voter : UserId}
      {vote : Vote}
      {threshold : Nat}
      {approvers : List UserId}
      {votes : List (UserId × Vote)}
      {status : ProposalStatus}
      {started : Nat}
      (records : before.RecordsVote event proposalId voter vote)
      (pending :
        before.stores.proposalStatus proposalId =
          some (.pendingApproval threshold approvers votes))
      (approver : voter ∈ approvers)
      (fresh : ∀ entry ∈ votes, entry.1 ≠ voter)
      (decision : Decision threshold approvers (votes ++ [(voter, vote)]) status started)
      (stored : after.stores.proposalStatus proposalId = some status)
      (executions : after.executions proposalId = before.executions proposalId + started)
  | cancel
      (cancellable :
        before.stores.proposalStatus proposalId = some .open ∨
          ∃ threshold approvers votes,
            before.stores.proposalStatus proposalId =
              some (.pendingApproval threshold approvers votes))
      (stored : after.stores.proposalStatus proposalId = some .cancelled)
      (executions : after.executions proposalId = before.executions proposalId)
  | finish
      {status : ProposalStatus}
      (finished : status = .executed ∨ ∃ message, status = .failed message)
      (stored :
        after.stores.proposalStatus proposalId =
          (before.stores.proposalStatus proposalId).map fun _ => status)
      (executions : after.executions proposalId + 1 = before.executions proposalId)

section Statuses

variable {s after : Stores} {proposalId : ProposalId}

omit [Host] in
/-- The statuses after one was overwritten. -/
theorem Stores.proposalStatus_overwriteStatus
    (other : ProposalId)
    (status : ProposalStatus)
    (now : Nat) :
    (s.overwriteStatus proposalId status now).proposalStatus other =
      if other = proposalId then (s.proposalStatus proposalId).map fun _ => status
      else s.proposalStatus other := by
  unfold proposalStatus Stores.overwriteStatus
  rw [ProposalState.getProposal_overwriteStatus]
  split
  · simp only [Option.map_map]
    rfl
  · rfl

/-- The statuses after a proposal was inserted. -/
theorem Stores.proposalStatus_proposing
    (projectId : ProjectId)
    (proposal : Proposal)
    (now : Nat)
    (other : ProposalId) :
    (s.proposing projectId proposal now).proposalStatus other =
      if other = s.nextId then some proposal.status else s.proposalStatus other := by
  have lookup :
      (s.proposing projectId proposal now).proposal.getProposal other =
        if other = s.nextId then
          some { proposal with createdAtNanos := some now, updatedAtNanos := some now }
        else s.proposal.getProposal other :=
    getElem?_insert_entry
  unfold proposalStatus
  rw [lookup]
  split <;> rfl

/-- An execution that starts leaves a status that tells whether a message waits. -/
theorem ExecutionStart.begun
    {origin : ExecutionOrigin}
    {now : Nat}
    {projectId : ProjectId}
    {operation : ProposalOperation}
    {progress : Progress}
    {slot : Slot}
    (start : ExecutionStart origin now projectId proposalId s operation progress after)
    (answer : progress.Answers slot)
    (stored : (s.proposalStatus proposalId).isSome) :
    ∃ status started,
      Begun status started ∧ after.proposalStatus proposalId = some status ∧
        slot.suspended.countP (InFlight.executes proposalId) = started := by
  obtain ⟨before, stored⟩ := Option.isSome_iff_exists.mp stored
  cases start with
  | awaitCreation _ | awaitStatus =>
      cases answer
      refine ⟨.executing, 1, .issued, ?_, ?_⟩
      · simp [Stores.proposalStatus_overwriteStatus, stored]
      · simp [Slot.suspended, InFlight.executes]
  | @quotaExceeded message _ =>
      cases answer
      refine ⟨.failed message, 0, .refused, ?_, rfl⟩
      simp [Stores.proposalStatus_overwriteStatus, stored]

/-- An execution that starts leaves the other proposals alone. -/
theorem ExecutionStart.others
    {origin : ExecutionOrigin}
    {now : Nat}
    {projectId : ProjectId}
    {operation : ProposalOperation}
    {progress : Progress}
    {slot : Slot}
    {other : ProposalId}
    (start : ExecutionStart origin now projectId proposalId s operation progress after)
    (answer : progress.Answers slot)
    (distinct : other ≠ proposalId) :
    after.proposalStatus other = s.proposalStatus other ∧
      slot.suspended.countP (InFlight.executes other) = 0 := by
  cases start with
  | awaitCreation _ | awaitStatus =>
      cases answer
      simp [Stores.proposalStatus_overwriteStatus, distinct, Slot.suspended,
        InFlight.executes, Ne.symm distinct]
  | quotaExceeded _ =>
      cases answer
      simp [Stores.proposalStatus_overwriteStatus, distinct, Slot.suspended]

end Statuses

section Writes

variable {call : Call} {s after : Stores} {request : Request} {inFlight : List InFlight}

omit [Host] in
/-- What a message leaves suspended adds to the messages that wait. -/
theorem World.executions_append
    (s after : Stores)
    (inFlight suspended : List InFlight)
    (proposalId : ProposalId) :
    World.executions ⟨after, inFlight ++ suspended⟩ proposalId =
      World.executions ⟨s, inFlight⟩ proposalId +
        suspended.countP (InFlight.executes proposalId) :=
  List.countP_append

omit [Host] in
/-- A vote is accepted while the proposal is pending. -/
theorem AcceptedVote.proposalStatus
    {proposalId : ProposalId}
    {voter : UserId}
    {proposal : Proposal}
    {threshold : Nat}
    {approvers : List UserId}
    {votes : List (UserId × Vote)}
    (accepted :
      AcceptedVote s.proposal proposalId voter proposal threshold approvers votes) :
    s.proposalStatus proposalId = some (.pendingApproval threshold approvers votes) := by
  rw [Stores.proposalStatus, accepted.stored, Option.map_some, accepted.pending]

omit [Host] in
/-- A vote that does not reach approval rejects the proposal or leaves it undecided. -/
theorem Decision.of_votedStatus
    {threshold : Nat}
    {approvers : List UserId}
    {votes : List (UserId × Vote)}
    (unapproved : ProposalState.voteOutcome threshold approvers votes ≠ .reachedApproval) :
    Decision threshold approvers votes
      (votedStatus threshold approvers votes (ProposalState.voteOutcome threshold approvers votes))
      0 := by
  cases outcome : ProposalState.voteOutcome threshold approvers votes with
  | reachedApproval => exact (unapproved outcome).elim
  | reachedRejection => exact .rejected
  | stillPending => exact .undecided

/-- Every proposal operation is a move of each proposal. -/
theorem ProposalWrite.proposalMove
    {result : Except ApiError Slot}
    (write : ProposalWrite call s request result after)
    (absent : s.proposalStatus s.nextId = none)
    (proposalId : ProposalId) :
    ProposalMove ⟨s, inFlight⟩ (.message call request) proposalId
      ⟨after, inFlight ++ suspendedBy (result.mapError .api)⟩ := by
  have waiting := World.executions_append s after inFlight
  cases write with
  | @leaveOpen _ _ projectId operation _ _ _ parsed _ _ =>
      by_cases same : proposalId = s.nextId
      · subst same
        refine
          .create ⟨_, _, _, rfl, parsed, rfl⟩ (Nat.lt_succ_self _) absent .leftOpen ?_
            (waiting _ _)
        simp [Stores.proposalStatus_proposing, openProposal]
      · refine .keep ?_ (waiting _ _)
        simp [Stores.proposalStatus_proposing, same]
  | awaitApproval parsed _ policy positive _ =>
      by_cases same : proposalId = s.nextId
      · subst same
        refine
          .create ⟨_, _, _, rfl, parsed, rfl⟩ (Nat.lt_succ_self _) absent
            (.awaiting policy positive) ?_ (waiting _ _)
        simp [Stores.proposalStatus_overwriteStatus, Stores.proposalStatus_proposing]
      · refine .keep ?_ (waiting _ _)
        simp [Stores.proposalStatus_overwriteStatus, Stores.proposalStatus_proposing, same]
  | executeNew parsed _ policy start answer =>
      by_cases same : proposalId = s.nextId
      · subst same
        obtain ⟨status, started, begun, stored, waits⟩ :=
          start.begun answer (by simp [Stores.proposalStatus_proposing])
        refine
          .create ⟨_, _, _, rfl, parsed, rfl⟩ start.sameAccess.drawn absent
            (.approved policy begun) stored ?_
        rw [← waits]
        exact waiting _ _
      · obtain ⟨status, waits⟩ := start.others answer same
        refine .keep ?_ ((waiting _ _).trans ?_)
        · exact status.trans (by simp [Stores.proposalStatus_proposing, same])
        · exact congrArg (World.executions ⟨s, inFlight⟩ proposalId + ·) waits
  | @recordVote _ _ votedId vote auth _ threshold approvers votes _ parsed granted accepted
      undecided =>
      by_cases same : proposalId = votedId
      · subst same
        have pending := accepted.proposalStatus
        refine
          .vote ⟨_, _, _, _, rfl, accepted.castVote_eq_ok parsed granted, rfl, rfl, rfl⟩ pending
            accepted.approver accepted.fresh (Decision.of_votedStatus undecided) ?_ (waiting _ _)
        simp [Stores.proposalStatus_overwriteStatus, pending]
      · refine .keep ?_ (waiting _ _)
        simp [Stores.proposalStatus_overwriteStatus, same]
  | @executeApproved _ _ votedId vote auth _ threshold approvers votes _ _ _ parsed granted
      accepted approved start answer =>
      have pending := accepted.proposalStatus
      by_cases same : proposalId = votedId
      · subst same
        obtain ⟨status, started, begun, stored, waits⟩ :=
          start.begun answer (by simp [Stores.proposalStatus_overwriteStatus, pending])
        refine
          .vote ⟨_, _, _, _, rfl, accepted.castVote_eq_ok parsed granted, rfl, rfl, rfl⟩ pending
            accepted.approver accepted.fresh (.approved approved begun) stored ?_
        rw [← waits]
        exact waiting _ _
      · obtain ⟨status, waits⟩ := start.others answer same
        refine .keep ?_ ((waiting _ _).trans ?_)
        · exact status.trans (by simp [Stores.proposalStatus_overwriteStatus, same])
        · exact congrArg (World.executions ⟨s, inFlight⟩ proposalId + ·) waits
  | @cancel _ cancelledId _ proposal _ _ stored _ _ cancellable =>
      by_cases same : proposalId = cancelledId
      · subst same
        have before : s.proposalStatus proposalId = some proposal.status := by
          rw [Stores.proposalStatus, stored]
          rfl
        refine .cancel ?_ ?_ (waiting _ _)
        · rw [before]
          simpa using cancellable
        · simp [Stores.proposalStatus_overwriteStatus, before]
      · refine .keep ?_ (waiting _ _)
        simp [Stores.proposalStatus_overwriteStatus, same]

omit [Host] in
/-- Taking up a waiting message takes it away and adds what it leaves suspended. -/
theorem countP_resume
    {index : Nat}
    {resumed : InFlight}
    (counts : InFlight → Bool)
    (suspended : List InFlight)
    (waiting : inFlight[index]? = some resumed) :
    (inFlight.eraseIdx index ++ suspended).countP counts +
        (if counts resumed = true then 1 else 0) =
      inFlight.countP counts + suspended.countP counts := by
  obtain ⟨within, rfl⟩ := List.getElem?_eq_some_iff.mp waiting
  have whole := (List.getElem_cons_eraseIdx_perm within).countP_eq counts
  rw [List.countP_cons] at whole
  rw [List.countP_append]
  omega

omit [Host] in
/-- Taking up a waiting message ends its wait for its proposal. -/
theorem World.executions_resume
    {index : Nat}
    {resumed : InFlight}
    (s after : Stores)
    (suspended : List InFlight)
    (proposalId : ProposalId)
    (waiting : inFlight[index]? = some resumed) :
    World.executions ⟨after, inFlight.eraseIdx index ++ suspended⟩ proposalId +
        (if resumed.executes proposalId then 1 else 0) =
      World.executions ⟨s, inFlight⟩ proposalId +
        suspended.countP (InFlight.executes proposalId) :=
  countP_resume (InFlight.executes proposalId) suspended waiting

/-- A reply that ends an operation finishes its proposal and no other. -/
private theorem proposalMove_finish
    {now index : Nat}
    {reply : Reply}
    {operation : OperationInFlight}
    {status : ProposalStatus}
    (proposalId : ProposalId)
    (waiting : inFlight[index]? = some (.operation operation))
    (finished : status = .executed ∨ ∃ message, status = .failed message)
    (statuses :
      ∀ other,
        after.proposalStatus other =
          if other = operation.proposalId then
            (s.proposalStatus operation.proposalId).map fun _ => status
          else s.proposalStatus other) :
    ProposalMove ⟨s, inFlight⟩ (.reply now index reply) proposalId
      ⟨after, inFlight.eraseIdx index ++ []⟩ := by
  have counts := World.executions_resume s after [] proposalId waiting
  by_cases same : operation.proposalId = proposalId
  · subst same
    refine .finish finished ((statuses _).trans (if_pos rfl)) ?_
    simpa [InFlight.executes] using counts
  · refine .keep ((statuses _).trans (if_neg (Ne.symm same))) ?_
    simpa [InFlight.executes, same] using counts

/-- Every reply is a move of each proposal. -/
theorem Resumption.proposalMove
    {now index : Nat}
    {resumed : InFlight}
    {reply : Reply}
    {suspended : List InFlight}
    (resumption : Resumption now s resumed reply suspended after)
    (waiting : inFlight[index]? = some resumed)
    (proposalId : ProposalId) :
    ProposalMove ⟨s, inFlight⟩ (.reply now index reply) proposalId
      ⟨after, inFlight.eraseIdx index ++ suspended⟩ := by
  cases resumption with
  | recordCanister _ | settingsUpdated _ =>
      exact
        proposalMove_finish proposalId waiting (.inl rfl) fun other =>
          Stores.proposalStatus_overwriteStatus other _ _
  | fail _ =>
      exact
        proposalMove_finish proposalId waiting (.inr ⟨_, rfl⟩) fun other =>
          Stores.proposalStatus_overwriteStatus other _ _
  | @updateSettings operation canisterId controllerId controllers _ _ =>
      -- The next call is made for the same proposal.
      have counts :=
        World.executions_resume s s
          [.operation
            { operation with
              call :=
                .updateSettings canisterId controllerId (controllers ++ [controllerId]) }]
          proposalId waiting
      rw [List.countP_singleton] at counts
      exact .keep rfl (Nat.add_right_cancel counts)
  | commandAnswered =>
      have counts := World.executions_resume s s [] proposalId waiting
      refine .keep rfl ?_
      simpa [InFlight.executes] using counts

/-- The canister operations leave the proposals alone. -/
theorem CanisterWrite.sameProposals
    {slot : Slot}
    (write : CanisterWrite call s request slot after) :
    after.proposal = s.proposal := by
  cases write with
  | removeMyCanister _ _ _ | updateMyCanisterName _ _ _ | startMyCanister _ _ _
  | stopMyCanister _ _ _ =>
      rfl
  | @addChildCanisters mappings =>
      exact
        @CanisterService.addChildCanisters_induction _
          (fun reached => reached.proposal = s.proposal) mappings s
          (fun _ _ _ _ same _ => same) (fun _ _ same => same) rfl

/-- The canister operations wait for no operation of a proposal. -/
theorem CanisterWrite.executes_nothing
    {slot : Slot}
    (write : CanisterWrite call s request slot after)
    (proposalId : ProposalId) :
    slot.suspended.countP (InFlight.executes proposalId) = 0 := by
  cases write <;> rfl

/-- An event moves a proposal in one of these ways. -/
theorem World.Stepped.proposalMove
    {world after : World}
    {event : Event}
    (stepped : world.Stepped event after)
    (absent : world.stores.proposalStatus world.stores.nextId = none)
    (proposalId : ProposalId) :
    ProposalMove world event proposalId after := by
  cases stepped with
  | message handled =>
      cases handled.operates with
      | elsewhere same answered =>
          refine .keep ?_ ?_
          · simp only [Stores.proposalStatus, same.proposal]
          · simp [World.executions, answered]
      | proposal write =>
          exact write.proposalMove absent proposalId
      | canister write =>
          refine .keep ?_ ?_
          · simp only [Stores.proposalStatus, write.sameProposals]
          · exact
              (World.executions_append world.stores _ world.inFlight _ proposalId).trans
                (congrArg (world.executions proposalId + ·) (write.executes_nothing proposalId))
  | reply waiting resumed =>
      exact resumed.proposalMove waiting proposalId

end Writes

end Moves

end SsnConsole.Backend
