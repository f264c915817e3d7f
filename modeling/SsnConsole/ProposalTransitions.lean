import SsnConsole.BackendAuthorization
import SsnConsole.ProposalServices

/-!
# What the proposal and canister operations write

One constructor for each way in which a proposal, policy, billing or canister
operation can end, up to its first await, and for each way in which the reply
of the management canister can be taken up.
-/

namespace SsnConsole.Backend

open Std (ExtTreeMap)
open SsnConsole.MessageSlice

/-- A proposal with a new status and a new update time. -/
def Proposal.withStatus (proposal : Proposal) (status : ProposalStatus) (now : Nat) :
    Proposal :=
  { proposal with status := status, updatedAtNanos := some now }

namespace ProposalState

/-- Overwrite the status of a proposal, if it is stored. -/
def overwriteStatus (state : ProposalState) (proposalId : ProposalId)
    (status : ProposalStatus) (now : Nat) : ProposalState :=
  match state.getProposal proposalId with
  | some proposal => state.restatus proposalId proposal status now
  | none => state

/-- Lookups after a status was overwritten. -/
theorem getProposal_overwriteStatus
    (state : ProposalState)
    (proposalId key : ProposalId)
    (status : ProposalStatus)
    (now : Nat) :
    (state.overwriteStatus proposalId status now).getProposal key =
      if key = proposalId then
        (state.getProposal proposalId).map fun proposal => proposal.withStatus status now
      else
        state.getProposal key := by
  unfold overwriteStatus
  cases found : state.getProposal proposalId with
  | none =>
      by_cases same : key = proposalId
      · simp [same, found]
      · simp [same]
  | some proposal =>
      by_cases same : key = proposalId
      · simp [same, restatus, getProposal, Proposal.withStatus]
      · simp [same, Ne.symm same, restatus, getProposal, ExtTreeMap.getElem?_insert]

variable [Host]

/-- `set_proposal_status` fails only on a proposal that is not stored. -/
theorem setProposalStatus_ok
    {state after : ProposalState}
    {proposalId : ProposalId}
    {status : ProposalStatus}
    {now : Nat} :
    state.setProposalStatus proposalId status now = .ok after ↔
      (state.getProposal proposalId).isSome ∧
        state.overwriteStatus proposalId status now = after := by
  unfold setProposalStatus overwriteStatus getProposal
  cases state.proposals[proposalId]? <;> simp

end ProposalState

/-- Overwrite the status of a proposal in the stores. -/
def Stores.overwriteStatus (s : Stores) (proposalId : ProposalId) (status : ProposalStatus)
    (now : Nat) : Stores :=
  { s with proposal := s.proposal.overwriteStatus proposalId status now }

variable [Host]

/-- The proposal that `create_proposal` inserts. -/
def openProposal (auth : ProjectAuth) (projectId : ProjectId)
    (operation : ProposalOperation) : Proposal where
  projectId := projectId
  proposerId := auth.userId
  status := .open
  operation := operation
  createdAtNanos := none
  updatedAtNanos := none

/-- The stores after `create_proposal` has inserted its row. -/
def Stores.proposing (s : Stores) (projectId : ProjectId) (proposal : Proposal)
    (now : Nat) : Stores :=
  { s with
    proposal := s.proposal.createProposal s.nextId projectId proposal now
    drawn := s.drawn + 1 }

/-- How the execution of an operation gets to its first await or fails before. -/
inductive ExecutionStart (origin : ExecutionOrigin) (now : Nat) (projectId : ProjectId)
    (proposalId : ProposalId) (s : Stores) : ProposalOperation → Progress → Stores → Prop
  | awaitCreation
      (quota : ProposalService.enforceCanisterQuotaForProject projectId now s = .ok ()) :
      ExecutionStart origin now projectId proposalId s .createCanister
        (.awaiting ⟨origin, projectId, proposalId, .createCanister⟩)
        (s.overwriteStatus proposalId .executing now)
  | quotaExceeded
      {message : String}
      (quota :
        ProposalService.enforceCanisterQuotaForProject projectId now s = .error message) :
      ExecutionStart origin now projectId proposalId s .createCanister .finished
        ((s.overwriteStatus proposalId .executing now).overwriteStatus proposalId
          (.failed message) now)
  | awaitStatus
      {canisterId controllerId : Principal} :
      ExecutionStart origin now projectId proposalId s
        (.addCanisterController canisterId controllerId)
        (.awaiting ⟨origin, projectId, proposalId, .canisterStatus canisterId controllerId⟩)
        (s.overwriteStatus proposalId .executing now)

/-- The slot of a message whose execution got as far as `progress`. -/
inductive Progress.Answers : Progress → Slot → Prop
  | finished
      {response : Response} :
      Answers .finished (.ready response)
  | awaiting
      {operation : OperationInFlight} :
      Answers (.awaiting operation) (.awaiting (.operation operation))

/-- The status that a vote with this outcome leaves. -/
def votedStatus (threshold : Nat) (approvers : List UserId) (votes : List (UserId × Vote))
    (outcome : VoteOutcome) : ProposalStatus :=
  match outcome with
  | .reachedRejection => .rejected
  | _ => .pendingApproval threshold approvers votes

/-- A vote that `record_proposal_vote` accepts. -/
structure AcceptedVote
    (state : ProposalState)
    (proposalId : ProposalId)
    (voter : UserId)
    (proposal : Proposal)
    (threshold : Nat)
    (approvers : List UserId)
    (votes : List (UserId × Vote)) : Prop where
  stored : state.getProposal proposalId = some proposal
  pending : proposal.status = .pendingApproval threshold approvers votes
  approver : voter ∈ approvers
  fresh : ∀ entry ∈ votes, entry.1 ≠ voter

/-- The writes of the proposal operations, with how far each message got. -/
inductive ProposalWrite (call : Call) (s : Stores) :
    Request → Except ApiError Slot → Stores → Prop
  /-- The row stays although the policy cannot be met. -/
  | leaveOpen
      {projectText : String}
      {requested : Option Dto.ProposalOperation}
      {projectId : ProjectId}
      {operation : ProposalOperation}
      {auth : ProjectAuth}
      {threshold : Nat}
      {error : ApiError}
      (parsed : mapCreateProposalRequest projectText requested = .ok (projectId, operation))
      (granted :
        auth.Granted call.caller projectId ProjectPermissions.PROPOSAL_CREATE s)
      (policy : ProposalService.policyInForce projectId operation s = .fixedQuorum threshold) :
      ProposalWrite call s (.createProposal projectText requested) (.error error)
        (s.proposing projectId (openProposal auth projectId operation) call.now)
  | awaitApproval
      {projectText : String}
      {requested : Option Dto.ProposalOperation}
      {projectId : ProjectId}
      {operation : ProposalOperation}
      {auth : ProjectAuth}
      {threshold : Nat}
      {response : Response}
      (parsed : mapCreateProposalRequest projectText requested = .ok (projectId, operation))
      (granted :
        auth.Granted call.caller projectId ProjectPermissions.PROPOSAL_CREATE s)
      (policy : ProposalService.policyInForce projectId operation s = .fixedQuorum threshold)
      (positive : 1 ≤ threshold)
      (enough :
        threshold ≤
          (listProjectUsersWithPermission projectId ProjectPermissions.PROPOSAL_APPROVE
            s).length) :
      ProposalWrite call s (.createProposal projectText requested) (.ok (.ready response))
        ((s.proposing projectId (openProposal auth projectId operation)
          call.now).overwriteStatus s.nextId
          (.pendingApproval threshold
            (listProjectUsersWithPermission projectId ProjectPermissions.PROPOSAL_APPROVE s)
            [])
          call.now)
  | executeNew
      {projectText : String}
      {requested : Option Dto.ProposalOperation}
      {projectId : ProjectId}
      {operation : ProposalOperation}
      {auth : ProjectAuth}
      {progress : Progress}
      {slot : Slot}
      {after : Stores}
      (parsed : mapCreateProposalRequest projectText requested = .ok (projectId, operation))
      (granted :
        auth.Granted call.caller projectId ProjectPermissions.PROPOSAL_CREATE s)
      (policy : ProposalService.policyInForce projectId operation s = .autoApprove)
      (start :
        ExecutionStart .createProposal call.now projectId s.nextId
          (s.proposing projectId (openProposal auth projectId operation) call.now) operation
          progress after)
      (answer : progress.Answers slot) :
      ProposalWrite call s (.createProposal projectText requested) (.ok slot) after
  | recordVote
      {proposalText : String}
      {requested : Dto.Vote}
      {proposalId : ProposalId}
      {vote : Vote}
      {auth : ProjectAuth}
      {proposal : Proposal}
      {threshold : Nat}
      {approvers : List UserId}
      {votes : List (UserId × Vote)}
      {response : Response}
      (parsed : mapVoteProposalRequest proposalText requested = .ok (proposalId, vote))
      (granted :
        auth.Granted call.caller proposal.projectId ProjectPermissions.PROPOSAL_APPROVE s)
      (accepted :
        AcceptedVote s.proposal proposalId auth.userId proposal threshold approvers votes)
      (undecided :
        ProposalState.voteOutcome threshold approvers (votes ++ [(auth.userId, vote)]) ≠
          .reachedApproval) :
      ProposalWrite call s (.voteProposal proposalText requested) (.ok (.ready response))
        (s.overwriteStatus proposalId
          (votedStatus threshold approvers (votes ++ [(auth.userId, vote)])
            (ProposalState.voteOutcome threshold approvers
              (votes ++ [(auth.userId, vote)])))
          call.now)
  | executeApproved
      {proposalText : String}
      {requested : Dto.Vote}
      {proposalId : ProposalId}
      {vote : Vote}
      {auth : ProjectAuth}
      {proposal : Proposal}
      {threshold : Nat}
      {approvers : List UserId}
      {votes : List (UserId × Vote)}
      {progress : Progress}
      {slot : Slot}
      {after : Stores}
      (parsed : mapVoteProposalRequest proposalText requested = .ok (proposalId, vote))
      (granted :
        auth.Granted call.caller proposal.projectId ProjectPermissions.PROPOSAL_APPROVE s)
      (accepted :
        AcceptedVote s.proposal proposalId auth.userId proposal threshold approvers votes)
      (approved :
        ProposalState.voteOutcome threshold approvers (votes ++ [(auth.userId, vote)]) =
          .reachedApproval)
      (start :
        ExecutionStart .voteProposal call.now proposal.projectId proposalId
          (s.overwriteStatus proposalId
            (.pendingApproval threshold approvers (votes ++ [(auth.userId, vote)])) call.now)
          proposal.operation progress after)
      (answer : progress.Answers slot) :
      ProposalWrite call s (.voteProposal proposalText requested) (.ok slot) after
  | cancel
      {proposalText : String}
      {proposalId : ProposalId}
      {auth : ProjectAuth}
      {proposal : Proposal}
      {response : Response}
      (parsed : Id.tryFrom proposalText = .ok proposalId)
      (stored : s.proposal.getProposal proposalId = some proposal)
      (granted : auth.Granted call.caller proposal.projectId .EMPTY s)
      (entitled :
        auth.userId = proposal.proposerId ∨
          auth.perms.contains ProjectPermissions.PROJECT_ADMIN = true)
      (cancellable :
        proposal.status = .open ∨
          ∃ threshold approvers votes,
            proposal.status = .pendingApproval threshold approvers votes) :
      ProposalWrite call s (.cancelProposal proposalText) (.ok (.ready response))
        (s.overwriteStatus proposalId .cancelled call.now)

/-- The writes of the policy and billing operations. -/
inductive PolicyWrite (call : Call) (s : Stores) : Request → Stores → Prop
  | upsertApprovalPolicy
      {projectText : String}
      {operationType : Dto.OperationType}
      {policyType : Dto.PolicyType}
      {projectId : ProjectId}
      {operation : OperationType}
      {policy : ApprovalPolicy}
      {auth : ProjectAuth}
      (parsed :
        mapUpsertApprovalPolicyRequest projectText operationType policyType =
          .ok (projectId, operation, policy))
      (granted :
        auth.Granted call.caller projectId ProjectPermissions.APPROVAL_POLICY_MANAGE s) :
      PolicyWrite call s (.upsertApprovalPolicy projectText operationType policyType)
        ((ApprovalPolicyRepository.upsertApprovalPolicy auth.projectId operation policy).run
          s).2
  | setOrgPlan
      {orgText : String}
      {tier : Dto.PlanTier}
      {orgId : OrgId}
      {plan : OrganizationBillingPlan}
      (parsed : Id.tryFrom orgText = .ok orgId)
      (stored : (s.organization.getOrg orgId).isSome)
      (offered :
        plan = OrganizationBillingPlan.freeSnapshot call.now ∨
          plan = OrganizationBillingPlan.proSnapshot call.now) :
      PolicyWrite call s (.adminSetOrgBillingPlan orgText tier)
        { s with billingPlan := s.billingPlan.setPlan orgId plan }

/-- A canister whose project lets the caller manage its canisters. -/
structure ManagedCanister
    (caller : Principal)
    (canisterId : CanisterId)
    (s : Stores)
    (projectId : ProjectId)
    (auth : ProjectAuth) : Prop where
  recorded : s.canister.getCanisterProjectId canisterId = some projectId
  granted : auth.Granted caller projectId ProjectPermissions.CANISTER_MANAGE s

/-- The writes of the canister operations, with how far each message got. -/
inductive CanisterWrite (call : Call) (s : Stores) : Request → Slot → Stores → Prop
  | removeMyCanister
      {canisterText : String}
      {canisterId : CanisterId}
      {projectId : ProjectId}
      {auth : ProjectAuth}
      {canister : CanisterState}
      (parsed : Id.tryFrom canisterText = .ok canisterId)
      (managed : ManagedCanister call.caller canisterId s projectId auth)
      (deleted :
        s.canister.softDeleteCanister auth.projectId canisterId call.now = some canister) :
      CanisterWrite call s (.removeMyCanister canisterText) (.ready .unit)
        { s with canister := canister }
  | updateMyCanisterName
      {canisterText : String}
      {text name : Option String}
      {canisterId : CanisterId}
      {projectId : ProjectId}
      {auth : ProjectAuth}
      {canister : CanisterState}
      (parsed : Id.tryFrom canisterText = .ok canisterId)
      (managed : ManagedCanister call.caller canisterId s projectId auth)
      (renamed : s.canister.updateCanisterName canisterId name = some canister) :
      CanisterWrite call s (.updateMyCanisterName canisterText text) (.ready .unit)
        { s with canister := canister }
  | startMyCanister
      {canisterText : String}
      {canisterId : CanisterId}
      {projectId : ProjectId}
      {auth : ProjectAuth}
      {canister : Canister}
      (parsed : Id.tryFrom canisterText = .ok canisterId)
      (managed : ManagedCanister call.caller canisterId s projectId auth)
      (stored : s.canister.getCanister canisterId = some canister) :
      CanisterWrite call s (.startMyCanister canisterText)
        (.awaiting (.command .start canister.principal)) s
  | stopMyCanister
      {canisterText : String}
      {canisterId : CanisterId}
      {projectId : ProjectId}
      {auth : ProjectAuth}
      {canister : Canister}
      (parsed : Id.tryFrom canisterText = .ok canisterId)
      (managed : ManagedCanister call.caller canisterId s projectId auth)
      (stored : s.canister.getCanister canisterId = some canister) :
      CanisterWrite call s (.stopMyCanister canisterText)
        (.awaiting (.command .stop canister.principal)) s
  | addChildCanisters
      {mappings : List Dto.ParentChildMapping} :
      CanisterWrite call s (.addChildCanisters mappings) (.ready .unit)
        (mappings.foldl CanisterService.addChildCanister s)

/-- How a suspended message takes up the reply that it waited for. -/
inductive Resumption (now : Nat) (s : Stores) :
    InFlight → Reply → List InFlight → Stores → Prop
  | recordCanister
      {operation : OperationInFlight}
      {principal : Principal}
      (called : operation.call = .createCanister) :
      Resumption now s (.operation operation) (.canisterCreated principal) []
        ((CanisterService.recordCanister operation.projectId s principal).overwriteStatus
          operation.proposalId .executed now)
  | fail
      {operation : OperationInFlight}
      {reply : Reply}
      {message : String}
      (notCreated : ∀ principal, reply ≠ .canisterCreated principal) :
      Resumption now s (.operation operation) reply []
        (s.overwriteStatus operation.proposalId (.failed message) now)
  | updateSettings
      {operation : OperationInFlight}
      {canisterId controllerId : Principal}
      {controllers : List Principal}
      (called : operation.call = .canisterStatus canisterId controllerId)
      (new : controllerId ∉ controllers) :
      Resumption now s (.operation operation) (.canisterStatus controllers)
        [.operation
          { operation with
            call :=
              .updateSettings canisterId controllerId (controllers ++ [controllerId]) }]
        s
  | settingsUpdated
      {operation : OperationInFlight}
      {canisterId controllerId : Principal}
      {controllers : List Principal}
      (called : operation.call = .updateSettings canisterId controllerId controllers) :
      Resumption now s (.operation operation) .done []
        (s.overwriteStatus operation.proposalId .executed now)
  | commandAnswered
      {command : CanisterCommand}
      {canisterId : Principal}
      {reply : Reply} :
      Resumption now s (.command command canisterId) reply [] s

omit [Host] in
/-- A proposal with an overwritten status is still stored. -/
theorem Stores.isSome_overwriteStatus
    {s : Stores}
    {proposalId : ProposalId}
    (status : ProposalStatus)
    (now : Nat)
    (stored : (s.proposal.getProposal proposalId).isSome) :
    ((s.overwriteStatus proposalId status now).proposal.getProposal proposalId).isSome := by
  simpa [Stores.overwriteStatus, ProposalState.getProposal_overwriteStatus] using stored

/-- A proposed row is stored. -/
theorem Stores.getProposal_proposing
    (s : Stores)
    (projectId : ProjectId)
    (proposal : Proposal)
    (now : Nat) :
    (s.proposing projectId proposal now).proposal.getProposal s.nextId =
      some { proposal with createdAtNanos := some now, updatedAtNanos := some now } := by
  simp [Stores.proposing, ProposalState.createProposal, ProposalState.getProposal]

namespace ProposalState

/-- An accepted vote overwrites the status with what the votes have reached. -/
theorem recordProposalVote_ok
    {state after : ProposalState}
    {proposalId : ProposalId}
    {voter : UserId}
    {vote : Vote}
    {now : Nat}
    {outcome : VoteOutcome}
    {proposal : Proposal}
    (stored : state.getProposal proposalId = some proposal)
    (recorded :
      state.recordProposalVote proposalId voter vote now = .ok (outcome, after)) :
    ∃ threshold approvers votes,
      AcceptedVote state proposalId voter proposal threshold approvers votes ∧
        outcome = voteOutcome threshold approvers (votes ++ [(voter, vote)]) ∧
        after =
          state.overwriteStatus proposalId
            (votedStatus threshold approvers (votes ++ [(voter, vote)]) outcome) now := by
  have lookup : state.proposals[proposalId]? = some proposal := stored
  simp only [recordProposalVote, lookup] at recorded
  split at recorded
  · rename_i threshold approvers votes pending
    split at recorded
    · cases recorded
    · rename_i approver
      split at recorded
      · cases recorded
      · rename_i fresh
        cases recorded
        refine
          ⟨threshold, approvers, votes,
            ⟨stored, pending, by simpa using approver, ?_⟩, rfl, ?_⟩
        · intro entry member same
          exact fresh (List.any_eq_true.mpr ⟨entry, member, by simpa using same⟩)
        · unfold overwriteStatus
          rw [stored]
          rfl
  · cases recorded

/-- A cancellable proposal is open or pending and ends up cancelled. -/
theorem cancelProposal_ok
    {state after : ProposalState}
    {proposalId : ProposalId}
    {now : Nat}
    {proposal : Proposal}
    (stored : state.getProposal proposalId = some proposal)
    (cancelled : state.cancelProposal proposalId now = .ok after) :
    (proposal.status = .open ∨
      ∃ threshold approvers votes,
        proposal.status = .pendingApproval threshold approvers votes) ∧
      after = state.overwriteStatus proposalId .cancelled now := by
  have lookup : state.proposals[proposalId]? = some proposal := stored
  simp only [cancelProposal, lookup] at cancelled
  split at cancelled
  · rename_i isOpen
    cases cancelled
    exact ⟨.inl isOpen, by unfold overwriteStatus; rw [stored]⟩
  · rename_i threshold approvers votes pending
    cases cancelled
    exact
      ⟨.inr ⟨threshold, approvers, votes, pending⟩, by unfold overwriteStatus; rw [stored]⟩
  · cases cancelled

end ProposalState

/-- An execution keeps its proposal stored. -/
theorem ExecutionStart.stored
    {origin : ExecutionOrigin}
    {now : Nat}
    {projectId : ProjectId}
    {proposalId : ProposalId}
    {s after : Stores}
    {operation : ProposalOperation}
    {progress : Progress}
    (start : ExecutionStart origin now projectId proposalId s operation progress after)
    (stored : (s.proposal.getProposal proposalId).isSome) :
    (after.proposal.getProposal proposalId).isSome := by
  cases start with
  | awaitCreation _ | awaitStatus =>
      exact Stores.isSome_overwriteStatus _ _ stored
  | quotaExceeded _ =>
      exact Stores.isSome_overwriteStatus _ _ (Stores.isSome_overwriteStatus _ _ stored)

namespace ProposalService

/-- Setting the status of a stored proposal overwrites it. -/
theorem setProposalStatus_ends
    {now : Nat}
    {proposalId : ProposalId}
    {status : ProposalStatus}
    {s : Stores}
    {onValue : Unit → Stores → Prop}
    {onError : ApiError → Stores → Prop}
    (stored : (s.proposal.getProposal proposalId).isSome)
    (holds : onValue () (s.overwriteStatus proposalId status now)) :
    Ends (setProposalStatus now proposalId status) s onValue onError := by
  have updated :
      s.proposal.setProposalStatus proposalId status now =
        .ok (s.proposal.overwriteStatus proposalId status now) :=
    ProposalState.setProposalStatus_ok.mpr ⟨stored, rfl⟩
  refine ends_tryWrite.mpr ⟨?_, ?_⟩
  · intro after written
    rw [updated] at written
    cases written
    exact holds
  · intro error failed
    rw [updated] at failed
    cases failed

/-- The execution of a stored proposal's operation starts in one of its ways. -/
theorem executeOperation_ends
    {origin : ExecutionOrigin}
    {now : Nat}
    {projectId : ProjectId}
    {proposalId : ProposalId}
    {operation : ProposalOperation}
    {s : Stores}
    {onValue : Progress → Stores → Prop}
    {onError : ApiError → Stores → Prop}
    (stored : (s.proposal.getProposal proposalId).isSome)
    (holds :
      ∀ progress after,
        ExecutionStart origin now projectId proposalId s operation progress after →
          onValue progress after) :
    Ends (executeOperation origin now projectId proposalId operation) s onValue
      onError := by
  refine ends_bind.mpr (setProposalStatus_ends stored ?_)
  have executing := Stores.isSome_overwriteStatus .executing now stored
  cases operation with
  | createCanister =>
      refine ends_bind.mpr (ends_inspect.mpr ?_)
      cases quota :
          enforceCanisterQuotaForProject projectId now
            (s.overwriteStatus proposalId .executing now) with
      | ok _ =>
          exact holds _ _ (.awaitCreation quota)
      | error message =>
          refine ends_bind.mpr (setProposalStatus_ends executing ?_)
          exact holds _ _ (.quotaExceeded quota)
  | addCanisterController canisterId controllerId =>
      exact holds _ _ .awaitStatus

/-- A message with a stored proposal is answered as far as it got. -/
theorem answerWhenFinished_ends
    {origin : ExecutionOrigin}
    {proposalId : ProposalId}
    {progress : Progress}
    {s : Stores}
    {onValue : Slot → Stores → Prop}
    {onError : ApiError → Stores → Prop}
    (stored : (s.proposal.getProposal proposalId).isSome)
    (holds : ∀ slot, progress.Answers slot → onValue slot s) :
    Ends (answerWhenFinished origin proposalId progress) s onValue onError := by
  cases progress with
  | finished =>
      simp only [answerWhenFinished, answerWithProposal, ends_bind, ends_lookup, ends_pure]
      refine ⟨fun proposal _ => holds _ .finished, fun missing => ?_⟩
      rw [missing] at stored
      cases stored
  | awaiting operation =>
      exact holds _ .awaiting

/-- An open proposal is executed, left open or put to its approvers. -/
theorem processProposal_ends
    {now : Nat}
    {projectId : ProjectId}
    {proposalId : ProposalId}
    {operation : ProposalOperation}
    {proposal : Proposal}
    {s : Stores}
    {onValue : Progress → Stores → Prop}
    {onError : ApiError → Stores → Prop}
    (stored : s.proposal.getProposal proposalId = some proposal)
    (isOpen : proposal.status = .open)
    (executes :
      policyInForce projectId operation s = .autoApprove →
        ∀ progress after,
          ExecutionStart .createProposal now projectId proposalId s operation progress
              after →
            onValue progress after)
    (refuses :
      ∀ threshold,
        policyInForce projectId operation s = .fixedQuorum threshold →
          threshold < 1 ∨
              asU32
                  (listProjectUsersWithPermission projectId
                    ProjectPermissions.PROPOSAL_APPROVE s).length < threshold →
            ∀ error, onError error s)
    (awaits :
      ∀ threshold,
        policyInForce projectId operation s = .fixedQuorum threshold →
          1 ≤ threshold →
            threshold ≤
                (listProjectUsersWithPermission projectId
                  ProjectPermissions.PROPOSAL_APPROVE s).length →
              onValue .finished
                (s.overwriteStatus proposalId
                  (.pendingApproval threshold
                    (listProjectUsersWithPermission projectId
                      ProjectPermissions.PROPOSAL_APPROVE s)
                    [])
                  now)) :
    Ends (processProposal now projectId proposalId operation) s onValue onError := by
  refine ends_bind.mpr (ends_inspect.mpr ?_)
  cases policy : policyInForce projectId operation s with
  | autoApprove =>
      exact executeOperation_ends (Option.isSome_of_eq_some stored) (executes policy)
  | fixedQuorum threshold =>
      simp only [ends_bind, ends_rejectIf, ends_inspect]
      refine ⟨fun positive => ⟨fun enough => ?_, fun short => ?_⟩, fun zero => ?_⟩
      · have lookup : s.proposal.proposals[proposalId]? = some proposal := stored
        simp only [ends_tryWrite, ends_pure, ProposalState.setProposalPendingApproval,
          lookup, isOpen, ne_eq, not_true_eq_false, if_false, map_eq_ok, map_eq_error]
        constructor
        · rintro after ⟨_, same, rfl⟩
          cases same
          have bounded := Nat.not_lt.mp (of_decide_eq_false enough)
          have held :=
            awaits threshold policy (Nat.not_lt.mp (of_decide_eq_false positive))
              (bounded.trans (Nat.mod_le _ _))
          unfold Stores.overwriteStatus ProposalState.overwriteStatus at held
          rw [stored] at held
          exact held
        · intro error failed
          cases failed
      · exact refuses threshold policy (.inr (of_decide_eq_true short)) _
      · exact refuses threshold policy (.inl (of_decide_eq_true zero)) _

/-- What `create_proposal` writes up to its first await. -/
theorem createProposal_ends
    (call : Call)
    (projectText : String)
    (requested : Option Dto.ProposalOperation)
    (s : Stores) :
    Ends (createProposal call projectText requested) s
      (fun slot after =>
        ProposalWrite call s (.createProposal projectText requested) (.ok slot) after)
      (fun error after =>
        after = s ∨
          ProposalWrite call s (.createProposal projectText requested) (.error error)
            after) := by
  simp only [createProposal, ends_bind, ends_require, ends_check, ends_commit, true_or,
    implies_true, and_true]
  rintro ⟨projectId, operation⟩ parsed auth accepted _ _
  have granted := ProjectAuth.require_ok accepted
  have inserted :=
    s.getProposal_proposing projectId (openProposal auth projectId operation) call.now
  refine processProposal_ends inserted rfl ?_ ?_ ?_
  · intro policy progress after start
    exact
      answerWhenFinished_ends (start.stored (Option.isSome_of_eq_some inserted))
        fun slot answer => .executeNew parsed granted policy start answer
  · intro threshold policy _ error
    exact .inr (.leaveOpen parsed granted policy)
  · intro threshold policy positive enough
    refine
      answerWhenFinished_ends
        (Stores.isSome_overwriteStatus _ _ (Option.isSome_of_eq_some inserted)) ?_
    intro slot answer
    cases answer
    exact .awaitApproval parsed granted policy positive enough

/-- What a caller with access to a stored proposal sees of it. -/
theorem accessibleProposal_settles
    {call : Call}
    {proposalId : ProposalId}
    {s : Stores}
    {onValue : Proposal × ProjectAuth → Stores → Prop}
    (holds :
      ∀ proposal auth,
        s.proposal.getProposal proposalId = some proposal →
          auth.Granted call.caller proposal.projectId .EMPTY s →
            onValue (proposal, auth) s) :
    Settles (accessibleProposal call proposalId) s onValue := by
  refine .lookup fun proposal stored => ?_
  simp only [ends_bind, ends_reportAs, ends_check, ends_pure, implies_true, and_true]
  intro auth accepted
  exact holds proposal auth stored (ProjectAuth.require_ok accepted)

/-- What `vote_proposal` has recorded before it executes or answers. -/
theorem castVote_settles
    {call : Call}
    {proposalText : String}
    {requested : Dto.Vote}
    {s : Stores}
    {onValue : CastVote → Stores → Prop}
    (holds :
      ∀ proposalId vote (auth : ProjectAuth) (proposal : Proposal) threshold approvers votes,
        mapVoteProposalRequest proposalText requested = .ok (proposalId, vote) →
          auth.Granted call.caller proposal.projectId ProjectPermissions.PROPOSAL_APPROVE s →
            AcceptedVote s.proposal proposalId auth.userId proposal threshold approvers
                votes →
              onValue
                ⟨proposalId, proposal, auth.userId, vote,
                  ProposalState.voteOutcome threshold approvers
                    (votes ++ [(auth.userId, vote)])⟩
                (s.overwriteStatus proposalId
                  (votedStatus threshold approvers (votes ++ [(auth.userId, vote)])
                    (ProposalState.voteOutcome threshold approvers
                      (votes ++ [(auth.userId, vote)])))
                  call.now)) :
    Settles (castVote call proposalText requested) s onValue := by
  refine .require fun (proposalId, vote) parsed => ?_
  refine ends_bind.mpr (accessibleProposal_settles fun proposal auth stored granted => ?_)
  refine Settles.rejectIf fun approves => Settles.check fun (outcome, after) recorded => ?_
  obtain ⟨threshold, approvers, votes, accepted, rfl, rfl⟩ :=
    ProposalState.recordProposalVote_ok stored recorded
  exact
    holds proposalId vote auth proposal threshold approvers votes parsed
      { granted with needed := by simpa using approves } accepted

/-- What `vote_proposal` writes up to its first await. -/
theorem voteProposal_settles
    (call : Call)
    (proposalText : String)
    (requested : Dto.Vote)
    (s : Stores) :
    Settles (voteProposal call proposalText requested) s fun slot after =>
      ProposalWrite call s (.voteProposal proposalText requested) (.ok slot) after := by
  refine ends_bind.mpr (castVote_settles ?_)
  intro proposalId vote auth proposal threshold approvers votes parsed granted accepted
  have stored := Option.isSome_of_eq_some accepted.stored
  refine ends_ite.mpr ⟨fun approved => ?_, fun undecided => ?_⟩
  · have pending :
        votedStatus threshold approvers (votes ++ [(auth.userId, vote)])
          (ProposalState.voteOutcome threshold approvers (votes ++ [(auth.userId, vote)])) =
          .pendingApproval threshold approvers (votes ++ [(auth.userId, vote)]) := by
      rw [show ProposalState.voteOutcome threshold approvers
        (votes ++ [(auth.userId, vote)]) = .reachedApproval from approved]
      rfl
    rw [pending]
    refine ends_bind.mpr (executeOperation_ends (Stores.isSome_overwriteStatus _ _ stored) ?_)
    intro progress after start
    exact
      answerWhenFinished_ends (start.stored (Stores.isSome_overwriteStatus _ _ stored))
        fun slot answer => .executeApproved parsed granted accepted approved start answer
  · refine answerWhenFinished_ends (Stores.isSome_overwriteStatus _ _ stored) ?_
    intro slot answer
    cases answer
    exact .recordVote parsed granted accepted undecided

/-- What `cancel_proposal` writes. -/
theorem cancelProposal_settles
    (call : Call)
    (proposalText : String)
    (s : Stores) :
    Settles (cancelProposal call proposalText) s fun response after =>
      ProposalWrite call s (.cancelProposal proposalText) (.ok (.ready response)) after := by
  refine .require fun proposalId parsed => ?_
  refine ends_bind.mpr (accessibleProposal_settles fun proposal auth stored granted => ?_)
  refine Settles.rejectIf fun entitled => ?_
  have entitlement :
      auth.userId = proposal.proposerId ∨
        auth.perms.contains ProjectPermissions.PROJECT_ADMIN = true := by
    simpa [or_iff_not_imp_left] using entitled
  simp only [ends_bind, ends_tryWrite, ends_lookup, ends_pure, map_eq_ok, map_eq_error,
    implies_true, and_true]
  rintro after ⟨cancelledState, cancelled, rfl⟩
  obtain ⟨cancellable, rfl⟩ := ProposalState.cancelProposal_ok stored cancelled
  constructor
  · intro updated _
    exact .cancel parsed stored granted entitlement cancellable
  · intro missing
    have kept :=
      Stores.isSome_overwriteStatus .cancelled call.now
        (Option.isSome_of_eq_some stored)
    unfold Stores.overwriteStatus at kept
    rw [missing] at kept
    cases kept

end ProposalService

/-- What `upsert_approval_policy` writes. -/
theorem ApprovalPolicyService.upsertApprovalPolicy_settles
    (call : Call)
    (projectText : String)
    (operationType : Dto.OperationType)
    (policyType : Dto.PolicyType)
    (s : Stores) :
    Settles (upsertApprovalPolicy call projectText operationType policyType) s
      fun _ after =>
        PolicyWrite call s (.upsertApprovalPolicy projectText operationType policyType)
          after := by
  refine .require fun (projectId, operation, policy) parsed => .check fun auth accepted => ?_
  exact .upsertApprovalPolicy parsed (ProjectAuth.require_ok accepted)

/-- What `set_org_plan` writes: a Free or a Pro plan. -/
theorem OrganizationBillingPlanService.setOrgPlan_settles
    (call : Call)
    (orgText : String)
    (tier : Dto.PlanTier)
    (s : Stores) :
    Settles (setOrgPlan call orgText tier) s fun _ after =>
      PolicyWrite call s (.adminSetOrgBillingPlan orgText tier) after := by
  refine .require fun orgId parsed => .rejectIf fun missing => .require fun plan offered => ?_
  have stored : (s.organization.getOrg orgId).isSome := by
    simpa [Option.isSome_iff_ne_none] using missing
  refine .setOrgPlan parsed stored ?_
  cases tier with
  | free =>
      cases offered
      exact .inl rfl
  | pro =>
      cases offered
      exact .inr rfl
  | enterprise =>
      cases offered

namespace CanisterService

/-- What the caller's access to a stored canister rests on. -/
theorem managedProject_settles
    {call : Call}
    {canisterId : CanisterId}
    {s : Stores}
    {onValue : ProjectAuth → Stores → Prop}
    (holds :
      ∀ projectId auth,
        ManagedCanister call.caller canisterId s projectId auth → onValue auth s) :
    Settles (managedProject call canisterId) s onValue := by
  refine .lookup fun projectId recorded => ?_
  refine ends_check.mpr ⟨fun auth accepted => ?_, fun _ _ => rfl⟩
  exact holds projectId auth ⟨recorded, ProjectAuth.require_ok accepted⟩

/-- What `remove_my_canister` writes. -/
theorem removeMyCanister_settles
    (call : Call)
    (canisterText : String)
    (s : Stores) :
    Settles (removeMyCanister call canisterText) s fun response after =>
      CanisterWrite call s (.removeMyCanister canisterText) (.ready response) after := by
  refine .require fun canisterId parsed => ?_
  refine ends_bind.mpr (managedProject_settles fun projectId auth managed => ?_)
  refine Settles.tryWrite fun after written => ?_
  split at written
  · rename_i canister deleted
    cases written
    exact .removeMyCanister parsed managed deleted
  · cases written

/-- What `update_my_canister_name` writes. -/
theorem updateMyCanisterName_settles
    (call : Call)
    (canisterText : String)
    (name : Option String)
    (s : Stores) :
    Settles (updateMyCanisterName call canisterText name) s fun response after =>
      CanisterWrite call s (.updateMyCanisterName canisterText name) (.ready response)
        after := by
  refine .require fun canisterId parsed => ?_
  refine ends_bind.mpr (managedProject_settles fun projectId auth managed => ?_)
  refine Settles.require fun validated _ => Settles.tryWrite fun after written => ?_
  split at written
  · rename_i canister renamed
    cases written
    exact .updateMyCanisterName parsed managed renamed
  · cases written

/-- What a canister command rests on when it reaches its call. -/
theorem commandMyCanister_settles
    {call : Call}
    {canisterText : String}
    {command : CanisterCommand}
    {s : Stores}
    {onValue : Slot → Stores → Prop}
    (holds :
      ∀ canisterId projectId auth canister,
        Id.tryFrom canisterText = .ok canisterId →
          ManagedCanister call.caller canisterId s projectId auth →
            s.canister.getCanister canisterId = some canister →
              onValue (.awaiting (.command command canister.principal)) s) :
    Settles (commandMyCanister call canisterText command) s onValue := by
  refine .require fun canisterId parsed => ?_
  refine ends_bind.mpr (ends_bind.mpr ?_)
  refine managedProject_settles fun projectId auth managed => ?_
  refine Settles.lookup fun canister stored => ?_
  exact holds canisterId projectId auth canister parsed managed stored

/-- What `start_my_canister` does up to its call. -/
theorem startMyCanister_settles
    (call : Call)
    (canisterText : String)
    (s : Stores) :
    Settles (startMyCanister call canisterText) s fun slot after =>
      CanisterWrite call s (.startMyCanister canisterText) slot after := by
  refine commandMyCanister_settles fun canisterId projectId auth canister parsed managed stored => ?_
  exact .startMyCanister parsed managed stored

/-- What `stop_my_canister` does up to its call. -/
theorem stopMyCanister_settles
    (call : Call)
    (canisterText : String)
    (s : Stores) :
    Settles (stopMyCanister call canisterText) s fun slot after =>
      CanisterWrite call s (.stopMyCanister canisterText) slot after := by
  refine commandMyCanister_settles fun canisterId projectId auth canister parsed managed stored => ?_
  exact .stopMyCanister parsed managed stored

/-- What `add_child_canisters` writes. -/
theorem addChildCanisters_settles
    (call : Call)
    (mappings : List Dto.ParentChildMapping)
    (s : Stores) :
    Settles (addChildCanisters mappings) s fun response after =>
      CanisterWrite call s (.addChildCanisters mappings) (.ready response) after :=
  CanisterWrite.addChildCanisters

end CanisterService

namespace ProposalService

/-- The status that the result of an operation leaves. -/
def finalStatus : Except String Unit → ProposalStatus
  | .ok () => .executed
  | .error message => .failed message

/-- The end of an operation overwrites its proposal's status and awaits nothing. -/
theorem completeOperation_ends
    {now : Nat}
    {operation : OperationInFlight}
    {result : Except String Unit}
    {s : Stores}
    {onEnd : List InFlight → Stores → Prop}
    (holds :
      onEnd [] (s.overwriteStatus operation.proposalId (finalStatus result) now)) :
    Ends (completeOperation now operation result) s
      (fun slot after => onEnd slot.suspended after)
      (fun _ after => onEnd [] after) := by
  have finishes :
      finishOperation now operation.proposalId result =
        setProposalStatus now operation.proposalId (finalStatus result) := by
    rcases result with _ | ⟨⟩ <;> rfl
  refine ends_bind.mpr ?_
  rw [finishes]
  cases found : s.proposal.getProposal operation.proposalId with
  | some proposal =>
      refine setProposalStatus_ends (Option.isSome_of_eq_some found) ?_
      refine
        answerWhenFinished_ends
          (Stores.isSome_overwriteStatus _ _ (Option.isSome_of_eq_some found)) ?_
      intro slot answer
      cases answer
      exact holds
  | none =>
      -- the status of a proposal that is not stored stays as it is
      have untouched :
          s.overwriteStatus operation.proposalId (finalStatus result) now = s := by
        simp [Stores.overwriteStatus, ProposalState.overwriteStatus, found]
      rw [untouched] at holds
      refine ends_tryWrite.mpr ⟨?_, fun _ _ => holds⟩
      intro after written
      obtain ⟨state, updated, rfl⟩ := map_eq_ok.mp written
      rw [ProposalState.setProposalStatus_ok, found] at updated
      cases updated.1

/-- How an operation takes up the reply that it waited for. -/
theorem resumeOperation_ends
    {now : Nat}
    {operation : OperationInFlight}
    {reply : Reply}
    {slice : Service Slot}
    {s : Stores}
    (resumed : resumeOperation now operation reply = some slice) :
    Ends slice s
      (fun slot after => Resumption now s (.operation operation) reply slot.suspended after)
      (fun _ after => Resumption now s (.operation operation) reply [] after) := by
  unfold resumeOperation at resumed
  cases called : operation.call with
  | createCanister =>
      rw [called] at resumed
      cases reply with
      | canisterCreated principal =>
          cases resumed
          exact ends_bind.mpr (completeOperation_ends (.recordCanister called))
      | rejected message =>
          cases resumed
          exact completeOperation_ends (.fail (by simp))
      | canisterStatus _ | done =>
          cases resumed
  | canisterStatus canisterId controllerId =>
      rw [called] at resumed
      cases reply with
      | canisterStatus controllers =>
          cases resumed
          refine ends_ite.mpr ⟨fun _ => completeOperation_ends (.fail (by simp)), fun new => ?_⟩
          exact .updateSettings called (by simpa using new)
      | rejected message =>
          cases resumed
          exact completeOperation_ends (.fail (by simp))
      | canisterCreated _ | done =>
          cases resumed
  | updateSettings canisterId controllerId controllers =>
      rw [called] at resumed
      cases reply with
      | done =>
          cases resumed
          exact completeOperation_ends (.settingsUpdated called)
      | rejected message =>
          cases resumed
          exact completeOperation_ends (.fail (by simp))
      | canisterCreated _ | canisterStatus _ =>
          cases resumed

end ProposalService

/-- How a suspended message takes up the reply that it waited for. -/
theorem resume_ends
    {now : Nat}
    {inFlight : InFlight}
    {reply : Reply}
    {slice : Service Slot}
    {s : Stores}
    (resumed : resume now inFlight reply = some slice) :
    Ends slice s
      (fun slot after => Resumption now s inFlight reply slot.suspended after)
      (fun _ after => Resumption now s inFlight reply [] after) := by
  cases inFlight with
  | operation operation =>
      exact ProposalService.resumeOperation_ends resumed
  | command command canisterId =>
      cases reply with
      | done | rejected _ =>
          cases resumed
          exact .commandAnswered
      | canisterCreated _ | canisterStatus _ =>
          cases resumed

end SsnConsole.Backend
