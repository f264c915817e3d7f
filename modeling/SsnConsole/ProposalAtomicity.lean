import SsnConsole.EndpointRuns
import SsnConsole.ProposalIndex
import SsnConsole.TextualHost

/-!
# Whether creating a proposal is atomic

`create_proposal` checks the request, the caller and the quota before it inserts
a row, but the policy only afterwards.  An error of the policy therefore leaves
the row behind; every other error leaves the stores as they were.
-/

namespace SsnConsole.Backend

open SsnConsole.MessageRun
open SsnConsole.MessageSlice

section Atomicity

variable [Host]

/-- A request that passes what `create_proposal` checks before it inserts a row. -/
structure AdmittedProposal
    (call : Call)
    (projectText : String)
    (requested : Option Dto.ProposalOperation)
    (s : Stores)
    (projectId : ProjectId)
    (operation : ProposalOperation)
    (auth : ProjectAuth) : Prop where
  parsed : mapCreateProposalRequest projectText requested = .ok (projectId, operation)
  authorized :
    ProjectAuth.require call.caller projectId ProjectPermissions.PROPOSAL_CREATE s = .ok auth
  withinQuota :
    operation = .createCanister →
      CanisterService.enforceCanisterQuota auth.orgId call.now s = .ok ()

/-- The policy in force asks for no approvals, or for more than there are approvers. -/
def PolicyUnmeetable (projectId : ProjectId) (operation : ProposalOperation) (s : Stores) :
    Prop :=
  ∃ threshold,
    ProposalService.policyInForce projectId operation s = .fixedQuorum threshold ∧
      (threshold < 1 ∨
        asU32
            (listProjectUsersWithPermission projectId ProjectPermissions.PROPOSAL_APPROVE
              s).length < threshold)

/-- The call gets past its checks to a policy that cannot be met. -/
def ReachesUnmeetablePolicy (call : Call) (projectText : String)
    (requested : Option Dto.ProposalOperation) (s : Stores) : Prop :=
  ∃ projectId operation auth,
    AdmittedProposal call projectText requested s projectId operation auth ∧
      PolicyUnmeetable projectId operation s

/-- The stores with which a call of `create_proposal` ends in an error. -/
inductive CreationFails (call : Call) (projectText : String)
    (requested : Option Dto.ProposalOperation) (s : Stores) : Stores → Prop
  /-- The call fails before it awaits anything. -/
  | atOnce
      {error : ApiError}
      {after : Stores}
      (failed :
        outcome (ProposalService.createProposal call projectText requested) s =
          (.error error, after)) :
      CreationFails call projectText requested s after
  /-- The call fails when a reply resumes it, whatever has happened since. -/
  | afterAwait
      {issued waiting : OperationInFlight}
      {middle after : Stores}
      {inFlight : List InFlight}
      {world : World}
      {now index : Nat}
      {reply : Reply}
      {slice : Service Slot}
      {error : ApiError}
      (suspended :
        outcome (ProposalService.createProposal call projectText requested) s =
          (.ok (.awaiting (.operation issued)), middle))
      (reached :
        MessageRun.Reachable World.serviceStep (fun _ _ => True)
          ⟨middle, inFlight ++ [.operation issued]⟩ world)
      (awaits : world.inFlight[index]? = some (.operation waiting))
      (same : waiting.proposalId = issued.proposalId)
      (resumed : ProposalService.resumeOperation now waiting reply = some slice)
      (failed : outcome slice world.stores = (.error error, after)) :
      CreationFails call projectText requested s after

/-- If the call fails, it leaves the stores as they were. -/
def AtomicOnError (call : Call) (projectText : String)
    (requested : Option Dto.ProposalOperation) (s : Stores) : Prop :=
  ∀ after, CreationFails call projectText requested s after → after = s

/-- When a call is atomic on error, and what it leaves behind when it is not. -/
structure CreationAtomicity (call : Call) (projectText : String)
    (requested : Option Dto.ProposalOperation) (s : Stores) : Prop where
  atomic_iff :
    AtomicOnError call projectText requested s ↔
      ¬ReachesUnmeetablePolicy call projectText requested s
  leftBehind :
    ∀ projectId operation auth,
      AdmittedProposal call projectText requested s projectId operation auth →
        PolicyUnmeetable projectId operation s →
          CreationFails call projectText requested s
            (s.proposing projectId (openProposal auth projectId operation) call.now)

variable {call : Call} {projectText : String} {requested : Option Dto.ProposalOperation}
variable {s : Stores} {projectId : ProjectId} {operation : ProposalOperation}
variable {auth : ProjectAuth}

namespace ProposalService

/-- What remains to be done once the row is inserted. -/
def processCreated (now : Nat) (projectId : ProjectId) (proposalId : ProposalId)
    (operation : ProposalOperation) : Service Slot := do
  let progress ← processProposal now projectId proposalId operation
  answerWhenFinished .createProposal proposalId progress

/-- An admitted call inserts its row and then looks at the policy. -/
theorem outcome_createProposal
    (admitted :
      AdmittedProposal call projectText requested s projectId operation auth) :
    outcome (createProposal call projectText requested) s =
      outcome (processCreated call.now projectId s.nextId operation)
        (s.proposing projectId (openProposal auth projectId operation) call.now) := by
  have parsed :
      outcome (require (mapCreateProposalRequest projectText requested) : Service _) s =
        (.ok (projectId, operation), s) :=
    congrArg (·, s) admitted.parsed
  rw [createProposal, outcome_bind, parsed]
  dsimp only
  rw [outcome_bind, outcome_check, admitted.authorized]
  dsimp only
  rw [outcome_bind, outcome_check]
  cases operation with
  | createCanister =>
      dsimp only
      rw [admitted.withinQuota rfl]
      rfl
  | addCanisterController canisterId controllerId => rfl

/-- A call that is not admitted fails before it writes. -/
theorem createProposal_refused
    (refused :
      ∀ projectId operation auth,
        ¬AdmittedProposal call projectText requested s projectId operation auth) :
    Ends (createProposal call projectText requested) s
      (fun _ _ => False)
      (fun _ after => after = s) := by
  simp only [createProposal, ends_bind, ends_require, ends_check, implies_true, and_true]
  rintro ⟨projectId, operation⟩ parsed auth authorized _ quota
  apply (refused projectId operation auth ⟨parsed, authorized, ?_⟩).elim
  rintro rfl
  exact quota

/-- A policy that cannot be met ends the call in an error. -/
theorem processCreated_unmeetable
    (now : Nat)
    (proposalId : ProposalId)
    (unmeetable : PolicyUnmeetable projectId operation s) :
    ∃ error,
      outcome (processCreated now projectId proposalId operation) s = (.error error, s) := by
  obtain ⟨threshold, policy, few⟩ := unmeetable
  have ends :
      Ends (processCreated now projectId proposalId operation) s
        (fun _ _ => False)
        (fun _ after => after = s) := by
    apply ends_bind.mpr
    apply ends_bind.mpr
    rw [ends_inspect, policy]
    simp only [ends_bind, ends_rejectIf, ends_inspect]
    constructor
    · intro positive
      constructor
      · intro enough
        rcases few with zero | short
        · exact (of_decide_eq_false positive zero).elim
        · exact (of_decide_eq_false enough short).elim
      · intro _
        trivial
    · intro _
      trivial
  rcases ended : outcome (processCreated now projectId proposalId operation) s with
    ⟨error | slot, after⟩
  · rw [(ends_iff_outcome.mp ends).2 error after ended]
    exact ⟨error, rfl⟩
  · exact (ends.of_ok ended).elim

/-- A policy that can be met lets the call go on. -/
theorem processCreated_meetable
    {proposal : Proposal}
    {proposalId : ProposalId}
    (now : Nat)
    (stored : s.proposal.getProposal proposalId = some proposal)
    (isOpen : proposal.status = .open)
    (meetable : ¬PolicyUnmeetable projectId operation s) :
    Ends (processCreated now projectId proposalId operation) s
      (fun _ _ => True)
      (fun _ _ => False) := by
  have present : (s.proposal.getProposal proposalId).isSome :=
    Option.isSome_of_eq_some stored
  apply ends_bind.mpr
  apply processProposal_ends stored isOpen
  · intro _ progress after start
    exact answerWhenFinished_ends (start.stored present) fun _ _ => trivial
  · intro threshold policy unmet error
    exact meetable ⟨threshold, policy, unmet⟩
  · intro threshold _ _ _
    apply answerWhenFinished_ends ?_ fun _ _ => trivial
    exact Stores.isSome_overwriteStatus _ _ present

/-- The end of the operation of a stored proposal succeeds. -/
theorem completeOperation_succeeds
    {now : Nat}
    {waiting : OperationInFlight}
    {result : Except String Unit}
    (stored : (s.proposal.getProposal waiting.proposalId).isSome) :
    Ends (completeOperation now waiting result) s
      (fun _ _ => True)
      (fun _ _ => False) := by
  apply ends_bind.mpr
  have answered :
      ∀ status,
        Ends (setProposalStatus now waiting.proposalId status) s
          (fun _ after =>
            Ends (answerWhenFinished waiting.origin waiting.proposalId .finished) after
              (fun _ _ => True)
              (fun _ _ => False))
          (fun _ _ => False) := by
    intro status
    apply setProposalStatus_ends stored
    apply answerWhenFinished_ends ?_ fun _ _ => trivial
    exact Stores.isSome_overwriteStatus _ _ stored
  cases result with
  | ok _ => exact answered .executed
  | error message => exact answered (.failed message)

/-- A reply to the operation of a stored proposal does not fail. -/
theorem resumeOperation_succeeds
    {now : Nat}
    {waiting : OperationInFlight}
    {reply : Reply}
    {slice : Service Slot}
    (resumed : resumeOperation now waiting reply = some slice)
    (stored : (s.proposal.getProposal waiting.proposalId).isSome) :
    Ends slice s
      (fun _ _ => True)
      (fun _ _ => False) := by
  unfold resumeOperation at resumed
  cases called : waiting.call with
  | createCanister =>
      rw [called] at resumed
      cases reply with
      | canisterCreated principal =>
          cases resumed
          exact ends_bind.mpr (completeOperation_succeeds stored)
      | rejected message =>
          cases resumed
          exact completeOperation_succeeds stored
      | canisterStatus _ | done => cases resumed
  | canisterStatus canisterId controllerId =>
      rw [called] at resumed
      cases reply with
      | canisterStatus controllers =>
          cases resumed
          exact ends_ite.mpr ⟨fun _ => completeOperation_succeeds stored, fun _ => trivial⟩
      | rejected message =>
          cases resumed
          exact completeOperation_succeeds stored
      | canisterCreated _ | done => cases resumed
  | updateSettings canisterId controllerId controllers =>
      rw [called] at resumed
      cases reply with
      | done | rejected message =>
          cases resumed
          exact completeOperation_succeeds stored
      | canisterCreated _ | canisterStatus _ => cases resumed

/-- A call that awaits its operation has stored its proposal. -/
theorem createProposal_awaiting
    {issued : OperationInFlight}
    {middle : Stores}
    (suspended :
      outcome (createProposal call projectText requested) s =
        (.ok (.awaiting (.operation issued)), middle)) :
    (middle.proposal.getProposal issued.proposalId).isSome := by
  have write := (createProposal_ends call projectText requested s).of_ok suspended
  cases write with
  | @executeNew _ _ projectId operation auth _ _ _ _ _ _ start answer =>
      have inserted :=
        s.getProposal_proposing projectId (openProposal auth projectId operation) call.now
      have stored := start.stored (Option.isSome_of_eq_some inserted)
      cases answer
      cases start with
      | awaitCreation _ | awaitStatus => exact stored

end ProposalService

/-- A call that fails does so at once. -/
theorem CreationFails.at_once
    {after : Stores}
    (fails : CreationFails call projectText requested s after) :
    ∃ error,
      outcome (ProposalService.createProposal call projectText requested) s =
        (.error error, after) := by
  cases fails with
  | atOnce failed => exact ⟨_, failed⟩
  | @afterAwait issued waiting middle _ inFlight world _ _ _ _ _ suspended reached _ same
      resumed failed =>
      have inserted :
          World.StoresProposal issued.proposalId ⟨middle, inFlight ++ [.operation issued]⟩ :=
        ProposalService.createProposal_awaiting suspended
      have stored : (world.stores.proposal.getProposal waiting.proposalId).isSome := by
        rw [same]
        exact inserted.later reached
      have succeeds := ProposalService.resumeOperation_succeeds resumed stored
      exact ((ends_iff_outcome.mp succeeds).2 _ _ failed).elim

/-- An admitted call fails exactly if it reaches a policy that cannot be met. -/
theorem AdmittedProposal.unmeetable_of_fails
    {after : Stores}
    (admitted :
      AdmittedProposal call projectText requested s projectId operation auth)
    (fails : CreationFails call projectText requested s after) :
    PolicyUnmeetable projectId operation s := by
  obtain ⟨error, failed⟩ := fails.at_once
  rw [ProposalService.outcome_createProposal admitted] at failed
  by_contra meetable
  have inserted :=
    s.getProposal_proposing projectId (openProposal auth projectId operation) call.now
  have goesOn := ProposalService.processCreated_meetable call.now inserted rfl meetable
  exact (ends_iff_outcome.mp goesOn).2 error after failed

/-- A call that reaches a policy that cannot be met fails and leaves its row. -/
theorem AdmittedProposal.fails
    (admitted :
      AdmittedProposal call projectText requested s projectId operation auth)
    (unmeetable : PolicyUnmeetable projectId operation s) :
    CreationFails call projectText requested s
      (s.proposing projectId (openProposal auth projectId operation) call.now) := by
  have unmet :
      PolicyUnmeetable projectId operation
        (s.proposing projectId (openProposal auth projectId operation) call.now) :=
    unmeetable
  obtain ⟨error, failed⟩ :=
    ProposalService.processCreated_unmeetable call.now s.nextId unmet
  exact .atOnce ((ProposalService.outcome_createProposal admitted).trans failed)

/-- From every state, a call of `create_proposal` is atomic on error unless it reaches a policy
that cannot be met, and then it leaves its row behind. -/
theorem creationAtomicity
    (call : Call)
    (projectText : String)
    (requested : Option Dto.ProposalOperation)
    (s : Stores) :
    CreationAtomicity call projectText requested s where
  atomic_iff := by
    constructor
    · rintro atomic ⟨projectId, operation, auth, admitted, unmeetable⟩
      have unchanged := atomic _ (admitted.fails unmeetable)
      have drawn := congrArg Stores.drawn unchanged
      exact Nat.succ_ne_self s.drawn drawn
    · intro meetable after fails
      by_cases admitted :
        ∃ projectId operation auth,
          AdmittedProposal call projectText requested s projectId operation auth
      · obtain ⟨projectId, operation, auth, admitted⟩ := admitted
        have unmeetable := admitted.unmeetable_of_fails fails
        exact (meetable ⟨projectId, operation, auth, admitted, unmeetable⟩).elim
      · have refused :=
          ProposalService.createProposal_refused fun projectId operation auth passes =>
            admitted ⟨projectId, operation, auth, passes⟩
        obtain ⟨error, failed⟩ := fails.at_once
        exact (ends_iff_outcome.mp refused).2 error after failed
  leftBehind _ _ _ admitted unmeetable := admitted.fails unmeetable

end Atomicity

section UnreachableQuorum

open TextualHost

attribute [local instance] host

/-- A founder asks for two approvals in a project with one approver. -/
def loneApprover : List Event :=
  [.message (callBy founder) .createMyUserProfile,
    .message (callBy operator) (.adminUpdateUserProfile (idText 0) (some .active)),
    .message (callBy founder)
      (.upsertApprovalPolicy (idText 3) .createCanister (.fixedQuorum 2))]

/-- The run in which the policy comes into force. -/
def unreachableQuorum : Execution World.endpointStep World.empty :=
  admittedRun loneApprover (.message (callBy founder) .createMyUserProfile) (by decide +kernel)

/-- The stores once the policy is in force. -/
def underUnreachableQuorum : Stores :=
  (unreachableQuorum.state 3).stores

/-- The founder's proposal under that policy. -/
def deadProposal : Service Slot :=
  ProposalService.createProposal (callBy founder) (idText 3) (some .createCanister)

/-- A proposal under a policy that cannot be met is refused but stays. -/
theorem unreachableQuorum_breaks_atomicity :
    ∃ world call projectText requested,
      MessageRun.Reachable World.endpointStep (fun _ _ => True) World.empty world ∧
        ¬AtomicOnError call projectText requested world.stores := by
  refine
    ⟨unreachableQuorum.state 3, callBy founder, idText 3, some .createCanister,
      unreachableQuorum.reachable (by decide), ?_⟩
  intro atomic
  rcases ended : outcome deadProposal underUnreachableQuorum with ⟨error | slot, after⟩
  · have unchanged : after = underUnreachableQuorum := atomic after (.atOnce ended)
    have absent :
        (underUnreachableQuorum.proposal.getProposal underUnreachableQuorum.nextId).isSome =
          false := by
      decide +kernel
    have stays :
        ((outcome deadProposal underUnreachableQuorum).2.proposal.getProposal
          underUnreachableQuorum.nextId).isSome = true := by
      decide +kernel
    rw [ended, unchanged, absent] at stays
    cases stays
  · have refused : (outcome deadProposal underUnreachableQuorum).1.isOk = false := by
      decide +kernel
    rw [ended] at refused
    cases refused

end UnreachableQuorum

end SsnConsole.Backend
