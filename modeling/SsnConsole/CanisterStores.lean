import SsnConsole.BackendRecords
import SsnConsole.StableIndex

/-!
# Canister, proposal, policy and billing stores

The repositories behind the proposal flow: canister records and orphaned
children, proposals with their votes, approval policies and billing plans.
-/

namespace SsnConsole.Backend

open Std
open SsnConsole.StableIndex

/-- State of `canister_repository`. -/
structure CanisterState where
  canisters : ExtTreeMap CanisterId Canister
  activeProjectCanisterIndex : ExtTreeSet (ProjectId × CanisterId)
  deletedProjectCanisterIndex : ExtTreeSet (ProjectId × CanisterId)
  canisterProjectIndex : ExtTreeMap CanisterId ProjectId
  principalCanisterIndex : ExtTreeMap Principal CanisterId

namespace CanisterState

def empty : CanisterState :=
  ⟨∅, ∅, ∅, ∅, ∅⟩

def projectHasCanisters (s : CanisterState) (projectId : ProjectId) : Bool :=
  !(prefixRows s.activeProjectCanisterIndex projectId).isEmpty ||
    !(prefixRows s.deletedProjectCanisterIndex projectId).isEmpty

/-- `list_active_canisters_by_project`: the active rows that have a record. -/
def listActiveCanistersByProject (s : CanisterState) (projectId : ProjectId) :
    List (CanisterId × Canister) :=
  (prefixRows s.activeProjectCanisterIndex projectId).filterMap fun canisterId =>
    s.canisters[canisterId]?.map fun canister => (canisterId, canister)

/-- `create_canister` with its drawn identifier. -/
def createCanister (s : CanisterState) (canisterId : CanisterId) (projectId : ProjectId)
    (canister : Canister) : CanisterState :=
  { s with
    canisters := s.canisters.insert canisterId canister
    activeProjectCanisterIndex :=
      s.activeProjectCanisterIndex.insert (projectId, canisterId)
    canisterProjectIndex := s.canisterProjectIndex.insert canisterId projectId
    principalCanisterIndex := s.principalCanisterIndex.insert canister.principal canisterId }

def getCanisterProjectId (s : CanisterState) (canisterId : CanisterId) : Option ProjectId :=
  s.canisterProjectIndex[canisterId]?

def getCanister (s : CanisterState) (canisterId : CanisterId) : Option Canister :=
  s.canisters[canisterId]?

/-- `soft_delete_canister`: the record stays, its row moves to the deleted index. -/
def softDeleteCanister (s : CanisterState) (projectId : ProjectId)
    (canisterId : CanisterId) (deletedAt : Nat) : Option CanisterState :=
  if s.activeProjectCanisterIndex.contains (projectId, canisterId) then
    s.canisters[canisterId]?.map fun canister =>
      { s with
        canisters := s.canisters.insert canisterId { canister with deletedAt := some deletedAt }
        activeProjectCanisterIndex :=
          s.activeProjectCanisterIndex.erase (projectId, canisterId)
        deletedProjectCanisterIndex :=
          s.deletedProjectCanisterIndex.insert (projectId, canisterId) }
  else
    none

def getCanisterByPrincipal (s : CanisterState) (principal : Principal) : Option CanisterId :=
  s.principalCanisterIndex[principal]?

def updateCanisterName (s : CanisterState) (canisterId : CanisterId)
    (name : Option String) : Option CanisterState :=
  s.canisters[canisterId]?.map fun canister =>
    { s with canisters := s.canisters.insert canisterId { canister with name := name } }

end CanisterState

/-- State of `orphaned_canister_repository`. -/
structure OrphanedCanisterState where
  childToParentIndex : ExtTreeMap Principal Principal
  parentChildIndex : ExtTreeSet (Principal × Principal)

namespace OrphanedCanisterState

def empty : OrphanedCanisterState :=
  ⟨∅, ∅⟩

def createOrphanedCanister (s : OrphanedCanisterState)
    (childPrincipal parentPrincipal : Principal) : OrphanedCanisterState where
  childToParentIndex := s.childToParentIndex.insert childPrincipal parentPrincipal
  parentChildIndex := s.parentChildIndex.insert (parentPrincipal, childPrincipal)

def getParentByChild (s : OrphanedCanisterState) (childPrincipal : Principal) :
    Option Principal :=
  s.childToParentIndex[childPrincipal]?

def listChildrenByParent (s : OrphanedCanisterState) (parentPrincipal : Principal) :
    List Principal :=
  prefixRows s.parentChildIndex parentPrincipal

def removeOrphanedCanister (s : OrphanedCanisterState)
    (childPrincipal parentPrincipal : Principal) : OrphanedCanisterState where
  parentChildIndex := s.parentChildIndex.erase (parentPrincipal, childPrincipal)
  childToParentIndex := s.childToParentIndex.erase childPrincipal

end OrphanedCanisterState

/-- `VoteOutcome`: what a recorded vote brings about. -/
inductive VoteOutcome
  | reachedApproval
  | reachedRejection
  | stillPending
  deriving DecidableEq

/-- `usize as u32`. -/
def asU32 (count : Nat) : Nat :=
  count % 2 ^ 32

/-- How many of the votes are `vote`. -/
def countVotes (votes : List (UserId × Vote)) (vote : Vote) : Nat :=
  (votes.filter fun entry => entry.2 = vote).length

/-- State of `proposal_repository`. -/
structure ProposalState where
  proposals : ExtTreeMap ProposalId Proposal
  projectProposalsIndex : ExtTreeSet (ProjectId × ProposalId)

namespace ProposalState

def empty : ProposalState :=
  ⟨∅, ∅⟩

/-- `create_proposal` with its drawn identifier. -/
def createProposal (s : ProposalState) (proposalId : ProposalId) (projectId : ProjectId)
    (proposal : Proposal) (now : Nat) : ProposalState where
  proposals :=
    s.proposals.insert proposalId
      { proposal with createdAtNanos := some now, updatedAtNanos := some now }
  projectProposalsIndex := s.projectProposalsIndex.insert (projectId, proposalId)

def getProposal (s : ProposalState) (proposalId : ProposalId) : Option Proposal :=
  s.proposals[proposalId]?

/-- Store a proposal with a new status and a new update time. -/
def restatus (s : ProposalState) (proposalId : ProposalId) (proposal : Proposal)
    (status : ProposalStatus) (now : Nat) : ProposalState :=
  { s with
    proposals :=
      s.proposals.insert proposalId
        { proposal with status := status, updatedAtNanos := some now } }

def setProposalPendingApproval [Host] (s : ProposalState) (proposalId : ProposalId)
    (threshold : Nat) (approvers : List UserId) (now : Nat) : ApiResult ProposalState :=
  match s.proposals[proposalId]? with
  | none =>
      .error (.clientError
        s!"Failed to set status for proposal {proposalId.text}, proposal does not exist.")
  | some proposal =>
      if proposal.status ≠ .open then
        .error (.clientError
          s!"Proposal {proposalId.text} is not open; cannot move to pending approval.")
      else
        .ok
          (s.restatus proposalId proposal (.pendingApproval threshold approvers []) now)

/-- What the votes on a proposal have reached. -/
def voteOutcome (threshold : Nat) (approvers : List UserId)
    (votes : List (UserId × Vote)) : VoteOutcome :=
  let approvals := asU32 (countVotes votes .approve)
  let rejections := asU32 (countVotes votes .reject)
  let total := asU32 approvers.length
  if approvals ≥ threshold then
    .reachedApproval
  else if rejections > total - threshold then
    .reachedRejection
  else
    .stillPending

def recordProposalVote [Host] (s : ProposalState) (proposalId : ProposalId)
    (voter : UserId) (vote : Vote) (now : Nat) : ApiResult (VoteOutcome × ProposalState) :=
  match s.proposals[proposalId]? with
  | none =>
      .error (.clientError
        s!"Failed to record vote for proposal {proposalId.text}, proposal does not exist.")
  | some proposal =>
      match proposal.status with
      | .pendingApproval threshold approvers votes =>
          if !approvers.contains voter then
            .error (.clientError
              s!"User {voter.text} is not an approver for proposal {proposalId.text}.")
          else if votes.any fun entry => decide (entry.1 = voter) then
            .error (.clientError
              s!"User {voter.text} has already voted on proposal {proposalId.text}.")
          else
            let votes := votes ++ [(voter, vote)]
            let outcome := voteOutcome threshold approvers votes
            let status :=
              match outcome with
              | .reachedRejection => .rejected
              | _ => .pendingApproval threshold approvers votes
            .ok (outcome, s.restatus proposalId proposal status now)
      | _ =>
          .error (.clientError s!"Proposal {proposalId.text} is not pending approval.")

def cancelProposal [Host] (s : ProposalState) (proposalId : ProposalId) (now : Nat) :
    ApiResult ProposalState :=
  match s.proposals[proposalId]? with
  | none =>
      .error (.clientError
        s!"Failed to cancel proposal {proposalId.text}, proposal does not exist.")
  | some proposal =>
      match proposal.status with
      | .open | .pendingApproval _ _ _ =>
          .ok (s.restatus proposalId proposal .cancelled now)
      | _ =>
          .error (.clientError
            s!"Proposal {proposalId.text} cannot be cancelled in its current state.")

/-- `set_proposal_status`: overwrites whatever status is stored. -/
def setProposalStatus [Host] (s : ProposalState) (proposalId : ProposalId)
    (status : ProposalStatus) (now : Nat) : ApiResult ProposalState :=
  match s.proposals[proposalId]? with
  | none =>
      .error (.clientError
        s!"Failed to set status for proposal {proposalId.text}, proposal does not exist.")
  | some proposal => .ok (s.restatus proposalId proposal status now)

end ProposalState

instance : TransOrd (ProjectId × OperationType) :=
  Std.instTransOrdProd

/-- State of `approval_policy_repository`. -/
structure ApprovalPolicyState where
  approvalPolicies : ExtTreeMap ApprovalPolicyId ApprovalPolicy
  projectOperationTypeApprovalPolicyIndex :
    ExtTreeMap (ProjectId × OperationType) ApprovalPolicyId

namespace ApprovalPolicyState

def empty : ApprovalPolicyState :=
  ⟨∅, ∅⟩

def getProjectApprovalPolicyByOperationType (s : ApprovalPolicyState)
    (projectId : ProjectId) (operationType : OperationType) : Option ApprovalPolicy :=
  s.projectOperationTypeApprovalPolicyIndex[(projectId, operationType)]?.bind
    fun policyId => s.approvalPolicies[policyId]?

/-- `upsert_approval_policy` with the identifier it settles on. -/
def upsertApprovalPolicy (s : ApprovalPolicyState) (policyId : ApprovalPolicyId)
    (projectId : ProjectId) (operationType : OperationType)
    (approvalPolicy : ApprovalPolicy) : ApprovalPolicyState where
  approvalPolicies := s.approvalPolicies.insert policyId approvalPolicy
  projectOperationTypeApprovalPolicyIndex :=
    s.projectOperationTypeApprovalPolicyIndex.insert (projectId, operationType) policyId

end ApprovalPolicyState

/-- State of `organization_billing_plan_repository`. -/
structure BillingPlanState where
  billingPlans : ExtTreeMap OrgId OrganizationBillingPlan

namespace BillingPlanState

def empty : BillingPlanState :=
  ⟨∅⟩

def setPlan (s : BillingPlanState) (orgId : OrgId) (plan : OrganizationBillingPlan) :
    BillingPlanState :=
  ⟨s.billingPlans.insert orgId plan⟩

/-- `get_or_default`: organizations without a stored plan are on the Free plan. -/
def getOrDefault (s : BillingPlanState) (orgId : OrgId) (now : Nat) :
    OrganizationBillingPlan :=
  s.billingPlans[orgId]?.getD (OrganizationBillingPlan.default now)

def deletePlan (s : BillingPlanState) (orgId : OrgId) : BillingPlanState :=
  ⟨s.billingPlans.erase orgId⟩

end BillingPlanState

end SsnConsole.Backend
