import SsnConsole.KeyedIndex
import SsnConsole.ProposalLifecycle

/-!
# The stored proposals

An event inserts a proposal under a new identifier, overwrites statuses, or
leaves the proposals alone.  Hence a stored proposal stays stored, and the index
of the projects' proposals has exactly one row for each of them.
-/

namespace SsnConsole.Backend

open SsnConsole.KeyedIndex
open SsnConsole.MessageRun
open SsnConsole.StableIndex

variable [Host]

section Induction

variable {Holds : ProposalState → Prop}

/-- What overwriting statuses keeps, the start of an execution keeps. -/
private theorem ExecutionStart.proposals_induction
    {origin : ExecutionOrigin}
    {now : Nat}
    {projectId : ProjectId}
    {proposalId : ProposalId}
    {s after : Stores}
    {operation : ProposalOperation}
    {progress : Progress}
    (restatused :
      ∀ state proposalId status now,
        Holds state → Holds (state.overwriteStatus proposalId status now))
    (start : ExecutionStart origin now projectId proposalId s operation progress after)
    (holds : Holds s.proposal) :
    Holds after.proposal := by
  cases start with
  | awaitCreation _ | awaitStatus => exact restatused _ _ _ _ holds
  | quotaExceeded _ => exact restatused _ _ _ _ (restatused _ _ _ _ holds)

/-- What inserting new proposals and overwriting statuses keeps, every event keeps. -/
theorem World.Stepped.proposals_induction
    {before after : World}
    {event : Event}
    (stepped : before.Stepped event after)
    (inserted :
      ∀ projectId proposal now,
        proposal.projectId = projectId → Holds before.stores.proposal →
          Holds
            (before.stores.proposal.createProposal before.stores.nextId projectId proposal now))
    (restatused :
      ∀ state proposalId status now,
        Holds state → Holds (state.overwriteStatus proposalId status now))
    (holds : Holds before.stores.proposal) :
    Holds after.stores.proposal := by
  cases stepped with
  | message handled =>
      cases handled.operates with
      | elsewhere same _ =>
          rw [same.proposal]
          exact holds
      | canister write =>
          rw [write.sameProposals]
          exact holds
      | proposal write =>
          cases write with
          | leaveOpen _ _ _ => exact inserted _ _ _ rfl holds
          | awaitApproval _ _ _ _ _ =>
              exact restatused _ _ _ _ (inserted _ _ _ rfl holds)
          | executeNew _ _ _ start _ =>
              exact start.proposals_induction restatused (inserted _ _ _ rfl holds)
          | recordVote _ _ _ _ | cancel _ _ _ _ _ => exact restatused _ _ _ _ holds
          | executeApproved _ _ _ _ start _ =>
              exact start.proposals_induction restatused (restatused _ _ _ _ holds)
  | reply _ resumed =>
      cases resumed with
      | recordCanister _ | fail _ | settingsUpdated _ => exact restatused _ _ _ _ holds
      | updateSettings _ _ | commandAnswered => exact holds

end Induction

section Stored

variable {world next : World} {proposalId : ProposalId}

/-- The proposal is stored. -/
def ProposalState.Stores (proposalId : ProposalId) (state : ProposalState) : Prop :=
  (state.getProposal proposalId).isSome

/-- The proposal is stored in the world. -/
def World.StoresProposal (proposalId : ProposalId) (world : World) : Prop :=
  world.stores.proposal.Stores proposalId

/-- A stored proposal stays stored, whatever happens. -/
theorem World.StoresProposal.later
    (stored : world.StoresProposal proposalId)
    (reached : MessageRun.Reachable World.serviceStep (fun _ _ => True) world next) :
    next.StoresProposal proposalId := by
  refine reached.invariant stored ?_
  intro before event after _ stored _ stepped
  apply (World.serviceStep_cases stepped).proposals_induction ?_ ?_ stored
  · intro projectId proposal now _ holds
    rw [ProposalState.Stores, ProposalState.getProposal, ProposalState.createProposal,
      getElem?_insert_entry]
    split
    · rfl
    · exact holds
  · intro state other status now holds
    rw [ProposalState.Stores, ProposalState.getProposal_overwriteStatus]
    split
    · rename_i same
      subst same
      simpa [ProposalState.Stores] using holds
    · exact holds

end Stored

section Index

/-- The row of a proposal in the index of the projects' proposals. -/
def proposalRow (proposalId : ProposalId) (proposal : Proposal) : ProjectId × ProposalId :=
  (proposal.projectId, proposalId)

/-- The index has a row for each stored proposal, and no other. -/
def ProposalState.Indexed (state : ProposalState) : Prop :=
  Indexes state.proposals proposalRow state.projectProposalsIndex

/-- The index of the projects' proposals is exact in the world. -/
def World.ProposalsIndexed (world : World) : Prop :=
  world.stores.proposal.Indexed

namespace ProposalState.Indexed

variable {state : ProposalState}

omit [Host] in
/-- The rows of a project are its stored proposals. -/
theorem mem_iff
    (indexed : state.Indexed)
    {projectId : ProjectId}
    {proposalId : ProposalId} :
    (projectId, proposalId) ∈ state.projectProposalsIndex ↔
      ∃ proposal,
        state.getProposal proposalId = some proposal ∧ proposal.projectId = projectId := by
  rw [indexed (projectId, proposalId)]
  constructor
  · rintro ⟨id, proposal, stored, same⟩
    cases same
    exact ⟨proposal, stored, rfl⟩
  · rintro ⟨proposal, stored, rfl⟩
    exact ⟨proposalId, proposal, stored, rfl⟩

omit [Host] in
/-- A new proposal brings its row. -/
theorem createProposal
    (indexed : state.Indexed)
    {proposalId : ProposalId}
    {projectId : ProjectId}
    {proposal : Proposal}
    {now : Nat}
    (fresh : state.getProposal proposalId = none)
    (own : proposal.projectId = projectId) :
    (state.createProposal proposalId projectId proposal now).Indexed := by
  subst own
  exact Indexes.insert indexed fresh

omit [Host] in
/-- A new status leaves a proposal in its row. -/
theorem overwriteStatus
    (indexed : state.Indexed)
    (proposalId : ProposalId)
    (status : ProposalStatus)
    (now : Nat) :
    (state.overwriteStatus proposalId status now).Indexed := by
  rw [ProposalState.overwriteStatus]
  cases stored : state.getProposal proposalId with
  | none => exact indexed
  | some proposal => exact Indexes.overwrite indexed stored rfl

end ProposalState.Indexed

/-- The index of the projects' proposals is exact in every reachable world. -/
theorem World.Reachable.proposalsIndexed
    {world : World}
    (reachable : world.Reachable) :
    world.ProposalsIndexed := by
  have base : World.empty.ProposalsIndexed := Indexes.empty
  refine reachable.invariant base ?_
  intro before event after earlier indexed _ stepped
  have tracked : before.ProposalsTracked := World.Reachable.proposalsTracked earlier
  have fresh : before.stores.proposal.getProposal before.stores.nextId = none :=
    Option.map_eq_none_iff.mp tracked.absent
  refine (World.serviceStep_cases stepped).proposals_induction ?_ ?_ indexed
  · intro projectId proposal now own holds
    exact holds.createProposal fresh own
  · intro state proposalId status now holds
    exact holds.overwriteStatus proposalId status now

end Index

end SsnConsole.Backend
