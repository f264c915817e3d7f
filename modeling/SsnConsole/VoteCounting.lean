import SsnConsole.ProposalMoves
import SsnConsole.QuorumVotes
import SsnConsole.TextualHost

/-!
# Counting the votes of a proposal

`record_proposal_vote` compares the rejections with the approvers that the threshold
can spare.  In any sequence of votes this is the question whether the approvers
that have not voted could still bring the approvals to the threshold.
-/

namespace SsnConsole.Backend

open SsnConsole.QuorumVotes
open SsnConsole.StableIndex

/-- A call of `record_proposal_vote` for some proposal. -/
structure Ballot where
  voter : UserId
  vote : Vote
  now : Nat

/-- The calls so far, with what each of them returned. -/
abbrev BallotResults : Type :=
  List (Ballot × ApiResult VoteOutcome)

/-- The votes of the calls that were accepted, in order. -/
def acceptedVotes (results : BallotResults) : List (UserId × Vote) :=
  results.filterMap fun (ballot, result) =>
    match result with
    | .ok _ => some (ballot.voter, ballot.vote)
    | .error _ => none

/-- Some call had this outcome. -/
def Reached (results : BallotResults) (outcome : VoteOutcome) : Prop :=
  ∃ entry ∈ results, entry.2 = .ok outcome

/-- The status of a stored proposal. -/
def ProposalState.status (s : ProposalState) (proposalId : ProposalId) :
    Option ProposalStatus :=
  (s.getProposal proposalId).map Proposal.status

/-- Where the votes stand while no call has reached approval. -/
structure Standing
    (proposalId : ProposalId)
    (threshold : Nat)
    (approvers : List UserId)
    (results : BallotResults)
    (state : ProposalState) : Prop where
  ballots : Ballots approvers (acceptedVotes results)
  unapproved : countVotes (acceptedVotes results) .approve < threshold
  pending :
    ¬Reached results .reachedRejection →
      state.status proposalId =
        some (.pendingApproval threshold approvers (acceptedVotes results))
  rejected : Reached results .reachedRejection → state.status proposalId = some .rejected

/-- The outcome of an accepted vote and the status that it leaves, given the votes including
this one. -/
structure VoteCounted
    (threshold : Nat)
    (approvers : List UserId)
    (votes : List (UserId × Vote))
    (outcome : VoteOutcome)
    (status : Option ProposalStatus) : Prop where
  approval : outcome = .reachedApproval ↔ countVotes votes .approve = threshold
  rejection :
    outcome = .reachedRejection ↔
      countVotes votes .approve + standing approvers votes < threshold
  status :
    status =
      some
        (if outcome = .reachedRejection then .rejected
        else .pendingApproval threshold approvers votes)
  complete : votes.length = approvers.length → outcome ≠ .stillPending

/-- One more call: whether it is accepted, and what it then counts for. -/
structure BallotCounted
    (proposalId : ProposalId)
    (threshold : Nat)
    (approvers : List UserId)
    (results : BallotResults)
    (before : ProposalState)
    (ballot : Ballot)
    (called : ApiResult VoteOutcome × ProposalState) : Prop where
  standing : Standing proposalId threshold approvers results before
  /-- First votes of approvers are accepted, until the proposal is rejected. -/
  accepted :
    (∃ outcome, called.1 = .ok outcome) ↔
      ballot.voter ∈ approvers ∧ ballot.voter ∉ (acceptedVotes results).map Prod.fst ∧
        ¬Reached results .reachedRejection
  refused : ∀ error, called.1 = .error error → called.2 = before
  counted :
    ∀ outcome, called.1 = .ok outcome →
      VoteCounted threshold approvers (acceptedVotes results ++ [(ballot.voter, ballot.vote)])
        outcome (called.2.status proposalId)

section Arithmetic

/-- The votes approve and reject as many times as there are votes. -/
theorem countVotes_add_countVotes
    (votes : List (UserId × Vote)) :
    countVotes votes .approve + countVotes votes .reject = votes.length := by
  induction votes with
  | nil => rfl
  | cons entry rest inductionHypothesis =>
      rcases entry with ⟨voter, vote⟩
      cases vote <;>
        simp only [countVotes, List.filter_cons, List.length_cons] at inductionHypothesis ⊢ <;>
        simp <;>
        omega

/-- A further vote counts for what it is. -/
theorem countVotes_concat
    (votes : List (UserId × Vote))
    (voter : UserId)
    (vote wanted : Vote) :
    countVotes (votes ++ [(voter, vote)]) wanted =
      countVotes votes wanted + if vote = wanted then 1 else 0 := by
  rw [countVotes, List.filter_append, List.length_append, countVotes]
  congr 1
  by_cases same : vote = wanted <;> simp [same]

/-- The test of the code asks whether the threshold can still be reached. -/
theorem voteOutcome_eq
    {threshold : Nat}
    {approvers : List UserId}
    {votes : List (UserId × Vote)}
    (ballots : Ballots approvers votes)
    (attainable : threshold ≤ approvers.length)
    (addressable : approvers.length < 2 ^ 32) :
    ProposalState.voteOutcome threshold approvers votes =
      if threshold ≤ countVotes votes .approve then
        .reachedApproval
      else if countVotes votes .approve + standing approvers votes < threshold then
        .reachedRejection
      else
        .stillPending := by
  have counted := countVotes_add_countVotes votes
  have electorate := ballots.length_add_standing
  have approvals : asU32 (countVotes votes .approve) = countVotes votes .approve :=
    Nat.mod_eq_of_lt (by omega)
  have rejections : asU32 (countVotes votes .reject) = countVotes votes .reject :=
    Nat.mod_eq_of_lt (by omega)
  have total : asU32 approvers.length = approvers.length :=
    Nat.mod_eq_of_lt addressable
  have spare :
      countVotes votes .reject > approvers.length - threshold ↔
        countVotes votes .approve + standing approvers votes < threshold := by
    omega
  rw [ProposalState.voteOutcome, approvals, rejections, total]
  simp only [spare, ge_iff_le]

/-- An accepted vote is counted, as long as the votes before it did not approve. -/
theorem voteCounted_of_unapproved
    {threshold : Nat}
    {approvers : List UserId}
    {votes : List (UserId × Vote)}
    {voter : UserId}
    {vote : Vote}
    (ballots : Ballots approvers (votes ++ [(voter, vote)]))
    (unapproved : countVotes votes .approve < threshold)
    (attainable : threshold ≤ approvers.length)
    (addressable : approvers.length < 2 ^ 32)
    {outcome : VoteOutcome}
    (reached :
      outcome = ProposalState.voteOutcome threshold approvers (votes ++ [(voter, vote)])) :
    VoteCounted threshold approvers (votes ++ [(voter, vote)]) outcome
      (some (votedStatus threshold approvers (votes ++ [(voter, vote)]) outcome)) := by
  have electorate := ballots.length_add_standing
  have oneMore := countVotes_concat votes voter vote .approve
  have atMostOne : (if vote = .approve then 1 else 0) ≤ 1 := by
    split <;> omega
  rw [voteOutcome_eq ballots attainable addressable] at reached
  split at reached
  · rename_i enough
    subst reached
    refine ⟨iff_of_true rfl (by omega), iff_of_false (by simp) (by omega), rfl, by simp⟩
  · rename_i few
    split at reached
    · rename_i hopeless
      subst reached
      exact ⟨iff_of_false (by simp) (by omega), iff_of_true rfl hopeless, rfl, by simp⟩
    · rename_i hopeful
      subst reached
      refine ⟨iff_of_false (by simp) (by omega), iff_of_false (by simp) hopeful, rfl, ?_⟩
      intro complete
      omega

end Arithmetic

section Results

/-- An accepted call adds its vote to the accepted ones. -/
private theorem acceptedVotes_ok
    (results : BallotResults)
    (ballot : Ballot)
    (outcome : VoteOutcome) :
    acceptedVotes (results ++ [(ballot, .ok outcome)]) =
      acceptedVotes results ++ [(ballot.voter, ballot.vote)] := by
  rw [acceptedVotes, List.filterMap_append]
  rfl

/-- A refused call adds no vote. -/
private theorem acceptedVotes_error
    (results : BallotResults)
    (ballot : Ballot)
    (error : ApiError) :
    acceptedVotes (results ++ [(ballot, .error error)]) = acceptedVotes results := by
  rw [acceptedVotes, List.filterMap_append]
  exact List.append_nil _

/-- Another call reaches what was reached before, or what it returns. -/
private theorem reached_concat
    {results : BallotResults}
    {ballot : Ballot}
    {result : ApiResult VoteOutcome}
    {outcome : VoteOutcome} :
    Reached (results ++ [(ballot, result)]) outcome ↔
      Reached results outcome ∨ result = .ok outcome := by
  simp [Reached, or_and_right, exists_or]

end Results

section Calls

variable [Host]

namespace ProposalState

/-- One call, with the state it leaves. -/
def castBallot (s : ProposalState) (proposalId : ProposalId) (ballot : Ballot) :
    ApiResult VoteOutcome × ProposalState :=
  match s.recordProposalVote proposalId ballot.voter ballot.vote ballot.now with
  | .ok (outcome, after) => (.ok outcome, after)
  | .error error => (.error error, s)

/-- One call after the other, with the result of each and the last state. -/
def castBallots (s : ProposalState) (proposalId : ProposalId) :
    List Ballot → BallotResults × ProposalState
  | [] => ([], s)
  | ballot :: rest =>
      let (result, after) := s.castBallot proposalId ballot
      let (results, last) := after.castBallots proposalId rest
      ((ballot, result) :: results, last)

variable {s : ProposalState} {proposalId : ProposalId} {ballot : Ballot}
variable {threshold : Nat} {approvers : List UserId} {votes : List (UserId × Vote)}

/-- A first vote of an approver on a pending proposal is recorded. -/
theorem castBallot_accepted
    (pending : s.status proposalId = some (.pendingApproval threshold approvers votes))
    (approver : ballot.voter ∈ approvers)
    (fresh : ballot.voter ∉ votes.map Prod.fst) :
    ∃ outcome after,
      s.castBallot proposalId ballot = (.ok outcome, after) ∧
        outcome = voteOutcome threshold approvers (votes ++ [(ballot.voter, ballot.vote)]) ∧
          after.status proposalId =
            some
              (votedStatus threshold approvers (votes ++ [(ballot.voter, ballot.vote)])
                outcome) := by
  obtain ⟨proposal, stored, status⟩ := Option.map_eq_some_iff.mp pending
  have accepted :
      AcceptedVote s proposalId ballot.voter proposal threshold approvers votes := by
    refine ⟨stored, status, approver, ?_⟩
    intro entry member same
    exact fresh (List.mem_map.mpr ⟨entry, member, same⟩)
  obtain ⟨after, recorded⟩ := accepted.recordProposalVote_eq_ok ballot.vote ballot.now
  obtain ⟨_, _, _, again, -, written⟩ := recordProposalVote_ok stored recorded
  have sameStatus := again.pending.symm.trans status
  cases sameStatus
  refine ⟨_, after, ?_, rfl, ?_⟩
  · rw [castBallot, recorded]
  · rw [written, ProposalState.status, getProposal_overwriteStatus, if_pos rfl, stored]
    rfl

/-- Any other vote is refused and changes nothing. -/
theorem castBallot_refused
    (refused :
      ∀ threshold approvers votes,
        s.status proposalId = some (.pendingApproval threshold approvers votes) →
          ballot.voter ∈ approvers → ballot.voter ∈ votes.map Prod.fst) :
    ∃ error, s.castBallot proposalId ballot = (.error error, s) := by
  rw [castBallot]
  cases recorded :
      s.recordProposalVote proposalId ballot.voter ballot.vote ballot.now with
  | error error => exact ⟨error, rfl⟩
  | ok written =>
      rcases written with ⟨outcome, after⟩
      cases stored : s.getProposal proposalId with
      | none =>
          have absent : s.proposals[proposalId]? = none := stored
          rw [recordProposalVote, absent] at recorded
          cases recorded
      | some proposal =>
          obtain ⟨threshold, approvers, votes, accepted, -, -⟩ :=
            recordProposalVote_ok stored recorded
          have pending :
              s.status proposalId = some (.pendingApproval threshold approvers votes) := by
            rw [status, stored, Option.map_some, accepted.pending]
          obtain ⟨entry, member, same⟩ :=
            List.mem_map.mp (refused threshold approvers votes pending accepted.approver)
          exact (accepted.fresh entry member same).elim

/-- The calls before the last one, and then the last. -/
theorem castBallots_concat
    (s : ProposalState)
    (proposalId : ProposalId)
    (earlier : List Ballot)
    (ballot : Ballot) :
    s.castBallots proposalId (earlier ++ [ballot]) =
      let (results, before) := s.castBallots proposalId earlier
      let (result, after) := before.castBallot proposalId ballot
      (results ++ [(ballot, result)], after) := by
  induction earlier generalizing s with
  | nil => rfl
  | cons first rest inductionHypothesis =>
      rcases called : s.castBallot proposalId first with ⟨result, after⟩
      rw [List.cons_append, castBallots, castBallots, called]
      dsimp only
      rw [inductionHypothesis]
      rfl

end ProposalState

variable {s before : ProposalState} {proposalId : ProposalId}
variable {threshold : Nat} {approvers : List UserId}
variable {results : BallotResults} {ballot : Ballot}

/-- One more call is counted from where the votes stand. -/
theorem Standing.ballotCounted
    (standing : Standing proposalId threshold approvers results before)
    (attainable : threshold ≤ approvers.length)
    (addressable : approvers.length < 2 ^ 32)
    (ballot : Ballot) :
    BallotCounted proposalId threshold approvers results before ballot
      (before.castBallot proposalId ballot) := by
  by_cases admissible :
    ballot.voter ∈ approvers ∧ ballot.voter ∉ (acceptedVotes results).map Prod.fst ∧
      ¬Reached results .reachedRejection
  · obtain ⟨approver, fresh, unrejected⟩ := admissible
    obtain ⟨outcome, after, called, reached, status⟩ :=
      ProposalState.castBallot_accepted (standing.pending unrejected) approver fresh
    have counted :=
      voteCounted_of_unapproved (standing.ballots.cast approver fresh) standing.unapproved
        attainable addressable reached
    rw [called]
    refine ⟨standing, iff_of_true ⟨outcome, rfl⟩ ⟨approver, fresh, unrejected⟩, ?_, ?_⟩
    · intro error failed
      cases failed
    · intro returned same
      cases same
      dsimp only
      rw [status]
      exact counted
  · have refused :
        ∀ threshold approvers votes,
          before.status proposalId = some (.pendingApproval threshold approvers votes) →
            ballot.voter ∈ approvers → ballot.voter ∈ votes.map Prod.fst := by
      intro otherThreshold otherApprovers votes status approver
      have unrejected : ¬Reached results .reachedRejection := by
        intro rejected
        rw [standing.rejected rejected] at status
        cases status
      rw [standing.pending unrejected] at status
      cases status
      by_contra fresh
      exact admissible ⟨approver, fresh, unrejected⟩
    obtain ⟨error, called⟩ := ProposalState.castBallot_refused refused
    rw [called]
    refine ⟨standing, iff_of_false ?_ admissible, fun _ _ => rfl, ?_⟩
    · rintro ⟨outcome, accepted⟩
      cases accepted
    · intro outcome accepted
      cases accepted

omit [Host] in
/-- A refused call leaves the votes standing where they stood. -/
private theorem Standing.refused
    {state : ProposalState}
    {error : ApiError}
    (standing : Standing proposalId threshold approvers results state) :
    Standing proposalId threshold approvers (results ++ [(ballot, .error error)]) state := by
  have same : ∀ outcome,
      Reached (results ++ [(ballot, .error error)]) outcome ↔ Reached results outcome := by
    intro outcome
    rw [reached_concat]
    simp
  refine ⟨?_, ?_, ?_, ?_⟩
  · rw [acceptedVotes_error]
    exact standing.ballots
  · rw [acceptedVotes_error]
    exact standing.unapproved
  · rw [acceptedVotes_error, same]
    exact standing.pending
  · rw [same]
    exact standing.rejected

omit [Host] in
/-- A call that does not reach approval leaves votes that stand somewhere. -/
theorem BallotCounted.standing_after
    {called : ApiResult VoteOutcome × ProposalState}
    (counted :
      BallotCounted proposalId threshold approvers results before ballot called)
    (unapproved : called.1 ≠ .ok .reachedApproval) :
    Standing proposalId threshold approvers (results ++ [(ballot, called.1)]) called.2 := by
  rcases called with ⟨result, after⟩
  have standing := counted.standing
  cases result with
  | error error =>
      have unchanged : after = before := counted.refused error rfl
      rw [unchanged]
      exact standing.refused
  | ok outcome =>
      obtain ⟨approver, fresh, unrejected⟩ := counted.accepted.mp ⟨outcome, rfl⟩
      have vote := counted.counted outcome rfl
      have few := standing.unapproved
      have oneMore :=
        countVotes_concat (acceptedVotes results) ballot.voter ballot.vote .approve
      have atMostOne : (if ballot.vote = .approve then 1 else 0) ≤ 1 := by
        split <;> omega
      have notThreshold := mt vote.approval.mpr fun same => unapproved (by rw [same])
      refine ⟨?_, ?_, ?_, ?_⟩
      · rw [acceptedVotes_ok]
        exact standing.ballots.cast approver fresh
      · rw [acceptedVotes_ok]
        omega
      · intro stillUnrejected
        have pending : outcome ≠ .reachedRejection := by
          intro same
          exact stillUnrejected (reached_concat.mpr (.inr (by rw [same])))
        rw [acceptedVotes_ok, vote.status, if_neg pending]
      · intro rejected
        rcases reached_concat.mp rejected with earlier | now
        · exact (unrejected earlier).elim
        · cases now
          rw [vote.status, if_pos rfl]

/-- The votes stand somewhere after any calls that did not reach approval. -/
theorem Standing.castBallots
    (initial : Standing proposalId threshold approvers [] s)
    (attainable : threshold ≤ approvers.length)
    (addressable : approvers.length < 2 ^ 32)
    (calls : List Ballot)
    (unapproved : ¬Reached (s.castBallots proposalId calls).1 .reachedApproval) :
    Standing proposalId threshold approvers (s.castBallots proposalId calls).1
      (s.castBallots proposalId calls).2 := by
  induction calls using List.reverseRecOn with
  | nil => exact initial
  | append_singleton earlier ballot inductionHypothesis =>
      rw [ProposalState.castBallots_concat] at unapproved ⊢
      have before :=
        inductionHypothesis fun reached => unapproved (reached_concat.mpr (.inl reached))
      apply (before.ballotCounted attainable addressable ballot).standing_after
      intro approved
      exact unapproved (reached_concat.mpr (.inr approved))

/-- Whatever calls came before, as long as none reached approval, the next call on a proposal
that was pending without votes is counted.  A vector of the canister's 32-bit memory has fewer
than `2 ^ 32` items. -/
theorem votesCounted
    {proposal : Proposal}
    (stored : s.getProposal proposalId = some proposal)
    (pending : proposal.status = .pendingApproval threshold approvers [])
    (distinct : approvers.Nodup)
    (positive : 1 ≤ threshold)
    (attainable : threshold ≤ approvers.length)
    (addressable : approvers.length < 2 ^ 32)
    (earlier : List Ballot)
    (unapproved : ¬Reached (s.castBallots proposalId earlier).1 .reachedApproval)
    (ballot : Ballot) :
    BallotCounted proposalId threshold approvers (s.castBallots proposalId earlier).1
      (s.castBallots proposalId earlier).2 ballot
      ((s.castBallots proposalId earlier).2.castBallot proposalId ballot) := by
  have initial : Standing proposalId threshold approvers [] s := by
    refine ⟨Ballots.empty distinct, positive, ?_, ?_⟩
    · intro _
      rw [ProposalState.status, stored, Option.map_some, pending]
      rfl
    · rintro ⟨entry, member, -⟩
      cases member
  have standing := initial.castBallots attainable addressable earlier unapproved
  exact standing.ballotCounted attainable addressable ballot

end Calls

section TwoOfThree

open TextualHost

attribute [local instance] host

/-- A proposal that two of three approvers have to approve. -/
def twoOfThree : Proposal where
  projectId := ⟨1⟩
  proposerId := ⟨10⟩
  status := .pendingApproval 2 [⟨10⟩, ⟨11⟩, ⟨12⟩] []
  operation := .createCanister
  createdAtNanos := none
  updatedAtNanos := none

/-- The proposals, with this one among them. -/
def votedProposals : ProposalState :=
  ProposalState.empty.createProposal ⟨5⟩ ⟨1⟩ twoOfThree 0

/-- The votes before the last: a rejection, a second vote and the vote of an outsider. -/
def votesSoFar : List Ballot :=
  [⟨⟨10⟩, .reject, 1⟩, ⟨⟨10⟩, .approve, 2⟩, ⟨⟨13⟩, .approve, 3⟩]

/-- Another rejection. -/
def secondRejection : Ballot :=
  ⟨⟨11⟩, .reject, 4⟩

/-- A second rejection leaves one approver for a threshold of two. -/
theorem votesCounted_twoOfThree :
    BallotCounted ⟨5⟩ 2 [⟨10⟩, ⟨11⟩, ⟨12⟩] (votedProposals.castBallots ⟨5⟩ votesSoFar).1
        (votedProposals.castBallots ⟨5⟩ votesSoFar).2 secondRejection
        ((votedProposals.castBallots ⟨5⟩ votesSoFar).2.castBallot ⟨5⟩ secondRejection) ∧
      ((votedProposals.castBallots ⟨5⟩ votesSoFar).2.castBallot ⟨5⟩ secondRejection).1 =
        .ok .reachedRejection := by
  have stored :
      votedProposals.getProposal ⟨5⟩ =
        some { twoOfThree with createdAtNanos := some 0, updatedAtNanos := some 0 } := by
    decide +kernel
  have unapproved :
      ¬Reached (votedProposals.castBallots ⟨5⟩ votesSoFar).1 .reachedApproval := by
    unfold Reached
    decide +kernel
  have counted :=
    votesCounted stored rfl (by decide) (by decide) (by decide) (by decide) votesSoFar
      unapproved secondRejection
  exact ⟨counted, by decide +kernel⟩

end TwoOfThree

end SsnConsole.Backend
