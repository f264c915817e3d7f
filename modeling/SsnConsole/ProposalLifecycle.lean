import SsnConsole.MembershipIntegrity
import SsnConsole.ProposalMoves

/-!
# The lifecycle of a proposal

A message that waits for an operation keeps its proposal executing, and there is
at most one.  Hence the operation of a proposal is issued at most once, votes are
recorded only while it is pending, and a final status stays.  The votes that are
stored with a pending proposal tell who approved it, and when.
-/

namespace SsnConsole.Backend

open SsnConsole.MessageRun
open SsnConsole.MessageSlice

/-- The proposal waits for votes. -/
def ProposalStatus.IsPending : ProposalStatus → Prop
  | .pendingApproval _ _ _ => True
  | _ => False

/-- The execution of the proposal has begun. -/
def ProposalStatus.HasBegun : ProposalStatus → Prop
  | .executing | .executed | .failed _ => True
  | _ => False

/-- Nothing remains to be done for the proposal. -/
def ProposalStatus.IsFinal : ProposalStatus → Prop
  | .rejected | .cancelled | .executed | .failed _ => True
  | _ => False

section Tracking

variable [Host]

/-- Waiting messages and statuses of proposals agree. -/
structure World.ProposalsTracked (world : World) : Prop where
  /-- Identifiers whose turn is still to come name no proposal. -/
  fresh :
    ∀ index, world.stores.drawn ≤ index →
      world.stores.proposalStatus ⟨Host.draw index⟩ = none
  /-- At most one message waits for a proposal's operation. -/
  single : ∀ proposalId, world.executions proposalId ≤ 1
  /-- A proposal whose operation a message waits for is executing. -/
  executing :
    ∀ proposalId, 0 < world.executions proposalId →
      world.stores.proposalStatus proposalId = some .executing

variable {before after : World} {event : Event} {proposalId : ProposalId}

namespace World.ProposalsTracked

/-- Nothing waits at first. -/
theorem empty : World.empty.ProposalsTracked where
  fresh index _ := by
    simp [World.empty, Stores.empty, Stores.proposalStatus, ProposalState.empty,
      ProposalState.getProposal]
  single proposalId := by
    simp [World.empty, World.executions]
  executing proposalId waiting := by
    simp [World.empty, World.executions] at waiting

/-- The next identifier names no proposal. -/
theorem absent
    (tracked : before.ProposalsTracked) :
    before.stores.proposalStatus before.stores.nextId = none :=
  tracked.fresh before.stores.drawn (le_refl _)

/-- Nothing waits for a proposal with another status. -/
theorem executions_eq_zero
    (tracked : before.ProposalsTracked)
    (idle : before.stores.proposalStatus proposalId ≠ some .executing) :
    before.executions proposalId = 0 := by
  by_contra waiting
  exact idle (tracked.executing proposalId (Nat.pos_of_ne_zero waiting))

/-- A finished execution was the only one, of an executing proposal. -/
theorem finish
    (tracked : before.ProposalsTracked)
    (executions : after.executions proposalId + 1 = before.executions proposalId) :
    after.executions proposalId = 0 ∧
      before.stores.proposalStatus proposalId = some .executing := by
  have single := tracked.single proposalId
  exact ⟨by omega, tracked.executing proposalId (by omega)⟩

end World.ProposalsTracked

omit [Host] in
/-- What an execution begins with has begun, and is executing if a message waits. -/
theorem Begun.hasBegun
    {status : ProposalStatus}
    {started : Nat}
    (begun : Begun status started) :
    status.HasBegun ∧ started ≤ 1 ∧ (0 < started → status = .executing) := by
  cases begun with
  | issued => exact ⟨trivial, le_refl _, fun _ => rfl⟩
  | refused => exact ⟨trivial, Nat.zero_le _, fun waits => (Nat.lt_irrefl 0 waits).elim⟩

omit [Host] in
/-- At most one message waits for a new proposal, which is then executing. -/
theorem Opening.started
    {s : Stores}
    {projectId : ProjectId}
    {operation : ProposalOperation}
    {status : ProposalStatus}
    {started : Nat}
    (opening : Opening s projectId operation status started) :
    started ≤ 1 ∧ (0 < started → status = .executing) := by
  cases opening with
  | leftOpen | awaiting _ _ =>
      exact ⟨Nat.zero_le _, fun waits => (Nat.lt_irrefl 0 waits).elim⟩
  | approved _ begun => exact begun.hasBegun.2

omit [Host] in
/-- At most one message waits after a vote, and the proposal is then executing. -/
theorem Decision.started
    {threshold : Nat}
    {approvers : List UserId}
    {votes : List (UserId × Vote)}
    {status : ProposalStatus}
    {started : Nat}
    (decision : Decision threshold approvers votes status started) :
    started ≤ 1 ∧ (0 < started → status = .executing) := by
  cases decision with
  | undecided | rejected =>
      exact ⟨Nat.zero_le _, fun waits => (Nat.lt_irrefl 0 waits).elim⟩
  | approved _ begun => exact begun.hasBegun.2

namespace ProposalMove

/-- A move keeps at most one message waiting, for an executing proposal. -/
theorem tracked
    (move : ProposalMove before event proposalId after)
    (tracked : before.ProposalsTracked) :
    after.executions proposalId ≤ 1 ∧
      (0 < after.executions proposalId →
        after.stores.proposalStatus proposalId = some .executing) := by
  cases move with
  | keep status executions =>
      rw [executions, status]
      exact ⟨tracked.single proposalId, tracked.executing proposalId⟩
  | create _ _ absent opening stored executions =>
      have idle := tracked.executions_eq_zero (by rw [absent]; simp)
      obtain ⟨single, executing⟩ := opening.started
      rw [executions, idle, Nat.zero_add, stored]
      exact ⟨single, fun waits => congrArg some (executing waits)⟩
  | vote _ pending _ _ decision stored executions =>
      have idle := tracked.executions_eq_zero (by rw [pending]; simp)
      obtain ⟨single, executing⟩ := decision.started
      rw [executions, idle, Nat.zero_add, stored]
      exact ⟨single, fun waits => congrArg some (executing waits)⟩
  | cancel cancellable stored executions =>
      have idle : before.executions proposalId = 0 := by
        refine tracked.executions_eq_zero ?_
        rcases cancellable with isOpen | ⟨threshold, approvers, votes, pending⟩
        · rw [isOpen]
          simp
        · rw [pending]
          simp
      rw [executions, idle]
      exact ⟨Nat.zero_le _, fun waits => (Nat.lt_irrefl 0 waits).elim⟩
  | finish _ _ executions =>
      obtain ⟨none, -⟩ := tracked.finish executions
      rw [none]
      exact ⟨Nat.zero_le _, fun waits => (Nat.lt_irrefl 0 waits).elim⟩

/-- A stored proposal stays stored; its status changes while it is open or pending, or when a
waiting message finishes it. -/
theorem next
    {status : ProposalStatus}
    (move : ProposalMove before event proposalId after)
    (stored : before.stores.proposalStatus proposalId = some status) :
    ∃ next, after.stores.proposalStatus proposalId = some next ∧
      (next = status ∨ status.IsPending ∨ (status = .open ∧ next = .cancelled) ∨
        ((next = .executed ∨ ∃ message, next = .failed message) ∧
          0 < before.executions proposalId)) := by
  cases move with
  | keep same _ =>
      exact ⟨status, same.trans stored, .inl rfl⟩
  | create _ _ absent _ _ _ =>
      rw [absent] at stored
      cases stored
  | @vote _ _ threshold approvers votes decided _ _ pending _ _ _ storedAfter _ =>
      cases pending.symm.trans stored
      exact ⟨decided, storedAfter, .inr (.inl trivial)⟩
  | cancel cancellable storedAfter _ =>
      refine ⟨.cancelled, storedAfter, .inr ?_⟩
      rcases cancellable with isOpen | ⟨threshold, approvers, votes, pending⟩
      · cases isOpen.symm.trans stored
        exact .inr (.inl ⟨rfl, rfl⟩)
      · cases pending.symm.trans stored
        exact .inl trivial
  | @finish finished isFinished storedAfter executions =>
      rw [stored] at storedAfter
      exact ⟨finished, storedAfter, .inr (.inr (.inr ⟨isFinished, by omega⟩))⟩

/-- A final status stays. -/
theorem final
    {status : ProposalStatus}
    (move : ProposalMove before event proposalId after)
    (tracked : before.ProposalsTracked)
    (stored : before.stores.proposalStatus proposalId = some status)
    (isFinal : status.IsFinal) :
    after.stores.proposalStatus proposalId = some status := by
  obtain ⟨next, storedAfter, rfl | pending | ⟨rfl, -⟩ | ⟨-, waits⟩⟩ := move.next stored
  · exact storedAfter
  · cases status <;> first | exact pending.elim | exact isFinal.elim
  · exact isFinal.elim
  · cases (tracked.executing proposalId waits).symm.trans stored
    exact isFinal.elim

/-- An execution that has begun stays begun. -/
theorem hasBegun
    {status : ProposalStatus}
    (move : ProposalMove before event proposalId after)
    (stored : before.stores.proposalStatus proposalId = some status)
    (begun : status.HasBegun) :
    ∃ next, after.stores.proposalStatus proposalId = some next ∧ next.HasBegun := by
  obtain ⟨next, storedAfter, rfl | pending | ⟨rfl, -⟩ | ⟨rfl | ⟨message, rfl⟩, -⟩⟩ :=
    move.next stored
  · exact ⟨next, storedAfter, begun⟩
  · cases status <;> first | exact pending.elim | exact begun.elim
  · exact begun.elim
  · exact ⟨.executed, storedAfter, trivial⟩
  · exact ⟨.failed message, storedAfter, trivial⟩

/-- A stored proposal that is not pending does not become pending. -/
theorem notPending
    {status : ProposalStatus}
    (move : ProposalMove before event proposalId after)
    (stored : before.stores.proposalStatus proposalId = some status)
    (notPending : ¬status.IsPending) :
    ∃ next, after.stores.proposalStatus proposalId = some next ∧ ¬next.IsPending := by
  obtain ⟨next, storedAfter, rfl | pending | ⟨-, rfl⟩ | ⟨rfl | ⟨message, rfl⟩, -⟩⟩ :=
    move.next stored
  · exact ⟨next, storedAfter, notPending⟩
  · exact (notPending pending).elim
  · exact ⟨.cancelled, storedAfter, id⟩
  · exact ⟨.executed, storedAfter, id⟩
  · exact ⟨.failed message, storedAfter, id⟩

end ProposalMove

/-- Waiting messages and statuses agree in every reachable world. -/
theorem World.Reachable.proposalsTracked
    {world : World}
    (reachable : world.Reachable) :
    world.ProposalsTracked := by
  refine reachable.invariant World.ProposalsTracked.empty ?_
  intro before event after earlier tracked _ served
  have stepped := World.serviceStep_cases served
  have moves := stepped.proposalMove tracked.absent
  refine
    { fresh := ?_
      single := fun proposalId => ((moves proposalId).tracked tracked).1
      executing := fun proposalId => ((moves proposalId).tracked tracked).2 }
  intro index later
  have drawn := stepped.drawn_le (World.Reachable.sound earlier)
  have absent := tracked.fresh index (drawn.trans later)
  cases moves ⟨Host.draw index⟩ with
  | keep status _ => exact status.trans absent
  | create creates grown _ _ _ _ =>
      obtain ⟨_, _, _, -, -, same⟩ := creates
      have sameDraw := Host.draw_injective (congrArg Id.uuid same)
      omega
  | vote _ pending _ _ _ _ _ =>
      rw [pending] at absent
      cases absent
  | cancel cancellable _ _ =>
      rw [absent] at cancellable
      simp at cancellable
  | finish _ stored _ =>
      rw [stored, absent]
      rfl

end Tracking

section Runs

variable [Host]

/-- A run of service operations and replies from a new backend. -/
abbrev ServiceRun : Type :=
  Execution World.serviceStep World.empty

namespace ServiceRun

variable (run : ServiceRun) (time : Nat) (proposalId : ProposalId)

/-- The status of a proposal at a moment of the run. -/
def statusAt : Option ProposalStatus :=
  (run.state time).stores.proposalStatus proposalId

/-- The message at `time` creates the proposal. -/
def CreatedAt (projectId : ProjectId) (operation : ProposalOperation) : Prop :=
  (run.state time).Creates (run.event time) proposalId projectId operation ∧
    run.statusAt time proposalId = none ∧ (run.statusAt (time + 1) proposalId).isSome

/-- The message at `time` issues the proposal's operation, and waits for it.  No reply does:
it continues an operation that was issued, and starts none (`executions_of_reply`). -/
def IssuedAt : Prop :=
  ∃ call request operation,
    run.event time = .message call request ∧
      (run.state (time + 1)).inFlight =
          (run.state time).inFlight ++ [.operation operation] ∧
        operation.proposalId = proposalId

/-- The message at `time` records a vote on the proposal. -/
def VotedAt (voter : UserId) (vote : Vote) : Prop :=
  (run.state time).RecordsVote (run.event time) proposalId voter vote

/-- The voter of the message at `time` passes the `PROPOSAL_APPROVE` check of the project. -/
def AuthorizedAt (voter : UserId) : Prop :=
  ∃ call proposalText vote proposal auth,
    run.event time = .message call (.voteProposal proposalText vote) ∧
      (run.state time).stores.proposal.getProposal proposalId = some proposal ∧
        ProjectAuth.require call.caller proposal.projectId
            ProjectPermissions.PROPOSAL_APPROVE (run.state time).stores = .ok auth ∧
          auth.userId = voter

/-- Enough users of the snapshot taken at `created` approved the proposal up to `time`. -/
def ApprovedByQuorum (created : Nat) (projectId : ProjectId) (threshold : Nat) : Prop :=
  ∃ voters : List UserId,
    voters.Nodup ∧ threshold ≤ voters.length ∧
      ∀ voter ∈ voters,
        voter ∈ listProjectUsersWithPermission projectId ProjectPermissions.PROPOSAL_APPROVE
            (run.state created).stores ∧
          ∃ voted, created < voted ∧ voted ≤ time ∧
            run.VotedAt voted proposalId voter .approve ∧
              run.AuthorizedAt voted proposalId voter

/-- What the policy in force at the creation asks for has happened by `time`. -/
def Approved : Prop :=
  ∃ created projectId operation,
    created ≤ time ∧ run.CreatedAt created proposalId projectId operation ∧
      (ProposalService.policyInForce projectId operation (run.state created).stores =
          .autoApprove ∨
        ∃ threshold,
          1 ≤ threshold ∧
            ProposalService.policyInForce projectId operation (run.state created).stores =
                .fixedQuorum threshold ∧
              run.ApprovedByQuorum time proposalId created projectId threshold)

/-- The life of one proposal is safe throughout the run. -/
structure LifecycleSafe : Prop where
  /-- Its operation is issued at most once. -/
  issuedOnce :
    ∀ first second,
      first < run.length → second < run.length →
        run.IssuedAt first proposalId → run.IssuedAt second proposalId → first = second
  /-- No reply starts an operation of it. -/
  continued :
    ∀ time now index reply,
      time < run.length → run.event time = .reply now index reply →
        (run.state (time + 1)).executions proposalId ≤ (run.state time).executions proposalId
  /-- Its operation is issued only once it is approved. -/
  approved :
    ∀ time, time < run.length → run.IssuedAt time proposalId → run.Approved time proposalId
  /-- No vote is recorded once it is not pending. -/
  votesPending :
    ∀ left time status,
      left ≤ time → time < run.length → run.statusAt left proposalId = some status →
        ¬status.IsPending → ∀ voter vote, ¬run.VotedAt time proposalId voter vote
  /-- A final status never changes. -/
  final :
    ∀ first last status,
      first ≤ last → last ≤ run.length → run.statusAt first proposalId = some status →
        status.IsFinal → run.statusAt last proposalId = some status

variable {run} {time} {proposalId}

/-- Waiting messages and statuses agree at every moment. -/
theorem tracked
    (within : time ≤ run.length) :
    (run.state time).ProposalsTracked :=
  World.Reachable.proposalsTracked (run.reachable within)

/-- Every step of the run moves the proposal. -/
theorem move
    (within : time < run.length) :
    ProposalMove (run.state time) (run.event time) proposalId (run.state (time + 1)) :=
  (World.serviceStep_cases (run.advances time within)).proposalMove
    (tracked within.le).absent proposalId

/-- After a reply no more messages wait for an operation of the proposal than before. -/
theorem executions_of_reply
    {now index : Nat}
    {reply : Reply}
    (within : time < run.length)
    (replied : run.event time = .reply now index reply) :
    (run.state (time + 1)).executions proposalId ≤ (run.state time).executions proposalId := by
  have moved : ProposalMove _ _ proposalId _ := move within
  cases moved with
  | keep _ executions | cancel _ _ executions =>
      exact executions.le
  | create creates _ _ _ _ _ =>
      obtain ⟨call, projectText, requested, asked, -, -⟩ := creates
      cases asked.symm.trans replied
  | vote records _ _ _ _ _ _ =>
      obtain ⟨call, proposalText, requested, cast, asked, -, -, -, -⟩ := records
      cases asked.symm.trans replied
  | finish _ _ executions =>
      exact Nat.le.intro executions

/-- What a move keeps of a status, the run keeps from then on. -/
private theorem status_persists
    {Holds : ProposalStatus → Prop}
    {first last : Nat}
    (kept :
      ∀ time status,
        time < run.length → run.statusAt time proposalId = some status → Holds status →
          ∃ next, run.statusAt (time + 1) proposalId = some next ∧ Holds next)
    (ordered : first ≤ last)
    (within : last ≤ run.length)
    (holds : ∃ status, run.statusAt first proposalId = some status ∧ Holds status) :
    ∃ status, run.statusAt last proposalId = some status ∧ Holds status := by
  refine
    @Execution.persists _ _ _ _ run
      (fun world =>
        ∃ status, world.stores.proposalStatus proposalId = some status ∧ Holds status)
      first last ?_ ordered within holds
  rintro time - early ⟨status, stored, holds⟩
  exact kept time status early stored holds

/-- A message that issues an operation leaves its proposal executing: a new one that the
policy approves, or a pending one that its last vote approved. -/
theorem issued_cases
    (within : time < run.length)
    (issued : run.IssuedAt time proposalId) :
    run.statusAt (time + 1) proposalId = some .executing ∧
      ((∃ projectId operation,
          run.CreatedAt time proposalId projectId operation ∧
            ProposalService.policyInForce projectId operation (run.state time).stores =
              .autoApprove) ∨
        ∃ voter vote threshold approvers votes,
          run.VotedAt time proposalId voter vote ∧
            run.statusAt time proposalId =
                some (.pendingApproval threshold approvers votes) ∧
              voter ∈ approvers ∧ (∀ entry ∈ votes, entry.1 ≠ voter) ∧
                ProposalState.voteOutcome threshold approvers (votes ++ [(voter, vote)]) =
                  .reachedApproval) := by
  obtain ⟨call, request, operation, -, appended, sameProposal⟩ := issued
  have waits :
      (run.state (time + 1)).executions proposalId =
        (run.state time).executions proposalId + 1 := by
    simp [World.executions, appended, InFlight.executes, sameProposal]
  have moved : ProposalMove _ _ proposalId _ := move within
  cases moved with
  | keep _ executions | cancel _ _ executions | finish _ _ executions =>
      omega
  | @create projectId created status started creates _ absent opening stored executions =>
      obtain rfl : started = 1 := by omega
      cases opening with
      | approved policy begun =>
          cases begun with
          | issued =>
              refine ⟨stored, .inl ⟨projectId, created, ⟨creates, absent, ?_⟩, policy⟩⟩
              exact Option.isSome_of_eq_some stored
  | @vote voter vote threshold approvers votes status started records pending approver fresh
      decision stored executions =>
      obtain rfl : started = 1 := by omega
      cases decision with
      | approved reached begun =>
          cases begun with
          | issued =>
              exact
                ⟨stored, .inr ⟨voter, vote, threshold, approvers, votes, records, pending,
                  approver, fresh, reached⟩⟩

/-- A recorded vote finds its proposal pending and its voter authorized. -/
theorem voted
    {voter : UserId}
    {vote : Vote}
    (votes : run.VotedAt time proposalId voter vote) :
    run.AuthorizedAt time proposalId voter ∧
      ∃ status, run.statusAt time proposalId = some status ∧ status.IsPending := by
  obtain ⟨call, proposalText, requested, cast, asked, recorded, rfl, rfl, rfl⟩ := votes
  obtain ⟨auth, threshold, approvers, votes, access, sameUser, accepted⟩ :=
    castVote_ok recorded
  refine ⟨?_, .pendingApproval threshold approvers votes, accepted.proposalStatus, trivial⟩
  exact
    ⟨call, proposalText, requested, cast.proposal, auth, asked, accepted.stored, access,
      sameUser⟩

/-- The snapshot and the votes of a pending proposal were taken since its creation. -/
structure PendingSince (run : ServiceRun) (time : Nat) (proposalId : ProposalId)
    (threshold : Nat) (approvers : List UserId) (votes : List (UserId × Vote))
    (created : Nat) (projectId : ProjectId) (operation : ProposalOperation) : Prop where
  earlier : created < time
  creation : run.CreatedAt created proposalId projectId operation
  positive : 1 ≤ threshold
  policy :
    ProposalService.policyInForce projectId operation (run.state created).stores =
      .fixedQuorum threshold
  snapshot :
    approvers =
      listProjectUsersWithPermission projectId ProjectPermissions.PROPOSAL_APPROVE
        (run.state created).stores
  distinct : (votes.map Prod.fst).Nodup
  member : ∀ entry ∈ votes, entry.1 ∈ approvers
  recorded :
    ∀ entry ∈ votes, ∃ voted,
      created < voted ∧ voted < time ∧ run.VotedAt voted proposalId entry.1 entry.2

/-- A proposal that is still pending was so before. -/
theorem PendingSince.later
    {threshold created : Nat}
    {approvers : List UserId}
    {votes : List (UserId × Vote)}
    {projectId : ProjectId}
    {operation : ProposalOperation}
    (since :
      PendingSince run time proposalId threshold approvers votes created projectId operation) :
    PendingSince run (time + 1) proposalId threshold approvers votes created projectId
      operation :=
  { since with
    earlier := since.earlier.trans (Nat.lt_succ_self _)
    recorded := by
      intro entry listed
      obtain ⟨voted, after, before, recorded⟩ := since.recorded entry listed
      exact ⟨voted, after, by omega, recorded⟩ }

/-- One more vote is recorded on a pending proposal. -/
theorem PendingSince.vote
    {threshold created : Nat}
    {approvers : List UserId}
    {votes : List (UserId × Vote)}
    {projectId : ProjectId}
    {operation : ProposalOperation}
    {voter : UserId}
    {vote : Vote}
    (since :
      PendingSince run time proposalId threshold approvers votes created projectId operation)
    (records : run.VotedAt time proposalId voter vote)
    (approver : voter ∈ approvers)
    (fresh : ∀ entry ∈ votes, entry.1 ≠ voter) :
    PendingSince run (time + 1) proposalId threshold approvers (votes ++ [(voter, vote)])
      created projectId operation where
  earlier := since.earlier.trans (Nat.lt_succ_self _)
  creation := since.creation
  positive := since.positive
  policy := since.policy
  snapshot := since.snapshot
  distinct := by
    rw [List.map_append, List.map_singleton]
    refine List.nodup_append.mpr ⟨since.distinct, List.nodup_singleton voter, ?_⟩
    intro other listed last member same
    obtain ⟨entry, stored, rfl⟩ := List.mem_map.mp listed
    exact fresh entry stored (same.trans (List.mem_singleton.mp member))
  member := by
    intro entry listed
    rcases List.mem_append.mp listed with earlier | last
    · exact since.member entry earlier
    · obtain rfl := List.mem_singleton.mp last
      exact approver
  recorded := by
    intro entry listed
    rcases List.mem_append.mp listed with earlier | last
    · obtain ⟨voted, after, before, recorded⟩ := since.recorded entry earlier
      exact ⟨voted, after, by omega, recorded⟩
    · obtain rfl := List.mem_singleton.mp last
      exact ⟨time, since.earlier, Nat.lt_succ_self _, records⟩

/-- A pending proposal has been pending since its creation, and tells its voters. -/
theorem exists_pendingSince
    {threshold : Nat}
    {approvers : List UserId}
    {votes : List (UserId × Vote)}
    (within : time ≤ run.length)
    (pending :
      run.statusAt time proposalId = some (.pendingApproval threshold approvers votes)) :
    ∃ created projectId operation,
      PendingSince run time proposalId threshold approvers votes created projectId
        operation := by
  induction time generalizing threshold approvers votes with
  | zero =>
      rw [statusAt, run.starts] at pending
      simp [World.empty, Stores.empty, Stores.proposalStatus, ProposalState.empty,
        ProposalState.getProposal] at pending
  | succ time inductionHypothesis =>
      have moved : ProposalMove (run.state time) _ proposalId _ := move within
      cases moved with
      | keep same _ =>
          obtain ⟨created, projectId, operation, since⟩ :=
            inductionHypothesis (by omega) (same.symm.trans pending)
          exact ⟨created, projectId, operation, since.later⟩
      | @create projectId operation _ _ creates _ absent opening stored _ =>
          cases stored.symm.trans pending
          cases opening with
          | awaiting policy positive =>
              have creation : run.CreatedAt time proposalId projectId operation :=
                ⟨creates, absent, Option.isSome_of_eq_some stored⟩
              exact
                ⟨time, projectId, operation,
                  { earlier := Nat.lt_succ_self _
                    creation := creation
                    positive := positive
                    policy := policy
                    snapshot := rfl
                    distinct := List.nodup_nil
                    member := by simp
                    recorded := by simp }⟩
          | approved _ begun => cases begun
      | vote records earlier approver fresh decision stored _ =>
          cases stored.symm.trans pending
          cases decision with
          | undecided =>
              obtain ⟨created, projectId, operation, since⟩ :=
                inductionHypothesis (by omega) earlier
              exact ⟨created, projectId, operation, since.vote records approver fresh⟩
          | approved _ begun => cases begun
      | cancel _ stored _ => cases stored.symm.trans pending
      | finish finished stored _ =>
          obtain ⟨_, -, ended⟩ := Option.map_eq_some_iff.mp (stored.symm.trans pending)
          rcases finished with rfl | ⟨message, rfl⟩ <;> cases ended

/-- The operation of a proposal that a message issued is not issued again. -/
private theorem not_issued_later
    {first second : Nat}
    (earlier : first < second)
    (within : second < run.length)
    (issuedFirst : run.IssuedAt first proposalId) :
    ¬run.IssuedAt second proposalId := by
  intro issuedSecond
  have executing := (issued_cases (by omega) issuedFirst).1
  obtain ⟨status, stored, begun⟩ :=
    status_persists (fun time status before stored begun => (move before).hasBegun stored begun)
      (earlier : first + 1 ≤ second) within.le ⟨.executing, executing, trivial⟩
  rcases (issued_cases within issuedSecond).2 with
    ⟨_, _, ⟨-, absent, -⟩, -⟩ | ⟨_, _, _, _, _, -, pending, -⟩
  · cases absent.symm.trans stored
  · cases pending.symm.trans stored
    exact begun

/-- The voters that a decision counted as approving are as many as the threshold asks for. -/
private theorem approvedByQuorum
    {threshold created : Nat}
    {approvers : List UserId}
    {votes : List (UserId × Vote)}
    {projectId : ProjectId}
    {operation : ProposalOperation}
    (since :
      PendingSince run (time + 1) proposalId threshold approvers votes created projectId
        operation)
    (reached : ProposalState.voteOutcome threshold approvers votes = .reachedApproval) :
    run.ApprovedByQuorum time proposalId created projectId threshold := by
  have enough : threshold ≤ countVotes votes .approve := by
    have counted : asU32 (countVotes votes .approve) ≥ threshold := by
      by_contra few
      rw [ProposalState.voteOutcome, if_neg few] at reached
      split at reached <;> cases reached
    exact counted.le.trans (Nat.mod_le _ _)
  refine
    ⟨(votes.filter fun entry => entry.2 = .approve).map Prod.fst, ?_, ?_, ?_⟩
  · exact since.distinct.sublist (List.filter_sublist.map Prod.fst)
  · rw [List.length_map]
    exact enough
  · intro voter listed
    obtain ⟨entry, counted, rfl⟩ := List.mem_map.mp listed
    obtain ⟨stored, approves⟩ := List.mem_filter.mp counted
    have approves : entry.2 = .approve := of_decide_eq_true approves
    obtain ⟨moment, after, before, recorded⟩ := since.recorded entry stored
    rw [approves] at recorded
    rw [← since.snapshot]
    exact
      ⟨since.member entry stored, moment, after, Nat.le_of_lt_succ before, recorded,
        (voted recorded).1⟩

/-- An operation is issued only once its proposal is approved. -/
private theorem approved_of_issued
    (within : time < run.length)
    (issued : run.IssuedAt time proposalId) :
    run.Approved time proposalId := by
  rcases (issued_cases within issued).2 with
    ⟨projectId, operation, creation, policy⟩ |
      ⟨voter, vote, threshold, approvers, votes, records, pending, approver, fresh, reached⟩
  · exact ⟨time, projectId, operation, le_refl _, creation, .inl policy⟩
  · obtain ⟨created, projectId, operation, before⟩ := exists_pendingSince within.le pending
    have since := before.vote records approver fresh
    exact
      ⟨created, projectId, operation, before.earlier.le, since.creation,
        .inr ⟨threshold, since.positive, since.policy, approvedByQuorum since reached⟩⟩

end ServiceRun

/-- In every run, the life of every proposal is safe. -/
theorem proposalLifecycle_safe
    (run : ServiceRun)
    (proposalId : ProposalId) :
    run.LifecycleSafe proposalId where
  issuedOnce := by
    intro first second firstWithin secondWithin issuedFirst issuedSecond
    rcases Nat.lt_trichotomy first second with earlier | same | later
    · exact (ServiceRun.not_issued_later earlier secondWithin issuedFirst issuedSecond).elim
    · exact same
    · exact (ServiceRun.not_issued_later later firstWithin issuedSecond issuedFirst).elim
  continued time now index reply within replied :=
    ServiceRun.executions_of_reply within replied
  approved time within issued := ServiceRun.approved_of_issued within issued
  votesPending := by
    intro left time status ordered within stored notPending voter vote votes
    obtain ⟨kept, storedNow, keptNotPending⟩ :=
      ServiceRun.status_persists
        (fun time status before stored notPending =>
          (ServiceRun.move before).notPending stored notPending)
        ordered within.le ⟨status, stored, notPending⟩
    obtain ⟨-, found, storedThen, pending⟩ := ServiceRun.voted votes
    cases storedNow.symm.trans storedThen
    exact keptNotPending pending
  final := by
    intro first last status ordered within stored isFinal
    have keeps :
        ∀ time kept, time < run.length → run.statusAt time proposalId = some kept →
          kept = status → ∃ next, run.statusAt (time + 1) proposalId = some next ∧
            next = status := by
      rintro time kept before storedNow rfl
      have tracked := ServiceRun.tracked before.le
      exact ⟨kept, (ServiceRun.move before).final tracked storedNow isFinal, rfl⟩
    obtain ⟨kept, storedLast, rfl⟩ :=
      ServiceRun.status_persists keeps ordered within ⟨status, stored, rfl⟩
    exact storedLast

end Runs

end SsnConsole.Backend
