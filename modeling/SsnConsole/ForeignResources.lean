import SsnConsole.BackendQueries

/-!
# Endpoints that look a resource up

The endpoints that receive the identifier of a project, a team, a proposal or a
canister, each with the rest of its arguments.  To a caller outside the
resource's organization every one of them answers with an error; which error is
computed here from its gate, its parsing and its lookup.
-/

namespace SsnConsole.Backend

open SsnConsole.MessageSlice

/-- The kinds of resources that an organization has. -/
inductive ResourceKind
  | project
  | team
  | proposal
  | canister

/-- The organization of a project, if it is stored. -/
def Stores.projectOrganization (s : Stores) (projectId : ProjectId) : Option OrgId :=
  (s.project.getProject projectId).map Project.orgId

/-- The organization whose resource an identifier names, if it names one. -/
def Stores.ownerOf (s : Stores) (uuid : Nat) : ResourceKind → Option OrgId
  | .project => s.projectOrganization ⟨uuid⟩
  | .team => (s.team.getTeam ⟨uuid⟩).map Team.orgId
  | .proposal =>
      (s.proposal.getProposal ⟨uuid⟩).bind fun proposal =>
        s.projectOrganization proposal.projectId
  | .canister => (s.canister.getCanisterProjectId ⟨uuid⟩).bind s.projectOrganization

/-- The endpoints that look a resource up, without its identifier. -/
inductive ResourceEndpoint
  | getProject
  | updateProject (name : String)
  | deleteProject
  | getTeam
  | updateTeam (name : String)
  | deleteTeam
  | addUserToTeam (userId : String)
  | getProposal
  | voteProposal (vote : Dto.Vote)
  | cancelProposal
  | updateMyCanisterName (name : Option String)
  | startMyCanister
  | stopMyCanister
  | removeMyCanister

/-- The kind of resource that an endpoint looks up. -/
def ResourceEndpoint.kind : ResourceEndpoint → ResourceKind
  | .getProject | .updateProject _ | .deleteProject => .project
  | .getTeam | .updateTeam _ | .deleteTeam | .addUserToTeam _ => .team
  | .getProposal | .voteProposal _ | .cancelProposal => .proposal
  | .updateMyCanisterName _ | .startMyCanister | .stopMyCanister | .removeMyCanister =>
      .canister

variable [Host]

/-- An identifier that names no resource of an organization of the account. -/
def Stores.Foreign (s : Stores) (userId : UserId) (resource : String) : Prop :=
  ∀ uuid kind orgId,
    Host.parseUuid resource = some uuid → s.ownerOf uuid kind = some orgId →
      s.organization.isUserInOrg userId orgId = false

namespace ResourceEndpoint

/-- What the endpoint receives: a query or an update message. -/
def submit (resource : String) : ResourceEndpoint → Query ⊕ Request
  | .getProject => .inl (.getProject resource)
  | .updateProject name => .inr (.updateProject resource name)
  | .deleteProject => .inr (.deleteProject resource)
  | .getTeam => .inl (.getTeam resource)
  | .updateTeam name => .inr (.updateTeam resource name)
  | .deleteTeam => .inr (.deleteTeam resource)
  | .addUserToTeam userId => .inr (.addUserToTeam resource userId)
  | .getProposal => .inl (.getProposal resource)
  | .voteProposal vote => .inr (.voteProposal resource vote)
  | .cancelProposal => .inr (.cancelProposal resource)
  | .updateMyCanisterName name => .inr (.updateMyCanisterName resource name)
  | .startMyCanister => .inr (.startMyCanister resource)
  | .stopMyCanister => .inr (.stopMyCanister resource)
  | .removeMyCanister => .inr (.removeMyCanister resource)

/-- What the endpoint answers, up to its first await; a query that traps has no answer. -/
def respond (receiver : ResourceEndpoint) (call : Call) (resource : String) (s : Stores) :
    Option (Except Failure Slot) :=
  match receiver.submit resource with
  | .inl query =>
      (query.answer call s).map fun answer => (answer.map Slot.ready).mapError .api
  | .inr request => some (outcome (endpoint call request) s).1

/-- The UUID of the resource, once all identifiers in the arguments are parsed. -/
def parsed (receiver : ResourceEndpoint) (resource : String) : ApiResult Nat := do
  let uuid : Nat ← (Id.tryFrom resource : ApiResult CanisterId).map Id.uuid
  match receiver with
  | .addUserToTeam userId => (Id.tryFrom userId : ApiResult UserId).map fun _ => uuid
  | _ => .ok uuid

end ResourceEndpoint

/-- The check that the endpoints of a kind of resource make first. -/
def ResourceKind.gate (call : Call) (s : Stores) : ResourceKind → ApiResult Unit
  | .proposal => assertHasPlatformAccess call s
  | _ => assertAuthenticated call.caller

/-- The error about a resource that the caller has no access to. -/
def ResourceKind.refusal (uuid : Nat) (s : Stores) : ResourceKind → ApiError
  | .project => projectNotFoundOrNoAccess ⟨uuid⟩
  | .team => teamNotFoundOrNoAccess ⟨uuid⟩
  | .proposal => proposalNotFoundOrNoAccess ⟨uuid⟩
  | .canister =>
      match s.canister.getCanisterProjectId ⟨uuid⟩ with
      | none => CanisterService.canisterNotFound ⟨uuid⟩
      | some projectId => projectNotFoundOrNoAccess projectId

/-- The error of an endpoint for a caller outside the resource's organization. -/
def ResourceEndpoint.refusal (receiver : ResourceEndpoint) (call : Call) (resource : String)
    (s : Stores) : ApiError :=
  match receiver.kind.gate call s with
  | .error error => error
  | .ok () =>
      match receiver.parsed resource with
      | .error error => error
      | .ok uuid => receiver.kind.refusal uuid s

section Outside

variable {call : Call} {userId : UserId} {s : Stores}

/-- Outside its organization a project looks as if it did not exist. -/
theorem ProjectAuth.require_eq_notFound
    {projectId : ProjectId}
    {needed : ProjectPermissions}
    (account : s.userProfile.getUserIdByPrincipal call.caller = some userId)
    (outside :
      ∀ orgId, s.projectOrganization projectId = some orgId →
        s.organization.isUserInOrg userId orgId = false) :
    ProjectAuth.require call.caller projectId needed s =
      .error (projectNotFoundOrNoAccess projectId) := by
  have known : s.userProfile.assertUserIdByPrincipal call.caller = .ok userId := by
    rw [UserProfileState.assertUserIdByPrincipal, account]
  rw [ProjectAuth.require, known]
  change ProjectAuth.forUser userId projectId needed s = _
  unfold ProjectAuth.forUser
  cases stored : s.project.getProject projectId with
  | none =>
      rfl
  | some project =>
      have foreign : s.organization.isUserInOrg userId project.orgId = false :=
        outside project.orgId (by rw [Stores.projectOrganization, stored]; rfl)
      simp only [foreign, Bool.not_false, if_true]

/-- Outside its organization a team looks as if it did not exist. -/
theorem requireTeamAccess_eq_notFound
    {teamId : TeamId}
    {needed : OrgPermissions}
    (account : s.userProfile.getUserIdByPrincipal call.caller = some userId)
    (outside :
      ∀ orgId, s.ownerOf teamId.uuid .team = some orgId →
        s.organization.isUserInOrg userId orgId = false) :
    requireTeamAccess call.caller teamId needed s = .error (teamNotFoundOrNoAccess teamId) := by
  have known : s.userProfile.assertUserIdByPrincipal call.caller = .ok userId := by
    rw [UserProfileState.assertUserIdByPrincipal, account]
  rw [requireTeamAccess, known]
  simp only [bind, Except.bind]
  cases stored : s.team.getTeam teamId with
  | none =>
      rfl
  | some team =>
      have foreign : s.organization.isUserInOrg userId team.orgId = false :=
        outside team.orgId (by rw [Stores.ownerOf, stored]; rfl)
      simp only [foreign, Bool.not_false, if_true]

/-- Outside its organization a proposal looks as if it did not exist. -/
theorem ProposalService.accessibleProposal_refuses
    {proposalId : ProposalId}
    (account : s.userProfile.getUserIdByPrincipal call.caller = some userId)
    (outside :
      ∀ orgId, s.ownerOf proposalId.uuid .proposal = some orgId →
        s.organization.isUserInOrg userId orgId = false) :
    Refuses (accessibleProposal call proposalId) s (proposalNotFoundOrNoAccess proposalId) := by
  unfold accessibleProposal
  cases stored : s.proposal.getProposal proposalId with
  | none =>
      refine Refuses.bind ?_
      exact Refuses.lookup stored
  | some proposal =>
      have denied :
          ProjectAuth.require call.caller proposal.projectId .EMPTY s =
            .error (projectNotFoundOrNoAccess proposal.projectId) :=
        ProjectAuth.require_eq_notFound account fun orgId owned =>
          outside orgId (by rw [Stores.ownerOf, stored]; exact owned)
      refine Refuses.after (Refuses.bind (Refuses.check denied).reportAs) ?_
      rw [outcome_lookup, stored]

/-- Outside its organization a canister is refused as its recorded project is. -/
theorem CanisterService.managedProject_refuses
    {canisterId : CanisterId}
    (account : s.userProfile.getUserIdByPrincipal call.caller = some userId)
    (outside :
      ∀ orgId, s.ownerOf canisterId.uuid .canister = some orgId →
        s.organization.isUserInOrg userId orgId = false) :
    Refuses (managedProject call canisterId) s
      (ResourceKind.refusal canisterId.uuid s .canister) := by
  unfold managedProject ResourceKind.refusal
  cases recorded : s.canister.getCanisterProjectId canisterId with
  | none =>
      refine Refuses.bind ?_
      exact Refuses.lookup recorded
  | some projectId =>
      have denied :
          ProjectAuth.require call.caller projectId ProjectPermissions.CANISTER_MANAGE s =
            .error (projectNotFoundOrNoAccess projectId) :=
        ProjectAuth.require_eq_notFound account fun orgId owned =>
          outside orgId (by rw [Stores.ownerOf, recorded]; exact owned)
      refine Refuses.after (Refuses.check denied) ?_
      rw [outcome_lookup, recorded]

end Outside

/-- The error about text that is no UUID. -/
def unparsable (text : String) : ApiError :=
  .clientError s!"Failed to parse UUID from string: {text}"

/-- Text that is no UUID names nothing of any kind. -/
theorem Id.tryFrom_eq_error
    {marker : Marker}
    {text : String}
    (unread : Host.parseUuid text = none) :
    (Id.tryFrom text : ApiResult (Id marker)) = .error (unparsable text) := by
  rw [Id.tryFrom, unread]
  rfl

/-- The text of a UUID names something of every kind. -/
theorem Id.tryFrom_eq_ok
    {marker : Marker}
    {text : String}
    {uuid : Nat}
    (read : Host.parseUuid text = some uuid) :
    (Id.tryFrom text : ApiResult (Id marker)) = .ok ⟨uuid⟩ := by
  rw [Id.tryFrom, read]

omit [Host] in
/-- An operation whose service refuses is refused. -/
theorem answered_refuses
    {ε : Type}
    {failure : ε → Failure}
    {error : ε}
    {service : Slice Stores ε Response}
    {s : Stores}
    (refuses : Refuses service s error) :
    Refuses (answered failure service) s (failure error) :=
  refuses.map.reportAs

/-- A message that passes its gate is refused as its service refuses. -/
theorem endpoint_refuses
    {call : Call}
    {request : Request}
    {s : Stores}
    {failure : Failure}
    (passed : gate call request s = .ok ())
    (refuses : Refuses (handle call request) s failure) :
    Refuses (endpoint call request) s failure := by
  have gated : outcome (reportAs Failure.api (check (gate call request))) s = (.ok (), s) := by
    rw [outcome_reportAs, outcome_check, passed]
  rw [Refuses, endpoint, outcome_bind, gated]
  exact refuses

namespace ResourceEndpoint

variable {call : Call} {userId : UserId} {s : Stores} {resource : String}

/-- Arguments are unparsable as soon as the resource's identifier is. -/
theorem parsed_of_unread
    {receiver : ResourceEndpoint}
    (unread : Host.parseUuid resource = none) :
    receiver.parsed resource = .error (unparsable resource) := by
  rw [parsed, Id.tryFrom_eq_error unread]
  rfl

/-- Once the resource's identifier is read, only a second identifier may be unparsable. -/
theorem parsed_of_read
    {receiver : ResourceEndpoint}
    {uuid : Nat}
    (read : Host.parseUuid resource = some uuid) :
    receiver.parsed resource =
      match receiver with
      | .addUserToTeam target => (Id.tryFrom target : ApiResult UserId).map fun _ => uuid
      | _ => .ok uuid := by
  rw [parsed, Id.tryFrom_eq_ok read]
  rfl

/-- The error about a resource that is looked up in vain. -/
private def lookupRefusal (receiver : ResourceEndpoint) (resource : String) (s : Stores) :
    ApiError :=
  match receiver.parsed resource with
  | .error error => error
  | .ok uuid => receiver.kind.refusal uuid s

/-- Before it is looked up, a resource's identifier is parsed. -/
private theorem handle_refuses_unread
    {receiver : ResourceEndpoint}
    {request : Request}
    (submitted : receiver.submit resource = .inr request)
    (unread : Host.parseUuid resource = none) :
    Refuses (handle call request) s (.api (unparsable resource)) := by
  have unnamed {marker : Marker} :
      (Id.tryFrom resource : ApiResult (Id marker)) = .error (unparsable resource) :=
    Id.tryFrom_eq_error unread
  cases receiver with
  | getProject | getTeam | getProposal =>
      cases submitted
  | updateProject | deleteProject | updateTeam | deleteTeam | addUserToTeam | cancelProposal
  | updateMyCanisterName | removeMyCanister =>
      cases submitted
      exact answered_refuses (Refuses.require unnamed).bind
  | startMyCanister | stopMyCanister =>
      cases submitted
      exact (Refuses.require unnamed).bind.reportAs
  | voteProposal vote =>
      cases submitted
      have unmapped :
          mapVoteProposalRequest resource vote = .error (unparsable resource) := by
        rw [mapVoteProposalRequest, unnamed]
        rfl
      exact (Refuses.require unmapped).bind.bind.reportAs

/-- What an endpoint answers about a foreign resource. -/
private theorem handle_refuses_foreign
    {receiver : ResourceEndpoint}
    {request : Request}
    {uuid : Nat}
    (submitted : receiver.submit resource = .inr request)
    (read : Host.parseUuid resource = some uuid)
    (account : s.userProfile.getUserIdByPrincipal call.caller = some userId)
    (foreign : s.Foreign userId resource) :
    Refuses (handle call request) s (.api (receiver.lookupRefusal resource s)) := by
  have named {marker : Marker} :
      (Id.tryFrom resource : ApiResult (Id marker)) = .ok ⟨uuid⟩ :=
    Id.tryFrom_eq_ok read
  have outside (kind : ResourceKind) (orgId : OrgId)
      (owned : s.ownerOf uuid kind = some orgId) :
      s.organization.isUserInOrg userId orgId = false :=
    foreign uuid kind orgId read owned
  rw [lookupRefusal, parsed_of_read read]
  cases receiver with
  | getProject | getTeam | getProposal =>
      cases submitted
  | updateProject | deleteProject =>
      cases submitted
      refine answered_refuses (Refuses.afterRequire named (Refuses.bind (Refuses.check ?_)))
      exact ProjectAuth.require_eq_notFound account (outside .project)
  | updateTeam | deleteTeam =>
      cases submitted
      refine answered_refuses (Refuses.afterRequire named (Refuses.bind (Refuses.check ?_)))
      exact requireTeamAccess_eq_notFound account (outside .team)
  | addUserToTeam target =>
      cases submitted
      refine answered_refuses (Refuses.afterRequire named ?_)
      cases targeted : (Id.tryFrom target : ApiResult UserId) with
      | error error =>
          simp only [targeted, Except.map]
          exact Refuses.bind (Refuses.require rfl)
      | ok targetUserId =>
          simp only [targeted, Except.map]
          refine Refuses.afterRequire rfl (Refuses.bind (Refuses.check ?_))
          exact requireTeamAccess_eq_notFound account (outside .team)
  | cancelProposal =>
      cases submitted
      refine answered_refuses (Refuses.afterRequire named (Refuses.bind ?_))
      exact ProposalService.accessibleProposal_refuses account (outside .proposal)
  | voteProposal vote =>
      cases submitted
      obtain ⟨cast, mapped⟩ :
          ∃ cast, mapVoteProposalRequest resource vote = .ok (⟨uuid⟩, cast) := by
        rw [mapVoteProposalRequest, named]
        cases vote <;> exact ⟨_, rfl⟩
      refine (Refuses.bind (Refuses.afterRequire mapped (Refuses.bind ?_))).reportAs
      exact ProposalService.accessibleProposal_refuses account (outside .proposal)
  | updateMyCanisterName | removeMyCanister =>
      cases submitted
      refine answered_refuses (Refuses.afterRequire named (Refuses.bind ?_))
      exact CanisterService.managedProject_refuses account (outside .canister)
  | startMyCanister | stopMyCanister =>
      cases submitted
      refine (Refuses.afterRequire named (Refuses.bind (Refuses.bind ?_))).reportAs
      exact CanisterService.managedProject_refuses account (outside .canister)

/-- What a query answers about a foreign resource that its gate lets through. -/
private theorem read_refuses
    {receiver : ResourceEndpoint}
    {query : Query}
    (submitted : receiver.submit resource = .inl query)
    (account : s.userProfile.getUserIdByPrincipal call.caller = some userId)
    (foreign : s.Foreign userId resource) :
    query.read call s = some (.error (receiver.lookupRefusal resource s)) := by
  unfold lookupRefusal
  rcases read : Host.parseUuid resource with _ | uuid
  · rw [parsed_of_unread read]
    have unnamed {marker : Marker} :
        (Id.tryFrom resource : ApiResult (Id marker)) = .error (unparsable resource) :=
      Id.tryFrom_eq_error read
    cases receiver <;> cases submitted <;>
      simp only [Query.read, ProjectService.getProject, TeamService.getTeam,
        ProposalService.getProposal, unnamed, bind, Except.bind]
  · have named {marker : Marker} :
        (Id.tryFrom resource : ApiResult (Id marker)) = .ok ⟨uuid⟩ :=
      Id.tryFrom_eq_ok read
    have outside (kind : ResourceKind) (orgId : OrgId)
        (owned : s.ownerOf uuid kind = some orgId) :
        s.organization.isUserInOrg userId orgId = false :=
      foreign uuid kind orgId read owned
    rw [parsed_of_read read]
    cases receiver with
    | getProject =>
        cases submitted
        have denied :
            ProjectAuth.require call.caller ⟨uuid⟩ .EMPTY s =
              .error (projectNotFoundOrNoAccess ⟨uuid⟩) :=
          ProjectAuth.require_eq_notFound account (outside .project)
        simp only [Query.read, ProjectService.getProject, named, bind, Except.bind, denied]
        rfl
    | getTeam =>
        cases submitted
        have denied :
            requireTeamAccess call.caller ⟨uuid⟩ .EMPTY s =
              .error (teamNotFoundOrNoAccess ⟨uuid⟩) :=
          requireTeamAccess_eq_notFound account (outside .team)
        simp only [Query.read, TeamService.getTeam, named, bind, Except.bind, denied]
        rfl
    | getProposal =>
        cases submitted
        simp only [Query.read, ProposalService.getProposal, named, bind, Except.bind]
        cases stored : s.proposal.getProposal ⟨uuid⟩ with
        | none =>
            rfl
        | some proposal =>
            have denied :
                ProjectAuth.require call.caller proposal.projectId .EMPTY s =
                  .error (projectNotFoundOrNoAccess proposal.projectId) :=
              ProjectAuth.require_eq_notFound account fun orgId owned =>
                outside .proposal orgId (by rw [Stores.ownerOf, stored]; exact owned)
            simp only [denied]
            rfl
    | _ =>
        cases submitted

/-- The gate of an update endpoint is the one of its kind of resource. -/
private theorem gate_request
    {receiver : ResourceEndpoint}
    {request : Request}
    (submitted : receiver.submit resource = .inr request) :
    gate call request s = receiver.kind.gate call s := by
  cases receiver <;> cases submitted <;> rfl

/-- The gate of a query is the one of its kind of resource. -/
private theorem gate_query
    {receiver : ResourceEndpoint}
    {query : Query}
    (submitted : receiver.submit resource = .inl query) :
    query.gate call s = receiver.kind.gate call s := by
  cases receiver <;> cases submitted <;> rfl

/-- To a caller outside its organization a resource is refused as computed. -/
theorem respond_eq_refusal
    {receiver : ResourceEndpoint}
    (account : s.userProfile.getUserIdByPrincipal call.caller = some userId)
    (foreign : s.Foreign userId resource) :
    receiver.respond call resource s =
      some (.error (.api (receiver.refusal call resource s))) := by
  unfold respond refusal
  cases submitted : receiver.submit resource with
  | inl query =>
      dsimp only
      rw [Query.answer, gate_query submitted]
      cases gated : receiver.kind.gate call s with
      | error error =>
          rfl
      | ok _ =>
          dsimp only
          rw [read_refuses submitted account foreign]
          rfl
  | inr request =>
      dsimp only
      cases gated : receiver.kind.gate call s with
      | error error =>
          have refuses : Refuses (endpoint call request) s (.api error) :=
            (Refuses.check ((gate_request submitted).trans gated)).reportAs.bind
          rw [refuses]
      | ok _ =>
          have passed : gate call request s = .ok () := (gate_request submitted).trans gated
          rcases read : Host.parseUuid resource with _ | uuid
          · have refuses : Refuses (endpoint call request) s (.api (unparsable resource)) :=
              endpoint_refuses passed (handle_refuses_unread submitted read)
            rw [refuses, parsed_of_unread read]
          · have refuses :=
              endpoint_refuses passed
                (handle_refuses_foreign submitted read account foreign)
            rw [refuses, lookupRefusal]

end ResourceEndpoint

end SsnConsole.Backend
