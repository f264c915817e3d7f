import SsnConsole.BackendTransitions
import SsnConsole.PermissionFlags
import SsnConsole.TextualHost

/-!
# Which flag opens which operation

Each operation on a project, a canister, a proposal or a team asks for one
flag.  Two states that differ in nothing but the permission bits of the caller's
teams, and agree on the flag that is documented for an operation, should treat
the caller alike.  They do, except where a canister is started or stopped.
-/

namespace SsnConsole.Backend

open SsnConsole.MessageRun
open SsnConsole.MessageSlice

section Gates

variable [Host]
variable {s t : Stores} {caller : Principal}

/-- The teams that the caller's account is in. -/
def Stores.teamsOf (s : Stores) (caller : Principal) : List TeamId :=
  match s.userProfile.getUserIdByPrincipal caller with
  | some userId => s.team.listUserTeamIds userId
  | none => []

/-- Two rows are of one key: both there or both missing, with bits of their own only where
the team is the caller's. -/
structure SameRow {scope : PermissionScope} (own : Prop)
    (first second : Option (Permissions scope)) : Prop where
  present : first.isSome = second.isSome
  foreign : ¬ own → first = second

/-- Two states are equal except for the permission bits of the caller's teams. -/
structure SameExceptBits (caller : Principal) (s t : Stores) : Prop where
  frame :
    t =
      { s with
        team :=
          { s.team with
            organizationTeamPermissionsIndex := t.team.organizationTeamPermissionsIndex }
        project :=
          { s.project with
            projectTeamPermissionsIndex := t.project.projectTeamPermissionsIndex
            teamProjectPermissionsIndex := t.project.teamProjectPermissionsIndex } }
  orgTeams :
    ∀ (orgId : OrgId) (teamId : TeamId),
      SameRow (teamId ∈ s.teamsOf caller)
        s.team.organizationTeamPermissionsIndex[(orgId, teamId)]?
        t.team.organizationTeamPermissionsIndex[(orgId, teamId)]?
  projectTeams :
    ∀ (projectId : ProjectId) (teamId : TeamId),
      SameRow (teamId ∈ s.teamsOf caller)
        s.project.projectTeamPermissionsIndex[(projectId, teamId)]?
        t.project.projectTeamPermissionsIndex[(projectId, teamId)]?
  teamProjects :
    ∀ (projectId : ProjectId) (teamId : TeamId),
      SameRow (teamId ∈ s.teamsOf caller)
        s.project.teamProjectPermissionsIndex[(teamId, projectId)]?
        t.project.teamProjectPermissionsIndex[(teamId, projectId)]?

/-- A check asks for flags: two states refuse alike whatever is needed, or each lets the
caller pass exactly if it holds what is needed. -/
def AsksFor {Flag : Type}
    (verdict : Flag → Stores → ApiResult Unit)
    (holds : Flag → Stores → Bool)
    (s t : Stores) : Prop :=
  (∃ error, ∀ needed, verdict needed s = .error error ∧ verdict needed t = .error error) ∨
    ∃ lacking : Flag → ApiError,
      ∀ needed,
        verdict needed s = (if holds needed s then .ok () else .error (lacking needed)) ∧
          verdict needed t = if holds needed t then .ok () else .error (lacking needed)

/-- The operations that a documented flag opens. -/
inductive GatedOperation
  | updateProject (projectId : String) (name : String)
  | removeMyCanister (canisterId : String)
  | updateMyCanisterName (canisterId : String) (name : Option String)
  | startMyCanister (canisterId : String)
  | stopMyCanister (canisterId : String)
  | createProposal (projectId : String) (operation : Option Dto.ProposalOperation)
  | voteProposal (proposalId : String) (vote : Dto.Vote)
  | upsertApprovalPolicy
      (projectId : String) (operationType : Dto.OperationType) (policyType : Dto.PolicyType)
  | createProject (orgId : String) (name : String)
  | createTeam (orgId : String) (name : String)
  | updateTeam (teamId : String) (name : String)
  | deleteTeam (teamId : String)

namespace GatedOperation

/-- The request of an operation. -/
def request : GatedOperation → Request
  | .updateProject projectId name => .updateProject projectId name
  | .removeMyCanister canisterId => .removeMyCanister canisterId
  | .updateMyCanisterName canisterId name => .updateMyCanisterName canisterId name
  | .startMyCanister canisterId => .startMyCanister canisterId
  | .stopMyCanister canisterId => .stopMyCanister canisterId
  | .createProposal projectId operation => .createProposal projectId operation
  | .voteProposal proposalId vote => .voteProposal proposalId vote
  | .upsertApprovalPolicy projectId operationType policyType =>
      .upsertApprovalPolicy projectId operationType policyType
  | .createProject orgId name => .createProject orgId name
  | .createTeam orgId name => .createTeam orgId name
  | .updateTeam teamId name => .updateTeam teamId name
  | .deleteTeam teamId => .deleteTeam teamId

end GatedOperation

namespace GatedOperation

end GatedOperation

section TwoStates

omit [Host] in
/-- Lists of rows that are there alike are empty alike. -/
private theorem isEmpty_filterMap_congr
    {Key Value : Type}
    {first second : Key → Option Value}
    (keys : List Key)
    (present : ∀ key, (first key).isSome = (second key).isSome) :
    (keys.filterMap first).isEmpty = (keys.filterMap second).isEmpty := by
  induction keys with
  | nil =>
      rfl
  | cons key rest inductionHypothesis =>
      have same := present key
      rw [List.filterMap_cons, List.filterMap_cons]
      cases found : first key with
      | none =>
          have missing : second key = none := by
            simpa [found] using same.symm
          rw [missing]
          exact inductionHypothesis
      | some value =>
          rw [found] at same
          obtain ⟨other, foundOther⟩ := Option.isSome_iff_exists.mp same.symm
          rw [foundOther]
          rfl

namespace SameExceptBits

omit [Host] in
/-- The accounts are the same. -/
theorem userProfile
    (same : SameExceptBits caller s t) :
    t.userProfile = s.userProfile :=
  (congrArg Stores.userProfile same.frame).trans rfl

omit [Host] in
/-- The organizations and their members are the same. -/
theorem organization
    (same : SameExceptBits caller s t) :
    t.organization = s.organization :=
  (congrArg Stores.organization same.frame).trans rfl

omit [Host] in
/-- The canisters are the same. -/
theorem canister
    (same : SameExceptBits caller s t) :
    t.canister = s.canister :=
  (congrArg Stores.canister same.frame).trans rfl

omit [Host] in
/-- The proposals are the same. -/
theorem proposal
    (same : SameExceptBits caller s t) :
    t.proposal = s.proposal :=
  (congrArg Stores.proposal same.frame).trans rfl

omit [Host] in
/-- The teams are the same. -/
theorem getTeam
    (same : SameExceptBits caller s t)
    (teamId : TeamId) :
    t.team.getTeam teamId = s.team.getTeam teamId :=
  (congrArg (fun stores : Stores => stores.team.getTeam teamId) same.frame).trans rfl

omit [Host] in
/-- Everybody is in the same teams. -/
theorem listUserTeamIds
    (same : SameExceptBits caller s t)
    (userId : UserId) :
    t.team.listUserTeamIds userId = s.team.listUserTeamIds userId :=
  (congrArg (fun stores : Stores => stores.team.listUserTeamIds userId) same.frame).trans rfl

omit [Host] in
/-- The projects are the same. -/
theorem getProject
    (same : SameExceptBits caller s t)
    (projectId : ProjectId) :
    t.project.getProject projectId = s.project.getProject projectId :=
  (congrArg (fun stores : Stores => stores.project.getProject projectId) same.frame).trans rfl

omit [Host] in
/-- The same teams are linked to a project. -/
theorem hasLink
    (same : SameExceptBits caller s t)
    (teamIds : List TeamId)
    (projectId : ProjectId) :
    (t.project.aggregateTeamProjectPermissions teamIds projectId).2 =
      (s.project.aggregateTeamProjectPermissions teamIds projectId).2 := by
  have empty :=
    isEmpty_filterMap_congr teamIds fun teamId => (same.projectTeams projectId teamId).present
  exact congrArg not empty.symm

end SameExceptBits

omit [Host] in
/-- Checks and flags that agree in two states are asked for alike. -/
private theorem AsksFor.congr
    {Flag : Type}
    {verdict other : Flag → Stores → ApiResult Unit}
    {holds held : Flag → Stores → Bool}
    (asks : AsksFor verdict holds s t)
    (sameVerdict :
      ∀ needed stores, stores = s ∨ stores = t → other needed stores = verdict needed stores)
    (sameFlag :
      ∀ needed stores, stores = s ∨ stores = t → held needed stores = holds needed stores) :
    AsksFor other held s t := by
  rcases asks with ⟨error, refuses⟩ | ⟨lacking, decides⟩
  · refine .inl ⟨error, fun needed => ⟨?_, ?_⟩⟩
    · exact (sameVerdict needed s (.inl rfl)).trans (refuses needed).1
    · exact (sameVerdict needed t (.inr rfl)).trans (refuses needed).2
  · refine .inr ⟨lacking, fun needed => ⟨?_, ?_⟩⟩
    · rw [sameVerdict needed s (.inl rfl), sameFlag needed s (.inl rfl)]
      exact (decides needed).1
    · rw [sameVerdict needed t (.inr rfl), sameFlag needed t (.inr rfl)]
      exact (decides needed).2

end TwoStates

section Refusing

variable {call : Call} {error : ApiError}

end Refusing

section Documented

variable {call : Call}

omit [Host] in
/-- A check that asks for a flag on which the states agree treats them alike. -/
private theorem AsksFor.alike
    {Flag : Type}
    {verdict : Flag → Stores → ApiResult Unit}
    {holds : Flag → Stores → Bool}
    {needed : Flag}
    (asks : AsksFor verdict holds s t)
    (agree : holds needed s = holds needed t) :
    verdict needed s = verdict needed t ∧
      (verdict needed s = .ok () → holds needed s = true) := by
  rcases asks with ⟨error, refuses⟩ | ⟨lacking, decides⟩
  · obtain ⟨first, second⟩ := refuses needed
    rw [first, second]
    exact ⟨rfl, nofun⟩
  · obtain ⟨first, second⟩ := decides needed
    rw [first, second, agree]
    cases holds needed t <;> simp

end Documented

end Gates

section PermissionWrites

variable [Host]

end PermissionWrites

section ManagedCanister

open TextualHost

attribute [local instance] host

/-- A founder creates a canister and leaves its team some permissions on the project. -/
def managedCanister (permissions : Dto.ProjectPermissions) : List Event :=
  [.message (callBy founder) .createMyUserProfile,
    .message (callBy founder) (.createProposal (idText 3) (some .createCanister)),
    .reply 1700000000000000000 0 (.canisterCreated (principal 7)),
    .message (callBy founder) (.updateTeamProjectPermissions (idText 3) (idText 2) permissions)]

/-- The reading of canisters only. -/
def readOnly : Dto.ProjectPermissions :=
  ⟨false, false, false, false, false, true, false, false⟩

/-- The team keeps the reading of canisters. -/
def reading : Execution World.serviceStep World.empty :=
  .ofEvents (managedCanister readOnly) (.message (callBy founder) .createMyUserProfile)
    (by decide +kernel)

end ManagedCanister

end SsnConsole.Backend
