import SsnConsole.BackendWorld
import SsnConsole.BackendAuthorization

/-!
# Queries

The endpoints that only read the stores: the caller's own staff permissions, and
the project, the team or the proposal that an identifier names.
-/

namespace SsnConsole.Backend

open SsnConsole.MessageSlice

/-- `map_staff_permissions`. -/
def mapStaffPermissions (perms : StaffPermissions) : Dto.StaffPermissions where
  readAllOrgs := perms.contains StaffPermissions.READ_ALL_ORGS
  writeBilling := perms.contains StaffPermissions.WRITE_BILLING
  manageUsers := perms.contains StaffPermissions.MANAGE_USERS
  readMetrics := perms.contains StaffPermissions.READ_METRICS

/-- `get_my_staff_permissions`: service principals, then accounts. -/
def StaffPermissionsService.getMyStaffPermissions (caller : Principal) (s : Stores) :
    Option Dto.StaffPermissions :=
  match s.servicePrincipal.getServicePrincipalPermissions caller with
  | some perms => some (mapStaffPermissions perms)
  | none =>
      ((s.userProfile.getUserProfileByPrincipal caller).bind
        fun (_, profile) => profile.staffPermissions).map mapStaffPermissions

variable [Host]

/-- `get_project`; without an answer where its `expect` traps. -/
def ProjectService.getProject (call : Call) (projectId : String) (s : Stores) :
    Option (ApiResult Response) :=
  let access : ApiResult ProjectAuth := do
    let projectId ← Id.tryFrom projectId
    ProjectAuth.require call.caller projectId .EMPTY s
  match access with
  | .error error => some (.error error)
  | .ok auth =>
      (s.project.getProject auth.projectId).map fun project =>
        .ok (mapProjectToResponse auth.projectId project auth.perms)

/-- `get_team`. -/
def TeamService.getTeam (call : Call) (teamId : String) (s : Stores) :
    ApiResult Response := do
  let teamId ← Id.tryFrom teamId
  let (team, _) ← requireTeamAccess call.caller teamId .EMPTY s
  .ok (mapTeamToResponse teamId team)

/-- `get_proposal`. -/
def ProposalService.getProposal (call : Call) (proposalId : String) (s : Stores) :
    ApiResult Response := do
  let proposalId ← Id.tryFrom proposalId
  match s.proposal.getProposal proposalId with
  | none => .error (proposalNotFoundOrNoAccess proposalId)
  | some proposal =>
      match ProjectAuth.require call.caller proposal.projectId .EMPTY s with
      | .error _ => .error (proposalNotFoundOrNoAccess proposalId)
      | .ok _ => .ok (mapProposalResponse proposalId proposal)

/-- The query endpoints that look an identifier up. -/
inductive Query
  | getProject (projectId : String)
  | getTeam (teamId : String)
  | getProposal (proposalId : String)

/-- The check that the endpoint of a query makes before its service. -/
def Query.gate (call : Call) (query : Query) (s : Stores) : ApiResult Unit :=
  match query with
  | .getProposal _ => assertHasPlatformAccess call s
  | _ => assertAuthenticated call.caller

/-- The service operation that a query runs. -/
def Query.read (call : Call) (query : Query) (s : Stores) : Option (ApiResult Response) :=
  match query with
  | .getProject projectId => ProjectService.getProject call projectId s
  | .getTeam teamId => some (TeamService.getTeam call teamId s)
  | .getProposal proposalId => some (ProposalService.getProposal call proposalId s)

/-- What the endpoint of a query answers. -/
def Query.answer (call : Call) (query : Query) (s : Stores) : Option (ApiResult Response) :=
  match query.gate call s with
  | .error error => some (.error error)
  | .ok () => query.read call s

/-- A project that the caller has access to is stored. -/
theorem ProjectAuth.exists_project_of_require
    {caller : Principal}
    {projectId : ProjectId}
    {needed : ProjectPermissions}
    {s : Stores}
    {auth : ProjectAuth}
    (granted : ProjectAuth.require caller projectId needed s = .ok auth) :
    ∃ project, s.project.getProject auth.projectId = some project := by
  have access := ProjectAuth.require_ok granted
  obtain ⟨project, found, -⟩ := Option.map_eq_some_iff.mp access.organization
  refine ⟨project, ?_⟩
  rw [access.project]
  exact found

/-- No query traps. -/
theorem Query.isSome_answer
    (call : Call)
    (query : Query)
    (s : Stores) :
    (query.answer call s).isSome = true := by
  unfold Query.answer
  cases query.gate call s with
  | error error =>
      rfl
  | ok _ =>
      cases query with
      | getTeam _ | getProposal _ =>
          rfl
      | getProject projectId =>
          dsimp only [Query.read, ProjectService.getProject]
          split
          · rfl
          · rename_i auth access
            obtain ⟨parsed, -, granted⟩ := bind_eq_ok.mp access
            obtain ⟨project, found⟩ := ProjectAuth.exists_project_of_require granted
            rw [found]
            rfl

end SsnConsole.Backend
