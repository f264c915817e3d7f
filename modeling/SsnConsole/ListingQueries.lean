import SsnConsole.AccountServices
import SsnConsole.CursorPaging
import SsnConsole.ProposalServices

/-!
# Listing queries

The queries that list what a caller may act on or see: the pending invites
addressed to the caller, the proposals of a project and, for staff, all
organizations.  The last two answer page by page; the cursor of a page is the
last identifier on it.
-/

namespace SsnConsole.Backend

open SsnConsole.CursorPaging
open SsnConsole.StableIndex

/-- The keys of pending invites that expire at `now_ns` or later. -/
def InviteState.pendingStatusKeys (s : InviteState) (nowNs : Nat) : List InviteStatusKey :=
  s.inviteStatusIndex.toList.filter fun ((status, expiresAt), _) =>
    decide (status = InviteStatus.pending.asU8) && decide (nowNs ≤ expiresAt)

/-- `list_pending_invites`. -/
def InviteState.listPendingInvites (s : InviteState) (nowNs : Nat) :
    List (InviteId × OrgInvite) :=
  ((s.pendingStatusKeys nowNs).map Prod.snd).filterMap fun inviteId =>
    (s.getInvite inviteId).map fun invite => (inviteId, invite)

/-- `list_project_proposals`: the first `limit` matches behind the cursor. -/
def ProposalState.listProjectProposals (s : ProposalState) (projectId : ProjectId)
    (after : Option ProposalId) (limit : Nat) (filter : Proposal → Bool) :
    List (ProposalId × Proposal) :=
  (((prefixRows s.projectProposalsIndex projectId).filter fun proposalId =>
      decide (Beyond after proposalId)).filterMap fun proposalId =>
        (s.getProposal proposalId).map fun proposal => (proposalId, proposal)).filter
      (fun row => filter row.2) |>.take limit

/-- `list_all_orgs`: the first `limit` organizations behind the cursor. -/
def OrganizationState.listAllOrgs (s : OrganizationState) (after : Option OrgId)
    (limit : Nat) : List (OrgId × Organization) :=
  pageAfter s.organizations after limit

namespace Dto

inductive ProposalStatusFilter
  | open
  | pendingApproval
  | rejected
  | cancelled
  | executing
  | executed
  | failed
  deriving DecidableEq

/-- The proposals are in the form that `map_proposal_response` gives them. -/
structure ListProjectProposalsResponse where
  proposals : List Response
  nextCursor : Option String

structure AdminOrganization where
  id : String
  name : String
  tier : PlanTier
  memberCount : Nat

structure ListOrganizationsResponse where
  organizations : List AdminOrganization
  nextCursor : Option String

end Dto

/-- `proposal_matches_status_filter`. -/
def proposalMatchesStatusFilter (proposal : Proposal) (filter : Dto.ProposalStatusFilter) :
    Bool :=
  match proposal.status, filter with
  | .open, .open => true
  | .pendingApproval _ _ _, .pendingApproval => true
  | .rejected, .rejected => true
  | .cancelled, .cancelled => true
  | .executing, .executing => true
  | .executed, .executed => true
  | .failed _, .failed => true
  | _, _ => false

/-- `map_plan_tier`. -/
def mapPlanTier : PlanTier → Dto.PlanTier
  | .free => .free
  | .pro => .pro
  | .enterprise => .enterprise

def MIN_PAGINATION_LIMIT : Nat := 1
def MAX_PAGINATION_LIMIT : Nat := 50
def DEFAULT_PAGINATION_LIMIT : Nat := 10

/-- The size of a page: the requested one or the default, clamped. -/
def pageLimit (limit : Option Nat) : Nat :=
  let requested := limit.getD DEFAULT_PAGINATION_LIMIT
  if requested < MIN_PAGINATION_LIMIT then
    MIN_PAGINATION_LIMIT
  else if requested > MAX_PAGINATION_LIMIT then
    MAX_PAGINATION_LIMIT
  else
    requested

/-- A full page may have a next one; its cursor is the last identifier. -/
def nextCursor {marker : Marker} {ρ : Type} (page : List (Id marker × ρ)) (limit : Nat) :
    Option (Id marker) :=
  if page.length = limit then page.getLast?.map Prod.fst else none

variable [Host]

/-- Parse the cursor of a request, if it has one. -/
def parseCursor {marker : Marker} : Option String → ApiResult (Option (Id marker))
  | none => .ok none
  | some text => (Id.tryFrom text).map some

namespace InviteService

/-- The rows of `list_my_invites` before they are mapped. -/
def myInvites (call : Call) (s : Stores) : ApiResult (List (InviteId × OrgInvite)) := do
  let userId ← s.userProfile.assertUserIdByPrincipal call.caller
  match s.userProfile.getUserProfileByUserId userId with
  | none => .error (UserProfileService.userProfileForUserMissing userId)
  | some profile =>
      let principals := s.userProfile.getPrincipalsByUserId userId
      .ok ((s.invite.listPendingInvites call.now).filter fun (_, invite) =>
        inviteMatchesUser invite.target userId principals profile.email profile.emailVerified)

/-- `list_my_invites`. -/
def listMyInvites (call : Call) (s : Stores) : ApiResult (List Dto.OrgInvite) :=
  (myInvites call s).map fun rows =>
    rows.map fun (inviteId, invite) =>
      mapInviteToDto inviteId invite
        (((s.organization.getOrg invite.orgId).map (·.name)).getD "")

end InviteService

namespace ProposalService

/-- Whether a proposal matches one of the requested statuses, if any are requested. -/
def matchesFilters (statusFilter : Option (List Dto.ProposalStatusFilter))
    (proposal : Proposal) : Bool :=
  match statusFilter with
  | some filters => filters.any (proposalMatchesStatusFilter proposal)
  | none => true

/-- `list_project_proposals`. -/
def listProjectProposals (call : Call) (projectId : String)
    (statusFilter : Option (List Dto.ProposalStatusFilter)) (after : Option String)
    (limit : Option Nat) (s : Stores) : ApiResult Dto.ListProjectProposalsResponse := do
  let projectId ← Id.tryFrom projectId
  let auth ← ProjectAuth.require call.caller projectId .EMPTY s
  let after ← parseCursor after
  let limit := pageLimit limit
  let proposals :=
    s.proposal.listProjectProposals auth.projectId after limit (matchesFilters statusFilter)
  .ok
    { proposals := proposals.map fun (id, proposal) => mapProposalResponse id proposal
      nextCursor := (nextCursor proposals limit).map Id.text }

end ProposalService

namespace OrganizationService

/-- An entry of the staff's list of organizations. -/
def adminOrganization (now : Nat) (s : Stores) (orgId : OrgId) (org : Organization) :
    Dto.AdminOrganization where
  id := orgId.text
  name := org.name
  tier := mapPlanTier (s.billingPlan.getOrDefault orgId now).tier
  memberCount := asU32 (s.organization.listOrgUsers orgId).length

/-- `list_organizations`. -/
def listOrganizations (call : Call) (after : Option String) (limit : Option Nat)
    (s : Stores) : ApiResult Dto.ListOrganizationsResponse := do
  assertStaffPerm call StaffPermissions.READ_ALL_ORGS s
  let after ← parseCursor after
  let limit := pageLimit limit
  let orgs := s.organization.listAllOrgs after limit
  .ok
    { organizations := orgs.map fun (orgId, org) => adminOrganization call.now s orgId org
      nextCursor := (nextCursor orgs limit).map Id.text }

end OrganizationService

end SsnConsole.Backend
