import SsnConsole.EndpointRuns
import SsnConsole.ListingQueries
import SsnConsole.PageWalk
import SsnConsole.ProposalIndex
import SsnConsole.TextualHost

/-!
# Following the cursors of the paged listings

`list_project_proposals` filters before it cuts a page and `list_organizations`
cuts a range of the stored organizations.  Both hand out the last identifier of a
full page as the next cursor, so that following the cursors gives every row once.
-/

namespace SsnConsole.Backend

open SsnConsole.CursorPaging
open SsnConsole.KeyedIndex
open SsnConsole.MessageRun
open SsnConsole.PageWalk
open SsnConsole.StableIndex

/-- The proposals of a project that match a filter, in the order of their identifiers. -/
def ProposalState.matchingProposals (s : ProposalState) (projectId : ProjectId)
    (filter : Proposal → Bool) : List (ProposalId × Proposal) :=
  ((prefixRows s.projectProposalsIndex projectId).filterMap fun proposalId =>
    (s.getProposal proposalId).map fun proposal => (proposalId, proposal)).filter
      fun row => filter row.2

namespace ProposalState

variable {state : ProposalState} {projectId : ProjectId} {filter : Proposal → Bool}

/-- The matching proposals are the stored ones with a row of the project. -/
theorem mem_matchingProposals
    {proposalId : ProposalId}
    {proposal : Proposal} :
    (proposalId, proposal) ∈ state.matchingProposals projectId filter ↔
      (projectId, proposalId) ∈ state.projectProposalsIndex ∧
        state.getProposal proposalId = some proposal ∧ filter proposal = true := by
  rw [matchingProposals, List.mem_filter, List.mem_filterMap]
  constructor
  · rintro ⟨⟨rowId, member, found⟩, selected⟩
    obtain ⟨stored, read, same⟩ := Option.map_eq_some_iff.mp found
    cases same
    exact ⟨mem_prefixRows.mp member, read, selected⟩
  · rintro ⟨row, stored, selected⟩
    refine ⟨⟨proposalId, mem_prefixRows.mpr row, ?_⟩, selected⟩
    rw [stored, Option.map_some]

/-- The matching proposals are listed in the order of their identifiers. -/
theorem matchingProposals_ordered :
    Ordered Prod.fst (state.matchingProposals projectId filter) := by
  have ids :
      ((prefixRows state.projectProposalsIndex projectId).filterMap fun proposalId =>
        (state.getProposal proposalId).map fun proposal =>
          (proposalId, proposal)).Pairwise fun early late =>
            compare early.1 late.1 = .lt :=
    List.pairwise_map.mp
      ((prefixRows_ordered state.projectProposalsIndex projectId).sublist
        (map_fst_lookups_sublist _))
  exact List.Pairwise.filter _ ids

/-- A page of a project's proposals is cut from the matching ones. -/
theorem listProjectProposals_eq
    (after : Option ProposalId)
    (limit : Nat) :
    state.listProjectProposals projectId after limit filter =
      (cut Prod.fst (state.matchingProposals projectId filter) limit after).rows := by
  rw [listProjectProposals, filter_lookups, List.filter_comm]
  rfl

end ProposalState

/-- A requested page has a row at least. -/
theorem pageLimit_pos
    (limit : Option Nat) :
    0 < pageLimit limit := by
  unfold pageLimit MIN_PAGINATION_LIMIT MAX_PAGINATION_LIMIT
  dsimp only
  split
  · decide
  · split <;> omega

section Listings

variable [Host]

/-- The identifiers of proposals and organizations are read back from their texts, as `Uuid`
does. -/
structure Stores.IdsReadBack (s : Stores) : Prop where
  proposal :
    ∀ proposalId : ProposalId,
      (s.proposal.getProposal proposalId).isSome → Id.tryFrom proposalId.text = .ok proposalId
  organization :
    ∀ orgId : OrgId, (s.organization.getOrg orgId).isSome → Id.tryFrom orgId.text = .ok orgId

/-- What a client makes of a listing of proposals. -/
def proposalPage (call : Call) (projectText : String)
    (statusFilter : Option (List Dto.ProposalStatusFilter)) (limit : Option Nat) (s : Stores)
    (after : Option String) : Option (Page Response String) :=
  match ProposalService.listProjectProposals call projectText statusFilter after limit s with
  | .ok listed => some ⟨listed.proposals, listed.nextCursor⟩
  | .error _ => none

/-- What a client makes of a listing of organizations. -/
def organizationPage (call : Call) (limit : Option Nat) (s : Stores)
    (after : Option String) : Option (Page Dto.AdminOrganization String) :=
  match OrganizationService.listOrganizations call after limit s with
  | .ok listed => some ⟨listed.organizations, listed.nextCursor⟩
  | .error _ => none

/-- Following the cursors ends, always alike, and gives these rows. -/
def GivesAll {ρ : Type} (fetch : Option String → Option (Page ρ String)) (rows : List ρ) :
    Prop :=
  ∃ pages,
    Walk fetch none pages ∧ (∀ others, Walk fetch none others → others = pages) ∧
      pages.flatten = rows

/-- The walk through a project's proposals is complete. -/
structure CompleteProposals (call : Call) (projectText : String) (projectId : ProjectId)
    (statusFilter : Option (List Dto.ProposalStatusFilter)) (limit : Option Nat)
    (s : Stores) (rows : List (ProposalId × Proposal)) : Prop where
  walk :
    GivesAll (proposalPage call projectText statusFilter limit s)
      (rows.map fun row => mapProposalResponse row.1 row.2)
  inOrder : Ordered Prod.fst rows
  indexed :
    ∀ proposalId proposal,
      (proposalId, proposal) ∈ rows ↔
        (projectId, proposalId) ∈ s.proposal.projectProposalsIndex ∧
          s.proposal.getProposal proposalId = some proposal ∧
            ProposalService.matchesFilters statusFilter proposal = true
  /-- In a reachable state these are the stored proposals of the project. -/
  ofProject :
    ∀ world : World, world.Reachable → world.stores = s →
      ∀ proposalId proposal,
        (proposalId, proposal) ∈ rows ↔
          s.proposal.getProposal proposalId = some proposal ∧
            proposal.projectId = projectId ∧
              ProposalService.matchesFilters statusFilter proposal = true

/-- The walk through all organizations is complete. -/
structure CompleteOrganizations (call : Call) (limit : Option Nat) (s : Stores)
    (rows : List (OrgId × Organization)) : Prop where
  walk :
    GivesAll (organizationPage call limit s)
      (rows.map fun row => OrganizationService.adminOrganization call.now s row.1 row.2)
  inOrder : Ordered Prod.fst rows
  stored :
    ∀ orgId org, (orgId, org) ∈ rows ↔ s.organization.getOrg orgId = some org

/-- The paged listings are complete for every authorized caller, filter and limit. -/
structure CompleteListings (s : Stores) : Prop where
  proposals :
    ∀ call projectText projectId auth statusFilter limit,
      Id.tryFrom projectText = .ok projectId →
        ProjectAuth.require call.caller projectId .EMPTY s = .ok auth →
          ∃ rows, CompleteProposals call projectText projectId statusFilter limit s rows
  organizations :
    ∀ call limit,
      assertStaffPerm call StaffPermissions.READ_ALL_ORGS s = .ok () →
        ∃ rows, CompleteOrganizations call limit s rows

variable {s : Stores} {call : Call}

/-- A cursor that was handed out is parsed back. -/
theorem parseCursor_text
    {marker : Marker}
    {cursor : Option (Id marker)}
    (readBack : ∀ id, cursor = some id → Id.tryFrom id.text = .ok id) :
    parseCursor (cursor.map Id.text) = .ok cursor := by
  cases cursor with
  | none => rfl
  | some id => simp [parseCursor, readBack id rfl, Except.map]

omit [Host] in
/-- A walk that some pages make gives all that they hold. -/
theorem GivesAll.of_walk
    {ρ : Type}
    {fetch : Option String → Option (Page ρ String)}
    {rows : List ρ}
    (walks : ∃ pages, Walk fetch none pages ∧ pages.flatten = rows) :
    GivesAll fetch rows := by
  obtain ⟨pages, walk, flatten⟩ := walks
  exact ⟨pages, walk, fun others other => other.unique walk, flatten⟩

/-- Each cursor of the listing of proposals is answered with the cut behind it. -/
theorem proposalPage_eq_cut
    {projectText : String}
    {projectId : ProjectId}
    {auth : ProjectAuth}
    {statusFilter : Option (List Dto.ProposalStatusFilter)}
    {limit : Option Nat}
    {cursor : Option ProposalId}
    (named : Id.tryFrom projectText = .ok projectId)
    (authorized : ProjectAuth.require call.caller projectId .EMPTY s = .ok auth)
    (readBack : ∀ id, cursor = some id → Id.tryFrom id.text = .ok id) :
    proposalPage call projectText statusFilter limit s (cursor.map Id.text) =
      some
        ((cut Prod.fst
            (s.proposal.matchingProposals projectId
              (ProposalService.matchesFilters statusFilter))
            (pageLimit limit) cursor).map
          (fun row => mapProposalResponse row.1 row.2) Id.text) := by
  have own : auth.projectId = projectId := (ProjectAuth.require_ok authorized).project
  have answered :
      ProposalService.listProjectProposals call projectText statusFilter
          (cursor.map Id.text) limit s =
        .ok
          { proposals :=
              (s.proposal.listProjectProposals projectId cursor (pageLimit limit)
                (ProposalService.matchesFilters statusFilter)).map
                  fun row => mapProposalResponse row.1 row.2
            nextCursor :=
              (nextCursor
                (s.proposal.listProjectProposals projectId cursor (pageLimit limit)
                  (ProposalService.matchesFilters statusFilter))
                (pageLimit limit)).map Id.text } := by
    rw [ProposalService.listProjectProposals, named]
    dsimp only [bind, Except.bind]
    rw [authorized, parseCursor_text readBack]
    dsimp only
    rw [own]
  rw [proposalPage, answered, ProposalState.listProjectProposals_eq]
  rfl

/-- Each cursor of the listing of organizations is answered with the cut behind it. -/
theorem organizationPage_eq_cut
    {limit : Option Nat}
    {cursor : Option OrgId}
    (permitted : assertStaffPerm call StaffPermissions.READ_ALL_ORGS s = .ok ())
    (readBack : ∀ id, cursor = some id → Id.tryFrom id.text = .ok id) :
    organizationPage call limit s (cursor.map Id.text) =
      some
        ((cut Prod.fst s.organization.organizations.toList (pageLimit limit) cursor).map
          (fun row => OrganizationService.adminOrganization call.now s row.1 row.2)
          Id.text) := by
  have answered :
      OrganizationService.listOrganizations call (cursor.map Id.text) limit s =
        .ok
          { organizations :=
              (s.organization.listAllOrgs cursor (pageLimit limit)).map
                fun row => OrganizationService.adminOrganization call.now s row.1 row.2
            nextCursor :=
              (nextCursor (s.organization.listAllOrgs cursor (pageLimit limit))
                (pageLimit limit)).map Id.text } := by
    rw [OrganizationService.listOrganizations, permitted]
    dsimp only [bind, Except.bind]
    rw [parseCursor_text readBack]
  rw [organizationPage, answered]
  rfl

/-- The walk through the proposals of a project is complete. -/
private theorem exists_completeProposals
    {projectText : String}
    {projectId : ProjectId}
    {auth : ProjectAuth}
    (readBack : s.IdsReadBack)
    (named : Id.tryFrom projectText = .ok projectId)
    (authorized : ProjectAuth.require call.caller projectId .EMPTY s = .ok auth)
    (statusFilter : Option (List Dto.ProposalStatusFilter))
    (limit : Option Nat) :
    ∃ rows, CompleteProposals call projectText projectId statusFilter limit s rows := by
  let matching :=
    s.proposal.matchingProposals projectId (ProposalService.matchesFilters statusFilter)
  have answers :
      ∀ cursor, (∀ reached, cursor = some reached → reached ∈ matching.map Prod.fst) →
        proposalPage call projectText statusFilter limit s (cursor.map Id.text) =
          some
            ((cut Prod.fst matching (pageLimit limit) cursor).map
              (fun row => mapProposalResponse row.1 row.2) Id.text) := by
    intro cursor handedOut
    apply proposalPage_eq_cut named authorized
    intro reached same
    obtain ⟨row, member, rfl⟩ := List.mem_map.mp (handedOut reached same)
    have stored := (ProposalState.mem_matchingProposals.mp member).2.1
    exact readBack.proposal row.1 (Option.isSome_of_eq_some stored)
  have walks :=
    exists_walk ProposalState.matchingProposals_ordered (pageLimit_pos limit) answers none
      (by simp)
  rw [remaining_none] at walks
  refine ⟨matching, .of_walk walks, ProposalState.matchingProposals_ordered, ?_, ?_⟩
  · intro proposalId proposal
    exact ProposalState.mem_matchingProposals
  · rintro world reachable rfl proposalId proposal
    have indexed : world.stores.proposal.Indexed := World.Reachable.proposalsIndexed reachable
    rw [ProposalState.mem_matchingProposals, indexed.mem_iff]
    constructor
    · rintro ⟨⟨other, again, own⟩, stored, selected⟩
      cases again.symm.trans stored
      exact ⟨stored, own, selected⟩
    · rintro ⟨stored, own, selected⟩
      exact ⟨⟨proposal, stored, own⟩, stored, selected⟩

/-- The walk through all organizations is complete. -/
private theorem exists_completeOrganizations
    (readBack : s.IdsReadBack)
    (permitted : assertStaffPerm call StaffPermissions.READ_ALL_ORGS s = .ok ())
    (limit : Option Nat) :
    ∃ rows, CompleteOrganizations call limit s rows := by
  let organizations := s.organization.organizations.toList
  have ordered : Ordered Prod.fst organizations := Std.ExtTreeMap.ordered_keys_toList
  have answers :
      ∀ cursor, (∀ reached, cursor = some reached → reached ∈ organizations.map Prod.fst) →
        organizationPage call limit s (cursor.map Id.text) =
          some
            ((cut Prod.fst organizations (pageLimit limit) cursor).map
              (fun row => OrganizationService.adminOrganization call.now s row.1 row.2)
              Id.text) := by
    intro cursor handedOut
    apply organizationPage_eq_cut permitted
    intro reached same
    obtain ⟨row, member, rfl⟩ := List.mem_map.mp (handedOut reached same)
    have stored := Std.ExtTreeMap.mem_toList_iff_getElem?_eq_some.mp member
    exact readBack.organization row.1 (Option.isSome_of_eq_some stored)
  have walks := exists_walk ordered (pageLimit_pos limit) answers none (by simp)
  rw [remaining_none] at walks
  refine ⟨organizations, .of_walk walks, ordered, ?_⟩
  intro orgId org
  exact Std.ExtTreeMap.mem_toList_iff_getElem?_eq_some

/-- In every state whose identifiers are read back from their texts, following the cursors of
the paged listings gives every row once and in order. -/
theorem pagedListings_complete
    (readBack : s.IdsReadBack) :
    CompleteListings s where
  proposals _ _ _ _ statusFilter limit named authorized :=
    exists_completeProposals readBack named authorized statusFilter limit
  organizations _ limit permitted := exists_completeOrganizations readBack permitted limit

/-- An identifier is read back if its UUID is. -/
theorem Id.tryFrom_text
    {marker : Marker}
    {id : Id marker}
    (readBack : Host.parseUuid (Host.uuidText id.uuid) = some id.uuid) :
    Id.tryFrom id.text = .ok id := by
  rw [Id.tryFrom, Id.text, readBack]

end Listings

section TwoProposals

open TextualHost

attribute [local instance] host

/-- An active founder creates two proposals. -/
def twoProposals : List Event :=
  [.message (callBy founder) .createMyUserProfile,
    .message (callBy operator) (.adminUpdateUserProfile (idText 0) (some .active)),
    .message (callBy founder) (.createProposal (idText 3) (some .createCanister)),
    .message (callBy founder) (.createProposal (idText 3) (some .createCanister))]

/-- The run in which they are created. -/
def twiceProposed : Execution World.endpointStep World.empty :=
  admittedRun twoProposals (.message (callBy founder) .createMyUserProfile) (by decide +kernel)

/-- The stores with the two proposals. -/
def withTwoProposals : Stores :=
  (twiceProposed.state 4).stores

/-- The founder reads them one by one, and the operator all organizations. -/
theorem pagedListings_twoProposals :
    (∃ rows,
        CompleteProposals (callBy founder) (idText 3) ⟨draw 3⟩ none (some 1) withTwoProposals
          rows) ∧
      ∃ rows, CompleteOrganizations (callBy operator) none withTwoProposals rows := by
  have proposals :
      (withTwoProposals.proposal.proposals.keys.all fun id =>
        parseUuid (uuidText id.uuid) == some id.uuid) = true := by
    decide +kernel
  have organizations :
      (withTwoProposals.organization.organizations.keys.all fun id =>
        parseUuid (uuidText id.uuid) == some id.uuid) = true := by
    decide +kernel
  have readBack : withTwoProposals.IdsReadBack := by
    constructor
    · intro proposalId stored
      have key := Std.ExtTreeMap.mem_keys.mpr (Std.ExtTreeMap.mem_iff_isSome_getElem?.mpr stored)
      exact Id.tryFrom_text (eq_of_beq (List.all_eq_true.mp proposals proposalId key))
    · intro orgId stored
      have key := Std.ExtTreeMap.mem_keys.mpr (Std.ExtTreeMap.mem_iff_isSome_getElem?.mpr stored)
      exact Id.tryFrom_text (eq_of_beq (List.all_eq_true.mp organizations orgId key))
  have named : (Id.tryFrom (idText 3) : ApiResult ProjectId) = .ok ⟨draw 3⟩ := by
    decide +kernel
  have access :
      (ProjectAuth.require founder ⟨draw 3⟩ .EMPTY withTwoProposals).isOk = true := by
    decide +kernel
  have permitted :
      assertStaffPerm (callBy operator) StaffPermissions.READ_ALL_ORGS withTwoProposals =
        .ok () := by
    decide +kernel
  have complete := pagedListings_complete readBack
  cases authorized : ProjectAuth.require founder ⟨draw 3⟩ .EMPTY withTwoProposals with
  | error error =>
      rw [authorized] at access
      cases access
  | ok auth =>
      exact
        ⟨complete.proposals (callBy founder) _ _ auth none (some 1) named authorized,
          complete.organizations (callBy operator) none permitted⟩

end TwoProposals

end SsnConsole.Backend
