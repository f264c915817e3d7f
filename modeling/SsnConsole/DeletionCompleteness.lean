import SsnConsole.CanisterPlacement
import SsnConsole.EndpointRuns
import SsnConsole.InviteListing
import SsnConsole.ProposalIndex
import SsnConsole.TextualHost

/-!
# What a deletion leaves behind

`delete_project` clears the project stores and asks that no canister is left, but
does not reach the approval policies and the proposals.  `delete_organization`
clears the organization, team and billing stores, but does not reach the invites.
-/

namespace SsnConsole.Backend

open SsnConsole.MessageRun
open SsnConsole.MessageSlice
open SsnConsole.StableIndex

section Teams

variable {team : TeamState} {orgId : OrgId} {teamId other : TeamId} {userId : UserId}

/-- The two sides of the membership of teams mirror each other. -/
def TeamState.Mirrored (team : TeamState) : Prop :=
  ∀ teamId userId, (teamId, userId) ∈ team.teamUserIndex ↔ (userId, teamId) ∈ team.userTeamIndex

/-- The rows that are left once some teams of an organization are deleted. -/
structure TeamsDeleted (orgId : OrgId) (gone : List TeamId) (team after : TeamState) :
    Prop where
  teams : ∀ teamId, after.teams[teamId]? = if teamId ∈ gone then none else team.teams[teamId]?
  teamUser :
    ∀ teamId userId,
      (teamId, userId) ∈ after.teamUserIndex ↔
        (teamId, userId) ∈ team.teamUserIndex ∧ teamId ∉ gone
  userTeam :
    ∀ teamId userId,
      (userId, teamId) ∈ after.userTeamIndex ↔
        (userId, teamId) ∈ team.userTeamIndex ∧ teamId ∉ gone
  permissions :
    ∀ otherOrg teamId,
      after.organizationTeamPermissionsIndex[(otherOrg, teamId)]? =
        if otherOrg = orgId ∧ teamId ∈ gone then none
        else team.organizationTeamPermissionsIndex[(otherOrg, teamId)]?

/-- Removing a team's membership rows removes them on the users' side as well. -/
theorem mem_userTeamIndex_removeTeamUsers
    (mirrored : team.Mirrored) :
    (userId, other) ∈ (team.removeTeamUsers teamId).userTeamIndex ↔
      (userId, other) ∈ team.userTeamIndex ∧ other ≠ teamId :=
  mem_eraseRows_mirror mirrored

/-- One round of `delete_org_teams` deletes one team. -/
theorem TeamsDeleted.single
    (mirrored : team.Mirrored) :
    TeamsDeleted orgId [teamId] team (team.deleteOrgTeam orgId teamId) where
  teams other := by
    simp [TeamState.deleteOrgTeam, TeamState.removeTeamUsers, getElem?_erase_entry]
  teamUser other userId := by
    rw [List.mem_singleton]
    exact mem_removeTeamUsers
  userTeam other userId := by
    rw [List.mem_singleton]
    exact mem_userTeamIndex_removeTeamUsers mirrored
  permissions otherOrg other := by
    simp [TeamState.deleteOrgTeam, TeamState.removeTeamUsers, getElem?_erase_entry]

/-- Teams that are deleted one after the other are deleted together. -/
theorem TeamsDeleted.trans
    {middle after : TeamState}
    {first second : List TeamId}
    (earlier : TeamsDeleted orgId first team middle)
    (later : TeamsDeleted orgId second middle after) :
    TeamsDeleted orgId (first ++ second) team after where
  teams other := by
    rw [later.teams, earlier.teams]
    by_cases early : other ∈ first <;> by_cases late : other ∈ second <;> simp [early, late]
  teamUser other userId := by
    rw [later.teamUser, earlier.teamUser, List.mem_append, not_or, and_assoc]
  userTeam other userId := by
    rw [later.userTeam, earlier.userTeam, List.mem_append, not_or, and_assoc]
  permissions otherOrg other := by
    rw [later.permissions, earlier.permissions]
    by_cases own : otherOrg = orgId <;> by_cases early : other ∈ first <;>
      by_cases late : other ∈ second <;> simp [own, early, late]

/-- Deleting teams keeps the two sides mirrored. -/
theorem TeamsDeleted.mirrored
    {after : TeamState}
    {gone : List TeamId}
    (deleted : TeamsDeleted orgId gone team after)
    (mirrored : team.Mirrored) :
    after.Mirrored := by
  intro other userId
  rw [deleted.teamUser, deleted.userTeam, mirrored other userId]

/-- `delete_org_teams` deletes the listed teams and nothing else. -/
theorem TeamsDeleted.foldl
    (mirrored : team.Mirrored)
    (gone : List TeamId) :
    TeamsDeleted orgId gone team (gone.foldl (TeamState.deleteOrgTeam orgId) team) := by
  induction gone generalizing team with
  | nil =>
      exact
        { teams := by simp
          teamUser := by simp
          userTeam := by simp
          permissions := by simp }
  | cons first rest inductionHypothesis =>
      have single : TeamsDeleted orgId [first] team (team.deleteOrgTeam orgId first) :=
        .single mirrored
      exact single.trans (inductionHypothesis (single.mirrored mirrored))

end Teams

section Consistency

/-- The membership-graph invariants that also hold of an organization without projects, with
those of the stores that refer to projects and organizations. -/
structure Stores.GraphConsistent [Host] (s : Stores) : Prop where
  agree : s.IndexesAgree
  linked :
    ∀ projectId teamId,
      (s.graph.projectGrant projectId teamId).isSome →
        ∃ orgId,
          s.graph.projectOrg projectId = some orgId ∧ s.graph.teamOrg teamId = some orgId
  placed : s.CanistersPlaced
  proposals : s.proposal.Indexed
  invites : s.invite.Indexed

/-- Every reachable state is consistent. -/
theorem World.Reachable.graphConsistent
    [Host]
    {world : World}
    (reachable : world.Reachable) :
    world.stores.GraphConsistent where
  agree := (World.Reachable.sound reachable).agree
  linked _ _ := (World.Reachable.sound reachable).wellFormed.linked
  placed := World.Reachable.canistersPlaced reachable
  proposals := World.Reachable.proposalsIndexed reachable
  invites := (World.Reachable.invitesIndexed reachable).indexed

end Consistency

section Projects

/-- No row of any store mentions the project. -/
structure Stores.ForgetsProject (projectId : ProjectId) (s : Stores) : Prop where
  record : projectId ∉ s.project.projects
  organizationRow : ∀ orgId : OrgId, (orgId, projectId) ∉ s.project.organizationProjectIndex
  projectTeam : ∀ teamId : TeamId, (projectId, teamId) ∉ s.project.projectTeamPermissionsIndex
  teamProject : ∀ teamId : TeamId, (teamId, projectId) ∉ s.project.teamProjectPermissionsIndex
  activeCanister :
    ∀ canisterId : CanisterId, (projectId, canisterId) ∉ s.canister.activeProjectCanisterIndex
  deletedCanister :
    ∀ canisterId : CanisterId, (projectId, canisterId) ∉ s.canister.deletedProjectCanisterIndex
  canister : ∀ canisterId, s.canister.getCanisterProjectId canisterId ≠ some projectId
  policy :
    ∀ operation : OperationType,
      (projectId, operation) ∉ s.approvalPolicy.projectOperationTypeApprovalPolicyIndex
  proposalRow :
    ∀ proposalId : ProposalId, (projectId, proposalId) ∉ s.proposal.projectProposalsIndex
  proposal :
    ∀ proposalId proposal,
      s.proposal.getProposal proposalId = some proposal → proposal.projectId ≠ projectId

/-- The project has an approval policy or a proposal. -/
def Stores.HasPolicyOrProposal (projectId : ProjectId) (s : Stores) : Prop :=
  (∃ operation : OperationType,
      (projectId, operation) ∈ s.approvalPolicy.projectOperationTypeApprovalPolicyIndex) ∨
    ∃ proposalId proposal,
      s.proposal.getProposal proposalId = some proposal ∧ proposal.projectId = projectId

/-- Only rows of the project have changed. -/
structure Stores.SameOtherProjects (projectId : ProjectId) (s after : Stores) : Prop where
  rest : after = { s with project := after.project }
  record :
    ∀ other : ProjectId, other ≠ projectId →
      after.project.projects[other]? = s.project.projects[other]?
  organizationRow :
    ∀ (orgId : OrgId) (other : ProjectId), other ≠ projectId →
      ((orgId, other) ∈ after.project.organizationProjectIndex ↔
        (orgId, other) ∈ s.project.organizationProjectIndex)
  projectTeam :
    ∀ (other : ProjectId) (teamId : TeamId), other ≠ projectId →
      after.project.projectTeamPermissionsIndex[(other, teamId)]? =
        s.project.projectTeamPermissionsIndex[(other, teamId)]?
  teamProject :
    ∀ (other : ProjectId) (teamId : TeamId), other ≠ projectId →
      after.project.teamProjectPermissionsIndex[(teamId, other)]? =
        s.project.teamProjectPermissionsIndex[(teamId, other)]?

variable [Host] {s : Stores} {projectId : ProjectId} {orgId : OrgId} {project : ProjectState}

/-- Deleting a project changes only rows of the project. -/
theorem Stores.sameOtherProjects_deleteProject
    (agree : s.IndexesAgree)
    (inOrg : (s.project.getProject projectId).map Project.orgId = some orgId)
    (deleted : s.project.deleteProject projectId orgId = .ok project) :
    Stores.SameOtherProjects projectId s { s with project := project } := by
  have later : Backend.IndexesAgree s.organization s.team project :=
    Backend.IndexesAgree.deleteProject agree inOrg deleted
  obtain ⟨records, rows, links, -⟩ := ProjectState.deleteProject_ok deleted
  have projectTeam :
      ∀ (other : ProjectId) (teamId : TeamId), other ≠ projectId →
        project.projectTeamPermissionsIndex[(other, teamId)]? =
          s.project.projectTeamPermissionsIndex[(other, teamId)]? := by
    intro other teamId distinct
    rw [links, getElem?_eraseKeys_projectTeams, if_neg distinct]
  refine ⟨rfl, ?_, ?_, projectTeam, ?_⟩
  · intro other distinct
    rw [records, getElem?_erase_entry, if_neg distinct]
  · intro otherOrg other distinct
    rw [rows, mem_erase_row]
    simp [distinct]
  · intro other teamId distinct
    calc
      project.teamProjectPermissionsIndex[(teamId, other)]? =
          project.projectTeamPermissionsIndex[(other, teamId)]? :=
        later.projectTeam.symm
      _ = s.project.projectTeamPermissionsIndex[(other, teamId)]? :=
        projectTeam other teamId distinct
      _ = s.project.teamProjectPermissionsIndex[(teamId, other)]? := agree.projectTeam

/-- After a deletion, all that still mentions the project are its policies and proposals. -/
theorem Stores.forgetsProject_iff
    (consistent : s.GraphConsistent)
    (emptied : s.canister.projectHasCanisters projectId = false)
    (inOrg : (s.project.getProject projectId).map Project.orgId = some orgId)
    (deleted : s.project.deleteProject projectId orgId = .ok project) :
    Stores.ForgetsProject projectId { s with project := project } ↔
      ¬s.HasPolicyOrProposal projectId := by
  have later : Backend.IndexesAgree s.organization s.team project :=
    Backend.IndexesAgree.deleteProject consistent.agree inOrg deleted
  obtain ⟨records, -, links, -⟩ := ProjectState.deleteProject_ok deleted
  have gone : project.getProject projectId = none := by
    rw [ProjectState.getProject, records, getElem?_erase_entry, if_pos rfl]
  have unlinked :
      ∀ teamId : TeamId, project.projectTeamPermissionsIndex[(projectId, teamId)]? = none := by
    intro teamId
    rw [links, getElem?_eraseKeys_projectTeams, if_pos rfl]
  constructor
  · rintro forgets (⟨operation, row⟩ | ⟨proposalId, proposal, stored, own⟩)
    · exact forgets.policy operation row
    · exact forgets.proposal proposalId proposal stored own
  · intro nothing
    exact
      { record := by
          intro member
          rw [records] at member
          exact (mem_erase_entry.mp member).2 rfl
        organizationRow := by
          intro otherOrg row
          have belongs := later.projectRow.mp row
          rw [gone] at belongs
          cases belongs
        projectTeam := by
          intro teamId row
          rw [Std.ExtTreeMap.mem_iff_isSome_getElem?, unlinked] at row
          cases row
        teamProject := by
          intro teamId row
          rw [Std.ExtTreeMap.mem_iff_isSome_getElem?, ← later.projectTeam, unlinked] at row
          cases row
        activeCanister := (CanisterState.projectHasCanisters_eq_false.mp emptied).1
        deletedCanister := (CanisterState.projectHasCanisters_eq_false.mp emptied).2
        canister := consistent.placed.no_canister emptied
        policy operation row := nothing (.inl ⟨operation, row⟩)
        proposalRow := by
          intro proposalId row
          obtain ⟨proposal, stored, own⟩ := consistent.proposals.mem_iff.mp row
          exact nothing (.inr ⟨proposalId, proposal, stored, own⟩)
        proposal proposalId proposal stored own :=
          nothing (.inr ⟨proposalId, proposal, stored, own⟩) }

end Projects

section Organizations

/-- No row of the organization, membership, team, link, billing and invite stores mentions the
organization or a team that it had. -/
structure Stores.ForgetsOrganization (orgId : OrgId) (teams : Set TeamId) (s : Stores) :
    Prop where
  record : orgId ∉ s.organization.organizations
  organizationUser : ∀ userId : UserId, (orgId, userId) ∉ s.organization.organizationUserIndex
  userOrganization : ∀ userId : UserId, (userId, orgId) ∉ s.organization.userOrganizationIndex
  team : ∀ teamId team, s.team.getTeam teamId = some team → team.orgId ≠ orgId
  permissions : ∀ teamId : TeamId, (orgId, teamId) ∉ s.team.organizationTeamPermissionsIndex
  teamRecord : ∀ teamId ∈ teams, teamId ∉ s.team.teams
  teamUser : ∀ teamId ∈ teams, ∀ userId : UserId, (teamId, userId) ∉ s.team.teamUserIndex
  userTeam : ∀ teamId ∈ teams, ∀ userId : UserId, (userId, teamId) ∉ s.team.userTeamIndex
  teamPermissions :
    ∀ teamId ∈ teams, ∀ other : OrgId,
      (other, teamId) ∉ s.team.organizationTeamPermissionsIndex
  projectTeam :
    ∀ teamId ∈ teams, ∀ projectId : ProjectId,
      (projectId, teamId) ∉ s.project.projectTeamPermissionsIndex
  teamProject :
    ∀ teamId ∈ teams, ∀ projectId : ProjectId,
      (teamId, projectId) ∉ s.project.teamProjectPermissionsIndex
  billingPlan : orgId ∉ s.billingPlan.billingPlans
  inviteRow :
    ∀ (status : Nat × Nat) (inviteId : InviteId),
      (orgId, status, inviteId) ∉ s.invite.organizationInviteIndex
  invite : ∀ inviteId invite, s.invite.getInvite inviteId = some invite → invite.orgId ≠ orgId

/-- The organization has an invite, of whatever status. -/
def Stores.HasInvite (orgId : OrgId) (s : Stores) : Prop :=
  ∃ inviteId invite, s.invite.getInvite inviteId = some invite ∧ invite.orgId = orgId

/-- The teams of an organization. -/
def Stores.teamsOfOrg (s : Stores) (orgId : OrgId) : Set TeamId :=
  {teamId | s.graph.teamOrg teamId = some orgId}

/-- Only rows of the organization and its teams have changed. -/
structure Stores.SameOtherOrganizations (orgId : OrgId) (s after : Stores) : Prop where
  rest :
    after =
      { s with
        organization := after.organization
        team := after.team
        billingPlan := after.billingPlan }
  record :
    ∀ other : OrgId, other ≠ orgId →
      after.organization.organizations[other]? = s.organization.organizations[other]?
  organizationUser :
    ∀ (other : OrgId) (userId : UserId), other ≠ orgId →
      ((other, userId) ∈ after.organization.organizationUserIndex ↔
        (other, userId) ∈ s.organization.organizationUserIndex)
  userOrganization :
    ∀ (other : OrgId) (userId : UserId), other ≠ orgId →
      ((userId, other) ∈ after.organization.userOrganizationIndex ↔
        (userId, other) ∈ s.organization.userOrganizationIndex)
  team :
    ∀ teamId, teamId ∉ s.teamsOfOrg orgId → after.team.teams[teamId]? = s.team.teams[teamId]?
  teamUser :
    ∀ (teamId : TeamId) (userId : UserId), teamId ∉ s.teamsOfOrg orgId →
      ((teamId, userId) ∈ after.team.teamUserIndex ↔
        (teamId, userId) ∈ s.team.teamUserIndex)
  userTeam :
    ∀ (teamId : TeamId) (userId : UserId), teamId ∉ s.teamsOfOrg orgId →
      ((userId, teamId) ∈ after.team.userTeamIndex ↔
        (userId, teamId) ∈ s.team.userTeamIndex)
  permissions :
    ∀ (other : OrgId) (teamId : TeamId), other ≠ orgId →
      after.team.organizationTeamPermissionsIndex[(other, teamId)]? =
        s.team.organizationTeamPermissionsIndex[(other, teamId)]?
  billingPlan :
    ∀ other : OrgId, other ≠ orgId →
      after.billingPlan.billingPlans[other]? = s.billingPlan.billingPlans[other]?

variable [Host] {s : Stores} {orgId : OrgId} {organization : OrganizationState}

/-- The stored organizations after `delete_org`. -/
theorem OrganizationState.deleteOrg_ok
    {state after : OrganizationState}
    (deleted : state.deleteOrg orgId = .ok after) :
    after =
      { organizations := state.organizations.erase orgId
        organizationUserIndex :=
          eraseRows state.organizationUserIndex
            ((state.listOrgUsers orgId).map fun userId => (orgId, userId))
        userOrganizationIndex :=
          eraseRows state.userOrganizationIndex
            ((state.listOrgUsers orgId).map fun userId => (userId, orgId)) } := by
  unfold OrganizationState.deleteOrg at deleted
  split at deleted
  · exact (Except.ok.inj deleted).symm
  · cases deleted

/-- Deleting an organization leaves no membership row of it, and every other one. -/
theorem mem_organizationUserIndex_deleteOrg
    {state after : OrganizationState}
    (deleted : state.deleteOrg orgId = .ok after)
    (other : OrgId)
    (userId : UserId) :
    (other, userId) ∈ after.organizationUserIndex ↔
      (other, userId) ∈ state.organizationUserIndex ∧ other ≠ orgId := by
  rw [OrganizationState.deleteOrg_ok deleted]
  exact mem_eraseRows_range

/-- The same on the users' side. -/
theorem mem_userOrganizationIndex_deleteOrg
    {state after : OrganizationState}
    (mirrored :
      ∀ orgId userId,
        (orgId, userId) ∈ state.organizationUserIndex ↔
          (userId, orgId) ∈ state.userOrganizationIndex)
    (deleted : state.deleteOrg orgId = .ok after)
    (other : OrgId)
    (userId : UserId) :
    (userId, other) ∈ after.userOrganizationIndex ↔
      (userId, other) ∈ state.userOrganizationIndex ∧ other ≠ orgId := by
  rw [OrganizationState.deleteOrg_ok deleted]
  exact mem_eraseRows_mirror mirrored

omit [Host] in
/-- `delete_org_teams` deletes the teams of the organization. -/
theorem Stores.IndexesAgree.deleteOrgTeams
    (agree : s.IndexesAgree)
    (orgId : OrgId) :
    TeamsDeleted orgId (s.team.listOrgTeamIds orgId) s.team (s.team.deleteOrgTeams orgId) ∧
      ∀ teamId, teamId ∈ s.team.listOrgTeamIds orgId ↔ teamId ∈ s.teamsOfOrg orgId :=
  ⟨.foldl (fun _ _ => agree.teamUser) _, fun _ => agree.mem_listOrgTeamIds⟩

/-- The stores after an organization was deleted. -/
def Stores.withoutOrganization (s : Stores) (orgId : OrgId)
    (organization : OrganizationState) : Stores :=
  { s with
    team := s.team.deleteOrgTeams orgId
    organization := organization
    billingPlan := s.billingPlan.deletePlan orgId }

/-- Deleting an organization changes only rows of it and its teams. -/
theorem Stores.sameOtherOrganizations_withoutOrganization
    (agree : s.IndexesAgree)
    (deleted : s.organization.deleteOrg orgId = .ok organization) :
    Stores.SameOtherOrganizations orgId s (s.withoutOrganization orgId organization) := by
  obtain ⟨teams, listed⟩ := agree.deleteOrgTeams orgId
  refine ⟨rfl, ?_, ?_, ?_, ?_, ?_, ?_, ?_, ?_⟩
  · intro other distinct
    rw [Stores.withoutOrganization, OrganizationState.deleteOrg_ok deleted,
      getElem?_erase_entry, if_neg distinct]
  · intro other userId distinct
    exact
      (mem_organizationUserIndex_deleteOrg deleted other userId).trans
        (and_iff_left distinct)
  · intro other userId distinct
    exact
      (mem_userOrganizationIndex_deleteOrg (fun _ _ => agree.organizationUser) deleted other
        userId).trans (and_iff_left distinct)
  · intro teamId foreign
    exact (teams.teams teamId).trans (if_neg (mt (listed teamId).mp foreign))
  · intro teamId userId foreign
    exact
      (teams.teamUser teamId userId).trans (and_iff_left (mt (listed teamId).mp foreign))
  · intro teamId userId foreign
    exact
      (teams.userTeam teamId userId).trans (and_iff_left (mt (listed teamId).mp foreign))
  · intro other teamId distinct
    exact (teams.permissions other teamId).trans (if_neg fun own => distinct own.1)
  · intro other distinct
    rw [Stores.withoutOrganization, BillingPlanState.deletePlan, getElem?_erase_entry,
      if_neg distinct]

/-- A project listing that is empty leaves the teams of the organization unlinked. -/
theorem Stores.GraphConsistent.unlinked
    (consistent : s.GraphConsistent)
    (noProjects : s.project.orgHasProjects orgId = false)
    {teamId : TeamId}
    (own : teamId ∈ s.teamsOfOrg orgId)
    (projectId : ProjectId) :
    (projectId, teamId) ∉ s.project.projectTeamPermissionsIndex := by
  intro row
  obtain ⟨otherOrg, ofProject, ofTeam⟩ :=
    consistent.linked projectId teamId (Stores.isSome_projectGrant.mpr row)
  cases own.symm.trans ofTeam
  have listed : projectId ∈ s.project.listOrgProjectIds orgId :=
    mem_prefixRows.mpr (consistent.agree.projectRow.mpr ofProject)
  rw [ProjectState.orgHasProjects, Bool.not_eq_false', List.isEmpty_iff] at noProjects
  rw [noProjects] at listed
  cases listed

omit [Host] in
/-- A team permission row that is left is one of a team of another organization. -/
theorem Stores.IndexesAgree.permissions_deleteOrgTeams
    (agree : s.IndexesAgree)
    {other : OrgId}
    {teamId : TeamId}
    (row : (other, teamId) ∈ (s.team.deleteOrgTeams orgId).organizationTeamPermissionsIndex) :
    s.graph.teamOrg teamId = some other ∧ teamId ∉ s.teamsOfOrg orgId := by
  obtain ⟨teams, listed⟩ := agree.deleteOrgTeams orgId
  rw [Std.ExtTreeMap.mem_iff_isSome_getElem?, teams.permissions] at row
  split at row
  · cases row
  · rename_i kept
    have before := agree.teamRow.mp (Std.ExtTreeMap.mem_iff_isSome_getElem?.mpr row)
    refine ⟨before, ?_⟩
    intro own
    cases own.symm.trans before
    exact kept ⟨rfl, (listed teamId).mpr own⟩

/-- After a deletion, all that still mentions the organization are its invites. -/
theorem Stores.forgetsOrganization_iff
    (consistent : s.GraphConsistent)
    (noProjects : s.project.orgHasProjects orgId = false)
    (deleted : s.organization.deleteOrg orgId = .ok organization) :
    Stores.ForgetsOrganization orgId (s.teamsOfOrg orgId)
        (s.withoutOrganization orgId organization) ↔
      ¬s.HasInvite orgId := by
  have agree := consistent.agree
  obtain ⟨teams, listed⟩ := agree.deleteOrgTeams orgId
  have unlinked :
      ∀ teamId ∈ s.teamsOfOrg orgId, ∀ projectId : ProjectId,
        (projectId, teamId) ∉ s.project.projectTeamPermissionsIndex := by
    intro teamId own projectId
    exact consistent.unlinked noProjects own projectId
  constructor
  · rintro forgets ⟨inviteId, invite, stored, own⟩
    exact forgets.invite inviteId invite stored own
  · intro nothing
    exact
      { record := by
          intro member
          rw [Stores.withoutOrganization, OrganizationState.deleteOrg_ok deleted] at member
          exact (mem_erase_entry.mp member).2 rfl
        organizationUser := by
          intro userId row
          exact ((mem_organizationUserIndex_deleteOrg deleted orgId userId).mp row).2 rfl
        userOrganization := by
          intro userId row
          exact
            ((mem_userOrganizationIndex_deleteOrg (fun _ _ => agree.organizationUser) deleted
              orgId userId).mp row).2 rfl
        team := by
          intro teamId team stored own
          have kept := (teams.teams teamId).symm.trans stored
          split at kept
          · cases kept
          · rename_i unlisted
            apply unlisted
            apply (listed teamId).mpr
            exact Option.map_eq_some_iff.mpr ⟨team, kept, own⟩
        permissions := by
          intro teamId row
          obtain ⟨ofTeam, foreign⟩ := agree.permissions_deleteOrgTeams row
          exact foreign ofTeam
        teamRecord := by
          intro teamId own member
          rw [Std.ExtTreeMap.mem_iff_isSome_getElem?] at member
          have gone := (teams.teams teamId).trans (if_pos ((listed teamId).mpr own))
          have absent : ((s.team.deleteOrgTeams orgId).teams[teamId]?).isSome = true := member
          rw [gone] at absent
          cases absent
        teamUser := by
          intro teamId own userId row
          exact ((teams.teamUser teamId userId).mp row).2 ((listed teamId).mpr own)
        userTeam := by
          intro teamId own userId row
          exact ((teams.userTeam teamId userId).mp row).2 ((listed teamId).mpr own)
        teamPermissions := by
          intro teamId own other row
          exact (agree.permissions_deleteOrgTeams row).2 own
        projectTeam := unlinked
        teamProject := by
          intro teamId own projectId row
          rw [Std.ExtTreeMap.mem_iff_isSome_getElem?] at row
          have mirrored : ((s.project.projectTeamPermissionsIndex[(projectId, teamId)]?)).isSome := by
            rw [agree.projectTeam]
            exact row
          exact
            unlinked teamId own projectId (Std.ExtTreeMap.mem_iff_isSome_getElem?.mpr mirrored)
        billingPlan := by
          intro member
          exact (mem_erase_entry.mp member).2 rfl
        inviteRow := by
          intro status inviteId row
          obtain ⟨otherId, invite, stored, key⟩ := (consistent.invites.organization _).mp row
          cases key
          exact nothing ⟨_, invite, stored, rfl⟩
        invite := by
          intro inviteId invite stored own
          exact nothing ⟨inviteId, invite, stored, own⟩ }

end Organizations

section Completeness

variable [Host] {s after : Stores} {call : Call}

/-- Whether the deletions that succeed in a state are complete. -/
structure DeletionCompleteness (s : Stores) : Prop where
  project :
    ∀ call projectText projectId response after,
      Id.tryFrom projectText = .ok projectId →
        outcome (ProjectService.deleteProject call projectText) s = (.ok response, after) →
          (after.ForgetsProject projectId ↔ ¬s.HasPolicyOrProposal projectId) ∧
            Stores.SameOtherProjects projectId s after
  organization :
    ∀ call orgText orgId response after,
      Id.tryFrom orgText = .ok orgId →
        outcome (OrganizationService.deleteOrganization call orgText) s =
            (.ok response, after) →
          (after.ForgetsOrganization orgId (s.teamsOfOrg orgId) ↔ ¬s.HasInvite orgId) ∧
            Stores.SameOtherOrganizations orgId s after

/-- What a successful `delete_organization` rests on and writes. -/
theorem OrganizationService.deleteOrganization_ok
    {orgText : String}
    {orgId : OrgId}
    {response : Response}
    (named : Id.tryFrom orgText = .ok orgId)
    (deleted : outcome (deleteOrganization call orgText) s = (.ok response, after)) :
    s.project.orgHasProjects orgId = false ∧
      ∃ organization,
        s.organization.deleteOrg orgId = .ok organization ∧
          after = s.withoutOrganization orgId organization := by
  have ends :
      Ends (deleteOrganization call orgText) s
        (fun _ after =>
          s.project.orgHasProjects orgId = false ∧
            ∃ organization,
              s.organization.deleteOrg orgId = .ok organization ∧
                after = s.withoutOrganization orgId organization)
        (fun _ _ => True) := by
    simp only [deleteOrganization, ends_bind, ends_require, ends_check, ends_rejectIf,
      ends_write, ends_tryWrite, ends_pure, map_eq_ok, map_eq_error, implies_true, and_true]
    intro otherOrg parsed auth accepted another noProjects
    cases named.symm.trans parsed
    have own : auth.orgId = orgId := (OrgAuth.require_ok accepted).holds.organization
    rw [own] at noProjects ⊢
    rintro _ ⟨organization, written, rfl⟩
    exact ⟨noProjects, organization, written, rfl⟩
  exact ends.of_ok deleted

/-- In every consistent state, a successful `delete_project` is complete exactly if the project
had no approval policy and no proposal, and a successful `delete_organization` exactly if the
organization had no invite; other rows stay. -/
theorem deletions_complete_iff
    (consistent : s.GraphConsistent) :
    DeletionCompleteness s where
  project := by
    intro call projectText projectId response after named deleted
    have write :=
      (ProjectService.deleteProject_settles call projectText s).of_ok deleted
    cases write with
    | alreadyDone done => cases done
    | deleteProject parsed granted _ emptied removed =>
        cases named.symm.trans parsed
        rw [granted.project] at emptied removed
        exact
          ⟨Stores.forgetsProject_iff consistent emptied granted.organization removed,
            Stores.sameOtherProjects_deleteProject consistent.agree granted.organization
              removed⟩
  organization := by
    intro call orgText orgId response after named deleted
    obtain ⟨noProjects, organization, removed, rfl⟩ :=
      OrganizationService.deleteOrganization_ok named deleted
    exact
      ⟨Stores.forgetsOrganization_iff consistent noProjects removed,
        Stores.sameOtherOrganizations_withoutOrganization consistent.agree removed⟩

/-- A consistent state stays consistent when a project is deleted, be it the last one. -/
theorem Stores.GraphConsistent.deleteProject
    {projectId : ProjectId}
    {orgId : OrgId}
    {project : ProjectState}
    (consistent : s.GraphConsistent)
    (inOrg : (s.project.getProject projectId).map Project.orgId = some orgId)
    (deleted : s.project.deleteProject projectId orgId = .ok project) :
    { s with project := project : Stores }.GraphConsistent where
  agree := Backend.IndexesAgree.deleteProject consistent.agree inOrg deleted
  linked := by
    intro otherProject teamId row
    have same := Stores.sameOtherProjects_deleteProject consistent.agree inOrg deleted
    obtain ⟨records, -, links, -⟩ := ProjectState.deleteProject_ok deleted
    have distinct : otherProject ≠ projectId := by
      rintro rfl
      have linked := Stores.isSome_projectGrant.mp row
      rw [Std.ExtTreeMap.mem_iff_isSome_getElem?, links, getElem?_eraseKeys_projectTeams,
        if_pos rfl] at linked
      cases linked
    have before : (s.graph.projectGrant otherProject teamId).isSome := by
      have linked := Stores.isSome_projectGrant.mp row
      rw [Std.ExtTreeMap.mem_iff_isSome_getElem?, same.projectTeam _ _ distinct] at linked
      exact Stores.isSome_projectGrant.mpr (Std.ExtTreeMap.mem_iff_isSome_getElem?.mpr linked)
    obtain ⟨otherOrg, ofProject, ofTeam⟩ := consistent.linked otherProject teamId before
    refine ⟨otherOrg, ?_, ofTeam⟩
    obtain ⟨stored, found, own⟩ := Option.map_eq_some_iff.mp ofProject
    exact Option.map_eq_some_iff.mpr ⟨stored, (same.record _ distinct).trans found, own⟩
  placed := consistent.placed.of_same rfl (le_refl _)
  proposals := consistent.proposals
  invites := consistent.invites

end Completeness

section TwoOrganizations

open TextualHost

attribute [local instance] host

/-- A founder has two organizations, and two projects in the first. -/
def foundings : List Event :=
  [.message (callBy founder) .createMyUserProfile,
    .message (callBy founder) (.createOrganization "Second"),
    .message (callBy founder) (.createProject (idText 1) "Platform")]

/-- The run in which they are founded. -/
def twoOrganizations : Execution World.endpointStep World.empty :=
  admittedRun foundings (.message (callBy founder) .createMyUserProfile) (by decide +kernel)

/-- The stores with both organizations. -/
def founded : Stores :=
  (twoOrganizations.state 3).stores

/-- The stores in which the second organization has lost its project. -/
def withoutSecondProject : Stores :=
  match founded.project.deleteProject ⟨draw 8⟩ ⟨draw 6⟩ with
  | .ok project => { founded with project := project }
  | .error _ => founded

/-- The stores with both organizations are consistent. -/
private theorem founded_consistent : founded.GraphConsistent :=
  World.Reachable.graphConsistent (.of_endpoints (twoOrganizations.reachable (by decide)))

/-- The stores without the second project are consistent. -/
private theorem withoutSecondProject_consistent : withoutSecondProject.GraphConsistent := by
  have inOrg :
      (founded.project.getProject ⟨draw 8⟩).map Project.orgId = some ⟨draw 6⟩ := by
    decide +kernel
  unfold withoutSecondProject
  cases deleted : founded.project.deleteProject ⟨draw 8⟩ ⟨draw 6⟩ with
  | ok project => exact founded_consistent.deleteProject inOrg deleted
  | error error => exact founded_consistent

/-- The project that was created has neither a policy nor a proposal. -/
private theorem founded_without_policies :
    ¬founded.HasPolicyOrProposal ⟨draw 11⟩ := by
  have policies :
      ∀ key ∈ founded.approvalPolicy.projectOperationTypeApprovalPolicyIndex.keys,
        key.1 ≠ (⟨draw 11⟩ : ProjectId) := by
    decide +kernel
  have proposals : founded.proposal.proposals.isEmpty = true := by
    decide +kernel
  rintro (⟨operation, row⟩ | ⟨proposalId, proposal, stored, -⟩)
  · exact policies _ (Std.ExtTreeMap.mem_keys.mpr row) rfl
  · rw [ProposalState.getProposal, Std.ExtTreeMap.isEmpty_iff.mp proposals] at stored
    cases stored.symm.trans Std.ExtTreeMap.getElem?_empty

/-- There are no invites. -/
private theorem withoutSecondProject_without_invites :
    ¬withoutSecondProject.HasInvite ⟨draw 6⟩ := by
  have invites : withoutSecondProject.invite.invites.isEmpty = true := by
    decide +kernel
  rintro ⟨inviteId, invite, stored, -⟩
  rw [InviteState.getInvite, Std.ExtTreeMap.isEmpty_iff.mp invites] at stored
  cases stored.symm.trans Std.ExtTreeMap.getElem?_empty

/-- Without policies, proposals and invites, both deletions are complete. -/
theorem deletions_complete_twoOrganizations :
    (outcome (ProjectService.deleteProject (callBy founder) (idText 11))
        founded).2.ForgetsProject ⟨draw 11⟩ ∧
      (outcome (OrganizationService.deleteOrganization (callBy founder) (idText 6))
        withoutSecondProject).2.ForgetsOrganization ⟨draw 6⟩
          (withoutSecondProject.teamsOfOrg ⟨draw 6⟩) := by
  constructor
  · have named : (Id.tryFrom (idText 11) : ApiResult ProjectId) = .ok ⟨draw 11⟩ := by
      decide +kernel
    obtain ⟨response, succeeded⟩ :=
      exists_outcome_of_isOk
        (by decide +kernel :
          (outcome (ProjectService.deleteProject (callBy founder) (idText 11))
            founded).1.isOk = true)
    have complete :=
      (deletions_complete_iff founded_consistent).project _ _ _ _ _ named succeeded
    exact complete.1.mpr founded_without_policies
  · have named : (Id.tryFrom (idText 6) : ApiResult OrgId) = .ok ⟨draw 6⟩ := by
      decide +kernel
    obtain ⟨response, succeeded⟩ :=
      exists_outcome_of_isOk
        (by decide +kernel :
          (outcome (OrganizationService.deleteOrganization (callBy founder) (idText 6))
            withoutSecondProject).1.isOk = true)
    have complete :=
      (deletions_complete_iff withoutSecondProject_consistent).organization _ _ _ _ _ named
        succeeded
    exact complete.1.mpr withoutSecondProject_without_invites

/-- The default project of an organization is deleted, and the rows of the policies that it was
created with stay. -/
theorem deleteProject_leaves_policy :
    ∃ world call projectText projectId response after,
      MessageRun.Reachable World.endpointStep (fun _ _ => True) World.empty world ∧
        world.stores.GraphConsistent ∧
          Id.tryFrom projectText = .ok projectId ∧
            outcome (ProjectService.deleteProject call projectText) world.stores =
                (.ok response, after) ∧
              ¬after.ForgetsProject projectId := by
  have named : (Id.tryFrom (idText 3) : ApiResult ProjectId) = .ok ⟨draw 3⟩ := by
    decide +kernel
  obtain ⟨response, succeeded⟩ :=
    exists_outcome_of_isOk
      (by decide +kernel :
        (outcome (ProjectService.deleteProject (callBy founder) (idText 3)) founded).1.isOk =
          true)
  have row :
      (outcome (ProjectService.deleteProject (callBy founder) (idText 3))
        founded).2.approvalPolicy.projectOperationTypeApprovalPolicyIndex.contains
          ((⟨draw 3⟩ : ProjectId), OperationType.createCanister) = true := by
    decide +kernel
  have stays :
      ¬(outcome (ProjectService.deleteProject (callBy founder) (idText 3))
        founded).2.ForgetsProject ⟨draw 3⟩ := by
    intro forgets
    exact forgets.policy .createCanister (Std.ExtTreeMap.mem_iff_contains.mpr row)
  exact
    ⟨twoOrganizations.state 3, callBy founder, idText 3, ⟨draw 3⟩, response, _,
      twoOrganizations.reachable (by decide), founded_consistent, named, succeeded, stays⟩

end TwoOrganizations

end SsnConsole.Backend
