import SsnConsole.BackendAccess
import SsnConsole.ProposalRows

/-!
# The post-upgrade migrations

What an upgrade keeps of the backend is its stable memory.  After every upgrade
`post_upgrade` runs six migrations over it in a fixed order.
-/

namespace SsnConsole.Backend

open Std
open SsnConsole.StableIndex

/-- The rows of `proposals` in stable memory. -/
abbrev ProposalRows : Type :=
  ExtTreeMap ProposalId (List UInt8)

/-- The tables that only earlier releases write. -/
structure LegacyTables where
  organizationTeamIndex : ExtTreeSet (OrgId × TeamId)
  projectTeamIndex : ExtTreeSet (ProjectId × TeamId)

/-- A newly installed canister has no rows in the tables of earlier releases. -/
def LegacyTables.empty : LegacyTables :=
  ⟨∅, ∅⟩

/-- The stable memory: every store but the pending link codes, proposals as their rows. -/
structure StableMemory where
  organization : OrganizationState
  team : TeamState
  project : ProjectState
  legacy : LegacyTables
  userProfile : UserProfileState
  servicePrincipal : ServicePrincipalState
  invite : InviteState
  terms : TermsAndConditionsState
  canister : CanisterState
  orphanedCanister : OrphanedCanisterState
  proposals : ProposalRows
  projectProposalsIndex : ExtTreeSet (ProjectId × ProposalId)
  approvalPolicy : ApprovalPolicyState
  billingPlan : BillingPlanState

section Migrations

/-- Turn a legacy team row into permissions, unless the team has some already. -/
def TeamState.migrateRow (s : TeamState) (row : OrgId × TeamId) : TeamState :=
  if s.organizationTeamPermissionsIndex[row]?.isNone then
    { s with
      organizationTeamPermissionsIndex :=
        s.organizationTeamPermissionsIndex.insert row OrgPermissions.ALL }
  else
    s

def migrateOrgTeamPermissions (memory : StableMemory) : StableMemory :=
  let entries := memory.legacy.organizationTeamIndex.toList
  { memory with
    legacy :=
      { memory.legacy with
        organizationTeamIndex := eraseRows memory.legacy.organizationTeamIndex entries }
    team := entries.foldl TeamState.migrateRow memory.team }

/-- Turn a legacy project row into permissions, unless the team has some already. -/
def ProjectState.migrateRow (s : ProjectState) (row : ProjectId × TeamId) : ProjectState :=
  if s.projectTeamPermissionsIndex[row]?.isNone then
    s.addTeamToProjectWithPermissions row.2 row.1 ProjectPermissions.ALL
  else
    s

def migrateProjectTeamPermissions (memory : StableMemory) : StableMemory :=
  let entries := memory.legacy.projectTeamIndex.toList
  { memory with
    legacy :=
      { memory.legacy with
        projectTeamIndex := eraseRows memory.legacy.projectTeamIndex entries }
    project := entries.foldl ProjectState.migrateRow memory.project }

/-- `migrate_principal_canister_index` on its repository. -/
def CanisterState.migratePrincipalCanisterIndex (s : CanisterState) : CanisterState :=
  { s with
    principalCanisterIndex :=
      s.canisters.toList.foldl
        (fun index row => index.insert row.2.principal row.1) s.principalCanisterIndex }

def migratePrincipalCanisterIndex (memory : StableMemory) : StableMemory :=
  { memory with canister := memory.canister.migratePrincipalCanisterIndex }

section VerifiedEmails

variable [Host]

/-- The address that a stored profile claims: its own, if verified and not blank. -/
def UserProfile.claimedKey (profile : UserProfile) : Option VerifiedEmailKey :=
  if profile.emailVerified then
    profile.email.bind VerifiedEmailKey.fromLegacyStorageUnchecked
  else
    none

namespace UserProfileState

/-- The accounts that claim each address, in the order of their identifiers. -/
def claimants (s : UserProfileState) : ExtTreeMap VerifiedEmailKey (List UserId) :=
  groupBy (fun row => row.2.claimedKey) Prod.fst s.profiles.toList

/-- Drop the `email_verified` flag of an account. -/
def resetVerified (s : UserProfileState) (userId : UserId) : UserProfileState :=
  match s.profiles[userId]? with
  | some profile =>
      { s with profiles := s.profiles.insert userId { profile with emailVerified := false } }
  | none => s

/-- Index an address with a single claimant; of a collided one reset every claimant. -/
def settleClaim (s : UserProfileState) (claim : VerifiedEmailKey × List UserId) :
    UserProfileState :=
  match claim.2 with
  | [userId] =>
      { s with verifiedEmailIndex := s.verifiedEmailIndex.insert claim.1 userId }
  | users => users.foldl resetVerified s

/-- `migrate_verified_email_index` on its repository. -/
def migrateVerifiedEmailIndex (s : UserProfileState) : UserProfileState :=
  s.claimants.toList.foldl settleClaim s

end UserProfileState

def migrateVerifiedEmailIndex (memory : StableMemory) : StableMemory :=
  { memory with userProfile := memory.userProfile.migrateVerifiedEmailIndex }

end VerifiedEmails

section Proposals

variable [RowFormat]

/-- Read a proposal and write it back; a row of neither shape panics. -/
def rewriteProposal (proposals : ProposalRows) (id : ProposalId) : Option ProposalRows :=
  match proposals[id]? with
  | none => some proposals
  | some row => (Proposal.fromBytes row).map fun proposal => proposals.insert id proposal.toBytes

/-- Read every proposal and write it back. -/
def rewriteProposals (memory : StableMemory) : Option StableMemory :=
  (memory.proposals.keys.foldlM rewriteProposal memory.proposals).map fun proposals =>
    { memory with proposals := proposals }

/-- `migrate_proposals_proposer_id`: legacy rows get the nil proposer in writing. -/
def migrateProposalsProposerId (memory : StableMemory) : Option StableMemory :=
  rewriteProposals memory

/-- `migrate_pending_approval_reset`: rows of the earlier shape are written as open. -/
def migratePendingApprovalReset (memory : StableMemory) : Option StableMemory :=
  rewriteProposals memory

end Proposals

/-- `post_upgrade`, as far as it concerns stable memory; a panic undoes the upgrade. -/
def postUpgrade [Host] [RowFormat] (memory : StableMemory) : Option StableMemory := do
  let memory := migrateOrgTeamPermissions memory
  let memory := migrateProjectTeamPermissions memory
  let memory := migratePrincipalCanisterIndex memory
  let memory := migrateVerifiedEmailIndex memory
  let memory ← migrateProposalsProposerId memory
  migratePendingApprovalReset memory

end Migrations

section Images

variable [RowFormat]

/-- What stable memory holds of the stores. -/
def Stores.stable (s : Stores) (legacy : LegacyTables) : StableMemory where
  organization := s.organization
  team := s.team
  project := s.project
  legacy := legacy
  userProfile := s.userProfile
  servicePrincipal := s.servicePrincipal
  invite := s.invite
  terms := s.terms
  canister := s.canister
  orphanedCanister := s.orphanedCanister
  proposals := s.proposal.proposals.map fun _ proposal => proposal.toBytes
  projectProposalsIndex := s.proposal.projectProposalsIndex
  approvalPolicy := s.approvalPolicy
  billingPlan := s.billingPlan

/-- The stores that a restarted canister reads; no link code survives.  The identifiers
that it draws are still fresh. -/
def StableMemory.stores (memory : StableMemory) (drawn : Nat) : Stores where
  organization := memory.organization
  team := memory.team
  project := memory.project
  userProfile := memory.userProfile
  servicePrincipal := memory.servicePrincipal
  invite := memory.invite
  terms := memory.terms
  canister := memory.canister
  orphanedCanister := memory.orphanedCanister
  proposal :=
    { proposals := memory.proposals.filterMap fun _ row => Proposal.fromBytes row
      projectProposalsIndex := memory.projectProposalsIndex }
  approvalPolicy := memory.approvalPolicy
  billingPlan := memory.billingPlan
  pendingLinkCodes := ∅
  drawn := drawn

end Images

end SsnConsole.Backend
