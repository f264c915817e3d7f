import SsnConsole.BackendWorld
import SsnConsole.SliceIndependence

/-!
# What does not depend on the link codes

Only `link_my_principal` and `revoke_my_link_code` read the pending link codes.
Every other operation answers alike and stores alike whatever codes are pending.
-/

namespace SsnConsole.Backend

open Std (ExtTreeMap)
open SsnConsole.MessageSlice

/-- The stores with other pending link codes. -/
def Stores.setLinkCodes (codes : ExtTreeMap UserId PendingLinkCode) (s : Stores) : Stores :=
  { s with pendingLinkCodes := codes }

variable [Host]
variable {codes : ExtTreeMap UserId PendingLinkCode}

section Draws

/-- A drawn identifier does not depend on the codes, nor does what it names. -/
private theorem drawing_commutes
    {marker : Marker}
    {insert : Id marker → Stores → Stores}
    (commutes : ∀ id s, insert id (s.setLinkCodes codes) = (insert id s).setLinkCodes codes) :
    Commutes (Stores.setLinkCodes codes) (drawing insert) := by
  intro s
  exact congrArg (Prod.mk s.nextId) (commutes s.nextId { s with drawn := s.drawn + 1 })

private theorem upsertApprovalPolicy_commutes
    (projectId : ProjectId)
    (operationType : OperationType)
    (approvalPolicy : ApprovalPolicy) :
    Commutes (Stores.setLinkCodes codes)
      (ApprovalPolicyRepository.upsertApprovalPolicy projectId operationType
        approvalPolicy) := by
  intro s
  dsimp only [ApprovalPolicyRepository.upsertApprovalPolicy, StateT.run, Stores.setLinkCodes]
  cases s.approvalPolicy.projectOperationTypeApprovalPolicyIndex[(projectId, operationType)]? with
  | some policyId => rfl
  | none => rfl

private theorem addDefaultTeam_commutes
    (userId : UserId)
    (orgId : OrgId) :
    Commutes (Stores.setLinkCodes codes) (TeamRepository.addDefaultTeam userId orgId) := by
  rw [TeamRepository.addDefaultTeam, TeamRepository.createTeam]
  exact drawing_commutes fun _ _ => rfl

private theorem addDefaultProject_commutes
    (teamId : TeamId)
    (orgId : OrgId) :
    Commutes (Stores.setLinkCodes codes) (ProjectRepository.addDefaultProject teamId orgId) := by
  refine .bind ?_ fun projectId => .bind (fun _ => rfl) fun _ => .pure _
  rw [ProjectRepository.createProject]
  exact drawing_commutes fun _ _ => rfl

/-- Founding an organization does not depend on the codes. -/
private theorem foundOrganization_commutes
    (userId : UserId)
    (org : Organization) :
    Commutes (Stores.setLinkCodes codes) (OrganizationService.foundOrganization userId org) := by
  refine .bind (drawing_commutes fun _ _ => rfl) fun orgId => ?_
  refine .bind (addDefaultTeam_commutes userId orgId) fun teamId => ?_
  refine .bind (addDefaultProject_commutes teamId orgId) fun projectId => .bind ?_ fun _ => .pure _
  refine .bind (upsertApprovalPolicy_commutes _ _ _) fun _ => ?_
  exact .bind (upsertApprovalPolicy_commutes _ _ _) fun _ => .pure _

end Draws

section Organizations

open OrganizationService

private theorem createOrganization_ignores
    (call : Call)
    (name : String) :
    Ignores (Stores.setLinkCodes codes) (createOrganization call name) := by
  refine .bind (.check fun _ => rfl) fun userId => .bind (.require _) fun name => ?_
  refine .bind (.rejectIf fun _ => rfl) fun _ => ?_
  exact .bind (.commit (foundOrganization_commutes _ _)) fun orgId => .pure _

private theorem updateOrganization_ignores
    (call : Call)
    (orgId name : String) :
    Ignores (Stores.setLinkCodes codes) (updateOrganization call orgId name) := by
  refine .bind (.require _) fun orgId => .bind (.check fun _ => rfl) fun auth => ?_
  refine .bind (.require _) fun name => ?_
  exact .bind (.tryStore (fun _ => rfl) fun _ _ => rfl) fun _ => .pure _

private theorem deleteOrganization_ignores
    (call : Call)
    (orgId : String) :
    Ignores (Stores.setLinkCodes codes) (deleteOrganization call orgId) := by
  refine .bind (.require _) fun orgId => .bind (.check fun _ => rfl) fun auth => ?_
  refine .bind (.rejectIf fun _ => rfl) fun _ => .bind (.rejectIf fun _ => rfl) fun _ => ?_
  refine .bind (.write fun _ => rfl) fun _ => ?_
  refine .bind (.tryStore (fun _ => rfl) fun _ _ => rfl) fun _ => ?_
  exact .bind (.write fun _ => rfl) fun _ => .pure _

end Organizations

section Teams

open TeamService

private theorem createTeam_ignores
    (call : Call)
    (orgId name : String) :
    Ignores (Stores.setLinkCodes codes) (createTeam call orgId name) := by
  refine .bind (.require _) fun orgId => .bind (.check fun _ => rfl) fun auth => ?_
  refine .bind (.require _) fun name => .bind (.rejectIf fun _ => rfl) fun _ => ?_
  refine .bind (.commit ?_) fun teamId => .pure _
  rw [TeamRepository.createTeam]
  exact drawing_commutes fun _ _ => rfl

private theorem updateTeam_ignores
    (call : Call)
    (teamId name : String) :
    Ignores (Stores.setLinkCodes codes) (updateTeam call teamId name) := by
  refine .bind (.require _) fun teamId => .bind (.check fun _ => rfl) fun access => ?_
  refine .bind (.require _) fun name => ?_
  exact .bind (.tryStore (fun _ => rfl) fun _ _ => rfl) fun _ => .pure _

private theorem deleteTeam_ignores
    (call : Call)
    (teamId : String) :
    Ignores (Stores.setLinkCodes codes) (deleteTeam call teamId) := by
  refine .bind (.require _) fun teamId => .bind (.check fun _ => rfl) fun access => ?_
  refine .bind (.rejectIf fun _ => rfl) fun _ => .bind (.rejectIf fun _ => rfl) fun _ => ?_
  refine .bind (.check fun _ => rfl) fun _ => .bind (.write fun _ => rfl) fun _ => ?_
  exact .bind (.tryStore (fun _ => rfl) fun _ _ => rfl) fun _ => .pure _

private theorem addUserToTeam_ignores
    (call : Call)
    (teamId userId : String) :
    Ignores (Stores.setLinkCodes codes) (addUserToTeam call teamId userId) := by
  refine .bind (.require _) fun teamId => .bind (.require _) fun targetUserId => ?_
  refine .bind (.check fun _ => rfl) fun access => .bind (.check fun _ => rfl) fun _ => ?_
  refine .bind (.inspect fun _ => rfl) fun destPerms => .bind (.require _) fun _ => ?_
  refine .bind (.inspect fun _ => rfl) fun isMember => .ite (.pure _) ?_
  exact .bind (.write fun _ => rfl) fun _ => .pure _

private theorem removeUserFromTeam_ignores
    (call : Call)
    (teamId userId : String) :
    Ignores (Stores.setLinkCodes codes) (removeUserFromTeam call teamId userId) := by
  refine .bind (.require _) fun teamId => .bind (.require _) fun targetUserId => ?_
  refine .bind (.check fun _ => rfl) fun access => ?_
  refine .bind (.inspect fun _ => rfl) fun isNoMember => .ite (.pure _) ?_
  refine .bind (.rejectIf fun _ => rfl) fun _ => ?_
  exact .bind (.write fun _ => rfl) fun _ => .pure _

private theorem updateTeamOrgPermissions_ignores
    (call : Call)
    (teamId : String)
    (permissions : Dto.OrgPermissions) :
    Ignores (Stores.setLinkCodes codes) (updateTeamOrgPermissions call teamId permissions) := by
  refine .bind (.require _) fun teamId => .bind (.check fun _ => rfl) fun access => ?_
  refine .bind (.require _) fun _ => .bind (.check fun _ => rfl) fun _ => ?_
  exact .bind (.write fun _ => rfl) fun _ => .pure _

end Teams

section Projects

open ProjectService

private theorem createProject_ignores
    (call : Call)
    (orgId name : String) :
    Ignores (Stores.setLinkCodes codes) (createProject call orgId name) := by
  refine .bind (.require _) fun orgId => .bind (.check fun _ => rfl) fun auth => ?_
  refine .bind (.require _) fun name => .bind (.rejectIf fun _ => rfl) fun _ => ?_
  refine .bind (.commit ?_) fun projectId => .bind (.write fun _ => rfl) fun _ => .pure _
  rw [ProjectRepository.createProject]
  exact drawing_commutes fun _ _ => rfl

private theorem updateProject_ignores
    (call : Call)
    (projectId name : String) :
    Ignores (Stores.setLinkCodes codes) (updateProject call projectId name) := by
  refine .bind (.require _) fun projectId => .bind (.check fun _ => rfl) fun auth => ?_
  refine .bind (.require _) fun name => ?_
  exact .bind (.tryStore (fun _ => rfl) fun _ _ => rfl) fun _ => .pure _

private theorem deleteProject_ignores
    (call : Call)
    (projectId : String) :
    Ignores (Stores.setLinkCodes codes) (deleteProject call projectId) := by
  refine .bind (.require _) fun projectId => .bind (.check fun _ => rfl) fun auth => ?_
  refine .bind (.rejectIf fun _ => rfl) fun _ => .bind (.rejectIf fun _ => rfl) fun _ => ?_
  exact .bind (.tryStore (fun _ => rfl) fun _ _ => rfl) fun _ => .pure _

private theorem addTeamToProject_ignores
    (call : Call)
    (projectId teamId : String) :
    Ignores (Stores.setLinkCodes codes) (addTeamToProject call projectId teamId) := by
  refine .bind (.require _) fun projectId => .bind (.require _) fun teamId => ?_
  refine .bind (.check fun _ => rfl) fun auth => .bind (.rejectIf fun _ => rfl) fun _ => ?_
  refine .bind (.inspect fun _ => rfl) fun isLinked => .ite (.pure _) ?_
  exact .bind (.write fun _ => rfl) fun _ => .pure _

private theorem removeTeamFromProject_ignores
    (call : Call)
    (projectId teamId : String) :
    Ignores (Stores.setLinkCodes codes) (removeTeamFromProject call projectId teamId) := by
  refine .bind (.require _) fun projectId => .bind (.require _) fun teamId => ?_
  refine .bind (.check fun _ => rfl) fun auth => ?_
  refine .bind (.inspect fun _ => rfl) fun isUnlinked => .ite (.pure _) ?_
  refine .bind (.rejectIf fun _ => rfl) fun _ => ?_
  exact .bind (.write fun _ => rfl) fun _ => .pure _

private theorem updateTeamProjectPermissions_ignores
    (call : Call)
    (projectId teamId : String)
    (permissions : Dto.ProjectPermissions) :
    Ignores (Stores.setLinkCodes codes)
      (updateTeamProjectPermissions call projectId teamId permissions) := by
  refine .bind (.require _) fun projectId => .bind (.require _) fun teamId => ?_
  refine .bind (.check fun _ => rfl) fun auth => .bind (.lookup fun _ => rfl) fun team => ?_
  refine .bind (.rejectIf fun _ => rfl) fun _ => .bind (.require _) fun _ => ?_
  exact .bind (.write fun _ => rfl) fun _ => .pure _

end Projects

section Accounts

open UserProfileService PrincipalLinkService StaffPermissionsService ServicePrincipalService

private theorem updateUserProfile_ignores
    (userId : String)
    (status : Option Dto.UserStatus) :
    Ignores (Stores.setLinkCodes codes) (updateUserProfile userId status) := by
  refine .bind (.require _) fun userId => .bind (.lookup fun _ => rfl) fun profile => ?_
  refine .bind (.write fun _ => rfl) fun _ => ?_
  exact .bind (.tryStore (fun _ => rfl) fun _ _ => rfl) fun _ => .pure _

private theorem createMyUserProfile_ignores
    (call : Call) :
    Ignores (Stores.setLinkCodes codes) (createMyUserProfile call) := by
  refine .bind (.rejectIf fun _ => rfl) fun _ => .bind (.check fun _ => rfl) fun _ => ?_
  refine .bind (.commit ?_) fun userId => .bind (.write fun _ => rfl) fun _ => ?_
  · rw [UserProfileRepository.createUserProfile]
    exact drawing_commutes fun _ _ => rfl
  · exact .bind (.commit (foundOrganization_commutes _ _)) fun _ => .pure _

private theorem updateMyUserProfile_ignores
    (call : Call)
    (email : Option String) :
    Ignores (Stores.setLinkCodes codes) (updateMyUserProfile call email) := by
  refine .bind (.lookup fun _ => rfl) fun found => ?_
  cases email with
  | none => exact .bind (.tryStore (fun _ => rfl) fun _ _ => rfl) fun _ => .pure _
  | some rawEmail =>
      refine .bind (.require _) fun newEmail => .ite ?_ ?_
      · refine .bind (.write fun _ => rfl) fun _ => ?_
        exact .bind (.tryStore (fun _ => rfl) fun _ _ => rfl) fun _ => .pure _
      · exact .bind (.tryStore (fun _ => rfl) fun _ _ => rfl) fun _ => .pure _

private theorem verifyEmail_ignores
    (call : Call)
    (token : String) :
    Ignores (Stores.setLinkCodes codes) (verifyEmail call token) := by
  refine .bind (.require _) fun claims => .bind (.require _) fun _ => ?_
  refine .bind (.lookup fun _ => rfl) fun found => .bind (.lookup fun _ => rfl) fun stored => ?_
  refine .bind (.reportAs _ (.require _)) fun profileEmail => ?_
  refine .bind (.reportAs _ (.require _)) fun claimEmail => .bind (.rejectIf fun _ => rfl) fun _ => ?_
  refine .bind (.reportAs _ (.tryStore (fun _ => rfl) fun _ _ => rfl)) fun _ => ?_
  exact .bind (.reportAs _ (.tryStore (fun _ => rfl) fun _ _ => rfl)) fun _ => .pure _

private theorem unlinkMyPrincipal_ignores
    (call : Call)
    (principal : Principal) :
    Ignores (Stores.setLinkCodes codes) (unlinkMyPrincipal call principal) := by
  refine .bind (.check fun _ => rfl) fun userId => ?_
  exact .bind (.tryStore (fun _ => rfl) fun _ _ => rfl) fun _ => .pure _

private theorem setMyPrincipalName_ignores
    (call : Call)
    (principal : Principal)
    (name : Option String) :
    Ignores (Stores.setLinkCodes codes) (setMyPrincipalName call principal name) := by
  refine .bind (.check fun _ => rfl) fun userId => .bind (.require _) fun validated => ?_
  exact .bind (.tryStore (fun _ => rfl) fun _ _ => rfl) fun _ => .pure _

private theorem adminLinkPrincipalToUser_ignores
    (call : Call)
    (userId : String)
    (principal : Principal) :
    Ignores (Stores.setLinkCodes codes) (adminLinkPrincipalToUser call userId principal) := by
  refine .bind (.require _) fun userId => .bind (.check fun _ => rfl) fun _ => ?_
  refine .bind (.inspect fun _ => rfl) fun targetPerms => .bind (.check fun _ => rfl) fun _ => ?_
  refine .bind (.rejectIf fun _ => rfl) fun _ => .bind (.check fun _ => rfl) fun _ => ?_
  exact .bind (.tryStore (fun _ => rfl) fun _ _ => rfl) fun _ => .pure _

private theorem adminUnlinkPrincipalFromUser_ignores
    (call : Call)
    (userId : String)
    (principal : Principal) :
    Ignores (Stores.setLinkCodes codes) (adminUnlinkPrincipalFromUser call userId principal) := by
  refine .bind (.require _) fun userId => .bind (.check fun _ => rfl) fun _ => ?_
  exact .bind (.tryStore (fun _ => rfl) fun _ _ => rfl) fun _ => .pure _

private theorem recoverAccountByEmail_ignores
    (call : Call)
    (token : String) :
    Ignores (Stores.setLinkCodes codes) (recoverAccountByEmail call token) := by
  refine .bind (.require _) fun claims => .bind (.rejectIf fun _ => rfl) fun _ => ?_
  refine .bind (.reportAs _ (.require _)) fun email => .bind (.lookup fun _ => rfl) fun userId => ?_
  refine .bind (.reportAs _ (.check fun _ => rfl)) fun _ => ?_
  exact .bind (.reportAs _ (.tryStore (fun _ => rfl) fun _ _ => rfl)) fun _ => .pure _

private theorem setStaffPermissions_ignores
    (userId : UserId)
    (permissions : Option StaffPermissions) :
    Ignores (Stores.setLinkCodes codes) (setStaffPermissions userId permissions) := by
  refine .bind (.lookup fun _ => rfl) fun profile => ?_
  exact .bind (.tryStore (fun _ => rfl) fun _ _ => rfl) fun _ => .pure _

private theorem grantStaffPermissions_ignores
    (userId : String)
    (permissions : Dto.StaffPermissions) :
    Ignores (Stores.setLinkCodes codes) (grantStaffPermissions userId permissions) := by
  refine .bind (.rejectIf fun _ => rfl) fun _ => .bind (.require _) fun userId => ?_
  exact setStaffPermissions_ignores userId _

omit [Host] in
private theorem grantServicePrincipalPermissions_ignores
    (servicePrincipal : Principal)
    (permissions : Dto.StaffPermissions) :
    Ignores (Stores.setLinkCodes codes)
      (grantServicePrincipalPermissions servicePrincipal permissions) := by
  refine .bind (.require _) fun _ => .bind (.rejectIf fun _ => rfl) fun _ => ?_
  refine .bind (.rejectIf fun _ => rfl) fun _ => ?_
  exact .bind (.write fun _ => rfl) fun _ => .pure _

end Accounts

section Invites

open InviteService

private theorem createOrgInvite_ignores
    (call : Call)
    (orgId : String)
    (target : Dto.InviteTarget) :
    Ignores (Stores.setLinkCodes codes) (createOrgInvite call orgId target) := by
  refine .bind (.require _) fun orgId => .bind (.check fun _ => rfl) fun auth => ?_
  refine .bind (.require _) fun target => .bind (.rejectIf fun _ => rfl) fun _ => ?_
  refine .bind (.write fun _ => rfl) fun _ => .bind (.rejectIf fun _ => rfl) fun _ => ?_
  refine .bind (.commit (drawing_commutes fun _ _ => rfl)) fun inviteId => ?_
  exact .bind (.inspect fun _ => rfl) fun orgName => .pure _

private theorem revokeOrgInvite_ignores
    (call : Call)
    (inviteId : String) :
    Ignores (Stores.setLinkCodes codes) (revokeOrgInvite call inviteId) := by
  refine .bind (.require _) fun inviteId => .bind (.lookup fun _ => rfl) fun invite => ?_
  refine .bind (.check fun _ => rfl) fun auth => .bind (.rejectIf fun _ => rfl) fun _ => ?_
  refine .bind (.rejectIf fun _ => rfl) fun _ => ?_
  exact .bind (.tryStore (fun _ => rfl) fun _ _ => rfl) fun _ => .pure _

private theorem actionableInvite_ignores
    (call : Call)
    (inviteId : String) :
    Ignores (Stores.setLinkCodes codes) (actionableInvite call inviteId) := by
  refine .bind (.require _) fun inviteId => .bind (.check fun _ => rfl) fun userId => ?_
  refine .bind (.lookup fun _ => rfl) fun profile => ?_
  refine .bind (.inspect fun _ => rfl) fun principals => ?_
  exact .bind (.lookup fun _ => rfl) fun invite => .bind (.require _) fun _ => .pure _

private theorem acceptOrgInvite_ignores
    (call : Call)
    (inviteId : String) :
    Ignores (Stores.setLinkCodes codes) (acceptOrgInvite call inviteId) := by
  refine .bind (actionableInvite_ignores call inviteId) fun (inviteId, userId, invite) => ?_
  refine .bind (.write fun s => ?_) fun _ => ?_
  · rw [apply_ite (Stores.setLinkCodes codes)]
    rfl
  · exact .bind (.tryStore (fun _ => rfl) fun _ _ => rfl) fun _ => .pure _

private theorem declineOrgInvite_ignores
    (call : Call)
    (inviteId : String) :
    Ignores (Stores.setLinkCodes codes) (declineOrgInvite call inviteId) := by
  refine .bind (actionableInvite_ignores call inviteId) fun (inviteId, _, invite) => ?_
  exact .bind (.tryStore (fun _ => rfl) fun _ _ => rfl) fun _ => .pure _

end Invites

section Terms

open TermsAndConditionsService

private theorem upsertTermsAndConditionsDecision_ignores
    (call : Call)
    (termsAndConditionsId : String)
    (decisionType : Dto.TermsAndConditionsDecisionType) :
    Ignores (Stores.setLinkCodes codes)
      (upsertTermsAndConditionsDecision call termsAndConditionsId decisionType) := by
  refine .bind (.rejectIf fun _ => rfl) fun _ => .bind (.check fun _ => rfl) fun userId => ?_
  refine .bind (.require _) fun termsId => .bind (.rejectIf fun _ => rfl) fun _ => ?_
  refine .bind (.inspect fun _ => rfl) fun known => ?_
  cases known with
  | some id => exact .bind (.write fun _ => rfl) fun _ => .pure _
  | none => exact .bind (.commit (drawing_commutes fun _ _ => rfl)) fun _ => .pure _

private theorem createTermsAndConditions_ignores
    (call : Call)
    (content comment : String) :
    Ignores (Stores.setLinkCodes codes) (createTermsAndConditions call content comment) := by
  refine .bind (.check fun _ => rfl) fun userId => ?_
  exact .bind (.commit (drawing_commutes fun _ _ => rfl)) fun _ => .pure _

end Terms

section Canisters

open CanisterService ApprovalPolicyService OrganizationBillingPlanService

private theorem managedProject_ignores
    (call : Call)
    (canisterId : CanisterId) :
    Ignores (Stores.setLinkCodes codes) (managedProject call canisterId) :=
  .bind (.lookup fun _ => rfl) fun _ => .check fun _ => rfl

private theorem updateMyCanisterName_ignores
    (call : Call)
    (canisterId : String)
    (name : Option String) :
    Ignores (Stores.setLinkCodes codes) (updateMyCanisterName call canisterId name) := by
  refine .bind (.require _) fun canisterId => ?_
  refine .bind (managedProject_ignores call canisterId) fun auth => .bind (.require _) fun name => ?_
  refine .bind (.tryWrite fun s => ?_) fun _ => .pure _
  dsimp only [Stores.setLinkCodes]
  cases s.canister.updateCanisterName canisterId name <;> rfl

private theorem commandMyCanister_ignores
    (call : Call)
    (canisterId : String)
    (command : CanisterCommand) :
    Ignores (Stores.setLinkCodes codes) (commandMyCanister call canisterId command) := by
  refine .bind (.require _) fun canisterId => .bind ?_ fun principal => .pure _
  refine .bind (managedProject_ignores call canisterId) fun auth => ?_
  exact .bind (.lookup fun _ => rfl) fun canister => .pure _

private theorem removeMyCanister_ignores
    (call : Call)
    (canisterId : String) :
    Ignores (Stores.setLinkCodes codes) (removeMyCanister call canisterId) := by
  refine .bind (.require _) fun canisterId => ?_
  refine .bind (managedProject_ignores call canisterId) fun auth => ?_
  refine .bind (.tryWrite fun s => ?_) fun _ => .pure _
  dsimp only [Stores.setLinkCodes]
  cases s.canister.softDeleteCanister auth.projectId canisterId call.now <;> rfl

/-- The adopting loop does not depend on the codes; the induction is on its rounds. -/
private theorem adoptDescendants_setLinkCodes
    (projectId : ProjectId)
    (rounds : Nat)
    (stack : List Principal)
    (s : Stores) :
    adoptDescendants projectId rounds stack (s.setLinkCodes codes) =
      (adoptDescendants projectId rounds stack s).setLinkCodes codes := by
  induction rounds generalizing stack s with
  | zero => rfl
  | succ rounds ih =>
      cases stack with
      | nil => rfl
      | cons parent stack =>
          have adopted :
              (s.orphanedCanister.listChildrenByParent parent).foldl
                  (adoptOrphan projectId parent) (s.setLinkCodes codes) =
                ((s.orphanedCanister.listChildrenByParent parent).foldl
                  (adoptOrphan projectId parent) s).setLinkCodes codes :=
            List.foldl_hom (Stores.setLinkCodes codes) fun _ _ => rfl
          have others :=
            ih ((s.orphanedCanister.listChildrenByParent parent).reverse ++ stack)
              ((s.orphanedCanister.listChildrenByParent parent).foldl
                (adoptOrphan projectId parent) s)
          rw [← adopted] at others
          exact others

/-- A reported mapping does not depend on the codes. -/
private theorem addChildCanister_setLinkCodes
    (s : Stores)
    (mapping : Dto.ParentChildMapping) :
    addChildCanister (s.setLinkCodes codes) mapping =
      (addChildCanister s mapping).setLinkCodes codes := by
  have sameCanister : (s.setLinkCodes codes).canister = s.canister := rfl
  have sameOrphans : (s.setLinkCodes codes).orphanedCanister = s.orphanedCanister := rfl
  rw [addChildCanister, addChildCanister, sameCanister, sameOrphans]
  split
  · rfl
  · cases (s.canister.getCanisterByPrincipal mapping.parentCanisterId).bind
      s.canister.getCanisterProjectId with
    | some projectId =>
        exact
          adoptDescendants_setLinkCodes projectId
            (s.orphanedCanister.parentChildIndex.size + 1) [mapping.childCanisterId]
            (recordCanister projectId s mapping.childCanisterId)
    | none => rfl

private theorem addChildCanisters_ignores
    (mappings : List Dto.ParentChildMapping) :
    Ignores (Stores.setLinkCodes codes) (addChildCanisters mappings) := by
  refine .bind (.write fun s => ?_) fun _ => .pure _
  exact List.foldl_hom (Stores.setLinkCodes codes) fun s mapping =>
    addChildCanister_setLinkCodes s mapping

private theorem upsertApprovalPolicy_ignores
    (call : Call)
    (projectId : String)
    (operationType : Dto.OperationType)
    (policyType : Dto.PolicyType) :
    Ignores (Stores.setLinkCodes codes)
      (upsertApprovalPolicy call projectId operationType policyType) := by
  refine .bind (.require _) fun (projectId, operationType, policy) => ?_
  refine .bind (.check fun _ => rfl) fun auth => ?_
  exact .bind (.commit (upsertApprovalPolicy_commutes _ _ _)) fun policyId => .pure _

private theorem setOrgPlan_ignores
    (call : Call)
    (orgId : String)
    (tier : Dto.PlanTier) :
    Ignores (Stores.setLinkCodes codes) (setOrgPlan call orgId tier) := by
  refine .bind (.require _) fun orgId => .bind (.rejectIf fun _ => rfl) fun _ => ?_
  exact .bind (.require _) fun plan => .bind (.write fun _ => rfl) fun _ => .pure _

end Canisters

section Proposals

open ProposalService

private theorem setProposalStatus_ignores
    (now : Nat)
    (proposalId : ProposalId)
    (status : ProposalStatus) :
    Ignores (Stores.setLinkCodes codes) (setProposalStatus now proposalId status) :=
  .tryStore (fun _ => rfl) fun _ _ => rfl

private theorem finishOperation_ignores
    (now : Nat)
    (proposalId : ProposalId)
    (result : Except String Unit) :
    Ignores (Stores.setLinkCodes codes) (finishOperation now proposalId result) := by
  cases result <;> exact setProposalStatus_ignores now proposalId _

private theorem executeOperation_ignores
    (origin : ExecutionOrigin)
    (now : Nat)
    (projectId : ProjectId)
    (proposalId : ProposalId)
    (operation : ProposalOperation) :
    Ignores (Stores.setLinkCodes codes)
      (executeOperation origin now projectId proposalId operation) := by
  refine .bind (setProposalStatus_ignores now proposalId _) fun _ => ?_
  cases operation with
  | createCanister =>
      refine .bind (.inspect fun _ => rfl) fun quota => ?_
      cases quota with
      | ok _ => exact .pure _
      | error message => exact .bind (finishOperation_ignores now proposalId _) fun _ => .pure _
  | addCanisterController canisterId controllerId => exact .pure _

private theorem answerWhenFinished_ignores
    (origin : ExecutionOrigin)
    (proposalId : ProposalId)
    (progress : Progress) :
    Ignores (Stores.setLinkCodes codes) (answerWhenFinished origin proposalId progress) := by
  cases progress with
  | finished =>
      refine .bind (.bind (.lookup fun _ => rfl) fun _ => .pure _) fun response => .pure _
  | awaiting operation => exact .pure _

private theorem processProposal_ignores
    (now : Nat)
    (projectId : ProjectId)
    (proposalId : ProposalId)
    (operation : ProposalOperation) :
    Ignores (Stores.setLinkCodes codes) (processProposal now projectId proposalId operation) := by
  refine .bind (.inspect fun _ => rfl) fun policy => ?_
  cases policy with
  | autoApprove => exact executeOperation_ignores _ now projectId proposalId operation
  | fixedQuorum threshold =>
      refine .bind (.rejectIf fun _ => rfl) fun _ => .bind (.inspect fun _ => rfl) fun approvers => ?_
      refine .bind (.rejectIf fun _ => rfl) fun _ => ?_
      exact .bind (.tryStore (fun _ => rfl) fun _ _ => rfl) fun _ => .pure _

private theorem createProposal_ignores
    (call : Call)
    (projectId : String)
    (operation : Option Dto.ProposalOperation) :
    Ignores (Stores.setLinkCodes codes) (createProposal call projectId operation) := by
  refine .bind (.require _) fun (projectId, operation) => .bind (.check fun _ => rfl) fun auth => ?_
  refine .bind (.check fun s => ?_) fun _ => ?_
  · cases operation <;> rfl
  refine .bind (.commit (drawing_commutes fun _ _ => rfl)) fun proposalId => ?_
  refine .bind (processProposal_ignores call.now projectId proposalId operation) fun progress => ?_
  exact answerWhenFinished_ignores _ proposalId progress

private theorem accessibleProposal_ignores
    (call : Call)
    (proposalId : ProposalId) :
    Ignores (Stores.setLinkCodes codes) (accessibleProposal call proposalId) := by
  refine .bind (.lookup fun _ => rfl) fun proposal => ?_
  exact .bind (.reportAs _ (.check fun _ => rfl)) fun auth => .pure _

private theorem castVote_ignores
    (call : Call)
    (proposalId : String)
    (vote : Dto.Vote) :
    Ignores (Stores.setLinkCodes codes) (castVote call proposalId vote) := by
  refine .bind (.require _) fun (proposalId, vote) => ?_
  refine .bind (accessibleProposal_ignores call proposalId) fun (proposal, auth) => ?_
  refine .bind (.rejectIf fun _ => rfl) fun _ => .bind (.check fun _ => rfl) fun recorded => ?_
  exact .bind (.write fun _ => rfl) fun _ => .pure _

private theorem voteProposal_ignores
    (call : Call)
    (proposalId : String)
    (vote : Dto.Vote) :
    Ignores (Stores.setLinkCodes codes) (voteProposal call proposalId vote) := by
  refine .bind (castVote_ignores call proposalId vote) fun cast => .ite ?_ ?_
  · refine .bind (executeOperation_ignores _ _ _ _ _) fun progress => ?_
    exact answerWhenFinished_ignores _ cast.proposalId progress
  · exact answerWhenFinished_ignores _ cast.proposalId _

private theorem cancelProposal_ignores
    (call : Call)
    (proposalId : String) :
    Ignores (Stores.setLinkCodes codes) (cancelProposal call proposalId) := by
  refine .bind (.require _) fun proposalId => ?_
  refine .bind (accessibleProposal_ignores call proposalId) fun (proposal, auth) => ?_
  refine .bind (.rejectIf fun _ => rfl) fun _ => ?_
  refine .bind (.tryStore (fun _ => rfl) fun _ _ => rfl) fun _ => ?_
  exact .bind (.lookup fun _ => rfl) fun updated => .pure _

private theorem completeOperation_ignores
    (now : Nat)
    (operation : OperationInFlight)
    (result : Except String Unit) :
    Ignores (Stores.setLinkCodes codes) (completeOperation now operation result) := by
  refine .bind (finishOperation_ignores now operation.proposalId result) fun _ => ?_
  exact answerWhenFinished_ignores _ operation.proposalId _

/-- The part of an operation after an await does not depend on the codes. -/
private theorem resumeOperation_ignores
    {now : Nat}
    {operation : OperationInFlight}
    {reply : Reply}
    {slice : Service Slot}
    (resumed : resumeOperation now operation reply = some slice) :
    Ignores (Stores.setLinkCodes codes) slice := by
  unfold resumeOperation at resumed
  split at resumed
  · cases reply with
    | canisterCreated principal =>
        rw [← Option.some.inj resumed]
        exact .bind (.write fun _ => rfl) fun _ => completeOperation_ignores now operation _
    | rejected message => exact Option.some.inj resumed ▸ completeOperation_ignores now operation _
    | canisterStatus _ | done => cases resumed
  · cases reply with
    | canisterStatus controllers =>
        rw [← Option.some.inj resumed]
        exact .ite (completeOperation_ignores now operation _) (.pure _)
    | rejected message => exact Option.some.inj resumed ▸ completeOperation_ignores now operation _
    | canisterCreated _ | done => cases resumed
  · cases reply with
    | done => exact Option.some.inj resumed ▸ completeOperation_ignores now operation _
    | rejected message => exact Option.some.inj resumed ▸ completeOperation_ignores now operation _
    | canisterCreated _ | canisterStatus _ => cases resumed

end Proposals

section Messages

/-- Whether a request reads the pending link codes. -/
def Request.readsLinkCodes : Request → Bool
  | .linkMyPrincipal _ => true
  | .revokeMyLinkCode => true
  | _ => false

omit [Host] in
/-- A service that ignores the codes answers alike. -/
private theorem answered_ignores
    {ε : Type}
    {failure : ε → Failure}
    {service : Slice Stores ε Response}
    (ignores : Ignores (Stores.setLinkCodes codes) service) :
    Ignores (Stores.setLinkCodes codes) (answered failure service) :=
  .reportAs failure (.map Slot.ready ignores)

/-- What is left of a suspended message does not depend on the codes. -/
theorem resume_ignores
    {now : Nat}
    {inFlight : InFlight}
    {reply : Reply}
    {slice : Service Slot}
    (resumed : resume now inFlight reply = some slice) :
    Ignores (Stores.setLinkCodes codes) slice := by
  cases inFlight with
  | command command canisterId =>
      cases reply with
      | done => exact Option.some.inj resumed ▸ .pure _
      | rejected message => exact Option.some.inj resumed ▸ .throw _
      | canisterCreated _ | canisterStatus _ => cases resumed
  | operation operation => exact resumeOperation_ignores resumed

/-- No other operation than those that read the codes depends on them, but a registration
writes them. -/
theorem handle_ignores
    (call : Call)
    (request : Request)
    (blind : request.readsLinkCodes = false)
    (unregistered : ∀ code target, request ≠ .registerLinkCode code target) :
    Ignores (Stores.setLinkCodes codes) (handle call request) := by
  cases request with
  | createMyUserProfile => exact answered_ignores (createMyUserProfile_ignores call)
  | updateMyUserProfile email => exact answered_ignores (updateMyUserProfile_ignores call email)
  | verifyEmail token => exact answered_ignores (verifyEmail_ignores call token)
  | adminUpdateUserProfile userId status =>
      exact answered_ignores (updateUserProfile_ignores userId status)
  | registerLinkCode code target => exact absurd rfl (unregistered code target)
  | linkMyPrincipal code => cases blind
  | unlinkMyPrincipal principal => exact answered_ignores (unlinkMyPrincipal_ignores call principal)
  | setMyPrincipalName principal name =>
      exact answered_ignores (setMyPrincipalName_ignores call principal name)
  | revokeMyLinkCode => cases blind
  | adminLinkPrincipalToUser userId principal =>
      exact answered_ignores (adminLinkPrincipalToUser_ignores call userId principal)
  | adminUnlinkPrincipalFromUser userId principal =>
      exact answered_ignores (adminUnlinkPrincipalFromUser_ignores call userId principal)
  | recoverAccountByEmail token => exact answered_ignores (recoverAccountByEmail_ignores call token)
  | adminGrantStaffPermissions userId permissions =>
      exact answered_ignores (grantStaffPermissions_ignores userId permissions)
  | adminRevokeStaffPermissions userId =>
      refine answered_ignores (.bind (.require _) fun userId => ?_)
      exact setStaffPermissions_ignores userId none
  | adminGrantServicePrincipalPermissions servicePrincipal permissions =>
      exact answered_ignores (grantServicePrincipalPermissions_ignores servicePrincipal permissions)
  | adminRevokeServicePrincipalPermissions servicePrincipal =>
      refine answered_ignores (.bind (.require _) fun _ => ?_)
      exact .bind (.write fun _ => rfl) fun _ => .pure _
  | createOrganization name => exact answered_ignores (createOrganization_ignores call name)
  | updateOrganization orgId name =>
      exact answered_ignores (updateOrganization_ignores call orgId name)
  | deleteOrganization orgId => exact answered_ignores (deleteOrganization_ignores call orgId)
  | createTeam orgId name => exact answered_ignores (createTeam_ignores call orgId name)
  | updateTeam teamId name => exact answered_ignores (updateTeam_ignores call teamId name)
  | deleteTeam teamId => exact answered_ignores (deleteTeam_ignores call teamId)
  | addUserToTeam teamId userId => exact answered_ignores (addUserToTeam_ignores call teamId userId)
  | removeUserFromTeam teamId userId =>
      exact answered_ignores (removeUserFromTeam_ignores call teamId userId)
  | updateTeamOrgPermissions teamId permissions =>
      exact answered_ignores (updateTeamOrgPermissions_ignores call teamId permissions)
  | createProject orgId name => exact answered_ignores (createProject_ignores call orgId name)
  | updateProject projectId name => exact answered_ignores (updateProject_ignores call projectId name)
  | deleteProject projectId => exact answered_ignores (deleteProject_ignores call projectId)
  | addTeamToProject projectId teamId =>
      exact answered_ignores (addTeamToProject_ignores call projectId teamId)
  | removeTeamFromProject projectId teamId =>
      exact answered_ignores (removeTeamFromProject_ignores call projectId teamId)
  | updateTeamProjectPermissions projectId teamId permissions =>
      exact
        answered_ignores (updateTeamProjectPermissions_ignores call projectId teamId permissions)
  | createOrgInvite orgId target =>
      exact answered_ignores (createOrgInvite_ignores call orgId target)
  | revokeOrgInvite inviteId => exact answered_ignores (revokeOrgInvite_ignores call inviteId)
  | acceptOrgInvite inviteId => exact answered_ignores (acceptOrgInvite_ignores call inviteId)
  | declineOrgInvite inviteId => exact answered_ignores (declineOrgInvite_ignores call inviteId)
  | createProposal projectId operation =>
      exact .reportAs _ (createProposal_ignores call projectId operation)
  | voteProposal proposalId vote => exact .reportAs _ (voteProposal_ignores call proposalId vote)
  | cancelProposal proposalId => exact answered_ignores (cancelProposal_ignores call proposalId)
  | upsertApprovalPolicy projectId operationType policyType =>
      exact
        answered_ignores (upsertApprovalPolicy_ignores call projectId operationType policyType)
  | adminSetOrgBillingPlan orgId tier => exact answered_ignores (setOrgPlan_ignores call orgId tier)
  | removeMyCanister canisterId => exact answered_ignores (removeMyCanister_ignores call canisterId)
  | updateMyCanisterName canisterId name =>
      exact answered_ignores (updateMyCanisterName_ignores call canisterId name)
  | startMyCanister canisterId =>
      exact .reportAs _ (commandMyCanister_ignores call canisterId .start)
  | stopMyCanister canisterId =>
      exact .reportAs _ (commandMyCanister_ignores call canisterId .stop)
  | addChildCanisters mappings => exact answered_ignores (addChildCanisters_ignores mappings)
  | upsertTermsAndConditionsDecision termsAndConditionsId decisionType =>
      exact
        answered_ignores
          (upsertTermsAndConditionsDecision_ignores call termsAndConditionsId decisionType)
  | adminCreateTermsAndConditions content comment =>
      exact answered_ignores (createTermsAndConditions_ignores call content comment)

/-- The slice answers alike whatever codes are pending, and stores alike but for the codes. -/
def AnswersAlike {ε α : Type} (slice : Slice Stores ε α) : Prop :=
  ∀ codes s, ∃ later,
    outcome slice (s.setLinkCodes codes) =
      ((outcome slice s).1, (outcome slice s).2.setLinkCodes later)

namespace AnswersAlike

variable {ε δ α β : Type}

omit [Host] in
/-- What ignores the codes answers alike. -/
theorem of_ignores
    {slice : Slice Stores ε α}
    (ignores : ∀ codes, Ignores (Stores.setLinkCodes codes) slice) :
    AnswersAlike slice :=
  fun codes s => ⟨codes, ignores codes s⟩

omit [Host] in
/-- A sequence answers alike when both of its parts do. -/
theorem bind
    {first : Slice Stores ε β}
    {next : β → Slice Stores ε α}
    (begins : AnswersAlike first)
    (continues : ∀ value, AnswersAlike (next value)) :
    AnswersAlike (first >>= next) := by
  intro codes s
  obtain ⟨later, same⟩ := begins codes s
  rw [outcome_bind, outcome_bind, same]
  rcases outcome first s with ⟨_ | value, after⟩
  · exact ⟨later, rfl⟩
  · exact continues value later after

omit [Host] in
/-- Renaming errors changes no run. -/
theorem reportAs
    {slice : Slice Stores ε α}
    (rename : ε → δ)
    (alike : AnswersAlike slice) :
    AnswersAlike (MessageSlice.reportAs rename slice) := by
  intro codes s
  obtain ⟨later, same⟩ := alike codes s
  refine ⟨later, ?_⟩
  rw [outcome_reportAs, outcome_reportAs, same]
  rcases outcome slice s with ⟨_ | _, after⟩ <;> rfl

end AnswersAlike

/-- A registration answers alike; it replaces one code and drops the expired ones. -/
private theorem registerLinkCode_answersAlike
    (call : Call)
    (code : String)
    (target : Principal) :
    AnswersAlike (PrincipalLinkService.registerLinkCode call code target) := by
  refine .bind (.of_ignores fun _ => .check fun _ => rfl) fun userId => ?_
  refine .bind (.of_ignores fun _ => .require _) fun _ => ?_
  refine .bind (.of_ignores fun _ => .rejectIf fun _ => rfl) fun _ => ?_
  refine .bind (fun codes s => ⟨_, rfl⟩) fun _ => ?_
  exact .bind (fun codes s => ⟨_, rfl⟩) fun _ => .of_ignores fun _ => .pure _

/-- Every operation that does not read the codes answers alike. -/
theorem handle_answersAlike
    (call : Call)
    (request : Request)
    (blind : request.readsLinkCodes = false) :
    AnswersAlike (handle call request) := by
  by_cases registers : ∃ code target, request = .registerLinkCode code target
  · obtain ⟨code, target, rfl⟩ := registers
    refine .reportAs _ ?_
    rw [map_eq_pure_bind]
    exact .bind (registerLinkCode_answersAlike call code target) fun _ => .of_ignores fun _ => .pure _
  · refine .of_ignores fun codes => handle_ignores call request blind ?_
    exact fun code target same => registers ⟨code, target, same⟩

/-- The gate of an endpoint does not read the codes. -/
theorem gate_setLinkCodes
    (call : Call)
    (request : Request)
    (s : Stores) :
    gate call request (s.setLinkCodes codes) = gate call request s := by
  cases request <;> rfl

/-- So does every endpoint. -/
theorem endpoint_answersAlike
    (call : Call)
    (request : Request)
    (blind : request.readsLinkCodes = false) :
    AnswersAlike (endpoint call request) := by
  refine .bind (.reportAs _ (.of_ignores fun codes => .check fun s => ?_)) fun _ => ?_
  · exact gate_setLinkCodes call request s
  · exact handle_answersAlike call request blind

/-- Whether an event reads the pending link codes. -/
def Event.readsLinkCodes : Event → Bool
  | .message _ request => request.readsLinkCodes
  | .reply _ _ _ => false

/-- The world with other pending link codes. -/
def World.setLinkCodes (codes : ExtTreeMap UserId PendingLinkCode) (world : World) : World :=
  { world with stores := world.stores.setLinkCodes codes }

/-- How the slice of an event ends: in an answer, an error or an await. -/
def World.answer (world : World) : Event → Option (Except Failure Slot)
  | .message call request => some (outcome (endpoint call request) world.stores).1
  | .reply now index reply =>
      (world.inFlight[index]?).bind fun inFlight =>
        (resume now inFlight reply).map fun slice =>
          (outcome (reportAs .api slice) world.stores).1

/-- An event that does not read the codes is answered alike and leads to the same world but
for the codes. -/
theorem World.endpointStep_setLinkCodes
    {world after : World}
    {event : Event}
    (codes : ExtTreeMap UserId PendingLinkCode)
    (blind : event.readsLinkCodes = false)
    (stepped : World.endpointStep world event = some after) :
    (world.setLinkCodes codes).answer event = world.answer event ∧
      ∃ later,
        World.endpointStep (world.setLinkCodes codes) event = some (after.setLinkCodes later) := by
  cases event with
  | message call request =>
      obtain ⟨later, same⟩ := endpoint_answersAlike call request blind codes world.stores
      have sameAnswer :
          (outcome (endpoint call request) (world.stores.setLinkCodes codes)).1 =
            (outcome (endpoint call request) world.stores).1 := by
        rw [same]
      constructor
      · exact congrArg some sameAnswer
      · rw [← Option.some.inj stepped]
        exact ⟨later, congrArg (fun ended => some (World.afterSlice world.inFlight ended)) same⟩
  | reply now index reply =>
      obtain ⟨inFlight, waiting, continued⟩ := Option.bind_eq_some_iff.mp stepped
      obtain ⟨slice, resumed, rfl⟩ := Option.map_eq_some_iff.mp continued
      have ignores : Ignores (Stores.setLinkCodes codes) (reportAs Failure.api slice) :=
        .reportAs _ (resume_ignores resumed)
      have same := ignores world.stores
      have waiting' : (world.setLinkCodes codes).inFlight[index]? = some inFlight := waiting
      have sameAnswer :
          (outcome (reportAs Failure.api slice) (world.stores.setLinkCodes codes)).1 =
            (outcome (reportAs Failure.api slice) world.stores).1 := by
        rw [same]
      constructor
      · rw [World.answer, World.answer, waiting, waiting', Option.bind_some, Option.bind_some,
          resumed]
        exact congrArg some sameAnswer
      · refine ⟨codes, ?_⟩
        rw [World.endpointStep, World.step, waiting', Option.bind_some, resumed]
        exact
          congrArg
            (fun ended => some (World.afterSlice (world.inFlight.eraseIdx index) ended)) same

omit [Host] in
/-- Some time is past every expiry. -/
private theorem exists_late
    (codes : ExtTreeMap UserId PendingLinkCode) :
    ∃ now,
      ∀ (userId : UserId) (entry : PendingLinkCode),
        codes[userId]? = some entry → entry.expiresAtNanos ≤ now := by
  refine ⟨(codes.toList.map fun row => row.2.expiresAtNanos).sum, ?_⟩
  intro userId entry pending
  apply List.le_sum_of_mem
  rw [List.mem_map]
  exact ⟨(userId, entry), ExtTreeMap.mem_toList_iff_getElem?_eq_some.mpr pending, rfl⟩

omit [Host] in
/-- When every code has expired, dropping the expired ones drops them all. -/
private theorem pruneLinkCodes_late
    {now : Nat}
    {s : Stores}
    (late :
      ∀ (userId : UserId) (entry : PendingLinkCode),
        s.pendingLinkCodes[userId]? = some entry → entry.expiresAtNanos ≤ now) :
    PrincipalLinkService.pruneLinkCodes now s = s.setLinkCodes ∅ := by
  have none_left :
      (s.pendingLinkCodes.filter fun _ entry => decide (entry.expiresAtNanos > now)) = ∅ := by
    apply ExtTreeMap.ext_getElem?
    intro userId
    rw [ExtTreeMap.getElem?_filter']
    cases pending : s.pendingLinkCodes[userId]? with
    | none => simp
    | some entry => simp [late userId entry pending]
  rw [PrincipalLinkService.pruneLinkCodes, none_left]
  rfl

omit [Host] in
/-- Without pending codes no code leads to a user. -/
private theorem linkMyPrincipal_late
    {call : Call}
    {s : Stores}
    (code : String)
    (late :
      ∀ (userId : UserId) (entry : PendingLinkCode),
        s.pendingLinkCodes[userId]? = some entry → entry.expiresAtNanos ≤ call.now) :
    outcome (PrincipalLinkService.linkMyPrincipal call code) s =
      (.error (.clientError "Invalid or expired link code."), s.setLinkCodes ∅) := by
  have unfound :
      ((s.setLinkCodes ∅).pendingLinkCodes.toList.find? fun row =>
        decide (row.2.code = code)) = none := by
    simp [Stores.setLinkCodes]
  have pruned := pruneLinkCodes_late late
  rw [PrincipalLinkService.linkMyPrincipal, outcome_bind]
  change outcome (_ >>= _) (PrincipalLinkService.pruneLinkCodes call.now s) = _
  rw [pruned, outcome_bind, outcome_lookup, unfound]

/-- A link attempt after every code has expired drops the codes and does nothing else. -/
theorem World.exists_forgetting
    (world : World) :
    ∃ event, World.endpointStep world event = some (world.setLinkCodes ∅) := by
  obtain ⟨now, late⟩ := exists_late world.stores.pendingLinkCodes
  let call : Call := ⟨⟨[], by decide⟩, now, fun _ => false⟩
  have attempted : outcome (PrincipalLinkService.linkMyPrincipal call "") world.stores = _ :=
    linkMyPrincipal_late "" late
  refine ⟨.message call (.linkMyPrincipal ""), ?_⟩
  have passed : gate call (.linkMyPrincipal "") world.stores = .ok () := rfl
  rw [World.endpointStep_message, passed]
  change
    some
      (World.afterSlice world.inFlight
        (outcome (reportAs _ (Slot.ready <$> PrincipalLinkService.linkMyPrincipal call ""))
          world.stores)) = _
  rw [outcome_reportAs, map_eq_pure_bind, outcome_bind, attempted]
  simp [World.afterSlice, suspendedBy, World.setLinkCodes]

end Messages

end SsnConsole.Backend
