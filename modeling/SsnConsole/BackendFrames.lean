import SsnConsole.BackendTransitions

/-!
# What the writes leave alone

The proposal and canister operations do not touch the stores that access
control reads, and the membership and account operations do not touch the
proposals and canisters.
-/

namespace SsnConsole.Backend

open Std (ExtTreeMap)

variable [Host]

/-- The stores that access control reads are untouched. -/
structure SameAccess (s after : Stores) : Prop where
  organization : after.organization = s.organization
  team : after.team = s.team
  project : after.project = s.project
  userProfile : after.userProfile = s.userProfile
  servicePrincipal : after.servicePrincipal = s.servicePrincipal
  invite : after.invite = s.invite
  drawn : s.drawn ≤ after.drawn

/-- The stores of proposals and canisters are untouched. -/
structure SameOperations (s after : Stores) : Prop where
  proposal : after.proposal = s.proposal
  canister : after.canister = s.canister
  orphanedCanister : after.orphanedCanister = s.orphanedCanister
  drawn : s.drawn ≤ after.drawn

/-- Every organization, team, project and account store is untouched. -/
structure SameMembership (s after : Stores) : Prop where
  organization : after.organization = s.organization
  team : after.team = s.team
  project : after.project = s.project
  invite : after.invite = s.invite
  billingPlan : after.billingPlan = s.billingPlan
  approvalPolicy : after.approvalPolicy = s.approvalPolicy
  users : ∀ userId, userId ∈ after.userProfile.profiles ↔ userId ∈ s.userProfile.profiles
  drawn : s.drawn ≤ after.drawn

/-- The stores of accounts and service principals are untouched. -/
structure SameAccounts (s after : Stores) : Prop where
  userProfile : after.userProfile = s.userProfile
  servicePrincipal : after.servicePrincipal = s.servicePrincipal

namespace SameAccess

variable {s middle after : Stores}

omit [Host] in
/-- Nothing changes when nothing happens. -/
theorem refl
    (s : Stores) :
    SameAccess s s :=
  ⟨rfl, rfl, rfl, rfl, rfl, rfl, le_refl _⟩

omit [Host] in
/-- Untouched twice is untouched. -/
theorem trans
    (first : SameAccess s middle)
    (second : SameAccess middle after) :
    SameAccess s after where
  organization := second.organization.trans first.organization
  team := second.team.trans first.team
  project := second.project.trans first.project
  userProfile := second.userProfile.trans first.userProfile
  servicePrincipal := second.servicePrincipal.trans first.servicePrincipal
  invite := second.invite.trans first.invite
  drawn := first.drawn.trans second.drawn

omit [Host] in
/-- Overwriting a proposal's status touches the proposals only. -/
theorem overwriteStatus
    (s : Stores)
    (proposalId : ProposalId)
    (status : ProposalStatus)
    (now : Nat) :
    SameAccess s (s.overwriteStatus proposalId status now) :=
  ⟨rfl, rfl, rfl, rfl, rfl, rfl, le_refl _⟩

/-- Inserting a proposal touches the proposals and the generator only. -/
theorem proposing
    (s : Stores)
    (projectId : ProjectId)
    (proposal : Proposal)
    (now : Nat) :
    SameAccess s (s.proposing projectId proposal now) :=
  ⟨rfl, rfl, rfl, rfl, rfl, rfl, Nat.le_succ _⟩

/-- Recording a canister touches the canisters and the generator only. -/
theorem recordCanister
    (projectId : ProjectId)
    (s : Stores)
    (principal : Principal) :
    SameAccess s (CanisterService.recordCanister projectId s principal) :=
  ⟨rfl, rfl, rfl, rfl, rfl, rfl, Nat.le_succ _⟩

end SameAccess

namespace CanisterService

variable {Holds : Stores → Prop}

/-- Adopting the orphans of one parent records each of them under the project. -/
private theorem foldl_adoptOrphan
    {projectId : ProjectId}
    {parent : Principal}
    {children : List Principal}
    {s : Stores}
    (recorded :
      ∀ s projectId principal canisterId,
        Holds s → s.canister.getCanisterProjectId canisterId = some projectId →
          Holds (recordCanister projectId s principal))
    (orphaned : ∀ s orphans, Holds s → Holds { s with orphanedCanister := orphans })
    (known : ∃ canisterId, s.canister.getCanisterProjectId canisterId = some projectId)
    (holds : Holds s) :
    Holds (children.foldl (adoptOrphan projectId parent) s) ∧
      ∃ canisterId,
        (children.foldl (adoptOrphan projectId parent) s).canister.getCanisterProjectId
          canisterId = some projectId := by
  induction children generalizing s with
  | nil =>
      exact ⟨holds, known⟩
  | cons child rest inductionHypothesis =>
      obtain ⟨canisterId, project⟩ := known
      apply inductionHypothesis
      · refine ⟨s.nextId, ?_⟩
        change (s.canister.canisterProjectIndex.insert s.nextId projectId)[s.nextId]? = _
        simp
      · exact orphaned _ _ (recorded s projectId child canisterId holds project)

/-- Adopting descendants records each of them under the project. -/
private theorem adoptDescendants_induction
    {projectId : ProjectId}
    {rounds : Nat}
    {stack : List Principal}
    {s : Stores}
    (recorded :
      ∀ s projectId principal canisterId,
        Holds s → s.canister.getCanisterProjectId canisterId = some projectId →
          Holds (recordCanister projectId s principal))
    (orphaned : ∀ s orphans, Holds s → Holds { s with orphanedCanister := orphans })
    (known : ∃ canisterId, s.canister.getCanisterProjectId canisterId = some projectId)
    (holds : Holds s) :
    Holds (adoptDescendants projectId rounds stack s) := by
  induction rounds generalizing stack s with
  | zero =>
      exact holds
  | succ rounds inductionHypothesis =>
      cases stack with
      | nil =>
          exact holds
      | cons parent stack =>
          obtain ⟨adopted, stillKnown⟩ := foldl_adoptOrphan recorded orphaned known holds
          exact inductionHypothesis stillKnown adopted

/-- What recording under a known project keeps, `add_child_canisters` keeps. -/
theorem addChildCanisters_induction
    {mappings : List Dto.ParentChildMapping}
    {s : Stores}
    (recorded :
      ∀ s projectId principal canisterId,
        Holds s → s.canister.getCanisterProjectId canisterId = some projectId →
          Holds (recordCanister projectId s principal))
    (orphaned : ∀ s orphans, Holds s → Holds { s with orphanedCanister := orphans })
    (holds : Holds s) :
    Holds (mappings.foldl addChildCanister s) := by
  induction mappings generalizing s with
  | nil =>
      exact holds
  | cons mapping rest inductionHypothesis =>
      refine inductionHypothesis ?_
      unfold addChildCanister
      dsimp only
      split
      · exact holds
      · split
        · rename_i projectId found
          obtain ⟨canisterId, -, project⟩ := Option.bind_eq_some_iff.mp found
          refine
            adoptDescendants_induction recorded orphaned ⟨s.nextId, ?_⟩
              (recorded s projectId _ canisterId holds project)
          change (s.canister.canisterProjectIndex.insert s.nextId projectId)[s.nextId]? = _
          simp
        · exact orphaned _ _ holds

end CanisterService

/-- The start of an execution touches the proposals only. -/
theorem ExecutionStart.sameAccess
    {origin : ExecutionOrigin}
    {now : Nat}
    {projectId : ProjectId}
    {proposalId : ProposalId}
    {s after : Stores}
    {operation : ProposalOperation}
    {progress : Progress}
    (start : ExecutionStart origin now projectId proposalId s operation progress after) :
    SameAccess s after := by
  cases start with
  | awaitCreation _ | awaitStatus =>
      exact .overwriteStatus _ _ _ _
  | quotaExceeded _ =>
      exact (SameAccess.overwriteStatus _ _ _ _).trans (.overwriteStatus _ _ _ _)

/-- The proposal operations leave access control alone. -/
theorem ProposalWrite.sameAccess
    {call : Call}
    {s after : Stores}
    {request : Request}
    {result : Except ApiError Slot}
    (write : ProposalWrite call s request result after) :
    SameAccess s after := by
  cases write with
  | leaveOpen =>
      exact .proposing _ _ _ _
  | awaitApproval =>
      exact (SameAccess.proposing _ _ _ _).trans (.overwriteStatus _ _ _ _)
  | executeNew _ _ _ start _ =>
      exact (SameAccess.proposing _ _ _ _).trans start.sameAccess
  | recordVote | cancel =>
      exact .overwriteStatus _ _ _ _
  | executeApproved _ _ _ _ start _ =>
      exact (SameAccess.overwriteStatus _ _ _ _).trans start.sameAccess

/-- The policy and billing operations leave access control alone. -/
theorem PolicyWrite.sameAccess
    {call : Call}
    {s after : Stores}
    {request : Request}
    (write : PolicyWrite call s request after) :
    SameAccess s after := by
  cases write with
  | @upsertApprovalPolicy _ _ _ _ operation policy auth parsed granted =>
      obtain ⟨policies, drawn, grown, written⟩ :=
        ApprovalPolicyRepository.upsertApprovalPolicy_frame auth.projectId operation policy s
      rw [written]
      exact ⟨rfl, rfl, rfl, rfl, rfl, rfl, grown⟩
  | setOrgPlan =>
      exact ⟨rfl, rfl, rfl, rfl, rfl, rfl, le_refl _⟩

/-- The canister operations leave access control alone. -/
theorem CanisterWrite.sameAccess
    {call : Call}
    {s after : Stores}
    {request : Request}
    {slot : Slot}
    (write : CanisterWrite call s request slot after) :
    SameAccess s after := by
  cases write with
  | removeMyCanister | updateMyCanisterName | startMyCanister | stopMyCanister =>
      exact ⟨rfl, rfl, rfl, rfl, rfl, rfl, le_refl _⟩
  | addChildCanisters =>
      apply CanisterService.addChildCanisters_induction
      · intro earlier projectId principal _ same _
        exact same.trans (.recordCanister projectId earlier principal)
      · intro earlier orphans same
        exact same.trans ⟨rfl, rfl, rfl, rfl, rfl, rfl, le_refl _⟩
      · exact .refl s

/-- Taking up a reply leaves access control alone. -/
theorem Resumption.sameAccess
    {now : Nat}
    {s after : Stores}
    {inFlight : InFlight}
    {reply : Reply}
    {suspended : List InFlight}
    (resumed : Resumption now s inFlight reply suspended after) :
    SameAccess s after := by
  cases resumed with
  | recordCanister =>
      exact (SameAccess.recordCanister _ _ _).trans (.overwriteStatus _ _ _ _)
  | fail | settingsUpdated =>
      exact .overwriteStatus _ _ _ _
  | updateSettings | commandAnswered =>
      exact .refl s

/-- Founding an organization leaves the operations alone. -/
theorem SameOperations.founding
    (s : Stores)
    (userId : UserId)
    (org : Organization) :
    SameOperations s (s.founding userId org) := by
  obtain ⟨policies, drawn, grown, founded⟩ := s.founding_eq userId org
  rw [founded]
  exact ⟨rfl, rfl, rfl, (Nat.le_add_right _ 3).trans grown⟩

/-- Signing up leaves the operations alone. -/
theorem SameOperations.signingUp
    (s : Stores)
    (caller : Principal) :
    SameOperations s (s.signingUp caller) := by
  have founded :=
    SameOperations.founding
      { s with
        userProfile :=
          (s.userProfile.createUserProfile s.nextId caller .default).incrementUserCount false
        drawn := s.drawn + 1 }
      s.nextId OrganizationRepository.defaultOrganization
  exact
    ⟨founded.proposal, founded.canister, founded.orphanedCanister,
      (Nat.le_succ _).trans founded.drawn⟩

/-- The membership operations leave the operations alone. -/
theorem MembershipWrite.sameOperations
    {call : Call}
    {s after : Stores}
    {request : Request}
    (write : MembershipWrite call s request after) :
    SameOperations s after := by
  cases write with
  | createOrganization =>
      exact .founding _ _ _
  | createTeam | createProject =>
      exact ⟨rfl, rfl, rfl, Nat.le_succ _⟩
  | _ =>
      exact ⟨rfl, rfl, rfl, le_refl _⟩

/-- Founding an organization leaves accounts and invites alone. -/
theorem SameAccounts.founding
    (s : Stores)
    (userId : UserId)
    (org : Organization) :
    SameAccounts s (s.founding userId org) ∧ (s.founding userId org).invite = s.invite := by
  obtain ⟨policies, drawn, -, founded⟩ := s.founding_eq userId org
  rw [founded]
  exact ⟨⟨rfl, rfl⟩, rfl⟩

/-- The membership operations leave accounts and invites alone. -/
theorem MembershipWrite.sameAccounts
    {call : Call}
    {s after : Stores}
    {request : Request}
    (write : MembershipWrite call s request after) :
    SameAccounts s after ∧ after.invite = s.invite := by
  cases write with
  | @createOrganization userId _ name _ _ =>
      exact SameAccounts.founding s userId ⟨name.text⟩
  | _ =>
      exact ⟨⟨rfl, rfl⟩, rfl⟩

/-- The invite operations leave the accounts alone. -/
theorem InviteWrite.sameAccounts
    {call : Call}
    {s after : Stores}
    {request : Request}
    (write : InviteWrite call s request after) :
    SameAccounts s after := by
  cases write <;> exact ⟨rfl, rfl⟩

/-- The invite operations leave the operations alone. -/
theorem InviteWrite.sameOperations
    {call : Call}
    {s after : Stores}
    {request : Request}
    (write : InviteWrite call s request after) :
    SameOperations s after := by
  cases write with
  | create =>
      exact ⟨rfl, rfl, rfl, Nat.le_succ _⟩
  | _ =>
      exact ⟨rfl, rfl, rfl, le_refl _⟩

/-- The account operations leave the operations alone. -/
theorem AccountWrite.sameOperations
    {call : Call}
    {s after : Stores}
    {request : Request}
    (write : AccountWrite call s request after) :
    SameOperations s after := by
  cases write with
  | makeDecision | createTermsAndConditions =>
      exact ⟨rfl, rfl, rfl, Nat.le_succ _⟩
  | _ =>
      exact ⟨rfl, rfl, rfl, le_refl _⟩

omit [Host] in
/-- Storing a profile under a known identifier keeps the set of users. -/
private theorem mem_storeProfile
    {state before : UserProfileState}
    {userId other : UserId}
    {stored profile : UserProfile}
    (found : before.getUserProfileByUserId userId = some stored)
    (kept : state.profiles = before.profiles) :
    other ∈ (state.storeProfile userId profile).profiles ↔ other ∈ before.profiles := by
  change other ∈ state.profiles.insert userId profile ↔ _
  rw [StableIndex.mem_insert_entry, kept, or_iff_left_iff_imp]
  rintro rfl
  rw [ExtTreeMap.mem_iff_isSome_getElem?]
  exact Option.isSome_of_eq_some found

/-- The account operations keep the users and the membership stores. -/
theorem AccountWrite.sameMembership
    {call : Call}
    {s after : Stores}
    {request : Request}
    (write : AccountWrite call s request after) :
    SameMembership s after := by
  cases write with
  | @updateStatus _ status userId profile _ stored =>
      refine ⟨rfl, rfl, rfl, rfl, rfl, rfl, fun _ => mem_storeProfile stored ?_, le_refl _⟩
      obtain ⟨stats, moved⟩ :=
        s.userProfile.updateUserStatusCount_frame (decide (profile.status = .active))
          (decide ((status.map mapUserStatusRequest).getD profile.status = .active))
      rw [moved]
  | keepEmail _ stored | setEmail _ stored _ _ | grantStaffPermissions _ _ stored
  | revokeStaffPermissions _ stored =>
      exact ⟨rfl, rfl, rfl, rfl, rfl, rfl, fun _ => mem_storeProfile stored rfl, le_refl _⟩
  | @replaceVerifiedEmail _ userId profile _ _ stored _ _ _ =>
      refine ⟨rfl, rfl, rfl, rfl, rfl, rfl, fun _ => mem_storeProfile stored ?_, le_refl _⟩
      obtain ⟨emails, released⟩ := s.userProfile.releaseOwnEmail_frame userId profile
      rw [released]
  | verifyEmail _ _ stored _ _ claim =>
      obtain ⟨emails, rfl⟩ := UserProfileState.claimVerifiedEmail_frame claim
      exact ⟨rfl, rfl, rfl, rfl, rfl, rfl, fun _ => mem_storeProfile stored rfl, le_refl _⟩
  | linkMyPrincipal _ _ _ link | adminLinkPrincipalToUser _ _ _ _ _ link
  | recoverAccountByEmail _ _ _ _ _ link =>
      obtain ⟨-, -, rfl⟩ := UserProfileState.linkPrincipalToUser_ok link
      exact ⟨rfl, rfl, rfl, rfl, rfl, rfl, fun _ => Iff.rfl, le_refl _⟩
  | unlinkMyPrincipal _ unlink | adminUnlinkPrincipalFromUser _ _ unlink =>
      obtain rfl := UserProfileState.unlinkPrincipalFromUser_ok unlink
      exact ⟨rfl, rfl, rfl, rfl, rfl, rfl, fun _ => Iff.rfl, le_refl _⟩
  | setMyPrincipalName _ _ rename =>
      obtain ⟨names, rfl⟩ := UserProfileState.setPrincipalName_ok rename
      exact ⟨rfl, rfl, rfl, rfl, rfl, rfl, fun _ => Iff.rfl, le_refl _⟩
  | makeDecision | createTermsAndConditions =>
      exact ⟨rfl, rfl, rfl, rfl, rfl, rfl, fun _ => Iff.rfl, Nat.le_succ _⟩
  | _ =>
      exact ⟨rfl, rfl, rfl, rfl, rfl, rfl, fun _ => Iff.rfl, le_refl _⟩

/-- The account operations give a principal to a stored account only. -/
theorem AccountWrite.principalIndex
    {call : Call}
    {s after : Stores}
    {request : Request}
    {principal : Principal}
    {userId : UserId}
    (write : AccountWrite call s request after)
    (resolved : after.userProfile.getUserIdByPrincipal principal = some userId) :
    s.userProfile.getUserIdByPrincipal principal = some userId ∨
      userId ∈ s.userProfile.profiles := by
  cases write with
  | @updateStatus _ status _ profile _ _ =>
      obtain ⟨stats, moved⟩ :=
        s.userProfile.updateUserStatusCount_frame (decide (profile.status = .active))
          (decide ((status.map mapUserStatusRequest).getD profile.status = .active))
      rw [moved] at resolved
      exact .inl resolved
  | @replaceVerifiedEmail _ userId profile _ _ _ _ _ _ =>
      obtain ⟨emails, released⟩ := s.userProfile.releaseOwnEmail_frame userId profile
      rw [released] at resolved
      exact .inl resolved
  | verifyEmail _ _ _ _ _ claim =>
      obtain ⟨emails, rfl⟩ := UserProfileState.claimVerifiedEmail_frame claim
      exact .inl resolved
  | linkMyPrincipal _ _ _ link | adminLinkPrincipalToUser _ _ _ _ _ link
  | recoverAccountByEmail _ _ _ _ _ link =>
      obtain ⟨stored, -, rfl⟩ := UserProfileState.linkPrincipalToUser_ok link
      simp only [UserProfileState.getUserIdByPrincipal, StableIndex.getElem?_insert_entry]
        at resolved ⊢
      split at resolved
      · cases resolved
        exact .inr stored
      · exact .inl resolved
  | unlinkMyPrincipal _ unlink | adminUnlinkPrincipalFromUser _ _ unlink =>
      obtain rfl := UserProfileState.unlinkPrincipalFromUser_ok unlink
      simp only [UserProfileState.getUserIdByPrincipal, StableIndex.getElem?_erase_entry]
        at resolved ⊢
      split at resolved
      · cases resolved
      · exact .inl resolved
  | setMyPrincipalName _ _ rename =>
      obtain ⟨names, rfl⟩ := UserProfileState.setPrincipalName_ok rename
      exact .inl resolved
  | _ =>
      exact .inl resolved

/-- The policy and billing operations leave the operations alone. -/
theorem PolicyWrite.sameOperations
    {call : Call}
    {s after : Stores}
    {request : Request}
    (write : PolicyWrite call s request after) :
    SameOperations s after := by
  cases write with
  | @upsertApprovalPolicy _ _ _ _ operation policy auth parsed granted =>
      obtain ⟨policies, drawn, grown, written⟩ :=
        ApprovalPolicyRepository.upsertApprovalPolicy_frame auth.projectId operation policy s
      rw [written]
      exact ⟨rfl, rfl, rfl, grown⟩
  | setOrgPlan =>
      exact ⟨rfl, rfl, rfl, le_refl _⟩

/-- How a handled message reaches the proposals and the canisters. -/
inductive Operates (call : Call) (s : Stores) :
    Request → Except Failure Slot → Stores → Prop
  | elsewhere
      {request : Request}
      {result : Except Failure Slot}
      {after : Stores}
      (same : SameOperations s after)
      (answered : suspendedBy result = []) :
      Operates call s request result after
  | proposal
      {request : Request}
      {result : Except ApiError Slot}
      {after : Stores}
      (write : ProposalWrite call s request result after) :
      Operates call s request (result.mapError .api) after
  | canister
      {request : Request}
      {slot : Slot}
      {after : Stores}
      (write : CanisterWrite call s request slot after) :
      Operates call s request (.ok slot) after

/-- Only proposal and canister operations reach the proposals and the canisters. -/
theorem Handled.operates
    {call : Call}
    {s after : Stores}
    {request : Request}
    {result : Except Failure Slot}
    (handled : Handled call s request result after) :
    Operates call s request result after := by
  cases handled with
  | refused => exact .elsewhere ⟨rfl, rfl, rfl, le_refl _⟩ rfl
  | signUp _ => exact .elsewhere (.signingUp _ _) rfl
  | membership write answered => exact .elsewhere write.sameOperations answered
  | invite write answered => exact .elsewhere write.sameOperations answered
  | account write answered => exact .elsewhere write.sameOperations answered
  | policy write => exact .elsewhere write.sameOperations rfl
  | proposal write => exact .proposal write
  | canister write => exact .canister write

/-- How a handled message reaches the accounts. -/
inductive ReachesAccounts (call : Call) (s : Stores) : Request → Stores → Prop
  | elsewhere
      {request : Request}
      {after : Stores}
      (same : SameAccounts s after) :
      ReachesAccounts call s request after
  | signUp
      (unclaimed : assertPrincipalIsUnclaimed call.caller s = .ok ()) :
      ReachesAccounts call s .createMyUserProfile (s.signingUp call.caller)
  | account
      {request : Request}
      {after : Stores}
      (write : AccountWrite call s request after) :
      ReachesAccounts call s request after

omit [Host] in
/-- Stores that access control does not tell apart have the same accounts. -/
theorem SameAccess.sameAccounts
    {s after : Stores}
    (same : SameAccess s after) :
    SameAccounts s after :=
  ⟨same.userProfile, same.servicePrincipal⟩

/-- Only sign-ups and account operations reach the accounts. -/
theorem Handled.reachesAccounts
    {call : Call}
    {s after : Stores}
    {request : Request}
    {result : Except Failure Slot}
    (handled : Handled call s request result after) :
    ReachesAccounts call s request after := by
  cases handled with
  | refused => exact .elsewhere ⟨rfl, rfl⟩
  | signUp unclaimed => exact .signUp unclaimed
  | membership write _ => exact .elsewhere write.sameAccounts.1
  | invite write _ => exact .elsewhere write.sameAccounts
  | account write _ => exact .account write
  | policy write => exact .elsewhere write.sameAccess.sameAccounts
  | proposal write => exact .elsewhere write.sameAccess.sameAccounts
  | canister write => exact .elsewhere write.sameAccess.sameAccounts

/-- The stores of terms, policies, plans and link codes are untouched. -/
structure SameSettings (s after : Stores) : Prop where
  terms : after.terms = s.terms
  approvalPolicy : after.approvalPolicy = s.approvalPolicy
  billingPlan : after.billingPlan = s.billingPlan
  pendingLinkCodes : after.pendingLinkCodes = s.pendingLinkCodes

omit [Host] in
/-- Untouched twice is untouched. -/
theorem SameSettings.trans
    {s middle after : Stores}
    (first : SameSettings s middle)
    (second : SameSettings middle after) :
    SameSettings s after where
  terms := second.terms.trans first.terms
  approvalPolicy := second.approvalPolicy.trans first.approvalPolicy
  billingPlan := second.billingPlan.trans first.billingPlan
  pendingLinkCodes := second.pendingLinkCodes.trans first.pendingLinkCodes

/-- The start of an execution leaves the settings alone. -/
theorem ExecutionStart.sameSettings
    {origin : ExecutionOrigin}
    {now : Nat}
    {projectId : ProjectId}
    {proposalId : ProposalId}
    {s after : Stores}
    {operation : ProposalOperation}
    {progress : Progress}
    (start : ExecutionStart origin now projectId proposalId s operation progress after) :
    SameSettings s after := by
  cases start <;> exact ⟨rfl, rfl, rfl, rfl⟩

/-- The proposal operations leave the settings alone. -/
theorem ProposalWrite.sameSettings
    {call : Call}
    {s after : Stores}
    {request : Request}
    {result : Except ApiError Slot}
    (write : ProposalWrite call s request result after) :
    SameSettings s after := by
  cases write with
  | leaveOpen | awaitApproval | recordVote | cancel =>
      exact ⟨rfl, rfl, rfl, rfl⟩
  | executeNew _ _ _ start _ | executeApproved _ _ _ _ start _ =>
      refine SameSettings.trans ?_ start.sameSettings
      exact ⟨rfl, rfl, rfl, rfl⟩

/-- Taking up a reply leaves the settings alone. -/
theorem Resumption.sameSettings
    {now : Nat}
    {s after : Stores}
    {inFlight : InFlight}
    {reply : Reply}
    {suspended : List InFlight}
    (resumed : Resumption now s inFlight reply suspended after) :
    SameSettings s after := by
  cases resumed <;> exact ⟨rfl, rfl, rfl, rfl⟩

end SsnConsole.Backend
