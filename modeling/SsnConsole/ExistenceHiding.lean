import SsnConsole.BackendFrames
import SsnConsole.EndpointRuns
import SsnConsole.ForeignResources
import SsnConsole.TextualHost

/-!
# Hiding that a resource exists

Two states that look the same to an account may differ in the resources of
organizations it does not belong to.  Whether an endpoint then answers the same
about such a resource depends on the first row it looks up: projects, teams and
proposals are answered for with one error each, while a canister's answer tells
whether the canister is recorded.
-/

namespace SsnConsole.Backend

open SsnConsole.MessageRun
open SsnConsole.MessageSlice

/-- Two states hold the same rows of a resource. -/
def SameRows (first second : Stores) (uuid : Nat) : ResourceKind → Prop
  | .project =>
      first.project.getProject ⟨uuid⟩ = second.project.getProject ⟨uuid⟩ ∧
        first.project.listProjectTeamIds ⟨uuid⟩ = second.project.listProjectTeamIds ⟨uuid⟩ ∧
        (∀ teamId,
          first.project.getProjectTeamPermissions ⟨uuid⟩ teamId =
            second.project.getProjectTeamPermissions ⟨uuid⟩ teamId) ∧
        ∀ operationType,
          first.approvalPolicy.getProjectApprovalPolicyByOperationType ⟨uuid⟩ operationType =
            second.approvalPolicy.getProjectApprovalPolicyByOperationType ⟨uuid⟩ operationType
  | .team =>
      first.team.getTeam ⟨uuid⟩ = second.team.getTeam ⟨uuid⟩ ∧
        first.team.listTeamUserIds ⟨uuid⟩ = second.team.listTeamUserIds ⟨uuid⟩
  | .proposal => first.proposal.getProposal ⟨uuid⟩ = second.proposal.getProposal ⟨uuid⟩
  | .canister =>
      first.canister.getCanister ⟨uuid⟩ = second.canister.getCanister ⟨uuid⟩ ∧
        first.canister.getCanisterProjectId ⟨uuid⟩ =
          second.canister.getCanisterProjectId ⟨uuid⟩

/-- Two states hold the same rows of an organization. -/
structure SameOrganization (orgId : OrgId) (first second : Stores) : Prop where
  record : first.organization.getOrg orgId = second.organization.getOrg orgId
  members : first.organization.listOrgUsers orgId = second.organization.listOrgUsers orgId
  permissions :
    ∀ teamId,
      first.team.getOrgTeamPermissions orgId teamId =
        second.team.getOrgTeamPermissions orgId teamId
  owned :
    ∀ uuid kind,
      first.ownerOf uuid kind = some orgId ↔ second.ownerOf uuid kind = some orgId
  rows :
    ∀ uuid kind, first.ownerOf uuid kind = some orgId → SameRows first second uuid kind
  invites :
    ∀ inviteId invite, invite.orgId = orgId →
      (first.invite.getInvite inviteId = some invite ↔
        second.invite.getInvite inviteId = some invite)
  billingPlan :
    first.billingPlan.billingPlans[orgId]? = second.billingPlan.billingPlans[orgId]?

/-- Two states agree on an account's own rows and on all rows of its organizations. -/
structure SameView (userId : UserId) (first second : Stores) : Prop where
  profile :
    first.userProfile.getUserProfileByUserId userId =
      second.userProfile.getUserProfileByUserId userId
  principals :
    ∀ principal,
      first.userProfile.getUserIdByPrincipal principal = some userId ↔
        second.userProfile.getUserIdByPrincipal principal = some userId
  names :
    ∀ principal : Principal,
      first.userProfile.principalNames[(userId, principal)]? =
        second.userProfile.principalNames[(userId, principal)]?
  verifiedEmails :
    ∀ key : VerifiedEmailKey,
      first.userProfile.verifiedEmailIndex[key]? = some userId ↔
        second.userProfile.verifiedEmailIndex[key]? = some userId
  linkCode : first.pendingLinkCodes[userId]? = second.pendingLinkCodes[userId]?
  decisions :
    ∀ termsId,
      first.terms.hasAcceptedTermsAndConditions userId termsId =
        second.terms.hasAcceptedTermsAndConditions userId termsId
  teams : first.team.listUserTeamIds userId = second.team.listUserTeamIds userId
  memberships :
    ∀ orgId,
      first.organization.isUserInOrg userId orgId =
        second.organization.isUserInOrg userId orgId
  organizations :
    ∀ orgId, first.organization.isUserInOrg userId orgId = true →
      SameOrganization orgId first second

section Hiding

variable [Host]

/-- The rows outside the account's view that the answer still depends on are the same.

The endpoints of proposals check the latest terms and conditions first, which
are no row of the account; those of canisters report the recorded project. -/
def ResourceEndpoint.Conceals (receiver : ResourceEndpoint) (call : Call) (userId : UserId)
    (resource : String) (first second : Stores) : Prop :=
  match receiver.kind with
  | .project | .team => True
  | .proposal =>
      call.caller = Principal.anonymous ∨ call.isController call.caller = true ∨
        first.terms.hasAcceptedLatestTermsAndConditions userId =
          second.terms.hasAcceptedLatestTermsAndConditions userId
  | .canister =>
      call.caller = Principal.anonymous ∨
        ∀ uuid, Host.parseUuid resource = some uuid →
          (first.canister.getCanisterProjectId ⟨uuid⟩).map Id.text =
            (second.canister.getCanisterProjectId ⟨uuid⟩).map Id.text

section Texts

/-- The error about a project tells the text of its identifier, and nothing else. -/
theorem projectNotFoundOrNoAccess_inj
    {projectId other : ProjectId} :
    projectNotFoundOrNoAccess projectId = projectNotFoundOrNoAccess other ↔
      projectId.text = other.text := by
  constructor
  · intro same
    have messages := congrArg (fun error => error.message.toList) same
    apply String.toList_inj.mp
    simpa [projectNotFoundOrNoAccess, ApiError.clientError, toString] using messages
  · intro same
    rw [projectNotFoundOrNoAccess, same]
    rfl

/-- The errors about an unknown canister and an inaccessible project differ. -/
theorem canisterNotFound_ne_projectNotFound
    {canisterId : CanisterId}
    {projectId : ProjectId} :
    CanisterService.canisterNotFound canisterId ≠ projectNotFoundOrNoAccess projectId := by
  intro same
  have messages := congrArg (fun error => error.message.toList) same
  simp [projectNotFoundOrNoAccess, CanisterService.canisterNotFound, ApiError.clientError,
    toString] at messages

/-- A canister's error tells whether it is recorded and the text of its project. -/
theorem canisterRefusal_eq_iff
    {uuid : Nat}
    {first second : Stores} :
    ResourceKind.refusal uuid first .canister = ResourceKind.refusal uuid second .canister ↔
      (first.canister.getCanisterProjectId ⟨uuid⟩).map Id.text =
        (second.canister.getCanisterProjectId ⟨uuid⟩).map Id.text := by
  unfold ResourceKind.refusal
  dsimp only
  rcases first.canister.getCanisterProjectId ⟨uuid⟩ with _ | projectId <;>
    rcases second.canister.getCanisterProjectId ⟨uuid⟩ with _ | other
  · simp
  · simpa using canisterNotFound_ne_projectNotFound
  · simpa using canisterNotFound_ne_projectNotFound.symm
  · simpa using projectNotFoundOrNoAccess_inj

end Texts

section Gates

variable {call : Call} {userId : UserId} {first second s : Stores}

/-- The error of an account that has not accepted the latest terms. -/
def termsNotAccepted : ApiError :=
  .unauthorized "The latest terms and conditions must be accepted to perform this action."

/-- The platform check of an account that is neither anonymous nor a controller. -/
theorem assertHasPlatformAccess_of_account
    (authenticated : call.caller ≠ Principal.anonymous)
    (notController : call.isController call.caller = false)
    (account : s.userProfile.getUserIdByPrincipal call.caller = some userId) :
    assertHasPlatformAccess call s =
      if s.terms.hasAcceptedLatestTermsAndConditions userId = true then
        match s.userProfile.getUserProfileByUserId userId with
        | none => .error (.unauthorized "User profile not found.")
        | some profile =>
            if profile.status = .inactive then
              .error (.unauthorized "Inactive users cannot perform this action.")
            else
              .ok ()
      else
        .error termsNotAccepted := by
  have known : s.userProfile.assertUserIdByPrincipal call.caller = .ok userId := by
    rw [UserProfileState.assertUserIdByPrincipal, account]
  simp only [assertHasPlatformAccess, assertAuthenticated, if_neg authenticated, notController,
    known, bind, Except.bind]
  cases s.terms.hasAcceptedLatestTermsAndConditions userId <;> rfl

/-- The platform check depends on the account, its profile and its accepted terms. -/
theorem assertHasPlatformAccess_congr
    (account : first.userProfile.getUserIdByPrincipal call.caller = some userId)
    (view : SameView userId first second)
    (standing :
      call.caller = Principal.anonymous ∨ call.isController call.caller = true ∨
        first.terms.hasAcceptedLatestTermsAndConditions userId =
          second.terms.hasAcceptedLatestTermsAndConditions userId) :
    assertHasPlatformAccess call first = assertHasPlatformAccess call second := by
  have linked := (view.principals call.caller).mp account
  by_cases authenticated : call.caller = Principal.anonymous
  · simp only [assertHasPlatformAccess, assertAuthenticated, if_pos authenticated, bind,
      Except.bind]
  · cases controls : call.isController call.caller with
    | true =>
        simp only [assertHasPlatformAccess, controls, if_true]
    | false =>
        have same :
            first.terms.hasAcceptedLatestTermsAndConditions userId =
              second.terms.hasAcceptedLatestTermsAndConditions userId := by
          rcases standing with anonymous | controller | same
          · exact (authenticated anonymous).elim
          · rw [controls] at controller
            cases controller
          · exact same
        rw [assertHasPlatformAccess_of_account authenticated controls account,
          assertHasPlatformAccess_of_account authenticated controls linked, same, view.profile]

end Gates

section Refusals

variable {call : Call} {userId : UserId} {first second : Stores} {resource : String}

/-- Unparsable arguments are the client's error. -/
theorem ResourceEndpoint.parsed_error_code
    {receiver : ResourceEndpoint}
    {error : ApiError}
    (failed : receiver.parsed resource = .error error) :
    error.code = some .clientError := by
  rcases read : Host.parseUuid resource with _ | uuid
  · rw [parsed_of_unread read] at failed
    cases failed
    rfl
  · rw [parsed_of_read read] at failed
    split at failed
    · rename_i target
      have unread := map_eq_error.mp failed
      rcases readTarget : Host.parseUuid target with _ | targetUuid
      · rw [Id.tryFrom_eq_error readTarget] at unread
        cases unread
        rfl
      · rw [Id.tryFrom_eq_ok readTarget] at unread
        cases unread
    · cases failed

/-- What a proposal endpoint answers tells whether the latest terms are accepted. -/
theorem proposalRefusal_eq_terms_iff
    {receiver : ResourceEndpoint}
    {s : Stores}
    (looksUp : receiver.kind = .proposal)
    (authenticated : call.caller ≠ Principal.anonymous)
    (notController : call.isController call.caller = false)
    (account : s.userProfile.getUserIdByPrincipal call.caller = some userId) :
    receiver.refusal call resource s = termsNotAccepted ↔
      s.terms.hasAcceptedLatestTermsAndConditions userId = false := by
  unfold ResourceEndpoint.refusal
  rw [looksUp]
  dsimp only [ResourceKind.gate]
  rw [assertHasPlatformAccess_of_account authenticated notController account]
  cases s.terms.hasAcceptedLatestTermsAndConditions userId with
  | false =>
      simp
  | true =>
      have accepted : ¬(true = false) := by
        decide
      rw [iff_false_right accepted, if_pos rfl]
      cases s.userProfile.getUserProfileByUserId userId with
      | none =>
          change ¬ApiError.unauthorized "User profile not found." = termsNotAccepted
          decide
      | some profile =>
          by_cases inactive : profile.status = .inactive
          · simp only [inactive, if_true]
            decide
          · simp only [inactive, if_false]
            intro same
            have code := congrArg ApiError.code same
            cases parsed : receiver.parsed resource with
            | error error =>
                rw [parsed] at code
                rw [ResourceEndpoint.parsed_error_code parsed] at code
                cases code
            | ok uuid =>
                rw [parsed] at code
                cases code

/-- An endpoint refuses a foreign resource alike exactly when it conceals it. -/
theorem refusal_eq_iff_conceals
    {receiver : ResourceEndpoint}
    (account : first.userProfile.getUserIdByPrincipal call.caller = some userId)
    (view : SameView userId first second) :
    receiver.refusal call resource first = receiver.refusal call resource second ↔
      receiver.Conceals call userId resource first second := by
  have linked := (view.principals call.caller).mp account
  unfold ResourceEndpoint.Conceals
  cases looksUp : receiver.kind with
  | project | team =>
      unfold ResourceEndpoint.refusal
      rw [looksUp]
      exact iff_of_true rfl trivial
  | proposal =>
      constructor
      · intro same
        by_cases authenticated : call.caller = Principal.anonymous
        · exact .inl authenticated
        · cases controls : call.isController call.caller with
          | true =>
              exact .inr (.inl rfl)
          | false =>
              have toldFirst :
                  receiver.refusal call resource first = termsNotAccepted ↔
                    first.terms.hasAcceptedLatestTermsAndConditions userId = false :=
                proposalRefusal_eq_terms_iff looksUp authenticated controls account
              have toldSecond :
                  receiver.refusal call resource second = termsNotAccepted ↔
                    second.terms.hasAcceptedLatestTermsAndConditions userId = false :=
                proposalRefusal_eq_terms_iff looksUp authenticated controls linked
              rw [same, toldSecond] at toldFirst
              refine .inr (.inr (Bool.eq_iff_iff.mpr ?_))
              rw [← Bool.not_eq_false, ← Bool.not_eq_false, toldFirst]
      · intro standing
        unfold ResourceEndpoint.refusal
        rw [looksUp]
        dsimp only [ResourceKind.gate]
        rw [assertHasPlatformAccess_congr account view standing]
        rfl
  | canister =>
      unfold ResourceEndpoint.refusal
      rw [looksUp]
      dsimp only [ResourceKind.gate]
      by_cases authenticated : call.caller = Principal.anonymous
      · rw [assertAuthenticated, if_pos authenticated]
        exact iff_of_true rfl (.inl authenticated)
      · rw [assertAuthenticated, if_neg authenticated]
        dsimp only
        rcases read : Host.parseUuid resource with _ | uuid
        · rw [ResourceEndpoint.parsed_of_unread read]
          simp
        · have parsed : receiver.parsed resource = .ok uuid := by
            rw [ResourceEndpoint.parsed_of_read read]
            cases receiver with
            | addUserToTeam target =>
                cases looksUp
            | _ =>
                rfl
          rw [parsed]
          dsimp only
          rw [canisterRefusal_eq_iff]
          constructor
          · rintro same
            refine .inr fun named isNamed => ?_
            cases isNamed
            exact same
          · rintro (anonymous | same)
            · exact (authenticated anonymous).elim
            · exact same uuid rfl

end Refusals

/-- An endpoint answers alike about a foreign resource exactly when it conceals it. -/
theorem existenceHidden_iff_conceals
    {first second : Stores}
    {call : Call}
    {userId : UserId}
    {receiver : ResourceEndpoint}
    {resource : String}
    (account : first.userProfile.getUserIdByPrincipal call.caller = some userId)
    (view : SameView userId first second)
    (foreignFirst : first.Foreign userId resource)
    (foreignSecond : second.Foreign userId resource) :
    receiver.respond call resource first = receiver.respond call resource second ↔
      receiver.Conceals call userId resource first second := by
  have linked := (view.principals call.caller).mp account
  rw [ResourceEndpoint.respond_eq_refusal account foreignFirst,
    ResourceEndpoint.respond_eq_refusal linked foreignSecond,
    ← refusal_eq_iff_conceals account view]
  simp

section Frames

/-- Creating a proposal leaves access control and the settings alone. -/
theorem World.Stepped.frames_createProposal
    {world after : World}
    {call : Call}
    {projectText : String}
    {requested : Option Dto.ProposalOperation}
    (stepped : world.Stepped (.message call (.createProposal projectText requested)) after) :
    SameAccess world.stores after.stores ∧ SameSettings world.stores after.stores := by
  cases stepped with
  | message handled =>
      cases handled with
      | refused =>
          exact ⟨.refl _, rfl, rfl, rfl, rfl⟩
      | proposal write =>
          exact ⟨write.sameAccess, write.sameSettings⟩
      | membership write =>
          cases write with
          | alreadyDone =>
              exact ⟨.refl _, rfl, rfl, rfl, rfl⟩
      | invite write | account write | policy write | canister write =>
          cases write

/-- Taking up a reply leaves access control and the settings alone. -/
theorem World.Stepped.frames_reply
    {world after : World}
    {now index : Nat}
    {reply : Reply}
    (stepped : world.Stepped (.reply now index reply) after) :
    SameAccess world.stores after.stores ∧ SameSettings world.stores after.stores := by
  cases stepped with
  | reply _ resumed =>
      exact ⟨resumed.sameAccess, resumed.sameSettings⟩

omit [Host] in
/-- Operations of other organizations leave an account's view alone. -/
theorem SameView.of_foreignOperations
    {s after : Stores}
    {userId : UserId}
    (access : SameAccess s after)
    (settings : SameSettings s after)
    (foreign :
      ∀ uuid kind orgId, kind = .proposal ∨ kind = .canister →
        s.ownerOf uuid kind = some orgId ∨ after.ownerOf uuid kind = some orgId →
          s.organization.isUserInOrg userId orgId = false) :
    SameView userId s after where
  profile := by rw [access.userProfile]
  principals := by simp only [access.userProfile, implies_true]
  names := by simp only [access.userProfile, implies_true]
  verifiedEmails := by simp only [access.userProfile, implies_true]
  linkCode := by rw [settings.pendingLinkCodes]
  decisions := by simp only [settings.terms, implies_true]
  teams := by rw [access.team]
  memberships := by simp only [access.organization, implies_true]
  organizations := by
    intro orgId member
    have sameProject (uuid : Nat) : after.ownerOf uuid .project = s.ownerOf uuid .project := by
      simp only [Stores.ownerOf, Stores.projectOrganization, access.project]
    have sameTeam (uuid : Nat) : after.ownerOf uuid .team = s.ownerOf uuid .team := by
      simp only [Stores.ownerOf, access.team]
    have absent {uuid : Nat} {kind : ResourceKind}
        (operation : kind = .proposal ∨ kind = .canister) :
        s.ownerOf uuid kind ≠ some orgId ∧ after.ownerOf uuid kind ≠ some orgId := by
      constructor
      · intro owned
        have outside := foreign uuid kind orgId operation (.inl owned)
        rw [member] at outside
        cases outside
      · intro owned
        have outside := foreign uuid kind orgId operation (.inr owned)
        rw [member] at outside
        cases outside
    exact
      { record := by rw [access.organization]
        members := by rw [access.organization]
        permissions := by simp only [access.team, implies_true]
        owned := by
          intro uuid kind
          cases kind with
          | project => rw [sameProject]
          | team => rw [sameTeam]
          | proposal => exact iff_of_false (absent (.inl rfl)).1 (absent (.inl rfl)).2
          | canister => exact iff_of_false (absent (.inr rfl)).1 (absent (.inr rfl)).2
        rows := by
          intro uuid kind owned
          cases kind with
          | project =>
              simp only [SameRows, access.project, settings.approvalPolicy, implies_true, and_self]
          | team =>
              simp only [SameRows, access.team, and_self]
          | proposal => exact ((absent (.inl rfl)).1 owned).elim
          | canister => exact ((absent (.inr rfl)).1 owned).elim
        invites := by simp only [access.invite, implies_true]
        billingPlan := by rw [settings.billingPlan] }

end Frames

end Hiding

section Disclosure

open TextualHost

attribute [local instance] host

/-- Two active founders; a canister is created in the project of the second one. -/
def strangersCanister : List Event :=
  [.message (callBy founder) .createMyUserProfile,
    .message (callBy colleague) .createMyUserProfile,
    .message (callBy operator) (.adminUpdateUserProfile (idText 0) (some .active)),
    .message (callBy operator) (.adminUpdateUserProfile (idText 6) (some .active)),
    .message (callBy colleague) (.createProposal (idText 9) (some .createCanister)),
    .reply 1700000000000000000 0 (.canisterCreated (principal 7))]

/-- The run in which the second founder's project gets its canister. -/
def disclosure : Execution World.endpointStep World.empty :=
  admittedRun strangersCanister (.reply 0 0 .done) (by decide +kernel)

/-- All proposals and canisters belong to the second founder's project. -/
private structure StrangersOnly (s : Stores) : Prop where
  proposals : ∀ row ∈ s.proposal.proposals.toList, row.2.projectId = ⟨draw 9⟩
  canisters : ∀ row ∈ s.canister.canisterProjectIndex.toList, row.2 = ⟨draw 9⟩
  project : s.projectOrganization ⟨draw 9⟩ = some ⟨draw 7⟩
  outside : s.organization.isUserInOrg ⟨draw 0⟩ ⟨draw 7⟩ = false

/-- The first founder is outside the owner of every proposal and canister. -/
private theorem StrangersOnly.foreign_operation
    {s : Stores}
    {uuid : Nat}
    {kind : ResourceKind}
    {orgId : OrgId}
    (strangers : StrangersOnly s)
    (operation : kind = .proposal ∨ kind = .canister)
    (owned : s.ownerOf uuid kind = some orgId) :
    orgId = ⟨draw 7⟩ := by
  have belongs : s.projectOrganization ⟨draw 9⟩ = some orgId := by
    rcases operation with rfl | rfl
    · obtain ⟨proposal, stored, belongs⟩ := Option.bind_eq_some_iff.mp owned
      rw [← strangers.proposals _ (Std.ExtTreeMap.mem_toList_iff_getElem?_eq_some.mpr stored)]
      exact belongs
    · obtain ⟨project, recorded, belongs⟩ := Option.bind_eq_some_iff.mp owned
      rw [← strangers.canisters _ (Std.ExtTreeMap.mem_toList_iff_getElem?_eq_some.mpr recorded)]
      exact belongs
  cases strangers.project.symm.trans belongs
  rfl

/-- What names neither a project nor a team is foreign to the first founder. -/
private theorem StrangersOnly.foreign
    {s : Stores}
    {index : Nat}
    (strangers : StrangersOnly s)
    (text : Host.parseUuid (idText index) = some (draw index))
    (noProject : s.ownerOf (draw index) .project = none)
    (noTeam : s.ownerOf (draw index) .team = none) :
    s.Foreign ⟨draw 0⟩ (idText index) := by
  intro uuid kind orgId read owned
  cases text.symm.trans read
  cases kind with
  | project =>
      cases noProject.symm.trans owned
  | team =>
      cases noTeam.symm.trans owned
  | proposal =>
      rw [strangers.foreign_operation (.inl rfl) owned]
      exact strangers.outside
  | canister =>
      rw [strangers.foreign_operation (.inr rfl) owned]
      exact strangers.outside

/-- Before the canister is created only the second founder's project has operations. -/
private theorem strangersOnly_before :
    StrangersOnly (disclosure.state 4).stores := by
  constructor <;> decide +kernel

/-- After the canister is created only the second founder's project has operations. -/
private theorem strangersOnly_after :
    StrangersOnly (disclosure.state 6).stores := by
  constructor <;> decide +kernel

/-- The first founder's view does not change. -/
private theorem disclosure_sameView :
    SameView ⟨draw 0⟩ (disclosure.state 4).stores (disclosure.state 6).stores := by
  have proposed :
      SameAccess (disclosure.state 4).stores (disclosure.state 5).stores ∧
        SameSettings (disclosure.state 4).stores (disclosure.state 5).stores := by
    rcases World.endpointStep_cases (disclosure.advances 4 (by decide)) with
      same | ⟨served, -⟩
    · rw [same]
      exact ⟨.refl _, rfl, rfl, rfl, rfl⟩
    · exact (World.serviceStep_cases served).frames_createProposal
  have created :
      SameAccess (disclosure.state 5).stores (disclosure.state 6).stores ∧
        SameSettings (disclosure.state 5).stores (disclosure.state 6).stores := by
    rcases World.endpointStep_cases (disclosure.advances 5 (by decide)) with
      same | ⟨served, -⟩
    · rw [same]
      exact ⟨.refl _, rfl, rfl, rfl, rfl⟩
    · exact (World.serviceStep_cases served).frames_reply
  refine
    .of_foreignOperations (proposed.1.trans created.1) (proposed.2.trans created.2) ?_
  intro uuid kind orgId operation owned
  have stranger : orgId = ⟨draw 7⟩ := by
    rcases owned with before | after
    · exact strangersOnly_before.foreign_operation operation before
    · exact strangersOnly_after.foreign_operation operation after
  rw [stranger]
  exact strangersOnly_before.outside

/-- A foreign proposal is answered for as one that does not exist. -/
theorem existenceHidden_foreignProposal :
    ResourceEndpoint.cancelProposal.respond (callBy founder) (idText 12)
        (disclosure.state 4).stores =
      ResourceEndpoint.cancelProposal.respond (callBy founder) (idText 12)
        (disclosure.state 6).stores := by
  have text : Host.parseUuid (idText 12) = some (draw 12) := by
    decide +kernel
  have account :
      (disclosure.state 4).stores.userProfile.getUserIdByPrincipal (callBy founder).caller =
        some ⟨draw 0⟩ := by
    decide +kernel
  refine
    (existenceHidden_iff_conceals account disclosure_sameView
      (strangersOnly_before.foreign text (by decide +kernel) (by decide +kernel))
      (strangersOnly_after.foreign text (by decide +kernel) (by decide +kernel))).mpr ?_
  have unpublished (terms : TermsAndConditionsState)
      (empty : terms.createdAtIndex.isEmpty = true) :
      terms.hasAcceptedLatestTermsAndConditions ⟨draw 0⟩ = true :=
    TermsAndConditionsState.hasAcceptedLatest_of_isEmpty empty
  right
  right
  rw [unpublished _ (by decide +kernel), unpublished _ (by decide +kernel)]

/-- A foreign canister is answered for otherwise than one that does not exist. -/
theorem stopMyCanister_discloses_foreignCanister :
    ∃ before after : World,
      MessageRun.Reachable World.endpointStep (fun _ _ => True) World.empty before ∧
        MessageRun.Reachable World.endpointStep (fun _ _ => True) World.empty after ∧
        before.stores.userProfile.getUserIdByPrincipal (callBy founder).caller =
          some ⟨draw 0⟩ ∧
        SameView ⟨draw 0⟩ before.stores after.stores ∧
        before.stores.Foreign ⟨draw 0⟩ (idText 13) ∧
        after.stores.Foreign ⟨draw 0⟩ (idText 13) ∧
        ResourceEndpoint.stopMyCanister.respond (callBy founder) (idText 13) before.stores ≠
          ResourceEndpoint.stopMyCanister.respond (callBy founder) (idText 13)
            after.stores := by
  have text : Host.parseUuid (idText 13) = some (draw 13) := by
    decide +kernel
  have account :
      (disclosure.state 4).stores.userProfile.getUserIdByPrincipal (callBy founder).caller =
        some ⟨draw 0⟩ := by
    decide +kernel
  have foreignBefore : (disclosure.state 4).stores.Foreign ⟨draw 0⟩ (idText 13) :=
    strangersOnly_before.foreign text (by decide +kernel) (by decide +kernel)
  have foreignAfter : (disclosure.state 6).stores.Foreign ⟨draw 0⟩ (idText 13) :=
    strangersOnly_after.foreign text (by decide +kernel) (by decide +kernel)
  refine
    ⟨disclosure.state 4, disclosure.state 6, disclosure.reachable (by decide : 4 ≤ 6),
      disclosure.reachable (by decide : 6 ≤ 6), account, disclosure_sameView, foreignBefore,
      foreignAfter, ?_⟩
  have linked := (disclosure_sameView.principals _).mp account
  have unknown :
      ResourceEndpoint.stopMyCanister.refusal (callBy founder) (idText 13)
          (disclosure.state 4).stores =
        CanisterService.canisterNotFound ⟨draw 13⟩ := by
    decide +kernel
  have known :
      ResourceEndpoint.stopMyCanister.refusal (callBy founder) (idText 13)
          (disclosure.state 6).stores =
        projectNotFoundOrNoAccess ⟨draw 9⟩ := by
    decide +kernel
  rw [ResourceEndpoint.respond_eq_refusal account foreignBefore,
    ResourceEndpoint.respond_eq_refusal linked foreignAfter, unknown, known]
  intro same
  have sameError :
      CanisterService.canisterNotFound ⟨draw 13⟩ = projectNotFoundOrNoAccess ⟨draw 9⟩ := by
    simpa using same
  exact canisterNotFound_ne_projectNotFound sameError

end Disclosure

end SsnConsole.Backend
