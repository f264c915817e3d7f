import SsnConsole.BackendFrames

/-!
# What the operations do to invites

Only the invite operations touch the stored invites.  A creation sweeps the
expired invites of its organization and adds one within the quota; accepting,
declining and revoking settle a pending invite.
-/

namespace SsnConsole.Backend

open SsnConsole.MessageSlice
open SsnConsole.StableIndex

variable [Host]

/-- Every way in which an event at `now` changes the stored invites. -/
inductive InviteChange (now : Nat) (s after : Stores) : Prop
  | untouched
      (same : after.invite = s.invite)
  | swept
      (orgId : OrgId)
      (written : after.invite = s.invite.sweepExpiredOrgInvites orgId now)
  | created
      (invite : OrgInvite)
      (pending : invite.status = .pending)
      (room :
        (s.invite.sweepExpiredOrgInvites invite.orgId now).countPendingInvitesForOrg
          invite.orgId now < InviteService.MAX_PENDING_INVITES_PER_ORG)
      (written :
        after.invite =
          (s.invite.sweepExpiredOrgInvites invite.orgId now).createInvite s.nextId invite)
      (drawn : after.drawn = s.drawn + 1)
  | settled
      (inviteId : InviteId)
      (stored : OrgInvite)
      (status : InviteStatus)
      (found : s.invite.getInvite inviteId = some stored)
      (pending : stored.status = .pending)
      (settles : status ≠ .pending)
      (written :
        s.invite.updateInvite inviteId { stored with status := status } = .ok after.invite)

omit [Host] in
/-- The invite is addressed to the user: by identifier, principal or verified address. -/
def Stores.Addresses (s : Stores) (target : InviteTarget) (userId : UserId) : Prop :=
  match target with
  | .userId targetUserId => targetUserId = userId
  | .principal targetPrincipal => targetPrincipal ∈ s.userProfile.getPrincipalsByUserId userId
  | .email targetEmail =>
      ∃ profile email,
        s.userProfile.getUserProfileByUserId userId = some profile ∧
          profile.emailVerified = true ∧ profile.email = some email ∧
            eqIgnoreAsciiCase email targetEmail = true

/-- The caller is the user whom the named invite, pending and unexpired, is addressed to. -/
structure Stores.Invites (s : Stores) (call : Call) (inviteText : String)
    (inviteId : InviteId) (userId : UserId) (invite : OrgInvite) : Prop where
  named : Id.tryFrom inviteText = .ok inviteId
  account : s.userProfile.getUserIdByPrincipal call.caller = some userId
  stored : s.invite.getInvite inviteId = some invite
  pending : invite.status = .pending
  unexpired : call.now < invite.expiresAtNs
  addressed : s.Addresses invite.target userId

namespace InviteService

variable {call : Call} {s : Stores}

omit [Host] in
/-- `invite_matches_user` tells whether the user is the one that the target means. -/
theorem inviteMatchesUser_iff
    {target : InviteTarget}
    {userId : UserId}
    {profile : UserProfile}
    (known : s.userProfile.getUserProfileByUserId userId = some profile) :
    inviteMatchesUser target userId (s.userProfile.getPrincipalsByUserId userId)
        profile.email profile.emailVerified = true ↔
      s.Addresses target userId := by
  cases target with
  | userId targetUserId => simp [inviteMatchesUser, Stores.Addresses]
  | principal targetPrincipal => simp [inviteMatchesUser, Stores.Addresses]
  | email targetEmail =>
      constructor
      · intro matched
        unfold inviteMatchesUser at matched
        dsimp only at matched
        split at matched
        · rename_i email verified stored
          exact ⟨profile, email, known, verified, stored, matched⟩
        · cases matched
      · rintro ⟨other, email, stored, verified, address, same⟩
        cases known.symm.trans stored
        simp [inviteMatchesUser, verified, address, same]

omit [Host] in
/-- `assert_invite_is_actionable_by` passes pending, unexpired, addressed invites only. -/
theorem assertInviteIsActionableBy_ok
    {invite : OrgInvite}
    {userId : UserId}
    {profile : UserProfile}
    {now : Nat}
    (known : s.userProfile.getUserProfileByUserId userId = some profile) :
    assertInviteIsActionableBy invite userId (s.userProfile.getPrincipalsByUserId userId)
        profile.email profile.emailVerified now = .ok () ↔
      invite.status = .pending ∧ now < invite.expiresAtNs ∧
        s.Addresses invite.target userId := by
  have addressed := @inviteMatchesUser_iff s invite.target userId profile known
  unfold assertInviteIsActionableBy
  split
  · rename_i settled
    simp [settled]
  · rename_i pending
    split
    · rename_i expired
      simp [Nat.not_lt.mpr expired]
    · rename_i unexpired
      split
      · rename_i unmatched
        have stranger := mt addressed.mpr (by simpa using unmatched)
        simp [stranger]
      · rename_i matched
        have invitee := addressed.mp (by simpa using matched)
        simp [not_not.mp pending, not_le.mp unexpired, invitee]

/-- The invitee's checks pass for the user whom the invite is addressed to. -/
theorem actionableInvite_invites
    (call : Call)
    (inviteText : String)
    (s : Stores) :
    Settles (actionableInvite call inviteText) s fun actionable after =>
      after = s ∧ s.Invites call inviteText actionable.1 actionable.2.1 actionable.2.2 := by
  refine
    .require fun inviteId named => .check fun userId resolved => .lookup fun profile known =>
      .inspect <| .lookup fun stored found => .require fun _ actionable => ?_
  obtain ⟨pending, unexpired, addressed⟩ := (assertInviteIsActionableBy_ok known).mp actionable
  exact
    ⟨rfl,
      { named := named
        account := UserProfileState.assertUserIdByPrincipal_ok resolved
        stored := found
        pending := pending
        unexpired := unexpired
        addressed := addressed }⟩

/-- What a creation does to the invites. -/
private theorem createOrgInvite_changes
    (call : Call)
    (orgText : String)
    (target : Dto.InviteTarget)
    (s : Stores) :
    Ends (createOrgInvite call orgText target) s (fun _ after => InviteChange call.now s after)
      fun _ after => InviteChange call.now s after := by
  have unchanged : InviteChange call.now s s := .untouched rfl
  simp only [createOrgInvite, ends_bind, ends_require, ends_check, ends_rejectIf,
    ends_write, ends_commit, ends_inspect, ends_pure, unchanged, implies_true, and_true]
  intro orgId _ auth _ stored _ _
  constructor
  · intro within
    refine
      .created ⟨orgId, auth.userId, call.now, call.now + INVITE_TTL_NS, stored, .pending⟩ rfl
        ?_ rfl rfl
    simpa using within
  · intro _
    exact .swept orgId rfl

/-- What a revocation does to the invites. -/
private theorem revokeOrgInvite_changes
    (call : Call)
    (inviteText : String)
    (s : Stores) :
    Ends (revokeOrgInvite call inviteText) s (fun _ after => InviteChange call.now s after)
      fun _ after => InviteChange call.now s after := by
  have unchanged : ∀ after, after = s → InviteChange call.now s after := by
    rintro after rfl
    exact .untouched rfl
  have settles :
      Settles (revokeOrgInvite call inviteText) s fun _ after =>
        InviteChange call.now s after := by
    refine
      .require fun inviteId _ => .lookup fun stored found => .check fun auth _ =>
        .rejectIf fun _ => .rejectIf fun pending => .tryWrite fun after written => ?_
    obtain ⟨invite, updated, rfl⟩ := map_eq_ok.mp written
    exact .settled inviteId stored .revoked found (by simpa using pending) (by decide) updated
  exact settles.mono (fun _ _ => id) fun _ => unchanged

/-- The membership that an acceptance adds is the invitee's. -/
def Joins (s after : Stores) (userId : UserId) (orgId : OrgId) : Prop :=
  s.organization.isUserInOrg userId orgId = false ∧
    after.organization.isUserInOrg userId orgId = true

omit [Host] in
/-- Whoever joins when a user is added to an organization is that user. -/
private theorem joins_addUserToOrg
    {after : Stores}
    {userId otherUser : UserId}
    {orgId otherOrg : OrgId}
    (added : after.organization = s.organization.addUserToOrg userId orgId)
    (joins : Joins s after otherUser otherOrg) :
    otherUser = userId ∧ otherOrg = orgId := by
  obtain ⟨absent, present⟩ := joins
  rw [added] at present
  have member :
      (otherOrg, otherUser) ∈ (s.organization.addUserToOrg userId orgId).organizationUserIndex :=
    Std.ExtTreeSet.mem_iff_contains.mpr present
  rcases mem_insert_row.mp member with earlier | same
  · have contained : s.organization.isUserInOrg otherUser otherOrg = true :=
      Std.ExtTreeSet.mem_iff_contains.mp earlier
    rw [absent] at contained
    cases contained
  · cases same
    exact ⟨rfl, rfl⟩

/-- What an acceptance does to the invites, and whom it lets in. -/
private theorem acceptOrgInvite_changes
    (call : Call)
    (inviteText : String)
    (s : Stores) :
    let changes (after : Stores) : Prop :=
      InviteChange call.now s after ∧
        ∀ userId orgId, Joins s after userId orgId →
          ∃ inviteId invite,
            s.Invites call inviteText inviteId userId invite ∧ invite.orgId = orgId
    Ends (acceptOrgInvite call inviteText) s (fun _ after => changes after)
      fun _ after => changes after := by
  intro changes
  have nobody : ∀ after : Stores,
      after.organization = s.organization → after.invite = s.invite → changes after := by
    intro after sameMembers sameInvites
    refine ⟨.untouched sameInvites, fun userId orgId joins => ?_⟩
    obtain ⟨absent, present⟩ := joins
    rw [sameMembers, absent] at present
    cases present
  refine ends_bind.mpr ((actionableInvite_invites call inviteText s).mono ?_ ?_)
  · rintro ⟨inviteId, userId, stored⟩ current ⟨rfl, invited⟩
    have settled {after : Stores} {invite : InviteState}
        (updated :
          current.invite.updateInvite inviteId { stored with status := .accepted } =
            .ok invite)
        (same : after.invite = invite) :
        InviteChange call.now current after := by
      subst same
      exact .settled inviteId stored .accepted invited.stored invited.pending (by decide) updated
    by_cases present : current.organization.isUserInOrg userId stored.orgId = true
    · simp only [ends_bind, ends_write, ends_tryWrite, ends_pure, map_eq_ok, map_eq_error,
        if_pos present]
      constructor
      · rintro after ⟨invite, updated, rfl⟩
        refine ⟨settled updated rfl, fun otherUser otherOrg joins => ?_⟩
        obtain ⟨absent, nowPresent⟩ := joins
        rw [show ({ current with invite := invite } : Stores).organization =
          current.organization from rfl, absent] at nowPresent
        cases nowPresent
      · intro error failed
        exact nobody current rfl rfl
    · have joined {after : Stores}
          (added :
            after.organization = current.organization.addUserToOrg userId stored.orgId) :
          ∀ otherUser otherOrg, Joins current after otherUser otherOrg →
            ∃ inviteId invite,
              current.Invites call inviteText inviteId otherUser invite ∧
                invite.orgId = otherOrg := by
        intro otherUser otherOrg joins
        obtain ⟨rfl, rfl⟩ := joins_addUserToOrg added joins
        exact ⟨inviteId, stored, invited, rfl⟩
      simp only [ends_bind, ends_write, ends_tryWrite, ends_pure, map_eq_ok, map_eq_error,
        if_neg present]
      constructor
      · rintro after ⟨invite, updated, rfl⟩
        exact ⟨settled updated rfl, joined rfl⟩
      · intro error failed
        exact ⟨.untouched rfl, joined rfl⟩
  · rintro _ after rfl
    exact nobody after rfl rfl

/-- What a refusal does to the invites. -/
private theorem declineOrgInvite_changes
    (call : Call)
    (inviteText : String)
    (s : Stores) :
    Ends (declineOrgInvite call inviteText) s (fun _ after => InviteChange call.now s after)
      fun _ after => InviteChange call.now s after := by
  refine ends_bind.mpr ((actionableInvite_invites call inviteText s).mono ?_ ?_)
  · rintro ⟨inviteId, userId, stored⟩ current ⟨rfl, invited⟩
    simp only [ends_bind, ends_tryWrite, ends_pure, map_eq_ok, map_eq_error]
    constructor
    · rintro after ⟨invite, updated, rfl⟩
      exact .settled inviteId stored .declined invited.stored invited.pending (by decide) updated
    · intro error failed
      exact .untouched rfl
  · rintro _ after rfl
    exact .untouched rfl

/-- Whoever joins an organization by accepting an invite was invited to it. -/
theorem acceptOrgInvite_joins
    {inviteText : String}
    {result : Except ApiError Response}
    {after : Stores}
    {userId : UserId}
    {orgId : OrgId}
    (ran : outcome (acceptOrgInvite call inviteText) s = (result, after))
    (joins : Joins s after userId orgId) :
    ∃ inviteId invite,
      s.Invites call inviteText inviteId userId invite ∧ invite.orgId = orgId := by
  have changes := acceptOrgInvite_changes call inviteText s
  unfold Ends at changes
  rw [ran] at changes
  cases result with
  | ok _ => exact changes.2 userId orgId joins
  | error _ => exact changes.2 userId orgId joins

end InviteService

section Events

variable {call : Call} {request : Request} {s after : Stores}
variable {result : Except Failure Slot}

/-- Every message changes the invites in one of these ways. -/
theorem inviteChange_of_outcome
    (ran : outcome (handle call request) s = (result, after)) :
    InviteChange call.now s after := by
  have handled := handled_of_outcome ran
  cases handled with
  | refused =>
      exact .untouched rfl
  | signUp _ =>
      exact .untouched (SameAccounts.founding _ _ _).2
  | membership write _ =>
      exact .untouched write.sameAccounts.2
  | account write _ =>
      exact .untouched write.sameMembership.invite
  | policy write =>
      exact .untouched write.sameAccess.invite
  | proposal write =>
      exact .untouched write.sameAccess.invite
  | canister write =>
      exact .untouched write.sameAccess.invite
  | invite write _ =>
      cases write with
      | sweep | create _ _ =>
          exact of_answered (InviteService.createOrgInvite_changes call _ _ s) ran
      | revoke _ _ =>
          exact of_answered (InviteService.revokeOrgInvite_changes call _ s) ran
      | accept _ _ _ _ _ | acceptAsMember _ _ =>
          refine
            of_answered ((InviteService.acceptOrgInvite_changes call _ s).mono ?_ ?_) ran
          · exact fun _ _ both => both.1
          · exact fun _ _ both => both.1
      | decline _ _ =>
          exact of_answered (InviteService.declineOrgInvite_changes call _ s) ran

/-- Every event changes the invites in one of these ways. -/
theorem World.inviteChange_of_step
    {before next : World}
    {event : Event}
    (stepped : World.serviceStep before event = some next) :
    InviteChange event.now before.stores next.stores := by
  cases event with
  | message call request =>
      cases stepped
      exact inviteChange_of_outcome rfl
  | reply now index reply =>
      have taken := World.serviceStep_cases stepped
      cases taken with
      | reply _ resumed =>
          exact .untouched resumed.sameAccess.invite

end Events

end SsnConsole.Backend
