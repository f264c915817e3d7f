import SsnConsole.EndpointRuns
import SsnConsole.InviteLifecycle
import SsnConsole.ListingQueries
import SsnConsole.TextualHost

/-!
# Listed invites and acceptable invites

`list_my_invites` reads a range of the status index and filters it by target;
`accept_org_invite` checks the stored invite.  They agree on every invite but one
that expires at this very moment: the range still includes it.
-/

namespace SsnConsole.Backend

open SsnConsole.KeyedIndex
open SsnConsole.MessageRun
open SsnConsole.MessageSlice
open SsnConsole.StableIndex

section Indexed

variable [Host]

/-- What the store of invites keeps in every reachable world. -/
structure World.InvitesIndexed (world : World) : Prop where
  sound : world.stores.Sound
  indexed : world.stores.invite.Indexed
  drawn :
    ∀ inviteId invite, world.stores.invite.getInvite inviteId = some invite →
      Drawn world.stores.drawn inviteId

/-- No invites are stored at first. -/
theorem World.InvitesIndexed.empty : World.empty.InvitesIndexed where
  sound := .empty
  indexed := .empty
  drawn := InvitesSound.initial.drawn

/-- The indexes of the invites are exact in every reachable world. -/
theorem World.Reachable.invitesIndexed
    {world : World}
    (reachable : world.Reachable) :
    world.InvitesIndexed := by
  refine reachable.invariant World.InvitesIndexed.empty ?_
  intro before event after _ invites _ stepped
  have taken := World.serviceStep_cases stepped
  have change := World.inviteChange_of_step stepped
  exact
    { sound := taken.sound invites.sound
      indexed := change.indexed invites.drawn invites.indexed
      drawn := change.stored invites.drawn (taken.drawn_le invites.sound) }

end Indexed

section Range

variable {state : InviteState} {inviteId : InviteId} {invite : OrgInvite} {now : Nat}

/-- The range holds the keys of the pending invites that have not expired before. -/
theorem InviteState.Indexed.mem_pendingStatusKeys
    (indexed : state.Indexed) :
    inviteId ∈ (state.pendingStatusKeys now).map Prod.snd ↔
      ∃ invite, state.getInvite inviteId = some invite ∧ invite.status = .pending ∧
        now ≤ invite.expiresAtNs := by
  rw [List.mem_map]
  constructor
  · rintro ⟨key, member, rfl⟩
    obtain ⟨row, within⟩ := List.mem_filter.mp member
    obtain ⟨inviteId, invite, stored, rfl⟩ :=
      (indexed.status key).mp (Std.ExtTreeSet.mem_toList.mp row)
    obtain ⟨pending, unexpired⟩ := Bool.and_eq_true_iff.mp within
    exact
      ⟨invite, stored, asU8_eq_pending.mp (of_decide_eq_true pending),
        of_decide_eq_true unexpired⟩
  · rintro ⟨invite, stored, pending, unexpired⟩
    refine ⟨InviteState.statusIndexKey invite inviteId, List.mem_filter.mpr ⟨?_, ?_⟩, rfl⟩
    · exact Std.ExtTreeSet.mem_toList.mpr ((indexed.status _).mpr ⟨inviteId, invite, stored, rfl⟩)
    · simp [InviteState.statusIndexKey, pending, unexpired]

/-- The range reads every pending invite that has not expired before, and no other. -/
theorem InviteState.Indexed.mem_listPendingInvites
    (indexed : state.Indexed) :
    (inviteId, invite) ∈ state.listPendingInvites now ↔
      state.getInvite inviteId = some invite ∧ invite.status = .pending ∧
        now ≤ invite.expiresAtNs := by
  rw [InviteState.listPendingInvites, List.mem_filterMap]
  constructor
  · rintro ⟨rowId, member, found⟩
    obtain ⟨stored, read, same⟩ := Option.map_eq_some_iff.mp found
    cases same
    obtain ⟨other, again, pending⟩ := indexed.mem_pendingStatusKeys.mp member
    cases read.symm.trans again
    exact ⟨read, pending⟩
  · rintro ⟨stored, pending⟩
    refine ⟨inviteId, indexed.mem_pendingStatusKeys.mpr ⟨invite, stored, pending⟩, ?_⟩
    rw [stored, Option.map_some]

/-- The range lists no invite twice. -/
theorem InviteState.Indexed.nodup_listPendingInvites
    (indexed : state.Indexed) :
    ((state.listPendingInvites now).map Prod.fst).Nodup := by
  have ids : ((state.pendingStatusKeys now).map Prod.snd).Nodup := by
    apply List.Nodup.map_on ?_ ((nodup_toList state.inviteStatusIndex).filter _)
    intro first firstMember second secondMember same
    have firstRow := Std.ExtTreeSet.mem_toList.mp (List.mem_filter.mp firstMember).1
    have secondRow := Std.ExtTreeSet.mem_toList.mp (List.mem_filter.mp secondMember).1
    exact indexed.status.eq_of_name Prod.snd (fun _ _ => rfl) firstRow secondRow same
  exact (map_fst_lookups_sublist _).nodup ids

end Range

section Agreement

variable [Host]

/-- `accept_org_invite` with this text would return Ok. -/
def AcceptsInvite (call : Call) (inviteText : String) (s : Stores) : Prop :=
  ∃ response after,
    outcome (InviteService.acceptOrgInvite call inviteText) s = (.ok response, after)

/-- The rows are exactly the invites that the caller could accept, whatever text names them. -/
def ListsAcceptable (call : Call) (s : Stores) (rows : List (InviteId × OrgInvite)) : Prop :=
  ∀ inviteText inviteId, Id.tryFrom inviteText = .ok inviteId →
    (inviteId ∈ rows.map Prod.fst ↔ AcceptsInvite call inviteText s)

/-- A pending invite addressed to the user expires at this moment. -/
def InviteExpiresNow (call : Call) (userId : UserId) (s : Stores) : Prop :=
  ∃ inviteText inviteId invite,
    Id.tryFrom inviteText = .ok inviteId ∧ s.invite.getInvite inviteId = some invite ∧
      invite.status = .pending ∧ invite.expiresAtNs = call.now ∧
        s.Addresses invite.target userId

/-- What `list_my_invites` returns, and when it agrees with `accept_org_invite`. -/
structure InviteListing (call : Call) (userId : UserId) (s : Stores)
    (rows : List (InviteId × OrgInvite)) : Prop where
  listed : InviteService.myInvites call s = .ok rows
  /-- Every row is shown, under the identifier of its invite. -/
  shown :
    ∃ invites : List Dto.OrgInvite,
      InviteService.listMyInvites call s = .ok invites ∧
        invites.map Dto.OrgInvite.id = rows.map fun row => row.1.text
  once : (rows.map Prod.fst).Nodup
  stored : ∀ row ∈ rows, s.invite.getInvite row.1 = some row.2
  agree_iff : ListsAcceptable call s rows ↔ ¬InviteExpiresNow call userId s

variable {call : Call} {s : Stores} {userId : UserId} {profile : UserProfile}

/-- The invitee's checks pass for an invite that invites the caller. -/
theorem actionableInvite_of_invites
    {inviteText : String}
    {inviteId : InviteId}
    {invite : OrgInvite}
    (known : s.userProfile.getUserProfileByUserId userId = some profile)
    (invited : s.Invites call inviteText inviteId userId invite) :
    Ends (InviteService.actionableInvite call inviteText) s
      (fun actionable after => actionable = (inviteId, userId, invite) ∧ after = s)
      (fun _ _ => False) := by
  have resolved : s.userProfile.assertUserIdByPrincipal call.caller = .ok userId := by
    rw [UserProfileState.assertUserIdByPrincipal, invited.account]
  have actionable :=
    (InviteService.assertInviteIsActionableBy_ok known).mpr
      ⟨invited.pending, invited.unexpired, invited.addressed⟩
  simp [InviteService.actionableInvite, InviteService.storedInvite, invited.named, resolved,
    known, invited.stored, actionable]

/-- Whoever can accept an invite is invited. -/
theorem AcceptsInvite.invited
    {inviteText : String}
    (accepts : AcceptsInvite call inviteText s) :
    ∃ inviteId userId invite, s.Invites call inviteText inviteId userId invite := by
  obtain ⟨response, after, accepted⟩ := accepts
  have checked :
      Ends (InviteService.acceptOrgInvite call inviteText) s
        (fun _ _ => ∃ inviteId userId invite, s.Invites call inviteText inviteId userId invite)
        (fun _ _ => True) := by
    apply ends_bind.mpr
    apply (InviteService.actionableInvite_invites call inviteText s).mono
    · rintro ⟨inviteId, userId, invite⟩ current ⟨rfl, invited⟩
      exact
        ends_iff_outcome.mpr
          ⟨fun _ _ _ => ⟨inviteId, userId, invite, invited⟩, fun _ _ _ => trivial⟩
    · intro _ _ _
      trivial
  exact checked.of_ok accepted

/-- A caller with a profile can accept exactly the invites that invite them. -/
theorem acceptsInvite_iff
    (account : s.userProfile.getUserIdByPrincipal call.caller = some userId)
    (known : s.userProfile.getUserProfileByUserId userId = some profile)
    {inviteText : String} :
    AcceptsInvite call inviteText s ↔
      ∃ inviteId invite, s.Invites call inviteText inviteId userId invite := by
  constructor
  · intro accepts
    obtain ⟨inviteId, otherUser, invite, invited⟩ := accepts.invited
    cases account.symm.trans invited.account
    exact ⟨inviteId, invite, invited⟩
  · rintro ⟨inviteId, invite, invited⟩
    have succeeds :
        Ends (InviteService.acceptOrgInvite call inviteText) s
          (fun _ _ => True)
          (fun _ _ => False) := by
      apply ends_bind.mpr
      apply (actionableInvite_of_invites known invited).mono
      · rintro actionable current ⟨rfl, rfl⟩
        simp only [ends_bind, ends_write, ends_tryWrite, ends_pure, map_eq_error, implies_true,
          true_and]
        intro error failed
        split at failed <;> exact updateInvite_ne_error invited.stored failed
      · intro _ _ failed
        exact failed
    rcases ended : outcome (InviteService.acceptOrgInvite call inviteText) s with
      ⟨error | response, after⟩
    · exact ((ends_iff_outcome.mp succeeds).2 error after ended).elim
    · exact ⟨response, after, ended⟩

/-- What a caller with a profile is listed: the pending invites addressed to them that have
not expired before. -/
theorem exists_myInvites
    (account : s.userProfile.getUserIdByPrincipal call.caller = some userId)
    (known : s.userProfile.getUserProfileByUserId userId = some profile)
    (indexed : s.invite.Indexed) :
    ∃ rows,
      InviteService.myInvites call s = .ok rows ∧ (rows.map Prod.fst).Nodup ∧
        ∀ inviteId invite,
          (inviteId, invite) ∈ rows ↔
            s.invite.getInvite inviteId = some invite ∧ invite.status = .pending ∧
              call.now ≤ invite.expiresAtNs ∧ s.Addresses invite.target userId := by
  have resolved : s.userProfile.assertUserIdByPrincipal call.caller = .ok userId := by
    rw [UserProfileState.assertUserIdByPrincipal, account]
  have listed :
      InviteService.myInvites call s =
        .ok
          ((s.invite.listPendingInvites call.now).filter fun row =>
            InviteService.inviteMatchesUser row.2.target userId
              (s.userProfile.getPrincipalsByUserId userId) profile.email
              profile.emailVerified) := by
    rw [InviteService.myInvites, resolved]
    dsimp only [bind, Except.bind]
    rw [known]
  refine ⟨_, listed, ?_, ?_⟩
  · exact (List.filter_sublist.map Prod.fst).nodup indexed.nodup_listPendingInvites
  · intro inviteId invite
    rw [List.mem_filter, indexed.mem_listPendingInvites, InviteService.inviteMatchesUser_iff known,
      and_assoc, and_assoc]

/-- A caller with a profile can accept what is listed, unless it expires at that moment. -/
theorem acceptsInvite_iff_listed
    {rows : List (InviteId × OrgInvite)}
    {inviteText : String}
    {inviteId : InviteId}
    (account : s.userProfile.getUserIdByPrincipal call.caller = some userId)
    (known : s.userProfile.getUserProfileByUserId userId = some profile)
    (named : Id.tryFrom inviteText = .ok inviteId)
    (mem_rows :
      ∀ inviteId invite,
        (inviteId, invite) ∈ rows ↔
          s.invite.getInvite inviteId = some invite ∧ invite.status = .pending ∧
            call.now ≤ invite.expiresAtNs ∧ s.Addresses invite.target userId) :
    AcceptsInvite call inviteText s ↔
      ∃ invite, (inviteId, invite) ∈ rows ∧ call.now ≠ invite.expiresAtNs := by
  rw [acceptsInvite_iff account known]
  constructor
  · rintro ⟨otherId, invite, invited⟩
    cases named.symm.trans invited.named
    have row :=
      (mem_rows inviteId invite).mpr
        ⟨invited.stored, invited.pending, invited.unexpired.le, invited.addressed⟩
    exact ⟨invite, row, invited.unexpired.ne⟩
  · rintro ⟨invite, row, later⟩
    obtain ⟨stored, pending, unexpired, addressed⟩ := (mem_rows inviteId invite).mp row
    exact
      ⟨inviteId, invite,
        { named := named
          account := account
          stored := stored
          pending := pending
          unexpired := unexpired.lt_of_ne later
          addressed := addressed }⟩

/-- In every reachable world and at every time, `list_my_invites` lists exactly the invites
that its caller could accept, unless one of them expires at that very moment. -/
theorem invitesListed_iff_acceptable
    {world : World}
    (reachable : world.Reachable)
    (account : world.stores.userProfile.getUserIdByPrincipal call.caller = some userId)
    (known : world.stores.userProfile.getUserProfileByUserId userId = some profile) :
    ∃ rows, InviteListing call userId world.stores rows := by
  have indexed := (World.Reachable.invitesIndexed reachable).indexed
  obtain ⟨rows, listed, once, mem_rows⟩ := exists_myInvites account known indexed
  refine ⟨rows, listed, ?_, once, ?_, ?_⟩
  · refine ⟨_, congrArg (Except.map _) listed, ?_⟩
    simp [mapInviteToDto, Function.comp_def]
  · rintro ⟨inviteId, invite⟩ member
    exact ((mem_rows inviteId invite).mp member).1
  · constructor
    · rintro agrees ⟨inviteText, inviteId, invite, named, stored, pending, expires, addressed⟩
      have row :=
        (mem_rows inviteId invite).mpr ⟨stored, pending, expires.ge, addressed⟩
      have accepts := (agrees inviteText inviteId named).mp (List.mem_map_of_mem row)
      obtain ⟨other, again, later⟩ :=
        (acceptsInvite_iff_listed account known named mem_rows).mp accepts
      cases stored.symm.trans ((mem_rows inviteId other).mp again).1
      exact later expires.symm
    · intro noneExpires inviteText inviteId named
      rw [acceptsInvite_iff_listed account known named mem_rows]
      constructor
      · intro member
        obtain ⟨⟨_, invite⟩, row, rfl⟩ := List.mem_map.mp member
        obtain ⟨stored, pending, -, addressed⟩ := (mem_rows _ invite).mp row
        refine ⟨invite, row, ?_⟩
        intro expires
        exact
          noneExpires ⟨inviteText, _, invite, named, stored, pending, expires.symm, addressed⟩
      · rintro ⟨invite, row, -⟩
        exact List.mem_map_of_mem row

end Agreement

section ExactExpiry

open TextualHost

attribute [local instance] host

/-- The founder of an organization invites a colleague. -/
def invitation : List Event :=
  [.message (callBy founder) .createMyUserProfile,
    .message (callBy colleague) .createMyUserProfile,
    .message (callBy founder) (.createOrgInvite (idText 1) (.principal colleague))]

/-- The run in which the colleague is invited. -/
def invitedColleague : Execution World.endpointStep World.empty :=
  admittedRun invitation (.message (callBy founder) .createMyUserProfile) (by decide +kernel)

/-- The stores that hold the invite. -/
def withInvite : Stores :=
  (invitedColleague.state 3).stores

/-- The colleague's list agrees with what the colleague could accept. -/
theorem invitesListed_invitedColleague :
    ∃ rows, InviteListing (callBy colleague) ⟨draw 6⟩ withInvite rows := by
  have reachable : (invitedColleague.state 3).Reachable :=
    .of_endpoints (invitedColleague.reachable (by decide))
  have account : withInvite.userProfile.getUserIdByPrincipal colleague = some ⟨draw 6⟩ := by
    decide +kernel
  have known : (withInvite.userProfile.getUserProfileByUserId ⟨draw 6⟩).isSome := by
    decide +kernel
  obtain ⟨profile, known⟩ := Option.isSome_iff_exists.mp known
  exact invitesListed_iff_acceptable reachable account known

/-- A call of the colleague at the moment at which the invite expires. -/
def atExpiry : Call :=
  { callBy colleague with now := (callBy founder).now + InviteService.INVITE_TTL_NS }

/-- The invite is listed at that moment, but it cannot be accepted. -/
theorem expiringInvite_listed :
    ∃ world call userId profile rows,
      MessageRun.Reachable World.endpointStep (fun _ _ => True) World.empty world ∧
        world.stores.userProfile.getUserIdByPrincipal call.caller = some userId ∧
          world.stores.userProfile.getUserProfileByUserId userId = some profile ∧
            InviteService.myInvites call world.stores = .ok rows ∧
              ¬ListsAcceptable call world.stores rows := by
  have account : withInvite.userProfile.getUserIdByPrincipal colleague = some ⟨draw 6⟩ := by
    decide +kernel
  have known : (withInvite.userProfile.getUserProfileByUserId ⟨draw 6⟩).isSome := by
    decide +kernel
  have named : (Id.tryFrom (idText 12) : ApiResult InviteId) = .ok ⟨draw 12⟩ := by
    decide +kernel
  have lists :
      (InviteService.myInvites atExpiry withInvite).toOption.map (List.map Prod.fst) =
        some [⟨draw 12⟩] := by
    decide +kernel
  have refused :
      (outcome (InviteService.acceptOrgInvite atExpiry (idText 12)) withInvite).1.isOk =
        false := by
    decide +kernel
  obtain ⟨profile, known⟩ := Option.isSome_iff_exists.mp known
  cases listed : InviteService.myInvites atExpiry withInvite with
  | error error =>
      rw [listed] at lists
      cases lists
  | ok rows =>
      refine
        ⟨invitedColleague.state 3, atExpiry, ⟨draw 6⟩, profile, rows,
          invitedColleague.reachable (by decide), account, known, listed, ?_⟩
      intro acceptable
      rw [listed] at lists
      have member : (⟨draw 12⟩ : InviteId) ∈ rows.map Prod.fst := by
        rw [Option.some.inj lists]
        exact List.mem_singleton_self _
      obtain ⟨response, after, accepted⟩ :=
        (acceptable (idText 12) ⟨draw 12⟩ named).mp member
      have succeeded :
          (outcome (InviteService.acceptOrgInvite atExpiry (idText 12)) withInvite).1 =
            .ok response :=
        congrArg Prod.fst accepted
      rw [succeeded] at refused
      cases refused

end ExactExpiry

end SsnConsole.Backend
