import SsnConsole.InviteTransitions
import SsnConsole.KeyedIndex
import SsnConsole.MembershipIntegrity

/-!
# The lifecycle of invites

The two composite indexes follow every stored invite, so that counting and
sweeping by range see exactly the invites they mean.  From that: the quota, the
sweep, and that an invite settles at most once.
-/

namespace SsnConsole.Backend

open Std (ExtTreeMap ExtTreeSet)
open SsnConsole.KeyedIndex
open SsnConsole.MessageRun
open SsnConsole.MessageSlice
open SsnConsole.StableIndex
open SsnConsole.TimedRun

section Indexing

/-- Every stored invite has exactly its own key in both indexes. -/
structure InviteState.Indexed (state : InviteState) : Prop where
  organization :
    Indexes state.invites (fun inviteId invite => InviteState.orgIndexKey invite inviteId)
      state.organizationInviteIndex
  status :
    Indexes state.invites (fun inviteId invite => InviteState.statusIndexKey invite inviteId)
      state.inviteStatusIndex

/-- Only pending invites have the status byte of pending invites. -/
theorem asU8_eq_pending
    {status : InviteStatus} :
    status.asU8 = InviteStatus.pending.asU8 ↔ status = .pending := by
  cases status <;> decide

namespace InviteState

variable {state updated : InviteState}
variable {orgId : OrgId} {inviteId : InviteId} {invite stored : OrgInvite} {now : Nat}

/-- The invite belongs to the organization, is pending and has expired. -/
def ExpiredIn (invite : OrgInvite) (orgId : OrgId) (now : Nat) : Prop :=
  invite.orgId = orgId ∧ invite.status = .pending ∧ invite.expiresAtNs ≤ now

instance : Decidable (ExpiredIn invite orgId now) :=
  inferInstanceAs (Decidable (_ ∧ _ ∧ _))

/-- The swept keys are those of the expired invites. -/
theorem Indexed.mem_expiredKeys
    (indexed : state.Indexed)
    (found : state.invites[inviteId]? = some invite) :
    orgIndexKey invite inviteId ∈ state.pendingKeys orgId none (some now) ↔
      ExpiredIn invite orgId now := by
  have listed : orgIndexKey invite inviteId ∈ state.organizationInviteIndex :=
    (indexed.organization _).mpr ⟨inviteId, invite, found, rfl⟩
  rw [pendingKeys, List.mem_filter, ExtTreeSet.mem_toList, and_iff_right listed]
  dsimp only [orgIndexKey]
  simp [ExpiredIn, asU8_eq_pending, and_assoc]

/-- The swept identifiers are those of the expired invites. -/
theorem Indexed.mem_expiredIds
    (indexed : state.Indexed)
    (found : state.invites[inviteId]? = some invite) :
    inviteId ∈ (state.pendingKeys orgId none (some now)).map (fun key => key.2.2) ↔
      ExpiredIn invite orgId now := by
  rw [← indexed.mem_expiredKeys found, List.mem_map]
  constructor
  · rintro ⟨key, expired, sameId⟩
    have keyListed : key ∈ state.organizationInviteIndex :=
      ExtTreeSet.mem_toList.mp (List.mem_filter.mp expired).1
    have listed : orgIndexKey invite inviteId ∈ state.organizationInviteIndex :=
      (indexed.organization _).mpr ⟨inviteId, invite, found, rfl⟩
    have same := indexed.organization.eq_of_name (fun key => key.2.2) (fun _ _ => rfl)
      keyListed listed sameId
    rwa [← same]
  · intro expired
    exact ⟨orgIndexKey invite inviteId, expired, rfl⟩

/-- Without invites both indexes are empty. -/
theorem Indexed.empty : InviteState.empty.Indexed where
  organization := Indexes.empty
  status := Indexes.empty

/-- A new invite brings its key to both indexes. -/
theorem Indexed.createInvite
    (indexed : state.Indexed)
    (fresh : state.getInvite inviteId = none) :
    (state.createInvite inviteId invite).Indexed where
  organization := indexed.organization.insert fresh
  status := indexed.status.insert fresh

/-- What updating a stored invite writes. -/
theorem updateInvite_ok
    [Host]
    (found : state.getInvite inviteId = some stored)
    (written : state.updateInvite inviteId invite = .ok updated) :
    updated =
      { organizationInviteIndex :=
          (state.organizationInviteIndex.erase (orgIndexKey stored inviteId)).insert
            (orgIndexKey invite inviteId)
        inviteStatusIndex :=
          (state.inviteStatusIndex.erase (statusIndexKey stored inviteId)).insert
            (statusIndexKey invite inviteId)
        invites := state.invites.insert inviteId invite } := by
  have lookedUp : state.invites[inviteId]? = some stored := found
  simp only [updateInvite, lookedUp, Except.ok.injEq] at written
  exact written.symm

/-- An updated invite moves its key in both indexes. -/
theorem Indexed.updateInvite
    [Host]
    (indexed : state.Indexed)
    (found : state.getInvite inviteId = some stored)
    (written : state.updateInvite inviteId invite = .ok updated) :
    updated.Indexed := by
  obtain rfl := updateInvite_ok found written
  exact
    { organization :=
        indexed.organization.replace (fun key => key.2.2) (fun _ _ => rfl) found
      status := indexed.status.replace (fun key => key.2) (fun _ _ => rfl) found }

/-- Swept invites take their keys out of both indexes. -/
theorem Indexed.sweep
    (indexed : state.Indexed) :
    (state.sweepExpiredOrgInvites orgId now).Indexed where
  organization := by
    refine indexed.organization.sweep fun otherId other found => ?_
    rw [indexed.mem_expiredKeys found, indexed.mem_expiredIds found]
  status := by
    refine indexed.status.sweep fun otherId other found => ?_
    rw [List.mem_map, List.mem_map]
    constructor
    · rintro ⟨key, expired, sameKey⟩
      exact ⟨key, expired, congrArg Prod.snd sameKey⟩
    · rintro ⟨key, expired, sameId⟩
      have listed := (indexed.mem_expiredIds found).mp (List.mem_map.mpr ⟨key, expired, sameId⟩)
      exact
        ⟨orgIndexKey other otherId, (indexed.mem_expiredKeys found).mpr listed, rfl⟩

/-- A sweep removes the organization's expired pending invites and nothing else. -/
theorem Indexed.getInvite_sweep
    (indexed : state.Indexed)
    (found : state.getInvite inviteId = some invite) :
    (state.sweepExpiredOrgInvites orgId now).getInvite inviteId =
      if ExpiredIn invite orgId now then none else some invite := by
  have row : state.invites[inviteId]? = some invite := found
  simp only [getInvite, sweepExpiredOrgInvites, getElem?_eraseKeys, row,
    indexed.mem_expiredIds row]

/-- How many of the organization's pending invites have not expired by `now`. -/
def pendingUnexpired (state : InviteState) (orgId : OrgId) (now : Nat) : Nat :=
  countEntries state.invites fun row =>
    decide (row.2.orgId = orgId) && decide (row.2.status = .pending) &&
      decide (now < row.2.expiresAtNs)

/-- The range count of an organization misses no pending invite. -/
theorem Indexed.pendingUnexpired_le_count
    (indexed : state.Indexed) :
    state.pendingUnexpired orgId now ≤ state.countPendingInvitesForOrg orgId now := by
  refine
    countEntries_le_length (fun row => orgIndexKey row.2 row.1) (fun key => key.2.2)
      (fun _ => rfl) ?_
  intro otherId other found counted
  have listed : orgIndexKey other otherId ∈ state.organizationInviteIndex :=
    (indexed.organization _).mpr ⟨otherId, other, found, rfl⟩
  rw [pendingKeys, List.mem_filter, ExtTreeSet.mem_toList, and_iff_right listed]
  simp only [Bool.and_eq_true, decide_eq_true_eq] at counted
  obtain ⟨⟨sameOrg, pending⟩, unexpired⟩ := counted
  dsimp only [orgIndexKey]
  simp [sameOrg, pending, unexpired.le]

/-- Without a new pending invite there are no more of them, now or later. -/
theorem pendingUnexpired_le
    {later : InviteState}
    {moment : Nat}
    (kept :
      ∀ inviteId invite, later.getInvite inviteId = some invite → invite.status = .pending →
        state.getInvite inviteId = some invite)
    (forward : now ≤ moment) :
    later.pendingUnexpired orgId moment ≤ state.pendingUnexpired orgId now := by
  refine countEntries_le [] fun otherId other found counted => .inr ?_
  simp only [Bool.and_eq_true, decide_eq_true_eq] at counted ⊢
  obtain ⟨⟨sameOrg, pending⟩, unexpired⟩ := counted
  exact
    ⟨kept otherId other found pending, ⟨sameOrg, pending⟩, Nat.lt_of_le_of_lt forward unexpired⟩

/-- A new invite is one more, for its own organization only. -/
theorem pendingUnexpired_createInvite_le
    {otherOrg : OrgId} :
    (state.createInvite inviteId invite).pendingUnexpired otherOrg now ≤
      state.pendingUnexpired otherOrg now + if invite.orgId = otherOrg then 1 else 0 := by
  have covered (extra : List (InviteId × OrgInvite))
      (new : invite.orgId = otherOrg → (inviteId, invite) ∈ extra) :
      (state.createInvite inviteId invite).pendingUnexpired otherOrg now ≤
        state.pendingUnexpired otherOrg now + extra.length := by
    refine countEntries_le extra fun otherId other found counted => ?_
    simp only [createInvite, getElem?_insert_entry] at found
    split at found
    · rename_i same
      cases found
      simp only [Bool.and_eq_true, decide_eq_true_eq] at counted
      rw [same]
      exact .inl (new counted.1.1)
    · exact .inr ⟨found, counted⟩
  split
  · exact covered [(inviteId, invite)] fun _ => List.mem_singleton.mpr rfl
  · rename_i otherThan
    exact covered [] fun same => (otherThan same).elim

end InviteState

end Indexing

section Runs

variable [Host]

/-- What the stores of invites keep in every reachable state. -/
structure InvitesSound (timed : Timed World) : Prop where
  sound : timed.state.stores.Sound
  indexed : timed.state.stores.invite.Indexed
  drawn :
    ∀ inviteId invite, timed.state.stores.invite.getInvite inviteId = some invite →
      Drawn timed.state.stores.drawn inviteId
  quota :
    ∀ orgId now, timed.clock ≤ now →
      timed.state.stores.invite.pendingUnexpired orgId now ≤
        InviteService.MAX_PENDING_INVITES_PER_ORG

/-- What happens to the invites of a state: a settled invite stays as it is, a pending
one is kept, settled or dropped, and a missing one does not come back. -/
structure Stores.InvitesFollow (s after : Stores) : Prop where
  settled :
    ∀ inviteId invite, s.invite.getInvite inviteId = some invite →
      invite.status ≠ .pending → after.invite.getInvite inviteId = some invite
  pending :
    ∀ inviteId invite, s.invite.getInvite inviteId = some invite →
      after.invite.getInvite inviteId = none ∨
        ∃ status, after.invite.getInvite inviteId = some { invite with status := status }
  gone :
    ∀ inviteId, Drawn s.drawn inviteId → s.invite.getInvite inviteId = none →
      after.invite.getInvite inviteId = none
  drawn : s.drawn ≤ after.drawn

variable {s middle after : Stores} {now : Nat}

/-- Invites that nothing touches follow themselves. -/
theorem Stores.InvitesFollow.of_same
    (same : after.invite = s.invite)
    (drawn : s.drawn ≤ after.drawn) :
    s.InvitesFollow after where
  settled inviteId invite found _ := by
    rw [same]
    exact found
  pending inviteId invite found := by
    rw [same]
    exact .inr ⟨invite.status, found⟩
  gone inviteId _ missing := by
    rw [same]
    exact missing
  drawn := drawn

/-- What follows twice follows. -/
theorem Stores.InvitesFollow.trans
    (stored :
      ∀ inviteId invite, s.invite.getInvite inviteId = some invite → Drawn s.drawn inviteId)
    (first : s.InvitesFollow middle)
    (second : middle.InvitesFollow after) :
    s.InvitesFollow after where
  settled inviteId invite found settled :=
    second.settled inviteId invite (first.settled inviteId invite found settled) settled
  pending inviteId invite found := by
    rcases first.pending inviteId invite found with missing | ⟨status, kept⟩
    · have drawnThen := (stored inviteId invite found).mono first.drawn
      exact .inl (second.gone inviteId drawnThen missing)
    · rcases second.pending inviteId _ kept with missing | ⟨later, keptLater⟩
      · exact .inl missing
      · exact .inr ⟨later, keptLater⟩
  gone inviteId drawnBefore missing :=
    second.gone inviteId (drawnBefore.mono first.drawn)
      (first.gone inviteId drawnBefore missing)
  drawn := first.drawn.trans second.drawn

/-- A sweep is followed by what it keeps. -/
private theorem Stores.InvitesFollow.sweep
    {orgId : OrgId}
    (indexed : s.invite.Indexed)
    (written : after.invite = s.invite.sweepExpiredOrgInvites orgId now)
    (drawn : s.drawn ≤ after.drawn) :
    s.InvitesFollow after where
  settled inviteId invite found settled := by
    rw [written, indexed.getInvite_sweep found, if_neg]
    exact fun expired => settled expired.2.1
  pending inviteId invite found := by
    rw [written, indexed.getInvite_sweep found]
    by_cases expired : InviteState.ExpiredIn invite orgId now
    · rw [if_pos expired]
      exact .inl rfl
    · rw [if_neg expired]
      exact .inr ⟨invite.status, rfl⟩
  gone inviteId _ missing := by
    rw [written]
    cases found : (s.invite.sweepExpiredOrgInvites orgId now).getInvite inviteId with
    | none =>
        rfl
    | some invite =>
        rw [getInvite_sweepExpiredOrgInvites found] at missing
        cases missing
  drawn := drawn

/-- The next identifier to be drawn is not that of a drawn invite. -/
private theorem ne_nextId_of_drawn
    {inviteId : InviteId}
    (drawn : Drawn s.drawn inviteId) :
    inviteId ≠ s.nextId := by
  rintro rfl
  exact absurd (drawn_draw.mp drawn) (Nat.lt_irrefl _)

/-- A creation is followed by the swept invites and the new one. -/
private theorem Stores.InvitesFollow.create
    {invite : OrgInvite}
    {orgId : OrgId}
    (stored :
      ∀ inviteId invite, s.invite.getInvite inviteId = some invite → Drawn s.drawn inviteId)
    (indexed : s.invite.Indexed)
    (written :
      after.invite = (s.invite.sweepExpiredOrgInvites orgId now).createInvite s.nextId invite)
    (drawn : s.drawn ≤ after.drawn) :
    s.InvitesFollow after := by
  have others : ∀ inviteId, Drawn s.drawn inviteId →
      after.invite.getInvite inviteId =
        (s.invite.sweepExpiredOrgInvites orgId now).getInvite inviteId := by
    intro inviteId drawnBefore
    rw [written]
    simp only [InviteState.getInvite, InviteState.createInvite, getElem?_insert_entry,
      if_neg (ne_nextId_of_drawn drawnBefore)]
  have swept :
      s.InvitesFollow
        { s with invite := s.invite.sweepExpiredOrgInvites orgId now } :=
    .sweep indexed rfl le_rfl
  exact
    { settled := fun inviteId other found settled => by
        rw [others inviteId (stored inviteId other found)]
        exact swept.settled inviteId other found settled
      pending := fun inviteId other found => by
        rw [others inviteId (stored inviteId other found)]
        exact swept.pending inviteId other found
      gone := fun inviteId drawnBefore missing => by
        rw [others inviteId drawnBefore]
        exact swept.gone inviteId drawnBefore missing
      drawn := drawn }

/-- A settled invite is followed by itself with its new status. -/
private theorem Stores.InvitesFollow.settle
    {inviteId : InviteId}
    {stored : OrgInvite}
    {status : InviteStatus}
    (found : s.invite.getInvite inviteId = some stored)
    (pending : stored.status = .pending)
    (written :
      s.invite.updateInvite inviteId { stored with status := status } = .ok after.invite)
    (drawn : s.drawn ≤ after.drawn) :
    s.InvitesFollow after := by
  have lookup : ∀ otherId,
      after.invite.getInvite otherId =
        if otherId = inviteId then some { stored with status := status }
        else s.invite.getInvite otherId := by
    intro otherId
    rw [InviteState.updateInvite_ok found written]
    simp only [InviteState.getInvite, getElem?_insert_entry]
  exact
    { settled := fun otherId other otherFound settled => by
        have different : otherId ≠ inviteId := by
          rintro rfl
          rw [found] at otherFound
          cases otherFound
          exact settled pending
        rw [lookup, if_neg different]
        exact otherFound
      pending := fun otherId other otherFound => by
        rw [lookup]
        by_cases same : otherId = inviteId
        · subst same
          rw [found] at otherFound
          cases otherFound
          rw [if_pos rfl]
          exact .inr ⟨status, rfl⟩
        · rw [if_neg same]
          exact .inr ⟨other.status, otherFound⟩
      gone := fun otherId _ missing => by
        have different : otherId ≠ inviteId := by
          rintro rfl
          rw [found] at missing
          cases missing
        rw [lookup, if_neg different]
        exact missing
      drawn := drawn }

/-- Every change of the invites follows the invites of the state before. -/
theorem InviteChange.follow
    (change : InviteChange now s after)
    (stored :
      ∀ inviteId invite, s.invite.getInvite inviteId = some invite → Drawn s.drawn inviteId)
    (indexed : s.invite.Indexed)
    (drawn : s.drawn ≤ after.drawn) :
    s.InvitesFollow after := by
  cases change with
  | untouched same =>
      exact .of_same same drawn
  | swept orgId written =>
      exact .sweep indexed written drawn
  | created invite _ _ written _ =>
      exact .create stored indexed written drawn
  | settled inviteId invite status found pending _ written =>
      exact .settle found pending written drawn

/-- A change of the invites keeps the quota at any time that is not in the past. -/
theorem InviteChange.quota
    {clock : Nat}
    (change : InviteChange now s after)
    (indexed : s.invite.Indexed)
    (forward : clock ≤ now)
    (within :
      ∀ orgId moment, clock ≤ moment →
        s.invite.pendingUnexpired orgId moment ≤ InviteService.MAX_PENDING_INVITES_PER_ORG)
    (orgId : OrgId)
    (moment : Nat)
    (later : now ≤ moment) :
    after.invite.pendingUnexpired orgId moment ≤
      InviteService.MAX_PENDING_INVITES_PER_ORG := by
  have earlier := within orgId moment (forward.trans later)
  have fewer {after : InviteState}
      (kept :
        ∀ inviteId invite, after.getInvite inviteId = some invite →
          invite.status = .pending → s.invite.getInvite inviteId = some invite) :
      after.pendingUnexpired orgId moment ≤ InviteService.MAX_PENDING_INVITES_PER_ORG :=
    (InviteState.pendingUnexpired_le kept le_rfl).trans earlier
  cases change with
  | untouched same =>
      rwa [same]
  | swept sweptOrg written =>
      rw [written]
      exact fewer fun _ _ found _ => getInvite_sweepExpiredOrgInvites found
  | settled inviteId stored status found _ settles written =>
      refine fewer fun otherId other otherFound pending => ?_
      rw [InviteState.updateInvite_ok found written] at otherFound
      simp only [InviteState.getInvite, getElem?_insert_entry] at otherFound
      split at otherFound
      · cases otherFound
        exact (settles pending).elim
      · exact otherFound
  | created invite _ room written _ =>
      rw [written]
      refine (InviteState.pendingUnexpired_createInvite_le).trans ?_
      have sweptIndexed :
          (s.invite.sweepExpiredOrgInvites invite.orgId now).Indexed := indexed.sweep
      split
      · rename_i sameOrg
        have counted :
            (s.invite.sweepExpiredOrgInvites invite.orgId now).pendingUnexpired orgId now ≤ _ :=
          sweptIndexed.pendingUnexpired_le_count
        have shrinks :
            (s.invite.sweepExpiredOrgInvites invite.orgId now).pendingUnexpired orgId moment ≤
              (s.invite.sweepExpiredOrgInvites invite.orgId now).pendingUnexpired orgId now :=
          InviteState.pendingUnexpired_le (fun _ _ found _ => found) later
        rw [sameOrg] at room counted shrinks ⊢
        omega
      · exact fewer fun _ _ found _ => getInvite_sweepExpiredOrgInvites found

/-- Every change of the invites keeps the indexes exact. -/
theorem InviteChange.indexed
    (change : InviteChange now s after)
    (stored :
      ∀ inviteId invite, s.invite.getInvite inviteId = some invite → Drawn s.drawn inviteId)
    (indexed : s.invite.Indexed) :
    after.invite.Indexed := by
  cases change with
  | untouched same =>
      rwa [same]
  | swept orgId written =>
      rw [written]
      exact indexed.sweep
  | settled inviteId invite status found _ _ written =>
      exact indexed.updateInvite found written
  | created invite _ _ written _ =>
      rw [written]
      refine (indexed.sweep).createInvite ?_
      cases found :
          (s.invite.sweepExpiredOrgInvites invite.orgId now).getInvite s.nextId with
      | none =>
          rfl
      | some other =>
          have drawn := stored s.nextId other (getInvite_sweepExpiredOrgInvites found)
          exact (ne_nextId_of_drawn drawn rfl).elim

/-- Stored invites have been drawn before and after every change. -/
theorem InviteChange.stored
    (change : InviteChange now s after)
    (stored :
      ∀ inviteId invite, s.invite.getInvite inviteId = some invite → Drawn s.drawn inviteId)
    (drawn : s.drawn ≤ after.drawn)
    (inviteId : InviteId)
    (invite : OrgInvite)
    (found : after.invite.getInvite inviteId = some invite) :
    Drawn after.drawn inviteId := by
  cases change with
  | untouched same =>
      rw [same] at found
      exact (stored inviteId invite found).mono drawn
  | swept orgId written =>
      rw [written] at found
      exact (stored inviteId invite (getInvite_sweepExpiredOrgInvites found)).mono drawn
  | settled settledId settled status before _ _ written =>
      rw [InviteState.updateInvite_ok before written] at found
      simp only [InviteState.getInvite, getElem?_insert_entry] at found
      split at found
      · rename_i same
        rw [same]
        exact (stored settledId settled before).mono drawn
      · exact (stored inviteId invite found).mono drawn
  | created created _ _ written drawnOne =>
      rw [written] at found
      simp only [InviteState.getInvite, InviteState.createInvite, getElem?_insert_entry]
        at found
      split at found
      · rename_i same
        rw [same, drawnOne]
        exact drawn_draw.mpr (Nat.lt_succ_self _)
      · exact (stored inviteId invite (getInvite_sweepExpiredOrgInvites found)).mono drawn

/-- Every timed step keeps the stores of invites sound and follows its invites. -/
theorem InvitesSound.step
    {timed next : Timed World}
    {event : Event}
    (invites : InvitesSound timed)
    (stepped : World.timedStep timed event = some next) :
    InvitesSound next ∧ timed.state.stores.InvitesFollow next.state.stores := by
  obtain ⟨forward, ran, clock⟩ := timedStep_eq_some.mp stepped
  have taken := World.serviceStep_cases ran
  have drawn := taken.drawn_le invites.sound
  have change := World.inviteChange_of_step ran
  constructor
  · exact
      { sound := taken.sound invites.sound
        indexed := change.indexed invites.drawn invites.indexed
        drawn := change.stored invites.drawn drawn
        quota := by
          rw [clock]
          exact change.quota invites.indexed forward invites.quota }
  · exact change.follow invites.drawn invites.indexed drawn

/-- No invites are stored at first. -/
theorem InvitesSound.initial : InvitesSound ⟨World.empty, 0⟩ where
  sound := .empty
  indexed := .empty
  drawn inviteId invite found := by
    simp [World.empty, Stores.empty, InviteState.empty, InviteState.getInvite] at found
  quota _ _ _ := Nat.zero_le _

/-- In every reachable state the stores of invites are sound. -/
theorem World.TimedReachable.invitesSound
    {timed : Timed World}
    (reachable : World.TimedReachable timed) :
    InvitesSound timed :=
  MessageRun.Reachable.invariant reachable .initial fun _ _ _ _ invites _ stepped =>
    (invites.step stepped).1

/-- A run from a reachable state follows its invites. -/
theorem InvitesSound.follow
    {timed later : Timed World}
    (invites : InvitesSound timed)
    (run : MessageRun.Reachable World.timedStep (fun _ _ => True) timed later) :
    InvitesSound later ∧ timed.state.stores.InvitesFollow later.state.stores := by
  induction run with
  | initial =>
      exact ⟨invites, .of_same rfl le_rfl⟩
  | step _ _ stepped inductionHypothesis =>
      obtain ⟨middle, followed⟩ := inductionHypothesis
      obtain ⟨next, follows⟩ := middle.step stepped
      exact ⟨next, followed.trans invites.drawn follows⟩

/-- What holds of the invites in a state, of its future and of its next acceptance. -/
structure InviteLifecycle (timed : Timed World) : Prop where
  organizationIndex :
    ∀ key, key ∈ timed.state.stores.invite.organizationInviteIndex ↔
      ∃ inviteId invite, timed.state.stores.invite.getInvite inviteId = some invite ∧
        key = (invite.orgId, (invite.status.asU8, invite.expiresAtNs), inviteId)
  statusIndex :
    ∀ key, key ∈ timed.state.stores.invite.inviteStatusIndex ↔
      ∃ inviteId invite, timed.state.stores.invite.getInvite inviteId = some invite ∧
        key = ((invite.status.asU8, invite.expiresAtNs), inviteId)
  /-- Whatever was created, an organization's pending unexpired invites are within the quota. -/
  quota :
    ∀ orgId now, timed.clock ≤ now →
      timed.state.stores.invite.pendingUnexpired orgId now ≤
        InviteService.MAX_PENDING_INVITES_PER_ORG
  /-- Once settled, an invite never changes; swept, it does not come back. -/
  follows :
    ∀ later, MessageRun.Reachable World.timedStep (fun _ _ => True) timed later →
      timed.state.stores.InvitesFollow later.state.stores
  sweeps :
    ∀ orgId now inviteId invite,
      timed.state.stores.invite.getInvite inviteId = some invite →
        (timed.state.stores.invite.sweepExpiredOrgInvites orgId now).getInvite inviteId =
          if invite.orgId = orgId ∧ invite.status = .pending ∧ invite.expiresAtNs ≤ now then none
          else some invite
  joins :
    ∀ call inviteText result after userId orgId,
      outcome (InviteService.acceptOrgInvite call inviteText) timed.state.stores =
          (result, after) →
        InviteService.Joins timed.state.stores after userId orgId →
          ∃ inviteId invite,
            timed.state.stores.Invites call inviteText inviteId userId invite ∧
              invite.orgId = orgId

/-- Invites are indexed, bounded, settled once and swept when expired; nobody joins an
organization through any other invite. -/
theorem inviteLifecycle_of_timedReachable
    {timed : Timed World}
    (reachable : World.TimedReachable timed) :
    InviteLifecycle timed := by
  have invites : InvitesSound timed := World.TimedReachable.invitesSound reachable
  exact
    { organizationIndex := invites.indexed.organization
      statusIndex := invites.indexed.status
      quota := invites.quota
      follows := fun later run => (invites.follow run).2
      sweeps := fun orgId now inviteId invite found => invites.indexed.getInvite_sweep found
      joins := fun call inviteText result after userId orgId ran joined =>
        InviteService.acceptOrgInvite_joins ran joined }

end Runs

section Invitations

open TextualHost

attribute [local instance] host

/-- The founder invites a colleague three times: one invite of each fate. -/
def invitations : List Event :=
  [.message (callBy founder) .createMyUserProfile,
    .message (callBy colleague) .createMyUserProfile,
    .message (callBy founder) (.createOrgInvite (idText 1) (.principal colleague)),
    .message (callBy founder) (.createOrgInvite (idText 1) (.principal colleague)),
    .message (callBy founder) (.createOrgInvite (idText 1) (.principal colleague)),
    .message (callBy founder) (.revokeOrgInvite (idText 12)),
    .message (callBy colleague) (.declineOrgInvite (idText 13)),
    .message (callBy colleague) (.acceptOrgInvite (idText 14))]

/-- The invites of the founder have a lifecycle. -/
theorem inviteLifecycle_invitations :
    ∃ timed,
      runEvents World.timedStep ⟨World.empty, 0⟩ invitations = some timed ∧
        InviteLifecycle timed := by
  obtain ⟨timed, ran⟩ :=
    Option.isSome_iff_exists.mp
      (by decide +kernel :
        (runEvents World.timedStep ⟨World.empty, 0⟩ invitations).isSome = true)
  have reachable : World.TimedReachable timed :=
    MessageRun.Reachable.runEvents .initial (fun _ _ _ => trivial) ran
  exact ⟨timed, ran, inviteLifecycle_of_timedReachable reachable⟩

example :
    (runEvents World.timedStep ⟨World.empty, 0⟩ invitations).any (fun timed =>
      (timed.state.stores.invite.invites.toList.map fun row => row.2.status) ==
        [.revoked, .declined, .accepted]) = true := by
  decide +kernel

end Invitations

end SsnConsole.Backend
