import SsnConsole.EndpointRuns
import SsnConsole.LinkCodes

/-!
# Who gets through with a link code

`link_my_principal` looks a code up among all users and takes the first user in
identifier order, without regard to the principal that presents it.  A pending
code therefore works exactly if no earlier user has the same code pending.
-/

namespace SsnConsole.Backend

open Std (ExtTreeMap)
open SsnConsole.MessageRun
open SsnConsole.MessageSlice
open SsnConsole.StableIndex
open SsnConsole.TimedRun

section Availability

variable [Host]
variable {s : Stores} {call : Call} {userId : UserId} {entry : PendingLinkCode}

/-- The caller may present the user's pending code: it has not expired, names the caller,
whom nobody claims, and the user exists. -/
structure Stores.Presentable (s : Stores) (call : Call) (userId : UserId)
    (entry : PendingLinkCode) : Prop where
  pending : s.pendingLinkCodes[userId]? = some entry
  unexpired : call.now < entry.expiresAtNanos
  target : entry.targetPrincipal = call.caller
  unclaimed : assertPrincipalIsUnclaimed call.caller s = .ok ()
  existing : userId ∈ s.userProfile.profiles

/-- Presenting the code succeeds and links the caller to the user. -/
def Stores.LinksTo (s : Stores) (call : Call) (code : String) (userId : UserId) : Prop :=
  ∃ after,
    outcome (PrincipalLinkService.linkMyPrincipal call code) s = (.ok .unit, after) ∧
      after.userProfile.getUserIdByPrincipal call.caller = some userId

/-- No user with a smaller identifier has the code pending and unexpired. -/
def Stores.FirstWithCode (s : Stores) (now : Nat) (code : String) (userId : UserId) : Prop :=
  ∀ other otherEntry,
    s.pendingLinkCodes[other]? = some otherEntry → now < otherEntry.expiresAtNanos →
      otherEntry.code = code → compare other userId ≠ .lt

omit [Host] in
/-- The lookup finds a user's entry exactly if no earlier user has the code. -/
private theorem lookup_eq_some
    {now : Nat}
    {code : String} :
    (PrincipalLinkService.pruneLinkCodes now s).pendingLinkCodes.toList.find?
        (fun row => decide (row.2.code = code)) = some (userId, entry) ↔
      s.pendingLinkCodes[userId]? = some entry ∧ now < entry.expiresAtNanos ∧
        entry.code = code ∧ s.FirstWithCode now code userId := by
  have found :=
    @find?_toList_eq_some _ _ _ _ _ (PrincipalLinkService.pruneLinkCodes now s).pendingLinkCodes
      (fun entry => decide (entry.code = code)) userId entry
  simp only [decide_eq_true_eq, pending_pruneLinkCodes] at found
  rw [found]
  constructor
  · rintro ⟨⟨pending, unexpired⟩, presented, first⟩
    exact
      ⟨pending, unexpired, presented, fun other otherEntry otherPending otherUnexpired same =>
        first other otherEntry ⟨otherPending, otherUnexpired⟩ same⟩
  · rintro ⟨pending, unexpired, presented, first⟩
    exact
      ⟨⟨pending, unexpired⟩, presented, fun other otherEntry otherPending same =>
        first other otherEntry otherPending.1 otherPending.2 same⟩

/-- The lookup decides whom a successful presentation links the caller to. -/
private theorem lookup_of_linksTo
    {code : String}
    (unclaimed : assertPrincipalIsUnclaimed call.caller s = .ok ())
    (links : s.LinksTo call code userId) :
    ∃ entry,
      (PrincipalLinkService.pruneLinkCodes call.now s).pendingLinkCodes.toList.find?
        (fun row => decide (row.2.code = code)) = some (userId, entry) := by
  obtain ⟨after, ran, linked⟩ := links
  obtain ⟨-, unlinked⟩ := assertPrincipalIsUnclaimed_ok unclaimed
  have ends := PrincipalLinkService.linkMyPrincipal_ends call code s
  unfold Ends at ends
  rw [ran] at ends
  have write : AccountWrite call s (.linkMyPrincipal code) after := ends
  have unlinkedNow {other : Stores}
      (same : other.userProfile = s.userProfile) :
      other.userProfile.getUserIdByPrincipal call.caller ≠ some userId := by
    simp [same, unlinked]
  cases write with
  | pruneLinkCodes | spendLinkCode =>
      exact (unlinkedNow rfl linked).elim
  | @linkMyPrincipal _ user entry profiles pending target _ link =>
      obtain ⟨-, -, rfl⟩ := UserProfileState.linkPrincipalToUser_ok link
      have sameUser : user = userId := by
        simpa [UserProfileState.getUserIdByPrincipal] using linked
      subst sameUser
      exact ⟨entry, pending⟩

omit [Host] in
/-- A presentable code that the lookup finds links its caller. -/
private theorem linksTo_of_lookup
    (presentable : s.Presentable call userId entry)
    (found :
      (PrincipalLinkService.pruneLinkCodes call.now s).pendingLinkCodes.toList.find?
        (fun row => decide (row.2.code = entry.code)) = some (userId, entry)) :
    s.LinksTo call entry.code userId := by
  obtain ⟨-, unlinked⟩ := assertPrincipalIsUnclaimed_ok presentable.unclaimed
  have linked :
      (PrincipalLinkService.pruneLinkCodes call.now s).userProfile.linkPrincipalToUser userId
          call.caller =
        .ok
          { s.userProfile with
            principalIndex := s.userProfile.principalIndex.insert call.caller userId
            idPrincipalIndex := s.userProfile.idPrincipalIndex.insert (userId, call.caller) } := by
    have known : s.userProfile.profiles.contains userId = true :=
      Std.ExtTreeMap.mem_iff_contains.mp presentable.existing
    have free : s.userProfile.principalIndex.contains call.caller = false := by
      rw [ExtTreeMap.contains_eq_isSome_getElem?]
      exact Option.isSome_eq_false_iff.mpr (Option.isNone_iff_eq_none.mpr unlinked)
    simp [PrincipalLinkService.pruneLinkCodes, UserProfileState.linkPrincipalToUser, known, free]
  have ends :
      Ends (PrincipalLinkService.linkMyPrincipal call entry.code) s
        (fun response after =>
          response = .unit ∧
            after.userProfile.getUserIdByPrincipal call.caller = some userId)
        fun _ _ => False := by
    refine ends_bind.mpr (ends_write.mpr (ends_bind.mpr (ends_lookup.mpr ⟨?_, ?_⟩)))
    · intro row sameRow
      obtain rfl : (userId, entry) = row := Option.some.inj (found.symm.trans sameRow)
      refine ends_bind.mpr (ends_rejectIf.mpr ⟨fun _ => ?_, ?_⟩)
      · refine ends_bind.mpr (ends_write.mpr (ends_bind.mpr (ends_check.mpr ⟨?_, ?_⟩)))
        · intro _ _
          refine ends_bind.mpr (ends_tryWrite.mpr ⟨?_, ?_⟩)
          · intro after written
            rw [linked] at written
            cases written
            exact ⟨rfl, by simp [UserProfileState.getUserIdByPrincipal]⟩
          · intro error failed
            rw [linked] at failed
            cases failed
        · intro error rejected
          have accepted := presentable.unclaimed
          cases accepted.symm.trans rejected
      · intro mismatch
        simp [presentable.target] at mismatch
    · intro absent
      cases found.symm.trans absent
  unfold Ends at ends
  rcases ran : outcome (PrincipalLinkService.linkMyPrincipal call entry.code) s with
    ⟨result, after⟩
  rw [ran] at ends
  cases result with
  | ok response =>
      obtain ⟨rfl, links⟩ := ends
      exact ⟨after, ran, links⟩
  | error _ => exact ends.elim

/-- A presentable code works exactly if no earlier user has the same code pending. -/
private theorem linksTo_iff_firstWithCode
    (presentable : s.Presentable call userId entry) :
    s.LinksTo call entry.code userId ↔ s.FirstWithCode call.now entry.code userId := by
  constructor
  · intro links
    obtain ⟨found, lookedUp⟩ := lookup_of_linksTo presentable.unclaimed links
    exact (lookup_eq_some.mp lookedUp).2.2.2
  · intro first
    refine linksTo_of_lookup presentable ?_
    exact lookup_eq_some.mpr ⟨presentable.pending, presentable.unexpired, rfl, first⟩

/-- A registration takes no code that another user has pending. -/
def FreshCode (timed : Timed World) : Event → Prop
  | .message call (.registerLinkCode code _) =>
      ∀ userId other entry,
        timed.state.stores.userProfile.getUserIdByPrincipal call.caller = some userId →
          timed.state.stores.pendingLinkCodes[other]? = some entry →
            call.now < entry.expiresAtNanos → entry.code = code → other = userId
  | _ => True

/-- No two users have the same code pending. -/
def CodesDistinct (timed : Timed World) : Prop :=
  ∀ (first second : UserId) (firstEntry secondEntry : PendingLinkCode),
    timed.state.stores.pendingLinkCodes[first]? = some firstEntry →
      timed.state.stores.pendingLinkCodes[second]? = some secondEntry →
        timed.clock < firstEntry.expiresAtNanos → timed.clock < secondEntry.expiresAtNanos →
          firstEntry.code = secondEntry.code → first = second

omit [Host] in
/-- Dropping codes and letting time pass keeps the codes distinct. -/
private theorem CodesDistinct.of_dropped
    {before after : Timed World}
    (distinct : CodesDistinct before)
    (kept :
      ∀ (userId : UserId) (entry : PendingLinkCode),
        after.state.stores.pendingLinkCodes[userId]? = some entry →
          before.state.stores.pendingLinkCodes[userId]? = some entry)
    (forward : before.clock ≤ after.clock) :
    CodesDistinct after := by
  intro first second firstEntry secondEntry firstPending secondPending firstLater secondLater
  exact
    distinct first second firstEntry secondEntry (kept _ _ firstPending)
      (kept _ _ secondPending) (Nat.lt_of_le_of_lt forward firstLater)
      (Nat.lt_of_le_of_lt forward secondLater)

omit [Host] in
/-- A fresh code is distinct from those of the other users. -/
private theorem CodesDistinct.of_registered
    {before after : Timed World}
    {code : String}
    {target : Principal}
    (distinct : CodesDistinct before)
    (forward : before.clock ≤ call.now)
    (fresh :
      ∀ other entry,
        before.state.stores.pendingLinkCodes[other]? = some entry →
          call.now < entry.expiresAtNanos → entry.code = code → other = userId)
    (written :
      after.state.stores.pendingLinkCodes =
        (PrincipalLinkService.pruneLinkCodes call.now
          before.state.stores).pendingLinkCodes.insert userId
            (registeredEntry call code target)) :
    CodesDistinct after := by
  have cases_pending {other : UserId} {entry : PendingLinkCode}
      (pending : after.state.stores.pendingLinkCodes[other]? = some entry) :
      (other = userId ∧ entry.code = code) ∨
        (before.state.stores.pendingLinkCodes[other]? = some entry ∧
          call.now < entry.expiresAtNanos) := by
    rw [written, getElem?_insert_entry] at pending
    split at pending
    · rename_i same
      cases pending
      exact .inl ⟨same, rfl⟩
    · exact .inr (pending_pruneLinkCodes.mp pending)
  intro first second firstEntry secondEntry firstPending secondPending firstLater secondLater
    same
  rcases cases_pending firstPending with ⟨firstUser, firstCode⟩ | ⟨firstBefore, firstNow⟩
  · rcases cases_pending secondPending with ⟨secondUser, -⟩ | ⟨secondBefore, secondNow⟩
    · exact firstUser.trans secondUser.symm
    · have sameUser := fresh second secondEntry secondBefore secondNow (same.symm.trans firstCode)
      exact firstUser.trans sameUser.symm
  · rcases cases_pending secondPending with ⟨secondUser, secondCode⟩ | ⟨secondBefore, secondNow⟩
    · have sameUser := fresh first firstEntry firstBefore firstNow (same.trans secondCode)
      exact sameUser.trans secondUser.symm
    · exact
        distinct first second firstEntry secondEntry firstBefore secondBefore
          (Nat.lt_of_le_of_lt forward firstNow) (Nat.lt_of_le_of_lt forward secondNow) same

/-- One event whose registrations are fresh keeps the codes distinct. -/
private theorem CodesDistinct.step
    {before after : Timed World}
    {event : Event}
    (distinct : CodesDistinct before)
    (permitted : FreshCode before event)
    (stepped : World.timedStep before event = some after) :
    CodesDistinct after := by
  obtain ⟨forward, taken, clock⟩ := timedStep_eq_some.mp stepped
  cases event with
  | reply now index reply =>
      refine distinct.of_dropped ?_ (clock ▸ forward)
      intro userId entry pending
      rwa [← LinkRun.pendingLinkCodes_of_reply (World.serviceStep_cases taken)]
  | message call request =>
      rcases ran : outcome (handle call request) before.state.stores with ⟨result, stores⟩
      have written : after.state.stores = stores := by
        rw [← Option.some.inj taken, ran]
        rfl
      cases linkCodeChange_of_outcome ran with
      | @registered code target userId _ _ account inserted =>
          refine distinct.of_registered forward (fun other entry => ?_) (written ▸ inserted)
          exact permitted userId other entry account
      | dropped _ kept =>
          refine distinct.of_dropped (fun userId entry pending => ?_) (clock ▸ forward)
          exact kept userId entry (written ▸ pending)

/-- Runs whose registrations are fresh keep the codes distinct. -/
private theorem codesDistinct_of_reachable
    {timed : Timed World}
    (reachable : MessageRun.Reachable World.timedStep FreshCode ⟨World.empty, 0⟩ timed) :
    CodesDistinct timed := by
  refine reachable.invariant ?_ ?_
  · intro first second firstEntry secondEntry firstPending
    simp [World.empty, Stores.empty] at firstPending
  · intro before event after _ distinct permitted stepped
    exact distinct.step permitted stepped

/-- A presentable code works exactly if no earlier user has the same code pending; in runs
in which nobody registers a code that another user has pending, every one works. -/
theorem linkCodeAvailability :
    (∀ (s : Stores) (call : Call) (userId : UserId) (entry : PendingLinkCode),
      s.Presentable call userId entry →
        (s.LinksTo call entry.code userId ↔ s.FirstWithCode call.now entry.code userId)) ∧
      ∀ timed : Timed World,
        MessageRun.Reachable World.timedStep FreshCode ⟨World.empty, 0⟩ timed →
          ∀ (call : Call) (userId : UserId) (entry : PendingLinkCode),
            timed.clock ≤ call.now → timed.state.stores.Presentable call userId entry →
              timed.state.stores.LinksTo call entry.code userId := by
  refine ⟨fun s call userId entry => linksTo_iff_firstWithCode, ?_⟩
  intro timed reachable call userId entry later presentable
  have distinct := codesDistinct_of_reachable reachable
  refine (linksTo_iff_firstWithCode presentable).mpr ?_
  intro other otherEntry otherPending otherUnexpired sameCode
  obtain rfl : other = userId :=
    distinct other userId otherEntry entry otherPending presentable.pending
      (Nat.lt_of_le_of_lt later otherUnexpired)
      (Nat.lt_of_le_of_lt later presentable.unexpired) sameCode
  simp [Std.ReflCmp.compare_self]

end Availability

section ShadowedCode

open TextualHost

attribute [local instance] host

/-- A colleague registers a code for a second device, and the founder registers `code` for
a device of its own. -/
def twoRegistrations (code : String) : List Event :=
  [.message (callBy founder) .createMyUserProfile,
    .message (callBy colleague) .createMyUserProfile,
    .message (callBy colleague) (.registerLinkCode "SHARED01" (principal 8)),
    .message (callBy founder) (.registerLinkCode code (principal 7))]

/-- The colleague's pending code. -/
def colleagueCode : PendingLinkCode :=
  registeredEntry (callBy colleague) "SHARED01" (principal 8)

/-- The founder registers a code of its own. -/
def distinctCodes : Execution World.timedStep ⟨World.empty, 0⟩ :=
  .ofEvents (twoRegistrations "OTHER002") (.message (callBy founder) .createMyUserProfile)
    (by decide +kernel)

/-- The founder registers the colleague's code. -/
def sharedCodes : Execution World.timedStep ⟨World.empty, 0⟩ :=
  .ofEvents (twoRegistrations "SHARED01") (.message (callBy founder) .createMyUserProfile)
    (by decide +kernel)

/-- Whether a registration at a state is fresh, by enumeration. -/
private theorem freshCode_of_all
    {timed : Timed World}
    {call : Call}
    {code : String}
    {target : Principal}
    (fresh :
      timed.state.stores.pendingLinkCodes.toList.all (fun row => decide (row.2.code ≠ code)) =
        true) :
    FreshCode timed (.message call (.registerLinkCode code target)) := by
  intro userId other entry _ pending _ same
  have row := ExtTreeMap.mem_toList_iff_getElem?_eq_some.mpr pending
  have different := List.all_eq_true.mp fresh _ row
  exact (of_decide_eq_true different same).elim

/-- While the founder has another code pending, the colleague's device gets through. -/
theorem linkCodeAvailability_distinctCodes :
    (distinctCodes.state 4).state.stores.LinksTo (callBy (principal 8)) "SHARED01"
      ⟨draw 6⟩ := by
  have reachable :
      MessageRun.Reachable World.timedStep FreshCode ⟨World.empty, 0⟩
        (distinctCodes.state 4) := by
    refine distinctCodes.reachable_of_permitted (by decide) fun time before => ?_
    match time, before with
    | 0, _ | 1, _ => exact trivial
    | 2, _ | 3, _ => exact freshCode_of_all (by decide +kernel)
  exact
    linkCodeAvailability.2 _ reachable (callBy (principal 8)) ⟨draw 6⟩ colleagueCode
      (by decide +kernel)
      { pending := by decide +kernel
        unexpired := by decide +kernel
        target := rfl
        unclaimed := rfl
        existing := by decide +kernel }

/-- Once the founder has the same code pending, the colleague's device does not. -/
theorem shadowedCode :
    ∃ timed, World.TimedReachable timed ∧
      ∃ (call : Call) (userId : UserId) (entry : PendingLinkCode),
        timed.clock ≤ call.now ∧ timed.state.stores.Presentable call userId entry ∧
          ¬ timed.state.stores.LinksTo call entry.code userId := by
  have reachable := sharedCodes.reachable (by decide : 4 ≤ 4)
  refine
    ⟨_, reachable, callBy (principal 8), ⟨draw 6⟩, colleagueCode, by decide +kernel,
      { pending := by decide +kernel
        unexpired := by decide +kernel
        target := rfl
        unclaimed := rfl
        existing := by decide +kernel }, ?_⟩
  rintro ⟨after, ran, linked⟩
  have unlinked :
      (outcome (PrincipalLinkService.linkMyPrincipal (callBy (principal 8)) colleagueCode.code)
        (sharedCodes.state 4).state.stores).2.userProfile.getUserIdByPrincipal
          (principal 8) = none := by
    decide +kernel
  rw [ran] at unlinked
  cases linked.symm.trans unlinked

end ShadowedCode

end SsnConsole.Backend
