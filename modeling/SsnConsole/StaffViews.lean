import SsnConsole.BackendQueries
import SsnConsole.StaffCeiling

/-!
# Three views of staff permissions

The check of `assert_staff_perm`, the set that `caller_staff_permissions`
computes and the report of `get_my_staff_permissions` each resolve a principal on
their own.  The first two agree; the third does not look at the account's status.
-/

namespace SsnConsole.Backend

/-- The staff flags with what a view reports for each. -/
def Dto.StaffPermissions.reported (view : Dto.StaffPermissions) :
    List (Permissions .staff × Bool) :=
  [(StaffPermissions.READ_ALL_ORGS, view.readAllOrgs),
    (StaffPermissions.WRITE_BILLING, view.writeBilling),
    (StaffPermissions.MANAGE_USERS, view.manageUsers),
    (StaffPermissions.READ_METRICS, view.readMetrics)]

/-- Every flag of a permission set is reported true. -/
def Dto.StaffPermissions.Reports (view : Dto.StaffPermissions)
    (needed : Permissions .staff) : Prop :=
  ∀ entry ∈ view.reported, needed.contains entry.1 = true → entry.2 = true

section Flags

/-- What a mapped view reports of a flag is whether the set contains it. -/
private theorem mem_reported_mapStaffPermissions
    {perms flag : StaffPermissions}
    {value : Bool}
    (reported : (flag, value) ∈ (mapStaffPermissions perms).reported) :
    value = perms.contains flag := by
  simp only [Dto.StaffPermissions.reported, mapStaffPermissions, List.mem_cons, Prod.mk.injEq,
    List.not_mem_nil, or_false] at reported
  rcases reported with ⟨rfl, rfl⟩ | ⟨rfl, rfl⟩ | ⟨rfl, rfl⟩ | ⟨rfl, rfl⟩ <;> rfl

/-- A flag at one place has that bit alone. -/
private theorem flags_of_place
    {flag : StaffPermissions}
    {place : Nat}
    (within : place < 64)
    (placed : flag.bits = (1 : BitVec 64) <<< place) :
    flag.flags = {place} := by
  unfold Permissions.flags
  rw [placed]
  exact BitFlags.flags_one_shiftLeft within

/-- Every bit of the full set is one of the four staff flags. -/
private theorem exists_reported_of_mem_flags_ALL
    {position : Nat}
    (view : Dto.StaffPermissions)
    (known : position ∈ StaffPermissions.ALL.flags) :
    ∃ entry ∈ view.reported, entry.1.flags = {position} := by
  have readAllOrgs : StaffPermissions.READ_ALL_ORGS.flags = {0} :=
    flags_of_place (by decide) (by decide)
  have writeBilling : StaffPermissions.WRITE_BILLING.flags = {1} :=
    flags_of_place (by decide) (by decide)
  have manageUsers : StaffPermissions.MANAGE_USERS.flags = {2} :=
    flags_of_place (by decide) (by decide)
  have readMetrics : StaffPermissions.READ_METRICS.flags = {3} :=
    flags_of_place (by decide) (by decide)
  have union :
      StaffPermissions.ALL =
        ((StaffPermissions.READ_ALL_ORGS.union StaffPermissions.WRITE_BILLING).union
          StaffPermissions.MANAGE_USERS).union StaffPermissions.READ_METRICS := rfl
  rw [union, Permissions.flags_union, Permissions.flags_union, Permissions.flags_union,
    readAllOrgs, writeBilling, manageUsers, readMetrics] at known
  rcases known with ((rfl | rfl) | rfl) | rfl
  · exact ⟨_, .head _, readAllOrgs⟩
  · exact ⟨_, .tail _ (.head _), writeBilling⟩
  · exact ⟨_, .tail _ (.tail _ (.head _)), manageUsers⟩
  · exact ⟨_, .tail _ (.tail _ (.tail _ (.head _))), readMetrics⟩

/-- A set within `ALL` is contained exactly if its flags are all reported. -/
theorem reports_mapStaffPermissions_iff
    {perms needed : StaffPermissions}
    (known : StaffPermissions.ALL.contains needed = true) :
    (mapStaffPermissions perms).Reports needed ↔ perms.contains needed = true := by
  constructor
  · intro reports
    rw [Permissions.contains_iff] at known ⊢
    intro position isNeeded
    obtain ⟨⟨flag, value⟩, reported, single⟩ :=
      exists_reported_of_mem_flags_ALL (mapStaffPermissions perms) (known isNeeded)
    have neededFlag : needed.contains flag = true := by
      rw [Permissions.contains_iff, single, Set.singleton_subset_iff]
      exact isNeeded
    have held : perms.contains flag = true := by
      rw [← mem_reported_mapStaffPermissions reported]
      exact reports _ reported neededFlag
    rw [Permissions.contains_iff, single, Set.singleton_subset_iff] at held
    exact held
  · intro contained entry reported neededFlag
    rw [mem_reported_mapStaffPermissions reported]
    rw [Permissions.contains_iff] at contained neededFlag ⊢
    exact neededFlag.trans contained

end Flags

section Agreement

variable {call : Call} {needed : StaffPermissions} {s : Stores}

/-- The empty set contains no other set. -/
private theorem EMPTY_contains
    (nonempty : needed ≠ .EMPTY) :
    (Permissions.EMPTY : StaffPermissions).contains needed = false := by
  apply Bool.eq_false_iff.mpr
  intro contained
  have masked : (0 : BitVec 64) &&& needed.bits = needed.bits := beq_iff_eq.mp contained
  have zero : needed.bits = 0 := masked.symm.trans BitVec.zero_and
  exact nonempty (congrArg Permissions.mk zero)

/-- A profile passes the staff check exactly if its effective permissions suffice. -/
private theorem checkProfileStaffPerm_eq_ok_iff
    [Host]
    {profile : UserProfile}
    (nonempty : needed ≠ .EMPTY) :
    checkProfileStaffPerm profile needed = .ok () ↔
      profile.effectiveStaffPermissions.contains needed = true := by
  unfold checkProfileStaffPerm
  by_cases active : profile.status = .active
  · rw [if_neg (by simpa using active), profile.effectiveStaffPermissions_of_active active]
    cases (profile.staffPermissions.getD .EMPTY).contains needed <;> simp
  · rw [if_pos active, UserProfile.effectiveStaffPermissions_of_not_active active,
      EMPTY_contains nonempty]
    simp

/-- The check and the computed set agree on every named caller that is no controller. -/
theorem assertStaffPerm_eq_ok_iff
    [Host]
    (authenticated : call.caller ≠ Principal.anonymous)
    (noController : call.isController call.caller = false)
    (nonempty : needed ≠ .EMPTY) :
    assertStaffPerm call needed s = .ok () ↔
      (callerStaffPermissions call.isController call.caller s).contains needed = true := by
  have passes : assertAuthenticated call.caller = .ok () := if_neg authenticated
  have notController : ¬call.isController call.caller = true := by
    rw [noController]
    decide
  unfold assertStaffPerm callerStaffPermissions
  rw [passes, if_neg authenticated, if_neg notController]
  simp only [bind, Except.bind, if_neg notController]
  cases s.servicePrincipal.getServicePrincipalPermissions call.caller with
  | some permissions =>
      cases held : permissions.contains needed <;> simp [held]
  | none =>
      dsimp only [UserProfileState.assertUserIdByPrincipal]
      cases s.userProfile.getUserIdByPrincipal call.caller with
      | none =>
          simp [EMPTY_contains nonempty]
      | some userId =>
          dsimp only
          cases s.userProfile.getUserProfileByUserId userId with
          | none =>
              simp [EMPTY_contains nonempty]
          | some profile =>
              exact checkProfileStaffPerm_eq_ok_iff nonempty

/-- The staff permissions that a principal has on record, whatever its account's status. -/
def recordedStaffPermissions (caller : Principal) (s : Stores) : Option StaffPermissions :=
  match s.servicePrincipal.getServicePrincipalPermissions caller with
  | some permissions => some permissions
  | none =>
      (s.userProfile.getUserProfileByPrincipal caller).bind fun entry =>
        entry.2.staffPermissions

/-- The report shows a needed set exactly if the record contains it. -/
theorem getMyStaffPermissions_reports_iff
    {caller : Principal}
    (known : StaffPermissions.ALL.contains needed = true) :
    (∃ view,
        StaffPermissionsService.getMyStaffPermissions caller s = some view ∧
          view.Reports needed) ↔
      ∃ permissions,
        recordedStaffPermissions caller s = some permissions ∧
          permissions.contains needed = true := by
  have mapped :
      StaffPermissionsService.getMyStaffPermissions caller s =
        (recordedStaffPermissions caller s).map mapStaffPermissions := by
    unfold StaffPermissionsService.getMyStaffPermissions recordedStaffPermissions
    cases s.servicePrincipal.getServicePrincipalPermissions caller <;> rfl
  rw [mapped]
  cases recordedStaffPermissions caller s with
  | none =>
      simp
  | some permissions =>
      simp [reports_mapStaffPermissions_iff known]

/-- The three views give the same answer about a needed set. -/
def StaffViewsAgree [Host] (call : Call) (needed : StaffPermissions) (s : Stores) : Prop :=
  (assertStaffPerm call needed s = .ok () ↔
      (callerStaffPermissions call.isController call.caller s).contains needed = true) ∧
    ((callerStaffPermissions call.isController call.caller s).contains needed = true ↔
      ∃ view,
        StaffPermissionsService.getMyStaffPermissions call.caller s = some view ∧
          view.Reports needed)

/-- An account that records the needed set is active, unless a service registration comes
before it. -/
def RecordedOnActiveAccount (caller : Principal) (needed : StaffPermissions) (s : Stores) :
    Prop :=
  s.servicePrincipal.getServicePrincipalPermissions caller = none →
    ∀ entry ∈ s.userProfile.getUserProfileByPrincipal caller,
      (entry.2.staffPermissions.getD .EMPTY).contains needed = true →
        entry.2.status = .active

/-- A profile gives what it records exactly if it is active or records too little. -/
private theorem effective_iff_recorded_iff
    {profile : UserProfile}
    (nonempty : needed ≠ .EMPTY) :
    (profile.effectiveStaffPermissions.contains needed = true ↔
        ∃ permissions,
          profile.staffPermissions = some permissions ∧ permissions.contains needed = true) ↔
      ((profile.staffPermissions.getD .EMPTY).contains needed = true →
        profile.status = .active) := by
  have recorded :
      (∃ permissions,
          profile.staffPermissions = some permissions ∧ permissions.contains needed = true) ↔
        (profile.staffPermissions.getD .EMPTY).contains needed = true := by
    cases profile.staffPermissions <;> simp [EMPTY_contains nonempty]
  rw [recorded]
  by_cases active : profile.status = .active
  · rw [UserProfile.effectiveStaffPermissions_of_active active]
    simp [active]
  · rw [UserProfile.effectiveStaffPermissions_of_not_active active, EMPTY_contains nonempty]
    simp [active]

/-- The views agree exactly if the needed set is not on record for an inactive account. -/
theorem staffViewsAgree_iff
    [Host]
    (authenticated : call.caller ≠ Principal.anonymous)
    (noController : call.isController call.caller = false)
    (nonempty : needed ≠ .EMPTY)
    (known : StaffPermissions.ALL.contains needed = true) :
    StaffViewsAgree call needed s ↔ RecordedOnActiveAccount call.caller needed s := by
  unfold StaffViewsAgree
  rw [assertStaffPerm_eq_ok_iff authenticated noController nonempty,
    getMyStaffPermissions_reports_iff known]
  unfold recordedStaffPermissions RecordedOnActiveAccount
  cases service : s.servicePrincipal.getServicePrincipalPermissions call.caller with
  | some permissions =>
      have effective :
          callerStaffPermissions call.isController call.caller s = permissions := by
        unfold callerStaffPermissions
        rw [if_neg authenticated, if_neg (by simp [noController]), service]
      rw [effective]
      simp
  | none =>
      have byAccount : StaffByAccount call.isController call.caller s :=
        ⟨authenticated, noController, service⟩
      rw [byAccount.callerStaffPermissions_eq]
      dsimp only [UserProfileState.linkedStaffPermissions,
        UserProfileState.accountStaffPermissions, UserProfileState.getUserProfileByPrincipal]
      cases s.userProfile.getUserIdByPrincipal call.caller with
      | none =>
          simp [EMPTY_contains nonempty]
      | some userId =>
          dsimp only [Option.bind_some]
          cases s.userProfile.getUserProfileByUserId userId with
          | none =>
              simp [EMPTY_contains nonempty]
          | some profile =>
              simpa using effective_iff_recorded_iff nonempty

end Agreement

section Reactivation

open SsnConsole.MessageRun TextualHost

attribute [local instance] host

/-- The views of an active account agree. -/
theorem staffViewsAgree_colleague :
    StaffViewsAgree (callBy colleague) StaffPermissions.MANAGE_USERS
      (reactivationRun.state 6).stores := by
  refine
    (staffViewsAgree_iff (by decide) (by decide) (by decide) (by decide)).mpr
      fun _ entry stored _ => ?_
  have active :
      ∀ entry ∈ (reactivationRun.state 6).stores.userProfile.getUserProfileByPrincipal colleague,
        entry.2.status = .active := by
    decide +kernel
  exact active entry stored

/-- An inactive account is told that it holds a permission which every check denies it. -/
theorem inactiveStaff_views_disagree :
    ∃ world,
      MessageRun.Reachable World.endpointStep (fun _ _ => True) World.empty world ∧
        (callBy founder).caller ≠ Principal.anonymous ∧
          (callBy founder).isController (callBy founder).caller = false ∧
            StaffPermissions.WRITE_BILLING ≠ .EMPTY ∧
              StaffPermissions.ALL.contains StaffPermissions.WRITE_BILLING = true ∧
                ¬StaffViewsAgree (callBy founder) StaffPermissions.WRITE_BILLING
                    world.stores := by
  refine
    ⟨reactivationRun.state 6, reactivationRun.reachable (by decide : 6 ≤ 7), by decide,
      by decide, by decide, by decide, fun agree => ?_⟩
  have reported :
      ∃ view,
        StaffPermissionsService.getMyStaffPermissions founder
            (reactivationRun.state 6).stores = some view ∧
          view.Reports StaffPermissions.WRITE_BILLING := by
    refine (getMyStaffPermissions_reports_iff (by decide)).mpr ⟨.WRITE_BILLING, ?_, by decide⟩
    decide +kernel
  exact absurd (agree.2.mpr reported) (by decide +kernel)

end Reactivation

end SsnConsole.Backend
