import SsnConsole.MembershipIntegrity

/-!
# Listings that re-derive access

Two listings walk the membership graph without `ProjectAuth`: the approvers of a
proposal, from a project's teams to their users, and the canisters that a
principal may read, from a user's teams to their projects.  In every reachable
state both agree with `ProjectAuth::for_user`.
-/

namespace SsnConsole.Backend

open Std (ExtTreeMap ExtTreeSet)
open SsnConsole.StableIndex
open SsnConsole.MessageRun

section Distinct

variable {α : Type} [DecidableEq α]

/-- Push what the `seen` set does not hold yet, in order. -/
def pushUnseen (items : List α) : List α :=
  items.foldl (fun seen item => if item ∈ seen then seen else seen ++ [item]) []

/-- Pushing unseen items collects every item and keeps the list duplicate-free. -/
private theorem foldl_pushUnseen
    (items seen : List α)
    (distinct : seen.Nodup) :
    (items.foldl (fun seen item => if item ∈ seen then seen else seen ++ [item])
        seen).Nodup ∧
      ∀ item,
        item ∈ items.foldl (fun seen item => if item ∈ seen then seen else seen ++ [item])
            seen ↔
          item ∈ seen ∨ item ∈ items := by
  induction items generalizing seen with
  | nil =>
      simpa using distinct
  | cons first rest inductionHypothesis =>
      rw [List.foldl_cons]
      by_cases known : first ∈ seen
      · obtain ⟨nodup, members⟩ := inductionHypothesis seen distinct
        rw [if_pos known]
        refine ⟨nodup, fun item => ?_⟩
        rw [members, List.mem_cons]
        constructor
        · rintro (earlier | later)
          · exact .inl earlier
          · exact .inr (.inr later)
        · rintro (earlier | rfl | later)
          · exact .inl earlier
          · exact .inl known
          · exact .inr later
      · have extended : (seen ++ [first]).Nodup := by
          rw [← List.concat_eq_append]
          exact List.Nodup.concat known distinct
        obtain ⟨nodup, members⟩ := inductionHypothesis (seen ++ [first]) extended
        rw [if_neg known]
        refine ⟨nodup, fun item => ?_⟩
        rw [members, List.mem_append, List.mem_singleton, List.mem_cons, or_assoc]

/-- No item is pushed twice. -/
theorem nodup_pushUnseen
    (items : List α) :
    (pushUnseen items).Nodup :=
  (foldl_pushUnseen items [] List.nodup_nil).1

/-- Every item is pushed. -/
@[simp]
theorem mem_pushUnseen
    {items : List α}
    {item : α} :
    item ∈ pushUnseen items ↔ item ∈ items := by
  have members := (foldl_pushUnseen items [] List.nodup_nil).2 item
  simpa [pushUnseen] using members

/-- The users of `list_project_users_with_permission` are pushed in the same way. -/
theorem firstOccurrences_eq_pushUnseen
    (users : List UserId) :
    firstOccurrences users = pushUnseen users :=
  rfl

/-- `Vec::dedup`: drop what equals its predecessor. -/
def dedup : List α → List α
  | [] => []
  | [item] => [item]
  | first :: second :: rest =>
      if first = second then dedup (second :: rest) else first :: dedup (second :: rest)

/-- Dropping repetitions keeps every item. -/
@[simp]
theorem mem_dedup
    {items : List α}
    {item : α} :
    item ∈ dedup items ↔ item ∈ items := by
  fun_induction dedup items with
  | case1 =>
      rfl
  | case2 =>
      rfl
  | case3 second rest inductionHypothesis =>
      rw [inductionHypothesis]
      simp
  | case4 first second rest different inductionHypothesis =>
      rw [List.mem_cons, inductionHypothesis, ← List.mem_cons]

end Distinct

/-- `Vec::sort`. -/
def sorted {α : Type} [Ord α] (items : List α) : List α :=
  items.insertionSort fun first second => (compare first second).isLE = true

/-- Sorting keeps every item. -/
@[simp]
theorem mem_sorted
    {α : Type}
    [Ord α]
    {items : List α}
    {item : α} :
    item ∈ sorted items ↔ item ∈ items :=
  List.mem_insertionSort _

namespace CanisterService

/-- `list_my_canisters`, up to reading the canisters' states: the rows to read. -/
def listMyCanisters [Host] (call : Call) (projectId : String) (s : Stores) :
    ApiResult (List (CanisterId × Canister)) := do
  let projectId ← Id.tryFrom projectId
  let auth ← ProjectAuth.require call.caller projectId .EMPTY s
  .ok (s.canister.listActiveCanistersByProject auth.projectId)

/-- `list_user_readable_canister_principals`. -/
def listUserReadableCanisterPrincipals (userPrincipal : Principal) (s : Stores) :
    ApiResult (List Principal) :=
  match s.userProfile.getUserIdByPrincipal userPrincipal with
  | none => .ok []
  | some userId =>
      let teamIds := s.team.listUserTeamIds userId
      let projectIds := dedup (sorted (teamIds.flatMap s.project.listTeamProjectIds))
      .ok
        (pushUnseen
          (projectIds.flatMap fun projectId =>
            (s.canister.listActiveCanistersByProject projectId).map fun row =>
              row.2.principal))

end CanisterService

section Access

variable {s : Stores} {userId : UserId} {projectId : ProjectId}

/-- Some team of the user is linked to the project. -/
def Stores.Linked (s : Stores) (userId : UserId) (projectId : ProjectId) : Prop :=
  ∃ teamId,
    (teamId, userId) ∈ s.team.teamUserIndex ∧
      (s.project.getProjectTeamPermissions projectId teamId).isSome = true

/-- The access check finds a link exactly if some team of the user is linked. -/
private theorem Stores.IndexesAgree.aggregate_linked
    (agree : s.IndexesAgree) :
    (s.project.aggregateTeamProjectPermissions (s.team.listUserTeamIds userId)
        projectId).2 = true ↔
      s.Linked userId projectId := by
  simp only [ProjectState.aggregateTeamProjectPermissions, Bool.not_eq_true',
    List.isEmpty_eq_false_iff_exists_mem, List.mem_filterMap, TeamState.listUserTeamIds,
    mem_prefixRows]
  constructor
  · rintro ⟨permissions, teamId, enrolled, linked⟩
    exact ⟨teamId, agree.teamUser.mpr enrolled, Option.isSome_of_eq_some linked⟩
  · rintro ⟨teamId, enrolled, linked⟩
    obtain ⟨permissions, linked⟩ := Option.isSome_iff_exists.mp linked
    exact ⟨permissions, teamId, agree.teamUser.mp enrolled, linked⟩

/-- A linked user is a member of the organization that the project belongs to. -/
theorem Stores.Sound.member_of_linked
    [Host]
    (sound : s.Sound)
    (linked : s.Linked userId projectId) :
    ∃ project,
      s.project.getProject projectId = some project ∧
        s.organization.isUserInOrg userId project.orgId = true := by
  obtain ⟨teamId, enrolled, link⟩ := linked
  have linkedInGraph : (s.graph.projectGrant projectId teamId).isSome := by
    simpa [Stores.graph, membershipGraph] using link
  obtain ⟨orgId, projectOrg, teamOrg⟩ := sound.wellFormed.linked linkedInGraph
  obtain ⟨otherOrg, sameTeam, member⟩ := sound.wellFormed.teamUser enrolled
  obtain ⟨project, found, rfl⟩ := Option.map_eq_some_iff.mp projectOrg
  have sameOrg : otherOrg = project.orgId := by
    rw [teamOrg] at sameTeam
    exact (Option.some.inj sameTeam).symm
  refine ⟨project, found, ?_⟩
  rw [← sameOrg]
  exact ExtTreeSet.mem_iff_contains.mp member

/-- In a sound state access is a link and what the teams grant on the project. -/
theorem Stores.Sound.forUser_ok_iff
    [Host]
    {needed : ProjectPermissions}
    (sound : s.Sound) :
    (∃ auth, ProjectAuth.forUser userId projectId needed s = .ok auth) ↔
      s.Linked userId projectId ∧ needed.flags ⊆ s.graph.projectFlags userId projectId := by
  have agree := sound.agree
  have aggregated := agree.flags_aggregateTeamProjectPermissions userId projectId
  rw [← aggregated, ← Permissions.contains_iff, ← agree.aggregate_linked]
  unfold ProjectAuth.forUser
  constructor
  · rintro ⟨auth, granted⟩
    cases lookup : s.project.getProject projectId with
    | none =>
        simp [lookup] at granted
    | some project =>
        simp only [lookup] at granted
        split at granted
        · cases granted
        · split at granted
          · cases granted
          · rename_i hasLink
            split at granted
            · cases granted
            · rename_i contained
              exact ⟨by simpa using hasLink, by simpa using contained⟩
  · rintro ⟨hasLink, contained⟩
    obtain ⟨project, found, member⟩ :=
      sound.member_of_linked (agree.aggregate_linked.mp hasLink)
    refine
      ⟨⟨userId, projectId, project.orgId,
        (s.project.aggregateTeamProjectPermissions (s.team.listUserTeamIds userId)
          projectId).1⟩, ?_⟩
    simp [found, member, hasLink, contained]

/-- Access without a needed flag is a link. -/
theorem Stores.Sound.forUser_EMPTY_ok_iff
    [Host]
    (sound : s.Sound) :
    (∃ auth, ProjectAuth.forUser userId projectId .EMPTY s = .ok auth) ↔
      s.Linked userId projectId := by
  rw [sound.forUser_ok_iff, Permissions.flags_EMPTY]
  simp

end Access

section Approvers

variable {s : Stores} {userId : UserId} {projectId : ProjectId}

/-- The permission set is one flag. -/
def Permissions.IsFlag {scope : PermissionScope} (permissions : Permissions scope) : Prop :=
  ∃ place < 64, permissions = ⟨1 <<< place⟩

/-- A single flag is a set of one place. -/
theorem Permissions.IsFlag.exists_flags_eq
    {scope : PermissionScope}
    {flag : Permissions scope}
    (single : flag.IsFlag) :
    ∃ place, flag.flags = {place} := by
  obtain ⟨place, within, rfl⟩ := single
  exact ⟨place, BitFlags.flags_one_shiftLeft within⟩

/-- The listed users are those of the teams whose own link carries the flag. -/
private theorem mem_listProjectUsersWithPermission
    {needed : ProjectPermissions} :
    userId ∈ listProjectUsersWithPermission projectId needed s ↔
      ∃ teamId permissions,
        (teamId, userId) ∈ s.team.teamUserIndex ∧
          s.project.getProjectTeamPermissions projectId teamId = some permissions ∧
            permissions.contains needed = true := by
  unfold listProjectUsersWithPermission
  rw [firstOccurrences_eq_pushUnseen, mem_pushUnseen, List.mem_flatMap]
  constructor
  · rintro ⟨teamId, granting, enrolled⟩
    obtain ⟨-, carries⟩ := List.mem_filter.mp granting
    have member : (teamId, userId) ∈ s.team.teamUserIndex := mem_prefixRows.mp enrolled
    cases link : s.project.getProjectTeamPermissions projectId teamId with
    | none =>
        simp [link] at carries
    | some permissions =>
        rw [link] at carries
        exact ⟨teamId, permissions, member, link, carries⟩
  · rintro ⟨teamId, permissions, enrolled, link, carries⟩
    refine ⟨teamId, List.mem_filter.mpr ⟨?_, ?_⟩, mem_prefixRows.mpr enrolled⟩
    · refine List.mem_map.mpr ⟨(teamId, permissions), ?_, rfl⟩
      exact mem_prefixEntries.mpr link
    · rw [link]
      exact carries

/-- One flag is held on a project exactly if a team's own link carries it. -/
private theorem Stores.flag_subset_projectFlags
    {flag : ProjectPermissions}
    (single : flag.IsFlag) :
    flag.flags ⊆ s.graph.projectFlags userId projectId ↔
      ∃ teamId permissions,
        (teamId, userId) ∈ s.team.teamUserIndex ∧
          s.project.getProjectTeamPermissions projectId teamId = some permissions ∧
            permissions.contains flag = true := by
  obtain ⟨place, onlyPlace⟩ := single.exists_flags_eq
  rw [onlyPlace, Set.singleton_subset_iff]
  constructor
  · rintro ⟨teamId, flags, enrolled, link, carried⟩
    obtain ⟨permissions, row, rfl⟩ := Option.map_eq_some_iff.mp link
    refine ⟨teamId, permissions, enrolled, row, ?_⟩
    rw [Permissions.contains_iff, onlyPlace, Set.singleton_subset_iff]
    exact carried
  · rintro ⟨teamId, permissions, enrolled, row, carries⟩
    rw [Permissions.contains_iff, onlyPlace, Set.singleton_subset_iff] at carries
    exact
      ⟨teamId, permissions.flags, enrolled, congrArg (Option.map Permissions.flags) row,
        carries⟩

/-- The snapshot of approvers holds whoever the access check lets through, once. -/
theorem approverSnapshot_eq_forUser
    [Host]
    {world : World}
    (reachable : world.Reachable)
    (projectId : ProjectId)
    (flag : ProjectPermissions)
    (single : flag.IsFlag) :
    (listProjectUsersWithPermission projectId flag world.stores).Nodup ∧
      ∀ userId,
        userId ∈ listProjectUsersWithPermission projectId flag world.stores ↔
          ∃ auth, ProjectAuth.forUser userId projectId flag world.stores = .ok auth := by
  have sound : world.stores.Sound := World.Reachable.sound reachable
  refine ⟨?_, fun userId => ?_⟩
  · unfold listProjectUsersWithPermission
    rw [firstOccurrences_eq_pushUnseen]
    exact nodup_pushUnseen _
  · rw [sound.forUser_ok_iff, Stores.flag_subset_projectFlags single,
      mem_listProjectUsersWithPermission]
    constructor
    · rintro ⟨teamId, permissions, enrolled, link, carries⟩
      exact
        ⟨⟨teamId, enrolled, Option.isSome_of_eq_some link⟩, teamId, permissions, enrolled,
          link, carries⟩
    · rintro ⟨-, carried⟩
      exact carried

end Approvers

section Readers

variable {s : Stores} {userId : UserId} {projectId : ProjectId}

/-- The listed projects of a user are those that some team of the user is linked to. -/
theorem Stores.IndexesAgree.mem_linkedProjects
    (agree : s.IndexesAgree) :
    projectId ∈
        dedup (sorted ((s.team.listUserTeamIds userId).flatMap s.project.listTeamProjectIds)) ↔
      s.Linked userId projectId := by
  rw [mem_dedup, mem_sorted, List.mem_flatMap]
  constructor
  · rintro ⟨teamId, enrolled, listed⟩
    obtain ⟨⟨listedProject, permissions⟩, row, rfl⟩ := List.mem_map.mp listed
    refine ⟨teamId, agree.teamUser.mpr (mem_prefixRows.mp enrolled), ?_⟩
    have mirrored := agree.projectTeam.trans (mem_prefixEntries.mp row)
    exact Option.isSome_of_eq_some mirrored
  · rintro ⟨teamId, enrolled, link⟩
    obtain ⟨permissions, link⟩ := Option.isSome_iff_exists.mp link
    refine ⟨teamId, mem_prefixRows.mpr (agree.teamUser.mp enrolled), ?_⟩
    refine List.mem_map.mpr ⟨(projectId, permissions), ?_, rfl⟩
    exact mem_prefixEntries.mpr (agree.projectTeam.symm.trans link)

variable [Host]

/-- A user with access to the project that a text names is shown its active rows. -/
private theorem listMyCanisters_eq_ok
    {call : Call}
    {text : String}
    {auth : ProjectAuth}
    (parsed : Id.tryFrom text = .ok projectId)
    (account : s.userProfile.getUserIdByPrincipal call.caller = some userId)
    (granted : ProjectAuth.forUser userId projectId .EMPTY s = .ok auth) :
    CanisterService.listMyCanisters call text s =
      .ok (s.canister.listActiveCanistersByProject projectId) := by
  have resolved : s.userProfile.assertUserIdByPrincipal call.caller = .ok userId := by
    simp [UserProfileState.assertUserIdByPrincipal, account]
  have required : ProjectAuth.require call.caller projectId .EMPTY s = .ok auth :=
    MessageSlice.bind_eq_ok.mpr ⟨userId, resolved, granted⟩
  have sameProject : auth.projectId = projectId := (ProjectAuth.require_ok required).project
  simp [CanisterService.listMyCanisters, parsed, required, sameProject, bind, Except.bind]

/-- Whoever is shown a project's rows has access to the project. -/
private theorem forUser_of_listMyCanisters
    {call : Call}
    {text : String}
    {rows : List (CanisterId × Canister)}
    (shown : CanisterService.listMyCanisters call text s = .ok rows) :
    ∃ projectId userId auth,
      s.userProfile.getUserIdByPrincipal call.caller = some userId ∧
        ProjectAuth.forUser userId projectId .EMPTY s = .ok auth ∧
          rows = s.canister.listActiveCanistersByProject projectId := by
  obtain ⟨projectId, -, checked⟩ := MessageSlice.bind_eq_ok.mp shown
  obtain ⟨auth, required, listed⟩ := MessageSlice.bind_eq_ok.mp checked
  obtain ⟨userId, resolved, granted⟩ := MessageSlice.bind_eq_ok.mp required
  have account := UserProfileState.assertUserIdByPrincipal_ok resolved
  have sameProject : auth.projectId = projectId := (ProjectAuth.require_ok required).project
  rw [sameProject] at listed
  exact ⟨projectId, userId, auth, account, granted, (Except.ok.inj listed).symm⟩

/-- The principals that a listing gives to a reader are those the reader has access to. -/
structure Stores.ReadableBy (s : Stores) (userPrincipal : Principal)
    (listed : List Principal) : Prop where
  distinct : listed.Nodup
  unlinked : s.userProfile.getUserIdByPrincipal userPrincipal = none → listed = []
  accessible :
    ∀ userId, s.userProfile.getUserIdByPrincipal userPrincipal = some userId →
      ∀ principal,
        principal ∈ listed ↔
          ∃ projectId canisterId canister,
            (∃ auth, ProjectAuth.forUser userId projectId .EMPTY s = .ok auth) ∧
              (canisterId, canister) ∈ s.canister.listActiveCanistersByProject projectId ∧
                canister.principal = principal
  /-- Nothing is listed that `list_my_canisters` refuses to the same principal. -/
  notRefused :
    ∀ principal ∈ listed,
      ∃ projectId : ProjectId, ∀ call text,
        call.caller = userPrincipal → Id.tryFrom text = .ok projectId →
          ∃ rows, CanisterService.listMyCanisters call text s = .ok rows ∧
            principal ∈ rows.map fun row => row.2.principal
  /-- Whatever `list_my_canisters` shows the same principal is listed. -/
  notMissed :
    ∀ call text rows,
      call.caller = userPrincipal → CanisterService.listMyCanisters call text s = .ok rows →
        ∀ row ∈ rows, row.2.principal ∈ listed

/-- The user has access to a project with an active canister of this principal. -/
private def Stores.Reaches (s : Stores) (userId : UserId) (principal : Principal) : Prop :=
  ∃ projectId canisterId canister,
    (∃ auth, ProjectAuth.forUser userId projectId .EMPTY s = .ok auth) ∧
      (canisterId, canister) ∈ s.canister.listActiveCanistersByProject projectId ∧
        canister.principal = principal

/-- The active canisters of the linked projects are those of the accessible projects. -/
private theorem Stores.Sound.mem_linkedCanisters
    (sound : s.Sound)
    (principal : Principal) :
    principal ∈
        (dedup (sorted ((s.team.listUserTeamIds userId).flatMap
            s.project.listTeamProjectIds))).flatMap (fun projectId =>
          (s.canister.listActiveCanistersByProject projectId).map fun row =>
            row.2.principal) ↔
      s.Reaches userId principal := by
  rw [List.mem_flatMap]
  constructor
  · rintro ⟨projectId, listed, shown⟩
    obtain ⟨⟨canisterId, canister⟩, row, named⟩ := List.mem_map.mp shown
    have linked := sound.agree.mem_linkedProjects.mp listed
    exact ⟨projectId, canisterId, canister, sound.forUser_EMPTY_ok_iff.mpr linked, row, named⟩
  · rintro ⟨projectId, canisterId, canister, granted, row, named⟩
    have linked := sound.forUser_EMPTY_ok_iff.mp granted
    exact
      ⟨projectId, sound.agree.mem_linkedProjects.mpr linked,
        List.mem_map.mpr ⟨(canisterId, canister), row, named⟩⟩

/-- A principal without an account reads nothing. -/
private theorem Stores.ReadableBy.of_unlinked
    {userPrincipal : Principal}
    (unlinked : s.userProfile.getUserIdByPrincipal userPrincipal = none) :
    s.ReadableBy userPrincipal [] where
  distinct := List.nodup_nil
  unlinked _ := rfl
  accessible userId linked := by
    cases unlinked.symm.trans linked
  notRefused principal listed := by
    cases listed
  notMissed call text rows caller shown := by
    obtain ⟨projectId, userId, auth, linked, -, -⟩ := forUser_of_listMyCanisters shown
    rw [caller, unlinked] at linked
    cases linked

/-- A principal with an account reads what the account has access to. -/
private theorem Stores.ReadableBy.of_reaches
    {userPrincipal : Principal}
    {listed : List Principal}
    (account : s.userProfile.getUserIdByPrincipal userPrincipal = some userId)
    (distinct : listed.Nodup)
    (members : ∀ principal, principal ∈ listed ↔ s.Reaches userId principal) :
    s.ReadableBy userPrincipal listed where
  distinct := distinct
  unlinked unlinked := by
    cases account.symm.trans unlinked
  accessible otherId linked := by
    cases account.symm.trans linked
    exact members
  notRefused principal listed := by
    obtain ⟨projectId, canisterId, canister, ⟨auth, granted⟩, row, named⟩ :=
      (members principal).mp listed
    refine ⟨projectId, ?_⟩
    intro call text caller parsed
    rw [← caller] at account
    refine ⟨_, listMyCanisters_eq_ok parsed account granted, ?_⟩
    exact List.mem_map.mpr ⟨(canisterId, canister), row, named⟩
  notMissed call text rows caller shown := by
    obtain ⟨projectId, otherId, auth, linked, granted, rfl⟩ := forUser_of_listMyCanisters shown
    rw [caller] at linked
    cases account.symm.trans linked
    rintro ⟨canisterId, canister⟩ row
    exact
      (members canister.principal).mpr
        ⟨projectId, canisterId, canister, ⟨auth, granted⟩, row, rfl⟩

/-- The readable canisters of a principal are those of the projects it has access to. -/
theorem readableCanisters_eq_accessible
    {world : World}
    (reachable : world.Reachable)
    (userPrincipal : Principal) :
    ∃ listed,
      CanisterService.listUserReadableCanisterPrincipals userPrincipal world.stores =
          .ok listed ∧
        world.stores.ReadableBy userPrincipal listed := by
  have sound : world.stores.Sound := World.Reachable.sound reachable
  unfold CanisterService.listUserReadableCanisterPrincipals
  cases account : world.stores.userProfile.getUserIdByPrincipal userPrincipal with
  | none =>
      exact ⟨[], rfl, .of_unlinked account⟩
  | some userId =>
      refine ⟨_, rfl, .of_reaches account (nodup_pushUnseen _) ?_⟩
      intro principal
      exact mem_pushUnseen.trans (sound.mem_linkedCanisters principal)

end Readers

section Founding

open TextualHost

attribute [local instance] host

/-- A founder signs up, brings a colleague into its team and creates a canister. -/
def sharedCanister : List Event :=
  [.message (callBy founder) .createMyUserProfile,
    .message (callBy colleague) .createMyUserProfile,
    .message (callBy founder) (.createOrgInvite (idText 1) (.principal colleague)),
    .message (callBy colleague) (.acceptOrgInvite (idText 12)),
    .message (callBy founder) (.addUserToTeam (idText 2) (idText 6)),
    .message (callBy founder) (.createProposal (idText 3) (some .createCanister)),
    .reply 1700000000000000000 0 (.canisterCreated (principal 7))]

/-- The founder and the colleague are the approvers of the founder's project. -/
theorem approverSnapshot_sharedCanister :
    ∃ world,
      runEvents World.serviceStep World.empty sharedCanister = some world ∧
        (listProjectUsersWithPermission ⟨draw 3⟩ ProjectPermissions.PROPOSAL_APPROVE
          world.stores).Nodup ∧
        ∀ userId,
          userId ∈ listProjectUsersWithPermission ⟨draw 3⟩
              ProjectPermissions.PROPOSAL_APPROVE world.stores ↔
            ∃ auth,
              ProjectAuth.forUser userId ⟨draw 3⟩ ProjectPermissions.PROPOSAL_APPROVE
                world.stores = .ok auth := by
  obtain ⟨world, ran⟩ :=
    Option.isSome_iff_exists.mp
      (by decide +kernel :
        (runEvents World.serviceStep World.empty sharedCanister).isSome = true)
  have reachable : world.Reachable := .runEvents .initial (fun _ _ _ => trivial) ran
  have single : ProjectPermissions.PROPOSAL_APPROVE.IsFlag := ⟨3, by decide, rfl⟩
  exact ⟨world, ran, approverSnapshot_eq_forUser reachable ⟨draw 3⟩ _ single⟩

/-- The colleague reads the canister of the project that they share. -/
theorem readableCanisters_sharedCanister :
    ∃ world,
      runEvents World.serviceStep World.empty sharedCanister = some world ∧
        ∃ listed,
          CanisterService.listUserReadableCanisterPrincipals colleague world.stores =
              .ok listed ∧
            world.stores.ReadableBy colleague listed := by
  obtain ⟨world, ran⟩ :=
    Option.isSome_iff_exists.mp
      (by decide +kernel :
        (runEvents World.serviceStep World.empty sharedCanister).isSome = true)
  have reachable : world.Reachable := .runEvents .initial (fun _ _ _ => trivial) ran
  exact ⟨world, ran, readableCanisters_eq_accessible reachable colleague⟩

example :
    (runEvents World.serviceStep World.empty sharedCanister).any (fun world =>
      listProjectUsersWithPermission ⟨draw 3⟩ ProjectPermissions.PROPOSAL_APPROVE
          world.stores == [⟨draw 0⟩, ⟨draw 6⟩] &&
        match CanisterService.listUserReadableCanisterPrincipals colleague world.stores with
        | .ok listed => listed == [principal 7]
        | .error _ => false) = true := by
  decide +kernel

end Founding

end SsnConsole.Backend
