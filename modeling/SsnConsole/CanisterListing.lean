import SsnConsole.CanisterRecords
import SsnConsole.MembershipIntegrity
import SsnConsole.OffsetPaging
import SsnConsole.PagedListings

/-!
# Listing all canisters

`admin_list_all_canisters` cuts the canister records into pages by offset and
joins each row with its project, the project's organization, the organization's
first user and that user's profile.  A row whose join fails is left out, so the
pages are complete only where the stores refer to what exists.
-/

namespace SsnConsole.Backend

open SsnConsole.MessageRun
open SsnConsole.OffsetPaging
open SsnConsole.StableIndex

def MIN_PAGINATION_PAGE : Nat := 1
def DEFAULT_PAGINATION_PAGE : Nat := 1

namespace Dto

structure CanisterWithOwner where
  id : String
  principalId : String
  userId : String
  email : Option String
  emailVerified : Bool
  deletedAt : Option Nat
  deriving DecidableEq

structure PaginationMetaResponse where
  limit : Nat
  page : Nat
  totalItems : Nat
  totalPages : Nat
  deriving DecidableEq

structure ListAllCanistersResponse where
  canisters : List CanisterWithOwner
  paginationMeta : PaginationMetaResponse
  deriving DecidableEq

end Dto

namespace CanisterState

/-- `list_canisters_with_project`: a page of the records, without those that have no project. -/
def listCanistersWithProject (s : CanisterState) (limit page : Nat) :
    List (CanisterId × Canister × ProjectId) :=
  (wordPage USIZE_BITS s.canisters.toList limit page).filterMap fun (canisterId, canister) =>
    (s.getCanisterProjectId canisterId).map fun projectId => (canisterId, canister, projectId)

def getCanisterCount (s : CanisterState) : Nat :=
  s.canisters.size

/-- A record takes three rows: its own, one in a project's index and one for its project.  Each
names it by 16 bytes and the last two also their project. -/
def RECORD_BYTES : Nat :=
  5 * 16

/-- The records fit into the stable memory that they are kept in. -/
def FitsStableMemory (s : CanisterState) : Prop :=
  s.canisters.size * RECORD_BYTES ≤ STABLE_MEMORY_BYTES

end CanisterState

/-- The first user of the organization that a project belongs to, with the user's profile. -/
def Stores.projectOwner (s : Stores) (projectId : ProjectId) : Option (UserId × UserProfile) := do
  let project ← s.project.getProject projectId
  let orgOwnerId ← (s.organization.listOrgUsers project.orgId).head?
  let orgOwner ← s.userProfile.getUserProfileByUserId orgOwnerId
  return (orgOwnerId, orgOwner)

section Service

variable [Host]

/-- A listed row. -/
def canisterWithOwner (canisterId : CanisterId) (canister : Canister)
    (owner : UserId × UserProfile) : Dto.CanisterWithOwner where
  id := canisterId.text
  principalId := canister.principal.text
  userId := owner.1.text
  email := owner.2.email
  emailVerified := owner.2.emailVerified
  deletedAt := canister.deletedAt

namespace CanisterService

/-- `list_all_canisters`. -/
def listAllCanisters (limit page : Option Nat) (s : Stores) :
    ApiResult Dto.ListAllCanistersResponse :=
  let limit := pageLimit limit
  let page := page.getD DEFAULT_PAGINATION_PAGE
  let totalItems := s.canister.getCanisterCount
  let totalPages := max (divCeil totalItems limit) MIN_PAGINATION_PAGE
  let page := clamp page MIN_PAGINATION_PAGE totalPages
  let canisters :=
    (s.canister.listCanistersWithProject limit page).filterMap
      fun (canisterId, canister, projectId) =>
        (s.projectOwner projectId).map (canisterWithOwner canisterId canister)
  .ok ⟨canisters, ⟨limit, page, totalItems, totalPages⟩⟩

end CanisterService

section Joins

variable {s : Stores}

/-- The projects of the recorded canisters exist. -/
def Stores.ProjectsExist (s : Stores) : Prop :=
  ∀ canisterId projectId, s.canister.getCanisterProjectId canisterId = some projectId →
    (s.project.getProject projectId).isSome

/-- A canister's record with its project's owner, if all joins succeed. -/
def Stores.ownedCanister (s : Stores) (row : CanisterId × Canister) :
    Option (CanisterId × Canister × UserId × UserProfile) :=
  ((s.canister.getCanisterProjectId row.1).bind s.projectOwner).map fun owner =>
    (row.1, row.2, owner)

/-- The owner of an existing project is found, and belongs to its organization. -/
theorem Stores.Sound.projectOwner
    (sound : s.Sound)
    {projectId : ProjectId}
    {project : Project}
    (found : s.project.getProject projectId = some project) :
    ∃ userId profile, s.projectOwner projectId = some (userId, profile) ∧
      (project.orgId, userId) ∈ s.organization.organizationUserIndex ∧
      s.userProfile.getUserProfileByUserId userId = some profile := by
  have integrity := sound.membershipIntegrity
  have row : (project.orgId, projectId) ∈ s.project.organizationProjectIndex :=
    (integrity.organizationProject _ _).mpr ⟨project, found, rfl⟩
  have existing : project.orgId ∈ s.organization.organizations :=
    integrity.projectOrgExists _ _ row
  obtain ⟨teamId, administrator, belongs, -, enrolled⟩ :=
    sound.administered project.orgId existing
  obtain ⟨memberOrg, belongsTo, member⟩ := sound.wellFormed.teamUser enrolled
  obtain rfl : project.orgId = memberOrg := Option.some.inj (belongs.symm.trans belongsTo)
  have listed : administrator ∈ s.organization.listOrgUsers project.orgId :=
    mem_prefixRows.mpr member
  cases users : s.organization.listOrgUsers project.orgId with
  | nil =>
      rw [users] at listed
      exact absurd listed List.not_mem_nil
  | cons userId others =>
      have first : (project.orgId, userId) ∈ s.organization.organizationUserIndex := by
        apply mem_prefixRows.mp
        change userId ∈ s.organization.listOrgUsers project.orgId
        rw [users]
        exact List.mem_cons_self
      have known : userId ∈ s.userProfile.profiles := (integrity.memberExists _ _ first).2
      obtain ⟨profile, profileFound⟩ :
          ∃ profile, s.userProfile.getUserProfileByUserId userId = some profile :=
        Option.isSome_iff_exists.mp (Std.ExtTreeMap.isSome_getElem?_iff_mem.mpr known)
      refine ⟨userId, profile, ?_, first, profileFound⟩
      simp [Stores.projectOwner, found, users, profileFound]

/-- Each record once, with a member of the organization that its project belongs to. -/
structure Stores.OwnedCanisters (s : Stores)
    (listed : List (CanisterId × Canister × UserId × UserProfile)) : Prop where
  once : (listed.map Prod.fst).Nodup
  records :
    ∀ canisterId canister,
      (∃ owner, (canisterId, canister, owner) ∈ listed) ↔
        s.canister.getCanister canisterId = some canister
  attributed :
    ∀ canisterId canister userId profile,
      (canisterId, canister, userId, profile) ∈ listed →
        ∃ projectId project,
          s.canister.getCanisterProjectId canisterId = some projectId ∧
            s.project.getProject projectId = some project ∧
            (project.orgId, userId) ∈ s.organization.organizationUserIndex ∧
            s.userProfile.getUserProfileByUserId userId = some profile

/-- All joins succeed for a recorded canister. -/
theorem Stores.ownedCanister_eq_some
    (sound : s.Sound)
    (filed : s.CanistersFiled)
    (projects : s.ProjectsExist)
    {canisterId : CanisterId}
    {canister : Canister}
    (recorded : s.canister.getCanister canisterId = some canister) :
    ∃ userId profile,
      s.ownedCanister (canisterId, canister) = some (canisterId, canister, userId, profile) ∧
        ∃ projectId project,
          s.canister.getCanisterProjectId canisterId = some projectId ∧
            s.project.getProject projectId = some project ∧
            (project.orgId, userId) ∈ s.organization.organizationUserIndex ∧
            s.userProfile.getUserProfileByUserId userId = some profile := by
  have known : (s.canister.getCanisterProjectId canisterId).isSome = true := by
    rw [filed.known canisterId, recorded]
    rfl
  obtain ⟨projectId, placed⟩ := Option.isSome_iff_exists.mp known
  obtain ⟨project, found⟩ := Option.isSome_iff_exists.mp (projects canisterId projectId placed)
  obtain ⟨userId, profile, owner, member, stored⟩ := sound.projectOwner found
  have joined :
      s.ownedCanister (canisterId, canister) = some (canisterId, canister, userId, profile) := by
    unfold Stores.ownedCanister
    rw [placed, Option.bind_some, owner]
    rfl
  exact ⟨userId, profile, joined, projectId, project, placed, found, member, stored⟩

/-- The records with their owners, in the order of the store. -/
def Stores.ownedCanisters (s : Stores) : List (CanisterId × Canister × UserId × UserProfile) :=
  s.canister.canisters.toList.filterMap s.ownedCanister

section Listing

variable (sound : s.Sound) (filed : s.CanistersFiled) (projects : s.ProjectsExist)

include sound filed projects

/-- The joined rows keep the records in their order. -/
theorem Stores.map_ownedCanisters :
    s.ownedCanisters.map (fun entry => (entry.1, entry.2.1)) = s.canister.canisters.toList := by
  apply map_filterMap_eq_self
  intro row member
  have recorded : s.canister.getCanister row.1 = some row.2 :=
    Std.ExtTreeMap.mem_toList_iff_getElem?_eq_some.mp member
  obtain ⟨userId, profile, joined, -⟩ :=
    Stores.ownedCanister_eq_some sound filed projects recorded
  exact ⟨_, joined, rfl⟩

/-- As many rows are listed as there are records. -/
theorem Stores.length_ownedCanisters :
    s.ownedCanisters.length = s.canister.getCanisterCount := by
  have counted := congrArg List.length (Stores.map_ownedCanisters sound filed projects)
  rw [List.length_map, Std.ExtTreeMap.length_toList] at counted
  exact counted

/-- Each record is listed once, with a member of its organization. -/
theorem Stores.ownedCanisters_spec : s.OwnedCanisters s.ownedCanisters where
  once := by
    have keys : s.ownedCanisters.map Prod.fst = s.canister.canisters.toList.map Prod.fst := by
      rw [← Stores.map_ownedCanisters sound filed projects, List.map_map]
      rfl
    rw [keys, Std.ExtTreeMap.map_fst_toList_eq_keys]
    exact Std.ExtTreeMap.nodup_keys
  records := by
    intro canisterId canister
    constructor
    · rintro ⟨owner, member⟩
      obtain ⟨row, stored, joined⟩ := List.mem_filterMap.mp member
      obtain ⟨other, -, same⟩ := Option.map_eq_some_iff.mp joined
      cases same
      exact Std.ExtTreeMap.mem_toList_iff_getElem?_eq_some.mp stored
    · intro recorded
      obtain ⟨userId, profile, joined, -⟩ :=
        Stores.ownedCanister_eq_some sound filed projects recorded
      have stored : (canisterId, canister) ∈ s.canister.canisters.toList :=
        Std.ExtTreeMap.mem_toList_iff_getElem?_eq_some.mpr recorded
      exact ⟨(userId, profile), List.mem_filterMap.mpr ⟨_, stored, joined⟩⟩
  attributed := by
    intro canisterId canister userId profile member
    obtain ⟨row, stored, joined⟩ := List.mem_filterMap.mp member
    have recorded : s.canister.getCanister row.1 = some row.2 :=
      Std.ExtTreeMap.mem_toList_iff_getElem?_eq_some.mp stored
    obtain ⟨otherId, otherProfile, found, attributed⟩ :=
      Stores.ownedCanister_eq_some sound filed projects recorded
    rw [joined] at found
    cases found
    exact attributed

end Listing

end Joins

section Pages

variable {s : Stores}

omit [Host] in
/-- No page has more than 50 rows. -/
theorem pageLimit_le
    (limit : Option Nat) :
    pageLimit limit ≤ 50 := by
  unfold pageLimit MIN_PAGINATION_LIMIT MAX_PAGINATION_LIMIT
  dsimp only
  split_ifs <;> omega

/-- How many pages a listing with a limit has. -/
def Stores.canisterPages (s : Stores) (limit : Option Nat) : Nat :=
  totalPages s.canister.getCanisterCount (pageLimit limit)

/-- The page that answers a request: the requested one if it exists. -/
def Stores.nearestPage (s : Stores) (limit page : Option Nat) : Nat :=
  clamp (page.getD DEFAULT_PAGINATION_PAGE) MIN_PAGINATION_PAGE (s.canisterPages limit)

/-- The rows of an answer. -/
def listedRows : ApiResult Dto.ListAllCanistersResponse → List Dto.CanisterWithOwner
  | .ok response => response.canisters
  | .error _ => []

/-- What an answer shows of a record and its owner. -/
def shownCanister (entry : CanisterId × Canister × UserId × UserProfile) :
    Dto.CanisterWithOwner :=
  canisterWithOwner entry.1 entry.2.1 entry.2.2

omit [Host] in
/-- There is a first page, and the answering page exists. -/
theorem Stores.nearestPage_bounds
    (s : Stores)
    (limit page : Option Nat) :
    1 ≤ s.nearestPage limit page ∧ s.nearestPage limit page ≤ s.canisterPages limit :=
  clamp_bounds (le_max_right _ _) _

omit [Host] in
/-- Joining a page's rows in two stages joins them. -/
theorem CanisterState.filterMap_listCanistersWithProject
    (fits : s.canister.FitsStableMemory)
    (limit page : Option Nat)
    (row : CanisterId × Canister × UserId × UserProfile → Dto.CanisterWithOwner) :
    ((s.canister.listCanistersWithProject (pageLimit limit) (s.nearestPage limit page)).filterMap
        fun (canisterId, canister, projectId) =>
          (s.projectOwner projectId).map fun owner => row (canisterId, canister, owner)) =
      ((pageOf s.canister.canisters.toList (pageLimit limit)
        (s.nearestPage limit page)).filterMap s.ownedCanister).map row := by
  have few : s.canister.canisters.toList.length < 2 ^ USIZE_BITS := by
    rw [Std.ExtTreeMap.length_toList]
    exact rows_lt_of_fits (by decide) fits
  have small : pageLimit limit < 2 ^ USIZE_BITS := (pageLimit_le limit).trans_lt (by decide)
  obtain ⟨first, last⟩ := s.nearestPage_bounds limit page
  have counted : s.canisterPages limit =
      totalPages s.canister.canisters.toList.length (pageLimit limit) := by
    rw [Std.ExtTreeMap.length_toList]
    rfl
  rw [counted] at last
  unfold CanisterState.listCanistersWithProject
  rw [wordPage_eq few (pageLimit_pos limit) small first last, List.filterMap_filterMap,
    List.map_filterMap]
  apply List.filterMap_congr
  intro entry _
  rcases entry with ⟨canisterId, canister⟩
  unfold Stores.ownedCanister
  dsimp only
  cases s.canister.getCanisterProjectId canisterId with
  | none => rfl
  | some projectId =>
      rw [Option.map_some, Option.bind_some, Option.bind_some, Option.map_map]
      rfl

/-- What a page shows, where all joins succeed. -/
theorem CanisterService.listAllCanisters_eq
    (sound : s.Sound)
    (filed : s.CanistersFiled)
    (projects : s.ProjectsExist)
    (fits : s.canister.FitsStableMemory)
    (limit page : Option Nat) :
    listAllCanisters limit page s =
      .ok
        ⟨(pageOf s.ownedCanisters (pageLimit limit) (s.nearestPage limit page)).map shownCanister,
          ⟨pageLimit limit, s.nearestPage limit page, s.canister.getCanisterCount,
            s.canisterPages limit⟩⟩ := by
  have complete : ∀ row ∈ s.canister.canisters.toList, (s.ownedCanister row).isSome := by
    intro row member
    have recorded : s.canister.getCanister row.1 = some row.2 :=
      Std.ExtTreeMap.mem_toList_iff_getElem?_eq_some.mp member
    obtain ⟨userId, profile, joined, -⟩ :=
      Stores.ownedCanister_eq_some sound filed projects recorded
    exact Option.isSome_iff_exists.mpr ⟨_, joined⟩
  unfold Stores.ownedCanisters
  rw [pageOf_filterMap complete,
    ← CanisterState.filterMap_listCanistersWithProject fits limit page shownCanister]
  rfl

/--
All pages together show each record once, with a member of the organization that
its project belongs to; and a request for a page that does not exist is answered
with the nearest one.
-/
theorem listAllCanisters_pages
    (sound : s.Sound)
    (filed : s.CanistersFiled)
    (projects : s.ProjectsExist)
    (fits : s.canister.FitsStableMemory)
    (limit : Option Nat) :
    ∃ listed,
      s.OwnedCanisters listed ∧
        listed.length = s.canister.getCanisterCount ∧
        ((List.range' 1 (s.canisterPages limit)).flatMap fun page =>
            listedRows (CanisterService.listAllCanisters limit (some page) s)) =
          listed.map shownCanister ∧
        ∀ page : Option Nat,
          CanisterService.listAllCanisters limit page s =
              .ok
                ⟨(pageOf listed (pageLimit limit) (s.nearestPage limit page)).map shownCanister,
                  ⟨pageLimit limit, s.nearestPage limit page, s.canister.getCanisterCount,
                    s.canisterPages limit⟩⟩ ∧
            1 ≤ s.nearestPage limit page ∧
            s.nearestPage limit page ≤ s.canisterPages limit ∧
            ∀ other, 1 ≤ other → other ≤ s.canisterPages limit →
              Nat.dist (page.getD DEFAULT_PAGINATION_PAGE) (s.nearestPage limit page) ≤
                Nat.dist (page.getD DEFAULT_PAGINATION_PAGE) other := by
  have answered := CanisterService.listAllCanisters_eq sound filed projects fits limit
  have counted := Stores.length_ownedCanisters sound filed projects
  refine ⟨s.ownedCanisters, Stores.ownedCanisters_spec sound filed projects, counted, ?_, ?_⟩
  · have rows :
        ∀ page ∈ List.range' 1 (s.canisterPages limit),
          listedRows (CanisterService.listAllCanisters limit (some page) s) =
            (pageOf s.ownedCanisters (pageLimit limit) page).map shownCanister := by
      intro page member
      obtain ⟨first, beyond⟩ := List.mem_range'_1.mp member
      have last : page ≤ s.canisterPages limit := by
        omega
      have exact : s.nearestPage limit (some page) = page := clamp_eq_self first last
      rw [answered, exact]
      rfl
    rw [List.flatMap_congr rows]
    rw [← List.map_flatMap, Stores.canisterPages, ← counted,
      flatMap_pages s.ownedCanisters (pageLimit_pos limit)]
  · intro page
    obtain ⟨first, last⟩ := s.nearestPage_bounds limit page
    exact ⟨answered page, first, last, fun other above below => clamp_nearest above below⟩

end Pages

end Service

section TwoOwners

open TextualHost

attribute [local instance] host
attribute [local instance] standardRows

/-- Two users sign up, and each has a canister created in the default project. -/
def twoOwners : List Event :=
  [.message (callBy founder) .createMyUserProfile,
    .message (callBy colleague) .createMyUserProfile,
    .message (callBy founder) (.createProposal (idText 3) (some .createCanister)),
    .reply 1700000000000000000 0 (.canisterCreated (principal 7)),
    .message (callBy colleague) (.createProposal (idText 9) (some .createCanister)),
    .reply 1700000000000000000 0 (.canisterCreated (principal 8))]

/-- One canister a page, on two pages. -/
theorem listAllCanisters_twoOwners :
    ∃ world,
      runEvents World.serviceStep World.empty twoOwners = some world ∧
        world.stores.canister.getCanisterCount = 2 ∧
        world.stores.nearestPage (some 1) (some 7) = 2 ∧
        ∃ listed,
          world.stores.OwnedCanisters listed ∧
            ([1, 2].flatMap fun page =>
                listedRows
                  (CanisterService.listAllCanisters (some 1) (some page) world.stores)) =
              listed.map shownCanister := by
  have computed :
      (runEvents World.serviceStep World.empty twoOwners).any
          (fun world =>
            decide
              (world.stores.canister.getCanisterCount = 2 ∧
                world.stores.canisterPages (some 1) = 2 ∧
                world.stores.nearestPage (some 1) (some 7) = 2 ∧
                ∀ row ∈ world.stores.canister.canisterProjectIndex.toList,
                  (world.stores.project.getProject row.2).isSome = true)) =
        true := by
    decide +kernel
  obtain ⟨world, ran, facts⟩ := (Option.any_eq_true _ _).mp computed
  obtain ⟨count, pages, nearest, existing⟩ := of_decide_eq_true facts
  have reachable : world.Reachable := .runEvents .initial (fun _ _ _ => trivial) ran
  have filed : world.stores.CanistersFiled :=
    (World.canistersKept_of_run Stores.CanistersFiled.empty reachable.maintained).filed
  have projects : world.stores.ProjectsExist := by
    intro canisterId projectId placed
    exact existing (canisterId, projectId)
      (Std.ExtTreeMap.mem_toList_iff_getElem?_eq_some.mpr placed)
  have fits : world.stores.canister.FitsStableMemory := by
    have size : world.stores.canister.canisters.size = 2 := count
    unfold CanisterState.FitsStableMemory
    rw [size]
    decide
  obtain ⟨listed, owned, -, shown, -⟩ :=
    listAllCanisters_pages reachable.sound filed projects fits (some 1)
  rw [pages] at shown
  exact ⟨world, ran, count, nearest, listed, owned, shown⟩

end TwoOwners

end SsnConsole.Backend
