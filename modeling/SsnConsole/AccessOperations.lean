import SsnConsole.AccessGraph

/-!
# Guarded operations on an access graph

The operations of an access graph as data, with the guards under which a caller
may run them.  A permitted operation keeps the graph well formed and every
organization administered; which ones stay below their caller's ceiling is said
operation by operation.
-/

namespace SsnConsole.AccessGraph

variable {User Org Team Project OrgFlag ProjectFlag : Type}

/-- The operations on an access graph. -/
inductive Operation (User Org Team Project OrgFlag ProjectFlag : Type)
  | keep
  | signUp (user : User) (org : Org) (team : Team) (project : Project)
  | found (user : User) (org : Org) (team : Team) (project : Project)
  | join (user : User) (org : Org)
  | addTeam (user : User) (org : Org) (team : Team)
  | removeTeam (team : Team)
  | enroll (user : User) (team : Team)
  | expel (user : User) (team : Team)
  | setOrgGrant (team : Team) (flags : Set OrgFlag)
  | addProject (project : Project) (org : Org) (teams : Set Team)
  | removeProject (project : Project)
  | link (project : Project) (team : Team)
  | setProjectGrant (project : Project) (team : Team) (flags : Set ProjectFlag)
  | unlink (project : Project) (team : Team)

/-- The flags of new teams and new links, and those that make an administrator. -/
structure Grants (OrgFlag ProjectFlag : Type) where
  newTeam : Set OrgFlag
  newLink : Set ProjectFlag
  admin : Set OrgFlag
  admin_subset : admin ⊆ newTeam

namespace Graph

variable (graph : Graph User Org Team Project OrgFlag ProjectFlag)

/-- The graph after an operation. -/
noncomputable def apply (grants : Grants OrgFlag ProjectFlag) :
    Operation User Org Team Project OrgFlag ProjectFlag →
      Graph User Org Team Project OrgFlag ProjectFlag
  | .keep => graph
  | .signUp user org team project =>
      (graph.register user).found user org team project grants.newTeam grants.newLink
  | .found user org team project =>
      graph.found user org team project grants.newTeam grants.newLink
  | .join user org => graph.join user org
  | .addTeam user org team => graph.addTeam user org team grants.newTeam
  | .removeTeam team => graph.removeTeam team
  | .enroll user team => graph.enroll user team
  | .expel user team => graph.expel user team
  | .setOrgGrant team flags => graph.setOrgGrant team flags
  | .addProject project org teams => graph.addProject project org teams grants.newLink
  | .removeProject project => graph.removeProject project
  | .link project team => graph.link project {team} grants.newLink
  | .setProjectGrant project team flags => graph.link project {team} flags
  | .unlink project team => graph.unlink project team

/-- What a caller with or without an account holds in an organization. -/
def heldInOrg (caller : Option User) (org : Org) : Set OrgFlag :=
  {flag | ∃ user, caller = some user ∧ flag ∈ graph.orgFlags user org}

/-- What a caller with or without an account holds on a project. -/
def heldOnProject (caller : Option User) (project : Project) : Set ProjectFlag :=
  {flag | ∃ user, caller = some user ∧ flag ∈ graph.projectFlags user project}

/-- An administrator of the team's organization for whom `Other` holds. -/
def KeepsAdmin (admin : Set OrgFlag) (team : Team) (Other : Team → User → Prop) : Prop :=
  ∀ org, graph.teamOrg team = some org →
    ∃ otherTeam otherUser,
      Other otherTeam otherUser ∧ graph.AdministeredBy admin org otherTeam otherUser

variable {graph}

/-- What an account holds is what its user holds. -/
@[simp]
theorem heldInOrg_some
    (user : User)
    (org : Org) :
    graph.heldInOrg (some user) org = graph.orgFlags user org := by
  ext flag
  simp [heldInOrg]

/-- What an account holds on a project is what its user holds. -/
@[simp]
theorem heldOnProject_some
    (user : User)
    (project : Project) :
    graph.heldOnProject (some user) project = graph.projectFlags user project := by
  ext flag
  simp [heldOnProject]

/-- The operations that a caller may run, with what their guards establish. -/
inductive Permitted
    (grants : Grants OrgFlag ProjectFlag)
    (graph : Graph User Org Team Project OrgFlag ProjectFlag)
    (caller : Option User) :
    Operation User Org Team Project OrgFlag ProjectFlag → Prop
  | keep :
      Permitted grants graph caller .keep
  | signUp
      {user : User} {org : Org} {team : Team} {project : Project}
      (freshOrg : org ∉ graph.orgs)
      (freshTeam : graph.teamOrg team = none)
      (freshProject : graph.projectOrg project = none) :
      Permitted grants graph caller (.signUp user org team project)
  | found
      {user : User} {org : Org} {team : Team} {project : Project}
      (registered : user ∈ graph.users)
      (freshOrg : org ∉ graph.orgs)
      (freshTeam : graph.teamOrg team = none)
      (freshProject : graph.projectOrg project = none) :
      Permitted grants graph caller (.found user org team project)
  | join
      {user : User} {org : Org}
      (registered : user ∈ graph.users)
      (stored : org ∈ graph.orgs) :
      Permitted grants graph caller (.join user org)
  | addTeam
      {user : User} {org : Org} {team : Team}
      (asCaller : caller = some user)
      (member : user ∈ graph.members org)
      (fresh : graph.teamOrg team = none) :
      Permitted grants graph caller (.addTeam user org team)
  | removeTeam
      {team another : Team}
      (unlinked : ∀ project, graph.projectGrant project team = none)
      (distinct : another ≠ team)
      (sameOrg : graph.teamOrg another = graph.teamOrg team)
      (others : graph.KeepsAdmin grants.admin team fun other _ => other ≠ team) :
      Permitted grants graph caller (.removeTeam team)
  | enroll
      {user : User} {org : Org} {team : Team}
      (belongs : graph.teamOrg team = some org)
      (member : user ∈ graph.members org)
      (within : graph.orgGrant team ⊆ graph.heldInOrg caller org) :
      Permitted grants graph caller (.enroll user team)
  | expel
      {user : User} {team : Team}
      (others :
        graph.KeepsAdmin grants.admin team fun otherTeam otherUser =>
          ¬(otherTeam = team ∧ otherUser = user)) :
      Permitted grants graph caller (.expel user team)
  | setOrgGrant
      {org : Org} {team : Team} {flags : Set OrgFlag}
      (belongs : graph.teamOrg team = some org)
      (within : flags ⊆ graph.heldInOrg caller org)
      (others :
        grants.admin ⊆ flags ∨
          graph.KeepsAdmin grants.admin team fun other _ => other ≠ team) :
      Permitted grants graph caller (.setOrgGrant team flags)
  | addProject
      {project : Project} {org : Org} {teams : Set Team}
      (fresh : graph.projectOrg project = none)
      (stored : org ∈ graph.orgs)
      (sameOrg : ∀ team ∈ teams, graph.teamOrg team = some org)
      (nonempty : teams.Nonempty) :
      Permitted grants graph caller (.addProject project org teams)
  | removeProject
      {project another : Project}
      (distinct : another ≠ project)
      (sameOrg : graph.projectOrg another = graph.projectOrg project) :
      Permitted grants graph caller (.removeProject project)
  | link
      {project : Project} {org : Org} {team : Team}
      (inOrg : graph.projectOrg project = some org)
      (sameOrg : graph.teamOrg team = some org)
      (unlinked : graph.projectGrant project team = none) :
      Permitted grants graph caller (.link project team)
  | setProjectGrant
      {project : Project} {org : Org} {team : Team} {flags : Set ProjectFlag}
      (inOrg : graph.projectOrg project = some org)
      (sameOrg : graph.teamOrg team = some org)
      (within : flags ⊆ graph.heldOnProject caller project) :
      Permitted grants graph caller (.setProjectGrant project team flags)
  | unlink
      {project : Project} {team another : Team}
      (distinct : another ≠ team)
      (kept : (graph.projectGrant project another).isSome) :
      Permitted grants graph caller (.unlink project team)

variable {grants : Grants OrgFlag ProjectFlag}
variable {caller : Option User}
variable {operation : Operation User Org Team Project OrgFlag ProjectFlag}

/-- A permitted operation keeps the graph well formed. -/
theorem WellFormed.apply
    (wellFormed : graph.WellFormed)
    (permitted : graph.Permitted grants caller operation) :
    (graph.apply grants operation).WellFormed := by
  cases permitted with
  | keep =>
      exact wellFormed
  | signUp _ freshTeam freshProject =>
      exact wellFormed.register.found (Set.mem_insert _ _) freshTeam freshProject
  | found registered _ freshTeam freshProject =>
      exact wellFormed.found registered freshTeam freshProject
  | join registered stored =>
      exact wellFormed.join registered stored
  | addTeam _ member fresh =>
      exact wellFormed.addTeam fresh member
  | removeTeam unlinked distinct sameOrg _ =>
      exact wellFormed.removeTeam unlinked distinct sameOrg
  | enroll belongs member _ =>
      exact wellFormed.enroll belongs member
  | expel _ =>
      exact wellFormed.expel
  | setOrgGrant _ _ _ =>
      exact wellFormed.setOrgGrant
  | addProject fresh stored sameOrg nonempty =>
      exact wellFormed.addProject fresh stored sameOrg nonempty
  | removeProject distinct sameOrg =>
      exact wellFormed.removeProject distinct sameOrg
  | link inOrg sameOrg _ | setProjectGrant inOrg sameOrg _ =>
      exact wellFormed.link inOrg (by rintro _ rfl; exact sameOrg)
  | unlink distinct kept =>
      exact wellFormed.unlink distinct kept

/-- A permitted operation keeps every existing organization administered. -/
theorem Administered.apply
    {org : Org}
    (administered : org ∈ graph.orgs → graph.Administered grants.admin org)
    (permitted : graph.Permitted grants caller operation)
    (stored : org ∈ (graph.apply grants operation).orgs) :
    (graph.apply grants operation).Administered grants.admin org := by
  cases permitted with
  | keep =>
      exact administered stored
  | signUp _ freshTeam _ =>
      refine Administered.found (fun other => ?_) freshTeam grants.admin_subset
      exact (administered (stored.resolve_left other)).of_same rfl rfl rfl
  | found _ _ freshTeam _ =>
      refine Administered.found (fun other => ?_) freshTeam grants.admin_subset
      exact administered (stored.resolve_left other)
  | addTeam _ _ fresh =>
      exact (administered stored).addTeam fresh
  | removeTeam _ _ _ others =>
      exact (administered stored).removeTeam (others org)
  | enroll _ _ _ =>
      exact (administered stored).enroll
  | expel others =>
      exact (administered stored).expel (others org)
  | setOrgGrant _ _ others =>
      exact (administered stored).setOrgGrant fun belongs =>
        others.imp_right fun keeps => keeps org belongs
  | join _ _ | addProject _ _ _ _ | removeProject _ _ | link _ _ _
  | setProjectGrant _ _ _ | unlink _ _ =>
      exact (administered stored).of_same rfl rfl rfl

/-- A permitted operation stays below the organization ceiling, unless it opens a team. -/
theorem OrgCeiling.apply
    (wellFormed : graph.WellFormed)
    (permitted : graph.Permitted grants caller operation)
    (opened :
      ∀ user org team, operation = .addTeam user org team →
        grants.newTeam ⊆ graph.heldInOrg caller org) :
    graph.OrgCeiling (graph.apply grants operation) (graph.heldInOrg caller) := by
  cases permitted with
  | @signUp user _ _ _ freshOrg freshTeam _ =>
      change (graph.register user).OrgCeiling _ _
      exact OrgCeiling.found wellFormed.register freshOrg freshTeam
  | found _ freshOrg freshTeam _ =>
      exact OrgCeiling.found wellFormed freshOrg freshTeam
  | @addTeam user org team _ member fresh =>
      refine (orgCeiling_addTeam_iff wellFormed fresh (wellFormed.member member).1).mpr ?_
      exact (opened user org team rfl).trans Set.subset_union_right
  | removeTeam _ _ _ _ =>
      exact OrgCeiling.removeTeam
  | enroll belongs _ within =>
      refine OrgCeiling.enroll fun org belongsTo => ?_
      rw [belongs] at belongsTo
      cases belongsTo
      exact within
  | expel _ =>
      exact OrgCeiling.expel
  | setOrgGrant belongs within _ =>
      refine OrgCeiling.setOrgGrant fun org belongsTo => ?_
      rw [belongs] at belongsTo
      cases belongsTo
      exact within
  | keep | join _ _ | addProject _ _ _ _ | removeProject _ _ | link _ _ _
  | setProjectGrant _ _ _ | unlink _ _ =>
      exact OrgCeiling.of_subset fun _ _ _ => subset_rfl

/-- A permitted operation stays below the project ceiling, unless it enrolls or links. -/
theorem ProjectCeiling.apply
    (wellFormed : graph.WellFormed)
    (permitted : graph.Permitted grants caller operation)
    (enrolled :
      ∀ user team, operation = .enroll user team →
        ∀ project flags, graph.projectGrant project team = some flags →
          flags ⊆ graph.projectFlags user project ∪ graph.heldOnProject caller project)
    (linked :
      ∀ project team, operation = .link project team →
        ∀ user ∈ graph.teamUsers team,
          grants.newLink ⊆
            graph.projectFlags user project ∪ graph.heldOnProject caller project) :
    graph.ProjectCeiling (graph.apply grants operation) (graph.heldOnProject caller) := by
  cases permitted with
  | @signUp user _ _ _ _ freshTeam freshProject =>
      change (graph.register user).ProjectCeiling _ _
      exact ProjectCeiling.found wellFormed.register freshTeam freshProject
  | found _ _ freshTeam freshProject =>
      exact ProjectCeiling.found wellFormed freshTeam freshProject
  | addTeam _ _ fresh =>
      exact ProjectCeiling.addTeam wellFormed fresh
  | removeTeam _ _ _ _ =>
      exact ProjectCeiling.removeTeam
  | @enroll user _ team _ _ _ =>
      exact (projectCeiling_enroll_iff wellFormed).mpr (enrolled user team rfl)
  | expel _ =>
      exact ProjectCeiling.expel
  | addProject fresh _ _ _ =>
      exact ProjectCeiling.addProject fresh
  | removeProject _ _ =>
      exact ProjectCeiling.removeProject
  | @link project _ team inOrg _ unlinked =>
      exact
        (projectCeiling_link_iff (Option.isSome_of_eq_some inOrg) unlinked).mpr
          (linked project team rfl)
  | setProjectGrant _ _ within =>
      exact ProjectCeiling.link within
  | unlink _ _ =>
      exact ProjectCeiling.unlink
  | keep | join _ _ | setOrgGrant _ _ _ =>
      exact ProjectCeiling.of_subset fun _ _ _ => subset_rfl

/-- No operation removes a user. -/
theorem users_subset_apply :
    graph.users ⊆ (graph.apply grants operation).users := by
  cases operation with
  | signUp _ _ _ _ =>
      exact Set.subset_insert _ _
  | _ =>
      exact subset_rfl

/-- No operation removes an organization. -/
theorem orgs_subset_apply :
    graph.orgs ⊆ (graph.apply grants operation).orgs := by
  cases operation with
  | signUp _ _ _ _ | found _ _ _ _ =>
      exact Set.subset_insert _ _
  | _ =>
      exact subset_rfl

end Graph

/-- Names of users, organizations, teams and projects. -/
structure Names (User Org Team Project : Type) where
  users : Set User
  orgs : Set Org
  teams : Set Team
  projects : Set Project

/-- Everything in the graph bears one of the names. -/
structure Graph.Within
    (graph : Graph User Org Team Project OrgFlag ProjectFlag)
    (names : Names User Org Team Project) : Prop where
  users : graph.users ⊆ names.users
  orgs : graph.orgs ⊆ names.orgs
  teams : ∀ team, (graph.teamOrg team).isSome → team ∈ names.teams
  projects : ∀ project, (graph.projectOrg project).isSome → project ∈ names.projects

/-- What an operation creates bears one of the names. -/
def Operation.CreatesWithin (names : Names User Org Team Project) :
    Operation User Org Team Project OrgFlag ProjectFlag → Prop
  | .signUp user org team project =>
      user ∈ names.users ∧ org ∈ names.orgs ∧ team ∈ names.teams ∧ project ∈ names.projects
  | .found _ org team project =>
      org ∈ names.orgs ∧ team ∈ names.teams ∧ project ∈ names.projects
  | .addTeam _ _ team => team ∈ names.teams
  | .addProject project _ _ => project ∈ names.projects
  | _ => True

namespace Graph.Within

variable {graph : Graph User Org Team Project OrgFlag ProjectFlag}
variable {names : Names User Org Team Project}

/-- More names name no less. -/
theorem mono
    {more : Names User Org Team Project}
    (within : graph.Within names)
    (users : names.users ⊆ more.users)
    (orgs : names.orgs ⊆ more.orgs)
    (teams : names.teams ⊆ more.teams)
    (projects : names.projects ⊆ more.projects) :
    graph.Within more where
  users := within.users.trans users
  orgs := within.orgs.trans orgs
  teams := fun team stored => teams (within.teams team stored)
  projects := fun project stored => projects (within.projects project stored)

/-- A lookup updated at one key is filled only where the old one or the key is. -/
private theorem isSome_ite
    {Key Value : Type}
    {key new : Key}
    {condition : Decidable (key = new)}
    {value old : Option Value}
    {names : Set Key}
    (named : old.isSome → key ∈ names)
    (newNamed : new ∈ names)
    (stored : (if key = new then value else old).isSome) :
    key ∈ names := by
  split at stored
  · rename_i same
    exact same ▸ newNamed
  · exact named stored

/-- An operation whose creations are named keeps everything named. -/
theorem apply
    {grants : Grants OrgFlag ProjectFlag}
    {operation : Operation User Org Team Project OrgFlag ProjectFlag}
    (within : graph.Within names)
    (creates : operation.CreatesWithin names) :
    (graph.apply grants operation).Within names := by
  cases operation with
  | signUp user org team project =>
      obtain ⟨userNamed, orgNamed, teamNamed, projectNamed⟩ := creates
      exact
        { users := Set.insert_subset userNamed within.users
          orgs := Set.insert_subset orgNamed within.orgs
          teams := fun other => isSome_ite (within.teams other) teamNamed
          projects := fun other => isSome_ite (within.projects other) projectNamed }
  | found user org team project =>
      obtain ⟨orgNamed, teamNamed, projectNamed⟩ := creates
      exact
        { users := within.users
          orgs := Set.insert_subset orgNamed within.orgs
          teams := fun other => isSome_ite (within.teams other) teamNamed
          projects := fun other => isSome_ite (within.projects other) projectNamed }
  | addTeam user org team =>
      exact
        { within with teams := fun other => isSome_ite (within.teams other) creates }
  | removeTeam team =>
      refine { within with teams := fun other stored => within.teams other ?_ }
      simp only [Graph.apply, Graph.removeTeam] at stored
      split at stored
      · cases stored
      · exact stored
  | addProject project org teams =>
      exact
        { within with projects := fun other => isSome_ite (within.projects other) creates }
  | removeProject project =>
      refine { within with projects := fun other stored => within.projects other ?_ }
      simp only [Graph.apply, Graph.removeProject] at stored
      split at stored
      · cases stored
      · exact stored
  | _ =>
      exact { within with }

end Graph.Within

end SsnConsole.AccessGraph
