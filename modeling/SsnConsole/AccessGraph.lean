import Mathlib

/-!
# Access through teams

A general model of access control in which users obtain flags through teams: a
team belongs to one organization, grants flags there, and grants flags on the
projects that it is linked to.  The module gives the operations on such a graph,
what keeps it well formed, when an organization keeps an administrator, and when
an operation stays below the ceiling of what its caller holds.
-/

namespace SsnConsole.AccessGraph

/-- Users, organizations, teams and projects, and what the teams grant. -/
@[ext]
structure Graph (User Org Team Project OrgFlag ProjectFlag : Type) where
  users : Set User
  orgs : Set Org
  members : Org → Set User
  teamOrg : Team → Option Org
  projectOrg : Project → Option Org
  teamUsers : Team → Set User
  orgGrant : Team → Set OrgFlag
  projectGrant : Project → Team → Option (Set ProjectFlag)

variable {User Org Team Project OrgFlag ProjectFlag : Type}

namespace Graph

noncomputable section Operations

open scoped Classical

variable (graph : Graph User Org Team Project OrgFlag ProjectFlag)

/-- A new user. -/
def register (user : User) : Graph User Org Team Project OrgFlag ProjectFlag :=
  { graph with users := insert user graph.users }

/-- A user becomes a member of an organization. -/
def join (user : User) (org : Org) : Graph User Org Team Project OrgFlag ProjectFlag :=
  { graph with
    members := fun other => {member | member ∈ graph.members other ∨ other = org ∧ member = user} }

/-- A user becomes a member of a team. -/
def enroll (user : User) (team : Team) :
    Graph User Org Team Project OrgFlag ProjectFlag :=
  { graph with
    teamUsers := fun other =>
      {member | member ∈ graph.teamUsers other ∨ other = team ∧ member = user} }

/-- A user leaves a team. -/
def expel (user : User) (team : Team) :
    Graph User Org Team Project OrgFlag ProjectFlag :=
  { graph with
    teamUsers := fun other =>
      {member | member ∈ graph.teamUsers other ∧ ¬(other = team ∧ member = user)} }

/-- A team grants other flags in its organization. -/
def setOrgGrant (team : Team) (flags : Set OrgFlag) :
    Graph User Org Team Project OrgFlag ProjectFlag :=
  { graph with
    orgGrant := fun other => if other = team then flags else graph.orgGrant other }

/-- A user opens a team in an organization. -/
def addTeam (user : User) (org : Org) (team : Team) (flags : Set OrgFlag) :
    Graph User Org Team Project OrgFlag ProjectFlag :=
  { (graph.enroll user team).setOrgGrant team flags with
    teamOrg := fun other => if other = team then some org else graph.teamOrg other }

/-- A team disappears with its memberships and links. -/
def removeTeam (team : Team) : Graph User Org Team Project OrgFlag ProjectFlag :=
  { graph with
    teamOrg := fun other => if other = team then none else graph.teamOrg other
    teamUsers := fun other => {member | member ∈ graph.teamUsers other ∧ other ≠ team}
    orgGrant := fun other => if other = team then ∅ else graph.orgGrant other
    projectGrant := fun project other =>
      if other = team then none else graph.projectGrant project other }

/-- Teams are linked to a project with the given flags. -/
def link (project : Project) (teams : Set Team) (flags : Set ProjectFlag) :
    Graph User Org Team Project OrgFlag ProjectFlag :=
  { graph with
    projectGrant := fun other team =>
      if other = project ∧ team ∈ teams then some flags else graph.projectGrant other team }

/-- A team is no longer linked to a project. -/
def unlink (project : Project) (team : Team) :
    Graph User Org Team Project OrgFlag ProjectFlag :=
  { graph with
    projectGrant := fun otherProject otherTeam =>
      if otherProject = project ∧ otherTeam = team then none
      else graph.projectGrant otherProject otherTeam }

/-- A project opens in an organization with links to some teams. -/
def addProject (project : Project) (org : Org) (teams : Set Team)
    (flags : Set ProjectFlag) : Graph User Org Team Project OrgFlag ProjectFlag :=
  { graph.link project teams flags with
    projectOrg := fun other => if other = project then some org else graph.projectOrg other }

/-- A project disappears with its links. -/
def removeProject (project : Project) :
    Graph User Org Team Project OrgFlag ProjectFlag :=
  { graph with
    projectOrg := fun other => if other = project then none else graph.projectOrg other
    projectGrant := fun other team =>
      if other = project then none else graph.projectGrant other team }

/-- A user founds an organization with a first team and a first project. -/
def found (user : User) (org : Org) (team : Team) (project : Project)
    (orgFlags : Set OrgFlag) (projectFlags : Set ProjectFlag) :
    Graph User Org Team Project OrgFlag ProjectFlag :=
  { users := graph.users
    orgs := insert org graph.orgs
    members := (graph.join user org).members
    teamOrg := (graph.addTeam user org team orgFlags).teamOrg
    projectOrg := (graph.addProject project org {team} projectFlags).projectOrg
    teamUsers := (graph.addTeam user org team orgFlags).teamUsers
    orgGrant := (graph.addTeam user org team orgFlags).orgGrant
    projectGrant := (graph.addProject project org {team} projectFlags).projectGrant }

end Operations

/-- Every reference resolves, and nothing exists without what it needs. -/
structure WellFormed (graph : Graph User Org Team Project OrgFlag ProjectFlag) : Prop where
  member : ∀ {org user}, user ∈ graph.members org → org ∈ graph.orgs ∧ user ∈ graph.users
  teamUser :
    ∀ {team user}, user ∈ graph.teamUsers team →
      ∃ org, graph.teamOrg team = some org ∧ user ∈ graph.members org
  teamOrg : ∀ {team org}, graph.teamOrg team = some org → org ∈ graph.orgs
  projectOrg : ∀ {project org}, graph.projectOrg project = some org → org ∈ graph.orgs
  linked :
    ∀ {project team}, (graph.projectGrant project team).isSome →
      ∃ org, graph.projectOrg project = some org ∧ graph.teamOrg team = some org
  projectLinked :
    ∀ {project}, (graph.projectOrg project).isSome →
      ∃ team, (graph.projectGrant project team).isSome
  orgProject : ∀ {org}, org ∈ graph.orgs → ∃ project, graph.projectOrg project = some org
  orgTeam : ∀ {org}, org ∈ graph.orgs → ∃ team, graph.teamOrg team = some org

/-- A user is in a team of the organization that grants `admin`. -/
structure AdministeredBy (graph : Graph User Org Team Project OrgFlag ProjectFlag)
    (admin : Set OrgFlag) (org : Org) (team : Team) (user : User) : Prop where
  belongs : graph.teamOrg team = some org
  grants : admin ⊆ graph.orgGrant team
  enrolled : user ∈ graph.teamUsers team

/-- Some team of the organization grants `admin` and has a member. -/
def Administered (graph : Graph User Org Team Project OrgFlag ProjectFlag)
    (admin : Set OrgFlag) (org : Org) : Prop :=
  ∃ team user, graph.AdministeredBy admin org team user

/-- What a user holds in an organization. -/
def orgFlags (graph : Graph User Org Team Project OrgFlag ProjectFlag) (user : User)
    (org : Org) : Set OrgFlag :=
  {flag | ∃ team,
    user ∈ graph.teamUsers team ∧ graph.teamOrg team = some org ∧
      flag ∈ graph.orgGrant team}

/-- What a user holds on a project. -/
def projectFlags (graph : Graph User Org Team Project OrgFlag ProjectFlag) (user : User)
    (project : Project) : Set ProjectFlag :=
  {flag | ∃ team flags,
    user ∈ graph.teamUsers team ∧ graph.projectGrant project team = some flags ∧
      flag ∈ flags}

/-- Nobody gains more in an existing organization than the caller holds there. -/
def OrgCeiling (before after : Graph User Org Team Project OrgFlag ProjectFlag)
    (held : Org → Set OrgFlag) : Prop :=
  ∀ user, ∀ org ∈ before.orgs,
    after.orgFlags user org ⊆ before.orgFlags user org ∪ held org

/-- Nobody gains more on an existing project than the caller holds there. -/
def ProjectCeiling (before after : Graph User Org Team Project OrgFlag ProjectFlag)
    (held : Project → Set ProjectFlag) : Prop :=
  ∀ user project, (before.projectOrg project).isSome →
    after.projectFlags user project ⊆ before.projectFlags user project ∪ held project

namespace WellFormed

variable {graph : Graph User Org Team Project OrgFlag ProjectFlag}
variable {user : User} {org : Org} {team : Team} {project : Project}

/-- A team that does not exist has no members. -/
theorem not_mem_teamUsers
    (wellFormed : graph.WellFormed)
    (absent : graph.teamOrg team = none) :
    user ∉ graph.teamUsers team := by
  intro member
  obtain ⟨org, stored, -⟩ := wellFormed.teamUser member
  rw [absent] at stored
  cases stored

/-- A team that does not exist is linked to no project. -/
theorem projectGrant_of_teamOrg_eq_none
    (wellFormed : graph.WellFormed)
    (absent : graph.teamOrg team = none) :
    graph.projectGrant project team = none := by
  by_contra linked
  obtain ⟨org, -, stored⟩ := wellFormed.linked (Option.isSome_iff_ne_none.mpr linked)
  rw [absent] at stored
  cases stored

/-- A project that does not exist is linked to no team. -/
theorem projectGrant_of_projectOrg_eq_none
    (wellFormed : graph.WellFormed)
    (absent : graph.projectOrg project = none) :
    graph.projectGrant project team = none := by
  by_contra linked
  obtain ⟨org, stored, -⟩ := wellFormed.linked (Option.isSome_iff_ne_none.mpr linked)
  rw [absent] at stored
  cases stored

/-- Registering a user breaks nothing. -/
theorem register
    (wellFormed : graph.WellFormed) :
    (graph.register user).WellFormed :=
  { wellFormed with
    member := fun member =>
      ⟨(wellFormed.member member).1, Set.mem_insert_of_mem _ (wellFormed.member member).2⟩ }

/-- A registered user may join an existing organization. -/
theorem join
    (wellFormed : graph.WellFormed)
    (registered : user ∈ graph.users)
    (stored : org ∈ graph.orgs) :
    (graph.join user org).WellFormed :=
  { wellFormed with
    member := by
      rintro otherOrg otherUser (member | ⟨rfl, rfl⟩)
      · exact wellFormed.member member
      · exact ⟨stored, registered⟩
    teamUser := by
      intro otherTeam otherUser member
      obtain ⟨otherOrg, belongs, isMember⟩ := wellFormed.teamUser member
      exact ⟨otherOrg, belongs, .inl isMember⟩ }

/-- A member of the team's organization may join the team. -/
theorem enroll
    (wellFormed : graph.WellFormed)
    (belongs : graph.teamOrg team = some org)
    (member : user ∈ graph.members org) :
    (graph.enroll user team).WellFormed :=
  { wellFormed with
    teamUser := by
      rintro otherTeam otherUser (enrolled | ⟨rfl, rfl⟩)
      · exact wellFormed.teamUser enrolled
      · exact ⟨org, belongs, member⟩ }

/-- Anybody may leave a team. -/
theorem expel
    (wellFormed : graph.WellFormed) :
    (graph.expel user team).WellFormed :=
  { wellFormed with
    teamUser := by
      rintro otherTeam otherUser ⟨enrolled, -⟩
      exact wellFormed.teamUser enrolled }

/-- What a team grants in its organization is free. -/
theorem setOrgGrant
    {flags : Set OrgFlag}
    (wellFormed : graph.WellFormed) :
    (graph.setOrgGrant team flags).WellFormed :=
  { wellFormed with }

/-- A member may open a new team in its organization. -/
theorem addTeam
    {flags : Set OrgFlag}
    (wellFormed : graph.WellFormed)
    (fresh : graph.teamOrg team = none)
    (member : user ∈ graph.members org) :
    (graph.addTeam user org team flags).WellFormed :=
  { wellFormed with
    teamUser := by
      rintro otherTeam otherUser (enrolled | ⟨rfl, rfl⟩)
      · obtain ⟨otherOrg, belongs, isMember⟩ := wellFormed.teamUser enrolled
        refine ⟨otherOrg, ?_, isMember⟩
        have distinct : otherTeam ≠ team := by
          rintro rfl
          exact wellFormed.not_mem_teamUsers fresh enrolled
        simpa [Graph.addTeam, distinct] using belongs
      · exact ⟨org, by simp [Graph.addTeam], member⟩
    teamOrg := by
      intro otherTeam otherOrg belongs
      by_cases same : otherTeam = team
      · simp only [Graph.addTeam, if_pos same, Option.some.injEq] at belongs
        exact belongs ▸ (wellFormed.member member).1
      · simp only [Graph.addTeam, if_neg same] at belongs
        exact wellFormed.teamOrg belongs
    linked := by
      intro otherProject otherTeam linked
      obtain ⟨otherOrg, inOrg, belongs⟩ := wellFormed.linked linked
      refine ⟨otherOrg, inOrg, ?_⟩
      have distinct : otherTeam ≠ team := by
        rintro rfl
        rw [fresh] at belongs
        cases belongs
      simpa [Graph.addTeam, distinct] using belongs
    orgTeam := by
      intro otherOrg stored
      obtain ⟨otherTeam, belongs⟩ := wellFormed.orgTeam stored
      refine ⟨otherTeam, ?_⟩
      have distinct : otherTeam ≠ team := by
        rintro rfl
        rw [fresh] at belongs
        cases belongs
      simpa [Graph.addTeam, distinct] using belongs }

/-- An unlinked team may go if its organization has another one. -/
theorem removeTeam
    {another : Team}
    (wellFormed : graph.WellFormed)
    (unlinked : ∀ project, graph.projectGrant project team = none)
    (distinct : another ≠ team)
    (sameOrg : graph.teamOrg another = graph.teamOrg team) :
    (graph.removeTeam team).WellFormed where
  member := wellFormed.member
  teamUser := by
    rintro otherTeam otherUser ⟨enrolled, otherTeamDistinct⟩
    obtain ⟨org, belongs, isMember⟩ := wellFormed.teamUser enrolled
    exact ⟨org, by simpa [Graph.removeTeam, otherTeamDistinct] using belongs, isMember⟩
  teamOrg := by
    intro otherTeam org belongs
    by_cases same : otherTeam = team
    · simp [Graph.removeTeam, same] at belongs
    · exact wellFormed.teamOrg (by simpa [Graph.removeTeam, same] using belongs)
  projectOrg := wellFormed.projectOrg
  linked := by
    intro project otherTeam linked
    by_cases same : otherTeam = team
    · simp [Graph.removeTeam, same] at linked
    · simp only [Graph.removeTeam, if_neg same] at linked ⊢
      exact wellFormed.linked linked
  projectLinked := by
    intro project stored
    obtain ⟨otherTeam, linked⟩ := wellFormed.projectLinked stored
    have otherTeamDistinct : otherTeam ≠ team := by
      rintro rfl
      rw [unlinked] at linked
      cases linked
    exact ⟨otherTeam, by simpa [Graph.removeTeam, otherTeamDistinct] using linked⟩
  orgProject := wellFormed.orgProject
  orgTeam := by
    intro org stored
    obtain ⟨otherTeam, belongs⟩ := wellFormed.orgTeam stored
    by_cases same : otherTeam = team
    · subst same
      exact ⟨another, by simpa [Graph.removeTeam, distinct] using sameOrg.trans belongs⟩
    · exact ⟨otherTeam, by simpa [Graph.removeTeam, same] using belongs⟩

/-- A project may be linked to teams of its own organization. -/
theorem link
    {teams : Set Team}
    {flags : Set ProjectFlag}
    (wellFormed : graph.WellFormed)
    (inOrg : graph.projectOrg project = some org)
    (sameOrg : ∀ team ∈ teams, graph.teamOrg team = some org) :
    (graph.link project teams flags).WellFormed :=
  { wellFormed with
    linked := by
      intro otherProject otherTeam linked
      by_cases new : otherProject = project ∧ otherTeam ∈ teams
      · obtain ⟨rfl, included⟩ := new
        exact ⟨org, inOrg, sameOrg otherTeam included⟩
      · simp only [Graph.link, if_neg new] at linked
        exact wellFormed.linked linked
    projectLinked := by
      intro otherProject stored
      obtain ⟨otherTeam, linked⟩ := wellFormed.projectLinked stored
      refine ⟨otherTeam, ?_⟩
      by_cases new : otherProject = project ∧ otherTeam ∈ teams
      · simp [Graph.link, new]
      · simpa only [Graph.link, if_neg new] using linked }

/-- A team may be unlinked from a project that keeps another one. -/
theorem unlink
    {another : Team}
    (wellFormed : graph.WellFormed)
    (distinct : another ≠ team)
    (kept : (graph.projectGrant project another).isSome) :
    (graph.unlink project team).WellFormed :=
  { wellFormed with
    linked := by
      intro otherProject otherTeam linked
      by_cases gone : otherProject = project ∧ otherTeam = team
      · simp [Graph.unlink, gone] at linked
      · simp only [Graph.unlink, if_neg gone] at linked
        exact wellFormed.linked linked
    projectLinked := by
      intro otherProject stored
      obtain ⟨otherTeam, linked⟩ := wellFormed.projectLinked stored
      by_cases gone : otherProject = project ∧ otherTeam = team
      · obtain ⟨rfl, rfl⟩ := gone
        exact ⟨another, by simpa [Graph.unlink, distinct] using kept⟩
      · exact ⟨otherTeam, by simpa only [Graph.unlink, if_neg gone] using linked⟩ }

/-- A new project may open with links to some teams of its organization. -/
theorem addProject
    {teams : Set Team}
    {flags : Set ProjectFlag}
    (wellFormed : graph.WellFormed)
    (fresh : graph.projectOrg project = none)
    (stored : org ∈ graph.orgs)
    (sameOrg : ∀ team ∈ teams, graph.teamOrg team = some org)
    (nonempty : teams.Nonempty) :
    (graph.addProject project org teams flags).WellFormed :=
  { wellFormed with
    projectOrg := by
      intro otherProject otherOrg inOrg
      by_cases same : otherProject = project
      · simp only [Graph.addProject, if_pos same, Option.some.injEq] at inOrg
        exact inOrg ▸ stored
      · simp only [Graph.addProject, if_neg same] at inOrg
        exact wellFormed.projectOrg inOrg
    linked := by
      intro otherProject otherTeam linked
      by_cases same : otherProject = project
      · subst same
        by_cases included : otherTeam ∈ teams
        · exact ⟨org, by simp [Graph.addProject], sameOrg otherTeam included⟩
        · simp only [Graph.addProject, Graph.link, included, and_false, if_false,
            wellFormed.projectGrant_of_projectOrg_eq_none fresh] at linked
          cases linked
      · simp only [Graph.addProject, Graph.link, same, false_and, if_false] at linked ⊢
        exact wellFormed.linked linked
    projectLinked := by
      intro otherProject existing
      by_cases same : otherProject = project
      · obtain ⟨team, included⟩ := nonempty
        exact ⟨team, by simp [Graph.addProject, Graph.link, same, included]⟩
      · simp only [Graph.addProject, Graph.link, same, false_and, if_false] at existing ⊢
        exact wellFormed.projectLinked existing
    orgProject := by
      intro otherOrg existing
      obtain ⟨otherProject, inOrg⟩ := wellFormed.orgProject existing
      refine ⟨otherProject, ?_⟩
      have distinct : otherProject ≠ project := by
        rintro rfl
        rw [fresh] at inOrg
        cases inOrg
      simpa [Graph.addProject, distinct] using inOrg }

/-- A project may go if its organization has another one. -/
theorem removeProject
    {another : Project}
    (wellFormed : graph.WellFormed)
    (distinct : another ≠ project)
    (sameOrg : graph.projectOrg another = graph.projectOrg project) :
    (graph.removeProject project).WellFormed :=
  { wellFormed with
    projectOrg := by
      intro otherProject otherOrg inOrg
      by_cases same : otherProject = project
      · simp [Graph.removeProject, same] at inOrg
      · exact wellFormed.projectOrg (by simpa [Graph.removeProject, same] using inOrg)
    linked := by
      intro otherProject team linked
      by_cases same : otherProject = project
      · simp [Graph.removeProject, same] at linked
      · simp only [Graph.removeProject, if_neg same] at linked ⊢
        exact wellFormed.linked linked
    projectLinked := by
      intro otherProject stored
      by_cases same : otherProject = project
      · simp [Graph.removeProject, same] at stored
      · simp only [Graph.removeProject, if_neg same] at stored ⊢
        exact wellFormed.projectLinked stored
    orgProject := by
      intro otherOrg stored
      obtain ⟨otherProject, inOrg⟩ := wellFormed.orgProject stored
      by_cases same : otherProject = project
      · subst same
        exact ⟨another, by simpa [Graph.removeProject, distinct] using sameOrg.trans inOrg⟩
      · exact ⟨otherProject, by simpa [Graph.removeProject, same] using inOrg⟩ }

/-- A registered user may found a new organization. -/
theorem found
    {orgFlags : Set OrgFlag}
    {projectFlags : Set ProjectFlag}
    (wellFormed : graph.WellFormed)
    (registered : user ∈ graph.users)
    (freshTeam : graph.teamOrg team = none)
    (freshProject : graph.projectOrg project = none) :
    (graph.found user org team project orgFlags projectFlags).WellFormed where
  member := by
    rintro otherOrg otherUser (member | ⟨rfl, rfl⟩)
    · exact
        ⟨Set.mem_insert_of_mem _ (wellFormed.member member).1, (wellFormed.member member).2⟩
    · exact ⟨Set.mem_insert _ _, registered⟩
  teamUser := by
    rintro otherTeam otherUser (enrolled | ⟨rfl, rfl⟩)
    · obtain ⟨otherOrg, belongs, isMember⟩ := wellFormed.teamUser enrolled
      have distinct : otherTeam ≠ team := by
        rintro rfl
        exact wellFormed.not_mem_teamUsers freshTeam enrolled
      refine ⟨otherOrg, ?_, .inl isMember⟩
      simpa [Graph.found, Graph.addTeam, distinct] using belongs
    · exact ⟨org, by simp [Graph.found, Graph.addTeam], .inr ⟨rfl, rfl⟩⟩
  teamOrg := by
    intro otherTeam otherOrg belongs
    by_cases same : otherTeam = team
    · simp only [Graph.found, Graph.addTeam, if_pos same, Option.some.injEq] at belongs
      exact belongs ▸ Set.mem_insert _ _
    · simp only [Graph.found, Graph.addTeam, if_neg same] at belongs
      exact Set.mem_insert_of_mem _ (wellFormed.teamOrg belongs)
  projectOrg := by
    intro otherProject otherOrg inOrg
    by_cases same : otherProject = project
    · simp only [Graph.found, Graph.addProject, if_pos same, Option.some.injEq] at inOrg
      exact inOrg ▸ Set.mem_insert _ _
    · simp only [Graph.found, Graph.addProject, if_neg same] at inOrg
      exact Set.mem_insert_of_mem _ (wellFormed.projectOrg inOrg)
  linked := by
    intro otherProject otherTeam linked
    by_cases new : otherProject = project ∧ otherTeam ∈ ({team} : Set Team)
    · obtain ⟨rfl, rfl⟩ := new
      exact
        ⟨org, by simp [Graph.found, Graph.addProject], by simp [Graph.found, Graph.addTeam]⟩
    · simp only [Graph.found, Graph.addProject, Graph.link, if_neg new] at linked
      obtain ⟨otherOrg, inOrg, belongs⟩ := wellFormed.linked linked
      have otherTeamOld : otherTeam ≠ team := by
        rintro rfl
        rw [freshTeam] at belongs
        cases belongs
      have otherProjectOld : otherProject ≠ project := by
        rintro rfl
        rw [freshProject] at inOrg
        cases inOrg
      exact
        ⟨otherOrg, by simpa [Graph.found, Graph.addProject, otherProjectOld] using inOrg,
          by simpa [Graph.found, Graph.addTeam, otherTeamOld] using belongs⟩
  projectLinked := by
    intro otherProject stored
    by_cases same : otherProject = project
    · exact ⟨team, by simp [Graph.found, Graph.addProject, Graph.link, same]⟩
    · simp only [Graph.found, Graph.addProject, Graph.link, same, false_and, if_false]
        at stored ⊢
      exact wellFormed.projectLinked stored
  orgProject := by
    rintro otherOrg (rfl | stored)
    · exact ⟨project, by simp [Graph.found, Graph.addProject]⟩
    · obtain ⟨otherProject, inOrg⟩ := wellFormed.orgProject stored
      have distinct : otherProject ≠ project := by
        rintro rfl
        rw [freshProject] at inOrg
        cases inOrg
      exact ⟨otherProject, by simpa [Graph.found, Graph.addProject, distinct] using inOrg⟩
  orgTeam := by
    rintro otherOrg (rfl | stored)
    · exact ⟨team, by simp [Graph.found, Graph.addTeam]⟩
    · obtain ⟨otherTeam, belongs⟩ := wellFormed.orgTeam stored
      have distinct : otherTeam ≠ team := by
        rintro rfl
        rw [freshTeam] at belongs
        cases belongs
      exact ⟨otherTeam, by simpa [Graph.found, Graph.addTeam, distinct] using belongs⟩

end WellFormed

section Administration

variable {graph : Graph User Org Team Project OrgFlag ProjectFlag}
variable {admin : Set OrgFlag}
variable {user : User} {org : Org} {team : Team}

/-- What leaves the teams alone keeps every administrator. -/
theorem Administered.of_same
    {after : Graph User Org Team Project OrgFlag ProjectFlag}
    (administered : graph.Administered admin org)
    (sameTeams : after.teamOrg = graph.teamOrg)
    (sameGrants : after.orgGrant = graph.orgGrant)
    (sameUsers : after.teamUsers = graph.teamUsers) :
    after.Administered admin org := by
  obtain ⟨team, user, belongs, grants, enrolled⟩ := administered
  exact
    ⟨team, user, by rw [sameTeams]; exact belongs, by rw [sameGrants]; exact grants, by
      rw [sameUsers]; exact enrolled⟩

/-- Enrolling keeps every administrator. -/
theorem Administered.enroll
    (administered : graph.Administered admin org) :
    (graph.enroll user team).Administered admin org := by
  obtain ⟨otherTeam, otherUser, witness⟩ := administered
  exact ⟨otherTeam, otherUser, witness.belongs, witness.grants, .inl witness.enrolled⟩

/-- A new team keeps every administrator. -/
theorem Administered.addTeam
    {otherOrg : Org}
    {flags : Set OrgFlag}
    (administered : graph.Administered admin org)
    (fresh : graph.teamOrg team = none) :
    (graph.addTeam user otherOrg team flags).Administered admin org := by
  obtain ⟨otherTeam, otherUser, witness⟩ := administered
  have distinct : otherTeam ≠ team := by
    rintro rfl
    have belongs := witness.belongs
    rw [fresh] at belongs
    cases belongs
  refine ⟨otherTeam, otherUser, ?_, ?_, .inl witness.enrolled⟩
  · simpa [Graph.addTeam, distinct] using witness.belongs
  · simpa [Graph.addTeam, Graph.setOrgGrant, Graph.enroll, distinct] using witness.grants

/-- A founder administers the new organization, and the others keep theirs. -/
theorem Administered.found
    {newOrg : Org}
    {project : Project}
    {orgFlags : Set OrgFlag}
    {projectFlags : Set ProjectFlag}
    (administered : org ≠ newOrg → graph.Administered admin org)
    (fresh : graph.teamOrg team = none)
    (grants : admin ⊆ orgFlags) :
    (graph.found user newOrg team project orgFlags projectFlags).Administered admin org := by
  by_cases same : org = newOrg
  · subst same
    refine ⟨team, user, ?_, ?_, .inr ⟨rfl, rfl⟩⟩
    · simp [Graph.found, Graph.addTeam]
    · simpa [Graph.found, Graph.addTeam, Graph.setOrgGrant] using grants
  · have kept : (graph.addTeam user newOrg team orgFlags).Administered admin org :=
      (administered same).addTeam fresh
    obtain ⟨otherTeam, otherUser, witness⟩ := kept
    exact ⟨otherTeam, otherUser, witness.belongs, witness.grants, witness.enrolled⟩

/-- A team may go if its organization has an administrator in another one. -/
theorem Administered.removeTeam
    (administered : graph.Administered admin org)
    (others :
      graph.teamOrg team = some org →
        ∃ other user, other ≠ team ∧ graph.AdministeredBy admin org other user) :
    (graph.removeTeam team).Administered admin org := by
  have elsewhere : ∃ other user, other ≠ team ∧ graph.AdministeredBy admin org other user := by
    obtain ⟨otherTeam, otherUser, witness⟩ := administered
    by_cases same : otherTeam = team
    · exact others (same ▸ witness.belongs)
    · exact ⟨otherTeam, otherUser, same, witness⟩
  obtain ⟨otherTeam, otherUser, distinct, witness⟩ := elsewhere
  refine ⟨otherTeam, otherUser, ?_, ?_, witness.enrolled, distinct⟩
  · simpa [Graph.removeTeam, distinct] using witness.belongs
  · simpa [Graph.removeTeam, distinct] using witness.grants

/-- A member may go if the team's organization has another administrator. -/
theorem Administered.expel
    (administered : graph.Administered admin org)
    (others :
      graph.teamOrg team = some org →
        ∃ otherTeam otherUser,
          ¬(otherTeam = team ∧ otherUser = user) ∧
            graph.AdministeredBy admin org otherTeam otherUser) :
    (graph.expel user team).Administered admin org := by
  obtain ⟨otherTeam, otherUser, witness⟩ := administered
  by_cases same : otherTeam = team ∧ otherUser = user
  · obtain ⟨keptTeam, keptUser, distinct, kept⟩ := others (same.1 ▸ witness.belongs)
    exact ⟨keptTeam, keptUser, kept.belongs, kept.grants, kept.enrolled, distinct⟩
  · exact ⟨otherTeam, otherUser, witness.belongs, witness.grants, witness.enrolled, same⟩

/-- A team may grant less if its organization has an administrator elsewhere. -/
theorem Administered.setOrgGrant
    {flags : Set OrgFlag}
    (administered : graph.Administered admin org)
    (others :
      graph.teamOrg team = some org →
        admin ⊆ flags ∨
          ∃ other user, other ≠ team ∧ graph.AdministeredBy admin org other user) :
    (graph.setOrgGrant team flags).Administered admin org := by
  obtain ⟨otherTeam, otherUser, witness⟩ := administered
  by_cases same : otherTeam = team
  · subst same
    rcases others witness.belongs with grants | ⟨other, user, distinct, kept⟩
    · exact
        ⟨otherTeam, otherUser, witness.belongs, by simpa [Graph.setOrgGrant] using grants,
          witness.enrolled⟩
    · exact
        ⟨other, user, kept.belongs, by simpa [Graph.setOrgGrant, distinct] using kept.grants,
          kept.enrolled⟩
  · exact
      ⟨otherTeam, otherUser, witness.belongs,
        by simpa [Graph.setOrgGrant, same] using witness.grants, witness.enrolled⟩

end Administration

section OrgCeilings

variable {graph : Graph User Org Team Project OrgFlag ProjectFlag}
variable {held : Org → Set OrgFlag}
variable {user other : User} {org : Org} {team : Team} {flag : OrgFlag}

/-- Losing flags stays below every ceiling. -/
theorem OrgCeiling.of_subset
    {after : Graph User Org Team Project OrgFlag ProjectFlag}
    (fewer :
      ∀ user, ∀ org ∈ graph.orgs, after.orgFlags user org ⊆ graph.orgFlags user org) :
    graph.OrgCeiling after held :=
  fun user org existing => (fewer user org existing).trans Set.subset_union_left

/-- Enrolling hands a user what the team grants. -/
theorem mem_orgFlags_enroll :
    flag ∈ (graph.enroll user team).orgFlags other org ↔
      flag ∈ graph.orgFlags other org ∨
        other = user ∧ graph.teamOrg team = some org ∧ flag ∈ graph.orgGrant team := by
  constructor
  · rintro ⟨otherTeam, enrolled | ⟨rfl, rfl⟩, belongs, granted⟩
    · exact .inl ⟨otherTeam, enrolled, belongs, granted⟩
    · exact .inr ⟨rfl, belongs, granted⟩
  · rintro (⟨otherTeam, enrolled, belongs, granted⟩ | ⟨rfl, belongs, granted⟩)
    · exact ⟨otherTeam, .inl enrolled, belongs, granted⟩
    · exact ⟨team, .inr ⟨rfl, rfl⟩, belongs, granted⟩

/-- A new team hands its flags to the user that opens it. -/
theorem mem_orgFlags_addTeam
    {newOrg : Org}
    {flags : Set OrgFlag}
    (wellFormed : graph.WellFormed)
    (fresh : graph.teamOrg team = none) :
    flag ∈ (graph.addTeam user newOrg team flags).orgFlags other org ↔
      flag ∈ graph.orgFlags other org ∨ other = user ∧ org = newOrg ∧ flag ∈ flags := by
  have old :
      ∀ {otherTeam}, other ∈ graph.teamUsers otherTeam → otherTeam ≠ team := by
    rintro otherTeam enrolled rfl
    exact wellFormed.not_mem_teamUsers fresh enrolled
  constructor
  · rintro ⟨otherTeam, enrolled | ⟨rfl, rfl⟩, belongs, granted⟩
    · have distinct := old enrolled
      simp only [Graph.addTeam, Graph.setOrgGrant, Graph.enroll, if_neg distinct]
        at belongs granted
      exact .inl ⟨otherTeam, enrolled, belongs, granted⟩
    · simp only [Graph.addTeam, Graph.setOrgGrant, if_true, Option.some.injEq]
        at belongs granted
      exact .inr ⟨rfl, belongs.symm, granted⟩
  · rintro (⟨otherTeam, enrolled, belongs, granted⟩ | ⟨rfl, rfl, granted⟩)
    · have distinct := old enrolled
      refine ⟨otherTeam, .inl enrolled, ?_, ?_⟩
      · simpa [Graph.addTeam, distinct] using belongs
      · simpa [Graph.addTeam, Graph.setOrgGrant, Graph.enroll, distinct] using granted
    · refine ⟨team, .inr ⟨rfl, rfl⟩, ?_, ?_⟩
      · simp [Graph.addTeam]
      · simpa [Graph.addTeam, Graph.setOrgGrant] using granted

/-- Enrolling stays below the ceiling if the caller holds what the team grants. -/
theorem OrgCeiling.enroll
    (within : ∀ org, graph.teamOrg team = some org → graph.orgGrant team ⊆ held org) :
    graph.OrgCeiling (graph.enroll user team) held := by
  intro other org _ flag gained
  rcases mem_orgFlags_enroll.mp gained with before | ⟨-, belongs, granted⟩
  · exact .inl before
  · exact .inr (within org belongs granted)

/-- A new team stays below the ceiling exactly if its flags do for its first user. -/
theorem orgCeiling_addTeam_iff
    {flags : Set OrgFlag}
    (wellFormed : graph.WellFormed)
    (fresh : graph.teamOrg team = none)
    (existing : org ∈ graph.orgs) :
    graph.OrgCeiling (graph.addTeam user org team flags) held ↔
      flags ⊆ graph.orgFlags user org ∪ held org := by
  constructor
  · intro ceiling flag granted
    exact
      ceiling user org existing
        ((mem_orgFlags_addTeam wellFormed fresh).mpr (.inr ⟨rfl, rfl, granted⟩))
  · intro within other otherOrg _ flag gained
    rcases (mem_orgFlags_addTeam wellFormed fresh).mp gained with before | ⟨rfl, rfl, granted⟩
    · exact .inl before
    · exact within granted

/-- Other flags of a team stay below the ceiling if the caller holds them. -/
theorem OrgCeiling.setOrgGrant
    {flags : Set OrgFlag}
    (within : ∀ org, graph.teamOrg team = some org → flags ⊆ held org) :
    graph.OrgCeiling (graph.setOrgGrant team flags) held := by
  rintro user org _ flag ⟨otherTeam, enrolled, belongs, granted⟩
  by_cases same : otherTeam = team
  · subst same
    simp only [Graph.setOrgGrant, if_true] at granted
    exact .inr (within org belongs granted)
  · simp only [Graph.setOrgGrant, if_neg same] at granted
    exact .inl ⟨otherTeam, enrolled, belongs, granted⟩

/-- Leaving a team stays below every ceiling. -/
theorem OrgCeiling.expel :
    graph.OrgCeiling (graph.expel user team) held := by
  refine .of_subset ?_
  rintro other org _ flag ⟨otherTeam, ⟨enrolled, -⟩, belongs, granted⟩
  exact ⟨otherTeam, enrolled, belongs, granted⟩

/-- Removing a team stays below every ceiling. -/
theorem OrgCeiling.removeTeam :
    graph.OrgCeiling (graph.removeTeam team) held := by
  refine .of_subset ?_
  rintro user org _ flag ⟨otherTeam, ⟨enrolled, distinct⟩, belongs, granted⟩
  simp only [Graph.removeTeam, if_neg distinct] at belongs granted
  exact ⟨otherTeam, enrolled, belongs, granted⟩

/-- Founding an organization stays below every ceiling of the existing ones. -/
theorem OrgCeiling.found
    {project : Project}
    {orgFlags : Set OrgFlag}
    {projectFlags : Set ProjectFlag}
    (wellFormed : graph.WellFormed)
    (freshOrg : org ∉ graph.orgs)
    (freshTeam : graph.teamOrg team = none) :
    graph.OrgCeiling (graph.found user org team project orgFlags projectFlags) held := by
  refine .of_subset ?_
  intro other otherOrg existing flag gained
  have split :
      flag ∈ (graph.addTeam user org team orgFlags).orgFlags other otherOrg := gained
  rcases (mem_orgFlags_addTeam wellFormed freshTeam).mp split with before | ⟨-, rfl, -⟩
  · exact before
  · exact (freshOrg existing).elim

end OrgCeilings

section ProjectCeilings

variable {graph : Graph User Org Team Project OrgFlag ProjectFlag}
variable {held : Project → Set ProjectFlag}
variable {user other : User} {org : Org} {team : Team} {project otherProject : Project}
variable {flag : ProjectFlag}

/-- Losing flags stays below every ceiling. -/
theorem ProjectCeiling.of_subset
    {after : Graph User Org Team Project OrgFlag ProjectFlag}
    (fewer :
      ∀ user project, (graph.projectOrg project).isSome →
        after.projectFlags user project ⊆ graph.projectFlags user project) :
    graph.ProjectCeiling after held :=
  fun user project existing =>
    (fewer user project existing).trans Set.subset_union_left

/-- Enrolling stays below the ceiling exactly if each link of the team does. -/
theorem projectCeiling_enroll_iff
    (wellFormed : graph.WellFormed) :
    graph.ProjectCeiling (graph.enroll user team) held ↔
      ∀ project flags, graph.projectGrant project team = some flags →
        flags ⊆ graph.projectFlags user project ∪ held project := by
  constructor
  · intro ceiling project flags linked flag granted
    obtain ⟨org, inOrg, -⟩ := wellFormed.linked (Option.isSome_of_eq_some linked)
    exact
      ceiling user project (Option.isSome_of_eq_some inOrg)
        ⟨team, flags, .inr ⟨rfl, rfl⟩, linked, granted⟩
  · rintro within other project _ flag ⟨otherTeam, flags, enrolled | ⟨rfl, rfl⟩, linked, granted⟩
    · exact .inl ⟨otherTeam, flags, enrolled, linked, granted⟩
    · exact within project flags linked granted

/-- A new link stays below the ceiling exactly if it does for the team's members. -/
theorem projectCeiling_link_iff
    {flags : Set ProjectFlag}
    (existing : (graph.projectOrg project).isSome)
    (unlinked : graph.projectGrant project team = none) :
    graph.ProjectCeiling (graph.link project {team} flags) held ↔
      ∀ user ∈ graph.teamUsers team, flags ⊆ graph.projectFlags user project ∪ held project := by
  constructor
  · intro ceiling user enrolled flag granted
    exact
      ceiling user project existing
        ⟨team, flags, enrolled, by simp [Graph.link], granted⟩
  · rintro within other otherProject _ flag ⟨otherTeam, otherFlags, enrolled, linked, granted⟩
    by_cases new : otherProject = project ∧ otherTeam ∈ ({team} : Set Team)
    · obtain ⟨rfl, rfl⟩ := new
      simp only [Graph.link, Set.mem_singleton_iff, and_self, if_true, Option.some.injEq]
        at linked
      exact within other enrolled (linked ▸ granted)
    · simp only [Graph.link, if_neg new] at linked
      exact .inl ⟨otherTeam, otherFlags, enrolled, linked, granted⟩

/-- Other flags of a link stay below the ceiling if the caller holds them. -/
theorem ProjectCeiling.link
    {teams : Set Team}
    {flags : Set ProjectFlag}
    (within : flags ⊆ held project) :
    graph.ProjectCeiling (graph.link project teams flags) held := by
  rintro user otherProject _ flag ⟨otherTeam, otherFlags, enrolled, linked, granted⟩
  by_cases new : otherProject = project ∧ otherTeam ∈ teams
  · simp only [Graph.link, if_pos new, Option.some.injEq] at linked
    exact .inr (new.1 ▸ within (linked ▸ granted))
  · simp only [Graph.link, if_neg new] at linked
    exact .inl ⟨otherTeam, otherFlags, enrolled, linked, granted⟩

/-- Unlinking a team stays below every ceiling. -/
theorem ProjectCeiling.unlink :
    graph.ProjectCeiling (graph.unlink project team) held := by
  refine .of_subset ?_
  rintro user otherProject _ flag ⟨otherTeam, flags, enrolled, linked, granted⟩
  by_cases gone : otherProject = project ∧ otherTeam = team
  · simp [Graph.unlink, gone] at linked
  · simp only [Graph.unlink, if_neg gone] at linked
    exact ⟨otherTeam, flags, enrolled, linked, granted⟩

/-- Leaving a team stays below every ceiling. -/
theorem ProjectCeiling.expel :
    graph.ProjectCeiling (graph.expel user team) held := by
  refine .of_subset ?_
  rintro other project _ flag ⟨otherTeam, flags, ⟨enrolled, -⟩, linked, granted⟩
  exact ⟨otherTeam, flags, enrolled, linked, granted⟩

/-- Removing a team stays below every ceiling. -/
theorem ProjectCeiling.removeTeam :
    graph.ProjectCeiling (graph.removeTeam team) held := by
  refine .of_subset ?_
  rintro user project _ flag ⟨otherTeam, flags, ⟨enrolled, distinct⟩, linked, granted⟩
  simp only [Graph.removeTeam, if_neg distinct] at linked
  exact ⟨otherTeam, flags, enrolled, linked, granted⟩

/-- Removing a project stays below every ceiling. -/
theorem ProjectCeiling.removeProject :
    graph.ProjectCeiling (graph.removeProject project) held := by
  refine .of_subset ?_
  rintro user otherProject _ flag ⟨team, flags, enrolled, linked, granted⟩
  by_cases same : otherProject = project
  · simp [Graph.removeProject, same] at linked
  · simp only [Graph.removeProject, if_neg same] at linked
    exact ⟨team, flags, enrolled, linked, granted⟩

/-- A new team has no links, so it hands out nothing on existing projects. -/
theorem ProjectCeiling.addTeam
    {flags : Set OrgFlag}
    (wellFormed : graph.WellFormed)
    (fresh : graph.teamOrg team = none) :
    graph.ProjectCeiling (graph.addTeam user org team flags) held := by
  refine .of_subset ?_
  rintro other project _ flag ⟨otherTeam, flags, enrolled | ⟨rfl, rfl⟩, linked, granted⟩
  · exact ⟨otherTeam, flags, enrolled, linked, granted⟩
  · have unlinked : graph.projectGrant project otherTeam = none :=
      wellFormed.projectGrant_of_teamOrg_eq_none fresh
    have stillUnlinked : graph.projectGrant project otherTeam = some flags := linked
    rw [unlinked] at stillUnlinked
    cases stillUnlinked

/-- A new project hands out nothing on the existing ones. -/
theorem ProjectCeiling.addProject
    {teams : Set Team}
    {flags : Set ProjectFlag}
    (fresh : graph.projectOrg project = none) :
    graph.ProjectCeiling (graph.addProject project org teams flags) held := by
  refine .of_subset ?_
  rintro user otherProject existing flag ⟨otherTeam, otherFlags, enrolled, linked, granted⟩
  have distinct : otherProject ≠ project := by
    rintro rfl
    rw [fresh] at existing
    cases existing
  simp only [Graph.addProject, Graph.link, distinct, false_and, if_false] at linked
  exact ⟨otherTeam, otherFlags, enrolled, linked, granted⟩

/-- Founding an organization hands out nothing on the existing projects. -/
theorem ProjectCeiling.found
    {orgFlags : Set OrgFlag}
    {projectFlags : Set ProjectFlag}
    (wellFormed : graph.WellFormed)
    (freshTeam : graph.teamOrg team = none)
    (freshProject : graph.projectOrg project = none) :
    graph.ProjectCeiling (graph.found user org team project orgFlags projectFlags) held := by
  refine .of_subset ?_
  rintro other otherProject existing flag ⟨otherTeam, flags, enrolled, linked, granted⟩
  have distinct : otherProject ≠ project := by
    rintro rfl
    rw [freshProject] at existing
    cases existing
  simp only [Graph.found, Graph.addProject, Graph.link, distinct, false_and, if_false]
    at linked
  rcases enrolled with enrolled | ⟨rfl, rfl⟩
  · exact ⟨otherTeam, flags, enrolled, linked, granted⟩
  · rw [wellFormed.projectGrant_of_teamOrg_eq_none freshTeam] at linked
    cases linked

end ProjectCeilings

end Graph

end SsnConsole.AccessGraph
