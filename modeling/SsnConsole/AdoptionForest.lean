import Mathlib

/-!
# Labels inherited along links

Nodes are linked to parents, and some nodes carry a label of their own.  A node
without one inherits the label of the first labelled node that its links lead
to.  `Settling` is what an incremental computation of these labels maintains:
the labels given so far, the links that still wait for their parents, and the
labelled nodes whose waiting children are yet to be labelled.
-/

namespace SsnConsole.AdoptionForest

variable {Node Label : Type}

section Inheritance

variable (own : Node → Option Label) (link : Node → Node → Prop)

/-- Links lead from a node to another through nodes without a label of their own. -/
def Leads : Node → Node → Prop :=
  Relation.ReflTransGen fun child parent => own child = none ∧ link child parent

/-- The first labelled node that the links of a node lead to has the label. -/
def Inherits (node : Node) (label : Label) : Prop :=
  ∃ ancestor, Leads own link node ancestor ∧ own ancestor = some label

end Inheritance

variable {own : Node → Option Label} {link moreLink : Node → Node → Prop}
variable {node child parent : Node} {label : Label}

namespace Inherits

/-- A label of one's own is inherited. -/
theorem of_own
    (labelled : own node = some label) :
    Inherits own link node label :=
  ⟨node, .refl, labelled⟩

/-- A node without a label inherits its parent's. -/
theorem of_parent
    (unlabelled : own child = none)
    (linked : link child parent)
    (inherited : Inherits own link parent label) :
    Inherits own link child label := by
  obtain ⟨ancestor, leads, labelled⟩ := inherited
  exact ⟨ancestor, .head ⟨unlabelled, linked⟩ leads, labelled⟩

/-- What holds of labelled nodes and passes down the links holds of every heir. -/
theorem induction
    (Holds : Node → Prop)
    (inherited : Inherits own link node label)
    (owned : ∀ ancestor, own ancestor = some label → Holds ancestor)
    (passed :
      ∀ child parent,
        own child = none → link child parent →
          Inherits own link parent label → Holds parent → Holds child) :
    Holds node := by
  obtain ⟨ancestor, leads, labelled⟩ := inherited
  induction leads using Relation.ReflTransGen.head_induction_on with
  | refl =>
      exact owned ancestor labelled
  | head first rest inductionHypothesis =>
      exact passed _ _ first.1 first.2 ⟨ancestor, rest, labelled⟩ inductionHypothesis

/-- More links only add heirs. -/
theorem mono
    (more : ∀ child parent, link child parent → moreLink child parent)
    (inherited : Inherits own link node label) :
    Inherits own moreLink node label := by
  refine
    inherited.induction (Inherits own moreLink · label)
      (fun ancestor labelled => of_own labelled) ?_
  intro child parent unlabelled linked _ parentInherits
  exact of_parent unlabelled (more child parent linked) parentInherits

/-- With one parent for each child, an heir has one label. -/
theorem unique
    {other : Label}
    (oneParent : ∀ child first second, link child first → link child second → first = second)
    (inherited : Inherits own link node label)
    (otherInherited : Inherits own link node other) :
    label = other := by
  revert otherInherited
  refine inherited.induction (fun node => Inherits own link node other → label = other) ?_ ?_
  · rintro ancestor labelled ⟨otherAncestor, leads, otherLabelled⟩
    rcases Relation.ReflTransGen.cases_head leads with rfl | ⟨_, ⟨unlabelled, -⟩, -⟩
    · exact Option.some.inj (labelled.symm.trans otherLabelled)
    · rw [labelled] at unlabelled
      cases unlabelled
  · rintro child parent unlabelled linked _ onlyLabel ⟨otherAncestor, leads, otherLabelled⟩
    rcases Relation.ReflTransGen.cases_head leads with rfl | ⟨next, ⟨-, nextLinked⟩, rest⟩
    · rw [unlabelled] at otherLabelled
      cases otherLabelled
    · have same := oneParent child parent next linked nextLinked
      subst same
      exact onlyLabel ⟨otherAncestor, rest, otherLabelled⟩

end Inherits

/-- A node inherits a label exactly if some chain of links leads to a labelled node. -/
theorem exists_inherits_iff :
    (∃ label, Inherits own link node label) ↔
      ∃ ancestor, Relation.ReflTransGen link node ancestor ∧ (own ancestor).isSome := by
  constructor
  · rintro ⟨label, ancestor, leads, labelled⟩
    have forget :
        (fun child parent => own child = none ∧ link child parent) ≤ link :=
      fun _ _ step => step.2
    have chain : Relation.ReflTransGen link node ancestor :=
      Relation.ReflTransGen.mono forget _ _ leads
    exact ⟨ancestor, chain, by rw [labelled]; rfl⟩
  · rintro ⟨ancestor, chain, labelled⟩
    induction chain using Relation.ReflTransGen.head_induction_on with
    | refl =>
        obtain ⟨label, labelled⟩ := Option.isSome_iff_exists.mp labelled
        exact ⟨label, .of_own labelled⟩
    | @head child parent linked _ inductionHypothesis =>
        obtain ⟨label, inherited⟩ := inductionHypothesis
        cases owned : own child with
        | some ownLabel =>
            exact ⟨ownLabel, .of_own owned⟩
        | none =>
            exact ⟨label, .of_parent owned linked inherited⟩

/-- Labels and waiting links on the way to what the links settle. -/
structure Settling
    (own : Node → Option Label)
    (link : Node → Node → Prop)
    (pending : List Node)
    (labels : Node → Option Label)
    (orphan : Node → Node → Prop) : Prop where
  keeps : ∀ node label, own node = some label → labels node = some label
  sound : ∀ node label, labels node = some label → Inherits own link node label
  resolved :
    ∀ child parent,
      own child = none → link child parent → (labels child).isSome ∨ orphan child parent
  linked : ∀ child parent, orphan child parent → link child parent
  unlabelled : ∀ child parent, orphan child parent → labels child = none
  waiting : ∀ child parent, orphan child parent → labels parent = none ∨ parent ∈ pending

/-- Nothing is left to be adopted. -/
abbrev Settled
    (own : Node → Option Label)
    (link : Node → Node → Prop)
    (labels : Node → Option Label)
    (orphan : Node → Node → Prop) : Prop :=
  Settling own link [] labels orphan

variable {pending : List Node}
variable {labels newLabels : Node → Option Label} {orphan newOrphan : Node → Node → Prop}

/-- Waiting links whose parents are unlabelled are settled from the start. -/
theorem Settled.start
    (unlabelled : ∀ child parent, orphan child parent → labels child = none)
    (waiting : ∀ child parent, orphan child parent → labels parent = none) :
    Settled labels orphan labels orphan where
  keeps _ _ labelled := labelled
  sound _ _ labelled := .of_own labelled
  resolved _ _ _ linked := .inr linked
  linked _ _ orphaned := orphaned
  unlabelled := unlabelled
  waiting child parent orphaned := .inl (waiting child parent orphaned)

namespace Settling

/-- Only nodes without a label of their own stay unlabelled. -/
theorem own_eq_none
    (settling : Settling own link pending labels orphan)
    (unlabelled : labels node = none) :
    own node = none := by
  cases owned : own node with
  | none =>
      rfl
  | some label =>
      rw [settling.keeps node label owned] at unlabelled
      cases unlabelled

/-- A waiting child of a labelled node is adopted. -/
theorem adopt
    [DecidableEq Node]
    (settling : Settling own link pending labels orphan)
    (orphaned : orphan child parent)
    (labelled : labels parent = some label)
    (labels_eq :
      ∀ node, newLabels node = if node = child then some label else labels node)
    (orphan_iff :
      ∀ node waitsFor, newOrphan node waitsFor ↔ orphan node waitsFor ∧ node ≠ child) :
    Settling own link (child :: pending) newLabels newOrphan := by
  have childUnlabelled := settling.unlabelled child parent orphaned
  have childUnowned := settling.own_eq_none childUnlabelled
  refine ⟨?_, ?_, ?_, ?_, ?_, ?_⟩
  · intro node ownLabel owned
    have different : node ≠ child := by
      rintro rfl
      rw [childUnowned] at owned
      cases owned
    rw [labels_eq, if_neg different]
    exact settling.keeps node ownLabel owned
  · intro node given nodeLabelled
    rw [labels_eq] at nodeLabelled
    split at nodeLabelled
    · rename_i same
      cases nodeLabelled
      rw [same]
      exact
        .of_parent childUnowned (settling.linked child parent orphaned)
          (settling.sound parent label labelled)
    · exact settling.sound node given nodeLabelled
  · intro node waitsFor unowned isLinked
    rw [labels_eq, orphan_iff]
    by_cases same : node = child
    · left
      rw [if_pos same]
      rfl
    · rw [if_neg same]
      rcases settling.resolved node waitsFor unowned isLinked with given | waits
      · exact .inl given
      · exact .inr ⟨waits, same⟩
  · intro node waitsFor waits
    exact settling.linked node waitsFor ((orphan_iff node waitsFor).mp waits).1
  · intro node waitsFor waits
    obtain ⟨before, different⟩ := (orphan_iff node waitsFor).mp waits
    rw [labels_eq, if_neg different]
    exact settling.unlabelled node waitsFor before
  · intro node waitsFor waits
    obtain ⟨before, -⟩ := (orphan_iff node waitsFor).mp waits
    rw [labels_eq, List.mem_cons]
    by_cases same : waitsFor = child
    · exact .inr (.inl same)
    · rw [if_neg same]
      rcases settling.waiting node waitsFor before with unlabelled | isPending
      · exact .inl unlabelled
      · exact .inr (.inr isPending)

/-- A node without waiting children is done. -/
theorem done
    (settling : Settling own link (parent :: pending) labels orphan)
    (childless : ∀ child, ¬orphan child parent) :
    Settling own link pending labels orphan :=
  { settling with
    waiting := by
      intro child waitsFor waits
      rcases settling.waiting child waitsFor waits with unlabelled | isPending
      · exact .inl unlabelled
      · rcases List.mem_cons.mp isPending with rfl | later
        · exact (childless child waits).elim
        · exact .inr later }

/-- The order of what is pending does not matter, and more may be pending. -/
theorem weaken
    {more : List Node}
    (settling : Settling own link pending labels orphan)
    (included : pending ⊆ more) :
    Settling own link more labels orphan :=
  { settling with
    waiting := fun child parent waits =>
      (settling.waiting child parent waits).imp_right fun isPending => included isPending }

section NewLink

variable
  (settling : Settling own link pending labels orphan)
  (link_iff :
    ∀ node waitsFor,
      moreLink node waitsFor ↔ link node waitsFor ∨ (node = child ∧ waitsFor = parent))

include settling link_iff

/-- A link of a node that is labelled or waits for the same parent changes nothing. -/
theorem known
    (isKnown : (labels child).isSome ∨ orphan child parent) :
    Settling own moreLink pending labels orphan := by
  have more : ∀ node waitsFor, link node waitsFor → moreLink node waitsFor :=
    fun node waitsFor isLinked => (link_iff node waitsFor).mpr (.inl isLinked)
  refine ⟨settling.keeps, ?_, ?_, ?_, settling.unlabelled, settling.waiting⟩
  · intro node label labelled
    exact (settling.sound node label labelled).mono more
  · intro node waitsFor unowned isLinked
    rcases (link_iff node waitsFor).mp isLinked with before | ⟨rfl, rfl⟩
    · exact settling.resolved node waitsFor unowned before
    · exact isKnown
  · intro node waitsFor waits
    exact more node waitsFor (settling.linked node waitsFor waits)

/-- A new child of an unlabelled node waits. -/
theorem wait
    (unlabelled : labels child = none)
    (parentUnlabelled : labels parent = none)
    (orphan_iff :
      ∀ node waitsFor,
        newOrphan node waitsFor ↔ orphan node waitsFor ∨ (node = child ∧ waitsFor = parent)) :
    Settling own moreLink pending labels newOrphan := by
  refine ⟨settling.keeps, ?_, ?_, ?_, ?_, ?_⟩
  · intro node label labelled
    exact
      (settling.sound node label labelled).mono fun node waitsFor isLinked =>
        (link_iff node waitsFor).mpr (.inl isLinked)
  · intro node waitsFor unowned isLinked
    rw [orphan_iff]
    rcases (link_iff node waitsFor).mp isLinked with before | new
    · exact (settling.resolved node waitsFor unowned before).imp_right .inl
    · exact .inr (.inr new)
  · intro node waitsFor waits
    rw [link_iff]
    exact ((orphan_iff node waitsFor).mp waits).imp_left (settling.linked node waitsFor)
  · intro node waitsFor waits
    rcases (orphan_iff node waitsFor).mp waits with before | ⟨rfl, -⟩
    · exact settling.unlabelled node waitsFor before
    · exact unlabelled
  · intro node waitsFor waits
    rcases (orphan_iff node waitsFor).mp waits with before | ⟨-, rfl⟩
    · exact settling.waiting node waitsFor before
    · exact .inl parentUnlabelled

/-- A new child of a labelled node is labelled, and its own children may be waiting. -/
theorem join
    [DecidableEq Node]
    (unlabelled : labels child = none)
    (notWaiting : ∀ waitsFor, ¬orphan child waitsFor)
    (labelled : labels parent = some label)
    (labels_eq :
      ∀ node, newLabels node = if node = child then some label else labels node) :
    Settling own moreLink (child :: pending) newLabels orphan := by
  have more : ∀ node waitsFor, link node waitsFor → moreLink node waitsFor :=
    fun node waitsFor isLinked => (link_iff node waitsFor).mpr (.inl isLinked)
  have childUnowned := settling.own_eq_none unlabelled
  refine ⟨?_, ?_, ?_, ?_, ?_, ?_⟩
  · intro node ownLabel owned
    have different : node ≠ child := by
      rintro rfl
      rw [childUnowned] at owned
      cases owned
    rw [labels_eq, if_neg different]
    exact settling.keeps node ownLabel owned
  · intro node given nodeLabelled
    rw [labels_eq] at nodeLabelled
    split at nodeLabelled
    · rename_i same
      cases nodeLabelled
      rw [same]
      exact
        .of_parent childUnowned ((link_iff child parent).mpr (.inr ⟨rfl, rfl⟩))
          ((settling.sound parent label labelled).mono more)
    · exact (settling.sound node given nodeLabelled).mono more
  · intro node waitsFor unowned isLinked
    rw [labels_eq]
    by_cases same : node = child
    · left
      rw [if_pos same]
      rfl
    · rw [if_neg same]
      rcases (link_iff node waitsFor).mp isLinked with before | ⟨new, -⟩
      · exact settling.resolved node waitsFor unowned before
      · exact (same new).elim
  · intro node waitsFor waits
    exact more node waitsFor (settling.linked node waitsFor waits)
  · intro node waitsFor waits
    have different : node ≠ child := by
      rintro rfl
      exact notWaiting waitsFor waits
    rw [labels_eq, if_neg different]
    exact settling.unlabelled node waitsFor waits
  · intro node waitsFor waits
    rw [labels_eq, List.mem_cons]
    by_cases same : waitsFor = child
    · exact .inr (.inl same)
    · rw [if_neg same]
      exact (settling.waiting node waitsFor waits).imp_right .inr

end NewLink

end Settling

namespace Settled

variable
  (settled : Settled own link labels orphan)
  (oneParent : ∀ child first second, link child first → link child second → first = second)

include settled oneParent

/-- Settled labels are exactly the inherited ones. -/
theorem labels_iff :
    labels node = some label ↔ Inherits own link node label := by
  constructor
  · exact settled.sound node label
  · intro inherited
    refine
      inherited.induction (labels · = some label)
        (fun ancestor owned => settled.keeps ancestor label owned) ?_
    intro child parent unowned isLinked parentInherits parentLabelled
    rcases settled.resolved child parent unowned isLinked with given | waits
    · obtain ⟨other, given⟩ := Option.isSome_iff_exists.mp given
      have same :=
        (settled.sound child other given).unique oneParent
          (.of_parent unowned isLinked parentInherits)
      rw [given, same]
    · rcases settled.waiting child parent waits with unlabelled | isPending
      · rw [unlabelled] at parentLabelled
        cases parentLabelled
      · cases isPending

/-- Settled orphans are exactly the links of nodes that inherit nothing. -/
theorem orphan_iff :
    orphan child parent ↔ link child parent ∧ ∀ label, ¬Inherits own link child label := by
  constructor
  · intro waits
    refine ⟨settled.linked child parent waits, ?_⟩
    intro label inherited
    rw [← labels_iff settled oneParent, settled.unlabelled child parent waits] at inherited
    cases inherited
  · rintro ⟨isLinked, noLabel⟩
    have unowned : own child = none := by
      cases owned : own child with
      | none =>
          rfl
      | some label =>
          exact (noLabel label (.of_own owned)).elim
    rcases settled.resolved child parent unowned isLinked with given | waits
    · obtain ⟨label, given⟩ := Option.isSome_iff_exists.mp given
      exact (noLabel label (settled.sound child label given)).elim
    · exact waits

end Settled

end SsnConsole.AdoptionForest
