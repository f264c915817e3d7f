import SsnConsole.AccountStores
import SsnConsole.InverseIndex

/-!
# The history of the terms and conditions

A history lists the accepted terms operations, the latest first.  The store
answers from three maps and an index; it agrees with a history when the maps
hold what the history says.
-/

namespace SsnConsole.Backend

open Std
open SsnConsole.InverseIndex
open SsnConsole.StableIndex

/-- An accepted terms operation: a version with its time, or a user's decision on one. -/
inductive TermsAct
  | created (version : Nat × TermsAndConditionsId)
  | decided (key : UserId × TermsAndConditionsId) (decisionType : TermsAndConditionsDecisionType)

/-- The accepted terms operations, the latest first. -/
abbrev TermsHistory := List TermsAct

/-- The version that an act creates. -/
def TermsAct.version? : TermsAct → Option (Nat × TermsAndConditionsId)
  | .created version => some version
  | .decided _ _ => none

/-- What an act decides for a user about a version. -/
def TermsAct.decisionOn (key : UserId × TermsAndConditionsId) :
    TermsAct → Option TermsAndConditionsDecisionType
  | .created _ => none
  | .decided decidedKey decisionType => if decidedKey = key then some decisionType else none

namespace TermsHistory

/-- The created versions with their times, the most recently created first. -/
def versions (history : TermsHistory) : List (Nat × TermsAndConditionsId) :=
  history.filterMap TermsAct.version?

/-- A user's most recent decision on a version. -/
def lastDecision (history : TermsHistory) (key : UserId × TermsAndConditionsId) :
    Option TermsAndConditionsDecisionType :=
  history.findSome? (TermsAct.decisionOn key)

/-- No version was created, or the user's most recent decision on the most recent one accepts. -/
def HasAcceptedLatest (history : TermsHistory) (userId : UserId) : Prop :=
  ∀ latest ∈ history.versions.head?,
    history.lastDecision (userId, latest.2) = some .accept

instance (history : TermsHistory) (userId : UserId) :
    Decidable (history.HasAcceptedLatest userId) :=
  inferInstanceAs (Decidable (∀ latest ∈ history.versions.head?, _))

/-- Of the versions created at a time, the one with the greatest identifier. -/
def GreatestAt (history : TermsHistory) (time : Nat) (id : TermsAndConditionsId) : Prop :=
  (time, id) ∈ history.versions ∧
    ∀ version ∈ history.versions, version.1 = time → version.2.uuid ≤ id.uuid

/-- Versions were created at times that do not go back. -/
def Ordered (history : TermsHistory) : Prop :=
  history.versions.Pairwise fun late early => early.1 ≤ late.1

@[simp] theorem versions_created
    (history : TermsHistory)
    (version : Nat × TermsAndConditionsId) :
    versions (.created version :: history) = version :: history.versions :=
  rfl

/-- A decision becomes the last one of its user on its version. -/
theorem lastDecision_decided
    (history : TermsHistory)
    (decided key : UserId × TermsAndConditionsId)
    (decisionType : TermsAndConditionsDecisionType) :
    lastDecision (.decided decided decisionType :: history) key =
      if decided = key then some decisionType else history.lastDecision key := by
  by_cases same : decided = key
  · simp [lastDecision, TermsAct.decisionOn, same]
  · simp [lastDecision, TermsAct.decisionOn, same]

/-- The most recently created version has the latest time. -/
theorem Ordered.le_latest
    {history : TermsHistory}
    {latest version : Nat × TermsAndConditionsId}
    (ordered : history.Ordered)
    (isLatest : latest ∈ history.versions.head?)
    (member : version ∈ history.versions) :
    version.1 ≤ latest.1 := by
  unfold Ordered at ordered
  cases created : history.versions with
  | nil =>
      rw [created] at member
      cases member
  | cons first rest =>
      rw [created] at ordered isLatest member
      obtain rfl : first = latest := Option.some.inj isLatest
      rcases List.mem_cons.mp member with rfl | earlier
      · exact Nat.le_refl _
      · exact List.rel_of_pairwise_cons ordered earlier

end TermsHistory

namespace TermsAndConditionsState

/-- The user and the version of a stored decision. -/
def decisionKey (decision : TermsAndConditionsDecision) : UserId × TermsAndConditionsId :=
  (decision.userId, decision.termsAndConditionsId)

/-- The stored decision of a user on a version. -/
def decisionOn (s : TermsAndConditionsState) (key : UserId × TermsAndConditionsId) :
    Option TermsAndConditionsDecisionType :=
  (s.decisionsUserIndex[key]?.bind fun id => s.decisions[id]?).map
    TermsAndConditionsDecision.decisionType

/-- The store holds what the history says. -/
structure Agrees (s : TermsAndConditionsState) (history : TermsHistory) : Prop where
  versions : ∀ id, id ∈ s.termsAndConditions ↔ ∃ time, (time, id) ∈ history.versions
  indexed : ∀ version, version ∈ s.createdAtIndex ↔ version ∈ history.versions
  ordered : history.Ordered
  decided : ∀ key, s.decisionOn key = history.lastDecision key
  /-- A stored decision is the one that the index finds for its user and version. -/
  inverts :
    Inverts (fun id => s.decisions[id]?.map decisionKey) fun key => s.decisionsUserIndex[key]?

/-- A new store agrees with the empty history. -/
theorem Agrees.empty : Agrees .empty [] where
  versions id := by simp [TermsAndConditionsState.empty, TermsHistory.versions]
  indexed version := by simp [TermsAndConditionsState.empty, TermsHistory.versions]
  ordered := List.Pairwise.nil
  decided key := by
    simp [TermsAndConditionsState.empty, decisionOn, TermsHistory.lastDecision]
  inverts id key := by simp [TermsAndConditionsState.empty]

variable {s : TermsAndConditionsState} {history : TermsHistory}

/-- What the index finds is a decision of that user on that version. -/
theorem Agrees.exists_row
    (agrees : s.Agrees history)
    {key : UserId × TermsAndConditionsId}
    {id : TermsAndConditionsDecisionId}
    (found : s.decisionsUserIndex[key]? = some id) :
    ∃ decision, s.decisions[id]? = some decision ∧ decisionKey decision = key :=
  Option.map_eq_some_iff.mp ((agrees.inverts id key).mpr found)

/-- A version that is not created before the others is recorded as the latest one. -/
theorem Agrees.create
    (agrees : s.Agrees history)
    (id : TermsAndConditionsId)
    (terms : TermsAndConditions)
    (notBefore : ∀ version ∈ history.versions, version.1 ≤ terms.createdAt) :
    (s.createTermsAndConditions id terms).Agrees (.created (terms.createdAt, id) :: history) where
  versions other := by
    show other ∈ s.termsAndConditions.insert id terms ↔ _
    rw [mem_insert_entry, agrees.versions]
    constructor
    · rintro (⟨time, member⟩ | rfl)
      · exact ⟨time, List.mem_cons_of_mem _ member⟩
      · exact ⟨terms.createdAt, List.mem_cons_self⟩
    · rintro ⟨time, member⟩
      rcases List.mem_cons.mp member with same | earlier
      · exact Or.inr (congrArg Prod.snd same)
      · exact Or.inl ⟨time, earlier⟩
  indexed version := by
    show version ∈ s.createdAtIndex.insert (terms.createdAt, id) ↔ _
    rw [mem_insert_row, agrees.indexed, TermsHistory.versions_created, List.mem_cons, or_comm]
  ordered := List.pairwise_cons.mpr ⟨notBefore, agrees.ordered⟩
  decided := agrees.decided
  inverts := agrees.inverts

/-- A decision is recorded under the row of its user and version, or under a free one. -/
theorem Agrees.decide
    (agrees : s.Agrees history)
    {id : TermsAndConditionsDecisionId}
    {decision : TermsAndConditionsDecision}
    (free :
      ∀ other, s.decisions[id]? = some other → decisionKey other = decisionKey decision)
    (own : ∀ other, s.decisionsUserIndex[decisionKey decision]? = some other → other = id) :
    (s.upsertDecision id decision).Agrees
      (.decided (decisionKey decision) decision.decisionType :: history) where
  versions := agrees.versions
  indexed := agrees.indexed
  ordered := agrees.ordered
  decided key := by
    rw [TermsHistory.lastDecision_decided, ← agrees.decided]
    show ((s.decisionsUserIndex.insert (decisionKey decision) id)[key]?.bind
      fun found => (s.decisions.insert id decision)[found]?).map
        TermsAndConditionsDecision.decisionType = _
    rw [getElem?_insert_entry]
    by_cases same : key = decisionKey decision
    · rw [if_pos same, if_pos same.symm, Option.bind_some, getElem?_insert_entry, if_pos rfl]
      rfl
    · rw [if_neg same, if_neg (Ne.symm same)]
      unfold decisionOn
      cases found : s.decisionsUserIndex[key]? with
      | none =>
          rfl
      | some other =>
          have distinct : other ≠ id := by
            rintro rfl
            obtain ⟨stored, held, keyed⟩ := agrees.exists_row found
            exact same (keyed.symm.trans (free stored held))
          rw [Option.bind_some, getElem?_insert_entry, if_neg distinct]
          rfl
  inverts := by
    refine agrees.inverts.claim ?_ own ?_ ?_
    · intro other held
      obtain ⟨stored, found, keyed⟩ := Option.map_eq_some_iff.mp held
      exact keyed.symm.trans (free stored found)
    · intro other
      show (s.decisions.insert id decision)[other]?.map decisionKey = _
      rw [getElem?_insert_entry]
      split <;> rfl
    · intro other
      exact getElem?_insert_entry

/-- The index finds at most one row for a user and a version. -/
theorem Agrees.row_unique
    (agrees : s.Agrees history)
    {first second : TermsAndConditionsDecisionId}
    {decision otherDecision : TermsAndConditionsDecision}
    (stored : s.decisions[first]? = some decision)
    (otherStored : s.decisions[second]? = some otherDecision)
    (same : decisionKey decision = decisionKey otherDecision) :
    first = second := by
  have found := (agrees.inverts first (decisionKey decision)).mp (by simp [stored])
  have otherFound := (agrees.inverts second (decisionKey decision)).mp (by
    simp [otherStored, same])
  exact Option.some.inj (found.symm.trans otherFound)

/-- A user has accepted a version exactly if the last decision on it accepts. -/
theorem Agrees.hasAccepted_iff
    (agrees : s.Agrees history)
    (userId : UserId)
    (id : TermsAndConditionsId) :
    s.hasAcceptedTermsAndConditions userId id = true ↔
      history.lastDecision (userId, id) = some .accept := by
  rw [← agrees.decided]
  unfold hasAcceptedTermsAndConditions decisionOn
  cases s.decisionsUserIndex[(userId, id)]?.bind fun decisionId => s.decisions[decisionId]? with
  | none => simp
  | some decision => simp

/-- The creation index is ordered by time and then by identifier. -/
private theorem compare_isLE_iff
    (version other : Nat × TermsAndConditionsId) :
    (compare version other).isLE = true ↔
      version.1 < other.1 ∨ version.1 = other.1 ∧ version.2.uuid ≤ other.2.uuid := by
  show ((compare version.1 other.1).then (compare version.2.uuid other.2.uuid)).isLE = true ↔ _
  rcases Nat.lt_trichotomy version.1 other.1 with earlier | same | later
  · simp [Nat.compare_eq_lt.mpr earlier, earlier]
  · simp [same, Nat.isLE_compare]
  · have notSame : version.1 ≠ other.1 := Nat.ne_of_gt later
    simp [Nat.compare_eq_gt.mpr later, Nat.le_of_lt later, notSame]

/-- The latest version of the store is the greatest one of the latest time. -/
theorem Agrees.getLatest_eq_some_iff
    (agrees : s.Agrees history)
    {latest : Nat × TermsAndConditionsId}
    (isLatest : latest ∈ history.versions.head?)
    (id : TermsAndConditionsId) :
    s.getLatestTermsAndConditionId = some id ↔ history.GreatestAt latest.1 id := by
  unfold getLatestTermsAndConditionId
  rw [Option.map_eq_some_iff]
  simp only [ExtTreeSet.max?_eq_some_iff_mem_and_forall, agrees.indexed, compare_isLE_iff]
  constructor
  · rintro ⟨greatest, ⟨member, bounds⟩, rfl⟩
    have latestMember : latest ∈ history.versions := List.mem_of_head? isLatest
    have notAfter := agrees.ordered.le_latest isLatest member
    have sameTime : greatest.1 = latest.1 := by
      have bound := bounds latest latestMember
      omega
    refine ⟨sameTime ▸ member, ?_⟩
    intro version versionMember atTime
    have bound := bounds version versionMember
    omega
  · rintro ⟨member, bounds⟩
    refine ⟨(latest.1, id), ⟨member, ?_⟩, rfl⟩
    intro version versionMember
    rcases Nat.lt_or_eq_of_le (agrees.ordered.le_latest isLatest versionMember) with
      earlier | same
    · exact Or.inl earlier
    · exact Or.inr ⟨same, bounds version versionMember same⟩

/-- A store has no latest version exactly if none was created. -/
theorem Agrees.getLatest_eq_none_iff
    (agrees : s.Agrees history) :
    s.getLatestTermsAndConditionId = none ↔ history.versions.head? = none := by
  unfold getLatestTermsAndConditionId
  rw [Option.map_eq_none_iff, ExtTreeSet.max?_eq_none_iff, List.head?_eq_none_iff,
    List.eq_nil_iff_forall_not_mem]
  constructor
  · rintro empty version member
    have stored := (agrees.indexed version).mpr member
    rw [empty] at stored
    simp at stored
  · intro none
    apply ExtTreeSet.ext_mem
    intro version
    rw [agrees.indexed]
    simp [none version]

end TermsAndConditionsState

end SsnConsole.Backend
