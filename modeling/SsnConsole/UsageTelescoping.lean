import SsnConsole.BillingCalendar
import SsnConsole.CounterDeltas
import SsnConsole.MessageRun
import SsnConsole.StableTotals

/-!
# What a canister is billed over all months

A report is compared with the canister's last counters of this month or of the
month before.  The rows of a canister therefore add up to its last counters
exactly when no month passes without a report after it has used something.
-/

namespace SsnConsole.Backend

open Std
open SsnConsole.CounterDeltas
open SsnConsole.MessageRun
open SsnConsole.StableIndex
open SsnConsole.StableTotals

section Readings

/-- The usages of a list of reports, one by one, with their reports. -/
def usageEntries (reports : List UsageReport) : List (UsageReport × Dto.CanisterUsage) :=
  reports.flatMap fun report => report.usages.map fun usage => (report, usage)

/-- The counters that a list of usages gives for one canister, with their times. -/
def countersIn (canisterId : Principal) (entries : List (UsageReport × Dto.CanisterUsage)) :
    List (UInt64 × Usage) :=
  (entries.filter fun entry => decide (entry.2.canisterId = canisterId)).map
    fun entry => (entry.1.now, mapCanisterUsageData entry.2)

/-- The counters that a list of reports gives for one canister, with their times. -/
def countersOf (canisterId : Principal) (reports : List UsageReport) : List (UInt64 × Usage) :=
  countersIn canisterId (usageEntries reports)

/-- The value of a field in counters. -/
def counterValue (field : UsageField) (counters : UInt64 × Usage) : Nat :=
  (counters.2.get field).toNat

/-- The later counters are compared with the earlier ones. -/
def Bridged (early late : UInt64 × Usage) : Prop :=
  billingMonthAt early.1 = billingMonthAt late.1 ∨
    billingMonthAt early.1 = previousBillingMonthAt late.1

instance : DecidableRel Bridged :=
  fun early late =>
    inferInstanceAs (Decidable (billingMonthAt early.1 = billingMonthAt late.1 ∨
      billingMonthAt early.1 = previousBillingMonthAt late.1))

/-- The last value of a field that was reported, or zero. -/
def lastCounter (field : UsageField) (counters : List (UInt64 × Usage)) : Nat :=
  (counters.getLast?.map (counterValue field)).getD 0

/-- What a row counts for towards a canister of a project: its field, in any month. -/
def rowWeight (projectId : ProjectId) (canisterId : Principal) (field : UsageField)
    (row : (ProjectId × BillingMonth) × Principal) (usage : Usage) : Nat :=
  if row.1.1 = projectId ∧ row.2 = canisterId then (usage.get field).toNat else 0

/-- The sum over all billing months of a canister's rows under a project. -/
def billedUsage (s : UsageState) (projectId : ProjectId) (canisterId : Principal)
    (field : UsageField) : Nat :=
  total (rowWeight projectId canisterId field) s.canisterUsage

/-- The last reading of a list is its last element. -/
theorem valueOf_lastReading
    (field : UsageField)
    (counters : List (UInt64 × Usage)) :
    valueOf (counterValue field) (lastReading none counters) = lastCounter field counters := by
  have last
      (previous : Option (UInt64 × Usage))
      (readings : List (UInt64 × Usage)) :
      lastReading previous readings = (readings.getLast?).or previous := by
    induction readings generalizing previous with
    | nil =>
        simp [lastReading]
    | cons reading rest inductionHypothesis =>
        rw [lastReading, inductionHypothesis, List.getLast?_cons]
        cases rest.getLast? <;> simp
  rw [last]
  unfold lastCounter valueOf
  cases counters.getLast? <;> rfl

end Readings

section Steps

variable {canisterId : Principal}
variable {projectId : ProjectId}
variable {field : UsageField}

/-- The store holds the canister's last counters, and its rows stay below them. -/
structure Metered
    (canisterId : Principal)
    (projectId : ProjectId)
    (field : UsageField)
    (previous : Option (UInt64 × Usage))
    (s : UsageState) : Prop where
  latest :
    ∀ counters, previous = some counters →
      s.canisterAbsoluteUsage[(canisterId, billingMonthAt counters.1)]? = some counters.2
  past :
    ∀ (month : BillingMonth) usage, s.canisterAbsoluteUsage[(canisterId, month)]? = some usage →
      ∃ counters, previous = some counters ∧
        ∃ time, time ≤ counters.1 ∧ month = billingMonthAt time
  row :
    ∀ month : BillingMonth,
      ((s.canisterUsage[((projectId, month), canisterId)]?.getD .default).get field).toNat ≤
        ((s.canisterAbsoluteUsage[(canisterId, month)]?.getD .default).get field).toNat

/-- An empty store has met no counters. -/
theorem metered_empty :
    Metered canisterId projectId field none .empty where
  latest := by
    intro counters absent
    cases absent
  past := by
    intro month usage present
    simp [UsageState.empty] at present
  row := by
    intro month
    simp [UsageState.empty]

/-- The counters of a month that is not over are the last ones. -/
theorem Metered.absolute_of_ge
    {previous : UInt64 × Usage}
    {s : UsageState}
    (metered : Metered canisterId projectId field (some previous) s)
    {month : BillingMonth}
    (time : UInt64)
    (named : month = billingMonthAt time)
    (notOver : monthNumberAt previous.1 ≤ monthNumberAt time) :
    s.canisterAbsoluteUsage[(canisterId, month)]? =
      if billingMonthAt previous.1 = month then some previous.2 else none := by
  by_cases same : billingMonthAt previous.1 = month
  · rw [if_pos same, ← same]
    exact metered.latest previous rfl
  · rw [if_neg same]
    cases present : s.canisterAbsoluteUsage[(canisterId, month)]? with
    | none =>
        rfl
    | some usage =>
        obtain ⟨counters, last, earlier, before, month_eq⟩ := metered.past month usage present
        cases last
        have numbers : monthNumberAt earlier = monthNumberAt time :=
          (billingMonthAt_eq_iff _ _).mp (month_eq.symm.trans named)
        have ordered := monthNumberAt_mono before
        have sameNumber : monthNumberAt previous.1 = monthNumberAt time := by omega
        exact absurd
          (((billingMonthAt_eq_iff _ _).mpr sameNumber).trans named.symm) same

/-- A later report is compared with the last counters if they are bridged, else with nothing. -/
theorem Metered.previousAbsoluteUsage
    {previous : Option (UInt64 × Usage)}
    {s : UsageState}
    (metered : Metered canisterId projectId field previous s)
    (counters : UInt64 × Usage)
    (ordered : ∀ earlier, previous = some earlier → earlier.1 ≤ counters.1) :
    ((s.previousAbsoluteUsage canisterId (billingMonthAt counters.1)
        (previousBillingMonthAt counters.1)).get field).toNat =
      baseline (counterValue field) Bridged previous counters := by
  unfold UsageState.previousAbsoluteUsage
  cases previous with
  | none =>
      have absent (month : BillingMonth) :
          s.canisterAbsoluteUsage[(canisterId, month)]? = none := by
        cases present : s.canisterAbsoluteUsage[(canisterId, month)]? with
        | none =>
            rfl
        | some usage =>
            obtain ⟨earlier, impossible, _⟩ := metered.past month usage present
            cases impossible
      simp [absent, baseline]
  | some earlier =>
      have numbers := monthNumberAt_mono (ordered earlier rfl)
      have current := metered.absolute_of_ge counters.1 rfl numbers
      by_cases sameMonth : billingMonthAt earlier.1 = billingMonthAt counters.1
      · rw [current, if_pos sameMonth]
        simp [sameMonth, baseline, Bridged, counterValue]
      · have apart : monthNumberAt earlier.1 ≠ monthNumberAt counters.1 := fun same =>
          sameMonth ((billingMonthAt_eq_iff _ _).mpr same)
        by_cases monthBefore :
            billingMonthAt earlier.1 = previousBillingMonthAt counters.1
        · have known := metered.latest earlier rfl
          rw [monthBefore] at known
          rw [current, if_neg sameMonth, Option.getD_none, known]
          simp [baseline, Bridged, monthBefore, counterValue]
        · have unknown :
              s.canisterAbsoluteUsage[(canisterId, previousBillingMonthAt counters.1)]? =
                none := by
            cases present :
                s.canisterAbsoluteUsage[(canisterId, previousBillingMonthAt counters.1)]? with
            | none =>
                rfl
            | some usage =>
                obtain ⟨_, same, time, before, named⟩ := metered.past _ usage present
                cases same
                have consecutive := (billingMonthAt_eq_previous_iff _ _).mp named.symm
                have earlierNumbers := monthNumberAt_mono before
                have next : monthNumberAt earlier.1 + 1 = monthNumberAt counters.1 := by
                  omega
                exact absurd ((billingMonthAt_eq_previous_iff _ _).mpr next) monthBefore
          rw [current, if_neg sameMonth, Option.getD_none, unknown]
          simp [sameMonth, baseline, Bridged, monthBefore]

/-- Lookups in the absolute counters after a canister's update. -/
theorem absolute_upsertCanisterUsage
    (currentMonth prevMonth : BillingMonth)
    (owner : ProjectId)
    (usage : Dto.CanisterUsage)
    (s : UsageState)
    (key : Principal × BillingMonth) :
    (s.upsertCanisterUsage currentMonth prevMonth owner usage).canisterAbsoluteUsage[key]? =
      if key = (usage.canisterId, currentMonth) then some (mapCanisterUsageData usage)
      else s.canisterAbsoluteUsage[key]? := by
  exact getElem?_insert_entry

/-- What a report adds to the row of its canister. -/
def usageGained (currentMonth prevMonth : BillingMonth) (usage : Dto.CanisterUsage)
    (s : UsageState) : Usage :=
  calculateUsageDelta (mapCanisterUsageData usage)
    (s.previousAbsoluteUsage usage.canisterId currentMonth prevMonth)

/-- Lookups in the canister rows after a canister's update. -/
theorem row_upsertCanisterUsage
    (currentMonth prevMonth : BillingMonth)
    (owner : ProjectId)
    (usage : Dto.CanisterUsage)
    (s : UsageState)
    (key : (ProjectId × BillingMonth) × Principal) :
    (s.upsertCanisterUsage currentMonth prevMonth owner usage).canisterUsage[key]? =
      if key = ((owner, currentMonth), usage.canisterId) then
        some (addUsage (s.canisterUsage[key]?.getD .default)
          (usageGained currentMonth prevMonth usage s))
      else s.canisterUsage[key]? := by
  refine getElem?_insert_entry.trans ?_
  by_cases same : key = ((owner, currentMonth), usage.canisterId)
  · rw [if_pos same, if_pos same, same]
    rfl
  · rw [if_neg same, if_neg same]

/-- Reports about other canisters leave a canister's counters and rows alone. -/
theorem Metered.upsert_other
    {previous : Option (UInt64 × Usage)}
    {s : UsageState}
    (metered : Metered canisterId projectId field previous s)
    {usage : Dto.CanisterUsage}
    (other : usage.canisterId ≠ canisterId)
    (currentMonth prevMonth : BillingMonth)
    (owner : ProjectId) :
    Metered canisterId projectId field previous
        (s.upsertCanisterUsage currentMonth prevMonth owner usage) ∧
      billedUsage (s.upsertCanisterUsage currentMonth prevMonth owner usage) projectId
          canisterId field =
        billedUsage s projectId canisterId field := by
  have absolute (month : BillingMonth) :
      (s.upsertCanisterUsage currentMonth prevMonth owner
          usage).canisterAbsoluteUsage[(canisterId, month)]? =
        s.canisterAbsoluteUsage[(canisterId, month)]? := by
    rw [absolute_upsertCanisterUsage, if_neg]
    intro same
    exact other (Prod.mk.inj same).1.symm
  have rows (month : BillingMonth) :
      (s.upsertCanisterUsage currentMonth prevMonth owner
          usage).canisterUsage[((projectId, month), canisterId)]? =
        s.canisterUsage[((projectId, month), canisterId)]? := by
    rw [row_upsertCanisterUsage, if_neg]
    intro same
    exact other (Prod.mk.inj same).2.symm
  refine ⟨⟨?_, ?_, ?_⟩, ?_⟩
  · intro counters last
    rw [absolute]
    exact metered.latest counters last
  · intro month usage present
    rw [absolute] at present
    exact metered.past month usage present
  · intro month
    rw [absolute, rows]
    exact metered.row month
  · apply total_insert_of_weightless
    intro content
    simp [rowWeight, other]

/-- A row never exceeds what the next report of its month is compared with. -/
theorem Metered.row_le_previousAbsoluteUsage
    {previous : Option (UInt64 × Usage)}
    {s : UsageState}
    (metered : Metered canisterId projectId field previous s)
    (currentMonth prevMonth : BillingMonth) :
    ((s.canisterUsage[((projectId, currentMonth), canisterId)]?.getD .default).get field).toNat ≤
      ((s.previousAbsoluteUsage canisterId currentMonth prevMonth).get field).toNat := by
  have bound := metered.row currentMonth
  unfold UsageState.previousAbsoluteUsage
  cases present : s.canisterAbsoluteUsage[(canisterId, currentMonth)]? with
  | none =>
      rw [present] at bound
      have nothing : (Usage.default.get field).toNat = 0 := by simp
      simp only [Option.getD_none] at bound ⊢
      omega
  | some usage =>
      rw [present] at bound
      exact bound

/-- A report gains what its counter is above the baseline. -/
theorem Metered.usageGained_eq
    {previous : Option (UInt64 × Usage)}
    {s : UsageState}
    {usage : Dto.CanisterUsage}
    (metered : Metered usage.canisterId projectId field previous s)
    {now : UInt64}
    (ordered : ∀ earlier, previous = some earlier → earlier.1 ≤ now) :
    ((usageGained (billingMonthAt now) (previousBillingMonthAt now) usage s).get field).toNat =
      counterValue field (now, mapCanisterUsageData usage) -
        baseline (counterValue field) Bridged previous
          (now, mapCanisterUsageData usage) := by
  have compared :=
    metered.previousAbsoluteUsage (now, mapCanisterUsageData usage) ordered
  unfold usageGained calculateUsageDelta
  rw [Usage.get_combine, toNat_saturatingSub, compared]
  rfl

/-- The row and the gain together stay below the counter, so nothing saturates. -/
theorem Metered.addUsage_usageGained
    {previous : Option (UInt64 × Usage)}
    {s : UsageState}
    {usage : Dto.CanisterUsage}
    (metered : Metered usage.canisterId projectId field previous s)
    {now : UInt64}
    (ordered : ∀ earlier, previous = some earlier → earlier.1 ≤ now)
    (notBelow :
      valueOf (counterValue field) previous ≤
        counterValue field (now, mapCanisterUsageData usage))
    (row : Usage)
    (stored :
      s.canisterUsage[((projectId, billingMonthAt now), usage.canisterId)]?.getD .default = row) :
    ((addUsage row
          (usageGained (billingMonthAt now) (previousBillingMonthAt now) usage s)).get
        field).toNat =
      (row.get field).toNat +
        (counterValue field (now, mapCanisterUsageData usage) -
          baseline (counterValue field) Bridged previous
            (now, mapCanisterUsageData usage)) ∧
      (row.get field).toNat +
          (counterValue field (now, mapCanisterUsageData usage) -
            baseline (counterValue field) Bridged previous
              (now, mapCanisterUsageData usage)) ≤
        ((mapCanisterUsageData usage).get field).toNat := by
  subst stored
  have compared :=
    metered.previousAbsoluteUsage (now, mapCanisterUsageData usage) ordered
  have rowBound := metered.row_le_previousAbsoluteUsage (billingMonthAt now)
    (previousBillingMonthAt now)
  rw [compared] at rowBound
  have baseBound := baseline_le (counterValue field) Bridged previous
    (now, mapCanisterUsageData usage)
  have wide := ((mapCanisterUsageData usage).get field).toNat_lt
  have current : counterValue field (now, mapCanisterUsageData usage) =
    ((mapCanisterUsageData usage).get field).toNat := rfl
  unfold addUsage
  rw [Usage.get_combine, toNat_saturatingAdd, metered.usageGained_eq ordered]
  omega

/-- What is billed to a canister changes by what its row does. -/
theorem billedUsage_upsertCanisterUsage
    (projectId : ProjectId)
    (field : UsageField)
    (currentMonth prevMonth : BillingMonth)
    (usage : Dto.CanisterUsage)
    (s : UsageState) :
    billedUsage (s.upsertCanisterUsage currentMonth prevMonth projectId usage) projectId
          usage.canisterId field +
        ((s.canisterUsage[((projectId, currentMonth), usage.canisterId)]?.getD
          .default).get field).toNat =
      billedUsage s projectId usage.canisterId field +
        ((addUsage
          (s.canisterUsage[((projectId, currentMonth), usage.canisterId)]?.getD .default)
          (usageGained currentMonth prevMonth usage s)).get field).toNat := by
  have inserted :=
    total_insert (rowWeight projectId usage.canisterId field) s.canisterUsage
      ((projectId, currentMonth), usage.canisterId)
      (addUsage
        (s.canisterUsage[((projectId, currentMonth), usage.canisterId)]?.getD .default)
        (usageGained currentMonth prevMonth usage s))
  have old :
      weightAt (rowWeight projectId usage.canisterId field) s.canisterUsage
          ((projectId, currentMonth), usage.canisterId) =
        ((s.canisterUsage[((projectId, currentMonth), usage.canisterId)]?.getD
          .default).get field).toNat := by
    unfold weightAt
    cases s.canisterUsage[((projectId, currentMonth), usage.canisterId)]? <;>
      simp [rowWeight]
  have new (content : Usage) :
      rowWeight projectId usage.canisterId field
          ((projectId, currentMonth), usage.canisterId) content =
        (content.get field).toNat :=
    if_pos ⟨rfl, rfl⟩
  rw [old, new] at inserted
  exact inserted

/-- A report about the canister itself is billed with its gain. -/
theorem Metered.upsert_own
    {previous : Option (UInt64 × Usage)}
    {s : UsageState}
    (metered : Metered canisterId projectId field previous s)
    {usage : Dto.CanisterUsage}
    (now : UInt64)
    (own : usage.canisterId = canisterId)
    (ordered : ∀ earlier, previous = some earlier → earlier.1 ≤ now)
    (notBelow :
      valueOf (counterValue field) previous ≤
        counterValue field (now, mapCanisterUsageData usage)) :
    Metered canisterId projectId field (some (now, mapCanisterUsageData usage))
        (s.upsertCanisterUsage (billingMonthAt now) (previousBillingMonthAt now) projectId
          usage) ∧
      billedUsage
          (s.upsertCanisterUsage (billingMonthAt now) (previousBillingMonthAt now) projectId
            usage)
          projectId canisterId field =
        billedUsage s projectId canisterId field +
          (counterValue field (now, mapCanisterUsageData usage) -
            baseline (counterValue field) Bridged previous
              (now, mapCanisterUsageData usage)) := by
  subst own
  obtain ⟨grown, bounded⟩ := metered.addUsage_usageGained ordered notBelow _ rfl
  refine ⟨⟨?_, ?_, ?_⟩, ?_⟩
  · intro counters last
    cases last
    rw [absolute_upsertCanisterUsage, if_pos rfl]
  · intro month stored present
    refine ⟨_, rfl, ?_⟩
    rw [absolute_upsertCanisterUsage] at present
    by_cases same : (usage.canisterId, month) = (usage.canisterId, billingMonthAt now)
    · exact ⟨now, UInt64.le_refl now, (Prod.mk.inj same).2⟩
    · rw [if_neg same] at present
      obtain ⟨earlier, last, time, before, named⟩ := metered.past month stored present
      exact ⟨time, UInt64.le_trans before (ordered earlier last), named⟩
  · intro month
    rw [absolute_upsertCanisterUsage, row_upsertCanisterUsage]
    by_cases same : month = billingMonthAt now
    · subst same
      rw [if_pos rfl, if_pos rfl, Option.getD_some, Option.getD_some, grown]
      exact bounded
    · rw [if_neg (by simpa using same), if_neg (by simpa using same)]
      exact metered.row month
  · have billed :=
      billedUsage_upsertCanisterUsage projectId field (billingMonthAt now)
        (previousBillingMonthAt now) usage s
    rw [grown] at billed
    omega

end Steps

section Runs

variable {canisterId : Principal}
variable {projectId : ProjectId}
variable {field : UsageField}

/-- The effect of one usage of a report. -/
def upsertEntry (s : UsageState) (entry : UsageReport × Dto.CanisterUsage) : UsageState :=
  s.upsertReported entry.1.canisters (billingMonthAt entry.1.now)
    (previousBillingMonthAt entry.1.now) entry.2

/-- The usage of a canister that a project has updates the row of that project. -/
theorem upsertEntry_of_tracked
    {report : UsageReport}
    {usage : Dto.CanisterUsage}
    {owner : ProjectId}
    (tracked : report.canisters.projectOfPrincipal usage.canisterId = some owner)
    (s : UsageState) :
    upsertEntry s (report, usage) =
      s.upsertCanisterUsage (billingMonthAt report.now) (previousBillingMonthAt report.now) owner
        usage := by
  unfold upsertEntry UsageState.upsertReported
  rw [tracked]

/-- The usage of a canister that no project has is passed over. -/
theorem upsertEntry_of_untracked
    {report : UsageReport}
    {usage : Dto.CanisterUsage}
    (untracked : report.canisters.projectOfPrincipal usage.canisterId = none)
    (s : UsageState) :
    upsertEntry s (report, usage) = s := by
  unfold upsertEntry UsageState.upsertReported
  rw [untracked]

/-- A list of reports has the effect of its usages, one by one. -/
theorem runEvents_recordUsage
    (reports : List UsageReport)
    (s : UsageState) :
    runEvents recordUsage s reports = some ((usageEntries reports).foldl upsertEntry s) := by
  induction reports generalizing s with
  | nil =>
      rfl
  | cons report rest inductionHypothesis =>
      have first :
          report.usages.foldl
              (UsageState.upsertReported report.canisters (billingMonthAt report.now)
                (previousBillingMonthAt report.now)) s =
            (report.usages.map fun usage => (report, usage)).foldl upsertEntry s := by
        rw [List.foldl_map]
        rfl
      rw [runEvents, recordUsage_eq, Option.bind_some, inductionHypothesis, first,
        usageEntries, usageEntries, List.flatMap_cons, List.foldl_append]

/-- Over any usages, a tracked canister is billed with the gains of its counters. -/
theorem Metered.foldl_upsertEntry
    {previous : Option (UInt64 × Usage)}
    {s : UsageState}
    {entries : List (UsageReport × Dto.CanisterUsage)}
    (metered : Metered canisterId projectId field previous s)
    (tracked :
      ∀ entry ∈ entries, entry.2.canisterId = canisterId →
        entry.1.canisters.projectOfPrincipal canisterId = some projectId)
    (ordered :
      (previous.toList ++ countersIn canisterId entries).Pairwise fun early late =>
        early.1 ≤ late.1 ∧ counterValue field early ≤ counterValue field late) :
    billedUsage (entries.foldl upsertEntry s) projectId canisterId field =
      billedUsage s projectId canisterId field +
        counted (counterValue field) Bridged previous (countersIn canisterId entries) := by
  induction entries generalizing previous s with
  | nil =>
      simp [countersIn, counted]
  | cons entry rest inductionHypothesis =>
      obtain ⟨report, usage⟩ := entry
      have restTracked :
          ∀ entry ∈ rest, entry.2.canisterId = canisterId →
            entry.1.canisters.projectOfPrincipal canisterId = some projectId :=
        fun other member => tracked other (by simp [member])
      rw [List.foldl_cons]
      by_cases own : usage.canisterId = canisterId
      · have owner : report.canisters.projectOfPrincipal usage.canisterId = some projectId := by
          rw [own]
          exact tracked (report, usage) (by simp) own
        have listed : countersIn canisterId ((report, usage) :: rest) =
            (report.now, mapCanisterUsageData usage) :: countersIn canisterId rest := by
          simp [countersIn, own]
        rw [listed] at ordered ⊢
        obtain ⟨_, restOrdered, across⟩ := List.pairwise_append.mp ordered
        have before (earlier : UInt64 × Usage) (last : previous = some earlier) :=
          across earlier (by simp [last]) (report.now, mapCanisterUsageData usage) (by simp)
        have notBelow :
            valueOf (counterValue field) previous ≤
              counterValue field (report.now, mapCanisterUsageData usage) := by
          cases previous with
          | none =>
              exact Nat.zero_le _
          | some earlier =>
              exact (before earlier rfl).2
        obtain ⟨next, billed⟩ := metered.upsert_own report.now own
          (fun earlier last => (before earlier last).1) notBelow
        rw [upsertEntry_of_tracked owner, inductionHypothesis next restTracked restOrdered, billed,
          counted, Nat.add_assoc]
      · have listed : countersIn canisterId ((report, usage) :: rest) =
            countersIn canisterId rest := by
          simp [countersIn, own]
        rw [listed] at ordered ⊢
        cases owner : report.canisters.projectOfPrincipal usage.canisterId with
        | none =>
            rw [upsertEntry_of_untracked owner]
            exact inductionHypothesis metered restTracked ordered
        | some other =>
            obtain ⟨next, billed⟩ := metered.upsert_other own (billingMonthAt report.now)
              (previousBillingMonthAt report.now) other
            rw [upsertEntry_of_tracked owner, inductionHypothesis next restTracked ordered, billed]

/--
The rows of a tracked canister add up to its last counters exactly when every
report finds the counters of the report before it, or nothing was used by then.
-/
theorem billedUsage_eq_lastCounter_iff_of_reports
    {reports : List UsageReport}
    {final : UsageState}
    (ran : runEvents recordUsage UsageState.empty reports = some final)
    (tracked :
      ∀ report ∈ reports, ∀ usage ∈ report.usages, usage.canisterId = canisterId →
        report.canisters.projectOfPrincipal canisterId = some projectId)
    (ordered :
      (countersOf canisterId reports).Pairwise fun early late =>
        early.1 ≤ late.1 ∧ ∀ field, early.2.get field ≤ late.2.get field) :
    billedUsage final projectId canisterId field =
        lastCounter field (countersOf canisterId reports) ↔
      (countersOf canisterId reports).IsChain fun early late =>
        billingMonthAt early.1 = billingMonthAt late.1 ∨
          billingMonthAt early.1 = previousBillingMonthAt late.1 ∨
          early.2.get field = 0 := by
  rw [runEvents_recordUsage, Option.some_inj] at ran
  have fieldOrdered :
      (countersOf canisterId reports).Pairwise fun early late =>
        early.1 ≤ late.1 ∧ counterValue field early ≤ counterValue field late :=
    ordered.imp fun both => ⟨both.1, both.2 field⟩
  have entriesTracked :
      ∀ entry ∈ usageEntries reports, entry.2.canisterId = canisterId →
        entry.1.canisters.projectOfPrincipal canisterId = some projectId := by
    intro entry member own
    obtain ⟨report, reported, inReport⟩ := List.mem_flatMap.mp member
    obtain ⟨usage, used, rfl⟩ := List.mem_map.mp inReport
    exact tracked report reported usage used own
  have billed := metered_empty.foldl_upsertEntry entriesTracked fieldOrdered
  have unbilled : billedUsage UsageState.empty projectId canisterId field = 0 :=
    total_empty _
  rw [ran, unbilled, Nat.zero_add] at billed
  have telescoped := counted_eq_last_iff (counterValue field) Bridged
    (fieldOrdered.imp And.right)
  rw [valueOf_lastReading] at telescoped
  have sameSteps (early late : UInt64 × Usage) :
      (Bridged early late ∨ counterValue field early = 0) ↔
        billingMonthAt early.1 = billingMonthAt late.1 ∨
          billingMonthAt early.1 = previousBillingMonthAt late.1 ∨
          early.2.get field = 0 := by
    unfold Bridged counterValue
    rw [or_assoc, ← UInt64.toNat_inj, UInt64.toNat_zero]
  rw [billed]
  simp only [sameSteps] at telescoped
  exact telescoped

end Runs

section RolledOver

/-- A canister of one project. -/
def meteredCanister : Principal :=
  ⟨[7], by decide⟩

/-- The records of a backend with one canister. -/
def meteredCanisters : CanisterState :=
  CanisterState.empty.createCanister ⟨2⟩ ⟨1⟩
    { principal := meteredCanister, name := none, deletedAt := none }

/-- A report of the cycles that the canister has burned so far. -/
def burnedReport (now burnedCycles : UInt64) : UsageReport where
  canisters := meteredCanisters
  now := now
  usages := [{ Usage.default with canisterId := meteredCanister, burnedCycles := burnedCycles }]

/-- Reports of three consecutive months, from January to March 2024. -/
def monthlyReports : List UsageReport :=
  [burnedReport 1705276800000000000 1500000000000,
    burnedReport 1707955200000000000 1500000000000,
    burnedReport 1710460800000000000 1500000000500]

/-- Over consecutive months, the rows add up to the last counters. -/
theorem billedUsage_monthlyReports :
    ∃ final, runEvents recordUsage UsageState.empty monthlyReports = some final ∧
      billedUsage final ⟨1⟩ meteredCanister .burnedCycles =
        lastCounter .burnedCycles (countersOf meteredCanister monthlyReports) := by
  obtain ⟨final, ran⟩ :=
    Option.isSome_iff_exists.mp
      (by decide +kernel :
        (runEvents recordUsage UsageState.empty monthlyReports).isSome = true)
  refine ⟨final, ran, ?_⟩
  apply (billedUsage_eq_lastCounter_iff_of_reports ran ?_ ?_).mpr
  · decide +kernel
  · decide +kernel
  · decide +kernel

/-- Reports in January and March 2024, and none in between. -/
def reportsWithoutFebruary : List UsageReport :=
  [burnedReport 1705276800000000000 1500000000000,
    burnedReport 1710460800000000000 1500000000500]

/-- After a month without a report, what was billed before it is billed again. -/
theorem reportsWithoutFebruary_billed_twice :
    ∃ final, runEvents recordUsage UsageState.empty reportsWithoutFebruary = some final ∧
      (∀ report ∈ reportsWithoutFebruary, ∀ usage ∈ report.usages,
        usage.canisterId = meteredCanister →
          report.canisters.projectOfPrincipal meteredCanister = some ⟨1⟩) ∧
      ((countersOf meteredCanister reportsWithoutFebruary).Pairwise fun early late =>
        early.1 ≤ late.1 ∧ ∀ field, early.2.get field ≤ late.2.get field) ∧
      lastCounter .burnedCycles (countersOf meteredCanister reportsWithoutFebruary) =
        1500000000500 ∧
      billedUsage final ⟨1⟩ meteredCanister .burnedCycles = 3000000000500 := by
  refine ⟨_, runEvents_recordUsage reportsWithoutFebruary UsageState.empty, ?_⟩
  decide +kernel

end RolledOver

end SsnConsole.Backend
