import SsnConsole.MessageRun
import SsnConsole.StableTotals
import SsnConsole.UsageStores

/-!
# The usage of a project and the usages of its canisters

Every upsert adds one gain to the row of a project and to the row of one of
its canisters.  Both saturate, yet a project's row stays the saturated sum of
its canisters' rows.
-/

namespace SsnConsole.Backend

open Std
open SsnConsole.MessageRun
open SsnConsole.StableIndex
open SsnConsole.StableTotals

section Steps

variable {projectId : ProjectId}
variable {billingMonth : BillingMonth}
variable {field : UsageField}

/-- What a canister row counts for towards a month of a project. -/
def monthWeight (projectId : ProjectId) (billingMonth : BillingMonth) (field : UsageField)
    (row : (ProjectId × BillingMonth) × Principal) (usage : Usage) : Nat :=
  if row.1 = (projectId, billingMonth) then (usage.get field).toNat else 0

/-- The sum of a field over the canister rows of a month of a project. -/
def canisterTotal (s : UsageState) (projectId : ProjectId) (billingMonth : BillingMonth)
    (field : UsageField) : Nat :=
  ((s.listCanisterUsagesForProject projectId billingMonth).map
    fun entry => (entry.2.get field).toNat).sum

/-- The listed rows of a month are those with its weight. -/
theorem canisterTotal_eq_total
    (s : UsageState) :
    canisterTotal s projectId billingMonth field =
      total (monthWeight projectId billingMonth field) s.canisterUsage := by
  exact sum_prefixEntries (fun usage => (usage.get field).toNat) s.canisterUsage
    (projectId, billingMonth)

/-- A project's row in a month is the saturated sum of its canisters' rows. -/
def ProjectTotal (s : UsageState) (projectId : ProjectId) (billingMonth : BillingMonth)
    (field : UsageField) : Prop :=
  ((s.getProjectUsage projectId billingMonth).get field).toNat =
    min (2 ^ 64 - 1) (canisterTotal s projectId billingMonth field)

/-- An empty store has nothing to add up. -/
theorem projectTotal_empty :
    ProjectTotal .empty projectId billingMonth field := by
  have nothing : canisterTotal .empty projectId billingMonth field = 0 := by
    rw [canisterTotal_eq_total]
    exact total_empty _
  unfold ProjectTotal
  rw [nothing]
  simp [UsageState.getProjectUsage, UsageState.empty]

/-- A gain that both rows take up, each as far as it can, keeps the saturated sum. -/
theorem min_add_gain
    {limit projectRow canisterRow newCanisterRow sum newSum gain : Nat}
    (project : projectRow = min limit sum)
    (canister : newCanisterRow = min (canisterRow + gain) limit)
    (replaced : newSum + canisterRow = sum + newCanisterRow)
    (within : canisterRow ≤ sum) :
    min (projectRow + gain) limit = min limit newSum := by
  omega

/-- The update of one canister adds what it gained to its project's month, and to no other. -/
theorem getProjectUsage_upsertCanisterUsage
    (s : UsageState)
    (currentMonth prevMonth : BillingMonth)
    (owner : ProjectId)
    (usage : Dto.CanisterUsage)
    (projectId : ProjectId)
    (billingMonth : BillingMonth) :
    (s.upsertCanisterUsage currentMonth prevMonth owner usage).getProjectUsage projectId
        billingMonth =
      if (projectId, billingMonth) = (owner, currentMonth) then
        addUsage (s.getProjectUsage owner currentMonth)
          (calculateUsageDelta (mapCanisterUsageData usage)
            (s.previousAbsoluteUsage usage.canisterId currentMonth prevMonth))
      else
        s.getProjectUsage projectId billingMonth := by
  have lookup :
      (s.upsertCanisterUsage currentMonth prevMonth owner usage).projectUsage[
          (projectId, billingMonth)]? = _ :=
    getElem?_insert_entry
  unfold UsageState.getProjectUsage
  rw [lookup]
  by_cases same : (projectId, billingMonth) = (owner, currentMonth)
  · rw [if_pos same, if_pos same]
    rfl
  · rw [if_neg same, if_neg same]

/-- The update of one canister of any project keeps every project's total. -/
theorem ProjectTotal.upsertCanisterUsage
    {s : UsageState}
    (holds : ProjectTotal s projectId billingMonth field)
    (currentMonth prevMonth : BillingMonth)
    (owner : ProjectId)
    (usage : Dto.CanisterUsage) :
    ProjectTotal (s.upsertCanisterUsage currentMonth prevMonth owner usage) projectId
      billingMonth field := by
  let delta :=
    calculateUsageDelta (mapCanisterUsageData usage)
      (s.previousAbsoluteUsage usage.canisterId currentMonth prevMonth)
  let former := s.canisterUsage[((owner, currentMonth), usage.canisterId)]?.getD .default
  have rows : (s.upsertCanisterUsage currentMonth prevMonth owner usage).canisterUsage =
      s.canisterUsage.insert ((owner, currentMonth), usage.canisterId)
        (addUsage former delta) := rfl
  have projects :=
    getProjectUsage_upsertCanisterUsage s currentMonth prevMonth owner usage projectId billingMonth
  unfold ProjectTotal at holds ⊢
  rw [canisterTotal_eq_total] at holds ⊢
  rw [projects, rows]
  by_cases same : (projectId, billingMonth) = (owner, currentMonth)
  · obtain ⟨rfl, rfl⟩ := Prod.mk.inj same
    rw [if_pos rfl]
    have replaced :=
      total_insert (monthWeight projectId billingMonth field) s.canisterUsage
        ((projectId, billingMonth), usage.canisterId) (addUsage former delta)
    have within :=
      weightAt_le_total (monthWeight projectId billingMonth field) s.canisterUsage
        ((projectId, billingMonth), usage.canisterId)
    have formerWeight :
        weightAt (monthWeight projectId billingMonth field) s.canisterUsage
            ((projectId, billingMonth), usage.canisterId) =
          (former.get field).toNat := by
      unfold former weightAt
      cases s.canisterUsage[((projectId, billingMonth), usage.canisterId)]? <;>
        simp [monthWeight]
    have newWeight :
        monthWeight projectId billingMonth field
            ((projectId, billingMonth), usage.canisterId) (addUsage former delta) =
          min ((former.get field).toNat + (delta.get field).toNat) (2 ^ 64 - 1) := by
      simp [monthWeight, addUsage]
    have projectRow :
        ((addUsage (s.getProjectUsage projectId billingMonth) delta).get field).toNat =
          min (((s.getProjectUsage projectId billingMonth).get field).toNat +
            (delta.get field).toNat) (2 ^ 64 - 1) := by
      simp [addUsage]
    rw [formerWeight] at replaced within
    rw [projectRow]
    exact min_add_gain holds newWeight replaced within
  · rw [if_neg same, holds]
    congr 1
    symm
    apply total_insert_of_weightless
    intro content
    unfold monthWeight
    rw [if_neg (fun matched => same matched.symm)]

/-- The usages of a call keep every project's total, whatever they report. -/
theorem ProjectTotal.foldl_upsertReported
    {s : UsageState}
    (holds : ProjectTotal s projectId billingMonth field)
    (canisters : CanisterState)
    (currentMonth prevMonth : BillingMonth)
    (usages : List Dto.CanisterUsage) :
    ProjectTotal
      (usages.foldl (UsageState.upsertReported canisters currentMonth prevMonth) s) projectId
      billingMonth field := by
  induction usages generalizing s with
  | nil =>
      exact holds
  | cons usage rest inductionHypothesis =>
      rw [List.foldl_cons]
      apply inductionHypothesis
      unfold UsageState.upsertReported
      cases canisters.projectOfPrincipal usage.canisterId with
      | none =>
          exact holds
      | some owner =>
          exact holds.upsertCanisterUsage currentMonth prevMonth owner usage

end Steps

/-- A call of `upsert_canister_usages`, with the canister records that it meets. -/
structure UpsertCall where
  canisters : CanisterState
  billingMonth : List Char
  usages : List Dto.CanisterUsage

/-- One call; a call that traps leaves no successor. -/
def UsageState.upsertStep (s : UsageState) (call : UpsertCall) : Option UsageState :=
  s.upsertCanisterUsages call.canisters call.billingMonth call.usages

/-- A call keeps every project's total. -/
theorem ProjectTotal.upsertStep
    {projectId : ProjectId}
    {billingMonth : BillingMonth}
    {field : UsageField}
    {before after : UsageState}
    {call : UpsertCall}
    (holds : ProjectTotal before projectId billingMonth field)
    (stepped : before.upsertStep call = some after) :
    ProjectTotal after projectId billingMonth field := by
  unfold UsageState.upsertStep UsageState.upsertCanisterUsages at stepped
  split at stepped
  · cases stepped
    exact holds.foldl_upsertReported _ _ _ _
  · cases stepped

/--
After any calls, a project's usage in a month is the saturated sum of what its
canisters used, field by field.
-/
theorem projectUsage_eq_of_reachable
    {s : UsageState}
    (reachable :
      Reachable UsageState.upsertStep (fun _ _ => True) UsageState.empty s)
    (projectId : ProjectId)
    (billingMonth : BillingMonth)
    (field : UsageField) :
    ((s.getProjectUsage projectId billingMonth).get field).toNat =
      min (2 ^ 64 - 1)
        ((s.listCanisterUsagesForProject projectId billingMonth).map
          fun entry => (entry.2.get field).toNat).sum := by
  have invariant : ProjectTotal s projectId billingMonth field := by
    apply reachable.invariant
    · exact projectTotal_empty
    · intro before call after _ holds _ stepped
      exact holds.upsertStep stepped
  exact invariant

section SharedMonth

/-- Two canisters of one project. -/
def sharedCanisters : List Principal :=
  [⟨[5], by decide⟩, ⟨[6], by decide⟩]

/-- The records of a backend with both canisters. -/
def sharedCanisterRecords : CanisterState :=
  (CanisterState.empty.createCanister ⟨2⟩ ⟨1⟩
    { principal := ⟨[5], by decide⟩, name := none, deletedAt := none }).createCanister ⟨3⟩ ⟨1⟩
    { principal := ⟨[6], by decide⟩, name := none, deletedAt := none }

/-- Both canisters report cycles near the largest counter, then one counter goes down. -/
def sharedMonthCalls : List UpsertCall :=
  [{ canisters := sharedCanisterRecords
     billingMonth := "2024-01".toList
     usages := sharedCanisters.map fun canisterId =>
       { Usage.default with canisterId := canisterId, burnedCycles := 10000000000000000000 } },
    { canisters := sharedCanisterRecords
      billingMonth := "2024-01".toList
      usages :=
        [{ Usage.default with canisterId := ⟨[5], by decide⟩, burnedCycles := 5 },
          { Usage.default with canisterId := ⟨[5], by decide⟩, burnedCycles := 9 },
          { Usage.default with canisterId := ⟨[9], by decide⟩, burnedCycles := 1 }] }]

/-- The project's row saturates while its canisters' rows do not. -/
theorem projectUsage_sharedMonth :
    ∃ s, runEvents UsageState.upsertStep UsageState.empty sharedMonthCalls = some s ∧
      ((s.getProjectUsage ⟨1⟩ ⟨"2024-01".toList⟩).get .burnedCycles).toNat =
        min (2 ^ 64 - 1)
          ((s.listCanisterUsagesForProject ⟨1⟩ ⟨"2024-01".toList⟩).map
            fun entry => (entry.2.get .burnedCycles).toNat).sum := by
  obtain ⟨s, ran⟩ :=
    Option.isSome_iff_exists.mp
      (by decide +kernel :
        (runEvents UsageState.upsertStep UsageState.empty sharedMonthCalls).isSome = true)
  have reachable :
      Reachable UsageState.upsertStep (fun _ _ => True) UsageState.empty s :=
    .runEvents .initial (fun _ _ _ => trivial) ran
  exact ⟨s, ran, projectUsage_eq_of_reachable reachable _ _ _⟩

end SharedMonth

end SsnConsole.Backend
