import SsnConsole.CanisterStores
import SsnConsole.PeriodWalk

/-!
# Billing months and the usage store

The `usage_repository` of the backend and the clock that names its billing
months.  A report carries lifetime counters; the store turns it into what was
used since the last report and adds that to the rows of the billing month.
-/

namespace SsnConsole.Backend

open Std
open SsnConsole.StableIndex
open SsnConsole.PeriodWalk

/-- `str::len`: a length in bytes. -/
def strLen (text : List Char) : Nat :=
  (text.map Char.utf8Size).sum

/-- `is_leap_year`. -/
def isLeapYear (year : Nat) : Bool :=
  (year % 4 == 0 && !(year % 100 == 0)) || year % 400 == 0

def daysInYear (year : Nat) : Nat :=
  if isLeapYear year then 366 else 365

/-- The entry of `days_in_month` for a month from 1 to 12. -/
def daysInMonth (year month : Nat) : Nat :=
  [31, if isLeapYear year then 29 else 28, 31, 30, 31, 30, 31, 31, 30, 31, 30, 31].getD
    (month - 1) 0

/-- `get_current_year`: the year of a day and the days since its start. -/
def getCurrentYear (daysSinceEpoch : Nat) : Nat × Nat :=
  -- Every year is longer than a day, so the loop ends within these rounds.
  locate daysInYear (daysSinceEpoch + 1) 1970 daysSinceEpoch

/-- `get_current_month`. -/
def getCurrentMonth (currentYear daysSinceYearStart : Nat) : Nat :=
  (locate (daysInMonth currentYear) 12 1 daysSinceYearStart).1

/-- `{:0width}` of a number. -/
def zeroPadded (width number : Nat) : List Char :=
  List.leftpad width '0' (Nat.toDigits 10 number)

/-- `format!("{:04}-{:02}")`. -/
def yearMonthText (year month : Nat) : List Char :=
  zeroPadded 4 year ++ '-' :: zeroPadded 2 month

/-- The calendar year and month of a time in nanoseconds. -/
def yearMonthAt (now : UInt64) : Nat × Nat :=
  let nowSecs := now.toNat / 1000000000
  let (currentYear, daysSinceYearStart) := getCurrentYear (nowSecs / 86400)
  (currentYear, getCurrentMonth currentYear daysSinceYearStart)

/-- `get_current_billing_month`. -/
def getCurrentBillingMonth (now : UInt64) : List Char :=
  yearMonthText (yearMonthAt now).1 (yearMonthAt now).2

/-- A number's text without the plus sign that `str::parse` accepts. -/
def withoutPlus : List Char → List Char
  | '+' :: rest => rest
  | text => text

/-- `str::parse` of an unsigned integer below `bound`. -/
def parseUnsigned (bound : Nat) (text : List Char) : Option Nat :=
  let digits := withoutPlus text
  let number := Nat.ofDigitChars 10 digits 0
  if digits ≠ [] ∧ digits.all Char.isDigit ∧ number < bound then some number else none

/-- `BillingMonth`: a date in the form YYYY-MM. -/
structure BillingMonth where
  text : List Char
  deriving DecidableEq

namespace BillingMonth

instance : Ord BillingMonth :=
  ⟨fun first second => compare first.text second.text⟩

instance : TransOrd BillingMonth :=
  inferInstanceAs (TransCmp (compareOn BillingMonth.text))

instance : LawfulEqOrd BillingMonth where
  eq_of_compare := by
    rintro ⟨first⟩ ⟨second⟩ equal
    have sameText : compare first second = Ordering.eq := equal
    rw [LawfulEqOrd.eq_of_compare sameText]

/-- `validate`. -/
def validate (text : List Char) : ApiResult Unit :=
  if strLen text ≠ 7 then
    .error (.clientError "billing_month must be 7 characters")
  else
    match text.splitOn '-' with
    | [year, month] =>
        if strLen year ≠ 4 ∨ strLen month ≠ 2 then
          .error (.clientError "billing_month must be in YYYY-MM format")
        else if !year.all Char.isDigit || !month.all Char.isDigit then
          .error (.clientError "billing_month must be in YYYY-MM format")
        else
          let number := (parseUnsigned (2 ^ 8) month).getD 0
          if 1 ≤ number ∧ number ≤ 12 then
            .ok ()
          else
            .error (.clientError "month must be between 01 and 12")
    | _ => .error (.clientError "billing_month must be in YYYY-MM format")

/-- `try_new`. -/
def tryNew (text : List Char) : ApiResult BillingMonth :=
  (validate text).map fun _ => ⟨text⟩

end BillingMonth

/-- `get_previous_billing_month`. -/
def getPreviousBillingMonth (billingMonth : List Char) : List Char :=
  let parts := billingMonth.splitOn '-'
  let year := (parseUnsigned (2 ^ 32) (parts[0]?.getD ['0'])).getD 0
  let month := (parseUnsigned (2 ^ 32) (parts[1]?.getD ['0'])).getD 0
  -- Subtraction on `u32` wraps; the text is then too long to be a month.
  if month = 1 then
    yearMonthText ((year + 2 ^ 32 - 1) % 2 ^ 32) 12
  else
    yearMonthText year ((month + 2 ^ 32 - 1) % 2 ^ 32)

/-- `u64::saturating_add`. -/
def saturatingAdd (first second : UInt64) : UInt64 :=
  .ofNatLT (min (first.toNat + second.toNat) (2 ^ 64 - 1)) (by simp [UInt64.size])

/-- `u64::saturating_sub`. -/
def saturatingSub (first second : UInt64) : UInt64 :=
  .ofNatLT (first.toNat - second.toNat) (by have := first.toNat_lt; simp [UInt64.size]; omega)

/-- A sum saturates at the largest value. -/
@[simp]
theorem toNat_saturatingAdd
    (first second : UInt64) :
    (saturatingAdd first second).toNat = min (first.toNat + second.toNat) (2 ^ 64 - 1) := by
  unfold saturatingAdd
  rw [UInt64.toNat_ofNatLT]

/-- A difference saturates at zero. -/
@[simp]
theorem toNat_saturatingSub
    (first second : UInt64) :
    (saturatingSub first second).toNat = first.toNat - second.toNat := by
  unfold saturatingSub
  rw [UInt64.toNat_ofNatLT]

/-- `Usage`: the counters of a canister, or what a project used in a month. -/
structure Usage where
  memory : UInt64
  memoryBytes : UInt64
  computeAllocation : UInt64
  computeAllocationPercent : UInt64
  ingressInduction : UInt64
  ingressInductionBytesTotal : UInt64
  instructions : UInt64
  computeTimeSecondsTotal : UInt64
  requestAndResponseTransmission : UInt64
  transmissionBytesTotal : UInt64
  uninstall : UInt64
  uninstallsTotal : UInt64
  httpOutcalls : UInt64
  burnedCycles : UInt64
  deriving DecidableEq

/-- The fields of `Usage`. -/
inductive UsageField
  | memory
  | memoryBytes
  | computeAllocation
  | computeAllocationPercent
  | ingressInduction
  | ingressInductionBytesTotal
  | instructions
  | computeTimeSecondsTotal
  | requestAndResponseTransmission
  | transmissionBytesTotal
  | uninstall
  | uninstallsTotal
  | httpOutcalls
  | burnedCycles
  deriving DecidableEq

instance : Fintype UsageField where
  elems :=
    {.memory, .memoryBytes, .computeAllocation, .computeAllocationPercent, .ingressInduction,
      .ingressInductionBytesTotal, .instructions, .computeTimeSecondsTotal,
      .requestAndResponseTransmission, .transmissionBytesTotal, .uninstall, .uninstallsTotal,
      .httpOutcalls, .burnedCycles}
  complete := by
    intro field
    cases field <;> decide

namespace Usage

/-- `Usage::default()`. -/
def default : Usage :=
  ⟨0, 0, 0, 0, 0, 0, 0, 0, 0, 0, 0, 0, 0, 0⟩

/-- The value of one field. -/
def get (usage : Usage) : UsageField → UInt64
  | .memory => usage.memory
  | .memoryBytes => usage.memoryBytes
  | .computeAllocation => usage.computeAllocation
  | .computeAllocationPercent => usage.computeAllocationPercent
  | .ingressInduction => usage.ingressInduction
  | .ingressInductionBytesTotal => usage.ingressInductionBytesTotal
  | .instructions => usage.instructions
  | .computeTimeSecondsTotal => usage.computeTimeSecondsTotal
  | .requestAndResponseTransmission => usage.requestAndResponseTransmission
  | .transmissionBytesTotal => usage.transmissionBytesTotal
  | .uninstall => usage.uninstall
  | .uninstallsTotal => usage.uninstallsTotal
  | .httpOutcalls => usage.httpOutcalls
  | .burnedCycles => usage.burnedCycles

/-- Combine two usages field by field. -/
def combine (operation : UInt64 → UInt64 → UInt64) (first second : Usage) : Usage where
  memory := operation first.memory second.memory
  memoryBytes := operation first.memoryBytes second.memoryBytes
  computeAllocation := operation first.computeAllocation second.computeAllocation
  computeAllocationPercent :=
    operation first.computeAllocationPercent second.computeAllocationPercent
  ingressInduction := operation first.ingressInduction second.ingressInduction
  ingressInductionBytesTotal :=
    operation first.ingressInductionBytesTotal second.ingressInductionBytesTotal
  instructions := operation first.instructions second.instructions
  computeTimeSecondsTotal :=
    operation first.computeTimeSecondsTotal second.computeTimeSecondsTotal
  requestAndResponseTransmission :=
    operation first.requestAndResponseTransmission second.requestAndResponseTransmission
  transmissionBytesTotal :=
    operation first.transmissionBytesTotal second.transmissionBytesTotal
  uninstall := operation first.uninstall second.uninstall
  uninstallsTotal := operation first.uninstallsTotal second.uninstallsTotal
  httpOutcalls := operation first.httpOutcalls second.httpOutcalls
  burnedCycles := operation first.burnedCycles second.burnedCycles

/-- No field is used by default. -/
@[simp]
theorem get_default
    (field : UsageField) :
    default.get field = 0 := by
  cases field <;> rfl

/-- Every field is combined with its own counterpart. -/
@[simp]
theorem get_combine
    (operation : UInt64 → UInt64 → UInt64)
    (first second : Usage)
    (field : UsageField) :
    (combine operation first second).get field =
      operation (first.get field) (second.get field) := by
  cases field <;> rfl

end Usage

/-- `calculate_usage_delta`. -/
def calculateUsageDelta (current prev : Usage) : Usage :=
  Usage.combine saturatingSub current prev

/-- A usage with another one added to each of its fields. -/
def addUsage (usage delta : Usage) : Usage :=
  Usage.combine saturatingAdd usage delta

namespace Dto

/-- `CanisterUsage`: the counters that a report gives for one canister. -/
structure CanisterUsage extends Usage where
  canisterId : Principal

end Dto

/-- `map_canister_usage_data`. -/
def mapCanisterUsageData (usage : Dto.CanisterUsage) : Usage :=
  usage.toUsage

instance : TransOrd ((ProjectId × BillingMonth) × Principal) :=
  Std.instTransOrdProd

/-- State of `usage_repository`. -/
structure UsageState where
  canisterUsage : ExtTreeMap ((ProjectId × BillingMonth) × Principal) Usage
  projectUsage : ExtTreeMap (ProjectId × BillingMonth) Usage
  canisterMonthProjectIndex : ExtTreeMap (Principal × BillingMonth) ProjectId
  canisterAbsoluteUsage : ExtTreeMap (Principal × BillingMonth) Usage

namespace UsageState

def empty : UsageState :=
  ⟨∅, ∅, ∅, ∅⟩

/-- The last counters of this month, or of the previous one, or none. -/
def previousAbsoluteUsage (s : UsageState) (canisterId : Principal)
    (currentMonth prevMonth : BillingMonth) : Usage :=
  s.canisterAbsoluteUsage[(canisterId, currentMonth)]?.getD
    (s.canisterAbsoluteUsage[(canisterId, prevMonth)]?.getD .default)

/-- The updates of `upsert_canister_usages` for a canister of a project. -/
def upsertCanisterUsage (currentMonth prevMonth : BillingMonth) (projectId : ProjectId)
    (usage : Dto.CanisterUsage) (s : UsageState) : UsageState :=
  let currentCanisterUsage := mapCanisterUsageData usage
  let delta :=
    calculateUsageDelta currentCanisterUsage
      (s.previousAbsoluteUsage usage.canisterId currentMonth prevMonth)
  let projectUsage := s.projectUsage[(projectId, currentMonth)]?.getD .default
  let canisterUsageForProject :=
    s.canisterUsage[((projectId, currentMonth), usage.canisterId)]?.getD .default
  { projectUsage :=
      s.projectUsage.insert (projectId, currentMonth) (addUsage projectUsage delta)
    canisterUsage :=
      s.canisterUsage.insert ((projectId, currentMonth), usage.canisterId)
        (addUsage canisterUsageForProject delta)
    canisterMonthProjectIndex :=
      s.canisterMonthProjectIndex.insert (usage.canisterId, currentMonth) projectId
    canisterAbsoluteUsage :=
      s.canisterAbsoluteUsage.insert (usage.canisterId, currentMonth) currentCanisterUsage }

end UsageState

/-- The project of the canister with a principal, if there is one. -/
def CanisterState.projectOfPrincipal (canisters : CanisterState) (canisterId : Principal) :
    Option ProjectId :=
  (canisters.getCanisterByPrincipal canisterId).bind canisters.getCanisterProjectId

namespace UsageState

/-- One usage of `upsert_canister_usages`; an unknown canister is skipped. -/
def upsertReported (canisters : CanisterState) (currentMonth prevMonth : BillingMonth)
    (s : UsageState) (usage : Dto.CanisterUsage) : UsageState :=
  match canisters.projectOfPrincipal usage.canisterId with
  | some projectId => s.upsertCanisterUsage currentMonth prevMonth projectId usage
  | none => s

/-- `upsert_canister_usages`; without a result where an `unwrap` traps. -/
def upsertCanisterUsages (canisters : CanisterState) (billingMonth : List Char)
    (usages : List Dto.CanisterUsage) (s : UsageState) : Option UsageState :=
  match BillingMonth.tryNew billingMonth,
      BillingMonth.tryNew (getPreviousBillingMonth billingMonth) with
  | .ok currentMonth, .ok prevMonth =>
      some (usages.foldl (upsertReported canisters currentMonth prevMonth) s)
  | _, _ => none

/-- `list_canister_usages_for_project`. -/
def listCanisterUsagesForProject (s : UsageState) (projectId : ProjectId)
    (billingMonth : BillingMonth) : List (Principal × Usage) :=
  prefixEntries s.canisterUsage (projectId, billingMonth)

/-- `get_project_usage`. -/
def getProjectUsage (s : UsageState) (projectId : ProjectId) (billingMonth : BillingMonth) :
    Usage :=
  s.projectUsage[(projectId, billingMonth)]?.getD .default

end UsageState

/-- A `record_usage` message, with the canister records that it meets. -/
structure UsageReport where
  canisters : CanisterState
  now : UInt64
  usages : List Dto.CanisterUsage

/-- `record_usage`. -/
def recordUsage (s : UsageState) (report : UsageReport) : Option UsageState :=
  s.upsertCanisterUsages report.canisters (getCurrentBillingMonth report.now) report.usages

end SsnConsole.Backend
