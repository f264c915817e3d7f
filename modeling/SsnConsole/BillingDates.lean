import SsnConsole.BillingCalendar
import SsnConsole.Gregorian

/-!
# Billing months follow the calendar

The clock functions of `canister-utils` count years and months with two loops
of subtractions.  Here the loops are compared with the Gregorian calendar: both
lead from New Year's Day of 1970 to the date of the given day.
-/

namespace SsnConsole.Backend

open SsnConsole.PeriodWalk
open SsnConsole.Gregorian

/-- `is_leap_year` is the rule of the calendar. -/
theorem isLeapYear_iff
    (year : Nat) :
    isLeapYear year = true ↔ IsLeap year := by
  simp only [isLeapYear, IsLeap, Bool.or_eq_true, Bool.and_eq_true, beq_iff_eq,
    Bool.not_eq_true', beq_eq_false_iff_ne]
  omega

/-- `days_in_month` has the lengths of the calendar's months. -/
theorem daysInMonth_eq
    (month : Month) :
    daysInMonth month.year month.number = month.days := by
  obtain ⟨year, number, first, last⟩ := month
  show daysInMonth year number = monthDays year number
  have february : (if isLeapYear year then 29 else 28) = if IsLeap year then 29 else 28 := by
    simp only [isLeapYear_iff]
  unfold daysInMonth
  rw [february]
  interval_cases number <;> rfl

/-- The first day of the year. -/
def newYear (year : Nat) : Date :=
  (Month.ofIndex (12 * year)).firstDate

/-- The first months of a year lead to the start of the next one. -/
theorem iterate_next_months
    (year : Nat)
    {number : Nat}
    (first : 1 ≤ number)
    (last : number ≤ 13) :
    Date.next^[elapsed (daysInMonth year) 1 number] (newYear year) =
      (Month.ofIndex (12 * year + (number - 1))).firstDate := by
  apply iterate_elapsed (daysInMonth year) Date.next
    (fun number => (Month.ofIndex (12 * year + (number - 1))).firstDate) first
  intro period notBefore before
  have month : Month.ofIndex (12 * year + (period - 1)) =
      ⟨year, period, notBefore, by omega⟩ :=
    Month.ofIndex_index ⟨year, period, notBefore, by omega⟩
  have following : 12 * year + (period - 1) + 1 = 12 * year + (period + 1 - 1) := by omega
  show Date.next^[daysInMonth year period] (Month.ofIndex (12 * year + (period - 1))).firstDate =
    (Month.ofIndex (12 * year + (period + 1 - 1))).firstDate
  rw [← following, ← Month.next_ofIndex, month,
    daysInMonth_eq ⟨year, period, notBefore, by omega⟩]
  exact iterate_next_month _

/-- The days of the years lead from one New Year's Day to another. -/
theorem iterate_next_years
    {first year : Nat}
    (ordered : first ≤ year) :
    Date.next^[elapsed daysInYear first year] (newYear first) = newYear year := by
  apply iterate_elapsed daysInYear Date.next newYear ordered
  intro period _ _
  rw [← elapsed_daysInMonth, iterate_next_months period (by decide) (by decide)]
  rfl

/-- The date of a day counted from 1 January 1970. -/
def dateOfDay (days : Nat) : Date :=
  Date.next^[days] (newYear 1970)

/-- Two walks that end within a month lead to a date of that month. -/
theorem dateOfDay_located
    {rounds days year rest number day : Nat}
    (inYears : Located daysInYear rounds 1970 days year rest)
    (inMonths : Located (daysInMonth year) 12 1 rest number day)
    (within : day < daysInMonth year number)
    (last : number < 13) :
    (dateOfDay days).month = ⟨year, number, inMonths.notBefore, Nat.le_of_lt_succ last⟩ := by
  have first := inMonths.notBefore
  have found : Month.ofIndex (12 * year + (number - 1)) = ⟨year, number, first, by omega⟩ :=
    Month.ofIndex_index ⟨year, number, first, by omega⟩
  have lengths := daysInMonth_eq ⟨year, number, first, Nat.le_of_lt_succ last⟩
  have inMonth : day < Month.days ⟨year, number, first, Nat.le_of_lt_succ last⟩ := by
    rw [← lengths]
    exact within
  have reached : dateOfDay days = ⟨⟨year, number, first, Nat.le_of_lt_succ last⟩, day + 1,
      Nat.le_add_left 1 day, inMonth⟩ := by
    unfold dateOfDay
    rw [← inYears.consumed, Nat.add_comm, Function.iterate_add_apply,
      iterate_next_years inYears.notBefore, ← inMonths.consumed, Nat.add_comm,
      Function.iterate_add_apply, iterate_next_months year first (Nat.le_of_lt last), found,
      iterate_next_within _ inMonth]
  rw [reached]

/-- The loops of `get_current_year` and `get_current_month` find the month of the date. -/
theorem dateOfDay_month
    (days : Nat) :
    (dateOfDay days).month.year = (getCurrentYear days).1 ∧
      (dateOfDay days).month.number =
        getCurrentMonth (getCurrentYear days).1 (getCurrentYear days).2 := by
  obtain ⟨inYears, inYear⟩ := getCurrentYear_located days
  obtain ⟨day, inMonths, within, last⟩ := getCurrentMonth_located inYear
  rw [dateOfDay_located inYears inMonths within last]
  exact ⟨rfl, rfl⟩

/-- The calendar date of a time in nanoseconds. -/
def dateAt (now : UInt64) : Date :=
  dateOfDay (now.toNat / 86400000000000)

/-- The month of a time's date is the one that the clock functions compute. -/
theorem dateAt_month
    (now : UInt64) :
    (dateAt now).month.year = (yearMonthAt now).1 ∧
      (dateAt now).month.number = (yearMonthAt now).2 := by
  have days : now.toNat / 86400000000000 = now.toNat / 1000000000 / 86400 :=
    (Nat.div_div_eq_div_mul now.toNat 1000000000 86400).symm
  unfold dateAt
  rw [days]
  exact dateOfDay_month _

/-- A number below ten has one digit. -/
private theorem toDigits_digit
    {number : Nat}
    (digit : number < 10) :
    Nat.toDigits 10 number = [Nat.digitChar (number % 10)] := by
  rw [Nat.mod_eq_of_lt digit]
  exact Nat.toDigits_of_lt_base digit

/-- A padded number ends with its last digit. -/
theorem zeroPadded_succ
    {width number : Nat}
    (positive : 0 < width) :
    zeroPadded (width + 1) number =
      zeroPadded width (number / 10) ++ [Nat.digitChar (number % 10)] := by
  by_cases digit : number < 10
  · have none : number / 10 = 0 := by omega
    obtain ⟨rest, all⟩ : ∃ rest, width = rest + 1 := ⟨width - 1, by omega⟩
    rw [none, all]
    simp [zeroPadded, List.leftpad, toDigits_digit digit, List.replicate_succ']
  · rw [zeroPadded, Nat.toDigits_of_base_le (by decide) (Nat.le_of_not_lt digit)]
    simp [zeroPadded, List.leftpad]

/-- The text of a calendar month is its form YYYY-MM. -/
theorem yearMonthText_eq_text
    (month : Month)
    (fourDigits : month.year < 10000) :
    yearMonthText month.year month.number = month.text := by
  obtain ⟨year, number, first, last⟩ := month
  have years : year / 10 / 10 / 10 < 10 := by
    have small : year < 10000 := fourDigits
    omega
  have months : number / 10 < 10 := by omega
  have digit {number : Nat} (small : number < 10) :
      zeroPadded 1 number = [Nat.digitChar (number % 10)] := by
    simp [zeroPadded, List.leftpad, toDigits_digit small]
  unfold yearMonthText
  rw [zeroPadded_succ (by decide), zeroPadded_succ (by decide), zeroPadded_succ (by decide),
    digit years, zeroPadded_succ (by decide), digit months]
  simp [Month.text, Nat.div_div_eq_div_mul]

/-- `get_previous_billing_month` finds the month that a calendar month follows. -/
theorem getPreviousBillingMonth_text
    {previous month : Month}
    (follows : previous.next = month)
    (positive : 0 < month.year)
    (fourDigits : month.year < 10000) :
    getPreviousBillingMonth month.text = previous.text := by
  have text :=
    getPreviousBillingMonth_yearMonthText positive fourDigits month.first month.last
  rw [yearMonthText_eq_text month fourDigits] at text
  rw [text]
  have first := previous.first
  by_cases inYear : previous.number < 12
  · have next : previous.next = ⟨previous.year, previous.number + 1, by omega, inYear⟩ :=
      dif_pos inYear
    rw [← follows, next] at fourDigits ⊢
    rw [if_neg (by show ¬previous.number + 1 = 1; omega)]
    exact yearMonthText_eq_text previous fourDigits
  · have december : previous.number = 12 :=
      Nat.le_antisymm previous.last (Nat.le_of_not_lt inYear)
    have next : previous.next = ⟨previous.year + 1, 1, by decide, by decide⟩ := dif_neg inYear
    have sameYear : previous.year < 10000 := by
      rw [← follows, next] at fourDigits
      exact Nat.lt_of_succ_lt fourDigits
    rw [← follows, next, if_pos rfl, ← yearMonthText_eq_text previous sameYear, december]
    rfl

/--
For every time, the clock's billing month is the Gregorian month of its date,
and the previous billing month is the month before that one.  Both are
accepted, the numbers read from the text are positive, so that subtracting
from them cannot underflow, and no usage report traps.
-/
theorem billingMonths_follow_calendar
    (now : UInt64) :
    (dateAt now).month.year < 10000 ∧
      getCurrentBillingMonth now = (dateAt now).month.text ∧
      BillingMonth.tryNew (getCurrentBillingMonth now) = .ok ⟨(dateAt now).month.text⟩ ∧
      (∃ previous : Month, previous.next = (dateAt now).month ∧
        getPreviousBillingMonth (getCurrentBillingMonth now) = previous.text ∧
        BillingMonth.tryNew previous.text = .ok ⟨previous.text⟩) ∧
      (∃ yearText monthText year number,
        (getCurrentBillingMonth now).splitOn '-' = [yearText, monthText] ∧
          parseUnsigned (2 ^ 32) yearText = some year ∧
          parseUnsigned (2 ^ 32) monthText = some number ∧ 1 ≤ year ∧ 1 ≤ number) ∧
      ∀ canisters usages s,
        (UsageState.upsertCanisterUsages canisters (getCurrentBillingMonth now) usages
          s).isSome = true := by
  obtain ⟨epoch, fourDigits, first, last⟩ := yearMonthAt_bounds now
  obtain ⟨sameYear, sameNumber⟩ := dateAt_month now
  have small : (dateAt now).month.year < 10000 := by
    rw [sameYear]
    exact fourDigits
  have text : getCurrentBillingMonth now = (dateAt now).month.text := by
    rw [← yearMonthText_eq_text (dateAt now).month small, sameYear, sameNumber]
    rfl
  obtain ⟨accepted, acceptedBefore⟩ := tryNew_months now
  refine ⟨small, text, ?_, ?_, ?_, ?_⟩
  · rw [accepted, billingMonthAt, text]
  · have afterZero : 0 < (dateAt now).month.year := by omega
    obtain ⟨previous, follows⟩ := Month.exists_next_eq afterZero
    have previousText : getPreviousBillingMonth (getCurrentBillingMonth now) = previous.text := by
      rw [text]
      exact getPreviousBillingMonth_text follows (by omega) small
    refine ⟨previous, follows, previousText, ?_⟩
    rw [← previousText, acceptedBefore]
    rfl
  · exact ⟨_, _, _, _, splitOn_yearMonthText _ _, parseUnsigned_zeroPadded (by omega),
      parseUnsigned_zeroPadded (by omega), by omega, first⟩
  · intro canisters usages s
    unfold UsageState.upsertCanisterUsages
    rw [accepted, acceptedBefore]
    rfl

end SsnConsole.Backend
