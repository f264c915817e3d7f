import Mathlib

/-!
# The proleptic Gregorian calendar

Dates are pairs of a month and a day that exist in the calendar.  The calendar
itself is the rule for the next day: everything about the date of a day number
follows from iterating that rule.
-/

namespace SsnConsole.Gregorian

/-- Every fourth year is a leap year, but of the centuries only every fourth. -/
def IsLeap (year : Nat) : Prop :=
  4 ∣ year ∧ (100 ∣ year → 400 ∣ year)

instance (year : Nat) : Decidable (IsLeap year) :=
  inferInstanceAs (Decidable (_ ∧ _))

/-- The days of a month, with months numbered from 1 to 12. -/
def monthDays (year : Nat) : Nat → Nat
  | 2 => if IsLeap year then 29 else 28
  | 4 | 6 | 9 | 11 => 30
  | _ => 31

/-- Every month has at least 28 days. -/
theorem monthDays_ge
    (year number : Nat) :
    28 ≤ monthDays year number := by
  unfold monthDays
  split
  · split <;> omega
  all_goals omega

/-- A month of the calendar. -/
@[ext]
structure Month where
  year : Nat
  number : Nat
  first : 1 ≤ number
  last : number ≤ 12
  deriving DecidableEq

namespace Month

/-- The days of a month. -/
def days (month : Month) : Nat :=
  monthDays month.year month.number

/-- The month after a month. -/
def next (month : Month) : Month :=
  if inYear : month.number < 12 then
    ⟨month.year, month.number + 1, Nat.le_add_left 1 _, inYear⟩
  else
    ⟨month.year + 1, 1, Nat.le_refl 1, by decide⟩

/-- The month with a consecutive number, counted from the January of the year 0. -/
def ofIndex (index : Nat) : Month :=
  ⟨index / 12, index % 12 + 1, Nat.le_add_left 1 _, Nat.mod_lt index (by decide)⟩

/-- The consecutive number of a month. -/
def index (month : Month) : Nat :=
  12 * month.year + (month.number - 1)

/-- A month is determined by its consecutive number. -/
@[simp] theorem ofIndex_index
    (month : Month) :
    ofIndex month.index = month := by
  have first := month.first
  have last := month.last
  apply Month.ext
  · show (12 * month.year + (month.number - 1)) / 12 = month.year
    omega
  · show (12 * month.year + (month.number - 1)) % 12 + 1 = month.number
    omega

/-- The month after a month has the next number. -/
@[simp] theorem index_next
    (month : Month) :
    month.next.index = month.index + 1 := by
  have first := month.first
  have last := month.last
  unfold next index
  split
  · show 12 * month.year + (month.number + 1 - 1) = _
    omega
  · show 12 * (month.year + 1) + (1 - 1) = _
    omega

/-- The number of a month is its own. -/
@[simp] theorem index_ofIndex
    (number : Nat) :
    (ofIndex number).index = number := by
  show 12 * (number / 12) + (number % 12 + 1 - 1) = number
  omega

/-- Consecutive numbers are those of consecutive months. -/
theorem next_ofIndex
    (number : Nat) :
    (ofIndex number).next = ofIndex (number + 1) := by
  rw [← ofIndex_index (ofIndex number).next, index_next, index_ofIndex]

/-- A month after the year 0 has a month before it. -/
theorem exists_next_eq
    {month : Month}
    (positive : 0 < month.year) :
    ∃ previous : Month, previous.next = month := by
  have counted : 0 < month.index := by
    unfold index
    omega
  refine ⟨ofIndex (month.index - 1), ?_⟩
  rw [next_ofIndex, Nat.sub_add_cancel counted, ofIndex_index]

/-- The form YYYY-MM of a month. -/
def text (month : Month) : List Char :=
  [1000, 100, 10, 1].map (fun place => Nat.digitChar (month.year / place % 10)) ++
    '-' :: [10, 1].map fun place => Nat.digitChar (month.number / place % 10)

end Month

/-- A date of the calendar. -/
@[ext]
structure Date where
  month : Month
  day : Nat
  firstDay : 1 ≤ day
  lastDay : day ≤ month.days

/-- The first day of a month. -/
def Month.firstDate (month : Month) : Date :=
  ⟨month, 1, Nat.le_refl 1, Nat.le_trans (by decide) (monthDays_ge month.year month.number)⟩

/-- The day after a date. -/
def Date.next (date : Date) : Date :=
  if inMonth : date.day < date.month.days then
    ⟨date.month, date.day + 1, Nat.le_add_left 1 _, inMonth⟩
  else
    date.month.next.firstDate

/-- The days of a month follow its first day. -/
theorem iterate_next_within
    (month : Month)
    {passed : Nat}
    (within : passed < month.days) :
    Date.next^[passed] month.firstDate = ⟨month, passed + 1, Nat.le_add_left 1 _, within⟩ := by
  induction passed with
  | zero =>
      rfl
  | succ passed inductionHypothesis =>
      rw [Function.iterate_succ_apply', inductionHypothesis (Nat.lt_of_succ_lt within)]
      exact dif_pos within

/-- After all days of a month comes the first day of the next one. -/
theorem iterate_next_month
    (month : Month) :
    Date.next^[month.days] month.firstDate = month.next.firstDate := by
  have days : 28 ≤ month.days := monthDays_ge month.year month.number
  obtain ⟨passed, all⟩ : ∃ passed, month.days = passed + 1 :=
    ⟨month.days - 1, by omega⟩
  have lastDay := iterate_next_within month (show passed < month.days by omega)
  rw [all, Function.iterate_succ_apply', lastDay]
  exact dif_neg (by show ¬passed + 1 < month.days; omega)

end SsnConsole.Gregorian
