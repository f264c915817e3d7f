import SsnConsole.UsageStores

/-!
# The months that the clock names

A time in nanoseconds falls into a calendar month.  Months are numbered
consecutively here; the numbers grow with time, the text of a month determines
its number, and the text computed for the previous month is that of the
previous number.
-/

namespace SsnConsole.Backend

open SsnConsole.PeriodWalk

section Texts

/-- Padding a number does not change the digits' value. -/
theorem ofDigitChars_zeroPadded
    (width number : Nat) :
    Nat.ofDigitChars 10 (zeroPadded width number) 0 = number := by
  unfold zeroPadded List.leftpad
  rw [Nat.ofDigitChars_append, Nat.ofDigitChars_replicate_zero, Nat.mul_zero,
    Nat.ofDigitChars_ten_toDigits]

/-- A padded number consists of digits. -/
theorem isDigit_of_mem_zeroPadded
    {width number : Nat}
    {char : Char}
    (member : char ∈ zeroPadded width number) :
    char.isDigit = true := by
  unfold zeroPadded List.leftpad at member
  rcases List.mem_append.mp member with padding | digit
  · rw [List.eq_of_mem_replicate padding]
    rfl
  · exact Nat.isDigit_of_mem_toDigits (by decide) (by decide) digit

/-- A number that fits its width is padded to that width. -/
theorem length_zeroPadded
    {width number : Nat}
    (positive : 0 < width)
    (fits : number < 10 ^ width) :
    (zeroPadded width number).length = width := by
  have digits : (Nat.toDigits 10 number).length ≤ width :=
    (Nat.length_toDigits_le_iff (by decide) positive).mpr fits
  unfold zeroPadded
  rw [List.length_leftpad]
  omega

/-- A padded number is at least as long as its width. -/
theorem zeroPadded_ne_nil
    (width number : Nat) :
    zeroPadded width number ≠ [] := by
  unfold zeroPadded List.leftpad
  simp [Nat.toDigits_ne_nil]

/-- A digit takes one byte. -/
theorem utf8Size_of_isDigit
    {char : Char}
    (digit : char.isDigit = true) :
    char.utf8Size = 1 := by
  rw [Char.utf8Size_eq_one_iff]
  simp only [Char.isDigit, ge_iff_le, Bool.and_eq_true, decide_eq_true_eq] at digit
  have upper : char.val ≤ 57 := digit.2
  exact UInt32.le_trans upper (by decide)

/-- Digits take as many bytes as there are of them. -/
theorem strLen_of_digits
    {text : List Char}
    (digits : ∀ char ∈ text, char.isDigit = true) :
    strLen text = text.length := by
  unfold strLen
  induction text with
  | nil =>
      rfl
  | cons char rest inductionHypothesis =>
      have first := utf8Size_of_isDigit (digits char (by simp))
      have others := inductionHypothesis fun other member => digits other (by simp [member])
      simp only [List.map_cons, List.sum_cons, List.length_cons]
      omega

/-- No digit is a hyphen. -/
theorem hyphen_not_mem_zeroPadded
    (width number : Nat) :
    '-' ∉ zeroPadded width number := by
  intro member
  exact absurd (isDigit_of_mem_zeroPadded member) (by decide)

/-- The hyphen of a month's text separates the year from the month. -/
theorem splitOn_yearMonthText
    (year month : Nat) :
    (yearMonthText year month).splitOn '-' = [zeroPadded 4 year, zeroPadded 2 month] := by
  unfold yearMonthText
  rw [List.splitOn_append_cons_self_of_not_mem (hyphen_not_mem_zeroPadded 4 year),
    List.splitOn_eq_singleton (hyphen_not_mem_zeroPadded 2 month)]

/-- A padded number is read back. -/
theorem parseUnsigned_zeroPadded
    {bound width number : Nat}
    (fits : number < bound) :
    parseUnsigned bound (zeroPadded width number) = some number := by
  have digits : (zeroPadded width number).all Char.isDigit = true := by
    rw [List.all_eq_true]
    intro char member
    exact isDigit_of_mem_zeroPadded member
  have unsigned : withoutPlus (zeroPadded width number) = zeroPadded width number := by
    unfold withoutPlus
    split
    · next rest starts =>
        have sign : '+' ∈ zeroPadded width number := by simp [starts]
        exact absurd (isDigit_of_mem_zeroPadded sign) (by decide)
    · rfl
  unfold parseUnsigned
  simp only [unsigned, ofDigitChars_zeroPadded]
  rw [if_pos ⟨zeroPadded_ne_nil width number, digits, fits⟩]

/-- The text of a month determines its year and its number in the year. -/
theorem yearMonthText_injective
    {year otherYear month otherMonth : Nat}
    (same : yearMonthText year month = yearMonthText otherYear otherMonth) :
    year = otherYear ∧ month = otherMonth := by
  have parts := congrArg (List.splitOn '-') same
  rw [splitOn_yearMonthText, splitOn_yearMonthText] at parts
  obtain ⟨sameYear, sameMonth⟩ :
      zeroPadded 4 year = zeroPadded 4 otherYear ∧
        zeroPadded 2 month = zeroPadded 2 otherMonth := by
    simpa using parts
  constructor
  · rw [← ofDigitChars_zeroPadded 4 year, sameYear, ofDigitChars_zeroPadded]
  · rw [← ofDigitChars_zeroPadded 2 month, sameMonth, ofDigitChars_zeroPadded]

/-- The text of a calendar month is a billing month. -/
theorem BillingMonth.tryNew_yearMonthText
    {year month : Nat}
    (fourDigits : year < 10000)
    (first : 1 ≤ month)
    (last : month ≤ 12) :
    tryNew (yearMonthText year month) = .ok ⟨yearMonthText year month⟩ := by
  have yearDigits : ∀ char ∈ zeroPadded 4 year, char.isDigit = true :=
    fun _ member => isDigit_of_mem_zeroPadded member
  have monthDigits : ∀ char ∈ zeroPadded 2 month, char.isDigit = true :=
    fun _ member => isDigit_of_mem_zeroPadded member
  have yearLength : strLen (zeroPadded 4 year) = 4 := by
    rw [strLen_of_digits yearDigits, length_zeroPadded (by decide) (by omega)]
  have monthLength : strLen (zeroPadded 2 month) = 2 := by
    rw [strLen_of_digits monthDigits, length_zeroPadded (by decide) (by omega)]
  have wholeLength : strLen (yearMonthText year month) = 7 := by
    have sum : strLen (yearMonthText year month) =
        strLen (zeroPadded 4 year) + (1 + strLen (zeroPadded 2 month)) := by
      simp [strLen, yearMonthText]
      rfl
    omega
  have number : parseUnsigned (2 ^ 8) (zeroPadded 2 month) = some month :=
    parseUnsigned_zeroPadded (by omega)
  unfold tryNew validate
  rw [if_neg (by omega), splitOn_yearMonthText]
  simp only
  rw [if_neg (by omega), if_neg (by simpa using ⟨yearDigits, monthDigits⟩), number]
  rw [if_pos ⟨first, last⟩]
  rfl

/-- The text of the month before a calendar month. -/
theorem getPreviousBillingMonth_yearMonthText
    {year month : Nat}
    (yearPositive : 1 ≤ year)
    (fourDigits : year < 10000)
    (first : 1 ≤ month)
    (last : month ≤ 12) :
    getPreviousBillingMonth (yearMonthText year month) =
      if month = 1 then yearMonthText (year - 1) 12 else yearMonthText year (month - 1) := by
  have yearNumber : parseUnsigned (2 ^ 32) (zeroPadded 4 year) = some year :=
    parseUnsigned_zeroPadded (by omega)
  have monthNumber : parseUnsigned (2 ^ 32) (zeroPadded 2 month) = some month :=
    parseUnsigned_zeroPadded (by omega)
  unfold getPreviousBillingMonth
  simp only [splitOn_yearMonthText, List.getElem?_cons_zero, List.getElem?_cons_succ,
    Option.getD_some, yearNumber, monthNumber]
  have yearBefore : (year + 2 ^ 32 - 1) % 2 ^ 32 = year - 1 := by omega
  by_cases january : month = 1
  · rw [if_pos january, if_pos january, yearBefore]
  · have monthBefore : (month + 2 ^ 32 - 1) % 2 ^ 32 = month - 1 := by omega
    rw [if_neg january, if_neg january, monthBefore]

end Texts

section Clock

/-- The days of a year are those of its months. -/
theorem elapsed_daysInMonth
    (year : Nat) :
    elapsed (daysInMonth year) 1 13 = daysInYear year := by
  have months : elapsed (daysInMonth year) 1 13 =
      (([1, 2, 3, 4, 5, 6, 7, 8, 9, 10, 11, 12] : List Nat).map (daysInMonth year)).sum := rfl
  rw [months]
  unfold daysInYear daysInMonth
  cases isLeapYear year <;> rfl

/-- Every year has at least 365 days. -/
theorem daysInYear_ge
    (year : Nat) :
    365 ≤ daysInYear year := by
  unfold daysInYear
  split <;> omega

/-- At least 365 days pass in every year. -/
theorem elapsed_daysInYear_ge
    (first years : Nat) :
    365 * years ≤ elapsed daysInYear first (first + years) := by
  induction years with
  | zero =>
      simp
  | succ years inductionHypothesis =>
      have year := daysInYear_ge (first + years)
      rw [← Nat.add_assoc, elapsed_succ daysInYear (Nat.le_add_right first years)]
      omega

/-- The walk of `get_current_year` ends inside the year it returns. -/
theorem getCurrentYear_located
    (days : Nat) :
    Located daysInYear (days + 1) 1970 days (getCurrentYear days).1 (getCurrentYear days).2 ∧
      (getCurrentYear days).2 < daysInYear (getCurrentYear days).1 := by
  have located := locate_located daysInYear (days + 1) 1970 days
  have room := elapsed_daysInYear_ge 1970 (days + 1)
  exact ⟨located, (located.inside (by omega)).1⟩

/-- The walk of `get_current_month` ends inside one of the twelve months. -/
theorem getCurrentMonth_located
    {year rest : Nat}
    (inYear : rest < daysInYear year) :
    ∃ day, Located (daysInMonth year) 12 1 rest (getCurrentMonth year rest) day ∧
      day < daysInMonth year (getCurrentMonth year rest) ∧
      getCurrentMonth year rest < 13 := by
  have located := locate_located (daysInMonth year) 12 1 rest
  have room : rest < elapsed (daysInMonth year) 1 (1 + 12) := by
    rw [elapsed_daysInMonth]
    exact inYear
  obtain ⟨fits, within⟩ := located.inside room
  exact ⟨_, located, fits, within⟩

/-- The consecutive number of the month of a time. -/
def monthNumberAt (now : UInt64) : Nat :=
  12 * (yearMonthAt now).1 + ((yearMonthAt now).2 - 1)

/-- The calendar of 64-bit times: years with four digits and months from 1 to 12. -/
theorem yearMonthAt_bounds
    (now : UInt64) :
    1970 ≤ (yearMonthAt now).1 ∧ (yearMonthAt now).1 < 10000 ∧
      1 ≤ (yearMonthAt now).2 ∧ (yearMonthAt now).2 ≤ 12 := by
  have time := now.toNat_lt
  obtain ⟨year, inYear⟩ := getCurrentYear_located (now.toNat / 1000000000 / 86400)
  obtain ⟨day, month, inMonth, lastMonth⟩ := getCurrentMonth_located inYear
  have yearsPassed :=
    elapsed_daysInYear_ge 1970
      ((getCurrentYear (now.toNat / 1000000000 / 86400)).1 - 1970)
  have notBefore := year.notBefore
  have consumed := year.consumed
  rw [Nat.add_sub_cancel' notBefore] at yearsPassed
  have firstMonth := month.notBefore
  refine ⟨notBefore, ?_, firstMonth, Nat.le_of_lt_succ lastMonth⟩
  show (getCurrentYear (now.toNat / 1000000000 / 86400)).1 < 10000
  omega

/-- Months do not go back as time passes. -/
theorem monthNumberAt_mono
    {now later : UInt64}
    (ordered : now ≤ later) :
    monthNumberAt now ≤ monthNumberAt later := by
  have days : now.toNat / 1000000000 / 86400 ≤ later.toNat / 1000000000 / 86400 := by
    exact Nat.div_le_div_right (Nat.div_le_div_right ordered)
  obtain ⟨year, inYear⟩ := getCurrentYear_located (now.toNat / 1000000000 / 86400)
  obtain ⟨laterYear, inLaterYear⟩ := getCurrentYear_located (later.toNat / 1000000000 / 86400)
  have years := year.index_le laterYear inLaterYear days
  obtain ⟨_, _, firstMonth, lastMonth⟩ := yearMonthAt_bounds now
  obtain ⟨_, _, firstLaterMonth, lastLaterMonth⟩ := yearMonthAt_bounds later
  rcases Nat.lt_or_eq_of_le years with earlierYear | sameYear
  · have apart : (yearMonthAt now).1 < (yearMonthAt later).1 := earlierYear
    unfold monthNumberAt
    omega
  · have same : (yearMonthAt now).1 = (yearMonthAt later).1 := sameYear
    rw [sameYear] at year
    have rests := year.rest_le laterYear days
    obtain ⟨day, month, _, _⟩ := getCurrentMonth_located inYear
    obtain ⟨laterDay, laterMonth, inMonth, _⟩ := getCurrentMonth_located inLaterYear
    rw [sameYear] at month
    have months := month.index_le laterMonth inMonth rests
    have monthOrder : (yearMonthAt now).2 ≤ (yearMonthAt later).2 := by
      have read : (yearMonthAt now).2 =
          getCurrentMonth (getCurrentYear (later.toNat / 1000000000 / 86400)).1
            (getCurrentYear (now.toNat / 1000000000 / 86400)).2 := by
        rw [← sameYear]
        rfl
      rw [read]
      exact months
    unfold monthNumberAt
    omega

/-- The billing month of a time. -/
def billingMonthAt (now : UInt64) : BillingMonth :=
  ⟨getCurrentBillingMonth now⟩

/-- The billing month before that of a time. -/
def previousBillingMonthAt (now : UInt64) : BillingMonth :=
  ⟨getPreviousBillingMonth (getCurrentBillingMonth now)⟩

/-- The text of a previous month is that of a calendar month. -/
theorem previousBillingMonthAt_text
    (now : UInt64) :
    (previousBillingMonthAt now).text =
      if (yearMonthAt now).2 = 1 then yearMonthText ((yearMonthAt now).1 - 1) 12
      else yearMonthText (yearMonthAt now).1 ((yearMonthAt now).2 - 1) := by
  obtain ⟨epoch, fourDigits, first, last⟩ := yearMonthAt_bounds now
  exact getPreviousBillingMonth_yearMonthText (by omega) fourDigits first last

/-- The clock's month and the month before it are both accepted. -/
theorem tryNew_months
    (now : UInt64) :
    BillingMonth.tryNew (getCurrentBillingMonth now) = .ok (billingMonthAt now) ∧
      BillingMonth.tryNew (getPreviousBillingMonth (getCurrentBillingMonth now)) =
        .ok (previousBillingMonthAt now) := by
  obtain ⟨epoch, fourDigits, first, last⟩ := yearMonthAt_bounds now
  refine ⟨BillingMonth.tryNew_yearMonthText fourDigits first last, ?_⟩
  have text := previousBillingMonthAt_text now
  unfold previousBillingMonthAt at text ⊢
  rw [show getPreviousBillingMonth (getCurrentBillingMonth now) = _ from text]
  by_cases january : (yearMonthAt now).2 = 1
  · rw [if_pos january]
    exact BillingMonth.tryNew_yearMonthText (by omega) (by decide) (by decide)
  · rw [if_neg january]
    exact BillingMonth.tryNew_yearMonthText fourDigits (by omega) (by omega)

/-- Two times have one billing month exactly when their months have one number. -/
theorem billingMonthAt_eq_iff
    (now other : UInt64) :
    billingMonthAt now = billingMonthAt other ↔ monthNumberAt now = monthNumberAt other := by
  obtain ⟨_, _, first, last⟩ := yearMonthAt_bounds now
  obtain ⟨_, _, otherFirst, otherLast⟩ := yearMonthAt_bounds other
  constructor
  · intro same
    obtain ⟨years, months⟩ := yearMonthText_injective (congrArg BillingMonth.text same)
    unfold monthNumberAt
    omega
  · intro same
    unfold monthNumberAt at same
    have years : (yearMonthAt now).1 = (yearMonthAt other).1 := by omega
    have months : (yearMonthAt now).2 = (yearMonthAt other).2 := by omega
    unfold billingMonthAt getCurrentBillingMonth
    rw [years, months]

/-- A time lies in the month before another exactly when the numbers are consecutive. -/
theorem billingMonthAt_eq_previous_iff
    (now other : UInt64) :
    billingMonthAt now = previousBillingMonthAt other ↔
      monthNumberAt now + 1 = monthNumberAt other := by
  obtain ⟨_, _, first, last⟩ := yearMonthAt_bounds now
  obtain ⟨otherEpoch, _, otherFirst, otherLast⟩ := yearMonthAt_bounds other
  have text := previousBillingMonthAt_text other
  have sameText : billingMonthAt now = previousBillingMonthAt other ↔
      yearMonthText (yearMonthAt now).1 (yearMonthAt now).2 =
        (previousBillingMonthAt other).text :=
    ⟨congrArg BillingMonth.text, fun same => congrArg BillingMonth.mk same⟩
  rw [sameText, text]
  by_cases january : (yearMonthAt other).2 = 1
  · rw [if_pos january]
    constructor
    · intro same
      obtain ⟨years, months⟩ := yearMonthText_injective same
      unfold monthNumberAt
      omega
    · intro consecutive
      unfold monthNumberAt at consecutive
      have years : (yearMonthAt now).1 = (yearMonthAt other).1 - 1 := by omega
      have months : (yearMonthAt now).2 = 12 := by omega
      rw [years, months]
  · rw [if_neg january]
    constructor
    · intro same
      obtain ⟨years, months⟩ := yearMonthText_injective same
      unfold monthNumberAt
      omega
    · intro consecutive
      unfold monthNumberAt at consecutive
      have years : (yearMonthAt now).1 = (yearMonthAt other).1 := by omega
      have months : (yearMonthAt now).2 = (yearMonthAt other).2 - 1 := by omega
      rw [years, months]

end Clock

/-- `record_usage` never traps: it upserts under the month of its time. -/
theorem recordUsage_eq
    (s : UsageState)
    (report : UsageReport) :
    recordUsage s report =
      some (report.usages.foldl
        (UsageState.upsertReported report.canisters (billingMonthAt report.now)
          (previousBillingMonthAt report.now)) s) := by
  obtain ⟨current, previous⟩ := tryNew_months report.now
  unfold recordUsage UsageState.upsertCanisterUsages
  rw [current, previous]

end SsnConsole.Backend
