import Mathlib

/-!
# Pieces of Go's standard library

Durations are 64-bit nanosecond counts whose extremes stand for everything
beyond them, header values are bytes, and numbers and hexadecimal text are read
as `strconv` and `encoding/hex` read them.
-/

namespace SsnConsole.GoStandard

/-- The bytes of a Go string. -/
abbrev Bytes : Type :=
  List UInt8

/-- The bytes of a text in the source. -/
def bytesOf (text : String) : Bytes :=
  text.toUTF8.toList

section Durations

/-- A number of nanoseconds that fits into 64 bits. -/
structure Duration where
  nanoseconds : Int
  representable : -2 ^ 63 ≤ nanoseconds ∧ nanoseconds < 2 ^ 63

namespace Duration

/-- The largest duration. -/
def max : Duration :=
  ⟨2 ^ 63 - 1, by decide⟩

/-- The smallest duration. -/
def min : Duration :=
  ⟨-2 ^ 63, by decide⟩

/-- The duration nearest to a number of nanoseconds. -/
def saturate (nanoseconds : Int) : Duration :=
  if small : nanoseconds < -2 ^ 63 then
    min
  else if large : 2 ^ 63 ≤ nanoseconds then
    max
  else
    ⟨nanoseconds, by omega⟩

/-- Negation wraps: the smallest duration has no positive counterpart. -/
def neg (duration : Duration) : Duration :=
  if smallest : duration.nanoseconds = -2 ^ 63 then
    duration
  else
    ⟨-duration.nanoseconds, by have := duration.representable; omega⟩

/-- Durations are told apart by their nanoseconds. -/
theorem eq_of_nanoseconds
    {first second : Duration}
    (same : first.nanoseconds = second.nanoseconds) :
    first = second := by
  cases first
  cases second
  cases same
  rfl

end Duration

/-- `Time.Sub`, of times in nanoseconds. -/
def timeSub (time other : Int) : Duration :=
  Duration.saturate (time - other)

/-- A difference is below a window exactly if the times are, unless the window is the smallest
duration. -/
theorem timeSub_lt_iff
    {time other : Int}
    {window : Duration}
    (notMin : -2 ^ 63 < window.nanoseconds) :
    (timeSub time other).nanoseconds < window.nanoseconds ↔
      time - other < window.nanoseconds := by
  have upper := window.representable.2
  unfold timeSub Duration.saturate
  split
  · show -2 ^ 63 < window.nanoseconds ↔ _
    omega
  · split
    · show 2 ^ 63 - 1 < window.nanoseconds ↔ _
      omega
    · exact Iff.rfl

/-- A window bounds a difference of times, if it is not the smallest duration and the difference
does not saturate where the window is the largest. -/
def Duration.Bounds (window : Duration) (difference : Int) : Prop :=
  window ≠ Duration.min ∧ (window = Duration.max → difference < 2 ^ 63)

/-- A difference that passes both comparisons with a window is within the window exactly if the
window bounds it. -/
theorem abs_sub_le_iff_of_timeSub
    {time other : Int}
    {window : Duration}
    (notAbove : ¬ window.nanoseconds < (timeSub time other).nanoseconds)
    (notBelow : ¬ (timeSub time other).nanoseconds < window.neg.nanoseconds) :
    |time - other| ≤ window.nanoseconds ↔ window.Bounds (time - other) := by
  have bounds := window.representable
  constructor
  · intro within
    have forward := (abs_le.mp within).2
    refine ⟨?_, fun _ => by omega⟩
    rintro rfl
    have negative : |time - other| < 0 := within.trans_lt (by decide)
    exact absurd (abs_nonneg _) (not_le.mpr negative)
  · rintro ⟨notMin, fits⟩
    have aboveMin : window.nanoseconds ≠ -2 ^ 63 := fun same =>
      notMin (Duration.eq_of_nanoseconds same)
    have negated : window.neg.nanoseconds = -window.nanoseconds := by
      unfold Duration.neg
      rw [dif_neg aboveMin]
    rw [negated] at notBelow
    unfold timeSub Duration.saturate at notAbove notBelow
    rw [abs_le]
    split at notAbove
    · rename_i small
      rw [dif_pos small] at notBelow
      simp only [Duration.min] at notBelow
      omega
    · rename_i notSmall
      rw [dif_neg notSmall] at notBelow
      split at notAbove
      · rename_i large
        -- Only the largest window lets a saturated difference pass.
        simp only [Duration.max] at notAbove
        have isMax : window = Duration.max :=
          Duration.eq_of_nanoseconds (by simp only [Duration.max]; omega)
        exact absurd (fits isMax) (not_lt.mpr large)
      · rename_i notLarge
        rw [dif_neg notLarge] at notBelow
        simp only at notAbove notBelow
        omega

end Durations

section Texts

/-- The value of a decimal digit. -/
def decimalValue (byte : UInt8) : Option Nat :=
  if 48 ≤ byte && byte ≤ 57 then some (byte.toNat - 48) else none

/-- Read on decimal digits after those that gave `value`. -/
def readDecimal : Nat → Bytes → Option Nat
  | value, [] => some value
  | value, byte :: rest =>
      (decimalValue byte).bind fun digit => readDecimal (value * 10 + digit) rest

/-- `strconv.ParseInt(s, 10, 64)`: an optional sign and at least one digit. -/
def parseInt64 (text : Bytes) : Option Int :=
  let (negative, digits) :=
    match text with
    | 43 :: rest => (false, rest)
    | 45 :: rest => (true, rest)
    | _ => (false, text)
  if digits = [] then
    none
  else
    (readDecimal 0 digits).bind fun value =>
      let number : Int := if negative then -value else value
      if -2 ^ 63 ≤ number ∧ number < 2 ^ 63 then some number else none

/-- The value of a hexadecimal digit of either case. -/
def hexValue (byte : UInt8) : Option UInt8 :=
  if 48 ≤ byte && byte ≤ 57 then
    some (byte - 48)
  else if 97 ≤ byte && byte ≤ 102 then
    some (byte - 87)
  else if 65 ≤ byte && byte ≤ 70 then
    some (byte - 55)
  else
    none

/-- `hex.DecodeString`: two digits for every byte. -/
def hexDecode : Bytes → Option Bytes
  | [] => some []
  | [_] => none
  | high :: low :: rest =>
      (hexValue high).bind fun high =>
        (hexValue low).bind fun low =>
          (hexDecode rest).map fun bytes => (high * 16 + low) :: bytes

/-- A lower-case hexadecimal digit. -/
def hexDigit (value : UInt8) : UInt8 :=
  if value < 10 then value + 48 else value + 87

/-- `hex.EncodeToString`. -/
def hexEncode (bytes : Bytes) : Bytes :=
  bytes.flatMap fun byte => [hexDigit (byte / 16), hexDigit (byte % 16)]

/-- Reading a byte array from a place on collects the bytes from there on. -/
private theorem toList_loop
    (array : ByteArray)
    (index : Nat)
    (collected : List UInt8) :
    ByteArray.toList.loop array index collected =
      collected.reverse ++ array.data.toList.drop index := by
  fun_induction ByteArray.toList.loop array index collected with
  | case1 index collected inside inductionHypothesis =>
      have within : index < array.data.toList.length := by
        simpa using inside
      rw [inductionHypothesis, List.drop_eq_getElem_cons within, List.reverse_cons,
        List.append_assoc]
      congr 2
      simp [ByteArray.get!, inside]
  | case2 index collected outside =>
      have beyond : array.data.toList.length ≤ index := by
        simpa using outside
      rw [List.drop_eq_nil_of_le beyond, List.append_nil]

/-- The bytes of a text are those of its characters. -/
theorem bytesOf_eq
    (text : String) :
    bytesOf text = text.toList.flatMap String.utf8EncodeChar := by
  unfold bytesOf ByteArray.toList
  rw [toList_loop, String.toUTF8_eq_toByteArray, ← String.utf8Encode_toList]
  simp [List.utf8Encode]

/-- A text is determined by its bytes. -/
theorem bytesOf_injective : Function.Injective bytesOf := by
  intro first second same
  unfold bytesOf ByteArray.toList at same
  rw [toList_loop, toList_loop] at same
  simp only [String.toUTF8_eq_toByteArray, List.reverse_nil, List.nil_append,
    List.drop_zero] at same
  apply String.toByteArray_inj.mp
  apply ByteArray.ext
  exact Array.toList_inj.mp same

/-- A decimal numeral has digits and a sign. -/
theorem mem_toString_int
    {number : Int}
    {char : Char}
    (member : char ∈ (toString number).toList) :
    char.isDigit = true ∨ char = '-' := by
  have digits : ∀ value : Nat, char ∈ value.repr.toList → char.isDigit = true := by
    intro value inside
    rw [Nat.toList_repr] at inside
    exact Nat.isDigit_of_mem_toDigits (by decide) (by decide) inside
  cases number with
  | ofNat value =>
      exact Or.inl (digits value member)
  | negSucc value =>
      have split : char ∈ "-".toList ++ (value + 1).repr.toList := by
        rw [← String.toList_append]
        exact member
      rcases List.mem_append.mp split with sign | digit
      · right
        simpa using sign
      · exact Or.inl (digits (value + 1) digit)

/-- No numeral contains a newline. -/
theorem newline_not_mem_toString_int
    (number : Int) :
    (10 : UInt8) ∉ bytesOf (toString number) := by
  rw [bytesOf_eq]
  intro member
  obtain ⟨char, inside, byte⟩ := List.mem_flatMap.mp member
  have range : 45 ≤ char.toNat ∧ char.toNat ≤ 57 := by
    rcases mem_toString_int inside with digit | rfl
    · have bounds := Char.isDigit_iff_toNat.mp digit
      have zero : '0'.toNat = 48 := rfl
      have nine : '9'.toNat = 57 := rfl
      omega
    · decide
  have single : char.utf8Size = 1 := by
    rw [Char.utf8Size_eq_one_iff]
    show char.toNat ≤ 127
    omega
  rw [String.utf8EncodeChar_eq_singleton single, List.mem_singleton] at byte
  have value := congrArg UInt8.toNat byte
  have read : char.val.toUInt8.toNat = char.toNat % 256 := rfl
  rw [read] at value
  have ten : (10 : UInt8).toNat = 10 := rfl
  rw [ten] at value
  omega

/-- The value of a hexadecimal digit. -/
theorem toNat_hexDigit
    {value : UInt8}
    (small : value.toNat < 16) :
    (hexDigit value).toNat =
      if value.toNat < 10 then value.toNat + 48 else value.toNat + 87 := by
  unfold hexDigit
  have compare : value < 10 ↔ value.toNat < 10 := UInt8.lt_iff_toNat_lt
  split
  · rename_i below
    rw [if_pos (compare.mp below), UInt8.toNat_add]
    show (value.toNat + 48) % 256 = _
    omega
  · rename_i above
    rw [if_neg (fun below => above (compare.mpr below)), UInt8.toNat_add]
    show (value.toNat + 87) % 256 = _
    omega

/-- Every byte of a hexadecimal text is a digit. -/
theorem hexDigit_of_mem_hexEncode
    {bytes : Bytes}
    {byte : UInt8}
    (member : byte ∈ hexEncode bytes) :
    ∃ value : UInt8, value.toNat < 16 ∧ byte = hexDigit value := by
  obtain ⟨source, -, digit⟩ := List.mem_flatMap.mp member
  have bounded := source.toNat_lt
  rcases List.mem_cons.mp digit with rfl | last
  · refine ⟨source / 16, ?_, rfl⟩
    rw [UInt8.toNat_div]
    exact Nat.div_lt_of_lt_mul bounded
  · refine ⟨source % 16, ?_, List.mem_singleton.mp last⟩
    rw [UInt8.toNat_mod]
    exact Nat.mod_lt _ (by decide)

/-- The value of a digit that was written for a byte's half. -/
private theorem hexValue_hexDigit
    {value : UInt8}
    (small : value.toNat < 16) :
    hexValue (hexDigit value) = some value := by
  have checked :
      ∀ value : Fin 16,
        hexValue (hexDigit (UInt8.ofNat value)) = some (UInt8.ofNat value) := by
    decide +kernel
  have found := checked ⟨value.toNat, small⟩
  rwa [UInt8.ofNat_toNat] at found

/-- Hexadecimal text is read back. -/
theorem hexDecode_hexEncode
    (bytes : Bytes) :
    hexDecode (hexEncode bytes) = some bytes := by
  induction bytes with
  | nil => rfl
  | cons byte rest inductionHypothesis =>
      have high : (byte / 16).toNat < 16 := by
        rw [UInt8.toNat_div]
        exact Nat.div_lt_of_lt_mul byte.toNat_lt
      have low : (byte % 16).toNat < 16 := by
        rw [UInt8.toNat_mod]
        exact Nat.mod_lt _ (by decide)
      have joined : byte / 16 * 16 + byte % 16 = byte := by
        have bounded := byte.toNat_lt
        apply UInt8.toNat_inj.mp
        rw [UInt8.toNat_add, UInt8.toNat_mul, UInt8.toNat_div, UInt8.toNat_mod]
        show (byte.toNat / 16 * 16 % 256 + byte.toNat % 16) % 256 = byte.toNat
        omega
      have written :
          hexEncode (byte :: rest) =
            hexDigit (byte / 16) :: hexDigit (byte % 16) :: hexEncode rest := rfl
      simp only [written, hexDecode, hexValue_hexDigit high, hexValue_hexDigit low,
        Option.bind_some, inductionHypothesis, Option.map_some, joined]

/-- Bytes are determined by their hexadecimal digits. -/
theorem hexEncode_injective : Function.Injective hexEncode := by
  intro first second same
  have read := hexDecode_hexEncode first
  rw [same, hexDecode_hexEncode] at read
  exact (Option.some.inj read).symm

/-- The text of bytes is not empty, if there are any. -/
theorem hexEncode_ne_nil
    {bytes : Bytes}
    (present : bytes ≠ []) :
    hexEncode bytes ≠ [] := by
  intro empty
  exact present (hexEncode_injective empty)

/-- No hexadecimal text contains a newline. -/
theorem newline_not_mem_hexEncode
    (bytes : Bytes) :
    (10 : UInt8) ∉ hexEncode bytes := by
  intro member
  obtain ⟨digit, small, same⟩ := hexDigit_of_mem_hexEncode member
  have ten : (10 : UInt8).toNat = 10 := rfl
  have value := congrArg UInt8.toNat same
  rw [toNat_hexDigit small, ten] at value
  split at value <;> omega

/-- The bytes of two texts, one after the other. -/
theorem bytesOf_append
    (first second : String) :
    bytesOf (first ++ second) = bytesOf first ++ bytesOf second := by
  rw [bytesOf_eq, bytesOf_eq, bytesOf_eq, String.toList_append, List.flatMap_append]

/-- The digits of a number are read on. -/
private theorem readDecimal_digits
    {digits : List Char}
    (decimal : ∀ char ∈ digits, char.isDigit = true)
    (value : Nat) :
    readDecimal value (digits.flatMap String.utf8EncodeChar) =
      some (Nat.ofDigitChars 10 digits value) := by
  induction digits generalizing value with
  | nil => rfl
  | cons char rest inductionHypothesis =>
      have bounds := Char.isDigit_iff_toNat.mp (decimal char List.mem_cons_self)
      have zero : '0'.toNat = 48 := rfl
      have nine : '9'.toNat = 57 := rfl
      rw [zero, nine] at bounds
      have single : char.utf8Size = 1 := by
        rw [Char.utf8Size_eq_one_iff]
        show char.toNat ≤ 127
        omega
      have byte : (char.val.toUInt8).toNat = char.toNat := by
        show char.toNat % 256 = char.toNat
        omega
      have digit : decimalValue char.val.toUInt8 = some (char.toNat - 48) := by
        have range : (48 ≤ char.val.toUInt8 && char.val.toUInt8 ≤ 57) = true := by
          simp only [Bool.and_eq_true, decide_eq_true_eq, UInt8.le_iff_toNat_le, byte]
          exact bounds
        simp only [decimalValue, range, if_true, byte]
      rw [List.flatMap_cons, String.utf8EncodeChar_eq_singleton single, List.singleton_append,
        readDecimal, digit, Option.bind_some,
        inductionHypothesis (fun other member => decimal other (List.mem_cons_of_mem char member)),
        Nat.ofDigitChars_cons, zero, Nat.mul_comm]

/-- A text without a sign is a number if its digits are. -/
private theorem parseInt64_of_digits
    {first : UInt8}
    {rest : Bytes}
    {number : Nat}
    (unsigned : 48 ≤ first.toNat)
    (read : readDecimal 0 (first :: rest) = some number)
    (fits : number < 2 ^ 63) :
    parseInt64 (first :: rest) = some (number : Int) := by
  have plus : first ≠ 43 := by
    rintro rfl
    exact absurd unsigned (by decide)
  have minus : first ≠ 45 := by
    rintro rfl
    exact absurd unsigned (by decide)
  have range : -2 ^ 63 ≤ (number : Int) ∧ (number : Int) < 2 ^ 63 := by omega
  unfold parseInt64
  split
  rename_i negative digits signed
  split at signed
  · rename_i same
    cases same
    exact absurd rfl plus
  · rename_i same
    cases same
    exact absurd rfl minus
  · cases signed
    rw [if_neg (List.cons_ne_nil first rest), read, Option.bind_some]
    exact if_pos range

/-- A decimal numeral is read back, if it fits into 64 bits. -/
theorem parseInt64_toString
    {number : Nat}
    (fits : number < 2 ^ 63) :
    parseInt64 (bytesOf (toString number)) = some (number : Int) := by
  have decimal : ∀ char ∈ Nat.toDigits 10 number, char.isDigit = true := by
    intro char member
    exact Nat.isDigit_of_mem_toDigits (by decide) (by decide) member
  have written :
      bytesOf (toString number) =
        (Nat.toDigits 10 number).flatMap String.utf8EncodeChar := by
    rw [bytesOf_eq]
    congr 1
    exact Nat.toList_repr
  have read := readDecimal_digits decimal 0
  rw [Nat.ofDigitChars_ten_toDigits, ← written] at read
  cases text : bytesOf (toString number) with
  | nil =>
      rw [text] at written
      have none := List.flatMap_eq_nil_iff.mp written.symm
      cases digits : Nat.toDigits 10 number with
      | nil => exact (Nat.toDigits_ne_nil digits).elim
      | cons char rest =>
          have empty := none char (by rw [digits]; exact List.mem_cons_self)
          have size := String.length_utf8EncodeChar char
          rw [empty] at size
          exact absurd size.symm char.utf8Size_pos.ne'
  | cons first rest =>
      rw [text] at read written
      refine parseInt64_of_digits ?_ read fits
      rw [readDecimal] at read
      obtain ⟨digit, found, -⟩ := Option.bind_eq_some_iff.mp read
      unfold decimalValue at found
      split at found
      · rename_i range
        simp only [Bool.and_eq_true, decide_eq_true_eq, UInt8.le_iff_toNat_le] at range
        exact range.1
      · cases found

end Texts

end SsnConsole.GoStandard
