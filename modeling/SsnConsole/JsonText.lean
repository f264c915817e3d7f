import SsnConsole.PlainObjects

/-!
# The JSON text of an object of strings

`JSON.stringify` with two spaces writes the own properties one to a line, and
`JSON.parse` reads them back: whatever the keys and the values contain, the
properties that are read are the ones that were enumerated.
-/

namespace SsnConsole.JavaScript

section Strings

/-- A hexadecimal digit. -/
def hexDigit (value : Nat) : UInt16 :=
  if value < 10 then UInt16.ofNat (48 + value) else UInt16.ofNat (87 + value)

/-- The value of a hexadecimal digit of either case. -/
def hexValue (unit : UInt16) : Option Nat :=
  if 48 ≤ unit && unit ≤ 57 then
    some (unit.toNat - 48)
  else if 97 ≤ unit && unit ≤ 102 then
    some (unit.toNat - 87)
  else if 65 ≤ unit && unit ≤ 70 then
    some (unit.toNat - 55)
  else
    none

/-- A digit is read back. -/
theorem hexValue_hexDigit
    {value : Nat}
    (small : value < 16) :
    hexValue (hexDigit value) = some value := by
  have all : ∀ value < 16, hexValue (hexDigit value) = some value := by decide
  exact all value small

/-- The first half of a surrogate pair. -/
def isHighSurrogate (unit : UInt16) : Bool :=
  0xD800 ≤ unit && unit ≤ 0xDBFF

/-- The second half of a surrogate pair. -/
def isLowSurrogate (unit : UInt16) : Bool :=
  0xDC00 ≤ unit && unit ≤ 0xDFFF

/-- The units that have an escape of two units, and its second unit. -/
def shortEscapes : List (UInt16 × UInt16) :=
  [(8, 98), (9, 116), (10, 110), (12, 102), (13, 114), (34, 34), (92, 92)]

/-- The letter of a unit's short escape. -/
def shortEscape (unit : UInt16) : Option UInt16 :=
  (shortEscapes.find? fun escape => escape.1 = unit).map Prod.snd

/-- The unit that a letter behind a backslash stands for. -/
def unescape (letter : UInt16) : Option UInt16 :=
  if letter = 47 then
    some 47
  else
    (shortEscapes.find? fun escape => escape.2 = letter).map Prod.fst

/-- The escape of any unit. -/
def unicodeEscape (unit : UInt16) : JsString :=
  [92, 117, hexDigit (unit.toNat / 4096), hexDigit (unit.toNat / 256 % 16),
    hexDigit (unit.toNat / 16 % 16), hexDigit (unit.toNat % 16)]

/-- A unit as it is written in a string: unpaired surrogates and control characters are
escaped. -/
def escapeUnit (unit : UInt16) : JsString :=
  match shortEscape unit with
  | some letter => [92, letter]
  | none =>
      if unit < 32 || isHighSurrogate unit || isLowSurrogate unit then
        unicodeEscape unit
      else
        [unit]

/-- The units of a string between its quotation marks. -/
def escape : JsString → JsString
  | [] => []
  | [unit] => escapeUnit unit
  | unit :: next :: rest =>
      if isHighSurrogate unit && isLowSurrogate next then
        unit :: next :: escape rest
      else
        escapeUnit unit ++ escape (next :: rest)

/-- `QuoteJSONString`. -/
def quote (text : JsString) : JsString :=
  34 :: escape text ++ [34]

/-- Put a unit before the string that was read. -/
def prepend (unit : UInt16) (read : JsString × JsString) : JsString × JsString :=
  (unit :: read.1, read.2)

/-- The unit that four hexadecimal digits stand for. -/
def hexUnit (first second third fourth : UInt16) : Option UInt16 := do
  let first ← hexValue first
  let second ← hexValue second
  let third ← hexValue third
  let fourth ← hexValue fourth
  some (UInt16.ofNat (first * 4096 + second * 256 + third * 16 + fourth))

/-- Read a string behind its opening quotation mark; what is left follows the closing one. -/
def readString : JsString → Option (JsString × JsString)
  | [] => none
  | unit :: rest =>
      if unit = 34 then
        some ([], rest)
      else if unit = 92 then
        match rest with
        | [] => none
        | letter :: rest =>
            if letter = 117 then
              match rest with
              | first :: second :: third :: fourth :: rest =>
                  (hexUnit first second third fourth).bind fun value =>
                    (readString rest).map (prepend value)
              | _ => none
            else
              (unescape letter).bind fun value => (readString rest).map (prepend value)
      else if unit < 32 then
        none
      else
        (readString rest).map (prepend unit)

/-- A short escape is read back. -/
theorem unescape_of_shortEscape
    {unit letter : UInt16}
    (short : shortEscape unit = some letter) :
    letter ≠ 117 ∧ unescape letter = some unit := by
  obtain ⟨⟨escaped, written⟩, found, rfl⟩ := Option.map_eq_some_iff.mp short
  have same : escaped = unit := by
    simpa using List.find?_some found
  subst same
  have all : ∀ escape ∈ shortEscapes,
      escape.2 ≠ 117 ∧ unescape escape.2 = some escape.1 := by
    intro escape member
    fin_cases member <;> decide
  exact all _ (List.mem_of_find?_eq_some found)

/-- A unit without a short escape is neither a quotation mark nor a backslash. -/
theorem plain_of_shortEscape
    {unit : UInt16}
    (long : shortEscape unit = none) :
    unit ≠ 34 ∧ unit ≠ 92 := by
  constructor
  · rintro rfl
    exact absurd long (by decide)
  · rintro rfl
    exact absurd long (by decide)

/-- The four digits of a unit are read back. -/
theorem hexUnit_unicodeEscape
    (unit : UInt16) :
    hexUnit (hexDigit (unit.toNat / 4096)) (hexDigit (unit.toNat / 256 % 16))
        (hexDigit (unit.toNat / 16 % 16)) (hexDigit (unit.toNat % 16)) =
      some unit := by
  have bound := unit.toNat_lt
  have value :
      unit.toNat / 4096 * 4096 + unit.toNat / 256 % 16 * 256 + unit.toNat / 16 % 16 * 16 +
        unit.toNat % 16 = unit.toNat := by omega
  unfold hexUnit
  rw [hexValue_hexDigit (by omega), hexValue_hexDigit (by omega), hexValue_hexDigit (by omega),
    hexValue_hexDigit (by omega)]
  simp only [Option.bind_eq_bind, Option.bind_some]
  rw [value, UInt16.ofNat_toNat]

/-- A unit that stands for itself is read as itself. -/
theorem readString_cons
    {unit : UInt16}
    (notQuote : unit ≠ 34)
    (notBackslash : unit ≠ 92)
    (notControl : ¬ unit < 32)
    (rest : JsString) :
    readString (unit :: rest) = (readString rest).map (prepend unit) := by
  rw [readString.eq_def]
  simp only [if_neg notQuote, if_neg notBackslash, if_neg notControl]

/-- Every unit is read back as it was written. -/
theorem readString_escapeUnit
    (unit : UInt16)
    (rest : JsString) :
    readString (escapeUnit unit ++ rest) = (readString rest).map (prepend unit) := by
  unfold escapeUnit
  split
  · rename_i letter short
    obtain ⟨notUnicode, read⟩ := unescape_of_shortEscape short
    show readString (92 :: letter :: rest) = _
    rw [readString.eq_def]
    simp [notUnicode, read]
  · rename_i long
    obtain ⟨notQuote, notBackslash⟩ := plain_of_shortEscape long
    split
    · unfold unicodeEscape
      rw [readString.eq_def]
      simp [hexUnit_unicodeEscape]
    · rename_i printable
      have notControl : ¬ unit < 32 := by
        intro control
        simp [control] at printable
      exact readString_cons notQuote notBackslash notControl rest

/-- Half of a surrogate pair stands for itself. -/
theorem readString_surrogate
    {unit : UInt16}
    (surrogate : isHighSurrogate unit = true ∨ isLowSurrogate unit = true)
    (rest : JsString) :
    readString (unit :: rest) = (readString rest).map (prepend unit) := by
  have large : 0xD800 ≤ unit.toNat := by
    rcases surrogate with high | low
    · have bounds := (Bool.and_eq_true_iff.mp high).1
      exact UInt16.le_iff_toNat_le.mp (of_decide_eq_true bounds)
    · have bounds := UInt16.le_iff_toNat_le.mp
        (of_decide_eq_true (Bool.and_eq_true_iff.mp low).1)
      exact Nat.le_trans (by decide) bounds
  apply readString_cons
  · rintro rfl
    exact absurd large (by decide)
  · rintro rfl
    exact absurd large (by decide)
  · intro control
    have small := UInt16.lt_iff_toNat_lt.mp control
    have limit : (32 : UInt16).toNat = 32 := rfl
    omega

/-- Every string is read back as it was quoted. -/
theorem readString_escape
    (text rest : JsString) :
    readString (escape text ++ 34 :: rest) = some (text, rest) := by
  have closed : readString (34 :: rest) = some ([], rest) := by
    rw [readString.eq_def]
    exact if_pos rfl
  induction text using escape.induct with
  | case1 => exact closed
  | case2 unit =>
      rw [escape, readString_escapeUnit, closed]
      rfl
  | case3 unit next others pair inductionHypothesis =>
      obtain ⟨high, low⟩ := Bool.and_eq_true_iff.mp pair
      rw [escape, if_pos pair, List.cons_append, List.cons_append,
        readString_surrogate (.inl high), readString_surrogate (.inr low), inductionHypothesis]
      rfl
  | case4 unit next others alone inductionHypothesis =>
      rw [escape, if_neg alone, List.append_assoc, readString_escapeUnit, inductionHypothesis]
      rfl

end Strings

section Objects

/-- One property on a line of its own. -/
def writeMember (property : Property) : JsString :=
  32 :: 32 :: (quote property.1 ++ 58 :: 32 :: quote property.2)

/-- The lines of the properties and the closing brace. -/
def writeMembers : List Property → JsString
  | [] => [10, 125]
  | property :: [] => writeMember property ++ [10, 125]
  | property :: next :: rest => writeMember property ++ 44 :: 10 :: writeMembers (next :: rest)

/-- `JSON.stringify(object, null, 2)`. -/
def stringify (object : PlainObject) : JsString :=
  match object.enumerated with
  | [] => [123, 125]
  | property :: rest => 123 :: 10 :: writeMembers (property :: rest)

/-- The white space of JSON. -/
def isSpace (unit : UInt16) : Bool :=
  unit = 9 || unit = 10 || unit = 13 || unit = 32

/-- The text behind its leading white space. -/
def skipSpace (text : JsString) : JsString :=
  text.dropWhile isSpace

/-- The text behind a unit that has to come next. -/
def expect (unit : UInt16) (text : JsString) : Option JsString :=
  match skipSpace text with
  | [] => none
  | first :: rest => if first = unit then some rest else none

/-- Read a key, a colon and a value. -/
def readMember (text : JsString) : Option (Property × JsString) := do
  let text ← expect 34 text
  let (key, text) ← readString text
  let text ← expect 58 text
  let text ← expect 34 text
  let (value, text) ← readString text
  some ((key, value), text)

/-- Read properties up to the closing brace. -/
def readMembers : Nat → JsString → Option (List Property × JsString)
  | 0, _ => none
  | fuel + 1, text =>
      (readMember text).bind fun (property, text) =>
        match expect 44 text with
        | some text =>
            (readMembers fuel text).map fun (properties, text) => (property :: properties, text)
        | none => (expect 125 text).map fun text => ([property], text)

/-- Read an object whose values are strings. -/
def readObject (text : JsString) : Option (List Property × JsString) :=
  (expect 123 text).bind fun text =>
    match expect 125 text with
    | some text => some ([], text)
    | none => readMembers text.length text

/-- `JSON.parse`, for the text of an object of strings: each property is defined, whatever its
key. -/
def parse (text : JsString) : Option PlainObject :=
  (readObject text).bind fun (properties, text) =>
    if skipSpace text = [] then
      some
        (properties.foldl (fun object property => object.define property.1 property.2)
          PlainObject.empty)
    else
      none

/-- White space before the expected unit is passed over. -/
theorem expect_space
    {unit space : UInt16}
    (blank : isSpace space = true)
    (text : JsString) :
    expect unit (space :: text) = expect unit text := by
  unfold expect skipSpace
  rw [List.dropWhile_cons_of_pos blank]

/-- A unit that is no white space is found or missed at once. -/
theorem expect_cons
    {unit first : UInt16}
    (ink : ¬ isSpace first = true)
    (text : JsString) :
    expect unit (first :: text) = if first = unit then some text else none := by
  unfold expect skipSpace
  rw [List.dropWhile_cons_of_neg ink]

/-- A property is read back from its line. -/
theorem readMember_writeMember
    (property : Property)
    (text : JsString) :
    readMember (writeMember property ++ text) = some (property, text) := by
  have shape :
      writeMember property ++ text =
        32 :: 32 :: 34 :: (escape property.1 ++
          34 :: 58 :: 32 :: 34 :: (escape property.2 ++ 34 :: text)) := by
    simp [writeMember, quote]
  unfold readMember
  rw [shape, expect_space (by decide), expect_space (by decide), expect_cons (by decide),
    if_pos rfl]
  simp only [Option.bind_eq_bind, Option.bind_some, readString_escape]
  rw [expect_cons (by decide), if_pos rfl]
  simp only [Option.bind_some]
  rw [expect_space (by decide), expect_cons (by decide), if_pos rfl]
  simp only [Option.bind_some, readString_escape]

/-- White space before a property is passed over. -/
theorem readMembers_space
    {space : UInt16}
    (blank : isSpace space = true)
    (fuel : Nat)
    (text : JsString) :
    readMembers fuel (space :: text) = readMembers fuel text := by
  cases fuel with
  | zero => rfl
  | succ fuel =>
      unfold readMembers readMember
      rw [expect_space blank]

/-- Properties are read back from their lines. -/
theorem readMembers_writeMembers
    {properties : List Property}
    {fuel : Nat}
    (nonempty : properties ≠ [])
    (enough : properties.length ≤ fuel)
    (text : JsString) :
    readMembers fuel (writeMembers properties ++ text) = some (properties, text) := by
  induction properties generalizing fuel with
  | nil => exact absurd rfl nonempty
  | cons property rest inductionHypothesis =>
      obtain ⟨fuel, rfl⟩ : ∃ less, fuel = less + 1 := ⟨fuel - 1, by simp at enough; omega⟩
      unfold readMembers
      cases rest with
      | nil =>
          have missed : expect 44 (10 :: 125 :: text) = none := by
            rw [expect_space (by decide), expect_cons (by decide), if_neg (by decide)]
          have closed : expect 125 (10 :: 125 :: text) = some text := by
            rw [expect_space (by decide), expect_cons (by decide), if_pos rfl]
          rw [writeMembers, List.append_assoc, readMember_writeMember, Option.bind_some]
          simp only [List.cons_append, List.nil_append, missed, closed, Option.map_some]
      | cons next others =>
          have separated :
              expect 44 (44 :: 10 :: (writeMembers (next :: others) ++ text)) =
                some (10 :: (writeMembers (next :: others) ++ text)) := by
            rw [expect_cons (by decide), if_pos rfl]
          have read :
              readMembers fuel (10 :: (writeMembers (next :: others) ++ text)) =
                some (next :: others, text) := by
            rw [readMembers_space (by decide)]
            apply inductionHypothesis (List.cons_ne_nil next others)
            simpa using enough
          rw [writeMembers, List.append_assoc, readMember_writeMember, Option.bind_some]
          simp only [List.cons_append, separated, read, Option.map_some]

/-- A line begins with two spaces and a quotation mark. -/
theorem writeMembers_cons
    (property : Property)
    (rest : List Property) :
    ∃ more, writeMembers (property :: rest) = 32 :: 32 :: 34 :: more := by
  cases rest with
  | nil => exact ⟨_, rfl⟩
  | cons next others => exact ⟨_, rfl⟩

/-- Every property takes up some of the text. -/
theorem length_le_writeMembers
    (properties : List Property) :
    properties.length ≤ (writeMembers properties).length := by
  fun_induction writeMembers properties with
  | case1 => exact Nat.zero_le _
  | case2 property =>
      simp only [List.length_append, List.length_cons, List.length_nil]
      omega
  | case3 property next rest inductionHypothesis =>
      simp only [List.length_append, List.length_cons] at inductionHypothesis ⊢
      omega

/-- An object's text is read back as the properties that were enumerated. -/
theorem own_parse_stringify
    (object : PlainObject)
    {trailing : JsString}
    (blank : skipSpace trailing = []) :
    ∃ parsed, parse (stringify object ++ trailing) = some parsed ∧
      parsed.own = object.enumerated := by
  have distinct : (object.enumerated.map Prod.fst).Nodup :=
    ((object.enumerated_perm.map Prod.fst).nodup_iff).mpr object.distinct
  have read :
      readObject (stringify object ++ trailing) = some (object.enumerated, trailing) := by
    unfold stringify readObject
    cases properties : object.enumerated with
    | nil =>
        simp only [List.cons_append, List.nil_append]
        rw [expect_cons (by decide), if_pos rfl, Option.bind_some, expect_cons (by decide),
          if_pos rfl]
    | cons property rest =>
        have opened :
            expect 125 (10 :: (writeMembers (property :: rest) ++ trailing)) = none := by
          obtain ⟨more, line⟩ := writeMembers_cons property rest
          rw [line, List.cons_append, List.cons_append, List.cons_append,
            expect_space (by decide), expect_space (by decide), expect_space (by decide),
            expect_cons (by decide), if_neg (by decide)]
        have enough := length_le_writeMembers (property :: rest)
        simp only [List.cons_append]
        rw [expect_cons (by decide), if_pos rfl, Option.bind_some, opened]
        simp only
        rw [readMembers_space (by decide)]
        apply readMembers_writeMembers (List.cons_ne_nil property rest)
        simp only [List.length_cons, List.length_append] at enough ⊢
        omega
  refine ⟨_, ?_, PlainObject.own_foldl_define distinct⟩
  unfold parse
  rw [read, Option.bind_some]
  exact if_pos blank

end Objects

end SsnConsole.JavaScript
