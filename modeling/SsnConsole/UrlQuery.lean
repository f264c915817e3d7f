import SsnConsole.GoStandard
import SsnConsole.StableIndex

/-!
# Query strings

Parameters are pairs of escaped texts, joined by separators that no escaped text
contains.  A name may have several values, in an order that a query string keeps;
the names themselves are written in ascending order.  Reading a query string that
was written gives every name its values back.
-/

namespace SsnConsole.UrlQuery

open Std
open SsnConsole.GoStandard

section Escaping

/-- The bytes that `url.QueryEscape` leaves as they are: letters, digits and `-_.~`. -/
def isUnreserved (byte : UInt8) : Bool :=
  (65 ≤ byte && byte ≤ 90) || (97 ≤ byte && byte ≤ 122) || (48 ≤ byte && byte ≤ 57) ||
    byte == 45 || byte == 46 || byte == 95 || byte == 126

/-- An upper-case hexadecimal digit. -/
def upperHexDigit (value : UInt8) : UInt8 :=
  if value < 10 then value + 48 else value + 55

/-- One byte of `url.QueryEscape`: a space becomes a plus sign. -/
def escapeByte (byte : UInt8) : Bytes :=
  if isUnreserved byte then
    [byte]
  else if byte = 32 then
    [43]
  else
    [37, upperHexDigit (byte / 16), upperHexDigit (byte % 16)]

/-- `url.QueryEscape`. -/
def queryEscape (text : Bytes) : Bytes :=
  text.flatMap escapeByte

/-- `url.QueryUnescape`. -/
def queryUnescape : Bytes → Option Bytes
  | [] => some []
  | 43 :: rest => (queryUnescape rest).map (32 :: ·)
  | 37 :: high :: low :: rest =>
      (hexValue high).bind fun high =>
        (hexValue low).bind fun low =>
          (queryUnescape rest).map fun text => (high * 16 + low) :: text
  | 37 :: _ => none
  | byte :: rest => (queryUnescape rest).map (byte :: ·)

/-- A property of every byte, from a check of all of them. -/
private theorem forall_byte
    {holds : UInt8 → Bool}
    (checked : ∀ value : Fin 256, holds (UInt8.ofFin value) = true)
    (byte : UInt8) :
    holds byte = true := by
  have found := checked byte.toFin
  simpa using found

/-- Upper-case digits are read as their values. -/
theorem hexValue_upperHexDigit
    (byte : UInt8) :
    hexValue (upperHexDigit (byte / 16)) = some (byte / 16) ∧
      hexValue (upperHexDigit (byte % 16)) = some (byte % 16) := by
  have both :=
    @forall_byte
      (fun byte =>
        decide (hexValue (upperHexDigit (byte / 16)) = some (byte / 16)) &&
          decide (hexValue (upperHexDigit (byte % 16)) = some (byte % 16)))
      (by decide +kernel) byte
  simpa using both

/-- A byte is its two digits. -/
theorem digits_byte
    (byte : UInt8) :
    byte / 16 * 16 + byte % 16 = byte := by
  have same :=
    @forall_byte (fun byte => decide (byte / 16 * 16 + byte % 16 = byte)) (by decide +kernel) byte
  simpa using same

/-- Bytes without a meaning of their own are read as they are. -/
theorem queryUnescape_cons
    {byte : UInt8}
    (rest : Bytes)
    (notPlus : byte ≠ 43)
    (notPercent : byte ≠ 37) :
    queryUnescape (byte :: rest) = (queryUnescape rest).map (byte :: ·) := by
  rw [queryUnescape.eq_def]
  split <;> simp_all

/-- One escaped byte is read back. -/
theorem queryUnescape_escapeByte
    (byte : UInt8)
    (rest : Bytes) :
    queryUnescape (escapeByte byte ++ rest) = (queryUnescape rest).map (byte :: ·) := by
  unfold escapeByte
  split
  · rename_i unreserved
    refine queryUnescape_cons rest ?_ ?_
    · rintro rfl
      revert unreserved
      decide
    · rintro rfl
      revert unreserved
      decide
  · split
    · rename_i space
      subst space
      rfl
    · obtain ⟨high, low⟩ := hexValue_upperHexDigit byte
      show queryUnescape (37 :: _ :: _ :: rest) = _
      simp only [queryUnescape, high, low, Option.bind_some, digits_byte]

/-- An escaped text is read back. -/
theorem queryUnescape_queryEscape
    (text : Bytes) :
    queryUnescape (queryEscape text) = some text := by
  induction text with
  | nil =>
      rfl
  | cons byte rest inductionHypothesis =>
      show queryUnescape (escapeByte byte ++ queryEscape rest) = _
      rw [queryUnescape_escapeByte, inductionHypothesis]
      rfl

/-- The bytes that separate parameters: `&`, `;` and `=`. -/
def separators : Bytes :=
  [38, 59, 61]

/-- No escaped text contains a separator. -/
theorem separator_not_mem_queryEscape
    {separator : UInt8}
    (member : separator ∈ separators)
    (text : Bytes) :
    separator ∉ queryEscape text := by
  have checked :=
    @forall_byte (fun byte => separators.all fun separator => separator ∉ escapeByte byte)
      (by decide +kernel)
  intro escaped
  obtain ⟨byte, -, inByte⟩ := List.mem_flatMap.mp escaped
  have absent := List.all_eq_true.mp (checked byte) separator member
  simp only [decide_eq_true_eq] at absent
  exact absent inByte

end Escaping

section Parameters

/-- `url.Values`. -/
abbrev Values : Type :=
  ExtTreeMap Bytes (List Bytes)

namespace Values

/-- The values of a name. -/
def valuesOf (values : Values) (name : Bytes) : List Bytes :=
  values.getD name []

/-- `Values.Set`. -/
def set (values : Values) (name value : Bytes) : Values :=
  values.insert name [value]

/-- `Values.Add`. -/
def add (values : Values) (name value : Bytes) : Values :=
  values.insert name (values.valuesOf name ++ [value])

/-- `Values.Del`. -/
def del (values : Values) (name : Bytes) : Values :=
  values.erase name

variable (values : Values) (name other value : Bytes)

/-- Setting a name leaves it one value. -/
@[simp]
theorem valuesOf_set :
    (values.set name value).valuesOf other =
      if other = name then [value] else values.valuesOf other := by
  simp only [valuesOf, set, ExtTreeMap.getD_insert, Std.compare_eq_iff_eq, @eq_comm _ name]

/-- Adding a value appends it to those of the name. -/
@[simp]
theorem valuesOf_add :
    (values.add name value).valuesOf other =
      if other = name then values.valuesOf name ++ [value] else values.valuesOf other := by
  simp only [valuesOf, add, ExtTreeMap.getD_insert, Std.compare_eq_iff_eq, @eq_comm _ name]

/-- Deleting a name leaves it no values. -/
@[simp]
theorem valuesOf_del :
    (values.del name).valuesOf other = if other = name then [] else values.valuesOf other := by
  simp only [valuesOf, del, ExtTreeMap.getD_erase, Std.compare_eq_iff_eq, @eq_comm _ name]

/-- No name has values at first. -/
@[simp]
theorem valuesOf_empty :
    (∅ : Values).valuesOf name = [] := by
  simp [valuesOf]

/-- The pairs of names and values, in ascending order of the names. -/
def pairs : List (Bytes × Bytes) :=
  values.toList.flatMap fun entry => entry.2.map fun value => (entry.1, value)

/-- Add several pairs, one after the other. -/
def addAll (pairs : List (Bytes × Bytes)) : Values :=
  pairs.foldl (fun values pair => values.add pair.1 pair.2) values

/-- Added pairs follow the values that a name has. -/
theorem valuesOf_addAll
    (pairs : List (Bytes × Bytes)) :
    (values.addAll pairs).valuesOf name =
      values.valuesOf name ++ (pairs.filter fun pair => pair.1 = name).map Prod.snd := by
  induction pairs generalizing values with
  | nil =>
      simp [addAll]
  | cons pair rest inductionHypothesis =>
      have step := inductionHypothesis (values.add pair.1 pair.2)
      simp only [addAll, List.foldl_cons] at step ⊢
      rw [step, valuesOf_add]
      by_cases named : pair.1 = name
      · simp [named]
      · simp [named, Ne.symm named]

/-- A name has one entry, if any. -/
private theorem filter_entries
    {entries : List (Bytes × List Bytes)}
    (distinct : entries.Pairwise fun first second => first.1 ≠ second.1) :
    entries.filter (fun entry => entry.1 = name) =
      (entries.find? fun entry => entry.1 = name).toList := by
  induction entries with
  | nil =>
      rfl
  | cons entry rest inductionHypothesis =>
      obtain ⟨others, distinct⟩ := List.pairwise_cons.mp distinct
      by_cases named : entry.1 = name
      · have absent : rest.filter (fun entry => entry.1 = name) = [] := by
          rw [List.filter_eq_nil_iff]
          intro other member
          simpa [← named] using (others other member).symm
        simp [named, absent]
      · simp [named, inductionHypothesis distinct]

/-- The pairs of a name are its values. -/
theorem filter_pairs :
    (values.pairs.filter fun pair => pair.1 = name).map Prod.snd = values.valuesOf name := by
  have distinct : values.toList.Pairwise fun first second => first.1 ≠ second.1 :=
    values.distinct_keys_toList.imp fun differ same => differ (Std.compare_eq_iff_eq.mpr same)
  have gathered (entries : List (Bytes × List Bytes)) :
      ((entries.flatMap fun entry => entry.2.map fun value => (entry.1, value)).filter
          fun pair => pair.1 = name).map Prod.snd =
        (entries.filter fun entry => entry.1 = name).flatMap Prod.snd := by
    induction entries with
    | nil =>
        rfl
    | cons entry rest inductionHypothesis =>
        by_cases named : entry.1 = name
        · simp [named, inductionHypothesis, List.filter_map, Function.comp_def]
        · simp [named, inductionHypothesis]
  rw [pairs, gathered, filter_entries name distinct]
  cases found : values.toList.find? fun entry => entry.1 = name with
  | none =>
      have missing : values[name]? = none := by
        by_contra stored
        obtain ⟨list, stored⟩ := Option.ne_none_iff_exists'.mp stored
        have member := ExtTreeMap.mem_toList_iff_getElem?_eq_some.mpr stored
        simpa using List.find?_eq_none.mp found _ member
      simp [valuesOf, ExtTreeMap.getD_eq_getD_getElem?, missing]
  | some entry =>
      have named : entry.1 = name := by
        simpa using List.find?_some found
      have stored : values[name]? = some entry.2 := by
        rw [← named]
        exact ExtTreeMap.mem_toList_iff_getElem?_eq_some.mp (List.mem_of_find?_eq_some found)
      simp [valuesOf, ExtTreeMap.getD_eq_getD_getElem?, stored]

/-- Only the values of the names matter for the pairs. -/
theorem pairs_congr
    {others : Values}
    (same : ∀ name, values.valuesOf name = others.valuesOf name) :
    values.pairs = others.pairs := by
  have stored (collection : Values) :
      collection.pairs =
        (collection.filter fun _ list => !list.isEmpty).toList.flatMap fun entry =>
          entry.2.map fun value => (entry.1, value) := by
    rw [ExtTreeMap.toList_filter, pairs]
    generalize collection.toList = entries
    induction entries with
    | nil =>
        rfl
    | cons entry rest inductionHypothesis =>
        obtain ⟨key, list⟩ := entry
        cases list with
        | nil =>
            simpa using inductionHypothesis
        | cons value others =>
            simpa using inductionHypothesis
  have filtered :
      (values.filter fun _ list => !list.isEmpty) = others.filter fun _ list => !list.isEmpty := by
    apply ExtTreeMap.ext_getElem?
    intro name
    have sameValues := same name
    simp only [valuesOf, ExtTreeMap.getD_eq_getD_getElem?] at sameValues
    simp only [ExtTreeMap.getElem?_filter']
    cases first : values[name]? with
    | none =>
        cases second : others[name]? with
        | none =>
            rfl
        | some list =>
            rw [first, second] at sameValues
            cases list with
            | nil => rfl
            | cons value rest => cases sameValues
    | some list =>
        cases second : others[name]? with
        | none =>
            rw [first, second] at sameValues
            cases list with
            | nil => rfl
            | cons value rest => cases sameValues
        | some other =>
            rw [first, second] at sameValues
            cases sameValues
            rfl
  rw [stored values, stored others, filtered]

/-- Adding the pairs of one collection to another appends its values. -/
theorem valuesOf_addAll_pairs
    (others : Values) :
    (values.addAll others.pairs).valuesOf name = values.valuesOf name ++ others.valuesOf name := by
  rw [valuesOf_addAll, filter_pairs]

end Values

section Text

/-- One more part is joined behind the others. -/
theorem intercalate_concat
    {α : Type}
    (separator last : List α)
    {parts : List (List α)}
    (nonempty : parts ≠ []) :
    separator.intercalate (parts ++ [last]) =
      separator.intercalate parts ++ separator ++ last := by
  induction parts with
  | nil =>
      exact (nonempty rfl).elim
  | cons part rest inductionHypothesis =>
      by_cases empty : rest = []
      · subst empty
        simp [List.intercalate_cons_cons]
      · rw [List.cons_append, List.intercalate_cons_of_ne_nil (by simp), inductionHypothesis empty,
          List.intercalate_cons_of_ne_nil empty]
        simp

/-- The text of one parameter. -/
def parameterText (pair : Bytes × Bytes) : Bytes :=
  queryEscape pair.1 ++ 61 :: queryEscape pair.2

/-- `Values.Encode`. -/
def Values.encode (values : Values) : Bytes :=
  List.intercalate [38] (values.pairs.map parameterText)

/-- A collection without values is written as the empty text, and no other. -/
theorem encode_eq_nil_iff
    (values : Values) :
    values.encode = [] ↔ values.pairs = [] := by
  unfold Values.encode
  cases values.pairs with
  | nil =>
      simp
  | cons pair rest =>
      cases rest with
      | nil => simp [parameterText]
      | cons other others => simp [parameterText, List.intercalate_cons_cons]

/-- `strings.Cut` at the first equals sign; without one the value is empty. -/
def cut (text : Bytes) : Bytes × Bytes :=
  (text.takeWhile (· != 61), (text.dropWhile (· != 61)).tail)

/-- One turn of `url.ParseQuery`: a part that cannot be read is left out. -/
def readPart (values : Values) (part : Bytes) : Values :=
  if part.contains 59 || part.isEmpty then
    values
  else
    match queryUnescape (cut part).1, queryUnescape (cut part).2 with
    | some name, some value => values.add name value
    | _, _ => values

/-- `URL.Query`, which is `url.ParseQuery` without its error. -/
def parseQuery (text : Bytes) : Values :=
  (text.splitOn 38).foldl readPart ∅

variable (values : Values)

/-- A parameter is cut at its own equals sign. -/
theorem cut_parameterText
    (pair : Bytes × Bytes) :
    cut (parameterText pair) = (queryEscape pair.1, queryEscape pair.2) := by
  have absent : ∀ byte ∈ queryEscape pair.1, (byte != 61) = true := by
    intro byte member
    have differs : byte ≠ 61 := by
      rintro rfl
      exact separator_not_mem_queryEscape (by decide) pair.1 member
    simpa using differs
  have name : (queryEscape pair.1).takeWhile (· != 61) = queryEscape pair.1 :=
    List.takeWhile_eq_self_iff.mpr absent
  have dropped : (queryEscape pair.1).dropWhile (· != 61) = [] :=
    List.dropWhile_eq_nil_iff.mpr absent
  simp [cut, parameterText, List.takeWhile_append, List.dropWhile_append, name, dropped]

/-- The separators between parameters are in none of them. -/
theorem separator_not_mem_parameterText
    {separator : UInt8}
    (member : separator ∈ [38, 59])
    (pair : Bytes × Bytes) :
    separator ∉ parameterText pair := by
  have isSeparator : separator ∈ separators := by
    fin_cases member <;> decide
  have notEquals : separator ≠ 61 := by
    fin_cases member <;> decide
  simp only [parameterText, List.mem_append, List.mem_cons, not_or]
  exact
    ⟨separator_not_mem_queryEscape isSeparator _, notEquals,
      separator_not_mem_queryEscape isSeparator _⟩

/-- A parameter is read as its pair. -/
theorem readPart_parameterText
    (pair : Bytes × Bytes) :
    readPart values (parameterText pair) = values.add pair.1 pair.2 := by
  have semicolon : 59 ∉ parameterText pair :=
    separator_not_mem_parameterText (by decide) pair
  have nonempty : (parameterText pair).isEmpty = false := by
    simp [parameterText]
  simp [readPart, semicolon, nonempty, cut_parameterText, queryUnescape_queryEscape]

/-- Parameters in any number are read in their order. -/
theorem foldl_readPart
    (pairs : List (Bytes × Bytes)) :
    (pairs.map parameterText).foldl readPart values = values.addAll pairs := by
  induction pairs generalizing values with
  | nil =>
      rfl
  | cons pair rest inductionHypothesis =>
      simp only [List.map_cons, List.foldl_cons, readPart_parameterText]
      exact inductionHypothesis _

/-- Joined parameters are read as their pairs. -/
theorem parseQuery_intercalate
    (pairs : List (Bytes × Bytes)) :
    parseQuery (List.intercalate [38] (pairs.map parameterText)) = (∅ : Values).addAll pairs := by
  by_cases empty : pairs = []
  · subst empty
    rfl
  · have parts :
        (List.intercalate [38] (pairs.map parameterText)).splitOn 38 =
          pairs.map parameterText := by
      apply List.splitOn_intercalate
      · intro part member
        obtain ⟨pair, -, rfl⟩ := List.mem_map.mp member
        exact separator_not_mem_parameterText (by decide) pair
      · simpa using empty
    rw [parseQuery, parts, foldl_readPart]

/-- Reading written values gives every name its values. -/
theorem valuesOf_parseQuery_encode
    (name : Bytes) :
    (parseQuery values.encode).valuesOf name = values.valuesOf name := by
  rw [Values.encode, parseQuery_intercalate, Values.valuesOf_addAll_pairs, Values.valuesOf_empty]
  rfl

end Text

end Parameters

end SsnConsole.UrlQuery
