import Mathlib

/-!
# CBOR items and their bytes

Items of the concise binary object representation, their encoding with the
shortest heads and a decoder that reads one item from the front of its input.
Decoding what was encoded gives the item back, whatever follows it.
-/

namespace SsnConsole.Cbor

/-- A data item. -/
inductive Item
  | unsigned (value : Nat)
  | bytes (content : List UInt8)
  | text (content : String)
  | array (items : List Item)
  | map (entries : List (Item × Item))
  | null

/-- Reads a value from the front of its input and returns what follows it. -/
abbrev Reader (α : Type) : Type :=
  List UInt8 → Option (α × List UInt8)

section Numbers

/-- The low bytes of a number, the most significant first. -/
def bigEndian : Nat → Nat → List UInt8
  | 0, _ => []
  | width + 1, value =>
      UInt8.ofNat (value / 256 ^ width) :: bigEndian width (value % 256 ^ width)

/-- The number that bytes denote, the most significant first. -/
def number (content : List UInt8) : Nat :=
  content.foldl (fun value byte => 256 * value + byte.toNat) 0

/-- A number in groups of seven bits, the least significant first. -/
def groups (value : Nat) : List UInt8 :=
  if value < 128 then
    [UInt8.ofNat value]
  else
    UInt8.ofNat (value % 128 + 128) :: groups (value / 128)

/-- Read a number in groups of seven bits. -/
def readGroups : Reader Nat
  | [] => none
  | byte :: rest =>
      if byte.toNat < 128 then
        some (byte.toNat, rest)
      else
        (readGroups rest).map fun (high, rest) => (128 * high + (byte.toNat - 128), rest)

/-- Read a fixed number of bytes. -/
def readBytes (count : Nat) : Reader (List UInt8) :=
  fun input =>
    if input.length < count then none else some (input.take count, input.drop count)

/-- Read a number of fixed width, the most significant byte first. -/
def readNumber (width : Nat) : Reader Nat :=
  fun input => (readBytes width input).map fun (content, rest) => (number content, rest)

/-- A number that fits has as many bytes as its width. -/
@[simp] theorem length_bigEndian
    (width value : Nat) :
    (bigEndian width value).length = width := by
  induction width generalizing value with
  | zero => rfl
  | succ width ih => simp [bigEndian, ih]

/-- Leading bytes count for as many places as follow them. -/
private theorem foldl_number
    (content : List UInt8)
    (high : Nat) :
    content.foldl (fun value byte => 256 * value + byte.toNat) high =
      high * 256 ^ content.length + number content := by
  induction content generalizing high with
  | nil => simp [number]
  | cons byte content ih =>
      have first := ih (256 * high + byte.toNat)
      have second := ih (256 * 0 + byte.toNat)
      simp only [number, List.foldl_cons, List.length_cons] at first second ⊢
      rw [first, second, pow_succ]
      ring

/-- Bytes denote the number that they were made from, if it fits. -/
theorem number_bigEndian
    {width value : Nat}
    (fits : value < 256 ^ width) :
    number (bigEndian width value) = value := by
  induction width generalizing value with
  | zero =>
      have zero : value = 0 := by simpa using fits
      rw [zero]
      rfl
  | succ width ih =>
      have leading : value / 256 ^ width < 256 := by
        rw [Nat.div_lt_iff_lt_mul (by positivity), ← pow_succ']
        exact fits
      have trailing : number (bigEndian width (value % 256 ^ width)) = value % 256 ^ width :=
        ih (Nat.mod_lt value (by positivity))
      have byte : (UInt8.ofNat (value / 256 ^ width)).toNat = value / 256 ^ width := by
        simpa using Nat.mod_eq_of_lt leading
      have split := foldl_number (bigEndian width (value % 256 ^ width)) (value / 256 ^ width)
      rw [length_bigEndian, trailing] at split
      simp only [bigEndian, number, List.foldl_cons, byte, Nat.mul_zero, Nat.zero_add]
      rw [split, Nat.mul_comm]
      exact Nat.div_add_mod value (256 ^ width)

/-- The first byte counts for as many places as follow it. -/
theorem number_cons
    (byte : UInt8)
    (content : List UInt8) :
    number (byte :: content) = byte.toNat * 256 ^ content.length + number content := by
  have split := foldl_number content (256 * 0 + byte.toNat)
  have high : 256 * 0 + byte.toNat = byte.toNat := by
    omega
  change number (byte :: content) = _ at split
  rw [high] at split
  exact split

/-- Bytes denote a number that fits in them. -/
theorem number_lt
    (content : List UInt8) :
    number content < 256 ^ content.length := by
  induction content with
  | nil => decide
  | cons byte content ih =>
      have fits : (byte.toNat + 1) * 256 ^ content.length ≤ 256 * 256 ^ content.length :=
        Nat.mul_le_mul_right _ byte.toNat_lt
      rw [number_cons, List.length_cons, pow_succ']
      rw [Nat.add_mul, Nat.one_mul] at fits
      omega

/-- Bytes are compared as the numbers that they are. -/
theorem compare_byte
    (first second : UInt8) :
    compare first second = compare first.toNat second.toNat := by
  change compareOfLessAndEq first second = compareOfLessAndEq first.toNat second.toNat
  unfold compareOfLessAndEq
  simp only [UInt8.lt_iff_toNat_lt, UInt8.toNat_inj]

/-- The high places decide before the low ones. -/
private theorem compare_places
    {places low otherLow : Nat}
    (fits : low < places)
    (otherFits : otherLow < places)
    (high otherHigh : Nat) :
    compare (high * places + low) (otherHigh * places + otherLow) =
      (compare high otherHigh).then (compare low otherLow) := by
  rcases Nat.lt_trichotomy high otherHigh with less | rfl | more
  · have above : (high + 1) * places ≤ otherHigh * places := Nat.mul_le_mul_right _ less
    have sum : high * places + low < otherHigh * places + otherLow := by
      rw [Nat.add_mul, Nat.one_mul] at above
      omega
    rw [Nat.compare_eq_lt.mpr less, Nat.compare_eq_lt.mpr sum]
    rfl
  · have same : compare high high = .eq := Nat.compare_eq_eq.mpr rfl
    rw [same]
    change _ = compare low otherLow
    rcases Nat.lt_trichotomy low otherLow with less | rfl | more
    · have sum : high * places + low < high * places + otherLow := Nat.add_lt_add_left less _
      rw [Nat.compare_eq_lt.mpr less, Nat.compare_eq_lt.mpr sum]
    · rw [Nat.compare_eq_eq.mpr rfl, Nat.compare_eq_eq.mpr rfl]
    · have sum : high * places + otherLow < high * places + low := Nat.add_lt_add_left more _
      rw [Nat.compare_eq_gt.mpr more, Nat.compare_eq_gt.mpr sum]
  · have above : (otherHigh + 1) * places ≤ high * places := Nat.mul_le_mul_right _ more
    have sum : otherHigh * places + otherLow < high * places + low := by
      rw [Nat.add_mul, Nat.one_mul] at above
      omega
    rw [Nat.compare_eq_gt.mpr more, Nat.compare_eq_gt.mpr sum]
    rfl

/-- As many bytes are compared as the numbers that they denote. -/
theorem compare_number
    {first second : List UInt8}
    (width : first.length = second.length) :
    compare first second = compare (number first) (number second) := by
  induction first generalizing second with
  | nil =>
      rw [List.length_eq_zero_iff.mp width.symm]
      rfl
  | cons byte content ih =>
      cases second with
      | nil => cases width
      | cons other rest =>
          have same : content.length = rest.length := Nat.succ.inj width
          have below := number_lt content
          rw [same] at below
          rw [List.compare_cons_cons, ih same, compare_byte, number_cons, number_cons, same,
            compare_places below (number_lt rest)]

/-- The same bytes behind as many others do not count. -/
theorem compare_append_right
    {first second : List UInt8}
    (width : first.length = second.length)
    (common : List UInt8) :
    compare (first ++ common) (second ++ common) = compare first second := by
  induction first generalizing second with
  | nil =>
      rw [List.length_eq_zero_iff.mp width.symm]
      exact Std.ReflOrd.compare_self
  | cons byte content ih =>
      cases second with
      | nil => cases width
      | cons other rest =>
          have below := ih (Nat.succ.inj width)
          rw [List.cons_append, List.cons_append, List.compare_cons_cons, List.compare_cons_cons,
            below]

/-- The bytes at the front are read whatever follows them. -/
@[simp] theorem readBytes_append
    (content rest : List UInt8) :
    readBytes content.length (content ++ rest) = some (content, rest) := by
  simp [readBytes]

/-- A number of fixed width is read back. -/
theorem readNumber_bigEndian
    {width value : Nat}
    (fits : value < 256 ^ width)
    (rest : List UInt8) :
    readNumber width (bigEndian width value ++ rest) = some (value, rest) := by
  have front := readBytes_append (bigEndian width value) rest
  rw [length_bigEndian] at front
  simp [readNumber, front, number_bigEndian fits]

/-- A number in groups is read back. -/
theorem readGroups_groups
    (value : Nat)
    (rest : List UInt8) :
    readGroups (groups value ++ rest) = some (value, rest) := by
  induction value using groups.induct with
  | case1 value small =>
      have byte : (UInt8.ofNat value).toNat = value := by
        simpa using Nat.mod_eq_of_lt (by omega : value < 256)
      rw [groups, if_pos small]
      simp [readGroups, byte, small]
  | case2 value large ih =>
      have byte : (UInt8.ofNat (value % 128 + 128)).toNat = value % 128 + 128 := by
        simpa using Nat.mod_eq_of_lt (by omega : value % 128 + 128 < 256)
      have whole : 128 * (value / 128) + (value % 128 + 128 - 128) = value := by
        rw [Nat.add_sub_cancel]
        exact Nat.div_add_mod value 128
      rw [groups, if_neg large, List.cons_append, readGroups, byte, if_neg (by omega), ih]
      simp only [Option.map_some, whole]

end Numbers

section Heads

/-- The head of an item: its major type and its argument in the fewest bytes.  Arguments
from `2 ^ 64` on have no head in the format; here the reserved value 28 and groups of
seven bits stand for them, so that every item has bytes. -/
def head (major argument : Nat) : List UInt8 :=
  if argument < 24 then
    [UInt8.ofNat (32 * major + argument)]
  else if argument < 256 ^ 1 then
    UInt8.ofNat (32 * major + 24) :: bigEndian 1 argument
  else if argument < 256 ^ 2 then
    UInt8.ofNat (32 * major + 25) :: bigEndian 2 argument
  else if argument < 256 ^ 4 then
    UInt8.ofNat (32 * major + 26) :: bigEndian 4 argument
  else if argument < 256 ^ 8 then
    UInt8.ofNat (32 * major + 27) :: bigEndian 8 argument
  else
    UInt8.ofNat (32 * major + 28) :: groups argument

/-- Read the argument that the low five bits of a head announce. -/
def readArgument (info : Nat) : Reader Nat :=
  fun input =>
    if info < 24 then
      some (info, input)
    else
      match info with
      | 24 => readNumber 1 input
      | 25 => readNumber 2 input
      | 26 => readNumber 4 input
      | 27 => readNumber 8 input
      | 28 => readGroups input
      | _ => none

/-- Read the major type and the argument of a head. -/
def readHead : Reader (Nat × Nat)
  | [] => none
  | first :: rest =>
      (readArgument (first.toNat % 32) rest).map fun (argument, rest) =>
        ((first.toNat / 32, argument), rest)

/-- The first byte of a head holds the major type and what announces the argument. -/
private theorem readHead_cons
    {major info argument : Nat}
    {content rest : List UInt8}
    (typed : major < 8)
    (short : info < 32)
    (read : readArgument info (content ++ rest) = some (argument, rest)) :
    readHead (UInt8.ofNat (32 * major + info) :: content ++ rest) =
      some ((major, argument), rest) := by
  have byte : (UInt8.ofNat (32 * major + info)).toNat = 32 * major + info := by
    simpa using Nat.mod_eq_of_lt (by omega : 32 * major + info < 256)
  have low : (32 * major + info) % 32 = info := by omega
  have high : (32 * major + info) / 32 = major := by omega
  simp only [List.cons_append, readHead, byte, low, high, read, Option.map_some]

/-- A head is read back. -/
theorem readHead_head
    {major : Nat}
    (typed : major < 8)
    (argument : Nat)
    (rest : List UInt8) :
    readHead (head major argument ++ rest) = some ((major, argument), rest) := by
  unfold head
  split_ifs with tiny one two four eight
  · apply readHead_cons typed (by omega)
    simp [readArgument, tiny]
  · apply readHead_cons typed (by omega)
    exact readNumber_bigEndian one rest
  · apply readHead_cons typed (by omega)
    exact readNumber_bigEndian two rest
  · apply readHead_cons typed (by omega)
    exact readNumber_bigEndian four rest
  · apply readHead_cons typed (by omega)
    exact readNumber_bigEndian eight rest
  · apply readHead_cons typed (by omega)
    exact readGroups_groups argument rest

/-- A head has at least one byte. -/
theorem length_head_pos
    (major argument : Nat) :
    0 < (head major argument).length := by
  unfold head
  split_ifs <;> simp

end Heads

section Items

mutual

/-- The bytes of an item. -/
def Item.encode : Item → List UInt8
  | .unsigned value => head 0 value
  | .bytes content => head 2 content.length ++ content
  | .text content =>
      head 3 content.toUTF8.data.toList.length ++ content.toUTF8.data.toList
  | .array items => head 4 items.length ++ encodeItems items
  | .map entries => head 5 entries.length ++ encodeEntries entries
  | .null => head 7 22

/-- The bytes of items in succession. -/
def encodeItems : List Item → List UInt8
  | [] => []
  | item :: items => item.encode ++ encodeItems items

/-- The bytes of entries in succession, each its key and its value. -/
def encodeEntries : List (Item × Item) → List UInt8
  | [] => []
  | (key, value) :: entries => key.encode ++ value.encode ++ encodeEntries entries

end

/-- Read one value after another, a fixed number of times. -/
def times {α : Type} (read : Reader α) : Nat → Reader (List α)
  | 0, input => some ([], input)
  | count + 1, input =>
      (read input).bind fun (value, rest) =>
        (times read count rest).map fun (values, rest) => (value :: values, rest)

/-- Read a key and its value. -/
def readEntry (read : Reader Item) : Reader (Item × Item) :=
  fun input =>
    (read input).bind fun (key, rest) =>
      (read rest).map fun (value, rest) => ((key, value), rest)

/-- Read the content that the head of an item announces. -/
def readContent (read : Reader Item) (major argument : Nat) : Reader Item :=
  fun input =>
    match major with
    | 0 => some (.unsigned argument, input)
    | 2 => (readBytes argument input).map fun (content, rest) => (.bytes content, rest)
    | 3 =>
        (readBytes argument input).bind fun (content, rest) =>
          (String.fromUTF8? content.toByteArray).map fun content => (.text content, rest)
    | 4 => (times read argument input).map fun (items, rest) => (.array items, rest)
    | 5 =>
        (times (readEntry read) argument input).map fun (entries, rest) =>
          (.map entries, rest)
    | 7 => if argument = 22 then some (.null, input) else none
    | _ => none

/-- Read an item that nests at most as deep as the fuel allows. -/
def readItem : Nat → Reader Item
  | 0, _ => none
  | fuel + 1, input =>
      (readHead input).bind fun ((major, argument), rest) =>
        readContent (readItem fuel) major argument rest

/-- The item at the front of the input; its bytes bound how deep it nests. -/
def Item.decode (input : List UInt8) : Option Item :=
  (readItem input.length input).map Prod.fst

/-- An item whose head and content are read is read. -/
private theorem readItem_head
    {item : Item}
    {major argument fuel : Nat}
    {content rest : List UInt8}
    (typed : major < 8)
    (read : readContent (readItem fuel) major argument (content ++ rest) = some (item, rest)) :
    readItem (fuel + 1) (head major argument ++ content ++ rest) = some (item, rest) := by
  rw [List.append_assoc, readItem, readHead_head typed]
  exact read

/-- Text is read back from its bytes. -/
private theorem fromUTF8_toUTF8
    (content : String) :
    String.fromUTF8? content.toUTF8.data.toList.toByteArray = some content := by
  have same : content.toUTF8.data.toList.toByteArray = content.toUTF8 := by
    apply ByteArray.ext
    rw [List.data_toByteArray, Array.toArray_toList]
  rw [same]
  exact dif_pos content.isValidUTF8

/-- The content of an item takes fewer bytes than the item. -/
private theorem content_le
    {major argument fuel : Nat}
    {content : List UInt8}
    (enough : (head major argument ++ content).length ≤ fuel) :
    ∃ less, fuel = less + 1 ∧ content.length ≤ less := by
  have positive := length_head_pos major argument
  rw [List.length_append] at enough
  exact ⟨fuel - 1, by omega, by omega⟩

mutual

/-- An item is read back from the front of its bytes. -/
theorem readItem_encode :
    (item : Item) →
      ∀ {fuel : Nat} (rest : List UInt8),
        item.encode.length ≤ fuel → readItem fuel (item.encode ++ rest) = some (item, rest)
  | .unsigned value, fuel, rest, enough => by
      rw [Item.encode, ← List.append_nil (head 0 value)] at enough ⊢
      obtain ⟨less, rfl, -⟩ := content_le enough
      exact readItem_head (by omega) rfl
  | .bytes content, fuel, rest, enough => by
      rw [Item.encode] at enough ⊢
      obtain ⟨less, rfl, -⟩ := content_le enough
      apply readItem_head (by omega)
      simp only [readContent, readBytes_append, Option.map_some]
  | .text content, fuel, rest, enough => by
      rw [Item.encode] at enough ⊢
      obtain ⟨less, rfl, -⟩ := content_le enough
      apply readItem_head (by omega)
      simp only [readContent, readBytes_append, Option.bind_some, fromUTF8_toUTF8,
        Option.map_some]
  | .array items, fuel, rest, enough => by
      rw [Item.encode] at enough ⊢
      obtain ⟨less, rfl, fits⟩ := content_le enough
      apply readItem_head (by omega)
      simp only [readContent, times_readItem items rest fits, Option.map_some]
  | .map entries, fuel, rest, enough => by
      rw [Item.encode] at enough ⊢
      obtain ⟨less, rfl, fits⟩ := content_le enough
      apply readItem_head (by omega)
      simp only [readContent, times_readEntry entries rest fits, Option.map_some]
  | .null, fuel, rest, enough => by
      rw [Item.encode, ← List.append_nil (head 7 22)] at enough ⊢
      obtain ⟨less, rfl, -⟩ := content_le enough
      exact readItem_head (by omega) rfl

/-- Items in succession are read back. -/
theorem times_readItem :
    (items : List Item) →
      ∀ {fuel : Nat} (rest : List UInt8),
        (encodeItems items).length ≤ fuel →
          times (readItem fuel) items.length (encodeItems items ++ rest) = some (items, rest)
  | [], _, _, _ => rfl
  | item :: items, fuel, rest, enough => by
      rw [encodeItems, List.length_append] at enough
      have first := readItem_encode item (encodeItems items ++ rest) (by omega : _ ≤ fuel)
      have others := times_readItem items rest (by omega : _ ≤ fuel)
      rw [encodeItems, List.append_assoc, List.length_cons, times, first]
      simp only [Option.bind_some, others, Option.map_some]

/-- Entries in succession are read back. -/
theorem times_readEntry :
    (entries : List (Item × Item)) →
      ∀ {fuel : Nat} (rest : List UInt8),
        (encodeEntries entries).length ≤ fuel →
          times (readEntry (readItem fuel)) entries.length (encodeEntries entries ++ rest) =
            some (entries, rest)
  | [], _, _, _ => rfl
  | (key, value) :: entries, fuel, rest, enough => by
      rw [encodeEntries, List.length_append, List.length_append] at enough
      have name :=
        readItem_encode key (value.encode ++ (encodeEntries entries ++ rest))
          (by omega : _ ≤ fuel)
      have content := readItem_encode value (encodeEntries entries ++ rest) (by omega : _ ≤ fuel)
      have others := times_readEntry entries rest (by omega : _ ≤ fuel)
      rw [encodeEntries, List.append_assoc, List.append_assoc, List.length_cons, times, readEntry,
        name]
      simp only [Option.bind_some, content, others, Option.map_some]

end

/-- An item is decoded from its bytes. -/
theorem decode_encode
    (item : Item) :
    Item.decode item.encode = some item := by
  have read := readItem_encode item [] le_rfl
  rw [List.append_nil] at read
  rw [Item.decode, read]
  rfl

example :
    (Item.map [(.text "id", .bytes [1, 2]), (.text "at", .array [.unsigned 500, .null])]).encode =
      [0xa2, 0x62, 0x69, 0x64, 0x42, 1, 2, 0x62, 0x61, 0x74, 0x82, 0x19, 1, 0xf4, 0xf6] := by
  decide +kernel

end Items

end SsnConsole.Cbor
