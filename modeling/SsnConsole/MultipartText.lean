import SsnConsole.GoStandard
import SsnConsole.TextSubstitution

/-!
# Messages in several parts

A message has a header of fields, one in a line, and a body.  The body of a
multipart message is cut at the lines that its boundary begins; each part has a
header and a body of its own.  What was written is read back, if no value of a field
has a line break and no body has the boundary.
-/

namespace SsnConsole.MultipartText

open SsnConsole.GoStandard
open SsnConsole.TextSubstitution

/-- A field of a header: its name and its value. -/
abbrev Field : Type :=
  Bytes × Bytes

/-- A part of a body. -/
structure Part where
  fields : List Field
  body : Bytes
deriving DecidableEq

/-- A message whose body has parts. -/
structure MultipartMessage where
  fields : List Field
  parts : List Part
deriving DecidableEq

section Reader

/-- The first line, whether it ends with a carriage return or not, and what is behind it. -/
def takeLine (text : Bytes) : Option (Bytes × Bytes) :=
  let line := text.takeWhile fun byte => byte ≠ 10
  if line.length = text.length then
    none
  else
    some (if line.getLast? = some 13 then line.dropLast else line, text.drop (line.length + 1))

/-- The field of a line: a name, a colon with a space, and a value. -/
def readField (line : Bytes) : Option Field :=
  let name := line.takeWhile fun byte => byte ≠ 58
  let rest := line.drop name.length
  if rest.take 2 = [58, 32] then some (name, rest.drop 2) else none

/-- The fields of a header and the body behind its empty line; at most `fuel` lines. -/
def readHeader : Nat → Bytes → Option (List Field × Bytes)
  | 0, _ => none
  | fuel + 1, text =>
      (takeLine text).bind fun line =>
        if line.1 = [] then
          some ([], line.2)
        else
          (readField line.1).bind fun field =>
            (readHeader fuel line.2).map fun header => (field :: header.1, header.2)

/-- The part behind a delimiter. -/
def readPart (piece : Bytes) : Option Part :=
  (takeLine piece).bind fun line =>
    if line.1 = [] then
      (readHeader line.2.length line.2).map fun header => ⟨header.1, header.2⟩
    else
      none

/-- The parts behind the delimiters, up to the one that closes the body. -/
def readPieces : List Bytes → Option (List Part)
  | [] => none
  | piece :: pieces =>
      if [45, 45].isPrefixOf piece then
        some []
      else
        (readPart piece).bind fun part => (readPieces pieces).map (part :: ·)

/-- What begins a delimiter: a line break, two hyphens and the boundary. -/
def delimiter (boundary : Bytes) : Bytes :=
  13 :: 10 :: 45 :: 45 :: boundary

/-- The parts of a body; what is before the first delimiter does not count. -/
def readParts (boundary body : Bytes) : Option (List Part) :=
  readPieces (split (delimiter boundary) (13 :: 10 :: body)).tail

/-- What precedes the boundary in the type of alternatives. -/
def alternativeType : Bytes :=
  bytesOf "multipart/alternative; boundary=\""

/-- The boundary that the type of a message's content gives. -/
def boundaryOf (contentType : Bytes) : Option Bytes :=
  if alternativeType.isPrefixOf contentType then
    some ((contentType.drop alternativeType.length).takeWhile fun byte => byte ≠ 34)
  else
    none

/-- A message with its parts. -/
def readMessage (text : Bytes) : Option MultipartMessage :=
  (readHeader text.length text).bind fun header =>
    (header.1.lookup (bytesOf "Content-Type")).bind fun contentType =>
      (boundaryOf contentType).bind fun boundary =>
        (readParts boundary header.2).map fun parts => ⟨header.1, parts⟩

end Reader

section Writer

/-- A line with a field. -/
def writeField (field : Field) : Bytes :=
  field.1 ++ 58 :: 32 :: field.2 ++ [13, 10]

/-- A header with its empty line. -/
def writeHeader (fields : List Field) : Bytes :=
  fields.flatMap writeField ++ [13, 10]

/-- A part behind its delimiter. -/
def writePart (part : Part) : Bytes :=
  13 :: 10 :: (writeHeader part.fields ++ part.body)

/-- A body behind the line break that its first delimiter begins with. -/
def writeParts (boundary : Bytes) (parts : List Part) : Bytes :=
  parts.flatMap (fun part => delimiter boundary ++ writePart part) ++ delimiter boundary ++
    [45, 45, 13, 10]

end Writer

section Fields

/-- Whether a text has neither a carriage return nor a line feed. -/
def Unbroken (text : Bytes) : Prop :=
  13 ∉ text ∧ 10 ∉ text

/-- Whether a field can be written in a line. -/
structure InLine (field : Field) : Prop where
  name : field.1 ≠ []
  colon : 58 ∉ field.1
  unbroken : Unbroken field.1
  value : Unbroken field.2

/-- A line is read up to its break. -/
theorem takeLine_append
    {line : Bytes}
    (unbroken : Unbroken line)
    (rest : Bytes) :
    takeLine (line ++ 13 :: 10 :: rest) = some (line, rest) := by
  have passed : ∀ byte ∈ line ++ [13], decide (byte ≠ 10) = true := by
    intro byte member
    apply decide_eq_true
    rintro rfl
    rcases List.mem_append.mp member with inside | last
    · exact unbroken.2 inside
    · exact absurd (List.mem_singleton.mp last) (by decide)
  have whole : line ++ 13 :: 10 :: rest = (line ++ [13]) ++ 10 :: rest := by simp
  have taken :
      (line ++ 13 :: 10 :: rest).takeWhile (fun byte => decide (byte ≠ 10)) = line ++ [13] := by
    rw [whole, List.takeWhile_append_of_pos passed, List.takeWhile_cons_of_neg (by simp),
      List.append_nil]
  have shorter : ¬ (line ++ [13]).length = (line ++ 13 :: 10 :: rest).length := by
    simp only [List.length_append, List.length_cons, List.length_nil]
    omega
  have left : (line ++ 13 :: 10 :: rest).drop ((line ++ [13]).length + 1) = rest := by
    rw [whole, List.drop_append]
    simp
  simp only [takeLine, taken, if_neg shorter, left]
  simp

/-- A field is read back. -/
theorem readField_append
    {name : Bytes}
    (colon : 58 ∉ name)
    (value : Bytes) :
    readField (name ++ 58 :: 32 :: value) = some (name, value) := by
  have taken :
      (name ++ 58 :: 32 :: value).takeWhile (fun byte => decide (byte ≠ 58)) = name := by
    have passed : ∀ byte ∈ name, decide (byte ≠ 58) = true := by
      intro byte member
      apply decide_eq_true
      rintro rfl
      exact colon member
    rw [List.takeWhile_append_of_pos passed, List.takeWhile_cons_of_neg (by simp),
      List.append_nil]
  simp only [readField, taken, List.drop_left]
  rfl

/-- A header is read back, and the body behind it. -/
theorem readHeader_writeHeader
    {fields : List Field}
    (inLine : ∀ field ∈ fields, InLine field)
    (body : Bytes)
    {fuel : Nat}
    (enough : fields.length < fuel) :
    readHeader fuel (writeHeader fields ++ body) = some (fields, body) := by
  induction fields generalizing fuel with
  | nil =>
      cases fuel with
      | zero => cases enough
      | succ fuel =>
          have read := takeLine_append ⟨List.not_mem_nil, List.not_mem_nil⟩ body
          have empty : writeHeader [] ++ body = [] ++ 13 :: 10 :: body := rfl
          rw [empty, readHeader, read]
          rfl
  | cons field fields inductionHypothesis =>
      cases fuel with
      | zero => cases enough
      | succ fuel =>
          have first := inLine field List.mem_cons_self
          have rest :=
            inductionHypothesis (fun other member => inLine other (List.mem_cons_of_mem _ member))
              (Nat.lt_of_succ_lt_succ enough)
          have unbroken : Unbroken (field.1 ++ 58 :: 32 :: field.2) := by
            constructor
            · simp [first.unbroken.1, first.value.1]
            · simp [first.unbroken.2, first.value.2]
          have nonempty : field.1 ++ 58 :: 32 :: field.2 ≠ [] :=
            List.append_ne_nil_of_left_ne_nil first.name _
          have written :
              writeHeader (field :: fields) ++ body =
                (field.1 ++ 58 :: 32 :: field.2) ++
                  13 :: 10 :: (writeHeader fields ++ body) := by
            simp [writeHeader, writeField]
          rw [written, readHeader, takeLine_append unbroken, Option.bind_some, if_neg nonempty,
            readField_append first.colon, Option.bind_some, rest]
          rfl

/-- A header has more bytes than fields. -/
theorem length_lt_writeHeader
    (fields : List Field)
    (body : Bytes) :
    fields.length < (writeHeader fields ++ body).length := by
  have lines : fields.length ≤ (fields.flatMap writeField).length := by
    induction fields with
    | nil => exact Nat.zero_le _
    | cons field fields inductionHypothesis =>
        rw [List.flatMap_cons, List.length_append, List.length_cons]
        have line : 1 ≤ (writeField field).length := by
          simp only [writeField, List.length_append, List.length_cons, List.length_nil]
          omega
        omega
  unfold writeHeader
  simp only [List.length_append, List.length_cons, List.length_nil]
  omega

end Fields

section Parts

/-- Whether a part can be told from a delimiter. -/
structure Delimited (boundary : Bytes) (part : Part) : Prop where
  inLine : ∀ field ∈ part.fields, InLine field
  absent : ¬ delimiter boundary <:+: writePart part

/-- A part is read back. -/
theorem readPart_writePart
    {part : Part}
    (inLine : ∀ field ∈ part.fields, InLine field) :
    readPart (writePart part) = some part := by
  have start :=
    takeLine_append ⟨List.not_mem_nil, List.not_mem_nil⟩ (writeHeader part.fields ++ part.body)
  have header :=
    readHeader_writeHeader inLine part.body (length_lt_writeHeader part.fields part.body)
  unfold readPart writePart
  rw [List.nil_append] at start
  rw [start, Option.bind_some, if_pos rfl, header]
  rfl

/-- A body's pieces are its parts and what closes it. -/
theorem split_writeParts
    {boundary : Bytes}
    (unbroken : 13 ∉ boundary)
    {parts : List Part}
    (delimited : ∀ part ∈ parts, Delimited boundary part) :
    split (delimiter boundary) (writeParts boundary parts) =
      [] :: (parts.map writePart ++ [[45, 45, 13, 10]]) := by
  have once : (13 : UInt8) ∉ 10 :: 45 :: 45 :: boundary := by
    simp [unbroken]
  have closing : ¬ delimiter boundary <:+: [45, 45, 13, 10] := by
    intro occurs
    have bounded := occurs.length_le
    cases boundary with
    | nil => exact absurd occurs (by decide)
    | cons byte boundary =>
        simp only [delimiter, List.length_cons, List.length_nil] at bounded
        omega
  -- Behind a delimiter, the pieces of the rest are those of the part and of what follows.
  have behind :
      ∀ {parts : List Part}, (∀ part ∈ parts, Delimited boundary part) →
        ∀ piece, ¬ delimiter boundary <:+: piece →
          split (delimiter boundary) (piece ++ writeParts boundary parts) =
            piece :: (parts.map writePart ++ [[45, 45, 13, 10]]) := by
    intro parts
    induction parts with
    | nil =>
        intro _ piece absent
        have last := split_append once absent [45, 45, 13, 10]
        have only := split_eq_singleton closing
        unfold delimiter at only
        rw [only, List.append_assoc] at last
        exact last
    | cons part parts inductionHypothesis =>
        intro delimited piece absent
        have rest :=
          inductionHypothesis (fun other member => delimited other (List.mem_cons_of_mem _ member))
            (writePart part) (delimited part List.mem_cons_self).absent
        have first := split_append once absent (writePart part ++ writeParts boundary parts)
        have written :
            piece ++ writeParts boundary (part :: parts) =
              piece ++ delimiter boundary ++ (writePart part ++ writeParts boundary parts) := by
          simp [writeParts]
        rw [written]
        unfold delimiter at rest ⊢
        rw [rest] at first
        exact first
  have none : ¬ delimiter boundary <:+: [] := by
    intro occurs
    exact absurd (List.infix_nil.mp occurs) (List.cons_ne_nil _ _)
  exact behind delimited [] none

/-- The parts of a body are read back. -/
theorem readParts_writeParts
    {boundary body : Bytes}
    (unbroken : 13 ∉ boundary)
    {parts : List Part}
    (delimited : ∀ part ∈ parts, Delimited boundary part)
    (written : 13 :: 10 :: body = writeParts boundary parts) :
    readParts boundary body = some parts := by
  have pieces : readPieces (parts.map writePart ++ [[45, 45, 13, 10]]) = some parts := by
    clear written
    induction parts with
    | nil => rfl
    | cons part parts inductionHypothesis =>
        have rest := inductionHypothesis fun other member =>
          delimited other (List.mem_cons_of_mem _ member)
        have opened : ¬ ([45, 45] : Bytes).isPrefixOf (writePart part) = true := by
          simp [writePart, List.isPrefixOf]
        rw [List.map_cons, List.cons_append, readPieces, if_neg opened,
          readPart_writePart (delimited part List.mem_cons_self).inLine, Option.bind_some, rest]
        rfl
  unfold readParts
  rw [written, split_writeParts unbroken delimited, List.tail_cons, pieces]

/-- A boundary that a header is too short for is in a part only if it is in its body. -/
theorem not_delimiter_infix
    {boundary : Bytes}
    {part : Part}
    (unbroken : 10 ∉ boundary)
    (long : (writeHeader part.fields).length + 2 ≤ boundary.length)
    (absent : ¬ boundary <:+: part.body) :
    ¬ delimiter boundary <:+: writePart part := by
  intro occurs
  have contained : boundary <:+: delimiter boundary :=
    ⟨[13, 10, 45, 45], [], by simp [delimiter]⟩
  have written :
      writePart part =
        (13 :: 10 :: (part.fields.flatMap writeField ++ [13])) ++ 10 :: part.body := by
    simp [writePart, writeHeader]
  rw [written] at occurs
  rcases infix_append_cons unbroken (contained.trans occurs) with inHeader | inBody
  · have bounded := inHeader.length_le
    unfold writeHeader at long
    simp only [List.length_cons, List.length_append, List.length_nil] at bounded long
    omega
  · exact absent inBody

end Parts

end SsnConsole.MultipartText
