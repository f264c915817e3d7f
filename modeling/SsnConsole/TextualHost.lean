import SsnConsole.BackendTypes

/-!
# A concrete host

The textual forms of UUIDs and principals as the canister's libraries write
them, with identifiers drawn in sequence.  Runs on fixed inputs are evaluated on
this host; it accepts no token.
-/

namespace SsnConsole.Backend.TextualHost

/-- A hexadecimal digit. -/
def hexDigit (value : Nat) : Char :=
  if value < 10 then Char.ofNat (48 + value) else Char.ofNat (87 + value)

/-- The value of a hexadecimal digit. -/
def hexValue (char : Char) : Option Nat :=
  if 48 ≤ char.toNat && char.toNat ≤ 57 then
    some (char.toNat - 48)
  else if 97 ≤ char.toNat && char.toNat ≤ 102 then
    some (char.toNat - 87)
  else
    none

/-- The last `count` hexadecimal digits of a number. -/
def hexDigits : Nat → Nat → List Char
  | 0, _ => []
  | count + 1, value => hexDigits count (value / 16) ++ [hexDigit (value % 16)]

/-- Read on hexadecimal digits after those that gave `value`. -/
def readHex : Nat → List Char → Option Nat
  | value, [] => some value
  | value, char :: rest =>
      (hexValue char).bind fun digit => readHex (value * 16 + digit) rest

/-- The hyphenated form of a UUID. -/
def uuidText (uuid : Nat) : String :=
  let digits := hexDigits 32 uuid
  String.ofList
    (digits.take 8 ++ '-' :: ((digits.drop 8).take 4 ++ '-' :: ((digits.drop 12).take 4 ++
      '-' :: ((digits.drop 16).take 4 ++ '-' :: digits.drop 20))))

/-- Read a UUID with or without its hyphens. -/
def parseUuid (text : String) : Option Nat :=
  let digits := text.toList.filter (· ≠ '-')
  if digits.length = 32 then readHex 0 digits else none

/-- The CRC-32 of some bytes. -/
def crc32 (bytes : List UInt8) : BitVec 32 :=
  ~~~bytes.foldl
    (fun crc byte =>
      (List.range 8).foldl
        (fun crc _ => if crc.getLsbD 0 then (crc >>> 1) ^^^ 0xEDB88320#32 else crc >>> 1)
        (crc ^^^ byte.toBitVec.setWidth 32))
    0xFFFFFFFF#32

/-- A base-32 digit. -/
def base32Digit (value : Nat) : Char :=
  if value < 26 then Char.ofNat (97 + value) else Char.ofNat (24 + value)

/-- The base-32 digits of `bits` bits, padded to whole digits. -/
def base32Digits (bits value : Nat) : List Char :=
  let count := (bits + 4) / 5
  let padded := value * 2 ^ (5 * count - bits)
  (List.range count).map fun place =>
    base32Digit (padded / 32 ^ (count - 1 - place) % 32)

/-- Put a hyphen between groups of five characters. -/
def inGroups (chars : List Char) : List Char :=
  ((chars.toChunks 5).intersperse ['-']).flatten

/-- The textual form of a principal: its checksum and its bytes in base 32. -/
def principalText (principal : Principal) : String :=
  let value :=
    principal.bytes.foldl (fun value byte => value * 256 + byte.toNat)
      (crc32 principal.bytes).toNat
  String.ofList (inGroups (base32Digits (8 * (4 + principal.bytes.length)) value))

/-- Identifiers are version-4 UUIDs drawn in sequence. -/
def draw (index : Nat) : Nat :=
  0x00000000000040008000000000000000 + index

/-- The host of the evaluated runs. -/
@[reducible]
def host : Host where
  draw := draw
  draw_injective := by
    intro first second same
    simpa [draw] using same
  uuidText := uuidText
  parseUuid := parseUuid
  principalText := principalText
  toLowercase text := String.ofList (text.toList.map Char.toLower)
  publicKeyPem := ""
  canisterHistoryId := ⟨[0, 0, 0, 0, 1, 0, 0, 42, 1, 1], by decide⟩
  base64Decode _ := .error "Invalid padding"
  base64UrlDecode _ := none
  isSignature bytes := bytes.length == 64
  isVerifyingKey bytes := bytes.length == 32
  verifySignature _ _ _ := false
  parseBaseClaims _ := none
  parseClaims _ := none

/-- The textual form of the identifier drawn at `index`. -/
def idText (index : Nat) : String :=
  uuidText (draw index)

/-- A self-authenticating principal. -/
def principal (seed : UInt8) : Principal :=
  ⟨List.replicate 28 seed ++ [2], by simp⟩

/-- The principal that signs up first in the evaluated runs. -/
def founder : Principal :=
  principal 1

/-- The principal that signs up second. -/
def colleague : Principal :=
  principal 2

/-- The principal that controls the canister. -/
def operator : Principal :=
  principal 0

/-- A call by a principal. -/
def callBy (caller : Principal) : Call where
  caller := caller
  now := 1700000000000000000
  isController := fun principal => decide (principal = operator)

example :
    uuidText (draw 12) = "00000000-0000-4000-8000-00000000000c" ∧
      parseUuid "00000000-0000-4000-8000-00000000000c" = some (draw 12) ∧
      principalText Principal.anonymous = "2vxsx-fae" := by
  decide +kernel

end SsnConsole.Backend.TextualHost
