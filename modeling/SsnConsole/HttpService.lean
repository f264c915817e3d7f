import SsnConsole.GoStandard

/-!
# Building blocks of the HTTP services

Before a handler runs, the origin of a request is compared with the configured
ones.  A missing header reads as the empty one.
-/

namespace SsnConsole.HttpService

open SsnConsole.GoStandard

section Spaces

/-- The UTF-8 encodings of the characters that `unicode.IsSpace` accepts. -/
def spaces : List Bytes :=
  [[9], [10], [11], [12], [13], [32], [0xC2, 0x85], [0xC2, 0xA0], [0xE1, 0x9A, 0x80],
    [0xE2, 0x80, 0x80], [0xE2, 0x80, 0x81], [0xE2, 0x80, 0x82], [0xE2, 0x80, 0x83],
    [0xE2, 0x80, 0x84], [0xE2, 0x80, 0x85], [0xE2, 0x80, 0x86], [0xE2, 0x80, 0x87],
    [0xE2, 0x80, 0x88], [0xE2, 0x80, 0x89], [0xE2, 0x80, 0x8A], [0xE2, 0x80, 0xA8],
    [0xE2, 0x80, 0xA9], [0xE2, 0x80, 0xAF], [0xE2, 0x81, 0x9F], [0xE3, 0x80, 0x80]]

/-- Drop given pieces from the front for as long as the text starts with one. -/
def dropPieces (pieces : List Bytes) : Nat → Bytes → Bytes
  | 0, text => text
  | fuel + 1, text =>
      match pieces.find? fun piece => piece.isPrefixOf text with
      | some piece => dropPieces pieces fuel (text.drop piece.length)
      | none => text

/-- `strings.TrimSpace`. -/
def trimSpace (text : Bytes) : Bytes :=
  let left := dropPieces spaces text.length text
  (dropPieces (spaces.map List.reverse) left.length left.reverse).reverse

end Spaces

section Origins

/-- `originAllowed`. -/
def originAllowed (origin : Bytes) (allowed : List Bytes) : Bool :=
  allowed.any fun other => origin == other

/-- `WithCORS` before the handler: the headers that it sets, unless it refuses the request. -/
def withCORS (allowedOrigins : List Bytes) (origin : Bytes) :
    Except (Nat × String) (List (String × Bytes)) :=
  if origin ≠ [] && !originAllowed origin allowedOrigins then
    .error (403, "origin not allowed")
  else if origin ≠ [] then
    .ok [("Access-Control-Allow-Origin", origin), ("Vary", bytesOf "Origin")]
  else
    .ok []

/-- Only requests without an origin and those from a configured one come through. -/
theorem origin_of_withCORS
    {allowedOrigins : List Bytes}
    {origin : Bytes}
    {headers : List (String × Bytes)}
    (passed : withCORS allowedOrigins origin = .ok headers) :
    origin = [] ∨ origin ∈ allowedOrigins := by
  by_cases missing : origin = []
  · exact .inl missing
  · right
    by_contra foreign
    have refused : originAllowed origin allowedOrigins = false := by
      simp only [originAllowed, List.any_eq_false, beq_iff_eq]
      intro other member same
      exact foreign (same ▸ member)
    simp [withCORS, missing, refused] at passed

end Origins

end SsnConsole.HttpService
