import SsnConsole.FirstUnused
import SsnConsole.JsonText

/-!
# The names of exported canisters

Each canister of a project that is not deleted gets a name: a slug of the name
it has, with a number behind it if another canister has taken the slug.  The
slugs are made of the letters, the digits, the underscore and the hyphen, and
neither begin nor end with a hyphen.
-/

namespace SsnConsole.ProjectExport

open SsnConsole.FirstUnused
open SsnConsole.JavaScript

/-- `String.prototype.toLowerCase`, by the case mapping of the engine's Unicode version. -/
class CaseMapping where
  toLowerCase : JsString → JsString

export CaseMapping (toLowerCase)

/-- What is known of a canister on the network. -/
inductive CanisterAvailability where
  | Accessible
  | Inaccessible
  | Deleted
deriving DecidableEq

/-- A canister of a project. -/
structure Canister where
  principal : JsString
  name : Option JsString
  availability : CanisterAvailability

/-- A canister with its name in the export. -/
structure ExportedCanister where
  name : JsString
  principal : JsString
  accent : JsString
deriving DecidableEq

/-- The colours of the exported pages. -/
def ACCENT_PALETTE : List JsString :=
  ["#29A3DA", "#E51E79", "#E95A24", "#F3A83B", "#522780", "#e22f30"].map unitsOf

section Slugs

/-- A unit of `[a-z0-9_]`. -/
def isWordUnit (unit : UInt16) : Bool :=
  (97 ≤ unit && unit ≤ 122) || (48 ≤ unit && unit ≤ 57) || unit = 95

/-- The hyphen. -/
def isHyphen (unit : UInt16) : Bool :=
  unit = 45

/-- A unit of `[a-z0-9_-]`. -/
def isNameUnit (unit : UInt16) : Bool :=
  isWordUnit unit || isHyphen unit

/-- White space and line terminators, as `String.prototype.trim` removes them. -/
def isWhiteSpace (unit : UInt16) : Bool :=
  (9 ≤ unit && unit ≤ 13) || unit = 32 || unit = 0xA0 || unit = 0x1680 ||
    (0x2000 ≤ unit && unit ≤ 0x200A) || unit = 0x2028 || unit = 0x2029 || unit = 0x202F ||
    unit = 0x205F || unit = 0x3000 || unit = 0xFEFF

/-- Remove such units from both ends. -/
def stripEnds (drop : UInt16 → Bool) (text : JsString) : JsString :=
  (text.dropWhile drop).rdropWhile drop

/-- `String.prototype.trim`. -/
def trim (text : JsString) : JsString :=
  stripEnds isWhiteSpace text

/-- `replace(/[^a-z0-9_-]+/g, '-')`, inside a run of other units or not. -/
def hyphenateRuns : Bool → JsString → JsString
  | _, [] => []
  | inRun, unit :: rest =>
      if isNameUnit unit then
        unit :: hyphenateRuns false rest
      else if inRun then
        hyphenateRuns true rest
      else
        45 :: hyphenateRuns true rest

variable [CaseMapping]

/-- `slugifyCanisterName`. -/
def slugifyCanisterName (name : JsString) : JsString :=
  let base := stripEnds isHyphen (hyphenateRuns false (toLowerCase name))
  if base = [] then unitsOf "canister" else base

/-- What the slug is made of: the trimmed name, or the principal's first units. -/
def rawName (canister : Canister) : JsString :=
  let trimmed := (canister.name.map trim).getD []
  if trimmed = [] then
    unitsOf "canister-" ++ canister.principal.take 8
  else
    trimmed

/-- The slug of a canister. -/
def slug (canister : Canister) : JsString :=
  slugifyCanisterName (rawName canister)

end Slugs

section Resolution

/-- A slug with a number behind it. -/
def suffixed (base : JsString) (suffix : Nat) : JsString :=
  base ++ 45 :: numeral suffix

/-- The `while` loop: the name to try and the next suffix; at most `fuel` tests. -/
def unusedName (usedNames : List JsString) (base : JsString) :
    Nat → JsString → Nat → Option JsString
  | 0, _, _ => none
  | fuel + 1, name, suffix =>
      if name ∈ usedNames then
        unusedName usedNames base fuel (suffixed base suffix) (suffix + 1)
      else
        some name

/-- The variables of `resolveCanisterNames`. -/
structure ExportState where
  exported : List ExportedCanister
  usedNames : List JsString
  i : Nat

/-- Before the first canister. -/
def ExportState.initial : ExportState where
  exported := []
  usedNames := []
  i := 0

variable [CaseMapping]

/-- One round of the `for` loop. -/
def exportCanister (fuel : Nat) (state : ExportState) (c : Canister) : Option ExportState :=
  if c.availability = .Deleted then
    some state
  else
    let base := slug c
    (unusedName state.usedNames base fuel base 2).map fun name =>
      { exported :=
          state.exported ++
            [{ name := name
               principal := c.principal
               accent := ACCENT_PALETTE.getD (state.i % ACCENT_PALETTE.length) [] }]
        usedNames := state.usedNames ++ [name]
        i := state.i + 1 }

/-- `resolveCanisterNames`, with at most `fuel` tests for each canister. -/
def resolveCanisterNames (fuel : Nat) (canisters : List Canister) :
    Option (List ExportedCanister) :=
  (canisters.foldlM (exportCanister fuel) .initial).map ExportState.exported

end Resolution

section Files

/-- The recipe of an asset canister. -/
def ASSET_RECIPE : JsString :=
  unitsOf "@dfinity/asset-canister@v2.1.0"

/-- The entry of a canister in `icp.yaml`. -/
def icpYamlEntry (c : ExportedCanister) : JsString :=
  unitsOf "  - name: " ++ c.name ++ unitsOf "\n    recipe:\n      type: \"" ++ ASSET_RECIPE ++
    unitsOf "\"\n      configuration:\n        dir: src/" ++ c.name ++ unitsOf "/dist"

/-- What `icp.yaml` begins with. -/
def icpYamlHeader : JsString :=
  unitsOf
    ("networks:\n  - name: local\n    mode: managed\n    gateway:\n      bind: 127.0.0.1\n" ++
      "      port: 8765\n\ncanisters:\n")

/-- `renderIcpYaml`. -/
def renderIcpYaml (canisters : List ExportedCanister) : JsString :=
  icpYamlHeader ++ [10].intercalate (canisters.map icpYamlEntry) ++ [10]

/-- The object that `renderIdsJson` fills. -/
def idsMap (canisters : List ExportedCanister) : PlainObject :=
  canisters.foldl (fun map c => map.assign c.name c.principal) .empty

/-- `renderIdsJson`. -/
def renderIdsJson (canisters : List ExportedCanister) : JsString :=
  stringify (idsMap canisters) ++ [10]

end Files

section SlugUnits

/-- Stripping keeps no other units. -/
theorem mem_of_mem_stripEnds
    {drop : UInt16 → Bool}
    {text : JsString}
    {unit : UInt16}
    (member : unit ∈ stripEnds drop text) :
    unit ∈ text :=
  (List.dropWhile_sublist drop).subset ((List.rdropWhile_prefix drop _).subset member)

/-- Every unit is a name's, after the replacement. -/
theorem isNameUnit_of_mem_hyphenateRuns
    {inRun : Bool}
    {text : JsString}
    {unit : UInt16}
    (member : unit ∈ hyphenateRuns inRun text) :
    isNameUnit unit = true := by
  fun_induction hyphenateRuns inRun text with
  | case1 => cases member
  | case2 inRun first rest kept inductionHypothesis =>
      rcases List.mem_cons.mp member with rfl | later
      · exact kept
      · exact inductionHypothesis later
  | case3 first rest dropped inductionHypothesis =>
      exact inductionHypothesis member
  | case4 inRun first rest dropped starting inductionHypothesis =>
      rcases List.mem_cons.mp member with rfl | later
      · rfl
      · exact inductionHypothesis later

/-- A text of name units is not changed. -/
theorem hyphenateRuns_eq_self
    {text : JsString}
    (named : ∀ unit ∈ text, isNameUnit unit = true)
    (inRun : Bool) :
    hyphenateRuns inRun text = text := by
  induction text generalizing inRun with
  | nil => rfl
  | cons unit rest inductionHypothesis =>
      unfold hyphenateRuns
      rw [if_pos (named unit List.mem_cons_self),
        inductionHypothesis fun other later => named other (List.mem_cons_of_mem unit later)]

/-- A replacement that leaves no hyphen has not replaced anything. -/
theorem eq_of_hyphenateRuns
    {text replaced : JsString}
    (replacement : hyphenateRuns false text = replaced)
    (noHyphen : 45 ∉ replaced) :
    text = replaced := by
  induction text generalizing replaced with
  | nil => exact replacement
  | cons unit rest inductionHypothesis =>
      unfold hyphenateRuns at replacement
      split at replacement
      · subst replacement
        have later : 45 ∉ hyphenateRuns false rest := fun inside =>
          noHyphen (List.mem_cons_of_mem unit inside)
        rw [← inductionHypothesis rfl later]
      · subst replacement
        exact absurd List.mem_cons_self noHyphen

/-- Whether a unit is none of a word. -/
def isNoise (unit : UInt16) : Bool :=
  !isWordUnit unit

/-- The hyphen is none of a word's units. -/
theorem isNoise_of_isHyphen
    {unit : UInt16}
    (hyphen : isHyphen unit = true) :
    isNoise unit = true := by
  obtain rfl := of_decide_eq_true hyphen
  decide

/-- What is replaced is no part of a word. -/
theorem isNoise_of_not_isNameUnit
    {unit : UInt16}
    (replaced : ¬ isNameUnit unit = true) :
    isNoise unit = true := by
  unfold isNameUnit at replaced
  unfold isNoise
  simp only [Bool.or_eq_true, not_or, Bool.not_eq_true] at replaced
  rw [replaced.1]
  rfl

/-- The units of a name are the hyphen and those of words. -/
theorem not_isNoise
    {unit : UInt16}
    (kept : isNameUnit unit = true)
    (notHyphen : ¬ isHyphen unit = true) :
    ¬ isNoise unit = true := by
  rcases Bool.or_eq_true_iff.mp kept with word | hyphen
  · simp [isNoise, word]
  · exact absurd hyphen notHyphen

/-- The hyphens before the first word come from what stands before it. -/
theorem dropWhile_hyphenateRuns
    (inRun : Bool)
    (text : JsString) :
    (hyphenateRuns inRun text).dropWhile isHyphen =
      hyphenateRuns false (text.dropWhile isNoise) := by
  fun_induction hyphenateRuns inRun text with
  | case1 => rfl
  | case2 inRun unit rest kept inductionHypothesis =>
      by_cases hyphen : isHyphen unit = true
      · rw [List.dropWhile_cons_of_pos hyphen,
          List.dropWhile_cons_of_pos (isNoise_of_isHyphen hyphen)]
        exact inductionHypothesis
      · rw [List.dropWhile_cons_of_neg hyphen,
          List.dropWhile_cons_of_neg (not_isNoise kept hyphen), hyphenateRuns, if_pos kept]
  | case3 unit rest replaced inductionHypothesis =>
      rw [List.dropWhile_cons_of_pos (isNoise_of_not_isNameUnit replaced)]
      exact inductionHypothesis
  | case4 inRun unit rest replaced starting inductionHypothesis =>
      rw [List.dropWhile_cons_of_pos (isNoise_of_not_isNameUnit replaced),
        List.dropWhile_cons_of_pos rfl]
      exact inductionHypothesis

/-- One more unit adds itself, or at most a hyphen. -/
theorem hyphenateRuns_concat
    (inRun : Bool)
    (text : JsString)
    (unit : UInt16) :
    ∃ added, hyphenateRuns inRun (text ++ [unit]) = hyphenateRuns inRun text ++ added ∧
      if isNoise unit then added = [] ∨ added = [45] else added = [unit] := by
  induction text generalizing inRun with
  | nil =>
      by_cases kept : isNameUnit unit = true
      · refine ⟨[unit], by simp [hyphenateRuns, kept], ?_⟩
        split
        · rename_i noise
          by_cases hyphen : isHyphen unit = true
          · exact .inr (congrArg (fun unit => [unit]) (of_decide_eq_true hyphen))
          · exact absurd noise (not_isNoise kept hyphen)
        · rfl
      · have noise := isNoise_of_not_isNameUnit kept
        cases inRun with
        | false => exact ⟨[45], by simp [hyphenateRuns, kept], by simp [noise]⟩
        | true => exact ⟨[], by simp [hyphenateRuns, kept], by simp [noise]⟩
  | cons first rest inductionHypothesis =>
      rw [List.cons_append]
      unfold hyphenateRuns
      split
      · obtain ⟨added, shape, kind⟩ := inductionHypothesis false
        exact ⟨added, by rw [shape]; rfl, kind⟩
      · obtain ⟨added, shape, kind⟩ := inductionHypothesis true
        split
        · exact ⟨added, shape, kind⟩
        · exact ⟨added, by rw [shape]; rfl, kind⟩

/-- The hyphens behind the last word come from what stands behind it. -/
theorem rdropWhile_hyphenateRuns
    (inRun : Bool)
    (text : JsString) :
    (hyphenateRuns inRun text).rdropWhile isHyphen =
      hyphenateRuns inRun (text.rdropWhile isNoise) := by
  induction text using List.reverseRecOn with
  | nil => rfl
  | append_singleton text unit inductionHypothesis =>
      obtain ⟨added, shape, kind⟩ := hyphenateRuns_concat inRun text unit
      by_cases noise : isNoise unit = true
      · rw [if_pos noise] at kind
        rw [List.rdropWhile_concat_pos _ _ _ noise, ← inductionHypothesis, shape]
        rcases kind with rfl | rfl
        · rw [List.append_nil]
        · exact List.rdropWhile_concat_pos _ _ _ rfl
      · rw [if_neg noise] at kind
        subst kind
        have notHyphen : ¬ isHyphen unit = true := fun hyphen =>
          noise (isNoise_of_isHyphen hyphen)
        rw [List.rdropWhile_concat_neg _ _ _ noise, shape,
          List.rdropWhile_concat_neg _ _ _ notHyphen]

/-- Stripping hyphens after the replacement is stripping all noise before it. -/
theorem stripEnds_hyphenateRuns
    (text : JsString) :
    stripEnds isHyphen (hyphenateRuns false text) =
      hyphenateRuns false (stripEnds isNoise text) := by
  unfold stripEnds
  rw [dropWhile_hyphenateRuns, rdropWhile_hyphenateRuns]

variable [CaseMapping]

/-- A slug has name units only, and at least one. -/
theorem slugifyCanisterName_wellFormed
    (name : JsString) :
    slugifyCanisterName name ≠ [] ∧
      ∀ unit ∈ slugifyCanisterName name, isNameUnit unit = true := by
  unfold slugifyCanisterName
  simp only
  split
  · have all : (unitsOf "canister").all isNameUnit = true := by decide +kernel
    exact ⟨by decide +kernel, List.all_eq_true.mp all⟩
  · rename_i nonempty
    refine ⟨nonempty, ?_⟩
    intro unit member
    exact isNameUnit_of_mem_hyphenateRuns (mem_of_mem_stripEnds member)

/-- A slug is the key of the inherited accessor exactly if the name is, in lower case and
between units that are none of a word. -/
theorem slugifyCanisterName_eq_protoKey
    (name : JsString) :
    slugifyCanisterName name = protoKey ↔ stripEnds isNoise (toLowerCase name) = protoKey := by
  have all : protoKey.all isNameUnit = true := by decide +kernel
  have noHyphen : (45 : UInt16) ∉ protoKey := by decide +kernel
  have other : unitsOf "canister" ≠ protoKey := by decide +kernel
  have nonempty : protoKey ≠ [] := by decide +kernel
  unfold slugifyCanisterName
  simp only
  rw [stripEnds_hyphenateRuns]
  constructor
  · intro same
    split at same
    · exact absurd same other
    · exact eq_of_hyphenateRuns same noHyphen
  · intro same
    rw [same, hyphenateRuns_eq_self (List.all_eq_true.mp all), if_neg nonempty]

end SlugUnits

section Candidates

/-- The names that the loop tries. -/
def candidate (base : JsString) : Nat → JsString
  | 0 => base
  | index + 1 => suffixed base (index + 2)

/-- No name is tried twice. -/
theorem candidate_injective
    (base : JsString) :
    Function.Injective (candidate base) := by
  have longer : ∀ suffix, base ≠ suffixed base suffix := by
    intro suffix same
    have lengths := congrArg List.length same
    simp [suffixed] at lengths
  intro first second same
  cases first with
  | zero =>
      cases second with
      | zero => rfl
      | succ second => exact absurd same (longer _)
  | succ first =>
      cases second with
      | zero => exact absurd same.symm (longer _)
      | succ second =>
          have numerals := (List.cons.inj (List.append_cancel_left same)).2
          have suffixes := numeral_injective numerals
          omega

/-- The loop is the search for the first unused name. -/
theorem unusedName_eq
    (usedNames : List JsString)
    (base : JsString)
    (fuel index : Nat) :
    unusedName usedNames base fuel (candidate base index) (index + 2) =
      firstUnused usedNames (candidate base) fuel index := by
  induction fuel generalizing index with
  | zero => rfl
  | succ fuel inductionHypothesis =>
      show
        (if candidate base index ∈ usedNames then
          unusedName usedNames base fuel (candidate base (index + 1)) (index + 1 + 2)
        else
          some (candidate base index)) = _
      unfold firstUnused
      by_cases taken : candidate base index ∈ usedNames
      · rw [if_pos taken, if_pos taken]
        exact inductionHypothesis (index + 1)
      · rw [if_neg taken, if_neg taken]

/-- The loop ends with an unused name: the slug itself if that is not used. -/
theorem exists_unusedName
    (usedNames : List JsString)
    (base : JsString) :
    ∃ name, (∀ fuel, usedNames.length < fuel →
        unusedName usedNames base fuel base 2 = some name) ∧
      name ∉ usedNames ∧ (base ∈ usedNames ∨ name = base) ∧
        (name = base ∨ ∃ suffix, name = suffixed base suffix) := by
  obtain ⟨name, search⟩ : ∃ name, ∀ fuel, usedNames.length < fuel →
      firstUnused usedNames (candidate base) fuel 0 = some name :=
    exists_firstUnused (candidate_injective base) 0
  obtain ⟨unused, place, -, same⟩ :=
    unused_of_firstUnused (search (usedNames.length + 1) (Nat.lt_succ_self _))
  have loop : ∀ fuel, usedNames.length < fuel →
      unusedName usedNames base fuel base 2 = some name := fun fuel enough =>
    (unusedName_eq usedNames base fuel 0).trans (search fuel enough)
  refine ⟨name, loop, unused, ?_, ?_⟩
  · by_cases taken : base ∈ usedNames
    · exact .inl taken
    · right
      have found := search (usedNames.length + 1) (Nat.lt_succ_self _)
      have untaken : candidate base 0 ∉ usedNames := taken
      unfold firstUnused at found
      rw [if_neg untaken] at found
      exact (Option.some.inj found).symm
  · cases place with
    | zero => exact .inl same
    | succ place => exact .inr ⟨place + 2, same⟩

/-- A slug with a number behind it has name units only, as the slug. -/
theorem suffixed_wellFormed
    {base : JsString}
    (named : ∀ unit ∈ base, isNameUnit unit = true)
    (suffix : Nat) :
    suffixed base suffix ≠ [] ∧ ∀ unit ∈ suffixed base suffix, isNameUnit unit = true := by
  refine ⟨by simp [suffixed], ?_⟩
  intro unit member
  rcases List.mem_append.mp member with inside | behind
  · exact named unit inside
  · rcases List.mem_cons.mp behind with rfl | digit
    · rfl
    · obtain ⟨low, high⟩ := numeral_bounds digit
      have atLeast : (48 : UInt16) ≤ unit := UInt16.le_iff_toNat_le.mpr low
      have atMost : unit ≤ (57 : UInt16) := UInt16.le_iff_toNat_le.mpr high
      simp [isNameUnit, isWordUnit, atLeast, atMost]

/-- A number behind a slug makes it another name than the key of the accessor. -/
theorem suffixed_ne_protoKey
    (base : JsString)
    (suffix : Nat) :
    suffixed base suffix ≠ protoKey := by
  intro same
  have noHyphen : (45 : UInt16) ∉ protoKey := by decide +kernel
  apply noHyphen
  rw [← same]
  exact List.mem_append_right base List.mem_cons_self

end Candidates

end SsnConsole.ProjectExport
