import SsnConsole.ProjectExport

/-!
# An export names every canister

The loop over the canisters ends, and its invariant says what the names are.
`icp.yaml` lists them all.  `ic.ids.json` has them all as keys but one: a
canister with the slug `__proto__` is named like the accessor that the plain
object inherits, and its principal is lost.
-/

namespace SsnConsole.ProjectExport

open SsnConsole.JavaScript

section Resolution

variable [CaseMapping]

/-- The canisters that are exported. -/
def live (canisters : List Canister) : List Canister :=
  canisters.filter fun canister => canister.availability ≠ .Deleted

/-- What holds after some canisters. -/
structure ExportState.Sound (state : ExportState) (canisters : List Canister) : Prop where
  used : state.usedNames = state.exported.map ExportedCanister.name
  principals :
    state.exported.map ExportedCanister.principal = (live canisters).map Canister.principal
  distinct : state.usedNames.Nodup
  wellFormed :
    ∀ name ∈ state.usedNames, name ≠ [] ∧ ∀ unit ∈ name, isNameUnit unit = true
  slugs : ∀ canister ∈ live canisters, slug canister ∈ state.usedNames
  origins :
    ∀ name ∈ state.usedNames, ∃ canister ∈ live canisters,
      name = slug canister ∨ ∃ suffix, name = suffixed (slug canister) suffix

namespace ExportState.Sound

variable {state : ExportState} {canisters : List Canister}

/-- Nothing is exported before the first canister. -/
theorem initial : ExportState.Sound .initial [] where
  used := rfl
  principals := rfl
  distinct := List.nodup_nil
  wellFormed := by simp [ExportState.initial]
  slugs := by simp [live]
  origins := by simp [ExportState.initial]

/-- There are at most as many names as canisters. -/
theorem length_le
    (sound : state.Sound canisters) :
    state.usedNames.length ≤ canisters.length := by
  have lengths := congrArg List.length sound.principals
  have filtered : (live canisters).length ≤ canisters.length := List.length_filter_le _ _
  rw [List.length_map, List.length_map] at lengths
  rw [sound.used, List.length_map, lengths]
  exact filtered

/-- A canister that is deleted changes nothing. -/
theorem deleted
    (sound : state.Sound canisters)
    {canister : Canister}
    (gone : canister.availability = .Deleted) :
    state.Sound (canisters ++ [canister]) := by
  have same : live (canisters ++ [canister]) = live canisters := by
    simp [live, gone]
  exact
    { used := sound.used
      principals := same ▸ sound.principals
      distinct := sound.distinct
      wellFormed := sound.wellFormed
      slugs := same ▸ sound.slugs
      origins := same ▸ sound.origins }

/-- A canister that is not deleted gets an unused name, after its slug. -/
theorem named
    (sound : state.Sound canisters)
    {canister : Canister}
    {entry : ExportedCanister}
    (present : ¬ canister.availability = .Deleted)
    (principal : entry.principal = canister.principal)
    (unused : entry.name ∉ state.usedNames)
    (slugged : slug canister ∈ state.usedNames ∨ entry.name = slug canister)
    (origin : entry.name = slug canister ∨
      ∃ suffix, entry.name = suffixed (slug canister) suffix) :
    ExportState.Sound
      { exported := state.exported ++ [entry]
        usedNames := state.usedNames ++ [entry.name]
        i := state.i + 1 }
      (canisters ++ [canister]) := by
  have more : live (canisters ++ [canister]) = live canisters ++ [canister] := by
    simp [live, present]
  have itself : canister ∈ live canisters ++ [canister] := by simp
  constructor
  case used =>
    simp [sound.used]
  case principals =>
    rw [more]
    simp [sound.principals, principal]
  case distinct =>
    rw [List.nodup_append]
    refine ⟨sound.distinct, List.nodup_singleton _, ?_⟩
    intro first firstMember second secondMember same
    obtain rfl := List.mem_singleton.mp secondMember
    exact unused (same ▸ firstMember)
  case wellFormed =>
    intro name member
    rcases List.mem_append.mp member with earlier | new
    · exact sound.wellFormed name earlier
    · obtain rfl := List.mem_singleton.mp new
      have base := slugifyCanisterName_wellFormed (rawName canister)
      rcases origin with same | ⟨suffix, same⟩
      · rw [same]
        exact base
      · rw [same]
        exact suffixed_wellFormed base.2 suffix
  case slugs =>
    rw [more]
    intro other member
    rcases List.mem_append.mp member with earlier | new
    · exact List.mem_append_left _ (sound.slugs other earlier)
    · obtain rfl := List.mem_singleton.mp new
      rcases slugged with taken | same
      · exact List.mem_append_left _ taken
      · exact List.mem_append_right _ (List.mem_singleton.mpr same.symm)
  case origins =>
    rw [more]
    intro name member
    rcases List.mem_append.mp member with earlier | new
    · obtain ⟨other, inside, kind⟩ := sound.origins name earlier
      exact ⟨other, List.mem_append_left _ inside, kind⟩
    · obtain rfl := List.mem_singleton.mp new
      exact ⟨canister, itself, origin⟩

/-- One round of the loop ends, and keeps what holds. -/
theorem exportCanister
    (sound : state.Sound canisters)
    (canister : Canister) :
    ∃ next, (∀ fuel, canisters.length < fuel →
        ProjectExport.exportCanister fuel state canister = some next) ∧
      next.Sound (canisters ++ [canister]) := by
  by_cases gone : canister.availability = .Deleted
  · refine ⟨state, fun fuel enough => ?_, sound.deleted gone⟩
    unfold ProjectExport.exportCanister
    rw [if_pos gone]
  · obtain ⟨name, search, unused, slugged, origin⟩ :=
      exists_unusedName state.usedNames (slug canister)
    let entry : ExportedCanister :=
      { name := name
        principal := canister.principal
        accent := ACCENT_PALETTE.getD (state.i % ACCENT_PALETTE.length) [] }
    have kept :
        ExportState.Sound
          { exported := state.exported ++ [entry]
            usedNames := state.usedNames ++ [name]
            i := state.i + 1 }
          (canisters ++ [canister]) :=
      sound.named gone rfl unused slugged origin
    refine ⟨_, fun fuel enough => ?_, kept⟩
    unfold ProjectExport.exportCanister
    rw [if_neg gone]
    simp only
    rw [search fuel (Nat.lt_of_le_of_lt sound.length_le enough), Option.map_some]

/-- The loop over all canisters ends, and keeps what holds. -/
theorem foldlM_exportCanister
    (canisters : List Canister) :
    ∃ final, (∀ fuel, canisters.length < fuel →
        canisters.foldlM (ProjectExport.exportCanister fuel) .initial = some final) ∧
      final.Sound canisters := by
  induction canisters using List.reverseRecOn with
  | nil => exact ⟨.initial, fun fuel enough => rfl, .initial⟩
  | append_singleton canisters canister inductionHypothesis =>
      obtain ⟨state, run, sound⟩ := inductionHypothesis
      obtain ⟨next, step, kept⟩ := sound.exportCanister canister
      refine ⟨next, fun fuel enough => ?_, kept⟩
      have fewer : canisters.length < fuel := by
        rw [List.length_append, List.length_singleton] at enough
        omega
      rw [List.foldlM_append, run fuel fewer]
      show List.foldlM (ProjectExport.exportCanister fuel) state [canister] = some next
      rw [List.foldlM_cons, step fuel fewer]
      rfl

end ExportState.Sound

end Resolution

section Yaml

/-- The name of an entry that begins on this line. -/
def entryName (line : JsString) : Option JsString :=
  if unitsOf "  - name: " <+: line then some (line.drop 10) else none

/-- The directory that is given on this line. -/
def entryDir (line : JsString) : Option JsString :=
  if unitsOf "        dir: " <+: line then some (line.drop 13) else none

/-- The lines under `canisters:`, to the first that is not indented. -/
def listedLines (yaml : JsString) : List JsString :=
  ((yaml.splitOn 10).dropWhile (· ≠ unitsOf "canisters:")).tail.takeWhile
    (fun line => line.head? = some 32)

/-- The names of the list under `canisters:`. -/
def listedNames (yaml : JsString) : List JsString :=
  (listedLines yaml).filterMap entryName

/-- The entries that begin on these lines, each with its directory, and the directory that
the lines before the first entry give. -/
def readEntries : List JsString → Option JsString × List (JsString × Option JsString)
  | [] => (none, [])
  | line :: rest =>
      let (dir, entries) := readEntries rest
      match entryName line with
      | some name => (none, (name, dir) :: entries)
      | none => ((entryDir line).or dir, entries)

/-- The entries of the list under `canisters:`, each with its directory. -/
def listedEntries (yaml : JsString) : List (JsString × Option JsString) :=
  (readEntries (listedLines yaml)).2

/-- Lines with their newlines. -/
def joinLines (lines : List JsString) : JsString :=
  lines.flatMap (· ++ [10])

/-- Lines are read back. -/
theorem splitOn_joinLines
    {lines : List JsString}
    (plain : ∀ line ∈ lines, 10 ∉ line)
    (text : JsString) :
    (joinLines lines ++ text).splitOn 10 = lines ++ text.splitOn 10 := by
  induction lines with
  | nil => rfl
  | cons line rest inductionHypothesis =>
      have shape : joinLines (line :: rest) ++ text = line ++ 10 :: (joinLines rest ++ text) := by
        simp [joinLines]
      rw [shape, List.splitOn_append_cons_self_of_not_mem (plain line List.mem_cons_self),
        inductionHypothesis fun other later => plain other (List.mem_cons_of_mem line later)]
      rfl

/-- The lines before the list. -/
def headerLines : List JsString :=
  ["networks:", "  - name: local", "    mode: managed", "    gateway:", "      bind: 127.0.0.1",
    "      port: 8765", ""].map unitsOf

/-- The lines between the two that have the name. -/
def recipeLines : List JsString :=
  ["    recipe:", "      type: \"@dfinity/asset-canister@v2.1.0\"", "      configuration:"].map
    unitsOf

/-- The directory of a canister's files. -/
def canisterDir (c : ExportedCanister) : JsString :=
  unitsOf "src/" ++ c.name ++ unitsOf "/dist"

/-- The lines of an entry. -/
def entryLines (c : ExportedCanister) : List JsString :=
  (unitsOf "  - name: " ++ c.name) ::
    (recipeLines ++ [unitsOf "        dir: src/" ++ (c.name ++ unitsOf "/dist")])

/-- The header is made of its lines. -/
theorem icpYamlHeader_eq :
    icpYamlHeader = joinLines headerLines ++ joinLines [unitsOf "canisters:"] := by
  decide

/-- An entry is made of its lines. -/
theorem icpYamlEntry_eq
    (c : ExportedCanister) :
    icpYamlEntry c ++ [10] = joinLines (entryLines c) := by
  have middle :
      unitsOf "\n    recipe:\n      type: \"" ++ ASSET_RECIPE ++
          unitsOf "\"\n      configuration:\n        dir: src/" =
        10 :: (joinLines recipeLines ++ unitsOf "        dir: src/") := by
    decide
  calc
    icpYamlEntry c ++ [10] =
        unitsOf "  - name: " ++ c.name ++
          (unitsOf "\n    recipe:\n      type: \"" ++ ASSET_RECIPE ++
            unitsOf "\"\n      configuration:\n        dir: src/") ++
          c.name ++ unitsOf "/dist" ++ [10] := by
      simp [icpYamlEntry]
    _ = joinLines (entryLines c) := by
      rw [middle]
      simp [joinLines, entryLines]

/-- Whether a line can stand in the list. -/
def isListLine (line : JsString) : Bool :=
  !line.contains 10 && line.head? = some 32

/-- The lines of an entry contain no newlines and are indented. -/
theorem isListLine_of_mem_entryLines
    {c : ExportedCanister}
    (named : ∀ unit ∈ c.name, isNameUnit unit = true)
    {line : JsString}
    (member : line ∈ entryLines c) :
    isListLine line = true := by
  have plain : (10 : UInt16) ∉ c.name := fun newline =>
    absurd (named 10 newline) (by decide)
  have fixed :
      (recipeLines ++ [unitsOf "  - name: ", unitsOf "        dir: src/"]).all isListLine =
        true := by
    decide
  have ending : (10 : UInt16) ∉ unitsOf "/dist" := by decide
  have prefixed : ∀ start ∈ [unitsOf "  - name: ", unitsOf "        dir: src/"],
      ∀ rest : JsString, 10 ∉ rest → isListLine (start ++ rest) = true := by
    intro start among rest plainRest
    have begins := List.all_eq_true.mp fixed start (List.mem_append_right _ among)
    unfold isListLine at begins ⊢
    simp only [Bool.and_eq_true, Bool.not_eq_true', List.contains_eq_mem, decide_eq_false_iff_not,
      decide_eq_true_eq, List.mem_append, not_or, List.head?_append] at begins ⊢
    exact ⟨⟨begins.1, plainRest⟩, by rw [begins.2]; rfl⟩
  rcases List.mem_cons.mp member with rfl | later
  · exact prefixed _ (by simp) _ plain
  · rcases List.mem_append.mp later with recipe | last
    · exact List.all_eq_true.mp fixed line (List.mem_append_left _ recipe)
    · obtain rfl := List.mem_singleton.mp last
      exact prefixed _ (by simp) _ (by simp [plain, ending])

/-- The first line of an entry has the name. -/
theorem entryName_first
    (c : ExportedCanister) :
    entryName (unitsOf "  - name: " ++ c.name) = some c.name := by
  have length : (unitsOf "  - name: ").length = 10 := by decide
  unfold entryName
  rw [if_pos (List.prefix_append _ _), ← length, List.drop_left]

/-- The last line of an entry has the directory and no name. -/
theorem entryDir_last
    (c : ExportedCanister) :
    entryName (unitsOf "        dir: src/" ++ (c.name ++ unitsOf "/dist")) = none ∧
      entryDir (unitsOf "        dir: src/" ++ (c.name ++ unitsOf "/dist")) =
        some (canisterDir c) := by
  constructor
  · unfold entryName
    apply if_neg
    rintro ⟨rest, same⟩
    have starts := congrArg (List.take 3) same
    rw [List.take_append_of_le_length (by decide),
      List.take_append_of_le_length (by decide)] at starts
    exact absurd starts (by decide)
  · have ⟨length, opening⟩ :
        (unitsOf "        dir: ").length = 13 ∧
          unitsOf "        dir: src/" = unitsOf "        dir: " ++ unitsOf "src/" := by
      decide
    have line :
        unitsOf "        dir: src/" ++ (c.name ++ unitsOf "/dist") =
          unitsOf "        dir: " ++ canisterDir c := by
      rw [opening, canisterDir, List.append_assoc, List.append_assoc]
    unfold entryDir
    rw [line, if_pos (List.prefix_append _ _), ← length, List.drop_left]

/-- Of the lines of an entry the first one has the name. -/
theorem entryNames_entryLines
    (c : ExportedCanister) :
    (entryLines c).filterMap entryName = [c.name] := by
  have recipe : recipeLines.filterMap entryName = [] := by decide
  unfold entryLines
  rw [List.filterMap_cons_some (entryName_first c), List.filterMap_append, recipe,
    List.nil_append, List.filterMap_cons_none (entryDir_last c).1]
  rfl

/-- The lines of an entry are read as its name with its directory. -/
theorem readEntries_entryLines
    (c : ExportedCanister)
    (rest : List JsString) :
    readEntries (entryLines c ++ rest) =
      (none, (c.name, some (canisterDir c)) :: (readEntries rest).2) := by
  obtain ⟨nameless, directory⟩ := entryDir_last c
  have recipe :
      ∀ line ∈ recipeLines, entryName line = none ∧ entryDir line = none := by
    decide
  have skipped (lines : List JsString) (plain : ∀ line ∈ lines, line ∈ recipeLines)
      (others : List JsString) :
      readEntries (lines ++ others) = readEntries others := by
    induction lines with
    | nil => rfl
    | cons line lines inductionHypothesis =>
        obtain ⟨unnamed, nowhere⟩ := recipe line (plain line List.mem_cons_self)
        have remaining := inductionHypothesis fun other later =>
          plain other (List.mem_cons_of_mem line later)
        rw [List.cons_append, readEntries, remaining, unnamed, nowhere]
        rfl
  have last :
      readEntries ((unitsOf "        dir: src/" ++ (c.name ++ unitsOf "/dist")) :: rest) =
        (some (canisterDir c), (readEntries rest).2) := by
    rw [readEntries, nameless, directory]
    rfl
  have following :
      entryLines c ++ rest =
        (unitsOf "  - name: " ++ c.name) ::
          (recipeLines ++
            (unitsOf "        dir: src/" ++ (c.name ++ unitsOf "/dist")) :: rest) := by
    simp [entryLines]
  rw [following, readEntries, skipped recipeLines (fun _ member => member), last,
    entryName_first c]

/-- The lines of entries are read as their names with their directories. -/
theorem readEntries_flatMap_entryLines
    (canisters : List ExportedCanister) :
    (readEntries (canisters.flatMap entryLines)).2 =
      canisters.map fun c => (c.name, some (canisterDir c)) := by
  induction canisters with
  | nil => rfl
  | cons c rest inductionHypothesis =>
      rw [List.flatMap_cons, readEntries_entryLines, inductionHypothesis, List.map_cons]

/-- Entries, separated and closed by newlines, are their lines; no entries are an empty line. -/
theorem intercalate_icpYamlEntry
    (canisters : List ExportedCanister) :
    [10].intercalate (canisters.map icpYamlEntry) ++ [10] =
      if canisters = [] then joinLines [[]] else joinLines (canisters.flatMap entryLines) := by
  induction canisters with
  | nil => rfl
  | cons c rest inductionHypothesis =>
      rw [if_neg (List.cons_ne_nil c rest)]
      cases rest with
      | nil =>
          rw [List.flatMap_cons, List.flatMap_nil, List.append_nil, ← icpYamlEntry_eq]
          simp
      | cons next others =>
          rw [if_neg (List.cons_ne_nil next others)] at inductionHypothesis
          rw [List.flatMap_cons]
          have split :
              joinLines (entryLines c ++ (next :: others).flatMap entryLines) =
                joinLines (entryLines c) ++ joinLines ((next :: others).flatMap entryLines) := by
            simp [joinLines]
          rw [split, ← inductionHypothesis, ← icpYamlEntry_eq]
          simp [List.intercalate]

/-- The lines of `icp.yaml` behind the header. -/
def listLines (canisters : List ExportedCanister) : List JsString :=
  if canisters = [] then [[]] else canisters.flatMap entryLines

/-- `icp.yaml` is the header, the list and an empty line. -/
theorem splitOn_renderIcpYaml
    {canisters : List ExportedCanister}
    (plain : ∀ line ∈ listLines canisters, 10 ∉ line) :
    (renderIcpYaml canisters).splitOn 10 =
      headerLines ++ unitsOf "canisters:" :: (listLines canisters ++ [[]]) := by
  have headerPlain :
      (headerLines ++ [unitsOf "canisters:"]).all (fun line => !line.contains 10) = true := by
    decide
  have text :
      renderIcpYaml canisters =
        joinLines (headerLines ++ [unitsOf "canisters:"] ++ listLines canisters) ++ [] := by
    have list := intercalate_icpYamlEntry canisters
    rw [← apply_ite joinLines] at list
    unfold renderIcpYaml
    rw [List.append_assoc, list, icpYamlHeader_eq]
    simp [joinLines, listLines]
  rw [text, splitOn_joinLines]
  · simp
  · intro line member
    rcases List.mem_append.mp member with header | inside
    · simpa using List.all_eq_true.mp headerPlain line header
    · exact plain line inside

/-- The list of `icp.yaml` has the lines of the entries. -/
theorem listedLines_renderIcpYaml
    {canisters : List ExportedCanister}
    (named : ∀ c ∈ canisters, ∀ unit ∈ c.name, isNameUnit unit = true) :
    listedLines (renderIcpYaml canisters) = canisters.flatMap entryLines := by
  have listed : ∀ line ∈ canisters.flatMap entryLines, isListLine line = true := by
    intro line member
    obtain ⟨c, among, inside⟩ := List.mem_flatMap.mp member
    exact isListLine_of_mem_entryLines (named c among) inside
  have plain : ∀ line ∈ listLines canisters, 10 ∉ line := by
    intro line member
    unfold listLines at member
    split at member
    · obtain rfl := List.mem_singleton.mp member
      exact List.not_mem_nil
    · have list := listed line member
      simp [isListLine] at list
      exact list.1
  have header : ∀ line ∈ headerLines, decide (line ≠ unitsOf "canisters:") = true := by
    have all : headerLines.all (fun line => decide (line ≠ unitsOf "canisters:")) = true := by
      decide
    exact List.all_eq_true.mp all
  unfold listedLines
  rw [splitOn_renderIcpYaml plain, List.dropWhile_append_of_pos header,
    List.dropWhile_cons_of_neg (by simp), List.tail_cons]
  unfold listLines
  split
  · rename_i empty
    subst empty
    rfl
  · have indented : ∀ line ∈ canisters.flatMap entryLines,
        decide (line.head? = some 32) = true := by
      intro line member
      exact (Bool.and_eq_true_iff.mp (listed line member)).2
    rw [List.takeWhile_append_of_pos indented, List.takeWhile_cons_of_neg (by simp),
      List.append_nil]

/-- `icp.yaml` lists the names in order. -/
theorem listedNames_renderIcpYaml
    {canisters : List ExportedCanister}
    (named : ∀ c ∈ canisters, ∀ unit ∈ c.name, isNameUnit unit = true) :
    listedNames (renderIcpYaml canisters) = canisters.map ExportedCanister.name := by
  rw [listedNames, listedLines_renderIcpYaml named, List.filterMap_flatMap, List.map_eq_flatMap]
  simp only [entryNames_entryLines]

/-- `icp.yaml` lists every canister with its directory, in order. -/
theorem listedEntries_renderIcpYaml
    {canisters : List ExportedCanister}
    (named : ∀ c ∈ canisters, ∀ unit ∈ c.name, isNameUnit unit = true) :
    listedEntries (renderIcpYaml canisters) =
      canisters.map fun c => (c.name, some (canisterDir c)) := by
  rw [listedEntries, listedLines_renderIcpYaml named, readEntries_flatMap_entryLines]

end Yaml

section Ids

/-- The object has the names as its keys, except that of the inherited accessor. -/
theorem own_idsMap
    {canisters : List ExportedCanister}
    (distinct : (canisters.map ExportedCanister.name).Nodup) :
    (idsMap canisters).own =
      (canisters.map fun c => (c.name, c.principal)).filter fun property =>
        property.1 ≠ protoKey := by
  have keys :
      ((canisters.map fun c => (c.name, c.principal)).map Prod.fst).Nodup := by
    rw [List.map_map]
    exact distinct
  rw [← PlainObject.own_foldl_assign keys, List.foldl_map]
  rfl

/-- `ic.ids.json` is read back as the object that was written, in the order of enumeration. -/
theorem parse_renderIdsJson
    (canisters : List ExportedCanister) :
    ∃ ids, parse (renderIdsJson canisters) = some ids ∧ ids.own.Perm (idsMap canisters).own := by
  obtain ⟨ids, parsed, own⟩ :=
    own_parse_stringify (idsMap canisters) (show skipSpace [10] = [] from rfl)
  exact ⟨ids, parsed, own ▸ (idsMap canisters).enumerated_perm⟩

/-- `ic.ids.json` is read as an object with exactly the names as keys, each with its
principal. -/
def IdsComplete (exported : List ExportedCanister) : Prop :=
  ∃ ids, parse (renderIdsJson exported) = some ids ∧
    (∀ key, key ∈ ids.keys ↔ key ∈ exported.map ExportedCanister.name) ∧
      ∀ entry ∈ exported, ids.get? entry.name = some entry.principal

/-- The file of principals is complete exactly if no name is that of the inherited accessor. -/
theorem idsComplete_iff
    {exported : List ExportedCanister}
    (distinct : (exported.map ExportedCanister.name).Nodup) :
    IdsComplete exported ↔ protoKey ∉ exported.map ExportedCanister.name := by
  obtain ⟨ids, parsed, own⟩ := parse_renderIdsJson exported
  rw [own_idsMap distinct] at own
  constructor
  · rintro ⟨read, sameText, keys, -⟩ named
    obtain rfl := Option.some.inj (sameText.symm.trans parsed)
    obtain ⟨property, member, same⟩ := List.mem_map.mp ((keys protoKey).mpr named)
    have kept := (List.mem_filter.mp (own.mem_iff.mp member)).2
    exact absurd same (of_decide_eq_true kept)
  · intro unnamed
    have all :
        ((exported.map fun c => (c.name, c.principal)).filter fun property =>
            property.1 ≠ protoKey) =
          exported.map fun c => (c.name, c.principal) := by
      apply List.filter_eq_self.mpr
      intro property member
      obtain ⟨c, among, rfl⟩ := List.mem_map.mp member
      apply decide_eq_true
      intro same
      exact unnamed (same ▸ List.mem_map_of_mem among)
    rw [all] at own
    refine ⟨ids, parsed, ?_, ?_⟩
    · intro key
      have keys := (own.map Prod.fst).mem_iff (a := key)
      rw [List.map_map] at keys
      exact keys
    · intro entry member
      exact PlainObject.get?_eq_some (own.mem_iff.mpr (List.mem_map_of_mem member))

end Ids

section Exports

/-- The names are distinct, not empty and over `[a-z0-9_-]`, one for each canister that is not
deleted, in order and with its principal. -/
structure NamesResolved (canisters : List Canister) (exported : List ExportedCanister) :
    Prop where
  principals :
    exported.map ExportedCanister.principal = (live canisters).map Canister.principal
  distinct : (exported.map ExportedCanister.name).Nodup
  wellFormed :
    ∀ entry ∈ exported, entry.name ≠ [] ∧ ∀ unit ∈ entry.name, isNameUnit unit = true

variable [CaseMapping]

/-- The export gives every canister a name, and both files have all names. -/
def ProjectExported (canisters : List Canister) : Prop :=
  ∃ exported,
    (∀ fuel, canisters.length < fuel →
      resolveCanisterNames fuel canisters = some exported) ∧
      NamesResolved canisters exported ∧ IdsComplete exported ∧
        listedNames (renderIcpYaml exported) = exported.map ExportedCanister.name

/-- Whether what a canister's slug is made of is, in lower case, `__proto__` between units that
are none of a word. -/
def NamedProto (canister : Canister) : Prop :=
  stripEnds isNoise (toLowerCase (rawName canister)) = protoKey

/-- The names are resolved for every list of canisters; one of them is that of the inherited
accessor exactly if a canister that is not deleted has that name. -/
theorem resolveCanisterNames_spec
    (canisters : List Canister) :
    ∃ exported, (∀ fuel, canisters.length < fuel →
        resolveCanisterNames fuel canisters = some exported) ∧
      NamesResolved canisters exported ∧
        (protoKey ∈ exported.map ExportedCanister.name ↔
          ∃ canister ∈ live canisters, NamedProto canister) := by
  obtain ⟨final, run, sound⟩ := ExportState.Sound.foldlM_exportCanister canisters
  refine ⟨final.exported, fun fuel enough => ?_, ?_, ?_⟩
  · unfold resolveCanisterNames
    rw [run fuel enough, Option.map_some]
  · exact
      { principals := sound.principals
        distinct := sound.used ▸ sound.distinct
        wellFormed := fun entry member =>
          sound.wellFormed entry.name (sound.used ▸ List.mem_map_of_mem member) }
  · rw [← sound.used]
    constructor
    · intro member
      obtain ⟨canister, inside, same | ⟨suffix, same⟩⟩ := sound.origins protoKey member
      · exact ⟨canister, inside, (slugifyCanisterName_eq_protoKey _).mp same.symm⟩
      · exact absurd same.symm (suffixed_ne_protoKey _ suffix)
    · rintro ⟨canister, inside, proto⟩
      have same : slug canister = protoKey := (slugifyCanisterName_eq_protoKey _).mpr proto
      exact same ▸ sound.slugs canister inside

/-- Every list of canisters is exported with all names exactly if none of them that is not
deleted is named like the accessor that the object of principals inherits. -/
theorem projectExported_iff
    (canisters : List Canister) :
    ProjectExported canisters ↔
      ∀ canister ∈ canisters, canister.availability ≠ .Deleted → ¬ NamedProto canister := by
  obtain ⟨exported, run, resolved, named⟩ := resolveCanisterNames_spec canisters
  have yaml :
      listedNames (renderIcpYaml exported) = exported.map ExportedCanister.name :=
    listedNames_renderIcpYaml fun c member => (resolved.wellFormed c member).2
  have complete : ProjectExported canisters ↔ protoKey ∉ exported.map ExportedCanister.name := by
    rw [← idsComplete_iff resolved.distinct]
    constructor
    · rintro ⟨other, otherRun, -, ids, -⟩
      have same : other = exported :=
        Option.some.inj
          ((otherRun _ (Nat.lt_succ_self _)).symm.trans (run _ (Nat.lt_succ_self _)))
      exact same ▸ ids
    · intro ids
      exact ⟨exported, run, resolved, ids, yaml⟩
  rw [complete, named]
  constructor
  · intro none canister member present proto
    exact none ⟨canister, List.mem_filter.mpr ⟨member, decide_eq_true present⟩, proto⟩
  · rintro none ⟨canister, inside, proto⟩
    obtain ⟨member, present⟩ := List.mem_filter.mp inside
    exact none canister member (of_decide_eq_true present) proto

end Exports

section ProtoCanister

/-- The case mapping of names without capital letters other than A to Z. -/
@[reducible]
def asciiCaseMapping : CaseMapping where
  toLowerCase text :=
    text.map fun unit => if 65 ≤ unit && unit ≤ 90 then unit + 32 else unit

attribute [local instance] asciiCaseMapping

/-- A canister with a name. -/
def namedCanister (name : String) : Canister where
  principal := unitsOf "rrkah-fqaaa-aaaaa-aaaaq-cai"
  name := some (unitsOf name)
  availability := .Accessible

example :
    (resolveCanisterNames 4 (["a-2", "A", " a!", "?"].map namedCanister)).map
        (fun exported => exported.map ExportedCanister.name) =
      some (["a-2", "a", "a-3", "canister"].map unitsOf) := by
  decide +kernel

/-- The principal of a canister named `__proto__` is missing from the file of principals. -/
theorem projectExported_protoCanister : ¬ ProjectExported [namedCanister "__proto__"] := by
  rintro ⟨exported, run, -, ⟨ids, parsed, keys, -⟩, -⟩
  have names :
      (resolveCanisterNames 2 [namedCanister "__proto__"]).map
          (fun exported => exported.map fun c => (c.name, c.principal)) =
        some [(protoKey, unitsOf "rrkah-fqaaa-aaaaa-aaaaq-cai")] := by
    decide +kernel
  have file :
      (resolveCanisterNames 2 [namedCanister "__proto__"]).map renderIdsJson =
        some (unitsOf "\x7b\x7d\n") := by
    decide +kernel
  have nothing : (parse (unitsOf "\x7b\x7d\n")).map PlainObject.keys = some [] := by
    decide +kernel
  rw [run 2 (by decide)] at names file
  rw [← Option.some.inj file, parsed] at nothing
  have pairs := Option.some.inj names
  have named : protoKey ∈ exported.map ExportedCanister.name := by
    have firsts := congrArg (List.map Prod.fst) pairs
    rw [List.map_map] at firsts
    exact firsts ▸ List.mem_singleton_self protoKey
  have missing : protoKey ∉ ids.keys := by
    rw [Option.some.inj nothing]
    exact List.not_mem_nil
  exact missing ((keys protoKey).mpr named)

end ProtoCanister

end SsnConsole.ProjectExport
