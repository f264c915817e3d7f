import SsnConsole.ExportedNames
import SsnConsole.TextSubstitution

/-!
# The archive of a project

An export is an archive of the files of a template: plain ones, and one copy for
each canister of those that are a canister's own.  The name of the project is put
into the texts as it is, and escaped into those that a viewer renders as HTML.
-/

namespace SsnConsole.ProjectExport

open SsnConsole.JavaScript
open SsnConsole.TextSubstitution

/-- `BuildProjectZipInput`. -/
structure BuildProjectZipInput where
  projectName : JsString
  canisters : List Canister

section Tokens

/-- What stands for a canister's name in the paths of the template. -/
def CANISTER_PATH_MARKER : JsString :=
  unitsOf "__CANISTER__"

def TOKEN_PROJECT : JsString :=
  unitsOf "\x7b\x7bPROJECT\x7d\x7d"

def TOKEN_CANISTER : JsString :=
  unitsOf "\x7b\x7bCANISTER\x7d\x7d"

def TOKEN_CANISTER_PRINCIPAL : JsString :=
  unitsOf "\x7b\x7bCANISTER_PRINCIPAL\x7d\x7d"

def TOKEN_ACCENT : JsString :=
  unitsOf "\x7b\x7bACCENT\x7d\x7d"

end Tokens

section Paths

/-- A unit of `[a-z0-9]`. -/
def isSlugUnit (unit : UInt16) : Bool :=
  (97 ≤ unit && unit ≤ 122) || (48 ≤ unit && unit ≤ 57)

/-- `slugifyProjectName`. -/
def slugifyProjectName [CaseMapping] (name : JsString) : JsString :=
  let base := stripEnds isHyphen (collapseRuns isSlugUnit 45 false (toLowerCase name))
  if base = [] then unitsOf "project" else base

/-- `absPath.replace(/^\.\/template\//, '')`. -/
def relativePath (absPath : JsString) : JsString :=
  if (unitsOf "./template/").isPrefixOf absPath then
    absPath.drop (unitsOf "./template/").length
  else
    absPath

/-- `rewritePlainPath`. -/
def rewritePlainPath (relPath : JsString) : JsString :=
  if relPath = unitsOf "gitignore" then unitsOf ".gitignore" else relPath

/-- `rewriteCanisterPath`. -/
def rewriteCanisterPath (relPath canisterName : JsString) : JsString :=
  let named := replaceAll CANISTER_PATH_MARKER canisterName (rewritePlainPath relPath)
  replaceFirst (canisterName ++ unitsOf "/assets/") (canisterName ++ unitsOf "/dist/") named

end Paths

section Contents

/-- `value.replace(/u/g, text)` for a single unit. -/
def replaceUnit (unit : UInt16) (text value : JsString) : JsString :=
  value.flatMap fun other => if other = unit then text else [other]

/-- `escapeHtml`. -/
def escapeHtml (value : JsString) : JsString :=
  let ampersands := replaceUnit 38 (unitsOf "&amp;") value
  let less := replaceUnit 60 (unitsOf "&lt;") ampersands
  let greater := replaceUnit 62 (unitsOf "&gt;") less
  let quotes := replaceUnit 34 (unitsOf "&quot;") greater
  replaceUnit 39 (unitsOf "&#39;") quotes

/-- Whether a viewer renders a file as HTML. -/
def rendersHtml (path : JsString) : Bool :=
  decide (unitsOf ".html" <:+ path) || decide (unitsOf ".md" <:+ path)

/-- `renderContent`. -/
def renderContent (content path : JsString) (canister : Option ExportedCanister)
    (input : BuildProjectZipInput) : JsString :=
  let projectName :=
    if rendersHtml path then escapeHtml input.projectName else input.projectName
  let out := replaceAll TOKEN_PROJECT projectName content
  match canister with
  | none => out
  | some canister =>
      replaceAll TOKEN_CANISTER canister.name
        (replaceAll TOKEN_ACCENT canister.accent
          (replaceAll TOKEN_CANISTER_PRINCIPAL canister.principal out))

end Contents

section Archive

/-- `files[path] = content`. -/
def addFile (files : PlainObject) (file : Property) : PlainObject :=
  files.assign file.1 file.2

/-- One round of the loop over the files of the template. -/
def addTemplate (input : BuildProjectZipInput) (exported : List ExportedCanister)
    (root : JsString) (files : PlainObject) (template : Property) : PlainObject :=
  let relPath := relativePath template.1
  if CANISTER_PATH_MARKER <:+: relPath then
    exported.foldl
      (fun files canister =>
        let path := root ++ rewriteCanisterPath relPath canister.name
        addFile files (path, renderContent template.2 path (some canister) input))
      files
  else
    let path := root ++ rewritePlainPath relPath
    addFile files (path, renderContent template.2 path none input)

/-- `buildProjectZip` up to the compression, with at most `fuel` tests for each name. -/
def buildProjectZip [CaseMapping] (fuel : Nat) (templateFiles : List Property)
    (input : BuildProjectZipInput) : Option (Except String PlainObject) :=
  (resolveCanisterNames fuel input.canisters).map fun exported =>
    if exported.length = 0 then
      .error "No canisters available to export."
    else
      let root := slugifyProjectName input.projectName ++ unitsOf "/"
      let files := templateFiles.foldl (addTemplate input exported root) .empty
      let files := addFile files (root ++ unitsOf "icp.yaml", renderIcpYaml exported)
      .ok
        (addFile files
          (root ++ unitsOf ".icp/data/mappings/ic.ids.json", renderIdsJson exported))

/-- The files of the repository's template, with their contents. -/
def templateFiles (readme gitignore page : JsString) : List Property :=
  [(unitsOf "./template/README.md", readme), (unitsOf "./template/gitignore", gitignore),
    (unitsOf "./template/src/__CANISTER__/assets/index.html", page)]

end Archive

section Entries

/-- The files that a file of the template becomes. -/
def templateEntries (input : BuildProjectZipInput) (exported : List ExportedCanister)
    (root : JsString) (template : Property) : List Property :=
  let relPath := relativePath template.1
  if CANISTER_PATH_MARKER <:+: relPath then
    exported.map fun canister =>
      let path := root ++ rewriteCanisterPath relPath canister.name
      (path, renderContent template.2 path (some canister) input)
  else
    let path := root ++ rewritePlainPath relPath
    [(path, renderContent template.2 path none input)]

/-- The files of an archive, in the order in which they are written. -/
def archiveEntries [CaseMapping] (templateFiles : List Property)
    (input : BuildProjectZipInput) (exported : List ExportedCanister) : List Property :=
  let root := slugifyProjectName input.projectName ++ unitsOf "/"
  templateFiles.flatMap (templateEntries input exported root) ++
    [(root ++ unitsOf "icp.yaml", renderIcpYaml exported),
      (root ++ unitsOf ".icp/data/mappings/ic.ids.json", renderIdsJson exported)]

variable {input : BuildProjectZipInput} {exported : List ExportedCanister} {root : JsString}

/-- A round of the loop writes the files that the template's file becomes. -/
theorem addTemplate_eq
    (files : PlainObject)
    (template : Property) :
    addTemplate input exported root files template =
      (templateEntries input exported root template).foldl addFile files := by
  by_cases marked : CANISTER_PATH_MARKER <:+: relativePath template.1
  · simp only [addTemplate, templateEntries, if_pos marked, List.foldl_map]
  · simp only [addTemplate, templateEntries, if_neg marked, List.foldl_cons, List.foldl_nil]

/-- The loop writes the files that the template becomes. -/
theorem foldl_addTemplate
    (templateFiles : List Property)
    (files : PlainObject) :
    templateFiles.foldl (addTemplate input exported root) files =
      (templateFiles.flatMap (templateEntries input exported root)).foldl addFile files := by
  induction templateFiles generalizing files with
  | nil => rfl
  | cons template rest inductionHypothesis =>
      rw [List.foldl_cons, List.flatMap_cons, List.foldl_append, addTemplate_eq,
        inductionHypothesis]

variable [CaseMapping]

/-- An archive is made of its entries, if there is a canister to export. -/
theorem buildProjectZip_eq
    {fuel : Nat}
    (templateFiles : List Property)
    (resolved : resolveCanisterNames fuel input.canisters = some exported) :
    buildProjectZip fuel templateFiles input =
      some
        (if exported = [] then
          .error "No canisters available to export."
        else
          .ok ((archiveEntries templateFiles input exported).foldl addFile .empty)) := by
  unfold buildProjectZip
  rw [resolved, Option.map_some]
  simp only [List.length_eq_zero_iff]
  split
  · rfl
  · simp only [archiveEntries, List.foldl_append, foldl_addTemplate, List.foldl_cons,
      List.foldl_nil]

end Entries

end SsnConsole.ProjectExport
