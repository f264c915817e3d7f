import SsnConsole.ProjectArchive

/-!
# What an archive contains

A page that a viewer renders has the markup of the template's page and no more,
whatever the project and its canisters are called.  An archive has every file that
it should have, each in its own place: no canister's page is written over another
file, and each is where `icp.yaml` says that it is.
-/

namespace SsnConsole.ProjectExport

open SsnConsole.JavaScript
open SsnConsole.TextSubstitution

section Markup

/-- The units that begin or end a tag or the value of an attribute. -/
def isMarkup (unit : UInt16) : Bool :=
  unit = 60 || unit = 62 || unit = 34 || unit = 39

/-- Whether a text has no markup. -/
def Inert (text : JsString) : Prop :=
  ∀ unit ∈ text, isMarkup unit = false

/-- A replacement without a unit removes this unit and no markup comes in. -/
private theorem isMarkup_of_mem_replaceUnit
    {unit other : UInt16}
    {text value : JsString}
    (inert : Inert text)
    (member : other ∈ replaceUnit unit text value)
    (markup : isMarkup other = true) :
    other ∈ value ∧ other ≠ unit := by
  obtain ⟨source, inside, found⟩ := List.mem_flatMap.mp member
  split at found
  · rw [inert other found] at markup
    cases markup
  · rename_i differs
    obtain rfl := List.mem_singleton.mp found
    exact ⟨inside, differs⟩

/-- An escaped text has no markup. -/
theorem inert_escapeHtml
    (value : JsString) :
    Inert (escapeHtml value) := by
  have entities :
      ∀ text ∈ ["&amp;", "&lt;", "&gt;", "&quot;", "&#39;"].map unitsOf,
        text.all (fun unit => !isMarkup unit) = true := by
    decide
  have inert : ∀ text ∈ ["&amp;", "&lt;", "&gt;", "&quot;", "&#39;"].map unitsOf, Inert text := by
    intro text member unit inside
    have none := List.all_eq_true.mp (entities text member) unit inside
    simpa using none
  intro unit member
  by_contra some
  have markup : isMarkup unit = true := by simpa using some
  obtain ⟨member, apostrophe⟩ := isMarkup_of_mem_replaceUnit (inert _ (by simp)) member markup
  obtain ⟨member, quote⟩ := isMarkup_of_mem_replaceUnit (inert _ (by simp)) member markup
  obtain ⟨member, greater⟩ := isMarkup_of_mem_replaceUnit (inert _ (by simp)) member markup
  obtain ⟨member, less⟩ := isMarkup_of_mem_replaceUnit (inert _ (by simp)) member markup
  simp [isMarkup, apostrophe, quote, greater, less] at markup

/-- A name's units are no markup. -/
theorem not_isMarkup_of_isNameUnit
    {unit : UInt16}
    (named : isNameUnit unit = true) :
    isMarkup unit = false := by
  by_contra some
  have markup : isMarkup unit = true := by simpa using some
  simp only [isMarkup, Bool.or_eq_true, decide_eq_true_eq] at markup
  rcases markup with ((rfl | rfl) | rfl) | rfl
  all_goals exact absurd named (by decide)

/-- The canisters of an export have texts without markup. -/
def InertCanister (canister : ExportedCanister) : Prop :=
  Inert canister.name ∧ Inert canister.principal ∧ Inert canister.accent

/-- A page of the archive has the markup of the template's page. -/
theorem filter_renderContent
    {path : JsString}
    {canister : Option ExportedCanister}
    {input : BuildProjectZipInput}
    (page : rendersHtml path = true)
    (inert : ∀ exported, canister = some exported → InertCanister exported)
    (content : JsString) :
    (renderContent content path canister input).filter isMarkup = content.filter isMarkup := by
  have tokens :
      ∀ token ∈ [TOKEN_PROJECT, TOKEN_CANISTER, TOKEN_CANISTER_PRINCIPAL, TOKEN_ACCENT],
        token ≠ [] ∧ token.all (fun unit => !isMarkup unit) = true := by
    decide
  have substituted :
      ∀ token ∈ [TOKEN_PROJECT, TOKEN_CANISTER, TOKEN_CANISTER_PRINCIPAL, TOKEN_ACCENT],
        ∀ replacement text, Inert replacement →
          (replaceAll token replacement text).filter isMarkup = text.filter isMarkup := by
    intro token member replacement text inert
    obtain ⟨nonempty, free⟩ := tokens token member
    apply filter_replaceAll nonempty _ inert
    intro unit inside
    have none := List.all_eq_true.mp free unit inside
    simpa using none
  have project :
      (replaceAll TOKEN_PROJECT (escapeHtml input.projectName) content).filter isMarkup =
        content.filter isMarkup :=
    substituted _ (by simp) _ _ (inert_escapeHtml _)
  unfold renderContent
  rw [if_pos page]
  cases canister with
  | none => exact project
  | some exported =>
      obtain ⟨name, principal, accent⟩ := inert exported rfl
      calc
        _ = _ := substituted _ (by simp) _ _ name
        _ = _ := substituted _ (by simp) _ _ accent
        _ = _ := substituted _ (by simp) _ _ principal
        _ = _ := project

end Markup

section Accents

variable [CaseMapping]

/-- A canister's accent is of the palette. -/
private theorem accents_of_exportCanister
    {fuel : Nat}
    {state after : ExportState}
    {canister : Canister}
    (stepped : exportCanister fuel state canister = some after)
    (accents : ∀ exported ∈ state.exported, exported.accent ∈ ACCENT_PALETTE) :
    ∀ exported ∈ after.exported, exported.accent ∈ ACCENT_PALETTE := by
  unfold exportCanister at stepped
  split at stepped
  · cases stepped
    exact accents
  · obtain ⟨name, -, rfl⟩ := Option.map_eq_some_iff.mp stepped
    intro exported member
    rcases List.mem_append.mp member with earlier | new
    · exact accents exported earlier
    · obtain rfl := List.mem_singleton.mp new
      have bounded : state.i % ACCENT_PALETTE.length < ACCENT_PALETTE.length :=
        Nat.mod_lt _ (by decide)
      show ACCENT_PALETTE.getD _ [] ∈ ACCENT_PALETTE
      rw [List.getD_eq_getElem _ _ bounded]
      exact List.getElem_mem bounded

/-- The accents of an export are of the palette. -/
private theorem accents_of_foldlM
    {fuel : Nat}
    {canisters : List Canister}
    {state final : ExportState}
    (run : canisters.foldlM (exportCanister fuel) state = some final)
    (accents : ∀ exported ∈ state.exported, exported.accent ∈ ACCENT_PALETTE) :
    ∀ exported ∈ final.exported, exported.accent ∈ ACCENT_PALETTE := by
  induction canisters generalizing state with
  | nil =>
      cases run
      exact accents
  | cons canister rest inductionHypothesis =>
      obtain ⟨after, stepped, run⟩ := Option.bind_eq_some_iff.mp run
      exact inductionHypothesis run (accents_of_exportCanister stepped accents)

/-- The texts of an export have no markup, if the principals have none. -/
private theorem inert_of_resolved
    {fuel : Nat}
    {canisters : List Canister}
    {exported : List ExportedCanister}
    (principals :
      ∀ canister ∈ canisters, canister.availability ≠ .Deleted → Inert canister.principal)
    (resolved : resolveCanisterNames fuel canisters = some exported)
    (names : NamesResolved canisters exported) :
    ∀ canister ∈ exported, InertCanister canister := by
  intro canister member
  refine ⟨?_, ?_, ?_⟩
  · intro unit inside
    exact not_isMarkup_of_isNameUnit ((names.wellFormed canister member).2 unit inside)
  · have listed : canister.principal ∈ (live canisters).map Canister.principal :=
      names.principals ▸ List.mem_map_of_mem member
    obtain ⟨source, inside, same⟩ := List.mem_map.mp listed
    obtain ⟨inside, present⟩ := List.mem_filter.mp inside
    exact same ▸ principals source inside (of_decide_eq_true present)
  · obtain ⟨final, run, rfl⟩ := Option.map_eq_some_iff.mp resolved
    have none : ∀ exported ∈ ExportState.initial.exported, exported.accent ∈ ACCENT_PALETTE := by
      intro exported member
      cases member
    have accent := accents_of_foldlM run none canister member
    have palette :
        ∀ accent ∈ ACCENT_PALETTE, accent.all (fun unit => !isMarkup unit) = true := by
      decide
    intro unit inside
    have free := List.all_eq_true.mp (palette _ accent) unit inside
    simpa using free

end Accents

section Own

/-- What an object has after an assignment is the property or was there before. -/
private theorem mem_own_addFile
    {files : PlainObject}
    {file property : Property}
    (member : property ∈ (addFile files file).own) :
    property = file ∨ property ∈ files.own := by
  have defined :
      ∀ {property}, property ∈ (files.define file.1 file.2).own →
        property = file ∨ property ∈ files.own := by
    intro property member
    unfold PlainObject.define at member
    split at member
    · obtain ⟨source, inside, rfl⟩ := List.mem_map.mp member
      unfold PlainObject.revalue
      split
      · exact .inl rfl
      · exact .inr inside
    · rcases List.mem_append.mp member with earlier | new
      · exact .inr earlier
      · exact .inl (List.mem_singleton.mp new)
  unfold addFile PlainObject.assign at member
  split at member
  · exact defined member
  · split at member
    · exact .inr member
    · exact defined member
    · exact defined member

/-- The files of an archive are among those that were written. -/
private theorem mem_of_mem_own
    {entries : List Property}
    {property : Property}
    (member : property ∈ (entries.foldl addFile .empty).own) :
    property ∈ entries := by
  induction entries using List.reverseRecOn with
  | nil => cases member
  | append_singleton entries entry inductionHypothesis =>
      rw [List.foldl_append, List.foldl_cons, List.foldl_nil] at member
      rcases mem_own_addFile member with rfl | earlier
      · exact List.mem_append_right _ (List.mem_singleton_self _)
      · exact List.mem_append_left _ (inductionHypothesis earlier)

end Own

section Pages

variable [CaseMapping]

omit [CaseMapping] in
/-- The lists of an archive are no pages. -/
private theorem rendersHtml_lists
    (root : JsString) :
    rendersHtml (root ++ unitsOf "icp.yaml") = false ∧
      rendersHtml (root ++ unitsOf ".icp/data/mappings/ic.ids.json") = false := by
  have apart :
      ∀ suffix ∈ [".html", ".md"].map unitsOf,
        ∀ file ∈ ["icp.yaml", ".icp/data/mappings/ic.ids.json"].map unitsOf,
          suffix.length ≤ file.length ∧ ¬ suffix <:+ file := by
    decide
  have absent :
      ∀ suffix ∈ [".html", ".md"].map unitsOf,
        ∀ file ∈ ["icp.yaml", ".icp/data/mappings/ic.ids.json"].map unitsOf,
          ¬ suffix <:+ root ++ file := by
    intro suffix suffixMember file fileMember ends
    obtain ⟨shorter, differs⟩ := apart suffix suffixMember file fileMember
    exact differs (List.suffix_of_suffix_length_le ends (List.suffix_append root file) shorter)
  constructor
  · simp [rendersHtml, absent]
  · simp [rendersHtml, absent]

/--
A page of an archive has the markup of the template's page that it was made from,
whatever the project is called and whatever names its canisters have.
-/
theorem exportedPages_inert
    (templateFiles : List Property)
    (input : BuildProjectZipInput)
    (principals :
      ∀ canister ∈ input.canisters, canister.availability ≠ .Deleted →
        Inert canister.principal)
    (fuel : Nat)
    (enough : input.canisters.length < fuel)
    (files : PlainObject)
    (built : buildProjectZip fuel templateFiles input = some (.ok files))
    (page : Property)
    (member : page ∈ files.own)
    (rendered : rendersHtml page.1 = true) :
    ∃ exported, resolveCanisterNames fuel input.canisters = some exported ∧
      ∃ template ∈ templateFiles,
        page ∈
            templateEntries input exported
              (slugifyProjectName input.projectName ++ unitsOf "/") template ∧
          page.2.filter isMarkup = template.2.filter isMarkup := by
  obtain ⟨exported, run, names, -⟩ := resolveCanisterNames_spec input.canisters
  have resolved := run fuel enough
  have inert := inert_of_resolved principals resolved names
  rw [buildProjectZip_eq templateFiles resolved] at built
  split at built
  · cases built
  · cases built
    refine ⟨exported, resolved, ?_⟩
    rcases List.mem_append.mp (mem_of_mem_own member) with made | listed
    · obtain ⟨template, inside, made⟩ := List.mem_flatMap.mp made
      refine ⟨template, inside, made, ?_⟩
      by_cases marked : CANISTER_PATH_MARKER <:+: relativePath template.1
      · simp only [templateEntries, if_pos marked] at made
        obtain ⟨canister, among, rfl⟩ := List.mem_map.mp made
        have texts : ∀ other, some canister = some other → InertCanister other := by
          rintro other ⟨⟩
          exact inert canister among
        exact filter_renderContent rendered texts template.2
      · simp only [templateEntries, if_neg marked] at made
        obtain rfl := List.mem_singleton.mp made
        have texts : ∀ other, none = some other → InertCanister other := by
          rintro other ⟨⟩
        exact filter_renderContent rendered texts template.2
    · obtain ⟨yaml, ids⟩ :=
        rendersHtml_lists (slugifyProjectName input.projectName ++ unitsOf "/")
      rcases List.mem_cons.mp listed with rfl | listed
      · rw [yaml] at rendered
        cases rendered
      · obtain rfl := List.mem_singleton.mp listed
        rw [ids] at rendered
        cases rendered

end Pages

section ShopPage

attribute [local instance] asciiCaseMapping

/-- A project with markup in its name. -/
def shopInput : BuildProjectZipInput where
  projectName := unitsOf "<b>Shop</b>"
  canisters := [namedCanister "Web shop"]

/-- The files of an archive that was built. -/
def builtFiles : Option (Except String PlainObject) → List Property
  | some (.ok files) => files.own
  | some (.error _) | none => []

/-- The page of the shop has the markup of the template's page. -/
theorem exportedPages_inert_shop :
    ∃ page, page.1 = unitsOf "b-shop-b/src/web-shop/dist/index.html" ∧
      ∃ exported, resolveCanisterNames 2 shopInput.canisters = some exported ∧
        ∃ template ∈ templateFiles [] [] (unitsOf "<h1>{{PROJECT}}</h1>"),
          page ∈
              templateEntries shopInput exported
                (slugifyProjectName shopInput.projectName ++ unitsOf "/") template ∧
            page.2.filter isMarkup = template.2.filter isMarkup := by
  have evaluated :
      unitsOf "b-shop-b/src/web-shop/dist/index.html" ∈
        (builtFiles
          (buildProjectZip 2 (templateFiles [] [] (unitsOf "<h1>{{PROJECT}}</h1>"))
            shopInput)).map Prod.fst := by
    decide
  have principals :
      ∀ canister ∈ shopInput.canisters, canister.availability ≠ .Deleted →
        Inert canister.principal := by
    intro canister member _ unit inside
    obtain rfl := List.mem_singleton.mp member
    have free :
        (unitsOf "rrkah-fqaaa-aaaaa-aaaaq-cai").all (fun unit => !isMarkup unit) = true := by
      decide
    simpa using List.all_eq_true.mp free unit inside
  obtain ⟨page, member, path⟩ := List.mem_map.mp evaluated
  have rendered : rendersHtml page.1 = true := by
    rw [path]
    decide
  cases built :
      buildProjectZip 2 (templateFiles [] [] (unitsOf "<h1>{{PROJECT}}</h1>"))
        shopInput with
  | none =>
      rw [built] at member
      cases member
  | some result =>
      rw [built] at member
      cases result with
      | error message => cases member
      | ok files =>
          exact
            ⟨page, path,
              exportedPages_inert _ shopInput principals 2 (by decide) files built page member
                rendered⟩

end ShopPage

section Places

/-- A token that begins with a name before a slash is found where the name is. -/
private theorem eq_of_prefix
    {name other rest tail : JsString}
    (nameFree : (47 : UInt16) ∉ name)
    (otherFree : (47 : UInt16) ∉ other)
    (occurs : name ++ 47 :: tail <+: other ++ 47 :: rest) :
    name = other ∧ tail <+: rest := by
  obtain ⟨later, whole⟩ := occurs
  rw [List.append_assoc, List.cons_append] at whole
  rcases List.append_eq_append_iff.mp whole with ⟨gap, same, follows⟩ | ⟨gap, same, follows⟩
  · cases gap with
    | nil =>
        obtain ⟨-, rest⟩ := List.cons.inj follows
        exact ⟨by simpa using same.symm, later, rest⟩
    | cons unit gap =>
        obtain ⟨rfl, -⟩ := List.cons.inj follows
        exact (otherFree (same ▸ by simp)).elim
  · cases gap with
    | nil =>
        obtain ⟨-, rest⟩ := List.cons.inj follows
        exact ⟨by simpa using same, later, rest.symm⟩
    | cons unit gap =>
        obtain ⟨rfl, -⟩ := List.cons.inj follows
        exact (nameFree (same ▸ by simp)).elim

/-- A canister's page is where `icp.yaml` says. -/
theorem rewriteCanisterPath_page
    {name : JsString}
    (nonempty : name ≠ [])
    (slashFree : (47 : UInt16) ∉ name) :
    rewriteCanisterPath (unitsOf "src/__CANISTER__/assets/index.html") name =
      unitsOf "src/" ++ name ++ unitsOf "/dist/index.html" := by
  have pieces :
      split CANISTER_PATH_MARKER
          (rewritePlainPath (unitsOf "src/__CANISTER__/assets/index.html")) =
        [unitsOf "src/", unitsOf "/assets/index.html"] := by
    decide
  have tail : unitsOf "/assets/" = 47 :: unitsOf "assets/" := rfl
  have source : unitsOf "src/" = [115, 114, 99, 47] := rfl
  have page : unitsOf "/assets/index.html" = unitsOf "/assets/" ++ unitsOf "index.html" := rfl
  have named :
      replaceAll CANISTER_PATH_MARKER name
          (rewritePlainPath (unitsOf "src/__CANISTER__/assets/index.html")) =
        115 :: 114 :: 99 :: 47 :: (name ++ unitsOf "/assets/" ++ unitsOf "index.html") := by
    unfold replaceAll
    rw [pieces, source, page]
    simp
  -- Only a name that is the end of `src` could be found before its place, and none of these
  -- is followed by `assets`.
  have absent :
      ∀ other ∈ [[115, 114, 99], [114, 99], [99], []],
        ¬ name ++ unitsOf "/assets/" <+:
            other ++ 47 :: (name ++ unitsOf "/assets/" ++ unitsOf "index.html") := by
    intro other member occurs
    have free : ∀ other ∈ [[115, 114, 99], [114, 99], [99], []], (47 : UInt16) ∉ other := by
      decide
    have otherFree := free other member
    rw [tail] at occurs
    obtain ⟨same, follows⟩ := eq_of_prefix slashFree otherFree occurs
    rw [same] at follows nonempty
    have start : (97 : UInt16) :: unitsOf "ssets/" = unitsOf "assets/" := rfl
    rw [← start] at follows
    simp only [List.mem_cons, List.not_mem_nil, or_false] at member
    rcases member with rfl | rfl | rfl | rfl
    · exact absurd (List.cons_prefix_cons.mp follows).1 (by decide)
    · exact absurd (List.cons_prefix_cons.mp follows).1 (by decide)
    · exact absurd (List.cons_prefix_cons.mp follows).1 (by decide)
    · exact nonempty rfl
  have whole : unitsOf "/dist/index.html" = unitsOf "/dist/" ++ unitsOf "index.html" := rfl
  have passed :
      replaceFirst (name ++ unitsOf "/assets/") (name ++ unitsOf "/dist/")
          (115 :: 114 :: 99 :: 47 :: (name ++ unitsOf "/assets/" ++ unitsOf "index.html")) =
        115 :: 114 :: 99 :: 47 :: (name ++ unitsOf "/dist/" ++ unitsOf "index.html") := by
    calc
      _ = _ := replaceFirst_cons (absent [115, 114, 99] (by simp)) _
      _ = _ := congrArg (115 :: ·) (replaceFirst_cons (absent [114, 99] (by simp)) _)
      _ = _ := congrArg (115 :: 114 :: ·) (replaceFirst_cons (absent [99] (by simp)) _)
      _ = _ := congrArg (115 :: 114 :: 99 :: ·) (replaceFirst_cons (absent [] (by simp)) _)
      _ = _ :=
        congrArg (115 :: 114 :: 99 :: 47 :: ·)
          (replaceFirst_append (List.append_ne_nil_of_left_ne_nil nonempty _) _ _)
  simp only [rewriteCanisterPath, named, passed, source, whole]
  simp

/-- The paths of an archive below its root. -/
def archivePaths (exported : List ExportedCanister) : List JsString :=
  ["README.md", ".gitignore"].map unitsOf ++
    exported.map (fun canister =>
      unitsOf "src/" ++ canister.name ++ unitsOf "/dist/index.html") ++
    ["icp.yaml", ".icp/data/mappings/ic.ids.json"].map unitsOf

/-- Every file of an archive has a path of its own. -/
theorem nodup_archivePaths
    {exported : List ExportedCanister}
    (distinct : (exported.map ExportedCanister.name).Nodup) :
    (archivePaths exported).Nodup := by
  have source : unitsOf "src/" = [115, 114, 99, 47] := rfl
  have fixed :
      (["README.md", ".gitignore"].map unitsOf ++
        ["icp.yaml", ".icp/data/mappings/ic.ids.json"].map unitsOf).Nodup ∧
        ∀ path ∈
            ["README.md", ".gitignore"].map unitsOf ++
              ["icp.yaml", ".icp/data/mappings/ic.ids.json"].map unitsOf,
          path.head? ≠ some 115 := by
    decide
  have pages :
      (exported.map fun canister =>
        unitsOf "src/" ++ canister.name ++ unitsOf "/dist/index.html").Nodup := by
    have placed : Function.Injective fun name : JsString =>
        unitsOf "src/" ++ name ++ unitsOf "/dist/index.html" := by
      intro first second same
      exact List.append_cancel_left (List.append_cancel_right same)
    have renamed := distinct.map placed
    rw [List.map_map] at renamed
    exact renamed
  have apart :
      List.Disjoint
        (exported.map fun canister =>
          unitsOf "src/" ++ canister.name ++ unitsOf "/dist/index.html")
        (["README.md", ".gitignore"].map unitsOf ++
          ["icp.yaml", ".icp/data/mappings/ic.ids.json"].map unitsOf) := by
    intro path made other
    obtain ⟨canister, -, rfl⟩ := List.mem_map.mp made
    apply fixed.2 _ other
    rw [source]
    rfl
  have moved :
      (archivePaths exported).Perm
        ((exported.map fun canister =>
            unitsOf "src/" ++ canister.name ++ unitsOf "/dist/index.html") ++
          (["README.md", ".gitignore"].map unitsOf ++
            ["icp.yaml", ".icp/data/mappings/ic.ids.json"].map unitsOf)) := by
    unfold archivePaths
    rw [← List.append_assoc]
    exact List.perm_append_comm.append_right _
  exact moved.nodup_iff.mpr (pages.append fixed.1 apart)

end Places

section Complete

/-- The files of an archive, for the contents of the template's files. -/
def archiveFiles (readme gitignore page : JsString) (input : BuildProjectZipInput)
    (exported : List ExportedCanister) (root : JsString) : List Property :=
  [(root ++ unitsOf "README.md",
      renderContent readme (root ++ unitsOf "README.md") none input),
    (root ++ unitsOf ".gitignore",
      renderContent gitignore (root ++ unitsOf ".gitignore") none input)] ++
    exported.map (fun canister =>
      let path := root ++ (unitsOf "src/" ++ canister.name ++ unitsOf "/dist/index.html")
      (path, renderContent page path (some canister) input)) ++
    [(root ++ unitsOf "icp.yaml", renderIcpYaml exported),
      (root ++ unitsOf ".icp/data/mappings/ic.ids.json", renderIdsJson exported)]

variable [CaseMapping] {input : BuildProjectZipInput} {exported : List ExportedCanister}

/-- These are the files that the repository's template becomes. -/
private theorem archiveEntries_eq
    (named :
      ∀ canister ∈ exported,
        canister.name ≠ [] ∧ ∀ unit ∈ canister.name, isNameUnit unit = true)
    (readme gitignore page : JsString) :
    archiveEntries (templateFiles readme gitignore page) input exported =
      archiveFiles readme gitignore page input exported
        (slugifyProjectName input.projectName ++ unitsOf "/") := by
  have plain :
      ∀ file ∈ [("./template/README.md", "README.md"), ("./template/gitignore", ".gitignore")],
        ¬ CANISTER_PATH_MARKER <:+: relativePath (unitsOf file.1) ∧
          rewritePlainPath (relativePath (unitsOf file.1)) = unitsOf file.2 := by
    decide
  obtain ⟨readmePlain, readmePath⟩ := plain ("./template/README.md", "README.md") (by simp)
  obtain ⟨ignorePlain, ignorePath⟩ := plain ("./template/gitignore", ".gitignore") (by simp)
  have owned :
      CANISTER_PATH_MARKER <:+:
          relativePath (unitsOf "./template/src/__CANISTER__/assets/index.html") ∧
        relativePath (unitsOf "./template/src/__CANISTER__/assets/index.html") =
          unitsOf "src/__CANISTER__/assets/index.html" := by
    decide
  obtain ⟨marked, relative⟩ := owned
  rw [relative] at marked
  have slashFree :
      ∀ canister ∈ exported, (47 : UInt16) ∉ canister.name := by
    intro canister member slash
    exact absurd ((named canister member).2 47 slash) (by decide)
  have pages :
      (exported.map fun canister =>
          (slugifyProjectName input.projectName ++ unitsOf "/" ++
              rewriteCanisterPath (unitsOf "src/__CANISTER__/assets/index.html") canister.name,
            renderContent page
              (slugifyProjectName input.projectName ++ unitsOf "/" ++
                rewriteCanisterPath (unitsOf "src/__CANISTER__/assets/index.html") canister.name)
              (some canister) input)) =
        exported.map fun canister =>
          (slugifyProjectName input.projectName ++ unitsOf "/" ++
              (unitsOf "src/" ++ canister.name ++ unitsOf "/dist/index.html"),
            renderContent page
              (slugifyProjectName input.projectName ++ unitsOf "/" ++
                (unitsOf "src/" ++ canister.name ++ unitsOf "/dist/index.html"))
              (some canister) input) := by
    apply List.map_congr_left
    intro canister member
    rw [rewriteCanisterPath_page (named canister member).1 (slashFree canister member)]
  simp only [archiveEntries, templateFiles, templateEntries, archiveFiles, List.flatMap_cons,
    List.flatMap_nil, if_neg readmePlain, readmePath, if_neg ignorePlain, ignorePath,
    if_pos marked, relative, pages]
  simp only [List.append_nil, List.cons_append, List.nil_append, List.append_assoc]

omit [CaseMapping] in
/-- The paths of the files are distinct and none is that of the inherited accessor. -/
private theorem own_archiveFiles
    (distinct : (exported.map ExportedCanister.name).Nodup)
    (readme gitignore page slug : JsString) :
    ((archiveFiles readme gitignore page input exported (slug ++ unitsOf "/")).foldl addFile
        .empty).own =
      archiveFiles readme gitignore page input exported (slug ++ unitsOf "/") := by
  have paths :
      (archiveFiles readme gitignore page input exported (slug ++ unitsOf "/")).map Prod.fst =
        (archivePaths exported).map ((slug ++ unitsOf "/") ++ ·) := by
    simp [archiveFiles, archivePaths]
  have keys :
      ((archiveFiles readme gitignore page input exported (slug ++ unitsOf "/")).map
        Prod.fst).Nodup := by
    rw [paths]
    exact (nodup_archivePaths distinct).map (List.append_right_injective _)
  have own := PlainObject.own_foldl_assign keys
  have kept :
      (archiveFiles readme gitignore page input exported (slug ++ unitsOf "/")).filter
          (fun property => property.1 ≠ protoKey) =
        archiveFiles readme gitignore page input exported (slug ++ unitsOf "/") := by
    apply List.filter_eq_self.mpr
    intro property member
    apply decide_eq_true
    intro proto
    have listed := List.mem_map_of_mem (f := Prod.fst) member
    rw [paths] at listed
    obtain ⟨path, -, same⟩ := List.mem_map.mp listed
    have slash : (47 : UInt16) ∈ protoKey := by
      rw [← proto, ← same]
      exact List.mem_append_left _ (List.mem_append_right _ (by decide))
    exact absurd slash (by decide)
  rw [kept] at own
  exact own

/-- The root's name is a text over `[a-z0-9-]`. -/
theorem slugifyProjectName_wellFormed
    (name : JsString) :
    slugifyProjectName name ≠ [] ∧
      ∀ unit ∈ slugifyProjectName name, isSlugUnit unit = true ∨ unit = 45 := by
  unfold slugifyProjectName
  by_cases empty : stripEnds isHyphen (collapseRuns isSlugUnit 45 false (toLowerCase name)) = []
  · rw [if_pos empty]
    have slugged :
        (unitsOf "project").all (fun unit => isSlugUnit unit || decide (unit = 45)) = true := by
      decide
    refine ⟨List.cons_ne_nil _ _, ?_⟩
    intro unit member
    have found := List.all_eq_true.mp slugged unit member
    simpa using found
  · rw [if_neg empty]
    refine ⟨empty, ?_⟩
    intro unit member
    exact keep_or_eq_of_mem_collapseRuns (mem_of_mem_stripEnds member)

omit [CaseMapping] in
/-- A canister's page is in the canister's directory. -/
private theorem page_mem_archiveFiles
    {canister : ExportedCanister}
    (member : canister ∈ exported)
    (readme gitignore page root : JsString) :
    root ++ canisterDir canister ++ unitsOf "/index.html" ∈
      (archiveFiles readme gitignore page input exported root).map Prod.fst := by
  have whole : unitsOf "/dist/index.html" = unitsOf "/dist" ++ unitsOf "/index.html" := by
    decide
  have path :
      root ++ canisterDir canister ++ unitsOf "/index.html" =
        root ++ (unitsOf "src/" ++ canister.name ++ unitsOf "/dist/index.html") := by
    rw [canisterDir, whole]
    simp only [List.append_assoc]
  have placed :
      (root ++ (unitsOf "src/" ++ canister.name ++ unitsOf "/dist/index.html"),
        renderContent page
          (root ++ (unitsOf "src/" ++ canister.name ++ unitsOf "/dist/index.html"))
          (some canister) input) ∈
        archiveFiles readme gitignore page input exported root :=
    List.mem_append_left _ (List.mem_append_right _ (List.mem_map_of_mem member))
  rw [path]
  exact List.mem_map_of_mem placed

/--
An export without a canister fails.  Any other is an archive with the files of the
template and the two lists, where every canister has a page of its own, in the
directory that `icp.yaml` gives it, and no file is written over another.
-/
theorem projectArchive_complete
    (readme gitignore page : JsString)
    (input : BuildProjectZipInput) :
    ∃ exported,
      NamesResolved input.canisters exported ∧
        listedNames (renderIcpYaml exported) = exported.map ExportedCanister.name ∧
          listedEntries (renderIcpYaml exported) =
              exported.map (fun canister => (canister.name, some (canisterDir canister))) ∧
            ∀ fuel, input.canisters.length < fuel →
              resolveCanisterNames fuel input.canisters = some exported ∧
                (live input.canisters = [] →
                  buildProjectZip fuel (templateFiles readme gitignore page) input =
                    some (.error "No canisters available to export.")) ∧
                  (live input.canisters ≠ [] →
                    ∃ root files,
                      buildProjectZip fuel (templateFiles readme gitignore page) input =
                          some (.ok files) ∧
                        files.own =
                            archiveFiles readme gitignore page input exported
                              (root ++ unitsOf "/") ∧
                          (∀ canister ∈ exported,
                            root ++ unitsOf "/" ++ canisterDir canister ++
                                unitsOf "/index.html" ∈
                              files.own.map Prod.fst) ∧
                            root ≠ [] ∧
                              ∀ unit ∈ root, isSlugUnit unit = true ∨ unit = 45) := by
  obtain ⟨exported, run, names, -⟩ := resolveCanisterNames_spec input.canisters
  have lengths := congrArg List.length names.principals
  rw [List.length_map, List.length_map] at lengths
  refine
    ⟨exported, names,
      listedNames_renderIcpYaml fun canister member => (names.wellFormed canister member).2,
      listedEntries_renderIcpYaml fun canister member => (names.wellFormed canister member).2,
      ?_⟩
  intro fuel enough
  have resolved := run fuel enough
  refine ⟨resolved, ?_, ?_⟩
  · intro none
    have empty : exported = [] := by
      rw [none] at lengths
      exact List.length_eq_zero_iff.mp lengths
    rw [buildProjectZip_eq _ resolved, if_pos empty]
  · intro some
    have nonempty : exported ≠ [] := by
      intro empty
      rw [empty] at lengths
      exact some (List.length_eq_zero_iff.mp lengths.symm)
    rw [buildProjectZip_eq _ resolved, if_neg nonempty, archiveEntries_eq names.wellFormed]
    refine
      ⟨_, _, rfl, own_archiveFiles names.distinct readme gitignore page _, ?_,
        slugifyProjectName_wellFormed input.projectName⟩
    intro canister member
    rw [own_archiveFiles names.distinct readme gitignore page]
    exact page_mem_archiveFiles member readme gitignore page _

end Complete

end SsnConsole.ProjectExport
