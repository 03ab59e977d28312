import AspRust.Parser.FileResolution

/-!
# Module reachability

The module tree reads a file by itself: the name of the file decides where its modules
are, and only items at the top level are looked at.  The compiler goes by the role in
which the file was loaded, and looks into inline modules and bodies.  Which files are the
roots of the crates is guessed from their places, while the targets of a package may have
their roots anywhere.

The two agree on declarations that are read alike (`ReadAlike`).  Where the guess is right
about the source files and all loaded files have only such declarations, the files
reported as unreachable are those that the compiler does not load (`ReadsAlike`).

### Layout

* What the two readings of one declaration are, and when a declaration is read alike.
* Chains of declarations: from the same roots, and step by step, both readings come to
  the same files.
* A library that is read alike, and four ways in which a crate is not.

### What is load-bearing

The roots are those of the targets and are an argument of the condition: the guess of the module
tree has to be right about them (`ReadsAlike.recognised`), and for the rest each declaration is
looked at by itself.  A file that is loaded in two roles is read in each of them, since the
directory of its modules depends on the role.
-/

namespace AspRust.Parser

open AspRust.Foundation

/-! ## Paths

The two sides compute paths differently: the compiler joins and the file system
resolves, the module tree joins and normalizes.  On absolute paths without links both
lead to the same place. -/

theorem leadsTo_concat_normal (path : Path) (name : String) :
    leadsTo (path ++ [.normal name]) = leadsTo path ++ [.normal name] := by
  rw [leadsTo, Path.climb_concat]
  simp [Climb.step, leadsTo]

theorem leadsTo_concat_parent (path : Path) :
    leadsTo (path ++ [.parent]) = (leadsTo path).dropLast := by
  rw [leadsTo, Path.climb_concat, leadsTo, ← List.map_dropLast]
  by_cases hnames : (Path.climb path).names = []
  · simp [Climb.step, hnames]
  · simp [Climb.step, hnames]

theorem normalizeRustPath_eq_leadsTo (path : Path) : normalizeRustPath path = leadsTo path := by
  induction path using List.reverseRecOn with
  | nil => rfl
  | append_singleton before component ih =>
      cases component with
      | normal name =>
          have hstep : normalizeRustPath (before ++ [.normal name]) =
              normalizeRustPath before ++ [.normal name] := by
            rw [normalizeRustPath, List.foldl_append]
            rfl
          rw [hstep, leadsTo_concat_normal, ih]
      | parent =>
          have hstep : normalizeRustPath (before ++ [.parent]) =
              (normalizeRustPath before).dropLast := by
            rw [normalizeRustPath, List.foldl_append]
            rfl
          rw [hstep, leadsTo_concat_parent, ih]

theorem leadsTo_map_normal (names : List String) :
    leadsTo (names.map .normal) = names.map .normal := by
  rw [leadsTo, Path.climb_map_normal]

/-- What a path of names goes on to. -/
theorem leadsTo_append_normal {path : Path} (h : leadsTo path = path) (names : List String) :
    leadsTo (path ++ names.map .normal) = path ++ names.map .normal := by
  obtain ⟨first, rfl⟩ : ∃ first : List String, path = first.map .normal := ⟨_, h.symm⟩
  rw [← List.map_append, leadsTo_map_normal]

theorem leadsTo_parentDir {path : Path} (h : leadsTo path = path) :
    leadsTo (parentDir path) = parentDir path := by
  have hparent : parentDir path = path.dropLast := by
    by_cases hempty : path = []
    · subst hempty
      rfl
    · rw [parentDir, Path.parent?, if_neg hempty]
      rfl
  obtain ⟨names, rfl⟩ : ∃ names : List String, path = names.map .normal := ⟨_, h.symm⟩
  rw [hparent, ← List.map_dropLast, leadsTo_map_normal]

/-! ## Roles

A file that was loaded has a role, which decides where its modules are; a name decides
that for the module tree.  A file with a directory of its own is called like it
(`CalledLikeDir`), which every way of loading preserves; that no other file is named
like one of these is asked for (`NamedForRole`). -/

namespace LoadedFile

variable {loaded : LoadedFile}

/-- A file with a directory of its own is called like it. -/
def CalledLikeDir (loaded : LoadedFile) : Prop :=
  ∀ name, loaded.relative = some name → ∃ (dir : Path) (ident : Ident),
    name = ident.name ∧ loaded.path = dir ++ [.normal (ident.name ++ ".rs")]

/-- The name of a file tells its role: `lib.rs`, `main.rs` and `mod.rs` own the directory
they are in, and no other file does. -/
def NamedForRole (loaded : LoadedFile) : Prop :=
  isSpecialRustEntrypointPath loaded.path = true ↔ loaded.relative = none

instance (loaded : LoadedFile) : Decidable loaded.NamedForRole :=
  inferInstanceAs (Decidable (_ ↔ _))

theorem calledLikeDir_of_relative_eq_none (h : loaded.relative = none) :
    loaded.CalledLikeDir := by
  intro name hname
  rw [h] at hname
  cases hname

/-- The modules of a file that is named for its role are looked up where the compiler
looks. -/
theorem childModuleBaseDir_eq (hcalled : loaded.CalledLikeDir) (h : loaded.NamedForRole) :
    childModuleBaseDir loaded.path = loaded.baseDir := by
  cases hrelative : loaded.relative with
  | none =>
      rw [childModuleBaseDir, h.mpr hrelative, baseDir, hrelative]
      simp
  | some name =>
      obtain ⟨dir, ident, rfl, hpath⟩ := hcalled name hrelative
      have hplain : isSpecialRustEntrypointPath loaded.path = false := by
        rw [← Bool.not_eq_true]
        intro hspecial
        rw [h.mp hspecial] at hrelative
        cases hrelative
      have hname : Path.fileName? loaded.path = some (ident.name ++ ".rs") := by
        rw [hpath, Path.fileName?_concat]
      have hmod : Path.fileName? loaded.path ≠ some "mod.rs" := by
        intro hmod
        rw [isSpecialRustEntrypointPath, hmod] at hplain
        simp at hplain
      have hstem : Path.fileStem? loaded.path = some ident.name := by
        rw [Path.fileStem?, hname, Option.map_some]
        exact congrArg some (Path.stemOf_append ident.nonempty ident.undotted (by decide))
      rw [childModuleBaseDir, hplain, hstem, baseDir, hrelative]
      simp [hmod]

end LoadedFile

namespace SourceTree

variable {tree : SourceTree}

theorem has_iff {path : Path} : tree.has path = true ↔ ∃ file ∈ tree.files, file.path = path := by
  simp [has]

theorem openFile_eq_some_iff {path : Path} {loaded : LoadedFile} :
    tree.openFile path = some loaded ↔
      tree.has (leadsTo path) = true ∧ loaded = ⟨leadsTo path, none⟩ := by
  unfold openFile
  split
  · next h => simp [h, eq_comm]
  · next h => simp [h]

theorem calledLikeDir_of_openFile {path : Path} {loaded : LoadedFile}
    (h : tree.openFile path = some loaded) : loaded.CalledLikeDir := by
  obtain ⟨-, rfl⟩ := openFile_eq_some_iff.mp h
  exact LoadedFile.calledLikeDir_of_relative_eq_none rfl

theorem calledLikeDir_of_defaultSubmodPath {ident : Ident} {relative : Option String}
    {dirPath : Path} {loaded : LoadedFile}
    (h : tree.defaultSubmodPath ident relative dirPath = some loaded) : loaded.CalledLikeDir := by
  unfold defaultSubmodPath at h
  dsimp only at h
  split at h
  · cases h
    rintro name ⟨⟩
    exact ⟨_, ident, rfl, leadsTo_concat_normal _ _⟩
  · cases h
    exact LoadedFile.calledLikeDir_of_relative_eq_none rfl
  · cases h

mutual

theorem calledLikeDir_of_mem_itemLoads {fileDir dirPath : Path} {dirOwnership : DirOwnership}
    {loaded : LoadedFile} : (item : Item) →
    loaded ∈ tree.itemLoads fileDir dirPath dirOwnership item → loaded.CalledLikeDir
  | .mod attrs ident, h => by
      rw [itemLoads] at h
      split at h
      · cases h
      · rw [Option.mem_toList] at h
        unfold modFilePath at h
        split at h
        · exact calledLikeDir_of_openFile h
        · exact calledLikeDir_of_defaultSubmodPath h
        · cases h
  | .inlineMod attrs ident content, h => by
      rw [itemLoads] at h
      split at h
      · cases h
      · exact calledLikeDir_of_mem_itemsLoad content h
  | .macroCall attrs path tokens, h => by
      rw [itemLoads] at h
      split at h
      · cases h
      · rw [Option.mem_toList] at h
        cases tokens with
        | other => cases h
        | literal value comma =>
            rw [includedFile] at h
            split at h
            · exact calledLikeDir_of_openFile h
            · cases h
  | .other attrs body, h => by
      rw [itemLoads] at h
      split at h
      · cases h
      · exact calledLikeDir_of_mem_itemsLoad body h

theorem calledLikeDir_of_mem_itemsLoad {fileDir dirPath : Path} {dirOwnership : DirOwnership}
    {loaded : LoadedFile} : (items : List Item) →
    loaded ∈ tree.itemsLoad fileDir dirPath dirOwnership items → loaded.CalledLikeDir
  | [], h => by
      rw [itemsLoad] at h
      cases h
  | item :: rest, h => by
      rw [itemsLoad, List.mem_append] at h
      rcases h with h | h
      · exact calledLikeDir_of_mem_itemLoads item h
      · exact calledLikeDir_of_mem_itemsLoad rest h

end

theorem mem_itemsLoad {fileDir dirPath : Path} {dirOwnership : DirOwnership} {items : List Item}
    {loaded : LoadedFile} :
    loaded ∈ tree.itemsLoad fileDir dirPath dirOwnership items ↔
      ∃ item ∈ items, loaded ∈ tree.itemLoads fileDir dirPath dirOwnership item := by
  induction items with
  | nil => simp [itemsLoad]
  | cons head rest ih => simp [itemsLoad, ih]

theorem mem_loads {loaded next : LoadedFile} :
    next ∈ tree.loads loaded ↔ ∃ file ∈ tree.files, file.path = loaded.path ∧
      ∃ item ∈ file.items, next ∈ tree.itemLoads (parentDir loaded.path) (parentDir loaded.path)
        (.owned loaded.relative) item := by
  simp only [loads, List.mem_flatMap, List.mem_filter, decide_eq_true_eq, mem_itemsLoad]
  constructor
  · rintro ⟨file, ⟨hfile, hpath⟩, item, hitem, hnext⟩
    exact ⟨file, hfile, hpath, item, hitem, hpath ▸ hnext⟩
  · rintro ⟨file, hfile, hpath, item, hitem, hnext⟩
    exact ⟨file, ⟨hfile, hpath⟩, item, hitem, hpath ▸ hnext⟩

/-- Every loaded file that has a directory of its own is called like it. -/
theorem Loaded.calledLikeDir {roots : List Path} {loaded : LoadedFile}
    (h : tree.Loaded roots loaded) : loaded.CalledLikeDir := by
  cases h with
  | root _ => exact LoadedFile.calledLikeDir_of_relative_eq_none rfl
  | load _ hload =>
      obtain ⟨file, -, -, item, -, hitem⟩ := mem_loads.mp hload
      exact calledLikeDir_of_mem_itemLoads item hitem

/-- A list of files that holds the roots and all they load holds all that is loaded. -/
theorem Loaded.mem_of_closed {roots : List Path} {files : List LoadedFile} {loaded : LoadedFile}
    (h : tree.Loaded roots loaded) (hroots : ∀ path ∈ roots, ⟨path, none⟩ ∈ files)
    (hclosed : ∀ first ∈ files, ∀ second ∈ tree.loads first, second ∈ files) :
    loaded ∈ files := by
  induction h with
  | root hroot => exact hroots _ hroot
  | load _ hnext ih => exact hclosed _ ih _ hnext

/-! ## Reading declarations alike

A declaration is read alike if one of a few conditions holds that say how it is written
and where files stand.  For such a declaration the two readings lead to the same source
files, whichever of the conditions it is. -/

section Agreement

variable (tree) (sourcePaths : List Path)

/-- The parsed files. -/
def modules : List ParsedRustModule := tree.files.map SourceFile.parsed

/-- The source files. -/
def sourceFiles : OrderedSet Path := sourceFilesOf sourcePaths tree.modules

/-- The two places for a module, in the directory where modules are looked up. -/
def forms (base : Path) (name : String) : List Path :=
  [base ++ [.normal (name ++ ".rs")], base ++ [.normal name, .normal "mod.rs"]]

/-- An item at the top level of a loaded file that is read as the compiler reads it.

A module with neither `cfg(test)` nor `#[path]` has a name that is not raw, its file is
named for its role, and only one of its forms exists, or no source file is in any of the
places where it is looked for.  An `include!` of a source file is not under `cfg(test)`,
names the macro of the standard library and has no comma.  Other items load no source
file. -/
def ReadAlike (loaded : LoadedFile) : Item → Prop
  | .mod attrs ident =>
      attrsHaveCfgTest attrs = true ∨ pathAttrValue attrs ≠ none ∨
        (ident.raw = false ∧ loaded.NamedForRole ∧
          ¬ ∀ form ∈ forms loaded.baseDir ident.name, tree.has form = true) ∨
        ∀ form ∈ forms (childModuleBaseDir loaded.path) ident.text ++
          forms loaded.baseDir ident.name, form ∉ (tree.sourceFiles sourcePaths).keys
  | .macroCall attrs path tokens =>
      ∀ value comma, tokens = .literal value comma → path.getLast? = some "include" →
        leadsTo (Path.join (parentDir loaded.path) value) ∈ (tree.sourceFiles sourcePaths).keys →
        attrsHaveCfgTest attrs = false ∧ isInclude path = true ∧ comma = false
  | .inlineMod attrs ident content =>
      ∀ next ∈ tree.itemLoads (parentDir loaded.path) (parentDir loaded.path)
        (.owned loaded.relative) (.inlineMod attrs ident content),
        next.path ∉ (tree.sourceFiles sourcePaths).keys
  | .other attrs body =>
      ∀ next ∈ tree.itemLoads (parentDir loaded.path) (parentDir loaded.path)
        (.owned loaded.relative) (.other attrs body),
        next.path ∉ (tree.sourceFiles sourcePaths).keys

variable (roots : List Path)

/-- The crates with some roots are read as the compiler reads them. -/
structure ReadsAlike : Prop where
  /-- The source files taken for roots are those that are roots. -/
  recognised : ∀ path ∈ (tree.sourceFiles sourcePaths).keys,
    isModuleTreeRoot sourcePaths path = true ↔ path ∈ roots
  /-- All declarations that the compiler comes across in a source file are read alike. -/
  sources : ∀ loaded, tree.Loaded roots loaded →
    loaded.path ∈ (tree.sourceFiles sourcePaths).keys →
    ∀ file ∈ tree.files, file.path = loaded.path → ∀ item ∈ file.items,
      tree.ReadAlike sourcePaths loaded item
  /-- No source file is loaded from a file that is none. -/
  others : ∀ loaded, tree.Loaded roots loaded →
    loaded.path ∉ (tree.sourceFiles sourcePaths).keys →
    ∀ next ∈ tree.loads loaded, next.path ∉ (tree.sourceFiles sourcePaths).keys

variable {tree sourcePaths roots}

theorem mem_sourceFiles {path : Path} :
    path ∈ (tree.sourceFiles sourcePaths).keys ↔
      (∃ file ∈ tree.files, file.path = path) ∧ isUnderAnyDir path sourcePaths = true := by
  simp only [sourceFiles, sourceFilesOf, OrderedSet.mem_ofList, List.mem_map, List.mem_filter,
    modules]
  constructor
  · rintro ⟨_, ⟨⟨file, hfile, rfl⟩, hunder⟩, rfl⟩
    exact ⟨⟨file, hfile, rfl⟩, hunder⟩
  · rintro ⟨⟨file, hfile, rfl⟩, hunder⟩
    exact ⟨file.parsed, ⟨⟨file, hfile, rfl⟩, hunder⟩, rfl⟩

theorem has_of_mem_sourceFiles {path : Path} (h : path ∈ (tree.sourceFiles sourcePaths).keys) :
    tree.has path = true :=
  has_iff.mpr (mem_sourceFiles.mp h).1

/-- The edges of a file are those of its items. -/
theorem mem_childPaths {file : SourceFile} (hfile : file ∈ tree.files) {path : Path} :
    path ∈ childPaths tree.modules (tree.sourceFiles sourcePaths) file.path ↔
      ∃ item ∈ file.items, ∃ edge ∈ itemEdges file.path (tree.sourceFiles sourcePaths) false
        (topLevelItemSyntax item file.path), edge.childPath = path := by
  have hget : (modulesByPath tree.modules).get? file.path = some file.parsed := by
    have hmem : file.parsed ∈ tree.modules := List.mem_map_of_mem hfile
    refine OrderedMap.get?_insertAll ParsedRustModule.path id hmem ?_ ∅
    intro other hother hpath
    obtain ⟨file', hfile', rfl⟩ := List.mem_map.mp hother
    rw [List.inj_on_of_nodup_map tree.distinct hfile' hfile hpath]
  rw [childPaths, hget]
  simp only [externalChildModuleEdges, externalChildModuleEdgesWithTestCfg, SourceFile.parsed,
    List.mem_map, List.mem_flatMap, exists_exists_and_eq_and]
  constructor
  · rintro ⟨edge, ⟨item, hitem, hedge⟩, hpath⟩
    exact ⟨item, hitem, edge, hedge, hpath⟩
  · rintro ⟨item, hitem, edge, hedge, hpath⟩
    exact ⟨edge, ⟨item, hitem, hedge⟩, hpath⟩

theorem mem_edgeTo {sourceFiles : OrderedSet Path} {kind : RustModuleChildEdgeKind}
    {target path : Path} :
    (∃ edge ∈ edgeTo sourceFiles kind target, edge.childPath = path) ↔
      path = target ∧ path ∈ sourceFiles.keys := by
  unfold edgeTo
  split
  · next hmem =>
      simp only [List.mem_singleton, exists_eq_left]
      constructor
      · rintro rfl
        exact ⟨rfl, hmem⟩
      · rintro ⟨rfl, -⟩
        rfl
  · next hmem =>
      constructor
      · rintro ⟨edge, hedge, -⟩
        cases hedge
      · rintro ⟨rfl, h⟩
        exact absurd h hmem

/-- The edges of an out-of-line module without `#[path]`. -/
theorem exists_plainEdge_iff {modulePath : Path} {sourceFiles : OrderedSet Path} {name : String}
    {path : Path} :
    (∃ edge ∈ moduleEdges modulePath sourceFiles false ⟨name, none, false, false⟩,
      edge.childPath = path) ↔
      path ∈ forms (childModuleBaseDir modulePath) name ∧ path ∈ sourceFiles.keys := by
  have hedges : moduleEdges modulePath sourceFiles false ⟨name, none, false, false⟩ =
      edgeTo sourceFiles .mod (childModuleBaseDir modulePath ++ [.normal (name ++ ".rs")]) ++
        edgeTo sourceFiles .mod
          (childModuleBaseDir modulePath ++ [.normal name, .normal "mod.rs"]) := rfl
  simp only [hedges, List.mem_append, or_and_right, exists_or, mem_edgeTo, forms, List.mem_cons,
    List.not_mem_nil, or_false]

/-- The file of `mod name;` is the form that exists, if one does and not both. -/
theorem exists_defaultSubmodPath_iff {ident : Ident} {relative : Option String} {dirPath : Path}
    (hdir : leadsTo dirPath = dirPath) {path : Path} :
    (∃ next, tree.defaultSubmodPath ident relative dirPath = some next ∧ next.path = path) ↔
      path ∈ forms (dirPath ++ relative.toList.map .normal) ident.name ∧ tree.has path = true ∧
        ¬ ∀ form ∈ forms (dirPath ++ relative.toList.map .normal) ident.name,
          tree.has form = true := by
  have hbase : leadsTo (dirPath ++ relative.toList.map .normal) =
      dirPath ++ relative.toList.map .normal := leadsTo_append_normal hdir _
  have hdefault := leadsTo_append_normal hbase [ident.name ++ ".rs"]
  have hsecondary := leadsTo_append_normal hbase [ident.name, "mod.rs"]
  simp only [List.map_cons, List.map_nil] at hdefault hsecondary
  unfold defaultSubmodPath
  simp only [hdefault, hsecondary, forms, List.mem_cons, List.not_mem_nil, or_false]
  generalize dirPath ++ relative.toList.map .normal = base
  -- four cases: which of the forms exist
  cases hfirst : tree.has (base ++ [.normal (ident.name ++ ".rs")]) with
  | true =>
      cases hsecond : tree.has (base ++ [.normal ident.name, .normal "mod.rs"]) with
      | true => simp [hfirst, hsecond]
      | false =>
          constructor
          · rintro ⟨_, ⟨⟩, rfl⟩
            exact ⟨Or.inl rfl, hfirst, by simp [hsecond]⟩
          · rintro ⟨rfl | rfl, hhas, -⟩
            · exact ⟨_, rfl, rfl⟩
            · rw [hsecond] at hhas
              cases hhas
  | false =>
      cases hsecond : tree.has (base ++ [.normal ident.name, .normal "mod.rs"]) with
      | true =>
          constructor
          · rintro ⟨_, ⟨⟩, rfl⟩
            exact ⟨Or.inr rfl, hsecond, by simp [hfirst]⟩
          · rintro ⟨rfl | rfl, hhas, -⟩
            · rw [hfirst] at hhas
              cases hhas
            · exact ⟨_, rfl, rfl⟩
      | false =>
          constructor
          · rintro ⟨_, ⟨⟩, -⟩
          · rintro ⟨rfl | rfl, hhas, -⟩
            · rw [hfirst] at hhas
              cases hhas
            · rw [hsecond] at hhas
              cases hhas

theorem exists_openFile_iff {target path : Path}
    (hpath : path ∈ (tree.sourceFiles sourcePaths).keys) :
    (∃ next, tree.openFile target = some next ∧ next.path = path) ↔ path = leadsTo target := by
  simp only [openFile_eq_some_iff]
  constructor
  · rintro ⟨_, ⟨-, rfl⟩, rfl⟩
    rfl
  · rintro rfl
    exact ⟨_, ⟨has_of_mem_sourceFiles hpath, rfl⟩, rfl⟩

section Item

variable {loaded : LoadedFile} {path : Path}

section OutOfLine

variable {attrs : List Attribute} {ident : Ident} {sourceFiles : OrderedSet Path}
  {modulePath : Path}

/-- A module under `cfg(test)` has no edge. -/
theorem moduleEdges_of_cfgTest (htest : attrsHaveCfgTest attrs = true) :
    moduleEdges modulePath sourceFiles false
      (moduleDeclarationFromItemMod attrs ident false modulePath) = [] := by
  simp [moduleEdges, moduleDeclarationFromItemMod, htest]

/-- A module with `#[path]` has the edge to that path. -/
theorem moduleEdges_of_pathAttr {value : String} (htest : attrsHaveCfgTest attrs = false)
    (hattr : pathAttrValue attrs = some value) :
    moduleEdges modulePath sourceFiles false
        (moduleDeclarationFromItemMod attrs ident false modulePath) =
      edgeTo sourceFiles .pathAttrMod (resolveRustPathAttr modulePath value) := by
  simp [moduleEdges, moduleDeclarationFromItemMod, htest, hattr]

/-- A module without `#[path]` has the edges of its name. -/
theorem moduleEdges_of_plain (htest : attrsHaveCfgTest attrs = false)
    (hattr : pathAttrValue attrs = none) :
    moduleEdges modulePath sourceFiles false
        (moduleDeclarationFromItemMod attrs ident false modulePath) =
      moduleEdges modulePath sourceFiles false ⟨ident.text, none, false, false⟩ := by
  simp [moduleDeclarationFromItemMod, htest, hattr]

theorem modFilePath_of_pathAttr {value : String} {dirPath : Path} {ownership : DirOwnership}
    (hattr : pathAttrValue attrs = some value) :
    tree.modFilePath attrs ident dirPath ownership =
      tree.openFile (Path.join dirPath value) := by
  simp [modFilePath, hattr]

theorem modFilePath_of_plain {dirPath : Path} {relative : Option String}
    (hattr : pathAttrValue attrs = none) :
    tree.modFilePath attrs ident dirPath (.owned relative) =
      tree.defaultSubmodPath ident relative dirPath := by
  simp [modFilePath, hattr]

end OutOfLine

/-- An out-of-line module without `#[path]` that is read alike. -/
theorem ReadAlike.exists_plainModEdge_iff {attrs : List Attribute} {ident : Ident}
    (h : tree.ReadAlike sourcePaths loaded (.mod attrs ident)) (hcalled : loaded.CalledLikeDir)
    (hnamed : leadsTo loaded.path = loaded.path)
    (hpath : path ∈ (tree.sourceFiles sourcePaths).keys)
    (htest : attrsHaveCfgTest attrs = false) (hattr : pathAttrValue attrs = none) :
    (∃ edge ∈ moduleEdges loaded.path (tree.sourceFiles sourcePaths) false
        ⟨ident.text, none, false, false⟩, edge.childPath = path) ↔
      ∃ next, tree.defaultSubmodPath ident loaded.relative (parentDir loaded.path) = some next ∧
        next.path = path := by
  rw [exists_plainEdge_iff, exists_defaultSubmodPath_iff (leadsTo_parentDir hnamed)]
  change _ ↔ path ∈ forms loaded.baseDir ident.name ∧ tree.has path = true ∧
    ¬ ∀ form ∈ forms loaded.baseDir ident.name, tree.has form = true
  rcases h with htest' | hattr' | ⟨hraw, hrole, hone⟩ | hnone
  · rw [htest] at htest'
    cases htest'
  · exact absurd hattr hattr'
  · have htext : ident.text = ident.name := by simp [Ident.text, hraw]
    rw [htext, LoadedFile.childModuleBaseDir_eq hcalled hrole]
    exact and_congr_right fun _ =>
      iff_of_true hpath ⟨has_of_mem_sourceFiles hpath, hone⟩
  · -- no source file is in any of the places
    constructor
    · rintro ⟨hform, -⟩
      exact absurd hpath (hnone path (List.mem_append_left _ hform))
    · rintro ⟨hform, -, -⟩
      exact absurd hpath (hnone path (List.mem_append_right _ hform))

/-- An out-of-line module that is read alike. -/
theorem ReadAlike.exists_modEdge_iff {attrs : List Attribute} {ident : Ident}
    (h : tree.ReadAlike sourcePaths loaded (.mod attrs ident)) (hcalled : loaded.CalledLikeDir)
    (hnamed : leadsTo loaded.path = loaded.path)
    (hpath : path ∈ (tree.sourceFiles sourcePaths).keys) :
    (∃ edge ∈ moduleEdges loaded.path (tree.sourceFiles sourcePaths) false
        (moduleDeclarationFromItemMod attrs ident false loaded.path), edge.childPath = path) ↔
      ∃ next ∈ tree.itemLoads (parentDir loaded.path) (parentDir loaded.path)
        (.owned loaded.relative) (.mod attrs ident), next.path = path := by
  rw [itemLoads]
  cases htest : attrsHaveCfgTest attrs with
  | true =>
      rw [moduleEdges_of_cfgTest htest]
      simp
  | false =>
      simp only [Bool.false_eq_true, if_false, Option.mem_toList]
      cases hattr : pathAttrValue attrs with
      | some value =>
          rw [moduleEdges_of_pathAttr htest hattr, modFilePath_of_pathAttr hattr, mem_edgeTo,
            exists_openFile_iff hpath, resolveRustPathAttr, normalizeRustPath_eq_leadsTo]
          exact and_iff_left hpath
      | none =>
          rw [moduleEdges_of_plain htest hattr, modFilePath_of_plain hattr]
          exact h.exists_plainModEdge_iff hcalled hnamed hpath htest hattr

theorem getLast?_of_isInclude {segments : List String} (h : isInclude segments = true) :
    segments.getLast? = some "include" := by
  rw [isInclude, decide_eq_true_eq] at h
  simp only [List.mem_cons, List.not_mem_nil, or_false] at h
  rcases h with rfl | rfl | rfl <;> rfl

/-- A macro call that is read alike. -/
theorem ReadAlike.exists_includeEdge_iff {attrs : List Attribute} {segments : List String}
    {tokens : MacroTokens} (h : tree.ReadAlike sourcePaths loaded (.macroCall attrs segments tokens))
    (hpath : path ∈ (tree.sourceFiles sourcePaths).keys) :
    (∃ target, includeLiteralTarget segments tokens = some target ∧
        path = resolveRustIncludeLiteral loaded.path target) ↔
      ∃ next ∈ tree.itemLoads (parentDir loaded.path) (parentDir loaded.path)
        (.owned loaded.relative) (.macroCall attrs segments tokens), next.path = path := by
  rw [itemLoads]
  cases tokens with
  | other => simp [includeLiteralTarget, includedFile]
  | literal value comma =>
      constructor
      · rintro ⟨target, htarget, rfl⟩
        obtain ⟨hlast, rfl, rfl⟩ :
            segments.getLast? = some "include" ∧ comma = false ∧ value = target := by
          cases comma <;> simp_all [includeLiteralTarget]
        rw [resolveRustIncludeLiteral, normalizeRustPath_eq_leadsTo] at hpath ⊢
        obtain ⟨htest, hinclude, -⟩ := h value false rfl hlast hpath
        rw [htest, includedFile, if_pos hinclude]
        simpa using (exists_openFile_iff hpath).mpr rfl
      · rintro ⟨next, hnext, rfl⟩
        split at hnext
        · cases hnext
        · rw [Option.mem_toList, includedFile] at hnext
          split at hnext
          · next hinclude =>
              have hleads := (exists_openFile_iff hpath).mp ⟨next, hnext, rfl⟩
              have hlast := getLast?_of_isInclude hinclude
              obtain ⟨-, -, rfl⟩ := h value comma rfl hlast (hleads ▸ hpath)
              refine ⟨value, by simp [includeLiteralTarget, hlast], ?_⟩
              rw [hleads, resolveRustIncludeLiteral, normalizeRustPath_eq_leadsTo]
          · cases hnext

/-- **A declaration that is read alike** leads to the same source files. -/
theorem ReadAlike.exists_edge_iff {item : Item} (h : tree.ReadAlike sourcePaths loaded item)
    (hcalled : loaded.CalledLikeDir) (hnamed : leadsTo loaded.path = loaded.path)
    (hpath : path ∈ (tree.sourceFiles sourcePaths).keys) :
    (∃ edge ∈ itemEdges loaded.path (tree.sourceFiles sourcePaths) false
        (topLevelItemSyntax item loaded.path), edge.childPath = path) ↔
      ∃ next ∈ tree.itemLoads (parentDir loaded.path) (parentDir loaded.path)
        (.owned loaded.relative) item, next.path = path := by
  -- inline modules and bodies have no edges
  have hnone : ∀ {edges : List RustModuleChildEdge} {loads : List LoadedFile}, edges = [] →
      (∀ next ∈ loads, next.path ∉ (tree.sourceFiles sourcePaths).keys) →
      ((∃ edge ∈ edges, edge.childPath = path) ↔ ∃ next ∈ loads, next.path = path) := by
    rintro edges loads rfl hloads
    constructor
    · rintro ⟨edge, hedge, -⟩
      cases hedge
    · rintro ⟨next, hnext, rfl⟩
      exact absurd hpath (hloads next hnext)
  cases item with
  | inlineMod attrs ident content => exact hnone rfl h
  | other attrs body => exact hnone rfl h
  | mod attrs ident => exact h.exists_modEdge_iff hcalled hnamed hpath
  | macroCall attrs segments tokens =>
      rw [← h.exists_includeEdge_iff hpath]
      have hedges : itemEdges loaded.path (tree.sourceFiles sourcePaths) false
          (topLevelItemSyntax (.macroCall attrs segments tokens) loaded.path) =
          (includeLiteralTarget segments tokens).toList.flatMap fun target =>
            edgeTo (tree.sourceFiles sourcePaths) .includeLiteral
              (resolveRustIncludeLiteral loaded.path target) := by
        have htarget : includeTargetSyntax (.macroCall attrs segments tokens) =
            includeLiteralTarget segments tokens := rfl
        have hmodule : moduleDeclarationSyntax (.macroCall attrs segments tokens) loaded.path =
            none := rfl
        rw [itemEdges, topLevelItemSyntax, htarget, hmodule]
        cases includeLiteralTarget segments tokens <;> simp
      rw [hedges]
      simp only [List.mem_flatMap, Option.mem_toList]
      constructor
      · rintro ⟨edge, ⟨target, htarget, hedge⟩, hchild⟩
        exact ⟨target, htarget, (mem_edgeTo.mp ⟨edge, hedge, hchild⟩).1⟩
      · rintro ⟨target, htarget, htargetPath⟩
        obtain ⟨edge, hedge, hchild⟩ := mem_edgeTo.mpr ⟨htargetPath, hpath⟩
        exact ⟨edge, ⟨target, htarget, hedge⟩, hchild⟩

end Item

/-! ## Reachable files

From the same roots, the files that the compiler loads and those that the worklist of
the module tree comes to are shown to be the same by two inductions, one along each
chain. -/

theorem mem_rootFiles {path : Path} :
    path ∈ (rootFiles sourcePaths (tree.sourceFiles sourcePaths)).keys ↔
      path ∈ (tree.sourceFiles sourcePaths).keys ∧ isModuleTreeRoot sourcePaths path = true := by
  rw [rootFiles, OrderedSet.mem_ofList, List.mem_filter]

theorem mem_sourceFiles_of_mem_childPaths {first second : Path}
    (h : second ∈ childPaths tree.modules (tree.sourceFiles sourcePaths) first) :
    second ∈ (tree.sourceFiles sourcePaths).keys := by
  have hedge : ∀ {kind target}, ∀ edge ∈ edgeTo (tree.sourceFiles sourcePaths) kind target,
      edge.childPath ∈ (tree.sourceFiles sourcePaths).keys :=
    fun edge hedge => (mem_edgeTo.mp ⟨edge, hedge, rfl⟩).2
  unfold childPaths at h
  split at h
  · obtain ⟨edge, hmem, rfl⟩ := List.mem_map.mp h
    obtain ⟨item, -, hitem⟩ := List.mem_flatMap.mp hmem
    rcases List.mem_append.mp hitem with hinclude | hmodule
    · split at hinclude
      · exact hedge edge hinclude
      · cases hinclude
    · split at hmodule
      · unfold moduleEdges at hmodule
        split at hmodule
        · cases hmodule
        · split at hmodule
          · exact hedge edge hmodule
          · rcases List.mem_append.mp hmodule with hform | hform
            · exact hedge edge hform
            · exact hedge edge hform
      · cases hmodule
  · cases h

/-- The search finds what is reached from the roots along the edges. -/
theorem mem_reachableSourceFiles {path : Path} :
    path ∈ (reachableSourceFiles sourcePaths tree.modules (tree.sourceFiles sourcePaths)).keys ↔
      Worklist.Reachable (childPaths tree.modules (tree.sourceFiles sourcePaths))
        (rootFiles sourcePaths (tree.sourceFiles sourcePaths)) path := by
  have hdomain : ∀ first ∈ (tree.sourceFiles sourcePaths).keys,
      ∀ second ∈ childPaths tree.modules (tree.sourceFiles sourcePaths) first,
        second ∈ (tree.sourceFiles sourcePaths).keys :=
    fun first _ second hsecond => mem_sourceFiles_of_mem_childPaths hsecond
  refine DepthFirst.mem_visit_iff hdomain ?_ (DepthFirst.invariant_start _) ?_
  · intro root hroot
    exact (mem_rootFiles.mp (List.mem_reverse.mp hroot)).1
  · simp [AdmissionWorklist.openOffers]

/-- One step: the edges of a loaded source file lead where the compiler goes on. -/
theorem ReadsAlike.mem_childPaths_iff (h : tree.ReadsAlike sourcePaths roots)
    {loaded : LoadedFile} (hloaded : tree.Loaded roots loaded)
    (hsource : loaded.path ∈ (tree.sourceFiles sourcePaths).keys) {path : Path}
    (hpath : path ∈ (tree.sourceFiles sourcePaths).keys) :
    path ∈ childPaths tree.modules (tree.sourceFiles sourcePaths) loaded.path ↔
      ∃ next ∈ tree.loads loaded, next.path = path := by
  obtain ⟨file, hfile, hplace⟩ := (mem_sourceFiles.mp hsource).1
  have halike : ∀ item ∈ file.items, (∃ edge ∈ itemEdges loaded.path
      (tree.sourceFiles sourcePaths) false (topLevelItemSyntax item loaded.path),
        edge.childPath = path) ↔
      ∃ next ∈ tree.itemLoads (parentDir loaded.path) (parentDir loaded.path)
        (.owned loaded.relative) item, next.path = path := by
    intro item hitem
    exact (h.sources loaded hloaded hsource file hfile hplace item hitem).exists_edge_iff
      hloaded.calledLikeDir (hplace ▸ tree.named file hfile) hpath
  rw [← hplace, mem_childPaths hfile, hplace]
  constructor
  · rintro ⟨item, hitem, hedge⟩
    obtain ⟨next, hnext, hnextPath⟩ := (halike item hitem).mp hedge
    exact ⟨next, mem_loads.mpr ⟨file, hfile, hplace, item, hitem, hnext⟩, hnextPath⟩
  · rintro ⟨next, hnext, hnextPath⟩
    obtain ⟨file', hfile', hplace', item, hitem, hload⟩ := mem_loads.mp hnext
    obtain rfl : file' = file :=
      List.inj_on_of_nodup_map tree.distinct hfile' hfile (hplace'.trans hplace.symm)
    exact ⟨item, hitem, (halike item hitem).mpr ⟨next, hload, hnextPath⟩⟩

/-- The whole search: it marks the source files that the compiler loads. -/
theorem ReadsAlike.mem_reachableSourceFiles_iff (h : tree.ReadsAlike sourcePaths roots)
    {path : Path} (hpath : path ∈ (tree.sourceFiles sourcePaths).keys) :
    path ∈ (reachableSourceFiles sourcePaths tree.modules (tree.sourceFiles sourcePaths)).keys ↔
      tree.Reaches roots path := by
  rw [mem_reachableSourceFiles]
  constructor
  · rintro ⟨root, hroot, hchain⟩
    clear hpath
    -- every file on the way is a source file that is loaded in some role
    have hway : path ∈ (tree.sourceFiles sourcePaths).keys ∧
        tree.Reaches roots path := by
      induction hchain with
      | refl =>
          obtain ⟨hsource, hrecognised⟩ := mem_rootFiles.mp hroot
          exact ⟨hsource, ⟨_, .root ((h.recognised _ hsource).mp hrecognised), rfl⟩⟩
      | tail _ hstep ih =>
          obtain ⟨hsource, loaded, hloaded, rfl⟩ := ih
          have hnextSource := mem_sourceFiles_of_mem_childPaths hstep
          obtain ⟨next, hnext, rfl⟩ := (h.mem_childPaths_iff hloaded hsource hnextSource).mp hstep
          exact ⟨hnextSource, ⟨next, .load hloaded hnext, rfl⟩⟩
    exact hway.2
  · rintro ⟨loaded, hloaded, rfl⟩
    induction hloaded with
    | root hroot => exact ⟨_, mem_rootFiles.mpr ⟨hpath, (h.recognised _ hpath).mpr hroot⟩, .refl⟩
    | @load first second hfirst hnext ih =>
        by_cases hsource : first.path ∈ (tree.sourceFiles sourcePaths).keys
        · obtain ⟨root, hroot, hchain⟩ := ih hsource
          exact ⟨root, hroot, hchain.tail
            ((h.mem_childPaths_iff hfirst hsource hpath).mpr ⟨_, hnext, rfl⟩)⟩
        · exact absurd hpath (h.others _ hfirst hsource _ hnext)

end Agreement

/-- A path below the source directory of a package. -/
def inSources (names : List String) : Path := ("p" :: "src" :: names).map .normal

/-- A library with a nested module, and a file that nothing declares. -/
def libraryTree : SourceTree where
  files :=
    [⟨inSources ["lib.rs"], [.mod [] { name := "api" }]⟩,
      ⟨inSources ["api.rs"], [.mod [] { name := "routes" }]⟩,
      ⟨inSources ["api", "routes.rs"], []⟩,
      ⟨inSources ["draft.rs"], []⟩]
  named := by decide
  distinct := by decide

/-- What the compiler loads of the library. -/
def libraryFiles : List LoadedFile :=
  [⟨inSources ["lib.rs"], none⟩, ⟨inSources ["api.rs"], some "api"⟩,
    ⟨inSources ["api", "routes.rs"], some "routes"⟩]

theorem mem_libraryFiles {loaded : LoadedFile}
    (h : libraryTree.Loaded [inSources ["lib.rs"]] loaded) :
    loaded ∈ libraryFiles :=
  h.mem_of_closed (by decide +kernel) (by decide +kernel)

theorem libraryTree_readsAlike :
    libraryTree.ReadsAlike [inSources []] [inSources ["lib.rs"]] where
  recognised := by decide +kernel
  sources loaded hloaded _ file hfile hplace item hitem := by
    have halike : ∀ loaded ∈ libraryFiles, ∀ file ∈ libraryTree.files, file.path = loaded.path →
        ∀ item ∈ file.items, ∃ ident : Ident, ident.raw = false ∧ loaded.NamedForRole ∧
          (¬ ∀ form ∈ forms loaded.baseDir ident.name, libraryTree.has form = true) ∧
          item = .mod [] ident := by
      intro loaded hloaded file hfile hplace item hitem
      simp only [libraryFiles, List.mem_cons, List.not_mem_nil, or_false] at hloaded
      simp only [libraryTree, List.mem_cons, List.not_mem_nil, or_false] at hfile
      rcases hfile with rfl | rfl | rfl | rfl
      · obtain rfl := List.mem_singleton.mp hitem
        rcases hloaded with rfl | rfl | rfl
        · exact ⟨{ name := "api" }, rfl, by decide, by decide +kernel, rfl⟩
        · exact absurd hplace (by decide)
        · exact absurd hplace (by decide)
      · obtain rfl := List.mem_singleton.mp hitem
        rcases hloaded with rfl | rfl | rfl
        · exact absurd hplace (by decide)
        · exact ⟨{ name := "routes" }, rfl, by decide, by decide +kernel, rfl⟩
        · exact absurd hplace (by decide)
      · cases hitem
      · cases hitem
    obtain ⟨ident, hraw, hrole, hone, rfl⟩ :=
      halike loaded (mem_libraryFiles hloaded) file hfile hplace item hitem
    exact Or.inr (Or.inr (Or.inl ⟨hraw, hrole, hone⟩))
  others loaded hloaded hother := by
    have hsources : ∀ loaded ∈ libraryFiles,
        loaded.path ∈ (libraryTree.sourceFiles [inSources []]).keys := by decide +kernel
    exact absurd (hsources loaded (mem_libraryFiles hloaded)) hother

/-- A binary whose module is in the directory of its root, with a file in the directory
that is called like the root. -/
def binaryTree : SourceTree where
  files :=
    [⟨inSources ["bin", "tool.rs"], [.mod [] { name := "helper" }]⟩,
      ⟨inSources ["bin", "helper", "mod.rs"], []⟩,
      ⟨inSources ["bin", "tool", "helper.rs"], []⟩]
  named := by decide
  distinct := by decide

/-- What the compiler loads of the binary. -/
def binaryFiles : List LoadedFile :=
  [⟨inSources ["bin", "tool.rs"], none⟩, ⟨inSources ["bin", "helper", "mod.rs"], none⟩]

/-- A library with a module called `r#async`. -/
def rawTree : SourceTree where
  files :=
    [⟨inSources ["lib.rs"], [.mod [] { name := "async", raw := true }]⟩,
      ⟨inSources ["async.rs"], []⟩]
  named := by decide
  distinct := by decide

/-- A library that declares a module inside an inline one. -/
def inlineTree : SourceTree where
  files :=
    [⟨inSources ["lib.rs"], [.inlineMod [] { name := "outer" } [.mod [] { name := "inner" }]]⟩,
      ⟨inSources ["outer", "inner.rs"], []⟩]
  named := by decide
  distinct := by decide

/-- A library whose manifest says that its root is `src/core.rs`. -/
def customRootTree : SourceTree where
  files :=
    [⟨inSources ["core.rs"], [.mod [] { name := "api" }]⟩,
      ⟨inSources ["api.rs"], []⟩]
  named := by decide
  distinct := by decide

end SourceTree

end AspRust.Parser
