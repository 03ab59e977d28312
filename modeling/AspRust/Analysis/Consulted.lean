import AspRust.Analysis.Runner

/-!
# What a package run consults

The rules ask the file system one by one, and which questions come up depends on
the answers before.  Here is, for each kind of question, which paths it can be
about: directories of the scope, declared and custom scope paths, mounts of test
modules, manifests of nested crates, the entries of the tests directory, the
texts of sources, test targets and benchmarks, and the manifest of the package.
All of these are named by the configuration, the manifest and the parsed files.

`Consulted` puts them together.  It says nothing about the program that asks;
that the program asks for nothing else is `packageReport_asksOnly`, and it is
proved rule by rule.  So two states of the file system that agree on what is
consulted in one of them give one report (`packageReport_eq_of_consulted`), and
a verdict in one is the verdict in the other (`packageVerdict_of_consulted`).

What depends on the file system is read in the state that is asked: the modules
whose mounts are looked up are those parsed there.  There is no circle in that,
since the modules are determined by questions that come earlier.

### Layout

* What can be asked about: lists of paths for each kind of question, computed from the
  configuration, the manifest and the parsed files.
* Rule by rule: each program asks nothing outside of these lists.
* The packs, the report and the verdict, put together from the rules.

### What is load-bearing

A bound on the questions must be closed under the answers.  The mounts of test modules are
looked up in files that were read because a manifest names their target, and a target of a
suite leads to the manifest of its crate.  Each of these lists is defined in the state that
is asked, and the lemmas with `_run` say that what a program computes on the way is what the
definition says.

That a bound holds does not mean that every listed path is asked for: a rule that is
switched off asks nothing.  So agreement on all that is consulted is more than a report
needs, and it is what `DevGate.Soundness` compares with the snapshot.
-/

namespace AspRust.Analysis

open AspRust.Foundation AspRust.Discovery AspRust.Verification

/-! ## The files of a package, parsed

Discovery and parsing are written here as functions of the state, since the paths below
depend on what was parsed. -/

/-- The facts of the file at a path. -/
def parsedFile (nativeSyntax : SyntaxReader) (fs : FileSystem) (path : Path) :
    ParsedRustModule :=
  match readToString fs path with
  | .ok source => parseRustSource nativeSyntax path source
  | .error error =>
      ⟨⟨path, false, some ("failed to read Rust source: " ++ error)⟩, "", {}⟩

section Facts

variable (fromPath : ManifestReader) (nativeSyntax : SyntaxReader) (fs : FileSystem)
  (root : Path) (config : AspRustConfig)

/-- The Rust files that discovery finds in a package. -/
def packageSourceFiles : List Path :=
  discoverRustPackageFiles (packageWalkFilter fromPath fs root config) fs
    (aspRustScope fromPath fs root config).monitoredPaths

def packageModules : List ParsedRustModule :=
  (packageSourceFiles fromPath fs root config).map (parsedFile nativeSyntax fs)

/-! ## Tests

The targets of tests are files of the tests directory and files that the manifest
names.  A target mounts modules, so their paths are read off its text, and a suite is
told by the manifest above it. -/

def testsDir : Path := Path.join root "tests"

/-- The paths of the entries of the tests directory. -/
def testsEntries : List Path :=
  (((fs.readDir (testsDir root)).map fun entries => entries.map Prod.fst).getD []).map
    fun name => testsDir root ++ [.normal name]

/-- The files of the test targets: Rust files in the tests directory, and those of the
manifest. -/
def testTargetFiles : List Path :=
  (OrderedSet.ofList ((testsEntries fs root).filter (fun path =>
      fs.isFile path && isRustFile path) ++
    (parseCargoManifest fromPath fs root).testTargetFiles)).keys

def testTargets : List ParsedRustModule :=
  (testTargetFiles fromPath fs root).map (parsedFile nativeSyntax fs)

/-- The path lies in a suite of its crate or of the project. -/
def inTestSuite (path : Path) : Bool :=
  (isAllowedTestSuitePath root path).run (answers fromPath fs)

/-- The places where a module of a test target may be. -/
def mountCandidates (target : ParsedRustModule) (itemMod : RustModuleDeclarationSyntax) :
    List Path :=
  match itemMod.pathAttr, itemMod.resolvedPathAttr with
  | some pathValue, some resolved =>
      resolved :: (target.report.path.parent?.map fun parent => Path.join parent pathValue).toList
  | _, _ => []

/-- The modules that a test target mounts. -/
def targetMounts (target : ParsedRustModule) : List RustModuleDeclarationSyntax :=
  (target.syntaxFacts.topLevelItems.filterMap fun item => item.module).filter
    fun module => !module.isInline

/-- Where the modules of the test targets outside of the suites may be. -/
def targetMountPaths : List Path :=
  ((testTargets fromPath nativeSyntax fs root).filter fun target =>
    !inTestSuite fromPath fs root target.report.path).flatMap fun target =>
      (targetMounts target).flatMap (mountCandidates target)

/-- The manifests that tell which crate a test path is in. -/
def crateManifests (candidate : Path) : List Path :=
  match Path.stripPrefix? root candidate with
  | some relative =>
      ((properAncestors relative).filter (· ≠ [])).map fun ancestor =>
        Path.join (root ++ ancestor) "Cargo.toml"
  | none =>
      (properAncestors candidate).map fun ancestor => Path.join ([] ++ ancestor) "Cargo.toml"

/-- The manifests above the test targets and above what they mount. -/
def testCrateManifests : List Path :=
  (testTargetFiles fromPath fs root ++
    (targetMountPaths fromPath nativeSyntax fs root).filter fs.pathExists).flatMap
      (crateManifests root)

/-! ## Paths that may be there

Paths whose existence is asked for.  They are the candidates of the scope, the paths
that the configuration and the manifest declare, and the mounts of the sources and of
the test targets. -/

/-- What a scope is made of, where it exists. -/
def scopeCandidates (manifest : CargoManifestFacts) : List Path :=
  (config.sourceDirNames.map (Path.join root) ++ [Path.join root "src"] ++
    manifest.sourceTargetFiles.filterMap Path.parent?) ++
  (if config.includeTests then
    config.testDirNames.map (Path.join root) ++ [Path.join root "tests"] ++
      manifest.testTargetFiles.filterMap Path.parent?
  else []) ++
  (["build.rs", "examples", "benches"].map (Path.join root) ++
    manifest.exampleTargets.map CargoExampleTargetFacts.path ++
    manifest.benchTargets.map CargoBenchTargetFacts.path)

/-- The configured scope paths that are not explained. -/
def customScopePaths : List Path :=
  (config.sourceDirNames.filter
    (customPathLacksExplanation "src" config.sourcePathExplanations) ++
    config.testDirNames.filter
      (customPathLacksExplanation "tests" config.testPathExplanations)).map fun path =>
    Path.join root (normalizeScopePath path)

/-- The scopes that a package has by default. -/
def declaredScopePaths (manifest : CargoManifestFacts) : List Path :=
  [Path.join root "src", Path.join root "tests"] ++ manifest.testTargetFiles

/-- Where the sources mount their test modules. -/
def sourceMountPaths : List Path :=
  ((packageModules fromPath nativeSyntax fs root config).filter fun module =>
    isUnderAnyDir module.report.path (aspRustScope fromPath fs root config).sourcePaths).flatMap
      fun module => module.syntaxFacts.cfgTestModules.filterMap fun itemMod =>
        if itemMod.isInline then none
        else itemMod.pathAttr.bind fun _ => itemMod.resolvedPathAttr

/-- The paths that the run asks for. -/
def consultedPaths : List Path :=
  scopeCandidates root config (parseCargoManifest fromPath fs root) ++
    customScopePaths root config ++
    declaredScopePaths root (parseCargoManifest fromPath fs root) ++
    sourceMountPaths fromPath nativeSyntax fs root config ++
    targetMountPaths fromPath nativeSyntax fs root

/-! ## Texts

Files whose text is read, and paths whose place is asked for, links followed. -/

/-- The benchmarks that are read, if one of the Rust-native adapters is configured. -/
def benchmarkFiles : List Path :=
  if activeRustNativePerformanceAdapters config = [] then []
  else
    ((parseCargoManifest fromPath fs root).benchTargets.filter fun target =>
      !target.harness && fs.pathExists target.path).map CargoBenchTargetFacts.path

/-- The files that are read. -/
def consultedTexts : List Path :=
  packageSourceFiles fromPath fs root config ++ testTargetFiles fromPath fs root ++
    benchmarkFiles fromPath fs root config

/-- The paths that are compared by where they lead. -/
def consultedPlaces : List Path :=
  Path.join root "build.rs" :: packageSourceFiles fromPath fs root config

/-! ## All together -/

/-- The questions that the report of a package can depend on. -/
def Consulted : ∀ β, FileQuery β → Prop
  | _, .pathExists path => path ∈ consultedPaths fromPath nativeSyntax fs root config
  | _, .isFile path =>
      path ∈ testsEntries fs root ∨ path ∈ testCrateManifests fromPath nativeSyntax fs root
  | _, .isDir path => path ∈ testsEntries fs root
  | _, .entryNames path => path = testsDir root
  | _, .readToString path => path ∈ consultedTexts fromPath fs root config
  | _, .canonicalize path => path ∈ consultedPlaces fromPath fs root config
  | _, .cargoManifest projectRoot => projectRoot = root
  | _, .requiredCargoManifest _ => False
  | _, .cargoDependencies projectRoot =>
      projectRoot = root ∧ activeRustNativePerformanceAdapters config ≠ []
  | _, .exclusionRoots packageRoot ignored hidden =>
      packageRoot = root ∧ ignored = config.ignoredDirNames ∧
        hidden = config.includeHiddenDirNames
  | _, .rustFiles filter paths =>
      filter = packageWalkFilter fromPath fs root config ∧
        paths = (aspRustScope fromPath fs root config).monitoredPaths

end Facts

/-! ## Lists of questions

Asking a question about each member of a list asks nothing but these questions, also
where the search stops at the first answer. -/

section Lists

variable {α : Type} {world : Answers FileQuery} {allowed : ∀ β, FileQuery β → Prop}
  {test : α → FileProgram Bool} {list : List α}

theorem filterAsk_asksOnly
    (h : ∀ element ∈ list, Program.AsksOnly world allowed (test element)) :
    Program.AsksOnly world allowed (filterAsk test list) := by
  induction list with
  | nil => exact Program.asksOnly_pure []
  | cons head rest ih =>
      rw [filterAsk, Program.asksOnly_bind, Program.asksOnly_bind]
      exact ⟨h head List.mem_cons_self,
        ih fun element helement => h element (List.mem_cons_of_mem _ helement),
        Program.asksOnly_pure _⟩

theorem findAsk?_asksOnly
    (h : ∀ element ∈ list, Program.AsksOnly world allowed (test element)) :
    Program.AsksOnly world allowed (findAsk? test list) := by
  induction list with
  | nil => exact Program.asksOnly_pure none
  | cons head rest ih =>
      rw [findAsk?, Program.asksOnly_bind, Program.asksOnly_ite]
      exact ⟨h head List.mem_cons_self, fun _ => Program.asksOnly_pure _,
        fun _ => ih fun element helement => h element (List.mem_cons_of_mem _ helement)⟩

theorem anyAsk_asksOnly
    (h : ∀ element ∈ list, Program.AsksOnly world allowed (test element)) :
    Program.AsksOnly world allowed (anyAsk test list) := by
  rw [anyAsk, Program.asksOnly_bind]
  exact ⟨findAsk?_asksOnly h, Program.asksOnly_pure _⟩

end Lists

/-! ## Rule by rule

One lemma for each program of the project policy.  Where a program asks about paths that
it computes from answers, the lemma before it says what was computed (`_run`). -/

section Rules

variable {fromPath : ManifestReader} {nativeSyntax : SyntaxReader} {fs : FileSystem}
  {root : Path} {config : AspRustConfig}

theorem parseRustFile_run (path : Path) :
    (parseRustFile nativeSyntax path).run (answers fromPath fs) =
      parsedFile nativeSyntax fs path := by
  rw [parseRustFile, Program.run_bind, parsedFile]
  show Program.run _ (match readToString fs path with | .ok source => _ | .error error => _) = _
  cases readToString fs path <;> rfl

theorem parseRustFile_asksOnly {path : Path}
    (hpath : path ∈ consultedTexts fromPath fs root config) :
    Program.AsksOnly (answers fromPath fs) (Consulted fromPath nativeSyntax fs root config)
      (parseRustFile nativeSyntax path) := by
  rw [parseRustFile, Program.asksOnly_bind, Program.asksOnly_question]
  refine ⟨hpath, ?_⟩
  cases (ask (.readToString path)).run (answers fromPath fs) with
  | ok source => exact Program.asksOnly_pure _
  | error error => exact Program.asksOnly_pure _

theorem testEntryFinding_asksOnly {name : String}
    (hname : testsDir root ++ [.normal name] ∈ testsEntries fs root) :
    Program.AsksOnly (answers fromPath fs) (Consulted fromPath nativeSyntax fs root config)
      (testEntryFinding (testsDir root) name) := by
  rw [testEntryFinding, Program.asksOnly_bind, Program.asksOnly_question, Program.asksOnly_ite]
  exact ⟨hname, by simp, by simp⟩

theorem testLayoutFindings_asksOnly :
    Program.AsksOnly (answers fromPath fs) (Consulted fromPath nativeSyntax fs root config)
      (testLayoutFindings root) := by
  rw [testLayoutFindings, Program.asksOnly_bind, Program.asksOnly_question]
  refine ⟨rfl, ?_⟩
  have hanswer : answers fromPath fs _ (FileQuery.entryNames (Path.join root "tests")) =
      (fs.readDir (testsDir root)).map fun entries => entries.map Prod.fst := rfl
  rw [Program.run_question, hanswer]
  cases hentries : (fs.readDir (testsDir root)).map fun entries => entries.map Prod.fst with
  | none => exact Program.asksOnly_pure []
  | some names =>
      dsimp only
      rw [Program.asksOnly_bind]
      refine ⟨Program.asksOnly_mapM fun name hname => testEntryFinding_asksOnly ?_,
        Program.asksOnly_pure _⟩
      rw [testsEntries, hentries]
      exact List.mem_map_of_mem hname

theorem collectTestTargetFiles_asksOnly :
    Program.AsksOnly (answers fromPath fs) (Consulted fromPath nativeSyntax fs root config)
      (collectTestTargetFiles root (parseCargoManifest fromPath fs root)) := by
  rw [collectTestTargetFiles, Program.asksOnly_bind, Program.asksOnly_question,
    Program.asksOnly_bind]
  refine ⟨rfl, filterAsk_asksOnly fun path hpath => ?_, Program.asksOnly_pure _⟩
  rw [Program.asksOnly_bind, Program.asksOnly_question]
  exact ⟨Or.inl hpath, Program.asksOnly_pure _⟩

theorem collectTestTargetFiles_run :
    (collectTestTargetFiles root (parseCargoManifest fromPath fs root)).run
        (answers fromPath fs) = testTargetFiles fromPath fs root := by
  rw [collectTestTargetFiles, Program.run_bind, Program.run_bind, filterAsk_run]
  rfl

theorem parseCargoTestTargets_asksOnly :
    Program.AsksOnly (answers fromPath fs) (Consulted fromPath nativeSyntax fs root config)
      (parseCargoTestTargets nativeSyntax root (parseCargoManifest fromPath fs root)) := by
  rw [parseCargoTestTargets, Program.asksOnly_bind, collectTestTargetFiles_run]
  refine ⟨collectTestTargetFiles_asksOnly, Program.asksOnly_mapM fun path hpath =>
    parseRustFile_asksOnly ?_⟩
  exact List.mem_append_left _ (List.mem_append_right _ hpath)

theorem parseCargoTestTargets_run :
    (parseCargoTestTargets nativeSyntax root (parseCargoManifest fromPath fs root)).run
        (answers fromPath fs) = testTargets fromPath nativeSyntax fs root := by
  rw [parseCargoTestTargets, Program.run_bind, collectTestTargetFiles_run, Program.run_mapM]
  exact List.map_congr_left fun path _ => parseRustFile_run path

/-! The declared scopes. -/

theorem mem_scopeCandidates_of_source {manifest : CargoManifestFacts} {path : Path}
    (h : path ∈ config.sourceDirNames.map (Path.join root) ++ [Path.join root "src"] ++
      manifest.sourceTargetFiles.filterMap Path.parent?) :
    path ∈ scopeCandidates root config manifest :=
  List.mem_append_left _ (List.mem_append_left _ h)

theorem mem_scopeCandidates_of_test {manifest : CargoManifestFacts} {path : Path}
    (htests : config.includeTests = true)
    (h : path ∈ config.testDirNames.map (Path.join root) ++ [Path.join root "tests"] ++
      manifest.testTargetFiles.filterMap Path.parent?) :
    path ∈ scopeCandidates root config manifest := by
  refine List.mem_append_left _ (List.mem_append_right _ ?_)
  rwa [if_pos htests]

theorem mem_scopeCandidates_of_package {manifest : CargoManifestFacts} {path : Path}
    (h : path ∈ ["build.rs", "examples", "benches"].map (Path.join root) ++
      manifest.exampleTargets.map CargoExampleTargetFacts.path ++
      manifest.benchTargets.map CargoBenchTargetFacts.path) :
    path ∈ scopeCandidates root config manifest :=
  List.mem_append_right _ h

theorem mem_consultedPaths_of_scope {path : Path}
    (h : path ∈ scopeCandidates root config (parseCargoManifest fromPath fs root)) :
    path ∈ consultedPaths fromPath nativeSyntax fs root config := by
  simp [consultedPaths, h]

theorem mem_consultedPaths_of_declared {path : Path}
    (h : path ∈ declaredScopePaths root (parseCargoManifest fromPath fs root)) :
    path ∈ consultedPaths fromPath nativeSyntax fs root config := by
  simp [consultedPaths, h]

theorem customScopePathFinding_asksOnly {scopeKind path : String}
    (h : Path.join root (normalizeScopePath path) ∈ customScopePaths root config) :
    Program.AsksOnly (answers fromPath fs) (Consulted fromPath nativeSyntax fs root config)
      (customScopePathFinding root scopeKind path) := by
  rw [customScopePathFinding, Program.asksOnly_bind, Program.asksOnly_question]
  exact ⟨by simp [Consulted, consultedPaths, h], Program.asksOnly_pure _⟩

theorem sourceReductionFindings_asksOnly :
    Program.AsksOnly (answers fromPath fs) (Consulted fromPath nativeSyntax fs root config)
      (sourceReductionFindings root config) := by
  rw [sourceReductionFindings, Program.asksOnly_bind, Program.asksOnly_question,
    Program.asksOnly_ite]
  exact ⟨mem_consultedPaths_of_declared (by simp [declaredScopePaths]), by simp, by simp⟩

theorem testReductionFindings_asksOnly :
    Program.AsksOnly (answers fromPath fs) (Consulted fromPath nativeSyntax fs root config)
      (testReductionFindings root config (parseCargoManifest fromPath fs root)) := by
  rw [testReductionFindings, Program.asksOnly_bind, Program.asksOnly_bind,
    Program.asksOnly_question]
  refine ⟨filterAsk_asksOnly fun path hpath => ?_,
    mem_consultedPaths_of_declared (by simp [declaredScopePaths]), ?_⟩
  · rw [Program.asksOnly_question]
    exact mem_consultedPaths_of_declared (by simp [declaredScopePaths, hpath])
  · rw [Program.asksOnly_ite]
    refine ⟨fun _ => ?_, fun _ => ?_⟩
    · rw [Program.asksOnly_ite]
      exact ⟨by simp, by simp⟩
    · rw [Program.asksOnly_ite]
      exact ⟨by simp, by simp⟩

theorem sourceScopeFindings_asksOnly :
    Program.AsksOnly (answers fromPath fs) (Consulted fromPath nativeSyntax fs root config)
      (sourceScopeFindings root config (parseCargoManifest fromPath fs root)) := by
  simp only [sourceScopeFindings, Program.asksOnly_bind]
  refine ⟨Program.asksOnly_mapM fun path hpath => customScopePathFinding_asksOnly ?_,
    Program.asksOnly_mapM fun path hpath => customScopePathFinding_asksOnly ?_,
    sourceReductionFindings_asksOnly, testReductionFindings_asksOnly, Program.asksOnly_pure _⟩
  · exact List.mem_map_of_mem (List.mem_append_left _ hpath)
  · exact List.mem_map_of_mem (List.mem_append_right _ hpath)

/-! The mounts of the sources. -/

theorem sourceTestMountFinding_asksOnly {projectRoot : Path} {module : ParsedRustModule}
    {itemMod : RustModuleDeclarationSyntax}
    (h : ∀ pathValue resolved, itemMod.isInline = false → itemMod.pathAttr = some pathValue →
      itemMod.resolvedPathAttr = some resolved →
      resolved ∈ consultedPaths fromPath nativeSyntax fs root config) :
    Program.AsksOnly (answers fromPath fs) (Consulted fromPath nativeSyntax fs root config)
      (sourceTestMountFinding projectRoot module itemMod) := by
  rw [sourceTestMountFinding, Program.asksOnly_ite]
  refine ⟨fun _ => Program.asksOnly_pure _, fun hinline => ?_⟩
  cases hattr : itemMod.pathAttr with
  | none => exact Program.asksOnly_pure _
  | some pathValue =>
      cases hresolved : itemMod.resolvedPathAttr with
      | none => exact Program.asksOnly_pure _
      | some resolved =>
          dsimp only
          rw [Program.asksOnly_bind, Program.asksOnly_question, Program.asksOnly_ite]
          exact ⟨h pathValue resolved (by simpa using hinline) hattr hresolved, by simp, by simp⟩

theorem sourceTestMountFindings_asksOnly :
    Program.AsksOnly (answers fromPath fs) (Consulted fromPath nativeSyntax fs root config)
      (sourceTestMountFindings (aspRustScope fromPath fs root config)
        (packageModules fromPath nativeSyntax fs root config)) := by
  rw [sourceTestMountFindings, Program.asksOnly_bind]
  refine ⟨Program.asksOnly_mapM fun module hmodule => Program.asksOnly_mapM
    fun itemMod hitem => sourceTestMountFinding_asksOnly ?_, Program.asksOnly_pure _⟩
  intro pathValue resolved hinline hattr hresolved
  have hmount : resolved ∈ sourceMountPaths fromPath nativeSyntax fs root config :=
    List.mem_flatMap.mpr ⟨module, hmodule, List.mem_filterMap.mpr ⟨itemMod, hitem,
      by simp [hinline, hattr, hresolved]⟩⟩
  simp [consultedPaths, hmount]

/-! The test targets. -/

theorem crateLocalTestSuitePath_asksOnly {base path : Path} {ancestors : List Path}
    (h : ∀ ancestor ∈ ancestors, Path.join (base ++ ancestor) "Cargo.toml" ∈
      testCrateManifests fromPath nativeSyntax fs root) :
    Program.AsksOnly (answers fromPath fs) (Consulted fromPath nativeSyntax fs root config)
      (crateLocalTestSuitePath base ancestors path) := by
  rw [crateLocalTestSuitePath, Program.asksOnly_bind]
  refine ⟨findAsk?_asksOnly fun ancestor hancestor => ?_, Program.asksOnly_pure _⟩
  rw [Program.asksOnly_question]
  exact Or.inr (h ancestor hancestor)

/-- Whether a path is in a suite is told by the manifests above it. -/
theorem isAllowedTestSuitePath_asksOnly {candidate : Path}
    (h : ∀ manifest ∈ crateManifests root candidate,
      manifest ∈ testCrateManifests fromPath nativeSyntax fs root) :
    Program.AsksOnly (answers fromPath fs) (Consulted fromPath nativeSyntax fs root config)
      (isAllowedTestSuitePath root candidate) := by
  unfold isAllowedTestSuitePath
  cases hrelative : Path.stripPrefix? root candidate with
  | some relative =>
      dsimp only
      rw [Program.asksOnly_bind]
      refine ⟨crateLocalTestSuitePath_asksOnly fun ancestor hancestor => h _ ?_, ?_⟩
      · rw [crateManifests, hrelative]
        exact List.mem_map_of_mem hancestor
      · split
        · exact Program.asksOnly_pure _
        · exact Program.asksOnly_pure _
  | none =>
      dsimp only
      rw [Program.asksOnly_bind]
      refine ⟨crateLocalTestSuitePath_asksOnly fun ancestor hancestor => h _ ?_, ?_⟩
      · rw [crateManifests, hrelative]
        exact List.mem_map_of_mem hancestor
      · split
        · exact Program.asksOnly_pure _
        · exact Program.asksOnly_pure _

theorem isAllowedTestSuitePath_asksOnly_of_target {path : Path}
    (h : path ∈ testTargetFiles fromPath fs root) :
    Program.AsksOnly (answers fromPath fs) (Consulted fromPath nativeSyntax fs root config)
      (isAllowedTestSuitePath root path) :=
  isAllowedTestSuitePath_asksOnly fun _ hmanifest =>
    List.mem_flatMap.mpr ⟨path, List.mem_append_left _ h, hmanifest⟩

/-- A place for a module of a test target is looked up in its suite only if it exists. -/
theorem isAllowedResolvedTestSuitePath_asksOnly {candidate : Path}
    (h : candidate ∈ targetMountPaths fromPath nativeSyntax fs root) :
    Program.AsksOnly (answers fromPath fs) (Consulted fromPath nativeSyntax fs root config)
      (isAllowedResolvedTestSuitePath root candidate) := by
  rw [isAllowedResolvedTestSuitePath, Program.asksOnly_bind, Program.asksOnly_question,
    Program.asksOnly_ite]
  refine ⟨by simp [Consulted, consultedPaths, h], fun hfound => ?_, by simp⟩
  refine isAllowedTestSuitePath_asksOnly fun _ hmanifest => List.mem_flatMap.mpr
    ⟨candidate, List.mem_append_right _ (List.mem_filter.mpr ⟨h, hfound⟩), hmanifest⟩

theorem parsedFile_path (path : Path) : (parsedFile nativeSyntax fs path).report.path = path := by
  unfold parsedFile
  cases readToString fs path with
  | error error => rfl
  | ok source =>
      dsimp only [parseRustSource]
      cases nativeSyntax path source with
      | error error => rfl
      | ok syntaxFacts => rfl

theorem mem_testTargetFiles {target : ParsedRustModule}
    (h : target ∈ testTargets fromPath nativeSyntax fs root) :
    target.report.path ∈ testTargetFiles fromPath fs root := by
  obtain ⟨path, hpath, rfl⟩ := List.mem_map.mp h
  rwa [parsedFile_path]

theorem testTargetAggregateFindings_asksOnly {target : ParsedRustModule}
    (h : target ∈ testTargets fromPath nativeSyntax fs root) :
    Program.AsksOnly (answers fromPath fs) (Consulted fromPath nativeSyntax fs root config)
      (testTargetAggregateFindings root target) := by
  rw [testTargetAggregateFindings, Program.asksOnly_bind, Program.asksOnly_ite]
  exact ⟨isAllowedTestSuitePath_asksOnly_of_target (mem_testTargetFiles h), by simp, by simp⟩

theorem testTargetModuleMountFinding_asksOnly {target : ParsedRustModule}
    {itemMod : RustModuleDeclarationSyntax}
    (h : ∀ candidate ∈ mountCandidates target itemMod,
      candidate ∈ targetMountPaths fromPath nativeSyntax fs root) :
    Program.AsksOnly (answers fromPath fs) (Consulted fromPath nativeSyntax fs root config)
      (testTargetModuleMountFinding root target itemMod) := by
  unfold testTargetModuleMountFinding
  unfold mountCandidates at h
  cases hattr : itemMod.pathAttr with
  | none => exact Program.asksOnly_pure _
  | some pathValue =>
      cases hresolved : itemMod.resolvedPathAttr with
      | none => exact Program.asksOnly_pure _
      | some resolved =>
          rw [hattr, hresolved] at h
          dsimp only at h ⊢
          rw [Program.asksOnly_bind, Program.asksOnly_ite]
          refine ⟨isAllowedResolvedTestSuitePath_asksOnly (h resolved List.mem_cons_self),
            by simp, fun _ => ?_⟩
          cases hparent : target.report.path.parent? with
          | none => simp
          | some parent =>
              have hjoined : Path.join parent pathValue ∈
                  targetMountPaths fromPath nativeSyntax fs root :=
                h _ (List.mem_cons_of_mem _ (by simp [hparent]))
              dsimp only
              rw [Program.asksOnly_bind, Program.asksOnly_ite]
              exact ⟨isAllowedResolvedTestSuitePath_asksOnly hjoined, by simp, by simp⟩

theorem testTargetModuleMountFindings_asksOnly {target : ParsedRustModule}
    (h : target ∈ testTargets fromPath nativeSyntax fs root) :
    Program.AsksOnly (answers fromPath fs) (Consulted fromPath nativeSyntax fs root config)
      (testTargetModuleMountFindings root target) := by
  rw [testTargetModuleMountFindings, Program.asksOnly_bind, Program.asksOnly_ite]
  refine ⟨isAllowedTestSuitePath_asksOnly_of_target (mem_testTargetFiles h), by simp,
    fun hsuite => ?_⟩
  rw [Program.asksOnly_bind]
  refine ⟨Program.asksOnly_mapM fun itemMod hitem =>
    testTargetModuleMountFinding_asksOnly fun candidate hcandidate => ?_,
    Program.asksOnly_pure _⟩
  exact List.mem_flatMap.mpr ⟨target, List.mem_filter.mpr ⟨h, by simpa [inTestSuite] using hsuite⟩,
    List.mem_flatMap.mpr ⟨itemMod, hitem, hcandidate⟩⟩

/-! The gate and the benchmarks. -/

theorem weakAdviceExplanationFindings_asksOnly :
    Program.AsksOnly (answers fromPath fs) (Consulted fromPath nativeSyntax fs root config)
      (weakAdviceExplanationFindings root config) := by
  rw [weakAdviceExplanationFindings]
  refine Program.asksOnly_mapM fun field _ => ?_
  rw [Program.asksOnly_bind, Program.asksOnly_question]
  exact ⟨mem_consultedPaths_of_scope (mem_scopeCandidates_of_package (by simp)),
    Program.asksOnly_pure _⟩

theorem samePath_asksOnly {left right : Path}
    (hleft : left ∈ consultedPlaces fromPath fs root config)
    (hright : right ∈ consultedPlaces fromPath fs root config) :
    Program.AsksOnly (answers fromPath fs) (Consulted fromPath nativeSyntax fs root config)
      (samePath left right) := by
  rw [samePath, Program.asksOnly_ite]
  refine ⟨by simp, fun _ => ?_⟩
  rw [Program.asksOnly_bind, Program.asksOnly_bind, Program.asksOnly_question,
    Program.asksOnly_question]
  exact ⟨hleft, hright, Program.asksOnly_pure _⟩

theorem mem_packageSourceFiles {module : ParsedRustModule}
    (h : module ∈ packageModules fromPath nativeSyntax fs root config) :
    module.report.path ∈ packageSourceFiles fromPath fs root config := by
  obtain ⟨path, hpath, rfl⟩ := List.mem_map.mp h
  rwa [parsedFile_path]

theorem cargoTestGateFindings_asksOnly {manifest : CargoManifestFacts}
    {targets : List ParsedRustModule} :
    Program.AsksOnly (answers fromPath fs) (Consulted fromPath nativeSyntax fs root config)
      (cargoTestGateFindings root manifest
        (packageModules fromPath nativeSyntax fs root config) targets) := by
  rw [cargoTestGateFindings, Program.asksOnly_bind]
  refine ⟨findAsk?_asksOnly fun module hmodule => samePath_asksOnly
    (List.mem_cons_of_mem _ (mem_packageSourceFiles hmodule)) List.mem_cons_self, ?_⟩
  rw [Program.asksOnly_ite]
  exact ⟨by simp, by simp⟩

theorem benchTargetUsesAdapter_asksOnly {target : CargoBenchTargetFacts} {adapter : String}
    (h : target.path ∈ consultedTexts fromPath fs root config) :
    Program.AsksOnly (answers fromPath fs) (Consulted fromPath nativeSyntax fs root config)
      (benchTargetUsesAdapter target adapter) := by
  rw [benchTargetUsesAdapter, Program.asksOnly_bind, Program.asksOnly_question]
  refine ⟨h, ?_⟩
  split
  · exact Program.asksOnly_pure _
  · exact Program.asksOnly_pure _

theorem targetMatchesRustNativePerformance_asksOnly {adapters : List String}
    {dependencies : List CargoDependencyFacts} {target : CargoBenchTargetFacts}
    (hadapters : activeRustNativePerformanceAdapters config ≠ [])
    (h : target ∈ (parseCargoManifest fromPath fs root).benchTargets) :
    Program.AsksOnly (answers fromPath fs) (Consulted fromPath nativeSyntax fs root config)
      (targetMatchesRustNativePerformance adapters dependencies target) := by
  rw [targetMatchesRustNativePerformance, Program.asksOnly_ite]
  refine ⟨by simp, fun hharness => ?_⟩
  rw [Program.asksOnly_bind, Program.asksOnly_question, Program.asksOnly_ite]
  refine ⟨mem_consultedPaths_of_scope (mem_scopeCandidates_of_package
    (List.mem_append_right _ (List.mem_map_of_mem h))), fun hfound => ?_, by simp⟩
  refine anyAsk_asksOnly fun adapter _ => benchTargetUsesAdapter_asksOnly ?_
  refine List.mem_append_right _ ?_
  rw [benchmarkFiles, if_neg hadapters]
  refine List.mem_map_of_mem (List.mem_filter.mpr ⟨h, ?_⟩)
  rw [Bool.and_eq_true]
  exact ⟨by simpa using hharness, hfound⟩

theorem workspacePerformanceVerificationFindings_asksOnly :
    Program.AsksOnly (answers fromPath fs) (Consulted fromPath nativeSyntax fs root config)
      (workspacePerformanceVerificationFindings root [aspRustScope fromPath fs root config]
        config) := by
  rw [workspacePerformanceVerificationFindings, Program.asksOnly_ite]
  refine ⟨by simp, fun hadapters => ?_⟩
  rw [Program.asksOnly_bind, Program.asksOnly_ite]
  refine ⟨anyAsk_asksOnly fun scope hscope => ?_, by simp, by simp⟩
  obtain rfl := List.mem_singleton.mp hscope
  rw [Program.asksOnly_bind, Program.asksOnly_bind, Program.asksOnly_question,
    Program.asksOnly_question]
  exact ⟨rfl, ⟨rfl, hadapters⟩, anyAsk_asksOnly fun target htarget =>
    targetMatchesRustNativePerformance_asksOnly hadapters htarget⟩

end Rules

/-! ## The packs and the report

The packs one after the other; each of the packs that build a reasoning tree asks for
the manifest of the package again.  Since what they ask for is consulted, two states
with the same answers have one report. -/

section Reports

variable {fromPath : ManifestReader} {rules : PureRules} {fs : FileSystem} {root : Path}
  {config : AspRustConfig}

theorem reasoningTreeManifest_asksOnly {nativeSyntax : SyntaxReader} {scope : AspRustScope}
    (hscope : scope.projectRoot = root) :
    Program.AsksOnly (answers fromPath fs) (Consulted fromPath nativeSyntax fs root config)
      (reasoningTreeManifest scope) := by
  rw [reasoningTreeManifest, Program.asksOnly_question]
  exact hscope

theorem evaluateProjectPolicy_asksOnly :
    Program.AsksOnly (answers fromPath fs)
      (Consulted fromPath rules.nativeSyntax fs root config)
      (evaluateProjectPolicy rules (aspRustScope fromPath fs root config)
        (packageModules fromPath rules.nativeSyntax fs root config) config) := by
  simp only [evaluateProjectPolicy, Program.asksOnly_bind, Program.asksOnly_question]
  refine ⟨rfl, parseCargoTestTargets_asksOnly, reasoningTreeManifest_asksOnly rfl,
    testLayoutFindings_asksOnly, sourceScopeFindings_asksOnly, sourceTestMountFindings_asksOnly,
    ?_, ?_, weakAdviceExplanationFindings_asksOnly, cargoTestGateFindings_asksOnly,
    Program.asksOnly_pure _⟩
  · refine Program.asksOnly_mapM fun target htarget => testTargetAggregateFindings_asksOnly ?_
    rwa [← parseCargoTestTargets_run]
  · refine Program.asksOnly_mapM fun target htarget =>
      testTargetModuleMountFindings_asksOnly ?_
    rwa [← parseCargoTestTargets_run]

theorem evaluateDefaultRulePacksWithConfig_asksOnly :
    Program.AsksOnly (answers fromPath fs)
      (Consulted fromPath rules.nativeSyntax fs root config)
      (evaluateDefaultRulePacksWithConfig rules (aspRustScope fromPath fs root config)
        (packageModules fromPath rules.nativeSyntax fs root config) config) := by
  simp only [evaluateDefaultRulePacksWithConfig, Program.asksOnly_bind]
  exact ⟨evaluateProjectPolicy_asksOnly, reasoningTreeManifest_asksOnly rfl,
    reasoningTreeManifest_asksOnly rfl, Program.asksOnly_pure _⟩

/-! Discovery and parsing. -/

theorem existingPathsProgram_asksOnly {nativeSyntax : SyntaxReader} {paths : List Path}
    (h : ∀ path ∈ paths, path ∈ scopeCandidates root config (parseCargoManifest fromPath fs root)) :
    Program.AsksOnly (answers fromPath fs) (Consulted fromPath nativeSyntax fs root config)
      (existingPathsProgram paths) := by
  rw [existingPathsProgram, Program.asksOnly_bind]
  refine ⟨filterAsk_asksOnly fun path hpath => ?_, Program.asksOnly_pure _⟩
  rw [Program.asksOnly_question]
  exact mem_consultedPaths_of_scope (h path hpath)

theorem scopeProgram_asksOnly {nativeSyntax : SyntaxReader} :
    Program.AsksOnly (answers fromPath fs) (Consulted fromPath nativeSyntax fs root config)
      (scopeProgram root config) := by
  simp only [scopeProgram, Program.asksOnly_bind, Program.asksOnly_question,
    Program.asksOnly_ite]
  refine ⟨rfl, existingPathsProgram_asksOnly fun path => mem_scopeCandidates_of_source,
    fun htests => ⟨?_, ?_⟩, fun _ => ⟨?_, ?_⟩⟩
  · exact existingPathsProgram_asksOnly fun path => mem_scopeCandidates_of_test htests
  · exact ⟨existingPathsProgram_asksOnly fun path => mem_scopeCandidates_of_package,
      Program.asksOnly_pure _⟩
  · exact Program.asksOnly_pure _
  · exact ⟨existingPathsProgram_asksOnly fun path => mem_scopeCandidates_of_package,
      Program.asksOnly_pure _⟩

theorem parsePackagePaths_asksOnly {nativeSyntax : SyntaxReader} :
    Program.AsksOnly (answers fromPath fs) (Consulted fromPath nativeSyntax fs root config)
      (parsePackagePaths nativeSyntax (aspRustScope fromPath fs root config).monitoredPaths root
        config) := by
  simp only [parsePackagePaths, Program.asksOnly_bind, Program.asksOnly_question]
  exact ⟨⟨rfl, rfl, rfl⟩, ⟨rfl, rfl⟩, Program.asksOnly_mapM fun path hpath =>
    parseRustFile_asksOnly (List.mem_append_left _ (List.mem_append_left _ hpath))⟩

theorem parsePackagePaths_run {nativeSyntax : SyntaxReader} :
    (parsePackagePaths nativeSyntax (aspRustScope fromPath fs root config).monitoredPaths root
        config).run (answers fromPath fs) =
      packageModules fromPath nativeSyntax fs root config := by
  simp only [parsePackagePaths, Program.run_bind, Program.run_question, Program.run_mapM]
  exact List.map_congr_left fun path _ => parseRustFile_run path

theorem analyzeSingleProject_asksOnly :
    Program.AsksOnly (answers fromPath fs)
      (Consulted fromPath rules.nativeSyntax fs root config)
      (analyzeSingleProject rules root config) := by
  simp only [analyzeSingleProject, Program.asksOnly_bind, scopeProgram_run]
  exact ⟨scopeProgram_asksOnly, parsePackagePaths_asksOnly, Program.asksOnly_pure _⟩

/-- The analysis of a package: its scope and its files, parsed. -/
theorem analyzeSingleProject_run :
    (analyzeSingleProject rules root config).run (answers fromPath fs) =
      ⟨root, aspRustScope fromPath fs root config,
        packageModules fromPath rules.nativeSyntax fs root config⟩ := by
  simp only [analyzeSingleProject, Program.run_bind, scopeProgram_run, parsePackagePaths_run]
  rfl

end Reports

section Verdicts

variable {fromPath : ManifestReader} {host : AnalysisHost} {first second : FileSystem}
  {root : Path} {config : AspRustConfig}

/-- Two states answer alike what is consulted in the first. -/
def SameConsulted (fromPath : ManifestReader) (nativeSyntax : SyntaxReader)
    (first second : FileSystem) (root : Path) (config : AspRustConfig) : Prop :=
  ∀ β (query : FileQuery β), Consulted fromPath nativeSyntax first root config β query →
    answers fromPath first β query = answers fromPath second β query

theorem toReport_asksOnly :
    Program.AsksOnly (answers fromPath first)
      (Consulted fromPath host.nativeSyntax first root config)
      (AspRustAnalysis.toReport host ⟨root, aspRustScope fromPath first root config,
        packageModules fromPath host.nativeSyntax first root config⟩ config) := by
  simp only [AspRustAnalysis.toReport, evaluateWorkspaceRulePacksWithConfig,
    Program.asksOnly_bind]
  exact ⟨evaluateDefaultRulePacksWithConfig_asksOnly,
    ⟨workspacePerformanceVerificationFindings_asksOnly, Program.asksOnly_pure _⟩,
    Program.asksOnly_pure _⟩

/-- The report of a package asks for nothing that is not consulted. -/
theorem packageReport_asksOnly :
    Program.AsksOnly (answers fromPath first)
      (Consulted fromPath host.nativeSyntax first root config)
      (packageReport host root config) := by
  rw [packageReport, Program.asksOnly_bind, analyzeSingleProject_run]
  exact ⟨analyzeSingleProject_asksOnly, toReport_asksOnly⟩

/-- **The report depends on what is consulted.** -/
theorem packageReport_eq_of_consulted
    (hsame : SameConsulted fromPath host.nativeSyntax first second root config) :
    (packageReport host root config).run (answers fromPath first) =
      (packageReport host root config).run (answers fromPath second) :=
  packageReport_asksOnly.run_eq hsame

/-! ## The verdict

A verdict begins with the questions whether the root is there and whether its manifest
can be read, and it ends with the plan, for which the manifest is read once more. -/

variable (fromPath host first root config) in
/-- The questions that a verdict can depend on: also whether the root is there, and its
manifest, which has to be that of a package. -/
def VerdictConsulted : ∀ β, FileQuery β → Prop
  | _, .pathExists path =>
      path = root ∨ path ∈ consultedPaths fromPath host.nativeSyntax first root config
  | _, .requiredCargoManifest projectRoot => projectRoot = root
  | β, query => Consulted fromPath host.nativeSyntax first root config β query

theorem verdictConsulted_of_consulted {β : Type} {query : FileQuery β}
    (h : Consulted fromPath host.nativeSyntax first root config β query) :
    VerdictConsulted fromPath host first root config β query := by
  cases query with
  | pathExists path => exact Or.inr h
  | requiredCargoManifest projectRoot => exact h.elim
  | _ => exact h

theorem analyzeRustProjectOnce_asksOnly :
    Program.AsksOnly (answers fromPath first) (VerdictConsulted fromPath host first root config)
      (analyzeRustProjectOnce host.toPureRules root config) := by
  rw [analyzeRustProjectOnce, Program.asksOnly_bind, Program.asksOnly_question,
    Program.asksOnly_ite]
  refine ⟨Or.inl rfl, fun _ => Program.asksOnly_pure _, fun _ => ?_⟩
  rw [Program.asksOnly_bind, Program.asksOnly_question]
  refine ⟨rfl, ?_⟩
  split
  · exact Program.asksOnly_pure _
  · rw [Program.asksOnly_ite]
    refine ⟨fun _ => Program.asksOnly_pure _, fun _ => ?_⟩
    rw [Program.asksOnly_bind]
    exact ⟨analyzeSingleProject_asksOnly.mono fun _ _ => verdictConsulted_of_consulted,
      Program.asksOnly_pure _⟩

theorem packageVerdict_asksOnly :
    Program.AsksOnly (answers fromPath first) (VerdictConsulted fromPath host first root config)
      (packageVerdict host root config) := by
  rw [packageVerdict, Program.asksOnly_bind]
  refine ⟨analyzeRustProjectOnce_asksOnly, ?_⟩
  split
  · exact Program.asksOnly_pure _
  · next analysis hanalysis =>
      obtain rfl := (analyzeRustProjectOnce_eq_ok hanalysis).2.2.trans analyzeSingleProject_run
      have hmanifest : ∀ {scope : AspRustScope}, scope.projectRoot = root →
          Program.AsksOnly (answers fromPath first)
            (Consulted fromPath host.nativeSyntax first root config)
            (reasoningTreeManifest scope) :=
        fun hscope => reasoningTreeManifest_asksOnly hscope
      rw [Program.asksOnly_bind, Program.asksOnly_bind]
      exact ⟨toReport_asksOnly.mono fun _ _ => verdictConsulted_of_consulted,
        (hmanifest rfl).mono fun _ _ => verdictConsulted_of_consulted,
        Program.asksOnly_pure _⟩

/-- **The verdict depends on what is consulted.**  A verdict in one state is that of every
state in which the root is there and which agrees on what is consulted: the manifest is
that of a package there too, since its facts say so. -/
theorem packageVerdict_of_consulted
    (hsame : SameConsulted fromPath host.nativeSyntax first second root config)
    (hroot : second.pathExists root = true) {verdict : AspRustReport × RustVerificationPlan}
    (hverdict : (packageVerdict host root config).run (answers fromPath first) = .ok verdict) :
    (packageVerdict host root config).run (answers fromPath second) = .ok verdict := by
  have hmanifest : parseCargoManifest fromPath first root =
      parseCargoManifest fromPath second root := hsame _ (.cargoManifest root) rfl
  obtain ⟨hthere, hpackage⟩ := isPackage_of_verdict hverdict
  rw [← hverdict]
  refine (packageVerdict_asksOnly.run_eq fun β query hquery => ?_).symm
  cases query with
  | pathExists path =>
      obtain rfl | hpath := hquery
      · exact hthere.trans hroot.symm
      · exact hsame _ _ hpath
  | requiredCargoManifest projectRoot =>
      obtain rfl := hquery
      show parseRequiredCargoManifest fromPath first projectRoot =
        parseRequiredCargoManifest fromPath second projectRoot
      rw [parseRequiredCargoManifest_of_hasPackage hpackage,
        parseRequiredCargoManifest_of_hasPackage (hmanifest ▸ hpackage), hmanifest]
  | _ => exact hsame _ _ hquery

end Verdicts

end AspRust.Analysis
