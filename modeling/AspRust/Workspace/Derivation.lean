import AspRust.Discovery.Membership
import AspRust.Workspace.BuildDag

/-!
# Deriving the Build DAG from a workspace

The derivation discovers package roots, keeps those that the membership globs of the
workspace manifest admit, reads the manifest of each, and orders the packages by their
local dependencies.  Discovery and the membership filter read the member entries in two
ways: discovery expands them over the file system, the filter compiles them with a glob
library and matches relative paths.  That library is a parameter, `GlobLibrary`.

The derivation fails with a text where a manifest cannot be read, a pattern cannot be
compiled, no package is left, a package has no name, or two have the same.  Where it does
not, `retain_eq_ok` says which roots are kept, `get?_factsByRoot` and `get?_rootByName` what
the two package maps hold, and `mem_packageRoots_of_derivation` which packages are ordered;
`exists_derivation` says that it does not fail when its stages do not.

### Layout

* The manifests of the graph, the membership filter, the package maps and the derivation, in
  the order in which the source calls them.
* One lemma for each stage that says when it succeeds and what it returns.
* A derived graph: which packages it has, and that it is a Build DAG.

### What is load-bearing

The maps of the source are filled in the order of the roots, and what they hold in the end does
not depend on it when names are distinct; that they are is checked on insertion, with the text
of the first repetition.  The search for an order is that of `BuildDag`, on the names.
-/

namespace AspRust.Workspace

open AspRust.Foundation AspRust.Discovery

/-! ## Manifests of the graph

What the derivation reads of a manifest: the name of the package, and the roots of its
path dependencies, from the tables of all kinds and of each target. -/

/-- A glob library: compiling one pattern to its match test, and building a set of
compiled patterns.  A set matches a path when one of its patterns does. -/
structure GlobLibrary where
  /-- Compile a pattern, or say why not. -/
  glob : String → Except String (Path → Bool)
  /-- Build the set of a list of patterns, or say why not. -/
  build : List String → Except String Unit

/-- What the graph needs of one package. -/
structure CargoPackageGraphFacts where
  packageName : String
  localDependencyRoots : List Path
deriving DecidableEq, Repr

/-- The dependency tables of a package, of its own and of its target platforms. -/
def packageTables (manifest : Manifest) : List DepsSet :=
  [manifest.dependencies, manifest.devDependencies, manifest.buildDependencies] ++
    manifest.target.values.flatMap fun table =>
      [table.dependencies, table.devDependencies, table.buildDependencies]

/-- The root a dependency with a path names; one left to the workspace names none. -/
def dependencyPathRoot (baseRoot : Path) (dependency : Dependency) : Option Path :=
  if dependency.inherited then none else dependency.path.map (Path.join baseRoot)

section Facts

variable (packageRoot workspaceRoot : Path) (workspaceDependencies : Option DepsSet)

/-- The root of one dependency: an inherited one is looked up in the workspace manifest
by its key, and its path starts at the workspace. -/
def graphDependencyRoot (name : String) (dependency : Dependency) : Option Path :=
  if dependency.inherited then
    (workspaceDependencies.bind fun dependencies => dependencies.get? name).bind
      (dependencyPathRoot workspaceRoot)
  else dependencyPathRoot packageRoot dependency

/-- The normalized roots of the dependencies of one table. -/
def collectGraphDependencyRoots (dependencies : DepsSet) : List Path :=
  dependencies.entries.filterMap fun entry =>
    (graphDependencyRoot packageRoot workspaceRoot workspaceDependencies entry.1 entry.2).map
      normalizeLexicalPath

end Facts

section Derivation

variable (fromPath : ManifestReader) (fs : FileSystem) (globs : GlobLibrary)

/-- The facts of one package, which must have a readable manifest with a name. -/
def parseRequiredCargoPackageGraphFacts (packageRoot workspaceRoot : Path)
    (workspaceDependencies : Option DepsSet) : Except String CargoPackageGraphFacts :=
  let manifestPath := Path.join packageRoot "Cargo.toml"
  match fromPath fs manifestPath with
  | .error error => .error ("parse Cargo dependency graph package " ++ manifestPath.display ++
      ": " ++ error)
  | .ok manifest =>
      match (manifest.package.map Package.name).filter fun name => trim name.toList ≠ [] with
      | none => .error ("Cargo graph package has no package.name: " ++ manifestPath.display)
      | some packageName => .ok {
          packageName
          localDependencyRoots := (OrderedSet.ofList ((packageTables manifest).flatMap
            (collectGraphDependencyRoots packageRoot workspaceRoot
              workspaceDependencies))).keys }

/-- The facts of every package, by its root. -/
def parseRequiredCargoWorkspacePackageGraphFacts (packageRoots : List Path)
    (workspaceRoot : Path) : Except String (List (Path × CargoPackageGraphFacts)) :=
  let manifestPath := Path.join workspaceRoot "Cargo.toml"
  match fromPath fs manifestPath with
  | .error error => .error ("parse Cargo dependency graph workspace " ++ manifestPath.display ++
      ": " ++ error)
  | .ok manifest => packageRoots.mapM fun packageRoot =>
      (parseRequiredCargoPackageGraphFacts fromPath fs packageRoot workspaceRoot
        (manifest.workspace.map Workspace.dependencies)).map (packageRoot, ·)

/-! ## Membership

The filter on discovered roots.  The member and exclude entries are compiled first, so a
pattern that cannot be compiled is an error even if no root is looked at. -/

/-- The match test of a list of workspace patterns; `kind` is for error texts. -/
def compileWorkspacePatterns (patterns : List String) (kind : String) :
    Except String (Path → Bool) := do
  let compiled ← patterns.mapM fun pattern => (globs.glob pattern).mapError fun error =>
    s!"invalid Cargo workspace {kind} `{pattern}`: {error}"
  (globs.build patterns).mapError fun error =>
    s!"compile Cargo workspace {kind} patterns: {error}"
  return fun path => compiled.any fun isMatch => isMatch path

/-- The membership test on one discovered root. -/
def retainsRoot (workspaceRoot : Path) (manifest : Manifest) (members excludes : Path → Bool)
    (root : Path) : Bool :=
  if root = workspaceRoot then manifest.package.isSome
  else
    match Path.stripPrefix? workspaceRoot root with
    | none => false
    | some relative => members relative && !excludes relative

/-- The workspace section of the manifest of a workspace. -/
def requiredWorkspace (manifestPath : Path) (manifest : Manifest) :
    Except String Discovery.Workspace :=
  match manifest.workspace with
  | none => .error ("Cargo Build DAG root is not a workspace: " ++ manifestPath.display)
  | some workspace => .ok workspace

/-- The discovered roots that are members, sorted. -/
def retainCargoWorkspaceMemberRoots (workspaceRoot : Path) (discoveredRoots : List Path) :
    Except String (List Path) := do
  let manifestPath := Path.join workspaceRoot "Cargo.toml"
  let manifest ← (fromPath fs manifestPath).mapError fun error =>
    "parse Cargo workspace membership " ++ manifestPath.display ++ ": " ++ error
  let workspace ← requiredWorkspace manifestPath manifest
  let members ← compileWorkspacePatterns globs workspace.members "member"
  let excludes ← compileWorkspacePatterns globs workspace.exclude "exclude"
  let retained := (OrderedSet.ofList ((discoveredRoots.map normalizeLexicalPath).filter
    (retainsRoot (normalizeLexicalPath workspaceRoot) manifest members excludes))).keys
  if retained = [] then
    .error ("Cargo workspace contains no admitted package members: " ++ manifestPath.display)
  else .ok retained

/-! ## The package maps

Two maps are filled root by root, facts by root and root by name, with the checks of the
source on names in between. -/

/-- The facts of the packages by root, and their roots by name. -/
structure WorkspacePackageCatalog where
  factsByRoot : OrderedMap Path CargoPackageGraphFacts := ∅
  rootByName : PackageRootsByName := ∅

/-- The error for two packages of one name. -/
def duplicateMessage (name : String) (previous root : Path) : String :=
  s!"Cargo dependency graph has duplicate local package name `{name}` at " ++
    previous.display ++ " and " ++ root.display

/-- Enter one package; its name must be new. -/
def insertUniqueDependencyGraphPackage (catalog : WorkspacePackageCatalog)
    (package : Path × CargoPackageGraphFacts) : Except String WorkspacePackageCatalog :=
  let root := normalizeLexicalPath package.1
  match catalog.rootByName.get? package.2.packageName with
  | some previous => .error (duplicateMessage package.2.packageName previous root)
  | none => .ok {
      factsByRoot := catalog.factsByRoot.insert root package.2
      rootByName := catalog.rootByName.insert package.2.packageName root }

/-- The maps of a list of packages. -/
def packageCatalog (packages : List (Path × CargoPackageGraphFacts)) :
    Except String WorkspacePackageCatalog :=
  packages.foldlM insertUniqueDependencyGraphPackage {}

/-- The names of the packages a package depends on, sorted. -/
def localDependencyNames (facts : CargoPackageGraphFacts)
    (factsByRoot : OrderedMap Path CargoPackageGraphFacts) : List String :=
  (OrderedSet.ofList (facts.localDependencyRoots.filterMap fun dependencyRoot =>
    (factsByRoot.get? (normalizeLexicalPath dependencyRoot)).map
      CargoPackageGraphFacts.packageName)).keys

/-- The dependencies of every package, by name. -/
def dependencyNamesByPackage (factsByRoot : OrderedMap Path CargoPackageGraphFacts) :
    DependenciesByName :=
  OrderedMap.insertAll CargoPackageGraphFacts.packageName
    (fun facts => localDependencyNames facts factsByRoot) factsByRoot.values ∅

/-! ## The derivation

The Build DAG with the metrics of its parser work.  Metrics are counts, and no proof is
about them. -/

/-- Stable schema id of the Build DAG. -/
def workspaceBuildDagSchemaId : String := "asp-rust.workspace-build-dag"

/-- Stable schema version of the Build DAG. -/
def workspaceBuildDagSchemaVersion : String := "1"

/-- The dependency-first package execution DAG. -/
structure AspRustWorkspaceBuildDag where
  schemaId : String
  schemaVersion : String
  workspaceRoot : Path
  packages : List BuildDagPackage
deriving DecidableEq

/-- The parser work of one derivation. -/
structure AspRustWorkspaceBuildDagMetrics where
  discoveredPackageRootCount : ℕ
  admittedPackageCount : ℕ
  parsedManifestCount : ℕ
  localDependencyEdgeCount : ℕ
deriving DecidableEq

/-- A Build DAG with its metrics. -/
structure AspRustWorkspaceBuildDagDerivation where
  buildDag : AspRustWorkspaceBuildDag
  metrics : AspRustWorkspaceBuildDagMetrics
deriving DecidableEq

/-- The packages of the graph: the discovered roots that are members, with their facts. -/
def dependencyGraphPackages (workspaceRoot : Path) (config : AspRustConfig) :
    Except String (List (Path × CargoPackageGraphFacts)) := do
  let discoveredRoots := discoverCargoPackageRoots fromPath fs workspaceRoot
    config.ignoredDirNames config.includeHiddenDirNames
  if discoveredRoots = [] then
    .error ("Cargo dependency graph contains no packages: " ++ workspaceRoot.display)
  else do
    let packageRoots ← retainCargoWorkspaceMemberRoots fromPath fs globs workspaceRoot
      discoveredRoots
    parseRequiredCargoWorkspacePackageGraphFacts fromPath fs packageRoots workspaceRoot

/-- Derive the Build DAG of a workspace, with metrics. -/
def aspRustWorkspaceBuildDagWithMetrics (workspaceRoot : Path) (config : AspRustConfig) :
    Outcome AspRustWorkspaceBuildDagDerivation := do
  let workspaceRoot := normalizeLexicalPath workspaceRoot
  let graphPackages ← (dependencyGraphPackages fromPath fs globs workspaceRoot config).mapError
    .returned
  let catalog ← (packageCatalog graphPackages).mapError .returned
  let dependenciesByName := dependencyNamesByPackage catalog.factsByRoot
  let (_, packages) ← orderAndMaterialize catalog.rootByName.keys catalog.rootByName
    dependenciesByName
  return {
    buildDag := {
      schemaId := workspaceBuildDagSchemaId
      schemaVersion := workspaceBuildDagSchemaVersion
      workspaceRoot
      packages }
    metrics := {
      discoveredPackageRootCount := (discoverCargoPackageRoots fromPath fs workspaceRoot
        config.ignoredDirNames config.includeHiddenDirNames).length
      admittedPackageCount := packages.length
      parsedManifestCount := graphPackages.length + 1
      localDependencyEdgeCount := (dependenciesByName.values.map List.length).sum } }

/-- Derive the Build DAG of a workspace. -/
def aspRustWorkspaceBuildDag (workspaceRoot : Path) (config : AspRustConfig) :
    Outcome AspRustWorkspaceBuildDag :=
  (aspRustWorkspaceBuildDagWithMetrics fromPath fs globs workspaceRoot config).map
    AspRustWorkspaceBuildDagDerivation.buildDag

end Derivation

/-! ## What the filter keeps

The root of the workspace is kept if it is a package itself.  Every other root has to
match a member entry and no exclude entry, by the compiled patterns and with its path
below the workspace. -/

section Membership

variable {fromPath : ManifestReader} {fs : FileSystem} {globs : GlobLibrary}

/-- The library accepts the patterns. -/
def Compiles (globs : GlobLibrary) (patterns : List String) : Prop :=
  (∀ pattern ∈ patterns, ∃ isMatch, globs.glob pattern = .ok isMatch) ∧
    globs.build patterns = .ok ()

/-- One of the patterns matches the path. -/
def MatchesSome (globs : GlobLibrary) (patterns : List String) (path : Path) : Prop :=
  ∃ pattern ∈ patterns, ∃ isMatch, globs.glob pattern = .ok isMatch ∧ isMatch path = true

theorem compileWorkspacePatterns_eq_ok {patterns : List String} {kind : String}
    {isMatch : Path → Bool} (h : compileWorkspacePatterns globs patterns kind = .ok isMatch) :
    Compiles globs patterns ∧
      ∀ path, isMatch path = true ↔ MatchesSome globs patterns path := by
  obtain ⟨compiled, hcompiled, hrest⟩ := Except.bind_eq_ok.mp h
  obtain ⟨_, hbuild, hpure⟩ := Except.bind_eq_ok.mp hrest
  have hmem := fun test => mem_of_mapM_eq_ok hcompiled (b := test)
  simp only [Except.mapError_eq_ok] at hmem hbuild
  refine ⟨⟨fun pattern hpattern => ?_, hbuild⟩, fun path => ?_⟩
  · obtain ⟨test, htest⟩ := exists_mapM_eq_ok.mp ⟨compiled, hcompiled⟩ pattern hpattern
    exact ⟨test, Except.mapError_eq_ok.mp htest⟩
  · rw [← Except.ok.inj hpure, List.any_eq_true]
    constructor
    · rintro ⟨test, htest, hpath⟩
      obtain ⟨pattern, hpattern, hglob⟩ := (hmem test).mp htest
      exact ⟨pattern, hpattern, test, hglob, hpath⟩
    · rintro ⟨pattern, hpattern, test, hglob, hpath⟩
      exact ⟨test, (hmem test).mpr ⟨pattern, hpattern, hglob⟩, hpath⟩

theorem exists_compileWorkspacePatterns {patterns : List String} (h : Compiles globs patterns)
    (kind : String) : ∃ isMatch, compileWorkspacePatterns globs patterns kind = .ok isMatch := by
  obtain ⟨compiled, hcompiled⟩ : ∃ compiled, patterns.mapM (fun pattern =>
      (globs.glob pattern).mapError fun error =>
        s!"invalid Cargo workspace {kind} `{pattern}`: {error}") = .ok compiled := by
    refine exists_mapM_eq_ok.mpr fun pattern hpattern => ?_
    obtain ⟨test, htest⟩ := h.1 pattern hpattern
    exact ⟨test, Except.mapError_eq_ok.mpr htest⟩
  refine ⟨fun path => compiled.any fun isMatch => isMatch path, ?_⟩
  rw [compileWorkspacePatterns, hcompiled, h.2]
  rfl

/-- A root that the membership filter of a workspace manifest keeps. -/
def Admits (globs : GlobLibrary) (manifest : Manifest) (workspace : Discovery.Workspace)
    (workspaceRoot root : Path) : Prop :=
  if root = workspaceRoot then manifest.package.isSome = true
  else ∃ relative, root = workspaceRoot ++ relative ∧
    MatchesSome globs workspace.members relative ∧
      ¬ MatchesSome globs workspace.exclude relative

theorem retainsRoot_iff {manifest : Manifest} {workspace : Discovery.Workspace}
    {members excludes : Path → Bool} {workspaceRoot root : Path}
    (hmembers : ∀ path, members path = true ↔ MatchesSome globs workspace.members path)
    (hexcludes : ∀ path, excludes path = true ↔ MatchesSome globs workspace.exclude path) :
    retainsRoot workspaceRoot manifest members excludes root = true ↔
      Admits globs manifest workspace workspaceRoot root := by
  unfold retainsRoot Admits
  split
  · exact Iff.rfl
  · cases hstrip : Path.stripPrefix? workspaceRoot root with
    | none =>
        refine (iff_of_false Bool.false_ne_true ?_)
        rintro ⟨relative, rfl, -⟩
        rw [Path.stripPrefix?_append] at hstrip
        cases hstrip
    | some relative =>
        obtain rfl := Path.stripPrefix?_eq_some_iff.mp hstrip
        simp only [Bool.and_eq_true, Bool.not_eq_true', ← Bool.not_eq_true, hmembers, hexcludes]
        constructor
        · rintro hrelative
          exact ⟨relative, rfl, hrelative⟩
        · rintro ⟨other, hother, hrelative⟩
          obtain rfl := List.append_cancel_left hother
          exact hrelative

/-- A workspace manifest that can be read, with patterns that compile. -/
structure ReadsWorkspace (fromPath : ManifestReader) (fs : FileSystem) (globs : GlobLibrary)
    (workspaceRoot : Path) (manifest : Manifest) (workspace : Discovery.Workspace) : Prop where
  read : fromPath fs (Path.join workspaceRoot "Cargo.toml") = .ok manifest
  isWorkspace : manifest.workspace = some workspace
  members : Compiles globs workspace.members
  excludes : Compiles globs workspace.exclude

/-- **The roots that are kept**: discovered ones that the filter admits, each once. -/
theorem retain_eq_ok {workspaceRoot : Path} {discoveredRoots roots : List Path}
    (h : retainCargoWorkspaceMemberRoots fromPath fs globs workspaceRoot discoveredRoots =
      .ok roots) :
    ∃ manifest workspace, ReadsWorkspace fromPath fs globs workspaceRoot manifest workspace ∧
      roots.Nodup ∧
      ∀ root, root ∈ roots ↔ root ∈ discoveredRoots.map normalizeLexicalPath ∧
        Admits globs manifest workspace (normalizeLexicalPath workspaceRoot) root := by
  obtain ⟨manifest, hmanifest, h⟩ := Except.bind_eq_ok.mp h
  obtain ⟨workspace, hworkspace, h⟩ := Except.bind_eq_ok.mp h
  obtain ⟨members, hmembers, h⟩ := Except.bind_eq_ok.mp h
  obtain ⟨excludes, hexcludes, h⟩ := Except.bind_eq_ok.mp h
  obtain ⟨hmembersCompile, hmembersMatch⟩ := compileWorkspacePatterns_eq_ok hmembers
  obtain ⟨hexcludesCompile, hexcludesMatch⟩ := compileWorkspacePatterns_eq_ok hexcludes
  have hsome : manifest.workspace = some workspace := by
    unfold requiredWorkspace at hworkspace
    cases hcase : manifest.workspace with
    | none => simp [hcase] at hworkspace
    | some other => simpa [hcase] using hworkspace
  refine ⟨manifest, workspace, ⟨Except.mapError_eq_ok.mp hmanifest, hsome, hmembersCompile,
    hexcludesCompile⟩, ?_⟩
  dsimp only at h
  split at h
  · cases h
  · obtain rfl := Except.ok.inj h
    refine ⟨OrderedMap.nodup_keys _, fun root => ?_⟩
    rw [OrderedSet.mem_ofList, List.mem_filter, retainsRoot_iff hmembersMatch hexcludesMatch]

/-- The filter keeps something where a discovered root is admitted. -/
theorem exists_retain {workspaceRoot root : Path} {discoveredRoots : List Path}
    {manifest : Manifest} {workspace : Discovery.Workspace}
    (hreads : ReadsWorkspace fromPath fs globs workspaceRoot manifest workspace)
    (hdiscovered : root ∈ discoveredRoots.map normalizeLexicalPath)
    (hadmits : Admits globs manifest workspace (normalizeLexicalPath workspaceRoot) root) :
    ∃ roots, retainCargoWorkspaceMemberRoots fromPath fs globs workspaceRoot discoveredRoots =
      .ok roots := by
  obtain ⟨members, hmembers⟩ := exists_compileWorkspacePatterns hreads.members "member"
  obtain ⟨excludes, hexcludes⟩ := exists_compileWorkspacePatterns hreads.excludes "exclude"
  have hretains := (retainsRoot_iff (compileWorkspacePatterns_eq_ok hmembers).2
    (compileWorkspacePatterns_eq_ok hexcludes).2).mpr hadmits
  have hne : (OrderedSet.ofList ((discoveredRoots.map normalizeLexicalPath).filter
      (retainsRoot (normalizeLexicalPath workspaceRoot) manifest members excludes))).keys ≠
        [] := by
    refine List.ne_nil_of_mem (a := root) ?_
    exact OrderedSet.mem_ofList.mpr (List.mem_filter.mpr ⟨hdiscovered, hretains⟩)
  have hrequired : requiredWorkspace (Path.join workspaceRoot "Cargo.toml") manifest =
      .ok workspace := by
    rw [requiredWorkspace, hreads.isWorkspace]
  refine ⟨(OrderedSet.ofList ((discoveredRoots.map normalizeLexicalPath).filter
    (retainsRoot (normalizeLexicalPath workspaceRoot) manifest members excludes))).keys, ?_⟩
  rw [retainCargoWorkspaceMemberRoots, hreads.read]
  simp only [Except.mapError, bind, Except.bind, hrequired, hmembers, hexcludes]
  exact if_neg hne

end Membership

/-! ## What is read of the packages

The facts of a package are read if its manifest is there and has a name.  Its local
dependencies are those by path in one of its tables, own or inherited from the
workspace. -/

section Packages

variable {fromPath : ManifestReader} {fs : FileSystem}

/-- The three kinds of dependencies a manifest has tables for. -/
inductive DependencyKind where
  | normal
  | development
  | build
deriving DecidableEq, Repr

/-- The tables of one kind: the package's own, then those of its target platforms. -/
def tablesOf (manifest : Manifest) : DependencyKind → List DepsSet
  | .normal => manifest.dependencies :: manifest.target.values.map TargetTable.dependencies
  | .development =>
      manifest.devDependencies :: manifest.target.values.map TargetTable.devDependencies
  | .build =>
      manifest.buildDependencies :: manifest.target.values.map TargetTable.buildDependencies

/-- The graph reads the tables of every kind. -/
theorem mem_packageTables {manifest : Manifest} {table : DepsSet} :
    table ∈ packageTables manifest ↔ ∃ kind, table ∈ tablesOf manifest kind := by
  simp only [packageTables, List.mem_append, List.mem_cons, List.not_mem_nil, or_false,
    List.mem_flatMap]
  constructor
  · rintro ((rfl | rfl | rfl) | ⟨target, htarget, rfl | rfl | rfl⟩)
    · exact ⟨.normal, List.mem_cons_self⟩
    · exact ⟨.development, List.mem_cons_self⟩
    · exact ⟨.build, List.mem_cons_self⟩
    · exact ⟨.normal, List.mem_cons_of_mem _ (List.mem_map_of_mem htarget)⟩
    · exact ⟨.development, List.mem_cons_of_mem _ (List.mem_map_of_mem htarget)⟩
    · exact ⟨.build, List.mem_cons_of_mem _ (List.mem_map_of_mem htarget)⟩
  · rintro ⟨kind, hkind⟩
    cases kind <;> rcases List.mem_cons.mp hkind with rfl | hkind
    · exact Or.inl (Or.inl rfl)
    · obtain ⟨target, htarget, rfl⟩ := List.mem_map.mp hkind
      exact Or.inr ⟨target, htarget, Or.inl rfl⟩
    · exact Or.inl (Or.inr (Or.inl rfl))
    · obtain ⟨target, htarget, rfl⟩ := List.mem_map.mp hkind
      exact Or.inr ⟨target, htarget, Or.inr (Or.inl rfl)⟩
    · exact Or.inl (Or.inr (Or.inr rfl))
    · obtain ⟨target, htarget, rfl⟩ := List.mem_map.mp hkind
      exact Or.inr ⟨target, htarget, Or.inr (Or.inr rfl)⟩

/-- A manifest of a package names a directory in a table of one kind. -/
def DependsByPath (workspaceDependencies : Option DepsSet) (workspaceRoot packageRoot : Path)
    (manifest : Manifest) (kind : DependencyKind) (dependencyRoot : Path) : Prop :=
  ∃ table ∈ tablesOf manifest kind, dependencyRoot ∈
    collectGraphDependencyRoots packageRoot workspaceRoot workspaceDependencies table

/-- **The facts of a package**: its manifest can be read and has a name, and the
dependency roots are those of all kinds. -/
theorem graphFacts_eq_ok_iff {packageRoot workspaceRoot : Path}
    {workspaceDependencies : Option DepsSet} {facts : CargoPackageGraphFacts} :
    parseRequiredCargoPackageGraphFacts fromPath fs packageRoot workspaceRoot
        workspaceDependencies = .ok facts ↔
      ∃ manifest package, fromPath fs (Path.join packageRoot "Cargo.toml") = .ok manifest ∧
        manifest.package = some package ∧ trim package.name.toList ≠ [] ∧
        facts = ⟨package.name, (OrderedSet.ofList ((packageTables manifest).flatMap
          (collectGraphDependencyRoots packageRoot workspaceRoot
            workspaceDependencies))).keys⟩ := by
  unfold parseRequiredCargoPackageGraphFacts
  dsimp only
  cases hread : fromPath fs (Path.join packageRoot "Cargo.toml") with
  | error error => simp
  | ok manifest =>
      cases hpackage : manifest.package with
      | none => simp [hpackage]
      | some package =>
          by_cases hname : trim package.name.toList = []
          · simp [hpackage, hname, Option.filter]
          · have hfilter : (manifest.package.map Package.name).filter
                (fun name => trim name.toList ≠ []) = some package.name := by
              simp [hpackage, hname, Option.filter]
            dsimp only
            rw [hfilter]
            constructor
            · intro h
              exact ⟨manifest, package, rfl, hpackage, hname, (Except.ok.inj h).symm⟩
            · rintro ⟨other, otherPackage, hsame, hother, -, rfl⟩
              obtain rfl := Except.ok.inj hsame
              obtain rfl := Option.some.inj (hpackage.symm.trans hother)
              rfl

theorem mem_localDependencyRoots {packageRoot workspaceRoot dependencyRoot : Path}
    {workspaceDependencies : Option DepsSet} {manifest : Manifest} :
    dependencyRoot ∈ (OrderedSet.ofList ((packageTables manifest).flatMap
        (collectGraphDependencyRoots packageRoot workspaceRoot workspaceDependencies))).keys ↔
      ∃ kind, DependsByPath workspaceDependencies workspaceRoot packageRoot manifest kind
        dependencyRoot := by
  simp only [OrderedSet.mem_ofList, List.mem_flatMap, mem_packageTables, DependsByPath]
  constructor
  · rintro ⟨table, ⟨kind, htable⟩, hroot⟩
    exact ⟨kind, table, htable, hroot⟩
  · rintro ⟨kind, table, htable, hroot⟩
    exact ⟨table, ⟨kind, htable⟩, hroot⟩

end Packages

/-! ## What the maps hold

With distinct names, the maps are the functions from roots to facts and from names to
roots.  The graph on names that is handed to the search for an order is then the graph
on packages. -/

section Catalog

/-- Entering packages succeeds exactly when their names are new and distinct, and then
every one of them is entered. -/
theorem foldlM_insertPackage_eq_ok_iff {packages : List (Path × CargoPackageGraphFacts)}
    {catalog result : WorkspacePackageCatalog} :
    packages.foldlM insertUniqueDependencyGraphPackage catalog = .ok result ↔
      (packages.map fun package => package.2.packageName).Nodup ∧
      (∀ package ∈ packages, package.2.packageName ∉ catalog.rootByName.keys) ∧
      result = {
        factsByRoot := OrderedMap.insertAll (fun package => normalizeLexicalPath package.1)
          Prod.snd packages catalog.factsByRoot
        rootByName := OrderedMap.insertAll (fun package => package.2.packageName)
          (fun package => normalizeLexicalPath package.1) packages catalog.rootByName } := by
  induction packages generalizing catalog with
  | nil =>
      simp only [List.foldlM_nil, List.map_nil, List.nodup_nil, List.not_mem_nil, true_and,
        OrderedMap.insertAll, List.foldl_nil]
      exact ⟨fun h => ⟨fun _ h => h.elim, (Except.ok.inj h).symm⟩, fun h => h.2 ▸ rfl⟩
  | cons head rest ih =>
      rw [List.foldlM_cons, insertUniqueDependencyGraphPackage]
      cases hget : catalog.rootByName.get? head.2.packageName with
      | some previous =>
          refine iff_of_false (by simp [bind, Except.bind]) ?_
          rintro ⟨-, hnew, -⟩
          exact hnew head List.mem_cons_self (OrderedMap.mem_keys_iff.mpr ⟨previous, hget⟩)
      | none =>
          refine ih.trans ?_
          have hhead := OrderedMap.get?_eq_none_iff.mp hget
          simp only [List.map_cons, List.nodup_cons, List.forall_mem_cons,
            OrderedMap.mem_keys_insert, not_or, List.mem_map, not_exists, not_and]
          constructor
          · rintro ⟨hnodup, hnew, rfl⟩
            exact ⟨⟨fun package hpackage => (hnew package hpackage).1, hnodup⟩,
              ⟨hhead, fun package hpackage => (hnew package hpackage).2⟩, rfl⟩
          · rintro ⟨⟨hfresh, hnodup⟩, ⟨-, hnew⟩, rfl⟩
            exact ⟨hnodup, fun package hpackage => ⟨hfresh package hpackage,
              hnew package hpackage⟩, rfl⟩

variable {packages : List (Path × CargoPackageGraphFacts)} {catalog : WorkspacePackageCatalog}

/-- Packages at distinct normalized roots. -/
structure AtRoots (packages : List (Path × CargoPackageGraphFacts)) : Prop where
  nodup : (packages.map Prod.fst).Nodup
  normalized : ∀ package ∈ packages, normalizeLexicalPath package.1 = package.1

theorem AtRoots.unique (h : AtRoots packages) {root : Path} {facts other : CargoPackageGraphFacts}
    (hfacts : (root, facts) ∈ packages) (hother : (root, other) ∈ packages) : facts = other := by
  have hinj := List.inj_on_of_nodup_map h.nodup hfacts hother rfl
  exact (Prod.mk.inj hinj).2

/-- The packages are found by their roots. -/
theorem get?_factsByRoot (hcatalog : packageCatalog packages = .ok catalog)
    (hroots : AtRoots packages) {root : Path} {facts : CargoPackageGraphFacts} :
    catalog.factsByRoot.get? root = some facts ↔ (root, facts) ∈ packages := by
  obtain ⟨-, -, rfl⟩ := foldlM_insertPackage_eq_ok_iff.mp hcatalog
  constructor
  · intro h
    rcases OrderedMap.exists_of_get?_insertAll _ _ h with hempty | ⟨package, hmem, hroot, hfacts⟩
    · cases hempty
    · rw [hroots.normalized package hmem] at hroot
      rw [← hroot, ← hfacts]
      exact hmem
  · intro hmem
    have hget := OrderedMap.get?_insertAll (fun package : Path × CargoPackageGraphFacts =>
      normalizeLexicalPath package.1) Prod.snd hmem (fun other hother hsame => by
        rw [hroots.normalized other hother, hroots.normalized _ hmem] at hsame
        obtain ⟨otherRoot, otherFacts⟩ := other
        obtain rfl : otherRoot = root := hsame
        exact hroots.unique hother hmem) ∅
    rw [hroots.normalized _ hmem] at hget
    exact hget

/-- The roots are found by the names of the packages. -/
theorem get?_rootByName (hcatalog : packageCatalog packages = .ok catalog)
    (hroots : AtRoots packages) {name : String} {root : Path} :
    catalog.rootByName.get? name = some root ↔
      ∃ facts, (root, facts) ∈ packages ∧ facts.packageName = name := by
  obtain ⟨hnames, -, rfl⟩ := foldlM_insertPackage_eq_ok_iff.mp hcatalog
  constructor
  · intro h
    rcases OrderedMap.exists_of_get?_insertAll _ _ h with hempty | ⟨package, hmem, hname, hroot⟩
    · cases hempty
    · rw [hroots.normalized package hmem] at hroot
      exact ⟨package.2, by rw [← hroot]; exact hmem, hname⟩
  · rintro ⟨facts, hmem, rfl⟩
    have hget := OrderedMap.get?_insertAll (fun package : Path × CargoPackageGraphFacts =>
      package.2.packageName) (fun package => normalizeLexicalPath package.1) hmem
      (fun other hother hsame => by
        rw [List.inj_on_of_nodup_map hnames hother hmem hsame]) ∅
    rw [hroots.normalized _ hmem] at hget
    exact hget

/-- One package names the root of another among its dependencies. -/
def GraphEdge (packages : List (Path × CargoPackageGraphFacts)) (package dependency : Path) :
    Prop :=
  ∃ facts other, (package, facts) ∈ packages ∧ (dependency, other) ∈ packages ∧
    ∃ root ∈ facts.localDependencyRoots, normalizeLexicalPath root = dependency

theorem mem_localDependencyNames {facts : CargoPackageGraphFacts}
    {factsByRoot : OrderedMap Path CargoPackageGraphFacts} {name : String} :
    name ∈ localDependencyNames facts factsByRoot ↔
      ∃ root ∈ facts.localDependencyRoots, ∃ other,
        factsByRoot.get? (normalizeLexicalPath root) = some other ∧ other.packageName = name := by
  simp [localDependencyNames, List.mem_filterMap, Option.map_eq_some_iff]

/-- The dependencies of a package are found by its name. -/
theorem get?_dependencyNamesByPackage (hcatalog : packageCatalog packages = .ok catalog)
    (hroots : AtRoots packages) {name : String} {dependencies : List String} :
    (dependencyNamesByPackage catalog.factsByRoot).get? name = some dependencies ↔
      ∃ root facts, (root, facts) ∈ packages ∧ facts.packageName = name ∧
        dependencies = localDependencyNames facts catalog.factsByRoot := by
  have hvalues : ∀ facts, facts ∈ catalog.factsByRoot.values ↔
      ∃ root, (root, facts) ∈ packages := by
    intro facts
    simp [OrderedMap.mem_values_iff, get?_factsByRoot hcatalog hroots]
  obtain ⟨hnames, -, -⟩ := foldlM_insertPackage_eq_ok_iff.mp hcatalog
  constructor
  · intro h
    rcases OrderedMap.exists_of_get?_insertAll _ _ h with hempty | ⟨facts, hmem, hname, hvalue⟩
    · cases hempty
    · obtain ⟨root, hpackage⟩ := (hvalues facts).mp hmem
      exact ⟨root, facts, hpackage, hname, hvalue.symm⟩
  · rintro ⟨root, facts, hpackage, rfl, rfl⟩
    refine OrderedMap.get?_insertAll _ _ ((hvalues facts).mpr ⟨root, hpackage⟩) ?_ ∅
    intro other hother hsame
    obtain ⟨otherRoot, hotherPackage⟩ := (hvalues other).mp hother
    have hequal := List.inj_on_of_nodup_map hnames hotherPackage hpackage hsame
    rw [(Prod.mk.inj hequal).2]

/-- Both maps have the names of the packages for keys. -/
theorem keys_rootByName (hcatalog : packageCatalog packages = .ok catalog)
    (hroots : AtRoots packages) :
    catalog.rootByName.keys = (dependencyNamesByPackage catalog.factsByRoot).keys := by
  refine OrderedMap.keys_ext fun name => ?_
  simp only [OrderedMap.mem_keys_iff, get?_rootByName hcatalog hroots,
    get?_dependencyNamesByPackage hcatalog hroots]
  constructor
  · rintro ⟨root, facts, hmem, hname⟩
    exact ⟨_, root, facts, hmem, hname, rfl⟩
  · rintro ⟨-, root, facts, hmem, hname, -⟩
    exact ⟨root, facts, hmem, hname⟩

/-- The dependencies by name are the edges between the roots. -/
theorem dependsOn_iff (hcatalog : packageCatalog packages = .ok catalog)
    (hroots : AtRoots packages) {name dependency : String} :
    DependsOn (dependencyNamesByPackage catalog.factsByRoot) name dependency ↔
      ∃ root dependencyRoot, GraphEdge packages root dependencyRoot ∧
        catalog.rootByName.get? name = some root ∧
        catalog.rootByName.get? dependency = some dependencyRoot := by
  simp only [DependsOn, get?_dependencyNamesByPackage hcatalog hroots,
    get?_rootByName hcatalog hroots]
  constructor
  · rintro ⟨-, ⟨root, facts, hmem, hname, rfl⟩, hdependency⟩
    obtain ⟨listed, hlisted, other, hother, hotherName⟩ :=
      mem_localDependencyNames.mp hdependency
    have hotherMem := (get?_factsByRoot hcatalog hroots).mp hother
    exact ⟨root, normalizeLexicalPath listed, ⟨facts, other, hmem, hotherMem, listed, hlisted,
      rfl⟩, ⟨facts, hmem, hname⟩, ⟨other, hotherMem, hotherName⟩⟩
  · rintro ⟨root, -, ⟨facts, other, hmem, hotherMem, listed, hlisted, rfl⟩,
      ⟨facts', hmem', hname⟩, ⟨other', hotherMem', hotherName⟩⟩
    obtain rfl := hroots.unique hmem hmem'
    obtain rfl := hroots.unique hotherMem hotherMem'
    refine ⟨_, ⟨root, facts, hmem, hname, rfl⟩, mem_localDependencyNames.mpr ?_⟩
    exact ⟨listed, hlisted, other, (get?_factsByRoot hcatalog hroots).mpr hotherMem, hotherName⟩

theorem closed_dependencyNames (hcatalog : packageCatalog packages = .ok catalog)
    (hroots : AtRoots packages) : Closed (dependencyNamesByPackage catalog.factsByRoot) := by
  intro name dependency hdepends
  obtain ⟨-, dependencyRoot, -, -, hdependency⟩ := (dependsOn_iff hcatalog hroots).mp hdepends
  rw [← keys_rootByName hcatalog hroots]
  exact OrderedMap.mem_keys_iff.mpr ⟨dependencyRoot, hdependency⟩

/-- A cycle of names is a cycle of roots. -/
theorem acyclic_dependencyNames (hcatalog : packageCatalog packages = .ok catalog)
    (hroots : AtRoots packages) (hacyclic : Acyclic (GraphEdge packages)) :
    Acyclic (DependsOn (dependencyNamesByPackage catalog.factsByRoot)) := by
  have hlift : ∀ {name dependency : String} {root : Path},
      Relation.TransGen (DependsOn (dependencyNamesByPackage catalog.factsByRoot)) name
        dependency → catalog.rootByName.get? name = some root →
      ∃ dependencyRoot, catalog.rootByName.get? dependency = some dependencyRoot ∧
        Relation.TransGen (GraphEdge packages) root dependencyRoot := by
    intro name dependency root hpath hroot
    induction hpath with
    | single hstep =>
        obtain ⟨start, finish, hedge, hstart, hfinish⟩ :=
          (dependsOn_iff hcatalog hroots).mp hstep
        obtain rfl := Option.some.inj (hroot.symm.trans hstart)
        exact ⟨finish, hfinish, .single hedge⟩
    | tail _ hstep ih =>
        obtain ⟨middle, hmiddle, hbefore⟩ := ih
        obtain ⟨start, finish, hedge, hstart, hfinish⟩ :=
          (dependsOn_iff hcatalog hroots).mp hstep
        obtain rfl := Option.some.inj (hmiddle.symm.trans hstart)
        exact ⟨finish, hfinish, hbefore.tail hedge⟩
  intro name hcycle
  obtain ⟨dependencies, hget, -⟩ : ∃ dependencies,
      (dependencyNamesByPackage catalog.factsByRoot).get? name = some dependencies ∧ True := by
    rcases Relation.TransGen.head'_iff.mp hcycle with ⟨next, ⟨dependencies, hget, -⟩, -⟩
    exact ⟨dependencies, hget, trivial⟩
  obtain ⟨root, facts, hmem, hname, -⟩ :=
    (get?_dependencyNamesByPackage hcatalog hroots).mp hget
  have hroot := (get?_rootByName hcatalog hroots).mpr ⟨facts, hmem, hname⟩
  obtain ⟨again, hagain, hpath⟩ := hlift hcycle hroot
  obtain rfl := Option.some.inj (hroot.symm.trans hagain)
  exact hacyclic root hpath

/-- The roots of a Build DAG are the roots of the packages it is made of. -/
theorem mem_packageRoots_iff (hcatalog : packageCatalog packages = .ok catalog)
    (hroots : AtRoots packages) {order : List String} {ordered : List BuildDagPackage}
    (hdag : IsBuildDag catalog.rootByName (dependencyNamesByPackage catalog.factsByRoot) order
      ordered) {root : Path} :
    root ∈ ordered.map BuildDagPackage.packageRoot ↔ ∃ facts, (root, facts) ∈ packages := by
  constructor
  · intro hroot
    obtain ⟨package, hpackage, rfl⟩ := List.mem_map.mp hroot
    obtain ⟨facts, hmem, -⟩ :=
      (get?_rootByName hcatalog hroots).mp (hdag.lookups package hpackage).1
    exact ⟨facts, hmem⟩
  · rintro ⟨facts, hmem⟩
    have hget := (get?_rootByName hcatalog hroots).mpr ⟨facts, hmem, rfl⟩
    have hname : facts.packageName ∈ ordered.map BuildDagPackage.packageName := by
      rw [hdag.names, hdag.perm.mem_iff, ← keys_rootByName hcatalog hroots]
      exact OrderedMap.mem_keys_iff.mpr ⟨root, hget⟩
    obtain ⟨package, hpackage, hsame⟩ := List.mem_map.mp hname
    refine List.mem_map.mpr ⟨package, hpackage, ?_⟩
    have hlookup := (hdag.lookups package hpackage).1
    rw [hsame] at hlookup
    exact Option.some.inj (hlookup.symm.trans hget)

/-- An edge between the roots of two packages goes back in the order. -/
theorem executionIndex_lt (hcatalog : packageCatalog packages = .ok catalog)
    (hroots : AtRoots packages) {order : List String} {ordered : List BuildDagPackage}
    (hdag : IsBuildDag catalog.rootByName (dependencyNamesByPackage catalog.factsByRoot) order
      ordered) {package dependency : BuildDagPackage} (hpackage : package ∈ ordered)
    (hdependency : dependency ∈ ordered)
    (hedge : GraphEdge packages package.packageRoot dependency.packageRoot) :
    dependency.executionIndex < package.executionIndex := by
  have hindex : ∀ member ∈ ordered, order.idxOf member.packageName = member.executionIndex := by
    intro member hmember
    obtain ⟨position, hposition, rfl⟩ := List.getElem_of_mem hmember
    obtain ⟨hown, hname⟩ := hdag.indices position hposition
    rw [hown, hname]
  rw [← hindex package hpackage, ← hindex dependency hdependency]
  refine hdag.dependency_first _ _ ((dependsOn_iff hcatalog hroots).mpr ?_)
  exact ⟨_, _, hedge, (hdag.lookups package hpackage).1, (hdag.lookups dependency hdependency).1⟩

/-- Ordering the packages gives a Build DAG, or reports a cycle. -/
theorem orderPackages_spec (hcatalog : packageCatalog packages = .ok catalog)
    (hroots : AtRoots packages) :
    let dependenciesByName := dependencyNamesByPackage catalog.factsByRoot
    (∃ order ordered, orderAndMaterialize catalog.rootByName.keys catalog.rootByName
        dependenciesByName = .ok (order, ordered) ∧
      IsBuildDag catalog.rootByName dependenciesByName order ordered) ∨
    (∃ name, orderAndMaterialize catalog.rootByName.keys catalog.rootByName
        dependenciesByName = .error (.returned (cycleMessage name)) ∧
      ¬ Acyclic (GraphEdge packages)) := by
  have hkeys := keys_rootByName hcatalog hroots
  have hall : ∀ name, name ∈ catalog.rootByName.keys ↔
      name ∈ (dependencyNamesByPackage catalog.factsByRoot).keys := by
    intro name
    rw [hkeys]
  rcases orderAndMaterialize_spec (closed_dependencyNames hcatalog hroots) hkeys hall with
    ⟨order, ordered, hok, hdag, -⟩ | ⟨name, herror, hcycle⟩
  · exact Or.inl ⟨order, ordered, hok, hdag⟩
  · refine Or.inr ⟨name, herror, fun hacyclic => ?_⟩
    exact acyclic_dependencyNames hcatalog hroots hacyclic name hcycle

end Catalog

/-! ## A derived graph

The stages put together: which packages a derived graph has, that it is a Build DAG, and
that a derivation succeeds where each of its stages does. -/

section Derived

variable {fromPath : ManifestReader} {fs : FileSystem} {globs : GlobLibrary}
variable {workspaceRoot : Path} {config : AspRustConfig}

/-- The roots discovery finds with the names a configuration ignores. -/
def discoveredRoots (fromPath : ManifestReader) (fs : FileSystem) (workspaceRoot : Path)
    (config : AspRustConfig) : List Path :=
  discoverCargoPackageRoots fromPath fs workspaceRoot config.ignoredDirNames
    config.includeHiddenDirNames

/-- The facts the graph reads of a package of a workspace. -/
def packageFacts (fromPath : ManifestReader) (fs : FileSystem) (workspaceRoot : Path)
    (workspace : Discovery.Workspace) (packageRoot : Path) :
    Except String CargoPackageGraphFacts :=
  parseRequiredCargoPackageGraphFacts fromPath fs packageRoot workspaceRoot
    (some workspace.dependencies)

/-- Discovered roots are normalized, so normalizing them again changes nothing. -/
theorem mem_map_normalize_discoveredRoots
    (hnormalized : normalizeLexicalPath workspaceRoot = workspaceRoot) {root : Path} :
    root ∈ (discoveredRoots fromPath fs workspaceRoot config).map normalizeLexicalPath ↔
      root ∈ discoveredRoots fromPath fs workspaceRoot config := by
  have hfixed : ∀ other ∈ discoveredRoots fromPath fs workspaceRoot config,
      normalizeLexicalPath other = other := fun other hother =>
    normalized_of_mem_discoverCargoPackageRoots fs _ _ workspaceRoot fromPath hnormalized hother
  constructor
  · intro hroot
    obtain ⟨other, hother, rfl⟩ := List.mem_map.mp hroot
    rw [hfixed other hother]
    exact hother
  · intro hroot
    exact List.mem_map.mpr ⟨root, hroot, hfixed root hroot⟩

/-- Results paired with what they were computed from come in its order. -/
theorem map_fst_of_mapM_eq_ok {α β ε : Type} {f : α → Except ε β} {list : List α}
    {results : List (α × β)} (h : list.mapM (fun a => (f a).map (a, ·)) = .ok results) :
    results.map Prod.fst = list := by
  have hpaired : ∀ a ∈ list, ∀ b, (f a).map (a, ·) = .ok b → b.1 = id a := by
    intro a _ b hb
    obtain ⟨value, -, rfl⟩ := Except.map_eq_ok.mp hb
    rfl
  rw [map_of_mapM_eq_ok hpaired h, List.map_id]

/-- **The packages of the graph** are the discovered roots that the filter admits, with
what their manifests say. -/
theorem dependencyGraphPackages_eq_ok
    (hnormalized : normalizeLexicalPath workspaceRoot = workspaceRoot)
    {packages : List (Path × CargoPackageGraphFacts)}
    (h : dependencyGraphPackages fromPath fs globs workspaceRoot config = .ok packages) :
    ∃ manifest workspace, ReadsWorkspace fromPath fs globs workspaceRoot manifest workspace ∧
      AtRoots packages ∧
      (∀ root facts, (root, facts) ∈ packages ↔
        (root ∈ discoveredRoots fromPath fs workspaceRoot config ∧
          Admits globs manifest workspace workspaceRoot root) ∧
        packageFacts fromPath fs workspaceRoot workspace root = .ok facts) ∧
      ∀ root ∈ discoveredRoots fromPath fs workspaceRoot config,
        Admits globs manifest workspace workspaceRoot root →
          ∃ facts, packageFacts fromPath fs workspaceRoot workspace root = .ok facts := by
  unfold dependencyGraphPackages at h
  dsimp only at h
  split at h
  · cases h
  · obtain ⟨packageRoots, hretain, hfacts⟩ := Except.bind_eq_ok.mp h
    obtain ⟨manifest, workspace, hreads, hnodup, hmem⟩ := retain_eq_ok hretain
    rw [parseRequiredCargoWorkspacePackageGraphFacts, hreads.read] at hfacts
    dsimp only at hfacts
    rw [hreads.isWorkspace] at hfacts
    have hfst := map_fst_of_mapM_eq_ok hfacts
    have hroots : ∀ root, root ∈ packageRoots ↔
        root ∈ discoveredRoots fromPath fs workspaceRoot config ∧
          Admits globs manifest workspace workspaceRoot root := by
      intro root
      rw [hmem root, hnormalized]
      exact and_congr_left fun _ => mem_map_normalize_discoveredRoots hnormalized
    refine ⟨manifest, workspace, hreads, ⟨by rw [hfst]; exact hnodup, fun package hpackage => ?_⟩,
      fun root facts => ?_, fun root hdiscovered hadmits => ?_⟩
    · have hroot : package.1 ∈ packageRoots := hfst ▸ List.mem_map_of_mem hpackage
      exact normalized_of_mem_discoverCargoPackageRoots fs _ _ workspaceRoot fromPath hnormalized
        ((hroots package.1).mp hroot).1
    · rw [mem_of_mapM_eq_ok hfacts, ← hroots root]
      constructor
      · rintro ⟨other, hother, hpair⟩
        obtain ⟨value, hvalue, hsame⟩ := Except.map_eq_ok.mp hpair
        obtain ⟨rfl, rfl⟩ := Prod.mk.inj hsame
        exact ⟨hother, hvalue⟩
      · rintro ⟨hroot, hvalue⟩
        exact ⟨root, hroot, Except.map_eq_ok.mpr ⟨facts, hvalue, rfl⟩⟩
    · obtain ⟨pair, hpair⟩ := exists_mapM_eq_ok.mp ⟨packages, hfacts⟩ root
        ((hroots root).mpr ⟨hdiscovered, hadmits⟩)
      obtain ⟨facts, hvalue, -⟩ := Except.map_eq_ok.mp hpair
      exact ⟨facts, hvalue⟩

/-- The packages can be read where the workspace manifest can, something is admitted, and
every admitted package has a manifest with a name. -/
theorem exists_dependencyGraphPackages
    (hnormalized : normalizeLexicalPath workspaceRoot = workspaceRoot)
    {manifest : Manifest} {workspace : Discovery.Workspace}
    (hreads : ReadsWorkspace fromPath fs globs workspaceRoot manifest workspace)
    (hsome : ∃ root ∈ discoveredRoots fromPath fs workspaceRoot config,
      Admits globs manifest workspace workspaceRoot root)
    (hfacts : ∀ root ∈ discoveredRoots fromPath fs workspaceRoot config,
      Admits globs manifest workspace workspaceRoot root →
        ∃ facts, packageFacts fromPath fs workspaceRoot workspace root = .ok facts) :
    ∃ packages, dependencyGraphPackages fromPath fs globs workspaceRoot config =
      .ok packages := by
  obtain ⟨root, hroot, hadmits⟩ := hsome
  obtain ⟨packageRoots, hretain⟩ := exists_retain hreads
    ((mem_map_normalize_discoveredRoots hnormalized).mpr hroot)
    (by rw [hnormalized]; exact hadmits)
  obtain ⟨manifest', workspace', hreads', -, hmem⟩ := retain_eq_ok hretain
  obtain rfl := Except.ok.inj (hreads.read.symm.trans hreads'.read)
  obtain rfl := Option.some.inj (hreads.isWorkspace.symm.trans hreads'.isWorkspace)
  have hne : discoveredRoots fromPath fs workspaceRoot config ≠ [] := List.ne_nil_of_mem hroot
  obtain ⟨packages, hpackages⟩ : ∃ packages, packageRoots.mapM (fun packageRoot =>
      (packageFacts fromPath fs workspaceRoot workspace packageRoot).map (packageRoot, ·)) =
        .ok packages := by
    refine exists_mapM_eq_ok.mpr fun packageRoot hpackageRoot => ?_
    obtain ⟨hdiscovered, hadmitted⟩ := (hmem packageRoot).mp hpackageRoot
    rw [hnormalized] at hadmitted
    obtain ⟨facts, hread⟩ := hfacts packageRoot
      ((mem_map_normalize_discoveredRoots hnormalized).mp hdiscovered) hadmitted
    exact ⟨(packageRoot, facts), Except.map_eq_ok.mpr ⟨facts, hread, rfl⟩⟩
  refine ⟨packages, ?_⟩
  rw [dependencyGraphPackages]
  refine (if_neg hne).trans ?_
  rw [discoveredRoots] at hretain
  rw [hretain]
  simp only [bind, Except.bind, parseRequiredCargoWorkspacePackageGraphFacts, hreads.read,
    hreads.isWorkspace]
  exact hpackages

/-- **The packages of a derived graph** are the packages it was derived from. -/
theorem mem_packageRoots_of_derivation {derivation : AspRustWorkspaceBuildDagDerivation}
    (h : aspRustWorkspaceBuildDagWithMetrics fromPath fs globs workspaceRoot config =
      .ok derivation) :
    ∃ packages, dependencyGraphPackages fromPath fs globs (normalizeLexicalPath workspaceRoot)
        config = .ok packages ∧
      ∀ root, root ∈ derivation.buildDag.packages.map BuildDagPackage.packageRoot ↔
        ∃ facts, (root, facts) ∈ packages := by
  obtain ⟨packages, hpackages, h⟩ := Except.bind_eq_ok.mp h
  obtain ⟨catalog, hcatalog, h⟩ := Except.bind_eq_ok.mp h
  obtain ⟨⟨order, ordered⟩, hrun, h⟩ := Except.bind_eq_ok.mp h
  rw [Except.mapError_eq_ok] at hpackages hcatalog
  obtain ⟨-, -, -, hroots, -⟩ :=
    dependencyGraphPackages_eq_ok (normalizeLexicalPath_idem workspaceRoot) hpackages
  refine ⟨packages, hpackages, fun root => ?_⟩
  rcases orderPackages_spec hcatalog hroots with
    ⟨order', ordered', hok, hdag⟩ | ⟨name, herror, -⟩
  · obtain ⟨rfl, rfl⟩ := Prod.mk.inj (Except.ok.inj (hrun.symm.trans hok))
    rw [← Except.ok.inj h]
    exact mem_packageRoots_iff hcatalog hroots hdag
  · cases herror.symm.trans hrun

/-- **The packages of a derived graph** are a Build DAG. -/
theorem isBuildDag_of_derivation {buildDag : AspRustWorkspaceBuildDag}
    (h : aspRustWorkspaceBuildDag fromPath fs globs workspaceRoot config = .ok buildDag) :
    ∃ rootByName dependenciesByName order,
      IsBuildDag rootByName dependenciesByName order buildDag.packages := by
  obtain ⟨derivation, hderivation, rfl⟩ := Except.map_eq_ok.mp h
  obtain ⟨packages, hpackages, h⟩ := Except.bind_eq_ok.mp hderivation
  obtain ⟨catalog, hcatalog, h⟩ := Except.bind_eq_ok.mp h
  obtain ⟨⟨order, ordered⟩, hrun, h⟩ := Except.bind_eq_ok.mp h
  rw [Except.mapError_eq_ok] at hpackages hcatalog
  obtain ⟨-, -, -, hroots, -⟩ :=
    dependencyGraphPackages_eq_ok (normalizeLexicalPath_idem workspaceRoot) hpackages
  rcases orderPackages_spec hcatalog hroots with
    ⟨order', ordered', hok, hdag⟩ | ⟨name, herror, -⟩
  · obtain ⟨rfl, rfl⟩ := Prod.mk.inj (Except.ok.inj (hrun.symm.trans hok))
    rw [← Except.ok.inj h]
    exact ⟨_, _, _, hdag⟩
  · cases herror.symm.trans hrun

/-- **A derivation succeeds** where the packages can be read, have distinct names and no
cycle of dependencies, and then it orders them by their dependencies. -/
theorem exists_derivation {packages : List (Path × CargoPackageGraphFacts)}
    (hpackages : dependencyGraphPackages fromPath fs globs (normalizeLexicalPath workspaceRoot)
      config = .ok packages)
    (hnames : (packages.map fun package => package.2.packageName).Nodup)
    (hacyclic : Acyclic (GraphEdge packages)) :
    ∃ derivation, aspRustWorkspaceBuildDagWithMetrics fromPath fs globs workspaceRoot config =
        .ok derivation ∧
      (∀ root, root ∈ derivation.buildDag.packages.map BuildDagPackage.packageRoot ↔
        ∃ facts, (root, facts) ∈ packages) ∧
      ∀ package ∈ derivation.buildDag.packages, ∀ dependency ∈ derivation.buildDag.packages,
        GraphEdge packages package.packageRoot dependency.packageRoot →
          dependency.executionIndex < package.executionIndex := by
  obtain ⟨-, -, -, hroots, -⟩ :=
    dependencyGraphPackages_eq_ok (normalizeLexicalPath_idem workspaceRoot) hpackages
  obtain ⟨catalog, hcatalog⟩ : ∃ catalog, packageCatalog packages = .ok catalog :=
    ⟨_, foldlM_insertPackage_eq_ok_iff.mpr ⟨hnames, fun _ _ => by simp, rfl⟩⟩
  rcases orderPackages_spec hcatalog hroots with
    ⟨order, ordered, hok, hdag⟩ | ⟨name, -, hcycle⟩
  · obtain ⟨metrics, hderivation⟩ : ∃ metrics,
        aspRustWorkspaceBuildDagWithMetrics fromPath fs globs workspaceRoot config =
          .ok ⟨⟨workspaceBuildDagSchemaId, workspaceBuildDagSchemaVersion,
            normalizeLexicalPath workspaceRoot, ordered⟩, metrics⟩ := by
      simp only [aspRustWorkspaceBuildDagWithMetrics, hpackages, hcatalog, hok, Except.mapError,
        bind, Except.bind]
      exact ⟨_, rfl⟩
    exact ⟨_, hderivation, fun root => mem_packageRoots_iff hcatalog hroots hdag,
      fun package hpackage dependency hdependency hedge =>
        executionIndex_lt hcatalog hroots hdag hpackage hdependency hedge⟩
  · exact absurd hacyclic hcycle

end Derived

end AspRust.Workspace
