import AspRust.Discovery.Walk

/-!
# Cargo manifest facts

`Manifest` is the part of a completed Cargo manifest that the harness reads.
Reading one is the work of a manifest library, which looks at the manifest file,
at the workspace manifest it inherits from and at the layout of the package; it
is a parameter here, `ManifestReader`, a function of the file system and the
manifest path.

`cargoManifestFacts` is what the harness makes of a manifest.  It looks at the
file system itself where a target has no path: it then takes the first
conventional path that is a file.

### Design notes

`Manifest` is what the library returns after it has completed the manifest: inherited fields
are filled in, and targets that were found in the layout of the package are listed.  How the
library does this is not in the repository, and nothing is assumed of it.  In particular two
states with one manifest file can have two manifests.

The facts keep the target files in the order in which they are found, sorted and without
repetitions only where the source sorts them.
-/

namespace AspRust.Discovery

open AspRust.Foundation

/-- What is read of a dependency: its renamed package, its path, whether it is
optional, the version it requests and its features.  One that is still left to the
workspace manifest is `inherited`, and has neither a package nor a path nor a version of
its own. -/
structure Dependency where
  package : Option String := none
  path : Option String := none
  optional : Bool := false
  inherited : Bool := false
  versionReq : Option String := none
  features : List String := []
deriving DecidableEq, Repr

/-- A dependency table, by dependency key. -/
abbrev DepsSet := OrderedMap String Dependency

/-- A build target of a manifest. -/
structure Product where
  name : Option String := none
  path : Option String := none
  requiredFeatures : List String := []
  harness : Bool := true
deriving DecidableEq, Repr

/-- The dependency tables of one target platform. -/
structure TargetTable where
  dependencies : DepsSet := ∅
  devDependencies : DepsSet := ∅
  buildDependencies : DepsSet := ∅
deriving DecidableEq

/-- The package section. -/
structure Package where
  name : String
  edition : String
deriving DecidableEq, Repr

/-- The workspace section. -/
structure Workspace where
  members : List String := []
  exclude : List String := []
  dependencies : DepsSet := ∅
deriving DecidableEq

/-- A Cargo manifest, completed from its workspace and its package layout. -/
structure Manifest where
  package : Option Package := none
  workspace : Option Workspace := none
  lib : Option Product := none
  bin : List Product := []
  test : List Product := []
  example_ : List Product := []
  bench : List Product := []
  dependencies : DepsSet := ∅
  devDependencies : DepsSet := ∅
  buildDependencies : DepsSet := ∅
  target : OrderedMap String TargetTable := ∅
deriving DecidableEq

/-- Reading a manifest from a path, with completion. -/
abbrev ManifestReader := FileSystem → Path → Except String Manifest

/-- A named target with its file. -/
structure CargoExampleTargetFacts where
  name : String
  path : Path
  requiredFeatures : List String
deriving DecidableEq, Repr

/-- A benchmark target with its file. -/
structure CargoBenchTargetFacts where
  name : String
  path : Path
  harness : Bool
  requiredFeatures : List String
deriving DecidableEq, Repr

/-- What the harness keeps of a manifest. -/
structure CargoManifestFacts where
  hasPackage : Bool := false
  isAspRustPackage : Bool := false
  isBuildSupportPackage : Bool := false
  packageEdition : Option String := none
  workspaceMembers : List String := []
  workspaceExcludes : List String := []
  pathDependencyRoots : List Path := []
  sourceTargetFiles : List Path := []
  exampleTargets : List CargoExampleTargetFacts := []
  testTargetFiles : List Path := []
  benchTargets : List CargoBenchTargetFacts := []
  referencesHarnessDevDependency : Bool := false
  referencesHarnessNonOptionalNormalDependency : Bool := false
  referencesHarnessBuildDependency : Bool := false
deriving DecidableEq, Repr

/-- A text that is not blank, without white space at its ends. -/
def trimmedNonempty? (text : Option String) : Option String :=
  (text.map fun text => String.ofList (trim text.toList)).filter (· ≠ "")

/-! ## Target files -/

/-- The kind of a target, which decides where its file is looked for. -/
inductive TargetKind where
  | library
  | binary
  | test
  | example_
  | bench
deriving DecidableEq, Repr

section Targets

variable (fs : FileSystem) (projectRoot : Path)

/-- The conventional paths of a target that is not a library, by its name. -/
def implicitProductCandidates (kind : TargetKind) (packageTargetName : Option String)
    (name : String) : List String :=
  let suite (directory : String) := [directory ++ "/" ++ name ++ ".rs",
    directory ++ "/" ++ name ++ "/main.rs"]
  match kind with
  | .library => []
  | .binary =>
      (if packageTargetName = some name then ["src/main.rs"] else []) ++ suite "src/bin"
  | .test => suite "tests"
  | .example_ => suite "examples"
  | .bench => suite "benches"

/-- The path of a target without one: the first conventional path that is a
file. -/
def implicitProductPath (target : Product) (kind : TargetKind) (packageName : Option String) :
    Option Path :=
  let packageTargetName := packageName.map fun name =>
    String.ofList (replaceChar '-' '_' name.toList)
  match kind with
  | .library =>
      let path := Path.join projectRoot "src/lib.rs"
      if fs.isFile path then some path else none
  | _ => do
      let name ← (trimmedNonempty? target.name).or
        (if kind = .binary then packageTargetName else none)
      ((implicitProductCandidates kind packageTargetName name).map
        (Path.join projectRoot)).find? fs.isFile

/-- The path of a target: the one it declares, or the implicit one. -/
def completedProductPath (target : Product) (kind : TargetKind) (packageName : Option String) :
    Option Path :=
  ((trimmedNonempty? target.path).map (Path.join projectRoot)).or
    (implicitProductPath fs projectRoot target kind packageName)

def manifestProductTargetFiles (targets : List Product) (kind : TargetKind)
    (packageName : Option String) : List Path :=
  targets.filterMap fun target => completedProductPath fs projectRoot target kind packageName

def manifestSourceTargetFiles (manifest : Manifest) : List Path :=
  let packageName := manifest.package.map Package.name
  manifestProductTargetFiles fs projectRoot manifest.lib.toList .library packageName ++
    manifestProductTargetFiles fs projectRoot manifest.bin .binary packageName

def manifestTestTargetFiles (targets : List Product) : List Path :=
  manifestProductTargetFiles fs projectRoot targets .test none

/-- Sorted, with equal neighbours merged. -/
def sortDedup (features : List String) : List String := (features.insertionSort (· ≤ ·)).dedup

def manifestExampleTargets (targets : List Product) : List CargoExampleTargetFacts :=
  targets.filterMap fun target => do
    let name ← trimmedNonempty? target.name
    let path ← completedProductPath fs projectRoot target .example_ none
    return ⟨name, path, sortDedup target.requiredFeatures⟩

def manifestBenchTargets (targets : List Product) : List CargoBenchTargetFacts :=
  targets.filterMap fun target => do
    let name ← trimmedNonempty? target.name
    let path ← completedProductPath fs projectRoot target .bench none
    return ⟨name, path, target.harness, sortDedup target.requiredFeatures⟩

end Targets

/-! ## Dependencies -/

/-- All dependency tables of a manifest, the workspace's own first. -/
def Manifest.dependencyTables (manifest : Manifest) : List DepsSet :=
  (manifest.workspace.toList.map Workspace.dependencies) ++
    [manifest.dependencies, manifest.devDependencies, manifest.buildDependencies] ++
    manifest.target.values.flatMap fun table =>
      [table.dependencies, table.devDependencies, table.buildDependencies]

/-- The roots that path dependencies name, relative ones below the package. -/
def manifestPathDependencyRoots (projectRoot : Path) (manifest : Manifest) : List Path :=
  (OrderedSet.ofList (manifest.dependencyTables.flatMap fun table =>
    table.values.filterMap fun dependency =>
      dependency.path.map (Path.join projectRoot))).keys

def dependencyReferencesFullHarness (name : String) (dependency : Dependency) : Bool :=
  name = "asp-rust" || dependency.package = some "asp-rust"

def dependencyTableReferencesFullHarness (table : DepsSet) : Bool :=
  table.entries.any fun entry => dependencyReferencesFullHarness entry.1 entry.2

def dependencyTableReferencesNonOptionalHarness (table : DepsSet) : Bool :=
  table.entries.any fun entry =>
    dependencyReferencesFullHarness entry.1 entry.2 && !entry.2.optional

/-- A test on one family of tables, of the package and of every platform. -/
def anyTable (test : DepsSet → Bool) (own : DepsSet) (ofTarget : TargetTable → DepsSet)
    (manifest : Manifest) : Bool :=
  test own || manifest.target.values.any fun table => test (ofTarget table)

/-- The facts of a manifest at a package root. -/
def cargoManifestFacts (fs : FileSystem) (projectRoot : Path) (manifest : Manifest) :
    CargoManifestFacts where
  hasPackage := (manifest.package.map Package.name).any fun name => trim name.toList ≠ []
  isAspRustPackage := manifest.package.map Package.name = some "asp-rust"
  isBuildSupportPackage := (manifest.package.map Package.name).any fun name =>
    containsSlice "build-support".toList name.toList
  packageEdition := manifest.package.map Package.edition
  workspaceMembers := (manifest.workspace.map Workspace.members).getD []
  workspaceExcludes := (manifest.workspace.map Workspace.exclude).getD []
  pathDependencyRoots := manifestPathDependencyRoots projectRoot manifest
  sourceTargetFiles := manifestSourceTargetFiles fs projectRoot manifest
  exampleTargets := manifestExampleTargets fs projectRoot manifest.example_
  testTargetFiles := manifestTestTargetFiles fs projectRoot manifest.test
  benchTargets := manifestBenchTargets fs projectRoot manifest.bench
  referencesHarnessDevDependency := anyTable dependencyTableReferencesFullHarness
    manifest.devDependencies TargetTable.devDependencies manifest
  referencesHarnessNonOptionalNormalDependency :=
    anyTable dependencyTableReferencesNonOptionalHarness
      manifest.dependencies TargetTable.dependencies manifest
  referencesHarnessBuildDependency := anyTable dependencyTableReferencesFullHarness
    manifest.buildDependencies TargetTable.buildDependencies manifest

section Reading

variable (fromPath : ManifestReader) (fs : FileSystem)

/-- The facts of the package at a root; a manifest that cannot be read has the
default facts. -/
def parseCargoManifest (projectRoot : Path) : CargoManifestFacts :=
  match fromPath fs (Path.join projectRoot "Cargo.toml") with
  | .error _ => {}
  | .ok manifest => cargoManifestFacts fs projectRoot manifest

/-- The facts of the package a run is anchored at, which must have a readable
manifest. -/
def parseRequiredCargoManifest (projectRoot : Path) : Except String CargoManifestFacts :=
  let manifestPath := Path.join projectRoot "Cargo.toml"
  match fromPath fs manifestPath with
  | .error error =>
      .error ("parse Cargo package graph anchor " ++ manifestPath.display ++ ": " ++ error)
  | .ok manifest => .ok (cargoManifestFacts fs projectRoot manifest)

variable {fromPath fs}

/-- A readable manifest has the same facts for both readings. -/
theorem parseCargoManifest_of_required {projectRoot : Path} {manifest : CargoManifestFacts}
    (h : parseRequiredCargoManifest fromPath fs projectRoot = .ok manifest) :
    parseCargoManifest fromPath fs projectRoot = manifest := by
  unfold parseRequiredCargoManifest at h
  dsimp only at h
  unfold parseCargoManifest
  cases hread : fromPath fs (Path.join projectRoot "Cargo.toml") with
  | error error =>
      rw [hread] at h
      cases h
  | ok read =>
      rw [hread] at h
      exact Except.ok.inj h

/-- The facts of a package come from a readable manifest. -/
theorem parseRequiredCargoManifest_of_hasPackage {projectRoot : Path}
    (h : (parseCargoManifest fromPath fs projectRoot).hasPackage = true) :
    parseRequiredCargoManifest fromPath fs projectRoot =
      .ok (parseCargoManifest fromPath fs projectRoot) := by
  unfold parseCargoManifest at h ⊢
  unfold parseRequiredCargoManifest
  dsimp only
  cases hread : fromPath fs (Path.join projectRoot "Cargo.toml") with
  | error error =>
      rw [hread] at h
      cases h
  | ok manifest => rfl

end Reading

end AspRust.Discovery
