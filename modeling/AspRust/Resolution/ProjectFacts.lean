import AspRust.Discovery.Membership
import Mathlib.Order.Lattice

/-!
# Cargo facts for project resolution

The provider resolves a project from a list of candidate paths and from the manifests
at their places.  It works on paths as it was given them, so a place is a `Location`:
an absolute path, or a path relative to the directory of the process, which is what a
request names as its base.

Reading a manifest and completing it from the candidates and the workspace manifest is
the work of a manifest library; together with the digests of files it is the `CargoHost`
that the resolution is given.

### Design notes

A `Location` keeps its components as they are written, behind a mark for whether it is
absolute.  Two locations can be one place without being equal; the resolution compares them
as they are, after normalizing the part below the workspace.

The facts of a dependency are those of its declaration, with the name that a rename hides and
the kind of the table it stands in.  Declarations of one dependency in two tables are two
facts.
-/

namespace AspRust.Resolution

open AspRust.Foundation AspRust.Discovery

/-! ## Places -/

/-- A path that is absolute, or relative to the directory of the process. -/
structure Location where
  absolute : Bool
  components : Path
deriving DecidableEq, Repr

namespace Location

/-- Absolute paths come before relative ones; then the components decide. -/
def rank (location : Location) : Bool ×ₗ Path := toLex (!location.absolute, location.components)

theorem rank_injective : Function.Injective rank := by
  rintro ⟨absolute, components⟩ ⟨absolute', components'⟩ h
  have hpair := toLex.injective h
  simpa [Prod.ext_iff] using hpair

instance : LinearOrder Location := LinearOrder.lift' rank rank_injective

/-- A relative path below a place. -/
def append (base : Location) (relative : Path) : Location :=
  ⟨base.absolute, base.components ++ relative⟩

/-- Join a text to a place; an absolute text replaces it. -/
def join (base : Location) (text : String) : Location :=
  if Path.isAbsolute text then ⟨true, Path.parse text⟩ else base.append (Path.parse text)

/-- What remains of a place below another one. -/
def stripPrefix? (base location : Location) : Option Path :=
  if base.absolute = location.absolute then
    Path.stripPrefix? base.components location.components
  else none

/-- The text of a place. -/
def display (location : Location) : String :=
  if location.absolute then location.components.display else location.components.text

theorem stripPrefix?_eq_some_iff {base location : Location} {relative : Path} :
    stripPrefix? base location = some relative ↔ location = base.append relative := by
  obtain ⟨absolute, components⟩ := location
  unfold stripPrefix? append
  by_cases habsolute : base.absolute = absolute
  · rw [if_pos habsolute, Path.stripPrefix?_eq_some_iff]
    simp [habsolute]
  · rw [if_neg habsolute]
    simp [Ne.symm habsolute]

@[simp] theorem stripPrefix?_append (base : Location) (relative : Path) :
    stripPrefix? base (base.append relative) = some relative :=
  stripPrefix?_eq_some_iff.mpr rfl

@[simp] theorem append_inj {base : Location} {first second : Path} :
    base.append first = base.append second ↔ first = second := by
  simp [append]

end Location

/-- A place as it is named from the workspace; one outside keeps its path. -/
def relativeTo (workspace location : Location) : Location :=
  match Location.stripPrefix? workspace location with
  | some relative => ⟨false, relative⟩
  | none => location

/-! ## Dependencies -/

/-- The table a dependency is declared in. -/
inductive CargoDependencyKind where
  | normal
  | dev
  | build
deriving DecidableEq, Repr

namespace CargoDependencyKind

/-- The order of declaration, in which facts are sorted. -/
def rank : CargoDependencyKind → ℕ
  | .normal => 0
  | .dev => 1
  | .build => 2

theorem rank_injective : Function.Injective rank := by
  intro first second h
  cases first <;> cases second <;> simp_all [rank]

instance : LinearOrder CargoDependencyKind := LinearOrder.lift' rank rank_injective

end CargoDependencyKind

/-- The name of a kind in the result. -/
def dependencyKind : CargoDependencyKind → String
  | .normal => "normal"
  | .dev => "dev"
  | .build => "build"

/-- What is kept of a declared dependency. -/
structure CargoDependencyFacts where
  dependencyKey : String
  importName : String
  packageName : String
  versionReq : Option String
  kind : CargoDependencyKind
  target : Option String
  optional : Bool
  features : List String
deriving DecidableEq, Repr

namespace CargoDependencyFacts

/-- Facts are compared field by field; nothing comes before something. -/
def rank (facts : CargoDependencyFacts) :
    String ×ₗ String ×ₗ String ×ₗ WithBot String ×ₗ CargoDependencyKind ×ₗ WithBot String ×ₗ
      Bool ×ₗ List String :=
  toLex (facts.dependencyKey, toLex (facts.importName, toLex (facts.packageName,
    toLex (facts.versionReq, toLex (facts.kind, toLex (facts.target,
      toLex (facts.optional, facts.features)))))))

theorem rank_injective : Function.Injective rank := by
  rintro ⟨key, name, package, version, kind, target, optional, features⟩
    ⟨key', name', package', version', kind', target', optional', features'⟩ h
  simp only [rank, toLex.injective.eq_iff, Prod.mk.injEq] at h
  obtain ⟨rfl, rfl, rfl, rfl, rfl, rfl, rfl, rfl⟩ := h
  rfl

instance : LinearOrder CargoDependencyFacts := LinearOrder.lift' rank rank_injective

end CargoDependencyFacts

/-- A platform expression without its white space. -/
def compactCfgExpression (expression : String) : String :=
  String.ofList (expression.toList.filter fun c => !isWhitespace c)

/-- The facts of one declared dependency. -/
def dependencyFact (name : String) (dependency : Dependency) (kind : CargoDependencyKind)
    (target : Option String) : CargoDependencyFacts where
  dependencyKey := name
  importName := String.ofList (replaceChar '-' '_' name.toList)
  packageName := dependency.package.getD name
  versionReq := dependency.versionReq
  kind := kind
  target := target.map compactCfgExpression
  optional := dependency.optional
  features := sortDedup dependency.features

/-- A dependency as a manifest declares it: its table, its key and what stands there. -/
structure Declaration where
  kind : CargoDependencyKind
  target : Option String
  name : String
  dependency : Dependency
deriving DecidableEq, Repr

/-- The facts of a declaration. -/
def Declaration.fact (declaration : Declaration) : CargoDependencyFacts :=
  dependencyFact declaration.name declaration.dependency declaration.kind declaration.target

/-- The declarations of one table. -/
def tableDeclarations (kind : CargoDependencyKind) (target : Option String) (table : DepsSet) :
    List Declaration :=
  table.entries.map fun entry => ⟨kind, target, entry.1, entry.2⟩

/-- The declarations of a manifest: the package's tables, then those of each platform.
The table of a workspace declares no dependency of the package. -/
def manifestDeclarations (manifest : Manifest) : List Declaration :=
  tableDeclarations .normal none manifest.dependencies ++
    tableDeclarations .dev none manifest.devDependencies ++
    tableDeclarations .build none manifest.buildDependencies ++
    manifest.target.entries.flatMap fun entry =>
      tableDeclarations .normal (some entry.1) entry.2.dependencies ++
        tableDeclarations .dev (some entry.1) entry.2.devDependencies ++
        tableDeclarations .build (some entry.1) entry.2.buildDependencies

/-- The facts of a manifest, sorted, with equal ones merged. -/
def cargoDependencyFactsFromManifest (manifest : Manifest) : List CargoDependencyFacts :=
  (OrderedSet.ofList ((manifestDeclarations manifest).map Declaration.fact)).keys

theorem mem_cargoDependencyFactsFromManifest {manifest : Manifest}
    {facts : CargoDependencyFacts} :
    facts ∈ cargoDependencyFactsFromManifest manifest ↔
      ∃ declaration ∈ manifestDeclarations manifest, declaration.fact = facts := by
  rw [cargoDependencyFactsFromManifest, OrderedSet.mem_ofList, List.mem_map]

/-! ## Manifests at their places -/

/-- The name of a target kind in the result. -/
def targetKindText : TargetKind → String
  | .library => "library"
  | .binary => "binary"
  | .test => "test"
  | .example_ => "example"
  | .bench => "bench"

/-- A target with its entry file. -/
structure CargoPackageTargetFacts where
  name : String
  kind : TargetKind
  path : Location
deriving DecidableEq, Repr

namespace CargoPackageTargetFacts

/-- Targets are compared by name, by the text of their kind and by path. -/
def rank (facts : CargoPackageTargetFacts) : String ×ₗ String ×ₗ Location :=
  toLex (facts.name, toLex (targetKindText facts.kind, facts.path))

theorem rank_injective : Function.Injective rank := by
  rintro ⟨name, kind, path⟩ ⟨name', kind', path'⟩ h
  simp only [rank, toLex.injective.eq_iff, Prod.mk.injEq] at h
  obtain ⟨rfl, hkind, rfl⟩ := h
  have hsame : kind = kind' := by
    cases kind <;> cases kind' <;> simp_all [targetKindText]
  rw [hsame]

instance : LinearOrder CargoPackageTargetFacts := LinearOrder.lift' rank rank_injective

end CargoPackageTargetFacts

/-- What a resolution reads of the world. -/
structure CargoHost where
  /-- The manifest of a package root, completed from the candidates below that root and
  from the workspace manifest; nothing, where it cannot be read or completed. -/
  completedManifest : Location → OrderedSet Path → Option (Manifest × Location) → Option Manifest
  /-- A file is at a place. -/
  isFile : Location → Bool
  /-- The digest of the contents of a file that can be read. -/
  fileDigest : Location → Option String
  /-- The hexadecimal digest of a text. -/
  digestHex : String → String

/-- The facts of a manifest that a resolution reads. -/
structure CargoProjectFacts where
  hasPackage : Bool := false
  packageName : Option String := none
  workspaceMembers : List String := []
  workspaceExcludes : List String := []
  pathDependencyRoots : List Location := []
  packageTargets : List CargoPackageTargetFacts := []
deriving DecidableEq, Repr

section Manifests

variable (host : CargoHost) (projectRoot : Location)

/-- The file of a target: the path it declares, or the first conventional path that is a
file. -/
def completedTargetPath (target : Product) (kind : TargetKind) (packageName : Option String) :
    Option Location :=
  let packageTargetName := packageName.map fun name =>
    String.ofList (replaceChar '-' '_' name.toList)
  let implicit := match kind with
    | .library =>
        let path := projectRoot.join "src/lib.rs"
        if host.isFile path then some path else none
    | _ => do
        let name ← (trimmedNonempty? target.name).or
          (if kind = .binary then packageTargetName else none)
        ((implicitProductCandidates kind packageTargetName name).map projectRoot.join).find?
          host.isFile
  ((trimmedNonempty? target.path).map projectRoot.join).or implicit

/-- A file name without its extension. -/
def fileStem (name : String) : String :=
  match Path.extensionOf? name with
  | some extension => String.ofList (name.toList.take (name.toList.length - (extension.toList.length + 1)))
  | none => name

/-- The name of a target that declares none. -/
def cargoDefaultTargetName (path : Location) (kind : TargetKind) (packageName : Option String) :
    Option String :=
  let relative := relativeTo projectRoot path
  if (kind = .library ∨ kind = .binary) ∧
      (relative = ⟨false, Path.parse "src/lib.rs"⟩ ∨
        relative = ⟨false, Path.parse "src/main.rs"⟩) then
    packageName.map fun name => String.ofList (replaceChar '-' '_' name.toList)
  else
    let parentName := (Path.parent? relative.components).bind Path.fileName?
    if kind = .binary ∧ relative.components.fileName? = some "main.rs" ∧
        parentName ≠ some "src" then
      parentName
    else (relative.components.fileName?).map fileStem

/-- A target with its name and its file, when it has both. -/
def packageTargetFact (target : Product) (kind : TargetKind) (packageName : Option String) :
    Option CargoPackageTargetFacts := do
  let path ← completedTargetPath host projectRoot target kind packageName
  let name ← (trimmedNonempty? target.name).or
    (cargoDefaultTargetName projectRoot path kind packageName)
  return ⟨name, kind, path⟩

/-- The targets of a manifest, sorted, with equal ones merged. -/
def manifestPackageTargets (manifest : Manifest) : List CargoPackageTargetFacts :=
  let packageName := manifest.package.map Package.name
  let products := [(manifest.lib.toList, TargetKind.library), (manifest.bin, .binary),
    (manifest.test, .test), (manifest.example_, .example_), (manifest.bench, .bench)]
  (OrderedSet.ofList (products.flatMap fun family =>
    family.1.filterMap fun target =>
      packageTargetFact host projectRoot target family.2 packageName)).keys

/-- The places that the path dependencies of a manifest name. -/
def manifestPathDependencyRoots (manifest : Manifest) : List Location :=
  (OrderedSet.ofList (manifest.dependencyTables.flatMap fun table =>
    table.values.filterMap fun dependency => dependency.path.map projectRoot.join)).keys

/-- The facts of a manifest at a package root. -/
def cargoProjectFacts (manifest : Manifest) : CargoProjectFacts where
  hasPackage := (manifest.package.map Package.name).any fun name => trim name.toList ≠ []
  packageName := manifest.package.map Package.name
  workspaceMembers := (manifest.workspace.map Workspace.members).getD []
  workspaceExcludes := (manifest.workspace.map Workspace.exclude).getD []
  pathDependencyRoots := manifestPathDependencyRoots projectRoot manifest
  packageTargets := manifestPackageTargets host projectRoot manifest

/-- The facts at a package root, its dependencies and its manifest.  Without a manifest
there are no facts. -/
def parseCargoProjectFacts (candidatePaths : OrderedSet Path)
    (workspaceManifest : Option (Manifest × Location)) :
    CargoProjectFacts × List CargoDependencyFacts × Option Manifest :=
  match host.completedManifest projectRoot candidatePaths workspaceManifest with
  | none => ({}, [], none)
  | some manifest =>
      (cargoProjectFacts host projectRoot manifest, cargoDependencyFactsFromManifest manifest,
        some manifest)

end Manifests

end AspRust.Resolution
