import AspRust.Foundation.AdmissionWorklist
import AspRust.Foundation.LexicalResolution
import AspRust.Resolution.ProjectFacts

/-!
# Project resolution

The resolution of a Cargo project starts at the manifest of the workspace and takes its
package, its members and its path dependencies as the roots to look at.  A root is
admitted when a candidate manifest stands below it and no exclude entry names it; an
admitted root adds the path dependencies of its own manifest.  Every admitted root then
becomes a package, or an unresolved entry where its manifest has no package name, and
every declared dependency of a package an internal edge or an external dependency.

The loop over the roots is the one of `Foundation.AdmissionWorklist`.  Only roots with a
candidate manifest are admitted, so the candidates bound it whatever the dependencies
are, and what it admits is the least set closed under admitted path dependencies.

### Design notes

Each stage of the resolution is a definition of its own under the source's name, and takes the
roots that the loop found as a list.  `packageGraph` is then put together without a loop, which
is what lets the accounting and the edges be proved about lists.

Identities are texts with a digest of the place in them (`stableId`), and the map of names to
identities keeps the greatest of several, as the later insertions of a sorted list do.
-/

namespace AspRust.Resolution

open AspRust.Foundation AspRust.Discovery

/-! ## What a resolution is asked and what it answers -/

/-- The part of a request that the resolution reads: the digest of the candidates and
their paths. -/
structure ProjectResolutionInput where
  candidateGenerationDigest : String
  candidatePaths : List String

/-- Why a project is not resolved. -/
inductive ProjectResolutionError where
  | notApplicable (expected : Path)
  | projectEntryMissing (expected : Path)
  | projectEntryInvalid (path : Location)
deriving DecidableEq, Repr

namespace ProjectResolutionError

/-- The text of an error. -/
def describe : ProjectResolutionError → String
  | .notApplicable expected =>
      "provider-not-applicable: no parser-owned manifest `" ++ expected.text ++
        "` is present"
  | .projectEntryMissing expected =>
      "project-entry-missing: expected parser-owned manifest `" ++ expected.text ++ "`"
  | .projectEntryInvalid path =>
      "project-entry-invalid: Cargo manifest `" ++ path.display ++
        "` declares neither a package nor workspace members"

end ProjectResolutionError

/-- A file of the project with its digest. -/
structure ProjectFile where
  path : Path
  kind : String
  digest : String
deriving DecidableEq, Repr

/-- A target of a package. -/
structure LanguageTarget where
  targetId : String
  name : String
  kind : TargetKind
  explicit : Bool
  sourceRoots : List Location
  entrypoints : List Location
deriving DecidableEq, Repr

/-- A package; its root is relative to the workspace, whose own root is the empty path. -/
structure LanguagePackage where
  packageId : String
  name : String
  root : Path
  manifestPath : Path
  workspaceMember : Bool
  targets : List LanguageTarget
deriving DecidableEq, Repr

structure InternalDependencyEdge where
  fromPackageId : String
  toPackageId : String
  kind : CargoDependencyKind
deriving DecidableEq, Repr

structure ExternalDependency where
  dependencyId : String
  name : String
  kind : CargoDependencyKind
  requested : Option String
deriving DecidableEq, Repr

structure UnresolvedProjectReference where
  state : String
  path : Path
  reasonKind : String
deriving DecidableEq, Repr

structure LanguagePackageGraph where
  manifests : List ProjectFile
  lockfiles : List ProjectFile
  packages : List LanguagePackage
  internalDependencyEdges : List InternalDependencyEdge
  externalDependencies : List ExternalDependency
  unresolved : List UnresolvedProjectReference
deriving DecidableEq, Repr

structure ResolvedSourceScope where
  scopeId : String
  packageId : String
  targetId : String
  roots : List Location
  explicitPaths : List Location
  includeAuthority : String
  classification : TargetKind
deriving DecidableEq, Repr

structure ProjectResolution where
  candidateGenerationDigest : String
  packageGraph : LanguagePackageGraph
  sourceScopes : List ResolvedSourceScope
deriving DecidableEq, Repr

/-! ## Admission -/

/-- Lexical normalization of a relative path, in the resolution's copy of it. -/
def normalizeRelativePath (path : Path) : Path := normalizeLexicalPath path

/-- The manifest of a relative root. -/
def manifestOf (relativeRoot : Path) : Path := relativeRoot ++ [.normal "Cargo.toml"]

/-- The candidates below a root, relative to it. -/
def packageCandidatePaths (workspaceCandidates : OrderedSet Path) (packageRoot : Path) :
    OrderedSet Path :=
  OrderedSet.ofList (workspaceCandidates.keys.filterMap (Path.stripPrefix? packageRoot))

/-- The relative root of a place that is admitted. -/
def admittedWorkspacePackageRoot (workspace packageRoot : Location)
    (candidatePaths : OrderedSet Path) (workspaceExcludes : List String) : Option Path := do
  let relativeRoot ← Location.stripPrefix? workspace packageRoot
  let relativeRoot := normalizeRelativePath relativeRoot
  if manifestOf relativeRoot ∉ candidatePaths.keys then none
  else if matchesText workspaceExcludes relativeRoot then none
  else some relativeRoot

theorem admittedWorkspacePackageRoot_eq_some_iff {workspace packageRoot : Location}
    {candidatePaths : OrderedSet Path} {workspaceExcludes : List String} {relativeRoot : Path} :
    admittedWorkspacePackageRoot workspace packageRoot candidatePaths workspaceExcludes =
        some relativeRoot ↔
      ∃ rest, packageRoot = workspace.append rest ∧ normalizeRelativePath rest = relativeRoot ∧
        manifestOf relativeRoot ∈ candidatePaths.keys ∧
        matchesText workspaceExcludes relativeRoot = false := by
  unfold admittedWorkspacePackageRoot
  constructor
  · intro h
    obtain ⟨rest, hrest, h⟩ := Option.bind_eq_some_iff.mp h
    simp only [Option.ite_none_left_eq_some, Option.some.injEq, not_not,
      Bool.not_eq_true] at h
    obtain ⟨hcandidate, hexcluded, rfl⟩ := h
    exact ⟨rest, Location.stripPrefix?_eq_some_iff.mp hrest, rfl, hcandidate, hexcluded⟩
  · rintro ⟨rest, rfl, rfl, hcandidate, hexcluded⟩
    rw [Location.stripPrefix?_append]
    simp [hcandidate, hexcluded]

/-! ## The resolution -/

/-- A short name made of a digest. -/
def stableId (host : CargoHost) (space basis : String) : String :=
  space ++ "-" ++ String.ofList ((host.digestHex (space ++ "\x00" ++ basis)).toList.take 16)

section Targets

variable (host : CargoHost) (workspace : Location)

/-- The directory with the sources of a target: the first conventional directory on the
way to its entry file, or the one it stands in. -/
def targetSourceRoots (entrypoint : Location) : List Location :=
  let prefixes := entrypoint.components.inits.drop 1
  let root := prefixes.find? fun part =>
    (Path.fileName? part).any (· ∈ ["src", "tests", "examples", "benches"])
  [⟨entrypoint.absolute, root.getD entrypoint.components.dropLast⟩]

/-- The entry file of a library or a binary at its conventional place. -/
def isCargoDefaultEntrypoint (path : Location) (kind : TargetKind) : Bool :=
  (Path.parent? path.components).bind Path.fileName? = some "src" &&
    ((kind = .library && path.components.fileName? = some "lib.rs") ||
      (kind = .binary && path.components.fileName? = some "main.rs"))

def languageTarget (packageId name : String) (kind : TargetKind) (entrypoint : Location)
    (explicit : Bool) : LanguageTarget where
  targetId := stableId host "cargo-target" (packageId ++ "\x00" ++ name ++ "\x00" ++
    targetKindText kind ++ "\x00" ++ entrypoint.display)
  name := name
  kind := kind
  explicit := explicit
  sourceRoots := targetSourceRoots entrypoint
  entrypoints := [entrypoint]

/-- The targets of a package, sorted by identity, with equal neighbours merged. -/
def cargoTargets (packageId : String) (facts : CargoProjectFacts) : List LanguageTarget :=
  let targets := facts.packageTargets.map fun target =>
    let entrypoint := relativeTo workspace target.path
    languageTarget host packageId target.name target.kind entrypoint
      (!isCargoDefaultEntrypoint entrypoint target.kind)
  (targets.insertionSort fun left right => left.targetId ≤ right.targetId).destutter (· ≠ ·)

end Targets

section Resolution

variable (host : CargoHost) (workspace : Location) (input : ProjectResolutionInput)

/-- The candidates, normalized. -/
def candidatePaths : OrderedSet Path :=
  OrderedSet.ofList (input.candidatePaths.map fun text => normalizeRelativePath (Path.parse text))

/-- The facts of the workspace manifest. -/
def rootFacts : CargoProjectFacts × List CargoDependencyFacts × Option Manifest :=
  parseCargoProjectFacts host workspace (packageCandidatePaths (candidatePaths input) []) none

/-- The facts at an admitted root; the workspace has those it was started with. -/
def packageFacts (packageRoot : Location) : CargoProjectFacts × List CargoDependencyFacts :=
  let root := rootFacts host workspace input
  if packageRoot = workspace then (root.1, root.2.1)
  else
    let candidates := packageCandidatePaths (candidatePaths input)
      (relativeTo workspace packageRoot).components
    let facts := parseCargoProjectFacts host packageRoot candidates
      (root.2.2.map fun manifest => (manifest, workspace.append (manifestOf [])))
    (facts.1, facts.2.1)

/-- The member roots among the candidates. -/
def workspaceMemberRoots : List Location :=
  (cargoWorkspaceMemberRootsFromCandidates []
    { workspaceMembers := (rootFacts host workspace input).1.workspaceMembers
      workspaceExcludes := (rootFacts host workspace input).1.workspaceExcludes }
    (candidatePaths input)).map workspace.append

/-- The roots that the resolution starts from. -/
def seedRoots : List Location :=
  (if (rootFacts host workspace input).1.hasPackage then [workspace] else []) ++
    workspaceMemberRoots host workspace input ++
    (rootFacts host workspace input).1.pathDependencyRoots

/-- The place of a root that is admitted. -/
def admitRoot (packageRoot : Location) : Option Location :=
  (admittedWorkspacePackageRoot workspace packageRoot (candidatePaths input)
    (rootFacts host workspace input).1.workspaceExcludes).map workspace.append

/-- The path dependencies of an admitted root. -/
def dependencyRoots (packageRoot : Location) : List Location :=
  (packageFacts host workspace input packageRoot).1.pathDependencyRoots

/-- The places below the workspace with a candidate manifest. -/
def manifestRoots : List Location :=
  (candidatePaths input).keys.filterMap fun path =>
    if path.fileName? = some "Cargo.toml" then some (workspace.append path.dropLast) else none

/-- A bound on the steps of the loop: the seeds, and the path dependencies of every
place with a candidate manifest. -/
def loopBound : ℕ :=
  (seedRoots host workspace input).length +
    ((manifestRoots workspace input).map fun root =>
      (dependencyRoots host workspace input root).length).sum + 1

/-- The admitted roots. -/
def packageRoots : Outcome (OrderedSet Location) :=
  AdmissionWorklist.drain (admitRoot host workspace input) (dependencyRoots host workspace input)
    (loopBound host workspace input) (OrderedSet.ofList (seedRoots host workspace input)) ∅

/-- The identity of a package, from its name and its root. -/
def packageIdOf (packageRoot : Location) (packageName : String) : String :=
  stableId host "cargo-package"
    (packageName ++ "\x00" ++ (relativeTo workspace packageRoot).components.text)

/-- The package of a name at a root. -/
def languagePackage (packageRoot : Location) (packageName : String) : LanguagePackage where
  packageId := packageIdOf host workspace packageRoot packageName
  name := packageName
  root := (relativeTo workspace packageRoot).components
  manifestPath := manifestOf (relativeTo workspace packageRoot).components
  workspaceMember := packageRoot ≠ workspace
  targets := cargoTargets host workspace (packageIdOf host workspace packageRoot packageName)
    (packageFacts host workspace input packageRoot).1

/-- What an admitted root becomes: an unresolved entry, or a package with its
dependencies. -/
def resolveRoot (packageRoot : Location) :
    UnresolvedProjectReference ⊕ (LanguagePackage × List CargoDependencyFacts) :=
  match (packageFacts host workspace input packageRoot).1.packageName with
  | none => .inl ⟨"manifest-invalid", manifestOf (relativeTo workspace packageRoot).components,
      "package-name-missing"⟩
  | some packageName => .inr (languagePackage host workspace input packageRoot packageName,
      (packageFacts host workspace input packageRoot).2)

variable (roots : List Location)

/-- The unresolved entries of the admitted roots. -/
def unresolvedOf : List UnresolvedProjectReference :=
  roots.filterMap fun root => (resolveRoot host workspace input root).getLeft?

/-- The packages of the admitted roots with their dependencies. -/
def resolvedPackages : List (LanguagePackage × List CargoDependencyFacts) :=
  roots.filterMap fun root => (resolveRoot host workspace input root).getRight?

/-- The packages, sorted by identity. -/
def sortedPackages : List LanguagePackage :=
  ((resolvedPackages host workspace input roots).map Prod.fst).insertionSort
    fun left right => left.packageId ≤ right.packageId

/-- The identity of the package of a name; of several, the last one in the sorted list. -/
def packageIds : OrderedMap String String :=
  OrderedMap.insertAll LanguagePackage.name LanguagePackage.packageId
    (sortedPackages host workspace input roots) ∅

/-- What a dependency of a package becomes: an edge to the package of its name, or an
external dependency. -/
def classifyDependency (fromPackageId : String) (dependency : CargoDependencyFacts) :
    InternalDependencyEdge ⊕ ExternalDependency :=
  match (packageIds host workspace input roots).get? dependency.packageName with
  | some toPackageId => .inl ⟨fromPackageId, toPackageId, dependency.kind⟩
  | none => .inr ⟨stableId host "cargo-dependency" (fromPackageId ++ "\x00" ++
      dependency.packageName ++ "\x00" ++ dependencyKind dependency.kind),
      dependency.packageName, dependency.kind, dependency.versionReq⟩

/-- What the dependencies of all packages become, in the order of the packages. -/
def classifiedDependencies : List (InternalDependencyEdge ⊕ ExternalDependency) :=
  (resolvedPackages host workspace input roots).flatMap fun package =>
    package.2.map (classifyDependency host workspace input roots package.1.packageId)

/-- The edges, sorted by their ends and the text of their kind. -/
def internalDependencyEdges : List InternalDependencyEdge :=
  ((classifiedDependencies host workspace input roots).filterMap Sum.getLeft?).insertionSort
    fun left right =>
      toLex (left.fromPackageId, toLex (left.toPackageId, dependencyKind left.kind)) ≤
        toLex (right.fromPackageId, toLex (right.toPackageId, dependencyKind right.kind))

/-- The external dependencies, sorted by identity. -/
def externalDependencies : List ExternalDependency :=
  ((classifiedDependencies host workspace input roots).filterMap Sum.getRight?).insertionSort
    fun left right => left.dependencyId ≤ right.dependencyId

def projectFile (relative : Path) (kind : String) : ProjectFile :=
  ⟨relative, kind, match host.fileDigest (workspace.append relative) with
    | some digest => "blake3:" ++ digest
    | none => "blake3:missing"⟩

/-- The graph of the packages at the admitted roots. -/
def packageGraph : LanguagePackageGraph where
  manifests := (OrderedSet.ofList (manifestOf [] ::
    (resolvedPackages host workspace input roots).map (·.1.manifestPath))).keys.map
      fun path => projectFile host workspace path "cargo-manifest"
  lockfiles := if [.normal "Cargo.lock"] ∈ (candidatePaths input).keys then
    [projectFile host workspace [.normal "Cargo.lock"] "cargo-lock"] else []
  packages := sortedPackages host workspace input roots
  internalDependencyEdges := internalDependencyEdges host workspace input roots
  externalDependencies := externalDependencies host workspace input roots
  unresolved := unresolvedOf host workspace input roots

/-- The source scope of a target of a package. -/
def sourceScope (package : LanguagePackage) (target : LanguageTarget) : ResolvedSourceScope where
  scopeId := stableId host "cargo-source-scope"
    (package.packageId ++ "\x00" ++ target.targetId)
  packageId := package.packageId
  targetId := target.targetId
  roots := target.sourceRoots
  explicitPaths := if target.explicit then target.entrypoints else []
  includeAuthority := if target.explicit then "manifest-explicit" else "package-manager"
  classification := target.kind

/-- The resolution of a project. -/
def resolveCargoProjectResolution :
    Outcome (Except ProjectResolutionError ProjectResolution) :=
  if ¬ (candidatePaths input).keys.any fun path => path.fileName? = some "Cargo.toml" then
    .ok (.error (.notApplicable (manifestOf [])))
  else if manifestOf [] ∉ (candidatePaths input).keys then
    .ok (.error (.projectEntryMissing (manifestOf [])))
  else if seedRoots host workspace input = [] then
    .ok (.error (.projectEntryInvalid (workspace.append (manifestOf []))))
  else do
    let roots ← packageRoots host workspace input
    let graph := packageGraph host workspace input roots.keys
    .ok (.ok
      { candidateGenerationDigest := input.candidateGenerationDigest
        packageGraph := graph
        sourceScopes := graph.packages.flatMap fun package =>
          package.targets.map (sourceScope host package) })

end Resolution

/-! ## Normalized paths -/

/-- What normalization leaves of a number of `..` in front: each takes back the one
before it. -/
def leftParents (ups : ℕ) : Path := if ups % 2 = 1 then [.parent] else []

theorem leftParents_succ (ups : ℕ) :
    leftParents (ups + 1) =
      if leftParents ups = [] then [.parent] else (leftParents ups).dropLast := by
  by_cases hodd : ups % 2 = 1
  · have heven : ¬ (ups + 1) % 2 = 1 := by omega
    simp [leftParents, hodd, heven]
  · have hnext : (ups + 1) % 2 = 1 := by omega
    simp [leftParents, hodd, hnext]

theorem leftParents_eq (ups : ℕ) : leftParents ups = [] ∨ leftParents ups = [.parent] := by
  unfold leftParents
  split
  · exact Or.inr rfl
  · exact Or.inl rfl

/-- What normalization leaves of a path: the names it leads down along, below what is
left of the steps it climbs. -/
theorem normalizeRelativePath_eq (path : Path) :
    normalizeRelativePath path =
      leftParents (Path.climb path).ups ++ (Path.climb path).names.map Component.normal := by
  unfold normalizeRelativePath normalizeLexicalPath
  induction path using List.reverseRecOn with
  | nil => rfl
  | append_singleton rest last ih =>
      rw [List.foldl_append, ih, Path.climb_concat, List.foldl_cons, List.foldl_nil]
      cases last with
      | normal name => simp [Climb.step]
      | parent =>
          by_cases hnames : (Path.climb rest).names = []
          · simp [Climb.step, hnames, leftParents_succ]
          · have hmap : (Path.climb rest).names.map Component.normal ≠ [] := by
              simpa using hnames
            simp only [Climb.step, hnames, if_false]
            rw [if_neg (by simp [hnames]), List.dropLast_append_of_ne_nil hmap,
              List.map_dropLast]

/-- A path that normalization leaves as it is. -/
def Normalized (path : Path) : Prop := normalizeRelativePath path = path

/-- Normalization leaves `..` at most once, in front of names. -/
theorem normalized_iff {path : Path} :
    Normalized path ↔ ∃ names : List String,
      path = names.map .normal ∨ path = .parent :: names.map .normal := by
  constructor
  · intro h
    refine ⟨(Path.climb path).names, ?_⟩
    have hshape := normalizeRelativePath_eq path
    rw [h] at hshape
    rcases leftParents_eq (Path.climb path).ups with hnone | hone
    · rw [hnone, List.nil_append] at hshape
      exact Or.inl hshape
    · rw [hone, List.singleton_append] at hshape
      exact Or.inr hshape
  · rintro ⟨names, rfl | rfl⟩
    · rw [Normalized, normalizeRelativePath_eq, Path.climb_map_normal]
      rfl
    · have hclimb : Path.climb (.parent :: names.map .normal) = ⟨1, names⟩ := by
        have happend := Path.climb_append [.parent] (names.map .normal)
        rw [Path.climb_map_normal] at happend
        simpa [Path.climb, Climb.step] using happend
      rw [Normalized, normalizeRelativePath_eq, hclimb]
      rfl

theorem normalized_normalizeRelativePath (path : Path) :
    Normalized (normalizeRelativePath path) := by
  rw [normalized_iff]
  refine ⟨(Path.climb path).names, ?_⟩
  rw [normalizeRelativePath_eq]
  rcases leftParents_eq (Path.climb path).ups with hnone | hone
  · exact Or.inl (by rw [hnone, List.nil_append])
  · exact Or.inr (by rw [hone, List.singleton_append])

/-- The directory of a normalized manifest path is normalized. -/
theorem normalized_of_manifestOf {relativeRoot : Path} (h : Normalized (manifestOf relativeRoot)) :
    Normalized relativeRoot := by
  obtain ⟨names, hnames⟩ := normalized_iff.mp h
  refine normalized_iff.mpr ⟨names.dropLast, ?_⟩
  have hdrop : relativeRoot = (manifestOf relativeRoot).dropLast := by
    rw [manifestOf, List.dropLast_concat]
  rcases hnames with hnames | hnames
  · left
    rw [hdrop, hnames, List.map_dropLast]
  · rw [hnames] at hdrop
    by_cases hempty : names = []
    · -- the manifest has a name, so it is not `..` alone
      have hlast := congrArg List.getLast? hnames
      rw [manifestOf, List.getLast?_concat, hempty] at hlast
      cases hlast
    · right
      rw [hdrop, List.dropLast_cons_of_ne_nil (by simpa using hempty), List.map_dropLast]

end AspRust.Resolution
