import AspRust.Discovery.Manifest
import AspRust.Foundation.RelativeText

/-!
# Package roots and the scope of a run

Which directories are packages of their own is read off the manifests: the
workspace members, expanded over the directory tree, and the closure of path
dependencies.  A package run does not enter the roots of other packages, and
its scope is the conventional directories, the configured ones and the
directories of declared targets, those that exist.

Two recursions have no bound in their source text: the walk for member
manifests follows links, and the dependency closure follows manifests.  Both
stop because a lookup follows only so many links, which bounds the paths that
lead anywhere; `pathFuel` is a number of steps above that bound.

### Design notes

The pattern of a member is matched against the text of a path and not against its
components.  A found directory is the fixed part with names behind it, so the text that
remains when the root is stripped depends on how the fixed part was written
(`relativeSpelling?`).  Both the compared text and the pattern are kept as they are written.
-/

namespace AspRust.Discovery

open AspRust.Foundation

/-! ## A bound on the paths that lead anywhere -/

mutual

/-- The number of nodes of a tree. -/
def nodeCount : Node → ℕ
  | .directory entries => entryCount entries + 1
  | _ => 1

/-- The number of nodes below a list of entries. -/
def entryCount : List (String × Node) → ℕ
  | [] => 0
  | (_, node) :: rest => nodeCount node + entryCount rest

end

/-- The length of the longest path a lookup resolves without `..`: between two
followed links it can only go down the tree. -/
def pathDepth (fs : FileSystem) : ℕ := (maxSymlinks + 1) * (nodeCount fs.root + 1)

/-- More steps than there are normalized paths that resolve. -/
def pathFuel (fs : FileSystem) : ℕ := (nodeCount fs.root + 2) ^ (pathDepth fs + 2)

/-! ## Member patterns -/

/-- The walk for manifests, with lookups that follow links. -/
def discoverCargoManifests (fs : FileSystem) (ignored hidden : OrderedSet String) :
    ℕ → Path → Bool → OrderedSet Path → OrderedSet Path
  | 0, _, _, manifests => manifests
  | fuel + 1, path, ignoreCurrent, manifests =>
      if ignoreCurrent && shouldIgnore ignored hidden path then manifests
      else if fs.isFile path then
        (if path.fileName? = some "Cargo.toml" then manifests.add path else manifests)
      else
        match fs.readDir path with
        | none => manifests
        | some entries => entries.foldl (fun manifests entry =>
            discoverCargoManifests fs ignored hidden fuel (path ++ [.normal entry.1]) true
              manifests) manifests

/-- What is left to match after the part before the first star has matched:
every further part is looked for from the left, and the last one must end the
value. -/
def globPartsMatch : List (List Char) → List Char → Option (List Char)
  | [], remaining => some remaining
  | part :: rest, remaining =>
      if part = [] then globPartsMatch rest remaining
      else
        match findSlice part remaining with
        | none => none
        | some index =>
            let after := remaining.drop (index + part.length)
            if rest = [] ∧ after ≠ [] then none else globPartsMatch rest after

/-- One component of a member pattern against one component of a path. -/
def globComponentMatches (pattern value : List Char) : Bool :=
  if pattern = ['*'] then true
  else if '*' ∉ pattern then pattern = value
  else
    match splitWhen (· = '*') pattern with
    | [] => pattern = value
    | first :: parts =>
        if !first.isPrefixOf value then false
        else
          match globPartsMatch parts (value.drop first.length) with
          | none => false
          | some remaining => pattern.getLast? = some '*' || remaining = []

/-- A member pattern against a path text, component by component. -/
def globPatternMatches (pattern value : List Char) : Bool :=
  let patternComponents := splitWhen (· = '/') (replaceChar '\\' '/' pattern)
  let valueComponents := splitWhen (· = '/') (replaceChar '\\' '/' value)
  patternComponents.length = valueComponents.length &&
    (patternComponents.zip valueComponents).all fun pair => globComponentMatches pair.1 pair.2

/-- The components of a pattern before the one with the first star, as they are written. -/
def fixedPrefix (pattern : String) : String :=
  let beforeStar := ((splitWhen (· = '*') pattern.toList).head?).getD []
  String.ofList (((rsplitOnce? '/' beforeStar).map Prod.fst).getD [])

/-- The directory a pattern is expanded in. -/
def fixedPrefixRoot (projectRoot : Path) (pattern : String) : Path :=
  if fixedPrefix pattern = "" then projectRoot else Path.join projectRoot (fixedPrefix pattern)

/-- The text of that directory. -/
def fixedPrefixText (projectRoot : Path) (pattern : String) : String :=
  if fixedPrefix pattern = "" then projectRoot.display
  else Path.pushText projectRoot.display (fixedPrefix pattern)

/-- A directory below the one a pattern is expanded in, relative to the project.  The walk
only adds names, so the fixed prefix keeps its spelling. -/
def relativeSpelling? (projectRoot : Path) (pattern : String) (root : Path) : Option String := do
  let below ← Path.stripPrefix? (fixedPrefixRoot projectRoot pattern) root
  Path.relativeText? projectRoot (Path.pushTexts (fixedPrefixText projectRoot pattern) below)

/-- The candidate roots of one member pattern. -/
def expandWorkspaceMemberPattern (fs : FileSystem) (ignored hidden : OrderedSet String)
    (projectRoot : Path) (pattern : String) : List Path :=
  if '*' ∉ pattern.toList then [Path.join projectRoot pattern]
  else
    let manifests := discoverCargoManifests fs ignored hidden (pathDepth fs + 1)
      (fixedPrefixRoot projectRoot pattern) false ∅
    (manifests.keys.filterMap Path.parent?).filter fun root =>
      (relativeSpelling? projectRoot pattern root).any fun relative =>
        globPatternMatches pattern.toList relative.toList

example : relativeSpelling? [.normal "ws"] "crates/./*" [.normal "ws", .normal "crates",
    .normal "x"] = some "crates/./x" := by decide

/-! ## Package roots -/

/-- A root that is an excluded path or lies below one. -/
def isExcludedMember (memberRoot : Path) (excludes : List Path) : Bool :=
  excludes.any fun excluded => excluded.isPrefixOf memberRoot

def ignoredPathContainsIgnoredSegment (ignored hidden : OrderedSet String) (path : Path) :
    Bool :=
  path.any fun component => shouldIgnoreDirName ignored hidden (Path.componentText component)

/-- A member root is taken when it lies in the project, is not excluded, has no
ignored component and has a manifest. -/
def insertPackageRoot (fs : FileSystem) (ignored hidden : OrderedSet String)
    (projectRoot : Path) (excludes : List Path) (roots : OrderedSet Path)
    (packageRoot : Path) : OrderedSet Path :=
  let packageRoot := normalizeLexicalPath packageRoot
  let projectRoot := normalizeLexicalPath projectRoot
  match Path.stripPrefix? projectRoot packageRoot with
  | none => roots
  | some relative =>
      if isExcludedMember packageRoot excludes then roots
      else if ignoredPathContainsIgnoredSegment ignored hidden relative then roots
      else if !fs.isFile (Path.join packageRoot "Cargo.toml") then roots
      else roots.add packageRoot

/-- A dependency root is taken when it is not excluded and has a manifest; the
flag says whether it is new. -/
def insertExplicitPathDependencyRoot (fs : FileSystem) (excludes : List Path)
    (roots : OrderedSet Path) (dependencyRoot : Path) : OrderedSet Path × Bool :=
  let dependencyRoot := normalizeLexicalPath dependencyRoot
  if isExcludedMember dependencyRoot excludes ||
      !fs.isFile (Path.join dependencyRoot "Cargo.toml") then (roots, false)
  else (roots.add dependencyRoot, dependencyRoot ∉ roots.keys)

/-- The path dependencies of one package: new roots are added, and pushed. -/
def insertDependenciesOf (fs : FileSystem) (excludes : List Path) (dependencies : List Path)
    (roots : OrderedSet Path) (pending : List Path) : OrderedSet Path × List Path :=
  dependencies.foldl (fun state dependencyRoot =>
    let inserted := insertExplicitPathDependencyRoot fs excludes state.1 dependencyRoot
    (inserted.1,
      if inserted.2 then normalizeLexicalPath dependencyRoot :: state.2 else state.2))
    (roots, pending)

section Reading

variable (fromPath : ManifestReader) (fs : FileSystem)

/-- The dependency closure; `pending` is a stack, its top first. -/
def insertPathDependencyRootsFrom (excludes : List Path) :
    ℕ → List Path → OrderedSet Path → OrderedSet Path → OrderedSet Path
  | 0, _, _, roots => roots
  | _, [], _, roots => roots
  | fuel + 1, packageRoot :: pending, visited, roots =>
      if packageRoot ∈ visited.keys then
        insertPathDependencyRootsFrom excludes fuel pending visited roots
      else
        let manifest := parseCargoManifest fromPath fs packageRoot
        let next := insertDependenciesOf fs excludes manifest.pathDependencyRoots roots pending
        insertPathDependencyRootsFrom excludes fuel next.2 (visited.add packageRoot) next.1

/-- The dependency closure of a set of roots. -/
def insertPathDependencyRoots (excludes : List Path) (roots : OrderedSet Path) :
    OrderedSet Path :=
  insertPathDependencyRootsFrom fromPath fs excludes (roots.keys.length + pathFuel fs)
    roots.keys.reverse ∅ roots

/-- The package roots a manifest declares. -/
def discoverPackageRootsFromManifest (projectRoot : Path)
    (ignored hidden : OrderedSet String) : List Path :=
  let manifest := parseCargoManifest fromPath fs projectRoot
  if manifest.workspaceMembers = [] then
    (insertPathDependencyRoots fromPath fs [] (OrderedSet.ofList [projectRoot])).keys
  else
    let excludes := manifest.workspaceExcludes.map (Path.join projectRoot)
    let own : OrderedSet Path :=
      if manifest.hasPackage then OrderedSet.ofList [projectRoot] else ∅
    let members := manifest.workspaceMembers.flatMap
      (expandWorkspaceMemberPattern fs ignored hidden projectRoot)
    let roots := members.foldl
      (insertPackageRoot fs ignored hidden projectRoot excludes) own
    (insertPathDependencyRoots fromPath fs excludes roots).keys

/-- The package roots of a project; none without a manifest. -/
def discoverCargoPackageRoots (projectRoot : Path) (ignored hidden : OrderedSet String) :
    List Path :=
  if fs.isFile (Path.join projectRoot "Cargo.toml") then
    discoverPackageRootsFromManifest fromPath fs projectRoot ignored hidden
  else []

/-- The declared package roots other than the package's own. -/
def cargoPackageExclusionRoots (packageRoot : Path) (ignored hidden : OrderedSet String) :
    OrderedSet Path :=
  let packageRoot := normalizeLexicalPath packageRoot
  OrderedSet.ofList (((discoverCargoPackageRoots fromPath fs packageRoot ignored hidden).map
    normalizeLexicalPath).filter (· ≠ packageRoot))

/-- The filter of a package walk. -/
def packageWalkFilter (packageRoot : Path) (config : AspRustConfig) : WalkFilter where
  excludedPackageRoots := cargoPackageExclusionRoots fromPath fs packageRoot
    config.ignoredDirNames config.includeHiddenDirNames
  ignoredDirNames := config.ignoredDirNames
  includeHiddenDirNames := config.includeHiddenDirNames

/-! ## The scope of a run -/

/-- The paths that exist, as a sorted set. -/
def existingPaths (paths : List Path) : OrderedSet Path :=
  OrderedSet.ofList (paths.filter fs.pathExists)

/-- The scope of a package run. -/
def aspRustScope (projectRoot : Path) (config : AspRustConfig) : AspRustScope :=
  let manifest := parseCargoManifest fromPath fs projectRoot
  { projectRoot
    sourcePaths := (existingPaths fs (config.sourceDirNames.map (Path.join projectRoot) ++
      [Path.join projectRoot "src"] ++
      manifest.sourceTargetFiles.filterMap Path.parent?)).keys
    testPaths :=
      if config.includeTests then
        (existingPaths fs (config.testDirNames.map (Path.join projectRoot) ++
          [Path.join projectRoot "tests"] ++
          manifest.testTargetFiles.filterMap Path.parent?)).keys
      else []
    packagePaths := (existingPaths fs
      (["build.rs", "examples", "benches"].map (Path.join projectRoot) ++
        manifest.exampleTargets.map CargoExampleTargetFacts.path ++
        manifest.benchTargets.map CargoBenchTargetFacts.path)).keys
    fallbackPaths := [projectRoot] }

end Reading

end AspRust.Discovery
