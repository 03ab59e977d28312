import AspRust.Resolution.Accounting

/-!
# Where internal dependency edges lead

Packages are found by their roots, but an edge is drawn by name: a dependency whose name
some package has becomes an internal edge to a package of that name, whether it has a
path or not.  Of several packages of one name the one with the greatest identity is
taken.

So an edge leads to the package at the path of its dependency exactly when that
package is the one its name selects (`followsPaths_iff_selectsPaths`).  A dependency
taken from a registry that shares its name with a package of the workspace is drawn as an
edge to that package (`registryNamesake_misdirected`).

### What is load-bearing

The place of a dependency is the path in its declaration, read from the package that declares
it, with `.` and `..` resolved by name (`SamePlace`).  The repository has its own
normalization, which loses pairs of surplus `..`; the specification does not use it, so a
dependency that leads out of the workspace has a place outside, where no package of the graph
stands, and an edge for it is an edge that does not follow its path.
-/

namespace AspRust.Resolution

open AspRust.Foundation AspRust.Discovery

/-- Two locations that are one place when `.` and `..` are resolved by name.  Nothing is
above the root of the file system, while each further `..` of a relative location leads
to another place. -/
def SamePlace (first second : Location) : Prop :=
  first.absolute = second.absolute ∧
    (Path.climb first.components).names = (Path.climb second.components).names ∧
    (first.absolute = true ∨
      (Path.climb first.components).ups = (Path.climb second.components).ups)

instance (first second : Location) : Decidable (SamePlace first second) :=
  inferInstanceAs (Decidable (_ ∧ _ ∧ _))

section Edges

variable (host : CargoHost) (workspace : Location) (input : ProjectResolutionInput)

/-- The manifest at a root. -/
def packageManifest (packageRoot : Location) : Option Manifest :=
  if packageRoot = workspace then (rootFacts host workspace input).2.2
  else
    host.completedManifest packageRoot
      (packageCandidatePaths (candidatePaths input) (relativeTo workspace packageRoot).components)
      ((rootFacts host workspace input).2.2.map fun manifest =>
        (manifest, workspace.append (manifestOf [])))

/-- The dependencies that the manifest at a root declares. -/
def declarationsAt (packageRoot : Location) : List Declaration :=
  (packageManifest host workspace input packageRoot).elim [] manifestDeclarations

/-- The name of the package at a root. -/
def nameAt (packageRoot : Location) : Option String :=
  (packageFacts host workspace input packageRoot).1.packageName

/-- The dependencies of a package are the declared ones. -/
theorem mem_packageFacts_dependencies {packageRoot : Location} {facts : CargoDependencyFacts} :
    facts ∈ (packageFacts host workspace input packageRoot).2 ↔
      ∃ declaration ∈ declarationsAt host workspace input packageRoot,
        declaration.fact = facts := by
  have hparse : ∀ root candidates inherited,
      facts ∈ (parseCargoProjectFacts host root candidates inherited).2.1 ↔
        ∃ declaration ∈ (host.completedManifest root candidates inherited).elim []
          manifestDeclarations, declaration.fact = facts := by
    intro root candidates inherited
    unfold parseCargoProjectFacts
    cases host.completedManifest root candidates inherited with
    | none => simp
    | some manifest => exact mem_cargoDependencyFactsFromManifest
  unfold packageFacts declarationsAt packageManifest
  by_cases hroot : packageRoot = workspace
  · have hroot' : (rootFacts host workspace input).2.2 =
        host.completedManifest workspace (packageCandidatePaths (candidatePaths input) []) none := by
      unfold rootFacts parseCargoProjectFacts
      cases host.completedManifest workspace (packageCandidatePaths (candidatePaths input) [])
        none <;> rfl
    rw [if_pos hroot, if_pos hroot, hroot']
    exact hparse _ _ _
  · rw [if_neg hroot, if_neg hroot]
    exact hparse _ _ _

variable (roots : List Location)

/-- If a declared dependency becomes an edge, then it has a path, and the edge leads to
the package whose root stands at that path. -/
def FollowsPath (packageRoot : Location) (packageName : String) (declaration : Declaration) :
    Prop :=
  ∀ edge, classifyDependency host workspace input roots
      (packageIdOf host workspace packageRoot packageName) declaration.fact = .inl edge →
    ∃ path, declaration.dependency.path = some path ∧
      ∃ package ∈ sortedPackages host workspace input roots,
        package.packageId = edge.toPackageId ∧
        SamePlace (packageRoot.join path) (workspace.append package.root)

/-- If some root has the name of a declared dependency, then the dependency has a path,
and the root at that path has the greatest identity of all roots of the name. -/
def SelectsPath (packageRoot : Location) (declaration : Declaration) : Prop :=
  (∃ root ∈ roots, nameAt host workspace input root = some declaration.fact.packageName) →
    ∃ path, declaration.dependency.path = some path ∧
      ∃ target ∈ roots, SamePlace (packageRoot.join path) target ∧
        ∃ targetName, nameAt host workspace input target = some targetName ∧
          (∃ root ∈ roots, nameAt host workspace input root = some declaration.fact.packageName ∧
            packageIdOf host workspace root declaration.fact.packageName =
              packageIdOf host workspace target targetName) ∧
          ∀ root ∈ roots, nameAt host workspace input root = some declaration.fact.packageName →
            packageIdOf host workspace root declaration.fact.packageName ≤
              packageIdOf host workspace target targetName

/-- The packages of a list of roots, with the dependencies read from their manifests. -/
theorem mem_resolvedPackages {resolved : LanguagePackage × List CargoDependencyFacts} :
    resolved ∈ resolvedPackages host workspace input roots ↔
      ∃ root ∈ roots, ∃ name, nameAt host workspace input root = some name ∧
        resolved = (languagePackage host workspace input root name,
          (packageFacts host workspace input root).2) := by
  rw [resolvedPackages, List.mem_filterMap]
  refine exists_congr fun root => and_congr_right fun _ => ?_
  unfold resolveRoot nameAt
  cases (packageFacts host workspace input root).1.packageName with
  | none => simp
  | some name => simp [eq_comm]

theorem mem_sortedPackages {package : LanguagePackage} :
    package ∈ sortedPackages host workspace input roots ↔
      ∃ root ∈ roots, ∃ name, nameAt host workspace input root = some name ∧
        package = languagePackage host workspace input root name := by
  rw [sortedPackages, List.mem_insertionSort, List.mem_map]
  constructor
  · rintro ⟨resolved, hresolved, rfl⟩
    obtain ⟨root, hroot, name, hname, rfl⟩ :=
      (mem_resolvedPackages host workspace input roots).mp hresolved
    exact ⟨root, hroot, name, hname, rfl⟩
  · rintro ⟨root, hroot, name, hname, rfl⟩
    exact ⟨_, (mem_resolvedPackages host workspace input roots).mpr
      ⟨root, hroot, name, hname, rfl⟩, rfl⟩

/-- The edges of a resolution are those that the declarations of its packages become. -/
theorem mem_internalDependencyEdges {edge : InternalDependencyEdge} :
    edge ∈ internalDependencyEdges host workspace input roots ↔
      ∃ packageRoot ∈ roots, ∃ packageName,
        nameAt host workspace input packageRoot = some packageName ∧
        ∃ declaration ∈ declarationsAt host workspace input packageRoot,
          classifyDependency host workspace input roots
            (packageIdOf host workspace packageRoot packageName) declaration.fact = .inl edge := by
  rw [internalDependencyEdges, List.mem_insertionSort, List.mem_filterMap]
  constructor
  · rintro ⟨outcome, houtcome, hleft⟩
    obtain ⟨resolved, hresolved, hmem⟩ := List.mem_flatMap.mp houtcome
    obtain ⟨root, hroot, name, hname, rfl⟩ :=
      (mem_resolvedPackages host workspace input roots).mp hresolved
    obtain ⟨facts, hfacts, rfl⟩ := List.mem_map.mp hmem
    obtain ⟨declaration, hdeclaration, rfl⟩ :=
      (mem_packageFacts_dependencies host workspace input).mp hfacts
    exact ⟨root, hroot, name, hname, declaration, hdeclaration, Sum.getLeft?_eq_some_iff.mp hleft⟩
  · rintro ⟨root, hroot, name, hname, declaration, hdeclaration, hedge⟩
    refine ⟨.inl edge, List.mem_flatMap.mpr ⟨_, (mem_resolvedPackages host workspace input
      roots).mpr ⟨root, hroot, name, hname, rfl⟩, ?_⟩, rfl⟩
    exact List.mem_map.mpr ⟨declaration.fact,
      (mem_packageFacts_dependencies host workspace input).mpr ⟨declaration, hdeclaration, rfl⟩,
      hedge⟩

/-- The name index has, for each name, the greatest identity of a root of that name. -/
theorem get?_packageIds {name id : String} :
    (packageIds host workspace input roots).get? name = some id ↔
      (∃ root ∈ roots, nameAt host workspace input root = some name ∧
        packageIdOf host workspace root name = id) ∧
      ∀ root ∈ roots, nameAt host workspace input root = some name →
        packageIdOf host workspace root name ≤ id := by
  have hsorted : (sortedPackages host workspace input roots).Pairwise fun first second =>
      first.packageId ≤ second.packageId :=
    List.pairwise_insertionSort _ _
  rw [packageIds, OrderedMap.get?_insertAll_of_sorted _ _ hsorted]
  constructor
  · rintro ⟨⟨package, hpackage, hkey, hid⟩, hbound⟩
    obtain ⟨root, hroot, rootName, hname, rfl⟩ :=
      (mem_sortedPackages host workspace input roots).mp hpackage
    obtain rfl : rootName = name := hkey
    refine ⟨⟨root, hroot, hname, hid⟩, fun other hother hsame => ?_⟩
    have hpackage' : languagePackage host workspace input other rootName ∈
        sortedPackages host workspace input roots :=
      (mem_sortedPackages host workspace input roots).mpr ⟨other, hother, rootName, hsame, rfl⟩
    exact hbound (languagePackage host workspace input other rootName) hpackage' rfl
  · rintro ⟨⟨root, hroot, hname, rfl⟩, hbound⟩
    refine ⟨⟨languagePackage host workspace input root name,
      (mem_sortedPackages host workspace input roots).mpr ⟨root, hroot, name, hname, rfl⟩,
      rfl, rfl⟩, ?_⟩
    intro package hpackage hsame
    obtain ⟨other, hother, otherName, hother', rfl⟩ :=
      (mem_sortedPackages host workspace input roots).mp hpackage
    obtain rfl : otherName = name := hsame
    exact hbound other hother hother'

/-- A name that some root has is in the index. -/
theorem exists_get?_packageIds {name : String}
    (h : ∃ root ∈ roots, nameAt host workspace input root = some name) :
    ∃ id, (packageIds host workspace input roots).get? name = some id := by
  obtain ⟨root, hroot, hname⟩ := h
  have hkey : name ∈ (packageIds host workspace input roots).keys := by
    rw [packageIds, OrderedMap.mem_keys_insertAll]
    exact Or.inr ⟨languagePackage host workspace input root name,
      (mem_sortedPackages host workspace input roots).mpr ⟨root, hroot, name, hname, rfl⟩, rfl⟩
  exact OrderedMap.mem_keys_iff.mp hkey

theorem classifyDependency_eq_inl_iff {packageId : String} {facts : CargoDependencyFacts}
    {edge : InternalDependencyEdge} :
    classifyDependency host workspace input roots packageId facts = .inl edge ↔
      (packageIds host workspace input roots).get? facts.packageName = some edge.toPackageId ∧
        edge.fromPackageId = packageId ∧ edge.kind = facts.kind := by
  obtain ⟨first, second, kind⟩ := edge
  unfold classifyDependency
  cases (packageIds host workspace input roots).get? facts.packageName with
  | none => simp
  | some id =>
      simp only [Sum.inl.injEq, InternalDependencyEdge.mk.injEq, Option.some.injEq]
      constructor
      · rintro ⟨rfl, rfl, rfl⟩
        exact ⟨rfl, rfl, rfl⟩
      · rintro ⟨rfl, rfl, rfl⟩
        exact ⟨rfl, rfl, rfl⟩

end Edges

section Law

variable {host : CargoHost} {workspace : Location} {input : ProjectResolutionInput}
  {roots : OrderedSet Location}

/-- The admitted roots of a resolution stand below its workspace. -/
theorem append_relativeTo_of_mem (h : packageRoots host workspace input = .ok roots)
    {root : Location} (hroot : root ∈ roots.keys) :
    workspace.append (relativeTo workspace root).components = root := by
  obtain ⟨other, hother, hadmitted⟩ := exists_packageRoots host workspace input
  obtain rfl := Except.ok.inj (h.symm.trans hother)
  obtain ⟨relative, -, rfl⟩ :=
    exists_append_of_admitted host workspace input ((hadmitted root).mp hroot)
  rw [relativeTo_append]

/-- One declaration: its edge follows its path exactly when its name selects its path. -/
theorem followsPath_iff (h : packageRoots host workspace input = .ok roots)
    {packageRoot : Location} {packageName : String} {declaration : Declaration} :
    FollowsPath host workspace input roots.keys packageRoot packageName declaration ↔
      SelectsPath host workspace input roots.keys packageRoot declaration := by
  constructor
  · intro hfollows hnamed
    obtain ⟨id, hid⟩ := exists_get?_packageIds host workspace input roots.keys hnamed
    obtain ⟨path, hpath, package, hpackage, hto, hplace⟩ := hfollows
      ⟨packageIdOf host workspace packageRoot packageName, id, declaration.fact.kind⟩
      ((classifyDependency_eq_inl_iff host workspace input roots.keys).mpr ⟨hid, rfl, rfl⟩)
    obtain ⟨target, htarget, targetName, hname, rfl⟩ :=
      (mem_sortedPackages host workspace input roots.keys).mp hpackage
    obtain ⟨hsome, hbound⟩ := (get?_packageIds host workspace input roots.keys).mp hid
    refine ⟨path, hpath, target, htarget, ?_, targetName, hname, ?_, ?_⟩
    · have hroot : workspace.append (relativeTo workspace target).components = target :=
        append_relativeTo_of_mem h htarget
      rwa [← hroot]
    · obtain ⟨root, hroot, hsame, hidRoot⟩ := hsome
      exact ⟨root, hroot, hsame, hidRoot.trans hto.symm⟩
    · intro root hroot hsame
      exact (hbound root hroot hsame).trans_eq hto.symm
  · intro hselects edge hedge
    obtain ⟨hid, -, -⟩ := (classifyDependency_eq_inl_iff host workspace input roots.keys).mp hedge
    obtain ⟨⟨root, hroot, hname, -⟩, -⟩ :=
      (get?_packageIds host workspace input roots.keys).mp hid
    obtain ⟨path, hpath, target, htarget, hplace, targetName, htargetName, hsome, hbound⟩ :=
      hselects ⟨root, hroot, hname⟩
    have hgreatest := (get?_packageIds host workspace input roots.keys).mpr ⟨hsome, hbound⟩
    refine ⟨path, hpath, languagePackage host workspace input target targetName, ?_, ?_, ?_⟩
    · exact (mem_sortedPackages host workspace input roots.keys).mpr
        ⟨target, htarget, targetName, htargetName, rfl⟩
    · exact Option.some.inj (hgreatest.symm.trans hid)
    · show SamePlace (packageRoot.join path)
        (workspace.append (relativeTo workspace target).components)
      rwa [append_relativeTo_of_mem h htarget]

/-- **Edges follow paths exactly when names select them.**  An edge is drawn to the
package that has the name of the dependency, and it should lead to the package at its
path.  These are the same for all dependencies exactly if each declared one, whose name
a package of the graph has, has a path, a root of the graph stands there, and no other
root of that name has a greater identity. -/
theorem followsPaths_iff_selectsPaths (h : packageRoots host workspace input = .ok roots) :
    (∀ packageRoot ∈ roots.keys, ∀ packageName,
      nameAt host workspace input packageRoot = some packageName →
        ∀ declaration ∈ declarationsAt host workspace input packageRoot,
          FollowsPath host workspace input roots.keys packageRoot packageName declaration) ↔
    ∀ packageRoot ∈ roots.keys, ∀ packageName,
      nameAt host workspace input packageRoot = some packageName →
        ∀ declaration ∈ declarationsAt host workspace input packageRoot,
          SelectsPath host workspace input roots.keys packageRoot declaration := by
  constructor
  · intro hfollows root hroot name hname declaration hdeclaration
    exact (followsPath_iff h).mp (hfollows root hroot name hname declaration hdeclaration)
  · intro hselects root hroot name hname declaration hdeclaration
    exact (followsPath_iff h).mpr (hselects root hroot name hname declaration hdeclaration)

end Law

/-! ## A namesake from a registry

A package that is reached by its path, and the same workspace with the dependency taken
from a registry. -/

/-- A workspace at the directory of the process. -/
def processDirectory : Location := ⟨false, []⟩

/-- A package `app` with one dependency `util`, and a member `util` of its workspace. -/
def namesakeHost (dependency : Dependency) : CargoHost where
  completedManifest root _ _ :=
    if root = processDirectory then
      some { package := some ⟨"app", "2024"⟩
             workspace := some { members := ["util"] }
             dependencies := OrderedMap.insert ∅ "util" dependency }
    else if root = ⟨false, [.normal "util"]⟩ then some { package := some ⟨"util", "2024"⟩ }
    else none
  isFile _ := false
  fileDigest _ := none
  digestHex text :=
    if text = "cargo-package\x00app\x00" then
      "14d564a919d23d2f787bcf4162af856109987ba708782523ea0810c1c401560b"
    else "fd98ae8e19e7514be1261ca551e0bb56d9eba633c81b5f585bdff6ae00f9384c"

def namesakeInput : ProjectResolutionInput := ⟨"blake3:0", ["Cargo.toml", "util/Cargo.toml"]⟩

/-- The two roots of the workspace. -/
def namesakeRoots : OrderedSet Location :=
  OrderedSet.ofList [processDirectory, ⟨false, [.normal "util"]⟩]

/-- With a path the dependency is followed. -/
theorem pathNamesake_followed :
    packageRoots (namesakeHost { path := some "util" }) processDirectory namesakeInput =
        .ok namesakeRoots ∧
      ((∀ packageRoot ∈ namesakeRoots.keys, ∀ packageName,
        nameAt (namesakeHost { path := some "util" }) processDirectory namesakeInput
            packageRoot = some packageName →
          ∀ declaration ∈ declarationsAt (namesakeHost { path := some "util" }) processDirectory
            namesakeInput packageRoot,
            FollowsPath (namesakeHost { path := some "util" }) processDirectory namesakeInput
              namesakeRoots.keys packageRoot packageName declaration) ↔
      ∀ packageRoot ∈ namesakeRoots.keys, ∀ packageName,
        nameAt (namesakeHost { path := some "util" }) processDirectory namesakeInput
            packageRoot = some packageName →
          ∀ declaration ∈ declarationsAt (namesakeHost { path := some "util" }) processDirectory
            namesakeInput packageRoot,
            SelectsPath (namesakeHost { path := some "util" }) processDirectory namesakeInput
              namesakeRoots.keys packageRoot declaration) :=
  ⟨by decide, followsPaths_iff_selectsPaths (by decide)⟩

/-- The dependency of `app` on version 1.0 of `util` in a registry. -/
def registryUtil : Dependency := { versionReq := some "1.0" }

/-- **A dependency without a path becomes an edge to its namesake.** -/
theorem registryNamesake_misdirected :
    packageRoots (namesakeHost registryUtil) processDirectory namesakeInput = .ok namesakeRoots ∧
      ¬ ∀ packageRoot ∈ namesakeRoots.keys, ∀ packageName,
        nameAt (namesakeHost registryUtil) processDirectory namesakeInput packageRoot =
            some packageName →
          ∀ declaration ∈ declarationsAt (namesakeHost registryUtil) processDirectory
            namesakeInput packageRoot,
            FollowsPath (namesakeHost registryUtil) processDirectory namesakeInput
              namesakeRoots.keys packageRoot packageName declaration := by
  refine ⟨by decide, fun hfollows => ?_⟩
  have hedge : classifyDependency (namesakeHost registryUtil) processDirectory namesakeInput
      namesakeRoots.keys
      (packageIdOf (namesakeHost registryUtil) processDirectory processDirectory "app")
      (dependencyFact "util" registryUtil .normal none) =
      .inl ⟨"cargo-package-14d564a919d23d2f", "cargo-package-fd98ae8e19e7514b", .normal⟩ := by
    decide
  obtain ⟨path, hpath, -⟩ := hfollows processDirectory (by decide) "app" (by decide)
    ⟨.normal, none, "util", registryUtil⟩ (by decide) _ hedge
  cases hpath

end AspRust.Resolution
