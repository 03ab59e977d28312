import AspRust.Workspace.Derivation

/-!
# Workspaces that have an order

A workspace is legal for the derivation when its manifest can be read, its patterns
compile, some package is admitted, and the admitted packages have manifests with distinct
names.  Such a workspace gets an order when its packages have no cycle of local
dependencies (`legalWorkspace_ordered`).

The graph has one kind of edge: dependencies of the package, of its tests and of its
build script are put together before the search for cycles.  A test that needs a package
which needs the tested one back closes a cycle here, also where the normal and build
dependencies alone have none (`devCycle_rejected`).

### What is load-bearing

`LocalDependency` is said of the manifests and places of packages, for one kind of dependency at
a time.  The graph of the derivation is the union of the kinds (`graphEdge_iff`), so an order of
the graph is an order for each of them, and the converse fails only through a cycle that needs
two kinds.
-/

namespace AspRust.Workspace

open AspRust.Foundation AspRust.Discovery

section Legality

variable (fromPath : ManifestReader) (fs : FileSystem) (globs : GlobLibrary)
variable (workspaceRoot : Path) (config : AspRustConfig)
variable (manifest : Manifest) (workspace : Discovery.Workspace)

/-- A package of the workspace: discovered, and admitted by the filter. -/
def IsMember (root : Path) : Prop :=
  root ∈ discoveredRoots fromPath fs workspaceRoot config ∧
    Admits globs manifest workspace workspaceRoot root

/-- The manifest of a package, with the package section. -/
def HasPackage (root : Path) (packageManifest : Manifest) (package : Package) : Prop :=
  fromPath fs (Path.join root "Cargo.toml") = .ok packageManifest ∧
    packageManifest.package = some package

/-- A workspace the derivation has nothing to object to but cycles. -/
structure LegalWorkspace : Prop where
  /-- The workspace manifest can be read, and its patterns compile. -/
  reads : ReadsWorkspace fromPath fs globs workspaceRoot manifest workspace
  /-- Some package is admitted. -/
  populated : ∃ root, IsMember fromPath fs globs workspaceRoot config manifest workspace root
  /-- Every package has a manifest with a name. -/
  named : ∀ root, IsMember fromPath fs globs workspaceRoot config manifest workspace root →
    ∃ packageManifest package, HasPackage fromPath fs root packageManifest package ∧
      trim package.name.toList ≠ []
  /-- No two packages have one name. -/
  distinct : ∀ root other, IsMember fromPath fs globs workspaceRoot config manifest workspace
      root →
    IsMember fromPath fs globs workspaceRoot config manifest workspace other →
    ∀ packageManifest otherManifest package otherPackage,
      HasPackage fromPath fs root packageManifest package →
      HasPackage fromPath fs other otherManifest otherPackage →
      package.name = otherPackage.name → root = other

/-- One package of the workspace names another in a table of one kind. -/
def LocalDependency (kind : DependencyKind) (package dependency : Path) : Prop :=
  IsMember fromPath fs globs workspaceRoot config manifest workspace package ∧
  IsMember fromPath fs globs workspaceRoot config manifest workspace dependency ∧
  ∃ packageManifest, fromPath fs (Path.join package "Cargo.toml") = .ok packageManifest ∧
    DependsByPath (some workspace.dependencies) workspaceRoot package packageManifest kind
      dependency

variable {fromPath fs globs workspaceRoot config manifest workspace}

/-- The roots a package lists are normalized. -/
theorem normalized_of_dependsByPath {workspaceDependencies : Option DepsSet}
    {packageRoot dependencyRoot : Path} {packageManifest : Manifest} {kind : DependencyKind}
    (h : DependsByPath workspaceDependencies workspaceRoot packageRoot packageManifest kind
      dependencyRoot) : normalizeLexicalPath dependencyRoot = dependencyRoot := by
  obtain ⟨table, -, hroot⟩ := h
  obtain ⟨entry, -, hentry⟩ := List.mem_filterMap.mp hroot
  obtain ⟨path, -, rfl⟩ := Option.map_eq_some_iff.mp hentry
  exact normalizeLexicalPath_idem path

/-- The edges of the graph are the local dependencies of all kinds. -/
theorem graphEdge_iff {packages : List (Path × CargoPackageGraphFacts)}
    (hmem : ∀ root facts, (root, facts) ∈ packages ↔
      IsMember fromPath fs globs workspaceRoot config manifest workspace root ∧
        packageFacts fromPath fs workspaceRoot workspace root = .ok facts)
    (hnamed : ∀ root, IsMember fromPath fs globs workspaceRoot config manifest workspace root →
      ∃ facts, packageFacts fromPath fs workspaceRoot workspace root = .ok facts)
    {package dependency : Path} :
    GraphEdge packages package dependency ↔
      ∃ kind, LocalDependency fromPath fs globs workspaceRoot config manifest workspace kind
        package dependency := by
  constructor
  · rintro ⟨facts, other, hpackage, hdependency, root, hroot, rfl⟩
    obtain ⟨hmember, hfacts⟩ := (hmem _ _).mp hpackage
    obtain ⟨hother, -⟩ := (hmem _ _).mp hdependency
    obtain ⟨packageManifest, package', hread, -, -, hsame⟩ := graphFacts_eq_ok_iff.mp hfacts
    rw [hsame] at hroot
    obtain ⟨kind, hkind⟩ := mem_localDependencyRoots.mp hroot
    refine ⟨kind, hmember, hother, packageManifest, hread, ?_⟩
    rw [normalized_of_dependsByPath hkind]
    exact hkind
  · rintro ⟨kind, hmember, hother, packageManifest, hread, hkind⟩
    obtain ⟨facts, hfacts⟩ := hnamed package hmember
    obtain ⟨otherFacts, hotherFacts⟩ := hnamed dependency hother
    refine ⟨facts, otherFacts, (hmem _ _).mpr ⟨hmember, hfacts⟩,
      (hmem _ _).mpr ⟨hother, hotherFacts⟩, dependency, ?_, normalized_of_dependsByPath hkind⟩
    obtain ⟨packageManifest', package', hread', -, -, rfl⟩ := graphFacts_eq_ok_iff.mp hfacts
    obtain rfl := Except.ok.inj (hread.symm.trans hread')
    exact mem_localDependencyRoots.mpr ⟨kind, hkind⟩

theorem LegalWorkspace.exists_facts
    (h : LegalWorkspace fromPath fs globs workspaceRoot config manifest workspace) {root : Path}
    (hmember : IsMember fromPath fs globs workspaceRoot config manifest workspace root) :
    ∃ facts, packageFacts fromPath fs workspaceRoot workspace root = .ok facts := by
  obtain ⟨packageManifest, package, ⟨hread, hpackage⟩, hname⟩ := h.named root hmember
  exact ⟨_, graphFacts_eq_ok_iff.mpr ⟨packageManifest, package, hread, hpackage, hname, rfl⟩⟩

/-- Names are distinct because roots with one name are the same. -/
theorem LegalWorkspace.nodup_names
    (h : LegalWorkspace fromPath fs globs workspaceRoot config manifest workspace)
    {packages : List (Path × CargoPackageGraphFacts)} (hroots : AtRoots packages)
    (hmem : ∀ root facts, (root, facts) ∈ packages ↔
      IsMember fromPath fs globs workspaceRoot config manifest workspace root ∧
        packageFacts fromPath fs workspaceRoot workspace root = .ok facts) :
    (packages.map fun package => package.2.packageName).Nodup := by
  refine List.Nodup.map_on ?_ (List.Nodup.of_map _ hroots.nodup)
  rintro ⟨first, firstFacts⟩ hfirst ⟨second, secondFacts⟩ hsecond hsame
  obtain ⟨hfirstMember, hfirstFacts⟩ := (hmem _ _).mp hfirst
  obtain ⟨hsecondMember, hsecondFacts⟩ := (hmem _ _).mp hsecond
  obtain ⟨firstManifest, firstPackage, hread, hpackage, -, rfl⟩ :=
    graphFacts_eq_ok_iff.mp hfirstFacts
  obtain ⟨secondManifest, secondPackage, hread', hpackage', -, rfl⟩ :=
    graphFacts_eq_ok_iff.mp hsecondFacts
  obtain rfl := h.distinct first second hfirstMember hsecondMember firstManifest
    secondManifest firstPackage secondPackage ⟨hread, hpackage⟩ ⟨hread', hpackage'⟩ hsame
  exact Prod.ext rfl (hroots.unique hfirst hsecond)

/-- **A legal workspace without a cycle of local dependencies gets an order**, in which
every package comes after its dependencies of each kind.  Dependencies for development
count as the others do, so a cycle that goes through one of them has no order here. -/
theorem legalWorkspace_ordered
    (hlegal : LegalWorkspace fromPath fs globs (normalizeLexicalPath workspaceRoot) config
      manifest workspace)
    (hacyclic : Acyclic fun package dependency => ∃ kind, LocalDependency fromPath fs globs
      (normalizeLexicalPath workspaceRoot) config manifest workspace kind package dependency) :
    ∃ derivation, aspRustWorkspaceBuildDagWithMetrics fromPath fs globs workspaceRoot config =
        .ok derivation ∧
      (∀ root, root ∈ derivation.buildDag.packages.map BuildDagPackage.packageRoot ↔
        IsMember fromPath fs globs (normalizeLexicalPath workspaceRoot) config manifest workspace
          root) ∧
      ∀ package ∈ derivation.buildDag.packages, ∀ dependency ∈ derivation.buildDag.packages,
        ∀ kind, LocalDependency fromPath fs globs (normalizeLexicalPath workspaceRoot) config
            manifest workspace kind package.packageRoot dependency.packageRoot →
          dependency.executionIndex < package.executionIndex := by
  have hnormalized := normalizeLexicalPath_idem workspaceRoot
  obtain ⟨root, hroot⟩ := hlegal.populated
  obtain ⟨packages, hpackages⟩ := exists_dependencyGraphPackages hnormalized hlegal.reads
    ⟨root, hroot⟩ fun other hdiscovered hadmits => hlegal.exists_facts ⟨hdiscovered, hadmits⟩
  obtain ⟨manifest', workspace', hreads, hroots, hmem, -⟩ :=
    dependencyGraphPackages_eq_ok hnormalized hpackages
  obtain rfl := Except.ok.inj (hlegal.reads.read.symm.trans hreads.read)
  obtain rfl := Option.some.inj (hlegal.reads.isWorkspace.symm.trans hreads.isWorkspace)
  have hedge : ∀ {package dependency : Path}, GraphEdge packages package dependency ↔
      ∃ kind, LocalDependency fromPath fs globs (normalizeLexicalPath workspaceRoot) config
        manifest workspace kind package dependency :=
    graphEdge_iff hmem fun root => hlegal.exists_facts
  have hcycles : Acyclic (GraphEdge packages) := by
    intro package hcycle
    exact hacyclic package (Relation.TransGen.mono (fun _ _ => hedge.mp) _ _ hcycle)
  obtain ⟨derivation, hderivation, hmembers, hordered⟩ :=
    exists_derivation hpackages (hlegal.nodup_names hroots hmem) hcycles
  refine ⟨derivation, hderivation, fun other => ?_, ?_⟩
  · rw [hmembers other]
    constructor
    · rintro ⟨facts, hfacts⟩
      exact ((hmem _ _).mp hfacts).1
    · intro hmember
      obtain ⟨facts, hfacts⟩ := hlegal.exists_facts hmember
      exact ⟨facts, (hmem _ _).mpr ⟨hmember, hfacts⟩⟩
  · intro package hpackage dependency hdependency kind hlocal
    exact hordered package hpackage dependency hdependency (hedge.mpr ⟨kind, hlocal⟩)

end Legality

/-! ## A workspace of two packages -/

/-- A workspace directory `/ws` with the package directories `a` and `b`. -/
def pairTree : FileSystem where
  root := .directory [("ws", .directory [("Cargo.toml", .file [] 0),
    ("a", .directory [("Cargo.toml", .file [] 0)]),
    ("b", .directory [("Cargo.toml", .file [] 0)])])]
  wellFormed := by decide

/-- A dependency table with one path. -/
def pathDependency (name path : String) : DepsSet :=
  (∅ : DepsSet).insert name { path := some path }

/-- The workspace manifest, with the member entries given. -/
def pairWorkspace (members : List String) : Manifest := { workspace := some { members } }

/-- A manifest with a package section. -/
def withName (name : String) (manifest : Manifest) : Manifest :=
  { manifest with package := some { name, edition := "2021" } }

/-- The manifests of the workspace. -/
def pairReader (members : List String) (ofA ofB : Manifest) : ManifestReader := fun _ path =>
  if path = [.normal "ws", .normal "Cargo.toml"] then .ok (pairWorkspace members)
  else if path = [.normal "ws", .normal "a", .normal "Cargo.toml"] then .ok (withName "a" ofA)
  else if path = [.normal "ws", .normal "b", .normal "Cargo.toml"] then .ok (withName "b" ofB)
  else .error "No such file or directory (os error 2)"

/-- The globs of patterns without special characters: each matches its own text. -/
def literalGlobs : GlobLibrary where
  glob pattern := .ok fun path => path.text = pattern
  build _ := .ok ()

/-- The roots of the two packages. -/
def pairRoots : List Path := [[.normal "ws", .normal "a"], [.normal "ws", .normal "b"]]

theorem literalGlobs_matchesSome {patterns : List String} {path : Path} :
    MatchesSome literalGlobs patterns path ↔ path.text ∈ patterns := by
  constructor
  · rintro ⟨pattern, hpattern, isMatch, hglob, hmatch⟩
    obtain rfl := Except.ok.inj hglob
    obtain rfl : path.text = pattern := by simpa using hmatch
    exact hpattern
  · intro hpath
    exact ⟨_, hpath, _, rfl, by simp⟩

theorem literalGlobs_compiles (patterns : List String) : Compiles literalGlobs patterns :=
  ⟨fun _ _ => ⟨_, rfl⟩, rfl⟩

section Pair

variable {ofA ofB : Manifest}

/-- Both packages are members, whatever they depend on, when discovery finds these two. -/
theorem pair_isMember
    (hdiscovered : discoveredRoots (pairReader ["a", "b"] ofA ofB) pairTree [.normal "ws"] {} =
      pairRoots) {root : Path} :
    IsMember (pairReader ["a", "b"] ofA ofB) pairTree literalGlobs [.normal "ws"] {}
        (pairWorkspace ["a", "b"]) { members := ["a", "b"] } root ↔ root ∈ pairRoots := by
  rw [IsMember, hdiscovered, and_iff_left_of_imp]
  intro hroot
  rcases List.mem_pair.mp hroot with rfl | rfl
  · exact ⟨[.normal "a"], rfl, literalGlobs_matchesSome.mpr (by decide),
      fun h => by simpa using literalGlobs_matchesSome.mp h⟩
  · exact ⟨[.normal "b"], rfl, literalGlobs_matchesSome.mpr (by decide),
      fun h => by simpa using literalGlobs_matchesSome.mp h⟩

theorem pair_hasPackage {root : Path} {packageManifest : Manifest} {package : Package}
    (hroot : root ∈ pairRoots)
    (h : HasPackage (pairReader ["a", "b"] ofA ofB) pairTree root packageManifest package) :
    root = [.normal "ws", .normal package.name] := by
  obtain ⟨hread, hpackage⟩ := h
  rcases List.mem_pair.mp hroot with rfl | rfl
  · obtain rfl : withName "a" ofA = packageManifest := Except.ok.inj hread
    obtain rfl := Option.some.inj hpackage
    rfl
  · obtain rfl : withName "b" ofB = packageManifest := Except.ok.inj hread
    obtain rfl := Option.some.inj hpackage
    rfl

/-- The workspace is legal, whatever the packages depend on. -/
theorem pair_legal
    (hdiscovered : discoveredRoots (pairReader ["a", "b"] ofA ofB) pairTree [.normal "ws"] {} =
      pairRoots) :
    LegalWorkspace (pairReader ["a", "b"] ofA ofB) pairTree literalGlobs [.normal "ws"] {}
      (pairWorkspace ["a", "b"]) { members := ["a", "b"] } where
  reads := ⟨rfl, rfl, literalGlobs_compiles _, literalGlobs_compiles _⟩
  populated := ⟨[.normal "ws", .normal "a"], (pair_isMember hdiscovered).mpr (by decide)⟩
  named root hmember := by
    rcases List.mem_pair.mp ((pair_isMember hdiscovered).mp hmember) with rfl | rfl
    · exact ⟨withName "a" ofA, ⟨"a", "2021"⟩, ⟨rfl, rfl⟩, by decide⟩
    · exact ⟨withName "b" ofB, ⟨"b", "2021"⟩, ⟨rfl, rfl⟩, by decide⟩
  distinct root other hroot hother _ _ _ _ hpackage hotherPackage hname := by
    rw [pair_hasPackage ((pair_isMember hdiscovered).mp hroot) hpackage,
      pair_hasPackage ((pair_isMember hdiscovered).mp hother) hotherPackage, hname]

/-- The local dependencies, as lists of roots by kind. -/
theorem pair_localDependency
    (hdiscovered : discoveredRoots (pairReader ["a", "b"] ofA ofB) pairTree [.normal "ws"] {} =
      pairRoots) {kind : DependencyKind} {package dependency : Path}
    (h : LocalDependency (pairReader ["a", "b"] ofA ofB) pairTree literalGlobs [.normal "ws"] {}
      (pairWorkspace ["a", "b"]) { members := ["a", "b"] } kind package dependency) :
    (package = [.normal "ws", .normal "a"] ∧ dependency ∈ (tablesOf (withName "a" ofA) kind).flatMap
        (collectGraphDependencyRoots package [.normal "ws"] (some ∅))) ∨
    (package = [.normal "ws", .normal "b"] ∧ dependency ∈ (tablesOf (withName "b" ofB) kind).flatMap
        (collectGraphDependencyRoots package [.normal "ws"] (some ∅))) := by
  obtain ⟨hpackage, -, packageManifest, hread, table, htable, hroot⟩ := h
  rcases List.mem_pair.mp ((pair_isMember hdiscovered).mp hpackage) with rfl | rfl
  · obtain rfl : withName "a" ofA = packageManifest := Except.ok.inj hread
    exact Or.inl ⟨rfl, List.mem_flatMap.mpr ⟨table, htable, hroot⟩⟩
  · obtain rfl : withName "b" ofB = packageManifest := Except.ok.inj hread
    exact Or.inr ⟨rfl, List.mem_flatMap.mpr ⟨table, htable, hroot⟩⟩

/-- A relation with one pair of different elements has no cycle. -/
theorem acyclic_of_single {α : Type*} {r : α → α → Prop} (start finish : α)
    (hne : start ≠ finish) (h : ∀ a b, r a b → a = start ∧ b = finish) : Acyclic r := by
  intro a hcycle
  obtain ⟨next, hstep, -⟩ := Relation.TransGen.head'_iff.mp hcycle
  obtain ⟨before, -, hlast⟩ := Relation.TransGen.tail'_iff.mp hcycle
  exact hne ((h a next hstep).1.symm.trans (h before a hlast).2)

end Pair

/-- The manifest of a package that needs `b`. -/
def needsB : Manifest := { dependencies := pathDependency "b" "../b" }

/-- The manifest of a package whose tests need `a`. -/
def testsNeedA : Manifest := { devDependencies := pathDependency "a" "../a" }

/-- A package and its dependency are ordered. -/
theorem legalWorkspace_ordered_pair :
    ∃ derivation, aspRustWorkspaceBuildDagWithMetrics (pairReader ["a", "b"] needsB {}) pairTree
        literalGlobs [.normal "ws"] {} = .ok derivation ∧
      (∀ root, root ∈ derivation.buildDag.packages.map BuildDagPackage.packageRoot ↔
        root ∈ pairRoots) ∧
      ∀ package ∈ derivation.buildDag.packages, ∀ dependency ∈ derivation.buildDag.packages,
        package.packageRoot = [.normal "ws", .normal "a"] →
        dependency.packageRoot = [.normal "ws", .normal "b"] →
          dependency.executionIndex < package.executionIndex := by
  have hdiscovered : discoveredRoots (pairReader ["a", "b"] needsB {}) pairTree [.normal "ws"] {} =
      pairRoots := by decide +kernel
  have hacyclic : Acyclic fun package dependency => ∃ kind, LocalDependency
      (pairReader ["a", "b"] needsB {}) pairTree literalGlobs [.normal "ws"] {}
      (pairWorkspace ["a", "b"]) { members := ["a", "b"] } kind package dependency := by
    refine acyclic_of_single [.normal "ws", .normal "a"] [.normal "ws", .normal "b"]
      (by decide) ?_
    rintro package dependency ⟨kind, hkind⟩
    rcases pair_localDependency hdiscovered hkind with ⟨rfl, hmem⟩ | ⟨rfl, hmem⟩
    · refine ⟨rfl, ?_⟩
      cases kind
      · exact List.mem_singleton.mp hmem
      · cases hmem
      · cases hmem
    · cases kind <;> cases hmem
  have hlegal : LegalWorkspace (pairReader ["a", "b"] needsB {}) pairTree literalGlobs
      (normalizeLexicalPath [.normal "ws"]) {} (pairWorkspace ["a", "b"])
      { members := ["a", "b"] } := pair_legal hdiscovered
  obtain ⟨derivation, hderivation, hroots, hordered⟩ := legalWorkspace_ordered hlegal hacyclic
  refine ⟨derivation, hderivation, fun root => (hroots root).trans (pair_isMember hdiscovered), ?_⟩
  intro package hpackage dependency hdependency ha hb
  refine hordered package hpackage dependency hdependency .normal ?_
  rw [ha, hb]
  exact ⟨(pair_isMember hdiscovered).mpr (by decide), (pair_isMember hdiscovered).mpr (by decide),
    withName "a" needsB, rfl, pathDependency "b" "../b", List.mem_cons_self,
    List.mem_singleton_self _⟩

/-- A test that needs the package which needs the tested one is no cycle of normal and
build dependencies, and is rejected as a cycle. -/
theorem devCycle_rejected :
    LegalWorkspace (pairReader ["a", "b"] needsB testsNeedA) pairTree literalGlobs
        [.normal "ws"] {} (pairWorkspace ["a", "b"]) { members := ["a", "b"] } ∧
      (Acyclic fun package dependency => ∃ kind, kind ≠ .development ∧
        LocalDependency (pairReader ["a", "b"] needsB testsNeedA) pairTree literalGlobs
          [.normal "ws"] {} (pairWorkspace ["a", "b"]) { members := ["a", "b"] } kind package
          dependency) ∧
      aspRustWorkspaceBuildDagWithMetrics (pairReader ["a", "b"] needsB testsNeedA) pairTree
        literalGlobs [.normal "ws"] {} = .error (.returned (cycleMessage "a")) := by
  have hdiscovered : discoveredRoots (pairReader ["a", "b"] needsB testsNeedA) pairTree
      [.normal "ws"] {} = pairRoots := by decide +kernel
  refine ⟨pair_legal hdiscovered, ?_, by decide +kernel⟩
  refine acyclic_of_single [.normal "ws", .normal "a"] [.normal "ws", .normal "b"]
    (by decide) ?_
  rintro package dependency ⟨kind, hkind, hlocal⟩
  rcases pair_localDependency hdiscovered hlocal with ⟨rfl, hmem⟩ | ⟨rfl, hmem⟩
  · refine ⟨rfl, ?_⟩
    cases kind
    · exact List.mem_singleton.mp hmem
    · cases hmem
    · cases hmem
  · cases kind
    · cases hmem
    · exact absurd rfl hkind
    · cases hmem

end AspRust.Workspace
