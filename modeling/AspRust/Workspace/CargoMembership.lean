import AspRust.Workspace.Legality

/-!
# Membership as Cargo has it

The members of a Cargo workspace are the root package, the packages that the member
entries name, and the packages inside the workspace that path dependencies lead to from
these, without the excluded ones.  `CargoMember` says this over the manifests alone.  How
Cargo reads a pattern is left open: `names` is any relation between entries and
directories.

The derivation comes to its packages in two steps, discovery and the membership filter,
and neither states that rule.  Discovery follows path dependencies; the filter then asks
every root for a member glob again, and drops the ones that only a dependency leads to.
`packages_are_cargoMembers_iff` says exactly when the two steps together give Cargo's
members.

### What is load-bearing

The two steps are given a rule of their own (`Discovered`, `PassesFilter`) in the terms of
Cargo's rule, and the code is shown to follow it.  What is left is to compare two rules, one
closed under path dependencies behind the filter and one in front of it.

`FollowsCargo` has four parts, and each can fail alone: a root package that an exclude entry
drops, a dependency that no member entry names, a member in a hidden directory, and a package
that is reached through one that is no member.
-/

namespace AspRust.Workspace

open AspRust.Foundation AspRust.Discovery Relation

/-- A workspace with a manifest that can be read, and what the derivation is given. -/
structure WorkspaceInstance where
  fromPath : ManifestReader
  fs : FileSystem
  globs : GlobLibrary
  workspaceRoot : Path
  config : AspRustConfig
  manifest : Manifest
  workspace : Discovery.Workspace
  read : fromPath fs (Path.join (normalizeLexicalPath workspaceRoot) "Cargo.toml") = .ok manifest
  isWorkspace : manifest.workspace = some workspace

namespace WorkspaceInstance

variable (w : WorkspaceInstance) (names : String → Path → Prop)

/-- The normalized root of the workspace. -/
def root : Path := normalizeLexicalPath w.workspaceRoot

/-- The Build DAG derived for the workspace. -/
def derive : Outcome AspRustWorkspaceBuildDagDerivation :=
  aspRustWorkspaceBuildDagWithMetrics w.fromPath w.fs w.globs w.workspaceRoot w.config

/-- The workspace root is a package itself. -/
def hasRootPackage : Bool :=
  (w.manifest.package.map Package.name).any fun name => trim name.toList ≠ []

/-- The excluded paths. -/
def excludedPaths : List Path := w.workspace.exclude.map (Path.join w.root)

/-- A directory at or below an excluded path. -/
def Excluded (dir : Path) : Prop := isExcludedMember dir w.excludedPaths = true

/-- A directory inside the workspace. -/
def Inside (dir : Path) : Prop := ∃ relative, dir = w.root ++ relative

/-- A directory with a manifest that is not excluded. -/
def Eligible (dir : Path) : Prop :=
  ¬ w.Excluded dir ∧ w.fs.isFile (Path.join dir "Cargo.toml") = true

/-- A package of the derived graph: discovered, and admitted by the filter. -/
abbrev Admitted (dir : Path) : Prop :=
  IsMember w.fromPath w.fs w.globs w.root w.config w.manifest w.workspace dir

/-! ## Cargo's rule -/

/-- A table lists a path dependency on a directory. -/
def ListsPath (package : Path) (table : DepsSet) (dir : Path) : Prop :=
  ∃ dependency ∈ table.values, ∃ path, dependency.path = some path ∧
    dir = normalizeLexicalPath (Path.join package path)

/-- A package has a path dependency on an eligible directory, in one of its own tables. -/
def PathDependency (package dir : Path) : Prop :=
  (∃ manifest, w.fromPath w.fs (Path.join package "Cargo.toml") = .ok manifest ∧
    ∃ table ∈ packageTables manifest, ListsPath package table dir) ∧ w.Eligible dir

/-- A package inside the workspace that a member entry names. -/
def NamedMember (dir : Path) : Prop :=
  (∃ entry ∈ w.workspace.members, names entry dir) ∧ dir ≠ w.root ∧ w.Inside dir ∧ w.Eligible dir

/-- The root package, and the packages that member entries name. -/
def Seed (dir : Path) : Prop :=
  (w.hasRootPackage = true ∧ dir = w.root) ∨ w.NamedMember names dir

/-- Path dependencies lead to the directory from a seed. -/
def Reached (dir : Path) : Prop :=
  ∃ seed, w.Seed names seed ∧ ReflTransGen w.PathDependency seed dir

/-- **A member of the workspace, by Cargo's rule.** -/
def CargoMember (dir : Path) : Prop :=
  (dir = w.root → w.hasRootPackage = true) ∧ w.Inside dir ∧ ¬ w.Excluded dir ∧
    w.Reached names dir

/-! ## The rule of the two steps -/

/-- A root that the manifest declares as discovery reads it: the entries are expanded over
the file system, and ignored and hidden directories are left out. -/
def DeclaredRoot (dir : Path) : Prop :=
  (w.hasRootPackage = true ∧ dir = w.root) ∨
    (∃ entry ∈ w.workspace.members, ∃ spelled,
      Spells w.fs w.config.ignoredDirNames w.config.includeHiddenDirNames w.root entry spelled ∧
        dir = normalizeLexicalPath spelled) ∧
    takesMember w.fs w.config.ignoredDirNames w.config.includeHiddenDirNames w.root
      w.excludedPaths dir = true

/-- A manifest lists an eligible directory in a `workspace.dependencies` table. -/
def WorkspaceEntry (package dir : Path) : Prop :=
  (∃ manifest workspace, w.fromPath w.fs (Path.join package "Cargo.toml") = .ok manifest ∧
    manifest.workspace = some workspace ∧ ListsPath package workspace.dependencies dir) ∧
    w.Eligible dir

/-- One step of discovery: a path dependency, or an entry of a `workspace.dependencies`
table, which discovery counts as one. -/
def DiscoveryStep (package dir : Path) : Prop :=
  w.PathDependency package dir ∨ w.WorkspaceEntry package dir

/-- A directory that discovery comes to. -/
def Discovered (dir : Path) : Prop :=
  ∃ start, w.DeclaredRoot start ∧ ReflTransGen w.DiscoveryStep start dir

/-- A directory below the root whose relative path matches a member glob and no exclude
glob. -/
def PassesFilter (dir : Path) : Prop :=
  ∃ relative, dir = w.root ++ relative ∧ MatchesSome w.globs w.workspace.members relative ∧
    ¬ MatchesSome w.globs w.workspace.exclude relative

/-- Where discovery leaves Cargo's rule: at a declared root that is no seed, or at an
entry of a `workspace.dependencies` table. -/
def Detour (start : Path) : Prop :=
  (w.DeclaredRoot start ∧ ¬ w.Seed names start) ∨
    ∃ package, w.Discovered package ∧ w.WorkspaceEntry package start

/-- The conditions under which the two steps give Cargo's members. -/
structure FollowsCargo : Prop where
  /-- The root package is not excluded. -/
  rootKept : w.hasRootPackage = true → ¬ w.Excluded w.root
  /-- Every member passes the filter, also one that only a dependency leads to. -/
  admitted : ∀ dir, w.CargoMember names dir → dir ≠ w.root → w.PassesFilter dir
  /-- Every package that a member entry names is discovered: it lies outside ignored and
  hidden directories, or a dependency leads to it. -/
  visible : ∀ dir, w.NamedMember names dir → w.Discovered dir
  /-- What a detour leads to does not pass the filter, unless it is reached without. -/
  detours : ∀ start dir, w.Detour names start → ReflTransGen w.DiscoveryStep start dir →
    dir ≠ w.root → w.PassesFilter dir → w.Reached names dir

variable {w names}

/-! ## The code follows the rule of the two steps -/

theorem parseCargoManifest_root :
    parseCargoManifest w.fromPath w.fs w.root = cargoManifestFacts w.fs w.root w.manifest := by
  rw [parseCargoManifest, show w.fromPath w.fs (Path.join w.root "Cargo.toml") = .ok w.manifest
    from w.read]

theorem workspaceMembers_root :
    (parseCargoManifest w.fromPath w.fs w.root).workspaceMembers = w.workspace.members := by
  rw [parseCargoManifest_root]
  simp [cargoManifestFacts, w.isWorkspace]

theorem workspaceExcludes_root :
    (parseCargoManifest w.fromPath w.fs w.root).workspaceExcludes = w.workspace.exclude := by
  rw [parseCargoManifest_root]
  simp [cargoManifestFacts, w.isWorkspace]

theorem hasPackage_root :
    (parseCargoManifest w.fromPath w.fs w.root).hasPackage = w.hasRootPackage := by
  rw [parseCargoManifest_root]
  rfl

/-- The tables discovery reads are the package's own and the workspace's. -/
theorem mem_dependencyTables {manifest : Manifest} {table : DepsSet} :
    table ∈ manifest.dependencyTables ↔ table ∈ packageTables manifest ∨
      ∃ workspace, manifest.workspace = some workspace ∧ table = workspace.dependencies := by
  have htables : manifest.dependencyTables =
      manifest.workspace.toList.map Discovery.Workspace.dependencies ++ packageTables manifest := by
    simp [Manifest.dependencyTables, packageTables]
  rw [htables, List.mem_append, or_comm]
  refine or_congr_right ?_
  simp [Option.mem_toList, eq_comm]

/-- A step of discovery is an accepted dependency root. -/
theorem mem_acceptedDependencyRoots {package dir : Path} :
    dir ∈ acceptedDependencyRoots w.fromPath w.fs w.excludedPaths package ↔
      w.DiscoveryStep package dir := by
  have heligible : acceptsDependencyRoot w.fs w.excludedPaths dir = true ↔ w.Eligible dir := by
    simp [acceptsDependencyRoot, Eligible, Excluded]
  have hlists : ∀ manifest : Manifest,
      dir ∈ (manifestPathDependencyRoots package manifest).map normalizeLexicalPath ↔
        ∃ table ∈ manifest.dependencyTables, ListsPath package table dir := by
    intro manifest
    simp only [manifestPathDependencyRoots, List.mem_map, OrderedSet.mem_ofList,
      List.mem_flatMap, List.mem_filterMap, Option.map_eq_some_iff, ListsPath]
    constructor
    · rintro ⟨root, ⟨table, htable, dependency, hdependency, path, hpath, rfl⟩, rfl⟩
      exact ⟨table, htable, dependency, hdependency, path, hpath, rfl⟩
    · rintro ⟨table, htable, dependency, hdependency, path, hpath, rfl⟩
      exact ⟨_, ⟨table, htable, dependency, hdependency, path, hpath, rfl⟩, rfl⟩
  rw [acceptedDependencyRoots, List.mem_filter, heligible, DiscoveryStep, PathDependency,
    WorkspaceEntry, ← or_and_right]
  refine and_congr_left fun _ => ?_
  unfold parseCargoManifest
  cases w.fromPath w.fs (Path.join package "Cargo.toml") with
  | error error => simp
  | ok manifest =>
      rw [show (cargoManifestFacts w.fs package manifest).pathDependencyRoots =
        manifestPathDependencyRoots package manifest from rfl, hlists]
      simp only [mem_dependencyTables, Except.ok.injEq, exists_eq_left']
      constructor
      · rintro ⟨table, htable | ⟨workspace, hworkspace, rfl⟩, hlisted⟩
        · exact Or.inl ⟨table, htable, hlisted⟩
        · exact Or.inr ⟨manifest, workspace, rfl, hworkspace, hlisted⟩
      · rintro (⟨table, htable, hlisted⟩ | ⟨_, workspace, rfl, hworkspace, hlisted⟩)
        · exact ⟨table, Or.inl htable, hlisted⟩
        · exact ⟨_, Or.inr ⟨workspace, hworkspace, rfl⟩, hlisted⟩

theorem acceptedDependencyRoots_eq :
    (fun a b => b ∈ acceptedDependencyRoots w.fromPath w.fs w.excludedPaths a) =
      w.DiscoveryStep := by
  funext package dir
  exact propext mem_acceptedDependencyRoots

/-- What discovery finds in a workspace with member entries. -/
theorem mem_discoveredRoots (hmembers : w.workspace.members ≠ [])
    (hmanifest : w.fs.isFile (Path.join w.root "Cargo.toml") = true) {dir : Path} :
    dir ∈ discoveredRoots w.fromPath w.fs w.root w.config ↔ w.Discovered dir := by
  refine (mem_discoverCargoPackageRoots w.fs w.config.ignoredDirNames
    w.config.includeHiddenDirNames w.root w.fromPath hmanifest).trans ?_
  rw [workspaceMembers_root, if_neg hmembers, workspaceExcludes_root]
  unfold Worklist.Reachable Discovered
  rw [show w.workspace.exclude.map (Path.join w.root) = w.excludedPaths from rfl,
    acceptedDependencyRoots_eq]
  refine exists_congr fun start => and_congr_left fun _ => ?_
  rw [mem_declaredRoots, workspaceMembers_root, hasPackage_root, workspaceExcludes_root]
  rfl

section Derived

variable {derivation : AspRustWorkspaceBuildDagDerivation} {dir : Path}

/-- The packages of a derived graph are the members, and each has a named manifest. -/
theorem mem_packageRoots (h : w.derive = .ok derivation) :
    (∀ dir, dir ∈ derivation.buildDag.packages.map BuildDagPackage.packageRoot ↔
      w.Admitted dir) ∧
    ∀ dir, w.Admitted dir →
      ∃ facts, packageFacts w.fromPath w.fs w.root w.workspace dir = .ok facts := by
  obtain ⟨packages, hpackages, hroots⟩ := mem_packageRoots_of_derivation h
  obtain ⟨manifest, workspace, hreads, -, hmem, hfacts⟩ :=
    dependencyGraphPackages_eq_ok (normalizeLexicalPath_idem w.workspaceRoot) hpackages
  obtain rfl : w.manifest = manifest := Except.ok.inj (w.read.symm.trans hreads.read)
  obtain rfl : w.workspace = workspace :=
    Option.some.inj (w.isWorkspace.symm.trans hreads.isWorkspace)
  have hnamed : ∀ dir, w.Admitted dir → ∃ facts, packageFacts w.fromPath w.fs w.root w.workspace dir = .ok facts :=
    fun dir hdir => hfacts dir hdir.1 hdir.2
  refine ⟨fun dir => (hroots dir).trans ?_, hnamed⟩
  constructor
  · rintro ⟨facts, hmember⟩
    exact ((hmem dir facts).mp hmember).1
  · intro hmember
    obtain ⟨facts, hread⟩ := hnamed dir hmember
    exact ⟨facts, (hmem dir facts).mpr ⟨hmember, hread⟩⟩

/-- A derived graph has a workspace manifest on disk. -/
theorem isFile_of_derive (h : w.derive = .ok derivation) :
    w.fs.isFile (Path.join w.root "Cargo.toml") = true := by
  obtain ⟨packages, hpackages, -⟩ := mem_packageRoots_of_derivation h
  by_contra hfile
  have hnone : discoverCargoPackageRoots w.fromPath w.fs (normalizeLexicalPath w.workspaceRoot)
      w.config.ignoredDirNames w.config.includeHiddenDirNames = [] := if_neg hfile
  rw [dependencyGraphPackages, hnone] at hpackages
  cases hpackages

/-- Below the root, the members are the discovered directories that pass the filter. -/
theorem admitted_iff_of_ne_root (hfile : w.fs.isFile (Path.join w.root "Cargo.toml") = true)
    (hne : dir ≠ w.root) :
    w.Admitted dir ↔
      w.Discovered dir ∧ w.PassesFilter dir := by
  rw [Admitted, IsMember, Admits, if_neg hne, ← PassesFilter]
  by_cases hmembers : w.workspace.members = []
  · -- without member entries nothing passes the filter
    have hnone : ¬ w.PassesFilter dir := by
      rintro ⟨relative, -, ⟨pattern, hpattern, -⟩, -⟩
      rw [hmembers] at hpattern
      cases hpattern
    simp [hnone]
  · rw [mem_discoveredRoots hmembers hfile]

/-- The root is a member of a derived graph exactly when it is a package. -/
theorem admitted_root_iff (h : w.derive = .ok derivation)
    (hfile : w.fs.isFile (Path.join w.root "Cargo.toml") = true) :
    w.Admitted w.root ↔
      w.hasRootPackage = true := by
  constructor
  · intro hmember
    obtain ⟨facts, hfacts⟩ := (mem_packageRoots h).2 _ hmember
    obtain ⟨manifest, package, hread, hpackage, hname, -⟩ := graphFacts_eq_ok_iff.mp hfacts
    obtain rfl : w.manifest = manifest := Except.ok.inj (w.read.symm.trans hread)
    simp [hasRootPackage, hpackage, hname]
  · intro hroot
    have hsome : w.manifest.package.isSome = true := by
      cases hpackage : w.manifest.package with
      | none => simp [hasRootPackage, hpackage] at hroot
      | some package => rfl
    refine ⟨?_, by rw [Admits, if_pos rfl]; exact hsome⟩
    by_cases hmembers : w.workspace.members = []
    · refine (mem_discoverCargoPackageRoots w.fs w.config.ignoredDirNames
        w.config.includeHiddenDirNames w.root w.fromPath hfile).mpr ?_
      rw [workspaceMembers_root, if_pos hmembers]
      exact ⟨w.root, by simp, .refl⟩
    · exact (mem_discoveredRoots hmembers hfile).mpr ⟨w.root, Or.inl ⟨hroot, rfl⟩, .refl⟩

/-- A discovered directory other than the root is not excluded. -/
theorem not_excluded_of_discovered (hne : dir ≠ w.root) (h : w.Discovered dir) :
    ¬ w.Excluded dir := by
  obtain ⟨start, hstart, hpath⟩ := h
  rcases ReflTransGen.cases_tail hpath with rfl | ⟨before, -, hstep⟩
  · rcases hstart with ⟨-, hroot⟩ | ⟨-, htakes⟩
    · exact absurd hroot hne
    · rw [takesMember, Bool.and_eq_true, Bool.and_eq_true] at htakes
      simpa [Excluded] using htakes.1.2
  · rcases hstep with ⟨-, heligible⟩ | ⟨-, heligible⟩ <;> exact heligible.1

/-- Discovery stays with Cargo's rule, or takes a detour. -/
theorem reached_or_detour (h : w.Discovered dir) :
    w.Reached names dir ∨
      ∃ start, w.Detour names start ∧ ReflTransGen w.DiscoveryStep start dir := by
  obtain ⟨declared, hdeclared, hpath⟩ := h
  induction hpath with
  | refl =>
      by_cases hseed : w.Seed names declared
      · exact Or.inl ⟨declared, hseed, .refl⟩
      · exact Or.inr ⟨declared, Or.inl ⟨hdeclared, hseed⟩, .refl⟩
  | @tail package next hbefore hstep ih =>
      rcases ih with ⟨seed, hseed, hreached⟩ | ⟨start, hdetour, hreached⟩
      · rcases hstep with hdependency | hentry
        · exact Or.inl ⟨seed, hseed, hreached.tail hdependency⟩
        · exact Or.inr ⟨next, Or.inr ⟨package, ⟨declared, hdeclared, hbefore⟩, hentry⟩, .refl⟩
      · exact Or.inr ⟨start, hdetour, hreached.tail hstep⟩

/-- A detour starts at a discovered directory. -/
theorem discovered_of_detour {start : Path} (h : w.Detour names start)
    (hpath : ReflTransGen w.DiscoveryStep start dir) : w.Discovered dir := by
  rcases h with ⟨hdeclared, -⟩ | ⟨package, ⟨declared, hdeclared, hbefore⟩, hentry⟩
  · exact ⟨start, hdeclared, hpath⟩
  · exact ⟨declared, hdeclared, (hbefore.tail (Or.inr hentry)).trans hpath⟩

/-- **When the packages of the graph are Cargo's members.**  Each condition is about one
place where the derivation of the graph and Cargo part: an excluded root package,
members that no glob of the filter matches, packages in directories that discovery does
not enter, and packages that only discovery comes to.  Together they are exact: where
one of them fails, a package is missing or one too many. -/
theorem packages_are_cargoMembers_iff (h : w.derive = .ok derivation) :
    (∀ dir, dir ∈ derivation.buildDag.packages.map BuildDagPackage.packageRoot ↔
        w.CargoMember names dir) ↔
      w.FollowsCargo names := by
  have hfile := isFile_of_derive h
  have hroot := admitted_root_iff h hfile
  have hbelow : ∀ dir, dir ≠ w.root →
      (w.Admitted dir ↔ w.Discovered dir ∧ w.PassesFilter dir) := fun dir hne =>
    admitted_iff_of_ne_root hfile hne
  simp only [(mem_packageRoots h).1]
  constructor
  · intro hsame
    have hnamed : ∀ dir, w.NamedMember names dir → w.CargoMember names dir := by
      rintro dir ⟨hentry, hne, hinside, heligible⟩
      exact ⟨fun heq => absurd heq hne, hinside, heligible.1, dir,
        Or.inr ⟨hentry, hne, hinside, heligible⟩, .refl⟩
    exact
      { rootKept := fun hpackage => ((hsame w.root).mp (hroot.mpr hpackage)).2.2.1
        admitted := fun dir hmember hne =>
          ((hbelow dir hne).mp ((hsame dir).mpr hmember)).2
        visible := fun dir hmember =>
          ((hbelow dir hmember.2.1).mp ((hsame dir).mpr (hnamed dir hmember))).1
        detours := fun start dir hdetour hpath hne hpasses =>
          ((hsame dir).mp ((hbelow dir hne).mpr
            ⟨discovered_of_detour hdetour hpath, hpasses⟩)).2.2.2 }
  · intro hfollows dir
    by_cases hne : dir = w.root
    · subst hne
      rw [hroot]
      constructor
      · intro hpackage
        exact ⟨fun _ => hpackage, ⟨[], by simp⟩, hfollows.rootKept hpackage, w.root,
          Or.inl ⟨hpackage, rfl⟩, .refl⟩
      · intro hmember
        exact hmember.1 rfl
    · rw [hbelow dir hne]
      constructor
      · rintro ⟨hdiscovered, hpasses⟩
        have hinside : w.Inside dir := hpasses.imp fun _ hrelative => hrelative.1
        refine ⟨fun heq => absurd heq hne, hinside,
          not_excluded_of_discovered hne hdiscovered, ?_⟩
        rcases reached_or_detour hdiscovered with hreached | ⟨start, hdetour, hpath⟩
        · exact hreached
        · exact hfollows.detours start dir hdetour hpath hne hpasses
      · intro hmember
        obtain ⟨seed, hseed, hpath⟩ := hmember.2.2.2
        refine ⟨?_, hfollows.admitted dir hmember hne⟩
        have hstart : w.Discovered seed := by
          rcases hseed with ⟨hpackage, rfl⟩ | hnamed
          · exact ⟨w.root, Or.inl ⟨hpackage, rfl⟩, .refl⟩
          · exact hfollows.visible seed hnamed
        obtain ⟨declared, hdeclared, hbefore⟩ := hstart
        exact ⟨declared, hdeclared, hbefore.trans
          (ReflTransGen.mono (fun _ _ => Or.inl) _ _ hpath)⟩

end Derived

end WorkspaceInstance

/-! ## A dependency that no member entry names -/

/-- The workspace of two packages, the first of which needs the second. -/
def pairInstance (members : List String) : WorkspaceInstance where
  fromPath := pairReader members needsB {}
  fs := pairTree
  globs := literalGlobs
  workspaceRoot := [.normal "ws"]
  config := {}
  manifest := pairWorkspace members
  workspace := { members }
  read := rfl
  isWorkspace := rfl

/-- An entry without special characters names the directory it spells. -/
def namesLiterally (entry : String) (dir : Path) : Prop :=
  dir = normalizeLexicalPath (Path.join [.normal "ws"] entry)

/-- Path dependencies do not lead out of the two packages. -/
theorem pair_pathDependency {members : List String} {package dir : Path}
    (hpackage : package ∈ pairRoots)
    (h : (pairInstance members).PathDependency package dir) : dir ∈ pairRoots := by
  obtain ⟨⟨manifest, hread, table, htable, dependency, hdependency, path, hpath, rfl⟩, -⟩ := h
  rcases List.mem_pair.mp hpackage with rfl | rfl
  · obtain rfl : withName "a" needsB = manifest := Except.ok.inj hread
    rcases List.mem_cons.mp htable with rfl | htable
    · obtain rfl := List.mem_singleton.mp hdependency
      obtain rfl := Option.some.inj hpath
      decide
    · rcases List.mem_pair.mp htable with rfl | rfl <;> cases hdependency
  · obtain rfl : withName "b" {} = manifest := Except.ok.inj hread
    rcases List.mem_cons.mp htable with rfl | htable
    · cases hdependency
    · rcases List.mem_pair.mp htable with rfl | rfl <;> cases hdependency

/-- With both packages for members, Cargo's members are the two. -/
theorem pair_cargoMember {dir : Path} :
    (pairInstance ["a", "b"]).CargoMember namesLiterally dir ↔ dir ∈ pairRoots := by
  constructor
  · rintro ⟨-, -, -, seed, hseed, hpath⟩
    induction hpath with
    | refl =>
        rcases hseed with ⟨hpackage, -⟩ | ⟨⟨entry, hentry, hnames⟩, -⟩
        · cases hpackage
        · obtain rfl | rfl := List.mem_pair.mp hentry
          · exact List.mem_pair.mpr (Or.inl hnames)
          · exact List.mem_pair.mpr (Or.inr hnames)
    | tail _ hstep ih => exact pair_pathDependency ih hstep
  · intro hdir
    rcases List.mem_pair.mp hdir with rfl | rfl
    · exact ⟨fun heq => absurd heq (by decide), ⟨[.normal "a"], rfl⟩, Bool.false_ne_true, _,
        Or.inr ⟨⟨"a", by decide, rfl⟩, by decide, ⟨[.normal "a"], rfl⟩, Bool.false_ne_true, rfl⟩,
        .refl⟩
    · exact ⟨fun heq => absurd heq (by decide), ⟨[.normal "b"], rfl⟩, Bool.false_ne_true, _,
        Or.inr ⟨⟨"b", by decide, rfl⟩, by decide, ⟨[.normal "b"], rfl⟩, Bool.false_ne_true, rfl⟩,
        .refl⟩

/-- With both packages for members, the graph has Cargo's members and meets the
conditions. -/
theorem packages_are_cargoMembers_pair :
    ∃ derivation, (pairInstance ["a", "b"]).derive = .ok derivation ∧
      (∀ dir, dir ∈ derivation.buildDag.packages.map BuildDagPackage.packageRoot ↔
        (pairInstance ["a", "b"]).CargoMember namesLiterally dir) ∧
      (pairInstance ["a", "b"]).FollowsCargo namesLiterally := by
  obtain ⟨derivation, hderive, hroots⟩ : ∃ derivation,
      (pairInstance ["a", "b"]).derive = .ok derivation ∧
        derivation.buildDag.packages.map BuildDagPackage.packageRoot = pairRoots.reverse := by
    refine ⟨⟨⟨workspaceBuildDagSchemaId, workspaceBuildDagSchemaVersion, [.normal "ws"],
      [⟨"b", [.normal "ws", .normal "b"], [], 0⟩,
        ⟨"a", [.normal "ws", .normal "a"], ["b"], 1⟩]⟩, ⟨2, 2, 3, 1⟩⟩, ?_, rfl⟩
    decide +kernel
  have hsame : ∀ dir, dir ∈ derivation.buildDag.packages.map BuildDagPackage.packageRoot ↔
      (pairInstance ["a", "b"]).CargoMember namesLiterally dir := by
    intro dir
    rw [hroots, List.mem_reverse, pair_cargoMember]
  exact ⟨derivation, hderive, hsame,
    (WorkspaceInstance.packages_are_cargoMembers_iff hderive).mp hsame⟩

/-- The dependency of a member is a member for Cargo, and is dropped from the graph when
no member entry names it. -/
theorem packages_drop_pathDependency :
    ∃ derivation, (pairInstance ["a"]).derive = .ok derivation ∧
      (pairInstance ["a"]).CargoMember namesLiterally [.normal "ws", .normal "b"] ∧
      [.normal "ws", .normal "b"] ∉
        derivation.buildDag.packages.map BuildDagPackage.packageRoot ∧
      ¬ ∀ dir, dir ∈ derivation.buildDag.packages.map BuildDagPackage.packageRoot ↔
        (pairInstance ["a"]).CargoMember namesLiterally dir := by
  have hmember : (pairInstance ["a"]).CargoMember namesLiterally [.normal "ws", .normal "b"] := by
    refine ⟨fun heq => absurd heq (by decide), ⟨[.normal "b"], rfl⟩, Bool.false_ne_true,
      [.normal "ws", .normal "a"], Or.inr ?_, ReflTransGen.single ?_⟩
    · exact ⟨⟨"a", List.mem_singleton_self _, rfl⟩, by decide, ⟨[.normal "a"], rfl⟩,
        Bool.false_ne_true, rfl⟩
    · exact ⟨⟨withName "a" needsB, rfl, pathDependency "b" "../b", List.mem_cons_self,
        { path := some "../b" }, List.mem_singleton_self _, "../b", rfl, rfl⟩,
        Bool.false_ne_true, rfl⟩
  refine ⟨⟨⟨workspaceBuildDagSchemaId, workspaceBuildDagSchemaVersion, [.normal "ws"],
    [⟨"a", [.normal "ws", .normal "a"], [], 0⟩]⟩, ⟨2, 1, 2, 0⟩⟩, ?_, hmember, by decide,
    fun hsame => ?_⟩
  · decide +kernel
  · exact absurd ((hsame _).mpr hmember) (by decide)

end AspRust.Workspace
