import AspRust.Analysis.Runner
import AspRust.Discovery.Membership

/-!
# A workspace run

A workspace run discovers the package roots of a project and makes one package run
for each of them.  Each of these runs keeps out of the packages that its own manifest
declares, while the list of roots comes from the manifests of all of them.

The file system decides what is one file: two paths lead to one file when they have one
physical location.  `WalksInto` says at which locations the walk of a package is, and
`walksInto_iff` reads it off the tree; `partitionsSources_iff` says which workspaces are
partitioned by their package runs.

### What is load-bearing

The walks of two packages meet in two ways: one enters the directory of the other, or both
go to a third place.  `KeptApart` names for each what prevents it, by the monitored paths,
the exclusion roots of the package itself and the tree, without a word about what was
parsed.

The exclusion roots are read from the manifest of the package.  In a workspace it is the
manifest of the root that lists the members, so a member that lies inside another one is not
known to that one: `nestedMember_parsedTwice`.
-/

namespace AspRust.Analysis

open AspRust.Foundation AspRust.Discovery

/-! ## The run

One package run for each discovered root, with the configuration of the workspace. -/

/-- A package of a workspace run with its parsed modules. -/
structure AspRustPackageAnalysis where
  scope : AspRustScope
  parsedModules : List ParsedRustModule

/-- A workspace run. -/
structure MemberScopedAnalysis where
  projectRoot : Path
  projectResolution : AspRustScope
  packageAnalyses : List AspRustPackageAnalysis
  memberScoped : Bool
  parsePassCount : ℕ

/-- One discovery and parse pass, over one package root. -/
def analyzePackageRoot (nativeSyntax : SyntaxReader) (config : AspRustConfig)
    (packageRoot : Path) : FileProgram AspRustPackageAnalysis := do
  let scope ← scopeProgram packageRoot config
  let parsedModules ← parsePackagePaths nativeSyntax scope.monitoredPaths packageRoot config
  return ⟨scope, parsedModules⟩

/-- One pass for every package root. -/
def analyzeMemberScopedProject (nativeSyntax : SyntaxReader) (projectRoot : Path)
    (packageRoots : List Path) (config : AspRustConfig) :
    FileProgram MemberScopedAnalysis := do
  let packageAnalyses ← packageRoots.mapM (analyzePackageRoot nativeSyntax config)
  let projectResolution ← scopeProgram projectRoot config
  return {
    projectRoot
    projectResolution
    packageAnalyses
    memberScoped := true
    parsePassCount := packageAnalyses.length }

section Walks

variable (fromPath : ManifestReader) (fs : FileSystem) (config : AspRustConfig)

/-- The workspace run over the package roots that discovery finds. -/
def workspaceAnalysis (nativeSyntax : SyntaxReader) (projectRoot : Path) :
    MemberScopedAnalysis :=
  (analyzeMemberScopedProject nativeSyntax projectRoot
    (discoverCargoPackageRoots fromPath fs projectRoot config.ignoredDirNames
      config.includeHiddenDirNames) config).run (answers fromPath fs)

/-! ## What the walk of a package reads

Where a walk is, by physical locations: at the directories that it reads and at the Rust
files that it parses. -/

/-- The paths that the walk of a package starts at. -/
def monitoredPathsOf (packageRoot : Path) : List Path :=
  (aspRustScope fromPath fs packageRoot config).monitoredPaths

/-- A walk reads a directory that it enters, and parses a Rust file. -/
def readsNode (filter : WalkFilter) (path : Path) : Node → Bool
  | .directory _ => filter.enters path
  | .file _ _ => isRustFile path
  | _ => false

/-- The walk of a package reads the directory at a location, or parses the Rust file
there. -/
def WalksInto (packageRoot : Path) (location : List String) : Prop :=
  let filter := packageWalkFilter fromPath fs packageRoot config
  ∃ start ∈ monitoredPathsOf fromPath fs config packageRoot, ∃ node, fs.lstat start = some node ∧
    ∃ path found, Reaches filter.enters filter.admits start node path found ∧
      readsNode filter path found = true ∧ fs.canonicalLocation? path = some location

/-- The way from a path down some names is open to the walk of a package: no name is
ignored or hidden, and no directory on it is a package of the package's own manifest. -/
abbrev OpenTo (packageRoot path : Path) (names : List String) : Prop :=
  OpenWay (packageWalkFilter fromPath fs packageRoot config).enters
    (fun name => !shouldIgnoreDirName config.ignoredDirNames config.includeHiddenDirNames name)
    path names

/-- A location in the directory of a package. -/
def InPackage (packageRoot : Path) (location : List String) : Prop :=
  ∃ directory, fs.canonicalLocation? packageRoot = some directory ∧ directory <+: location

/-- A location in the directory of another package, which is not in the package's own
directory inside that one. -/
def InOther (packageRoot other : Path) (location : List String) : Prop :=
  ∃ directory, fs.canonicalLocation? other = some directory ∧ directory <+: location ∧
    ¬ ∃ own, fs.canonicalLocation? packageRoot = some own ∧ directory <+: own ∧ own <+: location

/-- The locations of the files that a package run parsed. -/
def parsedLocations (analysis : AspRustPackageAnalysis) : List (List String) :=
  analysis.parsedModules.filterMap fun module => fs.canonicalLocation? module.report.path

/-- **Workspace runs partition the sources**: no file is parsed in two package runs, and
the walk of a package is never in the directory of another one. -/
structure PartitionsSources (packageRoots : List Path) (analysis : MemberScopedAnalysis) :
    Prop where
  parsedOnce : analysis.packageAnalyses.Pairwise fun first second =>
    (parsedLocations fs first).Disjoint (parsedLocations fs second)
  ownDirectory : ∀ packageRoot ∈ packageRoots, ∀ other ∈ packageRoots, packageRoot ≠ other →
    ∀ location, WalksInto fromPath fs config packageRoot location →
      ¬ InOther fs packageRoot other location

/-! ## What keeps two packages apart -/

/-- Nothing that the walk of a package takes up at a monitored path lies in another
package. -/
def StartsOutside (packageRoot other : Path) : Prop :=
  ∀ start ∈ monitoredPathsOf fromPath fs config packageRoot,
    ∀ node location, fs.lstat start = some node →
      readsNode (packageWalkFilter fromPath fs packageRoot config) start node = true →
      fs.canonicalLocation? start = some location → ¬ InOther fs packageRoot other location

/-- Where another package lies below a monitored directory, a name on the way is ignored
or hidden, or a directory on the way is a package of the package's own manifest. -/
def CutOff (packageRoot other : Path) : Prop :=
  ∀ start ∈ monitoredPathsOf fromPath fs config packageRoot,
    ∀ location names, fs.isSymlinkPath start = false →
      fs.canonicalLocation? start = some location → names ≠ [] →
      fs.canonicalLocation? other = some (location ++ names) →
      fs.canonicalLocation? packageRoot ≠ some (location ++ names) →
      (∃ name ∈ names, shouldIgnoreDirName config.ignoredDirNames config.includeHiddenDirNames
        name = true) ∨
      ∃ before, before <+: names ∧
        (packageWalkFilter fromPath fs packageRoot config).enters
          (start ++ before.map .normal) = false

/-- A Rust file outside of both packages, or in one directory that both have, and below
monitored paths of both: one of the two is cut off from it. -/
def SharesNothing (packageRoot other : Path) : Prop :=
  ∀ start ∈ monitoredPathsOf fromPath fs config packageRoot,
    ∀ otherStart ∈ monitoredPathsOf fromPath fs config other,
    ∀ location otherLocation names otherNames content modified,
      fs.isSymlinkPath start = false → fs.isSymlinkPath otherStart = false →
      fs.canonicalLocation? start = some location →
      fs.canonicalLocation? otherStart = some otherLocation →
      location ++ names = otherLocation ++ otherNames →
      fs.root.descend? (location ++ names) = some (.file content modified) →
      isRustFile (start ++ names.map .normal) = true →
      isRustFile (otherStart ++ otherNames.map .normal) = true →
      (fs.canonicalLocation? packageRoot = fs.canonicalLocation? other ∨
        ¬ InPackage fs packageRoot (location ++ names) ∧
          ¬ InPackage fs other (location ++ names)) →
      ¬ (OpenTo fromPath fs config packageRoot start names ∧
        OpenTo fromPath fs config other otherStart otherNames)

/-- What keeps two packages apart: facts of their monitored paths, their exclusions and the
tree. -/
structure KeptApart (packageRoot other : Path) : Prop where
  startsOutside : StartsOutside fromPath fs config packageRoot other
  cutOff : CutOff fromPath fs config packageRoot other
  sharesNothing : SharesNothing fromPath fs config packageRoot other

end Walks

section Reading

variable {fromPath : ManifestReader} {fs : FileSystem} {config : AspRustConfig}
variable {packageRoot other : Path}

theorem takenAsIs_of_readsNode {filter : WalkFilter} {path : Path} {node : Node}
    (h : readsNode filter path node = true) : node.takenAsIs true = true := by
  cases node with
  | symlink absolute target => simp [readsNode] at h
  | _ => rfl

/-- **Where the walk of a package is**: at the end of an open way from a monitored path
that is no link. -/
theorem walksInto_iff {location : List String} :
    WalksInto fromPath fs config packageRoot location ↔
      ∃ start ∈ monitoredPathsOf fromPath fs config packageRoot, ∃ base names found,
        fs.isSymlinkPath start = false ∧ fs.canonicalLocation? start = some base ∧
        location = base ++ names ∧ fs.root.descend? location = some found ∧
        OpenTo fromPath fs config packageRoot start names ∧
        readsNode (packageWalkFilter fromPath fs packageRoot config)
          (start ++ names.map .normal) found = true := by
  constructor
  · rintro ⟨start, hstart, node, hnode, path, found, hreach, hreads, hlocation⟩
    obtain ⟨names, rfl, hbelow, hopen⟩ :=
      (reaches_iff_openWay (FileSystem.lstat_wellFormed hnode)).mp hreach
    have hnolink := takenAsIs_of_readsNode hreads
    have hnodeTaken := Node.takenAsIs_of_descend? hbelow hnolink
    obtain ⟨base, hbase, hat⟩ := FileSystem.location_of_lstat hnode hnodeTaken
    have hsame := FileSystem.canonicalLocation?_append hbase hat hbelow hnolink
    obtain rfl : base ++ names = location := Option.some.inj (hsame.symm.trans hlocation)
    refine ⟨start, hstart, base, names, found, ?_, hbase, rfl, ?_, hopen, hreads⟩
    · unfold FileSystem.isSymlinkPath
      rw [hnode]
      cases node with
      | symlink absolute target => cases hnodeTaken
      | _ => rfl
    · rw [Node.descend?_append, hat]
      exact hbelow
  · rintro ⟨start, hstart, base, names, found, hlink, hbase, rfl, hfound, hopen, hreads⟩
    obtain ⟨node, hat, hbelow⟩ :=
      Option.bind_eq_some_iff.mp (Node.descend?_append _ base names ▸ hfound)
    have hnode := FileSystem.lstat_of_location hlink hbase hat
    refine ⟨start, hstart, node, hnode, _, found, ?_, hreads,
      FileSystem.canonicalLocation?_append hbase hat hbelow (takenAsIs_of_readsNode hreads)⟩
    exact (reaches_iff_openWay (FileSystem.lstat_wellFormed hnode)).mpr
      ⟨names, rfl, hbelow, hopen⟩

/-- The files a package run parses are the files its walk comes to. -/
theorem mem_parsedLocations {nativeSyntax : SyntaxReader} {location : List String} :
    location ∈ parsedLocations fs
        ((analyzePackageRoot nativeSyntax config packageRoot).run (answers fromPath fs)) ↔
      WalksInto fromPath fs config packageRoot location ∧
        ∃ content modified, fs.root.descend? location = some (.file content modified) := by
  have hparsed : parsedLocations fs
      ((analyzePackageRoot nativeSyntax config packageRoot).run (answers fromPath fs)) =
        (discoverRustPackageFiles (packageWalkFilter fromPath fs packageRoot config) fs
          (monitoredPathsOf fromPath fs config packageRoot)).filterMap fs.canonicalLocation? := by
    unfold parsedLocations analyzePackageRoot monitoredPathsOf
    rw [← parsePackagePaths_paths nativeSyntax, List.filterMap_map]
    simp only [Program.run_bind, scopeProgram_run]
    rfl
  rw [hparsed, List.mem_filterMap]
  constructor
  · rintro ⟨path, hpath, hlocation⟩
    obtain ⟨hrust, start, hstart, node, hnode, content, modified, hreach⟩ :=
      mem_discoverRustPackageFiles.mp hpath
    obtain ⟨place, hplace, hat⟩ := FileSystem.location_of_lstat (hreach.lstat hnode) rfl
    obtain rfl : place = location := Option.some.inj (hplace.symm.trans hlocation)
    exact ⟨⟨start, hstart, node, hnode, path, _, hreach, hrust, hlocation⟩,
      content, modified, hat⟩
  · rintro ⟨⟨start, hstart, node, hnode, path, found, hreach, hreads, hlocation⟩,
      content, modified, hfile⟩
    obtain ⟨place, hplace, hat⟩ :=
      FileSystem.location_of_lstat (hreach.lstat hnode) (takenAsIs_of_readsNode hreads)
    obtain rfl : place = location := Option.some.inj (hplace.symm.trans hlocation)
    obtain rfl : found = .file content modified := Option.some.inj (hat.symm.trans hfile)
    exact ⟨path, mem_discoverRustPackageFiles.mpr
      ⟨hreads, start, hstart, node, hnode, content, modified, hreach⟩, hlocation⟩

/-! ## When a walk stays out of another package

A walk gets into a directory from a monitored path in it, or from above by the names on
the way down.  Links are not followed on the way, but a monitored path can lead through
one. -/

/-- A package directory below an open way, entered at its end, is walked into. -/
theorem walksInto_below {start : Path} {base names : List String}
    {entries : List (String × Node)}
    (hstart : start ∈ monitoredPathsOf fromPath fs config packageRoot)
    (hlink : fs.isSymlinkPath start = false) (hbase : fs.canonicalLocation? start = some base)
    (hdirectory : fs.root.descend? (base ++ names) = some (.directory entries))
    (hnames : ∀ name ∈ names, ¬ shouldIgnoreDirName config.ignoredDirNames
      config.includeHiddenDirNames name = true)
    (henters : ∀ before, before <+: names →
      ¬ (packageWalkFilter fromPath fs packageRoot config).enters
        (start ++ before.map .normal) = false) :
    WalksInto fromPath fs config packageRoot (base ++ names) := by
  refine walksInto_iff.mpr ⟨start, hstart, base, names, .directory entries, hlink, hbase, rfl,
    hdirectory, ⟨?_, ?_⟩, ?_⟩
  · intro name hname
    simpa using hnames name hname
  · intro before after heq _
    exact Bool.not_eq_false _ ▸ henters before ⟨after, heq.symm⟩
  · show (packageWalkFilter fromPath fs packageRoot config).enters _ = true
    exact Bool.not_eq_false _ ▸ henters names List.prefix_rfl

/-- A walk that goes on from a directory has entered it, and a walk that ends there has
too. -/
theorem enters_of_openTo {start : Path} {base names more : List String} {found : Node}
    {entries : List (String × Node)}
    (hdirectory : fs.root.descend? (base ++ names) = some (.directory entries))
    (hfound : fs.root.descend? (base ++ (names ++ more)) = some found)
    (hopen : OpenTo fromPath fs config packageRoot start (names ++ more))
    (hreads : readsNode (packageWalkFilter fromPath fs packageRoot config)
      (start ++ (names ++ more).map .normal) found = true) :
    (packageWalkFilter fromPath fs packageRoot config).enters
      (start ++ names.map .normal) = true := by
  by_cases hmore : more = []
  · subst hmore
    rw [List.append_nil] at hfound hreads
    obtain rfl : Node.directory entries = found := Option.some.inj (hdirectory.symm.trans hfound)
    exact hreads
  · exact hopen.entered names more rfl hmore

/-- A walk that comes anywhere has taken up the monitored path it came from. -/
theorem readsNode_start {start : Path} {base names : List String} {found : Node}
    (hlink : fs.isSymlinkPath start = false) (hbase : fs.canonicalLocation? start = some base)
    (hfound : fs.root.descend? (base ++ names) = some found)
    (hopen : OpenTo fromPath fs config packageRoot start names)
    (hreads : readsNode (packageWalkFilter fromPath fs packageRoot config)
      (start ++ names.map .normal) found = true) :
    ∃ node, fs.lstat start = some node ∧
      readsNode (packageWalkFilter fromPath fs packageRoot config) start node = true := by
  obtain ⟨node, hat, hbelow⟩ :=
    Option.bind_eq_some_iff.mp (Node.descend?_append _ base names ▸ hfound)
  refine ⟨node, FileSystem.lstat_of_location hlink hbase hat, ?_⟩
  cases names with
  | nil =>
      obtain rfl : node = found := Option.some.inj hbelow
      simpa using hreads
  | cons name rest =>
      cases node with
      | directory entries => exact (openWay_cons_iff.mp hopen).1
      | _ => simp [Node.descend?, Node.child?] at hbelow

/-- **When the walk of a package stays out of another package**: nothing it starts at lies
in the other, and it is cut off from the other's directory where that is below. -/
theorem staysOut_iff {directory : List String} {entries : List (String × Node)}
    (hother : fs.canonicalLocation? other = some directory)
    (hdirectory : fs.root.descend? directory = some (.directory entries)) :
    (∀ location, WalksInto fromPath fs config packageRoot location →
        ¬ InOther fs packageRoot other location) ↔
      StartsOutside fromPath fs config packageRoot other ∧
        CutOff fromPath fs config packageRoot other := by
  constructor
  · intro hstays
    refine ⟨?_, ?_⟩
    · intro start hstart node location hnode hreads hlocation
      exact hstays location ⟨start, hstart, node, hnode, start, node, .here _ _, hreads, hlocation⟩
    · intro start hstart base names hlink hbase hne hbelow hown
      obtain rfl : directory = base ++ names := Option.some.inj (hother.symm.trans hbelow)
      by_contra hopen
      obtain ⟨hnames, henters⟩ := not_or.mp hopen
      have hwalks : WalksInto fromPath fs config packageRoot (base ++ names) :=
        walksInto_below hstart hlink hbase hdirectory
          (fun name hname hignored => hnames ⟨name, hname, hignored⟩)
          (fun before hbefore hexcluded => henters ⟨before, hbefore, hexcluded⟩)
      refine hstays _ hwalks ⟨base ++ names, hother, List.prefix_rfl, ?_⟩
      rintro ⟨own, hownAt, hle, hge⟩
      rw [hle.eq_of_length_le hge.length_le] at hown
      exact hown hownAt
  · rintro ⟨hstarts, hcut⟩ location hwalks ⟨at', hat', hle, hnotOwn⟩
    obtain rfl : directory = at' := Option.some.inj (hother.symm.trans hat')
    obtain ⟨start, hstart, base, names, found, hlink, hbase, rfl, hfound, hopen, hreads⟩ :=
      walksInto_iff.mp hwalks
    by_cases hin : directory <+: base
    · -- the walk starts in the other package
      obtain ⟨node, hnode, hreadsStart⟩ := readsNode_start hlink hbase hfound hopen hreads
      refine hstarts start hstart node base hnode hreadsStart hbase ⟨directory, hother, hin, ?_⟩
      rintro ⟨own, hown, hdirectoryOwn, hownBase⟩
      exact hnotOwn ⟨own, hown, hdirectoryOwn, hownBase.trans (List.prefix_append base names)⟩
    · -- the other package is below, so the walk has entered it on its way
      obtain ⟨between, rfl⟩ := (List.prefix_or_prefix_of_prefix hle
        (List.prefix_append base names)).resolve_left hin
      obtain ⟨more, rfl⟩ := (List.prefix_append_right_inj base).mp hle
      have hne : between ≠ [] := by
        rintro rfl
        exact hin (by simp)
      have hown : fs.canonicalLocation? packageRoot ≠ some (base ++ between) :=
        fun hown => hnotOwn ⟨_, hown, List.prefix_rfl, hle⟩
      rcases hcut start hstart base between hlink hbase hne hother hown with
        ⟨name, hname, hignored⟩ | ⟨before, ⟨after, rfl⟩, hexcluded⟩
      · have hadmitted := hopen.admitted name (List.mem_append_left _ hname)
        simp [hignored] at hadmitted
      · have hentered : (packageWalkFilter fromPath fs packageRoot config).enters
            (start ++ before.map .normal) = true := by
          by_cases hafter : after = []
          · subst hafter
            rw [List.append_nil] at hdirectory hfound hopen hreads
            exact enters_of_openTo hdirectory hfound hopen hreads
          · refine hopen.entered before (after ++ more) (List.append_assoc _ _ _) ?_
            exact fun hnil => hafter (List.append_eq_nil_iff.mp hnil).1
        rw [hentered] at hexcluded
        cases hexcluded

/-! ## When two walks parse nothing in common

If two walks stay out of each other's directories, what both parse lies in neither of
them, or their packages have one directory under two paths. -/

/-- A package run parses the file at a location. -/
def ParsesAt (fromPath : ManifestReader) (fs : FileSystem) (config : AspRustConfig)
    (packageRoot : Path) (location : List String) : Prop :=
  WalksInto fromPath fs config packageRoot location ∧
    ∃ content modified, fs.root.descend? location = some (.file content modified)

/-- A file in no package that is foreign to one of the two runs is in neither of them, or
they have one directory. -/
theorem inNeither_or_sameDirectory {location : List String}
    (hout : ¬ InOther fs packageRoot other location)
    (hback : ¬ InOther fs other packageRoot location) :
    fs.canonicalLocation? packageRoot = fs.canonicalLocation? other ∨
      ¬ InPackage fs packageRoot location ∧ ¬ InPackage fs other location := by
  -- a package that has the file lies inside the other one
  have hwithin : ∀ {first second : Path}, ¬ InOther fs first second location →
      ∀ directory, fs.canonicalLocation? second = some directory → directory <+: location →
        ∃ own, fs.canonicalLocation? first = some own ∧ directory <+: own ∧ own <+: location := by
    intro first second hnot directory hdirectory hle
    by_contra hown
    exact hnot ⟨directory, hdirectory, hle, hown⟩
  by_cases hin : InPackage fs other location
  · obtain ⟨directory, hdirectory, hle⟩ := hin
    obtain ⟨own, hown, hdirectoryOwn, hownLe⟩ := hwithin hout directory hdirectory hle
    obtain ⟨again, hagain, hownAgain, -⟩ := hwithin hback own hown hownLe
    obtain rfl : directory = again := Option.some.inj (hdirectory.symm.trans hagain)
    refine Or.inl ?_
    rw [hown, hdirectory, hownAgain.eq_of_length_le hdirectoryOwn.length_le]
  · refine Or.inr ⟨?_, hin⟩
    rintro ⟨own, hown, hle⟩
    obtain ⟨directory, hdirectory, -, hdirectoryLe⟩ := hwithin hback own hown hle
    exact hin ⟨directory, hdirectory, hdirectoryLe⟩

/-- A file at the end of an open way from a monitored path is parsed. -/
theorem parsesAt_of_openTo {start : Path} {base names : List String} {content : List UInt8}
    {modified : Int} (hstart : start ∈ monitoredPathsOf fromPath fs config packageRoot)
    (hlink : fs.isSymlinkPath start = false) (hbase : fs.canonicalLocation? start = some base)
    (hfile : fs.root.descend? (base ++ names) = some (.file content modified))
    (hrust : isRustFile (start ++ names.map .normal) = true)
    (hopen : OpenTo fromPath fs config packageRoot start names) :
    ParsesAt fromPath fs config packageRoot (base ++ names) :=
  ⟨walksInto_iff.mpr ⟨start, hstart, base, names, _, hlink, hbase, rfl, hfile, hopen, hrust⟩,
    content, modified, hfile⟩

/-- **When two walks that stay out of each other's packages parse nothing in common.** -/
theorem parseNothingCommon_iff
    (hout : ∀ location, WalksInto fromPath fs config packageRoot location →
      ¬ InOther fs packageRoot other location)
    (hback : ∀ location, WalksInto fromPath fs config other location →
      ¬ InOther fs other packageRoot location) :
    (∀ location, ParsesAt fromPath fs config packageRoot location →
        ¬ ParsesAt fromPath fs config other location) ↔
      SharesNothing fromPath fs config packageRoot other := by
  constructor
  · intro hnothing start hstart otherStart hotherStart base otherBase names otherNames content
      modified hlink hotherLink hbase hotherBase hsame hfile hrust hotherRust _
    rintro ⟨hopen, hotherOpen⟩
    refine hnothing _ (parsesAt_of_openTo hstart hlink hbase hfile hrust hopen) ?_
    rw [hsame] at hfile ⊢
    exact parsesAt_of_openTo hotherStart hotherLink hotherBase hfile hotherRust hotherOpen
  · rintro hshares location ⟨hwalks, content, modified, hfile⟩ ⟨hotherWalks, -⟩
    have hplace := inNeither_or_sameDirectory (hout location hwalks) (hback location hotherWalks)
    obtain ⟨start, hstart, base, names, found, hlink, hbase, rfl, hfound, hopen, hreads⟩ :=
      walksInto_iff.mp hwalks
    obtain ⟨otherStart, hotherStart, otherBase, otherNames, otherFound, hotherLink, hotherBase,
      hsame, hotherFound, hotherOpen, hotherReads⟩ := walksInto_iff.mp hotherWalks
    obtain rfl : found = .file content modified := Option.some.inj (hfound.symm.trans hfile)
    obtain rfl : otherFound = .file content modified :=
      Option.some.inj (hotherFound.symm.trans hfile)
    exact hshares start hstart otherStart hotherStart base otherBase names otherNames content
      modified hlink hotherLink hbase hotherBase hsame hfile hreads hotherReads hplace
      ⟨hopen, hotherOpen⟩

/-- A workspace run is the package runs of its roots. -/
theorem workspaceAnalysis_packageAnalyses {nativeSyntax : SyntaxReader} {projectRoot : Path} :
    (workspaceAnalysis fromPath fs config nativeSyntax projectRoot).packageAnalyses =
      (discoverCargoPackageRoots fromPath fs projectRoot config.ignoredDirNames
        config.includeHiddenDirNames).map fun packageRoot =>
          (analyzePackageRoot nativeSyntax config packageRoot).run (answers fromPath fs) := by
  unfold workspaceAnalysis analyzeMemberScopedProject
  simp only [Program.run_bind, Program.run_mapM]
  rfl

/-- The package runs of distinct roots parse each file once when no two of them parse the
same one. -/
theorem parsedOnce_iff {nativeSyntax : SyntaxReader} {packageRoots : List Path}
    (hnodup : packageRoots.Nodup) :
    (packageRoots.map fun packageRoot =>
        (analyzePackageRoot nativeSyntax config packageRoot).run
          (answers fromPath fs)).Pairwise (fun first second =>
      (parsedLocations fs first).Disjoint (parsedLocations fs second)) ↔
    ∀ packageRoot ∈ packageRoots, ∀ other ∈ packageRoots, packageRoot ≠ other →
      ∀ location, ParsesAt fromPath fs config packageRoot location →
        ¬ ParsesAt fromPath fs config other location := by
  rw [List.pairwise_map]
  constructor
  · intro hpairwise packageRoot hroot other hother hne location hparses hotherParses
    have : Std.Symm fun packageRoot other : Path =>
        (parsedLocations fs ((analyzePackageRoot nativeSyntax config packageRoot).run
          (answers fromPath fs))).Disjoint
        (parsedLocations fs ((analyzePackageRoot nativeSyntax config other).run
          (answers fromPath fs))) := ⟨fun _ _ h => h.symm⟩
    exact hpairwise.forall hroot hother hne (mem_parsedLocations.mpr hparses) (mem_parsedLocations.mpr hotherParses)
  · intro hapart
    refine hnodup.pairwise_of_forall_ne fun packageRoot hroot other hother hne => ?_
    intro location hparsed hotherParsed
    exact hapart packageRoot hroot other hother hne location (mem_parsedLocations.mp hparsed)
      (mem_parsedLocations.mp hotherParsed)

/-- A discovered root leads to a directory. -/
theorem directory_of_mem_discoverCargoPackageRoots {projectRoot root : Path}
    {ignored hidden : OrderedSet String}
    (h : root ∈ discoverCargoPackageRoots fromPath fs projectRoot ignored hidden) :
    ∃ directory entries, fs.canonicalLocation? root = some directory ∧
      fs.root.descend? directory = some (.directory entries) := by
  have hfile := isFile_of_mem_discoverCargoPackageRoots fs ignored hidden projectRoot fromPath h
  rw [join_cargoToml] at hfile
  exact FileSystem.location_of_pathExists (FileSystem.pathExists_of_isFile hfile)

/-- **Which workspaces are partitioned by their package runs**: those whose packages are
kept apart, two by two.  Then no file is parsed in two runs, and no run enters the
directory of another package.

Kept apart is a condition on directories and on the roots that a package's own manifest
excludes.  A package that is nested in another, and named in the manifest of the
workspace only, is not excluded from the walk of the outer one. -/
theorem partitionsSources_iff (fromPath : ManifestReader) (fs : FileSystem)
    (config : AspRustConfig) (nativeSyntax : SyntaxReader) (projectRoot : Path) :
    let packageRoots := discoverCargoPackageRoots fromPath fs projectRoot config.ignoredDirNames
      config.includeHiddenDirNames
    PartitionsSources fromPath fs config packageRoots
        (workspaceAnalysis fromPath fs config nativeSyntax projectRoot) ↔
      ∀ packageRoot ∈ packageRoots, ∀ other ∈ packageRoots, packageRoot ≠ other →
        KeptApart fromPath fs config packageRoot other := by
  intro packageRoots
  have honce := @parsedOnce_iff fromPath fs config nativeSyntax packageRoots
    (nodup_discoverCargoPackageRoots fs _ _ projectRoot fromPath)
  rw [← workspaceAnalysis_packageAnalyses] at honce
  -- each half of the condition is what one half of the partition needs
  have hstays : ∀ packageRoot, ∀ other ∈ packageRoots, _ :=
    fun packageRoot other (hother : other ∈ packageRoots) =>
      let ⟨directory, entries, hlocation, hdirectory⟩ :=
        directory_of_mem_discoverCargoPackageRoots hother
      @staysOut_iff fromPath fs config packageRoot other directory entries hlocation hdirectory
  constructor
  · rintro ⟨hparsed, hown⟩ packageRoot hroot other hother hne
    have hout := hown packageRoot hroot other hother hne
    have hback := hown other hother packageRoot hroot hne.symm
    obtain ⟨hstarts, hcut⟩ := (hstays packageRoot other hother).mp hout
    exact ⟨hstarts, hcut, (parseNothingCommon_iff hout hback).mp
      (honce.mp hparsed packageRoot hroot other hother hne)⟩
  · intro happart
    have hown : ∀ packageRoot ∈ packageRoots, ∀ other ∈ packageRoots, packageRoot ≠ other →
        ∀ location, WalksInto fromPath fs config packageRoot location →
          ¬ InOther fs packageRoot other location := by
      intro packageRoot hroot other hother hne
      have hkept := happart packageRoot hroot other hother hne
      exact (hstays packageRoot other hother).mpr ⟨hkept.startsOutside, hkept.cutOff⟩
    refine ⟨honce.mpr fun packageRoot hroot other hother hne => ?_, hown⟩
    exact (parseNothingCommon_iff (hown packageRoot hroot other hother hne)
      (hown other hother packageRoot hroot hne.symm)).mpr
      (happart packageRoot hroot other hother hne).sharesNothing

/-- Packages side by side that monitor only what is in their directories are kept apart. -/
theorem keptApart_of_siblings {own directory : List String}
    (hown : fs.canonicalLocation? packageRoot = some own)
    (hother : fs.canonicalLocation? other = some directory)
    (hbeside : ¬ own <+: directory ∧ ¬ directory <+: own)
    (hinside : ∀ start ∈ monitoredPathsOf fromPath fs config packageRoot,
      ∀ location, fs.canonicalLocation? start = some location → own <+: location) :
    KeptApart fromPath fs config packageRoot other where
  startsOutside := by
    rintro start hstart node location - - hlocation ⟨at', hat', hin, -⟩
    obtain rfl : directory = at' := Option.some.inj (hother.symm.trans hat')
    exact (List.prefix_or_prefix_of_prefix (hinside start hstart location hlocation) hin).elim
      hbeside.1 hbeside.2
  cutOff := by
    intro start hstart location names _ hlocation _ hbelow _
    obtain rfl : directory = location ++ names := Option.some.inj (hother.symm.trans hbelow)
    exact absurd ((hinside start hstart location hlocation).trans (List.prefix_append _ _))
      hbeside.1
  sharesNothing := by
    intro start hstart _ _ location _ names _ _ _ _ _ hlocation _ _ _ _ _ hplace
    rcases hplace with hsame | ⟨houtside, -⟩
    · obtain rfl : own = directory := Option.some.inj (hown.symm.trans (hsame.trans hother))
      exact absurd List.prefix_rfl hbeside.1
    · exact absurd ⟨own, hown,
        (hinside start hstart location hlocation).trans (List.prefix_append _ _)⟩ houtside

end Reading

/-! ## A member inside a member -/

/-- A workspace directory `/ws` with a package `a`, and a package among the sources of
`a`. -/
def nestedMemberTree : FileSystem where
  root := .directory [("ws", .directory [("Cargo.toml", .file [] 0),
    ("a", .directory [("Cargo.toml", .file [] 0),
      ("src", .directory [("lib.rs", .file [] 0),
        ("nested", .directory [("Cargo.toml", .file [] 0),
          ("src", .directory [("lib.rs", .file [] 0)])])])])])]
  wellFormed := by decide

/-- Its manifests: both packages are members. -/
def nestedMemberReader : ManifestReader := fun _ path =>
  if path = [.normal "ws", .normal "Cargo.toml"] then
    .ok { workspace := some { members := ["a", "a/src/nested"] } }
  else if path = [.normal "ws", .normal "a", .normal "Cargo.toml"] then
    .ok { package := some { name := "a", edition := "2021" } }
  else .ok { package := some { name := "nested", edition := "2021" } }

/-- The source of the inner package is parsed in both package runs. -/
theorem nestedMember_parsedTwice :
    ¬ PartitionsSources nestedMemberReader nestedMemberTree {}
      (discoverCargoPackageRoots nestedMemberReader nestedMemberTree [.normal "ws"]
        ({} : AspRustConfig).ignoredDirNames ({} : AspRustConfig).includeHiddenDirNames)
      (workspaceAnalysis nestedMemberReader nestedMemberTree {} (fun _ _ => .ok {})
        [.normal "ws"]) := by
  have hroots : discoverCargoPackageRoots nestedMemberReader nestedMemberTree [.normal "ws"]
      ({} : AspRustConfig).ignoredDirNames ({} : AspRustConfig).includeHiddenDirNames =
        [[.normal "ws", .normal "a"],
          [.normal "ws", .normal "a", .normal "src", .normal "nested"]] := by
    decide +kernel
  have hshared : ∀ packageRoot ∈ [[Component.normal "ws", .normal "a"],
        [.normal "ws", .normal "a", .normal "src", .normal "nested"]],
      ["ws", "a", "src", "nested", "src", "lib.rs"] ∈ parsedLocations nestedMemberTree
        ((analyzePackageRoot (fun _ _ => .ok {}) {} packageRoot).run
          (answers nestedMemberReader nestedMemberTree)) := by
    decide +kernel
  intro hpartition
  have honce := hpartition.parsedOnce
  rw [workspaceAnalysis_packageAnalyses, parsedOnce_iff
    (nodup_discoverCargoPackageRoots _ _ _ _ _), hroots] at honce
  exact honce _ List.mem_cons_self _ (List.mem_cons_of_mem _ List.mem_cons_self) (by decide) _
    (mem_parsedLocations.mp (hshared _ List.mem_cons_self))
    (mem_parsedLocations.mp (hshared _ (List.mem_cons_of_mem _ List.mem_cons_self)))

end AspRust.Analysis
