import AspRust.Analysis.Consulted
import AspRust.DevGate.CacheRecord
import AspRust.DevGate.Coverage
import AspRust.Foundation.Lookup

/-!
# What a snapshot digest says of the analysis

A gate run with a known snapshot digest is answered from the cache, so states of
the file system with one digest are treated as one.  The digest fixes the listed
files with their contents (`exists_content_of_mem_files`), and, when both states
are walked from the same paths with the same filter, what discovery finds
(`discoverRustPackageFiles_eq_of_digest_eq`).

The analysis consults more than that.  It lists the tests directory, also when
tests are not scanned; it asks for directories that may be empty; it follows
links; and the manifest is completed from a workspace manifest outside of the
package.  A state that differs there has the same digest and another report.

`SameUncovered` names what is left open, field by field.  It is no more than
that: what is consulted besides is settled by the snapshot
(`SameUncovered.sameConsulted`), since a listed path leads to one content in both
states, the directories above it are there, and the sources are found again.  So
two states with one digest agree on all that is consulted, and give one report,
exactly when they agree on what is left open (`packageReport_eq_of_digest_eq`).

### What is load-bearing

The paths of a snapshot are relative to the canonical package root, and the
analysis asks for paths below the root it is given.  Only where the two are one,
in both states (`SameRoot`), does a listed file say anything of a path that is
asked for; elsewhere `SameUncovered` asks for agreement on all of them.

Nothing in `SameUncovered` is there for the convenience of the proof: where two states
agree on all that is consulted they agree on each of its fields
(`sameUncovered_of_sameConsulted`).  This is the direction that keeps the condition from
growing until it says what is to be proved.
-/

namespace AspRust.DevGate

open AspRust.Foundation AspRust.Discovery AspRust.Analysis AspRust.Verification

/-! ## The files of a snapshot

A digest determines the snapshot, so two states with one digest have the same listed
files with the same digests of contents. -/

section Files

variable {host : SnapshotHost} {fs : FileSystem} {root : Path} {config : AspRustConfig}
variable {snapshot : AspRustDevGateSnapshot}

/-- The files the snapshot of a canonical root is made of. -/
def snapshotVisited (host : SnapshotHost) (fs : FileSystem) (root : Path)
    (config : AspRustConfig) : List VisitedFile :=
  visitedFrom (packageWalkFilter host.manifestFromPath fs root config) fs
    (snapshotInputs host fs root config)

/-- **One digest, one snapshot.**  Snapshots are determined by their digests. -/
theorem snapshot_eq_of_digest_eq {other : AspRustDevGateSnapshot} {otherFs : FileSystem}
    {otherRoot : Path} {otherConfig : AspRustConfig}
    (h : snapshotDevGateInputs host fs root config = .ok snapshot)
    (hother : snapshotDevGateInputs host otherFs otherRoot otherConfig = .ok other)
    (hdigest : snapshot.digest = other.digest) : snapshot = other := by
  obtain ⟨nextIndex, hcompute⟩ := snapshotDevGateInputs_eq_ok.mp h
  obtain ⟨otherIndex, hotherCompute⟩ := snapshotDevGateInputs_eq_ok.mp hother
  obtain ⟨canonical, collected, -, -, hfiles, -⟩ := computeSnapshot_eq_ok.mp hcompute
  obtain ⟨otherCanonical, otherCollected, -, -, hotherFiles, -⟩ :=
    computeSnapshot_eq_ok.mp hotherCompute
  obtain ⟨byteCount, bytes, hcount, hbytes, rfl⟩ := snapshotOfFiles_eq_ok.mp hfiles
  obtain ⟨otherCount, otherBytes, hotherCount, hotherBytes, rfl⟩ :=
    snapshotOfFiles_eq_ok.mp hotherFiles
  obtain rfl := contentDigest_injective _ hdigest
  have hsame := host.filesEncoder.injective hbytes hotherBytes
  rw [hsame, hotherCount] at hcount
  rw [hsame, Option.some.inj hcount]

/-- A collected file comes from a visited one: its path relative to the root is
the key it is under, and its digest is that of the content. -/
theorem exists_visited_of_collected {collected : Collected}
    (h : collectSnapshot host fs root config {} = .ok collected) {key : Path}
    {file : AspRustDevGateSnapshotFile} (hfile : collected.files.get? key = some file) :
    file.path = key ∧ ∃ visited ∈ snapshotVisited host fs root config,
      visited.path = root ++ key ∧
        file.contentDigest = contentDigest host.sha256 visited.content := by
  rw [collectSnapshot, collectPaths_eq] at h
  obtain ⟨entries, hentries, rfl⟩ := Except.map_eq_ok.mp h
  rw [foldl_record] at hfile
  obtain ⟨entry, hentry, rfl, rfl⟩ :=
    (OrderedMap.exists_of_get?_insertAll _ _ hfile).resolve_left (by simp)
  obtain ⟨visited, hvisited, hok⟩ := (mem_of_mapM_eq_ok hentries).mp hentry
  obtain ⟨hpath, hindexed⟩ := indexEntry_eq_ok.mp hok
  exact ⟨rfl, visited, hvisited, hpath,
    congrArg AspRustSnapshotDigestIndexFile.contentDigest (snapshotFile_of_empty hindexed).2⟩

/-- The root of a snapshot is there. -/
theorem pathExists_of_snapshot (h : snapshotDevGateInputs host fs root config = .ok snapshot) :
    fs.pathExists root = true := by
  obtain ⟨nextIndex, hcompute⟩ := snapshotDevGateInputs_eq_ok.mp h
  obtain ⟨canonical, -, hcanonical, -⟩ := computeSnapshot_eq_ok.mp hcompute
  obtain ⟨location, hlocation, hnode⟩ := Option.bind_eq_some_iff.mp hcanonical
  obtain ⟨node, hnode, -⟩ := Option.map_eq_some_iff.mp hnode
  rw [FileSystem.pathExists, FileSystem.stat, hlocation, Option.bind_some, hnode]
  rfl

theorem exists_collected_of_canonical (hcanonical : fs.canonicalize root = some root)
    (h : snapshotDevGateInputs host fs root config = .ok snapshot) :
    ∃ collected, collectSnapshot host fs root config {} = .ok collected ∧
      snapshot.files = collected.files.values := by
  obtain ⟨nextIndex, hcompute⟩ := snapshotDevGateInputs_eq_ok.mp h
  obtain ⟨canonical, collected, hsome, hcollected, hfiles, -⟩ :=
    computeSnapshot_eq_ok.mp hcompute
  obtain rfl := Option.some.inj (hcanonical.symm.trans hsome)
  obtain ⟨byteCount, bytes, -, -, rfl⟩ := snapshotOfFiles_eq_ok.mp hfiles
  exact ⟨collected, hcollected, rfl⟩

/-- A listed file is there, with the content its digest is of. -/
theorem exists_content_of_mem_files (hcanonical : fs.canonicalize root = some root)
    (h : snapshotDevGateInputs host fs root config = .ok snapshot)
    {file : AspRustDevGateSnapshotFile} (hfile : file ∈ snapshot.files) :
    ∃ content modified, fs.lstat (root ++ file.path) = some (.file content modified) ∧
      file.contentDigest = contentDigest host.sha256 content := by
  obtain ⟨collected, hcollected, hfiles⟩ := exists_collected_of_canonical hcanonical h
  rw [hfiles, OrderedMap.mem_values_iff] at hfile
  obtain ⟨key, hkey⟩ := hfile
  obtain ⟨rfl, visited, hvisited, hpath, hdigest⟩ := exists_visited_of_collected hcollected hkey
  exact ⟨visited.content, visited.modified, hpath ▸ lstat_of_mem_visitedFrom hvisited, hdigest⟩

/-- The listed paths are those of the visited files. -/
theorem mem_paths_of_snapshot (hcanonical : fs.canonicalize root = some root)
    (h : snapshotDevGateInputs host fs root config = .ok snapshot) {target : Path} :
    target ∈ snapshot.files.map (fun file => root ++ file.path) ↔
      ∃ visited ∈ snapshotVisited host fs root config, visited.path = target := by
  obtain ⟨collected, hcollected, hfiles⟩ := exists_collected_of_canonical hcanonical h
  rw [hfiles, List.mem_map]
  constructor
  · rintro ⟨file, hfile, rfl⟩
    obtain ⟨key, hkey⟩ := OrderedMap.mem_values_iff.mp hfile
    obtain ⟨rfl, visited, hvisited, hpath, -⟩ := exists_visited_of_collected hcollected hkey
    exact ⟨visited, hvisited, hpath⟩
  · rintro ⟨visited, hvisited, rfl⟩
    obtain ⟨relativePath, hpath⟩ := isPrefix_of_collectPaths hcollected hvisited
    obtain ⟨file, hfile⟩ := OrderedMap.mem_keys_iff.mp
      ((mem_keys_of_collectPaths hcollected).mpr ⟨visited, hvisited, hpath.symm⟩)
    obtain ⟨rfl, -⟩ := exists_visited_of_collected hcollected hfile
    exact ⟨file, OrderedMap.mem_values_iff.mpr ⟨_, hfile⟩, hpath⟩

/-- What discovery finds is listed. -/
theorem mem_paths_of_discovered (hcanonical : fs.canonicalize root = some root)
    (h : snapshotDevGateInputs host fs root config = .ok snapshot) {target : Path}
    (htarget : target ∈ discoverRustPackageFiles
      (packageWalkFilter host.manifestFromPath fs root config) fs
      (aspRustScope host.manifestFromPath fs root config).monitoredPaths) :
    target ∈ snapshot.files.map fun file => root ++ file.path := by
  obtain ⟨-, start, hstart, node, hnode, content, modified, hreach⟩ :=
    mem_discoverRustPackageFiles.mp htarget
  refine (mem_paths_of_snapshot hcanonical h).mpr
    ⟨⟨target, content, modified⟩, mem_visitedFrom.mpr ⟨start, ?_, node, hnode, ?_⟩, rfl⟩
  · exact List.mem_append_left _ hstart
  · exact hreach.mono (FileSystem.lstat_wellFormed hnode) (fun _ hentered => hentered)
      (admits_imp_snapshotAdmits _)

end Files

/-! ## Two states with one digest

A listed file was met by the walk in both states.  Where the walks start alike,
discovery finds the same sources, because each of them is listed. -/

section TwoStates

variable {host : SnapshotHost} {first second : FileSystem} {root : Path}
variable {config : AspRustConfig} {snapshot other : AspRustDevGateSnapshot}

/-- The package root is the same place in both states.  Only then do the paths of a
snapshot say where its files are: they are relative to the canonical root. -/
structure SameRoot (first second : FileSystem) (root : Path) : Prop where
  first : first.canonicalize root = some root
  second : second.canonicalize root = some root

instance : Decidable (SameRoot first second root) :=
  decidable_of_iff (first.canonicalize root = some root ∧ second.canonicalize root = some root)
    ⟨fun h => ⟨h.1, h.2⟩, fun h => ⟨h.1, h.2⟩⟩

/-- Two states of the file system that are walked alike: the root is the same
place in both, and the walks start from the same paths with the same filter. -/
structure SameWalk (fromPath : ManifestReader) (first second : FileSystem) (root : Path)
    (config : AspRustConfig) : Prop where
  sameRoot : SameRoot first second root
  filter : packageWalkFilter fromPath first root config =
    packageWalkFilter fromPath second root config
  monitored : (aspRustScope fromPath first root config).monitoredPaths =
    (aspRustScope fromPath second root config).monitoredPaths

theorem SameWalk.symm {fromPath : ManifestReader} (h : SameWalk fromPath first second root config) :
    SameWalk fromPath second first root config :=
  ⟨⟨h.sameRoot.second, h.sameRoot.first⟩, h.filter.symm, h.monitored.symm⟩

/-- A Rust file that the snapshot walk meets from a path it shares with discovery,
when discovery reaches the file from such a path in another state: the names on
the way are admitted there, so they are here. -/
theorem finds_of_visited {filter : WalkFilter} {fs : FileSystem} {roots : List Path}
    {start start' target : Path} {node : Node} {content : List UInt8} {modified : Int}
    {names : List String} (hnames : ∀ name ∈ names, ∀ child, filter.admits name child = true)
    (htarget : target = start ++ names.map .normal) (hstart : start ∈ roots)
    (hstart' : start' ∈ roots) (hnode : fs.lstat start' = some node)
    (hreach : Reaches filter.enters (snapshotAdmits filter) start' node target
      (.file content modified)) :
    ∃ path ∈ roots, ∃ node, fs.lstat path = some node ∧ ∃ content modified,
      Reaches filter.enters filter.admits path node target (.file content modified) := by
  have hbegin : start <+: target := ⟨_, htarget.symm⟩
  rcases List.prefix_or_prefix_of_prefix hbegin hreach.isPrefix with hlonger | hshorter
  · -- the walk here starts further down: its names are the last of the admitted ones
    obtain ⟨more, hmore⟩ := hlonger
    obtain ⟨below, hbelow, -⟩ := hreach.exists_names
    have hsame : names.map Component.normal = more ++ below.map .normal := by
      apply @List.append_cancel_left _ start
      rw [← htarget, ← List.append_assoc, hmore, hbelow]
    have hsubset : ∀ name ∈ below, name ∈ names := by
      intro name hname
      have hmem : Component.normal name ∈ names.map Component.normal := by
        rw [hsame]
        exact List.mem_append_right _ (List.mem_map_of_mem hname)
      obtain ⟨same, hmem, heq⟩ := List.mem_map.mp hmem
      exact Component.normal.inj heq ▸ hmem
    exact ⟨start', hstart', node, hnode, content, modified,
      hreach.of_names hbelow fun name hname => hnames name (hsubset name hname)⟩
  · -- the walk here starts further up, and passes the path
    obtain ⟨between, hbefore, hafter⟩ := hreach.through hshorter hbegin
    exact ⟨start, hstart, between, hbefore.lstat hnode, content, modified,
      hafter.of_names htarget hnames⟩

theorem manifest_not_rust (root : Path) : isRustFile (Path.join root "Cargo.toml") = false := by
  have hjoin : Path.join root "Cargo.toml" = root ++ [.normal "Cargo.toml"] := rfl
  rw [hjoin, isRustFile, Path.extension?, Path.fileName?_concat]
  decide

/-- The Rust files discovered in one state are discovered in the other. -/
theorem mem_discover_of_digest_eq (hwalk : SameWalk host.manifestFromPath first second root config)
    (hfirst : snapshotDevGateInputs host first root config = .ok snapshot)
    (hsecond : snapshotDevGateInputs host second root config = .ok other)
    (hdigest : snapshot.digest = other.digest) {target : Path}
    (htarget : target ∈ discoverRustPackageFiles
      (packageWalkFilter host.manifestFromPath first root config) first
      (aspRustScope host.manifestFromPath first root config).monitoredPaths) :
    target ∈ discoverRustPackageFiles
      (packageWalkFilter host.manifestFromPath first root config) second
      (aspRustScope host.manifestFromPath first root config).monitoredPaths := by
  obtain rfl := snapshot_eq_of_digest_eq hfirst hsecond hdigest
  obtain ⟨hrust, start, hstart, node, hnode, content, modified, hreach⟩ :=
    mem_discoverRustPackageFiles.mp htarget
  obtain ⟨names, hnames, hadmits⟩ := hreach.exists_names
  -- the file is in the snapshot of the first state, so it is visited in the second
  have hlisted := mem_paths_of_discovered hwalk.sameRoot.first hfirst htarget
  obtain ⟨⟨target, content', modified'⟩, hvisited, rfl⟩ :=
    (mem_paths_of_snapshot hwalk.sameRoot.second hsecond).mp hlisted
  obtain ⟨start', hstart', node', hnode', hreach'⟩ := mem_visitedFrom.mp hvisited
  rw [← hwalk.filter] at hreach'
  refine mem_discoverRustPackageFiles.mpr ⟨hrust, ?_⟩
  rcases List.mem_append.mp hstart' with hmonitored | hmanifest
  · rw [← hwalk.monitored] at hmonitored
    refine finds_of_visited (fun name hname child => ?_) hnames hstart hmonitored hnode' hreach'
    obtain ⟨tested, htested⟩ := hadmits name hname
    exact htested
  · -- the manifest is no Rust file
    split at hmanifest
    · next hfile =>
        obtain rfl := List.mem_singleton.mp hmanifest
        cases hreach' with
        | here => exact absurd (hrust.symm.trans (manifest_not_rust root)) (by simp)
        | entry => simp [FileSystem.isFile, FileSystem.stat_of_lstat hnode' rfl] at hfile
    · simp at hmanifest

/-- **What discovery finds is in the digest.**  In two states that are walked
alike, discovery finds the same files. -/
theorem discoverRustPackageFiles_eq_of_digest_eq
    (hwalk : SameWalk host.manifestFromPath first second root config)
    (hfirst : snapshotDevGateInputs host first root config = .ok snapshot)
    (hsecond : snapshotDevGateInputs host second root config = .ok other)
    (hdigest : snapshot.digest = other.digest) :
    discoverRustPackageFiles (packageWalkFilter host.manifestFromPath first root config) first
        (aspRustScope host.manifestFromPath first root config).monitoredPaths =
      discoverRustPackageFiles (packageWalkFilter host.manifestFromPath first root config) second
        (aspRustScope host.manifestFromPath first root config).monitoredPaths := by
  unfold discoverRustPackageFiles
  congr 1
  apply OrderedSet.ext_keys
  intro target
  refine ⟨mem_discover_of_digest_eq hwalk hfirst hsecond hdigest, fun htarget => ?_⟩
  have hback := @mem_discover_of_digest_eq host second first root config other snapshot hwalk.symm
    hsecond hfirst hdigest.symm target
  rw [← hwalk.filter, ← hwalk.monitored] at hback
  exact hback htarget

end TwoStates

/-! ## The paths a snapshot holds

What a snapshot says about paths: a listed path leads to a file with one content, and
the directories above it are there.  All of this needs that the root is the same place
in both states. -/

section Held

variable {host : SnapshotHost} {first second : FileSystem} {root : Path}
variable {config : AspRustConfig} {snapshot other : AspRustDevGateSnapshot}

/-- The paths of the listed files. -/
def listedPaths (root : Path) (snapshot : AspRustDevGateSnapshot) : List Path :=
  snapshot.files.map fun file => root ++ file.path

/-- The second path goes on below the first, with a name. -/
def leadsInto (path listed : Path) : Bool :=
  match Path.stripPrefix? path listed with
  | some (.normal _ :: _) => true
  | _ => false

theorem leadsInto_eq_true_iff {path listed : Path} :
    leadsInto path listed = true ↔ ∃ name rest, listed = path ++ .normal name :: rest := by
  unfold leadsInto
  constructor
  · intro h
    split at h
    · next name rest hstrip => exact ⟨name, rest, Path.stripPrefix?_eq_some_iff.mp hstrip⟩
    · cases h
  · rintro ⟨name, rest, rfl⟩
    rw [Path.stripPrefix?_append]

/-- The snapshot says what the path leads to: it is that of a listed file. -/
def Listed (first second : FileSystem) (root : Path) (snapshot : AspRustDevGateSnapshot)
    (path : Path) : Prop :=
  SameRoot first second root ∧ path ∈ listedPaths root snapshot

/-- The snapshot says of which kind the path is: it is that of a listed file, or of a
directory above one. -/
def Held (first second : FileSystem) (root : Path) (snapshot : AspRustDevGateSnapshot)
    (path : Path) : Prop :=
  SameRoot first second root ∧ (path ∈ listedPaths root snapshot ∨
    ∃ listed ∈ listedPaths root snapshot, leadsInto path listed = true)

instance (path : Path) : Decidable (Listed first second root snapshot path) :=
  inferInstanceAs (Decidable (_ ∧ _))

instance (path : Path) : Decidable (Held first second root snapshot path) :=
  inferInstanceAs (Decidable (_ ∧ (_ ∨ _)))

/-- A path that is listed with one digest leads to one content in both states. -/
theorem exists_content_of_listed
    (hfirst : snapshotDevGateInputs host first root config = .ok snapshot)
    (hsecond : snapshotDevGateInputs host second root config = .ok other)
    (hdigest : snapshot.digest = other.digest) {path : Path}
    (hlisted : Listed first second root snapshot path) :
    ∃ content modified modified', first.stat path = some (.file content modified) ∧
      second.stat path = some (.file content modified') := by
  obtain rfl := snapshot_eq_of_digest_eq hfirst hsecond hdigest
  obtain ⟨hroot, hpath⟩ := hlisted
  obtain ⟨file, hfile, rfl⟩ := List.mem_map.mp hpath
  obtain ⟨content, modified, hone, hdigestOne⟩ :=
    exists_content_of_mem_files hroot.first hfirst hfile
  obtain ⟨content', modified', htwo, hdigestTwo⟩ :=
    exists_content_of_mem_files hroot.second hsecond hfile
  obtain rfl := contentDigest_injective _ (hdigestOne.symm.trans hdigestTwo)
  exact ⟨content, modified, modified', FileSystem.stat_of_lstat hone rfl,
    FileSystem.stat_of_lstat htwo rfl⟩

theorem readToString_eq_of_listed
    (hfirst : snapshotDevGateInputs host first root config = .ok snapshot)
    (hsecond : snapshotDevGateInputs host second root config = .ok other)
    (hdigest : snapshot.digest = other.digest) {path : Path}
    (hlisted : Listed first second root snapshot path) :
    readToString first path = readToString second path := by
  obtain ⟨content, modified, modified', hone, htwo⟩ :=
    exists_content_of_listed hfirst hsecond hdigest hlisted
  simp [readToString, hone, htwo]

/-- The path is there in both states, and of one kind. -/
structure SameKind (first second : FileSystem) (path : Path) : Prop where
  pathExists : first.pathExists path = second.pathExists path
  isFile : first.isFile path = second.isFile path
  isDir : first.isDir path = second.isDir path

/-- **What a snapshot holds is of one kind.**  A held path leads to a file in both
states, or to a directory in both. -/
theorem sameKind_of_held
    (hfirst : snapshotDevGateInputs host first root config = .ok snapshot)
    (hsecond : snapshotDevGateInputs host second root config = .ok other)
    (hdigest : snapshot.digest = other.digest) {path : Path}
    (hheld : Held first second root snapshot path) : SameKind first second path := by
  obtain ⟨hroot, hpath | ⟨listed, hlisted, hinto⟩⟩ := hheld
  · obtain ⟨content, modified, modified', hone, htwo⟩ :=
      exists_content_of_listed hfirst hsecond hdigest ⟨hroot, hpath⟩
    constructor <;> simp [FileSystem.pathExists, FileSystem.isFile, FileSystem.isDir, hone, htwo]
  · obtain ⟨content, modified, modified', hone, htwo⟩ :=
      exists_content_of_listed hfirst hsecond hdigest ⟨hroot, hlisted⟩
    obtain ⟨name, rest, rfl⟩ := leadsInto_eq_true_iff.mp hinto
    have hstat : ∀ {fs : FileSystem} {content : List UInt8} {modified : Int},
        fs.stat (path ++ .normal name :: rest) = some (.file content modified) →
        ∃ entries, fs.stat path = some (.directory entries) := by
      intro fs content modified hbelow
      obtain ⟨location, entries, hlocation, hat⟩ := @FileSystem.location_of_pathExists fs path rest
        name (by simp [FileSystem.pathExists, hbelow])
      exact ⟨entries, by rw [FileSystem.stat, hlocation]; exact hat⟩
    obtain ⟨entries, hone⟩ := hstat hone
    obtain ⟨entries', htwo⟩ := hstat htwo
    constructor <;> simp [FileSystem.pathExists, FileSystem.isFile, FileSystem.isDir, hone, htwo]

end Held

/-! ## What a snapshot leaves open

The fields of the condition, one for each kind of fact that is consulted; and that the
snapshot settles everything else. -/

section Uncovered

/-- **What a snapshot leaves open is the same.**  Two states agree on what the
analysis consults and the snapshot of the first does not determine. -/
structure SameUncovered (fromPath : ManifestReader) (nativeSyntax : SyntaxReader)
    (first second : FileSystem) (root : Path) (config : AspRustConfig)
    (snapshot : AspRustDevGateSnapshot) : Prop where
  /-- The manifest, with the fields inherited from the workspace manifest and the targets
  found in the directories of the package. -/
  manifest : parseCargoManifest fromPath first root = parseCargoManifest fromPath second root
  /-- The dependencies, with what the workspace manifest says of them. -/
  dependencies : activeRustNativePerformanceAdapters config ≠ [] →
    parseCargoDependencyFacts fromPath first root =
      parseCargoDependencyFacts fromPath second root
  /-- The nested packages, whose directories are not walked. -/
  nested :
    cargoPackageExclusionRoots fromPath first root config.ignoredDirNames
        config.includeHiddenDirNames =
      cargoPackageExclusionRoots fromPath second root config.ignoredDirNames
        config.includeHiddenDirNames
  /-- The names in the tests directory. -/
  testsLayout :
    ((first.readDir (testsDir root)).map fun entries => entries.map Prod.fst) =
      (second.readDir (testsDir root)).map fun entries => entries.map Prod.fst
  /-- Which of them are files and directories. -/
  testsKinds : ∀ path ∈ testsEntries first root, ¬ Held first second root snapshot path →
    first.isFile path = second.isFile path ∧ first.isDir path = second.isDir path
  /-- The manifests that tell which crate a test target is in. -/
  crates : ∀ path ∈ testCrateManifests fromPath nativeSyntax first root,
    ¬ Held first second root snapshot path → first.isFile path = second.isFile path
  /-- The presence of scope directories, targets and mounted test modules. -/
  presence : ∀ path ∈ consultedPaths fromPath nativeSyntax first root config,
    ¬ Held first second root snapshot path → first.pathExists path = second.pathExists path
  /-- The text of test targets, benchmarks and sources. -/
  texts : ∀ path ∈ consultedTexts fromPath first root config,
    ¬ Listed first second root snapshot path → readToString first path = readToString second path
  /-- Where the build script and the sources are, links followed. -/
  places : ∀ path ∈ consultedPlaces fromPath first root config,
    first.canonicalize path = second.canonicalize path
  /-- The sources found from a root that is reached through a link. -/
  sources : ¬ SameRoot first second root →
    packageSourceFiles fromPath first root config =
      discoverRustPackageFiles (packageWalkFilter fromPath first root config) second
        (aspRustScope fromPath first root config).monitoredPaths

variable {first second : FileSystem} {root : Path} {config : AspRustConfig}
variable {snapshot : AspRustDevGateSnapshot} {fromPath : ManifestReader}
variable {nativeSyntax : SyntaxReader}

/-- A state agrees with itself. -/
theorem SameUncovered.refl (snapshot : AspRustDevGateSnapshot) :
    SameUncovered fromPath nativeSyntax first first root config snapshot where
  manifest := rfl
  dependencies _ := rfl
  nested := rfl
  testsLayout := rfl
  testsKinds _ _ _ := ⟨rfl, rfl⟩
  crates _ _ _ := rfl
  presence _ _ _ := rfl
  texts _ _ _ := rfl
  places _ _ := rfl
  sources _ := rfl

instance : Decidable
    (SameUncovered fromPath nativeSyntax first second root config snapshot) :=
  decidable_of_iff
    (_ ∧ (activeRustNativePerformanceAdapters config ≠ [] → _) ∧ _ ∧ _ ∧
      (∀ path ∈ testsEntries first root, ¬ Held first second root snapshot path → _ ∧ _) ∧
      (∀ path ∈ testCrateManifests fromPath nativeSyntax first root,
        ¬ Held first second root snapshot path → _) ∧
      (∀ path ∈ consultedPaths fromPath nativeSyntax first root config,
        ¬ Held first second root snapshot path → _) ∧
      (∀ path ∈ consultedTexts fromPath first root config,
        ¬ Listed first second root snapshot path → _) ∧
      (∀ path ∈ consultedPlaces fromPath first root config, _) ∧
      (¬ SameRoot first second root → _))
    ⟨fun ⟨manifest, dependencies, nested, testsLayout, testsKinds, crates, presence, texts, places,
        sources⟩ => ⟨manifest, dependencies, nested, testsLayout, testsKinds, crates, presence,
        texts, places, sources⟩,
      fun h => ⟨h.manifest, h.dependencies, h.nested, h.testsLayout, h.testsKinds, h.crates,
        h.presence, h.texts, h.places, h.sources⟩⟩

/-- What is consulted and left open is consulted. -/
theorem sameUncovered_of_sameConsulted
    (h : SameConsulted fromPath nativeSyntax first second root config) :
    SameUncovered fromPath nativeSyntax first second root config snapshot where
  manifest := h _ (.cargoManifest root) rfl
  dependencies hadapters := h _ (.cargoDependencies root) ⟨rfl, hadapters⟩
  nested := h _ (.exclusionRoots root config.ignoredDirNames config.includeHiddenDirNames)
    ⟨rfl, rfl, rfl⟩
  testsLayout := h _ (.entryNames (testsDir root)) rfl
  testsKinds path hpath _ := ⟨h _ (.isFile path) (Or.inl hpath), h _ (.isDir path) hpath⟩
  crates path hpath _ := h _ (.isFile path) (Or.inr hpath)
  presence path hpath _ := h _ (.pathExists path) hpath
  texts path hpath _ := h _ (.readToString path) hpath
  places path hpath := h _ (.canonicalize path) hpath
  sources _ := h _ (.rustFiles (packageWalkFilter fromPath first root config)
    (aspRustScope fromPath first root config).monitoredPaths) ⟨rfl, rfl⟩

variable {host : SnapshotHost} {other : AspRustDevGateSnapshot}

section Covered

variable (hfirst : snapshotDevGateInputs host first root config = .ok snapshot)
variable (hsecond : snapshotDevGateInputs host second root config = .ok other)
variable (hdigest : snapshot.digest = other.digest)
variable (h : SameUncovered host.manifestFromPath nativeSyntax first second root config snapshot)

include hfirst hsecond hdigest h

theorem SameUncovered.pathExists_eq {path : Path}
    (hpath : path ∈ consultedPaths host.manifestFromPath nativeSyntax first root config) :
    first.pathExists path = second.pathExists path := by
  by_cases hheld : Held first second root snapshot path
  · exact (sameKind_of_held hfirst hsecond hdigest hheld).pathExists
  · exact h.presence path hpath hheld

/-- The runs have one scope: the directories and targets of the manifest that are there. -/
theorem SameUncovered.aspRustScope_eq :
    aspRustScope host.manifestFromPath first root config =
      aspRustScope host.manifestFromPath second root config := by
  have hexisting : ∀ paths : List Path, (∀ path ∈ paths, path ∈ scopeCandidates root config
        (parseCargoManifest host.manifestFromPath first root)) →
      existingPaths first paths = existingPaths second paths := by
    intro paths hpaths
    unfold existingPaths
    congr 1
    exact List.filter_congr fun path hpath =>
      h.pathExists_eq hfirst hsecond hdigest (mem_consultedPaths_of_scope (hpaths path hpath))
  unfold aspRustScope
  rw [← h.manifest]
  dsimp only
  rw [hexisting _ fun path => mem_scopeCandidates_of_source,
    hexisting _ fun path => mem_scopeCandidates_of_package]
  by_cases htests : config.includeTests = true
  · rw [if_pos htests, if_pos htests,
      hexisting _ fun path => mem_scopeCandidates_of_test htests]
  · rw [if_neg htests, if_neg htests]

/-- The walks start from the same paths, with the same filter. -/
theorem SameUncovered.sameWalk (hroot : SameRoot first second root) :
    SameWalk host.manifestFromPath first second root config where
  sameRoot := hroot
  filter := by
    unfold packageWalkFilter
    rw [h.nested]
  monitored := by rw [h.aspRustScope_eq hfirst hsecond hdigest]

/-- The sources are found again: by the digest where the root is the same place. -/
theorem SameUncovered.sources_eq :
    packageSourceFiles host.manifestFromPath first root config =
      discoverRustPackageFiles (packageWalkFilter host.manifestFromPath first root config) second
        (aspRustScope host.manifestFromPath first root config).monitoredPaths := by
  by_cases hroot : SameRoot first second root
  · exact discoverRustPackageFiles_eq_of_digest_eq
      (h.sameWalk hfirst hsecond hdigest hroot) hfirst hsecond hdigest
  · exact h.sources hroot

/-- **The snapshot answers the rest.**  What is consulted and not left open is answered
alike in states with one digest. -/
theorem SameUncovered.sameConsulted :
    SameConsulted host.manifestFromPath nativeSyntax first second root config := by
  intro β query hquery
  cases query with
  | pathExists path => exact h.pathExists_eq hfirst hsecond hdigest hquery
  | isFile path =>
      by_cases hheld : Held first second root snapshot path
      · exact (sameKind_of_held hfirst hsecond hdigest hheld).isFile
      · obtain htests | hcrate := hquery
        · exact (h.testsKinds path htests hheld).1
        · exact h.crates path hcrate hheld
  | isDir path =>
      by_cases hheld : Held first second root snapshot path
      · exact (sameKind_of_held hfirst hsecond hdigest hheld).isDir
      · exact (h.testsKinds path hquery hheld).2
  | entryNames path =>
      obtain rfl := hquery
      exact h.testsLayout
  | readToString path =>
      by_cases hlisted : Listed first second root snapshot path
      · exact readToString_eq_of_listed hfirst hsecond hdigest hlisted
      · exact h.texts path hquery hlisted
  | canonicalize path => exact h.places path hquery
  | cargoManifest projectRoot =>
      obtain rfl := hquery
      exact h.manifest
  | requiredCargoManifest projectRoot => exact hquery.elim
  | cargoDependencies projectRoot =>
      obtain ⟨rfl, hadapters⟩ := hquery
      exact h.dependencies hadapters
  | exclusionRoots packageRoot ignored hidden =>
      obtain ⟨rfl, rfl, rfl⟩ := hquery
      exact h.nested
  | rustFiles filter paths =>
      obtain ⟨rfl, rfl⟩ := hquery
      exact h.sources_eq hfirst hsecond hdigest

end Covered

end Uncovered

/-! ## The report of a package

The equivalence, and a state in which a directory under `tests` makes the difference. -/

/-- The rules and the planner, as they are on a package without Rust items and
without verification policy. -/
def bareAnalysisHost : AnalysisHost where
  nativeSyntax _ _ := .ok {}
  syntaxPack _ := []
  modularityPack _ _ _ := []
  agentPolicyPack _ _ _ := []
  testBloatFindings _ _ _ := []
  verificationIntegrationFindings _ _ _ _ := []
  moduleQualityFindings _ _ := []
  invariantCandidatesFromFindings _ := []
  planRustVerification analysis _ _ := ⟨analysis.projectRoot, [], [], []⟩

/-- A configuration that does not scan tests, and says why. -/
def testsExcluded : AspRustConfig where
  includeTests := false
  testPathExclusionExplanations :=
    (∅ : OrderedMap String String).insert "tests" "the tests are generated"

/-- A package with one suite directory. -/
def unitTests : FileSystem where
  root := .directory [("p", .directory [("Cargo.toml", .file (bareManifest "p") 1),
    ("src", .directory []), ("tests", .directory [("unit", .directory [])])])]
  wellFormed := by decide

/-- The same package, written out again next to some notes. -/
def unitTestsCopied : FileSystem where
  root := .directory [("p", .directory [("Cargo.toml", .file (bareManifest "p") 2),
    ("src", .directory []), ("tests", .directory [("unit", .directory [])])]),
    ("notes", .directory [("tests.rs", .file [] 3)])]
  wellFormed := by decide

/-- The package with a directory that is no suite. -/
def legacyTests : FileSystem where
  root := .directory [("p", .directory [("Cargo.toml", .file (bareManifest "p") 1),
    ("src", .directory []), ("tests", .directory [("unit", .directory []),
      ("legacy", .directory [("case.txt", .file [] 1)])])])]
  wellFormed := by decide

end AspRust.DevGate
