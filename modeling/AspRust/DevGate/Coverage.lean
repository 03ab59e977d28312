import AspRust.DevGate.SnapshotWalk

/-!
# The snapshot covers discovery

The files a run parses are found by one walk, the files its cache key depends on
by another.  The two were written separately and test differently: discovery
tests the name of every entry, the snapshot walk the names of directories only,
and each has its own notion of a hidden name.

Both are instances of `Reaches`, so they are compared by their tests.  Discovery
admits less (`admits_imp_snapshotAdmits`; the two notions of a hidden name part
on `.` and `..`, which no directory entry has), so every discovered file is in
the snapshot.  Conversely a file of the snapshot has a `DirectRoute` from a
monitored root.

### What is load-bearing

The theorem is about one state of the file system: both walks see the same tree.  What
happens between the two walks of a real run is the subject of `Interleaving`.

A modification time before the epoch stops the collection, since the index has no number
for it; there is no other way for it to stop.  An empty file and a file with the name of
a directory that is skipped are the two cases in which the walks look different and are
not: an empty file has a digest like any other, and only directories are skipped.
-/

namespace AspRust.DevGate

open AspRust.Foundation AspRust.Discovery

/-- The names that lead from a root to a file without passing a link, an ignored
or hidden directory below the root, or the root of another package. -/
structure DirectRoute (fs : FileSystem) (filter : WalkFilter) (root : Path)
    (names : List String) : Prop where
  /-- A regular file is at the end. -/
  file : ∃ content modified,
    fs.lstat (root ++ names.map .normal) = some (.file content modified)
  /-- Everything passed on the way is a directory, not a link to one. -/
  directories : ∀ before name after, names = before ++ name :: after →
    ∃ entries, fs.lstat (root ++ before.map .normal) = some (.directory entries)
  /-- No directory passed is the root of another package. -/
  outside : ∀ before name after, names = before ++ name :: after →
    normalizeLexicalPath (root ++ before.map .normal) ∉ filter.excludedPackageRoots.keys
  /-- No directory passed below the root is ignored, or hidden and not included. -/
  visible : ∀ before name next after, names = before ++ name :: next :: after →
    name ∉ filter.ignoredDirNames.keys ∧
      (name.toList.head? = some '.' → name ∈ filter.includeHiddenDirNames.keys)

/-- A list that is split somewhere is split at its head or in its tail. -/
theorem cons_eq_append_cons {α : Type*} {head : α} {tail before after : List α} {element : α}
    (h : head :: tail = before ++ element :: after) :
    (before = [] ∧ element = head ∧ after = tail) ∨
      ∃ rest, before = head :: rest ∧ tail = rest ++ element :: after := by
  cases before with
  | nil =>
      obtain ⟨rfl, rfl⟩ := List.cons.inj h
      exact Or.inl ⟨rfl, rfl, rfl⟩
  | cons first rest =>
      obtain ⟨rfl, htail⟩ := List.cons.inj (by simpa using h)
      exact Or.inr ⟨rest, rfl, htail⟩

section Routes

variable {fs : FileSystem} {filter : WalkFilter}

/-- The snapshot walk takes direct routes only. -/
theorem directRoute_of_reaches {path target : Path} {node found : Node}
    (hreach : Reaches filter.enters (snapshotAdmits filter) path node target found)
    (hnode : fs.lstat path = some node) {content : List UInt8} {modified : Int}
    (hfound : found = .file content modified) :
    ∃ names, target = path ++ names.map .normal ∧ DirectRoute fs filter path names := by
  induction hreach with
  | here path node =>
      subst hfound
      refine ⟨[], by simp, ⟨content, modified, by simpa using hnode⟩, ?_, ?_, ?_⟩ <;> simp
  | @entry path target entries name child found henters hmem hadmits hrest ih =>
      have hchild : fs.lstat (path ++ [.normal name]) = some child :=
        FileSystem.lstat_concat (FileSystem.stat_of_lstat hnode rfl) hmem
      obtain ⟨names, htarget, hroute⟩ := ih hchild hfound
      have hshift : ∀ more : List String,
          path ++ (name :: more).map Component.normal =
            path ++ [.normal name] ++ more.map .normal := by simp
      refine ⟨name :: names, by rw [hshift, htarget], ⟨?_, ?_, ?_, ?_⟩⟩
      · obtain ⟨content', modified', hfile⟩ := hroute.file
        exact ⟨content', modified', by rw [hshift, hfile]⟩
      · intro before element after hsplit
        rcases cons_eq_append_cons hsplit with ⟨rfl, -, -⟩ | ⟨rest, rfl, htail⟩
        · exact ⟨entries, by simpa using hnode⟩
        · rw [hshift]
          exact hroute.directories rest element after htail
      · intro before element after hsplit
        rcases cons_eq_append_cons hsplit with ⟨rfl, -, -⟩ | ⟨rest, rfl, htail⟩
        · simpa [WalkFilter.enters] using henters
        · rw [hshift]
          exact hroute.outside rest element after htail
      · intro before element next after hsplit
        rcases cons_eq_append_cons hsplit with ⟨rfl, rfl, hnames⟩ | ⟨rest, rfl, htail⟩
        · -- something follows the name, so it is a directory, whose name was tested
          obtain ⟨below, hbelow⟩ := hroute.directories [] next after (by simp [← hnames])
          have hdir : child = .directory below := by
            have hsame : some child = some (.directory below) := by
              rw [← hchild, ← hbelow]
              simp
            exact Option.some.inj hsame
          subst hdir
          simpa [snapshotAdmits, shouldSkipDirectory, imp_iff_not_or] using hadmits
        · exact hroute.visible rest element next after htail

/-- Every visited file has a direct route from a root of the walk. -/
theorem directRoute_of_mem_visitedFrom {roots : List Path} {file : VisitedFile}
    (h : file ∈ visitedFrom filter fs roots) :
    ∃ root ∈ roots, ∃ names, file.path = root ++ names.map .normal ∧
      DirectRoute fs filter root names := by
  obtain ⟨root, hroot, node, hnode, hreach⟩ := mem_visitedFrom.mp h
  obtain ⟨names, hnames, hroute⟩ := directRoute_of_reaches hreach hnode rfl
  exact ⟨root, hroot, names, hnames, hroute⟩

end Routes

/-- A name discovery admits is one the snapshot walk admits. -/
theorem admits_imp_snapshotAdmits (filter : WalkFilter) (name : String) (node : Node)
    (hvalid : Node.validName name = true) (h : filter.admits name node = true) :
    snapshotAdmits filter name node = true := by
  cases node with
  | directory entries =>
      have hdot : name ≠ "." ∧ name ≠ ".." := by
        simp only [Node.validName, Bool.and_eq_true, decide_eq_true_eq] at hvalid
        exact ⟨hvalid.1.1.2, hvalid.1.2⟩
      simpa [snapshotAdmits, shouldSkipDirectory, WalkFilter.admits, shouldIgnoreDirName,
        hdot.1, hdot.2] using h
  | _ => rfl

/-- **The snapshot walk covers the discovery walk.**  For monitored roots inside
the project root the collection stops only at a file modified before the epoch;
where it succeeds, every discovered Rust file is a key of the snapshot, and
every key has a direct route from a monitored root. -/
theorem collectSnapshotPath_covers_discovery (sha256 : Sha256) (fs : FileSystem)
    (projectRoot : Path) (filter : WalkFilter) (previousIndex : AspRustSnapshotDigestIndex)
    (roots : List Path) (hroots : ∀ root ∈ roots, projectRoot <+: root) :
    ((∃ collected, roots.foldlM
        (collectSnapshotPath sha256 projectRoot filter previousIndex fs) {} = .ok collected) ∨
      ∃ root ∈ roots, ∃ names, DirectRoute fs filter root names ∧ ∃ content modified,
        fs.lstat (root ++ names.map .normal) = some (.file content modified) ∧ modified < 0) ∧
    ∀ collected, roots.foldlM
        (collectSnapshotPath sha256 projectRoot filter previousIndex fs) {} = .ok collected →
      (∀ target ∈ discoverRustPackageFiles filter fs roots,
        ∃ relativePath ∈ collected.files.keys, target = projectRoot ++ relativePath) ∧
      (∀ relativePath ∈ collected.files.keys, ∃ root ∈ roots, ∃ names,
        projectRoot ++ relativePath = root ++ names.map .normal ∧
          DirectRoute fs filter root names) := by
  have hinside : ∀ file ∈ visitedFrom filter fs roots, projectRoot <+: file.path := by
    intro file hfile
    obtain ⟨root, hroot, node, -, hreach⟩ := mem_visitedFrom.mp hfile
    exact (hroots root hroot).trans hreach.isPrefix
  refine ⟨?_, ?_⟩
  · by_cases htime : ∀ file ∈ visitedFrom filter fs roots, 0 ≤ file.modified
    · exact Or.inl (exists_collectPaths_eq_ok hinside htime)
    · push Not at htime
      obtain ⟨file, hfile, hbefore⟩ := htime
      obtain ⟨root, hroot, names, hnames, hroute⟩ := directRoute_of_mem_visitedFrom hfile
      exact Or.inr ⟨root, hroot, names, hroute, file.content, file.modified,
        hnames ▸ lstat_of_mem_visitedFrom hfile, hbefore⟩
  · intro collected hcollected
    constructor
    · intro target htarget
      obtain ⟨-, root, hroot, node, hnode, content, modified, hreach⟩ :=
        mem_discoverRustPackageFiles.mp htarget
      have hwide : Reaches filter.enters (snapshotAdmits filter) root node target
          (.file content modified) :=
        hreach.mono (FileSystem.lstat_wellFormed hnode) (fun _ h => h)
          (admits_imp_snapshotAdmits filter)
      have hvisited : (⟨target, content, modified⟩ : VisitedFile) ∈
          visitedFrom filter fs roots := mem_visitedFrom.mpr ⟨root, hroot, node, hnode, hwide⟩
      obtain ⟨relativePath, hpath⟩ := hinside _ hvisited
      exact ⟨relativePath, (mem_keys_of_collectPaths hcollected).mpr
        ⟨_, hvisited, hpath.symm⟩, hpath.symm⟩
    · intro relativePath hkey
      obtain ⟨file, hfile, hpath⟩ := (mem_keys_of_collectPaths hcollected).mp hkey
      obtain ⟨root, hroot, names, hnames, hroute⟩ := directRoute_of_mem_visitedFrom hfile
      exact ⟨root, hroot, names, by rw [← hpath, hnames], hroute⟩

/-- The empty content, with its digest. -/
def emptyContentDigest : List UInt8 × List UInt8 :=
  ([],
    [0xeb, 0xd6, 0xec, 0xee, 0x64, 0x0a, 0xd5, 0x1e, 0x31, 0x44, 0x3e, 0x28, 0x9d, 0x35, 0xce, 0x82,
      0x68, 0xd4, 0x18, 0x31, 0xd5, 0xc8, 0x9d, 0x6e, 0x6c, 0x26, 0x4f, 0xae, 0x04, 0x54, 0x54, 0x33])

/-- A package with an empty `src/lib.rs` and a hidden file next to it. -/
def emptyLibrary : FileSystem where
  root := .directory [("p", .directory [("src", .directory
    [("lib.rs", .file [] 1), (".scratch.rs", .symlink false [.normal "lib.rs"])])])]
  wellFormed := by decide

/-- The walks agree on the package with an empty library. -/
theorem emptyLibrary_covered :
    ∃ collected, [[.normal "p", .normal "src"]].foldlM
        (collectSnapshotPath (Sha256.ofContents [emptyContentDigest] (by decide) (by decide))
          [.normal "p"] ⟨∅, ∅, ∅⟩ {} emptyLibrary) {} = .ok collected ∧
      ∃ relativePath ∈ collected.files.keys,
        [.normal "p", .normal "src", .normal "lib.rs"] = [.normal "p"] ++ relativePath := by
  have hcovers := collectSnapshotPath_covers_discovery
    (Sha256.ofContents [emptyContentDigest] (by decide) (by decide)) emptyLibrary [.normal "p"]
    ⟨∅, ∅, ∅⟩ {} [[.normal "p", .normal "src"]] (by decide)
  refine ⟨_, rfl, (hcovers.2 _ rfl).1 _ ?_⟩
  decide

end AspRust.DevGate
