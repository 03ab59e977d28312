import AspRust.DevGate.Snapshot

/-!
# What a snapshot contains

The snapshot walk threads its maps through the recursion and stops at the first
error.  Here its two concerns are separated.  `visitedFiles` lists the regular
files the walk meets, which depends on the tree alone; collecting is one fold of
`collectFile` over that list (`collectSnapshotNode_eq_foldlM`).  The list is
specified by reachability (`mem_visitedFiles`), and the fold by the entry each
file is given (`collectPaths_eq`).

### Layout

* The files a walk meets, by recursion on the tree, and what they are
  (`mem_visitedFiles`).
* The walk of the source as a fold over these files.
* The fold file by file: the entry of each, and when all of them have one.

The separation is what makes the comparison with discovery possible: `Coverage` and
`Soundness` use the first part and never look at a map, and `DigestIndex` uses the last
and never looks at the tree.
-/

namespace AspRust.DevGate

open AspRust.Foundation AspRust.Discovery

/-! ## The files a walk meets

The walk without its maps.  A directory is entered in the order of its names, and the
files that are met are those that are reached through admitted names. -/

/-- The snapshot walk tests the names of directories only. -/
def snapshotAdmits (filter : WalkFilter) (name : String) (node : Node) : Bool :=
  match node with
  | .directory _ =>
      !shouldSkipDirectory filter.ignoredDirNames filter.includeHiddenDirNames name
  | _ => true

/-- The entries of a directory in the order of their names. -/
def sortedEntries (entries : List (String × Node)) : List (String × Node) :=
  entries.insertionSort fun a b => a.1 ≤ b.1

section Visited

variable (filter : WalkFilter)

mutual

/-- The files the snapshot walk meets at a node, in the order it meets them. -/
def visitedFiles (path : Path) : Node → List VisitedFile
  | .file content modified => [⟨path, content, modified⟩]
  | .directory entries =>
      if filter.enters path then
        ((visitedOfEntries path entries).insertionSort fun a b => a.1 ≤ b.1).flatMap Prod.snd
      else []
  | _ => []

/-- The files met at each entry of a directory, by name. -/
def visitedOfEntries (path : Path) : List (String × Node) → List (String × List VisitedFile)
  | [] => []
  | (name, node) :: rest =>
      (name, if snapshotAdmits filter name node then
        visitedFiles (path ++ [.normal name]) node else []) :: visitedOfEntries path rest

end

/-- The files met from a list of paths. -/
def visitedFrom (fs : FileSystem) (paths : List Path) : List VisitedFile :=
  paths.flatMap fun path => ((fs.lstat path).map (visitedFiles filter path)).getD []

variable {filter}

theorem visitedOfEntries_eq_map (path : Path) (entries : List (String × Node)) :
    visitedOfEntries filter path entries = entries.map fun entry =>
      (entry.1, if snapshotAdmits filter entry.1 entry.2 then
        visitedFiles filter (path ++ [.normal entry.1]) entry.2 else []) := by
  induction entries with
  | nil => rfl
  | cons head rest ih => rw [visitedOfEntries, ih, List.map_cons]

/-- The files met in a directory, entry by entry in the order of their names. -/
theorem visitedFiles_directory (path : Path) (entries : List (String × Node)) :
    visitedFiles filter path (.directory entries) =
      if filter.enters path then
        (sortedEntries entries).flatMap fun entry =>
          if snapshotAdmits filter entry.1 entry.2 then
            visitedFiles filter (path ++ [.normal entry.1]) entry.2 else []
      else [] := by
  rw [visitedFiles, visitedOfEntries_eq_map, sortedEntries,
    ← List.map_insertionSort (fun a b : String × Node => a.1 ≤ b.1), List.flatMap_map]
  simp

/-- **What the walk meets.**  The walk meets exactly the regular files it reaches
through entered directories whose names are not skipped. -/
theorem mem_visitedFiles {path : Path} {node : Node} {file : VisitedFile} :
    file ∈ visitedFiles filter path node ↔
      Reaches filter.enters (snapshotAdmits filter) path node file.path
        (.file file.content file.modified) := by
  induction node using Node.inductionOn generalizing path with
  | file content modified =>
      rw [visitedFiles, List.mem_singleton]
      constructor
      · rintro rfl
        exact .here _ _
      · intro h
        cases file
        cases h
        rfl
  | symlink absolute target =>
      simp only [visitedFiles, List.not_mem_nil, false_iff]
      intro h
      cases h
  | special =>
      simp only [visitedFiles, List.not_mem_nil, false_iff]
      intro h
      cases h
  | directory entries ih =>
      rw [visitedFiles_directory, Reaches.directory_file_iff]
      by_cases henters : filter.enters path = true
      · rw [if_pos henters, List.mem_flatMap]
        constructor
        · rintro ⟨entry, hentry, hfile⟩
          have hmem : entry ∈ entries := (List.mem_insertionSort _).mp hentry
          split at hfile
          · next hadmits => exact ⟨henters, entry.1, entry.2, hmem, hadmits, (ih entry hmem).mp hfile⟩
          · simp at hfile
        · rintro ⟨-, name, child, hmem, hadmits, hreach⟩
          refine ⟨(name, child), (List.mem_insertionSort _).mpr hmem, ?_⟩
          rw [if_pos hadmits]
          exact (ih (name, child) hmem).mpr hreach
      · simp [henters]

theorem mem_visitedFrom {fs : FileSystem} {paths : List Path} {file : VisitedFile} :
    file ∈ visitedFrom filter fs paths ↔
      ∃ path ∈ paths, ∃ node, fs.lstat path = some node ∧
        Reaches filter.enters (snapshotAdmits filter) path node file.path
          (.file file.content file.modified) := by
  rw [visitedFrom, List.mem_flatMap]
  refine exists_congr fun path => and_congr_right fun _ => ?_
  cases hnode : fs.lstat path with
  | none => simp
  | some node => simp [mem_visitedFiles]

/-- A visited file is the file a lookup finds at its path. -/
theorem lstat_of_mem_visitedFrom {fs : FileSystem} {paths : List Path} {file : VisitedFile}
    (h : file ∈ visitedFrom filter fs paths) :
    fs.lstat file.path = some (.file file.content file.modified) := by
  obtain ⟨path, -, node, hnode, hreach⟩ := mem_visitedFrom.mp h
  exact hreach.lstat hnode

end Visited

/-! ## Collecting is a fold over the visited files

The walk of the source stops at the first error.  A fold over the list of files in the
same order stops at the same file. -/

section Collecting

variable {sha256 : Sha256} {projectRoot : Path} {filter : WalkFilter}
variable {previousIndex : AspRustSnapshotDigestIndex}

theorem collectSnapshotEntries_eq_map (path : Path) (entries : List (String × Node)) :
    collectSnapshotEntries sha256 projectRoot filter previousIndex path entries =
      entries.map fun entry => (entry.1, fun collected =>
        if snapshotAdmits filter entry.1 entry.2 then
          collectSnapshotNode sha256 projectRoot filter previousIndex
            (path ++ [.normal entry.1]) entry.2 collected
        else .ok collected) := by
  induction entries with
  | nil => rfl
  | cons head rest ih =>
      obtain ⟨name, node⟩ := head
      rw [collectSnapshotEntries, ih, List.map_cons]
      congr 2
      funext collected
      cases node with
      | directory entries =>
          by_cases hskip : shouldSkipDirectory filter.ignoredDirNames
              filter.includeHiddenDirNames name = true
          · simp [snapshotAdmits, hskip]
          · simp [snapshotAdmits, hskip]
      | _ => simp [snapshotAdmits, collectSnapshotNode]

/-- **Collecting is a fold.**  The walk at a node records the files it meets, one
after the other. -/
theorem collectSnapshotNode_eq_foldlM (path : Path) (node : Node) (collected : Collected) :
    collectSnapshotNode sha256 projectRoot filter previousIndex path node collected =
      (visitedFiles filter path node).foldlM
        (collectFile sha256 projectRoot previousIndex) collected := by
  induction node using Node.inductionOn generalizing path collected with
  | file content modified => simp [collectSnapshotNode, visitedFiles]
  | symlink absolute target => rfl
  | special => rfl
  | directory entries ih =>
      rw [collectSnapshotNode, visitedFiles_directory]
      by_cases henters : filter.enters path = true
      · rw [if_pos henters, if_pos henters, collectSnapshotEntries_eq_map,
          ← List.map_insertionSort (fun a b : String × Node => a.1 ≤ b.1), List.foldlM_map,
          foldlM_flatMap]
        · refine foldlM_congr (fun entry hentry collected => ?_) collected
          have hmem : entry ∈ entries := (List.mem_insertionSort _).mp hentry
          by_cases hadmits : snapshotAdmits filter entry.1 entry.2 = true
          · simp only [if_pos hadmits, ih entry hmem]
          · simp only [if_neg hadmits]
            rfl
        · simp
      · rw [if_neg henters, if_neg henters]
        rfl

/-- The walk over a list of paths is the fold over all files it meets. -/
theorem collectSnapshotPath_foldlM (fs : FileSystem) (paths : List Path)
    (collected : Collected) :
    paths.foldlM (collectSnapshotPath sha256 projectRoot filter previousIndex fs) collected =
      (visitedFrom filter fs paths).foldlM
        (collectFile sha256 projectRoot previousIndex) collected := by
  rw [visitedFrom, foldlM_flatMap]
  refine foldlM_congr (fun path _ collected => ?_) collected
  unfold collectSnapshotPath
  cases fs.lstat path with
  | none => rfl
  | some node => exact collectSnapshotNode_eq_foldlM path node collected

/-! ## What the fold records

What is recorded for a file depends on the file and on the previous index only, so the
maps in the end can be said file by file. -/

/-- The entry a file is given in the index and in the snapshot. -/
def indexEntry (sha256 : Sha256) (projectRoot : Path)
    (previousIndex : AspRustSnapshotDigestIndex) (file : VisitedFile) :
    Except String (Path × AspRustSnapshotDigestIndexFile) :=
  match Path.stripPrefix? projectRoot file.path with
  | none => .error "relativize dev-gate snapshot path: prefix not found"
  | some relativePath =>
      (snapshotFile sha256 file.path relativePath file.content file.modified
        previousIndex).map (relativePath, ·)

/-- Put an entry into both maps. -/
def Collected.record (collected : Collected)
    (entry : Path × AspRustSnapshotDigestIndexFile) : Collected where
  files := collected.files.insert entry.1 ⟨entry.1, entry.2.byteCount, entry.2.contentDigest⟩
  nextIndex := collected.nextIndex.insert entry.1 entry.2

theorem collectFile_eq_map (collected : Collected) (file : VisitedFile) :
    collectFile sha256 projectRoot previousIndex collected file =
      (indexEntry sha256 projectRoot previousIndex file).map collected.record := by
  unfold collectFile indexEntry
  cases Path.stripPrefix? projectRoot file.path with
  | none => rfl
  | some relativePath =>
      cases hentry : snapshotFile sha256 file.path relativePath file.content file.modified
        previousIndex with
      | error message => simp [hentry, Except.map, bind, Except.bind]
      | ok indexed => simp [hentry, Except.map, bind, Except.bind, Collected.record, pure,
          Except.pure]

/-- **Collecting, as a whole.**  The files of a list of paths are collected when
each has an entry, and then the maps hold these entries. -/
theorem collectPaths_eq (fs : FileSystem) (paths : List Path) (collected : Collected) :
    paths.foldlM (collectSnapshotPath sha256 projectRoot filter previousIndex fs) collected =
      ((visitedFrom filter fs paths).mapM (indexEntry sha256 projectRoot previousIndex)).map
        fun entries => entries.foldl Collected.record collected := by
  rw [collectSnapshotPath_foldlM, ← foldlM_map_eq]
  exact foldlM_congr (fun file _ collected => collectFile_eq_map collected file) collected

/-- The file a snapshot lists for an index entry. -/
def snapshotFileOf (entry : Path × AspRustSnapshotDigestIndexFile) :
    AspRustDevGateSnapshotFile :=
  ⟨entry.1, entry.2.byteCount, entry.2.contentDigest⟩

theorem indexEntry_eq_ok {file : VisitedFile} {entry : Path × AspRustSnapshotDigestIndexFile} :
    indexEntry sha256 projectRoot previousIndex file = .ok entry ↔
      file.path = projectRoot ++ entry.1 ∧
        snapshotFile sha256 file.path entry.1 file.content file.modified previousIndex =
          .ok entry.2 := by
  obtain ⟨relativePath, indexed⟩ := entry
  unfold indexEntry
  constructor
  · intro h
    split at h
    · simp at h
    · next relative hstrip =>
        obtain ⟨other, hother, hpair⟩ := Except.map_eq_ok.mp h
        obtain ⟨rfl, rfl⟩ := Prod.mk.inj hpair
        exact ⟨Path.stripPrefix?_eq_some_iff.mp hstrip, hother⟩
  · rintro ⟨hpath, hfile⟩
    rw [Path.stripPrefix?_eq_some_iff.mpr hpath]
    simp [hfile, Except.map]

/-- Without a previous index a file is given what reading it gives. -/
theorem snapshotFile_of_empty {path relativePath : Path} {content : List UInt8}
    {modified : Int} {entry : AspRustSnapshotDigestIndexFile}
    (h : snapshotFile sha256 path relativePath content modified {} = .ok entry) :
    0 ≤ modified ∧ entry = ⟨content.length, modified.toNat, contentDigest sha256 content⟩ := by
  unfold snapshotFile at h
  split at h
  · simp at h
  · next hafter =>
      dsimp only at h
      rw [OrderedMap.get?_empty] at h
      exact ⟨not_lt.mp hafter, (Except.ok.inj h).symm⟩

theorem foldl_record (entries : List (Path × AspRustSnapshotDigestIndexFile))
    (collected : Collected) :
    entries.foldl Collected.record collected =
      ⟨OrderedMap.insertAll Prod.fst snapshotFileOf entries collected.files,
        OrderedMap.insertAll Prod.fst Prod.snd entries collected.nextIndex⟩ := by
  induction entries generalizing collected with
  | nil => rfl
  | cons head rest ih =>
      rw [List.foldl_cons, ih]
      rfl

/-- **The keys of a snapshot.**  Collected paths are the visited files, relative
to the project root. -/
theorem mem_keys_of_collectPaths {fs : FileSystem} {paths : List Path} {collected : Collected}
    (h : paths.foldlM (collectSnapshotPath sha256 projectRoot filter previousIndex fs) {} =
      .ok collected) {relativePath : Path} :
    relativePath ∈ collected.files.keys ↔
      ∃ file ∈ visitedFrom filter fs paths, file.path = projectRoot ++ relativePath := by
  rw [collectPaths_eq] at h
  obtain ⟨entries, hentries, rfl⟩ := Except.map_eq_ok.mp h
  rw [foldl_record, OrderedMap.mem_keys_insertAll]
  simp only [OrderedMap.keys_empty, List.not_mem_nil, false_or]
  constructor
  · rintro ⟨entry, hentry, rfl⟩
    obtain ⟨file, hfile, hok⟩ := (mem_of_mapM_eq_ok hentries).mp hentry
    exact ⟨file, hfile, (indexEntry_eq_ok.mp hok).1⟩
  · rintro ⟨file, hfile, hpath⟩
    obtain ⟨entry, hok⟩ := exists_mapM_eq_ok.mp ⟨entries, hentries⟩ file hfile
    refine ⟨entry, (mem_of_mapM_eq_ok hentries).mpr ⟨file, hfile, hok⟩, ?_⟩
    rw [(indexEntry_eq_ok.mp hok).1] at hpath
    exact List.append_cancel_left hpath

/-- Where collecting succeeds, every visited file lies in the project. -/
theorem isPrefix_of_collectPaths {fs : FileSystem} {paths : List Path} {collected : Collected}
    (h : paths.foldlM (collectSnapshotPath sha256 projectRoot filter previousIndex fs) {} =
      .ok collected) {file : VisitedFile} (hfile : file ∈ visitedFrom filter fs paths) :
    projectRoot <+: file.path := by
  rw [collectPaths_eq] at h
  obtain ⟨entries, hentries, -⟩ := Except.map_eq_ok.mp h
  obtain ⟨entry, hok⟩ := exists_mapM_eq_ok.mp ⟨entries, hentries⟩ file hfile
  exact ⟨entry.1, (indexEntry_eq_ok.mp hok).1.symm⟩

/-- Collecting succeeds when every visited file lies in the project and was
modified after the epoch. -/
theorem exists_collectPaths_eq_ok {fs : FileSystem} {paths : List Path}
    (hinside : ∀ file ∈ visitedFrom filter fs paths, projectRoot <+: file.path)
    (htime : ∀ file ∈ visitedFrom filter fs paths, 0 ≤ file.modified) :
    ∃ collected, paths.foldlM
      (collectSnapshotPath sha256 projectRoot filter previousIndex fs) {} = .ok collected := by
  rw [collectPaths_eq]
  have hall : ∀ file ∈ visitedFrom filter fs paths,
      ∃ entry, indexEntry sha256 projectRoot previousIndex file = .ok entry := by
    intro file hfile
    obtain ⟨relativePath, hpath⟩ := hinside file hfile
    obtain ⟨indexed, hindexed⟩ : ∃ indexed, snapshotFile sha256 file.path relativePath
        file.content file.modified previousIndex = .ok indexed := by
      unfold snapshotFile
      rw [if_neg (not_lt.mpr (htime file hfile))]
      dsimp only
      split
      · split <;> exact ⟨_, rfl⟩
      · exact ⟨_, rfl⟩
    exact ⟨(relativePath, indexed), indexEntry_eq_ok.mpr ⟨hpath.symm, hindexed⟩⟩
  obtain ⟨entries, hentries⟩ := exists_mapM_eq_ok.mpr hall
  exact ⟨_, by rw [hentries]; rfl⟩

end Collecting

end AspRust.DevGate
