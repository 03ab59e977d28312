import AspRust.Discovery.Config
import AspRust.Foundation.TreeWalk

/-!
# Discovery walks

`discoverPathWithPackageBoundary` is the walk that finds the Rust files of a
package: it skips ignored and hidden names, follows no link, and does not enter
the roots of other packages.  A directory entry is looked up again by path in
the source; here the walk recurses on the tree, and
`discoverPathWithPackageBoundary_eq` shows that this is the recursion of the
source, lookup by lookup.

`discoverCargoManifests` is the walk that expands a member pattern.  It tests
with lookups that follow links, so it can go around a cycle of links until the
lookup itself gives up; its recursion is on a depth no resolving path exceeds.

### What is load-bearing

A walk in the source calls itself with a path and asks the file system what it is.  Below a
directory the answer is the entry that was listed (`lstat_concat` of `Foundation.FileTree`),
which lets the recursion be on the tree; the tests of names, links and boundaries stay in
their order, since the first that applies decides.
-/

namespace AspRust.Discovery

open AspRust.Foundation

/-- The name filters and package boundary of a walk. -/
structure WalkFilter where
  /-- Roots of other packages, which the walk does not enter. -/
  excludedPackageRoots : OrderedSet Path
  ignoredDirNames : OrderedSet String
  includeHiddenDirNames : OrderedSet String
deriving DecidableEq

namespace WalkFilter

variable (filter : WalkFilter)

/-- A directory is entered unless it is the root of another package. -/
def enters (path : Path) : Bool :=
  normalizeLexicalPath path ∉ filter.excludedPackageRoots.keys

/-- Discovery tests every entry by its name, file or directory. -/
def admits (name : String) (_ : Node) : Bool :=
  !shouldIgnoreDirName filter.ignoredDirNames filter.includeHiddenDirNames name

end WalkFilter

section PackageFiles

variable (filter : WalkFilter)

mutual

/-- The walk at a node with its path. -/
def discoverNode (path : Path) (ignoreCurrent : Bool) :
    Node → OrderedSet Path → OrderedSet Path
  | node, files =>
      if ignoreCurrent &&
          shouldIgnore filter.ignoredDirNames filter.includeHiddenDirNames path then files
      else
        match node with
        | .symlink _ _ => files
        | .file _ _ => if isRustFile path then files.add path else files
        | .special => files
        | .directory entries =>
            if filter.enters path then discoverEntries path entries files else files

/-- The walk over the entries of a directory, in listing order. -/
def discoverEntries (path : Path) :
    List (String × Node) → OrderedSet Path → OrderedSet Path
  | [], files => files
  | (name, node) :: rest, files =>
      discoverEntries path rest (discoverNode (path ++ [.normal name]) true node files)

end

/-- The walk from a path. -/
def discoverPathWithPackageBoundary (fs : FileSystem) (path : Path) (ignoreCurrent : Bool)
    (files : OrderedSet Path) : OrderedSet Path :=
  match fs.lstat path with
  | none => files
  | some node => discoverNode filter path ignoreCurrent node files

/-- The Rust files below a list of roots, in path order.  The name of a root is
not tested. -/
def discoverRustPackageFiles (fs : FileSystem) (paths : List Path) : List Path :=
  (paths.foldl (fun files path =>
    discoverPathWithPackageBoundary filter fs path false files) ∅).keys

variable {filter}

theorem discoverEntries_eq_foldl {path : Path} {entries : List (String × Node)}
    {files : OrderedSet Path} :
    discoverEntries filter path entries files =
      entries.foldl (fun files entry =>
        discoverNode filter (path ++ [.normal entry.1]) true entry.2 files) files := by
  induction entries generalizing files with
  | nil => rfl
  | cons head rest ih => rw [discoverEntries, ih, List.foldl_cons]

/-- **The walk is the recursion of the source.**  At every path it tests, in
this order, the name, the link, the file, the directory and the boundary, and
goes on with the path of each listed entry. -/
theorem discoverPathWithPackageBoundary_eq (fs : FileSystem) (path : Path)
    (ignoreCurrent : Bool) (files : OrderedSet Path) :
    discoverPathWithPackageBoundary filter fs path ignoreCurrent files =
      if ignoreCurrent &&
          shouldIgnore filter.ignoredDirNames filter.includeHiddenDirNames path then files
      else if fs.isSymlinkPath path then files
      else if fs.isFile path then (if isRustFile path then files.add path else files)
      else if !fs.isDir path then files
      else if !filter.enters path then files
      else match fs.readDir path with
        | none => files
        | some entries => entries.foldl (fun files entry =>
            discoverPathWithPackageBoundary filter fs (path ++ [.normal entry.1]) true files)
              files := by
  unfold discoverPathWithPackageBoundary
  cases hnode : fs.lstat path with
  | none =>
      have hstat : fs.stat path = none := by
        rw [Option.eq_none_iff_forall_ne_some]
        intro node h
        rcases FileSystem.lstat_of_stat h with h | h
        · simp [hnode] at h
        · simp [FileSystem.isSymlinkPath, hnode] at h
      simp [FileSystem.isSymlinkPath, FileSystem.isFile, FileSystem.isDir, hnode, hstat]
  | some node =>
      cases node with
      | symlink absolute target =>
          simp [discoverNode, FileSystem.isSymlinkPath, hnode]
      | file content modified =>
          have hstat := FileSystem.stat_of_lstat hnode rfl
          simp [discoverNode, FileSystem.isSymlinkPath, FileSystem.isFile, hnode, hstat]
      | special =>
          have hstat := FileSystem.stat_of_lstat hnode rfl
          simp [discoverNode, FileSystem.isSymlinkPath, FileSystem.isFile, FileSystem.isDir,
            hnode, hstat]
      | directory entries =>
          have hstat := FileSystem.stat_of_lstat hnode rfl
          have hentries : entries.foldl (fun files entry =>
                discoverNode filter (path ++ [.normal entry.1]) true entry.2 files) files =
              entries.foldl (fun files entry =>
                match fs.lstat (path ++ [.normal entry.1]) with
                | none => files
                | some node => discoverNode filter (path ++ [.normal entry.1]) true node files)
                files := by
            refine List.foldl_ext _ _ files fun files entry hentry => ?_
            rw [FileSystem.lstat_concat hstat hentry]
          cases henters : filter.enters path <;>
            simp [discoverNode, discoverEntries_eq_foldl, hentries, FileSystem.isSymlinkPath,
              FileSystem.isFile, FileSystem.isDir, FileSystem.readDir, hnode, hstat, henters]

/-- What a walk at a node is to find: the Rust files it reaches, unless the name
it starts at is tested and ignored. -/
def WalkFilter.Finds (filter : WalkFilter) (path : Path) (ignoreCurrent : Bool) (node : Node)
    (target : Path) : Prop :=
  (ignoreCurrent &&
      shouldIgnore filter.ignoredDirNames filter.includeHiddenDirNames path) = false ∧
    isRustFile target = true ∧ ∃ content modified,
      Reaches filter.enters filter.admits path node target (.file content modified)

/-- The walk of a directory is as wide as the walks of its entries. -/
theorem mem_discoverEntries {path target : Path} {entries : List (String × Node)}
    {files : OrderedSet Path}
    (hentries : ∀ entry ∈ entries, ∀ files : OrderedSet Path,
      target ∈ (discoverNode filter (path ++ [.normal entry.1]) true entry.2 files).keys ↔
        target ∈ files.keys ∨
          filter.Finds (path ++ [.normal entry.1]) true entry.2 target) :
    target ∈ (discoverEntries filter path entries files).keys ↔
      target ∈ files.keys ∨ ∃ name node, (name, node) ∈ entries ∧
        filter.Finds (path ++ [.normal name]) true node target := by
  induction entries generalizing files with
  | nil => simp [discoverEntries]
  | cons head rest ih =>
      obtain ⟨name, node⟩ := head
      rw [discoverEntries, ih fun entry hentry => hentries entry (List.mem_cons_of_mem _ hentry),
        hentries (name, node) List.mem_cons_self, or_assoc]
      refine or_congr_right ⟨?_, ?_⟩
      · rintro (h | ⟨name', node', hmem, h⟩)
        · exact ⟨name, node, List.mem_cons_self, h⟩
        · exact ⟨name', node', List.mem_cons_of_mem _ hmem, h⟩
      · rintro ⟨name', node', hmem, h⟩
        rcases List.mem_cons.mp hmem with heq | hmem
        · obtain ⟨rfl, rfl⟩ := Prod.mk.inj heq
          exact Or.inl h
        · exact Or.inr ⟨name', node', hmem, h⟩

/-- **What the walk finds.**  The walk adds exactly the Rust files that it
reaches through admitted names and entered directories. -/
theorem mem_discoverNode {path target : Path} {ignoreCurrent : Bool} {node : Node}
    {files : OrderedSet Path} :
    target ∈ (discoverNode filter path ignoreCurrent node files).keys ↔
      target ∈ files.keys ∨ filter.Finds path ignoreCurrent node target := by
  unfold WalkFilter.Finds
  induction node using Node.inductionOn generalizing path ignoreCurrent files with
  | file content modified =>
      have hreach : ∀ content' modified',
          Reaches filter.enters filter.admits path (.file content modified) target
            (.file content' modified') ↔
            target = path ∧ content' = content ∧ modified' = modified := by
        intro content' modified'
        constructor
        · intro h
          cases h with
          | here => exact ⟨rfl, rfl, rfl⟩
        · rintro ⟨rfl, rfl, rfl⟩
          exact .here _ _
      rw [discoverNode]
      split
      · next hignored => simp [hignored]
      · next hkept =>
          simp only [Bool.not_eq_true] at hkept
          by_cases hrust : isRustFile path = true
          · simp only [if_pos hrust, OrderedSet.mem_keys_add, hkept, hreach, true_and]
            constructor
            · rintro (rfl | hmem)
              · exact Or.inr ⟨hrust, content, modified, rfl, rfl, rfl⟩
              · exact Or.inl hmem
            · rintro (hmem | ⟨-, -, -, rfl, -⟩)
              · exact Or.inr hmem
              · exact Or.inl rfl
          · simp only [if_neg hrust, hreach]
            refine ⟨Or.inl, ?_⟩
            rintro (hmem | ⟨-, hrust', -, -, rfl, -⟩)
            · exact hmem
            · exact absurd hrust' hrust
  | symlink absolute link =>
      have hreach : ∀ content modified,
          ¬ Reaches filter.enters filter.admits path (.symlink absolute link) target
            (.file content modified) := by
        intro content modified h
        cases h
      simp [discoverNode, hreach]
  | special =>
      have hreach : ∀ content modified,
          ¬ Reaches filter.enters filter.admits path .special target (.file content modified) := by
        intro content modified h
        cases h
      simp [discoverNode, hreach]
  | directory entries ih =>
      rw [discoverNode]
      split
      · next hignored => simp [hignored]
      · next hkept =>
          simp only [Bool.not_eq_true] at hkept
          simp only [hkept, Reaches.directory_file_iff, true_and]
          by_cases henters : filter.enters path = true
          · rw [if_pos henters, mem_discoverEntries fun entry hentry files => ih entry hentry]
            unfold WalkFilter.Finds
            refine or_congr_right ⟨?_, ?_⟩
            · rintro ⟨name, child, hmem, hadmits, hrust, content, modified, hrest⟩
              refine ⟨hrust, content, modified, henters, name, child, hmem, ?_, hrest⟩
              simpa [WalkFilter.admits] using hadmits
            · rintro ⟨hrust, content, modified, -, name, child, hmem, hadmits, hrest⟩
              refine ⟨name, child, hmem, ?_, hrust, content, modified, hrest⟩
              simpa [WalkFilter.admits] using hadmits
          · simp [henters]

/-- The files discovered from a list of roots. -/
theorem mem_discoverRustPackageFiles {fs : FileSystem} {paths : List Path} {target : Path} :
    target ∈ discoverRustPackageFiles filter fs paths ↔
      isRustFile target = true ∧ ∃ path ∈ paths, ∃ node, fs.lstat path = some node ∧
        ∃ content modified,
          Reaches filter.enters filter.admits path node target (.file content modified) := by
  have hfold : ∀ files : OrderedSet Path,
      target ∈ (paths.foldl (fun files path =>
          discoverPathWithPackageBoundary filter fs path false files) files).keys ↔
        target ∈ files.keys ∨ ∃ path ∈ paths, ∃ node, fs.lstat path = some node ∧
          filter.Finds path false node target := by
    induction paths with
    | nil => simp
    | cons head rest ih =>
        intro files
        rw [List.foldl_cons, ih, discoverPathWithPackageBoundary]
        cases hnode : fs.lstat head with
        | none => simp [hnode]
        | some node => simp [hnode, mem_discoverNode, or_assoc]
  rw [discoverRustPackageFiles, hfold ∅]
  simp only [OrderedMap.keys_empty, List.not_mem_nil, false_or, WalkFilter.Finds,
    Bool.false_and, true_and]
  constructor
  · rintro ⟨path, hpath, node, hnode, hrust, hreach⟩
    exact ⟨hrust, path, hpath, node, hnode, hreach⟩
  · rintro ⟨hrust, path, hpath, node, hnode, hreach⟩
    exact ⟨path, hpath, node, hnode, hrust, hreach⟩

end PackageFiles

end AspRust.Discovery
