import AspRust.Foundation.FileTree

/-!
# What a lookup passes

A lookup of a path that goes on passes the directory the first part leads to
(`resolve_through`): if anything is at `path / name / …`, then `path` leads to a
directory with an entry `name`.  So code that asks for a deep path and code that goes
down one directory at a time see the same tree.

### Use

The lemmas are read from the left: from the fact that something is at a deep path to the
directories on the way.  `pathExists_below_file` is the other direction that code relies on:
below a file there is nothing.
-/

namespace AspRust.Foundation

namespace Node

/-- Only a directory has something below it. -/
theorem descend?_concat_eq_some_iff {node below : Node} {names : List String}
    {name : String} :
    node.descend? (names ++ [name]) = some below ↔
      ∃ entries, node.descend? names = some (.directory entries) ∧
        (Node.directory entries).child? name = some below := by
  rw [descend?_append]
  constructor
  · intro h
    obtain ⟨at', hat, hchild⟩ := Option.bind_eq_some_iff.mp h
    have hbelow : at'.child? name = some below := by simpa [descend?] using hchild
    cases at' with
    | directory entries => exact ⟨entries, hat, hbelow⟩
    | _ => simp [child?] at hbelow
  · rintro ⟨entries, hat, hchild⟩
    rw [hat]
    simpa [descend?] using hchild

/-- What has something below it is no link. -/
theorem takenAsIs_of_descend? {node found : Node} {names : List String}
    (h : node.descend? names = some found) (hfound : found.takenAsIs true = true) :
    node.takenAsIs true = true := by
  cases names with
  | nil => exact Option.some.inj h ▸ hfound
  | cons name rest =>
      obtain ⟨child, hchild, -⟩ := Option.bind_eq_some_iff.mp h
      cases node with
      | directory entries => rfl
      | _ => simp [child?] at hchild

end Node

/-- A lookup that goes on after a name has passed a directory with that name. -/
theorem resolve_through (root : Node) {followLast : Bool} {name : String} {fuel : ℕ}
    {start location : List String} {path rest : Path}
    (h : resolve root followLast fuel start (path ++ .normal name :: rest) = some location) :
    ∃ directory entries below, resolve root true fuel start path = some directory ∧
      root.descend? directory = some (.directory entries) ∧
      root.descend? (directory ++ [name]) = some below := by
  induction fuel generalizing start path with
  | zero => simp [resolve] at h
  | succ fuel ihFuel =>
      simp only [resolve] at h ⊢
      induction path generalizing start with
      | nil =>
          rw [List.nil_append, resolveWith] at h
          cases hstep : root.descend? (start ++ [name]) with
          | none => simp [hstep] at h
          | some below =>
              obtain ⟨entries, hat, -⟩ := Node.descend?_concat_eq_some_iff.mp hstep
              exact ⟨start, entries, below, rfl, hat, hstep⟩
      | cons component before ih =>
          cases component with
          | parent => exact ih h
          | normal step =>
              rw [List.cons_append, resolveWith] at h
              rw [resolveWith]
              cases hstep : root.descend? (start ++ [step]) with
              | none => simp [hstep] at h
              | some below =>
                  rw [hstep] at h
                  cases below with
                  | directory _ => exact ih h
                  | symlink absolute target =>
                      -- the link is not last in either lookup, so both follow it
                      have hfollow : resolve root followLast fuel
                          (if absolute then [] else start)
                          ((target ++ before) ++ .normal name :: rest) = some location := by
                        simpa using h
                      simpa using ihFuel hfollow
                  | file content modified => simp at h
                  | special => simp at h

namespace FileSystem

variable {fs : FileSystem}

/-- The location of what is at a path without being a link. -/
theorem location_of_lstat {path : Path} {node : Node} (h : fs.lstat path = some node)
    (hnolink : node.takenAsIs true = true) :
    ∃ location, fs.canonicalLocation? path = some location ∧
      fs.root.descend? location = some node := by
  obtain ⟨location, hlocation, hnode⟩ := Option.bind_eq_some_iff.mp h
  exact ⟨location, resolve_follow fs.root hlocation hnode hnolink, hnode⟩

/-- What a path that is no link leads to is at the path. -/
theorem lstat_of_location {path : Path} {location : List String} {node : Node}
    (hlink : fs.isSymlinkPath path = false)
    (hlocation : fs.canonicalLocation? path = some location)
    (hnode : fs.root.descend? location = some node) : fs.lstat path = some node := by
  have hstat : fs.stat path = some node := by
    rw [stat, hlocation]
    exact hnode
  rcases lstat_of_stat hstat with hlstat | htrue
  · exact hlstat
  · rw [hlink] at htrue
    cases htrue

/-- Down a tree that passes no link, a lookup is at the place the names say. -/
theorem canonicalLocation?_append {path : Path} {location names : List String}
    {node found : Node} (hpath : fs.canonicalLocation? path = some location)
    (hnode : fs.root.descend? location = some node) (hfound : node.descend? names = some found)
    (hnolink : found.takenAsIs true = true) :
    fs.canonicalLocation? (path ++ names.map .normal) = some (location ++ names) := by
  induction names generalizing path location node with
  | nil => simpa using hpath
  | cons name rest ih =>
      obtain ⟨child, hchild, hbelow⟩ := Option.bind_eq_some_iff.mp hfound
      have hat : fs.root.descend? (location ++ [name]) = some child := by
        rw [Node.descend?_append, hnode]
        simpa [Node.descend?] using hchild
      obtain ⟨entries, hdirectory, -⟩ := Node.descend?_concat_eq_some_iff.mp hat
      have hstep : fs.canonicalLocation? (path ++ [.normal name]) = some (location ++ [name]) :=
        resolve_concat fs.root true hpath hdirectory hat
          (Node.takenAsIs_of_descend? hbelow hnolink)
      simpa using ih hstep hat hbelow

/-- If anything is below a path, the path leads to a directory. -/
theorem location_of_pathExists {path rest : Path} {name : String}
    (h : fs.pathExists (path ++ .normal name :: rest) = true) :
    ∃ location entries, fs.canonicalLocation? path = some location ∧
      fs.root.descend? location = some (.directory entries) := by
  obtain ⟨found, hfound⟩ := Option.isSome_iff_exists.mp h
  obtain ⟨location, hlocation, -⟩ := Option.bind_eq_some_iff.mp hfound
  obtain ⟨directory, entries, below, hpath, hat, -⟩ := resolve_through fs.root hlocation
  exact ⟨directory, entries, hpath, hat⟩

/-- If anything is below a path, the path leads to a directory with an entry of
that name. -/
theorem readDir_of_pathExists {path rest : Path} {name : String}
    (h : fs.pathExists (path ++ .normal name :: rest) = true) :
    ∃ entries node, fs.readDir path = some entries ∧ (name, node) ∈ entries := by
  obtain ⟨found, hfound⟩ := Option.isSome_iff_exists.mp h
  obtain ⟨location, hlocation, -⟩ := Option.bind_eq_some_iff.mp hfound
  obtain ⟨directory, entries, below, hpath, hat, hbelow⟩ :=
    resolve_through fs.root hlocation
  have hstat : fs.stat path = some (.directory entries) := by
    rw [stat, canonicalLocation?, hpath]
    exact hat
  obtain ⟨entries', hat', hchild⟩ := Node.descend?_concat_eq_some_iff.mp hbelow
  obtain rfl : entries = entries' := by
    rw [hat] at hat'
    exact Node.directory.inj (Option.some.inj hat')
  obtain ⟨entry, hfind, hnode⟩ := Option.map_eq_some_iff.mp hchild
  have hname : entry.1 = name := by simpa using List.find?_some hfind
  refine ⟨entries, entry.2, by simp [readDir, hstat], ?_⟩
  rw [← hname]
  exact List.mem_of_find?_eq_some hfind

/-- What is below a directory is below one of its entries. -/
theorem mem_names_of_pathExists {path rest : Path} {name : String}
    {entries : Option (List (String × Node))} (hentries : fs.readDir path = entries)
    (h : fs.pathExists (path ++ .normal name :: rest) = true) :
    name ∈ (entries.getD []).map Prod.fst := by
  obtain ⟨found, node, hfound, hmem⟩ := readDir_of_pathExists h
  rw [← hentries, hfound]
  exact List.mem_map.mpr ⟨(name, node), hmem, rfl⟩

theorem pathExists_of_isFile {path : Path} (h : fs.isFile path = true) :
    fs.pathExists path = true := by
  unfold isFile at h
  unfold pathExists
  cases hstat : fs.stat path with
  | none => simp [hstat] at h
  | some node => rfl

/-- A directory is no file. -/
theorem isFile_eq_false_of_readDir {path : Path} {entries : List (String × Node)}
    (h : fs.readDir path = some entries) : fs.isFile path = false := by
  unfold readDir at h
  unfold isFile
  cases hstat : fs.stat path with
  | none => rfl
  | some node =>
      rw [hstat] at h
      cases node <;> simp_all

/-- Nothing is below a file. -/
theorem pathExists_below_file {path rest : Path} {name : String} (h : fs.isFile path = true) :
    fs.pathExists (path ++ .normal name :: rest) = false := by
  by_contra hexists
  obtain ⟨entries, node, hentries, -⟩ := readDir_of_pathExists (Bool.not_eq_false _ ▸ hexists)
  rw [isFile_eq_false_of_readDir hentries] at h
  cases h

end FileSystem

end AspRust.Foundation
