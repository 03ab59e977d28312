import AspRust.Foundation.Path
import Mathlib.Data.List.Nodup

/-!
# A file system as a tree

`Node` is what one directory entry can be: a regular file with its content and
modification time, a directory with its entries in listing order, a symbolic
link, or something else.  `FileSystem` is a tree rooted at `/` whose directories
list each name once (`Node.wellFormed`), so that a name under a directory means
one thing.

Two ways to look at a path are kept apart, as an operating system does.
`lstat` does not follow a link in the last component and `stat` does; both
follow links before it, and give up after `maxSymlinks` of them.

Code that walks a tree asks the file system about one path after another.  A
model of such code recurses on the nodes instead, and `lstat_concat` is what
makes the two the same: below a directory, the answer for a child's path is the
child.

### Design notes

Physical locations are lists of names from the root without links, and paths are what is looked
up.  A lookup keeps the location it has come to, so a link is read from where it stands and `..`
goes to the parent of the location and not of the text.  Permissions are not modelled: what is
there can be read.
-/

namespace AspRust.Foundation

/-- What a directory entry can be. -/
inductive Node where
  /-- A regular file: its bytes and its modification time, in nanoseconds since
  the epoch. -/
  | file (content : List UInt8) (modified : Int)
  /-- A directory: its entries in the order in which it lists them. -/
  | directory (entries : List (String × Node))
  /-- A symbolic link to a path, absolute or relative to its own directory. -/
  | symlink (absolute : Bool) (target : Path)
  /-- A socket, a device or a pipe. -/
  | special

namespace Node

/-- Structural induction over a tree: a property of every child gives the
property of the directory. -/
theorem inductionOn {motive : Node → Prop} (node : Node)
    (file : ∀ content modified, motive (.file content modified))
    (directory : ∀ entries, (∀ entry ∈ entries, motive entry.2) →
      motive (.directory entries))
    (symlink : ∀ absolute target, motive (.symlink absolute target))
    (special : motive .special) : motive node := by
  refine @Node.rec motive (fun entries => ∀ entry ∈ entries, motive entry.2)
    (fun entry => motive entry.2) file directory symlink special ?_ ?_ ?_ node
  · intro entry hentry
    simp at hentry
  · intro head tail hhead htail entry hentry
    rcases List.mem_cons.mp hentry with rfl | hmem
    · exact hhead
    · exact htail entry hmem
  · intro _ _ hnode
    exact hnode

/-- A name an operating system lets an entry have. -/
def validName (name : String) : Bool :=
  name ≠ "" && name ≠ "." && name ≠ ".." && !name.toList.contains '/'

mutual

/-- Every directory of the tree lists each name once, and only valid names. -/
def wellFormed : Node → Bool
  | .directory entries =>
      decide (entries.map Prod.fst).Nodup && wellFormedEntries entries
  | _ => true

/-- Names are valid and the nodes below are well formed. -/
def wellFormedEntries : List (String × Node) → Bool
  | [] => true
  | (name, node) :: rest =>
      validName name && wellFormed node && wellFormedEntries rest

end

theorem wellFormedEntries_iff {entries : List (String × Node)} :
    wellFormedEntries entries = true ↔
      ∀ entry ∈ entries, validName entry.1 = true ∧ entry.2.wellFormed = true := by
  induction entries with
  | nil => simp [wellFormedEntries]
  | cons head rest ih =>
      obtain ⟨name, node⟩ := head
      simp [wellFormedEntries, ih, and_assoc]

theorem wellFormed_directory_iff {entries : List (String × Node)} :
    (Node.directory entries).wellFormed = true ↔
      (entries.map Prod.fst).Nodup ∧
        ∀ entry ∈ entries, validName entry.1 = true ∧ entry.2.wellFormed = true := by
  simp only [wellFormed, Bool.and_eq_true, decide_eq_true_eq, wellFormedEntries_iff]

/-- The entry a node has under a name. -/
def child? (name : String) : Node → Option Node
  | .directory entries =>
      (entries.find? fun entry => entry.1 = name).map Prod.snd
  | _ => none

/-- In a well-formed directory the entry of a name is the child of that name. -/
theorem child?_eq_some_of_mem {entries : List (String × Node)}
    (hnodup : (entries.map Prod.fst).Nodup) {name : String} {node : Node}
    (hmem : (name, node) ∈ entries) :
    (Node.directory entries).child? name = some node := by
  induction entries with
  | nil => simp at hmem
  | cons head rest ih =>
      obtain ⟨hfresh, hrest⟩ := List.nodup_cons.mp (by simpa using hnodup :
        (head.1 :: rest.map Prod.fst).Nodup)
      rcases List.mem_cons.mp hmem with rfl | hmem
      · simp [child?]
      · have hne : head.1 ≠ name := by
          rintro rfl
          exact hfresh (List.mem_map.mpr ⟨(head.1, node), hmem, rfl⟩)
        have htail := ih hrest hmem
        simpa [child?, List.find?_cons_of_neg, hne] using htail

theorem child?_wellFormed {node child : Node} {name : String}
    (hwf : node.wellFormed = true) (hchild : node.child? name = some child) :
    child.wellFormed = true := by
  cases node with
  | directory entries =>
      obtain ⟨entry, hfind, rfl⟩ := Option.map_eq_some_iff.mp hchild
      exact ((wellFormed_directory_iff.mp hwf).2 entry (List.mem_of_find?_eq_some hfind)).2
  | _ => simp [child?] at hchild

/-- The node below a node along a list of names, following no link. -/
def descend? : Node → List String → Option Node
  | node, [] => some node
  | node, name :: rest => (node.child? name).bind fun child => child.descend? rest

theorem descend?_append (node : Node) (names more : List String) :
    node.descend? (names ++ more) = (node.descend? names).bind (·.descend? more) := by
  induction names generalizing node with
  | nil => rfl
  | cons name rest ih =>
      simp only [List.cons_append, descend?, Option.bind_assoc]
      cases node.child? name with
      | none => rfl
      | some child => simp [ih child]

theorem descend?_wellFormed {node below : Node} {names : List String}
    (hwf : node.wellFormed = true) (hbelow : node.descend? names = some below) :
    below.wellFormed = true := by
  induction names generalizing node with
  | nil => exact Option.some.inj hbelow ▸ hwf
  | cons name rest ih =>
      obtain ⟨child, hchild, hrest⟩ := Option.bind_eq_some_iff.mp hbelow
      exact ih (child?_wellFormed hwf hchild) hrest

mutual

/-- The contents and modification times of the files of a tree. -/
def files : Node → List (List UInt8 × Int)
  | .file content modified => [(content, modified)]
  | .directory entries => filesOfEntries entries
  | _ => []

/-- The files below a list of entries. -/
def filesOfEntries : List (String × Node) → List (List UInt8 × Int)
  | [] => []
  | (_, node) :: rest => files node ++ filesOfEntries rest

end

theorem mem_filesOfEntries {entries : List (String × Node)} {entry : String × Node}
    (hentry : entry ∈ entries) {file : List UInt8 × Int} (hfile : file ∈ entry.2.files) :
    file ∈ filesOfEntries entries := by
  induction entries with
  | nil => simp at hentry
  | cons head rest ih =>
      rw [filesOfEntries, List.mem_append]
      rcases List.mem_cons.mp hentry with rfl | hrest
      · exact Or.inl hfile
      · exact Or.inr (ih hrest)

/-- A file found below a node is a file of its tree. -/
theorem mem_files_of_descend? {node : Node} {names : List String} {content : List UInt8}
    {modified : Int} (h : node.descend? names = some (.file content modified)) :
    (content, modified) ∈ node.files := by
  induction names generalizing node with
  | nil =>
      obtain rfl := Option.some.inj h
      exact List.mem_singleton_self _
  | cons name rest ih =>
      obtain ⟨child, hchild, hrest⟩ := Option.bind_eq_some_iff.mp h
      cases node with
      | directory entries =>
          obtain ⟨entry, hfind, rfl⟩ := Option.map_eq_some_iff.mp hchild
          exact mem_filesOfEntries (List.mem_of_find?_eq_some hfind) (ih hrest)
      | _ => simp [child?] at hchild

end Node

/-- A file system: a tree below `/` in which a name means one thing. -/
structure FileSystem where
  /-- The node at `/`. -/
  root : Node
  /-- Each directory lists each name once. -/
  wellFormed : root.wellFormed = true

/-- Links followed in one lookup before it fails, as on Linux. -/
def maxSymlinks : ℕ := 40

/-- One lookup from a physical directory, with `onLink` for what
happens at a link: the physical location of the path. -/
def resolveWith (root : Node) (followLast : Bool)
    (onLink : List String → Path → Option (List String)) :
    List String → Path → Option (List String)
  | location, [] => some location
  | location, .parent :: rest =>
      resolveWith root followLast onLink location.dropLast rest
  | location, .normal name :: rest =>
      match root.descend? (location ++ [name]) with
      | none => none
      | some (.symlink absolute target) =>
          if rest = [] ∧ followLast = false then some (location ++ [name])
          else onLink (if absolute then [] else location) (target ++ rest)
      | some (.directory _) =>
          resolveWith root followLast onLink (location ++ [name]) rest
      -- nothing lies below a file: the lookup succeeds only at the end
      | some _ => if rest = [] then some (location ++ [name]) else none

/-- A lookup that follows at most `fuel` links. -/
def resolve (root : Node) (followLast : Bool) :
    ℕ → List String → Path → Option (List String)
  | 0 => fun _ _ => none
  | fuel + 1 => resolveWith root followLast (resolve root followLast fuel)

namespace FileSystem

/-- The physical location of a path, links followed. -/
def canonicalLocation? (fs : FileSystem) (path : Path) : Option (List String) :=
  resolve fs.root true (maxSymlinks + 1) [] path

/-- The node at a path, a link in the last component not followed. -/
def lstat (fs : FileSystem) (path : Path) : Option Node :=
  (resolve fs.root false (maxSymlinks + 1) [] path).bind fs.root.descend?

/-- The node at a path, links followed. -/
def stat (fs : FileSystem) (path : Path) : Option Node :=
  (fs.canonicalLocation? path).bind fs.root.descend?

/-- The path without links that a path leads to. -/
def canonicalize (fs : FileSystem) (path : Path) : Option Path :=
  (fs.canonicalLocation? path).bind fun location =>
    (fs.root.descend? location).map fun _ => location.map .normal

/-- Something is at the path, links followed. -/
def pathExists (fs : FileSystem) (path : Path) : Bool := (fs.stat path).isSome

/-- The path leads to a regular file. -/
def isFile (fs : FileSystem) (path : Path) : Bool :=
  match fs.stat path with
  | some (.file _ _) => true
  | _ => false

/-- The path leads to a directory. -/
def isDir (fs : FileSystem) (path : Path) : Bool :=
  match fs.stat path with
  | some (.directory _) => true
  | _ => false

/-- The path itself is a symbolic link. -/
def isSymlinkPath (fs : FileSystem) (path : Path) : Bool :=
  match fs.lstat path with
  | some (.symlink _ _) => true
  | _ => false

/-- The entries of the directory a path leads to, in listing order. -/
def readDir (fs : FileSystem) (path : Path) : Option (List (String × Node)) :=
  match fs.stat path with
  | some (.directory entries) => some entries
  | _ => none

/-- The bytes of the file a path leads to. -/
def read (fs : FileSystem) (path : Path) : Option (List UInt8) :=
  match fs.stat path with
  | some (.file content _) => some content
  | _ => none

end FileSystem

/-- A node that a lookup takes as it is: links are taken so only where the
lookup does not follow them. -/
def Node.takenAsIs (followLast : Bool) : Node → Bool
  | .symlink _ _ => !followLast
  | _ => true

/-- A lookup that ends at a directory, continued by the name of one of its
entries, ends at that entry. -/
theorem resolve_concat (root : Node) {name : String} {fuel : ℕ}
    {start location : List String} {path : Path} {entries : List (String × Node)}
    {node : Node} (followLast : Bool)
    (hpath : resolve root true fuel start path = some location)
    (hdir : root.descend? location = some (.directory entries))
    (hnode : root.descend? (location ++ [name]) = some node)
    (htaken : node.takenAsIs followLast = true) :
    resolve root followLast fuel start (path ++ [.normal name]) =
      some (location ++ [name]) := by
  induction fuel generalizing start path with
  | zero => simp [resolve] at hpath
  | succ fuel ihFuel =>
      simp only [resolve] at hpath ⊢
      induction path generalizing start with
      | nil =>
          simp only [resolveWith, Option.some.injEq] at hpath
          subst hpath
          rw [List.nil_append, resolveWith, hnode]
          cases node <;> simp_all [resolveWith, Node.takenAsIs]
      | cons component rest ih =>
          cases component with
          | parent => exact ih hpath
          | normal step =>
              rw [List.cons_append, resolveWith]
              rw [resolveWith] at hpath
              cases hstep : root.descend? (start ++ [step]) with
              | none => simp [hstep] at hpath
              | some below =>
                  rw [hstep] at hpath
                  cases below with
                  | directory _ => exact ih hpath
                  | symlink absolute target =>
                      -- the link is followed in both lookups: it is not last
                      have hfollow : resolve root true fuel
                          (if absolute then [] else start) (target ++ rest) = some location := by
                        simpa using hpath
                      have hcontinue := ihFuel hfollow
                      simpa using hcontinue
                  | file content modified =>
                      dsimp only at hpath
                      split at hpath
                      · rw [Option.some.inj hpath, hdir] at hstep
                        simp at hstep
                      · simp at hpath
                  | special =>
                      dsimp only at hpath
                      split at hpath
                      · rw [Option.some.inj hpath, hdir] at hstep
                        simp at hstep
                      · simp at hpath

/-- Where a lookup that does not follow a last link ends at no link, the lookup
that follows links ends at the same place. -/
theorem resolve_follow (root : Node) {fuel : ℕ} {start location : List String}
    {path : Path} {node : Node}
    (hpath : resolve root false fuel start path = some location)
    (hnode : root.descend? location = some node)
    (hnolink : node.takenAsIs true = true) :
    resolve root true fuel start path = some location := by
  induction fuel generalizing start path with
  | zero => simp [resolve] at hpath
  | succ fuel ihFuel =>
      simp only [resolve] at hpath ⊢
      induction path generalizing start with
      | nil => exact hpath
      | cons component rest ih =>
          cases component with
          | parent => exact ih hpath
          | normal step =>
              rw [resolveWith] at hpath ⊢
              cases hstep : root.descend? (start ++ [step]) with
              | none => simp [hstep] at hpath
              | some below =>
                  rw [hstep] at hpath
                  cases below with
                  | directory _ => exact ih hpath
                  | symlink absolute target =>
                      by_cases hlast : rest = []
                      · -- a last link is where the first lookup ends: excluded
                        subst hlast
                        rw [← Option.some.inj (by simpa using hpath :
                          some (start ++ [step]) = some location), hstep] at hnode
                        rw [← Option.some.inj hnode] at hnolink
                        simp [Node.takenAsIs] at hnolink
                      · have hfollow : resolve root false fuel
                            (if absolute then [] else start) (target ++ rest) =
                              some location := by
                          simpa [hlast] using hpath
                        simpa [hlast] using ihFuel hfollow
                  | file content modified => exact hpath
                  | special => exact hpath

/-- Where a lookup that follows links succeeds, the lookup that does not ends at
the same place or at a link. -/
theorem resolve_nofollow (root : Node) {fuel : ℕ} {start location : List String}
    {path : Path} (hpath : resolve root true fuel start path = some location) :
    resolve root false fuel start path = some location ∨
      ∃ link absolute target, resolve root false fuel start path = some link ∧
        root.descend? link = some (.symlink absolute target) := by
  induction fuel generalizing start path with
  | zero => simp [resolve] at hpath
  | succ fuel ihFuel =>
      simp only [resolve] at hpath ⊢
      induction path generalizing start with
      | nil => exact Or.inl hpath
      | cons component rest ih =>
          cases component with
          | parent => exact ih hpath
          | normal step =>
              rw [resolveWith] at hpath ⊢
              cases hstep : root.descend? (start ++ [step]) with
              | none => simp [hstep] at hpath
              | some below =>
                  rw [hstep] at hpath
                  cases below with
                  | directory _ => exact ih hpath
                  | symlink absolute target =>
                      by_cases hlast : rest = []
                      · exact Or.inr ⟨_, absolute, target, by simp [hlast], hstep⟩
                      · have hfollow : resolve root true fuel
                            (if absolute then [] else start) (target ++ rest) =
                              some location := by
                          simpa [hlast] using hpath
                        simpa [hlast] using ihFuel hfollow
                  | file content modified => exact Or.inl hpath
                  | special => exact Or.inl hpath

namespace FileSystem

variable {fs : FileSystem} {path : Path}

/-- What is at a path without being a link is what the path leads to. -/
theorem stat_of_lstat {node : Node} (h : fs.lstat path = some node)
    (hnolink : node.takenAsIs true = true) : fs.stat path = some node := by
  obtain ⟨location, hlocation, hnode⟩ := Option.bind_eq_some_iff.mp h
  rw [stat, canonicalLocation?, resolve_follow fs.root hlocation hnode hnolink]
  exact hnode

/-- What a path leads to is at the path, or a link is. -/
theorem lstat_of_stat {node : Node} (h : fs.stat path = some node) :
    fs.lstat path = some node ∨ fs.isSymlinkPath path = true := by
  obtain ⟨location, hlocation, hnode⟩ := Option.bind_eq_some_iff.mp h
  rcases resolve_nofollow fs.root hlocation with hsame | ⟨link, absolute, target, hlink, hat⟩
  · exact Or.inl (by rw [lstat, hsame]; exact hnode)
  · have hlstat : fs.lstat path = some (.symlink absolute target) := by
      rw [lstat, hlink]
      exact hat
    exact Or.inr (by simp [isSymlinkPath, hlstat])

theorem stat_wellFormed {node : Node} (h : fs.stat path = some node) :
    node.wellFormed = true := by
  obtain ⟨location, -, hnode⟩ := Option.bind_eq_some_iff.mp h
  exact Node.descend?_wellFormed fs.wellFormed hnode

theorem lstat_wellFormed {node : Node} (h : fs.lstat path = some node) :
    node.wellFormed = true := by
  obtain ⟨location, -, hnode⟩ := Option.bind_eq_some_iff.mp h
  exact Node.descend?_wellFormed fs.wellFormed hnode

/-- Below a directory, the node at a child's path is the child. -/
theorem lstat_concat {entries : List (String × Node)} {name : String} {node : Node}
    (hdir : fs.stat path = some (.directory entries)) (hmem : (name, node) ∈ entries) :
    fs.lstat (path ++ [.normal name]) = some node := by
  obtain ⟨location, hlocation, hat⟩ := Option.bind_eq_some_iff.mp hdir
  have hnodup := (Node.wellFormed_directory_iff.mp (stat_wellFormed hdir)).1
  have hnode : fs.root.descend? (location ++ [name]) = some node := by
    rw [Node.descend?_append, hat]
    simp [Node.descend?, Node.child?_eq_some_of_mem hnodup hmem]
  have hresolve := resolve_concat fs.root false hlocation hat hnode
    (by cases node <;> rfl)
  rw [lstat, hresolve]
  exact hnode

end FileSystem

end AspRust.Foundation
