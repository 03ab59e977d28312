import AspRust.Discovery.PackageRoots
import AspRust.Foundation.Lookup

/-!
# What the walk for manifests finds

The walk for member manifests follows links, so it is bounded by the lookups it makes
and not by the tree.  Between two followed links a lookup only goes down, and it goes
down no further than the tree is deep: `length_le_pathDepth` bounds the names any
lookup passes.  The walk with that much fuel finds every manifest below its start
whose names it does not ignore (`mem_discoverCargoManifests`).
-/

namespace AspRust.Discovery

open AspRust.Foundation

/-! ## Lookups pass few names

A lookup may follow links, and after a link it starts again somewhere else in the tree.
So names are counted from the last link on: from there the lookup goes down, and no way
down has more names than the tree has nodes.  Names before that link are names of the
path itself. -/

theorem nodeCount_pos (node : Node) : 0 < nodeCount node := by
  cases node <;> simp [nodeCount]

theorem nodeCount_le_entryCount {entries : List (String × Node)} {entry : String × Node}
    (h : entry ∈ entries) : nodeCount entry.2 ≤ entryCount entries := by
  induction entries with
  | nil => simp at h
  | cons head rest ih =>
      rw [entryCount]
      rcases List.mem_cons.mp h with rfl | h
      · exact Nat.le_add_right _ _
      · exact (ih h).trans (Nat.le_add_left _ _)

/-- What lies below a node is smaller by the names on the way. -/
theorem nodeCount_descend? {node below : Node} {names : List String}
    (h : node.descend? names = some below) : names.length + nodeCount below ≤ nodeCount node := by
  induction names generalizing node with
  | nil =>
      obtain rfl := Option.some.inj h
      simp
  | cons name rest ih =>
      obtain ⟨child, hchild, hrest⟩ := Option.bind_eq_some_iff.mp h
      cases node with
      | directory entries =>
          obtain ⟨entry, hfind, rfl⟩ := Option.map_eq_some_iff.mp hchild
          have hentry := nodeCount_le_entryCount (List.mem_of_find?_eq_some hfind)
          have hbelow := ih hrest
          simp only [List.length_cons, nodeCount]
          omega
      | _ => simp [Node.child?] at hchild

/-- Going down by names from a place in the tree: before the first link the place only
gets deeper, and after it the next lookup counts. -/
theorem length_le_of_resolveWith {root : Node} {followLast : Bool}
    {onLink : List String → Path → Option (List String)} {bound : ℕ}
    (hlink : ∀ (start : List String) (path : Path) (names found : List String),
      onLink start (path ++ names.map .normal) = some found → names.length ≤ bound)
    {start found : List String} {names : List String}
    (h : resolveWith root followLast onLink start (names.map .normal) = some found) :
    names.length ≤ bound + (nodeCount root - start.length) := by
  induction names generalizing start with
  | nil => simp
  | cons name rest ih =>
      rw [List.map_cons, resolveWith] at h
      cases hstep : root.descend? (start ++ [name]) with
      | none => simp [hstep] at h
      | some below =>
          rw [hstep] at h
          have hdeep := nodeCount_descend? hstep
          have hbelow := nodeCount_pos below
          rw [List.length_append, List.length_singleton] at hdeep
          cases below with
          | directory _ =>
              have hrest := ih h
              rw [List.length_append, List.length_singleton] at hrest
              rw [List.length_cons]
              omega
          | symlink absolute target =>
              dsimp only at h
              split at h
              · next hlast =>
                  have hnil : rest = [] := by simpa using hlast.1
                  rw [hnil, List.length_singleton]
                  omega
              · have hrest := hlink _ target rest found h
                rw [List.length_cons]
                omega
          | file content modified =>
              have hnil : rest = [] ∧ start ++ [name] = found := by simpa using h
              rw [hnil.1, List.length_singleton]
              omega
          | special =>
              have hnil : rest = [] ∧ start ++ [name] = found := by simpa using h
              rw [hnil.1, List.length_singleton]
              omega

/-- The names at the end of a path that a lookup resolves. -/
theorem length_le_of_resolve (root : Node) {followLast : Bool} {fuel : ℕ}
    {start found : List String} {path : Path} {names : List String}
    (h : resolve root followLast fuel start (path ++ names.map .normal) = some found) :
    names.length ≤ fuel * (nodeCount root + 1) := by
  induction fuel generalizing start path found names with
  | zero => simp [resolve] at h
  | succ fuel ihFuel =>
      simp only [resolve] at h
      induction path generalizing start with
      | nil =>
          have hdown := length_le_of_resolveWith
            (fun start path names found hfound => ihFuel hfound) h
          rw [Nat.succ_mul]
          omega
      | cons component before ih =>
          cases component with
          | parent => exact ih h
          | normal step =>
              rw [List.cons_append, resolveWith] at h
              cases hstep : root.descend? (start ++ [step]) with
              | none => simp [hstep] at h
              | some below =>
                  rw [hstep] at h
                  have hone : 1 ≤ nodeCount root + 1 := Nat.le_add_left _ _
                  have hmore : fuel * (nodeCount root + 1) ≤
                      (fuel + 1) * (nodeCount root + 1) := Nat.mul_le_mul_right _ (Nat.le_succ _)
                  cases below with
                  | directory _ => exact ih h
                  | symlink absolute target =>
                      dsimp only at h
                      split at h
                      · next hlast =>
                          have hnil : names = [] := by
                            simpa using (List.append_eq_nil_iff.mp hlast.1).2
                          simp [hnil]
                      · rw [← List.append_assoc] at h
                        exact (ihFuel h).trans hmore
                  | file content modified =>
                      have hnil : (before = [] ∧ names = []) ∧ start ++ [step] = found := by simpa using h
                      simp [hnil.1.2]
                  | special =>
                      have hnil : (before = [] ∧ names = []) ∧ start ++ [step] = found := by simpa using h
                      simp [hnil.1.2]

/-- Names that lead anywhere are no more than `pathDepth`. -/
theorem length_le_pathDepth {fs : FileSystem} {path : Path} {names : List String}
    (h : fs.pathExists (path ++ names.map .normal) = true) : names.length ≤ pathDepth fs := by
  obtain ⟨found, hfound⟩ := Option.isSome_iff_exists.mp h
  obtain ⟨location, hlocation, -⟩ := Option.bind_eq_some_iff.mp hfound
  exact length_le_of_resolve fs.root hlocation

/-! ## The walk

The walk asks for the entries of a path, and a path that leads somewhere has a bounded
number of names.  With fuel for that many it never runs out on a directory that is
there. -/

section Walk

variable {fs : FileSystem} {ignored hidden : OrderedSet String}

/-- A manifest below a path, no name on the way ignored. -/
def ManifestBelow (fs : FileSystem) (ignored hidden : OrderedSet String) (path : Path)
    (names : List String) (manifest : Path) : Prop :=
  manifest = path ++ names.map .normal ∧ manifest.fileName? = some "Cargo.toml" ∧
    fs.isFile manifest = true ∧
    ∀ name ∈ names, shouldIgnoreDirName ignored hidden name = false

/-- What is below a name is below an entry of that name. -/
theorem manifestBelow_cons_iff {path manifest : Path} {name : String} {rest : List String} :
    ManifestBelow fs ignored hidden path (name :: rest) manifest ↔
      shouldIgnoreDirName ignored hidden name = false ∧
        ManifestBelow fs ignored hidden (path ++ [.normal name]) rest manifest := by
  simp only [ManifestBelow, List.map_cons, List.forall_mem_cons, List.append_assoc,
    List.singleton_append]
  tauto

/-- A walk with fuel finds the manifests that are fewer names away. -/
theorem mem_discoverCargoManifests_fuel {fuel : ℕ} {path manifest : Path}
    {ignoreCurrent : Bool} {manifests : OrderedSet Path} :
    manifest ∈ (discoverCargoManifests fs ignored hidden fuel path ignoreCurrent
        manifests).keys ↔
      manifest ∈ manifests.keys ∨
        (ignoreCurrent && shouldIgnore ignored hidden path) = false ∧
          ∃ names, names.length < fuel ∧
            ManifestBelow fs ignored hidden path names manifest := by
  induction fuel generalizing path manifest ignoreCurrent manifests with
  | zero => simp [discoverCargoManifests]
  | succ fuel ih =>
      rw [discoverCargoManifests]
      split
      · next hignored => simp [hignored]
      · next hignored =>
          rw [Bool.not_eq_true] at hignored
          simp only [hignored, true_and]
          split
          · next hfile =>
              -- nothing lies below a file
              have hhere : ∀ names, ManifestBelow fs ignored hidden path names manifest →
                  names = [] := by
                rintro (_ | ⟨name, rest⟩) ⟨rfl, -, hbelow, -⟩
                · rfl
                · have hexists := FileSystem.pathExists_of_isFile hbelow
                  rw [List.map_cons, FileSystem.pathExists_below_file hfile] at hexists
                  cases hexists
              have hnames : (∃ names, names.length < fuel + 1 ∧
                  ManifestBelow fs ignored hidden path names manifest) ↔
                  manifest = path ∧ path.fileName? = some "Cargo.toml" := by
                constructor
                · rintro ⟨names, -, hbelow⟩
                  obtain rfl := hhere names hbelow
                  obtain ⟨rfl, hname, -⟩ := hbelow
                  rw [List.map_nil, List.append_nil] at hname ⊢
                  exact ⟨rfl, hname⟩
                · rintro ⟨rfl, hname⟩
                  exact ⟨[], Nat.succ_pos _, by simp [ManifestBelow, hname, hfile]⟩
              rw [hnames]
              split
              · next hname => simp [hname, or_comm]
              · next hname => simp [hname]
          · next hfile =>
              have hbelow : ∀ names, ManifestBelow fs ignored hidden path names manifest →
                  ∃ name rest, names = name :: rest ∧ ∃ entries node,
                    fs.readDir path = some entries ∧ (name, node) ∈ entries := by
                rintro (_ | ⟨name, rest⟩) ⟨rfl, -, hbelow, -⟩
                · simp [hfile] at hbelow
                · exact ⟨name, rest, rfl, FileSystem.readDir_of_pathExists
                    (FileSystem.pathExists_of_isFile hbelow)⟩
              cases hentries : fs.readDir path with
              | none =>
                  refine (or_iff_left ?_).symm
                  rintro ⟨names, -, hmanifest⟩
                  obtain ⟨_, _, -, entries, _, hsome, -⟩ := hbelow names hmanifest
                  rw [hentries] at hsome
                  cases hsome
              | some entries =>
                  dsimp only
                  rw [OrderedSet.mem_foldl_iff fun s (entry : String × Node) k =>
                    @ih (path ++ [.normal entry.1]) k true s]
                  simp only [Bool.true_and, shouldIgnore_concat]
                  refine or_congr_right ⟨?_, ?_⟩
                  · rintro ⟨entry, -, hname, names, hlength, hmanifest⟩
                    exact ⟨entry.1 :: names, Nat.succ_lt_succ hlength,
                      manifestBelow_cons_iff.mpr ⟨hname, hmanifest⟩⟩
                  · rintro ⟨names, hlength, hmanifest⟩
                    obtain ⟨name, rest, rfl, entries', node, hsome, hmem⟩ :=
                      hbelow names hmanifest
                    obtain rfl : entries = entries' := by
                      rw [hentries] at hsome
                      exact Option.some.inj hsome
                    obtain ⟨hname, hrest⟩ := manifestBelow_cons_iff.mp hmanifest
                    exact ⟨(name, node), hmem, hname, rest, Nat.lt_of_succ_lt_succ hlength, hrest⟩

/-- **The walk finds every manifest below its start**, as far down as lookups go. -/
theorem mem_discoverCargoManifests {path manifest : Path} :
    manifest ∈ (discoverCargoManifests fs ignored hidden (pathDepth fs + 1) path false ∅).keys ↔
      ∃ names, ManifestBelow fs ignored hidden path names manifest := by
  rw [mem_discoverCargoManifests_fuel]
  simp only [OrderedMap.keys_empty, List.not_mem_nil, false_or, Bool.false_and, true_and]
  refine exists_congr fun names => and_iff_right_of_imp ?_
  rintro ⟨rfl, -, hfile, -⟩
  exact Nat.lt_succ_of_le (length_le_pathDepth (FileSystem.pathExists_of_isFile hfile))

end Walk

end AspRust.Discovery
