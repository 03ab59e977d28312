import AspRust.Discovery.ManifestWalk
import AspRust.Foundation.Worklist
import Mathlib.Data.Finset.Prod

/-!
# The closure of path dependencies

Discovery adds the packages that path dependencies name, and theirs in turn.  The
loop is `Worklist.closeFrom` on the dependency roots that discovery accepts, so what it
finds is what is reachable over them, provided it does not run out of fuel.

It does not: an accepted root is a normalized path with a manifest below it, its names
are names of entries of the tree, and there are at most `pathDepth` of them.
`pathFuel` is above the number of such paths (`accepted_mem_bounded`).

### Why the loop ends

A manifest can name any path, and a normalized path can be as long as the text that names
it.  What bounds the loop is the acceptance test: below an accepted root a manifest is found,
so the path can be looked up, and a lookup passes no more directories than the links it may
follow allow (`ManifestWalk`).  The paths that pass the test are lists of entry names of one
tree of bounded length, and there are finitely many of them.
-/

namespace AspRust.Discovery

open AspRust.Foundation

/-! ## Lists of bounded length

The lists over a finite alphabet that are no longer than a bound are finitely many, and
here is how many at most. -/

section BoundedLists

variable {α : Type*} [DecidableEq α]

/-- The lists over an alphabet of at most a given length. -/
def boundedLists (alphabet : Finset α) : ℕ → Finset (List α)
  | 0 => {[]}
  | length + 1 =>
      insert [] ((alphabet ×ˢ boundedLists alphabet length).image fun pair => pair.1 :: pair.2)

theorem mem_boundedLists {alphabet : Finset α} {length : ℕ} {list : List α}
    (hlength : list.length ≤ length) (hletters : ∀ letter ∈ list, letter ∈ alphabet) :
    list ∈ boundedLists alphabet length := by
  induction length generalizing list with
  | zero =>
      obtain rfl := List.eq_nil_of_length_eq_zero (Nat.le_zero.mp hlength)
      exact Finset.mem_singleton_self _
  | succ length ih =>
      cases list with
      | nil => exact Finset.mem_insert_self _ _
      | cons head rest =>
          refine Finset.mem_insert_of_mem (Finset.mem_image.mpr ⟨(head, rest), ?_, rfl⟩)
          refine Finset.mem_product.mpr ⟨hletters head List.mem_cons_self, ?_⟩
          exact ih (Nat.le_of_succ_le_succ hlength)
            fun letter hletter => hletters letter (List.mem_cons_of_mem _ hletter)

theorem card_boundedLists_le (alphabet : Finset α) (length : ℕ) :
    (boundedLists alphabet length).card ≤ (alphabet.card + 1) ^ length := by
  induction length with
  | zero => simp [boundedLists]
  | succ length ih =>
      have hone : 1 ≤ (alphabet.card + 1) ^ length := Nat.one_le_pow _ _ (Nat.succ_pos _)
      calc (boundedLists alphabet (length + 1)).card
          ≤ ((alphabet ×ˢ boundedLists alphabet length).image
              fun pair => pair.1 :: pair.2).card + 1 := Finset.card_insert_le _ _
        _ ≤ (alphabet ×ˢ boundedLists alphabet length).card + 1 :=
            Nat.add_le_add_right Finset.card_image_le _
        _ = alphabet.card * (boundedLists alphabet length).card + 1 := by
            rw [Finset.card_product]
        _ ≤ alphabet.card * (alphabet.card + 1) ^ length + (alphabet.card + 1) ^ length :=
            Nat.add_le_add (Nat.mul_le_mul_left _ ih) hone
        _ = (alphabet.card + 1) ^ (length + 1) := by rw [pow_succ', Nat.succ_mul]

end BoundedLists

/-! ## The names of a tree

A path that leads to something consists of names of entries of the tree. -/

mutual

/-- The names of the entries of a tree. -/
def entryNames : Node → List String
  | .directory entries => entryNamesOf entries
  | _ => []

/-- The names of a list of entries, and those below them. -/
def entryNamesOf : List (String × Node) → List String
  | [] => []
  | (name, node) :: rest => name :: (entryNames node ++ entryNamesOf rest)

end

theorem mem_entryNamesOf {entries : List (String × Node)} {entry : String × Node}
    (h : entry ∈ entries) :
    entry.1 ∈ entryNamesOf entries ∧ ∀ name ∈ entryNames entry.2, name ∈ entryNamesOf entries := by
  induction entries with
  | nil => simp at h
  | cons head rest ih =>
      rw [entryNamesOf]
      rcases List.mem_cons.mp h with rfl | h
      · exact ⟨List.mem_cons_self, fun name hname =>
          List.mem_cons_of_mem _ (List.mem_append_left _ hname)⟩
      · obtain ⟨hown, hbelow⟩ := ih h
        exact ⟨List.mem_cons_of_mem _ (List.mem_append_right _ hown), fun name hname =>
          List.mem_cons_of_mem _ (List.mem_append_right _ (hbelow name hname))⟩

theorem mem_entryNames_of_descend? {node below : Node} {names : List String} {name : String}
    (h : node.descend? (names ++ [name]) = some below) : name ∈ entryNames node := by
  induction names generalizing node with
  | nil =>
      obtain ⟨child, hchild, -⟩ := Option.bind_eq_some_iff.mp h
      cases node with
      | directory entries =>
          obtain ⟨entry, hfind, -⟩ := Option.map_eq_some_iff.mp hchild
          have hname : entry.1 = name := by simpa using List.find?_some hfind
          exact hname ▸ (mem_entryNamesOf (List.mem_of_find?_eq_some hfind)).1
      | _ => simp [Node.child?] at hchild
  | cons first rest ih =>
      obtain ⟨child, hchild, hrest⟩ := Option.bind_eq_some_iff.mp h
      cases node with
      | directory entries =>
          obtain ⟨entry, hfind, rfl⟩ := Option.map_eq_some_iff.mp hchild
          exact (mem_entryNamesOf (List.mem_of_find?_eq_some hfind)).2 name (ih hrest)
      | _ => simp [Node.child?] at hchild

theorem length_entryNamesOf_le {entries : List (String × Node)}
    (h : ∀ entry ∈ entries, (entryNames entry.2).length + 1 ≤ nodeCount entry.2) :
    (entryNamesOf entries).length ≤ entryCount entries := by
  induction entries with
  | nil => simp [entryNamesOf]
  | cons head rest ih =>
      have hhead := h head List.mem_cons_self
      have hrest := ih fun entry hentry => h entry (List.mem_cons_of_mem _ hentry)
      simp only [entryNamesOf, entryCount, List.length_cons, List.length_append]
      omega

/-- Every node but the root has a name. -/
theorem length_entryNames_lt (node : Node) : (entryNames node).length + 1 ≤ nodeCount node := by
  induction node using Node.inductionOn with
  | file content modified => simp [entryNames, nodeCount]
  | directory entries ih =>
      have hbelow := length_entryNamesOf_le ih
      simp only [entryNames, nodeCount]
      omega
  | symlink absolute target => simp [entryNames, nodeCount]
  | special => simp [entryNames, nodeCount]

/-- The names of a path that leads somewhere are names of the tree. -/
theorem mem_entryNames_of_pathExists {fs : FileSystem} {path : Path} {name : String}
    (h : fs.pathExists path = true) (hname : .normal name ∈ path) :
    name ∈ entryNames fs.root := by
  obtain ⟨before, after, rfl⟩ := List.append_of_mem hname
  obtain ⟨found, hfound⟩ := Option.isSome_iff_exists.mp h
  obtain ⟨location, hlocation, -⟩ := Option.bind_eq_some_iff.mp hfound
  obtain ⟨directory, entries, below, -, -, hbelow⟩ := resolve_through fs.root hlocation
  exact mem_entryNames_of_descend? hbelow

/-! ## Normalized paths

A normalized path is a list of names, after one step to the parent at most.  So an
accepted root, being normalized and leading to a manifest, is one of the bounded lists. -/

theorem normalizeLexicalPath_concat_normal (path : Path) (name : String) :
    normalizeLexicalPath (path ++ [.normal name]) =
      normalizeLexicalPath path ++ [.normal name] := by
  simp [normalizeLexicalPath]

theorem normalizeLexicalPath_concat_parent (path : Path) :
    normalizeLexicalPath (path ++ [.parent]) =
      if normalizeLexicalPath path = [] then [.parent]
      else (normalizeLexicalPath path).dropLast := by
  rw [normalizeLexicalPath, List.foldl_append]
  rfl

/-- A normalized path is a list of names, after one `..` at most. -/
theorem exists_names_of_normalizeLexicalPath (path : Path) :
    ∃ names : List String, normalizeLexicalPath path = names.map .normal ∨
      normalizeLexicalPath path = .parent :: names.map .normal := by
  induction path using List.reverseRecOn with
  | nil => exact ⟨[], Or.inl rfl⟩
  | append_singleton before component ih =>
      obtain ⟨names, hnames⟩ := ih
      cases component with
      | normal name =>
          refine ⟨names ++ [name], ?_⟩
          rw [normalizeLexicalPath_concat_normal]
          rcases hnames with hnames | hnames <;> simp [hnames]
      | parent =>
          rw [normalizeLexicalPath_concat_parent]
          split
          · exact ⟨[], Or.inr rfl⟩
          · rcases hnames with hnames | hnames
            · exact ⟨names.dropLast, Or.inl (by rw [hnames, List.map_dropLast])⟩
            · cases names with
              | nil => exact ⟨[], Or.inl (by rw [hnames]; rfl)⟩
              | cons first rest =>
                  refine ⟨(first :: rest).dropLast, Or.inr ?_⟩
                  rw [hnames, List.map_dropLast, List.dropLast_cons_of_ne_nil (by simp)]

/-- Names stay as they are. -/
theorem normalizeLexicalPath_map_normal (names : List String) :
    normalizeLexicalPath (names.map .normal) = names.map .normal := by
  induction names using List.reverseRecOn with
  | nil => rfl
  | append_singleton before name ih =>
      rw [List.map_append, List.map_singleton, normalizeLexicalPath_concat_normal, ih]

theorem normalizeLexicalPath_idem (path : Path) :
    normalizeLexicalPath (normalizeLexicalPath path) = normalizeLexicalPath path := by
  have hparent : ∀ names : List String,
      normalizeLexicalPath (.parent :: names.map .normal) = .parent :: names.map .normal := by
    intro names
    induction names using List.reverseRecOn with
    | nil => rfl
    | append_singleton before name ih =>
        rw [List.map_append, List.map_singleton, ← List.cons_append,
          normalizeLexicalPath_concat_normal, ih]
  obtain ⟨names, h | h⟩ := exists_names_of_normalizeLexicalPath path
  · rw [h, normalizeLexicalPath_map_normal]
  · rw [h, hparent]

/-- A manifest of a directory. -/
theorem join_cargoToml (root : Path) :
    Path.join root "Cargo.toml" = root ++ [.normal "Cargo.toml"] := by
  have hparse : Path.parse "Cargo.toml" = [.normal "Cargo.toml"] := by decide
  have habsolute : Path.isAbsolute "Cargo.toml" = false := by decide
  rw [Path.join, habsolute, hparse]
  rfl

/-- A normalized path with a manifest is one of finitely many. -/
theorem normalized_mem_bounded {fs : FileSystem} {path : Path}
    (h : fs.isFile (Path.join (normalizeLexicalPath path) "Cargo.toml") = true) :
    normalizeLexicalPath path ∈ boundedLists
      (insert .parent ((entryNames fs.root).toFinset.image .normal)) (pathDepth fs + 1) := by
  rw [join_cargoToml] at h
  have hexists := FileSystem.pathExists_of_isFile h
  refine mem_boundedLists ?_ fun component hcomponent => ?_
  · obtain ⟨names, hnames⟩ := exists_names_of_normalizeLexicalPath path
    -- a file at the end of the names shows that the tree is that deep
    have hlength : (names ++ ["Cargo.toml"]).length ≤ pathDepth fs := by
      rcases hnames with hnames | hnames
      · have hbelow : fs.pathExists ([] ++ (names ++ ["Cargo.toml"]).map .normal) = true := by
          simpa [hnames] using hexists
        exact length_le_pathDepth hbelow
      · have hbelow :
            fs.pathExists ([.parent] ++ (names ++ ["Cargo.toml"]).map .normal) = true := by
          simpa [hnames] using hexists
        exact length_le_pathDepth hbelow
    rw [List.length_append, List.length_singleton] at hlength
    rcases hnames with hnames | hnames
    · rw [hnames, List.length_map]
      omega
    · rw [hnames, List.length_cons, List.length_map]
      omega
  · cases component with
    | parent => exact Finset.mem_insert_self _ _
    | normal name =>
        refine Finset.mem_insert_of_mem (Finset.mem_image_of_mem _ (List.mem_toFinset.mpr ?_))
        exact mem_entryNames_of_pathExists hexists (List.mem_append_left _ hcomponent)

theorem card_bounded_le_pathFuel (fs : FileSystem) :
    (boundedLists (insert Component.parent ((entryNames fs.root).toFinset.image
      Component.normal)) (pathDepth fs + 1)).card ≤ pathFuel fs := by
  have hnames : ((entryNames fs.root).toFinset.image Component.normal).card ≤
      nodeCount fs.root :=
    Finset.card_image_le.trans ((List.toFinset_card_le _).trans
      (Nat.le_of_succ_le (length_entryNames_lt fs.root)))
  have halphabet := (Finset.card_insert_le Component.parent
    ((entryNames fs.root).toFinset.image Component.normal)).trans (Nat.succ_le_succ hnames)
  unfold pathFuel
  -- the exponent holds the link limit, which must not be unfolded into a numeral
  generalize pathDepth fs = depth
  refine (card_boundedLists_le _ _).trans ?_
  exact (Nat.pow_le_pow_left (Nat.succ_le_succ halphabet) _).trans
    (Nat.pow_le_pow_right (Nat.succ_pos _) (Nat.le_succ _))

/-! ## The closure

The loop of discovery is a worklist whose successors are the accepted path
dependencies.  With the bound on accepted roots it never runs out, and its result is the
closure. -/

section Closure

variable (fromPath : ManifestReader) (fs : FileSystem) (excludes : List Path)

/-- A dependency root that discovery takes. -/
def acceptsDependencyRoot (root : Path) : Bool :=
  !isExcludedMember root excludes && fs.isFile (Path.join root "Cargo.toml")

/-- The dependency roots of a package that discovery takes. -/
def acceptedDependencyRoots (packageRoot : Path) : List Path :=
  ((parseCargoManifest fromPath fs packageRoot).pathDependencyRoots.map
    normalizeLexicalPath).filter (acceptsDependencyRoot fs excludes)

theorem accepted_mem_bounded {packageRoot root : Path}
    (h : root ∈ acceptedDependencyRoots fromPath fs excludes packageRoot) :
    root ∈ boundedLists (insert .parent ((entryNames fs.root).toFinset.image .normal))
      (pathDepth fs + 1) := by
  obtain ⟨hroot, haccepted⟩ := List.mem_filter.mp h
  obtain ⟨path, -, rfl⟩ := List.mem_map.mp hroot
  exact normalized_mem_bounded (Bool.and_eq_true_iff.mp haccepted).2

theorem insertDependenciesOf_eq (dependencies : List Path) (roots : OrderedSet Path)
    (pending : List Path) :
    insertDependenciesOf fs excludes dependencies roots pending =
      Worklist.insertNew ((dependencies.map normalizeLexicalPath).filter
        (acceptsDependencyRoot fs excludes)) (roots, pending) := by
  unfold insertDependenciesOf
  induction dependencies generalizing roots pending with
  | nil => rfl
  | cons head rest ih =>
      rw [List.foldl_cons, List.map_cons, ih]
      by_cases haccepted : acceptsDependencyRoot fs excludes (normalizeLexicalPath head) = true
      · rw [List.filter_cons_of_pos haccepted, Worklist.insertNew_cons]
        have hrejected : (isExcludedMember (normalizeLexicalPath head) excludes ||
            !fs.isFile (Path.join (normalizeLexicalPath head) "Cargo.toml")) = false := by
          simpa [acceptsDependencyRoot] using haccepted
        simp [insertExplicitPathDependencyRoot, hrejected]
      · rw [List.filter_cons_of_neg haccepted]
        have hrejected : (isExcludedMember (normalizeLexicalPath head) excludes ||
            !fs.isFile (Path.join (normalizeLexicalPath head) "Cargo.toml")) = true := by
          simpa [acceptsDependencyRoot, or_iff_not_imp_left] using haccepted
        simp [insertExplicitPathDependencyRoot, hrejected]

theorem insertPathDependencyRootsFrom_eq (fuel : ℕ) (pending : List Path)
    (visited roots : OrderedSet Path) :
    insertPathDependencyRootsFrom fromPath fs excludes fuel pending visited roots =
      Worklist.closeFrom (acceptedDependencyRoots fromPath fs excludes) fuel pending visited
        roots := by
  induction fuel generalizing pending visited roots with
  | zero => simp [insertPathDependencyRootsFrom, Worklist.closeFrom]
  | succ fuel ih =>
      cases pending with
      | nil => rfl
      | cons packageRoot rest =>
          rw [insertPathDependencyRootsFrom, Worklist.closeFrom, ih]
          split
          · rfl
          · simp only [insertDependenciesOf_eq, ih]
            rfl

/-- **Discovery finds the closure of the accepted path dependencies.** -/
theorem mem_insertPathDependencyRoots {roots : OrderedSet Path} {root : Path} :
    root ∈ (insertPathDependencyRoots fromPath fs excludes roots).keys ↔
      Worklist.Reachable (acceptedDependencyRoots fromPath fs excludes) roots root := by
  rw [insertPathDependencyRoots, insertPathDependencyRootsFrom_eq]
  refine Worklist.mem_close_iff (fun packageRoot successor => accepted_mem_bounded fromPath fs
    excludes) ?_
  exact Nat.add_le_add_left (card_bounded_le_pathFuel fs) _

/-! ## The loop to its end

The same loop one turn after another and without fuel, as the source runs it.  What a
turn adds to the stack are roots that are new, so it comes to an end. -/

/-- One turn of the loop: the top of the stack is looked at unless it was before, and the
loop is over when the stack is empty. -/
def dependencyTurn (state : Worklist.State Path) : Option (Worklist.State Path) :=
  match state.pending with
  | [] => none
  | packageRoot :: pending =>
      some (if packageRoot ∈ state.visited.keys then { state with pending := pending }
        else
          let manifest := parseCargoManifest fromPath fs packageRoot
          let next := insertDependenciesOf fs excludes manifest.pathDependencyRoots state.found
            pending
          ⟨next.2, state.visited.add packageRoot, next.1⟩)

theorem dependencyTurn_eq :
    dependencyTurn fromPath fs excludes =
      Worklist.turn (acceptedDependencyRoots fromPath fs excludes) := by
  funext state
  unfold dependencyTurn Worklist.turn
  cases state.pending with
  | nil => rfl
  | cons packageRoot pending =>
      by_cases hvisited : packageRoot ∈ state.visited.keys
      · simp only [if_pos hvisited]
      · simp only [if_neg hvisited, insertDependenciesOf_eq, acceptedDependencyRoots]

/-- A set holds the roots and, with each member, every normalized path dependency of it
that has a manifest and is not excluded. -/
def DependencyClosed (roots : OrderedSet Path) (members : Set Path) : Prop :=
  (∀ root ∈ roots.keys, root ∈ members) ∧
    ∀ member ∈ members,
      ∀ dependency ∈ (parseCargoManifest fromPath fs member).pathDependencyRoots,
        fs.isFile (Path.join (normalizeLexicalPath dependency) "Cargo.toml") = true →
          isExcludedMember (normalizeLexicalPath dependency) excludes = false →
            normalizeLexicalPath dependency ∈ members

theorem dependencyClosed_iff {roots : OrderedSet Path} {members : Set Path} :
    DependencyClosed fromPath fs excludes roots members ↔
      (∀ root ∈ roots.keys, root ∈ members) ∧ ∀ member ∈ members,
        ∀ dependency ∈ acceptedDependencyRoots fromPath fs excludes member,
          dependency ∈ members := by
  refine and_congr_right fun _ => forall₂_congr fun member _ => ?_
  constructor
  · intro h dependency hdependency
    obtain ⟨hmap, haccepted⟩ := List.mem_filter.mp hdependency
    obtain ⟨written, hwritten, rfl⟩ := List.mem_map.mp hmap
    obtain ⟨hexcluded, hfile⟩ := Bool.and_eq_true_iff.mp haccepted
    exact h written hwritten hfile (by simpa using hexcluded)
  · intro h written hwritten hfile hexcluded
    refine h _ (List.mem_filter.mpr ⟨List.mem_map_of_mem hwritten, ?_⟩)
    simp [acceptsDependencyRoot, hfile, hexcluded]

/-- **The loop ends with the least closed set.**  From any roots it comes to a state with
nothing left to look at, the roots found are those of `insertPathDependencyRoots`, and they
are the least set that holds the given roots and is closed under path dependencies. -/
theorem insertPathDependencyRoots_least (roots : OrderedSet Path) :
    ∃ final, Worklist.EndsIn (dependencyTurn fromPath fs excludes)
        ⟨roots.keys.reverse, ∅, roots⟩ final ∧
      final.found = insertPathDependencyRoots fromPath fs excludes roots ∧
      IsLeast {members : Set Path | DependencyClosed fromPath fs excludes roots members}
        {root | root ∈ final.found.keys} := by
  have hfuel := Nat.add_le_add_left (card_bounded_le_pathFuel fs) roots.keys.length
  obtain ⟨final, hends, hfound⟩ := Worklist.close_endsIn
    (fun packageRoot successor => accepted_mem_bounded fromPath fs excludes) hfuel
  have hresult : final.found = insertPathDependencyRoots fromPath fs excludes roots := by
    rw [hfound, insertPathDependencyRoots, insertPathDependencyRootsFrom_eq]
  refine ⟨final, dependencyTurn_eq fromPath fs excludes ▸ hends, hresult, ?_⟩
  -- the least closed set is the set of what is reachable
  have hset : {root | root ∈ final.found.keys} =
      {root | Worklist.Reachable (acceptedDependencyRoots fromPath fs excludes) roots root} := by
    ext root
    show root ∈ final.found.keys ↔ _
    rw [hresult]
    exact mem_insertPathDependencyRoots fromPath fs excludes
  rw [hset]
  simp only [dependencyClosed_iff]
  exact Worklist.isLeast_setOf_reachable _ roots

end Closure

end AspRust.Discovery
