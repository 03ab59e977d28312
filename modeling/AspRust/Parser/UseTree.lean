import AspRust.Foundation.TreePosition
import AspRust.Parser.ImportResolution

/-!
# Flattening a use tree

A `use` declaration is a tree whose leaves are names, renames and globs.  The parser walks
it with one stack of path segments: it pushes the segment of a path before it goes down and
pops it when it comes back, and it writes one import for each leaf.

`collectUseTreeImportsInto_eq` says that a walk leaves the stack as it was and appends the
imports of the tree below the stack.  `exists_leafPositions` says which imports these are:
one for each leaf, in the order of the text, with the segments on the way down to it.

### What is load-bearing

The stack is shared by the whole walk, so a walk has to be described with the stack it starts
with.  That it leaves the stack as it was is proved together with what it appends, by one
induction over the tree.
-/

namespace AspRust.Parser

open AspRust.Foundation

/-! ## The walk

The walk as the source has it, with its stack, and what it appends.  Groups are walked
from the first tree to the last with the same stack. -/

/-- The stack of segments and the imports that have been written. -/
structure UseTreeWalk where
  leading : List String
  imports : List RustUseImportSyntax
deriving DecidableEq, Repr

def UseTreeWalk.push (walk : UseTreeWalk) (segment : String) : UseTreeWalk :=
  { walk with leading := walk.leading ++ [segment] }

def UseTreeWalk.pop (walk : UseTreeWalk) : UseTreeWalk :=
  { walk with leading := walk.leading.dropLast }

def UseTreeWalk.write (walk : UseTreeWalk) (imported : RustUseImportSyntax) : UseTreeWalk :=
  { walk with imports := walk.imports ++ [imported] }

def pushNamedImport (walk : UseTreeWalk) (ident exposedName : String) (isAbsolute : Bool) :
    UseTreeWalk :=
  walk.write (importSyntax (walk.leading ++ [ident]) (some exposedName) isAbsolute false)

mutual

/-- Walk through a tree. -/
def collectUseTreeImportsInto (isAbsolute : Bool) : UseTree → UseTreeWalk → UseTreeWalk
  | .path ident tree, walk =>
      (collectUseTreeImportsInto isAbsolute tree (walk.push ident)).pop
  | .group items, walk => collectUseTreesImportsInto isAbsolute items walk
  | .name ident, walk => pushNamedImport walk ident ident isAbsolute
  | .rename ident exposed, walk => pushNamedImport walk ident exposed isAbsolute
  | .glob, walk => walk.write (importSyntax walk.leading none isAbsolute true)

/-- Walk through the trees of a group. -/
def collectUseTreesImportsInto (isAbsolute : Bool) : List UseTree → UseTreeWalk → UseTreeWalk
  | [], walk => walk
  | tree :: rest, walk =>
      collectUseTreesImportsInto isAbsolute rest (collectUseTreeImportsInto isAbsolute tree walk)

end

mutual

/-- A walk through a tree leaves the stack as it was, and appends the imports of the tree
below the stack. -/
theorem collectUseTreeImportsInto_eq (isAbsolute : Bool) (walk : UseTreeWalk) :
    ∀ tree : UseTree, collectUseTreeImportsInto isAbsolute tree walk =
      { leading := walk.leading
        imports := walk.imports ++ collectUseTreeImports isAbsolute walk.leading tree }
  | .path ident tree => by
      rw [collectUseTreeImportsInto, collectUseTreeImportsInto_eq isAbsolute _ tree,
        collectUseTreeImports]
      simp [UseTreeWalk.pop, UseTreeWalk.push]
  | .group items => by
      rw [collectUseTreeImportsInto, collectUseTreesImportsInto_eq isAbsolute walk items,
        collectUseTreeImports]
  | .name ident => by
      rw [collectUseTreeImportsInto, collectUseTreeImports]
      rfl
  | .rename ident exposed => by
      rw [collectUseTreeImportsInto, collectUseTreeImports]
      rfl
  | .glob => by
      rw [collectUseTreeImportsInto, collectUseTreeImports]
      rfl

theorem collectUseTreesImportsInto_eq (isAbsolute : Bool) (walk : UseTreeWalk) :
    ∀ items : List UseTree, collectUseTreesImportsInto isAbsolute items walk =
      { leading := walk.leading
        imports := walk.imports ++ collectUseTreesImports isAbsolute walk.leading items }
  | [] => by
      rw [collectUseTreesImportsInto, collectUseTreesImports, List.append_nil]
  | tree :: rest => by
      rw [collectUseTreesImportsInto, collectUseTreeImportsInto_eq isAbsolute walk tree,
        collectUseTreesImportsInto_eq isAbsolute _ rest, collectUseTreesImports,
        List.append_assoc]

end

/-! ## The leaves of a tree

A leaf is given by its position in the tree, and the segments on the way down are those
of the paths above it.  The positions are listed in the order of the text. -/

namespace UseTree

def children : UseTree → List UseTree
  | .path _ tree => [tree]
  | .group items => items
  | .name _ | .rename _ _ | .glob => []

/-- Names, renames and globs. -/
def IsLeaf : UseTree → Prop
  | .path _ _ | .group _ => False
  | .name _ | .rename _ _ | .glob => True

/-- The segment a node puts before everything below it. -/
def segments : UseTree → List String
  | .path ident _ => [ident]
  | .group _ | .name _ | .rename _ _ | .glob => []

/-- The segments on the way down to a position. -/
def segmentsTo : UseTree → List ℕ → List String
  | _, [] => []
  | tree, index :: rest =>
      tree.segments ++
        match tree.children[index]? with
        | none => []
        | some child => child.segmentsTo rest

/-- What a leaf imports behind some segments. -/
def leafImport? (isAbsolute : Bool) (leading : List String) :
    UseTree → Option RustUseImportSyntax
  | .name ident => some (importSyntax (leading ++ [ident]) (some ident) isAbsolute false)
  | .rename ident exposed =>
      some (importSyntax (leading ++ [ident]) (some exposed) isAbsolute false)
  | .glob => some (importSyntax leading none isAbsolute true)
  | .path _ _ | .group _ => none

/-- The import of the leaf at a position. -/
def ImportAt (isAbsolute : Bool) (leading : List String) (tree : UseTree) (position : List ℕ)
    (imported : RustUseImportSyntax) : Prop :=
  ∃ leaf, TreePosition.node? children tree position = some leaf ∧
    leaf.leafImport? isAbsolute (leading ++ tree.segmentsTo position) = some imported

variable {isAbsolute : Bool} {leading : List String} {tree child : UseTree}

/-- The import of a leaf of a child is an import of the tree, behind the segment of the
tree. -/
theorem ImportAt.of_child {index : ℕ} {position : List ℕ} {imported : RustUseImportSyntax}
    (hchild : tree.children[index]? = some child)
    (h : ImportAt isAbsolute (leading ++ tree.segments) child position imported) :
    ImportAt isAbsolute leading tree (index :: position) imported := by
  obtain ⟨leaf, hleaf, himport⟩ := h
  refine ⟨leaf, TreePosition.node?_cons_eq_some_iff.mpr ⟨child, hchild, hleaf⟩, ?_⟩
  rw [segmentsTo, hchild, ← List.append_assoc]
  exact himport

end UseTree

section Leaves

open UseTree

/-- A leaf is its own only import. -/
theorem exists_leafPositions_of_leaf {isAbsolute : Bool} {leading : List String} {leaf : UseTree}
    {imported : RustUseImportSyntax} (hchildren : leaf.children = []) (hleaf : leaf.IsLeaf)
    (himported : leaf.leafImport? isAbsolute leading = some imported) :
    ∃ positions, TreePosition.Lists children IsLeaf leaf positions ∧
      List.Forall₂ (ImportAt isAbsolute leading leaf) positions [imported] := by
  refine ⟨[[]], TreePosition.Lists.leaf hchildren hleaf, List.Forall₂.cons ?_ .nil⟩
  refine ⟨leaf, rfl, ?_⟩
  rw [segmentsTo, List.append_nil]
  exact himported

mutual

/-- **The imports of a tree are its leaves**, in the order of the text, each with all segments
on the way down to it. -/
theorem exists_leafPositions (isAbsolute : Bool) (leading : List String) :
    ∀ tree : UseTree, ∃ positions, TreePosition.Lists children IsLeaf tree positions ∧
      List.Forall₂ (ImportAt isAbsolute leading tree) positions
        (collectUseTreeImports isAbsolute leading tree)
  | .path ident tree => by
      obtain ⟨positions, hlists, himports⟩ :=
        exists_leafPositions isAbsolute (leading ++ [ident]) tree
      refine ⟨_, .node id (.cons hlists .nil), ?_⟩
      rw [collectUseTreeImports, TreePosition.below, TreePosition.below, List.append_nil,
        List.forall₂_map_left_iff]
      exact himports.imp fun position imported himport => .of_child rfl himport
  | .group items => by
      obtain ⟨listings, hlists, himports⟩ :=
        exists_leafPositions_group isAbsolute leading items
      refine ⟨_, .node id hlists, ?_⟩
      rw [collectUseTreeImports]
      refine himports 0 (.group items) rfl fun index => ?_
      rw [Nat.zero_add]
      rfl
  | .name ident => by
      rw [collectUseTreeImports]
      exact exists_leafPositions_of_leaf rfl trivial rfl
  | .rename ident exposed => by
      rw [collectUseTreeImports]
      exact exists_leafPositions_of_leaf rfl trivial rfl
  | .glob => by
      rw [collectUseTreeImports]
      exact exists_leafPositions_of_leaf rfl trivial rfl

/-- The imports of trees that are children of one node from some number on. -/
theorem exists_leafPositions_group (isAbsolute : Bool) (leading : List String) :
    ∀ items : List UseTree, ∃ listings,
      List.Forall₂ (TreePosition.Lists children IsLeaf) items listings ∧
        ∀ (start : ℕ) (parent : UseTree), parent.segments = [] →
          (∀ index, parent.children[start + index]? = items[index]?) →
          List.Forall₂ (ImportAt isAbsolute leading parent) (TreePosition.below start listings)
            (collectUseTreesImports isAbsolute leading items)
  | [] => by
      refine ⟨[], .nil, fun start parent _ _ => ?_⟩
      rw [collectUseTreesImports]
      exact .nil
  | tree :: rest => by
      obtain ⟨positions, hlists, himports⟩ := exists_leafPositions isAbsolute leading tree
      obtain ⟨listings, hrestLists, hrestImports⟩ :=
        exists_leafPositions_group isAbsolute leading rest
      refine ⟨positions :: listings, .cons hlists hrestLists, ?_⟩
      intro start parent hsegments hchildren
      rw [collectUseTreesImports, TreePosition.below]
      refine List.rel_append ?_ ?_
      · rw [List.forall₂_map_left_iff]
        refine himports.imp fun position imported himport => .of_child (hchildren 0) ?_
        rw [hsegments, List.append_nil]
        exact himport
      · refine hrestImports (start + 1) parent hsegments fun index => ?_
        rw [Nat.add_assoc, Nat.add_comm 1, hchildren (index + 1), List.getElem?_cons_succ]

end

end Leaves

/-! ## Use statements

The facts about one statement that rules ask for: whether it imports a glob, climbs
above its parent, or re-exports, and in which scope. -/

/-- The visibility of an item as it is written. -/
inductive Visibility where
  | inherited
  | visible
  | restricted (path : List String)
deriving DecidableEq, Repr

inductive RustUseVisibilityKind where
  | priv
  | pub
  | crate
  | super
  | selfScope
  | restricted (segments : List String)
  | unknown
deriving DecidableEq, Repr

inductive RustUseGlobScopeKind where
  | absolute
  | crateOwner
  | selfScope
  | parentScope
  | external
  | unknown
deriving DecidableEq, Repr

structure RustUseStatementContext where
  enclosingModules : List String
  isTopLevel : Bool
  isInsideInlineModule : Bool
  isInsideCfgTestModule : Bool
deriving DecidableEq, Repr

structure RustUseGlobImportSyntax where
  prefixSegments : List String
  isAbsolute : Bool
  scopeKind : RustUseGlobScopeKind
  isDirectParentScopeGlob : Bool
  isParentRelativeGlob : Bool
  isPreludeGlob : Bool
deriving DecidableEq, Repr

structure RustUseDeepRelativeImportSyntax where
  line : ℕ
  prefixSegments : List String
  parentHops : ℕ
  visibility : RustUseVisibilityKind
  isReexport : Bool
deriving DecidableEq, Repr

structure RustUseReexportSyntax where
  line : ℕ
  sourceSegments : List String
  exposedName : String
  visibility : RustUseVisibilityKind
deriving DecidableEq, Repr

structure RustUseStatementSyntax where
  line : ℕ
  visibility : RustUseVisibilityKind
  context : RustUseStatementContext
  imports : List RustUseImportSyntax
  reexports : List RustUseReexportSyntax
  deepRelativeImports : List RustUseDeepRelativeImportSyntax
  containsGlobImport : Bool
  globImports : List RustUseGlobImportSyntax
deriving DecidableEq, Repr

def RustUseVisibilityKind.isReexport (visibility : RustUseVisibilityKind) : Bool :=
  visibility ≠ .priv

def restrictedVisibilityKind (segments : List String) : RustUseVisibilityKind :=
  match segments with
  | [] => .unknown
  | [segment] =>
      if segment = "crate" then .crate
      else if segment = "super" then .super
      else if segment = "self" then .selfScope
      else .restricted segments
  | _ => .restricted segments

def useVisibilityKind : Visibility → RustUseVisibilityKind
  | .inherited => .priv
  | .visible => .pub
  | .restricted path => restrictedVisibilityKind path

def globScopeKind : RustUseImportRootKind → RustUseGlobScopeKind
  | .absolute => .absolute
  | .crate => .crateOwner
  | .selfScope => .selfScope
  | .parent => .parentScope
  | .external => .external
  | .unknown => .unknown

def globImportSyntax (imported : RustUseImportSyntax) : RustUseGlobImportSyntax where
  prefixSegments := imported.segments
  isAbsolute := imported.isAbsolute
  scopeKind := globScopeKind imported.rootKind
  isDirectParentScopeGlob := imported.segments = ["super"]
  isParentRelativeGlob := imported.segments.head? = some "super"
  isPreludeGlob := imported.segments.getLast? = some "prelude"

def deepRelativeImportSyntax (line : ℕ) (visibility : RustUseVisibilityKind)
    (imported : RustUseImportSyntax) : RustUseDeepRelativeImportSyntax where
  line := line
  prefixSegments := imported.segments
  parentHops := imported.parentHops
  visibility := visibility
  isReexport := visibility.isReexport

def reexportSyntax (line : ℕ) (visibility : RustUseVisibilityKind)
    (imported : RustUseImportSyntax) : Option RustUseReexportSyntax :=
  imported.exposedName.map fun exposedName =>
    { line := line
      sourceSegments := imported.segments
      exposedName := exposedName
      visibility := visibility }

/-- A `use` declaration; the line is that of its span. -/
structure ItemUse where
  visibility : Visibility
  leadingColon : Bool
  tree : UseTree
  line : ℕ

def useItemImports (itemUse : ItemUse) : List RustUseImportSyntax :=
  (collectUseTreeImportsInto itemUse.leadingColon itemUse.tree ⟨[], []⟩).imports

def rustUseStatementSyntax (itemUse : ItemUse) (context : RustUseStatementContext) :
    RustUseStatementSyntax :=
  let imports := useItemImports itemUse
  let visibility := useVisibilityKind itemUse.visibility
  let line := max itemUse.line 1
  let globImports := (imports.filter (·.isGlob)).map globImportSyntax
  { line := line
    visibility := visibility
    context := context
    imports := imports
    reexports :=
      if visibility.isReexport then imports.filterMap (reexportSyntax line visibility) else []
    deepRelativeImports :=
      (imports.filter isDeepRelativeImport).map (deepRelativeImportSyntax line visibility)
    containsGlobImport := !globImports.isEmpty
    globImports := globImports }

theorem useItemImports_eq (itemUse : ItemUse) :
    useItemImports itemUse = collectUseTreeImports itemUse.leadingColon [] itemUse.tree := by
  rw [useItemImports, collectUseTreeImportsInto_eq, List.nil_append]

end AspRust.Parser
