import AspRust.Provider.NestedItemFacts

/-!
# The visit of nested items, step by step

The visitor goes through the syntax tree with one stack of scopes and two owners, which
its methods push, replace and restore, and a list of facts to which they add.  Each
visit method is here as the steps that it takes.

A visit leaves the stack and the owners as it found them and adds the facts that
`visits` comes to (`Emits`, `emits_visitNode`).  Where the visit stands at an item is
told from the items around it (`visitsOf_eq_map_occurrencesOf`).

## Scopes of methods of traits

A method of a trait is recorded and opens no scope, while a method of an implementation
opens one.  What stands in the default body of a method is therefore recorded in the
scope of the trait: functions of one name in two methods of a trait have one list of
scopes.

## Two descriptions

`visits` of `NestedItemFacts` says what a visit records, by recursion on the tree.  Here the
visitor is written as the source has it, with a stack that is pushed and popped, and the two are
shown to agree; a method that forgot to pop would be seen in `Emits`.  The scopes around an
item are then read off the items around it, which is the form in which the discipline is stated.
-/

namespace AspRust.Provider

open AspRust.Foundation AspRust.DevGate

/-! ## The visitor with its facts

The state of a visit and the steps that its methods are made of: to add a fact, to enter
a scope and to leave it. -/

/-- The visitor in the course of a visit: where it is, and the facts so far. -/
structure RustNestedItemFactVisit extends RustNestedItemFactVisitorV1 where
  facts : List RustNestedItemFactV1 := []

namespace RustNestedItemFactVisit

/-- More facts. -/
def emit (state : RustNestedItemFactVisit) (facts : List RustNestedItemFactV1) :
    RustNestedItemFactVisit :=
  { state with facts := state.facts ++ facts }

/-- One more scope. -/
def enterScope (state : RustNestedItemFactVisit) (kind : String) (symbol : TokenText) :
    RustNestedItemFactVisit :=
  { state with scopes := state.scopes ++ [⟨kind, symbol.text⟩] }

/-- The last scope is taken away. -/
def popScope (state : RustNestedItemFactVisit) : RustNestedItemFactVisit :=
  { state with scopes := state.scopes.dropLast }

section Methods

variable (sha256 : List UInt8 → List UInt8)

/-- Record an item, unless its symbol is empty or its range is none of the source. -/
def record (state : RustNestedItemFactVisit) (itemKind : String) (symbol : TokenText)
    (item : Item) : RustNestedItemFactVisit :=
  match state.toRustNestedItemFactVisitorV1.record sha256 itemKind symbol.text item.span
      item.attributes with
  | none => state
  | some fact => { state with facts := state.facts ++ [fact] }

/-! ## The visit methods

Each visits what stands beneath its item with `beneath`, the visit that the syntax
library provides. -/

/-- An item is recorded, and what stands beneath it is visited. -/
def visitRecorded (itemKind : String) (item : Item) (symbol : TokenText)
    (beneath : RustNestedItemFactVisit → RustNestedItemFactVisit)
    (state : RustNestedItemFactVisit) : RustNestedItemFactVisit :=
  beneath (state.record sha256 itemKind symbol item)

/-- An item is recorded, and what stands beneath it is visited in a scope of the same
kind and symbol. -/
def visitScoped (itemKind : String) (item : Item) (symbol : TokenText)
    (beneath : RustNestedItemFactVisit → RustNestedItemFactVisit)
    (state : RustNestedItemFactVisit) : RustNestedItemFactVisit :=
  let state := state.record sha256 itemKind symbol item
  let state := state.enterScope itemKind symbol
  let state := beneath state
  state.popScope

def visitItemConst := visitRecorded sha256 "const"

def visitItemEnum := visitScoped sha256 "enum"

def visitItemExternCrate := visitRecorded sha256 "extern-crate"

def visitItemFn := visitScoped sha256 "function"

def visitItemForeignMod := visitScoped sha256 "foreign-module"

/-- An implementation: the owners are its own while it is recorded and visited. -/
def visitItemImpl (item : Item) (selfType : TokenText) (traitPath : Option TokenText)
    (beneath : RustNestedItemFactVisit → RustNestedItemFactVisit)
    (state : RustNestedItemFactVisit) : RustNestedItemFactVisit :=
  let previousImplOwner := state.implOwner
  let previousTraitOwner := state.traitOwner
  let state := { state with
    implOwner := some selfType.text
    traitOwner := traitPath.map TokenText.text }
  let state := state.record sha256 "impl" selfType item
  let state := state.enterScope "impl" selfType
  let state := beneath state
  let state := state.popScope
  { state with implOwner := previousImplOwner, traitOwner := previousTraitOwner }

/-- A macro under its name, or else under the path of what is invoked. -/
def visitItemMacro (item : Item) (ident : Option TokenText) (path : TokenText) :=
  visitRecorded sha256 "macro" item (ident.getD path)

def visitItemMod := visitScoped sha256 "module"

def visitItemStatic := visitRecorded sha256 "static"

def visitItemStruct := visitRecorded sha256 "struct"

/-- A trait: it is recorded with the owner around it, and is the owner beneath it. -/
def visitItemTrait (item : Item) (symbol : TokenText)
    (beneath : RustNestedItemFactVisit → RustNestedItemFactVisit)
    (state : RustNestedItemFactVisit) : RustNestedItemFactVisit :=
  let state := state.record sha256 "trait" symbol item
  let previousTraitOwner := state.traitOwner
  let state := { state with traitOwner := some symbol.text }
  let state := state.enterScope "trait" symbol
  let state := beneath state
  let state := state.popScope
  { state with traitOwner := previousTraitOwner }

def visitItemTraitAlias := visitRecorded sha256 "trait-alias"

def visitItemType := visitRecorded sha256 "type"

def visitItemUnion := visitRecorded sha256 "union"

def visitImplItemConst := visitRecorded sha256 "const"

def visitImplItemFn := visitScoped sha256 "method"

def visitImplItemMacro := visitRecorded sha256 "macro"

def visitImplItemType := visitRecorded sha256 "type"

def visitTraitItemConst := visitRecorded sha256 "const"

-- unlike a method of an implementation, this one enters no scope
def visitTraitItemFn := visitRecorded sha256 "method"

def visitTraitItemMacro := visitRecorded sha256 "macro"

def visitTraitItemType := visitRecorded sha256 "type"

def visitForeignItemFn := visitRecorded sha256 "function"

def visitForeignItemMacro := visitRecorded sha256 "macro"

def visitForeignItemStatic := visitRecorded sha256 "static"

def visitForeignItemType := visitRecorded sha256 "type"

/-- The visit method of an item.  The visitor has none for `use` declarations and for
what is kept as tokens, and what stands beneath them is visited alone. -/
def visitItem (item : Item) (beneath : RustNestedItemFactVisit → RustNestedItemFactVisit) :
    RustNestedItemFactVisit → RustNestedItemFactVisit :=
  match item.declaration with
  | .const ident => visitItemConst sha256 item ident beneath
  | .enum ident => visitItemEnum sha256 item ident beneath
  | .externCrate ident => visitItemExternCrate sha256 item ident beneath
  | .function signature => visitItemFn sha256 item signature.ident beneath
  | .foreignMod abi => visitItemForeignMod sha256 item abi beneath
  | .impl selfType traitPath => visitItemImpl sha256 item selfType traitPath beneath
  | .macroItem ident path => visitItemMacro sha256 item ident path beneath
  | .mod ident => visitItemMod sha256 item ident beneath
  | .static ident => visitItemStatic sha256 item ident beneath
  | .struct ident => visitItemStruct sha256 item ident beneath
  | .trait ident => visitItemTrait sha256 item ident beneath
  | .traitAlias ident => visitItemTraitAlias sha256 item ident beneath
  | .typeAlias ident => visitItemType sha256 item ident beneath
  | .union ident => visitItemUnion sha256 item ident beneath
  | .implConst ident => visitImplItemConst sha256 item ident beneath
  | .implFn signature => visitImplItemFn sha256 item signature.ident beneath
  | .implMacro path => visitImplItemMacro sha256 item path beneath
  | .implType ident => visitImplItemType sha256 item ident beneath
  | .traitConst ident => visitTraitItemConst sha256 item ident beneath
  | .traitFn signature _ => visitTraitItemFn sha256 item signature.ident beneath
  | .traitMacro path => visitTraitItemMacro sha256 item path beneath
  | .traitType ident => visitTraitItemType sha256 item ident beneath
  | .foreignFn signature => visitForeignItemFn sha256 item signature.ident beneath
  | .foreignMacro path => visitForeignItemMacro sha256 item path beneath
  | .foreignStatic ident => visitForeignItemStatic sha256 item ident beneath
  | .foreignType ident => visitForeignItemType sha256 item ident beneath
  | .use _ _ => beneath
  | .verbatim => beneath

mutual

/-- The visit of a node. -/
def visitNode : Node → RustNestedItemFactVisit → RustNestedItemFactVisit
  | .item self head body =>
      visitItem sha256 self fun state => visitNodes body (visitNodes head state)
  | .binding _ children => visitNodes children
  | .expr _ _ children => visitNodes children

/-- The visit of the nodes of a forest, one after another. -/
def visitNodes : List Node → RustNestedItemFactVisit → RustNestedItemFactVisit
  | [] => fun state => state
  | node :: rest => fun state => visitNodes rest (visitNode node state)

end

/-- The visit of a file. -/
def visitFile (ownerPath : String) (source : List Char) (nodes : List Node) :
    RustNestedItemFactVisit :=
  visitNodes sha256 nodes { ownerPath := ownerPath, source := source }

end Methods

/-! ## What a visit leaves as it was

Each method adds facts and leaves the visitor as it was.  This is said once for each way
in which methods are made up, and then by induction on the tree. -/

/-- The run leaves the stack and the owners as they are and adds facts, which are told
from where the visit is. -/
def Emits (run : RustNestedItemFactVisit → RustNestedItemFactVisit)
    (emitted : RustNestedItemFactVisitorV1 → List RustNestedItemFactV1) : Prop :=
  ∀ state, run state = state.emit (emitted state.toRustNestedItemFactVisitorV1)

section Emits

variable {sha256 : List UInt8 → List UInt8} {item : Item} {symbol : TokenText}
  {run next beneath : RustNestedItemFactVisit → RustNestedItemFactVisit}
  {emitted emittedNext : RustNestedItemFactVisitorV1 → List RustNestedItemFactV1}

theorem emit_nil (state : RustNestedItemFactVisit) : state.emit [] = state := by
  rw [emit, List.append_nil]

theorem emit_emit (state : RustNestedItemFactVisit) (first second : List RustNestedItemFactV1) :
    (state.emit first).emit second = state.emit (first ++ second) := by
  simp only [emit, List.append_assoc]

/-- Recording adds the fact of the item, if it has one. -/
theorem record_eq_emit (state : RustNestedItemFactVisit) (itemKind : String) :
    state.record sha256 itemKind symbol item =
      state.emit (state.toRustNestedItemFactVisitorV1.record sha256 itemKind symbol.text item.span
        item.attributes).toList := by
  rw [record]
  cases state.toRustNestedItemFactVisitorV1.record sha256 itemKind symbol.text item.span
      item.attributes with
  | none => exact (emit_nil state).symm
  | some fact => rfl

/-- The scope that was entered last is the one that is taken away. -/
theorem popScope_emit_enterScope (state : RustNestedItemFactVisit) (kind : String)
    (facts : List RustNestedItemFactV1) :
    ((state.enterScope kind symbol).emit facts).popScope = state.emit facts := by
  simp only [popScope, emit, enterScope, List.dropLast_concat]

/-- One run after another. -/
theorem Emits.andThen (h : Emits run emitted) (hnext : Emits next emittedNext) :
    Emits (fun state => next (run state)) fun visitor => emitted visitor ++ emittedNext visitor := by
  intro state
  show next (run state) = _
  rw [h state, hnext, emit_emit]
  rfl

theorem emits_visitRecorded (itemKind : String) (h : Emits beneath emitted) :
    Emits (visitRecorded sha256 itemKind item symbol beneath) fun visitor =>
      (visitor.record sha256 itemKind symbol.text item.span item.attributes).toList ++
        emitted visitor := by
  intro state
  rw [visitRecorded, record_eq_emit, h, emit_emit]
  rfl

theorem emits_visitScoped (itemKind : String) (h : Emits beneath emitted) :
    Emits (visitScoped sha256 itemKind item symbol beneath) fun visitor =>
      (visitor.record sha256 itemKind symbol.text item.span item.attributes).toList ++
        emitted (visitor.enterScope itemKind symbol) := by
  intro state
  simp only [visitScoped]
  rw [record_eq_emit, h, popScope_emit_enterScope, emit_emit]
  rfl

theorem emits_visitItemImpl (traitPath : Option TokenText) (h : Emits beneath emitted) :
    Emits (visitItemImpl sha256 item symbol traitPath beneath) fun visitor =>
      ((visitor.atItem (.impl symbol traitPath)).record sha256 "impl" symbol.text item.span
          item.attributes).toList ++
        emitted (visitor.beneath (.impl symbol traitPath)) := by
  intro state
  simp only [visitItemImpl]
  rw [record_eq_emit, h, popScope_emit_enterScope, emit_emit]
  rfl

theorem emits_visitItemTrait (h : Emits beneath emitted) :
    Emits (visitItemTrait sha256 item symbol beneath) fun visitor =>
      (visitor.record sha256 "trait" symbol.text item.span item.attributes).toList ++
        emitted (visitor.beneath (.trait symbol)) := by
  intro state
  simp only [visitItemTrait]
  rw [record_eq_emit, h, popScope_emit_enterScope]
  simp only [emit, List.append_assoc]
  rfl

/-- A visit method adds the fact of its item and what the visit beneath it adds. -/
theorem emits_visitItem (item : Item) (h : Emits beneath emitted) :
    Emits (visitItem sha256 item beneath) fun visitor =>
      (visitor.recordItem sha256 item).toList ++ emitted (visitor.beneath item.declaration) := by
  obtain ⟨declaration, attributes, span⟩ := item
  cases declaration with
  | impl selfType traitPath => exact emits_visitItemImpl traitPath h
  | trait ident => exact emits_visitItemTrait h
  | enum ident => exact emits_visitScoped "enum" h
  | function signature => exact emits_visitScoped "function" h
  | foreignMod abi => exact emits_visitScoped "foreign-module" h
  | mod ident => exact emits_visitScoped "module" h
  | implFn signature => exact emits_visitScoped "method" h
  | use inherited tree => exact h
  | verbatim => exact h
  | _ => exact emits_visitRecorded _ h

mutual

/-- The visit of a node adds the facts of the items at and beneath it. -/
theorem emits_visitNode (node : Node) :
    Emits (visitNode sha256 node) fun visitor =>
      (visitor.visits node).filterMap fun visit => visit.1.recordItem sha256 visit.2 := by
  cases node with
  | item self head body =>
      have hbeneath := (emits_visitNodes head).andThen (emits_visitNodes body)
      intro state
      rw [visitNode, emits_visitItem self hbeneath]
      beta_reduce
      rw [RustNestedItemFactVisitorV1.visits, ← List.singleton_append, List.filterMap_append, List.filterMap_append]
      cases hfact : state.toRustNestedItemFactVisitorV1.recordItem sha256 self <;> simp [hfact]
  | binding span children =>
      intro state
      beta_reduce
      rw [visitNode, emits_visitNodes children, RustNestedItemFactVisitorV1.visits]
  | expr kind span children =>
      intro state
      beta_reduce
      rw [visitNode, emits_visitNodes children, RustNestedItemFactVisitorV1.visits]

theorem emits_visitNodes (nodes : List Node) :
    Emits (visitNodes sha256 nodes) fun visitor =>
      (visitor.visitsOf nodes).filterMap fun visit => visit.1.recordItem sha256 visit.2 := by
  cases nodes with
  | nil =>
      intro state
      beta_reduce
      rw [visitNodes, RustNestedItemFactVisitorV1.visitsOf]
      exact (emit_nil state).symm
  | cons node rest =>
      have hboth := (emits_visitNode node).andThen (emits_visitNodes rest)
      intro state
      beta_reduce
      rw [visitNodes, RustNestedItemFactVisitorV1.visitsOf, List.filterMap_append]
      exact hboth state

end

/-- A visit of a node leaves the stack and the owners as they were. -/
theorem visitor_visitNode (node : Node) (state : RustNestedItemFactVisit) :
    (visitNode sha256 node state).toRustNestedItemFactVisitorV1 =
      state.toRustNestedItemFactVisitorV1 := by
  rw [emits_visitNode node state]
  rfl

/-- The facts of a file are those that `visitFile` of the visitor gives. -/
theorem facts_visitFile (ownerPath : String) (source : List Char) (nodes : List Node) :
    (visitFile sha256 ownerPath source nodes).facts =
      RustNestedItemFactVisitorV1.visitFile sha256
        { ownerPath := ownerPath, source := source } nodes := by
  rw [visitFile, emits_visitNodes nodes]
  exact List.nil_append _

end Emits

end RustNestedItemFactVisit

/-- The facts of an owner are those of the visit of its file, put in order. -/
theorem rustNestedItemFactsV1_eq (sha256 : List UInt8 → List UInt8) (parser : RustParser)
    {ownerPath : String} {source : List Char} {nodes : List Node} (howner : ownerPath ≠ "")
    (hparse : parser.parseFile source = .ok nodes) :
    rustNestedItemFactsV1 sha256 parser ownerPath source =
      .ok ((RustNestedItemFactVisit.visitFile sha256 ownerPath source nodes).facts.insertionSort
        factOrder) := by
  rw [rustNestedItemFactsV1, if_neg howner, hparse, RustNestedItemFactVisit.facts_visitFile]

/-! ## The items around an item

A place in the forest is given by the items around it, the outermost first.  A visit
comes to the places of the forest in their order. -/

/-- An item in a forest: the items around it, the outermost first, and what stands
beneath it. -/
structure Occurrence where
  ancestors : List Item
  self : Item
  head : List Node
  body : List Node

namespace Node

mutual

/-- The items at and beneath a node, in the order of a visit. -/
def occurrences (ancestors : List Item) : Node → List Occurrence
  | .item self head body =>
      ⟨ancestors, self, head, body⟩ ::
        (occurrencesOf (ancestors ++ [self]) head ++ occurrencesOf (ancestors ++ [self]) body)
  | .binding _ children => occurrencesOf ancestors children
  | .expr _ _ children => occurrencesOf ancestors children

/-- The items of a forest. -/
def occurrencesOf (ancestors : List Item) : List Node → List Occurrence
  | [] => []
  | node :: rest => occurrences ancestors node ++ occurrencesOf ancestors rest

end

end Node

namespace RustNestedItemFactVisitorV1

/-- The visitor beneath several items, each in the one before it. -/
def within (visitor : RustNestedItemFactVisitorV1) (ancestors : List Item) :
    RustNestedItemFactVisitorV1 :=
  ancestors.foldl (fun visitor ancestor => visitor.beneath ancestor.declaration) visitor

@[simp] theorem within_nil (visitor : RustNestedItemFactVisitorV1) :
    visitor.within [] = visitor := rfl

@[simp] theorem within_concat (visitor : RustNestedItemFactVisitorV1) (ancestors : List Item)
    (item : Item) :
    visitor.within (ancestors ++ [item]) = (visitor.within ancestors).beneath item.declaration :=
  List.foldl_concat ..

mutual

/-- The visit comes to an item beneath the items around it. -/
theorem visits_eq_map_occurrences (visitor : RustNestedItemFactVisitorV1) (ancestors : List Item)
    (node : Node) :
    (visitor.within ancestors).visits node =
      (node.occurrences ancestors).map fun o => (visitor.within o.ancestors, o.self) := by
  cases node with
  | item self head body =>
      rw [visits, Node.occurrences, ← within_concat, visitsOf_eq_map_occurrencesOf visitor _ head,
        visitsOf_eq_map_occurrencesOf visitor _ body, List.map_cons, List.map_append]
  | binding span children =>
      rw [visits, Node.occurrences, visitsOf_eq_map_occurrencesOf visitor _ children]
  | expr kind span children =>
      rw [visits, Node.occurrences, visitsOf_eq_map_occurrencesOf visitor _ children]

theorem visitsOf_eq_map_occurrencesOf (visitor : RustNestedItemFactVisitorV1)
    (ancestors : List Item) (nodes : List Node) :
    (visitor.within ancestors).visitsOf nodes =
      (Node.occurrencesOf ancestors nodes).map fun o => (visitor.within o.ancestors, o.self) := by
  cases nodes with
  | nil => rw [visitsOf, Node.occurrencesOf, List.map_nil]
  | cons node rest =>
      rw [visitsOf, Node.occurrencesOf, visits_eq_map_occurrences visitor _ node,
        visitsOf_eq_map_occurrencesOf visitor _ rest, List.map_append]

end

end RustNestedItemFactVisitorV1

/-! ## What is around an item, and what the visitor has of it

The scopes that should be around an item are those of all items around it; the visitor
has those that were opened.  The two are the same exactly if no item around is a method
of a trait with a default body. -/

/-- A method of a trait with a default body. -/
def isDefaultMethod : Declaration → Bool
  | .traitFn _ hasDefault => hasDefault
  | _ => false

/-- The scope that an item is for what it encloses. -/
def enclosingScope : Declaration → Option RustItemScopeFactV1
  | .mod ident => some ⟨"module", ident.text⟩
  | .function signature => some ⟨"function", signature.ident.text⟩
  | .impl selfType _ => some ⟨"impl", selfType.text⟩
  | .implFn signature => some ⟨"method", signature.ident.text⟩
  | .trait ident => some ⟨"trait", ident.text⟩
  | .traitFn signature true => some ⟨"method", signature.ident.text⟩
  | .enum ident => some ⟨"enum", ident.text⟩
  | .foreignMod abi => some ⟨"foreign-module", abi.text⟩
  | _ => none

/-- The scopes of what stands in these items. -/
def enclosingScopes (ancestors : List Item) : List RustItemScopeFactV1 :=
  ancestors.filterMap fun ancestor => enclosingScope ancestor.declaration

/-- The name of a function or of a method. -/
def functionName : Declaration → Option String
  | .function signature => some signature.ident.text
  | .implFn signature => some signature.ident.text
  | .traitFn signature true => some signature.ident.text
  | _ => none

/-- The names of the functions and methods among the items. -/
def functionNames (ancestors : List Item) : List String :=
  ancestors.filterMap fun ancestor => functionName ancestor.declaration

/-- The type of an implementation. -/
def ownImplOwner : Declaration → Option String
  | .impl selfType _ => some selfType.text
  | _ => none

/-- The trait of an implementation, which may have none, or a trait itself. -/
def ownTraitOwner : Declaration → Option (Option String)
  | .impl _ traitPath => some (traitPath.map TokenText.text)
  | .trait ident => some (some ident.text)
  | _ => none

/-- What the innermost item that has it has. -/
def innermost {α : Type*} (own : Declaration → Option α) (items : List Item) : Option α :=
  items.reverse.findSome? fun item => own item.declaration

namespace Occurrence

/-- The item with what stands beneath it. -/
def node (o : Occurrence) : Node := .item o.self o.head o.body

/-- The items whose owners count for an item: those around it, and an implementation
itself. -/
def owning (o : Occurrence) : List Item :=
  match o.self.declaration with
  | .impl _ _ => o.ancestors ++ [o.self]
  | _ => o.ancestors

/-- The type of the innermost implementation. -/
def implOwner (o : Occurrence) : Option String := innermost ownImplOwner o.owning

/-- The trait of the innermost implementation or trait. -/
def traitOwner (o : Occurrence) : Option String := (innermost ownTraitOwner o.owning).join

end Occurrence

/-- The scopes that the visitor has among the enclosing ones: those of methods with a
default body are missing. -/
def openedScopes (ancestors : List Item) : List RustItemScopeFactV1 :=
  enclosingScopes (ancestors.filter fun ancestor => !isDefaultMethod ancestor.declaration)

theorem innermost_concat {α : Type*} (own : Declaration → Option α) (items : List Item)
    (item : Item) :
    innermost own (items ++ [item]) = (own item.declaration).or (innermost own items) := by
  rw [innermost, List.reverse_concat, List.findSome?_cons]
  cases own item.declaration <;> rfl

theorem enclosingScopes_concat (ancestors : List Item) (item : Item) :
    enclosingScopes (ancestors ++ [item]) =
      enclosingScopes ancestors ++ (enclosingScope item.declaration).toList := by
  rw [enclosingScopes, List.filterMap_append]
  cases hscope : enclosingScope item.declaration <;> simp [enclosingScopes, hscope]

theorem openedScopes_concat (ancestors : List Item) (item : Item) :
    openedScopes (ancestors ++ [item]) = openedScopes ancestors ++
      if isDefaultMethod item.declaration then []
      else (enclosingScope item.declaration).toList := by
  rw [openedScopes, List.filter_append]
  cases hdefault : isDefaultMethod item.declaration with
  | true => simp [openedScopes, hdefault]
  | false => simp [openedScopes, hdefault, enclosingScopes_concat]

theorem exists_enclosingScope_of_isDefaultMethod {declaration : Declaration}
    (h : isDefaultMethod declaration = true) : ∃ scope, enclosingScope declaration = some scope := by
  cases declaration with
  | traitFn signature hasDefault =>
      obtain rfl : hasDefault = true := h
      exact ⟨_, rfl⟩
  | _ => cases h

/-- The visitor has all the enclosing scopes when no method with a default body is
around. -/
theorem openedScopes_eq_iff (ancestors : List Item) :
    openedScopes ancestors = enclosingScopes ancestors ↔
      ∀ ancestor ∈ ancestors, isDefaultMethod ancestor.declaration = false := by
  constructor
  · intro h
    induction ancestors using List.reverseRecOn with
    | nil => simp
    | append_singleton ancestors item ih =>
        -- a method with a default body would leave fewer scopes than there are
        have hle : (openedScopes ancestors).length ≤ (enclosingScopes ancestors).length :=
          (List.filter_sublist.filterMap _).length_le
        rw [openedScopes_concat, enclosingScopes_concat] at h
        cases hdefault : isDefaultMethod item.declaration with
        | true =>
            obtain ⟨scope, hscope⟩ := exists_enclosingScope_of_isDefaultMethod hdefault
            rw [hdefault, hscope, if_pos rfl, List.append_nil] at h
            have hlengths := congrArg List.length h
            rw [List.length_append, Option.toList_some, List.length_singleton] at hlengths
            omega
        | false =>
            rw [hdefault, if_neg Bool.false_ne_true, List.append_cancel_right_eq] at h
            intro ancestor hmem
            rcases List.mem_append.mp hmem with hmem | hmem
            · exact ih h ancestor hmem
            · obtain rfl := List.mem_singleton.mp hmem
              exact hdefault
  · intro h
    have hall : (ancestors.filter fun ancestor => !isDefaultMethod ancestor.declaration) =
        ancestors := List.filter_eq_self.mpr fun ancestor hmem => by simp [h ancestor hmem]
    rw [openedScopes, hall]

namespace RustNestedItemFactVisitorV1

theorem scopes_beneath (visitor : RustNestedItemFactVisitorV1) (declaration : Declaration) :
    (visitor.beneath declaration).scopes = visitor.scopes ++
      if isDefaultMethod declaration then [] else (enclosingScope declaration).toList := by
  cases declaration with
  | traitFn signature hasDefault => cases hasDefault <;> exact (List.append_nil _).symm
  | _ => first | rfl | exact (List.append_nil _).symm

theorem implOwner_beneath (visitor : RustNestedItemFactVisitorV1) (declaration : Declaration) :
    (visitor.beneath declaration).implOwner =
      (ownImplOwner declaration).or visitor.implOwner := by
  cases declaration <;> rfl

theorem traitOwner_beneath (visitor : RustNestedItemFactVisitorV1) (declaration : Declaration) :
    (visitor.beneath declaration).traitOwner =
      (ownTraitOwner declaration).getD visitor.traitOwner := by
  cases declaration <;> rfl

theorem scopes_within (visitor : RustNestedItemFactVisitorV1) (ancestors : List Item) :
    (visitor.within ancestors).scopes = visitor.scopes ++ openedScopes ancestors := by
  induction ancestors using List.reverseRecOn with
  | nil => exact (List.append_nil _).symm
  | append_singleton ancestors item ih =>
      rw [within_concat, scopes_beneath, ih, openedScopes_concat, List.append_assoc]

theorem implOwner_within (visitor : RustNestedItemFactVisitorV1) (ancestors : List Item) :
    (visitor.within ancestors).implOwner =
      (innermost ownImplOwner ancestors).or visitor.implOwner := by
  induction ancestors using List.reverseRecOn with
  | nil => rfl
  | append_singleton ancestors item ih =>
      rw [within_concat, implOwner_beneath, ih, innermost_concat, Option.or_assoc]

theorem traitOwner_within (visitor : RustNestedItemFactVisitorV1) (ancestors : List Item) :
    (visitor.within ancestors).traitOwner =
      (innermost ownTraitOwner ancestors).getD visitor.traitOwner := by
  induction ancestors using List.reverseRecOn with
  | nil => rfl
  | append_singleton ancestors item ih =>
      rw [within_concat, traitOwner_beneath, ih, innermost_concat]
      cases ownTraitOwner item.declaration <;> rfl

end RustNestedItemFactVisitorV1

/-! ## Facts and the items they are about

The facts are those of the recorded items, in order.  So the discipline is a statement
about each recorded item, and it fails where the scopes of one are not those around it. -/

/-- The item is recorded: it is declared in a form that is, and its range is one of the
source. -/
def isRecorded (source : List Char) (item : Item) : Bool :=
  (recordedAs item.declaration).isSome &&
    (getRange? source (sourceRange item.span item.attributes).1
      (sourceRange item.span item.attributes).2).isSome

/-- The items of a forest that are recorded. -/
def recordedOccurrences (source : List Char) (nodes : List Node) : List Occurrence :=
  (Node.occurrencesOf [] nodes).filter fun o => isRecorded source o.self

/-- The fact is about the item, and has all that is around the item. -/
structure FactOf (o : Occurrence) (fact : RustNestedItemFactV1) : Prop where
  recorded : ∃ symbol, recordedAs o.self.declaration = some (fact.itemKind, symbol) ∧
    symbol.text = fact.symbol
  range : sourceRange o.self.span o.self.attributes = (fact.sourceByteStart, fact.sourceByteEnd)
  scopes : fact.scopes = enclosingScopes o.ancestors
  implOwner : fact.implOwner = o.implOwner
  traitOwner : fact.traitOwner = o.traitOwner

/-- The recorded items with their facts. -/
def emissions (sha256 : List UInt8 → List UInt8) (ownerPath : String) (source : List Char)
    (nodes : List Node) : List (Occurrence × RustNestedItemFactV1) :=
  (recordedOccurrences source nodes).zip
    (RustNestedItemFactVisit.visitFile sha256 ownerPath source nodes).facts

/-- What a visit keeps to: it leaves the visitor at each item as it found it, the facts
are those of the recorded items with what is around them, and items in functions and
methods of different names have different scopes. -/
structure StackDiscipline (sha256 : List UInt8 → List UInt8) (ownerPath : String)
    (source : List Char) (nodes : List Node) : Prop where
  restores : ∀ o ∈ Node.occurrencesOf [] nodes, ∀ state : RustNestedItemFactVisit,
    (RustNestedItemFactVisit.visitNode sha256 o.node state).toRustNestedItemFactVisitorV1 =
      state.toRustNestedItemFactVisitorV1
  exact : List.Forall₂ FactOf (recordedOccurrences source nodes)
    (RustNestedItemFactVisit.visitFile sha256 ownerPath source nodes).facts
  apart : ∀ p ∈ emissions sha256 ownerPath source nodes,
    ∀ q ∈ emissions sha256 ownerPath source nodes,
      functionNames p.1.ancestors ≠ functionNames q.1.ancestors → p.2.scopes ≠ q.2.scopes

section Discipline

variable {sha256 : List UInt8 → List UInt8} {visitor : RustNestedItemFactVisitorV1}
  {ownerPath : String} {source : List Char} {item : Item} {fact : RustNestedItemFactV1}

namespace RustNestedItemFactVisitorV1

/-- The visitor before the first item of a file. -/
def atFile (ownerPath : String) (source : List Char) : RustNestedItemFactVisitorV1 :=
  { ownerPath := ownerPath, source := source }

theorem source_within (visitor : RustNestedItemFactVisitorV1) (ancestors : List Item) :
    (visitor.within ancestors).source = visitor.source := by
  induction ancestors using List.reverseRecOn with
  | nil => rfl
  | append_singleton ancestors item ih => rw [within_concat, source_beneath, ih]

theorem isSome_recordItem (sha256 : List UInt8 → List UInt8)
    (visitor : RustNestedItemFactVisitorV1) (item : Item) :
    (visitor.recordItem sha256 item).isSome = isRecorded visitor.source item := by
  rw [recordItem, isRecorded]
  cases recordedAs item.declaration with
  | none => rfl
  | some recorded =>
      rw [Option.bind_some, record, if_neg recorded.2.nonempty, source_atItem]
      dsimp only
      split
      · next hnone => simp [hnone]
      · next own hown => simp [hown]

end RustNestedItemFactVisitorV1

open RustNestedItemFactVisitorV1

theorem implOwner_atItem_within (o : Occurrence) :
    (((atFile ownerPath source).within o.ancestors).atItem o.self.declaration).implOwner =
      o.implOwner := by
  have hwithin := implOwner_within (atFile ownerPath source) o.ancestors
  rw [show (atFile ownerPath source).implOwner = none from rfl, Option.or_none] at hwithin
  rw [Occurrence.implOwner, Occurrence.owning]
  cases hself : o.self.declaration with
  | impl selfType traitPath =>
      rw [innermost_concat, hself]
      rfl
  | _ => exact hwithin

theorem traitOwner_atItem_within (o : Occurrence) :
    (((atFile ownerPath source).within o.ancestors).atItem o.self.declaration).traitOwner =
      o.traitOwner := by
  have hwithin := traitOwner_within (atFile ownerPath source) o.ancestors
  rw [Occurrence.traitOwner, Occurrence.owning]
  cases hself : o.self.declaration with
  | impl selfType traitPath =>
      rw [innermost_concat, hself]
      rfl
  | _ =>
      refine hwithin.trans ?_
      cases innermost ownTraitOwner o.ancestors <;> rfl

theorem scopes_atItem (visitor : RustNestedItemFactVisitorV1) (declaration : Declaration) :
    (visitor.atItem declaration).scopes = visitor.scopes := by
  cases declaration <;> rfl

/-- The fact of an item has the scopes that the visitor opened. -/
theorem scopes_of_recordItem {o : Occurrence}
    (h : ((atFile ownerPath source).within o.ancestors).recordItem sha256 o.self = some fact) :
    fact.scopes = openedScopes o.ancestors := by
  obtain ⟨symbol, own, -, hfact⟩ := exists_of_recordItem h
  rw [hfact]
  show (((atFile ownerPath source).within o.ancestors).atItem o.self.declaration).scopes = _
  rw [scopes_atItem, scopes_within]
  rfl

/-- The fact of an item has all that is around the item when the visitor opened all
scopes. -/
theorem factOf_of_recordItem {o : Occurrence}
    (h : ((atFile ownerPath source).within o.ancestors).recordItem sha256 o.self = some fact)
    (hscopes : openedScopes o.ancestors = enclosingScopes o.ancestors) : FactOf o fact := by
  have hopened := scopes_of_recordItem h
  obtain ⟨symbol, own, hrecorded, hfact⟩ := exists_of_recordItem h
  refine ⟨⟨symbol, hrecorded, ?_⟩, ?_, hopened.trans hscopes, ?_, ?_⟩
  · rw [hfact]
  · rw [hfact]
  · rw [hfact]
    exact implOwner_atItem_within o
  · rw [hfact]
    exact traitOwner_atItem_within o

/-- What a filter keeps, with what a mapping gives that answers for the same. -/
theorem forall₂_filter_filterMap {α β : Type*} {f : α → Option β} {p : α → Bool}
    (h : ∀ a, (f a).isSome = p a) (list : List α) :
    List.Forall₂ (fun a b => f a = some b) (list.filter p) (list.filterMap f) := by
  induction list with
  | nil => exact .nil
  | cons a rest ih =>
      have ha := h a
      rw [List.filter_cons, List.filterMap_cons, ← ha]
      cases hfa : f a with
      | none => exact ih
      | some b => exact .cons hfa ih

/-- The facts of a file are those of its items beneath what is around them. -/
theorem facts_visitFile_eq_filterMap (sha256 : List UInt8 → List UInt8) (ownerPath : String)
    (source : List Char) (nodes : List Node) :
    (RustNestedItemFactVisit.visitFile sha256 ownerPath source nodes).facts =
      (Node.occurrencesOf [] nodes).filterMap fun o =>
        ((atFile ownerPath source).within o.ancestors).recordItem sha256 o.self := by
  have hvisits := visitsOf_eq_map_occurrencesOf (atFile ownerPath source) [] nodes
  rw [RustNestedItemFactVisit.facts_visitFile]
  show ((atFile ownerPath source).visitsOf nodes).filterMap _ = _
  rw [← within_nil (atFile ownerPath source), hvisits, List.filterMap_map]
  rfl

/-- The facts are in the order of the recorded items. -/
theorem forall₂_recordItem (sha256 : List UInt8 → List UInt8) (ownerPath : String)
    (source : List Char) (nodes : List Node) :
    List.Forall₂
      (fun o fact =>
        ((atFile ownerPath source).within o.ancestors).recordItem sha256 o.self = some fact)
      (recordedOccurrences source nodes)
      (RustNestedItemFactVisit.visitFile sha256 ownerPath source nodes).facts := by
  rw [facts_visitFile_eq_filterMap]
  refine forall₂_filter_filterMap (fun o => ?_) _
  rw [isSome_recordItem, source_within]
  rfl

/-- The name of the function or method that opened a scope. -/
def scopeFunctionName (scope : RustItemScopeFactV1) : Option String :=
  if scope.kind = "function" ∨ scope.kind = "method" then some scope.symbol else none

/-- The names of the functions and methods can be read off the enclosing scopes. -/
theorem filterMap_enclosingScopes (ancestors : List Item) :
    (enclosingScopes ancestors).filterMap scopeFunctionName = functionNames ancestors := by
  rw [enclosingScopes, List.filterMap_filterMap, functionNames]
  refine List.filterMap_congr fun ancestor _ => ?_
  cases ancestor.declaration with
  | traitFn signature hasDefault => cases hasDefault <;> rfl
  | _ => rfl

/-- A recorded item has a fact, with the scopes that the visitor opened. -/
theorem exists_emission (sha256 : List UInt8 → List UInt8) (ownerPath : String)
    {source : List Char} {nodes : List Node} {o : Occurrence}
    (h : o ∈ recordedOccurrences source nodes) :
    ∃ fact, (o, fact) ∈ emissions sha256 ownerPath source nodes ∧
      fact.scopes = openedScopes o.ancestors := by
  have hfacts := forall₂_recordItem sha256 ownerPath source nodes
  have hzip : o ∈ (emissions sha256 ownerPath source nodes).map Prod.fst := by
    rwa [emissions, List.map_fst_zip hfacts.length_eq.le]
  obtain ⟨⟨o, fact⟩, hpair, rfl⟩ := List.mem_map.mp hzip
  exact ⟨fact, hpair, scopes_of_recordItem ((List.forall₂_iff_zip.mp hfacts).2 hpair)⟩

/-- **The discipline of the visit.**  A visit keeps to it exactly when no recorded item
stands in a method of a trait with a default body.  Every other visit of a body pushes a
scope and pops it again; that one goes into the body without a scope, so what it finds
is recorded as if it stood in the trait. -/
theorem stackDiscipline_iff (sha256 : List UInt8 → List UInt8) (ownerPath : String)
    (source : List Char) (nodes : List Node) :
    StackDiscipline sha256 ownerPath source nodes ↔
      ∀ o ∈ recordedOccurrences source nodes,
        ∀ ancestor ∈ o.ancestors, isDefaultMethod ancestor.declaration = false := by
  have hfacts := forall₂_recordItem sha256 ownerPath source nodes
  constructor
  · rintro ⟨-, hexact, -⟩ o ho
    -- the item has a fact, with the scopes that were opened and with all enclosing ones
    obtain ⟨fact, hpair, hopened⟩ := exists_emission sha256 ownerPath ho
    have hall := ((List.forall₂_iff_zip.mp hexact).2 hpair).scopes
    exact (openedScopes_eq_iff _).mp (hopened.symm.trans hall)
  · intro h
    have hof : ∀ p ∈ emissions sha256 ownerPath source nodes, FactOf p.1 p.2 := by
      intro p hpair
      apply factOf_of_recordItem ((List.forall₂_iff_zip.mp hfacts).2 hpair)
      exact (openedScopes_eq_iff _).mpr (h p.1 (List.of_mem_zip hpair).1)
    refine ⟨?_, ?_, ?_⟩
    · intro o _ state
      exact RustNestedItemFactVisit.visitor_visitNode o.node state
    · exact List.forall₂_iff_zip.mpr ⟨hfacts.length_eq, fun hpair => hof _ hpair⟩
    · intro p hp q hq hnames hscopes
      apply hnames
      rw [← filterMap_enclosingScopes, ← (hof p hp).scopes, hscopes, (hof q hq).scopes,
        filterMap_enclosingScopes]

end Discipline

/-! ## Two methods with a function of one name -/

/-- A range of a text of one line of ASCII. -/
def lineSpan (start stop : ℕ) : Span := ⟨start, stop, ⟨1, start⟩, ⟨1, stop⟩⟩

/-- A trait of two methods, each with a function `h` in its default body. -/
def twoMethodsSource : List Char :=
  "trait T\x7bfn p()\x7bfn h()\x7b\x7d\x7dfn q()\x7bfn h()\x7b\x7d\x7d\x7d".toList

/-- A method of this trait, which starts at a byte. -/
def methodNode (name : TokenText) (start : ℕ) : Node :=
  .item { declaration := .traitFn { ident := name } true, span := lineSpan start (start + 16) } []
    [.item
      { declaration := .function { ident := ⟨"h", by decide⟩ }
        span := lineSpan (start + 7) (start + 15) } [] []]

/-- The syntax tree of the text. -/
def twoMethodsNodes : List Node :=
  [.item { declaration := .trait ⟨"T", by decide⟩, span := lineSpan 0 41 } []
    [methodNode ⟨"p", by decide⟩ 8, methodNode ⟨"q", by decide⟩ 24]]

/-- The names of the functions and methods around each recorded item, and the scopes
that the visitor opened: the two functions have those of the trait. -/
theorem openedScopes_twoMethods :
    (recordedOccurrences twoMethodsSource twoMethodsNodes).map
        (fun o => (functionNames o.ancestors, openedScopes o.ancestors)) =
      [([], []), ([], [⟨"trait", "T"⟩]), (["p"], [⟨"trait", "T"⟩]), ([], [⟨"trait", "T"⟩]),
        (["q"], [⟨"trait", "T"⟩])] := by
  decide +kernel

/-- In each of the two methods stands an item with the scopes of the trait. -/
theorem exists_emission_twoMethods (sha256 : List UInt8 → List UInt8) (ownerPath : String)
    {name : String} (h : name ∈ ["p", "q"]) :
    ∃ p ∈ emissions sha256 ownerPath twoMethodsSource twoMethodsNodes,
      functionNames p.1.ancestors = [name] ∧ p.2.scopes = [⟨"trait", "T"⟩] := by
  have hmem : ([name], [⟨"trait", "T"⟩]) ∈
      (recordedOccurrences twoMethodsSource twoMethodsNodes).map
        fun o => (functionNames o.ancestors, openedScopes o.ancestors) := by
    rw [openedScopes_twoMethods]
    rcases List.mem_pair.mp h with rfl | rfl <;> simp
  obtain ⟨o, ho, hrow⟩ := List.mem_map.mp hmem
  obtain ⟨hnames, hscopes⟩ := Prod.mk.inj hrow
  obtain ⟨fact, hpair, hopened⟩ := exists_emission sha256 ownerPath ho
  exact ⟨_, hpair, hnames, hopened.trans hscopes⟩

theorem stackDiscipline_twoMethods :
    ¬ ∃ sha256 : List UInt8 → List UInt8,
      StackDiscipline sha256 "src/lib.rs" twoMethodsSource twoMethodsNodes := by
  rintro ⟨sha256, h⟩
  obtain ⟨first, hfirst, hfirstNames, hfirstScopes⟩ :=
    exists_emission_twoMethods sha256 "src/lib.rs" (List.mem_cons_self (a := "p"))
  obtain ⟨second, hsecond, hsecondNames, hsecondScopes⟩ :=
    exists_emission_twoMethods sha256 "src/lib.rs"
      (List.mem_cons_of_mem "p" (List.mem_singleton_self "q"))
  apply h.apart first hfirst second hsecond
  · rw [hfirstNames, hsecondNames]
    decide
  · rw [hfirstScopes, hsecondScopes]

end AspRust.Provider
