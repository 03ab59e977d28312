import AspRust.Foundation.Utf8

/-!
# Rust syntax as the provider reads it

A parsed file is a forest of nodes in source order.  A node is an item, a `let`
binding or an expression; types, patterns and the other parts of the grammar carry
no data that the provider reads, and only what stands beneath them is kept.

The parser is not part of the repository.  `RustParser` is what is relied on: a
byte-order mark and a shebang line are taken away before tokenizing, and the spans
of what was parsed are positions in the text that is left.

## Items

An item has the nodes that are visited before its body (attributes, generics,
types) in `head`, and its block, or the items it encloses, in `body`; an item
without a body has an empty one.

## What is assumed

Nothing is assumed of what the parser accepts or of the shape of its forests.  The field
`exact_spans` is what a span is for, and `stripped_suffix` says that only a beginning of the
source is taken away; a theorem that needs more says so.
-/

namespace AspRust.Provider

open AspRust.Foundation

/-! ## Positions -/

/-- A line, counted from one, and a column in it, counted in characters. -/
structure LineColumn where
  line : ℕ
  column : ℕ
deriving DecidableEq, Repr

/-- A range of the tokenized text, in bytes and as lines and columns. -/
structure Span where
  byteStart : ℕ
  byteEnd : ℕ
  start : LineColumn
  stop : LineColumn
deriving DecidableEq, Repr

/-- The piece stands in the text at a byte range. -/
def StandsAt (text own : List Char) (start stop : ℕ) : Prop :=
  ∃ before after, text = before ++ own ++ after ∧ utf8Length before = start ∧
    utf8Length before + utf8Length own = stop

/-- A text in memory: its length is a machine number. -/
structure SourceText where
  chars : List Char
  length_le : utf8Length chars ≤ usizeMax

namespace SourceText

/-- A piece of a text in memory is one. -/
theorem length_le_of_getRange? {source : SourceText} {start stop : ℕ} {own : List Char}
    (h : Foundation.getRange? source.chars start stop = some own) : utf8Length own ≤ usizeMax := by
  obtain ⟨before, after, htext, -, -⟩ := getRange?_eq_some_iff.mp h
  have hlength := source.length_le
  rw [htext, utf8Length_append, utf8Length_append] at hlength
  omega

/-- The part of a text between two byte offsets. -/
def getRange? (source : SourceText) (start stop : ℕ) : Option SourceText :=
  match h : Foundation.getRange? source.chars start stop with
  | some own => some ⟨own, length_le_of_getRange? h⟩
  | none => none

theorem isSome_getRange? (source : SourceText) (start stop : ℕ) :
    (source.getRange? start stop).isSome =
      (Foundation.getRange? source.chars start stop).isSome := by
  unfold getRange?
  split <;> simp_all

end SourceText

/-! ## Items and expressions -/

/-- The text of an identifier, a path or a type: it has a token. -/
structure TokenText where
  text : String
  nonempty : text ≠ ""
deriving DecidableEq, Repr

/-- An attribute: its path, and the tokens of a list such as `cfg(...)`. -/
structure Attribute where
  path : String
  tokens : Option String
  span : Span
deriving DecidableEq, Repr

/-- The parts of a signature that are read. -/
structure Signature where
  ident : TokenText
  isAsync : Bool := false
  isConst : Bool := false
  isUnsafe : Bool := false
  inputs : ℕ := 0
  genericParams : ℕ := 0
deriving DecidableEq, Repr

/-- The tree of a `use` declaration. -/
inductive UseTree where
  | path (tree : UseTree)
  | name (ident : TokenText)
  | rename (ident : TokenText)
  | glob
  | group (items : List UseTree)

/-- The variants of an item, in modules and blocks and in the bodies of
implementations, traits and foreign modules.  A function of a trait may have a default
body.  `verbatim` is a form that the parser keeps as tokens only. -/
inductive Declaration where
  | const (ident : TokenText)
  | enum (ident : TokenText)
  | externCrate (ident : TokenText)
  | function (signature : Signature)
  | foreignMod (abi : TokenText)
  | impl (selfType : TokenText) (traitPath : Option TokenText)
  | macroItem (ident : Option TokenText) (path : TokenText)
  | mod (ident : TokenText)
  | static (ident : TokenText)
  | struct (ident : TokenText)
  | trait (ident : TokenText)
  | traitAlias (ident : TokenText)
  | typeAlias (ident : TokenText)
  | union (ident : TokenText)
  | use (inherited : Bool) (tree : UseTree)
  | verbatim
  | implConst (ident : TokenText)
  | implFn (signature : Signature)
  | implMacro (path : TokenText)
  | implType (ident : TokenText)
  | traitConst (ident : TokenText)
  | traitFn (signature : Signature) (hasDefault : Bool)
  | traitMacro (path : TokenText)
  | traitType (ident : TokenText)
  | foreignFn (signature : Signature)
  | foreignMacro (path : TokenText)
  | foreignStatic (ident : TokenText)
  | foreignType (ident : TokenText)

/-- An item without what stands beneath it. -/
structure Item where
  declaration : Declaration
  attributes : List Attribute := []
  span : Span

/-- The expressions that are told apart. -/
inductive ExprKind where
  | ifExpr
  | matchExpr
  | loopExpr
  | whileExpr
  | forLoop
  | returnExpr
  | other
deriving DecidableEq, Repr

/-- A node of the syntax tree. -/
inductive Node where
  | item (self : Item) (head body : List Node)
  | binding (span : Span) (children : List Node)
  | expr (kind : ExprKind) (span : Span) (children : List Node)

namespace Node

mutual

/-- The items at and beneath a node, in the order of a visit. -/
def items : Node → List Item
  | .item self head body => self :: (itemsOf head ++ itemsOf body)
  | .binding _ children => itemsOf children
  | .expr _ _ children => itemsOf children

/-- The items of a forest. -/
def itemsOf : List Node → List Item
  | [] => []
  | node :: rest => items node ++ itemsOf rest

end

@[simp] theorem itemsOf_nil : itemsOf [] = [] := by rw [itemsOf]

@[simp] theorem itemsOf_cons (node : Node) (rest : List Node) :
    itemsOf (node :: rest) = items node ++ itemsOf rest := by rw [itemsOf]

@[simp] theorem items_item (self : Item) (head body : List Node) :
    items (.item self head body) = self :: (itemsOf head ++ itemsOf body) := by rw [items]

@[simp] theorem items_binding (span : Span) (children : List Node) :
    items (.binding span children) = itemsOf children := by rw [items]

@[simp] theorem items_expr (kind : ExprKind) (span : Span) (children : List Node) :
    items (.expr kind span children) = itemsOf children := by rw [items]

end Node

/-! ## The parser -/

/-- The text that is taken for the item in a tokenized text: the one at its span,
with its attributes in it. -/
structure Item.ExactIn (content : List Char) (item : Item) : Prop where
  standsAt : ∃ own, StandsAt content own item.span.byteStart item.span.byteEnd
  attributes : ∀ a ∈ item.attributes, item.span.byteStart ≤ a.span.byteStart ∧
    a.span.byteEnd ≤ item.span.byteEnd

instance (content : List Char) (item : Item) : Decidable (item.ExactIn content) :=
  decidable_of_iff
    ((getRange? content item.span.byteStart item.span.byteEnd).isSome = true ∧
      ∀ a ∈ item.attributes, item.span.byteStart ≤ a.span.byteStart ∧
        a.span.byteEnd ≤ item.span.byteEnd)
    ⟨fun h => ⟨(Option.isSome_iff_exists.mp h.1).imp fun _ => getRange?_eq_some_iff.mp, h.2⟩,
      fun h => ⟨Option.isSome_iff_exists.mpr (h.standsAt.imp fun _ => getRange?_eq_some_iff.mpr),
        h.attributes⟩⟩

/-- The parser.  `stripped` is the text that is tokenized, which is the source
without a byte-order mark and a shebang line; the spans of the items are positions
in it. -/
structure RustParser where
  stripped : List Char → List Char
  parse : List Char → Except String (List Node)
  stripped_suffix : ∀ source, stripped source <:+ source
  exact_spans : ∀ {content nodes}, parse content = .ok nodes →
    ∀ self ∈ Node.itemsOf nodes, self.ExactIn content

namespace RustParser

variable (parser : RustParser)

/-- `syn::parse_file`. -/
def parseFile (source : List Char) : Except String (List Node) :=
  parser.parse (parser.stripped source)

/-- What is taken away before tokenizing. -/
def removed (source : List Char) : List Char :=
  source.take (source.length - (parser.stripped source).length)

theorem removed_append_stripped (source : List Char) :
    parser.removed source ++ parser.stripped source = source := by
  obtain ⟨before, hbefore⟩ := parser.stripped_suffix source
  have hlength : source.length - (parser.stripped source).length = before.length := by
    have h := congrArg List.length hbefore
    rw [List.length_append] at h
    omega
  rw [removed, hlength]
  conv_lhs =>
    enter [1, 2]
    rw [← hbefore]
  rw [List.take_left, hbefore]

theorem stripped_of_removed {source : List Char} (h : parser.removed source = []) :
    parser.stripped source = source := by
  have hall := parser.removed_append_stripped source
  rwa [h, List.nil_append] at hall

/-- A parser that knows one text, of which the first part is taken away. -/
def knowing (removed content : List Char) (nodes : List Node)
    (hspans : ∀ self ∈ Node.itemsOf nodes, self.ExactIn content) : RustParser where
  stripped source := if source = removed ++ content then content else source
  parse text := if text = content then .ok nodes else .error "unknown text"
  stripped_suffix source := by
    split
    · next h => exact ⟨removed, h.symm⟩
    · exact List.suffix_refl source
  exact_spans := by
    intro text parsed h
    split at h
    · next htext =>
        cases h
        exact htext ▸ hspans
    · cases h

end RustParser

end AspRust.Provider
