import AspRust.DevGate.Digest
import AspRust.Provider.ParseArtifact
import Mathlib.Data.List.Forall2
import Mathlib.Data.List.Sort

/-!
# Facts about nested items

A visit of the syntax tree records a fact for each item at any depth: its kind and
symbol, the scopes around it, and the byte range of the source that is its text.
From a fact and the source the text of the item can be projected again.

## Ranges of what was parsed, and of the source

The range of an item is the one of its span, which counts from where tokenizing
began.  It is looked up in the source as it was given.  The two agree when nothing
has been taken away in front; after a byte-order mark or a shebang line every range
is off by as many bytes.

`use` declarations are visited and not recorded, and neither are items that are kept
as tokens only.

## What is load-bearing

The parser gives spans in the text that it was given, and the one thing assumed of it is that an
item stands where its span says (`RustParser.exact_spans`).  The visit copies spans and never
computes with them, so ranges are exact for all items or, where something was taken away in
front, for none; an empty source has no items to be wrong about.
-/

namespace AspRust.Provider

open AspRust.Foundation AspRust.DevGate

/-! ## Facts

A fact about an item, and the digest of its identity: fields with their lengths in
front, and a marker for each that may be missing. -/

/-- A scope around an item. -/
structure RustItemScopeFactV1 where
  kind : String
  symbol : String
deriving DecidableEq, Repr

/-- A fact about one item. -/
structure RustNestedItemFactV1 where
  schemaId : String
  schemaVersion : String
  ownerPath : String
  itemKind : String
  symbol : String
  scopes : List RustItemScopeFactV1
  implOwner : Option String
  traitOwner : Option String
  sourceByteStart : ℕ
  sourceByteEnd : ℕ
  identityDigest : String
  sourceSliceDigest : String
deriving DecidableEq, Repr

/-- The schema of the facts. -/
def rustNestedItemFactSchemaId : String := "agent.semantic-protocols.rust-nested-item-fact"

/-- The version of the schema. -/
def rustNestedItemFactSchemaVersion : String := "1"

/-- The eight bytes of a 64-bit number, the lowest first. -/
def u64LittleEndian (n : ℕ) : List UInt8 :=
  (List.range 8).map fun i => UInt8.ofNat (n / 256 ^ i)

/-- A field of a digest: its length and its bytes. -/
def identityField (field : String) : List UInt8 :=
  u64LittleEndian (utf8 field.toList).length ++ utf8 field.toList

/-- A field that may be missing. -/
def optionalIdentityField : Option String → List UInt8
  | some field => 1 :: identityField field
  | none => [0]

section Digests

variable (sha256 : List UInt8 → List UInt8)

/-- A digest in hexadecimal. -/
def sha256Hex (bytes : List UInt8) : String := String.ofList ((sha256 bytes).flatMap hexByte)

/-- The digest of an item's identity. -/
def nestedItemIdentityDigest (ownerPath itemKind symbol : String)
    (scopes : List RustItemScopeFactV1) (implOwner traitOwner : Option String) : String :=
  sha256Hex sha256
    (identityField ownerPath ++ identityField itemKind ++ identityField symbol ++
      scopes.flatMap (fun scope => identityField scope.kind ++ identityField scope.symbol) ++
      optionalIdentityField implOwner ++ optionalIdentityField traitOwner)

end Digests

/-! ## The visit

What a visit records, by recursion on the tree: for each item the facts of the item
itself and then of those beneath it, with the scope that it opens. -/

/-- Where a visit is: the owner, and the scopes and owners around. -/
structure RustNestedItemFactVisitorV1 where
  ownerPath : String
  source : List Char
  scopes : List RustItemScopeFactV1 := []
  implOwner : Option String := none
  traitOwner : Option String := none

/-- The smallest range around a span and the attributes. -/
def sourceRange (span : Span) (attributes : List Attribute) : ℕ × ℕ :=
  attributes.foldl
    (fun range a => (min range.1 a.span.byteStart, max range.2 a.span.byteEnd))
    (span.byteStart, span.byteEnd)

/-- The kind and the symbol under which an item is recorded. -/
def recordedAs : Declaration → Option (String × TokenText)
  | .const ident => some ("const", ident)
  | .enum ident => some ("enum", ident)
  | .externCrate ident => some ("extern-crate", ident)
  | .function signature => some ("function", signature.ident)
  | .foreignMod abi => some ("foreign-module", abi)
  | .impl selfType _ => some ("impl", selfType)
  | .macroItem ident path => some ("macro", ident.getD path)
  | .mod ident => some ("module", ident)
  | .static ident => some ("static", ident)
  | .struct ident => some ("struct", ident)
  | .trait ident => some ("trait", ident)
  | .traitAlias ident => some ("trait-alias", ident)
  | .typeAlias ident => some ("type", ident)
  | .union ident => some ("union", ident)
  | .implConst ident => some ("const", ident)
  | .implFn signature => some ("method", signature.ident)
  | .implMacro path => some ("macro", path)
  | .implType ident => some ("type", ident)
  | .traitConst ident => some ("const", ident)
  | .traitFn signature _ => some ("method", signature.ident)
  | .traitMacro path => some ("macro", path)
  | .traitType ident => some ("type", ident)
  | .foreignFn signature => some ("function", signature.ident)
  | .foreignMacro path => some ("macro", path)
  | .foreignStatic ident => some ("static", ident)
  | .foreignType ident => some ("type", ident)
  | .use _ _ => none
  | .verbatim => none

namespace RustNestedItemFactVisitorV1

/-- One more scope. -/
def enterScope (visitor : RustNestedItemFactVisitorV1) (kind : String) (symbol : TokenText) :
    RustNestedItemFactVisitorV1 :=
  { visitor with scopes := visitor.scopes ++ [⟨kind, symbol.text⟩] }

/-- The visitor when an item is recorded: an implementation is recorded with its own
type and trait. -/
def atItem (visitor : RustNestedItemFactVisitorV1) : Declaration → RustNestedItemFactVisitorV1
  | .impl selfType traitPath =>
      { visitor with
        implOwner := some selfType.text
        traitOwner := traitPath.map TokenText.text }
  | _ => visitor

/-- The visitor beneath an item.  A function of a trait opens no scope, while a
method of an implementation does. -/
def beneath (visitor : RustNestedItemFactVisitorV1) (declaration : Declaration) :
    RustNestedItemFactVisitorV1 :=
  match declaration with
  | .enum ident => visitor.enterScope "enum" ident
  | .function signature => visitor.enterScope "function" signature.ident
  | .foreignMod abi => visitor.enterScope "foreign-module" abi
  | .impl selfType _ => (visitor.atItem declaration).enterScope "impl" selfType
  | .mod ident => visitor.enterScope "module" ident
  | .trait ident =>
      { visitor with traitOwner := some ident.text }.enterScope "trait" ident
  | .implFn signature => visitor.enterScope "method" signature.ident
  | _ => visitor

/-- Record an item, unless its symbol is empty or its range is none of the
source. -/
def record (sha256 : List UInt8 → List UInt8) (visitor : RustNestedItemFactVisitorV1)
    (itemKind symbol : String) (span : Span) (attributes : List Attribute) :
    Option RustNestedItemFactV1 :=
  if symbol = "" then none
  else
    let range := sourceRange span attributes
    match getRange? visitor.source range.1 range.2 with
    | none => none
    | some sourceSlice =>
        some
          { schemaId := rustNestedItemFactSchemaId
            schemaVersion := rustNestedItemFactSchemaVersion
            ownerPath := visitor.ownerPath
            itemKind := itemKind
            symbol := symbol
            scopes := visitor.scopes
            implOwner := visitor.implOwner
            traitOwner := visitor.traitOwner
            sourceByteStart := range.1
            sourceByteEnd := range.2
            identityDigest := nestedItemIdentityDigest sha256 visitor.ownerPath itemKind symbol
              visitor.scopes visitor.implOwner visitor.traitOwner
            sourceSliceDigest := sha256Hex sha256 (utf8 sourceSlice) }

/-- The fact of an item. -/
def recordItem (sha256 : List UInt8 → List UInt8) (visitor : RustNestedItemFactVisitorV1)
    (item : Item) : Option RustNestedItemFactV1 :=
  (recordedAs item.declaration).bind fun recorded =>
    (visitor.atItem item.declaration).record sha256 recorded.1 recorded.2.text item.span
      item.attributes

mutual

/-- The items that are visited at and beneath a node, each with where the visit is
then. -/
def visits (visitor : RustNestedItemFactVisitorV1) :
    Node → List (RustNestedItemFactVisitorV1 × Item)
  | .item self head body =>
      (visitor, self) :: (visitsOf (visitor.beneath self.declaration) head ++
        visitsOf (visitor.beneath self.declaration) body)
  | .binding _ children => visitsOf visitor children
  | .expr _ _ children => visitsOf visitor children

/-- The items that are visited in a forest. -/
def visitsOf (visitor : RustNestedItemFactVisitorV1) :
    List Node → List (RustNestedItemFactVisitorV1 × Item)
  | [] => []
  | node :: rest => visits visitor node ++ visitsOf visitor rest

end

/-- The facts of a file, in the order of the visit. -/
def visitFile (sha256 : List UInt8 → List UInt8) (visitor : RustNestedItemFactVisitorV1)
    (nodes : List Node) : List RustNestedItemFactV1 :=
  (visitor.visitsOf nodes).filterMap fun visit => visit.1.recordItem sha256 visit.2

end RustNestedItemFactVisitorV1

/-- The order of facts: by range, then by kind and symbol. -/
def factOrder (left right : RustNestedItemFactV1) : Prop :=
  (((compare left.sourceByteStart right.sourceByteStart).then
    (compare left.sourceByteEnd right.sourceByteEnd)).then
    (compare left.itemKind right.itemKind)).then (compare left.symbol right.symbol) ≠ .gt

instance : DecidableRel factOrder := fun _ _ => inferInstanceAs (Decidable (_ ≠ _))

/-- The facts of an owner. -/
def rustNestedItemFactsV1 (sha256 : List UInt8 → List UInt8) (parser : RustParser)
    (ownerPath : String) (source : List Char) : Except String (List RustNestedItemFactV1) :=
  if ownerPath = "" then .error "Rust nested-item facts require an owner path"
  else
    match parser.parseFile source with
    | .error error => .error ("failed to parse Rust owner: " ++ error)
    | .ok nodes =>
        let visitor : RustNestedItemFactVisitorV1 := { ownerPath := ownerPath, source := source }
        .ok ((visitor.visitFile sha256 nodes).insertionSort factOrder)

/-- The text of the item that a fact is about. -/
def projectRustNestedItemCodeV1 (sha256 : List UInt8 → List UInt8) (source : List Char)
    (fact : RustNestedItemFactV1) : Except String (List Char) :=
  if fact.schemaId ≠ rustNestedItemFactSchemaId ∨
      fact.schemaVersion ≠ rustNestedItemFactSchemaVersion then
    .error "Rust nested-item fact contract mismatch"
  else
    match getRange? source fact.sourceByteStart fact.sourceByteEnd with
    | none => .error "Rust nested-item projection range is outside the owner source"
    | some projection =>
        if sha256Hex sha256 (utf8 projection) ≠ fact.sourceSliceDigest then
          .error "Rust nested-item projection digest mismatch"
        else .ok projection

/-! ## Ranges

The range of a fact is the range of a span, and it is looked up in the source.  An item
that is recorded has one that is there. -/

/-- A range around a span that has the attributes in it is the span's. -/
theorem sourceRange_eq {content : List Char} {item : Item} (h : item.ExactIn content) :
    sourceRange item.span item.attributes = (item.span.byteStart, item.span.byteEnd) := by
  have hinside := h.attributes
  unfold sourceRange
  generalize item.attributes = attributes at hinside ⊢
  induction attributes with
  | nil => rfl
  | cons a rest ih =>
      obtain ⟨hstart, hstop⟩ := hinside a List.mem_cons_self
      rw [List.foldl_cons, min_eq_left hstart, max_eq_left hstop]
      exact ih fun other hother => hinside other (List.mem_cons_of_mem _ hother)

/-- Items other than `use` declarations and token streams are recorded. -/
theorem exists_recordedAs_iff (declaration : Declaration) :
    (∃ recorded, recordedAs declaration = some recorded) ↔
      declaration ≠ .verbatim ∧ ∀ inherited tree, declaration ≠ .use inherited tree := by
  cases declaration <;> simp [recordedAs]

/-- The fact is about the item, and its range is where the item stands in the
source. -/
structure ExactFact (sha256 : List UInt8 → List UInt8) (parser : RustParser) (source : List Char)
    (item : Item) (fact : RustNestedItemFactV1) : Prop where
  recorded : ∃ symbol, recordedAs item.declaration = some (fact.itemKind, symbol) ∧
    symbol.text = fact.symbol
  start : fact.sourceByteStart = utf8Length (parser.removed source) + item.span.byteStart
  stop : fact.sourceByteEnd = utf8Length (parser.removed source) + item.span.byteEnd
  projects : ∃ own,
    StandsAt (parser.stripped source) own item.span.byteStart item.span.byteEnd ∧
      projectRustNestedItemCodeV1 sha256 source fact = .ok own

/-- The range of an item of the artifact is where an item stands in the source. -/
def ExactArtifact (parser : RustParser) (source : List Char) (nodes : List Node)
    (artifact : ParseArtifactItem) : Prop :=
  ∃ item ∈ Node.itemsOf nodes,
    artifact.sourceByteStart = utf8Length (parser.removed source) + item.span.byteStart ∧
    artifact.sourceByteEnd = utf8Length (parser.removed source) + item.span.byteEnd ∧
    ∃ own, StandsAt (parser.stripped source) own item.span.byteStart item.span.byteEnd ∧
      getRange? source artifact.sourceByteStart artifact.sourceByteEnd = some own

/-- Every item, top-level or nested, yields a fact of its own with the range at
which it stands in the source, and so do the items of the artifact. -/
def RangesExact (sha256 : List UInt8 → List UInt8) (parser : RustParser) (ownerPath : String)
    (source : List Char) (nodes : List Node) : Prop :=
  (∃ facts yielded, rustNestedItemFactsV1 sha256 parser ownerPath source = .ok facts ∧
    yielded.Perm facts ∧
    List.Forall₂ (ExactFact sha256 parser source) (Node.itemsOf nodes) yielded) ∧
  ∀ artifact ∈ collectParseArtifactItems nodes, ExactArtifact parser source nodes artifact

namespace RustNestedItemFactVisitorV1

mutual

/-- The visit of a node comes to its items in order. -/
theorem map_snd_visits (visitor : RustNestedItemFactVisitorV1) (node : Node) :
    (visitor.visits node).map Prod.snd = node.items := by
  cases node with
  | item self head body =>
      rw [visits, List.map_cons, List.map_append, map_snd_visitsOf _ head,
        map_snd_visitsOf _ body, Node.items_item]
  | binding span children => rw [visits, map_snd_visitsOf _ children, Node.items_binding]
  | expr kind span children => rw [visits, map_snd_visitsOf _ children, Node.items_expr]

theorem map_snd_visitsOf (visitor : RustNestedItemFactVisitorV1) (nodes : List Node) :
    (visitor.visitsOf nodes).map Prod.snd = Node.itemsOf nodes := by
  cases nodes with
  | nil => rw [visitsOf, Node.itemsOf_nil, List.map_nil]
  | cons node rest =>
      rw [visitsOf, List.map_append, map_snd_visits _ node, map_snd_visitsOf _ rest,
        Node.itemsOf_cons]

end

theorem source_beneath (visitor : RustNestedItemFactVisitorV1) (declaration : Declaration) :
    (visitor.beneath declaration).source = visitor.source := by
  cases declaration <;> rfl

mutual

/-- The source is the same throughout a visit. -/
theorem source_of_mem_visits {visitor : RustNestedItemFactVisitorV1} {node : Node}
    {visit : RustNestedItemFactVisitorV1 × Item} (h : visit ∈ visitor.visits node) :
    visit.1.source = visitor.source := by
  cases node with
  | item self head body =>
      rw [visits, List.mem_cons, List.mem_append] at h
      rcases h with rfl | h | h
      · rfl
      · exact (source_of_mem_visitsOf h).trans (visitor.source_beneath _)
      · exact (source_of_mem_visitsOf h).trans (visitor.source_beneath _)
  | binding span children =>
      rw [visits] at h
      exact source_of_mem_visitsOf h
  | expr kind span children =>
      rw [visits] at h
      exact source_of_mem_visitsOf h

theorem source_of_mem_visitsOf {visitor : RustNestedItemFactVisitorV1} {nodes : List Node}
    {visit : RustNestedItemFactVisitorV1 × Item} (h : visit ∈ visitor.visitsOf nodes) :
    visit.1.source = visitor.source := by
  cases nodes with
  | nil =>
      rw [visitsOf] at h
      cases h
  | cons node rest =>
      rw [visitsOf, List.mem_append] at h
      rcases h with h | h
      · exact source_of_mem_visits h
      · exact source_of_mem_visitsOf h

end

theorem source_atItem (visitor : RustNestedItemFactVisitorV1) (declaration : Declaration) :
    (visitor.atItem declaration).source = visitor.source := by
  cases declaration <;> rfl

/-- What a recorded fact has: it is about the item, and has what the visitor has. -/
theorem exists_of_recordItem {sha256 : List UInt8 → List UInt8}
    {visitor : RustNestedItemFactVisitorV1} {item : Item} {fact : RustNestedItemFactV1}
    (h : visitor.recordItem sha256 item = some fact) :
    ∃ symbol own, recordedAs item.declaration = some (fact.itemKind, symbol) ∧
      fact =
        { schemaId := rustNestedItemFactSchemaId
          schemaVersion := rustNestedItemFactSchemaVersion
          ownerPath := (visitor.atItem item.declaration).ownerPath
          itemKind := fact.itemKind
          symbol := symbol.text
          scopes := (visitor.atItem item.declaration).scopes
          implOwner := (visitor.atItem item.declaration).implOwner
          traitOwner := (visitor.atItem item.declaration).traitOwner
          sourceByteStart := (sourceRange item.span item.attributes).1
          sourceByteEnd := (sourceRange item.span item.attributes).2
          identityDigest := nestedItemIdentityDigest sha256
            (visitor.atItem item.declaration).ownerPath fact.itemKind symbol.text
            (visitor.atItem item.declaration).scopes
            (visitor.atItem item.declaration).implOwner
            (visitor.atItem item.declaration).traitOwner
          sourceSliceDigest := sha256Hex sha256 (utf8 own) } := by
  obtain ⟨⟨itemKind, symbol⟩, hrecorded, h⟩ := Option.bind_eq_some_iff.mp h
  rw [record, if_neg symbol.nonempty] at h
  dsimp only at h
  split at h
  · cases h
  · next own _ =>
      cases h
      exact ⟨symbol, own, hrecorded, rfl⟩

/-- A recorded fact has the range of the item's span, counted from where tokenizing
began. -/
theorem range_of_recordItem {sha256 : List UInt8 → List UInt8}
    {visitor : RustNestedItemFactVisitorV1} {content : List Char} {item : Item}
    {fact : RustNestedItemFactV1} (hexact : item.ExactIn content)
    (h : visitor.recordItem sha256 item = some fact) :
    fact.sourceByteStart = item.span.byteStart := by
  obtain ⟨symbol, own, -, hfact⟩ := exists_of_recordItem h
  rw [hfact, sourceRange_eq hexact]

/-- An item is recorded when its kind is, and when the range is one of the source;
the fact then projects to what stands there. -/
theorem recordItem_eq_some (sha256 : List UInt8 → List UInt8)
    {visitor : RustNestedItemFactVisitorV1} {item : Item} {content own : List Char}
    (hkind : ∃ recorded, recordedAs item.declaration = some recorded)
    (hexact : item.ExactIn content)
    (hown : getRange? visitor.source item.span.byteStart item.span.byteEnd = some own) :
    ∃ fact, visitor.recordItem sha256 item = some fact ∧
      (∃ symbol, recordedAs item.declaration = some (fact.itemKind, symbol) ∧
        symbol.text = fact.symbol) ∧
      fact.sourceByteStart = item.span.byteStart ∧ fact.sourceByteEnd = item.span.byteEnd ∧
      projectRustNestedItemCodeV1 sha256 visitor.source fact = .ok own := by
  obtain ⟨⟨kind, symbol⟩, hrecorded⟩ := hkind
  rw [recordItem, hrecorded, Option.bind_some, record, if_neg symbol.nonempty,
    sourceRange_eq hexact, source_atItem]
  simp only [hown]
  refine ⟨_, rfl, ⟨symbol, rfl, rfl⟩, rfl, rfl, ?_⟩
  simp [projectRustNestedItemCodeV1, hown]

end RustNestedItemFactVisitorV1

/-! ## The artifact

The artifact of the source is made of the same items, so its items stand at spans as
well. -/

theorem mem_itemsOf_of_mem {self : Item} {head body nodes : List Node}
    (h : Node.item self head body ∈ nodes) : self ∈ Node.itemsOf nodes := by
  induction nodes with
  | nil => cases h
  | cons node rest ih =>
      rw [Node.itemsOf_cons, List.mem_append]
      rcases List.mem_cons.mp h with rfl | h
      · exact .inl (by simp)
      · exact .inr (ih h)

/-- The artifact has the range of the item. -/
def AtSpan (artifact : ParseArtifactItem) (item : Item) : Prop :=
  artifact.sourceByteStart = item.span.byteStart ∧ artifact.sourceByteEnd = item.span.byteEnd

/-- An item and what some items of its body give are at spans of it and its body. -/
theorem exists_atSpan_of_members {self : Item} {body : List Node} {first artifact : ParseArtifactItem}
    {member : Node → Option ParseArtifactItem} (hfirst : AtSpan first self)
    (hmember : ∀ node given, member node = some given →
      ∃ item head nodes, node = Node.item item head nodes ∧ AtSpan given item)
    (h : artifact ∈ first :: body.filterMap member) :
    ∃ item ∈ self :: Node.itemsOf body, AtSpan artifact item := by
  rcases List.mem_cons.mp h with rfl | h
  · exact ⟨self, List.mem_cons_self, hfirst⟩
  · obtain ⟨node, hnode, hgiven⟩ := List.mem_filterMap.mp h
    obtain ⟨item, head, nodes, rfl, hat⟩ := hmember node artifact hgiven
    exact ⟨item, List.mem_cons_of_mem _ (mem_itemsOf_of_mem hnode), hat⟩

theorem exists_atSpan_of_impl {self : Item} {selfType : TokenText} {traitPath : Option TokenText}
    {body : List Node} {artifact : ParseArtifactItem}
    (h : artifact ∈ collectImplParseArtifactItems self selfType traitPath body) :
    ∃ item ∈ self :: Node.itemsOf body, AtSpan artifact item := by
  refine exists_atSpan_of_members ⟨rfl, rfl⟩ ?_ h
  intro node given hgiven
  split at hgiven
  · cases hgiven
    exact ⟨_, _, _, rfl, rfl, rfl⟩
  · cases hgiven

theorem exists_atSpan_of_trait {self : Item} {ident : TokenText} {body : List Node}
    {artifact : ParseArtifactItem}
    (h : artifact ∈ collectTraitParseArtifactItems self ident body) :
    ∃ item ∈ self :: Node.itemsOf body, AtSpan artifact item := by
  refine exists_atSpan_of_members ⟨rfl, rfl⟩ ?_ h
  intro node given hgiven
  split at hgiven
  · cases hgiven
    exact ⟨_, _, _, rfl, rfl, rfl⟩
  · cases hgiven

mutual

/-- What an item of a file gives is at the span of an item at or beneath it. -/
theorem exists_atSpan_of_node {node : Node} {artifact : ParseArtifactItem}
    (h : artifact ∈ collectParseArtifactItem node) : ∃ item ∈ node.items, AtSpan artifact item := by
  cases node with
  | item self head body =>
      have hself : AtSpan artifact self → ∃ item ∈ (Node.item self head body).items,
          AtSpan artifact item := fun hat => ⟨self, by simp, hat⟩
      have hbody : (∃ item ∈ self :: Node.itemsOf body, AtSpan artifact item) →
          ∃ item ∈ (Node.item self head body).items, AtSpan artifact item := by
        rintro ⟨item, hmem, hat⟩
        refine ⟨item, ?_, hat⟩
        rw [Node.items_item, List.mem_cons, List.mem_append]
        exact (List.mem_cons.mp hmem).imp_right .inr
      have hone : ∀ kind ident, artifact = parseArtifactItem kind ident self →
          ∃ item ∈ (Node.item self head body).items, AtSpan artifact item := by
        rintro kind ident rfl
        exact hself ⟨rfl, rfl⟩
      rw [collectParseArtifactItem] at h
      cases hdeclaration : self.declaration with
      | mod ident =>
          rw [hdeclaration] at h
          rcases List.mem_cons.mp h with hfirst | h
          · exact hone _ _ hfirst
          · obtain ⟨item, hmem, hat⟩ := exists_atSpan_of_nodes h
            exact hbody ⟨item, List.mem_cons_of_mem _ hmem, hat⟩
      | impl selfType traitPath =>
          rw [hdeclaration] at h
          exact hbody (exists_atSpan_of_impl h)
      | trait ident =>
          rw [hdeclaration] at h
          exact hbody (exists_atSpan_of_trait h)
      | use inherited tree =>
          rw [hdeclaration] at h
          cases inherited with
          | true => cases h
          | false =>
              obtain ⟨name, -, rfl⟩ := List.mem_map.mp h
              exact hself ⟨rfl, rfl⟩
      | macroItem ident path =>
          rw [hdeclaration] at h
          obtain ⟨name, -, rfl⟩ := List.mem_map.mp h
          exact hself ⟨rfl, rfl⟩
      | function signature =>
          rw [hdeclaration] at h
          obtain rfl := List.mem_singleton.mp h
          exact hself ⟨rfl, rfl⟩
      | const ident | enum ident | static ident | struct ident | traitAlias ident
      | typeAlias ident | union ident =>
          rw [hdeclaration] at h
          exact hone _ _ (List.mem_singleton.mp h)
      | _ =>
          rw [hdeclaration] at h
          cases h
  | binding span children => simp [collectParseArtifactItem] at h
  | expr kind span children => simp [collectParseArtifactItem] at h

theorem exists_atSpan_of_nodes {nodes : List Node} {artifact : ParseArtifactItem}
    (h : artifact ∈ collectParseArtifactItems nodes) :
    ∃ item ∈ Node.itemsOf nodes, AtSpan artifact item := by
  cases nodes with
  | nil => simp [collectParseArtifactItems] at h
  | cons node rest =>
      rw [collectParseArtifactItems, List.mem_append] at h
      rw [Node.itemsOf_cons]
      rcases h with h | h
      · obtain ⟨item, hmem, hat⟩ := exists_atSpan_of_node h
        exact ⟨item, List.mem_append_left _ hmem, hat⟩
      · obtain ⟨item, hmem, hat⟩ := exists_atSpan_of_nodes h
        exact ⟨item, List.mem_append_right _ hmem, hat⟩

end

/-! ## When the ranges are exact

If the ranges are exact, their starts add up to what the items' places add up to, so
nothing was taken away in front unless there are no items.  And since every item gives a
fact then, none of them is of the two kinds that give none. -/

section Exact

variable {sha256 : List UInt8 → List UInt8} {parser : RustParser} {ownerPath : String}
  {source : List Char} {nodes : List Node}

/-- The text is empty when it has no bytes. -/
theorem eq_nil_of_utf8Length_eq_zero {text : List Char} (h : utf8Length text = 0) : text = [] := by
  cases text with
  | nil => rfl
  | cons c rest =>
      rw [utf8Length_cons] at h
      have hpos := Char.utf8Size_pos c
      omega

/-- Where as many facts as items are recorded, the starts of the facts are those of
the spans. -/
theorem starts_of_visitFile {visitor : RustNestedItemFactVisitorV1} {content : List Char}
    (hexact : ∀ item ∈ Node.itemsOf nodes, item.ExactIn content)
    (hlength : (visitor.visitFile sha256 nodes).length = (Node.itemsOf nodes).length) :
    (visitor.visitFile sha256 nodes).map RustNestedItemFactV1.sourceByteStart =
      (Node.itemsOf nodes).map fun item => item.span.byteStart := by
  rw [← visitor.map_snd_visitsOf nodes] at hexact hlength ⊢
  rw [RustNestedItemFactVisitorV1.visitFile] at hlength ⊢
  generalize visitor.visitsOf nodes = visits at hexact hlength ⊢
  induction visits with
  | nil => rfl
  | cons visit rest ih =>
      have hrest := ih fun item hmem => hexact item (List.mem_cons_of_mem _ hmem)
      cases hfact : visit.1.recordItem sha256 visit.2 with
      | none =>
          simp only [List.filterMap_cons, hfact, List.map_cons, List.length_cons, List.length_map]
            at hlength
          have hle := List.length_filterMap_le
            (fun visit : RustNestedItemFactVisitorV1 × Item => visit.1.recordItem sha256 visit.2)
            rest
          omega
      | some fact =>
          simp only [List.filterMap_cons, hfact, List.map_cons, List.length_cons,
            Nat.add_right_cancel_iff] at hlength
          have hstart := RustNestedItemFactVisitorV1.range_of_recordItem
            (hexact visit.2 (by simp)) hfact
          simp only [List.filterMap_cons, hfact, List.map_cons, hstart, hrest hlength]

/-- Items that are all recorded, in a source of which nothing was taken away, yield
exact facts. -/
theorem forall₂_exactFact {visitor : RustNestedItemFactVisitorV1}
    (hsource : visitor.source = source) (hremoved : parser.removed source = [])
    (hexact : ∀ item ∈ Node.itemsOf nodes, item.ExactIn (parser.stripped source))
    (hkinds : ∀ item ∈ Node.itemsOf nodes,
      ∃ recorded, recordedAs item.declaration = some recorded) :
    List.Forall₂ (ExactFact sha256 parser source) (Node.itemsOf nodes)
      (visitor.visitFile sha256 nodes) := by
  have hstripped : parser.stripped source = source := parser.stripped_of_removed hremoved
  have hsources : ∀ visit ∈ visitor.visitsOf nodes, visit.1.source = source := fun visit hmem =>
    (RustNestedItemFactVisitorV1.source_of_mem_visitsOf hmem).trans hsource
  rw [← visitor.map_snd_visitsOf nodes] at hexact hkinds ⊢
  rw [RustNestedItemFactVisitorV1.visitFile]
  generalize visitor.visitsOf nodes = visits at hexact hkinds hsources ⊢
  induction visits with
  | nil => exact .nil
  | cons visit rest ih =>
      have hitem := hexact visit.2 (by simp)
      obtain ⟨own, hown⟩ := hitem.standsAt
      have hslice : getRange? visit.1.source visit.2.span.byteStart visit.2.span.byteEnd =
          some own := by
        rw [hsources visit List.mem_cons_self, ← hstripped]
        exact getRange?_eq_some_iff.mpr hown
      obtain ⟨fact, hfact, hrecorded, hstart, hstop, hproject⟩ :=
        RustNestedItemFactVisitorV1.recordItem_eq_some sha256 (hkinds visit.2 (by simp)) hitem hslice
      simp only [List.filterMap_cons, hfact, List.map_cons]
      refine .cons ⟨hrecorded, ?_, ?_, own, hown, ?_⟩ ?_
      · rw [hremoved, utf8Length_nil, Nat.zero_add, hstart]
      · rw [hremoved, utf8Length_nil, Nat.zero_add, hstop]
      · rw [← hsources visit List.mem_cons_self]
        exact hproject
      · exact ih (fun item hmem => hexact item (List.mem_cons_of_mem _ hmem))
          (fun item hmem => hkinds item (List.mem_cons_of_mem _ hmem))
          fun other hother => hsources other (List.mem_cons_of_mem _ hother)

/-- The starts of exact facts are those of the spans, each moved by what was taken
away. -/
theorem sum_starts_of_exactFacts {items : List Item} {facts : List RustNestedItemFactV1}
    (h : List.Forall₂ (ExactFact sha256 parser source) items facts) :
    (facts.map RustNestedItemFactV1.sourceByteStart).sum =
      items.length * utf8Length (parser.removed source) +
        (items.map fun item => item.span.byteStart).sum := by
  induction h with
  | nil => simp
  | cons hexact _ ih =>
      rw [List.map_cons, List.sum_cons, ih, hexact.start, List.length_cons, List.map_cons,
        List.sum_cons]
      ring

/-- Items with exact facts are recorded. -/
theorem recorded_of_exactFacts {items : List Item} {facts : List RustNestedItemFactV1}
    (h : List.Forall₂ (ExactFact sha256 parser source) items facts) :
    ∀ item ∈ items, ∃ recorded, recordedAs item.declaration = some recorded := by
  induction h with
  | nil => simp
  | cons hexact _ ih =>
      obtain ⟨symbol, hrecorded, -⟩ := hexact.recorded
      exact List.forall_mem_cons.mpr ⟨⟨_, hrecorded⟩, ih⟩

/-- With nothing taken away, the items of the artifact are where their items
stand. -/
theorem exactArtifact_of_removed (hremoved : parser.removed source = [])
    (hexact : ∀ item ∈ Node.itemsOf nodes, item.ExactIn (parser.stripped source))
    {artifact : ParseArtifactItem} (hartifact : artifact ∈ collectParseArtifactItems nodes) :
    ExactArtifact parser source nodes artifact := by
  have hstripped : parser.stripped source = source := parser.stripped_of_removed hremoved
  obtain ⟨item, hitem, hstart, hstop⟩ := exists_atSpan_of_nodes hartifact
  obtain ⟨own, hown⟩ := (hexact item hitem).standsAt
  refine ⟨item, hitem, ?_, ?_, own, hown, ?_⟩
  · rw [hremoved, utf8Length_nil, Nat.zero_add, hstart]
  · rw [hremoved, utf8Length_nil, Nat.zero_add, hstop]
  · rw [hstart, hstop]
    rw [hstripped] at hown
    exact getRange?_eq_some_iff.mpr hown

/-- **Exact ranges.**  Every item yields a fact with the range at which it stands in the
source, exactly when nothing was taken away before tokenizing, unless there are no
items, and when no item is a `use` declaration or kept as tokens.

The ranges count from the start of the tokenized text, which is the source without a
byte-order mark and without a shebang line.  The other two kinds of items have no visit
of their own and give no fact. -/
theorem itemRanges_exact_iff (sha256 : List UInt8 → List UInt8) (parser : RustParser)
    {ownerPath : String} {source : List Char} {nodes : List Node} (howner : ownerPath ≠ "")
    (hparse : parser.parseFile source = .ok nodes) :
    RangesExact sha256 parser ownerPath source nodes ↔
      (parser.removed source = [] ∨ Node.itemsOf nodes = []) ∧
        ∀ item ∈ Node.itemsOf nodes, item.declaration ≠ .verbatim ∧
          ∀ inherited tree, item.declaration ≠ .use inherited tree := by
  have hexact : ∀ item ∈ Node.itemsOf nodes, item.ExactIn (parser.stripped source) :=
    parser.exact_spans hparse
  have hfacts : rustNestedItemFactsV1 sha256 parser ownerPath source =
      .ok ((RustNestedItemFactVisitorV1.visitFile sha256
        { ownerPath := ownerPath, source := source } nodes).insertionSort factOrder) := by
    rw [rustNestedItemFactsV1, if_neg howner, hparse]
  constructor
  · rintro ⟨⟨facts, yielded, hok, hperm, hall⟩, -⟩
    rw [hfacts, Except.ok.injEq] at hok
    subst hok
    have hvisit := hperm.trans (List.perm_insertionSort factOrder _)
    refine ⟨?_, ?_⟩
    · -- the sum of the starts moves with every item, and sorting leaves it as it is
      have hstarts := starts_of_visitFile hexact (hvisit.length_eq.symm.trans hall.length_eq.symm)
      have hsum := (hvisit.map RustNestedItemFactV1.sourceByteStart).sum_nat
      rw [hstarts, sum_starts_of_exactFacts hall] at hsum
      rcases Nat.mul_eq_zero.mp (show (Node.itemsOf nodes).length *
          utf8Length (parser.removed source) = 0 by omega) with hnone | hnone
      · exact .inr (List.eq_nil_of_length_eq_zero hnone)
      · exact .inl (eq_nil_of_utf8Length_eq_zero hnone)
    · intro item hmem
      exact (exists_recordedAs_iff _).mp (recorded_of_exactFacts hall item hmem)
  · rintro ⟨hremoved | hnone, hkinds⟩
    · refine ⟨⟨_, _, hfacts, (List.perm_insertionSort factOrder _).symm, ?_⟩, ?_⟩
      · exact forall₂_exactFact rfl hremoved hexact fun item hmem =>
          (exists_recordedAs_iff _).mpr (hkinds item hmem)
      · exact fun artifact hartifact => exactArtifact_of_removed hremoved hexact hartifact
    · refine ⟨⟨_, _, hfacts, (List.perm_insertionSort factOrder _).symm, ?_⟩, ?_⟩
      · rw [RustNestedItemFactVisitorV1.visitFile, List.map_eq_nil_iff.mp
          ((RustNestedItemFactVisitorV1.map_snd_visitsOf _ nodes).trans hnone), hnone]
        exact .nil
      · intro artifact hartifact
        obtain ⟨item, hitem, -⟩ := exists_atSpan_of_nodes hartifact
        rw [hnone] at hitem
        cases hitem

end Exact

/-! ## A function after a byte-order mark -/

/-- A function whose name takes two bytes. -/
def accentedFunction : List Char := "fn é()\x7b\x7d".toList

/-- The item of this text. -/
def accentedItem : Item where
  declaration := .function { ident := ⟨"é", by decide⟩ }
  span := ⟨0, 9, ⟨1, 0⟩, ⟨1, 8⟩⟩

/-- The digests of the text, of as many bytes after a byte-order mark, and of the
identity of the function. -/
def accentedSha256 (message : List UInt8) : List UInt8 :=
  if message = utf8 accentedFunction then
    [0x14, 0xD4, 0xF2, 0xD9, 0x38, 0x00, 0xDE, 0xB8, 0xD4, 0xDD, 0x42, 0x6E, 0x84, 0xC5, 0x50,
     0xFF, 0x5E, 0xF3, 0xEE, 0x0F, 0xCD, 0x25, 0x34, 0xAC, 0x21, 0x3B, 0xE4, 0x6B, 0xEB, 0x19,
     0x2C, 0x00]
  else if message = utf8 ('\ufeff' :: accentedFunction.take 5) then
    [0xD0, 0xD6, 0x02, 0x00, 0x67, 0x32, 0xFD, 0x2C, 0x4D, 0x84, 0x7F, 0x21, 0xEF, 0x4D, 0xD6,
     0xAC, 0x51, 0x92, 0x95, 0x50, 0x1C, 0xB6, 0x73, 0x4F, 0x26, 0xA2, 0xF4, 0xAF, 0xAF, 0x4F,
     0xCD, 0x7E]
  else
    [0xA7, 0xA9, 0xD9, 0x96, 0x4E, 0x2B, 0xF9, 0xF3, 0x56, 0x5B, 0x93, 0x23, 0xF2, 0x43, 0x1F,
     0x30, 0x7E, 0x5A, 0x21, 0x76, 0xAE, 0xBB, 0x34, 0xB9, 0x43, 0x7D, 0x9D, 0x17, 0x96, 0x2D,
     0xC6, 0xE4]

/-- A parser that knows the text, with or without something to take away in front
of it. -/
def accentedParser (removed : List Char) : RustParser :=
  .knowing removed accentedFunction [.item accentedItem [] []] (by decide +kernel)

theorem itemRanges_exact_accented :
    RangesExact accentedSha256 (accentedParser []) "src/lib.rs" accentedFunction
      [.item accentedItem [] []] :=
  (itemRanges_exact_iff accentedSha256 (accentedParser []) (by decide) rfl).mpr
    ⟨.inl (by decide +kernel), by simp [accentedItem]⟩

/-- After a byte-order mark the fact of the function starts at the mark. -/
theorem itemRanges_after_byteOrderMark :
    ¬ ∀ (sha256 : List UInt8 → List UInt8) (parser : RustParser) (ownerPath : String)
      (source : List Char) (nodes : List Node), ownerPath ≠ "" →
      parser.parseFile source = .ok nodes →
      RangesExact sha256 parser ownerPath source nodes := by
  intro h
  obtain ⟨⟨facts, yielded, hfacts, hperm, hall⟩, -⟩ :=
    h accentedSha256 (accentedParser ['\ufeff']) "src/lib.rs" ('\ufeff' :: accentedFunction)
      [.item accentedItem [] []] (by decide) rfl
  have hfirst : ∀ fact ∈ facts, fact.sourceByteStart = 0 := by
    obtain rfl := Except.ok.inj hfacts
    decide +kernel
  rw [Node.itemsOf_cons, Node.items_item, Node.itemsOf_nil] at hall
  cases hall with
  | cons hexact _ =>
      have hzero := hfirst _ (hperm.subset List.mem_cons_self)
      have hmark : utf8Length ((accentedParser ['\ufeff']).removed
          ('\ufeff' :: accentedFunction)) = 3 := by decide +kernel
      have hstart := hexact.start
      omega

end AspRust.Provider
