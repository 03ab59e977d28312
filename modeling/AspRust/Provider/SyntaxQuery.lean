import AspRust.Foundation.OrderedMap
import AspRust.Provider.LineColumns
import AspRust.Provider.ParseArtifact
import Mathlib.Data.List.Flatten
import Mathlib.Data.Prod.Lex
import Mathlib.Data.String.Basic

/-!
# Syntax queries

A query has patterns, each with the node types it looks for and the names of its captures,
and predicates on captures.  It is answered from the top-level items of the owner: an item
whose kind a pattern asks for, and whose name the predicates accept, gives one capture for
each capture name.

The selector of a capture comes from the parse artifact of the same source.  It is looked
up by kind and name among the artifact items without scopes, and an item that is not found
there is passed over.  The predicate of a `cfg` attribute is a scope, so an item with one is
passed over unless the file has a namesake of the same kind without; and a macro
definition, which the item facts give no name, always is.  `captures_complete_iff` says that
nothing else is lost.

### What is load-bearing

An item is looked up in the artifact by kind and name, among the items without scopes, and the
last one of a kind and name counts.  So whether an item is found does not depend on the item but
on its namesakes (`FoundInArtifact`), and the condition of completeness is about those.

The matcher of a regular expression is a parameter; a pattern that it refuses is a refusal of the
query.  Ranges are not part of completeness: they are the subject of `CaptureRanges`.
-/

namespace AspRust.Provider

open AspRust.Foundation

/-! ## Requests and responses -/

structure SyntaxQueryPattern where
  index : ℕ
  captures : List String
  nodeTypes : List String
  fields : List String := []
deriving DecidableEq, Repr

inductive SyntaxQueryPredicateOp where
  | eq
  | anyEq
  | anyOf
  | matches
  | anyMatch
  | notEq
  | notMatch
deriving DecidableEq, Repr

inductive SyntaxQueryPredicateValue where
  | string (value : String)
  | capture (name : String)
deriving DecidableEq, Repr

structure SyntaxQueryPredicate where
  op : SyntaxQueryPredicateOp
  capture : String
  values : List SyntaxQueryPredicateValue
deriving DecidableEq, Repr

structure SyntaxQueryPlan where
  patterns : List SyntaxQueryPattern
  predicates : List SyntaxQueryPredicate := []
deriving DecidableEq, Repr

structure ProviderSyntaxQueryRequest where
  schemaId : String
  schemaVersion : String
  languageId : String
  providerId : String
  ownerPath : String
  sourceContentDigest : String
  queryDigest : String
  source : List Char
  plan : SyntaxQueryPlan
deriving DecidableEq, Repr

structure ProviderSyntaxQueryCapture where
  patternIndex : ℕ
  captureName : String
  nativeFactRef : String
  structuralSelector : String
  sourceByteStart : ℕ
  sourceByteEnd : ℕ
deriving DecidableEq, Repr

structure ProviderSyntaxQueryResponse where
  schemaId : String
  schemaVersion : String
  languageId : String
  providerId : String
  ownerPath : String
  sourceContentDigest : String
  queryDigest : String
  parsed : Bool
  captures : List ProviderSyntaxQueryCapture
deriving DecidableEq, Repr

/-! ## Item facts

What a query reads of a top-level item: its kind, the name it gives if it gives one, and
where it stands. -/

/-- What a query reads of a top-level item. -/
structure TopLevelItem where
  line : ℕ
  endLine : ℕ
  kind : String
  name : Option String
deriving DecidableEq, Repr

/-- The kind of an item in the item facts. -/
def itemKind : Declaration → String
  | .const _ => "const"
  | .enum _ => "enum"
  | .function _ => "fn"
  | .impl _ _ => "impl"
  | .macroItem _ _ => "macro"
  | .mod _ => "mod"
  | .static _ => "static"
  | .struct _ => "struct"
  | .trait _ => "trait"
  | .traitAlias _ => "trait_alias"
  | .typeAlias _ => "type"
  | .union _ => "union"
  | .use _ _ => "use"
  | _ => "item"

/-- The name of an item in the item facts.  A macro definition has none there. -/
def itemName : Declaration → Option TokenText
  | .const ident => some ident
  | .enum ident => some ident
  | .externCrate ident => some ident
  | .function signature => some signature.ident
  | .mod ident => some ident
  | .static ident => some ident
  | .struct ident => some ident
  | .trait ident => some ident
  | .traitAlias ident => some ident
  | .typeAlias ident => some ident
  | .union ident => some ident
  | _ => none

/-- The facts of one item. -/
def topLevelItemSyntax (item : Item) : TopLevelItem :=
  let startLine := max item.span.start.line 1
  { line := startLine
    endLine := max item.span.stop.line startLine
    kind := itemKind item.declaration
    name := (itemName item.declaration).map TokenText.text }

/-- The items at the top level of a file. -/
def topLevelItems (nodes : List Node) : List Item :=
  nodes.filterMap fun node =>
    match node with
    | .item item _ _ => some item
    | _ => none

/-! ## Patterns and predicates

A pattern asks for kinds of items by the node types of its query, and a predicate
compares the name of an item with a text, or matches it. -/

/-- The pairs of a node type and the item kinds it asks for. -/
def nodeTypeKinds : List (String × List String) :=
  [("function_item", ["fn", "function"]), ("struct_item", ["struct"]), ("enum_item", ["enum"]),
    ("trait_item", ["trait"]), ("impl_item", ["impl"]), ("mod_item", ["mod"]),
    ("use_declaration", ["use"]), ("const_item", ["const"]), ("static_item", ["static"]),
    ("type_item", ["type"]), ("macro_definition", ["macro"])]

def patternMatchesItem (pattern : SyntaxQueryPattern) (itemKind : String) : Bool :=
  pattern.nodeTypes.any fun nodeType =>
    nodeTypeKinds.any fun entry => entry.1 = nodeType && itemKind ∈ entry.2

section Predicates

-- the compiler of regular expressions: an error text, or the test of a text
variable (regex : String → Except String (String → Bool))

/-- The tests of several expressions on one text; the first that does not compile is an
error. -/
def regexMatches (values : List String) (actual : String) : Outcome (List Bool) :=
  values.mapM fun value =>
    match regex value with
    | .error error => .error (.returned ("invalid syntax-query predicate regex: " ++ error))
    | .ok test => .ok (test actual)

/-- One predicate on the name of an item; a capture stands for the name itself. -/
def predicateMatches (predicate : SyntaxQueryPredicate) (actual : String) : Outcome Bool :=
  let values := predicate.values.map fun value =>
    match value with
    | .string value => value
    | .capture _ => actual
  match predicate.op with
  | .eq | .anyEq | .anyOf => .ok (actual ∈ values)
  | .matches | .anyMatch => (regexMatches regex values actual).map fun results => results.any id
  | .notEq => .ok (values.all fun value => value ≠ actual)
  | .notMatch => (regexMatches regex values actual).map fun results => results.all fun r => !r

/-- The predicates on captures of the pattern; after one that fails, the others are not
looked at. -/
def predicatesMatchItem (predicates : List SyntaxQueryPredicate)
    (patternCaptureNames : List String) (itemName : Option String) : Outcome Bool :=
  (predicates.filter fun predicate => predicate.capture ∈ patternCaptureNames).foldlM
    (fun matched predicate =>
      if matched then predicateMatches regex predicate (itemName.getD "") else .ok false) true

end Predicates

/-! ## Captures

The answer of the source: for each pattern its matched items in order, and for each item
a capture for every capture name, with the range that is found in the text. -/

/-- The byte ranges of the lines of a text, from an offset on. -/
def lineRangesFrom : ℕ → List (List Char) → List (ℕ × ℕ)
  | _, [] => []
  | offset, line :: rest =>
      (offset, offset + utf8Length line) :: lineRangesFrom (offset + utf8Length line) rest

def lineByteRange (source : List Char) (startLine endLine : ℕ) : ℕ × ℕ :=
  let lineEnds := lineRangesFrom 0 (splitInclusive source)
  let start := (lineEnds[startLine - 1]?.map Prod.fst).getD 0
  let stop := (lineEnds[endLine - 1]?.map Prod.snd).getD (utf8Length source)
  (min start (utf8Length source), min stop (utf8Length source))

/-- The bytes a capture covers: the first place in the lines of the item at which its name
occurs, for a capture whose name ends in `name`, and otherwise the lines. -/
def captureSourceRange (source : List Char) (itemStart itemEnd : ℕ) (captureName : String)
    (itemName : Option String) : Outcome (ℕ × ℕ) :=
  if !"name".toList.isSuffixOf captureName.toList then .ok (itemStart, itemEnd)
  else
    match itemName with
    | none => .ok (itemStart, itemEnd)
    | some name =>
        match getRange? source itemStart itemEnd with
        | none => .error (.panicked "byte index is out of bounds or not a char boundary")
        | some text =>
            match findSlice name.toList text with
            | none => .ok (itemStart, itemEnd)
            | some position =>
                let offset := utf8Length (text.take position)
                .ok (itemStart + offset, itemStart + offset + utf8Length name.toList)

/-- The kind of the artifact item for a kind of the item facts. -/
def canonicalKind (kind : String) : String :=
  if kind = "fn" then "function"
  else if kind = "mod" then "module"
  else if kind = "trait_alias" then "trait-alias"
  else kind

/-- The artifact items without scopes, by kind and symbol; of several the last stays. -/
def exactItemIndex (exactItems : List ParseArtifactItem) :
    OrderedMap (String ×ₗ String) ParseArtifactItem :=
  OrderedMap.insertAll (fun item => toLex (item.identity.kind, item.identity.symbol)) id
    (exactItems.filter fun item => item.identity.scopes = []) ∅

/-- The reference to the facts of an item. -/
def nativeFactRef (ownerPath : String) (item : TopLevelItem) (name : String) : String :=
  "rust:item:" ++ ownerPath ++ ":" ++ toString item.line ++ ":" ++ toString item.endLine ++ ":" ++
    name

section Collection

variable (regex : String → Except String (String → Bool))

/-- One capture of an item. -/
def itemCapture (request : ProviderSyntaxQueryRequest) (pattern : SyntaxQueryPattern)
    (item : TopLevelItem) (name : String) (exactItem : ParseArtifactItem)
    (captureName : String) : Outcome ProviderSyntaxQueryCapture :=
  let lines := lineByteRange request.source item.line item.endLine
  (captureSourceRange request.source lines.1 lines.2 captureName item.name).map fun range =>
    { patternIndex := pattern.index
      captureName := captureName
      nativeFactRef := nativeFactRef request.ownerPath item name
      structuralSelector := structuralSelector "rust" request.ownerPath exactItem.identity
      sourceByteStart := range.1
      sourceByteEnd := range.2 }

/-- The pattern asks for the kind of the item, and the predicates accept its name. -/
def itemMatches (request : ProviderSyntaxQueryRequest) (pattern : SyntaxQueryPattern)
    (item : TopLevelItem) : Outcome Bool :=
  if patternMatchesItem pattern item.kind then
    predicatesMatchItem regex request.plan.predicates pattern.captures item.name
  else .ok false

/-- The captures of an item that matches; there are none for an item that has no name or
is not in the index. -/
def matchedItemCaptures (request : ProviderSyntaxQueryRequest)
    (index : OrderedMap (String ×ₗ String) ParseArtifactItem) (pattern : SyntaxQueryPattern)
    (item : TopLevelItem) : Outcome (List ProviderSyntaxQueryCapture) :=
  match item.name with
  | none => .ok []
  | some name =>
      match index.get? (toLex (canonicalKind item.kind, name)) with
      | none => .ok []
      | some exactItem => pattern.captures.mapM (itemCapture request pattern item name exactItem)

/-- The captures that one item gives for one pattern. -/
def itemCaptures (request : ProviderSyntaxQueryRequest)
    (index : OrderedMap (String ×ₗ String) ParseArtifactItem) (pattern : SyntaxQueryPattern)
    (item : TopLevelItem) : Outcome (List ProviderSyntaxQueryCapture) := do
  let matched ← itemMatches regex request pattern item
  if matched then matchedItemCaptures request index pattern item else pure []

/-- The captures of a query, pattern by pattern and then item by item. -/
def collectPatternItemCaptures (parser : RustParser) (request : ProviderSyntaxQueryRequest)
    (items : List TopLevelItem) : Outcome (List ProviderSyntaxQueryCapture) :=
  match parseOwnerItemsV1 parser request.source with
  | .error error => .error (.returned error)
  | .ok exactItems => do
      let captures ← request.plan.patterns.mapM fun pattern => do
        let captures ← items.mapM (itemCaptures regex request (exactItemIndex exactItems) pattern)
        pure captures.flatten
      pure captures.flatten

/-- The answer to a decoded request. -/
def handleSyntaxQueryOperation (blake3 : List Char → String) (parser : RustParser)
    (request : ProviderSyntaxQueryRequest) : Outcome ProviderSyntaxQueryResponse :=
  if request.schemaId ≠ "agent.semantic-protocols.provider-syntax-query-request" ∨
      request.schemaVersion ≠ "1" ∨ request.languageId ≠ "rust" ∨
      request.providerId ≠ "asp-rust" ∨ request.ownerPath = "" ∨ request.plan.patterns = [] then
    .error (.returned "provider syntax-query request identity or plan mismatch")
  else if blake3 request.source ≠ request.sourceContentDigest then
    .error (.returned "provider syntax-query source digest mismatch")
  else
    match parser.parseFile request.source with
    | .error error =>
        .error (.returned ("native Rust parser rejected syntax-query owner " ++ request.ownerPath ++
          ": " ++ error))
    | .ok nodes =>
        (collectPatternItemCaptures regex parser request
          ((topLevelItems nodes).map topLevelItemSyntax)).map fun captures =>
            { schemaId := "agent.semantic-protocols.provider-syntax-query-response"
              schemaVersion := "1"
              languageId := request.languageId
              providerId := request.providerId
              ownerPath := request.ownerPath
              sourceContentDigest := request.sourceContentDigest
              queryDigest := request.queryDigest
              parsed := true
              captures := captures }

end Collection

/-! ## What a query asks for

The specification goes through the syntax and not through the artifact: an item is asked
for if its kind is queried and the name that it declares is accepted.  Captures are
compared by pattern, name and reference. -/

/-- The name that an item declares, that of a macro definition included. -/
def declaredName : Declaration → Option TokenText
  | .macroItem ident _ => ident
  | declaration => itemName declaration

/-- What tells which item a capture belongs to, and for which pattern and capture name. -/
abbrev CaptureKey := ℕ × String × String

def ProviderSyntaxQueryCapture.key (capture : ProviderSyntaxQueryCapture) : CaptureKey :=
  (capture.patternIndex, capture.captureName, capture.nativeFactRef)

/-- The keys of the captures that an item of a name gives. -/
def captureKeys (request : ProviderSyntaxQueryRequest) (pattern : SyntaxQueryPattern)
    (item : Item) (name : TokenText) : List CaptureKey :=
  pattern.captures.map fun captureName =>
    (pattern.index, captureName,
      nativeFactRef request.ownerPath (topLevelItemSyntax item) name.text)

/-- A predicate test that came out true. -/
def accepted : Outcome Bool → Bool
  | .ok true => true
  | _ => false

section Completeness

variable (regex : String → Except String (String → Bool))

/-- An item of the queried kind whose name satisfies the predicates. -/
def queried (request : ProviderSyntaxQueryRequest) (pattern : SyntaxQueryPattern) (item : Item)
    (name : TokenText) : Bool :=
  patternMatchesItem pattern (itemKind item.declaration) &&
    accepted (predicatesMatchItem regex request.plan.predicates pattern.captures (some name.text))

/-- The captures that a top-level item should give for a pattern. -/
def expectedKeys (request : ProviderSyntaxQueryRequest) (pattern : SyntaxQueryPattern)
    (item : Item) : List CaptureKey :=
  match declaredName item.declaration with
  | none => []
  | some name =>
      if queried regex request pattern item name then captureKeys request pattern item name else []

/-- The declaration by which an item is found in the parse artifact: its kind and its name,
without any scope. -/
def plainDeclared (item : Item) (name : TokenText) : Declared where
  kind := canonicalKind (itemKind item.declaration)
  name := name.text

/-- The captures that a top-level item does give for a pattern. -/
def givenKeys (nodes : List Node) (request : ProviderSyntaxQueryRequest)
    (pattern : SyntaxQueryPattern) (item : Item) : List CaptureKey :=
  match itemName item.declaration with
  | none => []
  | some name =>
      if queried regex request pattern item name ∧
          plainDeclared item name ∈ Declared.ofNodes nodes then
        captureKeys request pattern item name
      else []

/-! ## The index

The index has an entry for a kind and a name exactly if some item without scopes has
them. -/

theorem get?_exactItemIndex_ne_none_iff (nodes : List Node) (kind symbol : String) :
    (exactItemIndex (collectParseArtifactItems nodes)).get? (toLex (kind, symbol)) ≠ none ↔
      ({ kind := kind, name := symbol } : Declared) ∈ Declared.ofNodes nodes := by
  rw [Ne, OrderedMap.get?_eq_none_iff, not_not, exactItemIndex, OrderedMap.mem_keys_insertAll]
  simp only [OrderedMap.keys_empty, List.not_mem_nil, false_or, List.mem_filter, decide_eq_true_iff]
  constructor
  · rintro ⟨item, ⟨hmem, hscopes⟩, hkey⟩
    obtain ⟨hkind, hsymbol⟩ := Prod.mk.inj (toLex.injective hkey)
    have hidentity : item.identity ∈ (Declared.ofNodes nodes).map Declared.identity := by
      rw [← identity_of_collected]
      exact List.mem_map_of_mem hmem
    obtain ⟨declared, hdeclared, hsame⟩ := List.mem_map.mp hidentity
    -- identities are injective, and an item that is indexed has no scopes
    have hplain : declared = { kind := kind, name := symbol } := by
      apply Declared.identity_injective
      calc declared.identity
          = ⟨"rust", declared.identity.kind, declared.identity.symbol, declared.identity.scopes⟩ := rfl
        _ = ⟨"rust", kind, symbol, []⟩ := by rw [hsame, hkind, hsymbol, hscopes]
    exact hplain ▸ hdeclared
  · intro hdeclared
    have hidentity : Declared.identity { kind := kind, name := symbol } ∈
        (collectParseArtifactItems nodes).map ParseArtifactItem.identity := by
      rw [identity_of_collected]
      exact List.mem_map_of_mem hdeclared
    obtain ⟨item, hitem, hsame⟩ := List.mem_map.mp hidentity
    refine ⟨item, ⟨hitem, ?_⟩, ?_⟩
    · rw [hsame]
      rfl
    · rw [hsame]
      rfl

/-! ## The captures that are given

A matched item gives a capture for each capture name if it is found in the index, and
none otherwise. -/

theorem key_of_mapM_itemCapture {request : ProviderSyntaxQueryRequest}
    {pattern : SyntaxQueryPattern} {item : TopLevelItem} {name : String}
    {exactItem : ParseArtifactItem} {captureNames : List String}
    {captures : List ProviderSyntaxQueryCapture}
    (h : captureNames.mapM (itemCapture request pattern item name exactItem) = .ok captures) :
    captures.map ProviderSyntaxQueryCapture.key = captureNames.map fun captureName =>
      (pattern.index, captureName, nativeFactRef request.ownerPath item name) := by
  refine map_of_mapM_eq_ok (fun captureName _ capture hcapture => ?_) h
  obtain ⟨range, -, rfl⟩ := Except.map_eq_ok.mp hcapture
  rfl

/-- What the test of an item came out as is what the query says about it. -/
theorem queried_eq {request : ProviderSyntaxQueryRequest} {pattern : SyntaxQueryPattern}
    {item : Item} {name : TokenText} {matched : Bool}
    (h : (if patternMatchesItem pattern (topLevelItemSyntax item).kind then
      predicatesMatchItem regex request.plan.predicates pattern.captures (some name.text)
      else .ok false) = .ok matched) :
    queried regex request pattern item name = matched := by
  have hkind : (topLevelItemSyntax item).kind = itemKind item.declaration := rfl
  rw [hkind] at h
  unfold queried
  split at h
  · next hpattern =>
      rw [hpattern, h]
      cases matched <;> rfl
  · next hpattern =>
      rw [Bool.eq_false_iff.mpr hpattern]
      exact Except.ok.inj h

theorem key_of_itemCaptures {nodes : List Node} {request : ProviderSyntaxQueryRequest}
    {pattern : SyntaxQueryPattern} {item : Item} {captures : List ProviderSyntaxQueryCapture}
    (h : itemCaptures regex request (exactItemIndex (collectParseArtifactItems nodes)) pattern
      (topLevelItemSyntax item) = .ok captures) :
    captures.map ProviderSyntaxQueryCapture.key = givenKeys regex nodes request pattern item := by
  unfold itemCaptures at h
  obtain ⟨matched, hmatched, h⟩ := Except.bind_eq_ok.mp h
  have hname : (topLevelItemSyntax item).name = (itemName item.declaration).map TokenText.text :=
    rfl
  rw [matchedItemCaptures, hname] at h
  rw [itemMatches, hname] at hmatched
  unfold givenKeys
  cases hitem : itemName item.declaration with
  | none =>
      rw [hitem] at h
      cases matched <;> simpa [pure, Except.pure, eq_comm] using h
  | some name =>
      rw [hitem] at h hmatched
      show _ = if queried regex request pattern item name = true ∧
        plainDeclared item name ∈ Declared.ofNodes nodes then _ else _
      rw [queried_eq regex hmatched]
      cases matched with
      | false => simpa [pure, Except.pure, eq_comm] using h
      | true =>
          have hindex := get?_exactItemIndex_ne_none_iff nodes
            (canonicalKind (itemKind item.declaration)) name.text
          simp only [if_true, Option.map_some] at h
          split at h
          · next hget =>
              have hmissing : plainDeclared item name ∉ Declared.ofNodes nodes :=
                fun hfound => hindex.mpr hfound hget
              rw [if_neg fun hboth => hmissing hboth.2, ← Except.ok.inj h]
              rfl
          · next exactItem hget =>
              have hfound : plainDeclared item name ∈ Declared.ofNodes nodes :=
                hindex.mp fun hnone => Option.some_ne_none _ (hget.symm.trans hnone)
              rw [if_pos ⟨rfl, hfound⟩]
              exact key_of_mapM_itemCapture h

/-! ## A whole query

The captures of a query are those of its patterns, one after the other; so they are what
is expected if and only if this is so pattern by pattern. -/

/-- Pieces computed one after another, each with what it stands for. -/
theorem map_flatten_of_mapM_eq_ok {ι α β ε : Type} {f : ι → Except ε (List α)} {g : ι → List β}
    {key : α → β} {list : List ι} {results : List (List α)}
    (hpiece : ∀ i ∈ list, ∀ piece, f i = .ok piece → piece.map key = g i)
    (h : list.mapM f = .ok results) : results.flatten.map key = list.flatMap g := by
  rw [List.map_flatten, map_of_mapM_eq_ok hpiece h, List.flatMap]

/-- Lists put together from parts of pieces are complete when every part is. -/
theorem flatMap_eq_flatMap_iff {ι β : Type} {part piece : ι → List β} {list : List ι}
    (hpart : ∀ i ∈ list, (part i).Sublist (piece i)) :
    list.flatMap part = list.flatMap piece ↔ ∀ i ∈ list, part i = piece i := by
  induction list with
  | nil => simp
  | cons head rest ih =>
      have hrest : ∀ i ∈ rest, (part i).Sublist (piece i) := fun i hi =>
        hpart i (List.mem_cons_of_mem _ hi)
      have hhead := hpart head List.mem_cons_self
      rw [List.flatMap_cons, List.flatMap_cons, List.forall_mem_cons, ← ih hrest]
      constructor
      · intro h
        -- the parts are no longer than the pieces, so equal lengths leave no room
        have hlength := congrArg List.length h
        have htail : (rest.flatMap part).length ≤ (rest.flatMap piece).length :=
          (List.Sublist.flatMap_right rest hrest).length_le
        have hfront := hhead.length_le
        rw [List.length_append, List.length_append] at hlength
        have hsame : part head = piece head := hhead.eq_of_length (by omega)
        rw [hsame] at h
        exact ⟨hsame, List.append_cancel_left h⟩
      · rintro ⟨hfirst, htail⟩
        rw [hfirst, htail]

/-- The captures of an accepted query. -/
theorem key_of_collectPatternItemCaptures {parser : RustParser} {nodes : List Node}
    {request : ProviderSyntaxQueryRequest} {captures : List ProviderSyntaxQueryCapture}
    (hparse : parser.parseFile request.source = .ok nodes)
    (h : collectPatternItemCaptures regex parser request
      ((topLevelItems nodes).map topLevelItemSyntax) = .ok captures) :
    captures.map ProviderSyntaxQueryCapture.key =
      request.plan.patterns.flatMap fun pattern =>
        (topLevelItems nodes).flatMap (givenKeys regex nodes request pattern) := by
  rw [collectPatternItemCaptures, parseOwnerItemsV1, hparse] at h
  obtain ⟨perPattern, hpatterns, h⟩ := Except.bind_eq_ok.mp h
  obtain rfl := Except.ok.inj h
  refine map_flatten_of_mapM_eq_ok (fun pattern _ piece hpiece => ?_) hpatterns
  obtain ⟨perItem, hitems, hflatten⟩ := Except.bind_eq_ok.mp hpiece
  obtain rfl := Except.ok.inj hflatten
  rw [List.mapM_map] at hitems
  exact map_flatten_of_mapM_eq_ok (fun item _ captures hcaptures =>
    key_of_itemCaptures regex hcaptures) hitems

/-! ## What is lost

The captures that are given are among those expected, in order, and what is missing are
the items that are not found.  These are told by their namesakes: no item of the kind
and name is without a scope. -/

theorem declaredName_of_itemName {declaration : Declaration} {name : TokenText}
    (h : itemName declaration = some name) : declaredName declaration = some name := by
  cases declaration <;> first | exact h | cases h

/-- An item of the facts that has a name is an item of the artifact, with the predicates of
its `cfg` attributes. -/
theorem named_mem_ofNode {item : Item} {head body : List Node} {name : TokenText}
    (hname : itemName item.declaration = some name) (hkind : itemKind item.declaration ≠ "item") :
    Declared.named (canonicalKind (itemKind item.declaration)) name item ∈
      Declared.ofNode (.item item head body) := by
  rw [Declared.ofNode]
  cases hdeclaration : item.declaration <;> rw [hdeclaration] at hname hkind
  all_goals first
    | exact absurd rfl hkind
    | (cases hname <;> simp [itemKind, canonicalKind])

theorem mem_ofNodes_of_mem {nodes : List Node} {node : Node} {declared : Declared}
    (hnode : node ∈ nodes) (hdeclared : declared ∈ Declared.ofNode node) :
    declared ∈ Declared.ofNodes nodes := by
  induction nodes with
  | nil => cases hnode
  | cons head rest ih =>
      rw [Declared.ofNodes, List.mem_append]
      rcases List.mem_cons.mp hnode with rfl | hnode
      · exact Or.inl hdeclared
      · exact Or.inr (ih hnode)

/-- No pattern asks for the items that have no kind of their own. -/
theorem kind_ne_item_of_patternMatchesItem {pattern : SyntaxQueryPattern} {kind : String}
    (h : patternMatchesItem pattern kind = true) : kind ≠ "item" := by
  rintro rfl
  obtain ⟨nodeType, -, hentry⟩ := List.any_eq_true.mp h
  obtain ⟨entry, hmem, hentry⟩ := List.any_eq_true.mp hentry
  have hall : ∀ entry ∈ nodeTypeKinds, "item" ∉ entry.2 := by decide
  exact hall entry hmem (by simpa using (Bool.and_eq_true_iff.mp hentry).2)

theorem plainDeclared_mem_of_cfgPredicates {nodes : List Node} {item : Item} {name : TokenText}
    (hitem : item ∈ topLevelItems nodes) (hname : itemName item.declaration = some name)
    (hkind : itemKind item.declaration ≠ "item") (hcfg : cfgPredicates item.attributes = []) :
    plainDeclared item name ∈ Declared.ofNodes nodes := by
  obtain ⟨node, hnode, hsome⟩ := List.mem_filterMap.mp hitem
  cases node with
  | item self head body =>
      obtain rfl := Option.some.inj hsome
      have hplain : plainDeclared self name =
          Declared.named (canonicalKind (itemKind self.declaration)) name self := by
        rw [Declared.named, hcfg]
        rfl
      rw [hplain]
      exact mem_ofNodes_of_mem hnode (named_mem_ofNode hname hkind)
  | binding => cases hsome
  | expr => cases hsome

/-- The item facts have the name of every item that declares one, but for macros. -/
theorem itemName_eq_declaredName {declaration : Declaration}
    (h : itemKind declaration ≠ "macro") : itemName declaration = declaredName declaration := by
  cases declaration <;> first | rfl | exact absurd rfl h

theorem itemName_eq_none_of_kind {declaration : Declaration} (h : itemKind declaration = "macro") :
    itemName declaration = none := by
  cases declaration <;> first | rfl | simp [itemKind] at h

/-- What an item gives is a part of what it should give. -/
theorem givenKeys_sublist (nodes : List Node) (request : ProviderSyntaxQueryRequest)
    (pattern : SyntaxQueryPattern) (item : Item) :
    (givenKeys regex nodes request pattern item).Sublist
      (expectedKeys regex request pattern item) := by
  unfold givenKeys expectedKeys
  cases hname : itemName item.declaration with
  | none => exact List.nil_sublist _
  | some name =>
      rw [declaredName_of_itemName hname]
      show (if _ then _ else _ : List CaptureKey).Sublist (if _ then _ else _)
      by_cases hqueried : queried regex request pattern item name = true
      · rw [if_pos hqueried]
        split
        · exact List.Sublist.refl _
        · exact List.nil_sublist _
      · rw [if_neg fun hboth => hqueried hboth.1]
        exact List.nil_sublist _

/-- An item is in the artifact as the query looks for it: it is no macro definition, and it
carries no `cfg` predicate or has a namesake of its kind in the file that carries none. -/
def FoundInArtifact (nodes : List Node) (item : Item) (name : TokenText) : Prop :=
  itemKind item.declaration ≠ "macro" ∧
    (cfgPredicates item.attributes = [] ∨ plainDeclared item name ∈ Declared.ofNodes nodes)

theorem givenKeys_eq_iff {nodes : List Node} {request : ProviderSyntaxQueryRequest}
    {pattern : SyntaxQueryPattern} {item : Item} (hitem : item ∈ topLevelItems nodes) :
    givenKeys regex nodes request pattern item = expectedKeys regex request pattern item ↔
      (pattern.captures ≠ [] → ∀ name, declaredName item.declaration = some name →
        queried regex request pattern item name = true → FoundInArtifact nodes item name) := by
  unfold givenKeys expectedKeys
  have hkeys : ∀ name, [] = captureKeys request pattern item name ↔ pattern.captures = [] :=
    fun _ => eq_comm.trans List.map_eq_nil_iff
  cases hdeclared : declaredName item.declaration with
  | none =>
      -- without a name in the source nothing is expected, and nothing is given
      have hnone : itemName item.declaration = none := by
        by_contra hsome
        obtain ⟨name, hname⟩ := Option.ne_none_iff_exists'.mp hsome
        cases (declaredName_of_itemName hname).symm.trans hdeclared
      rw [hnone]
      simp
  | some name =>
      by_cases hmacro : itemKind item.declaration = "macro"
      · -- the facts have no name for it, so nothing is given
        rw [itemName_eq_none_of_kind hmacro]
        by_cases hqueried : queried regex request pattern item name = true
        · simp [hqueried, FoundInArtifact, hmacro, hkeys]
        · simp [hqueried]
      · rw [itemName_eq_declaredName hmacro, hdeclared]
        by_cases hqueried : queried regex request pattern item name = true
        · have hkind := kind_ne_item_of_patternMatchesItem (Bool.and_eq_true_iff.mp hqueried).1
          have hname := (itemName_eq_declaredName hmacro).trans hdeclared
          have hfound : FoundInArtifact nodes item name ↔
              plainDeclared item name ∈ Declared.ofNodes nodes := by
            unfold FoundInArtifact
            have hplain := plainDeclared_mem_of_cfgPredicates hitem hname hkind
            tauto
          by_cases hplain : plainDeclared item name ∈ Declared.ofNodes nodes
          · simp [hqueried, hfound, hplain]
          · simp [hqueried, hfound, hplain, hkeys]
        · simp [hqueried]

/-- The captures of an accepted query are those that were collected. -/
theorem collectPatternItemCaptures_of_accepted {blake3 : List Char → String} {parser : RustParser}
    {request : ProviderSyntaxQueryRequest} {response : ProviderSyntaxQueryResponse}
    {nodes : List Node} (hparse : parser.parseFile request.source = .ok nodes)
    (haccepted : handleSyntaxQueryOperation regex blake3 parser request = .ok response) :
    collectPatternItemCaptures regex parser request
      ((topLevelItems nodes).map topLevelItemSyntax) = .ok response.captures := by
  unfold handleSyntaxQueryOperation at haccepted
  split at haccepted
  · cases haccepted
  · split at haccepted
    · cases haccepted
    · rw [hparse] at haccepted
      obtain ⟨captures, hcaptures, rfl⟩ := Except.map_eq_ok.mp haccepted
      exact hcaptures

/-- **When a query is complete.**  The captures of an accepted query are one for each
capture name of a pattern and each top-level item of the queried kind that declares a
name and satisfies the predicates, in source order and no others, exactly if every such
item is found in the artifact.

An item is looked up by its kind and name among those without a scope, and a cfg
predicate counts as one.  So what is not found is a macro definition, or an item all of
whose namesakes carry such a predicate. -/
theorem captures_complete_iff {blake3 : List Char → String} {parser : RustParser}
    {request : ProviderSyntaxQueryRequest} {response : ProviderSyntaxQueryResponse}
    {nodes : List Node} (hparse : parser.parseFile request.source = .ok nodes)
    (haccepted : handleSyntaxQueryOperation regex blake3 parser request = .ok response) :
    response.captures.map ProviderSyntaxQueryCapture.key =
        (request.plan.patterns.flatMap fun pattern =>
          (topLevelItems nodes).flatMap (expectedKeys regex request pattern)) ↔
      ∀ pattern ∈ request.plan.patterns, pattern.captures ≠ [] →
        ∀ item ∈ topLevelItems nodes, ∀ name, declaredName item.declaration = some name →
          queried regex request pattern item name = true → FoundInArtifact nodes item name := by
  rw [key_of_collectPatternItemCaptures regex hparse
    (collectPatternItemCaptures_of_accepted regex hparse haccepted)]
  have hitems : ∀ pattern : SyntaxQueryPattern, ∀ item ∈ topLevelItems nodes,
      (givenKeys regex nodes request pattern item).Sublist
        (expectedKeys regex request pattern item) :=
    fun pattern item _ => givenKeys_sublist regex nodes request pattern item
  rw [flatMap_eq_flatMap_iff fun pattern _ => List.Sublist.flatMap_right _ (hitems pattern)]
  refine forall₂_congr fun pattern _ => ?_
  rw [flatMap_eq_flatMap_iff (hitems pattern)]
  constructor
  · intro h hcaptures item hitem
    exact (givenKeys_eq_iff regex hitem).mp (h item hitem) hcaptures
  · intro h item hitem
    exact (givenKeys_eq_iff regex hitem).mpr fun hcaptures => h hcaptures item hitem

end Completeness

/-- A request for the functions of an owner. -/
def functionRequest (source : String) : ProviderSyntaxQueryRequest where
  schemaId := "agent.semantic-protocols.provider-syntax-query-request"
  schemaVersion := "1"
  languageId := "rust"
  providerId := "asp-rust"
  ownerPath := "src/lib.rs"
  sourceContentDigest := "digest"
  queryDigest := "1"
  source := source.toList
  plan := { patterns := [⟨0, ["function.name"], ["function_item"], ["name"]⟩] }

/-- A function without anything in its signature and body. -/
def functionItem (ident : TokenText) (attributes : List Attribute) (span : Span) : Item :=
  ⟨.function { ident := ident }, attributes, span⟩

def runIdent : TokenText := ⟨"run", by decide⟩

def plainSource : String := "pub fn run() \x7b\x7d\n"

def plainItem : Item := functionItem runIdent [] ⟨0, 15, ⟨1, 0⟩, ⟨1, 15⟩⟩

def plainNodes : List Node := [.item plainItem [] []]

def plainParser : RustParser := .knowing [] plainSource.toList plainNodes (by decide)

/-- The query for the functions of `pub fn run() {}` is complete. -/
theorem plain_function_captured :
    plainParser.parseFile (functionRequest plainSource).source = .ok plainNodes ∧
      ∃ response, handleSyntaxQueryOperation (fun _ => .error "") (fun _ => "digest") plainParser
          (functionRequest plainSource) = .ok response ∧
        response.captures.map ProviderSyntaxQueryCapture.key =
          ((functionRequest plainSource).plan.patterns.flatMap fun pattern =>
            (topLevelItems plainNodes).flatMap
              (expectedKeys (fun _ => .error "") (functionRequest plainSource) pattern)) := by
  have hparse : plainParser.parseFile (functionRequest plainSource).source = .ok plainNodes := rfl
  obtain ⟨response, haccepted⟩ : ∃ response, handleSyntaxQueryOperation (fun _ => .error "")
      (fun _ => "digest") plainParser (functionRequest plainSource) = .ok response := ⟨_, rfl⟩
  refine ⟨hparse, response, haccepted, (captures_complete_iff _ hparse haccepted).mpr ?_⟩
  intro pattern _ _ item hitem name _ _
  obtain rfl := List.mem_singleton.mp hitem
  exact ⟨by decide, Or.inl rfl⟩

def cfgSource : String := "#[cfg(unix)]\npub fn run() \x7b\x7d\n"

def cfgItem : Item :=
  functionItem runIdent [⟨"cfg", some "unix", ⟨0, 12, ⟨1, 0⟩, ⟨1, 12⟩⟩⟩]
    ⟨0, 28, ⟨1, 0⟩, ⟨2, 15⟩⟩

def cfgNodes : List Node := [.item cfgItem [] []]

def cfgParser : RustParser := .knowing [] cfgSource.toList cfgNodes (by decide)

/-- The function below `#[cfg(unix)]` is asked for and gives no capture. -/
theorem cfg_function_lost :
    cfgParser.parseFile (functionRequest cfgSource).source = .ok cfgNodes ∧
      ((functionRequest cfgSource).plan.patterns.flatMap fun pattern =>
          (topLevelItems cfgNodes).flatMap
            (expectedKeys (fun _ => .error "") (functionRequest cfgSource) pattern)) =
        [(0, "function.name", "rust:item:src/lib.rs:1:2:run")] ∧
      (handleSyntaxQueryOperation (fun _ => .error "") (fun _ => "digest") cfgParser
        (functionRequest cfgSource)).map ProviderSyntaxQueryResponse.captures = .ok [] :=
  ⟨rfl, rfl, rfl⟩

end AspRust.Provider
