import AspRust.Provider.StructuralSelector
import AspRust.Provider.Syntax

/-!
# The parse artifact of an owner

The items of a file are collected in source order, with inline modules opened: the
items of a module follow the module.  Each gets an identity from its kind and name,
the type and the trait it is implemented for, and the predicates of its `cfg`
attributes.

The module an item stands in is no part of its identity.  `Declared` is what is
left of a declaration then, and `identity_of_collected` says that the artifact has
one item for each declaration, with an identity that determines it.

### What is load-bearing

The identity of an item is made of texts: symbols without spaces and predicates as they are
written.  `Declared` has these texts as its data, so that equality of declarations is equality of
identities (`identity_injective`) and what is forgotten is visible in the type: there is no
module in it.
-/

namespace AspRust.Provider

open AspRust.Foundation

/-! ## Collection -/

/-- The signature and the block of a callable; one without a block has an empty
one. -/
structure ParsedCallableSyntax where
  signature : Signature
  block : List Node

/-- One item of the artifact. -/
structure ParseArtifactItem where
  identity : CanonicalItemIdentity
  sourceByteStart : ℕ
  sourceByteEnd : ℕ
  callableSyntax : Option ParsedCallableSyntax := none

/-- The predicates of the `cfg` attributes. -/
def cfgPredicates (attributes : List Attribute) : List String :=
  (attributes.filter fun a => a.path = "cfg").filterMap Attribute.tokens

/-- Append a scope for each `cfg` attribute. -/
def withCfgScopes (identity : CanonicalItemIdentity) (attributes : List Attribute) :
    CanonicalItemIdentity :=
  (cfgPredicates attributes).foldl
    (fun identity predicate => identity.withScope "conditional-compilation" "cfg" predicate)
    identity

/-- An item with its own identity, at its span. -/
def canonicalParseArtifactItem (identity : CanonicalItemIdentity) (item : Item) :
    ParseArtifactItem where
  identity := identity
  sourceByteStart := item.span.byteStart
  sourceByteEnd := item.span.byteEnd

/-- A callable with its own identity, at its span. -/
def canonicalCallableParseArtifactItem (identity : CanonicalItemIdentity) (item : Item)
    (signature : Signature) (block : List Node) : ParseArtifactItem :=
  { canonicalParseArtifactItem identity item with callableSyntax := some ⟨signature, block⟩ }

/-- An item whose identity is its kind and its name. -/
def parseArtifactItem (kind : String) (name : TokenText) (item : Item) : ParseArtifactItem :=
  canonicalParseArtifactItem (withCfgScopes ⟨"rust", kind, name.text, []⟩ item.attributes) item

/-- A token text without spaces. -/
def withoutSpaces (text : TokenText) : String :=
  String.ofList (text.text.toList.filter (· ≠ ' '))

/-- Add the type and, for the implementation of a trait, the trait. -/
def withImplScopes (identity : CanonicalItemIdentity) (implOwner : String)
    (traitOwner : Option String) : CanonicalItemIdentity :=
  let identity := identity.withScope "implementation-owner" "type" implOwner
  match traitOwner with
  | some traitOwner => identity.withScope "trait-owner" "trait" traitOwner
  | none => identity

/-- An implementation and its methods; its other items are not collected. -/
def collectImplParseArtifactItems (item : Item) (selfType : TokenText)
    (traitPath : Option TokenText) (body : List Node) : List ParseArtifactItem :=
  let implOwner := withoutSpaces selfType
  let traitOwner := traitPath.map withoutSpaces
  canonicalParseArtifactItem
      (withCfgScopes (withImplScopes ⟨"rust", "implementation", implOwner, []⟩ implOwner traitOwner)
        item.attributes) item ::
    body.filterMap fun node =>
      match node with
      | .item method@⟨.implFn signature, _, _⟩ _ block =>
          some (canonicalCallableParseArtifactItem
            (withCfgScopes (withImplScopes ⟨"rust", "method", signature.ident.text, []⟩ implOwner
              traitOwner) method.attributes) method signature block)
      | _ => none

/-- A trait and its functions; its other items are not collected. -/
def collectTraitParseArtifactItems (item : Item) (ident : TokenText) (body : List Node) :
    List ParseArtifactItem :=
  parseArtifactItem "trait" ident item ::
    body.filterMap fun node =>
      match node with
      | .item method@⟨.traitFn signature _, _, _⟩ _ default =>
          some (canonicalCallableParseArtifactItem
            (withCfgScopes
              (CanonicalItemIdentity.withScope ⟨"rust", "trait-function", signature.ident.text, []⟩
                "trait-owner" "trait" ident.text)
              method.attributes) method signature default)
      | _ => none

mutual

/-- The names that a tree of a `use` declaration brings in; a glob brings in
none. -/
def UseTree.names : UseTree → List TokenText
  | .path tree => tree.names
  | .name ident => [ident]
  | .rename ident => [ident]
  | .glob => []
  | .group items => namesOf items

/-- The names of the trees of a group. -/
def UseTree.namesOf : List UseTree → List TokenText
  | [] => []
  | tree :: rest => tree.names ++ namesOf rest

end

/-- The names that a public `use` declaration exports again, each at the span of
the whole declaration. -/
def collectReexportItems (item : Item) (tree : UseTree) : List ParseArtifactItem :=
  tree.names.map fun name =>
    canonicalParseArtifactItem ⟨"rust", "reexport", name.text, []⟩ item

mutual

/-- The items that one item of a file gives. -/
def collectParseArtifactItem : Node → List ParseArtifactItem
  | .item item _ body =>
      match item.declaration with
      | .const ident => [parseArtifactItem "const" ident item]
      | .enum ident => [parseArtifactItem "enum" ident item]
      | .function signature =>
          [canonicalCallableParseArtifactItem
            (withCfgScopes ⟨"rust", "function", signature.ident.text, []⟩ item.attributes) item
            signature body]
      | .macroItem ident _ => ident.toList.map fun ident => parseArtifactItem "macro" ident item
      | .mod ident => parseArtifactItem "module" ident item :: collectParseArtifactItems body
      | .static ident => [parseArtifactItem "static" ident item]
      | .struct ident => [parseArtifactItem "struct" ident item]
      | .trait ident => collectTraitParseArtifactItems item ident body
      | .traitAlias ident => [parseArtifactItem "trait-alias" ident item]
      | .typeAlias ident => [parseArtifactItem "type" ident item]
      | .union ident => [parseArtifactItem "union" ident item]
      | .impl selfType traitPath => collectImplParseArtifactItems item selfType traitPath body
      | .use false tree => collectReexportItems item tree
      | _ => []
  | _ => []

/-- The items that the items of a file give, in source order. -/
def collectParseArtifactItems : List Node → List ParseArtifactItem
  | [] => []
  | node :: rest => collectParseArtifactItem node ++ collectParseArtifactItems rest

end

/-- Parse an owner and collect its items. -/
def parseOwnerItemsV1 (parser : RustParser) (source : List Char) :
    Except String (List ParseArtifactItem) :=
  match parser.parseFile source with
  | .error error => .error ("failed to parse native owner-search source: " ++ error)
  | .ok items => .ok (collectParseArtifactItems items)

/-! ## What is declared -/

/-- What a declaration is taken for, in whatever module it stands: its kind and
name, the type and the trait it belongs to, without spaces, and the predicates of
its `cfg` attributes. -/
structure Declared where
  kind : String
  name : String
  implOwner : Option String := none
  traitOwner : Option String := none
  predicates : List String := []
deriving DecidableEq, Repr

namespace Declared

/-- The declaration of an item by its kind and name. -/
def named (kind : String) (name : TokenText) (item : Item) : Declared :=
  { kind := kind, name := name.text, predicates := cfgPredicates item.attributes }

/-- A method of an implementation. -/
def ofImplItem? (selfType : TokenText) (traitPath : Option TokenText) : Node → Option Declared
  | .item method@⟨.implFn signature, _, _⟩ _ _ =>
      some { named "method" signature.ident method with
        implOwner := some (withoutSpaces selfType)
        traitOwner := traitPath.map withoutSpaces }
  | _ => none

/-- A function of a trait. -/
def ofTraitItem? (ident : TokenText) : Node → Option Declared
  | .item method@⟨.traitFn signature _, _, _⟩ _ _ =>
      some { named "trait-function" signature.ident method with traitOwner := some ident.text }
  | _ => none

mutual

/-- What an item of a file declares: itself, and the methods and the module items
in it. -/
def ofNode : Node → List Declared
  | .item item _ body =>
      match item.declaration with
      | .const ident => [named "const" ident item]
      | .enum ident => [named "enum" ident item]
      | .function signature => [named "function" signature.ident item]
      | .macroItem ident _ => ident.toList.map fun ident => named "macro" ident item
      | .mod ident => named "module" ident item :: ofNodes body
      | .static ident => [named "static" ident item]
      | .struct ident => [named "struct" ident item]
      | .trait ident => named "trait" ident item :: body.filterMap (ofTraitItem? ident)
      | .traitAlias ident => [named "trait-alias" ident item]
      | .typeAlias ident => [named "type" ident item]
      | .union ident => [named "union" ident item]
      | .impl selfType traitPath =>
          { kind := "implementation"
            name := withoutSpaces selfType
            implOwner := some (withoutSpaces selfType)
            traitOwner := traitPath.map withoutSpaces
            predicates := cfgPredicates item.attributes } ::
            body.filterMap (ofImplItem? selfType traitPath)
      | .use false tree => tree.names.map fun name => { kind := "reexport", name := name.text }
      | _ => []
  | _ => []

/-- What the items of a file declare. -/
def ofNodes : List Node → List Declared
  | [] => []
  | node :: rest => ofNode node ++ ofNodes rest

end

/-- The identity of a declaration. -/
def identity (declared : Declared) : CanonicalItemIdentity where
  languageId := "rust"
  kind := declared.kind
  symbol := declared.name
  scopes :=
    declared.implOwner.toList.map (⟨"implementation-owner", "type", ·⟩) ++
      declared.traitOwner.toList.map (⟨"trait-owner", "trait", ·⟩) ++
      declared.predicates.map (⟨"conditional-compilation", "cfg", ·⟩)

/-- The scopes of one relation. -/
def symbolsOf (relation : String) (scopes : List CanonicalItemScope) : List String :=
  (scopes.filter fun scope => scope.relation = relation).map CanonicalItemScope.symbol

/-- **An identity determines the declaration.**  The relation of a scope says which
part of the declaration it came from. -/
theorem identity_injective : Function.Injective identity := by
  intro first second h
  have hpart : ∀ relation, symbolsOf relation first.identity.scopes =
      symbolsOf relation second.identity.scopes := fun relation => by rw [h]
  have himpl : first.implOwner = second.implOwner := by
    simpa [symbolsOf, identity, List.filter_map, Function.comp_def]
      using congrArg List.head? (hpart "implementation-owner")
  have htrait : first.traitOwner = second.traitOwner := by
    simpa [symbolsOf, identity, List.filter_map, Function.comp_def]
      using congrArg List.head? (hpart "trait-owner")
  have hcfg : first.predicates = second.predicates := by
    simpa [symbolsOf, identity, List.filter_map, Function.comp_def]
      using hpart "conditional-compilation"
  have hkind : first.kind = second.kind := congrArg CanonicalItemIdentity.kind h
  have hname : first.name = second.name := congrArg CanonicalItemIdentity.symbol h
  cases first
  cases second
  simp_all

end Declared

theorem withCfgScopes_eq (identity : CanonicalItemIdentity) (attributes : List Attribute) :
    withCfgScopes identity attributes =
      { identity with
        scopes := identity.scopes ++
          (cfgPredicates attributes).map (⟨"conditional-compilation", "cfg", ·⟩) } := by
  unfold withCfgScopes
  induction cfgPredicates attributes generalizing identity with
  | nil => simp
  | cons predicate rest ih =>
      rw [List.foldl_cons, ih]
      simp [CanonicalItemIdentity.withScope]

/-- The identity of an item by its kind and name. -/
theorem identity_parseArtifactItem (kind : String) (name : TokenText) (item : Item) :
    (parseArtifactItem kind name item).identity = (Declared.named kind name item).identity := by
  simp [parseArtifactItem, canonicalParseArtifactItem, withCfgScopes_eq, Declared.named,
    Declared.identity]

theorem withImplScopes_eq (identity : CanonicalItemIdentity) (implOwner : String)
    (traitOwner : Option String) :
    withImplScopes identity implOwner traitOwner =
      { identity with
        scopes := identity.scopes ++ [⟨"implementation-owner", "type", implOwner⟩] ++
          traitOwner.toList.map (⟨"trait-owner", "trait", ·⟩) } := by
  cases traitOwner <;> simp [withImplScopes, CanonicalItemIdentity.withScope]

/-- An implementation and its methods. -/
theorem identity_of_impl (item : Item) (selfType : TokenText) (traitPath : Option TokenText)
    (body : List Node) :
    (collectImplParseArtifactItems item selfType traitPath body).map ParseArtifactItem.identity =
      (Declared.identity
        { kind := "implementation"
          name := withoutSpaces selfType
          implOwner := some (withoutSpaces selfType)
          traitOwner := traitPath.map withoutSpaces
          predicates := cfgPredicates item.attributes }) ::
        (body.filterMap (Declared.ofImplItem? selfType traitPath)).map Declared.identity := by
  rw [collectImplParseArtifactItems, List.map_cons, List.map_filterMap, List.map_filterMap]
  congr 1
  · simp [canonicalParseArtifactItem, withCfgScopes_eq, withImplScopes_eq, Declared.identity]
  · refine List.filterMap_congr fun node _ => ?_
    unfold Declared.ofImplItem?
    split
    · simp [canonicalCallableParseArtifactItem, canonicalParseArtifactItem, withCfgScopes_eq,
        withImplScopes_eq, Declared.identity, Declared.named]
    · rfl

/-- A trait and its functions. -/
theorem identity_of_trait (item : Item) (ident : TokenText) (body : List Node) :
    (collectTraitParseArtifactItems item ident body).map ParseArtifactItem.identity =
      (Declared.named "trait" ident item).identity ::
        (body.filterMap (Declared.ofTraitItem? ident)).map Declared.identity := by
  rw [collectTraitParseArtifactItems, List.map_cons, identity_parseArtifactItem,
    List.map_filterMap, List.map_filterMap]
  congr 1
  refine List.filterMap_congr fun node _ => ?_
  unfold Declared.ofTraitItem?
  split
  · simp [canonicalCallableParseArtifactItem, canonicalParseArtifactItem, withCfgScopes_eq,
      CanonicalItemIdentity.withScope, Declared.identity, Declared.named]
  · rfl

mutual

/-- One item of a file gives an artifact item for each thing it declares. -/
theorem identity_of_collected_node (node : Node) :
    (collectParseArtifactItem node).map ParseArtifactItem.identity =
      (Declared.ofNode node).map Declared.identity := by
  cases node with
  | item item head body =>
      rw [collectParseArtifactItem, Declared.ofNode]
      cases item.declaration with
      | mod ident => simp [identity_parseArtifactItem, identity_of_collected body]
      | impl selfType traitPath => simp [identity_of_impl]
      | trait ident => simp [identity_of_trait]
      | use inherited tree =>
          cases inherited <;> simp [collectReexportItems, canonicalParseArtifactItem,
            Declared.identity]
      | function signature =>
          simp [canonicalCallableParseArtifactItem, canonicalParseArtifactItem, withCfgScopes_eq,
            Declared.named, Declared.identity]
      | _ => simp [identity_parseArtifactItem]
  | binding => simp [collectParseArtifactItem, Declared.ofNode]
  | expr => simp [collectParseArtifactItem, Declared.ofNode]

/-- **The identities of the artifact** are those of what the file declares, in
source order. -/
theorem identity_of_collected (nodes : List Node) :
    (collectParseArtifactItems nodes).map ParseArtifactItem.identity =
      (Declared.ofNodes nodes).map Declared.identity := by
  cases nodes with
  | nil => simp [collectParseArtifactItems, Declared.ofNodes]
  | cons node rest =>
      rw [collectParseArtifactItems, Declared.ofNodes, List.map_append, List.map_append,
        identity_of_collected_node node, identity_of_collected rest]

end

end AspRust.Provider
