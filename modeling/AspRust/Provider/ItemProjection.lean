import AspRust.Provider.ExactProjection
import Mathlib.Data.List.Forall2
import Mathlib.Data.List.Nodup

/-!
# The projection of an owner's items

The items of the parse artifact are projected in source order, under the structural
selector of each.  An item whose selector has been seen is passed over, so that two
declarations with one selector leave one item behind.

## When no item is lost

A selector determines the identity and an identity determines what is declared
(`Declared`), which leaves out the module an item stands in, a second block of
implementations for a type, and the `cfg` attributes around it.  So all items are
there exactly when no two declarations are the same in this sense.  The code of a
callable is cut out of the source at its range, which must be one of the source.

## What is load-bearing

Selectors are compared as texts, and a selector has a text of its own for each identity
(`StructuralSelector`), so "seen before" is a relation of identities.  Which identities a file
has is a matter of its declarations alone (`ParseArtifact`): neither step looks at the other's
text.
-/

namespace AspRust.Provider

open AspRust.Foundation

/-! ## Projection -/

/-- Why there are no items: the source has no syntax tree, or its ranges do not
fit it. -/
inductive ProjectionItemsError where
  | syntaxUnavailable (message : String)
  | integrity (message : String)
deriving DecidableEq, Repr

/-- The identity of an item as it is sent. -/
def projectionIdentity (identity : CanonicalItemIdentity) : Json :=
  .object
    [("kind", .string identity.kind),
      ("languageId", .string identity.languageId),
      ("schemaId", .string "agent.semantic-protocols.canonical-language-item-identity"),
      ("schemaVersion", .string "1"),
      ("scopes", .array (identity.scopes.map scopeJson)),
      ("symbol", .string identity.symbol)]

section Items

variable (source : SourceText) (relativePath ownerId : String)
  (authority : Option ExactProjectionAuthority)

/-- The selector of an item in the owner. -/
def selectorOf (artifact : ParseArtifactItem) : String :=
  structuralSelector "rust" relativePath artifact.identity

/-- The projections of a callable; other items have none. -/
def callableProjections (artifact : ParseArtifactItem) : Except String (List Json) :=
  match artifact.callableSyntax, authority with
  | some callableSyntax, some authority =>
      match source.getRange? artifact.sourceByteStart artifact.sourceByteEnd with
      | none =>
          .error ("callable projection range is outside owner: " ++
            selectorOf relativePath artifact)
      | some code => do
          let payload ← callableSkeletonProjectionFromOwnerSyntax
            { canonicalSelector := .new artifact.identity (selectorOf relativePath artifact)
              ownerPath := relativePath
              identity := artifact.identity
              code := code }
            authority callableSyntax source.chars
          .ok [.object
            [("payload", payload), ("projectionKind", .string "callable-skeleton")]]
  | _, _ => .ok []

/-- One item of the response. -/
def projectionItem (artifact : ParseArtifactItem) : Except String Json := do
  let projections ← callableProjections source relativePath authority artifact
  .ok (.object
    [("identity", projectionIdentity artifact.identity),
      ("itemId", .string (String.ofList (itemId artifact.identity))),
      ("kind", .string artifact.identity.kind),
      ("name", .string artifact.identity.symbol),
      ("ownerId", .string ownerId),
      ("projections", .array projections),
      ("selector", .string (selectorOf relativePath artifact)),
      ("sourceByteEnd", .number artifact.sourceByteEnd),
      ("sourceByteStart", .number artifact.sourceByteStart)])

/-- Project the artifacts whose selector is not among those seen; the first error
ends it. -/
def projectUnseen (seen : List String) : List ParseArtifactItem → Except String (List Json)
  | [] => .ok []
  | artifact :: rest =>
      if selectorOf relativePath artifact ∈ seen then projectUnseen seen rest
      else do
        let item ← projectionItem source relativePath ownerId authority artifact
        let items ← projectUnseen (selectorOf relativePath artifact :: seen) rest
        .ok (item :: items)

/-- The items of an owner. -/
def projectionItems (parser : RustParser) : Except ProjectionItemsError (List Json) :=
  match parseOwnerItemsV1 parser source.chars with
  | .error message => .error (.syntaxUnavailable message)
  | .ok artifacts =>
      match projectUnseen source relativePath ownerId authority [] artifacts with
      | .error message => .error (.integrity message)
      | .ok items => .ok items

end Items

/-! ## Which items are projected -/

/-- The item of the response is the one of the artifact: its selector, identity and
range. -/
structure ProjectedAs (relativePath : String) (artifact : ParseArtifactItem) (item : Json) :
    Prop where
  selector : item.member? "selector" = some (.string (selectorOf relativePath artifact))
  identity : item.member? "identity" = some (projectionIdentity artifact.identity)
  start : item.member? "sourceByteStart" = some (.number artifact.sourceByteStart)
  stop : item.member? "sourceByteEnd" = some (.number artifact.sourceByteEnd)

/-- The code of a callable can be cut out of the source. -/
def InOwner (source : SourceText) (artifact : ParseArtifactItem) : Prop :=
  artifact.callableSyntax.isSome →
    (getRange? source.chars artifact.sourceByteStart artifact.sourceByteEnd).isSome

instance (source : SourceText) (artifact : ParseArtifactItem) :
    Decidable (InOwner source artifact) :=
  inferInstanceAs (Decidable (_ → _))

section Once

variable {source : SourceText} {relativePath ownerId : String}
  {authority : ExactProjectionAuthority}

/-- A selector determines the identity. -/
theorem selectorOf_eq_iff {first second : CanonicalItemIdentity}
    (hfirst : first.languageId = "rust") (hsecond : second.languageId = "rust") :
    structuralSelector "rust" relativePath first = structuralSelector "rust" relativePath second ↔
      first = second := by
  constructor
  · intro h
    refine encode_injective_of_language (hfirst.trans hsecond.symm) ?_
    rw [structuralSelector, structuralSelector] at h
    simpa using congrArg String.toList h
  · rintro rfl
    rfl

/-- An item is projected exactly when its code can be cut out. -/
theorem projectionItem_cases (source : SourceText) (relativePath ownerId : String)
    (authority : ExactProjectionAuthority) (artifact : ParseArtifactItem) :
    (∃ item, projectionItem source relativePath ownerId (some authority) artifact = .ok item ∧
        ProjectedAs relativePath artifact item ∧ InOwner source artifact) ∨
      (∃ message,
        projectionItem source relativePath ownerId (some authority) artifact = .error message) ∧
        ¬ InOwner source artifact := by
  have hsome := source.isSome_getRange? artifact.sourceByteStart artifact.sourceByteEnd
  unfold projectionItem callableProjections InOwner
  cases artifact.callableSyntax with
  | none => exact .inl ⟨_, rfl, ⟨rfl, rfl, rfl, rfl⟩, by simp⟩
  | some callable =>
      rw [← hsome]
      cases source.getRange? artifact.sourceByteStart artifact.sourceByteEnd with
      | none => exact .inr ⟨⟨_, rfl⟩, by simp⟩
      | some code => exact .inl ⟨_, rfl, ⟨rfl, rfl, rfl, rfl⟩, by simp⟩

/-- Fresh selectors all get their item. -/
theorem projectUnseen_of_nodup (ownerId : String) (authority : ExactProjectionAuthority)
    {artifacts : List ParseArtifactItem} {seen : List String}
    (hnodup : (artifacts.map (selectorOf relativePath)).Nodup)
    (hunseen : ∀ artifact ∈ artifacts, selectorOf relativePath artifact ∉ seen)
    (howner : ∀ artifact ∈ artifacts, InOwner source artifact) :
    ∃ items, projectUnseen source relativePath ownerId (some authority) seen artifacts = .ok items ∧
      List.Forall₂ (ProjectedAs relativePath) artifacts items := by
  induction artifacts generalizing seen with
  | nil => exact ⟨[], rfl, .nil⟩
  | cons artifact rest ih =>
      rw [List.map_cons, List.nodup_cons] at hnodup
      have hrest : ∀ other ∈ rest,
          selectorOf relativePath other ∉ selectorOf relativePath artifact :: seen := by
        intro other hother hmem
        rcases List.mem_cons.mp hmem with heq | hseen
        · exact hnodup.1 (heq ▸ List.mem_map_of_mem hother)
        · exact hunseen other (.tail _ hother) hseen
      rcases projectionItem_cases source relativePath ownerId authority artifact with
        ⟨item, hitem, has, -⟩ | ⟨-, hout⟩
      · obtain ⟨items, hitems, hall⟩ :=
          ih hnodup.2 hrest fun other hother => howner other (.tail _ hother)
        refine ⟨item :: items, ?_, .cons has hall⟩
        rw [projectUnseen, if_neg (hunseen artifact (.head _)), hitem]
        simp [bind, Except.bind, hitems]
      · exact absurd (howner artifact (.head _)) hout

/-- A response with an item for each artifact passed over none. -/
theorem nodup_of_projectUnseen {artifacts : List ParseArtifactItem} {seen : List String}
    {items : List Json}
    (h : projectUnseen source relativePath ownerId (some authority) seen artifacts = .ok items) :
    items.length ≤ artifacts.length ∧ (items.length = artifacts.length →
      (artifacts.map (selectorOf relativePath)).Nodup ∧
        ∀ artifact ∈ artifacts, selectorOf relativePath artifact ∉ seen ∧
          InOwner source artifact) := by
  induction artifacts generalizing seen items with
  | nil =>
      cases h
      simp
  | cons artifact rest ih =>
      rw [projectUnseen] at h
      split at h
      · have hle := (ih h).1
        rw [List.length_cons]
        exact ⟨by omega, fun heq => absurd heq (by omega)⟩
      · next hfresh =>
          rcases projectionItem_cases source relativePath ownerId authority artifact with
            ⟨item, hitem, -, hin⟩ | ⟨⟨message, hmessage⟩, -⟩
          · rw [hitem] at h
            cases hrest : projectUnseen source relativePath ownerId (some authority)
                (selectorOf relativePath artifact :: seen) rest with
            | error message => simp [hrest, bind, Except.bind] at h
            | ok rest' =>
                simp only [hrest, bind, Except.bind, Except.ok.injEq] at h
                subst h
                obtain ⟨hle, hall⟩ := ih hrest
                refine ⟨Nat.succ_le_succ hle, fun heq => ?_⟩
                obtain ⟨hnodup, hunseen⟩ := hall (Nat.succ.inj heq)
                refine ⟨?_, ?_⟩
                · rw [List.map_cons, List.nodup_cons]
                  refine ⟨fun hmem => ?_, hnodup⟩
                  obtain ⟨other, hother, hsame⟩ := List.mem_map.mp hmem
                  exact (hunseen other hother).1 (hsame ▸ List.mem_cons_self)
                · intro other hother
                  rcases List.mem_cons.mp hother with rfl | hother
                  · exact ⟨hfresh, hin⟩
                  · exact ⟨fun hseen => (hunseen other hother).1 (.tail _ hseen),
                      (hunseen other hother).2⟩
          · rw [hmessage] at h
            cases h

/-- The selectors of the artifact are distinct exactly when nothing is declared
twice. -/
theorem nodup_selectors_iff (nodes : List Node) (relativePath : String) :
    ((collectParseArtifactItems nodes).map (selectorOf relativePath)).Nodup ↔
      (Declared.ofNodes nodes).Nodup := by
  have hselectors : (collectParseArtifactItems nodes).map (selectorOf relativePath) =
      (Declared.ofNodes nodes).map fun declared =>
        structuralSelector "rust" relativePath declared.identity := by
    have h := congrArg (List.map (structuralSelector "rust" relativePath))
      (identity_of_collected nodes)
    rw [List.map_map, List.map_map] at h
    exact h
  rw [hselectors]
  refine List.nodup_map_iff (fun first second h => ?_)
  exact Declared.identity_injective ((selectorOf_eq_iff rfl rfl).mp h)

/-- The selectors of the response are those of the artifact. -/
theorem selectors_of_projected {artifacts : List ParseArtifactItem} {items : List Json}
    (hall : List.Forall₂ (ProjectedAs relativePath) artifacts items) :
    items.map (Json.member? "selector") =
      (artifacts.map (selectorOf relativePath)).map fun selector => some (.string selector) := by
  induction hall with
  | nil => rfl
  | cons has _ ih => rw [List.map_cons, has.selector, ih, List.map_cons, List.map_cons]

/-- **No item is lost or merged.**  For a source that parses, the response has exactly
one item for each item of the artifact, in its order and under a selector of its own,
exactly when no two declarations of the file are the same but for the modules and blocks
they stand in, and the code of each callable can be cut out of the source.

The selectors are made from the declaration alone, and an item whose selector was seen
before is passed over.  The second condition fails only for a text of which something
was taken away before tokenizing. -/
theorem projectionItems_once_iff (parser : RustParser) (source : SourceText)
    (relativePath ownerId : String) (authority : ExactProjectionAuthority) {nodes : List Node}
    (hparse : parser.parseFile source.chars = .ok nodes) :
    (∃ items,
      projectionItems source relativePath ownerId (some authority) parser = .ok items ∧
        List.Forall₂ (ProjectedAs relativePath) (collectParseArtifactItems nodes) items ∧
        (items.map (Json.member? "selector")).Nodup) ↔
      (Declared.ofNodes nodes).Nodup ∧
        ∀ artifact ∈ collectParseArtifactItems nodes, InOwner source artifact := by
  have hartifacts : parseOwnerItemsV1 parser source.chars =
      .ok (collectParseArtifactItems nodes) := by
    rw [parseOwnerItemsV1, hparse]
  rw [← nodup_selectors_iff nodes relativePath]
  constructor
  · rintro ⟨items, hitems, hall, -⟩
    rw [projectionItems, hartifacts] at hitems
    cases hproject : projectUnseen source relativePath ownerId (some authority) []
        (collectParseArtifactItems nodes) with
    | error message => simp [hproject] at hitems
    | ok projected =>
        simp only [hproject, Except.ok.injEq] at hitems
        subst hitems
        obtain ⟨hnodup, howner⟩ := (nodup_of_projectUnseen hproject).2 hall.length_eq.symm
        exact ⟨hnodup, fun artifact hmem => (howner artifact hmem).2⟩
  · rintro ⟨hnodup, howner⟩
    obtain ⟨items, hproject, hall⟩ := projectUnseen_of_nodup ownerId authority hnodup
      (fun artifact _ => List.not_mem_nil) howner
    refine ⟨items, by simp [projectionItems, hartifacts, hproject], hall, ?_⟩
    rw [selectors_of_projected hall]
    refine hnodup.map fun first second h => ?_
    simpa using h

end Once

/-! ## Items of one name -/

/-- The tree of a module with one function, at an offset of a text of one line. -/
def moduleWithFunction (offset : ℕ) (name : TokenText) : Node :=
  .item ⟨.mod name, [], ⟨offset, offset + 15, ⟨1, offset⟩, ⟨1, offset + 15⟩⟩⟩ []
    [.item ⟨.function { ident := ⟨"f", by decide⟩ }, [],
      ⟨offset + 6, offset + 14, ⟨1, offset + 6⟩, ⟨1, offset + 14⟩⟩⟩ [] []]

/-- Two functions of one name, each in a module of its own. -/
def siblingModules : List Char := "mod a\x7bfn f()\x7b\x7d\x7dmod b\x7bfn f()\x7b\x7d\x7d".toList

/-- A parser that knows this text. -/
def siblingParser : RustParser :=
  .knowing [] siblingModules
    [moduleWithFunction 0 ⟨"a", by decide⟩, moduleWithFunction 15 ⟨"b", by decide⟩]
    (by decide +kernel)

/-- A parser that knows the first module of it. -/
def firstModuleParser : RustParser :=
  .knowing [] (siblingModules.take 15) [moduleWithFunction 0 ⟨"a", by decide⟩]
    (by decide +kernel)

theorem projectionItems_once_firstModule :
    ∃ items,
      projectionItems ⟨siblingModules.take 15, by decide +kernel⟩ "src/lib.rs" "owner:src/lib.rs"
          (some ⟨"g", "p", "q"⟩) firstModuleParser = .ok items ∧
        List.Forall₂ (ProjectedAs "src/lib.rs")
          (collectParseArtifactItems [moduleWithFunction 0 ⟨"a", by decide⟩]) items ∧
        (items.map (Json.member? "selector")).Nodup :=
  (projectionItems_once_iff firstModuleParser ⟨siblingModules.take 15, by decide +kernel⟩
    "src/lib.rs" "owner:src/lib.rs" ⟨"g", "p", "q"⟩ (by rfl)).mpr
    ⟨by decide +kernel, by decide +kernel⟩

/-- The second of the two functions is lost: its selector is the one of the
first. -/
theorem projectionItems_siblingModules :
    ¬ ∀ (parser : RustParser) (source : SourceText) (relativePath ownerId : String)
      (authority : ExactProjectionAuthority) (nodes : List Node),
      parser.parseFile source.chars = .ok nodes → ∃ items,
        projectionItems source relativePath ownerId (some authority) parser = .ok items ∧
          List.Forall₂ (ProjectedAs relativePath) (collectParseArtifactItems nodes) items ∧
          (items.map (Json.member? "selector")).Nodup := by
  intro h
  obtain ⟨items, -, hall, hnodup⟩ := h siblingParser ⟨siblingModules, by decide +kernel⟩
    "src/lib.rs" "owner:src/lib.rs" ⟨"g", "p", "q"⟩
    [moduleWithFunction 0 ⟨"a", by decide⟩, moduleWithFunction 15 ⟨"b", by decide⟩] (by rfl)
  rw [selectors_of_projected hall] at hnodup
  have hselectors := (List.nodup_map_iff fun first second h => by simpa using h).mp hnodup
  revert hselectors
  decide +kernel

end AspRust.Provider
