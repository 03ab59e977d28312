import AspRust.Foundation.Json
import AspRust.Provider.ParseArtifact

/-!
# The skeleton projection of a callable

The skeleton of a callable has a node for the callable, one for each binding and
each branch, loop and exit in its block, and the cost of the projection: how many
bytes the source has, how many the projection, and how many are left out.

## The cost of a projection that states its cost

`projectedBytes` is the length of the payload that has it as a field.  The payload
is measured three times, each time with the counts of the time before.  Where the
source exceeds the payload by a power of ten the two counts keep undoing each
other, and the payload that is returned does not have the length it states:
`Oscillates` is exactly this case.

## The nodes of a skeleton

The nodes are those of the source in its order: bindings, branches, loops and exits at any depth
of the block, numbered as they are met.  Positions are turned into byte offsets by adding up lines
(`lineColumnOffset`), and how exact that is, is the subject of `LineColumns`.
-/

namespace AspRust.Provider

open AspRust.Foundation

/-! ## Selectors -/

/-- The digests of the generation that a projection belongs to. -/
structure ExactProjectionAuthority where
  generationIdentityDigest : String
  parserIdentityDigest : String
  queryPackDigest : String
deriving DecidableEq, Repr

/-- An item and its code. -/
structure ResolvedExactItem where
  canonicalSelector : CanonicalItemSelector
  ownerPath : String
  identity : CanonicalItemIdentity
  code : SourceText

/-- The text of a string value. -/
def asStr? : Json → Option String
  | .string value => some value
  | _ => none

/-- A scope of an identity. -/
def scopeJson (scope : CanonicalItemScope) : Json :=
  .object [("kind", .string scope.kind), ("relation", .string scope.relation),
    ("symbol", .string scope.symbol)]

/-- The selector of an item, or of the first segment in it. -/
def exactSelectorJson (resolved : ResolvedExactItem) (authority : ExactProjectionAuthority)
    (segments : List Json) : Json :=
  let canonical := resolved.canonicalSelector
  let selector :=
    match segments with
    | [] => canonical.structuralSelector
    | segment :: _ =>
        canonical.structuralSelector ++ "/segment/" ++
          ((segment.member? "kind").bind asStr?).getD "node" ++ "/" ++
          ((segment.member? "identity").bind asStr?).getD "ordinal"
  .object
    [("generationIdentityDigest", .string authority.generationIdentityDigest),
      ("languageId", .string "rust"),
      ("ownerPath", .string resolved.ownerPath),
      ("parserIdentityDigest", .string authority.parserIdentityDigest),
      ("queryPackDigest", .string authority.queryPackDigest),
      ("rootItemSelector", .object
        [("kind", .string canonical.kind),
          ("languageId", .string canonical.languageId),
          ("schemaId", .string "asp.canonical-item-selector.v1"),
          ("schemaVersion", .string "1"),
          ("scopes", .array (canonical.scopes.map scopeJson)),
          ("structuralSelector", .string canonical.structuralSelector),
          ("symbol", .string canonical.symbol)]),
      ("schemaId", .string "asp.exact-structural-selector.v1"),
      ("schemaVersion", .string "1"),
      ("segments", .array segments),
      ("selector", .string selector)]

/-! ## Nodes -/

/-- The lines of a text, each with the line feed that ends it. -/
def splitInclusive : List Char → List (List Char)
  | [] => []
  | c :: rest =>
      if c = '\n' then [c] :: splitInclusive rest
      else
        match splitInclusive rest with
        | [] => [[c]]
        | line :: lines => (c :: line) :: lines

/-- The byte offset of a position: the lines before it, and its column.  The
position after the last line is the end of the text. -/
def lineColumnOffset (source : List Char) (location : LineColumn) : Option ℕ :=
  if location.line = 0 then none
  else
    match (splitInclusive source)[location.line - 1]? with
    | some line =>
        if location.column ≤ utf8Length line then
          some ((((splitInclusive source).take (location.line - 1)).map utf8Length).sum +
            location.column)
        else none
    | none =>
        if location.line = (lines source).length + 1 ∧ location.column = 0 then
          some (utf8Length source)
        else none

/-- The nodes and relations that have been collected. -/
structure SkeletonCollector where
  resolved : ResolvedExactItem
  authority : ExactProjectionAuthority
  spanSource : List Char
  spanBase : ℕ
  nodes : List Json
  relations : List Json
  nextOrder : ℕ

namespace SkeletonCollector

/-- Add a node of the block. -/
def push (kind label : String) (span : Span) (collector : SkeletonCollector) :
    SkeletonCollector :=
  let order := collector.nextOrder
  let nodeId := kind ++ ":" ++ toString order
  let sourceByteStart := (lineColumnOffset collector.spanSource span.start).getD 0
  let sourceByteEnd := (lineColumnOffset collector.spanSource span.stop).getD sourceByteStart
  let segment : Json := .object
    [("identity", .string ("ordinal-" ++ toString order)), ("kind", .string kind),
      ("label", .string label), ("relation", .string "contains")]
  let exactSelector := exactSelectorJson collector.resolved collector.authority [segment]
  { collector with
    nextOrder := order + 1
    nodes := collector.nodes ++ [.object
      [("kind", .string kind), ("label", .string label), ("nodeId", .string nodeId),
        ("order", .number order), ("queryable", .bool true),
        ("selector", (exactSelector.member? "selector").getD .null),
        ("sourceLocatorHint", .object
          [("sourceByteEnd", .number (collector.spanBase + sourceByteEnd)),
            ("sourceByteStart", .number (collector.spanBase + sourceByteStart))])]]
    relations := collector.relations ++ [.object
      [("fromNodeId", .string "callable:root"), ("kind", .string "contains"),
        ("toNodeId", .string nodeId)]] }

/-- The node an expression gives. -/
def pushExpr (kind : ExprKind) (span : Span) (collector : SkeletonCollector) : SkeletonCollector :=
  match kind with
  | .ifExpr => collector.push "branch" "if" span
  | .matchExpr => collector.push "branch" "match" span
  | .loopExpr => collector.push "loop" "loop" span
  | .whileExpr => collector.push "loop" "while" span
  | .forLoop => collector.push "loop" "for" span
  | .returnExpr => collector.push "exit" "return" span
  | .other => collector

mutual

/-- Visit a node and what stands beneath it. -/
def visit : Node → SkeletonCollector → SkeletonCollector
  | .item _ head body, collector => visitAll body (visitAll head collector)
  | .binding span children, collector => visitAll children (collector.push "binding" "let" span)
  | .expr kind span children, collector => visitAll children (collector.pushExpr kind span)

/-- Visit the statements of a block. -/
def visitAll : List Node → SkeletonCollector → SkeletonCollector
  | [], collector => collector
  | node :: rest, collector => visitAll rest (visit node collector)

end

end SkeletonCollector

/-! ## The payload -/

/-- How many bytes the source and the projection have, and how many are left
out. -/
structure ProjectionCost where
  sourceBytes : ℕ
  projectedBytes : ℕ
  omittedBytes : ℕ
deriving DecidableEq, Repr

/-- The parts of a payload other than its cost. -/
structure SkeletonContent where
  rootSelector : Json
  callable : Json
  nodes : List Json
  relations : List Json

/-- The payload. -/
def SkeletonContent.payload (content : SkeletonContent) (cost : ProjectionCost) : Json :=
  .object
    [("callable", content.callable),
      ("cost", .object
        [("omittedBytes", .number cost.omittedBytes),
          ("projectedBytes", .number cost.projectedBytes),
          ("sourceBytes", .number cost.sourceBytes)]),
      ("languageFacts", .object [("parser", .string "syn"), ("syntax", .string "rust")]),
      ("nodes", .array content.nodes),
      ("relations", .array content.relations),
      ("rootNodeId", .string "callable:root"),
      ("rootSelector", content.rootSelector)]

/-- The kind of callable that is shown. -/
def callableKind (kind : String) : String :=
  if kind = "method" ∨ kind = "trait-function" then "method" else kind

/-- The node of the callable itself. -/
def rootNode (signature : Signature) (rootSelector : Json) : Json :=
  .object
    [("kind", .string "callable"),
      ("label", .string signature.ident.text),
      ("languageFacts", .object
        [("async", .bool signature.isAsync), ("const", .bool signature.isConst),
          ("genericParameterCount", .number signature.genericParams),
          ("inputCount", .number signature.inputs), ("unsafe", .bool signature.isUnsafe)]),
      ("nodeId", .string "callable:root"),
      ("order", .number 0),
      ("queryable", .bool true),
      ("selector", rootSelector)]

/-- The content that is projected for a callable. -/
def skeletonContent (resolved : ResolvedExactItem) (authority : ExactProjectionAuthority)
    (callable : ParsedCallableSyntax) (spanSource : List Char) (spanBase : ℕ)
    (rootSelector : Json) : SkeletonContent :=
  let signature := callable.signature
  let collector := SkeletonCollector.visitAll callable.block
    { resolved := resolved
      authority := authority
      spanSource := spanSource
      spanBase := spanBase
      nodes := [rootNode signature rootSelector]
      relations := []
      nextOrder := 1 }
  { rootSelector := rootSelector
    callable := .object
      [("displayName", .string signature.ident.text),
        ("kind", .string (callableKind resolved.identity.kind)),
        ("signature", .string signature.ident.text)]
    nodes := collector.nodes
    relations := collector.relations }

/-- Measure the payload and write the counts. -/
def SkeletonContent.measure (content : SkeletonContent) (cost : ProjectionCost) : ProjectionCost :=
  let projectedBytes := (content.payload cost).encode.length
  { cost with
    projectedBytes := projectedBytes
    omittedBytes := cost.sourceBytes - projectedBytes }

/-- The projection of a callable, measured three times. -/
def renderCallableSkeletonProjection (resolved : ResolvedExactItem)
    (authority : ExactProjectionAuthority) (callable : ParsedCallableSyntax)
    (spanSource : List Char) (spanBase : ℕ) : Except String Json :=
  match (exactSelectorJson resolved authority []).member? "selector" with
  | none => .error "callable root exact selector omitted selector"
  | some rootSelector =>
      let content :=
        skeletonContent resolved authority callable spanSource spanBase rootSelector
      .ok (content.payload (content.measure^[3] ⟨utf8Length resolved.code.chars, 0, 0⟩))

/-- The projection over the source that the callable was parsed from. -/
def callableSkeletonProjectionFromOwnerSyntax (resolved : ResolvedExactItem)
    (authority : ExactProjectionAuthority) (callable : ParsedCallableSyntax)
    (ownerSource : List Char) : Except String Json :=
  renderCallableSkeletonProjection resolved authority callable ownerSource 0

/-! ## The stated cost -/

/-- A count of the cost of a payload. -/
def costCount? (field : String) (payload : Json) : Option ℕ :=
  match (payload.member? "cost").bind (Json.member? field) with
  | some (.number count) => some count
  | _ => none

/-- The payload has the length it states, and what it states to be left out is
what the source exceeds it by. -/
def CostExact (sourceBytes : ℕ) (payload : Json) : Prop :=
  costCount? "projectedBytes" payload = some payload.encode.length ∧
    costCount? "omittedBytes" payload = some (sourceBytes - payload.encode.length)

instance (sourceBytes : ℕ) (payload : Json) : Decidable (CostExact sourceBytes payload) :=
  inferInstanceAs (Decidable (_ ∧ _))

/-- The content of the projection of an item. -/
def projectedContent (resolved : ResolvedExactItem) (authority : ExactProjectionAuthority)
    (callable : ParsedCallableSyntax) (spanSource : List Char) (spanBase : ℕ) : SkeletonContent :=
  skeletonContent resolved authority callable spanSource spanBase
    (.string resolved.canonicalSelector.structuralSelector)

/-- The length of a payload without the digits of its two counts. -/
def SkeletonContent.baseLength (content : SkeletonContent) (sourceBytes : ℕ) : ℕ :=
  (content.payload ⟨sourceBytes, 0, 0⟩).encode.length - 2

namespace SkeletonContent

variable (content : SkeletonContent)

/-- Of the cost, only the widths of its numbers matter for the length. -/
theorem length_payload (cost : ProjectionCost) :
    (content.payload cost).encode.length =
      content.baseLength cost.sourceBytes + decimalWidth cost.projectedBytes +
        decimalWidth cost.omittedBytes := by
  have hzero : decimalWidth 0 = 1 := rfl
  simp only [baseLength, payload, Json.length_encode, Json.text, Json.membersText,
    List.tail_cons, utf8Length_cons, utf8Length_append, utf8Length_nil,
    Json.utf8Length_toDigits, hzero]
  omega

/-- A payload of a count and what the source exceeds it by. -/
theorem length_payload_excess (sourceBytes count : ℕ) :
    (content.payload ⟨sourceBytes, count, sourceBytes - count⟩).encode.length =
      recount (content.baseLength sourceBytes) sourceBytes count :=
  content.length_payload _

/-- The first measurement is of a payload with both counts zero. -/
theorem measure_zero (sourceBytes : ℕ) :
    content.measure ⟨sourceBytes, 0, 0⟩ =
      ⟨sourceBytes, content.baseLength sourceBytes + 2,
        sourceBytes - (content.baseLength sourceBytes + 2)⟩ := by
  have hlength : (content.payload ⟨sourceBytes, 0, 0⟩).encode.length =
      content.baseLength sourceBytes + 2 := by
    have hzero : decimalWidth 0 = 1 := rfl
    rw [length_payload, hzero]
  simp only [measure, hlength]

/-- Every later one is of a payload with the counts of the one before. -/
theorem measure_excess (sourceBytes count : ℕ) :
    content.measure ⟨sourceBytes, count, sourceBytes - count⟩ =
      ⟨sourceBytes, recount (content.baseLength sourceBytes) sourceBytes count,
        sourceBytes - recount (content.baseLength sourceBytes) sourceBytes count⟩ := by
  simp only [measure, length_payload_excess]

/-- A payload states its cost exactly when its count is a fixed point. -/
theorem costExact_payload_iff (sourceBytes count : ℕ) :
    CostExact sourceBytes (content.payload ⟨sourceBytes, count, sourceBytes - count⟩) ↔
      recount (content.baseLength sourceBytes) sourceBytes count = count := by
  have hprojected : costCount? "projectedBytes"
      (content.payload ⟨sourceBytes, count, sourceBytes - count⟩) = some count := rfl
  have homitted : costCount? "omittedBytes"
      (content.payload ⟨sourceBytes, count, sourceBytes - count⟩) =
        some (sourceBytes - count) := rfl
  rw [CostExact, hprojected, homitted, length_payload_excess, Option.some_inj, Option.some_inj]
  constructor
  · rintro ⟨hcount, -⟩
    exact hcount.symm
  · intro hfix
    exact ⟨hfix.symm, by rw [hfix]⟩

end SkeletonContent

section Cost

variable (resolved : ResolvedExactItem) (authority : ExactProjectionAuthority)
  (callable : ParsedCallableSyntax) (spanSource : List Char) (spanBase : ℕ)

/-- The projection always succeeds, with the content of the item and the counts of
the third measurement. -/
theorem renderCallableSkeletonProjection_eq :
    renderCallableSkeletonProjection resolved authority callable spanSource spanBase =
      .ok ((projectedContent resolved authority callable spanSource spanBase).payload
        ((projectedContent resolved authority callable spanSource spanBase).measure^[3]
          ⟨utf8Length resolved.code.chars, 0, 0⟩)) := rfl

/-- **The stated cost.**  The projection of a callable states its own length, and what
it leaves out, exactly when the length of the source does not oscillate with the length
of the projected content.

The two counts stand in the content whose length they give, and the loop measures three
times.  It comes to no rest exactly where one more byte in the one count takes a digit
away from the other. -/
theorem projectionCost_exact_iff :
    (∃ payload,
      renderCallableSkeletonProjection resolved authority callable spanSource spanBase =
          .ok payload ∧
        CostExact (utf8Length resolved.code.chars) payload) ↔
      ¬ Oscillates
        ((projectedContent resolved authority callable spanSource spanBase).baseLength
          (utf8Length resolved.code.chars))
        (utf8Length resolved.code.chars) := by
  generalize hcontent : projectedContent resolved authority callable spanSource spanBase = content
  have hsmall : utf8Length resolved.code.chars < 10 ^ 20 :=
    lt_of_le_of_lt resolved.code.length_le (by decide)
  rw [renderCallableSkeletonProjection_eq, hcontent, Function.iterate_succ_apply,
    Function.iterate_succ_apply, Function.iterate_one, SkeletonContent.measure_zero,
    SkeletonContent.measure_excess, SkeletonContent.measure_excess]
  simp only [Except.ok.injEq, exists_eq_left', SkeletonContent.costExact_payload_iff]
  exact recount_third_iff hsmall

end Cost

/-- A function of 516 bytes, whose block is 507 spaces. -/
def paddedFunction : ResolvedExactItem where
  canonicalSelector := .new ⟨"rust", "function", "f", []⟩ "rust://a.rs#item/function/f"
  ownerPath := "a.rs"
  identity := ⟨"rust", "function", "f", []⟩
  code := ⟨"fn f() \x7b".toList ++ List.replicate 507 ' ' ++ ['\x7d'], by decide +kernel⟩

/-- The payload of this function states 506 bytes and ten left out, and is 507 bytes
long. -/
theorem projectionCost_paddedFunction :
    ¬ ∀ (resolved : ResolvedExactItem) (authority : ExactProjectionAuthority)
      (callable : ParsedCallableSyntax) (spanSource : List Char) (spanBase : ℕ), ∃ payload,
        renderCallableSkeletonProjection resolved authority callable spanSource spanBase =
            .ok payload ∧
          CostExact (utf8Length resolved.code.chars) payload := by
  intro h
  obtain ⟨payload, hpayload, hexact⟩ := h paddedFunction ⟨"g", "p", "q"⟩
    ⟨{ ident := ⟨"f", by decide⟩ }, []⟩ paddedFunction.code.chars 0
  rw [renderCallableSkeletonProjection_eq, Except.ok.injEq] at hpayload
  subst hpayload
  revert hexact
  decide +kernel

end AspRust.Provider
