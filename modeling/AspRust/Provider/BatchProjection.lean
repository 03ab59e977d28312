import AspRust.Foundation.PathText
import AspRust.Provider.ItemProjection

/-!
# Batch projection

A batch names owners, each with its source, and auxiliary owners that are validated
with them.  The response has the projection of each owner under the path that is
left of the owner's path when only its ordinary names count.

## Two notions of one path

The owners of a batch are kept apart by the path as it is written, in which a
leading `.` counts, while the response names an owner by its ordinary names.  So
`./src/lib.rs` beside `src/lib.rs` is accepted and answered twice under one path:
`DotTwin` is this relation, and `batch_answers_iff` says that nothing else goes
wrong.

## Order of failures

A batch is checked as a whole before an owner is projected, and the first check that fails
ends it with the text of the check.  After that a source that cannot be parsed does not end
the batch: a diagnostic, cut to a bound, stands in the place of its items.  An item that cannot
be cut out of its source does.
-/

namespace AspRust.Provider

open AspRust.Foundation

/-! ## Requests

The checks of a batch: of its header, of the encoding of each source, and of the paths
of its owners, which have to be relative, without steps to the parent, and different. -/

/-- The bytes of a vector in memory. -/
abbrev ByteVector := { bytes : List UInt8 // bytes.length ≤ usizeMax }

/-- One owner of a batch. -/
structure LanguageProjectionBatchOwner where
  ownerPath : String
  sourceLeafDigest : String
  sourceEncoding : String
  sourceText : Option SourceText := none
  sourceBytesBase64 : Option String := none

/-- A batch. -/
structure LanguageProjectionBatchHeader where
  schemaId : String
  schemaVersion : String
  languageId : String
  providerId : String
  workspaceIdentity : String
  generationRootDigest : String
  parserIdentityDigest : String
  queryPackDigest : String
  baseGenerationRootDigest : Option String := none
  owners : List LanguageProjectionBatchOwner
  auxiliaryOwners : List LanguageProjectionBatchOwner := []

/-- What the provider takes from other packages: the decoding of a request, base64
and the parser. -/
structure ProjectionLibraries (Request : Type) where
  decodeRequest : Request → Except String LanguageProjectionBatchHeader
  decodeBase64 : String → Except String ByteVector
  parser : RustParser

/-- A text of white space only. -/
def isBlank (text : String) : Bool := trim text.toList = []

section Handler

variable {Request : Type} (libraries : ProjectionLibraries Request)

/-- The source is there in the encoding that is stated, and in no other. -/
def validateSourceEncodingPayload (owner : LanguageProjectionBatchOwner) : Except String Unit :=
  match owner.sourceEncoding, owner.sourceText, owner.sourceBytesBase64 with
  | "utf8", some _, none => .ok ()
  | "base64", none, some sourceBytesBase64 =>
      match libraries.decodeBase64 sourceBytesBase64 with
      | .ok _ => .ok ()
      | .error error => .error ("decode projection owner base64 source: " ++ error)
  | _, _, _ => .error "projection owner source encoding payload mismatch"

/-- The text of a source. -/
def decodeSourceText (owner : LanguageProjectionBatchOwner) : Except String SourceText :=
  match owner.sourceEncoding, owner.sourceText, owner.sourceBytesBase64 with
  | "utf8", some sourceText, none => .ok sourceText
  | "base64", none, some sourceBytesBase64 =>
      match libraries.decodeBase64 sourceBytesBase64 with
      | .error error => .error ("decode projection owner base64 source: " ++ error)
      | .ok bytes =>
          match h : fromUtf8 bytes.1 with
          | .ok text => .ok ⟨text, (utf8Length_le_of_decodeUtf8From h).trans bytes.2⟩
          | .error error => .error ("Rust projection owner is not UTF-8: " ++ error.describe)
  | _, _, _ => .error "projection owner source encoding payload mismatch"

/-- An owner is named by a path in the workspace. -/
def validateRelativeOwner (owner : String) : Except String Unit :=
  if Path.isAbsolute owner ∨ (Path.components owner).any fun component =>
      component = .parentDir ∨ component = .rootDir then
    .error "projection owner must be a relative workspace path"
  else .ok ()

/-- The path that names an owner in the response. -/
def projectPath (path : String) : String := Path.joinNames (Path.normalNames (Path.parse path))

/-- Check the owners in turn, against the paths that have been seen. -/
def validateOwners (seen : List (List PathComponent)) :
    List LanguageProjectionBatchOwner → Except String Unit
  | [] => .ok ()
  | owner :: rest => do
      validateRelativeOwner owner.ownerPath
      validateSourceEncodingPayload libraries owner
      if isBlank owner.sourceLeafDigest ∨ Path.components owner.ownerPath ∈ seen then
        .error "projection batch owner identities must be non-empty and unique"
      else validateOwners (Path.components owner.ownerPath :: seen) rest

/-- Check a batch. -/
def validateProjectionBatchHeader (header : LanguageProjectionBatchHeader) : Except String Unit :=
  if header.schemaId ≠ "agent.semantic-protocols.provider-language-projection-batch-request" ∨
      header.schemaVersion ≠ "1" ∨ header.languageId ≠ "rust" ∨
      header.providerId ≠ "asp-rust" then
    .error "projection batch header contract mismatch"
  else if isBlank header.workspaceIdentity ∨ isBlank header.generationRootDigest ∨
      isBlank header.parserIdentityDigest ∨ isBlank header.queryPackDigest ∨
      header.baseGenerationRootDigest = some "" ∨ header.owners.isEmpty then
    .error "projection batch header requires generation identity and owners"
  else if header.owners.any fun owner =>
      isBlank owner.sourceLeafDigest ∨
        Path.extension? (Path.parse owner.ownerPath) ≠ some "rs" then
    .error "projection batch owners must be identified Rust sources"
  else validateOwners libraries [] (header.owners ++ header.auxiliaryOwners)

/-! ## Responses

The response is put together from the bytes of its owners, each under its projected
path. -/

/-- The message of a diagnostic, at most 4096 characters long. -/
def boundedProjectionDiagnostic (message : String) : String :=
  let message := trim message.toList
  let message :=
    if message = [] then "Rust parser rejected the source owner".toList else message
  String.ofList (message.take 4096)

/-- The relation of an owner to an item. -/
def containsRelation (ownerId : String) (item : Json) : Json :=
  .object
    [("from", .object [("id", .string ownerId), ("kind", .string "owner")]),
      ("kind", .string "contains"),
      ("to", .object [("id", (item.member? "itemId").getD .null), ("kind", .string "item")])]

/-- The entry of an owner. -/
def renderBatchOwnerProjection (ownerPath sourceLeafDigest : String) (source : SourceText)
    (authority : ExactProjectionAuthority) : Except String Json :=
  if isBlank sourceLeafDigest then
    .error "projection owner sourceLeafDigest must be non-empty"
  else
    let relativePath := projectPath ownerPath
    let ownerId := "owner:" ++ relativePath
    match projectionItems source relativePath ownerId (some authority) libraries.parser with
    | .error (.integrity message) => .error message
    | .error (.syntaxUnavailable message) =>
        .ok (.object
          [("diagnostic", .object
              [("message", .string (boundedProjectionDiagnostic message)),
                ("reasonKind", .string "source-syntax-unavailable"),
                ("schemaId",
                  .string "agent.semantic-protocols.provider-language-projection-diagnostic"),
                ("schemaVersion", .string "1")]),
            ("items", .array []),
            ("ownerPath", .string relativePath),
            ("projectionState", .string "syntax-unavailable"),
            ("relations", .array []),
            ("sourceLeafDigest", .string sourceLeafDigest)])
    | .ok items =>
        .ok (.object
          [("diagnostic", .null),
            ("items", .array items),
            ("ownerPath", .string relativePath),
            ("projectionState", .string "ready"),
            ("relations", .array (items.map (containsRelation ownerId))),
            ("sourceLeafDigest", .string sourceLeafDigest)])

/-- The entries of the response: the first has no comma before it. -/
def appendOwners (index : ℕ) : List (List UInt8) → List UInt8
  | [] => []
  | owner :: rest =>
      (if index ≠ 0 then utf8 [','] else []) ++ owner ++ appendOwners (index + 1) rest

/-- The bytes of the response. -/
def encodeProjectionBatchResponse (header : LanguageProjectionBatchHeader)
    (projectedOwners : List (List UInt8)) : List UInt8 :=
  utf8 ("\x7b\"schemaId\":\"agent.semantic-protocols.provider-language-projection-batch-response\"" ++
      ",\"schemaVersion\":\"1\",\"languageId\":").toList ++
    Json.encode (.string header.languageId) ++
    utf8 ",\"providerId\":".toList ++ Json.encode (.string header.providerId) ++
    utf8 ",\"generationRootDigest\":".toList ++
    Json.encode (.string header.generationRootDigest) ++
    utf8 ",\"owners\":[".toList ++ appendOwners 0 projectedOwners ++ utf8 "]\x7d".toList

/-- Answer a batch. -/
def handleLanguageProjectionBatchValue (request : Request) : Except String (List UInt8) := do
  let header ←
    match libraries.decodeRequest request with
    | .ok header => .ok header
    | .error error => .error ("decode structured projection request: " ++ error)
  validateProjectionBatchHeader libraries header
  let authority : ExactProjectionAuthority :=
    { generationIdentityDigest := header.generationRootDigest
      parserIdentityDigest := header.parserIdentityDigest
      queryPackDigest := header.queryPackDigest }
  let projectedOwners ← header.owners.mapM fun owner => do
    let sourceText ← decodeSourceText libraries owner
    let projection ← renderBatchOwnerProjection libraries owner.ownerPath owner.sourceLeafDigest
      sourceText authority
    .ok projection.encode
  .ok (encodeProjectionBatchResponse header projectedOwners)

end Handler

/-! ## What an accepted batch is answered with

The entries of the response are those of the owners, in their order.  Their paths are
different exactly if no two owners are twins. -/

/-- The response as a value. -/
def batchResponse (header : LanguageProjectionBatchHeader) (entries : List Json) : Json :=
  .object
    [("schemaId",
        .string "agent.semantic-protocols.provider-language-projection-batch-response"),
      ("schemaVersion", .string "1"),
      ("languageId", .string header.languageId),
      ("providerId", .string header.providerId),
      ("generationRootDigest", .string header.generationRootDigest),
      ("owners", .array entries)]

/-- The entry is about the owner. -/
structure AnswersOwner (owner : LanguageProjectionBatchOwner) (entry : Json) : Prop where
  ownerPath : entry.member? "ownerPath" = some (.string (projectPath owner.ownerPath))
  sourceLeafDigest : entry.member? "sourceLeafDigest" = some (.string owner.sourceLeafDigest)

/-- The response has one entry for each owner, in the order of the request and with
distinct paths, and no two owners of the batch, auxiliary ones included, resolve to
one path. -/
def AnswersEachOnce (header : LanguageProjectionBatchHeader) (response : List UInt8) : Prop :=
  (∃ entries, response = (batchResponse header entries).encode ∧
    List.Forall₂ AnswersOwner header.owners entries ∧
    (entries.map (Json.member? "ownerPath")).Nodup) ∧
  ((header.owners ++ header.auxiliaryOwners).map fun owner => projectPath owner.ownerPath).Nodup

/-- Two spellings of one path, of which one starts with `.`. -/
def DotTwin (first second : String) : Prop :=
  Path.parse first = Path.parse second ∧
    Path.startsWithCurDir first ≠ Path.startsWithCurDir second

section Answer

variable {Request : Type} {libraries : ProjectionLibraries Request}

/-- The entries are the elements of the array. -/
theorem appendOwners_encode (index : ℕ) (entries : List Json) :
    appendOwners index (entries.map Json.encode) =
      utf8 (if index ≠ 0 then Json.elementsText entries else (Json.elementsText entries).tail) := by
  induction entries generalizing index with
  | nil => simp [appendOwners, Json.elementsText]
  | cons entry rest ih =>
      rw [List.map_cons, appendOwners, ih, Json.elementsText]
      by_cases hindex : index = 0
      · simp [hindex, Json.encode]
      · simp [hindex, Json.encode]

/-- The bytes of the response are those of the value. -/
theorem encodeProjectionBatchResponse_eq (header : LanguageProjectionBatchHeader)
    (entries : List Json) :
    encodeProjectionBatchResponse header (entries.map Json.encode) =
      (batchResponse header entries).encode := by
  have hopen : ("\x7b\"schemaId\":\"agent.semantic-protocols.provider-language-projection-batch-response\"" ++
      ",\"schemaVersion\":\"1\",\"languageId\":").toList =
      '\x7b' :: (Json.stringText "schemaId" ++ ':' :: (Json.stringText
        "agent.semantic-protocols.provider-language-projection-batch-response" ++
        ',' :: (Json.stringText "schemaVersion" ++ ':' :: (Json.stringText "1" ++
        ',' :: (Json.stringText "languageId" ++ [':']))))) := by decide +kernel
  have hprovider : ",\"providerId\":".toList = ',' :: (Json.stringText "providerId" ++ [':']) := by
    decide
  have hgeneration : ",\"generationRootDigest\":".toList =
      ',' :: (Json.stringText "generationRootDigest" ++ [':']) := by decide
  have howners : ",\"owners\":[".toList = ',' :: (Json.stringText "owners" ++ [':', '[']) := by
    decide
  have hclose : "]\x7d".toList = [']', '\x7d'] := by decide
  rw [encodeProjectionBatchResponse, appendOwners_encode, if_neg (by simp), hopen, hprovider,
    hgeneration, howners, hclose]
  simp only [batchResponse, Json.encode, Json.text, Json.membersText, List.tail_cons,
    ← utf8_append, List.append_assoc, List.cons_append, List.nil_append, List.append_nil]

/-- An entry is the one of its owner. -/
theorem answersOwner_of_render {owner : LanguageProjectionBatchOwner} {source : SourceText}
    {authority : ExactProjectionAuthority} {entry : Json}
    (h : renderBatchOwnerProjection libraries owner.ownerPath owner.sourceLeafDigest source
      authority = .ok entry) : AnswersOwner owner entry := by
  unfold renderBatchOwnerProjection at h
  split at h
  · cases h
  · dsimp only at h
    split at h
    · cases h
    · cases h
      exact ⟨rfl, rfl⟩
    · cases h
      exact ⟨rfl, rfl⟩

/-- The paths of the entries are those of the owners. -/
theorem ownerPaths_of_answered {owners : List LanguageProjectionBatchOwner} {entries : List Json}
    (hall : List.Forall₂ AnswersOwner owners entries) :
    entries.map (Json.member? "ownerPath") =
      (owners.map fun owner => projectPath owner.ownerPath).map fun path => some (.string path) := by
  induction hall with
  | nil => rfl
  | cons hanswers _ ih => rw [List.map_cons, hanswers.ownerPath, ih, List.map_cons, List.map_cons]

/-- The encoded entries of a list of owners come from entries. -/
theorem exists_entries {owners : List LanguageProjectionBatchOwner}
    {authority : ExactProjectionAuthority} {encoded : List (List UInt8)}
    (h : (owners.mapM fun owner => do
      let sourceText ← decodeSourceText libraries owner
      let projection ← renderBatchOwnerProjection libraries owner.ownerPath
        owner.sourceLeafDigest sourceText authority
      .ok projection.encode) = .ok encoded) :
    ∃ entries, encoded = entries.map Json.encode ∧ List.Forall₂ AnswersOwner owners entries := by
  have hencoded := forall₂_of_mapM_eq_ok h
  clear h
  induction hencoded with
  | nil => exact ⟨[], rfl, .nil⟩
  | cons hfirst _ ih =>
      obtain ⟨source, -, hfirst⟩ := Except.bind_eq_ok.mp hfirst
      obtain ⟨entry, hentry, hfirst⟩ := Except.bind_eq_ok.mp hfirst
      cases hfirst
      obtain ⟨entries, rfl, hall⟩ := ih
      exact ⟨entry :: entries, rfl, .cons (answersOwner_of_render hentry) hall⟩

/-- An accepted batch has been validated, and its response has an entry for each
owner in order. -/
theorem handle_eq_ok {request : Request} {header : LanguageProjectionBatchHeader}
    {response : List UInt8} (hdecode : libraries.decodeRequest request = .ok header)
    (h : handleLanguageProjectionBatchValue libraries request = .ok response) :
    validateProjectionBatchHeader libraries header = .ok () ∧
      ∃ entries, response = (batchResponse header entries).encode ∧
        List.Forall₂ AnswersOwner header.owners entries := by
  unfold handleLanguageProjectionBatchValue at h
  rw [hdecode] at h
  obtain ⟨decoded, hheader, h⟩ := Except.bind_eq_ok.mp h
  cases hheader
  obtain ⟨⟨⟩, hvalid, h⟩ := Except.bind_eq_ok.mp h
  obtain ⟨encoded, hencoded, h⟩ := Except.bind_eq_ok.mp h
  obtain ⟨entries, rfl, hall⟩ := exists_entries hencoded
  rw [encodeProjectionBatchResponse_eq] at h
  exact ⟨hvalid, entries, (Except.ok.inj h).symm, hall⟩

/-- A relative path without `..`. -/
def RelativeOwner (path : String) : Prop :=
  Path.isAbsolute path = false ∧ Component.parent ∉ Path.parse path

theorem relativeOwner_of_validate {path : String} (h : validateRelativeOwner path = .ok ()) :
    RelativeOwner path := by
  unfold validateRelativeOwner at h
  split at h
  · cases h
  · next hclean =>
      rw [not_or, Bool.not_eq_true, List.any_eq_true] at hclean
      refine ⟨hclean.1, fun hparent => hclean.2 ⟨.parentDir, ?_, by simp⟩⟩
      exact List.mem_append_right _ (List.mem_map.mpr ⟨.parent, hparent, rfl⟩)

/-- Validated owners are relative, and no two are written the same. -/
theorem validateOwners_eq_ok {seen : List (List PathComponent)}
    {owners : List LanguageProjectionBatchOwner}
    (h : validateOwners libraries seen owners = .ok ()) :
    owners.Pairwise (fun first second =>
        Path.components first.ownerPath ≠ Path.components second.ownerPath) ∧
      ∀ owner ∈ owners, Path.components owner.ownerPath ∉ seen ∧
        RelativeOwner owner.ownerPath := by
  induction owners generalizing seen with
  | nil => simp
  | cons owner rest ih =>
      rw [validateOwners] at h
      obtain ⟨⟨⟩, hrelative, h⟩ := Except.bind_eq_ok.mp h
      obtain ⟨⟨⟩, -, h⟩ := Except.bind_eq_ok.mp h
      split at h
      · cases h
      · next hfresh =>
          obtain ⟨hpairwise, hrest⟩ := ih h
          refine ⟨List.pairwise_cons.mpr ⟨fun other hother hsame => ?_, hpairwise⟩, ?_⟩
          · exact (hrest other hother).1 (hsame ▸ List.mem_cons_self)
          · intro other hother
            rcases List.mem_cons.mp hother with rfl | hother
            · exact ⟨fun hseen => hfresh (.inr hseen), relativeOwner_of_validate hrelative⟩
            · exact ⟨fun hseen => (hrest other hother).1 (List.mem_cons_of_mem _ hseen),
                (hrest other hother).2⟩

theorem validateOwners_of_header {header : LanguageProjectionBatchHeader}
    (h : validateProjectionBatchHeader libraries header = .ok ()) :
    validateOwners libraries [] (header.owners ++ header.auxiliaryOwners) = .ok () := by
  unfold validateProjectionBatchHeader at h
  split at h
  · cases h
  · split at h
    · cases h
    · split at h
      · cases h
      · exact h

/-- Two owners that are written differently resolve to one path exactly when they
differ in a leading `.` only. -/
theorem projectPath_eq_iff_dotTwin {first second : String} (hfirst : RelativeOwner first)
    (hsecond : RelativeOwner second) (hne : Path.components first ≠ Path.components second) :
    projectPath first = projectPath second ↔ DotTwin first second := by
  rw [projectPath, projectPath, Path.joinNames_normalNames_inj hfirst.2 hsecond.2, DotTwin]
  rw [Ne, Path.components_eq_iff hfirst.1 hsecond.1] at hne
  tauto

/-- **Each owner is answered once.**  An accepted batch has one entry for each owner, in
order and under distinct paths, and names no path twice, exactly when no two of its
owners differ in a leading `.` only.

Paths are compared by components, and a leading `.` is one of its own.  So the check
takes such a pair as two owners, and the answer, which drops it, gives both under one
path. -/
theorem batch_answers_iff (libraries : ProjectionLibraries Request) {request : Request}
    {header : LanguageProjectionBatchHeader} {response : List UInt8}
    (hdecode : libraries.decodeRequest request = .ok header)
    (haccepted : handleLanguageProjectionBatchValue libraries request = .ok response) :
    AnswersEachOnce header response ↔
      (header.owners ++ header.auxiliaryOwners).Pairwise fun first second =>
        ¬ DotTwin first.ownerPath second.ownerPath := by
  obtain ⟨hvalid, entries, hresponse, hentries⟩ := handle_eq_ok hdecode haccepted
  obtain ⟨hwritten, howners⟩ := validateOwners_eq_ok (validateOwners_of_header hvalid)
  have hpaths :
      ((header.owners ++ header.auxiliaryOwners).map fun owner =>
        projectPath owner.ownerPath).Nodup ↔
      (header.owners ++ header.auxiliaryOwners).Pairwise fun first second =>
        ¬ DotTwin first.ownerPath second.ownerPath := by
    rw [List.Nodup, List.pairwise_map]
    constructor
    · intro h
      refine (hwritten.and h).imp_of_mem fun hfirst hsecond hboth htwin => hboth.2 ?_
      exact (projectPath_eq_iff_dotTwin (howners _ hfirst).2 (howners _ hsecond).2 hboth.1).mpr
        htwin
    · intro h
      refine (hwritten.and h).imp_of_mem fun hfirst hsecond hboth hsame => hboth.2 ?_
      exact (projectPath_eq_iff_dotTwin (howners _ hfirst).2 (howners _ hsecond).2 hboth.1).mp
        hsame
  rw [AnswersEachOnce, hpaths, and_iff_right_iff_imp]
  intro htwins
  have hnodup := hpaths.mpr htwins
  rw [List.map_append] at hnodup
  refine ⟨entries, hresponse, hentries, ?_⟩
  rw [ownerPaths_of_answered hentries]
  refine hnodup.of_append_left.map fun first second h => ?_
  simpa using h

end Answer

/-! ## One file in two spellings -/

/-- A batch of empty sources. -/
def emptyBatch (paths : List String) : LanguageProjectionBatchHeader where
  schemaId := "agent.semantic-protocols.provider-language-projection-batch-request"
  schemaVersion := "1"
  languageId := "rust"
  providerId := "asp-rust"
  workspaceIdentity := "w"
  generationRootDigest := "g"
  parserIdentityDigest := "p"
  queryPackDigest := "q"
  owners := paths.map fun path => ⟨path, "d", "utf8", some ⟨[], by decide⟩, none⟩

/-- Requests that have been decoded, and a parser that knows the empty text. -/
def emptyTextLibraries : ProjectionLibraries LanguageProjectionBatchHeader where
  decodeRequest := .ok
  decodeBase64 _ := .error "unknown text"
  parser := .knowing [] [] [] (by decide)

theorem exists_of_isOk {ε α : Type} {x : Except ε α} (h : x.isOk = true) : ∃ a, x = .ok a := by
  cases x with
  | error => cases h
  | ok a => exact ⟨a, rfl⟩

theorem batch_answers_twoFiles : ∃ response,
    handleLanguageProjectionBatchValue emptyTextLibraries
        (emptyBatch ["src/lib.rs", "./src/main.rs"]) = .ok response ∧
      AnswersEachOnce (emptyBatch ["src/lib.rs", "./src/main.rs"]) response := by
  obtain ⟨response, hresponse⟩ : ∃ response, handleLanguageProjectionBatchValue emptyTextLibraries
      (emptyBatch ["src/lib.rs", "./src/main.rs"]) = .ok response :=
    exists_of_isOk (by decide +kernel)
  refine ⟨response, hresponse, (batch_answers_iff emptyTextLibraries rfl hresponse).mpr ?_⟩
  unfold DotTwin
  decide +kernel

/-- A batch with two spellings of one file is accepted. -/
theorem batch_accepts_dotTwin :
    ¬ ∀ (libraries : ProjectionLibraries LanguageProjectionBatchHeader)
      (header : LanguageProjectionBatchHeader) (response : List UInt8),
      libraries.decodeRequest header = .ok header →
      handleLanguageProjectionBatchValue libraries header = .ok response →
      AnswersEachOnce header response := by
  intro h
  obtain ⟨response, hresponse⟩ : ∃ response, handleLanguageProjectionBatchValue emptyTextLibraries
      (emptyBatch ["src/lib.rs", "./src/lib.rs"]) = .ok response :=
    exists_of_isOk (by decide +kernel)
  have hpaths := (h emptyTextLibraries _ response rfl hresponse).2
  revert hpaths
  decide +kernel

end AspRust.Provider
