import AspRust.Foundation.JsonReader
import AspRust.Provider.BatchProjection
import AspRust.Provider.ConnectionServer
import AspRust.Provider.ResolutionRequest
import AspRust.Provider.SyntaxQuery

/-!
# Provider runtime frames

A request frame names an operation and has its payload; the response frame repeats the
request id and has the payload of the answer, or an error.  The payload of an answer is
bytes of JSON text, which are put into the frame as they are; the batch projection in turn
puts the bytes of its owners into its answer.

Nothing is lost on this way: what a client reads from the bytes of a response frame is the
frame of the value that the operation computed, whatever the request id and the texts in
the answer are (`decodeResponse_handleRequest`).

### What is load-bearing

The payload of an answer is written into the frame without being parsed again, so a frame is
well formed only if the payload is the text of a value.  Each operation is therefore described
twice, by the bytes that it writes (`operationBytes`) and by a value (`operationValue`), and
`operationBytes_eq` says that the bytes are the text of the value.  A client is a reader of JSON
texts that looks for the members of a frame (`decodeResponse`).
-/

namespace AspRust.Provider

open AspRust.Foundation AspRust.Resolution

/-! ## Frames

The frames as they are on the wire, and the check of a request frame by its schema,
version and operation. -/

structure ProviderRuntimeRequestFrame (Payload : Type) where
  schemaId : String
  schemaVersion : String
  requestId : String
  operation : String
  payload : Payload

inductive ProviderRuntimeResponseOutcome where
  | ready
  | error
deriving DecidableEq, Repr

structure ProviderRuntimeResponseFrame where
  schemaId : String
  schemaVersion : String
  requestId : String
  outcome : ProviderRuntimeResponseOutcome
  payload : Option Json
  error : Option String

/-- What the provider takes from other packages and from its host: the decoding of
frames and payloads, the parser, regular expressions, the digest of sources, the
serialization of a resolution and the text of a worker that panicked. -/
structure RuntimeLibraries (Payload : Type) where
  decodeFrame : List UInt8 → Except String (ProviderRuntimeRequestFrame Payload)
  isObject : Payload → Bool
  projection : ProjectionLibraries Payload
  decodeSyntaxQuery : Payload → Except String ProviderSyntaxQueryRequest
  regex : String → Except String (String → Bool)
  blake3 : List Char → String
  decodeResolution : Payload → Except String ProviderProjectResolutionRequest
  host : CargoHost
  encodeScope : ProjectResolution → Json
  /-- The text of a task that panicked, with the id of the task and the message. -/
  describePanic : ℕ → String → String

section Operations

variable {Payload : Type} (libraries : RuntimeLibraries Payload)

/-- Check a request frame. -/
def ProviderRuntimeRequestFrame.validate (frame : ProviderRuntimeRequestFrame Payload) :
    Except String Unit :=
  if frame.schemaId ≠ "agent.semantic-protocols.provider-runtime-request-frame" ∨
      frame.schemaVersion ≠ "1" then
    .error "provider runtime request frame schema identity drift"
  else if isBlank frame.requestId ∨ isBlank frame.operation then
    .error "provider runtime request frame requires requestId and operation"
  else if !libraries.isObject frame.payload then
    .error "provider runtime request payload must be a JSON object"
  else .ok ()

/-! ## Operations

Each operation from the bytes of its payload to the bytes of its answer, as the source
has it. -/

def ProviderSyntaxQueryCapture.toJson (capture : ProviderSyntaxQueryCapture) : Json :=
  .object
    [("patternIndex", .number capture.patternIndex),
      ("captureName", .string capture.captureName),
      ("nativeFactRef", .string capture.nativeFactRef),
      ("structuralSelector", .string capture.structuralSelector),
      ("sourceByteStart", .number capture.sourceByteStart),
      ("sourceByteEnd", .number capture.sourceByteEnd)]

def ProviderSyntaxQueryResponse.members (response : ProviderSyntaxQueryResponse) :
    List (String × Json) :=
  [("schemaId", .string response.schemaId), ("schemaVersion", .string response.schemaVersion),
    ("languageId", .string response.languageId), ("providerId", .string response.providerId),
    ("ownerPath", .string response.ownerPath),
    ("sourceContentDigest", .string response.sourceContentDigest),
    ("queryDigest", .string response.queryDigest), ("parsed", .bool response.parsed),
    ("captures", .array (response.captures.map ProviderSyntaxQueryCapture.toJson))]

/-- The bytes of the answer to a syntax query. -/
def handleSyntaxQueryOperationValue (payload : Payload) : Outcome (List UInt8) :=
  match libraries.decodeSyntaxQuery payload with
  | .error error => .error (.returned ("decode provider syntax-query request: " ++ error))
  | .ok request =>
      (handleSyntaxQueryOperation libraries.regex libraries.blake3 libraries.projection.parser
        request).map fun response => Json.encode (.object response.members)

/-- The bytes of the answer to a request for a project resolution. -/
def handleProjectResolutionRequestValue (payload : Payload) : Outcome (List UInt8) :=
  match libraries.decodeResolution payload with
  | .error error => .error (.returned ("parse project-resolution stdin request: " ++ error))
  | .ok request =>
      (handleProjectResolutionRequest libraries.host request).map fun answer =>
        Json.encode (.object (answer.1.members libraries.encodeScope))

/-- The bytes of the answer to a batch. -/
def handleProjectionBatch (payload : Payload) : Outcome (List UInt8) :=
  match handleLanguageProjectionBatchValue libraries.projection payload with
  | .ok response => .ok response
  | .error error => .error (.returned error)

/-- The bytes of the answer to a request frame. -/
def operationBytes (frame : ProviderRuntimeRequestFrame Payload) : Outcome (List UInt8) :=
  match frame.validate libraries with
  | .error error => .error (.returned error)
  | .ok () =>
      if frame.operation = "syntax-query" then
        handleSyntaxQueryOperationValue libraries frame.payload
      else if frame.operation = "projection-batch" then
        handleProjectionBatch libraries frame.payload
      else if frame.operation = "project-resolution" then
        handleProjectResolutionRequestValue libraries frame.payload
      else
        .error (.returned ("provider runtime operation is not admitted: " ++ frame.operation))

/-! ## Responses

The frame around an answer, or around the text of an error. -/

/-- The name of an outcome on the wire. -/
def ProviderRuntimeResponseOutcome.wireName : ProviderRuntimeResponseOutcome → String
  | .ready => "ready"
  | .error => "error"

/-- A frame on the wire; what is missing is left out. -/
def ProviderRuntimeResponseFrame.toJson (frame : ProviderRuntimeResponseFrame) : Json :=
  .object
    ([("schemaId", .string frame.schemaId), ("schemaVersion", .string frame.schemaVersion),
        ("requestId", .string frame.requestId), ("outcome", .string frame.outcome.wireName)] ++
      (frame.payload.toList.map fun payload => ("payload", payload)) ++
      frame.error.toList.map fun error => ("error", .string error))

/-- The frame of an error. -/
def ProviderRuntimeResponseFrame.ofError (requestId error : String) :
    ProviderRuntimeResponseFrame where
  schemaId := "agent.semantic-protocols.provider-runtime-response-frame"
  schemaVersion := "1"
  requestId := requestId
  outcome := .error
  payload := none
  error := some error

/-- The bytes of the frame of an answer. -/
def encodeReadyResponseFrame (requestId : String) (payload : List UInt8) : List UInt8 :=
  utf8 ("\x7b\"schemaId\":\"agent.semantic-protocols.provider-runtime-response-frame\"," ++
      "\"schemaVersion\":\"1\",\"requestId\":").toList ++
    Json.encode (.string requestId) ++
    utf8 ",\"outcome\":\"ready\",\"payload\":".toList ++ payload ++ utf8 "\x7d".toList

/-- The bytes of the response to a request frame. -/
def handleRequest (frame : ProviderRuntimeRequestFrame Payload) : Outcome (List UInt8) :=
  match operationBytes libraries frame with
  | .ok payload => .ok (encodeReadyResponseFrame frame.requestId payload)
  | .error (.returned error) =>
      .ok (Json.encode (ProviderRuntimeResponseFrame.ofError frame.requestId error).toJson)
  | .error fault => .error fault

end Operations

/-! ## What a client reads

A client that reads the text of the frame and takes its members apart. -/

/-- The outcome of a name on the wire. -/
def outcomeOfWireName? (name : String) : Option ProviderRuntimeResponseOutcome :=
  if name = "ready" then some .ready else if name = "error" then some .error else none

/-- The text of a value that is one. -/
def jsonString? : Json → Option String
  | .string value => some value
  | _ => none

/-- A member that may be missing or null. -/
def optionalMember (key : String) (value : Json) : Option Json :=
  (value.member? key).filter fun found =>
    match found with
    | .null => false
    | _ => true

/-- The frame of a value: every key is known and comes once, and nothing is missing
that is required. -/
def ProviderRuntimeResponseFrame.ofJson? (value : Json) : Option ProviderRuntimeResponseFrame :=
  match value with
  | .object members =>
      if (members.map Prod.fst).Nodup ∧
          ∀ key ∈ members.map Prod.fst, key ∈ ["schemaId", "schemaVersion", "requestId", "outcome",
            "payload", "error"] then do
        let schemaId ← (value.member? "schemaId").bind jsonString?
        let schemaVersion ← (value.member? "schemaVersion").bind jsonString?
        let requestId ← (value.member? "requestId").bind jsonString?
        let outcome ← ((value.member? "outcome").bind jsonString?).bind outcomeOfWireName?
        let error ←
          match optionalMember "error" value with
          | none => some none
          | some error => (jsonString? error).map some
        some { schemaId, schemaVersion, requestId, outcome
               payload := optionalMember "payload" value, error }
      else none
  | _ => none

/-- The frame that some bytes stand for. -/
def decodeResponse (bytes : List UInt8) : Option ProviderRuntimeResponseFrame :=
  match fromUtf8 bytes with
  | .ok text => (Json.read text).bind ProviderRuntimeResponseFrame.ofJson?
  | .error _ => none

/-! ## Answers as values

Each operation once more, now to the value of its answer. -/

section Values

variable {Payload : Type} (libraries : RuntimeLibraries Payload)

/-- The entry of an owner of a batch. -/
def ownerEntry (authority : ExactProjectionAuthority) (owner : LanguageProjectionBatchOwner) :
    Except String Json := do
  let sourceText ← decodeSourceText libraries.projection owner
  renderBatchOwnerProjection libraries.projection owner.ownerPath owner.sourceLeafDigest sourceText
    authority

/-- The answer to a batch as a value. -/
def projectionBatchValue (payload : Payload) : Except String Json :=
  match libraries.projection.decodeRequest payload with
  | .error error => .error ("decode structured projection request: " ++ error)
  | .ok header => do
      validateProjectionBatchHeader libraries.projection header
      let authority : ExactProjectionAuthority :=
        { generationIdentityDigest := header.generationRootDigest
          parserIdentityDigest := header.parserIdentityDigest
          queryPackDigest := header.queryPackDigest }
      let entries ← header.owners.mapM (ownerEntry libraries authority)
      .ok (batchResponse header entries)

/-- The answer to a request frame as a value. -/
def operationValue (frame : ProviderRuntimeRequestFrame Payload) : Outcome Json :=
  match frame.validate libraries with
  | .error error => .error (.returned error)
  | .ok () =>
      if frame.operation = "syntax-query" then
        match libraries.decodeSyntaxQuery frame.payload with
        | .error error => .error (.returned ("decode provider syntax-query request: " ++ error))
        | .ok request =>
            (handleSyntaxQueryOperation libraries.regex libraries.blake3 libraries.projection.parser
              request).map fun response => .object response.members
      else if frame.operation = "projection-batch" then
        match projectionBatchValue libraries frame.payload with
        | .ok response => .ok response
        | .error error => .error (.returned error)
      else if frame.operation = "project-resolution" then
        match libraries.decodeResolution frame.payload with
        | .error error => .error (.returned ("parse project-resolution stdin request: " ++ error))
        | .ok request =>
            (handleProjectResolutionRequest libraries.host request).map fun answer =>
              .object (answer.1.members libraries.encodeScope)
      else
        .error (.returned ("provider runtime operation is not admitted: " ++ frame.operation))

/-- The frame of an answer. -/
def ProviderRuntimeResponseFrame.ofPayload (requestId : String) (payload : Json) :
    ProviderRuntimeResponseFrame where
  schemaId := "agent.semantic-protocols.provider-runtime-response-frame"
  schemaVersion := "1"
  requestId := requestId
  outcome := .ready
  payload := some payload
  error := none

/-- The frame with which a request frame is answered. -/
def answerFrame (frame : ProviderRuntimeRequestFrame Payload) :
    Outcome ProviderRuntimeResponseFrame :=
  match operationValue libraries frame with
  | .ok payload => .ok (.ofPayload frame.requestId payload)
  | .error (.returned error) => .ok (.ofError frame.requestId error)
  | .error fault => .error fault

end Values

/-! ## The bytes are those of the values

The bytes that an operation writes are the text of its value.  For the batch this is a
statement about the answers of its owners, which are put in as bytes. -/

section Bytes

variable {Payload : Type} {libraries : RuntimeLibraries Payload}

private theorem mapM_map_eq {α β γ : Type} (f : α → Except String β) (g : β → γ) (list : List α) :
    (list.mapM fun a => (f a).map g) = (list.mapM f).map (List.map g) := by
  induction list with
  | nil => rfl
  | cons head rest ih =>
      rw [List.mapM_cons, List.mapM_cons, ih]
      cases f head with
      | error error => rfl
      | ok first => cases rest.mapM f <;> rfl

/-- The bytes of an entry are the text of the entry. -/
private theorem encodedEntry_eq (authority : ExactProjectionAuthority) :
    (fun owner : LanguageProjectionBatchOwner => (do
      let sourceText ← decodeSourceText libraries.projection owner
      let projection ← renderBatchOwnerProjection libraries.projection owner.ownerPath
        owner.sourceLeafDigest sourceText authority
      Except.ok projection.encode : Except String (List UInt8))) =
      fun owner => (ownerEntry libraries authority owner).map Json.encode := by
  funext owner
  unfold ownerEntry
  cases decodeSourceText libraries.projection owner with
  | error error => rfl
  | ok sourceText =>
      show (renderBatchOwnerProjection _ _ _ _ _).bind _ =
        (renderBatchOwnerProjection _ _ _ _ _).map Json.encode
      cases renderBatchOwnerProjection libraries.projection owner.ownerPath
        owner.sourceLeafDigest sourceText authority <;> rfl

/-- The spliced answer to a batch is the text of its value. -/
theorem handleLanguageProjectionBatchValue_eq (payload : Payload) :
    handleLanguageProjectionBatchValue libraries.projection payload =
      (projectionBatchValue libraries payload).map Json.encode := by
  unfold handleLanguageProjectionBatchValue projectionBatchValue
  cases libraries.projection.decodeRequest payload with
  | error error => rfl
  | ok header =>
      show (validateProjectionBatchHeader libraries.projection header).bind _ =
        ((validateProjectionBatchHeader libraries.projection header).bind _).map Json.encode
      cases validateProjectionBatchHeader libraries.projection header with
      | error error => rfl
      | ok checked =>
          show Except.bind (List.mapM _ header.owners) _ =
            (Except.bind (List.mapM _ header.owners) _).map Json.encode
          rw [encodedEntry_eq, mapM_map_eq]
          cases header.owners.mapM (ownerEntry libraries _) with
          | error error => rfl
          | ok entries => exact congrArg Except.ok (encodeProjectionBatchResponse_eq header entries)

/-- The payload of every answer is the text of a value. -/
theorem operationBytes_eq (frame : ProviderRuntimeRequestFrame Payload) :
    operationBytes libraries frame = (operationValue libraries frame).map Json.encode := by
  unfold operationBytes operationValue
  cases frame.validate libraries with
  | error error => rfl
  | ok checked =>
      show (if _ then _ else _) = Except.map Json.encode (if _ then _ else _)
      split
      · unfold handleSyntaxQueryOperationValue
        cases libraries.decodeSyntaxQuery frame.payload with
        | error error => rfl
        | ok request =>
            show Except.map _ (handleSyntaxQueryOperation _ _ _ _) =
              Except.map _ (Except.map _ (handleSyntaxQueryOperation _ _ _ _))
            cases handleSyntaxQueryOperation libraries.regex libraries.blake3
              libraries.projection.parser request <;> rfl
      · split
        · rw [handleProjectionBatch, handleLanguageProjectionBatchValue_eq]
          cases projectionBatchValue libraries frame.payload <;> rfl
        · split
          · unfold handleProjectResolutionRequestValue
            cases libraries.decodeResolution frame.payload with
            | error error => rfl
            | ok request =>
                show Except.map _ (handleProjectResolutionRequest _ _) =
                  Except.map _ (Except.map _ (handleProjectResolutionRequest _ _))
                cases handleProjectResolutionRequest libraries.host request <;> rfl
          · rfl

/-- The spliced frame is the text of its value. -/
theorem encodeReadyResponseFrame_eq (requestId : String) (payload : Json) :
    encodeReadyResponseFrame requestId payload.encode =
      (ProviderRuntimeResponseFrame.ofPayload requestId payload).toJson.encode := by
  have hopen : ("\x7b\"schemaId\":\"agent.semantic-protocols.provider-runtime-response-frame\"," ++
      "\"schemaVersion\":\"1\",\"requestId\":").toList =
      '\x7b' :: (Json.stringText "schemaId" ++ ':' :: (Json.stringText
        "agent.semantic-protocols.provider-runtime-response-frame" ++
        ',' :: (Json.stringText "schemaVersion" ++ ':' :: (Json.stringText "1" ++
        ',' :: (Json.stringText "requestId" ++ [':']))))) := by decide +kernel
  have hready : ",\"outcome\":\"ready\",\"payload\":".toList =
      ',' :: (Json.stringText "outcome" ++ ':' :: (Json.stringText "ready" ++
        ',' :: (Json.stringText "payload" ++ [':']))) := by decide
  have hclose : "\x7d".toList = ['\x7d'] := by decide
  rw [encodeReadyResponseFrame, hopen, hready, hclose]
  simp only [ProviderRuntimeResponseFrame.toJson, ProviderRuntimeResponseFrame.ofPayload,
    ProviderRuntimeResponseOutcome.wireName, Option.toList, List.map_cons, List.map_nil,
    List.cons_append, List.nil_append, Json.encode, Json.text, Json.membersText, List.tail_cons,
    ← utf8_append, List.append_assoc, List.append_nil]

end Bytes

/-! ## What a client reads is what was computed

Since the text of a value is read as the value, the client has the frame that was
computed. -/

section Reading

variable {Payload : Type} {libraries : RuntimeLibraries Payload}

/-- The payload of an answer is an object. -/
theorem exists_object_of_operationValue {frame : ProviderRuntimeRequestFrame Payload}
    {payload : Json} (h : operationValue libraries frame = .ok payload) :
    ∃ members, payload = .object members := by
  unfold operationValue at h
  cases hvalid : frame.validate libraries with
  | error error => rw [hvalid] at h; cases h
  | ok checked =>
      rw [hvalid] at h
      dsimp only at h
      split at h
      · cases hrequest : libraries.decodeSyntaxQuery frame.payload with
        | error error => rw [hrequest] at h; cases h
        | ok request =>
            rw [hrequest] at h
            obtain ⟨response, -, rfl⟩ := Except.map_eq_ok.mp h
            exact ⟨_, rfl⟩
      · split at h
        · cases hbatch : projectionBatchValue libraries frame.payload with
          | error error => rw [hbatch] at h; cases h
          | ok response =>
              rw [hbatch] at h
              obtain rfl := Except.ok.inj h
              unfold projectionBatchValue at hbatch
              cases hheader : libraries.projection.decodeRequest frame.payload with
              | error error => rw [hheader] at hbatch; cases hbatch
              | ok header =>
                  rw [hheader] at hbatch
                  obtain ⟨checked, -, hbatch⟩ := Except.bind_eq_ok.mp hbatch
                  obtain ⟨entries, -, hbatch⟩ := Except.bind_eq_ok.mp hbatch
                  obtain rfl := Except.ok.inj hbatch
                  exact ⟨_, rfl⟩
        · split at h
          · cases hrequest : libraries.decodeResolution frame.payload with
            | error error => rw [hrequest] at h; cases h
            | ok request =>
                rw [hrequest] at h
                obtain ⟨answer, -, rfl⟩ := Except.map_eq_ok.mp h
                exact ⟨_, rfl⟩
          · cases h

theorem decodeResponse_ofPayload (requestId : String) (members : List (String × Json)) :
    decodeResponse (ProviderRuntimeResponseFrame.ofPayload requestId (.object members)).toJson.encode =
      some (.ofPayload requestId (.object members)) := by
  rw [decodeResponse, Json.encode, fromUtf8_utf8]
  show (Json.read _).bind _ = _
  rw [Json.read_text, Option.bind_some]
  rfl

theorem decodeResponse_ofError (requestId error : String) :
    decodeResponse (ProviderRuntimeResponseFrame.ofError requestId error).toJson.encode =
      some (.ofError requestId error) := by
  rw [decodeResponse, Json.encode, fromUtf8_utf8]
  show (Json.read _).bind _ = _
  rw [Json.read_text, Option.bind_some]
  rfl

/-- **A client reads the frame that was computed.**  Of the bytes of every response the
client reads a frame: it repeats the request id, and has the answer of the operation as a
value, or its error. -/
theorem decodeResponse_handleRequest (libraries : RuntimeLibraries Payload)
    (frame : ProviderRuntimeRequestFrame Payload) :
    (handleRequest libraries frame).map decodeResponse =
      (answerFrame libraries frame).map some := by
  unfold handleRequest answerFrame
  rw [operationBytes_eq]
  cases hvalue : operationValue libraries frame with
  | ok payload =>
      obtain ⟨members, rfl⟩ := exists_object_of_operationValue hvalue
      show Except.ok (decodeResponse (encodeReadyResponseFrame _ _)) = _
      rw [encodeReadyResponseFrame_eq, decodeResponse_ofPayload]
      rfl
  | error fault =>
      cases fault with
      | returned error => exact congrArg Except.ok (decodeResponse_ofError _ _)
      | panicked message => rfl
      | exhausted => rfl

end Reading

end AspRust.Provider
