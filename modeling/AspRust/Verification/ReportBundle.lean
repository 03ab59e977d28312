import AspRust.Foundation.Json
import AspRust.Verification.Model

/-!
# Report bundles

The report obligations of a plan become the artifacts of a bundle.  Options say where an
artifact is kept, whether the analysis profile is added as an artifact, and whether there is a
sidecar with selection advice.  The manifest of a bundle is its JSON.

### Layout

* Options: where an artifact is kept, which trace guidance and which template it gets,
  each looked up by the key of the artifact.
* Bundles: the artifacts in the order of the obligations, with the analysis profile
  behind them, and the sidecars.
* Manifests: the JSON of a bundle, member by member in the order in which the source
  serializes them.

The writer asks for a bundle in two parts, what is kept with the sources and what is kept
in the runtime cache, and writes a manifest of each part.  So the parts are bundles again
(`withParts`), and a manifest is always the JSON of a bundle.
-/

namespace AspRust.Verification

open AspRust.Foundation

/-- The key of the analysis profile among the artifacts. -/
def analysisProfileArtifactKey : String := "analysis_profile_json"

/-- The key of the selection advice among the sidecars. -/
def selectionAdviceSidecarKey : String := "selection_advice_json"

/-- The key of the picture of the stability tasks. -/
def stabilityPictureArtifactKey : String := "stability_picture_json"

/-! ## Options -/

/-- Where an artifact is kept: with other runtime files, or as a baseline with the sources. -/
inductive RustVerificationReportPersistence where
  | runtimeCache
  | sourceBaseline
deriving DecidableEq, Repr

/-- The name of the place in a manifest. -/
def RustVerificationReportPersistence.asStr : RustVerificationReportPersistence → String
  | .runtimeCache => "runtime_cache"
  | .sourceBaseline => "source_baseline"

/-- What an artifact is for. -/
inductive RustVerificationReportArtifactRole where
  | promptState
  | skillDispatchIndex
  | baselineEvidence
  | analysisProfile
  | custom
deriving DecidableEq, Repr

/-- The name of the role in a manifest. -/
def RustVerificationReportArtifactRole.asStr : RustVerificationReportArtifactRole → String
  | .promptState => "prompt_state"
  | .skillDispatchIndex => "skill_dispatch_index"
  | .baselineEvidence => "baseline_evidence"
  | .analysisProfile => "analysis_profile"
  | .custom => "custom"

/-- What a sidecar is for. -/
inductive RustVerificationReportSidecarRole where
  | selectionAdvice
  | custom
deriving DecidableEq, Repr

/-- The name of the role in a manifest. -/
def RustVerificationReportSidecarRole.asStr : RustVerificationReportSidecarRole → String
  | .selectionAdvice => "selection_advice"
  | .custom => "custom"

/-- Guidance on the traces that go with a report. -/
structure RustVerificationReportTraceConfig where
  profile : String
  maxSeconds : Option ℕ := none
  sampleIntervalMs : Option ℕ := none
  includeRawTraces : Bool := false
deriving DecidableEq, Repr

/-- The sections that a report is asked to have. -/
structure RustVerificationReportTemplate where
  templateId : String
  schemaVersion : String
  requiredSections : List String
deriving DecidableEq, Repr

/-- What the caller chooses: the additional reports, and per artifact its trace, its template
and its place. -/
structure RustVerificationReportOptions where
  includeAnalysisProfile : Bool
  includeSelectionAdvice : Bool
  defaultTrace : Option RustVerificationReportTraceConfig
  artifactTraces : OrderedMap String RustVerificationReportTraceConfig
  artifactTemplates : OrderedMap String RustVerificationReportTemplate
  artifactPersistence : OrderedMap String RustVerificationReportPersistence
deriving DecidableEq

/-! ## Bundles -/

/-- One report of a bundle, with the tasks that owe it and the renderer that makes it. -/
structure RustVerificationReportArtifact where
  key : String
  role : RustVerificationReportArtifactRole
  artifactName : String
  renderer : String
  reason : String
  taskKinds : OrderedSet RustVerificationTaskKind
  taskFingerprints : List String
  persistence : RustVerificationReportPersistence
  template : Option RustVerificationReportTemplate
  trace : Option RustVerificationReportTraceConfig
deriving DecidableEq

/-- A file beside the reports, owed by no task. -/
structure RustVerificationReportSidecar where
  key : String
  role : RustVerificationReportSidecarRole
  artifactName : String
  renderer : String
  reason : String
  persistence : RustVerificationReportPersistence
deriving DecidableEq, Repr

/-- The schema that a manifest names. -/
structure RustVerificationReportManifestSchema where
  schemaId : String := "rust_verification_report_manifest"
  schemaVersion : String := "1"
deriving DecidableEq, Repr

/-- The reports of a plan. -/
structure RustVerificationReportBundle where
  schema : RustVerificationReportManifestSchema
  projectRoot : Path
  artifacts : List RustVerificationReportArtifact
  sidecars : List RustVerificationReportSidecar
deriving DecidableEq

/-- The role of an artifact is read off its key; the keys of other rule packs are custom. -/
def reportArtifactRole (key : String) : RustVerificationReportArtifactRole :=
  if key = "verification_plan_json" then .promptState
  else if key = "task_index_json" then .skillDispatchIndex
  else if key = "performance_index_json" then .baselineEvidence
  else if key = "stability_index_json" then .baselineEvidence
  else if key = stabilityPictureArtifactKey then .promptState
  else if key = analysisProfileArtifactKey then .analysisProfile
  else .custom

section Options

variable (options : RustVerificationReportOptions)

/-- Where an artifact is kept. -/
def artifactPersistenceOf (key : String) : RustVerificationReportPersistence :=
  (options.artifactPersistence.get? key).getD .runtimeCache

/-- The trace guidance of an artifact. -/
def artifactTraceOf (key : String) : Option RustVerificationReportTraceConfig :=
  (options.artifactTraces.get? key).or options.defaultTrace

/-- The artifact that an obligation asks for. -/
def RustVerificationReportArtifact.fromObligation
    (obligation : RustVerificationReportObligation) : RustVerificationReportArtifact where
  key := obligation.key
  role := reportArtifactRole obligation.key
  artifactName := obligation.suggestedArtifactName
  renderer := obligation.renderer
  reason := obligation.reason
  taskKinds := obligation.taskKinds
  taskFingerprints := obligation.taskFingerprints
  persistence := artifactPersistenceOf options obligation.key
  template := options.artifactTemplates.get? obligation.key
  trace := artifactTraceOf options obligation.key

/-- The analysis profile, which no task owes. -/
def analysisProfileArtifact : RustVerificationReportArtifact where
  key := analysisProfileArtifactKey
  role := .analysisProfile
  artifactName := "analysis_profile.json"
  renderer := "build_rust_verification_analysis_profile_with_config + " ++
    "render_rust_verification_analysis_profile_json"
  reason := "persist parser analysis scale profile for Agent planning and optimization passes"
  taskKinds := ∅
  taskFingerprints := []
  persistence := artifactPersistenceOf options analysisProfileArtifactKey
  template := options.artifactTemplates.get? analysisProfileArtifactKey
  trace := artifactTraceOf options analysisProfileArtifactKey

/-- The selection advice, always among the runtime files. -/
def selectionAdviceSidecar : RustVerificationReportSidecar where
  key := selectionAdviceSidecarKey
  role := .selectionAdvice
  artifactName := "selection_advice.json"
  renderer := "build_rust_verification_report_selection_advice + " ++
    "render_rust_verification_report_selection_advice_json"
  reason := "persist Agent report reading order next to the runtime manifest"
  persistence := .runtimeCache

/-- The bundle of a plan. -/
def buildRustVerificationReportBundleWithOptions (plan : RustVerificationPlan) :
    RustVerificationReportBundle where
  schema := {}
  projectRoot := plan.projectRoot
  artifacts := plan.reportObligations.map (RustVerificationReportArtifact.fromObligation options) ++
    if options.includeAnalysisProfile then [analysisProfileArtifact options] else []
  sidecars := if options.includeSelectionAdvice then [selectionAdviceSidecar] else []

end Options

namespace RustVerificationReportBundle

variable (bundle : RustVerificationReportBundle)

/-- The artifacts that are kept in one place. -/
def artifactsIn (persistence : RustVerificationReportPersistence) :
    List RustVerificationReportArtifact :=
  bundle.artifacts.filter fun artifact => artifact.persistence = persistence

/-- The artifacts that are kept with the sources. -/
def sourceBaselineArtifacts : List RustVerificationReportArtifact :=
  bundle.artifactsIn .sourceBaseline

/-- The artifacts that are kept in the runtime cache. -/
def runtimeCacheArtifacts : List RustVerificationReportArtifact :=
  bundle.artifactsIn .runtimeCache

/-- The sidecars that are kept in one place. -/
def sidecarsIn (persistence : RustVerificationReportPersistence) :
    List RustVerificationReportSidecar :=
  bundle.sidecars.filter fun sidecar => sidecar.persistence = persistence

/-- The sidecars that are kept with the sources. -/
def sourceBaselineSidecars : List RustVerificationReportSidecar :=
  bundle.sidecarsIn .sourceBaseline

/-- The sidecars that are kept in the runtime cache. -/
def runtimeCacheSidecars : List RustVerificationReportSidecar :=
  bundle.sidecarsIn .runtimeCache

/-- The bundle with other contents, under its schema and root. -/
def withParts (artifacts : List RustVerificationReportArtifact)
    (sidecars : List RustVerificationReportSidecar) : RustVerificationReportBundle :=
  { bundle with artifacts := artifacts, sidecars := sidecars }

end RustVerificationReportBundle

/-! ## Manifests -/

/-- A member that is left out when there is no value. -/
def optionalMember {α : Type} (name : String) (json : α → Json) (value : Option α) :
    List (String × Json) :=
  value.toList.map fun value => (name, json value)

/-- A template in a manifest. -/
def RustVerificationReportTemplate.json (template : RustVerificationReportTemplate) : Json :=
  .object [("template_id", .string template.templateId),
    ("schema_version", .string template.schemaVersion),
    ("required_sections", .array (template.requiredSections.map .string))]

/-- Trace guidance in a manifest; what is not limited is left out. -/
def RustVerificationReportTraceConfig.json (trace : RustVerificationReportTraceConfig) : Json :=
  .object ([("profile", .string trace.profile)] ++
    optionalMember "max_seconds" .number trace.maxSeconds ++
    optionalMember "sample_interval_ms" .number trace.sampleIntervalMs ++
    [("include_raw_traces", .bool trace.includeRawTraces)])

/-- An artifact in a manifest. -/
def RustVerificationReportArtifact.json (artifact : RustVerificationReportArtifact) : Json :=
  .object ([("key", .string artifact.key), ("role", .string artifact.role.asStr),
      ("artifact_name", .string artifact.artifactName), ("renderer", .string artifact.renderer),
      ("reason", .string artifact.reason),
      ("task_kinds", .array (artifact.taskKinds.keys.map fun kind => .string kind.key)),
      ("task_fingerprints", .array (artifact.taskFingerprints.map .string)),
      ("persistence", .string artifact.persistence.asStr)] ++
    optionalMember "template" RustVerificationReportTemplate.json artifact.template ++
    optionalMember "trace" RustVerificationReportTraceConfig.json artifact.trace)

/-- A sidecar in a manifest. -/
def RustVerificationReportSidecar.json (sidecar : RustVerificationReportSidecar) : Json :=
  .object [("key", .string sidecar.key), ("role", .string sidecar.role.asStr),
    ("artifact_name", .string sidecar.artifactName), ("renderer", .string sidecar.renderer),
    ("reason", .string sidecar.reason), ("persistence", .string sidecar.persistence.asStr)]

/-- A root with an empty text (`path_buf_is_empty`) is left out. -/
def projectRootMember (projectRoot : String) : List (String × Json) :=
  if projectRoot = "" then [] else [("project_root", .string projectRoot)]

/-- The manifest of a bundle.  An empty list of sidecars is left out, one of artifacts is not. -/
def RustVerificationReportBundle.json (bundle : RustVerificationReportBundle) : Json :=
  .object ([("schema", .object [("schema_id", .string bundle.schema.schemaId),
        ("schema_version", .string bundle.schema.schemaVersion)])] ++
    projectRootMember bundle.projectRoot.display ++
    [("artifacts", .array (bundle.artifacts.map RustVerificationReportArtifact.json))] ++
    if bundle.sidecars = [] then []
    else [("sidecars", .array (bundle.sidecars.map RustVerificationReportSidecar.json))])

end AspRust.Verification
