import AspRust.Foundation.Script
import AspRust.Verification.ReportBundle

/-!
# Writing reports

The report writer creates the two report directories and then writes, in this order: the
manifest of the source baseline, the manifest of the runtime cache, the artifacts of the source
baseline, those of the runtime cache, and the sidecars.  An artifact or sidecar with no
renderer is passed over.

What the renderers of the artifacts give is a parameter (`ReportRenderers`).  `reportScript` is
the list of steps; `writeReports_eq` says that the writer does these steps and
returns the receipt of all of them.

### Design notes

The writer is a loop in a monad with a file system, an error and a receipt.  It is written
as the source has it, and then as a script whose steps know what they write.  The two are
equal (`writeReports_eq`), so what is left on disk by a run that fails can be said of
scripts in general (`Foundation.Script`).

A renderer that returns nothing is passed over without a trace in the receipt.  Rendering
comes before the step that writes, so an error of a renderer leaves the files of the steps
before it.
-/

namespace AspRust.Verification

open AspRust.Foundation

/-! ## Rendering

Which artifacts are rendered, and by which renderer, is the decision of the source; what
a renderer returns is a parameter.  Renderers may fail, and some artifacts have none. -/

/-- What is written about, by the renderers of a plan and a configuration. -/
structure ReportRenderers (Profile : Type) where
  verificationPlanJson : Except String String
  taskIndexJson : Except String String
  performanceIndexJson : Except String String
  stabilityIndexJson : Except String String
  stabilityPictureJson : Except String String
  buildAnalysisProfile : Except String Profile
  analysisProfileJson : Profile → Except String String
  selectionAdviceJson : RustVerificationReportBundle → Option Profile → Except String String

inductive RustVerificationReportArtifactRenderError where
  | json (error : String)
  | analysis (error : String)
deriving DecidableEq, Repr

inductive RustVerificationReportWriteError where
  | render (error : RustVerificationReportArtifactRenderError)
  | json (error : String)
  | io (path : Path) (source : String)
deriving DecidableEq, Repr

section Render

variable {Profile : Type} (renderers : ReportRenderers Profile)

def renderRustVerificationReportArtifactJson (key : String) : Except String (Option String) :=
  if key = "verification_plan_json" then renderers.verificationPlanJson.map some
  else if key = "task_index_json" then renderers.taskIndexJson.map some
  else if key = "performance_index_json" then renderers.performanceIndexJson.map some
  else if key = "stability_index_json" then renderers.stabilityIndexJson.map some
  else .ok none

def renderRustVerificationReportArtifactJsonWithConfig (key : String) :
    Except RustVerificationReportArtifactRenderError (Option String) :=
  if key = analysisProfileArtifactKey then
    match renderers.buildAnalysisProfile with
    | .error error => .error (.analysis error)
    | .ok profile => ((renderers.analysisProfileJson profile).map some).mapError .json
  else if key = stabilityPictureArtifactKey then
    (renderers.stabilityPictureJson.map some).mapError .json
  else (renderRustVerificationReportArtifactJson renderers key).mapError .json

def renderReportSidecarJson (bundle : RustVerificationReportBundle)
    (analysisProfile : Option Profile) (sidecar : RustVerificationReportSidecar) :
    Except RustVerificationReportWriteError (Option String) :=
  match sidecar.role with
  | .selectionAdvice =>
      ((renderers.selectionAdviceJson bundle analysisProfile).map some).mapError .json
  | .custom => .ok none

def buildSelectionAdviceProfile (options : RustVerificationReportOptions) :
    Except RustVerificationReportWriteError (Option Profile) :=
  if !options.includeSelectionAdvice || !options.includeAnalysisProfile then .ok none
  else (renderers.buildAnalysisProfile.map some).mapError fun error => .render (.analysis error)

end Render

/-! ## Compaction of the project root

The replacement of the project root in a rendered text, with the spellings that are
looked for in their order.  What it does to a document is the subject of
`RootCompaction`. -/

structure RustVerificationReportWriteConfig where
  projectRoot : String
  sourceBaselineDir : Path
  runtimeCacheDir : Path
  projectRootPlaceholder : String := "$CRATE_ROOT"
deriving DecidableEq

/-- A text as it is written inside a JSON string. -/
def jsonStringFragment (value : String) : String :=
  String.ofList (value.toList.flatMap Json.escapeChar)

def projectRootCompactionCandidates (root : String) : OrderedSet String :=
  let normalized := String.ofList (replaceChar '\\' '/' root.toList)
  OrderedSet.ofList
    ([root, jsonStringFragment root, normalized, jsonStringFragment normalized].filter (· ≠ ""))

/-- A text with every occurrence of a pattern replaced. -/
def replacePattern (pattern replacement text : String) : String :=
  String.ofList
    (List.intercalate replacement.toList (splitPattern pattern.toList text.toList))

def compactProjectRoot (config : RustVerificationReportWriteConfig) (payload : String) : String :=
  if config.projectRoot = "" then payload
  else
    (projectRootCompactionCandidates config.projectRoot).keys.foldl
      (fun compacted candidate => replacePattern candidate
        (jsonStringFragment config.projectRootPlaceholder) compacted) payload

example : compactProjectRoot ⟨"/srv/app", [], [], "$CRATE_ROOT"⟩ "[\"/srv/app/src\"]" =
    "[\"$CRATE_ROOT/src\"]" := by decide +kernel

/-! ## The writer

The writer in its monad.  Each step is a file operation, which may fail with a text, and
each written file is recorded in the receipt. -/

structure RustVerificationReportArtifactWriteReceipt where
  key : String
  role : RustVerificationReportArtifactRole
  persistence : RustVerificationReportPersistence
  path : Path
deriving DecidableEq

structure RustVerificationReportSidecarWriteReceipt where
  key : String
  role : RustVerificationReportSidecarRole
  path : Path
deriving DecidableEq

/-- The paths that were written; advice on the choice of the directories is left out. -/
structure RustVerificationReportWriteReceipt where
  manifestSchema : RustVerificationReportManifestSchema
  sourceBaselinePaths : List Path := []
  runtimeCachePaths : List Path := []
  artifactPaths : List RustVerificationReportArtifactWriteReceipt := []
  selectionAdvicePath : Option Path := none
  sidecarPaths : List RustVerificationReportSidecarWriteReceipt := []
deriving DecidableEq

def RustVerificationReportArtifactWriteReceipt.fromArtifact
    (artifact : RustVerificationReportArtifact) (path : Path) :
    RustVerificationReportArtifactWriteReceipt :=
  ⟨artifact.key, artifact.role, artifact.persistence, path⟩

/-- A computation that writes reports. -/
abbrev Writing := Script.Action Path String RustVerificationReportWriteError

abbrev ReportStep := Script.Step Path String RustVerificationReportWriteError

section Writer

variable {Profile : Type} (faults : Script.Faults String) (renderers : ReportRenderers Profile)
  (config : RustVerificationReportWriteConfig)

def createDirAll (path : Path) : Writing Unit :=
  Script.perform faults (.attempt (.io path))

def writeJson (path : Path) (payload : String) : Writing Unit :=
  Script.perform faults (.write path payload (.io path))

def prepareReportDirectories : Writing Unit := do
  createDirAll faults config.sourceBaselineDir
  createDirAll faults config.runtimeCacheDir

/-- The manifest of a directory. -/
def manifestPath (directory : Path) : Path :=
  Path.join directory "verification_report_manifest.json"

/-- The text of the manifest of a bundle. -/
def manifestText (bundle : RustVerificationReportBundle) : String :=
  compactProjectRoot config (String.ofList bundle.json.text)

def writeReportManifest (bundle : RustVerificationReportBundle) (directory : Path)
    (paths : List Path) : Writing (List Path) := do
  writeJson faults (manifestPath directory) (manifestText config bundle)
  return paths ++ [manifestPath directory]

def writeArtifact (artifact : RustVerificationReportArtifact) (directory : Path) :
    Writing (Option Path) :=
  match renderRustVerificationReportArtifactJsonWithConfig renderers artifact.key with
  | .error error => throw (.render error)
  | .ok none => return none
  | .ok (some payload) => do
      let path := Path.join directory artifact.artifactName
      writeJson faults path (compactProjectRoot config payload)
      return some path

/-- Add to the paths and to the receipts of artifacts, if the artifact was written. -/
def recordArtifact (artifact : RustVerificationReportArtifact)
    (written : List Path × List RustVerificationReportArtifactWriteReceipt) :
    Option Path → List Path × List RustVerificationReportArtifactWriteReceipt
  | none => written
  | some path => (written.1 ++ [path], written.2 ++ [.fromArtifact artifact path])

/-- Write artifacts, and add to the paths and to the receipts of artifacts. -/
def writeReportArtifacts (directory : Path) :
    List RustVerificationReportArtifact →
      List Path × List RustVerificationReportArtifactWriteReceipt →
      Writing (List Path × List RustVerificationReportArtifactWriteReceipt)
  | [], written => return written
  | artifact :: rest, written => do
      let path? ← writeArtifact faults renderers config artifact directory
      writeReportArtifacts directory rest (recordArtifact artifact written path?)

def writeReportSidecar (bundle : RustVerificationReportBundle) (analysisProfile : Option Profile)
    (sidecar : RustVerificationReportSidecar) (receipt : RustVerificationReportWriteReceipt) :
    Writing RustVerificationReportWriteReceipt :=
  match renderReportSidecarJson renderers bundle analysisProfile sidecar with
  | .error error => throw error
  | .ok none => return receipt
  | .ok (some payload) => do
      let path := Path.join config.runtimeCacheDir sidecar.artifactName
      writeJson faults path (compactProjectRoot config payload)
      return { receipt with
        selectionAdvicePath :=
          if sidecar.role = .selectionAdvice then some path else receipt.selectionAdvicePath
        sidecarPaths := receipt.sidecarPaths ++ [⟨sidecar.key, sidecar.role, path⟩]
        runtimeCachePaths := receipt.runtimeCachePaths ++ [path] }

def writeReportSidecars (bundle : RustVerificationReportBundle) (analysisProfile : Option Profile) :
    List RustVerificationReportSidecar → RustVerificationReportWriteReceipt →
      Writing RustVerificationReportWriteReceipt
  | [], receipt => return receipt
  | sidecar :: rest, receipt => do
      let receipt ← writeReportSidecar faults renderers config bundle analysisProfile sidecar receipt
      writeReportSidecars bundle analysisProfile rest receipt

def writeRustVerificationReportsWithOptions (plan : RustVerificationPlan)
    (options : RustVerificationReportOptions) : Writing RustVerificationReportWriteReceipt := do
  prepareReportDirectories faults config
  let bundle := buildRustVerificationReportBundleWithOptions options plan
  match buildSelectionAdviceProfile renderers options with
  | .error error => throw error
  | .ok selectionProfile =>
      let sourceBundle :=
        bundle.withParts bundle.sourceBaselineArtifacts bundle.sourceBaselineSidecars
      let sourcePaths ← writeReportManifest faults config sourceBundle config.sourceBaselineDir []
      let cachePaths ← writeReportManifest faults config bundle config.runtimeCacheDir []
      let (sourcePaths, artifactPaths) ← writeReportArtifacts faults renderers config
        config.sourceBaselineDir bundle.sourceBaselineArtifacts (sourcePaths, [])
      let (cachePaths, artifactPaths) ← writeReportArtifacts faults renderers config
        config.runtimeCacheDir bundle.runtimeCacheArtifacts (cachePaths, artifactPaths)
      writeReportSidecars faults renderers config bundle selectionProfile
        bundle.runtimeCacheSidecars
        { manifestSchema := bundle.schema
          sourceBaselinePaths := sourcePaths
          runtimeCachePaths := cachePaths
          artifactPaths := artifactPaths }

/-! ## The script of the writer

The writer as a list of steps, each with the path and the text of its file.  A file that
is not rendered is no step, and a renderer that fails is a step that fails and writes
nothing. -/

/-- Write what was rendered, if anything was. -/
def payloadStep (path : Path) :
    Except RustVerificationReportWriteError (Option String) → ReportStep
  | .error error => .refuse error
  | .ok none => .pass
  | .ok (some payload) => .write path (compactProjectRoot config payload) (.io path)

/-- What an artifact is rendered to. -/
def artifactPayload (artifact : RustVerificationReportArtifact) :
    Except RustVerificationReportWriteError (Option String) :=
  (renderRustVerificationReportArtifactJsonWithConfig renderers artifact.key).mapError .render

def artifactStep (directory : Path) (artifact : RustVerificationReportArtifact) : ReportStep :=
  payloadStep config (Path.join directory artifact.artifactName)
    (artifactPayload renderers artifact)

/-- The path of an artifact that has a renderer. -/
def artifactPath? (directory : Path) (artifact : RustVerificationReportArtifact) : Option Path :=
  match artifactPayload renderers artifact with
  | .ok (some _) => some (Path.join directory artifact.artifactName)
  | _ => none

def sidecarStep (bundle : RustVerificationReportBundle) (analysisProfile : Option Profile)
    (sidecar : RustVerificationReportSidecar) : ReportStep :=
  payloadStep config (Path.join config.runtimeCacheDir sidecar.artifactName)
    (renderReportSidecarJson renderers bundle analysisProfile sidecar)

/-- The receipt after a sidecar. -/
def recordSidecar (bundle : RustVerificationReportBundle) (analysisProfile : Option Profile)
    (receipt : RustVerificationReportWriteReceipt) (sidecar : RustVerificationReportSidecar) :
    RustVerificationReportWriteReceipt :=
  match renderReportSidecarJson renderers bundle analysisProfile sidecar with
  | .ok (some _) =>
      let path := Path.join config.runtimeCacheDir sidecar.artifactName
      { receipt with
        selectionAdvicePath :=
          if sidecar.role = .selectionAdvice then some path else receipt.selectionAdvicePath
        sidecarPaths := receipt.sidecarPaths ++ [⟨sidecar.key, sidecar.role, path⟩]
        runtimeCachePaths := receipt.runtimeCachePaths ++ [path] }
  | _ => receipt

theorem writeArtifact_eq (artifact : RustVerificationReportArtifact) (directory : Path) :
    writeArtifact faults renderers config artifact directory = (do
      Script.perform faults (artifactStep renderers config directory artifact)
      pure (artifactPath? renderers directory artifact)) := by
  unfold writeArtifact artifactStep artifactPath? artifactPayload
  cases renderRustVerificationReportArtifactJsonWithConfig renderers artifact.key with
  | error error => rfl
  | ok payload =>
      cases payload with
      | none => rfl
      | some payload => rfl

theorem writeReportArtifacts_eq (directory : Path)
    (artifacts : List RustVerificationReportArtifact)
    (written : List Path × List RustVerificationReportArtifactWriteReceipt) :
    writeReportArtifacts faults renderers config directory artifacts written = (do
      Script.performAll faults (artifacts.map (artifactStep renderers config directory))
      pure (artifacts.foldl (fun written artifact => recordArtifact artifact written
        (artifactPath? renderers directory artifact)) written)) := by
  induction artifacts generalizing written with
  | nil => rfl
  | cons artifact rest ih =>
      rw [writeReportArtifacts, writeArtifact_eq, List.map_cons, Script.performAll, List.foldl_cons]
      simp only [bind_assoc, pure_bind, ih]

theorem writeReportSidecar_eq (bundle : RustVerificationReportBundle)
    (analysisProfile : Option Profile) (sidecar : RustVerificationReportSidecar)
    (receipt : RustVerificationReportWriteReceipt) :
    writeReportSidecar faults renderers config bundle analysisProfile sidecar receipt = (do
      Script.perform faults (sidecarStep renderers config bundle analysisProfile sidecar)
      pure (recordSidecar renderers config bundle analysisProfile receipt sidecar)) := by
  unfold writeReportSidecar sidecarStep recordSidecar
  cases renderReportSidecarJson renderers bundle analysisProfile sidecar with
  | error error => rfl
  | ok payload =>
      cases payload with
      | none => rfl
      | some payload => rfl

theorem writeReportSidecars_eq (bundle : RustVerificationReportBundle)
    (analysisProfile : Option Profile) (sidecars : List RustVerificationReportSidecar)
    (receipt : RustVerificationReportWriteReceipt) :
    writeReportSidecars faults renderers config bundle analysisProfile sidecars receipt = (do
      Script.performAll faults
        (sidecars.map (sidecarStep renderers config bundle analysisProfile))
      pure (sidecars.foldl (recordSidecar renderers config bundle analysisProfile) receipt)) := by
  induction sidecars generalizing receipt with
  | nil => rfl
  | cons sidecar rest ih =>
      rw [writeReportSidecars, writeReportSidecar_eq, List.map_cons, Script.performAll,
        List.foldl_cons]
      simp only [bind_assoc, pure_bind, ih]

/-- The step of a manifest. -/
def manifestStep (bundle : RustVerificationReportBundle) (directory : Path) : ReportStep :=
  .write (manifestPath directory) (manifestText config bundle) (.io (manifestPath directory))

/-- The steps once the directories are there and the profile for the advice is built. -/
def bundleScript (bundle : RustVerificationReportBundle) (selectionProfile : Option Profile) :
    List ReportStep :=
  [manifestStep config
      (bundle.withParts bundle.sourceBaselineArtifacts bundle.sourceBaselineSidecars)
      config.sourceBaselineDir,
    manifestStep config bundle config.runtimeCacheDir] ++
    (bundle.sourceBaselineArtifacts.map (artifactStep renderers config config.sourceBaselineDir) ++
      (bundle.runtimeCacheArtifacts.map (artifactStep renderers config config.runtimeCacheDir) ++
        bundle.runtimeCacheSidecars.map
          (sidecarStep renderers config bundle selectionProfile)))

/-- The steps of the writer. -/
def reportScript (plan : RustVerificationPlan) (options : RustVerificationReportOptions) :
    List ReportStep :=
  [.attempt (.io config.sourceBaselineDir), .attempt (.io config.runtimeCacheDir)] ++
    match buildSelectionAdviceProfile renderers options with
    | .error error => [.refuse error]
    | .ok selectionProfile => bundleScript renderers config
        (buildRustVerificationReportBundleWithOptions options plan) selectionProfile

/-- The receipt of all steps. -/
def bundleReceipt (bundle : RustVerificationReportBundle) (selectionProfile : Option Profile) :
    RustVerificationReportWriteReceipt :=
  let source := bundle.sourceBaselineArtifacts.foldl (fun written artifact =>
    recordArtifact artifact written (artifactPath? renderers config.sourceBaselineDir artifact))
    ([manifestPath config.sourceBaselineDir], [])
  let cache := bundle.runtimeCacheArtifacts.foldl (fun written artifact =>
    recordArtifact artifact written (artifactPath? renderers config.runtimeCacheDir artifact))
    ([manifestPath config.runtimeCacheDir], source.2)
  bundle.runtimeCacheSidecars.foldl (recordSidecar renderers config bundle selectionProfile)
    { manifestSchema := bundle.schema
      sourceBaselinePaths := source.1
      runtimeCachePaths := cache.1
      artifactPaths := cache.2 }

/-- **The writer does the steps of its script.** -/
theorem writeReports_eq (plan : RustVerificationPlan) (options : RustVerificationReportOptions) :
    writeRustVerificationReportsWithOptions faults renderers config plan options = (do
      Script.performAll faults (reportScript renderers config plan options)
      pure (bundleReceipt renderers config
        (buildRustVerificationReportBundleWithOptions options plan)
        (buildSelectionAdviceProfile renderers options).toOption.join)) := by
  unfold writeRustVerificationReportsWithOptions reportScript
  cases buildSelectionAdviceProfile renderers options with
  | error error =>
      have hthrow : ∀ {α β : Type} (next : α → Writing β), (throw error >>= next) = throw error :=
        fun _ => rfl
      simp only [prepareReportDirectories, createDirAll, List.cons_append, List.nil_append,
        Script.performAll, bind_assoc]
      change _ = Script.perform faults _ >>= fun _ => Script.perform faults _ >>= fun _ =>
        (throw error >>= _)
      rw [hthrow]
  | ok selectionProfile =>
      simp only [prepareReportDirectories, createDirAll, writeReportManifest, writeJson,
        writeReportArtifacts_eq, writeReportSidecars_eq, bundleScript, Script.performAll_append,
        Script.performAll, manifestStep, bind_assoc, pure_bind, List.nil_append]
      rfl

end Writer

end AspRust.Verification
