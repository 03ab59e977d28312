import AspRust.Verification.Planner
import AspRust.Verification.ReportWrite

/-!
# What is on disk after reports are written

The manifests come before the artifacts they list, so a run that stops leaves manifests that
list artifacts it has not written.  What a run that stops does leave is the files of the steps
before the one that failed.  A run that succeeds leaves every artifact that has a renderer and
every sidecar, with a receipt; the plans of the planner ask for no other.

### What is load-bearing

Two files of a run are different files.  Their names come from the plan, and a plan could
name one file twice; the planner never does (`artifact_eq_of_path_eq`), since the reports it
asks for have fixed names (`reportFiles`), and none of them is that of a manifest or of the
sidecar.

A manifest that lists a file which is not there is no accident of one order of writes.  The
manifests come first, so every run that stops at an artifact leaves one
(`manifest_dangles`); a staging of the files is nowhere in the source.
-/

namespace AspRust.Verification

open AspRust.Foundation

section Receipts

variable {Profile : Type} {renderers : ReportRenderers Profile}
  {config : RustVerificationReportWriteConfig}

/-- The directory of artifacts that are kept in one place. -/
def directoryOf (config : RustVerificationReportWriteConfig) :
    RustVerificationReportPersistence → Path
  | .sourceBaseline => config.sourceBaselineDir
  | .runtimeCache => config.runtimeCacheDir

/-- Where an artifact is written. -/
def artifactPath (config : RustVerificationReportWriteConfig)
    (artifact : RustVerificationReportArtifact) : Path :=
  Path.join (directoryOf config artifact.persistence) artifact.artifactName

/-- Where a sidecar is written. -/
def sidecarPath (config : RustVerificationReportWriteConfig)
    (sidecar : RustVerificationReportSidecar) : Path :=
  Path.join config.runtimeCacheDir sidecar.artifactName

/-! ## The writes of the script

A script is a list of steps, and the writes of a bundle are those of its manifests, of
the artifacts of its two places, and of its sidecars, in this order. -/

theorem writesOf_payloadStep (path : Path)
    (payload : Except RustVerificationReportWriteError (Option String)) :
    Script.writesOf [payloadStep config path payload] =
      match payload with
      | .ok (some payload) => [(path, compactProjectRoot config payload)]
      | _ => [] := by
  cases payload with
  | error error => rfl
  | ok payload => cases payload <;> rfl

theorem mem_writesOf_map_payloadStep {ι : Type} {path : ι → Path}
    {payload : ι → Except RustVerificationReportWriteError (Option String)} {elements : List ι}
    {write : Path × String} :
    write ∈ Script.writesOf (elements.map fun element =>
        payloadStep config (path element) (payload element)) ↔
      ∃ element ∈ elements, ∃ text, payload element = .ok (some text) ∧
        write = (path element, compactProjectRoot config text) := by
  induction elements with
  | nil => simp [Script.writesOf]
  | cons element rest ih =>
      rw [List.map_cons, ← List.singleton_append, Script.writesOf_append, List.mem_append, ih,
        writesOf_payloadStep]
      simp only [List.mem_cons, exists_eq_or_imp]
      refine or_congr ?_ Iff.rfl
      split
      · next text htext => simp [htext]
      · next hnone =>
          simp only [List.not_mem_nil, false_iff, not_exists, not_and]
          intro text htext
          exact absurd htext (hnone text)

/-- The artifacts of a bundle are those of its two places. -/
theorem mem_artifacts_iff {bundle : RustVerificationReportBundle}
    {artifact : RustVerificationReportArtifact} :
    artifact ∈ bundle.artifacts ↔
      artifact ∈ bundle.sourceBaselineArtifacts ∨ artifact ∈ bundle.runtimeCacheArtifacts := by
  simp only [RustVerificationReportBundle.sourceBaselineArtifacts,
    RustVerificationReportBundle.runtimeCacheArtifacts, RustVerificationReportBundle.artifactsIn,
    List.mem_filter, decide_eq_true_eq, ← and_or_left]
  refine (and_iff_left ?_).symm
  cases artifact.persistence with
  | runtimeCache => exact Or.inr rfl
  | sourceBaseline => exact Or.inl rfl

/-- The writes for the artifacts of one place. -/
theorem mem_writesOf_artifactsIn {bundle : RustVerificationReportBundle}
    (persistence : RustVerificationReportPersistence) {write : Path × String} :
    write ∈ Script.writesOf ((bundle.artifactsIn persistence).map
        (artifactStep renderers config (directoryOf config persistence))) ↔
      ∃ artifact ∈ bundle.artifactsIn persistence, ∃ text,
        artifactPayload renderers artifact = .ok (some text) ∧
          write = (artifactPath config artifact, compactProjectRoot config text) := by
  have hstep : artifactStep renderers config (directoryOf config persistence) = fun artifact =>
      payloadStep config (Path.join (directoryOf config persistence) artifact.artifactName)
        (artifactPayload renderers artifact) := rfl
  rw [hstep]
  refine mem_writesOf_map_payloadStep.trans
    (exists_congr fun artifact => and_congr_right fun hmem => ?_)
  have hpersistence : artifact.persistence = persistence :=
    of_decide_eq_true (List.mem_filter.mp hmem).2
  have hpath : artifactPath config artifact =
      Path.join (directoryOf config persistence) artifact.artifactName := by
    rw [artifactPath, hpersistence]
  simp only [hpath]

theorem mem_writesOf_bundleScript {bundle : RustVerificationReportBundle}
    {selectionProfile : Option Profile} {write : Path × String} :
    write ∈ Script.writesOf (bundleScript renderers config bundle selectionProfile) ↔
      (write = (manifestPath config.sourceBaselineDir, manifestText config
          (bundle.withParts bundle.sourceBaselineArtifacts bundle.sourceBaselineSidecars)) ∨
        write = (manifestPath config.runtimeCacheDir, manifestText config bundle)) ∨
      (∃ artifact ∈ bundle.artifacts, ∃ text,
        artifactPayload renderers artifact = .ok (some text) ∧
          write = (artifactPath config artifact, compactProjectRoot config text)) ∨
      ∃ sidecar ∈ bundle.runtimeCacheSidecars, ∃ text,
        renderReportSidecarJson renderers bundle selectionProfile sidecar = .ok (some text) ∧
          write = (sidecarPath config sidecar, compactProjectRoot config text) := by
  have hmanifests : Script.writesOf [manifestStep config
        (bundle.withParts bundle.sourceBaselineArtifacts bundle.sourceBaselineSidecars)
        config.sourceBaselineDir, manifestStep config bundle config.runtimeCacheDir] =
      [(manifestPath config.sourceBaselineDir, manifestText config
          (bundle.withParts bundle.sourceBaselineArtifacts bundle.sourceBaselineSidecars)),
        (manifestPath config.runtimeCacheDir, manifestText config bundle)] := rfl
  have hsidecars : sidecarStep renderers config bundle selectionProfile = fun sidecar =>
      payloadStep config (sidecarPath config sidecar)
        (renderReportSidecarJson renderers bundle selectionProfile sidecar) := rfl
  rw [bundleScript, Script.writesOf_append, Script.writesOf_append, Script.writesOf_append,
    List.mem_append, List.mem_append, List.mem_append, hmanifests, hsidecars,
    mem_writesOf_map_payloadStep, List.mem_pair]
  refine or_congr Iff.rfl ?_
  rw [← or_assoc]
  refine or_congr ?_ Iff.rfl
  simp only [mem_artifacts_iff, or_and_right, exists_or]
  exact or_congr (mem_writesOf_artifactsIn .sourceBaseline) (mem_writesOf_artifactsIn .runtimeCache)

/-! ## The receipts

The writer keeps a record of what it has written.  Artifacts and sidecars are recorded
apart, so each list is a fold over the steps of its kind. -/

theorem foldl_recordArtifact_receipts (directory : Path)
    (artifacts : List RustVerificationReportArtifact)
    (written : List Path × List RustVerificationReportArtifactWriteReceipt) :
    (artifacts.foldl (fun written artifact => recordArtifact artifact written
        (artifactPath? renderers directory artifact)) written).2 =
      written.2 ++ artifacts.filterMap fun artifact =>
        (artifactPath? renderers directory artifact).map (.fromArtifact artifact) := by
  induction artifacts generalizing written with
  | nil => exact (List.append_nil _).symm
  | cons artifact rest ih =>
      rw [List.foldl_cons, ih]
      cases hpath : artifactPath? renderers directory artifact with
      | none => simp [recordArtifact, hpath]
      | some path => simp [recordArtifact, hpath]

/-- Sidecars are recorded apart from artifacts. -/
theorem foldl_recordSidecar_artifactPaths (bundle : RustVerificationReportBundle)
    (selectionProfile : Option Profile) (sidecars : List RustVerificationReportSidecar)
    (receipt : RustVerificationReportWriteReceipt) :
    (sidecars.foldl (recordSidecar renderers config bundle selectionProfile)
      receipt).artifactPaths = receipt.artifactPaths := by
  induction sidecars generalizing receipt with
  | nil => rfl
  | cons sidecar rest ih =>
      rw [List.foldl_cons, ih]
      unfold recordSidecar
      split <;> rfl

theorem mem_sidecarPaths_foldl {bundle : RustVerificationReportBundle}
    {selectionProfile : Option Profile} {sidecars : List RustVerificationReportSidecar}
    {receipt : RustVerificationReportWriteReceipt} {sidecar : RustVerificationReportSidecar}
    {text : String} (hmem : sidecar ∈ sidecars)
    (htext : renderReportSidecarJson renderers bundle selectionProfile sidecar =
      .ok (some text)) :
    ⟨sidecar.key, sidecar.role, sidecarPath config sidecar⟩ ∈
      (sidecars.foldl (recordSidecar renderers config bundle selectionProfile)
        receipt).sidecarPaths := by
  -- later sidecars only append to the receipt
  have hkeep : ∀ {receipt : RustVerificationReportWriteReceipt} {entry}
      (sidecars : List RustVerificationReportSidecar), entry ∈ receipt.sidecarPaths →
        entry ∈ (sidecars.foldl (recordSidecar renderers config bundle selectionProfile)
          receipt).sidecarPaths := by
    intro receipt entry sidecars hentry
    induction sidecars generalizing receipt with
    | nil => exact hentry
    | cons first rest ih =>
        refine ih ?_
        unfold recordSidecar
        split
        · exact List.mem_append_left _ hentry
        · exact hentry
  induction sidecars generalizing receipt with
  | nil => cases hmem
  | cons first rest ih =>
      rw [List.foldl_cons]
      rcases List.mem_cons.mp hmem with rfl | hmem
      · refine hkeep rest ?_
        rw [recordSidecar, htext]
        exact List.mem_append_right _ (List.mem_singleton_self _)
      · exact ih hmem

/-- An artifact that has a renderer has a receipt. -/
theorem exists_receipt_of_mem_artifacts {bundle : RustVerificationReportBundle}
    {selectionProfile : Option Profile} {artifact : RustVerificationReportArtifact} {text : String}
    (hmem : artifact ∈ bundle.artifacts)
    (htext : artifactPayload renderers artifact = .ok (some text)) :
    .fromArtifact artifact (artifactPath config artifact) ∈
      (bundleReceipt renderers config bundle selectionProfile).artifactPaths := by
  have hpath : ∀ persistence : RustVerificationReportPersistence,
      artifact ∈ bundle.artifactsIn persistence →
      artifactPath? renderers (directoryOf config persistence) artifact =
        some (artifactPath config artifact) := by
    intro persistence hin
    have hpersistence : artifact.persistence = persistence :=
      of_decide_eq_true (List.mem_filter.mp hin).2
    rw [artifactPath?, htext, artifactPath, hpersistence]
  rw [bundleReceipt, foldl_recordSidecar_artifactPaths]
  dsimp only
  rw [foldl_recordArtifact_receipts, foldl_recordArtifact_receipts, List.nil_append,
    List.mem_append]
  rcases mem_artifacts_iff.mp hmem with hsource | hcache
  · refine Or.inl (List.mem_filterMap.mpr ⟨artifact, hsource, ?_⟩)
    exact congrArg _ (hpath .sourceBaseline hsource)
  · refine Or.inr (List.mem_filterMap.mpr ⟨artifact, hcache, ?_⟩)
    exact congrArg _ (hpath .runtimeCache hcache)

/-! ## After a run

A file of a run that has succeeded has the content that was written last.  Where no
later file of the run has its path, that is the content that was rendered for it
(`Kept`). -/

/-- A file has the content that a run wrote, unless the run has written it again. -/
def Kept (writes : List (Path × String)) (files : Path → Option String) (path : Path)
    (content : String) : Prop :=
  files path = some content ∨
    ∃ before later, writes = before ++ (path, content) :: later ∧ path ∈ later.map Prod.fst

theorem kept_of_mem {writes : List (Path × String)} {path : Path} {content : String}
    (h : (path, content) ∈ writes) (files : Path → Option String) :
    Kept writes (Script.afterWrites writes files) path content := by
  obtain ⟨before, later, rfl⟩ := List.append_of_mem h
  by_cases hlater : path ∈ later.map Prod.fst
  · exact Or.inr ⟨before, later, rfl, hlater⟩
  · exact Or.inl (Script.afterWrites_last hlater files)

/-- What a run that succeeds has done for the artifacts and sidecars of a bundle, when a
relation says which files have which content. -/
structure Delivered (renderers : ReportRenderers Profile)
    (config : RustVerificationReportWriteConfig) (bundle : RustVerificationReportBundle)
    (selectionProfile : Option Profile) (receipt : RustVerificationReportWriteReceipt)
    (has : Path → String → Prop) : Prop where
  artifacts : ∀ artifact ∈ bundle.artifacts, ∀ text,
    artifactPayload renderers artifact = .ok (some text) →
      .fromArtifact artifact (artifactPath config artifact) ∈ receipt.artifactPaths ∧
        has (artifactPath config artifact) (compactProjectRoot config text)
  sidecars : ∀ sidecar ∈ bundle.sidecars, ∃ text,
    renderers.selectionAdviceJson bundle selectionProfile = .ok text ∧
      ⟨sidecar.key, sidecar.role, sidecarPath config sidecar⟩ ∈ receipt.sidecarPaths ∧
        has (sidecarPath config sidecar) (compactProjectRoot config text)

variable {plan : RustVerificationPlan} {options : RustVerificationReportOptions}

/-- The sidecars that the builder adds. -/
theorem eq_selectionAdviceSidecar_of_mem {sidecar : RustVerificationReportSidecar}
    (h : sidecar ∈ (buildRustVerificationReportBundleWithOptions options plan).sidecars) :
    sidecar = selectionAdviceSidecar := by
  unfold buildRustVerificationReportBundleWithOptions at h
  dsimp only at h
  split at h
  · exact List.mem_singleton.mp h
  · cases h

/-- The paths of the artifacts and sidecars of a bundle. -/
def deliveryPaths (config : RustVerificationReportWriteConfig)
    (bundle : RustVerificationReportBundle) : List Path :=
  bundle.artifacts.map (artifactPath config) ++ bundle.sidecars.map (sidecarPath config)

/-- A run that succeeds delivers its bundle. -/
theorem delivered_of_completed {selectionProfile : Option Profile} {before after :
    Script.Disk Path String} {has : Path → String → Prop}
    (hprofile : buildSelectionAdviceProfile renderers options = .ok selectionProfile)
    (h : Script.Completed (reportScript renderers config plan options) before after)
    (hhas : ∀ path content, (path, content) ∈ Script.writesOf (bundleScript renderers config
      (buildRustVerificationReportBundleWithOptions options plan) selectionProfile) →
        path ∈ deliveryPaths config (buildRustVerificationReportBundleWithOptions options plan) →
        has path content) :
    Delivered renderers config (buildRustVerificationReportBundleWithOptions options plan)
      selectionProfile (bundleReceipt renderers config
        (buildRustVerificationReportBundleWithOptions options plan) selectionProfile) has where
  artifacts := by
    intro artifact hmem text htext
    refine ⟨exists_receipt_of_mem_artifacts hmem htext, hhas _ _ ?_ ?_⟩
    · exact mem_writesOf_bundleScript.mpr (Or.inr (Or.inl ⟨artifact, hmem, text, htext, rfl⟩))
    · exact List.mem_append_left _ (List.mem_map_of_mem hmem)
  sidecars := by
    intro sidecar hmem
    obtain rfl := eq_selectionAdviceSidecar_of_mem hmem
    have hcache : selectionAdviceSidecar ∈
        (buildRustVerificationReportBundleWithOptions options plan).runtimeCacheSidecars :=
      List.mem_filter.mpr ⟨hmem, rfl⟩
    cases hadvice : renderers.selectionAdviceJson
        (buildRustVerificationReportBundleWithOptions options plan) selectionProfile with
    | error error =>
        -- advice that cannot be rendered is a step that refuses, and a completed run has none
        refine absurd ?_ (h.accepted (.json error))
        rw [reportScript, hprofile]
        dsimp only [bundleScript]
        refine List.mem_append_right _ (List.mem_append_right _ (List.mem_append_right _
          (List.mem_append_right _ (List.mem_map.mpr ⟨_, hcache, ?_⟩))))
        simp only [sidecarStep, renderReportSidecarJson, selectionAdviceSidecar, hadvice]
        rfl
    | ok text =>
        have htext : renderReportSidecarJson renderers
            (buildRustVerificationReportBundleWithOptions options plan) selectionProfile
            selectionAdviceSidecar = .ok (some text) := by
          simp only [renderReportSidecarJson, selectionAdviceSidecar, hadvice]
          rfl
        refine ⟨text, rfl, mem_sidecarPaths_foldl hcache htext, hhas _ _ ?_ ?_⟩
        · exact mem_writesOf_bundleScript.mpr
            (Or.inr (Or.inr ⟨selectionAdviceSidecar, hcache, text, htext, rfl⟩))
        · exact List.mem_append_right _ (List.mem_map_of_mem hmem)

/-! ## The plans of the planner

The planner asks for artifacts of known kinds, each of them once.  So every one of them
has a renderer, and the names of their files are different, as are those of the
manifests and the sidecar. -/

/-- The keys of the artifacts that have a renderer, with the names of their files. -/
def reportFiles : List (String × String) :=
  [("verification_plan_json", "verification_plan.json"), ("task_index_json", "task_index.json"),
    ("performance_index_json", "performance_index.json"),
    ("stability_index_json", "stability_index.json"),
    (stabilityPictureArtifactKey, "stability_picture.json"),
    (analysisProfileArtifactKey, "analysis_profile.json")]

theorem map_ite_sublist {α β : Type} {condition : Prop} [Decidable condition] {list : List α}
    {f : α → β} {whole : List β} (h : (list.map f).Sublist whole) :
    ((if condition then list else []).map f).Sublist whole := by
  split
  · exact h
  · exact List.nil_sublist _

/-- The planner asks for known artifacts, each at most once. -/
theorem obligations_sublist (tasks : List RustVerificationTask) :
    ((reportObligationsForTasks tasks).map fun obligation =>
      (obligation.key, obligation.suggestedArtifactName)).Sublist (reportFiles.take 5) := by
  unfold reportObligationsForTasks
  dsimp only
  split
  · exact List.nil_sublist _
  · rw [List.map_append, List.map_append, List.map_append]
    change List.Sublist _ (([("verification_plan_json", "verification_plan.json")] ++
      [("task_index_json", "task_index.json")]) ++
        [("performance_index_json", "performance_index.json")] ++
      [("stability_index_json", "stability_index.json"),
        (stabilityPictureArtifactKey, "stability_picture.json")])
    refine List.Sublist.append (List.Sublist.append (List.Sublist.append ?_ ?_) ?_) ?_
    · exact List.Sublist.refl _
    · exact map_ite_sublist (List.Sublist.refl _)
    · exact map_ite_sublist (List.Sublist.refl _)
    · exact map_ite_sublist (List.Sublist.refl _)

theorem artifacts_sublist (options : RustVerificationReportOptions)
    {tasks : List RustVerificationTask} (hplan : plan.reportObligations = reportObligationsForTasks tasks) :
    ((buildRustVerificationReportBundleWithOptions options plan).artifacts.map fun artifact =>
      (artifact.key, artifact.artifactName)).Sublist reportFiles := by
  have hobligations := obligations_sublist tasks
  rw [← hplan] at hobligations
  rw [← List.take_append_drop 5 reportFiles, buildRustVerificationReportBundleWithOptions,
    List.map_append, List.map_map]
  refine List.Sublist.append hobligations ?_
  exact map_ite_sublist (List.Sublist.refl _)

/-- A known artifact is rendered to something. -/
theorem artifactPayload_ne_none {artifact : RustVerificationReportArtifact}
    (h : artifact.key ∈ reportFiles.map Prod.fst) :
    artifactPayload renderers artifact ≠ .ok none := by
  have hsome : ∀ (json : Except String String)
      (onError : String → RustVerificationReportArtifactRenderError),
      ((json.map some).mapError onError).mapError RustVerificationReportWriteError.render ≠
        .ok none := by
    intro json onError
    cases json with
    | error message =>
        intro h
        have hresult : Except.error _ = Except.ok none := h
        cases hresult
    | ok text =>
        intro h
        have hresult : Except.ok (some text) = Except.ok none := h
        cases hresult
  unfold artifactPayload renderRustVerificationReportArtifactJsonWithConfig
    renderRustVerificationReportArtifactJson
  simp only [reportFiles, List.map_cons, List.map_nil, List.mem_cons, List.not_mem_nil,
    or_false] at h
  rcases h with hkey | hkey | hkey | hkey | hkey | hkey
  · rw [hkey, if_neg (by decide), if_neg (by decide), if_pos rfl]
    exact hsome _ _
  · rw [hkey, if_neg (by decide), if_neg (by decide), if_neg (by decide), if_pos rfl]
    exact hsome _ _
  · rw [hkey, if_neg (by decide), if_neg (by decide), if_neg (by decide), if_neg (by decide),
      if_pos rfl]
    exact hsome _ _
  · rw [hkey, if_neg (by decide), if_neg (by decide), if_neg (by decide), if_neg (by decide),
      if_neg (by decide), if_pos rfl]
    exact hsome _ _
  · rw [hkey, if_neg (by decide), if_pos rfl]
    exact hsome _ _
  · rw [hkey, if_pos rfl]
    cases renderers.buildAnalysisProfile with
    | error error =>
        intro h
        have hresult : Except.error _ = Except.ok none := h
        cases hresult
    | ok profile => exact hsome _ _

/-- A plain name joined to a directory is the name of the file. -/
theorem fileName?_join {directory : Path} {name : String} (h : Path.IsName name) :
    Path.fileName? (Path.join directory name) = some name := by
  have hparse : Path.parse name = [.normal name] := by
    have hjoined : Path.parse (Path.joinNames [name]) = [name].map .normal :=
      Path.parse_joinNames (by simpa using h)
    rwa [Path.joinNames, String.intercalate_singleton] at hjoined
  have hrelative : Path.isAbsolute name = false := by
    refine decide_eq_false fun hslash => h.2 ?_
    exact List.mem_of_mem_head? hslash
  rw [Path.join, hrelative, hparse, Path.fileName?]
  simp

theorem isName_of_mem_reportFiles : ∀ name ∈ reportFiles.map Prod.snd, Path.IsName name := by
  unfold Path.IsName
  decide

/-- The names of the artifacts of a plan of the planner. -/
theorem artifactName_mem {tasks : List RustVerificationTask}
    (hplan : plan.reportObligations = reportObligationsForTasks tasks)
    {artifact : RustVerificationReportArtifact}
    (h : artifact ∈ (buildRustVerificationReportBundleWithOptions options plan).artifacts) :
    (artifact.key, artifact.artifactName) ∈ reportFiles :=
  (artifacts_sublist options hplan).subset (List.mem_map_of_mem h)

theorem fileName?_artifactPath {tasks : List RustVerificationTask}
    (hplan : plan.reportObligations = reportObligationsForTasks tasks)
    {artifact : RustVerificationReportArtifact}
    (h : artifact ∈ (buildRustVerificationReportBundleWithOptions options plan).artifacts) :
    Path.fileName? (artifactPath config artifact) = some artifact.artifactName :=
  fileName?_join (isName_of_mem_reportFiles _
    (List.mem_map_of_mem (f := Prod.snd) (artifactName_mem hplan h)))

theorem fileName?_manifestPath (directory : Path) :
    Path.fileName? (manifestPath directory) = some "verification_report_manifest.json" :=
  fileName?_join (by unfold Path.IsName; decide)

theorem fileName?_selectionAdvice :
    Path.fileName? (sidecarPath config selectionAdviceSidecar) = some "selection_advice.json" :=
  fileName?_join (by unfold Path.IsName selectionAdviceSidecar; decide)

/-- Artifacts of a plan of the planner with the same path are the same. -/
theorem artifact_eq_of_path_eq {tasks : List RustVerificationTask}
    (hplan : plan.reportObligations = reportObligationsForTasks tasks)
    {first second : RustVerificationReportArtifact}
    (hfirst : first ∈ (buildRustVerificationReportBundleWithOptions options plan).artifacts)
    (hsecond : second ∈ (buildRustVerificationReportBundleWithOptions options plan).artifacts)
    (hpath : artifactPath config first = artifactPath config second) : first = second := by
  have hnodup : ((buildRustVerificationReportBundleWithOptions options plan).artifacts.map
      RustVerificationReportArtifact.artifactName).Nodup := by
    have hnames := (artifacts_sublist options hplan).map Prod.snd
    rw [List.map_map] at hnames
    exact hnames.nodup (by decide)
  refine List.inj_on_of_nodup_map hnodup hfirst hsecond ?_
  have hname := congrArg Path.fileName? hpath
  rw [fileName?_artifactPath hplan hfirst, fileName?_artifactPath hplan hsecond] at hname
  exact Option.some.inj hname

/-- A write that is no manifest is the text of an artifact, or the selection advice. -/
theorem delivery_of_mem_writes {selectionProfile : Option Profile} {path : Path}
    {content : String} (hmanifest : ∀ directory, path ≠ manifestPath directory)
    (h : (path, content) ∈ Script.writesOf (bundleScript renderers config
      (buildRustVerificationReportBundleWithOptions options plan) selectionProfile)) :
    (∃ artifact ∈ (buildRustVerificationReportBundleWithOptions options plan).artifacts,
      path = artifactPath config artifact ∧ ∃ text,
        artifactPayload renderers artifact = .ok (some text) ∧
          content = compactProjectRoot config text) ∨
      path = sidecarPath config selectionAdviceSidecar ∧ ∃ text,
        renderReportSidecarJson renderers (buildRustVerificationReportBundleWithOptions options
          plan) selectionProfile selectionAdviceSidecar = .ok (some text) ∧
          content = compactProjectRoot config text := by
  rw [mem_writesOf_bundleScript] at h
  rcases h with (heq | heq) | ⟨artifact, hartifact, text, htext, heq⟩ |
    ⟨sidecar, hmem, text, htext, heq⟩
  · exact absurd (Prod.mk.inj heq).1 (hmanifest _)
  · exact absurd (Prod.mk.inj heq).1 (hmanifest _)
  · obtain ⟨hpath, hcontent⟩ := Prod.mk.inj heq
    exact Or.inl ⟨artifact, hartifact, hpath, text, htext, hcontent⟩
  · obtain rfl := eq_selectionAdviceSidecar_of_mem (List.mem_filter.mp hmem).1
    obtain ⟨hpath, hcontent⟩ := Prod.mk.inj heq
    exact Or.inr ⟨hpath, text, htext, hcontent⟩

/-- No file of a plan of the planner but a manifest is written twice. -/
theorem unique_of_planned {tasks : List RustVerificationTask} {selectionProfile : Option Profile}
    (hplan : plan.reportObligations = reportObligationsForTasks tasks)
    {path : Path} {content other : String}
    (hmanifest : ∀ directory, path ≠ manifestPath directory)
    (hcontent : (path, content) ∈ Script.writesOf (bundleScript renderers config
      (buildRustVerificationReportBundleWithOptions options plan) selectionProfile))
    (hother : (path, other) ∈ Script.writesOf (bundleScript renderers config
      (buildRustVerificationReportBundleWithOptions options plan) selectionProfile)) :
    other = content := by
  -- a report is never called like the advice, so the two kinds of writes have different paths
  have hapart : ∀ artifact ∈ (buildRustVerificationReportBundleWithOptions options plan).artifacts,
      artifactPath config artifact ≠ sidecarPath config selectionAdviceSidecar := by
    intro artifact hartifact hpath
    have hname := congrArg Path.fileName? hpath
    rw [fileName?_artifactPath hplan hartifact, fileName?_selectionAdvice, Option.some.injEq]
      at hname
    have hfresh : "selection_advice.json" ∉ reportFiles.map Prod.snd := by decide
    exact hfresh (hname ▸ List.mem_map_of_mem (f := Prod.snd) (artifactName_mem hplan hartifact))
  rcases delivery_of_mem_writes hmanifest hcontent with
    ⟨artifact, hartifact, rfl, text, htext, rfl⟩ | ⟨rfl, text, htext, rfl⟩
  · rcases delivery_of_mem_writes hmanifest hother with
      ⟨second, hsecond, hpath, found, hfound, rfl⟩ | ⟨hpath, -⟩
    · obtain rfl := artifact_eq_of_path_eq hplan hartifact hsecond hpath
      obtain rfl : text = found := by simpa using htext.symm.trans hfound
      rfl
    · exact absurd hpath (hapart artifact hartifact)
  · rcases delivery_of_mem_writes hmanifest hother with
      ⟨artifact, hartifact, hpath, -⟩ | ⟨-, found, hfound, rfl⟩
    · exact absurd hpath.symm (hapart artifact hartifact)
    · obtain rfl : text = found := by simpa using htext.symm.trans hfound
      rfl

/-- The files of a plan of the planner are not its manifests. -/
theorem ne_manifestPath_of_mem_deliveryPaths {tasks : List RustVerificationTask}
    (hplan : plan.reportObligations = reportObligationsForTasks tasks) {path : Path}
    (h : path ∈ deliveryPaths config (buildRustVerificationReportBundleWithOptions options plan))
    (directory : Path) : path ≠ manifestPath directory := by
  rintro rfl
  rcases List.mem_append.mp h with h | h
  · obtain ⟨artifact, hartifact, hpath⟩ := List.mem_map.mp h
    have hname := congrArg Path.fileName? hpath
    rw [fileName?_artifactPath hplan hartifact, fileName?_manifestPath, Option.some.injEq] at hname
    have hfresh : "verification_report_manifest.json" ∉ reportFiles.map Prod.snd := by decide
    exact hfresh (hname ▸ List.mem_map_of_mem (f := Prod.snd) (artifactName_mem hplan hartifact))
  · obtain ⟨sidecar, hsidecar, hpath⟩ := List.mem_map.mp h
    obtain rfl := eq_selectionAdviceSidecar_of_mem hsidecar
    have hname := congrArg Path.fileName? hpath
    rw [fileName?_selectionAdvice, fileName?_manifestPath] at hname
    exact absurd hname (by decide)

/-- Every artifact of a plan of the planner has been rendered when a run succeeds. -/
theorem rendered_of_planned {tasks : List RustVerificationTask} {selectionProfile : Option Profile}
    {before after : Script.Disk Path String}
    (hplan : plan.reportObligations = reportObligationsForTasks tasks)
    (hprofile : buildSelectionAdviceProfile renderers options = .ok selectionProfile)
    (h : Script.Completed (reportScript renderers config plan options) before after) :
    ∀ artifact ∈ (buildRustVerificationReportBundleWithOptions options plan).artifacts,
      ∃ text, artifactPayload renderers artifact = .ok (some text) := by
  intro artifact hartifact
  cases hpayload : artifactPayload renderers artifact with
  | error error =>
      have hstep : ∀ directory, artifactStep renderers config directory artifact = .refuse error := by
        intro directory
        rw [artifactStep, hpayload]
        rfl
      -- a report that cannot be rendered is a step that refuses
      refine absurd ?_ (h.accepted error)
      rw [reportScript, hprofile]
      dsimp only [bundleScript]
      refine List.mem_append_right _ (List.mem_append_right _ ?_)
      rw [List.mem_append]
      rcases mem_artifacts_iff.mp hartifact with hsource | hcache
      · exact Or.inl (List.mem_map.mpr ⟨artifact, hsource, hstep _⟩)
      · exact Or.inr (List.mem_append_left _ (List.mem_map.mpr ⟨artifact, hcache, hstep _⟩))
  | ok payload =>
      cases payload with
      | none =>
          -- the planner asks for no report without a renderer
          refine absurd hpayload (artifactPayload_ne_none ?_)
          exact List.mem_map_of_mem (f := Prod.fst) (artifactName_mem hplan hartifact)
      | some text => exact ⟨text, rfl⟩

end Receipts

/-! ## What a run leaves

A run that fails and one that succeeds, together. -/

section Main

variable {Profile : Type} (faults : Script.Faults String) (renderers : ReportRenderers Profile)
  (config : RustVerificationReportWriteConfig) (plan : RustVerificationPlan)
  (options : RustVerificationReportOptions) (disk : Script.Disk Path String)

/-- **What the report writer leaves.**  A run that fails has done the steps before the one that
failed, and no others.  A run that succeeds has delivered the bundle; when the plan is one of
the planner, with every artifact rendered and every file as it was rendered. -/
theorem reports_written :
    match Script.exec (writeRustVerificationReportsWithOptions faults renderers config plan options)
      disk with
    | (.error _, after) => ∃ done next rest,
        reportScript renderers config plan options = done ++ next :: rest ∧
          Script.StoppedAt done next disk after
    | (.ok receipt, after) => ∃ selectionProfile,
        buildSelectionAdviceProfile renderers options = .ok selectionProfile ∧
        Delivered renderers config (buildRustVerificationReportBundleWithOptions options plan)
          selectionProfile receipt
          (Kept (Script.writesOf (reportScript renderers config plan options)) after.files) ∧
        ∀ tasks, plan.reportObligations = reportObligationsForTasks tasks →
          (∀ artifact ∈ (buildRustVerificationReportBundleWithOptions options plan).artifacts,
            ∃ text, artifactPayload renderers artifact = .ok (some text)) ∧
          Delivered renderers config (buildRustVerificationReportBundleWithOptions options plan)
            selectionProfile receipt fun path content => after.files path = some content := by
  rw [writeReports_eq, Script.exec_bind]
  rcases Script.performAll_cases faults (reportScript renderers config plan options) disk with
    ⟨after, hexec, hcompleted⟩ | ⟨error, after, done, next, rest, hexec, hsteps, hstopped⟩
  · rw [hexec]
    have hwrites : ∀ {selectionProfile : Option Profile},
        buildSelectionAdviceProfile renderers options = .ok selectionProfile →
        Script.writesOf (reportScript renderers config plan options) =
          Script.writesOf (bundleScript renderers config
            (buildRustVerificationReportBundleWithOptions options plan) selectionProfile) := by
      intro selectionProfile hprofile
      rw [reportScript, hprofile, Script.writesOf_append]
      rfl
    cases hprofile : buildSelectionAdviceProfile renderers options with
    | error error =>
        -- a profile that cannot be built stops the run
        refine absurd ?_ (hcompleted.accepted error)
        rw [reportScript, hprofile]
        exact List.mem_append_right _ (List.mem_singleton_self _)
    | ok selectionProfile =>
        refine ⟨selectionProfile, rfl, ?_, ?_⟩
        · refine delivered_of_completed hprofile hcompleted fun path content hmem _ => ?_
          rw [hcompleted.files]
          exact kept_of_mem (hwrites hprofile ▸ hmem) disk.files
        · intro tasks hplan
          refine ⟨rendered_of_planned hplan hprofile hcompleted, ?_⟩
          refine delivered_of_completed hprofile hcompleted fun path content hmem hpath => ?_
          rw [hcompleted.files, hwrites hprofile]
          -- in a plan of the planner each delivered file is written once
          refine Script.afterWrites_of_unique hmem (fun other hother => ?_) disk.files
          exact unique_of_planned hplan (ne_manifestPath_of_mem_deliveryPaths hplan hpath) hmem hother
  · rw [hexec]
    exact ⟨done, next, rest, hsteps, hstopped⟩

end Main

/-! ### A run that stops at its first artifact -/

/-- Every artifact that a manifest in the two directories lists was written by the run. -/
def NoDanglingManifest (config : RustVerificationReportWriteConfig)
    (after : Script.Disk Path String) : Prop :=
  ∀ directory ∈ [config.sourceBaselineDir, config.runtimeCacheDir], ∀ bundle,
    after.files (manifestPath directory) = some (manifestText config bundle) →
      ∀ artifact ∈ bundle.artifacts, artifactPath config artifact ∈ after.written.map Prod.fst

/-- A plan that asks for its own state only. -/
def statePlan : RustVerificationPlan where
  projectRoot := [.normal "srv", .normal "app"]
  tasks := []
  reportObligations :=
    [{ key := "verification_plan_json"
       renderer := "render_rust_verification_plan_json"
       suggestedArtifactName := "verification_plan.json"
       reason := "persist active verification policy state"
       taskKinds := ∅
       taskFingerprints := ["perf-1"] }]
  skillDescriptors := []

def plainOptions : RustVerificationReportOptions where
  includeAnalysisProfile := false
  includeSelectionAdvice := false
  defaultTrace := none
  artifactTraces := ∅
  artifactTemplates := ∅
  artifactPersistence := ∅

def appConfig : RustVerificationReportWriteConfig where
  projectRoot := "/srv/app"
  sourceBaselineDir := [.normal "srv", .normal "app", .normal "reports"]
  runtimeCacheDir := [.normal "srv", .normal "app", .normal "cache"]

def stateRenderers : ReportRenderers Unit where
  verificationPlanJson := .ok "[]"
  taskIndexJson := .ok "[]"
  performanceIndexJson := .ok "[]"
  stabilityIndexJson := .ok "[]"
  stabilityPictureJson := .ok "[]"
  buildAnalysisProfile := .ok ()
  analysisProfileJson := fun _ => .ok "[]"
  selectionAdviceJson := fun _ _ => .ok "[]"

/-- The disk is full after four operations: two directories and two manifests. -/
def fullDisk : Script.Faults String := fun operation =>
  if operation = 4 then some ⟨"No space left on device (os error 28)", none⟩ else none

def stoppedRun : Except RustVerificationReportWriteError RustVerificationReportWriteReceipt ×
    Script.Disk Path String :=
  Script.exec (writeRustVerificationReportsWithOptions fullDisk stateRenderers appConfig statePlan
    plainOptions) { files := fun _ => none }

/-- The bundle of the plan. -/
def stateBundle : RustVerificationReportBundle :=
  buildRustVerificationReportBundleWithOptions plainOptions statePlan

/-- The bundle of the source baseline. -/
def emptyBundle : RustVerificationReportBundle := stateBundle.withParts [] []

theorem stoppedRun_eq :
    stoppedRun =
      (.error (.io (Path.join appConfig.runtimeCacheDir "verification_plan.json")
          "No space left on device (os error 28)"),
        { files := Function.update (Function.update (fun _ => none)
            (manifestPath appConfig.sourceBaselineDir) (some (manifestText appConfig emptyBundle)))
            (manifestPath appConfig.runtimeCacheDir) (some (manifestText appConfig stateBundle))
          operations := 5
          written := [(manifestPath appConfig.sourceBaselineDir, manifestText appConfig emptyBundle),
            (manifestPath appConfig.runtimeCacheDir, manifestText appConfig stateBundle)] }) := by
  rfl

/-- The runtime manifest lists the state of the plan, which was not written. -/
theorem manifest_dangles :
    stoppedRun.1 = .error (.io (Path.join appConfig.runtimeCacheDir "verification_plan.json")
        "No space left on device (os error 28)") ∧
      ¬ NoDanglingManifest appConfig stoppedRun.2 := by
  rw [stoppedRun_eq]
  refine ⟨rfl, fun hno => ?_⟩
  have hlisted : ∃ artifact ∈ stateBundle.artifacts, artifactPath appConfig artifact =
      Path.join appConfig.runtimeCacheDir "verification_plan.json" :=
    ⟨_, List.mem_singleton_self _, rfl⟩
  obtain ⟨artifact, hartifact, hpath⟩ := hlisted
  have hwritten := hno appConfig.runtimeCacheDir (by simp) stateBundle
    (by dsimp only; exact Function.update_self _ _ _) artifact hartifact
  rw [hpath] at hwritten
  exact absurd hwritten (by decide +kernel)

end AspRust.Verification
