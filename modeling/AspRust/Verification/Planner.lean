import AspRust.Verification.ModuleLookup
import AspRust.Verification.TaskBuilder

/-!
# The verification planner

The planner walks over the packages of an analysis.  In each of them a profile hint or an
API path baseline that names a source module asks for tasks: reviews of the profile
itself, and one task for each kind of verification.  Large branches ask for a regression
task.  A hint or baseline that names no source module of any package asks for a review
instead.  All tasks are collected under their fingerprints, and what is active among
them decides which reports are owed.

### Layout

Each function that collects tasks for a hint or a baseline is written as a list of
specifications that are pushed one after the other (`pushRequests`).  The order of the
specifications is the order of the calls in the source: it decides which of two tasks with
one fingerprint is kept.

A hint or baseline that names a module of one package is matched, for all packages.  The
two reviews of what is unmatched come last, after the packages.
-/

namespace AspRust.Verification

open AspRust.Foundation

/-- A task asked for in a package. -/
structure RequestedTask where
  packageRoot : Path
  spec : VerificationTaskSpec
deriving DecidableEq

/-- The task that is built for a request. -/
def RequestedTask.task (projectRoot : Path) (policy : RustVerificationPolicy)
    (request : RequestedTask) : RustVerificationTask :=
  newSkillTask projectRoot request.packageRoot request.spec policy

/-- The tasks found so far, and which hints and baselines named a module. -/
structure VerificationTaskCollections where
  matchedProfileHints : OrderedSet ℕ := ∅
  matchedApiPathBaselines : OrderedSet ℕ := ∅
  tasks : OrderedMap String RustVerificationTask := ∅

/-- Collect the tasks of several requests. -/
def pushRequests (projectRoot : Path) (policy : RustVerificationPolicy)
    (tasks : OrderedMap String RustVerificationTask) (requests : List RequestedTask) :
    OrderedMap String RustVerificationTask :=
  requests.foldl (fun tasks request => pushTask policy tasks (request.task projectRoot policy))
    tasks

def nonTestOwnerDependencyCount (imports : RustReasoningImportFacts) : ℕ :=
  (imports.localOwnerDependencies.filter fun dependency => !dependency.isTestContext).length

/-- The kinds of a set that the policy disables. -/
def disabledKinds (kinds : OrderedSet RustVerificationTaskKind) (policy : RustVerificationPolicy) :
    OrderedSet RustVerificationTaskKind :=
  OrderedSet.ofList (kinds.keys.filter fun kind => kind ∈ policy.disabledTaskKinds.keys)

/-- The kinds with a contract of their own that are not asked for. -/
def unusedContractKinds
    (overrides : OrderedMap RustVerificationTaskKind RustVerificationTaskContract)
    (effective : OrderedSet RustVerificationTaskKind) : OrderedSet RustVerificationTaskKind :=
  OrderedSet.ofList (overrides.keys.filter fun kind => kind ∉ effective.keys)

/-! ## Profile hints

What a hint asks for where it names a module: reviews, where it contradicts what the
parser has found or where something is wrong with its configuration, and a task for each
of its kinds. -/

/-- A review that the hint of a module asks for. -/
def profileReviewSpec (module : RustReasoningModuleFacts) (hint : RustVerificationProfileHint)
    (policy : RustVerificationPolicy) (reason : String)
    (evidence : List RustVerificationEvidence) : VerificationTaskSpec :=
  ProfileReviewTaskSpec.taskSpec
    { ownerPath := module.path.display
      ownerNamespace := module.namespaceComponents
      reason := reason
      evidence := evidence
      hint := some hint } policy

def collectProfileConflictTask (module : RustReasoningModuleFacts)
    (hint : RustVerificationProfileHint) (policy : RustVerificationPolicy) :
    List VerificationTaskSpec :=
  if .pureDomainLogic ∉ hint.responsibilities.keys then []
  else
    let nonTestOwnerDeps := nonTestOwnerDependencyCount module.importSummary
    if module.importSummary.externalImports = 0 ∧ nonTestOwnerDeps = 0 then []
    else
      [profileReviewSpec module hint policy
        ("profile declares pure domain logic but parser facts show runtime or owner " ++
          "dependencies")
        [⟨"profile", responsibilityLabels hint.responsibilities⟩,
          ⟨"parser", "external_imports=" ++ toString module.importSummary.externalImports ++
            " owner_deps=" ++ toString nonTestOwnerDeps⟩]]

def collectProfileConfigReviewTasks (module : RustReasoningModuleFacts)
    (hint : RustVerificationProfileHint) (policy : RustVerificationPolicy) :
    List VerificationTaskSpec :=
  let effective := taskKindsForProfile hint policy
  let unused := unusedContractKinds hint.taskContractOverrides effective
  (if hint.responsibilities.keys = [] then
    [profileReviewSpec module hint policy "profile hint declares no responsibilities for owner"
      [⟨"profile", "responsibilities=<none>"⟩]]
  else []) ++
  (match hint.taskKinds with
  | none => []
  | some ownerTaskKinds =>
      let derived := taskKindsForResponsibilities hint.responsibilities policy
      let disabled := disabledKinds ownerTaskKinds policy
      (if ownerTaskKinds ≠ derived ∧ hintRationaleIsEmpty hint then
        [profileReviewSpec module hint policy
          "owner-local verification override needs compact rationale"
          [⟨"profile", responsibilityLabels hint.responsibilities⟩,
            ⟨"derived", taskKindLabels derived⟩,
            ⟨"configured", taskKindLabels ownerTaskKinds⟩]]
      else []) ++
      (if disabled.keys ≠ [] then
        [profileReviewSpec module hint policy
          "owner-local verification override references disabled task kind"
          [⟨"configured", taskKindLabels ownerTaskKinds⟩,
            ⟨"disabled", taskKindLabels disabled⟩]]
      else [])) ++
  (if unused.keys ≠ [] then
    [profileReviewSpec module hint policy
      "owner-local task contract is not used by effective task kinds"
      [⟨"effective", taskKindLabels effective⟩, ⟨"unused_contracts", taskKindLabels unused⟩]]
  else [])

/-- The task of one kind that the hint of a module asks for. -/
def profileTaskSpec (module : RustReasoningModuleFacts) (hint : RustVerificationProfileHint)
    (policy : RustVerificationPolicy) (kind : RustVerificationTaskKind) :
    VerificationTaskSpec where
  kind := kind
  ownerPath := module.path.display
  ownerNamespace := module.namespaceComponents
  line := none
  reason := profileTaskReason kind hint.responsibilities hint.taskKinds.isSome
  contract := taskContractForProfile policy (some hint) kind
  evidence := profileEvidence hint

def collectSkillTasksFromProfile (module : RustReasoningModuleFacts)
    (hint : RustVerificationProfileHint) (policy : RustVerificationPolicy) :
    List VerificationTaskSpec :=
  (taskKindsForProfile hint policy).keys.map (profileTaskSpec module hint policy)

/-- Everything that the hint of a module asks for, in order. -/
def profileTaskSpecs (module : RustReasoningModuleFacts) (hint : RustVerificationProfileHint)
    (policy : RustVerificationPolicy) : List VerificationTaskSpec :=
  collectProfileConflictTask module hint policy ++
    collectProfileConfigReviewTasks module hint policy ++
    collectSkillTasksFromProfile module hint policy

/-! ## API path baselines

The same for a baseline, with the route as evidence. -/

def apiPathConfigReviewEvidence (baseline : RustVerificationApiPathBaseline)
    (extras : List RustVerificationEvidence) : List RustVerificationEvidence :=
  apiPathBaselineEvidence baseline ++ extras

/-- A review that the baseline of a module asks for. -/
def apiPathReviewSpec (module : RustReasoningModuleFacts)
    (baseline : RustVerificationApiPathBaseline) (policy : RustVerificationPolicy)
    (reason : String) (extras : List RustVerificationEvidence) : VerificationTaskSpec :=
  ProfileReviewTaskSpec.taskSpec
    { ownerPath := module.path.display
      ownerNamespace := module.namespaceComponents
      reason := reason
      evidence := apiPathConfigReviewEvidence baseline extras
      hint := none } policy

def collectApiPathConfigReviewTasks (module : RustReasoningModuleFacts)
    (baseline : RustVerificationApiPathBaseline) (policy : RustVerificationPolicy) :
    List VerificationTaskSpec :=
  let effective := taskKindsForApiPathBaseline baseline policy
  let unused := unusedContractKinds baseline.taskContractOverrides effective
  (if baseline.responsibilities.keys = [] then
    [apiPathReviewSpec module baseline policy "API path baseline declares no responsibilities"
      [⟨"profile", "responsibilities=<none>"⟩]]
  else []) ++
  (match baseline.taskKinds with
  | none => []
  | some pathTaskKinds =>
      let derived := taskKindsForResponsibilities baseline.responsibilities policy
      let disabled := disabledKinds pathTaskKinds policy
      (if pathTaskKinds ≠ derived ∧ apiPathRationaleIsEmpty baseline then
        [apiPathReviewSpec module baseline policy
          "API path verification override needs compact rationale"
          [⟨"derived", taskKindLabels derived⟩, ⟨"configured", taskKindLabels pathTaskKinds⟩]]
      else []) ++
      (if disabled.keys ≠ [] then
        [apiPathReviewSpec module baseline policy
          "API path verification override references disabled task kind"
          [⟨"disabled", taskKindLabels disabled⟩]]
      else [])) ++
  (if unused.keys ≠ [] then
    [apiPathReviewSpec module baseline policy
      "API path task contract is not used by effective task kinds"
      [⟨"effective", taskKindLabels effective⟩, ⟨"unused_contracts", taskKindLabels unused⟩]]
  else [])

/-- The task of one kind that the baseline of a module asks for. -/
def apiPathTaskSpec (module : RustReasoningModuleFacts)
    (baseline : RustVerificationApiPathBaseline) (policy : RustVerificationPolicy)
    (kind : RustVerificationTaskKind) : VerificationTaskSpec where
  kind := kind
  ownerPath := module.path.display
  ownerNamespace := module.namespaceComponents
  line := none
  reason := apiPathTaskReason kind baseline baseline.taskKinds.isSome
  contract := taskContractForApiPathBaseline policy baseline kind
  evidence := apiPathBaselineEvidence baseline

def collectSkillTasksFromApiPathBaseline (module : RustReasoningModuleFacts)
    (baseline : RustVerificationApiPathBaseline) (policy : RustVerificationPolicy) :
    List VerificationTaskSpec :=
  (taskKindsForApiPathBaseline baseline policy).keys.map
    (apiPathTaskSpec module baseline policy)

/-- Everything that the baseline of a module asks for, in order. -/
def apiPathTaskSpecs (module : RustReasoningModuleFacts)
    (baseline : RustVerificationApiPathBaseline) (policy : RustVerificationPolicy) :
    List VerificationTaskSpec :=
  collectApiPathConfigReviewTasks module baseline policy ++
    collectSkillTasksFromApiPathBaseline module baseline policy

/-! ## Branches

A regression task for each branch that is large enough. -/

def collectRegressionTasks (branches : List RustReasoningOwnerBranchFacts)
    (policy : RustVerificationPolicy) : List VerificationTaskSpec :=
  branches.flatMap fun branch =>
    let childCount := branch.declaredChildEdges.length
    let dependencyCount := nonTestOwnerDependencyCount branch.importSummary
    if .root ∈ branch.roles then []
    else if childCount < 3 ∧ dependencyCount < 3 then []
    else
      [{ kind := .regression
         ownerPath := branch.path.display
         ownerNamespace := branch.ownerNamespace
         line := none
         reason := "parser facts show a branch coordinating several child modules or local owners"
         contract := taskContractForProfile policy none .regression
         evidence := [⟨"child_modules", toString childCount⟩,
           ⟨"owner_deps", toString dependencyCount⟩] }]

/-! ## Packages

The walk over one package: its hints, its baselines and its branches, and the indices of
the hints and baselines that named a module. -/

/-- The source modules of a package under their paths. -/
def packageLookup (projectRoot : Path) (reasoningTree : RustReasoningTreeFacts) :
    RustVerificationModuleLookup RustReasoningModuleFacts :=
  RustVerificationModuleLookup.new (fun module => OsPath.rooted module.path)
    (OsPath.rooted projectRoot) (OsPath.rooted reasoningTree.packageRoot)
    (reasoningTree.modules.filter (·.isSourceModule))

/-- Take up a hint in a package: note that it names a module, and collect its tasks. -/
def collectProfileTask (projectRoot : Path) (reasoningTree : RustReasoningTreeFacts)
    (policy : RustVerificationPolicy) (collections : VerificationTaskCollections)
    (indexed : RustVerificationProfileHint × ℕ) : VerificationTaskCollections :=
  match (packageLookup projectRoot reasoningTree).getConfigPath indexed.1.osPath with
  | none => collections
  | some module =>
      { collections with
        matchedProfileHints := collections.matchedProfileHints.add indexed.2
        tasks := pushRequests projectRoot policy collections.tasks
          ((profileTaskSpecs module indexed.1 policy).map (⟨reasoningTree.packageRoot, ·⟩)) }

def collectProfileTasks (projectRoot : Path) (reasoningTree : RustReasoningTreeFacts)
    (policy : RustVerificationPolicy) (collections : VerificationTaskCollections) :
    VerificationTaskCollections :=
  policy.profileHints.zipIdx.foldl (collectProfileTask projectRoot reasoningTree policy)
    collections

/-- Take up a baseline in a package: note that it names a module, and collect its
tasks. -/
def collectApiPathBaselineTask (projectRoot : Path) (reasoningTree : RustReasoningTreeFacts)
    (policy : RustVerificationPolicy) (collections : VerificationTaskCollections)
    (indexed : RustVerificationApiPathBaseline × ℕ) : VerificationTaskCollections :=
  match (packageLookup projectRoot reasoningTree).getConfigPath indexed.1.osPath with
  | none => collections
  | some module =>
      { collections with
        matchedApiPathBaselines := collections.matchedApiPathBaselines.add indexed.2
        tasks := pushRequests projectRoot policy collections.tasks
          ((apiPathTaskSpecs module indexed.1 policy).map (⟨reasoningTree.packageRoot, ·⟩)) }

def collectApiPathBaselineTasks (projectRoot : Path) (reasoningTree : RustReasoningTreeFacts)
    (policy : RustVerificationPolicy) (collections : VerificationTaskCollections) :
    VerificationTaskCollections :=
  policy.apiPathBaselines.zipIdx.foldl
    (collectApiPathBaselineTask projectRoot reasoningTree policy) collections

def collectPackageVerificationTasks (projectRoot : Path) (policy : RustVerificationPolicy)
    (collections : VerificationTaskCollections) (reasoningTree : RustReasoningTreeFacts) :
    VerificationTaskCollections :=
  let collected := collectApiPathBaselineTasks projectRoot reasoningTree policy
    (collectProfileTasks projectRoot reasoningTree policy collections)
  { collected with
    tasks := pushRequests projectRoot policy collected.tasks
      ((collectRegressionTasks reasoningTree.ownerBranches policy).map
        (⟨reasoningTree.packageRoot, ·⟩)) }

/-! ## Hints and baselines that name no module

One review for each, after all packages. -/

/-- The text of a path that is joined to a base. -/
def joinText (base : Path) (text : String) : String :=
  if Path.isAbsolute text then text
  else if base = [] then "/" ++ text
  else base.display ++ "/" ++ text

/-- The review that a hint without a module asks for. -/
def unmatchedProfileHintSpec (projectRoot : Path) (policy : RustVerificationPolicy)
    (hint : RustVerificationProfileHint) : VerificationTaskSpec :=
  ProfileReviewTaskSpec.taskSpec
    { ownerPath := joinText projectRoot hint.ownerPath
      ownerNamespace := []
      reason := "profile hint target is not a parser-known Rust source module"
      evidence :=
        [⟨"hint", "responsibilities=" ++ responsibilityLabels hint.responsibilities⟩]
      hint := some hint } policy

def collectUnmatchedProfileHints (projectRoot : Path) (policy : RustVerificationPolicy)
    (matchedProfileHints : OrderedSet ℕ) : List RequestedTask :=
  (policy.profileHints.zipIdx.filter fun indexed => indexed.2 ∉ matchedProfileHints.keys).map
    fun indexed => ⟨projectRoot, unmatchedProfileHintSpec projectRoot policy indexed.1⟩

/-- The review that a baseline without a module asks for. -/
def unmatchedApiPathBaselineSpec (projectRoot : Path) (policy : RustVerificationPolicy)
    (baseline : RustVerificationApiPathBaseline) : VerificationTaskSpec :=
  ProfileReviewTaskSpec.taskSpec
    { ownerPath := joinText projectRoot baseline.ownerPath
      ownerNamespace := []
      reason := "API path baseline target is not a parser-known Rust source module"
      evidence := apiPathConfigReviewEvidence baseline
        [⟨"responsibilities", responsibilityLabels baseline.responsibilities⟩,
          ⟨"task_kinds", taskKindLabels (taskKindsForApiPathBaseline baseline policy)⟩]
      hint := none } policy

def collectUnmatchedApiPathBaselines (projectRoot : Path) (policy : RustVerificationPolicy)
    (matchedApiPathBaselines : OrderedSet ℕ) : List RequestedTask :=
  (policy.apiPathBaselines.zipIdx.filter fun indexed =>
    indexed.2 ∉ matchedApiPathBaselines.keys).map
      fun indexed => ⟨projectRoot, unmatchedApiPathBaselineSpec projectRoot policy indexed.1⟩

/-! ## Report obligations

A report is owed for the kinds that have active tasks, and it lists their fingerprints. -/

/-- The fingerprints of some of the tasks. -/
def fingerprintsWhere (condition : RustVerificationTask → Bool)
    (tasks : List RustVerificationTask) : List String :=
  (tasks.filter condition).map (·.fingerprint)

/-- The kinds of some of the tasks. -/
def kindsWhere (condition : RustVerificationTask → Bool) (tasks : List RustVerificationTask) :
    OrderedSet RustVerificationTaskKind :=
  OrderedSet.ofList ((tasks.filter condition).map (·.kind))

/-- The reports that active tasks demand. -/
def reportObligationsForTasks (tasks : List RustVerificationTask) :
    List RustVerificationReportObligation :=
  let active := tasks.filter (·.isActive)
  let configured (task : RustVerificationTask) : Bool := task.skillBinding.isSome
  let stability := fingerprintsWhere (fun task => task.kind = .stability) active
  if active = [] then []
  else
    [{ key := "verification_plan_json"
       renderer := "render_rust_verification_plan_json"
       suggestedArtifactName := "verification_plan.json"
       reason := "persist active verification policy state so receipts, waivers, and task " ++
         "drift stay comparable"
       taskKinds := kindsWhere (fun _ => true) active
       taskFingerprints := fingerprintsWhere (fun _ => true) active }] ++
    (if fingerprintsWhere configured active ≠ [] then
      [{ key := "task_index_json"
         renderer := "build_rust_verification_task_index + " ++
           "render_rust_verification_task_index_json"
         suggestedArtifactName := "task_index.json"
         reason := "persist compact configured-skill task state for security, performance, " ++
           "stress, chaos, and regression"
         taskKinds := kindsWhere configured active
         taskFingerprints := fingerprintsWhere configured active }]
    else []) ++
    (if fingerprintsWhere (fun task => task.kind = .performance) active ≠ [] then
      [{ key := "performance_index_json"
         renderer := "build_rust_verification_performance_index + " ++
           "render_rust_verification_performance_index_json"
         suggestedArtifactName := "performance_index.json"
         reason := "persist Rust performance state for benchmark, receipt, and " ++
           "missing-evidence metrics"
         taskKinds := OrderedSet.ofList [.performance]
         taskFingerprints := fingerprintsWhere (fun task => task.kind = .performance) active }]
    else []) ++
    (if stability ≠ [] then
      [{ key := "stability_index_json"
         renderer := "build_rust_verification_stability_index + " ++
           "render_rust_verification_stability_index_json"
         suggestedArtifactName := "stability_index.json"
         reason := "persist Rust stability state for long-run drift, resource growth, and " ++
           "missing-evidence metrics"
         taskKinds := OrderedSet.ofList [.stability]
         taskFingerprints := stability },
       { key := "stability_picture_json"
         renderer := "build_rust_verification_stability_picture_with_policy + " ++
           "render_rust_verification_stability_picture_json"
         suggestedArtifactName := "stability_picture.json"
         reason := "persist Agent-facing stability action picture with project and " ++
           "owner-local configuration"
         taskKinds := OrderedSet.ofList [.stability]
         taskFingerprints := stability }]
    else [])

/-! ## The plan

The tasks in their order, the reports that are owed for them, and the descriptors of
their skills. -/

/-- Tasks are listed by package, owner, kind and fingerprint. -/
def taskLe (left right : RustVerificationTask) : Prop :=
  toLex (left.packageRoot, toLex (left.ownerPath, toLex (left.kind, left.fingerprint))) ≤
    toLex (right.packageRoot, toLex (right.ownerPath, toLex (right.kind, right.fingerprint)))

instance : DecidableRel taskLe := fun left right =>
  inferInstanceAs (Decidable (toLex (left.packageRoot, _) ≤ toLex (right.packageRoot, _)))

/-- What has been collected once all packages are walked. -/
def collectPackages (projectRoot : Path) (policy : RustVerificationPolicy)
    (packageAnalyses : List RustReasoningTreeFacts) : VerificationTaskCollections :=
  packageAnalyses.foldl (collectPackageVerificationTasks projectRoot policy) {}

/-- All tasks of a plan, under their fingerprints. -/
def collectTasks (projectRoot : Path) (policy : RustVerificationPolicy)
    (packageAnalyses : List RustReasoningTreeFacts) : OrderedMap String RustVerificationTask :=
  let collected := collectPackages projectRoot policy packageAnalyses
  pushRequests projectRoot policy
    (pushRequests projectRoot policy collected.tasks
      (collectUnmatchedProfileHints projectRoot policy collected.matchedProfileHints))
    (collectUnmatchedApiPathBaselines projectRoot policy collected.matchedApiPathBaselines)

def planRustVerificationFromAnalysis (projectRoot : Path) (policy : RustVerificationPolicy)
    (packageAnalyses : List RustReasoningTreeFacts) : RustVerificationPlan :=
  let taskValues := (collectTasks projectRoot policy packageAnalyses).values
  { projectRoot := projectRoot
    tasks := taskValues.insertionSort taskLe
    reportObligations := reportObligationsForTasks taskValues
    skillDescriptors := skillDescriptorsForTasks policy taskValues }

end AspRust.Verification
