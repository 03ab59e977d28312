import AspRust.Discovery.ManifestWalk
import AspRust.Scenario.ContractGate

/-!
# The gate on all scenarios

A crate keeps its scenarios in two folders.  Below the first, every directory with a
`scenario.toml` is a scenario and what is below it is not looked at; in the second, every
directory with a `scenario.json` is one.  Each must have a benchmark contract that the gate
passes, and a crate with the agent policies must have a scenario for each of them.

The walk follows links, so it is bounded by the lookups it makes, like the walk for manifests.
`SuiteHolds` says of the file system what the gate of the whole suite passes.  The parsers of
TOML and JSON and their derived readers are not part of the repository; `ScenarioReaders` are
any of them.

### What is load-bearing

The walk stops at the first `scenario.toml` on its way down, so "every scenario" is every
outermost one (`IsScenarioBelow`).  A folder that is there and is no directory is an error of
the discovery, and not a finding.

The table of policies is consulted only in the crate that has the pack of these policies, which
is told by one file (`policyPack`).  The receipts that the table looks at are those of the run,
so a policy is shown by a scenario that is required, visited and says so itself (`ShowsPolicy`).
-/

namespace AspRust.Scenario

open AspRust.Foundation AspRust.Discovery

/-! ## Requirements -/

inductive RustScenarioBenchmarkManifestKind where
  | scenarioToml
  | astPatchScenarioJson
deriving DecidableEq, Repr

/-- A directory that must have a contract. -/
structure RustScenarioBenchmarkRequirement where
  root : Path
  manifestKind : RustScenarioBenchmarkManifestKind
deriving DecidableEq, Repr

inductive RustScenarioBenchmarkCause where
  /-- The operating system refused. -/
  | os
  /-- The text of a parser. -/
  | parse (message : String)
deriving DecidableEq, Repr

structure RustScenarioBenchmarkError where
  path : Path
  cause : RustScenarioBenchmarkCause
deriving DecidableEq, Repr

structure RustAstPatchScenarioManifest where
  mode : String
  expectedStatus : String
  expectedCapability : String
  expectedOperation : Option String
deriving DecidableEq, Repr

structure RustScenarioBenchmarkReceipt where
  root : Path
  scenario : RustScenarioMetadata
  benchmark : RustScenarioBenchmarkContract
  status : RustScenarioBenchmarkStatus
  violations : List RustScenarioBenchmarkViolation

/-- How the texts of the files are read. -/
structure ScenarioReaders where
  metadata : List Char → Except String RustScenarioMetadata
  contract : List Char → Except String RustScenarioBenchmarkContract
  manifest : List Char → Except String RustAstPatchScenarioManifest

/-- The names in a directory, sorted. -/
def sortedNames (entries : List (String × Node)) : List String :=
  (entries.map Prod.fst).mergeSort (· ≤ ·)

/-! ## Discovery

Two walks, as the source has them: one that goes down and stops at the first scenario on
its way, and one that looks at the entries of a single folder.  Both report an error if
their folder is there and cannot be listed, and find nothing if it is missing. -/

def scenarioToml (root : Path) : Path := root ++ [.normal "scenario.toml"]

def scenarioJson (root : Path) : Path := root ++ [.normal "scenario.json"]

def benchmarkToml (root : Path) : Path := root ++ [.normal "benchmark.toml"]

def scenariosFolder (crateRoot : Path) : Path :=
  crateRoot ++ [.normal "tests", .normal "unit", .normal "scenarios"]

def astPatchFolder (crateRoot : Path) : Path :=
  crateRoot ++ [.normal "tests", .normal "fixtures", .normal "ast_patch_scenarios"]

def collectScenarioTomlRequirements (fs : FileSystem) :
    ℕ → Path → Except RustScenarioBenchmarkError (List RustScenarioBenchmarkRequirement)
  | 0, _ => .ok []
  | fuel + 1, root =>
      if fs.pathExists root = false then .ok []
      else
        match fs.readDir root with
        | none => .error ⟨root, .os⟩
        | some entries =>
            if fs.pathExists (scenarioToml root) then .ok [⟨root, .scenarioToml⟩]
            else
              ((sortedNames entries).mapM fun name =>
                let entry := root ++ [.normal name]
                if fs.isDir entry then collectScenarioTomlRequirements fs fuel entry
                else .ok []).map List.flatten

def collectAstPatchScenarioRequirements (fs : FileSystem) (root : Path) :
    Except RustScenarioBenchmarkError (List RustScenarioBenchmarkRequirement) :=
  if fs.pathExists root = false then .ok []
  else
    match fs.readDir root with
    | none => .error ⟨root, .os⟩
    | some entries =>
        .ok (((sortedNames entries).map fun name => root ++ [.normal name]).filterMap fun entry =>
          if fs.isDir entry && fs.pathExists (scenarioJson entry) then
            some ⟨entry, .astPatchScenarioJson⟩
          else none)

/-- The directories that must have a contract, sorted. -/
def discoverRequiredRustScenarioBenchmarks (fs : FileSystem) (crateRoot : Path) :
    Except RustScenarioBenchmarkError (List RustScenarioBenchmarkRequirement) := do
  let scenarios ← collectScenarioTomlRequirements fs (pathDepth fs + 1) (scenariosFolder crateRoot)
  let patches ← collectAstPatchScenarioRequirements fs (astPatchFolder crateRoot)
  return (scenarios ++ patches).mergeSort fun left right => left.root ≤ right.root

/-! ## One scenario

A requirement is a directory and the kind of its manifest.  For the first kind the
manifest is the description of the scenario; for a patch scenario the gate makes a
description up, from the name of the directory, and checks the manifest by itself. -/

section Reading

variable (readers : ScenarioReaders) (fs : FileSystem)

/-- Read a file and decode its text. -/
def readDecoded {α : Type} (decode : List Char → Except String α) (path : Path) :
    Except RustScenarioBenchmarkError α :=
  match fs.read path with
  | none => .error ⟨path, .os⟩
  | some bytes =>
      match fromUtf8 bytes with
      | .error _ => .error ⟨path, .os⟩
      | .ok text => (decode text).mapError fun message => ⟨path, .parse message⟩

def validateRustScenarioBenchmark (root : Path) :
    Except RustScenarioBenchmarkError RustScenarioBenchmarkReceipt := do
  let scenario ← readDecoded fs readers.metadata (scenarioToml root)
  let benchmark ← readDecoded fs readers.contract (benchmarkToml root)
  let violations := scenarioBenchmarkViolations scenario benchmark
  return ⟨root, scenario, benchmark, scenarioBenchmarkStatus violations, violations⟩

def astPatchScenarioTitle (root : Path) : String :=
  "AST patch scenario " ++ (Path.fileName? root).getD "ast_patch_scenario"

/-- What the gate takes for the description of a patch scenario. -/
def astPatchScenarioMetadata (root : Path) (manifest : RustAstPatchScenarioManifest) :
    RustScenarioMetadata where
  id := (Path.fileName? root).getD "ast-patch-scenario"
  title := astPatchScenarioTitle root
  policyIds := ["RUST-AGENT-AST-PATCH-SCENARIO-001"]
  agentGoal := "Keep AST patch " ++ manifest.mode ++ " scenario bounded for " ++
    manifest.expectedStatus ++ "/" ++ manifest.expectedCapability ++ "."
  referenceRepositories := ["rust-lang/rust"]
  referencePatterns :=
    ["AST edits are validated through explicit operation receipts before mutation"]
  inputs := "input"
  expected := "expected"

def manifestViolations (manifest : RustAstPatchScenarioManifest) :
    List RustScenarioBenchmarkViolation :=
  requireNonEmpty "scenario.mode" manifest.mode ++
    requireNonEmpty "scenario.expected_status" manifest.expectedStatus ++
    requireNonEmpty "scenario.expected_capability" manifest.expectedCapability ++
    violationIf (manifest.expectedOperation.getD "" = "" ∧ manifest.expectedStatus = "applied")
      "scenario.expected_operation"
      "applied AST patch scenarios must name the expected operation"

def validateAstPatchScenarioBenchmark (root : Path) :
    Except RustScenarioBenchmarkError RustScenarioBenchmarkReceipt := do
  let manifest ← readDecoded fs readers.manifest (scenarioJson root)
  let benchmark ← readDecoded fs readers.contract (benchmarkToml root)
  let scenario := astPatchScenarioMetadata root manifest
  let violations := scenarioBenchmarkViolations scenario benchmark ++ manifestViolations manifest
  return ⟨root, scenario, benchmark, scenarioBenchmarkStatus violations, violations⟩

def validateRustScenarioBenchmarkRequirement (requirement : RustScenarioBenchmarkRequirement) :
    Except RustScenarioBenchmarkError RustScenarioBenchmarkReceipt :=
  match requirement.manifestKind with
  | .scenarioToml => validateRustScenarioBenchmark readers fs requirement.root
  | .astPatchScenarioJson => validateAstPatchScenarioBenchmark readers fs requirement.root

end Reading

/-! ## Policies

The table of the policies that must have a scenario, as the source lists it, and the
check of the receipts against it.  A requirement is covered by a receipt with its root,
of a scenario that has the id of the requirement and names its policy. -/

/-- A scenario that an agent policy must have. -/
structure RustPolicyScenarioRequirement where
  ruleId : String
  scenarioId : String
  policyId : String
  scenarioRoot : String
deriving DecidableEq, Repr

/-- A requirement in the folder of the software criteria. -/
def criterion (ruleId scenarioId policyId folder : String) : RustPolicyScenarioRequirement :=
  ⟨ruleId, scenarioId, policyId, "tests/unit/scenarios/software_criteria/" ++ folder⟩

def rustAgentPolicyScenarioRequirements : List RustPolicyScenarioRequirement :=
  [
    criterion "RUST-AGENT-DOCS-MODULE-001" "control-flow-v1" "RUST-AGENT-CFG-001"
      "control_flow_v1",
    criterion "RUST-AGENT-DOCS-PUBLIC-002" "public-dynamic-json-api-boundary-v1"
      "RUST-AGENT-API-SHAPE-036" "public_dynamic_json_api_boundary_v1",
    criterion "RUST-AGENT-SOURCE-NAMESPACE-003" "control-flow-v1" "RUST-AGENT-CFG-001"
      "control_flow_v1",
    criterion "RUST-AGENT-API-NAME-004" "public-dynamic-json-api-boundary-v1"
      "RUST-AGENT-API-SHAPE-036" "public_dynamic_json_api_boundary_v1",
    criterion "RUST-AGENT-API-FACADE-005" "public-dynamic-json-api-boundary-v1"
      "RUST-AGENT-API-SHAPE-036" "public_dynamic_json_api_boundary_v1",
    criterion "RUST-AGENT-SOURCE-MODULE-006" "control-flow-v1" "RUST-AGENT-CFG-001"
      "control_flow_v1",
    criterion "RUST-AGENT-SOURCE-PATH-007" "control-flow-v1" "RUST-AGENT-CFG-001"
      "control_flow_v1",
    criterion "RUST-AGENT-DOCS-BRANCH-008" "control-flow-v1" "RUST-AGENT-CFG-001"
      "control_flow_v1",
    criterion "RUST-AGENT-OWNER-GRAPH-009" "control-flow-v1" "RUST-AGENT-CFG-001"
      "control_flow_v1",
    criterion "RUST-AGENT-OWNER-BOUNDARY-010" "control-flow-v1" "RUST-AGENT-CFG-001"
      "control_flow_v1",
    criterion "RUST-AGENT-DOCS-OWNER-FANOUT-011" "control-flow-v1" "RUST-AGENT-CFG-001"
      "control_flow_v1",
    criterion "RUST-AGENT-API-TYPE-012" "public-dynamic-json-api-boundary-v1"
      "RUST-AGENT-API-SHAPE-036" "public_dynamic_json_api_boundary_v1",
    criterion "RUST-AGENT-API-ERROR-013" "public-dynamic-json-api-boundary-v1"
      "RUST-AGENT-API-SHAPE-036" "public_dynamic_json_api_boundary_v1",
    criterion "RUST-AGENT-TEST-SUPPORT-014" "control-flow-v1" "RUST-AGENT-CFG-001"
      "control_flow_v1",
    criterion "RUST-AGENT-CFG-PUBLIC-015" "control-flow-v1" "RUST-AGENT-CFG-001"
      "control_flow_v1",
    criterion "RUST-AGENT-CFG-PUBLIC-016" "control-flow-v1" "RUST-AGENT-CFG-001"
      "control_flow_v1",
    criterion "RUST-AGENT-ITER-PUBLIC-017" "control-flow-v1" "RUST-AGENT-CFG-001"
      "control_flow_v1",
    criterion "RUST-AGENT-API-FLAGS-018" "public-dynamic-json-api-boundary-v1"
      "RUST-AGENT-API-SHAPE-036" "public_dynamic_json_api_boundary_v1",
    criterion "RUST-AGENT-API-PARAMETERS-019" "public-dynamic-json-api-boundary-v1"
      "RUST-AGENT-API-SHAPE-036" "public_dynamic_json_api_boundary_v1",
    criterion "RUST-AGENT-DATA-FIELD-020" "data-structure-linear-membership-scan-v1"
      "RUST-AGENT-DS-001" "data_structure_linear_membership_scan_v1",
    criterion "RUST-AGENT-DATA-ENUM-PAYLOAD-021" "data-structure-linear-membership-scan-v1"
      "RUST-AGENT-DS-001" "data_structure_linear_membership_scan_v1",
    criterion "RUST-AGENT-DATA-BOUNDS-022" "data-structure-linear-membership-scan-v1"
      "RUST-AGENT-DS-001" "data_structure_linear_membership_scan_v1",
    criterion "RUST-AGENT-API-SHAPE-023" "public-dynamic-json-api-boundary-v1"
      "RUST-AGENT-API-SHAPE-036" "public_dynamic_json_api_boundary_v1",
    criterion "RUST-AGENT-DATA-ENUM-TUPLE-024" "data-structure-linear-membership-scan-v1"
      "RUST-AGENT-DS-001" "data_structure_linear_membership_scan_v1",
    criterion "RUST-AGENT-CFG-IMPL-025" "control-flow-v1" "RUST-AGENT-CFG-001" "control_flow_v1",
    criterion "RUST-AGENT-ITER-IMPL-026" "control-flow-v1" "RUST-AGENT-CFG-001" "control_flow_v1",
    criterion "RUST-AGENT-API-TYPE-ALIAS-027" "public-dynamic-json-api-boundary-v1"
      "RUST-AGENT-API-SHAPE-036" "public_dynamic_json_api_boundary_v1",
    criterion "RUST-AGENT-DATA-STATE-028" "data-structure-linear-membership-scan-v1"
      "RUST-AGENT-DS-001" "data_structure_linear_membership_scan_v1",
    criterion "RUST-AGENT-DATA-MEMBERSHIP-029" "data-structure-linear-membership-scan-v1"
      "RUST-AGENT-DS-001" "data_structure_linear_membership_scan_v1",
    criterion "RUST-AGENT-ASYNC-BLOCKING-030" "async-blocking-boundary-v1"
      "RUST-AGENT-ASYNC-BLOCKING-001" "async_blocking_boundary_v1",
    criterion "RUST-AGENT-ASYNC-SYNC-LOCK-031" "async-sync-lock-boundary-v1"
      "RUST-AGENT-ASYNC-SYNC-LOCK-001" "async_sync_lock_boundary_v1",
    criterion "RUST-AGENT-ASYNC-BACKPRESSURE-032" "async-backpressure-boundary-v1"
      "RUST-AGENT-ASYNC-BACKPRESSURE-001" "async_backpressure_boundary_v1",
    criterion "RUST-AGENT-ASYNC-CANCEL-SAFETY-033" "async-select-cancellation-safety-v1"
      "RUST-AGENT-ASYNC-CANCEL-SAFETY-001" "async_select_cancellation_safety_v1",
    criterion "RUST-AGENT-ASYNC-CANCEL-SAFETY-034" "async-timeout-cancellation-safety-v1"
      "RUST-AGENT-ASYNC-CANCEL-SAFETY-002" "async_timeout_cancellation_safety_v1",
    criterion "RUST-AGENT-ASYNC-TASK-LIFECYCLE-001" "async-task-lifecycle-boundary-v1"
      "RUST-AGENT-ASYNC-TASK-LIFECYCLE-001" "async_task_lifecycle_boundary_v1",
    criterion "RUST-AGENT-API-SHAPE-036" "public-dynamic-json-api-boundary-v1"
      "RUST-AGENT-API-SHAPE-036" "public_dynamic_json_api_boundary_v1",
    criterion "RUST-AGENT-PROC-001" "process-command-probe-v1" "RUST-AGENT-PROC-001"
      "process_command_probe_v1",
    criterion "RUST-AGENT-TOKIO-RUNTIME-002" "tokio-runtime-boundary-v1"
      "RUST-AGENT-TOKIO-RUNTIME-002" "tokio_runtime_boundary_v1",
    criterion "RUST-AGENT-NATIVE-ABI-001" "native-abi-contract-surface-v1"
      "RUST-AGENT-NATIVE-ABI-001" "native_abi_contract_surface_v1",
    criterion "RUST-AGENT-PROJECT-MANIFEST-023" "rust-package-edition-2024-v1"
      "RUST-AGENT-PROJECT-MANIFEST-023" "rust_package_edition_2024_v1"]

structure RustScenarioBenchmarkPolicyCoverage where
  ruleId : String
  scenarioId : String
  policyId : String
  root : Path
deriving DecidableEq, Repr

/-- A path as it is shown; only paths below the root are. -/
def displaySuitePath (root path : Path) : String := ((Path.stripPrefix? root path).getD path).text

/-- What a requirement finds: a violation, or coverage. -/
def coverRequirement (crateRoot : Path)
    (receiptByRoot : OrderedMap Path RustScenarioBenchmarkReceipt)
    (requirement : RustPolicyScenarioRequirement) :
    RustScenarioBenchmarkViolation ⊕ RustScenarioBenchmarkPolicyCoverage :=
  if isAgentPolicyId requirement.policyId.toList = false then
    .inl (contractViolation ("agent_policy_requirements." ++ requirement.ruleId ++ ".policy_id")
      ("policy id " ++ requirement.policyId ++ " must match " ++ scenarioPolicyIdGrammar))
  else
    let scenarioRoot := Path.join crateRoot requirement.scenarioRoot
    match receiptByRoot.get? scenarioRoot with
    | none => .inl (contractViolation (displaySuitePath crateRoot scenarioRoot)
        ("agent policy " ++ requirement.ruleId ++ " requires scenario " ++
          requirement.scenarioId ++ " with policy " ++ requirement.policyId))
    | some receipt =>
        -- the ids of a root are those of its receipt
        let missing :=
          (if receipt.scenario.id = requirement.scenarioId then []
            else ["scenario.id=" ++ requirement.scenarioId]) ++
          (if requirement.policyId ∈ receipt.scenario.policyIds then []
            else ["policy_ids contains " ++ requirement.policyId])
        if missing = [] then
          .inr ⟨requirement.ruleId, requirement.scenarioId, requirement.policyId, scenarioRoot⟩
        else
          .inl (contractViolation (displaySuitePath crateRoot scenarioRoot)
            ("agent policy " ++ requirement.ruleId ++ " scenario coverage is incomplete: " ++
              ", ".intercalate missing))

/-- The violations of the requirements, and what is covered, by rule. -/
def validateAgentPolicyScenarioCoverage (requirements : List RustPolicyScenarioRequirement)
    (crateRoot : Path) (receipts : List RustScenarioBenchmarkReceipt) :
    List RustScenarioBenchmarkViolation × List RustScenarioBenchmarkPolicyCoverage :=
  let receiptByRoot :=
    OrderedMap.insertAll RustScenarioBenchmarkReceipt.root id receipts ∅
  let found := requirements.map (coverRequirement crateRoot receiptByRoot)
  (found.filterMap Sum.getLeft?,
    (found.filterMap Sum.getRight?).mergeSort fun left right => left.ruleId ≤ right.ruleId)

/-! ## The suite

The validation of all scenarios, its receipt, and the gate of the test, which ends it
with the text of the receipt unless the status is that of a pass. -/

/-- The file that has the agent policies. -/
def policyPack (crateRoot : Path) : Path :=
  crateRoot ++ [.normal "src", .normal "rules", .normal "agent_policy", .normal "pack.rs"]

structure RustScenarioBenchmarkSuiteReceipt where
  root : Path
  requirements : List RustScenarioBenchmarkRequirement
  receipts : List RustScenarioBenchmarkReceipt
  policyCoverage : List RustScenarioBenchmarkPolicyCoverage
  violations : List RustScenarioBenchmarkViolation
  status : RustScenarioBenchmarkStatus

def scenarioBenchmarkSuiteStatus (receipts : List RustScenarioBenchmarkReceipt)
    (violations : List RustScenarioBenchmarkViolation) : RustScenarioBenchmarkStatus :=
  if violations ≠ [] ∨ ∃ receipt ∈ receipts, receipt.status = .invalid then .invalid
  else if ∃ receipt ∈ receipts, receipt.status = .fail then .fail
  else .pass

def RustScenarioBenchmarkViolationKind.asStr : RustScenarioBenchmarkViolationKind → String
  | .contract => "contract"
  | .performance => "performance"
  | .memory => "memory"

def RustScenarioBenchmarkStatus.asStr : RustScenarioBenchmarkStatus → String
  | .pass => "pass"
  | .fail => "fail"
  | .invalid => "invalid"

def defaultBenchmarkTomlTemplate : String :=
  "\n".intercalate
    ["generator:",
      "use asp_rust_build_support::\x7basp_rust_scenario, measure_asp_rust_scenario, " ++
        "render_asp_rust_scenario_benchmark_toml\x7d;",
      "",
      "let scenario = asp_rust_scenario! \x7b",
      "    # Declare identity, commands, budgets, warmup_iterations, measure_iterations, and " ++
        "typed metrics here.",
      "    # Do not declare observed_total or observed_timings.",
      "\x7d;",
      "let measurement = measure_asp_rust_scenario(&scenario, || run_real_scenario())?;",
      "let benchmark_toml = render_asp_rust_scenario_benchmark_toml(&scenario, &measurement)?;",
      "# Publish benchmark_toml as the measured receipt. A zero clock sample is remeasured, " ++
        "never replaced with 1ns/1us."]

/-- The text that a test ends with. -/
def scenarioBenchmarkHardGateFailureMessage (receipt : RustScenarioBenchmarkSuiteReceipt) :
    String :=
  let suiteLines := receipt.violations.flatMap fun violation =>
    ("- " ++ violation.kind.asStr ++ ":" ++ violation.field ++ ": " ++ violation.message) ::
      if "benchmark.toml".toList <:+ violation.field.toList then
        ["create: " ++ violation.field, defaultBenchmarkTomlTemplate]
      else []
  let scenarioLines := receipt.receipts.flatMap fun scenarioReceipt =>
    scenarioReceipt.violations.map fun violation =>
      "- " ++ violation.kind.asStr ++ ":" ++ displaySuitePath receipt.root scenarioReceipt.root ++
        ":" ++ violation.field ++ ": " ++ violation.message
  "\n".intercalate
    (["scenario benchmark hard gate failed",
      "preferred fix: add benchmark.toml next to the scenario fixture",
      "do not add advisory mode, fixture-local opt-out, or expires",
      "status: " ++ receipt.status.asStr] ++ suiteLines ++ scenarioLines)

section Suite

variable (readers : ScenarioReaders) (fs : FileSystem)

/-- What a required directory gives: a violation without a contract, or a receipt. -/
def visitRequirement (crateRoot : Path) (requirement : RustScenarioBenchmarkRequirement) :
    Except RustScenarioBenchmarkError
      (RustScenarioBenchmarkViolation ⊕ RustScenarioBenchmarkReceipt) :=
  let benchmarkPath := benchmarkToml requirement.root
  if fs.pathExists benchmarkPath = false then
    .ok (.inl (contractViolation (displaySuitePath crateRoot benchmarkPath)
      "required benchmark.toml is missing"))
  else (validateRustScenarioBenchmarkRequirement readers fs requirement).map .inr

def validateRequiredRustScenarioBenchmarks (crateRoot : Path) :
    Except RustScenarioBenchmarkError RustScenarioBenchmarkSuiteReceipt := do
  let requirements ← discoverRequiredRustScenarioBenchmarks fs crateRoot
  let visited ← requirements.mapM (visitRequirement readers fs crateRoot)
  let receipts := visited.filterMap Sum.getRight?
  let coverage :=
    if fs.isFile (policyPack crateRoot) then
      validateAgentPolicyScenarioCoverage rustAgentPolicyScenarioRequirements crateRoot receipts
    else ([], [])
  let violations := visited.filterMap Sum.getLeft? ++ coverage.1
  return ⟨crateRoot, requirements, receipts, coverage.2, violations,
    scenarioBenchmarkSuiteStatus receipts violations⟩

/-- Why the hard gate ends a test. -/
inductive HardGateFailure where
  /-- `scenario benchmark hard gate could not read {root}: {error}` -/
  | unreadable (crateRoot : Path) (error : RustScenarioBenchmarkError)
  | rejected (message : String)
deriving DecidableEq, Repr

def assertRuleFixtureScenarioBenchmarks (crateRoot : Path) : Except HardGateFailure Unit :=
  match validateRequiredRustScenarioBenchmarks readers fs crateRoot with
  | .error error => .error (.unreadable crateRoot error)
  | .ok receipt =>
      if receipt.status ≠ .pass then
        .error (.rejected (scenarioBenchmarkHardGateFailureMessage receipt))
      else .ok ()

end Suite

/-! ## Names below a folder

What the walks find is described by names: a list of names leads from the folder to a
directory with a manifest, and to none on the way.  The walk is bounded by the lookups
that it makes, so that it finds each of them needs no depth to be given. -/

section Discovery

variable {fs : FileSystem}

/-- Names below a folder that lead to a scenario, no directory on the way being one. -/
structure IsScenarioBelow (fs : FileSystem) (folder : Path) (names : List String) : Prop where
  scenario : fs.pathExists (scenarioToml (folder ++ names.map .normal)) = true
  outermost : ∀ before after, names = before ++ after → after ≠ [] →
    fs.pathExists (scenarioToml (folder ++ before.map .normal)) = false

theorem isScenarioBelow_cons_iff {folder : Path} {name : String} {rest : List String} :
    IsScenarioBelow fs folder (name :: rest) ↔
      fs.pathExists (scenarioToml folder) = false ∧
        IsScenarioBelow fs (folder ++ [.normal name]) rest := by
  have hfolder : ∀ names : List String, folder ++ (name :: names).map Component.normal =
      folder ++ [.normal name] ++ names.map .normal := by simp
  constructor
  · rintro ⟨hscenario, houtermost⟩
    rw [hfolder] at hscenario
    refine ⟨by simpa using houtermost [] (name :: rest) rfl (by simp), hscenario, ?_⟩
    rintro before after rfl hafter
    rw [← hfolder]
    exact houtermost (name :: before) after rfl hafter
  · rintro ⟨hhere, hscenario, houtermost⟩
    refine ⟨by rwa [hfolder], ?_⟩
    rintro (_ | ⟨first, before⟩) after hnames hafter
    · simpa using hhere
    · obtain ⟨rfl, rfl⟩ := List.cons.inj hnames
      rw [hfolder]
      exact houtermost before after rfl hafter

theorem isScenarioBelow_nil_iff {folder : Path} :
    IsScenarioBelow fs folder [] ↔ fs.pathExists (scenarioToml folder) = true := by
  constructor
  · rintro ⟨hscenario, -⟩
    simpa using hscenario
  · intro h
    refine ⟨by simpa using h, fun before after hnil hafter => ?_⟩
    exact absurd (List.append_eq_nil_iff.mp hnil.symm).2 hafter

theorem isDir_iff_readDir {path : Path} :
    fs.isDir path = true ↔ ∃ entries, fs.readDir path = some entries := by
  unfold FileSystem.isDir FileSystem.readDir
  cases fs.stat path with
  | none => simp
  | some node => cases node <;> simp

theorem pathExists_of_isDir {path : Path} (h : fs.isDir path = true) :
    fs.pathExists path = true := by
  unfold FileSystem.isDir at h
  unfold FileSystem.pathExists
  cases hstat : fs.stat path with
  | none => simp [hstat] at h
  | some node => rfl

/-- What has something below it is a directory. -/
theorem isDir_of_pathExists {path rest : Path} {name : String}
    (h : fs.pathExists (path ++ .normal name :: rest) = true) : fs.isDir path = true := by
  obtain ⟨entries, node, hentries, -⟩ := FileSystem.readDir_of_pathExists h
  exact isDir_iff_readDir.mpr ⟨entries, hentries⟩

/-- The names of a scenario end in its file. -/
theorem IsScenarioBelow.exists_below {folder : Path} {names : List String}
    (h : IsScenarioBelow fs folder names) :
    ∃ name rest, fs.pathExists (folder ++ .normal name :: rest) = true ∧
      name = (names ++ ["scenario.toml"]).head (by simp) := by
  have hscenario := h.scenario
  cases names with
  | nil => exact ⟨"scenario.toml", [], by simpa [scenarioToml] using hscenario, rfl⟩
  | cons name rest =>
      refine ⟨name, rest.map .normal ++ [.normal "scenario.toml"], ?_, rfl⟩
      simpa [scenarioToml] using hscenario

theorem IsScenarioBelow.isDir {folder : Path} {names : List String}
    (h : IsScenarioBelow fs folder names) : fs.isDir folder = true := by
  obtain ⟨name, rest, hbelow, -⟩ := h.exists_below
  exact isDir_of_pathExists hbelow

theorem IsScenarioBelow.length_lt {folder : Path} {names : List String}
    (h : IsScenarioBelow fs folder names) : names.length < pathDepth fs + 1 := by
  have hscenario := h.scenario
  have hnames : scenarioToml (folder ++ names.map .normal) =
      folder ++ (names ++ ["scenario.toml"]).map .normal := by simp [scenarioToml]
  rw [hnames] at hscenario
  have hlength := length_le_pathDepth hscenario
  rw [List.length_append, List.length_singleton] at hlength
  omega

theorem mem_sortedNames {entries : List (String × Node)} {name : String} :
    name ∈ sortedNames entries ↔ name ∈ entries.map Prod.fst := List.mem_mergeSort

/-- **The walk finds every outermost scenario** of a folder that it can list. -/
theorem collectScenarioTomlRequirements_spec (fuel : ℕ) {folder : Path}
    (hfolder : fs.pathExists folder = true → fs.isDir folder = true) :
    ∃ found, collectScenarioTomlRequirements fs fuel folder = .ok found ∧
      ∀ requirement, requirement ∈ found ↔ ∃ names, names.length < fuel ∧
        IsScenarioBelow fs folder names ∧
          requirement = ⟨folder ++ names.map .normal, .scenarioToml⟩ := by
  induction fuel generalizing folder with
  | zero => exact ⟨[], rfl, by simp⟩
  | succ fuel ih =>
      rw [collectScenarioTomlRequirements]
      split
      · next hmissing =>
          refine ⟨[], rfl, fun requirement => iff_of_false List.not_mem_nil ?_⟩
          rintro ⟨names, -, hbelow, -⟩
          rw [pathExists_of_isDir hbelow.isDir] at hmissing
          cases hmissing
      · next hexists =>
          obtain ⟨entries, hentries⟩ :=
            isDir_iff_readDir.mp (hfolder (Bool.not_eq_false _ ▸ hexists))
          rw [hentries]
          dsimp only
          split
          · next hscenario =>
              refine ⟨_, rfl, fun requirement => ?_⟩
              rw [List.mem_singleton]
              constructor
              · rintro rfl
                exact ⟨[], Nat.succ_pos _, isScenarioBelow_nil_iff.mpr hscenario, by simp⟩
              · rintro ⟨_ | ⟨name, rest⟩, -, hbelow, rfl⟩
                · simp
                · rw [(isScenarioBelow_cons_iff.mp hbelow).1] at hscenario
                  cases hscenario
          · next hscenario =>
              rw [Bool.not_eq_true] at hscenario
              -- Below each entry are the scenarios whose names start with it.
              have hentry : ∀ name, ∃ found,
                  (if fs.isDir (folder ++ [.normal name]) then
                    collectScenarioTomlRequirements fs fuel (folder ++ [.normal name])
                  else .ok []) = .ok found ∧
                  ∀ requirement, requirement ∈ found ↔ ∃ rest, rest.length < fuel ∧
                    IsScenarioBelow fs (folder ++ [.normal name]) rest ∧
                      requirement = ⟨folder ++ [.normal name] ++ rest.map .normal,
                        .scenarioToml⟩ := by
                intro name
                split
                · next hdir => exact ih fun _ => hdir
                · next hdir =>
                    refine ⟨[], rfl, fun requirement => iff_of_false List.not_mem_nil ?_⟩
                    rintro ⟨rest, -, hbelow, -⟩
                    exact hdir hbelow.isDir
              obtain ⟨found, hfound⟩ := exists_mapM_eq_ok.mpr fun name
                (_ : name ∈ sortedNames entries) => (hentry name).imp fun _ h => h.1
              refine ⟨found.flatten, by rw [hfound]; rfl, fun requirement => ?_⟩
              rw [List.mem_flatten]
              constructor
              · rintro ⟨below, hbelow, hmem⟩
                obtain ⟨name, -, hname⟩ := (mem_of_mapM_eq_ok hfound).mp hbelow
                obtain ⟨below', hname', hspec⟩ := hentry name
                obtain rfl : below = below' := Except.ok.inj (hname.symm.trans hname')
                obtain ⟨rest, hlength, hrest, rfl⟩ := (hspec requirement).mp hmem
                exact ⟨name :: rest, Nat.succ_lt_succ hlength,
                  isScenarioBelow_cons_iff.mpr ⟨hscenario, hrest⟩, by simp⟩
              · rintro ⟨_ | ⟨name, rest⟩, hlength, hbelow, rfl⟩
                · rw [isScenarioBelow_nil_iff.mp hbelow] at hscenario
                  cases hscenario
                · obtain ⟨below, hname, hspec⟩ := hentry name
                  obtain ⟨first, path, hexists, hfirst⟩ := hbelow.exists_below
                  obtain rfl : first = name := hfirst
                  have hlisted := FileSystem.mem_names_of_pathExists hentries hexists
                  refine ⟨below, (mem_of_mapM_eq_ok hfound).mpr
                    ⟨first, mem_sortedNames.mpr (by simpa using hlisted), hname⟩, ?_⟩
                  exact (hspec _).mpr ⟨rest, Nat.lt_of_succ_lt_succ hlength,
                    (isScenarioBelow_cons_iff.mp hbelow).2, by simp⟩

theorem collectScenarioTomlRequirements_error {folder : Path} (fuel : ℕ)
    (hexists : fs.pathExists folder = true) (hdir : fs.isDir folder ≠ true) :
    collectScenarioTomlRequirements fs (fuel + 1) folder = .error ⟨folder, .os⟩ := by
  have hentries : fs.readDir folder = none := by
    rw [Option.eq_none_iff_forall_not_mem]
    exact fun entries h => hdir (isDir_iff_readDir.mpr ⟨entries, h⟩)
  rw [collectScenarioTomlRequirements, if_neg (by simp [hexists]), hentries]

/-- An entry of the second folder that is a scenario. -/
def IsPatchBelow (fs : FileSystem) (folder : Path) (name : String) : Prop :=
  fs.pathExists (scenarioJson (folder ++ [.normal name])) = true

theorem collectAstPatchScenarioRequirements_spec {folder : Path}
    (hfolder : fs.pathExists folder = true → fs.isDir folder = true) :
    ∃ found, collectAstPatchScenarioRequirements fs folder = .ok found ∧
      ∀ requirement, requirement ∈ found ↔ ∃ name, IsPatchBelow fs folder name ∧
        requirement = ⟨folder ++ [.normal name], .astPatchScenarioJson⟩ := by
  have hbelow : ∀ name, IsPatchBelow fs folder name →
      fs.pathExists (folder ++ .normal name :: [.normal "scenario.json"]) = true := by
    intro name h
    simpa [IsPatchBelow, scenarioJson] using h
  unfold collectAstPatchScenarioRequirements
  split
  · next hmissing =>
      refine ⟨[], rfl, fun requirement => iff_of_false List.not_mem_nil ?_⟩
      rintro ⟨name, hpatch, -⟩
      rw [pathExists_of_isDir (isDir_of_pathExists (hbelow name hpatch))] at hmissing
      cases hmissing
  · next hexists =>
      obtain ⟨entries, hentries⟩ := isDir_iff_readDir.mp (hfolder (Bool.not_eq_false _ ▸ hexists))
      rw [hentries]
      refine ⟨_, rfl, fun requirement => ?_⟩
      simp only [List.mem_filterMap, List.mem_map, mem_sortedNames, Option.ite_none_right_eq_some,
        Bool.and_eq_true, Option.some.injEq]
      constructor
      · rintro ⟨-, ⟨name, -, rfl⟩, ⟨-, hpatch⟩, rfl⟩
        exact ⟨name, hpatch, rfl⟩
      · rintro ⟨name, hpatch, rfl⟩
        have hexists := hbelow name hpatch
        have hlisted := FileSystem.mem_names_of_pathExists hentries hexists
        refine ⟨_, ⟨name, by simpa using hlisted, rfl⟩, ⟨?_, hpatch⟩, rfl⟩
        have hjson : fs.pathExists (folder ++ [.normal name] ++ [.normal "scenario.json"]) = true :=
          hpatch
        exact isDir_of_pathExists hjson

theorem collectAstPatchScenarioRequirements_error {folder : Path}
    (hexists : fs.pathExists folder = true) (hdir : fs.isDir folder ≠ true) :
    collectAstPatchScenarioRequirements fs folder = .error ⟨folder, .os⟩ := by
  have hentries : fs.readDir folder = none := by
    rw [Option.eq_none_iff_forall_not_mem]
    exact fun entries h => hdir (isDir_iff_readDir.mpr ⟨entries, h⟩)
  rw [collectAstPatchScenarioRequirements, if_neg (by simp [hexists]), hentries]

/-- A folder that is there is a directory. -/
def Listable (fs : FileSystem) (folder : Path) : Prop :=
  fs.pathExists folder = true → fs.isDir folder = true

/-- A directory that must have a contract. -/
inductive IsRequired (fs : FileSystem) (crateRoot : Path) :
    RustScenarioBenchmarkRequirement → Prop where
  | scenario {names : List String}
      (hbelow : IsScenarioBelow fs (scenariosFolder crateRoot) names) :
      IsRequired fs crateRoot
        ⟨scenariosFolder crateRoot ++ names.map .normal, .scenarioToml⟩
  | patch {name : String} (hbelow : IsPatchBelow fs (astPatchFolder crateRoot) name) :
      IsRequired fs crateRoot
        ⟨astPatchFolder crateRoot ++ [.normal name], .astPatchScenarioJson⟩

/-- **Discovery.**  The directories that must have a contract are found, unless a folder of
scenarios is no directory. -/
theorem discoverRequiredRustScenarioBenchmarks_spec {crateRoot : Path}
    (hscenarios : Listable fs (scenariosFolder crateRoot))
    (hpatches : Listable fs (astPatchFolder crateRoot)) :
    ∃ requirements, discoverRequiredRustScenarioBenchmarks fs crateRoot = .ok requirements ∧
      ∀ requirement, requirement ∈ requirements ↔ IsRequired fs crateRoot requirement := by
  obtain ⟨scenarios, hfirst, hmemFirst⟩ :=
    collectScenarioTomlRequirements_spec (pathDepth fs + 1) hscenarios
  obtain ⟨patches, hsecond, hmemSecond⟩ := collectAstPatchScenarioRequirements_spec hpatches
  refine ⟨_, by rw [discoverRequiredRustScenarioBenchmarks, hfirst, hsecond]; rfl,
    fun requirement => ?_⟩
  rw [List.mem_mergeSort, List.mem_append, hmemFirst, hmemSecond]
  constructor
  · rintro (⟨names, -, hbelow, rfl⟩ | ⟨name, hbelow, rfl⟩)
    · exact .scenario hbelow
    · exact .patch hbelow
  · rintro (hbelow | hbelow)
    · exact Or.inl ⟨_, hbelow.length_lt, hbelow, rfl⟩
    · exact Or.inr ⟨_, hbelow, rfl⟩

theorem listable_of_discover {crateRoot : Path}
    {requirements : List RustScenarioBenchmarkRequirement}
    (h : discoverRequiredRustScenarioBenchmarks fs crateRoot = .ok requirements) :
    Listable fs (scenariosFolder crateRoot) ∧ Listable fs (astPatchFolder crateRoot) := by
  obtain ⟨scenarios, hfirst, h⟩ := Except.bind_eq_ok.mp h
  obtain ⟨patches, hsecond, -⟩ := Except.bind_eq_ok.mp h
  constructor
  · intro hexists
    by_contra hdir
    rw [collectScenarioTomlRequirements_error _ hexists hdir] at hfirst
    cases hfirst
  · intro hexists
    by_contra hdir
    rw [collectAstPatchScenarioRequirements_error hexists hdir] at hsecond
    cases hsecond

end Discovery

/-! ## What a scenario must hold

The specification, without the gate: files are read, contracts are stated and kept,
policies are shown.  It is put together from the specification of a single contract
(`Described`, `Stated`, `Kept`). -/

section Holding

variable (readers : ScenarioReaders) (fs : FileSystem)

/-- The files of a scenario are read, and the contract is stated and kept. -/
def ScenarioHolds (root : Path) : Prop :=
  ∃ scenario benchmark, readDecoded fs readers.metadata (scenarioToml root) = .ok scenario ∧
    readDecoded fs readers.contract (benchmarkToml root) = .ok benchmark ∧
    scenario.Described ∧ benchmark.Stated ∧ benchmark.Kept

/-- A manifest names its mode, status and capability, and an operation if it was applied. -/
structure RustAstPatchScenarioManifest.Complete (manifest : RustAstPatchScenarioManifest) :
    Prop where
  mode : IsWritten manifest.mode
  expectedStatus : IsWritten manifest.expectedStatus
  expectedCapability : IsWritten manifest.expectedCapability
  expectedOperation : manifest.expectedStatus = "applied" →
    ∃ operation, manifest.expectedOperation = some operation ∧ operation ≠ ""

/-- The files of a patch scenario are read, its directory has a name, the manifest is complete
and the contract is stated and kept. -/
def PatchHolds (folder : Path) (name : String) : Prop :=
  ∃ manifest benchmark,
    readDecoded fs readers.manifest (scenarioJson (folder ++ [.normal name])) = .ok manifest ∧
    readDecoded fs readers.contract (benchmarkToml (folder ++ [.normal name])) = .ok benchmark ∧
    IsWritten name ∧ manifest.Complete ∧ benchmark.Stated ∧ benchmark.Kept

/-- A scenario shows a policy. -/
def ShowsPolicy (crateRoot : Path) (requirement : RustPolicyScenarioRequirement) : Prop :=
  ∃ names scenario,
    Path.join crateRoot requirement.scenarioRoot =
      scenariosFolder crateRoot ++ names.map .normal ∧
    IsScenarioBelow fs (scenariosFolder crateRoot) names ∧
    readDecoded fs readers.metadata
      (scenarioToml (Path.join crateRoot requirement.scenarioRoot)) = .ok scenario ∧
    scenario.id = requirement.scenarioId ∧ requirement.policyId ∈ scenario.policyIds

/-- What the gate of the whole suite is for. -/
structure SuiteHolds (crateRoot : Path) : Prop where
  folders : Listable fs (scenariosFolder crateRoot) ∧ Listable fs (astPatchFolder crateRoot)
  scenarios : ∀ names, IsScenarioBelow fs (scenariosFolder crateRoot) names →
    ScenarioHolds readers fs (scenariosFolder crateRoot ++ names.map .normal)
  patches : ∀ name, IsPatchBelow fs (astPatchFolder crateRoot) name →
    PatchHolds readers fs (astPatchFolder crateRoot) name
  policies : fs.isFile (policyPack crateRoot) = true →
    ∀ requirement ∈ rustAgentPolicyScenarioRequirements,
      ShowsPolicy readers fs crateRoot requirement

end Holding

/-! ## Receipts

A visit ends with a receipt that has no violation exactly if the directory holds what it
must.  The receipt also repeats the description of the scenario, which is what the table
of policies is compared with. -/

section Receipts

variable {readers : ScenarioReaders} {fs : FileSystem}

theorem pathExists_of_readDecoded {α : Type} {decode : List Char → Except String α} {path : Path}
    {value : α} (h : readDecoded fs decode path = .ok value) : fs.pathExists path = true := by
  unfold readDecoded at h
  unfold FileSystem.read at h
  unfold FileSystem.pathExists
  cases hstat : fs.stat path with
  | none => simp [hstat] at h
  | some node => rfl

theorem validateRustScenarioBenchmark_eq_ok_iff {root : Path}
    {receipt : RustScenarioBenchmarkReceipt} :
    validateRustScenarioBenchmark readers fs root = .ok receipt ↔
      ∃ scenario benchmark, readDecoded fs readers.metadata (scenarioToml root) = .ok scenario ∧
        readDecoded fs readers.contract (benchmarkToml root) = .ok benchmark ∧
        receipt = ⟨root, scenario, benchmark,
          scenarioBenchmarkStatus (scenarioBenchmarkViolations scenario benchmark),
          scenarioBenchmarkViolations scenario benchmark⟩ := by
  constructor
  · intro h
    obtain ⟨scenario, hscenario, h⟩ := Except.bind_eq_ok.mp h
    obtain ⟨benchmark, hbenchmark, h⟩ := Except.bind_eq_ok.mp h
    exact ⟨scenario, benchmark, hscenario, hbenchmark, (Except.ok.inj h).symm⟩
  · rintro ⟨scenario, benchmark, hscenario, hbenchmark, rfl⟩
    rw [validateRustScenarioBenchmark, hscenario, hbenchmark]
    rfl

theorem validateAstPatchScenarioBenchmark_eq_ok_iff {root : Path}
    {receipt : RustScenarioBenchmarkReceipt} :
    validateAstPatchScenarioBenchmark readers fs root = .ok receipt ↔
      ∃ manifest benchmark, readDecoded fs readers.manifest (scenarioJson root) = .ok manifest ∧
        readDecoded fs readers.contract (benchmarkToml root) = .ok benchmark ∧
        receipt = ⟨root, astPatchScenarioMetadata root manifest, benchmark,
          scenarioBenchmarkStatus
            (scenarioBenchmarkViolations (astPatchScenarioMetadata root manifest) benchmark ++
              manifestViolations manifest),
          scenarioBenchmarkViolations (astPatchScenarioMetadata root manifest) benchmark ++
            manifestViolations manifest⟩ := by
  constructor
  · intro h
    obtain ⟨manifest, hmanifest, h⟩ := Except.bind_eq_ok.mp h
    obtain ⟨benchmark, hbenchmark, h⟩ := Except.bind_eq_ok.mp h
    exact ⟨manifest, benchmark, hmanifest, hbenchmark, (Except.ok.inj h).symm⟩
  · rintro ⟨manifest, benchmark, hmanifest, hbenchmark, rfl⟩
    rw [validateAstPatchScenarioBenchmark, hmanifest, hbenchmark]
    rfl

theorem manifestViolations_eq_nil_iff {manifest : RustAstPatchScenarioManifest} :
    manifestViolations manifest = [] ↔ manifest.Complete := by
  have hoperation : ¬ (manifest.expectedOperation.getD "" = "" ∧
      manifest.expectedStatus = "applied") ↔ (manifest.expectedStatus = "applied" →
        ∃ operation, manifest.expectedOperation = some operation ∧ operation ≠ "") := by
    cases manifest.expectedOperation with
    | none => simp
    | some operation => simp [imp_not_comm]
  unfold manifestViolations
  rw [List.append_eq_nil_iff, List.append_eq_nil_iff, List.append_eq_nil_iff,
    requireNonEmpty_eq_nil_iff, requireNonEmpty_eq_nil_iff, requireNonEmpty_eq_nil_iff,
    violationIf_eq_nil_iff, hoperation]
  constructor
  · rintro ⟨⟨⟨hmode, hstatus⟩, hcapability⟩, happlied⟩
    exact ⟨hmode, hstatus, hcapability, happlied⟩
  · rintro ⟨hmode, hstatus, hcapability, happlied⟩
    exact ⟨⟨⟨hmode, hstatus⟩, hcapability⟩, happlied⟩

/-- A text is written if something in it is not blank. -/
theorem isWritten_iff {value : String} :
    IsWritten value ↔ ∃ c ∈ value.toList, isWhitespace c = false := by
  have hnil : trim value.toList = [] ↔ ∀ c ∈ value.toList, isWhitespace c = true := by
    rw [trim, List.reverse_eq_nil_iff, List.dropWhile_eq_nil_iff]
    constructor
    · intro h
      rw [← List.dropWhile_eq_nil_iff]
      by_contra hne
      -- the first character that is kept is not blank
      have hfirst := List.head_dropWhile_not isWhitespace hne
      rw [h _ (List.mem_reverse.mpr (List.head_mem hne))] at hfirst
      cases hfirst
    · intro h c hc
      exact h c ((List.dropWhile_sublist _).subset (List.mem_reverse.mp hc))
  rw [IsWritten, ne_eq, hnil]
  simp

theorem isWritten_append_left {first second : String} (h : IsWritten first) :
    IsWritten (first ++ second) := by
  obtain ⟨c, hc, hblank⟩ := isWritten_iff.mp h
  rw [isWritten_iff, String.toList_append]
  exact ⟨c, List.mem_append_left _ hc, hblank⟩

theorem isPolicyId_astPatch : IsPolicyId "RUST-AGENT-AST-PATCH-SCENARIO-001".toList := by
  rw [← isAgentPolicyId_iff]
  decide +kernel

/-- The description that is made up for a patch scenario is one if the directory has a name. -/
theorem described_astPatchScenarioMetadata_iff {folder : Path} {name : String}
    {manifest : RustAstPatchScenarioManifest} :
    (astPatchScenarioMetadata (folder ++ [.normal name]) manifest).Described ↔
      IsWritten name := by
  have hname : Path.fileName? (folder ++ [.normal name]) = some name :=
    Path.fileName?_concat folder name
  constructor
  · intro h
    have hid := h.named.1
    rwa [astPatchScenarioMetadata, hname] at hid
  · intro h
    have hinput : IsWritten "input" := by decide
    have hexpected : IsWritten "expected" := by decide
    refine ⟨⟨?_, ?_, ?_⟩, ⟨hinput, hexpected⟩, ⟨List.cons_ne_nil _ _, ?_⟩,
      ⟨List.cons_ne_nil _ _, ?_⟩, ⟨List.cons_ne_nil _ _, ?_⟩⟩
    · rwa [astPatchScenarioMetadata, hname]
    · exact isWritten_append_left (by decide)
    · simp only [astPatchScenarioMetadata, String.append_assoc]
      exact isWritten_append_left (by decide)
    · intro value hvalue
      rw [List.mem_singleton.mp hvalue]
      decide
    · intro value hvalue
      rw [List.mem_singleton.mp hvalue]
      decide
    · intro id hid
      rw [List.mem_singleton.mp hid]
      exact isPolicyId_astPatch

/-- A requirement is visited without a finding if what is in its directory holds. -/
theorem visit_scenario_iff {crateRoot root : Path} :
    (∃ receipt, visitRequirement readers fs crateRoot ⟨root, .scenarioToml⟩ =
        .ok (.inr receipt) ∧ receipt.status = .pass) ↔ ScenarioHolds readers fs root := by
  unfold visitRequirement
  dsimp only
  constructor
  · rintro ⟨receipt, h, hpass⟩
    split at h
    · cases Except.ok.inj h
    · obtain ⟨receipt', hreceipt, hsame⟩ := Except.map_eq_ok.mp h
      obtain rfl := Sum.inr.inj hsame
      obtain ⟨scenario, benchmark, hscenario, hbenchmark, rfl⟩ :=
        validateRustScenarioBenchmark_eq_ok_iff.mp hreceipt
      dsimp only at hpass
      rw [scenarioBenchmarkStatus_eq_pass_iff, scenarioBenchmarkViolations_eq_nil_iff] at hpass
      obtain ⟨⟨hdescribed, hstated⟩, hkept⟩ := hpass
      exact ⟨scenario, benchmark, hscenario, hbenchmark, hdescribed, hstated, hkept⟩
  · rintro ⟨scenario, benchmark, hscenario, hbenchmark, hdescribed, hstated, hkept⟩
    rw [if_neg (by simp [pathExists_of_readDecoded hbenchmark])]
    refine ⟨_, Except.map_eq_ok.mpr ⟨_, validateRustScenarioBenchmark_eq_ok_iff.mpr
      ⟨scenario, benchmark, hscenario, hbenchmark, rfl⟩, rfl⟩, ?_⟩
    dsimp only
    rw [scenarioBenchmarkStatus_eq_pass_iff, scenarioBenchmarkViolations_eq_nil_iff]
    exact ⟨⟨hdescribed, hstated⟩, hkept⟩

theorem visit_patch_iff {crateRoot folder : Path} {name : String} :
    (∃ receipt, visitRequirement readers fs crateRoot
        ⟨folder ++ [.normal name], .astPatchScenarioJson⟩ = .ok (.inr receipt) ∧
          receipt.status = .pass) ↔ PatchHolds readers fs folder name := by
  unfold visitRequirement
  dsimp only
  constructor
  · rintro ⟨receipt, h, hpass⟩
    split at h
    · cases Except.ok.inj h
    · obtain ⟨receipt', hreceipt, hsame⟩ := Except.map_eq_ok.mp h
      obtain rfl := Sum.inr.inj hsame
      obtain ⟨manifest, benchmark, hmanifest, hbenchmark, rfl⟩ :=
        validateAstPatchScenarioBenchmark_eq_ok_iff.mp hreceipt
      dsimp only at hpass
      rw [scenarioBenchmarkStatus_eq_pass_iff, List.append_eq_nil_iff,
        scenarioBenchmarkViolations_eq_nil_iff, manifestViolations_eq_nil_iff,
        described_astPatchScenarioMetadata_iff] at hpass
      obtain ⟨⟨⟨hname, hstated⟩, hkept⟩, hcomplete⟩ := hpass
      exact ⟨manifest, benchmark, hmanifest, hbenchmark, hname, hcomplete, hstated, hkept⟩
  · rintro ⟨manifest, benchmark, hmanifest, hbenchmark, hname, hcomplete, hstated, hkept⟩
    rw [if_neg (by simp [pathExists_of_readDecoded hbenchmark])]
    refine ⟨_, Except.map_eq_ok.mpr ⟨_, validateAstPatchScenarioBenchmark_eq_ok_iff.mpr
      ⟨manifest, benchmark, hmanifest, hbenchmark, rfl⟩, rfl⟩, ?_⟩
    dsimp only
    rw [scenarioBenchmarkStatus_eq_pass_iff, List.append_eq_nil_iff,
      scenarioBenchmarkViolations_eq_nil_iff, manifestViolations_eq_nil_iff,
      described_astPatchScenarioMetadata_iff]
    exact ⟨⟨⟨hname, hstated⟩, hkept⟩, hcomplete⟩

/-- The receipt of a scenario has its root and its description. -/
theorem receipt_of_visit_scenario {crateRoot root : Path} {receipt : RustScenarioBenchmarkReceipt}
    (h : visitRequirement readers fs crateRoot ⟨root, .scenarioToml⟩ = .ok (.inr receipt)) :
    receipt.root = root ∧
      readDecoded fs readers.metadata (scenarioToml root) = .ok receipt.scenario := by
  unfold visitRequirement at h
  dsimp only at h
  split at h
  · cases Except.ok.inj h
  · obtain ⟨receipt', hreceipt, hsame⟩ := Except.map_eq_ok.mp h
    obtain rfl := Sum.inr.inj hsame
    obtain ⟨scenario, benchmark, hscenario, -, rfl⟩ :=
      validateRustScenarioBenchmark_eq_ok_iff.mp hreceipt
    exact ⟨rfl, hscenario⟩

/-- The receipt of a directory has its root, and the status that its violations make. -/
theorem receipt_of_visit {crateRoot : Path} {requirement : RustScenarioBenchmarkRequirement}
    {receipt : RustScenarioBenchmarkReceipt}
    (h : visitRequirement readers fs crateRoot requirement = .ok (.inr receipt)) :
    receipt.root = requirement.root ∧
      receipt.status = scenarioBenchmarkStatus receipt.violations := by
  unfold visitRequirement at h
  dsimp only at h
  split at h
  · cases Except.ok.inj h
  · obtain ⟨receipt', hreceipt, hsame⟩ := Except.map_eq_ok.mp h
    obtain rfl := Sum.inr.inj hsame
    unfold validateRustScenarioBenchmarkRequirement at hreceipt
    split at hreceipt
    · obtain ⟨scenario, benchmark, -, -, rfl⟩ :=
        validateRustScenarioBenchmark_eq_ok_iff.mp hreceipt
      dsimp only
      exact ⟨rfl, rfl⟩
    · obtain ⟨manifest, benchmark, -, -, rfl⟩ :=
        validateAstPatchScenarioBenchmark_eq_ok_iff.mp hreceipt
      dsimp only
      exact ⟨rfl, rfl⟩

/-- What is required is visited without a finding. -/
def Passes (readers : ScenarioReaders) (fs : FileSystem) (crateRoot : Path)
    (requirement : RustScenarioBenchmarkRequirement) : Prop :=
  ∃ receipt, visitRequirement readers fs crateRoot requirement = .ok (.inr receipt) ∧
    receipt.status = .pass

theorem passes_iff {crateRoot : Path} :
    (∀ requirement, IsRequired fs crateRoot requirement →
      Passes readers fs crateRoot requirement) ↔
        (∀ names, IsScenarioBelow fs (scenariosFolder crateRoot) names →
          ScenarioHolds readers fs (scenariosFolder crateRoot ++ names.map .normal)) ∧
        ∀ name, IsPatchBelow fs (astPatchFolder crateRoot) name →
          PatchHolds readers fs (astPatchFolder crateRoot) name := by
  constructor
  · intro h
    exact ⟨fun names hbelow => visit_scenario_iff.mp (h _ (.scenario hbelow)),
      fun name hbelow => visit_patch_iff.mp (h _ (.patch hbelow))⟩
  · rintro ⟨hscenarios, hpatches⟩ requirement (hbelow | hbelow)
    · exact visit_scenario_iff.mpr (hscenarios _ hbelow)
    · exact visit_patch_iff.mpr (hpatches _ hbelow)

end Receipts

/-! ## Coverage

The table is compared with receipts, not with directories.  Since the roots of the table
lie in the folder of scenarios, and the receipts of that folder are those of the visited
scenarios, this is the same as to ask for the scenarios themselves. -/

/-- A root of the table is in the folder of scenarios. -/
theorem criterion_scenarioRoot (ruleId scenarioId policyId folder : String) :
    Path.isAbsolute (criterion ruleId scenarioId policyId folder).scenarioRoot = false ∧
      (Path.parse (criterion ruleId scenarioId policyId folder).scenarioRoot).take 3 =
        [.normal "tests", .normal "unit", .normal "scenarios"] := by
  have htext : (criterion ruleId scenarioId policyId folder).scenarioRoot.toList =
      "tests".toList ++ '/' :: ("unit".toList ++ '/' :: ("scenarios".toList ++
        '/' :: ("software_criteria/".toList ++ folder.toList))) := by
    rw [criterion, String.toList_append]
    rfl
  constructor
  · rw [Path.isAbsolute, htext]
    rfl
  · have hslash : ∀ piece ∈ ["tests", "unit", "scenarios"], '/' ∉ piece.toList := by
      decide +kernel
    have hfree : ∀ piece ∈ ["tests", "unit", "scenarios"], ∀ c ∈ piece.toList,
        decide (c = '/') = false := fun piece hpiece c hc =>
      decide_eq_false fun hc' => hslash piece hpiece (hc' ▸ hc)
    rw [Path.parse, htext, splitWhen_append_cons (hfree "tests" (by simp)) rfl,
      splitWhen_append_cons (hfree "unit" (by simp)) rfl,
      splitWhen_append_cons (hfree "scenarios" (by simp)) rfl]
    rfl

/-- The entries of the table are criteria, with ids of the grammar. -/
theorem exists_criterion {requirement : RustPolicyScenarioRequirement}
    (h : requirement ∈ rustAgentPolicyScenarioRequirements) :
    ∃ ruleId scenarioId policyId folder,
      requirement = criterion ruleId scenarioId policyId folder ∧
        isAgentPolicyId policyId.toList = true := by
  have hids : ∀ id ∈ ["RUST-AGENT-CFG-001", "RUST-AGENT-API-SHAPE-036",
      "RUST-AGENT-DS-001", "RUST-AGENT-ASYNC-BLOCKING-001",
      "RUST-AGENT-ASYNC-SYNC-LOCK-001", "RUST-AGENT-ASYNC-BACKPRESSURE-001",
      "RUST-AGENT-ASYNC-CANCEL-SAFETY-001", "RUST-AGENT-ASYNC-CANCEL-SAFETY-002",
      "RUST-AGENT-ASYNC-TASK-LIFECYCLE-001", "RUST-AGENT-PROC-001",
      "RUST-AGENT-TOKIO-RUNTIME-002", "RUST-AGENT-NATIVE-ABI-001",
      "RUST-AGENT-PROJECT-MANIFEST-023"],
      isAgentPolicyId id.toList = true := by
    decide +kernel
  rw [rustAgentPolicyScenarioRequirements] at h
  repeat
    rcases List.mem_cons.mp h with rfl | h
    · exact ⟨_, _, _, _, rfl, hids _ (by simp)⟩
  exact absurd h List.not_mem_nil

/-- The table keeps to the grammar of ids, and to the folder of scenarios. -/
theorem rustAgentPolicyScenarioRequirements_sound :
    ∀ requirement ∈ rustAgentPolicyScenarioRequirements,
      isAgentPolicyId requirement.policyId.toList = true ∧
        Path.isAbsolute requirement.scenarioRoot = false ∧
        (Path.parse requirement.scenarioRoot).take 3 =
          [.normal "tests", .normal "unit", .normal "scenarios"] := by
  intro requirement h
  obtain ⟨ruleId, scenarioId, policyId, folder, rfl, hid⟩ := exists_criterion h
  exact ⟨hid, criterion_scenarioRoot ruleId scenarioId policyId folder⟩

/-- Every scenario of the table is in the folder of scenarios. -/
theorem exists_join_eq {requirement : RustPolicyScenarioRequirement}
    (h : requirement ∈ rustAgentPolicyScenarioRequirements) (crateRoot : Path) :
    ∃ rest, Path.join crateRoot requirement.scenarioRoot = scenariosFolder crateRoot ++ rest := by
  obtain ⟨-, hrelative, hplace⟩ := rustAgentPolicyScenarioRequirements_sound requirement h
  refine ⟨(Path.parse requirement.scenarioRoot).drop 3, ?_⟩
  rw [Path.join, hrelative, scenariosFolder, List.append_assoc, ← hplace, List.take_append_drop]
  rfl

/-- The folders are apart. -/
theorem scenariosFolder_ne_astPatchFolder {crateRoot first second : Path} :
    scenariosFolder crateRoot ++ first ≠ astPatchFolder crateRoot ++ second := by
  intro h
  rw [scenariosFolder, astPatchFolder, List.append_assoc, List.append_assoc,
    List.append_cancel_left_eq] at h
  simp at h

theorem coverRequirement_getLeft?_eq_none_iff {crateRoot : Path}
    {receiptByRoot : OrderedMap Path RustScenarioBenchmarkReceipt}
    {requirement : RustPolicyScenarioRequirement}
    (hid : isAgentPolicyId requirement.policyId.toList = true) :
    (coverRequirement crateRoot receiptByRoot requirement).getLeft? = none ↔
      ∃ receipt,
        receiptByRoot.get? (Path.join crateRoot requirement.scenarioRoot) = some receipt ∧
        receipt.scenario.id = requirement.scenarioId ∧
        requirement.policyId ∈ receipt.scenario.policyIds := by
  unfold coverRequirement
  rw [if_neg (by simp [hid])]
  dsimp only
  cases receiptByRoot.get? (Path.join crateRoot requirement.scenarioRoot) with
  | none => simp
  | some receipt =>
      dsimp only
      by_cases hname : receipt.scenario.id = requirement.scenarioId
      · by_cases hpolicy : requirement.policyId ∈ receipt.scenario.policyIds
        · simp [hname, hpolicy]
        · simp [hpolicy]
      · simp [hname]

section Run

variable {readers : ScenarioReaders} {fs : FileSystem} {crateRoot : Path}

/-- The receipts of a run are of the required directories. -/
theorem mem_receipts_iff {requirements : List RustScenarioBenchmarkRequirement}
    {visited : List (RustScenarioBenchmarkViolation ⊕ RustScenarioBenchmarkReceipt)}
    (hmem : ∀ requirement, requirement ∈ requirements ↔ IsRequired fs crateRoot requirement)
    (hvisited : requirements.mapM (visitRequirement readers fs crateRoot) = .ok visited)
    {receipt : RustScenarioBenchmarkReceipt} :
    receipt ∈ visited.filterMap Sum.getRight? ↔ ∃ requirement,
      IsRequired fs crateRoot requirement ∧
        visitRequirement readers fs crateRoot requirement = .ok (.inr receipt) := by
  rw [List.mem_filterMap]
  constructor
  · rintro ⟨found, hfound, hright⟩
    obtain rfl := Sum.getRight?_eq_some_iff.mp hright
    obtain ⟨requirement, hrequirement, hvisit⟩ := (mem_of_mapM_eq_ok hvisited).mp hfound
    exact ⟨requirement, (hmem requirement).mp hrequirement, hvisit⟩
  · rintro ⟨requirement, hrequired, hvisit⟩
    exact ⟨.inr receipt, (mem_of_mapM_eq_ok hvisited).mpr
      ⟨requirement, (hmem requirement).mpr hrequired, hvisit⟩, rfl⟩

/-- A receipt in the folder of scenarios is that of a scenario. -/
theorem scenario_of_receipt {requirement : RustScenarioBenchmarkRequirement}
    {receipt : RustScenarioBenchmarkReceipt} {rest : Path}
    (hrequired : IsRequired fs crateRoot requirement)
    (hvisit : visitRequirement readers fs crateRoot requirement = .ok (.inr receipt))
    (hroot : receipt.root = scenariosFolder crateRoot ++ rest) :
    ∃ names, rest = names.map .normal ∧ IsScenarioBelow fs (scenariosFolder crateRoot) names ∧
      readDecoded fs readers.metadata (scenarioToml receipt.root) = .ok receipt.scenario := by
  cases hrequired with
  | scenario hbelow =>
      obtain ⟨hsame, hscenario⟩ := receipt_of_visit_scenario hvisit
      rw [← hsame] at hscenario
      rw [hroot, List.append_cancel_left_eq] at hsame
      exact ⟨_, hsame, hbelow, hscenario⟩
  | patch hbelow =>
      have hsame := (receipt_of_visit hvisit).1
      rw [hroot] at hsame
      exact absurd hsame scenariosFolder_ne_astPatchFolder

/-- **Coverage.**  The table has no finding on the receipts of a run when a scenario shows each
of its policies. -/
theorem coverage_eq_nil_iff {requirements : List RustScenarioBenchmarkRequirement}
    {visited : List (RustScenarioBenchmarkViolation ⊕ RustScenarioBenchmarkReceipt)}
    (hmem : ∀ requirement, requirement ∈ requirements ↔ IsRequired fs crateRoot requirement)
    (hvisited : requirements.mapM (visitRequirement readers fs crateRoot) = .ok visited)
    (hpasses : ∀ requirement, IsRequired fs crateRoot requirement →
      Passes readers fs crateRoot requirement) :
    (validateAgentPolicyScenarioCoverage rustAgentPolicyScenarioRequirements crateRoot
      (visited.filterMap Sum.getRight?)).1 = [] ↔
        ∀ requirement ∈ rustAgentPolicyScenarioRequirements,
          ShowsPolicy readers fs crateRoot requirement := by
  unfold validateAgentPolicyScenarioCoverage
  dsimp only
  rw [List.filterMap_eq_nil_iff, List.forall_mem_map]
  refine forall₂_congr fun requirement hrequirement => ?_
  have hid := (rustAgentPolicyScenarioRequirements_sound requirement hrequirement).1
  obtain ⟨rest, hrest⟩ := exists_join_eq hrequirement crateRoot
  rw [coverRequirement_getLeft?_eq_none_iff hid, OrderedMap.get?_insertAll_empty]
  constructor
  · rintro ⟨receipt, hget, hname, hpolicy⟩
    rw [Option.map_id, id] at hget
    have hroot : receipt.root = Path.join crateRoot requirement.scenarioRoot := by
      simpa using List.find?_some hget
    obtain ⟨required, hrequired, hvisit⟩ := (mem_receipts_iff hmem hvisited).mp
      (List.mem_reverse.mp (List.mem_of_find?_eq_some hget))
    obtain ⟨names, rfl, hbelow, hscenario⟩ :=
      scenario_of_receipt hrequired hvisit (hroot.trans hrest)
    rw [hroot] at hscenario
    exact ⟨names, receipt.scenario, hrest, hbelow, hscenario, hname, hpolicy⟩
  · rintro ⟨names, scenario, hnames, hbelow, hscenario, hname, hpolicy⟩
    obtain ⟨shown, hshown, -⟩ := hpasses _ (.scenario hbelow)
    have hlisted := (mem_receipts_iff hmem hvisited).mpr ⟨_, .scenario hbelow, hshown⟩
    have hshownRoot : shown.root = Path.join crateRoot requirement.scenarioRoot :=
      (receipt_of_visit_scenario hshown).1.trans hnames.symm
    rw [Option.map_id, id]
    generalize hfind : List.find? _ _ = found
    cases found with
    | none =>
        have hnone := List.find?_eq_none.mp hfind shown (List.mem_reverse.mpr hlisted)
        exact absurd hshownRoot (by simpa using hnone)
    | some receipt =>
        -- The last receipt of the root is found; it has the same description.
        have hroot : receipt.root = Path.join crateRoot requirement.scenarioRoot := by
          simpa using List.find?_some hfind
        obtain ⟨required, hrequired, hvisit⟩ := (mem_receipts_iff hmem hvisited).mp
          (List.mem_reverse.mp (List.mem_of_find?_eq_some hfind))
        obtain ⟨-, -, -, hread⟩ := scenario_of_receipt hrequired hvisit (hroot.trans hrest)
        rw [hroot, hscenario] at hread
        obtain rfl := Except.ok.inj hread
        exact ⟨receipt, rfl, hname, hpolicy⟩

theorem scenarioBenchmarkSuiteStatus_eq_pass_iff {receipts : List RustScenarioBenchmarkReceipt}
    {violations : List RustScenarioBenchmarkViolation} :
    scenarioBenchmarkSuiteStatus receipts violations = .pass ↔
      violations = [] ∧ ∀ receipt ∈ receipts, receipt.status = .pass := by
  unfold scenarioBenchmarkSuiteStatus
  constructor
  · intro h
    split at h
    · cases h
    · next hvalid =>
        split at h
        · cases h
        · next hkept =>
            rw [not_or, not_not] at hvalid
            refine ⟨hvalid.1, fun receipt hreceipt => ?_⟩
            cases hstatus : receipt.status with
            | pass => rfl
            | fail => exact absurd ⟨receipt, hreceipt, hstatus⟩ hkept
            | invalid => exact absurd ⟨receipt, hreceipt, hstatus⟩ hvalid.2
  · rintro ⟨rfl, hpass⟩
    rw [if_neg, if_neg]
    · rintro ⟨receipt, hreceipt, hstatus⟩
      rw [hpass receipt hreceipt] at hstatus
      cases hstatus
    · rintro (hne | ⟨receipt, hreceipt, hstatus⟩)
      · exact hne rfl
      · rw [hpass receipt hreceipt] at hstatus
        cases hstatus

/-- A visit without a finding, of a list all of whose visits end. -/
theorem filterMap_getLeft?_eq_nil_iff {requirements : List RustScenarioBenchmarkRequirement}
    {visited : List (RustScenarioBenchmarkViolation ⊕ RustScenarioBenchmarkReceipt)}
    (hvisited : requirements.mapM (visitRequirement readers fs crateRoot) = .ok visited) :
    (visited.filterMap Sum.getLeft? = [] ∧
      ∀ receipt ∈ visited.filterMap Sum.getRight?, receipt.status = .pass) ↔
        ∀ requirement ∈ requirements, Passes readers fs crateRoot requirement := by
  constructor
  · rintro ⟨hleft, hpass⟩ requirement hrequirement
    obtain ⟨found, hfound⟩ := exists_mapM_eq_ok.mp ⟨visited, hvisited⟩ requirement hrequirement
    have hmem : found ∈ visited := (mem_of_mapM_eq_ok hvisited).mpr ⟨_, hrequirement, hfound⟩
    cases found with
    | inl violation => cases List.filterMap_eq_nil_iff.mp hleft _ hmem
    | inr receipt =>
        exact ⟨receipt, hfound, hpass receipt (List.mem_filterMap.mpr ⟨_, hmem, rfl⟩)⟩
  · intro h
    have hall : ∀ found ∈ visited, ∃ receipt, found = .inr receipt ∧
        receipt.status = .pass := by
      intro found hfound
      obtain ⟨requirement, hrequirement, hvisit⟩ := (mem_of_mapM_eq_ok hvisited).mp hfound
      obtain ⟨receipt, hreceipt, hpass⟩ := h requirement hrequirement
      exact ⟨receipt, Except.ok.inj (hvisit.symm.trans hreceipt), hpass⟩
    constructor
    · rw [List.filterMap_eq_nil_iff]
      intro found hfound
      obtain ⟨receipt, rfl, -⟩ := hall found hfound
      rfl
    · intro receipt hreceipt
      obtain ⟨found, hfound, hright⟩ := List.mem_filterMap.mp hreceipt
      obtain ⟨receipt', rfl, hpass⟩ := hall found hfound
      obtain rfl := Option.some.inj hright
      exact hpass

/-- Directories that pass have their receipts, one for each in order. -/
theorem map_root_receipts {requirements : List RustScenarioBenchmarkRequirement}
    {visited : List (RustScenarioBenchmarkViolation ⊕ RustScenarioBenchmarkReceipt)}
    (hvisited : requirements.mapM (visitRequirement readers fs crateRoot) = .ok visited)
    (hpasses : ∀ requirement ∈ requirements, Passes readers fs crateRoot requirement) :
    (visited.filterMap Sum.getRight?).map RustScenarioBenchmarkReceipt.root =
      requirements.map RustScenarioBenchmarkRequirement.root := by
  have hall := forall₂_of_mapM_eq_ok hvisited
  clear hvisited
  induction hall with
  | nil => rfl
  | cons hfirst _ ih =>
      obtain ⟨⟨receipt, hvisit, -⟩, hrest⟩ := List.forall_mem_cons.mp hpasses
      obtain rfl := Except.ok.inj (hfirst.symm.trans hvisit)
      rw [List.filterMap_cons_some (Sum.getRight?_inr), List.map_cons, List.map_cons, ih hrest,
        (receipt_of_visit hvisit).1]

end Run

/-! ## The gate

A suite that holds is visited without a finding, and the table adds none; and a run
without a finding shows each part of the suite to hold. -/

section Gate

variable {readers : ScenarioReaders} {fs : FileSystem} {crateRoot : Path}

/-- The receipt of a suite without a finding: one receipt for each required directory, in
order, with no violation there nor of the suite. -/
structure CleanReceipt (fs : FileSystem) (crateRoot : Path)
    (receipt : RustScenarioBenchmarkSuiteReceipt) : Prop where
  status : receipt.status = .pass
  violations : receipt.violations = []
  requirements : ∀ requirement, requirement ∈ receipt.requirements ↔
    IsRequired fs crateRoot requirement
  roots : receipt.receipts.map RustScenarioBenchmarkReceipt.root =
    receipt.requirements.map RustScenarioBenchmarkRequirement.root
  receipts : ∀ visited ∈ receipt.receipts, visited.status = .pass ∧ visited.violations = []

/-- A suite whose receipt passes holds. -/
theorem suiteHolds_of_pass {receipt : RustScenarioBenchmarkSuiteReceipt}
    (hvalidate : validateRequiredRustScenarioBenchmarks readers fs crateRoot = .ok receipt)
    (hpass : receipt.status = .pass) : SuiteHolds readers fs crateRoot := by
  obtain ⟨requirements, hrequirements, h⟩ := Except.bind_eq_ok.mp hvalidate
  obtain ⟨visited, hvisited, h⟩ := Except.bind_eq_ok.mp h
  obtain rfl := Except.ok.inj h
  dsimp only at hpass
  rw [scenarioBenchmarkSuiteStatus_eq_pass_iff, List.append_eq_nil_iff] at hpass
  obtain ⟨⟨hleft, hcoverage⟩, hstatus⟩ := hpass
  have hfolders := listable_of_discover hrequirements
  obtain ⟨requirements', hrequirements', hmem⟩ :=
    discoverRequiredRustScenarioBenchmarks_spec hfolders.1 hfolders.2
  obtain rfl := Except.ok.inj (hrequirements.symm.trans hrequirements')
  have hpasses : ∀ requirement, IsRequired fs crateRoot requirement →
      Passes readers fs crateRoot requirement := fun requirement hrequired =>
    (filterMap_getLeft?_eq_nil_iff hvisited).mp ⟨hleft, hstatus⟩ requirement
      ((hmem requirement).mpr hrequired)
  obtain ⟨hscenarios, hpatches⟩ := passes_iff.mp hpasses
  refine ⟨hfolders, hscenarios, hpatches, fun hpack => ?_⟩
  rw [if_pos hpack] at hcoverage
  exact (coverage_eq_nil_iff hmem hvisited hpasses).mp hcoverage

/-- A suite that holds has a clean receipt. -/
theorem SuiteHolds.exists_cleanReceipt (h : SuiteHolds readers fs crateRoot) :
    ∃ receipt, validateRequiredRustScenarioBenchmarks readers fs crateRoot = .ok receipt ∧
      CleanReceipt fs crateRoot receipt := by
  obtain ⟨requirements, hrequirements, hmem⟩ :=
    discoverRequiredRustScenarioBenchmarks_spec h.folders.1 h.folders.2
  have hpasses := passes_iff.mpr ⟨h.scenarios, h.patches⟩
  have hlisted : ∀ requirement ∈ requirements, Passes readers fs crateRoot requirement :=
    fun requirement hrequirement => hpasses requirement ((hmem requirement).mp hrequirement)
  have hends : ∀ requirement ∈ requirements,
      ∃ found, visitRequirement readers fs crateRoot requirement = .ok found := by
    intro requirement hrequirement
    obtain ⟨receipt, hvisit, -⟩ := hlisted requirement hrequirement
    exact ⟨.inr receipt, hvisit⟩
  obtain ⟨visited, hvisited⟩ := exists_mapM_eq_ok.mpr hends
  obtain ⟨hleft, hstatus⟩ := (filterMap_getLeft?_eq_nil_iff hvisited).mpr hlisted
  have hcoverage : (if fs.isFile (policyPack crateRoot) then
      validateAgentPolicyScenarioCoverage rustAgentPolicyScenarioRequirements crateRoot
        (visited.filterMap Sum.getRight?)
      else ([], [])).1 = [] := by
    split
    · next hpack => exact (coverage_eq_nil_iff hmem hvisited hpasses).mpr (h.policies hpack)
    · rfl
  have hviolations := List.append_eq_nil_iff.mpr ⟨hleft, hcoverage⟩
  refine ⟨_, Except.bind_eq_ok.mpr ⟨requirements, hrequirements,
    Except.bind_eq_ok.mpr ⟨visited, hvisited, rfl⟩⟩,
    scenarioBenchmarkSuiteStatus_eq_pass_iff.mpr ⟨hviolations, hstatus⟩, hviolations, hmem,
    map_root_receipts hvisited hlisted, fun receipt hreceipt => ⟨hstatus receipt hreceipt, ?_⟩⟩
  obtain ⟨requirement, -, hvisit⟩ := (mem_receipts_iff hmem hvisited).mp hreceipt
  rw [← scenarioBenchmarkStatus_eq_pass_iff, ← (receipt_of_visit hvisit).2]
  exact hstatus receipt hreceipt

end Gate

/-- **The hard gate passes exactly the suites that hold**, and then the validation
behind it ends with a receipt in which there is no violation.

The suite is what lies in the two folders of fixtures.  The table of required scenarios
belongs to it only where the crate has the policy pack of the rules as a file, so a
crate without rules is asked for none. -/
theorem assertRuleFixtureScenarioBenchmarks_eq_ok_iff (readers : ScenarioReaders)
    (fs : FileSystem) (crateRoot : Path) :
    (assertRuleFixtureScenarioBenchmarks readers fs crateRoot = .ok () ↔
      SuiteHolds readers fs crateRoot) ∧
    (SuiteHolds readers fs crateRoot →
      ∃ receipt, validateRequiredRustScenarioBenchmarks readers fs crateRoot = .ok receipt ∧
        CleanReceipt fs crateRoot receipt) := by
  refine ⟨?_, SuiteHolds.exists_cleanReceipt⟩
  unfold assertRuleFixtureScenarioBenchmarks
  constructor
  · intro h
    cases hvalidate : validateRequiredRustScenarioBenchmarks readers fs crateRoot with
    | error error =>
        rw [hvalidate] at h
        cases h
    | ok receipt =>
        rw [hvalidate] at h
        refine suiteHolds_of_pass hvalidate ?_
        by_contra hstatus
        dsimp only at h
        rw [if_pos hstatus] at h
        cases h
  · intro h
    obtain ⟨receipt, hvalidate, hclean⟩ := h.exists_cleanReceipt
    rw [hvalidate]
    dsimp only
    rw [if_neg (not_not.mpr hclean.status)]

end AspRust.Scenario
