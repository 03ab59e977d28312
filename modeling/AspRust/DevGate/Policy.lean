import AspRust.Analysis.Report
import AspRust.Foundation.FileTree

/-!
# Downstream policies and their receipts

A downstream policy is what a crate hands to its gate: a label, a harness
configuration and optionally the packages its lock file must resolve to.  A
receipt is the projection of a policy and its verification plan that a cache
record keeps and a later run compares with its own.

The checks of the gate are here too.  Each either passes or panics with the text
that the gate shows.

### Design notes

**Receipts keep what is compared.**  A receipt has the label, the baseline packages and
the report obligations of a plan, each under the name it is serialized with.  It keeps
the number of active tasks and not the tasks, since the gate asks no more of a plan that
comes from a record.

**Checks panic.**  A check that fails ends the build script of a crate with a text, and
the texts tell an author what to do.  They are part of the outcome of a run, and so they
are part of the model word by word.
-/

namespace AspRust.DevGate

open AspRust.Foundation AspRust.Discovery AspRust.Verification AspRust.Analysis

/-- One exact lock file requirement. -/
structure AspRustDependencyBaselinePackage where
  name : String
  version : String
  sourceContains : String
deriving DecidableEq, Repr

/-- The packages a lock file must resolve to, in insertion order. -/
structure AspRustDependencyBaseline where
  packages : List AspRustDependencyBaselinePackage := []
deriving DecidableEq, Repr

/-- The policy of one downstream crate. -/
structure AspRustDownstreamPolicy where
  gateLabel : String
  config : AspRustConfig
  dependencyBaseline : Option AspRustDependencyBaseline := none
deriving DecidableEq

/-- The cache owner and policy identity a build-support package supplies. -/
structure AspRustDevGateAuthority where
  cacheRoot : String
  policyDigest : String
  /-- The cache root is not empty. -/
  cacheRoot_ne : cacheRoot ≠ ""
  /-- The digest names its algorithm, and something follows the name. -/
  policyDigest_tagged : ∃ c rest, policyDigest.toList = "blake3-256:".toList ++ c :: rest

/-! ## Receipts -/

/-- Receipt projection of one dependency baseline package. -/
structure AspRustDependencyBaselinePackageReceipt where
  name : String
  version : String
  sourceContains : String
deriving DecidableEq, Repr

/-- Receipt projection of one verification report obligation. -/
structure AspRustReportObligationReceipt where
  key : String
  renderer : String
  suggestedArtifactName : String
  reason : String
  taskKinds : List String
  taskFingerprints : List String
deriving DecidableEq, Repr

/-- Receipt of a downstream policy. -/
structure AspRustDownstreamPolicyReceipt where
  schemaId : String
  schemaVersion : String
  gateLabel : String
  dependencyBaselinePackages : List AspRustDependencyBaselinePackageReceipt
  activeVerificationTaskCount : ℕ
  performanceTaskCount : ℕ
  stabilityTaskCount : ℕ
  performanceReportObligation : Bool
  stabilityReportObligation : Bool
  reportObligations : List AspRustReportObligationReceipt
deriving DecidableEq, Repr

/-- The baseline packages of a policy, in its own order. -/
def dependencyBaselinePackageReceipts (policy : AspRustDownstreamPolicy) :
    List AspRustDependencyBaselinePackageReceipt :=
  (policy.dependencyBaseline.toList.flatMap AspRustDependencyBaseline.packages).map
    fun package => ⟨package.name, package.version, package.sourceContains⟩

/-- A plan demands the report of this key. -/
def hasReportObligation (plan : RustVerificationPlan) (key : String) : Bool :=
  plan.reportObligations.any fun obligation => obligation.key = key

def activeTaskCount (plan : RustVerificationPlan) (kind : RustVerificationTaskKind) : ℕ :=
  (plan.tasks.filter fun task => task.kind = kind && task.isActive).length

/-- The receipt of a policy whose plan is given. -/
def downstreamPolicyReceiptFromPlan (policy : AspRustDownstreamPolicy)
    (plan : RustVerificationPlan) : AspRustDownstreamPolicyReceipt where
  schemaId := "asp-rust.downstream-policy-receipt"
  schemaVersion := "1"
  gateLabel := policy.gateLabel
  dependencyBaselinePackages := dependencyBaselinePackageReceipts policy
  activeVerificationTaskCount := plan.activeTasks.length
  performanceTaskCount := activeTaskCount plan .performance
  stabilityTaskCount := activeTaskCount plan .stability
  performanceReportObligation := hasReportObligation plan "performance_index_json"
  stabilityReportObligation := hasReportObligation plan "stability_index_json"
  reportObligations := plan.reportObligations.map fun obligation =>
    { key := obligation.key
      renderer := obligation.renderer
      suggestedArtifactName := obligation.suggestedArtifactName
      reason := obligation.reason
      taskKinds := obligation.taskKinds.keys.map RustVerificationTaskKind.key
      taskFingerprints := obligation.taskFingerprints }

/-! ## Checks of the gate -/

/-- The repair advice a failing gate ends with. -/
def downstreamDevGateAgentGuidance (gateLabel : String) : String :=
  "[asp-rust-agent-guidance]\ngate: " ++ gateLabel ++ "\n" ++
    "trigger: cargo test runs the shared Build Support policy gate.\n" ++
    "repair:\n" ++
    "- keep member crates free of policy-only build scripts.\n" ++
    "- declare the shared Build Support crate under [dev-dependencies].\n" ++
    "- put common policy in the shared workspace policy package.\n" ++
    "- mount its policy macro from a thin Cargo test target.\n" ++
    "- construct AspRustWorkspacePolicy once, then derive members with member_crate " ++
    "or member_crate_with_config.\n" ++
    "- add crate-local owners, receipts, waivers, or report obligations in the " ++
    "member override only.\n" ++
    "- rerun cargo test after updating policy or evidence.\n"

/-- An explanation that is not blank. -/
def hasExplanation (explanation : Option String) : Bool :=
  explanation.any fun text => trim text.toList ≠ []

/-- The configuration lets advice pass the gate. -/
def configAllowsAgentAdvice (config : AspRustConfig) : Bool :=
  hasExplanation config.cargoCheckAdviceAllowExplanation ||
    hasExplanation config.agentAdviceAllowExplanation

/-- Why a report does not pass, if it does not: it has blocking findings, or
advice that the configuration does not allow. -/
def buildReportRejection (renderAspRust : AspRustReport → String)
    (renderFindingList : List AspRustFinding → String) (report : AspRustReport)
    (config : AspRustConfig) (gateLabel : String) : Option String :=
  if !report.isClean then
    some (renderAspRust report ++ "\n" ++ downstreamDevGateAgentGuidance gateLabel)
  else if !configAllowsAgentAdvice config && report.adviceFindings ≠ [] then
    some (renderFindingList report.adviceFindings ++ "\n" ++
      downstreamDevGateAgentGuidance gateLabel)
  else none

/-- The policy asks for verification of this kind. -/
def configuredVerificationTaskKind (policy : RustVerificationPolicy)
    (kind : RustVerificationTaskKind) : Bool :=
  kind ∉ policy.disabledTaskKinds.keys &&
    (kind ∈ policy.skillBindings.keys || kind ∈ policy.taskContractOverrides.keys ||
      (policy.responsibilityTaskOverrides.values.any fun kinds => kind ∈ kinds.keys) ||
      (kind = .stability && policy.stabilityPicture.isSome))

/-- The name of a kind in a panic text. -/
def debugKind : RustVerificationTaskKind → String
  | .stress => "Stress"
  | .performance => "Performance"
  | .stability => "Stability"
  | .chaos => "Chaos"
  | .security => "Security"
  | .regression => "Regression"
  | .responsibilityReview => "ResponsibilityReview"

/-- One configured kind needs an active task and its report. -/
def assertVerificationKind (plan : RustVerificationPlan) (policy : RustVerificationPolicy)
    (gateLabel : String) (kind : RustVerificationTaskKind) (reportKey : String) :
    Outcome Unit := do
  if configuredVerificationTaskKind policy kind then
    if !(plan.tasks.any fun task => task.kind = kind && task.isActive) then
      throw (.panicked (gateLabel ++ " dev gate must configure active " ++ debugKind kind ++
        " verification tasks\n" ++ downstreamDevGateAgentGuidance gateLabel))
    if !hasReportObligation plan reportKey then
      throw (.panicked (gateLabel ++ " dev gate must require a " ++ reportKey ++ " report\n" ++
        downstreamDevGateAgentGuidance gateLabel))

/-- The verification coverage a gate demands of a plan. -/
def assertAspRustVerificationPlan (plan : RustVerificationPlan) (policy : RustVerificationPolicy)
    (gateLabel : String) : Outcome Unit := do
  assertVerificationKind plan policy gateLabel .performance "performance_index_json"
  assertVerificationKind plan policy gateLabel .stability "stability_index_json"

/-! ## The lock file -/

/-- One package of a lock file. -/
structure LockPackage where
  name : String
  version : String
  source : Option String
deriving DecidableEq, Repr

/-- Reading the lock file at a path. -/
abbrev LockfileReader := FileSystem → Path → Except String (List LockPackage)

/-- The lock file of a project: in its root, or else in the nearest directory
above that has one. -/
def findCargoLock (fs : FileSystem) (projectRoot : Path) : Option Path :=
  (projectRoot.inits.reverse.map (Path.join · "Cargo.lock")).find? fs.pathExists

def dependencyBaselineAgentGuidance (gateLabel : String) : String :=
  "[asp-rust-dependency-guidance]\ngate: " ++ gateLabel ++ "\n" ++
    "trigger: Cargo.lock dependency baseline drift.\n" ++
    "repair:\n" ++
    "- update the workspace dependency declaration that still pins the old version " ++
    "or git rev.\n" ++
    "- if a transitive crate pins the old rev, upgrade that crate first instead of " ++
    "overriding the lockfile by hand.\n" ++
    "- keep the baseline in shared workspace policy and derive member gates from " ++
    "AspRustWorkspacePolicy.\n" ++
    "- rerun cargo update for the affected package, then cargo tree -i <package> " ++
    "--workspace.\n" ++
    "- rerun cargo test so build.rs verifies the repaired lockfile.\n"

def renderRequiredDependencyBaselinePackage (package : AspRustDependencyBaselinePackage) :
    String :=
  package.name ++ " " ++ package.version ++ " source contains " ++ package.sourceContains

/-- The source of a locked package, as it is shown. -/
def LockPackage.sourceText (package : LockPackage) : String := package.source.getD "<none>"

def renderDependencyBaselinePackage (package : LockPackage) : String :=
  package.name ++ " " ++ package.version ++ " source " ++ package.sourceText

def renderDependencyBaselinePackageMatches (packages : List LockPackage) : String :=
  if packages = [] then "- <none>"
  else "\n".intercalate (packages.map fun package =>
    "- " ++ renderDependencyBaselinePackage package)

/-- One required package is locked once, in the required version and from a
matching source. -/
def assertDependencyBaselinePackage (lockfile : List LockPackage)
    (required : AspRustDependencyBaselinePackage) (gateLabel : String) (lockfilePath : Path) :
    Outcome Unit :=
  let packageMatches := lockfile.filter fun package => package.name = required.name
  match packageMatches with
  | [package] =>
      if package.version ≠ required.version ||
          !containsSlice required.sourceContains.toList package.sourceText.toList then
        throw (.panicked (gateLabel ++ " dependency baseline: " ++ required.name ++
          " resolved to an unexpected Cargo.lock entry in " ++ lockfilePath.display ++
          "\nexpected: " ++ renderRequiredDependencyBaselinePackage required ++
          "\nactual: " ++ renderDependencyBaselinePackage package ++ "\n" ++
          dependencyBaselineAgentGuidance gateLabel))
      else return ()
  | _ =>
      throw (.panicked (gateLabel ++ " dependency baseline: " ++ required.name ++
        " requires exactly one Cargo.lock entry in " ++ lockfilePath.display ++ "; found " ++
        toString packageMatches.length ++ "\nexpected: " ++
        renderRequiredDependencyBaselinePackage required ++ "\nactual:\n" ++
        renderDependencyBaselinePackageMatches packageMatches ++ "\n" ++
        dependencyBaselineAgentGuidance gateLabel))

/-- The lock file of the project resolves to the baseline.  Without the feature
of the harness only an empty baseline passes. -/
def assertAspRustDependencyBaseline (feature : Bool) (loadLockfile : LockfileReader)
    (fs : FileSystem) (projectRoot : Path) (baseline : AspRustDependencyBaseline)
    (gateLabel : String) : Outcome Unit :=
  if baseline.packages = [] then return ()
  else if !feature then
    throw (.panicked (gateLabel ++
      " dependency baseline requires the ASP Rust `dependency-baseline` feature"))
  else
    match findCargoLock fs projectRoot with
    | none =>
        throw (.panicked (gateLabel ++ " dependency baseline: Cargo.lock not found from " ++
          projectRoot.display ++ "\n" ++ dependencyBaselineAgentGuidance gateLabel))
    | some lockfilePath =>
        match loadLockfile fs lockfilePath with
        | .error error =>
            throw (.panicked (gateLabel ++ " dependency baseline: failed to parse " ++
              lockfilePath.display ++ ": " ++ error ++ "\n" ++
              dependencyBaselineAgentGuidance gateLabel))
        | .ok lockfile => baseline.packages.forM fun required =>
            assertDependencyBaselinePackage lockfile required gateLabel lockfilePath

end AspRust.DevGate
