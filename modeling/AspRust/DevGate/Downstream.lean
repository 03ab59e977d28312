import AspRust.Analysis.Runner
import AspRust.DevGate.DigestIndex

/-!
# The downstream gate

A run of the gate takes a snapshot of its inputs, makes the cache key, and looks
for a record under the key.  With a record the run checks what the record says
against the policy and returns the recorded report; without one it analyses the
package, makes the same checks, and stores a record.

`runAspRustDownstreamPolicy` is the whole run at one state of the file system.
It is put together from its stages, which are functions of their own, so that
the stages can also be run at different states of the file system.

### The stages

* `snapshotDevGateInputsWithCache` and `requestCacheKey`: what the run is told, and the
  key it gives.
* `answerFromRecord`: what a record that was found leads to, without looking at a file of
  the package.
* `evaluatePackage`: the analysis and its checks, when there is no record.
* `publishVerdict`: the record of the analysis, published.

Every check of a stage is an assertion in the source.  A failed one ends the run with a
panic whose text is part of the outcome, so that an outcome with another text is another
outcome in all that is proved about runs.
-/

namespace AspRust.DevGate

open AspRust.Foundation AspRust.Discovery AspRust.Verification AspRust.Analysis

/-- The parts of a gate that lie outside it: the cache, the analysis, the lock
file reader and the renderers of panic texts. -/
structure GateHost extends CacheHost where
  analysisHost : AnalysisHost
  loadLockfile : LockfileReader
  /-- The harness is built with its `dependency-baseline` feature. -/
  dependencyBaselineFeature : Bool
  renderAspRust : AspRustReport → String
  renderFindingList : List AspRustFinding → String
  debugReceipt : AspRustDownstreamPolicyReceipt → String
  debugBaselineReceipts : List AspRustDependencyBaselinePackageReceipt → String

/-- What a run is asked. -/
structure GateRequest where
  projectRoot : Path
  policy : AspRustDownstreamPolicy
  policyAuthorityDigest : String
  /-- A report that does not pass ends the run. -/
  assertReport : Bool

/-- The request of a gate under an explicit authority. -/
def AspRustDevGateAuthority.request (authority : AspRustDevGateAuthority) (projectRoot : Path)
    (policy : AspRustDownstreamPolicy) : GateRequest where
  projectRoot := projectRoot
  policy := policy
  policyAuthorityDigest := authority.policyDigest
  assertReport := true

namespace GateRequest

variable (request : GateRequest)

def config : AspRustConfig := request.policy.config

def gateLabel : String := request.policy.gateLabel

/-- The baseline receipts of the policy, in its own order. -/
def baselineReceipts : List AspRustDependencyBaselinePackageReceipt :=
  dependencyBaselinePackageReceipts request.policy

/-- The panic of a stage that failed. -/
def stagePanic (stage error : String) : Fault :=
  .panicked (request.gateLabel ++ " cargo-test " ++ stage ++ ": " ++ error ++ "\n" ++
    downstreamDevGateAgentGuidance request.gateLabel)

end GateRequest

/-- The operations that fail in the two publications of a run. -/
structure RunFaults where
  index : FaultPlan
  record : FaultPlan

/-- No operation of a run fails. -/
def noRunFaults : RunFaults := ⟨noFaults, noFaults⟩

/-- The text of a failed equality assertion. -/
def assertEqText (message left right : String) : String :=
  "assertion `left == right` failed: " ++ message ++ "\n  left: " ++ left ++ "\n right: " ++ right

section Stages

variable (host : GateHost) (request : GateRequest)

/-- The report passes, where the run asserts that. -/
def assertBuildReportCleanWithAgentGuidance (report : AspRustReport) : Outcome Unit :=
  if request.assertReport then
    match buildReportRejection host.renderAspRust host.renderFindingList report request.config
        request.gateLabel with
    | some rejection => throw (.panicked rejection)
    | none => return ()
  else return ()

/-- The lock file of the project resolves to the baseline, if there is one. -/
def assertRequestBaseline (fs : FileSystem) : Outcome Unit :=
  match request.policy.dependencyBaseline with
  | some baseline => assertAspRustDependencyBaseline host.dependencyBaselineFeature
      host.loadLockfile fs request.projectRoot baseline request.gateLabel
  | none => return ()

/-- The key of a run. -/
def requestCacheKey (snapshot : AspRustDevGateSnapshot) : Outcome String :=
  match devGateCacheKeyWithPolicyDigest host.toCacheHost request.config .package
      request.baselineReceipts snapshot request.policyAuthorityDigest with
  | .error error => throw (request.stagePanic "dev-gate cache key" error)
  | .ok cacheKey => return cacheKey

/-- The run with a record: the record passes the checks of the gate, and agrees
with the policy. -/
def answerFromRecord (fs : FileSystem) (record : AspRustDevGateCacheRecord) :
    Outcome AspRustReport := do
  assertBuildReportCleanWithAgentGuidance host request record.report
  assertAspRustVerificationPlan record.verificationPlan request.config.verificationPolicy
    request.gateLabel
  let expectedReceipt := downstreamPolicyReceiptFromPlan request.policy record.verificationPlan
  if record.downstreamPolicyReceipt ≠ expectedReceipt then
    throw (.panicked (assertEqText
      (request.gateLabel ++ " cached downstream policy receipt drift")
      (host.debugReceipt record.downstreamPolicyReceipt) (host.debugReceipt expectedReceipt)))
  if record.dependencyBaselineReceipts ≠ request.baselineReceipts then
    throw (.panicked (assertEqText
      (request.gateLabel ++ " cached dependency baseline receipt drift")
      (host.debugBaselineReceipts record.dependencyBaselineReceipts)
      (host.debugBaselineReceipts request.baselineReceipts)))
  assertRequestBaseline host request fs
  return record.report

/-- The report and the plan of the package, at a state of the file system. -/
def requestVerdict (fs : FileSystem) : Except String (AspRustReport × RustVerificationPlan) :=
  (packageVerdict host.analysisHost request.projectRoot request.config).run
    (answers host.manifestFromPath fs)

/-- The run without a record, up to what it stores. -/
def evaluatePackage (fs : FileSystem) : Outcome (AspRustReport × RustVerificationPlan) := do
  match requestVerdict host request fs with
  | .error error => throw (request.stagePanic "dev gate" error)
  | .ok (report, plan) =>
      assertBuildReportCleanWithAgentGuidance host request report
      assertAspRustVerificationPlan plan request.config.verificationPolicy request.gateLabel
      assertRequestBaseline host request fs
      return (report, plan)

/-- The record of a run. -/
def requestRecord (snapshot : AspRustDevGateSnapshot) (cacheKey : String)
    (verdict : AspRustReport × RustVerificationPlan) : Except String AspRustDevGateCacheRecord :=
  devGateCacheRecord host.toCacheHost cacheKey snapshot verdict.1 verdict.2
    (downstreamPolicyReceiptFromPlan request.policy verdict.2) request.baselineReceipts

/-- Store the record of a run. -/
def publishVerdict (faults : FaultPlan) (process : PublishingProcess)
    (snapshot : AspRustDevGateSnapshot) (cacheKey : String)
    (verdict : AspRustReport × RustVerificationPlan) (directory : CacheDirectory) :
    CacheDirectory × Outcome Unit :=
  match requestRecord host request snapshot cacheKey verdict with
  | .error error => (directory, throw (request.stagePanic "dev-gate cache payload" error))
  | .ok record =>
      match storeDevGateCache host.toCacheHost faults process record directory with
      | (directory, .error error) =>
          (directory, throw (request.stagePanic "dev-gate cache publish" error))
      | (directory, .ok ()) => (directory, return ())

end Stages

/-- The temporary file after the one of a process. -/
def PublishingProcess.next (process : PublishingProcess) : PublishingProcess :=
  { process with sequence := process.sequence + 1 }

/-- A run of the gate, with the cache it uses, if any. -/
def runAspRustDownstreamPolicy (host : GateHost) (faults : RunFaults)
    (process : PublishingProcess) (fs : FileSystem) (request : GateRequest)
    (cache : Option CacheDirectory) : Option CacheDirectory × Outcome AspRustReport :=
  match snapshotDevGateInputsWithCache host.toCacheHost faults.index process fs
      request.projectRoot request.config cache with
  | (cache, .error error) => (cache, throw (request.stagePanic "dev-gate snapshot" error))
  | (cache, .ok snapshot) =>
      match requestCacheKey host request snapshot with
      | .error fault => (cache, throw fault)
      | .ok cacheKey =>
          match cache.bind (loadDevGateCache host.toCacheHost · cacheKey) with
          | some record => (cache, answerFromRecord host request fs record)
          | none =>
              match evaluatePackage host request fs with
              | .error fault => (cache, throw fault)
              | .ok verdict =>
                  match cache with
                  | none => (none, return verdict.1)
                  | some directory =>
                      match publishVerdict host request faults.record process.next snapshot
                          cacheKey verdict directory with
                      | (directory, .error fault) => (some directory, throw fault)
                      | (directory, .ok ()) => (some directory, return verdict.1)

/-- A run that finds a record is answered from it. -/
theorem runAspRustDownstreamPolicy_of_record {host : GateHost} {faults : RunFaults}
    {process : PublishingProcess} {fs : FileSystem} {request : GateRequest}
    {cache after : Option CacheDirectory} {snapshot : AspRustDevGateSnapshot} {cacheKey : String}
    {record : AspRustDevGateCacheRecord}
    (hsnapshot : snapshotDevGateInputsWithCache host.toCacheHost faults.index process fs
      request.projectRoot request.config cache = (after, .ok snapshot))
    (hkey : requestCacheKey host request snapshot = .ok cacheKey)
    (hload : after.bind (loadDevGateCache host.toCacheHost · cacheKey) = some record) :
    runAspRustDownstreamPolicy host faults process fs request cache =
      (after, answerFromRecord host request fs record) := by
  unfold runAspRustDownstreamPolicy
  rw [hsnapshot]
  dsimp only
  rw [hkey]
  dsimp only
  rw [hload]

end AspRust.DevGate
