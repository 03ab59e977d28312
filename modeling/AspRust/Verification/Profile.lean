import AspRust.Verification.Model

/-!
# Profiles, task kinds and contracts

A profile hint or an API path baseline gives an owner responsibilities.  Responsibilities
ask for kinds of tasks, by default or as the policy says, unless the hint names the
kinds itself.  Every kind has a contract: the phase, the receipt and the evidence that is
required.  A contract of the hint goes before one of the policy, and that one before the
default.

### Design notes

A hint and a baseline are treated alike up to the evidence they add, so many functions come
in pairs, and what a pair has in common is a definition of its own.  Texts are those of the
source, since they go into tasks and from there into fingerprints.
-/

namespace AspRust.Verification

open AspRust.Foundation

namespace RustOwnerResponsibility

/-- The stable text of a responsibility. -/
def asStr : RustOwnerResponsibility → String
  | .pureDomainLogic => "pure_domain_logic"
  | .publicApi => "public_api"
  | .externalDependency => "external_dependency"
  | .persistence => "persistence"
  | .securityBoundary => "security_boundary"
  | .latencySensitive => "latency_sensitive"
  | .availabilityCritical => "availability_critical"

end RustOwnerResponsibility

/-! ## Labels and evidence

The texts that a hint or a baseline adds to a task as evidence.  Blank rationales add
none. -/

/-- Labels joined by commas; a set without elements has a text of its own. -/
def joinedLabels (labels : List String) : String :=
  if labels = [] then "<none>" else ",".intercalate labels

def responsibilityLabels (responsibilities : OrderedSet RustOwnerResponsibility) : String :=
  joinedLabels (responsibilities.keys.map RustOwnerResponsibility.asStr)

def taskKindLabels (taskKinds : OrderedSet RustVerificationTaskKind) : String :=
  joinedLabels (taskKinds.keys.map RustVerificationTaskKind.key)

/-- A text without white space at its ends, unless nothing is left. -/
def normalizedText? (text : Option String) : Option String :=
  (text.map fun written => String.ofList (trim written.toList)).filter (· ≠ "")

def normalizedHintRationale (hint : RustVerificationProfileHint) : Option String :=
  normalizedText? hint.rationale

def normalizedApiPathRationale (baseline : RustVerificationApiPathBaseline) : Option String :=
  normalizedText? baseline.rationale

/-- The fact of a rationale, if there is one. -/
def rationaleEvidence (rationale : Option String) : List RustVerificationEvidence :=
  rationale.toList.map fun text => ⟨"rationale", text⟩

def profileEvidence (hint : RustVerificationProfileHint) : List RustVerificationEvidence :=
  ⟨"profile", responsibilityLabels hint.responsibilities⟩ ::
    rationaleEvidence (normalizedHintRationale hint)

namespace RustVerificationApiPathBaseline

/-- The route as reasons show it. -/
def compactApiLabel (baseline : RustVerificationApiPathBaseline) : String :=
  baseline.method ++ ":" ++ baseline.path

/-- The route as evidence shows it. -/
def apiEvidenceValue (baseline : RustVerificationApiPathBaseline) : String :=
  baseline.method ++ " " ++ baseline.path

end RustVerificationApiPathBaseline

def apiPathBaselineEvidence (baseline : RustVerificationApiPathBaseline) :
    List RustVerificationEvidence :=
  ⟨"api_path", baseline.apiEvidenceValue⟩ ::
    ⟨"profile", responsibilityLabels baseline.responsibilities⟩ ::
    rationaleEvidence (normalizedApiPathRationale baseline)

def hintRationaleIsEmpty (hint : RustVerificationProfileHint) : Bool :=
  (normalizedHintRationale hint).isNone

def apiPathRationaleIsEmpty (baseline : RustVerificationApiPathBaseline) : Bool :=
  (normalizedApiPathRationale baseline).isNone

/-! ## Task kinds

Which kinds of tasks a set of responsibilities asks for: those that the hint names, or
else those of each responsibility, by the policy or by default. -/

def defaultTaskKindsForResponsibility :
    RustOwnerResponsibility → OrderedSet RustVerificationTaskKind
  | .publicApi => OrderedSet.ofList [.stress]
  | .latencySensitive => OrderedSet.ofList [.performance]
  | .externalDependency | .persistence => OrderedSet.ofList [.chaos]
  | .availabilityCritical => OrderedSet.ofList [.chaos, .stability]
  | .securityBoundary => OrderedSet.ofList [.security]
  | .pureDomainLogic => ∅

def taskKindsForResponsibilities (responsibilities : OrderedSet RustOwnerResponsibility)
    (policy : RustVerificationPolicy) : OrderedSet RustVerificationTaskKind :=
  OrderedSet.ofList (responsibilities.keys.flatMap fun responsibility =>
    ((policy.responsibilityTaskOverrides.get? responsibility).getD
      (defaultTaskKindsForResponsibility responsibility)).keys)

def taskKindsForProfile (hint : RustVerificationProfileHint) (policy : RustVerificationPolicy) :
    OrderedSet RustVerificationTaskKind :=
  hint.taskKinds.getD (taskKindsForResponsibilities hint.responsibilities policy)

def taskKindsForApiPathBaseline (baseline : RustVerificationApiPathBaseline)
    (policy : RustVerificationPolicy) : OrderedSet RustVerificationTaskKind :=
  baseline.taskKinds.getD (taskKindsForResponsibilities baseline.responsibilities policy)

/-! ## Reasons

The text that says why a task was planned. -/

/-- Some responsibility asks for the kind by default. -/
def isDefaultTaskKind (responsibilities : OrderedSet RustOwnerResponsibility)
    (kind : RustVerificationTaskKind) : Bool :=
  responsibilities.keys.any fun responsibility =>
    kind ∈ (defaultTaskKindsForResponsibility responsibility).keys

def defaultProfileTaskReason : RustVerificationTaskKind → String
  | .stress => "profile declares public API or integration surface"
  | .performance => "profile declares latency-sensitive Rust owner"
  | .stability => "profile declares availability-critical Rust owner"
  | .chaos => "profile declares dependency, persistence, or availability responsibility"
  | .security => "profile declares auth, authorization, secret, or trust-boundary logic"
  | .regression => "profile config maps responsibilities to regression verification"
  | .responsibilityReview => "profile config maps responsibilities to responsibility review"

def profileTaskReason (kind : RustVerificationTaskKind)
    (responsibilities : OrderedSet RustOwnerResponsibility) (usesOwnerTaskOverride : Bool) :
    String :=
  if usesOwnerTaskOverride then
    "owner profile explicitly requests " ++ kind.key ++ " verification"
  else if isDefaultTaskKind responsibilities kind then defaultProfileTaskReason kind
  else "profile config maps responsibilities to " ++ kind.key ++ " verification"

def apiPathTaskReason (kind : RustVerificationTaskKind)
    (baseline : RustVerificationApiPathBaseline) (usesPathTaskOverride : Bool) : String :=
  if usesPathTaskOverride then
    "API path baseline " ++ baseline.compactApiLabel ++ " explicitly requests " ++ kind.key ++
      " verification"
  else if isDefaultTaskKind baseline.responsibilities kind then
    "API path baseline " ++ baseline.compactApiLabel ++ " declares " ++
      responsibilityLabels baseline.responsibilities ++ " responsibility"
  else
    "API path baseline " ++ baseline.compactApiLabel ++ " maps responsibilities to " ++
      kind.key ++ " verification"

/-! ## Contracts

What a kind of task requires by default, and how a policy or a hint overrides it, field
by field. -/

def stressRequirements : List RustVerificationRequirement :=
  [⟨"p50", "median latency under the chosen load step"⟩,
    ⟨"p99", "p99 latency under the chosen load step"⟩,
    ⟨"p999", "p999 latency when available or explicitly unsupported"⟩,
    ⟨"load_steps", "pressure staircase and concurrency/request rates"⟩,
    ⟨"sla_result", "whether the declared SLA was held or broken"⟩]

def performanceRequirements : List RustVerificationRequirement :=
  [⟨"benchmark_command", "cargo bench or project-owned command that exercises this owner"⟩,
    ⟨"baseline", "baseline commit, release, or previous artifact used for comparison"⟩,
    ⟨"regression_threshold", "accepted slowdown, throughput drop, or allocation growth limit"⟩,
    ⟨"latency_or_throughput", "ns/op, ops/sec, or domain-specific throughput result"⟩,
    ⟨"allocation_profile", "allocation count, bytes, or explicit unsupported result"⟩,
    ⟨"profile_artifact", "criterion, divan, iai-callgrind, flamegraph, or equivalent artifact"⟩]

def stabilityRequirements : List RustVerificationRequirement :=
  [⟨"stability_command", "long-running verification command or project-owned replay scenario"⟩,
    ⟨"iteration_window", "iterations, duration, warmup, and sample window used for the run"⟩,
    ⟨"latency_distribution", "p50/p95/p99/max latency or explicit unsupported result"⟩,
    ⟨"resource_delta", "RSS, heap, file descriptor, thread, or handle growth over the run"⟩,
    ⟨"state_growth", "cache, index, queue, database, or artifact growth over the run"⟩,
    ⟨"determinism", "repeated-run drift, replay consistency, or explicit nondeterminism bound"⟩,
    ⟨"stability_artifact", "machine-readable report, trace, profile, or log bundle artifact"⟩]

def chaosRequirements : List RustVerificationRequirement :=
  [⟨"injected_failures", "dependencies and failure modes injected"⟩,
    ⟨"degradation", "observed degraded behavior during the fault"⟩,
    ⟨"recovery", "recovery signal and time after the fault is removed"⟩]

def securityRequirements : List RustVerificationRequirement :=
  [⟨"attack_classes", "common attack classes scanned"⟩,
    ⟨"authorization_boundary", "authorization or trust-boundary result"⟩,
    ⟨"findings", "confirmed findings or explicit none result"⟩]

def regressionRequirements : List RustVerificationRequirement :=
  [⟨"source_growth", "source growth or owner bloat trend"⟩,
    ⟨"dependency_drift", "owner dependency drift or fan-out change"⟩,
    ⟨"module_cycles", "module or owner-cycle status"⟩]

def responsibilityReviewRequirements : List RustVerificationRequirement :=
  [⟨"profile_resolution", "updated responsibility hint or complete waiver rationale"⟩]

def defaultTaskContract : RustVerificationTaskKind → RustVerificationTaskContract
  | .stress =>
      ⟨.afterUnitTestsPass,
        "stress skill must report p50/p99/p999, load steps, and SLA result for this fingerprint",
        stressRequirements⟩
  | .performance =>
      ⟨.afterUnitTestsPass,
        "performance skill must report benchmark command, baseline, regression threshold, " ++
          "latency or throughput, allocation profile, and profiling artifact for this fingerprint",
        performanceRequirements⟩
  | .stability =>
      ⟨.scheduledRegression,
        "stability skill must report long-run command, iteration window, latency distribution, " ++
          "resource delta, state growth, determinism, and artifact for this fingerprint",
        stabilityRequirements⟩
  | .chaos =>
      ⟨.beforeRelease,
        "chaos skill must report injected failures, degradation behavior, and recovery result " ++
          "for this fingerprint",
        chaosRequirements⟩
  | .security =>
      ⟨.beforeRelease,
        "security skill must report scanned attack classes and authorization-boundary result " ++
          "for this fingerprint",
        securityRequirements⟩
  | .regression =>
      ⟨.scheduledRegression,
        "regression skill must report source growth, dependency drift, and module-cycle status " ++
          "for this fingerprint",
        regressionRequirements⟩
  | .responsibilityReview =>
      ⟨.beforeVerification,
        "update the verification profile hint to match parser facts, or attach a complete waiver",
        responsibilityReviewRequirements⟩

/-- The contract of a kind: a local one, else one of the policy, else the default. -/
def taskContractFromOverrides (policy : RustVerificationPolicy)
    (localOverrides : Option (OrderedMap RustVerificationTaskKind RustVerificationTaskContract))
    (kind : RustVerificationTaskKind) : RustVerificationTaskContract :=
  (((localOverrides.bind fun overrides => overrides.get? kind).or
    (policy.taskContractOverrides.get? kind))).getD (defaultTaskContract kind)

def taskContractForProfile (policy : RustVerificationPolicy)
    (hint : Option RustVerificationProfileHint) (kind : RustVerificationTaskKind) :
    RustVerificationTaskContract :=
  taskContractFromOverrides policy (hint.map (·.taskContractOverrides)) kind

def taskContractForApiPathBaseline (policy : RustVerificationPolicy)
    (baseline : RustVerificationApiPathBaseline) (kind : RustVerificationTaskKind) :
    RustVerificationTaskContract :=
  taskContractFromOverrides policy (some baseline.taskContractOverrides) kind

end AspRust.Verification
