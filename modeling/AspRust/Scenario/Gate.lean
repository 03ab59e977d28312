import AspRust.Scenario.Contract

/-!
# The gate on measurements

The scenario gate judges a benchmark contract.  Here are its checks of the measurement and of
the metrics; each appends its violations to a list.

### Design notes

The violations are sorted into two kinds by their texts.  A disagreement says that the measurement
is not one the runner would have written: percentiles out of order, a missing target.  A remark is
about names, units and phases without duration, which the runner does not look at.
`RunnerGate` shows that only remarks are left.
-/

namespace AspRust.Scenario

open AspRust.Foundation

inductive RustScenarioBenchmarkViolationKind where
  | contract
  | performance
  | memory
deriving DecidableEq, Repr

structure RustScenarioBenchmarkViolation where
  kind : RustScenarioBenchmarkViolationKind
  field : String
  message : String
deriving DecidableEq, Repr

def contractViolation (field message : String) : RustScenarioBenchmarkViolation :=
  ⟨.contract, field, message⟩

/-- A violation of the contract if a condition holds. -/
def violationIf (condition : Prop) [Decidable condition] (field message : String) :
    List RustScenarioBenchmarkViolation :=
  if condition then [contractViolation field message] else []

def emptyFieldMessage : String := "field must not be empty"

def requireNonEmpty (field value : String) : List RustScenarioBenchmarkViolation :=
  violationIf (trim value.toList = []) field emptyFieldMessage

/-! ## Metrics -/

/-- The name of a kind as it is printed for debugging. -/
def RustScenarioBenchmarkMetricKind.debug : RustScenarioBenchmarkMetricKind → String
  | .stable => "Stable"
  | .exact => "Exact"
  | .maximum => "Maximum"
  | .minimum => "Minimum"

def stableTargetMessage : String :=
  "stable observations must not duplicate a fixture value as a target"

def missingTargetMessage : String :=
  "exact, maximum, and minimum metrics require a declared target"

/-- A violation if a metric does not pass. -/
def judgeMetric (passes : Bool) (field : String) (metric : RustScenarioBenchmarkMetric)
    (target : U64) : List RustScenarioBenchmarkViolation :=
  if passes then []
  else [⟨.performance, field, "observed " ++ toString metric.observed.val ++
    " does not satisfy " ++ metric.kind.debug ++ " target " ++ toString target.val ++ " " ++
    metric.unit⟩]

/-- The checks of one metric. -/
def requireCustomMetric (name : String) (metric : RustScenarioBenchmarkMetric) :
    List RustScenarioBenchmarkViolation :=
  let field := "benchmark.metrics." ++ name
  requireNonEmpty (field ++ ".name") name ++ requireNonEmpty (field ++ ".unit") metric.unit ++
    match metric.kind, metric.target with
    | .stable, none => []
    | .exact, some target => judgeMetric (metric.observed = target) field metric target
    | .maximum, some target => judgeMetric (metric.observed ≤ target) field metric target
    | .minimum, some target => judgeMetric (target ≤ metric.observed) field metric target
    | .stable, some _ => [contractViolation (field ++ ".target") stableTargetMessage]
    | _, none => [contractViolation (field ++ ".target") missingTargetMessage]

def requireCustomMetrics (benchmark : RustScenarioBenchmarkContract) :
    List RustScenarioBenchmarkViolation :=
  benchmark.metrics.entries.flatMap fun entry => requireCustomMetric entry.1 entry.2

/-! ## Measurements -/

/-- The percentiles of a distribution are in order. -/
def RustScenarioBenchmarkPhaseDistribution.Ordered
    (distribution : RustScenarioBenchmarkPhaseDistribution) : Prop :=
  distribution.p50 ≤ distribution.p95 ∧ distribution.p95 ≤ distribution.p99 ∧
    distribution.p99 ≤ distribution.max

instance (distribution : RustScenarioBenchmarkPhaseDistribution) :
    Decidable distribution.Ordered := inferInstanceAs (Decidable (_ ∧ _ ∧ _))

/-- The distribution of the totals. -/
def RustScenarioBenchmarkMeasurement.total (measurement : RustScenarioBenchmarkMeasurement) :
    RustScenarioBenchmarkPhaseDistribution :=
  ⟨measurement.totalP50, measurement.totalP95, measurement.totalP99, measurement.totalMax⟩

def totalOrderMessage : String := "measured distribution must satisfy p50 <= p95 <= p99 <= max"

def totalP95Message : String :=
  "observed_total must equal the runner-generated p95 measurement"

def zeroTotalMessage : String :=
  "measured p95 is zero; clock resolution or sample workload is insufficient, rerun the Scenario " ++
    "instead of inventing a duration"

def countMessage : String := "counts are typed metrics, not durations"

def zeroPhaseMessage : String :=
  "measured phase resolved to zero; increase the sample workload and remeasure"

def phaseOrderMessage : String :=
  "measured phase distribution must satisfy p50 <= p95 <= p99 <= max"

def phaseP95Message : String :=
  "observed phase timing must equal its runner-generated p95 measurement"

def untimedPhaseMessage : String :=
  "phase distribution must have a corresponding observed timing"

def uncoveredTimingMessage : String :=
  "runner-generated phase distributions must cover every observed timing"

/-- The checks of the timing of one phase. -/
def requirePhase (phaseDistributions : OrderedMap String RustScenarioBenchmarkPhaseDistribution)
    (name : String) (timing : Duration) : List RustScenarioBenchmarkViolation :=
  violationIf ("_count".toList <:+ name.toList) ("benchmark.observed_timings." ++ name)
      countMessage ++
    violationIf (timing = 0) ("benchmark.observed_timings." ++ name) zeroPhaseMessage ++
    match phaseDistributions.get? name with
    | none => []
    | some distribution =>
        violationIf (¬ distribution.Ordered) ("benchmark.phase_distributions." ++ name)
            phaseOrderMessage ++
          violationIf (timing ≠ distribution.p95) ("benchmark.observed_timings." ++ name)
            phaseP95Message

def requireMeasurementProvenance (benchmark : RustScenarioBenchmarkContract) :
    List RustScenarioBenchmarkViolation :=
  match benchmark.measurement with
  | none =>
      if benchmark.metrics.keys = [] then []
      else [contractViolation "benchmark.measurement"
        "generated metrics require monotonic-clock measurement provenance"]
  | some measurement =>
      violationIf (measurement.clock ≠ "std::time::Instant") "benchmark.measurement.clock"
          "generated Scenario observations must use std::time::Instant" ++
        violationIf (measurement.statistic ≠ "p95") "benchmark.measurement.statistic"
          "observed_total must be the measured p95 sample" ++
        violationIf (measurement.measureIterations = 0) "benchmark.measurement.measure_iterations"
          "measurement must contain at least one real sample" ++
        violationIf (¬ measurement.total.Ordered) "benchmark.measurement" totalOrderMessage ++
        violationIf (benchmark.observedTotal ≠ measurement.totalP95) "benchmark.observed_total"
          totalP95Message ++
        violationIf (measurement.totalP95 = 0) "benchmark.measurement.total_p95"
          zeroTotalMessage ++
        (benchmark.observedTimings.entries.flatMap fun entry =>
          requirePhase benchmark.phaseDistributions entry.1 entry.2) ++
        (benchmark.phaseDistributions.keys.flatMap fun name =>
          violationIf (name ∉ benchmark.observedTimings.keys)
            ("benchmark.phase_distributions." ++ name) untimedPhaseMessage) ++
        violationIf (benchmark.phaseDistributions.keys ≠ [] ∧
            benchmark.phaseDistributions.keys.length ≠ benchmark.observedTimings.keys.length)
          "benchmark.phase_distributions" uncoveredTimingMessage

/-! ## What the runner answers for -/

/-- What the gate says when percentiles are out of order, an observed time is not the 95th
percentile, the total is zero, phases and timings do not match, or a metric misses its
target. -/
def disagreementMessages : List String :=
  [totalOrderMessage, phaseOrderMessage, totalP95Message, phaseP95Message, zeroTotalMessage,
    untimedPhaseMessage, uncoveredTimingMessage, stableTargetMessage, missingTargetMessage]

/-- A violation that the runner should have refused; of the checks here only that of a target
is a matter of performance. -/
def RustScenarioBenchmarkViolation.IsDisagreement (violation : RustScenarioBenchmarkViolation) :
    Prop :=
  violation.kind = .performance ∨ violation.message ∈ disagreementMessages

instance (violation : RustScenarioBenchmarkViolation) : Decidable violation.IsDisagreement :=
  inferInstanceAs (Decidable (_ ∨ _))

/-- What the gate says of names, units and phases that the runner does not look at. -/
def remarkMessages : List String := [emptyFieldMessage, countMessage, zeroPhaseMessage]

/-- A violation that only remarks on a name, a unit or a phase. -/
def RustScenarioBenchmarkViolation.IsRemark (violation : RustScenarioBenchmarkViolation) : Prop :=
  violation.kind = .contract ∧ violation.message ∈ remarkMessages

theorem RustScenarioBenchmarkViolation.IsRemark.not_isDisagreement
    {violation : RustScenarioBenchmarkViolation} (h : violation.IsRemark) :
    ¬ violation.IsDisagreement := by
  have hapart : ∀ message ∈ remarkMessages, message ∉ disagreementMessages := by decide +kernel
  rintro (hperformance | hmessage)
  · rw [h.1] at hperformance
    cases hperformance
  · exact hapart _ h.2 hmessage

theorem isRemark_of_mem_violationIf {condition : Prop} [Decidable condition]
    {field message : String} (hmessage : message ∈ remarkMessages)
    {violation : RustScenarioBenchmarkViolation}
    (h : violation ∈ violationIf condition field message) : violation.IsRemark := by
  unfold violationIf at h
  split at h
  · rw [List.mem_singleton.mp h]
    exact ⟨rfl, hmessage⟩
  · cases h

theorem judgeMetric_eq_nil {passes : Bool} (h : passes = true) (field : String)
    (metric : RustScenarioBenchmarkMetric) (target : U64) :
    judgeMetric passes field metric target = [] := if_pos h

theorem violationIf_eq_nil {condition : Prop} [Decidable condition] (h : ¬ condition)
    (field message : String) : violationIf condition field message = [] := if_neg h

end AspRust.Scenario
