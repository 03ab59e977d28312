import AspRust.Foundation.OrderedMap
import AspRust.Foundation.Outcome
import Mathlib.Algebra.GroupWithZero.Nat
import Mathlib.Data.String.Basic

/-!
# Scenario measurement

The build support runs a scenario, first to warm up and then to measure, and renders what
it measured as the benchmark file of the scenario.  The closure that runs the scenario and
the clock are outside: `Runs` says for each call how long it took and what it observed.

The renderer writes TOML by hand.  Strings are escaped; the names of phases and metrics are
written as they are.

### Design notes

The runner calls its closure once for each warm-up and each sample, and `Runs` gives the outcome
of each call by its number; nothing else of the world is seen.  Percentiles are those of the
source: the samples are sorted and indexed, with no interpolation.
-/

namespace AspRust.Scenario

open AspRust.Foundation

/-- A duration in nanoseconds. -/
abbrev Duration := ℕ

/-- An unsigned integer of 64 bits. -/
abbrev U64 := Fin (2 ^ 64)

instance U64.neZero : NeZero (2 ^ 64) := ⟨by decide⟩

/-! ## Scenarios

A scenario with the benchmark that is asked of it, and what one run of it observes:
memory, timings of phases, and values of metrics. -/

inductive AspRustScenarioMetricKind where
  | stable
  | exact
  | maximum
  | minimum
deriving DecidableEq, Repr

def AspRustScenarioMetricKind.asStr : AspRustScenarioMetricKind → String
  | .stable => "stable"
  | .exact => "exact"
  | .maximum => "maximum"
  | .minimum => "minimum"

structure AspRustScenarioMetricSpec where
  name : String
  unit : String
  kind : AspRustScenarioMetricKind
  target : Option U64
deriving DecidableEq, Repr

structure AspRustScenarioObservation where
  memoryBytes : U64 := 0
  phaseTimings : OrderedMap String Duration := ∅
  metrics : OrderedMap String U64 := ∅
deriving DecidableEq

structure AspRustScenarioBenchmarkSpec where
  harness : String
  test : String
  snapshot : String
  targetTotal : String
  maxTotal : String
  regressionBudget : String
  memoryBudgetBytes : U64
  targetRationale : String
  warmupIterations : U64
  measureIterations : U64
  metrics : List AspRustScenarioMetricSpec
deriving DecidableEq, Repr

/-- A scenario; what only its command line uses is left out. -/
structure AspRustScenario where
  name : String
  benchmark : Option AspRustScenarioBenchmarkSpec
deriving DecidableEq, Repr

structure AspRustScenarioMeasurement where
  observedTotal : Duration
  totalP50 : Duration
  totalP95 : Duration
  totalP99 : Duration
  totalMax : Duration
  observedMemoryBytes : U64
  observedTimings : OrderedMap String Duration
  timingP50 : OrderedMap String Duration
  timingP99 : OrderedMap String Duration
  timingMax : OrderedMap String Duration
  metrics : OrderedMap String U64
  clock : String
  statistic : String
  warmupIterations : U64
  measureIterations : U64
deriving DecidableEq

/-! ## The runner

The loop over the measured runs gathers samples.  A run that observes other phases or
metrics than those before it is an error.  The gathered samples of a metric are brought
to one value, which is held against the target of the metric. -/

/-- The calls of the closure: how long each took, and what it observed. -/
abbrev Runs := ℕ → Duration × AspRustScenarioObservation

/-- The sample below which a share of the samples lies, in percent. -/
def percentile (samples : List Duration) (percent : ℕ) : Duration :=
  (samples.mergeSort).getD ((samples.length * percent + 99) / 100 - 1) 0

/-- What the loop over the measured runs has gathered. -/
structure MeasureState where
  totals : List Duration := []
  phaseSamples : OrderedMap String (List Duration) := ∅
  phaseNames : Option (List String) := none
  metricSamples : OrderedMap String (List U64) := ∅
  metricNames : Option (List String) := none
  observedMemoryBytes : U64 := 0

/-- Add the values of one sample, each to the list of its name. -/
def pushSamples {V : Type} (samples : OrderedMap String (List V)) (values : OrderedMap String V) :
    OrderedMap String (List V) :=
  values.entries.foldl (fun samples entry =>
    samples.insert entry.1 ((samples.get? entry.1).getD [] ++ [entry.2])) samples

/-- The names of a sample, which must be those of the samples before. -/
def sameNames (expected : Option (List String)) (current : List String) (reason : String) :
    Except String (List String) :=
  match expected with
  | none => .ok current
  | some expected => if expected = current then .ok expected else .error reason

/-- One measured run. -/
def recordRun (state : MeasureState) (run : Duration × AspRustScenarioObservation) :
    Except String MeasureState := do
  let observation := run.2
  let phaseNames ← sameNames state.phaseNames observation.phaseTimings.keys
    "Scenario timing phases changed between samples"
  let metricNames ← sameNames state.metricNames observation.metrics.keys
    "Scenario custom metric names changed between samples"
  return {
    totals := state.totals ++ [run.1]
    phaseSamples := pushSamples state.phaseSamples observation.phaseTimings
    phaseNames := some phaseNames
    metricSamples := pushSamples state.metricSamples observation.metrics
    metricNames := some metricNames
    observedMemoryBytes := max state.observedMemoryBytes observation.memoryBytes }

/-- The observed value of a metric. -/
def aggregateValues (spec : AspRustScenarioMetricSpec) (values : List U64) : Except String U64 :=
  match values with
  | [] => .error ("Scenario metric " ++ spec.name ++ " has no samples")
  | first :: rest =>
      match spec.kind with
      | .stable | .exact =>
          if (first :: rest).any (· ≠ first) then
            .error ("Scenario " ++ spec.kind.asStr ++ " metric " ++ spec.name ++
              " changed between samples")
          else .ok first
      | .maximum => .ok (rest.foldl max first)
      | .minimum => .ok (rest.foldl min first)

/-- Take the samples of one metric. -/
def aggregateMetric (state : OrderedMap String (List U64) × OrderedMap String U64)
    (spec : AspRustScenarioMetricSpec) :
    Except String (OrderedMap String (List U64) × OrderedMap String U64) :=
  match state.1.get? spec.name with
  | none => .error ("Scenario metric " ++ spec.name ++ " is missing")
  | some values => do
      let observed ← aggregateValues spec values
      return (state.1.erase spec.name, state.2.insert spec.name observed)

def aggregateMetricObservations (specs : List AspRustScenarioMetricSpec)
    (samples : OrderedMap String (List U64)) : Except String (OrderedMap String U64) := do
  let (left, observations) ← specs.foldlM aggregateMetric (samples, ∅)
  match left.keys with
  | unregistered :: _ =>
      .error ("Scenario metric " ++ unregistered ++ " has no benchmark specification")
  | [] => return observations

def validateMetricObservation (observations : OrderedMap String U64)
    (spec : AspRustScenarioMetricSpec) : Except String Unit :=
  match observations.get? spec.name with
  | none => .error ("Scenario metric " ++ spec.name ++ " is missing")
  | some observed =>
      let check (admitted : Bool) (target : U64) : Except String Unit :=
        if admitted then .ok ()
        else .error ("Scenario metric " ++ spec.name ++ " observed " ++ toString observed.val ++
          " does not satisfy " ++ spec.kind.asStr ++ " target " ++ toString target.val ++ " " ++
          spec.unit)
      match spec.kind, spec.target with
      | .stable, none => .ok ()
      | .exact, some target => check (observed = target) target
      | .maximum, some target => check (observed ≤ target) target
      | .minimum, some target => check (target ≤ observed) target
      | .stable, some _ =>
          .error ("Scenario stable metric " ++ spec.name ++ " must not declare a target")
      | _, none =>
          .error ("Scenario constrained metric " ++ spec.name ++ " must declare a target")

def validateMetricObservations (specs : List AspRustScenarioMetricSpec)
    (observations : OrderedMap String U64) : Except String Unit :=
  specs.forM (validateMetricObservation observations)

def missingContract (scenario : AspRustScenario) : String :=
  "Scenario " ++ scenario.name ++ " has no benchmark contract"

/-- Run a scenario.  The calls that warm up come first and are not looked at. -/
def measureAspRustScenario (scenario : AspRustScenario) (runs : Runs) :
    Except String AspRustScenarioMeasurement :=
  match scenario.benchmark with
  | none => .error (missingContract scenario)
  | some benchmark => do
      if benchmark.measureIterations = 0 then
        .error "Scenario measure_iterations must be nonzero"
      let measured := (List.range benchmark.measureIterations.val).map fun index =>
        runs (benchmark.warmupIterations.val + index)
      let state ← measured.foldlM recordRun {}
      let observedTotal := percentile state.totals 95
      if observedTotal = 0 then
        .error "Scenario measurement resolution is insufficient: p95 elapsed time is zero"
      let metrics ← aggregateMetricObservations benchmark.metrics state.metricSamples
      validateMetricObservations benchmark.metrics metrics
      return {
        observedTotal := observedTotal
        totalP50 := percentile state.totals 50
        totalP95 := observedTotal
        totalP99 := percentile state.totals 99
        totalMax := percentile state.totals 100
        observedMemoryBytes := state.observedMemoryBytes
        observedTimings := state.phaseSamples.mapValues (percentile · 95)
        timingP50 := state.phaseSamples.mapValues (percentile · 50)
        timingP99 := state.phaseSamples.mapValues (percentile · 99)
        timingMax := state.phaseSamples.mapValues (percentile · 100)
        metrics := metrics
        clock := "std::time::Instant"
        statistic := "p95"
        warmupIterations := benchmark.warmupIterations
        measureIterations := benchmark.measureIterations }

/-! ## The renderer

The benchmark file, written line by line as the source does. -/

def formatDuration (duration : Duration) : String :=
  if 1000000 ≤ duration ∧ duration % 1000000 = 0 then toString (duration / 1000000) ++ "ms"
  else if 1000 ≤ duration ∧ duration % 1000 = 0 then toString (duration / 1000) ++ "us"
  else toString duration ++ "ns"

def escapeTomlString (value : String) : String :=
  String.ofList (value.toList.flatMap fun character =>
    if character = '\\' then ['\\', '\\']
    else if character = '"' then ['\\', '"']
    else if character = '\n' then ['\\', 'n']
    else if character = '\r' then ['\\', 'r']
    else if character = '\t' then ['\\', 't']
    else [character])

def pushTomlString (key value : String) : String :=
  key ++ " = \"" ++ escapeTomlString value ++ "\"\n"

/-- A line for a number. -/
def pushTomlInteger (key : String) (value : U64) : String :=
  key ++ " = " ++ toString value.val ++ "\n"

/-- The value of a key that must be there. -/
def index (timings : OrderedMap String Duration) (name : String) : Outcome Duration :=
  match timings.get? name with
  | some duration => .ok duration
  | none => .error (.panicked "no entry found for key")

/-- The section of one phase. -/
def renderPhase (measurement : AspRustScenarioMeasurement) (name : String) : Outcome String := do
  let p50 ← index measurement.timingP50 name
  let p95 ← index measurement.observedTimings name
  let p99 ← index measurement.timingP99 name
  let most ← index measurement.timingMax name
  return "\n[phase_distributions." ++ name ++ "]\n" ++
    (pushTomlString "p50" (formatDuration p50) ++ pushTomlString "p95" (formatDuration p95) ++
      pushTomlString "p99" (formatDuration p99) ++ pushTomlString "max" (formatDuration most))

/-- The section of one metric. -/
def renderMetric (measurement : AspRustScenarioMeasurement) (metric : AspRustScenarioMetricSpec) :
    Outcome String :=
  match measurement.metrics.get? metric.name with
  | none => .error (.returned ("Scenario metric " ++ metric.name ++ " is missing"))
  | some observed =>
      let target :=
        match metric.target with
        | some target => pushTomlInteger "target" target
        | none => ""
      .ok ("\n[metrics." ++ metric.name ++ "]\n" ++
        (pushTomlString "unit" metric.unit ++ pushTomlString "kind" metric.kind.asStr ++ target ++
          pushTomlInteger "observed" observed))

def renderAspRustScenarioBenchmarkToml (scenario : AspRustScenario)
    (measurement : AspRustScenarioMeasurement) : Outcome String :=
  match scenario.benchmark with
  | none => .error (.returned (missingContract scenario))
  | some benchmark => do
      let head :=
        pushTomlString "harness" benchmark.harness ++
        pushTomlString "test" benchmark.test ++
        pushTomlString "snapshot" benchmark.snapshot ++
        pushTomlString "target_total" benchmark.targetTotal ++
        pushTomlString "max_total" benchmark.maxTotal ++
        pushTomlString "observed_total" (formatDuration measurement.observedTotal) ++
        pushTomlString "regression_budget" benchmark.regressionBudget ++
        pushTomlInteger "memory_budget_bytes" benchmark.memoryBudgetBytes ++
        pushTomlInteger "observed_memory_bytes" measurement.observedMemoryBytes ++
        pushTomlString "target_rationale" benchmark.targetRationale ++
        "\n[measurement]\n" ++
        pushTomlString "clock" measurement.clock ++
        pushTomlString "statistic" measurement.statistic ++
        pushTomlInteger "warmup_iterations" measurement.warmupIterations ++
        pushTomlInteger "measure_iterations" measurement.measureIterations ++
        pushTomlString "total_p50" (formatDuration measurement.totalP50) ++
        pushTomlString "total_p95" (formatDuration measurement.totalP95) ++
        pushTomlString "total_p99" (formatDuration measurement.totalP99) ++
        pushTomlString "total_max" (formatDuration measurement.totalMax) ++
        "\n[observed_timings]\n"
      let timings := measurement.observedTimings.entries.map fun entry =>
        pushTomlString entry.1 (formatDuration entry.2)
      let phases ← measurement.observedTimings.keys.mapM (renderPhase measurement)
      let metrics ← benchmark.metrics.mapM (renderMetric measurement)
      return head ++ String.join timings ++ String.join phases ++ String.join metrics

end AspRust.Scenario
