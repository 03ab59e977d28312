import AspRust.Foundation.Toml
import AspRust.Scenario.Measurement

/-!
# The benchmark contract

The policy reads the benchmark file of a scenario as a contract.  The TOML parser is not
part of the repository; what is read from its table is: which fields there are, which of
them may be missing, and how a duration is written.  A field that is not known is an error
in every table of the contract.

### Design notes

A table is read or it is not: which of several errors a derived reader would give first is not
kept.  A duration is read from its text with exact arithmetic on 128 bits; the checks for overflow
are those of the source, one after each operation.
-/

namespace AspRust.Scenario

open AspRust.Foundation

/-! ## Durations

The text of a duration is trimmed, cut into an amount and a unit, and computed with 128
bits and a check after each operation. -/

/-- Why a text is no duration. -/
inductive DurationError where
  /-- `duration must not be empty` -/
  | empty
  /-- `duration must include a unit: ns, us, ms, or s` -/
  | noUnit
  /-- `duration must include a numeric amount` -/
  | noAmount
  /-- `unsupported duration unit {unit:?}; use ns, us, ms, or s` -/
  | unsupportedUnit (unit : List Char)
  /-- `duration exceeds std::time::Duration::from_nanos range` -/
  | outOfRange
  /-- `duration amount must contain digits` -/
  | noDigits
  /-- `invalid duration amount {amount:?}` -/
  | invalidAmount (amount : List Char)
  /-- `duration amount overflows nanoseconds` -/
  | amountOverflow
  /-- `invalid duration fraction {amount:?}` -/
  | invalidFraction (amount : List Char)
  /-- `duration fraction is too precise` -/
  | fractionTooPrecise
  /-- `duration fraction overflows nanoseconds` -/
  | fractionOverflow
  /-- `duration {amount:?} is more precise than nanoseconds` -/
  | belowNanoseconds (amount : List Char)
deriving DecidableEq, Repr

/-- A number below `2 ^ 128`, if there is one. -/
def checked (value : ℕ) : Option ℕ := if value < 2 ^ 128 then some value else none

/-- The number of a text of digits. -/
def parseU128 (digits : List Char) : Option ℕ :=
  if digits ≠ [] ∧ digits.all Char.isDigit then checked (Nat.ofDigitChars 10 digits 0)
  else none

/-- The nanoseconds of the part before the point. -/
def wholeNanos (amount whole : List Char) (nanosPerUnit : ℕ) : Except DurationError ℕ :=
  if whole = [] then .ok 0
  else
    match parseU128 whole with
    | none => .error (.invalidAmount amount)
    | some value =>
        match checked (value * nanosPerUnit) with
        | none => .error .amountOverflow
        | some nanos => .ok nanos

def parseDecimalDurationNanos (amount : List Char) (nanosPerUnit : ℕ) :
    Except DurationError ℕ := do
  let (whole, fraction) : List Char × Option (List Char) :=
    match splitOnce? '.' amount with
    | none => (amount, none)
    | some (whole, fraction) => (whole, some fraction)
  if whole = [] ∧ (fraction = none ∨ fraction = some []) then .error .noDigits
  let nanos ← wholeNanos amount whole nanosPerUnit
  match fraction with
  | none => return nanos
  | some fraction =>
      if fraction = [] ∨ ¬ fraction.all Char.isDigit then .error (.invalidFraction amount)
      else
        match checked (10 ^ fraction.length) with
        | none => .error .fractionTooPrecise
        | some scale =>
            match parseU128 fraction with
            | none => .error (.invalidFraction amount)
            | some units =>
                match checked (units * nanosPerUnit) with
                | none => .error .fractionOverflow
                | some fractionNanos =>
                    if fractionNanos % scale ≠ 0 then .error (.belowNanoseconds amount)
                    else
                      match checked (nanos + fractionNanos / scale) with
                      | none => .error .amountOverflow
                      | some total => .ok total

/-- The length of a unit; micro may be written with either of two letters. -/
def nanosPerUnit? (unit : List Char) : Option ℕ :=
  if unit = "ns".toList then some 1
  else if unit = "us".toList ∨ unit = ['\u00b5', 's'] ∨ unit = ['\u03bc', 's'] then some 1000
  else if unit = "ms".toList then some 1000000
  else if unit = "s".toList then some 1000000000
  else none

def isAmountChar (c : Char) : Bool := c.isDigit || c = '.'

def parseRustScenarioBenchmarkDuration (value : String) : Except DurationError Duration :=
  let value := trim value.toList
  if value = [] then .error .empty
  else
    let amount := value.takeWhile isAmountChar
    let unit := value.dropWhile isAmountChar
    if unit = [] then .error .noUnit
    else if amount = [] then .error .noAmount
    else
      match nanosPerUnit? unit with
      | none => .error (.unsupportedUnit unit)
      | some nanosPerUnit => do
          let nanos ← parseDecimalDurationNanos amount nanosPerUnit
          if nanos < 2 ^ 64 then .ok nanos else .error .outOfRange

example : parseRustScenarioBenchmarkDuration " 1.2ms" = .ok 1200000 := by decide +kernel

/-! ## Contracts

The contract with its parts as the policy keeps them. -/

inductive RustScenarioBenchmarkMetricKind where
  | stable
  | exact
  | maximum
  | minimum
deriving DecidableEq, Repr

structure RustScenarioBenchmarkMetric where
  unit : String
  kind : RustScenarioBenchmarkMetricKind
  target : Option U64
  observed : U64
deriving DecidableEq, Repr

structure RustScenarioBenchmarkMeasurement where
  clock : String
  statistic : String
  warmupIterations : U64
  measureIterations : U64
  totalP50 : Duration
  totalP95 : Duration
  totalP99 : Duration
  totalMax : Duration
deriving DecidableEq, Repr

structure RustScenarioBenchmarkPhaseDistribution where
  p50 : Duration
  p95 : Duration
  p99 : Duration
  max : Duration
deriving DecidableEq, Repr

structure RustScenarioBenchmarkInputExpectedComparison where
  inputTotal : Duration
  expectedTotal : Duration
  inputMemoryBytes : U64
  expectedMemoryBytes : U64
  interpretation : String
  expectedNotFasterAnnotation : Option String
deriving DecidableEq, Repr

inductive RustScenarioBenchmarkPhase where
  | cold
  | warm
  | coldFunctional
deriving DecidableEq, Repr

structure RustScenarioBenchmarkContract where
  harness : String
  test : Option String
  bench : Option String
  case : Option String
  snapshot : Option String
  phase : Option RustScenarioBenchmarkPhase
  targetTotal : Duration
  maxTotal : Duration
  observedTotal : Duration
  regressionBudget : Duration
  memoryBudgetBytes : U64
  observedMemoryBytes : U64
  routeSource : Option String
  maxProviderProcessCount : Option (Fin (2 ^ 32))
  maxStdoutBytes : Option U64
  fallbackReason : Option String
  targetRationale : String
  inputExpectedComparison : Option RustScenarioBenchmarkInputExpectedComparison
  observedTimings : OrderedMap String Duration
  phaseDistributions : OrderedMap String RustScenarioBenchmarkPhaseDistribution
  metrics : OrderedMap String RustScenarioBenchmarkMetric
  measurement : Option RustScenarioBenchmarkMeasurement

/-! ## Fields

How a field is read from its table: required, with a default, or optional; and for each
record the names of its fields, since a field that is not known is an error. -/

section Fields

variable {α : Type}

def readString : Toml.Value → Option String
  | .string text => some text
  | _ => none

def readUnsigned (bits : ℕ) : Toml.Value → Option (Fin (2 ^ bits))
  | .integer value => if h : value < 2 ^ bits then some ⟨value, h⟩ else none
  | _ => none

def readU64 : Toml.Value → Option U64 := readUnsigned 64

def readDuration : Toml.Value → Option Duration
  | .string text => (parseRustScenarioBenchmarkDuration text).toOption
  | _ => none

/-- A field that must be there. -/
def required (read : Toml.Value → Option α) (name : String) (table : Toml.Table) : Option α :=
  (Toml.get? table name).bind read

/-- A field that is read as a default where it is missing. -/
def withDefault (default : α) (read : Toml.Value → Option α) (name : String)
    (table : Toml.Table) : Option α :=
  match Toml.get? table name with
  | none => some default
  | some value => read value

/-- A field that may be missing. -/
def optional (read : Toml.Value → Option α) (name : String) (table : Toml.Table) :
    Option (Option α) :=
  withDefault none (fun value => (read value).map some) name table

/-- A table that has only known fields. -/
def readStruct (fields : List String) (read : Toml.Table → Option α) : Toml.Value → Option α
  | .table entries => if ∀ entry ∈ entries, entry.1 ∈ fields then read entries else none
  | _ => none

/-- A table whose keys are free. -/
def readMap (read : Toml.Value → Option α) : Toml.Value → Option (OrderedMap String α)
  | .table entries => do
      let elements ← entries.mapM fun entry => (read entry.2).map fun value => (entry.1, value)
      return OrderedMap.insertAll Prod.fst Prod.snd elements ∅
  | _ => none

end Fields

def readMetricKind (value : Toml.Value) : Option RustScenarioBenchmarkMetricKind := do
  let text ← readString value
  if text = "stable" then return .stable
  else if text = "exact" then return .exact
  else if text = "maximum" then return .maximum
  else if text = "minimum" then return .minimum
  else none

def readMetric : Toml.Value → Option RustScenarioBenchmarkMetric :=
  readStruct ["unit", "kind", "target", "observed"] fun table => do
    return {
      unit := ← required readString "unit" table
      kind := ← required readMetricKind "kind" table
      target := ← optional readU64 "target" table
      observed := ← required readU64 "observed" table }

def readMeasurement : Toml.Value → Option RustScenarioBenchmarkMeasurement :=
  readStruct ["clock", "statistic", "warmup_iterations", "measure_iterations", "total_p50",
    "total_p95", "total_p99", "total_max"] fun table => do
    return {
      clock := ← required readString "clock" table
      statistic := ← required readString "statistic" table
      warmupIterations := ← required readU64 "warmup_iterations" table
      measureIterations := ← required readU64 "measure_iterations" table
      totalP50 := ← required readDuration "total_p50" table
      totalP95 := ← required readDuration "total_p95" table
      totalP99 := ← required readDuration "total_p99" table
      totalMax := ← required readDuration "total_max" table }

def readPhaseDistribution : Toml.Value → Option RustScenarioBenchmarkPhaseDistribution :=
  readStruct ["p50", "p95", "p99", "max"] fun table => do
    return {
      p50 := ← required readDuration "p50" table
      p95 := ← required readDuration "p95" table
      p99 := ← required readDuration "p99" table
      max := ← required readDuration "max" table }

def readComparison : Toml.Value → Option RustScenarioBenchmarkInputExpectedComparison :=
  readStruct ["input_total", "expected_total", "input_memory_bytes", "expected_memory_bytes",
    "interpretation", "expected_not_faster_annotation"] fun table => do
    return {
      inputTotal := ← required readDuration "input_total" table
      expectedTotal := ← required readDuration "expected_total" table
      inputMemoryBytes := ← required readU64 "input_memory_bytes" table
      expectedMemoryBytes := ← required readU64 "expected_memory_bytes" table
      interpretation := ← required readString "interpretation" table
      expectedNotFasterAnnotation :=
        ← optional readString "expected_not_faster_annotation" table }

def readPhase (value : Toml.Value) : Option RustScenarioBenchmarkPhase := do
  let text ← readString value
  if text = "cold" then return .cold
  else if text = "warm" then return .warm
  else if text = "cold-functional" then return .coldFunctional
  else none

def contractFields : List String :=
  ["harness", "test", "bench", "case", "snapshot", "phase", "target_total", "max_total",
    "observed_total", "regression_budget", "memory_budget_bytes", "observed_memory_bytes",
    "route_source", "max_provider_process_count", "max_stdout_bytes", "fallback_reason",
    "target_rationale", "input_expected_comparison", "observed_timings", "phase_distributions",
    "metrics", "measurement"]

/-- The fields of a contract. -/
def readContractFields (table : Toml.Table) : Option RustScenarioBenchmarkContract := do
  return {
    harness := ← required readString "harness" table
    test := ← optional readString "test" table
    bench := ← optional readString "bench" table
    case := ← optional readString "case" table
    snapshot := ← optional readString "snapshot" table
    phase := ← optional readPhase "phase" table
    targetTotal := ← required readDuration "target_total" table
    maxTotal := ← required readDuration "max_total" table
    observedTotal := ← required readDuration "observed_total" table
    regressionBudget := ← required readDuration "regression_budget" table
    memoryBudgetBytes := ← required readU64 "memory_budget_bytes" table
    observedMemoryBytes := ← required readU64 "observed_memory_bytes" table
    routeSource := ← optional readString "route_source" table
    maxProviderProcessCount := ← optional (readUnsigned 32) "max_provider_process_count" table
    maxStdoutBytes := ← optional readU64 "max_stdout_bytes" table
    fallbackReason := ← optional readString "fallback_reason" table
    targetRationale := ← required readString "target_rationale" table
    inputExpectedComparison := ← optional readComparison "input_expected_comparison" table
    observedTimings := ← withDefault ∅ (readMap readDuration) "observed_timings" table
    phaseDistributions :=
      ← withDefault ∅ (readMap readPhaseDistribution) "phase_distributions" table
    metrics := ← withDefault ∅ (readMap readMetric) "metrics" table
    measurement := ← optional readMeasurement "measurement" table }

def readContract (table : Toml.Table) : Option RustScenarioBenchmarkContract :=
  readStruct contractFields readContractFields (.table table)

/-- Read the text of a benchmark file. -/
def contractFromToml (reader : Toml.Reader) (text : String) :
    Option RustScenarioBenchmarkContract :=
  (reader.read text.toList).bind readContract

end AspRust.Scenario
