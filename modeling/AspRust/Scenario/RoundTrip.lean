import AspRust.Foundation.PlainToml
import AspRust.Scenario.BenchmarkDocument

/-!
# Reading the benchmark file back

The renderer of the build support and the contract of the policy agree on a file that is
legible: its texts have no control character, the three budgets of the benchmark are
durations, the measured durations fit in 64 bits, and the parser can represent the
integers.  The runner looks at none of this.

### What is load-bearing

`Toml.Reader` is any parser that reads plain documents as the specification says.  What a parser
does with other documents is left open, so the converse direction needs a document that no
parser may accept: a control character in a text, a name that is no bare key, a number out of
range.  `Legible` names exactly these.
-/

namespace AspRust.Scenario

open AspRust.Foundation

/-! ## Values of a table

A field of the contract is read from a table by its name and kind.  These lemmas say
what is read from a value that the renderer wrote; each kind of value has one. -/

theorem readDuration_string {text : String} {read : Duration} :
    readDuration (.string text) = some read ↔
      parseRustScenarioBenchmarkDuration text = .ok read := by
  rw [readDuration]
  cases parseRustScenarioBenchmarkDuration text with
  | error reason => simp [Except.toOption]
  | ok duration => simp [Except.toOption]

theorem readDuration_formatDuration {duration read : Duration} :
    readDuration (.string (formatDuration duration)) = some read ↔
      duration < 2 ^ 64 ∧ duration = read := by
  rw [readDuration, parse_formatDuration]
  split
  · next h => rw [Option.some.injEq, and_iff_right h]
  · next h => simp only [h, false_and, reduceCtorEq]

@[simp] theorem readU64_val (value : U64) : readU64 (.integer value.val) = some value := by
  simp [readU64, readUnsigned]

/-- Reading a table whose keys are free. -/
theorem readMap_eq_some_iff {ι α : Type} {read : Toml.Value → Option α} {elements : List ι}
    {key : ι → String} {value : ι → Toml.Value} {legible : ι → Prop} {result : ι → α}
    (hread : ∀ element ∈ elements, ∀ found,
      read (value element) = some found ↔ legible element ∧ result element = found)
    {map : OrderedMap String α} :
    readMap read (.table (elements.map fun element => (key element, value element))) = some map ↔
      (∀ element ∈ elements, legible element) ∧
        OrderedMap.insertAll key result elements ∅ = map := by
  -- the list is read whole exactly if each element is
  have hall : ∀ found, (elements.map fun element => (key element, value element)).mapM
      (fun entry => (read entry.2).map fun value => (entry.1, value)) = some found ↔
        (∀ element ∈ elements, legible element) ∧
          elements.map (fun element => (key element, result element)) = found := by
    clear map
    induction elements with
    | nil => simp
    | cons element rest ih =>
        have hhead := hread element List.mem_cons_self
        have hrest := ih fun other hother => hread other (List.mem_cons_of_mem element hother)
        intro found
        simp only [List.map_cons, List.mapM_cons, Option.bind_eq_bind, Option.bind_eq_some_iff,
          Option.map_eq_some_iff, hhead, hrest, List.forall_mem_cons, Option.pure_def,
          Option.some.injEq]
        constructor
        · rintro ⟨_, ⟨_, ⟨hok, rfl⟩, rfl⟩, _, ⟨hothers, rfl⟩, rfl⟩
          exact ⟨⟨hok, hothers⟩, rfl⟩
        · rintro ⟨⟨hok, hothers⟩, rfl⟩
          exact ⟨_, ⟨_, ⟨hok, rfl⟩, rfl⟩, _, ⟨hothers, rfl⟩, rfl⟩
  simp only [readMap, Option.bind_eq_bind, Option.bind_eq_some_iff, hall, Option.pure_def,
    Option.some.injEq]
  constructor
  · rintro ⟨_, ⟨hok, rfl⟩, rfl⟩
    refine ⟨hok, ?_⟩
    rw [OrderedMap.insertAll, OrderedMap.insertAll, List.foldl_map]
  · rintro ⟨hok, rfl⟩
    refine ⟨_, ⟨hok, rfl⟩, ?_⟩
    rw [OrderedMap.insertAll, OrderedMap.insertAll, List.foldl_map]

/-! ## The sections

The file has a table for the benchmark, one for the measurement, and one for each phase
and each metric.  Each is read back from the entries that the renderer gives it.
Durations come back only if they fit in 64 bits, so a section is read under the
assumption that its own do. -/

section Sections

variable {benchmark : AspRustScenarioBenchmarkSpec} {measurement : AspRustScenarioMeasurement}

/-- A distribution whose durations fit. -/
structure RustScenarioBenchmarkPhaseDistribution.Fits
    (distribution : RustScenarioBenchmarkPhaseDistribution) : Prop where
  p50 : distribution.p50 < 2 ^ 64
  p95 : distribution.p95 < 2 ^ 64
  p99 : distribution.p99 < 2 ^ 64
  max : distribution.max < 2 ^ 64

theorem readPhaseDistribution_phaseEntries {distribution found :
    RustScenarioBenchmarkPhaseDistribution} :
    readPhaseDistribution (.table (Toml.tableOf (phaseEntries distribution))) = some found ↔
      distribution.Fits ∧ distribution = found := by
  have hread : readPhaseDistribution (.table (Toml.tableOf (phaseEntries distribution))) = (do
      return {
        p50 := ← readDuration (.string (formatDuration distribution.p50))
        p95 := ← readDuration (.string (formatDuration distribution.p95))
        p99 := ← readDuration (.string (formatDuration distribution.p99))
        max := ← readDuration (.string (formatDuration distribution.max)) }) := rfl
  simp only [hread, Option.bind_eq_bind, Option.bind_eq_some_iff, readDuration_formatDuration,
    Option.pure_def, Option.some.injEq]
  constructor
  · rintro ⟨_, ⟨h50, rfl⟩, _, ⟨h95, rfl⟩, _, ⟨h99, rfl⟩, _, ⟨hmax, rfl⟩, rfl⟩
    exact ⟨⟨h50, h95, h99, hmax⟩, rfl⟩
  · rintro ⟨⟨h50, h95, h99, hmax⟩, rfl⟩
    exact ⟨_, ⟨h50, rfl⟩, _, ⟨h95, rfl⟩, _, ⟨h99, rfl⟩, _, ⟨hmax, rfl⟩, rfl⟩

/-- The kind of a metric in the contract. -/
def AspRustScenarioMetricKind.contractKind :
    AspRustScenarioMetricKind → RustScenarioBenchmarkMetricKind
  | .stable => .stable
  | .exact => .exact
  | .maximum => .maximum
  | .minimum => .minimum

/-- A metric with its observed value. -/
def AspRustScenarioMetricSpec.withObserved (metric : AspRustScenarioMetricSpec)
    (observed : U64) : RustScenarioBenchmarkMetric where
  unit := metric.unit
  kind := metric.kind.contractKind
  target := metric.target
  observed := observed

theorem readMetric_metricEntries (metric : AspRustScenarioMetricSpec) (observed : U64) :
    readMetric (.table (Toml.tableOf (metricEntries metric observed))) =
      some (metric.withObserved observed) := by
  have hkind : readMetricKind (.string metric.kind.asStr) = some metric.kind.contractKind := by
    cases metric.kind <;> rfl
  obtain ⟨name, unit, kind, target⟩ := metric
  cases target with
  | none =>
      have hread : readMetric (.table (Toml.tableOf (metricEntries
          ⟨name, unit, kind, none⟩ observed))) = (do
        return {
          unit := ← some unit
          kind := ← readMetricKind (.string kind.asStr)
          target := ← some none
          observed := ← readU64 (.integer observed.val) }) := rfl
      rw [hread, hkind, readU64_val]
      rfl
  | some target =>
      have hread : readMetric (.table (Toml.tableOf (metricEntries
          ⟨name, unit, kind, some target⟩ observed))) = (do
        return {
          unit := ← some unit
          kind := ← readMetricKind (.string kind.asStr)
          target := ← (readU64 (.integer target.val)).map some
          observed := ← readU64 (.integer observed.val) }) := rfl
      rw [hread, hkind, readU64_val, readU64_val]
      rfl

variable (measurement) in
/-- The measurement as the contract has it. -/
def measurementSection : RustScenarioBenchmarkMeasurement where
  clock := measurement.clock
  statistic := measurement.statistic
  warmupIterations := measurement.warmupIterations
  measureIterations := measurement.measureIterations
  totalP50 := measurement.totalP50
  totalP95 := measurement.totalP95
  totalP99 := measurement.totalP99
  totalMax := measurement.totalMax

theorem readMeasurement_measurementEntries {found : RustScenarioBenchmarkMeasurement} :
    readMeasurement (.table (Toml.tableOf (measurementEntries measurement))) = some found ↔
      (measurement.totalP50 < 2 ^ 64 ∧ measurement.totalP95 < 2 ^ 64 ∧
        measurement.totalP99 < 2 ^ 64 ∧ measurement.totalMax < 2 ^ 64) ∧
        measurementSection measurement = found := by
  have hread : readMeasurement (.table (Toml.tableOf (measurementEntries measurement))) = (do
      return {
        clock := ← some measurement.clock
        statistic := ← some measurement.statistic
        warmupIterations := ← readU64 (.integer measurement.warmupIterations.val)
        measureIterations := ← readU64 (.integer measurement.measureIterations.val)
        totalP50 := ← readDuration (.string (formatDuration measurement.totalP50))
        totalP95 := ← readDuration (.string (formatDuration measurement.totalP95))
        totalP99 := ← readDuration (.string (formatDuration measurement.totalP99))
        totalMax := ← readDuration (.string (formatDuration measurement.totalMax)) }) := rfl
  rw [hread, readU64_val, readU64_val]
  simp only [Option.bind_eq_bind, Option.bind_some, Option.bind_eq_some_iff,
    readDuration_formatDuration, Option.pure_def, Option.some.injEq]
  constructor
  · rintro ⟨_, ⟨h50, rfl⟩, _, ⟨h95, rfl⟩, _, ⟨h99, rfl⟩, _, ⟨hmax, rfl⟩, rfl⟩
    exact ⟨⟨h50, h95, h99, hmax⟩, rfl⟩
  · rintro ⟨⟨h50, h95, h99, hmax⟩, rfl⟩
    exact ⟨_, ⟨h50, rfl⟩, _, ⟨h95, rfl⟩, _, ⟨h99, rfl⟩, _, ⟨hmax, rfl⟩, rfl⟩

/-! ## The contract

The sections are put together to the contract.  A group without a member has no table at
all in the file, and the reader takes the empty group for it; the fields that the build
support never writes are read as missing. -/

variable (benchmark measurement) in
/-- The contract of a benchmark and what was measured, with the budgets as they are read. -/
def measuredContract (targetTotal maxTotal regressionBudget : Duration) :
    RustScenarioBenchmarkContract where
  harness := benchmark.harness
  test := some benchmark.test
  bench := none
  case := none
  snapshot := some benchmark.snapshot
  phase := none
  targetTotal := targetTotal
  maxTotal := maxTotal
  observedTotal := measurement.observedTotal
  regressionBudget := regressionBudget
  memoryBudgetBytes := benchmark.memoryBudgetBytes
  observedMemoryBytes := measurement.observedMemoryBytes
  routeSource := none
  maxProviderProcessCount := none
  maxStdoutBytes := none
  fallbackReason := none
  targetRationale := benchmark.targetRationale
  inputExpectedComparison := none
  observedTimings := OrderedMap.insertAll Prod.fst Prod.snd measurement.observedTimings.entries ∅
  phaseDistributions := OrderedMap.insertAll (fun name => name) (phaseDistribution measurement)
    measurement.observedTimings.keys ∅
  metrics := OrderedMap.insertAll AspRustScenarioMetricSpec.name
    (fun metric => metric.withObserved (observedMetric measurement metric)) benchmark.metrics ∅
  measurement := some (measurementSection measurement)

/-- A key that the file never has. -/
theorem get?_benchmarkTable_of_notMem {key : String}
    (h : key ∉ (fixedTable benchmark measurement).map Prod.fst)
    (hphase : "phase_distributions" ≠ key) (hmetrics : "metrics" ≠ key) :
    Toml.get? (benchmarkTable benchmark measurement) key = none := by
  rw [benchmarkTable, List.append_assoc, Toml.get?_append_of_notMem h,
    Toml.get?_grouped_append_of_ne hphase, ← List.append_nil (Toml.grouped "metrics" _),
    Toml.get?_grouped_append_of_ne hmetrics]
  rfl

/-- The fields of a contract that the build support never writes. -/
def absentFields : List String :=
  ["bench", "case", "phase", "route_source", "max_provider_process_count", "max_stdout_bytes",
    "fallback_reason", "input_expected_comparison"]

theorem optional_of_mem_absentFields {α : Type} (read : Toml.Value → Option α) {key : String}
    (h : key ∈ absentFields) :
    optional read key (benchmarkTable benchmark measurement) = some none := by
  have hfixed : ∀ key ∈ absentFields, key ∉ (fixedTable benchmark measurement).map Prod.fst := by
    rw [map_fst_fixedTable]
    decide
  have hgroups : ∀ key ∈ absentFields, "phase_distributions" ≠ key ∧ "metrics" ≠ key := by
    decide
  rw [optional, withDefault,
    get?_benchmarkTable_of_notMem (hfixed key h) (hgroups key h).1 (hgroups key h).2]

/-- A group of sections that is missing when it is empty is read as the empty map then. -/
theorem withDefault_grouped {α : Type} {read : Toml.Value → Option α} {key : String}
    {table : Toml.Table} {blocks : List (String × Toml.Table)}
    (h : Toml.get? table key = if blocks = [] then none
      else some (.table (blocks.map fun block => (block.1, .table block.2)))) :
    withDefault ∅ (readMap read) key table =
      readMap read (.table (blocks.map fun block => (block.1, .table block.2))) := by
  rw [withDefault, h]
  by_cases hempty : blocks = []
  · rw [if_pos hempty, hempty]
    rfl
  · rw [if_neg hempty]

theorem readTimings_benchmarkTable {found : OrderedMap String Duration} :
    withDefault ∅ (readMap readDuration) "observed_timings" (benchmarkTable benchmark measurement) =
        some found ↔
      (∀ entry ∈ measurement.observedTimings.entries, entry.2 < 2 ^ 64) ∧
        OrderedMap.insertAll Prod.fst Prod.snd measurement.observedTimings.entries ∅ = found := by
  have hread : withDefault ∅ (readMap readDuration) "observed_timings"
      (benchmarkTable benchmark measurement) =
        readMap readDuration (.table (Toml.tableOf (timingEntries measurement))) := rfl
  rw [hread, timingEntries, Toml.tableOf, List.map_map]
  exact readMap_eq_some_iff fun entry _ found => readDuration_formatDuration

theorem readPhases_benchmarkTable
    {found : OrderedMap String RustScenarioBenchmarkPhaseDistribution} :
    withDefault ∅ (readMap readPhaseDistribution) "phase_distributions"
        (benchmarkTable benchmark measurement) = some found ↔
      (∀ name ∈ measurement.observedTimings.keys, (phaseDistribution measurement name).Fits) ∧
        OrderedMap.insertAll (fun name => name) (phaseDistribution measurement)
          measurement.observedTimings.keys ∅ = found := by
  have hget : Toml.get? (benchmarkTable benchmark measurement) "phase_distributions" =
      if phaseBlocks measurement = [] then none
      else some (.table ((phaseBlocks measurement).map fun block => (block.1, .table block.2))) := by
    rw [benchmarkTable, List.append_assoc,
      Toml.get?_append_of_notMem (by simp [map_fst_fixedTable])]
    refine Toml.get?_grouped_append_self ?_
    rw [← List.append_nil (Toml.grouped "metrics" _), Toml.get?_grouped_append_of_ne (by decide)]
    rfl
  rw [withDefault_grouped hget, phaseBlocks, List.map_map]
  exact readMap_eq_some_iff fun name _ found => readPhaseDistribution_phaseEntries

theorem readMetrics_benchmarkTable :
    withDefault ∅ (readMap readMetric) "metrics" (benchmarkTable benchmark measurement) =
      some (OrderedMap.insertAll AspRustScenarioMetricSpec.name
        (fun metric => metric.withObserved (observedMetric measurement metric))
        benchmark.metrics ∅) := by
  have hget : Toml.get? (benchmarkTable benchmark measurement) "metrics" =
      if metricBlocks benchmark measurement = [] then none
      else some (.table ((metricBlocks benchmark measurement).map fun block =>
        (block.1, .table block.2))) := by
    rw [benchmarkTable, List.append_assoc,
      Toml.get?_append_of_notMem (by simp [map_fst_fixedTable]),
      Toml.get?_grouped_append_of_ne (by decide), ← List.append_nil (Toml.grouped "metrics" _)]
    exact Toml.get?_grouped_append_self rfl
  rw [withDefault_grouped hget, metricBlocks, List.map_map]
  have hread : ∀ metric ∈ benchmark.metrics, ∀ found,
      readMetric (.table (Toml.tableOf
        (metricEntries metric (observedMetric measurement metric)))) = some found ↔
        True ∧ metric.withObserved (observedMetric measurement metric) = found := by
    intro metric _ found
    rw [readMetric_metricEntries, Option.some.injEq, true_and]
  exact (readMap_eq_some_iff hread).mpr ⟨fun metric _ => trivial, rfl⟩

/-- All durations of a measurement fit. -/
structure DurationsFit (measurement : AspRustScenarioMeasurement) : Prop where
  observedTotal : measurement.observedTotal < 2 ^ 64
  totalP50 : measurement.totalP50 < 2 ^ 64
  totalP95 : measurement.totalP95 < 2 ^ 64
  totalP99 : measurement.totalP99 < 2 ^ 64
  totalMax : measurement.totalMax < 2 ^ 64
  phases : ∀ name ∈ measurement.observedTimings.keys, (phaseDistribution measurement name).Fits

/-- The timing of a phase is one of its four durations. -/
theorem DurationsFit.timing (h : DurationsFit measurement) :
    ∀ entry ∈ measurement.observedTimings.entries, entry.2 < 2 ^ 64 := by
  rintro ⟨name, duration⟩ hentry
  have hget : measurement.observedTimings.get? name = some duration :=
    OrderedMap.get?_eq_some_iff.mpr hentry
  have hfits := (h.phases name (OrderedMap.mem_keys_iff.mpr ⟨duration, hget⟩)).p95
  have htiming : (phaseDistribution measurement name).p95 = duration := by
    change (measurement.observedTimings.get? name).getD 0 = duration
    rw [hget]
    rfl
  rwa [htiming] at hfits

/-- The runner writes no field that the contract does not know. -/
theorem readContract_eq_readContractFields :
    readContract (benchmarkTable benchmark measurement) =
      readContractFields (benchmarkTable benchmark measurement) := by
  have hfixed : (fixedTable benchmark measurement).map Prod.fst ⊆ contractFields := by
    rw [map_fst_fixedTable]
    decide
  have hknown : ∀ entry ∈ benchmarkTable benchmark measurement, entry.1 ∈ contractFields := by
    intro entry hentry
    rw [benchmarkTable, List.mem_append, List.mem_append] at hentry
    rcases hentry with (hentry | hentry) | hentry
    · exact hfixed (List.mem_map_of_mem hentry)
    · rw [Toml.fst_of_mem_grouped hentry]
      decide
    · rw [Toml.fst_of_mem_grouped hentry]
      decide
  rw [readContract, readStruct, if_pos hknown]

/-- **What is read from the table of the benchmark file.** -/
theorem readContract_benchmarkTable {contract : RustScenarioBenchmarkContract} :
    readContract (benchmarkTable benchmark measurement) = some contract ↔
      ∃ targetTotal maxTotal regressionBudget,
        (parseRustScenarioBenchmarkDuration benchmark.targetTotal = .ok targetTotal ∧
          parseRustScenarioBenchmarkDuration benchmark.maxTotal = .ok maxTotal ∧
          parseRustScenarioBenchmarkDuration benchmark.regressionBudget = .ok regressionBudget) ∧
        DurationsFit measurement ∧
        measuredContract benchmark measurement targetTotal maxTotal regressionBudget =
          contract := by
  have hread : readContractFields (benchmarkTable benchmark measurement) = (do
      return {
        harness := ← some benchmark.harness
        test := ← some (some benchmark.test)
        bench := ← optional readString "bench" (benchmarkTable benchmark measurement)
        case := ← optional readString "case" (benchmarkTable benchmark measurement)
        snapshot := ← some (some benchmark.snapshot)
        phase := ← optional readPhase "phase" (benchmarkTable benchmark measurement)
        targetTotal := ← readDuration (.string benchmark.targetTotal)
        maxTotal := ← readDuration (.string benchmark.maxTotal)
        observedTotal := ← readDuration (.string (formatDuration measurement.observedTotal))
        regressionBudget := ← readDuration (.string benchmark.regressionBudget)
        memoryBudgetBytes := ← readU64 (.integer benchmark.memoryBudgetBytes.val)
        observedMemoryBytes := ← readU64 (.integer measurement.observedMemoryBytes.val)
        routeSource := ← optional readString "route_source" (benchmarkTable benchmark measurement)
        maxProviderProcessCount := ← optional (readUnsigned 32) "max_provider_process_count"
          (benchmarkTable benchmark measurement)
        maxStdoutBytes := ← optional readU64 "max_stdout_bytes"
          (benchmarkTable benchmark measurement)
        fallbackReason := ← optional readString "fallback_reason"
          (benchmarkTable benchmark measurement)
        targetRationale := ← some benchmark.targetRationale
        inputExpectedComparison := ← optional readComparison "input_expected_comparison"
          (benchmarkTable benchmark measurement)
        observedTimings := ← withDefault ∅ (readMap readDuration) "observed_timings"
          (benchmarkTable benchmark measurement)
        phaseDistributions := ← withDefault ∅ (readMap readPhaseDistribution)
          "phase_distributions" (benchmarkTable benchmark measurement)
        metrics := ← withDefault ∅ (readMap readMetric) "metrics"
          (benchmarkTable benchmark measurement)
        measurement := ← (readMeasurement (.table
          (Toml.tableOf (measurementEntries measurement)))).map some }) := rfl
  rw [readContract_eq_readContractFields, hread]
  -- the fields that the runner never writes are absent
  rw [optional_of_mem_absentFields readString (by decide : "bench" ∈ absentFields),
    optional_of_mem_absentFields readString (by decide : "case" ∈ absentFields),
    optional_of_mem_absentFields readPhase (by decide : "phase" ∈ absentFields),
    optional_of_mem_absentFields readString (by decide : "route_source" ∈ absentFields),
    optional_of_mem_absentFields (readUnsigned 32)
      (by decide : "max_provider_process_count" ∈ absentFields),
    optional_of_mem_absentFields readU64 (by decide : "max_stdout_bytes" ∈ absentFields),
    optional_of_mem_absentFields readString (by decide : "fallback_reason" ∈ absentFields),
    optional_of_mem_absentFields readComparison
      (by decide : "input_expected_comparison" ∈ absentFields), readMetrics_benchmarkTable]
  simp only [readU64_val, Option.bind_eq_bind, Option.bind_some, Option.bind_eq_some_iff,
    Option.map_eq_some_iff, readDuration_formatDuration, readTimings_benchmarkTable,
    readPhases_benchmarkTable, readMeasurement_measurementEntries, Option.pure_def,
    Option.some.injEq]
  simp only [readDuration_string]
  constructor
  · rintro ⟨targetTotal, htarget, maxTotal, hmax, _, ⟨htotal, rfl⟩, regressionBudget, hbudget, _,
      ⟨-, rfl⟩, _, ⟨hphases, rfl⟩, _, ⟨_, ⟨⟨h50, h95, h99, hmost⟩, rfl⟩, rfl⟩, rfl⟩
    exact ⟨targetTotal, maxTotal, regressionBudget, ⟨htarget, hmax, hbudget⟩,
      ⟨htotal, h50, h95, h99, hmost, hphases⟩, rfl⟩
  · rintro ⟨targetTotal, maxTotal, regressionBudget, ⟨htarget, hmax, hbudget⟩, hfit, rfl⟩
    exact ⟨targetTotal, htarget, maxTotal, hmax, _, ⟨hfit.observedTotal, rfl⟩, regressionBudget,
      hbudget, _, ⟨hfit.timing, rfl⟩, _, ⟨hfit.phases, rfl⟩, _,
      ⟨_, ⟨⟨hfit.totalP50, hfit.totalP95, hfit.totalP99, hfit.totalMax⟩, rfl⟩, rfl⟩, rfl⟩

/-! ## The text

Up to here a document is a list of entries.  Its text is read back by a parser if the
document is plain: names are bare keys and no text has a control character.  Both are
conditions on the benchmark and the measurement, since each of their texts is the value
of an entry. -/

variable (benchmark) in
/-- The texts of a benchmark that the file has. -/
def writtenTexts : List String :=
  [benchmark.harness, benchmark.test, benchmark.snapshot, benchmark.targetTotal,
    benchmark.maxTotal, benchmark.regressionBudget, benchmark.targetRationale] ++
    benchmark.metrics.map AspRustScenarioMetricSpec.unit

variable (benchmark measurement) in
/-- The numbers that the file has. -/
def writtenNumbers : List U64 :=
  [benchmark.memoryBudgetBytes, measurement.observedMemoryBytes, measurement.warmupIterations,
    measurement.measureIterations] ++
    benchmark.metrics.flatMap fun metric =>
      metric.target.toList ++ [observedMetric measurement metric]

variable (benchmark measurement) in
/-- The names of phases and metrics can be keys without quotes. -/
structure BareNames : Prop where
  phases : ∀ name ∈ measurement.observedTimings.keys, Toml.IsBare name
  metrics : ∀ metric ∈ benchmark.metrics, Toml.IsBare metric.name

theorem entries_benchmarkDocument :
    (benchmarkDocument benchmark measurement).entries =
      rootEntries benchmark measurement ++ (measurementEntries measurement ++
        (timingEntries measurement ++
          ((measurement.observedTimings.keys.flatMap fun name =>
            phaseEntries (phaseDistribution measurement name)) ++
          benchmark.metrics.flatMap fun metric =>
            metricEntries metric (observedMetric measurement metric)))) := by
  simp [Toml.Document.entries, benchmarkDocument, List.flatMap_map]

theorem integers_metricEntries (metric : AspRustScenarioMetricSpec) (observed : U64) :
    (metricEntries metric observed).filterMap (fun entry => entry.2.integer?) =
      (metric.target.toList ++ [observed]).map Fin.val := by
  cases htarget : metric.target with
  | none => simp [metricEntries, htarget, Toml.Scalar.integer?]
  | some target => simp [metricEntries, htarget, Toml.Scalar.integer?]

theorem integers_benchmarkDocument :
    (benchmarkDocument benchmark measurement).integers =
      (writtenNumbers benchmark measurement).map Fin.val := by
  have htimings : (timingEntries measurement).filterMap (fun entry => entry.2.integer?) = [] := by
    simp [timingEntries, durationEntry, Toml.Scalar.integer?]
  have hphases : (measurement.observedTimings.keys.flatMap fun name =>
      phaseEntries (phaseDistribution measurement name)).filterMap
        (fun entry => entry.2.integer?) = [] := by
    simp [List.filterMap_flatMap, phaseEntries, durationEntry, Toml.Scalar.integer?]
  rw [Toml.Document.integers, entries_benchmarkDocument, List.filterMap_append,
    List.filterMap_append, List.filterMap_append, List.filterMap_append, htimings, hphases,
    List.filterMap_flatMap]
  simp only [integers_metricEntries]
  rw [writtenNumbers, List.map_append, List.map_flatMap]
  rfl

theorem printable_formatDuration (duration : Duration) :
    ∀ c ∈ (formatDuration duration).toList, Toml.isForbidden c = false := by
  have hdigit : ∀ c : Char, c.isDigit = true → Toml.isForbidden c = false := by
    intro c hc
    simp only [Char.isDigit, Bool.and_eq_true, decide_eq_true_eq, UInt32.le_iff_toNat_le] at hc
    have hlow : 48 ≤ c.toNat := hc.1
    have hhigh : c.toNat ≤ 57 := hc.2
    simp [Toml.isForbidden]
    omega
  have hamount : ∀ (n : ℕ) (unit : String), (∀ c ∈ unit.toList, Toml.isForbidden c = false) →
      ∀ c ∈ (toString n ++ unit).toList, Toml.isForbidden c = false := by
    intro n unit hunit c hc
    rw [String.toList_append, List.mem_append] at hc
    rcases hc with hc | hc
    · have hmem : c ∈ Nat.toDigits 10 n := by simpa using hc
      exact hdigit c (Nat.isDigit_of_mem_toDigits (by decide) (by decide) hmem)
    · exact hunit c hc
  unfold formatDuration
  split
  · exact hamount _ _ (Toml.forall_isForbidden_eq_false (by decide))
  · split
    · exact hamount _ _ (Toml.forall_isForbidden_eq_false (by decide))
    · exact hamount _ _ (Toml.forall_isForbidden_eq_false (by decide))

theorem keys_benchmarkDocument (hnames : BareNames benchmark measurement) :
    ∀ entry ∈ (benchmarkDocument benchmark measurement).entries, Toml.IsBare entry.1 := by
  have hroot : ∀ key ∈ (rootEntries benchmark measurement).map Prod.fst, Toml.IsBare key := by
    change ∀ key ∈ ["harness", "test", "snapshot", "target_total", "max_total", "observed_total",
      "regression_budget", "memory_budget_bytes", "observed_memory_bytes", "target_rationale"], _
    decide
  have hmeasurement : ∀ key ∈ (measurementEntries measurement).map Prod.fst, Toml.IsBare key := by
    change ∀ key ∈ ["clock", "statistic", "warmup_iterations", "measure_iterations", "total_p50",
      "total_p95", "total_p99", "total_max"], _
    decide
  have hphase : ∀ key ∈ ["p50", "p95", "p99", "max"], Toml.IsBare key := by decide
  have hmetric : ∀ key ∈ ["unit", "kind", "target", "observed"], Toml.IsBare key := by decide
  intro entry hentry
  rw [entries_benchmarkDocument] at hentry
  simp only [List.mem_append, List.mem_flatMap] at hentry
  rcases hentry with hentry | hentry | hentry | ⟨name, -, hentry⟩ | ⟨metric, -, hentry⟩
  · exact hroot _ (List.mem_map_of_mem hentry)
  · exact hmeasurement _ (List.mem_map_of_mem hentry)
  · refine hnames.phases _ ?_
    rw [← map_fst_timingEntries]
    exact List.mem_map_of_mem hentry
  · exact hphase _ (List.mem_map_of_mem (f := Prod.fst) hentry)
  · refine hmetric _ ?_
    have hkey := List.mem_map_of_mem (f := Prod.fst) hentry
    cases htarget : metric.target with
    | none =>
        simp only [metricEntries, htarget] at hkey
        simp at hkey ⊢
        tauto
    | some target =>
        simp only [metricEntries, htarget] at hkey
        simp at hkey ⊢
        tauto

/-- No text of the benchmark has a control character. -/
def PrintableTexts (benchmark : AspRustScenarioBenchmarkSpec) : Prop :=
  ∀ text ∈ writtenTexts benchmark, ∀ c ∈ text.toList, Toml.isForbidden c = false

theorem printable_of_mem_metricEntries {metric : AspRustScenarioMetricSpec} {observed : U64}
    (hunit : ∀ c ∈ metric.unit.toList, Toml.isForbidden c = false) :
    ∀ entry ∈ metricEntries metric observed, entry.2.Printable := by
  have hkind : ∀ c ∈ metric.kind.asStr.toList, Toml.isForbidden c = false := by
    refine Toml.forall_isForbidden_eq_false ?_
    cases metric.kind <;> decide
  intro entry hentry
  rw [metricEntries, List.mem_append, List.mem_append] at hentry
  rcases hentry with (hentry | hentry) | hentry
  · rcases List.mem_pair.mp hentry with rfl | rfl
    · exact hunit
    · exact hkind
  · obtain ⟨target, -, rfl⟩ := List.mem_map.mp hentry
    trivial
  · rw [List.mem_singleton.mp hentry]
    trivial

theorem printable_of_mem_rootEntries (hprintable : PrintableTexts benchmark) :
    ∀ entry ∈ rootEntries benchmark measurement, entry.2.Printable := by
  simp only [rootEntries, List.forall_mem_cons, durationEntry, Toml.Scalar.Printable]
  refine ⟨hprintable _ ?_, hprintable _ ?_, hprintable _ ?_, hprintable _ ?_, hprintable _ ?_,
    printable_formatDuration _, hprintable _ ?_, trivial, trivial, hprintable _ ?_, ?_⟩
  all_goals simp [writtenTexts]

theorem printable_of_mem_measurementEntries (h : Measured benchmark measurement) :
    ∀ entry ∈ measurementEntries measurement, entry.2.Printable := by
  simp only [measurementEntries, List.forall_mem_cons, durationEntry, Toml.Scalar.Printable,
    h.clock, h.statistic]
  refine ⟨Toml.forall_isForbidden_eq_false (by decide), Toml.forall_isForbidden_eq_false (by decide),
    trivial, trivial, printable_formatDuration _, printable_formatDuration _,
    printable_formatDuration _, printable_formatDuration _, ?_⟩
  simp

theorem printable_of_mem_phaseEntries (distribution : RustScenarioBenchmarkPhaseDistribution) :
    ∀ entry ∈ phaseEntries distribution, entry.2.Printable := by
  simp only [phaseEntries, List.forall_mem_cons, durationEntry, Toml.Scalar.Printable]
  refine ⟨printable_formatDuration _, printable_formatDuration _, printable_formatDuration _,
    printable_formatDuration _, ?_⟩
  simp

/-- With bare names and printable texts the document is plain. -/
theorem plain_benchmarkDocument (h : Measured benchmark measurement)
    (hnames : BareNames benchmark measurement) (hprintable : PrintableTexts benchmark) :
    (benchmarkDocument benchmark measurement).Plain where
  keys := keys_benchmarkDocument hnames
  strings := by
    intro entry hentry
    rw [entries_benchmarkDocument] at hentry
    simp only [List.mem_append, List.mem_flatMap] at hentry
    rcases hentry with hentry | hentry | hentry | ⟨name, -, hentry⟩ | ⟨metric, hmetric, hentry⟩
    · exact printable_of_mem_rootEntries hprintable entry hentry
    · exact printable_of_mem_measurementEntries h entry hentry
    · obtain ⟨timing, -, rfl⟩ := List.mem_map.mp hentry
      exact printable_formatDuration timing.2
    · exact printable_of_mem_phaseEntries _ entry hentry
    · refine printable_of_mem_metricEntries (hprintable _ ?_) entry hentry
      exact List.mem_append_right _ (List.mem_map_of_mem hmetric)
  paths := by
    have hmeasurement : ∀ key ∈ ["measurement"], Toml.IsBare key := by decide
    have htimings : ∀ key ∈ ["observed_timings"], Toml.IsBare key := by decide
    intro part hpart
    simp only [benchmarkDocument, List.mem_append, List.mem_map, List.mem_cons,
      List.not_mem_nil, or_false] at hpart
    rcases hpart with ((rfl | rfl) | ⟨name, hname, rfl⟩) | ⟨metric, hmetric, rfl⟩
    · exact ⟨List.cons_ne_nil _ _, hmeasurement⟩
    · exact ⟨List.cons_ne_nil _ _, htimings⟩
    · refine ⟨List.cons_ne_nil _ _, ?_⟩
      simp only [List.forall_mem_cons]
      exact ⟨by decide, hnames.phases name hname, by simp⟩
    · refine ⟨List.cons_ne_nil _ _, ?_⟩
      simp only [List.forall_mem_cons]
      exact ⟨by decide, hnames.metrics metric hmetric, by simp⟩

/-- Every text of the benchmark is the value of an entry. -/
theorem exists_entry_of_mem_writtenTexts {text : String} (htext : text ∈ writtenTexts benchmark) :
    ∃ key, (key, .string text) ∈ (benchmarkDocument benchmark measurement).entries := by
  rw [entries_benchmarkDocument]
  rw [writtenTexts, List.mem_append] at htext
  rcases htext with htext | htext
  · have hroot : ∃ key, (key, .string text) ∈ rootEntries benchmark measurement := by
      simp only [List.mem_cons, List.not_mem_nil, or_false] at htext
      rcases htext with rfl | rfl | rfl | rfl | rfl | rfl | rfl
      · exact ⟨"harness", by simp [rootEntries]⟩
      · exact ⟨"test", by simp [rootEntries]⟩
      · exact ⟨"snapshot", by simp [rootEntries]⟩
      · exact ⟨"target_total", by simp [rootEntries]⟩
      · exact ⟨"max_total", by simp [rootEntries]⟩
      · exact ⟨"regression_budget", by simp [rootEntries]⟩
      · exact ⟨"target_rationale", by simp [rootEntries]⟩
    obtain ⟨key, hkey⟩ := hroot
    exact ⟨key, List.mem_append_left _ hkey⟩
  · obtain ⟨metric, hmetric, rfl⟩ := List.mem_map.mp htext
    refine ⟨"unit", ?_⟩
    simp only [List.mem_append, List.mem_flatMap]
    exact Or.inr (Or.inr (Or.inr (Or.inr ⟨metric, hmetric, by simp [metricEntries]⟩)))

/-! ## The round trip

One direction puts the lemmas together.  For the other, a file that was read back shows
that its texts are printable, its numbers fit and its budgets are durations: the parser,
by its specification, accepts nothing else of a rendered document, and the contract
reader refuses a budget that it cannot read. -/

/-- The parser can represent the numbers of the file. -/
def NumbersFit (reader : Toml.Reader) (benchmark : AspRustScenarioBenchmarkSpec)
    (measurement : AspRustScenarioMeasurement) : Prop :=
  ∀ value ∈ writtenNumbers benchmark measurement, value.val ≤ reader.limit

/-- **When the parser accepts the file.** -/
theorem read_benchmarkDocument (reader : Toml.Reader) (h : Measured benchmark measurement)
    (hnames : BareNames benchmark measurement) {table : Toml.Table} :
    reader.read (benchmarkDocument benchmark measurement).text = some table ↔
      (PrintableTexts benchmark ∧ NumbersFit reader benchmark measurement) ∧
        benchmarkTable benchmark measurement = table := by
  have hintegers : (∀ value ∈ (benchmarkDocument benchmark measurement).integers,
      value ≤ reader.limit) ↔ NumbersFit reader benchmark measurement := by
    rw [integers_benchmarkDocument, List.forall_mem_map]
    rfl
  by_cases hprintable : PrintableTexts benchmark
  · have hplain := plain_benchmarkDocument h hnames hprintable
    by_cases hfit : NumbersFit reader benchmark measurement
    · rw [reader.read_plain hplain (hintegers.mpr hfit) (table_benchmarkDocument h),
        Option.some.injEq, and_iff_right ⟨hprintable, hfit⟩]
    · have hlarge : ∃ value ∈ (benchmarkDocument benchmark measurement).integers,
          reader.limit < value := by
        by_contra hnone
        push Not at hnone
        exact hfit (hintegers.mp hnone)
      -- a number above the limit makes the reader refuse the whole text
      rw [reader.read_large hplain hlarge]
      simp [hfit]
  · have hforbidden : ∃ c ∈ (benchmarkDocument benchmark measurement).text,
        Toml.isForbidden c = true := by
      simp only [PrintableTexts, not_forall, Bool.not_eq_false] at hprintable
      obtain ⟨text, htext, c, hc, hforbidden⟩ := hprintable
      obtain ⟨key, hentry⟩ := exists_entry_of_mem_writtenTexts htext
      exact ⟨c, Toml.Document.forbidden_mem_text hentry hc hforbidden, hforbidden⟩
    -- a control character is written as it is, and then refused
    rw [reader.read_forbidden hforbidden]
    simp [hprintable]

variable (benchmark measurement) in
/-- A contract has what was measured. -/
structure Agrees (contract : RustScenarioBenchmarkContract) : Prop where
  observedTotal : contract.observedTotal = measurement.observedTotal
  memoryBudgetBytes : contract.memoryBudgetBytes = benchmark.memoryBudgetBytes
  observedMemoryBytes : contract.observedMemoryBytes = measurement.observedMemoryBytes
  totals : contract.measurement = some (measurementSection measurement)
  observedTimings : contract.observedTimings = measurement.observedTimings
  phaseDistributions : ∀ name distribution,
    contract.phaseDistributions.get? name = some distribution ↔
      measurement.timingP50.get? name = some distribution.p50 ∧
      measurement.observedTimings.get? name = some distribution.p95 ∧
      measurement.timingP99.get? name = some distribution.p99 ∧
      measurement.timingMax.get? name = some distribution.max
  metrics : ∀ metric ∈ benchmark.metrics, ∃ observed,
    measurement.metrics.get? metric.name = some observed ∧
      contract.metrics.get? metric.name = some (metric.withObserved observed)
  metricNames : contract.metrics.keys = measurement.metrics.keys

/-- The distribution of a phase has its four timings. -/
theorem get?_phaseDistributions (h : Measured benchmark measurement) (name : String)
    (distribution : RustScenarioBenchmarkPhaseDistribution) :
    (OrderedMap.insertAll (fun name => name) (phaseDistribution measurement)
        measurement.observedTimings.keys ∅).get? name = some distribution ↔
      measurement.timingP50.get? name = some distribution.p50 ∧
      measurement.observedTimings.get? name = some distribution.p95 ∧
      measurement.timingP99.get? name = some distribution.p99 ∧
      measurement.timingMax.get? name = some distribution.max := by
  have htiming : ∀ {timings : OrderedMap String Duration} {duration : Duration},
      timings.get? name = some duration → timing timings name = duration := by
    intro timings duration hget
    rw [timing, hget]
    rfl
  have hpresent : ∀ {timings : OrderedMap String Duration}, name ∈ timings.keys →
      timings.get? name = some (timing timings name) := by
    intro timings hname
    obtain ⟨duration, hduration⟩ := OrderedMap.mem_keys_iff.mp hname
    rw [htiming hduration, hduration]
  constructor
  · intro hget
    rcases OrderedMap.exists_of_get?_insertAll _ _ hget with hempty | ⟨_, hname, rfl, rfl⟩
    · cases hempty
    · exact ⟨hpresent (h.p50_keys ▸ hname), hpresent hname, hpresent (h.p99_keys ▸ hname),
        hpresent (h.max_keys ▸ hname)⟩
  · rintro ⟨h50, h95, h99, hmax⟩
    -- all four maps have the names of the observed timings
    have hname : name ∈ measurement.observedTimings.keys := OrderedMap.mem_keys_iff.mpr ⟨_, h95⟩
    have hdistribution : phaseDistribution measurement name = distribution := by
      rw [phaseDistribution, htiming h50, htiming h95, htiming h99, htiming hmax]
    rw [← hdistribution]
    refine OrderedMap.get?_insertAll (fun name => name) _ hname ?_ ∅
    rintro other - rfl
    rfl

theorem agrees_measuredContract (h : Measured benchmark measurement)
    (targetTotal maxTotal regressionBudget : Duration) :
    Agrees benchmark measurement
      (measuredContract benchmark measurement targetTotal maxTotal regressionBudget) where
  observedTotal := rfl
  memoryBudgetBytes := rfl
  observedMemoryBytes := rfl
  totals := rfl
  observedTimings := OrderedMap.insertAll_entries _
  phaseDistributions := get?_phaseDistributions h
  metrics := by
    intro metric hmetric
    obtain ⟨observed, hobserved⟩ := OrderedMap.mem_keys_iff.mp (h.observed metric hmetric)
    have hvalue : observedMetric measurement metric = observed := by
      rw [observedMetric, hobserved]
      rfl
    refine ⟨observed, hobserved, ?_⟩
    rw [← hvalue]
    refine OrderedMap.get?_insertAll AspRustScenarioMetricSpec.name _ hmetric ?_ ∅
    intro other hother hname
    rw [List.inj_on_of_nodup_map h.nodup_names hother hmetric hname]
  metricNames := by
    refine OrderedMap.keys_ext fun name => ?_
    rw [measuredContract, OrderedMap.mem_keys_insertAll]
    constructor
    · rintro (hempty | ⟨metric, hmetric, rfl⟩)
      · cases hempty
      · exact h.observed metric hmetric
    · intro hname
      exact Or.inr (h.registered name hname)

/-- The file of a measurement is read, and as what was measured. -/
def RoundTrips (reader : Toml.Reader) (scenario : AspRustScenario)
    (benchmark : AspRustScenarioBenchmarkSpec) (measurement : AspRustScenarioMeasurement) : Prop :=
  ∃ text contract, renderAspRustScenarioBenchmarkToml scenario measurement = .ok text ∧
    contractFromToml reader text = some contract ∧ Agrees benchmark measurement contract

/-- What the contract reader demands of the texts, numbers and durations of the file. -/
structure Legible (reader : Toml.Reader) (benchmark : AspRustScenarioBenchmarkSpec)
    (measurement : AspRustScenarioMeasurement) : Prop where
  texts : PrintableTexts benchmark
  numbers : NumbersFit reader benchmark measurement
  budgets : ∀ text ∈ [benchmark.targetTotal, benchmark.maxTotal, benchmark.regressionBudget],
    ∃ duration, parseRustScenarioBenchmarkDuration text = .ok duration
  durations : DurationsFit measurement

end Sections

theorem roundTrips_iff_legible (reader : Toml.Reader) {scenario : AspRustScenario}
    {benchmark : AspRustScenarioBenchmarkSpec} {measurement : AspRustScenarioMeasurement}
    (hbenchmark : scenario.benchmark = some benchmark) (hmeasured : Measured benchmark measurement)
    (hnames : BareNames benchmark measurement) :
    RoundTrips reader scenario benchmark measurement ↔ Legible reader benchmark measurement := by
  have hcontract : ∀ contract, contractFromToml reader
      (String.ofList (benchmarkDocument benchmark measurement).text) = some contract ↔
        (PrintableTexts benchmark ∧ NumbersFit reader benchmark measurement) ∧
          readContract (benchmarkTable benchmark measurement) = some contract := by
    intro contract
    simp only [contractFromToml, String.toList_ofList, Option.bind_eq_some_iff,
      read_benchmarkDocument reader hmeasured hnames, and_assoc, exists_and_left, exists_eq_left']
  constructor
  · rintro ⟨text, contract, hrender, hread, -⟩
    rw [render_eq_ok hbenchmark hmeasured] at hrender
    obtain rfl := Except.ok.inj hrender
    obtain ⟨⟨htexts, hnumbers⟩, htable⟩ := (hcontract contract).mp hread
    obtain ⟨_, _, _, ⟨htarget, hmax, hbudget⟩, hdurations, -⟩ :=
      readContract_benchmarkTable.mp htable
    refine ⟨htexts, hnumbers, ?_, hdurations⟩
    simp only [List.forall_mem_cons]
    exact ⟨⟨_, htarget⟩, ⟨_, hmax⟩, ⟨_, hbudget⟩, by simp⟩
  · rintro ⟨htexts, hnumbers, hbudgets, hdurations⟩
    obtain ⟨targetTotal, htarget⟩ := hbudgets _ (by simp : benchmark.targetTotal ∈ _)
    obtain ⟨maxTotal, hmax⟩ := hbudgets _ (by simp : benchmark.maxTotal ∈ _)
    obtain ⟨regressionBudget, hbudget⟩ := hbudgets _ (by simp : benchmark.regressionBudget ∈ _)
    refine ⟨_, measuredContract benchmark measurement targetTotal maxTotal regressionBudget,
      render_eq_ok hbenchmark hmeasured, ?_, agrees_measuredContract hmeasured _ _ _⟩
    refine (hcontract _).mpr ⟨⟨htexts, hnumbers⟩, ?_⟩
    exact readContract_benchmarkTable.mpr
      ⟨_, _, _, ⟨htarget, hmax, hbudget⟩, hdurations, rfl⟩

/-- **The file of a measurement is read back if and only if it is legible.**  Names of phases
and metrics are written without quotes, so they have to be bare keys. -/
theorem benchmark_roundTrips_iff (reader : Toml.Reader) {scenario : AspRustScenario}
    {benchmark : AspRustScenarioBenchmarkSpec} {runs : Runs}
    {measurement : AspRustScenarioMeasurement} (hbenchmark : scenario.benchmark = some benchmark)
    (hmeasure : measureAspRustScenario scenario runs = .ok measurement)
    (hnames : BareNames benchmark measurement) :
    RoundTrips reader scenario benchmark measurement ↔ Legible reader benchmark measurement :=
  roundTrips_iff_legible reader hbenchmark (measured_of_measure hbenchmark hmeasure) hnames

/-! ### A benchmark with one phase and one metric -/

/-- A benchmark of one metric. -/
def startupBenchmark (targetRationale : String) : AspRustScenarioBenchmarkSpec where
  harness := "cargo-test"
  test := "startup"
  snapshot := "startup.snap"
  targetTotal := "2ms"
  maxTotal := "1.5s"
  regressionBudget := "100us"
  memoryBudgetBytes := 4096
  targetRationale := targetRationale
  warmupIterations := 1
  measureIterations := 1
  metrics := [⟨"rows", "count", .exact, some 7⟩]

def startupScenario (targetRationale : String) : AspRustScenario :=
  ⟨"startup", some (startupBenchmark targetRationale)⟩

/-- Each run takes a millisecond and a half. -/
def startupRuns : Runs := fun _ =>
  (1500000, { memoryBytes := 2048
              phaseTimings := ⟨[("parse", 1000000)], by simp⟩
              metrics := ⟨[("rows", 7)], by simp⟩ })

def startupMeasurement : AspRustScenarioMeasurement where
  observedTotal := 1500000
  totalP50 := 1500000
  totalP95 := 1500000
  totalP99 := 1500000
  totalMax := 1500000
  observedMemoryBytes := 2048
  observedTimings := ⟨[("parse", 1000000)], by simp⟩
  timingP50 := ⟨[("parse", 1000000)], by simp⟩
  timingP99 := ⟨[("parse", 1000000)], by simp⟩
  timingMax := ⟨[("parse", 1000000)], by simp⟩
  metrics := ⟨[("rows", 7)], by simp⟩
  clock := "std::time::Instant"
  statistic := "p95"
  warmupIterations := 1
  measureIterations := 1

theorem measure_startup :
    measureAspRustScenario (startupScenario "local runs") startupRuns =
      .ok startupMeasurement := by
  decide +kernel

theorem bareNames_startup (targetRationale : String) :
    BareNames (startupBenchmark targetRationale) startupMeasurement where
  phases := by decide
  metrics := by
    intro metric hmetric
    rw [List.mem_singleton.mp hmetric]
    decide

theorem legible_startup :
    Legible Toml.plainReader (startupBenchmark "local runs") startupMeasurement where
  texts := by
    have hclean : ∀ text ∈ writtenTexts (startupBenchmark "local runs"),
        text.toList.any Toml.isForbidden = false := by decide +kernel
    intro text htext
    exact Toml.forall_isForbidden_eq_false (hclean text htext)
  numbers := by
    have hsmall : ∀ value ∈ writtenNumbers (startupBenchmark "local runs") startupMeasurement,
        value.val ≤ 4096 := by
      have hnumbers : writtenNumbers (startupBenchmark "local runs") startupMeasurement =
          [4096, 2048, 1, 1, 7, 7] := rfl
      rw [hnumbers]
      simp
    intro value hvalue
    calc value.val ≤ 4096 := hsmall value hvalue
      _ ≤ 2 ^ 63 - 1 := by decide
      _ ≤ Toml.plainReader.limit := Toml.plainReader.limit_ge
  budgets := by
    have htarget : parseRustScenarioBenchmarkDuration "2ms" = .ok 2000000 := by decide +kernel
    have hmax : parseRustScenarioBenchmarkDuration "1.5s" = .ok 1500000000 := by decide +kernel
    have hbudget : parseRustScenarioBenchmarkDuration "100us" = .ok 100000 := by decide +kernel
    simp only [startupBenchmark, List.forall_mem_cons]
    exact ⟨⟨_, htarget⟩, ⟨_, hmax⟩, ⟨_, hbudget⟩, by simp⟩
  durations :=
    { observedTotal := by decide
      totalP50 := by decide
      totalP95 := by decide
      totalP99 := by decide
      totalMax := by decide
      phases := by
        intro name hname
        rw [List.mem_singleton.mp hname]
        exact ⟨by decide +kernel, by decide +kernel, by decide +kernel, by decide +kernel⟩ }

theorem startup_roundTrips :
    RoundTrips Toml.plainReader (startupScenario "local runs") (startupBenchmark "local runs")
      startupMeasurement :=
  (benchmark_roundTrips_iff Toml.plainReader rfl measure_startup (bareNames_startup _)).mpr
    legible_startup

/-- An escape character in the rationale is written as it is, and no parser reads the file. -/
theorem controlCharacter_unread :
    measureAspRustScenario (startupScenario "\x1blocal runs") startupRuns =
        .ok startupMeasurement ∧
      ¬ ∃ reader : Toml.Reader, RoundTrips reader (startupScenario "\x1blocal runs")
        (startupBenchmark "\x1blocal runs") startupMeasurement := by
  have hmeasure : measureAspRustScenario (startupScenario "\x1blocal runs") startupRuns =
      .ok startupMeasurement := by decide +kernel
  refine ⟨hmeasure, ?_⟩
  rintro ⟨reader, htrip⟩
  have hlegible := (roundTrips_iff_legible reader rfl
    (measured_of_measure rfl hmeasure) (bareNames_startup _)).mp htrip
  have hescape := hlegible.texts "\x1blocal runs" (by simp [writtenTexts, startupBenchmark])
    '\x1b' (by decide)
  exact absurd hescape (by decide)

end AspRust.Scenario
