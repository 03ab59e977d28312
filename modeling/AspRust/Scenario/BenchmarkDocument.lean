import AspRust.Scenario.Contract
import AspRust.Scenario.DurationText

/-!
# The benchmark file as a document

The renderer writes the text of a TOML document: the fields of the benchmark, a section for
the measurement, one for the timings, and one for each phase and each metric.  What the
runner promises about a measurement (`Measured`) makes it write all of them.

### What is load-bearing

The renderer indexes its maps by the names of phases and metrics and would panic on a missing one.
`Measured` says that none is missing: the timings, the observations and the declared metrics have
one list of names, which the runner checks run by run (`measured_of_measure`).
-/

namespace AspRust.Scenario

open AspRust.Foundation

/-! ## What the runner promises

A measurement has the names that the renderer indexes its maps by.  The runner returns
none without them. -/

/-- A measurement has four timings for each phase, and a value for each metric of the
benchmark and no other. -/
structure Measured (benchmark : AspRustScenarioBenchmarkSpec)
    (measurement : AspRustScenarioMeasurement) : Prop where
  p50_keys : measurement.timingP50.keys = measurement.observedTimings.keys
  p99_keys : measurement.timingP99.keys = measurement.observedTimings.keys
  max_keys : measurement.timingMax.keys = measurement.observedTimings.keys
  nodup_names : (benchmark.metrics.map AspRustScenarioMetricSpec.name).Nodup
  observed : ∀ spec ∈ benchmark.metrics, spec.name ∈ measurement.metrics.keys
  registered : ∀ name ∈ measurement.metrics.keys, ∃ spec ∈ benchmark.metrics, spec.name = name
  clock : measurement.clock = "std::time::Instant"
  statistic : measurement.statistic = "p95"

/-- What taking the samples of a list of metrics does. -/
theorem foldlM_aggregateMetric {specs : List AspRustScenarioMetricSpec}
    {samples left : OrderedMap String (List U64)} {observations result : OrderedMap String U64}
    (h : specs.foldlM aggregateMetric (samples, observations) = .ok (left, result)) :
    (∀ spec ∈ specs, spec.name ∈ samples.keys) ∧
      (specs.map AspRustScenarioMetricSpec.name).Nodup ∧
      ∀ name, name ∈ result.keys ↔ name ∈ observations.keys ∨ ∃ spec ∈ specs, spec.name = name := by
  induction specs generalizing samples observations with
  | nil =>
      obtain ⟨-, rfl⟩ := Prod.mk.inj (Except.ok.inj h)
      simp
  | cons spec rest ih =>
      rw [List.foldlM_cons] at h
      obtain ⟨⟨remaining, more⟩, hspec, hrest⟩ := Except.bind_eq_ok.mp h
      unfold aggregateMetric at hspec
      split at hspec
      · cases hspec
      · next values hvalues =>
          obtain ⟨observed, -, hpair⟩ := Except.bind_eq_ok.mp hspec
          obtain ⟨rfl, rfl⟩ : samples.erase spec.name = remaining ∧
              observations.insert spec.name observed = more := by
            simpa using Except.ok.inj hpair
          obtain ⟨hmem, hnodup, hkeys⟩ := ih hrest
          have hother : ∀ other ∈ rest, other.name ≠ spec.name ∧ other.name ∈ samples.keys := by
            intro other hmemOther
            obtain ⟨found, hfound⟩ := OrderedMap.mem_keys_iff.mp (hmem other hmemOther)
            rw [OrderedMap.get?_erase] at hfound
            split at hfound
            · cases hfound
            · next hne => exact ⟨hne, OrderedMap.mem_keys_iff.mpr ⟨found, hfound⟩⟩
          refine ⟨?_, ?_, ?_⟩
          · intro other hmemOther
            rcases List.mem_cons.mp hmemOther with rfl | hmemOther
            · exact OrderedMap.mem_keys_iff.mpr ⟨values, hvalues⟩
            · exact (hother other hmemOther).2
          · rw [List.map_cons, List.nodup_cons]
            refine ⟨?_, hnodup⟩
            intro hmemName
            obtain ⟨other, hmemOther, hname⟩ := List.mem_map.mp hmemName
            exact (hother other hmemOther).1 hname
          · intro name
            rw [hkeys, OrderedMap.mem_keys_insert]
            simp only [List.mem_cons, exists_eq_or_imp]
            tauto

theorem keys_of_aggregateMetricObservations {specs : List AspRustScenarioMetricSpec}
    {samples : OrderedMap String (List U64)} {metrics : OrderedMap String U64}
    (h : aggregateMetricObservations specs samples = .ok metrics) :
    (specs.map AspRustScenarioMetricSpec.name).Nodup ∧
      ∀ name, name ∈ metrics.keys ↔ ∃ spec ∈ specs, spec.name = name := by
  obtain ⟨⟨left, observations⟩, hfold, hleft⟩ := Except.bind_eq_ok.mp h
  dsimp only at hleft
  split at hleft
  · cases hleft
  · obtain rfl : observations = metrics := Except.ok.inj hleft
    obtain ⟨-, hnodup, hkeys⟩ := foldlM_aggregateMetric hfold
    exact ⟨hnodup, fun name => by rw [hkeys]; simp⟩

/-- The runs that are measured. -/
def measuredRuns (benchmark : AspRustScenarioBenchmarkSpec) (runs : Runs) :
    List (Duration × AspRustScenarioObservation) :=
  (List.range benchmark.measureIterations.val).map fun index =>
    runs (benchmark.warmupIterations.val + index)

/-- What is returned of the state after all runs. -/
def measurementOf (benchmark : AspRustScenarioBenchmarkSpec) (state : MeasureState)
    (metrics : OrderedMap String U64) : AspRustScenarioMeasurement where
  observedTotal := percentile state.totals 95
  totalP50 := percentile state.totals 50
  totalP95 := percentile state.totals 95
  totalP99 := percentile state.totals 99
  totalMax := percentile state.totals 100
  observedMemoryBytes := state.observedMemoryBytes
  observedTimings := state.phaseSamples.mapValues (percentile · 95)
  timingP50 := state.phaseSamples.mapValues (percentile · 50)
  timingP99 := state.phaseSamples.mapValues (percentile · 99)
  timingMax := state.phaseSamples.mapValues (percentile · 100)
  metrics := metrics
  clock := "std::time::Instant"
  statistic := "p95"
  warmupIterations := benchmark.warmupIterations
  measureIterations := benchmark.measureIterations

/-- What the runner does when it returns a measurement. -/
theorem measure_eq_ok {scenario : AspRustScenario} {benchmark : AspRustScenarioBenchmarkSpec}
    {runs : Runs} {measurement : AspRustScenarioMeasurement}
    (hbenchmark : scenario.benchmark = some benchmark) :
    measureAspRustScenario scenario runs = .ok measurement ↔
      ∃ state metrics, benchmark.measureIterations ≠ 0 ∧
        (measuredRuns benchmark runs).foldlM recordRun {} = .ok state ∧
        percentile state.totals 95 ≠ 0 ∧
        aggregateMetricObservations benchmark.metrics state.metricSamples = .ok metrics ∧
        validateMetricObservations benchmark.metrics metrics = .ok () ∧
        measurementOf benchmark state metrics = measurement := by
  rw [measureAspRustScenario, hbenchmark]
  dsimp only
  constructor
  · intro h
    split at h
    · cases h
    · next hiterations =>
        obtain ⟨state, hstate, h⟩ := Except.bind_eq_ok.mp h
        split at h
        · cases h
        · next htotal =>
            obtain ⟨metrics, hmetrics, h⟩ := Except.bind_eq_ok.mp h
            obtain ⟨_, hvalid, h⟩ := Except.bind_eq_ok.mp h
            exact ⟨state, metrics, hiterations, hstate, htotal, hmetrics, hvalid, Except.ok.inj h⟩
  · rintro ⟨state, metrics, hiterations, hstate, htotal, hmetrics, hvalid, rfl⟩
    rw [if_neg hiterations]
    refine Except.bind_eq_ok.mpr ⟨state, hstate, ?_⟩
    rw [if_neg htotal]
    refine Except.bind_eq_ok.mpr ⟨metrics, hmetrics, ?_⟩
    exact Except.bind_eq_ok.mpr ⟨(), hvalid, rfl⟩

theorem measured_of_measure {scenario : AspRustScenario}
    {benchmark : AspRustScenarioBenchmarkSpec} {runs : Runs}
    {measurement : AspRustScenarioMeasurement} (hbenchmark : scenario.benchmark = some benchmark)
    (h : measureAspRustScenario scenario runs = .ok measurement) :
    Measured benchmark measurement := by
  obtain ⟨state, metrics, -, -, -, hmetrics, -, rfl⟩ := (measure_eq_ok hbenchmark).mp h
  obtain ⟨hnodup, hkeys⟩ := keys_of_aggregateMetricObservations hmetrics
  exact
    { p50_keys := by simp [measurementOf]
      p99_keys := by simp [measurementOf]
      max_keys := by simp [measurementOf]
      nodup_names := hnodup
      observed := fun spec hspec => (hkeys spec.name).mpr ⟨spec, hspec, rfl⟩
      registered := fun name hname => (hkeys name).mp hname
      clock := rfl
      statistic := rfl }

/-! ## The document

The lines of the file as a document: the entries of each section, in their order. -/

section Document

variable (benchmark : AspRustScenarioBenchmarkSpec) (measurement : AspRustScenarioMeasurement)

/-- The timing of a phase. -/
def timing (timings : OrderedMap String Duration) (name : String) : Duration :=
  (timings.get? name).getD 0

/-- The four timings of a phase. -/
def phaseDistribution (name : String) : RustScenarioBenchmarkPhaseDistribution where
  p50 := timing measurement.timingP50 name
  p95 := timing measurement.observedTimings name
  p99 := timing measurement.timingP99 name
  max := timing measurement.timingMax name

/-- An entry for a duration. -/
def durationEntry (key : String) (duration : Duration) : String × Toml.Scalar :=
  (key, .string (formatDuration duration))

def rootEntries : List (String × Toml.Scalar) :=
  [("harness", .string benchmark.harness), ("test", .string benchmark.test),
    ("snapshot", .string benchmark.snapshot), ("target_total", .string benchmark.targetTotal),
    ("max_total", .string benchmark.maxTotal),
    durationEntry "observed_total" measurement.observedTotal,
    ("regression_budget", .string benchmark.regressionBudget),
    ("memory_budget_bytes", .integer benchmark.memoryBudgetBytes.val),
    ("observed_memory_bytes", .integer measurement.observedMemoryBytes.val),
    ("target_rationale", .string benchmark.targetRationale)]

def measurementEntries : List (String × Toml.Scalar) :=
  [("clock", .string measurement.clock), ("statistic", .string measurement.statistic),
    ("warmup_iterations", .integer measurement.warmupIterations.val),
    ("measure_iterations", .integer measurement.measureIterations.val),
    durationEntry "total_p50" measurement.totalP50, durationEntry "total_p95" measurement.totalP95,
    durationEntry "total_p99" measurement.totalP99, durationEntry "total_max" measurement.totalMax]

def timingEntries : List (String × Toml.Scalar) :=
  measurement.observedTimings.entries.map fun entry => durationEntry entry.1 entry.2

def phaseEntries (distribution : RustScenarioBenchmarkPhaseDistribution) :
    List (String × Toml.Scalar) :=
  [durationEntry "p50" distribution.p50, durationEntry "p95" distribution.p95,
    durationEntry "p99" distribution.p99, durationEntry "max" distribution.max]

def metricEntries (metric : AspRustScenarioMetricSpec) (observed : U64) :
    List (String × Toml.Scalar) :=
  [("unit", .string metric.unit), ("kind", .string metric.kind.asStr)] ++
    (metric.target.toList.map fun target => ("target", Toml.Scalar.integer target.val)) ++
    [("observed", .integer observed.val)]

/-- The observed value of a metric. -/
def observedMetric (metric : AspRustScenarioMetricSpec) : U64 :=
  (measurement.metrics.get? metric.name).getD 0

/-- The document of the benchmark file. -/
def benchmarkDocument : Toml.Document where
  root := rootEntries benchmark measurement
  sections :=
    [⟨["measurement"], measurementEntries measurement⟩,
      ⟨["observed_timings"], timingEntries measurement⟩] ++
    (measurement.observedTimings.keys.map fun name =>
      ⟨["phase_distributions", name], phaseEntries (phaseDistribution measurement name)⟩) ++
    benchmark.metrics.map fun metric =>
      ⟨["metrics", metric.name], metricEntries metric (observedMetric measurement metric)⟩

end Document

/-! ## The text

The renderer appends to one text, section by section.  What it has appended in the end
is the text of the document. -/

/-- A line with its end. -/
def lineText (line : Toml.Line) : List Char := line.text ++ ['\n']

theorem toList_escapeTomlString (value : String) :
    (escapeTomlString value).toList = value.toList.flatMap Toml.escapeChar := by
  rw [escapeTomlString, String.toList_ofList]
  rfl

theorem toList_pushTomlString (key value : String) :
    (pushTomlString key value).toList = lineText (.entry key (.string value)) := by
  simp [pushTomlString, toList_escapeTomlString, lineText, Toml.Line.text, Toml.Scalar.text]

theorem toList_pushTomlInteger (key : String) (value : U64) :
    (pushTomlInteger key value).toList = lineText (.entry key (.integer value.val)) := by
  simp [pushTomlInteger, lineText, Toml.Line.text, Toml.Scalar.text]

/-- The text of a section below another table. -/
theorem toList_section {first opening : String} (name : String) {body : String}
    {entries : List (String × Toml.Scalar)}
    (hopening : opening.toList = '\n' :: '[' :: (first.toList ++ ['.']))
    (hbody : body.toList = entries.flatMap fun entry => lineText (Toml.entryLine entry)) :
    (opening ++ name ++ "]\n" ++ body).toList =
      (Toml.Section.lines ⟨[first, name], entries⟩).flatMap lineText := by
  simp [hopening, hbody, lineText, Toml.Section.lines, Toml.Line.text, List.intercalate,
    List.flatMap_map]

theorem flatMap_section {name opening : String} {entries : List (String × Toml.Scalar)}
    (hopening : opening.toList = '\n' :: '[' :: (name.toList ++ [']', '\n'])) :
    (Toml.Section.lines ⟨[name], entries⟩).flatMap lineText =
      opening.toList ++ entries.flatMap fun entry => lineText (Toml.entryLine entry) := by
  simp [hopening, lineText, Toml.Section.lines, Toml.Line.text, List.intercalate,
    List.flatMap_map]

section Text

variable {benchmark : AspRustScenarioBenchmarkSpec} {measurement : AspRustScenarioMeasurement}

theorem index_eq_ok {timings : OrderedMap String Duration} {name : String}
    (h : name ∈ timings.keys) : index timings name = .ok (timing timings name) := by
  obtain ⟨duration, hduration⟩ := OrderedMap.mem_keys_iff.mp h
  rw [index, timing, hduration]
  rfl

/-- The text of the section of a phase. -/
def phaseText (name : String) (distribution : RustScenarioBenchmarkPhaseDistribution) : String :=
  "\n[phase_distributions." ++ name ++ "]\n" ++
    (pushTomlString "p50" (formatDuration distribution.p50) ++
      pushTomlString "p95" (formatDuration distribution.p95) ++
      pushTomlString "p99" (formatDuration distribution.p99) ++
      pushTomlString "max" (formatDuration distribution.max))

/-- The text of the section of a metric. -/
def metricText (metric : AspRustScenarioMetricSpec) (observed : U64) : String :=
  "\n[metrics." ++ metric.name ++ "]\n" ++
    (pushTomlString "unit" metric.unit ++ pushTomlString "kind" metric.kind.asStr ++
      (match metric.target with
        | some target => pushTomlInteger "target" target
        | none => "") ++
      pushTomlInteger "observed" observed)

theorem renderPhase_eq_ok (h : Measured benchmark measurement) {name : String}
    (hname : name ∈ measurement.observedTimings.keys) :
    renderPhase measurement name = .ok (phaseText name (phaseDistribution measurement name)) := by
  rw [renderPhase, index_eq_ok (h.p50_keys ▸ hname), index_eq_ok hname,
    index_eq_ok (h.p99_keys ▸ hname), index_eq_ok (h.max_keys ▸ hname)]
  rfl

theorem renderMetric_eq_ok (h : Measured benchmark measurement)
    {metric : AspRustScenarioMetricSpec} (hmetric : metric ∈ benchmark.metrics) :
    renderMetric measurement metric =
      .ok (metricText metric (observedMetric measurement metric)) := by
  obtain ⟨observed, hobserved⟩ := OrderedMap.mem_keys_iff.mp (h.observed metric hmetric)
  rw [renderMetric, hobserved, observedMetric, hobserved]
  rfl

theorem toList_phaseText (name : String) (distribution : RustScenarioBenchmarkPhaseDistribution) :
    (phaseText name distribution).toList =
      (Toml.Section.lines ⟨["phase_distributions", name], phaseEntries distribution⟩).flatMap
        lineText := by
  refine toList_section name (by decide) ?_
  simp only [phaseEntries, durationEntry, Toml.entryLine, List.flatMap_cons, List.flatMap_nil,
    String.toList_append, toList_pushTomlString, List.append_assoc, List.append_nil]

theorem toList_metricText (metric : AspRustScenarioMetricSpec) (observed : U64) :
    (metricText metric observed).toList =
      (Toml.Section.lines ⟨["metrics", metric.name], metricEntries metric observed⟩).flatMap
        lineText := by
  refine toList_section metric.name (by decide) ?_
  cases htarget : metric.target with
  | none =>
      simp only [metricEntries, htarget, Toml.entryLine, Option.toList_none, List.map_nil,
        List.append_nil, List.cons_append, List.nil_append, List.flatMap_cons, List.flatMap_nil,
        String.toList_append, toList_pushTomlString, toList_pushTomlInteger, List.append_assoc,
        String.toList_empty]
  | some target =>
      simp only [metricEntries, htarget, Toml.entryLine, Option.toList_some, List.map_nil,
        List.map_cons, List.append_nil, List.cons_append, List.nil_append, List.flatMap_cons,
        List.flatMap_nil, String.toList_append, toList_pushTomlString, toList_pushTomlInteger,
        List.append_assoc]

theorem text_benchmarkDocument :
    (benchmarkDocument benchmark measurement).text =
      (rootEntries benchmark measurement).flatMap (fun entry => lineText (Toml.entryLine entry)) ++
      "\n[measurement]\n".toList ++
      (measurementEntries measurement).flatMap (fun entry => lineText (Toml.entryLine entry)) ++
      "\n[observed_timings]\n".toList ++
      (timingEntries measurement).flatMap (fun entry => lineText (Toml.entryLine entry)) ++
      (measurement.observedTimings.keys.flatMap fun name =>
        (Toml.Section.lines ⟨["phase_distributions", name],
          phaseEntries (phaseDistribution measurement name)⟩).flatMap lineText) ++
      benchmark.metrics.flatMap fun metric =>
        (Toml.Section.lines ⟨["metrics", metric.name],
          metricEntries metric (observedMetric measurement metric)⟩).flatMap lineText := by
  have hmeasurement : "\n[measurement]\n".toList =
      '\n' :: '[' :: ("measurement".toList ++ [']', '\n']) := by decide
  have htimings : "\n[observed_timings]\n".toList =
      '\n' :: '[' :: ("observed_timings".toList ++ [']', '\n']) := by decide
  change ((rootEntries benchmark measurement).map Toml.entryLine ++
    (benchmarkDocument benchmark measurement).sections.flatMap Toml.Section.lines).flatMap
      lineText = _
  rw [List.flatMap_append, List.flatMap_map, List.flatMap_assoc, benchmarkDocument,
    List.flatMap_append, List.flatMap_append, List.flatMap_map, List.flatMap_map,
    List.flatMap_cons, List.flatMap_cons, List.flatMap_nil, List.append_nil,
    flatMap_section hmeasurement, flatMap_section htimings]
  simp only [List.append_assoc]

/-- **The renderer writes the document.** -/
theorem render_eq_ok {scenario : AspRustScenario} (hbenchmark : scenario.benchmark = some benchmark)
    (h : Measured benchmark measurement) :
    renderAspRustScenarioBenchmarkToml scenario measurement =
      .ok (String.ofList (benchmarkDocument benchmark measurement).text) := by
  have hphases : measurement.observedTimings.keys.mapM (renderPhase measurement) =
      .ok (measurement.observedTimings.keys.map fun name =>
        phaseText name (phaseDistribution measurement name)) := by
    rw [mapM_congr fun name hname => renderPhase_eq_ok h hname]
    exact List.mapM_pure
  have hmetrics : benchmark.metrics.mapM (renderMetric measurement) =
      .ok (benchmark.metrics.map fun metric =>
        metricText metric (observedMetric measurement metric)) := by
    rw [mapM_congr fun metric hmetric => renderMetric_eq_ok h hmetric]
    exact List.mapM_pure
  rw [renderAspRustScenarioBenchmarkToml, hbenchmark]
  dsimp only
  rw [hphases, hmetrics]
  refine congrArg Except.ok (String.toList_inj.mp ?_)
  rw [String.toList_ofList, text_benchmarkDocument]
  simp only [String.toList_append, String.toList_join, List.flatMap_map, toList_pushTomlString,
    toList_pushTomlInteger, toList_phaseText, toList_metricText, rootEntries, measurementEntries,
    timingEntries, durationEntry, Toml.entryLine, List.flatMap_cons, List.flatMap_nil,
    List.append_assoc, List.append_nil]

/-! ## The table

The table that a parser makes of the document, with one table for the keys that are
always there and one for each phase and metric. -/

variable (benchmark measurement) in
/-- The keys that every benchmark file has. -/
def fixedTable : Toml.Table :=
  Toml.tableOf (rootEntries benchmark measurement) ++
    [("measurement", .table (Toml.tableOf (measurementEntries measurement)))] ++
    [("observed_timings", .table (Toml.tableOf (timingEntries measurement)))]

variable (measurement) in
/-- The tables of the phases. -/
def phaseBlocks : List (String × Toml.Table) :=
  measurement.observedTimings.keys.map fun name =>
    (name, Toml.tableOf (phaseEntries (phaseDistribution measurement name)))

variable (benchmark measurement) in
/-- The tables of the metrics. -/
def metricBlocks : List (String × Toml.Table) :=
  benchmark.metrics.map fun metric =>
    (metric.name, Toml.tableOf (metricEntries metric (observedMetric measurement metric)))

variable (benchmark measurement) in
/-- The table of the benchmark file. -/
def benchmarkTable : Toml.Table :=
  fixedTable benchmark measurement ++
    Toml.grouped "phase_distributions" (phaseBlocks measurement) ++
    Toml.grouped "metrics" (metricBlocks benchmark measurement)

theorem map_fst_fixedTable : (fixedTable benchmark measurement).map Prod.fst =
    ["harness", "test", "snapshot", "target_total", "max_total", "observed_total",
      "regression_budget", "memory_budget_bytes", "observed_memory_bytes", "target_rationale",
      "measurement", "observed_timings"] := rfl

theorem map_fst_timingEntries :
    (timingEntries measurement).map Prod.fst = measurement.observedTimings.keys := by
  rw [timingEntries, List.map_map]
  rfl

theorem nodup_phaseEntries (distribution : RustScenarioBenchmarkPhaseDistribution) :
    ((phaseEntries distribution).map Prod.fst).Nodup := by
  simp [phaseEntries, durationEntry]

theorem nodup_metricEntries (metric : AspRustScenarioMetricSpec) (observed : U64) :
    ((metricEntries metric observed).map Prod.fst).Nodup := by
  cases htarget : metric.target with
  | none => simp [metricEntries, htarget]
  | some target => simp [metricEntries, htarget]

theorem table_benchmarkDocument (h : Measured benchmark measurement) :
    (benchmarkDocument benchmark measurement).table? =
      some (benchmarkTable benchmark measurement) := by
  have hroot : Toml.addEntries [] (rootEntries benchmark measurement) =
      some (Toml.tableOf (rootEntries benchmark measurement)) :=
    Toml.addEntries_eq (by simp [rootEntries, durationEntry])
  have hmeasurement : ((measurementEntries measurement).map Prod.fst).Nodup := by
    simp [measurementEntries, durationEntry]
  have htimings : ((timingEntries measurement).map Prod.fst).Nodup := by
    rw [map_fst_timingEntries]
    exact measurement.observedTimings.nodup_keys
  have hnames : (measurement.observedTimings.keys.map fun name => name).Nodup := by
    rw [List.map_id']
    exact measurement.observedTimings.nodup_keys
  have hphases := Toml.foldlM_addSection_grouped
    (fun name (_ : name ∈ measurement.observedTimings.keys) => nodup_phaseEntries
      (phaseDistribution measurement name))
    (show "phase_distributions" ∉ (fixedTable benchmark measurement).map Prod.fst by
      simp [map_fst_fixedTable]) hnames
  have hmetrics : "metrics" ∉ (fixedTable benchmark measurement ++
      Toml.grouped "phase_distributions" (phaseBlocks measurement)).map Prod.fst := by
    rw [List.map_append, List.mem_append, map_fst_fixedTable]
    rintro (hmem | hmem)
    · simp at hmem
    · obtain ⟨entry, hentry, hkey⟩ := List.mem_map.mp hmem
      rw [Toml.fst_of_mem_grouped hentry] at hkey
      simp at hkey
  -- The sections come in four groups, and each group adds keys that are not there yet.
  rw [Toml.Document.table?, benchmarkDocument, hroot]
  change List.foldlM Toml.addSection _ _ = _
  rw [List.foldlM_append, List.foldlM_append, List.foldlM_cons,
    Toml.addSection_single hmeasurement (by simp [Toml.tableOf, rootEntries, durationEntry])]
  change (List.foldlM _ _ _ >>= fun table => List.foldlM _ table _) >>= _ = _
  rw [List.foldlM_cons,
    Toml.addSection_single htimings (by simp [Toml.tableOf, rootEntries, durationEntry])]
  change List.foldlM _ (fixedTable benchmark measurement) _ >>= _ = _
  rw [hphases]
  exact Toml.foldlM_addSection_grouped (fun metric _ => nodup_metricEntries metric _) hmetrics
    h.nodup_names

end Text

end AspRust.Scenario
