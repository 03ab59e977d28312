import AspRust.Foundation.NearestRank
import AspRust.Scenario.Gate
import AspRust.Scenario.RoundTrip

/-!
# The runner and the gate

The runner refuses a measurement whose 95th percentile is zero or whose metrics miss their
targets, and computes percentiles by nearest rank.  The gate checks the same conditions on
the contract again.  A contract with what was measured gives it no reason to disagree: what is
left are remarks on names, units and phases of no duration, which the runner does not look at.

### What is load-bearing

Both sides compute with one notion of a percentile, the nearest rank, and that notion is
monotone in the percentage and in the samples (`percentile_mono`).  The gate compares the median
with the 95th percentile and that with the maximum, so it can only find what the runner's own
numbers have.

The gate sees texts, and the runner durations; the round trip of durations (`DurationGrammar`)
is what makes the comparison of one with the other mean anything.
-/

namespace AspRust.Scenario

open AspRust.Foundation

/-! ## Percentiles

The nearest rank of a percentage among sorted samples.  Percentiles of the same samples
are in the order of their percentages, which is what the gate checks of a distribution. -/

theorem pairwise_mergeSort_le (samples : List Duration) :
    samples.mergeSort.Pairwise (· ≤ ·) := by
  exact List.pairwise_mergeSort' (· ≤ ·) samples

theorem percentile_eq_getElem {samples : List Duration} {percent : ℕ}
    (hi : rankIndex samples.length percent < samples.mergeSort.length) :
    percentile samples percent = samples.mergeSort[rankIndex samples.length percent] := by
  rw [percentile, List.getD_eq_getElem?_getD]
  change (samples.mergeSort[rankIndex samples.length percent]?).getD 0 = _
  rw [List.getElem?_eq_getElem hi, Option.getD_some]

/-- A percentile can be read off any sorted arrangement of the samples. -/
theorem percentile_of_perm {samples sorted : List Duration} (hperm : sorted.Perm samples)
    (hsorted : sorted.Pairwise (· ≤ ·)) (percent : ℕ) :
    percentile samples percent = sorted.getD (rankIndex samples.length percent) 0 := by
  have hsame : samples.mergeSort = sorted :=
    ((List.mergeSort_perm samples _).trans hperm.symm).eq_of_pairwise
      (fun _ _ _ _ hle hge => le_antisymm hle hge) (pairwise_mergeSort_le samples) hsorted
  exact congrArg (fun list => list.getD (rankIndex samples.length percent) 0) hsame

theorem rankIndex_lt_length_mergeSort {samples : List Duration} (hne : samples ≠ []) {percent : ℕ}
    (hpercent : percent ≤ 100) :
    rankIndex samples.length percent < samples.mergeSort.length := by
  rw [List.length_mergeSort]
  exact rankIndex_lt (List.length_pos_iff.mpr hne) hpercent

theorem isNearestRank_percentile {samples : List Duration} (hne : samples ≠ []) {percent : ℕ}
    (hpositive : 0 < percent) (hpercent : percent ≤ 100) :
    IsNearestRank samples percent (percentile samples percent) := by
  have hi := rankIndex_lt_length_mergeSort hne hpercent
  rw [percentile_eq_getElem hi]
  exact isNearestRank_getElem (List.mergeSort_perm samples _) (pairwise_mergeSort_le samples)
    hpositive hi

theorem percentile_mono {samples : List Duration} (hne : samples ≠ []) {low high : ℕ}
    (hle : low ≤ high) (hpercent : high ≤ 100) :
    percentile samples low ≤ percentile samples high := by
  have hhigh := rankIndex_lt_length_mergeSort hne hpercent
  rw [percentile_eq_getElem (rankIndex_lt_length_mergeSort hne (hle.trans hpercent)),
    percentile_eq_getElem hhigh]
  exact getElem_le_getElem_of_sorted (pairwise_mergeSort_le samples) (rankIndex_mono _ hle) hhigh

/-- The four percentiles of samples, in order. -/
structure IsDistribution (samples : List Duration)
    (distribution : RustScenarioBenchmarkPhaseDistribution) : Prop where
  p50 : IsNearestRank samples 50 distribution.p50
  p95 : IsNearestRank samples 95 distribution.p95
  p99 : IsNearestRank samples 99 distribution.p99
  max : IsNearestRank samples 100 distribution.max
  ordered : distribution.Ordered

theorem isDistribution_percentile {samples : List Duration} (hne : samples ≠ []) :
    IsDistribution samples ⟨percentile samples 50, percentile samples 95, percentile samples 99,
      percentile samples 100⟩ where
  p50 := isNearestRank_percentile hne (by decide) (by decide)
  p95 := isNearestRank_percentile hne (by decide) (by decide)
  p99 := isNearestRank_percentile hne (by decide) (by decide)
  max := isNearestRank_percentile hne (by decide) (by decide)
  ordered := ⟨percentile_mono hne (by decide) (by decide),
    percentile_mono hne (by decide) (by decide), percentile_mono hne (by decide) (by decide)⟩

/-! ## Samples

The loop over the measured runs gathers samples by name: after some runs, those of a
name are the values that the runs observed for it, in order. -/

/-- The samples of a name. -/
def samplesOf {V : Type} (maps : List (OrderedMap String V)) (name : String) : List V :=
  maps.filterMap fun values => values.get? name

/-- A map has the samples of each name that has any. -/
def Gathers {V : Type} (gathered : OrderedMap String (List V)) (maps : List (OrderedMap String V)) :
    Prop :=
  ∀ name, gathered.get? name =
    if samplesOf maps name = [] then none else some (samplesOf maps name)

theorem get?_pushSamples {V : Type} (gathered : OrderedMap String (List V))
    (values : OrderedMap String V) (name : String) :
    (pushSamples gathered values).get? name =
      match values.get? name with
      | none => gathered.get? name
      | some value => some ((gathered.get? name).getD [] ++ [value]) := by
  suffices h : ∀ entries : List (String × V), (entries.map Prod.fst).Nodup →
      ∀ gathered : OrderedMap String (List V),
        (entries.foldl (fun samples entry =>
          samples.insert entry.1 ((samples.get? entry.1).getD [] ++ [entry.2])) gathered).get? name =
        match (entries.find? fun entry => entry.1 = name).map Prod.snd with
        | none => gathered.get? name
        | some value => some ((gathered.get? name).getD [] ++ [value]) from
    h values.entries values.nodup_keys gathered
  intro entries hnodup
  induction entries with
  | nil => exact fun _ => rfl
  | cons entry rest ih =>
      intro gathered
      rw [List.map_cons, List.nodup_cons] at hnodup
      rw [List.foldl_cons, ih hnodup.2]
      by_cases hname : entry.1 = name
      · -- No later entry has the name.
        have hnone : rest.find? (fun entry => entry.1 = name) = none := by
          rw [List.find?_eq_none]
          intro other hother hkey
          refine hnodup.1 (List.mem_map.mpr ⟨other, hother, ?_⟩)
          rw [hname]
          exact of_decide_eq_true hkey
        rw [hnone, List.find?_cons_of_pos (by simpa using hname)]
        subst hname
        simp
      · rw [List.find?_cons_of_neg (by simpa using hname), OrderedMap.get?_insert,
          if_neg fun h => hname h.symm]

theorem Gathers.pushSamples {V : Type} {gathered : OrderedMap String (List V)}
    {maps : List (OrderedMap String V)} (h : Gathers gathered maps) (values : OrderedMap String V) :
    Gathers (pushSamples gathered values) (maps ++ [values]) := by
  intro name
  rw [get?_pushSamples, h name, samplesOf, samplesOf, List.filterMap_append]
  cases hvalue : values.get? name with
  | none => simp [hvalue]
  | some value =>
      simp only [List.filterMap_cons, hvalue, List.filterMap_nil, List.append_eq_nil_iff,
        List.cons_ne_nil, and_false, if_false]
      split
      · next hempty =>
          rw [hempty]
          rfl
      · rfl

/-- The state after some runs. -/
structure Recorded (state : MeasureState)
    (measured : List (Duration × AspRustScenarioObservation)) : Prop where
  totals : state.totals = measured.map Prod.fst
  phases : Gathers state.phaseSamples (measured.map fun run => run.2.phaseTimings)
  metrics : Gathers state.metricSamples (measured.map fun run => run.2.metrics)

theorem recorded_of_recordRun {state next : MeasureState}
    {measured : List (Duration × AspRustScenarioObservation)}
    {run : Duration × AspRustScenarioObservation} (h : Recorded state measured)
    (hrun : recordRun state run = .ok next) : Recorded next (measured ++ [run]) := by
  unfold recordRun at hrun
  obtain ⟨phaseNames, -, hrun⟩ := Except.bind_eq_ok.mp hrun
  obtain ⟨metricNames, -, hrun⟩ := Except.bind_eq_ok.mp hrun
  obtain rfl := Except.ok.inj hrun
  refine ⟨?_, ?_, ?_⟩
  · rw [List.map_append, ← h.totals]
    rfl
  · rw [List.map_append]
    exact h.phases.pushSamples run.2.phaseTimings
  · rw [List.map_append]
    exact h.metrics.pushSamples run.2.metrics

theorem recorded_of_foldlM {state next : MeasureState}
    {before measured : List (Duration × AspRustScenarioObservation)} (h : Recorded state before)
    (hruns : measured.foldlM recordRun state = .ok next) : Recorded next (before ++ measured) := by
  induction measured generalizing state before with
  | nil =>
      obtain rfl := Except.ok.inj hruns
      rwa [List.append_nil]
  | cons run rest ih =>
      rw [List.foldlM_cons] at hruns
      obtain ⟨middle, hrun, hrest⟩ := Except.bind_eq_ok.mp hruns
      have hnext := ih (recorded_of_recordRun h hrun) hrest
      rwa [List.append_assoc] at hnext

theorem recorded_measuredRuns {measured : List (Duration × AspRustScenarioObservation)}
    {state : MeasureState} (h : measured.foldlM recordRun {} = .ok state) :
    Recorded state measured := by
  have hstart : Recorded {} [] := ⟨rfl, fun _ => rfl, fun _ => rfl⟩
  exact recorded_of_foldlM hstart h

/-! ## Metrics

What it is for an observed value to satisfy its target, and that the runner refuses a
measurement in which one does not. -/

/-- An observed value is what the kind and the target of a metric ask for. -/
def AspRustScenarioMetricSpec.Satisfied (spec : AspRustScenarioMetricSpec) (observed : U64) :
    Prop :=
  match spec.kind with
  | .stable => spec.target = none
  | .exact => spec.target = some observed
  | .maximum => ∃ most, spec.target = some most ∧ observed ≤ most
  | .minimum => ∃ least, spec.target = some least ∧ least ≤ observed

/-- A check of all elements has checked each. -/
theorem forM_eq_ok {ι : Type} {check : ι → Except String Unit} {elements : List ι}
    (h : elements.forM check = .ok ()) : ∀ element ∈ elements, check element = .ok () := by
  induction elements with
  | nil =>
      intro element hmem
      cases hmem
  | cons first rest ih =>
      rw [List.forM_eq_forM, List.forM_cons] at h
      obtain ⟨_, hfirst, hrest⟩ := Except.bind_eq_ok.mp h
      exact List.forall_mem_cons.mpr ⟨hfirst, ih hrest⟩

theorem of_check_eq_ok {condition : Prop} [Decidable condition] {reason : String}
    (h : (if decide condition then .ok () else .error reason : Except String Unit) = .ok ()) :
    condition := by
  by_contra hfalse
  rw [decide_eq_false hfalse] at h
  cases h

theorem satisfied_of_validate {observations : OrderedMap String U64}
    {spec : AspRustScenarioMetricSpec} (h : validateMetricObservation observations spec = .ok ()) :
    ∃ observed, observations.get? spec.name = some observed ∧ spec.Satisfied observed := by
  unfold validateMetricObservation at h
  split at h
  · cases h
  · next observed hobserved =>
      refine ⟨observed, hobserved, ?_⟩
      obtain ⟨name, unit, kind, target⟩ := spec
      cases kind with
      | stable =>
          cases target with
          | none => rfl
          | some target => cases h
      | exact =>
          cases target with
          | none => cases h
          | some target => exact congrArg some (of_check_eq_ok h).symm
      | maximum =>
          cases target with
          | none => cases h
          | some target => exact ⟨target, rfl, of_check_eq_ok h⟩
      | minimum =>
          cases target with
          | none => cases h
          | some target => exact ⟨target, rfl, of_check_eq_ok h⟩

/-! ## What the runner promises

The checks of the runner, as a statement about the measurement that it returns. -/

/-- The four timings of a phase are the percentiles of its samples. -/
theorem isDistribution_phase {state : MeasureState}
    {measured : List (Duration × AspRustScenarioObservation)} (h : Recorded state measured)
    (benchmark : AspRustScenarioBenchmarkSpec) (metrics : OrderedMap String U64) {name : String}
    (hname : name ∈ (measurementOf benchmark state metrics).observedTimings.keys) :
    IsDistribution (samplesOf (measured.map fun run => run.2.phaseTimings) name)
      (phaseDistribution (measurementOf benchmark state metrics) name) := by
  rw [measurementOf, OrderedMap.keys_mapValues, OrderedMap.mem_keys_iff] at hname
  obtain ⟨samples, hsamples⟩ := hname
  have hgathered := h.phases name
  rw [hsamples] at hgathered
  split at hgathered
  · cases hgathered
  · next hne =>
      obtain rfl := Option.some.inj hgathered
      have hphase : phaseDistribution (measurementOf benchmark state metrics) name =
          ⟨percentile (samplesOf (measured.map fun run => run.2.phaseTimings) name) 50,
            percentile (samplesOf (measured.map fun run => run.2.phaseTimings) name) 95,
            percentile (samplesOf (measured.map fun run => run.2.phaseTimings) name) 99,
            percentile (samplesOf (measured.map fun run => run.2.phaseTimings) name) 100⟩ := by
        simp only [phaseDistribution, timing, measurementOf, OrderedMap.get?_mapValues, hsamples,
          Option.map_some, Option.getD_some]
      rw [hphase]
      exact isDistribution_percentile hne

/-- The phases of a measurement are those of its runs. -/
theorem mem_observedTimings_iff {state : MeasureState}
    {measured : List (Duration × AspRustScenarioObservation)} (h : Recorded state measured)
    (benchmark : AspRustScenarioBenchmarkSpec) (metrics : OrderedMap String U64) (name : String) :
    name ∈ (measurementOf benchmark state metrics).observedTimings.keys ↔
      ∃ run ∈ measured, name ∈ run.2.phaseTimings.keys := by
  have hsome : name ∈ (measurementOf benchmark state metrics).observedTimings.keys ↔
      samplesOf (measured.map fun run => run.2.phaseTimings) name ≠ [] := by
    rw [measurementOf, OrderedMap.keys_mapValues, OrderedMap.mem_keys_iff, h.phases name]
    split
    · next hempty => simp [hempty]
    · next hne => simp [hne]
  rw [hsome, samplesOf, Ne, List.filterMap_eq_nil_iff]
  simp only [List.forall_mem_map, not_forall, exists_prop, OrderedMap.get?_eq_none_iff, not_not]

/-- What the runner promises of a measurement. -/
structure Promised (benchmark : AspRustScenarioBenchmarkSpec) (runs : Runs)
    (measurement : AspRustScenarioMeasurement) : Prop where
  total : IsDistribution ((measuredRuns benchmark runs).map Prod.fst)
    (measurementSection measurement).total
  phases : ∀ name, name ∈ measurement.observedTimings.keys ↔
    ∃ run ∈ measuredRuns benchmark runs, name ∈ run.2.phaseTimings.keys
  phase : ∀ name ∈ measurement.observedTimings.keys,
    IsDistribution (samplesOf ((measuredRuns benchmark runs).map fun run => run.2.phaseTimings) name)
      (phaseDistribution measurement name)
  metricNames : ∀ name, name ∈ measurement.metrics.keys ↔
    ∃ spec ∈ benchmark.metrics, spec.name = name
  metrics : ∀ spec ∈ benchmark.metrics, ∃ observed,
    measurement.metrics.get? spec.name = some observed ∧ spec.Satisfied observed
  observedTotal : measurement.observedTotal = measurement.totalP95
  observedTotal_ne_zero : measurement.observedTotal ≠ 0
  measureIterations_ne_zero : measurement.measureIterations ≠ 0

theorem promised_of_measure {scenario : AspRustScenario}
    {benchmark : AspRustScenarioBenchmarkSpec} {runs : Runs}
    {measurement : AspRustScenarioMeasurement} (hbenchmark : scenario.benchmark = some benchmark)
    (h : measureAspRustScenario scenario runs = .ok measurement) :
    Promised benchmark runs measurement := by
  have hmeasured := measured_of_measure hbenchmark h
  obtain ⟨state, metrics, hiterations, hstate, htotal, hmetrics, hvalid, rfl⟩ :=
    (measure_eq_ok hbenchmark).mp h
  have hrecorded := recorded_measuredRuns hstate
  have hsamples : (measuredRuns benchmark runs).map Prod.fst ≠ [] := by
    intro hempty
    rw [List.map_eq_nil_iff, measuredRuns, List.map_eq_nil_iff, List.range_eq_nil] at hempty
    exact hiterations (Fin.ext hempty)
  exact
    { total := by
        rw [← hrecorded.totals] at hsamples ⊢
        exact isDistribution_percentile hsamples
      phases := mem_observedTimings_iff hrecorded benchmark metrics
      phase := fun name hname => isDistribution_phase hrecorded benchmark metrics hname
      metricNames := fun name => ⟨hmeasured.registered name, fun ⟨spec, hspec, hname⟩ =>
        hname ▸ hmeasured.observed spec hspec⟩
      metrics := by
        intro spec hspec
        exact satisfied_of_validate (forM_eq_ok hvalid spec hspec)
      observedTotal := rfl
      observedTotal_ne_zero := htotal
      measureIterations_ne_zero := hiterations }

/-! ## What the gate reports

One check of the gate after the other: on a contract that agrees with the measurement,
what it can still report is a remark. -/

section Gate

variable {benchmark : AspRustScenarioBenchmarkSpec} {measurement : AspRustScenarioMeasurement}
  {contract : RustScenarioBenchmarkContract}

/-- The phases of the contract are those of the measurement. -/
theorem phaseDistributions_of_agrees (hmeasured : Measured benchmark measurement)
    (h : Agrees benchmark measurement contract) {name : String}
    {distribution : RustScenarioBenchmarkPhaseDistribution} :
    contract.phaseDistributions.get? name = some distribution ↔
      name ∈ contract.observedTimings.keys ∧ phaseDistribution measurement name = distribution := by
  rw [h.phaseDistributions, ← get?_phaseDistributions hmeasured, h.observedTimings]
  constructor
  · intro hget
    rcases OrderedMap.exists_of_get?_insertAll _ _ hget with hempty | ⟨_, hname, rfl, rfl⟩
    · cases hempty
    · exact ⟨hname, rfl⟩
  · rintro ⟨hname, rfl⟩
    refine OrderedMap.get?_insertAll (fun name => name) _ hname ?_ ∅
    rintro other - rfl
    rfl

theorem keys_phaseDistributions_of_agrees (hmeasured : Measured benchmark measurement)
    (h : Agrees benchmark measurement contract) :
    contract.phaseDistributions.keys = contract.observedTimings.keys := by
  refine OrderedMap.keys_ext fun name => ?_
  rw [OrderedMap.mem_keys_iff]
  simp only [phaseDistributions_of_agrees hmeasured h, exists_and_left, exists_eq', and_true]

/-- The gate only remarks on a phase. -/
theorem isRemark_of_mem_requirePhase (hmeasured : Measured benchmark measurement)
    (h : Agrees benchmark measurement contract) {name : String} {duration : Duration}
    (hentry : (name, duration) ∈ contract.observedTimings.entries)
    (hordered : (phaseDistribution measurement name).Ordered) :
    ∀ violation ∈ requirePhase contract.phaseDistributions name duration, violation.IsRemark := by
  have hget : contract.observedTimings.get? name = some duration :=
    OrderedMap.get?_eq_some_iff.mpr hentry
  have hname : name ∈ contract.observedTimings.keys := OrderedMap.mem_keys_iff.mpr ⟨_, hget⟩
  have hduration : duration = (phaseDistribution measurement name).p95 := by
    change duration = (measurement.observedTimings.get? name).getD 0
    rw [← h.observedTimings, hget]
    rfl
  intro violation hviolation
  rw [requirePhase, (phaseDistributions_of_agrees hmeasured h).mpr ⟨hname, rfl⟩] at hviolation
  dsimp only at hviolation
  rw [violationIf_eq_nil (not_not.mpr hordered), violationIf_eq_nil (not_not.mpr hduration),
    List.append_nil, List.append_nil, List.mem_append] at hviolation
  rcases hviolation with hcount | hzero
  · exact isRemark_of_mem_violationIf (by simp [remarkMessages]) hcount
  · exact isRemark_of_mem_violationIf (by simp [remarkMessages]) hzero

/-- The gate only remarks on a measurement. -/
theorem isRemark_of_mem_requireMeasurementProvenance {runs : Runs}
    (hmeasured : Measured benchmark measurement) (hpromised : Promised benchmark runs measurement)
    (h : Agrees benchmark measurement contract) :
    ∀ violation ∈ requireMeasurementProvenance contract, violation.IsRemark := by
  intro violation hviolation
  have huntimed : (contract.phaseDistributions.keys.flatMap fun name =>
      violationIf (name ∉ contract.observedTimings.keys)
        ("benchmark.phase_distributions." ++ name) untimedPhaseMessage) = [] := by
    rw [List.flatMap_eq_nil_iff]
    intro name hname
    rw [keys_phaseDistributions_of_agrees hmeasured h] at hname
    exact violationIf_eq_nil (not_not.mpr hname) _ _
  have hclock : ¬ (measurementSection measurement).clock ≠ "std::time::Instant" :=
    not_not.mpr hmeasured.clock
  have hstatistic : ¬ (measurementSection measurement).statistic ≠ "p95" :=
    not_not.mpr hmeasured.statistic
  have hiterations : ¬ (measurementSection measurement).measureIterations = 0 :=
    hpromised.measureIterations_ne_zero
  have hp95 : ¬ contract.observedTotal ≠ (measurementSection measurement).totalP95 :=
    not_not.mpr (h.observedTotal.trans hpromised.observedTotal)
  have hzero : ¬ (measurementSection measurement).totalP95 = 0 := by
    change measurement.totalP95 ≠ 0
    rw [← hpromised.observedTotal]
    exact hpromised.observedTotal_ne_zero
  have hcovered : ¬ (contract.phaseDistributions.keys ≠ [] ∧
      contract.phaseDistributions.keys.length ≠ contract.observedTimings.keys.length) := by
    rw [keys_phaseDistributions_of_agrees hmeasured h]
    exact fun hcover => hcover.2 rfl
  -- what is left are the phases
  rw [requireMeasurementProvenance, h.totals] at hviolation
  dsimp only at hviolation
  rw [violationIf_eq_nil hclock, violationIf_eq_nil hstatistic, violationIf_eq_nil hiterations,
    violationIf_eq_nil (not_not.mpr hpromised.total.ordered), violationIf_eq_nil hp95,
    violationIf_eq_nil hzero, huntimed, violationIf_eq_nil hcovered] at hviolation
  simp only [List.nil_append, List.append_nil, List.mem_flatMap] at hviolation
  obtain ⟨⟨name, duration⟩, hentry, hviolation⟩ := hviolation
  have hname : name ∈ measurement.observedTimings.keys := by
    rw [← h.observedTimings]
    exact List.mem_map_of_mem (f := Prod.fst) hentry
  exact isRemark_of_mem_requirePhase hmeasured h hentry (hpromised.phase name hname).ordered
    violation hviolation

/-- The gate only remarks on a metric that satisfies its specification. -/
theorem isRemark_of_mem_requireCustomMetric {spec : AspRustScenarioMetricSpec} {observed : U64}
    (h : spec.Satisfied observed) :
    ∀ violation ∈ requireCustomMetric spec.name (spec.withObserved observed),
      violation.IsRemark := by
  obtain ⟨name, unit, kind, target⟩ := spec
  have hjudged : requireCustomMetric name (AspRustScenarioMetricSpec.withObserved
      ⟨name, unit, kind, target⟩ observed) =
        requireNonEmpty ("benchmark.metrics." ++ name ++ ".name") name ++
          requireNonEmpty ("benchmark.metrics." ++ name ++ ".unit") unit := by
    have appended : ∀ {judged : List RustScenarioBenchmarkViolation}, judged = [] →
        requireNonEmpty ("benchmark.metrics." ++ name ++ ".name") name ++
          requireNonEmpty ("benchmark.metrics." ++ name ++ ".unit") unit ++ judged =
        requireNonEmpty ("benchmark.metrics." ++ name ++ ".name") name ++
          requireNonEmpty ("benchmark.metrics." ++ name ++ ".unit") unit := by
      rintro _ rfl
      exact List.append_nil _
    cases kind with
    | stable =>
        obtain rfl : target = none := h
        exact List.append_nil _
    | exact =>
        obtain rfl : target = some observed := h
        exact appended (judgeMetric_eq_nil (decide_eq_true rfl) _ _ _)
    | maximum =>
        obtain ⟨most, rfl, hle⟩ : ∃ most, target = some most ∧ observed ≤ most := h
        exact appended (judgeMetric_eq_nil (decide_eq_true hle) _ _ _)
    | minimum =>
        obtain ⟨least, rfl, hle⟩ : ∃ least, target = some least ∧ least ≤ observed := h
        exact appended (judgeMetric_eq_nil (decide_eq_true hle) _ _ _)
  intro violation hviolation
  rw [hjudged, List.mem_append] at hviolation
  rcases hviolation with hname | hunit
  · exact isRemark_of_mem_violationIf (by simp [remarkMessages]) hname
  · exact isRemark_of_mem_violationIf (by simp [remarkMessages]) hunit

theorem isRemark_of_mem_requireCustomMetrics {runs : Runs}
    (hpromised : Promised benchmark runs measurement) (h : Agrees benchmark measurement contract) :
    ∀ violation ∈ requireCustomMetrics contract, violation.IsRemark := by
  intro violation hviolation
  obtain ⟨⟨name, metric⟩, hentry, hviolation⟩ := List.mem_flatMap.mp hviolation
  have hget : contract.metrics.get? name = some metric := OrderedMap.get?_eq_some_iff.mpr hentry
  have hname : name ∈ measurement.metrics.keys := by
    rw [← h.metricNames]
    exact OrderedMap.mem_keys_iff.mpr ⟨metric, hget⟩
  obtain ⟨spec, hspec, rfl⟩ := (hpromised.metricNames name).mp hname
  obtain ⟨observed, hobserved, hmetric⟩ := h.metrics spec hspec
  obtain ⟨value, hvalue, hsatisfied⟩ := hpromised.metrics spec hspec
  obtain rfl : observed = value := Option.some.inj (hobserved.symm.trans hvalue)
  obtain rfl : spec.withObserved observed = metric := Option.some.inj (hmetric.symm.trans hget)
  exact isRemark_of_mem_requireCustomMetric hsatisfied violation hviolation

end Gate

/-- **The gate does not disagree with the runner.**  For every measurement that the
runner makes of a scenario: its distributions are those of the samples, its metrics are
the demanded ones and satisfy their targets, and what the gate still finds in a contract
with this measurement are remarks, about which the runner does not speak. -/
theorem runner_gate_agree {scenario : AspRustScenario} {benchmark : AspRustScenarioBenchmarkSpec}
    {runs : Runs} {measurement : AspRustScenarioMeasurement}
    (hbenchmark : scenario.benchmark = some benchmark)
    (hmeasure : measureAspRustScenario scenario runs = .ok measurement) :
    IsDistribution ((measuredRuns benchmark runs).map Prod.fst)
        (measurementSection measurement).total ∧
      (∀ run ∈ measuredRuns benchmark runs, ∀ name ∈ run.2.phaseTimings.keys,
        IsDistribution
          (samplesOf ((measuredRuns benchmark runs).map fun run => run.2.phaseTimings) name)
          (phaseDistribution measurement name)) ∧
      (∀ name, name ∈ measurement.metrics.keys ↔ ∃ spec ∈ benchmark.metrics, spec.name = name) ∧
      (∀ spec ∈ benchmark.metrics, ∃ observed,
        measurement.metrics.get? spec.name = some observed ∧ spec.Satisfied observed) ∧
      ∀ contract, Agrees benchmark measurement contract →
        ∀ violation ∈ requireMeasurementProvenance contract ++ requireCustomMetrics contract,
          ¬ violation.IsDisagreement := by
  have hmeasured := measured_of_measure hbenchmark hmeasure
  have hpromised := promised_of_measure hbenchmark hmeasure
  refine ⟨hpromised.total, ?_, hpromised.metricNames, hpromised.metrics, ?_⟩
  · intro run hrun name hname
    exact hpromised.phase name ((hpromised.phases name).mpr ⟨run, hrun, hname⟩)
  · intro contract hagrees violation hviolation
    rcases List.mem_append.mp hviolation with hprovenance | hmetric
    · exact (isRemark_of_mem_requireMeasurementProvenance hmeasured hpromised hagrees violation
        hprovenance).not_isDisagreement
    · exact (isRemark_of_mem_requireCustomMetrics hpromised hagrees violation
        hmetric).not_isDisagreement

/-- Twenty runs, an exact metric and one that must not grow. -/
def loadedBenchmark : AspRustScenarioBenchmarkSpec :=
  { startupBenchmark "local runs" with
    measureIterations := 20
    metrics := [⟨"rows", "count", .exact, some 7⟩, ⟨"buffers", "count", .maximum, some 64⟩] }

/-- The runs take from 1.31 to 1.5 milliseconds, in no order. -/
def loadedRuns : Runs := fun index =>
  (1500000 - 10000 * (index * 7 % 20), {
    memoryBytes := 2048
    phaseTimings := ((∅ : OrderedMap String Duration).insert "check" (1000 * index)).insert "parse"
      (800000 - 1000 * index)
    metrics := ((∅ : OrderedMap String U64).insert "buffers" (Fin.ofNat _ (20 + index % 8))).insert
      "rows" 7 })

/-- The state after the twenty runs that follow the one of the warmup. -/
def loadedState : MeasureState where
  totals := (List.range 20).map fun index => 1500000 - 10000 * ((1 + index) * 7 % 20)
  phaseSamples := ((∅ : OrderedMap String (List Duration)).insert "check"
    ((List.range 20).map fun index => 1000 * (1 + index))).insert "parse"
      ((List.range 20).map fun index => 800000 - 1000 * (1 + index))
  phaseNames := some ["check", "parse"]
  metricSamples := ((∅ : OrderedMap String (List U64)).insert "buffers"
    ((List.range 20).map fun index => Fin.ofNat _ (20 + (1 + index) % 8))).insert "rows"
      ((List.range 20).map fun _ => 7)
  metricNames := some ["buffers", "rows"]
  observedMemoryBytes := 2048

def loadedMetrics : OrderedMap String U64 :=
  ((∅ : OrderedMap String U64).insert "buffers" 27).insert "rows" 7

theorem percentile_loaded (percent : ℕ) :
    percentile loadedState.totals percent =
      ((List.range 20).map (1310000 + 10000 * ·)).getD (rankIndex 20 percent) 0 :=
  percentile_of_perm (by decide +kernel) (by decide +kernel) percent

theorem measure_loaded :
    measureAspRustScenario ⟨"startup", some loadedBenchmark⟩ loadedRuns =
      .ok (measurementOf loadedBenchmark loadedState loadedMetrics) := by
  refine (measure_eq_ok rfl).mpr ⟨loadedState, loadedMetrics, by decide, rfl, ?_, rfl, rfl, rfl⟩
  rw [percentile_loaded]
  decide

/-- The gate does not disagree about a benchmark of twenty runs, whose percentiles differ. -/
theorem loaded_not_refused :
    ∃ measurement,
      measureAspRustScenario ⟨"startup", some loadedBenchmark⟩ loadedRuns = .ok measurement ∧
      (measurement.totalP50, measurement.totalP95, measurement.totalMax) =
        (1400000, 1490000, 1500000) ∧
      ∀ violation ∈ requireMeasurementProvenance (measuredContract loadedBenchmark measurement
          2000000 1500000000 100000) ++
        requireCustomMetrics (measuredContract loadedBenchmark measurement
          2000000 1500000000 100000), ¬ violation.IsDisagreement := by
  have hagrees := agrees_measuredContract (measured_of_measure rfl measure_loaded)
    2000000 1500000000 100000
  obtain ⟨-, -, -, -, hgate⟩ := runner_gate_agree rfl measure_loaded
  refine ⟨_, measure_loaded, ?_, hgate _ hagrees⟩
  simp only [measurementOf, percentile_loaded]
  decide

end AspRust.Scenario
