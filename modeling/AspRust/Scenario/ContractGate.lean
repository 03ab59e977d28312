import AspRust.Foundation.PathText
import AspRust.Foundation.RelativeText
import AspRust.Foundation.Wildcard
import AspRust.Scenario.DurationGrammar
import AspRust.Scenario.Gate

/-!
# The gate on a contract

What a scenario and its benchmark must say before the policy takes them: the scenario names
itself, its references and the policies it is about, and the contract names one test or one
bench case, its thresholds and what was observed.  A check that fails appends a violation.

`Described`, `Stated` and `Kept` say the same without the order of the checks.  Two parts are
not read off one check: `IsPolicyId` is the grammar that the search in the parts of a policy id accepts, and
`FocusedEntry` is what three checks of the harness and the entry leave together.

### Layout

* The checks as the source makes them, with their texts.
* What they are for: the grammar of policy ids, the entry, the comparison, provenance and metrics,
  said without a check.
* One lemma for each check, `check = [] ↔ condition`, and from these the three verdicts.

A violation carries a kind, and the verdict depends on whether one of them is about the
contract.  `OnlyContract` and `ContractFree` sort the checks by that, so that the verdict is
read off the lists without going through them again.
-/

namespace AspRust.Scenario

open AspRust.Foundation

/-! ## Scenarios

What an agent reads about a scenario, and the checks of single fields that the checks of
the contract use again.  A text counts as written if there is something in it besides
white space. -/

/-- What an agent reads about a scenario. -/
structure RustScenarioMetadata where
  id : String
  title : String
  policyIds : List String
  agentGoal : String
  referenceRepositories : List String
  referencePatterns : List String
  inputs : String
  expected : String
deriving DecidableEq, Repr

inductive RustScenarioBenchmarkStatus where
  | pass
  | fail
  | invalid
deriving DecidableEq, Repr

/-- A text with something other than white space. -/
def IsWritten (value : String) : Prop := trim value.toList ≠ []

instance (value : String) : Decidable (IsWritten value) := inferInstanceAs (Decidable (_ ≠ _))

def requireNonEmptyList (field : String) (values : List String) :
    List RustScenarioBenchmarkViolation :=
  violationIf (values = [] ∨ ∃ value ∈ values, trim value.toList = []) field
    "list must contain at least one non-empty value"

def requirePositive (field : String) (value : ℕ) : List RustScenarioBenchmarkViolation :=
  violationIf (value = 0) field "field must be greater than zero"

/-! ## Policy ids

The grammar of a policy id as the source checks it, by a search in the parts between
hyphens.  `IsPolicyId` says below what the search accepts. -/

def scenarioPolicyIdGrammar : String := "RUST-AGENT-<TAGS>-<NUMBER>"

def agentToken : List Char := "AGENT".toList

def isUpperToken : List Char → Bool
  | [] => false
  | c :: rest => c.isUpper && rest.all fun d => d.isUpper || d.isDigit

def isAsciiDigits (value : List Char) : Bool := value ≠ [] && value.all Char.isDigit

/-- The parts of an id are upper tokens around the first `AGENT`, then a number. -/
def isAgentPolicyId (value : List Char) : Bool :=
  let parts := splitWhen (· = '-') value
  if parts.length < 4 then false
  else
    match parts.findIdx? (· = agentToken) with
    | none => false
    | some agentIndex =>
        if agentIndex = 0 ∨ parts.length ≤ agentIndex + 2 then false
        else
          (parts.take agentIndex).all isUpperToken &&
            ((parts.take (parts.length - 1)).drop (agentIndex + 1)).all isUpperToken &&
            parts.getLast?.any fun number =>
              -- the length of digits is the same in bytes and in characters
              decide (3 ≤ number.length) && isAsciiDigits number

def isScenarioPolicyId (value : String) : Bool := isAgentPolicyId value.toList

def requirePolicyIds (field : String) (policyIds : List String) :
    List RustScenarioBenchmarkViolation :=
  if policyIds = [] then [contractViolation field "at least one policy id is required"]
  else
    policyIds.zipIdx.flatMap fun entry =>
      violationIf (isScenarioPolicyId entry.1 = false) (field ++ "[" ++ toString entry.2 ++ "]")
        ("policy id must match " ++ scenarioPolicyIdGrammar)

/-! ## Entries

A contract names a harness and what it runs: a test, or a case of a bench.  An entry
that runs the gate itself is refused, since it would measure the check of the contract. -/

def supportedHarnesses : List (List Char) :=
  ["libtest".toList, "criterion".toList, "divan".toList, "iai-callgrind".toList]

def requireSupportedHarness (harness : String) : List RustScenarioBenchmarkViolation :=
  if trim harness.toList = [] then []
  else
    violationIf (trim harness.toList ∉ supportedHarnesses) "benchmark.harness"
      "harness must be one of libtest, criterion, divan, or iai-callgrind"

def nonEmptyOpt (value : Option String) : Option (List Char) :=
  (value.map fun text => trim text.toList).filter (· ≠ [])

def requireBenchmarkEntry (benchmark : RustScenarioBenchmarkContract) :
    List RustScenarioBenchmarkViolation :=
  let case := nonEmptyOpt benchmark.case
  match nonEmptyOpt benchmark.test, nonEmptyOpt benchmark.bench with
  | none, none => [contractViolation "benchmark.entry"
      "set either test for libtest gates or bench plus case for benchmark harnesses"]
  | some _, some _ =>
      [contractViolation "benchmark.entry" "set either test or bench, not both"]
  | some _, none =>
      violationIf (trim benchmark.harness.toList ≠ "libtest".toList) "benchmark.test"
          "test entries must use harness = \"libtest\"" ++
        violationIf (case.isSome = true) "benchmark.case" "case is only valid with bench targets"
  | none, some _ =>
      violationIf (trim benchmark.harness.toList = "libtest".toList) "benchmark.bench"
          "bench entries must use criterion, divan, or iai-callgrind" ++
        violationIf (case.isNone = true) "benchmark.case"
          "bench entries must name a focused benchmark case, group, or function"

def isAsciiWhitespace (c : Char) : Bool :=
  c = ' ' || c = '\t' || c = '\n' || c = '\x0c' || c = '\r'

def splitAsciiWhitespace (text : List Char) : List (List Char) :=
  (splitWhen isAsciiWhitespace text).filter (· ≠ [])

def targetsContractGate (token : List Char) : Bool :=
  token = "assert_rule_fixture_scenario_benchmarks".toList ||
    "_rule_fixtures_have_scenario_benchmarks".toList.isSuffixOf token

/-- The texts that name what is run. -/
def RustScenarioBenchmarkContract.entryTexts (benchmark : RustScenarioBenchmarkContract) :
    List String :=
  [benchmark.test, benchmark.bench, benchmark.case, benchmark.snapshot].filterMap id

def benchmarkEntryTargetsContractGate (benchmark : RustScenarioBenchmarkContract) : Bool :=
  benchmark.entryTexts.any fun value =>
    (splitAsciiWhitespace value.toList).any targetsContractGate

/-! ## Comparisons -/

def requireInputExpectedComparison (benchmark : RustScenarioBenchmarkContract) :
    List RustScenarioBenchmarkViolation :=
  match benchmark.inputExpectedComparison with
  | none => []
  | some comparison =>
      requirePositive "benchmark.input_expected_comparison.input_total" comparison.inputTotal ++
        requirePositive "benchmark.input_expected_comparison.expected_total"
          comparison.expectedTotal ++
        requirePositive "benchmark.input_expected_comparison.input_memory_bytes"
          comparison.inputMemoryBytes ++
        requirePositive "benchmark.input_expected_comparison.expected_memory_bytes"
          comparison.expectedMemoryBytes ++
        requireNonEmpty "benchmark.input_expected_comparison.interpretation"
          comparison.interpretation ++
        if comparison.inputTotal ≤ comparison.expectedTotal ∨
            comparison.inputMemoryBytes ≤ comparison.expectedMemoryBytes then
          requireNonEmpty "benchmark.input_expected_comparison.expected_not_faster_annotation"
            (comparison.expectedNotFasterAnnotation.getD "")
        else []

/-! ## The gate

The checks in the order of the source, those about the contract first.  All of them are
made; the verdict is read off the kinds of what they found. -/

/-- 500 ms. -/
def rustScenarioBenchmarkHardMaxTotal : Duration := 500000000

/-- The checks of the contract, before what was observed is held against it. -/
def scenarioContractViolations (scenario : RustScenarioMetadata)
    (benchmark : RustScenarioBenchmarkContract) : List RustScenarioBenchmarkViolation :=
  requireNonEmpty "scenario.id" scenario.id ++
    requireNonEmpty "scenario.title" scenario.title ++
    requireNonEmpty "scenario.agent_goal" scenario.agentGoal ++
    requireNonEmpty "scenario.inputs" scenario.inputs ++
    requireNonEmpty "scenario.expected" scenario.expected ++
    requireNonEmptyList "scenario.reference_repositories" scenario.referenceRepositories ++
    requireNonEmptyList "scenario.reference_patterns" scenario.referencePatterns ++
    requirePolicyIds "scenario.policy_ids" scenario.policyIds ++
    requireNonEmpty "benchmark.harness" benchmark.harness ++
    requireSupportedHarness benchmark.harness ++
    requireBenchmarkEntry benchmark ++
    violationIf (benchmarkEntryTargetsContractGate benchmark = true) "benchmark.entry"
      ("benchmark entry must name a focused Rust test or bench case, not the scenario " ++
        "benchmark contract gate") ++
    requireNonEmpty "benchmark.target_rationale" benchmark.targetRationale ++
    requireInputExpectedComparison benchmark ++
    requirePositive "benchmark.target_total" benchmark.targetTotal ++
    requirePositive "benchmark.max_total" benchmark.maxTotal ++
    requirePositive "benchmark.regression_budget" benchmark.regressionBudget ++
    requirePositive "benchmark.memory_budget_bytes" benchmark.memoryBudgetBytes ++
    violationIf (benchmark.observedTimings.keys = []) "benchmark.observed_timings"
      "at least one timing phase is required" ++
    requireMeasurementProvenance benchmark ++
    violationIf (benchmark.maxTotal < benchmark.targetTotal) "benchmark.target_total"
      "target_total must be less than or equal to max_total" ++
    violationIf (rustScenarioBenchmarkHardMaxTotal < benchmark.maxTotal) "benchmark.max_total"
      ("max_total must be <= " ++ displayDuration rustScenarioBenchmarkHardMaxTotal ++
        " for the hard gate")

def scenarioBenchmarkViolations (scenario : RustScenarioMetadata)
    (benchmark : RustScenarioBenchmarkContract) : List RustScenarioBenchmarkViolation :=
  scenarioContractViolations scenario benchmark ++
    (if benchmark.maxTotal < benchmark.observedTotal then
      [⟨.performance, "benchmark.observed_total",
        "observed " ++ displayDuration benchmark.observedTotal ++ " exceeds max " ++
          displayDuration benchmark.maxTotal⟩]
    else []) ++
    (if benchmark.memoryBudgetBytes < benchmark.observedMemoryBytes then
      [⟨.memory, "benchmark.observed_memory_bytes",
        "observed " ++ toString benchmark.observedMemoryBytes.val ++ " bytes exceeds budget " ++
          toString benchmark.memoryBudgetBytes.val ++ " bytes"⟩]
    else []) ++
    requireCustomMetrics benchmark

def scenarioBenchmarkStatus (violations : List RustScenarioBenchmarkViolation) :
    RustScenarioBenchmarkStatus :=
  if violations.any fun violation => violation.kind = .contract then .invalid
  else if violations = [] then .pass
  else .fail

/-! ## Policy ids by their grammar

An id is taken apart at the first `AGENT` among its parts, so the parts before it are
upper tokens of another kind.  An id that is given by its parts is accepted by the
search, and an accepted one is cut into its parts. -/

def UpperToken (token : List Char) : Prop := isUpperToken token = true

/-- Upper tokens around an `AGENT`, the first of its kind, then a number of three digits or
more. -/
inductive IsPolicyId : List Char → Prop where
  | intro {leading tags : List (List Char)} {number : List Char} (hleading : leading ≠ [])
      (hbefore : ∀ token ∈ leading, UpperToken token ∧ token ≠ agentToken) (htags : tags ≠ [])
      (hafter : ∀ token ∈ tags, UpperToken token) (hlong : 3 ≤ number.length)
      (hnumber : ∀ c ∈ number, c.isDigit = true) :
      IsPolicyId (['-'].intercalate (leading ++ agentToken :: (tags ++ [number])))

/-- A hyphen is in no token. -/
theorem UpperToken.hyphen_notMem {token : List Char} (h : UpperToken token) : '-' ∉ token := by
  intro hmem
  cases token with
  | nil => cases hmem
  | cons c rest =>
      have hparts := Bool.and_eq_true_iff.mp h
      rcases List.mem_cons.mp hmem with rfl | hrest
      · exact absurd hparts.1 (by decide)
      · have hlater := List.all_eq_true.mp hparts.2 _ hrest
        exact absurd hlater (by decide)

theorem hyphen_notMem_of_isDigit {number : List Char} (h : ∀ c ∈ number, c.isDigit = true) :
    '-' ∉ number := by
  intro hmem
  exact absurd (h _ hmem) (by decide)

/-- Pieces joined again by their separator are the text. -/
theorem intercalate_splitWhen (c : Char) (text : List Char) :
    [c].intercalate (splitWhen (· = c) text) = text := by
  induction text with
  | nil => rfl
  | cons head rest ih =>
      rw [splitWhen]
      have hne := splitWhen_ne_nil (· = c) rest
      obtain ⟨piece, pieces, hpieces⟩ := List.exists_cons_of_ne_nil hne
      rw [hpieces] at ih ⊢
      split
      · next hhead =>
          obtain rfl := of_decide_eq_true hhead
          rw [List.intercalate_cons_cons, ih]
          rfl
      · cases pieces with
        | nil =>
            rw [List.intercalate_singleton] at ih ⊢
            rw [ih]
        | cons second others =>
            rw [List.intercalate_cons_cons] at ih ⊢
            rw [List.cons_append, List.cons_append, ih]

/-- What is before the first element of a kind, that element, and what is after it. -/
theorem findIdx?_eq_some_iff_append {α : Type*} {p : α → Bool} {list : List α} {index : ℕ} :
    list.findIdx? p = some index ↔
      ∃ before found after, list = before ++ found :: after ∧ before.length = index ∧
        p found = true ∧ ∀ x ∈ before, p x = false := by
  rw [List.findIdx?_eq_some_iff_getElem]
  constructor
  · rintro ⟨hlt, hfound, hbefore⟩
    refine ⟨list.take index, list[index], list.drop (index + 1), ?_, ?_, hfound, ?_⟩
    · rw [List.getElem_cons_drop, List.take_append_drop]
    · rw [List.length_take, Nat.min_eq_left hlt.le]
    · intro x hx
      obtain ⟨position, hposition, rfl⟩ := List.mem_take_iff_getElem.mp hx
      exact Bool.eq_false_iff.mpr (hbefore position (by omega))
  · rintro ⟨before, found, after, rfl, rfl, hfound, hbefore⟩
    refine ⟨by simp, by simpa using hfound, fun position hposition => ?_⟩
    rw [List.getElem_append_left hposition]
    exact Bool.eq_false_iff.mp (hbefore _ (List.getElem_mem hposition))

/-- The parts of a policy id. -/
structure PolicyIdParts (leading tags : List (List Char)) (number : List Char) : Prop where
  leading : leading ≠ [] ∧ ∀ token ∈ leading, UpperToken token ∧ token ≠ agentToken
  tags : tags ≠ [] ∧ ∀ token ∈ tags, UpperToken token
  number : 3 ≤ number.length ∧ ∀ c ∈ number, c.isDigit = true

theorem length_policyIdParts (leading tags : List (List Char)) (number : List Char) :
    (leading ++ agentToken :: (tags ++ [number])).length = leading.length + tags.length + 2 := by
  simp only [List.length_append, List.length_cons, List.length_nil]
  omega

/-- The search, on an id that is given by its parts. -/
theorem isAgentPolicyId_of_parts {value : List Char} {leading tags : List (List Char)}
    {number : List Char}
    (hparts : splitWhen (· = '-') value = leading ++ agentToken :: (tags ++ [number]))
    (hfirst : ∀ token ∈ leading, token ≠ agentToken) :
    isAgentPolicyId value = true ↔ PolicyIdParts leading tags number := by
  have hindex : (splitWhen (· = '-') value).findIdx? (· = agentToken) = some leading.length :=
    findIdx?_eq_some_iff_append.mpr ⟨leading, agentToken, _, hparts, rfl, by simp,
      fun token htoken => decide_eq_false (hfirst token htoken)⟩
  have hleading : (splitWhen (· = '-') value).take leading.length = leading := by
    rw [hparts, List.take_left]
  have htags : ((splitWhen (· = '-') value).take
      ((splitWhen (· = '-') value).length - 1)).drop (leading.length + 1) = tags := by
    have hsplit : leading ++ agentToken :: (tags ++ [number]) =
        (leading ++ agentToken :: tags) ++ [number] := by simp
    rw [hparts, hsplit, List.length_append, List.length_singleton, Nat.add_sub_cancel,
      List.take_left, List.drop_append, List.drop_of_length_le (Nat.le_succ _)]
    simp
  have hlast : (splitWhen (· = '-') value).getLast? = some number := by
    rw [hparts, List.getLast?_append_of_ne_nil _ (List.cons_ne_nil _ _), ← List.cons_append,
      List.getLast?_concat]
  have hlength : (splitWhen (· = '-') value).length = leading.length + tags.length + 2 := by
    rw [hparts, length_policyIdParts]
  unfold isAgentPolicyId
  dsimp only
  rw [hindex]
  dsimp only
  rw [hleading, htags, hlast, hlength, Option.any_some]
  simp only [List.length_eq_zero_iff]
  constructor
  · intro h
    split at h
    · cases h
    · split at h
      · cases h
      · next hplace =>
          rw [not_or] at hplace
          obtain ⟨hbefore, hroom⟩ := hplace
          simp only [Bool.and_eq_true, List.all_eq_true, decide_eq_true_eq] at h
          obtain ⟨⟨hupper, htagged⟩, hlong, hdigits⟩ := h
          refine ⟨⟨hbefore, fun token htoken => ⟨hupper token htoken, hfirst token htoken⟩⟩,
            ⟨?_, htagged⟩, hlong, ?_⟩
          · rintro rfl
            simp at hroom
          · exact List.all_eq_true.mp (Bool.and_eq_true_iff.mp hdigits).2
  · intro h
    have hpositive : 0 < leading.length := List.length_pos_iff.mpr h.leading.1
    have htagged : 0 < tags.length := List.length_pos_iff.mpr h.tags.1
    have hnumber : number ≠ [] := by
      rintro rfl
      exact absurd h.number.1 (by decide)
    rw [if_neg (by omega), if_neg (by rw [not_or]; exact ⟨h.leading.1, by omega⟩)]
    simp only [Bool.and_eq_true, List.all_eq_true, decide_eq_true_eq]
    exact ⟨⟨fun token htoken => (h.leading.2 token htoken).1, h.tags.2⟩, h.number.1,
      Bool.and_eq_true_iff.mpr ⟨decide_eq_true hnumber, List.all_eq_true.mpr h.number.2⟩⟩

/-- **The search accepts the grammar.** -/
theorem isAgentPolicyId_iff {value : List Char} :
    isAgentPolicyId value = true ↔ IsPolicyId value := by
  constructor
  · intro h
    cases hindex : (splitWhen (· = '-') value).findIdx? (· = agentToken) with
    | none => simp [isAgentPolicyId, hindex] at h
    | some agentIndex =>
        obtain ⟨leading, found, after, hparts, rfl, hfound, hfirst⟩ :=
          findIdx?_eq_some_iff_append.mp hindex
        obtain rfl : found = agentToken := of_decide_eq_true hfound
        obtain rfl | ⟨tags, number, rfl⟩ := List.eq_nil_or_concat' after
        · -- Nothing is left for a number.
          have hlength : (splitWhen (· = '-') value).length = leading.length + 1 := by
            rw [hparts, List.length_append, List.length_singleton]
          have hnoroom : (splitWhen (· = '-') value).length ≤ leading.length + 2 := by omega
          simp [isAgentPolicyId, hindex, hnoroom] at h
        · have hid := (isAgentPolicyId_of_parts hparts fun token htoken =>
            of_decide_eq_false (hfirst token htoken)).mp h
          rw [← intercalate_splitWhen '-' value, hparts]
          exact IsPolicyId.intro hid.leading.1 hid.leading.2 hid.tags.1 hid.tags.2 hid.number.1
            hid.number.2
  · rintro ⟨hleading, hbefore, htags, hafter, hlong, hnumber⟩
    refine (isAgentPolicyId_of_parts (splitWhen_intercalate (by simp) ?_)
      fun token htoken => (hbefore token htoken).2).mpr
        ⟨⟨hleading, hbefore⟩, ⟨htags, hafter⟩, hlong, hnumber⟩
    · intro piece hpiece
      simp only [List.mem_append, List.mem_cons, List.not_mem_nil, or_false] at hpiece
      rcases hpiece with hmem | rfl | hmem | rfl
      · exact (hbefore piece hmem).1.hyphen_notMem
      · decide
      · exact (hafter piece hmem).hyphen_notMem
      · exact hyphen_notMem_of_isDigit hnumber

/-! ## What a contract states

The specification of the verdicts.  It is split as they are: what is said of the
scenario, what the contract states whatever was observed, and what was observed. -/

/-- An optional text that says something. -/
def Says (value : Option String) : Prop := ∃ text, value = some text ∧ IsWritten text

/-- One thing to run: a test, with the harness for tests, or a case of a bench. -/
inductive FocusedEntry (benchmark : RustScenarioBenchmarkContract) : Prop where
  | test (hharness : trim benchmark.harness.toList = "libtest".toList)
      (htest : Says benchmark.test) (hbench : ¬ Says benchmark.bench)
      (hcase : ¬ Says benchmark.case)
  | bench (hharness : trim benchmark.harness.toList ∈
        ["criterion".toList, "divan".toList, "iai-callgrind".toList])
      (htest : ¬ Says benchmark.test) (hbench : Says benchmark.bench)
      (hcase : Says benchmark.case)

/-- A comparison of input and expected output, with a remark where the output is no better. -/
structure RustScenarioBenchmarkInputExpectedComparison.Explained
    (comparison : RustScenarioBenchmarkInputExpectedComparison) : Prop where
  totals : comparison.inputTotal ≠ 0 ∧ comparison.expectedTotal ≠ 0
  memory : comparison.inputMemoryBytes.val ≠ 0 ∧ comparison.expectedMemoryBytes.val ≠ 0
  interpretation : IsWritten comparison.interpretation
  annotated : comparison.inputTotal ≤ comparison.expectedTotal ∨
    comparison.inputMemoryBytes ≤ comparison.expectedMemoryBytes →
      Says comparison.expectedNotFasterAnnotation

/-- The observations are the 95th percentiles of a measurement.  Phases have distributions
together or not at all. -/
structure MeasurementFits (benchmark : RustScenarioBenchmarkContract)
    (measurement : RustScenarioBenchmarkMeasurement) : Prop where
  clock : measurement.clock = "std::time::Instant"
  statistic : measurement.statistic = "p95"
  samples : measurement.measureIterations ≠ 0
  ordered : measurement.total.Ordered
  total : benchmark.observedTotal = measurement.totalP95 ∧ measurement.totalP95 ≠ 0
  phases : ∀ entry ∈ benchmark.observedTimings.entries,
    ¬ "_count".toList <:+ entry.1.toList ∧ entry.2 ≠ 0
  distributions : ∀ entry ∈ benchmark.phaseDistributions.entries,
    entry.2.Ordered ∧ benchmark.observedTimings.get? entry.1 = some entry.2.p95
  covered : benchmark.phaseDistributions.keys = [] ∨
    benchmark.phaseDistributions.keys = benchmark.observedTimings.keys

/-- Where there are metrics there is a measurement. -/
def HasProvenance (benchmark : RustScenarioBenchmarkContract) : Prop :=
  match benchmark.measurement with
  | none => benchmark.metrics.keys = []
  | some measurement => MeasurementFits benchmark measurement

/-- A metric has a target unless it is a stable one. -/
def RustScenarioBenchmarkMetric.Declared (metric : RustScenarioBenchmarkMetric) : Prop :=
  metric.target = none ↔ metric.kind = .stable

/-- What is said of the scenario. -/
structure RustScenarioMetadata.Described (scenario : RustScenarioMetadata) : Prop where
  named : IsWritten scenario.id ∧ IsWritten scenario.title ∧ IsWritten scenario.agentGoal
  folders : IsWritten scenario.inputs ∧ IsWritten scenario.expected
  repositories : scenario.referenceRepositories ≠ [] ∧
    ∀ value ∈ scenario.referenceRepositories, IsWritten value
  patterns : scenario.referencePatterns ≠ [] ∧
    ∀ value ∈ scenario.referencePatterns, IsWritten value
  policies : scenario.policyIds ≠ [] ∧ ∀ id ∈ scenario.policyIds, IsPolicyId id.toList

/-- What a contract states, whatever was observed. -/
structure RustScenarioBenchmarkContract.Stated (benchmark : RustScenarioBenchmarkContract) :
    Prop where
  entry : FocusedEntry benchmark
  notTheGate : ∀ text ∈ benchmark.entryTexts, ∀ token ∈ splitAsciiWhitespace text.toList,
    targetsContractGate token = false
  rationale : IsWritten benchmark.targetRationale
  comparison : ∀ comparison ∈ benchmark.inputExpectedComparison, comparison.Explained
  thresholds : 0 < benchmark.targetTotal ∧ benchmark.targetTotal ≤ benchmark.maxTotal ∧
    benchmark.maxTotal ≤ rustScenarioBenchmarkHardMaxTotal
  budgets : 0 < benchmark.regressionBudget ∧ 0 < benchmark.memoryBudgetBytes.val
  timed : benchmark.observedTimings.keys ≠ []
  provenance : HasProvenance benchmark
  metrics : ∀ entry ∈ benchmark.metrics.entries,
    IsWritten entry.1 ∧ IsWritten entry.2.unit ∧ entry.2.Declared

/-- An observed value that is as its target wants it. -/
def RustScenarioBenchmarkMetric.Met (metric : RustScenarioBenchmarkMetric) : Prop :=
  ∀ target ∈ metric.target,
    match metric.kind with
    | .stable => True
    | .exact => metric.observed = target
    | .maximum => metric.observed ≤ target
    | .minimum => target ≤ metric.observed

/-- What was observed is within what the contract states. -/
structure RustScenarioBenchmarkContract.Kept (benchmark : RustScenarioBenchmarkContract) :
    Prop where
  total : benchmark.observedTotal ≤ benchmark.maxTotal
  memory : benchmark.observedMemoryBytes ≤ benchmark.memoryBudgetBytes
  metrics : ∀ entry ∈ benchmark.metrics.entries, entry.2.Met

/-! ## One check at a time

Each check has no finding exactly if a condition of the specification holds.  Three
checks share one condition, about the harness and the entry, and are taken together. -/

@[simp] theorem violationIf_eq_nil_iff {condition : Prop} [Decidable condition]
    {field message : String} : violationIf condition field message = [] ↔ ¬ condition := by
  unfold violationIf
  split <;> simp_all

theorem requireNonEmpty_eq_nil_iff {field value : String} :
    requireNonEmpty field value = [] ↔ IsWritten value := violationIf_eq_nil_iff

theorem requirePositive_eq_nil_iff {field : String} {value : ℕ} :
    requirePositive field value = [] ↔ value ≠ 0 := violationIf_eq_nil_iff

theorem requireNonEmptyList_eq_nil_iff {field : String} {values : List String} :
    requireNonEmptyList field values = [] ↔
      values ≠ [] ∧ ∀ value ∈ values, IsWritten value := by
  rw [requireNonEmptyList, violationIf_eq_nil_iff, not_or]
  simp only [not_exists, not_and, IsWritten, ne_eq]

theorem requirePolicyIds_eq_nil_iff {field : String} {policyIds : List String} :
    requirePolicyIds field policyIds = [] ↔
      policyIds ≠ [] ∧ ∀ id ∈ policyIds, IsPolicyId id.toList := by
  unfold requirePolicyIds
  split
  · next hempty => simp [hempty]
  · next hne =>
      have hone : ∀ entry : String × ℕ, violationIf (isScenarioPolicyId entry.1 = false)
          (field ++ "[" ++ toString entry.2 ++ "]")
          ("policy id must match " ++ scenarioPolicyIdGrammar) = [] ↔
            IsPolicyId entry.1.toList := by
        intro entry
        rw [violationIf_eq_nil_iff, Bool.not_eq_false]
        exact isAgentPolicyId_iff
      rw [List.flatMap_eq_nil_iff, and_iff_right hne]
      constructor
      · intro h id hid
        obtain ⟨index, hindex, rfl⟩ := List.getElem_of_mem hid
        exact (hone (policyIds[index], index)).mp (h _ (List.mk_mem_zipIdx_iff_getElem?.mpr
          (List.getElem?_eq_getElem hindex)))
      · rintro h ⟨id, index⟩ hmem
        exact (hone (id, index)).mpr
          (h id (List.mem_of_getElem? (List.mk_mem_zipIdx_iff_getElem?.mp hmem)))

theorem nonEmptyOpt_isSome_iff {value : Option String} :
    (nonEmptyOpt value).isSome = true ↔ Says value := by
  cases value with
  | none => simp [nonEmptyOpt, Says]
  | some text =>
      simp only [nonEmptyOpt, Option.map_some, Says, Option.some.injEq, exists_eq_left',
        IsWritten]
      rw [Option.isSome_filter]
      simp

/-- **The harness and the entry.**  Three checks of a contract leave a test or a bench case. -/
theorem entryChecks_eq_nil_iff {benchmark : RustScenarioBenchmarkContract} :
    (requireNonEmpty "benchmark.harness" benchmark.harness = [] ∧
      requireSupportedHarness benchmark.harness = [] ∧ requireBenchmarkEntry benchmark = []) ↔
        FocusedEntry benchmark := by
  have htest := @nonEmptyOpt_isSome_iff benchmark.test
  have hbench := @nonEmptyOpt_isSome_iff benchmark.bench
  have hcase := @nonEmptyOpt_isSome_iff benchmark.case
  constructor
  · rintro ⟨hwritten, hsupported, hentry⟩
    rw [requireNonEmpty_eq_nil_iff, IsWritten] at hwritten
    rw [requireSupportedHarness, if_neg hwritten, violationIf_eq_nil_iff, not_not] at hsupported
    unfold requireBenchmarkEntry at hentry
    dsimp only at hentry
    cases hfirst : nonEmptyOpt benchmark.test with
    | none =>
        cases hsecond : nonEmptyOpt benchmark.bench with
        | none => simp [hfirst, hsecond] at hentry
        | some _ =>
            rw [hfirst, hsecond] at hentry
            simp only [List.append_eq_nil_iff, violationIf_eq_nil_iff] at hentry
            rw [hfirst] at htest
            rw [hsecond] at hbench
            refine FocusedEntry.bench ?_ ?_ (hbench.mp rfl) (hcase.mp ?_)
            · exact (List.mem_cons.mp hsupported).resolve_left hentry.1
            · exact fun hsays => absurd (htest.mpr hsays) (by simp)
            · simpa [Option.isNone_iff_eq_none, Option.isSome_iff_ne_none] using hentry.2
    | some _ =>
        cases hsecond : nonEmptyOpt benchmark.bench with
        | some _ => simp [hfirst, hsecond] at hentry
        | none =>
            rw [hfirst, hsecond] at hentry
            simp only [List.append_eq_nil_iff, violationIf_eq_nil_iff, not_not] at hentry
            rw [hfirst] at htest
            rw [hsecond] at hbench
            refine FocusedEntry.test hentry.1 (htest.mp rfl) ?_ fun hsays => ?_
            · exact fun hsays => absurd (hbench.mpr hsays) (by simp)
            · exact hentry.2 (hcase.mpr hsays)
  · rintro (⟨hharness, hsays, hnobench, hnocase⟩ | ⟨hharness, hnotest, hsays, hsayscase⟩)
    · have hwritten : trim benchmark.harness.toList ≠ [] := by
        rw [hharness]
        decide
      obtain ⟨test, hfirst⟩ := Option.isSome_iff_exists.mp (htest.mpr hsays)
      have hsecond : nonEmptyOpt benchmark.bench = none := by
        rw [← Option.not_isSome_iff_eq_none]
        exact fun h => hnobench (hbench.mp h)
      refine ⟨requireNonEmpty_eq_nil_iff.mpr hwritten, ?_, ?_⟩
      · rw [requireSupportedHarness, if_neg hwritten, violationIf_eq_nil_iff, not_not, hharness]
        exact List.mem_cons_self
      · unfold requireBenchmarkEntry
        rw [hfirst, hsecond]
        simp only [List.append_eq_nil_iff, violationIf_eq_nil_iff, not_not]
        exact ⟨hharness, fun h => hnocase (hcase.mp h)⟩
    · have hwritten : trim benchmark.harness.toList ≠ [] := by
        intro hempty
        rw [hempty] at hharness
        exact absurd hharness (by decide)
      have hfirst : nonEmptyOpt benchmark.test = none := by
        rw [← Option.not_isSome_iff_eq_none]
        exact fun h => hnotest (htest.mp h)
      obtain ⟨bench, hsecond⟩ := Option.isSome_iff_exists.mp (hbench.mpr hsays)
      refine ⟨requireNonEmpty_eq_nil_iff.mpr hwritten, ?_, ?_⟩
      · rw [requireSupportedHarness, if_neg hwritten, violationIf_eq_nil_iff, not_not]
        exact List.mem_cons_of_mem _ hharness
      · unfold requireBenchmarkEntry
        rw [hfirst, hsecond]
        simp only [List.append_eq_nil_iff, violationIf_eq_nil_iff]
        refine ⟨fun hlibtest => ?_, ?_⟩
        · rw [hlibtest] at hharness
          exact absurd hharness (by decide)
        · rw [Bool.not_eq_true, Option.isNone_eq_false_iff]
          exact hcase.mpr hsayscase

theorem requireInputExpectedComparison_eq_nil_iff {benchmark : RustScenarioBenchmarkContract} :
    requireInputExpectedComparison benchmark = [] ↔
      ∀ comparison ∈ benchmark.inputExpectedComparison, comparison.Explained := by
  unfold requireInputExpectedComparison
  cases benchmark.inputExpectedComparison with
  | none => simp
  | some comparison =>
      have hannotation : IsWritten (comparison.expectedNotFasterAnnotation.getD "") ↔
          Says comparison.expectedNotFasterAnnotation := by
        cases comparison.expectedNotFasterAnnotation with
        | none => simp [IsWritten, Says, trim]
        | some text => simp [Says]
      have hlast : (if comparison.inputTotal ≤ comparison.expectedTotal ∨
            comparison.inputMemoryBytes ≤ comparison.expectedMemoryBytes then
          requireNonEmpty "benchmark.input_expected_comparison.expected_not_faster_annotation"
            (comparison.expectedNotFasterAnnotation.getD "")
        else []) = [] ↔ (comparison.inputTotal ≤ comparison.expectedTotal ∨
            comparison.inputMemoryBytes ≤ comparison.expectedMemoryBytes →
              Says comparison.expectedNotFasterAnnotation) := by
        split
        · next hworse => rw [requireNonEmpty_eq_nil_iff, hannotation, imp_iff_right hworse]
        · next hbetter => simp [hbetter]
      simp only [List.append_eq_nil_iff, requirePositive_eq_nil_iff, requireNonEmpty_eq_nil_iff,
        hlast, Option.mem_def, Option.some.injEq, forall_eq']
      constructor
      · rintro ⟨⟨⟨⟨⟨hinput, hexpected⟩, hmemory⟩, hmemory'⟩, htext⟩, hannotated⟩
        exact ⟨⟨hinput, hexpected⟩, ⟨hmemory, hmemory'⟩, htext, hannotated⟩
      · rintro ⟨⟨hinput, hexpected⟩, ⟨hmemory, hmemory'⟩, htext, hannotated⟩
        exact ⟨⟨⟨⟨⟨hinput, hexpected⟩, hmemory⟩, hmemory'⟩, htext⟩, hannotated⟩

/-! ## Provenance

Where a measurement is given, its numbers have to fit together and with what the
contract says was observed.  The checks go through the phases one by one; what they
leave is a statement about all phases. -/

theorem requirePhase_eq_nil_iff
    {distributions : OrderedMap String RustScenarioBenchmarkPhaseDistribution} {name : String}
    {timing : Duration} :
    requirePhase distributions name timing = [] ↔
      (¬ "_count".toList <:+ name.toList ∧ timing ≠ 0) ∧
        ∀ distribution ∈ distributions.get? name,
          distribution.Ordered ∧ timing = distribution.p95 := by
  unfold requirePhase
  rw [List.append_eq_nil_iff, List.append_eq_nil_iff, violationIf_eq_nil_iff,
    violationIf_eq_nil_iff]
  refine and_congr_right fun _ => ?_
  cases distributions.get? name with
  | none => simp
  | some distribution => simp

/-- Phases with distributions are all the phases, if they are as many. -/
theorem keys_eq_of_length_eq {K V W : Type*} [LinearOrder K] {m : OrderedMap K V}
    {n : OrderedMap K W} (hsub : ∀ k ∈ m.keys, k ∈ n.keys)
    (hlength : m.keys.length = n.keys.length) : m.keys = n.keys := by
  have hperm : m.keys.Perm n.keys :=
    (List.subperm_of_subset m.nodup_keys hsub).perm_of_length_le hlength.ge
  exact OrderedMap.keys_ext fun k => hperm.mem_iff

/-- **The checks of a measurement.**  The last three of them, one timing and one distribution
at a time, leave no distribution or one for each phase. -/
theorem requireMeasurementProvenance_eq_nil_iff {benchmark : RustScenarioBenchmarkContract} :
    requireMeasurementProvenance benchmark = [] ↔ HasProvenance benchmark := by
  unfold requireMeasurementProvenance HasProvenance
  cases benchmark.measurement with
  | none =>
      dsimp only
      split
      · next hempty => simp [hempty]
      · next hmetrics => simp [hmetrics]
  | some measurement =>
      dsimp only
      simp only [List.append_eq_nil_iff, violationIf_eq_nil_iff, List.flatMap_eq_nil_iff,
        requirePhase_eq_nil_iff, not_not]
      constructor
      · rintro ⟨⟨⟨⟨⟨⟨⟨⟨hclock, hstatistic⟩, hsamples⟩, hordered⟩, htotal⟩, hzero⟩, hphases⟩,
          htimed⟩, hcovered⟩
        refine ⟨hclock, hstatistic, hsamples, hordered, ⟨htotal, hzero⟩,
          fun entry hentry => (hphases entry hentry).1, ?_, ?_⟩
        · rintro ⟨name, distribution⟩ hentry
          have hget := OrderedMap.get?_eq_some_iff.mpr hentry
          obtain ⟨timing, htiming⟩ := OrderedMap.mem_keys_iff.mp
            (htimed name (OrderedMap.mem_keys_iff.mpr ⟨distribution, hget⟩))
          obtain ⟨horder, rfl⟩ :=
            (hphases (name, timing) (OrderedMap.get?_eq_some_iff.mp htiming)).2 distribution hget
          exact ⟨horder, htiming⟩
        · by_cases hnone : benchmark.phaseDistributions.keys = []
          · exact Or.inl hnone
          · refine Or.inr (keys_eq_of_length_eq htimed ?_)
            rw [not_and, not_not] at hcovered
            exact hcovered hnone
      · intro h
        refine ⟨⟨⟨⟨⟨⟨⟨⟨h.clock, h.statistic⟩, h.samples⟩, h.ordered⟩, h.total.1⟩, h.total.2⟩,
          ?_⟩, ?_⟩, ?_⟩
        · rintro ⟨name, timing⟩ hentry
          refine ⟨h.phases _ hentry, fun distribution hdistribution => ?_⟩
          obtain ⟨horder, htiming⟩ :=
            h.distributions _ (OrderedMap.get?_eq_some_iff.mp hdistribution)
          rw [OrderedMap.get?_eq_some_iff.mpr hentry] at htiming
          exact ⟨horder, Option.some.inj htiming⟩
        · intro name hname
          obtain ⟨distribution, hdistribution⟩ := OrderedMap.mem_keys_iff.mp hname
          obtain ⟨-, htiming⟩ :=
            h.distributions _ (OrderedMap.get?_eq_some_iff.mp hdistribution)
          exact OrderedMap.mem_keys_iff.mpr ⟨_, htiming⟩
        · rintro ⟨hne, hlength⟩
          obtain hnone | hall := h.covered
          · exact hne hnone
          · exact hlength (congrArg List.length hall)

/-! ## Metrics

A metric has checks of both kinds: whether it is declared well, and whether the observed
value is as its target wants it. -/

theorem judgeMetric_eq_nil_iff {passes : Bool} {field : String}
    {metric : RustScenarioBenchmarkMetric} {target : U64} :
    judgeMetric passes field metric target = [] ↔ passes = true := by
  unfold judgeMetric
  split <;> simp_all

theorem requireCustomMetric_eq_nil_iff {name : String} {metric : RustScenarioBenchmarkMetric} :
    requireCustomMetric name metric = [] ↔
      (IsWritten name ∧ IsWritten metric.unit ∧ metric.Declared) ∧ metric.Met := by
  obtain ⟨unit, kind, target, observed⟩ := metric
  unfold requireCustomMetric
  rw [List.append_eq_nil_iff, List.append_eq_nil_iff, requireNonEmpty_eq_nil_iff,
    requireNonEmpty_eq_nil_iff, and_assoc, and_assoc, and_assoc]
  refine and_congr_right fun _ => and_congr_right fun _ => ?_
  cases kind <;> cases target <;>
    simp [RustScenarioBenchmarkMetric.Declared, RustScenarioBenchmarkMetric.Met,
      judgeMetric_eq_nil_iff]

/-! ## The verdict

The verdict is invalid if some violation is about the contract, and else a pass or a
failure.  So what is needed of each list of violations is whether it can have one of
that kind, and whether it is empty. -/

/-- Nothing of the list is about the contract. -/
def ContractFree (violations : List RustScenarioBenchmarkViolation) : Prop :=
  ∀ violation ∈ violations, violation.kind ≠ .contract

/-- All of the list is about the contract. -/
def OnlyContract (violations : List RustScenarioBenchmarkViolation) : Prop :=
  ∀ violation ∈ violations, violation.kind = .contract

@[simp] theorem contractFree_append {first second : List RustScenarioBenchmarkViolation} :
    ContractFree (first ++ second) ↔ ContractFree first ∧ ContractFree second :=
  List.forall_mem_append

@[simp] theorem onlyContract_append {first second : List RustScenarioBenchmarkViolation} :
    OnlyContract (first ++ second) ↔ OnlyContract first ∧ OnlyContract second :=
  List.forall_mem_append

@[simp] theorem onlyContract_nil : OnlyContract [] := fun _ h => absurd h List.not_mem_nil

@[simp] theorem onlyContract_contractViolation {field message : String} :
    OnlyContract [contractViolation field message] := by
  intro violation h
  rw [List.mem_singleton.mp h]
  rfl

@[simp] theorem onlyContract_violationIf {condition : Prop} [Decidable condition]
    {field message : String} : OnlyContract (violationIf condition field message) := by
  unfold violationIf
  split <;> simp

@[simp] theorem onlyContract_requireNonEmpty {field value : String} :
    OnlyContract (requireNonEmpty field value) := onlyContract_violationIf

@[simp] theorem onlyContract_requireNonEmptyList {field : String} {values : List String} :
    OnlyContract (requireNonEmptyList field values) := onlyContract_violationIf

@[simp] theorem onlyContract_requirePositive {field : String} {value : ℕ} :
    OnlyContract (requirePositive field value) := onlyContract_violationIf

theorem onlyContract_flatMap {α : Type*} {list : List α}
    {check : α → List RustScenarioBenchmarkViolation} (h : ∀ x, OnlyContract (check x)) :
    OnlyContract (list.flatMap check) := by
  intro violation hmem
  obtain ⟨x, -, hx⟩ := List.mem_flatMap.mp hmem
  exact h x violation hx

theorem OnlyContract.contractFree_iff {violations : List RustScenarioBenchmarkViolation}
    (h : OnlyContract violations) : ContractFree violations ↔ violations = [] := by
  constructor
  · intro hfree
    rw [List.eq_nil_iff_forall_not_mem]
    exact fun violation hmem => hfree violation hmem (h violation hmem)
  · rintro rfl
    exact fun _ hmem => absurd hmem List.not_mem_nil

theorem onlyContract_requireBenchmarkEntry (benchmark : RustScenarioBenchmarkContract) :
    OnlyContract (requireBenchmarkEntry benchmark) := by
  unfold requireBenchmarkEntry
  dsimp only
  split
  · exact onlyContract_contractViolation
  · exact onlyContract_contractViolation
  · exact onlyContract_append.mpr ⟨onlyContract_violationIf, onlyContract_violationIf⟩
  · exact onlyContract_append.mpr ⟨onlyContract_violationIf, onlyContract_violationIf⟩

theorem onlyContract_requireInputExpectedComparison (benchmark : RustScenarioBenchmarkContract) :
    OnlyContract (requireInputExpectedComparison benchmark) := by
  unfold requireInputExpectedComparison
  split
  · exact onlyContract_nil
  · simp only [onlyContract_append, onlyContract_requirePositive, onlyContract_requireNonEmpty,
      true_and]
    split
    · exact onlyContract_requireNonEmpty
    · exact onlyContract_nil

theorem onlyContract_requireMeasurementProvenance (benchmark : RustScenarioBenchmarkContract) :
    OnlyContract (requireMeasurementProvenance benchmark) := by
  have hphase : ∀ name timing,
      OnlyContract (requirePhase benchmark.phaseDistributions name timing) := by
    intro name timing
    unfold requirePhase
    split <;> simp
  unfold requireMeasurementProvenance
  split
  · split <;> simp
  · simp only [onlyContract_append, onlyContract_violationIf, true_and, and_true]
    exact ⟨onlyContract_flatMap fun entry => hphase _ _,
      onlyContract_flatMap fun name => onlyContract_violationIf⟩

theorem onlyContract_requirePolicyIds (field : String) (policyIds : List String) :
    OnlyContract (requirePolicyIds field policyIds) := by
  unfold requirePolicyIds
  split
  · simp
  · exact onlyContract_flatMap fun entry => onlyContract_violationIf

theorem onlyContract_scenarioContractViolations (scenario : RustScenarioMetadata)
    (benchmark : RustScenarioBenchmarkContract) :
    OnlyContract (scenarioContractViolations scenario benchmark) := by
  have hharness : OnlyContract (requireSupportedHarness benchmark.harness) := by
    unfold requireSupportedHarness
    split <;> simp
  unfold scenarioContractViolations
  simp only [onlyContract_append, onlyContract_requireNonEmpty, onlyContract_requireNonEmptyList,
    onlyContract_requirePositive, onlyContract_violationIf, onlyContract_requirePolicyIds,
    hharness, onlyContract_requireBenchmarkEntry, onlyContract_requireInputExpectedComparison,
    onlyContract_requireMeasurementProvenance, and_self]

/-- What the checks of the contract ask for. -/
theorem scenarioContractViolations_eq_nil_iff {scenario : RustScenarioMetadata}
    {benchmark : RustScenarioBenchmarkContract} :
    scenarioContractViolations scenario benchmark = [] ↔
      scenario.Described ∧ FocusedEntry benchmark ∧
        (∀ text ∈ benchmark.entryTexts, ∀ token ∈ splitAsciiWhitespace text.toList,
          targetsContractGate token = false) ∧
        IsWritten benchmark.targetRationale ∧
        (∀ comparison ∈ benchmark.inputExpectedComparison, comparison.Explained) ∧
        (0 < benchmark.targetTotal ∧ benchmark.targetTotal ≤ benchmark.maxTotal ∧
          benchmark.maxTotal ≤ rustScenarioBenchmarkHardMaxTotal) ∧
        (0 < benchmark.regressionBudget ∧ 0 < benchmark.memoryBudgetBytes.val) ∧
        benchmark.observedTimings.keys ≠ [] ∧ HasProvenance benchmark := by
  have hgate : ¬ benchmarkEntryTargetsContractGate benchmark = true ↔
      ∀ text ∈ benchmark.entryTexts, ∀ token ∈ splitAsciiWhitespace text.toList,
        targetsContractGate token = false := by
    rw [Bool.not_eq_true, benchmarkEntryTargetsContractGate, List.any_eq_false]
    simp only [List.any_eq_false, Bool.not_eq_true]
  unfold scenarioContractViolations
  simp only [List.append_eq_nil_iff, requireNonEmpty_eq_nil_iff, requireNonEmptyList_eq_nil_iff,
    requirePolicyIds_eq_nil_iff, requireInputExpectedComparison_eq_nil_iff,
    requirePositive_eq_nil_iff, requireMeasurementProvenance_eq_nil_iff, violationIf_eq_nil_iff,
    hgate, not_lt, ← entryChecks_eq_nil_iff]
  constructor
  · rintro ⟨⟨⟨⟨⟨⟨⟨⟨⟨⟨⟨⟨⟨⟨⟨⟨⟨⟨⟨⟨⟨hid, htitle⟩, hgoal⟩, hinputs⟩, hexpected⟩, hrepositories⟩,
      hpatterns⟩, hpolicies⟩, hharness⟩, hsupported⟩, hentry⟩, hnotgate⟩, hrationale⟩,
      hcomparison⟩, htarget⟩, hmax⟩, hregression⟩, hmemory⟩, htimed⟩, hprovenance⟩, hbelow⟩,
      hhard⟩
    exact ⟨⟨⟨hid, htitle, hgoal⟩, ⟨hinputs, hexpected⟩, hrepositories, hpatterns, hpolicies⟩,
      ⟨hharness, hsupported, hentry⟩, hnotgate, hrationale, hcomparison,
      ⟨Nat.pos_of_ne_zero htarget, hbelow, hhard⟩,
      ⟨Nat.pos_of_ne_zero hregression, Nat.pos_of_ne_zero hmemory⟩, htimed, hprovenance⟩
  · rintro ⟨⟨⟨hid, htitle, hgoal⟩, ⟨hinputs, hexpected⟩, hrepositories, hpatterns, hpolicies⟩,
      ⟨hharness, hsupported, hentry⟩, hnotgate, hrationale, hcomparison, ⟨htarget, hbelow, hhard⟩,
      ⟨hregression, hmemory⟩, htimed, hprovenance⟩
    exact ⟨⟨⟨⟨⟨⟨⟨⟨⟨⟨⟨⟨⟨⟨⟨⟨⟨⟨⟨⟨⟨hid, htitle⟩, hgoal⟩, hinputs⟩, hexpected⟩, hrepositories⟩,
      hpatterns⟩, hpolicies⟩, hharness⟩, hsupported⟩, hentry⟩, hnotgate⟩, hrationale⟩,
      hcomparison⟩, htarget.ne'⟩, (htarget.trans_le hbelow).ne'⟩, hregression.ne'⟩, hmemory.ne'⟩,
      htimed⟩, hprovenance⟩, hbelow⟩, hhard⟩

theorem contractFree_requireCustomMetric_iff {name : String}
    {metric : RustScenarioBenchmarkMetric} :
    ContractFree (requireCustomMetric name metric) ↔
      IsWritten name ∧ IsWritten metric.unit ∧ metric.Declared := by
  have hjudge : ∀ passes field (metric : RustScenarioBenchmarkMetric) target,
      ContractFree (judgeMetric passes field metric target) := by
    intro passes field metric target violation hmem
    unfold judgeMetric at hmem
    split at hmem
    · cases hmem
    · rw [List.mem_singleton.mp hmem]
      exact nofun
  have hstated : ∀ field message, ¬ ContractFree [contractViolation field message] :=
    fun field message h => h _ (List.mem_singleton_self _) rfl
  have hnil : ContractFree [] := fun _ h => absurd h List.not_mem_nil
  obtain ⟨unit, kind, target, observed⟩ := metric
  unfold requireCustomMetric
  rw [contractFree_append, contractFree_append, onlyContract_requireNonEmpty.contractFree_iff,
    onlyContract_requireNonEmpty.contractFree_iff, requireNonEmpty_eq_nil_iff,
    requireNonEmpty_eq_nil_iff, and_assoc]
  refine and_congr_right fun _ => and_congr_right fun _ => ?_
  cases kind <;> cases target <;>
    simp [RustScenarioBenchmarkMetric.Declared, hjudge, hstated, hnil]

section Verdict

variable {scenario : RustScenarioMetadata} {benchmark : RustScenarioBenchmarkContract}

/-- Nothing is said of a contract that states what it must. -/
theorem contractFree_scenarioBenchmarkViolations_iff :
    ContractFree (scenarioBenchmarkViolations scenario benchmark) ↔
      scenario.Described ∧ benchmark.Stated := by
  have htotal : ∀ message, ContractFree (if benchmark.maxTotal < benchmark.observedTotal then
      [⟨.performance, "benchmark.observed_total", message⟩] else []) := by
    intro message violation hmem
    split at hmem
    · rw [List.mem_singleton.mp hmem]
      exact nofun
    · cases hmem
  have hmemory : ∀ message, ContractFree
      (if benchmark.memoryBudgetBytes < benchmark.observedMemoryBytes then
        [⟨.memory, "benchmark.observed_memory_bytes", message⟩] else []) := by
    intro message violation hmem
    split at hmem
    · rw [List.mem_singleton.mp hmem]
      exact nofun
    · cases hmem
  have hmetrics : ContractFree (requireCustomMetrics benchmark) ↔
      ∀ entry ∈ benchmark.metrics.entries,
        IsWritten entry.1 ∧ IsWritten entry.2.unit ∧ entry.2.Declared := by
    rw [requireCustomMetrics, ContractFree, List.forall_mem_flatMap]
    exact forall₂_congr fun entry _ => contractFree_requireCustomMetric_iff
  unfold scenarioBenchmarkViolations
  rw [contractFree_append, contractFree_append, contractFree_append, hmetrics,
    (onlyContract_scenarioContractViolations scenario benchmark).contractFree_iff,
    scenarioContractViolations_eq_nil_iff, and_iff_left (hmemory _), and_iff_left (htotal _)]
  constructor
  · rintro ⟨⟨hdescribed, hentry, hnotgate, hrationale, hcomparison, hthresholds, hbudgets, htimed,
      hprovenance⟩, hdeclared⟩
    exact ⟨hdescribed, hentry, hnotgate, hrationale, hcomparison, hthresholds, hbudgets, htimed,
      hprovenance, hdeclared⟩
  · rintro ⟨hdescribed, h⟩
    exact ⟨⟨hdescribed, h.entry, h.notTheGate, h.rationale, h.comparison, h.thresholds, h.budgets,
      h.timed, h.provenance⟩, h.metrics⟩

/-- The gate is silent where the contract is stated and kept. -/
theorem scenarioBenchmarkViolations_eq_nil_iff :
    scenarioBenchmarkViolations scenario benchmark = [] ↔
      (scenario.Described ∧ benchmark.Stated) ∧ benchmark.Kept := by
  have hmetrics : requireCustomMetrics benchmark = [] ↔
      (∀ entry ∈ benchmark.metrics.entries,
        IsWritten entry.1 ∧ IsWritten entry.2.unit ∧ entry.2.Declared) ∧
        ∀ entry ∈ benchmark.metrics.entries, entry.2.Met := by
    rw [requireCustomMetrics, List.flatMap_eq_nil_iff, ← forall₂_and]
    exact forall₂_congr fun entry _ => requireCustomMetric_eq_nil_iff
  unfold scenarioBenchmarkViolations
  rw [List.append_eq_nil_iff, List.append_eq_nil_iff, List.append_eq_nil_iff, hmetrics,
    scenarioContractViolations_eq_nil_iff, ite_eq_right_iff, ite_eq_right_iff]
  simp only [List.cons_ne_nil, imp_false, not_lt]
  constructor
  · rintro ⟨⟨⟨⟨hdescribed, hentry, hnotgate, hrationale, hcomparison, hthresholds, hbudgets, htimed,
      hprovenance⟩, htotal⟩, hmemory⟩, hdeclared, hmet⟩
    exact ⟨⟨hdescribed, hentry, hnotgate, hrationale, hcomparison, hthresholds, hbudgets, htimed,
      hprovenance, hdeclared⟩, htotal, hmemory, hmet⟩
  · rintro ⟨⟨hdescribed, h⟩, hkept⟩
    exact ⟨⟨⟨⟨hdescribed, h.entry, h.notTheGate, h.rationale, h.comparison, h.thresholds,
      h.budgets, h.timed, h.provenance⟩, hkept.total⟩, hkept.memory⟩, h.metrics, hkept.metrics⟩

theorem scenarioBenchmarkStatus_eq_invalid_iff {violations : List RustScenarioBenchmarkViolation} :
    scenarioBenchmarkStatus violations = .invalid ↔ ¬ ContractFree violations := by
  have hany : (violations.any fun violation => violation.kind = .contract) = true ↔
      ¬ ContractFree violations := by
    simp [ContractFree]
  unfold scenarioBenchmarkStatus
  split
  · next h => exact iff_of_true rfl (hany.mp h)
  · next h =>
      refine iff_of_false ?_ fun hcontract => h (hany.mpr hcontract)
      split <;> exact nofun

theorem scenarioBenchmarkStatus_eq_pass_iff {violations : List RustScenarioBenchmarkViolation} :
    scenarioBenchmarkStatus violations = .pass ↔ violations = [] := by
  constructor
  · intro h
    unfold scenarioBenchmarkStatus at h
    split at h
    · cases h
    · split at h
      · assumption
      · cases h
  · rintro rfl
    rfl

end Verdict

/-- **The three verdicts.**  A contract is invalid unless the scenario is described and the
contract states what it must; one that does passes or fails with what was observed. -/
theorem scenarioBenchmarkStatus_spec (scenario : RustScenarioMetadata)
    (benchmark : RustScenarioBenchmarkContract) :
    let status := scenarioBenchmarkStatus (scenarioBenchmarkViolations scenario benchmark)
    (status = .pass ↔ scenario.Described ∧ benchmark.Stated ∧ benchmark.Kept) ∧
      (status = .fail ↔ scenario.Described ∧ benchmark.Stated ∧ ¬ benchmark.Kept) ∧
      (status = .invalid ↔ ¬ (scenario.Described ∧ benchmark.Stated)) := by
  intro status
  have hpass : status = .pass ↔ scenario.Described ∧ benchmark.Stated ∧ benchmark.Kept := by
    rw [← and_assoc, ← scenarioBenchmarkViolations_eq_nil_iff]
    exact scenarioBenchmarkStatus_eq_pass_iff
  have hinvalid : status = .invalid ↔ ¬ (scenario.Described ∧ benchmark.Stated) := by
    rw [← contractFree_scenarioBenchmarkViolations_iff]
    exact scenarioBenchmarkStatus_eq_invalid_iff
  refine ⟨hpass, ?_, hinvalid⟩
  constructor
  · intro hfail
    rw [hfail] at hpass hinvalid
    obtain ⟨hdescribed, hstated⟩ := not_not.mp fun h => nomatch hinvalid.mpr h
    exact ⟨hdescribed, hstated, fun hkept => nomatch hpass.mpr ⟨hdescribed, hstated, hkept⟩⟩
  · rintro ⟨hdescribed, hstated, hmissed⟩
    cases hstatus : status with
    | pass => exact absurd (hpass.mp hstatus).2.2 hmissed
    | fail => rfl
    | invalid => exact absurd ⟨hdescribed, hstated⟩ (hinvalid.mp hstatus)

end AspRust.Scenario
