import AspRust.Analysis.ProjectPolicy
import AspRust.Parser.AsyncBoundaries
import AspRust.Parser.DispatchChains

/-!
# Algorithm shape

`rules/agent_policy/algorithm_shape.rs`: the rules about the body of a function.  The facts of a
function are what the collectors count; a rule compares them with its limits and reports the
function.  `functionFindings_eq` says of every rule which functions it reports, by the body alone.

The twelve rules have their ids, texts, labels and limits as the source has them.  They differ
in what they count and in the comparison, so each keeps its own test; how findings are put
together is one definition for all of them.  What a count means is said by specifications that
mention no collector, in `Parser.ControlFlow` and its companions.
-/

namespace AspRust.AgentPolicy

open AspRust.Foundation AspRust.Analysis AspRust.Parser.FunctionBody

/-! ## The facts of a function

What the collectors of `Parser.ControlFlow` and its companions say of a function, in the
fields of the source, and the functions of a file with the test context they stand in. -/

/-- What the collectors say of a function. -/
structure RustFunctionControlFlowSyntax extends FlowCounts where
  line : ℕ
  functionName : String
  isPublic : Bool
  isAsync : Bool
  lineSpan : ℕ
  literalDispatchChainCount : ℕ
  repeatedIteratorSourceLoopCount : ℕ
  linearMembershipScanLoopCount : ℕ
  blockingCallCount : ℕ
  syncLockGuardAcrossAwaitCount : ℕ
  unboundedAsyncQueueCallCount : ℕ
  backpressureBoundarySignalCount : ℕ
  tokioSelectCancelUnsafeIoCount : ℕ
  tokioTimeoutCancelUnsafeIoCount : ℕ
  discardedTokioSpawnCount : ℕ
  isTestContext : Bool
deriving DecidableEq, Repr

def attributeHasCfgTest (attr : Attribute) : Bool :=
  attr.path = ["cfg"] && containsSlice "test".toList attr.text.toList

def attrsHaveCfgTest (attrs : List Attribute) : Bool := attrs.any attributeHasCfgTest

def itemLineSpan (item : FunctionItem) : ℕ :=
  let start := max item.startLine 1
  let stop := max item.endLine start
  stop - start + 1

/-- A function with the test context of the implementation around it. -/
structure ContextFunction where
  item : FunctionItem
  inheritedTestContext : Bool

namespace ContextFunction

/-- The facts of a function or a method. -/
def facts (function : ContextFunction) : RustFunctionControlFlowSyntax :=
  let item := function.item
  { toFlowCounts := flowCounts item.block
    line := max item.identLine 1
    functionName := item.ident
    isPublic := item.isPublic
    isAsync := item.isAsync
    lineSpan := itemLineSpan item
    literalDispatchChainCount := literalDispatchChainCount item.block
    repeatedIteratorSourceLoopCount := repeatedIteratorSourceLoopCount item.block
    linearMembershipScanLoopCount := linearMembershipScanLoopCount item.block
    blockingCallCount := blockingCallCount item.block
    syncLockGuardAcrossAwaitCount := syncLockGuardAcrossAwaitCount item.inputs item.block
    unboundedAsyncQueueCallCount := unboundedAsyncQueueCallCount item.block
    backpressureBoundarySignalCount := backpressureBoundarySignalCount item.ident item.block
    tokioSelectCancelUnsafeIoCount := tokioSelectCancelUnsafeIoCount item.block
    tokioTimeoutCancelUnsafeIoCount := tokioTimeoutCancelUnsafeIoCount item.block
    discardedTokioSpawnCount := discardedTokioSpawnCount item.block
    isTestContext := function.inheritedTestContext || attrsHaveCfgTest item.attrs }

end ContextFunction

/-- The functions of an item: itself, or those of an implementation. -/
def functionsOf : FileItem → List ContextFunction
  | .function item => [⟨item, false⟩]
  | .implementation attrs items =>
      items.filterMap fun item => item.map fun item => ⟨item, attrsHaveCfgTest attrs⟩
  | .other => []

/-- A parsed file, as far as the rules here look at it. -/
structure FunctionModule where
  report : RustModuleReport
  source : String
  items : List FileItem

namespace FunctionModule

variable (module : FunctionModule)

def functions : List ContextFunction := module.items.flatMap functionsOf

def allFunctionControlFlows : List RustFunctionControlFlowSyntax :=
  module.functions.map ContextFunction.facts

def publicFunctionControlFlows : List RustFunctionControlFlowSyntax :=
  module.allFunctionControlFlows.filter (·.isPublic)

end FunctionModule

/-! ## Rule catalog

The rules with their ids, titles and requirements, as they are in the source. -/

/-- A rule of the pack. -/
def agentRule (ruleId title requirement : String) : AspRustRule where
  ruleId := ruleId
  packId := "rust.agent_policy"
  severity := .info
  title := title
  requirement := requirement
  labels := ((∅ : OrderedMap String String).insert "language" "rust").insert "domain"
    "agent-policy"

def cfgPublicNestedFlow : AspRustRule := agentRule "RUST-AGENT-CFG-PUBLIC-015"
  "Public function hides algorithm behind nested control flow"
  "Expose public Rust algorithm shape through guard clauses, `match`, typed dispatch, or small named pipeline steps so agents can reason about the branch structure before editing."

def cfgPublicBroadSurface : AspRustRule := agentRule "RUST-AGENT-CFG-PUBLIC-016"
  "Public function owns a broad linear algorithm surface"
  "Split broad public Rust functions into small named helpers or pipeline steps so agents can edit one algorithm responsibility at a time."

def cfgImplNestedTraversal : AspRustRule := agentRule "RUST-AGENT-CFG-IMPL-025"
  "Implementation function nests traversal scaffolding"
  "Extract nested internal traversals into named iterator, predicate, or receipt-processing helpers so agents can see the algorithm boundary instead of extending raw loop and guard scaffolding."

def iterImplManualTransform : AspRustRule := agentRule "RUST-AGENT-ITER-IMPL-026"
  "Implementation function manually spells an iterator transform"
  "Use Rust iterator adapters or a named iterator helper when internal loops only map, filter, collect, count, sum, answer a predicate, or repeatedly scan the same iterator source."

def dataLinearMembershipScan : AspRustRule := agentRule "RUST-AGENT-DATA-MEMBERSHIP-029"
  "Function performs a linear membership scan inside a loop"
  "Build a `HashSet`, `BTreeSet`, `HashMap`, or `BTreeMap` index before the loop, or document why the nested linear scan is bounded, so agents preserve the algorithmic complexity contract."

def asyncBlockingBoundary : AspRustRule := agentRule "RUST-AGENT-ASYNC-BLOCKING-030"
  "Async task performs blocking work on the runtime"
  "Move blocking I/O, sleeps, or CPU-heavy loops behind `spawn_blocking`, a dedicated worker, or an explicit sync boundary so agents preserve Tokio runtime responsiveness."

def asyncSyncLockBoundary : AspRustRule := agentRule "RUST-AGENT-ASYNC-SYNC-LOCK-031"
  "Async task holds a sync lock guard across await"
  "Drop `std::sync` or `parking_lot` lock guards before `.await`, switch the boundary to `tokio::sync`, or isolate the critical section so agents preserve runtime progress and cancellation behavior."

def asyncBackpressureBoundary : AspRustRule := agentRule "RUST-AGENT-ASYNC-BACKPRESSURE-032"
  "Async queue lacks a backpressure boundary"
  "Use a bounded channel, expose `poll_ready`/`try_send`/`reserve`, or guard an unbounded channel with an explicit capacity or semaphore boundary so agents preserve async backpressure and memory behavior."

def asyncSelectCancelSafety : AspRustRule := agentRule "RUST-AGENT-ASYNC-CANCEL-SAFETY-033"
  "Tokio select branch uses cancellation-unsafe I/O"
  "Keep `tokio::select!` branches cancellation-safe; avoid `read_exact`, `read_to_end`, `read_to_string`, `write_all`, or `write_all_buf` inside select branches unless the partial-progress contract is explicit."

def asyncTimeoutCancelSafety : AspRustRule := agentRule "RUST-AGENT-ASYNC-CANCEL-SAFETY-034"
  "Tokio timeout wraps cancellation-unsafe I/O"
  "Keep `tokio::time::timeout` boundaries cancellation-safe; avoid wrapping `read_exact`, `read_to_end`, `read_to_string`, `write_all`, or `write_all_buf` unless partial progress is owned outside the timed future."

def asyncTaskLifecycle : AspRustRule := agentRule "RUST-AGENT-ASYNC-TASK-LIFECYCLE-001"
  "Tokio task handle is discarded"
  "Keep spawned Tokio tasks behind an explicit lifecycle contract: return, store, await, abort, or supervise the `JoinHandle`, or isolate intentionally detached work behind a named boundary."

def iterPublicManualTransform : AspRustRule := agentRule "RUST-AGENT-ITER-PUBLIC-017"
  "Public function manually spells an iterator transform"
  "Use Rust iterator adapters and consumers such as `map`, `filter`, `filter_map`, `collect`, `sum`, `count`, `any`, `all`, or a named iterator pipeline helper when loops only map, filter, collect, count, sum, answer a predicate, or repeatedly scan the same iterator source."

/-! ## Criteria

The limits, and the names of the criteria that a finding carries as labels.  A profile
is the text of what was found; the rule reports the function unless this text is empty. -/

def maxLinearNestingDepth : ℕ := 2
def maxNativeIdiomNestingDepth : ℕ := 2
def minBroadFunctionLines : ℕ := 72
def minBroadFunctionStatements : ℕ := 22
def minLinearBlockStatements : ℕ := 14
def minInternalTraversalNestingDepth : ℕ := 4
def minInternalTraversalLoopNestingDepth : ℕ := 2
def minInternalTraversalBranchCount : ℕ := 2

def softwareCriteriaLabel : String := "softwareCriteria"
def softwareCriterionCompactPrefix : String := "software-criterion/"
def controlFlowBroadLinearPhase : String := "control-flow.broad-linear-phase"
def controlFlowDecisionStack : String := "control-flow.decision-stack"
def controlFlowLiteralDispatchChain : String := "control-flow.literal-dispatch-chain"
def controlFlowTraversalKnot : String := "control-flow.traversal-knot"
def dataStructureLinearMembershipScan : String := "data-structure.linear-membership-scan"
def nativeIdiomManualTransformLoop : String := "native-idiom.manual-transform-loop"
def asyncBlockingBoundaryCriterion : String := "async.blocking-boundary"
def asyncSyncLockAcrossAwait : String := "async.sync-lock-across-await"
def asyncUnboundedQueueBackpressure : String := "async.unbounded-queue-backpressure"
def asyncSelectCancellationSafety : String := "async.select-cancellation-safety"
def asyncTimeoutCancellationSafety : String := "async.timeout-cancellation-safety"
def asyncTaskLifecycleBoundary : String := "async.task-lifecycle-boundary"

def compactSoftwareCriterion (criterionId : String) : String :=
  if softwareCriterionCompactPrefix.toList.isPrefixOf criterionId.toList then criterionId
  else softwareCriterionCompactPrefix ++ criterionId

def compactSoftwareCriteria (criterionIds : List String) : String :=
  ", ".intercalate (criterionIds.map compactSoftwareCriterion)

def withSoftwareCriteria (finding : AspRustFinding) (criterionIds : List String) :
    AspRustFinding :=
  { finding with labels := finding.labels.insert softwareCriteriaLabel (",".intercalate criterionIds) }

def pushSignal (criteria : List String) (signal : String) : List String :=
  if signal ∈ criteria then criteria else criteria ++ [signal]

def nestedAlgorithmSoftwareCriteria (profile : List String) : List String :=
  profile.foldl (fun criteria indicator =>
    if indicator ∈ ["deep control-flow nesting", "large branch surface without match"] then
      pushSignal criteria controlFlowDecisionStack
    else if indicator = "nested loops mixed with branches" then
      pushSignal criteria controlFlowTraversalKnot
    else if indicator = "literal dispatch chain without match" then
      pushSignal criteria controlFlowLiteralDispatchChain
    else criteria) []

/-- A text, if a condition holds. -/
def indicator (condition : Bool) (text : String) : List String := if condition then [text] else []

def nestedAlgorithmProfile (flow : RustFunctionControlFlowSyntax) : List String :=
  indicator (4 ≤ flow.maxNestingDepth) "deep control-flow nesting" ++
  indicator (2 ≤ flow.maxLoopNestingDepth && 3 ≤ flow.branchCount)
    "nested loops mixed with branches" ++
  indicator (0 < flow.literalDispatchChainCount) "literal dispatch chain without match" ++
  indicator (8 ≤ flow.branchCount && flow.matchCount = 0) "large branch surface without match"

def implementationTraversalProfile (flow : RustFunctionControlFlowSyntax) : List String :=
  indicator (minInternalTraversalNestingDepth ≤ flow.maxNestingDepth &&
      minInternalTraversalLoopNestingDepth ≤ flow.maxLoopNestingDepth &&
      minInternalTraversalBranchCount ≤ flow.branchCount)
    "nested loops guarded by branches" ++
  indicator (0 < flow.repeatedIteratorSourceLoopCount && 2 ≤ flow.branchCount)
    "repeated guarded scans over one source"

def broadLinearProfile (flow : RustFunctionControlFlowSyntax) : List String :=
  if maxLinearNestingDepth < flow.maxNestingDepth then []
  else
    indicator (minBroadFunctionLines ≤ flow.lineSpan &&
        minBroadFunctionStatements ≤ flow.statementCount)
      "long public function body" ++
    indicator (minLinearBlockStatements ≤ flow.maxBlockStatementCount)
      "large linear statement block"

def nativeIteratorIdiomProfile (flow : RustFunctionControlFlowSyntax) : List String :=
  if maxNativeIdiomNestingDepth < flow.maxNestingDepth then []
  else
    indicator (0 < flow.manualCollectionLoopCount) "manual collection accumulator loop" ++
    indicator (0 < flow.manualPredicateLoopCount) "manual predicate loop" ++
    indicator (0 < flow.manualCountLoopCount) "manual count loop" ++
    indicator (0 < flow.manualNumericAccumulatorLoopCount) "manual numeric accumulator loop" ++
    indicator (0 < flow.repeatedIteratorSourceLoopCount)
      "repeated pass over the same iterator source"

/-! ## Findings

One definition for all rules: the functions of a file outside tests whose facts the rule
is about, with the texts of the rule.  Two rules differ: the one about queues looks at
the whole file first, and the one about iterators at public functions only. -/

/-- A rule about functions: the facts it reports, and what it says of them. -/
structure ShapeRule where
  rule : AspRustRule
  reports : RustFunctionControlFlowSyntax → Bool
  criteria : RustFunctionControlFlowSyntax → List String
  /-- The summary, after the path of the file. -/
  summary : RustFunctionControlFlowSyntax → String
  label : String

namespace ShapeRule

variable (shape : ShapeRule) (module : FunctionModule)

def finding (flow : RustFunctionControlFlowSyntax) : AspRustFinding :=
  withSoftwareCriteria
    (.fromRule shape.rule (displayPath module.report.path ++ shape.summary flow)
      (pathLineLocation module.report.path flow.line) (sourceLine module.source flow.line)
      shape.label)
    (shape.criteria flow)

/-- The findings of a rule: test contexts are passed over. -/
def findings (flows : List RustFunctionControlFlowSyntax) : List AspRustFinding :=
  ((flows.filter fun flow => !flow.isTestContext).filter shape.reports).map (shape.finding module)

end ShapeRule

/-- The end of a summary. -/
def criteriaText (criteria : String) : String := ". Criteria: " ++ criteria ++ "."

def nestedAlgorithm : ShapeRule where
  rule := cfgPublicNestedFlow
  reports flow := !(nestedAlgorithmProfile flow).isEmpty
  criteria flow := nestedAlgorithmSoftwareCriteria (nestedAlgorithmProfile flow)
  summary flow := " public function `" ++ flow.functionName ++ "` hides algorithm shape" ++
    criteriaText (compactSoftwareCriteria
      (nestedAlgorithmSoftwareCriteria (nestedAlgorithmProfile flow)))
  label := "make this public algorithm shape explicit"

def broadLinearAlgorithm : ShapeRule where
  rule := cfgPublicBroadSurface
  reports flow := !(broadLinearProfile flow).isEmpty
  criteria _ := [controlFlowBroadLinearPhase]
  summary flow := " public function `" ++ flow.functionName ++ "` spans " ++
    toString flow.lineSpan ++ " lines with " ++ toString flow.statementCount ++
    " statements and a " ++ toString flow.maxBlockStatementCount ++ "-statement block" ++
    criteriaText (compactSoftwareCriterion controlFlowBroadLinearPhase)
  label := "split this broad function into named algorithm steps"

def implementationTraversal : ShapeRule where
  rule := cfgImplNestedTraversal
  reports flow := !flow.isPublic && !(implementationTraversalProfile flow).isEmpty
  criteria _ := [controlFlowTraversalKnot]
  summary flow := " implementation function `" ++ flow.functionName ++
    "` nests traversal scaffolding" ++
    criteriaText (compactSoftwareCriterion controlFlowTraversalKnot)
  label := "extract this traversal into named iterator, predicate, or receipt-processing helpers"

def implementationIteratorIdiom : ShapeRule where
  rule := iterImplManualTransform
  reports flow := !flow.isPublic && (implementationTraversalProfile flow).isEmpty &&
    !(nativeIteratorIdiomProfile flow).isEmpty
  criteria _ := [nativeIdiomManualTransformLoop]
  summary flow := " implementation function `" ++ flow.functionName ++
    "` manually spells iterator boilerplate" ++
    criteriaText (compactSoftwareCriterion nativeIdiomManualTransformLoop)
  label := "extract this loop into Rust iterator adapters or a named helper"

def linearMembershipScan : ShapeRule where
  rule := dataLinearMembershipScan
  reports flow := 0 < flow.linearMembershipScanLoopCount
  criteria _ := [dataStructureLinearMembershipScan]
  summary flow := " function `" ++ flow.functionName ++ "` performs " ++
    toString flow.linearMembershipScanLoopCount ++ " loop-local linear membership scan(s)" ++
    criteriaText (compactSoftwareCriterion dataStructureLinearMembershipScan)
  label := "build a set or map index before the loop, or document why this scan is bounded"

def asyncBlocking : ShapeRule where
  rule := asyncBlockingBoundary
  reports flow := flow.isAsync && 0 < flow.blockingCallCount
  criteria _ := [asyncBlockingBoundaryCriterion]
  summary flow := " async function `" ++ flow.functionName ++ "` performs " ++
    toString flow.blockingCallCount ++ " blocking call(s) without an explicit runtime boundary" ++
    criteriaText (compactSoftwareCriterion asyncBlockingBoundaryCriterion)
  label := "move blocking work behind spawn_blocking, block_in_place, or a dedicated synchronous boundary"

def asyncSyncLock : ShapeRule where
  rule := asyncSyncLockBoundary
  reports flow := flow.isAsync && 0 < flow.syncLockGuardAcrossAwaitCount
  criteria _ := [asyncSyncLockAcrossAwait]
  summary flow := " async function `" ++ flow.functionName ++ "` holds " ++
    toString flow.syncLockGuardAcrossAwaitCount ++ " sync lock guard(s) across `.await`" ++
    criteriaText (compactSoftwareCriterion asyncSyncLockAcrossAwait)
  label := "drop sync lock guards before `.await`, use `tokio::sync` primitives, or move the critical section behind a synchronous boundary"

def asyncUnboundedQueue : ShapeRule where
  rule := asyncBackpressureBoundary
  reports flow := 0 < flow.unboundedAsyncQueueCallCount
  criteria _ := [asyncUnboundedQueueBackpressure]
  summary flow := " function `" ++ flow.functionName ++ "` creates " ++
    toString flow.unboundedAsyncQueueCallCount ++
    " unbounded async queue(s) without a readiness or capacity boundary" ++
    criteriaText (compactSoftwareCriterion asyncUnboundedQueueBackpressure)
  label := "use a bounded channel or add an explicit poll_ready, try_send, reserve, or semaphore backpressure boundary"

def asyncSelectCancellation : ShapeRule where
  rule := asyncSelectCancelSafety
  reports flow := 0 < flow.tokioSelectCancelUnsafeIoCount
  criteria _ := [asyncSelectCancellationSafety]
  summary flow := " function `" ++ flow.functionName ++ "` places " ++
    toString flow.tokioSelectCancelUnsafeIoCount ++
    " cancellation-unsafe I/O future(s) inside `tokio::select!`" ++
    criteriaText (compactSoftwareCriterion asyncSelectCancellationSafety)
  label := "split exact read/write progress out of the select branch or use cancellation-safe read/write polling"

def asyncTimeoutCancellation : ShapeRule where
  rule := asyncTimeoutCancelSafety
  reports flow := 0 < flow.tokioTimeoutCancelUnsafeIoCount
  criteria _ := [asyncTimeoutCancellationSafety]
  summary flow := " function `" ++ flow.functionName ++ "` wraps " ++
    toString flow.tokioTimeoutCancelUnsafeIoCount ++
    " cancellation-unsafe I/O future(s) in `tokio::time::timeout`" ++
    criteriaText (compactSoftwareCriterion asyncTimeoutCancellationSafety)
  label := "move exact read/write progress outside the timeout future or use a cancellation-safe polling loop with explicit partial-progress state"

def asyncTaskBoundary : ShapeRule where
  rule := asyncTaskLifecycle
  reports flow := 0 < flow.discardedTokioSpawnCount
  criteria _ := [asyncTaskLifecycleBoundary]
  summary flow := " function `" ++ flow.functionName ++ "` discards " ++
    toString flow.discardedTokioSpawnCount ++
    " Tokio task handle(s) without a lifecycle boundary" ++
    criteriaText (compactSoftwareCriterion asyncTaskLifecycleBoundary)
  label := "return, store, await, abort, or supervise the JoinHandle, or isolate the task behind an explicit detached-task boundary"

/-- The criterion is written without its prefix here. -/
def nativeIteratorIdiom : ShapeRule where
  rule := iterPublicManualTransform
  reports flow := !(nativeIteratorIdiomProfile flow).isEmpty
  criteria _ := [nativeIdiomManualTransformLoop]
  summary flow := " public function `" ++ flow.functionName ++
    "` manually spells iterator boilerplate" ++ criteriaText nativeIdiomManualTransformLoop
  label := "replace this boilerplate loop with a Rust iterator idiom"

/-- No function outside tests gives a sign of backpressure. -/
def asyncUnboundedQueueBackpressureFindings (module : FunctionModule) : List AspRustFinding :=
  let hasBackpressureBoundary :=
    (module.allFunctionControlFlows.filter fun flow => !flow.isTestContext).any fun flow =>
      0 < flow.backpressureBoundarySignalCount
  if hasBackpressureBoundary then []
  else asyncUnboundedQueue.findings module module.allFunctionControlFlows

/-- The findings of one file, rule after rule. -/
def moduleShapeFindings (module : FunctionModule) : List AspRustFinding :=
  nestedAlgorithm.findings module module.publicFunctionControlFlows ++
  broadLinearAlgorithm.findings module module.publicFunctionControlFlows ++
  implementationTraversal.findings module module.allFunctionControlFlows ++
  implementationIteratorIdiom.findings module module.allFunctionControlFlows ++
  linearMembershipScan.findings module module.allFunctionControlFlows ++
  asyncBlocking.findings module module.allFunctionControlFlows ++
  asyncSyncLock.findings module module.allFunctionControlFlows ++
  asyncUnboundedQueueBackpressureFindings module ++
  asyncSelectCancellation.findings module module.allFunctionControlFlows ++
  asyncTimeoutCancellation.findings module module.allFunctionControlFlows ++
  asyncTaskBoundary.findings module module.allFunctionControlFlows

def algorithmShapeFindings (modules : List FunctionModule) : List AspRustFinding :=
  modules.flatMap moduleShapeFindings

def nativeIteratorIdiomFindings (modules : List FunctionModule) : List AspRustFinding :=
  modules.flatMap fun module =>
    nativeIteratorIdiom.findings module module.publicFunctionControlFlows

/-! ## What the facts are

Each fact is compared with the syntax tree: a count is the number of places of a kind, a
depth the largest number of nested places, and what depends on the names bound before is
a sum over places. -/

/-- The function is not in a test context. -/
def ContextFunction.InProduction (function : ContextFunction) : Prop :=
  function.inheritedTestContext = false ∧ attrsHaveCfgTest function.item.attrs = false

theorem inProduction_iff {function : ContextFunction} :
    function.facts.isTestContext = false ↔ function.InProduction := Bool.or_eq_false_iff

/-- An amount, added up over the places of a body. -/
def totalOf (amount : Visit → ℕ) (block : Block) : ℕ :=
  (block.places.map fun place => amount place.2).sum

open Classical in
/-- The facts of a function, by the places of its body. -/
structure RustFunctionControlFlowSyntax.Describe (facts : RustFunctionControlFlowSyntax)
    (item : FunctionItem) : Prop where
  counts : facts.toFlowCounts.Describe item.block
  literalDispatchChainCount :
    0 < facts.literalDispatchChainCount ↔ DispatchesIn item.block.tree
  /-- Every loop over a source but the first one is counted. -/
  repeatedIteratorSourceLoopCount :
    facts.repeatedIteratorSourceLoopCount + item.block.sources.toFinset.card =
      item.block.sources.length
  linearMembershipScanLoopCount : facts.linearMembershipScanLoopCount =
    item.block.places.countP fun place => decide (ScansMembers place.2)
  blockingCallCount : facts.blockingCallCount =
    item.block.places.countP fun place => decide (BlocksAt place)
  syncLockGuardAcrossAwaitCount : facts.syncLockGuardAcrossAwaitCount =
    totalOf (guardsHeldAtAwaits (syncLockReceiverBindings item.inputs)) item.block
  unboundedAsyncQueueCallCount : facts.unboundedAsyncQueueCallCount =
    totalOf unboundedQueueCalls item.block
  backpressureBoundarySignalCount : facts.backpressureBoundarySignalCount =
    totalOf backpressureBoundarySignals item.block +
      (functionNameIsBackpressureBoundary item.ident).toNat
  tokioSelectCancelUnsafeIoCount : facts.tokioSelectCancelUnsafeIoCount =
    totalOf selectCancelUnsafeIoCalls item.block
  tokioTimeoutCancelUnsafeIoCount : facts.tokioTimeoutCancelUnsafeIoCount =
    totalOf timeoutCancelUnsafeIoCalls item.block
  discardedTokioSpawnCount : facts.discardedTokioSpawnCount =
    totalOf discardedSpawnCalls item.block

/-- **The collectors describe the body of a function.**  Each of the counts, depths and
flags that they keep while they walk through the body is a quantity of its syntax tree,
defined without the walk: how often something occurs in it, how deep control flow is
nested, how many sources of loops are repeated, which guards are held where it awaits. -/
theorem ContextFunction.facts_describe (function : ContextFunction) :
    function.facts.Describe function.item where
  counts := flowCounts_describe _
  literalDispatchChainCount := literalDispatchChainCount_pos_iff
  repeatedIteratorSourceLoopCount := repeatedIteratorSourceLoopCount_spec _
  linearMembershipScanLoopCount := linearMembershipScanLoopCount_eq _
  blockingCallCount := blockingCallCount_eq _
  syncLockGuardAcrossAwaitCount := syncLockGuardAcrossAwaitCount_spec _ _
  unboundedAsyncQueueCallCount := counted_eq _ _
  backpressureBoundarySignalCount := congrArg (· + _) (counted_eq _ _)
  tokioSelectCancelUnsafeIoCount := counted_eq _ _
  tokioTimeoutCancelUnsafeIoCount := counted_eq _ _
  discardedTokioSpawnCount := counted_eq _ _

/-! ## What is reported

The conditions of the rules, said about the body.  A limit that a rule compares a depth
with becomes the existence of control flow nested that deep, and a limit of zero the
existence of a place. -/

/-- Control flow of a kind is nested to a depth. -/
def NestedTo (kind : Visit → Bool) (depth : ℕ) (block : Block) : Prop :=
  ∃ place ∈ block.places, depth ≤ depthOf kind place

/-- The branches of a body in all. -/
def branchSum (block : Block) : ℕ := totalOf branches block

/-- A visit of some kind occurs in a body. -/
def Occurs (wanted : Visit → Prop) (block : Block) : Prop := ∃ place ∈ block.places, wanted place.2

/-- A loop pushes to a collection bound before it. -/
def FillsCollection (block : Block) : Prop :=
  ∃ before place, (before, place) ∈ withBefore block.places ∧
    ForLoopWith (PushesTo fun name => ∃ other ∈ before, accumulatorOf other.2 = some name) place.2

/-- Two loops go through one source. -/
def RepeatsSource (block : Block) : Prop := ¬block.sources.Nodup

def HidesAlgorithm (block : Block) : Prop :=
  NestedTo isControl 4 block ∨ (NestedTo isLoop 2 block ∧ 3 ≤ branchSum block) ∨
    DispatchesIn block.tree ∨
    (8 ≤ branchSum block ∧ ¬Occurs (fun visit => isMatch visit = true) block)

def NestsTraversal (block : Block) : Prop :=
  (NestedTo isControl 4 block ∧ NestedTo isLoop 2 block ∧ 2 ≤ branchSum block) ∨
    (RepeatsSource block ∧ 2 ≤ branchSum block)

def SpellsIterator (block : Block) : Prop :=
  ¬NestedTo isControl 3 block ∧
    (FillsCollection block ∨ Occurs (ForLoopWith ReturnsBool) block ∨
      Occurs (ForLoopWith (Accumulates true)) block ∨
      Occurs (ForLoopWith (Accumulates false)) block ∨ RepeatsSource block)

/-- A long body, or a long block in it, with little nesting. -/
def SpreadsLinearly (item : FunctionItem) : Prop :=
  ¬NestedTo isControl 3 item.block ∧
    ((72 ≤ itemLineSpan item ∧ 22 ≤ item.block.places.countP fun place => isStmt place.2) ∨
      Occurs (fun visit => 14 ≤ blockSize visit) item.block)

section Counts

variable {block : Block}

theorem maxNestingDepth_iff {depth : ℕ} (hpos : 0 < depth) :
    depth ≤ (flowCounts block).maxNestingDepth ↔ NestedTo isControl depth block :=
  (flowCounts_describe block).maxNestingDepth.le_iff hpos

theorem maxLoopNestingDepth_iff {depth : ℕ} (hpos : 0 < depth) :
    depth ≤ (flowCounts block).maxLoopNestingDepth ↔ NestedTo isLoop depth block :=
  (flowCounts_describe block).maxLoopNestingDepth.le_iff hpos

theorem branchCount_eq : (flowCounts block).branchCount = branchSum block :=
  (flowCounts_describe block).branchCount

theorem matchCount_eq_zero_iff :
    (flowCounts block).matchCount = 0 ↔ ¬Occurs (fun visit => isMatch visit = true) block := by
  rw [(flowCounts_describe block).matchCount, List.countP_eq_zero]
  unfold Occurs
  push Not
  exact Iff.rfl

theorem manualCollectionLoopCount_pos_iff :
    0 < (flowCounts block).manualCollectionLoopCount ↔ FillsCollection block := by
  rw [(flowCounts_describe block).manualCollectionLoopCount, List.countP_pos_iff]
  simp only [decide_eq_true_eq, Prod.exists]
  unfold FillsCollection
  simp only [Prod.exists]

open Classical in
theorem countP_pos_iff_occurs {wanted : Visit → Prop} :
    0 < (block.places.countP fun place => decide (wanted place.2)) ↔ Occurs wanted block := by
  rw [List.countP_pos_iff]
  simp only [decide_eq_true_eq]
  exact Iff.rfl

theorem repeatedIteratorSourceLoopCount_pos_iff :
    0 < repeatedIteratorSourceLoopCount block ↔ RepeatsSource block := by
  have hspec := repeatedIteratorSourceLoopCount_spec block
  have hnodup : block.sources.toFinset.card = block.sources.length ↔ block.sources.Nodup :=
    @Multiset.toFinset_card_eq_card_iff_nodup _ _ (block.sources : Multiset String)
  rw [RepeatsSource, ← hnodup]
  omega

end Counts

/-! ### The rules -/

theorem profile_isEmpty_append (profile rest : List String) :
    (profile ++ rest).isEmpty = false ↔ profile.isEmpty = false ∨ rest.isEmpty = false := by
  cases profile <;> simp

theorem indicator_isEmpty {condition : Bool} {text : String} :
    (indicator condition text).isEmpty = false ↔ condition = true := by
  cases condition <;> simp [indicator]

section Profiles

variable {function : ContextFunction}

theorem nestedAlgorithmProfile_iff :
    (nestedAlgorithmProfile function.facts).isEmpty = false ↔
      HidesAlgorithm function.item.block := by
  unfold nestedAlgorithmProfile HidesAlgorithm
  simp only [profile_isEmpty_append, indicator_isEmpty, Bool.and_eq_true, decide_eq_true_eq,
    or_assoc]
  refine or_congr (maxNestingDepth_iff (by decide)) (or_congr (and_congr
    (maxLoopNestingDepth_iff (by decide)) ?_) (or_congr literalDispatchChainCount_pos_iff
      (and_congr ?_ matchCount_eq_zero_iff)))
  · rw [← branchCount_eq]; rfl
  · rw [← branchCount_eq]; rfl

theorem implementationTraversalProfile_iff :
    (implementationTraversalProfile function.facts).isEmpty = false ↔
      NestsTraversal function.item.block := by
  unfold implementationTraversalProfile NestsTraversal
  simp only [profile_isEmpty_append, indicator_isEmpty, Bool.and_eq_true, decide_eq_true_eq,
    and_assoc]
  refine or_congr (and_congr (maxNestingDepth_iff (by decide)) (and_congr
    (maxLoopNestingDepth_iff (by decide)) ?_)) (and_congr
      repeatedIteratorSourceLoopCount_pos_iff ?_)
  · rw [← branchCount_eq]; rfl
  · rw [← branchCount_eq]; rfl

theorem nativeIteratorIdiomProfile_iff :
    (nativeIteratorIdiomProfile function.facts).isEmpty = false ↔
      SpellsIterator function.item.block := by
  unfold nativeIteratorIdiomProfile SpellsIterator
  have hdepth : maxNativeIdiomNestingDepth < function.facts.maxNestingDepth ↔
      NestedTo isControl 3 function.item.block := maxNestingDepth_iff (by decide)
  by_cases hdeep : NestedTo isControl 3 function.item.block
  · rw [if_pos (hdepth.mpr hdeep)]
    simp [hdeep]
  · rw [if_neg (hdepth.not.mpr hdeep), and_iff_right hdeep]
    simp only [profile_isEmpty_append, indicator_isEmpty, decide_eq_true_eq, or_assoc]
    have hdescribe := flowCounts_describe function.item.block
    refine or_congr manualCollectionLoopCount_pos_iff (or_congr ?_ (or_congr ?_ (or_congr ?_
      repeatedIteratorSourceLoopCount_pos_iff)))
    · rw [← countP_pos_iff_occurs, ← hdescribe.manualPredicateLoopCount]; rfl
    · rw [← countP_pos_iff_occurs, ← hdescribe.manualCountLoopCount]; rfl
    · rw [← countP_pos_iff_occurs, ← hdescribe.manualNumericAccumulatorLoopCount]; rfl

theorem broadLinearProfile_iff :
    (broadLinearProfile function.facts).isEmpty = false ↔ SpreadsLinearly function.item := by
  unfold broadLinearProfile SpreadsLinearly
  have hdepth : maxLinearNestingDepth < function.facts.maxNestingDepth ↔
      NestedTo isControl 3 function.item.block := maxNestingDepth_iff (by decide)
  by_cases hdeep : NestedTo isControl 3 function.item.block
  · rw [if_pos (hdepth.mpr hdeep)]
    simp [hdeep]
  · rw [if_neg (hdepth.not.mpr hdeep), and_iff_right hdeep]
    simp only [profile_isEmpty_append, indicator_isEmpty, Bool.and_eq_true, decide_eq_true_eq]
    have hdescribe := flowCounts_describe function.item.block
    refine or_congr (and_congr Iff.rfl ?_) (hdescribe.maxBlockStatementCount.le_iff (by decide))
    rw [← hdescribe.statementCount]
    rfl

end Profiles

/-! ### The rules -/

/-- A function whose name or calls are a sign of backpressure. -/
def SignalsBackpressure (item : FunctionItem) : Prop :=
  functionNameIsBackpressureBoundary item.ident = true ∨
    Occurs (fun visit => 0 < backpressureBoundarySignals visit) item.block

/-- The rules in their order, each with the functions it is about. -/
def shapeRules : List (ShapeRule × (FunctionModule → ContextFunction → Prop)) :=
  [(nestedAlgorithm, fun _ function =>
      function.item.isPublic = true ∧ HidesAlgorithm function.item.block),
    (broadLinearAlgorithm, fun _ function =>
      function.item.isPublic = true ∧ SpreadsLinearly function.item),
    (implementationTraversal, fun _ function =>
      function.item.isPublic = false ∧ NestsTraversal function.item.block),
    (implementationIteratorIdiom, fun _ function =>
      function.item.isPublic = false ∧ ¬NestsTraversal function.item.block ∧
        SpellsIterator function.item.block),
    (linearMembershipScan, fun _ function => Occurs ScansMembers function.item.block),
    (asyncBlocking, fun _ function =>
      function.item.isAsync = true ∧ ∃ place ∈ function.item.block.places, BlocksAt place),
    (asyncSyncLock, fun _ function =>
      function.item.isAsync = true ∧
        HoldsLockAcrossAwait function.item.inputs function.item.block),
    (asyncUnboundedQueue, fun module function =>
      (∀ other ∈ module.functions, other.InProduction → ¬SignalsBackpressure other.item) ∧
        Occurs (fun visit => 0 < unboundedQueueCalls visit) function.item.block),
    (asyncSelectCancellation, fun _ function =>
      Occurs (fun visit => 0 < selectCancelUnsafeIoCalls visit) function.item.block),
    (asyncTimeoutCancellation, fun _ function =>
      Occurs (fun visit => 0 < timeoutCancelUnsafeIoCalls visit) function.item.block),
    (asyncTaskBoundary, fun _ function =>
      Occurs (fun visit => 0 < discardedSpawnCalls visit) function.item.block)]

open Classical in
/-- The findings about the functions outside tests that a condition holds of. -/
noncomputable def reportsWhere (shape : ShapeRule) (module : FunctionModule)
    (offends : ContextFunction → Prop) : List AspRustFinding :=
  (module.functions.filter fun function =>
    decide (function.InProduction ∧ offends function)).map fun function =>
      shape.finding module function.facts

open Classical in
theorem reportsWhere_eq_nil {shape : ShapeRule} {module : FunctionModule}
    {offends : ContextFunction → Prop} (h : ∀ function, ¬offends function) :
    reportsWhere shape module offends = [] := by
  rw [reportsWhere, List.map_eq_nil_iff, List.filter_eq_nil_iff]
  exact fun function _ hreported => h function (of_decide_eq_true hreported).2

/-- The findings about some of the functions. -/
theorem findings_filter_eq (shape : ShapeRule) (module : FunctionModule)
    (kept : RustFunctionControlFlowSyntax → Bool) {offends : ContextFunction → Prop}
    (h : ∀ function : ContextFunction,
      (kept function.facts = true ∧ shape.reports function.facts = true) ↔ offends function) :
    shape.findings module (module.allFunctionControlFlows.filter kept) =
      reportsWhere shape module offends := by
  classical
  unfold ShapeRule.findings FunctionModule.allFunctionControlFlows reportsWhere
  rw [List.filter_map, List.filter_map, List.filter_map, List.map_map, List.filter_filter,
    List.filter_filter]
  refine congrArg (List.map _) (List.filter_congr fun function _ => ?_)
  rw [Bool.eq_iff_iff, Bool.and_eq_true, Bool.and_eq_true, decide_eq_true_eq, ← h]
  dsimp only [Function.comp_apply]
  rw [Bool.not_eq_true', inProduction_iff]
  tauto

theorem findings_all_eq (shape : ShapeRule) (module : FunctionModule)
    {offends : ContextFunction → Prop}
    (h : ∀ function : ContextFunction, shape.reports function.facts = true ↔ offends function) :
    shape.findings module module.allFunctionControlFlows = reportsWhere shape module offends := by
  rw [← findings_filter_eq shape module (fun _ => true) fun function =>
    (and_iff_right rfl).trans (h function), List.filter_true]

theorem findings_public_eq (shape : ShapeRule) (module : FunctionModule)
    {offends : ContextFunction → Prop}
    (h : ∀ function : ContextFunction, shape.reports function.facts = true ↔ offends function) :
    shape.findings module module.publicFunctionControlFlows =
      reportsWhere shape module fun function =>
        function.item.isPublic = true ∧ offends function :=
  findings_filter_eq shape module _ fun function => and_congr_right fun _ => h function

/-- A count is positive where something is counted. -/
theorem counted_block_pos_iff {amount : Visit → ℕ} {block : Block} :
    0 < counted amount block.tree ↔ Occurs (fun visit => 0 < amount visit) block :=
  counted_pos_iff

theorem backpressureBoundarySignalCount_pos_iff {item : FunctionItem} :
    0 < backpressureBoundarySignalCount item.ident item.block ↔ SignalsBackpressure item := by
  unfold backpressureBoundarySignalCount SignalsBackpressure
  rw [Nat.add_pos_iff_pos_or_pos, counted_block_pos_iff, or_comm]
  refine or_congr ?_ Iff.rfl
  cases functionNameIsBackpressureBoundary item.ident <;> decide

/-- One sign of backpressure in a file, and no queue of it is reported. -/
theorem asyncUnboundedQueueBackpressureFindings_eq (module : FunctionModule) :
    asyncUnboundedQueueBackpressureFindings module =
      reportsWhere asyncUnboundedQueue module fun function =>
        (∀ other ∈ module.functions, other.InProduction → ¬SignalsBackpressure other.item) ∧
          Occurs (fun visit => 0 < unboundedQueueCalls visit) function.item.block := by
  classical
  have hboundary : ((module.allFunctionControlFlows.filter fun flow => !flow.isTestContext).any
      fun flow => 0 < flow.backpressureBoundarySignalCount) = true ↔
        ∃ other ∈ module.functions, other.InProduction ∧ SignalsBackpressure other.item := by
    simp only [List.any_eq_true, List.mem_filter, FunctionModule.allFunctionControlFlows,
      List.mem_map, Bool.not_eq_true', decide_eq_true_eq, ← inProduction_iff,
      ← backpressureBoundarySignalCount_pos_iff]
    constructor
    · rintro ⟨_, ⟨⟨other, hmem, rfl⟩, htest⟩, hpos⟩
      exact ⟨other, hmem, htest, hpos⟩
    · rintro ⟨other, hmem, htest, hpos⟩
      exact ⟨_, ⟨⟨other, hmem, rfl⟩, htest⟩, hpos⟩
  unfold asyncUnboundedQueueBackpressureFindings
  dsimp only
  by_cases hsignals : ∃ other ∈ module.functions,
      other.InProduction ∧ SignalsBackpressure other.item
  · rw [if_pos (hboundary.mpr hsignals), reportsWhere_eq_nil]
    obtain ⟨other, hmem, hproduction, hsign⟩ := hsignals
    exact fun function h => h.1 other hmem hproduction hsign
  · rw [if_neg (hboundary.not.mpr hsignals)]
    refine findings_all_eq _ module fun function => ?_
    rw [and_iff_right fun other hmem hproduction hsign =>
      hsignals ⟨other, hmem, hproduction, hsign⟩, ← counted_block_pos_iff]
    exact decide_eq_true_iff

section Reports

variable {function : ContextFunction}

theorem profile_reports_iff {profile : List String} :
    (!profile.isEmpty) = true ↔ profile.isEmpty = false := (Bool.not_eq_true' _).to_iff

theorem implementationTraversal_reports_iff :
    implementationTraversal.reports function.facts = true ↔
      function.item.isPublic = false ∧ NestsTraversal function.item.block := by
  show (!function.item.isPublic && !(implementationTraversalProfile function.facts).isEmpty) =
    true ↔ _
  rw [Bool.and_eq_true, profile_reports_iff, implementationTraversalProfile_iff,
    Bool.not_eq_true']

theorem implementationIteratorIdiom_reports_iff :
    implementationIteratorIdiom.reports function.facts = true ↔
      function.item.isPublic = false ∧ ¬NestsTraversal function.item.block ∧
        SpellsIterator function.item.block := by
  show (!function.item.isPublic && (implementationTraversalProfile function.facts).isEmpty &&
    !(nativeIteratorIdiomProfile function.facts).isEmpty) = true ↔ _
  rw [Bool.and_eq_true, Bool.and_eq_true, profile_reports_iff, nativeIteratorIdiomProfile_iff,
    Bool.not_eq_true', and_assoc, ← Bool.not_eq_false, implementationTraversalProfile_iff]

theorem linearMembershipScan_reports_iff :
    linearMembershipScan.reports function.facts = true ↔
      Occurs ScansMembers function.item.block := by
  rw [← countP_pos_iff_occurs, ← linearMembershipScanLoopCount_eq]
  exact decide_eq_true_iff

theorem asyncBlocking_reports_iff :
    asyncBlocking.reports function.facts = true ↔
      function.item.isAsync = true ∧ ∃ place ∈ function.item.block.places, BlocksAt place := by
  classical
  have hpos : 0 < blockingCallCount function.item.block ↔
      ∃ place ∈ function.item.block.places, BlocksAt place := by
    rw [blockingCallCount_eq, List.countP_pos_iff]
    simp only [decide_eq_true_eq]
  show (function.item.isAsync && decide (0 < blockingCallCount function.item.block)) = true ↔ _
  rw [Bool.and_eq_true, decide_eq_true_eq, hpos]

theorem asyncSyncLock_reports_iff :
    asyncSyncLock.reports function.facts = true ↔
      function.item.isAsync = true ∧
        HoldsLockAcrossAwait function.item.inputs function.item.block := by
  show (function.item.isAsync && decide (0 < syncLockGuardAcrossAwaitCount function.item.inputs
    function.item.block)) = true ↔ _
  rw [Bool.and_eq_true, decide_eq_true_eq, syncLockGuardAcrossAwaitCount_pos_iff]

/-- A rule that reports a positive count. -/
theorem counted_reports_iff {amount : Visit → ℕ} {block : Block} :
    decide (0 < counted amount block.tree) = true ↔ Occurs (fun visit => 0 < amount visit) block :=
  decide_eq_true_iff.trans counted_block_pos_iff

end Reports

/-- The findings of a file are those of its rules, in their order. -/
theorem algorithmShapeFindings_eq (modules : List FunctionModule) :
    algorithmShapeFindings modules = modules.flatMap fun module =>
      shapeRules.flatMap fun (shape, offends) => reportsWhere shape module (offends module) := by
  unfold algorithmShapeFindings
  refine congrArg (modules.flatMap ·) (funext fun module => ?_)
  unfold moduleShapeFindings
  rw [findings_public_eq nestedAlgorithm module fun _ =>
      profile_reports_iff.trans nestedAlgorithmProfile_iff,
    findings_public_eq broadLinearAlgorithm module fun _ =>
      profile_reports_iff.trans broadLinearProfile_iff,
    findings_all_eq implementationTraversal module fun _ => implementationTraversal_reports_iff,
    findings_all_eq implementationIteratorIdiom module fun _ =>
      implementationIteratorIdiom_reports_iff,
    findings_all_eq linearMembershipScan module fun _ => linearMembershipScan_reports_iff,
    findings_all_eq asyncBlocking module fun _ => asyncBlocking_reports_iff,
    findings_all_eq asyncSyncLock module fun _ => asyncSyncLock_reports_iff,
    asyncUnboundedQueueBackpressureFindings_eq,
    findings_all_eq asyncSelectCancellation module fun _ => counted_reports_iff,
    findings_all_eq asyncTimeoutCancellation module fun _ => counted_reports_iff,
    findings_all_eq asyncTaskBoundary module fun _ => counted_reports_iff]
  simp only [shapeRules, List.flatMap_cons, List.flatMap_nil, List.append_nil, List.append_assoc]

/-- The rule about public functions that spell an iterator out. -/
theorem nativeIteratorIdiomFindings_eq (modules : List FunctionModule) :
    nativeIteratorIdiomFindings modules = modules.flatMap fun module =>
      reportsWhere nativeIteratorIdiom module fun function =>
        function.item.isPublic = true ∧ SpellsIterator function.item.block := by
  unfold nativeIteratorIdiomFindings
  refine congrArg (modules.flatMap ·) (funext fun module => ?_)
  exact findings_public_eq nativeIteratorIdiom module fun _ =>
    profile_reports_iff.trans nativeIteratorIdiomProfile_iff

/-- **What the rules about function bodies report**: file by file and rule by rule, the
functions outside tests whose body offends, with nothing missed and nothing added.  The
list is the same, not only its members: the order is that of the files, then of the
rules, then of the functions in a file. -/
theorem functionFindings_eq (modules : List FunctionModule) :
    algorithmShapeFindings modules =
        (modules.flatMap fun module =>
          shapeRules.flatMap fun (shape, offends) =>
            reportsWhere shape module (offends module)) ∧
      nativeIteratorIdiomFindings modules =
        modules.flatMap fun module =>
          reportsWhere nativeIteratorIdiom module fun function =>
            function.item.isPublic = true ∧ SpellsIterator function.item.block :=
  ⟨algorithmShapeFindings_eq modules, nativeIteratorIdiomFindings_eq modules⟩

end AspRust.AgentPolicy
