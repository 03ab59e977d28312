import AspRust.AgentPolicy.DependencyGraph
import AspRust.Foundation.ColourSearch
import AspRust.Foundation.SubsetMask
import Mathlib.Algebra.BigOperators.Group.List.Lemmas
import Mathlib.Algebra.BigOperators.Group.Finset.Basic
import Mathlib.Data.Fintype.Fin

/-!
# The formal proof pilot

The harness checks its own rule on dependency cycles: for every directed graph with a few
nodes it compares what the rule reports with a second search for a cycle, written apart
from the rule, and publishes the outcome as a proof packet.

The second search is the one of `Foundation.ColourSearch`, so it is right for every
graph (`graphHasDirectedCycle_eq_ok`), and so is the rule for the graphs without self
loops.  Hence no bound makes the comparison fail, and the packet says so: every packet
that is built reports a bounded proof over all graphs of each size
(`buildPilot_eq`), and each graph without self loops is one of the
models, once (`existsUnique_model`).

### Design notes

**Two searches.**  The comparison is worth something because the second search shares no
code with the rule.  Both are proved right for every graph, each against the relation of
the edges: the rule in `AgentPolicy.DependencyGraph`, the second search here.

**Self loops.**  The rule does not see a dependency of a module on itself, which is why
the models leave them out.  `existsUnique_model` says that nothing else is left out.

**Fuel.**  The number of models of a bound is two to the number of possible edges, added
up over the sizes; the loops over masks and sizes run over given lists, so none of this
needs a measure.
-/

namespace AspRust.Verification

open AspRust.Foundation AspRust.AgentPolicy Relation

/-! ## The packet

The packet as it is published: what was to be proved, by what method and producer, the
claim, the counterexamples if there are any, and the check that was made. -/

inductive RustFormalProofPilotTargetKind where
  | parserFact
  | publicApiShape
  | moduleReasoningTree
  | dependencyGraphAcyclicity
  | custom
deriving DecidableEq, Repr

inductive RustFormalProofPilotMethodKind where
  | exhaustiveSmallModel
  | kani
  | creusot
  | verus
  | manualProofOutline
  | custom
deriving DecidableEq, Repr

inductive RustFormalProofPilotStatus where
  | proved
  | provedBounded
  | failed
  | skipped
  | unknown
deriving DecidableEq, Repr

structure RustFormalProofPilotProducer where
  languageId : String
  providerId : String
  namespaceId : String

structure RustFormalProofPilotTarget where
  kind : RustFormalProofPilotTargetKind
  name : String
  ruleIds : List String
  ownerPath : Option String
  symbol : Option String
  fields : OrderedMap String String

structure RustFormalProofPilotMethod where
  kind : RustFormalProofPilotMethodKind
  tool : String
  command : List String
  fields : OrderedMap String String

structure RustFormalProofPilotClaim where
  claimId : String
  statement : String
  status : RustFormalProofPilotStatus
  fields : OrderedMap String String

structure RustFormalProofPilotCounterexample where
  summary : String
  fields : OrderedMap String String

structure RustFormalProofPilotCheck where
  checkId : String
  status : RustFormalProofPilotStatus
  summary : String
  modelsChecked : Option ℕ
  maxNodes : Option ℕ
  counterexample : Option RustFormalProofPilotCounterexample
  fields : OrderedMap String String

structure RustFormalProofPilot where
  schemaId : String
  schemaVersion : String
  protocolId : String
  protocolVersion : String
  proofId : String
  producer : RustFormalProofPilotProducer
  target : RustFormalProofPilotTarget
  method : RustFormalProofPilotMethod
  status : RustFormalProofPilotStatus
  claims : List RustFormalProofPilotClaim
  checks : List RustFormalProofPilotCheck
  receiptIds : List String
  fields : OrderedMap String String

/-! ## The second search

The edges of a graph are numbered, and a graph is a choice of them.  The second search
goes through the nodes with three marks; the nodes that a list of edges leads to are
looked up in a table. -/

/-- The edges from one node to another, in the order of their sources and targets. -/
def possibleDirectedEdges (nodeCount : ℕ) : List (Fin nodeCount × Fin nodeCount) :=
  (List.finRange nodeCount).flatMap fun source =>
    (List.finRange nodeCount).filterMap fun target =>
      if source ≠ target then some (source, target) else none

/-- One more target of the source of an edge. -/
def pushTarget {nodeCount : ℕ} (adjacency : Fin nodeCount → List (Fin nodeCount))
    (edge : Fin nodeCount × Fin nodeCount) : Fin nodeCount → List (Fin nodeCount) :=
  Function.update adjacency edge.1 (adjacency edge.1 ++ [edge.2])

/-- The targets of the edges of each node, in the order of the edges. -/
def adjacencyOf {nodeCount : ℕ} (edges : List (Fin nodeCount × Fin nodeCount)) :
    Fin nodeCount → List (Fin nodeCount) :=
  edges.foldl pushTarget fun _ => []

/-- Search from one node.  Every nested call marks one more node, which bounds the fuel. -/
def graphDfsHasCycle {nodeCount : ℕ} (adjacency : Fin nodeCount → List (Fin nodeCount)) :
    Fin nodeCount → ColourSearch.Marks (Fin nodeCount) →
      Outcome (Bool × ColourSearch.Marks (Fin nodeCount)) :=
  ColourSearch.search adjacency (Fintype.card (Fin nodeCount) + 1)

def graphHasDirectedCycle (nodeCount : ℕ) (edges : List (Fin nodeCount × Fin nodeCount)) :
    Outcome Bool := do
  let (found, _) ← ColourSearch.searchAny (graphDfsHasCycle (adjacencyOf edges))
    (List.finRange nodeCount) fun _ => .unvisited
  .ok found

/-! ## The comparison

For every choice of edges it is compared whether the rule reports a cycle and whether
the second search finds one.  The first difference ends the check and becomes the
counterexample of the packet. -/

structure ExhaustiveGraphCheckResult where
  modelsChecked : ℕ
  counterexample : Option String
deriving DecidableEq

/-- The dependencies that a graph stands for. -/
def proofEdges {nodeCount : ℕ} (edges : List (Fin nodeCount × Fin nodeCount)) :
    List OwnerDependencyProofEdge :=
  edges.map fun edge => ⟨["n" ++ toString edge.1.val], ["n" ++ toString edge.2.val]⟩

/-- The text of a list of edges, as `Debug` prints it. -/
def debugEdges {nodeCount : ℕ} (edges : List (Fin nodeCount × Fin nodeCount)) : String :=
  "[" ++ ", ".intercalate (edges.map fun edge =>
    "(" ++ toString edge.1.val ++ ", " ++ toString edge.2.val ++ ")") ++ "]"

/-- One model: the text of a counterexample, if the two searches disagree. -/
def checkModel (nodeCount : ℕ) (edges : List (Fin nodeCount × Fin nodeCount)) :
    Outcome (Option String) := do
  let expected ← graphHasDirectedCycle nodeCount edges
  let cycles ← ownerDependencyCycleIndices (proofEdges edges)
  let actual := !cycles.isEmpty
  .ok (if actual != expected then
    some ("node_count=" ++ toString nodeCount ++ " edges=" ++ debugEdges edges ++
      " expected_cycle=" ++ toString expected ++ " actual_cycle=" ++ toString actual)
  else none)

/-- The models of one size, one for each mask, until two searches disagree. -/
def checkMasks (nodeCount : ℕ) : List ℕ → ℕ → Outcome ExhaustiveGraphCheckResult
  | [], modelsChecked => .ok ⟨modelsChecked, none⟩
  | mask :: masks, modelsChecked => do
      let counterexample ← checkModel nodeCount
        (SubsetMask.select mask (possibleDirectedEdges nodeCount))
      if counterexample.isSome then .ok ⟨modelsChecked + 1, counterexample⟩
      else checkMasks nodeCount masks (modelsChecked + 1)

/-- The models of several sizes.  The number of models is a shift of a 64-bit one. -/
def checkNodeCounts : List ℕ → ℕ → Outcome ExhaustiveGraphCheckResult
  | [], modelsChecked => .ok ⟨modelsChecked, none⟩
  | nodeCount :: nodeCounts, modelsChecked =>
      if 64 ≤ (possibleDirectedEdges nodeCount).length then
        .error (.panicked "attempt to shift left with overflow")
      else do
        let result ← checkMasks nodeCount
          (List.range (1 <<< (possibleDirectedEdges nodeCount).length)) modelsChecked
        if result.counterexample.isSome then .ok result
        else checkNodeCounts nodeCounts result.modelsChecked

def exhaustiveDependencyGraphCheck (maxNodes : ℕ) : Outcome ExhaustiveGraphCheckResult :=
  checkNodeCounts (List.range (maxNodes + 1)) 0

def defaultProducer : RustFormalProofPilotProducer where
  languageId := "rust"
  providerId := "asp-rust"
  namespaceId := "agent.semantic-protocols.languages.rust.asp-rust"

/-- The packet of a result. -/
def pilotPacket (maxNodes : ℕ) (result : ExhaustiveGraphCheckResult) : RustFormalProofPilot :=
  let status : RustFormalProofPilotStatus :=
    if result.counterexample.isSome then .failed else .provedBounded
  { schemaId := "agent.semantic-protocols.semantic-formal-proof-pilot"
    schemaVersion := "1"
    protocolId := "agent.semantic-protocols.formal-proof-pilot"
    protocolVersion := "1"
    proofId := "rust.proof.dependency-graph-acyclicity"
    producer := defaultProducer
    target :=
      { kind := .dependencyGraphAcyclicity
        name := "owner dependency graph cycle detection"
        ruleIds := ["RUST-AGENT-OWNER-GRAPH-009"]
        ownerPath := some "src/rules/agent_policy/dependency_graph.rs"
        symbol := some "owner_dependency_cycle_indices"
        fields := ∅ }
    method :=
      { kind := .exhaustiveSmallModel
        tool := "asp-rust"
        command := ["asp-rust", "proof", "pilot", "dependency-graph-acyclicity", "--max-nodes",
          toString maxNodes, "--json"]
        fields := ∅ }
    status := status
    claims :=
      [{ claimId := "cycle-detection-iff-directed-cycle"
         statement := "For all directed graphs up to " ++ toString maxNodes ++
           " nodes, the RUST-AGENT-OWNER-GRAPH-009 rule core reports a cycle iff the graph " ++
           "contains a directed cycle."
         status := status
         fields := ∅ }]
    checks :=
      [{ checkId := "exhaustive-directed-graphs-up-to-" ++ toString maxNodes
         status := status
         summary := "Checked all directed graphs with up to " ++ toString maxNodes ++ " nodes."
         modelsChecked := some result.modelsChecked
         maxNodes := some maxNodes
         counterexample := result.counterexample.map fun summary => ⟨summary, ∅⟩
         fields := ∅ }]
    receiptIds := []
    fields := ∅ }

def buildRustDependencyGraphAcyclicityProofPilot (maxNodes : ℕ) : Outcome RustFormalProofPilot :=
  if 5 < maxNodes then
    .error (.returned "dependency graph proof pilot supports --max-nodes up to 5")
  else do
    let result ← exhaustiveDependencyGraphCheck maxNodes
    .ok (pilotPacket maxNodes result)

/-! ## The second search is right

The table has for each node those that an edge joins it to, so the search of the source
is the search of the library, with these as successors. -/

section Search

variable {nodeCount : ℕ} {edges : List (Fin nodeCount × Fin nodeCount)}

/-- Two nodes are joined by an edge of the list. -/
def Joined (edges : List (Fin nodeCount × Fin nodeCount)) (source target : Fin nodeCount) : Prop :=
  (source, target) ∈ edges

private theorem mem_foldl_pushTarget (edges : List (Fin nodeCount × Fin nodeCount))
    (adjacency : Fin nodeCount → List (Fin nodeCount)) {source target : Fin nodeCount} :
    target ∈ edges.foldl pushTarget adjacency source ↔
      target ∈ adjacency source ∨ (source, target) ∈ edges := by
  induction edges generalizing adjacency with
  | nil => simp
  | cons edge rest ih =>
      rw [List.foldl_cons, ih, List.mem_cons, ← or_assoc]
      apply or_congr_left
      by_cases heq : source = edge.1
      · subst heq
        rw [pushTarget, Function.update_self, List.mem_append, List.mem_singleton, Prod.ext_iff]
        simp
      · rw [pushTarget, Function.update_of_ne heq]
        refine (or_iff_left ?_).symm
        rintro rfl
        exact heq rfl

theorem step_adjacencyOf (edges : List (Fin nodeCount × Fin nodeCount)) :
    ColourSearch.Step (adjacencyOf edges) = Joined edges := by
  funext source target
  apply propext
  show target ∈ adjacencyOf edges source ↔ (source, target) ∈ edges
  rw [adjacencyOf, mem_foldl_pushTarget]
  simp

/-- **The second search is right.**  For every list of edges it ends without a panic, and
answers whether the edges have a directed cycle. -/
theorem graphHasDirectedCycle_eq_ok (nodeCount : ℕ)
    (edges : List (Fin nodeCount × Fin nodeCount)) :
    ∃ found, graphHasDirectedCycle nodeCount edges = .ok found ∧
      (found = true ↔ ∃ node, TransGen (Joined edges) node node) := by
  obtain ⟨found, marks, hresult, hfound⟩ :=
    ColourSearch.searchAny_all_eq_ok (adjacencyOf edges) (List.mem_finRange (n := nodeCount))
  rw [step_adjacencyOf] at hfound
  refine ⟨found, ?_, hfound⟩
  unfold graphHasDirectedCycle graphDfsHasCycle
  rw [hresult]
  rfl

end Search

/-! ## The rule is right for graphs without self loops

Each node becomes a namespace of one component.  Different nodes have different
namespaces, and these are readable, so what is known of the rule applies. -/

section Rule

variable {nodeCount : ℕ} {edges : List (Fin nodeCount × Fin nodeCount)}

/-- The namespace of a node. -/
def nodeNamespace (node : Fin nodeCount) : List String := ["n" ++ toString node.val]

theorem nodeNamespace_injective : Function.Injective (@nodeNamespace nodeCount) := by
  intro first second heq
  have htext := congrArg String.toList (List.singleton_inj.mp heq)
  rw [String.toList_append, String.toList_append] at htext
  have hdigits : Nat.toDigits 10 first.val = Nat.toDigits 10 second.val := by
    have hrepr := List.append_cancel_left htext
    rw [Nat.toString_eq_repr, Nat.toString_eq_repr, Nat.repr_eq_ofList_toDigits,
      Nat.repr_eq_ofList_toDigits, String.toList_ofList, String.toList_ofList] at hrepr
    exact hrepr
  apply Fin.ext
  rw [← Nat.ofDigitChars_toDigits (b := 10) (n := first.val) (by decide) (by decide), hdigits,
    Nat.ofDigitChars_toDigits (by decide) (by decide)]

/-- The graph of namespaces is the graph of nodes. -/
theorem dependsOn_proofEdges {first second : List String} :
    DependsOn (proofEdges edges) first second ↔
      ∃ source target, Joined edges source target ∧
        nodeNamespace source = first ∧ nodeNamespace target = second := by
  constructor
  · rintro ⟨dependency, hmem, rfl, rfl⟩
    obtain ⟨edge, hedge, rfl⟩ := List.mem_map.mp hmem
    exact ⟨edge.1, edge.2, hedge, rfl, rfl⟩
  · rintro ⟨source, target, hedge, rfl, rfl⟩
    exact ⟨_, List.mem_map.mpr ⟨(source, target), hedge, rfl⟩, rfl, rfl⟩

theorem hasCycle_proofEdges_iff :
    HasCycle (proofEdges edges) ↔ ∃ node, TransGen (Joined edges) node node := by
  constructor
  · rintro ⟨namespaces, hcycle⟩
    -- a path of namespaces from a node is a path of nodes
    have hlift : ∀ {first second}, TransGen (DependsOn (proofEdges edges)) first second →
        ∃ source target, TransGen (Joined edges) source target ∧
          nodeNamespace source = first ∧ nodeNamespace target = second := by
      intro first second hpath
      induction hpath with
      | single hstep =>
          obtain ⟨source, target, hedge, hsource, htarget⟩ := dependsOn_proofEdges.mp hstep
          exact ⟨source, target, .single hedge, hsource, htarget⟩
      | tail _ hstep ih =>
          obtain ⟨start, middle, hpath, hstart, hmiddle⟩ := ih
          obtain ⟨source, target, hedge, hsource, htarget⟩ := dependsOn_proofEdges.mp hstep
          obtain rfl := nodeNamespace_injective (hmiddle.trans hsource.symm)
          exact ⟨start, target, hpath.tail hedge, hstart, htarget⟩
    obtain ⟨source, target, hpath, hsource, htarget⟩ := hlift hcycle
    obtain rfl := nodeNamespace_injective (hsource.trans htarget.symm)
    exact ⟨source, hpath⟩
  · rintro ⟨node, hcycle⟩
    refine ⟨nodeNamespace node, hcycle.lift nodeNamespace ?_⟩
    intro source target hedge
    exact dependsOn_proofEdges.mpr ⟨source, target, hedge, rfl, rfl⟩

/-- The rule reports a cycle of dependencies without self loops exactly when there is
one.  What the reports are called plays no part in it. -/
theorem ownerDependencyCycleIndices_ne_nil_iff {dependencies : List OwnerDependencyProofEdge}
    (hloops : ∀ index : DependencyIndex dependencies, sourceOf index ≠ targetOf index) :
    ∃ cycles, ownerDependencyCycleIndices dependencies = .ok cycles ∧
      (cycles ≠ [] ↔ HasCycle dependencies) := by
  have hstart : Collected ([] : List (DependencyIndex dependencies)) (∅, []) :=
    ⟨by simp, by simp, List.Pairwise.nil, by simp⟩
  obtain ⟨final, hfinal, hcollected⟩ :=
    exists_collected hloops (List.finRange dependencies.length) hstart
  rw [List.nil_append] at hcollected
  refine ⟨final.2, by rw [ownerDependencyCycleIndices, hfinal]; rfl, ?_, ?_⟩
  · intro hne
    obtain ⟨cycle, hmem⟩ := List.exists_mem_of_ne_nil _ hne
    obtain ⟨index, hcycle⟩ := hcollected.cycles cycle hmem
    exact hcycle.hasCycle
  · intro hcycle hnil
    obtain ⟨index, hlies⟩ := hcycle.exists_liesOnCycle
    obtain ⟨cycle, -, hkey⟩ := hcollected.covered index (List.mem_finRange index) hlies
    obtain ⟨kept, hkept, -⟩ := (hcollected.keys _).mp hkey
    rw [hnil] at hkept
    cases hkept

/-- No edge joins a node to itself. -/
def LoopFree (edges : List (Fin nodeCount × Fin nodeCount)) : Prop :=
  ∀ edge ∈ edges, edge.1 ≠ edge.2

/-- The two searches agree on a graph without self loops. -/
theorem checkModel_eq_ok (hloops : LoopFree edges) : checkModel nodeCount edges = .ok none := by
  obtain ⟨expected, hexpected, hfound⟩ := graphHasDirectedCycle_eq_ok nodeCount edges
  have hproof : ∀ index : DependencyIndex (proofEdges edges), sourceOf index ≠ targetOf index := by
    intro index heq
    have hmem : (proofEdges edges)[index] ∈ proofEdges edges := List.getElem_mem _
    obtain ⟨edge, hedge, hindex⟩ := List.mem_map.mp hmem
    rw [sourceOf, targetOf, ← hindex] at heq
    exact hloops edge hedge (nodeNamespace_injective heq)
  obtain ⟨cycles, hcycles, hreported⟩ := ownerDependencyCycleIndices_ne_nil_iff hproof
  have hagree : (!cycles.isEmpty) = expected := by
    rw [Bool.eq_iff_iff, hfound, ← hasCycle_proofEdges_iff, ← hreported]
    simp
  unfold checkModel
  rw [hexpected, hcycles]
  show Except.ok (if ((!cycles.isEmpty) != expected) = true then _ else none) = _
  rw [hagree, bne_self_eq_false, if_neg Bool.false_ne_true]

end Rule

/-! ## The models

A choice of edges is given by the bits of a number.  Every loop-free relation is one
choice, and different numbers are different choices. -/

section Models

variable {nodeCount : ℕ}

theorem mem_possibleDirectedEdges {edge : Fin nodeCount × Fin nodeCount} :
    edge ∈ possibleDirectedEdges nodeCount ↔ edge.1 ≠ edge.2 := by
  rw [possibleDirectedEdges]
  simp only [List.mem_flatMap, List.mem_filterMap, List.mem_finRange, true_and,
    Option.ite_none_right_eq_some, Option.some.injEq]
  constructor
  · rintro ⟨source, target, hne, rfl⟩
    exact hne
  · intro hne
    exact ⟨edge.1, edge.2, hne, rfl⟩

/-- The edges that leave one node. -/
private theorem edgesFrom_eq (source : Fin nodeCount) :
    ((List.finRange nodeCount).filterMap fun target =>
        if source ≠ target then some (source, target) else none) =
      ((List.finRange nodeCount).erase source).map (source, ·) := by
  rw [(List.nodup_finRange nodeCount).erase_eq_filter, ← List.filterMap_eq_map,
    ← List.filterMap_eq_filter, List.filterMap_filterMap]
  congr 1
  funext target
  by_cases heq : source = target
  · simp [Option.guard, heq]
  · simp [Option.guard, heq, Ne.symm heq]

private theorem possibleDirectedEdges_eq (nodeCount : ℕ) :
    possibleDirectedEdges nodeCount = (List.finRange nodeCount).flatMap fun source =>
      ((List.finRange nodeCount).erase source).map (source, ·) := by
  rw [possibleDirectedEdges]
  congr 1
  funext source
  exact edgesFrom_eq source

theorem nodup_possibleDirectedEdges (nodeCount : ℕ) : (possibleDirectedEdges nodeCount).Nodup := by
  rw [possibleDirectedEdges_eq, List.nodup_flatMap]
  refine ⟨?_, (List.nodup_finRange nodeCount).imp ?_⟩
  · intro source _
    exact ((List.nodup_finRange nodeCount).erase source).map (Prod.mk_right_injective source)
  · intro first second hne
    show List.Disjoint _ _
    intro edge hfirst hsecond
    obtain ⟨target, -, rfl⟩ := List.mem_map.mp hfirst
    obtain ⟨other, -, heq⟩ := List.mem_map.mp hsecond
    exact hne (congrArg Prod.fst heq).symm

/-- There is an edge from each node to each other one. -/
theorem length_possibleDirectedEdges (nodeCount : ℕ) :
    (possibleDirectedEdges nodeCount).length = nodeCount * (nodeCount - 1) := by
  have hfrom : ∀ source : Fin nodeCount,
      (((List.finRange nodeCount).erase source).map (source, ·)).length = nodeCount - 1 := by
    intro source
    rw [List.length_map, List.length_erase_of_mem (List.mem_finRange source),
      List.length_finRange]
  rw [possibleDirectedEdges_eq, List.length_flatMap, List.map_congr_left fun source _ => hfrom source,
    List.map_const', List.sum_replicate, List.length_finRange, nsmul_eq_mul, Nat.cast_id]

/-- Every selection of edges is free of self loops. -/
theorem loopFree_select (mask : ℕ) :
    LoopFree (SubsetMask.select mask (possibleDirectedEdges nodeCount)) :=
  fun _ hedge => mem_possibleDirectedEdges.mp ((SubsetMask.select_sublist _ _).subset hedge)

/-- **Each graph without self loops is one model.**  A relation on the nodes that holds
of no node and itself is the relation of the edges of exactly one mask. -/
theorem existsUnique_model (related : Fin nodeCount → Fin nodeCount → Bool)
    (hloops : ∀ node, related node node = false) :
    ∃! mask, mask < 1 <<< (possibleDirectedEdges nodeCount).length ∧
      ∀ source target,
        Joined (SubsetMask.select mask (possibleDirectedEdges nodeCount)) source target ↔
          related source target = true := by
  rw [Nat.one_shiftLeft]
  have hnodup := nodup_possibleDirectedEdges nodeCount
  obtain ⟨mask, ⟨hmask, hselect⟩, hunique⟩ :=
    SubsetMask.existsUnique_select hnodup fun edge => related edge.1 edge.2
  refine ⟨mask, ⟨hmask, ?_⟩, ?_⟩
  · intro source target
    rw [Joined, hselect, List.mem_filter, mem_possibleDirectedEdges]
    refine and_iff_right_of_imp ?_
    intro hrelated heq
    have hself : related source target = false := by
      rw [← show source = target from heq]
      exact hloops source
    rw [hself] at hrelated
    cases hrelated
  · rintro other ⟨hother, hjoined⟩
    refine hunique other ⟨hother, ?_⟩
    refine SubsetMask.select_eq_filter hnodup ?_
    intro edge _
    exact hjoined edge.1 edge.2

/-- Two nodes, and the edge from the first to the second. -/
def oneEdge (source target : Fin 2) : Bool := source == 0 && target == 1

theorem oneEdge_model :
    ∃! mask, mask < 1 <<< (possibleDirectedEdges 2).length ∧
      ∀ source target,
        Joined (SubsetMask.select mask (possibleDirectedEdges 2)) source target ↔
          oneEdge source target = true :=
  existsUnique_model oneEdge (by decide)

/-! ## Whole runs

The loops over choices and sizes find no difference, and count what they have looked at. -/

/-- Models without self loops are counted, whatever their masks are. -/
theorem checkMasks_eq_ok (masks : List ℕ) (modelsChecked : ℕ) :
    checkMasks nodeCount masks modelsChecked = .ok ⟨modelsChecked + masks.length, none⟩ := by
  induction masks generalizing modelsChecked with
  | nil => rfl
  | cons mask rest ih =>
      rw [checkMasks, checkModel_eq_ok (loopFree_select mask)]
      show checkMasks nodeCount rest (modelsChecked + 1) = _
      rw [ih, List.length_cons, Nat.add_right_comm, Nat.add_assoc]

/-- The models of several sizes, as long as their numbers fit. -/
theorem checkNodeCounts_eq_ok {nodeCounts : List ℕ}
    (hfits : ∀ nodeCount ∈ nodeCounts, nodeCount * (nodeCount - 1) < 64) (modelsChecked : ℕ) :
    checkNodeCounts nodeCounts modelsChecked =
      .ok ⟨modelsChecked +
        (nodeCounts.map fun nodeCount => 2 ^ (nodeCount * (nodeCount - 1))).sum, none⟩ := by
  induction nodeCounts generalizing modelsChecked with
  | nil => rfl
  | cons nodeCount rest ih =>
      have hfit := hfits nodeCount List.mem_cons_self
      rw [← length_possibleDirectedEdges] at hfit
      rw [checkNodeCounts, if_neg hfit.not_ge, checkMasks_eq_ok]
      show checkNodeCounts rest _ = _
      rw [ih fun other hother => hfits other (List.mem_cons_of_mem _ hother), List.length_range,
        Nat.one_shiftLeft, length_possibleDirectedEdges, List.map_cons, List.sum_cons,
        Nat.add_assoc]

/-- The number of directed graphs without self loops that have up to some nodes. -/
def graphsUpTo (maxNodes : ℕ) : ℕ :=
  ((List.range (maxNodes + 1)).map fun nodeCount => 2 ^ (nodeCount * (nodeCount - 1))).sum

/-- The comparison of every size up to eight ends, and finds no counterexample. -/
theorem exhaustiveDependencyGraphCheck_eq_ok {maxNodes : ℕ} (hfits : maxNodes ≤ 8) :
    exhaustiveDependencyGraphCheck maxNodes = .ok ⟨graphsUpTo maxNodes, none⟩ := by
  rw [exhaustiveDependencyGraphCheck, checkNodeCounts_eq_ok ?_, graphsUpTo, Nat.zero_add]
  intro nodeCount hmem
  have hle : nodeCount ≤ 8 := (Nat.lt_succ_iff.mp (List.mem_range.mp hmem)).trans hfits
  calc nodeCount * (nodeCount - 1) ≤ 8 * 7 := Nat.mul_le_mul hle (by omega)
    _ < 64 := by decide

/-- **The packet of every bound.**  A bound over five is refused.  Every other bound
gives a packet whose status, claim and check all say that the rule was proved for the
bound, without a counterexample, over all graphs of each size.  No graph of any size is
a counterexample, since both searches find a cycle exactly where there is one. -/
theorem buildPilot_eq (maxNodes : ℕ) :
    buildRustDependencyGraphAcyclicityProofPilot maxNodes =
      if 5 < maxNodes then
        .error (.returned "dependency graph proof pilot supports --max-nodes up to 5")
      else .ok (pilotPacket maxNodes ⟨graphsUpTo maxNodes, none⟩) := by
  unfold buildRustDependencyGraphAcyclicityProofPilot
  split
  · rfl
  · next hbound =>
      rw [exhaustiveDependencyGraphCheck_eq_ok (by omega)]
      rfl

end Models

end AspRust.Verification
