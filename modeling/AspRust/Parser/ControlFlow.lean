import AspRust.Foundation.HeldItems
import AspRust.Parser.FunctionSyntax
import Mathlib.Algebra.BigOperators.Group.Finset.Basic
import Mathlib.Data.String.Basic

/-!
# Control flow of a function

`native_syntax/control_flow.rs`.  Each collector is a visitor with its own fields; the theorems
at the end say what the numbers are, by the places of the body.

### What is load-bearing

Depth is a matter of the ancestors of a place, and the visitor keeps it in a field that it
raises and lowers.  `Foundation.ScopedWalk` turns such a visitor into a fold over places, after
which each number of the source is a count or a maximum over the places of the body.
-/

namespace AspRust.Parser.FunctionBody

open AspRust.Foundation

/-! ## Kinds of expression

The tests of the source on a single expression or statement. -/

def exprIsIntegerOne : Expr → Bool
  | .lit (.int base10Digits) => base10Digits = "1"
  | _ => false

def exprIsBoolLiteral : Expr → Bool
  | .lit (.bool _) => true
  | _ => false

def exprIsLiteral : Expr → Bool
  | .lit _ => true
  | _ => false

def collectionInitializerExpr : Expr → Bool
  | .array elems => elems.isEmpty
  | .call func _ => exprPathEndsWith func ["Vec", "new"]
  | .macroCall mac => mac.path = ["vec"]
  | _ => false

/-- The name a statement binds to a new collection that can be changed. -/
def collectionAccumulatorBinding : Stmt → Option String
  | .localBinding (.ident true name) _ (some initializer) _ =>
      if collectionInitializerExpr initializer then some name else none
  | _ => none

def collectionPushArgumentIsSimpleTransform : Expr → Bool
  | .path .. | .field _ | .index .. => true
  | .paren inner => collectionPushArgumentIsSimpleTransform inner
  | .reference inner => collectionPushArgumentIsSimpleTransform inner
  | .unary inner => collectionPushArgumentIsSimpleTransform inner
  | .binary left _ right =>
      collectionPushArgumentIsSimpleTransform left || collectionPushArgumentIsSimpleTransform right
  | .methodCall receiver method _ _ =>
      if method ∈ ["clone", "copied", "to_owned", "to_string"] then
        collectionPushArgumentIsSimpleTransform receiver
      else false
  | _ => false

def isLoop : Visit → Bool
  | .expr (.forLoop ..) | .expr (.loop _) | .expr (.whileLoop ..) => true
  | _ => false

/-- A loop, an `if` or a `match`. -/
def isControl : Visit → Bool
  | .expr (.ifElse ..) | .expr (.matchOn ..) => true
  | visit => isLoop visit

/-- Where a collector of loop bodies does not go: into inner loops and closures. -/
def leavesLoopBody : Visit → Bool
  | .expr (.closure ..) => true
  | visit => isLoop visit

/-! ## Signals of a loop body

A collector that goes through the body of a `for` loop, but not into inner loops and
closures, and keeps four flags.  It is started with the names that are bound to new
collections outside the loop. -/

structure ManualLoopBodySignals where
  collectionAccumulator : Bool := false
  predicateReturn : Bool := false
  numericAccumulator : Bool := false
  countAccumulator : Bool := false
deriving DecidableEq, Repr

/-- `accumulator.push(simple transform)` -/
def pushesTo (collectionAccumulators : OrderedSet String) (receiver : Expr) (method : String)
    (args : List Expr) : Bool :=
  (match exprPathIdent receiver with
    | some receiver => decide (receiver ∈ collectionAccumulators.keys)
    | none => false) && method = "push" &&
    match args with
    | [argument] => collectionPushArgumentIsSimpleTransform argument
    | _ => false

def manualLoopBodySignalCollector (collectionAccumulators : OrderedSet String) :
    Visitor Visit Unit ManualLoopBodySignals where
  enter _ scope := scope
  leave _ scope := scope
  descends visit := !leavesLoopBody visit
  record visit _ signals :=
    match visit with
    | .expr (.methodCall receiver method _ args) =>
        if pushesTo collectionAccumulators receiver method args then
          { signals with collectionAccumulator := true }
        else signals
    | .expr (.binary left .addAssign right) =>
        if (exprPathIdent left).isSome then
          if exprIsIntegerOne right then { signals with countAccumulator := true }
          else { signals with numericAccumulator := true }
        else signals
    | .expr (.returnValue (some value)) =>
        if exprIsBoolLiteral value then { signals with predicateReturn := true } else signals
    | _ => signals

def manualLoopBodySignals (block : Block) (collectionAccumulators : OrderedSet String) :
    ManualLoopBodySignals :=
  ((manualLoopBodySignalCollector collectionAccumulators).walkAll
    (Stmt.trees block.stmts) ((), {})).2

/-! ## The shape of the body

The collector for the whole body.  Its scope is the depth of control flow and of loops,
its state the counts and the names that were bound so far, which is why a loop is judged
by what stands before it. -/

/-- What the collector counts. -/
structure FlowCounts where
  statementCount : ℕ := 0
  maxBlockStatementCount : ℕ := 0
  branchCount : ℕ := 0
  loopCount : ℕ := 0
  maxNestingDepth : ℕ := 0
  maxLoopNestingDepth : ℕ := 0
  matchCount : ℕ := 0
  manualCollectionLoopCount : ℕ := 0
  manualPredicateLoopCount : ℕ := 0
  manualNumericAccumulatorLoopCount : ℕ := 0
  manualCountLoopCount : ℕ := 0
deriving DecidableEq, Repr

structure ControlScope where
  controlDepth : ℕ
  loopDepth : ℕ
deriving DecidableEq, Repr

structure CollectorState where
  facts : FlowCounts := {}
  collectionAccumulators : OrderedSet String := ∅

namespace CollectorState

/-- The depth of a scope that was entered. -/
def enterControlScope (collector : CollectorState) (scope : ControlScope) : CollectorState :=
  { collector with facts := { collector.facts with
    maxNestingDepth := max collector.facts.maxNestingDepth scope.controlDepth } }

def enterLoopScope (collector : CollectorState) (scope : ControlScope) : CollectorState :=
  enterControlScope { collector with facts := { collector.facts with
    loopCount := collector.facts.loopCount + 1
    maxLoopNestingDepth := max collector.facts.maxLoopNestingDepth scope.loopDepth } } scope

def recordManualLoopSignals (collector : CollectorState) (block : Block) : CollectorState :=
  let signals := manualLoopBodySignals block collector.collectionAccumulators
  { collector with facts := { collector.facts with
    manualCollectionLoopCount :=
      collector.facts.manualCollectionLoopCount + if signals.collectionAccumulator then 1 else 0
    manualPredicateLoopCount :=
      collector.facts.manualPredicateLoopCount + if signals.predicateReturn then 1 else 0
    manualNumericAccumulatorLoopCount :=
      collector.facts.manualNumericAccumulatorLoopCount + if signals.numericAccumulator then 1 else 0
    manualCountLoopCount :=
      collector.facts.manualCountLoopCount + if signals.countAccumulator then 1 else 0 } }

end CollectorState

def functionControlFlowCollector : Visitor Visit ControlScope CollectorState where
  enter visit scope :=
    ⟨if isControl visit then scope.controlDepth + 1 else scope.controlDepth,
      if isLoop visit then scope.loopDepth + 1 else scope.loopDepth⟩
  leave visit scope :=
    ⟨if isControl visit then scope.controlDepth - 1 else scope.controlDepth,
      if isLoop visit then scope.loopDepth - 1 else scope.loopDepth⟩
  descends _ := true
  record visit scope collector :=
    match visit with
    | .stmt stmt =>
        { facts := { collector.facts with
            statementCount := collector.facts.statementCount + 1 }
          collectionAccumulators :=
            collector.collectionAccumulators.learn (collectionAccumulatorBinding stmt) }
    | .block block =>
        { collector with facts := { collector.facts with
            maxBlockStatementCount :=
              max collector.facts.maxBlockStatementCount block.stmts.length } }
    | .expr (.ifElse ..) =>
        { collector with facts := { collector.facts with
            branchCount := collector.facts.branchCount + 1 } }.enterControlScope scope
    | .expr (.matchOn _ arms) =>
        { collector with facts := { collector.facts with
            matchCount := collector.facts.matchCount + 1
            branchCount := collector.facts.branchCount + arms.length } }.enterControlScope scope
    | .expr (.forLoop _ _ body) => (collector.recordManualLoopSignals body).enterLoopScope scope
    | .expr (.loop _) | .expr (.whileLoop ..) => collector.enterLoopScope scope
    | _ => collector

/-- The facts of the collector at the end. -/
def flowCounts (block : Block) : FlowCounts :=
  (functionControlFlowCollector.walk block.tree (⟨0, 0⟩, {})).2.facts

/-! ## Sources of loops -/

def simpleIteratorSource : Expr → Option String
  | .path [ident] _ => some ident
  | .methodCall receiver method _ _ =>
      if method ∈ ["iter", "iter_mut", "into_iter"] then exprPathIdent receiver else none
  | _ => none

def countSource (counts : OrderedMap String ℕ) (source : String) : OrderedMap String ℕ :=
  counts.insert source ((counts.get? source).getD 0 + 1)

def forLoopIteratorCollector : Visitor Visit Unit (OrderedMap String ℕ) where
  enter _ scope := scope
  leave _ scope := scope
  descends _ := true
  record visit _ iteratorCounts :=
    match visit with
    | .expr (.forLoop _ source _) =>
        match simpleIteratorSource source with
        | some source => countSource iteratorCounts source
        | none => iteratorCounts
    | _ => iteratorCounts

def repeatedLoopCount (iteratorCounts : OrderedMap String ℕ) : ℕ :=
  ((iteratorCounts.values.filter fun count => 1 < count).map fun count => count - 1).sum

def repeatedIteratorSourceLoopCount (block : Block) : ℕ :=
  repeatedLoopCount (forLoopIteratorCollector.walk block.tree ((), ∅)).2

/-! ## Membership scans

A loop is counted once if its body looks through a collection somewhere, so the inner
collector stops at the first scan that it finds. -/

def methodCallReceiverIsIterator : Expr → Bool
  | .methodCall _ method _ _ => method ∈ ["iter", "iter_mut", "into_iter"]
  | _ => false

def isLinearMembershipScanCall : Visit → Bool
  | .expr (.methodCall receiver method _ _) =>
      method ∈ ["any", "find", "position"] && methodCallReceiverIsIterator receiver
  | _ => false

/-- The collector stops at a scan. -/
def linearMembershipScanCollector : Visitor Visit Unit Bool where
  enter _ scope := scope
  leave _ scope := scope
  descends visit := !leavesLoopBody visit && !isLinearMembershipScanCall visit
  record visit _ found := found || isLinearMembershipScanCall visit

def loopBodyHasLinearMembershipScan (block : Block) : Bool :=
  (linearMembershipScanCollector.walkAll (Stmt.trees block.stmts) ((), false)).2

def linearMembershipScanLoopCollector : Visitor Visit Unit ℕ where
  enter _ scope := scope
  leave _ scope := scope
  descends _ := true
  record visit _ loopCount :=
    match visit with
    | .expr (.forLoop _ _ body) =>
        loopCount + if loopBodyHasLinearMembershipScan body then 1 else 0
    | _ => loopCount

def linearMembershipScanLoopCount (block : Block) : ℕ :=
  (linearMembershipScanLoopCollector.walk block.tree ((), 0)).2

/-! ## Blocking calls -/

def exprCallIsBlockingBoundary (func : Expr) : Bool :=
  exprPathEndsWith func ["spawn_blocking"] || exprPathEndsWith func ["block_in_place"]

def exprCallIsBlockingOperation (func : Expr) : Bool :=
  exprPathEndsWith func ["std", "thread", "sleep"]
    || exprPathEndsWith func ["thread", "sleep"]
    || exprPathEndsWith func ["std", "fs", "read"]
    || exprPathEndsWith func ["std", "fs", "read_to_string"]
    || exprPathEndsWith func ["std", "fs", "write"]
    || exprPathEndsWith func ["std", "net", "TcpStream", "connect"]

def isBlockingBoundary : Visit → Bool
  | .expr (.call func _) => exprCallIsBlockingBoundary func
  | _ => false

/-- The scope is `blocking_boundary_depth`.  The source visits the arguments of a boundary call
only; its function is a path, and nothing below a boundary is counted. -/
def blockingCallCollector : Visitor Visit ℕ ℕ where
  enter visit depth := if isBlockingBoundary visit then depth + 1 else depth
  leave visit depth := if isBlockingBoundary visit then depth - 1 else depth
  descends _ := true
  record visit depth count :=
    match visit with
    | .expr (.call func _) =>
        if depth = 0 && exprCallIsBlockingOperation func then count + 1 else count
    | _ => count

def blockingCallCount (block : Block) : ℕ := (blockingCallCollector.walk block.tree (0, 0)).2

/-! ## What is counted

The specification, with no collector in it.  A body is the list of its places, each with
the visits around it, and what is counted is said of a place. -/

/-- Something stands in a loop body, and not in an inner loop or a closure. -/
def InLoopBody (body : Block) (wanted : Visit → Prop) : Prop :=
  ∃ place ∈ LabelledTree.placesAll (Stmt.trees body.stmts),
    (∀ visit ∈ place.1, leavesLoopBody visit = false) ∧ wanted place.2

/-- A `for` loop with something in its body. -/
def ForLoopWith (wanted : Visit → Prop) (visit : Visit) : Prop :=
  ∃ beneath source body, visit = .expr (.forLoop beneath source body) ∧ InLoopBody body wanted

/-- `name.push(argument)`, where the name is one of some names and the argument is simple. -/
def PushesTo (names : String → Prop) (visit : Visit) : Prop :=
  ∃ name beneath turbofish argument,
    visit = .expr (.methodCall (.path [name] beneath) "push" turbofish [argument]) ∧
      names name ∧ collectionPushArgumentIsSimpleTransform argument = true

def ReturnsBool (visit : Visit) : Prop :=
  ∃ value, visit = .expr (.returnValue (some (.lit (.bool value))))

/-- `name += 1`, or `name += amount` with another amount. -/
def Accumulates (one : Bool) (visit : Visit) : Prop :=
  ∃ name beneath amount,
    visit = .expr (.binary (.path [name] beneath) .addAssign amount) ∧ exprIsIntegerOne amount = one

/-! ### Loop bodies

The signals of a body are the disjunction of the signals of its visits, whichever order
they come in. -/

/-- The four signals of one visit. -/
def signalsOf (names : OrderedSet String) (visit : Visit) : ManualLoopBodySignals :=
  (manualLoopBodySignalCollector names).record visit () {}

def ManualLoopBodySignals.or (first second : ManualLoopBodySignals) : ManualLoopBodySignals where
  collectionAccumulator := first.collectionAccumulator || second.collectionAccumulator
  predicateReturn := first.predicateReturn || second.predicateReturn
  numericAccumulator := first.numericAccumulator || second.numericAccumulator
  countAccumulator := first.countAccumulator || second.countAccumulator

theorem record_eq_or (names : OrderedSet String) (visit : Visit) (scope : Unit)
    (signals : ManualLoopBodySignals) :
    (manualLoopBodySignalCollector names).record visit scope signals =
      signals.or (signalsOf names visit) := by
  unfold signalsOf manualLoopBodySignalCollector ManualLoopBodySignals.or
  dsimp only
  split
  · split <;> simp
  · split
    · split <;> simp
    · simp
  · split <;> simp
  · simp

theorem pushesTo_iff {names : OrderedSet String} {receiver : Expr} {method : String}
    {args : List Expr} :
    pushesTo names receiver method args = true ↔
      ∃ name beneath argument, receiver = .path [name] beneath ∧ method = "push" ∧
        args = [argument] ∧ name ∈ names.keys ∧
        collectionPushArgumentIsSimpleTransform argument = true := by
  unfold pushesTo
  rw [Bool.and_eq_true, Bool.and_eq_true, decide_eq_true_eq]
  constructor
  · rintro ⟨⟨hreceiver, hmethod⟩, hargs⟩
    split at hreceiver
    · next name hname =>
        obtain ⟨beneath, rfl⟩ := exprPathIdent_eq_some.mp hname
        split at hargs
        · exact ⟨name, beneath, _, rfl, hmethod, rfl, of_decide_eq_true hreceiver, hargs⟩
        · cases hargs
    · cases hreceiver
  · rintro ⟨name, beneath, argument, rfl, rfl, rfl, hname, hargument⟩
    exact ⟨⟨decide_eq_true hname, rfl⟩, hargument⟩

theorem signalsOf_collectionAccumulator {names : OrderedSet String} {visit : Visit} :
    (signalsOf names visit).collectionAccumulator = true ↔
      PushesTo (fun name => name ∈ names.keys) visit := by
  constructor
  · intro h
    unfold signalsOf manualLoopBodySignalCollector at h
    dsimp only at h
    split at h
    · split at h
      · next hpushes =>
          obtain ⟨name, beneath, argument, rfl, rfl, rfl, hname, hargument⟩ := pushesTo_iff.mp hpushes
          exact ⟨name, beneath, _, argument, rfl, hname, hargument⟩
      · cases h
    · split at h
      · split at h <;> cases h
      · cases h
    · split at h <;> cases h
    · cases h
  · rintro ⟨name, beneath, turbofish, argument, rfl, hname, hargument⟩
    have hpushes := pushesTo_iff.mpr ⟨name, beneath, argument, rfl, rfl, rfl, hname, hargument⟩
    unfold signalsOf manualLoopBodySignalCollector
    dsimp only
    rw [if_pos hpushes]

theorem signalsOf_predicateReturn {names : OrderedSet String} {visit : Visit} :
    (signalsOf names visit).predicateReturn = true ↔ ReturnsBool visit := by
  constructor
  · intro h
    unfold signalsOf manualLoopBodySignalCollector at h
    dsimp only at h
    split at h
    · split at h <;> cases h
    · split at h
      · split at h <;> cases h
      · cases h
    · next value =>
        split at h
        · next hbool =>
            unfold exprIsBoolLiteral at hbool
            split at hbool
            · exact ⟨_, rfl⟩
            · cases hbool
        · cases h
    · cases h
  · rintro ⟨value, rfl⟩
    rfl

/-- The two signals of `name += amount`. -/
theorem signalsOf_accumulator {names : OrderedSet String} {visit : Visit} :
    ((signalsOf names visit).numericAccumulator = true ↔ Accumulates false visit) ∧
      ((signalsOf names visit).countAccumulator = true ↔ Accumulates true visit) := by
  have hrecord : ∀ {name beneath amount},
      signalsOf names (.expr (.binary (.path [name] beneath) .addAssign amount)) =
        if exprIsIntegerOne amount then { countAccumulator := true }
        else { numericAccumulator := true } := fun {_ _ _} => rfl
  refine ⟨⟨fun h => ?_, ?_⟩, ⟨fun h => ?_, ?_⟩⟩
  · unfold signalsOf manualLoopBodySignalCollector at h
    dsimp only at h
    split at h
    · split at h <;> cases h
    · split at h
      · next hleft =>
          obtain ⟨name, hname⟩ := Option.isSome_iff_exists.mp hleft
          obtain ⟨beneath, rfl⟩ := exprPathIdent_eq_some.mp hname
          split at h
          · cases h
          · next hone => exact ⟨name, beneath, _, rfl, Bool.eq_false_iff.mpr hone⟩
      · cases h
    · split at h <;> cases h
    · cases h
  · rintro ⟨name, beneath, amount, rfl, hone⟩
    rw [hrecord, hone]
    rfl
  · unfold signalsOf manualLoopBodySignalCollector at h
    dsimp only at h
    split at h
    · split at h <;> cases h
    · split at h
      · next hleft =>
          obtain ⟨name, hname⟩ := Option.isSome_iff_exists.mp hleft
          obtain ⟨beneath, rfl⟩ := exprPathIdent_eq_some.mp hname
          split at h
          · next hone => exact ⟨name, beneath, _, rfl, hone⟩
          · cases h
      · cases h
    · split at h <;> cases h
    · cases h
  · rintro ⟨name, beneath, amount, rfl, hone⟩
    rw [hrecord, hone]
    rfl

/-- What a body signals, visit by visit. -/
theorem manualLoopBodySignals_eq (block : Block) (names : OrderedSet String) :
    manualLoopBodySignals block names =
      ((LabelledTree.placesAll (Stmt.trees block.stmts)).filter
        (manualLoopBodySignalCollector names).reaches).foldl
          (fun signals place => signals.or (signalsOf names place.2)) {} := by
  unfold manualLoopBodySignals
  rw [(manualLoopBodySignalCollector names).walkAll_eq fun _ _ => rfl]
  dsimp only [Visitor.recordAll]
  congr 1
  funext signals place
  exact record_eq_or names place.2 _ signals

/-- A signal of a body is a signal of something in it. -/
theorem signal_iff {block : Block} {names : OrderedSet String} {signal : ManualLoopBodySignals → Bool}
    (hor : ∀ first second, signal (first.or second) = (signal first || signal second))
    (hnone : signal {} = false) {wanted : Visit → Prop}
    (hwanted : ∀ visit, signal (signalsOf names visit) = true ↔ wanted visit) :
    signal (manualLoopBodySignals block names) = true ↔ InLoopBody block wanted := by
  have hfold : ∀ places : List (List Visit × Visit),
      signal (places.foldl (fun signals place => signals.or (signalsOf names place.2)) {}) =
        places.foldl (fun raised place => raised || signal (signalsOf names place.2)) (signal {}) :=
    fun _ => (List.foldl_hom signal fun _ _ => (hor _ _).symm).symm
  rw [manualLoopBodySignals_eq, hfold, foldl_or_eq_true_iff, hnone]
  simp only [Bool.false_eq_true, false_or, hwanted, List.mem_filter]
  refine exists_congr fun place => ?_
  rw [and_assoc, Visitor.reaches, List.all_eq_true]
  simp only [manualLoopBodySignalCollector, Bool.not_eq_true']

/-! ### The shape of the body

One visit changes the counts by an amount that depends on the depths and the names at
its place.  So the counts at the end are sums and maxima over the places of the body,
and a flag of a loop is raised where the loop has something in its body. -/

def isStmt : Visit → Bool
  | .stmt _ => true
  | _ => false

def isMatch : Visit → Bool
  | .expr (.matchOn ..) => true
  | _ => false

/-- The branches of an expression: one of an `if`, the arms of a `match`. -/
def branches : Visit → ℕ
  | .expr (.ifElse ..) => 1
  | .expr (.matchOn _ arms) => arms.length
  | _ => 0

/-- The statements of a block. -/
def blockSize : Visit → ℕ
  | .block block => block.stmts.length
  | _ => 0

/-- The name a visit binds to a new collection. -/
def accumulatorOf : Visit → Option String
  | .stmt stmt => collectionAccumulatorBinding stmt
  | _ => none

/-- The signals of the body of a `for` loop. -/
def loopSignals (visit : Visit) (names : OrderedSet String) : ManualLoopBodySignals :=
  match visit with
  | .expr (.forLoop _ _ body) => manualLoopBodySignals body names
  | _ => {}

/-- What one visit adds to the counts, at given depths and with the names known. -/
def FlowCounts.visit (facts : FlowCounts) (visit : Visit) (scope : ControlScope)
    (names : OrderedSet String) : FlowCounts where
  statementCount := facts.statementCount + (isStmt visit).toNat
  maxBlockStatementCount := max facts.maxBlockStatementCount (blockSize visit)
  branchCount := facts.branchCount + branches visit
  loopCount := facts.loopCount + (isLoop visit).toNat
  maxNestingDepth := max facts.maxNestingDepth (if isControl visit then scope.controlDepth else 0)
  maxLoopNestingDepth := max facts.maxLoopNestingDepth (if isLoop visit then scope.loopDepth else 0)
  matchCount := facts.matchCount + (isMatch visit).toNat
  manualCollectionLoopCount :=
    facts.manualCollectionLoopCount + (loopSignals visit names).collectionAccumulator.toNat
  manualPredicateLoopCount :=
    facts.manualPredicateLoopCount + (loopSignals visit names).predicateReturn.toNat
  manualNumericAccumulatorLoopCount :=
    facts.manualNumericAccumulatorLoopCount + (loopSignals visit names).numericAccumulator.toNat
  manualCountLoopCount :=
    facts.manualCountLoopCount + (loopSignals visit names).countAccumulator.toNat

/-- A visit at which there is nothing to count. -/
theorem FlowCounts.visit_eq_self {facts : FlowCounts} {visit : Visit} {scope : ControlScope}
    {names : OrderedSet String} (hstmt : isStmt visit = false) (hblock : blockSize visit = 0)
    (hbranches : branches visit = 0) (hcontrol : isControl visit = false)
    (hloop : isLoop visit = false) (hmatch : isMatch visit = false)
    (hsignals : loopSignals visit names = {}) : facts.visit visit scope names = facts := by
  unfold FlowCounts.visit
  rw [hstmt, hblock, hbranches, hcontrol, hloop, hmatch, hsignals]
  simp only [Bool.toNat_false, Nat.add_zero, Nat.max_zero, Bool.false_eq_true, if_false]

theorem record_eq_visit (visit : Visit) (scope : ControlScope) (collector : CollectorState) :
    functionControlFlowCollector.record visit scope collector =
      ⟨collector.facts.visit visit scope
          (collector.collectionAccumulators.learn (accumulatorOf visit)),
        collector.collectionAccumulators.learn (accumulatorOf visit)⟩ := by
  have htoNat : ∀ flag : Bool, (if flag = true then 1 else 0) = flag.toNat := by decide
  have hidle : ∀ {visit : Visit}, isStmt visit = false → blockSize visit = 0 →
      branches visit = 0 → isControl visit = false → isLoop visit = false →
      isMatch visit = false →
      loopSignals visit collector.collectionAccumulators = {} → collector =
        ⟨collector.facts.visit visit scope collector.collectionAccumulators,
          collector.collectionAccumulators⟩ := by
    intro visit hstmt hblock hbranches hcontrol hloop hmatch hsignals
    rw [FlowCounts.visit_eq_self hstmt hblock hbranches hcontrol hloop hmatch hsignals]
  cases visit with
  | stmt stmt => simp [functionControlFlowCollector, FlowCounts.visit, accumulatorOf, isStmt,
      blockSize, branches, isLoop, isControl, isMatch, loopSignals]
  | block block => simp [functionControlFlowCollector, FlowCounts.visit, accumulatorOf, isStmt,
      blockSize, branches, isLoop, isControl, isMatch, loopSignals, OrderedSet.learn]
  | mac mac => exact hidle rfl rfl rfl rfl rfl rfl rfl
  | expr expr =>
      cases expr with
      | ifElse cond thenBranch elseBranch => simp [functionControlFlowCollector,
          FlowCounts.visit, accumulatorOf, isStmt, blockSize, branches, isLoop, isControl, isMatch,
          loopSignals, OrderedSet.learn, CollectorState.enterControlScope]
      | matchOn subject arms => simp [functionControlFlowCollector, FlowCounts.visit,
          accumulatorOf, isStmt, blockSize, branches, isLoop, isControl, isMatch, loopSignals,
          OrderedSet.learn, CollectorState.enterControlScope]
      | forLoop beneath source body => simp [functionControlFlowCollector, FlowCounts.visit,
          accumulatorOf, isStmt, blockSize, branches, isLoop, isControl, isMatch, loopSignals,
          OrderedSet.learn, CollectorState.enterControlScope, CollectorState.enterLoopScope,
          CollectorState.recordManualLoopSignals, htoNat]
      | loop body => simp [functionControlFlowCollector, FlowCounts.visit, accumulatorOf, isStmt,
          blockSize, branches, isLoop, isControl, isMatch, loopSignals, OrderedSet.learn,
          CollectorState.enterControlScope, CollectorState.enterLoopScope]
      | whileLoop cond body => simp [functionControlFlowCollector, FlowCounts.visit,
          accumulatorOf, isStmt, blockSize, branches, isLoop, isControl, isMatch, loopSignals,
          OrderedSet.learn, CollectorState.enterControlScope, CollectorState.enterLoopScope]
      | _ => exact hidle rfl rfl rfl rfl rfl rfl rfl

/-- How many visits of a kind lie around a visit of the kind, with itself. -/
def depthOf (kind : Visit → Bool) (place : List Visit × Visit) : ℕ :=
  if kind place.2 then place.1.countP kind + 1 else 0

theorem scopeAt_eq (place : List Visit × Visit) :
    functionControlFlowCollector.scopeAt ⟨0, 0⟩ place =
      ⟨(place.1 ++ [place.2]).countP isControl, (place.1 ++ [place.2]).countP isLoop⟩ := by
  unfold Visitor.scopeAt
  generalize place.1 ++ [place.2] = visits
  induction visits using List.reverseRecOn with
  | nil => rfl
  | append_singleton rest last ih =>
      rw [List.foldl_append, ih, List.countP_append, List.countP_append, List.countP_singleton,
        List.countP_singleton]
      dsimp only [functionControlFlowCollector, List.foldl_cons, List.foldl_nil]
      cases isControl last <;> cases isLoop last <;> rfl

theorem depthOf_eq (kind : Visit → Bool) (place : List Visit × Visit) :
    (if kind place.2 then (place.1 ++ [place.2]).countP kind else 0) = depthOf kind place := by
  unfold depthOf
  split
  · next h => rw [List.countP_append, List.countP_singleton, if_pos h]
  · rfl

/-- The name given at a place. -/
def placeGives (place : List Visit × Visit) : Option String := accumulatorOf place.2

/-- How many places raise a signal, with the names given up to there. -/
def signalCount (signal : ManualLoopBodySignals → Bool) (places : List (List Visit × Visit)) : ℕ :=
  (withBefore places).countP fun entry =>
    signal (loopSignals entry.2.2 (givenNames placeGives (entry.1 ++ [entry.2])))

theorem signalCount_append_singleton (signal : ManualLoopBodySignals → Bool)
    (places : List (List Visit × Visit)) (last : List Visit × Visit) :
    signalCount signal (places ++ [last]) = signalCount signal places +
      (signal (loopSignals last.2 ((givenNames placeGives places).learn
        (accumulatorOf last.2)))).toNat := by
  unfold signalCount
  rw [withBefore_append_singleton, List.countP_append, List.countP_singleton,
    givenNames_append_singleton]
  congr 1
  show (if _ then 1 else 0) = Bool.toNat _
  unfold placeGives
  split
  · next h => rw [h]; rfl
  · next h => rw [Bool.eq_false_iff.mpr h]; rfl

/-- What a visit to all the places counts. -/
theorem recordAll_eq (places : List (List Visit × Visit)) :
    functionControlFlowCollector.recordAll ⟨0, 0⟩ places {} =
      ⟨{ statementCount := places.countP fun place => isStmt place.2
         maxBlockStatementCount :=
           places.foldl (fun bound place => max bound (blockSize place.2)) 0
         branchCount := (places.map fun place => branches place.2).sum
         loopCount := places.countP fun place => isLoop place.2
         maxNestingDepth := places.foldl (fun bound place => max bound (depthOf isControl place)) 0
         maxLoopNestingDepth := places.foldl (fun bound place => max bound (depthOf isLoop place)) 0
         matchCount := places.countP fun place => isMatch place.2
         manualCollectionLoopCount := signalCount (·.collectionAccumulator) places
         manualPredicateLoopCount := signalCount (·.predicateReturn) places
         manualNumericAccumulatorLoopCount := signalCount (·.numericAccumulator) places
         manualCountLoopCount := signalCount (·.countAccumulator) places },
        givenNames placeGives places⟩ := by
  have htoNat : ∀ flag : Bool, (if flag = true then 1 else 0) = flag.toNat := by decide
  induction places using List.reverseRecOn with
  | nil => rfl
  | append_singleton rest last ih =>
      rw [Visitor.recordAll_append, ih]
      show functionControlFlowCollector.record last.2 _ _ = _
      rw [record_eq_visit, scopeAt_eq]
      unfold FlowCounts.visit
      dsimp only
      rw [depthOf_eq, depthOf_eq]
      simp only [List.countP_append, List.countP_singleton, List.foldl_append,
        List.foldl_cons, List.foldl_nil, List.map_append, List.sum_append, List.map_singleton,
        List.sum_singleton, signalCount_append_singleton, givenNames_append_singleton, htoNat]
      rfl

theorem collector_restores : functionControlFlowCollector.Restores := by
  intro visit scope
  dsimp only [functionControlFlowCollector]
  cases isControl visit <;> cases isLoop visit <;> rfl

/-- A signal of the body of a visit is a `for` loop with something in its body. -/
theorem loopSignal_iff {visit : Visit} {names : OrderedSet String}
    {signal : ManualLoopBodySignals → Bool}
    (hor : ∀ first second, signal (first.or second) = (signal first || signal second))
    (hnone : signal {} = false) {wanted : Visit → Prop}
    (hwanted : ∀ visit, signal (signalsOf names visit) = true ↔ wanted visit) :
    signal (loopSignals visit names) = true ↔ ForLoopWith wanted visit := by
  unfold loopSignals
  split
  · next beneath source body =>
      rw [signal_iff hor hnone hwanted]
      constructor
      · exact fun h => ⟨_, _, _, rfl, h⟩
      · rintro ⟨_, _, _, hvisit, h⟩
        obtain ⟨-, -, rfl⟩ := Expr.forLoop.inj (Visit.expr.inj hvisit)
        exact h
  · next hnot =>
      rw [hnone]
      refine ⟨fun h => absurd h Bool.false_ne_true, ?_⟩
      rintro ⟨_, _, _, rfl, -⟩
      exact absurd rfl (hnot _ _ _)

/-- At a `for` loop the names given are those of the places before it. -/
theorem forLoopWith_pushesTo_iff {before : List (List Visit × Visit)}
    {place : List Visit × Visit} :
    ForLoopWith (PushesTo fun name =>
        name ∈ (givenNames placeGives (before ++ [place])).keys) place.2 ↔
      ForLoopWith (PushesTo fun name =>
        ∃ other ∈ before, accumulatorOf other.2 = some name) place.2 := by
  unfold ForLoopWith
  refine exists_congr fun beneath => exists_congr fun source => exists_congr fun body =>
    and_congr_right fun hvisit => ?_
  have hgiven : (givenNames placeGives (before ++ [place])) = givenNames placeGives before := by
    rw [givenNames_append_singleton, placeGives, hvisit]
    rfl
  have hnames : (fun name => name ∈ (givenNames placeGives (before ++ [place])).keys) =
      fun name => ∃ other ∈ before, accumulatorOf other.2 = some name := by
    funext name
    rw [hgiven, givenNames, OrderedSet.mem_ofList, List.mem_filterMap]
    rfl
  rw [hnames]

/-- The counts of a body, by its places. -/
structure FlowCounts.Describe (facts : FlowCounts) (block : Block) : Prop where
  statementCount : facts.statementCount = block.places.countP fun place => isStmt place.2
  maxBlockStatementCount :
    IsGreatest (fun place => blockSize place.2) block.places facts.maxBlockStatementCount
  branchCount : facts.branchCount = (block.places.map fun place => branches place.2).sum
  loopCount : facts.loopCount = block.places.countP fun place => isLoop place.2
  maxNestingDepth : IsGreatest (depthOf isControl) block.places facts.maxNestingDepth
  maxLoopNestingDepth : IsGreatest (depthOf isLoop) block.places facts.maxLoopNestingDepth
  matchCount : facts.matchCount = block.places.countP fun place => isMatch place.2
  /-- Loops that push to a collection bound before them. -/
  manualCollectionLoopCount : open Classical in
    facts.manualCollectionLoopCount = (withBefore block.places).countP fun entry =>
      decide (ForLoopWith (PushesTo fun name =>
        ∃ place ∈ entry.1, accumulatorOf place.2 = some name) entry.2.2)
  manualPredicateLoopCount : open Classical in
    facts.manualPredicateLoopCount =
      block.places.countP fun place => decide (ForLoopWith ReturnsBool place.2)
  manualNumericAccumulatorLoopCount : open Classical in
    facts.manualNumericAccumulatorLoopCount =
      block.places.countP fun place => decide (ForLoopWith (Accumulates false) place.2)
  manualCountLoopCount : open Classical in
    facts.manualCountLoopCount =
      block.places.countP fun place => decide (ForLoopWith (Accumulates true) place.2)

open Classical in
/-- A signal that is raised at a place or not, whatever is before it. -/
theorem signalCount_eq {signal : ManualLoopBodySignals → Bool} {wanted : Visit → Prop}
    {places : List (List Visit × Visit)}
    (h : ∀ visit names, signal (loopSignals visit names) = true ↔ wanted visit) :
    signalCount signal places = places.countP fun place => decide (wanted place.2) := by
  have hsnd : (withBefore places).map Prod.snd = places := by
    induction places with
    | nil => rfl
    | cons head rest ih =>
        rw [withBefore, List.map_cons, List.map_map]
        exact congrArg (head :: ·) ih
  conv_rhs => rw [← hsnd]
  rw [signalCount, List.countP_map]
  refine List.countP_congr fun entry _ => ?_
  rw [h, Function.comp_apply, decide_eq_true_eq]

/-- **The counts of the collector describe the body.** -/
theorem flowCounts_describe (block : Block) : (flowCounts block).Describe block := by
  have hcounts : flowCounts block =
      (functionControlFlowCollector.recordAll ⟨0, 0⟩ block.places {}).facts := by
    unfold flowCounts
    rw [Visitor.walk_snd _ collector_restores, Visitor.filter_reaches_of_descends _ fun _ => rfl]
    rfl
  rw [hcounts, recordAll_eq]
  exact
    { statementCount := rfl
      maxBlockStatementCount := isGreatest_foldl_max _ _
      branchCount := rfl
      loopCount := rfl
      maxNestingDepth := isGreatest_foldl_max _ _
      maxLoopNestingDepth := isGreatest_foldl_max _ _
      matchCount := rfl
      manualCollectionLoopCount := by
        classical
        refine List.countP_congr fun entry _ => ?_
        have hsignal := @loopSignal_iff entry.2.2
          (givenNames placeGives (entry.1 ++ [entry.2])) (·.collectionAccumulator)
          (fun _ _ => rfl) rfl _ fun _ => signalsOf_collectionAccumulator
        rw [hsignal, decide_eq_true_eq]
        exact forLoopWith_pushesTo_iff
      manualPredicateLoopCount := signalCount_eq fun _ _ =>
        loopSignal_iff (fun _ _ => rfl) rfl fun _ => signalsOf_predicateReturn
      manualNumericAccumulatorLoopCount := signalCount_eq fun _ _ =>
        loopSignal_iff (fun _ _ => rfl) rfl fun _ => signalsOf_accumulator.1
      manualCountLoopCount := signalCount_eq fun _ _ =>
        loopSignal_iff (fun _ _ => rfl) rfl fun _ => signalsOf_accumulator.2 }

/-! ### Sources of loops

Every pass over a source but the first is repeated, so the number of repetitions and the
number of different sources make up the number of passes. -/

/-- The source of a `for` loop, if it is a name or an iterator of one. -/
def sourceOf : Visit → Option String
  | .expr (.forLoop _ source _) => simpleIteratorSource source
  | _ => none

/-- The counts of a list of names. -/
theorem get?_foldl_countSource (sources : List String) (name : String) :
    (sources.foldl countSource ∅).get? name =
      if name ∈ sources then some (sources.count name) else none := by
  induction sources using List.reverseRecOn with
  | nil => rfl
  | append_singleton rest last ih =>
      rw [List.foldl_append, List.foldl_cons, List.foldl_nil, countSource, OrderedMap.get?_insert]
      by_cases hname : name = last
      · subst hname
        rw [if_pos rfl, if_pos (by simp), ih, List.count_append, List.count_singleton_self]
        split
        · rfl
        · next hnot => rw [List.count_eq_zero.mpr hnot]; rfl
      · have hcount : List.count name [last] = 0 :=
          List.count_eq_zero.mpr fun h => hname (List.mem_singleton.mp h)
        rw [if_neg hname, ih, List.count_append, hcount, Nat.add_zero]
        simp [hname]

/-- Every pass over a name but the first is repeated. -/
theorem repeatedLoopCount_foldl (sources : List String) :
    repeatedLoopCount (sources.foldl countSource ∅) + sources.toFinset.card = sources.length := by
  have hentry : ∀ entry ∈ (sources.foldl countSource ∅).entries,
      entry.1 ∈ sources ∧ entry.2 = sources.count entry.1 := by
    intro entry hmem
    have hget := OrderedMap.get?_eq_some_iff.mpr hmem
    rw [get?_foldl_countSource] at hget
    split at hget
    · next hin => exact ⟨hin, (Option.some.inj hget).symm⟩
    · cases hget
  have hkeys : (sources.foldl countSource ∅).keys.toFinset = sources.toFinset := by
    ext name
    rw [List.mem_toFinset, List.mem_toFinset, OrderedMap.mem_keys_iff, get?_foldl_countSource]
    split <;> simp_all
  have hvalues : (sources.foldl countSource ∅).values =
      (sources.foldl countSource ∅).keys.map fun name => sources.count name := by
    rw [OrderedMap.values, OrderedMap.keys, List.map_map]
    exact List.map_congr_left fun entry hmem => (hentry entry hmem).2
  have hrepeated : repeatedLoopCount (sources.foldl countSource ∅) =
      ∑ name ∈ sources.toFinset, (sources.count name - 1) := by
    rw [← hkeys, List.sum_toFinset _ (OrderedMap.nodup_keys _), repeatedLoopCount, hvalues]
    generalize (sources.foldl countSource ∅).keys = names
    induction names with
    | nil => rfl
    | cons head rest ih =>
        rw [List.map_cons, List.filter_cons, List.map_cons, List.sum_cons, ← ih]
        split
        · rw [List.map_cons, List.sum_cons]
        · next hone => rw [Nat.sub_eq_zero_of_le (by simpa using hone), Nat.zero_add]
  rw [hrepeated, Finset.card_eq_sum_ones, ← Finset.sum_add_distrib,
    ← List.sum_toFinset_count_eq_length]
  refine Finset.sum_congr rfl fun name hname => ?_
  exact Nat.sub_add_cancel (List.count_pos_iff.mpr (List.mem_toFinset.mp hname))

/-- The sources of the loops of a body, in order. -/
def Block.sources (block : Block) : List String :=
  block.places.filterMap fun place => sourceOf place.2

theorem repeatedIteratorSourceLoopCount_spec (block : Block) :
    repeatedIteratorSourceLoopCount block + block.sources.toFinset.card =
      block.sources.length := by
  have hcounts : (forLoopIteratorCollector.walk block.tree ((), ∅)).2 =
      block.sources.foldl countSource ∅ := by
    rw [Visitor.walk_snd _ fun _ _ => rfl, Visitor.filter_reaches_of_descends _ fun _ => rfl,
      Block.sources, List.foldl_filterMap]
    unfold Visitor.recordAll
    congr 1
    funext counts place
    dsimp only [forLoopIteratorCollector, sourceOf]
    split
    · split <;> simp_all
    · rfl
  rw [repeatedIteratorSourceLoopCount, hcounts, repeatedLoopCount_foldl]

/-! ### Membership scans -/

theorem loopBodyHasLinearMembershipScan_iff {body : Block} :
    loopBodyHasLinearMembershipScan body = true ↔
      InLoopBody body fun visit => isLinearMembershipScanCall visit = true := by
  unfold loopBodyHasLinearMembershipScan
  rw [Visitor.walkAll_eq _ fun _ _ => rfl]
  dsimp only [Visitor.recordAll]
  show List.foldl (fun found (place : List Visit × Visit) =>
    found || isLinearMembershipScanCall place.2) false _ = true ↔ _
  rw [foldl_or_eq_true_iff, or_iff_right Bool.false_ne_true]
  refine linearMembershipScanCollector.exists_reached_iff
    (fun visit => isLinearMembershipScanCall visit = true) leavesLoopBody
    (fun visit hbars => ?_) (fun visit hstops hfree => ?_) _
  · show (!leavesLoopBody visit && !isLinearMembershipScanCall visit) = false
    rw [hbars]
    rfl
  · have hvisit : (!leavesLoopBody visit && !isLinearMembershipScanCall visit) = false := hstops
    rw [hfree] at hvisit
    simpa using hvisit

/-- A loop whose body looks through a collection. -/
def ScansMembers (visit : Visit) : Prop :=
  ForLoopWith (fun inner => isLinearMembershipScanCall inner = true) visit

theorem scansMembers_forLoop_iff {beneath : List Part} {source : Expr} {body : Block} :
    ScansMembers (.expr (.forLoop beneath source body)) ↔
      loopBodyHasLinearMembershipScan body = true := by
  rw [loopBodyHasLinearMembershipScan_iff]
  constructor
  · rintro ⟨_, _, _, hvisit, h⟩
    obtain ⟨-, -, rfl⟩ := Expr.forLoop.inj (Visit.expr.inj hvisit)
    exact h
  · exact fun h => ⟨_, _, _, rfl, h⟩

open Classical in
theorem linearMembershipScanLoopCount_eq (block : Block) :
    linearMembershipScanLoopCount block =
      block.places.countP fun place => decide (ScansMembers place.2) := by
  unfold linearMembershipScanLoopCount
  rw [Visitor.walk_snd _ fun _ _ => rfl, Visitor.filter_reaches_of_descends _ fun _ => rfl]
  unfold Visitor.recordAll
  rw [foldl_eq_countP fun place : List Visit × Visit => ScansMembers place.2, Nat.zero_add]
  · rfl
  · rintro total ⟨above, visit⟩ hscans
    obtain ⟨beneath, source, body, rfl, hbody⟩ := id hscans
    dsimp only [linearMembershipScanLoopCollector]
    rw [if_pos (scansMembers_forLoop_iff.mp hscans)]
  · rintro total ⟨above, visit⟩ hnot
    dsimp only [linearMembershipScanLoopCollector]
    split
    · rw [if_neg fun h => hnot (scansMembers_forLoop_iff.mpr h), Nat.add_zero]
    · rfl

/-! ### Blocking calls -/

/-- A blocking operation is called, and not inside the call of a boundary. -/
def BlocksAt (place : List Visit × Visit) : Prop :=
  (∃ func args, place.2 = .expr (.call func args) ∧ exprCallIsBlockingOperation func = true) ∧
    ∀ visit ∈ place.1 ++ [place.2], isBlockingBoundary visit = false

/-- The depth at a place is the number of boundaries around it, with itself. -/
theorem blockingDepth_eq (place : List Visit × Visit) :
    blockingCallCollector.scopeAt 0 place = (place.1 ++ [place.2]).countP isBlockingBoundary := by
  unfold Visitor.scopeAt
  generalize place.1 ++ [place.2] = visits
  induction visits using List.reverseRecOn with
  | nil => rfl
  | append_singleton rest last ih =>
      rw [List.foldl_append, ih, List.countP_append, List.countP_singleton]
      dsimp only [blockingCallCollector, List.foldl_cons, List.foldl_nil]
      split <;> rfl

theorem blockingCollector_restores : blockingCallCollector.Restores := by
  intro visit depth
  dsimp only [blockingCallCollector]
  cases isBlockingBoundary visit <;> rfl

open Classical in
theorem blockingCallCount_eq (block : Block) :
    blockingCallCount block = block.places.countP fun place => decide (BlocksAt place) := by
  unfold blockingCallCount
  rw [Visitor.walk_snd _ blockingCollector_restores,
    Visitor.filter_reaches_of_descends _ fun _ => rfl]
  unfold Visitor.recordAll
  simp only [blockingDepth_eq]
  have hfree : ∀ place : List Visit × Visit,
      (∀ visit ∈ place.1 ++ [place.2], isBlockingBoundary visit = false) ↔
        (place.1 ++ [place.2]).countP isBlockingBoundary = 0 := by
    intro place
    rw [List.countP_eq_zero]
    exact forall₂_congr fun visit _ => Bool.eq_false_iff
  rw [foldl_eq_countP BlocksAt, Nat.zero_add]
  · rfl
  · rintro total place ⟨⟨func, args, hcall, hblocking⟩, houtside⟩
    dsimp only [blockingCallCollector]
    rw [(hfree place).mp houtside, hcall]
    simp [hblocking]
  · intro total place hnot
    dsimp only [blockingCallCollector]
    split
    · next func args hcall =>
        refine if_neg fun h => hnot ?_
        rw [Bool.and_eq_true, decide_eq_true_eq] at h
        exact ⟨⟨func, args, hcall, h.2⟩, (hfree place).mpr h.1⟩
    · rfl

end AspRust.Parser.FunctionBody
