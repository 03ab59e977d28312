import AspRust.Foundation.Text
import AspRust.Parser.ControlFlow

/-!
# Boundaries of asynchronous code

The collectors of `native_syntax` for locks, queues, tasks and cancellation.  A guard of a
synchronous lock is followed through the statements of its block:
`syncLockGuardAcrossAwaitCount_pos_iff` says when one is found across an `await`.

### What is load-bearing

A guard is held to the end of its block, to a `drop` of its name, or to the first `await`, where
all that are held are counted.  So the collector goes through the statements of a block in their
order with the names held so far (`Foundation.HeldItems`).  An `await` in a nested block or a
closure is inside the statement that holds it.
-/

namespace AspRust.Parser.FunctionBody

open AspRust.Foundation

/-! ## Locks

Which expressions are a guard of a synchronous lock, which statements let one go, and
the pass over the statements of a block that carries the names held. -/

def isAwait : Visit → Bool
  | .expr (.await _) => true
  | _ => false

def awaitExpressionCollector : Visitor Visit Unit Bool where
  enter _ scope := scope
  leave _ scope := scope
  descends visit := !isAwait visit
  record visit _ found := found || isAwait visit

def statementContainsAwait (statement : Stmt) : Bool :=
  (awaitExpressionCollector.walk statement.tree ((), false)).2

def exprContainsAwait (expr : Expr) : Bool :=
  (awaitExpressionCollector.walk expr.tree ((), false)).2

def bindingNameSuggestsGuard (bindingName : String) : Bool :=
  containsSlice "guard".toList bindingName.toList

def receiverIsKnownSyncLock (syncLockReceivers : OrderedSet String) : Expr → Bool
  | .path [ident] _ => decide (ident ∈ syncLockReceivers.keys)
  | .field base => receiverIsKnownSyncLock syncLockReceivers base
  | .paren inner => receiverIsKnownSyncLock syncLockReceivers inner
  | .reference inner => receiverIsKnownSyncLock syncLockReceivers inner
  | _ => false

def syncLockGuardInitializer (bindingName : String) (syncLockReceivers : OrderedSet String)
    (expr : Expr) : Bool :=
  if exprContainsAwait expr then false
  else
    match expr with
    | .methodCall receiver method _ _ =>
        if method = "lock" then true
        else if method ∈ ["read", "write"] then
          bindingNameSuggestsGuard bindingName || receiverIsKnownSyncLock syncLockReceivers receiver
        else if method ∈ ["unwrap", "expect"] then
          syncLockGuardInitializer bindingName syncLockReceivers receiver
        else false
    | .tryOp inner => syncLockGuardInitializer bindingName syncLockReceivers inner
    | .paren inner => syncLockGuardInitializer bindingName syncLockReceivers inner
    | _ => false

/-- The name a statement binds to the guard of a lock. -/
def syncLockGuardBinding (syncLockReceivers : OrderedSet String) : Stmt → Option String
  | .localBinding (.ident _ bindingName) _ (some initializer) _ =>
      if syncLockGuardInitializer bindingName syncLockReceivers initializer then some bindingName
      else none
  | _ => none

mutual

def typeContainsSyncLock : Ty → Bool
  | .path segments => pathContainsSyncLock segments
  | .reference elem => typeContainsSyncLock elem
  | .paren elem => typeContainsSyncLock elem
  | .group elem => typeContainsSyncLock elem
  | .tuple elems => typesContainSyncLock elems
  | .other => false

def typesContainSyncLock : List Ty → Bool
  | [] => false
  | ty :: rest => typeContainsSyncLock ty || typesContainSyncLock rest

def pathContainsSyncLock : List TySegment → Bool
  | [] => false
  | .mk ident arguments :: rest =>
      (decide (ident ∈ ["Mutex", "RwLock"]) || pathArgumentsContainSyncLock arguments) ||
        pathContainsSyncLock rest

def pathArgumentsContainSyncLock : List GenericArgument → Bool
  | [] => false
  | .type ty :: rest => typeContainsSyncLock ty || pathArgumentsContainSyncLock rest
  | .other :: rest => pathArgumentsContainSyncLock rest

end

/-- The parameters whose type has a lock in it. -/
def syncLockReceiverBindings (inputs : List FnArg) : OrderedSet String :=
  OrderedSet.ofList (inputs.filterMap fun input =>
    match input with
    | .typed (.ident _ name) ty => if typeContainsSyncLock ty then some name else none
    | _ => none)

/-- `drop(guard);` -/
def explicitDropGuard : Stmt → Option String
  | .expr (.call func [argument]) _ =>
      if exprPathEndsWith func ["drop"] then exprPathIdent argument else none
  | _ => none

/-- One statement of a block, with the guards that are active. -/
def guardStep (syncLockReceivers : OrderedSet String) (state : OrderedSet String × ℕ)
    (statement : Stmt) : OrderedSet String × ℕ :=
  let activeGuards := state.1.learn (syncLockGuardBinding syncLockReceivers statement)
  let awaited :=
    if !activeGuards.keys.isEmpty && statementContainsAwait statement then
      (∅, state.2 + activeGuards.keys.length)
    else (activeGuards, state.2)
  match explicitDropGuard statement with
  | some guard => (awaited.1.erase guard, awaited.2)
  | none => awaited

/-- Every block has active guards of its own, so the blocks inside it are visited as well. -/
def syncLockGuardAcrossAwaitCollector (syncLockReceivers : OrderedSet String) :
    Visitor Visit Unit ℕ where
  enter _ scope := scope
  leave _ scope := scope
  descends _ := true
  record visit _ count :=
    match visit with
    | .block block => (block.stmts.foldl (guardStep syncLockReceivers) (∅, count)).2
    | _ => count

def syncLockGuardAcrossAwaitCount (inputs : List FnArg) (block : Block) : ℕ :=
  ((syncLockGuardAcrossAwaitCollector (syncLockReceiverBindings inputs)).walk
    block.tree ((), 0)).2

/-! ## Counting collectors

The other collectors have no scope: they go through the whole body and add up what each
visit counts.  Each of them is given by that amount. -/

/-- A collector that adds up an amount over all visits. -/
def counting (amount : Visit → ℕ) : Visitor Visit Unit ℕ where
  enter _ scope := scope
  leave _ scope := scope
  descends _ := true
  record visit _ count := count + amount visit

/-- What a counting collector finds in a tree. -/
def counted (amount : Visit → ℕ) (tree : LabelledTree Visit) : ℕ :=
  ((counting amount).walk tree ((), 0)).2

/-! ### Queues -/

def exprPathLastSegment : Expr → Option String
  | .path segments _ => segments.getLast?
  | _ => none

def isBackpressureBoundaryName (name : String) : Bool :=
  name ∈ ["poll_ready", "try_send", "can_send", "poll_want", "reserve", "try_reserve", "acquire",
    "try_acquire", "poll_acquire"]

def functionNameIsBackpressureBoundary (name : String) : Bool :=
  name ∈ ["poll_ready", "ready", "try_send", "can_send", "is_ready"]

def unboundedQueueCalls : Visit → ℕ
  | .expr (.call func _) => if exprPathEndsWith func ["unbounded_channel"] then 1 else 0
  | _ => 0

def backpressureBoundarySignals : Visit → ℕ
  | .expr (.call func _) =>
      if (exprPathLastSegment func).any isBackpressureBoundaryName then 1 else 0
  | .expr (.methodCall _ method _ _) => if isBackpressureBoundaryName method then 1 else 0
  | _ => 0

def unboundedAsyncQueueCallCount (block : Block) : ℕ := counted unboundedQueueCalls block.tree

def backpressureBoundarySignalCount (functionName : String) (block : Block) : ℕ :=
  counted backpressureBoundarySignals block.tree +
    (functionNameIsBackpressureBoundary functionName).toNat

/-! ### Tasks -/

def isSpawnName (name : String) : Bool := name ∈ ["spawn", "spawn_local"]

def pathSegmentsAreTokioSpawn : List String → Bool
  | [name] => isSpawnName name
  | [owner, name] => (owner = "task" || owner = "tokio") && isSpawnName name
  | [owner, module, name] => owner = "tokio" && module = "task" && isSpawnName name
  | _ => false

def exprIsTokioSpawnCall : Expr → Bool
  | .call (.path segments _) _ => pathSegmentsAreTokioSpawn segments
  | _ => false

/-- A task is spawned and its handle thrown away: `spawn(..);` or `let _ = spawn(..);`. -/
def discardedSpawnCalls : Visit → ℕ
  | .stmt (.expr inner true) => if exprIsTokioSpawnCall inner then 1 else 0
  | .stmt (.localBinding .wild _ (some init) _) => if exprIsTokioSpawnCall init then 1 else 0
  | _ => 0

def discardedTokioSpawnCount (block : Block) : ℕ := counted discardedSpawnCalls block.tree

/-! ### Cancellation -/

def isCancelUnsafeIoName (name : String) : Bool :=
  name ∈ ["read_exact", "read_to_end", "read_to_string", "write_all", "write_all_buf"]

def macroPathIsTokioSelect : List String → Bool
  | [first] => first = "select"
  | [first, second] => first = "tokio" && second = "select"
  | _ => false

mutual

def tokenTreeCount : TokenTree → ℕ
  | .ident name => if isCancelUnsafeIoName name then 1 else 0
  | .group stream => cancelUnsafeIoIdentCount stream
  | .other => 0

def cancelUnsafeIoIdentCount : List TokenTree → ℕ
  | [] => 0
  | token :: rest => tokenTreeCount token + cancelUnsafeIoIdentCount rest

end

def selectCancelUnsafeIoCalls : Visit → ℕ
  | .mac mac => if macroPathIsTokioSelect mac.path then cancelUnsafeIoIdentCount mac.tokens else 0
  | _ => 0

def tokioSelectCancelUnsafeIoCount (block : Block) : ℕ :=
  counted selectCancelUnsafeIoCalls block.tree

def pathIsTokioTimeout : List String → Bool
  | [name] => name ∈ ["timeout", "timeout_at"]
  | [tokio, time, name] => tokio = "tokio" && time = "time" && name ∈ ["timeout", "timeout_at"]
  | _ => false

def exprPathIsTokioTimeout : Expr → Bool
  | .path segments _ => pathIsTokioTimeout segments
  | _ => false

def cancelUnsafeIoCalls : Visit → ℕ
  | .expr (.methodCall _ method _ _) => if isCancelUnsafeIoName method then 1 else 0
  | .expr (.call func _) => if (exprPathLastSegment func).any isCancelUnsafeIoName then 1 else 0
  | _ => 0

def cancelUnsafeIoExprCount (expr : Expr) : ℕ := counted cancelUnsafeIoCalls expr.tree

/-- The duration of a timeout is its first argument; the futures are the others. -/
def timeoutCancelUnsafeIoCalls : Visit → ℕ
  | .expr (.call func args) =>
      if exprPathIsTokioTimeout func then ((args.drop 1).map cancelUnsafeIoExprCount).sum else 0
  | _ => 0

def tokioTimeoutCancelUnsafeIoCount (block : Block) : ℕ :=
  counted timeoutCancelUnsafeIoCalls block.tree

/-! ## What is counted

A collector without a scope counts the sum of its amounts over the places of the body,
so it is positive exactly if something is counted somewhere. -/

theorem counted_eq (amount : Visit → ℕ) (tree : LabelledTree Visit) :
    counted amount tree = (tree.places.map fun place => amount place.2).sum := by
  unfold counted
  rw [Visitor.walk_snd _ fun _ _ => rfl, Visitor.filter_reaches_of_descends _ fun _ => rfl]
  exact (foldl_add_eq_sum (fun place : List Visit × Visit => amount place.2) _ 0).trans
    (Nat.zero_add _)

/-- Something is counted just when some place amounts to something. -/
theorem counted_pos_iff {amount : Visit → ℕ} {tree : LabelledTree Visit} :
    0 < counted amount tree ↔ ∃ place ∈ tree.places, 0 < amount place.2 := by
  rw [counted_eq, List.sum_pos_iff_exists_pos_nat]
  simp only [List.mem_map, exists_exists_and_eq_and]

/-! ### Locks

At a statement that awaits all guards that are held are counted, and they are put away.
So a guard is counted once, at the first such statement after it, unless it was dropped
before. -/

/-- There is an `await` somewhere in a statement. -/
def Stmt.Awaits (statement : Stmt) : Prop :=
  ∃ place ∈ statement.tree.places, isAwait place.2 = true

theorem statementContainsAwait_iff {statement : Stmt} :
    statementContainsAwait statement = true ↔ statement.Awaits := by
  unfold statementContainsAwait
  rw [Visitor.walk_snd _ fun _ _ => rfl]
  show List.foldl (fun found (place : List Visit × Visit) => found || isAwait place.2) false _ =
    true ↔ _
  rw [foldl_or_eq_true_iff, or_iff_right Bool.false_ne_true]
  have hreached := awaitExpressionCollector.exists_reached_iff (fun visit => isAwait visit = true)
    (fun _ => false) (fun _ h => absurd h Bool.false_ne_true)
    (fun visit hstops _ => by simpa [awaitExpressionCollector] using hstops) [statement.tree]
  rw [LabelledTree.placesAll_eq_flatMap, List.flatMap_singleton] at hreached
  rw [hreached]
  exact exists_congr fun place => and_congr_right fun _ => and_iff_right fun _ _ => rfl

/-- A guard is taken up where it is bound, let go by `drop`, and found at an `await`. -/
def guardRule (syncLockReceivers : OrderedSet String) : HandlingRule Stmt String where
  takes := syncLockGuardBinding syncLockReceivers
  settles := statementContainsAwait
  drops := explicitDropGuard

/-- With no guard active an `await` changes nothing. -/
theorem await_without_guard (guards : OrderedSet String) (count : ℕ) (awaits : Bool) :
    (if !guards.keys.isEmpty && awaits then (∅, count + guards.keys.length) else (guards, count)) =
      if awaits then (∅, count + guards.keys.length) else (guards, count) := by
  cases hempty : guards.keys.isEmpty with
  | false => rw [Bool.not_false, Bool.true_and]
  | true =>
      have hkeys : guards.keys = [] := List.isEmpty_iff.mp hempty
      have hguards : guards = ∅ := OrderedSet.ext_keys fun guard => by
        rw [hkeys]
        exact Iff.rfl
      subst hguards
      cases awaits <;> rfl

theorem guardStep_eq (syncLockReceivers : OrderedSet String) :
    guardStep syncLockReceivers = (guardRule syncLockReceivers).step := by
  funext state statement
  unfold guardStep HandlingRule.step guardRule
  dsimp only
  rw [await_without_guard]
  cases explicitDropGuard statement <;> rfl

/-- The guards counted in the statements of a block. -/
def guardsAcrossAwait (syncLockReceivers : OrderedSet String) : Visit → ℕ
  | .block block => (block.stmts.foldl (guardRule syncLockReceivers).step (∅, 0)).2
  | _ => 0

theorem syncLockGuardAcrossAwaitCount_eq (inputs : List FnArg) (block : Block) :
    syncLockGuardAcrossAwaitCount inputs block =
      counted (guardsAcrossAwait (syncLockReceiverBindings inputs)) block.tree := by
  have hvisitor : syncLockGuardAcrossAwaitCollector (syncLockReceiverBindings inputs) =
      counting (guardsAcrossAwait (syncLockReceiverBindings inputs)) := by
    unfold syncLockGuardAcrossAwaitCollector counting
    congr 1
    funext visit _ count
    cases visit with
    | block block =>
        dsimp only [guardsAcrossAwait]
        rw [guardStep_eq, HandlingRule.foldl_step_start]
    | expr _ => rfl
    | stmt _ => rfl
    | mac _ => rfl
  rw [syncLockGuardAcrossAwaitCount, hvisitor, counted]

/-- The guards of a block held at its statements that await: those bound by the statement itself,
and those bound before that were neither dropped nor counted. -/
noncomputable def guardsHeldAtAwaits (syncLockReceivers : OrderedSet String) : Visit → ℕ
  | .block inner => ((withBefore inner.stmts).map fun entry =>
      if statementContainsAwait entry.2 then
        {guard | (guardRule syncLockReceivers).HeldAt entry.1 entry.2 guard}.ncard
      else 0).sum
  | _ => 0

theorem guardsAcrossAwait_eq (syncLockReceivers : OrderedSet String) :
    guardsAcrossAwait syncLockReceivers = guardsHeldAtAwaits syncLockReceivers := by
  funext visit
  cases visit with
  | block inner => exact (guardRule syncLockReceivers).foldl_step_snd inner.stmts
  | expr _ => rfl
  | stmt _ => rfl
  | mac _ => rfl

/-- **The locks held across an `await`** are counted block by block. -/
theorem syncLockGuardAcrossAwaitCount_spec (inputs : List FnArg) (block : Block) :
    syncLockGuardAcrossAwaitCount inputs block = (block.places.map fun place =>
      guardsHeldAtAwaits (syncLockReceiverBindings inputs) place.2).sum := by
  rw [syncLockGuardAcrossAwaitCount_eq, counted_eq, guardsAcrossAwait_eq]
  rfl

/-- A guard is bound in some block, and a statement of the block awaits, there or later, before
the guard is dropped. -/
def HoldsLockAcrossAwait (inputs : List FnArg) (block : Block) : Prop :=
  ∃ place ∈ block.places, ∃ inner, place.2 = .block inner ∧
    ∃ before bind after guard, inner.stmts = before ++ bind :: after ∧
      syncLockGuardBinding (syncLockReceiverBindings inputs) bind = some guard ∧
      ∃ upto awaiting rest, bind :: after = upto ++ awaiting :: rest ∧ awaiting.Awaits ∧
        ∀ statement ∈ upto, explicitDropGuard statement ≠ some guard

theorem syncLockGuardAcrossAwaitCount_pos_iff {inputs : List FnArg} {block : Block} :
    0 < syncLockGuardAcrossAwaitCount inputs block ↔ HoldsLockAcrossAwait inputs block := by
  rw [syncLockGuardAcrossAwaitCount_eq, counted_pos_iff]
  refine exists_congr fun place => and_congr_right fun _ => ?_
  simp only [← statementContainsAwait_iff]
  unfold guardsAcrossAwait
  split
  · next inner hinner =>
      rw [HandlingRule.foldl_step_snd_pos_iff]
      constructor
      · exact fun h => ⟨inner, hinner, h⟩
      · rintro ⟨other, hother, h⟩
        obtain rfl := Visit.block.inj (hinner.symm.trans hother)
        exact h
  · next hnot =>
      refine ⟨fun h => absurd h (Nat.lt_irrefl 0), ?_⟩
      rintro ⟨inner, hinner, -⟩
      exact absurd hinner (hnot inner)

end AspRust.Parser.FunctionBody
