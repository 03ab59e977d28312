import AspRust.Parser.ControlFlow

/-!
# Dispatch on literals

A chain of `if` and `else if` that compares one subject with several literals.  The collector of
`native_syntax/control_flow.rs` counts a chain at its first `if` and does not look into conditions;
`chainCount_pos_iff` says when it counts one at all.
-/

namespace AspRust.Parser.FunctionBody

open AspRust.Foundation

/-! ## The collector

A chain is looked at from its first `if` to its last `else if`.  It counts if some
subject is compared with a literal in enough of its conditions, wherever in the chain
these are.  An `else if` is not looked at as the beginning of another chain. -/

def conditionSubjectName : Expr → Option String
  | .path [ident] _ => some ident
  | .methodCall receiver method _ _ =>
      if method ∈ ["as_str", "as_ref"] then exprPathIdent receiver else none
  | _ => none

/-- The subject of a comparison with a literal, on either side. -/
def literalConditionSubject : Expr → Option String
  | .binary left .eq right =>
      match conditionSubjectName left, exprIsLiteral right, conditionSubjectName right,
        exprIsLiteral left with
      | some subject, true, _, _ => some subject
      | _, _, some subject, true => some subject
      | _, _, _, _ => none
  | _ => none

/-- The conditions of an `if` and of the `else if`s after it. -/
def chainConditions : Expr → List Expr
  | .ifElse cond _ (some elseBranch) => cond :: chainConditions elseBranch
  | .ifElse cond _ none => [cond]
  | _ => []

def minDispatchArms : ℕ := 3

/-- The first subject in order that enough conditions of the chain compare. -/
def literalDispatchChainSubject (exprIf : Expr) : Option String :=
  let subjectCounts := ((chainConditions exprIf).filterMap literalConditionSubject).foldl
    countSource ∅
  subjectCounts.entries.findSome? fun (subject, count) =>
    if minDispatchArms ≤ count then some subject else none

mutual

/-- The visit of a node: an `if` counts its own chain and goes on in the bodies of the chain. -/
def chainCount : LabelledTree Visit → ℕ
  | .node (.expr (.ifElse cond thenBranch elseBranch)) children =>
      (if (literalDispatchChainSubject (.ifElse cond thenBranch elseBranch)).isSome then 1 else 0) +
        visitIfChainBodies children
  | .node _ children => chainCounts children

def chainCounts : List (LabelledTree Visit) → ℕ
  | [] => 0
  | tree :: rest => chainCount tree + chainCounts rest

/-- Of an `if` the condition is not visited, and an `else if` is no chain of its own. -/
def visitIfChainBodies : List (LabelledTree Visit) → ℕ
  | [_, thenBranch] => chainCount thenBranch
  | [_, thenBranch, elseBranch] => chainCount thenBranch + elseCount elseBranch
  | _ => 0

def elseCount : LabelledTree Visit → ℕ
  | .node (.expr (.ifElse ..)) children => visitIfChainBodies children
  | .node _ children => chainCounts children

end

def literalDispatchChainCount (block : Block) : ℕ := chainCount block.tree

/-! ## Trees of syntax

The collector goes through bodies and branches but not through conditions, so it sees
the tree of a body without some of its subtrees.  To argue by induction all children of
a tree are needed, and these are trees of syntax again. -/

/-- A tree of a piece of syntax. -/
inductive IsSyntax : LabelledTree Visit → Prop where
  | expr (expr : Expr) : IsSyntax expr.tree
  | block (block : Block) : IsSyntax block.tree
  | stmt (stmt : Stmt) : IsSyntax stmt.tree
  | mac (mac : MacroCall) : IsSyntax (.node (.mac mac) [])

theorem isSyntax_exprTrees (exprs : List Expr) : ∀ tree ∈ Expr.trees exprs, IsSyntax tree := by
  induction exprs with
  | nil => exact fun _ h => absurd h List.not_mem_nil
  | cons expr rest ih => exact List.forall_mem_cons.mpr ⟨.expr expr, ih⟩

theorem isSyntax_optionTrees (value : Option Expr) :
    ∀ tree ∈ Expr.optionTrees value, IsSyntax tree := by
  cases value with
  | none => exact fun _ h => absurd h List.not_mem_nil
  | some expr => exact List.forall_mem_singleton.mpr (.expr expr)

theorem isSyntax_partTrees (parts : List Part) : ∀ tree ∈ Part.trees parts, IsSyntax tree := by
  induction parts with
  | nil => exact fun _ h => absurd h List.not_mem_nil
  | cons part rest ih =>
      cases part with
      | expr inner => exact List.forall_mem_cons.mpr ⟨.expr inner, ih⟩
      | block inner => exact List.forall_mem_cons.mpr ⟨.block inner, ih⟩
      | macroCall mac => exact List.forall_mem_cons.mpr ⟨.mac mac, ih⟩

theorem isSyntax_armTrees (arms : List Arm) : ∀ tree ∈ Arm.trees arms, IsSyntax tree := by
  induction arms with
  | nil => exact fun _ h => absurd h List.not_mem_nil
  | cons arm rest ih =>
      cases arm with
      | mk beneath guard body =>
          rw [Arm.trees]
          simp only [List.forall_mem_append, List.forall_mem_cons]
          exact ⟨⟨isSyntax_partTrees _, isSyntax_optionTrees _⟩, .expr body, ih⟩

theorem isSyntax_stmtTrees (stmts : List Stmt) : ∀ tree ∈ Stmt.trees stmts, IsSyntax tree := by
  induction stmts with
  | nil => exact fun _ h => absurd h List.not_mem_nil
  | cons stmt rest ih => exact List.forall_mem_cons.mpr ⟨.stmt stmt, ih⟩

/-- What is visited beneath a piece of syntax is syntax. -/
theorem IsSyntax.children {visit : Visit} {children : List (LabelledTree Visit)}
    (h : IsSyntax (.node visit children)) : ∀ tree ∈ children, IsSyntax tree := by
  generalize htree : LabelledTree.node visit children = tree at h
  cases h with
  | mac mac =>
      obtain ⟨-, rfl⟩ := LabelledTree.node.inj htree
      exact fun _ h => absurd h List.not_mem_nil
  | block block =>
      cases block with
      | mk stmts =>
          obtain ⟨-, rfl⟩ := LabelledTree.node.inj htree
          exact isSyntax_stmtTrees stmts
  | stmt stmt =>
      cases stmt <;> obtain ⟨-, rfl⟩ := LabelledTree.node.inj htree <;> intro tree hmem <;>
        grind [IsSyntax.expr, IsSyntax.mac, isSyntax_partTrees, isSyntax_optionTrees]
  | expr expr =>
      cases expr <;> obtain ⟨-, rfl⟩ := LabelledTree.node.inj htree <;> intro tree hmem <;>
        grind [IsSyntax.expr, IsSyntax.mac, IsSyntax.block, isSyntax_partTrees,
          isSyntax_optionTrees, isSyntax_exprTrees, isSyntax_armTrees]

/-! ## Chains

The specification says that somewhere in the tree without its conditions a chain
dispatches.  What the end of a chain compares the whole chain compares, so nothing is
lost by looking at it from its first `if` only. -/

/-- A chain dispatches on a literal just when enough of its conditions compare one subject. -/
theorem literalDispatchChainSubject_isSome_iff {exprIf : Expr} :
    (literalDispatchChainSubject exprIf).isSome = true ↔
      ∃ subject, minDispatchArms ≤
        ((chainConditions exprIf).filterMap literalConditionSubject).count subject := by
  unfold literalDispatchChainSubject
  dsimp only
  generalize (chainConditions exprIf).filterMap literalConditionSubject = subjects
  rw [List.findSome?_isSome_iff]
  constructor
  · rintro ⟨⟨subject, count⟩, hmem, hsome⟩
    have hget := OrderedMap.get?_eq_some_iff.mpr hmem
    rw [get?_foldl_countSource] at hget
    split at hget
    · obtain rfl := Option.some.inj hget
      split at hsome
      · next henough => exact ⟨subject, henough⟩
      · cases hsome
    · cases hget
  · rintro ⟨subject, henough⟩
    have hin : subject ∈ subjects :=
      List.count_pos_iff.mp (Nat.lt_of_lt_of_le (by decide) henough)
    refine ⟨(subject, subjects.count subject), OrderedMap.get?_eq_some_iff.mp ?_, ?_⟩
    · rw [get?_foldl_countSource, if_pos hin]
    · dsimp only
      rw [if_pos henough]
      rfl

mutual

/-- A tree without the conditions of its `if`s. -/
def withoutConditions : LabelledTree Visit → LabelledTree Visit
  | .node (.expr (.ifElse cond thenBranch elseBranch)) (_ :: bodies) =>
      .node (.expr (.ifElse cond thenBranch elseBranch)) (withoutConditionsAll bodies)
  | .node visit children => .node visit (withoutConditionsAll children)

def withoutConditionsAll : List (LabelledTree Visit) → List (LabelledTree Visit)
  | [] => []
  | tree :: rest => withoutConditions tree :: withoutConditionsAll rest

end

/-- An `if` that begins a chain in which enough conditions compare one subject with a literal. -/
def DispatchesAt (visit : Visit) : Prop :=
  ∃ exprIf subject, visit = .expr exprIf ∧ minDispatchArms ≤
    ((chainConditions exprIf).filterMap literalConditionSubject).count subject

/-- Some chain outside the conditions of the body dispatches on a literal. -/
def DispatchesIn (tree : LabelledTree Visit) : Prop :=
  ∃ place ∈ (withoutConditions tree).places, DispatchesAt place.2

theorem dispatchesAt_expr_iff {expr : Expr} :
    DispatchesAt (.expr expr) ↔ (literalDispatchChainSubject expr).isSome = true := by
  rw [literalDispatchChainSubject_isSome_iff]
  constructor
  · rintro ⟨_, subject, hvisit, h⟩
    obtain rfl := Visit.expr.inj hvisit
    exact ⟨subject, h⟩
  · exact fun ⟨subject, h⟩ => ⟨expr, subject, rfl, h⟩

/-- Only an `if` dispatches. -/
theorem exists_ifElse_of_dispatchesAt {visit : Visit} (h : DispatchesAt visit) :
    ∃ cond thenBranch elseBranch, visit = .expr (.ifElse cond thenBranch elseBranch) := by
  obtain ⟨exprIf, subject, rfl, henough⟩ := h
  cases exprIf with
  | ifElse cond thenBranch elseBranch => exact ⟨cond, thenBranch, elseBranch, rfl⟩
  | _ => exact absurd henough (Nat.not_succ_le_zero 2)

/-- What dispatches from an `else if` on dispatches from the `if` on. -/
theorem DispatchesAt.of_elseBranch {cond exprIf : Expr} {thenBranch : Block}
    (h : DispatchesAt (.expr exprIf)) :
    DispatchesAt (.expr (.ifElse cond thenBranch (some exprIf))) := by
  obtain ⟨_, subject, hvisit, henough⟩ := h
  obtain rfl := Visit.expr.inj hvisit
  refine ⟨_, subject, rfl, henough.trans ?_⟩
  rw [chainConditions, List.filterMap_cons]
  split
  · exact Nat.le_refl _
  · exact List.count_le_count_cons

theorem withoutConditionsAll_eq_map (trees : List (LabelledTree Visit)) :
    withoutConditionsAll trees = trees.map withoutConditions := by
  induction trees with
  | nil => rfl
  | cons tree rest ih => rw [withoutConditionsAll, ih, List.map_cons]

theorem chainCounts_pos_iff {trees : List (LabelledTree Visit)} :
    0 < chainCounts trees ↔ ∃ tree ∈ trees, 0 < chainCount tree := by
  induction trees with
  | nil => simp [chainCounts]
  | cons tree rest ih =>
      rw [chainCounts, Nat.add_pos_iff_pos_or_pos, ih, List.exists_mem_cons_iff]

/-- Below a label that is no `if`, all is visited. -/
theorem dispatchesIn_node_iff {visit : Visit} {children : List (LabelledTree Visit)}
    (hif : ∀ cond thenBranch elseBranch, visit ≠ .expr (.ifElse cond thenBranch elseBranch)) :
    DispatchesIn (.node visit children) ↔ ∃ tree ∈ children, DispatchesIn tree := by
  have htree : withoutConditions (.node visit children) =
      .node visit (children.map withoutConditions) := by
    rw [withoutConditions, withoutConditionsAll_eq_map]
    intro cond thenBranch elseBranch _ _ hvisit
    exact absurd hvisit (hif cond thenBranch elseBranch)
  have hnot : ¬DispatchesAt visit := by
    intro h
    obtain ⟨cond, thenBranch, elseBranch, hvisit⟩ := exists_ifElse_of_dispatchesAt h
    exact hif _ _ _ hvisit
  unfold DispatchesIn
  rw [htree, LabelledTree.exists_places_node_iff, or_iff_right hnot]
  simp only [List.mem_map, exists_exists_and_eq_and]

/-- Of an `if`, the branches are visited. -/
theorem dispatchesIn_ifElse_iff {cond : Expr} {thenBranch : Block} {elseBranch : Option Expr} :
    DispatchesIn (Expr.ifElse cond thenBranch elseBranch).tree ↔
      DispatchesAt (.expr (.ifElse cond thenBranch elseBranch)) ∨
        DispatchesIn thenBranch.tree ∨ ∃ exprElse ∈ elseBranch, DispatchesIn exprElse.tree := by
  unfold DispatchesIn
  rw [Expr.tree, withoutConditions, withoutConditionsAll_eq_map,
    LabelledTree.exists_places_node_iff]
  simp only [List.mem_map, exists_exists_and_eq_and]
  rw [List.exists_mem_cons_iff]
  refine or_congr Iff.rfl (or_congr Iff.rfl ?_)
  cases elseBranch with
  | none => simp [Expr.optionTrees]
  | some exprElse => simp [Expr.optionTrees]

/-- The tree of an expression is labelled by the expression. -/
theorem Expr.exists_tree (expr : Expr) : ∃ children, expr.tree = .node (.expr expr) children := by
  cases expr <;> exact ⟨_, rfl⟩

/-- The counts at a node that is no `if`. -/
theorem chainCount_node {visit : Visit} {children : List (LabelledTree Visit)}
    (hif : ∀ cond thenBranch elseBranch, visit ≠ .expr (.ifElse cond thenBranch elseBranch)) :
    chainCount (.node visit children) = chainCounts children ∧
      elseCount (.node visit children) = chainCounts children := by
  constructor
  · rw [chainCount]
    intro cond thenBranch elseBranch hvisit
    exact absurd hvisit (hif cond thenBranch elseBranch)
  · rw [elseCount]
    intro cond thenBranch elseBranch hvisit
    exact absurd hvisit (hif cond thenBranch elseBranch)

/-- An `else` branch is visited as any expression, but for the chain it begins. -/
theorem chainCount_pos_iff_elseCount {expr : Expr} :
    0 < chainCount expr.tree ↔ DispatchesAt (.expr expr) ∨ 0 < elseCount expr.tree := by
  by_cases hif : ∃ cond thenBranch elseBranch, expr = .ifElse cond thenBranch elseBranch
  · obtain ⟨cond, thenBranch, elseBranch, rfl⟩ := hif
    rw [Expr.tree, chainCount, elseCount, Nat.add_pos_iff_pos_or_pos, dispatchesAt_expr_iff]
    refine or_congr ?_ Iff.rfl
    split <;> simp_all
  · have hnot : ∀ cond thenBranch elseBranch,
        Visit.expr expr ≠ .expr (.ifElse cond thenBranch elseBranch) :=
      fun cond thenBranch elseBranch h => hif ⟨cond, thenBranch, elseBranch, Visit.expr.inj h⟩
    have hdispatch : ¬DispatchesAt (.expr expr) := by
      intro h
      obtain ⟨cond, thenBranch, elseBranch, hvisit⟩ := exists_ifElse_of_dispatchesAt h
      exact hnot _ _ _ hvisit
    obtain ⟨children, htree⟩ := expr.exists_tree
    rw [or_iff_right hdispatch, htree, (chainCount_node hnot).1, (chainCount_node hnot).2]

/-- **A chain is counted just when there is one**: that an `else if` begins no chain of its own
loses nothing, since the whole chain compares what its end compares. -/
theorem chainCount_pos_iff {tree : LabelledTree Visit} (h : IsSyntax tree) :
    0 < chainCount tree ↔ DispatchesIn tree := by
  induction tree using LabelledTree.inductionOn with
  | node visit children ih =>
      have hchildren := h.children
      by_cases hif : ∃ cond thenBranch elseBranch, visit = .expr (.ifElse cond thenBranch elseBranch)
      · obtain ⟨cond, thenBranch, elseBranch, rfl⟩ := hif
        obtain rfl : children = cond.tree :: thenBranch.tree :: Expr.optionTrees elseBranch := by
          generalize htree : LabelledTree.node _ children = tree at h
          cases h with
          | expr expr =>
              obtain ⟨other, hother⟩ := expr.exists_tree
              rw [hother] at htree
              obtain ⟨hvisit, rfl⟩ := LabelledTree.node.inj htree
              obtain rfl := Visit.expr.inj hvisit
              exact (LabelledTree.node.inj hother).2.symm
          | block block => cases block with | mk stmts => cases htree
          | stmt stmt => cases stmt <;> cases htree
          | mac mac => cases htree
        have hthen := ih thenBranch.tree (by simp) (.block thenBranch)
        rw [← Expr.tree, dispatchesIn_ifElse_iff, ← hthen]
        cases elseBranch with
        | none =>
            rw [chainCount_pos_iff_elseCount, Expr.tree, elseCount, Expr.optionTrees,
              visitIfChainBodies]
            simp
        | some exprElse =>
            have helse := ih exprElse.tree (by simp [Expr.optionTrees]) (.expr exprElse)
            rw [chainCount_pos_iff_elseCount, Expr.tree, elseCount, Expr.optionTrees,
              visitIfChainBodies, Nat.add_pos_iff_pos_or_pos]
            simp only [Option.mem_some_iff, exists_eq_left']
            rw [← helse, chainCount_pos_iff_elseCount]
            constructor
            · rintro (hself | hthen | helse)
              · exact Or.inl hself
              · exact Or.inr (Or.inl hthen)
              · exact Or.inr (Or.inr (Or.inr helse))
            · rintro (hself | hthen | helse | helse)
              · exact Or.inl hself
              · exact Or.inr (Or.inl hthen)
              · exact Or.inl helse.of_elseBranch
              · exact Or.inr (Or.inr helse)
      · have hnot : ∀ cond thenBranch elseBranch,
            visit ≠ .expr (.ifElse cond thenBranch elseBranch) :=
          fun cond thenBranch elseBranch h => hif ⟨cond, thenBranch, elseBranch, h⟩
        rw [(chainCount_node hnot).1, chainCounts_pos_iff, dispatchesIn_node_iff hnot]
        exact exists_congr fun tree => and_congr_right fun hmem => ih tree hmem (hchildren tree hmem)

theorem literalDispatchChainCount_pos_iff {block : Block} :
    0 < literalDispatchChainCount block ↔ DispatchesIn block.tree :=
  chainCount_pos_iff (.block block)

end AspRust.Parser.FunctionBody
