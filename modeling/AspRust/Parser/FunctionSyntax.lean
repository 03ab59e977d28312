import AspRust.Foundation.ScopedWalk

/-!
# The body of a function

The syntax of a function body, with the kinds of expression that some collector looks at.  An
expression of another kind is a list of the parts beneath it.  So are attributes, patterns and
types: they carry no data that is read here, and `beneath` keeps the expressions, blocks and
macros the visitor meets in them.

A collector goes through a body in the order of the visitor.  `Block.tree` and its companions
make a body the tree of these visits, labelled by the syntax that is visited.
-/

namespace AspRust.Parser.FunctionBody

open AspRust.Foundation

/-- The operators the collectors tell apart. -/
inductive BinOp where
  | addAssign
  | eq
  | other
deriving DecidableEq, Repr

/-- A literal; an integer by its digits in base ten. -/
inductive Lit where
  | int (base10Digits : String)
  | bool (value : Bool)
  | other
deriving DecidableEq, Repr

/-- A pattern, as far as the binding of a `let` is looked at. -/
inductive Pat where
  | ident (mutability : Bool) (name : String)
  | wild
  | other
deriving DecidableEq, Repr

/-- The tokens of a macro. -/
inductive TokenTree where
  | ident (name : String)
  | group (stream : List TokenTree)
  | other

/-- A macro that is called. -/
structure MacroCall where
  path : List String
  tokens : List TokenTree

mutual

/-- An expression.  A path is given by the identifiers of its segments. -/
inductive Expr where
  | path (segments : List String) (beneath : List Part)
  | lit (literal : Lit)
  | call (func : Expr) (args : List Expr)
  | methodCall (receiver : Expr) (method : String) (beneath : List Part) (args : List Expr)
  | field (base : Expr)
  | index (base position : Expr)
  | paren (inner : Expr)
  | reference (inner : Expr)
  | unary (inner : Expr)
  | tryOp (inner : Expr)
  | await (base : Expr)
  | binary (left : Expr) (op : BinOp) (right : Expr)
  | array (elems : List Expr)
  | macroCall (mac : MacroCall)
  | returnValue (value : Option Expr)
  | closure (beneath : List Part) (body : Expr)
  | ifElse (cond : Expr) (thenBranch : Block) (elseBranch : Option Expr)
  | matchOn (subject : Expr) (arms : List Arm)
  | forLoop (beneath : List Part) (source : Expr) (body : Block)
  | loop (body : Block)
  | whileLoop (cond : Expr) (body : Block)
  | other (parts : List Part)

/-- A block of statements. -/
inductive Block where
  | mk (stmts : List Stmt)

/-- A statement.  An item in a block is the parts beneath it. -/
inductive Stmt where
  | localBinding (pat : Pat) (beneath : List Part) (init diverge : Option Expr)
  | item (parts : List Part)
  | expr (inner : Expr) (semi : Bool)
  | macroCall (mac : MacroCall)

/-- An arm of a `match`. -/
inductive Arm where
  | mk (beneath : List Part) (guard : Option Expr) (body : Expr)

/-- What the visitor meets in a place that is not an expression. -/
inductive Part where
  | expr (inner : Expr)
  | block (inner : Block)
  | macroCall (mac : MacroCall)

end

def Block.stmts : Block → List Stmt
  | .mk stmts => stmts

/-! ## Functions -/

mutual

/-- A type, as far as a lock is looked for in it. -/
inductive Ty where
  | path (segments : List TySegment)
  | reference (elem : Ty)
  | paren (elem : Ty)
  | group (elem : Ty)
  | tuple (elems : List Ty)
  | other

/-- A segment of a type path, with its arguments in angle brackets. -/
inductive TySegment where
  | mk (ident : String) (arguments : List GenericArgument)

inductive GenericArgument where
  | type (ty : Ty)
  | other

end

/-- A parameter of a function. -/
inductive FnArg where
  | receiver
  | typed (pat : Pat) (ty : Ty)

/-- An attribute: its path, and its tokens as text. -/
structure Attribute where
  path : List String
  text : String

/-- A function or a method, with the lines it starts and ends on. -/
structure FunctionItem where
  attrs : List Attribute
  isPublic : Bool
  isAsync : Bool
  ident : String
  identLine : ℕ
  startLine : ℕ
  endLine : ℕ
  inputs : List FnArg
  block : Block

/-- An item of a file: a function, an implementation with its functions and its other items, or
something else. -/
inductive FileItem where
  | function (item : FunctionItem)
  | implementation (attrs : List Attribute) (items : List (Option FunctionItem))
  | other

/-! ## The visits -/

/-- A visit of a collector. -/
inductive Visit where
  | expr (expr : Expr)
  | block (block : Block)
  | stmt (stmt : Stmt)
  | mac (mac : MacroCall)

mutual

def Expr.tree : Expr → LabelledTree Visit
  | .path segments beneath => .node (.expr (.path segments beneath)) (Part.trees beneath)
  | .lit literal => .node (.expr (.lit literal)) []
  | .call func args => .node (.expr (.call func args)) (func.tree :: Expr.trees args)
  | .methodCall receiver method beneath args =>
      .node (.expr (.methodCall receiver method beneath args))
        (receiver.tree :: Part.trees beneath ++ Expr.trees args)
  | .field base => .node (.expr (.field base)) [base.tree]
  | .index base position => .node (.expr (.index base position)) [base.tree, position.tree]
  | .paren inner => .node (.expr (.paren inner)) [inner.tree]
  | .reference inner => .node (.expr (.reference inner)) [inner.tree]
  | .unary inner => .node (.expr (.unary inner)) [inner.tree]
  | .tryOp inner => .node (.expr (.tryOp inner)) [inner.tree]
  | .await base => .node (.expr (.await base)) [base.tree]
  | .binary left op right => .node (.expr (.binary left op right)) [left.tree, right.tree]
  | .array elems => .node (.expr (.array elems)) (Expr.trees elems)
  | .macroCall mac => .node (.expr (.macroCall mac)) [.node (.mac mac) []]
  | .returnValue value => .node (.expr (.returnValue value)) (Expr.optionTrees value)
  | .closure beneath body =>
      .node (.expr (.closure beneath body)) (Part.trees beneath ++ [body.tree])
  | .ifElse cond thenBranch elseBranch =>
      .node (.expr (.ifElse cond thenBranch elseBranch))
        (cond.tree :: thenBranch.tree :: Expr.optionTrees elseBranch)
  | .matchOn subject arms =>
      .node (.expr (.matchOn subject arms)) (subject.tree :: Arm.trees arms)
  | .forLoop beneath source body =>
      .node (.expr (.forLoop beneath source body))
        (Part.trees beneath ++ [source.tree, body.tree])
  | .loop body => .node (.expr (.loop body)) [body.tree]
  | .whileLoop cond body => .node (.expr (.whileLoop cond body)) [cond.tree, body.tree]
  | .other parts => .node (.expr (.other parts)) (Part.trees parts)

def Expr.trees : List Expr → List (LabelledTree Visit)
  | [] => []
  | expr :: rest => expr.tree :: Expr.trees rest

def Expr.optionTrees : Option Expr → List (LabelledTree Visit)
  | none => []
  | some expr => [expr.tree]

def Block.tree : Block → LabelledTree Visit
  | .mk stmts => .node (.block (.mk stmts)) (Stmt.trees stmts)

def Stmt.tree : Stmt → LabelledTree Visit
  | .localBinding pat beneath init diverge =>
      .node (.stmt (.localBinding pat beneath init diverge))
        (Part.trees beneath ++ Expr.optionTrees init ++ Expr.optionTrees diverge)
  | .item parts => .node (.stmt (.item parts)) (Part.trees parts)
  | .expr inner semi => .node (.stmt (.expr inner semi)) [inner.tree]
  | .macroCall mac => .node (.stmt (.macroCall mac)) [.node (.mac mac) []]

def Stmt.trees : List Stmt → List (LabelledTree Visit)
  | [] => []
  | stmt :: rest => stmt.tree :: Stmt.trees rest

def Arm.trees : List Arm → List (LabelledTree Visit)
  | [] => []
  | .mk beneath guard body :: rest =>
      Part.trees beneath ++ Expr.optionTrees guard ++ body.tree :: Arm.trees rest

def Part.trees : List Part → List (LabelledTree Visit)
  | [] => []
  | .expr inner :: rest => inner.tree :: Part.trees rest
  | .block inner :: rest => inner.tree :: Part.trees rest
  | .macroCall mac :: rest => .node (.mac mac) [] :: Part.trees rest

end

/-- The places of a body, in the order of the visits. -/
def Block.places (block : Block) : List (List Visit × Visit) := block.tree.places

/-! ## Paths -/

/-- The last segments of a path, as `expr_path_ends_with` compares them. -/
def exprPathEndsWith (expr : Expr) (expected : List String) : Bool :=
  match expr with
  | .path segments _ =>
      if segments.length < expected.length then false
      else (segments.reverse.zip expected.reverse).all fun pair => pair.1 = pair.2
  | _ => false

/-- The identifier of a path of one segment. -/
def exprPathIdent : Expr → Option String
  | .path [ident] _ => some ident
  | _ => none

theorem exprPathIdent_eq_some {expr : Expr} {ident : String} :
    exprPathIdent expr = some ident ↔ ∃ beneath, expr = .path [ident] beneath := by
  constructor
  · intro h
    unfold exprPathIdent at h
    split at h
    · obtain rfl := Option.some.inj h
      exact ⟨_, rfl⟩
    · cases h
  · rintro ⟨beneath, rfl⟩
    rfl

end AspRust.Parser.FunctionBody
