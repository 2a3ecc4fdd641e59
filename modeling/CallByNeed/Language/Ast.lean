import CallByNeed.Tree

set_option autoImplicit false
set_option relaxedAutoImplicit false

/-!
Programs of the language, and their view as labelled trees.
-/

namespace CallByNeed.Language

inductive BinaryOp where
  | add | sub | mul | div | eq | ne | gt | ge | lt | le | or | and
deriving DecidableEq, Repr, Inhabited

def BinaryOp.text : BinaryOp → String
  | .add => "+"
  | .sub => "-"
  | .mul => "*"
  | .div => "/"
  | .eq => "=="
  | .ne => "!="
  | .gt => ">"
  | .ge => ">="
  | .lt => "<"
  | .le => "<="
  | .or => "||"
  | .and => "&&"

inductive UnaryOp where
  | neg | not
deriving DecidableEq, Repr, Inhabited

def UnaryOp.text : UnaryOp → String
  | .neg => "neg"
  | .not => "!"

/-- Expressions. A variable's name may be several names joined by dots. -/
inductive Expr where
  | int (n : Nat)
  | bool (b : Bool)
  | str (s : String)
  | nil
  | var (name : String)
  | call (name : String) (args : List Expr)
  | unary (op : UnaryOp) (operand : Expr)
  | binary (op : BinaryOp) (left right : Expr)
  | new (typeName : String)
deriving Repr, Inhabited

structure Assignment where
  name : String
  expr : Expr
deriving Repr, Inhabited

/-- A handler for one exception, over the type `S` of statements. -/
structure Catcher (S : Type) where
  exception : String
  body : List S
deriving Repr, Inhabited

inductive Stmt where
  | eval (e : Expr)
  | assign (a : Assignment)
  | declare (name : String) (typeName : Option String)
  | branch (condition : Expr) (body : List Stmt) (orElse : Option (List Stmt))
  | loop (init : Assignment) (condition : Expr) (update : Assignment) (body : List Stmt)
  | attempt (body : List Stmt) (catchers : List (Catcher Stmt))
  | raise (e : Expr)
  | ret (e : Option Expr)
deriving Inhabited

/-- A name with an optional type: a parameter of a function. -/
structure Param where
  name : String
  typeName : Option String
deriving Repr, Inhabited

structure Func where
  name : String
  params : List Param
  returnType : Option String
  body : List Stmt
deriving Inhabited

structure Field where
  name : String
  typeName : String
deriving Repr, Inhabited

structure Struct where
  name : String
  fields : List Field
deriving Repr, Inhabited

structure Program where
  structs : List Struct
  funcs : List Func
deriving Inhabited

def textTree : Option String → Tree
  | none => .absent
  | some s => .text s

mutual

def Expr.toTree : Expr → Tree
  | .int n => .node "int" [("val", .number n)]
  | .bool b => .node "bool" [("val", .flag b)]
  | .str s => .node "string" [("val", .text s)]
  | .nil => .node "nil" []
  | .var name => .node "var" [("name", .text name)]
  | .call name args => .node "fcall" [("name", .text name), ("args", .list (Expr.toTrees args))]
  | .unary op operand => .node op.text [("op1", operand.toTree)]
  | .binary op left right => .node op.text [("op1", left.toTree), ("op2", right.toTree)]
  | .new typeName => .node "new" [("var_type", .text typeName)]

def Expr.toTrees : List Expr → List Tree
  | [] => []
  | e :: es => e.toTree :: Expr.toTrees es

end

def Assignment.toTree (a : Assignment) : Tree :=
  .node "=" [("name", .text a.name), ("expression", a.expr.toTree)]

mutual

def Stmt.toTree : Stmt → Tree
  | .eval e => e.toTree
  | .assign a => a.toTree
  | .declare name typeName =>
    .node "vardef" [("name", .text name), ("var_type", textTree typeName)]
  | .branch condition body none =>
    .node "if" [("condition", condition.toTree), ("statements", .list (Stmt.toTrees body)),
      ("else_statements", .absent)]
  | .branch condition body (some orElse) =>
    .node "if" [("condition", condition.toTree), ("statements", .list (Stmt.toTrees body)),
      ("else_statements", .list (Stmt.toTrees orElse))]
  | .loop init condition update body =>
    .node "for" [("init", init.toTree), ("condition", condition.toTree),
      ("update", update.toTree), ("statements", .list (Stmt.toTrees body))]
  | .attempt body catchers =>
    .node "try" [("statements", .list (Stmt.toTrees body)),
      ("catchers", .list (Stmt.catcherTrees catchers))]
  | .raise e => .node "raise" [("exception_type", e.toTree)]
  | .ret none => .node "return" [("expression", .absent)]
  | .ret (some e) => .node "return" [("expression", e.toTree)]

def Stmt.toTrees : List Stmt → List Tree
  | [] => []
  | s :: ss => s.toTree :: Stmt.toTrees ss

def Stmt.catcherTrees : List (Catcher Stmt) → List Tree
  | [] => []
  | ⟨exception, body⟩ :: rest =>
    .node "catch" [("exception_type", .text exception), ("statements", .list (Stmt.toTrees body))]
      :: Stmt.catcherTrees rest

end

def Param.toTree (p : Param) : Tree :=
  .node "arg" [("name", .text p.name), ("var_type", textTree p.typeName)]

def Func.toTree (f : Func) : Tree :=
  .node "func" [("name", .text f.name), ("args", .list (f.params.map Param.toTree)),
    ("return_type", textTree f.returnType), ("statements", .list (Stmt.toTrees f.body))]

def Field.toTree (f : Field) : Tree :=
  .node "fielddef" [("name", .text f.name), ("var_type", .text f.typeName)]

def Struct.toTree (s : Struct) : Tree :=
  .node "struct" [("name", .text s.name), ("fields", .list (s.fields.map Field.toTree))]

def Program.toTree (p : Program) : Tree :=
  .node "program" [("structs", .list (p.structs.map Struct.toTree)),
    ("functions", .list (p.funcs.map Func.toTree))]

end CallByNeed.Language
