import CallByNeed.Proofs.Machine.Task

set_option autoImplicit false
set_option relaxedAutoImplicit false

/-!
Call by name. A name stands for a closure: an expression together with what the names in it stand
for. Evaluating by name keeps no cells and no environments, only the blocks of the running function,
and it evaluates an expression each time its value is asked for. It has a meaning for what neither
reads nor writes and ends without an exception. It is given by the same tasks and pending steps as
the evaluator: one step each, and the meaning of a task by following the steps.
-/

namespace CallByNeed.Language

/-- What a name stands for. The unknown closure has no meaning. -/
inductive Closure where
  | value (v : Value)
  | thunk (e : Expr) (frame : List (List (String × Closure)))
  | unknown

/-- What the tasks of a kind mean. A statement means the blocks it leaves, with a closure if it
returns. -/
@[reducible]
def Kind.Meaning : Kind → Type
  | .value => Option Value
  | .text => Empty
  | .cell => Closure
  | .flow => Frame Closure × Option Closure

inductive Job : Kind → Type where
  | closure (d : Closure) : Job .value
  | task {σ : Kind} (t : Task σ) (frame : Frame Closure) : Job σ

inductive Lead (τ : Kind) where
  | give (m : τ.Meaning)
  | goto (j : Job τ)
  | enter {σ : Kind} (t : Task σ) (frame : Frame Closure) (p : Pending σ τ)

section Steps

variable (frame : Frame Closure)

def leadEval : Expr → Option (Lead .value)
  | .nil => some (.give (some .nil))
  | .int n => some (.give (some (.int n)))
  | .bool b => some (.give (some (.bool b)))
  | .str s => some (.give (some (.str s)))
  | .new _ => some (.give none)
  | .var name => (frame.find? name).map fun d => .goto (.closure d)
  | .call name args => some (.enter (.call name args) frame .forceResult)
  | .unary op operand => some (.enter (.eval operand) frame (.unary op))
  | .binary op left right => some (.enter (.eval left) frame (.operand op right))

def leadCall (funcs : List Func) (name : String) (args : List Expr) : Option (Lead .cell) :=
  if name = "print" ∨ name = "inputi" ∨ name = "inputs" then none
  else match findFunc funcs name args.length with
    | .error _ => none
    | .ok func => some (.enter (.block func.body)
        [bindParams func.params (args.map fun arg => .thunk arg frame)] .leave)

def rebind (a : Assignment) : Option (Frame Closure) :=
  frame.rebind? a.name (.thunk a.expr frame)

def leadStmt : Stmt → Option (Lead .flow)
  | .eval (.call name args) => some (.enter (.call name args) frame .discard)
  | .eval _ => some (.give (frame, none))
  | .assign a => (rebind frame a).map fun frame => .give (frame, none)
  | .declare name _ =>
    match frame with
    | [] => none
    | block :: blocks =>
      if block.binds name then none
      else some (.give (block.insert name (.value .nil) :: blocks, none))
  | .ret none => some (.give (frame, some (.value .nil)))
  | .ret (some e) => some (.give (frame, some (.thunk e frame)))
  | .branch condition body orElse => some (.enter (.eval condition) frame (.branch body orElse))
  | .loop init condition update body =>
    (rebind frame init).map fun frame => .goto (.task (.loop condition update body) frame)
  | .attempt body catchers => some (.enter (.block body) frame (.handle catchers))
  | .raise _ => none

def Task.lead (funcs : List Func) : {σ : Kind} → Task σ → Option (Lead σ)
  | _, .eval e => leadEval frame e
  | _, .force _ => none
  | _, .printArgs _ _ => none
  | _, .call name args => leadCall frame funcs name args
  | _, .block stmts => some (.enter (.all stmts) ([] :: frame) .close)
  | _, .all [] => some (.give (frame, none))
  | _, .all (first :: stmts) => some (.enter (.stmt first) frame (.rest stmts))
  | _, .stmt st => leadStmt frame st
  | _, .loop condition update body =>
    some (.enter (.eval condition) frame (.test condition update body))

def leadOperand (op : BinaryOp) (right : Expr) (left : Option Value) : Option (Lead .value) :=
  match left, op with
  | none, .and => none
  | none, .or => none
  | _, _ =>
    match left.bind op.shortCut? with
    | some v => some (.give (some v))
    | none => some (.enter (.eval right) frame (.binary op left))

def leadBinary (op : BinaryOp) : Option Value → Option Value → Option (Lead .value)
  | some left, some right =>
    match op.apply left right with
    | .ok v => some (.give (some v))
    | .error _ => none
  | _, _ => none

def leadBranch (body : List Stmt) (orElse : Option (List Stmt)) :
    Option Value → Option (Lead .flow)
  | some (.bool true) => some (.goto (.task (.block body) frame))
  | some (.bool false) =>
    match orElse with
    | some orElse => some (.goto (.task (.block orElse) frame))
    | none => some (.give (frame, none))
  | _ => none

def leadTest (condition : Expr) (update : Assignment) (body : List Stmt) :
    Option Value → Option (Lead .flow)
  | some (.bool false) => some (.give (frame, none))
  | some (.bool true) => some (.enter (.block body) frame (.again condition update body))
  | _ => none

/-- Goes on from a pending step by name. The blocks are those in which the task that was waited for
has been started. -/
def Pending.lead : {σ τ : Kind} → Pending σ τ → σ.Meaning → Option (Lead τ)
  | _, _, .forceResult => fun d => some (.goto (.closure d))
  | _, _, .unary op => fun v => (v.bind op.apply?).map fun w => .give (some w)
  | _, _, .operand op right => leadOperand frame op right
  | _, _, .binary op left => leadBinary op left
  | _, _, .leave => fun m => some (.give (m.2.getD (.value .nil)))
  | _, _, .close => fun m =>
    match m.1 with
    | [] => none
    | _ :: blocks => some (.give (blocks, m.2))
  | _, _, .rest stmts => fun m =>
    match m.2 with
    | none => some (.goto (.task (.all stmts) m.1))
    | some _ => some (.give m)
  | _, _, .discard => fun _ => some (.give (frame, none))
  | _, _, .branch body orElse => leadBranch frame body orElse
  | _, _, .test condition change body => leadTest frame condition change body
  | _, _, .again condition change body => fun m =>
    match m.2 with
    | none => (rebind m.1 change).map fun frame => .goto (.task (.loop condition change body) frame)
    | some _ => some (.give m)
  | _, _, .handle _ => fun m => some (.give m)
  | _, _, _ => fun _ => none

end Steps

/-- What it means to go on by name. -/
inductive Means (funcs : List Func) : {τ : Kind} → Lead τ → τ.Meaning → Prop where
  | give {τ : Kind} (m : τ.Meaning) : Means funcs (.give m) m
  | value (v : Value) : Means funcs (.goto (.closure (.value v))) (some v)
  | thunk {e : Expr} {frame : Frame Closure} {v : Value}
    (h : Means funcs (.goto (.task (.eval e) frame)) (some v)) :
    Means funcs (.goto (.closure (.thunk e frame))) (some v)
  | goto {τ : Kind} {t : Task τ} {frame : Frame Closure} {l : Lead τ} {m : τ.Meaning}
    (leads : t.lead frame funcs = some l) (h : Means funcs l m) :
    Means funcs (.goto (.task t frame)) m
  | enter {σ τ : Kind} {t : Task σ} {frame : Frame Closure} {p : Pending σ τ} {m : σ.Meaning}
    {l : Lead τ} {m' : τ.Meaning} (waits : Means funcs (.goto (.task t frame)) m)
    (leads : p.lead frame m = some l) (h : Means funcs l m') : Means funcs (.enter t frame p) m'

theorem Means.unique {funcs : List Func} {τ : Kind} {l : Lead τ} {m m' : τ.Meaning}
    (h : Means funcs l m) (h' : Means funcs l m') : m = m' := by
  induction h with
  | give m =>
    cases h'
    rfl
  | value v =>
    cases h'
    rfl
  | thunk _ ih =>
    cases h' with
    | thunk h' => exact ih h'
  | goto leads _ ih =>
    cases h' with
    | goto leads' h' =>
      obtain rfl := Option.some.inj (leads.symm.trans leads')
      exact ih h'
  | enter _ leads _ ihWaits ih =>
    cases h' with
    | enter waits' leads' h' =>
      obtain rfl := ihWaits waits'
      obtain rfl := Option.some.inj (leads.symm.trans leads')
      exact ih h'

end CallByNeed.Language
