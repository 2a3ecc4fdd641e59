import CallByNeed.Language.Eval

set_option autoImplicit false
set_option relaxedAutoImplicit false

/-!
The evaluator taken apart into tasks. A task is one call of a function of the evaluator. It is
started, which either settles it or leads to a smaller task, and what is then still to be done with
the answer of that task stands in a pending step. Neither `Task.start` nor `Pending.resume` is
recursive: all recursion of the evaluator is in the order in which they follow each other.
-/

namespace CallByNeed.Language

/-- The kinds of tasks, by what they give. -/
inductive Kind where
  | value | text | cell | flow
deriving DecidableEq

@[reducible]
def Kind.Answer : Kind → Type
  | .value => Raising (Option Value)
  | .text => Raising String
  | .cell => Raising CellId
  | .flow => Flow

/-- A call of a function of the evaluator. -/
inductive Task : Kind → Type where
  | eval (e : Expr) : Task .value
  | force (cell : CellId) : Task .value
  | printArgs (args : List Expr) (text : String) : Task .text
  | call (name : String) (args : List Expr) : Task .cell
  | block (stmts : List Stmt) : Task .flow
  | all (stmts : List Stmt) : Task .flow
  | stmt (stmt : Stmt) : Task .flow
  | loop (condition : Expr) (update : Assignment) (body : List Stmt) : Task .flow

/-- What is done with the answer of a task, for an answer of the second kind. -/
inductive Pending : Kind → Kind → Type where
  /-- Forces the cell that a call gives. -/
  | forceResult : Pending .cell .value
  | unary (op : UnaryOp) : Pending .value .value
  /-- Evaluates the right operand after the left one. -/
  | operand (op : BinaryOp) (right : Expr) : Pending .value .value
  | binary (op : BinaryOp) (left : Option Value) : Pending .value .value
  /-- Goes back to a focus and keeps the value of a deferred expression in its cell. -/
  | update (cell : CellId) (focus : Option Nat) : Pending .value .value
  | printRest (args : List Expr) (text : String) : Pending .value .text
  | emit : Pending .text .cell
  | prompt (asInteger : Bool) : Pending .value .cell
  /-- Leaves a function whose body has ended. -/
  | leave : Pending .flow .cell
  /-- Closes a block. -/
  | close : Pending .flow .flow
  | rest (stmts : List Stmt) : Pending .flow .flow
  /-- Drops the cell that a call as a statement gives. -/
  | discard : Pending .cell .flow
  | branch (body : List Stmt) (orElse : Option (List Stmt)) : Pending .value .flow
  | test (condition : Expr) (update : Assignment) (body : List Stmt) : Pending .value .flow
  | again (condition : Expr) (update : Assignment) (body : List Stmt) : Pending .flow .flow
  /-- Looks for a catcher when the body of a `try` has ended. -/
  | handle (catchers : List (Catcher Stmt)) : Pending .flow .flow
  | throw : Pending .value .flow

/-- How it goes on: with an answer, with another task in place of this one, or with a task whose
answer is waited for. -/
inductive Next (τ : Kind) where
  | give (a : τ.Answer)
  | goto (t : Task τ)
  | enter {σ : Kind} (t : Task σ) (p : Pending σ τ)

def startEval : Expr → Comp (Next .value)
  | .nil => pure (.give (.value (some .nil)))
  | .int n => pure (.give (.value (some (.int n))))
  | .bool b => pure (.give (.value (some (.bool b))))
  | .str s => pure (.give (.value (some (.str s))))
  | .new _ => pure (.give (.value none))
  | .var name => do
    let cell ← Comp.onScopes fun s => (s.get? name, s)
    match cell with
    | none => Comp.fail (.variableNotFound name)
    | some cell => pure (.goto (.force cell))
  | .call name args => pure (.enter (.call name args) .forceResult)
  | .unary op operand => pure (.enter (.eval operand) (.unary op))
  | .binary op left right => pure (.enter (.eval left) (.operand op right))

/-- Starts to force a cell: the focus goes to the snapshot of a deferred expression. -/
def startForce (cell : CellId) : Comp (Next .value) := do
  let content ← Comp.step fun s => ((s.cells[cell]?).getD (.value .nil), s)
  match content with
  | .value v => pure (.give (.value (some v)))
  | .thunk e snapshot => do
    let focus ← Comp.step fun s =>
      (s.scopes.focus, { s with scopes := { s.scopes with focus := some snapshot } })
    pure (.enter (.eval e) (.update cell focus))

/-- Starts to evaluate the arguments of `print`. -/
def startPrintArgs (text : String) : List Expr → Comp (Next .text)
  | [] => pure (.give (.value text))
  | arg :: args => pure (.enter (.eval arg) (.printRest args text))

def enterFunc (func : Func) (args : List Expr) : Comp (Next .cell) := do
  let cells ← args.mapM fun arg => Comp.defer arg Scopes.current
  Comp.modify fun s => { s with scopes := s.scopes.pushFrame }
  createAll (bindParams func.params cells)
  pure (.enter (.block func.body) .leave)

def startCall (name : String) (args : List Expr) : Comp (Next .cell) :=
  if name = "print" then pure (.enter (.printArgs args "") .emit)
  else if name = "inputi" ∨ name = "inputs" then
    match args with
    | [] => do
      let cell ← readValue (name = "inputi")
      pure (.give (.value cell))
    | [prompt] => pure (.enter (.eval prompt) (.prompt (name = "inputi")))
    | _ => Comp.fail .tooManyInputArguments
  else do
    let c ← Comp.context
    match findFunc c.funcs name args.length with
    | .error e => Comp.fail e
    | .ok func => enterFunc func args

def startAll : List Stmt → Comp (Next .flow)
  | [] => pure (.give .next)
  | stmt :: stmts => do
    traceStmt stmt
    pure (.enter (.stmt stmt) (.rest stmts))

def startStmt : Stmt → Comp (Next .flow)
  | .eval (.call name args) => pure (.enter (.call name args) .discard)
  | .eval _ => pure (.give .next)
  | .assign a => do
    let flow ← assign a
    pure (.give flow)
  | .declare name _ => do
    let free ← Comp.onScopes fun s => s.create name nilCell
    if free then pure (.give .next) else Comp.fail (.duplicateDefinition name)
  | .ret none => pure (.give (.returned nilCell))
  | .ret (some e) => do
    let cell ← Comp.defer e Scopes.home
    pure (.give (.returned cell))
  | .branch condition body orElse => pure (.enter (.eval condition) (.branch body orElse))
  | .loop init condition update body => do
    let _ ← assign init
    pure (.goto (.loop condition update body))
  | .attempt body catchers => do
    enterTry
    pure (.enter (.block body) (.handle catchers))
  | .raise e => pure (.enter (.eval e) .throw)

def Task.start : {τ : Kind} → Task τ → Comp (Next τ)
  | _, .eval e => startEval e
  | _, .force cell => startForce cell
  | _, .printArgs args text => startPrintArgs text args
  | _, .call name args => startCall name args
  | _, .block stmts => do
    Comp.onScopes Scopes.pushBlock
    pure (.enter (.all stmts) .close)
  | _, .all stmts => startAll stmts
  | _, .stmt s => startStmt s
  | _, .loop condition update body =>
    pure (.enter (.eval condition) (.test condition update body))

def resumeOperand (op : BinaryOp) (right : Expr) (left : Option Value) : Comp (Next .value) :=
  match left, op with
  | none, .and => Comp.stop .noType
  | none, .or => Comp.stop .noType
  | _, _ =>
    match left.bind op.shortCut? with
    | some v => pure (.give (.value (some v)))
    | none => pure (.enter (.eval right) (.binary op left))

def resumeBinary (op : BinaryOp) (left right : Option Value) : Comp (Next .value) := do
  let left ← needType left
  let right ← needRight op left right
  let v ← applyBinary op left right
  pure (.give (.value (some v)))

def keepValue (cell : CellId) : Option Value → Comp (Next .value)
  | none => Comp.stop .noValue
  | some v => do
    Comp.modify fun s => { s with cells := s.cells.setIfInBounds cell (.value v) }
    pure (.give (.value (some v)))

def resumeUpdate (cell : CellId) (focus : Option Nat) (result : Raising (Option Value)) :
    Comp (Next .value) := do
  Comp.modify fun s => { s with scopes := { s.scopes with focus := focus } }
  match result with
  | .raised exception => pure (.give (.raised exception))
  | .value v => keepValue cell v

/-- Leaves a function: an exception that no `try` body counts for stops the run. -/
def resumeLeave (flow : Flow) : Comp (Next .cell) := do
  let depth ← Comp.step fun s => (s.tryDepth, s)
  match flow, depth with
  | .raised _, 0 => Comp.fail .uncaught
  | _, _ => do
    Comp.onScopes Scopes.popFrame
    match flow with
    | .raised exception => pure (.give (.raised exception))
    | .returned cell => pure (.give (.value cell))
    | .next => pure (.give (.value nilCell))

/-- Goes on after the body of a `try`. -/
def resumeHandle (catchers : List (Catcher Stmt)) : Flow → Comp (Next .flow)
  | .raised exception =>
    match catchers.find? fun c => some c.exception = exception with
    | some catcher => pure (.goto (.block catcher.body))
    | none => do
      let depth ← leaveTry
      if depth = 0 then Comp.fail .uncaught else pure (.give (.raised exception))
  | flow => do
    let _ ← leaveTry
    pure (.give flow)

def resumeBranch (body : List Stmt) (orElse : Option (List Stmt)) (v : Option Value) :
    Comp (Next .flow) := do
  let v ← needType v
  match v, orElse with
  | .bool true, _ => pure (.goto (.block body))
  | .bool false, some orElse => pure (.goto (.block orElse))
  | .bool false, none => pure (.give .next)
  | _, _ => Comp.fail .branchCondition

def resumeTest (condition : Expr) (update : Assignment) (body : List Stmt) (v : Option Value) :
    Comp (Next .flow) := do
  let v ← needType v
  match v with
  | .bool false => pure (.give .next)
  | .bool true => pure (.enter (.block body) (.again condition update body))
  | _ => Comp.fail .loopCondition

def resumeThrow (v : Option Value) : Comp (Next .flow) := do
  let v ← needType v
  match v with
  | .str s => pure (.give (.raised (some s)))
  | .missing => pure (.give (.raised none))
  | _ => Comp.fail .raiseNotString

/-- What a pending step does with the result of an expression; an exception goes on. -/
def onValue {α : Type} {τ : Kind} (f : α → Comp (Next τ)) (g : Option String → τ.Answer) :
    Raising α → Comp (Next τ)
  | .raised exception => pure (.give (g exception))
  | .value a => f a

def Pending.resume : {σ τ : Kind} → Pending σ τ → σ.Answer → Comp (Next τ)
  | _, _, .forceResult => onValue (fun cell => pure (.goto (.force cell))) .raised
  | _, _, .unary op => onValue (fun operand => do
      let v ← needType operand
      match op.apply? v with
      | some v => pure (.give (.value (some v)))
      | none => Comp.fail (.incompatibleOperand op)) .raised
  | _, _, .operand op right => onValue (resumeOperand op right) .raised
  | _, _, .binary op left => onValue (resumeBinary op left) .raised
  | _, _, .update cell focus => resumeUpdate cell focus
  | _, _, .printRest args text => onValue (fun v => do
      let v ← needType v
      let shown ← Comp.printable v
      match shown with
      | none => Comp.stop .noText
      | some shown => pure (.goto (.printArgs args (text ++ shown)))) .raised
  | _, _, .emit => onValue (fun text => do
      Comp.emit (some text)
      pure (.give (.value nilCell))) .raised
  | _, _, .prompt asInteger => onValue (fun v => do
      let v ← needType v
      let shown ← Comp.printable v
      Comp.emit shown
      let cell ← readValue asInteger
      pure (.give (.value cell))) .raised
  | _, _, .leave => resumeLeave
  | _, _, .close => fun flow => do
    Comp.onScopes Scopes.popBlock
    pure (.give flow)
  | _, _, .rest stmts => fun flow =>
    match flow with
    | .next => pure (.goto (.all stmts))
    | flow => pure (.give flow)
  | _, _, .discard => onValue (fun _ => pure (.give .next)) .raised
  | _, _, .branch body orElse => onValue (resumeBranch body orElse) .raised
  | _, _, .test condition change body => onValue (resumeTest condition change body) .raised
  | _, _, .again condition change body => fun flow =>
    match flow with
    | .next => do
      let _ ← assign change
      pure (.goto (.loop condition change body))
    | flow => pure (.give flow)
  | _, _, .handle catchers => resumeHandle catchers
  | _, _, .throw => onValue resumeThrow .raised

end CallByNeed.Language
