import CallByNeed.Language.State

set_option autoImplicit false
set_option relaxedAutoImplicit false

/-!
The evaluator. Arguments, assigned expressions and returned expressions are deferred: they are
evaluated when a value is first asked for, in the snapshot of the scopes taken when they were
deferred, and the value then takes the place of the expression.

An exception ends the statement lists, calls and expressions around it up to the innermost `try`
with a catcher for it, and every block and frame on the way is closed. A division by zero inside a
`try` body turns into the exception `div0` at that `try`, and the blocks and frames between stay
open. A `try` that catches an exception goes on counting as being executed.

All functions are defined by recursion on the fuel, which bounds the depth of the recursion. A run
that needs more depth than it is given is out of fuel. That is no fault of the program, and it is
where a run belongs that the machine it is executed on cuts off because the recursion is too deep.
-/

namespace CallByNeed.Language

/-- What an expression gives: a result or an exception. The exception raised with the missing string
has no name. -/
inductive Raising (α : Type) where
  | value (a : α)
  | raised (exception : Option String)
deriving Repr

/-- How a statement ends. -/
inductive Flow where
  | next
  | returned (cell : CellId)
  | raised (exception : Option String)
deriving Repr, Inhabited

/-- The function with that name and number of parameters; the last one if there are several. -/
def findFunc (funcs : List Func) (name : String) (arity : Nat) : Except LanguageError Func :=
  let named := funcs.filter fun f => f.name = name
  if named.isEmpty then .error (.functionNotFound name)
  else match named.reverse.find? fun f => f.params.length = arity with
    | some f => .ok f
    | none => .error (.arityNotFound name arity)

/-- Binds parameters to cells. Of two parameters with one name the last one's cell counts. -/
def bindParams {α : Type} (params : List Param) (cells : List α) : Block α :=
  (params.zip cells).foldl (fun block (p, cell) => block.insert p.name cell) []

def createAll : Block → Comp Unit
  | [] => pure ()
  | (name, cell) :: rest => do
    let _ ← Comp.onScopes fun s => s.create name cell
    createAll rest

def needType : Option Value → Comp Value
  | some v => pure v
  | none => Comp.stop .noType

/-- The value of a right operand. If the operator is an equality and the left operand is a string,
the content is asked for without the type. -/
def needRight (op : BinaryOp) (left : Value) : Option Value → Comp Value
  | some v => pure v
  | none =>
    if (op = .eq ∨ op = .ne) ∧ left.type = .string then Comp.stop .noValue
    else Comp.stop .noType

def applyBinary (op : BinaryOp) (left right : Value) : Comp Value :=
  match op.apply left right with
  | .ok v => pure v
  | .error fault => Comp.stop (fault.toFault op)

def readInteger (line : Option String) : Comp Value :=
  match line with
  | none => Comp.stop .noInput
  | some text =>
    match Text.readInteger text with
    | .ok n => pure (.int n)
    | .error fault => Comp.stop (.integer fault)

def readValue (asInteger : Bool) : Comp CellId := do
  let line ← Comp.readInput
  let v ← if asInteger then readInteger line else pure ((line.map Value.str).getD .missing)
  Comp.newCell (.value v)

def enterTry : Comp Unit :=
  Comp.modify fun s => { s with tryDepth := s.tryDepth + 1 }

/-- Counts a `try` body that is left, and gives the count. -/
def leaveTry : Comp Nat :=
  Comp.step fun s => (s.tryDepth - 1, { s with tryDepth := s.tryDepth - 1 })

def traceStmt (stmt : Stmt) : Comp Unit := do
  let c ← Comp.context
  if c.setup.trace then Comp.printLine stmt.toTree.toText

def assign (a : Assignment) : Comp Flow := do
  let cell ← Comp.defer a.expr Scopes.current
  let bound ← Comp.onScopes fun s => s.set a.name cell
  if bound then pure .next else Comp.fail (.undefinedAssignment a.name)

mutual

/-- Evaluates an expression; the creation of an object gives no value. -/
def eval (fuel : Nat) (e : Expr) : Comp (Raising (Option Value)) :=
  match fuel with
  | 0 => Comp.exhausted
  | fuel + 1 =>
    match e with
    | .nil => pure (.value (some .nil))
    | .int n => pure (.value (some (.int n)))
    | .bool b => pure (.value (some (.bool b)))
    | .str s => pure (.value (some (.str s)))
    | .new _ => pure (.value none)
    | .var name => do
      let cell ← Comp.onScopes fun s => (s.get? name, s)
      match cell with
      | none => Comp.fail (.variableNotFound name)
      | some cell => force fuel cell
    | .call name args => do
      let result ← call fuel name args
      match result with
      | .raised exception => pure (.raised exception)
      | .value cell => force fuel cell
    | .unary op operand => do
      let result ← eval fuel operand
      match result with
      | .raised exception => pure (.raised exception)
      | .value operand => do
        let v ← needType operand
        match op.apply? v with
        | some v => pure (.value (some v))
        | none => Comp.fail (.incompatibleOperand op)
    | .binary op left right => do
      let result ← eval fuel left
      match result with
      | .raised exception => pure (.raised exception)
      | .value left =>
        match left, op with
        | none, .and => Comp.stop .noType
        | none, .or => Comp.stop .noType
        | _, _ =>
          match left.bind op.shortCut? with
          | some v => pure (.value (some v))
          | none => do
            let result ← eval fuel right
            match result with
            | .raised exception => pure (.raised exception)
            | .value right => do
              let left ← needType left
              let right ← needRight op left right
              let v ← applyBinary op left right
              pure (.value (some v))

/-- The value of a cell. A deferred expression is evaluated in its snapshot and replaced by its
value. -/
def force (fuel : Nat) (cell : CellId) : Comp (Raising (Option Value)) :=
  match fuel with
  | 0 => Comp.exhausted
  | fuel + 1 => do
    let content ← Comp.step fun s => ((s.cells[cell]?).getD (.value .nil), s)
    match content with
    | .value v => pure (.value (some v))
    | .thunk e snapshot => do
      let focus ← Comp.step fun s =>
        (s.scopes.focus, { s with scopes := { s.scopes with focus := some snapshot } })
      let result ← eval fuel e
      Comp.modify fun s => { s with scopes := { s.scopes with focus := focus } }
      match result with
      | .raised exception => pure (.raised exception)
      | .value none => Comp.stop .noValue
      | .value (some v) => do
        Comp.modify fun s => { s with cells := s.cells.setIfInBounds cell (.value v) }
        pure (.value (some v))

def printArgs (fuel : Nat) (args : List Expr) (text : String) : Comp (Raising String) :=
  match fuel with
  | 0 => Comp.exhausted
  | fuel + 1 =>
    match args with
    | [] => pure (.value text)
    | arg :: args => do
      let result ← eval fuel arg
      match result with
      | .raised exception => pure (.raised exception)
      | .value v => do
        let v ← needType v
        let shown ← Comp.printable v
        match shown with
        | none => Comp.stop .noText
        | some shown => printArgs fuel args (text ++ shown)

/-- Calls a function. The arguments of a function of the program are deferred. -/
def call (fuel : Nat) (name : String) (args : List Expr) : Comp (Raising CellId) :=
  match fuel with
  | 0 => Comp.exhausted
  | fuel + 1 =>
    if name = "print" then do
      let result ← printArgs fuel args ""
      match result with
      | .raised exception => pure (.raised exception)
      | .value text => do
        Comp.emit (some text)
        pure (.value nilCell)
    else if name = "inputi" ∨ name = "inputs" then
      match args with
      | [] => do
        let cell ← readValue (name = "inputi")
        pure (.value cell)
      | [prompt] => do
        let result ← eval fuel prompt
        match result with
        | .raised exception => pure (.raised exception)
        | .value v => do
          let v ← needType v
          let shown ← Comp.printable v
          Comp.emit shown
          let cell ← readValue (name = "inputi")
          pure (.value cell)
      | _ => Comp.fail .tooManyInputArguments
    else do
      let c ← Comp.context
      match findFunc c.funcs name args.length with
      | .error e => Comp.fail e
      | .ok func => do
        let cells ← args.mapM fun arg => Comp.defer arg Scopes.current
        Comp.modify fun s => { s with scopes := s.scopes.pushFrame }
        createAll (bindParams func.params cells)
        let flow ← execBlock fuel func.body
        let depth ← Comp.step fun s => (s.tryDepth, s)
        match flow, depth with
        | .raised _, 0 => Comp.fail .uncaught
        | _, _ => do
          Comp.onScopes Scopes.popFrame
          match flow with
          | .raised exception => pure (.raised exception)
          | .returned cell => pure (.value cell)
          | .next => pure (.value nilCell)

def execBlock (fuel : Nat) (stmts : List Stmt) : Comp Flow :=
  match fuel with
  | 0 => Comp.exhausted
  | fuel + 1 => do
    Comp.onScopes Scopes.pushBlock
    let flow ← execAll fuel stmts
    Comp.onScopes Scopes.popBlock
    pure flow

/-- Executes statements until one does not go on to the next. -/
def execAll (fuel : Nat) (stmts : List Stmt) : Comp Flow :=
  match fuel with
  | 0 => Comp.exhausted
  | fuel + 1 =>
    match stmts with
    | [] => pure .next
    | stmt :: stmts => do
      traceStmt stmt
      let flow ← exec fuel stmt
      match flow with
      | .next => execAll fuel stmts
      | flow => pure flow

/-- Executes a statement. An expression statement that is no call does nothing. -/
def exec (fuel : Nat) (stmt : Stmt) : Comp Flow :=
  match fuel with
  | 0 => Comp.exhausted
  | fuel + 1 =>
    match stmt with
    | .eval (.call name args) => do
      let result ← call fuel name args
      match result with
      | .raised exception => pure (.raised exception)
      | .value _ => pure .next
    | .eval _ => pure .next
    | .assign a => assign a
    | .declare name _ => do
      let free ← Comp.onScopes fun s => s.create name nilCell
      if free then pure .next else Comp.fail (.duplicateDefinition name)
    | .ret none => pure (.returned nilCell)
    | .ret (some e) => do
      let cell ← Comp.defer e Scopes.home
      pure (.returned cell)
    | .branch condition body orElse => do
      let result ← eval fuel condition
      match result with
      | .raised exception => pure (.raised exception)
      | .value v => do
        let v ← needType v
        match v, orElse with
        | .bool true, _ => execBlock fuel body
        | .bool false, some orElse => execBlock fuel orElse
        | .bool false, none => pure .next
        | _, _ => Comp.fail .branchCondition
    | .loop init condition update body => do
      let _ ← assign init
      loop fuel condition update body
    | .attempt body catchers => do
      enterTry
      let flow ← Comp.catchZero (execBlock fuel body) (.raised (some "div0"))
      match flow with
      | .raised exception =>
        match catchers.find? fun c => some c.exception = exception with
        | some catcher => execBlock fuel catcher.body
        | none => do
          let depth ← leaveTry
          if depth = 0 then Comp.fail .uncaught else pure (.raised exception)
      | flow => do
        let _ ← leaveTry
        pure flow
    | .raise e => do
      let result ← eval fuel e
      match result with
      | .raised exception => pure (.raised exception)
      | .value v => do
        let v ← needType v
        match v with
        | .str s => pure (.raised (some s))
        | .missing => pure (.raised none)
        | _ => Comp.fail .raiseNotString

def loop (fuel : Nat) (condition : Expr) (update : Assignment) (body : List Stmt) : Comp Flow :=
  match fuel with
  | 0 => Comp.exhausted
  | fuel + 1 => do
    let result ← eval fuel condition
    match result with
    | .raised exception => pure (.raised exception)
    | .value v => do
      let v ← needType v
      match v with
      | .bool false => pure .next
      | .bool true => do
        let flow ← execBlock fuel body
        match flow with
        | .next => do
          let _ ← assign update
          loop fuel condition update body
        | flow => pure flow
      | _ => Comp.fail .loopCondition

end

end CallByNeed.Language
