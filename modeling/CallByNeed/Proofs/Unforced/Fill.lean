import CallByNeed.Proofs.Heap.Binding
import CallByNeed.Proofs.Machine.Lockstep

set_option autoImplicit false
set_option relaxedAutoImplicit false

/-!
Programs with open places. A place is marked by the creation of an object of a type whose name is
used for nothing else, and it is filled with an expression where the mark stands for an expression
that is deferred: the right side of an assignment, an argument of a function of the program, or a
returned expression. Two fillings of one program are two programs that differ in these places only.

Whatever is done at a moment of a run, it is done in the same way after filling, with one exception:
a cell that holds the mark is forced.
-/

namespace CallByNeed.Language

variable {ρ σ τ : Kind} {α β γ : Type}

/-- An expression for the places with a mark. -/
structure Filling where
  mark : String
  expr : Expr

def isBuiltIn (name : String) : Bool :=
  name = "print" || name = "inputi" || name = "inputs"

mutual

/-- Fills the places in an expression, which may be a place itself if it is deferred. -/
def Expr.fill (F : Filling) : Bool → Expr → Expr
  | deferred, .new typeName => if deferred && typeName = F.mark then F.expr else .new typeName
  | _, .call name args => .call name (Expr.fillAll F (!isBuiltIn name) args)
  | _, .unary op operand => .unary op (operand.fill F false)
  | _, .binary op left right => .binary op (left.fill F false) (right.fill F false)
  | _, .int n => .int n
  | _, .bool b => .bool b
  | _, .str text => .str text
  | _, .nil => .nil
  | _, .var name => .var name

def Expr.fillAll (F : Filling) : Bool → List Expr → List Expr
  | _, [] => []
  | deferred, e :: es => e.fill F deferred :: Expr.fillAll F deferred es

end

def Assignment.fill (F : Filling) (a : Assignment) : Assignment :=
  ⟨a.name, a.expr.fill F true⟩

mutual

def Stmt.fill (F : Filling) : Stmt → Stmt
  | .eval e => .eval (e.fill F false)
  | .assign a => .assign (a.fill F)
  | .declare name typeName => .declare name typeName
  | .branch condition body none => .branch (condition.fill F false) (Stmt.fillAll F body) none
  | .branch condition body (some orElse) =>
    .branch (condition.fill F false) (Stmt.fillAll F body) (some (Stmt.fillAll F orElse))
  | .loop init condition update body =>
    .loop (init.fill F) (condition.fill F false) (update.fill F) (Stmt.fillAll F body)
  | .attempt body catchers => .attempt (Stmt.fillAll F body) (Stmt.fillCatchers F catchers)
  | .raise e => .raise (e.fill F false)
  | .ret none => .ret none
  | .ret (some e) => .ret (some (e.fill F true))

def Stmt.fillAll (F : Filling) : List Stmt → List Stmt
  | [] => []
  | st :: stmts => st.fill F :: Stmt.fillAll F stmts

def Stmt.fillCatchers (F : Filling) : List (Catcher Stmt) → List (Catcher Stmt)
  | [] => []
  | ⟨exception, body⟩ :: rest => ⟨exception, Stmt.fillAll F body⟩ :: Stmt.fillCatchers F rest

end

def Func.fill (F : Filling) (f : Func) : Func :=
  { f with body := Stmt.fillAll F f.body }

def Program.fill (F : Filling) (program : Program) : Program :=
  { program with funcs := program.funcs.map (Func.fill F) }

def Context.fill (F : Filling) (c : Context) : Context :=
  { c with funcs := c.funcs.map (Func.fill F) }

def Cell.fill (F : Filling) : Cell → Cell
  | .value v => .value v
  | .thunk e i => .thunk (e.fill F true) i

def State.fill (F : Filling) (s : State) : State :=
  { s with cells := s.cells.map (Cell.fill F) }

def Task.fill (F : Filling) : {σ : Kind} → Task σ → Task σ
  | _, .eval e => .eval (e.fill F false)
  | _, .force cell => .force cell
  | _, .printArgs args text => .printArgs (Expr.fillAll F false args) text
  | _, .call name args => .call name (Expr.fillAll F (!isBuiltIn name) args)
  | _, .block stmts => .block (Stmt.fillAll F stmts)
  | _, .all stmts => .all (Stmt.fillAll F stmts)
  | _, .stmt st => .stmt (st.fill F)
  | _, .loop condition update body =>
    .loop (condition.fill F false) (update.fill F) (Stmt.fillAll F body)

def Pending.fill (F : Filling) : {σ τ : Kind} → Pending σ τ → Pending σ τ
  | _, _, .forceResult => .forceResult
  | _, _, .unary op => .unary op
  | _, _, .operand op right => .operand op (right.fill F false)
  | _, _, .binary op left => .binary op left
  | _, _, .update cell focus => .update cell focus
  | _, _, .printRest args text => .printRest (Expr.fillAll F false args) text
  | _, _, .emit => .emit
  | _, _, .prompt asInteger => .prompt asInteger
  | _, _, .leave => .leave
  | _, _, .close => .close
  | _, _, .rest stmts => .rest (Stmt.fillAll F stmts)
  | _, _, .discard => .discard
  | _, _, .branch body orElse => .branch (Stmt.fillAll F body) (orElse.map (Stmt.fillAll F))
  | _, _, .test condition change body =>
    .test (condition.fill F false) (change.fill F) (Stmt.fillAll F body)
  | _, _, .again condition change body =>
    .again (condition.fill F false) (change.fill F) (Stmt.fillAll F body)
  | _, _, .handle catchers => .handle (Stmt.fillCatchers F catchers)
  | _, _, .throw => .throw

def Stack.fill (F : Filling) : {σ : Kind} → Stack ρ σ → Stack ρ σ
  | _, .nil => .nil
  | _, .cons p k => .cons (p.fill F) (k.fill F)

def Next.fill (F : Filling) : Next τ → Next τ
  | .give a => .give a
  | .goto t => .goto (t.fill F)
  | .enter t p => .enter (t.fill F) (p.fill F)

def Config.fill (F : Filling) : Config ρ → Config ρ
  | .run t k s => .run (t.fill F) (k.fill F) (s.fill F)
  | .done a k s => .done a (k.fill F) (s.fill F)
  | .fault f k s => .fault f (k.fill F) (s.fill F)

def Outcome.fill (F : Filling) (f : α → β) : Outcome α → Outcome β
  | .ok a s => .ok (f a) (s.fill F)
  | .stop fault s => .stop fault (s.fill F)
  | .outOfFuel => .outOfFuel

section Lemmas

variable (F : Filling)

/-- Only the mark itself is a place when it is deferred and none when it is not. -/
theorem Expr.fill_deferred {e : Expr} (other : e ≠ .new F.mark) :
    e.fill F true = e.fill F false := by
  cases e with
  | new typeName =>
    have different : typeName ≠ F.mark := fun same => other (by rw [same])
    simp [Expr.fill, different]
  | _ => rfl

private theorem Expr.length_fillAll (deferred : Bool) (args : List Expr) :
    (Expr.fillAll F deferred args).length = args.length := by
  induction args with
  | nil => rfl
  | cons arg args ih => exact congrArg (· + 1) ih

private theorem Stmt.find?_fillCatchers (exception : Option String)
    (catchers : List (Catcher Stmt)) :
    (Stmt.fillCatchers F catchers).find? (fun c => some c.exception = exception) =
      (catchers.find? fun c => some c.exception = exception).map
        fun c => ⟨c.exception, Stmt.fillAll F c.body⟩ := by
  induction catchers with
  | nil => rfl
  | cons catcher rest ih =>
    rw [Stmt.fillCatchers, List.find?_cons, List.find?_cons, ih]
    dsimp only
    cases decide (some catcher.exception = exception) <;> rfl

private theorem findFunc_fill (funcs : List Func) (name : String) (arity : Nat) :
    findFunc (funcs.map (Func.fill F)) name arity =
      (findFunc funcs name arity).map (Func.fill F) := by
  have named : (funcs.map (Func.fill F)).filter (fun f => f.name = name) =
      (funcs.filter fun f => f.name = name).map (Func.fill F) := List.filter_map
  unfold findFunc
  rw [named]
  dsimp only
  rw [List.isEmpty_map, ← List.map_reverse, List.find?_map]
  split
  · rfl
  · have same : ((fun f : Func => decide (f.params.length = arity)) ∘ Func.fill F) =
        fun f => decide (f.params.length = arity) := rfl
    rw [same]
    cases (funcs.filter fun f => f.name = name).reverse.find? fun f =>
      decide (f.params.length = arity) <;> rfl

end Lemmas

namespace Comp

/-- A computation after filling does what another one does before it. -/
def Commutes (F : Filling) (c : Context) (f : α → β) (x : Comp α) (y : Comp β) : Prop :=
  ∀ s, y (c.fill F) (s.fill F) = (x c s).fill F f

variable {F : Filling} {c : Context}

private theorem commutes_pure {f : α → β} {a : α} {b : β} (h : b = f a) :
    Commutes F c f (pure a) (pure b) := by
  subst h
  exact fun _ => rfl

private theorem commutes_stop {f : α → β} (fault : Fault) :
    Commutes F c f (stop fault) (stop fault) :=
  fun _ => rfl

private theorem commutes_bind {γ' : Type} {f : α → β} {g : γ → γ'} {x : Comp α} {y : Comp β}
    {k : α → Comp γ} {k' : β → Comp γ'} (hx : Commutes F c f x y)
    (hk : ∀ a, Commutes F c g (k a) (k' (f a))) : Commutes F c g (x >>= k) (y >>= k') := by
  intro s
  rw [bind_apply, bind_apply, hx s]
  cases x c s with
  | ok a s' => exact hk a s'
  | stop fault s' => rfl
  | outOfFuel => rfl

private theorem commutes_onScopes (f : Scopes → Scopes.Result α) :
    Commutes F c id (onScopes f) (onScopes f) := by
  intro s
  have scopes : (s.fill F).scopes = s.scopes := rfl
  rw [onScopes_apply, onScopes_apply, scopes]
  rcases f s.scopes with ⟨_ | a, u⟩ <;> rfl

private theorem commutes_step {f : State → α × State}
    (h : ∀ s : State, f (s.fill F) = ((f s).1, (f s).2.fill F)) :
    Commutes F c id (step f) (step f) := by
  intro s
  rw [step_apply, step_apply, h s]
  rfl

private theorem commutes_modify {f : State → State} (h : ∀ s : State, f (s.fill F) = (f s).fill F) :
    Commutes F c id (modify f) (modify f) := by
  intro s
  rw [modify_apply, modify_apply, h s]
  rfl

private theorem commutes_newCell (v : Value) :
    Commutes F c id (newCell (.value v)) (newCell (.value v)) := by
  refine commutes_step fun s => ?_
  simp [State.fill, Cell.fill]

private theorem commutes_defer (e : Expr) (pick : Scopes → Env) :
    Commutes F c id (defer e pick) (defer (e.fill F true) pick) := by
  intro s
  simp [defer, State.fill, Cell.fill, Outcome.fill]

private theorem commutes_emit (text : Option String) : Commutes F c id (emit text) (emit text) := by
  intro s
  have setup : (c.fill F).setup.console = c.setup.console := rfl
  simp only [emit, bind_apply, context_apply, setup]
  split <;> rfl

private theorem commutes_printable (v : Value) : Commutes F c id (printable v) (printable v) := by
  unfold printable
  split
  · exact commutes_pure rfl
  · exact commutes_stop _

end Comp

open CallByNeed.Language.Comp

section Primitives

variable {F : Filling} {c : Context}

private theorem commutes_needType (v : Option Value) :
    Commutes F c id (needType v) (needType v) := by
  cases v with
  | none => exact commutes_stop _
  | some v => exact commutes_pure rfl

private theorem commutes_readValue (asInteger : Bool) :
    Commutes F c id (readValue asInteger) (readValue asInteger) := by
  have line : Commutes F c id Comp.readInput Comp.readInput := by
    intro s
    have channels : (s.fill F).channels = s.channels := rfl
    unfold Comp.readInput
    simp only [channels, Context.fill]
    cases s.channels.read c.setup <;> rfl
  refine commutes_bind line fun text => ?_
  cases asInteger with
  | false => exact commutes_newCell _
  | true =>
    have integer : Commutes F c id (readInteger text) (readInteger text) := by
      unfold readInteger
      split
      · exact commutes_stop _
      · split
        · exact commutes_pure rfl
        · exact commutes_stop _
    exact commutes_bind integer fun v => commutes_newCell v

private theorem commutes_assign (a : Assignment) :
    Commutes F c id (assign a) (assign (a.fill F)) := by
  refine commutes_bind (commutes_defer a.expr _) fun cell => ?_
  refine commutes_bind (commutes_onScopes _) fun bound => ?_
  cases bound with
  | false => exact commutes_stop _
  | true => exact commutes_pure rfl

private theorem commutes_createAll (block : Block) :
    Commutes F c id (createAll block) (createAll block) := by
  induction block with
  | nil => exact commutes_pure rfl
  | cons binding rest ih => exact commutes_bind (commutes_onScopes _) fun _ => ih

private theorem commutes_deferAll (args : List Expr) :
    Commutes F c id (args.mapM fun arg => Comp.defer arg Scopes.current)
      ((Expr.fillAll F true args).mapM fun arg => Comp.defer arg Scopes.current) := by
  induction args with
  | nil => exact commutes_pure rfl
  | cons arg args ih =>
    rw [Expr.fillAll, List.mapM_cons, List.mapM_cons]
    refine commutes_bind (commutes_defer arg _) fun cell => ?_
    exact commutes_bind ih fun cells => commutes_pure rfl

end Primitives

section Tasks

variable {F : Filling} {c : Context}

private theorem commutes_startEval (e : Expr) :
    Commutes F c (Next.fill F) (startEval e) (startEval (e.fill F false)) := by
  cases e with
  | var name =>
    refine commutes_bind (commutes_onScopes _) fun cell => ?_
    cases cell with
    | none => exact commutes_stop _
    | some cell => exact commutes_pure rfl
  | _ => exact commutes_pure rfl

private theorem commutes_enterFunc (func : Func) (args : List Expr) :
    Commutes F c (Next.fill F) (enterFunc func args)
      (enterFunc (func.fill F) (Expr.fillAll F true args)) := by
  refine commutes_bind (commutes_deferAll args) fun cells => ?_
  refine commutes_bind (commutes_modify fun _ => rfl) fun _ => ?_
  exact commutes_bind (commutes_createAll _) fun _ => commutes_pure rfl

private theorem commutes_startCall (name : String) (args : List Expr) :
    Commutes F c (Next.fill F) (startCall name args)
      (startCall name (Expr.fillAll F (!isBuiltIn name) args)) := by
  unfold startCall
  split
  · next print =>
    subst print
    exact commutes_pure rfl
  · next noPrint =>
    split
    · next input =>
      have builtIn : isBuiltIn name = true := by
        rcases input with rfl | rfl <;> rfl
      rw [builtIn]
      match args with
      | [] => exact commutes_bind (commutes_readValue _) fun cell => commutes_pure rfl
      | [prompt] => exact commutes_pure rfl
      | _ :: _ :: _ => exact commutes_stop _
    · next noInput =>
      have builtIn : isBuiltIn name = false := by
        simpa [isBuiltIn, noPrint] using noInput
      rw [builtIn]
      intro s
      rw [Comp.bind_apply, Comp.bind_apply, Comp.context_apply, Comp.context_apply]
      dsimp only
      rw [Expr.length_fillAll]
      have found : findFunc (c.fill F).funcs name args.length =
          (findFunc c.funcs name args.length).map (Func.fill F) := findFunc_fill F _ name _
      rw [found]
      cases findFunc c.funcs name args.length with
      | error e => rfl
      | ok func => exact commutes_enterFunc func args s

private theorem commutes_startStmt (st : Stmt) :
    Commutes F c (Next.fill F) (startStmt st) (startStmt (st.fill F)) := by
  cases st with
  | eval e =>
    cases e with
    | call name args => exact commutes_pure rfl
    | _ => exact commutes_pure rfl
  | assign a => exact commutes_bind (commutes_assign a) fun flow => commutes_pure rfl
  | declare name typeName =>
    refine commutes_bind (commutes_onScopes _) fun free => ?_
    cases free with
    | false => exact commutes_stop _
    | true => exact commutes_pure rfl
  | ret value =>
    cases value with
    | none => exact commutes_pure rfl
    | some e => exact commutes_bind (commutes_defer e _) fun cell => commutes_pure rfl
  | branch condition body orElse =>
    cases orElse with
    | none => exact commutes_pure rfl
    | some orElse => exact commutes_pure rfl
  | loop init condition change body =>
    exact commutes_bind (commutes_assign init) fun _ => commutes_pure rfl
  | attempt body catchers =>
    exact commutes_bind (commutes_modify fun _ => rfl) fun _ => commutes_pure rfl
  | raise e => exact commutes_pure rfl

def State.holdsPlace (mark : String) (s : State) (cell : CellId) : Bool :=
  match s.cells[cell]? with
  | some (.thunk (.new typeName) _) => typeName = mark
  | _ => false

private theorem State.holdsPlace_of_thunk {mark : String} {s : State} {cell : CellId} {i : Nat}
    (h : s.cells[cell]? = some (.thunk (.new mark) i)) : s.holdsPlace mark cell = true := by
  simp [holdsPlace, h]

def Config.forcesPlace (mark : String) : Config ρ → Bool
  | .run (.force cell) _ s => s.holdsPlace mark cell
  | _ => false

private theorem startForce_fill {cell : CellId} {s : State}
    (unforced : s.holdsPlace F.mark cell = false) :
    startForce cell (c.fill F) (s.fill F) = (startForce cell c s).fill F (Next.fill F) := by
  unfold startForce
  simp only [Comp.bind_apply, Comp.step_apply]
  have content : (s.fill F).cells[cell]? = s.cells[cell]?.map (Cell.fill F) := by
    simp [State.fill]
  rw [content]
  cases looked : s.cells[cell]? with
  | none => rfl
  | some content' =>
    cases content' with
    | value v => rfl
    | thunk e i =>
      have other : e ≠ .new F.mark := by
        intro same
        rw [State.holdsPlace_of_thunk (same ▸ looked)] at unforced
        cases unforced
      simp only [Option.map_some, Option.getD_some, Cell.fill, Expr.fill_deferred F other]
      rfl

theorem start_fill {t : Task σ} {k : Stack ρ σ} {s : State} (quiet : c.setup.trace = false)
    (unforced : (Config.run t k s).forcesPlace F.mark = false) :
    (t.fill F).start (c.fill F) (s.fill F) = (t.start c s).fill F (Next.fill F) := by
  cases t with
  | eval e => exact commutes_startEval e s
  | force cell => exact startForce_fill unforced
  | printArgs args text =>
    cases args with
    | nil => rfl
    | cons arg args => rfl
  | call name args => exact commutes_startCall name args s
  | block stmts =>
    refine Comp.commutes_bind (commutes_onScopes _) (fun _ => ?_) s
    exact commutes_pure rfl
  | all stmts =>
    cases stmts with
    | nil => rfl
    | cons st stmts =>
      -- Filling changes the text of a statement, which is printed only if statements are traced.
      have untraced : ∀ st' : Stmt, ∀ c' : Context, c'.setup = c.setup → ∀ s' : State,
          traceStmt st' c' s' = .ok () s' := by
        intro st' c' same s'
        rw [traceStmt, Comp.bind_apply, Comp.context_apply]
        simp [same, quiet]
      change startAll (st.fill F :: Stmt.fillAll F stmts) (c.fill F) (s.fill F) = _
      simp only [Task.start, startAll, Comp.bind_apply, untraced _ c rfl, untraced _ (c.fill F) rfl]
      rfl
  | stmt st => exact commutes_startStmt st s
  | loop condition change body => rfl

private theorem commutes_resumeOperand (op : BinaryOp) (right : Expr) (left : Option Value) :
    Commutes F c (Next.fill F) (resumeOperand op right left)
      (resumeOperand op (right.fill F false) left) := by
  unfold resumeOperand
  split
  · exact commutes_stop _
  · exact commutes_stop _
  · split
    · exact commutes_pure rfl
    · exact commutes_pure rfl

private theorem commutes_resumeBinary (op : BinaryOp) (left right : Option Value) :
    Commutes F c (Next.fill F) (resumeBinary op left right) (resumeBinary op left right) := by
  refine commutes_bind (commutes_needType left) fun left => ?_
  have second : Commutes F c id (needRight op left right) (needRight op left right) := by
    cases right with
    | some v => exact commutes_pure rfl
    | none =>
      rw [needRight]
      split <;> exact commutes_stop _
  refine commutes_bind second fun right => ?_
  have applied : Commutes F c id (applyBinary op left right) (applyBinary op left right) := by
    unfold applyBinary
    split
    · exact commutes_pure rfl
    · exact commutes_stop _
  exact commutes_bind applied fun v => commutes_pure rfl

private theorem commutes_resumeUpdate (cell : CellId) (focus : Option Nat)
    (result : Raising (Option Value)) :
    Commutes F c (Next.fill F) (resumeUpdate cell focus result)
      (resumeUpdate cell focus result) := by
  refine commutes_bind (commutes_modify fun _ => rfl) fun _ => ?_
  rcases result with (_ | v) | exception
  · exact commutes_stop _
  · refine commutes_bind (commutes_modify fun s => ?_) fun _ => commutes_pure rfl
    simp [State.fill, Cell.fill]
  · exact commutes_pure rfl

private theorem commutes_resumeLeave (flow : Flow) :
    Commutes F c (Next.fill F) (resumeLeave flow) (resumeLeave flow) := by
  refine commutes_bind (commutes_step fun _ => rfl) fun depth => ?_
  dsimp only [id]
  split
  · exact commutes_stop _
  · refine commutes_bind (commutes_onScopes _) fun _ => ?_
    cases flow <;> exact commutes_pure rfl

private theorem commutes_resumeHandle (catchers : List (Catcher Stmt)) (flow : Flow) :
    Commutes F c (Next.fill F) (resumeHandle catchers flow)
      (resumeHandle (Stmt.fillCatchers F catchers) flow) := by
  cases flow with
  | raised exception =>
    simp only [resumeHandle, Stmt.find?_fillCatchers]
    cases catchers.find? fun c => some c.exception = exception with
    | some catcher => exact commutes_pure rfl
    | none =>
      refine commutes_bind (commutes_step fun _ => rfl) fun depth => ?_
      dsimp only [id]
      split
      · exact commutes_stop _
      · exact commutes_pure rfl
  | next => exact commutes_bind (commutes_step fun _ => rfl) fun _ => commutes_pure rfl
  | returned cell => exact commutes_bind (commutes_step fun _ => rfl) fun _ => commutes_pure rfl

/-- A pending step with an exception or a value, if it only hands an exception on. -/
private theorem commutes_onValue {f g : α → Comp (Next τ)} {raised : Option String → τ.Answer}
    (h : ∀ a, Commutes F c (Next.fill F) (f a) (g a)) (r : Raising α) :
    Commutes F c (Next.fill F) (onValue f raised r) (onValue g raised r) := by
  cases r with
  | raised exception => exact commutes_pure rfl
  | value a => exact h a

theorem commutes_resume (p : Pending σ τ) (a : σ.Answer) :
    Commutes F c (Next.fill F) (p.resume a) ((p.fill F).resume a) := by
  cases p with
  | forceResult => exact commutes_onValue (fun cell => commutes_pure rfl) a
  | unary op =>
    refine commutes_onValue (fun operand => ?_) a
    refine commutes_bind (commutes_needType operand) fun v => ?_
    dsimp only [id]
    split
    · exact commutes_pure rfl
    · exact commutes_stop _
  | operand op right => exact commutes_onValue (commutes_resumeOperand op right) a
  | binary op left => exact commutes_onValue (commutes_resumeBinary op left) a
  | update cell focus => exact commutes_resumeUpdate cell focus a
  | printRest args text =>
    refine commutes_onValue (fun v => ?_) a
    refine commutes_bind (commutes_needType v) fun v => ?_
    refine commutes_bind (commutes_printable v) fun shown => ?_
    cases shown with
    | none => exact commutes_stop _
    | some shown => exact commutes_pure rfl
  | emit =>
    refine commutes_onValue (fun text => ?_) a
    exact commutes_bind (commutes_emit _) fun _ => commutes_pure rfl
  | prompt asInteger =>
    refine commutes_onValue (fun v => ?_) a
    refine commutes_bind (commutes_needType v) fun v => ?_
    refine commutes_bind (commutes_printable v) fun shown => ?_
    refine commutes_bind (commutes_emit shown) fun _ => ?_
    exact commutes_bind (commutes_readValue asInteger) fun cell => commutes_pure rfl
  | leave => exact commutes_resumeLeave a
  | close => exact commutes_bind (commutes_onScopes _) fun _ => commutes_pure rfl
  | rest stmts => cases a <;> exact commutes_pure rfl
  | discard => exact commutes_onValue (fun _ => commutes_pure rfl) a
  | branch body orElse =>
    refine commutes_onValue (fun v => ?_) a
    refine commutes_bind (commutes_needType v) fun v => ?_
    rcases v with n | (_ | _) | text | _ | _
    case bool.true => exact commutes_pure rfl
    case bool.false => cases orElse <;> exact commutes_pure rfl
    all_goals exact commutes_stop _
  | test condition change body =>
    refine commutes_onValue (fun v => ?_) a
    refine commutes_bind (commutes_needType v) fun v => ?_
    rcases v with n | (_ | _) | text | _ | _
    case bool.true => exact commutes_pure rfl
    case bool.false => exact commutes_pure rfl
    all_goals exact commutes_stop _
  | again condition change body =>
    cases a with
    | next => exact commutes_bind (commutes_assign change) fun _ => commutes_pure rfl
    | returned cell => exact commutes_pure rfl
    | raised exception => exact commutes_pure rfl
  | handle catchers => exact commutes_resumeHandle catchers a
  | throw =>
    refine commutes_onValue (fun v => ?_) a
    refine commutes_bind (commutes_needType v) fun v => ?_
    cases v with
    | str text => exact commutes_pure rfl
    | missing => exact commutes_pure rfl
    | _ => exact commutes_stop _

end Tasks

end CallByNeed.Language
