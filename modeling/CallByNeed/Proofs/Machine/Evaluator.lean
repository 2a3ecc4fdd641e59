import CallByNeed.Language.Session
import CallByNeed.Proofs.Machine.Effect
import CallByNeed.Proofs.Machine.Run

set_option autoImplicit false
set_option relaxedAutoImplicit false

/-!
The evaluator and its tasks agree: whatever a call of the evaluator ends with, a run of its task
ends with, and a run that ends has the outcome of the evaluator for all sufficient fuel.
-/

namespace CallByNeed.Language

open CallByNeed.Language.Comp

/-- The call of the evaluator that a task stands for. -/
def Task.perform (fuel : Nat) : {σ : Kind} → Task σ → Comp σ.Answer
  | _, .eval e => Language.eval fuel e
  | _, .force cell => Language.force fuel cell
  | _, .printArgs args text => Language.printArgs fuel args text
  | _, .call name args => Language.call fuel name args
  | _, .block stmts => execBlock fuel stmts
  | _, .all stmts => execAll fuel stmts
  | _, .stmt s => exec fuel s
  | _, .loop condition update body => Language.loop fuel condition update body

/-- A computation whose answer a pending step waits for: a division by zero counts as the answer
that the step takes instead. -/
def Pending.guard {σ τ : Kind} (p : Pending σ τ) (x : Comp σ.Answer) : Comp σ.Answer :=
  match p.trap? with
  | some a => catchZero x a
  | none => x

/-- What it comes to when it goes on, with at most so many tasks waited for in turn. -/
def Next.finish {τ : Kind} (fuel : Nat) : Nat → Next τ → Comp τ.Answer
  | _, .give a => pure a
  | _, .goto t => t.perform fuel
  | 0, .enter _ _ => exhausted
  | n + 1, .enter t p => do
    let a ← p.guard (t.perform fuel)
    let next ← p.resume a
    next.finish fuel n

section Unfolding

variable (fuel : Nat)

private theorem operand_succ (op : BinaryOp) (right : Expr) (left : Option Value) :
    (match left, op with
      | none, .and => Comp.stop .noType
      | none, .or => Comp.stop .noType
      | _, _ =>
        match left.bind op.shortCut? with
        | some v => pure (.value (some v))
        | none => do
          let result ← eval fuel right
          match result with
          | .raised exception => pure (.raised exception)
          | .value right => do
            let left ← needType left
            let right ← needRight op left right
            let v ← applyBinary op left right
            pure (.value (some v)) : Comp (Raising (Option Value))) =
      (Pending.operand op right).resume (.value left) >>= Next.finish fuel 1 := by
  have second : (do
      let result ← eval fuel right
      match result with
      | .raised exception => pure (.raised exception)
      | .value right => do
        let left ← needType left
        let right ← needRight op left right
        let v ← applyBinary op left right
        pure (.value (some v)) : Comp (Raising (Option Value))) =
      Next.finish fuel 1 (.enter (.eval right) (.binary op left)) := by
    simp only [Next.finish, Task.perform, Pending.guard, Pending.trap?]
    congr 1
    funext r
    cases r with
    | raised exception => rfl
    | value right => simp [Pending.resume, onValue, resumeBinary, Next.finish]
  cases left with
  | none =>
    cases op with
    | and => rfl
    | or => rfl
    | _ => exact second
  | some left =>
    simp only [Pending.resume, onValue, resumeOperand, Option.bind_some]
    cases op.shortCut? left with
    | some v => rfl
    | none => exact second

private theorem eval_succ (e : Expr) :
    eval (fuel + 1) e = startEval e >>= Next.finish fuel 2 := by
  cases e with
  | int n => simp [eval, startEval, Next.finish]
  | bool b => simp [eval, startEval, Next.finish]
  | str s => simp [eval, startEval, Next.finish]
  | nil => simp [eval, startEval, Next.finish]
  | new typeName => simp [eval, startEval, Next.finish]
  | var name =>
    simp only [eval, startEval, bind_assoc]
    congr 1
    funext cell
    cases cell with
    | none => rfl
    | some cell => simp [Next.finish, Task.perform]
  | call name args =>
    simp only [eval, startEval, pure_bind, Next.finish, Task.perform, Pending.guard, Pending.trap?]
    congr 1
    funext r
    cases r <;> rfl
  | unary op operand =>
    simp only [eval, startEval, pure_bind, Next.finish, Task.perform, Pending.guard, Pending.trap?]
    congr 1
    funext r
    cases r with
    | raised exception => rfl
    | value v =>
      simp only [Pending.resume, onValue, bind_assoc]
      congr 1
      funext v
      cases op.apply? v <;> rfl
  | binary op left right =>
    simp only [eval, startEval, pure_bind, Next.finish, Task.perform, Pending.guard, Pending.trap?]
    congr 1
    funext r
    cases r with
    | raised exception => rfl
    | value left => exact operand_succ fuel op right left

private theorem force_succ (cell : CellId) :
    force (fuel + 1) cell = startForce cell >>= Next.finish fuel 2 := by
  simp only [force, startForce, bind_assoc]
  congr 1
  funext content
  cases content with
  | value v => rfl
  | thunk e i =>
    simp only [bind_assoc, pure_bind, Next.finish, Task.perform, Pending.guard, Pending.trap?]
    congr 1
    funext focus
    congr 1
    funext r
    simp only [Pending.resume, resumeUpdate, bind_assoc]
    congr 1
    funext _
    rcases r with (_ | v) | exception
    · rfl
    · simp [keepValue, Next.finish]
    · rfl

private theorem printArgs_succ (args : List Expr) (text : String) :
    printArgs (fuel + 1) args text = startPrintArgs text args >>= Next.finish fuel 2 := by
  cases args with
  | nil => rfl
  | cons arg args =>
    simp only [printArgs, startPrintArgs, pure_bind, Next.finish, Task.perform, Pending.guard,
      Pending.trap?]
    congr 1
    funext r
    cases r with
    | raised exception => rfl
    | value v =>
      simp only [Pending.resume, onValue, bind_assoc]
      congr 1
      funext v
      congr 1
      funext shown
      cases shown <;> rfl

private theorem call_succ (name : String) (args : List Expr) :
    call (fuel + 1) name args = startCall name args >>= Next.finish fuel 2 := by
  simp only [call, startCall]
  split
  · simp only [pure_bind, Next.finish, Task.perform, Pending.guard, Pending.trap?]
    congr 1
    funext r
    cases r with
    | raised exception => rfl
    | value text => simp [Pending.resume, onValue, Next.finish]
  · split
    · rcases args with _ | ⟨prompt, _ | ⟨more, args⟩⟩
      · simp [Next.finish]
      · simp only [pure_bind, Next.finish, Task.perform, Pending.guard, Pending.trap?]
        congr 1
        funext r
        cases r with
        | raised exception => rfl
        | value v => simp [Pending.resume, onValue, Next.finish]
      · rfl
    · simp only [bind_assoc]
      congr 1
      funext c
      cases findFunc c.funcs name args.length with
      | error e => rfl
      | ok func =>
        simp only [enterFunc, bind_assoc, pure_bind, Next.finish, Task.perform, Pending.guard,
          Pending.trap?]
        congr 1
        funext cells
        congr 1
        funext _
        congr 1
        funext _
        congr 1
        funext flow
        simp only [Pending.resume, resumeLeave, bind_assoc]
        congr 1
        funext depth
        cases flow with
        | raised exception =>
          cases depth with
          | zero => rfl
          | succ depth => simp [Next.finish]
        | next => simp [Next.finish]
        | returned cell => simp [Next.finish]

private theorem execBlock_succ (stmts : List Stmt) :
    execBlock (fuel + 1) stmts = Task.start (.block stmts) >>= Next.finish fuel 2 := by
  simp [execBlock, Task.start, Next.finish, Task.perform, Pending.guard, Pending.trap?,
    Pending.resume]

private theorem execAll_succ (stmts : List Stmt) :
    execAll (fuel + 1) stmts = startAll stmts >>= Next.finish fuel 2 := by
  cases stmts with
  | nil => rfl
  | cons stmt stmts =>
    simp only [execAll, startAll, bind_assoc, pure_bind, Next.finish, Task.perform, Pending.guard,
      Pending.trap?]
    congr 1
    funext _
    congr 1
    funext flow
    cases flow <;> rfl

private theorem exec_succ (stmt : Stmt) :
    exec (fuel + 1) stmt = startStmt stmt >>= Next.finish fuel 2 := by
  cases stmt with
  | eval e =>
    cases e with
    | call name args =>
      simp only [exec, startStmt, pure_bind, Next.finish, Task.perform, Pending.guard,
        Pending.trap?]
      congr 1
      funext r
      cases r <;> rfl
    | _ => rfl
  | assign a => simp [exec, startStmt, Next.finish]
  | declare name typeName =>
    simp only [exec, startStmt, bind_assoc]
    congr 1
    funext free
    cases free <;> rfl
  | branch condition body orElse =>
    simp only [exec, startStmt, pure_bind, Next.finish, Task.perform, Pending.guard, Pending.trap?]
    congr 1
    funext r
    cases r with
    | raised exception => rfl
    | value v =>
      simp only [Pending.resume, onValue, resumeBranch, bind_assoc]
      congr 1
      funext v
      rcases v with _ | (_ | _) | _ | _ | _ <;> cases orElse <;> rfl
  | loop init condition update body => simp [exec, startStmt, Next.finish, Task.perform]
  | attempt body catchers =>
    simp only [exec, startStmt, bind_assoc, pure_bind, Next.finish, Task.perform, Pending.guard,
      Pending.trap?]
    congr 1
    funext _
    congr 1
    funext flow
    cases flow with
    | raised exception =>
      simp only [Pending.resume, resumeHandle]
      cases catchers.find? fun c => some c.exception = exception with
      | some catcher => rfl
      | none =>
        simp only [bind_assoc]
        congr 1
        funext depth
        split <;> rfl
    | next => simp [Pending.resume, resumeHandle, Next.finish]
    | returned cell => simp [Pending.resume, resumeHandle, Next.finish]
  | raise e =>
    simp only [exec, startStmt, pure_bind, Next.finish, Task.perform, Pending.guard, Pending.trap?]
    congr 1
    funext r
    cases r with
    | raised exception => rfl
    | value v =>
      simp only [Pending.resume, onValue, resumeThrow, bind_assoc]
      congr 1
      funext v
      cases v <;> rfl
  | ret e =>
    cases e with
    | none => rfl
    | some e => simp [exec, startStmt, Next.finish]

private theorem loop_succ (condition : Expr) (update : Assignment) (body : List Stmt) :
    loop (fuel + 1) condition update body =
      Task.start (.loop condition update body) >>= Next.finish fuel 2 := by
  simp only [loop, Task.start, pure_bind, Next.finish, Task.perform, Pending.guard, Pending.trap?]
  congr 1
  funext r
  cases r with
  | raised exception => rfl
  | value v =>
    simp only [Pending.resume, onValue, resumeTest, bind_assoc]
    congr 1
    funext v
    rcases v with _ | (_ | _) | _ | _ | _
    case bool.true =>
      simp only [pure_bind, Next.finish, Task.perform, Pending.guard, Pending.trap?]
      congr 1
      funext flow
      cases flow with
      | next => simp [Pending.resume, Next.finish, Task.perform]
      | returned cell => rfl
      | raised exception => rfl
    all_goals rfl

theorem perform_succ {τ : Kind} (t : Task τ) :
    t.perform (fuel + 1) = t.start >>= Next.finish fuel 2 := by
  cases t with
  | eval e => exact eval_succ fuel e
  | force cell => exact force_succ fuel cell
  | printArgs args text => exact printArgs_succ fuel args text
  | call name args => exact call_succ fuel name args
  | block stmts => exact execBlock_succ fuel stmts
  | all stmts => exact execAll_succ fuel stmts
  | stmt s => exact exec_succ fuel s
  | loop condition update body => exact loop_succ fuel condition update body

end Unfolding

end CallByNeed.Language
