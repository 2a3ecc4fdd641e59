import CallByNeed.Proofs.Heap.Discipline

set_option autoImplicit false
set_option relaxedAutoImplicit false

/-!
Programs that create no objects. As long as the inputs given to such a program are not used up,
every expression has a value, no string is missing and every exception has a name. So what can stop
a step is an error of the language, the printing of nil, a division by zero, a failure of the
scopes, or an input or an integer that does not fit.
-/

namespace CallByNeed.Language

variable {ρ σ τ : Kind}

mutual

/-- An expression that creates no object. -/
def Expr.plain : Expr → Bool
  | .new _ => false
  | .call _ args => Expr.allPlain args
  | .unary _ operand => operand.plain
  | .binary _ left right => left.plain && right.plain
  | _ => true

def Expr.allPlain : List Expr → Bool
  | [] => true
  | e :: es => e.plain && Expr.allPlain es

end

mutual

def Stmt.plain : Stmt → Bool
  | .eval e => e.plain
  | .assign a => a.expr.plain
  | .declare _ _ => true
  | .branch condition body none => condition.plain && Stmt.allPlain body
  | .branch condition body (some orElse) =>
    condition.plain && Stmt.allPlain body && Stmt.allPlain orElse
  | .loop init condition update body =>
    init.expr.plain && condition.plain && update.expr.plain && Stmt.allPlain body
  | .attempt body catchers => Stmt.allPlain body && Stmt.catchersPlain catchers
  | .raise e => e.plain
  | .ret none => true
  | .ret (some e) => e.plain

def Stmt.allPlain : List Stmt → Bool
  | [] => true
  | st :: stmts => st.plain && Stmt.allPlain stmts

def Stmt.catchersPlain : List (Catcher Stmt) → Bool
  | [] => true
  | ⟨_, body⟩ :: rest => Stmt.allPlain body && Stmt.catchersPlain rest

end

/-- A program that creates no object. -/
def Program.plain (program : Program) : Bool :=
  program.funcs.all fun func => Stmt.allPlain func.body

private theorem Stmt.allPlain_of_find? {catchers : List (Catcher Stmt)} {test : Catcher Stmt → Bool}
    {catcher : Catcher Stmt} (plain : Stmt.catchersPlain catchers = true)
    (found : catchers.find? test = some catcher) : Stmt.allPlain catcher.body = true := by
  induction catchers with
  | nil => cases found
  | cons first rest ih =>
    rw [Stmt.catchersPlain, Bool.and_eq_true] at plain
    rw [List.find?_cons] at found
    split at found
    · cases found
      exact plain.1
    · exact ih plain.2 found

private theorem mem_of_findFunc {funcs : List Func} {name : String} {arity : Nat} {func : Func}
    (found : findFunc funcs name arity = .ok func) : func ∈ funcs := by
  rw [findFunc] at found
  split at found
  · cases found
  · split at found
    · next chosen =>
      cases found
      have named := List.mem_of_find?_eq_some chosen
      rw [List.mem_reverse] at named
      exact (List.mem_filter.mp named).1
    · cases found

/-- A result that is a value, and not the missing string. -/
def Value.Given (v : Option Value) : Prop :=
  ∃ w, v = some w ∧ w ≠ .missing

/-- A cell with a value other than the missing string, or with an expression that creates no
object. -/
def Cell.Plain : Cell → Prop
  | .value v => v ≠ .missing
  | .thunk e _ => e.plain = true

def State.Plain (s : State) : Prop :=
  ∀ (k : CellId) (content : Cell), s.cells[k]? = some content → content.Plain

def Task.Plain : {σ : Kind} → Task σ → Prop
  | _, .eval e => e.plain = true
  | _, .force _ => True
  | _, .printArgs args _ => Expr.allPlain args = true
  | _, .call _ args => Expr.allPlain args = true
  | _, .block stmts => Stmt.allPlain stmts = true
  | _, .all stmts => Stmt.allPlain stmts = true
  | _, .stmt st => st.plain = true
  | _, .loop condition update body =>
    condition.plain = true ∧ update.expr.plain = true ∧ Stmt.allPlain body = true

def Pending.Plain : {σ τ : Kind} → Pending σ τ → Prop
  | _, _, .operand _ right => right.plain = true
  | _, _, .binary _ left => Value.Given left
  | _, _, .printRest args _ => Expr.allPlain args = true
  | _, _, .rest stmts => Stmt.allPlain stmts = true
  | _, _, .branch body orElse =>
    Stmt.allPlain body = true ∧ ∀ stmts, orElse = some stmts → Stmt.allPlain stmts = true
  | _, _, .test condition change body => (Task.loop condition change body).Plain
  | _, _, .again condition change body => (Task.loop condition change body).Plain
  | _, _, .handle catchers => Stmt.catchersPlain catchers = true
  | _, _, _ => True

/-- An answer that is no missing value, and no exception without a name. -/
def Kind.Plain : (σ : Kind) → σ.Answer → Prop
  | .value, .value v => Value.Given v
  | .value, .raised exception => exception ≠ none
  | .text, .raised exception => exception ≠ none
  | .cell, .raised exception => exception ≠ none
  | .flow, .raised exception => exception ≠ none
  | _, _ => True

def Stack.Plain : {σ : Kind} → Stack ρ σ → Prop
  | _, .nil => True
  | _, .cons p k => p.Plain ∧ k.Plain

def Next.Plain : Next τ → Prop
  | .give a => τ.Plain a
  | .goto t => t.Plain
  | .enter t p => t.Plain ∧ p.Plain

/-- It goes on with what creates no object, in a plain state. -/
def Steady (next : Next τ) (s : State) : Prop :=
  next.Plain ∧ s.Plain

def Task.reads? : {σ : Kind} → Task σ → Option Bool
  | _, .call name [] =>
    if name = "inputi" then some true else if name = "inputs" then some false else none
  | _, _ => none

/-- Whether a pending step reads an input, and then whether it reads an integer. -/
def Pending.reads? : {σ τ : Kind} → Pending σ τ → σ.Answer → Option Bool
  | _, _, .prompt asInteger, .value _ => some asInteger
  | _, _, _, _ => none

def Pending.writes? : {σ τ : Kind} → Pending σ τ → σ.Answer → Option Int
  | _, _, .prompt _, .value (some (.int n)) => some n
  | _, _, .printRest _ _, .value (some (.int n)) => some n
  | _, _, _, _ => none

def Pending.printsNil : {σ τ : Kind} → Pending σ τ → σ.Answer → Bool
  | _, _, .printRest _ _, .value (some .nil) => true
  | _, _, _, _ => false

def Pending.dividesByZero : {σ τ : Kind} → Pending σ τ → σ.Answer → Bool
  | _, _, .binary .div (some (.int _)), .value (some (.int n)) => n = 0
  | _, _, _, _ => false

/-- There is a next input, and it is the text of an integer if one is asked for. -/
def Channels.provides (setup : Setup) (asInteger : Bool) (channels : Channels) : Bool :=
  match channels.read setup with
  | .ok (some text, _) => !asInteger || (Text.readInteger text).isOk
  | _ => false

/-- The given inputs are not used up, and reading the next input, as an integer if one is asked for,
fails in no other ways. -/
def Channels.Feeds (F : Fault → Prop) (setup : Setup) (asInteger : Bool) (channels : Channels) :
    Prop :=
  match channels.read setup with
  | .ok (some text, _) =>
    asInteger = true → ∀ fault, Text.readInteger text = .error fault → F (.integer fault)
  | .ok (none, _) => False
  | .error fault => F fault

theorem Channels.feeds_of_provides {F : Fault → Prop} {setup : Setup} {asInteger : Bool}
    {channels : Channels} (provided : channels.provides setup asInteger = true) :
    channels.Feeds F setup asInteger := by
  unfold provides at provided
  unfold Feeds
  split at provided
  · next text channels' read =>
    rw [read]
    intro integer fault failed
    simp [integer, failed, Except.isOk, Except.toBool] at provided
  · cases provided

section State

variable {s : State}

private theorem State.Plain.push (plain : s.Plain) (content : Cell) (new : content.Plain)
    (s' : State) (cells : s'.cells = s.cells.push content) : s'.Plain := by
  intro k content' hk
  rw [cells, Array.getElem?_push] at hk
  split at hk
  · cases hk
    exact new
  · exact plain k content' hk

private theorem State.Plain.settle (plain : s.Plain) {k : CellId} {v : Value}
    (given : v ≠ .missing) :
    State.Plain { s with cells := s.cells.setIfInBounds k (.value v) } := by
  intro k' content hk
  rw [Array.getElem?_setIfInBounds] at hk
  split at hk
  · split at hk
    · cases hk
      exact given
    · cases hk
  · exact plain k' content hk

theorem State.plain_initial (channels : Channels) : (State.initial channels).Plain := by
  intro k content hk
  rcases k with _ | k
  · cases hk
    exact Value.noConfusion
  · simp [State.initial] at hk

end State

section Values

/-- An outcome of an operator on given values: a value, an error of the language, or a division of
an integer by zero. -/
def BinaryOp.Settles (op : BinaryOp) (a b : Value) (result : Except OperatorFault Value) : Prop :=
  (∃ v, result = .ok v ∧ v ≠ .missing) ∨
    (∃ f e, result = .error f ∧ f.toFault op = .language e) ∨
    (result = .error .divisionByZero ∧ op = .div ∧ b = .int 0 ∧ ∃ n, a = .int n)

private theorem settles_intOp (op : BinaryOp) (a b : Int) :
    op.Settles (.int a) (.int b) (intOp a b op) := by
  cases op with
  | div =>
    rw [intOp]
    split
    · next zero => exact .inr (.inr ⟨rfl, rfl, by rw [zero], a, rfl⟩)
    · exact .inl ⟨_, rfl, Value.noConfusion⟩
  | and => exact .inr (.inl ⟨_, _, rfl, rfl⟩)
  | or => exact .inr (.inl ⟨_, _, rfl, rfl⟩)
  | _ => exact .inl ⟨_, rfl, Value.noConfusion⟩

private theorem BinaryOp.settles_apply (op : BinaryOp) {a b : Value} (given : a ≠ .missing)
    (given' : b ≠ .missing) : op.Settles a b (op.apply a b) := by
  unfold BinaryOp.apply
  split
  · exact .inl ⟨_, rfl, Value.noConfusion⟩
  · exact .inl ⟨_, rfl, Value.noConfusion⟩
  · split
    · exact .inr (.inl ⟨_, _, rfl, rfl⟩)
    · next types =>
      split
      · exact settles_intOp _ _ _
      · exact .inl ⟨_, rfl, Value.noConfusion⟩
      · exact .inl ⟨_, rfl, Value.noConfusion⟩
      · cases b with
        | str text => exact .inl ⟨_, rfl, Value.noConfusion⟩
        | missing => exact absurd rfl given'
        | _ => exact absurd (fun same => by cases same) types
      · exact absurd rfl given
      · exact .inr (.inl ⟨_, _, rfl, rfl⟩)

private theorem UnaryOp.apply?_given {op : UnaryOp} {a v : Value} (h : op.apply? a = some v) :
    v ≠ .missing := by
  cases op <;> cases a <;> cases h <;> exact Value.noConfusion

private theorem BinaryOp.shortCut?_given {op : BinaryOp} {a v : Value}
    (h : op.shortCut? a = some v) :
    v ≠ .missing := by
  unfold BinaryOp.shortCut? at h
  split at h
  · cases h
    exact Value.noConfusion
  · cases h
    exact Value.noConfusion
  · cases h

private theorem Value.printable_given {v : Value} (given : v ≠ .missing) :
    (v = .nil ∧ v.printable = .ok none) ∨
      ((∀ n, v = .int n → n.natAbs < Text.writeBound) ∧ ∃ text, v.printable = .ok (some text)) ∨
      ∃ n fault, v = .int n ∧ Text.writeBound ≤ n.natAbs ∧ v.printable = .error fault := by
  cases v with
  | int n =>
    rw [Value.printable, Text.writeInteger]
    split
    · next bounded => exact .inr (.inl ⟨by rintro _ ⟨⟩; exact bounded, toString n, rfl⟩)
    · next long => exact .inr (.inr ⟨n, _, rfl, Nat.le_of_not_lt long, rfl⟩)
  | bool b => cases b <;> exact .inr (.inl ⟨fun _ => Value.noConfusion, _, rfl⟩)
  | str text => exact .inr (.inl ⟨fun _ => Value.noConfusion, text, rfl⟩)
  | missing => exact absurd rfl given
  | nil => exact .inl ⟨rfl, rfl⟩

end Values

private theorem Channels.Feeds.emit {F : Fault → Prop} {setup : Setup} {asInteger : Bool}
    {channels : Channels} (fed : channels.Feeds F setup asInteger) (output : Array (Option String))
    (printed : String) :
    Channels.Feeds F setup asInteger { channels with output := output, printed := printed } := by
  unfold Feeds read readLine at fed ⊢
  by_cases empty : setup.inputs.isEmpty = true
  · rw [if_pos empty] at fed ⊢
    cases stdin : channels.stdin with
    | nil => simpa only [stdin] using fed
    | cons first rest => simpa only [stdin] using fed
  · rw [if_neg empty] at fed ⊢
    cases next : setup.inputs[channels.cursor]? with
    | none => simp only [next] at fed
    | some line => simpa only [next] using fed

section Ensures

variable {c : Context} {s : State} {F : Fault → Prop} {α : Type} {Q : α → State → Prop}

private theorem ensures_plain_defer (plain : s.Plain) {e : Expr} (plainE : e.plain = true)
    {pick : Scopes → Env} {Q : CellId → State → Prop} (h : ∀ k s', s'.Plain → Q k s') :
    (Comp.defer e pick).Ensures c s F Q :=
  h _ _ (plain.push (.thunk e _) plainE _ rfl)

private theorem ensures_plain_deferAll {args : List Expr} (plain : s.Plain)
    (plainA : Expr.allPlain args = true) {Q : List CellId → State → Prop}
    (h : ∀ cells s', s'.Plain → Q cells s') :
    (args.mapM fun arg => Comp.defer arg Scopes.current).Ensures c s F Q := by
  induction args generalizing s Q with
  | nil => exact h [] s plain
  | cons arg args ih =>
    rw [Expr.allPlain, Bool.and_eq_true] at plainA
    rw [List.mapM_cons, Comp.ensures_bind]
    refine ensures_plain_defer plain plainA.1 fun k s₁ plain₁ => ?_
    rw [Comp.ensures_bind]
    exact ih plain₁ plainA.2 fun cells s₂ plain₂ => h (k :: cells) s₂ plain₂

private theorem ensures_plain_readValue {asInteger : Bool} (plain : s.Plain)
    (fed : s.channels.Feeds F c.setup asInteger) {Q : CellId → State → Prop}
    (h : ∀ k s', s'.Plain → Q k s') : (readValue asInteger).Ensures c s F Q := by
  unfold Channels.Feeds at fed
  split at fed
  · next text channels read =>
    have line : Comp.readInput c s = .ok (some text) { s with channels := channels } := by
      rw [Comp.readInput, read]
    rw [readValue, Comp.ensures_bind, Comp.ensures_of_apply line]
    cases asInteger with
    | false => exact h _ _ (plain.push (.value (.str text)) Value.noConfusion _ rfl)
    | true =>
      cases integer : Text.readInteger text with
      | error fault =>
        rw [if_pos rfl, Comp.ensures_bind, readInteger, integer]
        exact fed rfl fault integer
      | ok n =>
        rw [if_pos rfl, Comp.ensures_bind, readInteger, integer]
        exact h _ _ (plain.push (.value (.int n)) Value.noConfusion _ rfl)
  · exact fed.elim
  · next fault read =>
    have line : Comp.readInput c s = .stop fault s := by rw [Comp.readInput, read]
    rw [readValue, Comp.ensures_bind]
    unfold Comp.Ensures
    rw [line]
    exact fed

private theorem ensures_plain_printable {v : Value} (given : v ≠ .missing)
    (short : ∀ n, v = .int n → n.natAbs < Text.writeBound ∨ ∀ fault, F (.integer fault))
    {Q : Option String → State → Prop} (nil : v = .nil → Q none s)
    (text : ∀ shown, (∀ n, v = .int n → n.natAbs < Text.writeBound) → Q (some shown) s) :
    (Comp.printable v).Ensures c s F Q := by
  rw [Comp.printable]
  rcases v.printable_given given with ⟨isNil, none⟩ | ⟨bounded, shown, some⟩ |
    ⟨n, fault, isInt, long, error⟩
  · rw [none]
    exact nil isNil
  · rw [some]
    exact text shown bounded
  · rw [error]
    rcases short n isInt with bounded | allowed
    · exact absurd bounded (Nat.not_lt.mpr long)
    · exact allowed fault

section Scopes

variable (scope : ∀ failure, F (.scope failure))

include scope

private theorem ensures_plain_onScopes {f : Scopes → Scopes.Result α} (plain : s.Plain)
    (h : ∀ a s', s'.Plain → Q a s') : (Comp.onScopes f).Ensures c s F Q := by
  unfold Comp.Ensures
  rw [Comp.onScopes_apply]
  rcases f s.scopes with ⟨failure | a, u⟩
  · exact scope failure
  · exact h a _ plain

private theorem ensures_plain_createAll {block : Block} (plain : s.Plain) {Q : Unit → State → Prop}
    (h : ∀ s', s'.Plain → Q () s') : (createAll block).Ensures c s F Q := by
  induction block generalizing s with
  | nil => exact h s plain
  | cons entry rest ih =>
    rw [createAll, Comp.ensures_bind]
    exact ensures_plain_onScopes scope plain fun _ s₁ plain₁ => ih plain₁

section Language

variable (language : ∀ e, F (.language e))

include language

private theorem ensures_plain_assign {a : Assignment} (plain : s.Plain)
    (plainA : a.expr.plain = true) {Q : Flow → State → Prop} (h : ∀ s', s'.Plain → Q .next s') :
    (assign a).Ensures c s F Q := by
  rw [assign, Comp.ensures_bind]
  refine ensures_plain_defer plain plainA fun k s₁ plain₁ => ?_
  rw [Comp.ensures_bind]
  refine ensures_plain_onScopes scope plain₁ fun bound s₂ plain₂ => ?_
  split
  · exact h s₂ plain₂
  · exact language _

private theorem steady_startEval {e : Expr} (plain : s.Plain) (plainE : e.plain = true) :
    (startEval e).Ensures c s F Steady := by
  cases e with
  | var name =>
    rw [startEval, Comp.ensures_bind]
    refine ensures_plain_onScopes scope plain fun cell s₁ plain₁ => ?_
    cases cell with
    | none => exact language _
    | some cell => exact ⟨trivial, plain₁⟩
  | call name args =>
    rw [Expr.plain] at plainE
    exact ⟨⟨plainE, trivial⟩, plain⟩
  | unary op operand =>
    rw [Expr.plain] at plainE
    exact ⟨⟨plainE, trivial⟩, plain⟩
  | binary op left right =>
    rw [Expr.plain, Bool.and_eq_true] at plainE
    exact ⟨⟨plainE.1, plainE.2⟩, plain⟩
  | new typeName => simp [Expr.plain] at plainE
  | _ => exact ⟨⟨_, rfl, Value.noConfusion⟩, plain⟩

private theorem steady_startCall {name : String} {args : List Expr} (plain : s.Plain)
    (funcs : ∀ func ∈ c.funcs, Stmt.allPlain func.body = true)
    (plainA : Expr.allPlain args = true)
    (fed : ∀ asInteger, (Task.call name args).reads? = some asInteger →
      s.channels.Feeds F c.setup asInteger) :
    (startCall name args).Ensures c s F Steady := by
  unfold startCall
  split
  · exact ⟨⟨plainA, trivial⟩, plain⟩
  · split
    · next input =>
      match args with
      | [] =>
        rw [Comp.ensures_bind]
        refine ensures_plain_readValue plain (fed _ ?_) fun k s₁ plain₁ => ⟨trivial, plain₁⟩
        rcases input with rfl | rfl <;> rfl
      | [prompt] =>
        rw [Expr.allPlain, Bool.and_eq_true] at plainA
        exact ⟨⟨plainA.1, trivial⟩, plain⟩
      | _ :: _ :: _ => exact language _
    · rw [Comp.ensures_bind, Comp.ensures_context]
      cases found : findFunc c.funcs name args.length with
      | error e => exact language e
      | ok func =>
        dsimp only
        rw [enterFunc, Comp.ensures_bind]
        refine ensures_plain_deferAll plain plainA fun cells s₁ plain₁ => ?_
        rw [Comp.ensures_bind, Comp.ensures_modify, Comp.ensures_bind]
        have plain₁ : State.Plain { s₁ with scopes := s₁.scopes.pushFrame } := plain₁
        refine ensures_plain_createAll scope plain₁ fun s₂ plain₂ => ?_
        exact ⟨⟨funcs func (mem_of_findFunc found), trivial⟩, plain₂⟩

private theorem steady_startStmt {st : Stmt} (plain : s.Plain) (plainS : st.plain = true) :
    (startStmt st).Ensures c s F Steady := by
  cases st with
  | eval e =>
    cases e with
    | call name args =>
      rw [Stmt.plain, Expr.plain] at plainS
      exact ⟨⟨plainS, trivial⟩, plain⟩
    | _ => exact ⟨trivial, plain⟩
  | assign a =>
    rw [Stmt.plain] at plainS
    rw [startStmt, Comp.ensures_bind]
    exact ensures_plain_assign scope language plain plainS fun s₁ plain₁ => ⟨trivial, plain₁⟩
  | declare name typeName =>
    rw [startStmt, Comp.ensures_bind]
    refine ensures_plain_onScopes scope plain fun free s₁ plain₁ => ?_
    split
    · exact ⟨trivial, plain₁⟩
    · exact language _
  | ret value =>
    cases value with
    | none => exact ⟨trivial, plain⟩
    | some e =>
      rw [Stmt.plain] at plainS
      rw [startStmt, Comp.ensures_bind]
      exact ensures_plain_defer plain plainS fun k s₁ plain₁ => ⟨trivial, plain₁⟩
  | branch condition body orElse =>
    cases orElse with
    | none =>
      simp only [Stmt.plain, Bool.and_eq_true] at plainS
      exact ⟨⟨plainS.1, plainS.2, by simp⟩, plain⟩
    | some orElse =>
      simp only [Stmt.plain, Bool.and_eq_true] at plainS
      refine ⟨⟨plainS.1.1, plainS.1.2, fun stmts same => ?_⟩, plain⟩
      cases same
      exact plainS.2
  | loop init condition change body =>
    simp only [Stmt.plain, Bool.and_eq_true] at plainS
    obtain ⟨⟨⟨plainI, plainC⟩, plainU⟩, plainB⟩ := plainS
    rw [startStmt, Comp.ensures_bind]
    refine ensures_plain_assign scope language plain plainI fun s₁ plain₁ => ?_
    exact ⟨⟨plainC, plainU, plainB⟩, plain₁⟩
  | attempt body catchers =>
    rw [Stmt.plain, Bool.and_eq_true] at plainS
    exact ⟨plainS, plain⟩
  | raise e =>
    rw [Stmt.plain] at plainS
    exact ⟨⟨plainS, trivial⟩, plain⟩

theorem steady_start {t : Task σ} (plain : s.Plain)
    (funcs : ∀ func ∈ c.funcs, Stmt.allPlain func.body = true) (plainT : t.Plain)
    (fed : ∀ asInteger, t.reads? = some asInteger → s.channels.Feeds F c.setup asInteger) :
    t.start.Ensures c s F Steady := by
  cases t with
  | eval e => exact steady_startEval scope language plain plainT
  | force cell =>
    rw [Task.start, startForce, Comp.ensures_bind, Comp.ensures_step]
    cases content : s.cells[cell]? with
    | none => exact ⟨⟨_, rfl, Value.noConfusion⟩, plain⟩
    | some content' =>
      have plainC := plain cell content' content
      cases content' with
      | value v => exact ⟨⟨v, rfl, plainC⟩, plain⟩
      | thunk e i => exact ⟨⟨plainC, trivial⟩, plain⟩
  | printArgs args text =>
    cases args with
    | nil => exact ⟨trivial, plain⟩
    | cons arg args => exact ⟨Bool.and_eq_true_iff.mp plainT, plain⟩
  | call name args => exact steady_startCall scope language plain funcs plainT fed
  | block stmts =>
    rw [Task.start, Comp.ensures_bind]
    exact ensures_plain_onScopes scope plain fun _ s₁ plain₁ => ⟨⟨plainT, trivial⟩, plain₁⟩
  | all stmts =>
    cases stmts with
    | nil => exact ⟨trivial, plain⟩
    | cons st stmts =>
      rw [Task.start, startAll, Comp.ensures_bind]
      exact ensures_traceStmt fun printed => ⟨Bool.and_eq_true_iff.mp plainT, plain⟩
  | stmt st => exact steady_startStmt scope language plain plainT
  | loop condition change body => exact ⟨⟨plainT.1, plainT⟩, plain⟩

omit scope language in
private theorem steady_resumeOperand {op : BinaryOp} {right : Expr} {left : Option Value}
    (plain : s.Plain) (plainR : right.plain = true) (given : Value.Given left) :
    (resumeOperand op right left).Ensures c s F Steady := by
  obtain ⟨v, rfl, given⟩ := given
  unfold resumeOperand
  split
  · next impossible => cases impossible
  · next impossible => cases impossible
  · split
    · next v' decided => exact ⟨⟨v', rfl, BinaryOp.shortCut?_given decided⟩, plain⟩
    · exact ⟨⟨plainR, v, rfl, given⟩, plain⟩

omit scope in
private theorem steady_resumeBinary {op : BinaryOp} {left right : Option Value} (plain : s.Plain)
    (given : Value.Given left) (given' : Value.Given right)
    (zero : (Pending.binary op left).dividesByZero (.value right) = true → F .divisionByZero) :
    (resumeBinary op left right).Ensures c s F Steady := by
  obtain ⟨a, rfl, given⟩ := given
  obtain ⟨b, rfl, given'⟩ := given'
  simp only [resumeBinary, needType, needRight, Comp.ensures_bind, Comp.ensures_pure]
  rw [applyBinary]
  rcases op.settles_apply given given' with ⟨v, applied, givenV⟩ | ⟨f, e, applied, error⟩ |
    ⟨applied, rfl, rfl, n, rfl⟩
  · rw [applied]
    exact ⟨⟨v, rfl, givenV⟩, plain⟩
  · rw [applied]
    change F (f.toFault op)
    rw [error]
    exact language e
  · rw [applied]
    exact zero rfl

private theorem steady_resumeLeave {flow : Flow} (plain : s.Plain) (plainF : Kind.flow.Plain flow) :
    (resumeLeave flow).Ensures c s F Steady := by
  unfold resumeLeave
  rw [Comp.ensures_bind, Comp.ensures_step]
  split
  · exact language _
  · rw [Comp.ensures_bind]
    refine ensures_plain_onScopes scope plain fun _ s₁ plain₁ => ?_
    split
    · exact ⟨plainF, plain₁⟩
    · exact ⟨trivial, plain₁⟩
    · exact ⟨trivial, plain₁⟩

omit scope in
private theorem steady_resumeHandle {catchers : List (Catcher Stmt)} {flow : Flow}
    (plain : s.Plain) (plainC : Stmt.catchersPlain catchers = true)
    (plainF : Kind.flow.Plain flow) : (resumeHandle catchers flow).Ensures c s F Steady := by
  unfold resumeHandle
  split
  · split
    · next catcher found => exact ⟨Stmt.allPlain_of_find? plainC found, plain⟩
    · rw [Comp.ensures_bind, leaveTry, Comp.ensures_step]
      split
      · exact language _
      · exact ⟨plainF, plain⟩
  · exact ⟨plainF, plain⟩

omit scope language in
private theorem steady_onValue {f : Option Value → Comp (Next τ)} {g : Option String → τ.Answer}
    {r : Raising (Option Value)} (plain : s.Plain) (plainR : Kind.value.Plain r)
    (passes : ∀ exception, exception ≠ none → τ.Plain (g exception))
    (value : ∀ v, v ≠ .missing → r = .value (some v) → (f (some v)).Ensures c s F Steady) :
    (onValue f g r).Ensures c s F Steady := by
  cases r with
  | raised exception => exact ⟨passes exception plainR, plain⟩
  | value v =>
    obtain ⟨w, rfl, given⟩ := plainR
    exact value w given rfl

omit scope language in
private theorem steady_askAfter {asInteger : Bool} {text : Option String} (plain : s.Plain)
    (fed : s.channels.Feeds F c.setup asInteger) :
    Comp.Ensures (α := Next .cell) (do
      Comp.emit text
      let cell ← readValue asInteger
      pure (.give (.value cell))) c s F Steady := by
  rw [Comp.ensures_bind]
  refine ensures_emit fun output printed => ?_
  have plain' : State.Plain { s with
      channels := { s.channels with output := output, printed := printed } } := plain
  rw [Comp.ensures_bind]
  exact ensures_plain_readValue plain' (fed.emit output printed) fun k s₁ plain₁ =>
    ⟨trivial, plain₁⟩

omit scope in
private theorem steady_resumeBranch {body : List Stmt} {orElse : Option (List Stmt)} {v : Value}
    (plain : s.Plain) (plainP : (Pending.branch body orElse).Plain) :
    (resumeBranch body orElse (some v)).Ensures c s F Steady := by
  simp only [resumeBranch, needType, Comp.ensures_bind, Comp.ensures_pure]
  split
  · exact ⟨plainP.1, plain⟩
  · exact ⟨plainP.2 _ rfl, plain⟩
  · exact ⟨trivial, plain⟩
  · exact language _

omit scope in
private theorem steady_resumeTest {condition : Expr} {change : Assignment} {body : List Stmt}
    {v : Value} (plain : s.Plain) (plainP : (Task.loop condition change body).Plain) :
    (resumeTest condition change body (some v)).Ensures c s F Steady := by
  simp only [resumeTest, needType, Comp.ensures_bind, Comp.ensures_pure]
  split
  · exact ⟨trivial, plain⟩
  · exact ⟨⟨plainP.2.2, plainP⟩, plain⟩
  · exact language _

omit scope in
private theorem steady_resumeThrow {v : Value} (plain : s.Plain) (given : v ≠ .missing) :
    (resumeThrow (some v)).Ensures c s F Steady := by
  simp only [resumeThrow, needType, Comp.ensures_bind, Comp.ensures_pure]
  split
  · exact ⟨Option.some_ne_none _, plain⟩
  · exact absurd rfl given
  · exact language _

theorem steady_resume {p : Pending σ τ} {a : σ.Answer} (plain : s.Plain) (plainP : p.Plain)
    (plainA : σ.Plain a)
    (fed : ∀ asInteger, p.reads? a = some asInteger →
      (∀ n, p.writes? a = some n → n.natAbs < Text.writeBound) →
      s.channels.Feeds F c.setup asInteger)
    (short : ∀ n, p.writes? a = some n →
      n.natAbs < Text.writeBound ∨ ∀ fault, F (.integer fault))
    (nil : p.printsNil a = true → F .noText)
    (zero : p.dividesByZero a = true → F .divisionByZero) :
    (p.resume a).Ensures c s F Steady := by
  cases p with
  | forceResult =>
    refine ensures_onValue (fun _ same => ⟨by cases same; exact plainA, plain⟩) fun k _ => ?_
    exact ⟨trivial, plain⟩
  | unary op =>
    refine steady_onValue plain plainA (fun _ => id) fun v given _ => ?_
    simp only [needType, Comp.ensures_bind, Comp.ensures_pure]
    split
    · next v applied => exact ⟨⟨v, rfl, UnaryOp.apply?_given applied⟩, plain⟩
    · exact language _
  | operand op right =>
    refine steady_onValue plain plainA (fun _ => id) fun v given _ => ?_
    exact steady_resumeOperand plain plainP ⟨v, rfl, given⟩
  | binary op left =>
    refine steady_onValue plain plainA (fun _ => id) fun v given same => ?_
    subst same
    exact steady_resumeBinary language plain plainP plainA zero
  | update cell focus =>
    simp only [Pending.resume, resumeUpdate, Comp.ensures_bind, Comp.ensures_modify]
    cases a with
    | raised exception => exact ⟨plainA, plain⟩
    | value v =>
      obtain ⟨w, rfl, given⟩ := plainA
      exact ⟨⟨w, rfl, given⟩, plain.settle given⟩
  | printRest args text =>
    refine steady_onValue plain plainA (fun _ => id) fun v given same => ?_
    subst same
    simp only [needType, Comp.ensures_bind, Comp.ensures_pure]
    refine ensures_plain_printable given (fun n integer => short n (by rw [integer]; rfl)) ?_ ?_
    · intro isNil
      exact nil (by rw [isNil]; rfl)
    · intro shown _
      exact ⟨plainP, plain⟩
  | emit =>
    refine ensures_onValue (fun _ same => ⟨by cases same; exact plainA, plain⟩) fun text _ => ?_
    rw [Comp.ensures_bind]
    exact ensures_emit fun output printed => ⟨trivial, plain⟩
  | prompt asInteger =>
    refine steady_onValue plain plainA (fun _ => id) fun v given same => ?_
    subst same
    have asked : (∀ n, v = .int n → n.natAbs < Text.writeBound) →
        s.channels.Feeds F c.setup asInteger := by
      intro bounded
      refine fed asInteger rfl fun n writes => ?_
      cases v with
      | int m =>
        cases writes
        exact bounded n rfl
      | _ => cases writes
    simp only [needType]
    rw [Comp.ensures_bind, Comp.ensures_pure, Comp.ensures_bind]
    refine ensures_plain_printable given (fun n integer => short n (by rw [integer]; rfl)) ?_ ?_
    · intro isNil
      exact steady_askAfter plain (asked fun n isInt => by cases isNil.symm.trans isInt)
    · intro shown bounded
      exact steady_askAfter plain (asked bounded)
  | leave => exact steady_resumeLeave scope language plain plainA
  | close =>
    rw [Pending.resume, Comp.ensures_bind]
    exact ensures_plain_onScopes scope plain fun _ s₁ plain₁ => ⟨plainA, plain₁⟩
  | rest stmts =>
    cases a with
    | next => exact ⟨plainP, plain⟩
    | _ => exact ⟨plainA, plain⟩
  | discard =>
    refine ensures_onValue (fun _ same => ⟨by cases same; exact plainA, plain⟩) fun k _ => ?_
    exact ⟨trivial, plain⟩
  | branch body orElse =>
    refine steady_onValue plain plainA (fun _ => id) fun v _ _ => ?_
    exact steady_resumeBranch language plain plainP
  | test condition change body =>
    refine steady_onValue plain plainA (fun _ => id) fun v _ _ => ?_
    exact steady_resumeTest language plain plainP
  | again condition change body =>
    cases a with
    | next =>
      rw [Pending.resume]
      dsimp only
      rw [Comp.ensures_bind]
      exact ensures_plain_assign scope language plain plainP.2.1 fun s₁ plain₁ => ⟨plainP, plain₁⟩
    | _ => exact ⟨plainA, plain⟩
  | handle catchers => exact steady_resumeHandle language plain plainP plainA
  | throw =>
    refine steady_onValue plain plainA (fun _ => id) fun v given _ => ?_
    exact steady_resumeThrow language plain given

end Language

end Scopes

end Ensures

end CallByNeed.Language
