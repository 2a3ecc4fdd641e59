import CallByNeed.Proofs.Comp
import CallByNeed.Proofs.Heap.Sound
import CallByNeed.Proofs.Machine.Run

set_option autoImplicit false
set_option relaxedAutoImplicit false

/-!
What one step does. Starting a task and going on from a pending step never run out of fuel. They
lead to at most two tasks that are waited for in turn, and only a `try` statement waits for the end
of a `try` body, which is a block. They add cells and change the environments in use. Everything
else is left to few of them: only assignments, calls and returns defer an expression, only forcing a
cell moves the focus and replaces an expression by its value, only the built-in functions read and
write, and only `try` statements count. None of them reads the standard input if inputs are given.
-/

namespace CallByNeed.Language

variable {α β : Type} {σ τ : Kind}

section Shape

/-- How many tasks may be waited for in turn before a pending step is settled. -/
@[simp]
def Pending.depth : {σ τ : Kind} → Pending σ τ → Nat
  | _, _, .operand _ _ => 2
  | _, _, .test _ _ _ => 2
  | _, _, _ => 1

@[simp]
def Next.depth : Next τ → Nat
  | .give _ => 0
  | .goto _ => 0
  | .enter _ p => p.depth

/-- How many `try` bodies a pending step waits for the end of. -/
@[simp]
def Pending.tries : {σ τ : Kind} → Pending σ τ → Nat
  | _, _, .handle _ => 1
  | _, _, _ => 0

@[simp]
def Next.tries : Next τ → Nat
  | .give _ => 0
  | .goto _ => 0
  | .enter _ p => p.tries

/-- How many `try` bodies a task enters when it starts. -/
@[simp]
def Task.tries : {σ : Kind} → Task σ → Nat
  | _, .stmt (.attempt _ _) => 1
  | _, _ => 0

@[simp]
def Pending.busy : {σ τ : Kind} → Pending σ τ → List CellId
  | _, _, .update cell _ => [cell]
  | _, _, _ => []

@[simp]
def Next.busy : Next τ → List CellId
  | .give _ => []
  | .goto _ => []
  | .enter _ p => p.busy

@[simp]
def Task.IsBlock : {σ : Kind} → Task σ → Prop
  | _, .block _ => True
  | _, _ => False

@[simp]
def Task.IsForce : {σ : Kind} → Task σ → Prop
  | _, .force _ => True
  | _, _ => False

/-- A `try` body that is entered is a block. -/
@[simp]
def Next.TriesBlock : Next τ → Prop
  | .enter t p => p.tries = 1 → t.IsBlock
  | _ => True

@[simp]
def Task.Leads (t : Task σ) (next : Next σ) : Prop :=
  next.depth ≤ 2 ∧ next.tries = t.tries ∧ next.TriesBlock ∧ (¬ t.IsForce → next.busy = [])

/-- What may follow a pending step for so many tasks. -/
@[simp]
def Follows (n : Nat) (next : Next τ) : Prop :=
  next.depth < n ∧ next.tries = 0 ∧ next.TriesBlock ∧ next.busy = []

end Shape

section Effects

/-- A task that reads input or writes output, apart from a trace of statements. -/
@[simp]
def Task.Talks : {σ : Kind} → Task σ → Prop
  | _, .call name _ => name = "print" ∨ name = "inputi" ∨ name = "inputs"
  | _, _ => False

@[simp]
def Pending.Talks : {σ τ : Kind} → Pending σ τ → Prop
  | _, _, .emit => True
  | _, _, .prompt _ => True
  | _, _, _ => False

@[simp]
def Task.Defers : {σ : Kind} → Task σ → Prop
  | _, .call name _ => ¬ (name = "print" ∨ name = "inputi" ∨ name = "inputs")
  | _, .stmt (.assign _) => True
  | _, .stmt (.loop _ _ _ _) => True
  | _, .stmt (.ret (some _)) => True
  | _, _ => False

@[simp]
def Pending.Defers : {σ τ : Kind} → Pending σ τ → Prop
  | _, _, .again _ _ _ => True
  | _, _, _ => False

/-- Which effects there may be: new deferred expressions, effects on the focus and on old cells, on
input and output, and on the count of `try` bodies. -/
structure Effects where
  defers : Prop
  forces : Prop
  talks : Prop
  counts : Prop

@[simp]
def Task.effects (t : Task σ) : Effects :=
  ⟨t.Defers, t.IsForce, t.Talks, t.tries = 1⟩

@[simp]
def Pending.effects (p : Pending σ τ) : Effects :=
  ⟨p.Defers, p.busy ≠ [], p.Talks, p.tries = 1⟩

/-- Nothing is read and nothing is written, except for a trace of statements. -/
structure Channels.Unused (trace : Bool) (a b : Channels) : Prop where
  cursor : b.cursor = a.cursor
  stdin : b.stdin = a.stdin
  output : b.output = a.output
  printed : trace = false → b.printed = a.printed

/-- The state has changed by no other effects. -/
structure Changes (E : Effects) (c : Context) (s s' : State) : Prop where
  thunks : ¬ E.defers → ∀ (k : CellId) (e : Expr) (i : Nat), s'.cells[k]? = some (.thunk e i) →
    s.cells[k]? = some (.thunk e i)
  heap : ¬ E.forces → s.heap.Adds s'.heap
  channels : ¬ E.talks → s.channels.Unused c.setup.trace s'.channels
  count : ¬ E.counts → s'.tryDepth = s.tryDepth
  size : s.cells.size ≤ s'.cells.size
  stdin : c.setup.inputs.isEmpty = false → s'.channels.stdin = s.channels.stdin

variable {E : Effects} {c : Context} {s s' s'' : State}

theorem Channels.Unused.refl (trace : Bool) (a : Channels) : a.Unused trace a :=
  ⟨rfl, rfl, rfl, fun _ => rfl⟩

theorem Channels.Unused.trans {trace : Bool} {a b d : Channels} (first : a.Unused trace b)
    (second : b.Unused trace d) : a.Unused trace d :=
  ⟨second.cursor.trans first.cursor, second.stdin.trans first.stdin,
    second.output.trans first.output, fun h => (second.printed h).trans (first.printed h)⟩

theorem Channels.stdin_of_read {setup : Setup} {a b : Channels} {line : Option String}
    (read : a.read setup = .ok (line, b)) (given : setup.inputs.isEmpty = false) :
    b.stdin = a.stdin := by
  simp only [Channels.read, given, Bool.false_eq_true, if_false] at read
  split at read
  · cases read
    rfl
  · cases read
    rfl

theorem Changes.refl (E : Effects) (c : Context) (s : State) : Changes E c s s :=
  ⟨fun _ _ _ _ hk => hk, fun _ => .refl _, fun _ => .refl _ _, fun _ => rfl, Nat.le_refl _,
    fun _ => rfl⟩

private theorem Changes.trans (first : Changes E c s s') (second : Changes E c s' s'') :
    Changes E c s s'' :=
  ⟨fun h k e i hk => first.thunks h k e i (second.thunks h k e i hk),
    fun h => (first.heap h).trans (second.heap h),
    fun h => (first.channels h).trans (second.channels h),
    fun h => (second.count h).trans (first.count h), Nat.le_trans first.size second.size,
    fun h => (second.stdin h).trans (first.stdin h)⟩

private theorem Changes.of_uses {scopes : Scopes} (uses : s.scopes.Uses scopes) :
    Changes E c s { s with scopes := scopes } :=
  { Changes.refl E c s with heap := fun _ => ⟨fun _ _ hk => hk, uses⟩ }

private theorem getElem?_push_of_some {cells : Array Cell} {k : CellId} {content new : Cell}
    (hk : cells[k]? = some content) : (cells.push new)[k]? = some content := by
  obtain ⟨bound, _⟩ := Array.getElem?_eq_some_iff.mp hk
  rw [Array.getElem?_push_lt bound, ← hk, Array.getElem?_eq_getElem bound]

private theorem Changes.of_push_thunk (defers : E.defers) (content : Cell) {scopes : Scopes}
    (uses : s.scopes.Uses scopes) :
    Changes E c s { s with cells := s.cells.push content, scopes := scopes } :=
  { Changes.refl E c s with
    thunks := fun none => absurd defers none
    heap := fun _ => ⟨fun _ _ hk => getElem?_push_of_some hk, uses⟩
    size := by simp }

private theorem Changes.of_push_value (v : Value) :
    Changes E c s { s with cells := s.cells.push (.value v) } := by
  refine { Changes.refl E c s with
    thunks := fun _ k e i hk => ?_, heap := fun _ => ?_, size := by simp }
  · rw [Array.getElem?_push] at hk
    split at hk
    · simp at hk
    · exact hk
  · exact ⟨fun _ _ hk => getElem?_push_of_some hk, .refl _⟩

private theorem Changes.of_refocus (forces : E.forces) (focus : Option Nat) :
    Changes E c s { s with scopes := { s.scopes with focus := focus } } :=
  { Changes.refl E c s with heap := fun none => absurd forces none }

private theorem Changes.of_settle (forces : E.forces) (k : CellId) (v : Value) :
    Changes E c s { s with cells := s.cells.setIfInBounds k (.value v) } := by
  refine { Changes.refl E c s with
    thunks := fun _ j e i hj => ?_, heap := fun none => absurd forces none, size := by simp }
  rw [Array.getElem?_setIfInBounds] at hj
  split at hj
  · split at hj
    · simp at hj
    · simp at hj
  · exact hj

private theorem Changes.of_talks (talks : E.talks) {channels : Channels}
    (stdin : c.setup.inputs.isEmpty = false → channels.stdin = s.channels.stdin) :
    Changes E c s { s with channels := channels } :=
  { Changes.refl E c s with channels := fun none => absurd talks none, stdin := stdin }

private theorem Changes.of_counts (counts : E.counts) (depth : Nat) :
    Changes E c s { s with tryDepth := depth } :=
  { Changes.refl E c s with count := fun none => absurd counts none }

end Effects

namespace Comp

/-- A computation does not run out of fuel, a result of it has a property, and it has no other
effects, also when it stops. -/
def Does (x : Comp α) (E : Effects) (Q : α → Prop) : Prop :=
  ∀ c s, match x c s with
    | .ok a s' => Q a ∧ Changes E c s s'
    | .stop _ s' => Changes E c s s'
    | .outOfFuel => False

variable {E : Effects} {Q : α → Prop}

theorem Does.mono {x : Comp α} {Q' : α → Prop} (h : Does x E Q) (hQ : ∀ a, Q a → Q' a) :
    Does x E Q' := by
  intro c s
  have done := h c s
  cases hs : x c s with
  | ok a s' =>
    simp only [hs] at done
    exact ⟨hQ a done.1, done.2⟩
  | stop f s' => simpa only [hs] using done
  | outOfFuel => simp [hs] at done

theorem does_pure {a : α} (h : Q a) : Does (pure a) E Q :=
  fun c s => ⟨h, .refl E c s⟩

private theorem does_stop (f : Fault) : Does (stop f) E Q :=
  fun c s => .refl E c s

theorem does_fail (e : LanguageError) : Does (fail e) E Q :=
  does_stop _

theorem does_context : Does context E fun _ => True :=
  fun c s => ⟨trivial, .refl E c s⟩

theorem does_bind {Q : β → Prop} {x : Comp α} {f : α → Comp β} (hx : Does x E fun _ => True)
    (hf : ∀ a, Does (f a) E Q) : Does (x >>= f) E Q := by
  intro c s
  have first := hx c s
  rw [bind_apply]
  cases hs : x c s with
  | ok a s' =>
    have second := hf a c s'
    simp only [hs] at first ⊢
    cases hs' : f a c s' with
    | ok b s'' =>
      simp only [hs'] at second ⊢
      exact ⟨second.1, first.2.trans second.2⟩
    | stop f s'' =>
      simp only [hs'] at second ⊢
      exact first.2.trans second
    | outOfFuel => simp [hs'] at second
  | stop f s' => simpa [hs] using first
  | outOfFuel => simp [hs] at first

theorem does_step {f : State → α × State} (h : ∀ c s, Changes E c s (f s).2) :
    Does (step f) E fun _ => True :=
  fun c s => ⟨trivial, h c s⟩

private theorem does_modify {f : State → State} (h : ∀ c s, Changes E c s (f s)) :
    Does (modify f) E fun _ => True :=
  fun c s => ⟨trivial, h c s⟩

private theorem does_mapM {f : α → Comp β} (hf : ∀ a, Does (f a) E fun _ => True) (as : List α) :
    Does (as.mapM f) E fun _ => True := by
  induction as with
  | nil => exact does_pure trivial
  | cons a as ih =>
    rw [List.mapM_cons]
    exact does_bind (hf a) fun _ => does_bind ih fun _ => does_pure trivial

theorem does_onScopes {f : Scopes → Scopes.Result α} (h : ∀ u : Scopes, u.Uses (f u).2) :
    Does (onScopes f) E fun _ => True := by
  intro c s
  have uses := h s.scopes
  rw [onScopes_apply]
  rcases hf : f s.scopes with ⟨_ | a, u⟩
  · rw [hf] at uses
    exact .of_uses uses
  · rw [hf] at uses
    exact ⟨trivial, .of_uses uses⟩

private theorem does_defer (defers : E.defers) (e : Expr) (pick : Scopes → Env) :
    Does (defer e pick) E fun _ => True :=
  does_step fun _ _ => .of_push_thunk defers _ (Scopes.extends_snapshot _).uses

private theorem does_newCell (v : Value) : Does (newCell (.value v)) E fun _ => True :=
  does_step fun _ _ => .of_push_value v

private theorem does_emit (talks : E.talks) (text : Option String) :
    Does (emit text) E fun _ => True := by
  refine does_bind does_context fun c => ?_
  split
  · exact does_bind (does_modify fun _ _ => .of_talks talks fun _ => rfl) fun _ =>
      does_modify fun _ _ => .of_talks talks fun _ => rfl
  · exact does_modify fun _ _ => .of_talks talks fun _ => rfl

private theorem does_printable (v : Value) : Does (printable v) E fun _ => True := by
  unfold printable
  split
  · exact does_pure trivial
  · exact does_stop _

end Comp

open CallByNeed.Language.Comp

section Primitives

variable {E : Effects}

private theorem does_createAll (block : Block) : Does (createAll block) E fun _ => True := by
  induction block with
  | nil => exact does_pure trivial
  | cons binding rest ih =>
    exact does_bind (does_onScopes fun u => u.uses_create _ _) fun _ => ih

private theorem does_assign (defers : E.defers) (a : Assignment) :
    Does (assign a) E fun _ => True := by
  refine does_bind (does_defer defers _ _) fun cell => ?_
  refine does_bind (does_onScopes fun u => u.uses_set _ _) fun bound => ?_
  split
  · exact does_pure trivial
  · exact does_fail _

private theorem does_needType (v : Option Value) : Does (needType v) E fun _ => True := by
  cases v with
  | none => exact does_stop _
  | some v => exact does_pure trivial

private theorem does_needRight (op : BinaryOp) (left : Value) (right : Option Value) :
    Does (needRight op left right) E fun _ => True := by
  cases right with
  | none =>
    rw [needRight]
    split
    · exact does_stop _
    · exact does_stop _
  | some v => exact does_pure trivial

private theorem does_applyBinary (op : BinaryOp) (left right : Value) :
    Does (applyBinary op left right) E fun _ => True := by
  unfold applyBinary
  split
  · exact does_pure trivial
  · exact does_stop _

private theorem does_traceStmt (stmt : Stmt) : Does (traceStmt stmt) E fun _ => True := by
  intro c s
  rw [traceStmt, bind_apply, context_apply]
  dsimp only
  by_cases trace : c.setup.trace = true
  · rw [if_pos trace]
    exact ⟨trivial, fun _ _ _ _ hk => hk, fun _ => .refl _,
      fun _ => ⟨rfl, rfl, rfl, fun off => absurd trace (by simp [off])⟩, fun _ => rfl,
      Nat.le_refl _, fun _ => rfl⟩
  · rw [if_neg trace]
    exact ⟨trivial, .refl E c s⟩

private theorem does_readInteger (line : Option String) :
    Does (readInteger line) E fun _ => True := by
  cases line with
  | none => exact does_stop _
  | some text =>
    rw [readInteger]
    split
    · exact does_pure trivial
    · exact does_stop _

private theorem does_readValue (talks : E.talks) (asInteger : Bool) :
    Does (readValue asInteger) E fun _ => True := by
  have read : Does readInput E fun _ => True := by
    intro c s
    simp only [readInput]
    cases read : s.channels.read c.setup with
    | error fault => exact .refl E c s
    | ok answer => exact ⟨trivial, .of_talks talks (Channels.stdin_of_read read)⟩
  refine does_bind read fun line => ?_
  cases asInteger with
  | true => exact does_bind (does_readInteger line) fun _ => does_newCell _
  | false => exact does_newCell _

private theorem does_leaveTry (counts : E.counts) : Does leaveTry E fun _ => True :=
  does_step fun _ _ => .of_counts counts _

end Primitives

section Start

private theorem does_startEval (e : Expr) :
    Does (startEval e) (Task.eval e).effects (Task.eval e).Leads := by
  cases e with
  | var name =>
    refine does_bind (does_onScopes fun u => .refl u) fun cell => ?_
    cases cell with
    | none => exact does_fail _
    | some cell => exact does_pure (by simp)
  | _ => exact does_pure (by simp)

private theorem does_startForce (cell : CellId) :
    Does (startForce cell) (Task.force cell).effects (Task.force cell).Leads := by
  refine does_bind (does_step fun c s => .refl _ c s) fun content => ?_
  cases content with
  | value v => exact does_pure (by simp)
  | thunk e i =>
    exact does_bind (does_step fun _ _ => .of_refocus (by simp) _) fun focus => does_pure (by simp)

theorem does_enterFunc {E : Effects} (defers : E.defers) (func : Func) (args : List Expr) :
    Does (enterFunc func args) E fun next => next = .enter (.block func.body) .leave := by
  refine does_bind (does_mapM (fun _ => does_defer defers _ _) _) fun cells => ?_
  refine does_bind (does_modify fun _ s => .of_uses s.scopes.uses_pushFrame) fun _ => ?_
  exact does_bind (does_createAll _) fun _ => does_pure rfl

private theorem does_startCall (name : String) (args : List Expr) :
    Does (startCall name args) (Task.call name args).effects (Task.call name args).Leads := by
  unfold startCall
  split
  · exact does_pure (by simp)
  · next print =>
    split
    · next input =>
      split
      · exact does_bind (does_readValue (by simp [input]) _) fun cell => does_pure (by simp)
      · exact does_pure (by simp)
      · exact does_fail _
    · next input =>
      refine does_bind does_context fun c => ?_
      split
      · exact does_fail _
      · have defers : (Task.call name args).effects.defers := by simp_all
        exact (does_enterFunc defers _ _).mono fun next entered => by simp [entered]

private theorem does_startStmt (stmt : Stmt) :
    Does (startStmt stmt) (Task.stmt stmt).effects (Task.stmt stmt).Leads := by
  cases stmt with
  | eval e =>
    cases e with
    | call name args => exact does_pure (by simp)
    | _ => exact does_pure (by simp)
  | assign a => exact does_bind (does_assign (by simp) a) fun _ => does_pure (by simp)
  | declare name typeName =>
    refine does_bind (does_onScopes fun u => u.uses_create _ _) fun free => ?_
    split
    · exact does_pure (by simp)
    · exact does_fail _
  | branch condition body orElse => exact does_pure (by simp)
  | loop init condition update body =>
    exact does_bind (does_assign (by simp) init) fun _ => does_pure (by simp)
  | attempt body catchers =>
    exact does_bind (does_modify fun _ _ => .of_counts (by simp) _) fun _ => does_pure (by simp)
  | raise e => exact does_pure (by simp)
  | ret e =>
    cases e with
    | none => exact does_pure (by simp)
    | some e => exact does_bind (does_defer (by simp) _ _) fun _ => does_pure (by simp)

theorem does_start (t : Task τ) : Does t.start t.effects t.Leads := by
  cases t with
  | eval e => exact does_startEval e
  | force cell => exact does_startForce cell
  | printArgs args text =>
    cases args with
    | nil => exact does_pure (by simp)
    | cons arg args => exact does_pure (by simp)
  | call name args => exact does_startCall name args
  | block stmts =>
    exact does_bind (does_onScopes fun u => u.uses_both _) fun _ => does_pure (by simp)
  | all stmts =>
    cases stmts with
    | nil => exact does_pure (by simp)
    | cons stmt stmts => exact does_bind (does_traceStmt stmt) fun _ => does_pure (by simp)
  | stmt s => exact does_startStmt s
  | loop condition update body => exact does_pure (by simp)

end Start

section Resume

variable {E : Effects}

private theorem does_onValue {n : Nat} {f : α → Comp (Next τ)} {g : Option String → τ.Answer}
    (hn : 0 < n) (hf : ∀ a, Does (f a) E (Follows n)) (r : Raising α) :
    Does (onValue f g r) E (Follows n) := by
  cases r with
  | raised exception => exact does_pure ⟨hn, rfl, trivial, rfl⟩
  | value a => exact hf a

private theorem does_resumeOperand (op : BinaryOp) (right : Expr) (left : Option Value) :
    Does (resumeOperand op right left) E (Follows 2) := by
  unfold resumeOperand
  split
  · exact does_stop _
  · exact does_stop _
  · split
    · exact does_pure (by simp)
    · exact does_pure (by simp)

private theorem does_resumeBinary (op : BinaryOp) (left right : Option Value) :
    Does (resumeBinary op left right) E (Follows 1) := by
  refine does_bind (does_needType _) fun left => ?_
  refine does_bind (does_needRight _ _ _) fun right => ?_
  exact does_bind (does_applyBinary _ _ _) fun v => does_pure (by simp)

private theorem does_resumeUpdate (forces : E.forces) (cell : CellId) (focus : Option Nat)
    (result : Raising (Option Value)) : Does (resumeUpdate cell focus result) E (Follows 1) := by
  refine does_bind (does_modify fun _ _ => .of_refocus forces focus) fun _ => ?_
  rcases result with (_ | v) | exception
  · exact does_stop _
  · exact does_bind (does_modify fun _ _ => .of_settle forces cell v) fun _ => does_pure (by simp)
  · exact does_pure (by simp)

private theorem does_resumeLeave (flow : Flow) : Does (resumeLeave flow) E (Follows 1) := by
  refine does_bind (does_step fun c s => .refl E c s) fun depth => ?_
  split
  · exact does_fail _
  · refine does_bind (does_onScopes fun u => u.uses_both _) fun _ => ?_
    cases flow <;> exact does_pure (by simp)

private theorem does_resumeHandle (counts : E.counts) (catchers : List (Catcher Stmt))
    (flow : Flow) : Does (resumeHandle catchers flow) E (Follows 1) := by
  cases flow with
  | raised exception =>
    simp only [resumeHandle]
    split
    · exact does_pure (by simp)
    · refine does_bind (does_leaveTry counts) fun depth => ?_
      split
      · exact does_fail _
      · exact does_pure (by simp)
  | next => exact does_bind (does_leaveTry counts) fun _ => does_pure (by simp)
  | returned cell => exact does_bind (does_leaveTry counts) fun _ => does_pure (by simp)

private theorem does_resumeBranch (body : List Stmt) (orElse : Option (List Stmt))
    (v : Option Value) : Does (resumeBranch body orElse v) E (Follows 1) := by
  refine does_bind (does_needType _) fun v => ?_
  split
  · exact does_pure (by simp)
  · exact does_pure (by simp)
  · exact does_pure (by simp)
  · exact does_fail _

private theorem does_resumeTest (condition : Expr) (update : Assignment) (body : List Stmt)
    (v : Option Value) : Does (resumeTest condition update body v) E (Follows 2) := by
  refine does_bind (does_needType _) fun v => ?_
  split
  · exact does_pure (by simp)
  · exact does_pure (by simp)
  · exact does_fail _

private theorem does_resumeThrow (v : Option Value) : Does (resumeThrow v) E (Follows 1) := by
  refine does_bind (does_needType _) fun v => ?_
  split
  · exact does_pure (by simp)
  · exact does_pure (by simp)
  · exact does_fail _

/-- What going on from a pending step does: if it leads to a task to wait for, then with a shallower
pending step. -/
theorem does_resume (p : Pending σ τ) (a : σ.Answer) :
    Does (p.resume a) p.effects (Follows p.depth) := by
  cases p with
  | forceResult => exact does_onValue (by simp) (fun _ => does_pure (by simp)) a
  | unary op =>
    refine does_onValue (by simp) (fun operand => ?_) a
    refine does_bind (does_needType _) fun v => ?_
    split
    · exact does_pure (by simp)
    · exact does_fail _
  | operand op right => exact does_onValue (by simp) (does_resumeOperand op right) a
  | binary op left => exact does_onValue (by simp) (does_resumeBinary op left) a
  | update cell focus => exact does_resumeUpdate (by simp) cell focus a
  | printRest args text =>
    refine does_onValue (by simp) (fun v => ?_) a
    refine does_bind (does_needType _) fun v => does_bind (does_printable _) fun shown => ?_
    split
    · exact does_stop _
    · exact does_pure (by simp)
  | emit =>
    refine does_onValue (by simp) (fun text => ?_) a
    exact does_bind (does_emit (by simp) _) fun _ => does_pure (by simp)
  | prompt asInteger =>
    refine does_onValue (by simp) (fun v => ?_) a
    refine does_bind (does_needType _) fun v => does_bind (does_printable _) fun shown => ?_
    refine does_bind (does_emit (by simp) _) fun _ => ?_
    exact does_bind (does_readValue (by simp) _) fun cell => does_pure (by simp)
  | leave => exact does_resumeLeave a
  | close => exact does_bind (does_onScopes fun u => u.uses_both _) fun _ => does_pure (by simp)
  | rest stmts => cases a <;> exact does_pure (by simp)
  | discard => exact does_onValue (by simp) (fun _ => does_pure (by simp)) a
  | branch body orElse => exact does_onValue (by simp) (does_resumeBranch body orElse) a
  | test condition update body =>
    exact does_onValue (by simp) (does_resumeTest condition update body) a
  | again condition update body =>
    cases a with
    | next => exact does_bind (does_assign (by simp) _) fun _ => does_pure (by simp)
    | returned cell => exact does_pure (by simp)
    | raised exception => exact does_pure (by simp)
  | handle catchers => exact does_resumeHandle (by simp) catchers a
  | throw => exact does_onValue (by simp) does_resumeThrow a

end Resume

namespace Config

variable {ρ : Kind} {c : Context} {x y : Config ρ}

/-- Which effects a step from a moment may have. -/
@[simp]
def effects : Config ρ → Effects
  | .run t _ _ => t.effects
  | .done _ (.cons p _) _ => p.effects
  | _ => ⟨False, False, False, False⟩

theorem state_follow (k : Stack ρ τ) (next : Next τ) (s : State) :
    (follow k next s).state = s := by
  cases next <;> rfl

theorem changes_step (h : x.step c = some y) : Changes x.effects c x.state y.state := by
  cases x with
  | run t k s =>
    have does := does_start t c s
    cases started : t.start c s with
    | ok next s' =>
      simp only [step, started, proceed, Option.some.injEq] at h does
      rw [← h, state_follow]
      exact does.2
    | stop f s' =>
      simp only [step, started, proceed, Option.some.injEq] at h does
      rw [← h]
      exact does
    | outOfFuel => simp [step, started, proceed] at h
  | done a k s =>
    cases k with
    | nil => simp [step] at h
    | cons p k =>
      have does := does_resume p a c s
      cases resumed : p.resume a c s with
      | ok next s' =>
        simp only [step, resumed, proceed, Option.some.injEq] at h does
        rw [← h, state_follow]
        exact does.2
      | stop f s' =>
        simp only [step, resumed, proceed, Option.some.injEq] at h does
        rw [← h]
        exact does
      | outOfFuel => simp [step, resumed, proceed] at h
  | fault f k s =>
    cases k with
    | nil => simp [step] at h
    | cons p k =>
      simp only [step, Option.some.injEq] at h
      rw [← h]
      unfold escape
      split <;> exact .refl _ c s

end Config

end CallByNeed.Language
