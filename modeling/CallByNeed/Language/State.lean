import CallByNeed.Language.Fault

set_option autoImplicit false
set_option relaxedAutoImplicit false

/-!
The state of a run and computations on it.

A cell holds a value, or an expression that is still to be evaluated with the snapshot of the scopes
at the time it was deferred. A computation ends normally, stops, or runs out of fuel, and when it
stops the state is left as it is at that moment.
-/

namespace CallByNeed.Language

inductive Cell where
  | value (v : Value)
  | thunk (e : Expr) (snapshot : Nat)
deriving Repr, Inhabited

structure Setup where
  /-- Whether output is also printed. -/
  console : Bool := false
  /-- Whether each statement is printed before it is executed. -/
  trace : Bool := false
  /-- The given inputs; if there are none, input is read from the standard input. -/
  inputs : Array String := #[]
deriving Repr, Inhabited

structure Channels where
  /-- How many of the given inputs have been read. -/
  cursor : Nat := 0
  /-- What is left of the standard input. -/
  stdin : List Char := []
  /-- The output so far; an entry without a text is a prompt that has none. -/
  output : Array (Option String) := #[]
  /-- The printed text. -/
  printed : String := ""
deriving Repr, Inhabited

structure State where
  channels : Channels
  cells : Array Cell
  scopes : Scopes
  /-- How many `try` bodies count as being executed. -/
  tryDepth : Nat
deriving Inhabited

def nilCell : CellId := 0

def State.initial (channels : Channels) : State :=
  { channels := channels, cells := #[.value .nil], scopes := {}, tryDepth := 0 }

/-- What a run consults: its circumstances and the functions of the program. -/
structure Context where
  setup : Setup
  funcs : List Func

inductive Outcome (α : Type) where
  | ok (a : α) (s : State)
  | stop (fault : Fault) (s : State)
  | outOfFuel

def Comp (α : Type) := Context → State → Outcome α

namespace Comp

variable {α β : Type}

@[always_inline, inline]
protected def pure (a : α) : Comp α :=
  fun _ s => .ok a s

@[always_inline, inline]
protected def bind (x : Comp α) (f : α → Comp β) : Comp β :=
  fun c s =>
    match x c s with
    | .ok a s => f a c s
    | .stop fault s => .stop fault s
    | .outOfFuel => .outOfFuel

@[always_inline]
instance : Monad Comp where
  pure := Comp.pure
  bind := Comp.bind

@[inline]
def stop (fault : Fault) : Comp α :=
  fun _ s => .stop fault s

@[inline]
def fail (e : LanguageError) : Comp α :=
  stop (.language e)

@[inline]
def exhausted : Comp α :=
  fun _ _ => .outOfFuel

@[inline]
def context : Comp Context :=
  fun c s => .ok c s

@[inline]
def step (f : State → α × State) : Comp α :=
  fun _ s =>
    let (a, s) := f s
    .ok a s

@[inline]
def modify (f : State → State) : Comp Unit :=
  fun _ s => .ok () (f s)

/-- Runs a computation and turns a division by zero into a result. -/
@[inline]
def catchZero (x : Comp α) (a : α) : Comp α :=
  fun c s =>
    match x c s with
    | .stop .divisionByZero s => .ok a s
    | outcome => outcome

@[inline]
def onScopes (f : Scopes → Scopes.Result α) : Comp α :=
  fun _ s =>
    match f s.scopes with
    | (.ok a, scopes) => .ok a { s with scopes := scopes }
    | (.error fault, scopes) => .stop (.scope fault) { s with scopes := scopes }

def newCell (cell : Cell) : Comp CellId :=
  step fun s => (s.cells.size, { s with cells := s.cells.push cell })

/-- A new cell for an expression that is to be evaluated in the environment that `pick` chooses. -/
def defer (e : Expr) (pick : Scopes → Env) : Comp CellId :=
  step fun s =>
    let (i, scopes) := s.scopes.snapshot (pick s.scopes)
    (s.cells.size, { s with scopes := scopes, cells := s.cells.push (.thunk e i) })

def printLine (text : String) : Comp Unit :=
  modify fun s =>
    { s with channels := { s.channels with printed := s.channels.printed ++ text ++ "\n" } }

def emit (text : Option String) : Comp Unit := do
  let c ← context
  if c.setup.console then printLine (text.getD "None")
  modify fun s =>
    { s with channels := { s.channels with output := s.channels.output.push text } }

def printable (v : Value) : Comp (Option String) :=
  match v.printable with
  | .ok text => pure text
  | .error fault => stop (.integer fault)

end Comp

def Channels.readLine (c : Channels) : Option (String × Channels) :=
  match c.stdin with
  | [] => none
  | stdin =>
    let line := stdin.takeWhile (· ≠ '\n')
    some (String.ofList line, { c with stdin := stdin.drop (line.length + 1) })

/-- Reads the next input; nothing when the given inputs are used up. -/
def Channels.read (setup : Setup) (c : Channels) : Except Fault (Option String × Channels) :=
  if setup.inputs.isEmpty then
    match c.readLine with
    | some (line, c) => .ok (some line, c)
    | none => .error .endOfInput
  else
    match setup.inputs[c.cursor]? with
    | some line => .ok (some line, { c with cursor := c.cursor + 1 })
    | none => .ok (none, c)

def Comp.readInput : Comp (Option String) :=
  fun c s =>
    match s.channels.read c.setup with
    | .ok (line, channels) => .ok line { s with channels := channels }
    | .error fault => .stop fault s

end CallByNeed.Language
