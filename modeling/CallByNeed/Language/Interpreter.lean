import CallByNeed.Language.Reader
import CallByNeed.Language.Session

set_option autoImplicit false
set_option relaxedAutoImplicit false

/-!
Interpreters with all that stays in memory between runs. A session is what an interpreter shows.
Behind it are the functions of the last program and the environment of its run, complete or cut off,
and what all interpreters share: the reader, and the cell with nil that every run hands out.
-/

namespace CallByNeed.Language

/-- What all interpreters share. -/
structure Shared where
  reader : Reader := {}
  /-- The content of the cell that is to hold nil. -/
  nil : Cell := .value .nil
deriving Inhabited

structure Interpreter where
  session : Session
  shared : Shared := {}
  /-- The functions of the last program that was run. -/
  funcs : List Func := []
  /-- The cells of the last run. -/
  cells : Array Cell := #[]
  /-- The scopes that the last run has left. -/
  scopes : Scopes := {}
  /-- How many `try` bodies counted as being executed when the last run ended. -/
  tryDepth : Nat := 0
deriving Inhabited

namespace Interpreter

/-- A new interpreter, beside others with which it shares what all of them share. -/
def start (setup : Setup) (stdin : String) (shared : Shared) : Interpreter :=
  { session := .start setup stdin, shared := shared }

def reset (i : Interpreter) : Interpreter :=
  { i with session := i.session.reset }

def clearPrinted (i : Interpreter) : Interpreter :=
  { i with session := i.session.clearPrinted }

def error (i : Interpreter) (kind : ErrorKind) (description : Option String) (line : Option Int) :
    String × Interpreter :=
  let (report, session) := i.session.error kind description line
  (report, { i with session := session })

def readInput (i : Interpreter) : Except Fault (Option String) × Interpreter :=
  let (line, session) := i.session.readInput
  (line, { i with session := session })

def emit (i : Interpreter) (text : Option String) : Interpreter :=
  { i with session := i.session.emit text }

def load (i : Interpreter) (program : Program) : Interpreter :=
  { i with funcs := program.funcs, cells := #[i.shared.nil], scopes := {}, tryDepth := 0 }

def state (i : Interpreter) : State :=
  { channels := i.session.channels, cells := i.cells, scopes := i.scopes, tryDepth := i.tryDepth }

def keep (i : Interpreter) (s : State) : Interpreter :=
  { i with
    session := { i.session with channels := s.channels }
    shared := { i.shared with nil := (s.cells[nilCell]?).getD i.shared.nil }
    cells := s.cells, scopes := s.scopes, tryDepth := s.tryDepth }

def callMain (i : Interpreter) : Except RunFault Unit × Interpreter :=
  match call runFuel "main" [] ⟨i.session.setup, i.funcs⟩ i.state with
  | .ok _ s => (.ok (), i.keep s)
  | .stop fault s =>
    let i := i.keep s
    (.error (.run fault), { i with session := i.session.recordFault fault })
  | .outOfFuel => (.error .outOfFuel, i)

def read (i : Interpreter) (source : String) : Except ParseFault Program × Interpreter :=
  let (parsed, reader) := i.shared.reader.parse source
  (parsed.result,
    { i with
      session := i.session.print parsed.printed
      shared := { i.shared with reader := reader } })

def run (i : Interpreter) (source : String) : Except RunFault Unit × Interpreter :=
  match i.read source with
  | (.error fault, i) => (.error (.parse fault), i)
  | (.ok program, i) => (i.load program).callMain

end Interpreter

end CallByNeed.Language
