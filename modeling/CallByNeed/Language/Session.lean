import CallByNeed.Language.Eval
import CallByNeed.Language.Parse

set_option autoImplicit false
set_option relaxedAutoImplicit false

/-!
Sessions: one interpreter that runs programs one after another. Output, the input cursor and the
last error stay from run to run until a reset. Functions and variables do not.
-/

namespace CallByNeed.Language

/-- An interpreter between runs. -/
structure Session where
  setup : Setup
  channels : Channels
  /-- The kind of the last error that the language defines. -/
  errorKind : Option ErrorKind := none
  /-- The line given with the last error. -/
  errorLine : Option Int := none
deriving Inhabited

inductive RunFault where
  | parse (fault : ParseFault)
  | run (fault : Fault)
  | outOfFuel
deriving Inhabited

def RunFault.message : RunFault → String
  | .parse fault => fault.message
  | .run fault => fault.message
  | .outOfFuel => "out of fuel"

/-- How deep a run may nest and how often a loop may repeat. -/
def runFuel : Nat := 1000000000000

def Program.run (program : Program) (setup : Setup) (channels : Channels) :
    Outcome (Raising CellId) :=
  call runFuel "main" [] ⟨setup, program.funcs⟩ (State.initial channels)

namespace Session

def start (setup : Setup) (stdin : String) : Session :=
  { setup := setup, channels := { stdin := stdin.toList } }

def reset (s : Session) : Session :=
  { s with
    channels := { s.channels with cursor := 0, output := #[] }
    errorKind := none, errorLine := none }

def print (s : Session) (text : String) : Session :=
  { s with channels := { s.channels with printed := s.channels.printed ++ text } }

def clearPrinted (s : Session) : Session :=
  { s with channels := { s.channels with printed := "" } }

def error (s : Session) (kind : ErrorKind) (description : Option String) (line : Option Int) :
    String × Session :=
  (reportText kind description line, { s with errorKind := some kind, errorLine := line })

def readInput (s : Session) : Except Fault (Option String) × Session :=
  match s.channels.read s.setup with
  | .ok (line, channels) => (.ok line, { s with channels := channels })
  | .error fault => (.error fault, s)

def emit (s : Session) (text : Option String) : Session :=
  let s := if s.setup.console then s.print (text.getD "None" ++ "\n") else s
  { s with channels := { s.channels with output := s.channels.output.push text } }

def recordFault (s : Session) : Fault → Session
  | .language e => { s with errorKind := some e.kind, errorLine := none }
  | _ => s

def runProgram (s : Session) (program : Program) : Except RunFault Unit × Session :=
  match program.run s.setup s.channels with
  | .ok _ state => (.ok (), { s with channels := state.channels })
  | .stop fault state =>
    (.error (.run fault), ({ s with channels := state.channels }).recordFault fault)
  | .outOfFuel => (.error .outOfFuel, s)

def run (s : Session) (source : String) : Except RunFault Unit × Session :=
  let parsed := parse source
  let s := s.print parsed.printed
  match parsed.result with
  | .error fault => (.error (.parse fault), s)
  | .ok program => s.runProgram program

end Session

end CallByNeed.Language
