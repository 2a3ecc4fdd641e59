import CallByNeed.Language.Interpreter
import CallByNeed.Proofs.History.Reading
import CallByNeed.Proofs.History.Remains

set_option autoImplicit false
set_option relaxedAutoImplicit false

/-!
No history leaks into a run. Whatever an interpreter has been used for, of what stays in memory a
run reads only the reader and the cell with nil. A parse does not depend on the reader, and the cell
holds nil at every moment. So with given inputs, of which a reset starts again with the first one, a
run after a reset shows what the run of a new interpreter shows.
-/

namespace CallByNeed.Language

inductive Act where
  | run (source : String)
  | reset
  | readInput
  | emit (text : Option String)
  | error (kind : ErrorKind) (description : Option String) (line : Option Int)

namespace Interpreter

def act (i : Interpreter) : Act → Interpreter
  | .run source => (i.run source).2
  | .reset => i.reset
  | .readInput => i.readInput.2
  | .emit text => i.emit text
  | .error kind description line => (i.error kind description line).2

def after (i : Interpreter) (acts : List Act) : Interpreter :=
  acts.foldl act i

/-- What a run shows: its result, and the session after it. -/
def shown (r : Except RunFault Unit × Interpreter) : Except RunFault Unit × Session :=
  (r.1, r.2.session)

/-- An interpreter that no use has changed where a reset does not reach. -/
structure Clean (setup : Setup) (stdin : String) (i : Interpreter) : Prop where
  same : i.session.setup = setup
  nil : i.shared.nil = .value .nil
  stdin : setup.inputs.isEmpty = false → i.session.channels.stdin = stdin.toList

variable {setup : Setup} {stdin : String} {i : Interpreter}

private theorem clean_start {shared : Shared} (nil : shared.nil = .value .nil) :
    (start setup stdin shared).Clean setup stdin :=
  ⟨rfl, nil, fun _ => rfl⟩

section Run

private theorem read_fst (i : Interpreter) (source : String) :
    (i.read source).1 = (parse source).result := by
  rw [← Reader.parse_fst i.shared.reader source]
  rfl

private theorem session_read (i : Interpreter) (source : String) :
    (i.read source).2.session = i.session.print (parse source).printed := by
  rw [← Reader.parse_fst i.shared.reader source]
  rfl

private theorem nil_read (i : Interpreter) (source : String) :
    (i.read source).2.shared.nil = i.shared.nil := rfl

private theorem session_load (i : Interpreter) (program : Program) :
    (i.load program).session = i.session := rfl

private theorem funcs_load (i : Interpreter) (program : Program) :
    (i.load program).funcs = program.funcs := rfl

private theorem state_load (nil : i.shared.nil = .value .nil) (program : Program) :
    (i.load program).state = State.initial i.session.channels := by
  simp [state, load, nil, State.initial]

private theorem shown_callMain (nil : i.shared.nil = .value .nil) (program : Program) :
    shown (i.load program).callMain = i.session.runProgram program := by
  unfold callMain Session.runProgram Program.run
  rw [state_load nil, session_load, funcs_load]
  cases call runFuel "main" [] ⟨i.session.setup, program.funcs⟩ (.initial i.session.channels) with
  | ok a s => rfl
  | stop fault s => rfl
  | outOfFuel => rfl

/-- A run that finds nil in its cell shows what it would show without any history. -/
theorem shown_run (nil : i.shared.nil = .value .nil) (source : String) :
    shown (i.run source) = i.session.run source := by
  have result := i.read_fst source
  have session := i.session_read source
  have nil := (i.nil_read source).trans nil
  unfold run Session.run
  simp only [← result, ← session]
  generalize i.read source = read at nil
  obtain ⟨_ | program, i⟩ := read
  · rfl
  · exact shown_callMain nil program

end Run

section History

private theorem Clean.keep (clean : i.Clean setup stdin) {s : State}
    (nil : s.cells[nilCell]? = some (.value .nil))
    (unread : setup.inputs.isEmpty = false → s.channels.stdin = i.session.channels.stdin) :
    (i.keep s).Clean setup stdin where
  same := clean.same
  nil := by simp [Interpreter.keep, nil]
  stdin given := (unread given).trans (clean.stdin given)

private theorem Clean.callMain (clean : i.Clean setup stdin) (program : Program) :
    (i.load program).callMain.2.Clean setup stdin := by
  have loaded : (i.load program).Clean setup stdin := ⟨clean.same, clean.nil, clean.stdin⟩
  have nil : (i.load program).state.cells[nilCell]? = some (.value .nil) := by
    simp [state, load, clean.nil, nilCell]
  have kept : ∀ s, (call runFuel "main" [] ⟨i.session.setup, program.funcs⟩
      (i.load program).state).state? = some s → ((i.load program).keep s).Clean setup stdin := by
    intro s left
    refine loaded.keep (call_leaves_value left nil) fun given => ?_
    exact call_leaves_stdin left (clean.same ▸ given)
  unfold Interpreter.callMain
  rw [session_load, funcs_load]
  cases called : call runFuel "main" [] ⟨i.session.setup, program.funcs⟩
      (i.load program).state with
  | ok a s => exact kept s (by rw [called]; rfl)
  | stop fault s =>
    have kept := kept s (by rw [called]; rfl)
    cases fault <;> exact ⟨kept.same, kept.nil, kept.stdin⟩
  | outOfFuel => exact loaded

private theorem Clean.run (clean : i.Clean setup stdin) (source : String) :
    (i.run source).2.Clean setup stdin := by
  have read : (i.read source).2.Clean setup stdin := ⟨clean.same, clean.nil, clean.stdin⟩
  unfold Interpreter.run
  generalize i.read source = result at read
  obtain ⟨_ | program, i⟩ := result
  · exact read
  · exact read.callMain program

private theorem Clean.readInput (clean : i.Clean setup stdin) :
    i.readInput.2.Clean setup stdin := by
  simp only [Interpreter.readInput, Session.readInput]
  cases read : i.session.channels.read i.session.setup with
  | error fault => exact clean
  | ok answer =>
    refine ⟨clean.same, clean.nil, fun given => ?_⟩
    exact (Channels.stdin_of_read read (clean.same ▸ given)).trans (clean.stdin given)

private theorem Clean.emit (clean : i.Clean setup stdin) (text : Option String) :
    (i.emit text).Clean setup stdin := by
  simp only [Interpreter.emit, Session.emit]
  split
  · exact ⟨clean.same, clean.nil, clean.stdin⟩
  · exact ⟨clean.same, clean.nil, clean.stdin⟩

private theorem Clean.act (clean : i.Clean setup stdin) (act : Act) :
    (i.act act).Clean setup stdin := by
  cases act with
  | run source => exact clean.run source
  | reset => exact ⟨clean.same, clean.nil, clean.stdin⟩
  | readInput => exact clean.readInput
  | emit text => exact clean.emit text
  | error kind description line => exact ⟨clean.same, clean.nil, clean.stdin⟩

private theorem Clean.after (clean : i.Clean setup stdin) (acts : List Act) :
    (i.after acts).Clean setup stdin := by
  induction acts generalizing i with
  | nil => exact clean
  | cons act acts ih => exact ih (clean.act act)

private theorem Clean.session_reset (clean : i.Clean setup stdin)
    (given : setup.inputs.isEmpty = false) :
    i.reset.clearPrinted.session = .start setup stdin := by
  have stdin := clean.stdin given
  simp [reset, clearPrinted, Session.reset, Session.clearPrinted, Session.start, clean.same, stdin]

end History

end Interpreter

open Interpreter

/-- After any history of runs that went through or were cut off, of inputs read, of output and of
errors, a reset and a run show the result and the session that a new interpreter shows, also if that
one is built where another interpreter has already been used in any way. The printed text is counted
from the reset on. -/
theorem reset_forgets_history (setup : Setup) (stdin : String) (acts : List Act)
    (setup' : Setup) (stdin' : String) (acts' : List Act) (source : String)
    (given : setup.inputs ≠ #[]) :
    let used := (start setup stdin {}).after acts
    let fresh := start setup stdin ((start setup' stdin' {}).after acts').shared
    shown (used.reset.clearPrinted.run source) = shown (fresh.run source) := by
  intro used fresh
  have given : setup.inputs.isEmpty = false := by simpa using given
  have clean : used.Clean setup stdin := (clean_start rfl).after acts
  have other : ((start setup' stdin' {}).after acts').Clean setup' stdin' :=
    (clean_start rfl).after acts'
  have nil : used.reset.clearPrinted.shared.nil = .value .nil := clean.nil
  have nil' : fresh.shared.nil = .value .nil := other.nil
  calc shown (used.reset.clearPrinted.run source)
      = used.reset.clearPrinted.session.run source := shown_run nil source
    _ = fresh.session.run source := by rw [clean.session_reset given]; rfl
    _ = shown (fresh.run source) := (shown_run nil' source).symm

/-- A run that reads an input and is cut off at an unknown variable, a text that is no program, and
an input that is read without a program. -/
def worn : List Act :=
  [.run "func main() \x7b var x; x = inputs(); print(x); print(y); \x7d", .run "\x7d", .readInput]

theorem reset_forgets_history_worn :
    let setup : Setup := { inputs := #["a", "b"] }
    let source := "func main() \x7b print(inputs()); \x7d"
    let used := (start setup "" {}).after worn
    setup.inputs ≠ #[] ∧
      (used.shared.reader.recovered = false ∧ used.funcs.length = 1 ∧ used.cells.size = 3 ∧
        used.session.channels.cursor = 2 ∧
        (used.reset.clearPrinted.run source).2.session.channels.cursor = 1) ∧
      shown (used.reset.clearPrinted.run source) =
        shown ((start setup "" used.shared).run source) := by
  refine ⟨by simp, ?_, ?_⟩
  · decide +kernel
  · exact reset_forgets_history _ "" worn _ "" worn _ (by simp)

end CallByNeed.Language
