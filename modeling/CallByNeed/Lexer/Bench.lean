import CallByNeed.Lexer.Basic

set_option autoImplicit false
set_option relaxedAutoImplicit false

/-!
Several lexers side by side: copies of one lexer, which go on from where they were made. All of them
share one stack of states.
-/

namespace CallByNeed.Lexer

structure Bench where
  lexers : Array Lexer
  /-- The lexer in use, the one it was copied from, and so on. -/
  chain : List Nat := [0]
  stack : List String := []
deriving Inhabited

def readingNotice : String := "Reading from standard input (type EOF to end):\n"

namespace Bench

def current (b : Bench) : Nat := b.chain.headD 0

def lexer (b : Bench) (i : Nat) : Lexer :=
  { (b.lexers[i]?).getD default with stack := b.stack }

def put (b : Bench) (i : Nat) (l : Lexer) : Bench :=
  { b with lexers := b.lexers.setIfInBounds i l, stack := l.stack }

def runOn {α : Type} (b : Bench) (i : Nat) (step : Run α) : Except Fault α × Bench :=
  let (outcome, l) := step.run.run (b.lexer i)
  (outcome, b.put i l)

def run {α : Type} (b : Bench) (step : Run α) : Except Fault α × Bench :=
  b.runOn b.current step

def tokens (b : Bench) : Array Token × Option Fault × Bench :=
  let (tokens, fault, l) := (b.lexer b.current).tokens
  (tokens, fault, b.put b.current l)

def useNew (b : Bench) (l : Lexer) : Bench :=
  { b with lexers := b.lexers.push l, chain := b.lexers.size :: b.chain }

def clone (b : Bench) : Bench :=
  b.useNew (b.lexer b.current)

def rebind (b : Bench) : Except Fault Unit × Bench :=
  match (b.lexer b.current).rebound with
  | .ok l => (.ok (), b.useNew l)
  | .error fault => (.error fault, b)

def unclone (b : Bench) : Bench :=
  match b.chain with
  | _ :: i :: rest => { b with chain := i :: rest }
  | _ => b

def list (b : Bench) (i : Nat) (text : String) : String × Option Fault × Bench :=
  let (_, b) := b.runOn i (feed text)
  let (tokens, fault, l) := (b.lexer i).tokens
  (String.join (tokens.toList.map fun t => t.listed ++ "\n"), fault, b.put i l)

/-- Lists the tokens of a text; an empty text is read instead, and found empty. -/
def listGiven (b : Bench) (i : Nat) (text : String) : String × Option Fault × Bench :=
  let (printed, fault, b) := b.list i text
  (if text.isEmpty then readingNotice ++ printed else printed, fault, b)

end Bench

end CallByNeed.Lexer
