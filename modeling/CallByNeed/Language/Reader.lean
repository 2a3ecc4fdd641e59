import CallByNeed.Language.Parse

set_option autoImplicit false
set_option relaxedAutoImplicit false

/-!
The reader of programs: one lexer and one parser that serve every parse and keep between parses
what the last one left in them. Before a text is read, the lexer takes it from its first line and
position, and the parser makes new stacks. Whether the parser has recovered from its last error is
never set back.
-/

namespace CallByNeed.Language

/-- A lexer and a parser as the last parse has left them. -/
structure Reader where
  /-- The text that the lexer cuts, and the line and position reached in it. -/
  text : String := ""
  line : Nat := 1
  pos : Nat := 0
  /-- The parser's stacks, with their top first. -/
  states : List Nat := []
  entries : List (LR.Entry Symbol Phrase) := []
  /-- Whether the parser reports the next error whatever it has read since the last one. -/
  recovered : Bool := true
deriving Inhabited

namespace Reader

def resetLine (r : Reader) : Reader :=
  { r with line := 1 }

/-- Takes a text to read from its start. The line stays. -/
def input (r : Reader) (source : String) : Reader :=
  { r with text := source, pos := 0 }

def scan (r : Reader) : Scan :=
  scanFrom r.line r.pos (r.text.toList.drop r.pos)

/-- Parses a source text, and leaves lexer and parser as they are when that ends. A parse takes all
tokens, so the lexer has come to where the scan ends. -/
def parse (r : Reader) (source : String) : Parse × Reader :=
  let r := r.resetLine.input source
  let scan := r.scan
  let (outcome, c) := runScan false false scan r.recovered
  (Parse.ofRun outcome c,
    { r with
      line := scan.line, pos := scan.pos
      states := c.states, entries := c.entries, recovered := c.recovered })

end Reader

end CallByNeed.Language
