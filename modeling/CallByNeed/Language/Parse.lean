import CallByNeed.Language.Table

set_option autoImplicit false
set_option relaxedAutoImplicit false

/-!
Parsing programs. A parse reports its syntax errors and goes on: it drops what it has read so far
together with the offending token and starts again with the next one. So a text with errors can
still give a program.
-/

namespace CallByNeed.Language

inductive ParseFault where
  /-- What is left after the last syntax error is no program. -/
  | rejected
  /-- A number in the text is too long. -/
  | integer (fault : Text.IntegerFault)
  /-- The machine stopped for another reason. -/
  | machine (fault : LR.Fault Text.IntegerFault)
deriving Inhabited

def ParseFault.message : ParseFault → String
  | .rejected => "Syntax error"
  | .integer fault => fault.message
  | .machine fault => fault.message Text.IntegerFault.message

def Token.feed (t : Token) : LR.Feed Symbol Phrase :=
  ⟨⟨.terminal t.kind, t.payload.toPhrase, some t.line, some t.pos⟩, t.line, t.pos⟩

def phrases (entries : List (LR.Entry Symbol Phrase)) : List Phrase :=
  entries.map fun e =>
    match e.content with
    | .value phrase => phrase
    | _ => .nothing

def reduce (number : Nat) (slice : LR.Slice Symbol Phrase) :
    LR.Reduction Symbol Phrase Text.IntegerFault :=
  match (rules[number]?).bind fun rule => rule.build (phrases slice.args) with
  | some phrase => .made { slice.head with content := .value phrase }
  | none => .failed .brokenTable

def machine (tracking logging : Bool) : LR.Machine Symbol Phrase Text.IntegerFault where
  automaton := automaton
  reduce := reduce
  blank := .nothing
  errorValue := .text "error"
  recovery := some (.ok .report)
  shown := Phrase.shown
  tracking := tracking
  logging := logging

/-- How many steps a parse of that many tokens may take. -/
def parseFuel (tokens : Nat) : Nat :=
  100 * (tokens + 2)

def errorLine : Option (LR.Token Symbol Phrase) → String
  | none => "Syntax error at EOF\n"
  | some t =>
    let text := match t.value with
      | .text s => s
      | phrase => phrase.shown.text
    "Syntax error at '" ++ text ++ "' on line " ++ toString (t.line.getD 0) ++ "\n"

/-- The result of a parse: the program or why there is none, and the lines that report its syntax
errors. -/
structure Parse where
  result : Except ParseFault Program
  printed : String
  log : String
deriving Inhabited

def Parse.ofRun (outcome : LR.Outcome Symbol Phrase Text.IntegerFault)
    (c : LR.Configuration Symbol Phrase Text.IntegerFault) : Parse :=
  let result := match outcome with
    | .done (.value (.program p)) => .ok p
    | .done _ => .error .rejected
    | .failed (.called fault) => .error (.integer fault)
    | .failed fault => .error (.machine fault)
    | .outOfFuel => .error .rejected
  ⟨result, String.join (c.reports.reverse.map errorLine), c.logText⟩

/-- Runs the parser on the tokens of a scan; `recovered` is whether errors are reported from the
start. -/
def runScan (tracking logging : Bool) (scan : Scan) (recovered : Bool) :
    LR.Outcome Symbol Phrase Text.IntegerFault ×
      LR.Configuration Symbol Phrase Text.IntegerFault :=
  let m := machine tracking logging
  m.run (parseFuel scan.tokens.length)
    (m.initial (scan.tokens.map Token.feed) scan.fault? recovered)

def parseScan (tracking logging : Bool) (scan : Scan) : Parse :=
  let (outcome, c) := runScan tracking logging scan true
  Parse.ofRun outcome c

def parse (source : String) : Parse :=
  parseScan false false (scan source)

end CallByNeed.Language
