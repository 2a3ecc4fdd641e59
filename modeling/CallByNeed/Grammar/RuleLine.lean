import CallByNeed.Site
import CallByNeed.Text.Lines
import CallByNeed.Text.Quoted

set_option autoImplicit false
set_option relaxedAutoImplicit false

/-!
Grammar rules as text, one rule a line: a name, a colon and symbols, or a bar and symbols for one
more rule of the name before.
-/

namespace CallByNeed.Grammar

structure RuleLine where
  site : Site
  name : String
  symbols : List String
deriving DecidableEq, Repr, Inhabited

inductive LineFault where
  /-- A bar stands before any rule. -/
  | misplacedBar (site : Site)
  /-- The second word is no colon. -/
  | expectedColon (site : Site)
  /-- The line holds nothing but a name. -/
  | malformed (site : Site) (line : String)
deriving DecidableEq, Repr

def LineFault.message : LineFault → String
  | .misplacedBar site => site.text ++ ": Misplaced '|'"
  | .expectedColon site => site.text ++ ": Syntax error. Expected ':'"
  | .malformed site line => site.text ++ ": Syntax error in rule " ++ Text.quoted line

/-- Reads lines, the first of them after line `line`; `last` is the name of the rule before. -/
def readLines (file : String) :
    Int → Option String → List String → Except LineFault (List RuleLine)
  | _, _, [] => .ok []
  | line, last, text :: rest =>
    let site : Site := ⟨file, line + 1⟩
    match Text.words text, last with
    | [], _ => readLines file (line + 1) last rest
    | "|" :: _, none => .error (.misplacedBar site)
    | "|" :: symbols, some name => do
      let rules ← readLines file (line + 1) last rest
      return ⟨site, name, symbols⟩ :: rules
    | [_], _ => .error (.malformed site (Text.trim text))
    | name :: mark :: symbols, _ =>
      if mark = ":" ∨ mark = "::=" then do
        let rules ← readLines file (line + 1) (some name) rest
        return ⟨site, name, symbols⟩ :: rules
      else .error (.expectedColon site)

/-- Reads the rules of a text whose first line follows line `line` of the file. -/
def readRules (file : String) (line : Int) (text : String) : Except LineFault (List RuleLine) :=
  readLines file line none (Text.lines text)

end CallByNeed.Grammar
