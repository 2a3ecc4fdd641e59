import CallByNeed.Language.Symbol
import CallByNeed.Lexer.Generator

set_option autoImplicit false
set_option relaxedAutoImplicit false

/-!
The language's tokens as rules of a lexer.
-/

namespace CallByNeed.Language

def terminals : List Terminal :=
  reservedWords.map (·.2) ++
  [.lparen, .rparen, .lbrace, .rbrace, .comma, .colon, .semi, .eq, .notEq, .greaterEq, .greater,
    .lessEq, .less, .assign, .plus, .minus, .multiply, .divide, .number, .name, .string, .and, .or,
    .not, .dot]

/-- The marks with their patterns; any character that nothing else takes is a dot. -/
def markPatterns : List (Terminal × String) :=
  [(.lparen, "\\("), (.rparen, "\\)"), (.lbrace, "\\\x7b"), (.rbrace, "\\\x7d"), (.comma, ","),
    (.colon, ":"), (.semi, ";"), (.eq, "=="), (.greaterEq, ">="), (.greater, ">"), (.lessEq, "<="),
    (.less, "<"), (.notEq, "!="), (.assign, "="), (.plus, "\\+"), (.minus, "\\-"),
    (.multiply, "\\*"), (.divide, "/"), (.and, "&&"), (.or, "\\|\\|"), (.not, "!"), (.dot, ".")]

def ruleName (t : Terminal) : String := "t_" ++ t.label

/-- The rules with steps: numbers, words, line ends, comments, strings, and errors. -/
def lexerFunctions : List (String × Lexer.Function) :=
  let words := reservedWords.map fun (word, t) => (word, t.label)
  [(ruleName .number, { line := 1, pattern := some "\\d+", steps := [.integer, .keep] }),
    (ruleName .name, { line := 2, pattern := some "[A-Za-z_][\\w_]*"
                       steps := [.classify words Terminal.name.label, .keep] }),
    ("t_newline", { line := 3, pattern := some "\\n+", steps := [.countLines] }),
    ("t_comment", { line := 4, pattern := some "/\\*(.|\\n)*?\\*/", steps := [.countLines] }),
    (ruleName .string, { line := 5, pattern := some "\".*?\"", steps := [.unquote, .keep] }),
    ("t_error", { line := 6, pattern := none, steps := [.skip 1] })]

def lexerDescription : Lexer.Description :=
  { tokens := some (.tuple (terminals.map fun t => .text t.label))
    members := ⟨("t_ignore", .plain (.text " \t")) ::
      (markPatterns.map fun (t, pattern) => (ruleName t, .plain (.text pattern))) ++
      lexerFunctions.map fun (name, f) => (name, .function f)⟩ }

def lexer : Lexer :=
  ((Lexer.buildLexer lexerDescription {}).run.run {}).1.toOption.elim default (·.lexer)

end CallByNeed.Language
