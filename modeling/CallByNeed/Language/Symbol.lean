set_option autoImplicit false
set_option relaxedAutoImplicit false

/-!
The symbols of the language's grammar: token kinds, phrase kinds, and two marks that only a parse
uses, the end of the input and an error.
-/

namespace CallByNeed.Language

/-- The token kinds. The fourteen that start with `k` are the reserved words. -/
inductive Terminal where
  | kVar | kFunc | kIf | kElse | kFor | kReturn | kTrue | kFalse | kNil | kStruct | kNew | kTry
  | kCatch | kRaise
  | lparen | rparen | lbrace | rbrace | comma | colon | semi
  | eq | notEq | greaterEq | greater | lessEq | less | assign
  | plus | minus | multiply | divide | number | name | string | and | or | not | dot
deriving DecidableEq, Repr, Inhabited

def Terminal.label : Terminal → String
  | .kVar => "VAR"
  | .kFunc => "FUNC"
  | .kIf => "IF"
  | .kElse => "ELSE"
  | .kFor => "FOR"
  | .kReturn => "RETURN"
  | .kTrue => "TRUE"
  | .kFalse => "FALSE"
  | .kNil => "NIL"
  | .kStruct => "STRUCT"
  | .kNew => "NEW"
  | .kTry => "TRY"
  | .kCatch => "CATCH"
  | .kRaise => "RAISE"
  | .lparen => "LPAREN"
  | .rparen => "RPAREN"
  | .lbrace => "LBRACE"
  | .rbrace => "RBRACE"
  | .comma => "COMMA"
  | .colon => "COLON"
  | .semi => "SEMI"
  | .eq => "EQ"
  | .notEq => "NOT_EQ"
  | .greaterEq => "GREATER_EQ"
  | .greater => "GREATER"
  | .lessEq => "LESS_EQ"
  | .less => "LESS"
  | .assign => "ASSIGN"
  | .plus => "PLUS"
  | .minus => "MINUS"
  | .multiply => "MULTIPLY"
  | .divide => "DIVIDE"
  | .number => "NUMBER"
  | .name => "NAME"
  | .string => "STRING"
  | .and => "AND"
  | .or => "OR"
  | .not => "NOT"
  | .dot => "DOT"

def reservedWords : List (String × Terminal) :=
  [("var", .kVar), ("func", .kFunc), ("if", .kIf), ("else", .kElse), ("for", .kFor),
    ("return", .kReturn), ("true", .kTrue), ("false", .kFalse), ("nil", .kNil),
    ("struct", .kStruct), ("new", .kNew), ("try", .kTry), ("catch", .kCatch), ("raise", .kRaise)]

/-- The token kind of a word: a reserved word's own, or else a name. -/
def Terminal.ofWord (word : String) : Terminal :=
  (reservedWords.lookup word).getD .name

inductive Nonterminal where
  | start | program | structs | struct | fields | field | funcs | func | params | param
  | statements | statement | assignment | declared | dotted | catchers | catcher | expression
  | arguments
deriving DecidableEq, Repr, Inhabited

def Nonterminal.label : Nonterminal → String
  | .start => "S'"
  | .program => "program"
  | .structs => "structs"
  | .struct => "struct"
  | .fields => "fields"
  | .field => "field"
  | .funcs => "funcs"
  | .func => "func"
  | .params => "formal_args"
  | .param => "formal_arg"
  | .statements => "statements"
  | .statement => "statement"
  | .assignment => "assign"
  | .declared => "variable"
  | .dotted => "variable_w_dot"
  | .catchers => "catchers"
  | .catcher => "catch"
  | .expression => "expression"
  | .arguments => "args"

/-- A symbol of the grammar, or one of the marks of a parse. -/
inductive Symbol where
  | endMark
  | error
  | terminal (t : Terminal)
  | nonterminal (n : Nonterminal)
deriving DecidableEq, Repr, Inhabited

def Symbol.label : Symbol → String
  | .endMark => "$end"
  | .error => "error"
  | .terminal t => t.label
  | .nonterminal n => n.label

instance : Coe Terminal Symbol := ⟨.terminal⟩

instance : Coe Nonterminal Symbol := ⟨.nonterminal⟩

end CallByNeed.Language
