import CallByNeed.Text.Quoted

set_option autoImplicit false
set_option relaxedAutoImplicit false

/-!
The tokens that a lexer finds.
-/

namespace CallByNeed.Lexer

inductive Content where
  | text (s : String)
  | number (n : Int)
deriving DecidableEq, Repr, Inhabited

def Content.shown : Content → String
  | .text s => s
  | .number n => toString n

def Content.quoted : Content → String
  | .text s => Text.quoted s
  | .number n => toString n

structure Token where
  kind : String
  content : Content
  line : Int
  pos : Int
deriving DecidableEq, Repr, Inhabited

def Token.listed (t : Token) : String :=
  "(" ++ t.kind ++ "," ++ t.content.quoted ++ "," ++ toString t.line ++ "," ++ toString t.pos ++ ")"

def Token.text (t : Token) : String :=
  "LexToken" ++ t.listed

end CallByNeed.Lexer
