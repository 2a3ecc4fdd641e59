import CallByNeed.LR.Machine
import CallByNeed.Language.Ast
import CallByNeed.Language.Token

set_option autoImplicit false
set_option relaxedAutoImplicit false

/-!
Phrases: what each symbol of the grammar stands for once it is parsed.
-/

namespace CallByNeed.Language

/-- The meaning of a grammar symbol. -/
inductive Phrase where
  | nothing
  | text (s : String)
  | number (n : Nat)
  | expr (e : Expr)
  | exprs (es : List Expr)
  | assignment (a : Assignment)
  | stmt (s : Stmt)
  | stmts (ss : List Stmt)
  | catcher (c : Catcher Stmt)
  | catchers (cs : List (Catcher Stmt))
  | param (p : Param)
  | params (ps : List Param)
  | field (f : Field)
  | fields (fs : List Field)
  | struct (s : Struct)
  | structs (ss : List Struct)
  | func (f : Func)
  | funcs (fs : List Func)
  | program (p : Program)
deriving Inhabited

def Payload.toPhrase : Payload → Phrase
  | .number n => .number n
  | .text s => .text s

def shownList : LR.Shown :=
  ⟨"list", "[<element.Element object at 0x000000000000>]"⟩

def shownNode : LR.Shown :=
  ⟨"Element", "<element.Element object at 0x000000000000>"⟩

def Phrase.shown : Phrase → LR.Shown
  | .nothing => ⟨"NoneType", "None"⟩
  | .text s => ⟨"str", Text.quoted s⟩
  | .number n => ⟨"int", toString n⟩
  | .exprs _ | .stmts _ | .catchers _ | .params _ | .fields _ | .structs _ | .funcs _ => shownList
  | .expr _ | .assignment _ | .stmt _ | .catcher _ | .param _ | .field _ | .struct _ | .func _
  | .program _ => shownNode

end CallByNeed.Language
