import CallByNeed.Text.Quoted

set_option autoImplicit false
set_option relaxedAutoImplicit false

/-!
What a shift-reduce parser keeps on its stack, over any type `S` of grammar symbols and any type `V`
of values, and the faults that can stop a parse. An entry knows where it starts and, if it was
tracked, where it ends.
-/

namespace CallByNeed.LR

/-- A token as a parser receives it. Its line or position may be missing. -/
structure Token (S V : Type) where
  symbol : S
  value : V
  line : Option Int
  pos : Option Int
deriving Repr, Inhabited

structure Feed (S V : Type) where
  token : Token S V
  line : Int
  pos : Int
deriving Repr, Inhabited

inductive Content (S V : Type) where
  /-- Nothing: the end mark has no content. -/
  | absent
  /-- A value. -/
  | value (v : V)
  /-- The token at which an error arose. -/
  | offender (t : Token S V)
deriving Repr, Inhabited

structure Entry (S V : Type) where
  symbol : S
  content : Content S V := .absent
  /-- Whether the entry is a token as it was received. -/
  isToken : Bool := false
  line : Option Int := none
  pos : Option Int := none
  endLine : Option Int := none
  endPos : Option Int := none
deriving Repr, Inhabited

variable {S V E : Type}

def Entry.ofToken (t : Token S V) : Entry S V :=
  { symbol := t.symbol, content := .value t.value, isToken := true, line := t.line, pos := t.pos }

def Entry.token? (e : Entry S V) : Option (Token S V) :=
  match e.content with
  | .value v => some ⟨e.symbol, v, e.line, e.pos⟩
  | _ => none

/-- Why a parse stops without a result, `E` being the faults of what the parser calls: the token
source, the rules and what handles errors. -/
inductive Fault (E : Type) where
  /-- An entry has no line. -/
  | noLine (isToken : Bool)
  /-- An entry has no position. -/
  | noPos (isToken : Bool)
  /-- An entry has no content. -/
  | noContent
  /-- A list has no element at the place asked for. -/
  | outOfRange
  /-- A list has no element at the place to be set. -/
  | assignOutOfRange
  /-- An element was to be taken off an empty list. -/
  | emptyPop
  /-- The state has no gotos. -/
  | noGotoRow (state : Nat)
  /-- The state has no goto for the symbol. -/
  | noGoto (label : String)
  /-- The table names a rule that does not exist, or a rule received other values than its own. -/
  | brokenTable
  /-- More errors were reported than one parse allows. -/
  | tooManyErrors
  /-- Something that the parser called failed. -/
  | called (e : E)
deriving Repr, Inhabited

def entryClass (isToken : Bool) : String :=
  if isToken then "LexToken" else "YaccSymbol"

def Fault.message (calledMessage : E → String) : Fault E → String
  | .noLine isToken => "'" ++ entryClass isToken ++ "' object has no attribute 'lineno'"
  | .noPos isToken => "'" ++ entryClass isToken ++ "' object has no attribute 'lexpos'"
  | .noContent => "'" ++ entryClass false ++ "' object has no attribute 'value'"
  | .outOfRange => "list index out of range"
  | .assignOutOfRange => "list assignment index out of range"
  | .emptyPop => "pop from empty list"
  | .noGotoRow state => toString state
  | .noGoto label => Text.quoted label
  | .brokenTable => "broken table"
  | .tooManyErrors => "too many errors"
  | .called e => calledMessage e

def Entry.lineOrFault (e : Entry S V) : Except (Fault E) Int :=
  match e.line with
  | some n => .ok n
  | none => .error (.noLine e.isToken)

def Entry.posOrFault (e : Entry S V) : Except (Fault E) Int :=
  match e.pos with
  | some n => .ok n
  | none => .error (.noPos e.isToken)

end CallByNeed.LR
