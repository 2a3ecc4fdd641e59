import CallByNeed.Call
import CallByNeed.LR.Machine

set_option autoImplicit false
set_option relaxedAutoImplicit false

/-!
What rules make of the symbols they take. Values are texts or nothing.
-/

namespace CallByNeed.Grammar

/-- The value of a symbol: a text, or nothing. -/
abbrev Value := Option String

abbrev ParseFault := LR.Fault CallFault

abbrev Entry := LR.Entry String Value

inductive RuleAction where
  /-- Its value is its name with the values of its symbols in parentheses. -/
  | tree
  /-- It has no value. -/
  | nothing
  /-- Its value is that of its first symbol. -/
  | pass
  /-- It refuses its symbols. -/
  | refuse
  /-- As a tree, with the extents of all its symbols. -/
  | span
  /-- Its value is that of the symbol before it. -/
  | left
  /-- Its value lists the values of its symbols. -/
  | slice
  /-- Its value lists its symbols. -/
  | names
  /-- As a tree, at a line and position of its own. -/
  | place
  /-- As a tree, but refused if the first symbol has the given value. -/
  | refuseIf (value : String)
deriving DecidableEq, Repr, Inhabited

def RuleAction.ofText (name : String) : RuleAction :=
  match name with
  | "none" => .nothing
  | "pass" => .pass
  | "raise" => .refuse
  | "span" => .span
  | "left" => .left
  | "slice" => .slice
  | "names" => .names
  | "setpos" => .place
  | _ => if name.startsWith "raise_if:" then .refuseIf (name.drop 9).toString else .tree

def tokenText (symbol : String) (value : Value) (line pos : Option Int) :
    Except ParseFault String :=
  match line, pos with
  | none, _ => .error (.noLine true)
  | _, none => .error (.noPos true)
  | some line, some pos =>
    .ok ("LexToken(" ++ symbol ++ "," ++ (value.map Text.quoted).getD "None" ++ "," ++
      toString line ++ "," ++ toString pos ++ ")")

def contentText (e : Entry) : Except ParseFault String :=
  match e.content with
  | .absent => .error .noContent
  | .value none => .ok "~"
  | .value (some s) => .ok s
  | .offender t => .ok ("!" ++ t.symbol)

/-- An entry as text: a token with its value and place, and any other symbol by its name. -/
def entryText (e : Entry) : Except ParseFault String :=
  match e.isToken, e.content with
  | true, .value v => tokenText e.symbol v e.line e.pos
  | _, _ => .ok e.symbol

/-- The extent of an entry as text; what is not known is zero. -/
def extentText (e : Entry) : String :=
  let line := e.line.getD 0
  let pos := e.pos.getD 0
  "@" ++ toString line ++ "," ++ toString pos ++ "," ++ toString line ++ "-" ++
    toString (e.endLine.getD line) ++ "," ++ toString pos ++ "-" ++ toString (e.endPos.getD pos)

def treeText (s : LR.Slice String Value) : Except ParseFault String := do
  let args ← s.args.mapM contentText
  return "(" ++ " ".intercalate (s.head.symbol :: args) ++ ")"

def withText (s : LR.Slice String Value) (text : String) : Entry :=
  { s.head with content := .value (some text) }

/-- What an action makes of the symbols of its rule; nothing if it refuses them. -/
def RuleAction.apply (action : RuleAction) (s : LR.Slice String Value) :
    Except ParseFault (Option Entry) :=
  match action with
  | .tree => do return some (withText s (← treeText s))
  | .nothing => .ok (some s.head)
  | .pass =>
    match s.args with
    | [] => .error .outOfRange
    | first :: _ =>
      match first.content with
      | .absent => .error .noContent
      | content => .ok (some { s.head with content := content })
  | .refuse => .ok none
  | .span => do
    let tree ← treeText s
    return some (withText s (tree ++ String.join ((s.head :: s.args).map extentText)))
  | .left =>
    match s.below with
    | [] => .error .outOfRange
    | top :: _ => do return some (withText s ("<" ++ (← contentText top) ++ ">"))
  | .slice => do
    let args ← s.args.mapM contentText
    return some (withText s ("[" ++ ",".intercalate args ++ "]"))
  | .names => do
    let names ← (s.head :: s.args).mapM entryText
    return some (withText s ("\x7b" ++ " ".intercalate names ++ "\x7d"))
  | .place => do
    let tree ← treeText s
    return some { withText s tree with line := some 99, pos := some 77 }
  | .refuseIf value => do
    let tree ← treeText s
    match s.args with
    | [] => .error .outOfRange
    | first :: _ =>
      match first.content with
      | .absent => .error .noContent
      | .value (some v) => return if v = value then none else some (withText s tree)
      | _ => return some (withText s tree)

def RuleAction.reduction (action : RuleAction) (s : LR.Slice String Value) :
    LR.Reduction String Value CallFault :=
  match action.apply s with
  | .error fault => .failed fault
  | .ok none => .refused
  | .ok (some head) => .made head

end CallByNeed.Grammar
