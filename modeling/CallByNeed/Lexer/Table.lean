import CallByNeed.Lexer.Description

set_option autoImplicit false
set_option relaxedAutoImplicit false

/-!
The tables of lexers: for each state the rules in the order in which they are tried, the characters
that are passed over, and the functions for errors and for the end of the input. Functions stand in
tables by name.
-/

namespace CallByNeed.Lexer

/-- What becomes of the text that a rule takes. -/
inductive Slot where
  /-- A function of the description gets it. -/
  | call (function kind : String)
  | token (kind : String)
  | drop
deriving DecidableEq, Repr, Inhabited

def Slot.text : Slot → String
  | .call function kind => "(" ++ Text.quoted function ++ ", " ++ Text.quoted kind ++ ")"
  | .token kind => "(None, " ++ Text.quoted kind ++ ")"
  | .drop => "(None, None)"

structure TableRule where
  pattern : Pattern
  slot : Slot
deriving Inhabited

/-- Rules that are tried together. -/
structure Master where
  /-- All the rules as one pattern. -/
  text : String
  rules : List TableRule
  /-- The slots by the numbers of groups. -/
  index : List (Option Slot)
deriving Inhabited

structure Table where
  /-- The names of the tokens, each once. -/
  tokens : List Datum := []
  flags : Nat := 0
  /-- A text of characters, or a record whose names are the characters. -/
  literals : Datum := .text ""
  states : OrderedMap StateKind := {}
  masters : OrderedMap (List Master) := {}
  ignored : OrderedMap String := {}
  errors : OrderedMap (Option String) := {}
  ends : OrderedMap String := {}
deriving Inhabited

def Table.isLiteral (t : Table) (text : String) : Bool :=
  (t.literals.parts?.getD []).any fun literal => literal.text? == some text

def Master.match? (m : Master) (data : Array Char) (i : Nat) : Option (Slot × Nat) :=
  m.rules.findSome? fun rule => (rule.pattern.match? data i).map fun stop => (rule.slot, stop)

def slot? (d : Description) (rules : Rules) (name : String) : Option Slot := do
  let kind ← rules.kinds.get? name
  match ← d.members.get? name with
  | .function _ => return .call name kind
  | .plain _ => return if Description.marksIgnored name then .drop else .token kind

/-- Tries rules together: this fails if their groups have one name. -/
def master? (d : Description) (rules : Rules) (named : List (String × String)) : Option Master := do
  let texts := named.map (·.2)
  let whole ← Pattern.read? (.ofFlags d.flags) (['|'].intercalate (texts.map String.toList))
  let tableRules ← named.mapM fun (name, text) => do
    return ⟨(← Pattern.read? (.ofFlags d.flags) text.toList).pattern, ← slot? d rules name⟩
  let last := whole.names.foldl (fun n entry => max n entry.2) 0
  let index := (List.range (last + 1)).map fun i =>
    (whole.names.find? (·.2 == i)).bind fun entry => slot? d rules entry.1
  return ⟨"|".intercalate texts, tableRules, index⟩

/-- Puts rules together as far as they can be tried together, halving the list otherwise. The first
argument bounds the number of rules. -/
def masters? (d : Description) (rules : Rules) : Nat → List (String × String) → Option (List Master)
  | 0, _ => none
  | fuel + 1, named =>
    match master? d rules named with
    | some m => some [m]
    | none =>
      if named.length < 2 then none
      else do
        let half := named.length / 2
        let left ← masters? d rules fuel (named.take half)
        let right ← masters? d rules fuel (named.drop half)
        return left ++ right

def tableVersion : String := "3.10"

def mapText {α : Type} (shown : α → String) (m : OrderedMap α) : String :=
  "\x7b" ++ ", ".intercalate (m.entries.map fun (key, value) =>
    Text.quoted key ++ ": " ++ shown value) ++ "\x7d"

def Master.shown (m : Master) : String :=
  let index := m.index.map fun slot => (slot.map Slot.text).getD "None"
  "(" ++ Text.quoted m.text ++ ", [" ++ ", ".intercalate index ++ "])"

def Table.statesText (states : OrderedMap StateKind) : String :=
  mapText (fun kind => Text.quoted kind.text) states

def Table.render (t : Table) (name : String) : String :=
  let tokens := t.tokens.mergeSort Datum.atMost
  let lines := [
    "# " ++ name ++ ".py. This file automatically created by PLY (version 3.11). Don't edit!",
    "_tabversion   = " ++ Text.quoted tableVersion,
    "_lextokens    = set(" ++ (Datum.tuple tokens).quoted ++ ")",
    "_lexreflags   = " ++ toString t.flags,
    "_lexliterals  = " ++ t.literals.quoted,
    "_lexstateinfo = " ++ Table.statesText t.states,
    "_lexstatere   = " ++ mapText (fun masters =>
      "[" ++ ", ".intercalate (masters.map Master.shown) ++ "]") t.masters,
    "_lexstateignore = " ++ mapText Text.quoted t.ignored,
    "_lexstateerrorf = " ++ mapText (fun f => (f.map Text.quoted).getD "None") t.errors,
    "_lexstateeoff = " ++ mapText Text.quoted t.ends]
  String.join (lines.map (· ++ "\n"))

/-- The functions that a table names, in the order in which they are looked up. A state without a
function for errors has none. -/
def Table.functionNames (t : Table) : List (Option String) :=
  let called := t.masters.entries.flatMap fun (_, masters) => masters.flatMap fun m =>
    m.index.filterMap fun slot =>
      match slot with
      | some (.call name _) => some (some name)
      | _ => none
  called ++ t.errors.entries.map (·.2) ++ t.ends.entries.map fun (_, name) => some name

end CallByNeed.Lexer
