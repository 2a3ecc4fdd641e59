import CallByNeed.Grammar.RuleAction
import CallByNeed.Grammar.Tables

set_option autoImplicit false
set_option relaxedAutoImplicit false

/-!
Parsers that run on the tables of a grammar.
-/

namespace CallByNeed.Grammar

structure ParserRule where
  text : String
  name : String
  size : Nat
  /-- The action, or why it cannot be called. -/
  action : Option (Except CallFault RuleAction)
deriving Inhabited

/-- A parser: rules, tables, and what it does at an error. -/
structure Parser where
  rules : Array ParserRule
  actions : Array ActionRow
  gotos : Array (OrderedMap Nat)
  /-- Whether the tables were saved ones, which have no rows without entries. -/
  loaded : Bool := false
  recovery : Option (Except CallFault (LR.Recovery String)) := none
deriving Inhabited

namespace Parser

def hasForbiddenState (actions : Array ActionRow) : Bool :=
  actions.any fun row => row.entries.length = 1 && row.entries.all (·.2.isNone)

/-- The rule of a state that has one reduction and nothing else. -/
def defaulted? (p : Parser) (state : Nat) : Option Nat :=
  match (p.actions[state]?).map OrderedMap.entries with
  | some [(_, some (.reduce rule))] => some rule
  | _ => none

/-- The states that have one reduction and nothing else, with its rule. -/
def defaulted (p : Parser) : List (Nat × Nat) :=
  (List.range p.actions.size).filterMap fun state =>
    (p.defaulted? state).map fun rule => (state, rule)

def automaton (p : Parser) (useDefaults : Bool) : LR.Automaton String :=
  { action := fun state symbol => ((p.actions[state]?).bind fun row => row.get? symbol).join
    goto := fun state =>
      match p.gotos[state]? with
      | none => none
      | some row => if p.loaded && row.isEmpty then none else some row.get?
    defaulted := fun state => if useDefaults then p.defaulted? state else none
    rule := fun number => (p.rules[number]?).map fun r => ⟨r.name, r.size, r.text⟩
    endMark := endMark
    error := errorMark
    label := id }

structure Options where
  tracking : Bool := false
  logging : Bool := false
  useDefaults : Bool := true

def reportLimit : Nat := 100

def machine (p : Parser) (o : Options) : LR.Machine String Value CallFault :=
  { automaton := p.automaton o.useDefaults
    reduce := fun number slice =>
      match (p.rules[number]?).bind (·.action) with
      | some (.ok action) => action.reduction slice
      | some (.error fault) => .failed (.called fault)
      | none => .made slice.head
    blank := none
    errorValue := some errorMark
    recovery := p.recovery
    reportLimit := some reportLimit
    shown := fun
      | none => ⟨"NoneType", "None"⟩
      | some s => ⟨"str", Text.quoted s⟩
    tracking := o.tracking
    logging := o.logging }

def stepLimit : Nat := 1000000000

/-- Runs a parse; `recovered` is whether errors are reported from the start. -/
def run (p : Parser) (o : Options) (input : List (LR.Feed String Value)) (recovered : Bool) :
    LR.Outcome String Value CallFault × LR.Configuration String Value CallFault :=
  let m := p.machine o
  m.run stepLimit (m.initial input none recovered)

end Parser

end CallByNeed.Grammar
