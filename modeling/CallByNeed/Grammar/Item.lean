import CallByNeed.Grammar.Basic

set_option autoImplicit false
set_option relaxedAutoImplicit false

/-!
Items: rules with a dot that shows how much of them has been read.
-/

namespace CallByNeed.Grammar

/-- A rule, by its number, with a dot before the symbol at a place. -/
structure Item where
  rule : Nat
  dot : Nat
deriving DecidableEq, Repr, Inhabited, Hashable

abbrev Rules := Array Production

def numbered? (g : Grammar) : Option Rules :=
  g.startRule.map fun rule => #[rule] ++ g.rules

def dotted (p : Production) (dot : Nat) : List String :=
  p.symbols.take dot ++ "." :: p.symbols.drop dot

def dottedText (p : Production) (dot : Nat) : String :=
  arrowText p.name (dotted p dot)

/-- The symbol before the dot. A dot at the start has the last symbol before it, or itself in an
empty rule. -/
def symbolBefore (p : Production) (dot : Nat) : String :=
  match dot with
  | 0 => (dotted p 0).getLast?.getD "."
  | k + 1 => p.symbols[k]?.getD "."

namespace Item

def production (rules : Rules) (item : Item) : Production :=
  (rules[item.rule]?).getD default

def text (rules : Rules) (item : Item) : String :=
  dottedText (item.production rules) item.dot

def next? (rules : Rules) (item : Item) : Option String :=
  (item.production rules).symbols[item.dot]?

def advance (item : Item) : Item :=
  { item with dot := item.dot + 1 }

end Item

/-- An item with the rules that may start at its dot and the symbol before the dot. -/
structure ItemView where
  text : String
  after : List Production
  before : String

def itemViews (g : Grammar) : Except Fault (List (List ItemView)) :=
  match g.numbered? with
  | none => .error (.noStart .size)
  | some rules => .ok <| rules.toList.map fun p =>
    (List.range (p.symbols.length + 1)).map fun dot =>
      { text := dottedText p dot
        after := match p.symbols[dot]? with
          | none => []
          | some symbol => g.rulesOf symbol
        before := symbolBefore p dot }

end CallByNeed.Grammar
