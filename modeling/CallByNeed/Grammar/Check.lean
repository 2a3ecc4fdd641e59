import CallByNeed.Grammar.Basic

set_option autoImplicit false
set_option relaxedAutoImplicit false

/-!
What can be wrong with a grammar as a whole: symbols that are not defined, not used, not reached
from the start symbol, or that derive no text of terminals.
-/

namespace CallByNeed.Grammar

/-- Follows rules from the symbols in `pending` until no symbol is new; `fuel` bounds the number of
symbols that are looked at. -/
def reach (g : Grammar) : Nat → List String → List String → List String
  | 0, reached, _ => reached
  | _ + 1, reached, [] => reached
  | fuel + 1, reached, symbol :: pending =>
    if reached.contains symbol then g.reach fuel reached pending
    else g.reach fuel (symbol :: reached) ((g.rulesOf symbol).flatMap (·.symbols) ++ pending)

def symbolCount (g : Grammar) : Nat :=
  g.rules.foldl (fun n p => n + p.symbols.length) 0

/-- The nonterminals that the start symbol does not lead to. -/
def unreachable (g : Grammar) : Except Fault (List String) :=
  match g.startRule with
  | none => .error (.noStart .symbols)
  | some rule =>
    let reached := g.reach (g.symbolCount + rule.symbols.length + 1) [] rule.symbols
    .ok (g.nonterminals.keys.filter fun s => !reached.contains s)

/-- One pass over the names with rules: a name with a rule of which all symbols end does so too. -/
def endingPass (g : Grammar) (ending : List String) : List String :=
  g.ruleNames.foldl (fun ending name =>
    if !ending.contains name &&
        (g.rulesOf name).any (fun p => p.symbols.all ending.contains) then name :: ending
    else ending) ending

/-- Passes until nothing changes, at most `fuel` of them. -/
def endingSymbols (g : Grammar) : Nat → List String → List String
  | 0, ending => ending
  | fuel + 1, ending =>
    let next := g.endingPass ending
    if next.length = ending.length then ending else g.endingSymbols fuel next

/-- The symbols with rules that derive no text of terminals. -/
def infinite (g : Grammar) : List String :=
  let onlyTerminals := (g.terminals.keys ++ [endMark]).filter fun s => !g.nonterminals.contains s
  let ending := g.endingSymbols (g.rules.size + 1) onlyTerminals
  (distinct (g.terminals.keys ++ [endMark] ++ g.nonterminals.keys)).filter fun s =>
    !ending.contains s && (g.hasRules s || g.terminals.contains s || s == errorMark)

def isUndefined (g : Grammar) (symbol : String) : Bool :=
  !g.hasRules symbol && !g.terminals.contains symbol && symbol != errorMark

def undefinedUses (g : Grammar) : List (String × Production) :=
  g.allRules.flatMap fun p => (p.symbols.filter g.isUndefined).map fun s => (s, p)

def unusedTerminals (g : Grammar) : List String :=
  (g.terminals.entries.filter fun (s, uses) => s != errorMark && uses.isEmpty).map (·.1)

/-- The first rules of the nonterminals that no rule uses. -/
def unusedRules (g : Grammar) : List Production :=
  (g.nonterminals.entries.filter fun (_, uses) => uses.isEmpty).filterMap fun (s, _) =>
    (g.rulesOf s).head?

def unusedPrecedences (g : Grammar) : List (String × Associativity) :=
  (g.precedences.entries.filter fun (s, _) =>
    !g.terminals.contains s && !g.usedPrecedences.contains s).map fun (s, p) =>
      (s, p.associativity)

end CallByNeed.Grammar
