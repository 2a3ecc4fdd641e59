import CallByNeed.Grammar.Basic

set_option autoImplicit false
set_option relaxedAutoImplicit false

/-!
The sets of first symbols and of following symbols, by iteration up to a fixed point. Sets are lists
in the order of discovery. A grammar computes them once: what was computed, even in part, is kept
when rules are added later.
-/

namespace CallByNeed.Grammar

abbrev Sets := OrderedMap (List String)

def Sets.addTo (sets : Sets) (key symbol : String) : Sets × Bool :=
  if ((sets.get? key).getD []).contains symbol then (sets, false)
  else (sets.modify key (· ++ [symbol]), true)

def Sets.addAll (sets : Sets) (key : String) (symbols : List String) : Sets × Bool :=
  symbols.foldl (fun (sets, changed) symbol =>
    let (sets, new) := sets.addTo key symbol
    (sets, changed || new)) (sets, false)

/-- The symbols that a list of symbols can start with, after those in `found`. -/
def Sets.firstFrom (sets : Sets) (found : List String) :
    List String → Except Fault (List String)
  | [] => .ok (found ++ [emptyMark])
  | symbol :: rest =>
    match sets.get? symbol with
    | none => .error (.undefinedSymbol symbol)
    | some set =>
      let found := (set.filter (· != emptyMark)).foldl
        (fun found s => if found.contains s then found else found ++ [s]) found
      if set.contains emptyMark then sets.firstFrom found rest else .ok found

def Sets.firstOf (sets : Sets) (symbols : List String) : Except Fault (List String) :=
  sets.firstFrom [] symbols

/-- Sets during a computation: whether they changed, and the fault that stopped it. -/
structure Progress where
  sets : Sets
  changed : Bool := false
  fault : Option Fault := none

def Progress.andThen (p : Progress) (f : Sets → Progress) : Progress :=
  if p.fault.isSome then p
  else
    let q := f p.sets
    { q with changed := p.changed || q.changed }

/-- Repeats a pass until it changes nothing or fails, at most `fuel` times. -/
def settle (pass : Sets → Progress) : Nat → Sets → Sets × Option Fault
  | 0, sets => (sets, none)
  | fuel + 1, sets =>
    let p := pass sets
    if p.fault.isSome ∨ !p.changed then (p.sets, p.fault) else settle pass fuel p.sets

def firstStep (rule : Production) (sets : Sets) : Progress :=
  match sets.firstOf rule.symbols with
  | .error fault => { sets := sets, fault := some fault }
  | .ok symbols =>
    let (sets, changed) := sets.addAll rule.name symbols
    { sets := sets, changed := changed }

def firstPass (g : Grammar) (sets : Sets) : Progress :=
  g.nonterminals.keys.foldl (fun p name => p.andThen fun sets =>
    match g.rulesOf name with
    | [] => { sets := sets, fault := some (.undefinedSymbol name) }
    | rules => rules.foldl (fun p rule => p.andThen (firstStep rule)) { sets := sets })
    { sets := sets }

/-- More passes than there are pairs of a set and a member, one of which each pass adds. -/
def settleFuel (g : Grammar) : Nat :=
  let symbols := g.terminals.keys.length + g.nonterminals.keys.length + g.first.keys.length + 2
  symbols * symbols + 1

/-- Computes the sets of first symbols, unless that was done. -/
def computeFirst (g : Grammar) : Result Sets :=
  if !g.first.isEmpty then (.ok g.first, g)
  else
    let sets : Sets := g.terminals.keys.foldl (fun sets t => sets.insert t [t]) {}
    let sets := sets.insert endMark [endMark]
    let sets := g.nonterminals.keys.foldl (fun sets n => sets.insert n []) sets
    match settle g.firstPass g.settleFuel sets with
    | (sets, none) => (.ok sets, { g with first := sets })
    | (sets, some fault) => (.error fault, { g with first := sets })

/-- The contribution of a rule's symbols, from some place on, to what can follow nonterminals. -/
def followSymbols (g : Grammar) (name : String) : List String → Sets → Progress
  | [], sets => { sets := sets }
  | symbol :: rest, sets =>
    if g.nonterminals.contains symbol then
      match Sets.firstOf g.first rest with
      | .error fault => { sets := sets, fault := some fault }
      | .ok first =>
        let (sets, changed) := sets.addAll symbol (first.filter (· != emptyMark))
        let (sets, more) :=
          if first.contains emptyMark then sets.addAll symbol ((sets.get? name).getD [])
          else (sets, false)
        ({ sets := sets, changed := changed || more } : Progress).andThen
          (g.followSymbols name rest)
    else g.followSymbols name rest sets

def followPass (g : Grammar) (sets : Sets) : Progress :=
  g.rules.foldl (fun p rule => p.andThen (g.followSymbols rule.name rule.symbols))
    { sets := sets }

/-- Computes the sets of following symbols, unless that was done. The end mark follows the given
symbol, or else the name of the first rule. -/
def computeFollow (g : Grammar) (start : Option String) : Result Sets :=
  if !g.follow.isEmpty then (.ok g.follow, g)
  else
    match if g.first.isEmpty then g.computeFirst else (.ok g.first, g) with
    | (.error fault, g) => (.error fault, g)
    | (.ok _, g) =>
      let sets : Sets := OrderedMap.ofKeys g.nonterminals.keys []
      match (start.filter (!·.isEmpty)).or (g.rules[0]?.map (·.name)) with
      | none => (.error .noRule, { g with follow := sets })
      | some start =>
        match settle g.followPass g.settleFuel (sets.insert start [endMark]) with
        | (sets, none) => (.ok sets, { g with follow := sets })
        | (sets, some fault) => (.error fault, { g with follow := sets })

end CallByNeed.Grammar
