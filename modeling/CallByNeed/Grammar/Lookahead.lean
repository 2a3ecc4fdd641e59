import CallByNeed.Grammar.Digraph
import CallByNeed.Grammar.States

set_option autoImplicit false
set_option relaxedAutoImplicit false

/-!
Lookaheads: the terminals at which a state reduces by a rule that it has read to the end. They are
the terminals that can follow the rule's nonterminal where its reading began, collected along two
relations between moves by nonterminals: a move reads another that comes right after it and may be
empty, and a move is included in another that it ends.
-/

namespace CallByNeed.Grammar

abbrev Move := Nat × String

/-- One pass over the rules: a name with a rule of which all symbols can be empty can be empty. -/
def emptyPass (rules : List Production) (empty : List String) : List String :=
  rules.foldl (fun empty p =>
    if !empty.contains p.name && p.symbols.all empty.contains then p.name :: empty else empty)
    empty

/-- Passes until nothing changes, at most `fuel` of them. -/
def emptyFrom (rules : List Production) : Nat → List String → List String
  | 0, empty => empty
  | fuel + 1, empty =>
    let next := emptyPass rules empty
    if next.length = empty.length then empty else emptyFrom rules fuel next

def emptyNames (g : Grammar) : List String :=
  emptyFrom g.rules.toList (g.rules.size + 1) []

/-- What the computation of lookaheads works on. -/
structure Terrain where
  grammar : Grammar
  rules : Rules
  states : States
  empty : List String
  moves : List Move
  isMove : Std.HashMap Move Unit

namespace Terrain

def findMoves (g : Grammar) (rules : Rules) (states : States) : List Move :=
  (List.range states.states.size).flatMap fun state =>
    (distinct ((states.items state).filterMap (·.next? rules))).filterMap fun symbol =>
      if g.nonterminals.contains symbol then some (state, symbol) else none

def ofStates (g : Grammar) (rules : Rules) (states : States) : Terrain :=
  let moves := findMoves g rules states
  { grammar := g, rules := rules, states := states, empty := g.emptyNames, moves := moves
    isMove := moves.foldl (fun m move => m.insert move ()) {} }

/-- The terminals that can come right after a move. -/
def directReads (t : Terrain) (move : Move) : List String :=
  let target := (t.states.move? move.1 move.2).getD 0
  let terms := distinct ((t.states.items target).filterMap fun item =>
    (item.next? t.rules).filter t.grammar.terminals.contains)
  let isStart := move.1 = 0 ∧ (t.rules[0]?).any (·.symbols == [move.2])
  if isStart then terms ++ [endMark] else terms

/-- The moves that come right after a move and may be empty. -/
def reads (t : Terrain) (move : Move) : List Move :=
  match t.states.move? move.1 move.2 with
  | none => []
  | some target => (t.states.items target).filterMap fun item =>
    match item.next? t.rules with
    | none => none
    | some symbol => if t.empty.contains symbol then some (target, symbol) else none

/-- What following an item to its end finds: the moves on the way that end the item's rule, and the
last state. -/
def walk (t : Terrain) : Nat → List String → List Move × Nat
  | state, [] => ([], state)
  | state, symbol :: rest =>
    let ends := t.isMove.contains (state, symbol) &&
      rest.all fun s => !t.grammar.terminals.contains s && t.empty.contains s
    let (moves, last) := t.walk ((t.states.move? state symbol).getD 0) rest
    (if ends then (state, symbol) :: moves else moves, last)

/-- Whether an item that is followed to its end could be `r`: the symbols before the dot of `r` are
those of the item with its own dot, less the first. -/
def leadsTo (t : Terrain) (item r : Item) : Bool :=
  let p := item.production t.rules
  let q := r.production t.rules
  p.name == q.name && p.symbols.length == q.symbols.length &&
    (dotted q r.dot).take r.dot == ((dotted p item.dot).drop 1).take r.dot

/-- The moves that include a move, and the items at which its nonterminal may be reduced. -/
structure Trace where
  move : Move
  includes : List Move
  lookbacks : List (Nat × Item)

def trace (t : Terrain) (move : Move) : Trace :=
  let walks := ((t.states.items move.1).filter fun item =>
    (item.production t.rules).name == move.2).map fun item =>
      let (moves, last) := t.walk move.1 ((item.production t.rules).symbols.drop item.dot)
      (moves, ((t.states.items last).filter (t.leadsTo item)).map fun r => (last, r))
  { move := move, includes := walks.flatMap (·.1), lookbacks := walks.flatMap (·.2) }

def included (traces : List Trace) : Std.HashMap Move (List Move) :=
  traces.foldl (fun m trace => trace.includes.foldl (fun m inner =>
    m.insert inner ((m.get? inner).getD [] ++ [trace.move])) m) {}

end Terrain

abbrev Lookaheads := Std.HashMap (Nat × Item) (List String)

def Lookaheads.add (l : Lookaheads) (key : Nat × Item) (symbols : List String) : Lookaheads :=
  l.insert key (symbols.foldl (fun set a => if set.contains a then set else set ++ [a])
    ((l.get? key).getD []))

def lookaheads (g : Grammar) (rules : Rules) (states : States) : Lookaheads :=
  let t := Terrain.ofStates g rules states
  let readSets := unions t.moves t.reads (Pool.ofSets t.moves t.directReads)
  let traces := t.moves.map t.trace
  let included := Terrain.included traces
  let followSets := unions t.moves (fun move => (included.get? move).getD []) readSets
  traces.foldl (fun l trace =>
    let symbols := followSets.get trace.move
    trace.lookbacks.foldl (fun l key => l.add key symbols) l) {}

end CallByNeed.Grammar
