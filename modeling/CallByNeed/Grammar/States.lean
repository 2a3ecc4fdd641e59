import Std.Data.HashMap
import CallByNeed.Grammar.Item

set_option autoImplicit false
set_option relaxedAutoImplicit false

/-!
The states of a parser: closed lists of items. A state is known by its kernel, the list of items
that a move to it advances, in their order.

Closures are numbered, and a rule is stamped with the number of the closure that it was added to. A
closure does not add a rule that bears its number. Stamps are kept by the grammar, so a second
construction, which numbers its closures from one again, may find rules stamped already.
-/

namespace CallByNeed.Grammar

abbrev RuleIndex := Std.HashMap String (List Nat)

/-- The index of some rules. The rule for the start symbol is not in it. -/
def ruleIndex (rules : Rules) : RuleIndex :=
  rules.foldr (fun p index =>
    if p.number = 0 then index
    else index.insert p.name (p.number :: (index.get? p.name).getD [])) {}

/-- The states found so far. -/
structure States where
  /-- The items of each state. -/
  states : Array (List Item) := #[]
  /-- The number of the state of a kernel. -/
  numbers : Std.HashMap (List Item) Nat := {}
  /-- The moves of each state by symbol. -/
  moves : Array (Std.HashMap String Nat) := #[]
  /-- The number of the last closure. -/
  closures : Nat := 0
  /-- The stamps of the rules; a rule's stamp is one place before its number. -/
  stamps : Array Nat

/-- Adds the rules of the given numbers to a closure, unless they bear its stamp. -/
def addRules (closure : Nat) (items : Array Item) (stamps : Array Nat) (numbers : List Nat) :
    Array Item × Array Nat :=
  numbers.foldl (fun (items, stamps) number =>
    if (stamps[number - 1]?).getD 0 = closure then (items, stamps)
    else (items.push ⟨number, 0⟩, stamps.setIfInBounds (number - 1) closure)) (items, stamps)

/-- Goes through the items of a closure from place `i` on and adds the rules that may start at a
dot. Every rule is added at most once, so `fuel` steps suffice. -/
def closeFrom (rules : Rules) (index : RuleIndex) (closure : Nat) :
    Nat → Nat → Array Item → Array Nat → Array Item × Array Nat
  | 0, _, items, stamps => (items, stamps)
  | fuel + 1, i, items, stamps =>
    match items[i]? with
    | none => (items, stamps)
    | some item =>
      let numbers := match item.next? rules with
        | none => []
        | some symbol => (index.get? symbol).getD []
      let (items, stamps) := addRules closure items stamps numbers
      closeFrom rules index closure fuel (i + 1) items stamps

def States.push (s : States) (rules : Rules) (index : RuleIndex) (kernel : List Item) : States :=
  let closure := s.closures + 1
  let (items, stamps) :=
    closeFrom rules index closure (kernel.length + rules.size + 1) 0 kernel.toArray s.stamps
  { s with
    states := s.states.push items.toList
    numbers := s.numbers.insert kernel s.states.size
    closures := closure
    stamps := stamps }

def itemSymbols (rules : Rules) (items : List Item) : List String :=
  distinct (items.flatMap fun item => (item.production rules).parts)

def kernelAfter (rules : Rules) (items : List Item) (symbol : String) : List Item :=
  (items.filter fun item => item.next? rules == some symbol).map Item.advance

def exploreSymbols (rules : Rules) (index : RuleIndex) (items : List Item) :
    List String → Std.HashMap String Nat → States → Std.HashMap String Nat × States
  | [], moves, s => (moves, s)
  | symbol :: rest, moves, s =>
    match kernelAfter rules items symbol with
    | [] => exploreSymbols rules index items rest moves s
    | kernel =>
      match s.numbers.get? kernel with
      | some number => exploreSymbols rules index items rest (moves.insert symbol number) s
      | none =>
        exploreSymbols rules index items rest (moves.insert symbol s.states.size)
          (s.push rules index kernel)

/-- Finds the moves of all states from number `i` on, at most `fuel` of them. -/
def exploreFrom (rules : Rules) (index : RuleIndex) : Nat → Nat → States → States
  | 0, _, s => s
  | fuel + 1, i, s =>
    match s.states[i]? with
    | none => s
    | some items =>
      let (moves, s) := exploreSymbols rules index items (itemSymbols rules items) {} s
      exploreFrom rules index fuel (i + 1) { s with moves := s.moves.push moves }

/-- More than the number of lists of different items. -/
def statesBound (rules : Rules) : Nat :=
  let items := rules.foldl (fun n p => n + p.symbols.length + 1) 0
  Nat.pow (items + 1) (items + 1)

/-- All states of a grammar, the start state first. -/
def buildStates (rules : Rules) (stamps : Array Nat) : States :=
  let index := ruleIndex rules
  let start : States := { stamps := stamps }
  exploreFrom rules index (statesBound rules) 0 (start.push rules index [⟨0, 0⟩])

def States.move? (s : States) (state : Nat) (symbol : String) : Option Nat :=
  (s.moves[state]?).bind fun moves => moves.get? symbol

def States.items (s : States) (state : Nat) : List Item :=
  (s.states[state]?).getD []

end CallByNeed.Grammar
