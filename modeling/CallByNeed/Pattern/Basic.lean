import Std.Data.HashSet
import CallByNeed.Text.Blank
import CallByNeed.Text.Digit
import CallByNeed.Text.Word

set_option autoImplicit false
set_option relaxedAutoImplicit false

/-!
Patterns of text and where they may end. A pattern may end at several places; their order says which
one is preferred, so that a choice prefers its first part and a repetition prefers more or fewer
rounds.
-/

namespace CallByNeed

inductive Pattern.CharClass where
  | digit
  | word
  | blank
deriving DecidableEq, Repr

def Pattern.CharClass.contains : Pattern.CharClass → Char → Bool
  | .digit, c => Text.isDigit c
  | .word, c => Text.isWord c
  | .blank, c => Text.isBlank c

inductive Pattern.SetItem where
  | range (low high : Char)
  | members (cls : Pattern.CharClass)
  | others (cls : Pattern.CharClass)
deriving DecidableEq, Repr

def Pattern.SetItem.contains : Pattern.SetItem → Char → Bool
  | .range low high, c => low ≤ c ∧ c ≤ high
  | .members cls, c => cls.contains c
  | .others cls, c => !cls.contains c

/-- A set of characters: some parts, or everything else. -/
structure Pattern.CharSet where
  items : List Pattern.SetItem
  negated : Bool := false
deriving DecidableEq, Repr

def Pattern.CharSet.contains (s : Pattern.CharSet) (c : Char) : Bool :=
  s.items.any (·.contains c) != s.negated

inductive Pattern.Place where
  | start
  /-- The end, or before a line end that ends the text. -/
  | lastLine
  | stop
  | wordEdge
  /-- No word begins or ends there, and the text is not empty. -/
  | noWordEdge
deriving DecidableEq, Repr

inductive Pattern where
  | empty
  | set (s : Pattern.CharSet)
  | seq (first second : Pattern)
  | alt (first second : Pattern)
  /-- Any number of rounds, as many or as few as possible. -/
  | star (body : Pattern) (greedy : Bool)
  /-- The body or nothing. -/
  | optional (body : Pattern) (greedy : Bool)
  /-- The preferred end of the body and no other. -/
  | atomic (body : Pattern)
  /-- Nothing, where the body follows or does not follow. -/
  | ahead (body : Pattern) (follows : Bool)
  | place (p : Pattern.Place)
deriving DecidableEq, Repr, Inhabited

namespace Pattern

def isWordAt (s : Array Char) (i : Nat) : Bool :=
  (s[i]?).any Text.isWord

def isWordEdge (s : Array Char) (i : Nat) : Bool :=
  (i != 0 && isWordAt s (i - 1)) != isWordAt s i

def Place.holds (s : Array Char) (i : Nat) : Place → Bool
  | .start => i == 0
  | .lastLine => i == s.size || (i + 1 == s.size && s[i]? == some '\n')
  | .stop => i == s.size
  | .wordEdge => isWordEdge s i
  | .noWordEdge => s.size != 0 && !isWordEdge s i

/-- Places in the order in which they were found, each once. -/
structure Found where
  /-- The places, the last one first. -/
  places : List Nat := []
  seen : Std.HashSet Nat := {}

def Found.add (f : Found) (i : Nat) : Found :=
  if f.seen.contains i then f else ⟨i :: f.places, f.seen.insert i⟩

def distinctPlaces (places : List Nat) : List Nat :=
  match places with
  | [] => []
  | [i] => [i]
  | places => (places.foldl Found.add {}).places.reverse

/-- The ends after any number of rounds from a place, more rounds first. A round that ends where it
began is the last. -/
def manyRounds (body : Nat → List Nat) : Nat → Nat → Found → Found
  | 0, i, found => found.add i
  | fuel + 1, i, found =>
    if found.seen.contains i then found
    else ((body i).foldl (fun found e =>
      if e ≤ i then found.add i else manyRounds body fuel e found) found).add i

/-- The ends after any number of rounds from a place, fewer rounds first. -/
def fewRounds (body : Nat → List Nat) : Nat → Nat → Found → Found
  | 0, i, found => found.add i
  | fuel + 1, i, found =>
    if found.seen.contains i then found
    else (body i).foldl (fun found e =>
      if e ≤ i then found else fewRounds body fuel e found) (found.add i)

/-- The places where a pattern that begins at a place may end, the preferred one first. -/
def ends (s : Array Char) : Pattern → Nat → List Nat
  | .empty, i => [i]
  | .set cs, i =>
    match s[i]? with
    | some c => if cs.contains c then [i + 1] else []
    | none => []
  | .seq p q, i => distinctPlaces ((ends s p i).flatMap (ends s q))
  | .alt p q, i => distinctPlaces (ends s p i ++ ends s q i)
  | .star p greedy, i =>
    let rounds := if greedy then manyRounds else fewRounds
    (rounds (ends s p) (s.size + 1 - i) i {}).places.reverse
  | .optional p greedy, i =>
    distinctPlaces (if greedy then ends s p i ++ [i] else i :: ends s p i)
  | .atomic p, i => (ends s p i).take 1
  | .ahead p follows, i => if (ends s p i).isEmpty == follows then [] else [i]
  | .place p, i => if p.holds s i then [i] else []

/-- Where a pattern that begins at a place ends, if it is there. -/
def match? (p : Pattern) (s : Array Char) (i : Nat) : Option Nat :=
  (p.ends s i).head?

end Pattern

end CallByNeed
