import CallByNeed.Grammar.Fault
import CallByNeed.Grammar.Literal
import CallByNeed.OrderedMap

set_option autoImplicit false
set_option relaxedAutoImplicit false

/-!
Grammars that are built rule by rule. An operation that fails keeps what it had done: a literal
stays a terminal although its rule is refused.
-/

namespace CallByNeed

/-- A grammar under construction, with the sets computed so far. -/
structure Grammar where
  /-- The rule for the start symbol. -/
  startRule : Option Grammar.Production := none
  /-- The rules, from number one. -/
  rules : Array Grammar.Production := #[]
  /-- The terminals and the numbers of the rules that use them. -/
  terminals : OrderedMap (List Nat) := {}
  /-- The nonterminals and the numbers of the rules that use them. -/
  nonterminals : OrderedMap (List Nat) := {}
  precedences : OrderedMap Grammar.Precedence := {}
  /-- The names that rules took their precedence from by a mark. -/
  usedPrecedences : List String := []
  /-- The symbols that a symbol can start with, once computed. -/
  first : OrderedMap (List String) := {}
  /-- The symbols that can follow a nonterminal, once computed. -/
  follow : OrderedMap (List String) := {}
  /-- For each rule, the number of the closure that added it last. -/
  stamps : Array Nat := #[]
  /-- For each rule, how often tables reduce by it. -/
  reductions : Array Int := #[]
deriving Inhabited

namespace Grammar

abbrev Result (α : Type) := Except Fault α × Grammar

def ofTokens (tokens : List String) : Grammar :=
  { terminals := (OrderedMap.ofKeys tokens []).insert errorMark [] }

def rulesOf (g : Grammar) (name : String) : List Production :=
  g.rules.toList.filter (·.name == name)

def hasRules (g : Grammar) (name : String) : Bool :=
  g.rules.any (·.name == name)

def ruleNames (g : Grammar) : List String :=
  distinct (g.rules.toList.map (·.name))

/-- All rules by number, the rule for the start symbol first. -/
def allRules (g : Grammar) : List Production :=
  g.startRule.toList ++ g.rules.toList

def setPrecedence (g : Grammar) (symbol associativity : String) (level : Int) : Result Unit :=
  if !g.rules.isEmpty then (.error .latePrecedence, g)
  else if g.precedences.contains symbol then
    (.error (.definition (.precedenceTwice symbol)), g)
  else match Associativity.ofText? associativity with
    | none => (.error (.definition .badAssociativity), g)
    | some a => (.ok (), { g with precedences := g.precedences.insert symbol ⟨a, level⟩ })

def isNameChar (c : Char) : Bool :=
  c.isAlphanum || c == '_' || c == '-'

/-- Whether a text is a name; a line end after it does not count. -/
def isName (s : String) : Bool :=
  let chars := s.toList
  let chars := if chars.getLast? == some '\n' then chars.dropLast else chars
  !chars.isEmpty && chars.all isNameChar

def precedenceMark : String := "%prec"

def literal? (symbol : String) : Option String :=
  match symbol.toList with
  | '\'' :: _ | '"' :: _ => readLiteral? symbol
  | _ => none

/-- Checks the symbols of a rule from left to right and gives literals their text. Each literal
becomes a terminal. -/
def readSymbols (g : Grammar) (site : Site) (name : String) :
    List String → Result (List String)
  | [] => (.ok [], g)
  | symbol :: rest =>
    match literal? symbol with
    | some text =>
      if text.length > 1 then (.error (.definition (.longLiteral site symbol name)), g)
      else
        let g := { g with terminals := g.terminals.insertNew text [] }
        match g.readSymbols site name rest with
        | (.ok symbols, g) => (.ok (text :: symbols), g)
        | (.error fault, g) => (.error fault, g)
    | none =>
      if symbol.isEmpty then (.error .emptySymbol, g)
      else if isName symbol ∨ symbol = precedenceMark then
        match g.readSymbols site name rest with
        | (.ok symbols, g) => (.ok (symbol :: symbols), g)
        | (.error fault, g) => (.error fault, g)
      else (.error (.definition (.badSymbol site symbol name)), g)

def rightmostTerminal? (g : Grammar) (symbols : List String) : Option String :=
  symbols.reverse.find? g.terminals.contains

/-- The precedence of a rule and its symbols without the mark for it. Without a mark the precedence
is that of the last terminal. -/
def rulePrecedence (g : Grammar) (site : Site) (symbols : List String) :
    Result (Precedence × List String) :=
  if symbols.contains precedenceMark then
    match symbols.reverse with
    | name :: mark :: rest =>
      if name = precedenceMark then (.error (.definition (.noPrecedenceName site)), g)
      else if mark ≠ precedenceMark then (.error (.definition (.misplacedPrecedence site)), g)
      else match g.precedences.get? name with
        | none => (.error (.definition (.unknownPrecedence site name)), g)
        | some p =>
          (.ok (p, rest.reverse), { g with usedPrecedences := name :: g.usedPrecedences })
    | _ => (.error (.definition (.noPrecedenceName site)), g)
  else
    let p := (g.rightmostTerminal? symbols).bind g.precedences.get?
    (.ok (p.getD {}, symbols), g)

/-- Notes that the rule of a number uses a symbol, which becomes a nonterminal unless it is known. -/
def noteUse (number : Nat) (g : Grammar) (symbol : String) : Grammar :=
  if g.terminals.contains symbol then
    { g with terminals := g.terminals.modify symbol (· ++ [number]) }
  else
    { g with nonterminals :=
        (g.nonterminals.insertNew symbol []).modify symbol (· ++ [number]) }

def push (g : Grammar) (name : String) (symbols : List String) (precedence : Precedence)
    (action : Option String) (site : Site) : Grammar :=
  let number := g.rules.size + 1
  let g := { g with nonterminals := g.nonterminals.insertNew name [] }
  let g := symbols.foldl (noteUse number) g
  { g with
    rules := g.rules.push ⟨number, name, symbols, precedence, action, site⟩
    stamps := g.stamps.push 0
    reductions := g.reductions.push 0 }

def add (g : Grammar) (name : String) (symbols : List String) (action : Option String)
    (site : Site) : Result Unit :=
  if g.terminals.contains name then (.error (.definition (.tokenName site name)), g)
  else if !isName name then (.error (.definition (.badName site name)), g)
  else match g.readSymbols site name symbols with
    | (.error fault, g) => (.error fault, g)
    | (.ok symbols, g) =>
      match g.rulePrecedence site symbols with
      | (.error fault, g) => (.error fault, g)
      | (.ok (precedence, symbols), g) =>
        match g.rules.find? fun p => p.name == name && p.symbols == symbols with
        | some previous =>
          (.error (.definition (.duplicateRule site previous.text previous.site)), g)
        | none => (.ok (), g.push name symbols precedence action site)

/-- Adds rules in turn, up to the first that is refused. -/
def addAll (g : Grammar) (action : Option String) : List RuleLine → Result Unit
  | [] => (.ok (), g)
  | rule :: rest =>
    match g.add rule.name rule.symbols action rule.site with
    | (.error fault, g) => (.error fault, g)
    | (.ok (), g) => g.addAll action rest

/-- Sets the start symbol, which is the name of the first rule if none is given. -/
def setStart (g : Grammar) (start : Option String) : Result Production :=
  let start := match start with
    | some name => if name.isEmpty then g.rules[0]?.map (·.name) else some name
    | none => g.rules[0]?.map (·.name)
  match start with
  | none => (.error .noRule, g)
  | some name =>
    if g.nonterminals.contains name then
      let rule : Production := { number := 0, name := startName, symbols := [name] }
      (.ok rule, { g with
        startRule := some rule
        nonterminals := g.nonterminals.modify name (· ++ [0]) })
    else (.error (.definition (.undefinedStart name)), g)

/-- The element of a list at a place, which is counted from the end if it is negative. -/
def elementAt? {α : Type} (xs : List α) (i : Int) : Option α :=
  if 0 ≤ i then xs[i.toNat]?
  else if i.natAbs ≤ xs.length then xs[xs.length - i.natAbs]?
  else none

def symbolAt (g : Grammar) (rule part : Int) : Except Fault String :=
  match elementAt? (g.startRule :: g.rules.toList.map some) rule with
  | none => .error .noRule
  | some none => .error (.noStart .element)
  | some (some p) =>
    match elementAt? p.symbols part with
    | none => .error .noPart
    | some symbol => .ok symbol

end Grammar

end CallByNeed
