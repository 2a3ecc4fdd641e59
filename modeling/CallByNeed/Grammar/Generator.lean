import CallByNeed.Grammar.Check
import CallByNeed.Grammar.Description
import CallByNeed.Grammar.Saved
import CallByNeed.Target

set_option autoImplicit false
set_option relaxedAutoImplicit false

/-!
From a description to a parser: saved tables are taken if they fit, and otherwise the description is
checked, its grammar is built and checked, and tables are made. Two journals tell of it, one for the
user and one with every detail.
-/

namespace CallByNeed.Grammar

inductive DetailTarget where
  | journal
  /-- What is shown as the place and why it cannot be written. -/
  | refused (place reason : String)
deriving Inhabited

def tableInUse : String := "Won't overwrite existing tabmodule"

structure BuildOptions where
  method : String := "LALR"
  details : Bool := false
  detailTarget : DetailTarget := .journal
  checkRecursion : Bool := true
  /-- A start symbol that takes the place of the description's. -/
  start : Option Datum := none
  target : Target := .nowhere
  saved : Option Saved := none
  /-- Whether saved tables are taken whatever they were made from. -/
  trustSaved : Bool := false

structure Journals where
  user : Journal := {}
  details : Journal := {}
deriving Inhabited

abbrev Build := ExceptT BuildFault (StateM Journals)

namespace Build

def note (line : String) : Build Unit :=
  modify fun j => { j with user := j.user.note line }

def warn (line : String) : Build Unit :=
  modify fun j => { j with user := j.user.warn line }

def err (line : String) : Build Unit :=
  modify fun j => { j with user := j.user.err line }

def detail (lines : List String) : Build Unit :=
  modify fun j => { j with details := j.details.notes lines }

def detailWarn (line : String) : Build Unit :=
  modify fun j => { j with details := j.details.warn line }

def warnBoth (line : String) : Build Unit := do
  detailWarn line
  warn line

def filled (add : String → Build Unit) (template : String) : Build Unit :=
  match Text.fill template with
  | .ok line => add line
  | .error fault => throw (.template fault)

def review (r : Description.Review) : Build Unit :=
  modify fun j => { j with user := j.user.notes r.journal.lines.toList }

end Build

open Build

structure Product where
  parser : Parser
  /-- The rules as texts. -/
  rules : List String
  saved : Option Saved := none

def Description.recovery? (d : Description) : Option (Except CallFault (LR.Recovery String)) :=
  match d.errorHandler with
  | .missing => none
  | .notFunction value => if value.isSome then some (.error (.notCallable value.kind)) else none
  | .handler _ arity recovery =>
    match CallFault.ofArity? "p_error" arity d.methods with
    | some fault => some (.error fault)
    | none => some (.ok recovery)

def Description.action (d : Description) (name : String) : Member → Except CallFault RuleAction
  | .plain value => .error (.notCallable value.kind)
  | .function f =>
    match CallFault.ofArity? name f.arity d.methods with
    | some fault => .error fault
    | none => .ok f.action

/-- The parser of saved tables. The name of an action that the description lacks is answered
instead; that an action can be called is found out when it is. -/
def Saved.parser (s : Saved) (d : Description) : Except String Parser := do
  let rules ← s.rules.mapM fun r =>
    match r.action with
    | none => .ok { text := r.text, name := r.name, size := r.size, action := none : ParserRule }
    | some (name, _) =>
      match d.members.get? name with
      | none => .error name
      | some m => .ok { text := r.text, name := r.name, size := r.size, action := d.action name m }
  return {
    rules := rules.toArray, actions := s.actions, gotos := s.gotos, loaded := true
    recovery := d.recovery? }

def loadSaved (d : Description) (o : BuildOptions) (signature : String) :
    Build (Option Product) := do
  match o.saved with
  | none => return none
  | some saved =>
    if saved.version ≠ tableVersion then
      warn "yacc table file version is out of date"
      return none
    else if o.trustSaved ∨ saved.signature = signature then
      match saved.parser d with
      | .ok parser => return some { parser := parser, rules := saved.rules.map (·.text) }
      | .error name =>
        warn ("There was a problem loading the table file: KeyError(" ++ Text.quoted name ++ ")")
        return none
    else return none

def openDetails (o : BuildOptions) : Build Unit := do
  match o.detailTarget with
  | .journal => return ()
  | .refused place reason =>
    if o.details then warn ("Couldn't open " ++ Text.quoted place ++ ". " ++ reason)

def setRankings (g : Grammar) : List Description.Ranking → Build Grammar
  | [] => return g
  | r :: rest => do
    let (outcome, g) := g.setPrecedence r.symbol r.associativity r.level
    match outcome with
    | .ok () => pure ()
    | .error fault => warn fault.message
    setRankings g rest

def addRulesOf (g : Grammar) (failed : Bool) :
    List Description.NamedRule → Build (Grammar × Bool)
  | [] => return (g, failed)
  | (action, rule) :: rest => do
    let (outcome, g) := g.add rule.name rule.symbols (some action) rule.site
    match outcome with
    | .ok () => addRulesOf g failed rest
    | .error (.definition fault) =>
      err fault.message
      addRulesOf g true rest
    | .error fault => throw (.grammar fault)

def countWarning (n : Nat) (one many : String) : Build Unit :=
  if n = 1 then warn ("There is 1 unused " ++ one)
  else if n > 1 then warn ("There are " ++ toString n ++ " unused " ++ many)
  else return ()

def usesLines (uses : OrderedMap (List Nat)) : List String :=
  uses.sorted.map fun (symbol, numbers) =>
    Text.padRight 20 symbol ++ " : " ++ " ".intercalate (numbers.map toString)

def checkGrammar (g : Grammar) (o : BuildOptions) : Build Bool := do
  let undefined := g.undefinedUses
  for (symbol, p) in undefined do
    err (p.site.text ++ ": Symbol " ++ Text.quoted symbol ++
      " used, but not defined as a token or a rule")
  let unusedTokens := g.unusedTerminals
  if !unusedTokens.isEmpty then
    detail ["", "Unused terminals:", ""]
    for token in unusedTokens do
      warn ("Token " ++ Text.quoted token ++ " defined, but not used")
      detail ["    " ++ token]
  if o.details then
    detail (["", "Grammar", ""] ++ g.allRules.map fun p =>
      "Rule " ++ Text.padRight 5 (toString p.number) ++ " " ++ p.text)
  let unusedRules := g.unusedRules
  for p in unusedRules do
    warn (p.site.text ++ ": Rule " ++ Text.quoted p.name ++ " defined, but not used")
  countWarning unusedTokens.length "token" "tokens"
  countWarning unusedRules.length "rule" "rules"
  if o.details then
    detail (["", "Terminals, with rules where they appear", ""] ++ usesLines g.terminals ++
      ["", "Nonterminals, with rules where they appear", ""] ++ usesLines g.nonterminals ++ [""])
  let infinite ← if o.checkRecursion then do
      match g.unreachable with
      | .error fault => throw (.grammar fault)
      | .ok unreachable =>
        for symbol in unreachable do
          warn ("Symbol " ++ Text.quoted symbol ++ " is unreachable")
      for symbol in g.infinite do
        err ("Infinite recursion detected for symbol " ++ Text.quoted symbol)
      pure g.infinite
    else pure []
  for (symbol, associativity) in g.unusedPrecedences do
    err ("Precedence rule " ++ Text.quoted associativity.text ++
      " defined for unknown symbol " ++ Text.quoted symbol)
  return !undefined.isEmpty || !infinite.isEmpty || !g.unusedPrecedences.isEmpty

def conflictCount (n : Nat) (kind : String) : Build Unit :=
  if n = 1 then warn ("1 " ++ kind ++ " conflict")
  else if n > 1 then warn (toString n ++ " " ++ kind ++ " conflicts")
  else return ()

/-- The first of each group of conflicts between the same rules of a state. -/
def distinctConflicts (conflicts : List RuleConflict) : List RuleConflict :=
  conflicts.foldl (fun seen c =>
    if seen.any fun d => d.state = c.state && d.chosen.number = c.chosen.number &&
      d.rejected.number = c.rejected.number then seen
    else seen ++ [c]) []

def neverReduced (g : Grammar) (conflicts : List RuleConflict) : List Production :=
  conflicts.foldl (fun (seen : List Production) c =>
    let count := (g.reductions[c.rejected.number - 1]?).getD 0
    if count = 0 ∧ !seen.any (·.number == c.rejected.number) then seen ++ [c.rejected]
    else seen) []

def tellConflicts (g : Grammar) (tables : Tables) : Build Unit := do
  let shifts := tables.shiftConflicts.toList
  let rules := tables.ruleConflicts.toList
  conflictCount shifts.length "shift/reduce"
  conflictCount rules.length "reduce/reduce"
  if !shifts.isEmpty || !rules.isEmpty then
    for line in ["", "Conflicts:", ""] do
      detailWarn line
    for c in shifts do
      detailWarn ("shift/reduce conflict for " ++ c.symbol ++ " in state " ++ toString c.state ++
        " resolved as " ++ c.resolution)
    for c in distinctConflicts rules do
      let chosen := "reduce/reduce conflict in state " ++ toString c.state ++
        " resolved using rule (" ++ c.chosen.text ++ ")"
      let rejected := "rejected rule (" ++ c.rejected.text ++ ") in state " ++ toString c.state
      warnBoth chosen
      warnBoth rejected
    for p in neverReduced g rules do
      warnBoth ("Rule (" ++ p.text ++ ") is never reduced")

def save (o : BuildOptions) (saved : Saved) : Build (Option Saved) := do
  match o.target with
  | .nowhere => return none
  | .file => return some saved
  | .refused place reason =>
    warn ("Couldn't create " ++ place ++ ". " ++ reason)
    return none

def parserOf (g : Grammar) (d : Description) (tables : Tables) : Parser :=
  { rules := (g.allRules.map fun p =>
      { text := p.text, name := p.name, size := p.symbols.length
        action := p.action.bind fun name => (d.members.get? name).map (d.action name) :
          ParserRule }).toArray
    actions := tables.actions
    gotos := tables.gotos
    recovery := d.recovery? }

def grammarOf (tokens : List String) (start : Option Datum) (findings : Description.Findings) :
    Build Grammar := do
  let g ← setRankings (Grammar.ofTokens tokens) findings.rankings
  let (g, refused) ← addRulesOf g false findings.rules
  let (outcome, g) := g.setStart (start.bind Datum.text?)
  match outcome with
  | .ok _ => if refused then throw .unbuildable
  | .error (.definition fault) =>
    filled err fault.message
    throw .unbuildable
  | .error fault => throw (.grammar fault)
  return g

def tablesOf (g : Grammar) (o : BuildOptions) : Build (Grammar × Tables) := do
  if o.details then note ("Generating " ++ o.method ++ " tables")
  let construction := g.build o.method
  detail construction.log.toList
  match construction.outcome with
  | .error fault => throw (.grammar fault)
  | .ok tables =>
    if o.details then tellConflicts construction.grammar tables
    return (construction.grammar, tables)

def buildFound (d : Description) (o : BuildOptions) (tokens : List String) (signature : String)
    (findings : Description.Findings) : Build Product := do
  let g ← grammarOf tokens d.start findings
  if ← checkGrammar g o then throw .unbuildable
  let (g, tables) ← tablesOf g o
  let saved ← save o (Saved.ofTables tables g.allRules signature)
  if Parser.hasForbiddenState tables.actions then throw .forbiddenState
  return {
    parser := parserOf g d tables, rules := g.allRules.map (·.text), saved := saved }

def buildNew (d : Description) (o : BuildOptions) (tokens : List String) (signature : String) :
    Build Product := do
  openDetails o
  detail ["Created by PLY version 3.11 (http://www.dabeaz.com/ply)"]
  match d.reviewAll tokens with
  | .error (fault, r) =>
    review r
    throw (.template fault)
  | .ok findings =>
    review findings.review
    if findings.review.failed then throw .unbuildable
    match d.errorHandler with
    | .missing => warn "no p_error() function is defined"
    | _ => pure ()
    buildFound d o tokens signature findings

def buildParser (d : Description) (o : BuildOptions) : Build Product := do
  let d := { d with start := (o.start.filter fun (s : Datum) => !s.isNull).or d.start }
  match d.sortedTokens with
  | .error (.inl line) =>
    err line
    throw .unbuildable
  | .error (.inr fault) => throw fault
  | .ok tokens =>
    match d.signature tokens with
    | .error fault => throw fault
    | .ok signature =>
      match ← loadSaved d o signature with
      | some product => return product
      | none => buildNew d o tokens signature

end CallByNeed.Grammar
