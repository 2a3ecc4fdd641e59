import CallByNeed.Grammar.Lookahead
import CallByNeed.Grammar.Sets
import CallByNeed.LR.Automaton
import CallByNeed.Text.Padded

set_option autoImplicit false
set_option relaxedAutoImplicit false

/-!
Parser tables of a grammar, with a log of the construction. Conflicts are settled by precedence. A
conflict of a shift with a reduction that no precedence settles becomes a shift, and of two
reductions the rule with the lower line wins.
-/

namespace CallByNeed.Grammar

inductive Method where
  /-- From all symbols that can follow a nonterminal anywhere. -/
  | slr
  /-- From the symbols that can follow it in a state. -/
  | lalr
deriving DecidableEq, Repr, Inhabited

def Method.text : Method → String
  | .slr => "SLR"
  | .lalr => "LALR"

def Method.ofText? : String → Option Method
  | "SLR" => some .slr
  | "LALR" => some .lalr
  | _ => none

structure ShiftConflict where
  state : Nat
  symbol : String
  resolution : String
deriving Repr, Inhabited

structure RuleConflict where
  state : Nat
  chosen : Production
  rejected : Production
deriving Repr, Inhabited

/-- The actions of a state by symbol; none where an operator does not associate. -/
abbrev ActionRow := OrderedMap (Option LR.Action)

structure Tables where
  method : Method
  actions : Array ActionRow := #[]
  gotos : Array (OrderedMap Nat) := #[]
  shiftConflicts : Array ShiftConflict := #[]
  ruleConflicts : Array RuleConflict := #[]
deriving Inhabited

structure Wish where
  symbol : String
  item : Item
  text : String

/-- The construction of a state's actions. -/
structure RowState where
  actions : ActionRow := {}
  /-- The item whose wish an action is. -/
  owners : OrderedMap Item := {}
  wishes : Array Wish := #[]
  tables : Tables
  reductions : Array Int
  log : Array String

namespace RowState

def say (r : RowState) (line : String) : RowState :=
  { r with log := r.log.push line }

def count (r : RowState) (rule : Nat) (by_ : Int) : RowState :=
  { r with reductions := r.reductions.modify (rule - 1) (· + by_) }

def decide (r : RowState) (symbol : String) (action : LR.Action) (item : Item) : RowState :=
  { r with
    actions := r.actions.insert symbol (some action)
    owners := r.owners.insert symbol item }

/-- Removes the action at a symbol: neither a shift nor a reduction is right. -/
def forbid (r : RowState) (symbol : String) : RowState :=
  { r with actions := r.actions.insert symbol none }

def shiftConflict (r : RowState) (state : Nat) (symbol resolution : String) : RowState :=
  let r := r.say ("  ! shift/reduce conflict for " ++ symbol ++ " resolved as " ++ resolution)
  { r with tables := { r.tables with
      shiftConflicts := r.tables.shiftConflicts.push ⟨state, symbol, resolution⟩ } }

def ruleConflict (r : RowState) (rules : Rules) (state : Nat) (symbol : String)
    (chosen rejected : Production) : RowState :=
  let owner := (r.owners.get? symbol).getD default
  let r := { r with tables := { r.tables with
    ruleConflicts := r.tables.ruleConflicts.push ⟨state, chosen, rejected⟩ } }
  r.say ("  ! reduce/reduce conflict for " ++ symbol ++ " resolved using rule " ++
    toString owner.rule ++ " (" ++ owner.text rules ++ ")")

def wish (r : RowState) (symbol : String) (item : Item) (text : String) : RowState :=
  { r with wishes := r.wishes.push ⟨symbol, item, text⟩ }

end RowState

structure Plan where
  grammar : Grammar
  rules : Rules
  states : States
  method : Method
  lookaheads : Lookaheads

namespace Plan

def symbolPrecedence (plan : Plan) (symbol : String) : Precedence :=
  (plan.grammar.precedences.get? symbol).getD {}

def rule (plan : Plan) (number : Nat) : Production :=
  (plan.rules[number]?).getD default

def reduceAt (plan : Plan) (state : Nat) (item : Item) (r : RowState) (symbol : String) :
    Except (Fault × RowState) RowState :=
  let p := plan.rule item.rule
  let r := r.wish symbol item
    ("reduce using rule " ++ toString p.number ++ " (" ++ item.text plan.rules ++ ")")
  match (r.actions.get? symbol).join with
  | none => .ok ((r.decide symbol (.reduce p.number) item).count p.number 1)
  | some (.shift _) =>
    let shift := plan.symbolPrecedence symbol
    let reduce := p.precedence
    if shift.level < reduce.level ∨
        (shift.level = reduce.level ∧ reduce.associativity = .left) then
      let r := r.decide symbol (.reduce p.number) item
      let r := if shift.level = 0 ∧ reduce.level = 0 then
          r.shiftConflict state symbol "reduce"
        else r
      .ok (r.count p.number 1)
    else if shift.level = reduce.level ∧ reduce.associativity = .nonassoc then
      .ok (r.forbid symbol)
    else if reduce.level = 0 then .ok (r.shiftConflict state symbol "shift")
    else .ok r
  | some (.reduce old) =>
    let q := plan.rule old
    if q.site.line > p.site.line then
      let r := (r.decide symbol (.reduce p.number) item).count p.number 1
      .ok ((r.count old (-1)).ruleConflict plan.rules state symbol p q)
    else .ok (r.ruleConflict plan.rules state symbol q p)
  | some .accept => .error (.unknownConflict state, r)

def shiftAt (plan : Plan) (state : Nat) (item : Item) (r : RowState) (symbol : String) :
    Except (Fault × RowState) RowState :=
  match plan.states.move? state symbol with
  | none => .ok r
  | some target =>
    let r := r.wish symbol item ("shift and go to state " ++ toString target)
    match (r.actions.get? symbol).join with
    | none => .ok (r.decide symbol (.shift target) item)
    | some (.shift _) => .ok r
    | some (.reduce _) =>
      let owner := ((r.owners.get? symbol).getD default).rule
      let shift := plan.symbolPrecedence symbol
      let reduce := (plan.rule owner).precedence
      if shift.level > reduce.level ∨
          (shift.level = reduce.level ∧ reduce.associativity = .right) then
        let r := (r.count owner (-1)).decide symbol (.shift target) item
        .ok (if reduce.level = 0 then r.shiftConflict state symbol "shift" else r)
      else if shift.level = reduce.level ∧ reduce.associativity = .nonassoc then
        .ok (r.forbid symbol)
      else if shift.level = 0 ∧ reduce.level = 0 then
        .ok (r.shiftConflict state symbol "reduce")
      else .ok r
    | some .accept => .error (.unknownConflict state, r)

def reductionSymbols (plan : Plan) (state : Nat) (item : Item) : Except Fault (List String) :=
  match plan.method with
  | .lalr => .ok ((plan.lookaheads.get? (state, item)).getD [])
  | .slr =>
    let name := (plan.rule item.rule).name
    match plan.grammar.follow.get? name with
    | none => .error (.undefinedSymbol name)
    | some symbols => .ok symbols

def enter (plan : Plan) (state : Nat) (r : RowState) (item : Item) :
    Except (Fault × RowState) RowState :=
  match item.next? plan.rules with
  | none =>
    if item.rule = 0 then .ok (r.decide endMark .accept item)
    else match plan.reductionSymbols state item with
      | .error fault => .error (fault, r)
      | .ok symbols => symbols.foldlM (plan.reduceAt state item) r
  | some symbol =>
    if plan.grammar.terminals.contains symbol then plan.shiftAt state item r symbol
    else .ok r

def wishLines (r : RowState) : List String :=
  let granted := r.wishes.toList.filter fun w => r.owners.get? w.symbol == some w.item
  let refused := r.wishes.toList.filter fun w => r.owners.get? w.symbol != some w.item
  let refused := refused.foldl (fun (seen : List Wish) w =>
    if (granted ++ seen).any fun v => v.symbol == w.symbol && v.text == w.text then seen
    else seen ++ [w]) []
  let lines := granted.map fun w => "    " ++ Text.padRight 15 w.symbol ++ " " ++ w.text
  let others := refused.map fun w =>
    "  ! " ++ Text.padRight 15 w.symbol ++ " [ " ++ w.text ++ " ]"
  lines ++ [""] ++ others ++ if others.isEmpty then [] else [""]

def gotoRow (plan : Plan) (state : Nat) : OrderedMap Nat :=
  let names := (itemSymbols plan.rules (plan.states.items state)).filter
    plan.grammar.nonterminals.contains
  ⟨names.filterMap fun name => (plan.states.move? state name).map fun target => (name, target)⟩

def addState (plan : Plan) (r : RowState) (state : Nat) : Except (Fault × RowState) RowState := do
  let items := plan.states.items state
  let title := ["", "state " ++ toString state, ""]
  let list := items.map fun item =>
    "    (" ++ toString item.rule ++ ") " ++ item.text plan.rules
  let r := { r with
    actions := {}, owners := {}, wishes := #[]
    log := r.log ++ (title ++ list ++ [""]).toArray }
  let r ← items.foldlM (plan.enter state) r
  let gotos := plan.gotoRow state
  let gotoLines := gotos.entries.map fun (name, target) =>
    "    " ++ Text.padRight 30 name ++ " shift and go to state " ++ toString target
  return { r with
    tables := { r.tables with
      actions := r.tables.actions.push r.actions, gotos := r.tables.gotos.push gotos }
    log := r.log ++ (wishLines r ++ gotoLines).toArray }

end Plan

/-- The end of a construction: the tables or a fault, the log up to there, and the grammar with its
counts and stamps. -/
structure Construction where
  outcome : Except Fault Tables
  log : Array String := #[]
  grammar : Grammar

def buildFrom (g : Grammar) (rules : Rules) (method : Method) : Construction :=
  let states := buildStates rules g.stamps
  let g := { g with stamps := states.stamps }
  let plan : Plan := {
    grammar := g, rules := rules, states := states, method := method
    lookaheads := match method with
      | .lalr => g.lookaheads rules states
      | .slr => {} }
  let start : RowState := {
    tables := { method := method }, reductions := g.reductions
    log := #["Parsing method: " ++ method.text] }
  match (List.range states.states.size).foldlM plan.addState start with
  | .error (fault, r) =>
    { outcome := .error fault, log := r.log, grammar := { g with reductions := r.reductions } }
  | .ok r =>
    { outcome := .ok r.tables, log := r.log, grammar := { g with reductions := r.reductions } }

def build (g : Grammar) (method : String) : Construction :=
  match Method.ofText? method with
  | none => { outcome := .error (.unknownMethod method), grammar := g }
  | some method =>
    match g.numbered? with
    | none => { outcome := .error (.noStart .size), grammar := g }
    | some rules =>
      match g.computeFirst with
      | (.error fault, g) => { outcome := .error fault, grammar := g }
      | (.ok _, g) =>
        match g.computeFollow none with
        | (.error fault, g) => { outcome := .error fault, grammar := g }
        | (.ok _, g) => g.buildFrom rules method

end CallByNeed.Grammar
