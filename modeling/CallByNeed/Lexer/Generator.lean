import CallByNeed.Lexer.Basic
import CallByNeed.Target

set_option autoImplicit false
set_option relaxedAutoImplicit false

/-!
From a description to a lexer: the rules are taken out and checked, and tables are made of them. An
optimized lexer is not checked; it takes saved tables if they have the right version, and saves its
tables otherwise.
-/

namespace CallByNeed.Lexer

inductive BuildFault where
  /-- The errors stand in the journal. -/
  | unbuildable
  /-- A token is not a text. -/
  | tokenKind (kind : String)
  /-- A token can be changed, so there is no set of tokens. -/
  | changeableToken (kind : String)
  /-- The first literal is not a text. -/
  | firstLiteral (kind : String)
  /-- A later literal is not a text. -/
  | laterLiteral (index : Nat) (kind : String)
  /-- The literals are not a collection. -/
  | literals (kind : String)
  /-- A state has no rules. -/
  | emptyState
  /-- A function of saved tables is missing. -/
  | missingFunction (name : String)
  /-- A state of saved tables has no function for errors. -/
  | missingErrorFunction
deriving Repr

def BuildFault.message : BuildFault → String
  | .unbuildable => "Can't build lexer"
  | .tokenKind kind => "expected string or bytes-like object, got '" ++ kind ++ "'"
  | .changeableToken kind => "unhashable type: '" ++ kind ++ "'"
  | .firstLiteral kind => "'" ++ kind ++ "' object has no attribute 'join'"
  | .laterLiteral index kind =>
    "sequence item " ++ toString index ++ ": expected str instance, " ++ kind ++ " found"
  | .literals kind => "'" ++ kind ++ "' object is not iterable"
  | .emptyState => "not enough values to unpack (expected 3, got 0)"
  | .missingFunction name => Text.quoted name
  | .missingErrorFunction => "None"

structure Saved where
  version : String := tableVersion
  table : Table

structure BuildOptions where
  /-- Whether every detail is told. -/
  details : Bool := false
  optimized : Bool := false
  saved : Option Saved := none
  target : Target := .nowhere

structure Journals where
  user : Journal := {}
  details : Journal := {}
  all : Journal := {}
deriving Inhabited

abbrev Build := ExceptT BuildFault (StateM Journals)

def buildWarn (line : String) : Build Unit :=
  modify fun j => { j with user := j.user.warn line, all := j.all.warn line }

def buildTell (f : Findings) : Build Unit :=
  let lines := f.journal.lines.toList
  modify fun j => { j with user := j.user.notes lines, all := j.all.notes lines }

def buildDetail (o : BuildOptions) (line : String) : Build Unit :=
  if o.details then modify fun j => { j with details := j.details.note line, all := j.all.note line }
  else return ()

def tableInUse : String := "Won't overwrite existing lextab module"

structure Product where
  lexer : Lexer
  /-- Whether it was made from saved tables. -/
  loaded : Bool := false
  saved : Option Saved := none

def joinedLiterals (literals : Datum) : Except BuildFault Datum :=
  let join := fun (items : List Datum) =>
    match items.head?, items.zipIdx.find? fun (item, _) => item.text?.isNone with
    | _, none => .ok (.text (String.join (items.map Datum.shown)))
    | some first, some (item, index) =>
      if first.text?.isNone then .error (.firstLiteral first.kind)
      else .error (.laterLiteral index item.kind)
    | none, _ => .ok (.text "")
  match literals with
  | .text _ | .record _ => .ok literals
  | .list items | .tuple items => join items
  | datum => .error (.literals datum.kind)

def distinctData (data : List Datum) : List Datum :=
  data.foldl (fun seen d => if seen.any (·.quoted == d.quoted) then seen else seen ++ [d]) []

def rulesOf (rules : Rules) (state : String) : List (String × String) :=
  ((rules.functions.get? state).getD []).map (fun (name, f) => (name, f.pattern.getD "None")) ++
  (rules.patterns.get? state).getD []

/-- Puts together the rules of the states, one state after another. -/
def mastersOf (d : Description) (o : BuildOptions) (rules : Rules) :
    List String → Build (List (String × List Master))
  | [] => return []
  | state :: rest => do
    let named := (rulesOf rules state).map fun (name, pattern) =>
      (name, Description.groupText name pattern)
    if named.isEmpty then throw .emptyState
    match masters? d rules (named.length + 1) named with
    | none => throw .unbuildable
    | some masters =>
      for (m, i) in masters.zipIdx do
        buildDetail o ("lex: state '" ++ state ++ "' : regex[" ++ toString i ++ "] = '" ++ m.text ++ "'")
      let more ← mastersOf d o rules rest
      return (state, masters) :: more

def addFirstRules (states : OrderedMap StateKind) (masters : OrderedMap (List Master)) :
    OrderedMap (List Master) :=
  let first := (masters.get? firstState).getD []
  states.entries.foldl (fun masters (state, kind) =>
    if state ≠ firstState ∧ kind = .inclusive then masters.modify state (· ++ first)
    else masters) masters

structure Defaults where
  errors : OrderedMap (Option String)
  ignored : OrderedMap String

/-- Completes a state: an inclusive one has the defaults of the first, and what an exclusive one
lacks is told. -/
def completeState (passes : Bool) (s : Defaults) (state : String × StateKind) : Build Defaults := do
  let (name, kind) := state
  match kind with
  | .exclusive =>
    if !s.errors.contains name then
      buildWarn ("No error rule is defined for exclusive state " ++ named name)
    if !s.ignored.contains name && passes then
      buildWarn ("No ignore rule is defined for exclusive state " ++ named name)
    return s
  | .inclusive =>
    return {
      errors := s.errors.insertNew name (s.errors.get? firstState).join
      ignored := s.ignored.insertNew name ((s.ignored.get? firstState).getD "") }

def tableOf (d : Description) (o : BuildOptions) (f : Findings) : Build Table := do
  let r := f.rules
  buildDetail o ("lex: tokens   = " ++ f.tokenData.quoted)
  buildDetail o ("lex: literals = " ++ f.literals.quoted)
  buildDetail o ("lex: states   = " ++ Table.statesText f.states)
  if let some token := f.tokens.find? fun token => !token.isFixed then
    throw (.changeableToken token.kind)
  let literals ← (joinedLiterals f.literals : Except BuildFault Datum)
  for state in f.states.keys do
    for (name, pattern) in rulesOf r state do
      buildDetail o ("lex: Adding rule " ++ name ++ " -> '" ++ pattern ++ "' (state '" ++ state ++ "')")
  buildDetail o "lex: ==== MASTER REGEXS FOLLOW ===="
  let masters ← mastersOf d o r f.states.keys
  if !r.errors.contains firstState then buildWarn "No t_error rule is defined"
  let passes := !((r.ignored.get? firstState).getD "").isEmpty
  let errors := r.errors.entries.map fun (state, name, _) => (state, some name)
  let s ← f.states.entries.foldlM (completeState passes) ⟨⟨errors⟩, r.ignored⟩
  return {
    tokens := distinctData f.tokens
    flags := d.flags
    literals := literals
    states := f.states
    masters := addFirstRules f.states ⟨masters⟩
    ignored := s.ignored
    errors := s.errors
    ends := ⟨r.ends.entries.map fun (state, name, _) => (state, name)⟩ }

def loadTable (d : Description) (table : Table) : Build Product := do
  for name in table.functionNames do
    match name with
    | none => throw .missingErrorFunction
    | some name => if !d.members.contains name then throw (.missingFunction name)
  return { lexer := ofTable d false table, loaded := true }

def saveTable (o : BuildOptions) (table : Table) : Build (Option Saved) := do
  match o.target with
  | .nowhere => return none
  | .file => return some { table := table }
  | .refused place reason =>
    buildWarn ("Couldn't write lextab module " ++ place ++ ". " ++ reason)
    return none

def checkedFindings (d : Description) (f : Findings) : Build Findings := do
  match d.review f with
  | .error (kind, f) =>
    buildTell f
    throw (.tokenKind kind)
  | .ok f =>
    buildTell f
    if f.failed then throw .unbuildable
    return f

def buildLexer (d : Description) (o : BuildOptions) : Build Product := do
  let f := d.findings
  if !o.optimized then
    let f ← checkedFindings d f
    let table ← tableOf d o f
    return { lexer := ofTable d true table }
  buildTell f
  match o.saved.filter fun s => s.version = tableVersion with
  | some saved => loadTable d saved.table
  | none =>
    let table ← tableOf d o f
    let saved ← saveTable o table
    return { lexer := ofTable d false table, saved := saved }

end CallByNeed.Lexer
