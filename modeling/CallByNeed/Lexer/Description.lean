import CallByNeed.Datum
import CallByNeed.Journal
import CallByNeed.Lexer.RuleStep
import CallByNeed.OrderedMap
import CallByNeed.Pattern.Read
import CallByNeed.Site
import CallByNeed.Text.Definition
import CallByNeed.Text.Lines

set_option autoImplicit false
set_option relaxedAutoImplicit false

/-!
Descriptions of lexers: members by name, of which those with the mark of rules are functions or
patterns, and plain data for tokens, literals and states. This module takes the rules out of
descriptions and checks them.
-/

namespace CallByNeed.Lexer

structure Function where
  line : Int
  /-- How many arguments it takes. -/
  arity : Int := 1
  /-- The text that it takes. -/
  pattern : Option String
  steps : List RuleStep
deriving Inhabited

inductive Member where
  | function (f : Function)
  | plain (value : Datum)
deriving Inhabited

structure Description where
  file : String := ""
  tokens : Option Datum := none
  literals : Option Datum := none
  states : Option Datum := none
  /-- The members in the order in which they are looked at. -/
  members : OrderedMap Member := {}
  /-- The lines of the file. -/
  source : List String := []
  /-- Whether its functions are methods of an object. -/
  methods : Bool := false
  /-- The flags with which patterns are read. -/
  flags : Nat := 64
deriving Inhabited

/-- Whether a state has the rules of the first state too. -/
inductive StateKind where
  | inclusive
  | exclusive
deriving DecidableEq, Repr, Inhabited

def StateKind.text : StateKind → String
  | .inclusive => "inclusive"
  | .exclusive => "exclusive"

def StateKind.ofDatum? : Datum → Option StateKind
  | .text "inclusive" => some .inclusive
  | .text "exclusive" => some .exclusive
  | _ => none

def firstState : String := "INITIAL"

structure Rules where
  /-- What rules are named for: the kinds of their tokens. -/
  kinds : OrderedMap String := {}
  functions : OrderedMap (List (String × Function)) := {}
  patterns : OrderedMap (List (String × String)) := {}
  /-- The characters that are passed over. -/
  ignored : OrderedMap String := {}
  /-- The functions for text that no rule takes. -/
  errors : OrderedMap (String × Function) := {}
  /-- The functions for the end of the input. -/
  ends : OrderedMap (String × Function) := {}

/-- What is taken out of a description before it is checked. -/
structure Findings where
  tokens : List Datum := []
  /-- The tokens as they were given, or an empty list. -/
  tokenData : Datum := .list []
  literals : Datum := .text ""
  states : OrderedMap StateKind := ⟨[(firstState, .inclusive)]⟩
  rules : Rules := {}
  journal : Journal := {}
  failed : Bool := false

namespace Findings

def warn (f : Findings) (line : String) : Findings :=
  { f with journal := f.journal.warn line }

def err (f : Findings) (line : String) : Findings :=
  { f with journal := f.journal.err line, failed := true }

end Findings

/-- The states and the token kind that the name of a rule stands for. Names of states come first,
and the rest is the kind. -/
def splitName (states : List String) (name : String) : List String × String :=
  let parts := (Text.pieces '_' name).drop 1
  let leading := parts.takeWhile fun part => states.contains part || part == "ANY"
  let count := min leading.length (parts.length - 1)
  let chosen := parts.take count
  let chosen := if chosen.isEmpty then [firstState]
    else if chosen.contains "ANY" then states else chosen
  (chosen, "_".intercalate (parts.drop count))

def named (name : String) : String := "'" ++ name ++ "'"

namespace Description

def takeTokens (d : Description) (f : Findings) : Findings :=
  let tokens := d.tokens.getD .null
  if !tokens.isSome then f.err "No token list is defined"
  else match tokens.items? with
    | none => f.err "tokens must be a list or tuple"
    | some items => { f with tokens := items, tokenData := tokens }

def takeLiterals (d : Description) (f : Findings) : Findings :=
  match d.literals with
  | some literals => if literals.isSome then { f with literals := literals } else f
  | none => f

def takeState (f : Findings) (state : Datum) : Findings :=
  match state with
  | .tuple [name, kind] =>
    match name.text?, StateKind.ofDatum? kind with
    | none, _ => f.err ("State name " ++ name.quoted ++ " must be a string")
    | some name, none =>
      f.err ("State type for state " ++ name ++ " must be 'inclusive' or 'exclusive'")
    | some name, some kind =>
      if f.states.contains name then f.err ("State " ++ named name ++ " already defined")
      else { f with states := f.states.insert name kind }
  | _ =>
    f.err ("Invalid state specifier " ++ state.quoted ++
      ". Must be a tuple (statename,'exclusive|inclusive')")

def takeStates (d : Description) (f : Findings) : Findings :=
  let states := d.states.getD .null
  if !states.isSome then f
  else match states.items? with
    | none => f.err "states must be defined as a tuple or list"
    | some items => items.foldl takeState f

def setAll {α : Type} (m : OrderedMap α) (states : List String) (value : α) : OrderedMap α :=
  states.foldl (fun m state => m.insert state value) m

def addAll {α : Type} (m : OrderedMap (List α)) (states : List String) (value : α) :
    OrderedMap (List α) :=
  states.foldl (fun m state => m.modify state (· ++ [value])) m

def takeFunction (d : Description) (f : Findings) (name : String) (states : List String)
    (kind : String) (function : Function) : Findings :=
  let r := f.rules
  match kind with
  | "error" => { f with rules := { r with errors := setAll r.errors states (name, function) } }
  | "eof" => { f with rules := { r with ends := setAll r.ends states (name, function) } }
  | "ignore" =>
    f.err ((Site.mk d.file function.line).text ++ ": Rule " ++ named name ++
      " must be defined as a string")
  | _ => { f with rules := { r with functions := addAll r.functions states (name, function) } }

def takePattern (f : Findings) (name : String) (states : List String) (kind text : String) :
    Findings :=
  let r := f.rules
  match kind with
  | "ignore" =>
    let f := { f with rules := { r with ignored := setAll r.ignored states text } }
    if text.toList.contains '\\' then f.warn (name ++ " contains a literal backslash '\\'") else f
  | "error" => f.err ("Rule " ++ named name ++ " must be defined as a function")
  | _ => { f with rules := { r with patterns := addAll r.patterns states (name, text) } }

def takeRule (d : Description) (f : Findings) (rule : String × Member) : Findings :=
  let (name, member) := rule
  let (states, kind) := splitName f.states.keys name
  let f := { f with rules := { f.rules with kinds := f.rules.kinds.insert name kind } }
  match member with
  | .function function => d.takeFunction f name states kind function
  | .plain (.text text) => takePattern f name states kind text
  | .plain _ => f.err (name ++ " not defined as a function or string")

/-- Puts a rule before the first that it may precede. -/
def place {α : Type} (precedes : α → α → Bool) (rule : α) : List α → List α
  | [] => [rule]
  | other :: rest =>
    if precedes rule other then rule :: other :: rest else other :: place precedes rule rest

/-- Rules in order. Those that may precede each other stay as they are. -/
def arranged {α : Type} (precedes : α → α → Bool) (rules : List α) : List α :=
  rules.foldr (place precedes) []

/-- Takes out the rules: functions by line, and patterns from long to short. -/
def takeRules (d : Description) (f : Findings) : Findings :=
  let states := f.states.keys
  let f := { f with rules := {
    functions := OrderedMap.ofKeys states [], patterns := OrderedMap.ofKeys states [] } }
  let rules := d.members.entries.filter fun (name, _) => name.startsWith "t_"
  if rules.isEmpty then f.err "No rules of the form t_rulename are defined"
  else
    let f := rules.foldl d.takeRule f
    let functions := f.rules.functions.entries.map fun (state, fs) =>
      (state, arranged (fun a b => a.2.line ≤ b.2.line) fs)
    let patterns := f.rules.patterns.entries.map fun (state, ps) =>
      (state, arranged (fun a b => a.2.length ≥ b.2.length) ps)
    { f with rules := { f.rules with functions := ⟨functions⟩, patterns := ⟨patterns⟩ } }

def findings (d : Description) : Findings :=
  d.takeRules (d.takeStates (d.takeLiterals (d.takeTokens {})))

/-- Whether a text can be the name of a token. One line end may follow it. -/
def isTokenName (name : String) : Bool :=
  let chars := name.toList
  let chars := if chars.getLast? = some '\n' then chars.dropLast else chars
  !chars.isEmpty && chars.all Text.isDefinedChar

/-- Checks a token, `seen` being those before it. The kind of one that is not a text is answered. -/
def reviewToken (s : Findings × List String) (token : Datum) :
    Except (String × Findings) (Findings × List String) :=
  let (f, seen) := s
  match token with
  | .text name =>
    let f := if isTokenName name then f else f.err ("Bad token name " ++ named name)
    let f := if seen.contains name then f.warn ("Token " ++ named name ++ " multiply defined") else f
    .ok (f, name :: seen)
  | token => .error (token.kind, f)

def reviewTokens (f : Findings) : Except (String × Findings) Findings :=
  (f.tokens.foldlM reviewToken (f, [])).map (·.1)

def reviewLiterals (f : Findings) : Findings :=
  match f.literals.parts? with
  | none =>
    f.err "Invalid literals specification. literals must be a sequence of characters"
  | some parts =>
    parts.foldl (fun f part =>
      match part with
      | .text s => if s.length ≤ 1 then f
          else f.err ("Invalid literal " ++ part.quoted ++ ". Must be a single character")
      | part => f.err ("Invalid literal " ++ part.quoted ++ ". Must be a single character")) f

def groupText (name pattern : String) : String :=
  "(?P<" ++ name ++ ">" ++ pattern ++ ")"

/-- Checks a pattern; messages start with a mark of the place. -/
def reviewPattern (d : Description) (f : Findings) (name pattern start startAlone : String) :
    Findings :=
  match Pattern.read? (.ofFlags d.flags) (groupText name pattern).toList with
  | some p =>
    if (p.pattern.match? #[] 0).isSome then
      f.err (start ++ "Regular expression for rule " ++ named name ++ " matches empty string")
    else f
  | none =>
    let f := f.err (start ++ "Invalid regular expression for rule " ++ named name ++ ".")
    if pattern.toList.contains '#' then
      f.err (startAlone ++ "Make sure '#' in rule " ++ named name ++ " is escaped with '\\#'")
    else f

def arityFault? (d : Description) (name : String) (function : Function) : Option String :=
  let site := (Site.mk d.file function.line).text
  if function.arity > 1 then some (site ++ ": Rule " ++ named name ++ " has too many arguments")
  else if function.arity < 1 then some (site ++ ": Rule " ++ named name ++ " requires an argument")
  else none

def reviewFunction (d : Description) (f : Findings) (rule : String × Function) : Findings :=
  let (name, function) := rule
  let site := (Site.mk d.file function.line).text
  match d.arityFault? name function with
  | some line => f.err line
  | none =>
    let pattern := function.pattern.getD ""
    if pattern.isEmpty then
      f.err (site ++ ": No regular expression defined for rule " ++ named name)
    else d.reviewPattern f name pattern (site ++ ": ") (site ++ ". ")

def marksIgnored (name : String) : Bool :=
  Text.occursIn "ignore_".toList name.toList

def reviewPatternRule (d : Description) (f : Findings) (rule : String × String) : Findings :=
  let (name, pattern) := rule
  let kind := (f.rules.kinds.get? name).getD ""
  let known := f.tokens.any fun token => token.text? == some kind
  if !known && !marksIgnored kind then
    f.err ("Rule " ++ named name ++ " defined for an unspecified token " ++ kind)
  else d.reviewPattern f name pattern "" ""

def reviewState (d : Description) (f : Findings) (state : String) : Findings :=
  let functions := (f.rules.functions.get? state).getD []
  let patterns := (f.rules.patterns.get? state).getD []
  let f := functions.foldl d.reviewFunction f
  let f := patterns.foldl d.reviewPatternRule f
  let f := if functions.isEmpty && patterns.isEmpty then
      f.err ("No rules defined for state " ++ named state)
    else f
  match f.rules.errors.get? state with
  | none => f
  | some (name, function) =>
    match d.arityFault? name function with
    | some line => f.err line
    | none => f

/-- Whether the file of the description is looked at: some function of it is in use. -/
def isRead (f : Findings) : Bool :=
  f.rules.functions.entries.any (fun (_, functions) => !functions.isEmpty) ||
  f.states.keys.any f.rules.errors.contains

def definedRule? (line : String) : Option String :=
  (Text.functionName? "t_" line).or (Text.variableName? "t_" line)

def reviewSource (d : Description) (f : Findings) : Findings :=
  if !isRead f then f
  else (Text.redefinitions definedRule? d.source).foldl (fun f (line, name, previous) =>
    f.err ((Site.mk d.file line).text ++ ": Rule " ++ name ++
      " redefined. Previously defined on line " ++ toString previous)) f

/-- Checks what was taken out of a description. The kind of a token that is not a text is
answered. -/
def review (d : Description) (f : Findings) : Except (String × Findings) Findings := do
  let f ← reviewTokens f
  let f := reviewLiterals f
  return d.reviewSource (f.states.keys.foldl d.reviewState f)

end Description

end CallByNeed.Lexer
