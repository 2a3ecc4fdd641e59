import CallByNeed.Datum
import CallByNeed.Grammar.RuleAction
import CallByNeed.Journal
import CallByNeed.OrderedMap
import CallByNeed.Text.Definition
import CallByNeed.Text.Lines
import CallByNeed.Text.Template
import CallByNeed.Grammar.Basic

set_option autoImplicit false
set_option relaxedAutoImplicit false

/-!
Descriptions of parsers: members by name, some of them functions whose documentation holds rules,
and plain data for tokens, precedences and the start symbol. This module checks descriptions and
takes the rules out of them.
-/

namespace CallByNeed.Grammar

structure Function where
  line : Int
  /-- How many arguments it takes. -/
  arity : Int
  doc : Option String
  action : RuleAction
deriving Inhabited

inductive Member where
  | function (f : Function)
  | plain (value : Datum)
deriving Inhabited

inductive ErrorHandler where
  | missing
  /-- It names something that is not a function. -/
  | notFunction (value : Datum)
  | handler (line arity : Int) (recovery : LR.Recovery String)
deriving Inhabited

structure Description where
  file : String
  tokens : Option Datum := none
  precedence : Option Datum := none
  start : Option Datum := none
  members : OrderedMap Member := {}
  errorHandler : ErrorHandler := .missing
  /-- Whether its functions are methods of an object. -/
  methods : Bool := false
  /-- The lines of the file. -/
  source : List String := []
deriving Inhabited

inductive BuildFault where
  /-- The errors stand in the journal. -/
  | unbuildable
  | grammar (fault : Fault)
  /-- Tokens of different kinds cannot be put in order. -/
  | mixedTokens (kind other : String)
  /-- The start symbol is not a text. -/
  | startKind (kind : String)
  /-- A state has nothing but a forbidden action. -/
  | forbiddenState
  | template (fault : Text.TemplateFault)
deriving Repr

def BuildFault.message : BuildFault → String
  | .unbuildable => "Unable to build parser"
  | .grammar fault => fault.message
  | .mixedTokens kind other =>
    "'<' not supported between instances of '" ++ kind ++ "' and '" ++ other ++ "'"
  | .startKind kind => "sequence item 0: expected str instance, " ++ kind ++ " found"
  | .forbiddenState => "'<' not supported between instances of 'NoneType' and 'int'"
  | .template fault => fault.message

namespace Description

abbrev RuleFunction := String × Function

def sortedMembers (d : Description) : List (String × Member) :=
  d.members.sorted

def ruleFunctions (d : Description) : List RuleFunction :=
  let functions := d.sortedMembers.filterMap fun (name, m) =>
    match m with
    | .function f => if name.startsWith "p_" && name != "p_error" then some (name, f) else none
    | .plain _ => none
  functions.mergeSort fun a b => a.2.line < b.2.line ∨ (a.2.line = b.2.line ∧ a.1 ≤ b.1)

def sortedTokens (d : Description) : Except (Sum String BuildFault) (List String) :=
  let tokens := d.tokens.getD .null
  if !tokens.isSome then .error (.inl "No token list is defined")
  else match tokens.items? with
    | none => .error (.inl "tokens must be a list or tuple")
    | some items =>
      match Datum.disorder? items with
      | some (x, first) => .error (.inr (.mixedTokens x.kind first.kind))
      | none => .ok ((items.map Datum.shown).mergeSort fun a b => a ≤ b)

def joined? (d : Datum) : Option String := do
  let parts ← d.parts?
  let texts ← parts.mapM Datum.text?
  return String.join texts

/-- A text that changes with the description. A part that is not made of texts ends it. -/
def signature (d : Description) (tokens : List String) : Except BuildFault String :=
  let start := (d.start.filter Datum.isSome).toList
  let precedence := (d.precedence.filter Datum.isSome).toList.map fun p => do
    let parts ← p.parts?
    let texts ← parts.mapM joined?
    return String.join texts
  let docs := d.ruleFunctions.map fun (_, f) => f.doc.getD ""
  let rest := match precedence with
    | [none] => []
    | _ => precedence.filterMap id ++ [" ".intercalate tokens] ++ docs
  match start.head? with
  | some (.text s) => .ok (s ++ String.join rest)
  | some datum => .error (.startKind datum.kind)
  | none => .ok (String.join rest)

/-- A journal, and whether the description can be used. -/
structure Review where
  journal : Journal := {}
  failed : Bool := false

def Review.warn (r : Review) (line : String) : Review :=
  { r with journal := r.journal.warn line }

def Review.err (r : Review) (line : String) : Review :=
  { journal := r.journal.err line, failed := true }

/-- A start symbol that counts as nothing must still be a text; if it is not, an error is told. -/
def reviewStart (d : Description) (r : Review) : Review :=
  match d.start with
  | none | some .null | some (.text _) => r
  | some _ => { r with journal := r.journal.err "'start' must be a string" }

def reviewErrorHandler (d : Description) (r : Review) : Review :=
  match d.errorHandler with
  | .missing => r
  | .notFunction _ => r.err "'p_error' defined, but is not a function or method"
  | .handler line arity _ =>
    if arity = 1 then r
    else r.err ((Site.mk d.file line).text ++ ": p_error() requires 1 argument")

def reviewTokens (tokens : List String) (r : Review) : Review :=
  if tokens.contains errorMark then r.err "Illegal token name 'error'. Is a reserved word"
  else (tokens.foldl (fun (r, seen) token =>
    (if seen.contains token then r.warn ("Token " ++ Text.quoted token ++ " multiply defined")
      else r, token :: seen)) (r, ([] : List String))).1

/-- A precedence of the description: a symbol, an associativity and a level. -/
structure Ranking where
  symbol : String
  associativity : String
  level : Int

def readLevel (level : Int) (entry : Datum) : Except String (List Ranking) :=
  match entry.items? with
  | none => .error "Bad precedence table"
  | some items =>
    match items with
    | [] | [_] => .error ("Malformed precedence entry " ++ entry.quoted ++
        ". Must be (assoc, term, ..., term)")
    | associativity :: symbols =>
      match associativity.text?, symbols.mapM Datum.text? with
      | none, _ => .error "precedence associativity must be a string"
      | _, none => .error "precedence items must be strings"
      | some associativity, some symbols =>
        .ok (symbols.map fun symbol => ⟨symbol, associativity, level⟩)

def readLevels : Int → List Datum → Except String (List Ranking)
  | _, [] => .ok []
  | level, entry :: rest => do
    let here ← readLevel level entry
    let more ← readLevels (level + 1) rest
    return here ++ more

def rankings (d : Description) : Except String (List Ranking) :=
  let precedence := d.precedence.getD .null
  if !precedence.isSome then .ok []
  else match precedence.items? with
    | none => .error "precedence must be a list or tuple"
    | some entries => readLevels 1 entries

abbrev NamedRule := String × RuleLine

def readFunction (d : Description) (rules : List NamedRule) (r : Review) (f : RuleFunction) :
    Except (Text.TemplateFault × Review) (List NamedRule × Review) :=
  let (name, f) := f
  let site := (Site.mk d.file f.line).text
  let quotedName := Text.quoted name
  if f.arity > 1 then .ok (rules, r.err (site ++ ": Rule " ++ quotedName ++ " has too many arguments"))
  else if f.arity < 1 then
    .ok (rules, r.err (site ++ ": Rule " ++ quotedName ++ " requires an argument"))
  else
    let doc := f.doc.getD ""
    if doc.isEmpty then
      .ok (rules, r.warn (site ++ ": No documentation string specified in function " ++ quotedName ++
        " (ignored)"))
    else match readRules d.file f.line doc with
      | .ok more => .ok (rules ++ more.map fun rule => (name, rule), r)
      | .error fault =>
        match Text.fill fault.message with
        | .ok message => .ok (rules, r.err message)
        | .error fault => .error (fault, r)

def looksLikeRule (doc : String) : Bool :=
  (Text.pieces ' ' doc)[1]? == some ":"

/-- Warns of members that may have been meant as rules. -/
def reviewMember (d : Description) (r : Review) (member : String × Member) : Review :=
  let (name, m) := member
  match m with
  | .plain _ =>
    if name.startsWith "p_" && name != "p_error" then
      r.warn (Text.quoted name ++ " not defined as a function")
    else r
  | .function f =>
    if name.startsWith "p_" || name.startsWith "t_" then r
    else if f.arity = 1 && looksLikeRule (f.doc.getD "") then
      r.warn ((Site.mk d.file f.line).text ++ ": Possible grammar rule " ++ Text.quoted name ++
        " defined without p_ prefix")
    else r

/-- Whether the file of the description is looked at: some function of it is in use. -/
def isRead (d : Description) : Bool :=
  (match d.errorHandler with
    | .handler .. => true
    | _ => false) ||
  d.ruleFunctions.any fun (_, f) => f.arity = 1 && !(f.doc.getD "").isEmpty

def reviewSource (d : Description) (r : Review) : Review :=
  if !d.isRead then r
  else (Text.redefinitions (Text.functionName? "p_") d.source).foldl (fun r (line, name, previous) =>
    r.warn ((Site.mk d.file line).text ++ ": Function " ++ name ++
      " redefined. Previously defined on line " ++ toString previous)) r

structure Findings where
  rankings : List Ranking := []
  rules : List NamedRule := []
  review : Review := {}

def reviewAll (d : Description) (tokens : List String) :
    Except (Text.TemplateFault × Review) Findings := do
  let r := reviewTokens tokens (d.reviewErrorHandler (d.reviewStart {}))
  let (rankings, r) := match d.rankings with
    | .ok rankings => (rankings, r)
    | .error message => ([], r.err message)
  let functions := d.ruleFunctions
  if functions.isEmpty then
    let r := r.err "no rules of the form p_rulename are defined"
    return { rankings := rankings, review := d.reviewSource r }
  let (rules, r) ← functions.foldlM (fun (rules, r) f => d.readFunction rules r f) ([], r)
  let r := d.sortedMembers.foldl d.reviewMember r
  return { rankings := rankings, rules := rules, review := d.reviewSource r }

end Description

end CallByNeed.Grammar
