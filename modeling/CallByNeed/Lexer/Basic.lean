import CallByNeed.Call
import CallByNeed.Lexer.Table
import CallByNeed.Lexer.Token
import CallByNeed.Text.Upper

set_option autoImplicit false
set_option relaxedAutoImplicit false

/-!
Lexers at work. A lexer has an input, a place in it and a state; the state says which rules are
tried. Asking for a token passes over ignored characters, takes the first rule that fits, and
otherwise a literal, the state's function for errors, or a fault.
-/

namespace CallByNeed

/-- A lexer: tables, functions, and how far it has come. -/
structure Lexer where
  file : String := ""
  table : Lexer.Table := {}
  /-- The members of the description, where functions are looked up. -/
  members : OrderedMap Lexer.Member := {}
  /-- Whether functions are methods of an object. -/
  methods : Bool := false
  /-- Whether functions may only answer tokens of known kinds. -/
  checked : Bool := true
  state : String := Lexer.firstState
  /-- The rules of the state. -/
  masters : List Lexer.Master := []
  /-- The characters that the state passes over. -/
  ignored : String := ""
  onError : Option String := none
  onEnd : Option String := none
  data : Option (Array Char) := none
  pos : Int := 0
  line : Int := 1
  /-- The states to go back to, the last one first. -/
  stack : List String := []
  /-- Whether a rule has given more input. -/
  extended : Bool := false
deriving Inhabited

namespace Lexer

inductive Fault where
  /-- A function answered a token of an unknown kind; the text is what is left of the input. -/
  | unknownKind (site : Site) (rule kind rest : String)
  /-- The function for errors did not move. -/
  | stuck (c : Char) (rest : String)
  /-- No rule takes a character. -/
  | illegal (c : Char) (pos : Int) (rest : String)
  | undefinedState
  | emptyStack
  | noInput
  /-- The place is before the start of the input. -/
  | outOfRange
  /-- Something of a kind that has no parts stands for a text. -/
  | noParts (kind : String)
  /-- A list stands for a text. -/
  | notText
  /-- A record stands for a text. -/
  | noSlices
  | integer (fault : Text.IntegerFault)
  /-- A number has no such operation. -/
  | noOperation (kind operation : String)
  | call (fault : CallFault)
  | outOfFuel
deriving Repr

def Fault.message : Fault → String
  | .unknownKind site rule kind _ =>
    site.text ++ ": Rule '" ++ rule ++ "' returned an unknown token type '" ++ kind ++ "'"
  | .stuck c _ => "Scanning error. Illegal character '" ++ c.toString ++ "'"
  | .illegal c pos _ => "Illegal character '" ++ c.toString ++ "' at index " ++ toString pos
  | .undefinedState => "Undefined state"
  | .emptyStack => "pop from empty list"
  | .noInput => "No input string given with input()"
  | .outOfRange => "string index out of range"
  | .noParts kind => "'" ++ kind ++ "' object is not subscriptable"
  | .notText => "Expected a string"
  | .noSlices => "unhashable type: 'slice'"
  | .integer fault => fault.message
  | .noOperation kind operation => "'" ++ kind ++ "' object has no attribute '" ++ operation ++ "'"
  | .call fault => fault.message
  | .outOfFuel => "out of fuel"

def Fault.rest? : Fault → Option String
  | .unknownKind _ _ _ rest | .stuck _ rest | .illegal _ _ rest => some rest
  | _ => none

/-- A step of a lexer. What it did before a fault stays done. -/
abbrev Run := ExceptT Fault (StateM Lexer)

def enter (state : String) : Run Unit := do
  let l ← get
  match l.table.masters.get? state with
  | none => throw .undefinedState
  | some masters =>
    set { l with
      masters := masters
      ignored := (l.table.ignored.get? state).getD ""
      onError := (l.table.errors.get? state).join
      onEnd := l.table.ends.get? state
      state := state }

def push (state : String) : Run Unit := do
  modify fun l => { l with stack := l.state :: l.stack }
  enter state

def pop : Run Unit := do
  let l ← get
  match l.stack with
  | [] => throw .emptyStack
  | state :: stack =>
    set { l with stack := stack }
    enter state

def skip (count : Int) : Run Unit :=
  modify fun l => { l with pos := l.pos + count }

def feed (text : String) : Run Unit :=
  modify fun l => { l with data := some text.toList.toArray, pos := 0 }

def input (datum : Datum) : Run Unit :=
  match datum with
  | .text s => feed s
  | .list _ | .tuple _ => throw .notText
  | .record _ => throw .noSlices
  | datum => throw (.noParts datum.kind)

/-- What a call for a token keeps from its start: the input, and the characters to pass over. -/
structure View where
  data : Option (Array Char)
  ignored : String

def View.size (v : View) : Nat := (v.data.map Array.size).getD 0

/-- The characters from a place on; places before the first count from the end. -/
def restFrom (data : Array Char) (pos : Int) : String :=
  let start := if pos < 0 then (pos + data.size).toNat else pos.toNat
  String.ofList (data.toList.drop start)

def View.rest (v : View) (pos : Int) : String :=
  restFrom (v.data.getD #[]) pos

/-- The character at a place; places before the first count from the end. -/
def View.charAt (v : View) (pos : Int) : Except Fault Char :=
  match v.data with
  | none => .error (.noParts "NoneType")
  | some data =>
    let i := if pos < 0 then pos + data.size else pos
    if i < 0 then .error .outOfRange
    else match data[i.toNat]? with
      | some c => .ok c
      | none => .error .outOfRange

def withText {α : Type} (t : Token) (fault : String → Fault) (use : String → Run α) : Run α :=
  match t.content with
  | .text s => use s
  | .number _ => throw (fault "int")

/-- Does the steps of a rule. `next` finds the next token. -/
def perform (next : Run (Option Token)) : List RuleStep → Token → Run (Option Token)
  | [], _ => return none
  | step :: rest, t =>
    match step with
    | .keep => return some t
    | .integer =>
      match t.content with
      | .number _ => perform next rest t
      | .text s =>
        match Text.readInteger s with
        | .ok n => perform next rest { t with content := .number n }
        | .error fault => throw (.integer fault)
    | .upper => withText t (.noOperation · "upper") fun s =>
        perform next rest { t with content := .text (Text.upper s) }
    | .enter state => do
      enter state
      perform next rest t
    | .push state => do
      push state
      perform next rest t
    | .pop => do
      pop
      perform next rest t
    | .countLines => withText t (.noOperation · "count") fun s => do
        modify fun l => { l with line := l.line + (s.toList.count '\n' : Nat) }
        perform next rest t
    | .setKind kind => perform next rest { t with kind := kind }
    | .skip count => do
      skip count
      perform next rest t
    | .first => withText t .noParts fun s =>
        match s.toList with
        | [] => throw .outOfRange
        | c :: _ => perform next rest { t with content := .text c.toString }
    | .unquote => withText t .noParts fun s =>
        perform next rest { t with content := .text (String.ofList (s.toList.drop 1).dropLast) }
    | .classify words otherwise => withText t (.noOperation · "get") fun s =>
        perform next rest { t with kind := (words.lookup s).getD otherwise }
    | .more text => do
      if (← get).extended then perform next rest t
      else
        modify fun l => { l with extended := true }
        feed text
        next
    | .unreadable fault => throw (.integer fault)
    | .idle => perform next rest t

/-- Looks up a function that is to be called with a token. What counts as nothing is not called. -/
def callee (l : Lexer) (name : String) : Option (Except CallFault Function) :=
  match l.members.get? name with
  | some (.function f) =>
    match CallFault.ofArity? name f.arity l.methods with
    | some fault => some (.error fault)
    | none => some (.ok f)
  | some (.plain datum) => if datum.isSome then some (.error (.notCallable datum.kind)) else none
  | none => none

/-- Whether functions may answer tokens of a kind. -/
def knows (l : Lexer) (kind : String) : Bool :=
  l.table.tokens.any (fun token => token.text? == some kind) ||
  l.table.isLiteral kind

/-- Finds the next token from a place on. The first argument bounds the number of rules that are
tried. -/
def scan : Nat → View → Int → Run (Option Token)
  | 0, _, _ => throw .outOfFuel
  | fuel + 1, v, pos => do
    let next : Run (Option Token) := do
      let l ← get
      scan fuel ⟨l.data, l.ignored⟩ l.pos
    let l ← get
    if pos < v.size then
      let c ← v.charAt pos
      let data := v.data.getD #[]
      if v.ignored.toList.contains c then scan fuel v (pos + 1)
      else match l.masters.findSome? fun m => m.match? data pos.toNat with
        | some (slot, stop) =>
          let text := String.ofList (data.extract pos.toNat stop).toList
          let plain := fun (kind : String) => do
            if kind.isEmpty then scan fuel v stop
            else
              modify fun l => { l with pos := stop }
              return some ⟨kind, .text text, l.line, pos⟩
          match slot with
          | .drop => scan fuel v stop
          | .token kind => plain kind
          | .call name kind =>
            match l.callee name with
            | none => plain kind
            | some (.error fault) =>
              modify fun l => { l with pos := stop }
              throw (.call fault)
            | some (.ok f) =>
              modify fun l => { l with pos := stop }
              match ← perform next f.steps ⟨kind, .text text, l.line, pos⟩ with
              | none =>
                let l ← get
                scan fuel { v with ignored := l.ignored } l.pos
              | some t =>
                if l.checked && !l.knows t.kind then
                  throw (.unknownKind ⟨l.file, f.line⟩ name t.kind (v.rest stop))
                return some t
        | none =>
          if l.table.isLiteral c.toString then
            modify fun l => { l with pos := pos + 1 }
            return some ⟨c.toString, .text c.toString, l.line, pos⟩
          else match l.onError.bind l.callee with
            | none =>
              modify fun l => { l with pos := pos }
              throw (.illegal c pos (v.rest pos))
            | some (.error fault) =>
              modify fun l => { l with pos := pos }
              throw (.call fault)
            | some (.ok f) =>
              modify fun l => { l with pos := pos }
              let rest := restFrom (l.data.getD #[]) pos
              let answer ← perform next f.steps ⟨"error", .text rest, l.line, pos⟩
              let l ← get
              if l.pos = pos then throw (.stuck c (v.rest pos))
              match answer with
              | none => scan fuel v l.pos
              | some t => return some t
    else match l.onEnd.bind l.callee with
      | none =>
        modify fun l => { l with pos := pos + 1 }
        if l.data.isNone then throw .noInput
        return none
      | some (.error fault) =>
        modify fun l => { l with pos := pos }
        throw (.call fault)
      | some (.ok f) =>
        modify fun l => { l with pos := pos }
        perform next f.steps ⟨"eof", .text "", l.line, pos⟩

def scanLimit (l : Lexer) : Nat :=
  64 * (l.data.map Array.size).getD 0 + 64 * l.pos.natAbs + 4096

def token : Run (Option Token) := do
  let l ← get
  scan l.scanLimit ⟨l.data, l.ignored⟩ l.pos

/-- The tokens up to the end or to a fault, at most as many as the first argument says. -/
def collect : Nat → Lexer → Array Token → Array Token × Option Fault × Lexer
  | 0, l, tokens => (tokens, some .outOfFuel, l)
  | fuel + 1, l, tokens =>
    match token.run.run l with
    | (.ok none, l) => (tokens, none, l)
    | (.ok (some t), l) => collect fuel l (tokens.push t)
    | (.error fault, l) => (tokens, some fault, l)

def tokens (l : Lexer) : Array Token × Option Fault × Lexer :=
  collect l.scanLimit l #[]

def ofTable (d : Description) (checked : Bool) (table : Table) : Lexer :=
  { file := d.file
    table := table
    members := d.members
    methods := d.methods
    checked := checked
    masters := (table.masters.get? firstState).getD []
    ignored := (table.ignored.get? firstState).getD ""
    onError := (table.errors.get? firstState).join
    onEnd := table.ends.get? firstState }

/-- A copy that looks up its functions again. Only the last rules that are tried together stay in
each state of its tables. A state without a function for errors makes this fail. -/
def rebound (l : Lexer) : Except Fault Lexer := do
  for (_, masters) in l.table.masters.entries do
    for m in masters do
      for slot in m.index do
        match slot with
        | some (.call name _) =>
          match l.members.get? name with
          | some (.plain datum) =>
            if datum.isSome then throw (.noOperation datum.kind "__name__")
          | _ => pure ()
        | _ => pure ()
  for (_, name) in l.table.errors.entries do
    match name.bind l.members.get? with
    | some (.function _) => pure ()
    | some (.plain datum) => throw (.noOperation datum.kind "__name__")
    | none => throw (.noOperation Datum.null.kind "__name__")
  let masters := l.table.masters.entries.map fun (state, masters) =>
    (state, masters.getLast?.toList)
  return { l with table := { l.table with masters := ⟨masters⟩ } }

end Lexer

end CallByNeed
