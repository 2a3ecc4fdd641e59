import CallByNeed.LR.Automaton
import CallByNeed.LR.Entry
import CallByNeed.Text.Address
import CallByNeed.Text.Blank

set_option autoImplicit false
set_option relaxedAutoImplicit false

/-!
A shift-reduce parser as a machine: a configuration, one pure step on it, and runs of steps.

At an error the machine reports the token, unless fewer than three tokens were shifted since the
last error. It then pops its stack until some state accepts the error symbol. If none does, it drops
the token and starts again from the start state with the tokens that follow. The states and the
entries are two stacks: a rule without symbols that refuses its reduction takes a state off the one
and leaves the other as it is.
-/

namespace CallByNeed.LR

/-- How many tokens must be shifted after an error before the next one is reported. -/
def recoveryDistance : Nat := 3

/-- What happens when an error is reported. At the end of the input nothing more than the report
happens. -/
inductive Recovery (S : Type) where
  /-- The machine recovers by itself. -/
  | report
  /-- The next token becomes the lookahead. -/
  | resume
  /-- The stack is cleared. -/
  | restart
  /-- The stack is cleared and the lookahead dropped. -/
  | restartResume
  /-- Tokens are dropped up to the next of this symbol, which becomes the lookahead. -/
  | sync (symbol : S)
deriving Repr

structure Shown where
  kind : String
  text : String
deriving Repr, Inhabited

/-- A value among others: its text if that is short, or else its kind. -/
def Shown.brief (s : Shown) : String :=
  if s.text.length < 16 then s.text else "<" ++ s.kind ++ " @ 0x>"

def Shown.full (s : Shown) : String :=
  let text := if s.text.length > 40 then String.ofList (s.text.toList.take 40) ++ " ..." else s.text
  "<" ++ s.kind ++ " @ 0x> (" ++ text ++ ")"

/-- What a rule sees when it is reduced: its own entry, the entries it takes from left to right, and
the stack below them from the top. -/
structure Slice (S V : Type) where
  head : Entry S V
  args : List (Entry S V)
  below : List (Entry S V)

inductive Reduction (S V E : Type) where
  /-- The entry that takes the place of the rule's symbols. -/
  | made (head : Entry S V)
  /-- The rule refuses the symbols, which is an error of the input. -/
  | refused
  | failed (fault : Fault E)

inductive Message where
  | log (line : String)
  | notice (text : String)
deriving Repr, Inhabited

/-- The fixed parts of a parse: the tables, the meaning of the rules, what happens at an error, and
whether positions are tracked and a log is kept. -/
structure Machine (S V E : Type) where
  automaton : Automaton S
  reduce : Nat → Slice S V → Reduction S V E
  /-- The value of a symbol that no rule gave one, and of a parse without a result. -/
  blank : V
  /-- The value of the error symbol that a refused reduction leaves. -/
  errorValue : V
  /-- What happens at an error, or why that fails; without it the machine recovers by itself. -/
  recovery : Option (Except E (Recovery S))
  /-- How many errors may be reported. -/
  reportLimit : Option Nat := none
  shown : V → Shown
  tracking : Bool := false
  logging : Bool := false

/-- The moving parts of a parse. Stacks have their top first. -/
structure Configuration (S V E : Type) where
  /-- The current state; the top of `states` except after a restart. -/
  state : Nat := 0
  states : List Nat := [0]
  entries : List (Entry S V)
  lookahead : Option (Entry S V) := none
  /-- Lookaheads to be read again before the input. -/
  pending : List (Option (Entry S V)) := []
  input : List (Feed S V)
  /-- What reading past the input gives. -/
  ending : Option E := none
  /-- The line and position that the source has reached. -/
  sourceLine : Int := 1
  sourcePos : Int := 0
  /-- How many more tokens are to be shifted before an error is reported. -/
  errorCount : Nat := 0
  /-- Whether errors are reported whatever the count. -/
  recovered : Bool := true
  /-- The reported errors, the last one first; none at the end of the input. -/
  reports : List (Option (Token S V)) := []
  /-- The messages, the last one first. -/
  messages : List Message := []

inductive Step (S V E : Type) where
  | next (c : Configuration S V E)
  /-- The parse is over, with the content of the start symbol if there is one. -/
  | done (content : Content S V) (c : Configuration S V E)
  | failed (fault : Fault E) (c : Configuration S V E)

variable {S V E : Type}

/-- Every symbol of a stack but the lowest, from the bottom, then the lookahead. -/
def Machine.stackText (m : Machine S V E) (c : Configuration S V E) (lookahead : String) : String :=
  let symbols := (c.entries.reverse.drop 1).map fun e => m.automaton.label e.symbol
  Text.trimLeft (" ".intercalate symbols ++ " . " ++ lookahead)

def Machine.tokenText (m : Machine S V E) (t : Token S V) : Except (Fault E) String :=
  match t.line, t.pos with
  | none, _ => .error (.noLine true)
  | _, none => .error (.noPos true)
  | some line, some pos =>
    .ok ("LexToken(" ++ m.automaton.label t.symbol ++ "," ++ (m.shown t.value).text ++ "," ++
      toString line ++ "," ++ toString pos ++ ")")

def Machine.lookaheadText (m : Machine S V E) : Option (Entry S V) → Except (Fault E) String
  | none => .ok "None"
  | some e =>
    match e.isToken, e.token? with
    | true, some t => m.tokenText t
    | _, _ => .ok (m.automaton.label e.symbol)

def Machine.shownContent (m : Machine S V E) : Content S V → Except (Fault E) Shown
  | .absent => .error .noContent
  | .value v => .ok (m.shown v)
  | .offender t => (m.tokenText t).map fun text => ⟨"LexToken", text⟩

def Machine.shownArgs (m : Machine S V E) (entries : List (Entry S V)) :
    Except (Fault E) String :=
  (entries.mapM fun e => (m.shownContent e.content).map Shown.brief).map fun texts =>
    "[" ++ ",".intercalate texts ++ "]"

/-- Adds a line to the log, if there is one, and goes on. -/
def Machine.tell (m : Machine S V E) (c : Configuration S V E)
    (line : Unit → Except (Fault E) String) (k : Configuration S V E → Step S V E) : Step S V E :=
  if m.logging then
    match line () with
    | .ok text => k { c with messages := .log text :: c.messages }
    | .error fault => .failed fault c
  else k c

/-- The lowest entry of a stack, which is also the lookahead at the end of the input. -/
def Automaton.bottom (a : Automaton S) : Entry S V :=
  { symbol := a.endMark }

def Configuration.pull (c : Configuration S V E) :
    Except E (Option (Token S V) × Configuration S V E) :=
  match c.input, c.ending with
  | feed :: rest, _ =>
    .ok (some feed.token, { c with input := rest, sourceLine := feed.line, sourcePos := feed.pos })
  | [], none => .ok (none, c)
  | [], some e => .error e

def Machine.fetch (m : Machine S V E) (c : Configuration S V E) :
    Except (Fault E) (Configuration S V E) :=
  match c.lookahead, c.pending with
  | some _, _ => .ok c
  | none, first :: rest =>
    .ok { c with lookahead := some (first.getD m.automaton.bottom), pending := rest }
  | none, [] =>
    match c.pull with
    | .error e => .error (.called e)
    | .ok (token, c) =>
      .ok { c with lookahead := some ((token.map Entry.ofToken).getD m.automaton.bottom) }

/-- The state after a reduction to the symbol on top of the given states. -/
def Machine.gotoState (m : Machine S V E) (states : List Nat) (symbol : S) :
    Except (Fault E) Nat :=
  match states with
  | [] => .error .outOfRange
  | top :: _ =>
    match m.automaton.goto top with
    | none => .error (.noGotoRow top)
    | some row =>
      match row symbol with
      | none => .error (.noGoto (m.automaton.label symbol))
      | some state => .ok state

/-- The entry of a rule before its reduction, with its extent if positions are tracked. -/
def Machine.headEntry (m : Machine S V E) (c : Configuration S V E) (rule : RuleShape S)
    (args : List (Entry S V)) : Except (Fault E) (Entry S V) :=
  let head : Entry S V := { symbol := rule.head, content := .value m.blank }
  if !m.tracking then .ok head
  else if rule.size = 0 then .ok { head with line := some c.sourceLine, pos := some c.sourcePos }
  else match args.head?, args.getLast? with
    | some first, some last => do
      let line ← first.lineOrFault
      let pos ← first.posOrFault
      let endLine ← last.lineOrFault
      let endPos ← last.posOrFault
      return { head with
        line := some line, pos := some pos
        endLine := some (last.endLine.getD endLine), endPos := some (last.endPos.getD endPos) }
    | _, _ => .error .outOfRange

/-- The configuration after a rule refused its symbols: all but the last of them are back on the
stack, and the error symbol is the lookahead. -/
def Machine.refuse (m : Machine S V E) (c : Configuration S V E) (slice : Slice S V) :
    Step S V E :=
  match c.states with
  | [] => .failed .emptyPop c
  | [_] => .failed .outOfRange { c with states := [] }
  | _ :: top :: states =>
    .next { c with
      state := top
      states := top :: states
      entries := slice.args.dropLast.reverse ++ slice.below
      pending := c.lookahead :: c.pending
      lookahead := some { slice.head with
        symbol := m.automaton.error, content := .value m.errorValue }
      errorCount := recoveryDistance
      recovered := false }

def Machine.reduceSlice (m : Machine S V E) (c : Configuration S V E) (number : Nat)
    (rule : RuleShape S) (slice : Slice S V) : Step S V E :=
  match m.reduce number slice with
  | .failed fault => .failed fault c
  | .refused => m.refuse c slice
  | .made head =>
    let states := c.states.drop rule.size
    m.tell c (fun _ => (m.shownContent head.content).map fun s => "Result : " ++ s.full) fun c =>
    match m.gotoState states rule.head with
    | .error fault => .failed fault c
    | .ok state =>
      .next { c with state := state, states := state :: states, entries := head :: slice.below }

def Machine.reduceRule (m : Machine S V E) (c : Configuration S V E) (number : Nat)
    (rule : RuleShape S) : Step S V E :=
  let top := c.entries.take (rule.size + 1)
  m.tell c (fun _ => do
    let args ← m.shownArgs (c.entries.take rule.size).reverse
    let state ← match c.states.drop rule.size with
      | [] => .error .outOfRange
      | states => m.gotoState states rule.head
    return "Action : Reduce rule [" ++ rule.text ++ "] with " ++ args ++ " and goto state " ++
      toString state) fun c =>
  if rule.size = 0 then
    match m.headEntry c rule [] with
    | .error fault => .failed fault c
    | .ok head => m.reduceSlice c number rule ⟨head, [], c.entries⟩
  else
    match top.reverse with
    | [] => .failed .assignOutOfRange c
    | _ :: args =>
      match m.headEntry c rule args with
      | .error fault => .failed fault c
      | .ok head => m.reduceSlice c number rule ⟨head, args, c.entries.drop rule.size⟩

def Machine.accept (m : Machine S V E) (c : Configuration S V E) : Step S V E :=
  match c.entries with
  | [] => .failed .outOfRange c
  | top :: _ =>
    let content := match top.content with
      | .absent => .value m.blank
      | content => content
    m.tell c (fun _ => (m.shownContent content).map fun s => "Done   : Returning " ++ s.full)
      fun c => m.tell c (fun _ => .ok "PLY: PARSE DEBUG END") fun c => .done content c

/-- Drops tokens up to and including the next of the given symbol, which is answered. -/
def Configuration.sync [DecidableEq S] (c : Configuration S V E) (symbol : S) :
    List (Feed S V) → Except E (Option (Token S V) × Configuration S V E)
  | [] =>
    match c.ending with
    | none => .ok (none, { c with input := [] })
    | some e => .error e
  | feed :: rest =>
    let c := { c with sourceLine := feed.line, sourcePos := feed.pos }
    if feed.token.symbol = symbol then .ok (some feed.token, { c with input := rest })
    else c.sync symbol rest

/-- Reports an error and does what the recovery asks for. The answer is the next lookahead, which
counts only if the configuration has recovered. -/
def Machine.report [DecidableEq S] (m : Machine S V E) (recovery : Recovery S)
    (c : Configuration S V E) (token : Option (Token S V)) :
    Except (Fault E) (Option (Token S V)) × Configuration S V E :=
  let c := { c with reports := token :: c.reports }
  let cleared := { c with states := [0], entries := [m.automaton.bottom] }
  if m.reportLimit.any (· < c.reports.length) then (.error .tooManyErrors, c)
  else if token.isNone then (.ok none, c)
  else match recovery with
    | .report => (.ok none, c)
    | .restart => (.ok none, cleared)
    | .restartResume => (.ok none, { cleared with recovered := true })
    | .resume =>
      match c.pull with
      | .error e => (.error (.called e), c)
      | .ok (next, c) => (.ok next, { c with recovered := true })
    | .sync symbol =>
      match c.sync symbol c.input with
      | .error e => (.error (.called e), c)
      | .ok (none, c) => (.ok none, c)
      | .ok (some next, c) => (.ok (some next), { c with recovered := true })

def Machine.noticeText (m : Machine S V E) : Option (Token S V) → String
  | none => "yacc: Parse error in input. EOF\n"
  | some t =>
    match t.line with
    | some (.ofNat 0) => "yacc: Syntax error, token=" ++ m.automaton.label t.symbol
    | some line =>
      "yacc: Syntax error at line " ++ toString line ++ ", token=" ++
        m.automaton.label t.symbol ++ "\n"
    | none => "yacc: Syntax error, token=" ++ m.automaton.label t.symbol

/-- Makes the error symbol the lookahead, drops a lookahead before an error symbol, or pops the
stack. -/
def Machine.unwind [DecidableEq S] (m : Machine S V E) (c : Configuration S V E)
    (lookahead : Entry S V) : Step S V E :=
  if c.states.length ≤ 1 ∧ lookahead.symbol ≠ m.automaton.endMark then
    .next { c with lookahead := none, state := 0, pending := [] }
  else if lookahead.symbol = m.automaton.endMark then .done (.value m.blank) c
  else if lookahead.symbol ≠ m.automaton.error then
    match c.entries with
    | [] => .failed .outOfRange c
    | top :: entries =>
      if top.symbol = m.automaton.error then
        if !m.tracking then .next { c with lookahead := none }
        else match top.lineOrFault, top.posOrFault with
          | .error fault, _ => .failed fault c
          | _, .error fault => .failed fault c
          | .ok line, .ok pos =>
            let top := { top with
              endLine := some (lookahead.line.getD line), endPos := some (lookahead.pos.getD pos) }
            .next { c with lookahead := none, entries := top :: entries }
      else
        let error : Entry S V := {
          symbol := m.automaton.error
          content := match lookahead.token? with
            | some t => .offender t
            | none => .absent
          line := lookahead.line, pos := lookahead.pos
          endLine := lookahead.line, endPos := lookahead.pos }
        .next { c with lookahead := some error, pending := some lookahead :: c.pending }
  else
    match c.entries with
    | [] => .failed .emptyPop c
    | top :: entries =>
      let states := c.states.drop 1
      match states with
      | [] => .failed .outOfRange { c with entries := entries, states := [] }
      | state :: _ =>
        if !m.tracking then
          .next { c with state := state, states := states, entries := entries }
        else match top.lineOrFault, top.posOrFault with
          | .error fault, _ => .failed fault { c with entries := entries }
          | _, .error fault => .failed fault { c with entries := entries }
          | .ok line, .ok pos =>
            .next { c with
              state := state, states := states, entries := entries
              lookahead := some { lookahead with line := some line, pos := some pos } }

def Machine.recover [DecidableEq S] (m : Machine S V E) (c : Configuration S V E)
    (lookahead : Entry S V) : Step S V E :=
  if c.errorCount = 0 ∨ c.recovered then
    let c := { c with errorCount := recoveryDistance, recovered := false }
    let token := if lookahead.symbol = m.automaton.endMark then none else lookahead.token?
    match m.recovery with
    | some (.error e) => .failed (.called e) c
    | some (.ok recovery) =>
      match m.report recovery c token with
      | (.error fault, c) => .failed fault c
      | (.ok next, c) =>
        if c.recovered then .next { c with lookahead := next.map Entry.ofToken }
        else m.unwind c lookahead
    | none =>
      let c := { c with messages := .notice (m.noticeText token) :: c.messages }
      match token with
      | none => .done (.value m.blank) c
      | some _ => m.unwind c lookahead
  else m.unwind { c with errorCount := recoveryDistance } lookahead

def Machine.perform [DecidableEq S] (m : Machine S V E) (action : Option Action)
    (c : Configuration S V E) : Step S V E :=
  let stack := fun (start : String) => (m.lookaheadText c.lookahead).map fun lookahead =>
    start ++ m.stackText c lookahead
  m.tell c (fun _ => stack "Stack  : ") fun c =>
  match action, c.lookahead with
  | some (.shift state), some lookahead =>
    m.tell c (fun _ => .ok ("Action : Shift and goto state " ++ toString state)) fun c =>
    .next { c with
      state := state, states := state :: c.states, entries := lookahead :: c.entries
      lookahead := none, errorCount := c.errorCount - 1 }
  | some (.reduce number), _ =>
    match m.automaton.rule number with
    | none => .failed .brokenTable c
    | some rule => m.reduceRule c number rule
  | some .accept, _ => m.accept c
  | none, some lookahead =>
    m.tell c (fun _ => stack "ERROR: Error  : ") fun c => m.recover c lookahead
  | _, none => .failed .brokenTable c

def Machine.step [DecidableEq S] (m : Machine S V E) (c : Configuration S V E) :
    Step S V E :=
  m.tell c (fun _ => .ok "") fun c =>
  m.tell c (fun _ => .ok ("State  : " ++ toString c.state)) fun c =>
  match m.automaton.defaulted c.state with
  | some rule =>
    m.tell c (fun _ => .ok ("Defaulted state " ++ toString c.state ++ ": Reduce using " ++
      toString rule)) fun c => m.perform (some (.reduce rule)) c
  | none =>
    match m.fetch c with
    | .error fault => .failed fault c
    | .ok c =>
      m.perform (c.lookahead.bind fun e => m.automaton.action c.state e.symbol) c

inductive Outcome (S V E : Type) where
  | done (content : Content S V)
  | failed (fault : Fault E)
  /-- The steps allowed did not suffice. -/
  | outOfFuel

/-- Takes steps until the parse is over, at most `fuel` of them. -/
def Machine.run [DecidableEq S] (m : Machine S V E) :
    Nat → Configuration S V E → Outcome S V E × Configuration S V E
  | 0, c => (.outOfFuel, c)
  | fuel + 1, c =>
    match m.step c with
    | .next c => m.run fuel c
    | .done content c => (.done content, c)
    | .failed fault c => (.failed fault, c)

def Machine.initial (m : Machine S V E) (input : List (Feed S V)) (ending : Option E)
    (recovered : Bool) : Configuration S V E :=
  { entries := [m.automaton.bottom], input := input, ending := ending, recovered := recovered
    messages := if m.logging then [.log "PLY: PARSE DEBUG START"] else [] }

/-- The text of the messages that `pick` chooses, the first one first. -/
def Configuration.text (c : Configuration S V E) (pick : Message → Option String) : String :=
  Text.withoutAddresses (String.join (c.messages.reverse.filterMap pick))

def Configuration.logText (c : Configuration S V E) : String :=
  c.text fun
    | .log line => some (line ++ "\n")
    | .notice _ => none

def Configuration.noticeText (c : Configuration S V E) : String :=
  c.text fun
    | .log _ => none
    | .notice text => some text

def Configuration.streamText (c : Configuration S V E) : String :=
  c.text fun
    | .log line => some (line ++ "\n")
    | .notice text => some text

end CallByNeed.LR
