import CallByNeed.Proofs.Parse.Turn

set_option autoImplicit false
set_option relaxedAutoImplicit false

/-!
The machine takes the turns of a parse, one step for each. Where the table has no entry it drops the
stack and the token and starts again, and at the end of the input it stops. Each of these takes no
more steps than what is left to do at a stage goes down by.
-/

namespace CallByNeed.Language

open LR (Action)

/-- The parser without positions and without a log. -/
abbrev parser : LR.Machine Symbol Phrase Text.IntegerFault :=
  machine false false

abbrev Snapshot : Type :=
  LR.Configuration Symbol Phrase Text.IntegerFault

/-- What a configuration knows about errors: how many tokens are to be shifted before the next one
is reported, whether it is reported all the same, and the reports, the last one first. -/
structure Tally where
  count : Nat
  recovered : Bool
  reports : List (Option (LR.Token Symbol Phrase))

/-- The tally after some tokens were shifted. -/
def Tally.shift (k : Tally) (n : Nat) : Tally :=
  { k with count := k.count - n }

def Tally.err (k : Tally) (offender : Option (LR.Token Symbol Phrase)) : Tally :=
  ⟨3, false, if k.count = 0 ∨ k.recovered then offender :: k.reports else k.reports⟩

private theorem Tally.shift_shift (k : Tally) (m n : Nat) :
    (k.shift m).shift n = k.shift (m + n) := by
  simp [Tally.shift, Nat.sub_sub]

def lookEntry : List Token → LR.Entry Symbol Phrase
  | [] => automaton.bottom
  | t :: _ => .ofToken t.feed.token

/-- The configuration has the chain on its stacks, and nothing to be read again. Reading past its
input gives `e`. -/
structure Carries (c : Snapshot) (ch : Chain) (k : Tally) (e : Option Text.IntegerFault) :
    Prop where
  state : c.state = ch.top
  states : c.states = ch.map Link.state ++ [0]
  entries : c.entries.map (fun e => (e.symbol, e.content)) =
    ch.map (fun l => (l.symbol, .value l.phrase)) ++ [(.endMark, .absent)]
  pending : c.pending = []
  ending : c.ending = e
  tally : (⟨c.errorCount, c.recovered, c.reports⟩ : Tally) = k

structure Shows (c : Snapshot) (s : Stage) (k : Tally) (e : Option Text.IntegerFault) : Prop
    extends Carries c s.chain k e where
  lookahead : c.lookahead = some (lookEntry s.ahead)
  input : c.input = s.ahead.tail.map Token.feed

structure Unread (c : Snapshot) (s : Stage) (k : Tally) (e : Option Text.IntegerFault) : Prop
    extends Carries c s.chain k e where
  lookahead : c.lookahead = none
  input : c.input = s.ahead.map Token.feed

/-- The configuration is at the stage once its lookahead is read. -/
def Ready (c : Snapshot) (s : Stage) (k : Tally) (e : Option Text.IntegerFault) : Prop :=
  ∃ c', parser.fetch c = .ok c' ∧ Shows c' s k e

private theorem Shows.ready {c : Snapshot} {s : Stage} {k : Tally} {e : Option Text.IntegerFault}
    (h : Shows c s k e) : Ready c s k e :=
  ⟨c, by simp [LR.Machine.fetch, h.lookahead], h⟩

theorem Unread.ready {c : Snapshot} {s : Stage} {k : Tally} {e : Option Text.IntegerFault}
    (h : Unread c s k e) (more : s.ahead ≠ [] ∨ e = none) : Ready c s k e := by
  obtain ⟨ch, ahead⟩ := s
  cases ahead with
  | nil =>
    have hinput : c.input = [] := h.input
    have hending : c.ending = none := h.ending.trans (more.resolve_left fun hne => hne rfl)
    refine ⟨{ c with lookahead := some (lookEntry []) }, ?_, ⟨⟨h.state, h.states, h.entries,
      h.pending, h.ending, h.tally⟩, rfl, hinput⟩⟩
    simp [LR.Machine.fetch, h.lookahead, h.pending, LR.Configuration.pull, hinput, hending,
      lookEntry, machine]
  | cons t ts =>
    have hinput : c.input = t.feed :: ts.map Token.feed := h.input
    refine ⟨{ c with
      lookahead := some (lookEntry (t :: ts)), input := ts.map Token.feed
      sourceLine := t.feed.line, sourcePos := t.feed.pos }, ?_, ⟨⟨h.state, h.states, h.entries,
      h.pending, h.ending, h.tally⟩, rfl, rfl⟩⟩
    simp [LR.Machine.fetch, h.lookahead, h.pending, LR.Configuration.pull, hinput, lookEntry]

theorem Unread.step_fault {c : Snapshot} {ch : Chain} {k : Tally} {fault : Text.IntegerFault}
    (h : Unread c ⟨ch, []⟩ k (some fault)) : parser.step c = .failed (.called fault) c := by
  have hinput : c.input = [] := h.input
  simp [LR.Machine.step, LR.Machine.tell, machine, automaton, LR.Machine.fetch, h.lookahead,
    h.pending, LR.Configuration.pull, hinput, h.ending]

section

variable {e : Option Text.IntegerFault}

theorem symbol_lookEntry (ahead : List Token) : (lookEntry ahead).symbol = look ahead := by
  cases ahead <;> rfl

private theorem step_of_fetch {c c' : Snapshot} (fetched : parser.fetch c = .ok c') :
    parser.step c =
      parser.perform (c'.lookahead.bind fun e => automaton.action c'.state e.symbol) c' := by
  simp only [LR.Machine.step, LR.Machine.tell, machine, automaton, Bool.false_eq_true, if_false]
    at fetched ⊢
  rw [fetched]

theorem Ready.step {c : Snapshot} {s : Stage} {k : Tally} (h : Ready c s k e) :
    ∃ c', Shows c' s k e ∧ parser.step c = parser.perform s.action c' := by
  obtain ⟨c', fetched, shows'⟩ := h
  refine ⟨c', shows', ?_⟩
  rw [step_of_fetch fetched, shows'.lookahead, shows'.state, Option.bind_some, symbol_lookEntry]
  rfl

section Turns

theorem perform_shift {c : Snapshot} {ch : Chain} {t : Token} {ts : List Token} {k : Tally}
    (h : Shows c ⟨ch, t :: ts⟩ k e) (q : Nat) :
    ∃ c', parser.perform (some (.shift q)) c = .next c' ∧
      Unread c' ⟨⟨q, .terminal t.kind, t.payload.toPhrase⟩ :: ch, ts⟩ (k.shift 1) e := by
  have hshift : parser.perform (some (.shift q)) c = .next { c with
      state := q, states := q :: c.states, entries := lookEntry (t :: ts) :: c.entries
      lookahead := none, errorCount := c.errorCount - 1 } := by
    simp [LR.Machine.perform, LR.Machine.tell, machine, h.lookahead]
  refine ⟨_, hshift, ?_⟩
  refine ⟨⟨rfl, ?_, ?_, h.pending, h.ending, ?_⟩, rfl, h.input⟩
  · rw [h.states]
    rfl
  · rw [List.map_cons, h.entries]
    rfl
  · rw [← h.tally]
    rfl

private theorem Chain.states_eq_cons (ch : Chain) :
    ∃ states, ch.map Link.state ++ [0] = ch.top :: states := by
  cases ch with
  | nil => exact ⟨[], rfl⟩
  | cons l ch => exact ⟨_, rfl⟩

theorem gotoState_of_follow {ch : Chain} {n : Nonterminal} {g : Nat}
    (leads : follow ch.top (.nonterminal n) = some g) :
    parser.gotoState (ch.map Link.state ++ [0]) (.nonterminal n) = .ok g := by
  obtain ⟨row, hrow, hnext⟩ := rowAt_of_follow leads
  have hlookup : row.gotos.lookup n = some g := hnext
  have hsome : row.gotos ≠ [] := by
    intro hnil
    simp [hnil] at hlookup
  obtain ⟨rest, hstates⟩ := ch.states_eq_cons
  simp [LR.Machine.gotoState, hstates, machine, automaton, rows_getElem?, hrow, hsome, Row.goto,
    hlookup]

private theorem phrases_of_map {es : List (LR.Entry Symbol Phrase)} {ch : Chain}
    (h : es.map (fun e => (e.symbol, e.content)) = ch.map fun l => (l.symbol, .value l.phrase)) :
    phrases es = ch.map Link.phrase := by
  induction ch generalizing es with
  | nil =>
    obtain rfl := List.map_eq_nil_iff.1 h
    rfl
  | cons l ch ih =>
    obtain ⟨e, es, rfl, he, hes⟩ := List.map_eq_cons_iff.1 h
    have hcontent : e.content = .value l.phrase := congrArg Prod.snd he
    have hrest := ih hes
    simp only [phrases, List.map_cons, hcontent] at hrest ⊢
    rw [hrest]

private theorem perform_reduce {c : Snapshot} {upper lower : Chain} {ahead : List Token} {k : Tally}
    (h : Shows c ⟨upper ++ lower, ahead⟩ k e) {r : Rule} {number g : Nat} {p : Phrase}
    (mem : (r, number) ∈ numbered) (size : upper.length = r.body.length)
    (built : r.build (upper.reverse.map Link.phrase) = some p)
    (leads : follow lower.top (.nonterminal r.head) = some g) :
    ∃ c', parser.perform (some (.reduce number)) c = .next c' ∧
      Ready c' ⟨⟨g, .nonterminal r.head, p⟩ :: lower, ahead⟩ k e := by
  have hentries := h.entries
  rw [List.map_append, List.append_assoc] at hentries
  obtain ⟨es, fs, hes, hupper, hlower⟩ := List.map_eq_append_iff.1 hentries
  have hlen : es.length = r.body.length := by
    have hlength := congrArg List.length hupper
    rw [List.length_map, List.length_map] at hlength
    exact hlength.trans size
  obtain ⟨f, fs', rfl⟩ : ∃ f fs', fs = f :: fs' := by
    cases fs with
    | nil => simp at hlower
    | cons f fs' => exact ⟨f, fs', rfl⟩
  have hstates : c.states.drop r.body.length = lower.map Link.state ++ [0] := by
    rw [h.states, List.map_append, List.append_assoc, ← size, List.drop_left' (by simp)]
  have hrule : automaton.rule number = some r.shape := by
    simp [automaton, rules_of_numbered mem]
  have hsize : r.body.length ≠ 0 := by
    have hbody := nonempty_body r (mem_productions mem)
    simpa using hbody
  have htop : (c.entries.take (r.body.length + 1)).reverse = f :: es.reverse := by
    rw [hes, ← hlen, List.take_append]
    simp
  have hbelow : c.entries.drop r.body.length = f :: fs' := by
    rw [hes, ← hlen, List.drop_left]
  have hbuild : r.build (phrases es.reverse) = some p := by
    have hreverse := congrArg List.reverse hupper
    rw [← List.map_reverse, ← List.map_reverse] at hreverse
    rwa [phrases_of_map hreverse]
  have hreduce : parser.perform (some (.reduce number)) c = .next { c with
      state := g, states := g :: (lower.map Link.state ++ [0])
      entries := { symbol := .nonterminal r.head, content := .value p } :: f :: fs' } := by
    simp only [LR.Machine.perform, LR.Machine.tell, LR.Machine.reduceRule, LR.Machine.reduceSlice,
      LR.Machine.headEntry, machine, hrule, Rule.shape, hsize, htop, hbelow, hstates, reduce,
      rules_of_numbered mem, Option.bind_some, hbuild, Bool.false_eq_true, if_false, Bool.not_false,
      if_true]
    have hgoto := gotoState_of_follow leads
    simp only [machine] at hgoto
    simp only [hgoto]
  refine ⟨_, hreduce, Shows.ready ⟨⟨rfl, rfl, ?_, h.pending, h.ending, h.tally⟩, h.lookahead,
    h.input⟩⟩
  rw [List.map_cons, hlower]
  rfl

theorem Ready.turn {c : Snapshot} {s s' : Stage} {k : Tally} (h : Ready c s k e) (turn : Turn s s')
    (more : s'.ahead ≠ [] ∨ e = none) :
    ∃ c', parser.step c = .next c' ∧
      Ready c' s' (k.shift (s.ahead.length - s'.ahead.length)) e := by
  obtain ⟨c', shows', hstep⟩ := h.step
  rw [hstep]
  cases turn with
  | @shift ch t ts q entry =>
    rw [entry, List.length_cons, Nat.add_sub_cancel_left]
    obtain ⟨c'', hperform, unread⟩ := perform_shift shows' q
    exact ⟨c'', hperform, unread.ready more⟩
  | reduce entry mem size built leads =>
    rw [entry, Nat.sub_self]
    exact perform_reduce shows' mem size built leads

theorem run_succ {c c' : Snapshot} (h : parser.step c = .next c') (fuel : Nat) :
    parser.run (fuel + 1) c = parser.run fuel c' := by
  rw [LR.Machine.run, h]

def Steps (n : Nat) (c c' : Snapshot) : Prop :=
  ∀ fuel, parser.run (fuel + n) c = parser.run fuel c'

private theorem Steps.one {c c' : Snapshot} (h : parser.step c = .next c') : Steps 1 c c' :=
  run_succ h

theorem Steps.trans {m n : Nat} {a b c : Snapshot} (h : Steps m a b) (h' : Steps n b c) :
    Steps (n + m) a c := by
  intro fuel
  rw [← Nat.add_assoc, h, h']

theorem Ready.turns {c : Snapshot} {s s' : Stage} {k : Tally} (h : Ready c s k e)
    (turns : Turns s s') (more : s'.ahead ≠ [] ∨ e = none) {read : List Token} (sound : s.Sound read) :
    ∃ c' n, Steps n c c' ∧ n + s'.measure ≤ s.measure ∧
      Ready c' s' (k.shift (s.ahead.length - s'.ahead.length)) e := by
  induction turns using Relation.ReflTransGen.head_induction_on generalizing c k read with
  | refl => exact ⟨c, 0, fun _ => rfl, by omega, by rwa [Nat.sub_self]⟩
  | head turn turns ih =>
    obtain ⟨us, hus, hsound⟩ := turn.sound sound
    obtain ⟨vs, hvs, -⟩ := Turns.sound turns hsound
    obtain ⟨c₁, hstep, hready⟩ := h.turn turn (more.imp_left fun hne hnil => by simp_all)
    obtain ⟨c₂, n, hsteps, hmeasure, hready'⟩ := ih hready hsound
    have hlength := congrArg List.length hus
    have hlength' := congrArg List.length hvs
    have hless := turn.measure_lt sound
    rw [List.length_append] at hlength hlength'
    refine ⟨c₂, n + 1, (Steps.one hstep).trans hsteps, by omega, ?_⟩
    rw [Tally.shift_shift] at hready'
    convert hready' using 2
    omega

end Turns

section Errors

def offender : List Token → Option (LR.Token Symbol Phrase)
  | [] => none
  | t :: _ => some t.feed.token

/-- A configuration after an error was counted and, if that is due, reported. -/
def Tally.note (k : Tally) (c : Snapshot) : Snapshot :=
  { c with errorCount := k.count, recovered := k.recovered, reports := k.reports }

private theorem perform_none_eq {c : Snapshot} {e : LR.Entry Symbol Phrase}
    (h : c.lookahead = some e) :
    parser.perform none c = parser.recover c e := by
  simp only [LR.Machine.perform, h, LR.Machine.tell, machine, Bool.false_eq_true, if_false]

private theorem perform_none {c : Snapshot} {s : Stage} {k : Tally} (h : Shows c s k e) :
    parser.perform none c =
      parser.unwind ((k.err (offender s.ahead)).note c) (lookEntry s.ahead) := by
  have htoken : (if (lookEntry s.ahead).symbol = Symbol.endMark then none
      else (lookEntry s.ahead).token?) = offender s.ahead := by
    cases s.ahead <;> rfl
  have hreport : ∀ d : Snapshot, parser.report .report d (offender s.ahead) =
      (.ok none, { d with reports := offender s.ahead :: d.reports }) := by
    intro d
    cases offender s.ahead <;> simp [LR.Machine.report, machine]
  have htally := h.tally
  subst htally
  rw [perform_none_eq h.lookahead, LR.Machine.recover]
  by_cases hdue : c.errorCount = 0 ∨ c.recovered = true
  · have hend : parser.automaton.endMark = Symbol.endMark := rfl
    have hrecovery : parser.recovery = some (.ok .report) := rfl
    simp only [hdue, if_true, hend, htoken, hrecovery, hreport, Bool.false_eq_true, if_false,
      Tally.err, Tally.note]
    rfl
  · have hsilent : c.recovered = false := by simpa using fun hr => hdue (.inr hr)
    simp only [hdue, if_false, Tally.err, Tally.note, ← hsilent]
    rfl

theorem action_error (s : Nat) : automaton.action s .error = none := by
  rw [automaton_action]
  cases rowAt s <;> rfl

/-- The configuration is clearing the chain, after an error that it has counted. -/
structure Unwinding (c : Snapshot) (ch : Chain) (rest : List Token)
    (reports : List (Option (LR.Token Symbol Phrase))) (e : Option Text.IntegerFault) : Prop where
  state : c.state = ch.top
  states : c.states = ch.map Link.state ++ [0]
  entries : c.entries.map (fun e => (e.symbol, e.content)) =
    ch.map (fun l => (l.symbol, .value l.phrase)) ++ [(.endMark, .absent)]
  lookahead : ∃ e, c.lookahead = some e ∧ e.symbol = .error
  input : c.input = rest.map Token.feed
  ending : c.ending = e
  tally : (⟨c.errorCount, c.recovered, c.reports⟩ : Tally) = ⟨3, false, reports⟩

private theorem Unwinding.step {c : Snapshot} {ch : Chain} {rest : List Token}
    {reports : List (Option (LR.Token Symbol Phrase))} (h : Unwinding c ch rest reports e) :
    ∃ x, x.symbol = .error ∧ parser.step c = parser.unwind c x := by
  obtain ⟨x, hx, herror⟩ := h.lookahead
  obtain ⟨hcount, hsilent, -⟩ := Tally.mk.inj h.tally
  refine ⟨x, herror, ?_⟩
  have fetched : parser.fetch c = .ok c := by simp [LR.Machine.fetch, hx]
  rw [step_of_fetch fetched, hx, Option.bind_some, herror, action_error, perform_none_eq hx,
    LR.Machine.recover, if_neg (by simp [hcount, hsilent]), LR.recoveryDistance, ← hcount]

theorem Unwinding.bottom {c : Snapshot} {rest : List Token}
    {reports : List (Option (LR.Token Symbol Phrase))} (h : Unwinding c [] rest reports e) :
    ∃ c', parser.step c = .next c' ∧ Unread c' ⟨[], rest⟩ ⟨3, false, reports⟩ e := by
  obtain ⟨x, herror, hstep⟩ := h.step
  have hunwind : parser.unwind c x =
      .next { c with lookahead := none, state := 0, pending := [] } := by
    simp [LR.Machine.unwind, h.states, herror, machine, automaton]
  exact ⟨_, hstep.trans hunwind, ⟨rfl, h.states, h.entries, rfl, h.ending, h.tally⟩, rfl, h.input⟩

theorem Unwinding.pop {c : Snapshot} {l : Link} {ch : Chain} {rest : List Token}
    {reports : List (Option (LR.Token Symbol Phrase))} (h : Unwinding c (l :: ch) rest reports e) :
    ∃ c', parser.step c = .next c' ∧ Unwinding c' ch rest reports e ∧
      c'.lookahead = c.lookahead ∧ c'.pending = c.pending := by
  obtain ⟨x, herror, hstep⟩ := h.step
  obtain ⟨top, es, hes, -, hrest⟩ := List.map_eq_cons_iff.1 h.entries
  obtain ⟨states, hstates⟩ := Chain.states_eq_cons ch
  let below : Snapshot := { c with
    state := Chain.top ch, states := ch.map Link.state ++ [0], entries := es }
  have hunwind : parser.unwind c x = .next below := by
    simp [LR.Machine.unwind, h.states, herror, hes, machine, automaton, hstates, below]
  exact ⟨below, hstep.trans hunwind,
    ⟨rfl, rfl, hrest, h.lookahead, h.input, h.ending, h.tally⟩, rfl, rfl⟩

private theorem Unwinding.steps {c : Snapshot} {ch : Chain} {rest : List Token}
    {reports : List (Option (LR.Token Symbol Phrase))} (h : Unwinding c ch rest reports e) :
    ∃ c', Steps (ch.length + 1) c c' ∧ Unread c' ⟨[], rest⟩ ⟨3, false, reports⟩ e := by
  induction ch generalizing c with
  | nil =>
    obtain ⟨c', hstep, unread⟩ := h.bottom
    exact ⟨c', Steps.one hstep, unread⟩
  | cons l ch ih =>
    obtain ⟨below, hstep, unwinding, -⟩ := h.pop
    obtain ⟨c', hsteps, unread⟩ := ih unwinding
    exact ⟨c', (Steps.one hstep).trans hsteps, unread⟩

def errorEntry (t : LR.Token Symbol Phrase) : LR.Entry Symbol Phrase where
  symbol := .error
  content := .offender t
  line := t.line
  pos := t.pos
  endLine := t.line
  endPos := t.pos

private theorem symbol_ne_error {p s : Nat} {X : Symbol} (h : follow p X = some s) :
    X ≠ .error := by
  rintro rfl
  obtain ⟨row, -, hnext⟩ := rowAt_of_follow h
  cases hnext

theorem Ready.drop {c : Snapshot} {t : Token} {rest : List Token} {k : Tally}
    (h : Ready c ⟨[], t :: rest⟩ k e) (stuck : Stage.action ⟨[], t :: rest⟩ = none) :
    ∃ c', parser.step c = .next c' ∧ Unread c' ⟨[], rest⟩ (k.err (some t.feed.token)) e := by
  obtain ⟨c₁, shows₁, hstep⟩ := h.step
  rw [stuck, perform_none shows₁] at hstep
  have hsymbol : (lookEntry (t :: rest)).symbol = .terminal t.kind := rfl
  have hunwind : parser.unwind ((k.err (some t.feed.token)).note c₁) (lookEntry (t :: rest)) =
      .next { (k.err (some t.feed.token)).note c₁ with
        lookahead := none, state := 0, pending := [] } := by
    simp [LR.Machine.unwind, Tally.note, shows₁.states, hsymbol, machine, automaton]
  exact ⟨_, hstep.trans hunwind, ⟨rfl, shows₁.states, shows₁.entries, rfl, shows₁.ending, rfl⟩, rfl,
    shows₁.input⟩

/-- At a token for which the table has no entry the parse begins to clear its chain, and the token
waits. -/
theorem Ready.clear {c : Snapshot} {l : Link} {ch : Chain} {t : Token} {rest : List Token} {k : Tally}
    (h : Ready c ⟨l :: ch, t :: rest⟩ k e) (linked : Chain.Linked (l :: ch))
    (stuck : Stage.action ⟨l :: ch, t :: rest⟩ = none) :
    ∃ c', parser.step c = .next c' ∧
      Unwinding c' (l :: ch) rest (k.err (some t.feed.token)).reports e ∧
      c'.lookahead = some (errorEntry t.feed.token) ∧
      c'.pending = [some (lookEntry (t :: rest))] := by
  obtain ⟨c₁, shows₁, hstep⟩ := h.step
  rw [stuck, perform_none shows₁] at hstep
  obtain ⟨top, es, hes, htop, -⟩ := List.map_eq_cons_iff.1 shows₁.entries
  have herror : top.symbol ≠ .error := by
    have hl : top.symbol = l.symbol := congrArg Prod.fst htop
    rw [hl]
    exact symbol_ne_error linked.1
  let c₂ : Snapshot := { (k.err (some t.feed.token)).note c₁ with
    lookahead := some (errorEntry t.feed.token)
    pending := some (lookEntry (t :: rest)) :: c₁.pending }
  have hunwind : parser.unwind ((k.err (some t.feed.token)).note c₁) (lookEntry (t :: rest)) =
      .next c₂ := by
    simp [LR.Machine.unwind, Tally.note, shows₁.states, hes, herror, machine, automaton, c₂,
      lookEntry, LR.Entry.ofToken, LR.Entry.token?, errorEntry, Token.feed]
  refine ⟨c₂, hstep.trans hunwind, ⟨shows₁.state, shows₁.states, shows₁.entries, ⟨_, rfl, rfl⟩,
    shows₁.input, shows₁.ending, rfl⟩, rfl, ?_⟩
  rw [← shows₁.pending]

/-- At a token for which the table has no entry the parse starts again after the token. -/
theorem Ready.restart {c : Snapshot} {ch : Chain} {t : Token} {rest : List Token} {k : Tally}
    (h : Ready c ⟨ch, t :: rest⟩ k e) (linked : ch.Linked)
    (stuck : Stage.action ⟨ch, t :: rest⟩ = none) :
    ∃ c' n, Steps n c c' ∧ n ≤ ch.length + 2 ∧
      Unread c' ⟨[], rest⟩ (k.err (some t.feed.token)) e := by
  cases ch with
  | nil =>
    obtain ⟨c', hstep, unread⟩ := h.drop stuck
    exact ⟨c', 1, Steps.one hstep, by omega, unread⟩
  | cons l ch =>
    obtain ⟨c₂, hstep, unwinding, -⟩ := h.clear linked stuck
    obtain ⟨c', hsteps, unread⟩ := unwinding.steps
    exact ⟨c', _, (Steps.one hstep).trans hsteps, by omega, unread⟩

/-- At the end of the input without an entry the parse is over, without a result. -/
theorem Ready.fail {c : Snapshot} {ch : Chain} {k : Tally} (h : Ready c ⟨ch, []⟩ k e)
    (stuck : Stage.action ⟨ch, []⟩ = none) :
    ∃ c', parser.step c = .done (.value .nothing) c' ∧ c'.reports = (k.err none).reports ∧
      c'.states = ch.map Link.state ++ [0] := by
  obtain ⟨c₁, shows₁, hstep⟩ := h.step
  rw [stuck, perform_none shows₁] at hstep
  refine ⟨(k.err none).note c₁, ?_, rfl, shows₁.states⟩
  rw [hstep, LR.Machine.unwind]
  simp [lookEntry, LR.Automaton.bottom, machine, offender]

theorem Ready.accept {c : Snapshot} {s : Stage} {p : Phrase} {k : Tally} (h : Ready c s k e)
    (finished : s.Finished p) :
    ∃ c', parser.step c = .done (.value p) c' ∧ c'.reports = k.reports ∧
      c'.states = s.chain.map Link.state ++ [0] := by
  obtain ⟨c₁, shows₁, hstep⟩ := h.step
  rw [Stage.Finished] at finished
  subst finished
  have haction : Stage.action ⟨[⟨1, .nonterminal .program, p⟩], []⟩ = some .accept := action_second
  obtain ⟨top, es, hes, htop, -⟩ := List.map_eq_cons_iff.1 shows₁.entries
  have hcontent : top.content = .value p := congrArg Prod.snd htop
  refine ⟨c₁, ?_, congrArg Tally.reports shows₁.tally, shows₁.states⟩
  rw [hstep, haction]
  simp [LR.Machine.perform, LR.Machine.accept, LR.Machine.tell, machine, hes, hcontent]

end Errors

end

end CallByNeed.Language
