import CallByNeed.Proofs.Parse.Recovery

set_option autoImplicit false
set_option relaxedAutoImplicit false

/-!
The course of a parse, step by step. Each step shifts a token, discards one, or keeps all that are
left, and what is left to do goes down with it. So a parse ends whatever its tokens are, and by then
it has used each of them once.
-/

namespace CallByNeed.LR

variable {S V E : Type}

section Courses

/-- The tokens that are neither shifted nor discarded: in the lookahead, among what is to be read
again, and in the input. -/
def Configuration.held (c : Configuration S V E) : List (Token S V) :=
  (c.lookahead :: c.pending).filterMap
    (fun e => e.bind fun e => if e.isToken then e.token? else none) ++
    c.input.map fun feed => feed.token

def Configuration.stack (c : Configuration S V E) : List (S × Content S V) :=
  c.entries.map fun e => (e.symbol, e.content)

inductive Fate (S V : Type) where
  | shifted (t : Token S V)
  | discarded (t : Token S V)

def Fate.token : Fate S V → Token S V
  | .shifted t => t
  | .discarded t => t

/-- From one configuration to the next the first of the tokens held is shifted or discarded, or all
are kept. -/
inductive Consumes (c c' : Configuration S V E) : List (Fate S V) → Prop where
  | shift {t : Token S V} (first : c.held = t :: c'.held)
      (pushed : c'.stack = (t.symbol, .value t.value) :: c.stack) : Consumes c c' [.shifted t]
  | discard {t : Token S V} (first : c.held = t :: c'.held) (same : c'.stack = c.stack) :
      Consumes c c' [.discarded t]
  | keep (same : c'.held = c.held) : Consumes c c' []

/-- A whole run: what becomes of the tokens, the configurations at which a step is taken, and the
content and the configuration with which it ends. -/
inductive Machine.Course [DecidableEq S] (m : Machine S V E) : Configuration S V E →
    List (Fate S V) → List (Configuration S V E) → Content S V → Configuration S V E → Prop where
  | stop {c last : Configuration S V E} {content : Content S V}
      (step : m.step c = .done content last) : m.Course c [] [c] content last
  | next {c c' last : Configuration S V E} {fates fates' : List (Fate S V)}
      {passed : List (Configuration S V E)} {content : Content S V} (step : m.step c = .next c')
      (consumes : Consumes c c' fates) (rest : m.Course c' fates' passed content last) :
      m.Course c (fates ++ fates') (c :: passed) content last

def Machine.chosen (m : Machine S V E) (c : Configuration S V E) : Option Action :=
  match m.automaton.defaulted c.state with
  | some number => some (.reduce number)
  | none =>
    match m.fetch c with
    | .error _ => none
    | .ok c' => c'.lookahead.bind fun e => m.automaton.action c'.state e.symbol

/-- There is a state on the stack, and if a rule is to be reduced, there is one below its symbols,
with a goto for its head. -/
structure Machine.Secure (m : Machine S V E) (c : Configuration S V E) : Prop where
  states : c.states ≠ []
  goto : ∀ number, m.chosen c = some (.reduce number) →
    ∃ rule g, m.automaton.rule number = some rule ∧ rule.size < c.states.length ∧
      m.gotoState (c.states.drop rule.size) rule.head = .ok g

private theorem Machine.Course.run_eq [DecidableEq S] {m : Machine S V E}
    {c last : Configuration S V E} {fates : List (Fate S V)} {passed : List (Configuration S V E)}
    {content : Content S V} (h : m.Course c fates passed content last) {fuel : Nat}
    (enough : passed.length ≤ fuel) :
    m.run fuel c = (.done content, last) := by
  induction h generalizing fuel with
  | stop step =>
    rw [List.length_singleton] at enough
    obtain ⟨fuel, rfl⟩ : ∃ f, fuel = f + 1 := ⟨fuel - 1, by omega⟩
    rw [Machine.run, step]
  | next step _ _ ih =>
    rw [List.length_cons] at enough
    obtain ⟨fuel, rfl⟩ : ∃ f, fuel = f + 1 := ⟨fuel - 1, by omega⟩
    have hrest := ih (Nat.le_of_succ_le_succ enough)
    rw [Machine.run, step]
    exact hrest

private theorem fetch_keeps {m : Machine S V E} {c c' : Configuration S V E}
    (h : m.fetch c = .ok c') :
    c'.states = c.states ∧ c'.stack = c.stack ∧ c'.held = c.held := by
  rw [Machine.fetch] at h
  split at h
  · cases h
    exact ⟨rfl, rfl, rfl⟩
  · rename_i first rest look pending
    cases h
    refine ⟨rfl, rfl, ?_⟩
    cases first with
    | none => simp [Configuration.held, look, pending, Automaton.bottom]
    | some x => simp [Configuration.held, look, pending]
  · rename_i look pending
    cases hinput : c.input with
    | nil =>
      cases hending : c.ending with
      | some fault => simp [Configuration.pull, hinput, hending] at h
      | none =>
        simp only [Configuration.pull, hinput, hending] at h
        cases h
        refine ⟨rfl, rfl, ?_⟩
        simp [Configuration.held, look, pending, hinput, Automaton.bottom]
    | cons feed rest =>
      simp only [Configuration.pull, hinput] at h
      cases h
      refine ⟨rfl, rfl, ?_⟩
      simp [Configuration.held, look, pending, hinput, Entry.ofToken, Entry.token?]

end Courses

end CallByNeed.LR

namespace CallByNeed.Language

open LR (Fate Consumes)

section Stages

variable {e : Option Text.IntegerFault}

/-- The configuration has the chain on its stacks and holds the tokens ahead. -/
structure Holds (c : Snapshot) (s : Stage) : Prop where
  states : c.states = s.chain.map Link.state ++ [0]
  stack : c.stack = s.chain.map (fun l => (l.symbol, .value l.phrase)) ++ [(.endMark, .absent)]
  held : c.held = s.ahead.map fun t => t.feed.token

private theorem Ready.holds {c : Snapshot} {s : Stage} {k : Tally} (h : Ready c s k e) :
    Holds c s := by
  obtain ⟨c', fetched, shows'⟩ := h
  obtain ⟨hstates, hstack, hheld⟩ := LR.fetch_keeps fetched
  have hread : c'.held = s.ahead.map fun t => t.feed.token := by
    rw [LR.Configuration.held, shows'.lookahead, shows'.pending, shows'.input]
    cases s.ahead <;> simp [lookEntry, LR.Automaton.bottom, LR.Entry.ofToken, LR.Entry.token?]
  exact ⟨hstates ▸ shows'.states, hstack ▸ shows'.entries, hheld ▸ hread⟩

private theorem Unwinding.holds {c : Snapshot} {ch : Chain} {t : Token} {rest : List Token}
    {reports : List (Option (LR.Token Symbol Phrase))} (h : Unwinding c ch rest reports e)
    (look : c.lookahead = some (errorEntry t.feed.token))
    (waits : c.pending = [some (lookEntry (t :: rest))]) : Holds c ⟨ch, t :: rest⟩ := by
  refine ⟨h.states, h.entries, ?_⟩
  simp [LR.Configuration.held, look, waits, h.input, lookEntry, errorEntry, LR.Entry.ofToken,
    LR.Entry.token?]

private theorem Holds.states_ne_nil {c : Snapshot} {s : Stage} (h : Holds c s) : c.states ≠ [] := by
  rw [h.states]
  simp

/-- A configuration on its way, at a stage and with a bound on the steps before the last one. It
takes the turns of a parse, or it clears its chain while the next token waits. -/
inductive Underway : Snapshot → Stage → Nat → Prop where
  | reading {c : Snapshot} {s : Stage} {k : Tally} {read : List Token} (ready : Ready c s k none)
      (sound : s.Sound read) : Underway c s s.measure
  | clearing {c : Snapshot} {ch : Chain} {t : Token} {rest : List Token}
      {reports : List (Option (LR.Token Symbol Phrase))} (unwinding : Unwinding c ch rest reports none)
      (look : c.lookahead = some (errorEntry t.feed.token))
      (waits : c.pending = [some (lookEntry (t :: rest))]) (fits : ∀ x ∈ rest, x.Fits) :
      Underway c ⟨ch, t :: rest⟩ (ch.length + 1 + 8 * rest.length)

private theorem Underway.holds {c : Snapshot} {s : Stage} {n : Nat} (h : Underway c s n) :
    Holds c s := by
  cases h with
  | reading ready _ => exact ready.holds
  | clearing unwinding look waits _ => exact unwinding.holds look waits

private theorem Underway.restarted {c : Snapshot} {rest : List Token} {k : Tally}
    (unread : Unread c ⟨[], rest⟩ k none) (fits : ∀ x ∈ rest, x.Fits) :
    Underway c ⟨[], rest⟩ (8 * rest.length) :=
  .reading (unread.ready (.inr rfl)) (.start fits)

private theorem chosen_of_fetch {c c' : Snapshot} (fetched : parser.fetch c = .ok c') :
    parser.chosen c = c'.lookahead.bind fun e => automaton.action c'.state e.symbol := by
  simp only [LR.Machine.chosen, machine, automaton] at fetched ⊢
  rw [fetched]

/-- Wherever a configuration is on its way, the state stack is not empty and a reduction finds its
goto. -/
theorem Underway.secure {c : Snapshot} {s : Stage} {n : Nat} (h : Underway c s n) :
    parser.Secure c := by
  have holds := h.holds
  refine ⟨holds.states_ne_nil, fun number hchosen => ?_⟩
  cases h with
  | reading ready sound =>
    obtain ⟨c', fetched, shows'⟩ := ready
    have entry : s.action = some (.reduce number) := by
      rw [chosen_of_fetch fetched, shows'.lookahead, shows'.state, Option.bind_some,
        symbol_lookEntry] at hchosen
      exact hchosen
    obtain ⟨upper, lower, r, g, hchain, mem, size, leads⟩ := sound.reduces entry
    have hrule : automaton.rule number = some r.shape := by
      simp [automaton, rules_of_numbered mem]
    have hstates : c.states = upper.map Link.state ++ (lower.map Link.state ++ [0]) := by
      rw [holds.states, hchain, List.map_append, List.append_assoc]
    have hsize : r.shape.size = (upper.map Link.state).length := by
      rw [List.length_map, size]
      rfl
    refine ⟨r.shape, g, hrule, ?_, ?_⟩
    · rw [hstates, hsize, List.length_append]
      simp
    · rw [hstates, hsize, List.drop_left]
      exact gotoState_of_follow leads
  | clearing unwinding look waits fits =>
    have fetched : parser.fetch c = .ok c := by simp [LR.Machine.fetch, look]
    rw [chosen_of_fetch fetched, look, Option.bind_some] at hchosen
    cases hchosen.symm.trans (action_error c.state)

end Stages

section Steps

private theorem Turn.consumes {c c' : Snapshot} {s s' : Stage} (turn : Turn s s') (h : Holds c s)
    (h' : Holds c' s') : ∃ fates, Consumes c c' fates := by
  cases turn with
  | @shift ch t ts q entry =>
    refine ⟨_, .shift (t := t.feed.token) ?_ ?_⟩
    · rw [h.held, h'.held, List.map_cons]
    · rw [h'.stack, h.stack]
      rfl
  | reduce entry mem size built leads =>
    refine ⟨_, .keep ?_⟩
    rw [h.held, h'.held]

private theorem consumes_discard {c c' : Snapshot} {t : Token} {rest : List Token}
    (h : Holds c ⟨[], t :: rest⟩) (h' : Holds c' ⟨[], rest⟩) :
    Consumes c c' [.discarded t.feed.token] := by
  refine .discard ?_ ?_
  · rw [h.held, h'.held, List.map_cons]
  · rw [h'.stack, h.stack]

/-- A step of a configuration on its way ends the parse when no token is left, or consumes what it
must and has less to do after it. -/
theorem Underway.step {c : Snapshot} {s : Stage} {n : Nat} (h : Underway c s n) :
    (∃ content last, parser.step c = .done content last ∧ last.states ≠ [] ∧ s.ahead = []) ∨
    ∃ c' s' m fates, parser.step c = .next c' ∧ Consumes c c' fates ∧ Underway c' s' m ∧ m < n := by
  have holds := h.holds
  cases h with
  | reading ready sound =>
    rcases sound.progress with ⟨s', turn⟩ | stuck | ⟨p, finished⟩
    · right
      obtain ⟨c', hstep, ready'⟩ := ready.turn turn (.inr rfl)
      obtain ⟨us, -, sound'⟩ := turn.sound sound
      obtain ⟨fates, consumes⟩ := turn.consumes holds ready'.holds
      exact ⟨c', s', s'.measure, fates, hstep, consumes, .reading ready' sound',
        turn.measure_lt sound⟩
    · obtain ⟨ch, ahead⟩ := s
      cases ahead with
      | nil =>
        left
        obtain ⟨last, hstep, -, hstates⟩ := ready.fail stuck
        exact ⟨_, last, hstep, by simp [hstates], rfl⟩
      | cons t rest =>
        right
        have fits : ∀ x ∈ rest, x.Fits := fun x hx => sound.fits x (List.mem_cons_of_mem t hx)
        have hmeasure : Stage.measure ⟨ch, t :: rest⟩ =
            8 * (rest.length + 1) + weight (Chain.symbols ch) := rfl
        cases ch with
        | nil =>
          obtain ⟨c', hstep, unread⟩ := ready.drop stuck
          have under := Underway.restarted unread fits
          exact ⟨c', _, _, _, hstep, consumes_discard holds under.holds, under, by omega⟩
        | cons l ch =>
          obtain ⟨c', hstep, unwinding, look, waits⟩ := ready.clear sound.linked stuck
          have under := Underway.clearing unwinding look waits fits
          have hchain : (l :: ch).length ≤ weight (Chain.symbols (l :: ch)) := by
            have hle := length_le_weight (Chain.symbols (l :: ch))
            rwa [Chain.symbols, List.length_map, List.length_reverse] at hle
          refine ⟨c', _, _, _, hstep, .keep ?_, under, by omega⟩
          rw [under.holds.held, holds.held]
    · left
      obtain ⟨last, hstep, -, hstates⟩ := ready.accept finished
      exact ⟨_, last, hstep, by simp [hstates], by rw [finished]⟩
  | @clearing ch t rest _ unwinding look waits fits =>
    right
    cases ch with
    | nil =>
      obtain ⟨c', hstep, unread⟩ := unwinding.bottom
      have under := Underway.restarted unread fits
      exact ⟨c', _, _, _, hstep, consumes_discard holds under.holds, under, by simp⟩
    | cons l ch =>
      obtain ⟨c', hstep, unwinding', look', waits'⟩ := unwinding.pop
      have under := Underway.clearing unwinding' (look'.trans look) (waits'.trans waits) fits
      refine ⟨c', _, _, _, hstep, .keep ?_, under, by simp⟩
      rw [under.holds.held, holds.held]

private theorem consumes_held {c c' : Snapshot} {fates : List (Fate Symbol Phrase)}
    (h : Consumes c c' fates) : c.held = fates.map Fate.token ++ c'.held := by
  cases h with
  | shift first _ => exact first
  | discard first _ => exact first
  | keep same => exact same.symm

/-- A configuration on its way comes to an end in as many steps as it has to do, and one more, and
consumes all tokens that it holds. -/
theorem Underway.course {c : Snapshot} {s : Stage} {n : Nat} (h : Underway c s n) :
    ∃ fates passed content last, parser.Course c fates passed content last ∧
      passed.length ≤ n + 1 ∧ fates.map Fate.token = c.held ∧
      (∀ d ∈ passed, parser.Secure d) ∧ last.states ≠ [] := by
  induction n using Nat.strong_induction_on generalizing c s with
  | _ n ih =>
    have secure := h.secure
    have holds := h.holds
    rcases h.step with ⟨content, last, hstep, standing, ended⟩ |
      ⟨c', s', m, fates, hstep, consumes, under, less⟩
    · refine ⟨[], [c], content, last, .stop hstep, by simp, ?_, by simpa using secure, standing⟩
      rw [holds.held, ended]
      rfl
    · obtain ⟨fates', passed, content, last, course, hlength, htokens, hsecure, standing⟩ :=
        ih m less under
      refine ⟨fates ++ fates', c :: passed, content, last, .next hstep consumes course, ?_, ?_, ?_,
        standing⟩
      · rw [List.length_cons]
        omega
      · rw [List.map_append, htokens, consumes_held consumes]
      · exact List.forall_mem_cons.2 ⟨secure, hsecure⟩

/-- Whatever its tokens are, a parse ends after at most eight steps for each of them and one more.
Each token is shifted or discarded once, in order. At every step there is a state on the stack, and
a reduction finds its goto. -/
theorem parse_consumes_each_token_once {ts : List Token} (fits : ∀ t ∈ ts, t.Fits) (line pos : Nat)
    (recovered : Bool) :
    ∃ fates passed content last,
      parser.Course (parser.initial (ts.map Token.feed) none recovered) fates passed content last ∧
      runScan false false ⟨ts, line, pos, none⟩ recovered = (.done content, last) ∧
      passed.length ≤ 8 * ts.length + 1 ∧
      fates.map Fate.token = ts.map (fun t => t.feed.token) ∧
      (∀ c ∈ passed, parser.Secure c) ∧ last.states ≠ [] := by
  have under := Underway.restarted (unread_initial ts none recovered) fits
  obtain ⟨fates, passed, content, last, course, hlength, htokens, hsecure, standing⟩ := under.course
  have enough : passed.length ≤ parseFuel ts.length := by
    rw [parseFuel]
    omega
  exact ⟨fates, passed, content, last, course, course.run_eq enough, hlength,
    htokens.trans under.holds.held, hsecure, standing⟩

theorem parse_consumes_each_token_once_broken :
    ∃ fates passed content last,
      parser.Course (parser.initial [Token.feed ⟨.kFunc, .text "func", 1, 0⟩,
        Token.feed ⟨.rbrace, .text "\x7d", 1, 5⟩, Token.feed ⟨.name, .text "f", 2, 7⟩] none true)
        fates passed content last ∧
      passed.length ≤ 25 ∧
      fates.map (fun f => f.token.symbol) =
        [.terminal .kFunc, .terminal .rbrace, .terminal .name] ∧
      (∀ c ∈ passed, parser.Secure c) ∧ last.states ≠ [] := by
  let ts : List Token :=
    [⟨.kFunc, .text "func", 1, 0⟩, ⟨.rbrace, .text "\x7d", 1, 5⟩, ⟨.name, .text "f", 2, 7⟩]
  have fits : ∀ t ∈ ts, t.Fits := by
    have hfunc : Token.Fits ⟨.kFunc, .text "func", 1, 0⟩ := ⟨_, rfl⟩
    have hbrace : Token.Fits ⟨.rbrace, .text "\x7d", 1, 5⟩ := ⟨_, rfl⟩
    have hname : Token.Fits ⟨.name, .text "f", 2, 7⟩ := ⟨_, rfl⟩
    simpa [ts] using ⟨hfunc, hbrace, hname⟩
  obtain ⟨fates, passed, content, last, course, -, hlength, htokens, hsecure, standing⟩ :=
    parse_consumes_each_token_once fits 2 9 true
  refine ⟨fates, passed, content, last, course, hlength, ?_, hsecure, standing⟩
  have hsymbols := congrArg (List.map LR.Token.symbol) htokens
  rwa [List.map_map] at hsymbols

end Steps

end CallByNeed.Language
