import CallByNeed.LR.Machine
import Mathlib.Data.List.Basic

set_option autoImplicit false
set_option relaxedAutoImplicit false

/-!
What a shift-reduce parser accepts. A chart tells which rules a state may be in the middle of, and
the tables of a parser may follow it. The symbols on the stack of such a parser then yield what it
has read, and a parse that ends without a complaint has read what the start symbol yields.
-/

namespace CallByNeed.LR

variable {S V E : Type}

section Yield

/-- Some symbols become others when symbols are replaced by the bodies of their rules. -/
inductive Yields (rules : List (S × List S)) : List S → List S → Prop
  | nil : Yields rules [] []
  | keep (X : S) {ss w : List S} (rest : Yields rules ss w) : Yields rules (X :: ss) (X :: w)
  | rule {X : S} {body ss u w : List S} (mem : (X, body) ∈ rules) (inner : Yields rules body u)
      (rest : Yields rules ss w) : Yields rules (X :: ss) (u ++ w)

variable {rules : List (S × List S)} {ss ss' u w : List S}

private theorem Yields.append (h : Yields rules ss u) (h' : Yields rules ss' w) :
    Yields rules (ss ++ ss') (u ++ w) := by
  induction h with
  | nil => exact h'
  | keep X _ ih => exact .keep X ih
  | rule mem inner _ _ ih =>
    rw [List.append_assoc]
    exact .rule mem inner ih

private theorem Yields.split (h : Yields rules (ss ++ ss') w) :
    ∃ u v, w = u ++ v ∧ Yields rules ss u ∧ Yields rules ss' v := by
  induction ss generalizing w with
  | nil => exact ⟨[], w, rfl, .nil, h⟩
  | cons X ss ih =>
    cases h with
    | keep _ rest =>
      obtain ⟨u, v, rfl, hu, hv⟩ := ih rest
      exact ⟨X :: u, v, rfl, .keep X hu, hv⟩
    | rule mem inner rest =>
      obtain ⟨u, v, rfl, hu, hv⟩ := ih rest
      exact ⟨_ ++ u, v, (List.append_assoc _ _ _).symm, .rule mem inner hu, hv⟩

private theorem Yields.reduce {X : S} {body : List S} (mem : (X, body) ∈ rules)
    (h : Yields rules (ss ++ body) w) : Yields rules (ss ++ [X]) w := by
  obtain ⟨u, v, rfl, hu, hv⟩ := h.split
  have whole := Yields.rule mem hv .nil
  rw [List.append_nil] at whole
  exact hu.append whole

end Yield

section Chart

/-- Which states follow each other by which symbols, and which rules a state may have read how much
of. Rule zero is that of the start symbol. -/
structure Chart (S : Type) where
  rules : List (S × List S)
  edge : Nat → S → Nat → Prop
  /-- The state may have read a rule up to a place. -/
  holds : Nat → Nat → Nat → Prop
  back : ∀ {i j rule dot : Nat} {X : S}, edge i X j → holds j rule (dot + 1) →
    holds i rule dot ∧ ∀ head body, rules[rule]? = some (head, body) → body[dot]? = some X
  bottom : ∀ {rule dot : Nat}, holds 0 rule dot → dot = 0
  start : ∀ {i : Nat}, holds i 0 0 → i = 0
  later : ∀ {i j : Nat} {X : S}, edge i X j → j ≠ 0

/-- The state may have read the whole of a rule. -/
def Chart.Completes (c : Chart S) (state rule : Nat) : Prop :=
  ∃ head body, c.rules[rule]? = some (head, body) ∧ c.holds state rule body.length

/-- The tables do only what a chart allows. -/
structure Automaton.Follows (a : Automaton S) (c : Chart S) : Prop where
  shift : ∀ {i j : Nat} {X : S}, a.action i X = some (.shift j) → c.edge i X j ∧ X ≠ a.endMark
  goto : ∀ {i j : Nat} {X : S} {row : S → Option Nat}, a.goto i = some row → row X = some j →
    c.edge i X j
  reduce : ∀ {i rule : Nat} {X : S}, a.action i X = some (.reduce rule) →
    rule ≠ 0 ∧ c.Completes i rule
  defaulted : ∀ {i rule : Nat}, a.defaulted i = some rule → rule ≠ 0 ∧ c.Completes i rule
  accept : ∀ {i : Nat} {X : S}, a.action i X = some .accept → X = a.endMark ∧ c.Completes i 0
  rule : ∀ {number : Nat} {shape : RuleShape S}, a.rule number = some shape →
    ∃ body, c.rules[number]? = some (shape.head, body) ∧ body.length = shape.size

variable {c : Chart S} {states : List Nat} {symbols : List S}

/-- The states of a stack follow each other by the symbols, the last ones first. -/
inductive Chart.Linked (c : Chart S) : List Nat → List S → Prop
  | bottom : c.Linked [0] []
  | push {i j : Nat} {X : S} {states : List Nat} {symbols : List S} (edge : c.edge i X j)
      (rest : c.Linked (i :: states) symbols) : c.Linked (j :: i :: states) (X :: symbols)

private theorem Chart.Linked.back {i rule dot : Nat} {head : S} {body : List S}
    (linked : c.Linked (i :: states) symbols) (holds : c.holds i rule dot)
    (hrule : c.rules[rule]? = some (head, body)) :
    ∃ j below lower, (i :: states).drop dot = j :: below ∧ c.Linked (j :: below) lower ∧
      symbols.reverse = lower.reverse ++ body.take dot ∧ c.holds j rule 0 := by
  induction dot generalizing i states symbols with
  | zero => exact ⟨i, states, symbols, rfl, linked, by simp, holds⟩
  | succ dot ih =>
    cases linked with
    | bottom => exact absurd (c.bottom holds) (Nat.succ_ne_zero dot)
    | push edge rest =>
      obtain ⟨before, next⟩ := c.back edge holds
      obtain ⟨j, below, lower, drop, linked, split, begins⟩ := ih rest before
      refine ⟨j, below, lower, drop, linked, ?_, begins⟩
      rw [List.reverse_cons, split, List.append_assoc, List.take_add_one, next head body hrule]
      rfl

private theorem Chart.Linked.eq_nil (linked : c.Linked (0 :: states) symbols) : symbols = [] := by
  cases linked with
  | bottom => rfl
  | push edge _ => exact absurd rfl (c.later edge)

end Chart

section Silence

variable {m : Machine S V E} {c : Configuration S V E}

/-- Nobody was told of an error. -/
def Configuration.Silent (c : Configuration S V E) : Prop :=
  c.reports = [] ∧ ∀ message ∈ c.messages, ∃ line, message = .log line

def Configuration.told (c : Configuration S V E) (log : List String) : Configuration S V E :=
  { c with messages := log.map .log ++ c.messages }

private theorem Configuration.Silent.of_told {log : List String} (h : (c.told log).Silent) :
    c.Silent :=
  ⟨h.1, fun message mem => h.2 message (List.mem_append_right _ mem)⟩

/-- What holds of a step that leads to a silent configuration: `P` of the configuration if the parse
goes on, and `Q` if it is over. -/
def Step.Keeps (P : Configuration S V E → Prop) (Q : Prop) : Step S V E → Prop
  | .next c => c.Silent → P c
  | .done _ c => c.Silent → Q
  | .failed _ _ => True

private theorem Step.Keeps.imp {P P' : Configuration S V E → Prop} {Q Q' : Prop} {s : Step S V E}
    (h : s.Keeps P Q) (next : ∀ c, P c → P' c) (done : Q → Q') : s.Keeps P' Q' := by
  cases s with
  | next c => exact fun silent => next c (h silent)
  | done content c => exact fun silent => done (h silent)
  | failed fault c => trivial

abbrev Step.Quiet (c : Configuration S V E) (s : Step S V E) : Prop :=
  s.Keeps (fun _ => c.Silent) c.Silent

private theorem keeps_tell {P : Configuration S V E → Prop} {Q : Prop}
    {line : Unit → Except (Fault E) String} {k : Configuration S V E → Step S V E}
    (h : ∀ log, (k (c.told log)).Keeps P Q) : (m.tell c line k).Keeps P Q := by
  unfold Machine.tell
  split
  · split
    · next text _ => exact h [text]
    · trivial
  · exact h []

private theorem quiet_tell {line : Unit → Except (Fault E) String}
    {k : Configuration S V E → Step S V E} (h : ∀ c, (k c).Quiet c) :
    (m.tell c line k).Quiet c :=
  keeps_tell fun log => (h (c.told log)).imp (fun _ silent => silent.of_told) (·.of_told)

private theorem quiet_reduceSlice {number : Nat} {rule : RuleShape S} {slice : Slice S V} :
    (m.reduceSlice c number rule slice).Quiet c := by
  unfold Machine.reduceSlice
  split
  · trivial
  · unfold Machine.refuse
    split
    · trivial
    · trivial
    · exact id
  · refine quiet_tell fun c => ?_
    split
    · trivial
    · exact id

private theorem quiet_reduceRule {number : Nat} {rule : RuleShape S} :
    (m.reduceRule c number rule).Quiet c := by
  unfold Machine.reduceRule
  refine quiet_tell fun c => ?_
  split
  · split
    · trivial
    · exact quiet_reduceSlice
  · split
    · trivial
    · split
      · trivial
      · exact quiet_reduceSlice

private theorem quiet_accept : (m.accept c).Quiet c := by
  unfold Machine.accept
  split
  · trivial
  · exact quiet_tell fun c => quiet_tell fun c => id

private theorem pull_cases {token : Option (Token S V)} {c' : Configuration S V E}
    (h : c.pull = .ok (token, c')) :
    (∃ feed rest, c.input = feed :: rest ∧ token = some feed.token ∧
      c' = { c with input := rest, sourceLine := feed.line, sourcePos := feed.pos }) ∨
    c.input = [] ∧ token = none ∧ c' = c := by
  unfold Configuration.pull at h
  split at h
  · next feed rest hinput =>
    cases h
    exact .inl ⟨feed, rest, hinput, rfl, rfl⟩
  · next hinput _ =>
    cases h
    exact .inr ⟨hinput, rfl, rfl⟩
  · cases h

private theorem reports_of_pull {token : Option (Token S V)} {c' : Configuration S V E}
    (h : c.pull = .ok (token, c')) : c'.reports = c.reports := by
  rcases pull_cases h with ⟨feed, rest, -, -, rfl⟩ | ⟨-, -, rfl⟩
  · rfl
  · rfl

private theorem silent_of_fetch {c' : Configuration S V E} (h : m.fetch c = .ok c')
    (silent : c'.Silent) : c.Silent := by
  unfold Machine.fetch at h
  split at h
  · cases h
    exact silent
  · cases h
    exact silent
  · split at h
    · cases h
    · next pulled =>
      cases h
      rcases pull_cases pulled with ⟨feed, rest, -, -, rfl⟩ | ⟨-, -, rfl⟩
      · exact silent
      · exact silent

variable [DecidableEq S]

private theorem quiet_unwind {lookahead : Entry S V} : (m.unwind c lookahead).Quiet c := by
  unfold Machine.unwind
  dsimp only
  repeat' split
  all_goals first | trivial | exact id

private theorem reports_of_sync {symbol : S} {input : List (Feed S V)}
    {token : Option (Token S V)} {c' : Configuration S V E}
    (h : c.sync symbol input = .ok (token, c')) : c'.reports = c.reports := by
  induction input generalizing c with
  | nil =>
    unfold Configuration.sync at h
    split at h
    · cases h
      rfl
    · cases h
  | cons feed input ih =>
    rw [Configuration.sync] at h
    split at h
    · cases h
      rfl
    · have synced := ih h
      exact synced

private theorem not_silent_of_report {recovery : Recovery S} {token next : Option (Token S V)}
    {c' : Configuration S V E} (h : m.report recovery c token = (.ok next, c')) : ¬ c'.Silent := by
  have reported : c'.reports = token :: c.reports := by
    unfold Machine.report at h
    dsimp only at h
    split at h
    · cases h
    split at h
    · cases h
      rfl
    split at h
    · cases h
      rfl
    · cases h
      rfl
    · cases h
      rfl
    · split at h
      · cases h
      · next pulled =>
        cases h
        exact reports_of_pull pulled
    · split at h
      · cases h
      · next synced =>
        cases h
        exact reports_of_sync synced
      · next synced =>
        cases h
        exact reports_of_sync synced
  intro silent
  rw [silent.1] at reported
  cases reported

private theorem keeps_recover {P : Configuration S V E → Prop} {Q : Prop} {lookahead : Entry S V}
    (due : c.errorCount = 0 ∨ c.recovered = true) : (m.recover c lookahead).Keeps P Q := by
  unfold Machine.recover
  rw [if_pos due]
  dsimp only
  split
  · trivial
  · split
    · trivial
    · next told =>
      have loud := not_silent_of_report told
      split
      · exact fun silent => absurd silent loud
      · exact quiet_unwind.imp (fun _ silent => absurd silent loud) fun silent => absurd silent loud
  · have loud (c : Configuration S V E) (text : String) :
        ¬ { c with messages := .notice text :: c.messages : Configuration S V E }.Silent := by
      intro silent
      obtain ⟨line, hline⟩ := silent.2 _ List.mem_cons_self
      cases hline
    split
    · exact fun silent => absurd silent (loud _ _)
    · exact quiet_unwind.imp (fun _ silent => absurd silent (loud _ _))
        fun silent => absurd silent (loud _ _)

private theorem quiet_recover {lookahead : Entry S V} : (m.recover c lookahead).Quiet c := by
  by_cases due : c.errorCount = 0 ∨ c.recovered = true
  · exact keeps_recover due
  · unfold Machine.recover
    rw [if_neg due]
    exact quiet_unwind

private theorem quiet_perform {action : Option Action} : (m.perform action c).Quiet c := by
  unfold Machine.perform
  refine quiet_tell fun c => ?_
  split
  · exact quiet_tell fun c => id
  · split
    · trivial
    · exact quiet_reduceRule
  · exact quiet_accept
  · exact quiet_tell fun c => quiet_recover
  · trivial

private theorem quiet_step : (m.step c).Quiet c := by
  unfold Machine.step
  refine quiet_tell fun c => quiet_tell fun c => ?_
  split
  · exact quiet_tell fun c => quiet_perform
  · split
    · trivial
    · next fetched =>
      exact quiet_perform.imp (fun _ silent => silent_of_fetch fetched silent)
        (silent_of_fetch fetched)

private theorem silent_of_run {fuel : Nat} {content : Content S V} {c' : Configuration S V E}
    (h : m.run fuel c = (.done content, c')) (silent : c'.Silent) : c.Silent := by
  induction fuel generalizing c with
  | zero => cases h
  | succ fuel ih =>
    have quiet : (m.step c).Quiet c := quiet_step
    rw [Machine.run] at h
    split at h
    · next c₁ hstep =>
      rw [hstep] at quiet
      exact quiet (ih h)
    · next content₁ c₁ hstep =>
      rw [hstep] at quiet
      cases h
      exact quiet silent
    · cases h

end Silence

section Reading

variable [DecidableEq S] {m : Machine S V E} {chart : Chart S} {word : List S}
  {c : Configuration S V E}

def Configuration.ahead (mark : S) (c : Configuration S V E) : List S :=
  (c.lookahead.toList.map (·.symbol)).filter (· ≠ mark) ++ c.input.map (·.token.symbol)

/-- The parse has gone well so far: the stack yields what was read of a word, and the rest of the
word is ahead. -/
structure Reads (a : Automaton S) (chart : Chart S) (word : List S) (c : Configuration S V E) :
    Prop where
  stack : ∃ below symbols read, c.states = c.state :: below ∧ chart.Linked c.states symbols ∧
    Yields chart.rules.tail symbols.reverse read ∧ word = read ++ c.ahead a.endMark
  calm : c.errorCount = 0
  pending : c.pending = []
  tokens : ∀ feed ∈ c.input, feed.token.symbol ≠ a.endMark
  ending : ∀ e, c.lookahead = some e → e.symbol = a.endMark → c.input = []

private theorem Reads.told (reads : Reads m.automaton chart word c) (log : List String) :
    Reads m.automaton chart word (c.told log) :=
  ⟨reads.stack, reads.calm, reads.pending, reads.tokens, reads.ending⟩

private theorem Reads.fetch {c' : Configuration S V E} (reads : Reads m.automaton chart word c)
    (h : m.fetch c = .ok c') : Reads m.automaton chart word c' ∧ c'.lookahead.isSome = true := by
  unfold Machine.fetch at h
  split at h
  · next hlookahead =>
    cases h
    exact ⟨reads, by rw [hlookahead]; rfl⟩
  · next hpending =>
    rw [reads.pending] at hpending
    cases hpending
  · next hlookahead _ =>
    split at h
    · cases h
    · next pulled =>
      cases h
      obtain ⟨below, symbols, read, top, linked, yields, parts⟩ := reads.stack
      rcases pull_cases pulled with ⟨feed, rest, hinput, rfl, rfl⟩ | ⟨hinput, rfl, rfl⟩
      · have token := reads.tokens feed (by rw [hinput]; exact List.mem_cons_self)
        refine ⟨⟨⟨below, symbols, read, top, linked, yields, ?_⟩, reads.calm, reads.pending,
          fun f mem => reads.tokens f (by rw [hinput]; exact List.mem_cons_of_mem feed mem),
          fun e he mark => ?_⟩, rfl⟩
        · rw [parts]
          simp [Configuration.ahead, hlookahead, hinput, Entry.ofToken, token]
        · cases he
          exact absurd mark token
      · refine ⟨⟨⟨below, symbols, read, top, linked, yields, ?_⟩, reads.calm, reads.pending,
          reads.tokens, fun _ _ _ => hinput⟩, rfl⟩
        rw [parts]
        simp [Configuration.ahead, hlookahead, hinput, Automaton.bottom]

private theorem Reads.shift (reads : Reads m.automaton chart word c) {e : Entry S V}
    (hlookahead : c.lookahead = some e) {state : Nat} (edge : chart.edge c.state e.symbol state)
    (token : e.symbol ≠ m.automaton.endMark) :
    Reads m.automaton chart word
      { c with
        state := state, states := state :: c.states, entries := e :: c.entries, lookahead := none
        errorCount := c.errorCount - 1 } := by
  obtain ⟨below, symbols, read, top, linked, yields, parts⟩ := reads.stack
  refine ⟨⟨c.states, e.symbol :: symbols, read ++ [e.symbol], rfl, ?_, ?_, ?_⟩, ?_, reads.pending,
    reads.tokens, fun _ he => (by cases he)⟩
  · rw [top] at linked ⊢
    exact .push edge linked
  · rw [List.reverse_cons]
    exact yields.append (.keep e.symbol .nil)
  · rw [parts]
    simp [Configuration.ahead, hlookahead, token]
  · exact (congrArg (· - 1) reads.calm)

variable (follows : m.automaton.Follows chart)

include follows

private theorem Reads.reduce (reads : Reads m.automaton chart word c) {number state : Nat}
    (proper : number ≠ 0) (completes : chart.Completes c.state number) {shape : RuleShape S}
    (hshape : m.automaton.rule number = some shape)
    (goto : m.gotoState (c.states.drop shape.size) shape.head = .ok state)
    (entries : List (Entry S V)) :
    Reads m.automaton chart word
      { c with
        state := state, states := state :: c.states.drop shape.size, entries := entries } := by
  obtain ⟨below, symbols, read, top, linked, yields, parts⟩ := reads.stack
  obtain ⟨body, hbody, size⟩ := follows.rule hshape
  obtain ⟨_, _, hrule, holds⟩ := completes
  obtain ⟨rfl, rfl⟩ := Prod.mk.inj (Option.some.inj (hbody.symm.trans hrule))
  rw [top] at linked
  obtain ⟨j, under, lower, drop, linked, split, -⟩ := linked.back holds hbody
  rw [← size] at goto ⊢
  rw [← top] at drop
  rw [drop] at goto ⊢
  have edge : chart.edge j shape.head state := by
    unfold Machine.gotoState at goto
    dsimp only at goto
    split at goto
    · cases goto
    · next row hrow =>
      split at goto
      · cases goto
      · next hstate =>
        cases goto
        exact follows.goto hrow hstate
  have mem : (shape.head, body) ∈ chart.rules.tail := by
    obtain ⟨n, rfl⟩ := Nat.exists_eq_succ_of_ne_zero proper
    rw [← List.getElem?_tail] at hbody
    exact List.mem_of_getElem? hbody
  refine ⟨⟨j :: under, shape.head :: lower, read, rfl, .push edge linked, ?_, parts⟩, reads.calm,
    reads.pending, reads.tokens, reads.ending⟩
  rw [List.take_length] at split
  rw [split] at yields
  rw [List.reverse_cons]
  exact yields.reduce mem

variable (willing : ∀ number slice, m.reduce number slice ≠ .refused)

def Chart.Accepts (chart : Chart S) (word : List S) : Prop :=
  ∃ head body, chart.rules[0]? = some (head, body) ∧ Yields chart.rules.tail body word

include willing

private theorem Reads.reduceSlice (reads : Reads m.automaton chart word c) {number : Nat}
    (proper : number ≠ 0) (completes : chart.Completes c.state number) {shape : RuleShape S}
    (hshape : m.automaton.rule number = some shape) (slice : Slice S V) :
    (m.reduceSlice c number shape slice).Keeps (Reads m.automaton chart word)
      (chart.Accepts word) := by
  unfold Machine.reduceSlice
  split
  · trivial
  · next refused => exact absurd refused (willing number slice)
  · refine keeps_tell fun log => ?_
    split
    · trivial
    · next goto =>
      exact fun _ => (reads.told log).reduce follows proper completes hshape goto _

private theorem Reads.reduceRule (reads : Reads m.automaton chart word c) {number : Nat}
    (proper : number ≠ 0) (completes : chart.Completes c.state number) {shape : RuleShape S}
    (hshape : m.automaton.rule number = some shape) :
    (m.reduceRule c number shape).Keeps (Reads m.automaton chart word) (chart.Accepts word) := by
  unfold Machine.reduceRule
  refine keeps_tell fun log => ?_
  split
  · split
    · trivial
    · exact (reads.told log).reduceSlice follows willing proper completes hshape _
  · split
    · trivial
    · split
      · trivial
      · exact (reads.told log).reduceSlice follows willing proper completes hshape _

omit follows willing in
private theorem Reads.accept (reads : Reads m.automaton chart word c)
    (completes : chart.Completes c.state 0) {e : Entry S V} (hlookahead : c.lookahead = some e)
    (final : e.symbol = m.automaton.endMark) : chart.Accepts word := by
  obtain ⟨below, symbols, read, top, linked, yields, parts⟩ := reads.stack
  obtain ⟨head, body, hbody, holds⟩ := completes
  rw [top] at linked
  obtain ⟨j, under, lower, -, linked, split, begins⟩ := linked.back holds hbody
  obtain rfl := chart.start begins
  rw [linked.eq_nil, List.take_length] at split
  rw [split] at yields
  refine ⟨head, body, hbody, ?_⟩
  have nothing : c.ahead m.automaton.endMark = [] := by
    simp [Configuration.ahead, hlookahead, final, reads.ending e hlookahead final]
  rw [parts, nothing, List.append_nil]
  exact yields

private theorem Reads.perform (reads : Reads m.automaton chart word c) {e : Entry S V}
    (hlookahead : c.lookahead = some e) :
    (m.perform (m.automaton.action c.state e.symbol) c).Keeps (Reads m.automaton chart word)
      (chart.Accepts word) := by
  have action (a : Option Action) (ha : m.automaton.action c.state e.symbol = a) :
      (m.perform a c).Keeps (Reads m.automaton chart word) (chart.Accepts word) := by
    unfold Machine.perform
    refine keeps_tell fun log => ?_
    have told := reads.told log
    have here : (c.told log).lookahead = some e := hlookahead
    split
    · next state e' he' =>
      cases here.symm.trans he'
      obtain ⟨edge, token⟩ := follows.shift ha
      exact keeps_tell fun more => fun _ => (told.told more).shift here edge token
    · next number _ =>
      obtain ⟨proper, completes⟩ := follows.reduce ha
      split
      · trivial
      · next hshape => exact told.reduceRule follows willing proper completes hshape
    · obtain ⟨final, completes⟩ := follows.accept ha
      have accepts := reads.accept completes hlookahead final
      unfold Machine.accept
      split
      · trivial
      · exact keeps_tell fun _ => keeps_tell fun _ => fun _ => accepts
    · exact keeps_tell fun more => keeps_recover (.inl reads.calm)
    · trivial
  exact action _ rfl

private theorem Reads.performDefault (reads : Reads m.automaton chart word c) {number : Nat}
    (hdefault : m.automaton.defaulted c.state = some number) :
    (m.perform (some (.reduce number)) c).Keeps (Reads m.automaton chart word)
      (chart.Accepts word) := by
  obtain ⟨proper, completes⟩ := follows.defaulted hdefault
  unfold Machine.perform
  refine keeps_tell fun log => ?_
  dsimp only
  split
  · trivial
  · next hshape => exact (reads.told log).reduceRule follows willing proper completes hshape

private theorem Reads.step (reads : Reads m.automaton chart word c) :
    (m.step c).Keeps (Reads m.automaton chart word) (chart.Accepts word) := by
  unfold Machine.step
  refine keeps_tell fun log => keeps_tell fun more => ?_
  have told := (reads.told log).told more
  split
  · next number hdefault =>
    exact keeps_tell fun last => (told.told last).performDefault follows willing hdefault
  · split
    · trivial
    · next fetched =>
      obtain ⟨reads', some⟩ := told.fetch fetched
      obtain ⟨e, he⟩ := Option.isSome_iff_exists.1 some
      rw [he]
      exact reads'.perform follows willing he

private theorem Reads.run (reads : Reads m.automaton chart word c) {fuel : Nat}
    {content : Content S V} {c' : Configuration S V E} (h : m.run fuel c = (.done content, c'))
    (silent : c'.Silent) : chart.Accepts word := by
  induction fuel generalizing c with
  | zero => cases h
  | succ fuel ih =>
    have step := reads.step follows willing
    rw [Machine.run] at h
    split at h
    · next hstep =>
      rw [hstep] at step
      exact ih (step (silent_of_run h silent)) h
    · next hstep =>
      rw [hstep] at step
      cases h
      exact step silent
    · cases h

/-- A parser whose tables follow a chart, and whose rules refuse nothing, has read a word of the
grammar when a parse ends without a complaint. -/
theorem Machine.accepts_of_run {input : List (Feed S V)} {ending : Option E} {recovered : Bool}
    (tokens : ∀ feed ∈ input, feed.token.symbol ≠ m.automaton.endMark) {fuel : Nat}
    {content : Content S V} {c : Configuration S V E}
    (h : m.run fuel (m.initial input ending recovered) = (.done content, c)) (silent : c.Silent) :
    chart.Accepts (input.map (·.token.symbol)) := by
  refine Reads.run follows willing ⟨⟨[], [], [], rfl, .bottom, .nil, rfl⟩, rfl, rfl, tokens, ?_⟩ h
    silent
  exact fun e he => (by cases he)

end Reading

end CallByNeed.LR
