import CallByNeed.Language.Rule
import Mathlib.Computability.ContextFreeGrammar

set_option autoImplicit false
set_option relaxedAutoImplicit false

/-!
The rules of the language as a context-free grammar, its sentences, and the beginnings of sentences.
A derivation is also seen as a forest: which token kinds a list of symbols stands for.
-/

namespace CallByNeed

abbrev Letter (T N : Type) := Symbol T N

namespace Language

def productions : List Rule :=
  programRules ++ funcRules ++ statementRules ++ expressionRules

def Rule.production (r : Rule) : ContextFreeRule Terminal Nonterminal where
  input := r.head
  output := r.body.filterMap fun
    | .terminal t => some (.terminal t)
    | .nonterminal n => some (.nonterminal n)
    | _ => none

abbrev grammar : ContextFreeGrammar Terminal where
  NT := Nonterminal
  initial := .program
  rules := (productions.map Rule.production).toFinset

/-- The token kinds are those of a program. -/
def Sentence (w : List Terminal) : Prop :=
  w ∈ grammar.language

/-- The token kinds are the beginning of a program's. -/
def Viable (w : List Terminal) : Prop :=
  ∃ v, Sentence (w ++ v)

theorem Viable.of_append {w v : List Terminal} (h : Viable (w ++ v)) : Viable w := by
  obtain ⟨x, hx⟩ := h
  exact ⟨v ++ x, by rwa [← List.append_assoc]⟩

theorem Sentence.viable {w : List Terminal} (h : Sentence w) : Viable w :=
  ⟨[], by rwa [List.append_nil]⟩

/-- The symbols stand for the token kinds: each terminal for itself, each nonterminal for what the
symbols of one of its rules stand for. -/
inductive Spans : List Symbol → List Terminal → Prop
  | nil : Spans [] []
  | terminal (t : Terminal) {ss : List Symbol} {w : List Terminal} (rest : Spans ss w) :
    Spans (.terminal t :: ss) (t :: w)
  | rule {r : Rule} (mem : r ∈ productions) {ss : List Symbol} {u w : List Terminal}
    (body : Spans r.body u) (rest : Spans ss w) : Spans (.nonterminal r.head :: ss) (u ++ w)

theorem Spans.append {ss ss' : List Symbol} {u w : List Terminal} (h : Spans ss u)
    (h' : Spans ss' w) : Spans (ss ++ ss') (u ++ w) := by
  induction h with
  | nil => exact h'
  | terminal t _ ih => exact .terminal t ih
  | rule mem body _ _ ih =>
    rw [List.append_assoc]
    exact .rule mem body ih

private theorem Spans.split {ss ss' : List Symbol} {w : List Terminal} (h : Spans (ss ++ ss') w) :
    ∃ u v, w = u ++ v ∧ Spans ss u ∧ Spans ss' v := by
  induction ss generalizing w with
  | nil => exact ⟨[], w, rfl, .nil, h⟩
  | cons X ss ih =>
    cases h with
    | terminal t rest =>
      obtain ⟨u, v, rfl, hu, hv⟩ := ih rest
      exact ⟨t :: u, v, rfl, .terminal t hu, hv⟩
    | rule mem body rest =>
      rename_i x _ _
      obtain ⟨u, v, rfl, hu, hv⟩ := ih rest
      exact ⟨_ ++ u, v, by rw [List.append_assoc], .rule mem body hu, hv⟩

theorem Spans.reduce {r : Rule} (mem : r ∈ productions) {ss : List Symbol} {w : List Terminal}
    (h : Spans (ss ++ r.body) w) : Spans (ss ++ [.nonterminal r.head]) w := by
  obtain ⟨u, v, rfl, hu, hv⟩ := h.split
  have hr := Spans.rule mem hv .nil
  rw [List.append_nil] at hr
  exact hu.append hr

section Derivation

def Symbol.ofLetter : Letter Terminal Nonterminal → Symbol
  | .terminal t => .terminal t
  | .nonterminal n => .nonterminal n

private theorem output_production :
    ∀ r ∈ productions, r.production.output.map Symbol.ofLetter = r.body := by
  decide

private theorem Rule.mem_grammar {r : Rule} (mem : r ∈ productions) :
    r.production ∈ grammar.rules :=
  List.mem_toFinset.2 (List.mem_map_of_mem mem)

private theorem spans_terminals (w : List Terminal) :
    Spans ((w.map (.terminal ·)).map Symbol.ofLetter) w := by
  induction w with
  | nil => exact .nil
  | cons t w ih => exact .terminal t ih

private theorem spans_of_derives {ls : List (Letter Terminal Nonterminal)} {w : List Terminal}
    (h : grammar.Derives ls (w.map (.terminal ·))) : Spans (ls.map Symbol.ofLetter) w := by
  induction h using Relation.ReflTransGen.head_induction_on with
  | refl => exact spans_terminals w
  | head step _ ih =>
    obtain ⟨rule, mem, rewrite⟩ := step
    obtain ⟨p, q, rfl, rfl⟩ := rewrite.exists_parts
    obtain ⟨r, hr, rfl⟩ := List.mem_map.1 (List.mem_toFinset.1 mem)
    rw [List.map_append, List.map_append, output_production r hr] at ih
    obtain ⟨u, v, rfl, hu, hv⟩ := ih.split
    rw [List.map_append, List.map_append]
    exact (Spans.reduce hr hu).append hv

private theorem derives_of_spans {ss : List Symbol} {w : List Terminal} (h : Spans ss w) :
    ∀ ls : List (Letter Terminal Nonterminal), ls.map Symbol.ofLetter = ss →
      grammar.Derives ls (w.map (.terminal ·)) := by
  induction h with
  | nil =>
    intro ls hls
    obtain rfl := List.map_eq_nil_iff.1 hls
    exact .refl _
  | terminal t _ ih =>
    intro ls hls
    obtain ⟨l, ls, rfl, hl, hrest⟩ := List.map_eq_cons_iff.1 hls
    cases l with
    | terminal t' =>
      obtain rfl := Symbol.terminal.inj hl
      exact (ih ls hrest).append_left [.terminal t']
    | nonterminal n => cases hl
  | @rule r mem _ u w _ _ ihBody ihRest =>
    intro ls hls
    obtain ⟨l, ls, rfl, hl, hrest⟩ := List.map_eq_cons_iff.1 hls
    cases l with
    | terminal t => cases hl
    | nonterminal n =>
      obtain rfl := Symbol.nonterminal.inj hl
      have first : grammar.Produces [.nonterminal r.head] r.production.output :=
        ⟨r.production, Rule.mem_grammar mem, .input_output⟩
      have body := first.trans_derives (ihBody _ (output_production r mem))
      rw [List.map_append]
      exact (body.append_right ls).trans ((ihRest ls hrest).append_left _)

theorem sentence_iff_spans {w : List Terminal} :
    Sentence w ↔ Spans [.nonterminal .program] w :=
  ⟨spans_of_derives, fun h => derives_of_spans h [.nonterminal .program] rfl⟩

end Derivation

section Productive

def Symbol.depth : Symbol → Nat
  | .nonterminal .program => 5
  | .nonterminal .catchers | .nonterminal .funcs | .nonterminal .structs => 4
  | .nonterminal .catcher | .nonterminal .func | .nonterminal .struct => 3
  | .nonterminal .statements | .nonterminal .assignment | .nonterminal .arguments
  | .nonterminal .params | .nonterminal .fields => 2
  | .nonterminal _ => 1
  | _ => 0

def Symbol.Proper (X : Symbol) : Prop :=
  X ≠ .endMark ∧ X ≠ .error ∧ X ≠ .nonterminal .start

instance (X : Symbol) : Decidable X.Proper :=
  inferInstanceAs (Decidable (_ ∧ _))

theorem nonempty_body : ∀ r ∈ productions, r.body ≠ [] := by
  decide

theorem proper_body : ∀ r ∈ productions, ∀ X ∈ r.body, X.Proper := by
  decide

private theorem exists_shallow (n : Nonterminal) (proper : n ≠ .start) :
    ∃ r ∈ productions, r.head = n ∧ ∀ X ∈ r.body, X.depth < (Symbol.nonterminal n).depth := by
  cases n
  case start => exact absurd rfl proper
  all_goals decide

private theorem exists_spans_of_forall {ss : List Symbol} (h : ∀ X ∈ ss, ∃ w, Spans [X] w) :
    ∃ w, Spans ss w := by
  induction ss with
  | nil => exact ⟨[], .nil⟩
  | cons X ss ih =>
    obtain ⟨u, hu⟩ := h X List.mem_cons_self
    obtain ⟨w, hw⟩ := ih fun Y hY => h Y (List.mem_cons_of_mem X hY)
    exact ⟨u ++ w, hu.append hw⟩

private theorem Symbol.Proper.exists_spans {X : Symbol} (proper : X.Proper) : ∃ w, Spans [X] w := by
  induction hd : X.depth using Nat.strong_induction_on generalizing X with
  | _ d ih =>
    subst hd
    cases X with
    | endMark => exact absurd rfl proper.1
    | error => exact absurd rfl proper.2.1
    | terminal t => exact ⟨[t], .terminal t .nil⟩
    | nonterminal n =>
      have start : n ≠ .start := fun h => proper.2.2 (congrArg Symbol.nonterminal h)
      obtain ⟨r, mem, rfl, shallow⟩ := exists_shallow n start
      obtain ⟨w, hw⟩ := exists_spans_of_forall fun Y hY =>
        ih Y.depth (shallow Y hY) (proper_body r mem Y hY) rfl
      exact ⟨w ++ [], .rule mem hw .nil⟩

theorem exists_spans {ss : List Symbol} (proper : ∀ X ∈ ss, X.Proper) : ∃ w, Spans ss w :=
  exists_spans_of_forall fun X hX => (proper X hX).exists_spans

end Productive

end Language

end CallByNeed
