import CallByNeed.Proofs.Parse.Chain
import CallByNeed.Proofs.Parse.Precedence
import Mathlib.Logic.Relation

set_option autoImplicit false
set_option relaxedAutoImplicit false

/-!
The turns of a parse: it shifts the next token, or reduces what is on top of its stack. Turns keep
the stack in step with the grammar, so that a parse goes on until the table has no entry or it holds
a program. How far it goes depends on nothing but the tokens up to the one it looks at.
-/

namespace CallByNeed.Language

open LR (Action)

def look : List Token → Symbol
  | [] => .endMark
  | t :: _ => .terminal t.kind

structure Stage where
  chain : Chain
  ahead : List Token

def Stage.action (s : Stage) : Option Action :=
  automaton.action s.chain.top (look s.ahead)

inductive Turn : Stage → Stage → Prop where
  | shift {ch : Chain} {t : Token} {ts : List Token} {q : Nat}
      (entry : Stage.action ⟨ch, t :: ts⟩ = some (.shift q)) :
      Turn ⟨ch, t :: ts⟩ ⟨⟨q, .terminal t.kind, t.payload.toPhrase⟩ :: ch, ts⟩
  | reduce {upper lower : Chain} {ahead : List Token} {number g : Nat} {r : Rule} {p : Phrase}
      (entry : Stage.action ⟨upper ++ lower, ahead⟩ = some (.reduce number))
      (mem : (r, number) ∈ numbered) (size : upper.length = r.body.length)
      (built : r.build (upper.reverse.map Link.phrase) = some p)
      (leads : follow lower.top (.nonterminal r.head) = some g) :
      Turn ⟨upper ++ lower, ahead⟩ ⟨⟨g, .nonterminal r.head, p⟩ :: lower, ahead⟩

abbrev Turns : Stage → Stage → Prop :=
  Relation.ReflTransGen Turn

section Actions

theorem automaton_action (s : Nat) (X : Symbol) :
    automaton.action s X = (rowAt s).bind fun row => row.action X := by
  simp only [automaton, rows_getElem?]

private theorem rowAt_of_action {s : Nat} {X : Symbol} {a : Action}
    (h : automaton.action s X = some a) :
    ∃ row, rowAt s = some row ∧ row.action X = some a := by
  rw [automaton_action] at h
  exact Option.bind_eq_some_iff.1 h

theorem Row.action_of_next {row : Row} {t : Terminal} {q : Nat}
    (h : row.next (.terminal t) = some q) : row.action (.terminal t) = some (.shift q) := by
  have hshift : row.shifts.lookup t = some q := h
  simp [Row.action, Row.actionAt, hshift]

private theorem Row.next_of_action {row : Row} {t : Terminal} {q : Nat}
    (h : row.action (.terminal t) = some (.shift q)) : row.next (.terminal t) = some q := by
  simp only [Row.action, Row.actionAt] at h
  split at h
  · rename_i hshift
    simpa [Row.next, hshift] using h
  · split at h <;> cases h
  · cases h

private theorem follow_of_shift {s q : Nat} {t : Terminal}
    (h : automaton.action s (.terminal t) = some (.shift q)) :
    follow s (.terminal t) = some q := by
  obtain ⟨row, hrow, haction⟩ := rowAt_of_action h
  rw [follow, hrow]
  exact Row.next_of_action haction

private theorem Row.mem_reductions {row : Row} {X : Symbol} {number : Nat}
    (h : row.action X = some (.reduce number)) : number ∈ row.reductions := by
  cases X with
  | terminal t =>
    simp only [Row.action, Row.actionAt] at h
    split at h
    · cases h
    · rename_i hreduces
      split at h
      · obtain rfl : _ = number := by simpa using h
        simp [Row.reductions, hreduces]
      · cases h
    · cases h
  | endMark =>
    have hend : row.atEnd = some (.reduce number) := h
    simp [Row.reductions, hend]
  | error => cases h
  | nonterminal n => cases h

/-- At the end of the input nothing is shifted, and only the second state accepts. -/
def Row.closes (row : Row) (s : Nat) : Bool :=
  match row.atEnd with
  | some (.shift _) => false
  | some .accept => s = 1
  | _ => true

private theorem closes_rows : (rowList.zipIdx.all fun (row, s) => row.closes s) = true := by
  decide +kernel

private theorem closes_of_rowAt {s : Nat} {row : Row} (h : rowAt s = some row) :
    row.closes s = true :=
  List.all_eq_true.1 closes_rows (row, s)
    (List.mem_zipIdx_iff_getElem?.2 ((rowList_getElem? s).trans h))

theorem action_second : automaton.action 1 .endMark = some .accept := by
  rw [automaton_action]
  rfl

private theorem not_shift_at_end {s q : Nat} : automaton.action s .endMark ≠ some (.shift q) := by
  intro h
  obtain ⟨row, hrow, haction⟩ := rowAt_of_action h
  have hend : row.atEnd = some (.shift q) := haction
  have hcloses := closes_of_rowAt hrow
  simp [Row.closes, hend] at hcloses

private theorem accept_cases {s : Nat} {X : Symbol} (h : automaton.action s X = some .accept) :
    s = 1 ∧ X = .endMark := by
  obtain ⟨row, hrow, haction⟩ := rowAt_of_action h
  cases X with
  | terminal t =>
    simp only [Row.action, Row.actionAt] at haction
    split at haction
    · cases haction
    · split at haction <;> cases haction
    · cases haction
  | endMark =>
    have hend : row.atEnd = some .accept := haction
    have hcloses := closes_of_rowAt hrow
    simp only [Row.closes, hend, decide_eq_true_eq] at hcloses
    exact ⟨hcloses, rfl⟩
  | error => cases haction
  | nonterminal n => cases haction

private theorem Chain.Linked.exists_item {ch : Chain} (linked : ch.Linked) {X : Symbol}
    {number : Nat} (h : automaton.action ch.top X = some (.reduce number)) :
    ∃ r, Item ch.top number r r.body [] := by
  obtain ⟨row, hrow, haction⟩ := rowAt_of_action h
  have hnumber := Row.mem_reductions haction
  have entered : ∃ Y, row.entered Y = true := by
    cases ch with
    | nil =>
      have hstart := entered_start
      have hzero : rowAt 0 = some row := hrow
      rw [hzero] at hstart
      exact ⟨_, hstart⟩
    | cons l ch =>
      obtain ⟨row', hrow', entered⟩ := entered_of_follow linked.1
      obtain rfl : row = row' := Option.some.inj (hrow.symm.trans hrow')
      exact ⟨_, entered⟩
  obtain ⟨Y, entered⟩ := entered
  obtain ⟨r, mem⟩ := Row.exists_rule_of_entered entered hnumber
  exact ⟨r, mem, by simp, row, hrow, by simpa [Row.completes] using hnumber⟩

end Actions

section Sound

/-- The stack stands for the tokens read: the table has led along its symbols, they span the tokens,
and its phrases are phrases for the symbols. -/
structure Stage.Sound (s : Stage) (read : List Token) : Prop where
  linked : s.chain.Linked
  spans : Spans s.chain.symbols (read.map Token.kind)
  admits : ∀ l ∈ s.chain, Admits l.symbol l.phrase
  fits : ∀ t ∈ s.ahead, t.Fits

theorem Stage.Sound.start {ts : List Token} (fits : ∀ t ∈ ts, t.Fits) :
    Stage.Sound ⟨[], ts⟩ [] :=
  ⟨trivial, .nil, by simp, fits⟩

private theorem numbered_unique {r r' : Rule} {number : Nat} (h : (r, number) ∈ numbered)
    (h' : (r', number) ∈ numbered) : r = r' :=
  Option.some.inj ((rules_of_numbered h).symm.trans (rules_of_numbered h'))

private theorem Chain.Linked.symbols_upper {upper lower : Chain}
    (linked : Chain.Linked (upper ++ lower)) {X : Symbol} {number : Nat} {r : Rule}
    (entry : automaton.action (Chain.top (upper ++ lower)) X = some (.reduce number))
    (mem : (r, number) ∈ numbered) (size : upper.length = r.body.length) :
    upper.symbols = r.body := by
  obtain ⟨r', item⟩ := linked.exists_item entry
  obtain rfl := numbered_unique item.mem mem
  obtain ⟨upper', lower', hsplit, hsymbols, -⟩ := linked.exists_upper item
  have hlength : upper.length = upper'.length := by
    rw [size, ← hsymbols, Chain.symbols, List.length_map, List.length_reverse]
  obtain ⟨rfl, -⟩ := List.append_inj hsplit hlength
  exact hsymbols

private theorem Chain.forall₂_admits {ch : Chain} (admits : ∀ l ∈ ch, Admits l.symbol l.phrase) :
    List.Forall₂ Admits ch.symbols (ch.reverse.map Link.phrase) := by
  rw [Chain.symbols, List.forall₂_map_left_iff, List.forall₂_map_right_iff, List.forall₂_same]
  intro l hl
  exact admits l (List.mem_reverse.1 hl)

theorem Turn.sound {s s' : Stage} (turn : Turn s s') {read : List Token} (sound : s.Sound read) :
    ∃ us, s.ahead = us ++ s'.ahead ∧ s'.Sound (read ++ us) := by
  cases turn with
  | @shift ch t ts q entry =>
    have fits := sound.fits t List.mem_cons_self
    refine ⟨[t], rfl, ⟨follow_of_shift entry, sound.linked⟩, ?_, ?_, ?_⟩
    · rw [Chain.symbols_cons, List.map_append]
      exact sound.spans.append (.terminal t.kind .nil)
    · exact List.forall_mem_cons.2 ⟨fits, sound.admits⟩
    · exact fun x hx => sound.fits x (List.mem_cons_of_mem t hx)
  | @reduce upper lower ahead number g r p entry mem size built leads =>
    have hsymbols := sound.linked.symbols_upper entry mem size
    have admits := List.forall_mem_append.1 sound.admits
    have hbody := Chain.forall₂_admits admits.1
    rw [hsymbols] at hbody
    obtain ⟨q, hq, hhead⟩ := (sound_productions (mem_productions mem)).apply hbody
    obtain rfl := Option.some.inj (hq.symm.trans built)
    refine ⟨[], rfl, ⟨leads, sound.linked.lower⟩, ?_, ?_, sound.fits⟩
    · have hspans := sound.spans
      rw [Chain.symbols_append, hsymbols] at hspans
      rw [Chain.symbols_cons, List.append_nil]
      exact Spans.reduce (mem_productions mem) hspans
    · exact List.forall_mem_cons.2 ⟨hhead, admits.2⟩

theorem Turns.sound {s s' : Stage} (turns : Turns s s') {read : List Token} (sound : s.Sound read) :
    ∃ us, s.ahead = us ++ s'.ahead ∧ s'.Sound (read ++ us) := by
  induction turns with
  | refl => exact ⟨[], rfl, by rwa [List.append_nil]⟩
  | tail _ turn ih =>
    obtain ⟨us, hus, hsound⟩ := ih
    obtain ⟨vs, hvs, hsound'⟩ := turn.sound hsound
    exact ⟨us ++ vs, by rw [hus, hvs, List.append_assoc], by rwa [← List.append_assoc]⟩

/-- The stage holds a whole program and nothing else, and no tokens are ahead. -/
def Stage.Finished (s : Stage) (p : Phrase) : Prop :=
  s = ⟨[⟨1, .nonterminal .program, p⟩], []⟩

theorem Stage.Sound.progress {s : Stage} {read : List Token} (sound : s.Sound read) :
    (∃ s', Turn s s') ∨ s.action = none ∨ ∃ p, s.Finished p := by
  obtain ⟨ch, ahead⟩ := s
  cases entry : Stage.action ⟨ch, ahead⟩ with
  | none => exact .inr (.inl rfl)
  | some action =>
    cases action with
    | shift q =>
      cases ahead with
      | nil => exact absurd entry not_shift_at_end
      | cons t ts => exact .inl ⟨_, .shift entry⟩
    | reduce number =>
      left
      obtain ⟨r, item⟩ := sound.linked.exists_item entry
      obtain ⟨upper, lower, rfl, hsymbols, g, leads⟩ := sound.linked.exists_upper item
      have hbody := Chain.forall₂_admits (List.forall_mem_append.1 sound.admits).1
      rw [hsymbols] at hbody
      obtain ⟨p, built, -⟩ := (sound_productions (mem_productions item.mem)).apply hbody
      have size : upper.length = r.body.length := by
        rw [← hsymbols, Chain.symbols, List.length_map, List.length_reverse]
      exact ⟨_, .reduce entry item.mem size built leads⟩
    | accept =>
      right; right
      obtain ⟨htop, hlook⟩ := accept_cases entry
      obtain ⟨⟨state, symbol, p⟩, rfl, hprogram⟩ := sound.linked.eq_program htop
      have hstate : state = 1 := htop
      have hsymbol : symbol = .nonterminal .program := hprogram
      cases ahead with
      | nil => exact ⟨p, by rw [Finished, hstate, hsymbol]⟩
      | cons t ts => cases hlook

/-- Where the table reduces by a rule, the rule's symbols are on the stack and the state below them
takes up its head. -/
theorem Stage.Sound.reduces {s : Stage} {read : List Token} (sound : s.Sound read) {number : Nat}
    (entry : s.action = some (.reduce number)) :
    ∃ (upper lower : Chain) (r : Rule) (g : Nat), s.chain = upper ++ lower ∧
      (r, number) ∈ numbered ∧ upper.length = r.body.length ∧
      follow lower.top (.nonterminal r.head) = some g := by
  rcases sound.progress with ⟨s', turn⟩ | stuck | ⟨p, rfl⟩
  · cases turn with
    | shift entry' => cases entry'.symm.trans entry
    | @reduce upper lower _ _ g r _ entry' mem size _ leads =>
      cases entry'.symm.trans entry
      exact ⟨upper, lower, r, g, rfl, mem, size, leads⟩
  · cases stuck.symm.trans entry
  · cases action_second.symm.trans entry

end Sound

section Halting

/-- What is left to do at a stage: a bound on the number of turns. -/
def Stage.measure (s : Stage) : Nat :=
  8 * s.ahead.length + weight s.chain.symbols

theorem Turn.measure_lt {s s' : Stage} (turn : Turn s s') {read : List Token}
    (sound : s.Sound read) : s'.measure < s.measure := by
  cases turn with
  | @shift ch t ts q entry =>
    have hweight : (Symbol.terminal t.kind).weight = 6 := rfl
    simp only [Stage.measure, Chain.symbols_cons, weight_append, weight_singleton,
      List.length_cons]
    omega
  | @reduce upper lower ahead number g r p entry mem size built leads =>
    have hsymbols := sound.linked.symbols_upper entry mem size
    have hless := weight_head_lt r (mem_productions mem)
    simp only [Stage.measure, Chain.symbols_cons, Chain.symbols_append, weight_append,
      weight_singleton, hsymbols]
    omega

def Stage.Halted (s : Stage) : Prop :=
  s.action = none ∨ ∃ p, s.Finished p

theorem Stage.Sound.exists_halted {s : Stage} {read : List Token} (sound : s.Sound read) :
    ∃ s', Turns s s' ∧ s'.Halted := by
  induction hmeasure : s.measure using Nat.strong_induction_on generalizing s read with
  | _ n ih =>
    subst hmeasure
    rcases sound.progress with ⟨s', turn⟩ | halted
    · obtain ⟨us, -, sound'⟩ := turn.sound sound
      obtain ⟨s'', turns, halted⟩ := ih _ (turn.measure_lt sound) sound' rfl
      exact ⟨s'', .head turn turns, halted⟩
    · exact ⟨s, .refl, halted⟩

private theorem Stage.Halted.not_turn {s s' : Stage} (halted : s.Halted) : ¬ Turn s s' := by
  have hnot : ∀ a, s.action = some a → a = .accept := by
    intro a ha
    rcases halted with hnone | ⟨p, rfl⟩
    · exact absurd (hnone.symm.trans ha) (by simp)
    · exact (Option.some.inj (action_second.symm.trans ha)).symm
  intro turn
  cases turn with
  | shift entry => exact absurd (hnot _ entry) (by simp)
  | reduce entry => exact absurd (hnot _ entry) (by simp)

private theorem Turn.unique {s a b : Stage} (h : Turn s a) (h' : Turn s b) : a = b := by
  cases h with
  | @shift ch t ts q entry =>
    generalize hs : (⟨ch, t :: ts⟩ : Stage) = s at h' entry
    cases h' with
    | shift entry' =>
      cases hs
      cases entry.symm.trans entry'
      rfl
    | reduce entry' => exact absurd (entry.symm.trans entry') (by simp)
  | @reduce upper lower ahead number g r p entry mem size built leads =>
    generalize hs : (⟨upper ++ lower, ahead⟩ : Stage) = s at h' entry
    cases h' with
    | shift entry' => exact absurd (entry.symm.trans entry') (by simp)
    | @reduce upper' lower' _ _ _ r' _ entry' mem' size' built' leads' =>
      cases entry.symm.trans entry'
      obtain rfl := numbered_unique mem mem'
      obtain ⟨hchain, rfl⟩ := Stage.mk.inj hs
      obtain ⟨rfl, rfl⟩ := List.append_inj hchain (size.trans size'.symm)
      cases built.symm.trans built'
      cases leads.symm.trans leads'
      rfl

theorem Stage.Halted.unique {s a b : Stage} (ha : a.Halted) (hb : b.Halted) (h : Turns s a)
    (h' : Turns s b) : a = b := by
  have unique : Relator.RightUnique Turn := fun _ _ _ => Turn.unique
  rcases Relation.ReflTransGen.total_of_right_unique unique h h' with hab | hba
  · rcases Relation.ReflTransGen.cases_head hab with heq | ⟨c, turn, -⟩
    · exact heq
    · exact absurd turn ha.not_turn
  · rcases Relation.ReflTransGen.cases_head hba with heq | ⟨c, turn, -⟩
    · exact heq.symm
    · exact absurd turn hb.not_turn

end Halting

section Exchange

private theorem look_append {xs ys ys' : List Token} (h : look ys = look ys') :
    look (xs ++ ys) = look (xs ++ ys') := by
  cases xs with
  | nil => exact h
  | cons t xs => rfl

private theorem Turn.exchange {s s' : Stage} (turn : Turn s s') {xs ys ys' : List Token}
    (ahead : s'.ahead = xs ++ ys) (h : look ys = look ys') :
    ∃ us, s.ahead = us ++ ys ∧ Turn ⟨s.chain, us ++ ys'⟩ ⟨s'.chain, xs ++ ys'⟩ := by
  cases turn with
  | @shift _ t _ _ entry =>
    cases ahead
    exact ⟨t :: xs, rfl, .shift entry⟩
  | @reduce upper lower _ _ _ _ _ entry mem size built leads =>
    cases ahead
    refine ⟨xs, rfl, .reduce ?_ mem size built leads⟩
    rw [Stage.action] at entry ⊢
    rwa [← look_append h]

theorem Turns.exchange {s : Stage} {ch : Chain} {ys ys' : List Token} (turns : Turns s ⟨ch, ys⟩)
    (h : look ys = look ys') :
    ∃ us, s.ahead = us ++ ys ∧ Turns ⟨s.chain, us ++ ys'⟩ ⟨ch, ys'⟩ := by
  induction turns using Relation.ReflTransGen.head_induction_on with
  | refl => exact ⟨[], rfl, .refl⟩
  | @head s s' turn _ ih =>
    obtain ⟨us, hus, hturns⟩ := ih
    obtain ⟨vs, hvs, hturn⟩ := Turn.exchange turn hus h
    exact ⟨vs, hvs, .head hturn hturns⟩

end Exchange

end CallByNeed.Language
