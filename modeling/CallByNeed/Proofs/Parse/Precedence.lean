import CallByNeed.Proofs.Parse.Build
import CallByNeed.Proofs.Parse.Item

set_option autoImplicit false
set_option relaxedAutoImplicit false

/-!
Precedence. The grammar says nothing about which operator of an expression comes on top, so it reads
most expressions in several ways. Here each rule for expressions gets a level, and each place for an
expression in a rule a floor, below which no expression can stand there. What the grammar reads in
some way it also reads in this ordered way: an operator is attached to what stands on its left where
its strength allows it, and what stands on its right is attached operator by operator.
-/

namespace CallByNeed.Language

section Levels

/-- How tightly a token binds what stands on both sides of it. -/
def Terminal.strength : Terminal → Nat
  | .or => 1
  | .and => 2
  | .eq | .notEq | .greater | .greaterEq | .less | .lessEq => 3
  | .plus | .minus => 4
  | .multiply | .divide => 5
  | _ => 0

/-- How tightly a symbol binds; only operators do. -/
def Symbol.strength : Symbol → Nat
  | .terminal t => t.strength
  | _ => 0

/-- A place for a symbol in a rule, with the least level of what may stand there. -/
structure Slot where
  symbol : Symbol
  floor : Nat

/-- The place for a symbol where any expression may stand. -/
def Slot.loose (X : Symbol) : Slot :=
  ⟨X, if X = .nonterminal .expression then 0 else 7⟩

/-- The level of what a rule makes: its operator's strength, more than that for a unary operator,
and most of all where no operator stands free. -/
def Rule.level (r : Rule) : Nat :=
  match r.body with
  | [.nonterminal .expression, .terminal t, .nonterminal .expression] => t.strength
  | [.terminal _, .nonterminal .expression] => 6
  | _ => 7

/-- The places of a rule. Operators of one strength group to the left. -/
def Rule.slots (r : Rule) : List Slot :=
  match r.body with
  | [.nonterminal .expression, .terminal t, .nonterminal .expression] =>
    [⟨.nonterminal .expression, t.strength⟩, ⟨.terminal t, 7⟩,
      ⟨.nonterminal .expression, t.strength + 1⟩]
  | [.terminal t, .nonterminal .expression] => [⟨.terminal t, 7⟩, ⟨.nonterminal .expression, 6⟩]
  | body => body.map Slot.loose

theorem Terminal.strength_le (t : Terminal) : t.strength ≤ 5 := by
  cases t <;> decide

theorem Rule.symbols_slots (r : Rule) : r.slots.map Slot.symbol = r.body := by
  unfold Rule.slots
  split
  · rename_i h
    rw [h]
    rfl
  · rename_i h
    rw [h]
    rfl
  · rw [List.map_map]
    exact List.map_id' r.body

theorem slots_ne_nil {r : Rule} (mem : r ∈ productions) : r.slots ≠ [] := by
  intro h
  have hbody := r.symbols_slots
  rw [h] at hbody
  exact nonempty_body r mem hbody.symm

/-- The rules of the grammar by their places: for a binary operator, for a unary one, and those that
take any expressions. -/
theorem rule_cases {r : Rule} (mem : r ∈ productions) :
    (∃ t, r.head = .expression ∧
      r.body = [.nonterminal .expression, .terminal t, .nonterminal .expression]) ∨
    (∃ t, r.head = .expression ∧ r.body = [.terminal t, .nonterminal .expression]) ∨
    (r.level = 7 ∧ r.slots = r.body.map Slot.loose) := by
  have heads : ∀ r ∈ productions,
      (r.body.head? = some (.nonterminal .expression) ∧
        r.body[2]? = some (.nonterminal .expression)) ∨
      (r.body.length = 2 ∧ r.body[1]? = some (.nonterminal .expression)) →
      r.head = .expression := by
    decide
  have head := heads r mem
  unfold Rule.level Rule.slots
  split
  · rename_i t hbody
    rw [hbody] at head
    exact .inl ⟨t, head (.inl ⟨rfl, rfl⟩), hbody⟩
  · rename_i t hbody
    rw [hbody] at head
    exact .inr (.inl ⟨t, head (.inr ⟨rfl, rfl⟩), hbody⟩)
  · exact .inr (.inr ⟨rfl, rfl⟩)

end Levels

section Readings

/-- The token's payload is a phrase for its kind. -/
def Token.Fits (t : Token) : Prop :=
  Admits (.terminal t.kind) t.payload.toPhrase

theorem Token.fits_text {kind : Terminal} (h : kind ≠ .number) (s : String) (line pos : Nat) :
    Token.Fits ⟨kind, .text s, line, pos⟩ := by
  cases kind with
  | number => exact absurd rfl h
  | _ => exact ⟨s, rfl⟩

/-- The tokens fill the places, and the phrases are what the rules make of them. -/
inductive Reading : List Slot → List Token → List Phrase → Prop where
  | nil : Reading [] [] []
  | token {t : Token} {floor : Nat} {slots : List Slot} {ts : List Token} {ps : List Phrase}
      (fits : t.Fits) (rest : Reading slots ts ps) :
      Reading (⟨.terminal t.kind, floor⟩ :: slots) (t :: ts) (t.payload.toPhrase :: ps)
  | rule {r : Rule} {number floor : Nat} {slots : List Slot} {us ts : List Token}
      {qs ps : List Phrase} {p : Phrase} (mem : (r, number) ∈ numbered) (high : floor ≤ r.level)
      (inside : Reading r.slots us qs) (built : r.build qs = some p)
      (rest : Reading slots ts ps) :
      Reading (⟨.nonterminal r.head, floor⟩ :: slots) (us ++ ts) (p :: ps)

theorem Reading.admits {slots : List Slot} {ts : List Token} {ps : List Phrase}
    (h : Reading slots ts ps) : List.Forall₂ Admits (slots.map Slot.symbol) ps := by
  induction h with
  | nil => exact .nil
  | token fits _ ih => exact .cons fits ih
  | @rule r _ _ _ _ _ _ _ _ mem _ _ built _ ih ih' =>
    rw [r.symbols_slots] at ih
    obtain ⟨q, hq, admits⟩ := (sound_productions (mem_productions mem)).apply ih
    obtain rfl := Option.some.inj (hq.symm.trans built)
    exact .cons admits ih'

theorem Reading.spans {slots : List Slot} {ts : List Token} {ps : List Phrase}
    (h : Reading slots ts ps) : Spans (slots.map Slot.symbol) (ts.map Token.kind) := by
  induction h with
  | nil => exact .nil
  | token _ _ ih => exact .terminal _ ih
  | @rule r _ _ _ _ _ _ _ _ mem _ _ _ _ ih ih' =>
    rw [r.symbols_slots] at ih
    rw [List.map_append]
    exact .rule (mem_productions mem) ih ih'

theorem Reading.append {slots slots' : List Slot} {ts ts' : List Token} {ps ps' : List Phrase}
    (h : Reading slots ts ps) (h' : Reading slots' ts' ps') :
    Reading (slots ++ slots') (ts ++ ts') (ps ++ ps') := by
  induction h with
  | nil => exact h'
  | token fits _ ih => exact .token fits ih
  | rule mem high inside built _ _ ih =>
    rw [List.append_assoc]
    exact .rule mem high inside built ih

def Ordered (slots : List Slot) (ts : List Token) : Prop :=
  ∃ ps, Reading slots ts ps

namespace Ordered

private theorem append {slots slots' : List Slot} {ts ts' : List Token} :
    Ordered slots ts → Ordered slots' ts' → Ordered (slots ++ slots') (ts ++ ts') :=
  fun ⟨_, h⟩ ⟨_, h'⟩ => ⟨_, h.append h'⟩

private theorem token {t : Token} (fits : t.Fits) (floor : Nat) :
    Ordered [⟨.terminal t.kind, floor⟩] [t] :=
  ⟨_, .token fits .nil⟩

private theorem rule {r : Rule} (mem : r ∈ productions) {floor : Nat} (high : floor ≤ r.level)
    {ts : List Token} (inside : Ordered r.slots ts) :
    Ordered [⟨.nonterminal r.head, floor⟩] ts := by
  obtain ⟨qs, inside⟩ := inside
  obtain ⟨number, hnumber⟩ : ∃ number, (r, number) ∈ numbered := by
    obtain ⟨i, hi⟩ := List.mem_iff_getElem?.1 mem
    exact ⟨i + 1, mem_numbered.2 ⟨i.succ_pos, hi⟩⟩
  have admits := inside.admits
  rw [r.symbols_slots] at admits
  obtain ⟨p, built, -⟩ := (sound_productions mem).apply admits
  have reading := Reading.rule hnumber high inside built .nil
  rw [List.append_nil] at reading
  exact ⟨_, reading⟩

private theorem exists_rule {n : Nonterminal} {floor : Nat} {ts : List Token}
    (h : Ordered [⟨.nonterminal n, floor⟩] ts) :
    ∃ r ∈ productions, r.head = n ∧ floor ≤ r.level ∧ Ordered r.slots ts := by
  obtain ⟨ps, h⟩ := h
  cases h with
  | rule mem high inside built rest =>
    cases rest
    rw [List.append_nil]
    exact ⟨_, mem_productions mem, rfl, high, _, inside⟩

private theorem uncons {slot : Slot} {slots : List Slot} {ts : List Token}
    (h : Ordered (slot :: slots) ts) :
    ∃ us vs, ts = us ++ vs ∧ Ordered [slot] us ∧ Ordered slots vs := by
  obtain ⟨ps, h⟩ := h
  cases h with
  | token fits rest => exact ⟨[_], _, rfl, token fits _, _, rest⟩
  | rule mem high inside built rest =>
    exact ⟨_, _, rfl, rule (mem_productions mem) high ⟨_, inside⟩, _, rest⟩

private theorem exists_token {t : Terminal} {floor : Nat} {ts : List Token}
    (h : Ordered [⟨.terminal t, floor⟩] ts) : ∃ x : Token, ts = [x] ∧ x.kind = t ∧ x.Fits := by
  obtain ⟨ps, h⟩ := h
  cases h with
  | token fits rest =>
    cases rest
    exact ⟨_, rfl, rfl, fits⟩

end Ordered

end Readings

section Reorder

/-- The tokens are an expression of at least the level. -/
abbrev Operand (level : Nat) (ts : List Token) : Prop :=
  Ordered [⟨.nonterminal .expression, level⟩] ts

private theorem Operand.mono {level level' : Nat} {ts : List Token} (h : Operand level ts)
    (le : level' ≤ level) : Operand level' ts := by
  obtain ⟨r, mem, head, high, inside⟩ := h.exists_rule
  rw [Operand, ← head]
  exact .rule mem (le.trans high) inside

def Terminal.Joins (t : Terminal) : Prop :=
  ∃ r ∈ productions, r.head = .expression ∧
    r.body = [.nonterminal .expression, .terminal t, .nonterminal .expression]

private theorem Operand.combine {x : Token} (fits : x.Fits) (op : x.kind.Joins) {level : Nat}
    (le : level ≤ x.kind.strength) {us vs : List Token} (left : Operand x.kind.strength us)
    (right : Operand (x.kind.strength + 1) vs) : Operand level (us ++ x :: vs) := by
  obtain ⟨r, mem, head, body⟩ := op
  have hlevel : r.level = x.kind.strength := by simp only [Rule.level, body]
  have hslots : r.slots = [⟨.nonterminal .expression, x.kind.strength⟩, ⟨.terminal x.kind, 7⟩,
      ⟨.nonterminal .expression, x.kind.strength + 1⟩] := by simp only [Rule.slots, body]
  rw [Operand, ← head]
  refine .rule mem (hlevel ▸ le) ?_
  rw [hslots]
  exact left.append ((Ordered.token fits 7).append right)

private theorem Operand.cases_level {level : Nat} {ts : List Token} (h : Operand level ts) {n : Nat}
    (le : n ≤ 6) :
    Operand n ts ∨ ∃ us x vs, ts = us ++ x :: vs ∧ x.Fits ∧ x.kind.Joins ∧
      level ≤ x.kind.strength ∧ x.kind.strength < n ∧
      Operand x.kind.strength us ∧ Operand (x.kind.strength + 1) vs := by
  obtain ⟨r, mem, head, high, inside⟩ := h.exists_rule
  by_cases hn : n ≤ r.level
  · left
    rw [Operand, ← head]
    exact .rule mem hn inside
  · right
    rcases rule_cases mem with ⟨t, -, body⟩ | ⟨t, -, body⟩ | ⟨hlevel, -⟩
    · have hlevel : r.level = t.strength := by simp only [Rule.level, body]
      have hslots : r.slots = [⟨.nonterminal .expression, t.strength⟩, ⟨.terminal t, 7⟩,
          ⟨.nonterminal .expression, t.strength + 1⟩] := by simp only [Rule.slots, body]
      rw [hslots] at inside
      obtain ⟨us, rest, rfl, left, hrest⟩ := inside.uncons
      obtain ⟨xs, vs, rfl, hop, right⟩ := hrest.uncons
      obtain ⟨x, rfl, rfl, fits⟩ := hop.exists_token
      exact ⟨us, x, vs, rfl, fits, ⟨r, mem, head, body⟩, by omega, by omega, left, right⟩
    · have hlevel : r.level = 6 := by simp only [Rule.level, body]
      omega
    · omega

private theorem Operand.attach {level : Nat} {us : List Token} (left : Operand level us) {x : Token}
    (fits : x.Fits) (op : x.kind.Joins) (le : level ≤ x.kind.strength) {vs : List Token}
    (right : Operand (x.kind.strength + 1) vs) : Operand level (us ++ x :: vs) := by
  induction hlen : us.length using Nat.strong_induction_on generalizing level us with
  | _ n ih =>
    subst hlen
    have hweak := x.kind.strength_le
    rcases left.cases_level (n := x.kind.strength) (by omega) with
      strong | ⟨as, y, bs, rfl, hy, opy, hlow, hless, has, hbs⟩
    · exact .combine fits op le strong right
    · have hattached := ih bs.length (by simp; omega) hbs hless rfl
      have hall := Operand.combine hy opy hlow has hattached
      rwa [List.append_assoc]

private theorem Operand.join {us : List Token} (left : Operand 0 us) {x : Token} (fits : x.Fits)
    (op : x.kind.Joins) {vs : List Token} (right : Operand 0 vs) : Operand 0 (us ++ x :: vs) := by
  induction hlen : vs.length using Nat.strong_induction_on generalizing vs with
  | _ n ih =>
    subst hlen
    have hweak := x.kind.strength_le
    rcases right.cases_level (n := x.kind.strength + 1) (by omega) with
      strong | ⟨as, y, bs, rfl, hy, opy, -, -, has, hbs⟩
    · exact left.attach fits op (Nat.zero_le _) strong
    · -- the operators on the right are weaker: `us x as` first, then `y bs`
      have hfirst := ih as.length (by simp) (has.mono (Nat.zero_le _)) rfl
      have hall := hfirst.attach hy opy (Nat.zero_le _) hbs
      rwa [List.append_assoc] at hall

private theorem Operand.prefixed {r : Rule} (mem : r ∈ productions) (head : r.head = .expression)
    {x : Token} (fits : x.Fits) (body : r.body = [.terminal x.kind, .nonterminal .expression])
    {vs : List Token} (right : Operand 0 vs) : Operand 0 (x :: vs) := by
  induction hlen : vs.length using Nat.strong_induction_on generalizing vs with
  | _ n ih =>
    subst hlen
    rcases right.cases_level (n := 6) (by omega) with
      strong | ⟨as, y, bs, rfl, hy, opy, -, -, has, hbs⟩
    · have hslots : r.slots = [⟨.terminal x.kind, 7⟩, ⟨.nonterminal .expression, 6⟩] := by
        simp only [Rule.slots, body]
      rw [Operand, ← head]
      refine .rule mem (Nat.zero_le _) ?_
      rw [hslots]
      exact (Ordered.token fits 7).append strong
    · have hfirst := ih as.length (by simp) (has.mono (Nat.zero_le _)) rfl
      exact hfirst.attach hy opy (Nat.zero_le _) hbs

private theorem Ordered.reorder {r : Rule} (mem : r ∈ productions) {ts : List Token}
    (inside : Ordered (r.body.map Slot.loose) ts) :
    Ordered [Slot.loose (.nonterminal r.head)] ts := by
  have loose : Slot.loose (.nonterminal .expression) = ⟨.nonterminal .expression, 0⟩ := rfl
  rcases rule_cases mem with ⟨t, head, body⟩ | ⟨t, head, body⟩ | ⟨level, slots⟩
  · rw [body] at inside
    obtain ⟨us, rest, rfl, left, hrest⟩ := Ordered.uncons inside
    obtain ⟨xs, vs, rfl, hop, right⟩ := Ordered.uncons hrest
    obtain ⟨x, rfl, rfl, fits⟩ := hop.exists_token
    rw [head, loose]
    exact Operand.join left fits ⟨r, mem, head, body⟩ right
  · rw [body] at inside
    obtain ⟨xs, vs, rfl, hop, right⟩ := Ordered.uncons inside
    obtain ⟨x, rfl, rfl, fits⟩ := hop.exists_token
    rw [head, loose]
    exact Operand.prefixed mem head fits body right
  · rw [← slots] at inside
    refine .rule mem ?_ inside
    rw [level]
    split <;> omega

theorem Spans.ordered {ss : List Symbol} {w : List Terminal} (h : Spans ss w) {ts : List Token}
    (kinds : ts.map Token.kind = w) (fits : ∀ t ∈ ts, t.Fits) : Ordered (ss.map Slot.loose) ts := by
  induction h generalizing ts with
  | nil =>
    obtain rfl := List.map_eq_nil_iff.1 kinds
    exact ⟨[], .nil⟩
  | terminal t _ ih =>
    obtain ⟨x, xs, rfl, rfl, hrest⟩ := List.map_eq_cons_iff.1 kinds
    rw [List.forall_mem_cons] at fits
    exact (Ordered.token fits.1 _).append (ih hrest fits.2)
  | rule mem _ _ ih ih' =>
    obtain ⟨us, vs, rfl, hus, hvs⟩ := List.map_eq_append_iff.1 kinds
    rw [List.forall_mem_append] at fits
    exact (Ordered.reorder mem (ih hus fits.1)).append (ih' hvs fits.2)

end Reorder

end CallByNeed.Language
