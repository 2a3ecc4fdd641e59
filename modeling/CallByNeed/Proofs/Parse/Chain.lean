import CallByNeed.Proofs.Parse.Item

set_option autoImplicit false
set_option relaxedAutoImplicit false

/-!
The stack of a parse as a chain of links from the first state. A chain that follows the table spells
the beginning of a sentence: some rule in progress in its top state is longer than its head, so that
the symbols read of it can be replaced by the head, and the chain gets lighter until nothing but a
program is left.
-/

namespace CallByNeed.Language

/-- A symbol on the stack, with its phrase and the state to which it has led. -/
structure Link where
  state : Nat
  symbol : Symbol
  phrase : Phrase

/-- A stack without its bottom, with the top first. -/
abbrev Chain := List Link

namespace Chain

def top : Chain → Nat
  | [] => 0
  | l :: _ => l.state

def symbols (ch : Chain) : List Symbol :=
  ch.reverse.map Link.symbol

def Linked : Chain → Prop
  | [] => True
  | l :: ch => follow (top ch) l.symbol = some l.state ∧ Linked ch

@[simp]
theorem symbols_cons (l : Link) (ch : Chain) : symbols (l :: ch) = symbols ch ++ [l.symbol] := by
  simp [symbols]

theorem symbols_append (upper lower : Chain) :
    symbols (upper ++ lower) = symbols lower ++ symbols upper := by
  simp [symbols]

theorem Linked.lower {upper lower : Chain} (linked : Linked (upper ++ lower)) : Linked lower := by
  induction upper with
  | nil => exact linked
  | cons l upper ih => exact ih linked.2

/-- The symbols read of a rule in progress are on top of the chain, and below them is a state that
takes up the head of the rule. -/
theorem Linked.exists_upper {ch : Chain} (linked : Linked ch) {number : Nat} {r : Rule}
    {read rest : List Symbol} (item : Item (top ch) number r read rest) :
    ∃ upper lower : Chain, ch = upper ++ lower ∧ symbols upper = read ∧
      ∃ g, follow (top lower) (.nonterminal r.head) = some g := by
  induction read using List.reverseRecOn generalizing ch rest with
  | nil => exact ⟨[], ch, rfl, rfl, item.exists_goto⟩
  | append_singleton read Y ih =>
    cases ch with
    | nil => exact absurd item.read_eq_nil (by simp)
    | cons l ch =>
      obtain ⟨rfl, before⟩ := item.back linked.1
      obtain ⟨upper, lower, rfl, hupper, hgoto⟩ := ih linked.2 before
      exact ⟨l :: upper, lower, rfl, by rw [symbols_cons, hupper], hgoto⟩

end Chain

section Weight

/-- The weight of a symbol. A rule's symbols together are heavier than its head. -/
def Symbol.weight : Symbol → Nat
  | .nonterminal .program => 1
  | .nonterminal .structs | .nonterminal .funcs | .nonterminal .fields | .nonterminal .params
  | .nonterminal .statements | .nonterminal .catchers => 2
  | .nonterminal .struct | .nonterminal .func | .nonterminal .field | .nonterminal .param
  | .nonterminal .statement | .nonterminal .catcher | .nonterminal .arguments => 3
  | .nonterminal .expression | .nonterminal .assignment => 4
  | .nonterminal .dotted | .nonterminal .declared => 5
  | _ => 6

def weight : List Symbol → Nat
  | [] => 0
  | X :: ss => X.weight + weight ss

@[simp]
theorem weight_append (ss ss' : List Symbol) : weight (ss ++ ss') = weight ss + weight ss' := by
  induction ss with
  | nil => simp [weight]
  | cons X ss ih => rw [List.cons_append, weight, weight, ih, Nat.add_assoc]

private theorem weight_cons (X : Symbol) (ss : List Symbol) :
    weight (X :: ss) = X.weight + weight ss :=
  rfl

@[simp]
theorem weight_singleton (X : Symbol) : weight [X] = X.weight :=
  rfl

private theorem weight_reverse (ss : List Symbol) : weight ss.reverse = weight ss := by
  induction ss with
  | nil => rfl
  | cons X ss ih =>
    rw [List.reverse_cons, weight_append, weight_singleton, ih, weight_cons, Nat.add_comm]

private theorem Symbol.weight_pos (X : Symbol) : 0 < X.weight := by
  unfold Symbol.weight
  split <;> omega

theorem length_le_weight (ss : List Symbol) : ss.length ≤ weight ss := by
  induction ss with
  | nil => exact Nat.le_refl 0
  | cons X ss ih =>
    have hpos := X.weight_pos
    rw [weight_cons, List.length_cons]
    omega

theorem weight_head_lt : ∀ r ∈ productions, (Symbol.nonterminal r.head).weight < weight r.body := by
  decide

/-- Some rule in progress in the row has symbols read that are heavier than its head. -/
def Row.begun (row : Row) : Bool :=
  !row.reductions.isEmpty ||
  row.edges.any fun (Y, _) => (places Y).any fun p =>
    (Symbol.nonterminal p.head).weight < weight (p.last :: p.before) &&
      row.completes p.number (Y :: p.after)

private theorem begun_rows : (rowList.drop 2).all Row.begun = true := by
  decide +kernel

/-- In each state after the first two some rule is in progress whose symbols read are heavier than
its head. -/
theorem exists_heavy_item {p s : Nat} {X : Symbol} (h : follow p X = some s) (later : 2 ≤ s) :
    ∃ number r read rest, Item s number r read rest ∧
      (Symbol.nonterminal r.head).weight < weight read := by
  obtain ⟨row, hrow, entered⟩ := entered_of_follow h
  have hmem : row ∈ rowList.drop 2 := by
    refine List.mem_of_getElem? (i := s - 2) ?_
    rw [List.getElem?_drop, ← hrow, ← rowList_getElem?]
    congr 1
    omega
  have begun := List.all_eq_true.1 begun_rows row hmem
  unfold Row.begun at begun
  rw [Bool.or_eq_true] at begun
  rcases begun with reduces | inside
  · obtain ⟨number, hnumber⟩ := List.exists_mem_of_ne_nil row.reductions (by simpa using reduces)
    obtain ⟨r, mem⟩ := Row.exists_rule_of_entered entered hnumber
    have heavier := weight_head_lt r (mem_productions mem)
    refine ⟨number, r, r.body, [], ⟨mem, by simp, row, hrow, ?_⟩, heavier⟩
    simpa [Row.completes] using hnumber
  · obtain ⟨⟨Y, q⟩, -, hplaces⟩ := List.any_eq_true.1 inside
    obtain ⟨place, hplace, hheavy⟩ := List.any_eq_true.1 hplaces
    rw [Bool.and_eq_true, decide_eq_true_eq] at hheavy
    obtain ⟨r, mem, hhead, body⟩ := of_mem_places hplace
    refine ⟨place.number, r, _, _, ⟨mem, body, row, hrow, hheavy.2⟩, ?_⟩
    rw [hhead, weight_append, weight_reverse, weight_singleton]
    have hcons := weight_cons place.last place.before
    omega

end Weight

section Start

private theorem edges_start :
    (rowList.zipIdx.all fun (row, p) => row.edges.all fun (X, s) =>
      2 ≤ s || (s = 1 && p = 0 && X = .nonterminal .program)) = true := by
  decide +kernel

/-- The table leads to the second state only from the first one, at a program, and never back to the
first one. -/
theorem follow_cases {p s : Nat} {X : Symbol} (h : follow p X = some s) :
    2 ≤ s ∨ (s = 1 ∧ p = 0 ∧ X = .nonterminal .program) := by
  obtain ⟨row, hrow, hnext⟩ := rowAt_of_follow h
  have hmem : (row, p) ∈ rowList.zipIdx :=
    List.mem_zipIdx_iff_getElem?.2 ((rowList_getElem? p).trans hrow)
  have hedge := List.all_eq_true.1 (List.all_eq_true.1 edges_start _ hmem) _ (Row.mem_edges hnext)
  simpa [and_assoc] using hedge

namespace Chain

private theorem Linked.top_pos {l : Link} {ch : Chain} (linked : Linked (l :: ch)) :
    0 < l.state := by
  have hcases := follow_cases linked.1
  omega

/-- A chain whose top is the second state holds nothing but a program. -/
theorem Linked.eq_program {ch : Chain} (linked : Linked ch) (h : top ch = 1) :
    ∃ l, ch = [l] ∧ l.symbol = .nonterminal .program := by
  cases ch with
  | nil => cases h
  | cons l ch =>
    obtain hlate | ⟨-, hbelow, hprogram⟩ := follow_cases linked.1
    · have hl : l.state = 1 := h
      omega
    · cases ch with
      | nil => exact ⟨l, rfl, hprogram⟩
      | cons l' ch =>
        have hpos := linked.2.top_pos
        have hl' : l'.state = 0 := hbelow
        omega

theorem Linked.exists_completion {ch : Chain} (linked : Linked ch) {w : List Terminal}
    (spans : Spans (symbols ch) w) : ∃ v, Spans [.nonterminal .program] (w ++ v) := by
  induction hweight : weight (symbols ch) using Nat.strong_induction_on generalizing ch w with
  | _ n ih =>
    subst hweight
    cases ch with
    | nil =>
      cases spans
      exact exists_spans (by decide)
    | cons l ch =>
      rcases follow_cases linked.1 with hlate | ⟨hstate, -, -⟩
      · obtain ⟨number, r, read, rest, item, heavy⟩ := exists_heavy_item linked.1 hlate
        obtain ⟨upper, lower, hch, hread, g, hg⟩ := linked.exists_upper item
        have mem := mem_productions item.mem
        have hsymbols : symbols (l :: ch) = symbols lower ++ read := by
          rw [hch, symbols_append, hread]
        obtain ⟨x, hx⟩ : ∃ x, Spans rest x := exists_spans fun X hX =>
          proper_body r mem X (by rw [item.body]; exact List.mem_append_right read hX)
        let head : Link := ⟨g, .nonterminal r.head, .nothing⟩
        have hspans : Spans (symbols (head :: lower)) (w ++ x) := by
          rw [symbols_cons]
          refine Spans.reduce mem ?_
          rw [item.body, ← List.append_assoc, ← hsymbols]
          exact spans.append hx
        have hlinked : Linked (head :: lower) := ⟨hg, Linked.lower (hch ▸ linked)⟩
        have hless : weight (symbols (head :: lower)) < weight (symbols (l :: ch)) := by
          rw [hsymbols, symbols_cons, weight_append, weight_append, weight_singleton]
          exact Nat.add_lt_add_left heavy _
        obtain ⟨v, hv⟩ := ih _ hless hlinked hspans rfl
        exact ⟨x ++ v, by rwa [← List.append_assoc]⟩
      · obtain ⟨l', hch, hprogram⟩ := linked.eq_program hstate
        rw [hch] at spans
        exact ⟨[], by simpa [symbols, hprogram] using spans⟩

end Chain

end Start

end CallByNeed.Language
