import CallByNeed.Proofs.Parse.Turn

set_option autoImplicit false
set_option relaxedAutoImplicit false

/-!
A parse finds the ordered reading of its tokens. The table is checked once: along each rule that a
state may begin it leads from place to place, an operator that is too weak for a place reduces what
stands there, and one that is tight enough is shifted. Then turns follow every reading, from the
leaves up.
-/

namespace CallByNeed.Language

section Check

def operators : List Terminal :=
  [.or, .and, .eq, .notEq, .greater, .greaterEq, .less, .lessEq, .plus, .minus, .multiply, .divide]

/-- The least level of an expression that begins in the state: an operator that is not shifted after
an expression there does not belong to that expression. -/
def Row.floor (row : Row) : Nat :=
  match (row.gotos.lookup .expression).bind rowAt with
  | none => 0
  | some after =>
    (operators.filter fun t => (after.shifts.lookup t).isNone).foldl
      (fun n t => max n (t.strength + 1)) 0

def Row.lookaheads (row : Row) : List Symbol :=
  row.shifts.map (fun (t, _) => .terminal t) ++
  (match row.reduces with
    | none => []
    | some (_, ts) => ts.map .terminal) ++
  if row.atEnd.isSome then [.endMark] else []

/-- The table leads from the row along the places of the rule, and then reduces by it before each of
the symbols that is not too strong. `floor` is that of the place before: what stands there ends
before the next symbol. -/
def Row.conforms (number level : Nat) (ends : List Symbol) : List Slot → Nat → Row → Bool
  | [], floor, row => ends.all fun a =>
    level < a.strength || (row.action a == some (.reduce number) && a.strength ≤ floor)
  | slot :: slots, floor, row =>
    (match slot.symbol with
      | .terminal t => t.strength ≤ floor
      | _ => floor == 7 && row.floor ≤ slot.floor) &&
    ((row.next slot.symbol).bind rowAt).any
      (Row.conforms number level ends slots slot.floor)

/-- Each rule whose head the row takes up is one along which the table leads, unless it makes an
expression of a level too low. -/
def Row.follows (row : Row) : Bool :=
  row.gotos.all fun (n, g) => (rowAt g).any fun after =>
    numbered.all fun (r, number) => !(r.head = n) || r.level < row.floor ||
      row.conforms number r.level after.lookaheads r.slots 7

private theorem follows_rows : rowList.all Row.follows = true := by
  decide +kernel

private theorem Row.mem_lookaheads {row : Row} {X : Symbol} {a : LR.Action}
    (h : row.action X = some a) :
    X ∈ row.lookaheads := by
  cases X with
  | terminal t =>
    simp only [Row.action, Row.actionAt] at h
    split at h
    · rename_i hshift
      have hmem := mem_of_lookup hshift
      simp only [Row.lookaheads, List.mem_append, List.mem_map]
      exact .inl (.inl ⟨_, hmem, rfl⟩)
    · rename_i hreduces
      split at h
      · rename_i ht
        simp [Row.lookaheads, hreduces, ht]
      · cases h
    · cases h
  | endMark =>
    have hend : row.atEnd = some a := h
    simp [Row.lookaheads, hend]
  | error => cases h
  | nonterminal n => cases h

private theorem Row.conforms_token {row : Row} {number level floor floor' : Nat}
    {ends : List Symbol} {t : Terminal} {slots : List Slot}
    (h : row.conforms number level ends (⟨.terminal t, floor'⟩ :: slots) floor = true) :
    t.strength ≤ floor ∧ ∃ q after, row.next (.terminal t) = some q ∧ rowAt q = some after ∧
      after.conforms number level ends slots floor' = true := by
  simp only [Row.conforms, Bool.and_eq_true, decide_eq_true_eq, Option.any_eq_true,
    Option.bind_eq_some_iff] at h
  obtain ⟨weak, after, ⟨q, hq, hafter⟩, conforms⟩ := h
  exact ⟨weak, q, after, hq, hafter, conforms⟩

private theorem Row.conforms_nonterminal {row : Row} {number level floor floor' : Nat}
    {ends : List Symbol} {n : Nonterminal} {slots : List Slot}
    (h : row.conforms number level ends (⟨.nonterminal n, floor'⟩ :: slots) floor = true) :
    floor = 7 ∧ row.floor ≤ floor' ∧
      ∃ g after, row.next (.nonterminal n) = some g ∧ rowAt g = some after ∧
        after.conforms number level ends slots floor' = true := by
  simp only [Row.conforms, Bool.and_eq_true, decide_eq_true_eq, beq_iff_eq, Option.any_eq_true,
    Option.bind_eq_some_iff] at h
  obtain ⟨⟨hfloor, low⟩, after, ⟨g, hg, hafter⟩, conforms⟩ := h
  exact ⟨hfloor, low, g, after, hg, hafter, conforms⟩

private theorem Row.conforms_rule {s g number : Nat} {row after : Row} {r : Rule}
    (hrow : rowAt s = some row) (hg : row.next (.nonterminal r.head) = some g)
    (hafter : rowAt g = some after) (mem : (r, number) ∈ numbered) (high : row.floor ≤ r.level) :
    row.conforms number r.level after.lookaheads r.slots 7 = true := by
  have hgoto : row.gotos.lookup r.head = some g := hg
  have hfollows := List.all_eq_true.1 follows_rows row (mem_rowList hrow)
  have hrules := List.all_eq_true.1 hfollows _ (mem_of_lookup hgoto)
  simp only [hafter, Option.any_some] at hrules
  have hrule := List.all_eq_true.1 hrules _ mem
  have hlevel : ¬ r.level < row.floor := Nat.not_lt.2 high
  simpa [hlevel] using hrule

end Check

section Follow

/-- The first token of a reading is one that the table takes where the places begin, and it is not
too strong for the place before. If there are no places, what follows the reading is. -/
theorem Reading.mem_lookaheads {slots : List Slot} {ts : List Token} {ps : List Phrase}
    (h : Reading slots ts ps) {s : Nat} {row : Row} (hrow : rowAt s = some row)
    {number level floor : Nat} {ends : List Symbol}
    (conforms : row.conforms number level ends slots floor = true) {rest : List Token}
    (hrest : slots = [] → look rest ∈ ends ∧ (look rest).strength ≤ level) :
    look (ts ++ rest) ∈ row.lookaheads ∧ (look (ts ++ rest)).strength ≤ floor := by
  induction h generalizing number level floor ends rest with
  | nil =>
    obtain ⟨mem, weak⟩ := hrest rfl
    have hend := List.all_eq_true.1 conforms _ mem
    have hweak : ¬ level < (look rest).strength := Nat.not_lt.2 weak
    simp only [hweak, decide_false, Bool.false_or, Bool.and_eq_true, beq_iff_eq,
      decide_eq_true_eq] at hend
    exact ⟨Row.mem_lookaheads hend.1, hend.2⟩
  | token fits _ _ =>
    obtain ⟨weak, q, after, hq, -, -⟩ := Row.conforms_token conforms
    exact ⟨Row.mem_lookaheads (Row.action_of_next hq), weak⟩
  | rule mem high _ _ _ ih _ =>
    obtain ⟨rfl, low, g, after, hg, hafter, -⟩ := Row.conforms_nonterminal conforms
    have hrule := Row.conforms_rule hrow hg hafter mem (low.trans high)
    rw [List.append_assoc]
    exact ih hrule fun hnil => absurd hnil (slots_ne_nil (mem_productions mem))

private theorem Reading.length_eq {slots : List Slot} {ts : List Token} {ps : List Phrase}
    (h : Reading slots ts ps) : ps.length = slots.length := by
  have hadmits := h.admits.length_eq
  rw [List.length_map] at hadmits
  exact hadmits.symm

private theorem Reading.turn {r : Rule} {number g : Nat} {us ahead : List Token} {qs : List Phrase}
    {p : Phrase} (h : Reading r.slots us qs) (mem : (r, number) ∈ numbered)
    (built : r.build qs = some p) {upper ch : Chain} (phrases : upper.reverse.map Link.phrase = qs)
    (entry : Stage.action ⟨upper ++ ch, ahead⟩ = some (.reduce number))
    (leads : follow ch.top (.nonterminal r.head) = some g) :
    Turn ⟨upper ++ ch, ahead⟩ ⟨⟨g, .nonterminal r.head, p⟩ :: ch, ahead⟩ := by
  refine .reduce entry mem ?_ (phrases ▸ built) leads
  calc upper.length = qs.length := by rw [← phrases, List.length_map, List.length_reverse]
    _ = r.slots.length := h.length_eq
    _ = r.body.length := by rw [← r.symbols_slots, List.length_map]

private theorem Reading.turns {slots : List Slot} {ts : List Token} {ps : List Phrase}
    (h : Reading slots ts ps) {ch : Chain} {row : Row} (hrow : rowAt ch.top = some row)
    {number level floor : Nat} {ends : List Symbol}
    (conforms : row.conforms number level ends slots floor = true) {rest : List Token}
    (mem : look rest ∈ ends) (weak : (look rest).strength ≤ level) :
    ∃ upper : Chain, upper.reverse.map Link.phrase = ps ∧
      Turns ⟨ch, ts ++ rest⟩ ⟨upper ++ ch, rest⟩ ∧
      Stage.action ⟨upper ++ ch, rest⟩ = some (.reduce number) := by
  induction h generalizing ch row number level floor ends rest with
  | nil =>
    have hend := List.all_eq_true.1 conforms _ mem
    have hweak : ¬ level < (look rest).strength := Nat.not_lt.2 weak
    simp only [hweak, decide_false, Bool.false_or, Bool.and_eq_true, beq_iff_eq,
      decide_eq_true_eq] at hend
    refine ⟨[], rfl, .refl, ?_⟩
    rw [Stage.action, automaton_action, List.nil_append, hrow]
    exact hend.1
  | @token t _ slots ts ps fits _ ih =>
    obtain ⟨-, q, after, hq, hafter, hconforms⟩ := Row.conforms_token conforms
    let link : Link := ⟨q, .terminal t.kind, t.payload.toPhrase⟩
    have hshift : Stage.action ⟨ch, t :: (ts ++ rest)⟩ = some (.shift q) := by
      rw [Stage.action, automaton_action, hrow]
      exact Row.action_of_next hq
    have htop : rowAt (Chain.top (link :: ch)) = some after := hafter
    obtain ⟨upper, hphrases, turns, hreduce⟩ := ih htop hconforms mem weak
    refine ⟨upper ++ [link], by simp [hphrases, link], ?_, ?_⟩
    · rw [List.append_assoc]
      exact .head (.shift hshift) turns
    · rwa [List.append_assoc]
  | @rule r number' floor' slots us ts qs ps p hmem high inside built after ih ih' =>
    obtain ⟨-, low, g, row', hg, hrow', hconforms⟩ := Row.conforms_nonterminal conforms
    have hrule := Row.conforms_rule hrow hg hrow' hmem (low.trans high)
    have leads : follow ch.top (.nonterminal r.head) = some g := by rw [follow, hrow]; exact hg
    obtain ⟨hends, hweak⟩ := after.mem_lookaheads hrow' hconforms fun _ => ⟨mem, weak⟩
    obtain ⟨upper, hphrases, turns, hreduce⟩ := ih hrow hrule hends (hweak.trans high)
    have turn := inside.turn hmem built hphrases hreduce leads
    let link : Link := ⟨g, .nonterminal r.head, p⟩
    have htop : rowAt (Chain.top (link :: ch)) = some row' := hrow'
    obtain ⟨upper', hphrases', turns', hreduce'⟩ := ih' htop hconforms mem weak
    refine ⟨upper' ++ [link], by simp [hphrases', link], ?_, ?_⟩
    · rw [List.append_assoc, List.append_assoc]
      exact (turns.tail turn).trans turns'
    · rwa [List.append_assoc]

private theorem start_row : ∃ row after, rowAt 0 = some row ∧ row.floor = 0 ∧
    row.next (.nonterminal .program) = some 1 ∧ rowAt 1 = some after ∧
      after.lookaheads = [.endMark] :=
  ⟨_, _, rfl, rfl, rfl, rfl, rfl⟩

theorem Reading.finishes {ts : List Token} {p : Phrase} {floor : Nat}
    (h : Reading [⟨.nonterminal .program, floor⟩] ts [p]) :
    ∃ s, Turns ⟨[], ts⟩ s ∧ s.Finished p := by
  obtain ⟨row, after, hrow, hfloor, hgoto, hafter, hends⟩ := start_row
  generalize hn : Nonterminal.program = n at h
  cases h with
  | @rule r number _ _ us _ qs _ _ mem high inside built rest =>
    cases rest
    rw [hn] at hgoto
    have hrule := Row.conforms_rule hrow hgoto hafter mem (by omega)
    have htop : rowAt (Chain.top []) = some row := hrow
    have hlook : look [] ∈ after.lookaheads := by simp [hends, look]
    obtain ⟨upper, hphrases, turns, hreduce⟩ := inside.turns htop hrule hlook (Nat.zero_le _)
    have leads : follow 0 (.nonterminal r.head) = some 1 := by rw [follow, hrow]; exact hgoto
    refine ⟨_, turns.tail (inside.turn mem built hphrases hreduce leads), ?_⟩
    rw [Stage.Finished, hn]

private theorem Sentence.finishes {ts : List Token} (h : Sentence (ts.map Token.kind))
    (fits : ∀ t ∈ ts, t.Fits) : ∃ p s, Turns ⟨[], ts⟩ s ∧ s.Finished p := by
  obtain ⟨ps, reading⟩ := (sentence_iff_spans.1 h).ordered rfl fits
  obtain ⟨p, rfl⟩ := List.length_eq_one_iff.1 reading.length_eq
  exact ⟨p, reading.finishes⟩

end Follow

section Verdict

private theorem exists_fits (k : Terminal) : ∃ t : Token, t.kind = k ∧ t.Fits := by
  by_cases hk : k = .number
  · subst hk
    exact ⟨⟨.number, .number 0, 0, 0⟩, rfl, 0, rfl⟩
  · exact ⟨⟨k, .text "", 0, 0⟩, rfl, Token.fits_text hk "" 0 0⟩

private theorem exists_tokens (w : List Terminal) :
    ∃ ts : List Token, ts.map Token.kind = w ∧ ∀ t ∈ ts, t.Fits := by
  induction w with
  | nil => exact ⟨[], rfl, by simp⟩
  | cons k w ih =>
    obtain ⟨ts, hts, fits⟩ := ih
    obtain ⟨t, rfl, ht⟩ := exists_fits k
    exact ⟨t :: ts, by rw [List.map_cons, hts], List.forall_mem_cons.2 ⟨ht, fits⟩⟩

private theorem not_viable_of_stuck {us rest : List Token} {t : Token} {ch : Chain}
    (fits : ∀ x ∈ us ++ t :: rest, x.Fits) (turns : Turns ⟨[], us ++ t :: rest⟩ ⟨ch, t :: rest⟩)
    (stuck : Stage.action ⟨ch, t :: rest⟩ = none) : ¬ Viable (us.map Token.kind ++ [t.kind]) := by
  rintro ⟨w, sentence⟩
  obtain ⟨vs, rfl, hvs⟩ := exists_tokens w
  rw [List.forall_mem_append, List.forall_mem_cons] at fits
  have hfits : ∀ x ∈ us ++ t :: vs, x.Fits :=
    List.forall_mem_append.2 ⟨fits.1, List.forall_mem_cons.2 ⟨fits.2.1, hvs⟩⟩
  have hkinds : (us ++ t :: vs).map Token.kind =
      us.map Token.kind ++ [t.kind] ++ vs.map Token.kind := by simp
  -- with other tokens after `t` the parse would go on to a program, but it is stuck just the same
  obtain ⟨p, s, hturns, finished⟩ := Sentence.finishes (hkinds ▸ sentence) hfits
  obtain ⟨us', hus', hstuck⟩ := turns.exchange (show look (t :: rest) = look (t :: vs) from rfl)
  obtain rfl := List.append_cancel_right hus'
  have stuck' : Stage.action ⟨ch, t :: vs⟩ = none := stuck
  have heq := Stage.Halted.unique (.inl stuck') (.inr ⟨p, finished⟩) hstuck hturns
  rw [Stage.Finished, ← heq] at finished
  cases finished

/-- What comes of a parse of some tokens without regard to errors. -/
inductive Verdict (ts : List Token) : Prop where
  | sentence {s : Stage} {p : Program} (sentence : Sentence (ts.map Token.kind))
      (turns : Turns ⟨[], ts⟩ s) (finished : s.Finished (.program p)) (filled : p.Filled)
  | offence {us rest : List Token} {t : Token} {ch : Chain} (split : ts = us ++ t :: rest)
      (viable : Viable (us.map Token.kind)) (broken : ¬ Viable (us.map Token.kind ++ [t.kind]))
      (turns : Turns ⟨[], ts⟩ ⟨ch, t :: rest⟩) (stuck : Stage.action ⟨ch, t :: rest⟩ = none)
  | unended {ch : Chain} (viable : Viable (ts.map Token.kind))
      (broken : ¬ Sentence (ts.map Token.kind)) (turns : Turns ⟨[], ts⟩ ⟨ch, []⟩)
      (stuck : Stage.action ⟨ch, []⟩ = none)

theorem verdict {ts : List Token} (fits : ∀ t ∈ ts, t.Fits) : Verdict ts := by
  obtain ⟨s, turns, halted⟩ := (Stage.Sound.start fits).exists_halted
  obtain ⟨us, hus, sound⟩ := turns.sound (Stage.Sound.start fits)
  rw [List.nil_append] at sound
  have hts : ts = us ++ s.ahead := hus
  have viable : Viable (us.map Token.kind) := by
    obtain ⟨v, hv⟩ := sound.linked.exists_completion sound.spans
    exact ⟨v, sentence_iff_spans.2 hv⟩
  rcases halted with stuck | ⟨p, finished⟩
  · obtain ⟨ch, ahead⟩ := s
    cases ahead with
    | nil =>
      rw [List.append_nil] at hts
      subst hts
      refine .unended viable (fun sentence => ?_) turns stuck
      obtain ⟨p, s', turns', finished⟩ := sentence.finishes fits
      have heq := Stage.Halted.unique (.inl stuck) (.inr ⟨p, finished⟩) turns turns'
      rw [heq, finished] at stuck
      exact absurd (action_second.symm.trans stuck) (by simp)
    | cons t rest =>
      have hsplit : ts = us ++ t :: rest := hts
      refine .offence hsplit viable ?_ turns stuck
      rw [hsplit] at fits turns
      exact not_viable_of_stuck fits turns stuck
  · have hprogram := finished
    rw [Stage.Finished] at hprogram
    subst hprogram
    rw [List.append_nil] at hts
    subst hts
    obtain ⟨program, rfl, filled⟩ := sound.admits _ (List.mem_singleton.2 rfl)
    exact .sentence (sentence_iff_spans.2 sound.spans) turns rfl filled

end Verdict

end CallByNeed.Language
