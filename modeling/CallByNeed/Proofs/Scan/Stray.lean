import CallByNeed.Proofs.Parse.Names
import CallByNeed.Proofs.Scan.Lexeme

set_option autoImplicit false
set_option relaxedAutoImplicit false

/-!
Stray characters. At a character that starts no token of the language the scanner takes a dot, so
the dots of a name may be written in other ways. They are written as dots exactly where the source
text has no stray character.
-/

namespace CallByNeed.Language

def soleMarks : List Char :=
  ['.', '(', ')', '{', '}', '+', '-', '*', ',', ':', ';', '>', '<', '=', '/', '!']

/-- A token of the language can be written at the start of the text. -/
inductive BeginsToken : List Char → Prop where
  | number {c : Char} {s : List Char} (digit : Text.isDigit c = true) : BeginsToken (c :: s)
  | word {c : Char} {s : List Char} (starts : startsWord c = true) : BeginsToken (c :: s)
  | string {body s : List Char} (line : '\n' ∉ body) : BeginsToken ('"' :: (body ++ '"' :: s))
  | pair {kind : Terminal} {a b : Char} {s : List Char} (mem : (kind, a, b) ∈ pairMarks) :
      BeginsToken (a :: b :: s)
  | sole {c : Char} {s : List Char} (mem : c ∈ soleMarks) : BeginsToken (c :: s)

private theorem markKind_of_not_mem {c : Char} (h : c ∉ soleMarks) : markKind c = .dot := by
  unfold markKind
  split
  iterate 15 exact absurd (by decide) h
  rfl

private theorem eq_dot_of_markKind {c : Char} (mem : c ∈ soleMarks) (h : markKind c = .dot) :
    c = '.' := by
  have hall : soleMarks.all fun x => markKind x = .dot → x = '.' := by decide
  exact of_decide_eq_true (List.all_eq_true.1 hall c mem) h

private theorem Takes.dot_cases {s after : List Char} {l : Lexeme} {line pos : Nat} {t : Token}
    (h : Takes s l after) (gives : l.token? line pos = .ok (some t)) :
    (BeginsToken s ∧ (t.kind = .dot → s.head? = some '.' ∧ t.payload = .text ".")) ∨
    (¬ BeginsToken s ∧ t.kind = .dot ∧
      ∃ c, s.head? = some c ∧ c ≠ '.' ∧ t.payload = .text (String.ofList [c])) := by
  cases h with
  | number digits stop =>
    have kind : t.kind = .number := by
      simp only [Lexeme.token?] at gives
      split at gives <;> cases gives
      rfl
    exact .inl ⟨.number (digits _ List.mem_cons_self), fun dot => by simp [kind] at dot⟩
  | word starts all stop =>
    cases gives
    exact .inl ⟨.word starts, fun kind => absurd kind (ofWord_ne (by decide) _)⟩
  | newlines all stop => cases gives
  | comment unclosed => cases gives
  | string quote hline =>
    cases gives
    exact .inl ⟨.string hline, fun kind => by cases kind⟩
  | pair mem =>
    cases gives
    have hall : ∀ x ∈ pairMarks, x.1 ≠ .dot := by decide
    exact .inl ⟨.pair mem, fun kind => absurd kind (hall _ mem)⟩
  | @single c rest digit word hline comment string pair =>
    cases gives
    by_cases sole : c ∈ soleMarks
    · refine .inl ⟨.sole sole, fun kind => ?_⟩
      obtain rfl := eq_dot_of_markKind sole kind
      exact ⟨rfl, rfl⟩
    · refine .inr ⟨?_, markKind_of_not_mem sole, c, rfl, ?_, rfl⟩
      · intro begins
        cases begins with
        | number isDigit => simp [isDigit] at digit
        | word starts => simp [starts] at word
        | string unbroken => exact unbroken (string rfl _ _ rfl)
        | pair mem => exact pair _ rfl _ mem
        | sole mem => exact sole mem
      · rintro rfl
        exact sole (by decide)

private theorem dot_cases_of_mem_scan {source : String} {t : Token}
    (mem : t ∈ (scan source).tokens) :
    (BeginsToken (source.toList.drop t.pos) ∧
      (t.kind = .dot → source.toList[t.pos]? = some '.' ∧ t.payload = .text ".")) ∨
    (¬ BeginsToken (source.toList.drop t.pos) ∧ t.kind = .dot ∧
      ∃ c, source.toList[t.pos]? = some c ∧ c ≠ '.' ∧ t.payload = .text (String.ofList [c])) := by
  obtain ⟨before, place, l, after, hs, -, hpos, -, takes, gives⟩ :=
    (scans_scanFrom 1 0 source.toList).arises t mem
  have hplace : source.toList.drop t.pos = place := by
    rw [hs, hpos, Nat.zero_add, List.drop_left]
  rw [← List.head?_drop, hplace]
  exact takes.dot_cases gives

private theorem exists_parsed {source : String} {names : List String}
    (h : (parse source).result.toOption.map (fun p => p.toTree.names) = some names) :
    ∃ p, (parse source).result = .ok p ∧ p.toTree.names = names := by
  obtain ⟨p, hp, hnames⟩ := Option.map_eq_some_iff.1 h
  cases hresult : (parse source).result with
  | error e =>
    rw [hresult] at hp
    cases hp
  | ok q =>
    rw [hresult] at hp
    cases hp
    exact ⟨p, rfl, hnames⟩

/-- The scanner takes every stray character for a dot. A token that counts as a dot is written as one
exactly if a token of the language can be written at its place. So the tokens of a name in a parsed
program are worded as the name exactly if none of them is a stray character. -/
theorem dots_written_or_stray (source : String) :
    (∀ t ∈ (scan source).tokens,
      (¬ BeginsToken (source.toList.drop t.pos) → t.kind = .dot) ∧
      (t.kind = .dot → ∃ c, source.toList[t.pos]? = some c ∧ t.payload = .text (String.ofList [c]) ∧
        (c = '.' ↔ BeginsToken (source.toList.drop t.pos)))) ∧
    ∀ p, (parse source).result = .ok p → ∀ n ∈ p.toTree.names,
      ∃ us, us <:+: (scan source).tokens ∧ Path us n ∧
        (wording us = n ↔ ∀ t ∈ us, BeginsToken (source.toList.drop t.pos)) := by
  refine ⟨fun t mem => ?_, fun p parsed n named => ?_⟩
  · rcases dot_cases_of_mem_scan mem with ⟨begins, dot⟩ | ⟨stray, kind, c, hc, hne, text⟩
    · refine ⟨fun stray => absurd begins stray, fun kind => ?_⟩
      obtain ⟨hc, text⟩ := dot kind
      exact ⟨'.', hc, text, by simp [begins]⟩
    · exact ⟨fun _ => kind, fun _ => ⟨c, hc, text, by simp [hne, stray]⟩⟩
  · obtain ⟨us, hus, path⟩ := exists_path_of_parse parsed named
    have hcases := fun t (ht : t ∈ us) => dot_cases_of_mem_scan (hus.mem ht)
    have single : SingleDots us := by
      intro d hd kind
      rcases hcases d hd with ⟨-, dot⟩ | ⟨-, -, c, -, -, text⟩
      · exact ⟨'.', (dot kind).2⟩
      · exact ⟨c, text⟩
    refine ⟨us, hus, path, (path.wording_eq_iff single).trans ⟨fun written t ht => ?_,
      fun begins d hd kind => ?_⟩⟩
    · rcases hcases t ht with ⟨begins, -⟩ | ⟨-, kind, c, -, hne, text⟩
      · exact begins
      · rw [written t ht kind] at text
        exact absurd (Payload.singleton_inj text).symm hne
    · rcases hcases d hd with ⟨-, dot⟩ | ⟨stray, -⟩
      · exact (dot kind).2
      · exact absurd (begins d hd) stray

theorem dots_written_or_stray_dotted :
    ∃ us, us <:+: (scan "func main() \x7b a.b = 1; \x7d").tokens ∧ Path us "a.b" ∧
      wording us = "a.b" := by
  obtain ⟨p, parsed, names⟩ : ∃ p, (parse "func main() \x7b a.b = 1; \x7d").result = .ok p ∧
      p.toTree.names = ["main", "a.b"] := exists_parsed (by decide +kernel)
  have written : ∀ t ∈ (scan "func main() \x7b a.b = 1; \x7d").tokens, t.kind = .dot →
      t.payload = .text "." := by decide +kernel
  obtain ⟨dots, paths⟩ := dots_written_or_stray "func main() \x7b a.b = 1; \x7d"
  obtain ⟨us, hus, path, hwording⟩ := paths p parsed "a.b" (by simp [names])
  refine ⟨us, hus, path, hwording.2 fun t ht => ?_⟩
  have mem := hus.mem ht
  by_contra stray
  have kind := (dots t mem).1 stray
  obtain ⟨c, -, text, hc⟩ := (dots t mem).2 kind
  rw [written t mem kind] at text
  exact stray (hc.1 (Payload.singleton_inj text).symm)

/-- A name with a dot comes from a source text without one: a stray character was taken for it. -/
theorem stray_character_read_as_dot :
    (∃ t ∈ (scan "func main() \x7b a#b = 1; \x7d").tokens,
      t.kind = .dot ∧ t.payload = .text "#") ∧
    '.' ∉ "func main() \x7b a#b = 1; \x7d".toList ∧
    ∃ p, (parse "func main() \x7b a#b = 1; \x7d").result = .ok p ∧ "a.b" ∈ p.toTree.names := by
  refine ⟨by decide +kernel, by decide, ?_⟩
  obtain ⟨p, parsed, names⟩ : ∃ p, (parse "func main() \x7b a#b = 1; \x7d").result = .ok p ∧
      p.toTree.names = ["main", "a.b"] := exists_parsed (by decide +kernel)
  exact ⟨p, parsed, by simp [names]⟩

end CallByNeed.Language
