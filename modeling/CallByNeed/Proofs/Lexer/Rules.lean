import CallByNeed.Language.Lexer
import CallByNeed.Proofs.Pattern.Ends
import CallByNeed.Proofs.Scan.Lexeme

set_option autoImplicit false
set_option relaxedAutoImplicit false

/-!
The rules of the language's lexer. The lexer that is built from the language's description tries
them in a fixed order, and the first that fits takes the lexeme that the scanner takes.
-/

namespace CallByNeed.Language

open Pattern (TakesOne single anyChar runLength)

section Table

def triedMarks : List (Terminal × List Char) :=
  [(.or, ['|', '|']), (.lparen, ['(']), (.rparen, [')']), (.lbrace, ['\x7b']), (.rbrace, ['\x7d']),
    (.eq, ['=', '=']), (.greaterEq, ['>', '=']), (.lessEq, ['<', '=']), (.notEq, ['!', '=']),
    (.plus, ['+']), (.minus, ['-']), (.multiply, ['*']), (.and, ['&', '&']), (.comma, [',']),
    (.colon, [':']), (.semi, [';']), (.greater, ['>']), (.less, ['<']), (.assign, ['=']),
    (.divide, ['/']), (.not, ['!'])]

def literal : List Char → Pattern
  | [] => .empty
  | [c] => single c
  | c :: rest => .seq (single c) (literal rest)

def numberPattern : Pattern :=
  .seq (.set ⟨[.members .digit], false⟩) (.star (.set ⟨[.members .digit], false⟩) true)

def wordPattern : Pattern :=
  .seq (.set ⟨[.range 'A' 'Z', .range 'a' 'z', .range '_' '_'], false⟩)
    (.star (.set ⟨[.members .word, .range '_' '_'], false⟩) true)

def newlinePattern : Pattern :=
  .seq (single '\n') (.star (single '\n') true)

def commentEnd : Pattern :=
  .seq (.star (.alt (anyChar {}) (single '\n')) false) (.seq (single '*') (single '/'))

def stringEnd : Pattern :=
  .seq (.star (anyChar {}) false) (single '"')

/-- The rules of the marks. What no other rule takes is a dot. -/
def markRules : List (Pattern × Lexer.Slot) :=
  triedMarks.map (fun m => (literal m.2, .token m.1.label)) ++
    [(anyChar {}, .token Terminal.dot.label)]

def lexerRules : List (Pattern × Lexer.Slot) :=
  (numberPattern, .call "t_NUMBER" "NUMBER") :: (wordPattern, .call "t_NAME" "NAME") ::
    (newlinePattern, .call "t_newline" "newline") ::
    (.seq (single '/') (.seq (single '*') commentEnd), .call "t_comment" "comment") ::
    (.seq (single '"') stringEnd, .call "t_STRING" "STRING") :: markRules

theorem lexer_table :
    (lexer.masters.map fun m => m.rules.map fun r => (r.pattern, r.slot)) = [lexerRules] ∧
      lexer.ignored = " \t" ∧ lexer.onEnd = none ∧
      ∀ t ∈ terminals, lexer.knows t.label = true := by
  decide +kernel

end Table

section Matching

variable {data : Array Char} {i : Nat} {c : Char} {rest : List Char}

private theorem getElem?_of_drop (h : data.toList.drop i = c :: rest) : data[i]? = some c := by
  rw [← Array.getElem?_toList, ← List.head?_drop, h]
  rfl

private theorem drop_of_drop (h : data.toList.drop i = c :: rest) :
    data.toList.drop (i + 1) = rest := by
  rw [← List.tail_drop, h]
  rfl

private theorem contains_range_self (c d : Char) :
    (Pattern.SetItem.range c c).contains d = (d == c) := by
  have same : c ≤ d ∧ d ≤ c ↔ d = c := by
    constructor
    · rintro ⟨low, high⟩
      exact Char.le_antisymm high low
    · rintro rfl
      exact ⟨Char.le_refl d, Char.le_refl d⟩
  rw [Bool.eq_iff_iff, Pattern.SetItem.contains, decide_eq_true_iff, same, beq_iff_eq]

private theorem contains_range {low high d : Char} :
    (Pattern.SetItem.range low high).contains d = true ↔
      low.toNat ≤ d.toNat ∧ d.toNat ≤ high.toNat := by
  rw [Pattern.SetItem.contains, decide_eq_true_iff]
  rfl

private theorem takesOne_single (data : Array Char) (c : Char) :
    TakesOne data (single c) (· == c) := by
  have contains : (Pattern.CharSet.mk [.range c c] false).contains = (· == c) := by
    funext d
    simp [Pattern.CharSet.contains, contains_range_self]
  rw [← contains]
  exact Pattern.takesOne_set data _

private theorem takesOne_anyChar (data : Array Char) :
    TakesOne data (anyChar {}) (· != '\n') := by
  have contains : (Pattern.CharSet.mk [.range '\n' '\n'] true).contains = (· != '\n') := by
    funext d
    simp [Pattern.CharSet.contains, contains_range_self, bne]
  rw [← contains]
  exact Pattern.takesOne_set data _

private theorem takesOne_digit (data : Array Char) :
    TakesOne data (.set ⟨[.members .digit], false⟩) Text.isDigit := by
  have contains : (Pattern.CharSet.mk [.members .digit] false).contains = Text.isDigit := by
    funext d
    simp [Pattern.CharSet.contains, Pattern.SetItem.contains, Pattern.CharClass.contains]
  rw [← contains]
  exact Pattern.takesOne_set data _

private theorem takesOne_wordStart (data : Array Char) :
    TakesOne data (.set ⟨[.range 'A' 'Z', .range 'a' 'z', .range '_' '_'], false⟩) startsWord := by
  have contains : (Pattern.CharSet.mk [.range 'A' 'Z', .range 'a' 'z', .range '_' '_']
      false).contains = startsWord := by
    funext d
    have either : (Pattern.CharSet.mk [.range 'A' 'Z', .range 'a' 'z', .range '_' '_']
        false).contains d = true ↔ startsWord d = true := by
      rw [startsWord, Bool.or_eq_true, isAlpha_iff_toNat, beq_iff_eq]
      simp only [Pattern.CharSet.contains, List.any_cons, List.any_nil, Bool.or_false,
        contains_range_self, Bool.bne_false, Bool.or_eq_true, beq_iff_eq, contains_range]
      have bounds : 'A'.toNat = 65 ∧ 'Z'.toNat = 90 ∧ 'a'.toNat = 97 ∧ 'z'.toNat = 122 := by decide
      rw [bounds.1, bounds.2.1, bounds.2.2.1, bounds.2.2.2]
      tauto
    exact Bool.eq_iff_iff.2 either
  rw [← contains]
  exact Pattern.takesOne_set data _

private theorem takesOne_word (data : Array Char) :
    TakesOne data (.set ⟨[.members .word, .range '_' '_'], false⟩) Text.isWord := by
  have contains : (Pattern.CharSet.mk [.members .word, .range '_' '_'] false).contains =
      Text.isWord := by
    funext d
    have either : (Text.isWord d || d == '_') = Text.isWord d := by
      rw [Text.isWord]
      cases d == '_' <;> simp
    have word : (Pattern.SetItem.members .word).contains d = Text.isWord d := rfl
    simpa [Pattern.CharSet.contains, contains_range_self, word] using either
  rw [← contains]
  exact Pattern.takesOne_set data _

private theorem match?_run {first later : Pattern} {ok ok' : Char → Bool}
    (one : TakesOne data first ok) (one' : TakesOne data later ok')
    (h : data.toList.drop i = c :: rest) :
    (Pattern.seq first (.star later true)).match? data i =
      if ok c then some (i + (c :: rest.takeWhile ok').length) else none := by
  rw [one.match?_seq, getElem?_of_drop h, Option.any_some, one'.match?_many, runLength,
    drop_of_drop h]
  simp only [List.length_cons]
  split
  · congr 1
    omega
  · rfl

private theorem match?_literal (data : Array Char) (i : Nat) (text : List Char) :
    (literal text).match? data i =
      if text.isPrefixOf (data.toList.drop i) then some (i + text.length) else none := by
  have head : data[i]? = (data.toList.drop i).head? := by
    rw [List.head?_drop, Array.getElem?_toList]
  induction text generalizing i with
  | nil => rfl
  | cons c text ih =>
    cases hdrop : data.toList.drop i with
    | nil =>
      cases text with
      | nil => simp [literal, (takesOne_single data c).match?_eq, head, hdrop]
      | cons d text => simp [literal, (takesOne_single data c).match?_seq, head, hdrop]
    | cons e rest =>
      cases text with
      | nil =>
        rw [literal, (takesOne_single data c).match?_eq, head, hdrop]
        by_cases hc : e = c
        · simp [hc]
        · simp [hc, Ne.symm hc]
      | cons d text =>
        have next := ih (i + 1) (by rw [List.head?_drop, Array.getElem?_toList])
        rw [literal, (takesOne_single data c).match?_seq, next, drop_of_drop hdrop, head, hdrop]
        by_cases hc : e = c
        · simp [hc, Nat.add_assoc, Nat.add_comm]
        · simp [hc, Ne.symm hc]
        · exact List.cons_ne_nil d text

private theorem match?_commentEnd {text : List Char} (h : data.toList.drop i = text) :
    commentEnd.match? data i = (closeComment text).map fun x => i + x.1.length := by
  have one : TakesOne data (.alt (anyChar {}) (single '\n')) fun c => c != '\n' || c == '\n' :=
    Pattern.takesOne_alt (takesOne_anyChar data) (takesOne_single data '\n') fun c hc => by
      simpa using hc
  have closes : (Pattern.seq (single '*') (single '/')) = literal ['*', '/'] := rfl
  have step (i : Nat) : commentEnd.match? data i =
      (if ['*', '/'].isPrefixOf (data.toList.drop i) then some (i + 2) else none).or
        (if (data[i]?).any (fun c => c != '\n' || c == '\n') then commentEnd.match? data (i + 1)
          else none) := by
    rw [commentEnd, one.match?_few, closes, match?_literal]
    rfl
  induction text using closeComment.induct generalizing i with
  | case1 =>
    have outside : data[i]? = none := by
      rw [← Array.getElem?_toList, ← List.head?_drop, h]
      rfl
    rw [step, h, outside]
    rfl
  | case2 rest =>
    rw [step, h]
    rfl
  | case3 c rest first ih =>
    rw [step, h, getElem?_of_drop h, ih (drop_of_drop h), closeComment]
    · have off : ['*', '/'].isPrefixOf (c :: rest) = false := by
        rw [Bool.eq_false_iff]
        intro closed
        obtain ⟨after, hafter⟩ := List.isPrefixOf_iff_prefix.1 closed
        obtain ⟨rfl, rfl⟩ := List.cons.inj hafter
        exact first after rfl rfl
      have anything : (c != '\n' || c == '\n') = true := by
        by_cases hc : c = '\n' <;> simp [hc]
      rw [off, Option.any_some, anything]
      cases closeComment rest with
      | none => rfl
      | some pair => simp [Nat.add_assoc, Nat.add_comm 1]
    · exact first

private theorem match?_stringEnd {text : List Char} (h : data.toList.drop i = text) :
    stringEnd.match? data i = (closeString text).map fun x => i + (x.1.length + 1) := by
  have step (i : Nat) : stringEnd.match? data i =
      (if ['"'].isPrefixOf (data.toList.drop i) then some (i + 1) else none).or
        (if (data[i]?).any (· != '\n') then stringEnd.match? data (i + 1) else none) := by
    rw [stringEnd, (takesOne_anyChar data).match?_few]
    have closes : single '"' = literal ['"'] := rfl
    rw [closes, match?_literal]
    rfl
  induction text using closeString.induct generalizing i with
  | case1 =>
    have outside : data[i]? = none := by
      rw [← Array.getElem?_toList, ← List.head?_drop, h]
      rfl
    rw [step, h, outside]
    rfl
  | case2 rest =>
    rw [step, h]
    rfl
  | case3 rest =>
    rw [step, h, getElem?_of_drop h]
    rfl
  | case4 c rest quote line ih =>
    rw [step, h, getElem?_of_drop h, ih (drop_of_drop h), closeString]
    · have off : ['"'].isPrefixOf (c :: rest) = false := by
        simp [List.isPrefixOf, Ne.symm quote]
      have inside : (c != '\n') = true := by simpa using line
      rw [off, Option.any_some, inside]
      cases closeString rest with
      | none => rfl
      | some pair => simp [Nat.add_assoc, Nat.add_comm 1]
    · exact quote
    · exact line

def soleKinds : List (Char × Terminal) :=
  [('(', .lparen), (')', .rparen), ('\x7b', .lbrace), ('\x7d', .rbrace), ('+', .plus), ('-', .minus),
    ('*', .multiply), (',', .comma), (':', .colon), (';', .semi), ('>', .greater), ('<', .less),
    ('=', .assign), ('/', .divide), ('!', .not)]

private theorem markKind_eq_lookup (c : Char) : markKind c = (soleKinds.lookup c).getD .dot := by
  unfold markKind
  split
  iterate 15 rfl
  simp_all [soleKinds, List.lookup_cons, beq_false_of_ne]

def Lexeme.slot : Lexeme → Lexer.Slot
  | .number _ => .call "t_NUMBER" "NUMBER"
  | .word _ => .call "t_NAME" "NAME"
  | .newlines _ => .call "t_newline" "newline"
  | .comment _ => .call "t_comment" "comment"
  | .string _ => .call "t_STRING" "STRING"
  | .mark kind _ => .token kind.label

def firstRule? (data : Array Char) (i : Nat) (rules : List (Pattern × Lexer.Slot)) :
    Option (Lexer.Slot × Nat) :=
  rules.findSome? fun rule => (rule.1.match? data i).map fun stop => (rule.2, stop)

private theorem firstRule?_cons (rule : Pattern × Lexer.Slot) (rules : List (Pattern × Lexer.Slot)) :
    firstRule? data i (rule :: rules) =
      ((rule.1.match? data i).map fun stop => (rule.2, stop)).or (firstRule? data i rules) := by
  rw [firstRule?, List.findSome?_cons]
  cases (rule.1.match? data i).map fun stop => (rule.2, stop) <;> rfl

private theorem findSome?_triedMarks (c : Char) (rest : List Char) (i : Nat) :
    (triedMarks.findSome? fun m => if m.2.isPrefixOf (c :: rest) then
        some (Lexer.Slot.token m.1.label, i + m.2.length) else none).or
      (some (.token Terminal.dot.label, i + 1)) =
    some ((takeMark c rest).1.slot, i + (takeMark c rest).1.text.length) := by
  unfold takeMark
  split
  iterate 6 rfl
  · rename_i or eq ge le ne and
    have pair {a b : Char} (h : ∀ after, c = a → rest = b :: after → False) :
        [a, b].isPrefixOf (c :: rest) = false := by
      rw [Bool.eq_false_iff]
      intro starts
      obtain ⟨after, hafter⟩ := List.isPrefixOf_iff_prefix.1 starts
      obtain ⟨rfl, rfl⟩ := List.cons.inj hafter
      exact h after rfl rfl
    have single (a : Char) : [a].isPrefixOf (c :: rest) = (a == c) := by simp [List.isPrefixOf]
    have spelled : triedMarks.findSome? (fun m => if m.2.isPrefixOf (c :: rest) then
        some (Lexer.Slot.token m.1.label, i + m.2.length) else none) =
        (soleKinds.lookup c).map fun kind => (Lexer.Slot.token kind.label, i + 1) := by
      simp only [triedMarks, List.findSome?_cons, pair or, pair eq, pair ge, pair le, pair ne,
        pair and, single]
      by_cases mem : c ∈ soleKinds.map Prod.fst
      · simp only [soleKinds, List.map_cons, List.map_nil, List.mem_cons, List.not_mem_nil,
          or_false] at mem
        rcases mem with rfl | rfl | rfl | rfl | rfl | rfl | rfl | rfl | rfl | rfl | rfl | rfl | rfl |
          rfl | rfl <;> rfl
      · simp only [soleKinds, List.map_cons, List.map_nil, List.mem_cons, List.not_mem_nil,
          or_false, not_or] at mem
        simp [soleKinds, List.lookup_cons, beq_false_of_ne, mem, Ne.symm]
    rw [spelled, Lexeme.slot, Lexeme.text, markKind_eq_lookup]
    cases soleKinds.lookup c <;> rfl

private theorem firstRule?_markRules (h : data.toList.drop i = c :: rest) (line : c ≠ '\n') :
    firstRule? data i markRules =
      some ((takeMark c rest).1.slot, i + (takeMark c rest).1.text.length) := by
  have dot : (anyChar {}).match? data i = some (i + 1) := by
    rw [(takesOne_anyChar data).match?_eq, getElem?_of_drop h]
    simp [line]
  rw [firstRule?, markRules, List.findSome?_append, List.findSome?_singleton, dot,
    List.findSome?_map, ← findSome?_triedMarks]
  refine congrArg (fun f => Option.or (List.findSome? f triedMarks) _) (funext fun m => ?_)
  rw [Function.comp_apply, match?_literal, h]
  by_cases starts : m.2.isPrefixOf (c :: rest) = true
  · simp [starts]
  · simp [starts]

private theorem takeDelimited_other (slash : c = '/' → ∀ inside, rest ≠ '*' :: inside)
    (quote : c ≠ '"') : takeDelimited c rest = takeMark c rest := by
  unfold takeDelimited
  split
  · exact absurd rfl (slash rfl _)
  · exact absurd rfl quote
  · rfl

/-- Where no number, word or line feed stands the rules of comments, strings and marks decide. -/
private theorem firstRule?_delimited (h : data.toList.drop i = c :: rest) (line : c ≠ '\n') :
    firstRule? data i ((.seq (single '/') (.seq (single '*') commentEnd),
        .call "t_comment" "comment") :: (.seq (single '"') stringEnd, .call "t_STRING" "STRING") ::
        markRules) =
      some ((takeDelimited c rest).1.slot, i + (takeDelimited c rest).1.text.length) := by
  have comment (q : Pattern) : (Pattern.seq (single '/') q).match? data i =
      if c = '/' then q.match? data (i + 1) else none := by
    simp [(takesOne_single data '/').match?_seq, getElem?_of_drop h]
  have string : (Pattern.seq (single '"') stringEnd).match? data i =
      if c = '"' then (closeString rest).map (fun x => i + 1 + (x.1.length + 1)) else none := by
    simp [(takesOne_single data '"').match?_seq, getElem?_of_drop h,
      match?_stringEnd (drop_of_drop h)]
  simp only [firstRule?_cons, comment, string, firstRule?_markRules h line]
  by_cases slash : c = '/'
  · subst slash
    simp only [if_true, Char.reduceEq, if_false, Option.map_none, Option.none_or]
    cases rest with
    | nil =>
      have off : ((single '*').seq commentEnd).match? data (i + 1) = none := by
        rw [(takesOne_single data '*').match?_seq, ← Array.getElem?_toList, ← List.head?_drop,
          drop_of_drop h]
        rfl
      rw [off, takeDelimited_other (fun _ _ h => by cases h) (by decide)]
      rfl
    | cons d inside =>
      have opened := drop_of_drop h
      rw [(takesOne_single data '*').match?_seq, getElem?_of_drop opened,
        match?_commentEnd (drop_of_drop opened)]
      by_cases star : d = '*'
      · subst star
        simp only [takeDelimited]
        cases closeComment inside with
        | none => rfl
        | some x =>
          have length : i + 1 + 1 + x.1.length = i + ('/' :: '*' :: x.1).length := by
            simp only [List.length_cons]
            omega
          exact congrArg (fun n => some (Lexer.Slot.call "t_comment" "comment", n)) length
      · rw [takeDelimited_other (by simp [star]) (by decide)]
        simp [star]
  · by_cases quote : c = '"'
    · subst quote
      simp only [takeDelimited]
      cases closeString rest with
      | none => simp
      | some x => simp [Lexeme.slot, Lexeme.text, Nat.add_assoc, Nat.add_comm]
    · rw [takeDelimited_other (fun h => absurd h slash) quote]
      simp [slash, quote]

theorem firstRule?_lexerRules (h : data.toList.drop i = c :: rest) :
    firstRule? data i lexerRules =
      some ((takeLexeme c rest).1.slot, i + (takeLexeme c rest).1.text.length) := by
  have number : numberPattern.match? data i = _ :=
    match?_run (takesOne_digit data) (takesOne_digit data) h
  have word : wordPattern.match? data i = _ :=
    match?_run (takesOne_wordStart data) (takesOne_word data) h
  have newline : newlinePattern.match? data i = _ :=
    match?_run (takesOne_single data '\n') (takesOne_single data '\n') h
  rw [lexerRules, firstRule?_cons, firstRule?_cons, firstRule?_cons]
  simp only [number, word, newline]
  unfold takeLexeme
  by_cases digit : Text.isDigit c = true
  · simp [digit, Lexeme.slot, Lexeme.text]
  by_cases starts : startsWord c = true
  · simp [digit, starts, Lexeme.slot, Lexeme.text]
  by_cases line : c = '\n'
  · subst line
    simp [digit, starts, Lexeme.slot, Lexeme.text]
  · rw [firstRule?_delimited h line]
    simp [digit, starts, line]

end Matching

end CallByNeed.Language
