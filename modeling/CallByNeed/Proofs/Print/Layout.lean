import CallByNeed.Proofs.Print.Spelling

set_option autoImplicit false
set_option relaxedAutoImplicit false

/-!
Signs laid out as text. Blanks and line feeds stand anywhere between signs, and have to where two
signs would run together. However the signs are laid out, the scanner finds them again.
-/

namespace CallByNeed.Language

section Text

def Terminal.isWord (kind : Terminal) : Bool :=
  kind == .name || (reservedWords.map Prod.snd).contains kind

def Sign.text (g : Sign) : List Char :=
  match g with
  | (_, .number n) => Nat.toDigits 10 n
  | (.string, .text s) => '"' :: (s.toList ++ ['"'])
  | (_, .text s) => s.toList

/-- Whether the sign ends before the character, which is not taken for a part of it. -/
def Sign.endsBefore (g : Sign) (c : Char) : Bool :=
  match g.1 with
  | .number => !Text.isDigit c
  | .string => true
  | .assign | .greater | .less | .not => c != '='
  | .divide => c != '*'
  | kind => !(kind.isWord && Text.isWord c)

/-- Whether the character may stand between signs. -/
def isGap (c : Char) : Bool :=
  c == ' ' || c == '\t' || c == '\n'

/-- A text with the signs in it, and nothing else but blanks and line feeds. -/
inductive Layout : List Sign → List Char → Prop where
  | nil : Layout [] []
  | blank {signs : List Sign} {c : Char} {s : List Char} (gap : isGap c = true)
      (rest : Layout signs s) : Layout signs (c :: s)
  | sign {g : Sign} {signs : List Sign} {s : List Char}
      (ends : ∀ c ∈ s.head?, Sign.endsBefore g c = true) (rest : Layout signs s) :
      Layout (g :: signs) (g.text ++ s)

def Sign.lexeme (g : Sign) : Lexeme :=
  match g with
  | (_, .number n) => .number (Nat.toDigits 10 n)
  | (.string, .text s) => .string s.toList
  | (kind, .text s) => if kind.isWord then .word s.toList else .mark kind s.toList

end Text

section Lexemes

theorem takeWhile_append_stop {p : Char → Bool} {cs rest : List Char} (all : ∀ x ∈ cs, p x = true)
    (stop : ∀ c ∈ rest.head?, p c = false) :
    (cs ++ rest).takeWhile p = cs ∧ (cs ++ rest).dropWhile p = rest := by
  have hrest : rest.takeWhile p = [] ∧ rest.dropWhile p = rest := by
    cases rest with
    | nil => exact ⟨rfl, rfl⟩
    | cons c rest =>
      have hc := stop c rfl
      simp [hc]
  rw [List.takeWhile_append_of_pos all, List.dropWhile_append_of_pos all, hrest.1, hrest.2]
  exact ⟨List.append_nil cs, rfl⟩

theorem takeLexeme_digits {c : Char} {cs rest : List Char}
    (all : ∀ x ∈ c :: cs, Text.isDigit x = true) (stop : ∀ x ∈ rest.head?, Text.isDigit x = false) :
    takeLexeme c (cs ++ rest) = (.number (c :: cs), rest) := by
  rw [List.forall_mem_cons] at all
  obtain ⟨htake, hdrop⟩ := takeWhile_append_stop all.2 stop
  rw [takeLexeme, if_pos all.1, htake, hdrop]

theorem isAlpha_iff_toNat {c : Char} :
    c.isAlpha = true ↔ 65 ≤ c.toNat ∧ c.toNat ≤ 90 ∨ 97 ≤ c.toNat ∧ c.toNat ≤ 122 := by
  have hupper : c.isUpper = decide (65 ≤ c.toNat ∧ c.toNat ≤ 90) := rfl
  have hlower : c.isLower = (decide (97 ≤ c.toNat) && decide (c.toNat ≤ 122)) := rfl
  have halpha : c.isAlpha = (c.isUpper || c.isLower) := rfl
  simp [halpha, hupper, hlower]

private theorem not_isDigit_of_startsWord {c : Char} (h : startsWord c = true) :
    Text.isDigit c = false := by
  rw [startsWord, Bool.or_eq_true, beq_iff_eq, isAlpha_iff_toNat] at h
  rcases h with rfl | h
  · rfl
  · have hdigit : ¬(48 ≤ c.toNat ∧ c.toNat ≤ 57) := by omega
    have hhigh : ¬ 128 ≤ c.toNat := by omega
    have hplain : c.isDigit ≠ true := fun hc => hdigit (Char.isDigit_iff_toNat.1 hc)
    simp [Text.isDigit, hplain, hhigh]

theorem takeLexeme_word {c : Char} {cs rest : List Char} (starts : startsWord c = true)
    (all : ∀ x ∈ cs, Text.isWord x = true) (stop : ∀ x ∈ rest.head?, Text.isWord x = false) :
    takeLexeme c (cs ++ rest) = (.word (c :: cs), rest) := by
  obtain ⟨htake, hdrop⟩ := takeWhile_append_stop all stop
  have hdigit := not_isDigit_of_startsWord starts
  rw [takeLexeme, if_neg (by simp [hdigit]), if_pos starts, htake, hdrop]

private theorem closeString_append {body rest : List Char} (quote : '"' ∉ body)
    (line : '\n' ∉ body) :
    closeString (body ++ '"' :: rest) = some (body, rest) := by
  induction body with
  | nil => rfl
  | cons c body ih =>
    rw [List.mem_cons, not_or] at quote line
    rw [List.cons_append, closeString, ih quote.2 line.2]
    · rfl
    · exact Ne.symm quote.1
    · exact Ne.symm line.1

private theorem takeLexeme_mark {c : Char} {rest : List Char} (digit : Text.isDigit c = false)
    (word : startsWord c = false) (line : c ≠ '\n') (quote : c ≠ '"')
    (comment : c = '/' → ∀ x ∈ rest.head?, x ≠ '*') : takeLexeme c rest = takeMark c rest := by
  rw [takeLexeme, if_neg (by simp [digit]), if_neg (by simp [word]), if_neg line]
  unfold takeDelimited
  split
  · exact absurd rfl (comment rfl '*' rfl)
  · exact absurd rfl quote
  · rfl

private theorem takeMark_single {c : Char} {rest : List Char} (bar : c ≠ '|') (amp : c ≠ '&')
    (equal : c ∈ ['=', '>', '<', '!'] → ∀ x ∈ rest.head?, x ≠ '=') :
    takeMark c rest = (.mark (markKind c) [c], rest) := by
  unfold takeMark
  split
  · exact absurd rfl bar
  · exact absurd rfl (equal (by simp) '=' rfl)
  · exact absurd rfl (equal (by simp) '=' rfl)
  · exact absurd rfl (equal (by simp) '=' rfl)
  · exact absurd rfl (equal (by simp) '=' rfl)
  · exact absurd rfl amp
  · rfl

private theorem takeLexeme_single {c : Char} {rest : List Char}
    (plain : Text.isDigit c = false ∧ startsWord c = false ∧ c ∉ ['\n', '"', '|', '&'])
    (equal : c ∈ ['=', '>', '<', '!'] → ∀ x ∈ rest.head?, x ≠ '=')
    (comment : c = '/' → ∀ x ∈ rest.head?, x ≠ '*') :
    takeLexeme c rest = (.mark (markKind c) [c], rest) := by
  obtain ⟨digit, word, other⟩ := plain
  simp only [List.mem_cons, List.not_mem_nil, or_false, not_or] at other
  obtain ⟨line, quote, bar, amp⟩ := other
  rw [takeLexeme_mark digit word line quote comment, takeMark_single bar amp equal]

private theorem isDigit_toDigits (n : Nat) : ∀ c ∈ Nat.toDigits 10 n, Text.isDigit c = true := by
  intro c hc
  have hdigit := Nat.isDigit_of_mem_toDigits (by decide) (by decide) hc
  simp [Text.isDigit, hdigit]

private theorem not_isGap_of_isDigit {c : Char} (h : Text.isDigit c = true) : isGap c = false := by
  simp only [isGap, Bool.or_eq_false_iff, beq_eq_false_iff_ne]
  refine ⟨⟨?_, ?_⟩, ?_⟩ <;> rintro rfl <;> exact absurd h (by decide)

private theorem not_isGap_of_startsWord {c : Char} (h : startsWord c = true) : isGap c = false := by
  simp only [isGap, Bool.or_eq_false_iff, beq_eq_false_iff_ne]
  refine ⟨⟨?_, ?_⟩, ?_⟩ <;> rintro rfl <;> exact absurd h (by decide)

private theorem takeLexeme_number (n : Nat) {rest : List Char}
    (stop : ∀ x ∈ rest.head?, Text.isDigit x = false) :
    ∃ c cs, Nat.toDigits 10 n = c :: cs ∧ isGap c = false ∧
      takeLexeme c (cs ++ rest) = (.number (Nat.toDigits 10 n), rest) := by
  have hdigits := isDigit_toDigits n
  obtain ⟨c, cs, hcs⟩ := List.exists_cons_of_ne_nil (Nat.toDigits_ne_nil (n := n) (b := 10))
  rw [hcs] at hdigits ⊢
  exact ⟨c, cs, rfl, not_isGap_of_isDigit (hdigits c List.mem_cons_self),
    takeLexeme_digits hdigits stop⟩

theorem takeLexeme_string {body : List Char} (quote : '"' ∉ body) (line : '\n' ∉ body)
    (rest : List Char) : takeLexeme '"' (body ++ '"' :: rest) = (.string body, rest) := by
  have htake : takeLexeme '"' (body ++ '"' :: rest) = takeDelimited '"' (body ++ '"' :: rest) :=
    rfl
  rw [htake]
  simp [takeDelimited, closeString_append quote line]

private theorem takeLexeme_sign {g : Sign} (valid : Sign.Valid g) {rest : List Char}
    (ends : ∀ c ∈ rest.head?, Sign.endsBefore g c = true) :
    ∃ c cs, Sign.text g = c :: cs ∧ isGap c = false ∧
      takeLexeme c (cs ++ rest) = (Sign.lexeme g, rest) := by
  obtain ⟨kind, payload⟩ := g
  cases payload with
  | number n =>
    cases kind with
    | number => exact takeLexeme_number n fun x hx => by simpa [Sign.endsBefore] using ends x hx
    | _ => exact absurd valid id
  | text s =>
    cases kind with
    | number => exact absurd valid id
    | name =>
      obtain ⟨-, c, cs, hs, starts, all⟩ := valid
      have stop : ∀ x ∈ rest.head?, Text.isWord x = false := fun x hx => by
        simpa [Sign.endsBefore, Terminal.isWord] using ends x hx
      refine ⟨c, cs, hs, not_isGap_of_startsWord starts, ?_⟩
      rw [takeLexeme_word starts all stop, ← hs]
      rfl
    | string =>
      refine ⟨'"', s.toList ++ ['"'], rfl, rfl, ?_⟩
      rw [List.append_assoc]
      exact takeLexeme_string valid.1 valid.2 rest
    | kVar | kFunc | kIf | kElse | kFor | kReturn | kTrue | kFalse | kNil | kStruct | kNew | kTry
    | kCatch | kRaise =>
      have hs : s = _ := valid
      subst hs
      have stop : ∀ x ∈ rest.head?, Text.isWord x = false := fun x hx => by
        have hx : (!(true && Text.isWord x)) = true := ends x hx
        simpa using hx
      exact ⟨_, _, rfl, rfl, takeLexeme_word (by decide) (List.all_eq_true.1 (by decide)) stop⟩
    | lparen | rparen | lbrace | rbrace | comma | colon | semi | plus | minus | multiply | dot =>
      have hs : s = _ := valid
      subst hs
      exact ⟨_, [], rfl, rfl, takeLexeme_single (by decide)
        (fun h => absurd h (by decide)) fun h => absurd h (by decide)⟩
    | assign | greater | less | not =>
      have hs : s = _ := valid
      subst hs
      have equal : ∀ x ∈ rest.head?, x ≠ '=' := fun x hx => by
        have hx : (x != '=') = true := ends x hx
        simpa using hx
      exact ⟨_, [], rfl, rfl, takeLexeme_single (by decide)
        (fun _ => equal) fun h => absurd h (by decide)⟩
    | divide =>
      have hs : s = _ := valid
      subst hs
      have comment : ∀ x ∈ rest.head?, x ≠ '*' := fun x hx => by
        have hx : (x != '*') = true := ends x hx
        simpa using hx
      exact ⟨_, [], rfl, rfl, takeLexeme_single (by decide)
        (fun h => absurd h (by decide)) fun _ => comment⟩
    | eq | notEq | greaterEq | lessEq | and | or =>
      have hs : s = _ := valid
      subst hs
      exact ⟨_, [_], rfl, rfl, takeLexeme_mark (by decide) (by decide) (by decide) (by decide)
        fun h => absurd h (by decide)⟩

private theorem digitsValue_toDigits (n : Nat) : Text.digitsValue (Nat.toDigits 10 n) = n := by
  have hvalue : ∀ c ∈ Nat.toDigits 10 n, Text.digitValue c = c.toNat - '0'.toNat := by
    intro c hc
    have hdigit := Nat.isDigit_of_mem_toDigits (by decide) (by decide) hc
    have hle : c.toNat ≤ 57 := (Char.isDigit_iff_toNat.1 hdigit).2
    have hlt : c.toNat < 128 := by omega
    exact if_pos hlt
  calc Text.digitsValue (Nat.toDigits 10 n)
      = (Nat.toDigits 10 n).foldl (fun sofar c => 10 * sofar + (c.toNat - '0'.toNat)) 0 :=
        List.foldl_ext _ _ _ fun sofar c hc => by rw [hvalue c hc]
    _ = Nat.ofDigitChars 10 (Nat.toDigits 10 n) 0 := Nat.ofDigitChars_eq_foldl.symm
    _ = n := Nat.ofDigitChars_ten_toDigits

private theorem token_lexeme {g : Sign} (valid : Sign.Valid g) (line pos : Nat) :
    (Sign.lexeme g).token? line pos = .ok (some ⟨g.1, g.2, line, pos⟩) := by
  obtain ⟨kind, payload⟩ := g
  cases payload with
  | number n =>
    cases kind with
    | number =>
      have hshort : (Nat.toDigits 10 n).length ≤ Text.maxDigits := valid
      simp [Sign.lexeme, Lexeme.token?, Text.readDigits, hshort, digitsValue_toDigits]
    | _ => exact absurd valid id
  | text s =>
    cases kind with
    | number => exact absurd valid id
    | name =>
      have hname : Terminal.ofWord s = .name := valid.1
      simp [Sign.lexeme, Lexeme.token?, Terminal.isWord, hname]
    | string => simp [Sign.lexeme, Lexeme.token?]
    | _ =>
      have hs : s = _ := valid
      subst hs
      rfl

end Lexemes

section Scanning

/-- The scan finds the signs, and no fault. -/
def Scan.Finds (x : Scan) (signs : List Sign) : Prop :=
  x.tokens.map Token.sign = signs ∧ x.fault? = none

private theorem scanFrom_blank {c : Char} (blank : c = ' ' ∨ c = '\t') (line pos : Nat)
    (rest : List Char) : scanFrom line pos (c :: rest) = scanFrom line (pos + 1) rest := by
  rw [scanFrom, if_pos blank]

private theorem scanFrom_newline (line pos : Nat) (rest : List Char) :
    ∃ line' pos', scanFrom line pos ('\n' :: rest) =
      scanFrom line' pos' (rest.dropWhile (· == '\n')) := by
  have htake : takeLexeme '\n' rest =
      (.newlines ('\n' :: rest.takeWhile (· == '\n')), rest.dropWhile (· == '\n')) := rfl
  rw [scanFrom, if_neg (by decide), htake]
  exact ⟨_, _, rfl⟩

private theorem scanFrom_sign {g : Sign} {signs : List Sign} {rest : List Char}
    (valid : Sign.Valid g) (ends : ∀ c ∈ rest.head?, Sign.endsBefore g c = true)
    (h : ∀ line pos, (scanFrom line pos rest).Finds signs) (line pos : Nat) :
    (scanFrom line pos (Sign.text g ++ rest)).Finds (g :: signs) := by
  obtain ⟨c, cs, htext, hgap, htake⟩ := takeLexeme_sign valid ends
  have hblank : ¬(c = ' ' ∨ c = '\t') := by
    rintro (rfl | rfl) <;> exact absurd hgap (by decide)
  rw [htext, List.cons_append, scanFrom, if_neg hblank, htake]
  simp only [token_lexeme valid]
  obtain ⟨hsigns, hfault⟩ := h (line + (Sign.lexeme g).lines)
    (pos + (Sign.lexeme g).text.length)
  exact ⟨congrArg (g :: ·) hsigns, hfault⟩

private theorem Layout.dropWhile_newline {signs : List Sign} {s : List Char} (h : Layout signs s)
    (valid : ∀ g ∈ signs, Sign.Valid g) : Layout signs (s.dropWhile (· == '\n')) := by
  induction h with
  | nil => exact .nil
  | @blank signs c s gap rest ih =>
    by_cases hc : c = '\n'
    · subst hc
      exact ih valid
    · rw [List.dropWhile_cons_of_neg (by simpa using hc)]
      exact .blank gap rest
  | @sign g signs s ends rest ih =>
    obtain ⟨c, cs, htext, hgap, -⟩ := takeLexeme_sign (valid g List.mem_cons_self) ends
    have hc : c ≠ '\n' := by
      rintro rfl
      exact absurd hgap (by decide)
    have hlayout := Layout.sign ends rest
    rw [htext, List.cons_append] at hlayout ⊢
    rwa [List.dropWhile_cons_of_neg (by simpa using hc)]

theorem Layout.finds {signs : List Sign} {s : List Char} (h : Layout signs s)
    (valid : ∀ g ∈ signs, Sign.Valid g) (line pos : Nat) : (scanFrom line pos s).Finds signs := by
  -- line feeds are taken many at once, so the induction is on the length and not on the layout
  induction hn : s.length using Nat.strong_induction_on generalizing signs s line pos with
  | h n ih =>
    subst hn
    cases h with
    | nil =>
      rw [scanFrom]
      exact ⟨rfl, rfl⟩
    | @blank _ c s gap rest =>
      simp only [isGap, Bool.or_eq_true, beq_iff_eq] at gap
      rcases gap with blank | rfl
      · rw [scanFrom_blank blank]
        exact ih s.length (Nat.lt_succ_self _) rest valid line (pos + 1) rfl
      · obtain ⟨line', pos', hscan⟩ := scanFrom_newline line pos s
        have hle := (List.dropWhile_suffix (l := s) (· == '\n')).length_le
        rw [hscan]
        exact ih _ (Nat.lt_succ_of_le hle) (rest.dropWhile_newline valid) valid line' pos' rfl
    | @sign g signs s ends rest =>
      rw [List.forall_mem_cons] at valid
      refine scanFrom_sign valid.1 ends (fun line pos => ?_) line pos
      obtain ⟨c, cs, htext, -⟩ := takeLexeme_sign valid.1 ends
      have hlt : s.length < (Sign.text g ++ s).length := by
        rw [htext, List.length_append, List.length_cons]
        omega
      exact ih s.length hlt rest valid.2 line pos rfl

end Scanning

end CallByNeed.Language
