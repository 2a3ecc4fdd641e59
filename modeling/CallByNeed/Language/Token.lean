import CallByNeed.Language.Symbol
import CallByNeed.Text.Integer
import CallByNeed.Text.Word

set_option autoImplicit false
set_option relaxedAutoImplicit false

/-!
Tokens of the language and how a source text is cut into them.

At each place the first of these that fits is taken: a number, a word, line feeds, a closed comment,
a string closed on its line, an operator of two characters, a single character. A single character
that is no operator of its own counts as a dot. Spaces and tabs stand between lexemes, and line
feeds and comments give no token.
-/

namespace CallByNeed.Language

/-- What a token carries: the number it denotes, or its text without the quotes of a string. -/
inductive Payload where
  | number (n : Nat)
  | text (s : String)
deriving DecidableEq, Repr, Inhabited

def Payload.toText : Payload → String
  | .number n => toString n
  | .text s => s

/-- A token with the line and the position of its first character. -/
structure Token where
  kind : Terminal
  payload : Payload
  line : Nat
  pos : Nat
deriving DecidableEq, Repr, Inhabited

/-- A piece of source text of one kind. -/
inductive Lexeme where
  /-- A run of decimal digits. -/
  | number (digits : List Char)
  /-- A name or reserved word. -/
  | word (text : List Char)
  /-- A run of line feeds. -/
  | newlines (text : List Char)
  /-- A comment, with its delimiters. -/
  | comment (text : List Char)
  /-- The text between two quotes. -/
  | string (body : List Char)
  /-- An operator or a stray character. -/
  | mark (kind : Terminal) (text : List Char)
deriving DecidableEq, Repr

def Lexeme.text : Lexeme → List Char
  | .number digits => digits
  | .word text => text
  | .newlines text => text
  | .comment text => text
  | .string body => '"' :: body ++ ['"']
  | .mark _ text => text

def startsWord (c : Char) : Bool :=
  c == '_' || c.isAlpha

/-- The text up to and including the first comment end, and what follows it. -/
def closeComment : List Char → Option (List Char × List Char)
  | [] => none
  | '*' :: '/' :: rest => some (['*', '/'], rest)
  | c :: rest => (closeComment rest).map fun (body, after) => (c :: body, after)

/-- The text up to the first quote, which must stand on the same line, and what follows it. -/
def closeString : List Char → Option (List Char × List Char)
  | [] => none
  | '"' :: rest => some ([], rest)
  | '\n' :: _ => none
  | c :: rest => (closeString rest).map fun (body, after) => (c :: body, after)

/-- The kind of a single character that starts no longer lexeme. -/
def markKind : Char → Terminal
  | '(' => .lparen
  | ')' => .rparen
  | '{' => .lbrace
  | '}' => .rbrace
  | '+' => .plus
  | '-' => .minus
  | '*' => .multiply
  | ',' => .comma
  | ':' => .colon
  | ';' => .semi
  | '>' => .greater
  | '<' => .less
  | '=' => .assign
  | '/' => .divide
  | '!' => .not
  | _ => .dot

def takeMark (c : Char) (rest : List Char) : Lexeme × List Char :=
  match c, rest with
  | '|', '|' :: after => (.mark .or ['|', '|'], after)
  | '=', '=' :: after => (.mark .eq ['=', '='], after)
  | '>', '=' :: after => (.mark .greaterEq ['>', '='], after)
  | '<', '=' :: after => (.mark .lessEq ['<', '='], after)
  | '!', '=' :: after => (.mark .notEq ['!', '='], after)
  | '&', '&' :: after => (.mark .and ['&', '&'], after)
  | _, _ => (.mark (markKind c) [c], rest)

def takeDelimited (c : Char) (rest : List Char) : Lexeme × List Char :=
  match c, rest with
  | '/', '*' :: inside =>
    match closeComment inside with
    | some (body, after) => (.comment ('/' :: '*' :: body), after)
    | none => takeMark c rest
  | '"', _ =>
    match closeString rest with
    | some (body, after) => (.string body, after)
    | none => takeMark c rest
  | _, _ => takeMark c rest

def takeLexeme (c : Char) (rest : List Char) : Lexeme × List Char :=
  if Text.isDigit c then (.number (c :: rest.takeWhile Text.isDigit), rest.dropWhile Text.isDigit)
  else if startsWord c then (.word (c :: rest.takeWhile Text.isWord), rest.dropWhile Text.isWord)
  else if c = '\n' then
    (.newlines (c :: rest.takeWhile (· == '\n')), rest.dropWhile (· == '\n'))
  else takeDelimited c rest

private theorem closeComment_length {s body after : List Char}
    (h : closeComment s = some (body, after)) : after.length ≤ s.length := by
  induction s using closeComment.induct generalizing body with
  | case1 => simp [closeComment] at h
  | case2 rest =>
    simp only [closeComment, Option.some.injEq, Prod.mk.injEq] at h
    simp [← h.2]
    omega
  | case3 c rest hc ih =>
    rw [closeComment] at h
    · obtain ⟨⟨b, a⟩, hb, he⟩ := Option.map_eq_some_iff.1 h
      simp only [Prod.mk.injEq] at he
      have := ih (he.2 ▸ hb)
      simp
      omega
    · exact hc

private theorem closeString_length {s body after : List Char}
    (h : closeString s = some (body, after)) : after.length ≤ s.length := by
  induction s using closeString.induct generalizing body with
  | case1 => simp [closeString] at h
  | case2 rest =>
    simp only [closeString, Option.some.injEq, Prod.mk.injEq] at h
    simp [← h.2]
  | case3 rest => simp [closeString] at h
  | case4 c rest hq hn ih =>
    rw [closeString] at h
    · obtain ⟨⟨b, a⟩, hb, he⟩ := Option.map_eq_some_iff.1 h
      simp only [Prod.mk.injEq] at he
      have := ih (he.2 ▸ hb)
      simp
      omega
    · exact hq
    · exact hn

private theorem takeMark_length (c : Char) (rest : List Char) :
    (takeMark c rest).2.length ≤ rest.length := by
  unfold takeMark
  split <;> simp

private theorem takeDelimited_length (c : Char) (rest : List Char) :
    (takeDelimited c rest).2.length ≤ rest.length := by
  unfold takeDelimited
  split
  · split
    · rename_i inside _ body after h
      have := closeComment_length h
      simp
      omega
    · exact takeMark_length _ _
  · split
    · rename_i body after h
      exact closeString_length h
    · exact takeMark_length _ _
  · exact takeMark_length _ _

/-- What follows a lexeme is no longer than what follows its first character. -/
theorem takeLexeme_length (c : Char) (rest : List Char) :
    (takeLexeme c rest).2.length ≤ rest.length := by
  unfold takeLexeme
  split
  · exact (List.dropWhile_suffix _).length_le
  · split
    · exact (List.dropWhile_suffix _).length_le
    · split
      · exact (List.dropWhile_suffix _).length_le
      · exact takeDelimited_length _ _

def newlineCount (s : List Char) : Nat :=
  s.count '\n'

/-- How many lines a lexeme is counted for: line feeds count between tokens and in comments. -/
def Lexeme.lines : Lexeme → Nat
  | .newlines text => newlineCount text
  | .comment text => newlineCount text
  | _ => 0

def Lexeme.token? (x : Lexeme) (line pos : Nat) : Except Text.IntegerFault (Option Token) :=
  match x with
  | .number digits =>
    match Text.readDigits digits with
    | .ok n => .ok (some ⟨.number, .number n, line, pos⟩)
    | .error fault => .error fault
  | .word text =>
    let word := String.ofList text
    .ok (some ⟨.ofWord word, .text word, line, pos⟩)
  | .string body => .ok (some ⟨.string, .text (String.ofList body), line, pos⟩)
  | .mark kind text => .ok (some ⟨kind, .text (String.ofList text), line, pos⟩)
  | .newlines _ => .ok none
  | .comment _ => .ok none

/-- The result of cutting a source text: its tokens, the line and position reached, and the fault
that stopped it, if any. -/
structure Scan where
  tokens : List Token
  line : Nat
  pos : Nat
  fault? : Option Text.IntegerFault
deriving Inhabited

/-- Cuts the text from the given line and position on. The position after the last character is one
more than the length of the text. -/
def scanFrom (line pos : Nat) : List Char → Scan
  | [] => ⟨[], line, pos + 1, none⟩
  | c :: rest =>
    if c = ' ' ∨ c = '\t' then scanFrom line (pos + 1) rest
    else
      let lexeme := (takeLexeme c rest).1
      let after := pos + lexeme.text.length
      match lexeme.token? line pos with
      | .error fault => ⟨[], line, after, some fault⟩
      | .ok token =>
        let scan := scanFrom (line + lexeme.lines) after (takeLexeme c rest).2
        { scan with tokens := token.toList ++ scan.tokens }
termination_by s => s.length
decreasing_by
  · simp
  · have := takeLexeme_length c rest
    simp
    omega

def scan (source : String) : Scan :=
  scanFrom 1 0 source.toList

end CallByNeed.Language
