import CallByNeed.Proofs.Print.Layout

set_option autoImplicit false
set_option relaxedAutoImplicit false

/-!
The lexemes of the language as a relation: what may be taken at the start of a text, with the
condition under which it ends there. A lexeme is taken by the scanner exactly if the relation allows
it, so that later proofs argue by its cases and never open the scanner.
-/

namespace CallByNeed.Language

section Delimiters

def Unclosed (s : List Char) : Prop :=
  ∀ body after : List Char, s ≠ body ++ '*' :: '/' :: after

private theorem Unclosed.tail {c : Char} {s : List Char} (h : Unclosed (c :: s)) : Unclosed s := by
  intro body after hs
  exact h (c :: body) after (by rw [hs, List.cons_append])

private theorem closeComment_append {body rest : List Char} (unclosed : Unclosed (body ++ ['*'])) :
    closeComment (body ++ '*' :: '/' :: rest) = some (body ++ ['*', '/'], rest) := by
  induction body with
  | nil => rfl
  | cons c body ih =>
    have first : ∀ tail, c = '*' → body ++ '*' :: '/' :: rest = '/' :: tail → False := by
      intro tail hc htail
      cases body with
      | nil => cases htail
      | cons d body =>
        have hd : d = '/' := (List.cons.inj htail).1
        exact unclosed [] (body ++ ['*']) (by rw [hc, hd]; rfl)
    rw [List.cons_append, closeComment, ih unclosed.tail]
    · rfl
    · exact first

private theorem exists_of_closeComment {s body rest : List Char}
    (h : closeComment s = some (body, rest)) :
    ∃ inner, body = inner ++ ['*', '/'] ∧ s = inner ++ '*' :: '/' :: rest ∧
      Unclosed (inner ++ ['*']) := by
  induction s using closeComment.induct generalizing body with
  | case1 => cases h
  | case2 after =>
    cases h
    refine ⟨[], rfl, rfl, ?_⟩
    intro body after h
    have hlength := congrArg List.length h
    simp only [List.nil_append, List.length_append, List.length_cons, List.length_nil] at hlength
    omega
  | case3 c s first ih =>
    rw [closeComment] at h
    · obtain ⟨⟨b, a⟩, hb, he⟩ := Option.map_eq_some_iff.1 h
      obtain ⟨rfl, rfl⟩ := Prod.mk.inj he
      obtain ⟨inner, rfl, hs, unclosed⟩ := ih hb
      refine ⟨c :: inner, rfl, by rw [hs, List.cons_append], ?_⟩
      intro before after hsplit
      cases before with
      | nil =>
        obtain ⟨hc, hinner⟩ := List.cons.inj hsplit
        cases inner with
        | nil => cases hinner
        | cons d inner =>
          have hd : d = '/' := (List.cons.inj hinner).1
          exact first _ hc (by rw [hs, hd]; rfl)
      | cons b before => exact unclosed before after (List.cons.inj hsplit).2
    · exact first

private theorem unclosed_of_closeComment {s : List Char} (h : closeComment s = none) :
    Unclosed s := by
  intro body after hs
  induction s using closeComment.induct generalizing body with
  | case1 => simp at hs
  | case2 rest => cases h
  | case3 c s first ih =>
    rw [closeComment] at h
    · cases body with
      | nil =>
        obtain ⟨hc, hrest⟩ := List.cons.inj hs
        exact first after hc hrest
      | cons b body => exact ih (Option.map_eq_none_iff.1 h) body (List.cons.inj hs).2
    · exact first

private theorem Unclosed.closeComment {s : List Char} (h : Unclosed s) : closeComment s = none := by
  cases hclose : Language.closeComment s with
  | none => rfl
  | some pair =>
    obtain ⟨inner, -, hs, -⟩ := exists_of_closeComment hclose
    exact absurd hs (h inner pair.2)

/-- No string that starts just before the text is closed on its line. -/
def Unquoted (s : List Char) : Prop :=
  ∀ body after : List Char, s = body ++ '"' :: after → '\n' ∈ body

private theorem exists_of_closeString {s body rest : List Char}
    (h : closeString s = some (body, rest)) :
    s = body ++ '"' :: rest ∧ '"' ∉ body ∧ '\n' ∉ body := by
  induction s using closeString.induct generalizing body with
  | case1 => cases h
  | case2 after =>
    cases h
    exact ⟨rfl, List.not_mem_nil, List.not_mem_nil⟩
  | case3 rest => cases h
  | case4 c s quote line ih =>
    rw [closeString] at h
    · obtain ⟨⟨b, a⟩, hb, he⟩ := Option.map_eq_some_iff.1 h
      obtain ⟨rfl, rfl⟩ := Prod.mk.inj he
      obtain ⟨hs, hquote, hline⟩ := ih hb
      refine ⟨by rw [hs, List.cons_append], ?_, ?_⟩
      · exact List.not_mem_cons_of_ne_of_not_mem (Ne.symm quote) hquote
      · exact List.not_mem_cons_of_ne_of_not_mem (Ne.symm line) hline
    · exact quote
    · exact line

private theorem unquoted_of_closeString {s : List Char} (h : closeString s = none) :
    Unquoted s := by
  intro body after hs
  induction s using closeString.induct generalizing body with
  | case1 => simp at hs
  | case2 rest => cases h
  | case3 rest =>
    cases body with
    | nil => cases hs
    | cons b body => exact (List.cons.inj hs).1 ▸ List.mem_cons_self
  | case4 c s quote line ih =>
    rw [closeString] at h
    · cases body with
      | nil => exact absurd (List.cons.inj hs).1 quote
      | cons b body =>
        have hbody := ih (Option.map_eq_none_iff.1 h) body (List.cons.inj hs).2
        exact List.mem_cons_of_mem b hbody
    · exact quote
    · exact line

private theorem Unquoted.closeString {s : List Char} (h : Unquoted s) : closeString s = none := by
  cases hclose : Language.closeString s with
  | none => rfl
  | some pair =>
    obtain ⟨hs, -, hline⟩ := exists_of_closeString hclose
    exact absurd (h _ _ hs) hline

end Delimiters

section Takes

def pairMarks : List (Terminal × Char × Char) :=
  [(.or, '|', '|'), (.eq, '=', '='), (.greaterEq, '>', '='), (.lessEq, '<', '='),
    (.notEq, '!', '='), (.and, '&', '&')]

/-- The lexeme can be taken at the start of a text, and the rest is what follows it. -/
inductive Takes : List Char → Lexeme → List Char → Prop where
  | number {c : Char} {cs rest : List Char} (digits : ∀ x ∈ c :: cs, Text.isDigit x = true)
      (stop : ∀ x ∈ rest.head?, Text.isDigit x = false) :
      Takes (c :: (cs ++ rest)) (.number (c :: cs)) rest
  | word {c : Char} {cs rest : List Char} (starts : startsWord c = true)
      (all : ∀ x ∈ cs, Text.isWord x = true) (stop : ∀ x ∈ rest.head?, Text.isWord x = false) :
      Takes (c :: (cs ++ rest)) (.word (c :: cs)) rest
  | newlines {cs rest : List Char} (all : ∀ x ∈ cs, x = '\n') (stop : ∀ x ∈ rest.head?, x ≠ '\n') :
      Takes ('\n' :: (cs ++ rest)) (.newlines ('\n' :: cs)) rest
  | comment {body rest : List Char} (unclosed : Unclosed (body ++ ['*'])) :
      Takes ('/' :: '*' :: (body ++ '*' :: '/' :: rest))
        (.comment ('/' :: '*' :: (body ++ ['*', '/']))) rest
  | string {body rest : List Char} (quote : '"' ∉ body) (line : '\n' ∉ body) :
      Takes ('"' :: (body ++ '"' :: rest)) (.string body) rest
  | pair {kind : Terminal} {a b : Char} {rest : List Char} (mem : (kind, a, b) ∈ pairMarks) :
      Takes (a :: b :: rest) (.mark kind [a, b]) rest
  | single {c : Char} {rest : List Char} (digit : Text.isDigit c = false)
      (word : startsWord c = false) (line : c ≠ '\n')
      (comment : c = '/' → ∀ inside, rest = '*' :: inside → Unclosed inside)
      (string : c = '"' → Unquoted rest)
      (pair : ∀ b ∈ rest.head?, ∀ kind, (kind, c, b) ∉ pairMarks) :
      Takes (c :: rest) (.mark (markKind c) [c]) rest

private theorem takes_takeMark {c : Char} {rest : List Char} (digit : Text.isDigit c = false)
    (word : startsWord c = false) (line : c ≠ '\n')
    (comment : c = '/' → ∀ inside, rest = '*' :: inside → Unclosed inside)
    (string : c = '"' → Unquoted rest) :
    Takes (c :: rest) (takeMark c rest).1 (takeMark c rest).2 := by
  unfold takeMark
  split
  iterate 6 exact .pair (by decide)
  · rename_i or eq ge le ne and
    refine .single digit word line comment string ?_
    intro b hb kind hmem
    obtain ⟨after, rfl⟩ : ∃ after, rest = b :: after := by
      cases rest with
      | nil => cases hb
      | cons d after =>
        cases hb
        exact ⟨after, rfl⟩
    simp only [pairMarks, List.mem_cons, List.not_mem_nil, or_false, Prod.mk.injEq] at hmem
    rcases hmem with ⟨-, rfl, rfl⟩ | ⟨-, rfl, rfl⟩ | ⟨-, rfl, rfl⟩ | ⟨-, rfl, rfl⟩ | ⟨-, rfl, rfl⟩ |
      ⟨-, rfl, rfl⟩
    · exact or after rfl rfl
    · exact eq after rfl rfl
    · exact ge after rfl rfl
    · exact le after rfl rfl
    · exact ne after rfl rfl
    · exact and after rfl rfl

private theorem takes_takeDelimited {c : Char} {rest : List Char} (digit : Text.isDigit c = false)
    (word : startsWord c = false) (line : c ≠ '\n') :
    Takes (c :: rest) (takeDelimited c rest).1 (takeDelimited c rest).2 := by
  unfold takeDelimited
  split
  · rename_i inside
    split
    · rename_i body after hclose
      obtain ⟨inner, rfl, rfl, unclosed⟩ := exists_of_closeComment hclose
      exact .comment unclosed
    · rename_i hclose
      refine takes_takeMark digit word line ?_ (fun h => absurd h (by decide))
      intro _ inside' h
      cases h
      exact unclosed_of_closeComment hclose
  · split
    · rename_i body after hclose
      obtain ⟨rfl, quote, hline⟩ := exists_of_closeString hclose
      exact .string quote hline
    · rename_i hclose
      exact takes_takeMark digit word line (fun h => absurd h (by decide))
        fun _ => unquoted_of_closeString hclose
  · rename_i string comment
    refine takes_takeMark digit word line ?_ (fun h => absurd h string)
    intro hc inside hinside
    exact absurd hinside (comment inside hc)

private theorem head?_dropWhile_not (p : Char → Bool) (s : List Char) :
    ∀ x ∈ (s.dropWhile p).head?, p x = false := by
  intro x hx
  have hhead := List.head?_dropWhile_not p s
  rw [Option.mem_def.1 hx] at hhead
  simpa using hhead

private theorem takes_takeLexeme (c : Char) (rest : List Char) :
    Takes (c :: rest) (takeLexeme c rest).1 (takeLexeme c rest).2 := by
  have split (p : Char → Bool) : rest.takeWhile p ++ rest.dropWhile p = rest :=
    List.takeWhile_append_dropWhile
  have inside (p : Char → Bool) : ∀ x ∈ rest.takeWhile p, p x = true :=
    List.all_eq_true.1 List.all_takeWhile
  unfold takeLexeme
  split
  · rename_i hdigit
    have digits : ∀ x ∈ c :: rest.takeWhile Text.isDigit, Text.isDigit x = true :=
      List.forall_mem_cons.2 ⟨hdigit, inside Text.isDigit⟩
    have taken := Takes.number digits (head?_dropWhile_not Text.isDigit rest)
    rwa [split] at taken
  · rename_i hdigit
    split
    · rename_i hword
      have taken := Takes.word hword (inside Text.isWord) (head?_dropWhile_not Text.isWord rest)
      rwa [split] at taken
    · rename_i hword
      split
      · rename_i hline
        subst hline
        have all : ∀ x ∈ rest.takeWhile (· == '\n'), x = '\n' := fun x hx => by
          simpa using inside (· == '\n') x hx
        have stop : ∀ x ∈ (rest.dropWhile (· == '\n')).head?, x ≠ '\n' := fun x hx => by
          simpa using head?_dropWhile_not (· == '\n') rest x hx
        have taken := Takes.newlines all stop
        rwa [split] at taken
      · rename_i hline
        exact takes_takeDelimited (by simpa using hdigit) (by simpa using hword) hline

theorem Takes.eq_append {s rest : List Char} {x : Lexeme} (h : Takes s x rest) :
    s = x.text ++ rest := by
  cases h with
  | number digits stop => rfl
  | word starts all stop => rfl
  | newlines all stop => rfl
  | comment unclosed => simp [Lexeme.text]
  | string quote line => simp [Lexeme.text]
  | pair mem => rfl
  | single digit word line comment string pair => rfl

theorem Takes.text_ne_nil {s rest : List Char} {x : Lexeme} (h : Takes s x rest) : x.text ≠ [] := by
  cases h <;> exact List.cons_ne_nil _ _

private theorem takeLexeme_newlines {cs rest : List Char} (all : ∀ x ∈ cs, x = '\n')
    (stop : ∀ x ∈ rest.head?, x ≠ '\n') :
    takeLexeme '\n' (cs ++ rest) = (.newlines ('\n' :: cs), rest) := by
  have htake : takeLexeme '\n' (cs ++ rest) = (.newlines ('\n' :: (cs ++ rest).takeWhile (· == '\n')),
      (cs ++ rest).dropWhile (· == '\n')) := rfl
  obtain ⟨hwhile, hdrop⟩ := takeWhile_append_stop (p := (· == '\n'))
    (fun x hx => by simpa using all x hx) (fun x hx => by simpa using stop x hx)
  rw [htake, hwhile, hdrop]

private theorem takeMark_alone {c : Char} {rest : List Char}
    (pair : ∀ b ∈ rest.head?, ∀ kind, (kind, c, b) ∉ pairMarks) :
    takeMark c rest = (.mark (markKind c) [c], rest) := by
  unfold takeMark
  split
  · exact absurd (by decide) (pair '|' rfl .or)
  · exact absurd (by decide) (pair '=' rfl .eq)
  · exact absurd (by decide) (pair '=' rfl .greaterEq)
  · exact absurd (by decide) (pair '=' rfl .lessEq)
  · exact absurd (by decide) (pair '=' rfl .notEq)
  · exact absurd (by decide) (pair '&' rfl .and)
  · rfl

private theorem takeLexeme_pair {kind : Terminal} {a b : Char} (mem : (kind, a, b) ∈ pairMarks)
    (rest : List Char) : takeLexeme a (b :: rest) = (.mark kind [a, b], rest) := by
  simp only [pairMarks, List.mem_cons, List.not_mem_nil, or_false, Prod.mk.injEq] at mem
  rcases mem with ⟨rfl, rfl, rfl⟩ | ⟨rfl, rfl, rfl⟩ | ⟨rfl, rfl, rfl⟩ | ⟨rfl, rfl, rfl⟩ |
    ⟨rfl, rfl, rfl⟩ | ⟨rfl, rfl, rfl⟩ <;> rfl

theorem Takes.takeLexeme_eq {c : Char} {s rest : List Char} {x : Lexeme}
    (h : Takes (c :: s) x rest) : takeLexeme c s = (x, rest) := by
  cases h with
  | number digits stop => exact takeLexeme_digits digits stop
  | word starts all stop => exact takeLexeme_word starts all stop
  | newlines all stop => exact takeLexeme_newlines all stop
  | @comment body rest unclosed =>
    have htake : takeLexeme '/' ('*' :: (body ++ '*' :: '/' :: rest)) =
        takeDelimited '/' ('*' :: (body ++ '*' :: '/' :: rest)) := rfl
    rw [htake]
    simp [takeDelimited, closeComment_append unclosed]
  | string quote line => exact takeLexeme_string quote line rest
  | pair mem => exact takeLexeme_pair mem rest
  | single digit word line comment string pair =>
    rw [takeLexeme, if_neg (by simp [digit]), if_neg (by simp [word]), if_neg line]
    unfold takeDelimited
    split
    · rw [(comment rfl _ rfl).closeComment]
      exact takeMark_alone pair
    · rw [(string rfl).closeString]
      exact takeMark_alone pair
    · exact takeMark_alone pair

end Takes

section Scans

/-- The text does not start with a blank. -/
def Unblank (s : List Char) : Prop :=
  ∀ c ∈ s.head?, ¬(c = ' ' ∨ c = '\t')

/-- The scan is that of the text from the given line and position on, lexeme by lexeme. -/
inductive Scans : Nat → Nat → List Char → Scan → Prop where
  | done {line pos : Nat} : Scans line pos [] ⟨[], line, pos + 1, none⟩
  | blank {line pos : Nat} {c : Char} {s : List Char} {x : Scan} (gap : c = ' ' ∨ c = '\t')
      (rest : Scans line (pos + 1) s x) : Scans line pos (c :: s) x
  | fault {line pos : Nat} {s after : List Char} {l : Lexeme} {fault : Text.IntegerFault}
      (start : Unblank s) (takes : Takes s l after) (faulty : l.token? line pos = .error fault) :
      Scans line pos s ⟨[], line, pos + l.text.length, some fault⟩
  | token {line pos : Nat} {s after : List Char} {l : Lexeme} {t : Token} {x : Scan}
      (start : Unblank s) (takes : Takes s l after) (gives : l.token? line pos = .ok (some t))
      (rest : Scans (line + l.lines) (pos + l.text.length) after x) :
      Scans line pos s { x with tokens := t :: x.tokens }
  | skip {line pos : Nat} {s after : List Char} {l : Lexeme} {x : Scan}
      (start : Unblank s) (takes : Takes s l after) (gives : l.token? line pos = .ok none)
      (rest : Scans (line + l.lines) (pos + l.text.length) after x) :
      Scans line pos s x

theorem scans_scanFrom (line pos : Nat) (s : List Char) :
    Scans line pos s (scanFrom line pos s) := by
  induction line, pos, s using scanFrom.induct with
  | case1 line pos =>
    rw [scanFrom]
    exact .done
  | case2 line pos c rest hblank ih =>
    rw [scanFrom, if_pos hblank]
    exact .blank hblank ih
  | case3 line pos c rest hblank lexeme fault hfault =>
    have start : Unblank (c :: rest) := fun x hx => Option.some.inj hx ▸ hblank
    rw [scanFrom, if_neg hblank]
    simp only [lexeme] at hfault
    simp only [hfault]
    exact .fault start (takes_takeLexeme c rest) hfault
  | case4 line pos c rest hblank lexeme after token htoken ih =>
    have start : Unblank (c :: rest) := fun x hx => Option.some.inj hx ▸ hblank
    rw [scanFrom, if_neg hblank]
    simp only [lexeme] at htoken
    simp only [htoken]
    cases token with
    | none => exact .skip start (takes_takeLexeme c rest) htoken ih
    | some t => exact .token start (takes_takeLexeme c rest) htoken ih

theorem not_mem_newline_pairMarks {kind : Terminal} {a b : Char} (h : (kind, a, b) ∈ pairMarks) :
    '\n' ∉ [a, b] := by
  have hall : ∀ x ∈ pairMarks, '\n' ∉ [x.2.1, x.2.2] := by decide
  exact hall _ h

theorem Takes.lines_eq {s after : List Char} {l : Lexeme} (h : Takes s l after) :
    l.lines = newlineCount l.text := by
  cases h with
  | newlines all stop => rfl
  | comment unclosed => rfl
  | number digits stop =>
    refine (List.count_eq_zero.2 fun hmem => ?_).symm
    exact absurd (digits _ hmem) (by decide)
  | word starts all stop =>
    refine (List.count_eq_zero.2 fun hmem => ?_).symm
    rcases List.mem_cons.1 hmem with rfl | hmem
    · exact absurd starts (by decide)
    · exact absurd (all _ hmem) (by decide)
  | string quote line =>
    refine (List.count_eq_zero.2 ?_).symm
    simpa [Lexeme.text] using line
  | pair mem => exact (List.count_eq_zero.2 (not_mem_newline_pairMarks mem)).symm
  | single digit word line comment string pair =>
    refine (List.count_eq_zero.2 fun hmem => ?_).symm
    exact line (List.mem_singleton.1 hmem).symm

theorem newlineCount_append (s s' : List Char) :
    newlineCount (s ++ s') = newlineCount s + newlineCount s' :=
  List.count_append

theorem Lexeme.place_token {x : Lexeme} {line pos : Nat} {t : Token}
    (h : x.token? line pos = .ok (some t)) : t.line = line ∧ t.pos = pos := by
  cases x with
  | number digits =>
    simp only [Lexeme.token?] at h
    split at h
    · cases h
      exact ⟨rfl, rfl⟩
    · cases h
  | word text | string body | mark kind text =>
    cases h
    exact ⟨rfl, rfl⟩
  | newlines text | comment text => cases h

/-- In a text that starts at the given line and position the token's lexeme is taken somewhere, and
the line and position of the token count what comes before that. -/
def Token.Arises (t : Token) (line pos : Nat) (s : List Char) : Prop :=
  ∃ before place l after, s = before ++ place ∧ t.line = line + newlineCount before ∧
    t.pos = pos + before.length ∧ Unblank place ∧ Takes place l after ∧
    l.token? t.line t.pos = .ok (some t)

private theorem Token.Arises.after {t : Token} {line pos : Nat} {u s : List Char}
    (h : t.Arises (line + newlineCount u) (pos + u.length) s) : t.Arises line pos (u ++ s) := by
  obtain ⟨before, place, l, after, rfl, hline, hpos, start, takes, gives⟩ := h
  refine ⟨u ++ before, place, l, after, by rw [List.append_assoc], ?_, ?_, start, takes, gives⟩
  · rw [hline, newlineCount_append, Nat.add_assoc]
  · rw [hpos, List.length_append, Nat.add_assoc]

theorem Scans.arises {line pos : Nat} {s : List Char} {x : Scan} (h : Scans line pos s x) :
    ∀ t ∈ x.tokens, t.Arises line pos s := by
  induction h with
  | done => simp
  | @blank line pos c s x gap _ ih =>
    intro t ht
    have hcount : newlineCount [c] = 0 := by
      rcases gap with rfl | rfl <;> rfl
    have harises : t.Arises (line + newlineCount [c]) (pos + [c].length) s := by
      rw [hcount]
      exact ih t ht
    exact harises.after
  | fault => simp
  | @token line pos s after l u x start takes gives _ ih =>
    intro t ht
    rcases List.mem_cons.1 ht with rfl | ht
    · obtain ⟨hline, hpos⟩ := Lexeme.place_token gives
      rw [← hline, ← hpos] at gives
      exact ⟨[], s, l, after, rfl, hline, hpos, start, takes, gives⟩
    · rw [takes.eq_append]
      exact Token.Arises.after (takes.lines_eq ▸ ih t ht)
  | skip start takes gives _ ih =>
    intro t ht
    rw [takes.eq_append]
    exact Token.Arises.after (takes.lines_eq ▸ ih t ht)

end Scans

end CallByNeed.Language
