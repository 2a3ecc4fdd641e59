import CallByNeed.Proofs.Scan.Lexeme

set_option autoImplicit false
set_option relaxedAutoImplicit false

/-!
A scan accounts for every character of its source. The texts of its tokens follow one another, and
before, between and after them stand nothing but blanks, line feeds and comments. Lines are counted
in two places only, at line feeds and in comments, and this is enough because no token has a line
feed in its text.
-/

namespace CallByNeed.Language

section Tiles

/-- A text of blanks, line feeds and complete comments. -/
inductive Gap : List Char → Prop where
  | nil : Gap []
  | blank {c : Char} {s : List Char} (gap : isGap c = true) (rest : Gap s) : Gap (c :: s)
  | comment {body s : List Char} (unclosed : Unclosed (body ++ ['*'])) (rest : Gap s) :
      Gap ('/' :: '*' :: (body ++ '*' :: '/' :: s))

/-- The text from a position on is a gap, the text of the first token at the position that the token
has, and so on with the other tokens, and at last a gap. No text of a token is empty. -/
inductive Tiles : Nat → List Char → List Token → Prop where
  | last {pos : Nat} {gap : List Char} (isGap : Gap gap) : Tiles pos gap []
  | token {pos : Nat} {gap rest : List Char} {t : Token} {ts : List Token} {l : Lexeme}
      (isGap : Gap gap) (start : t.pos = pos + gap.length)
      (gives : l.token? t.line t.pos = .ok (some t)) (filled : l.text ≠ [])
      (later : Tiles (t.pos + l.text.length) rest ts) :
      Tiles pos (gap ++ (l.text ++ rest)) (t :: ts)

private theorem Gap.append {s s' : List Char} (h : Gap s) (h' : Gap s') : Gap (s ++ s') := by
  induction h with
  | nil => exact h'
  | blank gap _ ih => exact .blank gap ih
  | comment unclosed _ ih =>
    simp only [List.cons_append, List.append_assoc]
    exact .comment unclosed ih

private theorem Gap.newlines {cs : List Char} (all : ∀ x ∈ cs, x = '\n') : Gap cs := by
  induction cs with
  | nil => exact .nil
  | cons c cs ih =>
    obtain ⟨rfl, hrest⟩ := List.forall_mem_cons.1 all
    exact .blank rfl (ih hrest)

/-- A gap before the tokens belongs to the gap before the first one. -/
theorem Tiles.after {pos : Nat} {gap s : List Char} {ts : List Token}
    (h : Tiles (pos + gap.length) s ts) (hgap : Gap gap) : Tiles pos (gap ++ s) ts := by
  cases h with
  | last more => exact .last (hgap.append more)
  | @token _ more rest t ts l isGap start gives filled later =>
    rw [← List.append_assoc]
    refine .token (hgap.append isGap) ?_ gives filled later
    rw [start, List.length_append]
    omega

private theorem Takes.gap {s after : List Char} {l : Lexeme} (h : Takes s l after) {line pos : Nat}
    (gives : l.token? line pos = .ok none) : Gap l.text := by
  cases h with
  | newlines all stop => exact .blank rfl (.newlines all)
  | comment unclosed => exact .comment unclosed .nil
  | number digits stop =>
    simp only [Lexeme.token?] at gives
    split at gives <;> cases gives
  | word | string | pair | single => cases gives

end Tiles

section Numbers

def Lexeme.digits? : Lexeme → Option (List Char)
  | .number digits => some digits
  | _ => none

def numberRuns : List Char → List (List Char)
  | [] => []
  | c :: rest =>
    if c = ' ' ∨ c = '\t' then numberRuns rest
    else (takeLexeme c rest).1.digits?.toList ++ numberRuns (takeLexeme c rest).2
termination_by s => s.length
decreasing_by
  · simp
  · have hlength := takeLexeme_length c rest
    rw [List.length_cons]
    omega

/-- No number in the text is too long to be read. -/
def ShortNumbers (s : List Char) : Prop :=
  ∀ run ∈ numberRuns s, run.length ≤ Text.maxDigits

instance (s : List Char) : Decidable (ShortNumbers s) :=
  inferInstanceAs (Decidable (∀ run ∈ numberRuns s, run.length ≤ Text.maxDigits))

private theorem numberRuns_blank {c : Char} {s : List Char} (blank : c = ' ' ∨ c = '\t') :
    numberRuns (c :: s) = numberRuns s := by
  rw [numberRuns, if_pos blank]

private theorem Takes.numberRuns_eq {s after : List Char} {l : Lexeme} (h : Takes s l after)
    (start : Unblank s) : numberRuns s = l.digits?.toList ++ numberRuns after := by
  cases s with
  | nil => cases h
  | cons c s => rw [numberRuns, if_neg (start c rfl), h.takeLexeme_eq]

private theorem Takes.shortNumbers {s after : List Char} {l : Lexeme} (h : Takes s l after)
    (start : Unblank s) (short : ShortNumbers s) : ShortNumbers after := by
  intro run hrun
  apply short
  rw [h.numberRuns_eq start]
  exact List.mem_append_right _ hrun

private theorem Lexeme.length_of_fault {l : Lexeme} {line pos : Nat} {fault : Text.IntegerFault}
    (h : l.token? line pos = .error fault) :
    ∃ digits, l.digits? = some digits ∧ Text.maxDigits < digits.length := by
  cases l with
  | number digits =>
    refine ⟨digits, rfl, ?_⟩
    by_contra hle
    have hread : Text.readDigits digits = .ok (Text.digitsValue digits) := if_pos (by omega)
    simp [Lexeme.token?, hread] at h
  | word | string | mark | newlines | comment => cases h

end Numbers

section Scanned

variable {line pos : Nat} {s : List Char} {x : Scan}

private theorem Scans.fault?_eq_none (h : Scans line pos s x) (short : ShortNumbers s) :
    x.fault? = none := by
  induction h with
  | done => rfl
  | blank gap _ ih =>
    rw [ShortNumbers, numberRuns_blank gap] at short
    exact ih short
  | fault start takes faulty =>
    obtain ⟨digits, hdigits, hlong⟩ := Lexeme.length_of_fault faulty
    have hshort := short digits (by simp [takes.numberRuns_eq start, hdigits])
    omega
  | token start takes gives _ ih => exact ih (takes.shortNumbers start short)
  | skip start takes gives _ ih => exact ih (takes.shortNumbers start short)

private theorem Scans.tiles (h : Scans line pos s x) (clean : x.fault? = none) :
    Tiles pos s x.tokens := by
  induction h with
  | done => exact .last .nil
  | @blank line pos c s x gap _ ih =>
    have hgap : Gap [c] := by
      rcases gap with rfl | rfl <;> exact .blank rfl .nil
    have later : Tiles (pos + [c].length) s x.tokens := ih clean
    exact later.after hgap
  | fault => cases clean
  | @token line pos s after l t x start takes gives _ ih =>
    obtain ⟨hline, hpos⟩ := Lexeme.place_token gives
    have later := ih clean
    rw [← hline, ← hpos] at gives
    rw [← hpos] at later
    rw [takes.eq_append]
    have start : t.pos = pos + ([] : List Char).length := hpos
    exact .token .nil start gives takes.text_ne_nil later
  | skip start takes gives _ ih =>
    rw [takes.eq_append]
    exact (ih clean).after (takes.gap gives)

private theorem Scans.line_eq (h : Scans line pos s x) (clean : x.fault? = none) :
    x.line = line + newlineCount s := by
  induction h with
  | done => rfl
  | @blank line pos c s x gap _ ih =>
    have hc : c ≠ '\n' := by
      rintro rfl
      exact absurd gap (by decide)
    rw [ih clean, newlineCount, newlineCount, List.count_cons_of_ne hc]
  | fault => cases clean
  | token start takes gives _ ih | skip start takes gives _ ih =>
    rw [takes.eq_append, newlineCount_append, ← takes.lines_eq, ← Nat.add_assoc]
    exact ih clean

end Scanned

/-- A source without too long a number is scanned to its end. The tokens and the gaps between them
make up the source, the line of a token is that of the place where it starts, and the last line is
that of the end. -/
theorem scan_accounts_for_source (source : String) (short : ShortNumbers source.toList) :
    (scan source).fault? = none ∧
    Tiles 0 source.toList (scan source).tokens ∧
    (∀ t ∈ (scan source).tokens, t.line = 1 + newlineCount (source.toList.take t.pos)) ∧
    (scan source).line = 1 + newlineCount source.toList := by
  have scans := scans_scanFrom 1 0 source.toList
  have clean := scans.fault?_eq_none short
  refine ⟨clean, scans.tiles clean, ?_, scans.line_eq clean⟩
  intro t ht
  obtain ⟨before, place, l, after, hsource, hline, hpos, -, -, -⟩ := scans.arises t ht
  rw [hline, hpos, hsource, Nat.zero_add, List.take_left]

theorem scan_accounts_for_source_commented :
    let source := "x /* \"\n\n */ = 007\n+ \"/* y\" * \" /* 2"
    ShortNumbers source.toList ∧ (scan source).fault? = none ∧
      Tiles 0 source.toList (scan source).tokens ∧ (scan source).line = 4 := by
  intro source
  have short : ShortNumbers source.toList := by decide +kernel
  obtain ⟨clean, tiles, -, hline⟩ := scan_accounts_for_source source short
  exact ⟨short, clean, tiles, hline.trans (by decide)⟩

end CallByNeed.Language
