import CallByNeed.Proofs.Parse.Segment

set_option autoImplicit false
set_option relaxedAutoImplicit false

/-!
What a parse of a source text comes to: it accepts the sentences of the grammar and nothing else,
finds each error at the earliest token, and gives the program of the last segment.
-/

namespace CallByNeed.Language

section Scanned

theorem ofWord_ne {kind : Terminal} (h : kind ∉ Terminal.name :: reservedWords.map Prod.snd)
    (word : String) : Terminal.ofWord word ≠ kind := by
  rintro rfl
  refine h ?_
  unfold Terminal.ofWord
  cases hlookup : reservedWords.lookup word with
  | none => exact List.mem_cons_self
  | some kind => exact List.mem_cons_of_mem _ (List.mem_map.2 ⟨_, mem_of_lookup hlookup, rfl⟩)

private theorem markKind_ne_number (c : Char) : markKind c ≠ .number := by
  unfold markKind
  split <;> decide

def Lexeme.Plain : Lexeme → Prop
  | .mark kind _ => kind ≠ .number
  | _ => True

private theorem plain_takeMark (c : Char) (rest : List Char) : (takeMark c rest).1.Plain := by
  unfold takeMark
  split <;> first | exact markKind_ne_number c | simp [Lexeme.Plain]

private theorem plain_takeDelimited (c : Char) (rest : List Char) :
    (takeDelimited c rest).1.Plain := by
  unfold takeDelimited
  split
  · split
    · trivial
    · exact plain_takeMark _ _
  · split
    · trivial
    · exact plain_takeMark _ _
  · exact plain_takeMark _ _

private theorem plain_takeLexeme (c : Char) (rest : List Char) : (takeLexeme c rest).1.Plain := by
  unfold takeLexeme
  split
  · trivial
  · split
    · trivial
    · split
      · trivial
      · exact plain_takeDelimited c rest

private theorem Lexeme.fits_token {x : Lexeme} (plain : x.Plain) {line pos : Nat} {t : Token}
    (h : x.token? line pos = .ok (some t)) : t.Fits := by
  cases x with
  | number digits =>
    simp only [Lexeme.token?] at h
    split at h
    · cases h
      exact ⟨_, rfl⟩
    · cases h
  | word text =>
    cases h
    exact Token.fits_text (ofWord_ne (by decide) _) _ _ _
  | string body =>
    cases h
    exact Token.fits_text (by decide) _ _ _
  | mark kind text =>
    cases h
    exact Token.fits_text plain _ _ _
  | newlines text => cases h
  | comment text => cases h

private theorem fits_scanFrom (line pos : Nat) (s : List Char) :
    ∀ t ∈ (scanFrom line pos s).tokens, t.Fits := by
  induction line, pos, s using scanFrom.induct with
  | case1 line pos => simp [scanFrom]
  | case2 line pos c rest hblank ih =>
    rw [scanFrom, if_pos hblank]
    exact ih
  | case3 line pos c rest hblank lexeme fault hfault =>
    rw [scanFrom, if_neg hblank]
    simp only [lexeme] at hfault
    simp [hfault]
  | case4 line pos c rest hblank lexeme after token htoken ih =>
    rw [scanFrom, if_neg hblank]
    simp only [lexeme] at htoken
    simp only [htoken, List.mem_append, Option.mem_toList]
    rintro t (ht | ht)
    · rw [ht] at htoken
      exact Lexeme.fits_token (plain_takeLexeme c rest) htoken
    · exact ih t ht

theorem fits_scan (source : String) : ∀ t ∈ (scan source).tokens, t.Fits :=
  fits_scanFrom 1 0 source.toList

end Scanned

section Reports

private theorem through_counted (reports : List (Option (LR.Token Symbol Phrase)))
    (errors : List (Nat × Option Token)) :
    (Tally.through ⟨3, false, reports⟩ errors).reports =
      (((errors.filter fun (n, _) => 3 ≤ n).map Prod.snd).map (Option.map Token.shown)).reverse ++
        reports := by
  induction errors generalizing reports with
  | nil => rfl
  | cons error errors ih =>
    obtain ⟨n, t⟩ := error
    rw [Tally.through]
    by_cases hn : 3 ≤ n
    · have herr : (Tally.shift ⟨3, false, reports⟩ n).err (t.map Token.shown) =
          ⟨3, false, t.map Token.shown :: reports⟩ := by
        simp [Tally.shift, Tally.err, Nat.sub_eq_zero_of_le hn]
      rw [herr, ih]
      simp [hn]
    · have herr : (Tally.shift ⟨3, false, reports⟩ n).err (t.map Token.shown) =
          ⟨3, false, reports⟩ := by
        have hcount : 3 - n ≠ 0 := by omega
        simp [Tally.shift, Tally.err, hcount]
      rw [herr, ih]
      simp [hn]

private theorem through_start (recovered : Bool) (s : Segments) :
    (Tally.through ⟨0, recovered, []⟩ s.errors).reports =
      (s.reported.map (Option.map Token.shown)).reverse := by
  rw [Segments.reported]
  cases s.errors with
  | nil => rfl
  | cons error errors =>
    obtain ⟨n, t⟩ := error
    have herr : (Tally.shift ⟨0, recovered, []⟩ n).err (t.map Token.shown) =
        ⟨3, false, [t.map Token.shown]⟩ := by
      simp [Tally.shift, Tally.err]
    rw [Tally.through, herr, through_counted]
    simp

theorem unread_initial (ts : List Token) (e : Option Text.IntegerFault) (recovered : Bool) :
    Unread (parser.initial (ts.map Token.feed) e recovered) ⟨[], ts⟩ ⟨0, recovered, []⟩ e :=
  ⟨⟨rfl, rfl, rfl, rfl, rfl, rfl⟩, rfl, rfl⟩

/-- A run of the parser over tokens gives what the last segment gives and reports the errors between
the segments. -/
theorem runScan_eq {ts : List Token} (fits : ∀ t ∈ ts, t.Fits) (line pos : Nat)
    (recovered : Bool) :
    ∃ phrase c, runScan false false ⟨ts, line, pos, none⟩ recovered = (.done (.value phrase), c) ∧
      Gives (segments ts).last phrase ∧
      c.reports = ((segments ts).reported.map (Option.map Token.shown)).reverse := by
  have hready := (unread_initial ts none recovered).ready (.inr rfl)
  have enough : 8 * ts.length < parseFuel ts.length := by
    rw [parseFuel]
    omega
  obtain ⟨phrase, c, hrun, hgives, hreports⟩ := hready.run fits enough
  exact ⟨phrase, c, hrun, hgives, hreports.trans (through_start recovered _)⟩

private theorem runScan_fault {ts : List Token} (fits : ∀ t ∈ ts, t.Fits) (line pos : Nat)
    (recovered : Bool) (fault : Text.IntegerFault) :
    ∃ c, runScan false false ⟨ts, line, pos, some fault⟩ recovered =
      (.failed (.called fault), c) := by
  have unread := unread_initial ts (some fault) recovered
  have enough : 8 * ts.length < parseFuel ts.length := by
    rw [parseFuel]
    omega
  by_cases hts : ts = []
  · subst hts
    exact ⟨_, unread.run_fault (by omega)⟩
  · exact (unread.ready (.inl hts)).run_fault hts fits enough

end Reports

section Results

private theorem Gives.exists_program {ts : List Token} {phrase : Phrase} (h : Gives ts phrase)
    (sentence : Sentence (ts.map Token.kind)) : ∃ p, phrase = .program p ∧ p.Filled := by
  cases h with
  | program _ _ _ filled => exact ⟨_, rfl, filled⟩
  | nothing broken => exact absurd sentence broken

theorem runScan_sentence {ts : List Token} (fits : ∀ t ∈ ts, t.Fits) (line pos : Nat)
    (recovered : Bool) (sentence : Sentence (ts.map Token.kind)) :
    ∃ p c, runScan false false ⟨ts, line, pos, none⟩ recovered = (.done (.value (.program p)), c) ∧
      c.reports = [] := by
  obtain ⟨phrase, c, hrun, hgives, hreports⟩ := runScan_eq fits line pos recovered
  rw [segments_viable sentence.viable] at hgives hreports
  obtain ⟨p, rfl, -⟩ := hgives.exists_program sentence
  refine ⟨p, c, hrun, ?_⟩
  rw [hreports]
  simp [Segments.reported, Segments.errors, sentence]

theorem Reading.gives {ts : List Token} {p : Program} {floor : Nat}
    (h : Reading [⟨.nonterminal .program, floor⟩] ts [.program p]) : Gives ts (.program p) := by
  have sentence : Sentence (ts.map Token.kind) := sentence_iff_spans.2 h.spans
  obtain ⟨s, turns, finished⟩ := h.finishes
  obtain ⟨q, hq, filled⟩ := (List.forall₂_cons.1 h.admits).1
  cases hq
  exact .program sentence turns finished filled

private theorem sentence_of_silent {ts : List Token} (fits : ∀ t ∈ ts, t.Fits) (line pos : Nat)
    (recovered : Bool)
    (silent : (runScan false false ⟨ts, line, pos, none⟩ recovered).2.reports.length = 0) :
    Sentence (ts.map Token.kind) := by
  obtain ⟨phrase, c, hrun, -, hreports⟩ := runScan_eq fits line pos recovered
  rw [hrun, hreports] at silent
  cases verdict fits with
  | sentence sentence _ _ _ => exact sentence
  | offence split viable hoffence _ _ =>
    subst split
    rw [segments_offence viable hoffence] at silent
    simp [Segments.reported, Segments.errors] at silent
  | unended viable broken _ _ =>
    rw [segments_viable viable] at silent
    simp [Segments.reported, Segments.errors, broken] at silent

private theorem not_viable_of_report {ts : List Token} (fits : ∀ t ∈ ts, t.Fits) (line pos : Nat)
    (recovered : Bool)
    (told : (runScan false false ⟨ts, line, pos, none⟩ recovered).2.reports.any Option.isSome =
      true) : ¬ Viable (ts.map Token.kind) := by
  obtain ⟨phrase, c, hrun, -, hreports⟩ := runScan_eq fits line pos recovered
  rw [hrun, hreports] at told
  intro viable
  rw [segments_viable viable] at told
  by_cases sentence : Sentence (ts.map Token.kind)
  · simp [Segments.reported, Segments.errors, sentence] at told
  · simp [Segments.reported, Segments.errors, sentence] at told

/-- The parser gives a program, without a report, exactly for the sentences of the grammar. For all
other tokens its first report is about the earliest error: the first token with which the tokens up
to it are no longer the beginning of a sentence, or the end of the input if there is none. -/
theorem accepts_exactly_sentences {ts : List Token} (fits : ∀ t ∈ ts, t.Fits) (line pos : Nat)
    (recovered : Bool) :
    let w := ts.map Token.kind
    let run := runScan false false ⟨ts, line, pos, none⟩ recovered
    (Sentence w → (∃ p, (Parse.ofRun run.1 run.2).result = .ok p) ∧ run.2.reports = []) ∧
    (¬ Sentence w →
      (∃ k t, ts[k]? = some t ∧ Viable (w.take k) ∧ ¬ Viable (w.take (k + 1)) ∧
        run.2.reports.getLast? = some (some t.feed.token)) ∨
      (Viable w ∧ run.2.reports.getLast? = some none)) := by
  refine ⟨fun sentence => ?_, fun broken => ?_⟩
  · obtain ⟨p, c, hrun, hreports⟩ := runScan_sentence fits line pos recovered sentence
    simp only [hrun, hreports]
    exact ⟨⟨p, rfl⟩, trivial⟩
  · obtain ⟨phrase, c, hrun, -, hreports⟩ := runScan_eq fits line pos recovered
    simp only [hrun, hreports]
    cases verdict fits with
    | sentence sentence _ _ _ => exact absurd sentence broken
    | @offence us rest t _ split viable hoffence _ _ =>
      left
      subst split
      rw [segments_offence viable hoffence]
      refine ⟨us.length, t, by simp, ?_, ?_, ?_⟩
      · rw [← List.map_take, List.take_left]
        exact viable
      · rw [← List.map_take, List.append_cons, List.take_left' (by simp), List.map_append]
        exact hoffence
      · simp [Segments.reported, Segments.errors, Token.shown]
    | unended viable _ _ _ =>
      right
      rw [segments_viable viable]
      exact ⟨viable, by simp [Segments.reported, Segments.errors, broken]⟩

/-- The tokens of a function, and after them those of a declaration, which may not stand there. -/
def sumThenVar : List Token :=
  (scan "func main() \x7b return 1 + 2; \x7d var x;").tokens

theorem accepts_exactly_sentences_sum :
    let w : List Terminal := [.kFunc, .name, .lparen, .rparen, .lbrace, .kReturn, .number, .plus,
      .number, .semi, .rbrace]
    Sentence w ∧ Viable w ∧ ¬ Viable (w ++ [.kVar]) ∧
      ∃ p, (Parse.ofRun (runScan false false ⟨sumThenVar.take 11, 1, 29, none⟩ true).1
        (runScan false false ⟨sumThenVar.take 11, 1, 29, none⟩ true).2).result = .ok p := by
  intro w
  have fits : ∀ t ∈ sumThenVar, t.Fits := fits_scan _
  have hkinds : (sumThenVar.take 11).map Token.kind = w := by decide +kernel
  have hkinds' : (sumThenVar.map Token.kind).take 11 = w ∧
      (sumThenVar.map Token.kind).take 12 = w ++ [.kVar] := by decide +kernel
  have sentence : Sentence w ∧
      ∃ p, (Parse.ofRun (runScan false false ⟨sumThenVar.take 11, 1, 29, none⟩ true).1
        (runScan false false ⟨sumThenVar.take 11, 1, 29, none⟩ true).2).result = .ok p := by
    have fitsFirst : ∀ t ∈ sumThenVar.take 11, t.Fits := fun t ht =>
      fits t (List.mem_of_mem_take ht)
    have sentence := sentence_of_silent fitsFirst 1 29 true (by decide +kernel)
    have accepts := (accepts_exactly_sentences fitsFirst 1 29 true).1
    rw [hkinds] at sentence accepts
    exact ⟨sentence, (accepts sentence).1⟩
  have offence : Viable w ∧ ¬ Viable (w ++ [.kVar]) := by
    have hreports : (runScan false false ⟨sumThenVar, 1, 37, none⟩ true).2.reports.map
        (Option.bind · LR.Token.pos) = [some 30] := by decide +kernel
    obtain ⟨accepts, rejects⟩ := accepts_exactly_sentences fits 1 37 true
    obtain ⟨report, hreport, hpos⟩ := List.map_eq_singleton_iff.1 hreports
    have broken : ¬ Sentence (sumThenVar.map Token.kind) := by
      intro sentence
      simp [(accepts sentence).2] at hreport
    rw [hreport] at rejects
    rcases rejects broken with ⟨k, t, hk, viable, hoffence, hlast⟩ | ⟨-, hlast⟩
    · obtain rfl : report = some t.feed.token := by simpa using hlast
      have hpos : (t.pos : Int) = 30 := by simpa [Token.feed] using hpos
      have hpos : t.pos = 30 := by omega
      have place : ∀ k < 14, (sumThenVar.map Token.pos)[k]? = some 30 → k = 11 := by
        decide +kernel
      have length : sumThenVar.length = 14 := by decide +kernel
      have bound := (List.getElem?_eq_some_iff.1 hk).1
      obtain rfl := place k (length ▸ bound) (by rw [List.getElem?_map, hk, ← hpos]; rfl)
      rw [hkinds'.1] at viable
      rw [hkinds'.2] at hoffence
      exact ⟨viable, hoffence⟩
    · obtain rfl : report = none := by simpa using hlast
      simp at hpos
  exact ⟨sentence.1, offence.1, offence.2, sentence.2⟩

/-- A parse of a text without faults gives the program that its last segment alone would give, if
that is a sentence, and is rejected otherwise. It prints a line for the first error, and for each
later one that comes after at least three tokens. -/
theorem parse_recovers (source : String) (clean : (scan source).fault? = none) :
    let cut := segments (scan source).tokens
    (Sentence (cut.last.map Token.kind) →
      ∃ p, (parseScan false false { scan source with tokens := cut.last }).result = .ok p ∧
        (parse source).result = .ok p) ∧
    (¬ Sentence (cut.last.map Token.kind) → (parse source).result = .error .rejected) ∧
    (parse source).printed =
      String.join (cut.reported.map fun t => errorLine (t.map fun t => t.feed.token)) := by
  have fits := fits_scan source
  rw [parse]
  generalize scan source = scanned at clean fits ⊢
  obtain ⟨ts, line, pos, fault⟩ := scanned
  have hfault : fault = none := clean
  subst hfault
  have hlast : ∀ t ∈ (segments ts).last, t.Fits := by
    intro t ht
    have hmem := mem_segmentsFrom_last ht
    exact fits t hmem
  obtain ⟨phrase, c, hrun, hgives, hreports⟩ := runScan_eq fits line pos true
  obtain ⟨phrase', c', hrun', hgives', -⟩ := runScan_eq hlast line pos true
  simp only [parseScan, hrun, hrun']
  refine ⟨fun sentence => ?_, fun broken => ?_, ?_⟩
  · rw [segments_viable sentence.viable] at hgives'
    obtain rfl := hgives.unique hgives'
    obtain ⟨p, rfl, -⟩ := hgives.exists_program sentence
    exact ⟨p, rfl, rfl⟩
  · obtain rfl := hgives.unique (.nothing broken)
    rfl
  · have hprinted : (Parse.ofRun (.done (.value phrase)) c).printed =
        String.join (c.reports.reverse.map errorLine) := rfl
    rw [hprinted, hreports, List.reverse_reverse, List.map_map]
    rfl

/-- Two functions, with a word before each of them that may not stand there. -/
def twiceStray : String :=
  "var func f() \x7b return; \x7d\nnil func main() \x7b return; \x7d"

theorem parse_recovers_twice :
    (parse twiceStray).result.toOption.map (fun p => p.funcs.map Func.name) = some ["main"] ∧
      (parse twiceStray).printed =
        "Syntax error at 'var' on line 1\nSyntax error at 'nil' on line 2\n" := by
  have clean : (scan twiceStray).fault? = none := by decide +kernel
  let ts := (scan twiceStray).tokens
  let t : Token := ⟨.kVar, .text "var", 1, 0⟩
  let u : Token := ⟨.kNil, .text "nil", 2, 25⟩
  let first := (ts.drop 1).take 8
  let last := ts.drop 10
  have split : ts = [] ++ t :: (first ++ u :: last) := by decide +kernel
  have fits : ∀ x ∈ t :: (first ++ u :: last), x.Fits := by
    have hfits : ∀ x ∈ ts, x.Fits := fits_scan twiceStray
    rwa [split] at hfits
  rw [List.forall_mem_cons, List.forall_mem_append, List.forall_mem_cons] at fits
  obtain ⟨fitsVar, fitsFirst, fitsNil, fitsLast⟩ := fits
  have sentence : Sentence (last.map Token.kind) :=
    sentence_of_silent fitsLast 1 0 true (by decide +kernel)
  have viable : Viable (first.map Token.kind) :=
    (sentence_of_silent fitsFirst 1 0 true (by decide +kernel)).viable
  have broken : ¬ Viable (first.map Token.kind ++ [u.kind]) := by
    have hfits : ∀ x ∈ first ++ [u], x.Fits :=
      List.forall_mem_append.2 ⟨fitsFirst, List.forall_mem_singleton.2 fitsNil⟩
    have hbroken := not_viable_of_report hfits 1 0 true (by decide +kernel)
    rwa [List.map_append] at hbroken
  have brokenVar : ¬ Viable (([] : List Token).map Token.kind ++ [t.kind]) :=
    not_viable_of_report (List.forall_mem_singleton.2 fitsVar) 1 0 true (by decide +kernel)
  have empty : Viable (([] : List Token).map Token.kind) :=
    Viable.of_append (w := []) sentence.viable
  have cut : segments ts = ⟨[([], t), (first, u)], last⟩ := by
    rw [split, segments_offence empty brokenVar,
      segments_offence viable broken, segments_viable sentence.viable]
  obtain ⟨accepted, -, printed⟩ := parse_recovers twiceStray clean
  change segments (scan twiceStray).tokens = _ at cut
  simp only [cut] at accepted printed
  obtain ⟨p, alone, whole⟩ := accepted sentence
  have main : (parseScan false false { scan twiceStray with tokens := last }).result.toOption.map
      (fun p => p.funcs.map Func.name) = some ["main"] := by decide +kernel
  have reported : Segments.reported ⟨[([], t), (first, u)], last⟩ = [some t, some u] := by
    have length : first.length = 8 := by decide +kernel
    simp [Segments.reported, Segments.errors, sentence, length]
  rw [alone] at main
  rw [reported] at printed
  exact ⟨by rw [whole]; exact main, printed.trans (by decide +kernel)⟩
theorem gives_of_parse {source : String} {p : Program} (h : (parse source).result = .ok p) :
    Gives (segments (scan source).tokens).last (.program p) := by
  have fits := fits_scan source
  rw [parse] at h
  generalize scan source = scanned at fits h ⊢
  obtain ⟨ts, line, pos, fault⟩ := scanned
  cases fault with
  | some fault =>
    obtain ⟨c, hrun⟩ := runScan_fault fits line pos true fault
    simp only [parseScan, hrun] at h
    cases h
  | none =>
    obtain ⟨phrase, c, hrun, hgives, -⟩ := runScan_eq fits line pos true
    simp only [parseScan, hrun] at h
    cases phrase with
    | program q =>
      cases h
      exact hgives
    | _ => cases h

theorem filled_of_parse {source : String} {p : Program} (h : (parse source).result = .ok p) :
    p.Filled := by
  cases gives_of_parse h with
  | program _ _ _ filled => exact filled

end Results

end CallByNeed.Language
