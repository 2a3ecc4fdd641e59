import CallByNeed.Proofs.Scan.Lexeme

set_option autoImplicit false
set_option relaxedAutoImplicit false

/-!
A scan is stable: the texts of the tokens of a source, written one on each line, are scanned as the
same tokens. What a lexeme was followed by in the source, a comment or another lexeme, does not
matter. At the end of a line it is taken for the same lexeme, and the line feed keeps it apart from
the next one.
-/

namespace CallByNeed.Language

def Token.textIn (source : List Char) (t : Token) : List Char :=
  match source.drop t.pos with
  | [] => []
  | c :: rest => (takeLexeme c rest).1.text

def relined (source : String) : String :=
  "\n".intercalate ((scan source).tokens.map fun t => String.ofList (t.textIn source.toList))

section Alone

private theorem Unquoted.of_newline {s : List Char} (stop : ∀ c ∈ s.head?, c = '\n') :
    Unquoted s := by
  rintro (- | ⟨b, body⟩) after rfl
  · exact absurd (stop '"' rfl) (by decide)
  · exact stop b rfl ▸ List.mem_cons_self

private theorem not_pairMarks_newline (c : Char) (kind : Terminal) :
    (kind, c, '\n') ∉ pairMarks := by
  intro hmem
  exact not_mem_newline_pairMarks hmem (by simp)

/-- The lexeme of a token is taken also where nothing or a line feed follows. -/
theorem Takes.alone {s after rest : List Char} {l : Lexeme} (h : Takes s l after) {line pos : Nat}
    {t : Token} (gives : l.token? line pos = .ok (some t)) (stop : ∀ c ∈ rest.head?, c = '\n') :
    Takes (l.text ++ rest) l rest := by
  cases h with
  | number digits _ => exact .number digits fun c hc => stop c hc ▸ by decide
  | word starts all _ => exact .word starts all fun c hc => stop c hc ▸ by decide
  | newlines | comment => cases gives
  | string quote line =>
    have taken : Takes _ _ rest := .string quote line
    simpa [Lexeme.text] using taken
  | pair mem => exact .pair mem
  | single digit word line _ _ _ =>
    refine .single digit word line ?_ (fun _ => .of_newline stop) ?_
    · rintro - inside rfl
      exact absurd (stop '*' rfl) (by decide)
    · intro b hb kind
      rw [stop b hb]
      exact not_pairMarks_newline _ kind

end Alone

section Lines

def Token.Reads (t : Token) (text : List Char) : Prop :=
  ∃ s l after, Unblank s ∧ Takes s l after ∧ l.text = text ∧ l.token? t.line t.pos = .ok (some t)

private theorem Token.Arises.reads {t : Token} {source : List Char} {line : Nat}
    (h : t.Arises line 0 source) : t.Reads (t.textIn source) := by
  obtain ⟨before, place, l, after, rfl, -, hpos, start, takes, gives⟩ := h
  refine ⟨place, l, after, start, takes, ?_, gives⟩
  rw [Token.textIn, hpos, Nat.zero_add, List.drop_left]
  cases place with
  | nil => cases takes
  | cons c rest => simp only [takes.takeLexeme_eq]

private theorem Lexeme.token_elsewhere {l : Lexeme} {line pos : Nat} {t : Token}
    (h : l.token? line pos = .ok (some t)) (line' pos' : Nat) :
    l.token? line' pos' = .ok (some ⟨t.kind, t.payload, line', pos'⟩) := by
  cases l with
  | number digits =>
    simp only [Lexeme.token?] at h ⊢
    split at h
    · cases h
      rfl
    · cases h
  | word text | string body | mark kind text =>
    cases h
    rfl
  | newlines text | comment text => cases h

private theorem scanFrom_takes {s after : List Char} {l : Lexeme} (start : Unblank s)
    (takes : Takes s l after) {line pos : Nat} {token : Option Token}
    (gives : l.token? line pos = .ok token) :
    scanFrom line pos s =
      { scanFrom (line + l.lines) (pos + l.text.length) after with
        tokens := token.toList ++
          (scanFrom (line + l.lines) (pos + l.text.length) after).tokens } := by
  cases s with
  | nil => cases takes
  | cons c s =>
    rw [scanFrom, if_neg (start c rfl), takes.takeLexeme_eq]
    simp only [gives]

/-- A token's text is scanned as the token, if the rest starts with a line feed or is empty. -/
theorem Token.Reads.finds {t : Token} {text rest : List Char} {signs : List Sign}
    (h : t.Reads text) (stop : ∀ c ∈ rest.head?, c = '\n')
    (later : ∀ line pos, (scanFrom line pos rest).Finds signs) (line pos : Nat) :
    (scanFrom line pos (text ++ rest)).Finds (t.sign :: signs) := by
  obtain ⟨s, l, after, start, takes, rfl, gives⟩ := h
  have unblank : Unblank (l.text ++ rest) := by
    intro c hc
    apply start c
    rw [takes.eq_append]
    obtain ⟨d, ds, hd⟩ := List.exists_cons_of_ne_nil takes.text_ne_nil
    rw [hd, List.cons_append] at hc ⊢
    exact hc
  obtain ⟨hsigns, hfault⟩ := later (line + l.lines) (pos + l.text.length)
  rw [scanFrom_takes unblank (takes.alone gives stop) (Lexeme.token_elsewhere gives line pos)]
  exact ⟨congrArg (t.sign :: ·) hsigns, hfault⟩

private theorem Token.Reads.head_ne {t : Token} {text : List Char} (h : t.Reads text)
    (rest : List Char) :
    ∀ c ∈ (text ++ rest).head?, c ≠ '\n' := by
  obtain ⟨s, l, after, -, takes, rfl, gives⟩ := h
  obtain ⟨d, ds, hd⟩ := List.exists_cons_of_ne_nil takes.text_ne_nil
  have hlines : l.lines = 0 := by
    cases l with
    | newlines | comment => cases gives
    | number | word | string | mark => rfl
  have hcount := takes.lines_eq
  rw [hlines, hd] at hcount
  have hnot : '\n' ∉ d :: ds := List.count_eq_zero.1 hcount.symm
  rw [hd]
  rintro c hc rfl
  cases hc
  exact hnot List.mem_cons_self

private theorem exists_intercalate_cons (text : List Char) (texts : List (List Char)) :
    ∃ rest, ['\n'].intercalate (text :: texts) = text ++ rest := by
  cases texts with
  | nil => exact ⟨[], by rw [List.intercalate_singleton, List.append_nil]⟩
  | cons u us => exact ⟨_, by rw [List.intercalate_cons_cons, List.append_assoc]⟩

/-- A line feed before a text that starts with none changes nothing in what is found. -/
theorem finds_after_newline {s : List Char} {signs : List Sign} (head : ∀ c ∈ s.head?, c ≠ '\n')
    (h : ∀ line pos, (scanFrom line pos s).Finds signs) (line pos : Nat) :
    (scanFrom line pos ('\n' :: s)).Finds signs := by
  have none : ∀ x ∈ ([] : List Char), x = '\n' := by simp
  have takes : Takes ('\n' :: s) (.newlines ['\n']) s := .newlines none head
  have start : Unblank ('\n' :: s) := fun c hc => Option.some.inj hc ▸ by decide
  have gives : (Lexeme.newlines ['\n']).token? line pos = .ok Option.none := rfl
  rw [scanFrom_takes start takes gives]
  exact h _ _

private theorem finds_lines {text : Token → List Char} {ts : List Token}
    (reads : ∀ t ∈ ts, t.Reads (text t)) (line pos : Nat) :
    (scanFrom line pos (['\n'].intercalate (ts.map text))).Finds (ts.map Token.sign) := by
  induction ts generalizing line pos with
  | nil =>
    rw [List.map_nil, List.intercalate_nil, scanFrom]
    exact ⟨rfl, rfl⟩
  | cons t ts ih =>
    obtain ⟨first, others⟩ := List.forall_mem_cons.1 reads
    cases ts with
    | nil =>
      have nothing : ∀ line pos, (scanFrom line pos []).Finds [] := fun line pos => by
        rw [scanFrom]
        exact ⟨rfl, rfl⟩
      have hfinds := first.finds (by simp) nothing line pos
      rw [List.append_nil] at hfinds
      rw [List.map_singleton, List.map_singleton, List.intercalate_singleton]
      exact hfinds
    | cons u us =>
      have later : ∀ line pos, (scanFrom line pos
          ('\n' :: ['\n'].intercalate ((u :: us).map text))).Finds ((u :: us).map Token.sign) := by
        obtain ⟨rest, hrest⟩ := exists_intercalate_cons (text u) (us.map text)
        refine finds_after_newline ?_ (ih others)
        rw [List.map_cons, hrest]
        exact (others u List.mem_cons_self).head_ne rest
      rw [List.map_cons, List.map_cons, List.intercalate_cons_cons, List.append_assoc]
      exact first.finds (by simp) later line pos

end Lines

/-- The texts of the tokens of a source, one on each line, are scanned without a fault as tokens of
the same kinds with the same payloads. This holds also of the tokens before a fault. -/
theorem scan_relined (source : String) :
    (scan (relined source)).tokens.map Token.sign = (scan source).tokens.map Token.sign ∧
      (scan (relined source)).fault? = none := by
  have reads : ∀ t ∈ (scan source).tokens, t.Reads (t.textIn source.toList) := by
    intro t ht
    exact ((scans_scanFrom 1 0 source.toList).arises t ht).reads
  have hlist : (relined source).toList =
      ['\n'].intercalate ((scan source).tokens.map (·.textIn source.toList)) := by
    rw [relined, String.toList_intercalate, List.map_map]
    congr 1
    exact List.map_congr_left fun t _ => String.toList_ofList
  rw [scan, hlist]
  exact finds_lines reads 1 0

end CallByNeed.Language
