import CallByNeed.Grammar.Generator
import CallByNeed.Proofs.Run

set_option autoImplicit false
set_option relaxedAutoImplicit false

/-!
The grammar that is built from a description. Unless a rule is refused it has the rules that are
written, in their order and without their marks of precedence, and the end mark is none of its
symbols.
-/

namespace CallByNeed.Grammar

def shapes (g : Grammar) : List (String × List String) :=
  g.rules.toList.map fun p => (p.name, p.symbols)

/-- The rules are numbered in their order, and the end mark is in none of them. -/
structure Proper (g : Grammar) : Prop where
  number : ∀ {i : Nat} {p : Production}, g.rules[i]? = some p → p.number = i + 1
  start : ∀ {p : Production}, g.startRule = some p → p.number = 0
  symbols : ∀ p ∈ g.allRules, endMark ∉ p.symbols
  names : endMark ∉ g.nonterminals.keys

structure SameRules (g g' : Grammar) : Prop where
  rules : g'.rules = g.rules
  start : g'.startRule = g.startRule
  nonterminals : g'.nonterminals = g.nonterminals

variable {g g' : Grammar}

theorem SameRules.trans {g'' : Grammar} (h : SameRules g g') (h' : SameRules g' g'') :
    SameRules g g'' :=
  ⟨h'.rules.trans h.rules, h'.start.trans h.start, h'.nonterminals.trans h.nonterminals⟩

private theorem SameRules.allRules (same : SameRules g g') : g'.allRules = g.allRules := by
  rw [Grammar.allRules, same.start, same.rules, Grammar.allRules]

private theorem SameRules.shapes (same : SameRules g g') : g'.shapes = g.shapes := by
  rw [Grammar.shapes, same.rules, Grammar.shapes]

theorem Proper.of_same (proper : g.Proper) (same : SameRules g g') : g'.Proper := by
  refine ⟨?_, ?_, ?_, ?_⟩
  · rw [same.rules]
    exact proper.number
  · rw [same.start]
    exact proper.start
  · rw [same.allRules]
    exact proper.symbols
  · rw [same.nonterminals]
    exact proper.names

section Symbols

/-- The symbols of a rule as they are written, with the texts of its literals and without a mark of
precedence. -/
def spelled (symbols : List String) : List String :=
  let read := symbols.map fun symbol => (literal? symbol).getD symbol
  if read.contains precedenceMark then read.take (read.length - 2) else read

private theorem ne_endMark_of_isName {name : String} (h : isName name = true) : name ≠ endMark := by
  rintro rfl
  revert h
  decide

private theorem ne_endMark_of_length {text : String} (h : ¬ text.length > 1) : text ≠ endMark := by
  rintro rfl
  exact h (by decide)

/-- The answer about some symbols leaves the rules alone, and gives the symbols with the texts of
their literals. -/
def Sound (g : Grammar) (symbols : List String) (r : Result (List String)) : Prop :=
  SameRules g r.2 ∧ ∀ out, r.1 = .ok out →
    endMark ∉ out ∧ out = symbols.map fun symbol => (literal? symbol).getD symbol

variable {before : Grammar} {symbols : List String} {r : Result (List String)}

private theorem Sound.of_error {fault : Fault} (same : SameRules g g') :
    Sound g symbols (.error fault, g') :=
  ⟨same, fun out h => (by cases h)⟩

private theorem Sound.pass {fault : Fault} {symbols' : List String}
    (sound : Sound before symbols r) (h : r = (.error fault, g')) (same : SameRules g before) :
    Sound g symbols' (.error fault, g') := by
  subst h
  exact .of_error (same.trans sound.1)

private theorem Sound.cons {out : List String} (sound : Sound before symbols r)
    (h : r = (.ok out, g')) (same : SameRules g before) {symbol text : String}
    (read : (literal? symbol).getD symbol = text) (clean : text ≠ endMark) :
    Sound g (symbol :: symbols) (.ok (text :: out), g') := by
  subst h
  obtain ⟨rest, hout⟩ := sound.2 out rfl
  refine ⟨same.trans sound.1, fun all hall => ?_⟩
  cases hall
  rw [List.mem_cons, not_or, List.map_cons, read, ← hout]
  exact ⟨⟨clean.symm, rest⟩, rfl⟩

private theorem sound_readSymbols (site : Site) (name : String) (symbols : List String) :
    Sound g symbols (g.readSymbols site name symbols) := by
  induction symbols generalizing g with
  | nil => exact ⟨⟨rfl, rfl, rfl⟩, fun out h => (by cases h; exact ⟨List.not_mem_nil, rfl⟩)⟩
  | cons symbol rest ih =>
    rw [readSymbols]
    split
    · next text hliteral =>
      have read : (literal? symbol).getD symbol = text := by rw [hliteral, Option.getD_some]
      split
      · exact .of_error ⟨rfl, rfl, rfl⟩
      · next short =>
        dsimp only
        split
        · next h => exact ih.cons (g := g) h ⟨rfl, rfl, rfl⟩ read (ne_endMark_of_length short)
        · next h => exact ih.pass (g := g) h ⟨rfl, rfl, rfl⟩
    · next hliteral =>
      have read : (literal? symbol).getD symbol = symbol := by rw [hliteral, Option.getD_none]
      split
      · exact .of_error ⟨rfl, rfl, rfl⟩
      · split
        · next known =>
          have clean : symbol ≠ endMark := by
            rcases known with known | rfl
            · exact ne_endMark_of_isName known
            · decide
          split
          · next h => exact ih.cons (g := g) h ⟨rfl, rfl, rfl⟩ read clean
          · next h => exact ih.pass (g := g) h ⟨rfl, rfl, rfl⟩
        · exact .of_error ⟨rfl, rfl, rfl⟩

private theorem rulePrecedence_eq (site : Site) (symbols : List String) :
    SameRules g (g.rulePrecedence site symbols).2 ∧
      ∀ out, (g.rulePrecedence site symbols).1 = .ok out →
        out.2 = if symbols.contains precedenceMark then symbols.take (symbols.length - 2)
          else symbols := by
  unfold rulePrecedence
  split
  · split
    · next name mark rest hsymbols =>
      have parts : symbols = rest.reverse ++ [mark, name] := by
        rw [← List.reverse_reverse symbols, hsymbols]
        simp
      split
      · exact ⟨⟨rfl, rfl, rfl⟩, fun out h => (by cases h)⟩
      · split
        · exact ⟨⟨rfl, rfl, rfl⟩, fun out h => (by cases h)⟩
        · split
          · exact ⟨⟨rfl, rfl, rfl⟩, fun out h => (by cases h)⟩
          · refine ⟨⟨rfl, rfl, rfl⟩, fun out h => ?_⟩
            cases h
            simp [parts]
    · exact ⟨⟨rfl, rfl, rfl⟩, fun out h => (by cases h)⟩
  · refine ⟨⟨rfl, rfl, rfl⟩, fun out h => ?_⟩
    cases h
    rfl

end Symbols

section Rules

private theorem not_mem_keys_insertNew {α : Type} {m : OrderedMap α} {key other : String} {value : α}
    (absent : other ∉ m.keys) (differ : key ≠ other) : other ∉ (m.insertNew key value).keys := by
  unfold OrderedMap.insertNew
  split
  · exact absent
  · simpa [OrderedMap.keys, Ne.symm differ] using absent

private theorem noteUse_proper (proper : g.Proper) (number : Nat) {symbols : List String}
    (clean : endMark ∉ symbols) :
    (symbols.foldl (noteUse number) g).rules = g.rules ∧
      (symbols.foldl (noteUse number) g).Proper := by
  induction symbols generalizing g with
  | nil => exact ⟨rfl, proper⟩
  | cons symbol symbols ih =>
    rw [List.mem_cons, not_or] at clean
    have noted : (g.noteUse number symbol).rules = g.rules ∧ (g.noteUse number symbol).Proper := by
      unfold noteUse
      split
      · exact ⟨rfl, proper.of_same ⟨rfl, rfl, rfl⟩⟩
      · refine ⟨rfl, proper.number, proper.start, proper.symbols, ?_⟩
        rw [OrderedMap.keys_modify]
        exact not_mem_keys_insertNew proper.names (Ne.symm clean.1)
    obtain ⟨rules, proper'⟩ := ih noted.2 clean.2
    exact ⟨rules.trans noted.1, proper'⟩

private theorem Proper.push (proper : g.Proper) {name : String} (named : isName name = true)
    {symbols : List String} (clean : endMark ∉ symbols) (precedence : Precedence)
    (action : Option String) (site : Site) :
    (g.push name symbols precedence action site).Proper ∧
      (g.push name symbols precedence action site).shapes = g.shapes ++ [(name, symbols)] := by
  have known : { g with nonterminals := g.nonterminals.insertNew name [] : Grammar }.Proper :=
    ⟨proper.number, proper.start, proper.symbols,
      not_mem_keys_insertNew proper.names (ne_endMark_of_isName named)⟩
  obtain ⟨rules, noted⟩ := noteUse_proper known (g.rules.size + 1) clean
  refine ⟨⟨fun {i p} h => ?_, noted.start, fun p mem => ?_, noted.names⟩, ?_⟩
  · unfold Grammar.push at h
    dsimp only at h
    rw [Array.getElem?_push] at h
    split at h
    · next last =>
      cases h
      rw [last, rules]
    · exact noted.number h
  · unfold Grammar.push Grammar.allRules at mem
    dsimp only at mem
    rw [Array.toList_push, ← List.append_assoc, List.mem_append, List.mem_singleton] at mem
    rcases mem with mem | rfl
    · exact noted.symbols p mem
    · exact clean
  · unfold Grammar.push Grammar.shapes
    dsimp only
    rw [Array.toList_push, List.map_append, rules]
    rfl

private theorem Proper.add (proper : g.Proper) (name : String) (symbols : List String)
    (action : Option String) (site : Site) :
    (g.add name symbols action site).2.Proper ∧ ((g.add name symbols action site).1 = .ok () →
      (g.add name symbols action site).2.shapes = g.shapes ++ [(name, spelled symbols)]) := by
  unfold Grammar.add
  split
  · exact ⟨proper, fun h => (by cases h)⟩
  split
  · exact ⟨proper, fun h => (by cases h)⟩
  · next named =>
    have sound := sound_readSymbols (g := g) site name symbols
    split
    · next h =>
      rw [h] at sound
      exact ⟨proper.of_same sound.1, fun h => (by cases h)⟩
    · next read g₁ h =>
      rw [h] at sound
      obtain ⟨clean, hread⟩ := sound.2 read rfl
      have ranked := rulePrecedence_eq (g := g₁) site read
      split
      · next h =>
        rw [h] at ranked
        exact ⟨proper.of_same (sound.1.trans ranked.1), fun h => (by cases h)⟩
      · next precedence bare g₂ h =>
        rw [h] at ranked
        have same := sound.1.trans ranked.1
        have hbare : bare = spelled symbols := by
          rw [spelled, ← hread]
          exact ranked.2 _ rfl
        have part : endMark ∉ bare := by
          rw [hbare, spelled, ← hread]
          split
          · exact fun mem => clean (List.mem_of_mem_take mem)
          · exact clean
        split
        · exact ⟨proper.of_same same, fun h => (by cases h)⟩
        · obtain ⟨proper', pushed⟩ :=
            (proper.of_same same).push (by simpa using named) part precedence action site
          exact ⟨proper', fun _ => by rw [pushed, same.shapes, hbare]⟩

private theorem Proper.setStart (proper : g.Proper) (start : Option String) {p : Production}
    (h : g.setStart start = (.ok p, g')) :
    g'.Proper ∧ g'.shapes = g.shapes ∧ ∃ name,
      (start.filter (!·.isEmpty)).or (g.shapes.head?.map Prod.fst) = some name ∧
      g'.startRule = some { number := 0, name := startName, symbols := [name] } := by
  have first : g.shapes.head?.map Prod.fst = g.rules[0]?.map (·.name) := by
    rw [Grammar.shapes, List.head?_map, Option.map_map, List.head?_eq_getElem?,
      Array.getElem?_toList]
    rfl
  unfold Grammar.setStart at h
  dsimp only at h
  split at h
  · cases h
  · next name hname =>
    split at h
    · next known =>
      cases h
      have clean : endMark ≠ name := by
        rintro rfl
        obtain ⟨entry, mem, same⟩ := List.any_eq_true.1 known
        exact proper.names (List.mem_map.2 ⟨entry, mem, beq_iff_eq.1 same⟩)
      refine ⟨⟨proper.number, fun hp => ?_, fun p mem => ?_, ?_⟩, rfl, name, ?_, rfl⟩
      · cases hp
        rfl
      · rcases List.mem_cons.1 mem with rfl | mem
        · exact fun mem => clean (List.mem_singleton.1 mem)
        · exact proper.symbols p (List.mem_append_right _ mem)
      · rw [OrderedMap.keys_modify]
        exact proper.names
      · rw [first]
        cases start with
        | none => exact hname
        | some given =>
          dsimp only at hname
          rw [Option.filter_some]
          cases hgiven : given.isEmpty with
          | true =>
            rw [hgiven] at hname
            exact hname
          | false =>
            rw [hgiven] at hname
            exact hname
    · cases h

end Rules

section Description

def Description.Findings.shapes (findings : Description.Findings) : List (String × List String) :=
  findings.rules.map fun rule => (rule.2.name, spelled rule.2.symbols)

/-- The symbol that a description starts with: the one that it names, or else that of its first
rule. -/
def Description.Findings.start? (findings : Description.Findings) (start : Option Datum) :
    Option String :=
  ((start.bind Datum.text?).filter (!·.isEmpty)).or (findings.shapes.head?.map Prod.fst)

private theorem proper_ofTokens (tokens : List String) : (ofTokens tokens).Proper := by
  refine ⟨fun h => ?_, fun h => ?_, fun p mem => ?_, fun mem => ?_⟩
  · simp [ofTokens] at h
  · simp [ofTokens] at h
  · simp [ofTokens, allRules] at mem
  · simp [ofTokens, OrderedMap.keys] at mem

private theorem sameRules_setPrecedence (g : Grammar) (symbol associativity : String)
    (level : Int) : SameRules g (g.setPrecedence symbol associativity level).2 := by
  unfold setPrecedence
  split
  · exact ⟨rfl, rfl, rfl⟩
  · split
    · exact ⟨rfl, rfl, rfl⟩
    · split
      · exact ⟨rfl, rfl, rfl⟩
      · exact ⟨rfl, rfl, rfl⟩

private theorem sameRules_setRankings (rankings : List Description.Ranking) :
    Answers (setRankings g rankings) (SameRules g) := by
  induction rankings generalizing g with
  | nil => exact answers_pure ⟨rfl, rfl, rfl⟩
  | cons r rest ih =>
    have same := sameRules_setPrecedence g r.symbol r.associativity r.level
    have later : Answers ((g.setPrecedence r.symbol r.associativity r.level).2.setRankings rest)
        (SameRules g) := ih.imp fun _ same' => same.trans same'
    unfold Grammar.setRankings
    dsimp only
    split
    · exact later
    · exact answers_then fun _ => later

private theorem Proper.addRulesOf (proper : g.Proper) (failed : Bool)
    (rules : List Description.NamedRule) :
    Answers (addRulesOf g failed rules) fun out => out.1.Proper ∧ (out.2 = false →
      failed = false ∧
        out.1.shapes = g.shapes ++ rules.map fun rule => (rule.2.name, spelled rule.2.symbols)) := by
  induction rules generalizing g failed with
  | nil => exact answers_pure ⟨proper, fun h => ⟨h, (List.append_nil _).symm⟩⟩
  | cons rule rest ih =>
    obtain ⟨proper', added⟩ := proper.add rule.2.name rule.2.symbols (some rule.1) rule.2.site
    unfold Grammar.addRulesOf
    dsimp only
    split
    · next hadd =>
      refine (ih proper' failed).imp fun out answer => ⟨answer.1, fun h => ?_⟩
      obtain ⟨hfailed, hshapes⟩ := answer.2 h
      refine ⟨hfailed, ?_⟩
      rw [hshapes, added hadd, List.append_assoc]
      rfl
    · refine answers_then fun _ => (ih proper' true).imp fun out answer => ⟨answer.1, fun h => ?_⟩
      cases (answer.2 h).1
    · exact answers_throw

/-- A grammar that is built has the rules of its description. -/
theorem shapes_grammarOf (tokens : List String) (start : Option Datum)
    (findings : Description.Findings) :
    Answers (grammarOf tokens start findings) fun g => g.Proper ∧ g.shapes = findings.shapes ∧
      ∃ name, findings.start? start = some name ∧
        g.startRule = some { number := 0, name := startName, symbols := [name] } := by
  unfold grammarOf
  refine answers_bind (sameRules_setRankings findings.rankings) fun g same => ?_
  have empty : g.shapes = [] := same.shapes
  refine answers_bind (((proper_ofTokens tokens).of_same same).addRulesOf false findings.rules)
    fun out answer => ?_
  obtain ⟨g, refused⟩ := out
  dsimp only at answer ⊢
  split
  · next h =>
    obtain ⟨proper, hshapes, name, hname, hstart⟩ :=
      answer.1.setStart (start.bind Datum.text?) (Prod.ext h rfl)
    split
    · exact answers_throw
    · next accepted =>
      have written : g.shapes = findings.shapes := by
        rw [(answer.2 (by simpa using accepted)).2, empty]
        rfl
      rw [written] at hname
      exact answers_pure ⟨proper, hshapes.trans written, name, hname, hstart⟩
  · exact answers_then fun _ => answers_throw
  · exact answers_throw

end Description

end CallByNeed.Grammar
