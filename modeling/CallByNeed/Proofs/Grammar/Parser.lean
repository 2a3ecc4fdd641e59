import CallByNeed.Proofs.Grammar.Accept
import CallByNeed.Proofs.Grammar.Rules
import CallByNeed.Proofs.Grammar.Tables

set_option autoImplicit false
set_option relaxedAutoImplicit false

/-!
From descriptions to parsers. Whatever conflicts a description has and however they are settled, a
parse by the tables that are built for it ends without a complaint only for words that its rules
derive from its start symbol.
-/

namespace CallByNeed.Grammar

section Chart

variable {rules : Rules} {s : States}

def States.chart (s : States) (grounded : s.Grounded rules) : LR.Chart String where
  rules := rules.toList.map fun p => (p.name, p.symbols)
  edge i symbol j := s.move? i symbol = some j
  holds i rule dot := ⟨rule, dot⟩ ∈ s.items i
  back := by
    intro i j rule dot symbol move mem
    obtain ⟨prev, hprev, next, hadvance⟩ := grounded.back move _ mem (Nat.succ_ne_zero dot)
    obtain rfl : prev = ⟨rule, dot⟩ := by
      cases prev
      cases hadvance
      rfl
    refine ⟨hprev, fun head body hrule => ?_⟩
    rw [List.getElem?_map, Array.getElem?_toList] at hrule
    obtain ⟨p, hp, pair⟩ := Option.map_eq_some_iff.1 hrule
    cases pair
    rw [Item.next?, Item.production, hp, Option.getD_some] at next
    exact next
  bottom := grounded.zero _
  start := grounded.start
  later := grounded.later

private theorem chart_rules (grounded : s.Grounded rules) :
    (s.chart grounded).rules = rules.toList.map fun p => (p.name, p.symbols) := rfl

end Chart

section Follows

variable {g : Grammar} {rules : Rules} {s : States} {t : Tables}

private theorem Proper.number_eq (proper : g.Proper) (hrules : g.numbered? = some rules) {i : Nat}
    {p : Production} (h : rules[i]? = some p) : p.number = i := by
  obtain ⟨start, hstart, rfl⟩ := Option.map_eq_some_iff.1 hrules
  cases i with
  | zero =>
    rw [Array.getElem?_append_left (by simp)] at h
    cases h
    exact proper.start hstart
  | succ i =>
    rw [Array.getElem?_append_right (by simp)] at h
    exact proper.number h

private theorem allRules_eq (hrules : g.numbered? = some rules) : g.allRules = rules.toList := by
  obtain ⟨start, hstart, rfl⟩ := Option.map_eq_some_iff.1 hrules
  rw [allRules, hstart]
  simp

private theorem Proper.production_eq (proper : g.Proper) (hrules : g.numbered? = some rules)
    {item : Item} (valid : item.Valid rules) :
    rules[item.rule]? = some (item.production rules) := by
  rw [Item.production]
  rcases valid.2 with zero | ⟨p, mem, hp⟩
  · obtain ⟨start, -, rfl⟩ := Option.map_eq_some_iff.1 hrules
    rw [zero, Array.getElem?_append_left (by simp)]
    rfl
  · obtain ⟨i, hi⟩ := List.mem_iff_getElem?.1 mem
    rw [Array.getElem?_toList] at hi
    rw [← hp, proper.number_eq hrules hi, hi, Option.getD_some]

private theorem Proper.completes (proper : g.Proper) (hrules : g.numbered? = some rules)
    (grounded : s.Grounded rules) {item : Item} {state : Nat} (mem : item ∈ s.items state)
    (done : item.next? rules = none) : (s.chart grounded).Completes state item.rule := by
  have valid := grounded.valid item mem
  refine ⟨(item.production rules).name, (item.production rules).symbols, ?_, ?_⟩
  · rw [chart_rules, List.getElem?_map, Array.getElem?_toList, proper.production_eq hrules valid]
    rfl
  · have whole : (item.production rules).symbols.length = item.dot :=
      Nat.le_antisymm (List.getElem?_eq_none_iff.1 done) valid.1
    rw [whole]
    exact mem

private theorem Justified.completes {i rule : Nat} {symbol : String}
    (h : Justified rules s i symbol (.reduce rule)) (proper : g.Proper)
    (hrules : g.numbered? = some rules) (grounded : s.Grounded rules) :
    rule ≠ 0 ∧ (s.chart grounded).Completes i rule := by
  cases h with
  | @reduce item mem done nonzero =>
    have production := proper.production_eq hrules (grounded.valid item mem)
    rw [proper.number_eq hrules production]
    exact ⟨nonzero, proper.completes hrules grounded mem done⟩

private theorem Justified.ne_endMark {i j : Nat} {symbol : String}
    (h : Justified rules s i symbol (.shift j)) (proper : g.Proper)
    (hrules : g.numbered? = some rules) (grounded : s.Grounded rules) : symbol ≠ endMark := by
  cases h with
  | @shift item _ mem next _ =>
    have production := proper.production_eq hrules (grounded.valid item mem)
    have known : item.production rules ∈ g.allRules := by
      rw [allRules_eq hrules]
      exact Array.mem_toList_iff.2 (Array.mem_of_getElem? production)
    rintro rfl
    exact proper.symbols _ known (List.mem_of_getElem? next)

private theorem Tables.Grounded.justified (tables : t.Grounded rules s) {d : Description}
    {useDefaults : Bool} {i : Nat} {symbol : String} {a : LR.Action}
    (h : ((parserOf g d t).automaton useDefaults).action i symbol = some a) :
    Justified rules s i symbol a := by
  obtain ⟨row, hrow, ha⟩ := Option.bind_eq_some_iff.1 (Option.join_eq_some_iff.1 h)
  exact tables.action hrow ha

private theorem Tables.Grounded.justified_defaulted (tables : t.Grounded rules s) {d : Description}
    {i rule : Nat} (h : (parserOf g d t).defaulted? i = some rule) :
    ∃ symbol, Justified rules s i symbol (.reduce rule) := by
  unfold Parser.defaulted? at h
  split at h
  · next symbol number hentries =>
    obtain rfl := Option.some.inj h
    obtain ⟨row, hrow, entries⟩ := Option.map_eq_some_iff.1 hentries
    have entry : row.get? symbol = some (some (.reduce number)) := by
      rw [OrderedMap.get?, entries]
      simp
    exact ⟨symbol, tables.action hrow entry⟩
  · cases h

private theorem follows_parserOf (proper : g.Proper) (hrules : g.numbered? = some rules)
    (grounded : s.Grounded rules) (tables : t.Grounded rules s) (d : Description)
    (useDefaults : Bool) :
    ((parserOf g d t).automaton useDefaults).Follows (s.chart grounded) where
  shift h := by
    have justified := tables.justified h
    refine ⟨?_, justified.ne_endMark proper hrules grounded⟩
    cases justified with
    | shift _ _ move => exact move
  goto hrow hj := by
    dsimp only [Parser.automaton, parserOf] at hrow
    split at hrow
    · cases hrow
    · next gotos hgotos =>
      cases hrow
      exact tables.goto hgotos hj
  reduce h := (tables.justified h).completes proper hrules grounded
  defaulted h := by
    dsimp only [Parser.automaton] at h
    split at h
    · obtain ⟨symbol, justified⟩ := tables.justified_defaulted h
      exact justified.completes proper hrules grounded
    · cases h
  accept h := by
    cases tables.justified h with
    | @accept item mem done start final =>
      have completes := proper.completes hrules grounded mem done
      rw [start] at completes
      exact ⟨final, completes⟩
  rule h := by
    obtain ⟨r, hr, hshape⟩ := Option.map_eq_some_iff.1 h
    dsimp only [parserOf] at hr
    rw [allRules_eq hrules, List.getElem?_toArray, List.getElem?_map] at hr
    obtain ⟨p, hp, rfl⟩ := Option.map_eq_some_iff.1 hr
    cases hshape
    refine ⟨p.symbols, ?_, rfl⟩
    rw [chart_rules, List.getElem?_map, hp]
    rfl

end Follows

section Build

variable {g : Grammar}

private theorem sameRules_computeFirst (g : Grammar) : SameRules g g.computeFirst.2 := by
  unfold computeFirst
  split
  · exact ⟨rfl, rfl, rfl⟩
  · dsimp only
    split
    · exact ⟨rfl, rfl, rfl⟩
    · exact ⟨rfl, rfl, rfl⟩

private theorem sameRules_computeFollow (g : Grammar) (start : Option String) :
    SameRules g (g.computeFollow start).2 := by
  unfold computeFollow
  split
  · exact ⟨rfl, rfl, rfl⟩
  · have first : SameRules g (if g.first.isEmpty then g.computeFirst else (.ok g.first, g)).2 := by
      split
      · exact sameRules_computeFirst g
      · exact ⟨rfl, rfl, rfl⟩
    split
    · next h => exact h ▸ first
    · next h =>
      rw [h] at first
      refine first.trans ?_
      dsimp only
      split
      · exact ⟨rfl, rfl, rfl⟩
      · split
        · exact ⟨rfl, rfl, rfl⟩
        · exact ⟨rfl, rfl, rfl⟩

private theorem sameRules_buildFrom (g : Grammar) (rules : Rules) (method : Method) :
    SameRules g (g.buildFrom rules method).grammar := by
  unfold buildFrom
  dsimp only
  split
  · exact ⟨rfl, rfl, rfl⟩
  · exact ⟨rfl, rfl, rfl⟩

private theorem grounded_build {method : String} {t : Tables}
    (h : (g.build method).outcome = .ok t) :
    SameRules g (g.build method).grammar ∧ ∃ rules stamps, g.numbered? = some rules ∧
      t.Grounded rules (buildStates rules stamps) := by
  unfold build at h ⊢
  split at h
  · cases h
  split at h
  · cases h
  · next rules hrules =>
    have first := sameRules_computeFirst g
    split at h
    · cases h
    · next g₁ h₁ =>
      rw [h₁] at first
      have follow := sameRules_computeFollow g₁ none
      split at h
      · cases h
      · next g₂ h₂ =>
        rw [h₂] at follow
        exact ⟨(first.trans follow).trans (sameRules_buildFrom g₂ rules _), rules, g₂.stamps,
          hrules, grounded_buildFrom h⟩

end Build

section Sound

/-- None of the rules refuses the symbols it takes. -/
def Parser.Willing (p : Parser) : Prop :=
  ∀ {number : Nat} {rule : ParserRule} {action : RuleAction}, p.rules[number]? = some rule →
    rule.action = some (.ok action) → action ≠ .refuse ∧ ∀ value, action ≠ .refuseIf value

private theorem bind_some_ne_none {α : Type} (x : Except ParseFault α) (f : α → Entry) :
    (x >>= fun a => pure (some (f a))) ≠ .ok none := by
  cases x with
  | error fault => exact fun h => (by cases h)
  | ok a => exact fun h => (by cases h)

private theorem apply_ne_none {action : RuleAction} (refuse : action ≠ .refuse)
    (refuseIf : ∀ value, action ≠ .refuseIf value) (slice : LR.Slice String Value) :
    action.apply slice ≠ .ok none := by
  cases action with
  | tree | span | slice | names | place => exact bind_some_ne_none _ _
  | nothing => exact fun h => (by cases h)
  | pass =>
    unfold RuleAction.apply
    dsimp only
    split
    · exact fun h => (by cases h)
    · split
      · exact fun h => (by cases h)
      · exact fun h => (by cases h)
  | left =>
    unfold RuleAction.apply
    dsimp only
    split
    · exact fun h => (by cases h)
    · exact bind_some_ne_none _ _
  | refuse => exact absurd rfl refuse
  | refuseIf value => exact absurd rfl (refuseIf value)

private theorem Parser.Willing.reduce_ne_refused {p : Parser} (willing : p.Willing) (o : Options)
    (number : Nat) (slice : LR.Slice String Value) :
    (p.machine o).reduce number slice ≠ .refused := by
  dsimp only [Parser.machine]
  split
  · next action haction =>
    obtain ⟨rule, hrule, haction⟩ := Option.bind_eq_some_iff.1 haction
    obtain ⟨refuse, refuseIf⟩ := willing hrule haction
    unfold RuleAction.reduction
    split
    · exact fun h => (by cases h)
    · next h => exact absurd h (apply_ne_none refuse refuseIf slice)
    · exact fun h => (by cases h)
  · exact fun h => (by cases h)
  · exact fun h => (by cases h)

/-- A parse ends without a complaint only for words that the rules derive from the symbol. -/
def Parser.SoundFor (p : Parser) (rules : List (String × List String)) (start : String) : Prop :=
  ∀ (o : Options) (input : List (LR.Feed String Value)) (recovered : Bool)
    (content : LR.Content String Value) (c : LR.Configuration String Value CallFault),
    (∀ feed ∈ input, feed.token.symbol ≠ endMark) →
    p.run o input recovered = (.done content, c) → c.Silent →
    LR.Yields rules [start] (input.map (·.token.symbol))

private theorem soundFor_parserOf {g : Grammar} (proper : g.Proper) {name : String}
    (hstart : g.startRule = some { number := 0, name := startName, symbols := [name] })
    {method : String} {t : Tables} (built : (g.build method).outcome = .ok t) (d : Description)
    (willing : (parserOf (g.build method).grammar d t).Willing) :
    (parserOf (g.build method).grammar d t).SoundFor g.shapes name := by
  intro o input recovered content c tokens hrun silent
  obtain ⟨same, rules, stamps, hrules, grounded⟩ := grounded_build built
  have hrules' : (g.build method).grammar.numbered? = some rules := by
    rw [numbered?, same.start, same.rules]
    exact hrules
  have follows := follows_parserOf (proper.of_same same) hrules' (grounded_buildStates rules stamps)
    grounded d o.useDefaults
  obtain ⟨head, body, first, yields⟩ := LR.Machine.accepts_of_run
    (m := (parserOf (g.build method).grammar d t).machine o) follows (willing.reduce_ne_refused o)
    tokens hrun silent
  have chartRules : ((buildStates rules stamps).chart (grounded_buildStates rules stamps)).rules =
      (startName, [name]) :: g.shapes := by
    rw [numbered?, hstart] at hrules
    obtain rfl := Option.some.inj hrules
    rw [chart_rules, Array.toList_append]
    rfl
  rw [chartRules] at first yields
  cases first
  exact yields

private theorem outcome_tablesOf (g : Grammar) (o : BuildOptions) :
    Answers (tablesOf g o) fun out =>
      out.1 = (g.build o.method).grammar ∧ (g.build o.method).outcome = .ok out.2 := by
  unfold tablesOf
  split
  · refine answers_then fun _ => answers_then fun _ => ?_
    split
    · exact answers_throw
    · next h => exact answers_then fun _ => answers_pure ⟨rfl, h⟩
  · refine answers_then fun _ => ?_
    split
    · exact answers_throw
    · next h => exact answers_pure ⟨rfl, h⟩

private theorem soundFor_buildFound (d : Description) (o : BuildOptions) (tokens : List String)
    (signature : String) (findings : Description.Findings) :
    Answers (buildFound d o tokens signature findings) fun product =>
      ∃ name, findings.start? d.start = some name ∧
        (product.parser.Willing → product.parser.SoundFor findings.shapes name) := by
  unfold buildFound
  refine answers_bind (shapes_grammarOf tokens d.start findings) fun g found => ?_
  obtain ⟨proper, hshapes, name, hname, hstart⟩ := found
  refine answers_then fun failed => ?_
  split
  · exact answers_throw_bind
  · refine answers_bind (outcome_tablesOf g o) fun out built => ?_
    obtain ⟨_, tables⟩ := out
    obtain ⟨rfl, built⟩ := built
    refine answers_then fun saved => ?_
    split
    · exact answers_throw_bind
    · refine answers_pure ⟨name, hname, fun willing => ?_⟩
      rw [← hshapes]
      exact soundFor_parserOf proper hstart built d willing

/-- A parser that is built for a description, and whose rules refuse nothing, is sound for the rules
of the description. -/
theorem soundFor_buildNew (d : Description) (o : BuildOptions) (tokens : List String)
    (signature : String) :
    Answers (buildNew d o tokens signature) fun product =>
      ∃ findings name, d.reviewAll tokens = .ok findings ∧ findings.start? d.start = some name ∧
        (product.parser.Willing → product.parser.SoundFor findings.shapes name) := by
  have found (findings : Description.Findings) (h : d.reviewAll tokens = .ok findings) :
      Answers (buildFound d o tokens signature findings) fun product =>
        ∃ findings name, d.reviewAll tokens = .ok findings ∧
          findings.start? d.start = some name ∧
          (product.parser.Willing → product.parser.SoundFor findings.shapes name) := by
    refine (soundFor_buildFound d o tokens signature findings).imp fun product sound => ?_
    obtain ⟨name, hname, sound⟩ := sound
    exact ⟨findings, name, h, hname, sound⟩
  unfold buildNew
  refine answers_then fun _ => answers_then fun _ => ?_
  split
  · exact answers_then fun _ => answers_throw
  · next findings h =>
    refine answers_then fun _ => ?_
    dsimp only
    split
    · exact answers_throw_bind
    · split
      · exact answers_then fun _ => found findings h
      · exact found findings h

end Sound

end CallByNeed.Grammar
