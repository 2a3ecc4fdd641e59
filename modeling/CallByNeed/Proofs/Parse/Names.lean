import CallByNeed.Proofs.Parse.Recovery

set_option autoImplicit false
set_option relaxedAutoImplicit false

/-!
Where the names in a parsed program come from. A name stands in the source text as neighbouring
tokens: its parts, and between them what was taken for a dot.
-/

namespace CallByNeed

namespace Tree

@[simp] def ownText : Tree → List String
  | .text s => [s]
  | _ => []

mutual

/-- The names in a tree: the texts of the fields that are called so. -/
@[simp] def names : Tree → List String
  | .list items => itemNames items
  | .node _ fields => fieldNames fields
  | _ => []

@[simp] def itemNames : List Tree → List String
  | [] => []
  | t :: ts => names t ++ itemNames ts

@[simp] def fieldNames : List (String × Tree) → List String
  | [] => []
  | (key, t) :: fields => (if key = "name" then ownText t else []) ++ names t ++ fieldNames fields

end

@[simp] theorem itemNames_append (ts ts' : List Tree) :
    itemNames (ts ++ ts') = itemNames ts ++ itemNames ts' := by
  induction ts with
  | nil => rfl
  | cons t ts ih => rw [List.cons_append, itemNames, itemNames, ih, List.append_assoc]

end Tree

namespace Language

section Phrases

private theorem Expr.toTrees_eq_map (es : List Expr) : Expr.toTrees es = es.map Expr.toTree := by
  induction es with
  | nil => rfl
  | cons e es ih => rw [Expr.toTrees, ih, List.map_cons]

private theorem Stmt.toTrees_eq_map (ss : List Stmt) : Stmt.toTrees ss = ss.map Stmt.toTree := by
  induction ss with
  | nil => rfl
  | cons s ss ih => rw [Stmt.toTrees, ih, List.map_cons]

private theorem Stmt.catcherTrees_append (cs cs' : List (Catcher Stmt)) :
    Stmt.catcherTrees (cs ++ cs') = Stmt.catcherTrees cs ++ Stmt.catcherTrees cs' := by
  induction cs with
  | nil => rfl
  | cons c cs ih => rw [List.cons_append, Stmt.catcherTrees, Stmt.catcherTrees, ih, List.cons_append]

def Phrase.trees : Phrase → List Tree
  | .nothing | .text _ | .number _ => []
  | .expr e => [e.toTree]
  | .exprs es => Expr.toTrees es
  | .assignment a => [a.toTree]
  | .stmt s => [s.toTree]
  | .stmts ss => Stmt.toTrees ss
  | .catcher c => Stmt.catcherTrees [c]
  | .catchers cs => Stmt.catcherTrees cs
  | .param p => [p.toTree]
  | .params ps => ps.map Param.toTree
  | .field f => [f.toTree]
  | .fields fs => fs.map Field.toTree
  | .struct s => [s.toTree]
  | .structs ss => ss.map Struct.toTree
  | .func f => [f.toTree]
  | .funcs fs => fs.map Func.toTree
  | .program p => [p.toTree]

/-- The names that a phrase for the symbol brings along have the property: those in its trees, or
the phrase itself where it is a name. -/
def Named (W : String → Prop) (X : Symbol) (p : Phrase) : Prop :=
  match X with
  | .terminal kind => kind = .name → ∀ n, p = .text n → W n
  | .nonterminal .declared | .nonterminal .dotted => ∀ n, p = .text n → W n
  | _ => ∀ n ∈ Tree.itemNames p.trees, W n

/-- The rule makes no names of its own: what it builds has those of its parts. -/
def Rule.Passes (r : Rule) : Prop :=
  ∀ (W : String → Prop) (qs : List Phrase) (p : Phrase),
    List.Forall₂ (Named W) r.body qs → r.build qs = some p → Named W (.nonterminal r.head) p

private theorem passes_programRules : ∀ r ∈ programRules, r.Passes := by
  simp only [programRules, List.forall_mem_cons, List.not_mem_nil, IsEmpty.forall_iff, implies_true,
    and_true]
  refine ⟨?_, ?_, ?_, ?_, ?_, ?_, ?_, ?_⟩
  all_goals
    intro W qs p named built
    dsimp only at built
    split at built <;> cases built
    simp_all [Named, Phrase.trees, Program.toTree, Struct.toTree, Field.toTree, or_imp, forall_and]

private theorem passes_funcRules : ∀ r ∈ funcRules, r.Passes := by
  simp only [funcRules, List.forall_mem_cons, List.not_mem_nil, IsEmpty.forall_iff, implies_true,
    and_true]
  refine ⟨?_, ?_, ?_, ?_, ?_, ?_, ?_, ?_, ?_, ?_⟩
  all_goals
    intro W qs p named built
    dsimp only at built
    split at built <;> cases built
    simp_all [Named, Phrase.trees, Func.toTree, Param.toTree, textTree, or_imp, forall_and]

private theorem passes_statementRules : ∀ r ∈ statementRules, r.head ≠ .dotted → r.Passes := by
  simp only [statementRules, List.forall_mem_cons, List.not_mem_nil, IsEmpty.forall_iff,
    implies_true, and_true]
  refine ⟨?_, ?_, ?_, ?_, ?_, ?_, ?_, ?_, ?_, ?_, ?_, ?_, ?_, ?_, ?_, ?_, ?_, ?_, ?_, ?_⟩
  all_goals
    intro plain W qs p named built
    dsimp only at built
    split at built <;> cases built
    simp_all [Named, Phrase.trees, Stmt.toTree, Stmt.toTrees_eq_map, Stmt.catcherTrees,
      Stmt.catcherTrees_append, Assignment.toTree, textTree, or_imp, forall_and]

private theorem passes_binaryRule (sign : Terminal) (op : BinaryOp) :
    (binaryRule sign op).Passes := by
  intro W qs p named built
  dsimp only [binaryRule] at built
  split at built <;> cases built
  simp_all [binaryRule, Named, Phrase.trees, Expr.toTree, or_imp]

private theorem passes_literalRule {token : Terminal} {value : Phrase → Option Expr}
    (plain : ∀ p e, value p = some e → e.toTree.names = []) : (literalRule token value).Passes := by
  intro W qs p named built
  dsimp only [literalRule] at built
  split at built
  · obtain ⟨e, he, rfl⟩ := Option.map_eq_some_iff.1 built
    simp_all [literalRule, Named, Phrase.trees, plain _ e he]
  · cases built

private theorem passes_expressionRules : ∀ r ∈ expressionRules, r.Passes := by
  simp only [expressionRules, List.forall_mem_cons, List.not_mem_nil, IsEmpty.forall_iff,
    implies_true, and_true]
  refine ⟨?_, ?_, ?_, passes_binaryRule _ _, passes_binaryRule _ _, passes_binaryRule _ _,
    passes_binaryRule _ _, passes_binaryRule _ _, passes_binaryRule _ _, passes_binaryRule _ _,
    passes_binaryRule _ _, passes_binaryRule _ _, passes_binaryRule _ _, ?_,
    passes_binaryRule _ _, passes_binaryRule _ _, passes_literalRule ?number,
    passes_literalRule ?constant, passes_literalRule ?constant', passes_literalRule ?constant'',
    passes_literalRule ?string, ?_, ?_, ?_, ?_, ?_⟩
  case number | string =>
    intro p e he
    split at he <;> cases he
    simp [Expr.toTree]
  case constant | constant' | constant'' =>
    rintro p e ⟨⟩
    simp [Expr.toTree]
  all_goals
    intro W qs p named built
    dsimp only at built
    split at built <;> cases built
    simp_all [Named, Phrase.trees, Expr.toTree, Expr.toTrees_eq_map, or_imp]

private theorem passes_productions {r : Rule} (mem : r ∈ productions) (plain : r.head ≠ .dotted) :
    r.Passes := by
  simp only [productions, List.mem_append] at mem
  rcases mem with ((mem | mem) | mem) | mem
  · exact passes_programRules r mem
  · exact passes_funcRules r mem
  · exact passes_statementRules r mem plain
  · exact passes_expressionRules r mem

private theorem dotted_cases {r : Rule} (mem : r ∈ productions) (head : r.head = .dotted) :
    (r.body = [.nonterminal .dotted, .terminal .dot, .terminal .name] ∧
      ∀ path d n, r.build [.text path, d, .text n] = some (.text (path ++ "." ++ n))) ∨
    (r.body = [.terminal .name] ∧ ∀ n, r.build [.text n] = some (.text n)) := by
  have found : r ∈ productions.filter fun r => r.head = .dotted :=
    List.mem_filter.2 ⟨mem, decide_eq_true head⟩
  rcases List.mem_pair.1 found with rfl | rfl
  · exact .inl ⟨rfl, fun _ _ _ => rfl⟩
  · exact .inr ⟨rfl, fun _ => rfl⟩

end Phrases

section Paths

inductive Path : List Token → String → Prop where
  | name {t : Token} {n : String} (kind : t.kind = .name) (text : t.payload = .text n) : Path [t] n
  | field {us : List Token} {d t : Token} {path n : String} (front : Path us path)
      (dot : d.kind = .dot) (kind : t.kind = .name) (text : t.payload = .text n) :
      Path (us ++ [d, t]) (path ++ "." ++ n)

def wording (us : List Token) : String :=
  String.join (us.map fun t => t.payload.toText)

private theorem wording_append (us vs : List Token) :
    wording (us ++ vs) = wording us ++ wording vs := by
  rw [wording, List.map_append, String.join_append, wording, wording]

def SingleDots (us : List Token) : Prop :=
  ∀ d ∈ us, d.kind = .dot → ∃ c, d.payload = .text (String.ofList [c])

theorem Payload.singleton_inj {a b : Char}
    (h : Payload.text (String.ofList [a]) = .text (String.ofList [b])) : a = b := by
  have hlist : [a] = [b] := String.ofList_injective (Payload.text.inj h)
  exact (List.cons.inj hlist).1

private theorem toList_wording_pair {d t : Token} {c : Char} {n : String}
    (single : d.payload = .text (String.ofList [c])) (text : t.payload = .text n) :
    (wording [d, t]).toList = c :: n.toList := by
  simp [wording, single, text, Payload.toText]

private theorem Path.length_wording {us : List Token} {n : String} (h : Path us n)
    (single : SingleDots us) : (wording us).toList.length = n.toList.length := by
  induction h with
  | name _ text => simp [wording, text, Payload.toText]
  | @field us d t path n _ dot _ text ih =>
    obtain ⟨hfront, hback⟩ := List.forall_mem_append.1 single
    obtain ⟨c, hc⟩ := hback d (by simp) dot
    rw [wording_append, String.toList_append, toList_wording_pair hc text]
    simp [ih hfront]

theorem Path.wording_eq_iff {us : List Token} {n : String} (h : Path us n)
    (single : SingleDots us) :
    wording us = n ↔ ∀ d ∈ us, d.kind = .dot → d.payload = .text "." := by
  induction h with
  | name kind text => simp [wording, text, Payload.toText, kind]
  | @field us d t path n front dot kind text ih =>
    obtain ⟨hfront, hback⟩ := List.forall_mem_append.1 single
    obtain ⟨c, hc⟩ := hback d (by simp) dot
    have hwords : (wording (us ++ [d, t])).toList = (wording us).toList ++ c :: n.toList := by
      rw [wording_append, String.toList_append, toList_wording_pair hc text]
    have hname : (path ++ "." ++ n).toList = path.toList ++ '.' :: n.toList := by simp
    have hwhole : wording (us ++ [d, t]) = path ++ "." ++ n ↔ wording us = path ∧ c = '.' := by
      rw [← String.toList_inj, ← String.toList_inj, hwords, hname]
      constructor
      · intro heq
        obtain ⟨hsame, htail⟩ := List.append_inj heq (front.length_wording hfront)
        exact ⟨hsame, (List.cons.inj htail).1⟩
      · rintro ⟨hsame, rfl⟩
        rw [hsame]
    have hdot : d.payload = .text "." ↔ c = '.' := by
      rw [hc]
      exact ⟨Payload.singleton_inj, fun h => h ▸ rfl⟩
    rw [hwhole, ih hfront, List.forall_mem_append]
    simp [dot, kind, hdot]

private theorem Reading.uncons_token {kind : Terminal} {floor : Nat} {slots : List Slot}
    {ts : List Token} {ps : List Phrase} (h : Reading (⟨.terminal kind, floor⟩ :: slots) ts ps) :
    ∃ t ts' ps', t.kind = kind ∧ t.Fits ∧ ts = t :: ts' ∧ ps = t.payload.toPhrase :: ps' ∧
      Reading slots ts' ps' := by
  cases h with
  | token fits rest => exact ⟨_, _, _, rfl, fits, rfl, rfl, rest⟩

private theorem Reading.uncons_name {floor : Nat} {slots : List Slot} {ts : List Token}
    {ps : List Phrase} (h : Reading (⟨.terminal .name, floor⟩ :: slots) ts ps) :
    ∃ t n ts' ps', t.kind = .name ∧ t.payload = .text n ∧ ts = t :: ts' ∧ ps = .text n :: ps' ∧
      Reading slots ts' ps' := by
  obtain ⟨t, ts', ps', kind, fits, rfl, rfl, rest⟩ := h.uncons_token
  rw [Token.Fits, kind] at fits
  obtain ⟨n, hn⟩ := fits
  cases hpayload : t.payload with
  | number m =>
    rw [hpayload] at hn
    cases hn
  | text m => exact ⟨t, m, ts', ps', kind, hpayload, rfl, by simp [Payload.toPhrase], rest⟩

private theorem Reading.exists_path {slots : List Slot} {ts : List Token} {ps : List Phrase}
    (h : Reading slots ts ps) {floor : Nat} {rest : List Slot}
    (dotted : slots = ⟨.nonterminal .dotted, floor⟩ :: rest) :
    ∃ us n ts' ps', ts = us ++ ts' ∧ ps = .text n :: ps' ∧ Path us n ∧ Reading rest ts' ps' := by
  induction h generalizing floor rest with
  | nil => cases dotted
  | token => cases dotted
  | @rule r _ _ slots us ts qs ps p mem _ inside built tail ih =>
    obtain ⟨⟨head, -⟩, rfl⟩ : (r.head = .dotted ∧ _ = floor) ∧ slots = rest := by
      simpa using dotted
    rcases dotted_cases (mem_productions mem) head with ⟨body, build⟩ | ⟨body, build⟩
    · have hslots : r.slots = [Slot.loose (.nonterminal .dotted), Slot.loose (.terminal .dot),
          Slot.loose (.terminal .name)] := by
        simp only [Rule.slots, body]
        rfl
      obtain ⟨front, path, back, qs', rfl, rfl, hpath, hback⟩ := ih hslots
      obtain ⟨d, _, _, dot, -, rfl, rfl, hlast⟩ := hback.uncons_token
      obtain ⟨t, n, _, _, kind, text, rfl, rfl, hend⟩ := hlast.uncons_name
      cases hend
      cases (build _ _ _).symm.trans built
      exact ⟨front ++ [d, t], _, ts, ps, rfl, rfl, hpath.field dot kind text, tail⟩
    · have hslots : r.slots = [Slot.loose (.terminal .name)] := by
        simp only [Rule.slots, body]
        rfl
      rw [hslots] at inside
      obtain ⟨t, n, _, _, kind, text, rfl, rfl, hend⟩ := inside.uncons_name
      cases hend
      cases (build _).symm.trans built
      exact ⟨[t], _, ts, ps, rfl, rfl, .name kind text, tail⟩

private theorem Reading.named {slots : List Slot} {ts : List Token} {ps : List Phrase}
    (h : Reading slots ts ps) {W : String → Prop}
    (paths : ∀ us n, us <:+: ts → Path us n → W n) :
    List.Forall₂ (Named W) (slots.map Slot.symbol) ps := by
  induction h with
  | nil => exact .nil
  | @token t _ _ ts _ _ _ ih =>
    have hrest := ih fun us n hus => paths us n (List.infix_cons hus)
    refine .cons (fun kind n text => ?_) hrest
    have hpayload : t.payload = .text n := by
      cases hp : t.payload with
      | number m => simp [hp, Payload.toPhrase] at text
      | text m => simpa [hp, Payload.toPhrase] using text
    exact paths [t] n (List.prefix_append [t] ts).isInfix (.name kind hpayload)
  | @rule r _ floor _ us ts _ _ p mem high inside built _ ih ih' =>
    have hinside := ih fun vs n hvs => paths vs n (hvs.trans (List.prefix_append us ts).isInfix)
    have hrest := ih' fun vs n hvs => paths vs n (hvs.trans (List.suffix_append us ts).isInfix)
    refine .cons ?_ hrest
    rw [r.symbols_slots] at hinside
    by_cases head : r.head = .dotted
    · have whole := Reading.rule mem high inside built .nil
      rw [head, List.append_nil] at whole
      obtain ⟨vs, n, _, _, rfl, hp, hpath, hend⟩ := whole.exists_path rfl
      cases hend
      cases hp
      rw [List.append_nil] at paths
      rw [head]
      rintro _ ⟨⟩
      exact paths vs n (List.prefix_append vs ts).isInfix hpath
    · exact passes_productions (mem_productions mem) head W _ p hinside built

end Paths

private theorem Gives.reading {ts : List Token} {p : Program} (h : Gives ts (.program p))
    (fits : ∀ t ∈ ts, t.Fits) : Reading [Slot.loose (.nonterminal .program)] ts [.program p] := by
  have sentence : Sentence (ts.map Token.kind) := by
    cases h
    assumption
  obtain ⟨ps, reading⟩ := (sentence_iff_spans.1 sentence).ordered rfl fits
  obtain ⟨_, _, ⟨q, rfl, -⟩, none, rfl⟩ := List.forall₂_cons_left_iff.1 reading.admits
  cases none
  cases h.unique reading.gives
  exact reading

theorem exists_path_of_parse {source : String} {p : Program} (h : (parse source).result = .ok p)
    {n : String} (mem : n ∈ p.toTree.names) :
    ∃ us, us <:+: (scan source).tokens ∧ Path us n := by
  have hsuffix : (segments (scan source).tokens).last <:+ (scan source).tokens :=
    segmentsFrom_last_suffix [] _
  have fits : ∀ t ∈ (segments (scan source).tokens).last, t.Fits :=
    fun t ht => fits_scan source t (hsuffix.mem ht)
  have reading := (gives_of_parse h).reading fits
  have named := reading.named (W := fun n => ∃ us, us <:+: (scan source).tokens ∧ Path us n)
    fun us n hus path => ⟨us, hus.trans hsuffix.isInfix, path⟩
  have hprogram := (List.forall₂_cons.1 named).1
  exact hprogram n (by simpa [Phrase.trees] using mem)

end Language

end CallByNeed
