import CallByNeed.Language.Parse
import CallByNeed.Proofs.Parse.Grammar

set_option autoImplicit false
set_option relaxedAutoImplicit false

/-!
The phrases that stand for the symbols of the grammar. Each rule builds from phrases for its symbols
a phrase for its head, and the lists that cannot be empty in a source text are not empty in the
phrase.
-/

namespace CallByNeed.Language

mutual

/-- Each block in the statement has a statement, and each `try` a catcher. -/
def Stmt.Filled : Stmt → Prop
  | .branch _ body none => body ≠ [] ∧ Stmt.AllFilled body
  | .branch _ body (some orElse) =>
    (body ≠ [] ∧ Stmt.AllFilled body) ∧ orElse ≠ [] ∧ Stmt.AllFilled orElse
  | .loop _ _ _ body => body ≠ [] ∧ Stmt.AllFilled body
  | .attempt body catchers =>
    (body ≠ [] ∧ Stmt.AllFilled body) ∧ catchers ≠ [] ∧ Stmt.CatchersFilled catchers
  | _ => True

def Stmt.AllFilled : List Stmt → Prop
  | [] => True
  | s :: ss => s.Filled ∧ Stmt.AllFilled ss

def Stmt.CatchersFilled : List (Catcher Stmt) → Prop
  | [] => True
  | ⟨_, body⟩ :: cs => (body ≠ [] ∧ Stmt.AllFilled body) ∧ Stmt.CatchersFilled cs

end

/-- The statements of a block: at least one, and all filled. -/
def Stmt.FilledBlock (ss : List Stmt) : Prop :=
  ss ≠ [] ∧ Stmt.AllFilled ss

def Func.Filled (f : Func) : Prop :=
  Stmt.FilledBlock f.body

/-- The structures of the program have fields, and it has functions, all with filled blocks. -/
def Program.Filled (p : Program) : Prop :=
  (∀ s ∈ p.structs, s.fields ≠ []) ∧ p.funcs ≠ [] ∧ ∀ f ∈ p.funcs, f.Filled

private theorem Stmt.AllFilled.append {ss ss' : List Stmt} (h : Stmt.AllFilled ss)
    (h' : Stmt.AllFilled ss') : Stmt.AllFilled (ss ++ ss') := by
  induction ss with
  | nil => exact h'
  | cons s ss ih => exact ⟨h.1, ih h.2⟩

private theorem Stmt.CatchersFilled.append {cs cs' : List (Catcher Stmt)}
    (h : Stmt.CatchersFilled cs) (h' : Stmt.CatchersFilled cs') :
    Stmt.CatchersFilled (cs ++ cs') := by
  induction cs with
  | nil => exact h'
  | cons c cs ih => exact ⟨h.1, ih h.2⟩

def Admits (X : Symbol) (p : Phrase) : Prop :=
  match X with
  | .terminal .number => ∃ n, p = .number n
  | .terminal _ => ∃ s, p = .text s
  | .nonterminal .program => ∃ program, p = .program program ∧ program.Filled
  | .nonterminal .structs => ∃ ss, p = .structs ss ∧ ∀ s ∈ ss, s.fields ≠ []
  | .nonterminal .struct => ∃ s, p = .struct s ∧ s.fields ≠ []
  | .nonterminal .fields => ∃ fs, p = .fields fs ∧ fs ≠ []
  | .nonterminal .field => ∃ f, p = .field f
  | .nonterminal .funcs => ∃ fs, p = .funcs fs ∧ fs ≠ [] ∧ ∀ f ∈ fs, f.Filled
  | .nonterminal .func => ∃ f, p = .func f ∧ f.Filled
  | .nonterminal .params => ∃ ps, p = .params ps
  | .nonterminal .param => ∃ q, p = .param q
  | .nonterminal .statements => ∃ ss, p = .stmts ss ∧ Stmt.FilledBlock ss
  | .nonterminal .statement => ∃ s, p = .stmt s ∧ s.Filled
  | .nonterminal .assignment => ∃ a, p = .assignment a
  | .nonterminal .declared => ∃ s, p = .text s
  | .nonterminal .dotted => ∃ s, p = .text s
  | .nonterminal .catchers => ∃ cs, p = .catchers cs ∧ cs ≠ [] ∧ Stmt.CatchersFilled cs
  | .nonterminal .catcher => ∃ c, p = .catcher c ∧ Stmt.FilledBlock c.body
  | .nonterminal .expression => ∃ e, p = .expr e
  | .nonterminal .arguments => ∃ es, p = .exprs es
  | _ => False

def EachPhrase (P : List Phrase → Prop) : List Symbol → Prop
  | [] => P []
  | X :: Xs => ∀ p, Admits X p → EachPhrase (fun ps => P (p :: ps)) Xs

theorem EachPhrase.apply {P : List Phrase → Prop} {Xs : List Symbol} {ps : List Phrase}
    (h : EachPhrase P Xs) (admits : List.Forall₂ Admits Xs ps) : P ps := by
  induction admits generalizing P with
  | nil => exact h
  | cons first _ ih => exact ih (h _ first)

def Rule.Sound (r : Rule) : Prop :=
  EachPhrase (fun ps => ∃ p, r.build ps = some p ∧ Admits (.nonterminal r.head) p) r.body

private theorem sound_binaryRule (sign : Terminal) (op : BinaryOp) :
    (binaryRule sign op).Sound := by
  rintro _ ⟨left, rfl⟩ _ - _ ⟨right, rfl⟩
  exact ⟨_, rfl, _, rfl⟩

private theorem sound_literalRule {token : Terminal} {value : Phrase → Option Expr}
    (valued : ∀ p, Admits (.terminal token) p → ∃ e, value p = some e) :
    (literalRule token value).Sound := by
  rintro _ first
  obtain ⟨e, he⟩ := valued _ first
  exact ⟨.expr e, by simp [literalRule, he], e, rfl⟩

private theorem sound_programRules : ∀ r ∈ programRules, r.Sound := by
  simp only [programRules, List.forall_mem_cons, List.not_mem_nil, IsEmpty.forall_iff, implies_true,
    and_true]
  refine ⟨?_, ?_, ?_, ?_, ?_, ?_, ?_, ?_⟩
  · rintro _ ⟨ss, rfl, structs⟩ _ ⟨fs, rfl, funcs⟩
    exact ⟨_, rfl, _, rfl, structs, funcs⟩
  · rintro _ ⟨fs, rfl, funcs⟩
    exact ⟨_, rfl, _, rfl, by simp, funcs⟩
  · rintro _ ⟨ss, rfl, filled⟩ _ ⟨s, rfl, one⟩
    exact ⟨_, rfl, _, rfl, by simpa [or_imp, forall_and] using ⟨filled, one⟩⟩
  · rintro _ ⟨s, rfl, one⟩
    exact ⟨_, rfl, _, rfl, by simpa using one⟩
  · rintro _ - _ ⟨n, rfl⟩ _ - _ ⟨fs, rfl, filled⟩ _ -
    exact ⟨_, rfl, _, rfl, filled⟩
  · rintro _ ⟨fs, rfl, _⟩ _ ⟨f, rfl⟩
    exact ⟨_, rfl, _, rfl, by simp⟩
  · rintro _ ⟨f, rfl⟩
    exact ⟨_, rfl, _, rfl, by simp⟩
  · rintro _ ⟨n, rfl⟩ _ - _ ⟨t, rfl⟩ _ -
    exact ⟨_, rfl, _, rfl⟩

private theorem sound_funcRules : ∀ r ∈ funcRules, r.Sound := by
  simp only [funcRules, List.forall_mem_cons, List.not_mem_nil, IsEmpty.forall_iff, implies_true,
    and_true]
  refine ⟨?_, ?_, ?_, ?_, ?_, ?_, ?_, ?_, ?_, ?_⟩
  · rintro _ ⟨fs, rfl, _, filled⟩ _ ⟨f, rfl, one⟩
    exact ⟨_, rfl, _, rfl, by simp, by
      simpa [or_imp, forall_and] using ⟨filled, one⟩⟩
  · rintro _ ⟨f, rfl, one⟩
    exact ⟨_, rfl, _, rfl, by simp, by simpa using one⟩
  · rintro _ - _ ⟨n, rfl⟩ _ - _ ⟨params, rfl⟩ _ - _ - _ ⟨t, rfl⟩ _ - _ ⟨ss, rfl, filled⟩ _ -
    exact ⟨_, rfl, _, rfl, filled⟩
  · rintro _ - _ ⟨n, rfl⟩ _ - _ - _ - _ ⟨t, rfl⟩ _ - _ ⟨ss, rfl, filled⟩ _ -
    exact ⟨_, rfl, _, rfl, filled⟩
  · rintro _ - _ ⟨n, rfl⟩ _ - _ ⟨params, rfl⟩ _ - _ - _ ⟨ss, rfl, filled⟩ _ -
    exact ⟨_, rfl, _, rfl, filled⟩
  · rintro _ - _ ⟨n, rfl⟩ _ - _ - _ - _ ⟨ss, rfl, filled⟩ _ -
    exact ⟨_, rfl, _, rfl, filled⟩
  · rintro _ ⟨params, rfl⟩ _ - _ ⟨q, rfl⟩
    exact ⟨_, rfl, _, rfl⟩
  · rintro _ ⟨q, rfl⟩
    exact ⟨_, rfl, _, rfl⟩
  · rintro _ ⟨n, rfl⟩ _ - _ ⟨t, rfl⟩
    exact ⟨_, rfl, _, rfl⟩
  · rintro _ ⟨n, rfl⟩
    exact ⟨_, rfl, _, rfl⟩

private theorem sound_statementRules : ∀ r ∈ statementRules, r.Sound := by
  simp only [statementRules, List.forall_mem_cons, List.not_mem_nil, IsEmpty.forall_iff,
    implies_true, and_true]
  refine ⟨?_, ?_, ?_, ?_, ?_, ?_, ?_, ?_, ?_, ?_, ?_, ?_, ?_, ?_, ?_, ?_, ?_, ?_, ?_, ?_⟩
  · rintro _ ⟨ss, rfl, _, filled⟩ _ ⟨s, rfl, one⟩
    exact ⟨_, rfl, _, rfl, by simp, filled.append ⟨one, trivial⟩⟩
  · rintro _ ⟨s, rfl, one⟩
    exact ⟨_, rfl, _, rfl, by simp, one, trivial⟩
  · rintro _ ⟨a, rfl⟩ _ -
    exact ⟨_, rfl, _, rfl, trivial⟩
  · rintro _ ⟨n, rfl⟩ _ - _ ⟨e, rfl⟩
    exact ⟨_, rfl, _, rfl⟩
  · rintro _ - _ ⟨n, rfl⟩ _ - _ ⟨t, rfl⟩ _ -
    exact ⟨_, rfl, _, rfl, trivial⟩
  · rintro _ - _ ⟨n, rfl⟩ _ -
    exact ⟨_, rfl, _, rfl, trivial⟩
  · rintro _ ⟨n, rfl⟩
    exact ⟨_, rfl, _, rfl⟩
  · rintro _ ⟨path, rfl⟩ _ - _ ⟨n, rfl⟩
    exact ⟨_, rfl, _, rfl⟩
  · rintro _ ⟨n, rfl⟩
    exact ⟨_, rfl, _, rfl⟩
  · rintro _ - _ - _ ⟨e, rfl⟩ _ - _ - _ ⟨ss, rfl, filled⟩ _ -
    exact ⟨_, rfl, _, rfl, filled⟩
  · rintro _ - _ - _ ⟨e, rfl⟩ _ - _ - _ ⟨ss, rfl, filled⟩ _ - _ - _ - _ ⟨es, rfl, orElse⟩ _ -
    exact ⟨_, rfl, _, rfl, filled, orElse⟩
  · rintro _ - _ - _ ⟨ss, rfl, filled⟩ _ - _ ⟨cs, rfl, catchers⟩
    exact ⟨_, rfl, _, rfl, filled, catchers⟩
  · rintro _ ⟨cs, rfl, _, filled⟩ _ ⟨c, rfl, one⟩
    exact ⟨_, rfl, _, rfl, by simp, filled.append ⟨one, trivial⟩⟩
  · rintro _ ⟨c, rfl, one⟩
    exact ⟨_, rfl, _, rfl, by simp, one, trivial⟩
  · rintro _ - _ ⟨x, rfl⟩ _ - _ ⟨ss, rfl, filled⟩ _ -
    exact ⟨_, rfl, _, rfl, filled⟩
  · rintro _ - _ - _ ⟨i, rfl⟩ _ - _ ⟨c, rfl⟩ _ - _ ⟨u, rfl⟩ _ - _ - _ ⟨ss, rfl, filled⟩ _ -
    exact ⟨_, rfl, _, rfl, filled⟩
  · rintro _ - _ ⟨e, rfl⟩ _ -
    exact ⟨_, rfl, _, rfl, trivial⟩
  · rintro _ ⟨e, rfl⟩ _ -
    exact ⟨_, rfl, _, rfl, trivial⟩
  · rintro _ - _ ⟨e, rfl⟩ _ -
    exact ⟨_, rfl, _, rfl, trivial⟩
  · rintro _ - _ -
    exact ⟨_, rfl, _, rfl, trivial⟩

private theorem sound_expressionRules : ∀ r ∈ expressionRules, r.Sound := by
  simp only [expressionRules, List.forall_mem_cons, List.not_mem_nil, IsEmpty.forall_iff,
    implies_true, and_true]
  refine ⟨?_, ?_, ?_, sound_binaryRule _ _, sound_binaryRule _ _, sound_binaryRule _ _,
    sound_binaryRule _ _, sound_binaryRule _ _, sound_binaryRule _ _, sound_binaryRule _ _,
    sound_binaryRule _ _, sound_binaryRule _ _, sound_binaryRule _ _, ?_,
    sound_binaryRule _ _, sound_binaryRule _ _, ?_, ?_, ?_, ?_, ?_, ?_, ?_, ?_, ?_, ?_⟩
  · rintro _ - _ ⟨e, rfl⟩
    exact ⟨_, rfl, _, rfl⟩
  · rintro _ - _ ⟨e, rfl⟩
    exact ⟨_, rfl, _, rfl⟩
  · rintro _ - _ ⟨t, rfl⟩
    exact ⟨_, rfl, _, rfl⟩
  · rintro _ - _ ⟨e, rfl⟩ _ -
    exact ⟨_, rfl, _, rfl⟩
  · refine sound_literalRule ?_
    rintro p ⟨_, rfl⟩
    exact ⟨_, rfl⟩
  · exact sound_literalRule fun _ _ => ⟨_, rfl⟩
  · exact sound_literalRule fun _ _ => ⟨_, rfl⟩
  · exact sound_literalRule fun _ _ => ⟨_, rfl⟩
  · refine sound_literalRule ?_
    rintro p ⟨_, rfl⟩
    exact ⟨_, rfl⟩
  · rintro _ ⟨n, rfl⟩
    exact ⟨_, rfl, _, rfl⟩
  · rintro _ ⟨n, rfl⟩ _ - _ ⟨es, rfl⟩ _ -
    exact ⟨_, rfl, _, rfl⟩
  · rintro _ ⟨n, rfl⟩ _ - _ -
    exact ⟨_, rfl, _, rfl⟩
  · rintro _ ⟨es, rfl⟩ _ - _ ⟨e, rfl⟩
    exact ⟨_, rfl, _, rfl⟩
  · rintro _ ⟨e, rfl⟩
    exact ⟨_, rfl, _, rfl⟩

theorem sound_productions {r : Rule} (mem : r ∈ productions) : r.Sound := by
  simp only [productions, List.mem_append] at mem
  rcases mem with ((mem | mem) | mem) | mem
  · exact sound_programRules r mem
  · exact sound_funcRules r mem
  · exact sound_statementRules r mem
  · exact sound_expressionRules r mem

end CallByNeed.Language
