import CallByNeed.Proofs.Print.Spelling

set_option autoImplicit false
set_option relaxedAutoImplicit false

/-!
The spelling of a well-formed program reads as the program. Each form of expression or statement is
read by one rule of the grammar, named here by its place among the productions, from the readings of
its parts.
-/

namespace CallByNeed.Language

section Spells

/-- The signs can be written, and tokens with these signs fill the places with these phrases. -/
structure Spells (slots : List Slot) (signs : List Sign) (ps : List Phrase) : Prop where
  valid : ∀ g ∈ signs, Sign.Valid g
  reading : ∀ ts : List Token, ts.map Token.sign = signs → Reading slots ts ps

namespace Spells

private theorem nil : Spells [] [] [] := by
  refine ⟨by simp, fun ts hts => ?_⟩
  obtain rfl := List.map_eq_nil_iff.1 hts
  exact .nil

private theorem sign {kind : Terminal} {payload : Payload} {floor : Nat} {slots : List Slot}
    {signs : List Sign} {ps : List Phrase} (valid : Sign.Valid (kind, payload))
    (rest : Spells slots signs ps) :
    Spells (⟨.terminal kind, floor⟩ :: slots) ((kind, payload) :: signs)
      (payload.toPhrase :: ps) := by
  refine ⟨List.forall_mem_cons.2 ⟨valid, rest.valid⟩, fun ts hts => ?_⟩
  obtain ⟨t, ts, rfl, ht, hrest⟩ := List.map_eq_cons_iff.1 hts
  have fits : t.Fits := Sign.Valid.fits (ht ▸ valid)
  obtain ⟨rfl, rfl⟩ := Prod.mk.inj ht
  exact .token fits (rest.reading ts hrest)

private theorem cons {slot : Slot} {slots : List Slot} {signs signs' : List Sign} {p : Phrase}
    {ps : List Phrase} (first : Spells [slot] signs [p]) (rest : Spells slots signs' ps) :
    Spells (slot :: slots) (signs ++ signs') (p :: ps) := by
  refine ⟨List.forall_mem_append.2 ⟨first.valid, rest.valid⟩, fun ts hts => ?_⟩
  obtain ⟨us, vs, rfl, hus, hvs⟩ := List.map_eq_append_iff.1 hts
  exact (first.reading us hus).append (rest.reading vs hvs)

private theorem of_mem {r : Rule} (mem : r ∈ productions) {n : Nonterminal} {floor : Nat}
    {signs : List Sign} {qs : List Phrase} {p : Phrase} (head : r.head = n)
    (high : floor ≤ r.level) (built : r.build qs = some p) (inside : Spells r.slots signs qs) :
    Spells [⟨.nonterminal n, floor⟩] signs [p] := by
  subst head
  obtain ⟨i, hi⟩ := List.mem_iff_getElem?.1 mem
  refine ⟨inside.valid, fun ts hts => ?_⟩
  have hreading := Reading.rule (mem_numbered.2 ⟨i.succ_pos, hi⟩) high
    (inside.reading ts hts) built .nil
  rwa [List.append_nil] at hreading

private theorem rule (i : Nat) {r : Rule} (hr : productions[i]? = some r) {n : Nonterminal}
    {floor : Nat} {signs : List Sign} {qs : List Phrase} {p : Phrase} (head : r.head = n)
    (high : floor ≤ r.level) (built : r.build qs = some p) (inside : Spells r.slots signs qs) :
    Spells [⟨.nonterminal n, floor⟩] signs [p] :=
  of_mem (List.mem_of_getElem? hr) head high built inside

private theorem extend {α : Type} {many one : Slot} {wrap : List α → Phrase} {unit : α → Phrase}
    {spell : α → List Sign} (sep : List Sign)
    (next : ∀ {as a signs signs'}, Spells [many] signs [wrap as] → Spells [one] signs' [unit a] →
      Spells [many] (signs ++ (sep ++ signs')) [wrap (as ++ [a])])
    {begun : List α} {signs : List Sign} (first : Spells [many] signs [wrap begun]) {l : List α}
    (each : ∀ a ∈ l, Spells [one] (spell a) [unit a]) :
    Spells [many] (signs ++ l.flatMap fun a => sep ++ spell a) [wrap (begun ++ l)] := by
  induction l generalizing begun signs with
  | nil => simpa using first
  | cons a l ih =>
    rw [List.forall_mem_cons] at each
    have hmore := ih (next first each.1) each.2
    simpa using hmore

/-- A list of at least one element is read without anything between the elements. -/
theorem many {α : Type} {many one : Slot} {wrap : List α → Phrase} {unit : α → Phrase}
    {spell : α → List Sign}
    (single : ∀ {a signs}, Spells [one] signs [unit a] → Spells [many] signs [wrap [a]])
    (next : ∀ {as a signs signs'}, Spells [many] signs [wrap as] → Spells [one] signs' [unit a] →
      Spells [many] (signs ++ signs') [wrap (as ++ [a])])
    {l : List α} (begun : l ≠ []) (each : ∀ a ∈ l, Spells [one] (spell a) [unit a]) :
    Spells [many] (l.flatMap spell) [wrap l] := by
  cases l with
  | nil => exact absurd rfl begun
  | cons a l =>
    rw [List.forall_mem_cons] at each
    exact extend [] next (single each.1) each.2

private theorem commas {α : Type} {many one : Slot} {wrap : List α → Phrase} {unit : α → Phrase}
    {spell : α → List Sign}
    (single : ∀ {a signs}, Spells [one] signs [unit a] → Spells [many] signs [wrap [a]])
    (next : ∀ {as a signs signs'}, Spells [many] signs [wrap as] → Spells [one] signs' [unit a] →
      Spells [many] (signs ++ Terminal.comma.sign :: signs') [wrap (as ++ [a])])
    {l : List α} (begun : l ≠ []) (each : ∀ a ∈ l, Spells [one] (spell a) [unit a]) :
    Spells [many] (separated (l.map spell)) [wrap l] := by
  cases l with
  | nil => exact absurd rfl begun
  | cons a l =>
    rw [List.forall_mem_cons] at each
    have hmore := extend [Terminal.comma.sign] next (single each.1) each.2
    simpa [separated, List.flatMap_map] using hmore

end Spells

end Spells

section Expressions

abbrev operandSlot (floor : Nat) : Slot :=
  ⟨.nonterminal .expression, floor⟩

private theorem toList_foldl_dot (names : List String) (base : String) :
    (names.foldl (fun path name => path ++ "." ++ name) base).toList =
      ['.'].intercalate (base.toList :: names.map String.toList) := by
  induction names generalizing base with
  | nil => simp
  | cons name names ih =>
    rw [List.foldl_cons, ih]
    cases names <;> simp [List.intercalate, List.intersperse]

private theorem foldl_pathNames {path name : String} {names : List String}
    (h : pathNames path = name :: names) :
    names.foldl (fun path name => path ++ "." ++ name) name = path := by
  have hlists : (pathNames path).map String.toList = path.toList.splitOn '.' := by
    simp [pathNames, Function.comp_def]
  rw [h, List.map_cons] at hlists
  apply String.toList_injective
  rw [toList_foldl_dot, hlists, List.intercalate_splitOn]

private theorem spells_path {path : String} (h : IsPath path) :
    Spells [⟨.nonterminal .dotted, 7⟩] (spellPath path) [.text path] := by
  have longer : ∀ (names : List String) {signs : List Sign} {base : String},
      (∀ name ∈ names, IsName name) →
      Spells [⟨.nonterminal .dotted, 7⟩] signs [.text base] →
      Spells [⟨.nonterminal .dotted, 7⟩]
        (signs ++ names.flatMap fun name => [Terminal.dot.sign, nameSign name])
        [.text (names.foldl (fun path name => path ++ "." ++ name) base)] := by
    intro names
    induction names with
    | nil =>
      intro signs base _ first
      simpa using first
    | cons name names ih =>
      intro signs base valid first
      rw [List.forall_mem_cons] at valid
      have hnext : Spells [⟨.nonterminal .dotted, 7⟩]
          (signs ++ [Terminal.dot.sign, nameSign name]) [.text (base ++ "." ++ name)] :=
        .rule 25 rfl rfl le_rfl rfl (.cons first (.sign rfl (.sign valid.1 .nil)))
      simpa using ih valid.2 hnext
  rw [spellPath]
  cases hnames : pathNames path with
  | nil => simp [pathNames] at hnames
  | cons name names =>
    rw [IsPath, hnames, List.forall_mem_cons] at h
    have hfirst : Spells [⟨.nonterminal .dotted, 7⟩] [nameSign name] [.text name] :=
      .rule 26 rfl rfl le_rfl rfl (.sign h.1 .nil)
    have hall := longer names h.2 hfirst
    rwa [foldl_pathNames hnames] at hall

private theorem binaryRule_mem (op : BinaryOp) : binaryRule op.terminal op ∈ productions := by
  cases op <;> simp [productions, expressionRules, BinaryOp.terminal]

private theorem spells_inParens {e : Expr} {floor : Nat} (low : floor ≤ 7)
    (h : ∀ floor ≤ e.level, Spells [operandSlot floor] e.spell [.expr e]) :
    Spells [operandSlot floor] (inParens (e.level < floor) e.spell) [.expr e] := by
  by_cases hlevel : e.level < floor
  · rw [inParens, if_pos (by simpa using hlevel)]
    exact .rule 51 rfl rfl low rfl (.sign rfl (.cons (h 0 (Nat.zero_le _)) (.sign rfl .nil)))
  · rw [inParens, if_neg (by simpa using hlevel)]
    exact h floor (by omega)

private theorem Expr.spellEach_eq (es : List Expr) : Expr.spellEach es = es.map Expr.spell := by
  induction es with
  | nil => rfl
  | cons e es ih => rw [Expr.spellEach, ih, List.map_cons]

private theorem spells_arguments {args : List Expr} (begun : args ≠ [])
    (each : ∀ e ∈ args, Spells [operandSlot 0] e.spell [.expr e]) :
    Spells [⟨.nonterminal .arguments, 7⟩] (separated (Expr.spellEach args)) [.exprs args] := by
  rw [Expr.spellEach_eq]
  exact .commas (fun h => .rule 63 rfl rfl le_rfl rfl h)
    (fun h h' => .rule 62 rfl rfl le_rfl rfl (.cons h (.sign rfl h'))) begun each

mutual

private theorem Expr.spells : (e : Expr) → e.Writable → ∀ floor ≤ e.level,
    Spells [operandSlot floor] e.spell [.expr e]
  | .int n, h, _, low => .rule 54 rfl rfl low rfl (.sign h .nil)
  | .bool true, _, _, low => .rule 55 rfl rfl low rfl (.sign rfl .nil)
  | .bool false, _, _, low => .rule 56 rfl rfl low rfl (.sign rfl .nil)
  | .nil, _, _, low => .rule 57 rfl rfl low rfl (.sign rfl .nil)
  | .str s, h, _, low => .rule 58 rfl rfl low rfl (.sign h .nil)
  | .var name, h, _, low => .rule 59 rfl rfl low rfl (spells_path h)
  | .new t, h, _, low => .rule 40 rfl rfl low rfl (.sign rfl (.sign h .nil))
  | .call name [], h, _, low => by
    rw [Expr.spell]
    exact .rule 61 rfl rfl low rfl (.sign h.1 (.sign rfl (.sign rfl .nil)))
  | .call name (e :: es), h, _, low => by
    rw [Expr.spell]
    have hargs := spells_arguments (List.cons_ne_nil e es) fun x hx =>
      Expr.spells_each (e :: es) h.2 x hx 0 (Nat.zero_le _)
    exact .rule 60 rfl rfl low rfl (.sign h.1 (.sign rfl (.cons hargs (.sign rfl .nil))))
  | .unary .not e, h, _, low => by
    rw [Expr.spell]
    exact .rule 38 rfl rfl low rfl (.sign rfl (spells_inParens (by decide) (e.spells h)))
  | .unary .neg e, h, _, low => by
    rw [Expr.spell]
    exact .rule 39 rfl rfl low rfl (.sign rfl (spells_inParens (by decide) (e.spells h)))
  | .binary op left right, h, _, low => by
    have hop : Sign.Valid op.terminal.sign := by cases op <;> rfl
    have hstrength := op.terminal.strength_le
    rw [Expr.spell]
    exact .of_mem (binaryRule_mem op) rfl low rfl
      (.cons (spells_inParens (by omega) (left.spells h.1))
        (.sign hop (spells_inParens (by omega) (right.spells h.2))))

theorem Expr.spells_each : (es : List Expr) → Expr.AllWritable es → ∀ e ∈ es, ∀ floor ≤ e.level,
    Spells [operandSlot floor] e.spell [.expr e]
  | [], _ => by simp
  | e :: es, h => List.forall_mem_cons.2 ⟨e.spells h.1, Expr.spells_each es h.2⟩

end

private theorem Expr.spells_loose {e : Expr} (h : e.Writable) :
    Spells [operandSlot 0] e.spell [.expr e] :=
  e.spells h 0 (Nat.zero_le _)

end Expressions

section Statements

private theorem Assignment.spells {a : Assignment} (h : a.Writable) :
    Spells [⟨.nonterminal .assignment, 7⟩] a.spell [.assignment a] :=
  .rule 21 rfl rfl le_rfl rfl (.cons (spells_path h.1) (.sign rfl (Expr.spells_loose h.2)))

def spellCatcher (c : Catcher Stmt) : List Sign :=
  Terminal.kCatch.sign :: (.string, .text c.exception) :: inBraces (Stmt.spellAll c.body)

private theorem Stmt.spellAll_eq (ss : List Stmt) : Stmt.spellAll ss = ss.flatMap Stmt.spell := by
  induction ss with
  | nil => rfl
  | cons s ss ih => rw [Stmt.spellAll, ih, List.flatMap_cons]

private theorem Stmt.spellCatchers_eq (cs : List (Catcher Stmt)) :
    Stmt.spellCatchers cs = cs.flatMap spellCatcher := by
  induction cs with
  | nil => rfl
  | cons c cs ih =>
    rw [Stmt.spellCatchers, ih, List.flatMap_cons]
    rfl

private theorem spells_block {ss : List Stmt} (begun : ss ≠ [])
    (each : ∀ s ∈ ss, Spells [⟨.nonterminal .statement, 7⟩] s.spell [.stmt s]) :
    Spells [⟨.nonterminal .statements, 7⟩] (Stmt.spellAll ss) [.stmts ss] := by
  rw [Stmt.spellAll_eq]
  exact .many (fun h => .rule 19 rfl rfl le_rfl rfl h)
    (fun h h' => .rule 18 rfl rfl le_rfl rfl (.cons h h')) begun each

private theorem spells_catchers {cs : List (Catcher Stmt)} (begun : cs ≠ [])
    (each : ∀ c ∈ cs, Spells [⟨.nonterminal .catcher, 7⟩] (spellCatcher c) [.catcher c]) :
    Spells [⟨.nonterminal .catchers, 7⟩] (Stmt.spellCatchers cs) [.catchers cs] := by
  rw [Stmt.spellCatchers_eq]
  exact .many (fun h => .rule 31 rfl rfl le_rfl rfl h)
    (fun h h' => .rule 30 rfl rfl le_rfl rfl (.cons h h')) begun each

mutual

theorem Stmt.spells : (s : Stmt) → s.Filled → s.Writable →
    Spells [⟨.nonterminal .statement, 7⟩] s.spell [.stmt s]
  | .eval e, _, h => by
    rw [Stmt.spell]
    exact .rule 35 rfl rfl le_rfl rfl (.cons (Expr.spells_loose h) (.sign rfl .nil))
  | .assign a, _, h => by
    rw [Stmt.spell]
    exact .rule 20 rfl rfl le_rfl rfl (.cons (Assignment.spells h) (.sign rfl .nil))
  | .declare name none, _, h => by
    have hname : Spells [⟨.nonterminal .declared, 7⟩] [nameSign name] [.text name] :=
      .rule 24 rfl rfl le_rfl rfl (.sign h.1 .nil)
    rw [Stmt.spell]
    exact .rule 23 rfl rfl le_rfl rfl (.sign rfl (.cons hname (.sign rfl .nil)))
  | .declare name (some t), _, h => by
    have hname : Spells [⟨.nonterminal .declared, 7⟩] [nameSign name] [.text name] :=
      .rule 24 rfl rfl le_rfl rfl (.sign h.1 .nil)
    rw [Stmt.spell]
    exact .rule 22 rfl rfl le_rfl rfl
      (.sign rfl (.cons hname (.sign rfl (.sign (h.2 t rfl) (.sign rfl .nil)))))
  | .branch c body none, filled, h => by
    have hbody := spells_block filled.1 (Stmt.spells_each body filled.2 h.2)
    rw [Stmt.spell]
    exact .rule 27 rfl rfl le_rfl rfl (.sign rfl (.sign rfl (.cons (Expr.spells_loose h.1)
      (.sign rfl (.sign rfl (.cons hbody (.sign rfl .nil)))))))
  | .branch c body (some orElse), filled, h => by
    have hbody := spells_block filled.1.1 (Stmt.spells_each body filled.1.2 h.2.1)
    have horElse := spells_block filled.2.1 (Stmt.spells_each orElse filled.2.2 h.2.2)
    rw [Stmt.spell, inBraces, List.cons_append, List.append_assoc]
    exact .rule 28 rfl rfl le_rfl rfl (.sign rfl (.sign rfl (.cons (Expr.spells_loose h.1)
      (.sign rfl (.sign rfl (.cons hbody (.sign rfl (.sign rfl (.sign rfl
        (.cons horElse (.sign rfl .nil)))))))))))
  | .loop i c u body, filled, h => by
    have hbody := spells_block filled.1 (Stmt.spells_each body filled.2 h.2.2.2)
    rw [Stmt.spell]
    exact .rule 33 rfl rfl le_rfl rfl (.sign rfl (.sign rfl (.cons (Assignment.spells h.1)
      (.sign rfl (.cons (Expr.spells_loose h.2.1) (.sign rfl (.cons (Assignment.spells h.2.2.1)
        (.sign rfl (.sign rfl (.cons hbody (.sign rfl .nil)))))))))))
  | .attempt body cs, filled, h => by
    have hbody := spells_block filled.1.1 (Stmt.spells_each body filled.1.2 h.1)
    have hcatchers := spells_catchers filled.2.1 (Stmt.spells_catcher cs filled.2.2 h.2)
    rw [Stmt.spell, inBraces, List.cons_append, List.append_assoc]
    exact .rule 29 rfl rfl le_rfl rfl
      (.sign rfl (.sign rfl (.cons hbody (.sign rfl hcatchers))))
  | .raise e, _, h => by
    rw [Stmt.spell]
    exact .rule 34 rfl rfl le_rfl rfl
      (.sign rfl (.cons (Expr.spells_loose h) (.sign rfl .nil)))
  | .ret none, _, _ => by
    rw [Stmt.spell]
    exact .rule 37 rfl rfl le_rfl rfl (.sign rfl (.sign rfl .nil))
  | .ret (some e), _, h => by
    rw [Stmt.spell]
    exact .rule 36 rfl rfl le_rfl rfl
      (.sign rfl (.cons (Expr.spells_loose h) (.sign rfl .nil)))

private theorem Stmt.spells_each : (ss : List Stmt) → Stmt.AllFilled ss → Stmt.AllWritable ss →
    ∀ s ∈ ss, Spells [⟨.nonterminal .statement, 7⟩] s.spell [.stmt s]
  | [], _, _ => by simp
  | s :: ss, filled, h =>
    List.forall_mem_cons.2 ⟨s.spells filled.1 h.1, Stmt.spells_each ss filled.2 h.2⟩

theorem Stmt.spells_catcher : (cs : List (Catcher Stmt)) → Stmt.CatchersFilled cs →
    Stmt.CatchersWritable cs →
    ∀ c ∈ cs, Spells [⟨.nonterminal .catcher, 7⟩] (spellCatcher c) [.catcher c]
  | [], _, _ => by simp
  | ⟨x, body⟩ :: cs, filled, h => by
    have hbody := spells_block filled.1.1 (Stmt.spells_each body filled.1.2 h.1.2)
    exact List.forall_mem_cons.2 ⟨.rule 32 rfl rfl le_rfl rfl (.sign rfl (.sign h.1.1 (.sign rfl
      (.cons hbody (.sign rfl .nil))))), Stmt.spells_catcher cs filled.2 h.2⟩

end

end Statements

section Programs

private theorem Param.spells {p : Param} (h : p.Writable) :
    Spells [⟨.nonterminal .param, 7⟩] p.spell [.param p] := by
  obtain ⟨name, typeName⟩ := p
  cases typeName with
  | none => exact .rule 17 rfl rfl le_rfl rfl (.sign h.1 .nil)
  | some t =>
    exact .rule 16 rfl rfl le_rfl rfl (.sign h.1 (.sign rfl (.sign (h.2 t rfl) .nil)))

private theorem spells_params {ps : List Param} (begun : ps ≠ []) (h : ∀ p ∈ ps, p.Writable) :
    Spells [⟨.nonterminal .params, 7⟩] (separated (ps.map Param.spell)) [.params ps] :=
  .commas (fun h => .rule 15 rfl rfl le_rfl rfl h)
    (fun h h' => .rule 14 rfl rfl le_rfl rfl (.cons h (.sign rfl h'))) begun
    fun p hp => Param.spells (h p hp)

private theorem Func.spells {f : Func} (filled : f.Filled) (h : f.Writable) :
    Spells [⟨.nonterminal .func, 7⟩] f.spell [.func f] := by
  obtain ⟨name, params, returnType, body⟩ := f
  obtain ⟨hname, hparams, htype, hwritable⟩ := h
  have hbody := spells_block filled.1 (Stmt.spells_each body filled.2 hwritable)
  cases params with
  | nil =>
    cases returnType with
    | none =>
      exact .rule 13 rfl rfl le_rfl rfl (.sign rfl (.sign hname (.sign rfl (.sign rfl (.sign rfl
        (.cons hbody (.sign rfl .nil)))))))
    | some t =>
      exact .rule 11 rfl rfl le_rfl rfl (.sign rfl (.sign hname (.sign rfl (.sign rfl (.sign rfl
        (.sign (htype t rfl) (.sign rfl (.cons hbody (.sign rfl .nil)))))))))
  | cons p ps =>
    have hps := spells_params (List.cons_ne_nil p ps) hparams
    cases returnType with
    | none =>
      exact .rule 12 rfl rfl le_rfl rfl (.sign rfl (.sign hname (.sign rfl (.cons hps (.sign rfl
        (.sign rfl (.cons hbody (.sign rfl .nil))))))))
    | some t =>
      exact .rule 10 rfl rfl le_rfl rfl (.sign rfl (.sign hname (.sign rfl (.cons hps (.sign rfl
        (.sign rfl (.sign (htype t rfl) (.sign rfl (.cons hbody (.sign rfl .nil))))))))))

private theorem Struct.spells {s : Struct} (begun : s.fields ≠ []) (h : s.Writable) :
    Spells [⟨.nonterminal .struct, 7⟩] s.spell [.struct s] := by
  have hfield : ∀ f ∈ s.fields, Spells [⟨.nonterminal .field, 7⟩] f.spell [.field f] := by
    intro f hf
    obtain ⟨hname, htype⟩ := h.2 f hf
    exact .rule 7 rfl rfl le_rfl rfl (.sign hname (.sign rfl (.sign htype (.sign rfl .nil))))
  have hfields : Spells [⟨.nonterminal .fields, 7⟩] (s.fields.flatMap Field.spell)
      [.fields s.fields] :=
    .many (fun h => .rule 6 rfl rfl le_rfl rfl h)
      (fun h h' => .rule 5 rfl rfl le_rfl rfl (.cons h h')) begun hfield
  exact .rule 4 rfl rfl le_rfl rfl (.sign rfl (.sign h.1 (.sign rfl (.cons hfields
    (.sign rfl .nil)))))

theorem Program.spells {p : Program} (h : p.WellFormed) :
    Spells [⟨.nonterminal .program, 7⟩] p.spell [.program p] := by
  obtain ⟨structs, funcs⟩ := p
  obtain ⟨⟨hfields, begun, filled⟩, structsWritable, funcsWritable⟩ := h
  have hfuncs : Spells [⟨.nonterminal .funcs, 7⟩] (funcs.flatMap Func.spell) [.funcs funcs] :=
    .many (fun h => .rule 9 rfl rfl le_rfl rfl h)
      (fun h h' => .rule 8 rfl rfl le_rfl rfl (.cons h h')) begun
      fun f hf => Func.spells (filled f hf) (funcsWritable f hf)
  cases structs with
  | nil => exact .rule 1 rfl rfl le_rfl rfl hfuncs
  | cons s ss =>
    have hstructs : Spells [⟨.nonterminal .structs, 7⟩] ((s :: ss).flatMap Struct.spell)
        [.structs (s :: ss)] :=
      .many (fun h => .rule 3 rfl rfl le_rfl rfl h)
        (fun h h' => .rule 2 rfl rfl le_rfl rfl (.cons h h')) (List.cons_ne_nil s ss)
        fun s hs => Struct.spells (hfields s hs) (structsWritable s hs)
    exact .rule 0 rfl rfl le_rfl rfl (.cons hstructs hfuncs)

end Programs

end CallByNeed.Language
