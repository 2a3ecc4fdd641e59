import CallByNeed.Proofs.Comp
import CallByNeed.Proofs.Print.RoundTrip

set_option autoImplicit false
set_option relaxedAutoImplicit false

/-!
The shape of parsed programs. A table says for each label of a node which fields it has and what
stands in them. Every node of a parsed program follows it, so that no field that an interpreter
needs is missing.
-/

namespace CallByNeed

namespace Tree

/-- The first tree is the second one, or inside it. -/
inductive Within (t : Tree) : Tree → Prop where
  | self : Within t t
  | item {u : Tree} {items : List Tree} (mem : u ∈ items) (inside : Within t u) :
      Within t (.list items)
  | field {u : Tree} {label key : String} {fields : List (String × Tree)}
      (mem : (key, u) ∈ fields) (inside : Within t u) : Within t (.node label fields)

def IsNode (labels : List String) (t : Tree) : Prop :=
  ∃ label ∈ labels, ∃ fields, t = .node label fields

end Tree

namespace Language

open CallByNeed.Tree (Within IsNode)

section Schema

inductive FieldKind where
  | text
  | number
  | flag
  /-- A node with one of the labels. -/
  | node (labels : List String)
  /-- A list of nodes with these labels, which may or may not be empty. -/
  | nodes (labels : List String) (filled : Bool)
  /-- Nothing, or what the kind says. -/
  | optional (kind : FieldKind)

def FieldKind.Allows : FieldKind → Tree → Prop
  | .text, t => ∃ s, t = .text s
  | .number, t => ∃ n, t = .number n
  | .flag, t => ∃ b, t = .flag b
  | .node labels, t => t.IsNode labels
  | .nodes labels filled, t =>
    ∃ items, t = .list items ∧ (filled = true → items ≠ []) ∧ ∀ item ∈ items, item.IsNode labels
  | .optional kind, t => t = .absent ∨ kind.Allows t

def FieldKind.required : FieldKind → Bool
  | .optional _ => false
  | _ => true

def binaryLabels : List String :=
  ["+", "-", "*", "/", "==", "!=", ">", ">=", "<", "<=", "||", "&&"]

def expressionLabels : List String :=
  ["int", "bool", "string", "nil", "var", "fcall", "new", "neg", "!"] ++ binaryLabels

def statementLabels : List String :=
  ["=", "vardef", "if", "for", "try", "raise", "return"] ++ expressionLabels

def schema : List (String × List (String × FieldKind)) :=
  let expression := FieldKind.node expressionLabels
  let block := FieldKind.nodes statementLabels true
  [("program", [("structs", .nodes ["struct"] false), ("functions", .nodes ["func"] true)]),
    ("struct", [("name", .text), ("fields", .nodes ["fielddef"] true)]),
    ("fielddef", [("name", .text), ("var_type", .text)]),
    ("func", [("name", .text), ("args", .nodes ["arg"] false), ("return_type", .optional .text),
      ("statements", block)]),
    ("arg", [("name", .text), ("var_type", .optional .text)]),
    ("=", [("name", .text), ("expression", expression)]),
    ("vardef", [("name", .text), ("var_type", .optional .text)]),
    ("if", [("condition", expression), ("statements", block),
      ("else_statements", .optional block)]),
    ("for", [("init", .node ["="]), ("condition", expression), ("update", .node ["="]),
      ("statements", block)]),
    ("try", [("statements", block), ("catchers", .nodes ["catch"] true)]),
    ("catch", [("exception_type", .text), ("statements", block)]),
    ("raise", [("exception_type", expression)]),
    ("return", [("expression", .optional expression)]),
    ("int", [("val", .number)]),
    ("bool", [("val", .flag)]),
    ("string", [("val", .text)]),
    ("nil", []),
    ("var", [("name", .text)]),
    ("fcall", [("name", .text), ("args", .nodes expressionLabels false)]),
    ("new", [("var_type", .text)]),
    ("neg", [("op1", expression)]),
    ("!", [("op1", expression)])] ++
  binaryLabels.map fun label => (label, [("op1", expression), ("op2", expression)])

/-- A node has the fields that the table gives its label. -/
def Conforms (t : Tree) : Prop :=
  ∀ label fields, t = .node label fields →
    ∃ spec, schema.lookup label = some spec ∧ ∀ x ∈ spec, x.2.Allows (t.get x.1)

def AllConform (t : Tree) : Prop :=
  ∀ u, Within u t → Conforms u

private theorem FieldKind.Allows.ne_absent {kind : FieldKind} {t : Tree} (h : kind.Allows t)
    (required : kind.required = true) : t ≠ .absent := by
  rintro rfl
  cases kind with
  | optional kind => cases required
  | node labels =>
    obtain ⟨label, -, fields, hnode⟩ := h
    cases hnode
  | nodes labels filled =>
    obtain ⟨items, hitems, -⟩ := h
    cases hitems
  | text | number | flag =>
    obtain ⟨x, hx⟩ := h
    cases hx

end Schema

section Nodes

private theorem allConform_of_leaf {t : Tree} (leaf : ∀ u, Within u t → u = t)
    (plain : ∀ label fields, t ≠ .node label fields) : AllConform t := by
  intro u hu label fields hnode
  rw [leaf u hu] at hnode
  exact absurd hnode (plain label fields)

private theorem allConform_text (s : String) : AllConform (.text s) :=
  allConform_of_leaf (fun _ hu => by cases hu; rfl) (by simp)

private theorem allConform_absent : AllConform .absent :=
  allConform_of_leaf (fun _ hu => by cases hu; rfl) (by simp)

private theorem allConform_number (n : Int) : AllConform (.number n) :=
  allConform_of_leaf (fun _ hu => by cases hu; rfl) (by simp)

private theorem allConform_flag (b : Bool) : AllConform (.flag b) :=
  allConform_of_leaf (fun _ hu => by cases hu; rfl) (by simp)

private theorem allConform_list {items : List Tree} (h : ∀ t ∈ items, AllConform t) :
    AllConform (.list items) := by
  intro u hu
  cases hu with
  | self => intro label fields hnode; cases hnode
  | item mem inside => exact h _ mem u inside

def Fills (x : String × FieldKind) (f : String × Tree) : Prop :=
  f.1 = x.1 ∧ x.2.Allows f.2 ∧ AllConform f.2

private theorem nodup_schema : ∀ x ∈ schema, (x.2.map Prod.fst).Nodup := by
  decide

private theorem allows_of_fills {spec : List (String × FieldKind)} {fields : List (String × Tree)}
    (h : List.Forall₂ Fills spec fields) (nodup : (spec.map Prod.fst).Nodup) :
    ∀ x ∈ spec, x.2.Allows ((fields.lookup x.1).getD .absent) := by
  induction h with
  | nil => simp
  | @cons y f spec fields hfills _ ih =>
    obtain ⟨hkey, allows, -⟩ := hfills
    rw [List.map_cons, List.nodup_cons] at nodup
    obtain ⟨key, value⟩ := f
    obtain rfl : key = y.1 := hkey
    intro x hx
    rcases List.mem_cons.1 hx with rfl | hx
    · rw [List.lookup_cons_self]
      exact allows
    · have hne : (x.1 == y.1) = false := by
        rw [beq_eq_false_iff_ne]
        intro heq
        exact nodup.1 (heq ▸ List.mem_map_of_mem hx)
      rw [List.lookup_cons, hne]
      exact ih nodup.2 x hx

private theorem allConform_of_fills {spec : List (String × FieldKind)}
    {fields : List (String × Tree)} (h : List.Forall₂ Fills spec fields) :
    ∀ f ∈ fields, AllConform f.2 := by
  induction h with
  | nil => simp
  | cons hfills _ ih => exact List.forall_mem_cons.2 ⟨hfills.2.2, ih⟩

private theorem allConform_node {label : String} {fields : List (String × Tree)}
    {spec : List (String × FieldKind)} (hspec : schema.lookup label = some spec)
    (fills : List.Forall₂ Fills spec fields) : AllConform (.node label fields) := by
  intro u hu
  cases hu with
  | self =>
    intro label' fields' hnode
    cases hnode
    exact ⟨spec, hspec, allows_of_fills fills (nodup_schema _ (mem_of_lookup hspec))⟩
  | field mem hu => exact allConform_of_fills fills _ mem u hu

end Nodes

section Expressions

private theorem Expr.isNode_toTree (e : Expr) : e.toTree.IsNode expressionLabels := by
  cases e with
  | unary op e => cases op <;> exact ⟨_, by decide, _, rfl⟩
  | binary op l r => cases op <;> exact ⟨_, by decide, _, rfl⟩
  | _ => exact ⟨_, by decide, _, rfl⟩

private theorem lookup_binary (op : BinaryOp) : schema.lookup op.text =
    some [("op1", .node expressionLabels), ("op2", .node expressionLabels)] := by
  cases op <;> rfl

private theorem lookup_unary (op : UnaryOp) :
    schema.lookup op.text = some [("op1", .node expressionLabels)] := by
  cases op <;> rfl

private theorem mem_toTrees {es : List Expr} {t : Tree} (h : t ∈ Expr.toTrees es) :
    t.IsNode expressionLabels := by
  induction es with
  | nil => cases h
  | cons e es ih =>
    rcases List.mem_cons.1 h with rfl | h
    · exact e.isNode_toTree
    · exact ih h

mutual

private theorem Expr.allConform_toTree : (e : Expr) → AllConform e.toTree
  | .int n => allConform_node rfl (.cons ⟨rfl, ⟨n, rfl⟩, allConform_number n⟩ .nil)
  | .bool b => allConform_node rfl (.cons ⟨rfl, ⟨b, rfl⟩, allConform_flag b⟩ .nil)
  | .str s => allConform_node rfl (.cons ⟨rfl, ⟨s, rfl⟩, allConform_text s⟩ .nil)
  | .nil => allConform_node rfl .nil
  | .var n => allConform_node rfl (.cons ⟨rfl, ⟨n, rfl⟩, allConform_text n⟩ .nil)
  | .new t => allConform_node rfl (.cons ⟨rfl, ⟨t, rfl⟩, allConform_text t⟩ .nil)
  | .call n args => allConform_node rfl
    (.cons ⟨rfl, ⟨n, rfl⟩, allConform_text n⟩
      (.cons ⟨rfl, ⟨_, rfl, by simp, fun _ => mem_toTrees⟩,
        allConform_list (Expr.allConform_toTrees args)⟩ .nil))
  | .unary op e => allConform_node (lookup_unary op)
    (.cons ⟨rfl, e.isNode_toTree, e.allConform_toTree⟩ .nil)
  | .binary op left right => allConform_node (lookup_binary op)
    (.cons ⟨rfl, left.isNode_toTree, left.allConform_toTree⟩
      (.cons ⟨rfl, right.isNode_toTree, right.allConform_toTree⟩ .nil))

theorem Expr.allConform_toTrees : (es : List Expr) → ∀ t ∈ Expr.toTrees es, AllConform t
  | [] => by simp [Expr.toTrees]
  | e :: es => by
    rw [Expr.toTrees, List.forall_mem_cons]
    exact ⟨e.allConform_toTree, Expr.allConform_toTrees es⟩

end

end Expressions

section Statements

private theorem isNode_mono {labels labels' : List String} (sub : labels ⊆ labels') {t : Tree}
    (h : t.IsNode labels) : t.IsNode labels' := by
  obtain ⟨label, mem, hnode⟩ := h
  exact ⟨label, sub mem, hnode⟩

private theorem Assignment.isNode_toTree (a : Assignment) : a.toTree.IsNode ["="] :=
  ⟨_, List.mem_singleton.2 rfl, _, rfl⟩

private theorem Assignment.allConform_toTree (a : Assignment) : AllConform a.toTree :=
  allConform_node rfl
    (.cons ⟨rfl, ⟨a.name, rfl⟩, allConform_text a.name⟩
      (.cons ⟨rfl, a.expr.isNode_toTree, a.expr.allConform_toTree⟩ .nil))

private theorem Stmt.isNode_toTree (s : Stmt) : s.toTree.IsNode statementLabels := by
  cases s with
  | eval e => exact isNode_mono (by decide) e.isNode_toTree
  | assign a => exact isNode_mono (by decide) a.isNode_toTree
  | branch c body orElse => cases orElse <;> exact ⟨_, by decide, _, rfl⟩
  | ret e => cases e <;> exact ⟨_, by decide, _, rfl⟩
  | _ => exact ⟨_, by decide, _, rfl⟩

private theorem allows_block {ss : List Stmt} (begun : ss ≠ []) :
    (FieldKind.nodes statementLabels true).Allows (.list (Stmt.toTrees ss)) := by
  refine ⟨_, rfl, fun _ => ?_, ?_⟩
  · cases ss with
    | nil => exact absurd rfl begun
    | cons s ss => simp [Stmt.toTrees]
  · clear begun
    induction ss with
    | nil => simp [Stmt.toTrees]
    | cons s ss ih =>
      rw [Stmt.toTrees, List.forall_mem_cons]
      exact ⟨s.isNode_toTree, ih⟩

private theorem allows_catchers {cs : List (Catcher Stmt)} (begun : cs ≠ []) :
    (FieldKind.nodes ["catch"] true).Allows (.list (Stmt.catcherTrees cs)) := by
  refine ⟨_, rfl, fun _ => ?_, ?_⟩
  · cases cs with
    | nil => exact absurd rfl begun
    | cons c cs => simp [Stmt.catcherTrees]
  · clear begun
    induction cs with
    | nil => simp [Stmt.catcherTrees]
    | cons c cs ih =>
      rw [Stmt.catcherTrees, List.forall_mem_cons]
      exact ⟨⟨_, List.mem_singleton.2 rfl, _, rfl⟩, ih⟩

private theorem allConform_textTree (t : Option String) : AllConform (textTree t) := by
  cases t with
  | none => exact allConform_absent
  | some t => exact allConform_text t

private theorem allows_textTree (t : Option String) :
    (FieldKind.optional .text).Allows (textTree t) := by
  cases t with
  | none => exact .inl rfl
  | some t => exact .inr ⟨t, rfl⟩

mutual

theorem Stmt.allConform_toTree : (s : Stmt) → s.Filled → AllConform s.toTree
  | .eval e, _ => e.allConform_toTree
  | .assign a, _ => a.allConform_toTree
  | .declare n t, _ => allConform_node rfl
    (.cons ⟨rfl, ⟨n, rfl⟩, allConform_text n⟩
      (.cons ⟨rfl, allows_textTree t, allConform_textTree t⟩ .nil))
  | .branch c body none, ⟨begun, filled⟩ => allConform_node rfl
    (.cons ⟨rfl, c.isNode_toTree, c.allConform_toTree⟩
      (.cons ⟨rfl, allows_block begun, allConform_list (Stmt.allConform_toTrees body filled)⟩
        (.cons ⟨rfl, .inl rfl, allConform_absent⟩ .nil)))
  | .branch c body (some orElse), ⟨⟨begun, filled⟩, begun', filled'⟩ => allConform_node rfl
    (.cons ⟨rfl, c.isNode_toTree, c.allConform_toTree⟩
      (.cons ⟨rfl, allows_block begun, allConform_list (Stmt.allConform_toTrees body filled)⟩
        (.cons ⟨rfl, .inr (allows_block begun'),
          allConform_list (Stmt.allConform_toTrees orElse filled')⟩ .nil)))
  | .loop i c u body, ⟨begun, filled⟩ => allConform_node rfl
    (.cons ⟨rfl, i.isNode_toTree, i.allConform_toTree⟩
      (.cons ⟨rfl, c.isNode_toTree, c.allConform_toTree⟩
        (.cons ⟨rfl, u.isNode_toTree, u.allConform_toTree⟩
          (.cons ⟨rfl, allows_block begun, allConform_list (Stmt.allConform_toTrees body filled)⟩
            .nil))))
  | .attempt body cs, ⟨⟨begun, filled⟩, begun', filled'⟩ => allConform_node rfl
    (.cons ⟨rfl, allows_block begun, allConform_list (Stmt.allConform_toTrees body filled)⟩
      (.cons ⟨rfl, allows_catchers begun',
        allConform_list (Stmt.allConform_catcherTrees cs filled')⟩ .nil))
  | .raise e, _ => allConform_node rfl (.cons ⟨rfl, e.isNode_toTree, e.allConform_toTree⟩ .nil)
  | .ret none, _ => allConform_node rfl (.cons ⟨rfl, .inl rfl, allConform_absent⟩ .nil)
  | .ret (some e), _ => allConform_node rfl
    (.cons ⟨rfl, .inr e.isNode_toTree, e.allConform_toTree⟩ .nil)

private theorem Stmt.allConform_toTrees : (ss : List Stmt) → Stmt.AllFilled ss →
    ∀ t ∈ Stmt.toTrees ss, AllConform t
  | [], _ => by simp [Stmt.toTrees]
  | s :: ss, filled => by
    rw [Stmt.toTrees, List.forall_mem_cons]
    exact ⟨s.allConform_toTree filled.1, Stmt.allConform_toTrees ss filled.2⟩

theorem Stmt.allConform_catcherTrees : (cs : List (Catcher Stmt)) → Stmt.CatchersFilled cs →
    ∀ t ∈ Stmt.catcherTrees cs, AllConform t
  | [], _ => by simp [Stmt.catcherTrees]
  | ⟨x, body⟩ :: cs, filled => by
    rw [Stmt.catcherTrees, List.forall_mem_cons]
    exact ⟨allConform_node rfl (.cons ⟨rfl, ⟨x, rfl⟩, allConform_text x⟩
      (.cons ⟨rfl, allows_block filled.1.1,
        allConform_list (Stmt.allConform_toTrees body filled.1.2)⟩ .nil)),
      Stmt.allConform_catcherTrees cs filled.2⟩

end

end Statements

section Programs

private theorem isNode_map {α : Type} {f : α → Tree} {label : String}
    (h : ∀ a, ∃ fields, f a = .node label fields) (l : List α) :
    ∀ t ∈ l.map f, t.IsNode [label] := by
  intro t ht
  obtain ⟨a, -, rfl⟩ := List.mem_map.1 ht
  exact ⟨label, List.mem_singleton.2 rfl, h a⟩

private theorem Param.allConform_toTree (p : Param) : AllConform p.toTree :=
  allConform_node rfl
    (.cons ⟨rfl, ⟨p.name, rfl⟩, allConform_text p.name⟩
      (.cons ⟨rfl, allows_textTree p.typeName, allConform_textTree p.typeName⟩ .nil))

private theorem Func.allConform_toTree {f : Func} (filled : f.Filled) : AllConform f.toTree := by
  refine allConform_node rfl
    (.cons ⟨rfl, ⟨f.name, rfl⟩, allConform_text f.name⟩
      (.cons ⟨rfl, ⟨_, rfl, by simp, isNode_map (fun _ => ⟨_, rfl⟩) _⟩, allConform_list ?_⟩
        (.cons ⟨rfl, allows_textTree f.returnType, allConform_textTree f.returnType⟩
          (.cons ⟨rfl, allows_block filled.1,
            allConform_list (Stmt.allConform_toTrees f.body filled.2)⟩ .nil))))
  exact List.forall_mem_map.2 fun p _ => p.allConform_toTree

private theorem Field.allConform_toTree (f : Field) : AllConform f.toTree :=
  allConform_node rfl
    (.cons ⟨rfl, ⟨f.name, rfl⟩, allConform_text f.name⟩
      (.cons ⟨rfl, ⟨f.typeName, rfl⟩, allConform_text f.typeName⟩ .nil))

private theorem Struct.allConform_toTree {s : Struct} (begun : s.fields ≠ []) :
    AllConform s.toTree := by
  refine allConform_node rfl
    (.cons ⟨rfl, ⟨s.name, rfl⟩, allConform_text s.name⟩
      (.cons ⟨rfl, ⟨_, rfl, by simpa using begun, isNode_map (fun _ => ⟨_, rfl⟩) _⟩,
        allConform_list ?_⟩ .nil))
  exact List.forall_mem_map.2 fun f _ => f.allConform_toTree

private theorem Program.allConform_toTree {p : Program} (filled : p.Filled) :
    AllConform p.toTree := by
  obtain ⟨structs, begun, funcs⟩ := filled
  refine allConform_node rfl
    (.cons ⟨rfl, ⟨_, rfl, by simp, isNode_map (fun _ => ⟨_, rfl⟩) _⟩, allConform_list ?_⟩
      (.cons ⟨rfl, ⟨_, rfl, by simpa using begun, isNode_map (fun _ => ⟨_, rfl⟩) _⟩,
        allConform_list ?_⟩ .nil))
  · exact List.forall_mem_map.2 fun s hs => Struct.allConform_toTree (structs s hs)
  · exact List.forall_mem_map.2 fun f hf => Func.allConform_toTree (funcs f hf)

end Programs

/-- An assignment goes on to the next statement, if it does not stop the program. -/
theorem flow_of_assign {a : Assignment} {c : Context} {s s' : State} {flow : Flow}
    (h : assign a c s = .ok flow s') : flow = .next := by
  rw [assign, Comp.bind_eq_ok] at h
  obtain ⟨cell, s₁, -, h⟩ := h
  rw [Comp.bind_eq_ok] at h
  obtain ⟨bound, s₂, -, h⟩ := h
  cases bound with
  | true =>
    cases h
    rfl
  | false => cases h

/-- Every program that a parse gives has the shape that the interpreter relies on: each node has the
fields of its label, no required one is missing, and the assignments of a loop only go on. -/
theorem shape_of_parse {source : String} {p : Program} (h : (parse source).result = .ok p) :
    (∀ t, Within t p.toTree → Conforms t) ∧
    (∀ label fields spec key kind, Within (.node label fields) p.toTree →
      schema.lookup label = some spec → (key, kind) ∈ spec → kind.required = true →
        (Tree.node label fields).get key ≠ .absent) ∧
    (∀ (a : Assignment) (fuel : Nat) (c : Context) (s s' : State) (flow : Flow),
      exec fuel (.assign a) c s = .ok flow s' → flow = .next) := by
  have conform := Program.allConform_toTree (filled_of_parse h)
  refine ⟨conform, ?_, ?_⟩
  · intro label fields spec key kind within hspec mem required
    obtain ⟨spec', hspec', allows⟩ := conform _ within label fields rfl
    obtain rfl := Option.some.inj (hspec.symm.trans hspec')
    exact (allows _ mem).ne_absent required
  · intro a fuel c s s' flow hexec
    cases fuel with
    | zero => rw [exec] at hexec; cases hexec
    | succ fuel =>
      rw [exec] at hexec
      exact flow_of_assign hexec

/-- A program with a loop, a branch with two bodies, a `try` with two catchers and a `return`. -/
def looper : Program where
  structs := []
  funcs := [⟨"main", [], none,
    [.declare "i" none,
      .loop ⟨"i", .int 0⟩ (.binary .lt (.var "i") (.int 3)) ⟨"i", .binary .add (.var "i") (.int 1)⟩
        [.branch (.binary .eq (.var "i") (.int 1))
          [.attempt [.raise (.str "odd")]
            [⟨"even", [.ret none]⟩, ⟨"odd", [.eval (.call "print" [.var "i", .str "odd"])]⟩]]
          (some [.assign ⟨"i", .unary .neg (.var "i")⟩])],
      .ret (some (.var "i"))]⟩]

theorem shape_of_parse_looper :
    (parse looper.render).result = .ok looper ∧
      (∀ t, Within t looper.toTree → Conforms t) ∧
      ∀ label fields spec key kind, Within (.node label fields) looper.toTree →
        schema.lookup label = some spec → (key, kind) ∈ spec → kind.required = true →
          (Tree.node label fields).get key ≠ .absent := by
  have filled : ∀ f ∈ looper.funcs, Stmt.FilledBlock f.body := by
    simp [looper, Stmt.FilledBlock, Stmt.AllFilled, Stmt.Filled, Stmt.CatchersFilled]
  have writable : ∀ f ∈ looper.funcs, Stmt.AllWritable f.body := by
    simp only [looper, List.forall_mem_singleton, Stmt.AllWritable, Stmt.Writable, Stmt.CatchersWritable,
      Assignment.Writable, Expr.Writable, Expr.AllWritable]
    decide
  have wellFormed : looper.WellFormed :=
    wellFormed_single (by decide) (filled _ List.mem_cons_self) (writable _ List.mem_cons_self)
  have finds := looper.layout_render.finds (Program.spells wellFormed).valid 1 0
  obtain ⟨h, -⟩ := wellFormed.parse_eq finds
  exact ⟨h, (shape_of_parse h).1, (shape_of_parse h).2.1⟩
end Language

end CallByNeed
