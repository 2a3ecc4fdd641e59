import CallByNeed.Proofs.Unforced.Influence
import Mathlib.Data.Fintype.EquivFin

set_option autoImplicit false
set_option relaxedAutoImplicit false

/-!
Programs that differ in one deferred expression. Any two such programs are fillings of one program
with one open place. The mark of the place can be any name that the programs create no object of.
Where no cell that is made at this place is forced, the two programs give the same.
-/

namespace CallByNeed.Language

mutual

/-- Expressions that differ in one deferred place, where the one has `e` and the other has `e'`. The
flag tells whether the expressions are deferred themselves. -/
inductive Expr.Differ (e e' : Expr) : Bool → Expr → Expr → Prop where
  | here : Expr.Differ e e' true e e'
  | call {deferred : Bool} (name : String) {args args' : List Expr}
    (inner : Exprs.Differ e e' (!isBuiltIn name) args args') :
    Expr.Differ e e' deferred (.call name args) (.call name args')
  | unary {deferred : Bool} (op : UnaryOp) {x x' : Expr} (inner : Expr.Differ e e' false x x') :
    Expr.Differ e e' deferred (.unary op x) (.unary op x')
  | left {deferred : Bool} (op : BinaryOp) {x x' : Expr} (y : Expr)
    (inner : Expr.Differ e e' false x x') :
    Expr.Differ e e' deferred (.binary op x y) (.binary op x' y)
  | right {deferred : Bool} (op : BinaryOp) (x : Expr) {y y' : Expr}
    (inner : Expr.Differ e e' false y y') :
    Expr.Differ e e' deferred (.binary op x y) (.binary op x y')

inductive Exprs.Differ (e e' : Expr) : Bool → List Expr → List Expr → Prop where
  | head {deferred : Bool} {x x' : Expr} (rest : List Expr)
    (inner : Expr.Differ e e' deferred x x') : Exprs.Differ e e' deferred (x :: rest) (x' :: rest)
  | tail {deferred : Bool} (x : Expr) {rest rest' : List Expr}
    (inner : Exprs.Differ e e' deferred rest rest') :
    Exprs.Differ e e' deferred (x :: rest) (x :: rest')

end

mutual

/-- Statements that differ in one deferred expression. -/
inductive Stmt.Differ (e e' : Expr) : Stmt → Stmt → Prop where
  | eval {x x' : Expr} (inner : Expr.Differ e e' false x x') : Stmt.Differ e e' (.eval x) (.eval x')
  | assign (name : String) {x x' : Expr} (inner : Expr.Differ e e' true x x') :
    Stmt.Differ e e' (.assign ⟨name, x⟩) (.assign ⟨name, x'⟩)
  | condition {x x' : Expr} (body : List Stmt) (orElse : Option (List Stmt))
    (inner : Expr.Differ e e' false x x') :
    Stmt.Differ e e' (.branch x body orElse) (.branch x' body orElse)
  | body (condition : Expr) {body body' : List Stmt} (orElse : Option (List Stmt))
    (inner : Stmts.Differ e e' body body') :
    Stmt.Differ e e' (.branch condition body orElse) (.branch condition body' orElse)
  | orElse (condition : Expr) (body : List Stmt) {orElse orElse' : List Stmt}
    (inner : Stmts.Differ e e' orElse orElse') :
    Stmt.Differ e e' (.branch condition body (some orElse)) (.branch condition body (some orElse'))
  | init (name : String) {x x' : Expr} (condition : Expr) (update : Assignment) (body : List Stmt)
    (inner : Expr.Differ e e' true x x') :
    Stmt.Differ e e' (.loop ⟨name, x⟩ condition update body)
      (.loop ⟨name, x'⟩ condition update body)
  | test (init : Assignment) {x x' : Expr} (update : Assignment) (body : List Stmt)
    (inner : Expr.Differ e e' false x x') :
    Stmt.Differ e e' (.loop init x update body) (.loop init x' update body)
  | update (init : Assignment) (condition : Expr) (name : String) {x x' : Expr} (body : List Stmt)
    (inner : Expr.Differ e e' true x x') :
    Stmt.Differ e e' (.loop init condition ⟨name, x⟩ body) (.loop init condition ⟨name, x'⟩ body)
  | again (init : Assignment) (condition : Expr) (update : Assignment) {body body' : List Stmt}
    (inner : Stmts.Differ e e' body body') :
    Stmt.Differ e e' (.loop init condition update body) (.loop init condition update body')
  | attempt {body body' : List Stmt} (catchers : List (Catcher Stmt))
    (inner : Stmts.Differ e e' body body') :
    Stmt.Differ e e' (.attempt body catchers) (.attempt body' catchers)
  | handle (body : List Stmt) {catchers catchers' : List (Catcher Stmt)}
    (inner : Catchers.Differ e e' catchers catchers') :
    Stmt.Differ e e' (.attempt body catchers) (.attempt body catchers')
  | raise {x x' : Expr} (inner : Expr.Differ e e' false x x') :
    Stmt.Differ e e' (.raise x) (.raise x')
  | ret {x x' : Expr} (inner : Expr.Differ e e' true x x') :
    Stmt.Differ e e' (.ret (some x)) (.ret (some x'))

inductive Stmts.Differ (e e' : Expr) : List Stmt → List Stmt → Prop where
  | head {st st' : Stmt} (rest : List Stmt) (inner : Stmt.Differ e e' st st') :
    Stmts.Differ e e' (st :: rest) (st' :: rest)
  | tail (st : Stmt) {rest rest' : List Stmt} (inner : Stmts.Differ e e' rest rest') :
    Stmts.Differ e e' (st :: rest) (st :: rest')

inductive Catchers.Differ (e e' : Expr) : List (Catcher Stmt) → List (Catcher Stmt) → Prop where
  | head (exception : String) {body body' : List Stmt} (rest : List (Catcher Stmt))
    (inner : Stmts.Differ e e' body body') :
    Catchers.Differ e e' (⟨exception, body⟩ :: rest) (⟨exception, body'⟩ :: rest)
  | tail (catcher : Catcher Stmt) {rest rest' : List (Catcher Stmt)}
    (inner : Catchers.Differ e e' rest rest') :
    Catchers.Differ e e' (catcher :: rest) (catcher :: rest')

end

inductive Funcs.Differ (e e' : Expr) : List Func → List Func → Prop where
  | head (f : Func) {body body' : List Stmt} (rest : List Func)
    (inner : Stmts.Differ e e' body body') :
    Funcs.Differ e e' ({ f with body := body } :: rest) ({ f with body := body' } :: rest)
  | tail (f : Func) {rest rest' : List Func} (inner : Funcs.Differ e e' rest rest') :
    Funcs.Differ e e' (f :: rest) (f :: rest')

/-- Programs that differ in one deferred expression: the right side of an assignment, an argument of
a function of the program or a returned expression is `e` in the one and `e'` in the other. -/
def Program.Differ (program : Program) (e e' : Expr) (program' : Program) : Prop :=
  program'.structs = program.structs ∧ Funcs.Differ e e' program.funcs program'.funcs

mutual

def Expr.created : Expr → List String
  | .new typeName => [typeName]
  | .call _ args => Expr.createdAll args
  | .unary _ operand => operand.created
  | .binary _ left right => left.created ++ right.created
  | .int _ | .bool _ | .str _ | .nil | .var _ => []

def Expr.createdAll : List Expr → List String
  | [] => []
  | e :: es => e.created ++ Expr.createdAll es

end

mutual

def Stmt.created : Stmt → List String
  | .eval e | .raise e | .ret (some e) => e.created
  | .assign a => a.expr.created
  | .declare _ _ | .ret none => []
  | .branch condition body none => condition.created ++ Stmt.createdAll body
  | .branch condition body (some orElse) =>
    condition.created ++ (Stmt.createdAll body ++ Stmt.createdAll orElse)
  | .loop init condition update body =>
    init.expr.created ++ (condition.created ++ (update.expr.created ++ Stmt.createdAll body))
  | .attempt body catchers => Stmt.createdAll body ++ Stmt.createdCatchers catchers

def Stmt.createdAll : List Stmt → List String
  | [] => []
  | st :: stmts => st.created ++ Stmt.createdAll stmts

def Stmt.createdCatchers : List (Catcher Stmt) → List String
  | [] => []
  | ⟨_, body⟩ :: rest => Stmt.createdAll body ++ Stmt.createdCatchers rest

end

def Func.createdAll (funcs : List Func) : List String :=
  funcs.flatMap fun f => Stmt.createdAll f.body

def Program.created (program : Program) : List String :=
  Func.createdAll program.funcs

section Fresh

variable {F : Filling}

mutual

/-- There is nothing to fill where no object of the mark is created. -/
theorem Expr.fill_of_fresh : (x : Expr) → F.mark ∉ x.created → ∀ deferred, x.fill F deferred = x
  | .new typeName, fresh, deferred => by
    have other : typeName ≠ F.mark := fun same => fresh (by simp [Expr.created, same])
    simp [Expr.fill, other]
  | .call name args, fresh, _ => by rw [Expr.fill, Expr.fillAll_of_fresh args fresh]
  | .unary op x, fresh, _ => by rw [Expr.fill, x.fill_of_fresh fresh]
  | .binary op x y, fresh, _ => by
    rw [Expr.created, List.mem_append, not_or] at fresh
    rw [Expr.fill, x.fill_of_fresh fresh.1, y.fill_of_fresh fresh.2]
  | .int _, _, _ | .bool _, _, _ | .str _, _, _ | .nil, _, _ | .var _, _, _ => rfl

private theorem Expr.fillAll_of_fresh : (es : List Expr) → F.mark ∉ Expr.createdAll es →
    ∀ deferred, Expr.fillAll F deferred es = es
  | [], _, _ => rfl
  | e :: es, fresh, deferred => by
    rw [Expr.createdAll, List.mem_append, not_or] at fresh
    rw [Expr.fillAll, e.fill_of_fresh fresh.1, Expr.fillAll_of_fresh es fresh.2]

end

private theorem Assignment.fill_of_fresh (a : Assignment) (fresh : F.mark ∉ a.expr.created) :
    a.fill F = a := by
  rw [Assignment.fill, a.expr.fill_of_fresh fresh]

mutual

private theorem Stmt.fill_of_fresh : (st : Stmt) → F.mark ∉ st.created → st.fill F = st
  | .eval e, fresh | .raise e, fresh | .ret (some e), fresh => by
    rw [Stmt.fill, e.fill_of_fresh fresh]
  | .assign a, fresh => by rw [Stmt.fill, a.fill_of_fresh fresh]
  | .declare _ _, _ | .ret none, _ => rfl
  | .branch condition body none, fresh => by
    rw [Stmt.created, List.mem_append, not_or] at fresh
    rw [Stmt.fill, condition.fill_of_fresh fresh.1, Stmt.fillAll_of_fresh body fresh.2]
  | .branch condition body (some orElse), fresh => by
    simp only [Stmt.created, List.mem_append, not_or] at fresh
    rw [Stmt.fill, condition.fill_of_fresh fresh.1, Stmt.fillAll_of_fresh body fresh.2.1,
      Stmt.fillAll_of_fresh orElse fresh.2.2]
  | .loop init condition update body, fresh => by
    simp only [Stmt.created, List.mem_append, not_or] at fresh
    rw [Stmt.fill, init.fill_of_fresh fresh.1, condition.fill_of_fresh fresh.2.1,
      update.fill_of_fresh fresh.2.2.1, Stmt.fillAll_of_fresh body fresh.2.2.2]
  | .attempt body catchers, fresh => by
    rw [Stmt.created, List.mem_append, not_or] at fresh
    rw [Stmt.fill, Stmt.fillAll_of_fresh body fresh.1, Stmt.fillCatchers_of_fresh catchers fresh.2]

private theorem Stmt.fillAll_of_fresh : (stmts : List Stmt) → F.mark ∉ Stmt.createdAll stmts →
    Stmt.fillAll F stmts = stmts
  | [], _ => rfl
  | st :: stmts, fresh => by
    rw [Stmt.createdAll, List.mem_append, not_or] at fresh
    rw [Stmt.fillAll, st.fill_of_fresh fresh.1, Stmt.fillAll_of_fresh stmts fresh.2]

private theorem Stmt.fillCatchers_of_fresh : (catchers : List (Catcher Stmt)) →
    F.mark ∉ Stmt.createdCatchers catchers → Stmt.fillCatchers F catchers = catchers
  | [], _ => rfl
  | ⟨exception, body⟩ :: rest, fresh => by
    rw [Stmt.createdCatchers, List.mem_append, not_or] at fresh
    rw [Stmt.fillCatchers, Stmt.fillAll_of_fresh body fresh.1,
      Stmt.fillCatchers_of_fresh rest fresh.2]

end

private theorem Func.map_fill_of_fresh {funcs : List Func}
    (fresh : F.mark ∉ Func.createdAll funcs) :
    funcs.map (Func.fill F) = funcs := by
  have each : ∀ f ∈ funcs, f.fill F = f := by
    intro f mem
    have body : F.mark ∉ Stmt.createdAll f.body := fun h => fresh (List.mem_flatMap.mpr ⟨f, mem, h⟩)
    rw [Func.fill, Stmt.fillAll_of_fresh f.body body]
  exact (List.map_congr_left each).trans (List.map_id funcs)

end Fresh

section Open

variable {α β : Type} {mark : String} {e e' : Expr}

/-- There is something with one open place of which `x` and `x'` are fillings. -/
def HasOpen (fill : Filling → α → α) (created : α → List String) (mark : String) (e e' : Expr)
    (x x' : α) : Prop :=
  ∃ y, fill ⟨mark, e⟩ y = x ∧ fill ⟨mark, e'⟩ y = x' ∧ (created y).count mark = 1

/-- The place is kept when what it stands in becomes part of something else without the mark. -/
theorem HasOpen.map {fill : Filling → α → α} {created : α → List String} {x x' : α}
    {fill' : Filling → β → β} {created' : β → List String} (h : HasOpen fill created mark e e' x x')
    (g : α → β) (filled : ∀ e y, fill' ⟨mark, e⟩ (g y) = g (fill ⟨mark, e⟩ y))
    (counted : ∀ y, (created' (g y)).count mark = (created y).count mark) :
    HasOpen fill' created' mark e e' (g x) (g x') := by
  obtain ⟨y, rfl, rfl, once⟩ := h
  exact ⟨g y, filled e y, filled e' y, (counted y).trans once⟩

mutual

/-- Expressions that differ in one deferred place are fillings of one expression, in which the mark
stands for that place and for nothing else. -/
theorem Expr.Differ.hasOpen {deferred : Bool} {x x' : Expr} :
    Expr.Differ e e' deferred x x' → mark ∉ x.created →
      HasOpen (fun F y => y.fill F deferred) Expr.created mark e e' x x'
  | .here, _ => ⟨.new mark, by simp [Expr.fill], by simp [Expr.fill], by simp [Expr.created]⟩
  | .call name inner, fresh =>
    (inner.hasOpen fresh).map (Expr.call name) (fun _ _ => rfl) fun _ => rfl
  | .unary op inner, fresh =>
    (inner.hasOpen fresh).map (Expr.unary op) (fun _ _ => rfl) fun _ => rfl
  | .left op z inner, fresh => by
    rw [Expr.created, List.mem_append, not_or] at fresh
    refine (inner.hasOpen fresh.1).map (Expr.binary op · z) (fun _ y => ?_) fun y => ?_
    · rw [Expr.fill, z.fill_of_fresh fresh.2]
    · rw [Expr.created, List.count_append, List.count_eq_zero_of_not_mem fresh.2, Nat.add_zero]
  | .right op z inner, fresh => by
    rw [Expr.created, List.mem_append, not_or] at fresh
    refine (inner.hasOpen fresh.2).map (Expr.binary op z) (fun _ y => ?_) fun y => ?_
    · rw [Expr.fill, z.fill_of_fresh fresh.1]
    · rw [Expr.created, List.count_append, List.count_eq_zero_of_not_mem fresh.1, Nat.zero_add]

theorem Exprs.Differ.hasOpen {deferred : Bool} {es es' : List Expr} :
    Exprs.Differ e e' deferred es es' → mark ∉ Expr.createdAll es →
      HasOpen (fun F => Expr.fillAll F deferred) Expr.createdAll mark e e' es es'
  | .head rest inner, fresh => by
    rw [Expr.createdAll, List.mem_append, not_or] at fresh
    refine (inner.hasOpen fresh.1).map (· :: rest) (fun _ y => ?_) fun y => ?_
    · rw [Expr.fillAll, Expr.fillAll_of_fresh rest fresh.2]
    · rw [Expr.createdAll, List.count_append, List.count_eq_zero_of_not_mem fresh.2, Nat.add_zero]
  | .tail z inner, fresh => by
    rw [Expr.createdAll, List.mem_append, not_or] at fresh
    refine (inner.hasOpen fresh.2).map (z :: ·) (fun _ y => ?_) fun y => ?_
    · rw [Expr.fillAll, z.fill_of_fresh fresh.1]
    · rw [Expr.createdAll, List.count_append, List.count_eq_zero_of_not_mem fresh.1, Nat.zero_add]

end

mutual

theorem Stmt.Differ.hasOpen {st st' : Stmt} :
    Stmt.Differ e e' st st' → mark ∉ st.created →
      HasOpen Stmt.fill Stmt.created mark e e' st st'
  | .eval inner, fresh => (inner.hasOpen fresh).map Stmt.eval (fun _ _ => rfl) fun _ => rfl
  | .raise inner, fresh => (inner.hasOpen fresh).map Stmt.raise (fun _ _ => rfl) fun _ => rfl
  | .ret inner, fresh =>
    (inner.hasOpen fresh).map (fun y => Stmt.ret (some y)) (fun _ _ => rfl) fun _ => rfl
  | .assign name inner, fresh =>
    (inner.hasOpen fresh).map (fun y => Stmt.assign ⟨name, y⟩) (fun _ _ => rfl) fun _ => rfl
  | .condition body none inner, fresh => by
    rw [Stmt.created, List.mem_append, not_or] at fresh
    refine (inner.hasOpen fresh.1).map (Stmt.branch · body none) (fun _ y => ?_) fun y => ?_
    · rw [Stmt.fill, Stmt.fillAll_of_fresh body fresh.2]
    · simp [Stmt.created, List.count_eq_zero_of_not_mem, fresh]
  | .condition body (some orElse) inner, fresh => by
    simp only [Stmt.created, List.mem_append, not_or] at fresh
    refine (inner.hasOpen fresh.1).map (Stmt.branch · body (some orElse)) (fun _ y => ?_)
      fun y => ?_
    · rw [Stmt.fill, Stmt.fillAll_of_fresh body fresh.2.1, Stmt.fillAll_of_fresh orElse fresh.2.2]
    · simp [Stmt.created, List.count_eq_zero_of_not_mem, fresh]
  | .body condition none inner, fresh => by
    rw [Stmt.created, List.mem_append, not_or] at fresh
    refine (inner.hasOpen fresh.2).map (Stmt.branch condition · none) (fun _ y => ?_) fun y => ?_
    · rw [Stmt.fill, condition.fill_of_fresh fresh.1]
    · simp [Stmt.created, List.count_eq_zero_of_not_mem, fresh]
  | .body condition (some orElse) inner, fresh => by
    simp only [Stmt.created, List.mem_append, not_or] at fresh
    refine (inner.hasOpen fresh.2.1).map (Stmt.branch condition · (some orElse)) (fun _ y => ?_)
      fun y => ?_
    · rw [Stmt.fill, condition.fill_of_fresh fresh.1, Stmt.fillAll_of_fresh orElse fresh.2.2]
    · simp [Stmt.created, List.count_eq_zero_of_not_mem, fresh]
  | .orElse condition body inner, fresh => by
    simp only [Stmt.created, List.mem_append, not_or] at fresh
    refine (inner.hasOpen fresh.2.2).map (fun y => Stmt.branch condition body (some y))
      (fun _ y => ?_) fun y => ?_
    · rw [Stmt.fill, condition.fill_of_fresh fresh.1, Stmt.fillAll_of_fresh body fresh.2.1]
    · simp [Stmt.created, List.count_eq_zero_of_not_mem, fresh]
  | .init name condition update body inner, fresh => by
    simp only [Stmt.created, List.mem_append, not_or] at fresh
    refine (inner.hasOpen fresh.1).map (fun y => Stmt.loop ⟨name, y⟩ condition update body)
      (fun _ y => ?_) fun y => ?_
    · rw [Stmt.fill, condition.fill_of_fresh fresh.2.1, update.fill_of_fresh fresh.2.2.1,
        Stmt.fillAll_of_fresh body fresh.2.2.2]
      rfl
    · simp [Stmt.created, List.count_eq_zero_of_not_mem, fresh]
  | .test init update body inner, fresh => by
    simp only [Stmt.created, List.mem_append, not_or] at fresh
    refine (inner.hasOpen fresh.2.1).map (Stmt.loop init · update body) (fun _ y => ?_) fun y => ?_
    · rw [Stmt.fill, init.fill_of_fresh fresh.1, update.fill_of_fresh fresh.2.2.1,
        Stmt.fillAll_of_fresh body fresh.2.2.2]
    · simp [Stmt.created, List.count_eq_zero_of_not_mem, fresh]
  | .update init condition name body inner, fresh => by
    simp only [Stmt.created, List.mem_append, not_or] at fresh
    refine (inner.hasOpen fresh.2.2.1).map (fun y => Stmt.loop init condition ⟨name, y⟩ body)
      (fun _ y => ?_) fun y => ?_
    · rw [Stmt.fill, init.fill_of_fresh fresh.1, condition.fill_of_fresh fresh.2.1,
        Stmt.fillAll_of_fresh body fresh.2.2.2]
      rfl
    · simp [Stmt.created, List.count_eq_zero_of_not_mem, fresh]
  | .again init condition update inner, fresh => by
    simp only [Stmt.created, List.mem_append, not_or] at fresh
    refine (inner.hasOpen fresh.2.2.2).map (Stmt.loop init condition update) (fun _ y => ?_)
      fun y => ?_
    · rw [Stmt.fill, init.fill_of_fresh fresh.1, condition.fill_of_fresh fresh.2.1,
        update.fill_of_fresh fresh.2.2.1]
    · simp [Stmt.created, List.count_eq_zero_of_not_mem, fresh]
  | .attempt catchers inner, fresh => by
    rw [Stmt.created, List.mem_append, not_or] at fresh
    refine (inner.hasOpen fresh.1).map (Stmt.attempt · catchers) (fun _ y => ?_) fun y => ?_
    · rw [Stmt.fill, Stmt.fillCatchers_of_fresh catchers fresh.2]
    · simp [Stmt.created, List.count_eq_zero_of_not_mem, fresh]
  | .handle body inner, fresh => by
    rw [Stmt.created, List.mem_append, not_or] at fresh
    refine (inner.hasOpen fresh.2).map (Stmt.attempt body) (fun _ y => ?_) fun y => ?_
    · rw [Stmt.fill, Stmt.fillAll_of_fresh body fresh.1]
    · simp [Stmt.created, List.count_eq_zero_of_not_mem, fresh]

private theorem Stmts.Differ.hasOpen {stmts stmts' : List Stmt} :
    Stmts.Differ e e' stmts stmts' → mark ∉ Stmt.createdAll stmts →
      HasOpen Stmt.fillAll Stmt.createdAll mark e e' stmts stmts'
  | .head rest inner, fresh => by
    rw [Stmt.createdAll, List.mem_append, not_or] at fresh
    refine (inner.hasOpen fresh.1).map (· :: rest) (fun _ y => ?_) fun y => ?_
    · rw [Stmt.fillAll, Stmt.fillAll_of_fresh rest fresh.2]
    · simp [Stmt.createdAll, List.count_eq_zero_of_not_mem, fresh]
  | .tail st inner, fresh => by
    rw [Stmt.createdAll, List.mem_append, not_or] at fresh
    refine (inner.hasOpen fresh.2).map (st :: ·) (fun _ y => ?_) fun y => ?_
    · rw [Stmt.fillAll, st.fill_of_fresh fresh.1]
    · simp [Stmt.createdAll, List.count_eq_zero_of_not_mem, fresh]

theorem Catchers.Differ.hasOpen {catchers catchers' : List (Catcher Stmt)} :
    Catchers.Differ e e' catchers catchers' → mark ∉ Stmt.createdCatchers catchers →
      HasOpen Stmt.fillCatchers Stmt.createdCatchers mark e e' catchers catchers'
  | .head exception rest inner, fresh => by
    rw [Stmt.createdCatchers, List.mem_append, not_or] at fresh
    refine (inner.hasOpen fresh.1).map (⟨exception, ·⟩ :: rest) (fun _ y => ?_) fun y => ?_
    · rw [Stmt.fillCatchers, Stmt.fillCatchers_of_fresh rest fresh.2]
    · simp [Stmt.createdCatchers, List.count_eq_zero_of_not_mem, fresh]
  | .tail ⟨exception, body⟩ inner, fresh => by
    rw [Stmt.createdCatchers, List.mem_append, not_or] at fresh
    refine (inner.hasOpen fresh.2).map (⟨exception, body⟩ :: ·) (fun _ y => ?_) fun y => ?_
    · rw [Stmt.fillCatchers, Stmt.fillAll_of_fresh body fresh.1]
    · simp [Stmt.createdCatchers, List.count_eq_zero_of_not_mem, fresh]

end

private theorem Funcs.Differ.hasOpen {funcs funcs' : List Func} (h : Funcs.Differ e e' funcs funcs')
    (fresh : mark ∉ Func.createdAll funcs) :
    HasOpen (fun F => List.map (Func.fill F)) Func.createdAll mark e e' funcs funcs' := by
  induction h with
  | head f rest inner =>
    rw [Func.createdAll, List.flatMap_cons, List.mem_append, not_or] at fresh
    refine (inner.hasOpen fresh.1).map (fun body => { f with body := body } :: rest) (fun _ y => ?_)
      fun y => ?_
    · rw [List.map_cons, Func.map_fill_of_fresh fresh.2]
      rfl
    · rw [Func.createdAll, List.flatMap_cons, List.count_append,
        List.count_eq_zero_of_not_mem fresh.2, Nat.add_zero]
  | tail f _ ih =>
    rw [Func.createdAll, List.flatMap_cons, List.mem_append, not_or] at fresh
    refine (ih fresh.2).map (f :: ·) (fun _ y => ?_) fun y => ?_
    · rw [List.map_cons, Func.fill, Stmt.fillAll_of_fresh f.body fresh.1]
    · rw [Func.createdAll, List.flatMap_cons, List.count_append,
        List.count_eq_zero_of_not_mem fresh.1, Nat.zero_add]
      rfl

/-- Any two programs that differ in one deferred expression are fillings of one program in which the
mark stands for this expression and for nothing else. -/
theorem Program.Differ.exists_fill {program program' : Program}
    (h : program.Differ e e' program') :
    ∃ (opened : Program) (mark : String), opened.created.count mark = 1 ∧
      opened.fill ⟨mark, e⟩ = program ∧ opened.fill ⟨mark, e'⟩ = program' := by
  obtain ⟨structs, funcs⟩ := h
  obtain ⟨mark, fresh⟩ := Infinite.exists_notMem_finset program.created.toFinset
  rw [List.mem_toFinset] at fresh
  obtain ⟨opened, filled, filled', once⟩ := funcs.hasOpen fresh
  refine ⟨⟨program.structs, opened⟩, mark, once, ?_, ?_⟩
  · exact congrArg (Program.mk program.structs) filled
  · exact (congrArg (Program.mk program.structs) filled').trans (by rw [← structs])

/-- Programs that differ in one deferred expression give the same result, if no cell that is made for
this expression is forced in the run of one of them. -/
theorem Program.Differ.runProgram_eq {program program' : Program}
    (h : program.Differ e e' program') (session : Session) (quiet : session.setup.trace = false) :
    ∃ (opened : Program) (mark : String), opened.created.count mark = 1 ∧
      opened.fill ⟨mark, e⟩ = program ∧ opened.fill ⟨mark, e'⟩ = program' ∧
      (opened.Unforced ⟨mark, e⟩ session.setup session.channels ∨
        opened.Unforced ⟨mark, e'⟩ session.setup session.channels →
          session.runProgram program' = session.runProgram program) := by
  obtain ⟨opened, mark, once, rfl, rfl⟩ := h.exists_fill
  refine ⟨opened, mark, once, rfl, rfl, ?_⟩
  rintro (unforced | unforced)
  · exact unforced.runProgram_eq e' quiet
  · exact (unforced.runProgram_eq e quiet).symm

end Open

end CallByNeed.Language
