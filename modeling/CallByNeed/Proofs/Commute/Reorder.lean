import CallByNeed.Language.Eval
import Mathlib.Data.List.Forall2

set_option autoImplicit false
set_option relaxedAutoImplicit false

/-!
Programs with two assignments in two orders. Where the two assignments follow each other, the other
program may have them the other way round, at any depth and in any number of places.
-/

namespace CallByNeed.Language

mutual

/-- A statement in which the assignments `a` and `b`, wherever one follows the other, may stand in
the other order. -/
inductive Stmt.Reordered (a b : Assignment) : Stmt → Stmt → Prop where
  | same (st : Stmt) : Stmt.Reordered a b st st
  | branch (condition : Expr) {body body' : List Stmt} (inner : Stmts.Reordered a b body body') :
    Stmt.Reordered a b (.branch condition body none) (.branch condition body' none)
  | branchElse (condition : Expr) {body body' orElse orElse' : List Stmt}
    (inner : Stmts.Reordered a b body body') (other : Stmts.Reordered a b orElse orElse') :
    Stmt.Reordered a b (.branch condition body (some orElse))
      (.branch condition body' (some orElse'))
  | loop (init : Assignment) (condition : Expr) (update : Assignment) {body body' : List Stmt}
    (inner : Stmts.Reordered a b body body') :
    Stmt.Reordered a b (.loop init condition update body) (.loop init condition update body')
  | attempt {body body' : List Stmt} {catchers catchers' : List (Catcher Stmt)}
    (inner : Stmts.Reordered a b body body')
    (handlers : Catchers.Reordered a b catchers catchers') :
    Stmt.Reordered a b (.attempt body catchers) (.attempt body' catchers')

inductive Stmts.Reordered (a b : Assignment) : List Stmt → List Stmt → Prop where
  | nil : Stmts.Reordered a b [] []
  | cons {st st' : Stmt} {rest rest' : List Stmt} (first : Stmt.Reordered a b st st')
    (others : Stmts.Reordered a b rest rest') : Stmts.Reordered a b (st :: rest) (st' :: rest')
  | swap {rest rest' : List Stmt} (others : Stmts.Reordered a b rest rest') :
    Stmts.Reordered a b (.assign a :: .assign b :: rest) (.assign b :: .assign a :: rest')

inductive Catchers.Reordered (a b : Assignment) :
    List (Catcher Stmt) → List (Catcher Stmt) → Prop where
  | nil : Catchers.Reordered a b [] []
  | cons (exception : String) {body body' : List Stmt} {rest rest' : List (Catcher Stmt)}
    (inner : Stmts.Reordered a b body body') (others : Catchers.Reordered a b rest rest') :
    Catchers.Reordered a b (⟨exception, body⟩ :: rest) (⟨exception, body'⟩ :: rest')

end

/-- A function that has the assignments in the other order in its body. -/
def Func.Reordered (a b : Assignment) (f f' : Func) : Prop :=
  ∃ body', Stmts.Reordered a b f.body body' ∧ f' = { f with body := body' }

/-- A program with the assignments `a` and `b` in the other order in some of the places where the
one follows the other. -/
def Program.Reordered (a b : Assignment) (program program' : Program) : Prop :=
  program'.structs = program.structs ∧
    List.Forall₂ (Func.Reordered a b) program.funcs program'.funcs

variable {a b : Assignment}

theorem Stmts.Reordered.refl (stmts : List Stmt) : Stmts.Reordered a b stmts stmts := by
  induction stmts with
  | nil => exact .nil
  | cons st rest ih => exact .cons (.same st) ih

theorem Catchers.Reordered.refl (catchers : List (Catcher Stmt)) :
    Catchers.Reordered a b catchers catchers := by
  induction catchers with
  | nil => exact .nil
  | cons catcher rest ih => exact .cons catcher.exception (.refl catcher.body) ih

theorem Catchers.Reordered.find? {catchers catchers' : List (Catcher Stmt)}
    (h : Catchers.Reordered a b catchers catchers') (exception : Option String) :
    (catchers.find? (fun c => some c.exception = exception) = none ∧
      catchers'.find? (fun c => some c.exception = exception) = none) ∨
    ∃ catcher catcher', catchers.find? (fun c => some c.exception = exception) = some catcher ∧
      catchers'.find? (fun c => some c.exception = exception) = some catcher' ∧
      Stmts.Reordered a b catcher.body catcher'.body := by
  induction catchers generalizing catchers' with
  | nil =>
    cases h
    exact .inl ⟨rfl, rfl⟩
  | cons catcher rest ih =>
    cases h with
    | cons name inner others =>
      by_cases matching : some name = exception
      · exact .inr ⟨_, _, List.find?_cons_of_pos (by simpa using matching),
          List.find?_cons_of_pos (by simpa using matching), inner⟩
      · rw [List.find?_cons_of_neg (by simpa using matching),
          List.find?_cons_of_neg (by simpa using matching)]
        exact ih others

private theorem find?_reordered {funcs funcs' : List Func}
    (h : List.Forall₂ (Func.Reordered a b) funcs funcs') (arity : Nat) :
    (funcs.find? (fun f => f.params.length = arity) = none ∧
      funcs'.find? (fun f => f.params.length = arity) = none) ∨
    ∃ f f', funcs.find? (fun f => f.params.length = arity) = some f ∧
      funcs'.find? (fun f => f.params.length = arity) = some f' ∧ Func.Reordered a b f f' := by
  induction h with
  | nil => exact .inl ⟨rfl, rfl⟩
  | @cons f f' funcs funcs' first _ ih =>
    have params : f'.params = f.params := by
      obtain ⟨body', _, rfl⟩ := first
      rfl
    by_cases fits : f.params.length = arity
    · exact .inr ⟨f, f', List.find?_cons_of_pos (by simpa using fits),
        List.find?_cons_of_pos (by simpa [params] using fits), first⟩
    · rw [List.find?_cons_of_neg (by simpa using fits),
        List.find?_cons_of_neg (by simpa [params] using fits)]
      exact ih

theorem findFunc_reordered {funcs funcs' : List Func}
    (h : List.Forall₂ (Func.Reordered a b) funcs funcs') (name : String) (arity : Nat) :
    (∃ e, findFunc funcs name arity = .error e ∧ findFunc funcs' name arity = .error e) ∨
    ∃ f f', findFunc funcs name arity = .ok f ∧ findFunc funcs' name arity = .ok f' ∧
      Func.Reordered a b f f' := by
  have named : List.Forall₂ (Func.Reordered a b) (funcs.filter fun f => f.name = name)
      (funcs'.filter fun f => f.name = name) := by
    refine List.rel_filter ?_ h
    rintro f f' ⟨body', _, rfl⟩
    rfl
  have empty : (funcs'.filter fun f => f.name = name).isEmpty =
      (funcs.filter fun f => f.name = name).isEmpty := by
    rw [Bool.eq_iff_iff, List.isEmpty_iff_length_eq_zero, List.isEmpty_iff_length_eq_zero,
      named.length_eq]
  unfold findFunc
  dsimp only
  rw [empty]
  cases (funcs.filter fun f => f.name = name).isEmpty with
  | true => exact .inl ⟨_, rfl, rfl⟩
  | false =>
    rw [if_neg (by simp), if_neg (by simp)]
    rcases find?_reordered (List.rel_reverse named) arity with ⟨none, none'⟩ |
      ⟨f, f', found, found', reordered⟩
    · rw [none, none']
      exact .inl ⟨_, rfl, rfl⟩
    · rw [found, found']
      exact .inr ⟨f, f', rfl, rfl, reordered⟩

end CallByNeed.Language
