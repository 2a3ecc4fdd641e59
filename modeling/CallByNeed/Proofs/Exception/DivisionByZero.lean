import CallByNeed.Proofs.Exception.Count

set_option autoImplicit false
set_option relaxedAutoImplicit false

/-!
A division by zero inside a `try` body and the exception `div0` raised at the same place. Both come
to the same `try` with the same exception, count, cells, input and output. The exception closes the
blocks and frames on its way, the division by zero leaves them all open, and there is always one.
-/

namespace CallByNeed.Language

variable {ρ σ τ : Kind}

/-- The innermost `try` body that is being executed: its catchers and the pending steps below. -/
def Stack.innermostTry? : {σ : Kind} → Stack ρ σ → Option (List (Catcher Stmt) × Stack ρ .flow)
  | _, .nil => none
  | _, .cons (.handle catchers) k => some (catchers, k)
  | _, .cons _ k => k.innermostTry?

/-- The scopes when an exception comes to the innermost `try` body. -/
def Stack.unwound : {σ : Kind} → Stack ρ σ → Scopes → Scopes.Result Unit
  | _, .nil, s => (.ok (), s)
  | _, .cons (.handle _) _, s => (.ok (), s)
  | _, .cons p k, s =>
    match p.unwind s with
    | (.ok (), s) => k.unwound s
    | (.error fault, s) => (.error fault, s)

/-- The focus when an exception comes to the innermost `try` body. -/
def Stack.focusAtTry : {σ : Kind} → Stack ρ σ → Option Nat → Option Nat
  | _, .nil, focus => focus
  | _, .cons (.handle _) _, focus => focus
  | _, .cons (.update _ focus) k, _ => k.focusAtTry focus
  | _, .cons _ k, focus => k.focusAtTry focus

section Equations

variable {p : Pending σ τ} {k : Stack ρ τ} (inner : p.tries = 0)

include inner

private theorem Stack.innermostTry?_cons : (Stack.cons p k).innermostTry? = k.innermostTry? := by
  cases p <;> first | rfl | simp at inner

private theorem Stack.unwound_cons (s : Scopes) :
    (Stack.cons p k).unwound s = match p.unwind s with
      | (.ok (), s) => k.unwound s
      | (.error fault, s) => (.error fault, s) := by
  cases p <;> first | rfl | simp at inner

private theorem Pending.passes_of_tries (exception : Option String) : p.Passes exception := by
  cases p <;> trivial

theorem Pending.trap?_of_tries : p.trap? = none := by
  cases p <;> first | rfl | simp at inner

end Equations

private theorem Pending.tries_cases (p : Pending σ τ) : p.tries = 0 ∨ p.tries = 1 := by
  cases p <;> simp

private theorem Stack.tries_pos {k : Stack ρ σ} {catchers : List (Catcher Stmt)}
    {below : Stack ρ .flow} (inside : k.innermostTry? = some (catchers, below)) : 0 < k.tries := by
  induction k with
  | nil => cases inside
  | cons p k ih =>
    rw [Stack.tries]
    rcases p.tries_cases with inner | try'
    · rw [Stack.innermostTry?_cons inner] at inside
      have := ih inside
      omega
    · omega

namespace Config

variable {c : Context} {catchers : List (Catcher Stmt)} {below : Stack ρ .flow}

/-- A division by zero comes to the innermost `try` body with everything as it was. -/
theorem reaches_try_of_zero {k : Stack ρ σ} (inside : k.innermostTry? = some (catchers, below))
    (s : State) :
    Reaches c Any (.fault .divisionByZero k s)
      (.done (Kind.flow.raise (some "div0")) (.cons (.handle catchers) below) s) := by
  induction k with
  | nil => cases inside
  | cons p k ih =>
    rcases p.tries_cases with inner | try'
    · rw [Stack.innermostTry?_cons inner] at inside
      refine .head trivial ?_ (ih inside)
      simp [step, escape, Pending.trap?_of_tries inner]
    · cases p with
      | handle catchers' =>
        cases inside
        exact .head trivial rfl .refl
      | _ => simp at try'

/-- An exception comes to the innermost `try` body with the scopes unwound. -/
theorem reaches_try_of_raise {k : Stack ρ σ} (inside : k.innermostTry? = some (catchers, below))
    {s : State} (counts : s.tryDepth ≠ 0) (exception : Option String) :
    match k.unwound s.scopes with
    | (.ok (), u) => Reaches c Any (.done (σ.raise exception) k s)
        (.done (Kind.flow.raise exception) (.cons (.handle catchers) below) { s with scopes := u })
    | (.error failure, u) => Reaches c Any (.done (σ.raise exception) k s)
        (.fault (.scope failure) (.nil : Stack ρ ρ) { s with scopes := u }) := by
  induction k generalizing s with
  | nil => cases inside
  | @cons σ τ p k ih =>
    rcases p.tries_cases with inner | try'
    · rw [Stack.innermostTry?_cons inner] at inside
      rw [Stack.unwound_cons inner]
      have first := step_passed (c := c) p (Pending.passes_of_tries inner exception) k s
      rw [inner, if_neg (fun stops => counts stops.2)] at first
      cases unwound : p.unwind s.scopes with
      | mk result u =>
        rw [unwound] at first
        cases result with
        | ok _ =>
          have rest := ih inside (s := { s with scopes := u }) counts
          dsimp only at rest ⊢
          cases later : k.unwound u with
          | mk result' u' =>
            rw [later] at rest
            cases result' with
            | ok _ => exact Reaches.head trivial first rest
            | error failure => exact Reaches.head trivial first rest
        | error failure =>
          exact .head trivial first (reaches_fault (by simp) k _).any
    · cases p with
      | handle catchers' =>
        cases inside
        exact .refl
      | _ => simp at try'

end Config

section Scopes

def Env.size : Env → Nat
  | [] => 0
  | frame :: frames => frame.length + 1 + Env.size frames

private theorem Scopes.both_eq_ok {s u : Scopes} {change : Env → Except ScopeFault Env}
    (h : s.both change = (.ok (), u)) : change s.home = .ok u.home ∧ u.focus = s.focus := by
  obtain ⟨home, snapshots, _ | i⟩ := s
  · simp only [both, current, setCurrent] at h
    split at h
    · cases h
    · next changed =>
      cases h
      exact ⟨changed, rfl⟩
  · simp [both, current, setCurrent] at h
    split at h
    · cases h
    · split at h
      · cases h
      · next changed =>
        cases h
        exact ⟨changed, rfl⟩

private theorem Scopes.size_popBlock {s u : Scopes} (h : s.popBlock = (.ok (), u)) :
    Env.size u.home < Env.size s.home ∧ u.focus = s.focus := by
  obtain ⟨changed, focus⟩ := Scopes.both_eq_ok h
  refine ⟨?_, focus⟩
  match home : s.home, changed with
  | (_ :: blocks) :: frames, changed =>
    rw [← Except.ok.inj changed]
    simp [Env.size]

private theorem Scopes.size_popFrame {s u : Scopes} (h : s.popFrame = (.ok (), u)) :
    Env.size u.home < Env.size s.home ∧ u.focus = s.focus := by
  obtain ⟨changed, focus⟩ := Scopes.both_eq_ok h
  refine ⟨?_, focus⟩
  match home : s.home, changed with
  | frame :: frames, changed =>
    rw [← Except.ok.inj changed]
    simp [Env.size]

end Scopes

/-- The number of blocks that are open above the innermost `try` body, its own included. -/
def Stack.closes : {σ : Kind} → Stack ρ σ → Nat
  | _, .nil => 0
  | _, .cons (.handle _) _ => 0
  | _, .cons .close k => k.closes + 1
  | _, .cons _ k => k.closes

private theorem Stack.size_unwound {k : Stack ρ σ} {s u : Scopes} (h : k.unwound s = (.ok (), u)) :
    Env.size u.home + k.closes ≤ Env.size s.home ∧ u.focus = k.focusAtTry s.focus := by
  induction k generalizing s with
  | nil =>
    cases h
    exact ⟨Nat.le_refl _, rfl⟩
  | cons p k ih =>
    cases p with
    | handle catchers =>
      cases h
      exact ⟨Nat.le_refl _, rfl⟩
    | close =>
      simp only [unwound, Pending.unwind] at h
      split at h
      · next u' popped =>
        obtain ⟨smaller, focus⟩ := Scopes.size_popBlock popped
        obtain ⟨rest, focus'⟩ := ih h
        refine ⟨?_, focus'.trans (congrArg k.focusAtTry focus)⟩
        simp only [closes]
        omega
      · cases h
    | leave =>
      simp only [unwound, Pending.unwind] at h
      split at h
      · next u' popped =>
        obtain ⟨smaller, focus⟩ := Scopes.size_popFrame popped
        obtain ⟨rest, focus'⟩ := ih h
        refine ⟨?_, focus'.trans (congrArg k.focusAtTry focus)⟩
        simp only [closes]
        omega
      · cases h
    | _ => exact ih h

/-- The innermost pending step is the end of a `try` body. -/
@[simp]
def Stack.OnTry : {σ : Kind} → Stack ρ σ → Prop
  | _, .nil => False
  | _, .cons p _ => p.tries = 1

@[simp]
def Pending.IsClose : {σ τ : Kind} → Pending σ τ → Prop
  | _, _, .close => True
  | _, _, _ => False

/-- The body of each `try` is a block. -/
@[simp]
def Stack.Framed : {σ : Kind} → Stack ρ σ → Prop
  | _, .nil => True
  | _, .cons p k => (k.OnTry → p.IsClose) ∧ k.Framed

private theorem Stack.Framed.closes_pos {k : Stack ρ σ} (framed : k.Framed) (above : ¬ k.OnTry)
    {catchers : List (Catcher Stmt)} {below : Stack ρ .flow}
    (inside : k.innermostTry? = some (catchers, below)) : 0 < k.closes := by
  induction k with
  | nil => cases inside
  | @cons σ τ p k ih =>
    have inner : p.tries = 0 := p.tries_cases.resolve_right above
    rw [Stack.innermostTry?_cons inner] at inside
    by_cases onTry : k.OnTry
    · have close := framed.1 onTry
      cases p with
      | close => exact Nat.succ_pos _
      | _ => exact close.elim
    · have rest := ih framed.2 onTry inside
      cases p with
      | close => exact Nat.succ_pos _
      | handle catchers => simp at inner
      | _ => exact rest

namespace Config

variable {c : Context}

/-- The bodies of all `try` statements that are being executed are blocks. -/
def Framed : Config ρ → Prop
  | .run t k _ => k.Framed ∧ (k.OnTry → t.IsBlock)
  | .done _ k _ => k.Framed
  | .fault _ k _ => k.Framed

private theorem framed_follow {k : Stack ρ τ} {next : Next τ} {s : State} (framed : k.Framed)
    (above : ¬ k.OnTry) (body : next.TriesBlock) : (follow k next s).Framed := by
  cases next with
  | give a => exact framed
  | goto t => exact ⟨framed, fun onTry => absurd onTry above⟩
  | enter t p => exact ⟨⟨fun onTry => absurd onTry above, framed⟩, body⟩

private theorem framed_step {x y : Config ρ} (framed : x.Framed) (h : x.step c = some y) :
    y.Framed := by
  cases x with
  | run t k s =>
    have leads := does_start t c s
    cases started : t.start c s with
    | ok next s' =>
      simp only [step, started, proceed, Option.some.injEq] at h leads
      subst h
      by_cases onTry : k.OnTry
      · have block := framed.2 onTry
        cases t with
        | block stmts =>
          simp only [Task.start, Comp.bind_apply, Comp.onScopes_apply] at started
          rcases pushed : s.scopes.pushBlock with ⟨_ | _, u⟩
          · simp [pushed] at started
          · rw [pushed] at started
            cases started
            exact ⟨⟨fun _ => trivial, framed.1⟩, by simp⟩
        | _ => exact block.elim
      · exact framed_follow framed.1 onTry leads.1.2.2.1
    | stop f s' =>
      simp only [step, started, proceed, Option.some.injEq] at h
      subst h
      exact framed.1
    | outOfFuel => simp [step, started, proceed] at h
  | done a k s =>
    cases k with
    | nil => simp [step] at h
    | cons p k =>
      have follows := does_resume p a c s
      cases resumed : p.resume a c s with
      | ok next s' =>
        simp only [step, resumed, proceed, Option.some.injEq] at h follows
        subst h
        by_cases onTry : k.OnTry
        · have close := framed.1 onTry
          cases p with
          | close =>
            simp only [Pending.resume, Comp.bind_apply, Comp.onScopes_apply] at resumed
            rcases popped : s.scopes.popBlock with ⟨_ | _, u⟩
            · simp [popped] at resumed
            · rw [popped] at resumed
              cases resumed
              exact framed.2
          | _ => exact close.elim
        · exact framed_follow framed.2 onTry follows.1.2.2.1
      | stop f s' =>
        simp only [step, resumed, proceed, Option.some.injEq] at h
        subst h
        exact framed.2
      | outOfFuel => simp [step, resumed, proceed] at h
  | fault f k s =>
    cases k with
    | nil => simp [step] at h
    | cons p k =>
      simp only [step, Option.some.injEq] at h
      subst h
      unfold escape
      split
      · exact framed
      · exact framed.2

private theorem framed_of_reaches {channels : Channels} {x : Config .cell}
    (h : Reaches c Any (first channels) x) : x.Framed := by
  induction h with
  | refl => exact ⟨trivial, fun onTry => onTry.elim⟩
  | tail _ move ih => exact framed_step ih move.2

end Config

section Program

open Config

/-- A division by zero inside a `try` body comes to the innermost one as the exception `div0` with
the state as it was. The exception raised at the same place comes there with the same count, cells,
input and output and the scopes unwound, which are then never the same, or the unwinding fails. -/
theorem division_by_zero_leaves_scopes_open (program : Program) (setup : Setup)
    (channels : Channels) {k : Stack .cell .value} {s : State} {catchers : List (Catcher Stmt)}
    {below : Stack .cell .flow}
    (moment : Reaches (program.context setup) Any (first channels) (.fault .divisionByZero k s))
    (inside : k.innermostTry? = some (catchers, below)) :
    Reaches (program.context setup) Any (.fault .divisionByZero k s)
      (.done (Kind.flow.raise (some "div0")) (.cons (.handle catchers) below) s) ∧
    match k.unwound s.scopes with
    | (.ok (), u) =>
      Reaches (program.context setup) Any (.done (Kind.value.raise (some "div0")) k s)
        (.done (Kind.flow.raise (some "div0")) (.cons (.handle catchers) below)
          { s with scopes := u }) ∧
      u.focus = k.focusAtTry s.scopes.focus ∧ u.home ≠ s.scopes.home
    | (.error failure, u) =>
      Reaches (program.context setup) Any (.done (Kind.value.raise (some "div0")) k s)
        (.fault (.scope failure) (.nil : Stack .cell .cell) { s with scopes := u }) := by
  refine ⟨reaches_try_of_zero inside s, ?_⟩
  obtain ⟨d, counted⟩ := exists_counted moment
  have counted : s.tryDepth = k.tries + d := counted
  have tries := Stack.tries_pos inside
  have raised := reaches_try_of_raise (c := program.context setup) inside
    (by omega : s.tryDepth ≠ 0) (some "div0")
  cases unwound : k.unwound s.scopes with
  | mk result u =>
    rw [unwound] at raised
    cases result with
    | error failure => exact raised
    | ok _ =>
      obtain ⟨size, focus⟩ := Stack.size_unwound unwound
      have framed : k.Framed := framed_of_reaches moment
      have above : ¬ k.OnTry := by
        cases k with
        | cons p k => cases p <;> simp
      have closes := framed.closes_pos above inside
      refine ⟨raised, focus, fun same => ?_⟩
      rw [same] at size
      omega

/-- A program that divides by zero inside a `try` body. -/
def divider : Program where
  structs := []
  funcs := [⟨"main", [], none,
    [.attempt [.declare "x" none, .assign ⟨"x", .str "kept"⟩,
        .eval (.call "print" [.binary .div (.int 1) (.int 0)])]
      [⟨"div0", [.eval (.call "print" [.var "x"])]⟩]]⟩]

theorem division_by_zero_leaves_scopes_open_divider :
    ∃ (k : Stack .cell .value) (s : State) (u : Scopes),
      Reaches (divider.context {}) Any (first {}) (.fault .divisionByZero k s) ∧
      k.unwound s.scopes = (.ok (), u) ∧ u.home ≠ s.scopes.home := by
  have moment : ∃ (k : Stack .cell .value) (s : State) (u : Scopes) (catchers : _) (below : _),
      after (divider.context {}) 20 (first {}) = some (.fault .divisionByZero k s) ∧
      k.unwound s.scopes = (.ok (), u) ∧ k.innermostTry? = some (catchers, below) :=
    ⟨_, _, _, _, _, rfl, rfl, rfl⟩
  obtain ⟨k, s, u, catchers, below, atZero, unwound, inside⟩ := moment
  have reached := reaches_of_after atZero
  have open' := (division_by_zero_leaves_scopes_open divider {} {} reached inside).2
  rw [unwound] at open'
  exact ⟨k, s, u, reached, unwound, open'.2.2⟩

/-- The same program with the exception raised instead. -/
def divRaiser : Program where
  structs := []
  funcs := [⟨"main", [], none,
    [.attempt [.declare "x" none, .assign ⟨"x", .str "kept"⟩, .raise (.str "div0")]
      [⟨"div0", [.eval (.call "print" [.var "x"])]⟩]]⟩]

theorem division_by_zero_keeps_variables :
    (∃ s, divider.Ends {} {} (.ok (.value nilCell) s) ∧ s.channels.output = #[some "kept"]) ∧
    ∃ s, divRaiser.Ends {} {} (.stop (.language (.variableNotFound "x")) s) ∧
      s.channels.output = #[] := by
  have ends : ∃ s, after (divider.context {}) 47 (first {}) =
      some (.done (.value nilCell : Kind.cell.Answer) .nil s) ∧
      s.channels.output = #[some "kept"] := ⟨_, rfl, rfl⟩
  have stops : ∃ s, after (divRaiser.context {}) 32 (first {}) =
      some (.fault (.language (.variableNotFound "x")) (.nil : Stack .cell .cell) s) ∧
      s.channels.output = #[] := ⟨_, rfl, rfl⟩
  obtain ⟨s, atEnd, output⟩ := ends
  obtain ⟨s', atStop, output'⟩ := stops
  exact ⟨⟨s, Program.ends_ok_iff.mpr (reaches_of_after atEnd), output⟩,
    s', Program.ends_stop_iff.mpr (reaches_of_after atStop), output'⟩

end Program

end CallByNeed.Language
