import CallByNeed.Proofs.Unforced.Fill

set_option autoImplicit false
set_option relaxedAutoImplicit false

/-!
Expressions that are never forced. The run of a program with open places shows which cells are made
at a place: those that hold the mark. As long as no such cell is forced, the run of every filling
goes in step with it, so that all fillings have the same input and output and the same end.
-/

namespace CallByNeed.Language

variable {ρ σ τ : Kind}

private theorem Pending.trap?_fill (F : Filling) (p : Pending σ τ) :
    (p.fill F).trap? = p.trap? := by
  cases p <;> rfl

private theorem Stack.alike_fill (F F' : Filling) (k : Stack ρ σ) :
    (k.fill F).Alike (k.fill F') := by
  induction k with
  | nil => exact .nil
  | cons p k ih => exact .cons ((p.trap?_fill F').trans (p.trap?_fill F).symm) ih

namespace Config

variable {F : Filling} {c : Context}

private theorem alike_fill (F F' : Filling) (x : Config ρ) : (x.fill F).Alike (x.fill F') := by
  cases x with
  | run t k s => exact .run _ _ (k.alike_fill F F') _ _
  | done a k s => exact .done _ _ (k.alike_fill F F') _ _
  | fault f k s => exact .fault f (k.alike_fill F F') _ _

private theorem channels_fill (F : Filling) (x : Config ρ) :
    (x.fill F).state.channels = x.state.channels := by
  cases x <;> rfl

private theorem proceed_fill (k : Stack ρ τ) (o : Outcome (Next τ)) :
    proceed (k.fill F) (o.fill F (Next.fill F)) = (proceed k o).map (fill F) := by
  cases o with
  | ok next s => cases next <;> rfl
  | stop f s => rfl
  | outOfFuel => rfl

/-- A step goes as before after filling, unless a cell that holds the mark is forced. -/
theorem step_fill (quiet : c.setup.trace = false) {x : Config ρ}
    (unforced : x.forcesPlace F.mark = false) :
    (x.fill F).step (c.fill F) = (x.step c).map (fill F) := by
  cases x with
  | run t k s =>
    have started := start_fill quiet unforced
    change proceed (k.fill F) ((t.fill F).start (c.fill F) (s.fill F)) = _
    rw [started, proceed_fill]
    rfl
  | done a k s =>
    cases k with
    | nil => rfl
    | cons p k =>
      have resumed := commutes_resume (F := F) (c := c) p a s
      change proceed (k.fill F) ((p.fill F).resume a (c.fill F) (s.fill F)) = _
      rw [resumed, proceed_fill]
      rfl
  | fault f k s =>
    cases k with
    | nil => rfl
    | cons p k =>
      change some (escape f (p.fill F) (k.fill F) (s.fill F)) = some ((escape f p k s).fill F)
      unfold escape
      rw [p.trap?_fill F]
      cases p.trap? <;> cases f <;> rfl

private theorem first_fill (F : Filling) (channels : Channels) :
    (first channels).fill F = first channels := by
  simp [first, fill, Task.fill, Stack.fill, State.fill, State.initial, Cell.fill, Expr.fillAll]

end Config

open Config

section Program

variable {program : Program} {F : Filling} {setup : Setup} {channels : Channels}

/-- A cell is made at a place: after so many steps it holds the mark in the run of the program whose
places are open. -/
def Program.MadeAtPlace (program : Program) (mark : String) (setup : Setup) (channels : Channels)
    (n : Nat) (cell : CellId) : Prop :=
  ∃ x, after (program.context setup) n (first channels) = some x ∧
    x.state.holdsPlace mark cell = true

/-- No cell that is made at a place is forced in the run of a filling. -/
def Program.Unforced (program : Program) (F : Filling) (setup : Setup) (channels : Channels) :
    Prop :=
  ∀ (n : Nat) (cell : CellId) (k : Stack .cell .value) (s : State),
    after ((program.fill F).context setup) n (first channels) = some (.run (.force cell) k s) →
    ¬ program.MadeAtPlace F.mark setup channels n cell

private theorem after_succ {c : Context} {n : Nat} {x : Config ρ} :
    after c (n + 1) x = (after c n x).bind fun y => y.step c := by
  rw [after_add]
  congr 1
  funext y
  simp [after]

/-- The run of a filling goes in step with the run with open places, if no place is forced there. -/
private theorem after_fill (quiet : setup.trace = false) {n : Nat}
    (unforced : ∀ (m : Nat) (x : Config .cell), m < n →
      after (program.context setup) m (first channels) = some x → x.forcesPlace F.mark = false) :
    after ((program.fill F).context setup) n (first channels) =
      (after (program.context setup) n (first channels)).map (fill F) := by
  induction n with
  | zero => simp only [after, Option.map_some, first_fill]
  | succ n ih =>
    rw [after_succ, after_succ, ih fun m x less => unforced m x (Nat.lt_succ_of_lt less)]
    cases here : after (program.context setup) n (first channels) with
    | none => rfl
    | some x =>
      simp only [Option.map_some, Option.bind_some]
      exact step_fill (c := program.context setup) quiet (unforced n x n.lt_succ_self here)

private theorem Program.Unforced.forcesPlace (quiet : setup.trace = false)
    (unforced : program.Unforced F setup channels) {n : Nat} {x : Config .cell}
    (hx : after (program.context setup) n (first channels) = some x) :
    x.forcesPlace F.mark = false := by
  induction n using Nat.strongRecOn generalizing x with
  | _ n ih =>
    have filled := after_fill (F := F) quiet fun m x less hx => ih m less hx
    rw [hx, Option.map_some] at filled
    cases forced : x.forcesPlace F.mark with
    | false => rfl
    | true =>
      cases x with
      | run t k s =>
        cases t with
        | force cell => exact absurd ⟨_, hx, forced⟩ (unforced n cell _ _ filled)
        | _ => cases forced
      | _ => cases forced

/-- Two fillings of one moment of the run with open places. -/
def Filled (program : Program) (F F' : Filling) (setup : Setup) (channels : Channels)
    (y y' : Config .cell) : Prop :=
  ∃ n x, after (program.context setup) n (first channels) = some x ∧ y = x.fill F ∧ y' = x.fill F'

private theorem lockstep_filled (F F' : Filling) (mark : F'.mark = F.mark)
    (quiet : setup.trace = false)
    (unforced : ∀ (n : Nat) (x : Config .cell),
      after (program.context setup) n (first channels) = some x → x.forcesPlace F.mark = false) :
    Lockstep ((program.fill F).context setup) ((program.fill F').context setup)
      (Filled program F F' setup channels) where
  alike := by
    rintro _ _ ⟨n, x, _, rfl, rfl⟩
    exact alike_fill F F' x
  channels := by
    rintro _ _ ⟨n, x, _, rfl, rfl⟩
    rw [channels_fill, channels_fill]
  step := by
    rintro _ _ z ⟨n, x, hx, rfl, rfl⟩ stepped
    have still := unforced n x hx
    have step := step_fill (c := program.context setup) quiet still
    have step' := step_fill (F := F') (c := program.context setup) quiet (mark ▸ still)
    obtain ⟨x', moved, rfl⟩ := Option.map_eq_some_iff.mp (step.symm.trans stepped)
    refine ⟨x'.fill F', ?_, n + 1, x', ?_, rfl, rfl⟩
    · exact step'.trans (by rw [moved, Option.map_some])
    · rw [after_succ, hx, Option.bind_some, moved]

theorem Program.Unforced.runProgram_eq {mark : String} {e : Expr} {session : Session} (e' : Expr)
    (quiet : session.setup.trace = false)
    (unforced : program.Unforced ⟨mark, e⟩ session.setup session.channels) :
    session.runProgram (program.fill ⟨mark, e'⟩) = session.runProgram (program.fill ⟨mark, e⟩) := by
  have lock := lockstep_filled ⟨mark, e⟩ ⟨mark, e'⟩ rfl quiet fun _ _ hx =>
    unforced.forcesPlace quiet hx
  refine lock.runProgram_eq ⟨0, first session.channels, rfl, ?_, ?_⟩
  · exact (first_fill _ _).symm
  · exact (first_fill _ _).symm

/-- An expression that is never forced has no influence. If no cell that is made at a place is
forced in the run of one filling, every other filling gives the same result and leaves the session
in the same state. At each moment, also of runs that do not end, the two differ only by what the
places of the run with open places are filled with, so that they have read and written the same. -/
theorem unforced_expression_has_no_influence (program : Program) (mark : String) (e e' : Expr)
    (session : Session) (quiet : session.setup.trace = false)
    (unforced : program.Unforced ⟨mark, e⟩ session.setup session.channels) :
    session.runProgram (program.fill ⟨mark, e'⟩) = session.runProgram (program.fill ⟨mark, e⟩) ∧
    ∀ n, after ((program.fill ⟨mark, e'⟩).context session.setup) n (first session.channels) =
        (after (program.context session.setup) n (first session.channels)).map (fill ⟨mark, e'⟩) ∧
      after ((program.fill ⟨mark, e⟩).context session.setup) n (first session.channels) =
        (after (program.context session.setup) n (first session.channels)).map
          (fill ⟨mark, e⟩) := by
  have still : ∀ (n : Nat) (x : Config .cell),
      after (program.context session.setup) n (first session.channels) = some x →
      x.forcesPlace mark = false := fun n x hx => unforced.forcesPlace quiet hx
  constructor
  · exact unforced.runProgram_eq e' quiet
  · intro n
    constructor
    · exact after_fill quiet fun m x _ hx => still m x hx
    · exact after_fill quiet fun m x _ hx => still m x hx

/-- A run with open places that has been followed to its end without a place being forced. -/
theorem Program.unforced_of_walk {n : Nat} {y : Config .cell} (quiet : setup.trace = false)
    (h : walk (program.context setup) (fun x => !x.forcesPlace F.mark) n (first channels) = some y)
    (last : y.step (program.context setup) = none) (here : y.forcesPlace F.mark = false) :
    program.Unforced F setup channels := by
  have still : ∀ {m : Nat} {x : Config .cell},
      after (program.context setup) m (first channels) = some x → x.forcesPlace F.mark = false := by
    intro m x hx
    simpa using forall_of_walk h last (by simpa using here) (reaches_of_after hx)
  rintro m cell k s forced ⟨x, hx, holds⟩
  have filled := after_fill (F := F) (n := m) quiet fun m x _ hx => still hx
  rw [forced, hx, Option.map_some, Option.some.injEq] at filled
  have open_ := still hx
  cases x with
  | run t k' s' =>
    cases t with
    | force cell' =>
      cases filled
      cases holds.symm.trans open_
    | _ => cases filled
  | _ => cases filled

/-- A program with an open place that it assigns to a variable and never asks for. -/
def idling : Program where
  structs := []
  funcs := [
    ⟨"main", [], none,
      [.declare "x" none, .declare "y" none, .assign ⟨"x", .new "place"⟩,
        .assign ⟨"y", .str "kept"⟩, .eval (.call "print" [.var "y"]), .ret (some (.var "x"))]⟩]

/-- It does not matter whether the place would divide by zero or never come to an end. -/
theorem unforced_expression_has_no_influence_idling :
    idling.Unforced ⟨"place", .binary .div (.int 1) (.int 0)⟩ {} {} ∧
    (Session.start {} "").runProgram (idling.fill ⟨"place", .call "main" []⟩) =
      (Session.start {} "").runProgram
        (idling.fill ⟨"place", .binary .div (.int 1) (.int 0)⟩) := by
  have finish : ∃ (a : Raising CellId) (s : State),
      walk (idling.context {}) (fun x => !x.forcesPlace "place") 32 (first {}) =
        some (.done (a : Kind.cell.Answer) .nil s) := ⟨_, _, rfl⟩
  obtain ⟨a, s, finished⟩ := finish
  have unforced : ∀ e, idling.Unforced ⟨"place", e⟩ {} {} := fun e =>
    Program.unforced_of_walk (F := ⟨"place", e⟩) rfl finished rfl rfl
  exact ⟨unforced _, (unforced_expression_has_no_influence idling "place" _ _ (Session.start {} "")
    rfl (unforced _)).1⟩

end Program

end CallByNeed.Language
