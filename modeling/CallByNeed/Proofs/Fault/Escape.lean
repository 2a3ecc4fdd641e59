import CallByNeed.Language.Session
import CallByNeed.Proofs.Exception.DivisionByZero
import CallByNeed.Proofs.Fault.Supply

set_option autoImplicit false
set_option relaxedAutoImplicit false

/-!
Faults that escape. Every fault at the end of a run has its origin in the step of an earlier moment.
In a run that is supplied with what it asks for the fault is an error of the language, unless nil has
been printed, an integer has been divided by zero outside all `try` bodies, or a division by zero has
been turned into an exception before.
-/

namespace CallByNeed.Language

variable {ρ σ τ : Kind}

private theorem Pending.tries_of_trap? {p : Pending σ τ} (untrapped : p.trap? = none) :
    p.tries = 0 := by
  cases p with
  | handle catchers => cases untrapped
  | _ => rfl

namespace Config

variable {c : Context}

/-- A fault on its way out comes from a step that has failed, and a division by zero has met no
`try` body since. -/
theorem exists_origin {x y : Config ρ} (calm : x.calm = true) (h : Reaches c Any x y) {f : Fault}
    {k : Stack ρ σ} {s : State} (fault : y = .fault f k s) :
    ∃ (z : Config ρ) (τ : Kind) (below : Stack ρ τ), Reaches c Any x z ∧ z.calm = true ∧
      z.step c = some (.fault f below s) ∧ (f = .divisionByZero → below.tries = k.tries) := by
  -- A fault that a pending step hands on has the same origin as before.
  induction h generalizing σ k with
  | refl =>
    subst fault
    cases calm
  | @tail m y reached move ih =>
    subst fault
    cases calmM : m.calm with
    | true => exact ⟨m, σ, k, reached, calmM, move.2, fun _ => rfl⟩
    | false =>
      cases m with
      | run t k' s' => cases calmM
      | done a k' s' => cases calmM
      | fault f' k' s' =>
        cases k' with
        | nil => cases move.2
        | cons p k' =>
          have escaped : escape f' p k' s' = .fault f k s := Option.some.inj move.2
          unfold escape at escaped
          split at escaped
          · cases escaped
          · next trapped =>
            cases escaped
            obtain ⟨z, τ, below, hz, calmZ, step, same⟩ := ih rfl
            refine ⟨z, τ, below, hz, calmZ, step, fun division => ?_⟩
            subst division
            have inner : p.tries = 0 := by
              refine Pending.tries_of_trap? ?_
              cases trap : p.trap? with
              | none => rfl
              | some a => exact (trapped a rfl trap).elim
            rw [same rfl, Stack.tries, inner, Nat.zero_add]

/-- A division by zero outside all `try` bodies goes past all pending steps. -/
theorem reaches_zero {k : Stack ρ σ} (outside : k.tries = 0) (s : State) :
    Reaches c Any (.fault .divisionByZero k s) (.fault .divisionByZero (.nil : Stack ρ ρ) s) := by
  induction k with
  | nil => exact .refl
  | cons p k ih =>
    rw [Stack.tries, Nat.add_eq_zero_iff] at outside
    refine .head trivial ?_ (ih outside.2)
    simp [step, escape, Pending.trap?_of_tries outside.1]

end Config

section Program

open Config

variable {program : Program} {setup : Setup} {channels : Channels}

/-- A run that is supplied with fitting inputs and creates no object stops with an error of the
language, which is recorded, unless nil is printed, an integer is divided by zero outside all `try`
bodies, or a division by zero has been turned into an exception. The first two do stop it. -/
theorem supplied_run_stops_with_recorded_error (supplied : program.Supplied setup channels) :
    (∀ (f : Fault) (s : State), program.Ends setup channels (.stop f s) →
      (∃ e, f = .language e ∧
        ∀ session : Session, (session.recordFault f).errorKind = some e.kind) ∨
      (f = .noText ∧ ∃ x, Reaches (program.context setup) Any (first channels) x ∧
        x.printsNil = true) ∨
      (f = .divisionByZero ∧ ∃ x, Reaches (program.context setup) Any (first channels) x ∧
        x.dividesByZero = true ∧ x.tries = 0) ∨
      (∃ failure, f = .scope failure) ∧
        ∃ x, Reaches (program.context setup) Any (first channels) x ∧ x.TrapsZero) ∧
    (∀ x, Reaches (program.context setup) Any (first channels) x → x.printsNil = true →
      ∃ s, program.Ends setup channels (.stop .noText s)) ∧
    ∀ x, Reaches (program.context setup) Any (first channels) x → x.dividesByZero = true →
      x.tries = 0 → ∃ s, program.Ends setup channels (.stop .divisionByZero s) := by
  refine ⟨fun f s ends => ?_, fun x hx nil => ?_, fun x hx zero outside => ?_⟩
  · have stopped := Program.ends_stop_iff.mp ends
    obtain ⟨x, τ, below, hx, calm, step, same⟩ := exists_origin rfl stopped rfl
    have funcs : ∀ func ∈ program.funcs, Stmt.allPlain func.body = true :=
      List.all_eq_true.mp supplied.plain
    have stops : x.Stops f := by
      rcases calm_step funcs calm (supplied.plain_of_reaches hx) (supplied.moments x hx) step with
        ⟨_, calm'⟩ | ⟨τ', k, f', s', stops, fault⟩
      · cases calm'
      · cases fault
        exact stops
    cases stops with
    | language e => exact .inl ⟨e, rfl, fun session => rfl⟩
    | noText nil => exact .inr (.inl ⟨rfl, x, hx, nil⟩)
    | divisionByZero zero =>
      obtain ⟨k, step', tries, _⟩ := step_of_dividesByZero (c := program.context setup) zero
      cases step'.symm.trans step
      exact .inr (.inr (.inl ⟨rfl, x, hx, zero, tries.symm.trans (same rfl)⟩))
    | scope failure =>
      refine .inr (.inr (.inr ⟨⟨failure, rfl⟩, ?_⟩))
      rcases stopped.met_or_not TrapsZero with traps | clean
      · exact traps
      · have regular : Fault.Regular (.scope failure) := discipline_holds clean
        exact absurd rfl (regular failure)
  · obtain ⟨below, step⟩ := step_of_printsNil (c := program.context setup) nil
    have stopped := (hx.tail trivial step).trans (reaches_fault (by simp) below x.state).any
    exact ⟨x.state, Program.ends_stop_iff.mpr stopped⟩
  · obtain ⟨below, step, tries, _⟩ := step_of_dividesByZero (c := program.context setup) zero
    have stopped := (hx.tail trivial step).trans (reaches_zero (tries.trans outside) x.state)
    exact ⟨x.state, Program.ends_stop_iff.mpr stopped⟩

private theorem Program.supplied_of_walk {n : Nat} {f : Fault} {s : State}
    (plain : program.plain = true)
    (h : walk (program.context setup) (Config.supplied (program.context setup)) n
      (first channels) = some (.fault f (.nil : Stack .cell .cell) s)) :
    program.Supplied setup channels ∧ program.Ends setup channels (.stop f s) :=
  ⟨⟨plain, fun _ hx => forall_of_walk h rfl rfl hx⟩,
    Program.ends_stop_iff.mpr (reaches_of_walk h).any⟩

/-- A program that reads an integer and prints nil if it is zero. -/
def asking : Program where
  structs := []
  funcs := [
    ⟨"main", [], none,
      [.declare "n" none, .assign ⟨"n", .call "inputi" [.str "n?"]⟩,
        .branch (.binary .eq (.var "n") (.int 0)) [.eval (.call "print" [.nil])] none]⟩]

theorem supplied_run_stops_with_recorded_error_asking :
    asking.Supplied { inputs := #["0"] } {} ∧
    ∃ x : Config .cell, Reaches (asking.context { inputs := #["0"] }) Any (first {}) x ∧
      x.printsNil = true ∧ ∃ s, asking.Ends { inputs := #["0"] } {} (.stop .noText s) := by
  have finish : ∃ s : State,
      walk (asking.context { inputs := #["0"] }) (Config.supplied (asking.context
        { inputs := #["0"] })) 38 (first {}) =
        some (.fault .noText (.nil : Stack .cell .cell) s) := ⟨_, rfl⟩
  have moment : ∃ x : Config .cell, after (asking.context { inputs := #["0"] }) 30 (first {}) =
      some x ∧ x.printsNil = true := ⟨_, rfl, rfl⟩
  obtain ⟨s, finished⟩ := finish
  obtain ⟨x, arrived, nil⟩ := moment
  obtain ⟨supplied, _⟩ := Program.supplied_of_walk rfl finished
  have hx := reaches_of_after arrived
  obtain ⟨_, stops, _⟩ := supplied_run_stops_with_recorded_error supplied
  exact ⟨supplied, x, hx, nil, stops x hx nil⟩

def dividing : Program where
  structs := []
  funcs := [
    ⟨"main", [], none, [.eval (.call "print" [.binary .div (.int 1) (.int 0)])]⟩]

/-- A program that divides by zero in a deferred expression whose value is asked for inside a `try`
body, two blocks further in. -/
def trapping : Program where
  structs := []
  funcs := [
    ⟨"main", [], none,
      [.declare "x" none, .assign ⟨"x", .binary .div (.int 1) (.int 0)⟩,
        .branch (.bool true)
          [.branch (.bool true)
            [.attempt [.eval (.call "print" [.var "x"])]
              [⟨"div0", [.eval (.call "print" [.str "caught"])]⟩]] none] none]⟩]

theorem supplied_run_stops_unrecorded :
    (dividing.Supplied {} {} ∧ ∃ s, dividing.Ends {} {} (.stop .divisionByZero s)) ∧
    (trapping.Supplied {} {} ∧ ∃ s, trapping.Ends {} {} (.stop (.scope .emptyPop) s)) ∧
    ∀ session : Session, session.recordFault .divisionByZero = session ∧
      session.recordFault (.scope .emptyPop) = session := by
  have divided : ∃ s : State,
      walk (dividing.context {}) (Config.supplied (dividing.context {})) 17 (first {}) =
        some (.fault .divisionByZero (.nil : Stack .cell .cell) s) := ⟨_, rfl⟩
  have trapped : ∃ s : State,
      walk (trapping.context {}) (Config.supplied (trapping.context {})) 63 (first {}) =
        some (.fault (.scope .emptyPop) (.nil : Stack .cell .cell) s) := ⟨_, rfl⟩
  obtain ⟨s, divided⟩ := divided
  obtain ⟨s', trapped⟩ := trapped
  obtain ⟨supplied, ends⟩ := Program.supplied_of_walk rfl divided
  obtain ⟨supplied', ends'⟩ := Program.supplied_of_walk rfl trapped
  exact ⟨⟨supplied, s, ends⟩, ⟨supplied', s', ends'⟩, fun _ => ⟨rfl, rfl⟩⟩

end Program

end CallByNeed.Language
