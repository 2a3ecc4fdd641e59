import CallByNeed.Proofs.Commute.Twin

set_option autoImplicit false
set_option relaxedAutoImplicit false

/-!
Assignments commute. An assignment only defers its expression, so the order of two assignments to
different names does not matter if neither expression mentions the name that the other one assigns:
what the expressions print, read or raise happens when they are forced, and that is at the same
moments in both orders.
-/

namespace CallByNeed.Language

open Config Contract

def Scopes.declares (u : Scopes) (name : String) : Bool :=
  match u.get? name with
  | .ok (some _) => true
  | _ => false

private theorem Scopes.find?_of_declares {u : Scopes} {name : String} (h : u.declares name = true) :
    u.top.find? name ≠ none := by
  unfold declares get? at h
  rw [top]
  cases current : u.current with
  | nil =>
    rw [current] at h
    cases h
  | cons frame frames =>
    rw [current] at h
    intro absent
    have absent : frame.find? name = none := absent
    simp only [absent, Bool.false_eq_true] at h

section Commute

variable {program program' : Program} {a b : Assignment} {setup : Setup} {channels : Channels}

/-- No division by zero is turned into an exception in the run of a program. -/
def Program.Untrapped (program : Program) (setup : Setup) (channels : Channels) : Prop :=
  ∀ n x, after (program.context setup) n (first channels) = some x → x.Untrapped

/-- Both names are declared when one of the programs is about to execute the assignments in one
order and the other one in the other order. -/
def Program.Declares (program program' : Program) (a b : Assignment) (setup : Setup)
    (channels : Channels) : Prop :=
  ∀ n rest rest' k k' s s',
    after (program.context setup) n (first channels) =
      some (.run (.all (.assign a :: .assign b :: rest)) k s) →
    after (program'.context setup) n (first channels) =
      some (.run (.all (.assign b :: .assign a :: rest')) k' s') →
    s.scopes.declares a.name = true ∧ s.scopes.declares b.name = true

/-- Two moments after as many steps, at which the duties of the runs stand. -/
private def InStep (program program' : Program) (a b : Assignment) (setup : Setup)
    (channels : Channels) (x y : Config .cell) : Prop :=
  Coupled discipline (Owed a b) (program.context setup) (program'.context setup) x y ∧
    ∃ n, after (program.context setup) n (first channels) = some x ∧
      after (program'.context setup) n (first channels) = some y

private theorem lockstep_inStep (reordered : program.Reordered a b program')
    (distinct : a.name ≠ b.name) (apart : a.expr.mentions b.name = false)
    (apart' : b.expr.mentions a.name = false) (quiet : setup.trace = false)
    (untrapped : program.Untrapped setup channels)
    (declared : program.Declares program' a b setup channels) :
    Lockstep (program.context setup) (program'.context setup)
      (InStep program program' a b setup channels) where
  alike _ _ h := h.1.alike
  channels _ _ h := h.1.channels
  step := by
    rintro x y x' ⟨coupled, n, hx, hy⟩ step
    have context : (program.context setup).Reordered a b (program'.context setup) :=
      ⟨rfl, quiet, reordered.2⟩
    have kept := kept_owed context distinct apart apart'
    have moment : ∀ {σ : Kind} (t t' : Task σ) (k k' : Stack .cell σ) (s s' : State),
        x = .run t k s → y = .run t' k' s' → t.Declared a b s t' s' := by
      rintro σ t t' k k' s s' rfl rfl rest rest' here there
      cases t with
      | all stmts =>
        cases t' with
        | all stmts' =>
          cases here
          cases there
          obtain ⟨first, second⟩ := declared n rest rest' k k' s s' hx hy
          exact ⟨Scopes.find?_of_declares first, Scopes.find?_of_declares second⟩
        | _ => cases there
      | _ => cases here
    obtain ⟨y', step', coupled'⟩ := kept.coupled_step (kept_discipline _) (kept_discipline _)
      coupled (untrapped n x hx) moment step
    refine ⟨y', step', coupled', n + 1, ?_, ?_⟩
    · rw [after_add, hx, Option.bind_some, after, step]
      rfl
    · rw [after_add, hy, Option.bind_some, after, step']
      rfl

/-- Assignments to different names commute. If neither expression mentions the name that the other
one is assigned to, a program with the two assignments in the other order gives the same result and
leaves the session in the same state, whatever the expressions print, read or raise. At each moment,
also of runs that do not end, the two runs have read and written the same. -/
theorem adjacent_assignments_commute (program program' : Program) (a b : Assignment)
    (session : Session) (reordered : program.Reordered a b program') (distinct : a.name ≠ b.name)
    (apart : a.expr.mentions b.name = false) (apart' : b.expr.mentions a.name = false)
    (quiet : session.setup.trace = false)
    (untrapped : program.Untrapped session.setup session.channels)
    (declared : program.Declares program' a b session.setup session.channels) :
    session.runProgram program' = session.runProgram program ∧
    ∀ n x, after (program.context session.setup) n (first session.channels) = some x →
      ∃ y, after (program'.context session.setup) n (first session.channels) = some y ∧
        x.Alike y ∧ y.state.channels = x.state.channels := by
  have lock := lockstep_inStep reordered distinct apart apart' quiet untrapped declared
  have start : InStep program program' a b session.setup session.channels
      (first session.channels) (first session.channels) := ⟨coupled_first _, 0, rfl, rfl⟩
  refine ⟨lock.runProgram_eq start, fun n x hx => ?_⟩
  obtain ⟨y, hy, inStep⟩ := lock.after start hx
  exact ⟨y, hy, lock.alike x y inStep, lock.channels x y inStep⟩

/-- Both names are declared if two assignments are about to be executed. -/
def Config.declaresBoth : Config .cell → Bool
  | .run (.all (.assign a :: .assign b :: _)) _ s =>
    s.scopes.declares a.name && s.scopes.declares b.name
  | _ => true

private theorem Program.declares_of_walk {n : Nat} {y : Config .cell}
    (h : walk (program.context setup) (fun x => x.calm && x.declaresBoth) n (first channels) =
      some y)
    (last : y.step (program.context setup) = none) (here : (y.calm && y.declaresBoth) = true) :
    program.Untrapped setup channels ∧ program.Declares program' a b setup channels := by
  have passed : ∀ {m : Nat} {x : Config .cell},
      after (program.context setup) m (first channels) = some x →
      x.calm = true ∧ x.declaresBoth = true := by
    intro m x hx
    exact (Bool.and_eq_true _ _).mp (forall_of_walk h last here (reaches_of_after hx))
  constructor
  · intro m x hx
    exact untrapped_of_calm (passed hx).1
  · intro m rest rest' k k' s s' hx _
    exact (Bool.and_eq_true _ _).mp (passed hx).2

def meeting (first second : Assignment) : Program where
  structs := []
  funcs := [
    ⟨"main", [], none,
      [.declare "x" none, .declare "y" none, .assign first, .assign second,
        .eval (.call "print" [.var "y"]), .eval (.call "print" [.var "x"])]⟩]

/-- Of two prompts the one whose answer is printed first comes first, whichever is assigned first.
-/
theorem adjacent_assignments_commute_meeting :
    (meeting ⟨"x", .call "inputs" [.str "x?"]⟩ ⟨"y", .call "inputs" [.str "y?"]⟩).Reordered
      ⟨"x", .call "inputs" [.str "x?"]⟩ ⟨"y", .call "inputs" [.str "y?"]⟩
      (meeting ⟨"y", .call "inputs" [.str "y?"]⟩ ⟨"x", .call "inputs" [.str "x?"]⟩) ∧
    (Session.start { inputs := #["p", "q"] } "").runProgram
        (meeting ⟨"y", .call "inputs" [.str "y?"]⟩ ⟨"x", .call "inputs" [.str "x?"]⟩) =
      (Session.start { inputs := #["p", "q"] } "").runProgram
        (meeting ⟨"x", .call "inputs" [.str "x?"]⟩ ⟨"y", .call "inputs" [.str "y?"]⟩) := by
  have reordered : (meeting ⟨"x", .call "inputs" [.str "x?"]⟩
      ⟨"y", .call "inputs" [.str "y?"]⟩).Reordered
      ⟨"x", .call "inputs" [.str "x?"]⟩ ⟨"y", .call "inputs" [.str "y?"]⟩
      (meeting ⟨"y", .call "inputs" [.str "y?"]⟩ ⟨"x", .call "inputs" [.str "x?"]⟩) := by
    refine ⟨rfl, .cons ⟨_, ?_, rfl⟩ .nil⟩
    exact .cons (.same _) (.cons (.same _) (.swap (.refl _)))
  have finish : ∃ (a : Raising CellId) (s : State),
      walk ((meeting ⟨"x", .call "inputs" [.str "x?"]⟩
        ⟨"y", .call "inputs" [.str "y?"]⟩).context { inputs := #["p", "q"] })
        (fun x => x.calm && x.declaresBoth) 53 (first {}) =
        some (.done (a : Kind.cell.Answer) .nil s) := ⟨_, _, rfl⟩
  obtain ⟨a, s, finished⟩ := finish
  obtain ⟨untrapped, declared⟩ := Program.declares_of_walk finished rfl rfl
  exact ⟨reordered, (adjacent_assignments_commute _ _ _ _
    (Session.start { inputs := #["p", "q"] } "") reordered (by decide) rfl rfl rfl untrapped
    declared).1⟩

end Commute

end CallByNeed.Language
