import CallByNeed.Proofs.Exception.Uncaught

set_option autoImplicit false
set_option relaxedAutoImplicit false

/-!
Exceptions that are caught. An exception goes to the innermost `try` body being executed that has a
catcher for it, wherever it is raised, and on its way nothing happens but that blocks and frames are
closed and the focus goes back.
-/

namespace CallByNeed.Language

variable {ρ σ τ : Kind}

/-- The catcher of an exception: the first one for it of the innermost `try` body that has any, with
the pending steps below the `try`. -/
def Stack.catcher? (exception : Option String) :
    {σ : Kind} → Stack ρ σ → Option (Catcher Stmt × Stack ρ .flow)
  | _, .nil => none
  | _, .cons (.handle catchers) k =>
    match catchers.find? fun c => some c.exception = exception with
    | some catcher => some (catcher, k)
    | none => k.catcher? exception
  | _, .cons _ k => k.catcher? exception

/-- An environment in which nothing has been done but to close blocks and frames and to open empty
blocks. -/
inductive Env.Unwinds (env : Env) : Env → Prop where
  | refl : Unwinds env env
  | closeBlock {block : Block} {frame : Frame} {frames : List Frame}
    (before : Unwinds env ((block :: frame) :: frames)) : Unwinds env (frame :: frames)
  | closeFrame {frame : Frame} {frames : List Frame} (before : Unwinds env (frame :: frames)) :
    Unwinds env frames
  | openBlock {frame : Frame} {frames : List Frame} (before : Unwinds env (frame :: frames)) :
    Unwinds env (([] :: frame) :: frames)

private theorem Env.Unwinds.trans {a b d : Env} (first : Unwinds a b) (second : Unwinds b d) :
    Unwinds a d := by
  induction second with
  | refl => exact first
  | closeBlock _ ih => exact ih.closeBlock
  | closeFrame _ ih => exact ih.closeFrame
  | openBlock _ ih => exact ih.openBlock

/-- Scopes in which nothing has been done to any environment but to close blocks and frames and to
open empty blocks. -/
structure Scopes.Unwinds (u u' : Scopes) : Prop where
  home : Env.Unwinds u.home u'.home
  snapshots : ∀ i : Nat, Option.Rel Env.Unwinds u.snapshots[i]? u'.snapshots[i]?

namespace Scopes

private theorem unwinds_refl (u : Scopes) : u.Unwinds u where
  home := .refl
  snapshots i := by
    cases u.snapshots[i]? with
    | none => exact .none
    | some env => exact .some .refl

private theorem Unwinds.trans {u u' u'' : Scopes} (first : u.Unwinds u') (second : u'.Unwinds u'') :
    u.Unwinds u'' where
  home := first.home.trans second.home
  snapshots i := by
    have before := first.snapshots i
    have after := second.snapshots i
    generalize u.snapshots[i]? = a, u'.snapshots[i]? = b, u''.snapshots[i]? = d at *
    cases before with
    | none =>
      cases after
      exact .none
    | some one =>
      cases after with
      | some other => exact .some (one.trans other)

private theorem Unwinds.refocus {u u' : Scopes} (unwinds : u.Unwinds u') (focus : Option Nat) :
    u.Unwinds { u' with focus := focus } :=
  ⟨unwinds.home, unwinds.snapshots⟩

private theorem rel_setIfInBounds {snapshots : Array Env} {j : Nat} {env : Env}
    (unwinds : Env.Unwinds (snapshots[j]?.getD []) env) (i : Nat) :
    Option.Rel Env.Unwinds snapshots[i]? (snapshots.setIfInBounds j env)[i]? := by
  rw [Array.getElem?_setIfInBounds]
  split
  · next same =>
    subst same
    split
    · next bound =>
      rw [Array.getElem?_eq_getElem bound] at unwinds ⊢
      exact .some unwinds
    · next out =>
      rw [Array.getElem?_eq_none (Nat.not_lt.mp out)]
      exact .none
  · exact (unwinds_refl ⟨[], snapshots, none⟩).snapshots i

private theorem unwinds_both {change : Env → Except ScopeFault Env} {u u' : Scopes}
    (changes : ∀ env env', change env = .ok env' → Env.Unwinds env env')
    (h : u.both change = (.ok (), u')) : u.Unwinds u' := by
  obtain ⟨home, snapshots, _ | j⟩ := u
  · simp only [both, current, setCurrent] at h
    split at h
    · cases h
    · next env changed =>
      cases h
      exact ⟨changes home env changed, (unwinds_refl _).snapshots⟩
  · simp only [both, current, setCurrent, Option.isNone_some, Bool.false_eq_true, if_false] at h
    split at h
    · cases h
    · next env changed =>
      split at h
      · cases h
      · next env' changed' =>
        cases h
        exact ⟨changes home env' changed', rel_setIfInBounds (changes _ env changed)⟩

private theorem unwinds_popBlock {u u' : Scopes} (h : u.popBlock = (.ok (), u')) :
    u.Unwinds u' := by
  refine unwinds_both (fun env env' closed => ?_) h
  match env, closed with
  | (block :: frame) :: frames, closed =>
    cases closed
    exact .closeBlock .refl

private theorem unwinds_popFrame {u u' : Scopes} (h : u.popFrame = (.ok (), u')) :
    u.Unwinds u' := by
  refine unwinds_both (fun env env' closed => ?_) h
  match env, closed with
  | frame :: frames, closed =>
    cases closed
    exact .closeFrame .refl

private theorem unwinds_pushBlock {u u' : Scopes} (h : u.pushBlock = (.ok (), u')) :
    u.Unwinds u' := by
  refine unwinds_both (fun env env' opened => ?_) h
  match env, opened with
  | frame :: frames, opened =>
    cases opened
    exact .openBlock .refl

end Scopes

private theorem Pending.unwinds_unwind {p : Pending σ τ} {u u' : Scopes}
    (h : p.unwind u = (.ok (), u')) : u.Unwinds u' := by
  cases p with
  | close => exact Scopes.unwinds_popBlock h
  | leave => exact Scopes.unwinds_popFrame h
  | update cell focus =>
    cases h
    exact (Scopes.unwinds_refl u).refocus focus
  | _ =>
    cases h
    exact Scopes.unwinds_refl u

/-- A state in which an exception has been on its way, or is: cells, input and output are as they
were, and blocks and frames have been closed or opened. -/
structure State.Unwinds (s s' : State) : Prop where
  cells : s'.cells = s.cells
  channels : s'.channels = s.channels
  scopes : s.scopes.Unwinds s'.scopes

private theorem State.Unwinds.trans {s s' s'' : State} (first : s.Unwinds s')
    (second : s'.Unwinds s'') :
    s.Unwinds s'' :=
  ⟨second.cells.trans first.cells, second.channels.trans first.channels,
    first.scopes.trans second.scopes⟩

section Catcher

variable {exception : Option String} {catcher : Catcher Stmt} {below : Stack ρ .flow}

/-- A pending step has no catcher for the exception, or it is the `try` that catches it. -/
theorem Stack.catcher?_cons {p : Pending σ τ} {k : Stack ρ τ}
    (found : (Stack.cons p k).catcher? exception = some (catcher, below)) :
    p.Passes exception ∧ k.catcher? exception = some (catcher, below) ∨
      p.tries = 1 ∧ ∀ (c : Context) (s : State),
        (Config.done (σ.raise exception) (.cons p k) s).step c =
          some (.run (.block catcher.body) below s) := by
  cases p with
  | handle catchers =>
    simp only [catcher?] at found
    split at found
    · next catcher' matching =>
      cases found
      refine .inr ⟨rfl, fun c s => ?_⟩
      simp only [Config.step, Pending.resume, Kind.raise, resumeHandle, matching]
      rfl
    · next unmatched => exact .inl ⟨unmatched, found⟩
  | _ => exact .inl ⟨trivial, found⟩

private theorem Stack.tries_pos_of_catcher {k : Stack ρ σ}
    (found : k.catcher? exception = some (catcher, below)) : 0 < k.tries := by
  induction k with
  | nil => cases found
  | cons p k ih =>
    rw [Stack.tries]
    rcases Stack.catcher?_cons found with ⟨_, deeper⟩ | ⟨one, _⟩
    · have := ih deeper
      omega
    · omega

end Catcher

namespace Config

/-- A moment on the way of an exception to a catcher: it has been raised, it is handed on, or the
catcher is entered. No statement and no expression is started at such a moment. -/
inductive OnWay (exception : String) (body : List Stmt) : Config ρ → Prop where
  | raised {k : Stack ρ .flow} {s : State} : OnWay exception body (.raise (.str exception) k s)
  | passed {σ : Kind} {k : Stack ρ σ} {s : State} :
    OnWay exception body (.done (σ.raise (some exception)) k s)
  | entered {k : Stack ρ .flow} {s : State} : OnWay exception body (.run (.block body) k s)

private theorem OnWay.untrapped {exception : String} {body : List Stmt} {x : Config ρ}
    (onWay : x.OnWay exception body) : x.Untrapped := by
  cases onWay <;> exact id

/-- A moment on the way of an exception since which nothing has happened but the closing and opening
of blocks and frames. -/
def Silent (exception : String) (body : List Stmt) (s : State) (x : Config ρ) : Prop :=
  x.OnWay exception body ∧ s.Unwinds x.state

end Config

open Config

section Runs

variable {c : Context} {channels : Channels} {exception : String} {catcher : Catcher Stmt}
  {below : Stack .cell .flow} {s s₀ : State}

/-- An exception with a catcher goes past a pending step without one: a `try` body still counts, and
the scopes do not fail. -/
theorem step_passes {p : Pending σ τ} {k : Stack .cell τ} (passes : p.Passes (some exception))
    (counts : 0 < k.tries)
    (hx : Reaches c Untrapped (first channels) (.done (σ.raise (some exception)) (.cons p k) s)) :
    ∃ s', (Config.done (σ.raise (some exception)) (.cons p k) s).step c =
      some (.done (τ.raise (some exception)) k s') ∧ s.Unwinds s' := by
  obtain ⟨d, counted⟩ := exists_counted hx.any
  have depth : s.tryDepth = p.tries + k.tries + d := counted
  have step := step_passed (c := c) p passes k s
  rw [if_neg (by omega)] at step
  cases unwound : p.unwind s.scopes with
  | mk result u =>
    rw [unwound] at step
    cases result with
    | ok _ => exact ⟨_, step, rfl, rfl, Pending.unwinds_unwind unwound⟩
    | error failure =>
      have regular : Fault.Regular (.scope failure) := discipline_holds (hx.tail id step)
      exact absurd rfl (regular failure)

private theorem reaches_catcher {k : Stack .cell σ}
    (found : k.catcher? (some exception) = some (catcher, below))
    (hx : Reaches c Untrapped (first channels) (.done (σ.raise (some exception)) k s))
    (unwinds : s₀.Unwinds s) :
    ∃ s', Reaches c (Silent exception catcher.body s₀) (.done (σ.raise (some exception)) k s)
      (.run (.block catcher.body) below s') ∧ s₀.Unwinds s' := by
  -- Along the stack the exception comes to each pending step within the same run, so that the
  -- scopes do not fail there either.
  induction k generalizing s with
  | nil => cases found
  | @cons σ τ p k ih =>
    have here : Silent exception catcher.body s₀
        (.done (σ.raise (some exception)) (.cons p k) s) := ⟨.passed, unwinds⟩
    rcases Stack.catcher?_cons found with ⟨passes, deeper⟩ | ⟨_, catches⟩
    · obtain ⟨s₁, passed, further⟩ := step_passes passes (Stack.tries_pos_of_catcher deeper) hx
      obtain ⟨s', reached, unwinds'⟩ := ih deeper (hx.tail id passed) (unwinds.trans further)
      exact ⟨s', .head here passed reached, unwinds'⟩
    · exact ⟨s, .head here (catches c s) .refl, unwinds⟩

private theorem step_block {stmts : List Stmt}
    (hx : Reaches c Untrapped (first channels) (.run (.block stmts) below s)) :
    ∃ s', (Config.run (.block stmts) below s).step c =
      some (.run (.all stmts) (.cons .close below) s') ∧ s.Unwinds s' := by
  have running : Heap.Running below.busy s.heap := ready_of_run hx
  obtain ⟨u, opened, _⟩ := running.open_block
  have opened : s.scopes.pushBlock = (.ok (), u) := opened
  refine ⟨{ s with scopes := u }, ?_, rfl, rfl, Scopes.unwinds_pushBlock opened⟩
  rw [step, Task.start, Comp.bind_apply, Comp.onScopes_apply, opened]
  rfl

/-- The first statement of a list is started, after it has been traced. -/
theorem step_all (st : Stmt) (stmts : List Stmt) (k : Stack .cell .flow) (s : State) :
    ∃ s', (Config.run (.all (st :: stmts)) k s).step c =
      some (.run (.stmt st) (.cons (.rest stmts) k) s') ∧ s'.cells = s.cells ∧
      s'.scopes = s.scopes ∧ s.channels.Unused c.setup.trace s'.channels := by
  have traces : ∃ s', traceStmt st c s = .ok () s' ∧ s'.cells = s.cells ∧ s'.scopes = s.scopes ∧
      s.channels.Unused c.setup.trace s'.channels := by
    rw [traceStmt, Comp.bind_apply, Comp.context_apply]
    dsimp only
    split
    · next traced =>
      rw [traced]
      exact ⟨_, rfl, rfl, rfl, rfl, rfl, rfl, fun untraced => Bool.noConfusion untraced⟩
    · exact ⟨s, rfl, rfl, rfl, .refl _ _⟩
  obtain ⟨s', traced, kept⟩ := traces
  refine ⟨s', ?_, kept⟩
  rw [step, Task.start, startAll, Comp.bind_apply, traced]
  rfl

end Runs

section Program

variable {program : Program} {setup : Setup} {channels : Channels}

/-- Before a division by zero is turned into an exception, a string that is raised while a `try` body
with a catcher for it is being executed comes to the first such catcher of the innermost such `try`,
and its first statement is the next one to be executed. On the way the exception is only handed on:
cells, input and output stay as they are, and the environments change only in that blocks and frames
are closed and the block of the catcher is opened. -/
theorem raised_string_reaches_catcher {exception : String} {k : Stack .cell .flow} {s : State}
    {catcher : Catcher Stmt} {below : Stack .cell .flow}
    (moment : Reaches (program.context setup) Untrapped (first channels)
      (.raise (.str exception) k s))
    (found : k.catcher? (some exception) = some (catcher, below)) :
    ∃ s', Reaches (program.context setup) (Silent exception catcher.body s)
        (.raise (.str exception) k s) (.run (.all catcher.body) (.cons .close below) s') ∧
      s.Unwinds s' ∧
      ∀ (st : Stmt) (stmts : List Stmt), catcher.body = st :: stmts →
        ∃ s'', (Config.run (.all catcher.body) (.cons .close below) s').step
            (program.context setup) =
            some (.run (.stmt st) (.cons (.rest stmts) (.cons .close below)) s'') ∧
          s''.cells = s.cells ∧ s''.scopes = s'.scopes ∧
          s.channels.Unused setup.trace s''.channels := by
  have start : s.Unwinds s := ⟨rfl, rfl, Scopes.unwinds_refl _⟩
  have raised : (Config.raise (.str exception) k s).step (program.context setup) =
      some (.done (Kind.flow.raise (some exception)) k s) := step_raise rfl
  obtain ⟨s₁, caught, unwinds₁⟩ := reaches_catcher found (moment.tail id raised) start
  have entered := Reaches.head (⟨.raised, start⟩ : Silent exception catcher.body s _) raised caught
  have untrapped := moment.trans (entered.mono fun x silent => silent.1.untrapped)
  obtain ⟨s', opened, unwinds'⟩ := step_block untrapped
  have unwinds := unwinds₁.trans unwinds'
  refine ⟨s', entered.tail ⟨.entered, unwinds₁⟩ opened, unwinds, fun st stmts body => ?_⟩
  rw [body]
  obtain ⟨s'', started, cells, scopes, unused⟩ :=
    step_all (c := program.context setup) st stmts (.cons .close below) s'
  exact ⟨s'', started, cells.trans unwinds.cells, scopes, unwinds.channels ▸ unused⟩

/-- A program that defers a call and asks for its value inside two `try` bodies, of which the outer
one has a catcher for the exception that the function raises. -/
def rescuing : Program where
  structs := []
  funcs := [
    ⟨"main", [], none,
      [.declare "x" none, .assign ⟨"x", .call "fail" []⟩,
        .attempt
          [.attempt [.eval (.call "print" [.var "x"])] [⟨"other", []⟩]]
          [⟨"lost", [.eval (.call "print" [.str "found"])]⟩]]⟩,
    ⟨"fail", [], none, [.raise (.str "lost")]⟩]

theorem raised_string_reaches_catcher_rescuing :
    ∃ (k below : Stack .cell .flow) (s s' s'' : State),
      Reaches (rescuing.context {}) Untrapped (first {}) (.raise (.str "lost") k s) ∧
      s.scopes.focus = some 0 ∧
      k.catcher? (some "lost") =
        some (⟨"lost", [.eval (.call "print" [.str "found"])]⟩, below) ∧
      Reaches (rescuing.context {}) (Silent "lost" [.eval (.call "print" [.str "found"])] s)
        (.raise (.str "lost") k s)
        (.run (.all [.eval (.call "print" [.str "found"])]) (.cons .close below) s') ∧
      s.Unwinds s' ∧
      (Config.run (.all [.eval (.call "print" [.str "found"])]) (.cons .close below) s').step
        (rescuing.context {}) = some (.run (.stmt (.eval (.call "print" [.str "found"])))
          (.cons (.rest []) (.cons .close below)) s'') ∧
      s.channels.Unused false s''.channels := by
  have moment : ∃ (k below : Stack .cell .flow) (s : State),
      walk (rescuing.context {}) calm 26 (first {}) = some (.raise (.str "lost") k s) ∧
      s.scopes.focus = some 0 ∧ k.catcher? (some "lost") =
        some (⟨"lost", [.eval (.call "print" [.str "found"])]⟩, below) :=
    ⟨_, _, _, rfl, rfl, rfl⟩
  obtain ⟨k, below, s, toRaise, focus, found⟩ := moment
  have hx := (reaches_of_walk toRaise).mono fun _ => untrapped_of_calm
  obtain ⟨s', caught, unwinds, starts⟩ := raised_string_reaches_catcher hx found
  obtain ⟨s'', started, _, _, unused⟩ := starts _ _ rfl
  exact ⟨k, below, s, s', s'', hx, focus, found, caught, unwinds, started, unused⟩

end Program

end CallByNeed.Language
