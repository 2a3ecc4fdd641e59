import CallByNeed.Proofs.Heap.Tracking
import CallByNeed.Proofs.Machine.Return

set_option autoImplicit false
set_option relaxedAutoImplicit false

/-!
Balance of the environments. An expression leaves all environments as it finds them, however its
evaluation ends, and a statement leaves all frames below the one on top, and that one with as many
blocks. While a statement is executed the two environments in use have the same frame on top, also
when the function has been called for the sake of a deferred expression, so that a snapshot of the
home environment serves a returned expression as well as one of the current environment.
-/

namespace CallByNeed.Language

open Heap

/-- Environments that differ in the frame on top only, and not in the number of its blocks. -/
def Env.Reframes (env env' : Env) : Prop :=
  ∃ (frame frame' : Frame) (frames : List Frame),
    env = frame :: frames ∧ env' = frame' :: frames ∧ frame'.length = frame.length

/-- Scopes that differ in the frame on top of the two environments in use. -/
structure Scopes.Reframes (u u' : Scopes) : Prop where
  focus : u'.focus = u.focus
  home : Env.Reframes u.home u'.home
  current : Env.Reframes u.current u'.current

private theorem Scopes.reframes_push {base base' : Scopes} {frame frame' : Frame}
    (focused : base.Focused) (extended : base.Extends base')
    (length : frame'.length = frame.length) :
    (base.push frame).Reframes (base'.push frame') where
  focus := by simp [extended.focus]
  home := ⟨frame, frame', base.home, push_home frame, by rw [push_home, extended.home], length⟩
  current := by
    refine ⟨frame, frame', base.current, focused.current frame, ?_, length⟩
    rw [(extended.focused focused).current, extended.current focused]

private theorem Heap.Shifts.reframes {B : List CellId} {h h' : Heap} (shifts : Shifts B h h') :
    h.scopes.Reframes h'.scopes := by
  obtain ⟨base, base', frame, frame', focused, scopes, scopes', extended, length, _⟩ := shifts.frame
  rw [scopes, scopes']
  exact Scopes.reframes_push focused extended length

private theorem Heap.Running.shared {B : List CellId} {h : Heap} (running : Running B h) :
    ∃ (frame : Frame) (frames frames' : List Frame),
      h.scopes.current = frame :: frames ∧ h.scopes.home = frame :: frames' := by
  obtain ⟨base, block, frame, focused, scopes, _⟩ := running.frame
  refine ⟨block :: frame, base.current, base.home, ?_, ?_⟩
  · rw [scopes, focused.current]
  · rw [scopes, Scopes.push_home]

private theorem Scopes.get?_of_current {u : Scopes} {frame : Frame} {frames : List Frame}
    (current : u.current = frame :: frames) (name : String) :
    u.get? name = .ok (frame.find? name) := by
  rw [Scopes.get?, current]

private theorem Heap.current_defer (h : Heap) (e : Expr) (env : Env) :
    ((h.defer e env).refocus (some h.scopes.snapshots.size)).scopes.current = env := by
  simp only [Scopes.current, refocus, defer_snapshots_size, Option.getD_some]

private theorem reframes_assign {B : List CellId} {a : Assignment} {c : Context} {flow : Flow}
    {s s' : State} (running : Running B s.heap) (assigned : assign a c s = .ok flow s') :
    s.scopes.Reframes s'.scopes := by
  obtain ⟨base, block, frame, focused, scopes, _⟩ := running.frame
  obtain ⟨base', extended, _, assigned'⟩ := assign_apply a c focused scopes
  rw [assigned] at assigned'
  cases rebound : Frame.rebind? a.name s.cells.size (block :: frame) with
  | none =>
    rw [rebound] at assigned'
    cases assigned'
  | some frame' =>
    rw [rebound] at assigned'
    obtain ⟨rfl, rfl⟩ := Outcome.ok.inj assigned'
    rw [show s.scopes = base.push (block :: frame) from scopes]
    exact Scopes.reframes_push focused extended (Frame.length_rebind? rebound)

namespace Config

variable {ρ : Kind} {c : Context}

/-- A statement is about to be executed: one of a list of statements, the initialisation of a loop,
which is executed where the loop starts, or its update. -/
inductive AtStatement : Config ρ → Prop where
  | stmt {st : Stmt} {k : Stack ρ .flow} {s : State} : AtStatement (.run (.stmt st) k s)
  | update {condition : Expr} {update : Assignment} {body : List Stmt} {k : Stack ρ .flow}
    {s : State} :
    AtStatement (.done (.next : Kind.flow.Answer) (.cons (.again condition update body) k) s)

/-- A statement is executed from one moment to another, where it returns. -/
inductive Executes (c : Context) : Config ρ → Config ρ → Prop where
  | stmt {st : Stmt} {k : Stack ρ .flow} {s s' : State} {flow : Flow}
    (returns : (Task.stmt st).Returns c k s flow s') :
    Executes c (.run (.stmt st) k s) (.done (flow : Kind.flow.Answer) k s')
  | init {init update : Assignment} {condition : Expr} {body : List Stmt} {k : Stack ρ .flow}
    {s s' : State}
    (step : (run (.stmt (.loop init condition update body)) k s).step c =
      some (.run (.loop condition update body) k s')) :
    Executes c (.run (.stmt (.loop init condition update body)) k s)
      (.run (.loop condition update body) k s')
  | update {update : Assignment} {condition : Expr} {body : List Stmt} {k : Stack ρ .flow}
    {s s' : State}
    (step : (done (.next : Kind.flow.Answer) (.cons (.again condition update body) k) s).step c =
      some (.run (.loop condition update body) k s')) :
    Executes c (.done (.next : Kind.flow.Answer) (.cons (.again condition update body) k) s)
      (.run (.loop condition update body) k s')

private theorem assign_of_proceed {a : Assignment} {t : Task .flow} {k : Stack ρ .flow}
    {s s' : State}
    (h : proceed k ((assign a >>= fun _ => pure (.goto t)) c s) = some (.run t k s')) :
    ∃ flow, assign a c s = .ok flow s' := by
  rw [Comp.bind_apply] at h
  cases assigned : assign a c s with
  | ok flow s₁ =>
    rw [assigned] at h
    cases h
    exact ⟨flow, rfl⟩
  | stop f s₁ =>
    rw [assigned] at h
    cases h
  | outOfFuel =>
    rw [assigned] at h
    cases h

end Config

open Config

section Runs

variable {c : Context} {channels : Channels} {σ : Kind} {k : Stack .cell σ} {s s' : State}

private theorem leaves_of_returns {t : Task σ} {a : σ.Answer}
    (hx : Reaches c Untrapped (first channels) (.run t k s)) (returns : t.Returns c k s a s') :
    Kind.Leaves k.busy s.heap σ a s'.heap := by
  refine ((kept_discipline c).answers (fun x untrapped => ⟨untrapped, ?_⟩) (ready_of_run hx)
    returns.alone).1
  cases x <;> trivial

private theorem running_of_atStatement {x : Config .cell}
    (hx : Reaches c Untrapped (first channels) x) (statement : x.AtStatement) :
    Running x.busy x.state.heap := by
  cases statement with
  | stmt => exact ready_of_run hx
  | update => exact stands_of_done hx

private theorem reframes_of_executes {x y : Config .cell}
    (hx : Reaches c Untrapped (first channels) x) (executes : x.Executes c y) :
    x.state.scopes.Reframes y.state.scopes := by
  cases executes with
  | stmt returns => exact (leaves_of_returns hx returns).1.reframes
  | init step =>
    obtain ⟨flow, assigned⟩ := assign_of_proceed step
    exact reframes_assign (running_of_atStatement hx .stmt) assigned
  | update step =>
    obtain ⟨flow, assigned⟩ := assign_of_proceed step
    exact reframes_assign (running_of_atStatement hx .update) assigned

end Runs

section Program

variable (program : Program) (setup : Setup) (channels : Channels)

/-- The environments of a run in which no division by zero is turned into an exception. An
expression that returns, with a value or an exception, leaves the focus, both environments in use
and every snapshot as they were. A statement that returns leaves the focus, every frame below the
one on top and the number of its blocks. So no operation on the scopes fails. -/
theorem scopes_balanced :
    (∀ (e : Expr) (k : Stack .cell .value) (s s' : State) (a : Raising (Option Value)),
      Reaches (program.context setup) Untrapped (first channels) (.run (.eval e) k s) →
      (Task.eval e).Returns (program.context setup) k s a s' →
      s.scopes.Extends s'.scopes ∧ s'.scopes.current = s.scopes.current) ∧
    (∀ x y : Config .cell, Reaches (program.context setup) Untrapped (first channels) x →
      x.Executes (program.context setup) y → x.state.scopes.Reframes y.state.scopes) ∧
    ∀ (f : ScopeFault) (σ : Kind) (k : Stack .cell σ) (s : State),
      ¬ Reaches (program.context setup) Untrapped (first channels) (.fault (.scope f) k s) := by
  refine ⟨?_, ?_, ?_⟩
  · intro e k s s' a hx returns
    have looking : Looking k.busy s.heap := ready_of_run hx
    have keeps : Keeps k.busy s.heap s'.heap := leaves_of_returns hx returns
    exact ⟨keeps.scopes, keeps.scopes.current looking.sound.focused⟩
  · intro x y hx executes
    exact reframes_of_executes hx executes
  · intro f σ k s hx
    have regular : Fault.Regular (.scope f) := discipline_holds hx
    exact regular f rfl

/-- A program that defers a call, so that the statements of the function are executed while the
environment in use is a snapshot. -/
def picking : Program where
  structs := []
  funcs := [
    ⟨"main", [], none,
      [.declare "x" none, .assign ⟨"x", .call "pick" []⟩,
        .eval (.call "print" [.var "x"])]⟩,
    ⟨"pick", [], none,
      [.branch (.bool true) [.declare "y" none, .assign ⟨"y", .str "a"⟩, .ret (some (.var "y"))]
        none]⟩]

theorem scopes_balanced_picking :
    (∃ (k : Stack .cell .value) (s s' : State) (a : Raising (Option Value)),
      Reaches (picking.context {}) Untrapped (first {})
        (.run (.eval (.call "pick" [])) k s) ∧
      (Task.eval (.call "pick" [])).Returns (picking.context {}) k s a s' ∧
      s.scopes.Extends s'.scopes ∧ s'.scopes.current = s.scopes.current) ∧
    ∃ x y : Config .cell, Reaches (picking.context {}) Untrapped (first {}) x ∧
      x.Executes (picking.context {}) y ∧ x.state.scopes.focus = some 0 ∧
      x.state.scopes.Reframes y.state.scopes := by
  obtain ⟨evaluated, executed, _⟩ := scopes_balanced picking {} {}
  have call : ∃ (k : Stack .cell .value) (s s' : State) (a : Raising (Option Value)),
      walk (picking.context {}) calm 14 (first {}) =
        some (.run (.eval (.call "pick" [])) k s) ∧
      walk (picking.context {}) (fun x => x.calm && x.within k.height) 28
        (.run (.eval (.call "pick" [])) k s) =
        some (.done (a : Kind.value.Answer) k s') :=
    ⟨_, _, _, _, rfl, rfl⟩
  have branch : ∃ (st : Stmt) (k : Stack .cell .flow) (s s' : State) (flow : Flow),
      walk (picking.context {}) calm 18 (first {}) = some (.run (.stmt st) k s) ∧
      walk (picking.context {}) (fun x => x.calm && x.within k.height) 14
        (.run (.stmt st) k s) = some (.done (flow : Kind.flow.Answer) k s') ∧
      s.scopes.focus = some 0 :=
    ⟨_, _, _, _, _, rfl, rfl, rfl⟩
  obtain ⟨k, s, s', a, toCall, toValue⟩ := call
  obtain ⟨st, below, t, t', flow, toBranch, toEnd, focus⟩ := branch
  have hs := (reaches_of_walk toCall).mono fun _ => untrapped_of_calm
  have ht := (reaches_of_walk toBranch).mono fun _ => untrapped_of_calm
  have returns := Task.returns_of_walk toValue
  have executes := Executes.stmt (Task.returns_of_walk toEnd)
  obtain ⟨extended, current⟩ := evaluated _ k s s' a hs returns
  exact ⟨⟨k, s, s', a, hs, returns, extended, current⟩, _, _, ht, executes, focus,
    executed _ _ ht executes⟩

/-- While no division by zero is turned into an exception, the two environments in use have the same
frame on top whenever a statement is about to be executed. So an expression that is returned finds
the same cells in the snapshot of the home environment as in the environment in use. -/
theorem statement_frame_shared {x : Config .cell}
    (hx : Reaches (program.context setup) Untrapped (first channels) x)
    (statement : x.AtStatement) :
    (∃ (frame : Frame) (frames frames' : List Frame),
      x.state.scopes.current = frame :: frames ∧ x.state.scopes.home = frame :: frames') ∧
    ∀ (e : Expr) (k : Stack .cell .flow) (s : State), x = .run (.stmt (.ret (some e))) k s →
      ∃ (cell : CellId) (i : Nat) (s' : State),
        x.step (program.context setup) = some (.done (.returned cell : Kind.flow.Answer) k s') ∧
        s'.cells[cell]? = some (.thunk e i) ∧
        ∀ name, (s'.heap.refocus (some i)).scopes.get? name = s.scopes.get? name := by
  obtain ⟨frame, frames, frames', current, home⟩ := (running_of_atStatement hx statement).shared
  refine ⟨⟨frame, frames, frames', current, home⟩, ?_⟩
  rintro e k s rfl
  refine ⟨s.cells.size, s.scopes.snapshots.size, s.withHeap (s.heap.defer e s.scopes.home), rfl,
    s.heap.defer_cells_size e s.scopes.home, fun name => ?_⟩
  have snapshot := s.heap.current_defer e s.scopes.home
  rw [State.heap_withHeap]
  exact (Scopes.get?_of_current (snapshot.trans home) name).trans
    (Scopes.get?_of_current current name).symm

theorem statement_frame_shared_picking :
    ∃ (k : Stack .cell .flow) (s s' : State) (cell : CellId) (i : Nat),
      Reaches (picking.context {}) Untrapped (first {})
        (.run (.stmt (.ret (some (.var "y")))) k s) ∧ s.scopes.focus = some 0 ∧
      (∃ (frame : Frame) (frames frames' : List Frame),
        s.scopes.current = frame :: frames ∧ s.scopes.home = frame :: frames') ∧
      (Config.run (.stmt (.ret (some (.var "y")))) k s).step (picking.context {}) =
        some (.done (.returned cell : Kind.flow.Answer) k s') ∧
      s'.cells[cell]? = some (.thunk (.var "y") i) ∧
      (s'.heap.refocus (some i)).scopes.get? "y" = s.scopes.get? "y" := by
  have moment : ∃ (k : Stack .cell .flow) (s : State),
      walk (picking.context {}) calm 29 (first {}) =
        some (.run (.stmt (.ret (some (.var "y")))) k s) ∧ s.scopes.focus = some 0 :=
    ⟨_, _, rfl, rfl⟩
  obtain ⟨k, s, toReturn, focus⟩ := moment
  have hx := (reaches_of_walk toReturn).mono fun _ => untrapped_of_calm
  obtain ⟨shared, returned⟩ := statement_frame_shared picking {} {} hx .stmt
  obtain ⟨cell, i, s', step, thunk, same⟩ := returned _ k s rfl
  exact ⟨k, s, s', cell, i, hx, focus, shared, step, thunk, same "y"⟩

end Program

end CallByNeed.Language
