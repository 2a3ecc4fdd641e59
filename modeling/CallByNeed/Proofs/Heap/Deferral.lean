import CallByNeed.Proofs.Heap.Tracking

set_option autoImplicit false
set_option relaxedAutoImplicit false

/-!
Deferring expressions. Whenever a step defers an expression, the expression could also be evaluated
at once, and the snapshot that it is given has the frame on top that names are looked up in at that
moment: also a snapshot of the home environment, and also when the step goes on to change that frame
or to put another one on top.
-/

namespace CallByNeed.Language

open Heap

def Env.top (env : Env) : Frame :=
  env.headD []

def Scopes.top (u : Scopes) : Frame :=
  Env.top u.current

section Takes

variable {B : List CellId} {h h' : Heap} {base : Scopes}

theorem Scopes.top_push (focused : base.Focused) (frame : Frame) :
    (base.push frame).top = frame := by
  rw [Scopes.top, focused.current]
  rfl

theorem Heap.Looking.older (looking : Looking B h) :
    ∀ k ∈ h.scopes.top.cells, k < h.cells.size := by
  obtain ⟨frame, frames, current, clear⟩ := looking.frame
  have top : h.scopes.top = frame := by
    rw [Scopes.top, current]
    rfl
  rw [top]
  exact fun k mem => (clear k mem).1

/-- New deferred expressions have snapshots with the frame that was on top. -/
def Heap.Takes (h h' : Heap) : Prop :=
  ∀ (k : CellId) (e : Expr) (i : Nat), h.cells.size ≤ k → h'.cells[k]? = some (.thunk e i) →
    ∃ env, h'.scopes.snapshots[i]? = some env ∧ Env.top env = h.scopes.top

theorem Heap.Sound.not_mem_of_new (sound : Sound B h) {k : CellId} (new : h.cells.size ≤ k) :
    k ∉ B := by
  intro busy
  obtain ⟨_, _, old⟩ := sound.busy k busy
  exact absurd (Array.getElem?_eq_some_iff.mp old).1 (Nat.not_lt.mpr new)

theorem Heap.takes_defer (e : Expr) {env : Env} (top : Env.top env = h.scopes.top) :
    h.Takes (h.defer e env) := by
  intro k e' i new hk
  rcases defer_cells_cases hk with old | ⟨_, added⟩
  · exact absurd (Array.getElem?_eq_some_iff.mp old).1 (Nat.not_lt.mpr new)
  · obtain ⟨rfl, rfl⟩ := Cell.thunk.inj added
    exact ⟨env, defer_snapshots_size, top⟩

private theorem Heap.takes_deferAll (focused : h.scopes.Focused) (args : List Expr) :
    h.Takes (h.deferAll args) := by
  intro k e i new hk
  obtain ⟨j, rfl⟩ := Nat.exists_eq_add_of_le new
  have bound : j < args.length := by
    have inside := (Array.getElem?_eq_some_iff.mp hk).1
    rw [size_deferAll] at inside
    omega
  obtain ⟨held, taken⟩ := cells_deferAll focused (List.getElem?_eq_getElem bound)
  obtain ⟨rfl, rfl⟩ := Cell.thunk.inj (Option.some.inj (held.symm.trans hk))
  exact ⟨_, taken, rfl⟩

private theorem Heap.Takes.retops {u : Scopes} (takes : h.Takes h') (sound : Sound B h)
    (sound' : Sound B h') (retops : h'.scopes.Retops u) : h.Takes ⟨h'.cells, u⟩ := by
  intro k e i new hk
  obtain ⟨env, taken, top⟩ := takes k e i new hk
  have unfocused := sound'.focus_ne (sound.not_mem_of_new new) hk
  exact ⟨env, (retops.others i unfocused).trans taken, top⟩

end Takes

section Steps

variable {c : Context} {s s' : State} {B : List CellId} {σ τ : Kind}

theorem Heap.Running.top (running : Running B s.heap) :
    ∃ (base : Scopes) (block : Block) (frame : Frame), base.Focused ∧
      s.scopes = base.push (block :: frame) ∧ s.scopes.top = block :: frame := by
  obtain ⟨base, block, frame, focused, scopes, _⟩ := running.frame
  exact ⟨base, block, frame, focused, scopes,
    (congrArg Scopes.top scopes).trans (Scopes.top_push focused _)⟩

theorem top_home (running : Running B s.heap) : Env.top s.scopes.home = s.scopes.top := by
  obtain ⟨base, block, frame, _, scopes, top⟩ := running.top
  rw [top, scopes, Scopes.push_home]
  rfl

theorem takes_assign (running : Running B s.heap) {a : Assignment} {flow : Flow} {s' : State}
    (assigned : assign a c s = .ok flow s') : s.heap.Takes s'.heap := by
  obtain ⟨base, block, frame, focused, scopes, clear⟩ := running.frame
  obtain ⟨base', extended, scopes', assigned'⟩ := assign_apply a c focused scopes
  have current : s.scopes.current = (block :: frame) :: base.current :=
    (congrArg Scopes.current scopes).trans (focused.current _)
  have sound₁ := (running.sound.keeps_defer a.expr base.current clear).1
  rw [← current] at sound₁
  rw [assigned] at assigned'
  cases rebound : Frame.rebind? a.name s.cells.size (block :: frame) with
  | none =>
    rw [rebound] at assigned'
    cases assigned'
  | some frame' =>
    rw [rebound] at assigned'
    obtain ⟨rfl, rfl⟩ := Outcome.ok.inj assigned'
    have retops := Scopes.retops_replace (extended.focused focused) (block :: frame) frame'
    rw [← scopes'] at retops
    exact (takes_defer a.expr rfl).retops running.sound sound₁ retops

theorem takes_enterFunc {func : Func} {args : List Expr} {next : Next .cell} {s' : State}
    (sound : Sound B s.heap) (looking : args ≠ [] → Looking B s.heap)
    (entered : enterFunc func args c s = .ok next s') : s.heap.Takes s'.heap := by
  obtain ⟨sound₁, _, _⟩ := sound.keeps_deferAll args looking
  rw [enterFunc_apply func args c sound.focused] at entered
  obtain ⟨rfl, rfl⟩ := Outcome.ok.inj entered
  exact (takes_deferAll sound.focused args).retops sound sound₁
    (Scopes.retops_push sound₁.focused _)

variable {k : CellId} {e : Expr} {i : Nat}

private theorem takes_start {t : Task σ} {next : Next σ} (ready : t.Ready B s.heap)
    (started : t.start c s = .ok next s') (new : s.cells.size ≤ k)
    (hk : s'.cells[k]? = some (.thunk e i)) :
    ¬ t.IsForce ∧ Looking B s.heap ∧ s.heap.Takes s'.heap := by
  have absent : s.cells[k]? ≠ some (.thunk e i) := fun old =>
    absurd (Array.getElem?_eq_some_iff.mp old).1 (Nat.not_lt.mpr new)
  have does := does_start t c s
  simp only [started] at does
  by_cases defers : t.Defers
  · cases t with
    | call name args =>
      have print : ¬ name = "print" := fun same => defers (.inl same)
      have input : ¬ (name = "inputi" ∨ name = "inputs") := fun same => defers (.inr same)
      simp only [Task.start, startCall, if_neg print, if_neg input] at started
      obtain ⟨c', s₁, context, called⟩ := Comp.bind_eq_ok.mp started
      cases context
      cases found : findFunc c.funcs name args.length with
      | error fault =>
        rw [found] at called
        cases called
      | ok func =>
        rw [found] at called
        have called : enterFunc func args c s = .ok next s' := called
        have takes := takes_enterFunc ready.1 (fun filled => ready.2 (.inl filled)) called
        refine ⟨id, ready.2 (.inl ?_), takes⟩
        rintro rfl
        rw [enterFunc_apply func [] c ready.1.focused] at called
        obtain ⟨rfl, rfl⟩ := Outcome.ok.inj called
        exact absent hk
    | stmt st =>
      have running : Running B s.heap := ready
      refine ⟨id, running.looking, ?_⟩
      cases st with
      | assign a =>
        obtain ⟨flow, s₁, assigned, given⟩ := Comp.bind_eq_ok.mp started
        cases given
        exact takes_assign running assigned
      | loop init condition update body =>
        obtain ⟨flow, s₁, assigned, given⟩ := Comp.bind_eq_ok.mp started
        cases given
        exact takes_assign running assigned
      | ret value =>
        cases value with
        | none => exact defers.elim
        | some value =>
          cases started
          exact takes_defer value (top_home running)
      | _ => exact defers.elim
    | _ => exact defers.elim
  · exact absurd (does.2.thunks defers k e i hk) absent

private theorem takes_resume {p : Pending σ τ} {a : σ.Answer} {next : Next τ}
    (stands : σ.Stands (p.busy ++ B) s.heap) (resumed : p.resume a c s = .ok next s')
    (new : s.cells.size ≤ k) (hk : s'.cells[k]? = some (.thunk e i)) :
    p.busy = [] ∧ Looking B s.heap ∧ s.heap.Takes s'.heap := by
  have absent : s.cells[k]? ≠ some (.thunk e i) := fun old =>
    absurd (Array.getElem?_eq_some_iff.mp old).1 (Nat.not_lt.mpr new)
  have does := does_resume p a c s
  simp only [resumed] at does
  by_cases defers : p.Defers
  · cases p with
    | again condition update body =>
      have running : Running B s.heap := stands
      refine ⟨rfl, running.looking, ?_⟩
      cases a with
      | next =>
        obtain ⟨flow, s₁, assigned, given⟩ := Comp.bind_eq_ok.mp resumed
        cases given
        exact takes_assign running assigned
      | returned j =>
        cases resumed
        exact absurd hk absent
      | raised exception =>
        cases resumed
        exact absurd hk absent
    | _ => exact defers.elim
  · exact absurd (does.2.thunks defers k e i hk) absent

end Steps

section Runs

open Config

variable {c : Context} {channels : Channels} {x y : Config .cell} {k : CellId} {e : Expr} {i : Nat}

/-- A step that defers expressions. -/
structure Config.Deferring {ρ : Kind} (x y : Config ρ) : Prop where
  calm : x.calm = true
  busy : y.busy = x.busy
  looking : Looking x.busy x.state.heap
  adds : x.state.heap.Adds y.state.heap
  takes : x.state.heap.Takes y.state.heap

theorem deferring_of_step (hx : Reaches c Untrapped (first channels) x) (step : x.step c = some y)
    (calm : y.calm = true) (new : x.state.cells.size ≤ k)
    (hk : y.state.cells[k]? = some (.thunk e i)) : x.Deferring y := by
  cases x with
  | run t below s =>
    have ready := ready_of_run hx
    have does := does_start t c s
    cases started : t.start c s with
    | ok next s' =>
      rw [step_run started] at step
      obtain rfl := Option.some.inj step
      simp only [started] at does
      rw [state_follow] at hk
      obtain ⟨other, looking, takes⟩ := takes_start ready started new hk
      have busy : (follow below next s').busy = below.busy := by
        rw [busy_follow, does.1.2.2.2 other, List.nil_append]
      refine ⟨rfl, busy, looking, ?_, ?_⟩
      · rw [state_follow]
        exact does.2.heap other
      · rw [state_follow]
        exact takes
    | stop f s' =>
      simp only [Config.step, started, proceed] at step
      obtain rfl := Option.some.inj step
      cases calm
    | outOfFuel => simp [started] at does
  | done a below s =>
    cases below with
    | nil => cases step
    | cons p below =>
      have stands : Kind.Stands (p.busy ++ below.busy) s.heap _ := stands_of_done hx
      have does := does_resume p a c s
      cases resumed : p.resume a c s with
      | ok next s' =>
        rw [step_done resumed] at step
        obtain rfl := Option.some.inj step
        simp only [resumed] at does
        rw [state_follow] at hk
        obtain ⟨idle, looking, takes⟩ := takes_resume stands resumed new hk
        have before : (Config.done a (.cons p below) s).busy = below.busy := by
          rw [Config.busy, Stack.busy, idle, List.nil_append]
        have busy : (follow below next s').busy = below.busy := by
          rw [busy_follow, does.1.2.2.2, List.nil_append]
        refine ⟨rfl, busy.trans before.symm, before ▸ looking, ?_, ?_⟩
        · rw [state_follow]
          exact does.2.heap fun busy => busy idle
        · rw [state_follow]
          exact takes
      | stop f s' =>
        simp only [Config.step, resumed, proceed] at step
        obtain rfl := Option.some.inj step
        cases calm
      | outOfFuel => simp [resumed] at does
  | fault f below s =>
    cases below with
    | nil => cases step
    | cons p below =>
      obtain rfl := Option.some.inj step
      have same : (escape f p below s).state = s := by
        unfold escape
        split <;> rfl
      rw [same] at hk
      exact absurd (Array.getElem?_eq_some_iff.mp hk).1 (Nat.not_lt.mpr new)

end Runs

end CallByNeed.Language
