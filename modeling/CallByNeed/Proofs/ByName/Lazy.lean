import CallByNeed.Proofs.ByName.Agreement

set_option autoImplicit false
set_option relaxedAutoImplicit false

/-!
Laziness makes no difference to a quiet expression. If an expression that is deferred would at that
moment evaluate to a value without reading, writing or raising, then it has that value by name. The
closure of its cell stays the same as the run goes on, and no cell ever comes to hold a value that
its closure does not have. So the cell is forced to that value, whenever it is forced.
-/

namespace CallByNeed.Language

open Heap

section Knows

variable {c : Context} {C C₀ : Closures} {B : List CellId} {h h' : Heap} {k : CellId}

/-- Given closures, with others for the cells made since. -/
def Knows (c : Context) (C₀ : Closures) (B : List CellId) (h : Heap) : Prop :=
  ∃ C : Closures, C₀ <+: C ∧ Faithful (Closure.Admits c.funcs) B C h

/-- The closures stay as they are, and there are others for new cells. -/
def Continues (c : Context) (B : List CellId) (h h' : Heap) : Prop :=
  ∀ C : Closures, Faithful (Closure.Admits c.funcs) B C h → Knows c C B h'

/-- What is found when the expression of a cell is evaluated is what its closure means, if that
means anything. -/
private theorem admits_of_yields {e : Expr} {i : Nat} {s s' : State} {v : Value}
    (sound : Sound B s.heap) (clear : s.heap.Clear B k) (hk : s.cells[k]? = some (.thunk e i))
    (faithful : Faithful (Closure.Admits c.funcs) B C s.heap)
    (yields : (Task.eval e).Yields c (s.withHeap (s.heap.refocus (some i))) (.value (some v)) s') :
    (C.cell k).Admits c.funcs (.value v) := by
  refine .inr (.inr ⟨v, rfl, fun m means => ?_⟩)
  obtain ⟨w, rfl⟩ : ∃ w, m = some w := by
    cases closure : C.cell k with
    | value w =>
      rw [closure] at means
      cases means
      exact ⟨w, rfl⟩
    | thunk e' frame =>
      rw [closure] at means
      cases means
      exact ⟨_, rfl⟩
    | unknown =>
      rw [closure] at means
      cases means
  obtain ⟨s₁, arrives, _⟩ := means.arrives_force sound clear faithful
  have entered :=
    Config.step_run (t := .force k) (startForce_thunk c hk) (.nil : Stack .value .value)
  have forced := Config.Reaches.head trivial entered (Contract.reaches_on_stack yields _)
  have same := (arrives.runs .nil).last_unique (forced.tail trivial rfl) rfl rfl
  cases same
  rfl

private theorem tracks_closures (c : Context) (C₀ : Closures) :
    Tracks c (Knows c C₀) (Continues c) where
  refl := fun B h C faithful => ⟨C, List.prefix_refl C, faithful⟩
  trans := by
    intro B h h' h'' first second C faithful
    obtain ⟨C', le, faithful'⟩ := first C faithful
    obtain ⟨C'', le', faithful''⟩ := second C' faithful'
    exact ⟨C'', le.trans le', faithful''⟩
  adds := by
    intro B h h' sound sound' adds C faithful
    obtain ⟨C', completes, faithful'⟩ :=
      faithful.exists_completes (Closure.Admits.refl c.funcs) sound sound' adds
    exact ⟨C', completes.le, faithful'⟩
  back := by
    intro B k e i h h' ended within C faithful
    obtain ⟨C', le, faithful'⟩ := within C (faithful.enter (some i))
    exact ⟨C', le, Faithful.leave ended le faithful faithful'⟩
  settle := by
    intro B k e i s s' v ended clear within yields C faithful
    obtain ⟨C', le, faithful'⟩ := within C (faithful.enter (some i))
    have old : k < C.length := faithful.size ▸ clear.1
    have admits := admits_of_yields ended.before clear ended.thunk faithful yields
    rw [← Closures.cell_of_le le old] at admits
    exact ⟨C', le, Faithful.settle ended le faithful faithful' admits⟩
  stable := by
    intro B h h' knows continues
    obtain ⟨C, le, faithful⟩ := knows
    obtain ⟨C', le', faithful'⟩ := continues C faithful
    exact ⟨C', le.trans le', faithful'⟩
  enter := by
    intro B k e i h _ _ _ knows
    obtain ⟨C, le, faithful⟩ := knows
    exact ⟨C, le, faithful.enter (some i)⟩

/-- The end of an evaluation that was going on before: nothing is known of its cell. -/
private theorem Knows.leave {b : CellId} (old : b < C₀.length) (unknown : C₀.cell b = .unknown)
    (knows : Knows c C₀ (b :: B) h) (focus : Option Nat) :
    Knows c C₀ B (h.refocus focus) ∧ ∀ v, Knows c C₀ B ((h.refocus focus).settle b v) := by
  obtain ⟨C, le, faithful⟩ := knows
  have unknown' : C.cell b = .unknown := (Closures.cell_of_le le old).trans unknown
  have outside : ∀ {j : CellId}, j ≠ b → j ∉ B → j ∉ b :: B := fun other idle busy =>
    (List.mem_cons.mp busy).elim other idle
  have size (v : Value) : C.length = ((h.refocus focus).settle b v).cells.size := by
    simpa [Heap.settle, refocus] using faithful.size
  refine ⟨⟨C, le, faithful.size, faithful.nil, fun j content idle hj => ?_⟩, fun v =>
    ⟨C, le, size v, faithful.nil, fun j content idle hj => ?_⟩⟩
  · rcases Decidable.em (j = b) with rfl | other
    · exact .inr (.inl unknown')
    · exact faithful.cells j content (outside other idle) hj
  · rcases Decidable.em (j = b) with rfl | other
    · exact .inr (.inl unknown')
    · have held : h.cells[j]? = some content :=
        (Array.getElem?_setIfInBounds_ne (Ne.symm other)).symm.trans hj
      exact faithful.cells j content (outside other idle) held

end Knows

section Program

open Config

/-- Suppose that an expression is deferred by a step of a run, before a division by zero is turned
into an exception, and that evaluating it at that moment would give a value without reading,
writing, raising or dividing by zero. Then whenever its cell is forced, the forcing gives that
value, keeps it in the cell, and neither reads nor writes nor raises nor divides by zero. -/
theorem forced_value_eq_value_when_deferred {program : Program} {setup : Setup}
    {channels : Channels} {x y : Config .cell} {k : CellId} {e : Expr} {i : Nat} {v : Value}
    {below : Stack .cell .value} {s s₀ : State}
    (hx : Reaches (program.context setup) Untrapped (first channels) x)
    (step : x.step (program.context setup) = some y) (new : x.state.cells.size ≤ k)
    (deferred : y.state.cells[k]? = some (.thunk e i))
    (now : Reaches (program.context setup) Quiet (.run (.eval e) .nil x.state)
      (.done (.value (some v) : Kind.value.Answer) .nil s₀))
    (later : Reaches (program.context setup) Untrapped y (.run (.force k) below s)) :
    ∃ s', Reaches (program.context setup) Quiet (.run (.force k) below s)
        (.done (.value (some v) : Kind.value.Answer) below s') ∧
      s'.cells[k]? = some (.value v) ∧ s.channels.Unused setup.trace s'.channels ∧
      ∃ n, ∀ fuel, n ≤ fuel →
        force fuel k (program.context setup) s = .ok (.value (some v)) s' := by
  have calm : y.calm = true := calm_of_reaches later rfl
  have deferring := deferring_of_step hx step calm new deferred
  have sound := deferring.looking.sound
  have hy := hx.tail (untrapped_of_calm deferring.calm) step
  have sound' : Sound x.busy y.state.heap := deferring.busy ▸ sound_of_calm hy calm
  obtain ⟨C, faithful, unknown⟩ := sound.exists_faithful
  obtain ⟨_, _, _, m, given, means⟩ := means_of_reaches (t := .eval e) deferring.looking now C
    (faithful.of_eq (Closure.Gives.refl program.funcs))
  obtain rfl := Option.some.inj given
  have refl := Closure.Admits.refl program.funcs
  obtain ⟨C', completes, faithful'⟩ :=
    (faithful.of_eq refl).exists_completes refl sound sound' deferring.adds
  have closure : C'.cell k = .thunk e (C.frame x.state.scopes.top) :=
    completes.cell_of_takes sound faithful.size deferring.takes deferring.looking.older new deferred
  have old : ∀ {j : CellId} {content : Cell}, x.state.cells[j]? = some content → j < C.length := by
    intro j content hj
    rw [faithful.size]
    exact (Array.getElem?_eq_some_iff.mp hj).1
  have holds := (tracks_closures (program.context setup) C').holds_reaches hy
    ⟨C', List.prefix_refl C', deferring.busy ▸ faithful'⟩ (fun b busy B h focus _ knows => by
      have busy : b ∈ x.busy := deferring.busy ▸ busy
      obtain ⟨_, _, held⟩ := sound.busy b busy
      refine knows.leave ?_ ?_ focus
      · exact Nat.lt_of_lt_of_le (old held) completes.le.length_le
      · rw [Closures.cell_of_le completes.le (old held), unknown b busy]) later
  obtain ⟨⟨⟨ready, _⟩, C'', le, faithful''⟩, _⟩ := holds
  have bound : k < C'.length := by
    rw [completes.size]
    exact (Array.getElem?_eq_some_iff.mp deferred).1
  have meant : Means program.funcs (.goto (.closure (C''.cell k))) (some v) := by
    rw [Closures.cell_of_le le bound, closure]
    exact .thunk means
  obtain ⟨s', arrives, held⟩ :=
    meant.arrives_force (c := program.context setup) ready.1 ready.2 faithful''
  obtain ⟨n, performed⟩ := perform_of_reaches_last (t := .force k) (o := .ok (.value (some v)) s')
    (arrives.runs .nil).any rfl
  exact ⟨s', arrives.runs below, held, arrives.channels, n, performed⟩

/-- A program that defers a sum, binds its variable anew and hides it in a block, and then asks for
the sum. -/
def rebinding : Program where
  structs := []
  funcs := [
    ⟨"main", [], none,
      [.declare "a" none, .assign ⟨"a", .int 2⟩, .declare "b" none,
        .assign ⟨"b", .binary .add (.var "a") (.call "f" [])⟩, .assign ⟨"a", .int 10⟩,
        .branch (.bool true) [.declare "a" none, .assign ⟨"a", .int 7⟩] none,
        .eval (.call "print" [.var "b"])]⟩,
    ⟨"f", [], none, [.ret (some (.int 3))]⟩]

theorem forced_value_eq_value_when_deferred_rebinding :
    ∃ (x y : Config .cell) (below : Stack .cell .value) (s s' : State),
      x.step (rebinding.context {}) = some y ∧ x.state.cells.size = 2 ∧
      y.state.cells[2]? = some (.thunk (.binary .add (.var "a") (.call "f" [])) 1) ∧
      Reaches (rebinding.context {}) Untrapped y (.run (.force 2) below s) ∧
      s.scopes.get? "a" = .ok (some 3) ∧ s.cells[3]? = some (.thunk (.int 10) 2) ∧
      Reaches (rebinding.context {}) Quiet (.run (.force 2) below s)
        (.done (.value (some (.int 5)) : Kind.value.Answer) below s') ∧
      s'.cells[2]? = some (.value (.int 5)) := by
  have moments : ∃ (x y : Config .cell) (below : Stack .cell .value) (s s₀ : State),
      walk (rebinding.context {}) calm 12 (first {}) = some x ∧
      x.step (rebinding.context {}) = some y ∧
      walk (rebinding.context {}) (fun z => decide z.Quiet) 19
        (.run (.eval (.binary .add (.var "a") (.call "f" []))) .nil x.state) =
          some (.done (.value (some (.int 5)) : Kind.value.Answer) .nil s₀) ∧
      walk (rebinding.context {}) calm 23 y = some (.run (.force 2) below s) ∧
      x.state.cells.size = 2 ∧
      y.state.cells[2]? = some (.thunk (.binary .add (.var "a") (.call "f" [])) 1) ∧
      s.scopes.get? "a" = .ok (some 3) ∧ s.cells[3]? = some (.thunk (.int 10) 2) :=
    ⟨_, _, _, _, _, rfl, rfl, rfl, rfl, rfl, rfl, rfl, rfl⟩
  obtain ⟨x, y, below, s, s₀, toX, step, now, later, size, deferred, bound, changed⟩ := moments
  have hx := (reaches_of_walk toX).mono fun _ => untrapped_of_calm
  have now := (reaches_of_walk now).mono fun _ => of_decide_eq_true
  have later := (reaches_of_walk later).mono fun _ => untrapped_of_calm
  obtain ⟨s', forced, held, _⟩ :=
    forced_value_eq_value_when_deferred hx step (Nat.le_of_eq size) deferred now later
  exact ⟨x, y, below, s, s', step, size, deferred, later, bound, changed, forced, held⟩

end Program

end CallByNeed.Language
