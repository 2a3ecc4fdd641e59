import CallByNeed.Proofs.Heap.Discipline

set_option autoImplicit false
set_option relaxedAutoImplicit false

/-!
Tracking the heap of a run. A relation between heaps that holds from step to step, and around the
evaluation of a deferred expression, holds between the beginning and the end of every task. So a
property of heaps that the relation hands on holds at every later moment, also when it is first
known in the middle of a run, above pending steps that know nothing of it.
-/

namespace CallByNeed.Language

open Heap

variable {ρ σ τ : Kind} {B : List CellId} {h : Heap}

/-- The cells whose deferred expressions are being evaluated at a moment. -/
@[simp]
def Config.busy : Config ρ → List CellId
  | .run _ k _ => k.busy
  | .done _ k _ => k.busy
  | .fault _ k _ => k.busy

theorem Config.busy_follow (below : Stack ρ τ) (next : Next τ) (s : State) :
    (follow below next s).busy = next.busy ++ below.busy := by
  cases next <;> rfl

theorem Task.Ready.sound {t : Task σ} (ready : t.Ready B h) : Sound B h := by
  cases t with
  | eval e => exact Looking.sound ready
  | force k => exact And.left ready
  | printArgs args text => exact And.left ready
  | call name args => exact And.left ready
  | block stmts => exact Running.sound ready
  | all stmts => exact Running.sound ready
  | stmt st => exact Running.sound ready
  | loop condition update body => exact Running.sound ready

theorem Kind.Stands.sound (stands : σ.Stands B h) : Sound B h := by
  cases σ with
  | flow => exact Running.sound stands
  | value => exact stands
  | text => exact stands
  | cell => exact stands

def recorded (c : Context) : Contract :=
  discipline.both (.history c)

/-- Every step is within the relation `T`, which hands the property `I` on. The list holds the cells
whose deferred expressions are being evaluated. -/
structure Tracks (c : Context) (I : List CellId → Heap → Prop)
    (T : List CellId → Heap → Heap → Prop) : Prop where
  refl : ∀ B h, T B h h
  trans : ∀ {B h h' h''}, T B h h' → T B h' h'' → T B h h''
  adds : ∀ {B h h'}, Sound B h → Sound B h' → h.Adds h' → T B h h'
  back : ∀ {B k e i h h'}, Evaluated B k e i h h' → T (k :: B) (h.refocus (some i)) h' →
    T B h (h'.refocus h.scopes.focus)
  settle : ∀ {B k e i} {s s' : State} {v}, Evaluated B k e i s.heap s'.heap →
    s.heap.Clear B k → T (k :: B) (s.heap.refocus (some i)) s'.heap →
    (Task.eval e).Yields c (s.withHeap (s.heap.refocus (some i))) (.value (some v)) s' →
    T B s.heap ((s'.heap.refocus s.scopes.focus).settle k v)
  stable : ∀ {B h h'}, I B h → T B h h' → I B h'
  enter : ∀ {B k e i h}, Sound B h → h.Clear B k → h.cells[k]? = some (.thunk e i) → I B h →
    I (k :: B) (h.refocus (some i))

def tracking (I : List CellId → Heap → Prop) (T : List CellId → Heap → Heap → Prop) : Contract where
  pre B _ s := I B s.heap
  post B _ s _ s' := T B s.heap s'.heap
  inv _ B s := I B s.heap
  allows _ := True

section Kept

variable {c : Context} {I : List CellId → Heap → Prop} {T : List CellId → Heap → Heap → Prop}
  {s s₀ s' : State} {n : Nat} {next : Next τ}

/-- It has come here by tracked steps, the last of which has added cells. -/
private def Upto (T : List CellId → Heap → Heap → Prop) (B : List CellId) (h : Heap) (next : Next τ)
    (s : State) : Prop :=
  next.busy = [] ∧ ∃ s₀ : State, Sound B s₀.heap ∧ T B h s₀.heap ∧ s₀.heap.Adds s.heap

private theorem Upto.tracked (tracks : Tracks c I T) (upto : Upto T B h next s)
    (sound : Sound B s.heap) : T B h s.heap := by
  obtain ⟨_, s₀, sound₀, before, adds⟩ := upto
  exact tracks.trans before (tracks.adds sound₀ sound adds)

private theorem meets_tracking (tracks : Tracks c I T) (init : I B h) (shallow : next.depth ≤ n)
    (upto : Upto T B h next s) :
    Contract.Meets (recorded c) (tracking I T) c B (fun _ s => T B h s.heap) n next s := by
  refine Contract.meets_of_upto (J := Upto T B h) ?_ ?_ ?_ shallow upto
  · intro a s upto inv
    have now := upto.tracked tracks inv.1.sound
    exact ⟨tracks.stable init now, now⟩
  · intro t s upto pre
    have now := upto.tracked tracks pre.1.sound
    exact ⟨tracks.stable init now, fun a s' _ answer => tracks.trans now answer.1⟩
  · intro σ t p s upto
    have idle : p.busy = [] := upto.1
    rw [idle, List.nil_append]
    intro pre
    have now := upto.tracked tracks pre.1.sound
    refine ⟨tracks.stable init now, fun a s' answerA answer => ?_⟩
    have resumed := (does_resume p a).ensures (c := c) (s := s')
    refine resumed.mono (fun _ _ => trivial) fun next' s'' ⟨follows, changes⟩ => ?_
    exact ⟨follows.2.2.2, s', answerA.2.1.sound, tracks.trans now answer.1,
      changes.heap fun busy => busy idle⟩

private theorem ensures_tracking_force (tracks : Tracks c I T) {k : CellId}
    (sound : Sound B s.heap) (clear : s.heap.Clear B k) (init : I B s.heap) :
    (startForce k).Ensures c s (tracking I T).allows
      (Contract.Meets (recorded c) (tracking I T) c B (fun _ s' => T B s.heap s'.heap) 2) := by
  obtain ⟨content, present⟩ := clear.present
  cases content with
  | value v =>
    rw [Comp.ensures_of_apply (startForce_value c present)]
    exact fun _ => ⟨init, tracks.refl B s.heap⟩
  | thunk e i =>
    have entered := tracks.enter sound clear present init
    rw [Comp.ensures_of_apply (startForce_thunk c present)]
    refine fun _ => ⟨entered, fun a s' answerA answer => ?_⟩
    have ended : Evaluated B k e i s.heap s'.heap :=
      ⟨sound, clear.not_mem, present, answerA.2.1, answerA.1.1.grows, answerA.1.1.scopes⟩
    simp only [Pending.resume, resumeUpdate, Comp.ensures_bind, Comp.ensures_modify]
    rcases a with (_ | v) | exception
    · trivial
    · have now := tracks.settle ended clear answer.1 answerA.1.2
      exact fun _ => ⟨tracks.stable init now, now⟩
    · have now := tracks.back ended answer.1
      exact fun _ => ⟨tracks.stable init now, now⟩

private theorem kept_tracking (tracks : Tracks c I T) :
    Contract.Kept (recorded c) (tracking I T) c fun _ => True := by
  intro σ B t s _ pre init
  have general : ¬ t.IsForce → t.start.Ensures c s (tracking I T).allows
      (Contract.Meets (recorded c) (tracking I T) c B ((tracking I T).post B t s) 2) := by
    intro other
    refine (does_start t).ensures.mono (fun _ _ => trivial) fun next s' ⟨leads, changes⟩ => ?_
    exact meets_tracking tracks init leads.1
      ⟨leads.2.2.2 other, s, pre.1.sound, tracks.refl B s.heap, changes.heap other⟩
  cases t with
  | force k => exact ensures_tracking_force tracks pre.1.1 pre.1.2 init
  | _ => exact general id

private theorem ensures_tracking_resume (tracks : Tracks c I T) {p : Pending σ τ} {a : σ.Answer}
    (inv : (recorded c).inv σ (p.busy ++ B) s) (init : I (p.busy ++ B) s.heap)
    (leaves : ∀ b ∈ p.busy, ∀ focus, I B (s.heap.refocus focus) ∧
      ∀ v, I B ((s.heap.refocus focus).settle b v)) :
    (p.resume a).Ensures c s (tracking I T).allows fun next s =>
      ∃ n, Contract.Meets (recorded c) (tracking I T) c B (fun _ _ => True) n next s := by
  have general : p.busy = [] → (p.resume a).Ensures c s (tracking I T).allows fun next s =>
      ∃ n, Contract.Meets (recorded c) (tracking I T) c B (fun _ _ => True) n next s := by
    intro idle
    rw [idle, List.nil_append] at inv init
    refine (does_resume p a).ensures.mono (fun _ _ => trivial) fun next s' ⟨follows, changes⟩ => ?_
    have met := meets_tracking tracks init (Nat.le_refl next.depth)
      ⟨follows.2.2.2, s, inv.1.sound, tracks.refl B s.heap, changes.heap fun busy => busy idle⟩
    exact ⟨_, met.mono (Nat.le_refl _) fun _ _ _ => trivial⟩
  cases p with
  | update b focus =>
    obtain ⟨back, settle⟩ := leaves b (by simp) focus
    simp only [Pending.resume, resumeUpdate, Comp.ensures_bind, Comp.ensures_modify]
    rcases a with (_ | v) | exception
    · trivial
    · exact ⟨0, fun _ => ⟨settle v, trivial⟩⟩
    · exact ⟨0, fun _ => ⟨back, trivial⟩⟩
  | _ => exact general rfl

end Kept

section Runs

variable {c : Context} {I : List CellId → Heap → Prop} {T : List CellId → Heap → Heap → Prop}
  {channels : Channels} {x y : Config .cell}

private theorem kept_recorded : Contract.Kept .free (recorded c) c fun _ => True :=
  (kept_discipline c).both Contract.kept_history fun _ _ => trivial

/-- The discipline holds at every moment of a run before a division by zero is turned into an
exception. -/
theorem recorded_holds (hx : Config.Reaches c Config.Untrapped (.first channels) x) :
    (recorded c).Holds c [] (fun _ _ => True) x := by
  refine kept_recorded.holds_reaches (fun x untrapped => ⟨untrapped, ?_⟩) ?_ hx
  · cases x <;> trivial
  · exact ⟨⟨ready_initial channels, trivial⟩, fun _ _ _ _ => trivial⟩

theorem sound_of_calm (hx : Config.Reaches c Config.Untrapped (.first channels) x)
    (calm : x.calm = true) : Sound x.busy x.state.heap := by
  cases x with
  | run t k s => exact (ready_of_run hx).sound
  | done a k s => exact (stands_of_done hx).sound
  | fault f k s => cases calm

/-- A property that holds at a moment and is tracked holds at every later moment, if it also
survives the end of the evaluations that are going on. -/
theorem Tracks.holds_reaches (tracks : Tracks c I T)
    (hx : Config.Reaches c Config.Untrapped (.first channels) x)
    (init : I x.busy x.state.heap)
    (leaves : ∀ b ∈ x.busy, ∀ B h focus, Sound (b :: B) h → I (b :: B) h →
      I B (h.refocus focus) ∧ ∀ v, I B ((h.refocus focus).settle b v))
    (hy : Config.Reaches c Config.Untrapped x y) :
    ((recorded c).both (tracking I T)).Holds c [] (fun _ _ => True) y := by
  have holds := recorded_holds hx
  have accepts : ∀ {σ : Kind} {k : Stack .cell σ} {Q : σ.Answer → State → Prop},
      (∀ b ∈ k.busy, b ∈ x.busy) → (recorded c).Accepts c [] (fun _ _ => True) k Q →
      ((recorded c).both (tracking I T)).Accepts c [] (fun _ _ => True) k Q := by
    intro σ k Q sub accepted
    refine accepted.both fun p B a s mem inv init => ?_
    refine ensures_tracking_resume tracks inv init fun b busy focus => ?_
    cases p with
    | update b' focus' =>
      obtain rfl : b = b' := by simpa using busy
      have sound : Sound (b :: B) s.heap := inv.1
      exact leaves b (sub b (mem b busy)) B s.heap focus sound init
    | _ => simp at busy
  have start : ((recorded c).both (tracking I T)).Holds c [] (fun _ _ => True) x := by
    cases x with
    | run t k s =>
      refine ⟨⟨holds.1, by simpa [tracking, Config.state] using init⟩, ?_⟩
      refine (accepts (fun _ mem => mem) holds.2).mono fun a s' _ post => post.1
    | done a k s =>
      obtain ⟨inv, Q, q, accepted⟩ := holds
      exact ⟨⟨inv, by simpa [tracking, Config.state] using init⟩, Q, q,
        accepts (fun _ mem => mem) accepted⟩
    | fault f k s => exact ⟨holds, trivial⟩
  have kept := kept_recorded.both (kept_tracking tracks) fun _ _ => trivial
  refine kept.holds_reaches (fun x untrapped => ⟨untrapped, ?_⟩) start hy
  cases x <;> trivial

end Runs

end CallByNeed.Language
