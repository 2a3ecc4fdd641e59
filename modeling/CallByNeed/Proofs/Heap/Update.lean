import CallByNeed.Proofs.Heap.Tracking

set_option autoImplicit false
set_option relaxedAutoImplicit false

/-!
Call by need. A value stays in its cell for good. A deferred expression is replaced once at most, by
its value, and it is not asked for again while it is being evaluated. If its evaluation ends with an
exception, then the expression is left with the snapshot it had before.
-/

namespace CallByNeed.Language

open Heap

namespace Config

variable {ρ : Kind} {c : Context} {x y z : Config ρ}

/-- A cell is about to be forced. -/
inductive Forces (k : CellId) : Config ρ → Prop where
  | intro {below : Stack ρ .value} {s : State} : Forces k (.run (.force k) below s)

/-- The evaluation of the deferred expression of a cell has ended. -/
inductive Ends (k : CellId) (a : Raising (Option Value)) : Config ρ → Prop where
  | intro {focus : Option Nat} {below : Stack ρ .value} {s : State} :
    Ends k a (.done (a : Kind.value.Answer) (.cons (.update k focus) below) s)

/-- A step changes the content of a cell only if the evaluation of its deferred expression has ended
with a value. -/
theorem cells_step {k : CellId} {content : Cell} (h : x.step c = some y)
    (hk : x.state.cells[k]? = some content) :
    y.state.cells[k]? = some content ∨
      ∃ v, x.Ends k (.value (some v)) ∧ y.state.cells[k]? = some (.value v) := by
  have steady : ¬ x.effects.forces → y.state.cells[k]? = some content := fun none =>
    ((changes_step h).heap none).cells k content hk
  cases x with
  | run t below s =>
    cases t with
    | force j =>
      refine .inl ?_
      simp only [step, Task.start, startForce, Comp.bind_apply, Comp.step_apply] at h
      cases found : (s.cells[j]?).getD (.value .nil) with
      | value v =>
        rw [found] at h
        obtain rfl := Option.some.inj h
        exact hk
      | thunk e i =>
        rw [found] at h
        obtain rfl := Option.some.inj h
        exact hk
    | _ => exact .inl (steady id)
  | done a below s =>
    cases below with
    | nil => exact .inl (steady id)
    | cons p below =>
      cases p with
      | update j focus =>
        rcases a with (_ | v) | exception
        · obtain rfl := Option.some.inj h
          exact .inl hk
        · obtain rfl := Option.some.inj h
          by_cases same : j = k
          · subst same
            obtain ⟨bound, _⟩ := Array.getElem?_eq_some_iff.mp hk
            exact .inr ⟨v, .intro, Array.getElem?_setIfInBounds_self_of_lt bound⟩
          · exact .inl ((Array.getElem?_setIfInBounds_ne same).trans hk)
        · obtain rfl := Option.some.inj h
          exact .inl hk
      | _ => exact .inl (steady fun busy => busy rfl)
  | fault f below s => exact .inl (steady id)

end Config

section Cells

open Config

variable {c : Context} {channels : Channels} {x y z : Config .cell} {k : CellId}

private theorem sound_of_ends {a : Raising (Option Value)}
    (hx : Reaches c Untrapped (first channels) x) (ends : x.Ends k a) :
    ∃ B, x.busy = k :: B ∧ Sound (k :: B) x.state.heap := by
  obtain @⟨focus, below, s⟩ := ends
  exact ⟨below.busy, rfl, sound_of_calm hx rfl⟩

private theorem cells_reaches {content : Cell} (hx : Reaches c Untrapped (first channels) x)
    (hy : Reaches c Untrapped x y) (hk : x.state.cells[k]? = some content) :
    y.state.cells[k]? = some content ∨ (∃ e i, content = .thunk e i) ∧
      ∃ v z, Reaches c Untrapped x z ∧ z.Ends k (.value (some v)) ∧ Reaches c Untrapped z y ∧
        y.state.cells[k]? = some (.value v) := by
  induction hy with
  | refl => exact .inl hk
  | @tail m y reached move ih =>
    have thunk : ∀ {content v}, m.Ends k (.value (some v)) → m.state.cells[k]? = some content →
        ∃ e i, content = .thunk e i := by
      intro content v ends hm
      obtain ⟨B, _, sound⟩ := sound_of_ends (hx.trans reached) ends
      obtain ⟨e, i, held⟩ := sound.busy k List.mem_cons_self
      exact ⟨e, i, Option.some.inj (hm.symm.trans held)⟩
    rcases ih with same | ⟨deferred, v, z, before, ended, after, hv⟩
    · rcases cells_step move.2 same with kept | ⟨v, ends, settled⟩
      · exact .inl kept
      · exact .inr ⟨thunk ends same, v, m, reached, ends, .single move, settled⟩
    · rcases cells_step move.2 hv with kept | ⟨w, ends, _⟩
      · exact .inr ⟨deferred, v, z, before, ended, after.trans (.single move), kept⟩
      · obtain ⟨e, i, impossible⟩ := thunk ends hv
        cases impossible

private theorem value_reaches {v : Value} (hx : Reaches c Untrapped (first channels) x)
    (hy : Reaches c Untrapped x y) (hk : x.state.cells[k]? = some (.value v)) :
    y.state.cells[k]? = some (.value v) := by
  rcases cells_reaches hx hy hk with same | ⟨⟨e, i, thunk⟩, _⟩
  · exact same
  · cases thunk

end Cells

section Snapshots

variable {k : CellId} {e : Expr} {i : Nat} {env : Env}

/-- A cell that is not being evaluated holds a value, or a certain expression with a certain
snapshot. -/
def Remembers (k : CellId) (e : Expr) (i : Nat) (env : Env) (B : List CellId) (h : Heap) : Prop :=
  k ∉ B → (∃ v, h.cells[k]? = some (.value v)) ∨
    h.cells[k]? = some (.thunk e i) ∧ h.scopes.snapshots[i]? = some env

private theorem tracks_remembers {c : Context} : Tracks c (Remembers k e i env) Grows where
  refl := .refl
  trans := .trans
  adds sound _ adds := sound.grows_adds adds
  back ended _ := ended.grows_refocus
  settle ended _ _ _ := ended.grows_settle _
  stable := by
    intro B h h' remembers grows idle
    rcases remembers idle with ⟨v, hv⟩ | ⟨hk, taken⟩
    · exact .inl ⟨v, grows.cells_of_value hv⟩
    · rcases grows.cells k _ hk with same | ⟨_, _, value⟩
      · exact .inr ⟨same, grows.snapshots k e i env idle hk same taken⟩
      · exact .inl value
  enter := by
    intro B j e' i' h _ _ _ remembers idle
    exact remembers fun busy => idle (List.mem_cons_of_mem _ busy)

private theorem Remembers.leave {b : CellId} {B : List CellId} {h : Heap} (other : b ≠ k)
    (remembers : Remembers k e i env (b :: B) h) (focus : Option Nat) :
    Remembers k e i env B (h.refocus focus) ∧
      ∀ v, Remembers k e i env B ((h.refocus focus).settle b v) := by
  have outside : k ∉ B → k ∉ b :: B := fun idle busy =>
    (List.mem_cons.mp busy).elim (fun same => other same.symm) idle
  refine ⟨fun idle => remembers (outside idle), fun v idle => ?_⟩
  have cells : ((h.refocus focus).settle b v).cells[k]? = h.cells[k]? :=
    Array.getElem?_setIfInBounds_ne other
  rw [cells]
  exact remembers (outside idle)

open Config

variable {c : Context} {channels : Channels} {x y z : Config .cell}

/-- After its evaluation has ended with an exception, a cell holds the expression and the snapshot
that it held before. -/
theorem thunk_of_raised {exception : Option String}
    (hx : Reaches c Untrapped (first channels) x) (hy : Reaches c Untrapped x y)
    (idle : k ∉ x.busy) (hk : x.state.cells[k]? = some (.thunk e i))
    (taken : x.state.scopes.snapshots[i]? = some env) (ends : y.Ends k (.raised exception))
    (h : y.step c = some z) :
    z.state.cells[k]? = some (.thunk e i) ∧ z.state.scopes.snapshots[i]? = some env := by
  obtain ⟨B, busy, sound⟩ := sound_of_ends (hx.trans hy) ends
  have idle' : k ∉ B := (List.nodup_cons.mp sound.distinct).1
  obtain ⟨e', i', held⟩ := sound.busy k List.mem_cons_self
  have later : Reaches c Untrapped x z := by
    refine hy.tail ?_ h
    obtain ⟨⟩ := ends
    exact id
  have holds := tracks_remembers.holds_reaches hx (fun _ => .inr ⟨hk, taken⟩)
    (fun b mem B h focus _ remembers => remembers.leave (by rintro rfl; exact idle mem) focus)
    later
  obtain ⟨⟩ := ends
  obtain rfl := Option.some.inj h
  cases busy
  rcases holds.1.2 (by simpa using idle') with ⟨v, hv⟩ | remembered
  · have held' := held.symm.trans hv
    cases held'
  · exact remembered

end Snapshots

section Program

open Config

variable {c : Context} {channels : Channels} {x : Config .cell} {k : CellId}

private theorem ready_of_forces (hx : Reaches c Untrapped (first channels) x)
    (forces : x.Forces k) :
    Sound x.busy x.state.heap ∧ k ∉ x.busy := by
  obtain @⟨below, s⟩ := forces
  have ready : Sound below.busy s.heap ∧ s.heap.Clear below.busy k := ready_of_run hx
  exact ⟨ready.1, ready.2.not_mem⟩

/-- Before a division by zero is turned into an exception, a value stays in its cell, as nil does in
the cell it is given at the start. A deferred expression stays in its cell until its evaluation ends
with a value, which it does once at most. When its evaluation ends with an exception, it is left
with the snapshot with which it was forced. A cell is not forced while it is being evaluated. -/
theorem deferred_expression_evaluated_once {program : Program} {setup : Setup}
    {channels : Channels} {x y : Config .cell}
    (hx : Reaches (program.context setup) Untrapped (first channels) x)
    (hy : Reaches (program.context setup) Untrapped x y) :
    x.state.cells[nilCell]? = some (.value .nil) ∧
    (∀ (k : CellId) (v : Value), x.state.cells[k]? = some (.value v) →
      y.state.cells[k]? = some (.value v)) ∧
    (∀ (k : CellId) (e : Expr) (i : Nat), x.state.cells[k]? = some (.thunk e i) →
      y.state.cells[k]? = some (.thunk e i) ∨
      ∃ v z, Reaches (program.context setup) Untrapped x z ∧ z.Ends k (.value (some v)) ∧
        Reaches (program.context setup) Untrapped z y ∧ y.state.cells[k]? = some (.value v)) ∧
    (∀ k v w z, x.Ends k (.value (some v)) → x.step (program.context setup) = some z →
      Reaches (program.context setup) Untrapped z y → ¬ y.Ends k (.value (some w))) ∧
    (∀ (k : CellId) (e : Expr) (i : Nat) (exception : Option String) (z : Config .cell),
      x.Forces k → x.state.cells[k]? = some (.thunk e i) →
      y.Ends k (.raised exception) → y.step (program.context setup) = some z →
      z.state.cells[k]? = some (.thunk e i) ∧
        z.state.scopes.snapshots[i]? = x.state.scopes.snapshots[i]?) ∧
    ∀ k, x.Forces k → k ∉ x.busy := by
  refine ⟨?_, ?_, ?_, ?_, ?_, fun k forces => (ready_of_forces hx forces).2⟩
  · exact value_reaches .refl hx rfl
  · exact fun k v hk => value_reaches hx hy hk
  · intro k e i hk
    exact (cells_reaches hx hy hk).imp_right And.right
  · intro k v w z ends step later again
    obtain ⟨B, _, sound⟩ := sound_of_ends hx ends
    obtain ⟨e, i, held⟩ := sound.busy k List.mem_cons_self
    have settled : z.state.cells[k]? = some (.value v) := by
      obtain ⟨⟩ := ends
      obtain rfl := Option.some.inj step
      obtain ⟨bound, _⟩ := Array.getElem?_eq_some_iff.mp held
      exact Array.getElem?_setIfInBounds_self_of_lt bound
    have moved : Reaches (program.context setup) Untrapped x z := by
      refine .tail .refl ?_ step
      obtain ⟨⟩ := ends
      exact id
    obtain ⟨B', _, sound'⟩ := sound_of_ends (hx.trans hy) again
    obtain ⟨e', i', held'⟩ := sound'.busy k List.mem_cons_self
    have kept := value_reaches (hx.trans moved) later settled
    cases held'.symm.trans kept
  · intro k e i exception z forces hk ends step
    obtain ⟨sound, idle⟩ := ready_of_forces hx forces
    obtain ⟨frame, frames, taken, _⟩ := sound.snapshot k e i hk
    rw [taken]
    exact thunk_of_raised hx hy idle hk taken ends step

/-- A program that defers a call which reads a line and raises an exception if the line is bad, and
that asks for the value again after the exception. -/
def retry : Program where
  structs := []
  funcs := [
    ⟨"main", [], none,
      [.declare "x" none, .assign ⟨"x", .call "f" []⟩,
        .attempt [.eval (.call "print" [.var "x"])] [⟨"bad", []⟩],
        .eval (.call "print" [.var "x"])]⟩,
    ⟨"f", [], none,
      [.declare "n" none, .assign ⟨"n", .call "inputs" []⟩,
        .branch (.binary .eq (.var "n") (.str "bad")) [.raise (.str "bad")] none,
        .ret (some (.var "n"))]⟩]

theorem deferred_expression_evaluated_once_retry :
    ∃ x y z : Config .cell,
      Reaches (retry.context { inputs := #["bad", "good"] }) Untrapped (first {}) x ∧
      x.Forces 1 ∧ x.state.cells[1]? = some (.thunk (.call "f" []) 0) ∧
      y.Ends 1 (.raised (some "bad")) ∧
      y.step (retry.context { inputs := #["bad", "good"] }) = some z ∧
      z.state.cells[1]? = some (.thunk (.call "f" []) 0) ∧
      z.state.scopes.snapshots[0]? = x.state.scopes.snapshots[0]? ∧ 1 ∉ x.busy := by
  have moments : ∃ x y z : Config .cell,
      walk (retry.context { inputs := #["bad", "good"] }) calm 16 (first {}) = some x ∧
      walk (retry.context { inputs := #["bad", "good"] }) calm 35 x = some y ∧ x.Forces 1 ∧
      x.state.cells[1]? = some (.thunk (.call "f" []) 0) ∧ y.Ends 1 (.raised (some "bad")) ∧
      y.step (retry.context { inputs := #["bad", "good"] }) = some z :=
    ⟨_, _, _, rfl, rfl, .intro, rfl, .intro, rfl⟩
  obtain ⟨x, y, z, toX, toY, forces, thunk, ends, step⟩ := moments
  have hx := (reaches_of_walk toX).mono fun _ => untrapped_of_calm
  have hy := (reaches_of_walk toY).mono fun _ => untrapped_of_calm
  obtain ⟨_, _, _, _, raised, idle⟩ := deferred_expression_evaluated_once hx hy
  obtain ⟨kept, taken⟩ := raised 1 _ 0 _ z forces thunk ends step
  exact ⟨x, y, z, hx, forces, thunk, ends, step, kept, taken, idle 1 forces⟩

end Program

end CallByNeed.Language
