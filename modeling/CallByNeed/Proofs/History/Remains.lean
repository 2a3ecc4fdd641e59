import CallByNeed.Proofs.Heap.Update
import CallByNeed.Proofs.Machine.Outcome

set_option autoImplicit false
set_option relaxedAutoImplicit false

/-!
What a run cannot change, wherever it is cut off. A value in a cell that is not being evaluated
stays there, also after a division by zero has been turned into an exception. If inputs are given,
then the standard input stays as it is.
-/

namespace CallByNeed.Language

variable {ρ σ τ : Kind} {c : Context}

namespace Config

variable {x y : Config ρ} {k : CellId} {v : Value}

/-- A step starts the evaluation of a cell only if the cell holds a deferred expression. -/
theorem idle_step (h : x.step c = some y) (hk : x.state.cells[k]? = some (.value v))
    (idle : k ∉ x.busy) : k ∉ y.busy := by
  cases x with
  | run t below s =>
    have does := does_start t c s
    cases started : t.start c s with
    | outOfFuel => simp [started] at does
    | stop f s' =>
      simp only [step, started, proceed, Option.some.injEq] at h
      exact h ▸ idle
    | ok next s' =>
      simp only [step, started, proceed, Option.some.injEq] at h does
      rw [← h, busy_follow]
      by_cases forces : t.IsForce
      · cases t with
        | force j =>
          simp only [Task.start, startForce, Comp.bind_apply, Comp.step_apply] at started
          cases found : (s.cells[j]?).getD (.value .nil) with
          | value w =>
            rw [found] at started
            cases started
            simpa using idle
          | thunk e i =>
            rw [found] at started
            cases started
            have other : k ≠ j := by
              rintro rfl
              change s.cells[k]? = _ at hk
              simp [hk] at found
            simpa [other] using idle
        | _ => simp at forces
      · rw [does.1.2.2.2 forces]
        exact idle
  | done a below s =>
    cases below with
    | nil => cases h
    | cons p below =>
      have does := does_resume p a c s
      have free : k ∉ below.busy := fun busy => idle (by simp [busy])
      cases resumed : p.resume a c s with
      | outOfFuel => simp [resumed] at does
      | stop f s' =>
        simp only [step, resumed, proceed, Option.some.injEq] at h
        exact h ▸ free
      | ok next s' =>
        simp only [step, resumed, proceed, Option.some.injEq] at h does
        rw [← h, busy_follow]
        rw [does.1.2.2.2]
        exact free
  | fault f below s =>
    cases below with
    | nil => cases h
    | cons p below =>
      obtain rfl := Option.some.inj h
      unfold escape
      split
      · exact idle
      · exact fun busy => idle (by simp at busy; simp [busy])

private theorem value_step (h : x.step c = some y) (hk : x.state.cells[k]? = some (.value v))
    (idle : k ∉ x.busy) : y.state.cells[k]? = some (.value v) := by
  rcases cells_step h hk with kept | ⟨w, ends, _⟩
  · exact kept
  · obtain ⟨⟩ := ends
    simp at idle

private theorem value_of_reaches {P : Config ρ → Prop} (hy : Reaches c P x y)
    (hk : x.state.cells[k]? = some (.value v)) (idle : k ∉ x.busy) :
    y.state.cells[k]? = some (.value v) ∧ k ∉ y.busy := by
  induction hy with
  | refl => exact ⟨hk, idle⟩
  | tail _ move ih => exact ⟨value_step move.2 ih.1 ih.2, idle_step move.2 ih.1 ih.2⟩

private theorem stdin_of_reaches {P : Config ρ → Prop} (hy : Reaches c P x y)
    (given : c.setup.inputs.isEmpty = false) :
    y.state.channels.stdin = x.state.channels.stdin := by
  induction hy with
  | refl => rfl
  | tail _ move ih => exact ((changes_step move.2).stdin given).trans ih

end Config

def Outcome.state? {α : Type} : Outcome α → Option State
  | .ok _ s => some s
  | .stop _ s => some s
  | .outOfFuel => none

section Calls

open Config

variable {fuel : Nat} {name : String} {args : List Expr} {s s' : State}

private theorem reaches_of_state? (left : (call fuel name args c s).state? = some s') :
    ∃ y : Config .cell, Reaches c Any (.run (.call name args) .nil s) y ∧ y.state = s' := by
  have arrives : ∀ y : Config .cell,
      arrive .nil ((Task.call name args).perform fuel c s) = some y →
        Reaches c Any (.run (.call name args) .nil s) y := reaches_perform (.call name args) .nil s
  change ((Task.call name args).perform fuel c s).state? = some s' at left
  cases called : (Task.call name args).perform fuel c s with
  | outOfFuel => simp [called, Outcome.state?] at left
  | ok a t =>
    rw [called] at left arrives
    obtain rfl := Option.some.inj left
    exact ⟨_, arrives _ rfl, rfl⟩
  | stop f t =>
    rw [called] at left arrives
    obtain rfl := Option.some.inj left
    exact ⟨_, arrives _ rfl, rfl⟩

theorem call_leaves_value (left : (call fuel name args c s).state? = some s') {k : CellId}
    {v : Value} (hk : s.cells[k]? = some (.value v)) : s'.cells[k]? = some (.value v) := by
  obtain ⟨y, reached, rfl⟩ := reaches_of_state? left
  exact (value_of_reaches reached hk (by simp)).1

theorem call_leaves_stdin (left : (call fuel name args c s).state? = some s')
    (given : c.setup.inputs.isEmpty = false) : s'.channels.stdin = s.channels.stdin := by
  obtain ⟨y, reached, rfl⟩ := reaches_of_state? left
  exact stdin_of_reaches reached given

end Calls

end CallByNeed.Language
