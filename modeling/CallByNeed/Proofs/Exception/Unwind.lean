import CallByNeed.Proofs.Machine.Outcome
import CallByNeed.Proofs.Machine.Primitive

set_option autoImplicit false
set_option relaxedAutoImplicit false

/-!
How an exception travels. It goes from one pending step to the next, closing the blocks and frames
on its way and going back to the focus of each evaluation that it ends. A `try` body that has no
catcher for it is counted off, and where no `try` body counts any more the run stops.
-/

namespace CallByNeed.Language

variable {ρ σ τ : Kind}

def Kind.raise (exception : Option String) : (σ : Kind) → σ.Answer
  | .value => .raised exception
  | .text => .raised exception
  | .cell => .raised exception
  | .flow => .raised exception

/-- A pending step that has no catcher for an exception. -/
@[simp]
def Pending.Passes (exception : Option String) : {σ τ : Kind} → Pending σ τ → Prop
  | _, _, .handle catchers => catchers.find? (fun c => some c.exception = exception) = none
  | _, _, _ => True

/-- Pending steps none of which has a catcher for an exception. -/
@[simp]
def Stack.Passes (exception : Option String) : {σ : Kind} → Stack ρ σ → Prop
  | _, .nil => True
  | _, .cons p k => p.Passes exception ∧ k.Passes exception

/-- How many `try` bodies are being executed. -/
@[simp]
def Stack.tries : {σ : Kind} → Stack ρ σ → Nat
  | _, .nil => 0
  | _, .cons p k => p.tries + k.tries

/-- A pending step at which an exception stops the run if no `try` body counts. -/
@[simp]
def Pending.checks : {σ τ : Kind} → Pending σ τ → Bool
  | _, _, .leave => true
  | _, _, .handle _ => true
  | _, _, _ => false

@[simp]
def Pending.unwind : {σ τ : Kind} → Pending σ τ → Scopes → Scopes.Result Unit
  | _, _, .leave, s => s.popFrame
  | _, _, .close, s => s.popBlock
  | _, _, .update _ focus, s => (.ok (), { s with focus := focus })
  | _, _, _, s => (.ok (), s)

private theorem resume_raise (p : Pending σ τ) {exception : Option String}
    (passes : p.Passes exception) (c : Context) (s : State) :
    p.resume (σ.raise exception) c s =
      if p.checks = true ∧ s.tryDepth - p.tries = 0 then
        .stop (.language .uncaught) { s with tryDepth := s.tryDepth - p.tries }
      else match p.unwind s.scopes with
        | (.ok (), u) => .ok (.give (τ.raise exception))
            { s with tryDepth := s.tryDepth - p.tries, scopes := u }
        | (.error fault, u) => .stop (.scope fault) { s with scopes := u } := by
  cases p with
  | leave =>
    simp only [Pending.resume, Kind.raise, Pending.checks, Pending.tries, Nat.sub_zero, true_and,
      Pending.unwind]
    split
    · next depth => exact resumeLeave_uncaught depth
    · next counted =>
      rw [resumeLeave_apply fun _ _ => counted, Comp.bind_apply, Comp.onScopes_apply]
      rcases s.scopes.popFrame with ⟨_ | _, u⟩ <;> rfl
  | close =>
    simp only [Pending.resume, Pending.checks, Bool.false_eq_true, false_and, if_false,
      Comp.bind_apply, Comp.onScopes_apply, Pending.unwind]
    rcases s.scopes.popBlock with ⟨_ | _, u⟩ <;> rfl
  | handle catchers =>
    have unmatched : catchers.find? (fun c => some c.exception = exception) = none := passes
    simp only [Pending.resume, Kind.raise, resumeHandle, unmatched, leaveTry, Comp.bind_apply,
      Comp.step_apply, Pending.checks, Pending.tries, true_and, Pending.unwind]
    split <;> rfl
  | _ => rfl

/-- Pending steps at one of which an exception stops the run if no `try` body counts. -/
@[simp]
def Stack.checks : {σ : Kind} → Stack ρ σ → Bool
  | _, .nil => false
  | _, .cons p k => p.checks || k.checks

private theorem Stack.tries_of_not_checks {k : Stack ρ σ} (unchecked : k.checks = false) :
    k.tries = 0 := by
  induction k with
  | nil => rfl
  | cons p k ih =>
    rw [Stack.checks, Bool.or_eq_false_iff] at unchecked
    have here : p.tries = 0 := by cases p <;> simp at unchecked ⊢
    rw [Stack.tries, here, ih unchecked.2]

namespace Config

variable {c : Context}

/-- The moment after an exception has come to a pending step without a catcher. -/
theorem step_passed (p : Pending σ τ) {exception : Option String} (passes : p.Passes exception)
    (k : Stack ρ τ) (s : State) :
    (done (σ.raise exception) (.cons p k) s).step c =
      if p.checks = true ∧ s.tryDepth - p.tries = 0 then
        some (.fault (.language .uncaught) k { s with tryDepth := s.tryDepth - p.tries })
      else match p.unwind s.scopes with
        | (.ok (), u) => some (.done (τ.raise exception) k
            { s with tryDepth := s.tryDepth - p.tries, scopes := u })
        | (.error failure, u) => some (.fault (.scope failure) k { s with scopes := u }) := by
  rw [step, resume_raise p passes]
  split
  · rfl
  · rcases p.unwind s.scopes with ⟨_ | _, u⟩ <;> rfl

theorem reaches_fault {f : Fault} (other : f ≠ .divisionByZero) (k : Stack ρ σ) (s : State) :
    Reaches c Untrapped (.fault f k s) (.fault f (.nil : Stack ρ ρ) s) := by
  induction k with
  | nil => exact .refl
  | cons p k ih =>
    refine Reaches.head ?_ ?_ ih
    · intro traps
      cases f <;> first | exact traps | exact other rfl
    · cases f <;> first | rfl | exact absurd rfl other

/-- An exception without a catcher goes past all pending steps, or stops the run where no `try` body
counts, unless the scopes fail on its way. -/
theorem reaches_raise {exception : Option String} {k : Stack ρ σ} (passes : k.Passes exception)
    {s : State} (counted : k.tries ≤ s.tryDepth) :
    (∃ s', Reaches c Untrapped (.done (σ.raise exception) k s) (.done (ρ.raise exception) .nil s') ∧
      (k.checks = true → k.tries < s.tryDepth)) ∨
    (∃ s', Reaches c Untrapped (.done (σ.raise exception) k s)
      (.fault (.language .uncaught) (.nil : Stack ρ ρ) s') ∧ s.tryDepth = k.tries) ∨
    (∃ fault s', Reaches c Untrapped (.done (σ.raise exception) k s)
      (.fault (.scope fault) (.nil : Stack ρ ρ) s')) := by
  induction k generalizing s with
  | nil => exact .inl ⟨s, .refl, by simp⟩
  | @cons σ τ p k ih =>
    have untrapped : ∀ {a : σ.Answer}, Untrapped (.done a (.cons p k) s) := fun traps => traps
    have first := step_passed (c := c) p passes.1 k s
    rw [Stack.tries] at counted
    split at first
    · next stops =>
      refine .inr (.inl ⟨_, Reaches.head untrapped first (reaches_fault (by simp) k _), ?_⟩)
      rw [Stack.tries]
      omega
    · next counts =>
      cases unwound : p.unwind s.scopes with
      | mk result u =>
        rw [unwound] at first
        cases result with
        | error fault =>
          exact .inr (.inr ⟨fault, _, Reaches.head untrapped first (reaches_fault (by simp) k _)⟩)
        | ok _ =>
          let next : State := { s with tryDepth := s.tryDepth - p.tries, scopes := u }
          have first : (Config.done (σ.raise exception) (.cons p k) s).step c =
              some (.done (τ.raise exception) k next) := first
          rcases ih passes.2 (s := next) (by simp only [next]; omega) with
            ⟨s', reached, deeper⟩ | ⟨s', reached, none⟩ | ⟨fault, s', reached⟩
          · refine .inl ⟨s', Reaches.head untrapped first reached, fun checks => ?_⟩
            simp only [next] at deeper
            rw [Stack.tries]
            cases below : k.checks with
            | true =>
              have := deeper below
              omega
            | false =>
              have here : p.checks = true := by simpa [below] using checks
              have nothing := Stack.tries_of_not_checks below
              have more : s.tryDepth - p.tries ≠ 0 := fun none => counts ⟨here, none⟩
              omega
          · refine .inr (.inl ⟨s', Reaches.head untrapped first reached, ?_⟩)
            simp only [next] at none
            rw [Stack.tries]
            omega
          · exact .inr (.inr ⟨fault, s', Reaches.head untrapped first reached⟩)

end Config

end CallByNeed.Language
