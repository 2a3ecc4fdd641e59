import CallByNeed.Language.Eval
import Mathlib.Logic.Relation

set_option autoImplicit false
set_option relaxedAutoImplicit false

/-!
Computations on the state as a lawful monad, with what each primitive does.
-/

namespace CallByNeed.Language

namespace Comp

variable {α β : Type}

theorem bind_apply (x : Comp α) (f : α → Comp β) (c : Context) (s : State) :
    (x >>= f) c s = match x c s with
      | .ok a s => f a c s
      | .stop fault s => .stop fault s
      | .outOfFuel => .outOfFuel := rfl

theorem bind_eq_ok {x : Comp α} {f : α → Comp β} {c : Context} {s s' : State} {b : β} :
    (x >>= f) c s = .ok b s' ↔ ∃ a s₁, x c s = .ok a s₁ ∧ f a c s₁ = .ok b s' := by
  rw [bind_apply]
  constructor
  · intro h
    cases hx : x c s with
    | ok a s₁ => exact ⟨a, s₁, rfl, by simpa only [hx] using h⟩
    | stop fault s₁ => simp [hx] at h
    | outOfFuel => simp [hx] at h
  · rintro ⟨a, s₁, hx, hf⟩
    simpa only [hx] using hf

@[simp]
theorem pure_apply (a : α) (c : Context) (s : State) : (pure a : Comp α) c s = .ok a s := rfl

@[simp]
theorem stop_apply (f : Fault) (c : Context) (s : State) : (stop f : Comp α) c s = .stop f s := rfl

@[simp]
theorem fail_apply (e : LanguageError) (c : Context) (s : State) :
    (fail e : Comp α) c s = .stop (.language e) s := rfl

@[simp]
theorem step_apply (f : State → α × State) (c : Context) (s : State) :
    step f c s = .ok (f s).1 (f s).2 := rfl

@[simp]
theorem modify_apply (f : State → State) (c : Context) (s : State) :
    modify f c s = .ok () (f s) := rfl

@[simp]
theorem context_apply (c : Context) (s : State) : context c s = .ok c s := rfl

theorem onScopes_apply (f : Scopes → Scopes.Result α) (c : Context) (s : State) :
    onScopes f c s = match f s.scopes with
      | (.ok a, scopes) => .ok a { s with scopes := scopes }
      | (.error fault, scopes) => .stop (.scope fault) { s with scopes := scopes } := rfl

private theorem comp_id_map {α : Type} (x : Comp α) : id <$> x = x := by
  funext c s
  change (match x c s with
    | .ok a s => Outcome.ok a s
    | .stop fault s => .stop fault s
    | .outOfFuel => .outOfFuel) = x c s
  cases x c s <;> rfl

private theorem comp_bind_assoc {α β γ : Type} (x : Comp α) (f : α → Comp β) (g : β → Comp γ) :
    x >>= f >>= g = x >>= fun a => f a >>= g := by
  funext c s
  simp only [bind_apply]
  cases x c s <;> rfl

instance : LawfulMonad Comp :=
  LawfulMonad.mk' Comp comp_id_map (fun _ _ => rfl) comp_bind_assoc

end Comp

end CallByNeed.Language
