set_option autoImplicit false
set_option relaxedAutoImplicit false

/-!
Runs of steps that may fail and keep a state: those of lexers, and those that build lexers and
parsers.
-/

namespace CallByNeed

variable {ε σ α β : Type} {f : α → ExceptT ε (StateM σ) β} {s s' : σ}

theorem run_bind_ok {x : ExceptT ε (StateM σ) α} {a : α} (h : x.run.run s = (.ok a, s')) :
    (x >>= f).run.run s = (f a).run.run s' := by
  have hx : x s = (.ok a, s') := h
  change (ExceptT.bind x f) s = _
  simp only [ExceptT.bind, ExceptT.mk, bind, StateT.bind, hx, ExceptT.bindCont]
  rfl

theorem run_bind_error {x : ExceptT ε (StateM σ) α} {e : ε}
    (h : x.run.run s = (.error e, s')) : (x >>= f).run.run s = (.error e, s') := by
  have hx : x s = (.error e, s') := h
  change (ExceptT.bind x f) s = _
  simp only [ExceptT.bind, ExceptT.mk, bind, StateT.bind, hx, ExceptT.bindCont]
  rfl

theorem exists_of_run_bind {x : ExceptT ε (StateM σ) α} {b : β} {s'' : σ}
    (h : (x >>= f).run.run s = (.ok b, s'')) :
    ∃ a s', x.run.run s = (.ok a, s') ∧ (f a).run.run s' = (.ok b, s'') := by
  rcases hx : x.run.run s with ⟨e | a, s'⟩
  · rw [run_bind_error hx] at h
    cases h
  · rw [run_bind_ok hx] at h
    exact ⟨a, s', rfl, h⟩

theorem run_get_bind {f : σ → ExceptT ε (StateM σ) β} :
    (get >>= f).run.run s = (f s).run.run s := rfl

theorem run_modify_bind {g : σ → σ} {f : Unit → ExceptT ε (StateM σ) β} :
    (modify g >>= f).run.run s = (f ()).run.run (g s) := rfl

theorem run_lift_bind {a : α} :
    ((liftM (Except.ok a : Except ε α) : ExceptT ε (StateM σ) α) >>= f).run.run s =
      (f a).run.run s := rfl

/-- Whatever the steps answer has a property. -/
def Answers (x : ExceptT ε (StateM σ) α) (P : α → Prop) : Prop :=
  ∀ s a s', x.run.run s = (.ok a, s') → P a

theorem Answers.imp {x : ExceptT ε (StateM σ) α} {P Q : α → Prop} (h : Answers x P)
    (weaker : ∀ a, P a → Q a) : Answers x Q :=
  fun s a s' hrun => weaker a (h s a s' hrun)

theorem answers_pure {P : α → Prop} {a : α} (h : P a) :
    Answers (pure a : ExceptT ε (StateM σ) α) P := by
  intro s b s' hrun
  cases hrun
  exact h

theorem answers_throw {P : α → Prop} {e : ε} :
    Answers (throw e : ExceptT ε (StateM σ) α) P := by
  intro s b s' hrun
  cases hrun

theorem answers_throw_bind {Q : β → Prop} {e : ε} :
    Answers ((throw e : ExceptT ε (StateM σ) α) >>= f) Q := by
  intro s b s' hrun
  cases hrun

theorem answers_bind {x : ExceptT ε (StateM σ) α} {P : α → Prop} {Q : β → Prop}
    (first : Answers x P) (rest : ∀ a, P a → Answers (f a) Q) : Answers (x >>= f) Q := by
  intro s b s'' hrun
  obtain ⟨a, s', hx, hf⟩ := exists_of_run_bind hrun
  exact rest a (first s a s' hx) s' b s'' hf

theorem answers_then {x : ExceptT ε (StateM σ) α} {Q : β → Prop}
    (rest : ∀ a, Answers (f a) Q) : Answers (x >>= f) Q :=
  answers_bind (P := fun _ => True) (fun _ _ _ _ => trivial) fun a _ => rest a

end CallByNeed
