import CallByNeed.Proofs.Machine.Return

set_option autoImplicit false
set_option relaxedAutoImplicit false

/-!
Runs in step. Two runs go in step if each step of the one is matched by a step of the other, with
tasks, answers and faults at the same moments and the ends of `try` bodies at the same places of the
stacks. Calls of the evaluator then agree for every fuel: both run out of it, both stop with the
same fault, or both give an answer.
-/

namespace CallByNeed.Language

variable {ρ σ τ : Kind}

/-- Pending steps of the same kinds, with the ends of `try` bodies at the same places. -/
inductive Stack.Alike : {σ : Kind} → Stack ρ σ → Stack ρ σ → Prop where
  | nil : Alike .nil .nil
  | cons {σ τ : Kind} {p p' : Pending σ τ} {k k' : Stack ρ τ} (traps : p'.trap? = p.trap?)
    (below : Alike k k') : Alike (.cons p k) (.cons p' k')

private theorem Stack.Alike.height {k k' : Stack ρ σ} (alike : k.Alike k') :
    k'.height = k.height := by
  induction alike with
  | nil => rfl
  | cons _ _ ih => exact congrArg (· + 1) ih

namespace Config

/-- Two tasks that start, two answers that are handed on, or the same fault on its way out, above
stacks that are alike. -/
inductive Alike : Config ρ → Config ρ → Prop where
  | run {σ : Kind} (t t' : Task σ) {k k' : Stack ρ σ} (stack : k.Alike k') (s s' : State) :
    Alike (.run t k s) (.run t' k' s')
  | done {σ : Kind} (a a' : σ.Answer) {k k' : Stack ρ σ} (stack : k.Alike k') (s s' : State) :
    Alike (.done a k s) (.done a' k' s')
  | fault {σ : Kind} (f : Fault) {k k' : Stack ρ σ} (stack : k.Alike k') (s s' : State) :
    Alike (.fault f k s) (.fault f k' s')

private theorem Alike.height {x y : Config ρ} (alike : x.Alike y) : y.height = x.height := by
  cases alike with
  | run _ _ stack => exact stack.height
  | done _ _ stack => exact stack.height
  | fault _ stack => exact stack.height

/-- A relation between the moments of two runs that go in step, with the same input and output. -/
structure Lockstep (c c' : Context) (R : Config ρ → Config ρ → Prop) : Prop where
  alike : ∀ x y, R x y → x.Alike y
  channels : ∀ x y, R x y → y.state.channels = x.state.channels
  step : ∀ x y x', R x y → x.step c = some x' → ∃ y', y.step c' = some y' ∧ R x' y'

section Lockstep

variable {c c' : Context} {R : Config ρ → Config ρ → Prop} {fuel : Nat}

inductive Agree (R : Config ρ → Config ρ → Prop) (k k' : Stack ρ σ) :
    Outcome σ.Answer → Outcome σ.Answer → Prop where
  | ok (a a' : σ.Answer) (s s' : State) (h : R (.done a k s) (.done a' k' s')) :
    Agree R k k' (.ok a s) (.ok a' s')
  | stop (f : Fault) (s s' : State) (h : R (.fault f k s) (.fault f k' s')) :
    Agree R k k' (.stop f s) (.stop f s')
  | outOfFuel : Agree R k k' .outOfFuel .outOfFuel

/-- The moments after a computation, if the two runs go on in step. -/
inductive Onward (R : Config ρ → Config ρ → Prop) (k k' : Stack ρ τ) :
    Outcome (Next τ) → Outcome (Next τ) → Prop where
  | ok (next next' : Next τ) (s s' : State) (h : R (follow k next s) (follow k' next' s')) :
    Onward R k k' (.ok next s) (.ok next' s')
  | stop (f : Fault) (s s' : State) (h : R (.fault f k s) (.fault f k' s')) :
    Onward R k k' (.stop f s) (.stop f s')

private theorem Lockstep.onward (lock : Lockstep c c' R) {x y : Config ρ} (h : R x y)
    {k k' : Stack ρ τ} {o o' : Outcome (Next τ)} (hx : x.step c = proceed k o)
    (hy : y.step c' = proceed k' o') (some : o ≠ .outOfFuel) : Onward R k k' o o' := by
  cases o with
  | outOfFuel => exact absurd rfl some
  | ok next s =>
    obtain ⟨y', stepped, related⟩ := lock.step x y _ h hx
    cases o' with
    | outOfFuel => cases hy.symm.trans stepped
    | ok next' s' =>
      cases hy.symm.trans stepped
      exact .ok next next' s s' related
    | stop f s' =>
      cases hy.symm.trans stepped
      have alike := lock.alike _ _ related
      cases next <;> cases alike
  | stop f s =>
    obtain ⟨y', stepped, related⟩ := lock.step x y _ h hx
    cases o' with
    | outOfFuel => cases hy.symm.trans stepped
    | ok next' s' =>
      cases hy.symm.trans stepped
      have alike := lock.alike _ _ related
      cases next' <;> cases alike
    | stop f' s' =>
      cases hy.symm.trans stepped
      cases lock.alike _ _ related
      exact .stop f s s' related

inductive NextAlike : Next τ → Next τ → Prop where
  | give (a a' : τ.Answer) : NextAlike (.give a) (.give a')
  | goto (t t' : Task τ) : NextAlike (.goto t) (.goto t')
  | enter {σ : Kind} (t t' : Task σ) (p p' : Pending σ τ) (traps : p'.trap? = p.trap?) :
    NextAlike (.enter t p) (.enter t' p')

private theorem Lockstep.next_alike (lock : Lockstep c c' R) {k k' : Stack ρ τ}
    (stack : k.Alike k') {next next' : Next τ} {s s' : State}
    (h : R (follow k next s) (follow k' next' s')) : NextAlike next next' := by
  have alike := lock.alike _ _ h
  -- A task that takes the place of another is told from one that is waited for by the stack.
  have higher := alike.height
  cases next with
  | give a =>
    cases next' with
    | give a' => exact .give a a'
    | goto t' => cases alike
    | enter t' p' => cases alike
  | goto t =>
    cases next' with
    | give a' => cases alike
    | goto t' => exact .goto t t'
    | enter t' p' =>
      simp only [follow, height, Stack.height, stack.height] at higher
      omega
  | enter t p =>
    cases next' with
    | give a' => cases alike
    | goto t' =>
      simp only [follow, height, Stack.height, stack.height] at higher
      omega
    | enter t' p' =>
      cases alike with
      | run _ _ stack' =>
        cases stack' with
        | cons traps _ => exact .enter _ _ _ _ traps

/-- What two pending steps wait for arrives there in step, or the same fault goes past both. -/
private theorem agree_guard (lock : Lockstep c c' R) {p p' : Pending σ τ} {k k' : Stack ρ τ}
    {x x' : Comp σ.Answer} {s s' : State} (traps : p'.trap? = p.trap?)
    (agree : Agree R (.cons p k) (.cons p' k') (x c s) (x' c' s')) :
    (∃ a a' s₁ s₁', p.guard x c s = .ok a s₁ ∧ p'.guard x' c' s' = .ok a' s₁' ∧
      R (.done a (.cons p k) s₁) (.done a' (.cons p' k') s₁')) ∨
    (∃ f s₁ s₁', p.guard x c s = .stop f s₁ ∧ p'.guard x' c' s' = .stop f s₁' ∧
      R (.fault f k s₁) (.fault f k' s₁')) ∨
    (p.guard x c s = .outOfFuel ∧ p'.guard x' c' s' = .outOfFuel) := by
  generalize performed : x c s = o at agree
  generalize performed' : x' c' s' = o' at agree
  cases agree with
  | ok a a' s₁ s₁' h =>
    refine .inl ⟨a, a', s₁, s₁', ?_, ?_, h⟩
    · cases trap : p.trap? <;> simp [Pending.guard, trap, Comp.catchZero, performed]
    · cases trap : p'.trap? <;> simp [Pending.guard, trap, Comp.catchZero, performed']
  | stop f s₁ s₁' h =>
    obtain ⟨y, stepped, related⟩ := lock.step _ _ _ h rfl
    cases Option.some.inj stepped
    cases trap : p.trap? with
    | none =>
      have trap' : p'.trap? = none := traps.trans trap
      refine .inr (.inl ⟨f, s₁, s₁', ?_, ?_, ?_⟩)
      · simpa [Pending.guard, trap] using performed
      · simpa [Pending.guard, trap'] using performed'
      · cases f <;> simpa [escape, trap, trap'] using related
    | some b =>
      have trap' : p'.trap? = some b := traps.trans trap
      cases f with
      | divisionByZero =>
        refine .inl ⟨b, b, s₁, s₁', ?_, ?_, ?_⟩
        · simp [Pending.guard, trap, Comp.catchZero, performed]
        · simp [Pending.guard, trap', Comp.catchZero, performed']
        · simpa [escape, trap, trap'] using related
      | _ =>
        refine .inr (.inl ⟨_, s₁, s₁', ?_, ?_, related⟩)
        · simp [Pending.guard, trap, Comp.catchZero, performed]
        · simp [Pending.guard, trap', Comp.catchZero, performed']
  | outOfFuel =>
    refine .inr (.inr ⟨?_, ?_⟩)
    · cases trap : p.trap? <;> simp [Pending.guard, trap, Comp.catchZero, performed]
    · cases trap : p'.trap? <;> simp [Pending.guard, trap, Comp.catchZero, performed']

private theorem agree_finish (lock : Lockstep c c' R)
    (ih : ∀ {σ : Kind} (t t' : Task σ) (k k' : Stack ρ σ) (s s' : State), k.Alike k' →
      R (.run t k s) (.run t' k' s') →
      Agree R k k' (t.perform fuel c s) (t'.perform fuel c' s'))
    (n : Nat) (next next' : Next τ) {k k' : Stack ρ τ} (stack : k.Alike k') (s s' : State)
    (deep : next.depth ≤ n) (h : R (follow k next s) (follow k' next' s')) :
    Agree R k k' (next.finish fuel n c s) (next'.finish fuel n c' s') := by
  induction n generalizing next next' s s' with
  | zero =>
    cases lock.next_alike stack h with
    | give a a' => exact .ok a a' s s' h
    | goto t t' => exact ih t t' k k' s s' stack h
    | enter t t' p p' _ => cases p <;> simp at deep
  | succ n more =>
    cases lock.next_alike stack h with
    | give a a' => exact .ok a a' s s' h
    | goto t t' => exact ih t t' k k' s s' stack h
    | enter t t' p p' traps =>
      have performed := ih t t' (.cons p k) (.cons p' k') s s' (.cons traps stack) h
      simp only [Next.finish, Comp.bind_apply]
      rcases agree_guard lock traps performed with
        ⟨a, a', s₁, s₁', waited, waited', related⟩ | ⟨f, s₁, s₁', waited, waited', related⟩ |
        ⟨waited, waited'⟩
      · rw [waited, waited']
        dsimp only
        have shallower := does_resume p a c s₁
        have onward : Onward R k k' (p.resume a c s₁) (p'.resume a' c' s₁') := by
          refine lock.onward related rfl rfl fun none => ?_
          rw [none] at shallower
          exact shallower
        generalize resumed : p.resume a c s₁ = o at shallower onward
        generalize p'.resume a' c' s₁' = o' at onward
        cases onward with
        | ok next next' s₂ s₂' later =>
          have shallower := shallower.1.1
          simp only [Next.depth] at deep
          exact more next next' s₂ s₂' (by omega) later
        | stop f s₂ s₂' later => exact .stop f s₂ s₂' later
      · rw [waited, waited']
        exact .stop f s₁ s₁' related
      · rw [waited, waited']
        exact .outOfFuel

private theorem Lockstep.agree_perform (lock : Lockstep c c' R) (fuel : Nat) (t t' : Task σ)
    (k k' : Stack ρ σ) (s s' : State) (stack : k.Alike k')
    (h : R (.run t k s) (.run t' k' s')) :
    Agree R k k' (t.perform fuel c s) (t'.perform fuel c' s') := by
  induction fuel generalizing σ s s' with
  | zero => cases t <;> cases t' <;> exact .outOfFuel
  | succ fuel ih =>
    rw [perform_succ, perform_succ, Comp.bind_apply, Comp.bind_apply]
    have started := does_start t c s
    have onward : Onward R k k' (t.start c s) (t'.start c' s') := by
      refine lock.onward h rfl rfl fun none => ?_
      rw [none] at started
      exact started
    generalize t.start c s = o at started onward
    generalize t'.start c' s' = o' at onward
    cases onward with
    | ok next next' s₁ s₁' later =>
      exact agree_finish lock ih 2 next next' stack s₁ s₁' started.1.1 later
    | stop f s₁ s₁' later => exact .stop f s₁ s₁' later

theorem Lockstep.after (lock : Lockstep c c' R) {x y x' : Config ρ} (h : R x y) {n : Nat}
    (hx : after c n x = some x') : ∃ y', Config.after c' n y = some y' ∧ R x' y' := by
  induction n generalizing x y with
  | zero =>
    cases hx
    exact ⟨y, rfl, h⟩
  | succ n ih =>
    obtain ⟨z, stepped, rest⟩ := Option.bind_eq_some_iff.mp hx
    obtain ⟨w, stepped', related⟩ := lock.step x y z h stepped
    obtain ⟨y', rest', later⟩ := ih related rest
    exact ⟨y', by simp only [Config.after, stepped', Option.bind_some, rest'], later⟩

end Lockstep

end Config

open Config

theorem Config.Lockstep.runProgram_eq {program program' : Program} {session : Session}
    {R : Config .cell → Config .cell → Prop}
    (lock : Lockstep (program.context session.setup) (program'.context session.setup) R)
    (start : R (first session.channels) (first session.channels)) :
    session.runProgram program' = session.runProgram program := by
  have agree := lock.agree_perform runFuel _ _ _ _ _ _ .nil start
  unfold Session.runProgram Program.run
  generalize performed : Task.perform runFuel (.call "main" []) (program.context session.setup)
    (State.initial session.channels) = o at agree
  generalize performed' : Task.perform runFuel (.call "main" []) (program'.context session.setup)
    (State.initial session.channels) = o' at agree
  have called : call runFuel "main" [] ⟨session.setup, program.funcs⟩
    (State.initial session.channels) = o := performed
  have called' : call runFuel "main" [] ⟨session.setup, program'.funcs⟩
    (State.initial session.channels) = o' := performed'
  rw [called, called']
  cases agree with
  | ok a a' s s' related =>
    have same : s'.channels = s.channels := lock.channels _ _ related
    simp only [same]
  | stop f s s' related =>
    have same : s'.channels = s.channels := lock.channels _ _ related
    simp only [same]
  | outOfFuel => rfl

end CallByNeed.Language
