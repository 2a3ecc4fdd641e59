import CallByNeed.Proofs.Exception.Unwind

set_option autoImplicit false
set_option relaxedAutoImplicit false

/-!
The count of `try` bodies. A `try` that catches an exception is not counted off, so at every moment
the count is the number of `try` bodies that are being executed and of the catchers that have been
entered so far. The pending step below all others is that of the main function.
-/

namespace CallByNeed.Language

variable {ρ σ τ : Kind}

@[simp]
def Stack.IsNil : {σ : Kind} → Stack ρ σ → Prop
  | _, .nil => True
  | _, .cons _ _ => False

theorem Stack.not_isNil_of_ne {k : Stack ρ σ} (other : σ ≠ ρ) : ¬ k.IsNil := by
  cases k with
  | nil => exact absurd rfl other
  | cons p k => exact id

/-- Pending steps of which the one below all others checks whether a `try` body counts. -/
@[simp]
def Stack.Based : {σ : Kind} → Stack ρ σ → Prop
  | _, .nil => True
  | _, .cons p k => (k.IsNil → p.checks = true) ∧ k.Based

theorem Stack.Based.checks {k : Stack ρ σ} (based : k.Based) (some : ¬ k.IsNil) :
    k.checks = true := by
  induction k with
  | nil => simp at some
  | @cons σ τ p k ih =>
    rw [Stack.checks, Bool.or_eq_true]
    by_cases bottom : k.IsNil
    · exact .inl (based.1 bottom)
    · exact .inr (ih based.2 bottom)

@[simp]
def Task.IsMain : {σ : Kind} → Task σ → Prop
  | _, .call name _ => name = "main"
  | _, _ => False

namespace Config

variable {c : Context} {x y : Config ρ}

inductive Catches : Config ρ → Prop where
  | intro {catchers : List (Catcher Stmt)} {exception : Option String} {catcher : Catcher Stmt}
    {k : Stack ρ .flow} {s : State}
    (found : catchers.find? (fun c => some c.exception = exception) = some catcher) :
    Catches (.done (.raised exception : Kind.flow.Answer) (.cons (.handle catchers) k) s)

/-- The count exceeds the number of `try` bodies that are being executed by `d`. -/
def Counted (d : Nat) : Config ρ → Prop
  | .run _ k s => s.tryDepth = k.tries + d
  | .done _ k s => s.tryDepth = k.tries + d
  | .fault .divisionByZero k s => s.tryDepth = k.tries + d
  | .fault _ _ _ => True

private theorem counted_follow {d : Nat} {k : Stack ρ τ} {next : Next τ} {s : State}
    (h : s.tryDepth = next.tries + k.tries + d) : (follow k next s).Counted d := by
  cases next with
  | give a => simpa [follow, Counted] using h
  | goto t => simpa [follow, Counted] using h
  | enter t p => simpa [follow, Counted] using h

private theorem counted_fault {d : Nat} {f : Fault} {k : Stack ρ τ} {s : State}
    (h : s.tryDepth = k.tries + d) : (fault f k s).Counted d := by
  cases f <;> first | exact h | trivial

private theorem counted_start {d : Nat} {t : Task σ} {k : Stack ρ σ} {s : State}
    (h : s.tryDepth = k.tries + d) (hy : proceed k (t.start c s) = some y) : y.Counted d := by
  have steady : t.tries = 0 → y.Counted d := by
    intro none
    have does := does_start t c s
    have uncounted : ¬ t.effects.counts := fun one => absurd (none.symm.trans one) (by decide)
    cases started : t.start c s with
    | ok next s' =>
      simp only [started, proceed, Option.some.injEq] at hy does
      obtain ⟨leads, changes⟩ := does
      subst hy
      refine counted_follow ?_
      rw [changes.count uncounted, leads.2.1, none, h]
      omega
    | stop f s' =>
      simp only [started, proceed, Option.some.injEq] at hy does
      subst hy
      exact counted_fault ((does.count uncounted).trans h)
    | outOfFuel => simp [started, proceed] at hy
  cases t with
  | stmt st =>
    cases st with
    | attempt body catchers =>
      obtain rfl := Option.some.inj hy
      refine counted_follow ?_
      simp only [Next.tries, Pending.tries]
      omega
    | _ => exact steady rfl
  | _ => exact steady rfl

private theorem counted_resume {d : Nat} {p : Pending σ τ} {a : σ.Answer} {k : Stack ρ τ}
    {s : State} (h : s.tryDepth = p.tries + k.tries + d)
    (hy : proceed k (p.resume a c s) = some y) :
    ¬ (done a (.cons p k) s).Catches ∧ y.Counted d ∨
      (done a (.cons p k) s).Catches ∧ y.Counted (d + 1) := by
  have steady : p.tries = 0 → y.Counted d := by
    intro none
    have does := does_resume p a c s
    have uncounted : ¬ p.effects.counts := fun one => absurd (none.symm.trans one) (by decide)
    rw [none] at h
    cases resumed : p.resume a c s with
    | ok next s' =>
      simp only [resumed, proceed, Option.some.injEq] at hy does
      obtain ⟨follows, changes⟩ := does
      subst hy
      refine counted_follow ?_
      rw [changes.count uncounted, follows.2.1, h]
    | stop f s' =>
      simp only [resumed, proceed, Option.some.injEq] at hy does
      subst hy
      exact counted_fault ((does.count uncounted).trans (by omega))
    | outOfFuel => simp [resumed, proceed] at hy
  cases p with
  | handle catchers =>
    simp only [Pending.tries] at h
    cases a with
    | raised exception =>
      cases found : catchers.find? (fun c => some c.exception = exception) with
      | some catcher =>
        refine .inr ⟨.intro found, ?_⟩
        simp only [Pending.resume, resumeHandle, found] at hy
        obtain rfl := Option.some.inj hy
        refine counted_follow ?_
        simp only [Next.tries]
        omega
      | none =>
        refine .inl ⟨?_, ?_⟩
        · rintro ⟨found'⟩
          simp [found] at found'
        · simp only [Pending.resume, resumeHandle, found, leaveTry, Comp.bind_apply,
            Comp.step_apply] at hy
          split at hy
          · obtain rfl := Option.some.inj hy
            trivial
          · obtain rfl := Option.some.inj hy
            refine counted_follow ?_
            simp only [Next.tries]
            omega
    | next =>
      refine .inl ⟨by rintro ⟨⟩, ?_⟩
      obtain rfl := Option.some.inj hy
      refine counted_follow ?_
      simp only [Next.tries]
      omega
    | returned cell =>
      refine .inl ⟨by rintro ⟨⟩, ?_⟩
      obtain rfl := Option.some.inj hy
      refine counted_follow ?_
      simp only [Next.tries]
      omega
  | _ => exact .inl ⟨by rintro ⟨⟩, steady rfl⟩

theorem counted_step {d : Nat} (counted : x.Counted d) (h : x.step c = some y) :
    ¬ x.Catches ∧ y.Counted d ∨ x.Catches ∧ y.Counted (d + 1) := by
  cases x with
  | run t k s => exact .inl ⟨by rintro ⟨⟩, counted_start counted h⟩
  | done a k s =>
    cases k with
    | nil => simp [step] at h
    | cons p k => exact counted_resume (by simpa [Counted] using counted) h
  | fault f k s =>
    refine .inl ⟨by rintro ⟨⟩, ?_⟩
    cases k with
    | nil => simp [step] at h
    | cons p k =>
      simp only [step, Option.some.injEq] at h
      subst h
      cases f with
      | divisionByZero =>
        have counted : s.tryDepth = p.tries + k.tries + d := counted
        cases p with
        | handle catchers => exact counted
        | _ => simpa [escape, Pending.trap?, Counted] using counted
      | _ => trivial

theorem counted_first (channels : Channels) : (first channels).Counted 0 := rfl

/-- At every moment the count is at least the number of `try` bodies that are being executed. -/
theorem exists_counted {channels : Channels} {x : Config .cell}
    (h : Reaches c Any (first channels) x) : ∃ d, x.Counted d := by
  induction h with
  | refl => exact ⟨0, counted_first channels⟩
  | tail _ move ih =>
    obtain ⟨d, counted⟩ := ih
    rcases counted_step counted move.2 with ⟨_, same⟩ | ⟨_, more⟩
    · exact ⟨d, same⟩
    · exact ⟨d + 1, more⟩

/-- All pending steps of a run are those of the main function and of what it leads to. -/
def Based : Config ρ → Prop
  | .run t k _ => k.Based ∧ (k.IsNil → t.IsMain)
  | .done _ k _ => k.Based
  | .fault _ k _ => k.Based

private theorem does_main {t : Task .cell} (main : t.IsMain) :
    Comp.Does t.start t.effects fun next => ∃ body, next = .enter (.block body) .leave := by
  cases t with
  | call name args =>
    obtain rfl : name = "main" := main
    refine Comp.does_bind Comp.does_context fun c => ?_
    split
    · exact Comp.does_fail _
    · next func _ =>
      exact (does_enterFunc (by simp) func args).mono fun next entered => ⟨func.body, entered⟩

private theorem does_leave (flow : Flow) :
    Comp.Does (Pending.leave.resume flow) Pending.leave.effects
      fun next => next = .give flow.answer := by
  refine Comp.does_bind (Comp.does_step fun c s => .refl _ c s) fun depth => ?_
  split
  · exact Comp.does_fail _
  · refine Comp.does_bind (Comp.does_onScopes fun u => u.uses_both _) fun _ => ?_
    cases flow <;> exact Comp.does_pure rfl

private theorem based_follow {k : Stack ρ τ} (based : k.Based) (some : ¬ k.IsNil) (next : Next τ)
    (s : State) : (follow k next s).Based := by
  cases next with
  | give a => exact based
  | goto t => exact ⟨based, fun bottom => absurd bottom some⟩
  | enter t p => exact ⟨⟨fun bottom => absurd bottom some, based⟩, fun bottom => bottom.elim⟩

theorem based_step {x y : Config .cell} (based : x.Based) (h : x.step c = some y) : y.Based := by
  cases x with
  | run t k s =>
    cases started : t.start c s with
    | ok next s' =>
      simp only [step, started, proceed, Option.some.injEq] at h
      subst h
      by_cases bottom : k.IsNil
      · cases k with
        | cons p k => exact bottom.elim
        | nil =>
          have main := does_main (based.2 bottom) c s
          simp only [started] at main
          obtain ⟨⟨body, rfl⟩, _⟩ := main
          exact ⟨⟨fun _ => rfl, trivial⟩, fun bottom => bottom.elim⟩
      · exact based_follow based.1 bottom next s'
    | stop f s' =>
      simp only [step, started, proceed, Option.some.injEq] at h
      subst h
      exact based.1
    | outOfFuel => simp [step, started, proceed] at h
  | done a k s =>
    cases k with
    | nil => simp [step] at h
    | @cons σ τ p k =>
      have based : (k.IsNil → p.checks = true) ∧ k.Based := based
      cases resumed : p.resume a c s with
      | ok next s' =>
        simp only [step, resumed, proceed, Option.some.injEq] at h
        subst h
        by_cases bottom : k.IsNil
        · cases k with
          | cons p k => exact bottom.elim
          | nil =>
            have checks := based.1 trivial
            cases p with
            | leave =>
              have given := does_leave a c s
              simp only [resumed] at given
              obtain ⟨rfl, _⟩ := given
              trivial
            | _ => simp at checks
        · exact based_follow based.2 bottom next s'
      | stop f s' =>
        simp only [step, resumed, proceed, Option.some.injEq] at h
        subst h
        exact based.2
      | outOfFuel => simp [step, resumed, proceed] at h
  | fault f k s =>
    cases k with
    | nil => simp [step] at h
    | cons p k =>
      simp only [step, Option.some.injEq] at h
      subst h
      unfold escape
      split
      · exact based
      · exact based.2

theorem counts_of_step_to_raised {x : Config .cell} {exception : Option String} {s : State}
    (based : x.Based)
    (h : x.step c = some (.done (.raised exception : Kind.cell.Answer) .nil s)) :
    ∃ s₀, x = .done (.raised exception : Kind.flow.Answer) (.cons .leave .nil) s₀ ∧
      s₀.tryDepth ≠ 0 := by
  cases x with
  | run t k s₀ =>
    cases started : t.start c s₀ with
    | ok next s' =>
      simp only [step, started, proceed, Option.some.injEq] at h
      cases next with
      | give a =>
        cases h
        have main := does_main (based.2 trivial) c s₀
        simp [started] at main
      | goto t => cases h
      | enter t p => cases h
    | stop f s' => simp [step, started, proceed] at h
    | outOfFuel => simp [step, started, proceed] at h
  | done a k s₀ =>
    cases k with
    | nil => simp [step] at h
    | @cons σ τ p k =>
      cases resumed : p.resume a c s₀ with
      | ok next s' =>
        simp only [step, resumed, proceed, Option.some.injEq] at h
        cases next with
        | give b =>
          cases h
          have checks : p.checks = true := based.1 trivial
          cases p with
          | leave =>
            have given := does_leave a c s₀
            simp only [resumed, Next.give.injEq] at given
            replace given := given.1
            cases a with
            | raised raised =>
              cases given
              refine ⟨s₀, rfl, fun none => ?_⟩
              rw [Pending.resume, resumeLeave_uncaught none] at resumed
              cases resumed
            | returned cell => cases given
            | next => cases given
          | _ => simp at checks
        | goto t => cases h
        | enter t p => cases h
      | stop f s' => simp [step, resumed, proceed] at h
      | outOfFuel => simp [step, resumed, proceed] at h
  | fault f k s₀ =>
    cases k with
    | nil => simp [step] at h
    | cons p k =>
      simp only [step, Option.some.injEq, escape] at h
      split at h <;> cases h

theorem based_first (channels : Channels) : (first channels).Based :=
  ⟨trivial, fun _ => rfl⟩

end Config

end CallByNeed.Language
