import CallByNeed.Proofs.Machine.Evaluator

set_option autoImplicit false
set_option relaxedAutoImplicit false

/-!
Outcomes of runs. A call of the evaluator that ends is a run of its task to the same end, a call
that runs out of fuel is a run that is at least as long as the fuel, and so a run that ends is the
call with any sufficient fuel.
-/

namespace CallByNeed.Language

namespace Config

variable {ρ σ τ : Kind} {c : Context}

def arrive (k : Stack ρ σ) : Outcome σ.Answer → Option (Config ρ)
  | .ok a s => some (.done a k s)
  | .stop f s => some (.fault f k s)
  | .outOfFuel => none

theorem Reaches.head {P : Config ρ → Prop} {x y z : Config ρ} (hx : P x) (h : x.step c = some y)
    (hz : Reaches c P y z) : Reaches c P x z :=
  Relation.ReflTransGen.head ⟨hx, h⟩ hz

theorem Reaches.tail {P : Config ρ → Prop} {x y z : Config ρ} (hy : Reaches c P x y) (hP : P y)
    (h : y.step c = some z) : Reaches c P x z :=
  Relation.ReflTransGen.tail hy ⟨hP, h⟩

theorem Reaches.trans {P : Config ρ → Prop} {x y z : Config ρ} (hy : Reaches c P x y)
    (hz : Reaches c P y z) : Reaches c P x z :=
  Relation.ReflTransGen.trans hy hz

theorem Reaches.mono {P Q : Config ρ → Prop} {x y : Config ρ} (hPQ : ∀ z, P z → Q z)
    (h : Reaches c P x y) : Reaches c Q x y :=
  Relation.ReflTransGen.mono (fun _ _ m => And.intro (hPQ _ m.1) m.2) _ _ h

theorem Reaches.any {P : Config ρ → Prop} {x y : Config ρ} (h : Reaches c P x y) :
    Reaches c Any x y :=
  h.mono fun _ _ => trivial

private theorem Reaches.total {P Q : Config ρ → Prop} {x y z : Config ρ} (hy : Reaches c P x y)
    (hz : Reaches c Q x z) : Reaches c Any y z ∨ Reaches c Any z y := by
  refine Relation.ReflTransGen.total_of_right_unique ?_ hy.any hz.any
  intro x y z hy hz
  have same : some y = some z := hy.2.symm.trans hz.2
  exact Option.some.inj same

theorem Reaches.met_or_not {x y : Config ρ} (h : Reaches c Any x y) (P : Config ρ → Prop) :
    (∃ z, Reaches c Any x z ∧ P z) ∨ Reaches c (fun z => ¬ P z) x y := by
  induction h with
  | refl => exact .inr .refl
  | @tail y z reached move ih =>
    rcases ih with met | without
    · exact .inl met
    · by_cases here : P y
      · exact .inl ⟨y, reached, here⟩
      · exact .inr (without.tail here move.2)

private theorem Reaches.eq_of_last {P : Config ρ → Prop} {x y : Config ρ} (h : Reaches c P x y)
    (last : x.step c = none) : y = x := by
  rcases Relation.ReflTransGen.cases_head h with same | ⟨z, move, _⟩
  · exact same.symm
  · have impossible := last.symm.trans move.2
    cases impossible

theorem Reaches.last_unique {P Q : Config ρ → Prop} {x y z : Config ρ} (hy : Reaches c P x y)
    (hz : Reaches c Q x z) (lastY : y.step c = none) (lastZ : z.step c = none) : y = z := by
  rcases hy.total hz with h | h
  · exact (h.eq_of_last lastY).symm
  · exact h.eq_of_last lastZ

/-- The moment after so many steps. -/
def after (c : Context) : Nat → Config ρ → Option (Config ρ)
  | 0, x => some x
  | n + 1, x => (x.step c).bind (after c n)

theorem after_add (m n : Nat) (x : Config ρ) :
    after c (m + n) x = (after c m x).bind (after c n) := by
  induction m generalizing x with
  | zero => simp [after]
  | succ m ih =>
    rw [Nat.succ_add]
    simp only [after]
    cases x.step c with
    | none => rfl
    | some y => exact ih y

private theorem exists_after_of_reaches {P : Config ρ → Prop} {x y : Config ρ}
    (h : Reaches c P x y) :
    ∃ n, after c n x = some y := by
  induction h using Relation.ReflTransGen.head_induction_on with
  | refl => exact ⟨0, rfl⟩
  | head move _ ih =>
    obtain ⟨n, hn⟩ := ih
    exact ⟨n + 1, by simp [after, move.2, hn]⟩

theorem reaches_of_after {n : Nat} {x y : Config ρ} (h : after c n x = some y) :
    Reaches c Any x y := by
  induction n generalizing x with
  | zero =>
    obtain rfl := Option.some.inj h
    exact .refl
  | succ n ih =>
    obtain ⟨z, first, rest⟩ := Option.bind_eq_some_iff.mp h
    exact .head trivial first (ih rest)

/-- The moment after so many steps, if all moments before it pass a test. -/
def walk (c : Context) (test : Config ρ → Bool) : Nat → Config ρ → Option (Config ρ)
  | 0, x => some x
  | n + 1, x => if test x then (x.step c).bind (walk c test n) else none

theorem reaches_of_walk {test : Config ρ → Bool} {n : Nat} {x y : Config ρ}
    (h : walk c test n x = some y) : Reaches c (fun x => test x = true) x y := by
  induction n generalizing x with
  | zero =>
    obtain rfl := Option.some.inj h
    exact .refl
  | succ n ih =>
    rw [walk] at h
    split at h
    · next passed =>
      obtain ⟨z, first, rest⟩ := Option.bind_eq_some_iff.mp h
      exact .head passed first (ih rest)
    · cases h

theorem forall_of_walk {test : Config ρ → Bool} {n : Nat} {x y z : Config ρ}
    (h : walk c test n x = some y) (last : y.step c = none) (passed : test y = true)
    (hz : Reaches c Any x z) : test z = true := by
  induction n generalizing x with
  | zero =>
    obtain rfl := Option.some.inj h
    rwa [hz.eq_of_last last]
  | succ n ih =>
    rw [walk] at h
    split at h
    · next here =>
      obtain ⟨x', first, rest⟩ := Option.bind_eq_some_iff.mp h
      rcases Relation.ReflTransGen.cases_head hz with rfl | ⟨x'', move, later⟩
      · exact here
      · obtain rfl : x' = x'' := Option.some.inj (first.symm.trans move.2)
        exact ih rest later
    · cases h

def calm : Config ρ → Bool
  | .fault _ _ _ => false
  | _ => true

theorem untrapped_of_calm {x : Config ρ} (h : x.calm = true) : x.Untrapped := by
  cases x with
  | run t k s => exact id
  | done a k s => exact id
  | fault f k s => cases h

/-- A fault that is on its way out stays so, unless it is turned into an exception. -/
theorem calm_of_reaches {x y : Config ρ} (h : Reaches c Untrapped x y) (calm : y.calm = true) :
    x.calm = true := by
  induction h using Relation.ReflTransGen.head_induction_on with
  | refl => exact calm
  | @head x z move _ ih =>
    cases x with
    | run t k s => rfl
    | done a k s => rfl
    | fault f k s =>
      cases k with
      | nil => cases move.2
      | cons p k =>
        obtain rfl := Option.some.inj move.2
        rw [escape_of_untrapped move.1] at ih
        exact ih

private theorem after_ne_none_of_le {m n : Nat} {x : Config ρ} (hle : m ≤ n)
    (h : after c n x ≠ none) :
    after c m x ≠ none := by
  intro hm
  obtain ⟨d, rfl⟩ := Nat.exists_eq_add_of_le hle
  rw [after_add, hm] at h
  exact h rfl

private theorem after_ne_none_of_reaches {P : Config ρ → Prop} {n : Nat} {x y : Config ρ}
    (h : Reaches c P x y) (hy : after c n y ≠ none) : after c n x ≠ none := by
  obtain ⟨m, hm⟩ := exists_after_of_reaches h
  refine after_ne_none_of_le (Nat.le_add_left n m) ?_
  rw [after_add, hm]
  exact hy

end Config

open Config

section Agreement

variable {ρ σ τ : Kind} {c : Context} {fuel : Nat}

private theorem perform_zero (t : Task σ) (s : State) : t.perform 0 c s = .outOfFuel := by
  cases t <;> rfl

private theorem reaches_guard (c : Context) (fuel : Nat) (p : Pending σ τ) (k : Stack ρ τ)
    (t : Task σ) (s : State)
    (inner : ∀ y, arrive (.cons p k) (t.perform fuel c s) = some y →
      Reaches c Any (.run t (.cons p k) s) y) :
    match p.guard (t.perform fuel) c s with
    | .ok a s' => Reaches c Any (.run t (.cons p k) s) (.done a (.cons p k) s')
    | .stop f s' => Reaches c Any (.run t (.cons p k) s) (.fault f k s')
    | .outOfFuel => t.perform fuel c s = .outOfFuel := by
  cases performed : t.perform fuel c s with
  | ok a s' =>
    have arrived := inner (.done a (.cons p k) s') (by rw [performed]; rfl)
    cases trapped : p.trap? <;>
      simpa [Pending.guard, trapped, Comp.catchZero, performed] using arrived
  | stop f s' =>
    have arrived := inner (.fault f (.cons p k) s') (by rw [performed]; rfl)
    have escaped := arrived.tail trivial rfl
    cases trapped : p.trap? with
    | none => cases f <;> simpa [Pending.guard, trapped, performed, escape] using escaped
    | some a =>
      cases f <;> simpa [Pending.guard, trapped, Comp.catchZero, performed, escape] using escaped
  | outOfFuel =>
    cases trapped : p.trap? <;> simp [Pending.guard, trapped, Comp.catchZero, performed]

private theorem reaches_finish
    (ih : ∀ {σ : Kind} (t : Task σ) (k : Stack ρ σ) (s : State) (y : Config ρ),
      arrive k (t.perform fuel c s) = some y → Reaches c Any (.run t k s) y)
    (n : Nat) (next : Next τ) (k : Stack ρ τ) (s : State) (y : Config ρ)
    (deep : next.depth ≤ n) (h : arrive k (next.finish fuel n c s) = some y) :
    Reaches c Any (follow k next s) y := by
  induction n generalizing next s with
  | zero =>
    cases next with
    | give a =>
      cases h
      exact .refl
    | goto t => exact ih t k s y h
    | enter t p => cases p <;> simp at deep
  | succ n more =>
    cases next with
    | give a =>
      cases h
      exact .refl
    | goto t => exact ih t k s y h
    | enter t p =>
      have waited := reaches_guard c fuel p k t s (ih t (.cons p k) s)
      simp only [Next.finish, Comp.bind_apply] at h
      cases guarded : p.guard (t.perform fuel) c s with
      | outOfFuel => simp [guarded, arrive] at h
      | stop f s' =>
        simp only [guarded, arrive, Option.some.injEq] at h waited
        exact h ▸ waited
      | ok a s' =>
        simp only [guarded] at h waited
        have shallower := does_resume p a c s'
        cases resumed : p.resume a c s' with
        | outOfFuel => simp [resumed] at shallower
        | stop f s'' =>
          simp only [resumed, arrive, Option.some.injEq] at h
          refine h ▸ waited.tail trivial ?_
          simp [step, resumed, proceed]
        | ok next' s'' =>
          simp only [resumed] at h shallower
          have shallower := shallower.1.1
          simp only [Next.depth] at deep
          exact (waited.tail trivial (step_done resumed k)).trans (more next' s'' (by omega) h)

theorem reaches_perform (t : Task σ) (k : Stack ρ σ) (s : State) (y : Config ρ)
    (h : arrive k (t.perform fuel c s) = some y) : Reaches c Any (.run t k s) y := by
  induction fuel generalizing σ s y with
  | zero => simp [perform_zero, arrive] at h
  | succ fuel ih =>
    rw [perform_succ, Comp.bind_apply] at h
    have started := does_start t c s
    cases hs : t.start c s with
    | outOfFuel => simp [hs] at started
    | stop f s' =>
      simp only [hs, arrive, Option.some.injEq] at h
      refine h ▸ Reaches.head trivial ?_ .refl
      simp [step, hs, proceed]
    | ok next s' =>
      simp only [hs] at h started
      exact Reaches.head trivial (step_run hs k)
        (reaches_finish (fun t k s y => ih t k s y) 2 next k s' y started.1.1 h)

private theorem perform_eq_outOfFuel_of_guard (p : Pending σ τ) (t : Task σ) (s : State)
    (h : p.guard (t.perform fuel) c s = .outOfFuel) : t.perform fuel c s = .outOfFuel := by
  cases trapped : p.trap? with
  | none => simpa [Pending.guard, trapped] using h
  | some a =>
    simp only [Pending.guard, trapped, Comp.catchZero] at h
    cases performed : t.perform fuel c s with
    | ok b s' => simp [performed] at h
    | stop f s' => cases f <;> simp [performed] at h
    | outOfFuel => rfl

private theorem after_finish
    (ih : ∀ {σ : Kind} (t : Task σ) (k : Stack ρ σ) (s : State),
      t.perform fuel c s = .outOfFuel → after c fuel (.run t k s) ≠ none)
    (n : Nat) (next : Next τ) (k : Stack ρ τ) (s : State) (deep : next.depth ≤ n)
    (h : next.finish fuel n c s = .outOfFuel) : after c fuel (follow k next s) ≠ none := by
  induction n generalizing next s with
  | zero =>
    cases next with
    | give a => cases h
    | goto t => exact ih t k s h
    | enter t p => cases p <;> simp at deep
  | succ n more =>
    cases next with
    | give a => cases h
    | goto t => exact ih t k s h
    | enter t p =>
      have waited := reaches_guard c fuel p k t s fun y => reaches_perform t (.cons p k) s y
      simp only [Next.finish, Comp.bind_apply] at h
      cases guarded : p.guard (t.perform fuel) c s with
      | outOfFuel => exact ih t (.cons p k) s (perform_eq_outOfFuel_of_guard p t s guarded)
      | stop f s' => simp [guarded] at h
      | ok a s' =>
        simp only [guarded] at h waited
        have shallower := does_resume p a c s'
        cases resumed : p.resume a c s' with
        | outOfFuel => simp [resumed] at shallower
        | stop f s'' => simp [resumed] at h
        | ok next' s'' =>
          simp only [resumed] at h shallower
          have shallower := shallower.1.1
          simp only [Next.depth] at deep
          have goesOn := more next' s'' (by omega) h
          exact after_ne_none_of_reaches (waited.tail trivial (step_done resumed k)) goesOn

private theorem after_perform (t : Task σ) (k : Stack ρ σ) (s : State)
    (h : t.perform fuel c s = .outOfFuel) : after c fuel (.run t k s) ≠ none := by
  induction fuel generalizing σ s with
  | zero => simp [after]
  | succ fuel ih =>
    rw [perform_succ, Comp.bind_apply] at h
    have started := does_start t c s
    cases hs : t.start c s with
    | outOfFuel => simp [hs] at started
    | stop f s' => simp [hs] at h
    | ok next s' =>
      simp only [hs] at h started
      have goesOn := after_finish (fun t k s => ih t k s) 2 next k s' started.1.1 h
      simpa [after, step_run hs] using goesOn

theorem perform_of_reaches_last {t : Task ρ} {s : State} {o : Outcome ρ.Answer} {y : Config ρ}
    (h : Reaches c Any (.run t .nil s) y) (arrived : arrive .nil o = some y) :
    ∃ n, ∀ fuel, n ≤ fuel → t.perform fuel c s = o := by
  have last : ∀ {o : Outcome ρ.Answer} {z : Config ρ}, arrive .nil o = some z →
      z.step c = none := by
    intro o z arrived
    cases o <;> cases arrived <;> rfl
  obtain ⟨n, hn⟩ := exists_after_of_reaches h
  refine ⟨n + 1, fun fuel enough => ?_⟩
  cases performed : t.perform fuel c s with
  | outOfFuel =>
    have longer := after_ne_none_of_le enough (after_perform t .nil s performed)
    rw [after_add, hn] at longer
    simp [after, last arrived] at longer
  | ok a s' =>
    have reached := reaches_perform t .nil s (.done a .nil s') (by rw [performed]; rfl)
    have same := h.last_unique reached (last arrived) rfl
    cases o <;> cases arrived <;> cases same
    rfl
  | stop f s' =>
    have reached := reaches_perform t .nil s (.fault f .nil s') (by rw [performed]; rfl)
    have same := h.last_unique reached (last arrived) rfl
    cases o <;> cases arrived <;> cases same
    rfl

end Agreement

/-- A run of a program ends with an outcome, given sufficient fuel. -/
def Program.Ends (program : Program) (setup : Setup) (channels : Channels)
    (o : Outcome (Raising CellId)) : Prop :=
  ∃ n, ∀ fuel, n ≤ fuel →
    call fuel "main" [] (program.context setup) (State.initial channels) = o

namespace Program

open Config

variable {program : Program} {setup : Setup} {channels : Channels}

private theorem reaches_of_call {fuel : Nat} {o : Outcome (Raising CellId)} {y : Config .cell}
    (called : call fuel "main" [] (program.context setup) (State.initial channels) = o)
    (arrived : arrive (ρ := .cell) (σ := .cell) .nil o = some y) :
    Reaches (program.context setup) Any (first channels) y := by
  have performed : arrive (ρ := .cell) .nil ((Task.call "main" []).perform fuel
      (program.context setup) (State.initial channels)) = some y := by
    rw [Task.perform, called]
    exact arrived
  exact reaches_perform _ .nil _ y performed

theorem ends_ok_iff {a : Raising CellId} {s : State} :
    program.Ends setup channels (.ok a s) ↔
      Reaches (program.context setup) Any (first channels)
        (.done (a : Kind.cell.Answer) .nil s) := by
  constructor
  · rintro ⟨n, ends⟩
    exact reaches_of_call (ends n n.le_refl) rfl
  · exact fun reached => perform_of_reaches_last reached rfl

theorem ends_stop_iff {f : Fault} {s : State} :
    program.Ends setup channels (.stop f s) ↔
      Reaches (program.context setup) Any (first channels)
        (.fault f (.nil : Stack .cell .cell) s) := by
  constructor
  · rintro ⟨n, ends⟩
    exact reaches_of_call (ends n n.le_refl) rfl
  · exact fun reached => perform_of_reaches_last reached rfl

theorem Ends.unique {o o' : Outcome (Raising CellId)} (h : program.Ends setup channels o)
    (h' : program.Ends setup channels o') : o = o' := by
  obtain ⟨n, ends⟩ := h
  obtain ⟨n', ends'⟩ := h'
  rw [← ends (max n n') (Nat.le_max_left n n'), ends' (max n n') (Nat.le_max_right n n')]

theorem Ends.run {o : Outcome (Raising CellId)} (h : program.Ends setup channels o) :
    program.run setup channels = o ∨ program.run setup channels = .outOfFuel := by
  cases ran : program.run setup channels with
  | outOfFuel => exact .inr rfl
  | ok a s => exact .inl ((ends_ok_iff.mpr (reaches_of_call ran rfl)).unique h)
  | stop f s => exact .inl ((ends_stop_iff.mpr (reaches_of_call ran rfl)).unique h)

end Program

end CallByNeed.Language
