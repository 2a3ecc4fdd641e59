import CallByNeed.Proofs.Machine.Outcome

set_option autoImplicit false
set_option relaxedAutoImplicit false

/-!
Returning from a task. In the middle of a run a task stands above the pending steps of what has led
to it, and returns when its answer is handed on to them. Until then these pending steps do not
matter: the task runs as it would on its own.
-/

namespace CallByNeed.Language

variable {ρ π σ τ : Kind}

def Stack.onto : {σ : Kind} → Stack π σ → Stack ρ π → Stack ρ σ
  | _, .nil, below => below
  | _, .cons p k, below => .cons p (k.onto below)

def Stack.height : {σ : Kind} → Stack ρ σ → Nat
  | _, .nil => 0
  | _, .cons _ k => k.height + 1

private theorem Stack.height_onto (below : Stack ρ π) (k : Stack π σ) :
    (k.onto below).height = k.height + below.height := by
  induction k with
  | nil => exact (Nat.zero_add _).symm
  | cons p k ih =>
    simp only [onto, height, ih]
    omega

namespace Config

variable {c : Context}

/-- A moment with further pending steps below all others. -/
def onto (below : Stack ρ π) : Config π → Config ρ
  | .run t k s => .run t (k.onto below) s
  | .done a k s => .done a (k.onto below) s
  | .fault f k s => .fault f (k.onto below) s

def height : Config ρ → Nat
  | .run _ k _ => k.height
  | .done _ k _ => k.height
  | .fault _ k _ => k.height

/-- No answer is handed on to the pending steps below that height. -/
def within (n : Nat) : Config ρ → Bool
  | .done _ k _ => n < k.height
  | _ => true

/-- A task that has neither ended nor stopped. -/
def Active : Config ρ → Prop
  | .run _ _ _ => True
  | .done _ k _ => 0 < k.height
  | .fault _ _ _ => False

private theorem calm_onto (below : Stack ρ π) (x : Config π) : (x.onto below).calm = x.calm := by
  cases x <;> rfl

private theorem proceed_onto (below : Stack ρ π) (k : Stack π τ) (o : Outcome (Next τ)) :
    proceed (k.onto below) o = (proceed k o).map (onto below) := by
  cases o with
  | ok next s => cases next <;> rfl
  | stop f s => rfl
  | outOfFuel => rfl

/-- The pending steps below do not matter to a task that has not ended. -/
theorem step_onto (below : Stack ρ π) {x : Config π} (active : x.Active) :
    (x.onto below).step c = (x.step c).map (onto below) := by
  cases x with
  | run t k s => exact proceed_onto below k _
  | done a k s =>
    cases k with
    | nil => exact absurd active (Nat.lt_irrefl 0)
    | cons p k => exact proceed_onto below k _
  | fault f k s => exact active.elim

private theorem eq_done_of_onto {below : Stack ρ π} {x : Config π} {a : π.Answer} {s : State}
    (h : x.onto below = .done a below s) : x = .done a .nil s := by
  have height := congrArg Config.height h
  cases x with
  | run t k s₁ => cases h
  | fault f k s₁ => cases h
  | done b k s₁ =>
    cases k with
    | nil =>
      cases h
      rfl
    | cons p k =>
      simp only [onto, Config.height, Stack.height_onto] at height
      simp only [Stack.height] at height
      omega

end Config

open Config

/-- A task returns: its answer is handed on to the pending steps below, and no division by zero has
been turned into an exception meanwhile. -/
def Task.Returns (c : Context) (t : Task σ) (k : Stack ρ σ) (s : State) (a : σ.Answer)
    (s' : State) : Prop :=
  Reaches c (fun x => x.Untrapped ∧ x.within k.height = true) (.run t k s) (.done a k s')

theorem Task.returns_of_walk {c : Context} {t : Task σ} {k : Stack ρ σ} {s s' : State}
    {a : σ.Answer} {n : Nat}
    (h : walk c (fun x => x.calm && x.within k.height) n (.run t k s) = some (.done a k s')) :
    t.Returns c k s a s' := by
  refine (reaches_of_walk h).mono fun x test => ?_
  rw [Bool.and_eq_true] at test
  exact ⟨untrapped_of_calm test.1, test.2⟩

theorem Task.Returns.alone {c : Context} {t : Task π} {below : Stack ρ π} {s s' : State}
    {a : π.Answer} (returns : t.Returns c below s a s') :
    Reaches c Untrapped (.run t .nil s) (.done a .nil s') := by
  suffices lifted : ∀ {z : Config ρ},
      Reaches c (fun x => x.Untrapped ∧ x.within below.height = true) z (.done a below s') →
      ∀ x : Config π, z = x.onto below → Reaches c Untrapped x (.done a .nil s') from
    lifted returns (.run t .nil s) rfl
  intro z reached
  induction reached using Relation.ReflTransGen.head_induction_on with
  | refl =>
    intro x same
    rw [eq_done_of_onto same.symm]
    exact .refl
  | @head z y move rest ih =>
    intro x same
    subst same
    obtain ⟨⟨untrapped, within⟩, step⟩ := move
    have onward := Reaches.head untrapped step (Reaches.mono (fun _ moment => moment.1) rest)
    have calm : x.calm = true := calm_onto below x ▸ calm_of_reaches onward rfl
    have active : x.Active := by
      cases x with
      | run t k s => trivial
      | done b k s =>
        simp only [onto, Config.within, Stack.height_onto, decide_eq_true_eq] at within
        exact Nat.pos_of_lt_add_left within
      | fault f k s => cases calm
    rw [step_onto below active] at step
    obtain ⟨y', moved, rfl⟩ := Option.map_eq_some_iff.mp step
    exact .head (untrapped_of_calm calm) moved (ih y' rfl)

end CallByNeed.Language
