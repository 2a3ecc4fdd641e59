import CallByNeed.Proofs.Machine.Outcome

set_option autoImplicit false
set_option relaxedAutoImplicit false

/-!
Contracts. A contract says of each task what it needs and what it guarantees, relative to the cells
whose deferred expressions are being evaluated. It is checked task by task, for one start and the
pending steps that follow it, and then holds at every moment of a run in which no division by zero
is turned into an exception. A contract may build on another one that has been checked before.
-/

namespace CallByNeed.Language

variable {α β : Type} {ρ σ τ : Kind}

/-- The cells whose deferred expressions are being evaluated, the innermost first. -/
@[simp]
def Stack.busy : {σ : Kind} → Stack ρ σ → List CellId
  | _, .nil => []
  | _, .cons p k => p.busy ++ k.busy

/-- A result of a computation has a property, and so has a fault that stops it. -/
def Comp.Ensures (x : Comp α) (c : Context) (s : State) (F : Fault → Prop)
    (Q : α → State → Prop) : Prop :=
  match x c s with
  | .ok a s => Q a s
  | .stop f _ => F f
  | .outOfFuel => True

section Ensures

variable {c : Context} {s : State} {F : Fault → Prop}

@[simp]
theorem Comp.ensures_pure {Q : α → State → Prop} (a : α) :
    (pure a : Comp α).Ensures c s F Q ↔ Q a s := Iff.rfl

@[simp]
theorem Comp.ensures_stop {Q : α → State → Prop} (f : Fault) :
    (stop f : Comp α).Ensures c s F Q ↔ F f := Iff.rfl

@[simp]
theorem Comp.ensures_fail {Q : α → State → Prop} (e : LanguageError) :
    (fail e : Comp α).Ensures c s F Q ↔ F (.language e) := Iff.rfl

@[simp]
theorem Comp.ensures_step {Q : α → State → Prop} (f : State → α × State) :
    (step f).Ensures c s F Q ↔ Q (f s).1 (f s).2 := Iff.rfl

@[simp]
theorem Comp.ensures_modify {Q : Unit → State → Prop} (f : State → State) :
    (modify f).Ensures c s F Q ↔ Q () (f s) := Iff.rfl

@[simp]
theorem Comp.ensures_context {Q : Context → State → Prop} :
    context.Ensures c s F Q ↔ Q c s := Iff.rfl

@[simp]
theorem Comp.ensures_bind {Q : β → State → Prop} (x : Comp α) (f : α → Comp β) :
    (x >>= f).Ensures c s F Q ↔ x.Ensures c s F fun a s => (f a).Ensures c s F Q := by
  simp only [Ensures, bind_apply]
  cases x c s <;> rfl

theorem Comp.ensures_onScopes {Q : α → State → Prop} {f : Scopes → Scopes.Result α} {a : α}
    {u : Scopes} (h : f s.scopes = (.ok a, u)) :
    (onScopes f).Ensures c s F Q ↔ Q a { s with scopes := u } := by
  simp only [Ensures, onScopes_apply, h]

theorem Comp.Ensures.mono {x : Comp α} {G : Fault → Prop} {Q R : α → State → Prop}
    (h : x.Ensures c s F Q) (faults : ∀ f, F f → G f) (results : ∀ a s, Q a s → R a s) :
    x.Ensures c s G R := by
  unfold Ensures at *
  cases hx : x c s with
  | ok a s' => simpa [hx] using results a s' (by simpa [hx] using h)
  | stop f s' => simpa [hx] using faults f (by simpa [hx] using h)
  | outOfFuel => trivial

theorem Comp.Ensures.and {x : Comp α} {G : Fault → Prop} {Q R : α → State → Prop}
    (h : x.Ensures c s F Q) (h' : x.Ensures c s G R) :
    x.Ensures c s (fun f => F f ∧ G f) fun a s => Q a s ∧ R a s := by
  unfold Ensures at *
  cases hx : x c s with
  | ok a s' => simp only [hx] at h h' ⊢; exact ⟨h, h'⟩
  | stop f s' => simp only [hx] at h h' ⊢; exact ⟨h, h'⟩
  | outOfFuel => trivial

theorem Comp.ensures_apply {x : Comp α} :
    x.Ensures c s (fun _ => True) fun a s' => x c s = .ok a s' := by
  unfold Ensures
  cases x c s <;> trivial

theorem Comp.Does.ensures {x : Comp α} {E : Effects} {Q : α → Prop} (h : x.Does E Q) :
    x.Ensures c s (fun _ => True) fun a s' => Q a ∧ Changes E c s s' := by
  have does := h c s
  unfold Ensures
  cases hx : x c s with
  | ok a s' => simpa only [hx] using does
  | stop f s' => trivial
  | outOfFuel => trivial

theorem Comp.Ensures.proceed {x : Comp (Next τ)} {Q : Next τ → State → Prop} {k : Stack ρ τ}
    {y : Config ρ} (h : x.Ensures c s F Q) (hy : Config.proceed k (x c s) = some y) :
    (∃ next s', Q next s' ∧ y = .follow k next s') ∨ ∃ f s', F f ∧ y = .fault f k s' := by
  unfold Ensures at h
  cases hx : x c s with
  | ok next s' =>
    simp only [hx, Config.proceed, Option.some.injEq] at h hy
    exact .inl ⟨next, s', h, hy.symm⟩
  | stop f s' =>
    simp only [hx, Config.proceed, Option.some.injEq] at h hy
    exact .inr ⟨f, s', h, hy.symm⟩
  | outOfFuel => simp [hx, Config.proceed] at hy

end Ensures

/-- A task that is run on its own gives an answer. -/
def Task.Yields (t : Task σ) (c : Context) (s : State) (a : σ.Answer) (s' : State) : Prop :=
  Config.Reaches c Config.Any (.run t .nil s) (.done a .nil s')

/-- A moment at which no task without a property starts. -/
def Config.Starts (P : {σ : Kind} → Task σ → Prop) : Config ρ → Prop
  | .run t _ _ => P t
  | _ => True

/-- What tasks need and what they guarantee, what holds of the state when an answer of a kind is
handed on, and the faults that may stop a run. The list holds the cells whose deferred expressions
are being evaluated. -/
structure Contract where
  pre : {σ : Kind} → List CellId → Task σ → State → Prop
  post : {σ : Kind} → List CellId → Task σ → State → σ.Answer → State → Prop
  inv : Kind → List CellId → State → Prop
  allows : Fault → Prop

namespace Contract

def free : Contract where
  pre _ _ _ := True
  post _ _ _ _ _ := True
  inv _ _ _ := True
  allows _ := True

def both (A C : Contract) : Contract where
  pre B t s := A.pre B t s ∧ C.pre B t s
  post B t s a s' := A.post B t s a s' ∧ C.post B t s a s'
  inv σ B s := A.inv σ B s ∧ C.inv σ B s
  allows f := A.allows f ∧ C.allows f

def Answers (C : Contract) (B : List CellId) (t : Task σ) (s : State) (a : σ.Answer)
    (s' : State) : Prop :=
  C.post B t s a s' ∧ C.inv σ B s'

/-- It goes on as a contract allows, given what another contract says of the tasks, and an answer
then has a property. -/
def Meets (A C : Contract) (c : Context) (B : List CellId) (Q : τ.Answer → State → Prop) :
    Nat → Next τ → State → Prop
  | _, .give a, s => A.inv τ B s → C.inv τ B s ∧ Q a s
  | _, .goto t, s => A.pre B t s → C.pre B t s ∧
      ∀ a s', A.Answers B t s a s' → C.Answers B t s a s' → Q a s'
  | 0, .enter _ _, _ => False
  | n + 1, .enter t p, s => A.pre (p.busy ++ B) t s → C.pre (p.busy ++ B) t s ∧
      ∀ a s', A.Answers (p.busy ++ B) t s a s' → C.Answers (p.busy ++ B) t s a s' →
        (p.resume a).Ensures c s' C.allows (Meets A C c B Q n)

/-- A contract is kept by every task with a property, given what another contract says. -/
def Kept (A C : Contract) (c : Context) (P : {σ : Kind} → Task σ → Prop) : Prop :=
  ∀ (σ : Kind) (B : List CellId) (t : Task σ) (s : State), P t → A.pre B t s → C.pre B t s →
    t.start.Ensures c s C.allows (Meets A C c B (C.post B t s) 2)

variable {A C : Contract} {c : Context} {P : {σ : Kind} → Task σ → Prop} {B : List CellId}

@[simp]
theorem meets_give {Q : τ.Answer → State → Prop} {n : Nat} {a : τ.Answer} {s : State} :
    Meets A C c B Q n (.give a) s ↔ (A.inv τ B s → C.inv τ B s ∧ Q a s) := by
  cases n <;> rfl

@[simp]
theorem meets_goto {Q : τ.Answer → State → Prop} {n : Nat} {t : Task τ} {s : State} :
    Meets A C c B Q n (.goto t) s ↔ (A.pre B t s → C.pre B t s ∧
      ∀ a s', A.Answers B t s a s' → C.Answers B t s a s' → Q a s') := by
  cases n <;> rfl

@[simp]
theorem meets_enter {Q : τ.Answer → State → Prop} {n : Nat} {t : Task σ} {p : Pending σ τ}
    {s : State} :
    Meets A C c B Q (n + 1) (.enter t p) s ↔
      (A.pre (p.busy ++ B) t s → C.pre (p.busy ++ B) t s ∧
        ∀ a s', A.Answers (p.busy ++ B) t s a s' → C.Answers (p.busy ++ B) t s a s' →
          (p.resume a).Ensures c s' C.allows (Meets A C c B Q n)) := Iff.rfl

/-- It goes on as a contract allows if that follows, at each point where a task is started or an
answer is given, from a property that every pending step hands on. -/
theorem meets_of_upto {J : Next τ → State → Prop} {Q : τ.Answer → State → Prop}
    (gives : ∀ a s, J (.give a) s → A.inv τ B s → C.inv τ B s ∧ Q a s)
    (goes : ∀ t s, J (.goto t) s → A.pre B t s → C.pre B t s ∧
      ∀ a s', A.Answers B t s a s' → C.Answers B t s a s' → Q a s')
    (enters : ∀ {σ : Kind} (t : Task σ) (p : Pending σ τ) s, J (.enter t p) s →
      A.pre (p.busy ++ B) t s → C.pre (p.busy ++ B) t s ∧
        ∀ a s', A.Answers (p.busy ++ B) t s a s' → C.Answers (p.busy ++ B) t s a s' →
          (p.resume a).Ensures c s' C.allows J)
    {n : Nat} {next : Next τ} {s : State} (shallow : next.depth ≤ n) (upto : J next s) :
    Meets A C c B Q n next s := by
  induction n generalizing next s with
  | zero =>
    cases next with
    | give a => exact gives a s upto
    | goto t => exact goes t s upto
    | enter t p => cases p <;> simp at shallow
  | succ n ih =>
    cases next with
    | give a => exact gives a s upto
    | goto t => exact goes t s upto
    | enter t p =>
      intro preA
      obtain ⟨pre, resumes⟩ := enters t p s upto preA
      refine ⟨pre, fun a s' answersA answers => ?_⟩
      have resumed := (resumes a s' answersA answers).and (does_resume p a).ensures
      refine resumed.mono (fun f allowed => allowed.1) fun next' s'' ⟨upto', follows, _⟩ => ?_
      refine ih ?_ upto'
      have shallower := follows.1
      simp only [Next.depth] at shallow
      omega

private theorem Meets.both {Q R : τ.Answer → State → Prop} {n : Nat} {next : Next τ} {s : State}
    (hA : Meets free A c B Q n next s) (hC : Meets A C c B R n next s) :
    Meets free (A.both C) c B (fun a s => Q a s ∧ R a s) n next s := by
  cases next with
  | give a =>
    rw [meets_give] at *
    obtain ⟨inv, q⟩ := hA trivial
    obtain ⟨inv', r⟩ := hC inv
    exact fun _ => ⟨⟨inv, inv'⟩, q, r⟩
  | goto t =>
    rw [meets_goto] at *
    obtain ⟨pre, q⟩ := hA trivial
    obtain ⟨pre', r⟩ := hC pre
    refine fun _ => ⟨⟨pre, pre'⟩, fun a s' _ answer => ?_⟩
    obtain ⟨⟨post, post'⟩, inv, inv'⟩ := answer
    exact ⟨q a s' ⟨trivial, trivial⟩ ⟨post, inv⟩, r a s' ⟨post, inv⟩ ⟨post', inv'⟩⟩
  | enter t p =>
    cases n with
    | zero => exact hA.elim
    | succ n =>
      rw [meets_enter] at *
      obtain ⟨pre, q⟩ := hA trivial
      obtain ⟨pre', r⟩ := hC pre
      refine fun _ => ⟨⟨pre, pre'⟩, fun a s' _ answer => ?_⟩
      obtain ⟨⟨post, post'⟩, inv, inv'⟩ := answer
      have first := q a s' ⟨trivial, trivial⟩ ⟨post, inv⟩
      have second := r a s' ⟨post, inv⟩ ⟨post', inv'⟩
      exact (first.and second).mono (fun _ allowed => allowed) fun _ _ h => h.1.both h.2

theorem Kept.both {P' : {σ : Kind} → Task σ → Prop} (hA : Kept free A c P) (hC : Kept A C c P')
    (weaker : ∀ {σ : Kind} (t : Task σ), P' t → P t) : Kept free (A.both C) c P' := by
  intro σ B t s hP _ pre
  have first := hA σ B t s (weaker t hP) trivial pre.1
  have second := hC σ B t s hP pre.1 pre.2
  exact (first.and second).mono (fun _ allowed => allowed) fun _ _ h => h.1.both h.2

/-- The pending steps of a stack take an answer with a property, and in the end give one with the
property `R`. -/
def Accepts (C : Contract) (c : Context) (B : List CellId) (R : ρ.Answer → State → Prop) :
    {σ : Kind} → Stack ρ σ → (σ.Answer → State → Prop) → Prop
  | _, .nil, Q => ∀ a s, Q a s → C.inv ρ B s → R a s
  | σ, .cons p k, Q => ∃ Q', Accepts C c B R k Q' ∧
      ∀ a s, Q a s → C.inv σ (p.busy ++ (k.busy ++ B)) s →
        (p.resume a).Ensures c s C.allows fun next s =>
          ∃ n, Meets free C c (k.busy ++ B) Q' n next s

/-- A contract holds at a moment, with the cells of `B` being evaluated below the stack. -/
def Holds (C : Contract) (c : Context) (B : List CellId) (R : ρ.Answer → State → Prop) :
    Config ρ → Prop
  | .run t k s => C.pre (k.busy ++ B) t s ∧ C.Accepts c B R k (C.post (k.busy ++ B) t s)
  | .done (σ := σ) a k s => C.inv σ (k.busy ++ B) s ∧ ∃ Q, Q a s ∧ C.Accepts c B R k Q
  | .fault f _ _ => C.allows f

variable {R : ρ.Answer → State → Prop}

theorem Accepts.mono {k : Stack ρ σ} {Q Q' : σ.Answer → State → Prop}
    (hQ : ∀ a s, C.inv σ (k.busy ++ B) s → Q' a s → Q a s) (h : C.Accepts c B R k Q) :
    C.Accepts c B R k Q' := by
  cases k with
  | nil => exact fun a s q inv => h a s (hQ a s inv q) inv
  | cons p k =>
    obtain ⟨Q₁, below, resumes⟩ := h
    refine ⟨Q₁, below, fun a s q inv => resumes a s (hQ a s ?_ q) inv⟩
    simpa using inv

private theorem holds_follow {Q : τ.Answer → State → Prop} {n : Nat} {next : Next τ} {k : Stack ρ τ}
    {s : State} (h : Meets free C c (k.busy ++ B) Q n next s) (below : C.Accepts c B R k Q) :
    C.Holds c B R (.follow k next s) := by
  cases next with
  | give a =>
    rw [meets_give] at h
    obtain ⟨inv, q⟩ := h trivial
    exact ⟨inv, Q, q, below⟩
  | goto t =>
    rw [meets_goto] at h
    obtain ⟨pre, q⟩ := h trivial
    exact ⟨pre, below.mono fun a s' inv post => q a s' ⟨trivial, trivial⟩ ⟨post, inv⟩⟩
  | enter t p =>
    cases n with
    | zero => exact h.elim
    | succ n =>
      rw [meets_enter] at h
      obtain ⟨pre, q⟩ := h trivial
      refine ⟨by simpa using pre, Q, below, fun a s' post inv => ?_⟩
      have resumed := q a s' ⟨trivial, trivial⟩ ⟨by simpa using post, inv⟩
      exact resumed.mono (fun _ allowed => allowed) fun _ _ met => ⟨n, met⟩

private theorem Kept.holds_step (kept : Kept free C c P) {x y : Config ρ} (holds : C.Holds c B R x)
    (untrapped : x.Untrapped) (starts : x.Starts P) (h : x.step c = some y) :
    C.Holds c B R y := by
  cases x with
  | run t k s =>
    obtain ⟨pre, below⟩ := holds
    have ensured := kept _ _ t s starts trivial pre
    rcases ensured.proceed h with ⟨next, s', meets, rfl⟩ | ⟨f, s', allowed, rfl⟩
    · exact holds_follow meets below
    · exact allowed
  | done a k s =>
    cases k with
    | nil => simp [Config.step] at h
    | cons p k =>
      obtain ⟨inv, Q, q, Q', below, resumes⟩ := holds
      have ensured := resumes a s q (by simpa using inv)
      rcases ensured.proceed h with ⟨next, s', ⟨n, meets⟩, rfl⟩ | ⟨f, s', allowed, rfl⟩
      · exact holds_follow meets below
      · exact allowed
  | fault f k s =>
    cases k with
    | nil => simp [Config.step] at h
    | cons p k =>
      simp only [Config.step, Option.some.injEq] at h
      rw [← h, Config.escape_of_untrapped untrapped]
      exact holds

theorem Kept.holds_reaches (kept : Kept free C c P) {M : Config ρ → Prop}
    (moments : ∀ x, M x → x.Untrapped ∧ x.Starts P) {x y : Config ρ} (holds : C.Holds c B R x)
    (h : Config.Reaches c M x y) : C.Holds c B R y := by
  induction h with
  | refl => exact holds
  | tail _ move ih =>
    obtain ⟨untrapped, starts⟩ := moments _ move.1
    exact kept.holds_step ih untrapped starts move.2

theorem Kept.answers (kept : Kept free C c P) {M : Config ρ → Prop}
    (moments : ∀ x, M x → x.Untrapped ∧ x.Starts P) {t : Task ρ} {s : State} {a : ρ.Answer}
    {s' : State} (pre : C.pre B t s)
    (h : Config.Reaches c M (.run t .nil s) (.done a .nil s')) : C.Answers B t s a s' := by
  have start : C.Holds c B (C.Answers B t s) (.run t .nil s) :=
    ⟨pre, fun a s' post inv => ⟨post, inv⟩⟩
  obtain ⟨inv, Q, q, accepts⟩ := kept.holds_reaches moments start h
  exact accepts a s' q inv

theorem Meets.mono {Q Q' : τ.Answer → State → Prop} {m n : Nat} {next : Next τ} {s : State}
    (le : m ≤ n) (hQ : ∀ a s, Q a s → Q' a s) (h : Meets A C c B Q m next s) :
    Meets A C c B Q' n next s := by
  induction m generalizing n next s with
  | zero =>
    cases next with
    | give a =>
      rw [meets_give] at *
      exact fun inv => (h inv).imp_right (hQ a s)
    | goto t =>
      rw [meets_goto] at *
      exact fun pre => (h pre).imp_right fun q a s' answerA answer =>
        hQ a s' (q a s' answerA answer)
    | enter t p => exact h.elim
  | succ m ih =>
    cases next with
    | give a =>
      rw [meets_give] at *
      exact fun inv => (h inv).imp_right (hQ a s)
    | goto t =>
      rw [meets_goto] at *
      exact fun pre => (h pre).imp_right fun q a s' answerA answer =>
        hQ a s' (q a s' answerA answer)
    | enter t p =>
      obtain ⟨n, rfl⟩ : ∃ n', n = n' + 1 := ⟨n - 1, by omega⟩
      rw [meets_enter] at *
      intro preA
      obtain ⟨pre, resumes⟩ := h preA
      refine ⟨pre, fun a s' answersA answers => ?_⟩
      exact (resumes a s' answersA answers).mono (fun _ allowed => allowed)
        fun _ _ met => ih (by omega) met

/-- Pending steps that accept an answer under one contract accept it under a further one that each
of them keeps, whatever its answer. -/
theorem Accepts.both {k : Stack ρ σ} {Q : σ.Answer → State → Prop} (h : A.Accepts c B R k Q)
    (resumes : ∀ {σ τ : Kind} (p : Pending σ τ) (B' : List CellId) (a : σ.Answer) (s : State),
      (∀ b ∈ p.busy, b ∈ k.busy) → A.inv σ (p.busy ++ B') s → C.inv σ (p.busy ++ B') s →
        (p.resume a).Ensures c s C.allows fun next s =>
          ∃ n, Meets A C c B' (fun _ _ => True) n next s) :
    (A.both C).Accepts c B R k Q := by
  induction k with
  | nil => exact fun a s q inv => h a s q inv.1
  | @cons σ τ p k ih =>
    obtain ⟨Q', below, accepts⟩ := h
    refine ⟨Q', ih below fun p' B' a s old => ?_, fun a s q inv => ?_⟩
    · exact resumes p' B' a s fun b mem => List.mem_append_right _ (old b mem)
    · have first := accepts a s q inv.1
      have second := resumes p _ a s (fun b mem => List.mem_append_left _ mem) inv.1 inv.2
      refine (first.and second).mono (fun _ allowed => allowed) fun next s' met => ?_
      obtain ⟨⟨m, metA⟩, n, metC⟩ := met
      refine ⟨max m n, ?_⟩
      have metA := metA.mono (Nat.le_max_left m n) fun _ _ q => q
      have metC := metC.mono (Nat.le_max_right m n) fun _ _ q => q
      simpa using metA.both metC

section History

/-- Every answer of a task is the one that the task gives when it is run on its own. -/
def history (c : Context) : Contract where
  pre _ _ _ := True
  post _ t s a s' := t.Yields c s a s'
  inv _ _ _ := True
  allows _ := True

theorem reaches_on_stack {t : Task σ} {s s' : State} {a : σ.Answer} (h : t.Yields c s a s')
    (k : Stack ρ σ) :
    Config.Reaches c Config.Any (.run t k s) (.done a k s') := by
  obtain ⟨n, performed⟩ := perform_of_reaches_last (o := .ok a s') h rfl
  have arrived : Config.arrive k (t.perform n c s) = some (.done a k s') := by
    rw [performed n n.le_refl]
    rfl
  exact reaches_perform t k s _ arrived

theorem kept_history : Kept A (history c) c P := by
  intro σ B t s _ _ _
  have started := (does_start t).ensures.and (Comp.ensures_apply (x := t.start) (c := c) (s := s))
  refine started.mono (fun _ _ => trivial) fun next s' ⟨⟨leads, _⟩, step⟩ => ?_
  refine meets_of_upto (J := fun next s' =>
    Config.Reaches c Config.Any (.run t .nil s) (.follow .nil next s')) ?_ ?_ ?_ leads.1 ?_
  · exact fun a s' reached _ => ⟨trivial, reached⟩
  · exact fun t' s' reached _ => ⟨trivial, fun a s'' _ answer => reached.trans answer.1⟩
  · intro ρ t' p s' reached _
    refine ⟨trivial, fun a s'' _ answer => ?_⟩
    have arrived := reached.trans (reaches_on_stack answer.1 (.cons p .nil))
    refine Comp.ensures_apply.mono (fun _ _ => trivial) fun next s₃ resumed => ?_
    exact arrived.tail trivial (Config.step_done resumed .nil)
  · exact .head trivial (Config.step_run step .nil) .refl

end History

end Contract

end CallByNeed.Language
