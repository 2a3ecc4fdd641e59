import CallByNeed.Proofs.Machine.Contract
import CallByNeed.Proofs.Machine.Lockstep

set_option autoImplicit false
set_option relaxedAutoImplicit false

/-!
Contracts between two runs. A duty says of two tasks, one of each run, how their answers and states
are related when both have given their answers. Duties build on a contract that holds in each of the
runs, are checked for one start of the two tasks and the pending steps that follow, and then make
the runs go in step until a division by zero is turned into an exception.
-/

namespace CallByNeed.Language

variable {α β γ δ : Type} {ρ σ τ : Kind}

/-- Two computations give results with a property and leave the same input and output, or stop with
the same fault. -/
def Comp.Couples (x : Comp α) (c : Context) (s : State) (x' : Comp β) (c' : Context) (s' : State)
    (Q : α → State → β → State → Prop) : Prop :=
  match x c s, x' c' s' with
  | .ok a s, .ok b s' => s'.channels = s.channels ∧ Q a s b s'
  | .stop f s, .stop f' s' => f' = f ∧ s'.channels = s.channels
  | _, _ => False

section Couples

variable {c c' : Context} {s s' : State}

theorem Comp.couples_pure {Q : α → State → β → State → Prop} {a : α} {b : β}
    (channels : s'.channels = s.channels) (h : Q a s b s') :
    (pure a : Comp α).Couples c s (pure b : Comp β) c' s' Q :=
  ⟨channels, h⟩

theorem Comp.couples_stop {Q : α → State → β → State → Prop} (f : Fault)
    (channels : s'.channels = s.channels) :
    (stop f : Comp α).Couples c s (stop f : Comp β) c' s' Q :=
  ⟨rfl, channels⟩

theorem Comp.couples_of_apply {x : Comp α} {x' : Comp β} {a : α} {b : β} {s₁ s₁' : State}
    {Q : α → State → β → State → Prop} (hx : x c s = .ok a s₁) (hx' : x' c' s' = .ok b s₁')
    (channels : s₁'.channels = s₁.channels) (h : Q a s₁ b s₁') : x.Couples c s x' c' s' Q := by
  unfold Couples
  rw [hx, hx']
  exact ⟨channels, h⟩

theorem Comp.couples_onScopes {f : Scopes → Scopes.Result α} {f' : Scopes → Scopes.Result β} {a : α}
    {b : β} {u u' : Scopes} {Q : α → State → β → State → Prop} (hf : f s.scopes = (.ok a, u))
    (hf' : f' s'.scopes = (.ok b, u')) (channels : s'.channels = s.channels)
    (h : Q a { s with scopes := u } b { s' with scopes := u' }) :
    (onScopes f).Couples c s (onScopes f') c' s' Q := by
  unfold Couples
  rw [onScopes_apply, onScopes_apply, hf, hf']
  exact ⟨channels, h⟩

theorem Comp.couples_bind {x : Comp α} {x' : Comp β} {f : α → Comp γ} {f' : β → Comp δ}
    {Q : γ → State → δ → State → Prop}
    (h : x.Couples c s x' c' s' fun a s b s' => s'.channels = s.channels →
      (f a).Couples c s (f' b) c' s' Q) : (x >>= f).Couples c s (x' >>= f') c' s' Q := by
  unfold Couples at h ⊢
  simp only [bind_apply]
  cases hx : x c s <;> cases hx' : x' c' s' <;> simp only [hx, hx'] at h
  case ok.ok a s₁ b s₁' => exact h.2 h.1
  case stop.stop f s₁ f' s₁' => exact h

private theorem Comp.Couples.mono {x : Comp α} {x' : Comp β} {Q R : α → State → β → State → Prop}
    (h : x.Couples c s x' c' s' Q) (results : ∀ a s b s', Q a s b s' → R a s b s') :
    x.Couples c s x' c' s' R := by
  unfold Couples at h ⊢
  cases hx : x c s <;> cases hx' : x' c' s' <;> simp only [hx, hx'] at h ⊢
  case ok.ok a s₁ b s₁' => exact ⟨h.1, results a s₁ b s₁' h.2⟩
  case stop.stop f s₁ f' s₁' => exact h

private theorem Comp.Couples.and_ensures {x : Comp α} {x' : Comp β}
    {Q : α → State → β → State → Prop} {F F' : Fault → Prop} {P : α → State → Prop}
    {P' : β → State → Prop} (h : x.Couples c s x' c' s' Q) (hx : x.Ensures c s F P)
    (hx' : x'.Ensures c' s' F' P') :
    x.Couples c s x' c' s' fun a s b s' => P a s ∧ P' b s' ∧ Q a s b s' := by
  unfold Couples at h ⊢
  unfold Ensures at hx hx'
  cases here : x c s <;> cases there : x' c' s' <;> simp only [here, there] at h hx hx' ⊢
  case ok.ok a s₁ b s₁' => exact ⟨h.1, hx, hx', h.2⟩
  case stop.stop f s₁ f' s₁' => exact h

section Primitives

variable (channels : s'.channels = s.channels)

include channels

theorem couples_needType {v : Option Value} {Q : Value → State → Value → State → Prop}
    (h : ∀ w, v = some w → Q w s w s') : (needType v).Couples c s (needType v) c' s' Q := by
  cases v with
  | none => exact ⟨rfl, channels⟩
  | some w => exact ⟨channels, h w rfl⟩

theorem couples_needRight {op : BinaryOp} {left : Value} {v : Option Value}
    {Q : Value → State → Value → State → Prop} (h : ∀ w, v = some w → Q w s w s') :
    (needRight op left v).Couples c s (needRight op left v) c' s' Q := by
  cases v with
  | none =>
    rw [needRight]
    split
    · exact ⟨rfl, channels⟩
    · exact ⟨rfl, channels⟩
  | some w => exact ⟨channels, h w rfl⟩

theorem couples_applyBinary {op : BinaryOp} {left right : Value}
    {Q : Value → State → Value → State → Prop} (h : ∀ v, Q v s v s') :
    (applyBinary op left right).Couples c s (applyBinary op left right) c' s' Q := by
  rw [applyBinary]
  split
  · exact ⟨channels, h _⟩
  · exact ⟨rfl, channels⟩

theorem couples_printable {v : Value} {Q : Option String → State → Option String → State → Prop}
    (h : ∀ text, Q text s text s') : (Comp.printable v).Couples c s (Comp.printable v) c' s' Q := by
  rw [Comp.printable]
  split
  · exact ⟨channels, h _⟩
  · exact ⟨rfl, channels⟩

variable (setup : c'.setup = c.setup)

include setup

theorem couples_emit {text : Option String} {Q : Unit → State → Unit → State → Prop}
    (h : ∀ written : Channels, Q () { s with channels := written } ()
      { s' with channels := written }) :
    (Comp.emit text).Couples c s (Comp.emit text) c' s' Q := by
  obtain ⟨read, cells, scopes, depth⟩ := s
  obtain ⟨read', cells', scopes', depth'⟩ := s'
  obtain rfl : read' = read := channels
  unfold Comp.Couples Comp.emit
  simp only [Comp.bind_apply, Comp.context_apply, setup]
  cases c.setup.console with
  | true => exact ⟨rfl, h _⟩
  | false => exact ⟨rfl, h _⟩

private theorem couples_readInput {Q : Option String → State → Option String → State → Prop}
    (h : ∀ line (read : Channels), Q line { s with channels := read } line
      { s' with channels := read }) :
    Comp.readInput.Couples c s Comp.readInput c' s' Q := by
  unfold Comp.Couples Comp.readInput
  rw [channels, setup]
  cases s.channels.read c.setup with
  | ok result => exact ⟨rfl, h _ _⟩
  | error f => exact ⟨rfl, channels⟩

theorem couples_readValue {asInteger : Bool} {Q : CellId → State → CellId → State → Prop}
    (h : ∀ (read : Channels) (v : Value),
      Q s.cells.size { s with channels := read, cells := s.cells.push (.value v) }
        s'.cells.size { s' with channels := read, cells := s'.cells.push (.value v) }) :
    (readValue asInteger).Couples c s (readValue asInteger) c' s' Q := by
  refine Comp.couples_bind (couples_readInput channels setup fun line read _ => ?_)
  cases asInteger with
  | false => exact ⟨rfl, h read _⟩
  | true =>
    cases line with
    | none => exact ⟨rfl, rfl⟩
    | some text =>
      refine Comp.couples_bind ?_
      rw [readInteger]
      split
      · exact ⟨rfl, fun _ => ⟨rfl, h read _⟩⟩
      · exact ⟨rfl, rfl⟩

end Primitives

end Couples

/-- A relation between two answers of a kind and the states that they are handed on in. -/
abbrev Kind.Relation (σ : Kind) := σ.Answer → State → σ.Answer → State → Prop

/-- Which relation two tasks have to establish, with the cells that are being evaluated. -/
abbrev Duty :=
  {σ : Kind} → List CellId → Task σ → State → List CellId → Task σ → State → σ.Relation → Prop

namespace Contract

section Definitions

variable (A : Contract) (D : Duty) (c c' : Context)

/-- Two runs go on in the same way and as their duties say, given what a contract says of each, and
their answers are then related. -/
def MeetsBoth (B B' : List CellId) (Q : τ.Relation) :
    Nat → Next τ → State → Next τ → State → Prop
  | _, .give a, s, next', s' => ∃ a', next' = .give a' ∧
      (A.inv τ B s → A.inv τ B' s' → Q a s a' s')
  | _, .goto t, s, next', s' => ∃ t', next' = .goto t' ∧
      (A.pre B t s → A.pre B' t' s' → ∃ Q₀, D B t s B' t' s' Q₀ ∧ ∀ a s₁ a' s₁',
        A.Answers B t s a s₁ → A.Answers B' t' s' a' s₁' → Q₀ a s₁ a' s₁' → Q a s₁ a' s₁')
  | 0, .enter _ _, _, _, _ => False
  | n + 1, .enter t p, s, next', s' => ∃ t' p', next' = .enter t' p' ∧ p'.trap? = p.trap? ∧
      (A.pre (p.busy ++ B) t s → A.pre (p'.busy ++ B') t' s' →
        ∃ Q₀, D (p.busy ++ B) t s (p'.busy ++ B') t' s' Q₀ ∧ ∀ a s₁ a' s₁',
          s₁'.channels = s₁.channels → A.Answers (p.busy ++ B) t s a s₁ →
          A.Answers (p'.busy ++ B') t' s' a' s₁' → Q₀ a s₁ a' s₁' →
          (p.resume a).Couples c s₁ (p'.resume a') c' s₁' (MeetsBoth B B' Q n))

def KeptBoth (M : {σ : Kind} → Task σ → State → Task σ → State → Prop) : Prop :=
  ∀ (σ : Kind) (B B' : List CellId) (t t' : Task σ) (s s' : State) (Q : σ.Relation), M t s t' s' →
    s'.channels = s.channels → A.pre B t s → A.pre B' t' s' → D B t s B' t' s' Q →
    t.start.Couples c s t'.start c' s' (MeetsBoth A D c c' B B' Q 2)

/-- The pending steps of two stacks take related answers in the same way. -/
def AcceptsBoth : {σ : Kind} → Stack ρ σ → Stack ρ σ → σ.Relation → Prop
  | _, .nil, k', _ => k' = .nil
  | σ, .cons p k, k₀, Q => ∃ p' k', k₀ = .cons p' k' ∧ p'.trap? = p.trap? ∧
      ∃ (P P' : _ → State → Prop) (Q' : Kind.Relation _),
        AcceptsBoth k k' (fun a s a' s' => P a s ∧ P' a' s' ∧ Q' a s a' s') ∧
        ∀ a s a' s', s'.channels = s.channels → Q a s a' s' → A.inv σ (p.busy ++ k.busy) s →
          A.inv σ (p'.busy ++ k'.busy) s' →
          (p.resume a).Couples c s (p'.resume a') c' s' fun next s next' s' =>
            ∃ n, Meets free A c k.busy P n next s ∧ Meets free A c' k'.busy P' n next' s' ∧
              MeetsBoth A D c c' k.busy k'.busy Q' n next s next' s'

def Coupled : Config ρ → Config ρ → Prop
  | .run t k s, y => ∃ t' k' s', y = .run t' k' s' ∧ s'.channels = s.channels ∧
      A.pre k.busy t s ∧ A.pre k'.busy t' s' ∧ ∃ Q, D k.busy t s k'.busy t' s' Q ∧
        AcceptsBoth A D c c' k k' fun a s₁ a' s₁' =>
          A.post k.busy t s a s₁ ∧ A.post k'.busy t' s' a' s₁' ∧ Q a s₁ a' s₁'
  | .done (σ := σ) a k s, y => ∃ a' k' s', y = .done a' k' s' ∧ s'.channels = s.channels ∧
      A.inv σ k.busy s ∧ A.inv σ k'.busy s' ∧ ∃ Q, Q a s a' s' ∧ AcceptsBoth A D c c' k k' Q
  | .fault f k s, y => ∃ k' s', y = .fault f k' s' ∧ s'.channels = s.channels ∧ k.Alike k'

end Definitions

variable {A : Contract} {D : Duty} {c c' : Context}

private theorem AcceptsBoth.mono {k k' : Stack ρ σ} {Q R : σ.Relation}
    (h : AcceptsBoth A D c c' k k' Q)
    (hR : ∀ a s a' s', A.inv σ k.busy s → A.inv σ k'.busy s' → R a s a' s' → Q a s a' s') :
    AcceptsBoth A D c c' k k' R := by
  cases k with
  | nil => exact h
  | cons p k =>
    obtain ⟨p', k₁, rfl, traps, P, P', Q', below, resumes⟩ := h
    refine ⟨p', k₁, rfl, traps, P, P', Q', below, fun a s a' s' same related inv inv' => ?_⟩
    exact resumes a s a' s' same (hR a s a' s' inv inv' related) inv inv'

private theorem AcceptsBoth.alike {k k' : Stack ρ σ} {Q : σ.Relation}
    (h : AcceptsBoth A D c c' k k' Q) : k.Alike k' := by
  induction k with
  | nil =>
    cases h
    exact .nil
  | cons p k ih =>
    obtain ⟨p', k₁, rfl, traps, P, P', Q', below, _⟩ := h
    exact .cons traps (ih below)

theorem Coupled.alike {x y : Config ρ} (h : Coupled A D c c' x y) : x.Alike y := by
  cases x with
  | run t k s =>
    obtain ⟨t', k', s', rfl, _, _, _, Q, _, accepts⟩ := h
    exact .run _ _ accepts.alike _ _
  | done a k s =>
    obtain ⟨a', k', s', rfl, _, _, _, Q, _, accepts⟩ := h
    exact .done _ _ accepts.alike _ _
  | fault f k s =>
    obtain ⟨k', s', rfl, _, alike⟩ := h
    exact .fault f alike _ _

theorem Coupled.channels {x y : Config ρ} (h : Coupled A D c c' x y) :
    y.state.channels = x.state.channels := by
  cases x with
  | run t k s =>
    obtain ⟨t', k', s', rfl, channels, _⟩ := h
    exact channels
  | done a k s =>
    obtain ⟨a', k', s', rfl, channels, _⟩ := h
    exact channels
  | fault f k s =>
    obtain ⟨k', s', rfl, channels, _⟩ := h
    exact channels

private theorem coupled_follow {P P' : τ.Answer → State → Prop} {Q : τ.Relation} {n : Nat}
    {next next' : Next τ} {k k' : Stack ρ τ} {s s' : State} (channels : s'.channels = s.channels)
    (meets : Meets free A c k.busy P n next s) (meets' : Meets free A c' k'.busy P' n next' s')
    (both : MeetsBoth A D c c' k.busy k'.busy Q n next s next' s')
    (below : AcceptsBoth A D c c' k k' fun a s a' s' => P a s ∧ P' a' s' ∧ Q a s a' s') :
    Coupled A D c c' (.follow k next s) (.follow k' next' s') := by
  cases next with
  | give a =>
    obtain ⟨a', rfl, related⟩ : ∃ a', next' = .give a' ∧
        (A.inv τ k.busy s → A.inv τ k'.busy s' → Q a s a' s') := by cases n <;> exact both
    rw [meets_give] at meets meets'
    obtain ⟨inv, p⟩ := meets trivial
    obtain ⟨inv', p'⟩ := meets' trivial
    exact ⟨a', k', s', rfl, channels, inv, inv', _, ⟨p, p', related inv inv'⟩, below⟩
  | goto t =>
    obtain ⟨t', rfl, duty⟩ : ∃ t', next' = .goto t' ∧ (A.pre k.busy t s → A.pre k'.busy t' s' →
        ∃ Q₀, D k.busy t s k'.busy t' s' Q₀ ∧ ∀ a s₁ a' s₁', A.Answers k.busy t s a s₁ →
          A.Answers k'.busy t' s' a' s₁' → Q₀ a s₁ a' s₁' → Q a s₁ a' s₁') := by
      cases n <;> exact both
    rw [meets_goto] at meets meets'
    obtain ⟨pre, p⟩ := meets trivial
    obtain ⟨pre', p'⟩ := meets' trivial
    obtain ⟨Q₀, given, related⟩ := duty pre pre'
    refine ⟨t', k', s', rfl, channels, pre, pre', Q₀, given, below.mono ?_⟩
    rintro a s₁ a' s₁' inv inv' ⟨post, post', q⟩
    exact ⟨p a s₁ ⟨trivial, trivial⟩ ⟨post, inv⟩, p' a' s₁' ⟨trivial, trivial⟩ ⟨post', inv'⟩,
      related a s₁ a' s₁' ⟨post, inv⟩ ⟨post', inv'⟩ q⟩
  | enter t p =>
    cases n with
    | zero => exact meets.elim
    | succ n =>
      obtain ⟨t', p', rfl, traps, duty⟩ := both
      rw [meets_enter] at meets meets'
      obtain ⟨pre, resumes⟩ := meets trivial
      obtain ⟨pre', resumes'⟩ := meets' trivial
      obtain ⟨Q₀, given, related⟩ := duty pre pre'
      refine ⟨t', .cons p' k', s', rfl, channels, pre, pre', Q₀, given, p', k', rfl, traps, P, P',
        Q, below, ?_⟩
      rintro a s₁ a' s₁' same ⟨post, post', q⟩ inv inv'
      have coupled := related a s₁ a' s₁' same ⟨post, inv⟩ ⟨post', inv'⟩ q
      have ensured := resumes a s₁ ⟨trivial, trivial⟩ ⟨post, inv⟩
      have ensured' := resumes' a' s₁' ⟨trivial, trivial⟩ ⟨post', inv'⟩
      exact (coupled.and_ensures ensured ensured').mono fun _ _ _ _ met => ⟨n, met⟩

private theorem coupled_proceed {x x' : Comp (Next τ)} {s s' : State} {k k' : Stack ρ τ}
    {y : Config ρ} (stack : k.Alike k')
    (h : x.Couples c s x' c' s' fun next s next' s' => s'.channels = s.channels →
      Coupled A D c c' (.follow k next s) (.follow k' next' s'))
    (hy : Config.proceed k (x c s) = some y) :
    ∃ y', Config.proceed k' (x' c' s') = some y' ∧ Coupled A D c c' y y' := by
  unfold Comp.Couples at h
  cases hx : x c s <;> cases hx' : x' c' s' <;> simp only [hx, hx'] at h hy
  case ok.ok next s₁ next' s₁' =>
    cases hy
    exact ⟨_, rfl, h.2 h.1⟩
  case stop.stop f s₁ f' s₁' =>
    cases hy
    obtain ⟨rfl, channels⟩ := h
    exact ⟨_, rfl, k', s₁', rfl, channels, stack⟩

theorem KeptBoth.coupled_step {M : {σ : Kind} → Task σ → State → Task σ → State → Prop}
    (kept : KeptBoth A D c c' M) (keptA : Kept free A c fun _ => True)
    (keptA' : Kept free A c' fun _ => True) {x y x' : Config ρ} (coupled : Coupled A D c c' x y)
    (untrapped : x.Untrapped)
    (moment : ∀ {σ : Kind} (t t' : Task σ) (k k' : Stack ρ σ) (s s' : State), x = .run t k s →
      y = .run t' k' s' → M t s t' s')
    (step : x.step c = some x') : ∃ y', y.step c' = some y' ∧ Coupled A D c c' x' y' := by
  cases x with
  | run t k s =>
    obtain ⟨t', k', s', rfl, channels, pre, pre', Q, given, accepts⟩ := coupled
    have meets := keptA _ k.busy t s trivial trivial pre
    have meets' := keptA' _ k'.busy t' s' trivial trivial pre'
    have both := kept _ k.busy k'.busy t t' s s' Q (moment t t' k k' s s' rfl rfl) channels pre pre'
      given
    refine coupled_proceed accepts.alike ?_ step
    refine (both.and_ensures meets meets').mono fun next s₁ next' s₁' met same => ?_
    exact coupled_follow same met.1 met.2.1 met.2.2 accepts
  | done a k s =>
    obtain ⟨a', k₀, s', rfl, channels, inv, inv', Q, related, accepts⟩ := coupled
    cases k with
    | nil => cases step
    | cons p k =>
      obtain ⟨p', k', rfl, traps, P, P', Q', below, resumes⟩ := accepts
      refine coupled_proceed below.alike ?_ step
      refine (resumes a s a' s' channels related inv inv').mono fun next s₁ next' s₁' met same => ?_
      obtain ⟨n, meets, meets', both⟩ := met
      exact coupled_follow same meets meets' both below
  | fault f k s =>
    obtain ⟨k₀, s', rfl, channels, alike⟩ := coupled
    cases alike with
    | nil => cases step
    | @cons _ _ p p' k k' traps below =>
      have untrapped' : (Config.fault f (.cons p' k') s').Untrapped := by
        intro trapped
        apply untrapped
        cases f <;> simp_all [Config.TrapsZero]
      simp only [Config.step, Option.some.injEq] at step ⊢
      rw [Config.escape_of_untrapped untrapped] at step
      rw [Config.escape_of_untrapped untrapped']
      cases step
      exact ⟨_, rfl, k', s', rfl, channels, below⟩

end Contract

end CallByNeed.Language
