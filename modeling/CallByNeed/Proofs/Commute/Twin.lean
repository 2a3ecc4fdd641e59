import CallByNeed.Proofs.Commute.Assign
import CallByNeed.Proofs.Commute.Reorder
import CallByNeed.Proofs.Machine.Couple

set_option autoImplicit false
set_option relaxedAutoImplicit false

/-!
Runs of two programs side by side that have two assignments in two orders. The tasks of the runs are
twins: they are the same up to the renaming of cells and the order of the assignments. Twins that
start in states that coincide end in states that coincide, along a renaming that goes on from the
one at the start. Only between the two assignments the states do not coincide.
-/

namespace CallByNeed.Language

open Heap Contract

variable {a b : Assignment} {c c' : Context} {W W₁ W₂ : Renaming} {B B' : List CellId}
  {s s' s₁ s₁' s₂ s₂' : State} {σ τ : Kind} {n : Nat}

/-- States that coincide and count as many `try` bodies. -/
structure Joined (W : Renaming) (B B' : List CellId) (s s' : State) : Prop where
  depth : s'.tryDepth = s.tryDepth
  heap : Coincide W B B' s.heap s'.heap

/-- States that coincide along a renaming that goes on from an earlier one with so many cells. -/
structure Rejoined (W : Renaming) (n : Nat) (B B' : List CellId) (W₁ : Renaming) (s₁ s₁' : State) :
    Prop extends Joined W₁ B B' s₁ s₁' where
  size : n ≤ s₁.cells.size
  same : ∀ k < n, W₁ k = W k

private theorem Joined.rejoined (joined : Joined W B B' s s') :
    Rejoined W s.cells.size B B' W s s' :=
  ⟨joined, Nat.le_refl _, fun _ _ => rfl⟩

private theorem Rejoined.trans (first : Rejoined W n B B' W₁ s₁ s₁')
    (second : Rejoined W₁ s₁.cells.size B B' W₂ s₂ s₂') : Rejoined W n B B' W₂ s₂ s₂' := by
  refine ⟨second.toJoined, Nat.le_trans first.size second.size, fun k old => ?_⟩
  rw [second.same k (Nat.lt_of_lt_of_le old first.size), first.same k old]

def Kind.rename (W : Renaming) : (σ : Kind) → σ.Answer → σ.Answer
  | .value, x => x
  | .text, x => x
  | .cell, .value k => .value (W k)
  | .cell, .raised exception => .raised exception
  | .flow, .returned k => .returned (W k)
  | .flow, .raised exception => .raised exception
  | .flow, .next => .next

/-- Tasks that are the same up to the renaming of cells and the order of the assignments. -/
inductive Task.Twin (a b : Assignment) (W : Renaming) : {σ : Kind} → Task σ → Task σ → Prop where
  | eval (e : Expr) : Twin a b W (.eval e) (.eval e)
  | force (k : CellId) : Twin a b W (.force k) (.force (W k))
  | printArgs (args : List Expr) (text : String) :
    Twin a b W (.printArgs args text) (.printArgs args text)
  | call (name : String) (args : List Expr) : Twin a b W (.call name args) (.call name args)
  | block {stmts stmts' : List Stmt} (h : Stmts.Reordered a b stmts stmts') :
    Twin a b W (.block stmts) (.block stmts')
  | all {stmts stmts' : List Stmt} (h : Stmts.Reordered a b stmts stmts') :
    Twin a b W (.all stmts) (.all stmts')
  | stmt {st st' : Stmt} (h : Stmt.Reordered a b st st') : Twin a b W (.stmt st) (.stmt st')
  | loop (condition : Expr) (update : Assignment) {body body' : List Stmt}
    (h : Stmts.Reordered a b body body') :
    Twin a b W (.loop condition update body) (.loop condition update body')

/-- The frames on top agree on what a task asks of them. -/
def Task.Sees (W : Renaming) (u u' : Scopes) : {σ : Kind} → Task σ → Prop
  | _, .eval e => u.top.Agrees W (fun name => e.mentions name) u'.top
  | _, .force _ => True
  | _, .printArgs args _ => u.top.Agrees W (fun name => Expr.mentionsAny name args) u'.top
  | _, .call _ args => u.top.Agrees W (fun name => Expr.mentionsAny name args) u'.top
  | _, .block _ | _, .all _ | _, .stmt _ | _, .loop _ _ _ => u'.top = u.top.mapCells W

/-- What twins come to: the same answer, in states that coincide. -/
def Settled (W : Renaming) (n : Nat) (B B' : List CellId) (σ : Kind) : σ.Relation :=
  fun x s₁ x' s₁' => ∃ W₁, Rejoined W n B B' W₁ s₁ s₁' ∧ x' = σ.rename W₁ x ∧
    (σ = .flow → s₁'.scopes.top = s₁.scopes.top.mapCells W₁)

/-- One of the two assignments has been executed in each of the runs. -/
structure Between (a b : Assignment) (W : Renaming) (B B' : List CellId) (s s' s₁ s₁' : State) :
    Prop where
  joined : Joined W B B' s s'
  tops : s'.scopes.top = s.scopes.top.mapCells W
  running : Running B s.heap
  running' : Running B' s'.heap
  first : Assigned a B s.heap s₁.heap
  first' : Assigned b B' s'.heap s₁'.heap
  depth : s₁.tryDepth = s.tryDepth
  depth' : s₁'.tryDepth = s'.tryDepth
  declared : s.scopes.top.find? b.name ≠ none
  declared' : s'.scopes.top.find? a.name ≠ none

/-- What the tasks of the two runs have to come to. -/
inductive Owed (a b : Assignment) : Duty where
  | alike {σ : Kind} {B B' : List CellId} {t t' : Task σ} {s s' : State} {W : Renaming}
    (joined : Joined W B B' s s') (twin : t.Twin a b W t') (sees : t.Sees W s.scopes s'.scopes) :
    Owed a b B t s B' t' s' (Settled W s.cells.size B B' σ)
  | first {B B' : List CellId} {s s' : State} {W : Renaming} (joined : Joined W B B' s s')
    (tops : s'.scopes.top = s.scopes.top.mapCells W)
    (declared : s.scopes.top.find? a.name ≠ none ∧ s.scopes.top.find? b.name ≠ none) :
    Owed a b B (.stmt (.assign a)) s B' (.stmt (.assign b)) s' fun flow s₁ flow' s₁' =>
      flow = .next ∧ flow' = .next ∧ Between a b W B B' s s' s₁ s₁'
  | middle {B B' : List CellId} {s s' s₁ s₁' : State} {W : Renaming} {rest rest' : List Stmt}
    (between : Between a b W B B' s s' s₁ s₁') (others : Stmts.Reordered a b rest rest') :
    Owed a b B (.all (.assign b :: rest)) s₁ B' (.all (.assign a :: rest')) s₁'
      (Settled W s.cells.size B B' .flow)
  | second {B B' : List CellId} {s s' s₁ s₁' : State} {W : Renaming}
    (between : Between a b W B B' s s' s₁ s₁') :
    Owed a b B (.stmt (.assign b)) s₁ B' (.stmt (.assign a)) s₁'
      (Settled W s.cells.size B B' .flow)

/-- The two runs go on in the same way, from a renaming to what twins of the kind come to. -/
private abbrev Both (a b : Assignment) (c c' : Context) (W : Renaming) (n : Nat)
    (B B' : List CellId) {τ : Kind} : Nat → Next τ → State → Next τ → State → Prop :=
  MeetsBoth discipline (Owed a b) c c' B B' (Settled W n B B' τ)

section Both

variable {m : Nat} {V : Renaming}

private theorem both_give {x x' : τ.Answer} (follows : Rejoined W n B B' V s₁ s₁')
    (renamed : x' = τ.rename V x)
    (tops : τ = .flow → s₁'.scopes.top = s₁.scopes.top.mapCells V) :
    Both a b c c' W n B B' m (.give x) s₁ (.give x') s₁' := by
  cases m <;> exact ⟨x', rfl, fun _ _ => ⟨V, follows, renamed, tops⟩⟩

private theorem both_goto {t t' : Task τ} (follows : Rejoined W n B B' V s₁ s₁')
    (twin : t.Twin a b V t') (sees : t.Sees V s₁.scopes s₁'.scopes) :
    Both a b c c' W n B B' m (.goto t) s₁ (.goto t') s₁' := by
  have owed : ∃ Q₀ : τ.Relation, Owed a b B t s₁ B' t' s₁' Q₀ ∧ ∀ x s₂ x' s₂',
      discipline.Answers B t s₁ x s₂ → discipline.Answers B' t' s₁' x' s₂' →
      Q₀ x s₂ x' s₂' → Settled W n B B' τ x s₂ x' s₂' := by
    refine ⟨_, .alike follows.toJoined twin sees, fun x s₂ x' s₂' _ _ settled => ?_⟩
    obtain ⟨W₂, follows', renamed, tops⟩ := settled
    exact ⟨W₂, follows.trans follows', renamed, tops⟩
  cases m <;> exact ⟨t', rfl, fun _ _ => owed⟩

private theorem both_enter {t t' : Task σ} {p p' : Pending σ τ} (traps : p'.trap? = p.trap?)
    (joined : Joined V (p.busy ++ B) (p'.busy ++ B') s₁ s₁') (twin : t.Twin a b V t')
    (sees : t.Sees V s₁.scopes s₁'.scopes)
    (resumes : ∀ (x : σ.Answer) (s₂ s₂' : State) (W₂ : Renaming), s₂'.channels = s₂.channels →
      discipline.Answers (p.busy ++ B) t s₁ x s₂ →
      discipline.Answers (p'.busy ++ B') t' s₁' (σ.rename W₂ x) s₂' →
      Rejoined V s₁.cells.size (p.busy ++ B) (p'.busy ++ B') W₂ s₂ s₂' →
      (σ = .flow → s₂'.scopes.top = s₂.scopes.top.mapCells W₂) →
      (p.resume x).Couples c s₂ (p'.resume (σ.rename W₂ x)) c' s₂'
        (Both a b c c' W n B B' m)) :
    Both a b c c' W n B B' (m + 1) (.enter t p) s₁ (.enter t' p') s₁' := by
  refine ⟨t', p', rfl, traps, fun _ _ => ⟨_, .alike joined twin sees, ?_⟩⟩
  rintro x s₂ x' s₂' channels answers answers' ⟨W₂, follows, rfl, tops⟩
  exact resumes x s₂ s₂' W₂ channels answers answers' follows tops

variable (follows : Rejoined W n B B' V s₁ s₁') (channels : s₁'.channels = s₁.channels)

include follows channels

private theorem couples_give {x x' : τ.Answer} (renamed : x' = τ.rename V x) (other : τ ≠ .flow) :
    Comp.Couples (pure (.give x)) c s₁ (pure (.give x')) c' s₁' (Both a b c c' W n B B' m) :=
  Comp.couples_pure channels (both_give follows renamed fun flow => absurd flow other)

private theorem couples_flow {x x' : Kind.flow.Answer} (renamed : x' = Kind.rename V .flow x)
    (tops : s₁'.scopes.top = s₁.scopes.top.mapCells V) :
    Comp.Couples (pure (.give x)) c s₁ (pure (.give x')) c' s₁' (Both a b c c' W n B B' m) :=
  Comp.couples_pure channels (both_give follows renamed fun _ => tops)

private theorem couples_goto {t t' : Task τ} (twin : t.Twin a b V t')
    (sees : t.Sees V s₁.scopes s₁'.scopes) :
    Comp.Couples (pure (.goto t)) c s₁ (pure (.goto t')) c' s₁' (Both a b c c' W n B B' m) :=
  Comp.couples_pure channels (both_goto follows twin sees)

end Both

private theorem Rejoined.withChannels (rejoined : Rejoined W n B B' W₁ s₁ s₁')
    (channels : Channels) :
    Rejoined W n B B' W₁ { s₁ with channels := channels } { s₁' with channels := channels } :=
  ⟨⟨rejoined.depth, rejoined.heap⟩, rejoined.size, rejoined.same⟩

section Keeps

variable {N : String → Bool} (rejoined : Rejoined W s.cells.size B B' W₁ s₁ s₁')
  (looking : Looking B s.heap) (looking' : Looking B' s'.heap) (keeps : Keeps B s.heap s₁.heap)
  (keeps' : Keeps B' s'.heap s₁'.heap)

include rejoined looking looking' keeps keeps'

/-- Frames that agree do so after an expression has been evaluated. -/
theorem Rejoined.agrees (agrees : s.scopes.top.Agrees W N s'.scopes.top) :
    s₁.scopes.top.Agrees W₁ N s₁'.scopes.top := by
  have top : s₁.scopes.top = s.scopes.top :=
    congrArg Env.top (keeps.scopes.current looking.sound.focused)
  have top' : s₁'.scopes.top = s'.scopes.top :=
    congrArg Env.top (keeps'.scopes.current looking'.sound.focused)
  rw [top, top']
  exact agrees.later looking.older rejoined.same

private theorem Rejoined.tops (tops : s'.scopes.top = s.scopes.top.mapCells W) :
    s₁'.scopes.top = s₁.scopes.top.mapCells W₁ := by
  have top : s₁.scopes.top = s.scopes.top :=
    congrArg Env.top (keeps.scopes.current looking.sound.focused)
  have top' : s₁'.scopes.top = s'.scopes.top :=
    congrArg Env.top (keeps'.scopes.current looking'.sound.focused)
  rw [top, top', tops]
  exact Frame.mapCells_congr fun k mem => (rejoined.same k (looking.older k mem)).symm

end Keeps

/-- The contexts of two programs that have the assignments in two orders, without a trace. -/
structure Context.Reordered (a b : Assignment) (c c' : Context) : Prop where
  setup : c'.setup = c.setup
  quiet : c.setup.trace = false
  funcs : List.Forall₂ (Func.Reordered a b) c.funcs c'.funcs

private theorem couples_traceStmt {st st' : Stmt} {Q : Unit → State → Unit → State → Prop}
    (channels : s'.channels = s.channels) (context : c.Reordered a b c') (h : Q () s () s') :
    (traceStmt st).Couples c s (traceStmt st') c' s' Q := by
  have quiet' : c'.setup.trace = false := context.setup ▸ context.quiet
  unfold Comp.Couples traceStmt
  simp only [Comp.bind_apply, Comp.context_apply, context.quiet, quiet']
  exact ⟨channels, h⟩

private theorem not_flow {P : Prop} {x : Kind} (other : x ≠ .flow) (h : x = .flow) : P :=
  absurd h other

section Expressions

variable (joined : Joined W B B' s s') (channels : s'.channels = s.channels)

include joined channels

private theorem both_startEval {e : Expr} (looking : Looking B s.heap)
    (looking' : Looking B' s'.heap)
    (sees : s.scopes.top.Agrees W (fun name => e.mentions name) s'.scopes.top) :
    (startEval e).Couples c s (startEval e) c' s' (Both a b c c' W s.cells.size B B' 2) := by
  have give : ∀ v, Both a b c c' W s.cells.size B B' 2 (.give (τ := .value) v) s (.give v) s' :=
    fun v => both_give joined.rejoined rfl (not_flow (by simp))
  cases e with
  | var name =>
    obtain ⟨frame, frames, current, _⟩ := looking.frame
    obtain ⟨frame', frames', current', _⟩ := looking'.frame
    have current : s.scopes.current = frame :: frames := current
    have current' : s'.scopes.current = frame' :: frames' := current'
    have agrees := sees name (by simp [Expr.mentions])
    rw [Scopes.top, Scopes.top, current, current'] at agrees
    have agrees : frame'.find? name = (frame.find? name).map W := agrees
    have found : Comp.onScopes (fun u => (u.get? name, u)) c s = .ok (frame.find? name) s := by
      rw [Comp.onScopes_apply]
      simp only [Scopes.get?, current]
    have found' : Comp.onScopes (fun u => (u.get? name, u)) c' s' =
        .ok ((frame.find? name).map W) s' := by
      rw [Comp.onScopes_apply, ← agrees]
      simp only [Scopes.get?, current']
    refine Comp.couples_bind (Comp.couples_of_apply found found' channels fun _ => ?_)
    cases frame.find? name with
    | none => exact Comp.couples_stop _ channels
    | some k => exact couples_goto joined.rejoined channels (.force k) trivial
  | call name args =>
    refine Comp.couples_pure channels (both_enter rfl joined (.call name args) sees ?_)
    intro x s₂ s₂' W₂ channels₂ _ _ rejoined _
    cases x with
    | raised exception =>
      exact couples_give rejoined channels₂ rfl (by simp)
    | value k => exact couples_goto rejoined channels₂ (.force k) trivial
  | unary op operand =>
    refine Comp.couples_pure channels (both_enter rfl joined (.eval operand) sees ?_)
    intro x s₂ s₂' W₂ channels₂ _ _ rejoined _
    cases x with
    | raised exception =>
      exact couples_give rejoined channels₂ rfl (by simp)
    | value v =>
      refine Comp.couples_bind (couples_needType channels₂ fun w _ _ => ?_)
      split
      · exact couples_give rejoined channels₂ rfl (by simp)
      · exact Comp.couples_stop _ channels₂
  | binary op left right =>
    refine Comp.couples_pure channels (both_enter rfl joined (.eval left) sees.left ?_)
    intro x s₂ s₂' W₂ channels₂ answers answers' rejoined _
    have sees₂ := rejoined.agrees looking looking' answers.1 answers'.1 sees.right
    cases x with
    | raised exception =>
      exact couples_give rejoined channels₂ rfl (by simp)
    | value v =>
      simp only [Kind.rename, Pending.resume, onValue, resumeOperand]
      split
      · exact Comp.couples_stop _ channels₂
      · exact Comp.couples_stop _ channels₂
      · split
        · exact couples_give rejoined channels₂ rfl (by simp)
        · refine Comp.couples_pure channels₂ ?_
          refine both_enter rfl rejoined.toJoined (.eval right) sees₂ ?_
          intro y s₃ s₃' W₃ channels₃ _ _ rejoined₃ _
          have rejoined₃ := rejoined.trans rejoined₃
          cases y with
          | raised exception =>
            exact couples_give rejoined₃ channels₃ rfl (by simp)
          | value w =>
            refine Comp.couples_bind (couples_needType channels₃ fun l _ _ => ?_)
            refine Comp.couples_bind (couples_needRight channels₃ fun r _ _ => ?_)
            refine Comp.couples_bind (couples_applyBinary channels₃ fun u _ => ?_)
            exact couples_give rejoined₃ channels₃ rfl (by simp)
  | _ => exact Comp.couples_pure channels (give _)

private theorem both_startForce {k : CellId} (sound : Sound B s.heap) (sound' : Sound B' s'.heap)
    (clear : s.heap.Clear B k) :
    (startForce k).Couples c s (startForce (W k)) c' s' (Both a b c c' W s.cells.size B B' 2) := by
  obtain ⟨content, present⟩ := clear.present
  cases content with
  | value v =>
    refine Comp.couples_of_apply (startForce_value c present)
      (startForce_value c' (joined.heap.value present)) channels ?_
    exact both_give joined.rejoined rfl (not_flow (by simp))
  | thunk e i =>
    obtain ⟨i', present'⟩ := joined.heap.thunk present
    have idle' : W k ∉ B' := fun busy => clear.not_mem (joined.heap.mem_busy.mp busy)
    obtain ⟨frame, frames, taken, _⟩ := sound.snapshot k e i present
    obtain ⟨frame', frames', taken', _⟩ := sound'.snapshot (W k) e i' present'
    have sees := joined.heap.seen k e i i' _ _ clear.not_mem present present' taken taken'
    refine Comp.couples_of_apply (startForce_thunk c present) (startForce_thunk c' present')
      channels ?_
    have entered : Joined W (k :: B) (W k :: B') (s.withHeap (s.heap.refocus (some i)))
        (s'.withHeap (s'.heap.refocus (some i'))) := ⟨joined.depth, joined.heap.enter i i'⟩
    refine both_enter rfl entered (.eval e) ?_ ?_
    · have top : (s.heap.refocus (some i)).scopes.top = Env.top (frame :: frames) := by
        simp only [Scopes.top, Scopes.current, refocus, taken, Option.getD_some]
      have top' : (s'.heap.refocus (some i')).scopes.top = Env.top (frame' :: frames') := by
        simp only [Scopes.top, Scopes.current, refocus, taken', Option.getD_some]
      change (s.heap.refocus (some i)).scopes.top.Agrees W _ (s'.heap.refocus (some i')).scopes.top
      rw [top, top']
      exact sees
    · intro x s₂ s₂' W₂ channels₂ answers answers' rejoined _
      have ended : Evaluated B k e i s.heap s₂.heap :=
        ⟨sound, clear.not_mem, present, answers.2, answers.1.grows, answers.1.scopes⟩
      have ended' : Evaluated B' (W k) e i' s'.heap s₂'.heap :=
        ⟨sound', idle', present', answers'.2, answers'.1.grows, answers'.1.scopes⟩
      have size : s.cells.size ≤ s₂.cells.size := rejoined.size
      refine Comp.couples_bind (Comp.couples_of_apply rfl rfl channels₂ fun _ => ?_)
      rcases x with (_ | v) | exception
      · exact Comp.couples_stop _ channels₂
      · refine Comp.couples_of_apply rfl rfl channels₂ ?_
        refine both_give (V := W₂) ⟨⟨rejoined.depth, ?_⟩, ?_, rejoined.same⟩ rfl
          (not_flow (by simp))
        · exact joined.heap.settle ended ended' rejoined.heap rejoined.same v
        · exact Nat.le_trans size (Nat.le_of_eq Array.size_setIfInBounds.symm)
      · refine Comp.couples_pure channels₂ ?_
        refine both_give (V := W₂) ⟨⟨rejoined.depth, ?_⟩, size, rejoined.same⟩ rfl
          (not_flow (by simp))
        exact joined.heap.leave ended ended' rejoined.heap rejoined.same

private theorem both_startPrintArgs {args : List Expr} {text : String}
    (looking : args ≠ [] → Looking B s.heap) (looking' : args ≠ [] → Looking B' s'.heap)
    (sees : s.scopes.top.Agrees W (fun name => Expr.mentionsAny name args) s'.scopes.top) :
    (startPrintArgs text args).Couples c s (startPrintArgs text args) c' s'
      (Both a b c c' W s.cells.size B B' 2) := by
  cases args with
  | nil =>
    exact couples_give joined.rejoined channels rfl (by simp)
  | cons arg args =>
    refine Comp.couples_pure channels (both_enter rfl joined (.eval arg) sees.head ?_)
    intro x s₂ s₂' W₂ channels₂ answers answers' rejoined _
    have sees₂ := rejoined.agrees (looking (by simp)) (looking' (by simp)) answers.1 answers'.1
      sees.tail
    cases x with
    | raised exception =>
      exact couples_give rejoined channels₂ rfl (by simp)
    | value v =>
      refine Comp.couples_bind (couples_needType channels₂ fun w _ _ => ?_)
      refine Comp.couples_bind (couples_printable channels₂ fun shown _ => ?_)
      cases shown with
      | none => exact Comp.couples_stop _ channels₂
      | some shown =>
        exact couples_goto rejoined channels₂ (.printArgs args _) sees₂

end Expressions

section Calls

variable (channels : s'.channels = s.channels)

include channels

private theorem both_readValue (reordered : c.Reordered a b c') {asInteger : Bool} {m : Nat}
    (rejoined : Rejoined W n B B' W₁ s s') (sound : Sound B s.heap) (sound' : Sound B' s'.heap) :
    (readValue asInteger >>= fun cell => pure (.give (.value cell))).Couples c s
      (readValue asInteger >>= fun cell => pure (.give (.value cell))) c' s'
      (Both a b c c' W n B B' (τ := .cell) m) := by
  refine Comp.couples_bind (couples_readValue channels reordered.setup fun read v _ => ?_)
  refine Comp.couples_pure rfl (both_give (V := W₁) ⟨⟨rejoined.depth, ?_⟩, ?_, rejoined.same⟩ ?_
    (not_flow (by simp)))
  · exact rejoined.heap.alloc sound sound' v
  · simp only [Array.size_push]
    exact Nat.le_succ_of_le rejoined.size
  · have fixed := rejoined.heap.fixed s.cells.size (Nat.le_refl _)
    have size : s'.cells.size = s.cells.size := rejoined.heap.size
    simp only [Kind.rename, fixed, size]

private theorem both_resumeLeave {flow : Flow} {m : Nat} {q r : State} {frame frame' : Frame}
    (rejoined : Rejoined W n B B' W₁ s s') (sound₀ : Sound B q.heap) (sound₀' : Sound B' r.heap)
    (sound : Sound B s.heap) (sound' : Sound B' s'.heap)
    (shifts : Shifts B ⟨q.cells, q.scopes.push frame⟩ s.heap)
    (shifts' : Shifts B' ⟨r.cells, r.scopes.push frame'⟩ s'.heap) :
    (resumeLeave flow).Couples c s (resumeLeave (Kind.rename W₁ .flow flow)) c' s'
      (Both a b c c' W n B B' m) := by
  obtain ⟨u, popped, _, _, grows⟩ := sound₀.close_frame sound shifts
  obtain ⟨u', popped', _, _, grows'⟩ := sound₀'.close_frame sound' shifts'
  by_cases counted : ∀ exception, flow = .raised exception → s.tryDepth ≠ 0
  · have counted' : ∀ exception, Kind.rename W₁ .flow flow = .raised exception →
        s'.tryDepth ≠ 0 := by
      intro exception same
      rw [rejoined.depth]
      cases flow with
      | raised exception' => exact counted exception' rfl
      | returned k => cases same
      | next => cases same
    have left : resumeLeave flow c s = .ok (.give flow.answer) { s with scopes := u } := by
      rw [resumeLeave_apply counted, Comp.bind_apply, Comp.onScopes_apply, popped]
      rfl
    have left' : resumeLeave (Kind.rename W₁ .flow flow) c' s' =
        .ok (.give (Flow.answer (Kind.rename W₁ .flow flow))) { s' with scopes := u' } := by
      rw [resumeLeave_apply counted', Comp.bind_apply, Comp.onScopes_apply, popped']
      rfl
    refine Comp.couples_of_apply left left' channels ?_
    refine both_give (V := W₁) ⟨⟨rejoined.depth, ?_⟩, rejoined.size, rejoined.same⟩ ?_
      (not_flow (by simp))
    · exact rejoined.heap.rescope sound sound' grows grows'
    · cases flow with
      | raised exception => rfl
      | returned k => rfl
      | next => exact congrArg Raising.value rejoined.heap.nil.symm
  · cases flow with
    | raised exception =>
      have depth : s.tryDepth = 0 := by simpa using counted
      have depth' : s'.tryDepth = 0 := rejoined.depth.trans depth
      unfold Comp.Couples
      rw [resumeLeave_uncaught depth, Kind.rename, resumeLeave_uncaught depth']
      exact ⟨rfl, channels⟩
    | returned k => simp at counted
    | next => simp at counted

private theorem both_enterFunc {func func' : Func} {args : List Expr}
    (joined : Joined W B B' s s') (twins : func.Reordered a b func') (sound : Sound B s.heap)
    (sound' : Sound B' s'.heap) (looking : args ≠ [] → Looking B s.heap)
    (looking' : args ≠ [] → Looking B' s'.heap)
    (sees : s.scopes.top.Agrees W (fun name => Expr.mentionsAny name args) s'.scopes.top) :
    (enterFunc func args).Couples c s (enterFunc func' args) c' s'
      (Both a b c c' W s.cells.size B B' 2) := by
  obtain ⟨body', inner, rfl⟩ := twins
  obtain ⟨sound₁, _, _⟩ := sound.keeps_deferAll args looking
  obtain ⟨sound₁', _, _⟩ := sound'.keeps_deferAll args looking'
  have coincide := joined.heap.deferAll args sound sound' looking looking' sees
  refine Comp.couples_of_apply (enterFunc_apply func args c sound.focused)
    (enterFunc_apply _ args c' sound'.focused) channels ?_
  refine both_enter (V := W) rfl ⟨joined.depth, ?_⟩ (.block inner) ?_ ?_
  · refine coincide.rescope sound₁ sound₁' (sound₁.grows_retops ?_) (sound₁'.grows_retops ?_)
    · exact Scopes.retops_push sound₁.focused _
    · exact Scopes.retops_push sound₁'.focused _
  · have new : (List.range' s.cells.size args.length).map W =
        List.range' s'.cells.size args.length := by
      have size : s'.cells.size = s.cells.size := joined.heap.size
      rw [size]
      refine (List.map_congr_left fun k mem => ?_).trans (List.map_id _)
      exact joined.heap.fixed k (List.mem_range'_1.mp mem).1
    change Scopes.top (Scopes.push _ _) = (Scopes.top (Scopes.push _ _)).mapCells W
    rw [Scopes.top_push sound₁.focused, Scopes.top_push sound₁'.focused, ← new,
      bindParams_mapCells]
    rfl
  · intro flow s₂ s₂' W₂ channels₂ answers answers' rejoined _
    have grown : s.cells.size ≤ (s.heap.deferAll args).cells.size := by
      rw [size_deferAll]
      exact Nat.le_add_right _ _
    have size : s.cells.size ≤ s₂.cells.size := Nat.le_trans grown rejoined.size
    have rejoined₀ : Rejoined W s.cells.size B B' W₂ s₂ s₂' :=
      ⟨rejoined.toJoined, size, fun k old => rejoined.same k (Nat.lt_of_lt_of_le old grown)⟩
    have running : Running B s₂.heap := answers.2
    have running' : Running B' s₂'.heap := answers'.2
    exact both_resumeLeave (q := s.withHeap (s.heap.deferAll args))
      (r := s'.withHeap (s'.heap.deferAll args)) channels₂ rejoined₀ sound₁ sound₁'
      running.sound running'.sound answers.1.1 answers'.1.1

private theorem both_startCall (reordered : c.Reordered a b c') {name : String}
    {args : List Expr} (joined : Joined W B B' s s')
    (sound : Sound B s.heap) (sound' : Sound B' s'.heap) (looking : args ≠ [] → Looking B s.heap)
    (looking' : args ≠ [] → Looking B' s'.heap)
    (sees : s.scopes.top.Agrees W (fun name => Expr.mentionsAny name args) s'.scopes.top) :
    (startCall name args).Couples c s (startCall name args) c' s'
      (Both a b c c' W s.cells.size B B' 2) := by
  unfold startCall
  split
  · refine Comp.couples_pure channels (both_enter rfl joined (.printArgs args "") sees ?_)
    intro x s₂ s₂' W₂ channels₂ _ _ rejoined _
    cases x with
    | raised exception =>
      exact couples_give rejoined channels₂ rfl (by simp)
    | value text =>
      refine Comp.couples_bind (couples_emit channels₂ reordered.setup fun written _ => ?_)
      refine Comp.couples_pure rfl (both_give (rejoined.withChannels written) ?_
        (not_flow (by simp)))
      exact congrArg Raising.value rejoined.heap.nil.symm
  · split
    · split
      · exact both_readValue channels reordered joined.rejoined sound sound'
      · next prompt =>
        refine Comp.couples_pure channels (both_enter rfl joined (.eval prompt) sees.head ?_)
        intro x s₂ s₂' W₂ channels₂ answers answers' rejoined _
        cases x with
        | raised exception =>
          exact couples_give rejoined channels₂ rfl (by simp)
        | value v =>
          refine Comp.couples_bind (couples_needType channels₂ fun w _ _ => ?_)
          refine Comp.couples_bind (couples_printable channels₂ fun shown _ => ?_)
          refine Comp.couples_bind (couples_emit channels₂ reordered.setup fun written _ => ?_)
          have same : { s₂' with channels := written }.channels =
            { s₂ with channels := written }.channels := rfl
          exact both_readValue same reordered (rejoined.withChannels written) answers.2 answers'.2
      · exact Comp.couples_stop _ channels
    · refine Comp.couples_bind (Comp.couples_of_apply rfl rfl channels fun _ => ?_)
      rcases findFunc_reordered reordered.funcs name args.length with ⟨e, found, found'⟩ |
        ⟨func, func', found, found', twins⟩
      · rw [found, found']
        exact Comp.couples_stop _ channels
      · rw [found, found']
        exact both_enterFunc channels joined twins sound sound' looking looking' sees

end Calls

section Statements

variable (joined : Joined W B B' s s') (channels : s'.channels = s.channels)
  (running : Running B s.heap) (running' : Running B' s'.heap)
  (tops : s'.scopes.top = s.scopes.top.mapCells W)

include joined channels running running' tops

private theorem both_assign {x : Assignment} {Q : Flow → State → Flow → State → Prop}
    (h : ∀ s₁ s₁', s₁'.channels = s₁.channels → Rejoined W s.cells.size B B' W s₁ s₁' →
      Running B s₁.heap → Running B' s₁'.heap →
      s₁'.scopes.top = s₁.scopes.top.mapCells W → Q .next s₁ .next s₁') :
    (assign x).Couples c s (assign x) c' s' Q := by
  have rebound : s'.scopes.top.rebind? x.name s'.cells.size =
      (s.scopes.top.rebind? x.name s.cells.size).map (Frame.mapCells W) := by
    have moved : W s.cells.size = s'.cells.size :=
      (joined.heap.fixed _ (Nat.le_refl _)).trans joined.heap.size.symm
    rw [tops, ← moved]
    exact Frame.rebind?_mapCells W x.name s.cells.size _
  rcases assign_cases x c running with ⟨s₁, done, same, depth, assigned, running₁⟩ |
    ⟨s₁, stopped, same, none⟩
  · rcases assign_cases x c' running' with ⟨s₁', done', same', depth', assigned', running₁'⟩ |
      ⟨s₁', stopped', same', none'⟩
    · have channels₁ : s₁'.channels = s₁.channels := (same'.trans channels).trans same.symm
      obtain ⟨coincide, tops₁⟩ :=
        joined.heap.assign running.sound running'.sound tops assigned assigned'
      refine Comp.couples_of_apply done done' channels₁ ?_
      refine h s₁ s₁' channels₁ ⟨⟨?_, coincide⟩, ?_, fun _ _ => rfl⟩ running₁ running₁' tops₁
      · rw [depth, depth', joined.depth]
      · exact assigned.grows.size_le
    · have top : s.scopes.top.rebind? x.name s.cells.size = some s₁.scopes.top := assigned.top
      rw [none', top] at rebound
      cases rebound
  · rcases assign_cases x c' running' with ⟨s₁', done', same', depth', assigned', running₁'⟩ |
      ⟨s₁', stopped', same', none'⟩
    · have top : s'.scopes.top.rebind? x.name s'.cells.size = some s₁'.scopes.top := assigned'.top
      rw [none, top] at rebound
      cases rebound
    · unfold Comp.Couples
      rw [stopped, stopped']
      exact ⟨rfl, (same'.trans channels).trans same.symm⟩

omit channels tops in
private theorem Joined.retop {base base' : Scopes} {frame frame' : Frame} (focused : base.Focused)
    (focused' : base'.Focused) (scopes : s.scopes = base.push frame)
    (scopes' : s'.scopes = base'.push frame') (new new' : Frame) :
    Coincide W B B' ⟨s.cells, base.push new⟩ ⟨s'.cells, base'.push new'⟩ := by
  have retops := Scopes.retops_replace focused frame new
  have retops' := Scopes.retops_replace focused' frame' new'
  rw [← scopes] at retops
  rw [← scopes'] at retops'
  exact joined.heap.rescope running.sound running'.sound (running.sound.grows_retops retops)
    (running'.sound.grows_retops retops')

private theorem both_startBlock {stmts stmts' : List Stmt}
    (inner : Stmts.Reordered a b stmts stmts') :
    ((Task.block stmts).start).Couples c s ((Task.block stmts').start) c' s'
      (Both a b c c' W s.cells.size B B' 2) := by
  obtain ⟨base, block, frame, focused, scopes, top⟩ := running.top
  obtain ⟨base', block', frame', focused', scopes', top'⟩ := running'.top
  have opened : s.scopes.pushBlock = (.ok (), base.push ([] :: block :: frame)) := by
    rw [scopes, Scopes.pushBlock_push focused]
  have opened' : s'.scopes.pushBlock = (.ok (), base'.push ([] :: block' :: frame')) := by
    rw [scopes', Scopes.pushBlock_push focused']
  refine Comp.couples_bind (Comp.couples_onScopes opened opened' channels fun _ => ?_)
  refine Comp.couples_pure channels ?_
  refine both_enter (V := W) rfl ⟨joined.depth, ?_⟩ (.all inner) ?_ ?_
  · exact joined.retop running running' focused focused' scopes scopes' _ _
  · change (base'.push _).top = Frame.mapCells W (base.push _).top
    rw [Scopes.top_push focused, Scopes.top_push focused', ← top', tops, top]
    rfl
  · intro flow s₂ s₂' W₂ channels₂ answers answers' rejoined tops₂
    have ended : Running B s₂.heap := answers.2
    have ended' : Running B' s₂'.heap := answers'.2
    have tops₂ := tops₂ rfl
    obtain ⟨base₂, block₂, frame₂, focused₂, scopes₂, top₂⟩ := ended.top
    obtain ⟨base₂', block₂', frame₂', focused₂', scopes₂', top₂'⟩ := ended'.top
    have closed : s₂.scopes.popBlock = (.ok (), base₂.push frame₂) := by
      rw [scopes₂, Scopes.popBlock_push focused₂]
    have closed' : s₂'.scopes.popBlock = (.ok (), base₂'.push frame₂') := by
      rw [scopes₂', Scopes.popBlock_push focused₂']
    refine Comp.couples_bind (Comp.couples_onScopes closed closed' channels₂ fun _ => ?_)
    refine Comp.couples_pure channels₂ ?_
    refine both_give (V := W₂) ⟨⟨rejoined.depth, ?_⟩, rejoined.size, rejoined.same⟩ rfl fun _ => ?_
    · exact rejoined.toJoined.retop ended ended' focused₂ focused₂' scopes₂ scopes₂' _ _
    · change (base₂'.push _).top = Frame.mapCells W₂ (base₂.push _).top
      rw [Scopes.top_push focused₂, Scopes.top_push focused₂']
      rw [top₂, top₂'] at tops₂
      exact (List.cons.inj tops₂).2

private theorem both_startLoop {condition : Expr} {update : Assignment} {body body' : List Stmt}
    (inner : Stmts.Reordered a b body body') :
    ((Task.loop condition update body).start).Couples c s
      ((Task.loop condition update body').start) c' s' (Both a b c c' W s.cells.size B B' 2) := by
  have sees := tops ▸ Frame.agrees_mapCells W (fun name => condition.mentions name) s.scopes.top
  refine Comp.couples_pure channels (both_enter rfl joined (.eval condition) sees ?_)
  intro x s₂ s₂' W₂ channels₂ answers answers' rejoined _
  have tops₂ := rejoined.tops running.looking running'.looking answers.1 answers'.1 tops
  cases x with
  | raised exception =>
    exact couples_flow rejoined channels₂ rfl tops₂
  | value v =>
    refine Comp.couples_bind (couples_needType channels₂ fun w _ _ => ?_)
    split
    · exact couples_flow rejoined channels₂ rfl tops₂
    · refine Comp.couples_pure channels₂ ?_
      refine both_enter rfl rejoined.toJoined (.block inner) tops₂ ?_
      intro flow s₃ s₃' W₃ channels₃ answers₃ answers₃' rejoined₃ tops₃
      have rejoined₃ := rejoined.trans rejoined₃
      cases flow with
      | next =>
        refine Comp.couples_bind ?_
        refine both_assign rejoined₃.toJoined channels₃ answers₃.2 answers₃'.2 (tops₃ rfl) ?_
        intro s₄ s₄' channels₄ rejoined₄ _ _ tops₄ _
        refine Comp.couples_pure channels₄ ?_
        exact both_goto (rejoined₃.trans rejoined₄) (.loop condition update inner) tops₄
      | returned k => exact couples_flow rejoined₃ channels₃ rfl (tops₃ rfl)
      | raised exception => exact couples_flow rejoined₃ channels₃ rfl (tops₃ rfl)
    · exact Comp.couples_stop _ channels₂

private theorem both_branch {condition : Expr} {body body' : List Stmt}
    {orElse orElse' : Option (List Stmt)} (inner : Stmts.Reordered a b body body')
    (other : Option.Rel (Stmts.Reordered a b) orElse orElse') :
    (startStmt (.branch condition body orElse)).Couples c s
      (startStmt (.branch condition body' orElse')) c' s'
      (Both a b c c' W s.cells.size B B' 2) := by
  have sees := tops ▸ Frame.agrees_mapCells W (fun name => condition.mentions name) s.scopes.top
  refine Comp.couples_pure channels (both_enter rfl joined (.eval condition) sees ?_)
  intro x s₂ s₂' W₂ channels₂ answers answers' rejoined _
  have tops₂ := rejoined.tops running.looking running'.looking answers.1 answers'.1 tops
  cases x with
  | raised exception =>
    exact couples_flow rejoined channels₂ rfl tops₂
  | value v =>
    refine Comp.couples_bind (couples_needType channels₂ fun w _ _ => ?_)
    cases w with
    | bool holds =>
      cases holds with
      | true => exact couples_goto rejoined channels₂ (.block inner) tops₂
      | false =>
        cases other with
        | none => exact couples_flow rejoined channels₂ rfl tops₂
        | some other => exact couples_goto rejoined channels₂ (.block other) tops₂
    | _ => exact Comp.couples_stop _ channels₂

omit running running' in
private theorem both_attempt {body body' : List Stmt} {catchers catchers' : List (Catcher Stmt)}
    (inner : Stmts.Reordered a b body body')
    (handlers : Catchers.Reordered a b catchers catchers') :
    (startStmt (.attempt body catchers)).Couples c s (startStmt (.attempt body' catchers')) c' s'
      (Both a b c c' W s.cells.size B B' 2) := by
  refine Comp.couples_bind (Comp.couples_of_apply rfl rfl channels fun _ => ?_)
  refine Comp.couples_pure channels ?_
  refine both_enter (V := W) rfl ⟨?_, joined.heap⟩ (.block inner) tops ?_
  · exact congrArg (· + 1) joined.depth
  · intro flow s₂ s₂' W₂ channels₂ answers answers' rejoined tops₂
    have left : Rejoined W s.cells.size B B' W₂ { s₂ with tryDepth := s₂.tryDepth - 1 }
        { s₂' with tryDepth := s₂'.tryDepth - 1 } :=
      ⟨⟨congrArg (· - 1) rejoined.depth, rejoined.heap⟩, rejoined.size, rejoined.same⟩
    cases flow with
    | raised exception =>
      simp only [Pending.resume, Kind.rename, resumeHandle]
      rcases handlers.find? exception with ⟨none, none'⟩ | ⟨catcher, catcher', found, found', inner⟩
      · rw [none, none']
        refine Comp.couples_bind (Comp.couples_of_apply rfl rfl channels₂ fun _ => ?_)
        by_cases last : s₂.tryDepth - 1 = 0
        · rw [if_pos last, if_pos (left.depth.trans last)]
          exact Comp.couples_stop _ channels₂
        · rw [if_neg last, if_neg fun last' => last (left.depth.symm.trans last')]
          exact couples_flow left channels₂ rfl (tops₂ rfl)
      · rw [found, found']
        exact couples_goto rejoined channels₂ (.block inner) (tops₂ rfl)
    | next =>
      refine Comp.couples_bind (Comp.couples_of_apply rfl rfl channels₂ fun _ => ?_)
      exact couples_flow left channels₂ rfl (tops₂ rfl)
    | returned k =>
      refine Comp.couples_bind (Comp.couples_of_apply rfl rfl channels₂ fun _ => ?_)
      exact couples_flow left channels₂ rfl (tops₂ rfl)

private theorem both_loop {init : Assignment} {condition : Expr} {update : Assignment}
    {body body' : List Stmt} (inner : Stmts.Reordered a b body body') :
    (startStmt (.loop init condition update body)).Couples c s
      (startStmt (.loop init condition update body')) c' s'
      (Both a b c c' W s.cells.size B B' 2) := by
  refine Comp.couples_bind (both_assign joined channels running running' tops ?_)
  intro s₁ s₁' channels₁ rejoined _ _ tops₁ _
  exact couples_goto rejoined channels₁ (.loop condition update inner) tops₁

private theorem both_declare {name : String} {typeName : Option String} :
    (startStmt (.declare name typeName)).Couples c s (startStmt (.declare name typeName)) c' s'
      (Both a b c c' W s.cells.size B B' 2) := by
  obtain ⟨base, block, frame, focused, scopes, top⟩ := running.top
  obtain ⟨base', block', frame', focused', scopes', top'⟩ := running'.top
  rw [top, top'] at tops
  obtain ⟨rfl, rfl⟩ := List.cons.inj tops
  have created := Scopes.create_push focused block frame name nilCell
  have created' := Scopes.create_push focused' (block.mapCells W) (frame.map (Block.mapCells W))
    name nilCell
  rw [← scopes] at created
  rw [← scopes', Block.binds_mapCells] at created'
  cases bound : block.binds name with
  | true =>
    rw [bound, if_pos rfl] at created created'
    refine Comp.couples_bind (Comp.couples_onScopes created created' channels fun _ => ?_)
    exact Comp.couples_stop _ channels
  | false =>
    rw [bound, if_neg (by simp)] at created created'
    refine Comp.couples_bind (Comp.couples_onScopes created created' channels fun _ => ?_)
    refine Comp.couples_pure channels ?_
    refine both_give (V := W) ⟨⟨joined.depth, ?_⟩, Nat.le_refl _, fun _ _ => rfl⟩ rfl fun _ => ?_
    · exact joined.retop running running' focused focused' scopes scopes' _ _
    · change (base'.push _).top = Frame.mapCells W (base.push _).top
      have inserted := block.insert_mapCells W name nilCell
      rw [joined.heap.nil] at inserted
      rw [Scopes.top_push focused, Scopes.top_push focused', inserted]
      rfl

private theorem both_return {e : Expr} :
    (startStmt (.ret (some e))).Couples c s (startStmt (.ret (some e))) c' s'
      (Both a b c c' W s.cells.size B B' 2) := by
  refine Comp.couples_bind (Comp.couples_of_apply (Comp.defer_apply e _ c s)
    (Comp.defer_apply e _ c' s') channels fun _ => Comp.couples_pure channels ?_)
  have sees : (Env.top s.scopes.home).Agrees W (fun name => e.mentions name)
      (Env.top s'.scopes.home) := by
    rw [top_home running, top_home running']
    exact tops ▸ Frame.agrees_mapCells W _ s.scopes.top
  have deferred := joined.heap.defer running.sound running'.sound e sees
  have grown : Grows B s.heap (s.heap.defer e s.scopes.home) := grows_defer
  refine both_give (V := W) ⟨⟨joined.depth, deferred⟩, grown.size_le, fun _ _ => rfl⟩ ?_
    fun _ => ?_
  · have fixed := joined.heap.fixed s.cells.size (Nat.le_refl _)
    have size : s'.cells.size = s.cells.size := joined.heap.size
    simp only [Kind.rename, fixed, size]
  · have top : (s.heap.defer e s.scopes.home).scopes.top = s.scopes.top :=
      congrArg Env.top ((Scopes.extends_snapshot _).current running.sound.focused)
    have top' : (s'.heap.defer e s'.scopes.home).scopes.top = s'.scopes.top :=
      congrArg Env.top ((Scopes.extends_snapshot _).current running'.sound.focused)
    change (s'.heap.defer e s'.scopes.home).scopes.top =
      (s.heap.defer e s.scopes.home).scopes.top.mapCells W
    rw [top, top', tops]

private theorem both_startStmt {st st' : Stmt} (reordered : Stmt.Reordered a b st st') :
    (startStmt st).Couples c s (startStmt st') c' s' (Both a b c c' W s.cells.size B B' 2) := by
  have agrees : ∀ N, s.scopes.top.Agrees W N s'.scopes.top :=
    fun N => tops ▸ Frame.agrees_mapCells W N s.scopes.top
  have give : ∀ flow : Flow, Both a b c c' W s.cells.size B B' (τ := .flow) 2 (.give flow) s
      (.give (Kind.rename W .flow flow)) s' :=
    fun flow => both_give joined.rejoined rfl fun _ => tops
  cases reordered with
  | branch condition inner => exact both_branch joined channels running running' tops inner .none
  | branchElse condition inner other =>
    exact both_branch joined channels running running' tops inner (.some other)
  | loop init condition update inner => exact both_loop joined channels running running' tops inner
  | attempt inner handlers => exact both_attempt joined channels tops inner handlers
  | same =>
    cases st with
    | eval e =>
      cases e with
      | call name args =>
        refine Comp.couples_pure channels (both_enter rfl joined (.call name args) (agrees _) ?_)
        intro x s₂ s₂' W₂ channels₂ answers answers' rejoined _
        have tops₂ := rejoined.tops running.looking running'.looking answers.1.1 answers'.1.1 tops
        cases x with
        | raised exception =>
          exact couples_flow rejoined channels₂ rfl tops₂
        | value k => exact couples_flow rejoined channels₂ rfl tops₂
      | _ => exact Comp.couples_pure channels (give .next)
    | assign x =>
      refine Comp.couples_bind (both_assign joined channels running running' tops ?_)
      intro s₁ s₁' channels₁ rejoined _ _ tops₁ _
      exact couples_flow rejoined channels₁ rfl tops₁
    | declare name typeName => exact both_declare joined channels running running' tops
    | branch condition body orElse =>
      refine both_branch joined channels running running' tops (.refl body) ?_
      cases orElse with
      | none => exact .none
      | some orElse => exact .some (.refl orElse)
    | loop init condition update body =>
      exact both_loop joined channels running running' tops (.refl body)
    | attempt body catchers =>
      exact both_attempt joined channels tops (.refl body) (.refl catchers)
    | raise e =>
      refine Comp.couples_pure channels (both_enter rfl joined (.eval e) (agrees _) ?_)
      intro x s₂ s₂' W₂ channels₂ answers answers' rejoined _
      have tops₂ := rejoined.tops running.looking running'.looking answers.1 answers'.1 tops
      cases x with
      | raised exception =>
        exact couples_flow rejoined channels₂ rfl tops₂
      | value v =>
        refine Comp.couples_bind (couples_needType channels₂ fun w _ _ => ?_)
        split
        · exact couples_flow rejoined channels₂ rfl tops₂
        · exact couples_flow rejoined channels₂ rfl tops₂
        · exact Comp.couples_stop _ channels₂
    | ret e =>
      cases e with
      | none =>
        refine Comp.couples_pure channels (both_give joined.rejoined ?_ fun _ => tops)
        exact congrArg Flow.returned joined.heap.nil.symm
      | some e => exact both_return joined channels running running' tops

omit running running' in
private theorem both_startAll (context : c.Reordered a b c') {stmts stmts' : List Stmt}
    (reordered : Stmts.Reordered a b stmts stmts')
    (declared : ∀ rest rest', stmts = .assign a :: .assign b :: rest →
      stmts' = .assign b :: .assign a :: rest' →
      s.scopes.top.find? a.name ≠ none ∧ s.scopes.top.find? b.name ≠ none) :
    (startAll stmts).Couples c s (startAll stmts') c' s' (Both a b c c' W s.cells.size B B' 2) := by
  cases reordered with
  | nil => exact couples_flow joined.rejoined channels rfl tops
  | cons first others =>
    refine Comp.couples_bind (couples_traceStmt channels context fun _ => ?_)
    refine Comp.couples_pure channels (both_enter rfl joined (.stmt first) tops ?_)
    intro flow s₂ s₂' W₂ channels₂ _ _ rejoined tops₂
    cases flow with
    | next => exact couples_goto rejoined channels₂ (.all others) (tops₂ rfl)
    | returned k => exact couples_flow rejoined channels₂ rfl (tops₂ rfl)
    | raised exception => exact couples_flow rejoined channels₂ rfl (tops₂ rfl)
  | swap others =>
    refine Comp.couples_bind (couples_traceStmt channels context fun _ => ?_)
    refine Comp.couples_pure channels ⟨_, _, rfl, rfl, fun _ _ => ?_⟩
    refine ⟨_, .first joined tops (declared _ _ rfl rfl), ?_⟩
    rintro flow s₁ flow' s₁' channels₁ _ _ ⟨rfl, rfl, between⟩
    refine Comp.couples_pure channels₁ ⟨_, rfl, fun _ _ => ⟨_, .middle between others, ?_⟩⟩
    exact fun _ _ _ _ _ _ settled => settled

private theorem both_first (declared : s.scopes.top.find? a.name ≠ none)
    (declared' : s.scopes.top.find? b.name ≠ none) :
    (startStmt (.assign a)).Couples c s (startStmt (.assign b)) c' s'
      (MeetsBoth discipline (Owed a b) c c' B B' (τ := .flow) (fun flow s₁ flow' s₁' =>
        flow = .next ∧ flow' = .next ∧ Between a b W B B' s s' s₁ s₁') 2) := by
  have found : ∀ name, s'.scopes.top.find? name = (s.scopes.top.find? name).map W := fun name =>
    tops ▸ Frame.find?_mapCells W name s.scopes.top
  have bound : ∀ {x : Assignment} {r : State}, r.scopes.top.find? x.name ≠ none →
      r.scopes.top.rebind? x.name r.cells.size ≠ none := by
    intro x r found
    obtain ⟨k, found⟩ := Option.ne_none_iff_exists'.mp found
    obtain ⟨frame, rebound⟩ := Frame.exists_rebind? found r.cells.size
    simp [rebound]
  have there : s'.scopes.top.find? a.name ≠ none := by simpa [found] using declared
  have there' : s'.scopes.top.find? b.name ≠ none := by simpa [found] using declared'
  rcases assign_cases a c running with ⟨s₁, done, same, depth, assigned, _⟩ | ⟨_, _, _, none⟩
  · rcases assign_cases b c' running' with ⟨s₁', done', same', depth', assigned', _⟩ |
      ⟨_, _, _, none⟩
    · have channels₁ : s₁'.channels = s₁.channels := (same'.trans channels).trans same.symm
      refine Comp.couples_bind (Comp.couples_of_apply done done' channels₁ fun _ => ?_)
      refine Comp.couples_pure channels₁ ⟨_, rfl, fun _ _ => ⟨rfl, rfl, ?_⟩⟩
      exact ⟨joined, tops, running, running', assigned, assigned', depth, depth', declared', there⟩
    · exact absurd none (bound there')
  · exact absurd none (bound declared)

end Statements

section Second

variable (between : Between a b W B B' s s' s₁ s₁') (channels : s₁'.channels = s₁.channels)

include between channels

private theorem both_middle (context : c.Reordered a b c') {rest rest' : List Stmt}
    (others : Stmts.Reordered a b rest rest') :
    (startAll (.assign b :: rest)).Couples c s₁ (startAll (.assign a :: rest')) c' s₁'
      (Both a b c c' W s.cells.size B B' 2) := by
  refine Comp.couples_bind (couples_traceStmt channels context fun _ => ?_)
  refine Comp.couples_pure channels ⟨_, _, rfl, rfl, fun _ _ => ⟨_, .second between, ?_⟩⟩
  rintro flow s₂ _ s₂' channels₂ _ _ ⟨W₂, rejoined, rfl, tops₂⟩
  cases flow with
  | next => exact couples_goto rejoined channels₂ (.all others) (tops₂ rfl)
  | returned k => exact couples_flow rejoined channels₂ rfl (tops₂ rfl)
  | raised exception => exact couples_flow rejoined channels₂ rfl (tops₂ rfl)

private theorem both_second (running : Running B s₁.heap) (running' : Running B' s₁'.heap)
    (distinct : a.name ≠ b.name) (apart : a.expr.mentions b.name = false)
    (apart' : b.expr.mentions a.name = false) :
    (startStmt (.assign b)).Couples c s₁ (startStmt (.assign a)) c' s₁'
      (Both a b c c' W s.cells.size B B' 2) := by
  have bound : s₁.scopes.top.rebind? b.name s₁.cells.size ≠ none := by
    obtain ⟨k, found⟩ := Option.ne_none_iff_exists'.mp between.declared
    have kept := (Frame.find?_rebind?_of_ne distinct.symm between.first.top).trans found
    obtain ⟨frame, rebound⟩ := Frame.exists_rebind? kept s₁.cells.size
    simp [rebound]
  have bound' : s₁'.scopes.top.rebind? a.name s₁'.cells.size ≠ none := by
    obtain ⟨k, found⟩ := Option.ne_none_iff_exists'.mp between.declared'
    have kept := (Frame.find?_rebind?_of_ne distinct between.first'.top).trans found
    obtain ⟨frame, rebound⟩ := Frame.exists_rebind? kept s₁'.cells.size
    simp [rebound]
  rcases assign_cases b c running with ⟨s₂, done, same, depth, second, _⟩ | ⟨_, _, _, none⟩
  · rcases assign_cases a c' running' with ⟨s₂', done', same', depth', second', _⟩ |
      ⟨_, _, _, none⟩
    · have channels₂ : s₂'.channels = s₂.channels := (same'.trans channels).trans same.symm
      obtain ⟨coincide, tops₂⟩ := between.joined.heap.swap between.running.sound
        between.running'.sound between.tops between.running.looking.older distinct apart apart'
        between.first second between.first' second' running.sound running'.sound
      refine Comp.couples_bind (Comp.couples_of_apply done done' channels₂ fun _ => ?_)
      refine Comp.couples_pure channels₂ ?_
      refine both_give (V := swapNew W s.cells.size) ⟨⟨?_, coincide⟩, ?_, ?_⟩ rfl fun _ => tops₂
      · rw [depth, depth', between.depth, between.depth', between.joined.depth]
      · exact Nat.le_trans between.first.grows.size_le second.grows.size_le
      · exact fun k old => swapNew_of_lt W old
    · exact absurd none bound'
  · exact absurd none bound

end Second

def Task.stmts? : {σ : Kind} → Task σ → Option (List Stmt)
  | _, .all stmts => some stmts
  | _, _ => none

/-- Where the two runs are about to execute the assignments in two orders, both names are found. -/
def Task.Declared (a b : Assignment) {σ : Kind} (t : Task σ) (s : State) (t' : Task σ) (_ : State) :
    Prop :=
  ∀ rest rest', t.stmts? = some (.assign a :: .assign b :: rest) →
    t'.stmts? = some (.assign b :: .assign a :: rest') →
    s.scopes.top.find? a.name ≠ none ∧ s.scopes.top.find? b.name ≠ none

theorem kept_owed (context : c.Reordered a b c') (distinct : a.name ≠ b.name)
    (apart : a.expr.mentions b.name = false) (apart' : b.expr.mentions a.name = false) :
    KeptBoth discipline (Owed a b) c c' (Task.Declared a b) := by
  intro σ B B' t t' s s' Q moment channels ready ready' owed
  cases owed with
  | alike joined twin sees =>
    cases twin with
    | eval e => exact both_startEval joined channels ready ready' sees
    | force k => exact both_startForce joined channels ready.1 ready'.1 ready.2
    | printArgs args text => exact both_startPrintArgs joined channels ready.2 ready'.2 sees
    | call name args =>
      exact both_startCall channels context joined ready.1 ready'.1
        (fun some => ready.2 (.inl some)) (fun some => ready'.2 (.inl some)) sees
    | block inner => exact both_startBlock joined channels ready ready' sees inner
    | all inner =>
      refine both_startAll joined channels sees context inner fun rest rest' here there => ?_
      exact moment rest rest' (congrArg some here) (congrArg some there)
    | stmt inner => exact both_startStmt joined channels ready ready' sees inner
    | loop condition update inner => exact both_startLoop joined channels ready ready' sees inner
  | first joined tops declared =>
    exact both_first joined channels ready ready' tops declared.1 declared.2
  | middle between others => exact both_middle between channels context others
  | second between => exact both_second between channels ready ready' distinct apart apart'

private theorem coincide_initial (channels : Channels) :
    Coincide (Equiv.refl CellId) [] [] (State.initial channels).heap
      (State.initial channels).heap where
  size := rfl
  fixed _ _ := rfl
  nil := rfl
  busy := rfl
  cells := by
    intro k content hk
    rcases k with _ | k
    · obtain rfl : Cell.value .nil = content := by simpa [State.initial] using hk
      exact ⟨_, hk, .value .nil⟩
    · simp [State.initial] at hk
  seen := by
    intro k e i i' env env' _ hk
    rcases k with _ | k <;> simp [State.initial] at hk

theorem coupled_first (channels : Channels) :
    Coupled discipline (Owed a b) c c' (.first channels) (.first channels) := by
  have sees : (State.initial channels).scopes.top.Agrees (Equiv.refl CellId)
      (fun name => Expr.mentionsAny name []) (State.initial channels).scopes.top := by
    intro name mentioned
    cases mentioned
  exact ⟨_, _, _, rfl, rfl, ready_initial channels, ready_initial channels, _,
    .alike ⟨rfl, coincide_initial channels⟩ (.call "main" []) sees, rfl⟩

end CallByNeed.Language
