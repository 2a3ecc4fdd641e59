import CallByNeed.Proofs.Heap.Binding
import CallByNeed.Proofs.Machine.Primitive

set_option autoImplicit false
set_option relaxedAutoImplicit false

/-!
The discipline of a run. Every task finds the cells and scopes in a state that fits it and leaves
them so: an expression leaves the environments as they are, a statement changes the frame on top
only, and an expression that is being evaluated is not needed for its own value. So blocks and
frames are opened and closed in pairs, and no operation on the scopes fails.
-/

namespace CallByNeed.Language

open Heap

def Task.Ready (B : List CellId) (h : Heap) : {σ : Kind} → Task σ → Prop
  | _, .eval _ => Looking B h
  | _, .force k => Sound B h ∧ h.Clear B k
  | _, .printArgs args _ => Sound B h ∧ (args ≠ [] → Looking B h)
  | _, .call _ args => Sound B h ∧ (args ≠ [] ∨ h.scopes.current ≠ [] → Looking B h)
  | _, .block _ => Running B h
  | _, .all _ => Running B h
  | _, .stmt _ => Running B h
  | _, .loop _ _ _ => Running B h

def Kind.Leaves (B : List CellId) (h : Heap) : (σ : Kind) → σ.Answer → Heap → Prop
  | .value, _, h' => Keeps B h h'
  | .text, _, h' => Keeps B h h'
  | .cell, a, h' => Keeps B h h' ∧ ∀ k, a = .value k → h'.Clear B k
  | .flow, a, h' => Shifts B h h' ∧ ∀ k, a = .returned k → h'.Clear B k

/-- What holds of the cells and scopes when an answer of a kind is handed on. -/
def Kind.Stands (B : List CellId) (h : Heap) : Kind → Prop
  | .flow => Running B h
  | _ => Sound B h

def discipline : Contract where
  pre B t s := t.Ready B s.heap
  post B _ s a s' := Kind.Leaves B s.heap _ a s'.heap
  inv σ B s := σ.Stands B s.heap
  allows := Fault.Regular

/-- It goes on within the discipline, on the way from a heap to what a task of the kind leaves. -/
private abbrev Goes (c : Context) (B : List CellId) (h : Heap) {τ : Kind} :
    Nat → Next τ → State → Prop :=
  Contract.Meets .free discipline c B fun a s => Kind.Leaves B h τ a s.heap

section Goes

variable {c : Context} {B : List CellId} {h : Heap} {σ τ : Kind} {n : Nat} {s : State}

private theorem goes_give {a : τ.Answer} (stands : τ.Stands B s.heap)
    (leaves : Kind.Leaves B h τ a s.heap) : Goes c B h n (.give a) s := by
  rw [Goes, Contract.meets_give]
  exact fun _ => ⟨stands, leaves⟩

private theorem goes_goto {t : Task τ} (ready : t.Ready B s.heap)
    (leaves : ∀ (a : τ.Answer) (h' : Heap), Kind.Leaves B s.heap τ a h' →
      Kind.Leaves B h τ a h') : Goes c B h n (.goto t) s := by
  rw [Goes, Contract.meets_goto]
  exact fun _ => ⟨ready, fun a s' _ answer => leaves a s'.heap answer.1⟩

private theorem goes_enter {t : Task σ} {p : Pending σ τ} (ready : t.Ready (p.busy ++ B) s.heap)
    (resumes : ∀ (a : σ.Answer) (s' : State), σ.Stands (p.busy ++ B) s'.heap →
      Kind.Leaves (p.busy ++ B) s.heap σ a s'.heap →
      (p.resume a).Ensures c s' Fault.Regular (Goes c B h n)) :
    Goes c B h (n + 1) (.enter t p) s := by
  rw [Goes, Contract.meets_enter]
  exact fun _ => ⟨ready, fun a s' _ answer => resumes a s' answer.2 answer.1⟩

end Goes

private theorem regular_self (f : Fault) (h : f.Regular) : f.Regular := h

theorem ensures_onValue {α : Type} {τ : Kind} {f : α → Comp (Next τ)}
    {g : Option String → τ.Answer} {r : Raising α} {c : Context} {s : State} {F : Fault → Prop}
    {Q : Next τ → State → Prop} (raised : ∀ exception, r = .raised exception →
      Q (.give (g exception)) s)
    (value : ∀ a, r = .value a → (f a).Ensures c s F Q) : (onValue f g r).Ensures c s F Q := by
  cases r with
  | raised exception => exact raised exception rfl
  | value a => exact value a rfl

theorem Comp.ensures_of_apply {α : Type} {x : Comp α} {c : Context} {s s' : State} {a : α}
    {F : Fault → Prop} {Q : α → State → Prop} (h : x c s = .ok a s') :
    x.Ensures c s F Q ↔ Q a s' := by
  simp only [Comp.Ensures, h]

section Expressions

variable {c : Context} {B : List CellId} {s : State}

private theorem goes_startEval {e : Expr} (looking : Looking B s.heap) :
    (startEval e).Ensures c s Fault.Regular (Goes c B s.heap 2) := by
  cases e with
  | var name =>
    obtain ⟨frame, frames, current, clear⟩ := looking.frame
    have found : (s.scopes.get? name, s.scopes) = (.ok (frame.find? name), s.scopes) := by
      simp only [Scopes.get?, current]
    rw [startEval, Comp.ensures_bind]
    refine (Comp.ensures_onScopes (f := fun u => (u.get? name, u)) found).mpr ?_
    cases find : frame.find? name with
    | none => exact ensures_fail regular_self _
    | some k =>
      refine goes_goto ⟨looking.sound, clear k (Frame.mem_cells_of_find? find)⟩ ?_
      exact fun a h' keeps => keeps
  | call name args =>
    refine goes_enter ⟨looking.sound, fun _ => looking⟩ fun a s' sound leaves => ?_
    refine ensures_onValue (fun _ _ => goes_give sound leaves.1) fun k given => ?_
    refine goes_goto ⟨sound, leaves.2 k given⟩ fun a h' keeps => ?_
    exact Keeps.trans leaves.1 keeps
  | unary op operand =>
    refine goes_enter looking fun a s' sound keeps => ?_
    refine ensures_onValue (fun _ _ => goes_give sound keeps) fun v given => ?_
    rw [Comp.ensures_bind]
    refine ensures_needType regular_self fun w _ => ?_
    split
    · exact goes_give sound keeps
    · exact ensures_fail regular_self _
  | binary op left right =>
    refine goes_enter looking fun a s' sound keeps => ?_
    refine ensures_onValue (fun _ _ => goes_give sound keeps) fun v given => ?_
    unfold resumeOperand
    split
    · exact fun fault => by simp
    · exact fun fault => by simp
    · split
      · exact goes_give sound keeps
      · refine goes_enter (looking.keeps sound keeps) fun a s'' sound' keeps' => ?_
        have keeps' : Keeps B s.heap s''.heap := Keeps.trans keeps keeps'
        refine ensures_onValue (fun _ _ => goes_give sound' keeps') fun w given' => ?_
        rw [resumeBinary, Comp.ensures_bind]
        refine ensures_needType regular_self fun l _ => ?_
        rw [Comp.ensures_bind]
        refine ensures_needRight regular_self fun r _ => ?_
        rw [Comp.ensures_bind]
        exact ensures_applyBinary regular_self fun u _ => goes_give sound' keeps'
  | _ => exact goes_give looking.sound (Keeps.refl B s.heap)

private theorem goes_startForce {k : CellId} (sound : Sound B s.heap) (clear : s.heap.Clear B k) :
    (startForce k).Ensures c s Fault.Regular (Goes c B s.heap 2) := by
  obtain ⟨content, present⟩ := clear.present
  cases content with
  | value v =>
    rw [Comp.ensures_of_apply (startForce_value c present)]
    exact goes_give sound (Keeps.refl B s.heap)
  | thunk e i =>
    have thunk : s.cells[k]? = some (.thunk e i) := present
    rw [Comp.ensures_of_apply (startForce_thunk c thunk)]
    refine goes_enter (sound.looking_enter clear thunk) fun a s' sound' keeps => ?_
    have ended : Evaluated B k e i s.heap s'.heap :=
      ⟨sound, clear.not_mem, thunk, sound', keeps.grows, keeps.scopes⟩
    simp only [Pending.resume, resumeUpdate, Comp.ensures_bind, Comp.ensures_modify]
    rcases a with (_ | v) | exception
    · exact fun fault => by simp
    · refine goes_give (ended.sound_settle v) ⟨ended.extends_refocus, ended.grows_settle v⟩
    · exact goes_give ended.sound_refocus ⟨ended.extends_refocus, ended.grows_refocus⟩

private theorem goes_startPrintArgs {args : List Expr} {text : String} (sound : Sound B s.heap)
    (looking : args ≠ [] → Looking B s.heap) :
    (startPrintArgs text args).Ensures c s Fault.Regular (Goes c B s.heap 2) := by
  cases args with
  | nil => exact goes_give sound (Keeps.refl B s.heap)
  | cons arg args =>
    have looking := looking (by simp)
    refine goes_enter looking fun a s' sound keeps => ?_
    refine ensures_onValue (fun _ _ => goes_give sound keeps) fun v given => ?_
    rw [Comp.ensures_bind]
    refine ensures_needType regular_self fun w _ => ?_
    rw [Comp.ensures_bind]
    refine ensures_printable regular_self fun shown => ?_
    cases shown with
    | none => exact fun fault => by simp
    | some shown =>
      refine goes_goto ⟨sound, fun _ => looking.keeps sound keeps⟩ fun a h' keeps' => ?_
      exact Keeps.trans keeps keeps'

end Expressions

section Calls

variable {c : Context} {B : List CellId} {s : State}

private theorem goes_readValue {h : Heap} {asInteger : Bool} {n : Nat} (sound : Sound B s.heap)
    (keeps : Keeps B h s.heap) :
    (readValue asInteger).Ensures c s Fault.Regular fun k =>
      Goes c B h n (.give (τ := .cell) (.value k)) := by
  refine ensures_readValue regular_self fun channels v => ?_
  refine goes_give sound.alloc ⟨Keeps.trans keeps ⟨.refl _, grows_alloc⟩, fun k given => ?_⟩
  cases given
  exact sound.clear_alloc

private theorem goes_resumeLeave {h : Heap} {frame : Frame} {flow : Flow} {n : Nat} {r : State}
    (sound₀ : Sound B r.heap) (keeps₀ : Keeps B h r.heap) (sound : Sound B s.heap)
    (shifts : Shifts B ⟨r.cells, r.scopes.push frame⟩ s.heap)
    (returned : ∀ k, flow = .returned k → s.heap.Clear B k) :
    (resumeLeave flow).Ensures c s Fault.Regular (Goes c B h (τ := .cell) n) := by
  obtain ⟨u, popped, sound', keeps', grows⟩ := sound₀.close_frame sound shifts
  refine ensures_resumeLeave regular_self popped ?_
  refine goes_give sound' ⟨Keeps.trans keeps₀ keeps', fun k given => ?_⟩
  cases flow with
  | raised exception => cases given
  | returned k =>
    cases given
    exact (returned k rfl).mono sound grows
  | next =>
    cases given
    exact sound'.clear_nilCell

private theorem goes_enterFunc {func : Func} {args : List Expr} (sound : Sound B s.heap)
    (looking : args ≠ [] → Looking B s.heap) :
    (enterFunc func args).Ensures c s Fault.Regular (Goes c B s.heap 2) := by
  obtain ⟨sound₁, keeps₁, clear₁⟩ := sound.keeps_deferAll args looking
  rw [Comp.ensures_of_apply (enterFunc_apply func args c sound.focused)]
  refine goes_enter (sound₁.open_frame fun k mem => clear₁ k (mem_cells_bindParams mem)) ?_
  intro flow s' running leaves
  exact goes_resumeLeave (r := s.withHeap (s.heap.deferAll args)) sound₁ keeps₁ running.sound
    leaves.1 leaves.2

private theorem goes_startCall {name : String} {args : List Expr} (sound : Sound B s.heap)
    (looking : args ≠ [] → Looking B s.heap) :
    (startCall name args).Ensures c s Fault.Regular (Goes c B s.heap 2) := by
  unfold startCall
  split
  · refine goes_enter ⟨sound, looking⟩ fun a s' sound' keeps => ?_
    refine ensures_onValue (fun _ _ => goes_give sound' ⟨keeps, fun k given => by cases given⟩)
      fun text _ => ?_
    rw [Comp.ensures_bind]
    refine ensures_emit fun output printed => ?_
    refine goes_give sound' ⟨keeps, fun k given => ?_⟩
    cases given
    exact sound'.clear_nilCell
  · split
    · split
      · rw [Comp.ensures_bind]
        exact goes_readValue sound (.refl B s.heap)
      · refine goes_enter (looking (by simp)) fun a s' sound' keeps => ?_
        refine ensures_onValue
          (fun _ _ => goes_give sound' ⟨keeps, fun k given => by cases given⟩) fun v _ => ?_
        rw [Comp.ensures_bind]
        refine ensures_needType regular_self fun w _ => ?_
        rw [Comp.ensures_bind]
        refine ensures_printable regular_self fun shown => ?_
        rw [Comp.ensures_bind]
        refine ensures_emit fun output printed => ?_
        rw [Comp.ensures_bind]
        exact goes_readValue (s := { s' with channels := _ }) sound' keeps
      · exact ensures_fail regular_self _
    · rw [Comp.ensures_bind, Comp.ensures_context]
      split
      · exact ensures_fail regular_self _
      · exact goes_enterFunc sound looking

end Calls

section Statements

variable {c : Context} {B : List CellId} {s : State}

theorem ensures_assign {a : Assignment} {Q : Flow → State → Prop}
    (running : Running B s.heap)
    (h : ∀ s', Running B s'.heap → Shifts B s.heap s'.heap → Q .next s') :
    (assign a).Ensures c s Fault.Regular Q := by
  obtain ⟨base, block, frame, focused, scopes, clear⟩ := running.frame
  obtain ⟨base', extended, scopes', assigned⟩ := assign_apply a c focused scopes
  have current : s.scopes.current = (block :: frame) :: base.current :=
    (congrArg Scopes.current scopes).trans (focused.current _)
  obtain ⟨sound₁, keeps₁, clear₁⟩ := running.sound.keeps_defer a.expr base.current clear
  rw [← current] at sound₁ keeps₁ clear₁
  unfold Comp.Ensures
  rw [assigned]
  cases rebound : Frame.rebind? a.name s.cells.size (block :: frame) with
  | none => exact fun fault => by simp
  | some frame' =>
    have running₁ := running.keeps sound₁ keeps₁
    have clear' : ∀ k ∈ frame'.cells, (s.heap.defer a.expr s.scopes.current).Clear B k := by
      intro k mem
      rcases Frame.mem_cells_rebind? rebound mem with rfl | old
      · exact clear₁
      · exact (clear k old).mono running.sound keeps₁.grows
    obtain ⟨sound₂, shifts₂⟩ := running₁.replace (extended.focused focused) scopes' clear'
      (Frame.length_rebind? rebound)
    exact h _ (running₁.shifts sound₂ shifts₂) ((running.keeps_shifts keeps₁).trans shifts₂)

private theorem goes_resumeHandle {h : Heap} {catchers : List (Catcher Stmt)} {flow : Flow}
    {n : Nat} (running : Running B s.heap) (leaves : Kind.Leaves B h .flow flow s.heap) :
    (resumeHandle catchers flow).Ensures c s Fault.Regular (Goes c B h n) := by
  cases flow with
  | raised exception =>
    rw [resumeHandle]
    split
    · refine goes_goto running fun a h' leaves' => ?_
      exact ⟨leaves.1.trans leaves'.1, leaves'.2⟩
    · rw [leaveTry, Comp.ensures_bind, Comp.ensures_step]
      split
      · exact ensures_fail regular_self _
      · exact goes_give running leaves
  | next => exact goes_give running leaves
  | returned k => exact goes_give running leaves

private theorem goes_startDeclare {name : String} {typeName : Option String}
    (running : Running B s.heap) :
    (startStmt (.declare name typeName)).Ensures c s Fault.Regular (Goes c B s.heap 2) := by
  obtain ⟨base, block, frame, focused, scopes, clear⟩ := running.frame
  have created := Scopes.create_push focused block frame name nilCell
  rw [← scopes] at created
  rw [startStmt, Comp.ensures_bind]
  cases bound : block.binds name with
  | true =>
    rw [bound, if_pos rfl] at created
    rw [Comp.ensures_onScopes created]
    exact ensures_fail regular_self _
  | false =>
    rw [bound, if_neg (by simp)] at created
    rw [Comp.ensures_onScopes created]
    have clear' : ∀ k ∈ Frame.cells (block.insert name nilCell :: frame),
        s.heap.Clear B k := by
      intro k mem
      rcases Frame.mem_cells_cons.mp mem with inner | outer
      · rcases Block.mem_cells_insert inner with rfl | old
        · exact running.sound.clear_nilCell
        · exact clear k (Frame.mem_cells_cons.mpr (.inl old))
      · exact clear k (Frame.mem_cells_cons.mpr (.inr outer))
    obtain ⟨sound, shifts⟩ := running.replace focused scopes clear' rfl
    exact goes_give (running.shifts sound shifts) ⟨shifts, fun k given => by cases given⟩

private theorem goes_startReturn {e : Expr} (running : Running B s.heap) :
    (startStmt (.ret (some e))).Ensures c s Fault.Regular (Goes c B s.heap 2) := by
  obtain ⟨base, block, frame, focused, scopes, clear⟩ := running.frame
  have home : s.scopes.home = (block :: frame) :: base.home :=
    (congrArg Scopes.home scopes).trans (Scopes.push_home _)
  obtain ⟨sound, keeps, clear'⟩ := running.sound.keeps_defer e base.home clear
  rw [← home] at sound keeps clear'
  rw [startStmt, Comp.ensures_bind, Comp.ensures_of_apply (Comp.defer_apply e _ c s)]
  refine goes_give (running.keeps sound keeps) ⟨running.keeps_shifts keeps, fun k given => ?_⟩
  cases given
  exact clear'

private theorem goes_startStmt {stmt : Stmt} (running : Running B s.heap) :
    (startStmt stmt).Ensures c s Fault.Regular (Goes c B s.heap 2) := by
  have same := running.shifts_refl
  cases stmt with
  | eval e =>
    cases e with
    | call name args =>
      refine goes_enter ⟨running.sound, fun _ => running.looking⟩ fun a s' sound leaves => ?_
      have running' := running.keeps sound leaves.1
      have shifts := running.keeps_shifts leaves.1
      refine ensures_onValue (fun _ _ => ?_) fun _ _ => ?_
      · exact goes_give running' ⟨shifts, fun k given => by cases given⟩
      · exact goes_give running' ⟨shifts, fun k given => by cases given⟩
    | _ => exact goes_give running ⟨same, fun k given => by cases given⟩
  | assign a =>
    rw [startStmt, Comp.ensures_bind]
    refine ensures_assign running fun s' running' shifts => ?_
    exact goes_give running' ⟨shifts, fun k given => by cases given⟩
  | declare name typeName => exact goes_startDeclare running
  | branch condition body orElse =>
    refine goes_enter running.looking fun a s' sound keeps => ?_
    have running' := running.keeps sound keeps
    have shifts := running.keeps_shifts keeps
    refine ensures_onValue (fun _ _ => ?_) fun v _ => ?_
    · exact goes_give running' ⟨shifts, fun k given => by cases given⟩
    · rw [resumeBranch, Comp.ensures_bind]
      refine ensures_needType regular_self fun w _ => ?_
      split
      · exact goes_goto running' fun a h' leaves => ⟨shifts.trans leaves.1, leaves.2⟩
      · exact goes_goto running' fun a h' leaves => ⟨shifts.trans leaves.1, leaves.2⟩
      · exact goes_give running' ⟨shifts, fun k given => by cases given⟩
      · exact ensures_fail regular_self _
  | loop init condition update body =>
    rw [startStmt, Comp.ensures_bind]
    refine ensures_assign running fun s' running' shifts => ?_
    exact goes_goto running' fun a h' leaves => ⟨shifts.trans leaves.1, leaves.2⟩
  | attempt body catchers =>
    rw [startStmt, enterTry, Comp.ensures_bind, Comp.ensures_modify]
    refine goes_enter running fun flow s' running' leaves => ?_
    exact goes_resumeHandle running' leaves
  | raise e =>
    refine goes_enter running.looking fun a s' sound keeps => ?_
    have running' := running.keeps sound keeps
    have shifts := running.keeps_shifts keeps
    refine ensures_onValue (fun _ _ => ?_) fun v _ => ?_
    · exact goes_give running' ⟨shifts, fun k given => by cases given⟩
    · rw [resumeThrow, Comp.ensures_bind]
      refine ensures_needType regular_self fun w _ => ?_
      split
      · exact goes_give running' ⟨shifts, fun k given => by cases given⟩
      · exact goes_give running' ⟨shifts, fun k given => by cases given⟩
      · exact ensures_fail regular_self _
  | ret e =>
    cases e with
    | none =>
      refine goes_give running ⟨same, fun k given => ?_⟩
      cases given
      exact running.sound.clear_nilCell
    | some e => exact goes_startReturn running

private theorem goes_startBlock {stmts : List Stmt} (running : Running B s.heap) :
    ((Task.block stmts).start).Ensures c s Fault.Regular (Goes c B s.heap 2) := by
  obtain ⟨u, opened, running'⟩ := running.open_block
  rw [Task.start, Comp.ensures_bind, Comp.ensures_onScopes opened]
  refine goes_enter running' fun flow s' ended leaves => ?_
  obtain ⟨u', closed, sound', shifts', grows⟩ := running.close_block opened ended.sound leaves.1
  simp only [Pending.resume]
  rw [Comp.ensures_bind, Comp.ensures_onScopes closed]
  exact goes_give (running.shifts sound' shifts')
    ⟨shifts', fun k given => (leaves.2 k given).mono ended.sound grows⟩

private theorem goes_startAll {stmts : List Stmt} (running : Running B s.heap) :
    (startAll stmts).Ensures c s Fault.Regular (Goes c B s.heap 2) := by
  cases stmts with
  | nil => exact goes_give running ⟨running.shifts_refl, fun k given => by cases given⟩
  | cons stmt stmts =>
    rw [startAll, Comp.ensures_bind]
    refine ensures_traceStmt fun printed => ?_
    refine goes_enter running fun flow s' running' leaves => ?_
    cases flow with
    | next =>
      refine goes_goto running' fun a h' leaves' => ?_
      exact ⟨leaves.1.trans leaves'.1, leaves'.2⟩
    | returned k => exact goes_give running' leaves
    | raised exception => exact goes_give running' leaves

private theorem goes_startLoop {condition : Expr} {update : Assignment} {body : List Stmt}
    (running : Running B s.heap) :
    ((Task.loop condition update body).start).Ensures c s Fault.Regular (Goes c B s.heap 2) := by
  refine goes_enter running.looking fun a s' sound keeps => ?_
  have running' := running.keeps sound keeps
  have shifts := running.keeps_shifts keeps
  refine ensures_onValue (fun _ _ => ?_) fun v _ => ?_
  · exact goes_give running' ⟨shifts, fun k given => by cases given⟩
  · rw [resumeTest, Comp.ensures_bind]
    refine ensures_needType regular_self fun w _ => ?_
    split
    · exact goes_give running' ⟨shifts, fun k given => by cases given⟩
    · refine goes_enter running' fun flow s'' ended leaves => ?_
      have shifts' := shifts.trans leaves.1
      cases flow with
      | next =>
        simp only [Pending.resume]
        rw [Comp.ensures_bind]
        refine ensures_assign ended fun s₃ running₃ shifts₃ => ?_
        refine goes_goto running₃ fun a h' leaves' => ?_
        exact ⟨(shifts'.trans shifts₃).trans leaves'.1, leaves'.2⟩
      | returned k => exact goes_give ended ⟨shifts', leaves.2⟩
      | raised exception => exact goes_give ended ⟨shifts', leaves.2⟩
    · exact ensures_fail regular_self _

end Statements

theorem kept_discipline (c : Context) : Contract.Kept .free discipline c fun _ => True := by
  intro σ B t s _ _ ready
  cases t with
  | eval e => exact goes_startEval ready
  | force k => exact goes_startForce ready.1 ready.2
  | printArgs args text => exact goes_startPrintArgs ready.1 ready.2
  | call name args => exact goes_startCall ready.1 fun some => ready.2 (.inl some)
  | block stmts => exact goes_startBlock ready
  | all stmts => exact goes_startAll ready
  | stmt st => exact goes_startStmt ready
  | loop condition change body => exact goes_startLoop ready

private theorem sound_initial (channels : Channels) : Sound [] (State.initial channels).heap where
  nil := rfl
  busy := by simp
  distinct := .nil
  snapshot := by
    intro k e i hk
    rcases k with _ | k <;> simp [State.initial] at hk
  single := by
    intro k k' e e' i hk
    rcases k with _ | k <;> simp [State.initial] at hk
  idle _ := rfl
  focus := by simp

theorem ready_initial (channels : Channels) :
    (Task.call "main" []).Ready [] (State.initial channels).heap :=
  ⟨sound_initial channels, fun frames => by simp [State.initial, Scopes.current] at frames⟩

/-- The discipline holds at every moment of a run before a division by zero is turned into an
exception. -/
theorem discipline_holds {c : Context} {channels : Channels} {x : Config .cell}
    (h : Config.Reaches c Config.Untrapped (.first channels) x) :
    discipline.Holds c [] (discipline.Answers [] (.call "main" []) (State.initial channels)) x := by
  refine (kept_discipline c).holds_reaches (fun x untrapped => ⟨untrapped, ?_⟩) ?_ h
  · cases x <;> trivial
  · exact ⟨ready_initial channels, fun a s post inv => ⟨post, inv⟩⟩

theorem ready_of_run {c : Context} {channels : Channels} {σ : Kind} {t : Task σ}
    {k : Stack .cell σ} {s : State}
    (h : Config.Reaches c Config.Untrapped (.first channels) (.run t k s)) :
    t.Ready k.busy s.heap := by
  have ready : t.Ready (k.busy ++ []) s.heap := (discipline_holds h).1
  rwa [List.append_nil] at ready

theorem stands_of_done {c : Context} {channels : Channels} {σ : Kind} {a : σ.Answer}
    {k : Stack .cell σ} {s : State}
    (h : Config.Reaches c Config.Untrapped (.first channels) (.done a k s)) :
    σ.Stands k.busy s.heap := by
  have stands : σ.Stands (k.busy ++ []) s.heap := (discipline_holds h).1
  rwa [List.append_nil] at stands

end CallByNeed.Language
