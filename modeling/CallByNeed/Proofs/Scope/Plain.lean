import CallByNeed.Proofs.Scope.Block
import CallByNeed.Proofs.Scope.Push

set_option autoImplicit false
set_option relaxedAutoImplicit false

/-!
Scopes as one plain stack. While names are looked up in a snapshot, every operation works on two
environments whose frames may differ in any way. Above the frames that are there, a sequence of
operations that opens a frame first and closes only what it has opened keeps one stack of frames of
its own, which is the same in both environments. So such a sequence cannot tell the scopes from a
plain stack, and leaves nothing behind once its frame is closed.
-/

namespace CallByNeed.Language

inductive ScopeOp where
  | pushFrame
  | pushBlock
  | popBlock
  | popFrame
  | create (name : String) (cell : CellId)
  | set (name : String) (cell : CellId)
  | get (name : String)
deriving DecidableEq, Repr

inductive ScopeAnswer where
  | done
  /-- Whether a binding was made. -/
  | made (accepted : Bool)
  /-- The cell of a name, if it is bound. -/
  | found (cell : Option CellId)
deriving DecidableEq, Repr

namespace Scopes

def Result.answered {α : Type} (answer : α → ScopeAnswer) (r : Result α) : Result ScopeAnswer :=
  (r.1.map answer, r.2)

def perform (s : Scopes) : ScopeOp → Result ScopeAnswer
  | .pushFrame => (.ok .done, s.pushFrame)
  | .pushBlock => Result.answered (fun _ => .done) s.pushBlock
  | .popBlock => Result.answered (fun _ => .done) s.popBlock
  | .popFrame => Result.answered (fun _ => .done) s.popFrame
  | .create name cell => Result.answered .made (s.create name cell)
  | .set name cell => Result.answered .made (s.set name cell)
  | .get name => ((s.get? name).map .found, s)

/-- Carries out operations one after another; one that fails does not keep the others from being
carried out. -/
def performAll (s : Scopes) : List ScopeOp → List (Except ScopeFault ScopeAnswer) × Scopes
  | [] => ([], s)
  | op :: ops =>
    let (answer, s) := s.perform op
    let (answers, s) := s.performAll ops
    (answer :: answers, s)

end Scopes

abbrev Bindings := String → Option CellId

def Bindings.empty : Bindings :=
  fun _ => none

def Bindings.bind (block : Bindings) (name : String) (cell : CellId) : Bindings :=
  fun other => if other = name then some cell else block other

/-- A plain stack of scopes: frames of blocks, the innermost first. -/
abbrev Plain := List (List Bindings)

namespace Plain

/-- Carries out an operation on a plain stack, if it has the frame or block that is needed. A name
is looked for in the blocks of the innermost frame from the innermost outwards, and only a name of
the innermost block cannot be created. -/
def perform : ScopeOp → Plain → Option (ScopeAnswer × Plain)
  | .pushFrame, stack => some (.done, [Bindings.empty] :: stack)
  | .pushBlock, frame :: frames => some (.done, (Bindings.empty :: frame) :: frames)
  | .popBlock, (_ :: blocks) :: frames => some (.done, blocks :: frames)
  | .popFrame, _ :: frames => some (.done, frames)
  | .create name cell, (block :: blocks) :: frames =>
    if (block name).isSome then some (.made false, (block :: blocks) :: frames)
    else some (.made true, (Bindings.bind block name cell :: blocks) :: frames)
  | .set name cell, frame :: frames =>
    match frame.findIdx? fun block => (block name).isSome with
    | none => some (.made false, frame :: frames)
    | some i => some (.made true, frame.modify i (fun block => block.bind name cell) :: frames)
  | .get name, frame :: frames => some (.found (frame.findSome? fun block => block name),
      frame :: frames)
  | _, _ => none

/-- Carries out operations one after another, as long as the stack has what they need. -/
def performAll : List ScopeOp → Plain → Option (List ScopeAnswer × Plain)
  | [], stack => some ([], stack)
  | op :: ops, stack => do
    let (answer, stack) ← perform op stack
    let (answers, stack) ← performAll ops stack
    pure (answer :: answers, stack)

end Plain

/-- The number of blocks that a sequence of operations has opened in each of its own frames, after
one more operation. There is none if the operation closes what the sequence has not opened, or asks
for a frame when it has none of its own. -/
def ScopeOp.brackets : ScopeOp → List Nat → Option (List Nat)
  | .pushFrame, opened => some (0 :: opened)
  | .pushBlock, n :: opened => some ((n + 1) :: opened)
  | .popBlock, (n + 1) :: opened => some (n :: opened)
  | .popFrame, _ :: opened => some opened
  | .create _ _, n :: opened => some (n :: opened)
  | .set _ _, n :: opened => some (n :: opened)
  | .get _, n :: opened => some (n :: opened)
  | _, _ => none

/-- A well-bracketed sequence of operations, with the numbers of blocks that it leaves open in its
own frames. -/
def Bracketed (ops : List ScopeOp) (opened : List Nat) : Prop :=
  ops.foldlM (fun opened op => op.brackets opened) [] = some opened

section Views

variable (name : String) (cell : CellId)

def Block.bindings (block : Block) : Bindings :=
  fun name => List.lookup name block

def Frame.bindings (frame : Frame) : List Bindings :=
  List.map Block.bindings frame

def Env.plain (env : Env) : Plain :=
  List.map Frame.bindings env

private theorem Block.bindings_insert (block : Block) :
    (block.insert name cell).bindings = Bindings.bind block.bindings name cell := by
  funext other
  unfold Block.bindings Bindings.bind
  by_cases same : other = name
  · rw [if_pos same, same, Block.lookup_insert_self]
  · rw [if_neg same, Block.lookup_insert_of_ne block cell same]

private theorem Block.isSome_bindings (block : Block) :
    (block.bindings name).isSome = block.binds name :=
  (Block.binds_eq_isSome block name).symm

private theorem Frame.findSome?_bindings (frame : Frame) :
    (frame.bindings.findSome? fun block => block name) = frame.find? name := by
  induction frame with
  | nil => rfl
  | cons block frame ih =>
    rw [Frame.bindings] at ih
    rw [Frame.bindings, List.map_cons, List.findSome?_cons, ih, Frame.find?]
    rfl

/-- Binding a name anew in a frame, seen from the plain stack: the block is the first one that binds
the name. -/
theorem Frame.bindings_rebind? (frame : Frame) :
    (frame.rebind? name cell).map Frame.bindings =
      (frame.bindings.findIdx? fun block => (block name).isSome).map fun i =>
        frame.bindings.modify i fun block => block.bind name cell := by
  induction frame with
  | nil => rfl
  | cons block frame ih =>
    simp only [Frame.bindings] at ih
    simp only [Frame.rebind?, Frame.bindings, List.map_cons, List.findIdx?_cons,
      Block.isSome_bindings]
    cases block.binds name with
    | true => simp [Frame.bindings, Block.bindings_insert]
    | false =>
      simp only [Bool.false_eq_true, if_false, Option.map_map, Function.comp_def,
        List.modify_succ_cons]
      have under := congrArg (Option.map (List.cons block.bindings)) ih
      simpa only [Option.map_map, Function.comp_def, Frame.bindings, List.map_cons] using under

end Views

namespace Plain

variable {frames : Plain} {name : String} {cell : CellId}

theorem perform_set_of_some {frame frame' : Frame} (h : frame.rebind? name cell = some frame') :
    perform (.set name cell) (frame.bindings :: frames) =
      some (.made true, frame'.bindings :: frames) := by
  have seen := Frame.bindings_rebind? name cell frame
  rw [h] at seen
  obtain ⟨i, found, same⟩ := Option.map_eq_some_iff.mp seen.symm
  rw [perform, found]
  exact congrArg (fun top => some (ScopeAnswer.made true, top :: frames)) same

theorem perform_set_of_none {frame : Frame} (h : frame.rebind? name cell = none) :
    perform (.set name cell) (frame.bindings :: frames) =
      some (.made false, frame.bindings :: frames) := by
  have seen := Frame.bindings_rebind? name cell frame
  rw [h] at seen
  rw [perform, Option.map_eq_none_iff.mp seen.symm]

theorem perform_create (name : String) (cell : CellId) (block : Block) (blocks : Frame)
    (frames : Plain) :
    perform (.create name cell) (Frame.bindings (block :: blocks) :: frames) =
      if block.binds name then some (.made false, Frame.bindings (block :: blocks) :: frames)
      else some (.made true, Frame.bindings (block.insert name cell :: blocks) :: frames) := by
  simp only [Frame.bindings, List.map_cons, perform, Block.isSome_bindings, Block.bindings_insert]

private theorem perform_get (frame : Frame) :
    perform (.get name) (frame.bindings :: frames) =
      some (.found (frame.find? name), frame.bindings :: frames) := by
  rw [perform, Frame.findSome?_bindings]

end Plain

/-- Scopes and a plain stack after the same operations, on which these have put the same frames. -/
inductive Tied (s : Scopes) (base : Plain) : List Nat → Scopes → Plain → Prop where
  | start : Tied s base [] s base
  | frame {opened : List Nat} {u : Scopes} {stack : Plain} (block : Block) (blocks : Frame)
    (below : Tied s base opened u stack) :
    Tied s base (blocks.length :: opened) (u.push (block :: blocks))
      (Frame.bindings (block :: blocks) :: stack)

namespace Tied

variable {s u : Scopes} {base stack : Plain} {opened opened' : List Nat}

private theorem focused (tied : Tied s base opened u stack) (focused : s.Focused) : u.Focused := by
  induction tied with
  | start => exact focused
  | frame block blocks _ ih => exact ih.push _

private theorem exists_frames (tied : Tied s base opened u stack) (focused : s.Focused) :
    ∃ frames : List Frame, u.home = frames ++ s.home ∧ u.current = frames ++ s.current ∧
      stack = Env.plain frames ++ base := by
  induction tied with
  | start => exact ⟨[], rfl, rfl, rfl⟩
  | frame block blocks below ih =>
    obtain ⟨frames, home, current, plain⟩ := ih
    refine ⟨(block :: blocks) :: frames, ?_, ?_, ?_⟩
    · rw [Scopes.push_home, home]
      rfl
    · rw [(below.focused focused).current, current]
      rfl
    · rw [plain]
      rfl

private theorem reframe {n : Nat} (below : Tied s base opened u stack) {frame : Frame}
    (length : frame.length = n + 1) :
    Tied s base (n :: opened) (u.push frame) (frame.bindings :: stack) := by
  cases frame with
  | nil => cases length
  | cons block blocks =>
    obtain rfl : blocks.length = n := Nat.succ.inj length
    exact .frame block blocks below

private theorem step (tied : Tied s base opened u stack) (focused : s.Focused) {op : ScopeOp}
    (bracketed : op.brackets opened = some opened') :
    ∃ (answer : ScopeAnswer) (u' : Scopes) (stack' : Plain), u.perform op = (.ok answer, u') ∧
      Plain.perform op stack = some (answer, stack') ∧ Tied s base opened' u' stack' := by
  cases tied with
  | start =>
    cases op with
    | pushFrame =>
      obtain rfl := Option.some.inj bracketed
      exact ⟨.done, s.push [[]], _, rfl, rfl, .frame [] [] .start⟩
    | _ => cases bracketed
  | @frame opened v stack block blocks below =>
    have here := below.focused focused
    cases op with
    | pushFrame =>
      obtain rfl := Option.some.inj bracketed
      exact ⟨.done, _, _, rfl, rfl, .frame [] [] (.frame block blocks below)⟩
    | pushBlock =>
      obtain rfl := Option.some.inj bracketed
      have pushed := Scopes.pushBlock_push here (block :: blocks)
      refine ⟨.done, v.push ([] :: block :: blocks), _, ?_, rfl, .frame [] (block :: blocks) below⟩
      rw [Scopes.perform, pushed]
      rfl
    | popBlock =>
      cases blocks with
      | nil => cases bracketed
      | cons outer blocks =>
        obtain rfl := Option.some.inj bracketed
        have popped := Scopes.popBlock_push here block (outer :: blocks)
        refine ⟨.done, v.push (outer :: blocks), _, ?_, rfl, .frame outer blocks below⟩
        rw [Scopes.perform, popped]
        rfl
    | popFrame =>
      obtain rfl := Option.some.inj bracketed
      have popped := Scopes.popFrame_push here (block :: blocks)
      refine ⟨.done, v, stack, ?_, rfl, below⟩
      rw [Scopes.perform, popped]
      rfl
    | create name cell =>
      obtain rfl := Option.some.inj bracketed
      have created := Scopes.create_push here block blocks name cell
      rw [Scopes.perform, created, Plain.perform_create]
      by_cases bound : block.binds name = true
      · rw [if_pos bound, if_pos bound]
        exact ⟨.made false, _, _, rfl, rfl, .frame block blocks below⟩
      · rw [if_neg bound, if_neg bound]
        exact ⟨.made true, _, _, rfl, rfl, .frame (block.insert name cell) blocks below⟩
    | set name cell =>
      obtain rfl := Option.some.inj bracketed
      have assigned := Scopes.set_push here (block :: blocks) name cell
      rw [Scopes.perform, assigned]
      cases rebound : Frame.rebind? name cell (block :: blocks) with
      | none =>
        exact ⟨.made false, _, _, rfl, Plain.perform_set_of_none rebound,
          .frame block blocks below⟩
      | some frame =>
        exact ⟨.made true, _, _, rfl, Plain.perform_set_of_some rebound,
          below.reframe (Frame.length_rebind? rebound)⟩
    | get name =>
      obtain rfl := Option.some.inj bracketed
      have found := Scopes.get?_push here (block :: blocks) name
      refine ⟨.found _, _, _, ?_, Plain.perform_get (block :: blocks), .frame block blocks below⟩
      rw [Scopes.perform, found]
      rfl

private theorem run (tied : Tied s base opened u stack) (focused : s.Focused) {ops : List ScopeOp}
    (bracketed : ops.foldlM (fun opened op => op.brackets opened) opened = some opened') :
    ∃ (answers : List ScopeAnswer) (u' : Scopes) (stack' : Plain),
      u.performAll ops = (answers.map .ok, u') ∧
      Plain.performAll ops stack = some (answers, stack') ∧ Tied s base opened' u' stack' := by
  induction ops generalizing opened u stack with
  | nil =>
    obtain rfl := Option.some.inj bracketed
    exact ⟨[], u, stack, rfl, rfl, tied⟩
  | cons op ops ih =>
    rw [List.foldlM_cons, Option.bind_eq_bind, Option.bind_eq_some_iff] at bracketed
    obtain ⟨opened₁, first, rest⟩ := bracketed
    obtain ⟨answer, u₁, stack₁, performed, plain, tied₁⟩ := tied.step focused first
    obtain ⟨answers, u', stack', performed', plain', tied'⟩ := ih tied₁ rest
    refine ⟨answer :: answers, u', stack', ?_, ?_, tied'⟩
    · rw [Scopes.performAll, performed]
      simp only [performed', List.map_cons]
    · rw [Plain.performAll, plain]
      simp only [Option.bind_eq_bind, Option.bind_some, plain', Option.pure_def]

end Tied

/-- A sequence of operations that opens a frame first and is well bracketed never fails, and gets
the answers that it gets from a plain stack, whatever is below. It puts the same frames on both
environments as on the plain stack, and when all its frames are closed the scopes are what they
were. -/
theorem scopes_refine_plain_stack {s : Scopes} (focused : s.Focused) (base : Plain)
    {ops : List ScopeOp} {opened : List Nat} (bracketed : Bracketed (.pushFrame :: ops) opened) :
    (∃ (answers : List ScopeAnswer) (u : Scopes) (frames : List Frame),
      s.performAll (.pushFrame :: ops) = (answers.map .ok, u) ∧
      Plain.performAll (.pushFrame :: ops) base = some (answers, Env.plain frames ++ base) ∧
      u.home = frames ++ s.home ∧ u.current = frames ++ s.current) ∧
    ∀ before, before <+: ops → Bracketed (.pushFrame :: before) [] →
      (s.performAll (.pushFrame :: before)).2 = s := by
  have initial : Tied s base [] s base := .start
  constructor
  · obtain ⟨answers, u, stack, performed, plain, tied⟩ := initial.run focused bracketed
    obtain ⟨frames, home, current, same⟩ := tied.exists_frames focused
    exact ⟨answers, u, frames, performed, same ▸ plain, home, current⟩
  · intro before _ matched
    obtain ⟨answers, u, stack, performed, _, tied⟩ := initial.run focused matched
    rw [performed]
    cases tied
    rfl

/-- Scopes with a snapshot in use that binds other names than the home environment. -/
def straddling : Scopes where
  home := [[[("a", 0)]]]
  snapshots := #[[[[("x", 1)], [("a", 2)]]]]
  focus := some 0

/-- Operations that shadow a name and are refused a second binding of it, assign to it and to a
name of the frames below, and look it up from another function. -/
def shadowing : List ScopeOp :=
  [.create "x" 3, .pushBlock, .create "x" 4, .create "x" 5, .set "x" 6, .get "x", .popBlock,
    .get "x", .set "a" 7, .pushFrame, .get "x", .popFrame, .popFrame]

theorem scopes_refine_plain_stack_shadowing :
    straddling.Focused ∧ Bracketed (.pushFrame :: shadowing) [] ∧
    straddling.performAll (.pushFrame :: shadowing) =
      ([.done, .made true, .done, .made true, .made false, .made true, .found (some 6), .done,
        .found (some 3), .made false, .done, .found none, .done, .done].map .ok, straddling) := by
  have focused : straddling.Focused := by
    intro i focus
    cases focus
    decide
  have bracketed : Bracketed (.pushFrame :: shadowing) [] := rfl
  obtain ⟨⟨answers, u, frames, performed, plain, _, _⟩, restored⟩ :=
    scopes_refine_plain_stack focused [] bracketed
  have expected : Plain.performAll (.pushFrame :: shadowing) [] =
      some ([.done, .made true, .done, .made true, .made false, .made true, .found (some 6), .done,
        .found (some 3), .made false, .done, .found none, .done, .done], []) := rfl
  obtain ⟨rfl, _⟩ := Prod.mk.inj (Option.some.inj (plain.symm.trans expected))
  have last := restored shadowing List.prefix_rfl bracketed
  rw [performed] at last
  exact ⟨focused, bracketed, last ▸ performed⟩

end CallByNeed.Language
