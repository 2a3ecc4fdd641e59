import CallByNeed.Proofs.Machine.Contract

set_option autoImplicit false
set_option relaxedAutoImplicit false

/-!
What the computations that a task is made of ensure. None of these stops with a fault of the scopes,
and all but the last leave the cells and the scopes as they are.
-/

namespace CallByNeed.Language

def Fault.Regular (f : Fault) : Prop :=
  ∀ fault, f ≠ .scope fault

private theorem OperatorFault.regular_toFault (op : BinaryOp) (f : OperatorFault) :
    (f.toFault op).Regular := by
  intro fault
  cases f <;> simp [OperatorFault.toFault]

private theorem Fault.regular_of_read {setup : Setup} {channels : Channels} {f : Fault}
    (h : channels.read setup = .error f) : f.Regular := by
  unfold Channels.read at h
  intro fault
  split at h
  · split at h
    · simp at h
    · obtain rfl := Except.error.inj h
      simp
  · split at h <;> simp at h

def Flow.answer : Flow → Raising CellId
  | .raised exception => .raised exception
  | .returned cell => .value cell
  | .next => .value nilCell

/-- An exception that no `try` body counts for stops the run when a function is left. -/
theorem resumeLeave_uncaught {exception : Option String} {c : Context} {s : State}
    (depth : s.tryDepth = 0) :
    resumeLeave (.raised exception) c s = .stop (.language .uncaught) s := by
  unfold resumeLeave
  rw [Comp.bind_apply, Comp.step_apply]
  simp only [depth]
  rfl

theorem resumeLeave_apply {flow : Flow} {c : Context} {s : State}
    (counted : ∀ exception, flow = .raised exception → s.tryDepth ≠ 0) :
    resumeLeave flow c s =
      (Comp.onScopes Scopes.popFrame >>= fun _ => pure (.give flow.answer)) c s := by
  unfold resumeLeave
  rw [Comp.bind_apply, Comp.step_apply]
  dsimp only
  cases flow with
  | raised exception =>
    obtain ⟨depth, counted⟩ := Nat.exists_eq_succ_of_ne_zero (counted exception rfl)
    rw [counted]
    rfl
  | returned k => cases s.tryDepth <;> rfl
  | next => cases s.tryDepth <;> rfl

section Ensures

variable {c : Context} {s : State} {F : Fault → Prop} (regular : ∀ f : Fault, f.Regular → F f)

include regular

theorem ensures_fail {α : Type} {Q : α → State → Prop} (e : LanguageError) :
    (Comp.fail e : Comp α).Ensures c s F Q :=
  regular _ fun fault => by simp

theorem ensures_needType {Q : Value → State → Prop} {v : Option Value}
    (h : ∀ w, v = some w → Q w s) : (needType v).Ensures c s F Q := by
  cases v with
  | none => exact regular _ fun fault => by simp
  | some w => exact h w rfl

theorem ensures_needRight {Q : Value → State → Prop} {op : BinaryOp} {left : Value}
    {v : Option Value} (h : ∀ w, v = some w → Q w s) :
    (needRight op left v).Ensures c s F Q := by
  cases v with
  | none =>
    rw [needRight]
    split
    · exact regular _ fun fault => by simp
    · exact regular _ fun fault => by simp
  | some w => exact h w rfl

theorem ensures_applyBinary {Q : Value → State → Prop} {op : BinaryOp} {left right : Value}
    (h : ∀ v, op.apply left right = .ok v → Q v s) :
    (applyBinary op left right).Ensures c s F Q := by
  rw [applyBinary]
  split
  · next v applied => exact h v applied
  · next f _ => exact regular _ (f.regular_toFault op)

theorem ensures_printable {Q : Option String → State → Prop} {v : Value}
    (h : ∀ text, Q text s) : (Comp.printable v).Ensures c s F Q := by
  rw [Comp.printable]
  split
  · exact h _
  · exact regular _ fun fault => by simp

omit regular in
theorem ensures_emit {Q : Unit → State → Prop} {text : Option String}
    (h : ∀ output printed,
      Q () { s with channels := { s.channels with output := output, printed := printed } }) :
    (Comp.emit text).Ensures c s F Q := by
  simp only [Comp.emit, Comp.ensures_bind, Comp.ensures_context]
  split
  · exact h _ _
  · exact h _ _

omit regular in
theorem ensures_traceStmt {Q : Unit → State → Prop} {stmt : Stmt}
    (h : ∀ printed, Q () { s with channels := { s.channels with printed := printed } }) :
    (traceStmt stmt).Ensures c s F Q := by
  simp only [traceStmt, Comp.ensures_bind, Comp.ensures_context]
  split
  · exact h _
  · exact h s.channels.printed

private theorem ensures_readInteger {Q : Value → State → Prop} {line : Option String}
    (h : ∀ v, Q v s) : (readInteger line).Ensures c s F Q := by
  cases line with
  | none => exact regular _ fun fault => by simp
  | some text =>
    rw [readInteger]
    split
    · exact h _
    · exact regular _ fun fault => by simp

private theorem ensures_readInput {Q : Option String → State → Prop}
    (h : ∀ line channels, Q line { s with channels := channels }) :
    Comp.readInput.Ensures c s F Q := by
  unfold Comp.Ensures Comp.readInput
  cases read : s.channels.read c.setup with
  | error f => exact regular _ (Fault.regular_of_read read)
  | ok result => exact h result.1 result.2

theorem ensures_readValue {Q : CellId → State → Prop} {asInteger : Bool}
    (h : ∀ channels v,
      Q s.cells.size { s with channels := channels, cells := s.cells.push (.value v) }) :
    (readValue asInteger).Ensures c s F Q := by
  refine (Comp.ensures_bind _ _).mpr (ensures_readInput regular fun line channels => ?_)
  cases asInteger with
  | true => exact (Comp.ensures_bind _ _).mpr (ensures_readInteger regular (h channels))
  | false => exact (Comp.ensures_bind _ _).mpr (h channels _)

theorem ensures_resumeLeave {Q : Next .cell → State → Prop} {flow : Flow} {u : Scopes}
    (popped : s.scopes.popFrame = (.ok (), u))
    (h : Q (.give flow.answer) { s with scopes := u }) :
    (resumeLeave flow).Ensures c s F Q := by
  unfold Comp.Ensures
  by_cases counted : ∀ exception, flow = .raised exception → s.tryDepth ≠ 0
  · rw [resumeLeave_apply counted, Comp.bind_apply, Comp.onScopes_apply, popped]
    exact h
  · cases flow with
    | raised exception =>
      have depth : s.tryDepth = 0 := by simpa using counted
      rw [resumeLeave_uncaught depth]
      exact regular _ fun fault => by simp
    | returned k => simp at counted
    | next => simp at counted

end Ensures

end CallByNeed.Language
