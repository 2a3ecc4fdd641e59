import CallByNeed.Proofs.ByName.Closure

set_option autoImplicit false
set_option relaxedAutoImplicit false

/-!
One step, by need and by name. A task that neither reads nor writes nor raises starts by name
exactly if it starts by need without stopping, and then it goes on in the same way: with the same
task in the blocks that stand for the frame on top, or with an answer of the same meaning. So does
every pending step of such a task, whatever the focus, the frames below and the count of `try`
bodies are.
-/

namespace CallByNeed.Language

open Heap

variable {σ τ : Kind}

/-- A task that does not read, write or raise by itself. -/
@[simp]
def Task.Quiet : {σ : Kind} → Task σ → Prop
  | _, .printArgs _ _ => False
  | _, .call name _ => ¬ (name = "print" ∨ name = "inputi" ∨ name = "inputs")
  | _, .stmt (.raise _) => False
  | _, _ => True

instance Task.decidableQuiet : {σ : Kind} → (t : Task σ) → Decidable t.Quiet
  | _, .eval _ => .isTrue trivial
  | _, .force _ => .isTrue trivial
  | _, .printArgs _ _ => .isFalse id
  | _, .call name _ =>
    inferInstanceAs (Decidable (¬ (name = "print" ∨ name = "inputi" ∨ name = "inputs")))
  | _, .block _ => .isTrue trivial
  | _, .all _ => .isTrue trivial
  | _, .stmt st =>
    match st with
    | .raise _ => .isFalse id
    | .eval _ | .assign _ | .declare _ _ | .ret _ | .branch _ _ _ | .loop _ _ _ _ | .attempt _ _ =>
      .isTrue trivial
  | _, .loop _ _ _ => .isTrue trivial

@[simp]
def Pending.Quiet : {σ τ : Kind} → Pending σ τ → Prop
  | _, _, .update _ _ => False
  | _, _, .printRest _ _ => False
  | _, _, .emit => False
  | _, _, .prompt _ => False
  | _, _, .throw => False
  | _, _, _ => True

/-- What an answer means; an exception and a text mean nothing. -/
def Kind.meaning (C : Closures) (u : Scopes) : (σ : Kind) → σ.Answer → Option σ.Meaning
  | .value, .value v => some v
  | .cell, .value k => some (C.cell k)
  | .flow, .next => some (C.frame u.top, none)
  | .flow, .returned k => some (C.frame u.top, some (C.cell k))
  | _, _ => none

def Task.job (C : Closures) (u : Scopes) : {σ : Kind} → Task σ → Job σ
  | _, .force k => .closure (C.cell k)
  | _, t => .task t (C.frame u.top)

theorem Task.job_of_not_force (C : Closures) (u : Scopes) {t : Task σ} (other : ¬ t.IsForce) :
    t.job C u = .task t (C.frame u.top) := by
  cases t with
  | force k => exact absurd trivial other
  | _ => rfl

inductive Names (C : Closures) (u : Scopes) : Next τ → Lead τ → Prop where
  | give {a : τ.Answer} {m : τ.Meaning} (h : τ.meaning C u a = some m) :
    Names C u (.give a) (.give m)
  | goto (t : Task τ) : Names C u (.goto t) (.goto (t.job C u))
  | enter {σ : Kind} {t : Task σ} {p : Pending σ τ} (other : ¬ t.IsForce) (quiet : p.Quiet) :
    Names C u (.enter t p) (.enter t (C.frame u.top) p)

/-- A computation stops exactly if there is no step by name, and otherwise it goes on in the same
way, with closures for the cells that it adds. -/
def Comp.Mirrors (x : Comp (Next τ)) (c : Context) (s : State) (B : List CellId) (C : Closures)
    (l : Option (Lead τ)) : Prop :=
  match x c s with
  | .ok next s' => ∀ C', Completes B s'.heap C C' → ∃ l', l = some l' ∧ Names C' s'.scopes next l'
  | .stop _ _ => l = none
  | .outOfFuel => False

section Mirrors

variable {α : Type} {c : Context} {s s' : State} {B : List CellId} {C : Closures}

private theorem Comp.mirrors_pure {next : Next τ} {l : Lead τ} (size : C.length = s.cells.size)
    (names : Names C s.scopes next l) : (pure next : Comp (Next τ)).Mirrors c s B C (some l) := by
  intro C' completes
  obtain rfl := completes.eq_of_size size
  exact ⟨l, rfl, names⟩

private theorem Comp.mirrors_stop (f : Fault) : (stop f : Comp (Next τ)).Mirrors c s B C none := rfl

private theorem Comp.mirrors_fail (e : LanguageError) :
    (fail e : Comp (Next τ)).Mirrors c s B C none := rfl

private theorem Comp.mirrors_bind {x : Comp α} {a : α} (h : x c s = .ok a s')
    {f : α → Comp (Next τ)} {l : Option (Lead τ)} :
    (x >>= f).Mirrors c s B C l ↔ (f a).Mirrors c s' B C l := by
  simp only [Mirrors, bind_apply, h]

private theorem Comp.mirrors_bind_stop {x : Comp α} {f : Fault} (h : x c s = .stop f s')
    {g : α → Comp (Next τ)} : (x >>= g).Mirrors c s B C none := by
  simp only [Mirrors, bind_apply, h]

end Mirrors

section Takes

variable {B : List CellId} {C C' : Closures} {h h' : Heap}

theorem Heap.Completes.cell_of_takes (completes : Completes B h' C C') (sound : Sound B h)
    (size : C.length = h.cells.size) (takes : h.Takes h')
    (older : ∀ j ∈ h.scopes.top.cells, j < h.cells.size) {k : CellId} {e : Expr} {i : Nat}
    (new : h.cells.size ≤ k) (hk : h'.cells[k]? = some (.thunk e i)) :
    C'.cell k = .thunk e (C.frame h.scopes.top) := by
  obtain ⟨env, taken, top⟩ := takes k e i new hk
  have same : C'.frame h.scopes.top = C.frame h.scopes.top :=
    Closures.frame_of_le completes.le fun j mem => size ▸ older j mem
  rw [completes.idle k _ (size ▸ new) (sound.not_mem_of_new new) hk]
  simp only [Closures.content, taken, Option.getD_some, top, same]

end Takes

section Assign

variable {c : Context} {s : State} {B : List CellId} {C : Closures}

private theorem rebind_assign (running : Running B s.heap) (size : C.length = s.cells.size)
    (a : Assignment) :
    match assign a c s with
    | .ok flow s' => flow = .next ∧ ∀ C', Completes B s'.heap C C' →
        rebind (C.frame s.scopes.top) a = some (C'.frame s'.scopes.top)
    | .stop _ _ => rebind (C.frame s.scopes.top) a = none
    | .outOfFuel => False := by
  obtain ⟨base, block, blocks, focused, scopes, current⟩ := running.top
  obtain ⟨base', extended, scopes', assigned⟩ := assign_apply a c focused scopes
  obtain ⟨frame, top⟩ : ∃ frame : Frame, frame = block :: blocks := ⟨_, rfl⟩
  rw [← top] at current assigned
  have older : ∀ k ∈ frame.cells, k < C.length := by
    rw [← current, size]
    exact running.looking.older
  obtain ⟨D, le, new⟩ : ∃ D : Closures, C <+: D ∧
      D.cell s.cells.size = .thunk a.expr (C.frame frame) :=
    ⟨C ++ [.thunk a.expr (C.frame frame)], List.prefix_append _ _, by simp [Closures.cell, ← size]⟩
  have rebound : rebind (C.frame frame) a = (frame.rebind? a.name s.cells.size).map D.frame := by
    rw [rebind, ← new, ← Closures.frame_of_le le older]
    exact Frame.rebind?_mapCells D.cell a.name s.cells.size frame
  rw [current, rebound]
  cases found : frame.rebind? a.name s.cells.size with
  | none =>
    rw [found] at assigned
    rw [assigned]
    rfl
  | some frame' =>
    rw [found] at assigned
    have takes := takes_assign running assigned
    rw [assigned]
    refine ⟨rfl, fun C' completes => congrArg some ?_⟩
    have added : C'.cell s.cells.size = .thunk a.expr (C.frame s.scopes.top) :=
      completes.cell_of_takes running.sound size takes running.looking.older (Nat.le_refl _)
        (s.heap.defer_cells_size a.expr s.scopes.current)
    have top' : (base'.push frame').top = frame' :=
      Scopes.top_push (extended.focused focused) frame'
    rw [State.withHeap, top']
    refine Frame.mapCells_congr fun k mem => ?_
    rcases Frame.mem_cells_rebind? found mem with rfl | old
    · rw [new, added, current]
    · rw [Closures.cell_of_le le (older k old), Closures.cell_of_le completes.le (older k old)]

end Assign

section Start

variable {c : Context} {s : State} {B : List CellId} {C : Closures}

private theorem mirrors_startEval (looking : Looking B s.heap) (size : C.length = s.cells.size)
    (e : Expr) : (startEval e).Mirrors c s B C (leadEval (C.frame s.scopes.top) e) := by
  cases e with
  | var name =>
    obtain ⟨frame, frames, current, _⟩ := looking.frame
    have current : s.scopes.current = frame :: frames := current
    have top : s.scopes.top = frame := by
      rw [Scopes.top, current]
      rfl
    have found : Comp.onScopes (fun u => (u.get? name, u)) c s = .ok (frame.find? name) s := by
      rw [Comp.onScopes_apply]
      simp only [Scopes.get?, current]
    rw [startEval, Comp.mirrors_bind found, leadEval, top, Closures.frame, Frame.find?_mapCells]
    cases frame.find? name with
    | none => exact Comp.mirrors_fail _
    | some k => exact Comp.mirrors_pure size (.goto (.force k))
  | call name args => exact Comp.mirrors_pure size (.enter id trivial)
  | unary op operand => exact Comp.mirrors_pure size (.enter id trivial)
  | binary op left right => exact Comp.mirrors_pure size (.enter id trivial)
  | _ => exact Comp.mirrors_pure size (.give rfl)

private theorem mirrors_enterFunc {func : Func} {args : List Expr} (sound : Sound B s.heap)
    (looking : args ≠ [] → Looking B s.heap) (size : C.length = s.cells.size) :
    (enterFunc func args).Mirrors c s B C (some (.enter (.block func.body)
      [bindParams func.params (args.map fun arg => .thunk arg (C.frame s.scopes.top))]
      .leave)) := by
  have focused' := (extends_deferAll (h := s.heap) args).focused sound.focused
  have entered := enterFunc_apply func args c sound.focused
  have takes := takes_enterFunc sound looking entered
  unfold Comp.Mirrors
  rw [entered]
  intro C' completes
  have closures : (List.range' s.cells.size args.length).map C'.cell =
      args.map fun arg => .thunk arg (C.frame s.scopes.top) := by
    refine List.ext_getElem? fun j => ?_
    rw [List.getElem?_map, List.getElem?_map]
    cases hj : args[j]? with
    | none =>
      have bound : args.length ≤ j := by simpa using hj
      rw [List.getElem?_eq_none (by simpa using bound)]
      rfl
    | some arg =>
      have bound : j < args.length := (List.getElem?_eq_some_iff.mp hj).1
      have filled : args ≠ [] := by
        rintro rfl
        simp at hj
      have closure : C'.cell (s.cells.size + j) = .thunk arg (C.frame s.scopes.top) :=
        completes.cell_of_takes sound size takes (looking filled).older (Nat.le_add_right _ j)
          (cells_deferAll (h := s.heap) sound.focused hj).1
      simpa [bound] using closure
  have frame : C'.frame ((s.heap.deferAll args).scopes.push
      [bindParams func.params (List.range' s.cells.size args.length)]).top =
        [bindParams func.params (args.map fun arg => .thunk arg (C.frame s.scopes.top))] := by
    rw [Scopes.top_push focused', ← closures, bindParams_mapCells]
    rfl
  exact ⟨_, rfl, frame ▸ .enter id trivial⟩

private theorem mirrors_startCall {name : String} {args : List Expr}
    (quiet : (Task.call name args).Quiet) (sound : Sound B s.heap)
    (looking : args ≠ [] → Looking B s.heap) (size : C.length = s.cells.size) :
    (startCall name args).Mirrors c s B C (leadCall (C.frame s.scopes.top) c.funcs name args) := by
  have print : ¬ name = "print" := fun same => quiet (.inl same)
  have input : ¬ (name = "inputi" ∨ name = "inputs") := fun same => quiet (.inr same)
  unfold startCall leadCall
  rw [if_neg print, if_neg input, if_neg quiet, Comp.mirrors_bind (Comp.context_apply c s)]
  cases findFunc c.funcs name args.length with
  | error e => exact Comp.mirrors_fail e
  | ok func => exact mirrors_enterFunc sound looking size

private theorem mirrors_assign {f : Flow → Comp (Next .flow)} {next : Next .flow}
    {g : Frame Closure → Lead .flow} (running : Running B s.heap) (size : C.length = s.cells.size)
    (a : Assignment) (after : f .next = pure next)
    (names : ∀ (C : Closures) (u : Scopes), Names C u next (g (C.frame u.top))) :
    (assign a >>= f).Mirrors c s B C ((rebind (C.frame s.scopes.top) a).map g) := by
  have rebound := rebind_assign (c := c) running size a
  cases assigned : assign a c s with
  | ok flow s' =>
    simp only [assigned] at rebound
    obtain ⟨rfl, bound⟩ := rebound
    rw [Comp.mirrors_bind assigned, after]
    intro C' completes
    rw [bound C' completes]
    exact ⟨_, rfl, names C' s'.scopes⟩
  | stop f s' =>
    simp only [assigned] at rebound
    rw [rebound]
    exact Comp.mirrors_bind_stop assigned
  | outOfFuel => simp [assigned] at rebound

private theorem mirrors_ret {e : Expr} (running : Running B s.heap)
    (size : C.length = s.cells.size) :
    (startStmt (.ret (some e))).Mirrors c s B C
      (leadStmt (C.frame s.scopes.top) (.ret (some e))) := by
  rw [startStmt, Comp.mirrors_bind (Comp.defer_apply e _ c s)]
  intro C' completes
  have extended : s.scopes.Extends (s.heap.defer e s.scopes.home).scopes :=
    Scopes.extends_snapshot _
  have top : (s.heap.defer e s.scopes.home).scopes.top = s.scopes.top :=
    congrArg Env.top (extended.current running.sound.focused)
  have older := running.looking.older
  have same : C'.frame s.scopes.top = C.frame s.scopes.top :=
    Closures.frame_of_le completes.le fun k mem => size ▸ older k mem
  have closure : C'.cell s.cells.size = .thunk e (C.frame s.scopes.top) :=
    completes.cell_of_takes running.sound size (takes_defer e (top_home running)) older
      (Nat.le_refl _) (s.heap.defer_cells_size e _)
  refine ⟨_, rfl, .give ?_⟩
  simp only [Kind.meaning, State.withHeap, top, same, closure]

private theorem mirrors_declare {name : String} {typeName : Option String}
    (running : Running B s.heap) (size : C.length = s.cells.size)
    (nil : C.cell nilCell = .value .nil) :
    (startStmt (.declare name typeName)).Mirrors c s B C
      (leadStmt (C.frame s.scopes.top) (.declare name typeName)) := by
  obtain ⟨base, block, frame, focused, scopes, top⟩ := running.top
  have frames : C.frame s.scopes.top = block.mapCells C.cell :: C.frame frame := by
    rw [top]
    rfl
  have created := Scopes.create_push focused block frame name nilCell
  rw [← scopes] at created
  simp only [frames, leadStmt, Block.binds_mapCells, startStmt]
  cases bound : block.binds name with
  | true =>
    rw [bound, if_pos rfl] at created
    have applied : Comp.onScopes (fun u => u.create name nilCell) c s =
        .ok false { s with scopes := s.scopes } := by
      rw [Comp.onScopes_apply, created]
    rw [Comp.mirrors_bind applied]
    exact Comp.mirrors_fail _
  | false =>
    rw [bound, if_neg (by simp)] at created
    have applied : Comp.onScopes (fun u => u.create name nilCell) c s =
        .ok true { s with scopes := base.push (block.insert name nilCell :: frame) } := by
      rw [Comp.onScopes_apply, created]
    rw [Comp.mirrors_bind applied]
    refine Comp.mirrors_pure size (.give ?_)
    have inserted : C.frame (block.insert name nilCell :: frame) =
        (block.mapCells C.cell).insert name (.value .nil) :: C.frame frame := by
      rw [← nil, Block.insert_mapCells]
      rfl
    rw [Kind.meaning, Scopes.top_push focused, inserted]

private theorem mirrors_startStmt {st : Stmt} (quiet : (Task.stmt st).Quiet)
    (running : Running B s.heap) (size : C.length = s.cells.size)
    (nil : C.cell nilCell = .value .nil) :
    (startStmt st).Mirrors c s B C (leadStmt (C.frame s.scopes.top) st) := by
  cases st with
  | eval e =>
    cases e with
    | call name args => exact Comp.mirrors_pure size (.enter id trivial)
    | _ => exact Comp.mirrors_pure size (.give rfl)
  | assign a => exact mirrors_assign running size a rfl fun _ _ => .give rfl
  | declare name typeName => exact mirrors_declare running size nil
  | ret e =>
    cases e with
    | none =>
      refine Comp.mirrors_pure size (.give ?_)
      rw [Kind.meaning, nil]
    | some e => exact mirrors_ret running size
  | branch condition body orElse => exact Comp.mirrors_pure size (.enter id trivial)
  | loop init condition update body =>
    exact mirrors_assign running size init rfl fun _ _ => .goto (.loop condition update body)
  | attempt body catchers =>
    rw [startStmt, enterTry, Comp.mirrors_bind (Comp.modify_apply _ c s)]
    exact Comp.mirrors_pure size (.enter id trivial)
  | raise e => exact quiet.elim

private theorem traceStmt_apply (st : Stmt) :
    ∃ channels, traceStmt st c s = .ok () { s with channels := channels } := by
  rw [traceStmt, Comp.bind_apply, Comp.context_apply]
  dsimp only
  split
  · exact ⟨_, rfl⟩
  · exact ⟨s.channels, rfl⟩

theorem mirrors_start {t : Task σ} (quiet : t.Quiet) (other : ¬ t.IsForce)
    (ready : t.Ready B s.heap) (size : C.length = s.cells.size)
    (nil : C.cell nilCell = .value .nil) :
    t.start.Mirrors c s B C (t.lead (C.frame s.scopes.top) c.funcs) := by
  cases t with
  | eval e => exact mirrors_startEval ready size e
  | force k => exact absurd trivial other
  | printArgs args text => exact quiet.elim
  | call name args => exact mirrors_startCall quiet ready.1 (fun some => ready.2 (.inl some)) size
  | block stmts =>
    have running : Running B s.heap := ready
    obtain ⟨base, block, frame, focused, scopes, top⟩ := running.top
    have opened : Comp.onScopes Scopes.pushBlock c s =
        .ok () { s with scopes := base.push ([] :: block :: frame) } := by
      rw [Comp.onScopes_apply, scopes, Scopes.pushBlock_push focused]
    rw [Task.start, Comp.mirrors_bind opened, Task.lead]
    have frames : C.frame (base.push ([] :: block :: frame)).top = [] :: C.frame s.scopes.top := by
      rw [Scopes.top_push focused, top]
      rfl
    rw [← frames]
    exact Comp.mirrors_pure size (.enter id trivial)
  | all stmts =>
    cases stmts with
    | nil => exact Comp.mirrors_pure size (.give rfl)
    | cons st stmts =>
      obtain ⟨channels, traced⟩ := traceStmt_apply (c := c) (s := s) st
      rw [Task.start, startAll, Comp.mirrors_bind traced]
      exact Comp.mirrors_pure size (.enter id trivial)
  | stmt st => exact mirrors_startStmt quiet ready size nil
  | loop condition update body => exact Comp.mirrors_pure size (.enter id trivial)

end Start

section Resume

variable {c : Context} {s : State} {B : List CellId} {C : Closures} {frame : Frame Closure}

theorem Kind.eq_of_meaning {u : Scopes} {a : Raising (Option Value)} {v : Option Value}
    (h : Kind.meaning C u .value a = some v) : a = .value v := by
  cases a with
  | value w => exact congrArg Raising.value (Option.some.inj h)
  | raised exception => cases h

private theorem mirrors_resumeOperand (size : C.length = s.cells.size) (op : BinaryOp)
    (right : Expr) (left : Option Value) :
    (resumeOperand op right left).Mirrors c s B C
      (leadOperand (C.frame s.scopes.top) op right left) := by
  cases left with
  | none =>
    cases op with
    | and => exact Comp.mirrors_stop _
    | or => exact Comp.mirrors_stop _
    | _ => exact Comp.mirrors_pure size (.enter id trivial)
  | some l =>
    simp only [resumeOperand, leadOperand]
    cases (some l).bind op.shortCut? with
    | some v => exact Comp.mirrors_pure size (.give rfl)
    | none => exact Comp.mirrors_pure size (.enter id trivial)

private theorem mirrors_resumeBinary (size : C.length = s.cells.size) (op : BinaryOp)
    (left right : Option Value) :
    (resumeBinary op left right).Mirrors c s B C (leadBinary op left right) := by
  cases left with
  | none => exact Comp.mirrors_bind_stop rfl
  | some l =>
    rw [resumeBinary, Comp.mirrors_bind (x := needType (some l)) rfl]
    cases right with
    | none =>
      have stops : ∃ f, needRight op l none c s = .stop f s := by
        rw [needRight]
        split
        · exact ⟨_, rfl⟩
        · exact ⟨_, rfl⟩
      obtain ⟨f, stops⟩ := stops
      exact Comp.mirrors_bind_stop stops
    | some r =>
      rw [Comp.mirrors_bind (x := needRight op l (some r)) rfl, leadBinary]
      cases applied : op.apply l r with
      | error f => exact Comp.mirrors_bind_stop (by rw [applyBinary, applied]; rfl)
      | ok v =>
        have gives : applyBinary op l r c s = .ok v s := by
          rw [applyBinary, applied]
          rfl
        rw [Comp.mirrors_bind gives]
        exact Comp.mirrors_pure size (.give rfl)

private theorem mirrors_resumeBranch (size : C.length = s.cells.size) (body : List Stmt)
    (orElse : Option (List Stmt)) (v : Option Value) :
    (resumeBranch body orElse v).Mirrors c s B C
      (leadBranch (C.frame s.scopes.top) body orElse v) := by
  cases v with
  | none => exact Comp.mirrors_bind_stop rfl
  | some w =>
    rw [resumeBranch, Comp.mirrors_bind (x := needType (some w)) rfl]
    cases w with
    | bool b =>
      cases b with
      | true => exact Comp.mirrors_pure size (.goto (.block body))
      | false =>
        cases orElse with
        | some orElse => exact Comp.mirrors_pure size (.goto (.block orElse))
        | none => exact Comp.mirrors_pure size (.give rfl)
    | _ => exact Comp.mirrors_fail _

private theorem mirrors_resumeTest (size : C.length = s.cells.size) (condition : Expr)
    (update : Assignment) (body : List Stmt) (v : Option Value) :
    (resumeTest condition update body v).Mirrors c s B C
      (leadTest (C.frame s.scopes.top) condition update body v) := by
  cases v with
  | none => exact Comp.mirrors_bind_stop rfl
  | some w =>
    rw [resumeTest, Comp.mirrors_bind (x := needType (some w)) rfl]
    cases w with
    | bool b =>
      cases b with
      | true => exact Comp.mirrors_pure size (.enter id trivial)
      | false => exact Comp.mirrors_pure size (.give rfl)
    | _ => exact Comp.mirrors_fail _

private theorem mirrors_resumeLeave (running : Running B s.heap) (size : C.length = s.cells.size)
    (nil : C.cell nilCell = .value .nil) {flow : Flow} {m : Kind.flow.Meaning}
    (means : Kind.meaning C s.scopes .flow flow = some m) :
    (resumeLeave flow).Mirrors c s B C (some (.give (m.2.getD (.value .nil)))) := by
  obtain ⟨base, block, blocks, focused, scopes, _⟩ := running.top
  have popped : Comp.onScopes Scopes.popFrame c s = .ok () { s with scopes := base } := by
    rw [Comp.onScopes_apply, scopes, Scopes.popFrame_push focused]
  have gives : (Comp.onScopes Scopes.popFrame >>= fun _ =>
      pure (Next.give (τ := .cell) flow.answer)).Mirrors c s B C
        (some (.give (m.2.getD (.value .nil)))) := by
    rw [Comp.mirrors_bind popped]
    refine Comp.mirrors_pure size (.give ?_)
    cases flow with
    | next =>
      obtain rfl := Option.some.inj means
      exact congrArg some nil
    | returned k =>
      obtain rfl := Option.some.inj means
      rfl
    | raised exception => cases means
  have calm : ∀ exception, flow = .raised exception → s.tryDepth ≠ 0 := by
    rintro exception rfl
    cases means
  unfold Comp.Mirrors at gives ⊢
  rw [resumeLeave_apply calm]
  exact gives

private theorem mirrors_close (running : Running B s.heap) (size : C.length = s.cells.size)
    {flow : Flow} {m : Kind.flow.Meaning} (means : Kind.meaning C s.scopes .flow flow = some m) :
    (Pending.close.resume flow).Mirrors c s B C (Pending.close.lead frame m) := by
  obtain ⟨base, block, blocks, focused, scopes, top⟩ := running.top
  have closed : Comp.onScopes Scopes.popBlock c s =
      .ok () { s with scopes := base.push blocks } := by
    rw [Comp.onScopes_apply, scopes, Scopes.popBlock_push focused]
  have top' : (base.push blocks).top = blocks := Scopes.top_push focused blocks
  simp only [Pending.resume]
  rw [Comp.mirrors_bind closed]
  cases flow with
  | next =>
    obtain rfl := Option.some.inj means
    rw [top]
    refine Comp.mirrors_pure size (.give ?_)
    rw [Kind.meaning, top']
    rfl
  | returned k =>
    obtain rfl := Option.some.inj means
    rw [top]
    refine Comp.mirrors_pure size (.give ?_)
    rw [Kind.meaning, top']
    rfl
  | raised exception => cases means

theorem mirrors_resume {p : Pending σ τ} (quiet : p.Quiet) {a : σ.Answer} {m : σ.Meaning}
    (means : σ.meaning C s.scopes a = some m) (stands : σ.Stands B s.heap)
    (size : C.length = s.cells.size) (nil : C.cell nilCell = .value .nil)
    (same : σ ≠ .flow → frame = C.frame s.scopes.top) :
    (p.resume a).Mirrors c s B C (p.lead frame m) := by
  cases p with
  | forceResult =>
    cases a with
    | value k =>
      obtain rfl := Option.some.inj means
      exact Comp.mirrors_pure size (.goto (.force k))
    | raised exception => cases means
  | unary op =>
    obtain rfl := Kind.eq_of_meaning means
    cases m with
    | none => exact Comp.mirrors_bind_stop rfl
    | some v =>
      simp only [Pending.resume, onValue, Pending.lead, Option.bind_some]
      rw [Comp.mirrors_bind (x := needType (some v)) rfl]
      cases op.apply? v with
      | none => exact Comp.mirrors_fail _
      | some w => exact Comp.mirrors_pure size (.give rfl)
  | operand op right =>
    obtain rfl := Kind.eq_of_meaning means
    obtain rfl := same (by simp)
    exact mirrors_resumeOperand size op right m
  | binary op left =>
    obtain rfl := Kind.eq_of_meaning means
    exact mirrors_resumeBinary size op left m
  | leave => exact mirrors_resumeLeave stands size nil means
  | close => exact mirrors_close stands size means
  | rest stmts =>
    cases a with
    | next =>
      obtain rfl := Option.some.inj means
      exact Comp.mirrors_pure size (.goto (.all stmts))
    | returned k =>
      obtain rfl := Option.some.inj means
      exact Comp.mirrors_pure size (.give rfl)
    | raised exception => cases means
  | discard =>
    obtain rfl := same (by simp)
    cases a with
    | value k => exact Comp.mirrors_pure size (.give rfl)
    | raised exception => cases means
  | branch body orElse =>
    obtain rfl := Kind.eq_of_meaning means
    obtain rfl := same (by simp)
    exact mirrors_resumeBranch size body orElse m
  | test condition update body =>
    obtain rfl := Kind.eq_of_meaning means
    obtain rfl := same (by simp)
    exact mirrors_resumeTest size condition update body m
  | again condition update body =>
    cases a with
    | next =>
      obtain rfl := Option.some.inj means
      exact mirrors_assign stands size update rfl fun _ _ => .goto (.loop condition update body)
    | returned k =>
      obtain rfl := Option.some.inj means
      exact Comp.mirrors_pure size (.give rfl)
    | raised exception => cases means
  | handle catchers =>
    have left : leaveTry c s = .ok (s.tryDepth - 1) { s with tryDepth := s.tryDepth - 1 } := rfl
    cases a with
    | next => exact (Comp.mirrors_bind left).mpr (Comp.mirrors_pure size (.give means))
    | returned k => exact (Comp.mirrors_bind left).mpr (Comp.mirrors_pure size (.give means))
    | raised exception => cases means
  | update k focus => exact quiet.elim
  | printRest args text => exact quiet.elim
  | emit => exact quiet.elim
  | prompt asInteger => exact quiet.elim
  | throw => exact quiet.elim

end Resume

end CallByNeed.Language
