import CallByNeed.Proofs.Comp
import CallByNeed.Proofs.Heap.Activity
import CallByNeed.Proofs.Machine.Task

set_option autoImplicit false
set_option relaxedAutoImplicit false

/-!
Binding names. Forcing a cell puts its snapshot into focus. An assignment defers its expression and
binds the name to the new cell in the frame on top. Entering a function, the arguments are deferred
one after another, each in a cell of its own, and a frame is put on top whose only block binds the
parameters to these cells.
-/

namespace CallByNeed.Language

def State.withHeap (s : State) (h : Heap) : State :=
  { s with cells := h.cells, scopes := h.scopes }

@[simp]
theorem State.heap_withHeap (s : State) (h : Heap) : (s.withHeap h).heap = h := rfl

theorem Comp.defer_apply (e : Expr) (pick : Scopes → Env) (c : Context) (s : State) :
    Comp.defer e pick c s =
      .ok s.cells.size (s.withHeap (s.heap.defer e (pick s.scopes))) := rfl

theorem startForce_value {k : CellId} {v : Value} {s : State} (c : Context)
    (hk : s.cells[k]? = some (.value v)) : startForce k c s = .ok (.give (.value (some v))) s := by
  rw [startForce, Comp.bind_apply, Comp.step_apply, hk]
  rfl

theorem startForce_thunk {k : CellId} {e : Expr} {i : Nat} {s : State} (c : Context)
    (hk : s.cells[k]? = some (.thunk e i)) :
    startForce k c s = .ok (.enter (.eval e) (.update k s.scopes.focus))
      (s.withHeap (s.heap.refocus (some i))) := by
  rw [startForce, Comp.bind_apply, Comp.step_apply, hk]
  rfl

theorem assign_apply (a : Assignment) (c : Context) {s : State} {base : Scopes} {frame : Frame}
    (focused : base.Focused) (scopes : s.scopes = base.push frame) :
    ∃ base', base.Extends base' ∧
      (s.heap.defer a.expr s.scopes.current).scopes = base'.push frame ∧
      assign a c s = match frame.rebind? a.name s.cells.size with
        | none => .stop (.language (.undefinedAssignment a.name))
            (s.withHeap (s.heap.defer a.expr s.scopes.current))
        | some frame' => .ok .next
            (s.withHeap ⟨(s.heap.defer a.expr s.scopes.current).cells, base'.push frame'⟩) := by
  have extended : (base.push frame).Extends (s.heap.defer a.expr s.scopes.current).scopes :=
    scopes ▸ Scopes.extends_snapshot _
  obtain ⟨base', scopes', extended'⟩ := extended.exists_push focused
  refine ⟨base', extended', scopes', ?_⟩
  rw [assign, Comp.bind_apply, Comp.defer_apply]
  dsimp only
  have set := Scopes.set_push (extended'.focused focused) frame a.name s.cells.size
  rw [← scopes'] at set
  rw [Comp.bind_apply, Comp.onScopes_apply]
  simp only [State.withHeap, set]
  cases frame.rebind? a.name s.cells.size with
  | none => simp [scopes']
  | some frame' => simp

def Heap.deferAll : List Expr → Heap → Heap
  | [], h => h
  | e :: es, h => Heap.deferAll es (h.defer e h.scopes.current)

private theorem mapM_defer_apply (args : List Expr) (c : Context) (s : State) :
    (args.mapM fun arg => Comp.defer arg Scopes.current) c s =
      .ok (List.range' s.cells.size args.length) (s.withHeap (s.heap.deferAll args)) := by
  induction args generalizing s with
  | nil => rfl
  | cons arg args ih =>
    rw [List.mapM_cons, Comp.bind_apply, Comp.defer_apply]
    dsimp only
    rw [Comp.bind_apply, ih]
    simp [Heap.deferAll, Heap.defer, State.withHeap, List.range']

section DeferAll

variable {B : List CellId} {h : Heap}

theorem Heap.extends_deferAll (args : List Expr) : h.scopes.Extends (h.deferAll args).scopes := by
  induction args generalizing h with
  | nil => exact .refl _
  | cons arg args ih =>
    have first : h.scopes.Extends (h.defer arg h.scopes.current).scopes := Scopes.extends_snapshot _
    exact first.trans ih

theorem Heap.size_deferAll (args : List Expr) :
    (h.deferAll args).cells.size = h.cells.size + args.length := by
  induction args generalizing h with
  | nil => rfl
  | cons arg args ih =>
    rw [Heap.deferAll, ih, Heap.defer, Array.size_push, List.length_cons, Nat.add_assoc,
      Nat.add_comm 1]

private theorem deferAll_cells_of_some (args : List Expr) {k : CellId} {content : Cell}
    (hk : h.cells[k]? = some content) : (h.deferAll args).cells[k]? = some content := by
  induction args generalizing h with
  | nil => exact hk
  | cons arg args ih => exact ih (Heap.defer_cells_of_some hk)

theorem Heap.cells_deferAll (focused : h.scopes.Focused) {args : List Expr} {j : Nat} {arg : Expr}
    (hj : args[j]? = some arg) :
    (h.deferAll args).cells[h.cells.size + j]? = some (.thunk arg (h.scopes.snapshots.size + j)) ∧
      (h.deferAll args).scopes.snapshots[h.scopes.snapshots.size + j]? = some h.scopes.current := by
  induction args generalizing h j with
  | nil => simp at hj
  | cons first args ih =>
    have extended : h.scopes.Extends (h.defer first h.scopes.current).scopes :=
      Scopes.extends_snapshot _
    cases j with
    | zero =>
      obtain rfl : first = arg := by simpa using hj
      exact ⟨deferAll_cells_of_some args (h.defer_cells_size first _),
        (extends_deferAll args).snapshots _ _ defer_snapshots_size⟩
    | succ j =>
      have later := ih (extended.focused focused) (by simpa using hj)
      rw [extended.current focused] at later
      have sizes : (h.defer first h.scopes.current).cells.size + j = h.cells.size + (j + 1) ∧
          (h.defer first h.scopes.current).scopes.snapshots.size + j =
            h.scopes.snapshots.size + (j + 1) := by
        constructor
        · rw [Heap.defer, Array.size_push, Nat.add_assoc, Nat.add_comm 1]
        · simp only [Heap.defer, Scopes.snapshot, Array.size_push, Nat.add_assoc, Nat.add_comm 1]
      rwa [sizes.1, sizes.2] at later

/-- The new cells of deferred arguments are clear, and nothing else changes. -/
theorem Heap.Sound.keeps_deferAll (args : List Expr) (sound : Sound B h)
    (looking : args ≠ [] → Looking B h) :
    Sound B (h.deferAll args) ∧ Keeps B h (h.deferAll args) ∧
      ∀ k ∈ List.range' h.cells.size args.length, (h.deferAll args).Clear B k := by
  induction args generalizing h with
  | nil => exact ⟨sound, .refl B h, by simp⟩
  | cons arg args ih =>
    have looking := looking (by simp)
    obtain ⟨frame, frames, current, clear⟩ := looking.frame
    obtain ⟨sound₁, keeps₁, clear₁⟩ := sound.keeps_defer arg frames clear
    rw [← current] at sound₁ keeps₁ clear₁
    obtain ⟨sound₂, keeps₂, clear₂⟩ := ih sound₁ fun _ => looking.keeps sound₁ keeps₁
    refine ⟨sound₂, keeps₁.trans keeps₂, fun k mem => ?_⟩
    rw [List.length_cons, List.range'_succ, List.mem_cons] at mem
    rcases mem with rfl | later
    · exact clear₁.mono sound₁ keeps₂.grows
    · refine clear₂ k ?_
      rwa [Heap.defer, Array.size_push]

end DeferAll

section Params

def Block.names (block : Block) : List String :=
  block.map Prod.fst

private theorem Block.binds_iff {block : Block} {name : String} :
    block.binds name = true ↔ name ∈ block.names := by
  simp [Block.binds, Block.names]

private theorem Block.insert_of_not_mem {block : Block} {name : String} (cell : CellId)
    (free : name ∉ block.names) : block.insert name cell = block ++ [(name, cell)] := by
  induction block with
  | nil => rfl
  | cons binding block ih =>
    obtain ⟨other, old⟩ := binding
    simp only [Block.names, List.map_cons, List.mem_cons, not_or] at free
    rw [Block.insert, if_neg (Ne.symm free.1), ih free.2]
    rfl

private theorem Block.mem_names_insert {block : Block} {name other : String} {cell : CellId} :
    other ∈ (block.insert name cell).names ↔ other = name ∨ other ∈ block.names := by
  induction block with
  | nil => simp [Block.insert, Block.names]
  | cons binding block ih =>
    obtain ⟨bound, old⟩ := binding
    simp only [Block.names] at ih
    rw [Block.insert]
    split
    · next same => simp [Block.names, same]
    · simp only [Block.names, List.map_cons, List.mem_cons, ih, or_left_comm]

private theorem Block.nodup_names_insert {block : Block} (name : String) (cell : CellId)
    (nodup : block.names.Nodup) : (block.insert name cell).names.Nodup := by
  induction block with
  | nil => simp [Block.insert, Block.names]
  | cons binding block ih =>
    obtain ⟨bound, old⟩ := binding
    have nodup' : bound ∉ Block.names block ∧ (Block.names block).Nodup :=
      List.nodup_cons.mp nodup
    rw [Block.insert]
    split
    · next same => exact List.nodup_cons.mpr (same ▸ nodup')
    · next other =>
      refine List.nodup_cons.mpr ⟨fun mem => ?_, ih nodup'.2⟩
      exact (Block.mem_names_insert.mp mem).elim other nodup'.1

private theorem nodup_names_bindParams (params : List Param) (cells : List CellId) :
    (bindParams params cells).names.Nodup := by
  have step : ∀ (bindings : List (Param × CellId)) (block : Block), block.names.Nodup →
      (bindings.foldl (fun block b => block.insert b.1.name b.2) block).names.Nodup := by
    intro bindings
    induction bindings with
    | nil => exact fun _ nodup => nodup
    | cons binding bindings ih => exact fun block nodup => ih _ (Block.nodup_names_insert _ _ nodup)
  exact step _ [] (by simp [Block.names])

theorem mem_cells_bindParams {params : List Param} {cells : List CellId} {k : CellId}
    (h : k ∈ (bindParams params cells).cells) : k ∈ cells := by
  have step : ∀ (bindings : List (Param × CellId)) (block : Block),
      k ∈ Block.cells (bindings.foldl (fun block b => block.insert b.1.name b.2) block) →
        k ∈ bindings.map Prod.snd ∨ k ∈ block.cells := by
    intro bindings
    induction bindings with
    | nil => exact fun _ mem => .inr mem
    | cons binding bindings ih =>
      intro block mem
      rcases ih _ mem with later | now
      · exact .inl (List.mem_cons_of_mem _ later)
      · rcases Block.mem_cells_insert now with rfl | old
        · exact .inl List.mem_cons_self
        · exact .inr old
  rcases step _ _ h with bound | none
  · obtain ⟨binding, mem, rfl⟩ := List.mem_map.mp bound
    exact (List.of_mem_zip mem).2
  · simp [Block.cells] at none

/-- Creating the bindings of a block that has no name twice, next to others. -/
theorem createAll_apply {block block' : Block} {base : Scopes} {frame : Frame} {c : Context}
    {s : State} (focused : base.Focused) (scopes : s.scopes = base.push (block :: frame))
    (nodup : (Block.names (block ++ block')).Nodup) :
    createAll block' c s = .ok () { s with scopes := base.push ((block ++ block') :: frame) } := by
  induction block' generalizing block s with
  | nil =>
    rw [List.append_nil, ← scopes]
    rfl
  | cons binding block' ih =>
    obtain ⟨name, cell⟩ := binding
    have free : name ∉ block.names := by
      intro mem
      rw [Block.names, List.map_append, List.map_cons] at nodup
      have disjoint := List.nodup_append.mp nodup
      exact disjoint.2.2 name mem name List.mem_cons_self rfl
    have unbound : block.binds name = false := by
      rw [← Bool.not_eq_true, Block.binds_iff]
      exact free
    have created : (s.scopes.create name cell) =
        (.ok true, base.push ((block ++ [(name, cell)]) :: frame)) := by
      rw [scopes, Scopes.create_push focused, unbound, Block.insert_of_not_mem cell free]
      rfl
    rw [createAll, Comp.bind_apply, Comp.onScopes_apply, created]
    dsimp only
    rw [ih rfl (by simpa using nodup)]
    simp

private theorem createAll_bindParams_apply {base : Scopes} {c : Context} {s : State}
    (focused : base.Focused) (scopes : s.scopes = base.push [[]]) (params : List Param)
    (cells : List CellId) :
    createAll (bindParams params cells) c s =
      .ok () { s with scopes := base.push [bindParams params cells] } :=
  createAll_apply focused scopes (nodup_names_bindParams params cells)

theorem enterFunc_apply (func : Func) (args : List Expr) (c : Context) {s : State}
    (focused : s.scopes.Focused) :
    enterFunc func args c s = .ok (.enter (.block func.body) .leave)
      (s.withHeap ⟨(s.heap.deferAll args).cells, (s.heap.deferAll args).scopes.push
        [bindParams func.params (List.range' s.cells.size args.length)]⟩) := by
  have focused' := (Heap.extends_deferAll (h := s.heap) args).focused focused
  rw [enterFunc, Comp.bind_apply, mapM_defer_apply]
  dsimp only
  rw [Comp.bind_apply, Comp.modify_apply]
  dsimp only
  rw [Comp.bind_apply, createAll_bindParams_apply focused' rfl]
  rfl

end Params

end CallByNeed.Language
