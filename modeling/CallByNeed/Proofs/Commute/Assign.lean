import CallByNeed.Proofs.Commute.Coincide
import CallByNeed.Proofs.Scope.Block

set_option autoImplicit false
set_option relaxedAutoImplicit false

/-!
Assignments in two orders. An assignment defers its expression in a new cell and binds the name to
it. Two assignments to different names, neither of which mentions the name of the other, leave heaps
that coincide, whichever is executed first: only the numbers of the two new cells are exchanged.
-/

namespace CallByNeed.Language

namespace Heap

variable {W : Renaming} {B B' : List CellId} {h h' h₁ h₁' h₂ h₂' : Heap} {a b : Assignment}

/-- What an assignment does: its expression is deferred, and the name is bound to the new cell. -/
structure Assigned (a : Assignment) (B : List CellId) (h h₁ : Heap) : Prop where
  grows : Grows B h h₁
  cells : ∃ i, h₁.cells = h.cells.push (.thunk a.expr i)
  takes : h.Takes h₁
  top : h.scopes.top.rebind? a.name h.cells.size = some h₁.scopes.top

private theorem Assigned.size (assigned : Assigned a B h h₁) :
    h₁.cells.size = h.cells.size + 1 := by
  obtain ⟨i, cells⟩ := assigned.cells
  rw [cells, Array.size_push]

private theorem Assigned.thunk (assigned : Assigned a B h h₁) :
    ∃ i, h₁.cells[h.cells.size]? = some (.thunk a.expr i) := by
  obtain ⟨i, cells⟩ := assigned.cells
  exact ⟨i, by rw [cells, Array.getElem?_push_size]⟩

private theorem Assigned.cells_of_lt (assigned : Assigned a B h h₁) {k : CellId}
    (old : k < h.cells.size) : h₁.cells[k]? = h.cells[k]? := by
  obtain ⟨i, cells⟩ := assigned.cells
  rw [cells, Array.getElem?_push_lt old, Array.getElem?_eq_getElem old]

/-- The snapshot of the new cell has the frame on top in which the assignment was executed, also in
a later heap. -/
theorem Assigned.seen (assigned : Assigned a B h h₁) (sound : Sound B h) (grows : Grows B h₁ h₂)
    {e : Expr} {i : Nat} {env : Env} (hk : h₂.cells[h.cells.size]? = some (.thunk e i))
    (hi : h₂.scopes.snapshots[i]? = some env) : Env.top env = h.scopes.top := by
  obtain ⟨j, thunk⟩ := assigned.thunk
  obtain ⟨env', taken, top⟩ := assigned.takes _ _ _ (Nat.le_refl _) thunk
  rcases grows.cells _ _ thunk with kept | ⟨_, _, v, settled⟩
  · rw [hk] at kept
    obtain ⟨rfl, rfl⟩ := Cell.thunk.inj (Option.some.inj kept)
    have same := grows.snapshots _ _ _ _ (sound.not_mem_of_new (Nat.le_refl _)) thunk hk taken
    rw [hi] at same
    cases same
    exact top
  · simp [hk] at settled

theorem Coincide.assign (co : Coincide W B B' h h') (sound : Sound B h) (sound' : Sound B' h')
    (tops : h'.scopes.top = h.scopes.top.mapCells W) (assigned : Assigned a B h h₁)
    (assigned' : Assigned a B' h' h₁') :
    Coincide W B B' h₁ h₁' ∧ h₁'.scopes.top = h₁.scopes.top.mapCells W := by
  have moved : W h.cells.size = h'.cells.size := by rw [co.fixed _ (Nat.le_refl _), co.size]
  constructor
  · obtain ⟨i, cells⟩ := assigned.cells
    obtain ⟨i', cells'⟩ := assigned'.cells
    refine co.grow sound sound' assigned.grows assigned'.grows (fun _ _ => rfl) ?_ ?_ ?_ ?_
    · rw [assigned.size, assigned'.size, co.size]
    · intro k new
      rw [assigned.size] at new
      exact co.fixed k (Nat.le_of_succ_le new)
    · rw [cells, cells']
      exact co.cells_push (.thunk a.expr i i')
    · intro k e j j' env env' _ new hk hk' hj hj'
      have bound := (Array.getElem?_eq_some_iff.mp hk).1
      rw [assigned.size] at bound
      obtain rfl : k = h.cells.size := Nat.le_antisymm (Nat.le_of_lt_succ bound) new
      rw [moved] at hk'
      rw [assigned.seen sound (.refl B h₁) hk hj, assigned'.seen sound' (.refl B' h₁') hk' hj',
        tops]
      exact Frame.agrees_mapCells W _ _
  · have rebound := h.scopes.top.rebind?_mapCells W a.name h.cells.size
    rw [← tops, moved, assigned'.top, assigned.top] at rebound
    exact Option.some.inj rebound

section Swap

/-- Exchanges the first two cells that have not been in use. -/
def swapNew (W : Renaming) (n : Nat) : Renaming :=
  (Equiv.swap n (n + 1)).trans W

theorem swapNew_of_lt (W : Renaming) {n k : Nat} (old : k < n) : swapNew W n k = W k := by
  have first : k ≠ n := by omega
  have second : k ≠ n + 1 := by omega
  simp [swapNew, Equiv.swap_apply_of_ne_of_ne first second]

variable (co : Coincide W B B' h h')

include co

private theorem Coincide.swapNew_first :
    swapNew W h.cells.size h.cells.size = h.cells.size + 1 := by
  rw [swapNew, Equiv.trans_apply, Equiv.swap_apply_left, co.fixed _ (Nat.le_succ _)]

private theorem Coincide.swapNew_second :
    swapNew W h.cells.size (h.cells.size + 1) = h.cells.size := by
  rw [swapNew, Equiv.trans_apply, Equiv.swap_apply_right, co.fixed _ (Nat.le_refl _)]

section Orders

variable (first : Assigned a B h h₁) (second : Assigned b B h₁ h₂) (first' : Assigned b B' h' h₁')
  (second' : Assigned a B' h₁' h₂')

include first second first' second'

private theorem Coincide.cells_swap (k : CellId) (content : Cell)
    (hk : h₂.cells[k]? = some content) :
    ∃ content', h₂'.cells[swapNew W h.cells.size k]? = some content' ∧ content.Like content' := by
  have within : h.cells.size < h₁.cells.size := by rw [first.size]; omega
  have within' : h'.cells.size < h₁'.cells.size := by rw [first'.size]; omega
  have bound := (Array.getElem?_eq_some_iff.mp hk).1
  rw [second.size, first.size] at bound
  rcases Nat.lt_trichotomy k h.cells.size with old | rfl | new
  · rw [second.cells_of_lt (Nat.lt_trans old within), first.cells_of_lt old] at hk
    obtain ⟨content', hk', like⟩ := co.cells k content hk
    have bound' := (Array.getElem?_eq_some_iff.mp hk').1
    refine ⟨content', ?_, like⟩
    rw [swapNew_of_lt W old, second'.cells_of_lt (Nat.lt_trans bound' within'),
      first'.cells_of_lt bound', hk']
  · obtain ⟨i, thunk⟩ := first.thunk
    obtain ⟨i', thunk'⟩ := second'.thunk
    rw [second.cells_of_lt within, thunk] at hk
    cases hk
    rw [first'.size, co.size] at thunk'
    exact ⟨_, co.swapNew_first ▸ thunk', .thunk a.expr i i'⟩
  · obtain rfl : k = h.cells.size + 1 := Nat.le_antisymm (Nat.le_of_lt_succ bound) new
    obtain ⟨i, thunk⟩ := second.thunk
    obtain ⟨i', thunk'⟩ := first'.thunk
    rw [first.size, hk] at thunk
    cases thunk
    rw [← second'.cells_of_lt within', co.size] at thunk'
    exact ⟨_, co.swapNew_second.symm ▸ thunk', .thunk b.expr i i'⟩

/-- The expression that is deferred second sees the first name bound anew, which it does not
mention. -/
private theorem Coincide.seen_swap (sound : Sound B h) (sound' : Sound B' h')
    (sound₁ : Sound B h₁) (sound₁' : Sound B' h₁') (apart : a.expr.mentions b.name = false)
    (apart' : b.expr.mentions a.name = false)
    (agrees : ∀ N, h.scopes.top.Agrees (swapNew W h.cells.size) N h'.scopes.top) {k : CellId}
    {e : Expr} {i i' : Nat} {env env' : Env} (new : h.cells.size ≤ k)
    (hk : h₂.cells[k]? = some (.thunk e i))
    (hk' : h₂'.cells[swapNew W h.cells.size k]? = some (.thunk e i'))
    (hi : h₂.scopes.snapshots[i]? = some env) (hi' : h₂'.scopes.snapshots[i']? = some env') :
    (Env.top env).Agrees (swapNew W h.cells.size) (fun name => e.mentions name)
      (Env.top env') := by
  have bound := (Array.getElem?_eq_some_iff.mp hk).1
  rw [second.size, first.size] at bound
  rcases Nat.lt_or_eq_of_le new with later | rfl
  · obtain rfl : k = h.cells.size + 1 := Nat.le_antisymm (Nat.le_of_lt_succ bound) later
    obtain ⟨j, thunk⟩ := second.thunk
    rw [first.size, hk] at thunk
    obtain ⟨rfl, rfl⟩ := Cell.thunk.inj (Option.some.inj thunk)
    rw [co.swapNew_second, ← co.size] at hk'
    rw [← first.size] at hk
    rw [second.seen sound₁ (.refl B h₂) hk hi, first'.seen sound' second'.grows hk' hi']
    intro name mentioned
    have other : name ≠ a.name := by
      rintro rfl
      exact absurd mentioned (by simp [apart'])
    rw [Frame.find?_rebind?_of_ne other first.top]
    exact agrees (fun name => b.expr.mentions name) name mentioned
  · have within : h.cells.size < h₁.cells.size := by rw [first.size]; omega
    obtain ⟨j, thunk⟩ := first.thunk
    rw [← second.cells_of_lt within, hk] at thunk
    obtain ⟨rfl, rfl⟩ := Cell.thunk.inj (Option.some.inj thunk)
    rw [co.swapNew_first, ← co.size, ← first'.size] at hk'
    rw [first.seen sound second.grows hk hi, second'.seen sound₁' (.refl B' h₂') hk' hi']
    intro name mentioned
    have other : name ≠ b.name := by
      rintro rfl
      exact absurd mentioned (by simp [apart])
    rw [Frame.find?_rebind?_of_ne other first'.top]
    exact agrees (fun name => a.expr.mentions name) name mentioned

private theorem Coincide.top_swap
    (renamed : h.scopes.top.mapCells (swapNew W h.cells.size) = h'.scopes.top)
    (distinct : a.name ≠ b.name) :
    h₂'.scopes.top = h₂.scopes.top.mapCells (swapNew W h.cells.size) := by
  have once := h.scopes.top.rebind?_mapCells (swapNew W h.cells.size) a.name h.cells.size
  have twice := h₁.scopes.top.rebind?_mapCells (swapNew W h.cells.size) b.name h₁.cells.size
  rw [renamed, co.swapNew_first, first.top, Option.map_some] at once
  rw [second.top, Option.map_some, first.size, co.swapNew_second] at twice
  have once' := first'.top
  have twice' := second'.top
  rw [co.size] at once'
  rw [first'.size, co.size] at twice'
  have commute := h'.scopes.top.rebind?_comm (x := h.cells.size + 1) (y := h.cells.size)
    distinct.symm
  rw [once, once', Option.bind_some, Option.bind_some, twice, twice'] at commute
  exact (Option.some.inj commute).symm

end Orders

/-- Two assignments to different names, executed in one order and in the other. The new cells are
exchanged. -/
theorem Coincide.swap (sound : Sound B h) (sound' : Sound B' h')
    (tops : h'.scopes.top = h.scopes.top.mapCells W)
    (older : ∀ k ∈ h.scopes.top.cells, k < h.cells.size)
    (distinct : a.name ≠ b.name) (apart : a.expr.mentions b.name = false)
    (apart' : b.expr.mentions a.name = false)
    (first : Assigned a B h h₁) (second : Assigned b B h₁ h₂)
    (first' : Assigned b B' h' h₁') (second' : Assigned a B' h₁' h₂') (sound₁ : Sound B h₁)
    (sound₁' : Sound B' h₁') :
    Coincide (swapNew W h.cells.size) B B' h₂ h₂' ∧
      h₂'.scopes.top = h₂.scopes.top.mapCells (swapNew W h.cells.size) := by
  have same : ∀ k < h.cells.size, swapNew W h.cells.size k = W k := fun k => swapNew_of_lt W
  have agrees : ∀ N, h.scopes.top.Agrees (swapNew W h.cells.size) N h'.scopes.top :=
    fun N => Frame.Agrees.later (tops ▸ Frame.agrees_mapCells W N _) older same
  constructor
  · refine co.grow sound sound' (first.grows.trans second.grows)
      (first'.grows.trans second'.grows) same ?_ ?_ (co.cells_swap first second first' second') ?_
    · rw [second.size, first.size, second'.size, first'.size, co.size]
    · intro k new
      rw [second.size, first.size] at new
      have other : k ≠ h.cells.size := by omega
      have other' : k ≠ h.cells.size + 1 := by omega
      rw [swapNew, Equiv.trans_apply, Equiv.swap_apply_of_ne_of_ne other other']
      exact co.fixed k (by omega)
    · intro k e i i' env env' _ new hk hk' hi hi'
      exact co.seen_swap first second first' second' sound sound' sound₁ sound₁' apart apart'
        agrees new hk hk' hi hi'
  · have renamed : h.scopes.top.mapCells (swapNew W h.cells.size) = h'.scopes.top :=
      (Frame.mapCells_congr fun k mem => same k (older k mem)).trans tops.symm
    exact co.top_swap first second first' second' renamed distinct

end Swap

end Heap

section Apply

open Heap

variable {B : List CellId} {s : State} {a : Assignment}

theorem assign_cases (a : Assignment) (c : Context) (running : Running B s.heap) :
    (∃ s₁, assign a c s = .ok .next s₁ ∧ s₁.channels = s.channels ∧ s₁.tryDepth = s.tryDepth ∧
      Assigned a B s.heap s₁.heap ∧ Running B s₁.heap) ∨
    ∃ s₁, assign a c s = .stop (.language (.undefinedAssignment a.name)) s₁ ∧
      s₁.channels = s.channels ∧ s.scopes.top.rebind? a.name s.cells.size = none := by
  obtain ⟨base, block, frame, focused, scopes, clear⟩ := running.frame
  have scopes : s.scopes = base.push (block :: frame) := scopes
  obtain ⟨base', extended, scopes', assigned⟩ := assign_apply a c focused scopes
  have top : s.scopes.top = block :: frame := by rw [scopes, Scopes.top_push focused]
  cases rebound : Frame.rebind? a.name s.cells.size (block :: frame) with
  | none =>
    rw [rebound] at assigned
    exact .inr ⟨_, assigned, rfl, top ▸ rebound⟩
  | some frame' =>
    rw [rebound] at assigned
    have takes := takes_assign running assigned
    have ensured := ensures_assign (c := c) (a := a) running
      (Q := fun _ s₁ => Running B s₁.heap ∧ Shifts B s.heap s₁.heap)
      fun _ ran shifts => ⟨ran, shifts⟩
    rw [Comp.ensures_of_apply assigned] at ensured
    refine .inl ⟨_, assigned, rfl, rfl, ⟨ensured.2.grows, ⟨_, rfl⟩, takes, ?_⟩, ensured.1⟩
    have top' : (base'.push frame').top = frame' :=
      Scopes.top_push (extended.focused focused) frame'
    rw [top, rebound, State.withHeap, top']

end Apply

end CallByNeed.Language
