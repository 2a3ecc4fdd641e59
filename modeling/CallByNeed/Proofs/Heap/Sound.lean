import CallByNeed.Language.State
import CallByNeed.Proofs.Scope.Block
import CallByNeed.Proofs.Scope.Push
import Mathlib.Logic.Relation

set_option autoImplicit false
set_option relaxedAutoImplicit false

/-!
The cells and scopes of a run. A deferred expression was written down with a snapshot that only
names cells older than its own, so evaluating it never comes back to it. While it is evaluated its
snapshot is in focus, and no other deferred expression shares it.
-/

namespace CallByNeed.Language

def Block.cells (block : Block) : List CellId :=
  block.map Prod.snd

def Frame.cells (frame : Frame) : List CellId :=
  frame.flatMap Block.cells

@[simp]
theorem Frame.cells_nil : Frame.cells [] = [] := rfl

@[simp]
theorem Frame.mem_cells_cons {k : CellId} {block : Block} {frame : Frame} :
    k ∈ Frame.cells (block :: frame) ↔ k ∈ block.cells ∨ k ∈ frame.cells := by
  simp [Frame.cells]

private theorem Block.mem_cells_of_lookup {k : CellId} {name : String} {block : Block}
    (h : block.lookup name = some k) : k ∈ block.cells := by
  induction block with
  | nil => simp at h
  | cons binding block ih =>
    obtain ⟨other, old⟩ := binding
    rw [List.lookup_cons] at h
    split at h
    · obtain rfl := Option.some.inj h
      exact List.mem_cons_self
    · exact List.mem_cons_of_mem _ (ih h)

theorem Block.mem_cells_insert {j k : CellId} {name : String} {block : Block}
    (h : j ∈ (block.insert name k).cells) : j = k ∨ j ∈ block.cells := by
  induction block with
  | nil => simpa [Block.insert, Block.cells] using h
  | cons binding block ih =>
    obtain ⟨other, old⟩ := binding
    rw [Block.insert] at h
    split at h
    · rcases List.mem_cons.mp h with rfl | older
      · exact .inl rfl
      · exact .inr (List.mem_cons_of_mem _ older)
    · rcases List.mem_cons.mp h with rfl | older
      · exact .inr List.mem_cons_self
      · exact (ih older).imp_right (List.mem_cons_of_mem _)

theorem Frame.mem_cells_of_find? {k : CellId} {name : String} {frame : Frame}
    (h : frame.find? name = some k) : k ∈ frame.cells := by
  induction frame with
  | nil => simp [Frame.find?] at h
  | cons block frame ih =>
    rw [Frame.find?] at h
    rw [Frame.mem_cells_cons]
    split at h
    · next found =>
      obtain rfl := Option.some.inj h
      exact .inl (Block.mem_cells_of_lookup found)
    · exact .inr (ih h)

theorem Frame.mem_cells_rebind? {j k : CellId} {name : String} {frame frame' : Frame}
    (h : frame.rebind? name k = some frame') (hj : j ∈ frame'.cells) :
    j = k ∨ j ∈ frame.cells := by
  induction frame generalizing frame' with
  | nil => simp [Frame.rebind?] at h
  | cons block frame ih =>
    rw [Frame.rebind?] at h
    split at h
    · obtain rfl := Option.some.inj h
      rw [Frame.mem_cells_cons] at hj ⊢
      rcases hj with inner | outer
      · exact (Block.mem_cells_insert inner).imp_right .inl
      · exact .inr (.inr outer)
    · obtain ⟨rest, rebound, rfl⟩ := Option.map_eq_some_iff.mp h
      rw [Frame.mem_cells_cons] at hj ⊢
      rcases hj with inner | outer
      · exact .inr (.inl inner)
      · exact (ih rebound outer).imp_right .inr

structure Heap where
  cells : Array Cell
  scopes : Scopes

@[reducible]
def State.heap (s : State) : Heap :=
  ⟨s.cells, s.scopes⟩

namespace Heap

variable {h h' h'' : Heap} {B : List CellId} {k : CellId}

/-- The deferred expression of a cell is evaluated in a snapshot that names another cell. -/
def Sees (h : Heap) (k k' : CellId) : Prop :=
  ∃ e i frame frames, h.cells[k]? = some (.thunk e i) ∧
    h.scopes.snapshots[i]? = some (frame :: frames) ∧ k' ∈ frame.cells

/-- A cell from which none of the cells of `B` is seen, directly or through others. -/
def Clear (h : Heap) (B : List CellId) (k : CellId) : Prop :=
  k < h.cells.size ∧ ∀ k', Relation.ReflTransGen h.Sees k k' → k' ∉ B

/-- The cells of `B` are being evaluated, the first of them innermost, and the others are as they
were written down. -/
structure Sound (B : List CellId) (h : Heap) : Prop where
  nil : h.cells[nilCell]? = some (.value .nil)
  busy : ∀ b ∈ B, ∃ e i, h.cells[b]? = some (.thunk e i)
  distinct : B.Nodup
  snapshot : ∀ (k : CellId) (e : Expr) (i : Nat), h.cells[k]? = some (.thunk e i) →
    ∃ frame frames, h.scopes.snapshots[i]? = some (frame :: frames) ∧
      (k ∉ B → ∀ k' ∈ frame.cells, k' < k)
  single : ∀ (k k' : CellId) (e e' : Expr) (i : Nat), h.cells[k]? = some (.thunk e i) →
    h.cells[k']? = some (.thunk e' i) → k = k'
  idle : B = [] → h.scopes.focus = none
  focus : ∀ b rest, B = b :: rest → ∃ e i, h.cells[b]? = some (.thunk e i) ∧
    h.scopes.focus = some i

/-- A later heap: values and the cells that are being evaluated stay, another deferred expression
stays with its snapshot or is replaced by a value. -/
structure Grows (B : List CellId) (h h' : Heap) : Prop where
  cells : ∀ (k : CellId) (content : Cell), h.cells[k]? = some content →
    h'.cells[k]? = some content ∨
      k ∉ B ∧ (∃ e i, content = .thunk e i) ∧ ∃ v, h'.cells[k]? = some (.value v)
  snapshots : ∀ (k : CellId) (e : Expr) (i : Nat) (env : Env), k ∉ B →
    h.cells[k]? = some (.thunk e i) → h'.cells[k]? = some (.thunk e i) →
    h.scopes.snapshots[i]? = some env → h'.scopes.snapshots[i]? = some env

theorem Grows.refl (B : List CellId) (h : Heap) : Grows B h h :=
  ⟨fun _ _ hk => .inl hk, fun _ _ _ _ _ _ _ hi => hi⟩

theorem Grows.cells_of_value (grows : Grows B h h') {v : Value}
    (hk : h.cells[k]? = some (.value v)) : h'.cells[k]? = some (.value v) := by
  rcases grows.cells k _ hk with same | ⟨_, ⟨e, i, thunk⟩, _⟩
  · exact same
  · simp at thunk

theorem Grows.cells_of_busy (grows : Grows B h h') {content : Cell} (busy : k ∈ B)
    (hk : h.cells[k]? = some content) : h'.cells[k]? = some content := by
  rcases grows.cells k _ hk with same | ⟨idle, _, _⟩
  · exact same
  · exact absurd busy idle

theorem Grows.trans (first : Grows B h h') (second : Grows B h' h'') : Grows B h h'' := by
  constructor
  · intro k content hk
    rcases first.cells k content hk with same | ⟨idle, thunk, v, hv⟩
    · exact second.cells k content same
    · exact .inr ⟨idle, thunk, v, second.cells_of_value hv⟩
  · intro k e i env idle hk hk'' hi
    rcases first.cells k _ hk with same | ⟨_, _, v, hv⟩
    · exact second.snapshots k e i env idle same hk'' (first.snapshots k e i env idle hk same hi)
    · simp [second.cells_of_value hv] at hk''

theorem Grows.size_le (grows : Grows B h h') : h.cells.size ≤ h'.cells.size := by
  refine Nat.le_of_not_lt fun bound => ?_
  have old := Array.getElem?_eq_getElem bound
  rcases grows.cells _ _ old with same | ⟨_, _, v, hv⟩
  · simp at same
  · simp at hv

/-- A later heap with further cells, in which of the environments only those in use have changed. -/
structure Adds (h h' : Heap) : Prop where
  cells : ∀ (k : CellId) (content : Cell), h.cells[k]? = some content → h'.cells[k]? = some content
  scopes : h.scopes.Uses h'.scopes

theorem Adds.refl (h : Heap) : Adds h h :=
  ⟨fun _ _ hk => hk, .refl _⟩

theorem Adds.trans (first : Adds h h') (second : Adds h' h'') : Adds h h'' :=
  ⟨fun k content hk => second.cells k content (first.cells k content hk),
    first.scopes.trans second.scopes⟩

theorem Sound.lt_of_sees (sound : Sound B h) {k' : CellId} (idle : k ∉ B) (sees : h.Sees k k') :
    k' < k := by
  obtain ⟨e, i, frame, frames, hk, hi, mem⟩ := sees
  obtain ⟨frame', frames', hi', older⟩ := sound.snapshot k e i hk
  rw [hi] at hi'
  obtain ⟨rfl, rfl⟩ := List.cons.inj (Option.some.inj hi')
  exact older idle k' mem

theorem Clear.present (clear : h.Clear B k) : ∃ content, h.cells[k]? = some content :=
  ⟨_, Array.getElem?_eq_getElem clear.1⟩

theorem Clear.not_mem (clear : h.Clear B k) : k ∉ B :=
  clear.2 k .refl

theorem Clear.of_reaches (sound : Sound B h) (clear : h.Clear B k) {k' : CellId}
    (reach : Relation.ReflTransGen h.Sees k k') : h.Clear B k' ∧ k' ≤ k := by
  induction reach with
  | refl => exact ⟨clear, Nat.le_refl _⟩
  | tail _ sees ih =>
    obtain ⟨clear', le⟩ := ih
    have lt := sound.lt_of_sees clear'.not_mem sees
    exact ⟨⟨Nat.lt_trans lt clear'.1, fun j reach => clear'.2 j (.head sees reach)⟩,
      Nat.le_of_lt (Nat.lt_of_lt_of_le lt le)⟩

theorem Clear.mono (sound : Sound B h) (grows : Grows B h h') (clear : h.Clear B k) :
    h'.Clear B k := by
  refine ⟨Nat.lt_of_lt_of_le clear.1 grows.size_le, fun k' reach => ?_⟩
  suffices old : Relation.ReflTransGen h.Sees k k' from clear.2 k' old
  induction reach with
  | refl => exact .refl
  | @tail j j' _ sees ih =>
    refine ih.tail ?_
    obtain ⟨clear', _⟩ := clear.of_reaches sound ih
    obtain ⟨e, i, frame, frames, hj, hi, mem⟩ := sees
    have same : h.cells[j]? = some (.thunk e i) := by
      have old := Array.getElem?_eq_getElem clear'.1
      rcases grows.cells j _ old with same | ⟨_, _, v, hv⟩
      · rw [old, ← same, hj]
      · simp [hj] at hv
    obtain ⟨frame', frames', hi', _⟩ := sound.snapshot j e i same
    have kept := grows.snapshots j e i _ clear'.not_mem same hj hi'
    rw [hi] at kept
    obtain ⟨rfl, rfl⟩ := List.cons.inj (Option.some.inj kept)
    exact ⟨e, i, frame, frames, same, hi', mem⟩

theorem Sound.focused (sound : Sound B h) : h.scopes.Focused := by
  intro i hi
  cases B with
  | nil => simp [sound.idle rfl] at hi
  | cons b rest =>
    obtain ⟨e, j, hb, focus⟩ := sound.focus b rest rfl
    obtain rfl : j = i := Option.some.inj (focus.symm.trans hi)
    obtain ⟨frame, frames, taken, _⟩ := sound.snapshot b e j hb
    exact (Array.getElem?_eq_some_iff.mp taken).1

theorem Sound.clear_nilCell (sound : Sound B h) : h.Clear B nilCell := by
  refine ⟨(Array.getElem?_eq_some_iff.mp sound.nil).1, fun k reach => ?_⟩
  rcases Relation.ReflTransGen.cases_head reach with rfl | ⟨j, sees, _⟩
  · intro busy
    obtain ⟨e, i, thunk⟩ := sound.busy _ busy
    simp [sound.nil] at thunk
  · obtain ⟨e, i, _, _, thunk, _⟩ := sees
    simp [sound.nil] at thunk

end Heap

end CallByNeed.Language
