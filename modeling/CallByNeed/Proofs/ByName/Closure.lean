import CallByNeed.Proofs.ByName.Meaning
import CallByNeed.Proofs.Heap.Deferral

set_option autoImplicit false
set_option relaxedAutoImplicit false

/-!
The closures of cells. A cell stands for the closure that it was given when it was made: the value
in it, or its expression with the closures of the cells that the top frame of its snapshot names,
which are older. Closures of further cells are added in the order in which the cells are made, so
what an old cell or an old frame stands for does not change, whatever happens to the contents of the
cells.
-/

namespace CallByNeed.Language

section MapCells

variable {α β : Type}

def Block.mapCells (f : α → β) (block : Block α) : Block β :=
  List.map (fun b => (b.1, f b.2)) block

def Frame.mapCells (f : α → β) (frame : Frame α) : Frame β :=
  List.map (Block.mapCells f) frame

variable (f : α → β) (name : String) (cell : α)

private theorem lookup_mapCells (block : Block α) :
    (block.mapCells f).lookup name = (block.lookup name).map f := by
  induction block with
  | nil => rfl
  | cons binding block ih =>
    obtain ⟨other, old⟩ := binding
    have rest : List.lookup name (List.map (fun b => (b.1, f b.2)) block) =
        (block.lookup name).map f := ih
    rw [Block.mapCells, List.map_cons, List.lookup_cons, List.lookup_cons, rest]
    cases name == other <;> rfl

theorem Block.binds_mapCells (block : Block α) :
    (block.mapCells f).binds name = block.binds name := by
  simp [Block.binds, Block.mapCells, Function.comp_def]

theorem Block.insert_mapCells (block : Block α) :
    (block.mapCells f).insert name (f cell) = (block.insert name cell).mapCells f := by
  induction block with
  | nil => rfl
  | cons binding block ih =>
    obtain ⟨other, old⟩ := binding
    simp only [Block.mapCells] at ih
    simp only [Block.mapCells, List.map_cons, Block.insert]
    split
    · rfl
    · rw [ih, List.map_cons]

theorem Frame.find?_mapCells (frame : Frame α) :
    (frame.mapCells f).find? name = (frame.find? name).map f := by
  induction frame with
  | nil => rfl
  | cons block frame ih =>
    simp only [Frame.mapCells] at ih
    simp only [Frame.mapCells, List.map_cons, Frame.find?, lookup_mapCells]
    cases block.lookup name with
    | none => exact ih
    | some old => rfl

theorem Frame.rebind?_mapCells (frame : Frame α) :
    (frame.mapCells f).rebind? name (f cell) =
      (frame.rebind? name cell).map (Frame.mapCells f) := by
  induction frame with
  | nil => rfl
  | cons block frame ih =>
    simp only [Frame.mapCells] at ih
    simp only [Frame.mapCells, List.map_cons, Frame.rebind?, Block.binds_mapCells]
    split
    · simp [Frame.mapCells, Block.insert_mapCells]
    · rw [ih]
      cases Frame.rebind? name cell frame <;> rfl

theorem bindParams_mapCells (params : List Param) (cells : List α) :
    bindParams params (cells.map f) = (bindParams params cells).mapCells f := by
  have step : ∀ (params : List Param) (cells : List α) (block : Block α),
      (params.zip (cells.map f)).foldl (fun block b => block.insert b.1.name b.2)
        (block.mapCells f) = Block.mapCells f
          ((params.zip cells).foldl (fun block b => block.insert b.1.name b.2) block) := by
    intro params
    induction params with
    | nil => exact fun _ _ => rfl
    | cons param params ih =>
      intro cells block
      cases cells with
      | nil => rfl
      | cons cell cells =>
        simp only [List.map_cons, List.zip_cons_cons, List.foldl_cons]
        rw [Block.insert_mapCells, ih]
  exact step params cells []

theorem Frame.mapCells_congr {f g : CellId → β} {frame : Frame}
    (h : ∀ k ∈ frame.cells, f k = g k) : frame.mapCells f = frame.mapCells g := by
  refine List.map_congr_left fun block inFrame => List.map_congr_left fun binding inBlock => ?_
  have mem : binding.2 ∈ frame.cells :=
    List.mem_flatMap.mpr ⟨block, inFrame, List.mem_map_of_mem inBlock⟩
  rw [h _ mem]

end MapCells

abbrev Closures := List Closure

namespace Closures

def cell (C : Closures) (k : CellId) : Closure :=
  C.getD k .unknown

def frame (C : Closures) (frame : Frame) : Frame Closure :=
  frame.mapCells C.cell

def content (C : Closures) (u : Scopes) : Cell → Closure
  | .value v => .value v
  | .thunk e i => .thunk e (C.frame (Env.top ((u.snapshots[i]?).getD [])))

variable {C C' : Closures}

theorem cell_of_le (le : C <+: C') {k : CellId} (old : k < C.length) : C'.cell k = C.cell k := by
  obtain ⟨rest, rfl⟩ := le
  simp [cell, List.getD_eq_getElem?_getD, List.getElem?_append_left old]

theorem frame_of_le (le : C <+: C') {frame : Frame} (old : ∀ k ∈ frame.cells, k < C.length) :
    C'.frame frame = C.frame frame :=
  Frame.mapCells_congr fun k mem => cell_of_le le (old k mem)

end Closures

namespace Heap

variable {B : List CellId} {h h' : Heap} {k : CellId} {C C' : Closures}

/-- What an idle cell names is older, so further closures change nothing about its content. -/
theorem Sound.content_of_le (sound : Sound B h) (idle : k ∉ B) {content : Cell}
    (hk : h.cells[k]? = some content) (old : k ≤ C.length) (le : C <+: C') :
    C'.content h.scopes content = C.content h.scopes content := by
  cases content with
  | value v => rfl
  | thunk e i =>
    obtain ⟨frame, frames, taken, older⟩ := sound.snapshot k e i hk
    have same : C'.frame frame = C.frame frame :=
      Closures.frame_of_le le fun j mem => Nat.lt_of_lt_of_le (older idle j mem) old
    simp only [Closures.content, taken, Option.getD_some, Env.top, List.headD_cons, same]

/-- Closures for all cells. The closures of further cells are those of their contents; of a cell
that is being evaluated it is not known. -/
structure Completes (B : List CellId) (h : Heap) (C C' : Closures) : Prop where
  le : C <+: C'
  size : C'.length = h.cells.size
  idle : ∀ (k : CellId) (content : Cell), C.length ≤ k → k ∉ B → h.cells[k]? = some content →
    C'.cell k = C'.content h.scopes content
  busy : ∀ k ∈ B, C.length ≤ k → C'.cell k = .unknown

private theorem Sound.exists_completes (sound : Sound B h) (le : C.length ≤ h.cells.size) :
    ∃ C', Completes B h C C' := by
  obtain ⟨n, size⟩ := Nat.exists_eq_add_of_le le
  induction n generalizing C with
  | zero =>
    have none : ∀ {k : CellId} {content : Cell}, C.length ≤ k → h.cells[k]? = some content →
        False := by
      intro k content new hk
      obtain ⟨bound, _⟩ := Array.getElem?_eq_some_iff.mp hk
      omega
    refine ⟨C, List.prefix_refl C, size.symm, fun k content new _ hk => (none new hk).elim, ?_⟩
    intro b busy new
    obtain ⟨e, i, thunk⟩ := sound.busy b busy
    exact (none new thunk).elim
  | succ n ih =>
    obtain ⟨content, present⟩ : ∃ content, h.cells[C.length]? = some content :=
      ⟨_, Array.getElem?_eq_getElem (by omega)⟩
    obtain ⟨d, closure⟩ : ∃ d, d = if C.length ∈ B then Closure.unknown
        else C.content h.scopes content := ⟨_, rfl⟩
    obtain ⟨D, longer, first, last⟩ : ∃ D : Closures, D.length = C.length + 1 ∧ C <+: D ∧
        D.cell C.length = d :=
      ⟨C ++ [d], by simp, List.prefix_append C [d], by simp [Closures.cell]⟩
    obtain ⟨C', completes⟩ := ih (C := D) (by omega) (by omega)
    have before : C <+: C' := first.trans completes.le
    have added : C'.cell C.length = d := by
      have old : C.length < D.length := by omega
      rw [Closures.cell_of_le completes.le old, last]
    refine ⟨C', before, completes.size, fun k content' new idle hk => ?_, fun b busy new => ?_⟩
    · rcases Nat.eq_or_lt_of_le new with rfl | later
      · obtain rfl := Option.some.inj (present.symm.trans hk)
        rw [added, closure, if_neg idle, sound.content_of_le idle hk (Nat.le_refl _) before]
      · exact completes.idle k content' (by omega) idle hk
    · rcases Nat.eq_or_lt_of_le new with rfl | later
      · rw [added, closure, if_pos busy]
      · exact completes.busy b busy (by omega)

theorem Completes.eq_of_size (completes : Completes B h C C') (size : C.length = h.cells.size) :
    C' = C :=
  (completes.le.eq_of_length (size.trans completes.size.symm)).symm

/-- The cells have closures, and an idle cell has been given one that stands for its content. -/
structure Faithful (stands : Closure → Closure → Prop) (B : List CellId) (C : Closures)
    (h : Heap) : Prop where
  size : C.length = h.cells.size
  nil : C.cell nilCell = .value .nil
  cells : ∀ (k : CellId) (content : Cell), k ∉ B → h.cells[k]? = some content →
    stands (C.cell k) (C.content h.scopes content)

theorem Sound.exists_faithful (sound : Sound B h) :
    ∃ C, Faithful Eq B C h ∧ ∀ b ∈ B, C.cell b = .unknown := by
  obtain ⟨C, completes⟩ := sound.exists_completes (C := []) (Nat.zero_le _)
  have idle : nilCell ∉ B := sound.clear_nilCell.not_mem
  refine ⟨C, ⟨completes.size, completes.idle _ _ (Nat.zero_le _) idle sound.nil, ?_⟩, ?_⟩
  · exact fun k content idle hk => completes.idle k content (Nat.zero_le _) idle hk
  · exact fun b busy => completes.busy b busy (Nat.zero_le _)

variable {stands : Closure → Closure → Prop}

theorem Faithful.of_eq (faithful : Faithful Eq B C h) (refl : ∀ d, stands d d) :
    Faithful stands B C h :=
  ⟨faithful.size, faithful.nil, fun k content idle hk =>
    faithful.cells k content idle hk ▸ refl _⟩

private theorem Faithful.completes (faithful : Faithful stands B C h) (refl : ∀ d, stands d d)
    (sound : Sound B h) (adds : h.Adds h') (completes : Completes B h' C C') :
    Faithful stands B C' h' := by
  have size := faithful.size
  have nil : nilCell < C.length := by
    rw [size]
    exact sound.clear_nilCell.1
  refine ⟨completes.size, (Closures.cell_of_le completes.le nil).trans faithful.nil, ?_⟩
  intro k content idle hk
  rcases Nat.lt_or_ge k C.length with old | new
  · have bound : k < h.cells.size := size ▸ old
    have before := Array.getElem?_eq_getElem bound
    have same := adds.cells k _ before
    obtain rfl := Option.some.inj (same.symm.trans hk)
    have closure := faithful.cells k _ idle before
    rw [Closures.cell_of_le completes.le old]
    suffices contents : C'.content h'.scopes h.cells[k] = C.content h.scopes h.cells[k] by
      rw [contents]
      exact closure
    rw [← sound.content_of_le idle before (Nat.le_of_lt old) completes.le]
    cases found : h.cells[k] with
    | value v => rfl
    | thunk e i =>
      rw [found] at before
      obtain ⟨frame, frames, taken, _⟩ := sound.snapshot k e i before
      have kept := adds.scopes.others i _ (sound.focus_ne idle before) taken
      simp only [Closures.content, taken, kept]
  · rw [completes.idle k content new idle hk]
    exact refl _

theorem Faithful.exists_completes (faithful : Faithful stands B C h) (refl : ∀ d, stands d d)
    (sound : Sound B h) (sound' : Sound B h') (adds : h.Adds h') :
    ∃ C', Completes B h' C C' ∧ Faithful stands B C' h' := by
  have le : C.length ≤ h'.cells.size := by
    rw [faithful.size]
    exact (sound.grows_adds adds).size_le
  obtain ⟨C', completes⟩ := sound'.exists_completes le
  exact ⟨C', completes, faithful.completes refl sound adds completes⟩

theorem Faithful.enter (faithful : Faithful stands B C h) (focus : Option Nat) :
    Faithful stands (k :: B) C (h.refocus focus) :=
  ⟨faithful.size, faithful.nil, fun j content idle hj =>
    faithful.cells j content (fun busy => idle (List.mem_cons_of_mem _ busy)) hj⟩

section Evaluated

variable {e : Expr} {i : Nat} (ended : Evaluated B k e i h h') (le : C <+: C')
  (before : Faithful stands B C h) (after : Faithful stands (k :: B) C' h')

include ended le before after

theorem Faithful.leave : Faithful stands B C' (h'.refocus h.scopes.focus) := by
  refine ⟨after.size, after.nil, fun j content idle hj => ?_⟩
  rcases Decidable.em (j = k) with rfl | other
  · obtain rfl := Option.some.inj (ended.thunk_after.symm.trans hj)
    obtain ⟨frame, frames, taken, _⟩ := ended.before.snapshot j e i ended.thunk
    have old : j < C.length := by
      rw [before.size]
      exact (Array.getElem?_eq_some_iff.mp ended.thunk).1
    have closure := before.cells j _ idle ended.thunk
    rw [← ended.before.content_of_le idle ended.thunk (Nat.le_of_lt old) le] at closure
    rw [Closures.cell_of_le le old]
    simpa only [Closures.content, refocus, taken, ended.snapshots_after taken] using closure
  · refine after.cells j content (fun busy => ?_) hj
    exact (List.mem_cons.mp busy).elim other idle

theorem Faithful.settle {v : Value} (value : stands (C'.cell k) (.value v)) :
    Faithful stands B C' ((h'.refocus h.scopes.focus).settle k v) := by
  have back := Faithful.leave ended le before after
  refine ⟨by simpa [Heap.settle] using back.size, back.nil, fun j content idle hj => ?_⟩
  rcases Decidable.em (j = k) with rfl | other
  · have held : (h'.settle j v).cells[j]? = some content := hj
    rw [ended.settle_cells_self] at held
    obtain rfl := Option.some.inj held
    exact value
  · have held : (h'.settle k v).cells[j]? = some content := hj
    rw [ended.settle_cells_of_ne v other] at held
    exact back.cells j content idle held

end Evaluated

end Heap

end CallByNeed.Language
