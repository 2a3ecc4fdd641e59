import CallByNeed.Proofs.Heap.Change

set_option autoImplicit false
set_option relaxedAutoImplicit false

/-!
What expressions and statements find and leave behind. An expression finds a frame whose cells can
be evaluated and leaves the environments as they are. A statement runs in a frame on top of both
environments, changes that frame only and leaves it with as many blocks.
-/

namespace CallByNeed.Language.Heap

variable {h h' h'' : Heap} {B : List CellId}

/-- Expressions can be evaluated: the frame that names are looked up in names clear cells. -/
structure Looking (B : List CellId) (h : Heap) : Prop where
  sound : Sound B h
  frame : ∃ frame frames, h.scopes.current = frame :: frames ∧ ∀ k ∈ frame.cells, h.Clear B k

/-- Statements can be executed: a frame with a block stands on top of both environments and names
clear cells. -/
structure Running (B : List CellId) (h : Heap) : Prop where
  sound : Sound B h
  frame : ∃ (base : Scopes) (block : Block) (frame : Frame),
    base.Focused ∧ h.scopes = base.push (block :: frame) ∧
    ∀ k ∈ Frame.cells (block :: frame), h.Clear B k

/-- What an expression leaves behind: the same environments in a later heap. -/
structure Keeps (B : List CellId) (h h' : Heap) : Prop where
  scopes : h.scopes.Extends h'.scopes
  grows : Grows B h h'

/-- What a statement leaves behind: a later heap with another frame on top of the same
environments. -/
structure Shifts (B : List CellId) (h h' : Heap) : Prop where
  frame : ∃ (base base' : Scopes) (frame frame' : Frame),
    base.Focused ∧ h.scopes = base.push frame ∧ h'.scopes = base'.push frame' ∧
    base.Extends base' ∧ frame'.length = frame.length ∧ ∀ k ∈ frame'.cells, h'.Clear B k
  grows : Grows B h h'

theorem Keeps.refl (B : List CellId) (h : Heap) : Keeps B h h :=
  ⟨.refl _, .refl _ _⟩

theorem Keeps.trans (first : Keeps B h h') (second : Keeps B h' h'') : Keeps B h h'' :=
  ⟨first.scopes.trans second.scopes, first.grows.trans second.grows⟩

theorem Running.looking (running : Running B h) : Looking B h := by
  obtain ⟨base, block, frame, focused, scopes, clear⟩ := running.frame
  exact ⟨running.sound, block :: frame, base.current, scopes ▸ focused.current _, clear⟩

theorem Looking.keeps (looking : Looking B h) (sound : Sound B h') (keeps : Keeps B h h') :
    Looking B h' := by
  obtain ⟨frame, frames, current, clear⟩ := looking.frame
  refine ⟨sound, frame, frames, ?_, fun k mem => (clear k mem).mono looking.sound keeps.grows⟩
  rw [keeps.scopes.current looking.sound.focused, current]

theorem Running.keeps_shifts (running : Running B h) (keeps : Keeps B h h') : Shifts B h h' := by
  obtain ⟨base, block, frame, focused, scopes, clear⟩ := running.frame
  have extended : (base.push (block :: frame)).Extends h'.scopes := scopes ▸ keeps.scopes
  obtain ⟨base', scopes', extends'⟩ := extended.exists_push focused
  exact ⟨⟨base, base', _, _, focused, scopes, scopes', extends', rfl,
    fun k mem => (clear k mem).mono running.sound keeps.grows⟩, keeps.grows⟩

theorem Running.shifts_refl (running : Running B h) : Shifts B h h :=
  running.keeps_shifts (.refl B h)

theorem Shifts.trans (first : Shifts B h h') (second : Shifts B h' h'') : Shifts B h h'' := by
  obtain ⟨base, base', frame, frame', focused, scopes, scopes', extended, length, _⟩ := first.frame
  obtain ⟨base₁, base₂, frame₁, frame₂, focused₁, scopes₁, scopes₂, extended₁, length₁, clear⟩ :=
    second.frame
  obtain ⟨rfl, rfl⟩ :=
    Scopes.push_injective (extended.focused focused) focused₁ (scopes'.symm.trans scopes₁)
  exact ⟨⟨base, base₂, frame, frame₂, focused, scopes, scopes₂, extended.trans extended₁,
    length₁.trans length, clear⟩, first.grows.trans second.grows⟩

theorem Running.shifts (running : Running B h) (sound : Sound B h') (shifts : Shifts B h h') :
    Running B h' := by
  obtain ⟨base, block, frame, focused, scopes, _⟩ := running.frame
  obtain ⟨base₁, base', frame₁, frame', focused₁, scopes₁, scopes', extended, length, clear⟩ :=
    shifts.frame
  obtain ⟨rfl, rfl⟩ := Scopes.push_injective focused focused₁ (scopes.symm.trans scopes₁)
  cases frame' with
  | nil => simp at length
  | cons block' frame' =>
    exact ⟨sound, base', block', frame', extended.focused focused, scopes', clear⟩

theorem Running.keeps (running : Running B h) (sound : Sound B h') (keeps : Keeps B h h') :
    Running B h' :=
  running.shifts sound (running.keeps_shifts keeps)

theorem Running.replace (running : Running B h) {base : Scopes} {frame frame' : Frame}
    (focused : base.Focused) (scopes : h.scopes = base.push frame)
    (clear : ∀ k ∈ frame'.cells, h.Clear B k) (length : frame'.length = frame.length) :
    Sound B ⟨h.cells, base.push frame'⟩ ∧ Shifts B h ⟨h.cells, base.push frame'⟩ := by
  have retops : h.scopes.Retops (base.push frame') :=
    scopes ▸ Scopes.retops_replace focused frame frame'
  have grows := running.sound.grows_retops retops
  refine ⟨running.sound.retops retops, ⟨base, base, frame, frame', focused, scopes, rfl, .refl _,
    length, fun k mem => (clear k mem).mono running.sound grows⟩, grows⟩

theorem Sound.keeps_defer (sound : Sound B h) (e : Expr) (frames : List Frame) {frame : Frame}
    (clear : ∀ k ∈ frame.cells, h.Clear B k) :
    Sound B (h.defer e (frame :: frames)) ∧ Keeps B h (h.defer e (frame :: frames)) ∧
      (h.defer e (frame :: frames)).Clear B h.cells.size :=
  ⟨sound.defer fun k mem => (clear k mem).1, ⟨Scopes.extends_snapshot _, grows_defer⟩,
    sound.clear_defer clear⟩

theorem Running.open_block (running : Running B h) :
    ∃ u, h.scopes.pushBlock = (.ok (), u) ∧ Running B ⟨h.cells, u⟩ := by
  obtain ⟨base, block, frame, focused, scopes, clear⟩ := running.frame
  have retops : h.scopes.Retops (base.push ([] :: block :: frame)) :=
    scopes ▸ Scopes.retops_replace focused _ _
  refine ⟨base.push ([] :: block :: frame), scopes ▸ Scopes.pushBlock_push focused _,
    running.sound.retops retops, base, [], block :: frame, focused, rfl, fun k mem => ?_⟩
  have mem : k ∈ Frame.cells (block :: frame) := by simpa [Block.cells] using mem
  exact (clear k mem).mono running.sound (running.sound.grows_retops retops)

theorem Running.close_block (running : Running B h) {u : Scopes}
    (opened : h.scopes.pushBlock = (.ok (), u)) (sound : Sound B h')
    (shifts : Shifts B ⟨h.cells, u⟩ h') :
    ∃ u', h'.scopes.popBlock = (.ok (), u') ∧ Sound B ⟨h'.cells, u'⟩ ∧
      Shifts B h ⟨h'.cells, u'⟩ ∧ Grows B h' ⟨h'.cells, u'⟩ := by
  obtain ⟨base, block, frame, focused, scopes, clear⟩ := running.frame
  obtain ⟨base₁, base', frame₁, frame', focused₁, scopes₁, scopes', extended, length, clear'⟩ :=
    shifts.frame
  rw [scopes, Scopes.pushBlock_push focused] at opened
  obtain rfl : base.push ([] :: block :: frame) = u := (Prod.mk.inj opened).2
  obtain ⟨rfl, rfl⟩ := Scopes.push_injective focused focused₁ scopes₁
  cases frame' with
  | nil => simp at length
  | cons block' frame' =>
    have focused' := extended.focused focused
    have retops : h'.scopes.Retops (base'.push frame') :=
      scopes' ▸ Scopes.retops_replace focused' _ _
    have opening : h.scopes.Retops (base.push ([] :: block :: frame)) :=
      scopes ▸ Scopes.retops_replace focused _ _
    have grows := sound.grows_retops retops
    refine ⟨base'.push frame', scopes' ▸ Scopes.popBlock_push focused' _ _, sound.retops retops,
      ⟨⟨base, base', block :: frame, frame', focused, scopes, rfl, extended, by simpa using length,
        fun k mem => ?_⟩, ?_⟩, grows⟩
    · have mem : k ∈ Frame.cells (block' :: frame') := Frame.mem_cells_cons.mpr (.inr mem)
      exact (clear' k mem).mono sound grows
    · exact ((running.sound.grows_retops opening).trans shifts.grows).trans grows

theorem Sound.open_frame (sound : Sound B h) {block : Block}
    (clear : ∀ k ∈ block.cells, h.Clear B k) : Running B ⟨h.cells, h.scopes.push [block]⟩ := by
  have retops := Scopes.retops_push sound.focused [block]
  refine ⟨sound.retops retops, h.scopes, block, [], sound.focused, rfl, fun k mem => ?_⟩
  have mem : k ∈ block.cells := by simpa using mem
  exact (clear k mem).mono sound (sound.grows_retops retops)

theorem Sound.close_frame (sound : Sound B h) {frame : Frame} (sound' : Sound B h')
    (shifts : Shifts B ⟨h.cells, h.scopes.push frame⟩ h') :
    ∃ u', h'.scopes.popFrame = (.ok (), u') ∧ Sound B ⟨h'.cells, u'⟩ ∧ Keeps B h ⟨h'.cells, u'⟩ ∧
      Grows B h' ⟨h'.cells, u'⟩ := by
  obtain ⟨base, base', frame₁, frame', focused, scopes, scopes', extended, _, _⟩ := shifts.frame
  obtain ⟨rfl, rfl⟩ := Scopes.push_injective sound.focused focused scopes
  have top : ∀ i : Nat, base'.focus = some i →
      ∃ frame frames, base'.snapshots[i]? = some (frame :: frames) := by
    intro i focus
    obtain ⟨frame, frames, taken⟩ := sound.top i (extended.focus ▸ focus)
    exact ⟨frame, frames, extended.snapshots i _ taken⟩
  have retops : h'.scopes.Retops base' := scopes' ▸ Scopes.retops_pop frame' top
  have opening := sound.grows_retops (Scopes.retops_push sound.focused frame)
  have grows := sound'.grows_retops retops
  exact ⟨base', scopes' ▸ Scopes.popFrame_push (extended.focused focused) _, sound'.retops retops,
    ⟨extended, (opening.trans shifts.grows).trans grows⟩, grows⟩

theorem Sound.looking_enter (sound : Sound B h) {k : CellId} (clear : h.Clear B k) {e : Expr}
    {i : Nat} (hk : h.cells[k]? = some (.thunk e i)) : Looking (k :: B) (h.refocus (some i)) := by
  obtain ⟨frame, frames, taken, _⟩ := sound.snapshot k e i hk
  have current : (h.refocus (some i)).scopes.current = frame :: frames := by
    simp [refocus, Scopes.current, taken]
  exact ⟨sound.enter clear hk, frame, frames, current, fun j mem =>
    sound.clear_enter clear hk taken mem⟩

end CallByNeed.Language.Heap
