import CallByNeed.Language.Scope

set_option autoImplicit false
set_option relaxedAutoImplicit false

/-!
Scopes with a frame on top. While a function runs, its frame stands on top of the home environment
and of the environment that names are looked up in, with the same blocks in both, so that a change
of the scopes is a change of that frame alone.
-/

namespace CallByNeed.Language.Scopes

/-- The snapshot that names are looked up in has been taken. -/
def Focused (s : Scopes) : Prop :=
  ∀ i, s.focus = some i → i < s.snapshots.size

def push (s : Scopes) (frame : Frame) : Scopes :=
  let s := { s with home := frame :: s.home }
  if s.focus.isNone then s else s.setCurrent (frame :: s.current)

variable {s : Scopes}

@[simp]
theorem push_home (frame : Frame) : (s.push frame).home = frame :: s.home := by
  obtain ⟨home, snapshots, _ | i⟩ := s <;> rfl

@[simp]
theorem push_focus (frame : Frame) : (s.push frame).focus = s.focus := by
  obtain ⟨home, snapshots, _ | i⟩ := s <;> rfl

@[simp]
theorem push_size (frame : Frame) : (s.push frame).snapshots.size = s.snapshots.size := by
  obtain ⟨home, snapshots, _ | i⟩ := s
  · rfl
  · exact Array.size_setIfInBounds

theorem push_snapshots_of_ne (frame : Frame) {i : Nat} (h : s.focus ≠ some i) :
    (s.push frame).snapshots[i]? = s.snapshots[i]? := by
  obtain ⟨home, snapshots, _ | j⟩ := s
  · rfl
  · exact Array.getElem?_setIfInBounds_ne fun same => h (congrArg some same)

theorem Focused.push (focused : s.Focused) (frame : Frame) : (s.push frame).Focused := by
  intro i hi
  rw [push_focus] at hi
  rw [push_size]
  exact focused i hi

theorem Focused.current (focused : s.Focused) (frame : Frame) :
    (s.push frame).current = frame :: s.current := by
  obtain ⟨home, snapshots, _ | i⟩ := s
  · rfl
  · have bound : i < snapshots.size := focused i rfl
    simp [Scopes.push, Scopes.current, setCurrent, bound]

theorem get?_push (focused : s.Focused) (frame : Frame) (name : String) :
    (s.push frame).get? name = .ok (frame.find? name) := by
  rw [get?, focused.current]

private theorem both_push {change : Env → Except ScopeFault Env} {frame frame' : Frame}
    (focused : s.Focused) (h : ∀ frames, change (frame :: frames) = .ok (frame' :: frames)) :
    (s.push frame).both change = (.ok (), s.push frame') := by
  rw [both, focused.current, h]
  obtain ⟨home, snapshots, _ | i⟩ := s
  · rfl
  · simp [setCurrent, Scopes.push, Scopes.current, h]

theorem pushBlock_push (focused : s.Focused) (frame : Frame) :
    (s.push frame).pushBlock = (.ok (), s.push ([] :: frame)) :=
  both_push focused fun _ => rfl

theorem popBlock_push (focused : s.Focused) (block : Block) (frame : Frame) :
    (s.push (block :: frame)).popBlock = (.ok (), s.push frame) :=
  both_push focused fun _ => rfl

private theorem setIfInBounds_getElem_self {snapshots : Array Env} {i : Nat}
    (bound : i < snapshots.size) : snapshots.setIfInBounds i snapshots[i] = snapshots := by
  rw [Array.setIfInBounds_def, dif_pos bound, Array.set_getElem_self]

theorem Focused.current_setCurrent (focused : s.Focused) (env : Env) :
    (s.setCurrent env).current = env := by
  obtain ⟨home, snapshots, _ | i⟩ := s
  · rfl
  · have bound : i < snapshots.size := focused i rfl
    simp [setCurrent, Scopes.current, bound]

private theorem Focused.setCurrent_current (focused : s.Focused) : s.setCurrent s.current = s := by
  obtain ⟨home, snapshots, _ | i⟩ := s
  · rfl
  · have bound : i < snapshots.size := focused i rfl
    simp [setCurrent, Scopes.current, bound, setIfInBounds_getElem_self]

theorem Focused.setCurrent_eq_self_iff (focused : s.Focused) {env : Env} :
    s.setCurrent env = s ↔ env = s.current := by
  constructor
  · intro same
    have top := focused.current_setCurrent env
    rw [same] at top
    exact top.symm
  · rintro rfl
    exact focused.setCurrent_current

theorem setCurrent_home_of_focus {i : Nat} (focus : s.focus = some i) (env : Env) :
    (s.setCurrent env).home = s.home := by
  rw [setCurrent, focus]

theorem focused_of_current {frame : Frame} {frames : List Frame}
    (current : s.current = frame :: frames) : s.Focused := by
  intro i focus
  refine Nat.lt_of_not_le fun outside => ?_
  rw [Scopes.current, focus] at current
  simp only [Array.getElem?_eq_none outside, Option.getD_none] at current
  cases current

theorem popFrame_push (focused : s.Focused) (frame : Frame) :
    (s.push frame).popFrame = (.ok (), s) := by
  rw [popFrame, both, focused.current]
  obtain ⟨home, snapshots, _ | i⟩ := s
  · rfl
  · have bound : i < snapshots.size := focused i rfl
    simp [setCurrent, Scopes.push, Scopes.current, bound, setIfInBounds_getElem_self]

theorem set_push (focused : s.Focused) (frame : Frame) (name : String) (cell : CellId) :
    (s.push frame).set name cell = match frame.rebind? name cell with
      | none => (.ok false, s.push frame)
      | some frame => (.ok true, s.push frame) := by
  rw [set, focused.current]
  cases rebound : frame.rebind? name cell with
  | none => simp only [rebound]
  | some frame' =>
    obtain ⟨home, snapshots, _ | i⟩ := s
    · simp [setCurrent, Scopes.push, Scopes.current, rebound]
    · simp [setCurrent, Scopes.push, Scopes.current, rebound]

theorem create_push (focused : s.Focused) (block : Block) (frame : Frame) (name : String)
    (cell : CellId) :
    (s.push (block :: frame)).create name cell =
      if block.binds name then (.ok false, s.push (block :: frame))
      else (.ok true, s.push (block.insert name cell :: frame)) := by
  rw [create, focused.current]
  obtain ⟨home, snapshots, _ | i⟩ := s
  · rfl
  · cases bound : block.binds name <;> simp [setCurrent, Scopes.push, Scopes.current, bound]

/-- Later scopes with the same environments, in which further snapshots may have been taken. -/
structure Extends (a b : Scopes) : Prop where
  home : b.home = a.home
  focus : b.focus = a.focus
  snapshots : ∀ (i : Nat) (env : Env), a.snapshots[i]? = some env → b.snapshots[i]? = some env

namespace Extends

variable {a b c : Scopes}

theorem refl (a : Scopes) : a.Extends a :=
  ⟨rfl, rfl, fun _ _ h => h⟩

theorem trans (h : a.Extends b) (h' : b.Extends c) : a.Extends c :=
  ⟨h'.home.trans h.home, h'.focus.trans h.focus, fun i env hi => h'.snapshots i env
    (h.snapshots i env hi)⟩

theorem focused (h : a.Extends b) (focused : a.Focused) : b.Focused := by
  intro i hi
  have bound : i < a.snapshots.size := focused i (h.focus ▸ hi)
  have kept := h.snapshots i _ (Array.getElem?_eq_getElem bound)
  exact (Array.getElem?_eq_some_iff.mp kept).1

theorem current (h : a.Extends b) (focused : a.Focused) : b.current = a.current := by
  unfold Scopes.current
  rw [h.focus]
  cases hf : a.focus with
  | none => exact h.home
  | some i =>
    have bound : i < a.snapshots.size := focused i hf
    have taken := Array.getElem?_eq_getElem bound
    simp only [taken, h.snapshots i _ taken]

end Extends

theorem extends_snapshot (env : Env) : s.Extends (s.snapshot env).2 := by
  refine ⟨rfl, rfl, fun i env' h => ?_⟩
  have bound : i < s.snapshots.size := (Array.getElem?_eq_some_iff.mp h).1
  rw [snapshot, Array.getElem?_push_lt bound, ← h, Array.getElem?_eq_getElem bound]

theorem Extends.exists_push {b : Scopes} {frame : Frame} (focused : s.Focused)
    (h : (s.push frame).Extends b) : ∃ s', b = s'.push frame ∧ s.Extends s' := by
  obtain ⟨home, snapshots, _ | i⟩ := s
  · refine ⟨{ b with home := home }, ?_, rfl, h.focus, h.snapshots⟩
    obtain ⟨home', snapshots', focus'⟩ := b
    have same : home' = frame :: home := h.home
    have unfocused : focus' = none := h.focus
    subst same unfocused
    rfl
  · have bound : i < snapshots.size := focused i rfl
    obtain ⟨home', snapshots', focus'⟩ := b
    have same : home' = frame :: home := h.home
    have focus : focus' = some i := h.focus
    subst same focus
    have top : snapshots'[i]? = some (frame :: snapshots[i]) := by
      refine h.snapshots i _ ?_
      simp [Scopes.push, setCurrent, Scopes.current, bound]
    obtain ⟨bound', top⟩ := Array.getElem?_eq_some_iff.mp top
    refine ⟨⟨home, snapshots'.setIfInBounds i snapshots[i], some i⟩, ?_, rfl, rfl, ?_⟩
    · simp [Scopes.push, setCurrent, Scopes.current, bound', ← top, setIfInBounds_getElem_self]
    · intro j env hj
      rcases Decidable.em (i = j) with rfl | ne
      · rw [Array.getElem?_setIfInBounds_self_of_lt bound', ← hj, Array.getElem?_eq_getElem bound]
      · rw [Array.getElem?_setIfInBounds_ne ne]
        refine h.snapshots j env ?_
        rw [push_snapshots_of_ne frame fun same => ne (Option.some.inj same)]
        exact hj

theorem push_injective {a b : Scopes} {frame frame' : Frame} (ha : a.Focused) (hb : b.Focused)
    (h : a.push frame = b.push frame') : a = b ∧ frame = frame' := by
  have popped := congrArg Scopes.popFrame h
  rw [popFrame_push ha, popFrame_push hb] at popped
  have homes := congrArg Scopes.home h
  rw [push_home, push_home] at homes
  exact ⟨(Prod.mk.inj popped).2, (List.cons.inj homes).1⟩

/-- Later scopes in which only the home environment and the environment that names are looked up in
may have changed, and further snapshots may have been taken. -/
structure Uses (a b : Scopes) : Prop where
  focus : b.focus = a.focus
  others : ∀ (i : Nat) (env : Env), a.focus ≠ some i → a.snapshots[i]? = some env →
    b.snapshots[i]? = some env

theorem Uses.refl (a : Scopes) : a.Uses a :=
  ⟨rfl, fun _ _ _ h => h⟩

theorem Uses.trans {a b c : Scopes} (h : a.Uses b) (h' : b.Uses c) : a.Uses c := by
  refine ⟨h'.focus.trans h.focus, fun i env other taken => ?_⟩
  exact h'.others i env (h.focus ▸ other) (h.others i env other taken)

theorem Extends.uses {a b : Scopes} (h : a.Extends b) : a.Uses b :=
  ⟨h.focus, fun i env _ => h.snapshots i env⟩

private theorem uses_home (env : Env) : s.Uses { s with home := env } :=
  ⟨rfl, fun _ _ _ h => h⟩

private theorem uses_setCurrent (env : Env) : s.Uses (s.setCurrent env) := by
  obtain ⟨home, snapshots, _ | j⟩ := s
  · exact uses_home env
  · refine ⟨rfl, fun i env' other taken => ?_⟩
    rw [← taken]
    exact Array.getElem?_setIfInBounds_ne fun same => other (congrArg some same)

theorem uses_both (change : Env → Except ScopeFault Env) : s.Uses (s.both change).2 := by
  unfold both
  split
  · exact .refl s
  · dsimp only
    split
    · exact uses_setCurrent _
    · split
      · exact uses_setCurrent _
      · exact (uses_setCurrent _).trans (uses_home _)

theorem uses_pushFrame : s.Uses s.pushFrame := by
  unfold pushFrame
  dsimp only
  split
  · exact uses_home _
  · exact (uses_home _).trans (uses_setCurrent _)

theorem uses_set (name : String) (cell : CellId) : s.Uses (s.set name cell).2 := by
  unfold set
  split
  · exact .refl s
  · split
    · exact .refl s
    · have current := uses_setCurrent (s := s)
      dsimp only
      split
      · exact current _
      · split
        · exact current _
        · split
          · exact current _
          · exact (current _).trans (uses_home _)

theorem uses_create (name : String) (cell : CellId) : s.Uses (s.create name cell).2 := by
  unfold create
  split
  · exact .refl s
  · split
    · split
      · exact .refl s
      · split
        · exact .refl s
        · exact uses_home _
    · split
      · exact .refl s
      · split
        · exact .refl s
        · split
          · exact .refl s
          · exact .refl s
        · split
          · exact .refl s
          · exact (uses_setCurrent _).trans (uses_home _)

end CallByNeed.Language.Scopes
