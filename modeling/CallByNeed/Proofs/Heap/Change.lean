import CallByNeed.Proofs.Heap.Sound

set_option autoImplicit false
set_option relaxedAutoImplicit false

/-!
The changes of the cells and scopes of a run, each of which keeps them sound: a change of the frame
on top, a new cell, and the two ends of the evaluation of a deferred expression.
-/

namespace CallByNeed.Language

/-- Scopes that differ in the home environment and in the environment in focus only. -/
structure Scopes.Retops (u u' : Scopes) : Prop where
  focus : u'.focus = u.focus
  others : ∀ i : Nat, u.focus ≠ some i → u'.snapshots[i]? = u.snapshots[i]?
  top : ∀ i : Nat, u.focus = some i → ∃ frame frames, u'.snapshots[i]? = some (frame :: frames)

private theorem Scopes.snapshots_eq_current {u : Scopes} (focused : u.Focused) {i : Nat}
    (h : u.focus = some i) : u.snapshots[i]? = some u.current := by
  have bound : i < u.snapshots.size := focused i h
  simp [Scopes.current, h, bound]

theorem Scopes.retops_replace {u : Scopes} (focused : u.Focused) (frame frame' : Frame) :
    (u.push frame).Retops (u.push frame') := by
  refine ⟨by simp, fun i other => ?_, fun i focus => ⟨frame', u.current, ?_⟩⟩
  · rw [push_focus] at other
    rw [push_snapshots_of_ne frame other, push_snapshots_of_ne frame' other]
  · rw [push_focus] at focus
    rw [snapshots_eq_current (focused.push frame') (by simpa using focus), focused.current]

theorem Scopes.retops_push {u : Scopes} (focused : u.Focused) (frame : Frame) :
    u.Retops (u.push frame) := by
  refine ⟨by simp, fun i other => push_snapshots_of_ne frame other, fun i focus => ?_⟩
  refine ⟨frame, u.current, ?_⟩
  rw [snapshots_eq_current (focused.push frame) (by simpa using focus), focused.current]

theorem Scopes.retops_pop {u : Scopes} (frame : Frame)
    (top : ∀ i : Nat, u.focus = some i → ∃ frame frames, u.snapshots[i]? = some (frame :: frames)) :
    (u.push frame).Retops u := by
  refine ⟨by simp, fun i other => ?_, fun i focus => top i (by simpa using focus)⟩
  exact (push_snapshots_of_ne frame (by simpa using other)).symm

namespace Heap

variable {h h' : Heap} {B : List CellId} {k : CellId}

theorem Sound.top (sound : Sound B h) (i : Nat) (hi : h.scopes.focus = some i) :
    ∃ frame frames, h.scopes.snapshots[i]? = some (frame :: frames) := by
  cases B with
  | nil => simp [sound.idle rfl] at hi
  | cons b rest =>
    obtain ⟨e, j, hb, focus⟩ := sound.focus b rest rfl
    obtain rfl : j = i := Option.some.inj (focus.symm.trans hi)
    obtain ⟨frame, frames, taken, _⟩ := sound.snapshot b e j hb
    exact ⟨frame, frames, taken⟩

theorem Sound.focus_ne (sound : Sound B h) (idle : k ∉ B) {e : Expr} {i : Nat}
    (hk : h.cells[k]? = some (.thunk e i)) : h.scopes.focus ≠ some i := by
  intro focus
  cases B with
  | nil => simp [sound.idle rfl] at focus
  | cons b rest =>
    obtain ⟨e', j, hb, focus'⟩ := sound.focus b rest rfl
    obtain rfl : j = i := Option.some.inj (focus'.symm.trans focus)
    obtain rfl := sound.single k b e e' j hk hb
    exact idle List.mem_cons_self

theorem Sound.grows_adds (sound : Sound B h) (adds : h.Adds h') : Grows B h h' := by
  refine ⟨fun k content hk => .inl (adds.cells k content hk), fun k e i env idle hk _ hi => ?_⟩
  exact adds.scopes.others i env (sound.focus_ne idle hk) hi

section Retops

variable {u : Scopes}

theorem Sound.retops (sound : Sound B h) (retops : h.scopes.Retops u) :
    Sound B ⟨h.cells, u⟩ where
  nil := sound.nil
  busy := sound.busy
  distinct := sound.distinct
  snapshot := by
    intro k e i hk
    by_cases focus : h.scopes.focus = some i
    · obtain ⟨frame, frames, taken⟩ := retops.top i focus
      exact ⟨frame, frames, taken, fun idle => absurd focus (sound.focus_ne idle hk)⟩
    · obtain ⟨frame, frames, taken, older⟩ := sound.snapshot k e i hk
      exact ⟨frame, frames, (retops.others i focus).trans taken, older⟩
  single := sound.single
  idle none := retops.focus.trans (sound.idle none)
  focus := by
    intro b rest hB
    obtain ⟨e, i, hb, focus⟩ := sound.focus b rest hB
    exact ⟨e, i, hb, retops.focus.trans focus⟩

theorem Sound.grows_retops (sound : Sound B h) (retops : h.scopes.Retops u) :
    Grows B h ⟨h.cells, u⟩ := by
  refine sound.grows_adds ⟨fun _ _ hk => hk, retops.focus, fun i env other taken => ?_⟩
  rw [retops.others i other]
  exact taken

end Retops

section Defer

def defer (h : Heap) (e : Expr) (env : Env) : Heap :=
  ⟨h.cells.push (.thunk e h.scopes.snapshots.size), (h.scopes.snapshot env).2⟩

variable {e : Expr} {env : Env}

theorem defer_cells_of_some {content : Cell} (hk : h.cells[k]? = some content) :
    (h.defer e env).cells[k]? = some content := by
  obtain ⟨bound, _⟩ := Array.getElem?_eq_some_iff.mp hk
  rw [defer, Array.getElem?_push_lt bound, ← hk, Array.getElem?_eq_getElem bound]

theorem defer_cells_size (h : Heap) (e : Expr) (env : Env) :
    (h.defer e env).cells[h.cells.size]? = some (.thunk e h.scopes.snapshots.size) :=
  Array.getElem?_push_size

private theorem defer_snapshots_of_some {i : Nat} {env' : Env}
    (hi : h.scopes.snapshots[i]? = some env') :
    (h.defer e env).scopes.snapshots[i]? = some env' :=
  (Scopes.extends_snapshot env).snapshots i env' hi

theorem defer_snapshots_size :
    (h.defer e env).scopes.snapshots[h.scopes.snapshots.size]? = some env :=
  Array.getElem?_push_size

theorem defer_cells_cases {content : Cell}
    (hk : (h.defer e env).cells[k]? = some content) :
    h.cells[k]? = some content ∨
      k = h.cells.size ∧ content = .thunk e h.scopes.snapshots.size := by
  rw [defer, Array.getElem?_push] at hk
  split at hk
  · next new => exact .inr ⟨new, (Option.some.inj hk).symm⟩
  · exact .inl hk

theorem Sound.defer {frame : Frame} {frames : List Frame} (sound : Sound B h)
    (older : ∀ k ∈ frame.cells, k < h.cells.size) : Sound B (h.defer e (frame :: frames)) where
  nil := defer_cells_of_some sound.nil
  busy := by
    intro b hb
    obtain ⟨e', i, thunk⟩ := sound.busy b hb
    exact ⟨e', i, defer_cells_of_some thunk⟩
  distinct := sound.distinct
  snapshot := by
    intro k e' i hk
    rcases defer_cells_cases hk with old | ⟨rfl, new⟩
    · obtain ⟨frame', frames', taken, older'⟩ := sound.snapshot k e' i old
      exact ⟨frame', frames', defer_snapshots_of_some taken, older'⟩
    · obtain ⟨rfl, rfl⟩ := Cell.thunk.inj new
      exact ⟨frame, frames, defer_snapshots_size, fun _ => older⟩
  single := by
    intro k k' e₁ e₂ i hk hk'
    have fresh : ∀ {j : CellId} {e' : Expr},
        h.cells[j]? ≠ some (.thunk e' h.scopes.snapshots.size) := by
      intro j e' hj
      obtain ⟨frame', frames', taken, _⟩ := sound.snapshot j e' _ hj
      simp at taken
    rcases defer_cells_cases hk with old | ⟨rfl, new⟩
    · rcases defer_cells_cases hk' with old' | ⟨_, new'⟩
      · exact sound.single k k' e₁ e₂ i old old'
      · obtain ⟨rfl, rfl⟩ := Cell.thunk.inj new'
        exact absurd old fresh
    · obtain ⟨rfl, rfl⟩ := Cell.thunk.inj new
      rcases defer_cells_cases hk' with old' | ⟨same, _⟩
      · exact absurd old' fresh
      · exact same.symm
  idle := sound.idle
  focus := by
    intro b rest hB
    obtain ⟨e', i, hb, focus⟩ := sound.focus b rest hB
    exact ⟨e', i, defer_cells_of_some hb, focus⟩

theorem grows_defer : Grows B h (h.defer e env) :=
  ⟨fun _ _ hk => .inl (defer_cells_of_some hk), fun _ _ _ _ _ _ _ hi => defer_snapshots_of_some hi⟩

theorem Sound.clear_defer {frame : Frame} {frames : List Frame} (sound : Sound B h)
    (clear : ∀ k ∈ frame.cells, h.Clear B k) :
    (h.defer e (frame :: frames)).Clear B h.cells.size := by
  refine ⟨by simp [Heap.defer], fun k' reach => ?_⟩
  rcases Relation.ReflTransGen.cases_head reach with rfl | ⟨j, sees, reach⟩
  · intro busy
    obtain ⟨e', i, thunk⟩ := sound.busy _ busy
    simp at thunk
  · obtain ⟨e', i, frame', frames', thunk, taken, mem⟩ := sees
    rw [defer_cells_size] at thunk
    obtain ⟨rfl, rfl⟩ := Cell.thunk.inj (Option.some.inj thunk)
    rw [defer_snapshots_size] at taken
    obtain ⟨rfl, rfl⟩ := List.cons.inj (Option.some.inj taken)
    exact ((clear j mem).mono sound grows_defer).2 k' reach

end Defer

section Alloc

def alloc (h : Heap) (v : Value) : Heap :=
  ⟨h.cells.push (.value v), h.scopes⟩

variable {v : Value}

private theorem alloc_cells_of_some {content : Cell} (hk : h.cells[k]? = some content) :
    (h.alloc v).cells[k]? = some content := by
  obtain ⟨bound, _⟩ := Array.getElem?_eq_some_iff.mp hk
  rw [alloc, Array.getElem?_push_lt bound, ← hk, Array.getElem?_eq_getElem bound]

private theorem alloc_cells_size : (h.alloc v).cells[h.cells.size]? = some (.value v) :=
  Array.getElem?_push_size

theorem alloc_cells_of_thunk {e : Expr} {i : Nat}
    (hk : (h.alloc v).cells[k]? = some (.thunk e i)) : h.cells[k]? = some (.thunk e i) := by
  rw [alloc, Array.getElem?_push] at hk
  split at hk
  · simp at hk
  · exact hk

theorem Sound.alloc (sound : Sound B h) : Sound B (h.alloc v) where
  nil := alloc_cells_of_some sound.nil
  busy := by
    intro b hb
    obtain ⟨e, i, thunk⟩ := sound.busy b hb
    exact ⟨e, i, alloc_cells_of_some thunk⟩
  distinct := sound.distinct
  snapshot k e i hk := sound.snapshot k e i (alloc_cells_of_thunk hk)
  single k k' e e' i hk hk' :=
    sound.single k k' e e' i (alloc_cells_of_thunk hk) (alloc_cells_of_thunk hk')
  idle := sound.idle
  focus := by
    intro b rest hB
    obtain ⟨e, i, hb, focus⟩ := sound.focus b rest hB
    exact ⟨e, i, alloc_cells_of_some hb, focus⟩

theorem grows_alloc : Grows B h (h.alloc v) :=
  ⟨fun _ _ hk => .inl (alloc_cells_of_some hk), fun _ _ _ _ _ _ _ hi => hi⟩

theorem Sound.clear_alloc (sound : Sound B h) : (h.alloc v).Clear B h.cells.size := by
  refine ⟨by simp [Heap.alloc], fun k' reach => ?_⟩
  rcases Relation.ReflTransGen.cases_head reach with rfl | ⟨j, ⟨e, i, _, _, thunk, _⟩, _⟩
  · intro busy
    obtain ⟨e, i, thunk⟩ := sound.busy _ busy
    simp at thunk
  · simp [alloc_cells_size] at thunk

end Alloc

section Force

def refocus (h : Heap) (focus : Option Nat) : Heap :=
  ⟨h.cells, { h.scopes with focus := focus }⟩

variable {e : Expr} {i : Nat}

theorem Sound.enter (sound : Sound B h) (clear : h.Clear B k)
    (hk : h.cells[k]? = some (.thunk e i)) : Sound (k :: B) (h.refocus (some i)) where
  nil := sound.nil
  busy := by
    intro b hb
    rcases List.mem_cons.mp hb with rfl | outer
    · exact ⟨e, i, hk⟩
    · exact sound.busy b outer
  distinct := List.nodup_cons.mpr ⟨clear.not_mem, sound.distinct⟩
  snapshot := by
    intro j e' i' hj
    obtain ⟨frame, frames, taken, older⟩ := sound.snapshot j e' i' hj
    exact ⟨frame, frames, taken, fun idle => older fun outer => idle (List.mem_cons_of_mem _ outer)⟩
  single := sound.single
  idle none := by simp at none
  focus := by
    intro b rest hB
    obtain ⟨rfl, rfl⟩ := List.cons.inj hB
    exact ⟨e, i, hk, rfl⟩

theorem Sound.clear_enter (sound : Sound B h) (clear : h.Clear B k)
    (hk : h.cells[k]? = some (.thunk e i)) {frame : Frame} {frames : List Frame}
    (taken : h.scopes.snapshots[i]? = some (frame :: frames)) {j : CellId}
    (mem : j ∈ frame.cells) : (h.refocus (some i)).Clear (k :: B) j := by
  have sees : h.Sees k j := ⟨e, i, frame, frames, hk, taken, mem⟩
  have younger : j < k := sound.lt_of_sees clear.not_mem sees
  refine ⟨Nat.lt_trans younger clear.1, fun j' reach => ?_⟩
  have reach : Relation.ReflTransGen h.Sees j j' := reach
  obtain ⟨clear', _⟩ := clear.of_reaches sound (.single sees)
  have le : j' ≤ j := (clear'.of_reaches sound reach).2
  intro busy
  rcases List.mem_cons.mp busy with rfl | outer
  · exact absurd younger (Nat.not_lt.mpr le)
  · exact clear'.2 j' reach outer

/-- What holds when the evaluation of the deferred expression of a cell has come to an end. -/
structure Evaluated (B : List CellId) (k : CellId) (e : Expr) (i : Nat) (h h' : Heap) : Prop where
  before : Sound B h
  idle : k ∉ B
  thunk : h.cells[k]? = some (.thunk e i)
  after : Sound (k :: B) h'
  grows : Grows (k :: B) (h.refocus (some i)) h'
  scopes : (h.refocus (some i)).scopes.Extends h'.scopes

def settle (h : Heap) (k : CellId) (v : Value) : Heap :=
  ⟨h.cells.setIfInBounds k (.value v), h.scopes⟩

namespace Evaluated

variable (ended : Evaluated B k e i h h')

include ended

theorem thunk_after : h'.cells[k]? = some (.thunk e i) :=
  ended.grows.cells_of_busy List.mem_cons_self ended.thunk

theorem snapshots_after {j : Nat} {env : Env} (hj : h.scopes.snapshots[j]? = some env) :
    h'.scopes.snapshots[j]? = some env :=
  ended.scopes.snapshots j env hj

/-- Going back to the old focus: the cell keeps its expression. -/
theorem sound_refocus : Sound B (h'.refocus h.scopes.focus) where
  nil := ended.after.nil
  busy b hb := ended.after.busy b (List.mem_cons_of_mem _ hb)
  distinct := ended.before.distinct
  snapshot := by
    intro j e' i' hj
    obtain ⟨frame, frames, taken, older⟩ := ended.after.snapshot j e' i' hj
    rcases Decidable.em (j = k) with rfl | other
    · have same : h'.cells[j]? = some (.thunk e' i') := hj
      rw [ended.thunk_after] at same
      obtain ⟨rfl, rfl⟩ := Cell.thunk.inj (Option.some.inj same)
      obtain ⟨frame, frames, taken, older⟩ := ended.before.snapshot j e i ended.thunk
      exact ⟨frame, frames, ended.snapshots_after taken, older⟩
    · refine ⟨frame, frames, taken, fun idle => older fun busy => ?_⟩
      exact (List.mem_cons.mp busy).elim other idle
  single := ended.after.single
  idle := ended.before.idle
  focus := by
    intro b rest hB
    obtain ⟨e', i', hb, focus⟩ := ended.before.focus b rest hB
    have busy : b ∈ k :: B := by simp [hB]
    exact ⟨e', i', ended.grows.cells_of_busy busy hb, focus⟩

theorem grows_refocus : Grows B h (h'.refocus h.scopes.focus) := by
  constructor
  · intro j content hj
    rcases ended.grows.cells j content hj with same | ⟨idle, thunk, value⟩
    · exact .inl same
    · exact .inr ⟨fun busy => idle (List.mem_cons_of_mem _ busy), thunk, value⟩
  · intro j e' i' env idle hj hj' taken
    exact ended.snapshots_after taken

theorem extends_refocus : h.scopes.Extends (h'.refocus h.scopes.focus).scopes :=
  ⟨ended.scopes.home, rfl, ended.scopes.snapshots⟩

private theorem settle_cells (v : Value) (j : CellId) :
    (h'.settle k v).cells[j]? = if j = k then some (.value v) else h'.cells[j]? := by
  obtain ⟨bound, _⟩ := Array.getElem?_eq_some_iff.mp ended.thunk_after
  rw [settle]
  rcases Decidable.em (j = k) with rfl | other
  · rw [if_pos rfl]
    exact Array.getElem?_setIfInBounds_self_of_lt bound
  · rw [if_neg other]
    exact Array.getElem?_setIfInBounds_ne (Ne.symm other)

theorem settle_cells_self (v : Value) : (h'.settle k v).cells[k]? = some (.value v) := by
  rw [ended.settle_cells, if_pos rfl]

theorem settle_cells_of_ne (v : Value) {j : CellId} (other : j ≠ k) :
    (h'.settle k v).cells[j]? = h'.cells[j]? := by
  rw [ended.settle_cells, if_neg other]

theorem sound_settle (v : Value) : Sound B ((h'.refocus h.scopes.focus).settle k v) := by
  have sound := ended.sound_refocus
  have cells : ∀ j, ((h'.refocus h.scopes.focus).settle k v).cells[j]? =
      if j = k then some (.value v) else h'.cells[j]? := ended.settle_cells v
  have old : ∀ {j : CellId} {e' : Expr} {i' : Nat},
      ((h'.refocus h.scopes.focus).settle k v).cells[j]? = some (.thunk e' i') →
        h'.cells[j]? = some (.thunk e' i') := by
    intro j e' i' hj
    rw [cells] at hj
    split at hj
    · simp at hj
    · exact hj
  have kept : ∀ {j : CellId} {content : Cell}, j ≠ k → h'.cells[j]? = some content →
      ((h'.refocus h.scopes.focus).settle k v).cells[j]? = some content := by
    intro j content other hj
    rw [cells, if_neg other, hj]
  refine ⟨?_, ?_, sound.distinct, ?_, ?_, sound.idle, ?_⟩
  · refine kept ?_ sound.nil
    rintro rfl
    have thunk := ended.thunk_after
    simp [ended.after.nil] at thunk
  · intro b hb
    obtain ⟨e', i', thunk⟩ := sound.busy b hb
    exact ⟨e', i', kept (fun same => ended.idle (same ▸ hb)) thunk⟩
  · exact fun j e' i' hj => sound.snapshot j e' i' (old hj)
  · exact fun j j' e₁ e₂ i' hj hj' => sound.single j j' e₁ e₂ i' (old hj) (old hj')
  · intro b rest hB
    obtain ⟨e', i', hb, focus⟩ := sound.focus b rest hB
    exact ⟨e', i', kept (fun same => ended.idle (by simp [← same, hB])) hb, focus⟩

theorem grows_settle (v : Value) : Grows B h ((h'.refocus h.scopes.focus).settle k v) := by
  constructor
  · intro j content hj
    rcases Decidable.em (j = k) with rfl | other
    · rw [ended.thunk] at hj
      exact .inr ⟨ended.idle, ⟨e, i, (Option.some.inj hj).symm⟩, v, ended.settle_cells_self v⟩
    · have same := ended.settle_cells_of_ne v other
      exact (ended.grows_refocus.cells j content hj).imp (same.trans ·)
        (And.imp_right (And.imp_right (Exists.imp fun w => (same.trans ·))))
  · intro j e' i' env idle hj hj' taken
    exact ended.snapshots_after taken

end Evaluated

end Force

end Heap

end CallByNeed.Language
