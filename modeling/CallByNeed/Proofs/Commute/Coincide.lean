import CallByNeed.Proofs.ByName.Closure
import Mathlib.Logic.Equiv.Basic

set_option autoImplicit false
set_option relaxedAutoImplicit false

/-!
Coincidence. The value of a deferred expression depends on its snapshot only through the cells of
the names that the expression mentions. Two heaps coincide along a renaming of cells if a cell of
the one holds the same value as its image in the other, or the same deferred expression with a
snapshot that agrees on these names. The other names of a snapshot, the frames below the one on top,
and the snapshots of expressions that are being evaluated may differ in any way.
-/

namespace CallByNeed.Language

mutual

/-- A variable of that name occurs in an expression. -/
def Expr.mentions (name : String) : Expr → Bool
  | .var other => other = name
  | .call _ args => Expr.mentionsAny name args
  | .unary _ operand => operand.mentions name
  | .binary _ left right => left.mentions name || right.mentions name
  | .int _ | .bool _ | .str _ | .nil | .new _ => false

def Expr.mentionsAny (name : String) : List Expr → Bool
  | [] => false
  | e :: es => e.mentions name || Expr.mentionsAny name es

end

abbrev Renaming := Equiv.Perm CellId

/-- Two frames name the same cells, up to a renaming, as far as certain names go. -/
def Frame.Agrees (W : Renaming) (N : String → Bool) (frame frame' : Frame) : Prop :=
  ∀ name, N name = true → frame'.find? name = (frame.find? name).map W

section Agrees

variable {W W' : Renaming} {N : String → Bool} {frame frame' : Frame}

theorem Frame.Agrees.head {e : Expr} {es : List Expr}
    (h : frame.Agrees W (fun name => Expr.mentionsAny name (e :: es)) frame') :
    frame.Agrees W (fun name => e.mentions name) frame' :=
  fun name mentioned => h name (by simp only [Expr.mentionsAny, mentioned, Bool.true_or])

theorem Frame.Agrees.tail {e : Expr} {es : List Expr}
    (h : frame.Agrees W (fun name => Expr.mentionsAny name (e :: es)) frame') :
    frame.Agrees W (fun name => Expr.mentionsAny name es) frame' :=
  fun name mentioned => h name (by simp only [Expr.mentionsAny, mentioned, Bool.or_true])

theorem Frame.Agrees.left {op : BinaryOp} {left right : Expr}
    (h : frame.Agrees W (fun name => (Expr.binary op left right).mentions name) frame') :
    frame.Agrees W (fun name => left.mentions name) frame' :=
  fun name mentioned => h name (by simp only [Expr.mentions, mentioned, Bool.true_or])

theorem Frame.Agrees.right {op : BinaryOp} {left right : Expr}
    (h : frame.Agrees W (fun name => (Expr.binary op left right).mentions name) frame') :
    frame.Agrees W (fun name => right.mentions name) frame' :=
  fun name mentioned => h name (by simp only [Expr.mentions, mentioned, Bool.or_true])

theorem Frame.agrees_mapCells (W : Renaming) (N : String → Bool) (frame : Frame) :
    frame.Agrees W N (frame.mapCells W) :=
  fun name _ => frame.find?_mapCells W name

/-- A renaming that goes on in the same way makes no difference to a frame of old cells. -/
theorem Frame.Agrees.later {n : Nat} (h : frame.Agrees W N frame')
    (older : ∀ k ∈ frame.cells, k < n) (same : ∀ k < n, W' k = W k) :
    frame.Agrees W' N frame' := by
  intro name mentioned
  rw [h name mentioned]
  cases found : frame.find? name with
  | none => rfl
  | some k =>
    have old := older k (Frame.mem_cells_of_find? found)
    simp only [Option.map_some, same k old]

end Agrees

/-- The same value, or the same deferred expression. -/
inductive Cell.Like : Cell → Cell → Prop where
  | value (v : Value) : Like (.value v) (.value v)
  | thunk (e : Expr) (i i' : Nat) : Like (.thunk e i) (.thunk e i')

namespace Heap

variable {W W' : Renaming} {B B' : List CellId} {h h' h₁ h₁' : Heap} {k : CellId}

/-- Two heaps coincide along a renaming, with the cells of `B` and `B'` being evaluated. -/
structure Coincide (W : Renaming) (B B' : List CellId) (h h' : Heap) : Prop where
  size : h'.cells.size = h.cells.size
  fixed : ∀ k, h.cells.size ≤ k → W k = k
  nil : W nilCell = nilCell
  busy : B' = B.map W
  cells : ∀ (k : CellId) (content : Cell), h.cells[k]? = some content →
    ∃ content', h'.cells[W k]? = some content' ∧ content.Like content'
  seen : ∀ (k : CellId) (e : Expr) (i i' : Nat) (env env' : Env), k ∉ B →
    h.cells[k]? = some (.thunk e i) → h'.cells[W k]? = some (.thunk e i') →
    h.scopes.snapshots[i]? = some env → h'.scopes.snapshots[i']? = some env' →
    (Env.top env).Agrees W (fun name => e.mentions name) (Env.top env')

namespace Coincide

theorem mem_busy (co : Coincide W B B' h h') : W k ∈ B' ↔ k ∈ B := by
  rw [co.busy, List.mem_map]
  constructor
  · rintro ⟨b, mem, equal⟩
    exact W.injective equal ▸ mem
  · exact fun mem => ⟨k, mem, rfl⟩

theorem value (co : Coincide W B B' h h') {v : Value} (hk : h.cells[k]? = some (.value v)) :
    h'.cells[W k]? = some (.value v) := by
  obtain ⟨content', hk', like⟩ := co.cells k _ hk
  cases like
  exact hk'

theorem thunk (co : Coincide W B B' h h') {e : Expr} {i : Nat}
    (hk : h.cells[k]? = some (.thunk e i)) : ∃ i', h'.cells[W k]? = some (.thunk e i') := by
  obtain ⟨content', hk', like⟩ := co.cells k _ hk
  cases like with
  | thunk _ _ i' => exact ⟨i', hk'⟩

/-- Later heaps coincide if their cells do and new deferred expressions see the same. -/
theorem grow (co : Coincide W B B' h h') (sound : Sound B h) (sound' : Sound B' h')
    (grows : Grows B h h₁) (grows' : Grows B' h' h₁') (same : ∀ k < h.cells.size, W' k = W k)
    (size : h₁'.cells.size = h₁.cells.size) (fixed : ∀ k, h₁.cells.size ≤ k → W' k = k)
    (cells : ∀ (k : CellId) (content : Cell), h₁.cells[k]? = some content →
      ∃ content', h₁'.cells[W' k]? = some content' ∧ content.Like content')
    (new : ∀ (k : CellId) (e : Expr) (i i' : Nat) (env env' : Env), k ∉ B → h.cells.size ≤ k →
      h₁.cells[k]? = some (.thunk e i) → h₁'.cells[W' k]? = some (.thunk e i') →
      h₁.scopes.snapshots[i]? = some env → h₁'.scopes.snapshots[i']? = some env' →
      (Env.top env).Agrees W' (fun name => e.mentions name) (Env.top env')) :
    Coincide W' B B' h₁ h₁' where
  size := size
  fixed := fixed
  nil := (same nilCell (Array.getElem?_eq_some_iff.mp sound.nil).1).trans co.nil
  busy := by
    rw [co.busy]
    refine List.map_congr_left fun b mem => ?_
    obtain ⟨e, i, hb⟩ := sound.busy b mem
    exact (same b (Array.getElem?_eq_some_iff.mp hb).1).symm
  cells := cells
  seen := by
    intro k e i i' env env' idle hk hk' hi hi'
    by_cases old : k < h.cells.size
    · have thunk : h.cells[k]? = some (.thunk e i) := by
        have before := Array.getElem?_eq_getElem old
        rcases grows.cells k _ before with kept | ⟨_, _, v, settled⟩
        · rw [before, ← kept, hk]
        · simp [hk] at settled
      obtain ⟨j, thunk'⟩ := co.thunk thunk
      have idle' : W k ∉ B' := fun busy => idle (co.mem_busy.mp busy)
      rw [same k old] at hk'
      obtain rfl : j = i' := by
        rcases grows'.cells (W k) _ thunk' with kept | ⟨_, _, v, settled⟩
        · rw [hk'] at kept
          exact (Cell.thunk.inj (Option.some.inj kept)).2.symm
        · simp [hk'] at settled
      obtain ⟨frame, frames, taken, older⟩ := sound.snapshot k e i thunk
      obtain ⟨frame', frames', taken', _⟩ := sound'.snapshot (W k) e j thunk'
      have kept := grows.snapshots k e i _ idle thunk hk taken
      have kept' := grows'.snapshots (W k) e j _ idle' thunk' hk' taken'
      rw [hi] at kept
      rw [hi'] at kept'
      cases kept
      cases kept'
      refine (co.seen k e i j _ _ idle thunk thunk' taken taken').later (fun l mem => ?_) same
      exact Nat.lt_trans (older idle l mem) old
    · exact new k e i i' env env' idle (Nat.le_of_not_lt old) hk hk' hi hi'

theorem rescope (co : Coincide W B B' h h') (sound : Sound B h) (sound' : Sound B' h')
    {u u' : Scopes} (grows : Grows B h ⟨h.cells, u⟩) (grows' : Grows B' h' ⟨h'.cells, u'⟩) :
    Coincide W B B' ⟨h.cells, u⟩ ⟨h'.cells, u'⟩ := by
  refine co.grow sound sound' grows grows' (fun _ _ => rfl) co.size co.fixed co.cells ?_
  intro k e i i' env env' _ new hk
  exact absurd (Array.getElem?_eq_some_iff.mp hk).1 (Nat.not_lt.mpr new)

theorem cells_push (co : Coincide W B B' h h') {added added' : Cell}
    (like : added.Like added') (k : CellId) (content : Cell)
    (hk : (h.cells.push added)[k]? = some content) :
    ∃ content', (h'.cells.push added')[W k]? = some content' ∧ content.Like content' := by
  rw [Array.getElem?_push] at hk
  split at hk
  · next new =>
    cases hk
    refine ⟨added', ?_, like⟩
    rw [co.fixed k (Nat.le_of_eq new.symm), new, ← co.size]
    exact Array.getElem?_push_size
  · obtain ⟨content', hk', like'⟩ := co.cells k content hk
    refine ⟨content', ?_, like'⟩
    obtain ⟨bound, held⟩ := Array.getElem?_eq_some_iff.mp hk'
    rw [Array.getElem?_push_lt bound, held]

theorem alloc (co : Coincide W B B' h h') (sound : Sound B h) (sound' : Sound B' h') (v : Value) :
    Coincide W B B' (h.alloc v) (h'.alloc v) := by
  refine co.grow sound sound' grows_alloc grows_alloc (fun _ _ => rfl) ?_ ?_
    (co.cells_push (.value v)) ?_
  · simp [Heap.alloc, co.size]
  · intro k new
    simp only [Heap.alloc, Array.size_push] at new
    exact co.fixed k (Nat.le_of_succ_le new)
  · intro k e i i' env env' _ new hk
    have old := alloc_cells_of_thunk hk
    exact absurd (Array.getElem?_eq_some_iff.mp old).1 (Nat.not_lt.mpr new)

theorem defer (co : Coincide W B B' h h') (sound : Sound B h) (sound' : Sound B' h') (e : Expr)
    {env env' : Env}
    (agrees : (Env.top env).Agrees W (fun name => e.mentions name) (Env.top env')) :
    Coincide W B B' (h.defer e env) (h'.defer e env') := by
  refine co.grow sound sound' grows_defer grows_defer (fun _ _ => rfl) ?_ ?_
    (co.cells_push (.thunk e _ _)) ?_
  · simp [Heap.defer, co.size]
  · intro k new
    simp only [Heap.defer, Array.size_push] at new
    exact co.fixed k (Nat.le_of_succ_le new)
  · intro k e₁ i i' env₁ env₁' _ new hk hk' hi hi'
    rcases defer_cells_cases hk with old | ⟨rfl, added⟩
    · exact absurd (Array.getElem?_eq_some_iff.mp old).1 (Nat.not_lt.mpr new)
    · obtain ⟨rfl, rfl⟩ := Cell.thunk.inj added
      rw [co.fixed _ (Nat.le_refl _), ← co.size, defer_cells_size] at hk'
      obtain ⟨_, rfl⟩ := Cell.thunk.inj (Option.some.inj hk')
      rw [defer_snapshots_size] at hi hi'
      cases hi
      cases hi'
      exact agrees

theorem deferAll (args : List Expr) (co : Coincide W B B' h h') (sound : Sound B h)
    (sound' : Sound B' h') (looking : args ≠ [] → Looking B h)
    (looking' : args ≠ [] → Looking B' h')
    (agrees : h.scopes.top.Agrees W (fun name => Expr.mentionsAny name args) h'.scopes.top) :
    Coincide W B B' (h.deferAll args) (h'.deferAll args) := by
  induction args generalizing h h' with
  | nil => exact co
  | cons arg args ih =>
    obtain ⟨sound₁, keeps₁, _⟩ := sound.keeps_deferAll [arg] fun _ => looking (by simp)
    obtain ⟨sound₁', keeps₁', _⟩ := sound'.keeps_deferAll [arg] fun _ => looking' (by simp)
    have looking₁ := (looking (by simp)).keeps sound₁ keeps₁
    have looking₁' := (looking' (by simp)).keeps sound₁' keeps₁'
    refine ih (co.defer sound sound' arg agrees.head) sound₁ sound₁' (fun _ => looking₁)
      (fun _ => looking₁') ?_
    have top : (h.defer arg h.scopes.current).scopes.top = h.scopes.top :=
      congrArg Env.top (keeps₁.scopes.current sound.focused)
    have top' : (h'.defer arg h'.scopes.current).scopes.top = h'.scopes.top :=
      congrArg Env.top (keeps₁'.scopes.current sound'.focused)
    rw [top, top']
    exact agrees.tail

theorem enter (co : Coincide W B B' h h') (i i' : Nat) :
    Coincide W (k :: B) (W k :: B') (h.refocus (some i)) (h'.refocus (some i')) where
  size := co.size
  fixed := co.fixed
  nil := co.nil
  busy := by rw [co.busy, List.map_cons]
  cells := co.cells
  seen := by
    intro j e i i' env env' idle
    exact co.seen j e i i' env env' fun busy => idle (List.mem_cons_of_mem _ busy)

section Leave

variable {e : Expr} {i i' : Nat} (ended : Evaluated B k e i h h₁)
  (ended' : Evaluated B' (W k) e i' h' h₁') (co : Coincide W B B' h h')
  (co₁ : Coincide W' (k :: B) (W k :: B') h₁ h₁') (same : ∀ j < h.cells.size, W' j = W j)

include ended ended' co co₁ same

theorem leave :
    Coincide W' B B' (h₁.refocus h.scopes.focus) (h₁'.refocus h'.scopes.focus) := by
  refine co.grow ended.before ended'.before ended.grows_refocus ended'.grows_refocus same
    co₁.size co₁.fixed co₁.cells ?_
  intro j e' l l' env env' idle new
  refine co₁.seen j e' l l' env env' fun busy => ?_
  rcases List.mem_cons.mp busy with rfl | outer
  · exact absurd (Array.getElem?_eq_some_iff.mp ended.thunk).1 (Nat.not_lt.mpr new)
  · exact idle outer

theorem settle (v : Value) :
    Coincide W' B B' ((h₁.refocus h.scopes.focus).settle k v)
      ((h₁'.refocus h'.scopes.focus).settle (W k) v) := by
  have bound : k < h.cells.size := (Array.getElem?_eq_some_iff.mp ended.thunk).1
  have moved := same k bound
  have cells := ended.settle_cells_self v
  have cells' := ended'.settle_cells_self v
  refine co.grow ended.before ended'.before (ended.grows_settle v) (ended'.grows_settle v) same
    ?_ ?_ ?_ ?_
  · simp [Heap.settle, Heap.refocus, co₁.size]
  · intro j new
    simp only [Heap.settle, Heap.refocus, Array.size_setIfInBounds] at new
    exact co₁.fixed j new
  · intro j content hj
    rcases Decidable.em (j = k) with rfl | other
    · obtain rfl := Option.some.inj (cells.symm.trans hj)
      exact ⟨_, moved ▸ cells', .value v⟩
    · have hj : h₁.cells[j]? = some content := (ended.settle_cells_of_ne v other).symm.trans hj
      obtain ⟨content', hj', like⟩ := co₁.cells j content hj
      refine ⟨content', ?_, like⟩
      have other' : W' j ≠ W k := fun equal => other (W'.injective (equal.trans moved.symm))
      exact (ended'.settle_cells_of_ne v other').trans hj'
  · intro j e' l l' env env' idle new hj hj'
    have other : j ≠ k := by
      rintro rfl
      exact absurd bound (Nat.not_lt.mpr new)
    have other' : W' j ≠ W k := fun equal => other (W'.injective (equal.trans moved.symm))
    have hj : h₁.cells[j]? = some (.thunk e' l) := (ended.settle_cells_of_ne v other).symm.trans hj
    have hj' : h₁'.cells[W' j]? = some (.thunk e' l') :=
      (ended'.settle_cells_of_ne v other').symm.trans hj'
    refine co₁.seen j e' l l' env env' (fun busy => ?_) hj hj'
    exact (List.mem_cons.mp busy).elim other idle

end Leave

end Coincide

end Heap

end CallByNeed.Language
