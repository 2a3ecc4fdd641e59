import CallByNeed.Proofs.Scope.Plain

set_option autoImplicit false
set_option relaxedAutoImplicit false

/-!
Refused updates. A binding is made in the home environment and in the environment that names are
looked up in, and each of them alone would accept or refuse it as a plain stack does. Creating a
name asks both before it changes either. Setting a name changes the environment in use before it
asks the home environment, so a refusal by the latter comes too late.
-/

namespace CallByNeed.Language

namespace Env

def Open (env : Env) : Prop :=
  ∃ (block : Block) (blocks : Frame) (frames : List Frame), env = (block :: blocks) :: frames

/-- A plain stack in place of an environment accepts an update and becomes another one. -/
def Accepts (op : ScopeOp) (env env' : Env) : Prop :=
  Plain.perform op env.plain = some (.made true, env'.plain)

/-- A plain stack in place of an environment refuses an update. -/
def Refuses (op : ScopeOp) (env : Env) : Prop :=
  Plain.perform op env.plain = some (.made false, env.plain)

variable {name : String} {cell : CellId} {block : Block} {blocks : Frame} {frames : List Frame}

private theorem accepts_create (free : block.binds name = false) :
    Accepts (.create name cell) ((block :: blocks) :: frames)
      ((block.insert name cell :: blocks) :: frames) := by
  have created := Plain.perform_create name cell block blocks (Env.plain frames)
  rw [free] at created
  exact created

private theorem refuses_create (bound : block.binds name = true) :
    Refuses (.create name cell) ((block :: blocks) :: frames) := by
  have created := Plain.perform_create name cell block blocks (Env.plain frames)
  rw [bound] at created
  exact created

private theorem accepts_set {frame frame' : Frame} (h : frame.rebind? name cell = some frame') :
    Accepts (.set name cell) (frame :: frames) (frame' :: frames) :=
  Plain.perform_set_of_some h

private theorem refuses_set {frame : Frame} (h : frame.rebind? name cell = none) :
    Refuses (.set name cell) (frame :: frames) :=
  Plain.perform_set_of_none h

end Env

namespace Scopes

variable {s : Scopes} {name : String} {cell : CellId}

/-- Scopes with another environment in use and another home environment. Where these are one
environment, both have to be the same. -/
def replace (s : Scopes) (current home : Env) : Scopes :=
  { s.setCurrent current with home := home }

private theorem replace_current (focused : s.Focused) {current home : Env}
    (same : s.focus = none → current = home) : (s.replace current home).current = current := by
  cases focus : s.focus with
  | none =>
    have unfocused : (s.replace current home).focus = none := by
      rw [replace, setCurrent, focus]
    rw [Scopes.current, unfocused]
    exact (same focus).symm
  | some i =>
    have kept := focused.current_setCurrent current
    simp only [Scopes.current, setCurrent, focus] at kept
    simp only [replace, Scopes.current, setCurrent, focus]
    exact kept

private theorem current_eq_home (focus : s.focus = none) : s.current = s.home := by
  rw [Scopes.current, focus]

structure Makes (s : Scopes) (op : ScopeOp) (s' : Scopes) : Prop where
  home : s.home.Accepts op s'.home
  current : s.current.Accepts op s'.current

section Open

variable {block homeBlock : Block} {blocks homeBlocks : Frame} {frames homeFrames : List Frame}

private theorem create_of_open (name : String) (cell : CellId)
    (home : s.home = (homeBlock :: homeBlocks) :: homeFrames)
    (current : s.current = (block :: blocks) :: frames) :
    s.create name cell =
      if block.binds name || homeBlock.binds name then (.ok false, s)
      else (.ok true, s.replace ((block.insert name cell :: blocks) :: frames)
        ((homeBlock.insert name cell :: homeBlocks) :: homeFrames)) := by
  rw [create, current]
  cases focus : s.focus with
  | none =>
    rw [current_eq_home focus, home] at current
    cases current
    simp only [Option.isNone_none, if_true, Bool.or_self, replace, setCurrent, focus]
  | some i => simp only [Option.isNone_some, Bool.false_eq_true, if_false, home, replace]

variable {frame frame' homeFrame homeFrame' : Frame}

private theorem set_of_none (current : s.current = frame :: frames)
    (unbound : frame.rebind? name cell = none) : s.set name cell = (.ok false, s) := by
  rw [set, current]
  simp only [unbound]

private theorem set_of_some (home : s.home = homeFrame :: homeFrames)
    (current : s.current = frame :: frames) (bound : frame.rebind? name cell = some frame')
    (homeBound : homeFrame.rebind? name cell = some homeFrame') :
    s.set name cell = (.ok true, s.replace (frame' :: frames) (homeFrame' :: homeFrames)) := by
  rw [set, current]
  cases focus : s.focus with
  | none =>
    rw [current_eq_home focus, home] at current
    cases current
    cases bound.symm.trans homeBound
    simp only [bound, setCurrent, focus, Option.isNone_none, if_true, replace]
  | some i =>
    simp only [bound, setCurrent, focus, Option.isNone_some, Bool.false_eq_true, if_false, home,
      homeBound, replace]

private theorem set_of_home_none (home : s.home = homeFrame :: homeFrames)
    (current : s.current = frame :: frames) (bound : frame.rebind? name cell = some frame')
    (unbound : homeFrame.rebind? name cell = none) :
    s.set name cell = (.ok false, s.setCurrent (frame' :: frames)) ∧
      (s.setCurrent (frame' :: frames)).home = s.home := by
  cases focus : s.focus with
  | none =>
    rw [current_eq_home focus, home] at current
    cases current
    cases bound.symm.trans unbound
  | some i =>
    refine ⟨?_, setCurrent_home_of_focus focus _⟩
    rw [set, current]
    simp only [bound, setCurrent, focus, Option.isNone_some, Bool.false_eq_true, if_false, home,
      unbound]

end Open

/-- A name is created in both environments or, if one of them refuses, in none. -/
theorem create_made_or_refused (home : s.home.Open) (current : s.current.Open) (name : String)
    (cell : CellId) :
    (∃ s', s.create name cell = (.ok true, s') ∧ s.Makes (.create name cell) s') ∨
      (s.create name cell = (.ok false, s) ∧
        (s.home.Refuses (.create name cell) ∨ s.current.Refuses (.create name cell))) := by
  obtain ⟨homeBlock, homeBlocks, homeFrames, home⟩ := home
  obtain ⟨block, blocks, frames, current⟩ := current
  have focused : s.Focused := focused_of_current current
  have created := create_of_open name cell home current
  by_cases bound : block.binds name = true
  · right
    rw [bound, Bool.true_or, if_pos rfl] at created
    exact ⟨created, .inr (current ▸ Env.refuses_create bound)⟩
  · by_cases homeBound : homeBlock.binds name = true
    · right
      rw [homeBound, Bool.or_true, if_pos rfl] at created
      exact ⟨created, .inl (home ▸ Env.refuses_create homeBound)⟩
    · left
      rw [Bool.not_eq_true] at bound homeBound
      rw [bound, homeBound] at created
      refine ⟨_, created, ?_, ?_⟩
      · rw [home]
        exact Env.accepts_create homeBound
      · rw [replace_current focused fun focus => ?_, current]
        · exact Env.accepts_create bound
        · rw [current_eq_home focus, home] at current
          cases current
          rfl

/-- A name is set in both environments, or in none if the environment in use refuses, or in that one
alone. -/
theorem set_made_or_refused (home : s.home.Open) (current : s.current.Open) (name : String)
    (cell : CellId) :
    (∃ s', s.set name cell = (.ok true, s') ∧ s.Makes (.set name cell) s') ∨
      (s.set name cell = (.ok false, s) ∧ s.current.Refuses (.set name cell) ∧
        s.get? name = .ok none) ∨
      ∃ (s' : Scopes) (old : CellId), s.set name cell = (.ok false, s') ∧ s'.home = s.home ∧
        s.home.Refuses (.set name cell) ∧ s.current.Accepts (.set name cell) s'.current ∧
        s.get? name = .ok (some old) ∧ (s' = s ↔ old = cell) := by
  obtain ⟨homeBlock, homeBlocks, homeFrames, home⟩ := home
  obtain ⟨block, blocks, frames, current⟩ := current
  have focused : s.Focused := focused_of_current current
  have looked : s.get? name = .ok (Frame.find? (block :: blocks) name) := by rw [get?, current]
  cases bound : Frame.rebind? name cell (block :: blocks) with
  | none =>
    rw [Frame.rebind?_eq_none_iff.mp bound] at looked
    exact .inr (.inl ⟨set_of_none current bound, current ▸ Env.refuses_set bound, looked⟩)
  | some frame =>
    have accepted : s.current.Accepts (.set name cell) (frame :: frames) :=
      current ▸ Env.accepts_set bound
    cases homeBound : Frame.rebind? name cell (homeBlock :: homeBlocks) with
    | some homeFrame =>
      left
      refine ⟨_, set_of_some home current bound homeBound, home ▸ Env.accepts_set homeBound, ?_⟩
      rw [replace_current focused fun focus => ?_]
      · exact accepted
      · rw [current_eq_home focus, home] at current
        cases current
        cases bound.symm.trans homeBound
        rfl
    | none =>
      obtain ⟨assigned, kept⟩ := set_of_home_none home current bound homeBound
      cases found : Frame.find? (block :: blocks) name with
      | none =>
        rw [Frame.rebind?_eq_none_iff.mpr found] at bound
        cases bound
      | some old =>
        rw [found] at looked
        have refused : s.home.Refuses (.set name cell) := home ▸ Env.refuses_set homeBound
        refine .inr (.inr ⟨_, old, assigned, kept, refused, ?_, looked, ?_⟩)
        · rw [focused.current_setCurrent]
          exact accepted
        · rw [focused.setCurrent_eq_self_iff, current, ← Frame.rebind?_eq_self_iff found bound]
          simp

end Scopes

/-- An update of scopes in which both environments have a block to bind names in. If it is made, it
is made in both, as a plain stack makes it. If it is refused, one of them refuses it, and the home
environment is as before. So is the environment in use, unless the update is an assignment to a name
that is bound to another cell there: then the binding has been made in this environment alone. -/
theorem scope_update_made_or_refused {s : Scopes} (home : s.home.Open) (current : s.current.Open)
    (name : String) (cell : CellId) {op : ScopeOp}
    (update : op = .create name cell ∨ op = .set name cell) :
    ∃ (accepted : Bool) (s' : Scopes), s.perform op = (.ok (.made accepted), s') ∧
      (accepted = true → s.Makes op s') ∧
      (accepted = false → s'.home = s.home ∧ (s.home.Refuses op ∨ s.current.Refuses op) ∧
        (s' = s ↔ ¬ ∃ old, op = .set name cell ∧ s.get? name = .ok (some old) ∧ old ≠ cell) ∧
        (s' ≠ s → s.current.Accepts op s'.current)) := by
  rcases update with rfl | rfl
  · rw [Scopes.perform]
    rcases Scopes.create_made_or_refused home current name cell with
      ⟨s', created, makes⟩ | ⟨created, refuses⟩
    · rw [created]
      exact ⟨true, s', rfl, fun _ => makes, fun h => absurd h (by decide)⟩
    · rw [created]
      refine ⟨false, s, rfl, fun h => absurd h (by decide), fun _ => ⟨rfl, refuses, ?_, ?_⟩⟩
      · simp
      · exact fun changed => absurd rfl changed
  · rw [Scopes.perform]
    rcases Scopes.set_made_or_refused home current name cell with
      ⟨s', assigned, makes⟩ | ⟨assigned, refuses, unbound⟩ |
      ⟨s', old, assigned, kept, refuses, accepts, bound, same⟩
    · rw [assigned]
      exact ⟨true, s', rfl, fun _ => makes, fun h => absurd h (by decide)⟩
    · rw [assigned]
      refine ⟨false, s, rfl, fun h => absurd h (by decide), fun _ => ⟨rfl, .inr refuses, ?_, ?_⟩⟩
      · simp [unbound]
      · exact fun changed => absurd rfl changed
    · rw [assigned]
      refine ⟨false, s', rfl, fun h => absurd h (by decide),
        fun _ => ⟨kept, .inl refuses, ?_, fun _ => accepts⟩⟩
      rw [same]
      simp [bound]

/-- Scopes with a snapshot in use that binds a name which the home environment does not bind. -/
def parted : Scopes where
  home := [[[]]]
  snapshots := #[[[[("x", 0)]]]]
  focus := some 0

theorem scope_update_made_or_refused_parted :
    parted.home.Open ∧ parted.current.Open ∧
    (∃ s', parted.perform (.create "y" 1) = (.ok (.made true), s') ∧
      parted.Makes (.create "y" 1) s') ∧
    parted.perform (.create "x" 1) = (.ok (.made false), parted) := by
  have home : parted.home.Open := ⟨[], [], [], rfl⟩
  have current : parted.current.Open := ⟨[("x", 0)], [], [], rfl⟩
  refine ⟨home, current, ?_, ?_⟩
  · obtain ⟨accepted, s', performed, makes, _⟩ :=
      scope_update_made_or_refused home current "y" 1 (.inl rfl)
    have made : (parted.perform (.create "y" 1)).1 = .ok (.made true) := rfl
    rw [performed] at made
    cases made
    exact ⟨s', performed, makes rfl⟩
  · obtain ⟨accepted, s', performed, _, refused⟩ :=
      scope_update_made_or_refused home current "x" 1 (.inl rfl)
    have made : (parted.perform (.create "x" 1)).1 = .ok (.made false) := rfl
    rw [performed] at made
    cases made
    obtain ⟨_, _, unchanged, _⟩ := refused rfl
    rw [performed, unchanged.mpr (by simp)]

theorem refused_assignment_changes_snapshot :
    parted.home.Open ∧ parted.current.Open ∧
    (parted.set "x" 1).1 = .ok false ∧ (parted.set "x" 1).2.current ≠ parted.current := by
  refine ⟨⟨[], [], [], rfl⟩, ⟨[("x", 0)], [], [], rfl⟩, rfl, ?_⟩
  decide

end CallByNeed.Language
