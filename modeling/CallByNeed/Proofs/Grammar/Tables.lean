import CallByNeed.Grammar.Tables
import CallByNeed.Proofs.Grammar.States

set_option autoImplicit false
set_option relaxedAutoImplicit false

/-!
The tables that are built from states. Conflicts are settled one way or the other, but no entry
comes from nowhere: a shift and a goto are moves of the state, a reduction and the end of the parse
have an item that is read to its end.
-/

namespace CallByNeed.Grammar

section Rows

variable {plan : Plan} {state : Nat} {t : Tables}

inductive Justified (rules : Rules) (s : States) (state : Nat) (symbol : String) :
    LR.Action → Prop
  | shift {item : Item} {target : Nat} (mem : item ∈ s.items state)
      (next : item.next? rules = some symbol) (move : s.move? state symbol = some target) :
    Justified rules s state symbol (.shift target)
  | reduce {item : Item} (mem : item ∈ s.items state) (done : item.next? rules = none)
      (proper : item.rule ≠ 0) :
    Justified rules s state symbol (.reduce (item.production rules).number)
  | accept {item : Item} (mem : item ∈ s.items state) (done : item.next? rules = none)
      (start : item.rule = 0) (final : symbol = endMark) :
    Justified rules s state symbol .accept

/-- The actions of a row have reasons, and the rows before it are those of the given tables. -/
structure Granted (plan : Plan) (state : Nat) (t : Tables) (r : RowState) : Prop where
  reason : ∀ symbol action, r.actions.get? symbol = some (some action) →
    Justified plan.rules plan.states state symbol action
  actions : r.tables.actions = t.actions
  gotos : r.tables.gotos = t.gotos

private theorem Granted.keep {r r' : RowState} (granted : Granted plan state t r)
    (row : r'.actions = r.actions) (actions : r'.tables.actions = r.tables.actions)
    (gotos : r'.tables.gotos = r.tables.gotos) : Granted plan state t r' :=
  ⟨row ▸ granted.reason, actions.trans granted.actions, gotos.trans granted.gotos⟩

private theorem Granted.set {r r' : RowState} (granted : Granted plan state t r) {symbol : String}
    {action : Option LR.Action} (row : r'.actions = r.actions.insert symbol action)
    (actions : r'.tables.actions = r.tables.actions) (gotos : r'.tables.gotos = r.tables.gotos)
    (justified : ∀ a, action = some a → Justified plan.rules plan.states state symbol a) :
    Granted plan state t r' := by
  refine ⟨fun other a h => ?_, actions.trans granted.actions, gotos.trans granted.gotos⟩
  rw [row, OrderedMap.get?_insert] at h
  split at h
  · next same =>
    subst same
    exact justified a (Option.some.inj h)
  · exact granted.reason other a h

private theorem Granted.reduceAt {r r' : RowState} (granted : Granted plan state t r) {item : Item}
    {symbol : String} (h : plan.reduceAt state item r symbol = .ok r')
    (mem : item ∈ plan.states.items state) (done : item.next? plan.rules = none)
    (proper : item.rule ≠ 0) : Granted plan state t r' := by
  have reduces (a : LR.Action) (ha : some (.reduce (plan.rule item.rule).number) = some a) :
      Justified plan.rules plan.states state symbol a :=
    Option.some.inj ha ▸ .reduce mem done proper
  unfold Plan.reduceAt at h
  dsimp only at h
  split at h
  · obtain rfl := Except.ok.inj h
    exact granted.set rfl rfl rfl reduces
  · split at h
    · obtain rfl := Except.ok.inj h
      split
      · exact granted.set rfl rfl rfl reduces
      · exact granted.set rfl rfl rfl reduces
    · split at h
      · obtain rfl := Except.ok.inj h
        exact granted.set rfl rfl rfl fun a ha => (by cases ha)
      · split at h
        · obtain rfl := Except.ok.inj h
          exact granted.keep rfl rfl rfl
        · obtain rfl := Except.ok.inj h
          exact granted.keep rfl rfl rfl
  · split at h
    · obtain rfl := Except.ok.inj h
      exact granted.set rfl rfl rfl reduces
    · obtain rfl := Except.ok.inj h
      exact granted.keep rfl rfl rfl
  · cases h

private theorem Granted.shiftAt {r r' : RowState} (granted : Granted plan state t r) {item : Item}
    {symbol : String} (h : plan.shiftAt state item r symbol = .ok r')
    (mem : item ∈ plan.states.items state) (next : item.next? plan.rules = some symbol) :
    Granted plan state t r' := by
  unfold Plan.shiftAt at h
  split at h
  · obtain rfl := Except.ok.inj h
    exact granted
  · next target move =>
    have shifts (a : LR.Action) (ha : some (.shift target) = some a) :
        Justified plan.rules plan.states state symbol a :=
      Option.some.inj ha ▸ .shift mem next move
    dsimp only at h
    split at h
    · obtain rfl := Except.ok.inj h
      exact granted.set rfl rfl rfl shifts
    · obtain rfl := Except.ok.inj h
      exact granted.keep rfl rfl rfl
    · split at h
      · obtain rfl := Except.ok.inj h
        split
        · exact granted.set rfl rfl rfl shifts
        · exact granted.set rfl rfl rfl shifts
      · split at h
        · obtain rfl := Except.ok.inj h
          exact granted.set rfl rfl rfl fun a ha => (by cases ha)
        · split at h
          · obtain rfl := Except.ok.inj h
            exact granted.keep rfl rfl rfl
          · obtain rfl := Except.ok.inj h
            exact granted.keep rfl rfl rfl
    · cases h

private theorem exists_of_bind_eq_ok {α β ε : Type} {x : Except ε α} {f : α → Except ε β} {b : β}
    (h : x >>= f = .ok b) : ∃ a, x = .ok a ∧ f a = .ok b := by
  cases x with
  | error e => cases h
  | ok a => exact ⟨a, rfl, h⟩

private theorem foldlM_preserves {α β ε : Type} {P : β → Prop} {f : β → α → Except ε β}
    {list : List α} (step : ∀ b b', ∀ a ∈ list, P b → f b a = .ok b' → P b') {b b' : β} (start : P b)
    (h : list.foldlM f b = .ok b') : P b' := by
  induction list generalizing b with
  | nil =>
    cases h
    exact start
  | cons a list ih =>
    rw [List.foldlM_cons] at h
    obtain ⟨next, hnext, h⟩ := exists_of_bind_eq_ok h
    exact ih (fun b b' x mem => step b b' x (List.mem_cons_of_mem a mem))
      (step b next a List.mem_cons_self start hnext) h

private theorem Granted.enter {r r' : RowState} (granted : Granted plan state t r) {item : Item}
    (mem : item ∈ plan.states.items state) (h : plan.enter state r item = .ok r') :
    Granted plan state t r' := by
  unfold Plan.enter at h
  split at h
  · next done =>
    split at h
    · next start =>
      obtain rfl := Except.ok.inj h
      exact granted.set rfl rfl rfl fun a ha => Option.some.inj ha ▸ .accept mem done start rfl
    · next proper =>
      split at h
      · cases h
      · exact foldlM_preserves (fun b b' symbol _ granted h => granted.reduceAt h mem done proper)
          granted h
  · next next =>
    split at h
    · exact granted.shiftAt h mem next
    · obtain rfl := Except.ok.inj h
      exact granted

private theorem move_of_gotoRow {symbol : String} {target : Nat}
    (h : (plan.gotoRow state).get? symbol = some target) :
    plan.states.move? state symbol = some target := by
  obtain ⟨before, after, hentries, -⟩ := List.lookup_eq_some_iff.1 h
  have mem : (symbol, target) ∈ (plan.gotoRow state).entries := by
    rw [hentries]
    simp
  obtain ⟨name, -, hname⟩ := List.mem_filterMap.1 mem
  obtain ⟨j, hj, pair⟩ := Option.map_eq_some_iff.1 hname
  cases pair
  exact hj

end Rows

section Build

variable {plan : Plan}

/-- Every entry of the tables has a reason in the states. -/
structure Tables.Grounded (rules : Rules) (s : States) (t : Tables) : Prop where
  action : ∀ {i : Nat} {row : ActionRow} {symbol : String} {a : LR.Action},
    t.actions[i]? = some row → row.get? symbol = some (some a) → Justified rules s i symbol a
  goto : ∀ {i : Nat} {row : OrderedMap Nat} {symbol : String} {j : Nat},
    t.gotos[i]? = some row → row.get? symbol = some j → s.move? i symbol = some j

structure Entered (plan : Plan) (count : Nat) (t : Tables) : Prop where
  grounded : t.Grounded plan.rules plan.states
  actions : t.actions.size = count
  gotos : t.gotos.size = count

private theorem Entered.addState {r r' : RowState} {state : Nat}
    (entered : Entered plan state r.tables) (h : plan.addState r state = .ok r') :
    Entered plan (state + 1) r'.tables := by
  obtain ⟨row, hrow, hr'⟩ := exists_of_bind_eq_ok h
  have granted : Granted plan state r.tables row := by
    refine foldlM_preserves (fun b b' item mem granted h => granted.enter mem h) ?_ hrow
    exact ⟨fun symbol action h => (by cases h), rfl, rfl⟩
  cases hr'
  refine ⟨⟨fun {i actions symbol a} hi ha => ?_, fun {i gotos symbol j} hi hj => ?_⟩, ?_, ?_⟩
  · rw [Array.getElem?_push, granted.actions, entered.actions] at hi
    split at hi
    · next here =>
      subst here
      obtain rfl := Option.some.inj hi
      exact granted.reason symbol a ha
    · exact entered.grounded.action hi ha
  · rw [Array.getElem?_push, granted.gotos, entered.gotos] at hi
    split at hi
    · next here =>
      subst here
      obtain rfl := Option.some.inj hi
      exact move_of_gotoRow hj
    · exact entered.grounded.goto hi hj
  · rw [Array.size_push, granted.actions, entered.actions]
  · rw [Array.size_push, granted.gotos, entered.gotos]

private theorem entered_range {r r' : RowState} {count : Nat} (entered : Entered plan 0 r.tables)
    (h : (List.range count).foldlM plan.addState r = .ok r') : Entered plan count r'.tables := by
  induction count generalizing r' with
  | zero =>
    cases h
    exact entered
  | succ count ih =>
    rw [List.range_succ, List.foldlM_append] at h
    obtain ⟨next, hnext, h⟩ := exists_of_bind_eq_ok h
    obtain ⟨last, hlast, h⟩ := exists_of_bind_eq_ok h
    cases h
    exact (ih hnext).addState hlast

/-- The tables of a grammar come from the states of its rules, whatever the method and however
conflicts are settled. -/
theorem grounded_buildFrom {g : Grammar} {rules : Rules} {method : Method} {t : Tables}
    (h : (g.buildFrom rules method).outcome = .ok t) :
    t.Grounded rules (buildStates rules g.stamps) := by
  unfold buildFrom at h
  dsimp only at h
  split at h
  · cases h
  · next r hr =>
    cases h
    refine (entered_range ?_ hr).grounded
    refine ⟨⟨fun hi => ?_, fun hi => ?_⟩, rfl, rfl⟩
    · simp at hi
    · simp at hi

end Build

end CallByNeed.Grammar
