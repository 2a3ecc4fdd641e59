import CallByNeed.Grammar.States
import Mathlib.Data.List.Basic

set_option autoImplicit false
set_option relaxedAutoImplicit false

/-!
The states that are built from rules. A move leads to a state whose items are those of the state
before with the dot one place further, and rules that begin. So the symbols on the way to an item
are the symbols before its dot.
-/

namespace CallByNeed.Grammar

section Closure

def Item.Begins (rules : Rules) (item : Item) : Prop :=
  item.dot = 0 ∧ item.rule ≠ 0 ∧ ∃ p ∈ rules.toList, p.number = item.rule

/-- Of two lists of items, the second has only those of the first and rules that begin. -/
def Opens (rules : Rules) (items more : List Item) : Prop :=
  ∀ item ∈ more, item ∈ items ∨ item.Begins rules

variable {rules : Rules}

private theorem Opens.trans {a b c : List Item} (h : Opens rules a b) (h' : Opens rules b c) :
    Opens rules a c := by
  intro item mem
  rcases h' item mem with mem | opens
  · exact h item mem
  · exact .inr opens

private theorem Opens.refl (items : List Item) : Opens rules items items :=
  fun _ mem => .inl mem

private theorem addRules_cons (closure number : Nat) (numbers : List Nat) (items : Array Item)
    (stamps : Array Nat) :
    addRules closure items stamps (number :: numbers) =
      if (stamps[number - 1]?).getD 0 = closure then addRules closure items stamps numbers
      else addRules closure (items.push ⟨number, 0⟩) (stamps.setIfInBounds (number - 1) closure)
        numbers := by
  by_cases stamped : (stamps[number - 1]?).getD 0 = closure
  · simp only [addRules, List.foldl_cons, if_pos stamped]
  · simp only [addRules, List.foldl_cons, if_neg stamped]

private theorem opens_addRules {closure : Nat} {numbers : List Nat}
    (begins : ∀ n ∈ numbers, Item.Begins rules ⟨n, 0⟩) (items : Array Item) (stamps : Array Nat) :
    Opens rules items.toList (addRules closure items stamps numbers).1.toList := by
  induction numbers generalizing items stamps with
  | nil => exact .refl _
  | cons number numbers ih =>
    rw [List.forall_mem_cons] at begins
    rw [addRules_cons]
    split
    · exact ih begins.2 items stamps
    · refine .trans ?_ (ih begins.2 (items.push ⟨number, 0⟩) _)
      intro item mem
      rw [Array.toList_push, List.mem_append, List.mem_singleton] at mem
      rcases mem with mem | rfl
      · exact .inl mem
      · exact .inr begins.1

private theorem begins_of_mem_ruleIndex {symbol : String} {n : Nat}
    (h : n ∈ ((ruleIndex rules).get? symbol).getD []) : Item.Begins rules ⟨n, 0⟩ := by
  rw [ruleIndex, ← Array.foldr_toList] at h
  suffices found : n ≠ 0 ∧ ∃ p ∈ rules.toList, p.number = n from ⟨rfl, found⟩
  generalize rules.toList = list at h
  induction list generalizing symbol with
  | nil => simp at h
  | cons p list ih =>
    have later {symbol : String} (h : n ∈ ((list.foldr (fun p (index : RuleIndex) =>
        if p.number = 0 then index
        else index.insert p.name (p.number :: (index.get? p.name).getD [])) {}).get? symbol).getD
          []) : n ≠ 0 ∧ ∃ q ∈ p :: list, q.number = n := by
      obtain ⟨proper, q, mem, hq⟩ := ih h
      exact ⟨proper, q, List.mem_cons_of_mem p mem, hq⟩
    rw [List.foldr_cons] at h
    split at h
    · exact later h
    · next proper =>
      rw [Std.HashMap.get?_eq_getElem?, Std.HashMap.getElem?_insert] at h
      split at h
      · rw [Option.getD_some, List.mem_cons] at h
        rcases h with rfl | h
        · exact ⟨proper, p, List.mem_cons_self, rfl⟩
        · exact later h
      · exact later h

private theorem opens_closeFrom (rules : Rules) (closure fuel i : Nat) (items : Array Item)
    (stamps : Array Nat) :
    Opens rules items.toList
      (closeFrom rules (ruleIndex rules) closure fuel i items stamps).1.toList := by
  induction fuel generalizing i items stamps with
  | zero => exact .refl _
  | succ fuel ih =>
    rw [closeFrom]
    split
    · exact .refl _
    · refine .trans (opens_addRules ?_ items stamps) (ih _ _ _)
      intro n mem
      split at mem
      · cases mem
      · exact begins_of_mem_ruleIndex mem

end Closure

section Growth

variable {rules : Rules}

/-- The rule of an item is there, and its dot does not stand behind the end. -/
def Item.Valid (rules : Rules) (item : Item) : Prop :=
  item.dot ≤ (item.production rules).symbols.length ∧
    (item.rule = 0 ∨ ∃ p ∈ rules.toList, p.number = item.rule)

/-- What holds of states at any time of their construction. -/
structure Founded (rules : Rules) (s : States) : Prop where
  valid : ∀ i, ∀ item ∈ s.items i, item.Valid rules
  start : ∀ i, ⟨0, 0⟩ ∈ s.items i → i = 0
  zero : ∀ item ∈ s.items 0, item.dot = 0
  /-- The number of a kernel is that of a state that was closed from it. -/
  known : ∀ kernel n, s.numbers.get? kernel = some n →
    n < s.states.size ∧ Opens rules kernel (s.items n) ∧ (n = 0 → kernel = [⟨0, 0⟩])

structure Grows (s s' : States) : Prop where
  moves : s'.moves = s.moves
  size : s.states.size ≤ s'.states.size
  items : ∀ i < s.states.size, s'.items i = s.items i

private theorem Grows.refl (s : States) : Grows s s :=
  ⟨rfl, Nat.le_refl _, fun _ _ => rfl⟩

private theorem Grows.trans {a b c : States} (h : Grows a b) (h' : Grows b c) : Grows a c := by
  refine ⟨h'.moves.trans h.moves, Nat.le_trans h.size h'.size, fun i hi => ?_⟩
  rw [h'.items i (Nat.lt_of_lt_of_le hi h.size), h.items i hi]

private theorem items_eq_nil {s : States} {i : Nat} (h : s.states.size ≤ i) : s.items i = [] := by
  rw [States.items, Array.getElem?_eq_none h]
  rfl

private theorem grows_push (s : States) (index : RuleIndex) (kernel : List Item) :
    Grows s (s.push rules index kernel) := by
  refine ⟨rfl, ?_, fun i hi => ?_⟩
  · simp [States.push]
  · simp only [States.items, States.push]
    rw [Array.getElem?_push_lt hi, Array.getElem?_eq_getElem hi]

private theorem size_push (rules : Rules) (s : States) (index : RuleIndex) (kernel : List Item) :
    (s.push rules index kernel).states.size = s.states.size + 1 := by
  simp [States.push]

private theorem opens_push (s : States) (kernel : List Item) :
    Opens rules kernel ((s.push rules (ruleIndex rules) kernel).items s.states.size) := by
  have opens := opens_closeFrom rules (s.closures + 1) (kernel.length + rules.size + 1) 0
    kernel.toArray s.stamps
  simpa [States.items, States.push] using opens

private theorem mem_items_push {s : States} {kernel : List Item} {i : Nat} {item : Item}
    (mem : item ∈ (s.push rules (ruleIndex rules) kernel).items i) :
    item ∈ s.items i ∧ i < s.states.size ∨
      i = s.states.size ∧ (item ∈ kernel ∨ item.Begins rules) := by
  rcases Nat.lt_trichotomy i s.states.size with before | rfl | behind
  · rw [(grows_push s _ kernel).items i before] at mem
    exact .inl ⟨mem, before⟩
  · exact .inr ⟨rfl, opens_push s kernel item mem⟩
  · rw [items_eq_nil (by rw [size_push]; omega)] at mem
    cases mem

private theorem Founded.push {s : States} (founded : Founded rules s) (kernel : List Item)
    (valid : ∀ item ∈ kernel, item.Valid rules) (first : s.states.size = 0 → kernel = [⟨0, 0⟩])
    (later : s.states.size ≠ 0 → ∀ item ∈ kernel, item.dot ≠ 0) :
    Founded rules (s.push rules (ruleIndex rules) kernel) := by
  have grows : Grows s (s.push rules (ruleIndex rules) kernel) := grows_push s _ kernel
  refine ⟨fun i item mem => ?_, fun i mem => ?_, fun item mem => ?_, fun k n hn => ?_⟩
  · rcases mem_items_push mem with ⟨mem, -⟩ | ⟨-, mem | ⟨dot, -, rule⟩⟩
    · exact founded.valid i item mem
    · exact valid item mem
    · exact ⟨dot ▸ Nat.zero_le _, .inr rule⟩
  · rcases mem_items_push mem with ⟨mem, -⟩ | ⟨here, mem | ⟨-, proper, -⟩⟩
    · exact founded.start i mem
    · by_contra other
      exact later (by omega) _ mem rfl
    · exact absurd rfl proper
  · rcases mem_items_push mem with ⟨mem, -⟩ | ⟨here, mem | ⟨begins, -⟩⟩
    · exact founded.zero item mem
    · rw [first here.symm] at mem
      rw [List.mem_singleton.1 mem]
    · exact begins
  · have numbers : (s.push rules (ruleIndex rules) kernel).numbers =
        s.numbers.insert kernel s.states.size := rfl
    rw [numbers, Std.HashMap.get?_eq_getElem?, Std.HashMap.getElem?_insert] at hn
    split at hn
    · next same =>
      obtain rfl := eq_of_beq same
      obtain rfl := Option.some.inj hn
      exact ⟨by rw [size_push]; omega, opens_push s kernel, first⟩
    · obtain ⟨bound, opens, start⟩ := founded.known k n hn
      rw [grows.items n bound]
      exact ⟨Nat.lt_of_lt_of_le bound grows.size, opens, start⟩

/-- The moves lead from some items to states that go on from them. -/
def Leads (rules : Rules) (s : States) (items : List Item) (moves : Std.HashMap String Nat) : Prop :=
  ∀ symbol j, moves.get? symbol = some j →
    j ≠ 0 ∧ j < s.states.size ∧ Opens rules (kernelAfter rules items symbol) (s.items j)

private theorem Leads.grow {s s' : States} {items : List Item} {moves : Std.HashMap String Nat}
    (leads : Leads rules s items moves) (grows : Grows s s') : Leads rules s' items moves := by
  intro symbol j hj
  obtain ⟨later, bound, opens⟩ := leads symbol j hj
  rw [grows.items j bound]
  exact ⟨later, Nat.lt_of_lt_of_le bound grows.size, opens⟩

private theorem Leads.insert {s : States} {items : List Item} {moves : Std.HashMap String Nat}
    (leads : Leads rules s items moves) {symbol : String} {j : Nat} (later : j ≠ 0)
    (bound : j < s.states.size) (opens : Opens rules (kernelAfter rules items symbol) (s.items j)) :
    Leads rules s items (moves.insert symbol j) := by
  intro other k hk
  rw [Std.HashMap.get?_eq_getElem?, Std.HashMap.getElem?_insert] at hk
  split at hk
  · next same =>
    obtain rfl := eq_of_beq same
    obtain rfl := Option.some.inj hk
    exact ⟨later, bound, opens⟩
  · exact leads other k hk

private theorem mem_kernelAfter {items : List Item} {symbol : String} {item : Item} :
    item ∈ kernelAfter rules items symbol ↔
      ∃ prev ∈ items, prev.next? rules = some symbol ∧ prev.advance = item := by
  simp only [kernelAfter, List.mem_map, List.mem_filter, beq_iff_eq, and_assoc]

private theorem valid_of_mem_kernelAfter {items : List Item}
    (valid : ∀ item ∈ items, item.Valid rules) {symbol : String} {item : Item}
    (mem : item ∈ kernelAfter rules items symbol) : item.dot ≠ 0 ∧ item.Valid rules := by
  obtain ⟨prev, hprev, next, rfl⟩ := mem_kernelAfter.1 mem
  have bound := (List.getElem?_eq_some_iff.1 next).1
  exact ⟨Nat.succ_ne_zero _, bound, (valid prev hprev).2⟩

private theorem exploreSymbols_leads {items : List Item}
    (valid : ∀ item ∈ items, item.Valid rules) (symbols : List String)
    {moves : Std.HashMap String Nat} {s : States} (founded : Founded rules s)
    (nonempty : s.states.size ≠ 0) (leads : Leads rules s items moves) :
    Grows s (exploreSymbols rules (ruleIndex rules) items symbols moves s).2 ∧
      Founded rules (exploreSymbols rules (ruleIndex rules) items symbols moves s).2 ∧
      Leads rules (exploreSymbols rules (ruleIndex rules) items symbols moves s).2 items
        (exploreSymbols rules (ruleIndex rules) items symbols moves s).1 := by
  induction symbols generalizing moves s with
  | nil => exact ⟨.refl s, founded, leads⟩
  | cons symbol symbols ih =>
    rw [exploreSymbols]
    split
    · exact ih founded nonempty leads
    · have valid' (item : Item) (mem : item ∈ kernelAfter rules items symbol) :=
        valid_of_mem_kernelAfter valid mem
      split
      · next number hnumber =>
        obtain ⟨bound, opens, start⟩ := founded.known _ number hnumber
        have later : number ≠ 0 := by
          intro zero
          refine (valid' ⟨0, 0⟩ ?_).1 rfl
          rw [start zero]
          exact List.mem_singleton_self _
        exact ih founded nonempty (leads.insert later bound opens)
      · have grows : Grows s (s.push rules (ruleIndex rules) (kernelAfter rules items symbol)) :=
          grows_push s _ _
        have pushed := founded.push _ (fun item mem => (valid' item mem).2)
          (fun none => absurd none nonempty) (fun _ item mem => (valid' item mem).1)
        have bound := size_push rules s (ruleIndex rules) (kernelAfter rules items symbol)
        obtain ⟨more, founded', leads'⟩ := ih pushed (by omega)
          ((leads.grow grows).insert nonempty (by omega) (opens_push s _))
        exact ⟨grows.trans more, founded', leads'⟩

/-- Every move that was found leads from a state to one that goes on from it. -/
def Moved (rules : Rules) (s : States) : Prop :=
  ∀ i moves, s.moves[i]? = some moves → Leads rules s (s.items i) moves

private theorem exploreFrom_moved (fuel i : Nat) {s : States} (founded : Founded rules s)
    (nonempty : s.states.size ≠ 0) (explored : s.moves.size = i) (moved : Moved rules s)
    (bound : i ≤ s.states.size) :
    Founded rules (exploreFrom rules (ruleIndex rules) fuel i s) ∧
      Moved rules (exploreFrom rules (ruleIndex rules) fuel i s) := by
  induction fuel generalizing i s with
  | zero => exact ⟨founded, moved⟩
  | succ fuel ih =>
    rw [exploreFrom]
    split
    · exact ⟨founded, moved⟩
    · next items here =>
      have items_eq : s.items i = items := by
        rw [States.items, here]
        rfl
      have valid : ∀ item ∈ items, item.Valid rules := items_eq ▸ founded.valid i
      have none : Leads rules s items {} := fun symbol j hj => by simp at hj
      obtain ⟨grows, founded', leads⟩ :=
        exploreSymbols_leads valid (itemSymbols rules items) founded nonempty none
      generalize exploreSymbols rules (ruleIndex rules) items (itemSymbols rules items) {} s = found
        at grows founded' leads ⊢
      obtain ⟨found, s'⟩ := found
      have present : i < s.states.size := (Array.getElem?_eq_some_iff.1 here).1
      have size : s.states.size ≤ s'.states.size := grows.size
      have stays : s'.items i = items := (grows.items i present).trans items_eq
      refine ih (i + 1) (s := { s' with moves := s'.moves.push found })
        ⟨founded'.valid, founded'.start, founded'.zero, founded'.known⟩
        (show s'.states.size ≠ 0 by omega) ?_ ?_ (show i + 1 ≤ s'.states.size by omega)
      · rw [Array.size_push, grows.moves, explored]
      · intro k moves hk
        rw [Array.getElem?_push, grows.moves, explored] at hk
        split at hk
        · next last =>
          obtain rfl := Option.some.inj hk
          rw [last]
          exact stays ▸ leads
        · have earlier : k < i := explored ▸ (Array.getElem?_eq_some_iff.1 hk).1
          have leads' := (moved k moves hk).grow grows
          rw [← grows.items k (by omega)] at leads'
          exact leads'

structure States.Grounded (rules : Rules) (s : States) : Prop where
  valid : ∀ {i : Nat}, ∀ item ∈ s.items i, item.Valid rules
  start : ∀ {i : Nat}, ⟨0, 0⟩ ∈ s.items i → i = 0
  zero : ∀ item ∈ s.items 0, item.dot = 0
  later : ∀ {i j : Nat} {symbol : String}, s.move? i symbol = some j → j ≠ 0
  back : ∀ {i j : Nat} {symbol : String}, s.move? i symbol = some j → ∀ item ∈ s.items j,
    item.dot ≠ 0 → ∃ prev ∈ s.items i, prev.next? rules = some symbol ∧ prev.advance = item

/-- Whatever the rules and whatever stamps they bear, the items of the states that are built from
them follow from each other. -/
theorem grounded_buildStates (rules : Rules) (stamps : Array Nat) :
    (buildStates rules stamps).Grounded rules := by
  have founded : Founded rules { stamps := stamps } := by
    refine ⟨fun i item mem => ?_, fun i mem => ?_, fun item mem => ?_, fun kernel n hn => ?_⟩
    · simp [States.items] at mem
    · simp [States.items] at mem
    · simp [States.items] at mem
    · simp at hn
  have start : Item.Valid rules ⟨0, 0⟩ := ⟨Nat.zero_le _, .inl rfl⟩
  have pushed := founded.push [⟨0, 0⟩] (by simpa using start) (fun _ => rfl) (by simp)
  have size := size_push rules { stamps := stamps } (ruleIndex rules) [⟨0, 0⟩]
  obtain ⟨founded, moved⟩ := exploreFrom_moved (statesBound rules) 0 pushed (by omega) rfl
    (fun i moves hi => by simp [States.push] at hi) (Nat.zero_le _)
  refine ⟨fun item mem => founded.valid _ item mem, fun mem => founded.start _ mem, founded.zero,
    fun hj => ?_, fun hj item mem dot => ?_⟩
  · obtain ⟨moves, hmoves, hj⟩ := Option.bind_eq_some_iff.1 hj
    exact (moved _ moves hmoves _ _ hj).1
  · obtain ⟨moves, hmoves, hj⟩ := Option.bind_eq_some_iff.1 hj
    rcases (moved _ moves hmoves _ _ hj).2.2 item mem with mem | ⟨begins, -⟩
    · exact mem_kernelAfter.1 mem
    · exact absurd begins dot

end Growth

end CallByNeed.Grammar
