set_option autoImplicit false
set_option relaxedAutoImplicit false

/-!
Maps from text that keep the order in which their keys were first inserted.
-/

namespace CallByNeed

/-- A map that lists its keys in the order of their first insertion. -/
structure OrderedMap (α : Type) where
  entries : List (String × α) := []
deriving Repr, Inhabited

namespace OrderedMap

variable {α : Type}

def get? (m : OrderedMap α) (key : String) : Option α :=
  m.entries.lookup key

def contains (m : OrderedMap α) (key : String) : Bool :=
  m.entries.any (·.1 == key)

def keys (m : OrderedMap α) : List String :=
  m.entries.map (·.1)

def isEmpty (m : OrderedMap α) : Bool :=
  m.entries.isEmpty

/-- Gives a key a value. A key that is there keeps its place. -/
def insert (m : OrderedMap α) (key : String) (value : α) : OrderedMap α :=
  if m.contains key then
    ⟨m.entries.map fun entry => if entry.1 == key then (key, value) else entry⟩
  else ⟨m.entries ++ [(key, value)]⟩

def insertNew (m : OrderedMap α) (key : String) (value : α) : OrderedMap α :=
  if m.contains key then m else ⟨m.entries ++ [(key, value)]⟩

def modify (m : OrderedMap α) (key : String) (f : α → α) : OrderedMap α :=
  ⟨m.entries.map fun entry => if entry.1 == key then (key, f entry.2) else entry⟩

def sorted (m : OrderedMap α) : List (String × α) :=
  m.entries.mergeSort fun a b => a.1 ≤ b.1

def ofKeys (keys : List String) (value : α) : OrderedMap α :=
  keys.foldl (fun m key => m.insertNew key value) {}

@[simp] theorem keys_modify (m : OrderedMap α) (key : String) (f : α → α) :
    (m.modify key f).keys = m.keys := by
  simp only [keys, modify, List.map_map]
  apply List.map_congr_left
  intro entry _
  by_cases h : entry.1 = key <;> simp [h]

private theorem lookup_replaced (entries : List (String × α)) (key other : String) (value : α) :
    (entries.map fun entry => if entry.1 == key then (key, value) else entry).lookup other =
      if other = key then if entries.any (·.1 == key) then some value else none
      else entries.lookup other := by
  induction entries with
  | nil => simp
  | cons entry entries ih =>
    obtain ⟨k, v⟩ := entry
    rw [List.map_cons, List.any_cons]
    by_cases replaced : k = key
    · by_cases asked : other = key
      · simp [replaced, asked]
      · have differ : (other == key) = false := beq_false_of_ne asked
        simp only [replaced, beq_self_eq_true, if_true, List.lookup_cons, differ, ih, if_neg asked]
    · have keeps : (k == key) = false := beq_false_of_ne replaced
      simp only [keeps, Bool.false_eq_true, if_false, Bool.false_or, List.lookup_cons, ih]
      by_cases asked : other = key
      · have differ : (other == k) = false := beq_false_of_ne fun h => replaced (h.symm.trans asked)
        simp only [differ, if_pos asked]
      · simp only [if_neg asked]

theorem get?_insert (m : OrderedMap α) (key other : String) (value : α) :
    (m.insert key value).get? other = if other = key then some value else m.get? other := by
  rw [insert]
  split
  · next has =>
    rw [get?, lookup_replaced]
    simp only [contains] at has
    rw [if_pos has, get?]
  · next lacks =>
    rw [get?, List.lookup_append]
    by_cases asked : other = key
    · have absent : m.entries.lookup other = none := by
        rw [List.lookup_eq_none_iff]
        intro entry mem
        have differ := mt (List.any_eq_true.2 ⟨entry, mem, ·⟩) lacks
        rw [asked]
        exact bne_iff_ne.2 fun same => differ (beq_iff_eq.2 same.symm)
      rw [absent, if_pos asked, asked]
      simp
    · have differ : (other == key) = false := beq_false_of_ne asked
      rw [if_neg asked, List.lookup_cons, differ, get?]
      simp

end OrderedMap

end CallByNeed
