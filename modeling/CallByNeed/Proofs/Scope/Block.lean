import CallByNeed.Language.Scope

set_option autoImplicit false
set_option relaxedAutoImplicit false

/-!
Blocks and frames as maps. What a block binds a name to is found by `List.lookup`, and what a frame
finds is what the innermost of its blocks that binds the name finds. Binding a name anew concerns
that block and that name alone.
-/

namespace CallByNeed.Language

variable {α : Type} {name other : String} {x y : α}

theorem Block.binds_eq_isSome (block : Block α) (name : String) :
    block.binds name = (List.lookup name block).isSome := by
  induction block with
  | nil => rfl
  | cons binding block ih =>
    obtain ⟨bound, old⟩ := binding
    simp only [Block.binds] at ih
    rw [Block.binds, List.any_cons, ih, List.lookup_cons]
    by_cases same : bound = name
    · simp [same]
    · simp [same, beq_false_of_ne (Ne.symm same)]

theorem Block.lookup_insert_of_ne (block : Block α) (x : α) (distinct : other ≠ name) :
    List.lookup other (block.insert name x) = List.lookup other block := by
  have differs : (other == name) = false := beq_false_of_ne distinct
  induction block with
  | nil => simp [Block.insert, List.lookup_cons, differs]
  | cons binding block ih =>
    obtain ⟨bound, old⟩ := binding
    rw [Block.insert]
    split
    · next same => simp only [List.lookup_cons, same, differs]
    · rw [List.lookup_cons, List.lookup_cons, ih]

private theorem Block.binds_insert (block : Block α) (x : α) (distinct : other ≠ name) :
    (block.insert name x).binds other = block.binds other := by
  rw [Block.binds_eq_isSome, Block.lookup_insert_of_ne block x distinct, Block.binds_eq_isSome]

private theorem Block.insert_comm {block : Block α} (distinct : other ≠ name)
    (bound : block.binds name = true) (bound' : block.binds other = true) :
    (block.insert name x).insert other y = (block.insert other y).insert name x := by
  induction block with
  | nil => cases bound
  | cons binding block ih =>
    obtain ⟨first, old⟩ := binding
    by_cases isName : first = name
    · subst isName
      have rest : ¬ first = other := Ne.symm distinct
      simp [Block.insert, rest]
    · by_cases isOther : first = other
      · subst isOther
        simp [Block.insert, isName]
      · simp only [Block.binds, List.any_cons, isName, isOther, decide_false, Bool.false_or]
          at bound bound'
        simp only [Block.insert, isName, isOther, if_false, ih bound bound']

theorem Frame.rebind?_comm (frame : Frame α) (distinct : other ≠ name) :
    ((frame.rebind? name x).bind fun f => Frame.rebind? other y f) =
      (frame.rebind? other y).bind fun f => Frame.rebind? name x f := by
  induction frame with
  | nil => rfl
  | cons block frame ih =>
    have kept := block.binds_insert x distinct
    have kept' := block.binds_insert y distinct.symm
    cases bound : block.binds name <;> cases bound' : block.binds other
    · simp only [Frame.rebind?, bound, bound', Bool.false_eq_true, if_false, Option.bind_map,
        Function.comp_def]
      simpa only [Option.map_bind, Function.comp_def] using congrArg (Option.map (block :: ·)) ih
    · simp only [Frame.rebind?, bound, bound', kept', Bool.false_eq_true, if_false, if_true,
        Option.bind_map, Option.bind_some, Function.comp_def]
      cases Frame.rebind? name x frame <;> rfl
    · simp only [Frame.rebind?, bound, bound', kept, Bool.false_eq_true, if_false, if_true,
        Option.bind_map, Option.bind_some, Function.comp_def]
      cases Frame.rebind? other y frame <;> rfl
    · simp only [Frame.rebind?, bound, bound', kept, kept', if_true, Option.bind_some,
        Block.insert_comm distinct bound bound']

theorem Frame.find?_rebind?_of_ne {frame frame' : Frame α} (distinct : other ≠ name)
    (h : frame.rebind? name x = some frame') : frame'.find? other = frame.find? other := by
  induction frame generalizing frame' with
  | nil => cases h
  | cons block frame ih =>
    rw [Frame.rebind?] at h
    split at h
    · cases h
      rw [Frame.find?, Frame.find?, Block.lookup_insert_of_ne block x distinct]
    · obtain ⟨rest, rebound, rfl⟩ := Option.map_eq_some_iff.mp h
      rw [Frame.find?, Frame.find?, ih rebound]

theorem Block.lookup_insert_self (block : Block α) (name : String) (x : α) :
    List.lookup name (block.insert name x) = some x := by
  induction block with
  | nil => simp [Block.insert]
  | cons binding block ih =>
    obtain ⟨bound, old⟩ := binding
    rw [Block.insert]
    split
    · exact List.lookup_cons_self
    · next other =>
      have differs : (name == bound) = false := beq_false_of_ne (Ne.symm other)
      rw [List.lookup_cons, differs]
      exact ih

private theorem Block.insert_of_lookup {block : Block α} (found : List.lookup name block = some x) :
    block.insert name x = block := by
  induction block with
  | nil => cases found
  | cons binding block ih =>
    obtain ⟨bound, old⟩ := binding
    rw [Block.insert]
    by_cases same : bound = name
    · subst same
      rw [List.lookup_cons_self] at found
      obtain rfl := Option.some.inj found
      rw [if_pos rfl]
    · have differs : (name == bound) = false := beq_false_of_ne (Ne.symm same)
      rw [List.lookup_cons, differs] at found
      rw [if_neg same, ih found]

theorem Frame.rebind?_eq_none_iff {frame : Frame α} :
    frame.rebind? name x = none ↔ frame.find? name = none := by
  induction frame with
  | nil => exact ⟨fun _ => rfl, fun _ => rfl⟩
  | cons block frame ih =>
    rw [Frame.rebind?, Frame.find?, Block.binds_eq_isSome]
    cases List.lookup name block with
    | none => simpa using ih
    | some old => simp

theorem Frame.exists_rebind? {frame : Frame α} (found : frame.find? name = some x) (y : α) :
    ∃ frame', frame.rebind? name y = some frame' := by
  apply Option.ne_none_iff_exists'.mp
  intro unbound
  rw [Frame.rebind?_eq_none_iff, found] at unbound
  cases unbound

private theorem Frame.find?_rebind?_self {frame frame' : Frame α}
    (h : frame.rebind? name x = some frame') : frame'.find? name = some x := by
  induction frame generalizing frame' with
  | nil => cases h
  | cons block frame ih =>
    rw [Frame.rebind?, Block.binds_eq_isSome] at h
    cases found : List.lookup name block with
    | some old =>
      rw [found] at h
      cases h
      rw [Frame.find?, Block.lookup_insert_self]
    | none =>
      rw [found] at h
      obtain ⟨rest, rebound, rfl⟩ := Option.map_eq_some_iff.mp h
      rw [Frame.find?, found]
      exact ih rebound

theorem Frame.rebind?_eq_self_iff {frame frame' : Frame α} (found : frame.find? name = some x)
    (h : frame.rebind? name y = some frame') : frame' = frame ↔ x = y := by
  constructor
  · intro same
    have found' := Frame.find?_rebind?_self h
    rw [same, found] at found'
    exact Option.some.inj found'
  · rintro rfl
    induction frame generalizing frame' with
    | nil => cases h
    | cons block frame ih =>
      rw [Frame.find?] at found
      rw [Frame.rebind?, Block.binds_eq_isSome] at h
      cases inner : List.lookup name block with
      | some old =>
        rw [inner] at found h
        obtain rfl := Option.some.inj found
        obtain rfl := Option.some.inj h
        rw [Block.insert_of_lookup inner]
      | none =>
        rw [inner] at found h
        obtain ⟨rest, rebound, rfl⟩ := Option.map_eq_some_iff.mp h
        rw [ih found rebound]

theorem Frame.length_rebind? {frame frame' : Frame α}
    (h : frame.rebind? name x = some frame') : frame'.length = frame.length := by
  induction frame generalizing frame' with
  | nil => simp [Frame.rebind?] at h
  | cons block frame ih =>
    rw [Frame.rebind?] at h
    split at h
    · obtain rfl := Option.some.inj h
      rfl
    · obtain ⟨rest, rebound, rfl⟩ := Option.map_eq_some_iff.mp h
      simp [ih rebound]

end CallByNeed.Language
