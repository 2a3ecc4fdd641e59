import CallByNeed.Language.Interpreter
import CallByNeed.Proofs.Value.Soundness

set_option autoImplicit false
set_option relaxedAutoImplicit false

/-!
Equality of values. The left operand decides how two values are compared: a string compares contents
alone, every other value compares types as well. A content belongs to one type, except that the
string which input past its end gives has the content of nil. So equality is the identity of values
but for that string and nil, which are equal in one order only.
-/

namespace CallByNeed.Language

namespace Value

variable {a b c : Value}

private theorem content_eq_iff :
    a.content = b.content ↔ a = b ∨ (a = .missing ∧ b = .nil) ∨ (a = .nil ∧ b = .missing) := by
  cases a <;> cases b <;> simp [content]

private theorem equals_iff_content :
    a.equals b = true ↔ a.content = b.content ∧ (a.type = b.type ∨ a.type = .string) := by
  cases a <;> cases b <;> simp [equals, content, type]

private theorem equals_iff : a.equals b = true ↔ a = b ∨ (a = .missing ∧ b = .nil) := by
  rw [equals_iff_content, content_eq_iff]
  constructor
  · rintro ⟨same | ⟨rfl, rfl⟩ | ⟨rfl, rfl⟩, types⟩
    · exact .inl same
    · exact .inr ⟨rfl, rfl⟩
    · rcases types with types | types <;> cases types
  · rintro (rfl | ⟨rfl, rfl⟩)
    · exact ⟨.inl rfl, .inl rfl⟩
    · exact ⟨.inr (.inl ⟨rfl, rfl⟩), .inr rfl⟩

/-- The operator `==` gives true. -/
def Equal (a b : Value) : Prop :=
  BinaryOp.eq.apply a b = .ok (.bool true)

private theorem equal_iff : a.Equal b ↔ a = b ∨ (a = .missing ∧ b = .nil) := by
  rw [← equals_iff]
  constructor
  · intro equal
    exact bool.inj (Except.ok.inj equal)
  · intro equal
    rw [Equal, BinaryOp.apply, equal]

private theorem Equal.trans (hab : a.Equal b) (hbc : b.Equal c) : a.Equal c := by
  rw [equal_iff] at hab hbc ⊢
  rcases hab with rfl | ⟨rfl, rfl⟩
  · exact hbc
  · rcases hbc with rfl | ⟨hb, rfl⟩
    · exact .inr ⟨rfl, rfl⟩
    · cases hb

/-- The order of the operands matters only where one of them is nil and the other one has its
content. -/
theorem equal_comm_iff :
    (a.Equal b ↔ b.Equal a) ↔ ¬ ((a = .missing ∧ b = .nil) ∨ (a = .nil ∧ b = .missing)) := by
  rw [equal_iff, equal_iff]
  constructor
  · rintro comm (⟨rfl, rfl⟩ | ⟨rfl, rfl⟩)
    · rcases comm.mp (.inr ⟨rfl, rfl⟩) with h | ⟨h, _⟩ <;> cases h
    · rcases comm.mpr (.inr ⟨rfl, rfl⟩) with h | ⟨h, _⟩ <;> cases h
  · intro apart
    constructor
    · rintro (same | clash)
      · exact .inl same.symm
      · exact absurd (.inl clash) apart
    · rintro (same | ⟨hb, ha⟩)
      · exact .inl same.symm
      · exact absurd (.inr ⟨ha, hb⟩) apart

private theorem equal_iff_of_type_ne (types : a.type ≠ b.type) :
    a.Equal b ↔ a = .missing ∧ b = .nil := by
  rw [equal_iff]
  constructor
  · rintro (rfl | clash)
    · exact absurd rfl types
    · exact clash
  · exact .inr

private theorem Fits.equals_eq (ha : a.Fits) : a.equals b = decide (a = b) := by
  rw [Bool.eq_iff_iff, equals_iff, decide_eq_true_iff]
  constructor
  · rintro (same | ⟨rfl, rfl⟩)
    · exact same
    · exact absurd rfl (fits_iff.mp ha)
  · exact .inl

end Value

open Config

/-- The moment at which both operands of an operator have been evaluated. -/
@[reducible]
def Config.operands {ρ : Kind} (op : BinaryOp) (left right : Option Value) (k : Stack ρ .value)
    (s : State) : Config ρ :=
  .done (.value right : Kind.value.Answer) (.cons (.binary op left) k) s

private theorem Config.step_operands {ρ : Kind} {op : BinaryOp} {v w r : Value}
    (applied : op.apply v w = .ok r) (c : Context) (k : Stack ρ .value) (s : State) :
    (operands op (some v) (some w) k s).step c =
      some (.done (.value (some r) : Kind.value.Answer) k s) := by
  have result : applyBinary op v w c s = .ok r s := by
    rw [applyBinary, applied]
    rfl
  have resumed : (Pending.binary op (some v)).resume (.value (some w)) c s =
      .ok (.give (.value (some r))) s := by
    simp only [Pending.resume, onValue, resumeBinary, needType, needRight, Comp.bind_apply,
      Comp.pure_apply, result]
  exact step_done resumed k

/-- A value that an evaluation gives in some run. -/
def Value.Produced (v : Value) : Prop :=
  ∃ (program : Program) (setup : Setup) (k : Stack .cell .value) (s : State),
    Reaches (program.context setup) Any (first {})
      (.done (.value (some v) : Kind.value.Answer) k s)

def posing (e : Expr) : Program where
  structs := []
  funcs := [⟨"main", [], none, [.raise e]⟩]

private theorem produced_of_after (e : Expr) (setup : Setup) (n : Nat) {v : Value}
    (h : ∃ (k : Stack .cell .value) (s : State), after ((posing e).context setup) n (first {}) =
      some (.done (.value (some v) : Kind.value.Answer) k s)) : v.Produced := by
  obtain ⟨k, s, arrived⟩ := h
  exact ⟨posing e, setup, k, s, reaches_of_after arrived⟩

private theorem Value.produced (v : Value) : v.Produced := by
  cases v with
  | int n =>
    cases n with
    | ofNat m => exact produced_of_after (.int m) {} 5 ⟨_, _, rfl⟩
    | negSucc m => exact produced_of_after (.unary .neg (.int (m + 1))) {} 7 ⟨_, _, rfl⟩
  | bool b => exact produced_of_after (.bool b) {} 5 ⟨_, _, rfl⟩
  | nil => exact produced_of_after .nil {} 5 ⟨_, _, rfl⟩
  | str text => exact produced_of_after (.call "inputs" []) { inputs := #[text] } 8 ⟨_, _, rfl⟩
  | missing =>
    exact produced_of_after (.binary .eq (.call "inputs" []) (.call "inputs" []))
      { inputs := #[""] } 14 ⟨_, _, rfl⟩

/-- In a run that never reads past the end of its inputs, `==` asks whether its operands are one
value and `!=` whether they are not. -/
theorem Program.Fed.step_equality {program : Program} {setup : Setup} {channels : Channels}
    (fed : program.Fed setup channels) {op : BinaryOp} {left right : Option Value}
    {k : Stack .cell .value} {s : State}
    (hx : Reaches (program.context setup) Any (first channels) (operands op left right k s)) :
    ∃ v w, left = some v ∧ right = some w ∧
      (op = .eq → (operands op left right k s).step (program.context setup) =
        some (.done (.value (some (.bool (v = w))) : Kind.value.Answer) k s)) ∧
      (op = .ne → (operands op left right k s).step (program.context setup) =
        some (.done (.value (some (.bool (v ≠ w))) : Kind.value.Answer) k s)) := by
  obtain ⟨v, w, rfl, rfl, fits, _⟩ :=
    (fed.typed_of_reaches hx).operands op left right k s rfl
  refine ⟨v, w, rfl, rfl, ?_, ?_⟩
  · rintro rfl
    apply step_operands
    rw [BinaryOp.apply, fits.equals_eq]
  · rintro rfl
    apply step_operands
    rw [BinaryOp.apply, fits.equals_eq, decide_not]

/-- The laws of equality, over all values that runs produce. Inequality is the opposite of equality,
and equality is reflexive and transitive. It is symmetric, and tells values of different types
apart, but for nil and the string that input past its end gives, and in a run that never reads that
far it is the identity of values. -/
theorem equality_laws_but_for_missing (a b c : Value) :
    (a.Produced ∧ b.Produced ∧ c.Produced) ∧
    (∃ r, BinaryOp.eq.apply a b = .ok (.bool r) ∧ BinaryOp.ne.apply a b = .ok (.bool !r)) ∧
    a.Equal a ∧
    (a.Equal b → b.Equal c → a.Equal c) ∧
    ((a.Equal b ↔ b.Equal a) ↔ ¬ ((a = .missing ∧ b = .nil) ∨ (a = .nil ∧ b = .missing))) ∧
    (a.type ≠ b.type → (a.Equal b ↔ a = .missing ∧ b = .nil)) ∧
    ∀ (program : Program) (setup : Setup) (channels : Channels), program.Fed setup channels →
      ∀ (op : BinaryOp) (left right : Option Value) (k : Stack .cell .value) (s : State),
        Reaches (program.context setup) Any (first channels) (operands op left right k s) →
        ∃ v w, left = some v ∧ right = some w ∧
          (op = .eq → (operands op left right k s).step (program.context setup) =
            some (.done (.value (some (.bool (v = w))) : Kind.value.Answer) k s)) ∧
          (op = .ne → (operands op left right k s).step (program.context setup) =
            some (.done (.value (some (.bool (v ≠ w))) : Kind.value.Answer) k s)) := by
  refine ⟨⟨a.produced, b.produced, c.produced⟩, ⟨a.equals b, rfl, rfl⟩, ?_, Value.Equal.trans,
    Value.equal_comm_iff, Value.equal_iff_of_type_ne, ?_⟩
  · exact Value.equal_iff.mpr (.inl rfl)
  · intro program setup channels fed op left right k s hx
    exact fed.step_equality hx

theorem equality_laws_but_for_missing_asking :
    asking.Fed { inputs := #["1"] } {} ∧
    ∃ (k : Stack .cell .value) (s : State),
      Reaches (asking.context { inputs := #["1"] }) Any (first {})
        (operands .eq (some (.int 1)) (some (.int 0)) k s) ∧
      (operands .eq (some (.int 1)) (some (.int 0)) k s).step
        (asking.context { inputs := #["1"] }) =
          some (.done (.value (some (.bool false)) : Kind.value.Answer) k s) := by
  have finish : ∃ (a : Raising CellId) (s : State),
      walk (asking.context { inputs := #["1"] }) (Config.fed { inputs := #["1"] }) 28 (first {}) =
        some (.done (a : Kind.cell.Answer) .nil s) := ⟨_, _, rfl⟩
  have moment : ∃ (k : Stack .cell .value) (s : State),
      after (asking.context { inputs := #["1"] }) 22 (first {}) =
        some (operands .eq (some (.int 1)) (some (.int 0)) k s) := ⟨_, _, rfl⟩
  obtain ⟨a, last, finished⟩ := finish
  obtain ⟨k, s, arrived⟩ := moment
  have fed : asking.Fed { inputs := #["1"] } {} :=
    ⟨rfl, fun _ hx => forall_of_walk finished rfl rfl hx⟩
  have hx := reaches_of_after arrived
  obtain ⟨_, _, _, _, _, _, runs⟩ := equality_laws_but_for_missing (.int 1) (.int 0) .nil
  obtain ⟨v, w, hv, hw, equal, _⟩ := runs asking _ {} fed .eq _ _ k s hx
  cases hv
  cases hw
  exact ⟨fed, k, s, hx, equal rfl⟩

/-- A source text that compares input past its end with nil, in both orders. -/
def comparing : String :=
  "func main() \x7b print(inputs()); var x; x = inputs(); " ++
    "print(x == nil); print(nil == x); \x7d"

theorem missing_string_equals_nil_one_way :
    Value.Equal .missing .nil ∧ ¬ Value.Equal .nil .missing ∧
    Value.type .missing ≠ Value.type .nil ∧
    ((Interpreter.start { inputs := #["a"] } "" {}).run comparing).2.session.channels.output =
      #[some "a", some "true", some "false"] := by
  refine ⟨rfl, ?_, by decide, by decide +kernel⟩
  rw [Value.equal_iff]
  decide

end CallByNeed.Language
