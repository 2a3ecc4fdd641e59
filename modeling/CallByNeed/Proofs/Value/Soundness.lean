import CallByNeed.Datum
import CallByNeed.Proofs.Fault.Escape

set_option autoImplicit false
set_option relaxedAutoImplicit false

/-!
Soundness of values. A value has a type and a content, and the content fits the type unless the
value is the string that input past its end gives. In the run of a program that creates no objects
and never reads past the end of its inputs all values in cells fit their types, an evaluation gives
such a value or the text of an exception, and no step asks for the type or the content of what has
none.
-/

namespace CallByNeed.Language

variable {ρ σ τ : Kind}

def Value.content : Value → Datum
  | .int n => .number n
  | .bool b => .flag b
  | .str text => .text text
  | .missing => .null
  | .nil => .null

def ValueType.holds : ValueType → Datum → Bool
  | .int, .number _ => true
  | .bool, .flag _ => true
  | .string, .text _ => true
  | .nil, .null => true
  | _, _ => false

/-- A value whose content is one of its type. -/
def Value.Fits (v : Value) : Prop :=
  v.type.holds v.content = true

theorem Value.fits_iff {v : Value} : v.Fits ↔ v ≠ .missing := by
  cases v <;> simp [Fits, type, content, ValueType.holds]

/-- The value that an evaluation hands back: its result, or the string that it raises. -/
def Raising.handed : Raising (Option Value) → Option Value
  | .value v => v
  | .raised exception => some ((exception.map Value.str).getD .missing)

private theorem Raising.fits_of_plain {a : Raising (Option Value)} (plain : Kind.value.Plain a) :
    ∃ v, a.handed = some v ∧ v.Fits := by
  cases a with
  | value result =>
    obtain ⟨v, rfl, given⟩ := plain
    exact ⟨v, rfl, Value.fits_iff.mpr given⟩
  | raised exception =>
    cases exception with
    | none => exact absurd rfl plain
    | some text => exact ⟨.str text, rfl, rfl⟩

private theorem Kind.plain_raise {exception : Option String} (plain : σ.Plain (σ.raise exception)) :
    ∃ text, exception = some text := by
  refine Option.ne_none_iff_exists'.mp ?_
  cases σ <;> exact plain

private theorem State.Plain.fits {s : State} (plain : s.Plain) {j : CellId} {v : Value}
    (content : s.cells[j]? = some (.value v)) : v.Fits :=
  Value.fits_iff.mpr (plain j _ content)

section Inputs

variable {setup : Setup} {channels : Channels}

/-- There are given inputs, and all of them have been read. -/
def Channels.exhausted (setup : Setup) (channels : Channels) : Bool :=
  !setup.inputs.isEmpty && setup.inputs.size ≤ channels.cursor

/-- Where the given inputs are not used up, only the standard input can end, and an input can be no
integer. -/
theorem Channels.feeds_of_not_exhausted {F : Fault → Prop} {asInteger : Bool}
    (more : channels.exhausted setup = false) (endOfInput : F .endOfInput)
    (integer : ∀ fault, F (.integer fault)) : channels.Feeds F setup asInteger := by
  unfold Feeds read
  by_cases empty : setup.inputs.isEmpty = true
  · rw [if_pos empty]
    cases channels.readLine with
    | none => exact endOfInput
    | some next => exact fun _ fault _ => integer fault
  · rw [if_neg empty]
    have bound : channels.cursor < setup.inputs.size := by simpa [exhausted, empty] using more
    rw [Array.getElem?_eq_getElem bound]
    exact fun _ fault _ => integer fault

end Inputs

namespace Config

variable {c : Context} {x y : Config ρ}

/-- Unless nothing is read, because nothing is asked for or the prompt cannot be written, the given
inputs are not used up. -/
def fed (setup : Setup) (x : Config ρ) : Bool :=
  x.reads?.isNone || x.writes?.any (fun n => Text.writeBound ≤ n.natAbs) ||
    !x.state.channels.exhausted setup

/-- What can stop a run without objects at a moment, as long as inputs are left. -/
inductive Fails (x : Config ρ) : Fault → Prop where
  | language (e : LanguageError) : Fails x (.language e)
  | scope (failure : ScopeFault) : Fails x (.scope failure)
  | noText : Fails x .noText
  | endOfInput : Fails x .endOfInput
  | integer (fault : Text.IntegerFault) : Fails x (.integer fault)
  | divisionByZero (zero : x.dividesByZero = true) : Fails x .divisionByZero

private theorem admits_of_fed (fed : x.fed c.setup = true) : x.Admits c x.Fails := by
  refine ⟨.language, .scope, fun asInteger reads bounded => ?_, fun _ _ => .inr .integer,
    fun _ => .noText, .divisionByZero⟩
  refine Channels.feeds_of_not_exhausted ?_ .endOfInput .integer
  simp only [Config.fed, reads, Option.isNone_some, Bool.false_or, Bool.or_eq_true,
    Bool.not_eq_true', Option.any_eq_true_iff_get, decide_eq_true_eq] at fed
  rcases fed with ⟨written, long⟩ | more
  · exact absurd (bounded _ (Option.some_get written).symm) (Nat.not_lt.mpr long)
  · exact more

/-- All values at a moment fit their types: those in cells, unless a fault has ended the evaluation,
and the operands of an operator. An exception has a text, and no fault comes from asking for the
type or the content of nothing. -/
structure Typed (x : Config ρ) : Prop where
  cells : x.calm = true →
    ∀ (j : CellId) (v : Value), x.state.cells[j]? = some (.value v) → v.Fits
  raised : ∀ (σ : Kind) (exception : Option String) (k : Stack ρ σ) (s : State),
    x = .done (σ.raise exception) k s → ∃ text, exception = some text
  operands : ∀ (op : BinaryOp) (left right : Option Value) (k : Stack ρ .value) (s : State),
    x = .done (.value right : Kind.value.Answer) (.cons (.binary op left) k) s →
    ∃ v w, left = some v ∧ right = some w ∧ v.Fits ∧ w.Fits
  faults : ∀ (σ : Kind) (f : Fault) (k : Stack ρ σ) (s : State), x = .fault f k s →
    f ≠ .noType ∧ f ≠ .noValue ∧ f ≠ .noInput ∧ ∀ both, f ≠ .missingText both

private theorem size_of_reaches {P : Config ρ → Prop} (h : Reaches c P x y) :
    x.state.cells.size ≤ y.state.cells.size := by
  induction h with
  | refl => exact Nat.le_refl _
  | tail _ move ih => exact Nat.le_trans ih (changes_step move.2).size

end Config

open Config

private theorem cells_of_force {fuel : Nat} {cell : CellId} {c : Context} {s s' : State} {v : Value}
    (forced : force fuel cell c s = .ok (.value (some v)) s') :
    (s'.cells[cell]?).getD (.value .nil) = .value v := by
  cases fuel with
  | zero => cases forced
  | succ fuel =>
    rw [force, Comp.bind_eq_ok] at forced
    obtain ⟨content, s₁, looked, rest⟩ := forced
    cases looked
    cases content : (s.cells[cell]?).getD (.value .nil) with
    | value w =>
      rw [content] at rest
      cases rest
      exact content
    | thunk e i =>
      have bound : cell < s.cells.size := by
        refine Nat.lt_of_not_le fun outside => ?_
        rw [Array.getElem?_eq_none outside] at content
        cases content
      rw [content] at rest
      simp only [Comp.bind_eq_ok, Comp.step_apply, Comp.modify_apply] at rest
      obtain ⟨focus, s₂, entered, result, s₃, evaluated, _, s₄, restored, rest⟩ := rest
      cases entered
      cases restored
      have reached := reaches_perform (ρ := .value) (.eval e) .nil _ _
        (by rw [Task.perform, evaluated]; rfl)
      have grown : s.cells.size ≤ s₃.cells.size := size_of_reaches reached
      have still : cell < s₃.cells.size := Nat.lt_of_lt_of_le bound grown
      rcases result with (_ | w) | exception
      · cases rest
      · cases rest
        simp [still]
      · cases rest

section Program

variable {program : Program} {setup : Setup} {channels : Channels}

/-- A program without objects whose run never reads when the given inputs are used up. -/
structure Program.Fed (program : Program) (setup : Setup) (channels : Channels) : Prop where
  plain : program.plain = true
  moments : ∀ x : Config .cell, Reaches (program.context setup) Any (first channels) x →
    x.fed setup = true

private theorem Program.Fed.plain_of_reaches (fed : program.Fed setup channels) {x : Config .cell}
    (hx : Reaches (program.context setup) Any (first channels) x) : x.Plain := by
  induction hx with
  | refl => exact ⟨rfl, trivial, State.plain_initial channels⟩
  | tail reached move ih =>
    have admits := admits_of_fed (c := program.context setup) (fed.moments _ reached)
    refine admits.plain_step (List.all_eq_true.mp fed.plain) (fun fails => ?_) ih move.2
    cases fails with
    | divisionByZero zero => exact zero

private theorem Program.Fed.fails_of_reaches (fed : program.Fed setup channels) {f : Fault}
    {k : Stack .cell σ} {s : State}
    (stopped : Reaches (program.context setup) Any (first channels) (.fault f k s)) :
    ∃ x : Config .cell, x.Fails f := by
  obtain ⟨x, τ, below, hx, calm, step, _⟩ := exists_origin rfl stopped rfl
  have admits := admits_of_fed (c := program.context setup) (fed.moments x hx)
  rcases admits.step (List.all_eq_true.mp fed.plain) calm (fed.plain_of_reaches hx) step with
    ⟨_, calm'⟩ | ⟨τ', k', f', s', fails, fault⟩
  · cases calm'
  · cases fault
    exact ⟨x, fails⟩

theorem Program.Fed.typed_of_reaches (fed : program.Fed setup channels) {x : Config .cell}
    (hx : Reaches (program.context setup) Any (first channels) x) : x.Typed := by
  have plain := fed.plain_of_reaches hx
  refine ⟨fun calm j v content => ?_, fun σ exception k s here => ?_,
    fun op left right k s here => ?_, fun σ f k s here => ?_⟩
  · cases x with
    | run t k s => exact plain.2.2.fits content
    | done a k s => exact plain.2.2.fits content
    | fault f k s => cases calm
  · subst here
    exact Kind.plain_raise plain.1
  · subst here
    obtain ⟨⟨w, right, givenR⟩, ⟨⟨v, left, givenL⟩, _⟩, _⟩ := plain
    exact ⟨v, w, left, right, Value.fits_iff.mpr givenL, Value.fits_iff.mpr givenR⟩
  · subst here
    obtain ⟨y, fails⟩ := fed.fails_of_reaches hx
    cases fails <;> simp

/-- In the run of a program without objects that never reads past the end of its inputs, an
evaluation hands back a value that fits its type, which for an exception is a string, and a cell
that has been forced holds the value that this has given. All moments of the run are typed. -/
theorem evaluated_values_fit_types (fed : program.Fed setup channels) :
    (∀ (e : Expr) (k : Stack .cell .value) (s : State),
      Reaches (program.context setup) Any (first channels) (.run (.eval e) k s) →
      ∀ (fuel : Nat) (a : Raising (Option Value)) (s' : State),
        eval fuel e (program.context setup) s = .ok a s' →
        (∃ v, a.handed = some v ∧ v.Fits) ∧
          (∀ exception, a = .raised exception → ∃ text, exception = some text) ∧
          ∀ (j : CellId) (v : Value), s'.cells[j]? = some (.value v) → v.Fits) ∧
    (∀ (cell : CellId) (k : Stack .cell .value) (s : State),
      Reaches (program.context setup) Any (first channels) (.run (.force cell) k s) →
      ∀ (fuel : Nat) (v : Value) (s' : State),
        force fuel cell (program.context setup) s = .ok (.value (some v)) s' →
        (s'.cells[cell]?).getD (.value .nil) = .value v ∧ v.Fits) ∧
    ∀ x, Reaches (program.context setup) Any (first channels) x → x.Typed := by
  have arrived : ∀ {t : Task .value} {k : Stack .cell .value} {s s' : State} {fuel : Nat}
      {a : Raising (Option Value)},
      Reaches (program.context setup) Any (first channels) (.run t k s) →
      t.perform fuel (program.context setup) s = .ok a s' →
      (Config.done (a : Kind.value.Answer) k s').Plain := by
    intro t k s s' fuel a hx performed
    have returned := reaches_perform t k s (.done a k s') (by rw [performed]; rfl)
    exact fed.plain_of_reaches (hx.trans returned)
  refine ⟨fun e k s hx fuel a s' evaluated => ?_, fun cell k s hx fuel v s' forced => ?_,
    fun x hx => ?_⟩
  · obtain ⟨plainA, _, plainS⟩ := arrived (t := .eval e) hx evaluated
    refine ⟨Raising.fits_of_plain plainA, fun exception raised => ?_, fun j v => plainS.fits⟩
    subst raised
    exact Kind.plain_raise (σ := .value) plainA
  · obtain ⟨plainA, _, _⟩ := arrived (t := .force cell) hx forced
    obtain ⟨w, same, given⟩ := plainA
    cases same
    exact ⟨cells_of_force forced, Value.fits_iff.mpr given⟩
  · exact fed.typed_of_reaches hx

def greeting : Program where
  structs := []
  funcs := [
    ⟨"main", [], none,
      [.declare "name" none, .assign ⟨"name", .call "inputs" [.str "name?"]⟩,
        .attempt [.raise (.binary .add (.var "name") (.str "!"))]
          [⟨"x!", [.eval (.call "print" [.var "name"])]⟩]]⟩]

theorem evaluated_values_fit_types_greeting :
    greeting.Fed { inputs := #["x"] } {} ∧
    ∃ (k : Stack .cell .value) (s s' : State) (fuel : Nat),
      Reaches (greeting.context { inputs := #["x"] }) Any (first {})
        (.run (.eval (.binary .add (.var "name") (.str "!"))) k s) ∧
      eval fuel (.binary .add (.var "name") (.str "!")) (greeting.context { inputs := #["x"] }) s =
        .ok (.value (some (.str "x!"))) s' ∧
      ∀ (j : CellId) (v : Value), s'.cells[j]? = some (.value v) → v.Fits := by
  have finish : ∃ (a : Raising CellId) (s : State),
      walk (greeting.context { inputs := #["x"] }) (Config.fed { inputs := #["x"] }) 48 (first {}) =
        some (.done (a : Kind.cell.Answer) .nil s) := ⟨_, _, rfl⟩
  have moment : ∃ (k : Stack .cell .value) (s s' : State),
      after (greeting.context { inputs := #["x"] }) 13 (first {}) =
        some (.run (.eval (.binary .add (.var "name") (.str "!"))) k s) ∧
      after (greeting.context { inputs := #["x"] }) 13
          (.run (.eval (.binary .add (.var "name") (.str "!"))) .nil s) =
        some (.done (.value (some (.str "x!")) : Kind.value.Answer)
          (.nil : Stack .value .value) s') :=
    ⟨_, _, _, rfl, rfl⟩
  obtain ⟨a, last, finished⟩ := finish
  obtain ⟨k, s, s', arrived, returned⟩ := moment
  have fed : greeting.Fed { inputs := #["x"] } {} :=
    ⟨rfl, fun _ hx => forall_of_walk finished rfl rfl hx⟩
  have hx := reaches_of_after arrived
  obtain ⟨fuel, enough⟩ : ∃ fuel, ∀ more, fuel ≤ more →
      eval more (.binary .add (.var "name") (.str "!")) (greeting.context { inputs := #["x"] }) s =
        .ok (.value (some (.str "x!"))) s' :=
    perform_of_reaches_last (t := .eval _) (reaches_of_after returned) rfl
  have evaluated := enough fuel (Nat.le_refl fuel)
  obtain ⟨values, _, _⟩ := evaluated_values_fit_types fed
  exact ⟨fed, k, s, s', fuel, hx, evaluated, (values _ k s hx fuel _ s' evaluated).2.2⟩

end Program

end CallByNeed.Language
