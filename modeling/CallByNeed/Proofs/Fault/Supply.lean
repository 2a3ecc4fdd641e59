import CallByNeed.Proofs.Exception.Unwind
import CallByNeed.Proofs.Fault.Plain

set_option autoImplicit false
set_option relaxedAutoImplicit false

/-!
Runs that are supplied with what they ask for: a fitting input whenever one is read, and no integer
too long to be written. What is plain stays so from moment to moment, a division by zero included,
since it leaves everything as it is.
-/

namespace CallByNeed.Language

variable {ρ σ τ : Kind}

namespace Config

variable {c : Context} {x y : Config ρ}

/-- The number of `try` bodies that are being executed at a moment. -/
def tries : Config ρ → Nat
  | .run _ k _ => k.tries
  | .done _ k _ => k.tries
  | .fault _ k _ => k.tries

/-- Whether an input is about to be read, and then whether it is an integer. -/
def reads? : Config ρ → Option Bool
  | .run t _ _ => t.reads?
  | .done a (.cons p _) _ => p.reads? a
  | _ => none

def writes? : Config ρ → Option Int
  | .done a (.cons p _) _ => p.writes? a
  | _ => none

def printsNil : Config ρ → Bool
  | .done a (.cons p _) _ => p.printsNil a
  | _ => false

def dividesByZero : Config ρ → Bool
  | .done a (.cons p _) _ => p.dividesByZero a
  | _ => false

/-- An input that is about to be read is there and fits, and an integer that is about to be
converted to text is not too long. -/
def supplied (c : Context) (x : Config ρ) : Bool :=
  (x.reads?.all fun asInteger => x.state.channels.provides c.setup asInteger) &&
    x.writes?.all fun n => n.natAbs < Text.writeBound

/-- What creates no object and has no missing value at a moment. -/
def Plain : Config ρ → Prop
  | .run t k s => t.Plain ∧ k.Plain ∧ s.Plain
  | @done _ σ a k s => σ.Plain a ∧ k.Plain ∧ s.Plain
  | .fault f k s => f = .divisionByZero → k.Plain ∧ s.Plain

/-- What can stop a plain run at a moment. -/
inductive Stops (x : Config ρ) : Fault → Prop where
  | language (e : LanguageError) : Stops x (.language e)
  | scope (failure : ScopeFault) : Stops x (.scope failure)
  | noText (nil : x.printsNil = true) : Stops x .noText
  | divisionByZero (zero : x.dividesByZero = true) : Stops x .divisionByZero

private theorem plain_follow {k : Stack ρ τ} {next : Next τ} {s : State} (plainK : k.Plain)
    (steady : Steady next s) : (follow k next s).Plain := by
  cases next with
  | give a => exact ⟨steady.1, plainK, steady.2⟩
  | goto t => exact ⟨steady.1, plainK, steady.2⟩
  | enter t p => exact ⟨steady.1.1, ⟨steady.1.2, plainK⟩, steady.2⟩

private theorem plain_proceed {k : Stack ρ τ} {z : Comp (Next τ)} {s : State} {F : Fault → Prop}
    (plainK : k.Plain) (ensured : z.Ensures c s F Steady) (h : proceed k (z c s) = some y) :
    y.Plain ∧ y.calm = true ∨ ∃ f s', F f ∧ y = .fault f k s' := by
  rcases ensured.proceed h with ⟨next, s', steady, rfl⟩ | stopped
  · refine .inl ⟨plain_follow plainK steady, ?_⟩
    cases next <;> rfl
  · exact .inr stopped

/-- What stops the step of a plain moment is admitted. -/
structure Admits (c : Context) (F : Fault → Prop) (x : Config ρ) : Prop where
  language : ∀ e, F (.language e)
  scope : ∀ failure, F (.scope failure)
  reads : ∀ asInteger, x.reads? = some asInteger →
    (∀ n, x.writes? = some n → n.natAbs < Text.writeBound) →
    x.state.channels.Feeds F c.setup asInteger
  writes : ∀ n, x.writes? = some n → n.natAbs < Text.writeBound ∨ ∀ fault, F (.integer fault)
  nil : x.printsNil = true → F .noText
  zero : x.dividesByZero = true → F .divisionByZero

theorem Admits.step {F : Fault → Prop} (admits : x.Admits c F)
    (funcs : ∀ func ∈ c.funcs, Stmt.allPlain func.body = true) (calm : x.calm = true)
    (plain : x.Plain) (h : x.step c = some y) :
    y.Plain ∧ y.calm = true ∨ ∃ (τ : Kind) (k : Stack ρ τ) (f : Fault) (s : State),
      F f ∧ y = .fault f k s := by
  obtain ⟨language, scope, reads, writes, nil, zero⟩ := admits
  cases x with
  | run t k s =>
    obtain ⟨plainT, plainK, plainS⟩ := plain
    have ensured : t.start.Ensures c s F Steady :=
      steady_start scope language plainS funcs plainT fun asInteger asks =>
        reads asInteger asks fun _ none => by cases none
    rcases plain_proceed plainK ensured h with next | ⟨f, s', stops, rfl⟩
    · exact .inl next
    · exact .inr ⟨_, k, f, s', stops, rfl⟩
  | done a k s =>
    cases k with
    | nil => simp [Config.step] at h
    | cons p k =>
      obtain ⟨plainA, ⟨plainP, plainK⟩, plainS⟩ := plain
      have ensured : (p.resume a).Ensures c s F Steady :=
        steady_resume scope language plainS plainP plainA reads writes nil zero
      rcases plain_proceed plainK ensured h with next | ⟨f, s', stops, rfl⟩
      · exact .inl next
      · exact .inr ⟨_, k, f, s', stops, rfl⟩
  | fault f k s => cases calm

private theorem admits_of_supplied (supplied : x.supplied c = true) : x.Admits c x.Stops := by
  rw [Config.supplied, Bool.and_eq_true, Option.all_eq_true, Option.all_eq_true] at supplied
  obtain ⟨provided, short⟩ := supplied
  refine ⟨.language, .scope, fun asInteger reads _ => ?_, fun n writes => ?_, .noText,
    .divisionByZero⟩
  · exact Channels.feeds_of_provides (provided asInteger reads)
  · exact .inl (of_decide_eq_true (short n writes))

theorem calm_step (funcs : ∀ func ∈ c.funcs, Stmt.allPlain func.body = true) (calm : x.calm = true)
    (plain : x.Plain) (supplied : x.supplied c = true) (h : x.step c = some y) :
    y.Plain ∧ y.calm = true ∨ ∃ (τ : Kind) (k : Stack ρ τ) (f : Fault) (s : State),
      x.Stops f ∧ y = .fault f k s :=
  (admits_of_supplied supplied).step funcs calm plain h

theorem step_of_dividesByZero (zero : x.dividesByZero = true) :
    ∃ below : Stack ρ .value, x.step c = some (.fault .divisionByZero below x.state) ∧
      below.tries = x.tries ∧ (x.Plain → below.Plain ∧ x.state.Plain) := by
  cases x with
  | run t k s => cases zero
  | fault f k s => cases zero
  | done a k s =>
    cases k with
    | nil => cases zero
    | cons p k =>
      cases p with
      | binary op left =>
        simp only [dividesByZero] at zero
        unfold Pending.dividesByZero at zero
        split at zero
        · next m n _ _ same =>
          cases same
          obtain rfl : n = 0 := of_decide_eq_true zero
          exact ⟨k, rfl, (Nat.zero_add k.tries).symm, fun plain => ⟨plain.2.1.2, plain.2.2⟩⟩
        · cases zero
      | _ => cases zero

theorem step_of_printsNil (nil : x.printsNil = true) :
    ∃ below : Stack ρ .text, x.step c = some (.fault .noText below x.state) := by
  cases x with
  | run t k s => cases nil
  | fault f k s => cases nil
  | done a k s =>
    cases k with
    | nil => cases nil
    | cons p k =>
      cases p with
      | printRest args text =>
        simp only [printsNil] at nil
        unfold Pending.printsNil at nil
        split at nil
        · exact ⟨k, rfl⟩
        · cases nil
      | _ => cases nil

/-- What is plain stays so, if a division by zero is admitted only where there is one. -/
theorem Admits.plain_step {F : Fault → Prop} (admits : x.Admits c F)
    (funcs : ∀ func ∈ c.funcs, Stmt.allPlain func.body = true)
    (only : F .divisionByZero → x.dividesByZero = true) (plain : x.Plain)
    (h : x.step c = some y) : y.Plain := by
  cases calm : x.calm with
  | true =>
    rcases admits.step funcs calm plain h with ⟨plain', _⟩ | ⟨τ, k, f, s, stops, rfl⟩
    · exact plain'
    · intro division
      subst division
      obtain ⟨below, step, _, kept⟩ := step_of_dividesByZero (c := c) (only stops)
      cases step.symm.trans h
      exact kept plain
  | false =>
    cases x with
    | run t k s => cases calm
    | done a k s => cases calm
    | fault f k s =>
      cases k with
      | nil => simp [Config.step] at h
      | cons p k =>
        simp only [Config.step, Option.some.injEq] at h
        subst h
        unfold escape
        split
        · next a trap =>
          obtain ⟨plainK, plainS⟩ := plain rfl
          refine ⟨?_, plainK, plainS⟩
          cases p with
          | handle catchers =>
            cases trap
            exact Option.some_ne_none _
          | _ => cases trap
        · exact fun division => ⟨(plain division).1.2, (plain division).2⟩

end Config

section Runs

open Config

/-- A program without objects whose run is supplied with fitting inputs and writes no integer that
is too long. -/
structure Program.Supplied (program : Program) (setup : Setup) (channels : Channels) : Prop where
  plain : program.plain = true
  moments : ∀ x : Config .cell, Reaches (program.context setup) Any (first channels) x →
    x.supplied (program.context setup) = true

theorem Program.Supplied.plain_of_reaches {program : Program} {setup : Setup} {channels : Channels}
    (supplied : program.Supplied setup channels) {x : Config .cell}
    (hx : Reaches (program.context setup) Any (first channels) x) : x.Plain := by
  have funcs : ∀ func ∈ program.funcs, Stmt.allPlain func.body = true :=
    List.all_eq_true.mp supplied.plain
  induction hx with
  | refl => exact ⟨rfl, trivial, State.plain_initial channels⟩
  | tail reached move ih =>
    refine (admits_of_supplied (supplied.moments _ reached)).plain_step funcs ?_ ih move.2
    intro stops
    cases stops with
    | divisionByZero zero => exact zero

end Runs

end CallByNeed.Language
