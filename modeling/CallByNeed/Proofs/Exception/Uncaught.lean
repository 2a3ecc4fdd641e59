import CallByNeed.Proofs.Exception.Count
import CallByNeed.Proofs.Heap.Discipline

set_option autoImplicit false
set_option relaxedAutoImplicit false

/-!
Exceptions that nothing catches. Such an exception stops the run if no catcher has been entered
before. From the first catcher on it no longer does: the run then goes on to its end, and the main
function gives the exception as if it were a result.
-/

namespace CallByNeed.Language

variable {ρ σ τ : Kind}

/-- The exception that a value is when it is raised. -/
def Value.exception? : Value → Option (Option String)
  | .str s => some (some s)
  | .missing => some none
  | _ => none

namespace Config

variable {c : Context} {x y : Config ρ}

/-- A `raise` statement has evaluated its operand. -/
def raise (v : Value) (k : Stack ρ .flow) (s : State) : Config ρ :=
  .done (σ := .value) (.value (some v)) (.cons .throw k) s

def NoCatch (x : Config ρ) : Prop := ¬ x.Catches

private theorem counted_of_noCatch {d : Nat} (h : Reaches c NoCatch x y) (counted : x.Counted d) :
    y.Counted d := by
  induction h with
  | refl => exact counted
  | tail _ move ih =>
    rcases counted_step ih move.2 with ⟨_, same⟩ | ⟨catches, _⟩
    · exact same
    · exact absurd catches move.1

private theorem reaches_noCatch_or {d : Nat} (h : Reaches c Any x y) (counted : x.Counted d) :
    Reaches c NoCatch x y ∨ ∃ d', d < d' ∧ y.Counted d' := by
  induction h with
  | refl => exact .inl .refl
  | tail _ move ih =>
    rcases ih with quiet | ⟨d', more, counted'⟩
    · rcases counted_step (counted_of_noCatch quiet counted) move.2 with ⟨none, _⟩ | ⟨_, counts⟩
      · exact .inl (quiet.tail none move.2)
      · exact .inr ⟨d + 1, Nat.lt_succ_self d, counts⟩
    · rcases counted_step counted' move.2 with ⟨_, counts⟩ | ⟨_, counts⟩
      · exact .inr ⟨d', more, counts⟩
      · exact .inr ⟨d' + 1, Nat.lt_succ_of_lt more, counts⟩

/-- Nothing but an exception or a fault on its way. -/
def Doomed : Config ρ → Prop
  | .run _ _ _ => False
  | @done _ σ a _ _ => ∃ exception, a = σ.raise exception
  | .fault f _ _ => f ≠ .divisionByZero

private theorem doomed_step (doomed : x.Doomed) (quiet : x.NoCatch) (h : x.step c = some y) :
    y.Doomed := by
  cases x with
  | run t k s => exact doomed.elim
  | done a k s =>
    obtain ⟨exception, rfl⟩ := doomed
    cases k with
    | nil => simp [step] at h
    | cons p k =>
      have passes : p.Passes exception := by
        cases p with
        | handle catchers =>
          cases found : catchers.find? (fun c => some c.exception = exception) with
          | none => exact found
          | some catcher => exact absurd (.intro found) quiet
        | _ => trivial
      rw [step_passed p passes] at h
      split at h
      · obtain rfl := Option.some.inj h
        simp [Doomed]
      · split at h
        · obtain rfl := Option.some.inj h
          exact ⟨exception, rfl⟩
        · obtain rfl := Option.some.inj h
          simp [Doomed]
  | fault f k s =>
    cases k with
    | nil => simp [step] at h
    | cons p k =>
      obtain rfl := Option.some.inj h
      unfold escape
      split
      · exact absurd rfl doomed
      · exact doomed

/-- A division by zero that is turned into an exception has no other way on than to a catcher. -/
theorem reaches_untrapped_or_doomed (h : Reaches c NoCatch x y) :
    Reaches c Untrapped x y ∨ y.Doomed := by
  induction h with
  | refl => exact .inl .refl
  | @tail y z _ move ih =>
    rcases ih with clean | doomed
    · by_cases traps : y.TrapsZero
      · refine .inr ?_
        cases y with
        | run t k s => exact traps.elim
        | done a k s => exact traps.elim
        | fault f k s =>
          cases k with
          | nil => cases f <;> exact traps.elim
          | cons p k =>
            obtain rfl := Option.some.inj move.2
            cases p with
            | handle catchers =>
              cases f with
              | divisionByZero => exact ⟨some "div0", rfl⟩
              | _ => exact traps.elim
            | _ => cases f <;> exact absurd traps (by simp [TrapsZero, Pending.trap?])
      · exact .inl (clean.tail traps move.2)
    · exact .inr (doomed_step doomed move.1 move.2)

end Config

section Program

open Config

variable {program : Program} {setup : Setup} {channels : Channels}

private theorem reaches_based {c : Context} {x : Config .cell}
    (h : Reaches c Any (first channels) x) : x.Based := by
  induction h with
  | refl => exact based_first channels
  | tail _ move ih => exact based_step ih move.2

theorem step_raise {c : Context} {v : Value} {exception : Option String}
    {k : Stack .cell .flow} {s : State} (raises : v.exception? = some exception) :
    (raise v k s).step c = some (.done (Kind.flow.raise exception) k s) := by
  cases v <;> simp [Value.exception?] at raises <;> subst raises <;> rfl

section Moment

variable {v : Value} {exception : Option String} {k : Stack .cell .flow} {s : State}
  (raises : v.exception? = some exception) (passes : k.Passes exception)

include raises passes

/-- Before a catcher has been entered an exception without a catcher stops the run. -/
theorem ends_uncaught_of_noCatch
    (moment : Reaches (program.context setup) NoCatch (first channels) (.raise v k s)) :
    ∃ s', program.Ends setup channels (.stop (.language .uncaught) s') := by
  have counted : s.tryDepth = k.tries := by
    simpa [raise, Counted] using counted_of_noCatch moment (counted_first channels)
  have clean : Reaches (program.context setup) Untrapped (first channels) (.raise v k s) := by
    rcases reaches_untrapped_or_doomed moment with clean | ⟨exception, raised⟩
    · exact clean
    · cases raised
  have on_way := clean.tail id (step_raise raises)
  rcases reaches_raise passes (c := program.context setup) (by omega : k.tries ≤ s.tryDepth) with
    ⟨s', _, deeper⟩ | ⟨s', reached, _⟩ | ⟨fault, s', reached⟩
  · have based : k.Based := (reaches_based (moment.any)).2
    have checks := based.checks (Stack.not_isNil_of_ne (by decide))
    have := deeper checks
    omega
  · exact ⟨s', Program.ends_stop_iff.mpr (on_way.trans reached).any⟩
  · have regular : Fault.Regular (.scope fault) := discipline_holds (on_way.trans reached)
    exact absurd rfl (regular fault)

/-- From the first catcher on an exception without a catcher goes past the main function. -/
theorem ends_raised_of_catch
    (moment : Reaches (program.context setup) Any (first channels) (.raise v k s))
    (caught : ¬ Reaches (program.context setup) NoCatch (first channels) (.raise v k s)) :
    (∃ s', program.Ends setup channels (.ok (.raised exception) s')) ∨
      ∃ fault s', program.Ends setup channels (.stop (.scope fault) s') := by
  obtain quiet | ⟨d, more, counted⟩ := reaches_noCatch_or moment (counted_first channels)
  · exact absurd quiet caught
  have counted : s.tryDepth = k.tries + d := by simpa [raise, Counted] using counted
  have on_way := moment.tail trivial (step_raise raises)
  rcases reaches_raise passes (c := program.context setup) (by omega : k.tries ≤ s.tryDepth) with
    ⟨s', reached, _⟩ | ⟨s', _, none⟩ | ⟨fault, s', reached⟩
  · exact .inl ⟨s', Program.ends_ok_iff.mpr (on_way.trans reached.any)⟩
  · omega
  · exact .inr ⟨fault, s', Program.ends_stop_iff.mpr (on_way.trans reached.any)⟩

end Moment

private theorem exists_catches_of_ends_raised {exception : Option String} {s : State}
    (ends : program.Ends setup channels (.ok (.raised exception) s)) :
    ∃ x, Reaches (program.context setup) Any (first channels) x ∧ x.Catches := by
  have last := Program.ends_ok_iff.mp ends
  rcases Relation.ReflTransGen.cases_tail last with same | ⟨x, reached, _, step⟩
  · cases same
  · obtain ⟨s₀, rfl, counts⟩ := counts_of_step_to_raised (reaches_based reached) step
    rcases Reaches.met_or_not reached Catches with caught | quiet
    · exact caught
    · exact absurd (counted_of_noCatch quiet (counted_first channels)) counts

/-- A raised exception for which no `try` body has a catcher stops the run exactly if no catcher has
been entered before. Otherwise the run ends with the exception or with a fault of the scopes, and
only then can the main function give an exception. -/
theorem uncaught_exception_stops_iff_no_catch (program : Program) (setup : Setup)
    (channels : Channels) :
    (∀ (v : Value) (exception : Option String) (k : Stack .cell .flow) (s : State),
      Reaches (program.context setup) Any (first channels) (.raise v k s) →
      v.exception? = some exception → k.Passes exception →
      ((∃ s', program.Ends setup channels (.stop (.language .uncaught) s')) ↔
        Reaches (program.context setup) NoCatch (first channels) (.raise v k s)) ∧
      (¬ Reaches (program.context setup) NoCatch (first channels) (.raise v k s) →
        (∃ s', program.Ends setup channels (.ok (.raised exception) s')) ∨
          ∃ fault s', program.Ends setup channels (.stop (.scope fault) s'))) ∧
    ∀ (exception : Option String) (s : State),
      program.Ends setup channels (.ok (.raised exception) s) →
        ∃ x, Reaches (program.context setup) Any (first channels) x ∧ x.Catches := by
  refine ⟨fun v exception k s moment raises passes => ⟨⟨?_, ?_⟩, ?_⟩, fun _ _ ends =>
    exists_catches_of_ends_raised ends⟩
  · rintro ⟨s', stops⟩
    refine Classical.byContradiction fun caught => ?_
    rcases ends_raised_of_catch raises passes moment caught with ⟨s'', ends⟩ | ⟨fault, s'', ends⟩
    · cases stops.unique ends
    · cases stops.unique ends
  · exact ends_uncaught_of_noCatch raises passes
  · exact ends_raised_of_catch raises passes moment

/-- A program that raises an exception under two `try` bodies, which have catchers for others. -/
def raiserUnderTries : Program where
  structs := []
  funcs := [⟨"main", [], none,
    [.attempt
      [.attempt [.raise (.str "b")] [⟨"a", [.eval (.call "print" [.str "inner"])]⟩]]
      [⟨"c", [.eval (.call "print" [.str "outer"])]⟩, ⟨"d", [.ret none]⟩]]⟩]

theorem uncaught_exception_stops_under_tries :
    (∃ k s, Reaches (raiserUnderTries.context {}) NoCatch (first {}) (.raise (.str "b") k s) ∧
      k.Passes (some "b") ∧ k.tries = 2 ∧ s.tryDepth = 2) ∧
    ∃ s, raiserUnderTries.Ends {} {} (.stop (.language .uncaught) s) := by
  have reached : ∃ k s, after (raiserUnderTries.context {}) 11 (first {}) =
      some (.raise (.str "b") k s) ∧ k.Passes (some "b") ∧ k.tries = 2 ∧ s.tryDepth = 2 :=
    ⟨_, _, rfl, by simp, rfl, rfl⟩
  obtain ⟨k, s, hafter, passes, tries, depth⟩ := reached
  have moment := reaches_of_after hafter
  have quiet : Reaches (raiserUnderTries.context {}) NoCatch (first {}) (.raise (.str "b") k s) := by
    rcases reaches_noCatch_or moment (counted_first {}) with quiet | ⟨d, more, counted⟩
    · exact quiet
    · have counted : s.tryDepth = k.tries + d := by simpa [raise, Counted] using counted
      omega
  have stops := (uncaught_exception_stops_iff_no_catch raiserUnderTries {} {}).1 (.str "b")
    (some "b") k s moment rfl passes
  exact ⟨⟨k, s, quiet, passes, tries, depth⟩, stops.1.mpr quiet⟩

/-- A program whose main function catches one exception and then raises another. -/
def catcherThenRaiser : Program where
  structs := []
  funcs := [⟨"main", [], none,
    [.attempt [.raise (.str "a")] [⟨"a", [.eval (.call "print" [.str "caught"])]⟩],
      .raise (.str "b")]⟩]

theorem uncaught_exception_goes_on :
    (∃ k s, Reaches (catcherThenRaiser.context {}) Any (first {}) (.raise (.str "b") k s) ∧
      k.Passes (some "b")) ∧
    (∃ s, catcherThenRaiser.Ends {} {} (.ok (.raised (some "b")) s) ∧
      s.channels.output = #[some "caught"]) ∧
    ∀ f s, ¬ catcherThenRaiser.Ends {} {} (.stop f s) := by
  have ends : ∃ s, after (catcherThenRaiser.context {}) 33 (first {}) =
      some (.done (.raised (some "b") : Kind.cell.Answer) .nil s) ∧
      s.channels.output = #[some "caught"] := ⟨_, rfl, rfl⟩
  obtain ⟨s, after, output⟩ := ends
  have ends := Program.ends_ok_iff.mpr (reaches_of_after after)
  exact ⟨⟨_, _, reaches_of_after (n := 29) rfl, by simp⟩, ⟨s, ends, output⟩,
    fun f s' stops => by cases stops.unique ends⟩

end Program

end CallByNeed.Language
