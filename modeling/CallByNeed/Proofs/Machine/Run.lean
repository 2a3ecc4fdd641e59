import CallByNeed.Proofs.Machine.Task
import Mathlib.Logic.Relation

set_option autoImplicit false
set_option relaxedAutoImplicit false

/-!
Runs, step by step. A configuration is a task that starts, an answer that is handed on, or a fault
on its way out, above a stack of pending steps. The moments of a run are the configurations that it
reaches, and what is going on at a moment stands in the stack: the `try` bodies and the deferred
expressions that are being evaluated.
-/

namespace CallByNeed.Language

/-- Pending steps, the innermost first, down to an answer of the kind `ρ`. -/
inductive Stack (ρ : Kind) : Kind → Type where
  | nil : Stack ρ ρ
  | cons {σ τ : Kind} (p : Pending σ τ) (k : Stack ρ τ) : Stack ρ σ

/-- The answer that a pending step takes instead of a division by zero, if it is the end of a `try`
body. -/
def Pending.trap? : {σ τ : Kind} → Pending σ τ → Option σ.Answer
  | _, _, .handle _ => some (.raised (some "div0"))
  | _, _, _ => none

/-- A moment of a run. -/
inductive Config (ρ : Kind) where
  /-- A task starts. -/
  | run {σ : Kind} (t : Task σ) (k : Stack ρ σ) (s : State)
  /-- An answer is handed on. -/
  | done {σ : Kind} (a : σ.Answer) (k : Stack ρ σ) (s : State)
  /-- A fault is on its way out. -/
  | fault {σ : Kind} (f : Fault) (k : Stack ρ σ) (s : State)

namespace Config

variable {ρ σ τ : Kind}

def state : Config ρ → State
  | .run _ _ s => s
  | .done _ _ s => s
  | .fault _ _ s => s

def follow (k : Stack ρ τ) : Next τ → State → Config ρ
  | .give a, s => .done a k s
  | .goto t, s => .run t k s
  | .enter t p, s => .run t (.cons p k) s

def proceed (k : Stack ρ τ) : Outcome (Next τ) → Option (Config ρ)
  | .ok next s => some (follow k next s)
  | .stop f s => some (.fault f k s)
  | .outOfFuel => none

def escape (f : Fault) (p : Pending σ τ) (k : Stack ρ τ) (s : State) : Config ρ :=
  match f, p.trap? with
  | .divisionByZero, some a => .done a (.cons p k) s
  | f, _ => .fault f k s

/-- The next moment; none after the last. -/
def step (c : Context) : Config ρ → Option (Config ρ)
  | .run t k s => proceed k (t.start c s)
  | .done a (.cons p k) s => proceed k (p.resume a c s)
  | .done _ .nil _ => none
  | .fault f (.cons p k) s => some (escape f p k s)
  | .fault _ .nil _ => none

theorem step_run {c : Context} {t : Task σ} {s s' : State} {next : Next σ}
    (h : t.start c s = .ok next s') (k : Stack ρ σ) :
    (run t k s).step c = some (follow k next s') := by
  simp only [step, h, proceed]

theorem step_done {c : Context} {p : Pending σ τ} {a : σ.Answer} {s s' : State} {next : Next τ}
    (h : p.resume a c s = .ok next s') (k : Stack ρ τ) :
    (done a (.cons p k) s).step c = some (follow k next s') := by
  simp only [step, h, proceed]

def Moves (c : Context) (P : Config ρ → Prop) (x y : Config ρ) : Prop :=
  P x ∧ x.step c = some y

/-- A later moment, or the same one, with all moments before it having a property. -/
def Reaches (c : Context) (P : Config ρ → Prop) : Config ρ → Config ρ → Prop :=
  Relation.ReflTransGen (Moves c P)

def Any (_ : Config ρ) : Prop := True

/-- A division by zero has come to the end of a `try` body, which turns it into an exception. -/
def TrapsZero : Config ρ → Prop
  | .fault .divisionByZero (.cons p _) _ => p.trap? ≠ none
  | _ => False

/-- A moment that is no turning of a division by zero into an exception. -/
def Untrapped (x : Config ρ) : Prop := ¬ x.TrapsZero

theorem escape_of_untrapped {f : Fault} {p : Pending σ τ} {k : Stack ρ τ} {s : State}
    (untrapped : (fault f (.cons p k) s).Untrapped) : escape f p k s = .fault f k s := by
  unfold escape
  cases f with
  | divisionByZero =>
    cases trap : p.trap? with
    | none => rfl
    | some a => exact absurd (by simp [TrapsZero, trap]) untrapped
  | _ => rfl

def first (channels : Channels) : Config .cell :=
  .run (.call "main" []) .nil (State.initial channels)

end Config

def Program.context (program : Program) (setup : Setup) : Context :=
  ⟨setup, program.funcs⟩

end CallByNeed.Language
