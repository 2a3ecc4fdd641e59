set_option autoImplicit false
set_option relaxedAutoImplicit false

/-!
The tables that drive a shift-reduce parser, over any type `S` of grammar symbols.
-/

namespace CallByNeed.LR

inductive Action where
  | shift (state : Nat)
  | reduce (rule : Nat)
  | accept
deriving DecidableEq, Repr, Inhabited

structure RuleShape (S : Type) where
  /-- The symbol that the rule reduces to. -/
  head : S
  /-- How many symbols it takes. -/
  size : Nat
  /-- The rule as text. -/
  text : String
deriving Repr, Inhabited

structure Automaton (S : Type) where
  action : Nat → S → Option Action
  /-- The gotos of a state, if the state has a row of them. -/
  goto : Nat → Option (S → Option Nat)
  /-- The rule of a state that is reduced without a look at the next token. -/
  defaulted : Nat → Option Nat
  rule : Nat → Option (RuleShape S)
  /-- The symbol of the end of the input. -/
  endMark : S
  /-- The symbol of an error. -/
  error : S
  label : S → String

end CallByNeed.LR
