set_option autoImplicit false
set_option relaxedAutoImplicit false

/-!
Numbers written in bases up to sixteen, and characters by their numbers.
-/

namespace CallByNeed.Text

def baseDigit? (base : Nat) (c : Char) : Option Nat :=
  let value :=
    if '0' ≤ c ∧ c ≤ '9' then some (c.toNat - '0'.toNat)
    else if 'a' ≤ c ∧ c ≤ 'f' then some (c.toNat - 'a'.toNat + 10)
    else if 'A' ≤ c ∧ c ≤ 'F' then some (c.toNat - 'A'.toNat + 10)
    else none
  value.filter (· < base)

def baseNumber? (base : Nat) (digits : List Char) : Option Nat :=
  digits.foldl (fun n c => do return (← n) * base + (← baseDigit? base c)) (some 0)

def charOf? (n : Nat) : Option Char :=
  if h : n.isValidChar then some (Char.ofNatAux n h) else none

end CallByNeed.Text
