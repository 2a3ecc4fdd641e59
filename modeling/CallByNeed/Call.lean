import CallByNeed.Text.Quoted

set_option autoImplicit false
set_option relaxedAutoImplicit false

/-!
Calls with one argument, and why they fail. A function has to take exactly one argument; a method
also takes the object that it belongs to.
-/

namespace CallByNeed

inductive CallFault where
  /-- The function takes no argument. -/
  | noParameter (name : String) (isMethod : Bool)
  /-- The function takes some arguments more than the one it gets. -/
  | moreParameters (name : String) (more : Nat)
  /-- What is called is no function. -/
  | notCallable (kind : String)
deriving DecidableEq, Repr

def CallFault.ofArity? (name : String) (arity : Int) (isMethod : Bool) : Option CallFault :=
  if arity < 1 then some (.noParameter name isMethod)
  else if arity > 1 then some (.moreParameters name (arity - 1).toNat)
  else none

/-- The names of the parameters after the first, in the order of the alphabet. -/
def moreParameterNames (more : Nat) : List String :=
  (List.range more).map fun i => (Char.ofNat ('q'.toNat + i)).toString

def enumeration : List String → String
  | [] => ""
  | [only] => only
  | [first, second] => first ++ " and " ++ second
  | items => ", ".intercalate items.dropLast ++ ", and " ++ items.getLastD ""

def CallFault.message : CallFault → String
  | .noParameter name false => name ++ "() takes 0 positional arguments but 1 was given"
  | .noParameter name true => name ++ "() takes 1 positional argument but 2 were given"
  | .moreParameters name more =>
    name ++ "() missing " ++ toString more ++ " required positional argument" ++
      (if more = 1 then "" else "s") ++ ": " ++
      enumeration ((moreParameterNames more).map Text.quoted)
  | .notCallable kind => "'" ++ kind ++ "' object is not callable"

end CallByNeed
