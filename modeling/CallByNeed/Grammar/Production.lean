import CallByNeed.Grammar.RuleLine

set_option autoImplicit false
set_option relaxedAutoImplicit false

/-!
The rules of a grammar, with the precedences that settle conflicts between them.
-/

namespace CallByNeed.Grammar

inductive Associativity where
  | left
  | right
  | nonassoc
deriving DecidableEq, Repr, Inhabited

def Associativity.text : Associativity → String
  | .left => "left"
  | .right => "right"
  | .nonassoc => "nonassoc"

def Associativity.ofText? : String → Option Associativity
  | "left" => some .left
  | "right" => some .right
  | "nonassoc" => some .nonassoc
  | _ => none

/-- An associativity and a level; a higher level binds stronger. -/
structure Precedence where
  associativity : Associativity := .right
  level : Int := 0
deriving DecidableEq, Repr, Inhabited

structure Production where
  number : Nat
  name : String
  symbols : List String
  precedence : Precedence := {}
  /-- The name of the rule's action. -/
  action : Option String := none
  site : Site := ⟨"", 0⟩
deriving DecidableEq, Repr, Inhabited

def arrowText (name : String) (symbols : List String) : String :=
  name ++ " -> " ++ if symbols.isEmpty then "<empty>" else " ".intercalate symbols

def Production.text (p : Production) : String :=
  arrowText p.name p.symbols

/-- The elements of a list, each at its first place only. -/
def distinct {α : Type} [BEq α] (xs : List α) : List α :=
  xs.foldl (fun seen x => if seen.contains x then seen else seen ++ [x]) []

def Production.parts (p : Production) : List String :=
  distinct p.symbols

def startName : String := "S'"

def endMark : String := "$end"

def errorMark : String := "error"

/-- The mark of the empty text in sets of first symbols. -/
def emptyMark : String := "<empty>"

end CallByNeed.Grammar
