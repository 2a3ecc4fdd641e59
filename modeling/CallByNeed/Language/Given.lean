import CallByNeed.Text.Integer

set_option autoImplicit false
set_option relaxedAutoImplicit false

/-!
Values given from outside as plain data. The words for the truth values and for nil stand for those
values, and a plain truth value counts as an integer.
-/

namespace CallByNeed.Language

inductive Given where
  | int (n : Int)
  /-- A plain truth value, of integer type. -/
  | plainFlag (b : Bool)
  | bool (b : Bool)
  | str (s : String)
  | nil
deriving DecidableEq, Repr, Inhabited

def Given.ofText : String → Given
  | "true" => .bool true
  | "false" => .bool false
  | "nil" => .nil
  | s => .str s

def Given.typeName : Given → String
  | .int _ => "int"
  | .plainFlag _ => "int"
  | .bool _ => "bool"
  | .str _ => "string"
  | .nil => "nil"

/-- The text of a given value; nil has none. -/
def Given.printable : Given → Except Text.IntegerFault (Option String)
  | .int n => (Text.writeInteger n).map some
  | .plainFlag true => .ok (some "True")
  | .plainFlag false => .ok (some "False")
  | .bool true => .ok (some "true")
  | .bool false => .ok (some "false")
  | .str s => .ok (some s)
  | .nil => .ok none

def unknownValueMessage : String := "Unknown value type"

end CallByNeed.Language
