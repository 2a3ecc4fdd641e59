import CallByNeed.Language.Ast
import CallByNeed.Text.Integer

set_option autoImplicit false
set_option relaxedAutoImplicit false

/-!
Values of the language and its operators.

An operator other than the two equalities needs operands of one type and must be defined on it.
Equality takes any operands. Two strings are compared by their text, and the string that input past
its end gives has no text, as nil has none.
-/

namespace CallByNeed.Language

inductive Value where
  | int (n : Int)
  | bool (b : Bool)
  | str (s : String)
  /-- The string without a text that input past its end gives. -/
  | missing
  | nil
deriving DecidableEq, Repr, Inhabited

inductive ValueType where
  | int | bool | string | nil
deriving DecidableEq, Repr, Inhabited

def ValueType.text : ValueType → String
  | .int => "int"
  | .bool => "bool"
  | .string => "string"
  | .nil => "nil"

def Value.type : Value → ValueType
  | .int _ => .int
  | .bool _ => .bool
  | .str _ => .string
  | .missing => .string
  | .nil => .nil

/-- The text of a value when it is printed; nil and the missing string have none. -/
def Value.printable : Value → Except Text.IntegerFault (Option String)
  | .int n => (Text.writeInteger n).map some
  | .bool true => .ok (some "true")
  | .bool false => .ok (some "false")
  | .str s => .ok (some s)
  | .missing => .ok none
  | .nil => .ok none

/-- Equality as a value on the left decides it. -/
def Value.equals : Value → Value → Bool
  | .int a, .int b => a = b
  | .bool a, .bool b => a = b
  | .str a, .str b => a = b
  | .missing, .missing => true
  | .missing, .nil => true
  | .nil, .nil => true
  | _, _ => false

inductive OperatorFault where
  /-- The operands are of different types. -/
  | types (left right : ValueType)
  /-- The operator is not defined on the type. -/
  | undefinedOn (type : ValueType)
  /-- The left string has no text. -/
  | missingLeft (right : Value)
  /-- The right string has no text. -/
  | missingRight
  | divisionByZero
deriving DecidableEq, Repr

def intOp (a b : Int) : BinaryOp → Except OperatorFault Value
  | .add => .ok (.int (a + b))
  | .sub => .ok (.int (a - b))
  | .mul => .ok (.int (a * b))
  | .div => if b = 0 then .error .divisionByZero else .ok (.int (Int.fdiv a b))
  | .lt => .ok (.bool (a < b))
  | .le => .ok (.bool (a ≤ b))
  | .gt => .ok (.bool (a > b))
  | .ge => .ok (.bool (a ≥ b))
  | .eq => .ok (.bool (a = b))
  | .ne => .ok (.bool (a ≠ b))
  | .and | .or => .error (.undefinedOn .int)

def concat : Value → Value → Except OperatorFault Value
  | .str a, .str b => .ok (.str (a ++ b))
  | .str _, _ => .error .missingRight
  | _, b => .error (.missingLeft b)

def BinaryOp.apply (op : BinaryOp) (a b : Value) : Except OperatorFault Value :=
  match op with
  | .eq => .ok (.bool (a.equals b))
  | .ne => .ok (.bool !(a.equals b))
  | _ =>
    if a.type ≠ b.type then .error (.types a.type b.type)
    else match a, b, op with
      | .int a, .int b, _ => intOp a b op
      | .bool a, .bool b, .and => .ok (.bool (a && b))
      | .bool a, .bool b, .or => .ok (.bool (a || b))
      | .str _, _, .add => concat a b
      | .missing, _, .add => concat a b
      | _, _, _ => .error (.undefinedOn a.type)

/-- The result of a binary operator that its left operand alone decides. -/
def BinaryOp.shortCut? : BinaryOp → Value → Option Value
  | .and, .bool false => some (.bool false)
  | .or, .bool true => some (.bool true)
  | _, _ => none

/-- A unary operator on an evaluated operand; nothing if the operand is of another type. -/
def UnaryOp.apply? : UnaryOp → Value → Option Value
  | .neg, .int n => some (.int (-n))
  | .not, .bool b => some (.bool !b)
  | _, _ => none

end CallByNeed.Language
