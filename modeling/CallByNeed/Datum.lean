import CallByNeed.Text.Quoted

set_option autoImplicit false
set_option relaxedAutoImplicit false

/-!
Plain data as it comes from outside, before anything is known about its shape.
-/

namespace CallByNeed

inductive Datum where
  | null
  | flag (b : Bool)
  | number (n : Int)
  /-- A number with a fraction, by its digits. -/
  | decimal (digits : String)
  | text (s : String)
  | list (items : List Datum)
  /-- A list that cannot be changed. -/
  | tuple (items : List Datum)
  | record (fields : List (String × Datum))
deriving Inhabited

namespace Datum

def kind : Datum → String
  | .null => "NoneType"
  | .flag _ => "bool"
  | .number _ => "int"
  | .decimal _ => "float"
  | .text _ => "str"
  | .list _ => "list"
  | .tuple _ => "tuple"
  | .record _ => "dict"

def isNull : Datum → Bool
  | .null => true
  | _ => false

/-- Whether a datum counts as something: it is not null, false, zero or empty. -/
def isSome : Datum → Bool
  | .null => false
  | .flag b => b
  | .number n => n != 0
  | .decimal digits => digits.toList.any fun c => '1' ≤ c ∧ c ≤ '9'
  | .text s => !s.isEmpty
  | .list items => !items.isEmpty
  | .tuple items => !items.isEmpty
  | .record fields => !fields.isEmpty

def items? : Datum → Option (List Datum)
  | .list items => some items
  | .tuple items => some items
  | _ => none

def text? : Datum → Option String
  | .text s => some s
  | _ => none

mutual

def quoted : Datum → String
  | .null => "None"
  | .flag b => if b then "True" else "False"
  | .number n => toString n
  | .decimal digits => digits
  | .text s => Text.quoted s
  | .list items => "[" ++ ", ".intercalate (quotedItems items) ++ "]"
  | .tuple [item] => "(" ++ item.quoted ++ ",)"
  | .tuple items => "(" ++ ", ".intercalate (quotedItems items) ++ ")"
  | .record fields => "\x7b" ++ ", ".intercalate (quotedFields fields) ++ "\x7d"

def quotedItems : List Datum → List String
  | [] => []
  | item :: rest => item.quoted :: quotedItems rest

def quotedFields : List (String × Datum) → List String
  | [] => []
  | (name, item) :: rest => (Text.quoted name ++ ": " ++ item.quoted) :: quotedFields rest

end

/-- A datum as a message shows it: a text as it is, and anything else by its shape. -/
def shown : Datum → String
  | .text s => s
  | d => d.quoted

/-- The parts that a walk through a datum meets: the items of a list, the characters of a text, the
names of a record. -/
def parts? : Datum → Option (List Datum)
  | .text s => some (s.toList.map fun c => .text c.toString)
  | .record fields => some (fields.map fun field => .text field.1)
  | d => d.items?

def comparable : Datum → Datum → Bool
  | .text _, .text _ => true
  | .list _, .list _ => true
  | .tuple _, .tuple _ => true
  | .number _, .number _ | .number _, .flag _ | .number _, .decimal _ => true
  | .flag _, .number _ | .flag _, .flag _ | .flag _, .decimal _ => true
  | .decimal _, .number _ | .decimal _, .flag _ | .decimal _, .decimal _ => true
  | _, _ => false

/-- Whether one datum stands before another or with it: numbers by size, anything else by its
text. -/
def atMost : Datum → Datum → Bool
  | .number m, .number n => m ≤ n
  | a, b => a.shown ≤ b.shown

/-- Whether a datum can be an element of a set: lists and records can be changed and cannot. -/
def isFixed : Datum → Bool
  | .list _ | .record _ => false
  | _ => true

/-- The first datum that cannot be put in order with the first of a list, and that first one. -/
def disorder? : List Datum → Option (Datum × Datum)
  | [] => none
  | first :: rest => (rest.find? fun d => !d.comparable first).map fun d => (d, first)

end Datum

end CallByNeed
