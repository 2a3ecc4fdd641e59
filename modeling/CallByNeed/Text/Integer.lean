import CallByNeed.Text.Blank
import CallByNeed.Text.Digit
import CallByNeed.Text.Quoted

set_option autoImplicit false
set_option relaxedAutoImplicit false

/-!
Integers as text. An integer is written in decimal. It is read with blanks around it, one sign, and
single underscores between digits of any script. Neither direction goes beyond 4300 digits.
-/

namespace CallByNeed.Text

/-- The most digits that an integer may have when it is read or written. -/
def maxDigits : Nat := 4300

/-- Why a text is not read as an integer, or an integer not written as text. -/
inductive IntegerFault where
  /-- The text is not a written integer. -/
  | malformed (text : String)
  /-- The text has this many digits, more than the limit. -/
  | tooLongToRead (digits : Nat)
  /-- The integer has more digits than the limit. -/
  | tooLongToWrite
deriving DecidableEq, Repr, Inhabited

def shownLimit : Nat := 200

def IntegerFault.message : IntegerFault → String
  | .malformed text =>
    "invalid literal for int() with base 10: " ++
      String.ofList ((quoted text).toList.take shownLimit)
  | .tooLongToRead digits =>
    "Exceeds the limit (4300 digits) for integer string conversion: value has " ++
      toString digits ++ " digits; use sys.set_int_max_str_digits() to increase the limit"
  | .tooLongToWrite =>
    "Exceeds the limit (4300 digits) for integer string conversion; " ++
      "use sys.set_int_max_str_digits() to increase the limit"

def digitsValue (digits : List Char) : Nat :=
  digits.foldl (fun n c => 10 * n + digitValue c) 0

def readDigits (digits : List Char) : Except IntegerFault Nat :=
  if digits.length ≤ maxDigits then .ok (digitsValue digits)
  else .error (.tooLongToRead digits.length)

/-- The leading digits and underscores of `s` without the underscores, and what follows them.
Nothing where an underscore does not stand between two digits. -/
def digitRun : List Char → Option (List Char × List Char)
  | [] => some ([], [])
  | c :: '_' :: next :: rest =>
    if !isDigit c then some ([], c :: '_' :: next :: rest)
    else if !isDigit next then none
    else (digitRun (next :: rest)).map fun (digits, after) => (c :: digits, after)
  | c :: ['_'] => if isDigit c then none else some ([], [c, '_'])
  | c :: rest =>
    if isDigit c then (digitRun rest).map fun (digits, after) => (c :: digits, after)
    else some ([], c :: rest)

/-- The sign of a written integer, as a factor, and the text after it. -/
def takeSign : List Char → Int × List Char
  | '+' :: rest => (1, rest)
  | '-' :: rest => (-1, rest)
  | s => (1, s)

/-- The integer that a text denotes. Too many digits are reported before what follows them. -/
def readInteger (text : String) : Except IntegerFault Int :=
  let (sign, body) := takeSign (text.toList.dropWhile isNumberBlank)
  match digitRun body with
  | none => .error (.malformed text)
  | some (digits, after) =>
    if digits.isEmpty then .error (.malformed text)
    else match readDigits digits with
      | .error fault => .error fault
      | .ok n =>
        if after.all isNumberBlank then .ok (sign * n) else .error (.malformed text)

/-- The least natural number that is too long to write. -/
def writeBound : Nat := Nat.pow 10 maxDigits

def writeInteger (n : Int) : Except IntegerFault String :=
  if n.natAbs < writeBound then .ok (toString n) else .error .tooLongToWrite

end CallByNeed.Text
