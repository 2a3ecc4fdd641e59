import CallByNeed.Text.Printable

set_option autoImplicit false
set_option relaxedAutoImplicit false

/-!
Quoted text. The quote is the apostrophe, unless the text has an apostrophe and no double quote.
A backslash, the quote itself and the characters that are not printable are written as escapes.
-/

namespace CallByNeed.Text

/-- The hexadecimal digits of `n`, in lower case, filled with zeros up to `width` places. -/
def hexadecimal (width n : Nat) : List Char :=
  let digits := Nat.toDigits 16 n
  List.replicate (width - digits.length) '0' ++ digits

/-- How quoted text shows the character `c` between quotes `q`. -/
def quoteChar (q c : Char) : List Char :=
  if c == '\\' || c == q then ['\\', c]
  else if c == '\n' then ['\\', 'n']
  else if c == '\r' then ['\\', 'r']
  else if c == '\t' then ['\\', 't']
  else if isPrintable c then [c]
  else if c.toNat ≤ 0xff then '\\' :: 'x' :: hexadecimal 2 c.toNat
  else if c.toNat ≤ 0xffff then '\\' :: 'u' :: hexadecimal 4 c.toNat
  else '\\' :: 'U' :: hexadecimal 8 c.toNat

/-- The quote that quoted text uses for `s`. -/
def quoteMark (s : List Char) : Char :=
  if s.contains '\'' && !s.contains '"' then '"' else '\''

def quoted (s : String) : String :=
  let q := quoteMark s.toList
  String.ofList (q :: s.toList.flatMap (quoteChar q) ++ [q])

end CallByNeed.Text
