set_option autoImplicit false
set_option relaxedAutoImplicit false

/-!
Addresses in logs. A log shows that a value has an address but not which one, so that two runs give
the same log.
-/

namespace CallByNeed.Text

/-- Whether `c` is a hexadecimal digit in lower case. -/
def isHexDigit (c : Char) : Bool :=
  c.isDigit || ('a' ≤ c && c ≤ 'f')

/-- Leaves out the hexadecimal digits after each `0x`; the flag says that such digits are being left
out. -/
def dropAddresses : Bool → List Char → List Char
  | _, [] => []
  | true, c :: rest => if isHexDigit c then dropAddresses true rest else c :: dropAddresses false rest
  | false, '0' :: 'x' :: c :: rest =>
    if isHexDigit c then '0' :: 'x' :: dropAddresses true rest
    else '0' :: dropAddresses false ('x' :: c :: rest)
  | false, c :: rest => c :: dropAddresses false rest

def withoutAddresses (s : String) : String :=
  String.ofList (dropAddresses false s.toList)

end CallByNeed.Text
