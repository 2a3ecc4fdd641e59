set_option autoImplicit false
set_option relaxedAutoImplicit false

/-!
White space: the blanks that separate words, the smaller set that may surround a written integer,
and the characters that end a line.
-/

namespace CallByNeed.Text

def isBlank (c : Char) : Bool :=
  let n := c.toNat
  (9 ≤ n && n ≤ 13) || (28 ≤ n && n ≤ 32) || n == 0x85 || n == 0xa0 || n == 0x1680 ||
    (0x2000 ≤ n && n ≤ 0x200a) || n == 0x2028 || n == 0x2029 || n == 0x202f || n == 0x205f ||
    n == 0x3000

/-- Whether `c` may stand around a written integer: a blank that is not one of the four
information separators. -/
def isNumberBlank (c : Char) : Bool :=
  isBlank c && !(28 ≤ c.toNat && c.toNat ≤ 31)

def isLineEnd (c : Char) : Bool :=
  let n := c.toNat
  (10 ≤ n && n ≤ 13) || (28 ≤ n && n ≤ 30) || n == 0x85 || n == 0x2028 || n == 0x2029

/-- The characters without the leading ones that satisfy `p` and without the trailing ones. -/
def trimBy (p : Char → Bool) (s : List Char) : List Char :=
  ((s.dropWhile p).reverse.dropWhile p).reverse

def trim (s : String) : String :=
  String.ofList (trimBy isBlank s.toList)

def trimLeft (s : String) : String :=
  String.ofList (s.toList.dropWhile isBlank)

end CallByNeed.Text
