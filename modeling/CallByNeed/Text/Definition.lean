import CallByNeed.Text.Blank

set_option autoImplicit false
set_option relaxedAutoImplicit false

/-!
Lines of program text that define a name.
-/

namespace CallByNeed.Text

def isDefinedChar (c : Char) : Bool :=
  c.isAlphanum || c == '_'

def after? : List Char → List Char → Option (List Char)
  | [], rest => some rest
  | c :: start, d :: rest => if c = d then after? start rest else none
  | _ :: _, [] => none

/-- A name that begins with `start`, and what follows it. -/
def takeName? (start : String) (chars : List Char) : Option (String × List Char) :=
  (after? start.toList chars).map fun rest =>
    (start ++ String.ofList (rest.takeWhile isDefinedChar), rest.dropWhile isDefinedChar)

/-- The name beginning with `start` that a line defines as a function. -/
def functionName? (start line : String) : Option String := do
  let rest ← after? "def".toList (line.toList.dropWhile isBlank)
  let (name, tail) ← takeName? start (rest.dropWhile isBlank)
  if rest.head?.any isBlank ∧ tail.head? = some '(' then some name else none

/-- The name beginning with `start` that a line sets to a value. -/
def variableName? (start line : String) : Option String := do
  let (name, rest) ← takeName? start (line.toList.dropWhile isBlank)
  if (rest.dropWhile isBlank).head? = some '=' then some name else none

/-- The names that lines define again: the line, the name and the line before, counted from one. -/
def redefinitions (name? : String → Option String) (lines : List String) :
    List (Nat × String × Nat) :=
  let step := fun (s : List (String × Nat) × List (Nat × String × Nat) × Nat) line =>
    let (seen, found, n) := s
    match name? line with
    | none => (seen, found, n + 1)
    | some name =>
      match seen.lookup name with
      | none => ((name, n) :: seen, found, n + 1)
      | some previous => (seen, found ++ [(n, name, previous)], n + 1)
  (lines.foldl step ([], [], 1)).2.1

end CallByNeed.Text
