set_option autoImplicit false
set_option relaxedAutoImplicit false

/-!
Logs that are read line by line: notes, warnings and errors.
-/

namespace CallByNeed

structure Journal where
  lines : Array String := #[]
deriving Repr, Inhabited

namespace Journal

def note (j : Journal) (line : String) : Journal :=
  ⟨j.lines.push line⟩

def notes (j : Journal) (lines : List String) : Journal :=
  ⟨j.lines ++ lines.toArray⟩

def warn (j : Journal) (line : String) : Journal :=
  j.note ("WARNING: " ++ line)

def err (j : Journal) (line : String) : Journal :=
  j.note ("ERROR: " ++ line)

def text (j : Journal) : String :=
  String.join (j.lines.toList.map (· ++ "\n"))

end Journal

end CallByNeed
