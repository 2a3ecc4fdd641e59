set_option autoImplicit false
set_option relaxedAutoImplicit false

/-!
Places in files, for messages.
-/

namespace CallByNeed

structure Site where
  file : String
  line : Int
deriving DecidableEq, Repr, Inhabited

def Site.text (s : Site) : String :=
  s.file ++ ":" ++ toString s.line

end CallByNeed
