set_option autoImplicit false
set_option relaxedAutoImplicit false

/-!
Text in columns: left-justified and filled with spaces on the right.
-/

namespace CallByNeed.Text

/-- The text followed by as many spaces as it lacks of `width`. -/
def padRight (width : Nat) (s : String) : String :=
  s ++ String.ofList (List.replicate (width - s.length) ' ')

end CallByNeed.Text
