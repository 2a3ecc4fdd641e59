import CallByNeed.Text.Quoted

set_option autoImplicit false
set_option relaxedAutoImplicit false

/-!
Where tables are to be saved.
-/

namespace CallByNeed

inductive Target where
  | nowhere
  | file
  /-- What is shown as the place and why it cannot be written. -/
  | refused (place reason : String)
deriving Inhabited

def missingDirectory (path : String) : String :=
  "[Errno 2] No such file or directory: " ++ Text.quoted path

end CallByNeed
