set_option autoImplicit false
set_option relaxedAutoImplicit false

/-!
Membership in a set of code points given as sorted, disjoint, closed ranges. Character classes
beyond ASCII are such tables.
-/

namespace CallByNeed.Text

/-- Binary search for `n` among the ranges with indices from `lo` up to, not including, `hi`. -/
def searchRanges (ranges : Array (Nat × Nat)) (n : Nat) (lo hi : Nat) : Bool :=
  if _h : lo < hi then
    let mid := (lo + hi) / 2
    match ranges[mid]? with
    | none => false
    | some (first, last) =>
      if n < first then searchRanges ranges n lo mid
      else if last < n then searchRanges ranges n (mid + 1) hi
      else true
  else false
termination_by hi - lo
decreasing_by all_goals omega

def inRanges (ranges : Array (Nat × Nat)) (n : Nat) : Bool :=
  searchRanges ranges n 0 ranges.size

end CallByNeed.Text
