set_option autoImplicit false
set_option relaxedAutoImplicit false

/-!
Templates without arguments. A percent sign starts a place for an argument, so that a template that
has one cannot be filled; two percent signs stand for one.
-/

namespace CallByNeed.Text

inductive TemplateFault where
  /-- There is a place for an argument. -/
  | noArgument
  /-- There is a place for a named argument. -/
  | noNames
  /-- A place is not complete. -/
  | incomplete
deriving DecidableEq, Repr

def TemplateFault.message : TemplateFault → String
  | .noArgument => "not enough arguments for format string"
  | .noNames => "format requires a mapping"
  | .incomplete => "incomplete format"

/-- Fills a template; `fuel` bounds the number of percent signs that are looked at. -/
def fillFrom : Nat → List Char → Except TemplateFault (List Char)
  | 0, chars => .ok chars
  | fuel + 1, chars =>
    let start := chars.takeWhile (· ≠ '%')
    match chars.dropWhile (· ≠ '%') with
    | [] => .ok start
    | _ :: '(' :: _ => .error .noNames
    | _ :: rest =>
      let rest := rest.dropWhile fun c => "#0- +".toList.contains c
      if rest.head? = some '*' then .error .noArgument
      else
        let rest := rest.dropWhile Char.isDigit
        let rest := match rest with
          | '.' :: more => more.dropWhile Char.isDigit
          | _ => rest
        let rest := if rest.head?.any fun c => c = 'h' ∨ c = 'l' ∨ c = 'L' then rest.drop 1 else rest
        match rest with
        | [] => .error .incomplete
        | '%' :: more => (fillFrom fuel more).map fun tail => start ++ '%' :: tail
        | _ => .error .noArgument

def fill (template : String) : Except TemplateFault String :=
  (fillFrom (template.length + 1) template.toList).map String.ofList

end CallByNeed.Text
