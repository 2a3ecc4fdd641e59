import CallByNeed.Text.Integer
import CallByNeed.Text.Lines

set_option autoImplicit false
set_option relaxedAutoImplicit false

/-!
What a rule does with the text it took, as a list of steps. A list that ends without keeping its
token drops it.
-/

namespace CallByNeed.Lexer

inductive RuleStep where
  /-- The token is answered. -/
  | keep
  /-- The text becomes the number it writes. -/
  | integer
  | upper
  /-- Goes to a state. -/
  | enter (state : String)
  /-- Remembers the state and goes to another. -/
  | push (state : String)
  /-- Goes back to the state that was remembered last. -/
  | pop
  /-- Counts the line ends of the text. -/
  | countLines
  | setKind (kind : String)
  /-- Moves the place in the input. -/
  | skip (count : Int)
  /-- Only the first character of the text stays. -/
  | first
  /-- The first and last character of the text go. -/
  | unquote
  /-- A word of the list has its own kind, and any other word has `otherwise`. -/
  | classify (words : List (String × String)) (otherwise : String)
  /-- Once in a lexer's life, a text takes the place of the input and its first token is answered. -/
  | more (text : String)
  /-- A step that cannot be read, which fails. -/
  | unreadable (fault : Text.IntegerFault)
  | idle
deriving Repr, Inhabited

def RuleStep.ofArgument (name argument : String) : RuleStep :=
  match name with
  | "begin" => .enter argument
  | "push" => .push argument
  | "type" => .setKind argument
  | "more" => .more argument
  | "skip" =>
    match Text.readInteger argument with
    | .ok count => .skip count
    | .error fault => .unreadable fault
  | _ => .idle

def RuleStep.ofText (text : String) : RuleStep :=
  match text with
  | "keep" => .keep
  | "int" => .integer
  | "upper" => .upper
  | "pop" => .pop
  | "newline" => .countLines
  | "first" => .first
  | text =>
    match Text.pieces ':' text with
    | name :: argument :: rest => .ofArgument name (":".intercalate (argument :: rest))
    | _ => .idle

def RuleStep.listOfText (text : String) : List RuleStep :=
  (Text.pieces ';' text).map RuleStep.ofText

end CallByNeed.Lexer
