import CallByNeed.Text.Quoted

set_option autoImplicit false
set_option relaxedAutoImplicit false

/-!
Trees of labelled nodes with named fields: the common shape of all syntax trees, and their text.
-/

namespace CallByNeed

/-- A tree: a node with a label and named fields, or the data at a leaf. -/
inductive Tree where
  | absent
  | flag (b : Bool)
  | number (n : Int)
  | text (s : String)
  | list (items : List Tree)
  | node (label : String) (fields : List (String × Tree))
deriving Repr, Inhabited

namespace Tree

mutual

/-- The text of a tree that stands in a list inside a list: texts are quoted there. -/
def nestedText : Tree → String
  | .absent => "None"
  | .flag true => "True"
  | .flag false => "False"
  | .number n => toString n
  | .text s => Text.quoted s
  | .list items => "[" ++ ", ".intercalate (nestedTexts items) ++ "]"
  | .node _ _ => "<element.Element object at 0x>"

def nestedTexts : List Tree → List String
  | [] => []
  | item :: items => nestedText item :: nestedTexts items

end

mutual

/-- The text of a tree. A node is its label and its fields. -/
def toText : Tree → String
  | .absent => "None"
  | .flag true => "True"
  | .flag false => "False"
  | .number n => toString n
  | .text s => s
  | .list items => "[" ++ ", ".intercalate (nestedTexts items) ++ "]"
  | .node label [] => label
  | .node label (field :: fields) =>
    label ++ ": " ++ ", ".intercalate (fieldTexts (field :: fields))

/-- The texts of some fields, each with its name. A node stands in brackets. -/
def fieldTexts : List (String × Tree) → List String
  | [] => []
  | (key, .node label fields) :: rest =>
    (key ++ ": [" ++ toText (.node label fields) ++ "]") :: fieldTexts rest
  | (key, .list items) :: rest =>
    (key ++ ": [" ++ ", ".intercalate (itemTexts items) ++ "]") :: fieldTexts rest
  | (key, value) :: rest => (key ++ ": " ++ toText value) :: fieldTexts rest

def itemTexts : List Tree → List String
  | [] => []
  | item :: items => toText item :: itemTexts items

end

/-- The field of a node with the given name; nothing if there is none. -/
def get : Tree → String → Tree
  | .node _ fields, key => (fields.lookup key).getD .absent
  | _, _ => .absent

end Tree

end CallByNeed
