import CallByNeed.Text.Blank

set_option autoImplicit false
set_option relaxedAutoImplicit false

/-!
Cutting text into lines, lines into words, and text at a mark. A carriage return followed by a line
feed ends one line, and text that ends with a line end has no empty last line.
-/

namespace CallByNeed.Text

/-- Lines of a character list; `line` holds the current line backwards. -/
def linesFrom (line : List Char) : List Char → List (List Char)
  | [] => if line.isEmpty then [] else [line.reverse]
  | '\r' :: '\n' :: rest => line.reverse :: linesFrom [] rest
  | c :: rest =>
    if isLineEnd c then line.reverse :: linesFrom [] rest else linesFrom (c :: line) rest

def lines (s : String) : List String :=
  (linesFrom [] s.toList).map String.ofList

/-- Words of a character list; `word` holds the current word backwards. -/
def wordsFrom (word : List Char) : List Char → List (List Char)
  | [] => if word.isEmpty then [] else [word.reverse]
  | c :: rest =>
    if isBlank c then
      if word.isEmpty then wordsFrom [] rest else word.reverse :: wordsFrom [] rest
    else wordsFrom (c :: word) rest

/-- The maximal runs of characters that are not blanks. -/
def words (s : String) : List String :=
  (wordsFrom [] s.toList).map String.ofList

/-- Pieces of a character list; `piece` holds the current piece backwards. -/
def piecesFrom (mark : Char) (piece : List Char) : List Char → List (List Char)
  | [] => [piece.reverse]
  | c :: rest =>
    if c = mark then piece.reverse :: piecesFrom mark [] rest
    else piecesFrom mark (c :: piece) rest

def pieces (mark : Char) (s : String) : List String :=
  (piecesFrom mark [] s.toList).map String.ofList

def occursIn (part : List Char) : List Char → Bool
  | [] => part.isEmpty
  | c :: rest => part.isPrefixOf (c :: rest) || occursIn part rest

end CallByNeed.Text
