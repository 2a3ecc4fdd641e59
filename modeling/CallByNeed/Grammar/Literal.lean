import CallByNeed.Text.Radix

set_option autoImplicit false
set_option relaxedAutoImplicit false

/-!
Quoted literals: text between quotes or triple quotes, with escapes. Literals that stand one after
another are one literal, and a comment may follow the last.
-/

namespace CallByNeed.Grammar

def letterEscape? : Char → Option Char
  | '\\' => some '\\'
  | '\'' => some '\''
  | '"' => some '"'
  | 'a' => some '\x07'
  | 'b' => some '\x08'
  | 'f' => some '\x0c'
  | 'n' => some '\n'
  | 'r' => some '\r'
  | 't' => some '\t'
  | 'v' => some '\x0b'
  | _ => none

/-- An escape of `n` hexadecimal digits after its letter: what it stands for and what it takes. -/
def fixedEscape? (n : Nat) (rest : List Char) : Option (List Char × Nat) :=
  if rest.length < n then none
  else do
    let d ← Text.charOf? (← Text.baseNumber? 16 (rest.take n))
    return ([d], n + 1)

/-- Reads an escape after its backslash: what it stands for and what it takes of the text. -/
def readEscape? : List Char → Option (List Char × Nat)
  | [] => none
  | '\n' :: _ => some ([], 1)
  | 'x' :: rest => fixedEscape? 2 rest
  | 'u' :: rest => fixedEscape? 4 rest
  | 'U' :: rest => fixedEscape? 8 rest
  | 'N' :: _ => none
  | c :: rest =>
    match letterEscape? c with
    | some d => some ([d], 1)
    | none =>
      let digits := (c :: rest).take 3 |>.takeWhile fun d => (Text.baseDigit? 8 d).isSome
      if digits.isEmpty then some (['\\', c], 1)
      else do
        let d ← Text.charOf? (← Text.baseNumber? 8 digits)
        return ([d], digits.length)

/-- Reads up to the closing quotes. The answer is the text before them, and what follows. The
characters still to be passed over come with `skip`. -/
def readBody? (quote : Char) (triple : Bool) : Nat → List Char → Option (List Char × List Char)
  | _, [] => none
  | skip + 1, _ :: rest => readBody? quote triple skip rest
  | 0, '\\' :: rest => do
    let (text, size) ← readEscape? rest
    let (body, after) ← readBody? quote triple size rest
    return (text ++ body, after)
  | 0, c :: rest =>
    if c = quote then
      if !triple then some ([], rest)
      else if rest.take 2 = [quote, quote] then some ([], rest.drop 2)
      else do
        let (body, after) ← readBody? quote triple 0 rest
        return (c :: body, after)
    else if c = '\n' ∧ !triple then none
    else do
      let (body, after) ← readBody? quote triple 0 rest
      return (c :: body, after)

def readQuoted? (quote : Char) (rest : List Char) : Option (List Char × List Char) :=
  match rest with
  | a :: b :: more =>
    if a = quote ∧ b = quote then readBody? quote true 0 more
    else readBody? quote false 0 rest
  | _ => readBody? quote false 0 rest

/-- Whether nothing but blanks and a comment is left. -/
def isTail : List Char → Bool
  | [] => true
  | '#' :: rest => (rest.dropWhile (· ≠ '\n')).all fun c => c = '\n'
  | c :: rest => (c = ' ' ∨ c = '\t' ∨ c = '\n' ∨ c = '\x0c') && isTail rest

/-- Reads adjacent literals, at most `fuel` of them. -/
def readLiterals? : Nat → List Char → Option (List Char)
  | 0, _ => none
  | fuel + 1, text =>
    match text.dropWhile fun c => c = ' ' ∨ c = '\t' ∨ c = '\x0c' with
    | [] => some []
    | c :: rest =>
      if c = '\'' ∨ c = '"' then do
        let (body, after) ← readQuoted? c rest
        let more ← readLiterals? fuel after
        return body ++ more
      else if isTail (c :: rest) then some []
      else none

def readLiteral? (text : String) : Option String :=
  (readLiterals? (text.length + 1) text.toList).map String.ofList

end CallByNeed.Grammar
