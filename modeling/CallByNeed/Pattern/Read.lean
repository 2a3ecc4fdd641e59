import CallByNeed.Pattern.Basic
import CallByNeed.Text.Radix

set_option autoImplicit false
set_option relaxedAutoImplicit false

/-!
Patterns as text: characters stand for themselves, a dot for any character but a line end, brackets
for sets, a bar for a choice, and star, plus, question mark and braces for repetition. Parentheses
group, and a group may have a name. Spaced text has blanks and comments that do not count.
-/

namespace CallByNeed.Pattern

structure Mode where
  /-- Blanks and comments do not count. -/
  spaced : Bool := false
  /-- A dot stands for line ends too. -/
  dotAll : Bool := false
deriving DecidableEq, Repr

def Mode.ofFlags (flags : Nat) : Mode :=
  { spaced := flags.testBit 6, dotAll := flags.testBit 4 }

structure Reader where
  rest : List Char
  /-- How many groups were opened. -/
  groups : Nat := 0
  /-- The names of groups with their numbers. -/
  names : List (String × Nat) := []

def single (c : Char) : Pattern :=
  .set ⟨[.range c c], false⟩

def anyChar (m : Mode) : Pattern :=
  .set ⟨if m.dotAll then [] else [.range '\n' '\n'], true⟩

def classEscape? : Char → Option SetItem
  | 'd' => some (.members .digit)
  | 'D' => some (.others .digit)
  | 'w' => some (.members .word)
  | 'W' => some (.others .word)
  | 's' => some (.members .blank)
  | 'S' => some (.others .blank)
  | _ => none

def placeEscape? : Char → Option Place
  | 'A' => some .start
  | 'Z' => some .stop
  | 'b' => some .wordEdge
  | 'B' => some .noWordEdge
  | _ => none

def letterEscape? : Char → Option Char
  | 'a' => some '\x07'
  | 'f' => some '\x0c'
  | 'n' => some '\n'
  | 'r' => some '\r'
  | 't' => some '\t'
  | 'v' => some '\x0b'
  | '\\' => some '\\'
  | _ => none

def isOctal (c : Char) : Bool := '0' ≤ c && c ≤ '7'

def hexEscape? (n : Nat) (rest : List Char) : Option (Char × List Char) :=
  if rest.length < n then none
  else do
    let c ← Text.charOf? (← Text.baseNumber? 16 (rest.take n))
    return (c, rest.drop n)

/-- A character by some octal digits, no more than one byte. -/
def octalEscape? (digits rest : List Char) : Option (Char × List Char) := do
  let n ← Text.baseNumber? 8 digits
  if n > 255 then none else return (← Text.charOf? n, rest)

def charEscape? (c : Char) (rest : List Char) : Option (Char × List Char) :=
  match c with
  | 'x' => hexEscape? 2 rest
  | 'u' => hexEscape? 4 rest
  | 'U' => hexEscape? 8 rest
  | _ =>
    match letterEscape? c with
    | some d => some (d, rest)
    | none => if c.isAlphanum then none else some (c, rest)

def setEscape? (c : Char) (rest : List Char) : Option (SetItem × List Char) :=
  match classEscape? c with
  | some item => some (item, rest)
  | none =>
    if c = 'b' then some (.range '\x08' '\x08', rest)
    else do
      let (d, rest) ←
        if isOctal c then
          let digits := rest.take 2 |>.takeWhile isOctal
          octalEscape? (c :: digits) (rest.drop digits.length)
        else charEscape? c rest
      return (.range d d, rest)

def escape? (c : Char) (rest : List Char) : Option (Pattern × List Char) :=
  match classEscape? c, placeEscape? c with
  | some item, _ => some (.set ⟨[item], false⟩, rest)
  | _, some condition => some (.place condition, rest)
  | none, none => do
    let (d, rest) ←
      if c = '0' then
        let digits := rest.take 2 |>.takeWhile isOctal
        octalEscape? (c :: digits) (rest.drop digits.length)
      else if isOctal c && (rest.take 2).length = 2 && (rest.take 2).all isOctal then
        octalEscape? (c :: rest.take 2) (rest.drop 2)
      else charEscape? c rest
    return (single d, rest)

def setItem? : List Char → Option (SetItem × List Char)
  | [] => none
  | ['\\'] => none
  | '\\' :: c :: rest => setEscape? c rest
  | c :: rest => some (.range c c, rest)

/-- Reads a set after its opening bracket and sign; `items` are the parts so far. -/
def readSet? : Nat → List SetItem → List Char → Option (List SetItem × List Char)
  | 0, _, _ => none
  | fuel + 1, items, text =>
    match text, items with
    | ']' :: rest, _ :: _ => some (items, rest)
    | _, _ => do
      let (low, rest) ← setItem? text
      match rest with
      | '-' :: ']' :: rest => some (items ++ [low, .range '-' '-'], rest)
      | '-' :: rest =>
        let (high, rest) ← setItem? rest
        match low, high with
        | .range a _, .range b _ =>
          if b < a then none else readSet? fuel (items ++ [.range a b]) rest
        | _, _ => none
      | _ => readSet? fuel (items ++ [low]) rest

/-- Drops a comment up to the end of its line. A backslash takes the next character with it. -/
def dropComment? : List Char → Option (List Char)
  | [] => some []
  | '\n' :: rest => some rest
  | ['\\'] => none
  | '\\' :: _ :: rest => dropComment? rest
  | _ :: rest => dropComment? rest

/-- Whether a character does not count in spaced text. -/
def isSpacing (c : Char) : Bool :=
  c = ' ' ∨ c = '\t' ∨ c = '\n' ∨ c = '\r' ∨ c = '\x0b' ∨ c = '\x0c'

/-- What a pattern is for a repetition that follows it. -/
inductive ItemKind where
  | plain
  | place
  | repeated
deriving DecidableEq

structure Item where
  pattern : Pattern
  kind : ItemKind := .plain

/-- Patterns one after another; the list has the last one first. -/
def row (items : List Item) : Pattern :=
  match items with
  | [] => .empty
  | last :: before => before.foldl (fun p item => .seq item.pattern p) last.pattern

def times : Nat → Pattern → Pattern → Pattern
  | 0, _, after => after
  | n + 1, p, after => .seq p (times n p after)

def upTo (greedy : Bool) : Nat → Pattern → Pattern
  | 0, _ => .empty
  | 1, p => .optional p greedy
  | n + 2, p => .optional (.seq p (upTo greedy (n + 1) p)) greedy

def repeated (p : Pattern) (least : Nat) (most : Option Nat) (greedy : Bool) : Pattern :=
  match most with
  | none => if least = 0 then .star p greedy else times least p (.star p greedy)
  | some most =>
    if most = least then
      match least with
      | 0 => .empty
      | n + 1 => times n p p
    else times least p (upTo greedy (most - least) p)

def readBounds? (text : List Char) : Option (Nat × Option Nat × List Char) :=
  let low := text.takeWhile Char.isDigit
  let rest := text.dropWhile Char.isDigit
  let number := fun digits => (Text.baseNumber? 10 digits).getD 0
  match rest with
  | '}' :: rest => if low.isEmpty then none else some (number low, some (number low), rest)
  | ',' :: rest =>
    let high := rest.takeWhile Char.isDigit
    match rest.dropWhile Char.isDigit with
    | '}' :: rest => some (number low, if high.isEmpty then none else some (number high), rest)
    | _ => none
  | _ => none

def repetition? (c : Char) (rest : List Char) : Option (Nat × Option Nat × List Char) :=
  match c with
  | '*' => some (0, none, rest)
  | '+' => some (1, none, rest)
  | '?' => some (0, some 1, rest)
  | '\x7b' => readBounds? rest
  | _ => none

def repeatLast? (items : List Item) (least : Nat) (most : Option Nat) (rest : List Char) :
    Option (List Item × List Char) :=
  match items with
  | [] => none
  | last :: before =>
    if last.kind ≠ .plain ∨ most.any (· < least) then none
    else
      let (pattern, rest) := match rest with
        | '?' :: rest => (repeated last.pattern least most false, rest)
        | '+' :: rest => (.atomic (repeated last.pattern least most true), rest)
        | _ => (repeated last.pattern least most true, rest)
      some (⟨pattern, .repeated⟩ :: before, rest)

def isGroupName (name : List Char) : Bool :=
  match name with
  | [] => false
  | c :: rest => Text.isWord c && !Text.isDigit c && rest.all Text.isWord

inductive GroupKind where
  | counted (name : Option String)
  | plain
  | atomic
  | ahead (follows : Bool)

def groupKind? : List Char → Option (GroupKind × List Char)
  | '?' :: 'P' :: '<' :: rest =>
    let name := rest.takeWhile (· ≠ '>')
    match rest.dropWhile (· ≠ '>') with
    | [] => none
    | _ :: rest => if isGroupName name then some (.counted (String.ofList name), rest) else none
  | '?' :: ':' :: rest => some (.plain, rest)
  | '?' :: '>' :: rest => some (.atomic, rest)
  | '?' :: '=' :: rest => some (.ahead true, rest)
  | '?' :: '!' :: rest => some (.ahead false, rest)
  | '?' :: _ => none
  | rest => some (.counted none, rest)

/-- Counts a group that is opened; two groups may not have one name. -/
def Reader.opened? (r : Reader) : GroupKind → Option Reader
  | .counted none => some { r with groups := r.groups + 1 }
  | .counted (some name) =>
    if r.names.any (·.1 == name) then none
    else some { r with groups := r.groups + 1, names := r.names ++ [(name, r.groups + 1)] }
  | _ => some r

def GroupKind.pattern (p : Pattern) : GroupKind → Pattern
  | .atomic => .atomic p
  | .ahead follows => .ahead p follows
  | _ => p

mutual

def readChoice? (m : Mode) : Nat → Reader → Option (Pattern × Reader)
  | 0, _ => none
  | fuel + 1, r => do
    let (p, r) ← readRow? m fuel [] r
    match r.rest with
    | '|' :: rest =>
      let (q, r) ← readChoice? m fuel { r with rest := rest }
      return (.alt p q, r)
    | _ => return (p, r)

/-- Reads a row of patterns, `items` being those read so far. -/
def readRow? (m : Mode) : Nat → List Item → Reader → Option (Pattern × Reader)
  | 0, _, _ => none
  | fuel + 1, items, r =>
    match r.rest with
    | [] => some (row items, r)
    | c :: rest =>
      if c = '|' ∨ c = ')' then some (row items, r)
      else if m.spaced && isSpacing c then readRow? m fuel items { r with rest := rest }
      else if m.spaced && c = '#' then do
        let rest ← dropComment? rest
        readRow? m fuel items { r with rest := rest }
      else match repetition? c rest with
        | some (least, most, rest) => do
          let (items, rest) ← repeatLast? items least most rest
          readRow? m fuel items { r with rest := rest }
        | none =>
          match c with
          | '*' | '+' | '?' => none
          | '(' => do
            let (kind, rest) ← groupKind? rest
            let r ← Reader.opened? { r with rest := rest } kind
            let (p, r) ← readChoice? m fuel r
            match r.rest with
            | ')' :: rest => readRow? m fuel (⟨kind.pattern p, .plain⟩ :: items) { r with rest := rest }
            | _ => none
          | '[' => do
            let (negated, rest) := match rest with
              | '^' :: rest => (true, rest)
              | _ => (false, rest)
            let (parts, rest) ← readSet? (rest.length + 1) [] rest
            readRow? m fuel (⟨.set ⟨parts, negated⟩, .plain⟩ :: items) { r with rest := rest }
          | '.' => readRow? m fuel (⟨anyChar m, .plain⟩ :: items) { r with rest := rest }
          | '^' => readRow? m fuel (⟨.place .start, .place⟩ :: items) { r with rest := rest }
          | '$' => readRow? m fuel (⟨.place .lastLine, .place⟩ :: items) { r with rest := rest }
          | '\\' =>
            match rest with
            | [] => none
            | d :: rest => do
              let (p, rest) ← escape? d rest
              let kind := if (placeEscape? d).isSome then .place else .plain
              readRow? m fuel (⟨p, kind⟩ :: items) { r with rest := rest }
          | c => readRow? m fuel (⟨single c, .plain⟩ :: items) { r with rest := rest }

end

structure Grouped where
  pattern : Pattern
  /-- How many groups it has. -/
  groups : Nat
  /-- The names of groups with their numbers. -/
  names : List (String × Nat)
deriving Inhabited

def read? (m : Mode) (text : List Char) : Option Grouped := do
  let (p, r) ← readChoice? m (2 * text.length + 2) { rest := text }
  if r.rest.isEmpty then return ⟨p, r.groups, r.names⟩ else none

end CallByNeed.Pattern
