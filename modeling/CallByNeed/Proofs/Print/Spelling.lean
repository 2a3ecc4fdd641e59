import CallByNeed.Proofs.Parse.Precedence

set_option autoImplicit false
set_option relaxedAutoImplicit false

/-!
How programs are written. A program is spelled by tokens without places, with parentheses around an
operand only where its operator is too weak to stand there without. The ordered reading of such
tokens gives the program back.
-/

namespace CallByNeed.Language

section Signs

/-- A token without its place. -/
abbrev Sign : Type :=
  Terminal × Payload

def Token.sign (t : Token) : Sign :=
  (t.kind, t.payload)

/-- How a token kind is written. The text of numbers, names and strings is not fixed. -/
def Terminal.spelling : Terminal → String
  | .kVar => "var"
  | .kFunc => "func"
  | .kIf => "if"
  | .kElse => "else"
  | .kFor => "for"
  | .kReturn => "return"
  | .kTrue => "true"
  | .kFalse => "false"
  | .kNil => "nil"
  | .kStruct => "struct"
  | .kNew => "new"
  | .kTry => "try"
  | .kCatch => "catch"
  | .kRaise => "raise"
  | .lparen => "("
  | .rparen => ")"
  | .lbrace => "\x7b"
  | .rbrace => "\x7d"
  | .comma => ","
  | .colon => ":"
  | .semi => ";"
  | .eq => "=="
  | .notEq => "!="
  | .greaterEq => ">="
  | .greater => ">"
  | .lessEq => "<="
  | .less => "<"
  | .assign => "="
  | .plus => "+"
  | .minus => "-"
  | .multiply => "*"
  | .divide => "/"
  | .and => "&&"
  | .or => "||"
  | .not => "!"
  | .dot => "."
  | .number | .name | .string => ""

def Terminal.sign (t : Terminal) : Sign :=
  (t, .text t.spelling)

def nameSign (name : String) : Sign :=
  (.name, .text name)

/-- The text is a name: it starts like a word and goes on like one, and is not reserved. -/
def IsName (s : String) : Prop :=
  Terminal.ofWord s = .name ∧
    ∃ c cs, s.toList = c :: cs ∧ startsWord c = true ∧ ∀ x ∈ cs, Text.isWord x = true

instance (s : String) : Decidable (IsName s) :=
  match hs : s.toList with
  | [] => .isFalse fun ⟨_, _, _, h, _⟩ => by simp [hs] at h
  | c :: cs => decidable_of_iff
      (Terminal.ofWord s = .name ∧ startsWord c = true ∧ cs.all Text.isWord = true) <| by
    simp [IsName, hs]

def pathNames (path : String) : List String :=
  (path.toList.splitOn '.').map String.ofList

/-- The text is names joined by dots. -/
def IsPath (path : String) : Prop :=
  ∀ name ∈ pathNames path, IsName name

instance (path : String) : Decidable (IsPath path) :=
  inferInstanceAs (Decidable (∀ name ∈ pathNames path, IsName name))

def IsShort (n : Nat) : Prop :=
  (Nat.toDigits 10 n).length ≤ Text.maxDigits

instance (n : Nat) : Decidable (IsShort n) :=
  inferInstanceAs (Decidable (_ ≤ _))

def IsQuotable (s : String) : Prop :=
  '"' ∉ s.toList ∧ '\n' ∉ s.toList

instance (s : String) : Decidable (IsQuotable s) :=
  inferInstanceAs (Decidable (_ ∧ _))

def Sign.Valid (g : Sign) : Prop :=
  match g with
  | (.number, .number n) => IsShort n
  | (.number, .text _) => False
  | (.name, .text s) => IsName s
  | (.string, .text s) => IsQuotable s
  | (kind, .text s) => s = kind.spelling
  | (_, .number _) => False

theorem Sign.Valid.fits {t : Token} (h : Sign.Valid t.sign) : t.Fits := by
  obtain ⟨kind, payload, line, pos⟩ := t
  cases payload with
  | text s =>
    refine Token.fits_text ?_ s line pos
    rintro rfl
    exact h
  | number n =>
    cases kind with
    | number => exact ⟨n, rfl⟩
    | _ => exact absurd h id

end Signs

section Spelling

def BinaryOp.terminal : BinaryOp → Terminal
  | .add => .plus
  | .sub => .minus
  | .mul => .multiply
  | .div => .divide
  | .eq => .eq
  | .ne => .notEq
  | .gt => .greater
  | .ge => .greaterEq
  | .lt => .less
  | .le => .lessEq
  | .or => .or
  | .and => .and

def UnaryOp.terminal : UnaryOp → Terminal
  | .neg => .minus
  | .not => .not

/-- How tightly an expression holds together: as its operator binds, and most of all where no
operator stands free. -/
def Expr.level : Expr → Nat
  | .binary op _ _ => op.terminal.strength
  | .unary _ _ => 6
  | _ => 7

def inParens (needed : Bool) (signs : List Sign) : List Sign :=
  if needed then Terminal.lparen.sign :: (signs ++ [Terminal.rparen.sign]) else signs

/-- Spellings one after another with commas between them. -/
def separated : List (List Sign) → List Sign
  | [] => []
  | first :: later => first ++ later.flatMap (Terminal.comma.sign :: ·)

def spellPath (path : String) : List Sign :=
  match pathNames path with
  | [] => []
  | name :: names => nameSign name :: names.flatMap fun name => [Terminal.dot.sign, nameSign name]

mutual

/-- The spelling of an expression. An operand stands in parentheses where it holds together less
than its operator asks for; on the right of a binary operator that is more than on the left. -/
def Expr.spell : Expr → List Sign
  | .int n => [(.number, .number n)]
  | .bool true => [Terminal.kTrue.sign]
  | .bool false => [Terminal.kFalse.sign]
  | .str s => [(.string, .text s)]
  | .nil => [Terminal.kNil.sign]
  | .var name => spellPath name
  | .call name args =>
    nameSign name :: Terminal.lparen.sign :: (separated (Expr.spellEach args) ++
      [Terminal.rparen.sign])
  | .unary op operand => op.terminal.sign :: inParens (operand.level < 6) operand.spell
  | .binary op left right =>
    inParens (left.level < op.terminal.strength) left.spell ++ op.terminal.sign ::
      inParens (right.level < op.terminal.strength + 1) right.spell
  | .new typeName => [Terminal.kNew.sign, nameSign typeName]

def Expr.spellEach : List Expr → List (List Sign)
  | [] => []
  | e :: es => e.spell :: Expr.spellEach es

end

def Assignment.spell (a : Assignment) : List Sign :=
  spellPath a.name ++ Terminal.assign.sign :: a.expr.spell

/-- The spelling of a type after a colon, if there is one. -/
def spellType : Option String → List Sign
  | none => []
  | some typeName => [Terminal.colon.sign, nameSign typeName]

def inBraces (signs : List Sign) : List Sign :=
  Terminal.lbrace.sign :: (signs ++ [Terminal.rbrace.sign])

mutual

def Stmt.spell : Stmt → List Sign
  | .eval e => e.spell ++ [Terminal.semi.sign]
  | .assign a => a.spell ++ [Terminal.semi.sign]
  | .declare name typeName =>
    Terminal.kVar.sign :: nameSign name :: (spellType typeName ++ [Terminal.semi.sign])
  | .branch condition body none =>
    Terminal.kIf.sign :: Terminal.lparen.sign :: (condition.spell ++ Terminal.rparen.sign ::
      inBraces (Stmt.spellAll body))
  | .branch condition body (some orElse) =>
    Terminal.kIf.sign :: Terminal.lparen.sign :: (condition.spell ++ Terminal.rparen.sign ::
      (inBraces (Stmt.spellAll body) ++ Terminal.kElse.sign :: inBraces (Stmt.spellAll orElse)))
  | .loop init condition update body =>
    Terminal.kFor.sign :: Terminal.lparen.sign :: (init.spell ++ Terminal.semi.sign ::
      (condition.spell ++ Terminal.semi.sign :: (update.spell ++ Terminal.rparen.sign ::
        inBraces (Stmt.spellAll body))))
  | .attempt body catchers =>
    Terminal.kTry.sign :: (inBraces (Stmt.spellAll body) ++ Stmt.spellCatchers catchers)
  | .raise e => Terminal.kRaise.sign :: (e.spell ++ [Terminal.semi.sign])
  | .ret none => [Terminal.kReturn.sign, Terminal.semi.sign]
  | .ret (some e) => Terminal.kReturn.sign :: (e.spell ++ [Terminal.semi.sign])

def Stmt.spellAll : List Stmt → List Sign
  | [] => []
  | s :: ss => s.spell ++ Stmt.spellAll ss

def Stmt.spellCatchers : List (Catcher Stmt) → List Sign
  | [] => []
  | ⟨exception, body⟩ :: rest =>
    (Terminal.kCatch.sign :: (.string, .text exception) :: inBraces (Stmt.spellAll body)) ++
      Stmt.spellCatchers rest

end

def Param.spell (p : Param) : List Sign :=
  nameSign p.name :: spellType p.typeName

def Func.spell (f : Func) : List Sign :=
  Terminal.kFunc.sign :: nameSign f.name :: Terminal.lparen.sign ::
    (separated (f.params.map Param.spell) ++ Terminal.rparen.sign ::
      (spellType f.returnType ++ inBraces (Stmt.spellAll f.body)))

def Field.spell (f : Field) : List Sign :=
  [nameSign f.name, Terminal.colon.sign, nameSign f.typeName, Terminal.semi.sign]

def Struct.spell (s : Struct) : List Sign :=
  Terminal.kStruct.sign :: nameSign s.name :: inBraces (s.fields.flatMap Field.spell)

def Program.spell (p : Program) : List Sign :=
  p.structs.flatMap Struct.spell ++ p.funcs.flatMap Func.spell

end Spelling

section Writable

mutual

def Expr.Writable : Expr → Prop
  | .int n => IsShort n
  | .str s => IsQuotable s
  | .var name => IsPath name
  | .call name args => IsName name ∧ Expr.AllWritable args
  | .unary _ operand => operand.Writable
  | .binary _ left right => left.Writable ∧ right.Writable
  | .new typeName => IsName typeName
  | _ => True

def Expr.AllWritable : List Expr → Prop
  | [] => True
  | e :: es => e.Writable ∧ Expr.AllWritable es

end

def Assignment.Writable (a : Assignment) : Prop :=
  IsPath a.name ∧ a.expr.Writable

mutual

def Stmt.Writable : Stmt → Prop
  | .eval e => e.Writable
  | .assign a => a.Writable
  | .declare name typeName => IsName name ∧ ∀ t ∈ typeName, IsName t
  | .branch condition body none => condition.Writable ∧ Stmt.AllWritable body
  | .branch condition body (some orElse) =>
    condition.Writable ∧ Stmt.AllWritable body ∧ Stmt.AllWritable orElse
  | .loop init condition update body =>
    init.Writable ∧ condition.Writable ∧ update.Writable ∧ Stmt.AllWritable body
  | .attempt body catchers => Stmt.AllWritable body ∧ Stmt.CatchersWritable catchers
  | .raise e => e.Writable
  | .ret none => True
  | .ret (some e) => e.Writable

def Stmt.AllWritable : List Stmt → Prop
  | [] => True
  | s :: ss => s.Writable ∧ Stmt.AllWritable ss

def Stmt.CatchersWritable : List (Catcher Stmt) → Prop
  | [] => True
  | ⟨exception, body⟩ :: cs =>
    (IsQuotable exception ∧ Stmt.AllWritable body) ∧ Stmt.CatchersWritable cs

end

def Param.Writable (p : Param) : Prop :=
  IsName p.name ∧ ∀ t ∈ p.typeName, IsName t

def Func.Writable (f : Func) : Prop :=
  IsName f.name ∧ (∀ p ∈ f.params, p.Writable) ∧ (∀ t ∈ f.returnType, IsName t) ∧
    Stmt.AllWritable f.body

def Struct.Writable (s : Struct) : Prop :=
  IsName s.name ∧ ∀ f ∈ s.fields, IsName f.name ∧ IsName f.typeName

def Program.Writable (p : Program) : Prop :=
  (∀ s ∈ p.structs, s.Writable) ∧ ∀ f ∈ p.funcs, f.Writable

/-- The program is one that a source text can stand for: no list that must have elements is empty,
and all names, numbers and strings can be written. -/
structure Program.WellFormed (p : Program) : Prop where
  filled : p.Filled
  writable : p.Writable

end Writable

end CallByNeed.Language
