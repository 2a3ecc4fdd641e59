import CallByNeed.LR.Automaton
import CallByNeed.Language.Rule

set_option autoImplicit false
set_option relaxedAutoImplicit false

/-!
The parse table of the language: for each state its shifts, the one rule it may reduce with the
tokens before which it does, what it does at the end, and its gotos.
-/

namespace CallByNeed.Language

structure Row where
  shifts : List (Terminal × Nat) := []
  reduces : Option (Nat × List Terminal) := none
  /-- What the state does at the end of the input. -/
  atEnd : Option LR.Action := none
  gotos : List (Nonterminal × Nat) := []
deriving Repr, Inhabited

def expressionShifts : List (Terminal × Nat) :=
  [(.name, 36), (.lparen, 37), (.not, 49), (.minus, 50), (.kNew, 51), (.number, 52), (.kTrue, 53),
    (.kFalse, 54), (.kNil, 55), (.string, 56)]

def statementShifts : List (Terminal × Nat) :=
  expressionShifts ++ [(.kVar, 41), (.kIf, 42), (.kTry, 44), (.kFor, 45), (.kRaise, 46),
    (.kReturn, 47)]

def multiplicativeShifts : List (Terminal × Nat) :=
  [(.multiply, 79), (.divide, 80)]

def arithmeticShifts : List (Terminal × Nat) :=
  multiplicativeShifts ++ [(.plus, 77), (.minus, 78)]

def comparisonShifts : List (Terminal × Nat) :=
  [(.eq, 71), (.greater, 72), (.less, 73), (.notEq, 74), (.greaterEq, 75), (.lessEq, 76)]

def operatorShifts : List (Terminal × Nat) :=
  arithmeticShifts ++ comparisonShifts ++ [(.and, 82), (.or, 81)]

def expressionEnds : List Terminal :=
  [.rparen, .comma, .semi]

def afterExpression : List Terminal :=
  expressionEnds ++ [.minus, .eq, .greater, .less, .notEq, .greaterEq, .lessEq, .plus, .multiply,
    .divide, .or, .and]

def afterStatement : List Terminal :=
  [.name, .lparen, .rbrace, .kVar, .kIf, .kTry, .kFor, .kRaise, .kReturn, .not, .minus, .kNew,
    .number, .kTrue, .kFalse, .kNil, .string]

def rowsFrom0 : List Row :=
  [{ shifts := [(.kStruct, 6), (.kFunc, 7)], gotos := [(.program, 1), (.structs, 2), (.funcs, 3),
      (.struct, 4), (.func, 5)] },
    { atEnd := some .accept },
    { shifts := [(.kStruct, 6), (.kFunc, 7)], gotos := [(.funcs, 8), (.struct, 9), (.func, 5)] },
    { shifts := [(.kFunc, 7)], atEnd := some (.reduce 2), gotos := [(.func, 10)] },
    { reduces := some (4, [.kStruct, .kFunc]) },
    { reduces := some (10, [.kFunc]), atEnd := some (.reduce 10) },
    { shifts := [(.name, 11)] },
    { shifts := [(.name, 12)] },
    { shifts := [(.kFunc, 7)], atEnd := some (.reduce 1), gotos := [(.func, 10)] },
    { reduces := some (3, [.kStruct, .kFunc]) },
    { reduces := some (9, [.kFunc]), atEnd := some (.reduce 9) },
    { shifts := [(.lbrace, 13)] },
    { shifts := [(.lparen, 14)] },
    { shifts := [(.name, 15)], gotos := [(.fields, 16), (.field, 17)] },
    { shifts := [(.name, 18), (.rparen, 20)], gotos := [(.params, 19), (.param, 21)] },
    { shifts := [(.colon, 22)] },
    { shifts := [(.name, 15), (.rbrace, 23)], gotos := [(.field, 24)] },
    { reduces := some (7, [.name, .rbrace]) },
    { shifts := [(.colon, 25)], reduces := some (18, [.rparen, .comma]) },
    { shifts := [(.rparen, 26), (.comma, 27)] },
    { shifts := [(.lbrace, 29), (.colon, 28)] },
    { reduces := some (16, [.rparen, .comma]) },
    { shifts := [(.name, 30)] },
    { reduces := some (5, [.kStruct, .kFunc]) },
    { reduces := some (6, [.name, .rbrace]) },
    { shifts := [(.name, 31)] }]

def rowsFrom26 : List Row :=
  [{ shifts := [(.lbrace, 33), (.colon, 32)] },
    { shifts := [(.name, 18)], gotos := [(.param, 34)] },
    { shifts := [(.name, 35)] },
    { shifts := statementShifts, gotos := [(.statements, 38), (.statement, 39), (.assignment, 40),
      (.expression, 43), (.dotted, 48)] },
    { shifts := [(.semi, 57)] },
    { reduces := some (17, [.rparen, .comma]) },
    { shifts := [(.name, 58)] },
    { shifts := statementShifts, gotos := [(.statements, 59), (.statement, 39), (.assignment, 40),
      (.expression, 43), (.dotted, 48)] },
    { reduces := some (15, [.rparen, .comma]) },
    { shifts := [(.lbrace, 60)] },
    { shifts := [(.lparen, 61)], reduces := some (27, afterExpression ++ [.assign, .dot]) },
    { shifts := expressionShifts, gotos := [(.expression, 62), (.dotted, 63)] },
    { shifts := statementShifts ++ [(.rbrace, 64)], gotos := [(.statement, 65), (.assignment, 40),
      (.expression, 43), (.dotted, 48)] },
    { reduces := some (20, afterStatement) },
    { shifts := [(.semi, 66)] },
    { shifts := [(.name, 68)], gotos := [(.declared, 67)] },
    { shifts := [(.lparen, 69)] },
    { shifts := operatorShifts ++ [(.semi, 70)] },
    { shifts := [(.lbrace, 83)] },
    { shifts := [(.lparen, 84)] },
    { shifts := expressionShifts, gotos := [(.expression, 85), (.dotted, 63)] },
    { shifts := expressionShifts ++ [(.semi, 87)], gotos := [(.expression, 86), (.dotted, 63)] },
    { shifts := [(.assign, 88), (.dot, 89)], reduces := some (60, [.minus, .semi, .eq, .greater,
      .less, .notEq, .greaterEq, .lessEq, .plus, .multiply, .divide, .or, .and]) },
    { shifts := expressionShifts, gotos := [(.expression, 90), (.dotted, 63)] },
    { shifts := expressionShifts, gotos := [(.expression, 91), (.dotted, 63)] },
    { shifts := [(.name, 92)] }]

def rowsFrom52 : List Row :=
  [{ reduces := some (55, afterExpression) },
    { reduces := some (56, afterExpression) },
    { reduces := some (57, afterExpression) },
    { reduces := some (58, afterExpression) },
    { reduces := some (59, afterExpression) },
    { reduces := some (8, [.name, .rbrace]) },
    { shifts := [(.lbrace, 93)] },
    { shifts := statementShifts ++ [(.rbrace, 94)], gotos := [(.statement, 65), (.assignment, 40),
      (.expression, 43), (.dotted, 48)] },
    { shifts := statementShifts, gotos := [(.statements, 95), (.statement, 39), (.assignment, 40),
      (.expression, 43), (.dotted, 48)] },
    { shifts := expressionShifts ++ [(.rparen, 97)], gotos := [(.expression, 98), (.dotted, 63),
      (.arguments, 96)] },
    { shifts := operatorShifts ++ [(.rparen, 99)] },
    { shifts := [(.dot, 89)], reduces := some (60, afterExpression) },
    { reduces := some (14, [.kFunc]), atEnd := some (.reduce 14) },
    { reduces := some (19, afterStatement) },
    { reduces := some (21, afterStatement) },
    { shifts := [(.colon, 100), (.semi, 101)] },
    { reduces := some (25, [.colon, .semi]) },
    { shifts := expressionShifts, gotos := [(.expression, 102), (.dotted, 63)] },
    { reduces := some (36, afterStatement) },
    { shifts := expressionShifts, gotos := [(.expression, 103), (.dotted, 63)] },
    { shifts := expressionShifts, gotos := [(.expression, 104), (.dotted, 63)] },
    { shifts := expressionShifts, gotos := [(.expression, 105), (.dotted, 63)] },
    { shifts := expressionShifts, gotos := [(.expression, 106), (.dotted, 63)] },
    { shifts := expressionShifts, gotos := [(.expression, 107), (.dotted, 63)] },
    { shifts := expressionShifts, gotos := [(.expression, 108), (.dotted, 63)] },
    { shifts := expressionShifts, gotos := [(.expression, 109), (.dotted, 63)] }]

def rowsFrom78 : List Row :=
  [{ shifts := expressionShifts, gotos := [(.expression, 110), (.dotted, 63)] },
    { shifts := expressionShifts, gotos := [(.expression, 111), (.dotted, 63)] },
    { shifts := expressionShifts, gotos := [(.expression, 112), (.dotted, 63)] },
    { shifts := expressionShifts, gotos := [(.expression, 113), (.dotted, 63)] },
    { shifts := expressionShifts, gotos := [(.expression, 114), (.dotted, 63)] },
    { shifts := statementShifts, gotos := [(.statements, 115), (.statement, 39), (.assignment,
      40), (.expression, 43), (.dotted, 48)] },
    { shifts := [(.name, 118)], gotos := [(.assignment, 116), (.dotted, 117)] },
    { shifts := operatorShifts ++ [(.semi, 119)] },
    { shifts := operatorShifts ++ [(.semi, 120)] },
    { reduces := some (38, afterStatement) },
    { shifts := expressionShifts, gotos := [(.expression, 121), (.dotted, 63)] },
    { shifts := [(.name, 122)] },
    { reduces := some (39, afterExpression) },
    { reduces := some (40, afterExpression) },
    { reduces := some (41, afterExpression) },
    { shifts := statementShifts, gotos := [(.statements, 123), (.statement, 39), (.assignment,
      40), (.expression, 43), (.dotted, 48)] },
    { reduces := some (13, [.kFunc]), atEnd := some (.reduce 13) },
    { shifts := statementShifts ++ [(.rbrace, 124)], gotos := [(.statement, 65), (.assignment,
      40), (.expression, 43), (.dotted, 48)] },
    { shifts := [(.rparen, 125), (.comma, 126)] },
    { reduces := some (62, afterExpression) },
    { shifts := operatorShifts, reduces := some (64, [.rparen, .comma]) },
    { reduces := some (52, afterExpression) },
    { shifts := [(.name, 127)] },
    { reduces := some (24, afterStatement) },
    { shifts := operatorShifts ++ [(.rparen, 128)] },
    { shifts := arithmeticShifts, reduces := some (42, expressionEnds ++ [.eq, .greater, .less,
      .notEq, .greaterEq, .lessEq, .or, .and]) }]

def rowsFrom104 : List Row :=
  [{ shifts := arithmeticShifts, reduces := some (43, expressionEnds ++ [.eq, .greater, .less,
      .notEq, .greaterEq, .lessEq, .or, .and]) },
    { shifts := arithmeticShifts, reduces := some (44, expressionEnds ++ [.eq, .greater, .less,
      .notEq, .greaterEq, .lessEq, .or, .and]) },
    { shifts := arithmeticShifts, reduces := some (45, expressionEnds ++ [.eq, .greater, .less,
      .notEq, .greaterEq, .lessEq, .or, .and]) },
    { shifts := arithmeticShifts, reduces := some (46, expressionEnds ++ [.eq, .greater, .less,
      .notEq, .greaterEq, .lessEq, .or, .and]) },
    { shifts := arithmeticShifts, reduces := some (47, expressionEnds ++ [.eq, .greater, .less,
      .notEq, .greaterEq, .lessEq, .or, .and]) },
    { shifts := multiplicativeShifts, reduces := some (48, expressionEnds ++ [.minus, .eq,
      .greater, .less, .notEq, .greaterEq, .lessEq, .plus, .or, .and]) },
    { shifts := multiplicativeShifts, reduces := some (49, expressionEnds ++ [.minus, .eq,
      .greater, .less, .notEq, .greaterEq, .lessEq, .plus, .or, .and]) },
    { reduces := some (50, afterExpression) },
    { reduces := some (51, afterExpression) },
    { shifts := arithmeticShifts ++ comparisonShifts ++ [(.and, 82)], reduces := some (53,
      expressionEnds ++ [.or]) },
    { shifts := arithmeticShifts ++ comparisonShifts, reduces := some (54, expressionEnds ++ [.or,
      .and]) },
    { shifts := statementShifts ++ [(.rbrace, 129)], gotos := [(.statement, 65), (.assignment,
      40), (.expression, 43), (.dotted, 48)] },
    { shifts := [(.semi, 130)] },
    { shifts := [(.assign, 88), (.dot, 89)] },
    { reduces := some (27, [.assign, .dot]) },
    { reduces := some (35, afterStatement) },
    { reduces := some (37, afterStatement) },
    { shifts := operatorShifts, reduces := some (22, [.rparen, .semi]) },
    { reduces := some (26, afterExpression ++ [.assign, .dot]) },
    { shifts := statementShifts ++ [(.rbrace, 131)], gotos := [(.statement, 65), (.assignment,
      40), (.expression, 43), (.dotted, 48)] },
    { reduces := some (12, [.kFunc]), atEnd := some (.reduce 12) },
    { reduces := some (61, afterExpression) },
    { shifts := expressionShifts, gotos := [(.expression, 132), (.dotted, 63)] },
    { shifts := [(.semi, 133)] },
    { shifts := [(.lbrace, 134)] },
    { shifts := [(.kCatch, 137)], gotos := [(.catchers, 135), (.catcher, 136)] }]

def rowsFrom130 : List Row :=
  [{ shifts := expressionShifts, gotos := [(.expression, 138), (.dotted, 63)] },
    { reduces := some (11, [.kFunc]), atEnd := some (.reduce 11) },
    { shifts := operatorShifts, reduces := some (63, [.rparen, .comma]) },
    { reduces := some (23, afterStatement) },
    { shifts := statementShifts, gotos := [(.statements, 139), (.statement, 39), (.assignment,
      40), (.expression, 43), (.dotted, 48)] },
    { shifts := [(.kCatch, 137)], reduces := some (30, afterStatement), gotos := [(.catcher, 140)]
      },
    { reduces := some (32, afterStatement ++ [.kCatch]) },
    { shifts := [(.string, 141)] },
    { shifts := operatorShifts ++ [(.semi, 142)] },
    { shifts := statementShifts ++ [(.rbrace, 143)], gotos := [(.statement, 65), (.assignment,
      40), (.expression, 43), (.dotted, 48)] },
    { reduces := some (31, afterStatement ++ [.kCatch]) },
    { shifts := [(.lbrace, 144)] },
    { shifts := [(.name, 118)], gotos := [(.assignment, 145), (.dotted, 117)] },
    { shifts := [(.kElse, 146)], reduces := some (28, afterStatement) },
    { shifts := statementShifts, gotos := [(.statements, 147), (.statement, 39), (.assignment,
      40), (.expression, 43), (.dotted, 48)] },
    { shifts := [(.rparen, 148)] },
    { shifts := [(.lbrace, 149)] },
    { shifts := statementShifts ++ [(.rbrace, 150)], gotos := [(.statement, 65), (.assignment,
      40), (.expression, 43), (.dotted, 48)] },
    { shifts := [(.lbrace, 151)] },
    { shifts := statementShifts, gotos := [(.statements, 152), (.statement, 39), (.assignment,
      40), (.expression, 43), (.dotted, 48)] },
    { reduces := some (33, afterStatement ++ [.kCatch]) },
    { shifts := statementShifts, gotos := [(.statements, 153), (.statement, 39), (.assignment,
      40), (.expression, 43), (.dotted, 48)] },
    { shifts := statementShifts ++ [(.rbrace, 154)], gotos := [(.statement, 65), (.assignment,
      40), (.expression, 43), (.dotted, 48)] },
    { shifts := statementShifts ++ [(.rbrace, 155)], gotos := [(.statement, 65), (.assignment,
      40), (.expression, 43), (.dotted, 48)] },
    { reduces := some (29, afterStatement) },
    { reduces := some (34, afterStatement) }]

def rows : Array Row :=
  (rowsFrom0 ++ rowsFrom26 ++ rowsFrom52 ++ rowsFrom78 ++ rowsFrom104 ++ rowsFrom130).toArray

def Row.actionAt (row : Row) (t : Terminal) : Option LR.Action :=
  match row.shifts.lookup t, row.reduces with
  | some state, _ => some (.shift state)
  | none, some (rule, lookaheads) => if t ∈ lookaheads then some (.reduce rule) else none
  | none, none => none

def Row.action (row : Row) : Symbol → Option LR.Action
  | .terminal t => row.actionAt t
  | .endMark => row.atEnd
  | _ => none

def Row.goto (row : Row) : Symbol → Option Nat
  | .nonterminal n => row.gotos.lookup n
  | _ => none

/-- The parser's tables for the language. No state reduces without a look at the next token. -/
def automaton : LR.Automaton Symbol where
  action state symbol := (rows[state]?).bind fun row => row.action symbol
  goto state := (rows[state]?).bind fun row => if row.gotos.isEmpty then none else some row.goto
  defaulted _ := none
  rule number := (rules[number]?).map Rule.shape
  endMark := .endMark
  error := .error
  label := Symbol.label

end CallByNeed.Language
