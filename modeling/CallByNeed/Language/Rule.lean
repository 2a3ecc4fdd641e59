import CallByNeed.Language.Phrase

set_option autoImplicit false
set_option relaxedAutoImplicit false

/-!
The grammar of the language: its rules, and the phrase that each rule builds from the phrases of its
symbols.
-/

namespace CallByNeed.Language

structure Rule where
  head : Nonterminal
  body : List Symbol
  build : List Phrase → Option Phrase

def Rule.text (r : Rule) : String :=
  r.head.label ++ " -> " ++ " ".intercalate (r.body.map Symbol.label)

def Rule.shape (r : Rule) : LR.RuleShape Symbol :=
  ⟨r.head, r.body.length, r.text⟩

def binaryRule (sign : Terminal) (op : BinaryOp) : Rule :=
  ⟨.expression, [Nonterminal.expression, sign, Nonterminal.expression], fun
    | [.expr left, _, .expr right] => some (.expr (.binary op left right))
    | _ => none⟩

def literalRule (token : Terminal) (value : Phrase → Option Expr) : Rule :=
  ⟨.expression, [token], fun
    | [phrase] => (value phrase).map .expr
    | _ => none⟩

open Terminal Nonterminal

def startRule : Rule :=
  ⟨.start, [program], fun
    | [phrase] => some phrase
    | _ => none⟩

def programRules : List Rule :=
  [⟨program, [structs, funcs], fun
      | [.structs ss, .funcs fs] => some (.program ⟨ss, fs⟩)
      | _ => none⟩,
    ⟨program, [funcs], fun
      | [.funcs fs] => some (.program ⟨[], fs⟩)
      | _ => none⟩,
    ⟨structs, [structs, struct], fun
      | [.structs ss, .struct s] => some (.structs (ss ++ [s]))
      | _ => none⟩,
    ⟨structs, [struct], fun
      | [.struct s] => some (.structs [s])
      | _ => none⟩,
    ⟨struct, [kStruct, name, lbrace, fields, rbrace], fun
      | [_, .text n, _, .fields fs, _] => some (.struct ⟨n, fs⟩)
      | _ => none⟩,
    ⟨fields, [fields, field], fun
      | [.fields fs, .field f] => some (.fields (fs ++ [f]))
      | _ => none⟩,
    ⟨fields, [field], fun
      | [.field f] => some (.fields [f])
      | _ => none⟩,
    ⟨field, [name, colon, name, semi], fun
      | [.text n, _, .text t, _] => some (.field ⟨n, t⟩)
      | _ => none⟩]

def funcRules : List Rule :=
  [⟨funcs, [funcs, func], fun
      | [.funcs fs, .func f] => some (.funcs (fs ++ [f]))
      | _ => none⟩,
    ⟨funcs, [func], fun
      | [.func f] => some (.funcs [f])
      | _ => none⟩,
    ⟨func, [kFunc, name, lparen, params, rparen, colon, name, lbrace, statements, rbrace], fun
      | [_, .text n, _, .params ps, _, _, .text t, _, .stmts ss, _] =>
        some (.func ⟨n, ps, some t, ss⟩)
      | _ => none⟩,
    ⟨func, [kFunc, name, lparen, rparen, colon, name, lbrace, statements, rbrace], fun
      | [_, .text n, _, _, _, .text t, _, .stmts ss, _] => some (.func ⟨n, [], some t, ss⟩)
      | _ => none⟩,
    ⟨func, [kFunc, name, lparen, params, rparen, lbrace, statements, rbrace], fun
      | [_, .text n, _, .params ps, _, _, .stmts ss, _] => some (.func ⟨n, ps, none, ss⟩)
      | _ => none⟩,
    ⟨func, [kFunc, name, lparen, rparen, lbrace, statements, rbrace], fun
      | [_, .text n, _, _, _, .stmts ss, _] => some (.func ⟨n, [], none, ss⟩)
      | _ => none⟩,
    ⟨params, [params, comma, param], fun
      | [.params ps, _, .param p] => some (.params (ps ++ [p]))
      | _ => none⟩,
    ⟨params, [param], fun
      | [.param p] => some (.params [p])
      | _ => none⟩,
    ⟨param, [name, colon, name], fun
      | [.text n, _, .text t] => some (.param ⟨n, some t⟩)
      | _ => none⟩,
    ⟨param, [name], fun
      | [.text n] => some (.param ⟨n, none⟩)
      | _ => none⟩]

def statementRules : List Rule :=
  [⟨statements, [statements, statement], fun
      | [.stmts ss, .stmt s] => some (.stmts (ss ++ [s]))
      | _ => none⟩,
    ⟨statements, [statement], fun
      | [.stmt s] => some (.stmts [s])
      | _ => none⟩,
    ⟨statement, [assignment, semi], fun
      | [.assignment a, _] => some (.stmt (.assign a))
      | _ => none⟩,
    ⟨assignment, [dotted, assign, expression], fun
      | [.text n, _, .expr e] => some (.assignment ⟨n, e⟩)
      | _ => none⟩,
    ⟨statement, [kVar, declared, colon, name, semi], fun
      | [_, .text n, _, .text t, _] => some (.stmt (.declare n (some t)))
      | _ => none⟩,
    ⟨statement, [kVar, declared, semi], fun
      | [_, .text n, _] => some (.stmt (.declare n none))
      | _ => none⟩,
    ⟨declared, [name], fun
      | [.text n] => some (.text n)
      | _ => none⟩,
    ⟨dotted, [dotted, dot, name], fun
      | [.text path, _, .text n] => some (.text (path ++ "." ++ n))
      | _ => none⟩,
    ⟨dotted, [name], fun
      | [.text n] => some (.text n)
      | _ => none⟩,
    ⟨statement, [kIf, lparen, expression, rparen, lbrace, statements, rbrace], fun
      | [_, _, .expr c, _, _, .stmts ss, _] => some (.stmt (.branch c ss none))
      | _ => none⟩,
    ⟨statement, [kIf, lparen, expression, rparen, lbrace, statements, rbrace, kElse, lbrace,
        statements, rbrace], fun
      | [_, _, .expr c, _, _, .stmts ss, _, _, _, .stmts es, _] =>
        some (.stmt (.branch c ss (some es)))
      | _ => none⟩,
    ⟨statement, [kTry, lbrace, statements, rbrace, catchers], fun
      | [_, _, .stmts ss, _, .catchers cs] => some (.stmt (.attempt ss cs))
      | _ => none⟩,
    ⟨catchers, [catchers, catcher], fun
      | [.catchers cs, .catcher c] => some (.catchers (cs ++ [c]))
      | _ => none⟩,
    ⟨catchers, [catcher], fun
      | [.catcher c] => some (.catchers [c])
      | _ => none⟩,
    ⟨catcher, [kCatch, string, lbrace, statements, rbrace], fun
      | [_, .text x, _, .stmts ss, _] => some (.catcher ⟨x, ss⟩)
      | _ => none⟩,
    ⟨statement, [kFor, lparen, assignment, semi, expression, semi, assignment, rparen, lbrace,
        statements, rbrace], fun
      | [_, _, .assignment i, _, .expr c, _, .assignment u, _, _, .stmts ss, _] =>
        some (.stmt (.loop i c u ss))
      | _ => none⟩,
    ⟨statement, [kRaise, expression, semi], fun
      | [_, .expr e, _] => some (.stmt (.raise e))
      | _ => none⟩,
    ⟨statement, [expression, semi], fun
      | [.expr e, _] => some (.stmt (.eval e))
      | _ => none⟩,
    ⟨statement, [kReturn, expression, semi], fun
      | [_, .expr e, _] => some (.stmt (.ret (some e)))
      | _ => none⟩,
    ⟨statement, [kReturn, semi], fun
      | [_, _] => some (.stmt (.ret none))
      | _ => none⟩]

def expressionRules : List Rule :=
  [⟨expression, [Terminal.not, expression], fun
      | [_, .expr e] => some (.expr (.unary .not e))
      | _ => none⟩,
    ⟨expression, [minus, expression], fun
      | [_, .expr e] => some (.expr (.unary .neg e))
      | _ => none⟩,
    ⟨expression, [kNew, name], fun
      | [_, .text t] => some (.expr (.new t))
      | _ => none⟩,
    binaryRule eq .eq, binaryRule greater .gt, binaryRule less .lt, binaryRule notEq .ne,
    binaryRule greaterEq .ge, binaryRule lessEq .le, binaryRule plus .add, binaryRule minus .sub,
    binaryRule multiply .mul, binaryRule divide .div,
    ⟨expression, [lparen, expression, rparen], fun
      | [_, .expr e, _] => some (.expr e)
      | _ => none⟩,
    binaryRule Terminal.or .or, binaryRule Terminal.and .and,
    literalRule number fun
      | .number n => some (.int n)
      | _ => none,
    literalRule kTrue fun _ => some (.bool true),
    literalRule kFalse fun _ => some (.bool false),
    literalRule kNil fun _ => some .nil,
    literalRule string fun
      | .text s => some (.str s)
      | _ => none,
    ⟨expression, [dotted], fun
      | [.text n] => some (.expr (.var n))
      | _ => none⟩,
    ⟨expression, [name, lparen, arguments, rparen], fun
      | [.text n, _, .exprs es, _] => some (.expr (.call n es))
      | _ => none⟩,
    ⟨expression, [name, lparen, rparen], fun
      | [.text n, _, _] => some (.expr (.call n []))
      | _ => none⟩,
    ⟨arguments, [arguments, comma, expression], fun
      | [.exprs es, _, .expr e] => some (.exprs (es ++ [e]))
      | _ => none⟩,
    ⟨arguments, [expression], fun
      | [.expr e] => some (.exprs [e])
      | _ => none⟩]

def rules : Array Rule :=
  (startRule :: programRules ++ funcRules ++ statementRules ++ expressionRules).toArray

end CallByNeed.Language
