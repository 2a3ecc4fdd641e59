import CallByNeed.Language.Scope
import CallByNeed.Language.Value

set_option autoImplicit false
set_option relaxedAutoImplicit false

/-!
What can stop a run: the errors that the language defines, which are of three kinds, and the others.
-/

namespace CallByNeed.Language

inductive ErrorKind where
  | typeError | nameError | faultError
deriving DecidableEq, Repr, Inhabited

def ErrorKind.text : ErrorKind → String
  | .typeError => "TYPE_ERROR"
  | .nameError => "NAME_ERROR"
  | .faultError => "FAULT_ERROR"

inductive LanguageError where
  | functionNotFound (name : String)
  | arityNotFound (name : String) (arity : Nat)
  | tooManyInputArguments
  | undefinedAssignment (name : String)
  | duplicateDefinition (name : String)
  | variableNotFound (name : String)
  | incompatibleTypes (left right : ValueType) (op : BinaryOp)
  | incompatibleOperator (op : BinaryOp) (type : ValueType)
  | incompatibleOperand (op : UnaryOp)
  | branchCondition
  | loopCondition
  | raiseNotString
  | uncaught
deriving DecidableEq, Repr, Inhabited

def LanguageError.kind : LanguageError → ErrorKind
  | .functionNotFound _ | .arityNotFound _ _ | .tooManyInputArguments | .undefinedAssignment _
  | .duplicateDefinition _ | .variableNotFound _ => .nameError
  | .incompatibleTypes _ _ _ | .incompatibleOperator _ _ | .incompatibleOperand _
  | .branchCondition | .loopCondition | .raiseNotString => .typeError
  | .uncaught => .faultError

def LanguageError.description : LanguageError → String
  | .functionNotFound name => "Function " ++ name ++ " not found"
  | .arityNotFound name arity =>
    "Function " ++ name ++ " taking " ++ toString arity ++ " params not found"
  | .tooManyInputArguments => "No inputi() function that takes > 1 parameter"
  | .undefinedAssignment name => "Undefined variable " ++ name ++ " in assignment"
  | .duplicateDefinition name => "Duplicate definition for variable " ++ name
  | .variableNotFound name => "Variable " ++ name ++ " not found"
  | .incompatibleTypes left right op =>
    "Incompatible types " ++ left.text ++ " " ++ right.text ++ " for " ++ op.text ++ " operation"
  | .incompatibleOperator op type =>
    "Incompatible operator " ++ op.text ++ " for type " ++ type.text
  | .incompatibleOperand op => "Incompatible type for " ++ op.text ++ " operation"
  | .branchCondition => "Incompatible type for if condition"
  | .loopCondition => "Incompatible type for for condition"
  | .raiseNotString => "Raise condition does not evaluate to a string"
  | .uncaught => "Raise condition is not caught"

/-- An error report: its kind, the line unless it is missing or zero, and the description unless it
is missing or empty. -/
def reportText (kind : ErrorKind) (description : Option String) (line : Option Int) : String :=
  let place := match line with
    | none => ""
    | some 0 => ""
    | some n => " on line " ++ toString n
  let description := match description with
    | none => ""
    | some "" => ""
    | some text => ": " ++ text
  "ErrorType." ++ kind.text ++ place ++ description

inductive Fault where
  | language (e : LanguageError)
  /-- The type of an expression without a value was asked for. -/
  | noType
  /-- The content of an expression without a value was asked for. -/
  | noValue
  /-- A text was joined with something that has none, as in printing nil. -/
  | noText
  /-- A string without a text was joined with a string, which has none either if so said. -/
  | missingText (both : Bool)
  /-- An integer was asked for when the given inputs were used up. -/
  | noInput
  /-- The standard input ended. -/
  | endOfInput
  | divisionByZero
  | integer (fault : Text.IntegerFault)
  | scope (fault : ScopeFault)
deriving Repr, Inhabited

def Fault.message : Fault → String
  | .language e => reportText e.kind (some e.description) none
  | .noType => "'NoneType' object has no attribute 'type'"
  | .noValue => "'NoneType' object has no attribute 'value'"
  | .noText => "can only concatenate str (not \"NoneType\") to str"
  | .missingText false => "unsupported operand type(s) for +: 'NoneType' and 'str'"
  | .missingText true => "unsupported operand type(s) for +: 'NoneType' and 'NoneType'"
  | .noInput =>
    "int() argument must be a string, a bytes-like object or a real number, not 'NoneType'"
  | .endOfInput => "EOF when reading a line"
  | .divisionByZero => "integer division or modulo by zero"
  | .integer fault => fault.message
  | .scope fault => fault.message

def OperatorFault.toFault (op : BinaryOp) : OperatorFault → Fault
  | .types left right => .language (.incompatibleTypes left right op)
  | .undefinedOn type => .language (.incompatibleOperator op type)
  | .missingLeft right => .missingText (right = .missing)
  | .missingRight => .noText
  | .divisionByZero => .divisionByZero

end CallByNeed.Language
