import CallByNeed.Grammar.Production

set_option autoImplicit false
set_option relaxedAutoImplicit false

/-!
The faults of grammars and of the work on them.
-/

namespace CallByNeed.Grammar

/-- What is asked of the rule for the start symbol when there is none. -/
inductive StartUse where
  | symbols
  | size
  | element
deriving DecidableEq, Repr

inductive DefinitionFault where
  /-- The name of a rule is a token. -/
  | tokenName (site : Site) (name : String)
  | badName (site : Site) (name : String)
  /-- A literal has more than one character. -/
  | longLiteral (site : Site) (literal name : String)
  | badSymbol (site : Site) (symbol name : String)
  /-- No name follows the mark for a rule's precedence. -/
  | noPrecedenceName (site : Site)
  /-- More than a name follows the mark for a rule's precedence. -/
  | misplacedPrecedence (site : Site)
  | unknownPrecedence (site : Site) (name : String)
  | duplicateRule (site : Site) (rule : String) (previous : Site)
  | precedenceTwice (symbol : String)
  | badAssociativity
  | undefinedStart (name : String)
deriving DecidableEq, Repr

def DefinitionFault.message : DefinitionFault → String
  | .tokenName site name =>
    site.text ++ ": Illegal rule name " ++ Text.quoted name ++ ". Already defined as a token"
  | .badName site name => site.text ++ ": Illegal rule name " ++ Text.quoted name
  | .longLiteral site literal name =>
    site.text ++ ": Literal token " ++ literal ++ " in rule " ++ Text.quoted name ++
      " may only be a single character"
  | .badSymbol site symbol name =>
    site.text ++ ": Illegal name " ++ Text.quoted symbol ++ " in rule " ++ Text.quoted name
  | .noPrecedenceName site => site.text ++ ": Syntax error. Nothing follows %prec"
  | .misplacedPrecedence site =>
    site.text ++ ": Syntax error. %prec can only appear at the end of a grammar rule"
  | .unknownPrecedence site name =>
    site.text ++ ": Nothing known about the precedence of " ++ Text.quoted name
  | .duplicateRule site rule previous =>
    site.text ++ ": Duplicate rule " ++ rule ++ ". Previous definition at " ++ previous.text
  | .precedenceTwice symbol => "Precedence already specified for terminal " ++ Text.quoted symbol
  | .badAssociativity => "Associativity must be one of 'left','right', or 'nonassoc'"
  | .undefinedStart name => "start symbol " ++ name ++ " undefined"

inductive Fault where
  | definition (fault : DefinitionFault)
  | line (fault : LineFault)
  /-- A precedence is set after a rule was added. -/
  | latePrecedence
  /-- A symbol of a rule is the empty text. -/
  | emptySymbol
  /-- There is no rule, or no rule of a number. -/
  | noRule
  /-- A rule has no symbol at a place. -/
  | noPart
  /-- A symbol has no rules or no set. -/
  | undefinedSymbol (name : String)
  /-- There is no start symbol. -/
  | noStart (use : StartUse)
  | unknownMethod (method : String)
  /-- A state can accept and reduce at one symbol. -/
  | unknownConflict (state : Nat)
deriving DecidableEq, Repr

def Fault.message : Fault → String
  | .definition fault => fault.message
  | .line fault => fault.message
  | .latePrecedence => "Must call set_precedence() before add_production()"
  | .emptySymbol => "string index out of range"
  | .noRule => "list index out of range"
  | .noPart => "tuple index out of range"
  | .undefinedSymbol name => Text.quoted name
  | .noStart .symbols => "'NoneType' object has no attribute 'prod'"
  | .noStart .size => "object of type 'NoneType' has no len()"
  | .noStart .element => "'NoneType' object is not subscriptable"
  | .unknownMethod method => "Unsupported method " ++ method
  | .unknownConflict state => "Unknown conflict in state " ++ toString state

end CallByNeed.Grammar
