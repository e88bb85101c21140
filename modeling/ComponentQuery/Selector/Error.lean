import ComponentQuery.Selector.Operator

/-!
# Errors in selectors

What is wrong with a text that is not a selector.  A `SelectorError` is the whole text together with
a problem; the place of a problem is the number of characters before it.
-/

namespace ComponentQuery

/-- What is being read. -/
inductive Stage where
  | quotedString
  | regularExpression
  | propertyPath
  | operator
  | attributeValue
deriving DecidableEq, Repr

namespace Stage

/-- The name of a stage. -/
def name : Stage → String
  | quotedString => "quoted_string"
  | regularExpression => "regular_expression"
  | propertyPath => "property_path"
  | operator => "operator"
  | attributeValue => "attribute_value"

/-- The stage in messages. -/
def text : Stage → String
  | quotedString => "parsing quoted string"
  | regularExpression => "parsing regular expression"
  | propertyPath => "parsing property path"
  | operator => "parsing operator"
  | attributeValue => "parsing attribute value"

/-- All stages. -/
def all : List Stage :=
  [quotedString, regularExpression, propertyPath, operator, attributeValue]

/-- The stage of a name. -/
def ofName? (s : String) : Option Stage := all.find? (·.name == s)

end Stage

/-- What is wrong with a text. -/
inductive Problem where
  /-- The text ends inside of something. -/
  | unexpectedEnd (position : Nat) (stage : Option Stage)
  /-- A character cannot stand where it does. -/
  | unexpectedSymbol (symbol : Char) (position : Nat) (stage : Option Stage)
  /-- A regular expression is refused. -/
  | invalidRegex (position : Nat) (message : String)
  /-- A regular expression follows an operator other than equality. -/
  | regexOperator (position : Nat) (operator : Operator)
  /-- A number or a boolean follows a relation between texts. -/
  | nonTextOperand (position : Nat) (operator : Operator) (operand : String)
  /-- There is neither a name nor a predicate. -/
  | empty
deriving DecidableEq, Repr

/-- Whether the characters of a text are at fault or what they mean together. -/
inductive ErrorClass where
  | lexical
  | semantic
deriving DecidableEq, Repr

/-- The kinds of problems, each with a code. -/
inductive Code where
  | unexpectedEnd
  | unexpectedSymbol
  | invalidRegex
  | regexOperator
  | nonTextOperand
  | empty
deriving DecidableEq, Repr

namespace Code

/-- The code in messages. -/
def text : Code → String
  | unexpectedEnd => "E_SELECTOR_UNEXPECTED_END"
  | unexpectedSymbol => "E_SELECTOR_UNEXPECTED_SYMBOL"
  | invalidRegex => "E_SELECTOR_INVALID_REGEX"
  | regexOperator => "E_SELECTOR_REGEX_OPERATOR"
  | nonTextOperand => "E_SELECTOR_NON_STRING_OPERAND"
  | empty => "E_SELECTOR_EMPTY"

/-- The name in serialised form. -/
def name : Code → String
  | unexpectedEnd => "ESelectorUnexpectedEnd"
  | unexpectedSymbol => "ESelectorUnexpectedSymbol"
  | invalidRegex => "ESelectorInvalidRegex"
  | regexOperator => "ESelectorRegexOperator"
  | nonTextOperand => "ESelectorNonStringOperand"
  | empty => "ESelectorEmpty"

/-- All codes. -/
def all : List Code :=
  [unexpectedEnd, unexpectedSymbol, invalidRegex, regexOperator, nonTextOperand, empty]

end Code

namespace ErrorClass

/-- The name of a class. -/
def name : ErrorClass → String
  | lexical => "Lexical"
  | semantic => "Semantic"

end ErrorClass

namespace Problem

/-- The place of a problem, if it has one. -/
def position? : Problem → Option Nat
  | unexpectedEnd position _ => some position
  | unexpectedSymbol _ position _ => some position
  | invalidRegex position _ => some position
  | regexOperator position _ => some position
  | nonTextOperand position .. => some position
  | empty => none

/-- The character at fault, if it is one. -/
def symbol? : Problem → Option Char
  | unexpectedSymbol symbol .. => some symbol
  | _ => none

/-- What was being read. -/
def stage? : Problem → Option Stage
  | unexpectedEnd _ stage => stage
  | unexpectedSymbol _ _ stage => stage
  | invalidRegex .. => some .regularExpression
  | regexOperator .. => some .attributeValue
  | nonTextOperand .. => some .attributeValue
  | empty => none

/-- The class of a problem. -/
def errorClass : Problem → ErrorClass
  | regexOperator .. => .semantic
  | nonTextOperand .. => .semantic
  | _ => .lexical

/-- The code of a problem. -/
def code : Problem → Code
  | unexpectedEnd .. => .unexpectedEnd
  | unexpectedSymbol .. => .unexpectedSymbol
  | invalidRegex .. => .invalidRegex
  | regexOperator .. => .regexOperator
  | nonTextOperand .. => .nonTextOperand
  | empty => .empty

/-- The name of the kind of a problem. -/
def kind : Problem → String
  | unexpectedEnd .. => "UnexpectedEnd"
  | unexpectedSymbol .. => "UnexpectedSymbol"
  | invalidRegex .. => "InvalidRegex"
  | regexOperator .. => "RegexOperator"
  | nonTextOperand .. => "NonStringOperand"
  | empty => "EmptySelector"

end Problem

/-- A text that is not a selector, and why. -/
structure SelectorError where
  selector : String
  problem : Problem
deriving DecidableEq, Repr

/-- The end of a message that tells what was being read. -/
def duringStage : Option Stage → String
  | none => ""
  | some stage => " during " ++ stage.text

/-- The message of an error. -/
def SelectorError.message (e : SelectorError) : String :=
  let whole := "`" ++ e.selector ++ "`"
  let failed := "error while parsing selector " ++ whole
  match e.problem with
  | .unexpectedEnd _ stage => "unexpected end of selector " ++ whole ++ duringStage stage
  | .unexpectedSymbol symbol position stage =>
    failed ++ " - unexpected symbol \"" ++ symbol.toString ++ "\" at position " ++
      toString position ++ duringStage stage
  | .invalidRegex _ message => failed ++ ": " ++ message
  | .regexOperator _ operator =>
    failed ++ " - cannot use " ++ operator.text ++ " in attribute with regular expression"
  | .nonTextOperand _ operator operand =>
    failed ++ " - cannot use " ++ operator.text ++
      " in attribute with non-string matching value - " ++ operand
  | .empty => failed ++ " - selector cannot be empty"

end ComponentQuery
