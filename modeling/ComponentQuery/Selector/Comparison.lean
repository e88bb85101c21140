import ComponentQuery.Regex
import ComponentQuery.Number.Notation
import ComponentQuery.Selector.Operator

/-!
# Operands and comparisons

An operand is what a selector writes after an operator.  A `Comparison` holds an operator together
with an operand that it can take, so that numbers, booleans and regular expressions are compared
by equality only; `Comparison.ofOperand` gives back an operand that its operator cannot take.

Equality of operands is that of what they stand for: doubles are equal as numbers, so that there is
one that is not equal to itself, and regular expressions are equal if they are written alike.
-/

namespace ComponentQuery

/-- A literal in a selector. -/
inductive Operand where
  | text (s : String)
  | number (x : Binary64)
  | boolean (b : Bool)
  | regex (r : Regex)

namespace Operand

/-- The operand in messages; a text stands for itself, without quotation marks. -/
def display : Operand → String
  | text s => s
  | number x => x.plainText
  | boolean b => if b then "true" else "false"
  | regex r => r.text

/-- Equality of operands. -/
def eq : Operand → Operand → Bool
  | text s, text t => s == t
  | number x, number y => x == y
  | boolean b, boolean c => b == c
  | regex q, regex r => q == r
  | _, _ => false

instance : BEq Operand := ⟨eq⟩

end Operand

/-- An operator with an operand that it can take. -/
inductive Comparison where
  | truthy
  | equals (operand : Operand)
  | relates (relation : TextRelation) (text : String)

namespace Comparison

/-- The comparison of an operator and an operand.  The operand is given back if the operator cannot
take it: truthiness takes none, and the relations between texts take texts only. -/
def ofOperand : Operator → Operand → Except Operand Comparison
  | .equals, operand => .ok (equals operand)
  | .relates relation, .text s => .ok (relates relation s)
  | .relates _, operand => .error operand
  | .truthy, operand => .error operand

/-- The operator of a comparison. -/
def operator : Comparison → Operator
  | truthy => .truthy
  | equals _ => .equals
  | relates relation _ => .relates relation

/-- The operand of a comparison, if it has one. -/
def operand? : Comparison → Option Operand
  | truthy => none
  | equals operand => some operand
  | relates _ s => some (.text s)

/-- Equality of comparisons. -/
def eq : Comparison → Comparison → Bool
  | truthy, truthy => true
  | equals v, equals w => v == w
  | relates q s, relates r t => q == r && s == t
  | _, _ => false

instance : BEq Comparison := ⟨eq⟩

end Comparison

end ComponentQuery
