import ComponentQuery.Matching.Property
import ComponentQuery.Matching.Text
import ComponentQuery.Selector.Predicate

/-!
# What a selector accepts

A predicate looks at the value at its path.  A value that is not there has no property that any
predicate could ask for, and a value of another type than the operand equals nothing.  A selector
accepts a component if its name is the one wanted and all predicates hold of its properties.
-/

namespace ComponentQuery

/-- Whether a value equals an operand; a regular expression has to match it.  If case does not
count, the regular expression sees the upper case of the text. -/
def Operand.equalsShape (caseSensitive : Bool) : Operand → Shape → Bool
  | .regex r, .text s => r.accepts (caseForm caseSensitive s.toList)
  | .text v, .text s => caseForm caseSensitive s.toList == caseForm caseSensitive v.toList
  | .number v, .number x => x == v
  | .boolean v, .boolean b => b == v
  | _, _ => false

/-- Whether a comparison holds of a value that is there. -/
def Comparison.holds (caseSensitive : Bool) : Comparison → Shape → Bool
  | .truthy, subject => subject.isTruthy
  | .equals v, subject => v.equalsShape caseSensitive subject
  | .relates r v, .text s =>
    r.holds (caseForm caseSensitive s.toList) (caseForm caseSensitive v.toList)
  | .relates _ _, _ => false

namespace Predicate

/-- Whether a predicate holds of what is at its path, if anything is. -/
def holds (p : Predicate) (subject : Option Shape) : Bool :=
  subject.any (p.comparison.holds p.caseSensitive)

/-- Whether a predicate holds of the properties of a component, if it has any. -/
def accepts (p : Predicate) (properties : Option Json) : Bool :=
  p.holds ((properties.bind (·.resolve? p.path)).map Json.shape)

end Predicate

namespace Selector

/-- Whether a name is the one wanted. -/
def acceptsName (s : Selector) (name : Option String) : Bool :=
  s.name == "" || name == some s.name

/-- Whether a selector accepts a component. -/
def accepts (s : Selector) (name : Option String) (properties : Option Json) : Bool :=
  s.acceptsName name && s.predicates.all (·.accepts properties)

end Selector

end ComponentQuery
