import ComponentQuery.Selector.Comparison

/-!
# Selectors

A predicate compares the property at a path with an operand.  A selector is a name, which is empty
if any name will do, and the predicates that must all hold.
-/

namespace ComponentQuery

/-- A clause of a selector: the property to look at, and what is asked of it. -/
structure Predicate where
  /-- The names to follow, one inside the other. -/
  path : List String
  path_ne_nil : path ≠ []
  comparison : Comparison
  /-- Whether texts of different case differ. -/
  caseSensitive : Bool

namespace Predicate

/-- The predicate over a path, which may not be empty. -/
def ofPath? (path : List String) (comparison : Comparison) (caseSensitive : Bool) :
    Option Predicate :=
  if h : path = [] then none else some ⟨path, h, comparison, caseSensitive⟩

/-- The name of the property: the path with dots between its parts. -/
def name (p : Predicate) : String := String.intercalate "." p.path

/-- Equality of predicates. -/
instance : BEq Predicate :=
  ⟨fun p q => p.path == q.path && p.comparison == q.comparison &&
    p.caseSensitive == q.caseSensitive⟩

end Predicate

/-- What is asked of a component. -/
structure Selector where
  /-- The name of the component; an empty one leaves it open. -/
  name : String
  predicates : List Predicate
deriving BEq

end ComponentQuery
