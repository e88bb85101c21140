import ComponentQuery.Json.Value

/-!
# Records of components

A selector is asked about records.  They are given as a list, or a collector finds them, which may
change the world that it finds them in.
-/

namespace ComponentQuery

/-- What is known of one component: its name and properties, if it has any, and the element that
shows it, of some type.  Several components may be shown by one element. -/
structure Record (ε : Type) where
  name : Option String
  properties : Option Json
  element : ε

/-- Collects records in a world `σ`. -/
abbrev Collector (σ ε : Type) := σ → List (Record ε) × σ

end ComponentQuery
