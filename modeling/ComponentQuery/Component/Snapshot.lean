import ComponentQuery.Component.Record
import ComponentQuery.Unicode.Case

/-!
# Snapshots of component trees

A snapshot is a tree of elements.  Each has a tag and an identity, perhaps the state of a
component, children, and elements of a tree of its own, the shadow.

`Snapshot.records` lists the components of a tree: an element comes before all that is below it,
and its shadow before its children.  An element without state of its own has that of the nearest
element above it that has one.
-/

namespace ComponentQuery

/-- An element with all that is below it. -/
structure Snapshot where
  tag : String
  id : String
  /-- The state of the component, if the element has one. -/
  component : Option Json
  children : List Snapshot
  shadow : List Snapshot

namespace Snapshot

/-- An element with nothing below it and without state. -/
def leaf (tag id : String) : Snapshot := ⟨tag, id, none, [], []⟩

/-- The element with the given state. -/
def withComponent (s : Snapshot) (state : Json) : Snapshot := { s with component := some state }

/-- The element with one more child, the last. -/
def withChild (s child : Snapshot) : Snapshot := { s with children := s.children ++ [child] }

/-- The element with one more element in its shadow, the last. -/
def withShadowChild (s child : Snapshot) : Snapshot := { s with shadow := s.shadow ++ [child] }

/-! ## Equality -/

/-- Equality of states, if there are any. -/
def eqComponent : Option Json → Option Json → Bool
  | none, none => true
  | some a, some b => a == b
  | _, _ => false

mutual

/-- Equality of trees. -/
def eq : Snapshot → Snapshot → Bool
  | ⟨tag, id, component, children, shadow⟩, ⟨tag', id', component', children', shadow'⟩ =>
    tag == tag' && id == id' && eqComponent component component' && eqAll children children' &&
      eqAll shadow shadow'

/-- Equality of lists of trees. -/
def eqAll : List Snapshot → List Snapshot → Bool
  | [], [] => true
  | s :: ss, t :: ts => eq s t && eqAll ss ts
  | _, _ => false

end

instance : BEq Snapshot := ⟨eq⟩

/-! ## Records -/

/-- The name of the component of a tag. -/
def nameOfTag (tag : String) : String := String.ofList (Unicode.lowerCase tag.toList)

mutual

/-- The records of a tree below an element with the given properties. -/
def recordsBelow (inherited : Option Json) : Snapshot → List (Record String)
  | ⟨tag, id, component, children, shadow⟩ =>
    let properties := component <|> inherited
    ⟨some (nameOfTag tag), properties, id⟩ ::
      (recordsOfAll properties shadow ++ recordsOfAll properties children)

/-- The records of some trees, one after the other. -/
def recordsOfAll (inherited : Option Json) : List Snapshot → List (Record String)
  | [] => []
  | s :: ss => recordsBelow inherited s ++ recordsOfAll inherited ss

end

/-- The records of a tree. -/
def records (s : Snapshot) : List (Record String) := s.recordsBelow none

/-- Collects the records of a tree, which stays as it is. -/
def collector : Collector Snapshot String := fun s => (s.records, s)

end Snapshot

end ComponentQuery
