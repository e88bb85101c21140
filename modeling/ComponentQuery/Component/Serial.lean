import ComponentQuery.Component.Snapshot
import ComponentQuery.Json.Reader
import ComponentQuery.Json.Text

/-!
# Snapshots as JSON

A tree is written as an object that leaves out a missing state and empty lists, and what may be
left out when writing may be missing when reading.
-/

namespace ComponentQuery.Snapshot

/-! ## Writing -/

/-- A list of written trees as a member, unless it is empty. -/
def listMember (name : String) : List Json → List (String × Json)
  | [] => []
  | vs => [(name, .array vs)]

mutual

/-- A tree as JSON. -/
def toJson : Snapshot → Json
  | ⟨tag, id, component, children, shadow⟩ =>
    .object
      ([("tag", .string tag), ("id", .string id)] ++
        (component.map fun state => ("component", state)).toList ++
        listMember "children" (toJsonAll children) ++
        listMember "shadow" (toJsonAll shadow))

/-- Trees as JSON, one after the other. -/
def toJsonAll : List Snapshot → List Json
  | [] => []
  | s :: ss => toJson s :: toJsonAll ss

end

/-- A tree as a text. -/
def text (s : Snapshot) : String := s.toJson.text

/-! ## Reading -/

/-- The fields of an element, whose children and shadow are read by the given reader. -/
def fieldsWith (read : Json.Reader (List Snapshot)) : List (Json.Field Snapshot) :=
  [.of "tag" .required .string fun tag s => { s with tag := tag },
    .of "id" .required .string fun id s => { s with id := id },
    .of "component" .defaulted (.optional .value) fun state s => { s with component := state },
    .of "children" .defaulted read fun ss s => { s with children := ss },
    .of "shadow" .defaulted read fun ss s => { s with shadow := ss }]

/-- Reads a tree of at most so many levels. -/
def readerWithin : Nat → Json.Reader Snapshot
  | 0 => fun _ _ => Json.malformed
  | levels + 1 =>
    .fields "ComponentSnapshot" (fieldsWith (.list (readerWithin levels))) (leaf "" "")

/-- Reads a tree.  Each level takes brackets of its own, so that there are no more levels than
brackets may be open. -/
def reader : Json.Reader Snapshot := readerWithin Json.depthLimit

/-- The tree that a text describes. -/
def ofText (text : String) : Except Json.Fault Snapshot := Json.read reader text

end ComponentQuery.Snapshot
