import ComponentQuery.Component.Record
import ComponentQuery.Matching.Acceptance
import ComponentQuery.Query.Event
import ComponentQuery.Selector.Reading

/-!
# The engine

An engine reads selectors in the way that its settings say and selects elements by them.  Its
records are given, or they are collected, and then the collector is not asked unless the
selector can be read.  Each element that is shown by an accepted record is selected once, at the
place of the first such record.
-/

namespace ComponentQuery

namespace Selector

variable {ε : Type} [DecidableEq ε]

/-- Whether a selector accepts a record. -/
def acceptsRecord (s : Selector) (r : Record ε) : Bool := s.accepts r.name r.properties

/-- The elements of the records that a selector accepts, each once, in the order of the first
record. -/
def select (s : Selector) (records : List (Record ε)) : List ε :=
  ((records.filter s.acceptsRecord).map (·.element)).eraseDups

end Selector

/-- What reads selectors and selects elements. -/
structure Engine where
  config : Config
deriving DecidableEq, Repr

namespace Engine

variable {σ ε : Type} [DecidableEq ε]

/-- The event of reading a selector. -/
def parseEvent (text : String) : Except SelectorError Selector → Event
  | .ok s => .parsed text s.name s.predicates.length
  | .error e => .rejected text e.problem.code

/-- Reads a selector. -/
def parse (engine : Engine) (text : String) : Logged (Except SelectorError Selector) :=
  let result := Selector.parse engine.config text
  ⟨result, [parseEvent text result]⟩

/-- Selects elements. -/
def select (s : Selector) (records : List (Record ε)) : Logged (List ε) :=
  let elements := s.select records
  ⟨elements, [.complete records.length elements.length]⟩

/-- Reads a selector and selects elements by it. -/
def filter (engine : Engine) (text : String) (records : List (Record ε)) :
    Logged (Except SelectorError (List ε)) :=
  (engine.parse text).andThen fun
    | .error e => .silent (.error e)
    | .ok s => (select s records).map .ok

/-- Reads a selector and selects elements by it among those that are collected.  If the text is no
selector the world stays as it is. -/
def queryAll (engine : Engine) (collect : Collector σ ε) (world : σ) (text : String) :
    Logged (Except SelectorError (List ε)) × σ :=
  let parsed := engine.parse text
  match parsed.value with
  | .error e => (⟨.error e, parsed.events⟩, world)
  | .ok s =>
    let (records, world') := collect world
    (parsed.andThen fun _ => (select s records).map .ok, world')

end Engine

end ComponentQuery
