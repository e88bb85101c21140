import ComponentQuery.Component.Serial
import ComponentQuery.Query.Engine

/-!
# Sessions

A session builds trees element by element, keeps selectors and records, and asks its engine about
them.  `Session.run` carries out one command: it gives the answer, the events on the way, and the
session as it is afterwards.  A command that lacks something to work on changes nothing.
-/

namespace ComponentQuery

/-- Something that a session can be asked to do. -/
inductive Command where
  /-- Take an engine with the given settings. -/
  | useEngine (config : Config)
  /-- Begin an element below the current one. -/
  | openElement (tag id : String) (component : Option Json)
  /-- Give the current element a state. -/
  | setComponent (state : Json)
  /-- End the current element: it goes to the children of the one around it, or to its shadow; if
  there is none around it, it is the tree. -/
  | closeElement (shadow : Bool)
  /-- Read the tree from a text. -/
  | loadTree (text : String)
  | showTree
  /-- Select elements of the tree. -/
  | queryTree (selector : String)
  /-- Take the given records, or those of the tree. -/
  | setRecords (records : Option (List (Record String)))
  /-- Select elements of the records. -/
  | filterRecords (selector : String)
  /-- Select elements of the records, which are collected by a collector that counts its calls. -/
  | collectRecords (selector : String)
  /-- Read a selector and keep it under a name. -/
  | keepSelector (name selector : String)
  /-- Select elements of the records by a selector that is kept. -/
  | selectRecords (name : String)

/-- What a command may lack. -/
inductive Lack where
  | tree
  | openElement
  | selector
deriving DecidableEq, Repr

/-- The message about what a command lacks. -/
def Lack.message : Lack → String
  | tree => "no tree"
  | openElement => "nothing open"
  | selector => "no such selector"

/-- The answer to a command. -/
inductive Answer where
  | engine (config : Config)
  | depth (elements : Nat)
  | component (state : Json)
  /-- The number of elements that are still open, with the innermost or, if none is, the tree. -/
  | closed (elements : Nat) (top : Snapshot)
  | loaded (sameAsBefore : Bool)
  | unreadable (fault : Json.Fault)
  | tree (s : Snapshot)
  | elements (es : List String)
  | count (records : Nat)
  | collected (result : Except SelectorError (List String)) (calls : Nat)
  | kept (s : Selector) (sameAsBefore : Option Bool)
  | refused (e : SelectorError)
  | lacking (what : Lack)

/-- The state of a session. -/
structure Session where
  engine : Engine := ⟨{}⟩
  /-- The elements that are open, innermost first. -/
  opened : List Snapshot := []
  tree : Option Snapshot := none
  selectors : List (String × Selector) := []
  records : List (Record String) := []
  /-- How often the collector has been called. -/
  calls : Nat := 0

namespace Session

/-- The collector of a session counts its calls. -/
def collector : Collector Session String := fun s => (s.records, { s with calls := s.calls + 1 })

/-- The answer to a selection. -/
def selection : Except SelectorError (List String) → Answer
  | .ok es => .elements es
  | .error e => .refused e

/-- Keeps a selector under a name, which forgets the one that was kept under it. -/
def keep (s : Session) (name : String) (selector : Selector) : Session :=
  { s with selectors := (name, selector) :: s.selectors.filter (·.1 != name) }

/-- Ends the innermost open element. -/
def close (s : Session) (shadow : Bool) : Option (Answer × Session) :=
  match s.opened with
  | [] => none
  | [root] => some (.closed 0 root, { s with opened := [], tree := some root })
  | inner :: outer :: rest =>
    let outer := if shadow then outer.withShadowChild inner else outer.withChild inner
    some (.closed (rest.length + 1) outer, { s with opened := outer :: rest })

/-- A command that lacks something. -/
def lack (s : Session) (what : Lack) : Logged Answer × Session := (.silent (.lacking what), s)

/-- Carries out a command. -/
def run (s : Session) : Command → Logged Answer × Session
  | .useEngine config => (.silent (.engine config), { s with engine := ⟨config⟩ })
  | .openElement tag id component =>
    (.silent (.depth (s.opened.length + 1)),
      { s with opened := { Snapshot.leaf tag id with component } :: s.opened })
  | .setComponent state =>
    match s.opened with
    | [] => s.lack .openElement
    | inner :: rest =>
      (.silent (.component state), { s with opened := inner.withComponent state :: rest })
  | .closeElement shadow =>
    match s.close shadow with
    | none => s.lack .openElement
    | some (answer, s) => (.silent answer, s)
  | .loadTree text =>
    match Snapshot.ofText text with
    | .error fault => (.silent (.unreadable fault), s)
    | .ok tree =>
      (.silent (.loaded (s.tree.any (· == tree))), { s with tree := some tree })
  | .showTree =>
    match s.tree with
    | none => s.lack .tree
    | some tree => (.silent (.tree tree), s)
  | .queryTree selector =>
    match s.tree with
    | none => s.lack .tree
    | some tree => ((s.engine.queryAll Snapshot.collector tree selector).1.map selection, s)
  | .setRecords given =>
    let records := given.getD ((s.tree.map Snapshot.records).getD [])
    (.silent (.count records.length), { s with records })
  | .filterRecords selector => ((s.engine.filter selector s.records).map selection, s)
  | .collectRecords selector =>
    let (result, s) := s.engine.queryAll collector s selector
    (result.map (Answer.collected · s.calls), s)
  | .keepSelector name selector =>
    let parsed := s.engine.parse selector
    match parsed.value with
    | .error e => (parsed.map fun _ => .refused e, s)
    | .ok selector =>
      let before := s.selectors.lookup name
      (parsed.map fun _ => .kept selector (before.map (· == selector)), s.keep name selector)
  | .selectRecords name =>
    match s.selectors.lookup name with
    | none => s.lack .selector
    | some selector => ((Engine.select selector s.records).map .elements, s)

/-- Carries out commands one after the other. -/
def runAll (s : Session) : List Command → List (Logged Answer)
  | [] => []
  | c :: cs =>
    let (answer, s) := s.run c
    answer :: s.runAll cs

end Session

end ComponentQuery
