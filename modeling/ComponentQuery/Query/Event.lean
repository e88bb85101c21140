import ComponentQuery.Selector.Diagnostic

/-!
# Events

What the engine reports of its work.  A `Logged α` is a result together with the events on the way
to it, in their order.
-/

namespace ComponentQuery

/-- Something worth reporting. -/
inductive Event where
  | parsed (selector name : String) (predicates : Nat)
  | rejected (selector : String) (code : Code)
  | complete (scanned matched : Nat)
deriving DecidableEq, Repr

namespace Event

/-- The place that all events come from. -/
def target : String := "compsel::query"

/-- How much an event matters. -/
def level : String := "DEBUG"

/-- The message of an event. -/
def message : Event → String
  | parsed .. => "parsed selector"
  | rejected .. => "rejected selector"
  | complete .. => "query complete"

/-- What an event tells, by name. -/
def fields : Event → List (String × Json)
  | parsed selector name predicates =>
    [("selector", .string selector), ("name", .string name),
      ("predicates", .number (.integer predicates))]
  | rejected selector code => [("selector", .string selector), ("code", .string code.text)]
  | complete scanned matched =>
    [("scanned", .number (.integer scanned)), ("matched", .number (.integer matched))]

end Event

/-- A result with the events on the way to it. -/
structure Logged (α : Type) where
  value : α
  events : List Event

namespace Logged

/-- A result without any event. -/
def silent {α : Type} (a : α) : Logged α := ⟨a, []⟩

/-- The result with a function applied to it. -/
def map {α β : Type} (f : α → β) (x : Logged α) : Logged β := ⟨f x.value, x.events⟩

/-- A further step that depends on the result. -/
def andThen {α β : Type} (x : Logged α) (f : α → Logged β) : Logged β :=
  ⟨(f x.value).value, x.events ++ (f x.value).events⟩

end Logged

end ComponentQuery
