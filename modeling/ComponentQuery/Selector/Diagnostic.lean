import ComponentQuery.Json.Reader
import ComponentQuery.Json.Text
import ComponentQuery.Selector.Error

/-!
# Diagnostics

A diagnostic tells of an error in a selector in a form that can be stored: a code, the message, the
span of characters at fault, and notes.  It is written as JSON by `Diagnostic.toJson` and read
again by `Diagnostic.reader`.
-/

namespace ComponentQuery

/-- The characters from one place of a text up to another. -/
structure Span where
  start : Nat
  stop : Nat
deriving DecidableEq, Repr

/-- An account of an error in a selector. -/
structure Diagnostic where
  code : Code
  message : String
  span : Option Span
  notes : List String
deriving DecidableEq, Repr

namespace Problem

/-- The characters at fault: the unexpected one, or none at the place of the problem. -/
def span? (p : Problem) : Option Span :=
  p.position?.map fun start => ⟨start, if p.symbol?.isSome then start + 1 else start⟩

/-- A note on what was being read. -/
def notes (p : Problem) : List String :=
  (p.stage?.map fun stage => "while " ++ stage.text).toList

end Problem

/-- The account of an error. -/
def SelectorError.diagnostic (e : SelectorError) : Diagnostic :=
  ⟨e.problem.code, e.message, e.problem.span?, e.problem.notes⟩

/-! ## Serialised form -/

/-- A span as JSON. -/
def Span.toJson (s : Span) : Json :=
  .object [("start", .number (.integer s.start)), ("end", .number (.integer s.stop))]

/-- Reads a span. -/
def Span.reader : Json.Reader Span :=
  .fields "SourceSpan"
    [.of "start" .required .count fun n s => { s with start := n },
      .of "end" .required .count fun n s => { s with stop := n }]
    ⟨0, 0⟩

namespace Diagnostic

/-- The diagnostic in one line. -/
def text (d : Diagnostic) : String := d.code.text ++ ": " ++ d.message

/-- A diagnostic as JSON. -/
def toJson (d : Diagnostic) : Json :=
  .object
    [("code", .string d.code.name),
      ("message", .string d.message),
      ("span", match d.span with
        | none => .null
        | some s => s.toJson),
      ("notes", .array (d.notes.map .string))]

/-- Reads a diagnostic. -/
def reader : Json.Reader Diagnostic :=
  .fields "Diagnostic"
    [.of "code" .required (.oneOf (Code.all.map fun c => (c.name, c))) fun c d =>
        { d with code := c },
      .of "message" .required .string fun m d => { d with message := m },
      .of "span" .optional (.optional Span.reader) fun s d => { d with span := s },
      .of "notes" .required (.list .string) fun ns d => { d with notes := ns }]
    ⟨.empty, "", none, []⟩

end Diagnostic

end ComponentQuery
