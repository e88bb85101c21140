import ComponentQuery.Json.Reader
import ComponentQuery.Json.Text
import ComponentQuery.Selector.Config
import ComponentQuery.Selector.Predicate

/-!
# Selectors and settings as JSON

The serialised form of selectors, which is only written, and that of settings, which is written and
read.  A regular expression is written in its written form, and a double that JSON cannot
write as `null`.
-/

namespace ComponentQuery

/-- An operator as JSON. -/
def Operator.toJson (op : Operator) : Json := .string op.name

/-- An operand as JSON. -/
def Operand.toJson : Operand → Json
  | .text s => .object [("type", .string "string"), ("value", .string s)]
  | .number x => .object [("type", .string "number"), ("value", .number (.double x))]
  | .boolean b => .object [("type", .string "boolean"), ("value", .boolean b)]
  | .regex r => .object [("type", .string "regex"), ("value", .string r.text)]

/-- A comparison as JSON. -/
def Comparison.toJson (c : Comparison) : Json :=
  let op := ("op", c.operator.toJson)
  match c with
  | truthy => .object [op]
  | equals operand => .object [op, ("value", operand.toJson)]
  | relates _ s => .object [op, ("value", .string s)]

/-- A predicate as JSON. -/
def Predicate.toJson (p : Predicate) : Json :=
  .object
    [("name", .string p.name),
      ("json_path", .array (p.path.map .string)),
      ("comparison", p.comparison.toJson),
      ("case_sensitive", .boolean p.caseSensitive)]

/-- A selector as JSON. -/
def Selector.toJson (s : Selector) : Json :=
  .object [("name", .string s.name), ("attributes", .array (s.predicates.map Predicate.toJson))]

namespace Config

/-- Settings as JSON. -/
def toJson (c : Config) : Json :=
  .object [("allow_unquoted_strings", .boolean c.allowUnquotedStrings)]

/-- Reads settings; those that are left out are the usual ones. -/
def reader : Json.Reader Config :=
  .fields "EngineConfig"
    [.of "allow_unquoted_strings" .defaulted .boolean fun b _ => ⟨b⟩]
    {}

end Config

end ComponentQuery
