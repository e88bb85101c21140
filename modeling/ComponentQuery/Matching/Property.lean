import ComponentQuery.Json.Value
import ComponentQuery.Number.Decimal

/-!
# Properties

The properties of a component are a JSON value.  A name leads from an object to the member of that
name, and from an array to the item of that index.  Nothing leads out of any other value.
`Json.resolve?` follows a path of names.

An array index is written in one way only, without sign and without leading zeros, so that every
item has one name.
-/

namespace ComponentQuery

/-! ## Paths -/

/-- The indices that an array may have are those of 64 bits. -/
def maxIndex : Nat := 0xffffffffffffffff

/-- The index that a name is. -/
def arrayIndex? (name : String) : Option Nat :=
  let cs := name.toList
  if cs = ['0'] then some 0
  else if cs ≠ [] ∧ cs.head? ≠ some '0' ∧ cs.all Char.isDigit then
    let index := Decimal.ofDigits cs
    if index ≤ maxIndex then some index else none
  else none

namespace Json

/-- The value to which a name leads. -/
def property? (v : Json) (name : String) : Option Json :=
  match v with
  | .object members => member? name members
  | .array items => (arrayIndex? name).bind (items[·]?)
  | _ => none

/-- The value to which a path leads. -/
def resolve? (v : Json) : List String → Option Json
  | [] => some v
  | name :: path => (v.property? name).bind (·.resolve? path)

@[simp] theorem resolve?_nil (v : Json) : v.resolve? [] = some v := rfl

@[simp] theorem resolve?_cons (v : Json) (name : String) (path : List String) :
    v.resolve? (name :: path) = (v.property? name).bind (·.resolve? path) := rfl

theorem resolve?_append (v : Json) (p q : List String) :
    v.resolve? (p ++ q) = (v.resolve? p).bind (·.resolve? q) := by
  induction p generalizing v with
  | nil => simp
  | cons name p ih => cases h : v.property? name <;> simp [h, ih]

end Json

/-! ## What a predicate sees -/

/-- What a predicate sees of a value: arrays and objects all look the same. -/
inductive Shape where
  | null
  | boolean (b : Bool)
  | number (x : Binary64)
  | text (s : String)
  | compound

/-- What a predicate sees of a value.  Integers that no double can hold are rounded. -/
def Json.shape : Json → Shape
  | .null => .null
  | .boolean b => .boolean b
  | .number n => .number n.toDouble
  | .string s => .text s
  | .array _ => .compound
  | .object _ => .compound

/-- Whether a value counts as true: all do but `null`, `false`, zero, what is no number, and the
empty text. -/
def Shape.isTruthy : Shape → Bool
  | .null => false
  | .boolean b => b
  | .number x => !x.isZero && !x.isNaN
  | .text s => s ≠ ""
  | .compound => true

end ComponentQuery
