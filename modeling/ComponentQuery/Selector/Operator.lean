/-!
# Operators

A predicate of a selector either asks whether a property is truthy or compares it with an operand.
Equality takes operands of any type.  The other comparisons are relations between texts, and each
is written with a sign of its own in front of the sign of equality.
-/

namespace ComponentQuery

/-- The relations, equality apart, that the text of a property may have to a given text. -/
inductive TextRelation where
  | contains
  | startsWith
  | endsWith
  /-- Equal to the given text, or beginning with it and a dash. -/
  | dashPrefix
  /-- Having the given text as one of its parts between spaces. -/
  | token
deriving DecidableEq, Repr

namespace TextRelation

/-- The sign that is written before that of equality. -/
def sign : TextRelation → Char
  | contains => '*'
  | startsWith => '^'
  | endsWith => '$'
  | dashPrefix => '|'
  | token => '~'

/-- The relation of a sign. -/
def ofSign? : Char → Option TextRelation
  | '*' => some contains
  | '^' => some startsWith
  | '$' => some endsWith
  | '|' => some dashPrefix
  | '~' => some token
  | _ => none

@[simp] theorem ofSign?_sign (r : TextRelation) : ofSign? r.sign = some r := by
  cases r <;> rfl

theorem sign_of_ofSign? {c : Char} {r : TextRelation} (h : ofSign? c = some r) : r.sign = c := by
  unfold ofSign? at h
  split at h <;> simp_all [sign] <;> (subst h; rfl)

/-- The name in serialised form. -/
def name : TextRelation → String
  | contains => "contains"
  | startsWith => "starts_with"
  | endsWith => "ends_with"
  | dashPrefix => "dash_prefix"
  | token => "token_match"

end TextRelation

/-- What a predicate asks of a property. -/
inductive Operator where
  | truthy
  | equals
  | relates (r : TextRelation)
deriving DecidableEq, Repr

namespace Operator

/-- The operator in messages: as it is written in a selector, if it is. -/
def text : Operator → String
  | truthy => "<truthy>"
  | equals => "="
  | relates r => String.ofList [r.sign, '=']

/-- The name in serialised form. -/
def name : Operator → String
  | truthy => "truthy"
  | equals => "equals"
  | relates r => r.name

/-- All operators. -/
def all : List Operator :=
  [truthy, equals, relates .contains, relates .startsWith, relates .endsWith, relates .dashPrefix,
    relates .token]

/-- The operator of a text in messages. -/
def ofText? (s : String) : Option Operator := all.find? (·.text == s)

end Operator

end ComponentQuery
