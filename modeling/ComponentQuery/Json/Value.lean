import ComponentQuery.Number.Binary64

/-!
# JSON values

The values of JSON.  Numbers keep whether they were written as a whole number or as a double,
and the two are never equal: `1` is not `1.0`.  The members of an object are a list; a value read
from a text has them in the order of their names, each name once, which is what `Json.insert`
keeps up.
-/

namespace ComponentQuery

/-- A JSON number: an integer, or a double if it was written with a fraction or an exponent or is
too large for 64 bits. -/
inductive Json.Number where
  | integer (n : Int)
  | double (x : Binary64)
deriving DecidableEq

/-- A JSON value. -/
inductive Json where
  | null
  | boolean (b : Bool)
  | number (n : Json.Number)
  | string (s : String)
  | array (items : List Json)
  | object (members : List (String × Json))

namespace Json

instance : Inhabited Json := ⟨.null⟩

/-- The double nearest to a number. -/
def Number.toDouble : Number → Binary64
  | .integer n => .ofInt n
  | .double x => x

/-- Equality of numbers: of one kind, and equal in it. -/
def Number.eq : Number → Number → Bool
  | .integer m, .integer n => m == n
  | .double x, .double y => x == y
  | _, _ => false

mutual

/-- Equality of values, with doubles compared as numbers. -/
def eq : Json → Json → Bool
  | .null, .null => true
  | .boolean a, .boolean b => a == b
  | .number a, .number b => a.eq b
  | .string a, .string b => a == b
  | .array a, .array b => eqItems a b
  | .object a, .object b => eqMembers a b
  | _, _ => false

/-- Equality item by item. -/
def eqItems : List Json → List Json → Bool
  | [], [] => true
  | a :: as, b :: bs => eq a b && eqItems as bs
  | _, _ => false

/-- Equality member by member, names included. -/
def eqMembers : List (String × Json) → List (String × Json) → Bool
  | [], [] => true
  | (j, a) :: as, (k, b) :: bs => j == k && eq a b && eqMembers as bs
  | _, _ => false

end

instance : BEq Json := ⟨eq⟩

/-- Puts a member among members that are in the order of their names; one of the same name gives
way. -/
def insert (name : String) (value : Json) : List (String × Json) → List (String × Json)
  | [] => [(name, value)]
  | (k, v) :: rest =>
    if name = k then (name, value) :: rest
    else if name < k then (name, value) :: (k, v) :: rest
    else (k, v) :: insert name value rest

/-- An object of the given members, of which the last of a name counts. -/
def ofMembers (members : List (String × Json)) : Json :=
  .object (members.foldl (fun sorted (k, v) => insert k v sorted) [])

/-- The member of a name. -/
def member? (name : String) (members : List (String × Json)) : Option Json :=
  members.lookup name

end Json

end ComponentQuery
