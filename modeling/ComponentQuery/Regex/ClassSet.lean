import ComponentQuery.Unicode.Fold
import ComponentQuery.Unicode.Property

/-!
# Sets of characters in a pattern

What a bracket expression accepts, as a tree of ranges, property sets, unions and the three
set operations.  A pattern that ignores case accepts a character when it accepts one of its
case variants; the question is put once to every bracket, before it is negated, and to the two
sides of every operation, so that a negated bracket accepts no variant of what it excludes.
-/

namespace ComponentQuery.Regex

/-- The operations between sets, other than union. -/
inductive SetOperation where
  | intersection
  | difference
  | symmetricDifference
deriving DecidableEq, Repr

/-- A set of characters as a pattern describes it. -/
inductive ClassSet where
  | empty
  | range (first last : Nat)
  | property (s : Unicode.CharSet)
  | union (a b : ClassSet)
  | combine (op : SetOperation) (a b : ClassSet)
  /-- What stands between brackets, or all that does not. -/
  | bracket (negated : Bool) (inside : ClassSet)
deriving Repr

namespace ClassSet

/-- The set of one character. -/
def single (c : Char) : ClassSet := .range c.toNat c.toNat

/-- The union of some sets. -/
def unions (sets : List ClassSet) : ClassSet := sets.foldr .union .empty

/-- Whether a test holds of a code point or, if case is ignored, of a variant of it. -/
def someVariant (ignoreCase : Bool) (test : Nat → Bool) (x : Nat) : Bool :=
  if ignoreCase then (Unicode.caseVariants x).any test else test x

/-- Whether a code point belongs to a set. -/
def contains (ignoreCase : Bool) : ClassSet → Nat → Bool
  | .empty, _ => false
  | .range first last, x => first ≤ x && x ≤ last
  | .property s, x => s.containsCode x
  | .union a b, x => a.contains ignoreCase x || b.contains ignoreCase x
  | .combine op a b, x =>
    let inA := someVariant ignoreCase (a.contains ignoreCase) x
    let inB := someVariant ignoreCase (b.contains ignoreCase) x
    match op with
    | .intersection => inA && inB
    | .difference => inA && !inB
    | .symmetricDifference => inA != inB
  | .bracket negated inside, x =>
    someVariant ignoreCase (inside.contains ignoreCase) x != negated

/-! ## Shorthand classes -/

/-- The decimal digits of all scripts. -/
def digit : ClassSet := .property Unicode.CharSet.digits

/-- The blanks. -/
def space : ClassSet :=
  unions [.range 0x09 0x0d, .range 0x20 0x20, .range 0x85 0x85, .range 0xa0 0xa0,
    .range 0x1680 0x1680, .range 0x2000 0x200a, .range 0x2028 0x2029, .range 0x202f 0x202f,
    .range 0x205f 0x205f, .range 0x3000 0x3000]

/-- The characters of words. -/
def word : ClassSet := .property Unicode.CharSet.wordCharacters

/-- The digits of base 16. -/
def hexDigit : ClassSet := unions [.range 0x30 0x39, .range 0x41 0x46, .range 0x61 0x66]

/-- A range between two ASCII characters. -/
def between (first last : Char) : ClassSet := .range first.toNat last.toNat

/-- The named classes, all within ASCII. -/
def named? (name : List Char) : Option ClassSet :=
  let upper := between 'A' 'Z'
  let lower := between 'a' 'z'
  let digit := between '0' '9'
  let named : List (String × ClassSet) :=
    [("alnum", unions [digit, upper, lower]), ("alpha", unions [upper, lower]),
     ("ascii", .range 0x00 0x7f), ("blank", unions [single '\t', single ' ']),
     ("cntrl", unions [.range 0x00 0x1f, .range 0x7f 0x7f]), ("digit", digit),
     ("graph", between '!' '~'), ("lower", lower), ("print", between ' ' '~'),
     ("punct",
       unions [between '!' '/', between ':' '@', .range 0x5b 0x60, .range 0x7b 0x7e]),
     ("space", unions [.range 0x09 0x0d, single ' ']), ("upper", upper),
     ("word", unions [digit, upper, lower, single '_']),
     ("xdigit", hexDigit)]
  named.lookup (String.ofList name)

end ClassSet

end ComponentQuery.Regex
