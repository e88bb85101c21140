/-!
# Tables of code point ranges

A character class of the Unicode standard is a few hundred disjoint ranges in ascending order.
`RangeTable` keeps only their boundaries: every first code point and every code point just past
the end, so that a code point belongs to the class exactly when an odd number of boundaries lie
at or below it.  `RangeTable.contains` finds that number by bisection.

The classes are written down as text: the gaps between successive boundaries, each in base 26,
a lower case letter for every digit but the last and an upper case letter for the last.
`RangeTable.decode` reads that form.
-/

namespace ComponentQuery.Unicode

/-- A set of code points, as the ascending boundaries of its ranges: first code points stand at
even places, the code points just past an end at odd places. -/
structure RangeTable where
  bounds : Array Nat
deriving DecidableEq, Repr

namespace RangeTable

/-- How many of the boundaries from `lo` up to `hi` lie at or below `x`, counted from the start,
given that all before `lo` do and none from `hi` on does. -/
def rank (bounds : Array Nat) (x lo hi : Nat) : Nat :=
  if lo < hi then
    let mid := (lo + hi) / 2
    if bounds.getD mid 0 ≤ x then rank bounds x (mid + 1) hi else rank bounds x lo mid
  else lo
termination_by hi - lo

/-- Whether a code point belongs to the set. -/
def containsCode (t : RangeTable) (x : Nat) : Bool :=
  rank t.bounds x 0 t.bounds.size % 2 == 1

/-- Whether a character belongs to the set. -/
def contains (t : RangeTable) (c : Char) : Bool := t.containsCode c.toNat

/-! ## The written form -/

/-- The numbers of a written table: lower case letters are leading base 26 digits, an upper case
letter is the last digit of its number. -/
def numbers (acc : Nat) : List Char → List Nat
  | [] => []
  | c :: cs =>
    if c.isLower then numbers (acc * 26 + (c.toNat - 'a'.toNat)) cs
    else (acc * 26 + (c.toNat - 'A'.toNat)) :: numbers 0 cs

/-- Turns the written numbers, alternately the gap before a range and the range's length less
one, into boundaries; `past` is the code point just past the last range. -/
def boundaries (past : Nat) : List Nat → List Nat
  | gap :: extra :: more =>
    let first := past + gap
    first :: (first + extra + 1) :: boundaries (first + extra + 1) more
  | _ => []

/-- Reads a table from its written form. -/
def decode (text : String) : RangeTable :=
  ⟨(boundaries 0 (numbers 0 text.toList)).toArray⟩

end RangeTable

end ComponentQuery.Unicode
