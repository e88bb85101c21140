import ComponentQuery.Number.Decimal

/-!
# How doubles are written

Two texts of a double are in use.  In messages a double stands without exponent and without a
point where it has no fraction: `Binary64.plainText`.  In JSON a double always shows that it is
one, by a fraction or by an exponent, and large and small ones are written with an exponent:
`Binary64.jsonText`.  Both take the shortest digits that read back and differ in
where the digits of a number half way between two go.
-/

namespace ComponentQuery

namespace Decimal

/-- The exponent of the leading digit. -/
def leading (d : Decimal) : Int := d.exponent + (digitsText d.digits).length - 1

/-- The digits with the point in its place and no exponent; a whole number has neither point
nor fraction. -/
def positional (d : Decimal) : List Char :=
  let ds := digitsText d.digits
  if 0 ≤ d.exponent then ds ++ List.replicate d.exponent.toNat '0'
  else
    let places := (-d.exponent).toNat
    if places < ds.length then
      ds.take (ds.length - places) ++ '.' :: ds.drop (ds.length - places)
    else ['0', '.'] ++ List.replicate (places - ds.length) '0' ++ ds

/-- One digit, the others as a fraction, and the exponent with its sign. -/
def scientific (d : Decimal) : List Char :=
  let e := d.leading
  let mantissa :=
    match digitsText d.digits with
    | [] => []
    | [c] => [c]
    | c :: more => c :: '.' :: more
  mantissa ++ ['e', if e < 0 then '-' else '+'] ++ digitsText e.natAbs

/-- The positional form with a fraction, be it zero. -/
def positionalWithFraction (d : Decimal) : List Char :=
  if 0 ≤ d.exponent then d.positional ++ ['.', '0'] else d.positional

end Decimal

namespace Binary64

/-- The sign of a negative number. -/
def signText (negative : Bool) : List Char := if negative then ['-'] else []

/-- A double in a message: never an exponent, no fraction where it is zero, a half goes up. -/
def plainText : Binary64 → String
  | .nan => "NaN"
  | .infinite s => String.ofList (signText s ++ "Infinity".toList)
  | .finite s q _ =>
    String.ofList (signText s ++
      if q = 0 then ['0'] else (Decimal.shortest .up q).positional)

/-- The exponents of the leading digit with which JSON writes a double without exponent. -/
def isPlainInJson (e : Int) : Bool := -5 ≤ e && e ≤ 15

/-- A double in JSON, which has no way to write infinities and what is no number: both are `null`.
A half goes to the even digit. -/
def jsonText : Binary64 → List Char
  | .nan => "null".toList
  | .infinite _ => "null".toList
  | .finite s q _ =>
    signText s ++
      if q = 0 then ['0', '.', '0']
      else
        let d := Decimal.shortest .toEven q
        if isPlainInJson d.leading then d.positionalWithFraction else d.scientific

end Binary64

end ComponentQuery
