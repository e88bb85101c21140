import ComponentQuery.Number.Decimal

/-!
# Numeric literals

The numbers that a selector may write without quotes: signed decimal numbers with an optional
fraction and exponent, signed `Infinity`, and unsigned whole numbers in base 16, 8 or 2.
`numericLiteral?` reads one from the whole of a token.
-/

namespace ComponentQuery

/-! ## Whole numbers in other bases -/

/-- The value of a digit in a base up to sixteen. -/
def digitValue? (base : Nat) (c : Char) : Option Nat :=
  let value? :=
    if c.isDigit then some (c.toNat - '0'.toNat)
    else if 'a' ≤ c ∧ c ≤ 'f' then some (c.toNat - 'a'.toNat + 10)
    else if 'A' ≤ c ∧ c ≤ 'F' then some (c.toNat - 'A'.toNat + 10)
    else none
  value?.filter (· < base)

/-- The base that a letter after a leading zero announces. -/
def baseOfLetter? : Char → Option Nat
  | 'x' | 'X' => some 16
  | 'o' | 'O' => some 8
  | 'b' | 'B' => some 2
  | _ => none

/-- The digits of a number in some base, taken one after the other: each step multiplies by the base
and adds the digit, and rounds after both. -/
def foldDigits? (base : Nat) (acc : Binary64) : List Char → Option Binary64
  | [] => some acc
  | c :: cs =>
    match digitValue? base c with
    | none => none
    | some d => foldDigits? base (acc * .ofInt base + .ofInt d) cs

/-- A whole number in base 16, 8 or 2: a zero, the letter of the base, and at least one digit. -/
def baseLiteral? : List Char → Option Binary64
  | '0' :: letter :: c :: cs =>
    match baseOfLetter? letter with
    | none => none
    | some base => foldDigits? base (.zero false) (c :: cs)
  | _ => none

/-! ## Decimal numbers -/

/-- Splits a text at the first character of a kind, which belongs to neither part. -/
def splitAtFirst (p : Char → Bool) (cs : List Char) : List Char × Option (List Char) :=
  (cs.takeWhile (!p ·), (cs.dropWhile (!p ·)).tail?)

/-- The exponent of a decimal number: digits after an optional sign. -/
def exponent? (cs : List Char) : Option Int :=
  let (negative, ds) :=
    match cs with
    | '-' :: rest => (true, rest)
    | '+' :: rest => (false, rest)
    | _ => (false, cs)
  if ds ≠ [] ∧ ds.all Char.isDigit then
    some (if negative then -(Decimal.ofDigits ds : Int) else Decimal.ofDigits ds)
  else none

/-- A decimal number without sign: digits with at most one point among or around them, then
perhaps an exponent. -/
def unsignedDecimal? (cs : List Char) : Option Decimal :=
  let (mantissa, power) := splitAtFirst (fun c => c == 'e' || c == 'E') cs
  let (whole, fraction) := splitAtFirst (· == '.') mantissa
  let ds := whole ++ fraction.getD []
  if ds ≠ [] ∧ ds.all Char.isDigit then
    match power with
    | none => some ⟨Decimal.ofDigits ds, -((fraction.getD []).length : Int)⟩
    | some e => (exponent? e).map fun e =>
      ⟨Decimal.ofDigits ds, e - (fraction.getD []).length⟩
  else none

/-- An infinity or a decimal number, of the given sign. -/
def magnitudeLiteral? (negative : Bool) (cs : List Char) : Option Binary64 :=
  if cs = "Infinity".toList then some (.infinite negative)
  else (unsignedDecimal? cs).map fun d => .ofDecimal negative d.digits d.exponent

/-- The number that a token denotes, none if it is no numeric literal. -/
def numericLiteral? (token : List Char) : Option Binary64 :=
  match baseLiteral? token with
  | some x => some x
  | none =>
    match token with
    | '-' :: rest => magnitudeLiteral? true rest
    | '+' :: rest => magnitudeLiteral? false rest
    | _ => magnitudeLiteral? false token

end ComponentQuery
