import ComponentQuery.Number.Binary64

/-!
# The fewest digits that read back

A decimal is a natural number of digits times a power of ten.  Of all decimals that a double is
nearest to, `Decimal.shortest` takes one with the fewest digits, and of those the one nearest to
the double.  It tries one digit, then two, and so on up to seventeen; on each grid only the
two neighbours of the double can read back first.  A half way between both neighbours goes
by the rule that the caller names.  Were no grid to have a neighbour that reads back, the exact
decimal of the double would be taken, so that what is written always reads back.
-/

namespace ComponentQuery

/-- A decimal: `digits * 10 ^ exponent`. -/
structure Decimal where
  digits : Nat
  exponent : Int
deriving DecidableEq, Repr

namespace Decimal

/-- Where a number half way between two decimals goes. -/
inductive Tie where
  | toEven
  | up
deriving DecidableEq, Repr

/-- Whether `quanta` is what the decimal reads as. -/
def readsAs (d : Decimal) (quanta : Nat) : Bool :=
  match Binary64.ofDecimal false d.digits d.exponent with
  | .finite _ q _ => q == quanta
  | _ => false

/-- The quotient of a number of quanta and `10 ^ exponent`, as numerator and denominator. -/
def quotient (quanta : Nat) (exponent : Int) : Nat × Nat :=
  (quanta * Nat.pow 10 (-exponent).toNat,
    Nat.pow 10 exponent.toNat * Nat.pow 2 Binary64.quantumBits)

/-- An exponent `k` with the value of `quanta` below `10 ^ k` and, but for a few leading places,
not below `10 ^ (k - 1)`.  The estimate from the number of bits is off by at most one. -/
def magnitude (quanta : Nat) : Int :=
  let estimate := ((Nat.log2 quanta - Binary64.quantumBits : Int) * 30103).fdiv 100000
  let below (k : Int) : Bool := let (num, den) := quotient quanta k; num < den
  (([0, 1, 2].map (estimate + ·)).find? below).getD (estimate + 3)

/-- Of the neighbours of `num / den` on the grid of `10 ^ exponent` the one that reads as `quanta`;
of two the nearer one. -/
def neighbour? (tie : Tie) (quanta : Nat) (exponent : Int) (num den : Nat) : Option Decimal :=
  let below : Decimal := ⟨num / den, exponent⟩
  let above : Decimal := ⟨num / den + 1, exponent⟩
  match below.readsAs quanta, above.readsAs quanta with
  | true, false => some below
  | false, true => some above
  | false, false => none
  | true, true =>
    match compare (2 * (num % den)) den with
    | .lt => some below
    | .gt => some above
    | .eq => if tie = .toEven ∧ below.digits % 2 = 0 then some below else some above

/-- The neighbour of `quanta` on the grid of `10 ^ exponent` that reads back; of two the nearer
one. -/
def onGrid? (tie : Tie) (quanta : Nat) (exponent : Int) : Option Decimal :=
  neighbour? tie quanta exponent (quotient quanta exponent).1 (quotient quanta exponent).2

/-- The exact value of a number of quanta. -/
def exact (quanta : Nat) : Decimal :=
  ⟨quanta * Nat.pow 5 Binary64.quantumBits, -Binary64.quantumBits⟩

/-- A decimal without trailing zeros among its digits; `fuel` bounds their number. -/
def dropZeros : Nat → Decimal → Decimal
  | 0, d => d
  | fuel + 1, d =>
    if d.digits ≠ 0 ∧ d.digits % 10 = 0 then dropZeros fuel ⟨d.digits / 10, d.exponent + 1⟩ else d

/-- The shortest decimal that reads as `quanta`, which is not zero. -/
def shortest (tie : Tie) (quanta : Nat) : Decimal :=
  let k := magnitude quanta
  let found := (List.range 17).findSome? fun n : Nat => onGrid? tie quanta (k - (n + 1))
  let d := found.getD (exact quanta)
  dropZeros (Nat.log2 d.digits) d

/-! ## Digits as text -/

/-- The digits of a natural number. -/
def digitsText (n : Nat) : List Char := Nat.toDigits 10 n

/-- The number that a text of decimal digits denotes. -/
def ofDigits (cs : List Char) : Nat := cs.foldl (fun n c => n * 10 + (c.toNat - '0'.toNat)) 0

end Decimal

end ComponentQuery
