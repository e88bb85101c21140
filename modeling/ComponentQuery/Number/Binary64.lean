/-!
# Doubles, exactly

A finite double is a natural number of *quanta* of size `2 ^ (-1074)` together with a sign.  In
these units the doubles are the numbers below `2 ^ 2098` with at most 53 significant bits, and
arithmetic is arithmetic of natural numbers followed by one rounding: `nearestQuanta` takes a
quotient to the nearest number of quanta that fits, an exact half to the even neighbour.

The main statement is `fits_nearestQuanta`: what rounding gives has at most 53 significant bits,
so that the proof that every finite double carries can be built.
-/

namespace ComponentQuery

namespace Binary64

/-- The size of a quantum is `2 ^ (-quantumBits)`. -/
def quantumBits : Nat := 1074

/-- The number of quanta that is too large for a double. -/
def overflow : Nat := Nat.pow 2 2098

/-- At most 53 significant bits: all bits of a number of quanta beyond the 53 leading ones are
zero. -/
def Precise (quanta : Nat) : Prop := Nat.pow 2 (Nat.log2 quanta - 52) ∣ quanta

instance (quanta : Nat) : Decidable (Precise quanta) :=
  inferInstanceAs (Decidable (Nat.pow 2 (Nat.log2 quanta - 52) ∣ quanta))

/-- What a finite double can hold. -/
def Fits (quanta : Nat) : Prop := Precise quanta ∧ quanta < overflow

instance (quanta : Nat) : Decidable (Fits quanta) :=
  inferInstanceAs (Decidable (Precise quanta ∧ quanta < overflow))

end Binary64

/-- A double: no number, an infinity, or a sign and a number of quanta.  Zero has two signs. -/
inductive Binary64 where
  | nan
  | infinite (negative : Bool)
  | finite (negative : Bool) (quanta : Nat) (fits : Binary64.Fits quanta)
deriving DecidableEq

namespace Binary64

/-! ## Rounding -/

/-- The natural number nearest to a quotient, the even one of two that are equally near. -/
def roundQuotient (num den : Nat) : Nat :=
  let floor := num / den
  match compare (2 * (num % den)) den with
  | .lt => floor
  | .gt => floor + 1
  | .eq => if floor % 2 = 0 then floor else floor + 1

/-- The number with at most 53 significant bits that is nearest to a quotient.  Where the quotient
has more bits, the grid is that of its leading 53. -/
def nearestQuanta (num den : Nat) : Nat :=
  let grid := Nat.pow 2 (Nat.log2 (num / den) - 52)
  roundQuotient num (den * grid) * grid

theorem roundQuotient_le (num den : Nat) : roundQuotient num den ≤ num / den + 1 := by
  unfold roundQuotient
  dsimp only
  split
  · omega
  · omega
  · split <;> omega

/-- The leading 53 bits of a quotient, rounded, are at most `2 ^ 53`. -/
theorem roundQuotient_grid_le (num den : Nat) :
    roundQuotient num (den * Nat.pow 2 (Nat.log2 (num / den) - 52)) ≤ Nat.pow 2 53 := by
  have hle := roundQuotient_le num (den * Nat.pow 2 (Nat.log2 (num / den) - 52))
  have hlt : num / (den * Nat.pow 2 (Nat.log2 (num / den) - 52)) < Nat.pow 2 53 := by
    rw [← Nat.div_div_eq_div_mul]
    apply Nat.div_lt_of_lt_mul
    calc num / den < Nat.pow 2 (Nat.log2 (num / den) + 1) := Nat.lt_log2_self
      _ ≤ Nat.pow 2 ((Nat.log2 (num / den) - 52) + 53) :=
        Nat.pow_le_pow_right (by decide) (by omega)
      _ = Nat.pow 2 (Nat.log2 (num / den) - 52) * Nat.pow 2 53 := Nat.pow_add ..
  omega

/-- A multiple `significand * 2 ^ e` with a significand of at most `2 ^ 53` is precise. -/
theorem precise_mul_pow (significand e : Nat) (h : significand ≤ Nat.pow 2 53) :
    Precise (significand * Nat.pow 2 e) := by
  unfold Precise
  by_cases hz : significand = 0
  · simp [hz]
  rcases Nat.lt_or_eq_of_le h with hlt | heq
  · have hlog : Nat.log2 (significand * Nat.pow 2 e) < 53 + e := by
      apply (Nat.log2_lt (Nat.mul_ne_zero hz (Nat.ne_of_gt (Nat.two_pow_pos e)))).2
      calc significand * Nat.pow 2 e
          < Nat.pow 2 53 * Nat.pow 2 e := Nat.mul_lt_mul_of_pos_right hlt (Nat.two_pow_pos e)
        _ = Nat.pow 2 (53 + e) := (Nat.pow_add ..).symm
    exact Nat.dvd_trans (Nat.pow_dvd_pow 2 (by omega)) (Nat.dvd_mul_left ..)
  · have hsum : Nat.pow 2 53 * Nat.pow 2 e = Nat.pow 2 (53 + e) := (Nat.pow_add ..).symm
    have hlog : Nat.log2 (Nat.pow 2 (53 + e)) = 53 + e := Nat.log2_two_pow
    rw [heq, hsum, hlog]
    exact Nat.pow_dvd_pow 2 (by omega)

theorem precise_nearestQuanta (num den : Nat) : Precise (nearestQuanta num den) :=
  precise_mul_pow _ _ (roundQuotient_grid_le num den)

/-- What rounding gives is a double unless it is too large for one. -/
theorem fits_nearestQuanta {num den : Nat} (h : nearestQuanta num den < overflow) :
    Fits (nearestQuanta num den) :=
  ⟨precise_nearestQuanta num den, h⟩

/-- The double nearest to a quotient of quanta with a sign: an infinity if the quotient rounds to
something too large. -/
def ofQuotient (negative : Bool) (num den : Nat) : Binary64 :=
  if h : nearestQuanta num den < overflow then
    .finite negative (nearestQuanta num den) (fits_nearestQuanta h)
  else .infinite negative

/-! ## Numbers as doubles -/

theorem overflow_pos : 0 < overflow := by
  unfold overflow
  generalize 2098 = e
  exact Nat.two_pow_pos e

theorem fits_zero : Fits 0 := ⟨Nat.dvd_zero _, overflow_pos⟩

/-- Zero with a sign. -/
def zero (negative : Bool) : Binary64 := .finite negative 0 fits_zero

instance : Inhabited Binary64 := ⟨zero false⟩

/-- The double nearest to an integer. -/
def ofInt (n : Int) : Binary64 :=
  ofQuotient (n < 0) (n.natAbs * Nat.pow 2 quantumBits) 1

/-- The double nearest to `digits * 10 ^ exponent`.  Exponents so large that the value is infinite,
and so small that it is zero, are settled before any power is taken. -/
def ofDecimal (negative : Bool) (digits : Nat) (exponent : Int) : Binary64 :=
  if digits = 0 then zero negative
  else if exponent > 310 then .infinite negative
  else if exponent + (Nat.log2 digits + 1) < -330 then zero negative
  else if exponent ≥ 0 then
    ofQuotient negative (digits * Nat.pow 10 exponent.toNat * Nat.pow 2 quantumBits) 1
  else ofQuotient negative (digits * Nat.pow 2 quantumBits) (Nat.pow 10 (-exponent).toNat)

/-! ## Comparison and arithmetic -/

/-- Equality of numbers: both zeros are equal, and what is no number equals nothing. -/
def eq : Binary64 → Binary64 → Bool
  | .infinite s, .infinite t => s == t
  | .finite s q _, .finite t r _ => q == r && (q == 0 || s == t)
  | _, _ => false

instance : BEq Binary64 := ⟨eq⟩

/-- Whether a double is zero, of either sign. -/
def isZero : Binary64 → Bool
  | .finite _ q _ => q == 0
  | _ => false

/-- Whether a double is no number. -/
def isNaN : Binary64 → Bool
  | .nan => true
  | _ => false

/-- The exact number of quanta, with its sign. -/
def signedQuanta (negative : Bool) (quanta : Nat) : Int := if negative then -quanta else quanta

/-- The sum, rounded once.  A sum of zero is positive unless both terms are negative zeros. -/
def add : Binary64 → Binary64 → Binary64
  | .nan, _ => .nan
  | _, .nan => .nan
  | .infinite s, .infinite t => if s = t then .infinite s else .nan
  | .infinite s, .finite .. => .infinite s
  | .finite .., .infinite t => .infinite t
  | .finite s q _, .finite t r _ =>
    let sum := signedQuanta s q + signedQuanta t r
    if sum = 0 then zero (s && t) else ofQuotient (sum < 0) sum.natAbs 1

/-- The product, rounded once. -/
def mul : Binary64 → Binary64 → Binary64
  | .nan, _ => .nan
  | _, .nan => .nan
  | .infinite s, .infinite t => .infinite (s != t)
  | .infinite s, .finite t r _ => if r = 0 then .nan else .infinite (s != t)
  | .finite s q _, .infinite t => if q = 0 then .nan else .infinite (s != t)
  | .finite s q _, .finite t r _ => ofQuotient (s != t) (q * r) (Nat.pow 2 quantumBits)

instance : Add Binary64 := ⟨add⟩

instance : Mul Binary64 := ⟨mul⟩

/-! ## The interchange format -/

/-- The number of a finite magnitude in the ascending order of all magnitudes, which is its 63 bit
code: the binade in the upper bits, the significand added to it. -/
def rank (quanta : Nat) : Nat :=
  let binade := Nat.log2 quanta - 52
  binade * Nat.pow 2 52 + quanta / Nat.pow 2 binade

/-- The bit of the sign in its place. -/
def signBit (negative : Bool) : Nat := if negative then 0x8000000000000000 else 0

/-- The 64 bit code of a double. -/
def toBits : Binary64 → Nat
  | .nan => 0x7ff8000000000000
  | .infinite s => signBit s + 0x7ff0000000000000
  | .finite s q _ => signBit s + rank q

end Binary64

end ComponentQuery
